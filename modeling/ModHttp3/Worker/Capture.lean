import ModHttp3.Config.Directives
import ModHttp3.Session.BodyBuffer
import ModHttp3.Worker.Modes

/-!
# The limit on response bodies

With `H3MaxResponseBodySize` set, the filter collects the body in a buffer and the tail of the
worker sends it, or a fixed answer if the body is larger than the limit.
`DataHeap.captureBodyBucket` is `capture_body_bucket` down to its memory operations: it returns
`none` when a copy leaves the buffer, when the subtraction of the limit check, the sum of the
lengths or the doubling of the capacity wraps in `size_t`, or when the doubling does not come to its
end. `DataHeap.Holds` ties the buffer to the context of the worker model.

`Limited` says what a buffering worker has submitted and queued in any run: nothing before its tail,
and then the header block and a part of the body of one of the two answers, chosen by the total of
the body. `response_limit_all_or_nothing` puts both together.
-/

namespace ModHttp3.Worker
open ModHttp3.Lib ModHttp3.Response
open ModHttp3.H3 (bodyBufInitCap)
open ModHttp3.Dispatch (Settled step_settled)

/-- The fields of `h3_conn_ctx_t` that hold a buffered body. -/
structure DataHeap where
  dataheap : Block
  dataheaplen : Nat
  dataheapcap : Nat
  responseTooLarge : Bool

namespace DataHeap

/-- No body yet: a null pointer and zeros. -/
def init : DataHeap where
  dataheap := []
  dataheaplen := 0
  dataheapcap := 0
  responseTooLarge := false

/-- `ctx->dataheaplen > limit || len > limit - ctx->dataheaplen`. -/
def exceeds (limit len : Nat) (h : DataHeap) : Option Bool :=
  if h.dataheaplen > limit then
    some true
  else do
    let room ← checkedSub limit h.dataheaplen
    some (decide (len > room))

/-- `ctx->dataheapcap ? ctx->dataheapcap * 2 : H3_BODY_BUF_INIT_CAP`. -/
def firstCap (h : DataHeap) : Option Nat :=
  if h.dataheapcap ≠ 0 then checkedMul h.dataheapcap 2 else some bodyBufInitCap

/-- A new block with what is stored in the old one. -/
def copyHeap (newCap : Nat) (h : DataHeap) : Option Block :=
  if h.dataheaplen > 0 then do
    let stored ← h.dataheap.read h.dataheaplen
    (Block.alloc newCap).write 0 stored
  else
    some (Block.alloc newCap)

/-- Make room for `newLen` bytes. -/
def grow (newLen : Nat) (h : DataHeap) : Option DataHeap :=
  if newLen > h.dataheapcap then do
    let newCap ← h.firstCap
    let newCap ← doubleUntil (newLen + 1) newCap newLen
    let newHeap ← h.copyHeap newCap
    some { h with dataheap := newHeap, dataheapcap := newCap }
  else
    some h

/-- Buffer what was read of a data bucket (C `capture_body_bucket` after a successful
`apr_bucket_read`). -/
def captureBodyBucket (limit : Nat) (h : DataHeap) (data : List UInt8) : Option DataHeap :=
  if h.responseTooLarge then
    some h
  else if data = [] then
    some h
  else do
    if ← h.exceeds limit data.length then
      some { h with responseTooLarge := true }
    else
      let newLen ← checkedAdd h.dataheaplen data.length
      let h ← h.grow newLen
      let heap ← h.dataheap.write h.dataheaplen data
      some { h with dataheap := heap, dataheaplen := newLen }

/-- The buffer holds the body of the context. -/
structure Holds (h : DataHeap) (ctx : Ctx) : Prop where
  heap : h.dataheap.Starts ctx.dataheap
  len : h.dataheaplen = ctx.dataheap.length
  block : h.dataheap.length = h.dataheapcap
  latch : h.responseTooLarge = ctx.responseTooLarge

section
variable {h h' : DataHeap} {ctx : Ctx} {newLen limit : Nat} {data : List UInt8}

/-- The bytes in the buffer are within its capacity. -/
lemma Holds.len_le_cap (hold : h.Holds ctx) : h.dataheaplen ≤ h.dataheapcap := by
  rw [hold.len, ← hold.block]
  exact hold.heap.length_le

/-- What is stored is copied into a block with room for it. -/
lemma Holds.copyHeap (hold : h.Holds ctx) (cap : Nat) (room : h.dataheaplen ≤ cap) :
    ∃ b, h.copyHeap cap = some b ∧ b.length = cap ∧ b.Starts ctx.dataheap := by
  rw [DataHeap.copyHeap]
  split
  · obtain ⟨b, write, length, starts⟩ :=
      (Block.Starts.nil (b := Block.alloc cap)).write ctx.dataheap
      (by rw [Block.alloc_length, List.length_nil, ← hold.len]; omega)
    rw [Block.alloc_length] at length
    refine ⟨b, ?_, length, starts⟩
    rw [hold.len, hold.heap.read, Option.bind_eq_bind, Option.bind_some]
    exact write
  · rename_i zero
    have empty : ctx.dataheap = [] := List.length_eq_zero_iff.mp (by rw [← hold.len]; omega)
    rw [empty]
    exact ⟨_, rfl, Block.alloc_length cap, .nil⟩

/-- Growing keeps what is stored and makes room. -/
lemma Holds.grow (hold : h.Holds ctx) (small : newLen ≤ 2 ^ 31) :
    ∃ h', h.grow newLen = some h' ∧ h'.Holds ctx ∧ newLen ≤ h'.dataheapcap := by
  rw [DataHeap.grow]
  split
  · have first : ∃ c, h.firstCap = some c ∧ 0 < c := by
      rw [firstCap]
      split
      · exact ⟨_, checkedMul_of_lt (by omega), by omega⟩
      · exact ⟨_, rfl, by decide⟩
    obtain ⟨c, start, pos⟩ := first
    obtain ⟨cap, double, enough, -⟩ := doubleUntil_spec newLen newLen pos (by omega) (by omega)
    have len := hold.len_le_cap
    obtain ⟨b, copied, length, starts⟩ := hold.copyHeap cap (by omega)
    simp only [start, double, copied, Option.bind_eq_bind, Option.bind_some]
    exact ⟨_, rfl, ⟨starts, hold.len, length, hold.latch⟩, enough⟩
  · rename_i enough
    exact ⟨h, rfl, hold, Nat.not_lt.mp enough⟩

/-- The limit check does not wrap. -/
lemma Holds.exceeds (hold : h.Holds ctx) (len : Nat) :
    h.exceeds limit len =
      some (decide (ctx.dataheap.length > limit ∨ len > limit - ctx.dataheap.length)) := by
  rw [DataHeap.exceeds, hold.len]
  split
  · rename_i above
    rw [decide_eq_true (.inl above)]
  · rename_i within
    rw [checkedSub_of_le (Nat.not_lt.mp within), Option.bind_eq_bind, Option.bind_some]
    congr 2
    exact propext ⟨.inr, fun h => h.resolve_left within⟩

/-- `capture_body_bucket` stays inside its block, wraps nowhere, comes to its end, and stores what
the worker model says. -/
lemma Holds.captureBodyBucket (hold : h.Holds ctx) (unset : ctx.responseTooLarge = false)
    (small : ctx.maxResponseBodySize ≤ 2 ^ 31) (data : List UInt8) :
    ∃ h', h.captureBodyBucket ctx.maxResponseBodySize data = some h' ∧
      h'.Holds (Worker.captureBodyBucket ctx data) := by
  rw [DataHeap.captureBodyBucket, Worker.captureBodyBucket,
    if_neg (by rw [hold.latch, unset]; exact Bool.false_ne_true)]
  by_cases empty : data = []
  · rw [if_pos empty, if_pos empty]
    exact ⟨h, rfl, hold⟩
  rw [if_neg empty, if_neg empty, hold.exceeds, Option.bind_eq_bind, Option.bind_some]
  by_cases beyond : ctx.dataheap.length > ctx.maxResponseBodySize ∨
      data.length > ctx.maxResponseBodySize - ctx.dataheap.length
  · rw [decide_eq_true beyond, if_pos rfl, if_pos beyond]
    exact ⟨_, rfl, ⟨hold.heap, hold.len, hold.block, rfl⟩⟩
  rw [decide_eq_false beyond, if_neg Bool.false_ne_true, if_neg beyond]
  have fits : ctx.dataheap.length + data.length ≤ ctx.maxResponseBodySize := by omega
  rw [hold.len, checkedAdd_of_lt (by omega), Option.bind_eq_bind, Option.bind_some]
  obtain ⟨h1, eq, hold1, enough⟩ := hold.grow (Nat.le_trans fits small)
  obtain ⟨heap, write, length, starts⟩ := hold1.heap.write data (by rw [hold1.block]; exact enough)
  simp only [eq, hold1.len, write, Option.bind_eq_bind, Option.bind_some]
  exact ⟨_, rfl, starts, List.length_append.symm, length.trans hold1.block, hold1.latch⟩

end

end DataHeap

/-- The last response bucket, if `resp` came before. -/
def lastResponse (resp : Option Resp) : List Bucket → Option Resp
  | [] => resp
  | .response resp :: bb => lastResponse (some resp) bb
  | _ :: bb => lastResponse resp bb

/-- The bytes the tail still has to queue. -/
def Phase.tailData : Phase → List UInt8
  | .tailAppending data => data
  | _ => []

/-- What a buffering worker has done about the response: `bb` are the buckets it was passed, `read`
the bytes it read out of them, `hs` the header blocks it passed to nghttp3 and `sent` the bytes it
queued. -/
structure Limited (bb : List Bucket) (read : List UInt8) (hs : List Head) (sent : List UInt8)
    (w : Responder) :
    Prop where
  resp : lastResponse w.ctx.resp (reached w.phase.buckets) = lastResponse none bb
  body : w.ctx.responseTooLarge = false → read ++ content (reached w.phase.buckets) = content bb
  part : read <+: content bb
  waiting : w.phase.early = true → hs = [] ∧ sent = []
  heads : w.phase.early = false → hs <+: [(tailResponse w.ctx).1]
  sent : w.phase.early = false → sent ++ w.phase.tailData <+: (tailResponse w.ctx).2

section
variable {es : List Event} {e : Event} {w w' : Responder} {s s' : Stream} {a : Answer} {act : Act}
  {st st' : State}
  {bb : List Bucket} {read sent : List UInt8} {hs : List Head} {max : Nat}

/-- The bytes of two brigades in a row. -/
lemma content_append (xs ys : List Bucket) : content (xs ++ ys) = content xs ++ content ys :=
  List.flatMap_append

/-- The last response bucket of two brigades in a row. -/
lemma lastResponse_append (resp : Option Resp) (xs ys : List Bucket) :
    lastResponse resp (xs ++ ys) = lastResponse (lastResponse resp xs) ys := by
  induction xs generalizing resp with
  | nil => rfl
  | cons b xs ih =>
    cases b with
    | _ => exact ih _

/-- The buckets ahead once part of a data bucket was read. -/
lemma reached_splitOff (c : List UInt8) (n : Nat) (bb : List Bucket) (resp : Option Resp) :
    content (reached (splitOff c n bb)) = c.drop n ++ content (reached bb) ∧
      lastResponse resp (reached (splitOff c n bb)) = lastResponse resp (reached bb) := by
  rw [splitOff]
  split
  · exact ⟨rfl, rfl⟩
  · rename_i all
    rw [List.drop_eq_nil_of_le (Nat.not_lt.mp all)]
    exact ⟨rfl, rfl⟩

/-- A fresh worker. -/
lemma Limited.init (max : Nat) : Limited [] [] [] [] ⟨.init max, .handler⟩ where
  resp := rfl
  body _ := rfl
  part := List.prefix_rfl
  waiting _ := ⟨rfl, rfl⟩
  heads := nofun
  sent := nofun

/-- A step in front of the tail that reads nothing. -/
lemma Limited.glide (h : Limited bb read hs sent w) {resp : Option Resp} {phase : Phase}
    (early : w.phase.early = true) (early' : phase.early = true)
    (same : lastResponse resp (reached phase.buckets) =
      lastResponse w.ctx.resp (reached w.phase.buckets))
    (rest : w.ctx.responseTooLarge = true ∨ content (reached phase.buckets) =
      content (reached w.phase.buckets)) :
    Limited bb read hs sent ⟨{ w.ctx with resp := resp }, phase⟩ where
  resp := same.trans h.resp
  body small := by
    rcases rest with large | rest
    · rw [large] at small
      cases small
    · dsimp only
      rw [rest]
      exact h.body small
  part := h.part
  waiting _ := h.waiting early
  heads late := by
    rw [early'] at late
    cases late
  sent late := by
    rw [early'] at late
    cases late

/-- The handler passes a brigade. -/
lemma Limited.brigade (h : Limited bb read hs sent w) (hp : w.phase = .handler)
    (more : List Bucket) :
    Limited (bb ++ reached more) read hs sent { w with phase := .filtering more } where
  resp := by
    have resp := h.resp
    rw [hp] at resp
    rw [lastResponse_append, ← resp]
    rfl
  body small := by
    have body := h.body small
    rw [hp] at body
    rw [content_append, ← body]
    simp [Phase.buckets, reached]
  part := h.part.trans (by rw [content_append]; exact List.prefix_append _ _)
  waiting _ := h.waiting (by rw [hp]; rfl)
  heads := nofun
  sent := nofun

/-- Part of a data bucket is read. -/
lemma Limited.capture (h : Limited bb read hs sent w) {c : List UInt8} {more : List Bucket}
    {n : Nat} (hl : w.ctx.responseTooLarge = false) (hp : w.phase = .filtering (.data c :: more)) :
    Limited bb (read ++ c.take n) hs sent
      ⟨captureBodyBucket w.ctx (c.take n), .filtering (splitOff c n more)⟩ := by
  have body := h.body hl
  have resp := h.resp
  rw [hp] at body resp
  have all : read ++ c.take n ++ content (reached (splitOff c n more)) = content bb := by
    rw [(reached_splitOff c n more none).1, List.append_assoc, ← List.append_assoc (c.take n),
      List.take_append_drop]
    exact body
  refine ⟨?_, fun _ => all, ?_, fun _ => h.waiting (by rw [hp]; rfl), nofun, nofun⟩
  · have kept : (captureBodyBucket w.ctx (c.take n)).resp = w.ctx.resp := by
      rcases captureBodyBucket_cases w.ctx (c.take n) with ⟨-, eq⟩ | eq | eq
      · rw [eq]
      · rw [eq]
      · rw [eq]
    dsimp only
    rw [kept, Phase.buckets, (reached_splitOff c n more _).2]
    exact resp
  · rw [← all]
    exact List.prefix_append _ _

/-- A step of the tail, which passes on header blocks and bytes of the answer only. -/
lemma Limited.late (h : Limited bb read hs sent w) {phase : Phase} {hs' : List Head}
    {sent' : List UInt8} (spent : w.phase.buckets = []) (spent' : phase.buckets = [])
    (late : phase.early = false) (heads : hs' <+: [(tailResponse w.ctx).1])
    (queued : sent' ++ phase.tailData <+: (tailResponse w.ctx).2) :
    Limited bb read hs' sent' { w with phase } where
  resp := by
    have resp := h.resp
    rw [spent] at resp
    dsimp only
    rw [spent']
    exact resp
  body small := by
    have body := h.body small
    rw [spent] at body
    dsimp only
    rw [spent']
    exact body
  part := h.part
  waiting early := by
    rw [late] at early
    cases early
  heads _ := heads
  sent _ := queued

/-- The tail submits its answer. -/
lemma Limited.submit (h : Limited bb read hs sent w) (hp : w.phase = .tail) (status : Status)
    (called : Bool) :
    Limited bb read (hs ++ (if called then [(tailResponse w.ctx).1] else [])) sent
      { w with
        phase :=
          if status = .success then
            if (tailResponse w.ctx).2 = [] then .tailCompleting else .tailAppending
            (tailResponse w.ctx).2
          else .tailCompleting } := by
  obtain ⟨rfl, rfl⟩ := h.waiting (by rw [hp]; rfl)
  have heads : [] ++ (if called then [(tailResponse w.ctx).1] else []) <+:
      [(tailResponse w.ctx).1] := by
    cases called with
    | true => exact List.prefix_rfl
    | false => exact List.nil_prefix
  refine h.late (by rw [hp]; rfl) ?_ ?_ heads ?_
  · split_ifs <;> rfl
  · split_ifs <;> rfl
  · split_ifs
    · exact List.nil_prefix
    · exact List.prefix_rfl
    · exact List.nil_prefix

/-- A turn of the append of the tail. -/
lemma Limited.append (h : Limited bb read hs sent w) {data : List UInt8}
    (hp : w.phase = .tailAppending data) (a : Answer) (ret : AppendRet) :
    Limited bb read hs (sent ++ (Event.worker a (.append data ret)).queued)
      { w with phase := afterTurn data .tailAppending .tailCompleting .tailCompleting ret } := by
  have spent : w.phase.buckets = [] := by
    rw [hp]
    rfl
  have late : w.phase.early = false := by
    rw [hp]
    rfl
  have left := h.sent late
  rw [hp, Phase.tailData] at left
  cases ret with
  | wait =>
    rw [Event.queued, List.append_nil]
    · exact h.late spent rfl rfl (h.heads late) left
    · rintro _ _ _ _ ⟨⟩
  | ret status =>
    rw [Event.queued, List.append_nil]
    · refine h.late spent rfl rfl (h.heads late) ?_
      rw [afterTurn, Phase.tailData, List.append_nil]
      · exact (List.prefix_append _ _).trans left
      · rintro _ ⟨⟩
    · rintro _ _ _ _ ⟨⟩
  | chunk n submitted =>
    have split : sent ++ data.take n ++ data.drop n <+: (tailResponse w.ctx).2 := by
      rw [List.append_assoc, List.take_append_drop]
      exact left
    rw [Event.queued, afterTurn]
    split
    · refine h.late spent rfl rfl (h.heads late) ?_
      rw [Phase.tailData, List.append_nil]
      · exact (List.prefix_append _ _).trans split
      · rintro _ ⟨⟩
    · exact h.late spent rfl rfl (h.heads late) split

/-- A step that neither passes a brigade nor reads, submits or queues anything. -/
structure Quiet (e : Event) : Prop where
  brigade : e.brigade = []
  captured : e.capture = none
  head : e.head = none
  queued : e.queued = []

/-- A step that does nothing about the response leaves what was done. -/
lemma Quiet.limited (quiet : Quiet e) (h : Limited bb read hs sent w) :
    Limited (bb ++ reached e.brigade) (read ++ e.capture.getD []) (hs ++ e.head.toList)
      (sent ++ e.queued) w := by
  rw [quiet.brigade, quiet.captured, quiet.head, quiet.queued, Option.getD_none, reached]
  simpa using h

/-- Every step of a buffering worker whose reads succeed. -/
lemma Limited.worker (h : Limited bb read hs sent w) (buffering : Buffering max es w)
    (moves : Moves w s a w' s' act) (ok : a ≠ .read .failed) :
    Limited (bb ++ reached (Event.worker a act).brigade)
      (read ++ (Event.worker a act).capture.getD [])
      (hs ++ (Event.worker a act).head.toList) (sent ++ (Event.worker a act).queued) w' := by
  have mode : w.ctx.streaming ≠ true := by
    rw [buffering.mode]
    exact Bool.false_ne_true
  have streams := buffering.phase
  cases moves with
  | @brigade more hp =>
    have next := h.brigade hp more
    simpa [Event.capture, Event.head, Event.queued, Event.brigade] using next
  | finished hp | brigadeEnd hp | error hp =>
    apply Quiet.limited ⟨rfl, rfl, rfl, rfl⟩
    exact h.glide (by rw [hp]; rfl) rfl (by rw [hp]; rfl) (.inr (by rw [hp]; rfl))
  | response _ hp =>
    apply Quiet.limited ⟨rfl, rfl, rfl, rfl⟩
    exact h.glide (by rw [hp]; rfl) rfl (by rw [hp]; rfl) (.inr (by rw [hp]; rfl))
  | skipData _ hl hp =>
    apply Quiet.limited ⟨rfl, rfl, rfl, rfl⟩
    exact h.glide (by rw [hp]; rfl) rfl (by rw [hp]; rfl) (.inl hl)
  | captureFailed => exact absurd rfl ok
  | @capture _ _ n _ hl hp =>
    have next := h.capture (n := n) hl hp
    simpa [Event.capture, Event.head, Event.queued, Event.brigade, reached] using next
  | skip skipped hp =>
    apply Quiet.limited ⟨rfl, rfl, rfl, rfl⟩
    rcases skipped with rfl | ⟨_, rfl | rfl⟩
    all_goals exact h.glide (by rw [hp]; rfl) rfl (by rw [hp]; rfl) (.inr (by rw [hp]; rfl))
  | @submit _ _ _ _ _ _ status called site eq =>
    cases site with
    | response hs | data hs | flush hs | eos hs => exact absurd hs mode
    | tail hp =>
      have next := h.submit hp status called
      cases called with
      | true => simpa [Event.capture, Event.head, Event.queued, Event.brigade, reached] using next
      | false => simpa [Event.capture, Event.head, Event.queued, Event.brigade, reached] using next
  | readFailed hp | read hp | complete hp =>
    rw [hp] at streams
    cases streams
  | @append _ _ _ _ malloc _ ret site =>
    cases site with
    | filter hp =>
      rw [hp] at streams
      cases streams
    | tail hp =>
      have next := h.append hp (.append malloc) ret
      simpa only [Event.capture, Event.head, Event.brigade, reached, Option.getD_none,
        Option.toList_none, List.append_nil] using next
  | waitFailed site =>
    cases site with
    | filter hp =>
      rw [hp] at streams
      cases streams
    | tail hp =>
      have late : w.phase.early = false := by
        rw [hp]
        rfl
      apply Quiet.limited ⟨rfl, rfl, rfl, rfl⟩
      refine h.late (by rw [hp]; rfl) rfl rfl (h.heads late) ?_
      have left := h.sent late
      rw [hp] at left
      rw [Phase.tailData, List.append_nil]
      · exact (List.prefix_append _ _).trans left
      · rintro _ ⟨⟩
  | tailComplete hp =>
    have late : w.phase.early = false := by
      rw [hp]
      rfl
    apply Quiet.limited ⟨rfl, rfl, rfl, rfl⟩
    refine h.late (by rw [hp]; rfl) rfl rfl (h.heads late) ?_
    have left := h.sent late
    rw [hp] at left
    exact left

/-- A step is one of the worker, or does nothing that the worker could see. -/
lemma Step.quiet_cases (step : Step st e st') :
    (∃ a act, e = .worker a act ∧ Moves st.worker st.stream a st'.worker st'.stream act) ∨
      (st'.worker = st.worker ∧ Quiet e) := by
  cases step with
  | worker _ eq => exact .inl ⟨_, _, rfl, step_moves eq⟩
  | _ => exact .inr ⟨rfl, rfl, rfl, rfl, rfl⟩

/-- Every run of a buffering worker whose reads succeed. -/
lemma Limited.run {limit : UInt64} (run : Run Step (State.init limit max) es st)
    (limited : max ≠ sizeMax) (reads : ∀ act, .worker (.read .failed) act ∉ es) :
    Limited (buckets es) (captured es) (Worker.heads es) (queued es) st.worker := by
  induction run with
  | nil => exact .init max
  | snoc run step ih =>
    have before := ih fun act mem => reads act (List.mem_append_left _ mem)
    rw [buckets_snoc, captured_snoc, heads_snoc, queued_snoc]
    rcases step.quiet_cases with ⟨a, act, rfl, moves⟩ | ⟨same, quiet⟩
    · refine before.worker (.run run limited) moves ?_
      rintro rfl
      exact reads act (List.mem_append_right _ (List.mem_singleton_self _))
    · rw [same]
      exact quiet.limited before

/-! ## The header blocks -/

/-- A buffering worker submits in its tail only. -/
lemma Buffering.head_tail (h : Buffering max es w) (moves : Moves w s a w' s' act) {head : Head}
    (submits : (Event.worker a act).head = Option.some head) : w.phase = .tail := by
  cases moves with
  | submit site =>
    cases site with
    | tail hp => exact hp
    | response hs | data hs | flush hs | eos hs =>
      rw [h.mode] at hs
      cases hs
  | _ => cases submits

/-- The worker comes to its tail when the handler returns. -/
lemma Moves.finishes (moves : Moves w s a w' s' act) (tail : w'.phase = .tail) :
    Event.worker a act = .worker .finished .finished := by
  cases moves with
  | finished => rfl
  | submit site =>
    cases site with
    | _ =>
      dsimp only at tail
      split_ifs at tail
  | append site =>
    rcases afterTurn_cases _ _ _ _ _ with e | e | ⟨d, e⟩ <;> rw [e] at tail <;>
      cases site <;> cases tail
  | waitFailed site =>
    cases site with
    | _ => cases tail
  | read =>
    dsimp only at tail
    split_ifs at tail
  | _ => cases tail

/-- The worker is in its tail only after the handler has returned. -/
lemma tail_finished {limit : UInt64} (run : Run Step (State.init limit max) es st)
    (tail : st.worker.phase = .tail) :
    .worker .finished .finished ∈ es := by
  refine run.invariant_hist (P := fun es st => st.worker.phase = .tail →
    .worker .finished .finished ∈ es) ?_ ?_ tail
  · intro es st e st' before step tail
    rcases step.quiet_cases with ⟨a, act, rfl, moves⟩ | ⟨same, -⟩
    · rw [moves.finishes tail]
      exact List.mem_append_right _ (List.mem_singleton_self _)
    · rw [same] at tail
      exact List.mem_append_left _ (before tail)
  · nofun

/-- A buffering worker builds its header blocks with the request record the handler leaves. -/
lemma submitted_atEnd {limit : UInt64} (run : Run Step (State.init limit max) es st)
    (limited : max ≠ sizeMax) (findToken : String → String → Bool) (rec_ : Records) :
    submitted findToken rec_ es = (heads es).map fun head => head.nva findToken rec_.atEnd := by
  induction run with
  | nil => rfl
  | @snoc st _ es e run step ih =>
    rw [submitted] at ih
    rw [submitted, gather_snoc, heads_snoc, List.map_append, ih]
    congr 1
    cases some : e.head with
    | none => rfl
    | some head =>
      rcases step.quiet_cases with ⟨a, act, rfl, moves⟩ | ⟨-, quiet⟩
      · have tail := (Buffering.run run limited).head_tail moves some
        rw [recordAt, if_pos (tail_finished run tail)]
        rfl
      · rw [quiet.head] at some
        cases some

/-! ## Responses without trouble -/

/-- A buffering worker on a stream that nobody cancels: nothing of the answer is submitted before
the tail, and all of it is submitted and queued there. -/
structure Answering (es : List Event) (st : State) : Prop where
  holds : ∃ xs, Holds st.stream xs
  cancelled : st.stream.responseCancelled = false
  len : st.stream.responseLen = (queued es).length
  waiting : st.worker.phase.early = true → st.stream.responseSubmitted = false ∧ heads es = [] ∧
    queued es = []
  heads : st.worker.phase.early = false → heads es = [(tailResponse st.worker.ctx).1]
  sent : st.worker.phase.early = false → queued es ++ st.worker.phase.tailData =
    (tailResponse st.worker.ctx).2
  left : ∀ data, st.worker.phase = .tailAppending data → data ≠ []

/-- A new worker has answered nothing. -/
lemma Answering.init (limit : UInt64) (max : Nat) : Answering [] (State.init limit max) where
  holds := ⟨[], .init limit⟩
  cancelled := rfl
  len := rfl
  waiting _ := ⟨rfl, rfl, rfl⟩
  heads := nofun
  sent := nofun
  left := nofun

/-- A step that submits and queues nothing, on a stream with the same response. -/
lemma Answering.frame (h : Answering es st) (head : e.head = none) (queued : e.queued = [])
    {s' : Stream} {reset : Bool} (holds : ∃ xs, Holds s' xs)
    (cancelled : s'.responseCancelled = st.stream.responseCancelled)
    (len : s'.responseLen = st.stream.responseLen)
    (submitted : s'.responseSubmitted = st.stream.responseSubmitted) :
    Answering (es ++ [e]) ⟨st.worker, s', reset⟩ where
  holds := holds
  cancelled := cancelled.trans h.cancelled
  len := by
    rw [queued_snoc, queued, List.append_nil]
    exact len.trans h.len
  waiting early := by
    rw [heads_silent head, queued_snoc, queued, List.append_nil]
    dsimp only
    rw [submitted]
    exact h.waiting early
  heads late := by
    rw [heads_silent head]
    exact h.heads late
  sent late := by
    rw [queued_snoc, queued, List.append_nil]
    exact h.sent late
  left := h.left

/-- A step in front of the tail. -/
lemma Answering.glide (h : Answering es st) (head : e.head = none) (queued : e.queued = [])
    {ctx : Ctx} {phase : Phase} (early : st.worker.phase.early = true)
    (early' : phase.early = true) :
    Answering (es ++ [e]) { st with worker := ⟨ctx, phase⟩ } where
  holds := h.holds
  cancelled := h.cancelled
  len := by
    rw [queued_snoc, queued, List.append_nil]
    exact h.len
  waiting _ := by
    rw [heads_silent head, queued_snoc, queued, List.append_nil]
    exact h.waiting early
  heads late := by
    rw [early'] at late
    cases late
  sent late := by
    rw [early'] at late
    cases late
  left data hp := by
    dsimp only at hp
    rw [hp] at early'
    cases early'

/-- A step of the tail that submits nothing. -/
lemma Answering.late (h : Answering es st) (head : e.head = none) {s' : Stream} {phase : Phase}
    (holds : ∃ xs, Holds s' xs) (cancelled : s'.responseCancelled = false)
    (len : s'.responseLen = (queued (es ++ [e])).length) (late : st.worker.phase.early = false)
    (late' : phase.early = false)
    (sent : queued (es ++ [e]) ++ phase.tailData = (tailResponse st.worker.ctx).2)
    (left : ∀ data, phase = .tailAppending data → data ≠ []) :
    Answering (es ++ [e]) { st with worker := ⟨st.worker.ctx, phase⟩, stream := s' } where
  holds := holds
  cancelled := cancelled
  len := len
  waiting early := by
    rw [late'] at early
    cases early
  heads _ := by
    rw [heads_silent head]
    exact h.heads late
  sent _ := sent
  left := left

/-- The tail submits the answer, and nghttp3 takes it. -/
lemma Answering.submit (h : Answering es st) (steady : Steady st) (hp : st.worker.phase = .tail)
    {status : Status} {called : Bool} (eq : submitResponseNva st.stream 0 = (s', status, called)) :
    Answering
      (es ++ [Event.worker (.submit 0) (.submit (tailResponse st.worker.ctx).1 called status)])
      { st with
        worker :=
          ⟨st.worker.ctx,
            if status = .success then
              if (tailResponse st.worker.ctx).2 = [] then .tailCompleting else .tailAppending
              (tailResponse st.worker.ctx).2
            else .tailCompleting⟩
        stream := s' } := by
  obtain ⟨unsubmitted, noHead, noByte⟩ := h.waiting (by rw [hp]; rfl)
  have live : (st.stream.gone || !st.stream.ngh3) = false := by
    simp [Stream.gone, h.cancelled, steady.aborted, steady.dead, steady.ngh3]
  rw [submitResponseNva, if_neg (by simp [unsubmitted]), if_neg (by simp [live]), if_pos rfl] at eq
  cases eq
  rw [if_pos rfl]
  obtain ⟨xs, holds⟩ := h.holds
  have unsent :
      queued
        (es ++ [Event.worker (.submit 0) (.submit (tailResponse st.worker.ctx).1 true .success)]) =
        [] := by
    rw [queued_snoc, noByte]
    rfl
  refine ⟨⟨xs, holds.frame rfl rfl rfl⟩, h.cancelled, ?_, ?_, ?_, ?_, ?_⟩
  · have len := h.len
    rw [noByte] at len
    rw [unsent]
    exact len
  · intro early
    dsimp only at early
    split_ifs at early <;> cases early
  · intro _
    rw [heads_snoc, noHead]
    rfl
  · intro _
    rw [unsent]
    dsimp only
    split_ifs with empty
    · rw [empty]
      rfl
    · rfl
  · intro data hd
    dsimp only at hd
    split_ifs at hd with empty
    cases hd
    exact empty

/-- The answers of the tail fit in memory. -/
lemma Buffering.answer_length (h : Buffering max es w) (small : max ≤ 2 ^ 31) :
    (tailResponse w.ctx).2.length ≤ 2 ^ 31 := by
  rw [tailResponse]
  cases large : w.ctx.responseTooLarge with
  | true =>
    have : oversizedMsg.length = 40 := by decide +kernel
    rw [if_pos rfl]
    dsimp only
    omega
  | false =>
    obtain ⟨heap, fits⟩ := h.small large
    rw [if_neg Bool.false_ne_true, h.mode, if_neg Bool.false_ne_true, heap]
    exact fits.trans small

/-- A turn of the append of the tail: it waits or queues a chunk, as there is memory and nobody
cancels. -/
lemma Answering.append (h : Answering es st) (steady : Steady st)
    (bound : (tailResponse st.worker.ctx).2.length ≤ 2 ^ 31) {data : List UInt8}
    (hp : st.worker.phase = .tailAppending data) {p : Ptr} {ret : AppendRet}
    (fresh : st.stream.responseQueue.mem p = none)
    (eq : streamResponseAppendStep st.stream data (some p) = some (s', ret)) :
    Answering (es ++ [Event.worker (.append (some p)) (.append data ret)])
      { st with
        worker := ⟨st.worker.ctx, afterTurn data .tailAppending .tailCompleting .tailCompleting ret⟩
        stream := s' } := by
  obtain ⟨xs, holds⟩ := h.holds
  have late : st.worker.phase.early = false := by
    rw [hp]
    rfl
  have left := h.left data hp
  have sent := h.sent late
  rw [hp, Phase.tailData] at sent
  have fresh' : ∀ a, some p = some a → st.stream.responseQueue.mem a = none := by
    rintro a ⟨⟩
    exact fresh
  obtain ⟨s'', ret'', eq', out⟩ := holds.append left fresh'
  rw [eq] at eq'
  cases eq'
  have fits := congrArg List.length sent
  rw [List.length_append, ← h.len] at fits
  cases out with
  | wait =>
    have same : queued (es ++ [Event.worker (.append (some p)) (.append data .wait)]) =
        queued es := by
      rw [queued_snoc]
      exact List.append_nil _
    refine h.late rfl ⟨xs, holds⟩ h.cancelled ?_ late rfl ?_ ?_
    · rw [same]
      exact h.len
    · rw [same]
      exact sent
    · intro d hd
      cases hd
      exact left
  | refuse gone => simp [Stream.gone, h.cancelled, steady.aborted, steady.dead, steady.ngh3] at gone
  | tooLong long =>
    have chunk := chunkLen_le st.stream data.length
    have : sizeMax = 2 ^ 64 - 1 := rfl
    omega
  | noMemory failed => cases failed
  | @chunk _ a n _ pos le holds' frame =>
    have step :
      queued
        (es ++
          [Event.worker (.append (some p)) (.append data (.chunk n st.stream.responseSubmitted))]) =
        queued es ++ data.take n := queued_snoc
    have len : sizeAdd st.stream.responseLen n = st.stream.responseLen + n :=
      sizeAdd_of_lt (by omega)
    refine h.late rfl ⟨_, holds'⟩ ?_ ?_ late ?_ ?_ ?_
    · rw [frame]
      exact h.cancelled
    · rw [step, List.length_append, List.length_take, Nat.min_eq_left le, ← h.len, ← len, frame]
    · rw [afterTurn]
      split <;> rfl
    · rw [step, afterTurn, List.append_assoc, ← sent]
      split
      · rename_i all
        rw [Phase.tailData, List.append_nil]
        · conv_rhs => rw [← List.take_append_drop n data, all, List.append_nil]
        · rintro _ ⟨⟩
      · rw [Phase.tailData, List.take_append_drop]
    · intro d hd
      rw [afterTurn] at hd
      split at hd
      · cases hd
      · rename_i more
        cases hd
        exact more

/-- Every step of a buffering worker in a run without trouble. -/
lemma Answering.worker (h : Answering es st) (steady : Steady st)
    (buffering : Buffering max es st.worker) (small : max ≤ 2 ^ 31)
    (ok : Untroubled (es ++ [Event.worker a act]))
    (fresh : ∀ p, a = .append (some p) → st.stream.responseQueue.mem p = none)
    (moves : Moves st.worker st.stream a w' s' act) :
    Answering (es ++ [Event.worker a act]) { st with worker := w', stream := s' } := by
  have mode : st.worker.ctx.streaming ≠ true := by
    rw [buffering.mode]
    nofun
  have streams := buffering.phase
  have last : Event.worker a act ∈ es ++ [Event.worker a act] :=
    List.mem_append_right _ (List.mem_singleton_self _)
  cases moves with
  | brigade hp | finished hp | brigadeEnd hp | error hp =>
    exact h.glide rfl rfl (by rw [hp]; rfl) rfl
  | response _ hp | captureFailed _ hp | skip _ hp => exact h.glide rfl rfl (by rw [hp]; rfl) rfl
  | skipData _ _ hp | capture _ _ hp => exact h.glide rfl rfl (by rw [hp]; rfl) rfl
  | submit site eq =>
    cases ok.accepted _ _ last
    cases site with
    | response hs | data hs | flush hs | eos hs => exact absurd hs mode
    | tail hp => exact h.submit steady hp eq
  | readFailed hp | read hp | complete hp =>
    rw [hp] at streams
    cases streams
  | @append _ _ _ _ malloc _ _ site eq =>
    cases site with
    | filter hp =>
      rw [hp] at streams
      cases streams
    | tail hp =>
      cases malloc with
      | none => exact absurd last (ok.allocs _)
      | some p => exact h.append steady (buffering.answer_length small) hp (fresh p rfl) eq
  | waitFailed site => exact absurd last (ok.waits _)
  | tailComplete hp =>
    obtain ⟨xs, holds⟩ := h.holds
    have late : st.worker.phase.early = false := by
      rw [hp]
      rfl
    have unsent :
        queued (es ++ [Event.worker .go (.complete (streamResponseComplete st.stream).2)]) =
          queued es := by
      rw [queued_snoc]
      exact List.append_nil _
    have sent := h.sent late
    rw [hp] at sent
    refine h.late rfl ⟨xs, holds.frame rfl rfl rfl⟩ h.cancelled ?_ late rfl ?_ nofun
    · rw [unsent]
      exact h.len
    · rw [unsent]
      exact sent

/-- Without trouble after a step, there was none before it. -/
lemma Untroubled.init (ok : Untroubled (es ++ [e])) : Untroubled es where
  calm e mem := ok.calm e (List.mem_append_left _ mem)
  accepted := ok.accepted.init
  reads act mem := ok.reads act (List.mem_append_left _ mem)
  allocs act mem := ok.allocs act (List.mem_append_left _ mem)
  waits act mem := ok.waits act (List.mem_append_left _ mem)

/-- A buffering worker in a run without trouble. -/
lemma Answering.run {limit : UInt64} (run : Run Step (State.init limit max) es st)
    (limited : max ≠ sizeMax) (small : max ≤ 2 ^ 31) (ok : Untroubled es) : Answering es st := by
  induction run with
  | nil => exact .init limit max
  | @snoc _ _ es e run step ih =>
    have before := ih ok.init
    obtain ⟨xs, holds⟩ := before.holds
    have calm := ok.calm e (List.mem_append_right _ (List.mem_singleton_self _))
    cases step with
    | worker fresh eq =>
      exact before.worker (.run run ok.init.calm) (.run run limited) small ok fresh (step_moves eq)
    | read _ _ _ _ _ eq =>
      have frame := (sessionReadData_frame eq).1
      refine before.frame rfl rfl ⟨xs, holds.frame ?_ ?_ ?_⟩ ?_ ?_ ?_
      all_goals rw [frame]
    | ack eq =>
      have frame := ackLoop_frame eq
      obtain ⟨t, eq', holds'⟩ := holds.ack _
      cases eq.symm.trans eq'
      refine before.frame rfl rfl ⟨_, holds'⟩ ?_ ?_ ?_
      all_goals rw [frame]
    | cancel | session => cases calm

/-! ## The buffer over a run -/

/-- A step captures what it reads, or leaves the body and the latch alone. -/
lemma Buffering.captures (h : Buffering max es w) (moves : Moves w s a w' s' act) :
    (∃ data, (Event.worker a act).capture = some data ∧ w.ctx.responseTooLarge = false ∧
        w'.ctx = captureBodyBucket w.ctx data) ∨
      ((Event.worker a act).capture = none ∧ w'.ctx.dataheap = w.ctx.dataheap ∧
        w'.ctx.responseTooLarge = w.ctx.responseTooLarge) := by
  cases moves with
  | capture _ hl => exact .inl ⟨_, rfl, hl, rfl⟩
  | submit site =>
    cases site with
    | _ => exact .inr ⟨rfl, rfl, rfl⟩
  | read hp =>
    have phase := h.phase
    rw [hp] at phase
    cases phase
  | _ => exact .inr ⟨rfl, rfl, rfl⟩

/-- The memory operations of a run: every captured read stays inside the buffer and wraps nowhere,
and the buffer holds the body of the worker model. -/
lemma DataHeap.run {limit : UInt64} (run : Run Step (State.init limit max) es st)
    (limited : max ≠ sizeMax) (small : max ≤ 2 ^ 31) :
    ∃ h, (captures es).foldlM (DataHeap.captureBodyBucket max) .init = some h ∧
    h.Holds st.worker.ctx := by
  induction run with
  | nil => exact ⟨_, rfl, .nil, rfl, rfl, rfl⟩
  | snoc run step ih =>
    obtain ⟨h, eq, hold⟩ := ih
    rw [captures_snoc, List.foldlM_append, eq, Option.bind_eq_bind, Option.bind_some]
    cases step with
    | worker _ step =>
      have buffering := Buffering.run run limited
      rcases buffering.captures (step_moves step) with ⟨data, read, unset, ctx⟩ |
        ⟨unread, heap, latch⟩
      · obtain ⟨h', captured, hold'⟩ :=
          hold.captureBodyBucket unset (by rw [buffering.limit]; exact small) data
        rw [buffering.limit] at captured
        refine ⟨h', ?_, ctx ▸ hold'⟩
        rw [read, Option.toList_some, List.foldlM_cons, captured]
        rfl
      · rw [unread]
        exact ⟨h, rfl, heap ▸ hold.heap, heap ▸ hold.len, hold.block, latch ▸ hold.latch⟩
    | _ => exact ⟨h, rfl, hold⟩

/-- What is buffered never exceeds the limit. -/
lemma captureBodyBucket_within (ctx : Ctx) (data : List UInt8)
    (within : ctx.dataheap.length ≤ ctx.maxResponseBodySize) :
    (captureBodyBucket ctx data).dataheap.length ≤ ctx.maxResponseBodySize := by
  simp only [captureBodyBucket]
  split_ifs with empty above
  · exact within
  · exact within
  · rw [List.length_append]
    omega

/-- The buffer stays within the limit. -/
lemma heap_within {limit : UInt64} (run : Run Step (State.init limit max) es st)
    (limited : max ≠ sizeMax) :
    st.worker.ctx.dataheap.length ≤ max := by
  induction run with
  | nil => exact Nat.zero_le _
  | snoc run step ih =>
    cases step with
    | worker _ step =>
      have buffering := Buffering.run run limited
      rcases buffering.captures (step_moves step) with ⟨data, -, -, ctx⟩ | ⟨-, heap, -⟩
      · have within := captureBodyBucket_within _ data (by rw [buffering.limit]; exact ih)
        rw [buffering.limit] at within
        exact ctx ▸ within
      · exact heap ▸ ih
    | _ => exact ih

/-- The latch never clears. -/
lemma latch_stays (step : Step st e st') (large : st.worker.ctx.responseTooLarge = true) :
    st'.worker.ctx.responseTooLarge = true := by
  cases step with
  | worker _ eq =>
    have moves := step_moves eq
    clear eq
    cases moves with
    | submit site =>
      cases site with
      | _ => exact large
    | capture _ hl =>
      rw [hl] at large
      cases large
    | _ => exact large
  | _ => exact large

/-- The two answers of a worker with a limit to the buckets `bb`. -/
def limitedOutcome (findToken : String → String → Bool) (r : RequestRec) (limit : Nat)
    (bb : List Bucket) : Outcome :=
  if (content bb).length ≤ limit then
    { blocks := [buildResponseNva findToken 64 r (lastResponse none bb)]
      body := content bb
      complete := true }
  else
    { blocks := [[(":status", "500"), ("content-type", "text/plain")]]
      body := "Response exceeded H3MaxResponseBodySize\n".toUTF8.toList
      complete := true }

/-- In its tail the worker has read all of a body within the limit, and more than the limit of any
other. -/
lemma Limited.total (h : Limited bb (captured es) hs sent w) (buffering : Buffering max es w)
    (spent : w.phase.buckets = []) :
    (w.ctx.responseTooLarge = true ∧ max < (content bb).length) ∨
      (w.ctx.responseTooLarge = false ∧ w.ctx.resp = lastResponse Option.none bb ∧
        w.ctx.dataheap = content bb ∧ captured es = content bb ∧ (content bb).length ≤ max) := by
  cases large : w.ctx.responseTooLarge with
  | true =>
    exact .inl ⟨rfl, Nat.lt_of_lt_of_le (buffering.large large) h.part.length_le⟩
  | false =>
    obtain ⟨heap, fits⟩ := buffering.small large
    have body := h.body large
    have resp := h.resp
    rw [spent] at body resp
    have all : captured es = content bb := (List.append_nil _).symm.trans body
    rw [all] at heap fits
    exact .inr ⟨rfl, resp, heap, all, fits⟩

/-- The answer of the tail is the one the total of the body asks for. -/
lemma Limited.answer (h : Limited bb (captured es) hs sent w) (buffering : Buffering max es w)
    (spent : w.phase.buckets = []) (findToken : String → String → Bool) (r : RequestRec) :
    (limitedOutcome findToken r max bb).blocks = [(tailResponse w.ctx).1.nva findToken r] ∧
      (limitedOutcome findToken r max bb).body = (tailResponse w.ctx).2 := by
  rw [limitedOutcome, tailResponse]
  rcases h.total buffering spent with ⟨large, above⟩ | ⟨small, resp, heap, -, within⟩
  · rw [if_neg (Nat.not_le.mpr above), if_pos large]
    exact ⟨rfl, rfl⟩
  · rw [if_pos within, if_neg (by rw [small]; exact Bool.false_ne_true), resp, buffering.mode,
      if_neg Bool.false_ne_true, heap]
    exact ⟨rfl, rfl⟩

end

/-- No buckets are ahead in the tail. -/
lemma Phase.buckets_late {phase : Phase} (late : phase.early = false) : phase.buckets = [] := by
  cases phase with
  | tail | tailAppending | tailCompleting | returned => rfl
  | _ => cases late

/-- The limit on responses is all or nothing. Let a worker have a limit that the directive admits,
and let all its bucket reads succeed. At every point of its run the buffer holds what it read,
within the limit and within its capacity, and no `size_t` operation has wrapped; the latch is set
exactly if it read more than the limit, and stays set. Nothing is submitted or queued but the header
block and a prefix of the body of the one answer that the total of the body chooses; and if nothing
goes wrong, all of that answer is, by the time the worker returns. -/
theorem response_limit_all_or_nothing {limit : UInt64} {max : Nat} {es : List Event} {st : State}
    (small : max ≤ Config.maxResponseBodySizeMax) (run : Run Step (State.init limit max) es st)
    (reads : ∀ act, .worker (.read .failed) act ∉ es) (findToken : String → String → Bool)
    (rec_ : Records) :
    (∃ h, (captures es).foldlM (DataHeap.captureBodyBucket max) .init = some h ∧
      h.Holds st.worker.ctx ∧ h.dataheaplen ≤ max ∧ h.dataheaplen ≤ h.dataheapcap) ∧
    (st.worker.ctx.responseTooLarge = true ↔ max < (captures es).flatten.length) ∧
    (∀ e st', Step st e st' → st.worker.ctx.responseTooLarge = true →
      st'.worker.ctx.responseTooLarge = true) ∧
    submitted findToken rec_ es <+: (limitedOutcome findToken rec_.atEnd max (buckets es)).blocks ∧
    queued es <+: (limitedOutcome findToken rec_.atEnd max (buckets es)).body ∧
    (st.worker.phase = .returned →
      ((captures es).flatten.length ≤ max ↔ (content (buckets es)).length ≤ max) ∧
      ((captures es).flatten.length ≤ max → content (buckets es) = (captures es).flatten) ∧
      (Untroubled es → outcome findToken rec_ es st =
        limitedOutcome findToken rec_.atEnd max (buckets es))) := by
  have limited : max ≠ sizeMax := by
    rintro rfl
    exact absurd small (by decide)
  have bound : max ≤ 2 ^ 31 := small.trans (by decide)
  have buffering := Buffering.run run limited
  have inv := Limited.run run limited reads
  have blocks := submitted_atEnd run limited findToken rec_
  rw [← captured]
  refine ⟨?_, ⟨buffering.large, fun above => ?_⟩, fun e st' => latch_stays, ?_, ?_,
    fun returned => ?_⟩
  · obtain ⟨h, eq, hold⟩ := DataHeap.run run limited bound
    exact ⟨h, eq, hold, hold.len.trans_le (heap_within run limited), hold.len_le_cap⟩
  · rw [← Bool.not_eq_false]
    intro unset
    exact absurd (buffering.small unset).2 (Nat.not_le.mpr above)
  · rw [blocks]
    cases early : st.worker.phase.early with
    | true =>
      rw [(inv.waiting early).1]
      exact List.nil_prefix
    | false =>
      rw [(inv.answer buffering (Phase.buckets_late early) findToken rec_.atEnd).1]
      exact (inv.heads early).map _
  · cases early : st.worker.phase.early with
    | true =>
      rw [(inv.waiting early).2]
      exact List.nil_prefix
    | false =>
      rw [(inv.answer buffering (Phase.buckets_late early) findToken rec_.atEnd).2]
      exact (List.prefix_append _ _).trans (inv.sent early)
  · have late : st.worker.phase.early = false := by
      rw [returned]
      rfl
    have spent := Phase.buckets_late late
    refine ⟨?_, fun within => ?_, fun ok => ?_⟩
    · rcases inv.total buffering spent with ⟨large, above⟩ | ⟨-, -, -, all, -⟩
      · exact iff_of_false (Nat.not_le.mpr (buffering.large large)) (Nat.not_le.mpr above)
      · rw [all]
    · rcases inv.total buffering spent with ⟨large, -⟩ | ⟨-, -, -, all, -⟩
      · exact absurd within (Nat.not_le.mpr (buffering.large large))
      · exact all.symm
    · have answering := Answering.run run limited bound ok
      have answer := inv.answer buffering spent findToken rec_.atEnd
      have sent := answering.sent late
      rw [returned] at sent
      have complete : (limitedOutcome findToken rec_.atEnd max (buckets es)).complete = true := by
        rw [limitedOutcome]
        split <;> rfl
      generalize limitedOutcome findToken rec_.atEnd max (buckets es) = o at answer complete
      obtain ⟨_, _, _⟩ := o
      dsimp only at answer complete
      rw [answer.1, answer.2, complete, outcome, blocks, answering.heads late,
        returned_complete run returned, ← sent]
      congr 1
      exact (List.append_nil _).symm

/-- Two data buckets behind a response bucket, five bytes together. -/
def fiveBytes : List Bucket :=
  [.response page, .data [1, 2, 3], .flush, .data [4, 5], .eos]

/-- A limit of exactly the five bytes, and one below. -/
theorem response_limit_all_or_nothing_fiveBytes :
    (∃ es st, Run Step (State.init 65536 5) es st ∧ buckets es = fiveBytes ∧
      captured es = [1, 2, 3, 4, 5] ∧ outcome oneToken plainRecord es st =
        ⟨[[(":status", "200"), ("content-type", "text/html")]], [1, 2, 3, 4, 5], true⟩) ∧
    ∃ es st, Run Step (State.init 65536 4) es st ∧ buckets es = fiveBytes ∧
      outcome oneToken plainRecord es st =
        ⟨[[(":status", "500"), ("content-type", "text/plain")]], oversizedMsg, true⟩ := by
  constructor
  · have exec : ((execAll exec (State.init 65536 5)
        ([.brigade fiveBytes, .go, .read (.ok 2), .read (.ok 1), .go, .read (.ok 2), .go, .go,
          .finished, .submit 0, .append (some 7), .go].map Op.worker)).map
        fun r => (r.1.worker.phase, r.2.all Event.fine, buckets r.2, captured r.2)) =
        some (.returned, true, fiveBytes, [1, 2, 3, 4, 5]) := by
      decide +kernel
    obtain ⟨⟨st, es⟩, run, eq⟩ := Option.map_eq_some_iff.mp exec
    simp only [Prod.mk.injEq] at eq
    obtain ⟨returned, fine, reach, read⟩ := eq
    have run := execAll_run exec_step run
    have ok := Untroubled.of_fine fine
    obtain ⟨-, -, -, -, -, done⟩ :=
      response_limit_all_or_nothing (by decide) run ok.reads oneToken plainRecord
    refine ⟨es, st, run, reach, read, ?_⟩
    rw [(done returned).2.2 ok, reach]
    decide +kernel
  · have exec : ((execAll exec (State.init 65536 4)
        ([.brigade fiveBytes, .go, .read (.ok 3), .go, .read (.ok 2), .go, .go, .finished,
          .submit 0, .append (some 7), .go].map Op.worker)).map
        fun r => (r.1.worker.phase, r.2.all Event.fine, buckets r.2)) =
        some (.returned, true, fiveBytes) := by
      decide +kernel
    obtain ⟨⟨st, es⟩, run, eq⟩ := Option.map_eq_some_iff.mp exec
    simp only [Prod.mk.injEq] at eq
    obtain ⟨returned, fine, reach⟩ := eq
    have run := execAll_run exec_step run
    have ok := Untroubled.of_fine fine
    obtain ⟨-, -, -, -, -, done⟩ :=
      response_limit_all_or_nothing (by decide) run ok.reads oneToken plainRecord
    refine ⟨es, st, run, reach, ?_⟩
    rw [(done returned).2.2 ok, reach]
    decide +kernel

end ModHttp3.Worker
