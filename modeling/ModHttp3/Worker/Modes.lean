import ModHttp3.Worker.Heads

/-!
# Streaming and buffered responses

The two modes of the output filter against each other. `modes_agree` takes a streaming and a
buffering worker whose handlers pass the same brigades: one response bucket, then the body, then
EOS. Both end with the same header block, the same body and the same completion. It needs that
nothing makes the streaming filter submit before the response bucket comes, among other things:
`modes_disagree`.

`final_response_submitted` is about responses that announce themselves by interim ones. The
buffering worker submits the last response bucket, the streaming one submits the first, and so an
interim response takes the place of the final one: `interim_response_submitted`.
-/

namespace ModHttp3.Worker
open ModHttp3.Lib ModHttp3.Response

/-- The request record as the handler leaves it: while each brigade is filtered, and in the tail. -/
structure Records where
  during : Nat → RequestRec
  atEnd : RequestRec

/-- The brigade a step passes, if it passes one. -/
def Event.passes : Event → Option (List Bucket)
  | .worker _ (.brigade bb) => some bb
  | _ => none

/-- The brigades passed to the filter. -/
def brigades (es : List Event) : List (List Bucket) := es.filterMap Event.passes

/-- The request record a header block is built with. -/
def recordAt (rec_ : Records) (es : List Event) : RequestRec :=
  if Event.worker .finished .finished ∈ es then rec_.atEnd else rec_.during (brigades es).length

/-- The header blocks passed to nghttp3. -/
def submitted (findToken : String → String → Bool) (rec_ : Records) (es : List Event) :
    List (List (String × String)) :=
  gather (fun pre e => (e.head.map fun head => head.nva findToken (recordAt rec_ pre)).toList) es

/-- What the peer gets: the header blocks, the body and whether it was completed. -/
structure Outcome where
  blocks : List (List (String × String))
  body : List UInt8
  complete : Bool
deriving DecidableEq

/-- What a run has produced for the peer. -/
def outcome (findToken : String → String → Bool) (rec_ : Records) (es : List Event) (st : State) :
    Outcome where
  blocks := submitted findToken rec_ es
  body := queued es
  complete := st.stream.responseComplete

/-- What the peer should get from a handler that passes `bbs` with the one response bucket `resp`,
in either mode. -/
def intended (findToken : String → String → Bool) (rec_ : Records) (resp : Resp)
    (bbs : List (List Bucket)) : Outcome where
  blocks := [buildResponseNva findToken 64 rec_.atEnd (some resp)]
  body := content bbs.flatten
  complete := true

/-- One response bucket, with nothing but plain metadata and error buckets before it, and EOS at the
end; an error bucket, which ends the loop of the filter, has no response or data bucket behind it in
its brigade. -/
structure OneResponse (resp : Resp) (bbs : List (List Bucket)) : Prop where
  order : ∃ front mid, bbs.flatten = front ++ Bucket.response resp :: (mid ++ [Bucket.eos]) ∧
    (∀ b ∈ front, b = .metadata ∨ b = .error) ∧ .eos ∉ mid ∧ ∀ resp', .response resp' ∉ mid
  errors : ∀ bb ∈ bbs, ∀ pre post, bb = pre ++ Bucket.error :: post →
    content post = [] ∧ ∀ resp', .response resp' ∉ post

/-- What a response bucket leaves to the request record stays as it is while the brigades pass. -/
def Still (rec_ : Records) (resp : Resp) : Prop :=
  ∀ k, (resp.status = 0 → (rec_.during k).status = rec_.atEnd.status) ∧
    (resp.headers = none → (rec_.during k).headersOut = rec_.atEnd.headersOut)

/-- Every bucket read, allocation and condition wait succeeds, nghttp3 accepts the header block, and
stream and session are left alone. -/
structure Untroubled (es : List Event) : Prop where
  calm : ∀ e ∈ es, e.calm = true
  accepted : Accepted es
  reads : ∀ act, .worker (.read .failed) act ∉ es
  allocs : ∀ act, .worker (.append none) act ∉ es
  waits : ∀ act, .worker .waitFailed act ∉ es

section
variable {es : List Event} {e : Event} {bb : List Bucket} {bbs : List (List Bucket)} {resp : Resp}
  {findToken : String → String → Bool} {rec_ : Records}

/-- What an event passes, as a brigade. -/
lemma brigade_eq_passes (e : Event) : e.brigade = e.passes.getD [] := by
  cases e with
  | worker a act => cases act <;> rfl
  | _ => rfl

/-- The buckets that were passed, brigade by brigade. -/
lemma flatMap_brigade (es : List Event) : es.flatMap Event.brigade = (brigades es).flatten := by
  induction es with
  | nil => rfl
  | cons e es ih =>
    rw [List.flatMap_cons, ih, brigade_eq_passes, brigades, brigades, List.filterMap_cons]
    cases e.passes <;> rfl

/-- The buckets that were reached, brigade by brigade. -/
lemma buckets_eq (es : List Event) : buckets es = (brigades es).flatMap reached := by
  induction es with
  | nil => rfl
  | cons e es ih =>
    rw [buckets, List.flatMap_cons, brigade_eq_passes, brigades, List.filterMap_cons]
    rw [buckets] at ih
    rw [ih]
    cases e.passes <;> rfl

/-- A bucket that is reached was passed. -/
lemma mem_reached {b : Bucket} (mem : b ∈ reached bb) : b ∈ bb := by
  induction bb with
  | nil => cases mem
  | cons c bb ih =>
    cases c with
    | error => cases mem
    | _ =>
      rcases List.mem_cons.mp mem with h | h
      · exact List.mem_cons.mpr (.inl h)
      · exact List.mem_cons_of_mem _ (ih h)

/-- Nothing behind an error bucket is reached, nor is the bucket itself. -/
lemma error_not_reached : .error ∉ reached bb := by
  induction bb with
  | nil => exact List.not_mem_nil
  | cons c bb ih =>
    cases c with
    | error => exact List.not_mem_nil
    | _ => simpa [reached] using ih

/-- The filter comes to all of a brigade without an error bucket. -/
lemma reached_append {xs ys : List Bucket} (h : .error ∉ xs) :
    reached (xs ++ ys) = xs ++ reached ys := by
  induction xs with
  | nil => rfl
  | cons b xs ih =>
    cases b with
    | error => exact absurd (List.mem_cons_self ..) h
    | _ => exact congrArg _ (ih fun mem => h (List.mem_cons_of_mem _ mem))

/-- Nothing follows an EOS bucket that comes only at the end. -/
lemma nothing_after_eos {xs ys init : List Bucket}
    (eq : xs ++ Bucket.eos :: ys = init ++ [Bucket.eos]) (fresh : .eos ∉ init) : ys = [] := by
  rcases List.eq_nil_or_concat ys with h | ⟨zs, z, rfl⟩
  · exact h
  · rw [List.concat_eq_append, ← List.cons_append, ← List.append_assoc] at eq
    obtain ⟨rfl, _⟩ := List.append_inj' eq rfl
    exact absurd (List.mem_append_right _ (List.mem_cons_self ..)) fresh

/-- A brigade is tidy if no body byte follows an error bucket or an EOS bucket. -/
lemma tidy_of_last (errors : ∀ pre post, bb = pre ++ Bucket.error :: post → content post = [])
    (eos : ∀ pre post, bb = pre ++ Bucket.eos :: post → content post = []) : Tidy bb := by
  induction bb with
  | nil => trivial
  | cons b bb ih =>
    have rest : Tidy bb := by
      refine ih (fun pre post eq => ?_) fun pre post eq => ?_
      · exact errors (b :: pre) post (by rw [eq, List.cons_append])
      · exact eos (b :: pre) post (by rw [eq, List.cons_append])
    cases b with
    | error => exact errors [] bb rfl
    | eos => exact eos [] bb rfl
    | _ => exact rest

/-- The filter comes to the response bucket, and to nothing but plain metadata before it. -/
lemma reached_response {front tail : List Bucket}
    (order : bbs.flatten = front ++ Bucket.response resp :: tail)
    (plain : ∀ b ∈ front, b = .metadata ∨ b = .error) (last : ∀ resp', .response resp' ∉ tail)
    (errors : ∀ bb ∈ bbs, ∀ pre post, bb = pre ++ Bucket.error :: post →
      ∀ resp', .response resp' ∉ post) :
    ∃ front' tail', bbs.flatMap reached = front' ++ Bucket.response resp :: tail' ∧
      (∀ b ∈ front', b = .metadata) ∧ ∀ resp', .response resp' ∉ tail' := by
  induction bbs generalizing front with
  | nil => simp at order
  | cons bb bbs ih =>
    rw [List.flatten_cons] at order
    rw [List.forall_mem_cons] at errors
    have split : (∃ fs, front = bb ++ fs ∧ bbs.flatten = fs ++ Bucket.response resp :: tail) ∨
        ∃ fs, bb = front ++ Bucket.response resp :: fs ∧ tail = fs ++ bbs.flatten := by
      rcases List.append_eq_append_iff.mp order with ⟨fs, h1, h2⟩ | ⟨fs, h1, h2⟩
      · exact .inl ⟨fs, h1, h2⟩
      · cases fs with
        | nil => exact .inl ⟨[], by simpa using h1.symm, h2.symm⟩
        | cons b fs =>
          obtain ⟨rfl, rfl⟩ := List.cons.inj h2
          exact .inr ⟨fs, h1, rfl⟩
    rcases split with ⟨fs, rfl, order'⟩ | ⟨fs, rfl, rfl⟩
    · -- the response bucket is in a later brigade
      obtain ⟨front', tail', eq, plain', last'⟩ :=
        ih order' (fun b mem => plain b (List.mem_append_right _ mem)) errors.2
      refine ⟨reached bb ++ front', tail', ?_, ?_, last'⟩
      · rw [List.flatMap_cons, eq, List.append_assoc]
      · rw [List.forall_mem_append]
        refine ⟨fun b mem => ?_, plain'⟩
        refine (plain b (List.mem_append_left _ (mem_reached mem))).resolve_right ?_
        rintro rfl
        exact error_not_reached mem
    · -- it is in this brigade, so no error bucket is before it
      have clean : .error ∉ front := by
        intro mem
        obtain ⟨xs, ys, rfl⟩ := List.append_of_mem mem
        refine errors.1 xs (ys ++ Bucket.response resp :: fs) ?_ resp ?_
        · rw [List.append_assoc, List.cons_append]
        · exact List.mem_append_right _ (List.mem_cons_self ..)
      refine ⟨front, reached fs ++ bbs.flatMap reached, ?_, ?_, ?_⟩
      · rw [List.flatMap_cons, reached_append clean, List.append_assoc]
        rfl
      · intro b mem
        refine (plain b mem).resolve_right ?_
        rintro rfl
        exact clean mem
      · intro resp' mem
        apply last resp'
        rcases List.mem_append.mp mem with mem | mem
        · exact List.mem_append_left _ (mem_reached mem)
        · obtain ⟨bb, mem, mem'⟩ := List.mem_flatMap.mp mem
          exact List.mem_append_right _ (List.mem_flatten.mpr ⟨bb, mem, mem_reached mem'⟩)

/-- A run with one response bucket in which nothing fails is smooth. -/
lemma Untroubled.smooth (ok : Untroubled es) (one : OneResponse resp (brigades es))
    (size : (produced es).length ≤ sizeMax) : Smooth es where
  reads := ok.reads
  allocs := ok.allocs
  waits := ok.waits
  size := size
  brigades fs a bb gs eq := by
    obtain ⟨front, mid, order, plain, noEos, _⟩ := one.order
    have fresh : .eos ∉ front ++ Bucket.response resp :: mid := by
      simp only [List.mem_append, List.mem_cons, not_or]
      refine ⟨fun mem => ?_, nofun, noEos⟩
      rcases plain _ mem with h | h <;> cases h
    have whole : fs.flatMap Event.brigade ++ (bb ++ gs.flatMap Event.brigade) =
        front ++ Bucket.response resp :: mid ++ [Bucket.eos] := by
      rw [List.append_assoc, List.cons_append, ← order, ← flatMap_brigade, eq, List.flatMap_append,
        List.flatMap_cons]
      rfl
    refine ⟨tidy_of_last (fun pre post h => ?_) fun pre post h => ?_, fun passed => ?_⟩
    · refine (one.errors bb ?_ pre post h).1
      rw [eq, brigades, List.filterMap_append]
      exact List.mem_append_right _ (List.mem_cons_self ..)
    · subst h
      rw [List.append_assoc, List.cons_append, ← List.append_assoc] at whole
      rw [(List.append_eq_nil_iff.mp (nothing_after_eos whole fresh)).1, content_nil]
    · obtain ⟨xs, ys, h⟩ := List.append_of_mem passed
      rw [h, List.append_assoc, List.cons_append] at whole
      have after := nothing_after_eos whole fresh
      simp only [List.append_eq_nil_iff] at after
      rw [after.2.1, content_nil]

/-- The header block does not depend on the request record where the response has its own status and
headers. -/
lemma buildResponseNva_congr {nvaCap : Nat} {r r' : RequestRec}
    (status : resp.status = 0 → r.status = r'.status)
    (headers : resp.headers = none → r.headersOut = r'.headersOut) :
    buildResponseNva findToken nvaCap r (some resp) =
      buildResponseNva findToken nvaCap r' (some resp) := by
  have hdrs : (Option.bind (some resp) Resp.headers).or r.headersOut =
      (Option.bind (some resp) Resp.headers).or r'.headersOut := by
    rw [Option.bind_some]
    cases h : resp.headers with
    | none => rw [headers h]
    | some hdrs => rfl
  have code : (((some resp).map Resp.status).filter (· ≠ 0)).getD r.status =
      (((some resp).map Resp.status).filter (· ≠ 0)).getD r'.status := by
    rw [Option.map_some, Option.filter_some]
    split
    · rfl
    · rename_i h
      exact status (by simpa using h)
  rw [buildResponseNva, buildResponseNva, hdrs, code]

/-- The header blocks, if the request record makes no difference to them. -/
lemma submitted_eq {block : List (String × String)}
    (same : ∀ head ∈ heads es, ∀ pre, head.nva findToken (recordAt rec_ pre) = block) :
    submitted findToken rec_ es = (heads es).map fun _ => block := by
  induction es using List.reverseRecOn with
  | nil => rfl
  | append_singleton es e ih =>
    rw [submitted, gather_snoc, heads_snoc, List.map_append]
    rw [heads_snoc, List.forall_mem_append] at same
    congr 1
    · exact ih same.1
    · cases h : e.head with
      | none => rfl
      | some head =>
        rw [h] at same
        simp only [Option.map_some, Option.toList_some, List.map_cons, List.map_nil,
          List.cons.injEq, and_true]
        exact same.2 head (by simp) es

end

section
variable {limit : UInt64} {max : Nat} {es : List Event} {st : State} {resp : Resp}
  {findToken : String → String → Bool} {rec_ : Records}

/-- A worker that submitted the one response bucket, with a body within the limit, has produced what
it should when it returns. -/
lemma outcome_of_head (run : Run Step (State.init limit max) es st) (ok : Untroubled es)
    (one : OneResponse resp (brigades es)) (size : (produced es).length ≤ sizeMax)
    (returned : st.worker.phase = .returned) (small : st.worker.ctx.responseTooLarge = false)
    (head : heads es = [.response (some resp)]) (accepted : st.stream.responseSubmitted = true)
    (still : Still rec_ resp) :
    outcome findToken rec_ es st = intended findToken rec_ resp (brigades es) := by
  have steady := Steady.run run ok.calm
  have alive : ¬ Lost st := by
    rintro (h | h | h | ⟨_, h | h⟩)
    · exact absurd (steady.aborted.symm.trans h) nofun
    · exact absurd (steady.dead.symm.trans h) nofun
    · exact absurd (steady.ngh3.symm.trans h) nofun
    · exact absurd (steady.reset.symm.trans h) nofun
    · exact absurd (accepted.symm.trans h) nofun
  have all := ((Tracked.run run (ok.smooth one size)).account.resolve_left alive).2
  have spent : st.worker.remaining = [] := by rw [Responder.remaining, returned]
  rw [body, if_neg (by simp [small]), spent, List.append_nil, produced, flatMap_brigade] at all
  have block : ∀ h ∈ heads es, ∀ pre, h.nva findToken (recordAt rec_ pre) =
      buildResponseNva findToken 64 rec_.atEnd (some resp) := by
    intro h mem pre
    rw [head, List.mem_singleton] at mem
    rw [mem, Head.nva, recordAt]
    split
    · rfl
    · exact buildResponseNva_congr (still _).1 (still _).2
  rw [outcome, submitted_eq block, head, ← all, returned_complete run returned]
  rfl

/-- The buckets the filter comes to, if there is one response bucket. -/
lemma OneResponse.reaches (one : OneResponse resp (brigades es)) :
    ∃ front tail, buckets es = front ++ Bucket.response resp :: tail ∧
    (∀ b ∈ front, b = .metadata) ∧
      ∀ resp', .response resp' ∉ tail := by
  obtain ⟨front, mid, order, plain, _, last⟩ := one.order
  rw [buckets_eq]
  refine reached_response order plain (fun resp' mem => ?_) fun bb mem pre post eq =>
    (one.errors bb mem pre post eq).2
  rcases List.mem_append.mp mem with mem | mem
  · exact last resp' mem
  · cases List.mem_singleton.mp mem

/-- Streaming mode produces what it should. -/
lemma streaming_outcome (run : Run Step (State.init limit sizeMax) es st)
    (returned : st.worker.phase = .returned) (ok : Untroubled es)
    (one : OneResponse resp (brigades es)) (size : (produced es).length ≤ sizeMax)
    (still : Still rec_ resp) :
    outcome findToken rec_ es st = intended findToken rec_ resp (brigades es) := by
  obtain ⟨front, tail, reach, plain, _⟩ := one.reaches
  have first : firstHead (buckets es) = some (.response (some resp)) := by
    rw [reach, firstHead_plain plain]
    rfl
  obtain ⟨head, accepted⟩ := streaming_head run ok.calm returned first
  have streaming := (mode_run run).trans (beq_self_eq_true _)
  have small := ((Tracked.run run (ok.smooth one size)).shape.streaming streaming).2
  exact outcome_of_head run ok one size returned small head (accepted ok.accepted) still

/-- Buffered mode produces what it should, if the limit is not below the body. -/
lemma buffered_outcome (run : Run Step (State.init limit max) es st) (limited : max < sizeMax)
    (returned : st.worker.phase = .returned) (ok : Untroubled es)
    (one : OneResponse resp (brigades es)) (fits : (produced es).length ≤ max)
    (still : Still rec_ resp) :
    outcome findToken rec_ es st = intended findToken rec_ resp (brigades es) := by
  obtain ⟨front, tail, reach, plain, last⟩ := one.reaches
  have light : ∀ b ∈ front, b.light = true := by
    intro b mem
    rw [plain b mem]
    rfl
  have buffering := Buffering.run run limited.ne
  have within : ¬ max < (captured es).length := by
    have := buffering.bound
    omega
  obtain ⟨head, accepted⟩ := buffered_head run limited.ne ok.calm returned ⟨reach, light, last⟩
  rw [if_neg within] at head
  have small := Bool.eq_false_iff.mpr fun large => within (buffering.large large)
  exact outcome_of_head run ok one (fits.trans limited.le) returned small head
    (accepted ok.accepted) still

/-- The two modes agree. A streaming and a buffering worker whose handlers pass the same brigades,
with one response bucket before the body and EOS at the end, have submitted the same header block,
queued the same body and completed the response when they return, provided the limit is not below
the body and what the response bucket leaves to the request record stays as it is. -/
theorem modes_agree {limit' : UInt64} {es' : List Event} {st' : State}
    (streams : Run Step (State.init limit sizeMax) es st)
    (buffers : Run Step (State.init limit' max) es' st') (limited : max < sizeMax)
    (returned : st.worker.phase = .returned) (returned' : st'.worker.phase = .returned)
    (ok : Untroubled es) (ok' : Untroubled es') (same : brigades es' = brigades es)
    (one : OneResponse resp (brigades es)) (fits : (content (brigades es).flatten).length ≤ max)
    (still : Still rec_ resp) :
    outcome findToken rec_ es st = outcome findToken rec_ es' st' ∧
      outcome findToken rec_ es st = intended findToken rec_ resp (brigades es) := by
  have size : (produced es).length ≤ max := by
    rw [produced, flatMap_brigade]
    exact fits
  have size' : (produced es').length ≤ max := by
    rw [produced, flatMap_brigade, same]
    exact fits
  have streamed : outcome findToken rec_ es st = intended findToken rec_ resp (brigades es) :=
    streaming_outcome streams returned ok one (size.trans limited.le) still
  rw [← same] at one
  have buffered : outcome findToken rec_ es' st' = intended findToken rec_ resp (brigades es') :=
    buffered_outcome buffers limited returned' ok' one size' still
  rw [streamed, buffered, same]
  exact ⟨rfl, rfl⟩

end

/-- Nothing fails in a step. -/
def Event.fine : Event → Bool
  | .worker (.read .failed) _ | .worker (.append none) _ | .worker .waitFailed _ | .cancel
  | .session =>
    false
  | .worker (.submit rv) _ => rv == 0
  | _ => true

/-- A run of steps in which nothing fails. -/
lemma Untroubled.of_fine {es : List Event} (fine : es.all Event.fine = true) : Untroubled es := by
  rw [List.all_eq_true] at fine
  refine ⟨fun e mem => ?_, fun rv act mem => ?_, fun act mem => ?_, fun act mem => ?_,
    fun act mem => ?_⟩
  · have := fine e mem
    cases e with
    | cancel | session => cases this
    | _ => rfl
  · exact beq_iff_eq.mp (fine _ mem)
  all_goals cases fine _ mem

/-- A connection header with a single token nominates that header. -/
def oneToken (connHdr k : String) : Bool := sameName connHdr k

/-- A request record that nobody changes. -/
def plainRecord : Records where
  during _ := { status := 200, headersOut := none }
  atEnd := { status := 200, headersOut := none }

/-- What a schedule leads to: where the worker is, whether all went well, the brigades and the
outcome. -/
def report (rec_ : Records) (max : Nat) (ops : List Op) :
    Option (Phase × Bool × List (List Bucket) × Outcome) :=
  (execAll exec (State.init 65536 max) ops).map fun r =>
    (r.1.worker.phase, r.2.all Event.fine, brigades r.2, outcome oneToken rec_ r.2 r.1)

/-- A schedule is a run. -/
lemma run_of_report {rec_ : Records} {max : Nat} {ops : List Op} {bbs : List (List Bucket)}
    {o : Outcome} (h : report rec_ max ops = some (.returned, true, bbs, o)) :
    ∃ es st, Run Step (State.init 65536 max) es st ∧ st.worker.phase = .returned ∧ Untroubled es ∧
      brigades es = bbs ∧ outcome oneToken rec_ es st = o := by
  obtain ⟨⟨st, es⟩, run, eq⟩ := Option.map_eq_some_iff.mp h
  simp only [Prod.mk.injEq] at eq
  obtain ⟨returned, fine, passed, out⟩ := eq
  exact ⟨es, st, execAll_run exec_step run, returned, .of_fine fine, passed, out⟩

/-- A response in two brigades, the first of which ends inside the body. -/
def twoBrigades : List (List Bucket) :=
  [[.metadata, .response { status := 200, headers := some [("content-type", "text/plain")] },
      .data [1, 2, 3]],
    [.flush, .data [4], .eos]]

/-- Streamed and buffered, two brigades give the same answer. -/
theorem modes_agree_twoBrigades :
    ∃ es st es' st', Run Step (State.init 65536 sizeMax) es st ∧
      Run Step (State.init 65536 1000) es' st' ∧ brigades es = twoBrigades ∧
      brigades es' = twoBrigades ∧ outcome oneToken plainRecord es st =
        outcome oneToken plainRecord es' st' ∧
      (outcome oneToken plainRecord es st).body = [1, 2, 3, 4] := by
  -- the streaming filter reads the first data bucket in two pieces, the buffering one at once
  have streamed : (report plainRecord sizeMax
      ([.brigade (twoBrigades.getD 0 []), .go, .submit 0, .submit 0, .read (.ok 2),
        .append (some 7), .submit 0, .read (.ok 1), .append (some 8), .go,
        .brigade (twoBrigades.getD 1 []), .submit 0,
        .submit 0, .read (.ok 1), .append (some 9), .submit 0, .go, .go, .finished, .submit 0,
        .go].map Op.worker)).map (fun r => (r.1, r.2.1, r.2.2.1)) =
        some (.returned, true, twoBrigades) := by
    decide +kernel
  have buffered : (report plainRecord 1000
      ([.brigade (twoBrigades.getD 0 []), .go, .go, .read (.ok 3), .go,
        .brigade (twoBrigades.getD 1 []), .go, .read (.ok 1), .go, .go, .finished, .submit 0,
        .append (some 7), .go].map Op.worker)).map
      (fun r => (r.1, r.2.1, r.2.2.1)) = some (.returned, true, twoBrigades) := by
    decide +kernel
  obtain ⟨⟨_, _, _, o⟩, h, eq⟩ := Option.map_eq_some_iff.mp streamed
  cases eq
  obtain ⟨es, st, run, returned, ok, passed, rfl⟩ := run_of_report h
  obtain ⟨⟨_, _, _, o'⟩, h', eq'⟩ := Option.map_eq_some_iff.mp buffered
  cases eq'
  obtain ⟨es', st', run', returned', ok', passed', rfl⟩ := run_of_report h'
  have clean : ∀ bb ∈ brigades es, .error ∉ bb := by
    rw [passed]
    decide
  have one : OneResponse { status := 200, headers := some [("content-type", "text/plain")] }
      (brigades es) := by
    refine ⟨⟨[.metadata], [.data [1, 2, 3], .flush, .data [4]], ?_, by decide, by decide, ?_⟩, ?_⟩
    · rw [passed]
      rfl
    · simp
    · intro bb mem pre post eq
      refine absurd ?_ (clean bb mem)
      rw [eq]
      exact List.mem_append_right _ (List.mem_cons_self ..)
  have fits : (content (brigades es).flatten).length ≤ 1000 := by
    rw [passed]
    decide
  have agree : _ ∧ outcome oneToken plainRecord es st = _ :=
    modes_agree run run' (by decide) returned returned' ok ok' (passed'.trans passed.symm) one fits
      fun _ => ⟨fun _ => rfl, fun _ => rfl⟩
  refine ⟨es, st, es', st', run, run', passed, passed', agree.1, ?_⟩
  rw [agree.2, intended, passed]
  rfl

/-- The provisos of the agreement. A FLUSH bucket before the response bucket makes the streaming
filter submit the status and headers of the request; a response bucket without a status takes the
one the request has at that moment, which may change until the tail; and the filter leaves a brigade
at an error bucket, with the body bytes behind it. -/
theorem modes_disagree :
    (∃ es st es' st', Run Step (State.init 65536 sizeMax) es st ∧
      Run Step (State.init 65536 1000) es' st' ∧ st.worker.phase = .returned ∧
      st'.worker.phase = .returned ∧ Untroubled es ∧ Untroubled es' ∧
      brigades es = [[.flush, .response { status := 404, headers := some [] }, .data [1], .eos]] ∧
      brigades es' = brigades es ∧
      (outcome oneToken plainRecord es st).blocks = [[(":status", "200")]] ∧
      (outcome oneToken plainRecord es' st').blocks = [[(":status", "404")]]) ∧
    (∃ es st es' st', Run Step (State.init 65536 sizeMax) es st ∧
      Run Step (State.init 65536 1000) es' st' ∧ st.worker.phase = .returned ∧
      st'.worker.phase = .returned ∧ Untroubled es ∧ Untroubled es' ∧
      brigades es = [[.response { status := 0, headers := some [] }, .data [1], .eos]] ∧
      brigades es' = brigades es ∧
      (outcome oneToken { plainRecord with atEnd := { status := 500, headersOut := none } } es
        st).blocks =
        [[(":status", "200")]] ∧
      (outcome oneToken { plainRecord with atEnd := { status := 500, headersOut := none } } es'
        st').blocks =
        [[(":status", "500")]]) ∧
    (∃ es st, Run Step (State.init 65536 sizeMax) es st ∧ st.worker.phase = .returned ∧
      Untroubled es ∧
      brigades es = [[.response { status := 200, headers := some [] }, .error, .data [1], .eos]] ∧
      (outcome oneToken plainRecord es st).body = []) := by
  refine ⟨?_, ?_, ?_⟩
  · have streamed : report plainRecord sizeMax
        ([.brigade [.flush, .response { status := 404, headers := some [] }, .data [1], .eos],
          .submit 0, .submit 0, .submit 0, .read (.ok 1), .append (some 7), .submit 0, .go, .go,
          .finished, .submit 0,
          .go].map Op.worker) =
        some (.returned, true,
          [[.flush, .response { status := 404, headers := some [] }, .data [1], .eos]],
          ⟨[[(":status", "200")]], [1], true⟩) := by
      decide +kernel
    have buffered : report plainRecord 1000
        ([.brigade [.flush, .response { status := 404, headers := some [] }, .data [1], .eos], .go,
          .go, .read (.ok 1), .go, .go, .finished, .submit 0, .append (some 7),
          .go].map Op.worker) =
        some (.returned, true,
          [[.flush, .response { status := 404, headers := some [] }, .data [1], .eos]],
          ⟨[[(":status", "404")]], [1], true⟩) := by
      decide +kernel
    obtain ⟨es, st, run, returned, ok, passed, out⟩ := run_of_report streamed
    obtain ⟨es', st', run', returned', ok', passed', out'⟩ := run_of_report buffered
    refine ⟨es, st, es', st', run, run', returned, returned', ok, ok', passed,
      passed'.trans passed.symm, ?_, ?_⟩
    · rw [out]
    · rw [out']
  · have streamed : report { plainRecord with atEnd := { status := 500, headersOut := none } }
        sizeMax
        ([.brigade [.response { status := 0, headers := some [] }, .data [1], .eos], .submit 0,
          .submit 0, .read (.ok 1), .append (some 7), .submit 0, .go, .go, .finished, .submit 0,
          .go].map Op.worker) =
        some (.returned, true, [[.response { status := 0, headers := some [] }, .data [1], .eos]],
          ⟨[[(":status", "200")]], [1], true⟩) := by
      decide +kernel
    have buffered : report { plainRecord with atEnd := { status := 500, headersOut := none } } 1000
        ([.brigade [.response { status := 0, headers := some [] }, .data [1], .eos], .go,
          .read (.ok 1), .go, .go, .finished, .submit 0, .append (some 7), .go].map Op.worker) =
        some (.returned, true, [[.response { status := 0, headers := some [] }, .data [1], .eos]],
          ⟨[[(":status", "500")]], [1], true⟩) := by
      decide +kernel
    obtain ⟨es, st, run, returned, ok, passed, out⟩ := run_of_report streamed
    obtain ⟨es', st', run', returned', ok', passed', out'⟩ := run_of_report buffered
    refine ⟨es, st, es', st', run, run', returned, returned', ok, ok', passed,
      passed'.trans passed.symm, ?_, ?_⟩
    · rw [out]
    · rw [out']
  · have streamed : report plainRecord sizeMax
        ([.brigade [.response { status := 200, headers := some [] }, .error, .data [1], .eos],
          .submit 0, .go, .finished, .submit 0, .go].map Op.worker) =
        some (.returned, true,
          [[.response { status := 200, headers := some [] }, .error, .data [1], .eos]],
          ⟨[[(":status", "200")]], [], true⟩) := by
      decide +kernel
    obtain ⟨es, st, run, returned, ok, passed, out⟩ := run_of_report streamed
    refine ⟨es, st, run, returned, ok, passed, ?_⟩
    rw [out]

/-! ## Interim responses -/

/-- Interim responses, possibly with FLUSH buckets between them, and then the final one. -/
structure Announced (front : List Bucket) (final : Resp) (rest bb : List Bucket) : Prop where
  split : bb = front ++ Bucket.response final :: rest
  interim : ∀ b ∈ front, b = .metadata ∨ b = .flush ∨
    ∃ resp, b = .response resp ∧ 100 ≤ resp.status ∧ resp.status < 200
  between : ∀ pre post, front = pre ++ Bucket.flush :: post → ∃ resp, .response resp ∈ pre
  final : ¬ (100 ≤ final.status ∧ final.status < 200)
  last : ∀ resp, .response resp ∉ rest

section
variable {limit : UInt64} {max : Nat} {es : List Event} {st : State} {front rest : List Bucket}
  {final : Resp} {findToken : String → String → Bool} {rec_ : Records}

/-- A final response that is announced resolves the brigades. -/
lemma Announced.resolves {bb : List Bucket} (h : Announced front final rest bb) :
    Resolves front final rest bb where
  split := h.split
  front b mem := by
    rcases h.interim b mem with rfl | rfl | ⟨resp, rfl, _⟩ <;> rfl
  last := h.last

/-- The first response bucket makes the streaming filter submit. -/
lemma firstHead_interim
    (light : ∀ b ∈ front, b = .metadata ∨ b = .flush ∨
      ∃ resp : Resp, b = .response resp ∧ 100 ≤ resp.status ∧ resp.status < 200)
    (between : ∀ pre post, front = pre ++ Bucket.flush :: post → ∃ resp, .response resp ∈ pre) :
    ((∀ resp, .response resp ∉ front) ∧ firstHead (front ++ Bucket.response final :: rest) =
        some (.response (some final))) ∨
      ∃ resp : Resp, .response resp ∈ front ∧ 100 ≤ resp.status ∧ resp.status < 200 ∧
        firstHead (front ++ Bucket.response final :: rest) = some (.response (some resp)) := by
  induction front with
  | nil => exact .inl ⟨fun _ => List.not_mem_nil, rfl⟩
  | cons b front ih =>
    rw [List.forall_mem_cons] at light
    rcases light.1 with rfl | rfl | ⟨resp, rfl, lo, hi⟩
    · have later : ∀ pre post, front = pre ++ Bucket.flush :: post →
          ∃ resp, .response resp ∈ pre := by
        intro pre post eq
        obtain ⟨resp, mem⟩ := between (.metadata :: pre) post (by rw [eq, List.cons_append])
        exact ⟨resp, (List.mem_cons.mp mem).resolve_left nofun⟩
      rcases ih light.2 later with ⟨noInterim, first⟩ | ⟨resp, mem, lo, hi, first⟩
      · exact .inl ⟨fun resp mem => noInterim resp ((List.mem_cons.mp mem).resolve_left nofun),
          first⟩
      · exact .inr ⟨resp, List.mem_cons_of_mem _ mem, lo, hi, first⟩
    · obtain ⟨resp, mem⟩ := between [] front rfl
      cases mem
    · exact .inr ⟨resp, List.mem_cons_self .., lo, hi, rfl⟩

/-- A single header block is built with the request record of the moment. -/
lemma submitted_single {head : Head} (h : heads es = [head]) :
    ∃ pre, submitted findToken rec_ es = [head.nva findToken (recordAt rec_ pre)] := by
  induction es using List.reverseRecOn with
  | nil => cases h
  | append_singleton es e ih =>
    rw [heads_snoc] at h
    rw [submitted, gather_snoc]
    cases he : e.head with
    | none =>
      rw [he, Option.toList_none, List.append_nil] at h
      rw [Option.map_none, Option.toList_none, List.append_nil]
      exact ih h
    | some head' =>
      rw [he, Option.toList_some] at h
      obtain ⟨empty, eq⟩ := List.append_inj' (h.trans (List.nil_append _).symm) rfl
      cases eq
      have before : submitted findToken rec_ es = (heads es).map fun _ => [] :=
        submitted_eq (by rw [empty]; nofun)
      rw [submitted, empty] at before
      exact ⟨es, by rw [before]; rfl⟩

/-- The one header block that is passed to nghttp3 is that of the final response if and only if the
worker streams and no interim response came before it, or buffers and what it read of the body is
within the limit. -/
theorem final_response_submitted (findToken : String → String → Bool) (rec_ : Records)
    (run : Run Step (State.init limit max) es st) (calm : ∀ e ∈ es, e.calm = true)
    (returned : st.worker.phase = .returned) (announced : Announced front final rest (buckets es)) :
    ∃ head r, submitted findToken rec_ es = [head.nva findToken r] ∧ heads es = [head] ∧
      (head = .response (some final) ↔
        (max = sizeMax ∧ ∀ resp, .response resp ∉ front) ∨
          (max ≠ sizeMax ∧ (captured es).length ≤ max)) := by
  by_cases mode : max = sizeMax
  · subst mode
    rcases firstHead_interim announced.interim announced.between with ⟨noInterim, first⟩ |
      ⟨resp, mem, lo, hi, first⟩
    · rw [← announced.split] at first
      obtain ⟨once, _⟩ := streaming_head run calm returned first
      obtain ⟨pre, block⟩ := submitted_single once
      exact ⟨_, _, block, once, iff_of_true rfl (.inl ⟨rfl, noInterim⟩)⟩
    · rw [← announced.split] at first
      obtain ⟨once, _⟩ := streaming_head run calm returned first
      obtain ⟨pre, block⟩ := submitted_single once
      refine ⟨_, _, block, once, iff_of_false ?_ ?_⟩
      · intro eq
        cases eq
        exact announced.final ⟨lo, hi⟩
      · rintro (⟨_, noInterim⟩ | ⟨ne, _⟩)
        · exact noInterim resp mem
        · exact ne rfl
  · obtain ⟨once, _⟩ := buffered_head run mode calm returned announced.resolves
    obtain ⟨pre, block⟩ := submitted_single once
    refine ⟨_, _, block, once, ?_⟩
    split
    · refine iff_of_false nofun ?_
      rintro (⟨eq, _⟩ | ⟨_, le⟩)
      · exact mode eq
      · omega
    · exact iff_of_true rfl (.inr ⟨mode, by omega⟩)

end

/-- An early hint. -/
def earlyHint : Resp where
  status := 103
  headers := some [("link", "</style.css>")]

/-- The response it announces. -/
def page : Resp where
  status := 200
  headers := some [("content-type", "text/html")]

/-- The buckets of a response after an early hint. -/
lemma announced_page :
    Announced [.response earlyHint, .flush] page [.data [1], .eos]
      [.response earlyHint, .flush, .response page, .data [1], .eos] where
  split := rfl
  interim := by simp [earlyHint]
  between := by
    intro pre post eq
    cases pre with
    | nil => cases eq
    | cons b pre =>
      obtain ⟨rfl, _⟩ := List.cons.inj eq
      exact ⟨earlyHint, List.mem_cons_self ..⟩
  final := by decide
  last := by simp

/-- The early hint is not submitted, the page is. -/
theorem final_response_submitted_page :
    ∃ es st, Run Step (State.init 65536 1000) es st ∧
      Announced [.response earlyHint, .flush] page [.data [1], .eos] (buckets es) ∧
      heads es = [.response (some page)] := by
  have exec : ((execAll exec (State.init 65536 1000)
      ([.brigade [.response earlyHint, .flush], .go, .go, .go,
        .brigade [.response page, .data [1], .eos], .go, .read (.ok 1), .go, .go, .finished,
        .submit 0,
        .append (some 7), .go].map Op.worker)).map
      fun r => (r.1.worker.phase, r.2.all Event.fine, buckets r.2, captured r.2)) =
      some (.returned, true, [.response earlyHint, .flush, .response page, .data [1], .eos],
        [1]) := by
    decide +kernel
  obtain ⟨⟨st, es⟩, run, eq⟩ := Option.map_eq_some_iff.mp exec
  simp only [Prod.mk.injEq] at eq
  obtain ⟨returned, fine, reach, read⟩ := eq
  have run := execAll_run exec_step run
  have announced := reach.symm ▸ announced_page
  obtain ⟨head, r, _, once, iff⟩ := final_response_submitted oneToken plainRecord run
    (Untroubled.of_fine fine).calm returned announced
  refine ⟨es, st, run, announced, ?_⟩
  rw [once, iff.mpr (.inr ⟨by decide, by rw [read]; decide⟩)]

/-- In streaming mode an interim response is submitted in the place of the final one. -/
theorem interim_response_submitted :
    ∃ es st, Run Step (State.init 65536 sizeMax) es st ∧ st.worker.phase = .returned ∧
    Untroubled es ∧
      Announced [.response earlyHint, .flush] page [.data [1], .eos] (buckets es) ∧
      submitted oneToken plainRecord es = [[(":status", "103"), ("link", "</style.css>")]] := by
  have exec : ((execAll exec (State.init 65536 sizeMax)
      ([.brigade [.response earlyHint, .flush], .submit 0, .submit 0, .go,
        .brigade [.response page, .data [1], .eos], .submit 0, .submit 0, .read (.ok 1),
        .append (some 7),
        .submit 0, .go, .go, .finished, .submit 0, .go].map Op.worker)).map
      fun r => decide (r.1.worker.phase = .returned ∧ r.2.all Event.fine = true ∧
        buckets r.2 = [.response earlyHint, .flush, .response page, .data [1], .eos] ∧
        submitted oneToken plainRecord r.2 = [[(":status", "103"), ("link", "</style.css>")]])) =
      some true := by
    decide +kernel
  obtain ⟨⟨st, es⟩, run, eq⟩ := Option.map_eq_some_iff.mp exec
  obtain ⟨returned, fine, reach, blocks⟩ := of_decide_eq_true eq
  exact ⟨es, st, execAll_run exec_step run, returned, .of_fine fine, reach.symm ▸ announced_page,
    blocks⟩

end ModHttp3.Worker
