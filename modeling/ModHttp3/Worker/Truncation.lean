import ModHttp3.Lib.Run
import ModHttp3.Response.Invariant
import ModHttp3.Worker.Moves

/-!
# A short body and the end of the response

The worker that produces a response and the event thread that hands it to nghttp3, as one system. A
step is one operation of the worker (`Moves`), a read or an acknowledgement by nghttp3, one of the
close callbacks, or a change of the session. The history of a run says which bytes the handler
produced (`produced`) and which were queued for the peer (`queued`).

`Tracked es st` ties the two together: as long as the response can still reach the peer, what was
produced is what was queued and what is in the worker's hands. `Within max es w` says that the
worker finds a body too large only when it is. `clean_end_complete` concludes that a response that
ends cleanly has its whole body, provided no bucket read, no allocation and no condition wait failed
and the body is within its limit. Without that proviso it does not: `short_body_ends_cleanly`.
-/

namespace ModHttp3.Worker
open ModHttp3.Lib ModHttp3.Response

/-- A worker, its stream, and whether the QUIC stream was reset or given up to be freed. -/
structure State where
  worker : Responder
  stream : Stream
  reset : Bool

/-- A worker that has just called the handler. -/
def State.init (limit : UInt64) (maxResponseBodySize : Nat) : State where
  worker := { ctx := .init maxResponseBodySize, phase := .handler }
  stream := .init limit
  reset := false

/-- What a step does and observes; a read also records whether the QUIC stream was reset or
freed. -/
inductive Event where
  | worker (a : Answer) (act : Act)
  | read (r : ReadResult) (reset : Bool)
  | ack (datalen : Nat)
  | cancel
  | session
deriving DecidableEq

/-- The steps of the worker and of the event thread. nghttp3 reads from a stream whose response was
submitted, while the session is neither aborted nor dead; the close callbacks cancel the response
together with the QUIC stream; a session never comes back. -/
inductive Step : State → Event → State → Prop where
  | worker {st a w s act} :
    (∀ p, a = .append (some p) → st.stream.responseQueue.mem p = none) →
    step st.worker st.stream a = some (w, s, act) →
    Step st (.worker a act) { st with worker := w, stream := s }
  | read {st veccnt s r} :
    1 ≤ veccnt →
    st.stream.responseSubmitted = true →
    st.stream.aborted = false →
    st.stream.ngh3Dead = false →
    st.stream.ngh3 = true →
    sessionReadData st.stream veccnt = some (s, r) →
    Step st (.read r st.reset) { st with stream := s }
  | ack {st n s} :
    streamResponseAckLocked st.stream n = some s →
    Step st (.ack n) { st with stream := s }
  | cancel {st} :
    Step st .cancel { st with stream := streamResponseCancelLocked st.stream, reset := true }
  | session {st} (aborted dead gone : Bool) :
    Step st .session
      { st with
        stream :=
          { st.stream with
            aborted := st.stream.aborted || aborted
            ngh3Dead := st.stream.ngh3Dead || dead
            ngh3 := st.stream.ngh3 && !gone } }

/-- The body bytes of a bucket. -/
def Bucket.content : Bucket → List UInt8
  | .data content => content
  | _ => []

/-- The body bytes of a brigade. -/
def content (bb : List Bucket) : List UInt8 := bb.flatMap Bucket.content

/-- The brigade a step passes to the filter. -/
def Event.brigade : Event → List Bucket
  | .worker _ (.brigade bb) => bb
  | _ => []

/-- The bytes a step queues. -/
def Event.queued : Event → List UInt8
  | .worker _ (.append data (.chunk n _)) => data.take n
  | _ => []

/-- The body bytes the handler produced. -/
def produced (es : List Event) : List UInt8 := content (es.flatMap Event.brigade)

/-- The body bytes queued for the peer. -/
def queued (es : List Event) : List UInt8 := es.flatMap Event.queued

/-- An EOS bucket was passed to the filter. -/
def eosPassed (es : List Event) : Prop := .eos ∈ es.flatMap Event.brigade

/-- nghttp3 was told that the body is at its end, on a QUIC stream that was neither reset nor
freed. -/
def endedCleanly (es : List Event) : Prop := ∃ r : ReadResult, r.eof = true ∧ .read r false ∈ es

/-- No body bytes follow an EOS or an error bucket. -/
def Tidy : List Bucket → Prop
  | [] => True
  | .eos :: bb => content bb = []
  | .error :: bb => content bb = []
  | _ :: bb => Tidy bb

/-- Nothing goes wrong, before the headers or after them: every bucket read, every allocation and
every condition wait succeeds; the handler passes no body bytes behind an EOS or an ERROR bucket,
and no more than a `size_t` can count. -/
structure Smooth (es : List Event) : Prop where
  reads : ∀ act, .worker (.read .failed) act ∉ es
  allocs : ∀ act, .worker (.append none) act ∉ es
  waits : ∀ act, .worker .waitFailed act ∉ es
  brigades : ∀ fs a bb gs, es = fs ++ .worker a (.brigade bb) :: gs →
    Tidy bb ∧ (eosPassed fs → content bb = [])
  size : (produced es).length ≤ sizeMax

section
variable {es : List Event} {e : Event} {bb bb' : List Bucket}

/-- No buckets have no bytes. -/
@[simp] lemma content_nil : content [] = [] := rfl

/-- The bytes of a brigade with one more bucket in front. -/
@[simp] lemma content_cons (b : Bucket) (bb : List Bucket) :
    content (b :: bb) = b.content ++ content bb := rfl

/-- The bytes produced after one more event. -/
lemma produced_snoc : produced (es ++ [e]) = produced es ++ content e.brigade := by
  simp [produced, content]

/-- The bytes queued after one more event. -/
lemma queued_snoc : queued (es ++ [e]) = queued es ++ e.queued := by simp [queued]

/-- Whether an EOS bucket was passed after one more event. -/
lemma eosPassed_snoc :
    eosPassed (es ++ [e]) ↔ eosPassed es ∨ .eos ∈ e.brigade := by simp [eosPassed]

/-- Whether the response ended cleanly after one more event. -/
lemma endedCleanly_snoc :
    endedCleanly (es ++ [e]) ↔ endedCleanly es ∨ ∃ r : ReadResult, r.eof = true ∧
    e = .read r false := by
  simp only [endedCleanly, List.mem_append, List.mem_singleton]
  constructor
  · rintro ⟨r, h, h1 | h1⟩
    · exact .inl ⟨r, h, h1⟩
    · exact .inr ⟨r, h, h1.symm⟩
  · rintro (⟨r, h, h1⟩ | ⟨r, h, h1⟩)
    · exact ⟨r, h, .inl h1⟩
    · exact ⟨r, h, .inr h1.symm⟩

/-- Reading part of a data bucket leaves its other bytes to come. -/
lemma content_splitOff (c : List UInt8) (n : Nat) (bb : List Bucket) :
    c.take n ++ content (splitOff c n bb) = c ++ content bb := by
  rw [splitOff]
  split
  · rw [content_cons, Bucket.content, ← List.append_assoc, List.take_append_drop]
  · rw [List.take_of_length_le (by omega)]

/-- A brigade without bytes is tidy. -/
lemma Tidy.of_empty (h : content bb = []) : Tidy bb := by
  induction bb with
  | nil => trivial
  | cons b bb ih =>
    rw [content_cons, List.append_eq_nil_iff] at h
    cases b <;> first | exact h.2 | exact ih h.2

/-- Splitting a bucket off leaves the brigade tidy. -/
lemma Tidy.splitOff {c : List UInt8} {n : Nat} (h : Tidy bb) : Tidy (splitOff c n bb) := by
  rw [Worker.splitOff]
  split
  · exact h
  · exact h

/-- Earlier histories are smooth too. -/
lemma Smooth.init (h : Smooth (es ++ [e])) : Smooth es where
  reads act mem := h.reads act (List.mem_append_left _ mem)
  allocs act mem := h.allocs act (List.mem_append_left _ mem)
  waits act mem := h.waits act (List.mem_append_left _ mem)
  brigades fs a bb gs eq := h.brigades fs a bb (gs ++ [e]) (by rw [eq]; simp)
  size := by
    have := h.size
    rw [produced_snoc, List.length_append] at this
    omega

end

/-- The buckets still to come; the EOS bucket being completed counts as one of them. -/
def Phase.buckets : Phase → List Bucket
  | .filtering bb | .reading _ bb | .appending _ bb => bb
  | .completing bb => .eos :: bb
  | _ => []

/-- The bytes taken out of a bucket and not yet queued. -/
def Phase.inHand : Phase → List UInt8
  | .reading content _ => content
  | .appending data _ => data
  | _ => []

/-- The worker has not begun to queue a buffered body. -/
def Phase.early : Phase → Bool
  | .tailAppending _ | .tailCompleting | .returned => false
  | _ => true

/-- The bytes the worker still has to queue. -/
def Responder.remaining (w : Responder) : List UInt8 :=
  match w.phase with
  | .tailAppending data => data
  | .tailCompleting | .returned => []
  | phase =>
    if w.ctx.responseTooLarge then oversizedMsg
    else w.ctx.dataheap ++ (phase.inHand ++ content phase.buckets)

/-- The body the response is meant to have: what the handler produced, or the fixed answer to an
oversized body. -/
def body (es : List Event) (w : Responder) : List UInt8 :=
  if w.ctx.responseTooLarge then oversizedMsg else produced es

/-- The response can no longer reach the peer as a clean one: the session is gone, or the response
was cancelled before it was submitted or together with its QUIC stream. -/
def Lost (st : State) : Prop :=
  st.stream.aborted = true ∨ st.stream.ngh3Dead = true ∨ st.stream.ngh3 = false ∨
    (st.stream.responseCancelled = true ∧ (st.reset = true ∨ st.stream.responseSubmitted = false))

/-- What holds of the worker alone: streaming buffers nothing and buffering queues nothing before
the tail, the buckets to come are tidy, an append has bytes left, and an EOS bucket comes from a
brigade. -/
structure Shape (es : List Event) (w : Responder) : Prop where
  streaming : w.ctx.streaming = true → w.ctx.dataheap = [] ∧ w.ctx.responseTooLarge = false
  buffered : w.ctx.streaming = false → w.phase.early = true → queued es = []
  tidy : Tidy w.phase.buckets
  append : ∀ data more done failed, Appends w data more done failed → data ≠ []
  eos : .eos ∈ w.phase.buckets → eosPassed es
  filter : w.phase.inHand ≠ [] → w.ctx.streaming = true
  completing : ∀ bb, w.phase = .completing bb → w.ctx.streaming = true

/-- The worker has nothing more to queue: it has returned, or it has passed EOS while streaming. -/
structure Ended (es : List Event) (w : Responder) : Prop where
  remaining : w.remaining = []
  last : w.phase = .returned ∨ (w.ctx.streaming = true ∧ eosPassed es)

/-- The invariant: as long as the response can reach the peer it was not cancelled and its body is
what was queued and what is still to be queued; a complete response has nothing more to queue; and a
response that ended cleanly has its whole body. -/
structure Tracked (es : List Event) (st : State) : Prop where
  holds : ∃ xs, Holds st.stream xs
  shape : Shape es st.worker
  len : st.stream.responseLen = (queued es).length
  account : Lost st ∨
    (st.stream.responseCancelled = false ∧ body es st.worker = queued es ++ st.worker.remaining)
  complete : st.stream.responseComplete = true → Lost st ∨ Ended es st.worker
  ended : endedCleanly es → queued es = body es st.worker ∧ Ended es st.worker

section
variable {es : List Event} {e : Event} {w w' : Responder} {st st' : State}

/-- A fresh worker is in shape. -/
lemma Tracked.init (limit : UInt64) (max : Nat) : Tracked [] (State.init limit max) where
  holds := ⟨[], Holds.init limit⟩
  shape :=
    { streaming := fun _ => ⟨rfl, rfl⟩
      buffered := fun _ _ => rfl
      tidy := trivial
      append := by
        rintro data more done failed (h | h) <;> cases h
      eos := by simp [State.init, Phase.buckets]
      filter := fun h => absurd rfl h
      completing := by simp [State.init] }
  len := rfl
  account := .inr ⟨rfl, rfl⟩
  complete := by simp [State.init, Stream.init]
  ended := by simp [endedCleanly]

/-- What a step of the worker that leaves the stream alone has to show. -/
lemma Tracked.quiet (h : Tracked es st) (noread : ∀ r, e ≠ .read r false) (noqueue : e.queued = [])
    (shape : Shape (es ++ [e]) w')
    (account : ¬ Lost st → body es st.worker = queued es ++ st.worker.remaining →
      body (es ++ [e]) w' = queued es ++ w'.remaining)
    (ended : Ended es st.worker → Ended (es ++ [e]) w' ∧ body (es ++ [e]) w' = body es st.worker) :
    Tracked (es ++ [e]) { st with worker := w' } where
  holds := h.holds
  shape := shape
  len := by rw [queued_snoc, noqueue, List.append_nil]; exact h.len
  account := by
    by_cases hl : Lost st
    · exact .inl hl
    · obtain ⟨hc, ha⟩ := h.account.resolve_left hl
      rw [queued_snoc, noqueue, List.append_nil]
      exact .inr ⟨hc, account hl ha⟩
  complete hc := (h.complete hc).imp id fun he => (ended he).1
  ended hx := by
    rw [endedCleanly_snoc] at hx
    rcases hx with hx | ⟨r, _, hx⟩
    · obtain ⟨hq, he⟩ := h.ended hx
      rw [queued_snoc, noqueue, List.append_nil, (ended he).2]
      exact ⟨hq, (ended he).1⟩
    · exact absurd hx (noread r)

/-- A step that passes no brigade and queues nothing changes nothing in the history that the
invariant looks at. -/
structure Silent (e : Event) : Prop where
  brigade : e.brigade = []
  queued : e.queued = []

/-- A silent event adds nothing to the body. -/
lemma Silent.body_snoc (h : Silent e) : body (es ++ [e]) w = body es w := by
  rw [body, body, produced_snoc, h.brigade, content_nil, List.append_nil]

/-- A silent event queues nothing. -/
lemma Silent.queued_snoc (h : Silent e) : Worker.queued (es ++ [e]) = Worker.queued es := by
  rw [Worker.queued_snoc, h.queued, List.append_nil]

/-- A silent event passes no EOS bucket. -/
lemma Silent.eosPassed_snoc (h : Silent e) : eosPassed (es ++ [e]) ↔ eosPassed es := by
  rw [Worker.eosPassed_snoc, h.brigade]
  simp

/-- A silent event keeps the shape. -/
lemma Silent.shape (h : Silent e) (sh : Shape es w) : Shape (es ++ [e]) w where
  streaming := sh.streaming
  buffered hs hp := by rw [h.queued_snoc]; exact sh.buffered hs hp
  tidy := sh.tidy
  append := sh.append
  eos hx := h.eosPassed_snoc.mpr (sh.eos hx)
  filter := sh.filter
  completing := sh.completing

/-- A silent event leaves an ended response ended. -/
lemma Silent.ended (h : Silent e) (he : Ended es w) : Ended (es ++ [e]) w where
  remaining := he.remaining
  last := he.last.imp id fun ⟨hs, hx⟩ => ⟨hs, h.eosPassed_snoc.mpr hx⟩

/-- A worker in a phase of the filter, or about to submit at the end. -/
lemma Responder.remaining_early {ctx : Ctx} {phase : Phase} (h : phase.early = true) :
    Responder.remaining ⟨ctx, phase⟩ =
      if ctx.responseTooLarge then oversizedMsg
      else ctx.dataheap ++ (phase.inHand ++ content phase.buckets) := by
  cases phase <;> first | rfl | cases h

/-- A worker that goes on without a byte in hand is in shape if the buckets to come are tidy and
their EOS was seen before. -/
lemma Shape.move (sh : Shape es w) {ctx : Ctx} {phase : Phase}
    (streaming : ctx.streaming = w.ctx.streaming)
    (mode : ctx.streaming = true →
      ctx.dataheap = w.ctx.dataheap ∧ ctx.responseTooLarge = w.ctx.responseTooLarge)
    (early : phase.early = true → w.phase.early = true) (tidy : Tidy phase.buckets)
    (append : ∀ data more done failed, Appends ⟨ctx, phase⟩ data more done failed → data ≠ [])
    (eos : .eos ∈ phase.buckets → .eos ∈ w.phase.buckets)
    (filter : phase.inHand ≠ [] → ctx.streaming = true)
    (completing : ∀ bb, phase = .completing bb → ctx.streaming = true) :
    Shape es ⟨ctx, phase⟩ where
  streaming hs := by
    obtain ⟨h1, h2⟩ := sh.streaming (streaming ▸ hs)
    obtain ⟨h3, h4⟩ := mode hs
    exact ⟨h3.trans h1, h4.trans h2⟩
  buffered hs hp := sh.buffered (streaming ▸ hs) (early hp)
  tidy := tidy
  append := append
  eos hx := sh.eos (eos hx)
  filter := filter
  completing := completing

/-- Phases that do not append. -/
lemma not_appends {ctx : Ctx} {phase : Phase} (h1 : ∀ data bb, phase ≠ .appending data bb)
    (h2 : ∀ data, phase ≠ .tailAppending data) :
    ∀ data more done failed, Appends ⟨ctx, phase⟩ data more done failed → data ≠ [] := by
  rintro data more done failed (h | h)
  · exact absurd h (h1 _ _)
  · exact absurd h (h2 _)

/-- Submitting in the filter: a failure leads to the handler, and a worker that has ended is
streaming with EOS behind it. -/
lemma Shape.submit_filter {wctx ctx : Ctx} {b : Bucket} {bb : List Bucket} {ok : Phase}
    (sh : Shape es ⟨wctx, .filtering (b :: bb)⟩) (hs : wctx.streaming = true)
    (h1 : ctx.streaming = wctx.streaming) (h2 : ctx.dataheap = wctx.dataheap)
    (h3 : ctx.responseTooLarge = wctx.responseTooLarge) (early : ok.early = true)
    (hc : ok.inHand ++ content ok.buckets = content (b :: bb)) (tidy : Tidy ok.buckets)
    (eos : .eos ∈ ok.buckets → .eos ∈ b :: bb)
    (app : ∀ data more done failed, Appends ⟨ctx, ok⟩ data more done failed → data ≠ []) :
    Shape es ⟨ctx, ok⟩ ∧ Shape es ⟨ctx, .handler⟩ ∧
    Responder.remaining ⟨ctx, ok⟩ = Responder.remaining ⟨wctx, .filtering (b :: bb)⟩ ∧
    ctx.responseTooLarge = wctx.responseTooLarge ∧
    (Ended es ⟨wctx, .filtering (b :: bb)⟩ → Ended es ⟨ctx, ok⟩ ∧ Ended es ⟨ctx, .handler⟩) := by
  have hst : ctx.streaming = true := h1.trans hs
  have hrem : Responder.remaining ⟨ctx, ok⟩ = Responder.remaining ⟨wctx, .filtering (b :: bb)⟩ := by
    rw [Responder.remaining_early early, Responder.remaining_early rfl, h2, h3, hc]
    rfl
  refine ⟨sh.move h1 (fun _ => ⟨h2, h3⟩) (fun _ => rfl) tidy app eos (fun _ => hst)
    (fun _ _ => hst), sh.move h1 (fun _ => ⟨h2, h3⟩) (fun _ => rfl) trivial
    (not_appends (by simp) (by simp))
      (by simp [Phase.buckets]) (fun _ => hst) (fun _ _ => hst), hrem, h3, ?_⟩
  intro he
  have last : ctx.streaming = true ∧ eosPassed es :=
    ⟨hst, (he.last.resolve_left (by simp)).2⟩
  refine ⟨⟨hrem.trans he.remaining, .inr last⟩, ⟨?_, .inr last⟩⟩
  obtain ⟨hd, hl⟩ := sh.streaming hs
  rw [Responder.remaining_early rfl, h2, h3, hd, hl]
  rfl

/-- What remains at the tail is the body `tailResponse` selects. -/
lemma Shape.remaining_tail {wctx : Ctx} (sh : Shape es ⟨wctx, .tail⟩) :
    Responder.remaining ⟨wctx, .tail⟩ = (tailResponse wctx).2 := by
  rw [Responder.remaining_early rfl, tailResponse]
  cases hl : wctx.responseTooLarge with
  | true => rfl
  | false =>
    cases hs : wctx.streaming with
    | true =>
      have hd : wctx.dataheap = [] := (sh.streaming hs).1
      simp [hd, Phase.inHand, Phase.buckets]
    | false => simp [Phase.inHand, Phase.buckets]

/-- The places where the response is submitted: both ways to go on are in shape and keep an ended
response ended; after success nothing is lost. -/
lemma Submits.spec {ctx : Ctx} {head : Head} {ok failed : Phase}
    (site : Submits w ctx head ok failed) (sh : Shape es w) :
    Shape es ⟨ctx, ok⟩ ∧ Shape es ⟨ctx, failed⟩ ∧
    Responder.remaining ⟨ctx, ok⟩ = w.remaining ∧ ctx.responseTooLarge = w.ctx.responseTooLarge ∧
    (Ended es w → Ended es ⟨ctx, ok⟩ ∧ Ended es ⟨ctx, failed⟩) := by
  obtain ⟨wctx, wphase⟩ := w
  cases site with
  | response hs hp =>
    cases hp
    exact sh.submit_filter hs rfl rfl rfl rfl rfl sh.tidy (fun h => List.mem_cons_of_mem _ h)
      (not_appends (by simp) (by simp))
  | data hs hp =>
    cases hp
    exact sh.submit_filter hs rfl rfl rfl rfl rfl sh.tidy (fun h => List.mem_cons_of_mem _ h)
      (not_appends (by simp) (by simp))
  | flush hs hp =>
    cases hp
    exact sh.submit_filter hs rfl rfl rfl rfl rfl sh.tidy (fun h => List.mem_cons_of_mem _ h)
      (not_appends (by simp) (by simp))
  | eos hs hp =>
    cases hp
    exact sh.submit_filter hs rfl rfl rfl rfl rfl sh.tidy id (not_appends (by simp) (by simp))
  | tail hp =>
    cases hp
    have hfail : Shape es ⟨wctx, .tailCompleting⟩ :=
      sh.move rfl (fun _ => ⟨rfl, rfl⟩) (by simp [Phase.early]) trivial
        (not_appends (by simp) (by simp)) (by simp [Phase.buckets]) (fun h => absurd rfl h)
          (by simp)
    have hrem := sh.remaining_tail
    have last : Ended es ⟨wctx, .tail⟩ → wctx.streaming = true ∧ eosPassed es :=
      fun he => he.last.resolve_left (by simp)
    dsimp only at hrem ⊢
    by_cases hb : (tailResponse wctx).2 = []
    · rw [if_pos hb]
      refine ⟨hfail, hfail, by rw [hrem, hb]; rfl, rfl, fun he => ?_⟩
      exact ⟨⟨rfl, .inr (last he)⟩, ⟨rfl, .inr (last he)⟩⟩
    · rw [if_neg hb]
      refine ⟨?_, hfail, hrem.symm, rfl, fun he => ?_⟩
      · refine sh.move rfl (fun _ => ⟨rfl, rfl⟩) (by simp [Phase.early]) trivial ?_
          (by simp [Phase.buckets]) (fun h => absurd rfl h) (by simp)
        rintro data more done failed (h | h)
        · cases h
        · cases h
          exact hb
      · exact absurd (hrem.symm.trans he.remaining) hb

/-- The places where bytes are appended: the bytes come first in what remains, and every way to go
on is in shape. -/
lemma Appends.spec {data : List UInt8} {more : List UInt8 → Phase} {done failed : Phase}
    (site : Appends w data more done failed) (sh : Shape es w) :
    ∃ rest, w.remaining = data ++ rest ∧ w = { w with phase := more data } ∧
      (∀ n b, Responder.remaining { w with phase := afterTurn data more done failed (.chunk n b) } =
        data.drop n ++ rest) ∧
      ∀ es' phase, (eosPassed es → eosPassed es') →
        (phase = done ∨ phase = failed ∨ ∃ d, d ≠ [] ∧ phase = more d) →
        Shape es' { w with phase := phase } := by
  obtain ⟨ctx, wphase⟩ := w
  have ne := sh.append _ _ _ _ site
  cases site with
  | @filter bb hp =>
    cases hp
    have hs : ctx.streaming = true := sh.filter ne
    obtain ⟨hd, hl⟩ := sh.streaming hs
    have rem : ∀ phase : Phase, phase.early = true →
        Responder.remaining ⟨ctx, phase⟩ = phase.inHand ++ content phase.buckets := by
      intro phase early
      rw [Responder.remaining_early early, show ctx.dataheap = [] from hd,
        show ctx.responseTooLarge = false from hl]
      rfl
    have shape : ∀ es' (phase : Phase), (eosPassed es → eosPassed es') → phase.buckets = bb →
        (∀ data more done failed, Appends ⟨ctx, phase⟩ data more done failed → data ≠ []) →
        Shape es' ⟨ctx, phase⟩ := by
      intro es' phase mono hb app
      exact
        { streaming := fun _ => ⟨hd, hl⟩
          buffered := fun hf => absurd (hf.symm.trans hs) (by simp)
          tidy := by rw [hb]; exact sh.tidy
          append := app
          eos := fun hx => mono (sh.eos (hb ▸ hx))
          filter := fun _ => hs
          completing := fun _ _ => hs }
    refine ⟨content bb, rem _ rfl, rfl, ?_, ?_⟩
    · intro n b
      rw [afterTurn]
      split
      · rename_i hz
        rw [hz, rem _ rfl]
        rfl
      · exact rem _ rfl
    · rintro es' phase mono (rfl | rfl | ⟨d, hd, rfl⟩)
      · exact shape es' _ mono rfl (not_appends (by simp) (by simp))
      · exact
          { streaming := fun _ => ⟨hd, hl⟩
            buffered := fun hf => absurd (hf.symm.trans hs) (by simp)
            tidy := trivial
            append := not_appends (by simp) (by simp)
            eos := by simp [Phase.buckets]
            filter := fun _ => hs
            completing := fun _ _ => hs }
      · refine shape es' _ mono rfl ?_
        rintro data more done failed (h | h)
        · cases h
          exact hd
        · cases h
  | tail hp =>
    cases hp
    have shape : ∀ es' (phase : Phase), phase.early = false → phase.buckets = [] →
      phase.inHand = [] →
        (∀ data more done failed, Appends ⟨ctx, phase⟩ data more done failed → data ≠ []) →
        Shape es' ⟨ctx, phase⟩ := by
      intro es' phase early hb hi app
      exact
        { streaming := sh.streaming
          buffered := fun _ he => absurd (early.symm.trans he) (by simp)
          tidy := by rw [hb]; trivial
          append := app
          eos := by simp [hb]
          filter := fun h => absurd hi h
          completing := by
            rintro bb rfl
            cases early }
    refine ⟨[], (List.append_nil _).symm, rfl, ?_, ?_⟩
    · intro n b
      rw [afterTurn]
      split
      · rename_i hz
        rw [hz]
        rfl
      · exact (List.append_nil _).symm
    · rintro es' phase mono (rfl | rfl | ⟨d, hd, rfl⟩)
      · exact shape es' _ rfl rfl rfl (not_appends (by simp) (by simp))
      · exact shape es' _ rfl rfl rfl (not_appends (by simp) (by simp))
      · refine shape es' _ rfl rfl rfl ?_
        rintro data more done failed (h | h)
        · cases h
        · cases h
          exact hd

/-- Once the response is lost, only the shape of the worker matters. -/
lemma Tracked.of_lost (lost : Lost st) (holds : ∃ xs, Holds st.stream xs)
    (shape : Shape es st.worker) (len : st.stream.responseLen = (queued es).length)
    (ended : endedCleanly es → queued es = body es st.worker ∧ Ended es st.worker) :
    Tracked es st where
  holds := holds
  shape := shape
  len := len
  account := .inl lost
  complete _ := .inl lost
  ended := ended

/-- A response that is refused is lost. -/
lemma Tracked.refused (h : Tracked es st) (hr : (st.stream.gone || !st.stream.ngh3) = true) :
    Lost st := by
  rcases h.account with hl | ⟨hc, _⟩
  · exact hl
  · rw [Stream.gone, hc] at hr
    simp only [Bool.false_or, Bool.or_eq_true, Bool.not_eq_true'] at hr
    rcases hr with (hr | hr) | hr
    · exact .inl hr
    · exact .inr (.inl hr)
    · exact .inr (.inr (.inl hr))

/-- The session still takes bytes, so the response is not lost. -/
lemma not_lost (hr : (st.stream.gone || !st.stream.ngh3) = false) : ¬ Lost st := by
  simp only [Stream.gone, Bool.or_eq_false_iff, Bool.not_eq_false'] at hr
  obtain ⟨⟨⟨hc, ha⟩, hd⟩, hn⟩ := hr
  rintro (h | h | h | ⟨h, _⟩)
  · rw [ha] at h
    cases h
  · rw [hd] at h
    cases h
  · rw [hn] at h
    cases h
  · rw [hc] at h
    cases h

/-- The body a response is meant to have fits a `size_t`. -/
lemma body_length (smooth : Smooth es) : (body es w).length ≤ sizeMax := by
  rw [body]
  split
  · have : oversizedMsg.length = 40 := by decide +kernel
    have : sizeMax = 2 ^ 64 - 1 := rfl
    omega
  · exact smooth.size

/-- The next chunk is a piece of what is left. -/
lemma chunkLen_le (s : Stream) (n : Nat) : chunkLen s n ≤ n := by
  simp only [chunkLen]
  split_ifs <;> omega

/-- A turn of an append keeps the invariant. -/
lemma Tracked.append {data : List UInt8} {more : List UInt8 → Phase} {done failed : Phase}
    {malloc : Option Ptr} {s' : Stream} {ret : AppendRet} (h : Tracked es st)
    (smooth : Smooth (es ++ [Event.worker (.append malloc) (.append data ret)]))
    (fresh : ∀ p, malloc = some p → st.stream.responseQueue.mem p = none)
    (site : Appends st.worker data more done failed)
    (eq : streamResponseAppendStep st.stream data malloc = some (s', ret)) :
    Tracked (es ++ [Event.worker (.append malloc) (.append data ret)])
      { st with
        worker := { st.worker with phase := afterTurn data more done failed ret }
        stream := s' } := by
  obtain ⟨xs, holds⟩ := h.holds
  have ne := h.shape.append _ _ _ _ site
  obtain ⟨rest, hrem, same, after, shape⟩ := site.spec h.shape
  obtain ⟨s'', ret'', eq'', out⟩ := holds.append ne fresh
  rw [eq] at eq''
  cases eq''
  -- bytes are left, so the response has not ended
  have running : ¬ Ended es st.worker := by
    intro he
    rw [he.remaining] at hrem
    exact ne (List.append_eq_nil_iff.mp hrem.symm).1
  have unended : ¬ endedCleanly es := fun hx => running (h.ended hx).2
  cases out with
  | wait _ _ =>
    have sil : Silent (.worker (.append malloc) (.append data .wait)) := ⟨rfl, rfl⟩
    rw [afterTurn, ← same]
    refine h.quiet (by simp) rfl (sil.shape h.shape) ?_ (fun he => absurd he running)
    intro _ ha
    rw [sil.body_snoc]
    exact ha
  | refuse hr =>
    have sil : Silent (.worker (.append malloc) (.append data (.ret .econnaborted))) := ⟨rfl, rfl⟩
    refine .of_lost (h.refused hr) ⟨xs, holds⟩
      (shape _ _ sil.eosPassed_snoc.mpr (.inr (.inl rfl))) (by rw [sil.queued_snoc]; exact h.len) ?_
    intro hx
    rw [endedCleanly_snoc] at hx
    exact absurd (hx.resolve_right (by simp)) unended
  | tooLong hlong =>
    have sil : Silent (.worker (.append malloc) (.append data (.ret .egeneral))) := ⟨rfl, rfl⟩
    -- what was queued and what is left fit, so the response was lost before
    have lost : Lost st := by
      by_contra hl
      obtain ⟨_, ha⟩ := h.account.resolve_left hl
      have fits := body_length smooth.init (w := st.worker)
      have hl := chunkLen_le st.stream data.length
      rw [ha, hrem, List.length_append, List.length_append, ← h.len] at fits
      omega
    refine .of_lost ?_ ⟨xs, holds.frame rfl rfl rfl⟩
      (shape _ _ sil.eosPassed_snoc.mpr (.inr (.inl rfl))) (by rw [sil.queued_snoc]; exact h.len) ?_
    · exact lost.imp id (Or.imp id (Or.imp id fun ⟨_, hx⟩ => ⟨rfl, hx⟩))
    · intro hx
      rw [endedCleanly_snoc] at hx
      exact absurd (hx.resolve_right (by simp)) unended
  | noMemory hm =>
    subst hm
    exact absurd (List.mem_append_right es (List.mem_singleton_self _)) (smooth.allocs _)
  | @chunk _ a n hr pos le holds' frame =>
    have live : ¬ Lost st := not_lost hr
    obtain ⟨hc, ha⟩ := h.account.resolve_left live
    have hq :
      queued
        (es ++
          [Event.worker (.append malloc) (.append data (.chunk n st.stream.responseSubmitted))])
        = queued es ++ data.take n := queued_snoc
    have fits := body_length smooth.init (w := st.worker)
    have hlen : sizeAdd st.stream.responseLen n = st.stream.responseLen + n := by
      refine sizeAdd_of_lt ?_
      have : sizeMax = 2 ^ 64 - 1 := rfl
      rw [ha, hrem, List.length_append, List.length_append, ← h.len] at fits
      omega
    have mono : eosPassed es → eosPassed
        (es ++
          [Event.worker (.append malloc) (.append data (.chunk n st.stream.responseSubmitted))]) :=
      fun hx => eosPassed_snoc.mpr (.inl hx)
    refine
      { holds := ⟨_, holds'⟩
        shape := shape _ _ mono ?_
        len := ?_
        account := .inr ⟨?_, ?_⟩
        complete := ?_
        ended := ?_ }
    · rw [afterTurn]
      split
      · exact .inl rfl
      · rename_i hd
        exact .inr (.inr ⟨_, hd, rfl⟩)
    · rw [hq, List.length_append, List.length_take, Nat.min_eq_left le, ← h.len, ← hlen, frame]
    · rw [frame]
      exact hc
    · rw [hq, after n _, ← List.append_assoc, List.append_assoc (queued es), List.take_append_drop,
        List.append_assoc, ← hrem, ← ha, body, body, produced_snoc]
      simp [Event.brigade]
    · intro hcomp
      rw [frame] at hcomp
      rcases h.complete hcomp with hl | he
      · exact absurd hl live
      · exact absurd he running
    · intro hx
      rw [endedCleanly_snoc] at hx
      exact absurd (hx.resolve_right (by simp)) unended

/-- Submitting the response keeps the invariant: either the body still to come is the same, or the
response is lost. -/
lemma Tracked.submit {ctx : Ctx} {head : Head} {ok failed : Phase} {rv : Int} {s' : Stream}
    {status : Status} {called : Bool} (h : Tracked es st)
    (site : Submits st.worker ctx head ok failed)
    (eq : submitResponseNva st.stream rv = (s', status, called)) :
    Tracked (es ++ [Event.worker (.submit rv) (.submit head called status)])
      { st with worker := ⟨ctx, if status = .success then ok else failed⟩, stream := s' } := by
  have sil : Silent (.worker (.submit rv) (.submit head called status)) := ⟨rfl, rfl⟩
  obtain ⟨shok, shfail, hrem, hlarge, hend⟩ := site.spec h.shape
  obtain ⟨xs, holds⟩ := h.holds
  have len : (queued (es ++ [Event.worker (.submit rv) (.submit head called status)])).length =
      st.stream.responseLen := by
    rw [sil.queued_snoc, h.len]
  have bodyEq : ∀ phase, body (es ++ [Event.worker (.submit rv) (.submit head called status)])
    ⟨ctx, phase⟩ =
      body es st.worker := by
    intro phase
    rw [sil.body_snoc, body, body, show (⟨ctx, phase⟩ : Responder).ctx.responseTooLarge =
      st.worker.ctx.responseTooLarge from hlarge]
  have ended : ∀ phase, (phase = ok ∨ phase = failed) →
      endedCleanly (es ++ [Event.worker (.submit rv) (.submit head called status)]) →
      queued (es ++ [Event.worker (.submit rv) (.submit head called status)]) =
        body (es ++ [Event.worker (.submit rv) (.submit head called status)]) ⟨ctx, phase⟩ ∧
      Ended (es ++ [Event.worker (.submit rv) (.submit head called status)]) ⟨ctx, phase⟩ := by
    intro phase hp hx
    rw [endedCleanly_snoc] at hx
    obtain ⟨hq, he⟩ := h.ended (hx.resolve_right (by simp))
    rw [bodyEq, sil.queued_snoc]
    refine ⟨hq, sil.ended ?_⟩
    rcases hp with rfl | rfl
    · exact (hend he).1
    · exact (hend he).2
  -- a submission that succeeds leaves `response_cancelled` and `response_complete` as they were
  have success : ∀ s'', s''.responseCancelled = st.stream.responseCancelled →
      s''.responseComplete = st.stream.responseComplete → s''.responseLen = st.stream.responseLen →
      Holds s'' xs → (Lost st → Lost { st with worker := ⟨ctx, ok⟩, stream := s'' }) →
      Tracked (es ++ [Event.worker (.submit rv) (.submit head called status)])
        { st with worker := ⟨ctx, ok⟩, stream := s'' } := by
    intro s'' hc hcomp hlen holds'' hlost
    exact
      { holds := ⟨xs, holds''⟩
        shape := sil.shape shok
        len := hlen.trans len.symm
        account := by
          refine h.account.imp hlost fun ⟨h1, h2⟩ => ⟨hc.trans h1, ?_⟩
          rw [bodyEq, sil.queued_snoc, hrem]
          exact h2
        complete := by
          intro hx
          exact (h.complete (hcomp ▸ hx)).imp hlost fun he => sil.ended (hend he).1
        ended := ended ok (.inl rfl) }
  rcases submitResponseNva_cases eq with ⟨rfl, rfl, _⟩ | ⟨rfl, rfl, hr, _⟩ | ⟨rfl, rfl, hr, _⟩ |
    ⟨rfl, rfl, hr, hs, _⟩
  · rw [if_pos rfl]
    exact success _ rfl rfl rfl holds id
  · rw [if_neg (by decide)]
    exact .of_lost (h.refused hr) ⟨xs, holds⟩ (sil.shape shfail) len.symm (ended failed (.inr rfl))
  · rw [if_pos rfl]
    exact success _ rfl rfl rfl (holds.frame rfl rfl rfl) fun hl => absurd hl (not_lost hr)
  · rw [if_neg (by decide)]
    refine .of_lost ?_ ⟨xs, holds.frame rfl rfl rfl⟩ (sil.shape shfail) len.symm
      (ended failed (.inr rfl))
    exact .inr (.inr (.inr ⟨rfl, .inr hs⟩))

/-- Completing the response keeps the invariant: nothing is left to queue. -/
lemma Tracked.completed {phase : Phase} {resumed : Bool} (h : Tracked es st)
    (shape : Shape es { st.worker with phase := phase })
    (rem : Responder.remaining { st.worker with phase := phase } = st.worker.remaining)
    (ended : Ended es { st.worker with phase := phase }) :
    Tracked (es ++ [Event.worker .go (.complete resumed)])
      { st with
        worker := { st.worker with phase := phase }
        stream := (streamResponseComplete st.stream).1 } := by
  have sil : Silent (.worker .go (.complete resumed)) := ⟨rfl, rfl⟩
  obtain ⟨xs, holds⟩ := h.holds
  exact
    { holds := ⟨xs, holds.frame rfl rfl rfl⟩
      shape := sil.shape shape
      len := by rw [sil.queued_snoc]; exact h.len
      account := by
        refine h.account.imp id fun ⟨h1, h2⟩ => ⟨h1, ?_⟩
        rw [sil.body_snoc, sil.queued_snoc, rem]
        exact h2
      complete := fun _ => .inr (sil.ended ended)
      ended := by
        intro hx
        rw [endedCleanly_snoc] at hx
        rw [sil.body_snoc, sil.queued_snoc]
        exact ⟨(h.ended (hx.resolve_right (by simp))).1, sil.ended ended⟩ }

/-- A silent move within the filter, or on to the tail, keeps the invariant if no byte gets lost. -/
lemma Tracked.glide {ctx : Ctx} (h : Tracked es st) (phase : Phase) (sil : Silent e)
    (noread : ∀ r, e ≠ .read r false) (early : st.worker.phase.early = true)
    (early' : phase.early = true) (streaming : ctx.streaming = st.worker.ctx.streaming)
    (heap : ctx.dataheap = st.worker.ctx.dataheap)
    (large : ctx.responseTooLarge = st.worker.ctx.responseTooLarge)
    (bytes : ctx.responseTooLarge = true ∨ phase.inHand ++ content phase.buckets =
      st.worker.phase.inHand ++ content st.worker.phase.buckets)
    (shape : Shape es ⟨ctx, phase⟩) :
    Tracked (es ++ [e]) { st with worker := ⟨ctx, phase⟩ } := by
  have rem : Responder.remaining ⟨ctx, phase⟩ = st.worker.remaining := by
    rw [Responder.remaining_early early', show st.worker =
      ⟨st.worker.ctx, st.worker.phase⟩ from rfl, Responder.remaining_early early, heap, large]
    rcases bytes with hl | hb
    · rw [large] at hl
      rw [if_pos hl, if_pos hl]
    · rw [hb]
  have bodyEq : body (es ++ [e]) ⟨ctx, phase⟩ = body es st.worker := by
    rw [sil.body_snoc, body, body,
      show (⟨ctx, phase⟩ : Responder).ctx.responseTooLarge =
      st.worker.ctx.responseTooLarge from large]
  refine h.quiet noread sil.queued (sil.shape shape) ?_ ?_
  · intro _ ha
    rw [bodyEq, rem]
    exact ha
  · intro he
    refine ⟨sil.ended ⟨rem.trans he.remaining, .inr ?_⟩, bodyEq⟩
    refine (he.last.resolve_left ?_).imp (fun hs => streaming.trans hs) id
    intro hp
    rw [hp] at early
    cases early

/-- A silent move that takes no byte in hand keeps the invariant if no byte gets lost, the buckets
to come are tidy and no EOS appears among them. -/
lemma Tracked.pass {ctx : Ctx} {phase : Phase} (h : Tracked es st)
    (plain : phase = .handler ∨ phase = .tail ∨ ∃ bb, phase = .filtering bb) (sil : Silent e)
    (noread : ∀ r, e ≠ .read r false) (early : st.worker.phase.early = true)
    (streaming : ctx.streaming = st.worker.ctx.streaming)
    (heap : ctx.dataheap = st.worker.ctx.dataheap)
    (large : ctx.responseTooLarge = st.worker.ctx.responseTooLarge)
    (bytes : ctx.responseTooLarge = true ∨ phase.inHand ++ content phase.buckets =
      st.worker.phase.inHand ++ content st.worker.phase.buckets)
    (tidy : Tidy phase.buckets) (eos : .eos ∈ phase.buckets → .eos ∈ st.worker.phase.buckets) :
    Tracked (es ++ [e]) { st with worker := ⟨ctx, phase⟩ } := by
  have early' : phase.early = true := by
    rcases plain with rfl | rfl | ⟨bb, rfl⟩ <;> rfl
  refine h.glide phase sil noread early early' streaming heap large bytes ?_
  refine h.shape.move streaming (fun _ => ⟨heap, large⟩) (fun _ => early) tidy ?_ eos ?_ ?_
  · rcases plain with rfl | rfl | ⟨bb, rfl⟩ <;> exact not_appends (by simp) (by simp)
  · rcases plain with rfl | rfl | ⟨bb, rfl⟩ <;> exact fun hne => absurd rfl hne
  · rcases plain with rfl | rfl | ⟨bb, rfl⟩ <;> simp

/-- What capturing bytes does to the context. -/
lemma captureBodyBucket_cases (ctx : Ctx) (data : List UInt8) :
    (data = [] ∧ captureBodyBucket ctx data = ctx) ∨
    captureBodyBucket ctx data = { ctx with responseTooLarge := true } ∨
    captureBodyBucket ctx data = { ctx with dataheap := ctx.dataheap ++ data } := by
  rw [captureBodyBucket]
  split_ifs with h1
  · exact .inl ⟨h1, rfl⟩
  · exact .inr (.inl rfl)
  · exact .inr (.inr rfl)

/-- Capturing what was read of a bucket keeps the invariant: the bytes go to the buffer, or the
response is now the fixed answer to an oversized body. -/
lemma Tracked.capture {c : List UInt8} {bb : List Bucket} {n : Nat} (h : Tracked es st)
    (hs : st.worker.ctx.streaming = false) (hl : st.worker.ctx.responseTooLarge = false)
    (hp : st.worker.phase = .filtering (.data c :: bb)) :
    Tracked (es ++ [Event.worker (.read (.ok n)) (.read c (.ok n))])
      { st with
        worker := ⟨captureBodyBucket st.worker.ctx (c.take n), .filtering (splitOff c n bb)⟩ } := by
  obtain ⟨⟨ctx, wphase⟩, stream, reset⟩ := st
  dsimp only at hs hl hp
  subst hp
  have sil : Silent (.worker (.read (.ok n)) (.read c (.ok n))) := ⟨rfl, rfl⟩
  have empty : queued es = [] := h.shape.buffered hs rfl
  have tidy : Tidy (splitOff c n bb) := Tidy.splitOff h.shape.tidy
  have eos : .eos ∈ splitOff c n bb → eosPassed es := by
    intro hx
    refine h.shape.eos (List.mem_cons_of_mem _ ?_)
    rw [splitOff] at hx
    split at hx
    · simpa using hx
    · exact hx
  have shape : ∀ ctx' : Ctx, ctx'.streaming = false →
      Shape es ⟨ctx', .filtering (splitOff c n bb)⟩ := by
    intro ctx' hs'
    exact
      { streaming := fun ht => absurd (hs'.symm.trans ht) (by simp)
        buffered := fun _ _ => empty
        tidy := tidy
        append := not_appends (by simp) (by simp)
        eos := eos
        filter := fun hne => absurd rfl hne
        completing := by simp }
  have unended : ¬ Ended es ⟨ctx, .filtering (.data c :: bb)⟩ := by
    intro he
    obtain ⟨ht, _⟩ := he.last.resolve_left (by simp)
    exact absurd (hs.symm.trans ht) (by simp)
  have split := content_splitOff c n bb
  have before : body es ⟨ctx, .filtering (.data c :: bb)⟩ =
      queued es ++ Responder.remaining ⟨ctx, .filtering (.data c :: bb)⟩ →
      produced es = ctx.dataheap ++ (c ++ content bb) := by
    intro ha
    rw [body, if_neg (by simp [hl]), empty, Responder.remaining_early rfl,
      if_neg (by simp [hl])] at ha
    exact ha
  rcases captureBodyBucket_cases ctx (c.take n) with ⟨h1, e⟩ | e | e <;> rw [e] <;>
    refine h.quiet (by simp) rfl (sil.shape (shape _ hs)) (fun _ ha => ?_)
    (fun he => absurd he unended) <;>
    rw [sil.body_snoc, empty]
  · rw [body, if_neg (by simp [hl]), before ha, Responder.remaining_early rfl,
      if_neg (by simp [hl]), ← split, h1]
    rfl
  · rfl
  · rw [body, if_neg (by simp [hl]), before ha, Responder.remaining_early rfl,
      if_neg (by simp [hl]), ← split, List.nil_append, List.append_assoc]
    rfl

/-- A brigade from the handler keeps the invariant. -/
lemma Tracked.brigade {bb : List Bucket} (h : Tracked es st)
    (smooth : Smooth (es ++ [Event.worker (.brigade bb) (.brigade bb)]))
    (hp : st.worker.phase = .handler) :
    Tracked (es ++ [Event.worker (.brigade bb) (.brigade bb)])
      { st with worker := { st.worker with phase := .filtering bb } } := by
  obtain ⟨⟨ctx, wphase⟩, stream, reset⟩ := st
  dsimp only at hp
  subst hp
  obtain ⟨tidy, after⟩ := smooth.brigades es _ bb [] rfl
  have hq : queued (es ++ [Event.worker (.brigade bb) (.brigade bb)]) = queued es :=
    queued_snoc.trans (List.append_nil _)
  have rem : Responder.remaining ⟨ctx, .filtering bb⟩ =
      if ctx.responseTooLarge then oversizedMsg else ctx.dataheap ++ content bb := rfl
  have rem0 : Responder.remaining ⟨ctx, .handler⟩ =
      if ctx.responseTooLarge then oversizedMsg else ctx.dataheap := by
    rw [Responder.remaining_early rfl]
    simp [Phase.inHand, Phase.buckets]
  refine h.quiet (by simp) rfl ?_ ?_ ?_
  · exact
      { streaming := h.shape.streaming
        buffered := fun hs _ => hq.trans (h.shape.buffered hs rfl)
        tidy := tidy
        append := not_appends (by simp) (by simp)
        eos := fun hx => eosPassed_snoc.mpr (.inr hx)
        filter := fun hne => absurd rfl hne
        completing := by simp }
  · intro _ ha
    simp only [rem0, body] at ha
    simp only [rem, body, produced_snoc, Event.brigade]
    split at ha
    · rename_i hl
      rw [if_pos hl, if_pos hl]
      exact ha
    · rename_i hl
      rw [if_neg hl, if_neg hl, ha, List.append_assoc]
  · intro he
    obtain ⟨hs, hx⟩ := he.last.resolve_left (by simp)
    obtain ⟨_, hl⟩ := h.shape.streaming hs
    have hrem := he.remaining
    dsimp only at hl hrem
    rw [rem0, hl] at hrem
    refine ⟨⟨?_, .inr ⟨hs, eosPassed_snoc.mpr (.inl hx)⟩⟩, ?_⟩
    · rw [rem, hl, after hx, List.append_nil]
      exact hrem
    · simp only [body, hl, produced_snoc, Event.brigade, after hx, List.append_nil]

/-- A data bucket that was read: its bytes are in hand until they are appended. -/
lemma Tracked.bucketRead {c : List UInt8} {bb : List Bucket} {n : Nat} (h : Tracked es st)
    (hp : st.worker.phase = .reading c bb) :
    Tracked (es ++ [Event.worker (.read (.ok n)) (.read c (.ok n))])
      { st with
        worker :=
          { st.worker with
            phase :=
              if c.take n = [] then .filtering (splitOff c n bb)
              else .appending (c.take n) (splitOff c n bb) } } := by
  have sh := h.shape
  have tidy := sh.tidy
  rw [hp] at tidy
  have eos : .eos ∈ splitOff c n bb → .eos ∈ st.worker.phase.buckets := by
    intro hx
    rw [hp]
    rw [splitOff] at hx
    split at hx
    · exact (List.mem_cons.mp hx).resolve_left (by simp)
    · exact hx
  have split := content_splitOff c n bb
  by_cases hz : c.take n = []
  · rw [hz, List.nil_append] at split
    rw [if_pos hz]
    exact h.pass (.inr (.inr ⟨_, rfl⟩)) ⟨rfl, rfl⟩ (by simp) (by rw [hp]; rfl) rfl rfl rfl
      (.inr (by rw [hp]; exact split)) tidy.splitOff eos
  · rw [if_neg hz]
    have hs : st.worker.ctx.streaming = true := by
      refine sh.filter ?_
      rw [hp]
      rintro rfl
      exact hz List.take_nil
    refine h.glide (.appending (c.take n) (splitOff c n bb)) ⟨rfl, rfl⟩ (by simp)
      (by rw [hp]; rfl) rfl rfl rfl rfl (.inr (by rw [hp]; exact split)) ?_
    refine sh.move rfl (fun _ => ⟨rfl, rfl⟩) (fun _ => by rw [hp]; rfl) tidy.splitOff ?_ eos
      (fun _ => hs) (by simp)
    rintro data more done failed (hx | hx)
    · cases hx
      exact hz
    · cases hx

/-- The completion at EOS, which only streaming reaches. -/
lemma Tracked.eosCompleted {bb : List Bucket} {resumed : Bool} (h : Tracked es st)
    (hp : st.worker.phase = .completing bb) :
    Tracked (es ++ [Event.worker .go (.complete resumed)])
      { st with
        worker := { st.worker with phase := .filtering bb }
        stream := (streamResponseComplete st.stream).1 } := by
  have sh := h.shape
  -- only streaming completes here; the EOS was in the brigade, so that no content follows it
  have hs := sh.completing bb hp
  obtain ⟨hd, hl⟩ := sh.streaming hs
  have tidy := sh.tidy
  have eos := sh.eos
  rw [hp] at tidy eos
  have rest : content bb = [] := tidy
  have rem : Responder.remaining { st.worker with phase := .filtering bb } = [] := by
    rw [Responder.remaining_early rfl, hd, hl]
    simp [Phase.inHand, Phase.buckets, rest]
  refine h.completed ?_ ?_ ⟨rem, .inr ⟨hs, eos List.mem_cons_self⟩⟩
  · exact sh.move rfl (fun _ => ⟨rfl, rfl⟩) (fun _ => by rw [hp]; rfl) (.of_empty rest)
      (not_appends (by simp) (by simp)) (by rw [hp]; exact List.mem_cons_of_mem _)
      (fun hne => absurd rfl hne) (by simp)
  · rw [rem, show st.worker = ⟨st.worker.ctx, st.worker.phase⟩ from rfl, hp,
      Responder.remaining_early rfl, hd, hl]
    simp [Phase.inHand, Phase.buckets, Bucket.content, rest]

/-- Every step of the worker keeps the invariant. -/
lemma Tracked.worker {a : Answer} {act : Act} {s' : Stream} (h : Tracked es st)
    (smooth : Smooth (es ++ [Event.worker a act]))
    (fresh : ∀ p, a = .append (some p) → st.stream.responseQueue.mem p = none)
    (m : Moves st.worker st.stream a w' s' act) :
    Tracked (es ++ [Event.worker a act]) { st with worker := w', stream := s' } := by
  have last : .worker a act ∈ es ++ [Event.worker a act] :=
    List.mem_append_right es (List.mem_singleton_self _)
  have sh := h.shape
  cases m with
  | brigade hp => exact h.brigade smooth hp
  | finished hp =>
    exact h.pass (.inr (.inl rfl)) ⟨rfl, rfl⟩ (by simp) (by rw [hp]; rfl) rfl rfl rfl
      (.inr (by rw [hp]; rfl)) trivial (by simp [Phase.buckets])
  | brigadeEnd hp =>
    exact h.pass (.inl rfl) ⟨rfl, rfl⟩ (by simp) (by rw [hp]; rfl) rfl rfl rfl
      (.inr (by rw [hp]; rfl)) trivial (by simp [Phase.buckets])
  | @error bb hp =>
    -- the rest of the brigade is dropped, which in a tidy one has no content
    have tidy := sh.tidy
    rw [hp] at tidy
    have rest : content bb = [] := tidy
    exact h.pass (.inl rfl) ⟨rfl, rfl⟩ (by simp) (by rw [hp]; rfl) rfl rfl rfl
      (.inr (by rw [hp]; simp [Phase.inHand, Phase.buckets, Bucket.content, rest])) trivial
      (by simp [Phase.buckets])
  | @response resp bb hs hp =>
    have tidy := sh.tidy
    rw [hp] at tidy
    exact h.pass (.inr (.inr ⟨bb, rfl⟩)) ⟨rfl, rfl⟩ (by simp) (by rw [hp]; rfl) rfl rfl rfl
      (.inr (by rw [hp]; rfl)) tidy (by rw [hp]; exact List.mem_cons_of_mem _)
  | @skipData c bb hs hl hp =>
    -- the bytes are not part of the response: it is the fixed answer by now
    have tidy := sh.tidy
    rw [hp] at tidy
    exact h.pass (.inr (.inr ⟨bb, rfl⟩)) ⟨rfl, rfl⟩ (by simp) (by rw [hp]; rfl) rfl rfl rfl
      (.inl hl) tidy (by rw [hp]; exact List.mem_cons_of_mem _)
  | captureFailed _ _ => exact absurd last (smooth.reads _)
  | capture hs hl hp => exact h.capture hs hl hp
  | @skip b bb hb hp =>
    have tidy : Tidy bb := by
      have := sh.tidy
      rw [hp] at this
      rcases hb with rfl | ⟨_, rfl | rfl⟩
      · exact this
      · exact this
      · exact .of_empty this
    have empty : b.content = [] := by
      rcases hb with rfl | ⟨_, rfl | rfl⟩ <;> rfl
    exact h.pass (.inr (.inr ⟨bb, rfl⟩)) ⟨rfl, rfl⟩ (by simp) (by rw [hp]; rfl) rfl rfl rfl
      (.inr (by rw [hp]; simp [Phase.inHand, Phase.buckets, empty])) tidy
      (by rw [hp]; exact List.mem_cons_of_mem _)
  | submit site eq => exact h.submit site eq
  | readFailed _ => exact absurd last (smooth.reads _)
  | read hp => exact h.bucketRead hp
  | append site eq => exact h.append smooth (fun p hm => fresh p (by rw [hm])) site eq
  | waitFailed _ => exact absurd last (smooth.waits _)
  | complete hp => exact h.eosCompleted hp
  | tailComplete hp =>
    refine h.completed ?_ ?_ ⟨rfl, .inl rfl⟩
    · exact sh.move rfl (fun _ => ⟨rfl, rfl⟩) (by simp [Phase.early]) trivial
        (not_appends (by simp) (by simp)) (by simp [Phase.buckets]) (fun hne => absurd rfl hne)
          (by simp)
    · rw [show st.worker = ⟨st.worker.ctx, st.worker.phase⟩ from rfl, hp]
      rfl

/-- A step of the event thread that leaves the history of the body alone keeps the invariant, if it
loses no loss and completes no response. -/
lemma Tracked.event {s' : Stream} (h : Tracked es st) (reset : Bool) (sil : Silent e)
    (holds : ∃ xs, Holds s' xs) (len : s'.responseLen = st.stream.responseLen)
    (lost : Lost st → Lost { st with stream := s', reset := reset })
    (cancelled : s'.responseCancelled = st.stream.responseCancelled ∨
      Lost { st with stream := s', reset := reset })
    (complete : s'.responseComplete = st.stream.responseComplete ∨
      Lost { st with stream := s', reset := reset })
    (ended : (∃ r : ReadResult, r.eof = true ∧ e = .read r false) →
      queued es = body es st.worker ∧ Ended es st.worker) :
    Tracked (es ++ [e]) { st with stream := s', reset := reset } where
  holds := holds
  shape := sil.shape h.shape
  len := by rw [sil.queued_snoc]; exact len.trans h.len
  account := by
    rw [sil.body_snoc, sil.queued_snoc]
    rcases cancelled with hc | hl
    · exact h.account.imp lost fun ⟨h1, h2⟩ => ⟨hc.trans h1, h2⟩
    · exact .inl hl
  complete hx := by
    rcases complete with hc | hl
    · exact (h.complete (hc ▸ hx)).imp lost sil.ended
    · exact .inl hl
  ended hx := by
    rw [endedCleanly_snoc] at hx
    rw [sil.body_snoc, sil.queued_snoc]
    rcases hx with hx | hx
    · exact ⟨(h.ended hx).1, sil.ended (h.ended hx).2⟩
    · exact ⟨(ended hx).1, sil.ended (ended hx).2⟩

/-- Every step keeps the invariant. -/
lemma Tracked.step (h : Tracked es st) (smooth : Smooth (es ++ [e])) (step : Step st e st') :
    Tracked (es ++ [e]) st' := by
  obtain ⟨xs, holds⟩ := h.holds
  cases step with
  | worker fresh eq => exact h.worker smooth fresh (step_moves eq)
  | @read veccnt s r _ submitted aborted dead ngh3 eq =>
    obtain ⟨frame, eof⟩ := sessionReadData_frame eq
    refine h.event st.reset ⟨rfl, rfl⟩ ⟨xs, ?_⟩ ?_ ?_ (.inl ?_) (.inl ?_) ?_
    · exact holds.frame (by rw [frame]) (by rw [frame]) (by rw [frame])
    · rw [frame]
    · intro hl
      rw [frame]
      exact hl
    · rw [frame]
    · rw [frame]
    · -- a clean end: the response is not lost, so it is complete and nothing is left to queue
      rintro ⟨r', end', er⟩
      simp only [Event.read.injEq] at er
      obtain ⟨rfl, live⟩ := er
      have notLost : ¬ Lost st := by
        rintro (hl | hl | hl | ⟨_, hl | hl⟩)
        · rw [aborted] at hl
          cases hl
        · rw [dead] at hl
          cases hl
        · rw [ngh3] at hl
          cases hl
        · rw [live] at hl
          cases hl
        · rw [submitted] at hl
          cases hl
      obtain ⟨hc, ha⟩ := h.account.resolve_left notLost
      have complete : st.stream.responseComplete = true :=
        (eof end').resolve_left (by rw [hc]; simp)
      have ended := (h.complete complete).resolve_left notLost
      rw [ended.remaining, List.append_nil] at ha
      exact ⟨ha.symm, ended⟩
  | @ack n s eq =>
    have frame := ackLoop_frame eq
    obtain ⟨t, eq', holds'⟩ := holds.ack n
    rw [eq] at eq'
    cases eq'
    refine h.event st.reset ⟨rfl, rfl⟩ ⟨_, holds'⟩ ?_ ?_ (.inl ?_) (.inl ?_) (by simp)
    · rw [frame]
    · intro hl
      rw [frame]
      exact hl
    · rw [frame]
    · rw [frame]
  | cancel =>
    have lost : Lost { st with stream := streamResponseCancelLocked st.stream, reset := true } :=
      .inr (.inr (.inr ⟨rfl, .inl rfl⟩))
    exact h.event _ ⟨rfl, rfl⟩ ⟨xs, holds.frame rfl rfl rfl⟩ rfl (fun _ => lost) (.inr lost)
      (.inr lost)
      (by simp)
  | session aborted dead gone =>
    refine h.event st.reset ⟨rfl, rfl⟩ ⟨xs, holds.frame rfl rfl rfl⟩ rfl ?_ (.inl rfl)
      (.inl rfl) (by simp)
    rintro (hl | hl | hl | hl)
    · exact .inl (by simp [hl])
    · exact .inr (.inl (by simp [hl]))
    · exact .inr (.inr (.inl (by simp [hl])))
    · exact .inr (.inr (.inr hl))

end

/-- Every run in which nothing goes wrong keeps the invariant. -/
lemma Tracked.run {limit : UInt64} {max : Nat} {es : List Event} {st : State}
    (run : Run Step (State.init limit max) es st) (smooth : Smooth es) : Tracked es st := by
  refine run.invariant_hist (P := fun es st => Smooth es → Tracked es st) ?_ ?_ smooth
  · intro es s e t h step smooth
    exact (h smooth.init).step smooth step
  · intro _
    exact .init limit max

/-! ### The limit of the body -/

/-- How many body bytes the worker has: those it buffered, those in its hands and those in the
buckets to come. -/
def Responder.held (w : Responder) : Nat :=
  w.ctx.dataheap.length + (w.phase.inHand.length + (content w.phase.buckets).length)

section
variable {es : List Event} {e : Event} {w w' : Responder} {s s' : Stream} {a : Answer} {act : Act}
  {max : Nat}

/-- A bucket is found too large only if the bytes of the response so far are over the limit. -/
lemma captureBodyBucket_held (ctx : Ctx) (c : List UInt8) (n : Nat) (bb : List Bucket) :
    let w : Responder := ⟨ctx, .filtering (.data c :: bb)⟩
    let w' : Responder := ⟨captureBodyBucket ctx (c.take n), .filtering (splitOff c n bb)⟩
    w'.held ≤ w.held ∧ w'.ctx.maxResponseBodySize = ctx.maxResponseBodySize ∧
      (w'.ctx.responseTooLarge = true → ctx.responseTooLarge = true ∨
        ctx.maxResponseBodySize < w.held) := by
  have split := congrArg List.length (content_splitOff c n bb)
  simp only [List.length_append] at split
  simp only [Responder.held, Phase.inHand, Phase.buckets, List.length_nil, content_cons,
    Bucket.content, List.length_append]
  rw [captureBodyBucket]
  split
  · exact ⟨by omega, rfl, .inl⟩
  · split
    · exact ⟨by dsimp only; omega, rfl, fun _ => .inr (by omega)⟩
    · refine ⟨?_, rfl, .inl⟩
      simp only [List.length_append]
      omega

/-- A submission drops bytes, or leaves them where they are. -/
lemma Submits.held {ctx : Ctx} {head : Head} {ok failed : Phase}
    (site : Submits w ctx head ok failed) :
    (∀ phase, phase = ok ∨ phase = failed → Responder.held ⟨ctx, phase⟩ ≤ w.held) ∧
      ctx.maxResponseBodySize = w.ctx.maxResponseBodySize ∧
      ctx.responseTooLarge = w.ctx.responseTooLarge := by
  obtain ⟨ctx, phase⟩ := w
  cases site with
  | response _ hp | data _ hp | flush _ hp | eos _ hp =>
    cases hp
    refine ⟨?_, rfl, rfl⟩
    rintro _ (rfl | rfl)
    · simp [Responder.held, Phase.inHand, Phase.buckets, Bucket.content]
    · simp [Responder.held, Phase.inHand, Phase.buckets]
  | tail hp =>
    cases hp
    refine ⟨?_, rfl, rfl⟩
    rintro _ (rfl | rfl)
    · split
      · exact le_rfl
      · exact le_rfl
    · exact le_rfl

/-- An append drops bytes, or leaves them where they are. -/
lemma Appends.held {data : List UInt8} {more : List UInt8 → Phase} {done failed : Phase}
    (site : Appends w data more done failed) (ret : AppendRet) :
    Responder.held { w with phase := afterTurn data more done failed ret } ≤ w.held ∧
      Responder.held { w with phase := failed } ≤ w.held := by
  obtain ⟨ctx, phase⟩ := w
  cases site with
  | filter hp =>
    cases hp
    refine ⟨?_, by simp [Responder.held, Phase.inHand, Phase.buckets]⟩
    cases ret with
    | wait => exact le_rfl
    | ret rv => simp [afterTurn, Responder.held, Phase.inHand, Phase.buckets]
    | chunk n resumed =>
      rw [afterTurn]
      split
      · simp [Responder.held, Phase.inHand, Phase.buckets]
      · simp [Responder.held, Phase.inHand, Phase.buckets]
  | tail hp =>
    cases hp
    refine ⟨?_, le_rfl⟩
    cases ret with
    | wait | ret => exact le_rfl
    | chunk n resumed =>
      rw [afterTurn]
      split
      · exact le_rfl
      · exact le_rfl

/-- The worker has no bytes but those of the brigades it was passed, and finds the body too large
only when these are over the limit. -/
lemma Moves.held (m : Moves w s a w' s' act) :
    w'.held ≤ w.held + (content (Event.worker a act).brigade).length ∧
      w'.ctx.maxResponseBodySize = w.ctx.maxResponseBodySize ∧
      (w'.ctx.responseTooLarge = true → w.ctx.responseTooLarge = true ∨
        w.ctx.maxResponseBodySize < w.held) := by
  cases m with
  | submit site eq =>
    obtain ⟨less, config, large⟩ := site.held
    refine ⟨Nat.le_add_right_of_le (less _ ?_), config, fun is => .inl (large ▸ is)⟩
    split
    · exact .inl rfl
    · exact .inr rfl
  | append site eq => exact ⟨Nat.le_add_right_of_le (site.held _).1, rfl, .inl⟩
  | waitFailed site => exact ⟨Nat.le_add_right_of_le (site.held .wait).2, rfl, .inl⟩
  | @capture c bb n _ _ hp =>
    obtain ⟨ctx, phase⟩ := w
    cases hp
    obtain ⟨less, config, large⟩ := captureBodyBucket_held ctx c n bb
    exact ⟨Nat.le_add_right_of_le less, config, large⟩
  | @read c bb n hp =>
    obtain ⟨ctx, phase⟩ := w
    cases hp
    have split := congrArg List.length (content_splitOff c n bb)
    simp only [List.length_append] at split
    refine ⟨Nat.le_add_right_of_le ?_, rfl, .inl⟩
    split
    · simp only [Responder.held, Phase.inHand, Phase.buckets, List.length_nil]
      omega
    · simp only [Responder.held, Phase.inHand, Phase.buckets]
      omega
  | brigade hp | finished hp | brigadeEnd hp | error hp | response _ hp | skipData _ _ hp
  | captureFailed _ hp
  | skip _ hp | readFailed hp | complete hp | tailComplete hp =>
    obtain ⟨ctx, phase⟩ := w
    cases hp
    refine ⟨?_, rfl, .inl⟩
    simp [Responder.held, Phase.inHand, Phase.buckets, Event.brigade, Bucket.content]

/-- The worker holds no more than the handler produced, and finds a body too large only when it
is. -/
structure Within (max : Nat) (es : List Event) (w : Responder) : Prop where
  config : w.ctx.maxResponseBodySize = max
  held : w.held ≤ (produced es).length
  large : w.ctx.responseTooLarge = true → max < (produced es).length

/-- Every step keeps this. -/
lemma Within.step {st st' : State} (h : Within max es st.worker) (step : Step st e st') :
    Within max (es ++ [e]) st'.worker := by
  have grown : (produced (es ++ [e])).length = (produced es).length +
      (content e.brigade).length := by
    rw [produced_snoc, List.length_append]
  cases step with
  | worker fresh eq =>
    obtain ⟨less, config, large⟩ := (step_moves eq).held
    refine ⟨config.trans h.config, ?_, ?_⟩
    · rw [grown]
      exact Nat.le_trans less (Nat.add_le_add_right h.held _)
    · intro is
      rw [grown]
      refine Nat.lt_add_right _ ?_
      rcases large is with before | above
      · exact h.large before
      · rw [h.config] at above
        exact Nat.lt_of_lt_of_le above h.held
  | read | ack | cancel | session =>
    have more : (produced es).length ≤ (produced (es ++ [_])).length := grown ▸ Nat.le_add_right ..
    exact ⟨h.config, Nat.le_trans h.held more, fun is => Nat.lt_of_lt_of_le (h.large is) more⟩

end

/-- A body is found too large only when it is over the limit. -/
lemma Within.run {limit : UInt64} {max : Nat} {es : List Event} {st : State}
    (run : Run Step (State.init limit max) es st) : Within max es st.worker := by
  refine run.invariant_hist (P := fun es st => Within max es st.worker) ?_ ⟨rfl, le_rfl, nofun⟩
  exact fun es s e t h step => h.step step

/-- A response whose body is incomplete is never ended cleanly, as long as no bucket read, no
allocation and no condition wait fails and the body is within its limit: once nghttp3 was told that
the body is at its end, everything the handler produced was queued. -/
theorem clean_end_complete {limit : UInt64} {max : Nat} {es : List Event} {st : State}
    (run : Run Step (State.init limit max) es st) (smooth : Smooth es)
    (fits : (produced es).length ≤ max) (ended : endedCleanly es) : queued es = produced es := by
  have h := ((Tracked.run run smooth).ended ended).1
  have small : st.worker.ctx.responseTooLarge = false := by
    rw [← Bool.not_eq_true]
    intro large
    exact absurd ((Within.run run).large large) (Nat.not_lt.mpr fits)
  rw [body, small] at h
  exact h

/-- A step as a command to be run. -/
inductive Op where
  | worker (a : Answer)
  | read (veccnt : Nat)

/-- The allocator returns no address that is in use. -/
def Answer.fresh (s : Stream) : Answer → Bool
  | .append (some p) => (s.responseQueue.mem p).isNone
  | _ => true

/-- Run one command; `none` when it is not possible in this state. -/
def exec (st : State) : Op → Option (State × Event)
  | .worker a => do
    guard (a.fresh st.stream)
    let (w, s, act) ← step st.worker st.stream a
    some ({ st with worker := w, stream := s }, .worker a act)
  | .read veccnt => do
    guard (1 ≤ veccnt ∧ st.stream.responseSubmitted ∧ st.stream.aborted = false ∧
      st.stream.ngh3Dead = false ∧ st.stream.ngh3)
    let (s, r) ← sessionReadData st.stream veccnt
    some ({ st with stream := s }, .read r st.reset)

/-- Commands are steps. -/
lemma exec_step (st : State) (op : Op) (st' : State) (e : Event) (eq : exec st op = some (st', e)) :
    Step st e st' := by
  cases op with
  | worker a =>
    simp only [exec, Option.bind_eq_bind, Option.bind_eq_some_iff, Option.guard_eq_some'] at eq
    obtain ⟨_, fresh, ⟨w, s, act⟩, eq, h⟩ := eq
    cases h
    refine .worker ?_ eq
    rintro p rfl
    exact Option.isNone_iff_eq_none.mp fresh
  | read veccnt =>
    simp only [exec, Option.bind_eq_bind, Option.bind_eq_some_iff, Option.guard_eq_some'] at eq
    obtain ⟨_, ⟨h1, h2, h3, h4, h5⟩, ⟨s, r⟩, eq, h⟩ := eq
    cases h
    exact .read h1 h2 h3 h4 h5 eq

/-- Three bytes streamed to their end. -/
def threeBytes : List Op :=
  [.worker (.brigade [.response { status := 200, headers := none }, .data [1, 2, 3], .eos]),
    .worker (.submit 0), .worker (.submit 0), .worker (.read (.ok 3)), .worker (.append (some 7)),
    .worker (.submit 0), .worker .go, .worker .go, .worker .finished, .worker (.submit 0),
    .worker .go,
    .read 8]

/-- What happens when they are. -/
def threeBytesEvents : List Event :=
  [.worker (.brigade [.response { status := 200, headers := none }, .data [1, 2, 3], .eos])
      (.brigade [.response { status := 200, headers := none }, .data [1, 2, 3], .eos]),
    .worker (.submit 0) (.submit (.response (some { status := 200, headers := none })) true
      .success),
    .worker (.submit 0) (.submit (.response (some { status := 200, headers := none })) false
      .success),
    .worker (.read (.ok 3)) (.read [1, 2, 3] (.ok 3)),
    .worker (.append (some 7)) (.append [1, 2, 3] (.chunk 3 true)),
    .worker (.submit 0) (.submit (.response (some { status := 200, headers := none })) false
      .success),
    .worker .go (.complete true), .worker .go .skip, .worker .finished .finished,
    .worker (.submit 0) (.submit (.response (some { status := 200, headers := none })) false
      .success),
    .worker .go (.complete true), .read { vecs := [[1, 2, 3]], ret := .count 1, eof := true } false]

/-- Nothing goes wrong in `threeBytesEvents`. -/
lemma threeBytesEvents_smooth : Smooth threeBytesEvents where
  reads act := by simp [threeBytesEvents]
  allocs act := by simp [threeBytesEvents]
  waits act := by simp [threeBytesEvents]
  brigades fs a bb gs eq := by
    cases fs with
    | nil =>
      cases eq
      exact ⟨rfl, by simp [eosPassed]⟩
    | cons f fs =>
      have mem : .worker a (.brigade bb) ∈ threeBytesEvents.tail := by
        rw [eq]
        simp
      simp [threeBytesEvents] at mem
  size := by decide +kernel

/-- A response of three bytes that ends cleanly has been queued whole. -/
theorem clean_end_complete_threeBytes :
    ∃ es st, Run Step (State.init 65536 sizeMax) es st ∧ Smooth es ∧
    (produced es).length ≤ sizeMax ∧
      endedCleanly es ∧ queued es = produced es := by
  have run : ((execAll exec (State.init 65536 sizeMax) threeBytes).map Prod.snd) =
      some threeBytesEvents := by
    decide +kernel
  obtain ⟨⟨st, es⟩, run, rfl⟩ := Option.map_eq_some_iff.mp run
  have run := execAll_run exec_step run
  have ended : endedCleanly threeBytesEvents :=
    ⟨{ vecs := [[1, 2, 3]], ret := .count 1, eof := true }, rfl, by simp [threeBytesEvents]⟩
  have smooth := threeBytesEvents_smooth
  exact ⟨threeBytesEvents, st, run, smooth, smooth.size, ended,
    clean_end_complete run smooth smooth.size ended⟩

/-- Without that proviso a short body does end cleanly. While streaming, a failed read of the second
bucket ends the filter call, and the worker completes the response all the same; when memory runs
out the response is cancelled, which reads as its end; and in buffered mode a failed read is
skipped. -/
theorem short_body_ends_cleanly :
    (∃ es st, Run Step (State.init 65536 sizeMax) es st ∧ endedCleanly es ∧
      produced es = [1, 2, 3, 4] ∧ queued es = [1, 2, 3]) ∧
    (∃ es st, Run Step (State.init 65536 sizeMax) es st ∧ endedCleanly es ∧
      produced es = [1, 2, 3] ∧ queued es = []) ∧
    (∃ es st, Run Step (State.init 65536 1000) es st ∧ endedCleanly es ∧
      produced es = [1, 2, 3, 4] ∧ queued es = [4]) := by
  have clean : ∀ (r : ReadResult) (es : List Event), r.eof = true →
    es.getLast? = some (.read r false) →
      endedCleanly es := fun r es h h' => ⟨r, h, List.mem_of_getLast? h'⟩
  have witness : ∀ {max : Nat} (r : ReadResult) (ops : List Op) {p q : List UInt8}, r.eof = true →
      ((execAll exec (State.init 65536 max) ops).map
        fun x => (x.2.getLast?, produced x.2, queued x.2)) = some (some (.read r false), p, q) →
      ∃ es st, Run Step (State.init 65536 max) es st ∧ endedCleanly es ∧ produced es = p ∧
        queued es = q := by
    intro max r ops p q eof h
    obtain ⟨⟨st, es⟩, run, e⟩ := Option.map_eq_some_iff.mp h
    simp only [Prod.mk.injEq] at e
    obtain ⟨last, hp, hq⟩ := e
    exact ⟨es, st, execAll_run exec_step run, clean r es eof last, hp, hq⟩
  refine ⟨?_, ?_, ?_⟩
  · refine witness { vecs := [[1, 2, 3]], ret := .count 1, eof := true }
      [.worker (.brigade [.data [1, 2, 3], .data [4]]), .worker (.submit 0),
        .worker (.read (.ok 3)), .worker (.append (some 7)), .worker (.submit 0),
        .worker (.read .failed), .worker .finished,
        .worker (.submit 0), .worker .go, .read 8] rfl ?_
    decide +kernel
  · refine witness { vecs := [], ret := .count 0, eof := true }
      [.worker (.brigade [.data [1, 2, 3]]), .worker (.submit 0), .worker (.read (.ok 3)),
        .worker (.append none), .read 8] rfl ?_
    decide +kernel
  · refine witness { vecs := [[4]], ret := .count 1, eof := true }
      [.worker (.brigade [.data [1, 2, 3], .data [4]]), .worker (.read .failed),
        .worker (.read (.ok 1)), .worker .go, .worker .finished, .worker (.submit 0),
        .worker (.append (some 7)), .worker .go, .read 8] rfl ?_
    decide +kernel

end ModHttp3.Worker
