import ModHttp3.Lib.Run
import ModHttp3.Response.Cursor
import ModHttp3.Worker.Truncation

/-!
# A full response queue does not deadlock

The worker that fills the response queue waits while `response_buffered` is at its limit; nghttp3
reads from the queue while its reader of the stream is not suspended, and the queue has room again
when it acknowledges bytes. `Step` is one operation of either side. A measure (`State.work`) goes
down with every operation except a wait. While the worker waits, nghttp3 can read or acknowledge:
the worker submits the response before it queues a byte, so that nghttp3 has a reader for it, and
what it queues resumes that reader (`Sound.waiting`). While it does not wait, it can go on itself
(`Sound.goes`). Together they say that the worker always comes back to the handler or to its end
(`worker_never_stuck`), as long as nghttp3 goes on reading and acknowledging.
-/

namespace ModHttp3.Worker.Exchange
open ModHttp3.Lib ModHttp3.Response

/-- What nghttp3 does about the body of the response: it asks for more, waits to be resumed since a
read would block, or was told that this is the end. -/
inductive BodyReader where
  | active
  | suspended
  | ended
deriving DecidableEq

/-- `nghttp3_conn_resume_stream`. -/
def BodyReader.resume : BodyReader → BodyReader
  | .suspended => .active
  | r => r

/-- What nghttp3 does after a read. -/
def BodyReader.after (r : ReadResult) : BodyReader :=
  if r.eof then .ended else if r.ret = .wouldBlock then .suspended else .active

/-- The worker, its stream, and nghttp3: `outstanding` is the number of body bytes it was handed and
did not acknowledge. -/
structure State where
  worker : Responder
  stream : Stream
  reader : BodyReader
  outstanding : Nat

/-- A worker that has just called the handler. -/
def State.init (limit : UInt64) (maxResponseBodySize : Nat) : State where
  worker := { ctx := .init maxResponseBodySize, phase := .handler }
  stream := .init limit
  reader := .active
  outstanding := 0

/-- What a step does and observes. -/
inductive Event where
  | worker (a : Answer) (act : Act)
  | read (r : ReadResult)
  | ack (datalen : Nat)
  | cancel
  | session
deriving DecidableEq

/-- The worker tells nghttp3 to resume the stream. -/
def resumes : Act → Bool
  | .append _ (.chunk _ true) | .complete true => true
  | _ => false

/-- The steps of the worker and of nghttp3. The handler passes no body bytes behind an EOS, nor
after the response was completed at one; a bucket that is not empty gives at least a byte. nghttp3
reads a submitted response while its reader is active and the session is not given up, and
acknowledges no more than it was handed. -/
inductive Step : State → Event → State → Prop where
  | worker {x a w s act} :
    (∀ p, a = .append (some p) → x.stream.responseQueue.mem p = none) →
    (∀ bb, a = .brigade bb → Tidy bb ∧
      (x.stream.responseComplete = true → x.stream.responseCancelled = false → content bb = [])) →
    (∀ data n, act = .read data (.ok n) → data ≠ [] → 1 ≤ n) →
    step x.worker x.stream a = some (w, s, act) →
    Step x (.worker a act)
      { x with worker := w, stream := s,
               reader := if resumes act then x.reader.resume else x.reader }
  | read {x veccnt s r} :
    1 ≤ veccnt →
    x.reader = .active →
    x.stream.responseSubmitted = true →
    x.stream.aborted = false →
    x.stream.ngh3Dead = false →
    x.stream.ngh3 = true →
    sessionReadData x.stream veccnt = some (s, r) →
    Step x (.read r)
      { x with stream := s, reader := .after r,
               outstanding := x.outstanding + r.vecs.flatten.length }
  | ack {x n s} :
    1 ≤ n →
    n ≤ x.outstanding →
    streamResponseAckLocked x.stream n = some s →
    Step x (.ack n) { x with stream := s, outstanding := x.outstanding - n }
  | cancel {x} :
    Step x .cancel { x with stream := streamResponseCancelLocked x.stream }
  | session {x} (aborted dead gone : Bool) :
    Step x .session
      { x with
        stream :=
          { x.stream with
            aborted := x.stream.aborted || aborted
            ngh3Dead := x.stream.ngh3Dead || dead
            ngh3 := x.stream.ngh3 && !gone } }

/-- An operation that is not a wait, nor one that fails. -/
def Event.pays : Event → Bool
  | .worker _ (.append _ .wait) | .worker _ .waitFailed | .cancel | .session => false
  | _ => true

/-- An operation of nghttp3 on the body. -/
def Event.byNghttp3 : Event → Bool
  | .read _ | .ack _ => true
  | _ => false

/-- The worker waits in `h3_stream_response_append` for room in the queue. -/
def State.waits (x : State) : Bool :=
  match x.worker.phase with
  | .appending _ _ | .tailAppending _ =>
    decide (x.stream.responseBuffered ≥ x.stream.responseBufferLimit) && !x.stream.gone
  | _ => false

/-- The handler passes a brigade, or returns. -/
def Event.byHandler : Event → Bool
  | .worker _ (.brigade _) | .worker _ .finished => true
  | _ => false

/-- The operations a bucket can cost. -/
def bucketWork : Bucket → Nat
  | .data content => 4 + 11 * content.length
  | _ => 5

/-- The operations that the buckets of a brigade can cost. -/
def bucketsWork (bb : List Bucket) : Nat := (bb.map bucketWork).sum

/-- The operations until the worker is back in the handler or done, those included that nghttp3
needs for what it queues. -/
def workOf (w : Responder) : Nat :=
  match w.phase with
  | .handler | .returned => 0
  | .filtering bb => 1 + bucketsWork bb
  | .reading content bb => 2 + 11 * content.length + bucketsWork bb
  | .appending data bb => 2 + 4 * data.length + bucketsWork bb
  | .completing bb => 4 + bucketsWork bb
  | .tail => 8 + 4 * (tailResponse w.ctx).2.length
  | .tailAppending data => 6 + 4 * data.length
  | .tailCompleting => 4

/-- The operations that are left: each byte that is queued is still to be read and acknowledged,
each one that was handed out to be acknowledged. -/
def State.work (x : State) : Nat :=
  workOf x.worker + 2 * (x.stream.responseBuffered - x.outstanding) + x.outstanding +
    if x.reader = .active then 1 else 0

/-- The phases that come after a successful `submit_response_nva`. -/
def sends : Phase → Bool
  | .reading _ _ | .appending _ _ | .completing _ | .tailAppending _ => true
  | _ => false

/-- The worker has no body bytes left: it is done, or it has passed the EOS bucket while
streaming. -/
structure Spent (w : Responder) : Prop where
  streaming : w.ctx.streaming = true
  inHand : w.phase.inHand = []
  buckets : content w.phase.buckets = []
  tail : ∀ data, w.phase ≠ .tailAppending data

/-- What holds of the worker and its stream. -/
structure Fit (w : Responder) (s : Stream) : Prop where
  submitted : sends w.phase = true → s.responseSubmitted = true
  append : ∀ data more done failed, Appends w data more done failed → data ≠ []
  streaming : w.ctx.streaming = true → w.ctx.responseTooLarge = false
  completing : ∀ bb, w.phase = .completing bb → w.ctx.streaming = true
  tidy : Tidy w.phase.buckets
  complete : s.responseComplete = true → s.responseCancelled = false → w.phase = .returned ∨ Spent w

/-- The session takes nothing for the stream any more. -/
def refused (s : Stream) : Bool := s.gone || !s.ngh3

/-- nghttp3 comes back for what is queued. -/
inductive Attends (s : Stream) (rest : Cells) : BodyReader → Prop where
  | active : Attends s rest .active
  | suspended :
    refused s = true ∨ rest = [] →
    Attends s rest .suspended
  | ended :
    refused s = true ∨ (rest = [] ∧ s.responseComplete = true) →
    Attends s rest .ended

/-- The queue between the two. -/
structure Linked (x : State) (sent rest : Cells) : Prop where
  split : Split x.stream sent rest
  outstanding : x.outstanding = sent.unacked
  attends : Attends x.stream rest x.reader

/-- What holds in every state that can be reached. -/
structure Sound (limit : Nat) (x : State) : Prop where
  fit : Fit x.worker x.stream
  limit : x.stream.responseBufferLimit = limit
  linked : ∃ sent rest, Linked x sent rest

section
variable {w w' : Responder} {s s' : Stream} {a : Answer} {act : Act} {ctx : Ctx} {bb : List Bucket}

/-! ### The work of the worker -/

/-- No buckets are no work. -/
@[simp] lemma bucketsWork_nil : bucketsWork [] = 0 := rfl

/-- The work of a brigade with one more bucket in front. -/
@[simp] lemma bucketsWork_cons (b : Bucket) (bb : List Bucket) :
    bucketsWork (b :: bb) = bucketWork b + bucketsWork bb := List.sum_cons

/-- Splitting a bucket off takes the work of the bytes that are read. -/
lemma bucketsWork_splitOff {data : List UInt8} {n : Nat} (advances : data ≠ [] → 1 ≤ n)
    (bb : List Bucket) :
    bucketsWork (splitOff data n bb) + 11 * (data.take n).length ≤
      4 + 11 * data.length + bucketsWork bb ∧ (data = [] → splitOff data n bb = bb) := by
  constructor
  · rw [splitOff]
    split
    · rw [bucketsWork_cons, bucketWork, List.length_drop, List.length_take]
      omega
    · rw [List.length_take]
      omega
  · rintro rfl
    exact if_neg (Nat.not_lt_zero n)

/-- A read of a bucket that is not empty reads a byte. -/
lemma take_pos {data : List UInt8} {n : Nat} (ne : data ≠ []) (pos : 1 ≤ n) :
    0 < (data.take n).length := by
  rw [List.length_take]
  have := List.length_pos_of_ne_nil ne
  omega

/-- The bytes a step adds to the queue. -/
def gained : Act → Nat
  | .append _ (.chunk n _) => n
  | _ => 0

/-- An operation resumes the reader at most once. -/
lemma resumes_le (act : Act) : (if resumes act then 1 else 0) ≤ 1 := by
  split
  · exact le_rfl
  · exact Nat.zero_le 1

/-- A submission takes something of the work, whether it succeeds or fails. -/
lemma submit_work {ctx' : Ctx} {head : Head} {ok failed : Phase}
    (site : Submits w ctx' head ok failed) :
    workOf ⟨ctx', ok⟩ + 1 ≤ workOf w ∧ workOf ⟨ctx', failed⟩ + 1 ≤ workOf w := by
  obtain ⟨ctx, phase⟩ := w
  cases site with
  | response _ hp | data _ hp | flush _ hp | eos _ hp =>
    cases hp
    simp only [workOf, bucketsWork_cons, bucketWork]
    omega
  | tail hp =>
    cases hp
    by_cases noTail : (tailResponse ctx).2 = []
    · simp only [workOf, noTail, if_true]
      omega
    · simp only [workOf, noTail, if_false]
      omega

/-- What an append costs in either place: `more` grows with the bytes, and its base is above the
other two phases. -/
lemma append_cost {data : List UInt8} {more : List UInt8 → Phase} {done failed : Phase}
    (site : Appends w data more done failed) :
    ∃ base, (∀ d, workOf ⟨w.ctx, more d⟩ = base + 4 * d.length) ∧
      workOf ⟨w.ctx, done⟩ + 1 ≤ base ∧ workOf ⟨w.ctx, failed⟩ + 1 ≤ base ∧
      w.phase = more data := by
  cases site with
  | @filter bb hp =>
    refine ⟨2 + bucketsWork bb, fun d => ?_, ?_, ?_, hp⟩
    · simp only [workOf]
      omega
    · simp only [workOf]
      omega
    · simp only [workOf]
      omega
  | tail hp =>
    refine ⟨6, fun d => rfl, ?_, ?_, hp⟩
    · simp only [workOf]
      omega
    · simp only [workOf]
      omega

/-- Every operation of the worker that is not a wait takes something of its work, and enough for
nghttp3 to read and acknowledge what was queued. -/
lemma move_work (m : Moves w s a w' s' act) (own : (Event.worker a act).byHandler = false)
    (bytes : ∀ data n, act = .read data (.ok n) → data ≠ [] → 1 ≤ n)
    (chunk : ∀ data n b, act = .append data (.chunk n b) → 1 ≤ n ∧ n ≤ data.length) :
    workOf w' + 2 * gained act + (if resumes act then 1 else 0) +
      (if (Event.worker a act).pays then 1 else 0) ≤
      workOf w := by
  obtain ⟨ctx, phase⟩ := w
  cases m with
  | brigade => cases own
  | finished => cases own
  | brigadeEnd hp | error hp | response _ hp | skipData _ _ hp | captureFailed _ hp
  | readFailed hp =>
    cases hp
    simp only [workOf, gained, resumes, Event.pays, bucketsWork_cons, bucketWork,
      Bool.false_eq_true, if_false, if_true]
    omega
  | @capture data bb n _ _ hp =>
    cases hp
    obtain ⟨split, empty⟩ := bucketsWork_splitOff (bytes data n rfl) bb
    simp only [workOf, gained, resumes, Event.pays, bucketsWork_cons, bucketWork,
      Bool.false_eq_true, if_false, if_true]
    by_cases noData : data = []
    · rw [empty noData]
      omega
    · have taken := take_pos noData (bytes data n rfl noData)
      omega
  | @skip b _ kind hp =>
    cases hp
    have cost : bucketWork b = 5 := by
      rcases kind with rfl | ⟨_, rfl | rfl⟩
      · rfl
      · rfl
      · rfl
    simp only [workOf, gained, resumes, Event.pays, bucketsWork_cons, cost, Bool.false_eq_true,
      if_false, if_true]
    omega
  | @submit ctx' head ok failed rv _ status called site eq =>
    have both := submit_work site
    simp only [gained, resumes, Event.pays, Bool.false_eq_true, if_false, if_true]
    split
    · exact both.1
    · exact both.2
  | @read data bb n hp =>
    cases hp
    obtain ⟨split, empty⟩ := bucketsWork_splitOff (bytes data n rfl) bb
    simp only [gained, resumes, Event.pays, Bool.false_eq_true, if_false, if_true]
    by_cases noData : data = []
    · rw [empty noData, noData, List.take_nil, if_pos rfl]
      simp only [workOf, List.length_nil]
      omega
    · have taken := take_pos noData (bytes data n rfl noData)
      rw [if_neg (List.ne_nil_of_length_pos taken)]
      simp only [workOf]
      omega
  | @append data more done failed malloc _ ret site eq =>
    obtain ⟨base, cost, last, fails, hp⟩ := append_cost site
    dsimp only at cost last fails hp
    subst hp
    rw [cost]
    cases ret with
    | wait =>
      simp only [afterTurn, gained, resumes, Event.pays, Bool.false_eq_true, if_false, cost]
      omega
    | ret rv =>
      simp only [afterTurn, gained, resumes, Event.pays, Bool.false_eq_true, if_false, if_true]
      omega
    | chunk n b =>
      obtain ⟨pos, fits⟩ := chunk data n b rfl
      have resumed := resumes_le (.append data (.chunk n b))
      simp only [gained, Event.pays, if_true, afterTurn]
      split
      · omega
      · rw [cost, List.length_drop]
        omega
  | waitFailed site =>
    cases site with
    | filter hp | tail hp =>
      cases hp
      simp only [workOf, gained, resumes, Event.pays, Bool.false_eq_true, if_false]
      omega
  | @complete bb hp =>
    cases hp
    have resumed := resumes_le (.complete (streamResponseComplete s).2)
    simp only [workOf, gained, Event.pays, if_true]
    omega
  | tailComplete hp =>
    cases hp
    have resumed := resumes_le (.complete (streamResponseComplete s).2)
    simp only [workOf, gained, Event.pays, if_true]
    omega

/-! ### What the worker keeps -/

/-- The rest of a tidy brigade is tidy. -/
lemma tidy_tail {b : Bucket} (h : Tidy (b :: bb)) : Tidy bb := by
  cases b with
  | error | eos => exact .of_empty h
  | response | data | flush | metadata => exact h

/-- A worker in the append loop is one that sends. -/
lemma sends_append {data : List UInt8} {more : List UInt8 → Phase} {done failed : Phase}
    (site : Appends w data more done failed) : sends w.phase = true := by
  cases site with
  | filter hp | tail hp =>
    rw [hp]
    rfl

/-- The phases in which the worker has no bytes in hand, and none to complete. -/
def calm : Phase → Bool
  | .handler | .filtering _ | .tail | .tailCompleting => true
  | _ => false

/-- A calm phase has no bytes in hand and sends nothing. -/
lemma calm_phase {phase : Phase} (is : calm phase = true) :
    phase.inHand = [] ∧ sends phase = false ∧ (∀ data bb, phase ≠ .appending data bb) ∧
      (∀ bb, phase ≠ .completing bb) ∧ ∀ data, phase ≠ .tailAppending data := by
  cases phase with
  | handler | filtering | tail | tailCompleting => simp [Phase.inHand, sends]
  | _ => cases is

namespace Fit

/-- The event thread changes the stream. -/
lemma stream (h : Fit w s) (submitted : s.responseSubmitted = true → s'.responseSubmitted = true)
    (complete : s'.responseComplete = true → s'.responseCancelled = false →
      s.responseComplete = true ∧ s.responseCancelled = false) : Fit w s' where
  submitted on := submitted (h.submitted on)
  append := h.append
  streaming := h.streaming
  completing := h.completing
  tidy := h.tidy
  complete is live := by
    obtain ⟨is, live⟩ := complete is live
    exact h.complete is live

/-- A change of the stream that is not about the response. -/
lemma keep (h : Fit w s) (submitted : s'.responseSubmitted = s.responseSubmitted)
    (complete : s'.responseComplete = s.responseComplete)
    (cancelled : s'.responseCancelled = s.responseCancelled) :
    Fit w s' := by
  refine h.stream ?_ ?_
  · rw [submitted]
    exact id
  · rw [complete, cancelled]
    exact fun is live => ⟨is, live⟩

/-- Cancelling leaves the worker fit. -/
lemma cancel (h : Fit w s) : Fit w (streamResponseCancelLocked s) :=
  h.stream id fun _ live => absurd live.symm Bool.false_ne_true

/-- The worker goes on without bytes in hand. -/
lemma calmly {phase next : Phase} {ctx' : Ctx} (h : Fit ⟨ctx, phase⟩ s) (is : calm next = true)
    (busy : phase ≠ .returned) (streaming : ctx'.streaming = ctx.streaming)
    (large : ctx'.streaming = true → ctx'.responseTooLarge = false) (tidy : Tidy next.buckets)
    (spent : Spent ⟨ctx, phase⟩ → content next.buckets = []) : Fit ⟨ctx', next⟩ s := by
  obtain ⟨inHand, sends, append, completing, tail⟩ := calm_phase is
  refine ⟨fun on => ?_, not_appends append tail, large, fun bb at' => absurd at' (completing bb),
    tidy, ?_⟩
  · rw [sends] at on
    cases on
  · intro complete live
    have before := (h.complete complete live).resolve_left busy
    exact .inr ⟨streaming.trans before.streaming, inHand, spent before, tail⟩

/-- The worker is in its tail, with nothing left to queue. -/
lemma completing_tail {phase : Phase} (h : Fit ⟨ctx, phase⟩ s) (busy : phase ≠ .returned) :
    Fit ⟨ctx, .tailCompleting⟩ s := h.calmly rfl busy rfl h.streaming trivial fun _ => rfl

/-- The filter gives up on its brigade. -/
lemma handler {phase : Phase} {ctx' : Ctx} (h : Fit ⟨ctx, phase⟩ s) (busy : phase ≠ .returned)
    (streaming : ctx'.streaming = ctx.streaming)
    (large : ctx'.streaming = true → ctx'.responseTooLarge = false) :
    Fit ⟨ctx', .handler⟩ s := h.calmly rfl busy streaming large trivial fun _ => rfl

/-- A submission leaves the stream as it was, submits the response or cancels it. -/
lemma submit {rv : Int} {status : Status} {called : Bool} (h : Fit w s)
    (eq : submitResponseNva s rv = (s', status, called)) :
    Fit w s' ∧ (status = .success → s'.responseSubmitted = true) := by
  rcases submitResponseNva_cases eq with ⟨_, rfl, submitted, _⟩ | ⟨rfl, rfl, _⟩ | ⟨_, rfl, _⟩ |
    ⟨rfl, rfl, _⟩
  · exact ⟨h, fun _ => submitted⟩
  · exact ⟨h, by simp⟩
  · exact ⟨h.stream (fun _ => rfl) fun is live => ⟨is, live⟩, fun _ => rfl⟩
  · exact ⟨h.cancel, by simp⟩

/-- A worker with bytes to queue has not completed the response, unless it was cancelled. -/
lemma appending {data : List UInt8} {more : List UInt8 → Phase} {done failed : Phase} (h : Fit w s)
    (site : Appends w data more done failed) (complete : s.responseComplete = true) :
    s.responseCancelled = true := by
  rw [← Bool.not_eq_false]
  intro live
  have ne := h.append _ _ _ _ site
  cases site with
  | filter hp =>
    rcases h.complete complete live with gone | spent
    · rw [hp] at gone
      cases gone
    · have inHand := spent.inHand
      rw [hp] at inHand
      exact ne inHand
  | tail hp =>
    rcases h.complete complete live with gone | spent
    · rw [hp] at gone
      cases gone
    · exact spent.tail data hp

/-- The phases around an append. -/
lemma appends {data : List UInt8} {more : List UInt8 → Phase} {done failed : Phase} (h : Fit w s)
    (site : Appends w data more done failed) :
    Fit ⟨w.ctx, done⟩ s ∧ Fit ⟨w.ctx, failed⟩ s ∧ ∀ d, d ≠ [] → Fit ⟨w.ctx, more d⟩ s := by
  have unfinished := h.appending site
  obtain ⟨ctx, phase⟩ := w
  cases site with
  | @filter bb hp =>
    cases hp
    refine ⟨h.calmly rfl (by simp) rfl h.streaming h.tidy Spent.buckets,
      h.handler (by simp) rfl h.streaming, fun d nonempty => ?_⟩
    refine ⟨fun _ => h.submitted rfl, ?_, h.streaming, by simp, h.tidy, fun complete live => ?_⟩
    · rintro d' more done failed (hp | hp)
      · cases hp
        exact nonempty
      · cases hp
    · rw [unfinished complete] at live
      cases live
  | tail hp =>
    cases hp
    refine ⟨h.completing_tail (by simp), h.completing_tail (by simp), fun d nonempty => ?_⟩
    refine ⟨fun _ => h.submitted rfl, ?_, h.streaming, by simp, trivial, fun complete live => ?_⟩
    · rintro d' more done failed (hp | hp)
      · cases hp
      · cases hp
        exact nonempty
    · rw [unfinished complete] at live
      cases live

/-- The phases around a submission. -/
lemma submits {ctx' : Ctx} {head : Head} {ok failed : Phase} (h : Fit w s)
    (site : Submits w ctx' head ok failed) (submitted : s.responseSubmitted = true) :
    Fit ⟨ctx', ok⟩ s := by
  obtain ⟨ctx, phase⟩ := w
  cases site with
  | @response resp bb hs hp | @flush bb hs hp =>
    cases hp
    exact h.calmly rfl (by simp) rfl h.streaming (tidy_tail h.tidy) Spent.buckets
  | @data data bb hs hp =>
    cases hp
    refine ⟨fun _ => submitted, not_appends (by simp) (by simp), h.streaming, by simp, h.tidy,
      fun complete live => ?_⟩
    have before := (h.complete complete live).resolve_left (by simp)
    have both : data = [] ∧ content bb = [] := List.append_eq_nil_iff.mp before.buckets
    exact .inr ⟨before.streaming, both.1, both.2, by simp⟩
  | @eos bb hs hp =>
    cases hp
    refine ⟨fun _ => submitted, not_appends (by simp) (by simp), h.streaming, fun _ _ => hs, h.tidy,
      ?_⟩
    intro complete live
    have before := (h.complete complete live).resolve_left (by simp)
    exact .inr ⟨before.streaming, rfl, before.buckets, by simp⟩
  | tail hp =>
    cases hp
    by_cases noTail : (tailResponse ctx).2 = []
    · rw [if_pos noTail]
      exact h.completing_tail (by simp)
    · rw [if_neg noTail]
      refine ⟨fun _ => submitted, ?_, h.streaming, by simp, trivial, fun complete live => ?_⟩
      · rintro data more done failed (hp | hp)
        · cases hp
        · cases hp
          exact noTail
      -- a streaming worker has sent its body before the tail
      · have streaming := ((h.complete complete live).resolve_left (by simp)).streaming
        refine absurd ?_ noTail
        rw [tailResponse, h.streaming streaming]
        simp only [Bool.false_eq_true, if_false]
        exact if_pos streaming

/-- A submission that fails leaves the worker fit. -/
lemma submit_fails {ctx' : Ctx} {head : Head} {ok failed : Phase} (h : Fit w s)
    (site : Submits w ctx' head ok failed) : Fit ⟨ctx', failed⟩ s := by
  obtain ⟨ctx, phase⟩ := w
  cases site with
  | response hs hp | data hs hp | flush hs hp | eos hs hp =>
    cases hp
    exact h.handler (by simp) rfl fun _ => h.streaming hs
  | tail hp =>
    cases hp
    exact h.completing_tail (by simp)

/-- A bucket that was read is queued, or skipped when it gave no bytes. -/
lemma read {data : List UInt8} {bb : List Bucket} (h : Fit ⟨ctx, .reading data bb⟩ s) (n : Nat) :
    Fit ⟨ctx, if data.take n = [] then .filtering (splitOff data n bb)
      else .appending (data.take n) (splitOff data n bb)⟩ s := by
  have split := content_splitOff data n bb
  by_cases noBytes : data.take n = []
  · rw [if_pos noBytes]
    refine h.calmly rfl (by simp) rfl h.streaming (Tidy.splitOff h.tidy) fun spent => ?_
    have empty : data = [] := spent.inHand
    have buckets : content bb = [] := spent.buckets
    have both : data ++ content bb = [] := by
      rw [empty, buckets]
      rfl
    rw [noBytes, List.nil_append, both] at split
    exact split
  · rw [if_neg noBytes]
    refine ⟨fun _ => h.submitted rfl, ?_, h.streaming, by simp, Tidy.splitOff h.tidy,
      fun complete live => ?_⟩
    · rintro d more done failed (hp | hp)
      · cases hp
        exact noBytes
      · cases hp
    · have before := (h.complete complete live).resolve_left (by simp)
      have empty : data = [] := before.inHand
      rw [empty, List.take_nil] at noBytes
      exact absurd rfl noBytes

/-- One turn of `h3_stream_response_append` leaves the worker fit, whatever it answers. -/
lemma turn {xs : Cells} {data : List UInt8} {more : List UInt8 → Phase} {done failed : Phase}
    {malloc : Option Ptr} {ret : AppendRet} (h : Fit w s) (holds : Holds s xs)
    (site : Appends w data more done failed)
    (eq : streamResponseAppendStep s data malloc = some (s', ret))
    (fresh : ∀ p, malloc = some p → s.responseQueue.mem p = none) :
    Fit ⟨w.ctx, afterTurn data more done failed ret⟩ s' := by
  obtain ⟨s'', ret', eq', app⟩ := holds.append (h.append _ _ _ _ site) fresh
  rw [eq] at eq'
  cases eq'
  cases app with
  | wait _ _ =>
    have same : w.phase = more data := by
      cases site with
      | filter hp | tail hp => exact hp
    rw [afterTurn, ← same]
    exact h
  | refuse _ => exact (h.appends site).2.1
  | tooLong _ => exact (h.cancel.appends site).2.1
  | noMemory _ => exact (h.cancel.appends site).2.1
  | @chunk _ p n _ _ _ _ frame =>
    have after : Fit w s' := h.keep (by rw [frame]) (by rw [frame]) (by rw [frame])
    obtain ⟨last, -, next⟩ := after.appends site
    rw [afterTurn]
    split
    · exact last
    · rename_i left
      exact next _ left

/-- What an operation of the worker keeps. -/
lemma move {xs : Cells} (h : Fit w s) (m : Moves w s a w' s' act) (holds : Holds s xs)
    (fresh : ∀ p, a = .append (some p) → s.responseQueue.mem p = none)
    (brigades : ∀ bb, a = .brigade bb → Tidy bb ∧
      (s.responseComplete = true → s.responseCancelled = false → content bb = [])) : Fit w' s' := by
  obtain ⟨ctx, phase⟩ := w
  cases m with
  | @brigade bb hp =>
    cases hp
    obtain ⟨tidy, empty⟩ := brigades bb rfl
    refine ⟨by simp [sends], not_appends (by simp) (by simp), h.streaming, by simp, tidy,
      fun complete live => ?_⟩
    have before := (h.complete complete live).resolve_left (by simp)
    exact .inr ⟨before.streaming, rfl, empty complete live, by simp⟩
  | finished hp =>
    cases hp
    exact h.calmly rfl (by simp) rfl h.streaming trivial fun _ => rfl
  | brigadeEnd hp | error hp | readFailed hp =>
    cases hp
    exact h.handler (by simp) rfl h.streaming
  | @response resp bb hs hp =>
    cases hp
    exact h.calmly rfl (by simp) rfl h.streaming (tidy_tail h.tidy) Spent.buckets
  | @skipData data bb hs _ hp | @captureFailed data bb hs hp =>
    cases hp
    exact h.calmly rfl (by simp) rfl h.streaming (tidy_tail h.tidy) fun spent =>
      (List.append_eq_nil_iff.mp spent.buckets).2
  | @capture data bb n hs small hp =>
    cases hp
    have captured : (captureBodyBucket ctx (data.take n)).streaming = ctx.streaming := by
      rw [captureBodyBucket]
      split_ifs <;> rfl
    refine h.calmly rfl (by simp) captured ?_ (Tidy.splitOff h.tidy) fun spent => ?_
    · rw [captured]
      exact fun on => absurd (hs.symm.trans on) Bool.false_ne_true
    · have split := content_splitOff data n bb
      rw [show data ++ content bb = [] from spent.buckets] at split
      exact (List.append_eq_nil_iff.mp split).2
  | @skip b bb kind hp =>
    cases hp
    exact h.calmly rfl (by simp) rfl h.streaming (tidy_tail h.tidy) fun spent =>
      (List.append_eq_nil_iff.mp spent.buckets).2
  | submit site eq =>
    obtain ⟨here, submitted⟩ := h.submit eq
    split
    · rename_i success
      exact here.submits site (submitted success)
    · exact here.submit_fails site
  | @read data bb n hp =>
    cases hp
    exact h.read n
  | append site eq =>
    exact h.turn holds site eq fun p hp => fresh p (congrArg Answer.append hp)
  | waitFailed site =>
    cases site with
    | filter hp =>
      cases hp
      exact h.handler (by simp) rfl h.streaming
    | tail hp =>
      cases hp
      exact h.completing_tail (by simp)
  | @complete bb hp =>
    cases hp
    have streaming := h.completing bb rfl
    refine ⟨by simp [sends], not_appends (by simp) (by simp), h.streaming, by simp,
      tidy_tail h.tidy, fun _ _ => ?_⟩
    -- the bucket that was completed at is an EOS, and nothing comes behind it
    exact .inr ⟨streaming, rfl, h.tidy, by simp⟩
  | tailComplete hp =>
    cases hp
    exact ⟨by simp [sends], not_appends (by simp) (by simp), h.streaming, by simp, trivial,
      fun _ _ => .inl rfl⟩

end Fit

end

section
variable {x y : State} {s s' : Stream} {sent rest : Cells} {reader : BodyReader} {w : Responder}
  {a : Answer}
  {act : Act} {e : Event} {limit : Nat}

/-! ### The queue between the worker and nghttp3 -/

/-- nghttp3 attends to a response that has gone further. -/
lemma Attends.mono (h : Attends s rest reader) (gone : refused s = true → refused s' = true)
    (complete : s.responseComplete = true → s'.responseComplete = true) :
    Attends s' rest reader := by
  cases h with
  | active => exact .active
  | suspended or => exact .suspended (or.imp_left gone)
  | ended or => exact .ended (or.imp gone fun both => ⟨both.1, complete both.2⟩)

/-- nghttp3 attends to a response that was resumed. -/
lemma Attends.resume (h : Attends s rest reader) : Attends s rest reader.resume := by
  cases h with
  | active => exact .active
  | suspended => exact .active
  | ended or => exact .ended or

/-- A session that refuses does not come back. -/
lemma refused_session (aborted dead gone : Bool) (is : refused s = true) :
    refused { s with
      aborted := s.aborted || aborted, ngh3Dead := s.ngh3Dead || dead,
      ngh3 := s.ngh3 && !gone } = true := by
  simp only [refused, Stream.gone, Bool.or_eq_true, Bool.not_eq_true',
    Bool.and_eq_false_iff] at is ⊢
  tauto

/-- What is left for nghttp3 to do about its reader. -/
def readerWork (reader : BodyReader) : Nat := if reader = .active then 1 else 0

/-- Resuming adds one read to the work of nghttp3. -/
lemma readerWork_resume (reader : BodyReader) (resumed : Bool) :
    readerWork (if resumed then reader.resume else reader) ≤
      readerWork reader + if resumed then 1 else 0 := by
  cases resumed with
  | true =>
    cases reader with
    | active | suspended | ended => decide
  | false => exact le_rfl

namespace Linked

/-- The work left in the exchange, by the chunks of the queue. -/
lemma work (h : Linked x sent rest) :
    x.work = workOf x.worker + 2 * rest.unacked + sent.unacked + readerWork x.reader := by
  have buffered := h.split.buffered
  have outstanding := h.outstanding
  rw [State.work, readerWork, buffered, outstanding, Nat.add_sub_cancel_left]

/-- The stream keeps its queue. -/
lemma frame (h : Linked x sent rest) (split : Split s sent rest)
    (gone : refused x.stream = true → refused s = true)
    (complete : x.stream.responseComplete = true → s.responseComplete = true) (w : Responder)
    (resumed : Bool) :
    Linked { x with worker := w, stream := s,
                    reader := if resumed then x.reader.resume else x.reader } sent rest := by
  refine ⟨split, h.outstanding, ?_⟩
  have attends := h.attends.mono gone complete
  cases resumed with
  | true => exact attends.resume
  | false => exact attends

/-- An operation of the worker queues a chunk or leaves the queue as it is. -/
lemma move (h : Linked x sent rest) (fit : Fit x.worker x.stream)
    (m : Moves x.worker x.stream a w s act)
    (fresh : ∀ p, a = .append (some p) → x.stream.responseQueue.mem p = none) :
    (∃ rest',
      Linked { x with worker := w, stream := s,
                      reader := if resumes act then x.reader.resume else x.reader }
      sent rest' ∧ rest'.unacked = rest.unacked + gained act ∧
        (Cells.data rest').flatten = (Cells.data rest).flatten ++
          (Worker.Event.worker a act).queued) ∧
    s.responseBufferLimit = x.stream.responseBufferLimit ∧
    ∀ data n b, act = .append data (.chunk n b) → 1 ≤ n ∧ n ≤ data.length := by
  have nothing : (Cells.data rest).flatten = (Cells.data rest).flatten ++ [] :=
    (List.append_nil _).symm
  cases m with
  | brigade | finished | brigadeEnd | error | response | skipData | captureFailed | capture | skip
  | readFailed | read
  | waitFailed => exact ⟨⟨rest, ⟨h.split, h.outstanding, h.attends⟩, rfl, nothing⟩, rfl, by simp⟩
  | submit site eq =>
    rcases submitResponseNva_cases eq with ⟨_, rfl, _⟩ | ⟨_, rfl, _⟩ | ⟨_, rfl, _⟩ | ⟨_, rfl, _⟩
    · exact ⟨⟨rest, ⟨h.split, h.outstanding, h.attends⟩, rfl, nothing⟩, rfl, by simp⟩
    · exact ⟨⟨rest, ⟨h.split, h.outstanding, h.attends⟩, rfl, nothing⟩, rfl, by simp⟩
    · have split : Split { x.stream with responseSubmitted := true } sent rest :=
        h.split.frame rfl rfl rfl rfl rfl
      exact ⟨⟨rest, h.frame split id id _ false, rfl, nothing⟩, rfl, by simp⟩
    · exact ⟨⟨rest, h.frame h.split.cancel (fun _ => rfl) (fun _ => rfl) _ false, rfl, nothing⟩,
        rfl, by simp⟩
  | complete | tailComplete =>
    have split : Split (streamResponseComplete x.stream).1 sent rest :=
      h.split.frame rfl rfl rfl rfl rfl
    exact ⟨⟨rest, h.frame split id (fun _ => rfl) _ _, rfl, nothing⟩, rfl, by simp⟩
  | @append data more done failed malloc _ ret site eq =>
    have ne := fit.append _ _ _ _ site
    obtain ⟨s', ret', eq', app⟩ :=
      h.split.holds.append ne fun p hp => fresh p (congrArg Answer.append hp)
    rw [eq] at eq'
    cases eq'
    cases app with
    | wait _ _ | refuse _ =>
      exact ⟨⟨rest, ⟨h.split, h.outstanding, h.attends⟩, rfl, nothing⟩, rfl, by simp⟩
    | tooLong _ | noMemory _ =>
      exact ⟨⟨rest, h.frame h.split.cancel (fun _ => rfl) (fun _ => rfl) _ false, rfl, nothing⟩,
        rfl, by simp⟩
    | @chunk _ p n live pos le holds frame =>
      -- the response was submitted before the append, so that the reader is resumed
      have submitted : x.stream.responseSubmitted = true := fit.submitted (sends_append site)
      have active : x.reader.resume = .active := by
        cases reader : x.reader with
        | active | suspended => rfl
        | ended =>
          have attends := h.attends
          rw [reader] at attends
          cases attends with
          | ended or =>
            rcases or with gone | ⟨-, complete⟩
            · rw [refused, live] at gone
              cases gone
            · have cancelled := fit.appending site complete
              rw [Stream.gone, cancelled] at live
              cases live
      have split := h.split.append holds (by rw [frame]) (by rw [frame])
      refine ⟨⟨_, ⟨split, h.outstanding, ?_⟩, ?_, ?_⟩, by rw [frame], ?_⟩
      · rw [submitted]
        exact active ▸ .active
      · rw [unacked_append]
        rfl
      · rw [data_append, List.flatten_append]
        exact congrArg _ (List.append_nil _)
      · rintro _ _ _ is
        cases is
        exact ⟨pos, le⟩

/-- nghttp3 reads. -/
lemma read {r : ReadResult} (h : Linked x sent rest) (active : x.reader = .active)
    (reads : ReadOutcome x.stream sent rest r s) :
    ∃ sent' rest', Linked { x with
        stream := s, reader := .after r, outstanding := x.outstanding +
          r.vecs.flatten.length } sent' rest' ∧
      r.vecs.flatten ++ (Cells.data rest').flatten = (Cells.data rest).flatten ∧
      2 * rest'.unacked + sent'.unacked + readerWork (.after r) + 1 ≤
        2 * rest.unacked + sent.unacked + readerWork x.reader := by
  rw [active]
  cases reads with
  | cancelled is eq =>
    subst eq
    refine ⟨sent, rest, ⟨h.split, h.outstanding, ?_⟩, rfl, le_rfl⟩
    refine .ended (.inl ?_)
    rw [refused, Stream.gone, is]
    rfl
  | chunks sent' rest' live ne split content handed total nonempty more eof frame =>
    refine ⟨sent', rest', ⟨split, ?_, ?_⟩, by rw [← content, List.flatten_append], ?_⟩
    · rw [handed, ← h.outstanding]
    · rw [BodyReader.after]
      split
      · rename_i is
        obtain ⟨complete, drained⟩ := eof is
        refine .ended (.inr ⟨drained, ?_⟩)
        rw [frame]
        exact complete
      · exact .active
    · have most : readerWork (.after r) ≤ readerWork .active := by
        cases BodyReader.after r with
        | active | suspended | ended => decide
      omega
  | finished drained complete eq =>
    subst eq
    exact ⟨sent, rest, ⟨h.split, h.outstanding, .ended (.inr ⟨drained, complete⟩)⟩, rfl, le_rfl⟩
  | wouldBlock drained complete eq =>
    subst eq
    exact ⟨sent, rest, ⟨h.split, h.outstanding, .suspended (.inr drained)⟩, rfl, le_rfl⟩

/-- nghttp3 acknowledges bytes that it was handed. -/
lemma ack {n : Nat} (h : Linked x sent rest) (le : n ≤ x.outstanding)
    (eq : streamResponseAckLocked x.stream n = some s) :
    ∃ sent', Linked { x with stream := s, outstanding := x.outstanding - n } sent' rest ∧
      sent'.unacked + n = sent.unacked ∧ s.responseBuffered + n = x.stream.responseBuffered ∧
      s =
        { x.stream with responseQueue := s.responseQueue,
                        responseBuffered := s.responseBuffered } := by
  have outstanding := h.outstanding
  obtain ⟨t, eq', split, less, frame⟩ := h.split.ack (n := n) (by omega)
  rw [eq] at eq'
  cases eq'
  have buffered := h.split.buffered
  have buffered' := split.buffered
  refine ⟨ackChunks sent n, ⟨split, ?_, ?_⟩, by omega, by omega, frame⟩
  · rw [less, ← outstanding]
  · refine h.attends.mono ?_ ?_
    · rw [frame]
      exact id
    · rw [frame]
      exact id

/-- The session is given up. -/
lemma session (h : Linked x sent rest) (aborted dead gone : Bool) :
    Linked { x with
      stream :=
        { x.stream with
          aborted := x.stream.aborted || aborted
          ngh3Dead := x.stream.ngh3Dead || dead
          ngh3 := x.stream.ngh3 && !gone } } sent rest :=
  ⟨h.split.frame rfl rfl rfl rfl rfl, h.outstanding,
    h.attends.mono (refused_session aborted dead gone) id⟩

end Linked

/-! ### One step -/

/-- What one step keeps, and what it takes of the work. -/
lemma Sound.step (h : Sound limit x) (st : Step x e y) :
    Sound limit y ∧ (e.byHandler = false → y.work + (if e.pays then 1 else 0) ≤ x.work) := by
  obtain ⟨fit, lim, sent, rest, linked⟩ := h
  cases st with
  | @worker a w s act fresh brigades bytes eq =>
    have m := step_moves eq
    obtain ⟨⟨rest', linked', more, _⟩, same, chunk⟩ := linked.move fit m fresh
    refine ⟨⟨fit.move m linked.split.holds fresh brigades, same.trans lim, sent, rest', linked'⟩,
      fun own => ?_⟩
    have work := move_work m own bytes chunk
    have resumed := readerWork_resume x.reader (resumes act)
    rw [linked.work, linked'.work]
    dsimp only
    omega
  | @read veccnt s r pos active submitted aborted dead ngh3 eq =>
    have frame := (sessionReadData_frame eq).1
    obtain ⟨sent', rest', linked', _, less⟩ := linked.read active (linked.split.read pos eq)
    refine ⟨⟨?_, ?_, sent', rest', linked'⟩, fun _ => ?_⟩
    · exact fit.keep (by rw [frame]) (by rw [frame]) (by rw [frame])
    · show s.responseBufferLimit = limit
      rw [frame]
      exact lim
    · rw [linked.work, linked'.work]
      simp only [Event.pays, if_true]
      omega
  | @ack n s pos le eq =>
    obtain ⟨sent', linked', less, _, frame⟩ := linked.ack le eq
    refine ⟨⟨?_, ?_, sent', rest, linked'⟩, fun _ => ?_⟩
    · exact fit.keep (by rw [frame]) (by rw [frame]) (by rw [frame])
    · show s.responseBufferLimit = limit
      rw [frame]
      exact lim
    · rw [linked.work, linked'.work]
      simp only [Event.pays, if_true]
      omega
  | cancel =>
    have linked' := linked.frame linked.split.cancel (fun _ => rfl) (fun _ => rfl) x.worker false
    exact ⟨⟨fit.cancel, lim, sent, rest, linked'⟩, fun _ => le_rfl⟩
  | session aborted dead gone =>
    have linked' := linked.session aborted dead gone
    exact ⟨⟨fit.keep rfl rfl rfl, lim, sent, rest, linked'⟩, fun _ => le_rfl⟩

/-- A new exchange is sound. -/
lemma Sound.init (limit : UInt64) (max : Nat) : Sound limit.toNat (.init limit max) where
  fit :=
    { submitted := by simp [State.init, sends]
      append := not_appends (by simp) (by simp)
      streaming := fun _ => rfl
      completing := by simp [State.init]
      tidy := trivial
      complete := by simp [State.init, Stream.init] }
  limit := rfl
  linked := ⟨[], [], .init limit, rfl, .active⟩

/-! ### Something is always possible -/

/-- A step of the worker itself is possible that is not a wait. -/
def State.Goes (x : State) : Prop :=
  ∃ a act y, Step x (.worker a act) y ∧ (Event.worker a act).pays = true ∧
    (Event.worker a act).byHandler = false

/-- A step of the worker that takes nothing from the handler and no memory. -/
lemma State.Goes.of (a : Answer) {w : Responder} {s : Stream} {act : Act}
    (eq : Worker.step x.worker x.stream a = some (w, s, act)) (fresh : ∀ p, a ≠ .append (some p))
    (brigade : ∀ bb, a ≠ .brigade bb) (bytes : ∀ data n, act = .read data (.ok n) → n = data.length)
    (pays : (Event.worker a act).pays = true) (own : (Event.worker a act).byHandler = false) :
    x.Goes := by
  refine ⟨a, act, _, .worker (fun p is => absurd is (fresh p)) (fun bb is => absurd is (brigade bb))
    ?_ eq, pays, own⟩
  intro data n is ne
  rw [bytes data n is]
  exact List.length_pos_iff.mpr ne

/-- A worker that waits for room in the queue waits for nghttp3, which has bytes to read or to
acknowledge. -/
lemma Sound.waiting {data : List UInt8} {more : List UInt8 → Phase} {done failed : Phase}
    (h : Sound limit x) (pos : 1 ≤ limit) (ngh3 : x.stream.ngh3 = true)
    (site : Appends x.worker data more done failed)
    (full : x.stream.responseBuffered ≥ x.stream.responseBufferLimit)
    (live : x.stream.gone = false) :
    ∃ e y, Step x e y ∧ e.byNghttp3 = true := by
  obtain ⟨fit, lim, sent, rest, linked⟩ := h
  have outstanding := linked.outstanding
  have buffered := linked.split.buffered
  by_cases acked : sent.unacked = 0
  -- everything that is queued is still to be read, and the reader is active
  · have unread : rest ≠ [] := by
      rintro rfl
      rw [unacked_nil] at buffered
      omega
    have alive : refused x.stream = false := by
      rw [refused, live, ngh3]
      rfl
    have active : x.reader = .active := by
      have attends := linked.attends
      cases reader : x.reader with
      | active => rfl
      | suspended =>
        rw [reader] at attends
        cases attends with
        | suspended or =>
          rcases or with gone | empty
          · rw [alive] at gone
            cases gone
          · exact absurd empty unread
      | ended =>
        rw [reader] at attends
        cases attends with
        | ended or =>
          rcases or with gone | ⟨empty, _⟩
          · rw [alive] at gone
            cases gone
          · exact absurd empty unread
    have submitted : x.stream.responseSubmitted = true := fit.submitted (sends_append site)
    simp only [Stream.gone, Bool.or_eq_false_iff] at live
    obtain ⟨t, r, eq⟩ := linked.split.read_some 1
    exact ⟨_, _, .read le_rfl active submitted live.1.2 live.2 ngh3 eq, rfl⟩
  -- bytes that were handed out are still to be acknowledged
  · obtain ⟨t, eq, _⟩ := linked.split.ack (n := 1) (by omega)
    exact ⟨_, _, .ack le_rfl (by omega) eq, rfl⟩

/-- With room in the queue, or with nobody to read it, an append goes on. -/
lemma Sound.appending {data : List UInt8} {more : List UInt8 → Phase} {done failed : Phase}
    (h : Sound limit x) (site : Appends x.worker data more done failed)
    (free : ¬ (x.stream.responseBuffered ≥ x.stream.responseBufferLimit ∧ x.stream.gone = false)) :
    x.Goes := by
  obtain ⟨sent, rest, linked⟩ := h.linked
  have ne := h.fit.append _ _ _ _ site
  have fresh : ∀ a, (none : Option Ptr) = some a → x.stream.responseQueue.mem a = none := by simp
  obtain ⟨s, ret, eq, app⟩ := linked.split.holds.append ne fresh
  have goes : ret ≠ .wait := by
    rintro rfl
    cases app with
    | wait full live => exact free ⟨full, live⟩
  have step : Worker.step x.worker x.stream (.append none) =
      some ({ x.worker with phase := afterTurn data more done failed ret }, s,
        .append data ret) := by
    cases site with
    | filter hp | tail hp =>
      simp only [Worker.step, hp, appendStep, eq, Option.bind_eq_bind, Option.bind_some]
  refine .of _ step (by simp) (by simp) (by simp) ?_ rfl
  cases ret with
  | wait => exact absurd rfl goes
  | ret | chunk => rfl

/-- The filter can go on at every bucket. -/
lemma filter_goes (ctx : Ctx) (b : Bucket) (bb : List Bucket) (s : Stream) (reader : BodyReader)
    (outstanding : Nat) : State.Goes ⟨⟨ctx, .filtering (b :: bb)⟩, s, reader, outstanding⟩ := by
  cases streaming : ctx.streaming with
  | true =>
    have step : ∀ a, Worker.step ⟨ctx, .filtering (b :: bb)⟩ s a = filterStreaming ctx s b bb a :=
      fun a => if_pos streaming
    cases b with
    | error | metadata => exact .of .go (step _) (by simp) (by simp) (by simp) rfl rfl
    | response | data | flush | eos =>
      exact .of (.submit 0) (step _) (by simp) (by simp) (by simp) rfl rfl
  | false =>
    have off : ¬ ctx.streaming = true := by simp [streaming]
    have step : ∀ a, Worker.step ⟨ctx, .filtering (b :: bb)⟩ s a = filterBuffered ctx s b bb a :=
      fun a => if_neg off
    cases b with
    | error | response | flush | eos | metadata =>
      exact .of .go (step _) (by simp) (by simp) (by simp) rfl rfl
    | data data =>
      cases large : ctx.responseTooLarge with
      | true =>
        have skip : filterBuffered ctx s (.data data) bb .go =
            some (⟨ctx, .filtering bb⟩, s, .skip) := if_pos large
        exact .of .go ((step _).trans skip) (by simp) (by simp) (by simp) rfl rfl
      | false =>
        have read : filterBuffered ctx s (.data data) bb (.read (.ok data.length)) =
            some (⟨captureBodyBucket ctx (data.take data.length),
              .filtering (splitOff data data.length bb)⟩, s,
              .read data (.ok data.length)) := if_neg (by simp [large])
        exact .of (.read (.ok data.length)) ((step _).trans read) (by simp) (by simp) (by simp) rfl
          rfl

/-- A worker that is not in the handler, not done and not waiting can go on. -/
lemma Sound.goes (h : Sound limit x) (handler : x.worker.phase ≠ .handler)
    (returned : x.worker.phase ≠ .returned) (free : x.waits = false) : x.Goes := by
  obtain ⟨⟨ctx, phase⟩, s, reader, outstanding⟩ := x
  cases phase with
  | handler => exact absurd rfl handler
  | filtering bb =>
    cases bb with
    | nil => exact .of .go rfl (by simp) (by simp) (by simp) rfl rfl
    | cons b bb => exact filter_goes ctx b bb s reader outstanding
  | reading data bb => exact .of (.read (.ok data.length)) rfl (by simp) (by simp) (by simp) rfl rfl
  | appending data bb =>
    refine h.appending (.filter rfl) ?_
    simpa [State.waits] using free
  | completing bb => exact .of .go rfl (by simp) (by simp) (by simp) rfl rfl
  | tail => exact .of (.submit 0) rfl (by simp) (by simp) (by simp) rfl rfl
  | tailAppending data =>
    refine h.appending (.tail rfl) ?_
    simpa [State.waits] using free
  | tailCompleting => exact .of .go rfl (by simp) (by simp) (by simp) rfl rfl
  | returned => exact absurd rfl returned

/-- For a worker that waits, nghttp3 can go on. -/
lemma Sound.served (h : Sound limit x) (pos : 1 ≤ limit) (ngh3 : x.stream.ngh3 = true)
    (waits : x.waits = true) :
    ∃ e y, Step x e y ∧ e.byNghttp3 = true := by
  obtain ⟨⟨ctx, phase⟩, s, reader, outstanding⟩ := x
  cases phase with
  | appending data bb =>
    simp only [State.waits, Bool.and_eq_true, decide_eq_true_eq, Bool.not_eq_true'] at waits
    exact h.waiting pos ngh3 (.filter rfl) waits.1 waits.2
  | tailAppending data =>
    simp only [State.waits, Bool.and_eq_true, decide_eq_true_eq, Bool.not_eq_true'] at waits
    exact h.waiting pos ngh3 (.tail rfl) waits.1 waits.2
  | handler | filtering | reading | completing | tail | tailCompleting | returned => cases waits

end

/-- The worker is never stuck. Let the worker and nghttp3 take any steps `es` after the handler was
called, and then any steps `fs` in which the handler passes no further brigade. Of these at most as
many are not waits as the state at their beginning has work. As long as the worker is neither back
in the handler nor done, it can go on itself unless it waits for room in the queue; and while it
waits, nghttp3 can read or acknowledge, unless the session has lost its nghttp3 connection: it never
waits for room in a queue that nobody empties. -/
theorem worker_never_stuck {limit : UInt64} {max : Nat} {es fs : List Event} {x y : State}
    (pos : 1 ≤ limit.toNat) (run : Run Step (.init limit max) es x) (later : Run Step x fs y)
    (own : ∀ e ∈ fs, e.byHandler = false) :
    (fs.filter Event.pays).length + y.work ≤ x.work ∧
      (y.worker.phase ≠ .handler → y.worker.phase ≠ .returned → y.waits = false →
        ∃ a act z, Step y (.worker a act) z ∧ (Event.worker a act).pays = true ∧
          (Event.worker a act).byHandler = false) ∧
      (y.stream.ngh3 = true → y.waits = true → ∃ e z, Step y e z ∧ e.byNghttp3 = true) := by
  have sound : Sound limit.toNat x :=
    run.invariant (P := Sound limit.toNat) (fun _ _ _ h st => (h.step st).1) (.init limit max)
  have kept : ∀ s e t, Sound limit.toNat s → Step s e t ∧ e.byHandler = false →
      Sound limit.toNat t ∧ t.work + (if e.pays then 1 else 0) ≤ s.work := by
    intro s e t h st
    obtain ⟨sound, work⟩ := h.step st.1
    exact ⟨sound, work st.2⟩
  obtain ⟨ended, few⟩ := (later.restrict own).budget kept sound
  exact ⟨few, ended.goes, ended.served pos⟩

/-- A worker with six bytes for a queue of four. -/
def sixBytes : State :=
  { State.init 4 sizeMax with worker := ⟨.init sizeMax, .filtering [.data [1, 2, 3, 4, 5, 6]]⟩ }

/-- Six bytes over a limit of four: the worker waits, and nghttp3 can go on. -/
theorem worker_never_stuck_sixBytes :
    ∃ es fs y, Run Step (.init 4 sizeMax) es sixBytes ∧ Run Step sixBytes fs y ∧
      .worker (.append none) (.append [5, 6] .wait) ∈ fs ∧
      (fs.filter Event.pays).length + y.work ≤ sixBytes.work ∧
        y.waits = true ∧ ∃ e z, Step y e z ∧ e.byNghttp3 = true := by
  have called : Run Step (.init 4 sizeMax)
      [.worker (.brigade [.data [1, 2, 3, 4, 5, 6]]) (.brigade [.data [1, 2, 3, 4, 5, 6]])]
        sixBytes :=
    .single (.worker (by simp) (by simp [Tidy, Stream.init, State.init]) (by simp) rfl)
  have submitted : Run Step sixBytes _ _ := Run.nil.snoc
    (show Step sixBytes (.worker (.submit 0) (.submit (.response none) true .success)) _ from
      .worker (by simp) (by simp) (by simp) rfl)
  have read := submitted.snoc
    (show Step _ (.worker (.read (.ok 6)) (.read [1, 2, 3, 4, 5, 6] (.ok 6))) _ from
      .worker (by simp) (by simp) (by simp) rfl)
  have queued := read.snoc
    (show Step _ (.worker (.append (some 7)) (.append [1, 2, 3, 4, 5, 6] (.chunk 4 true))) _ from
      .worker (fun _ _ => rfl) (by simp) (by simp) rfl)
  have waits := queued.snoc
    (show Step _ (.worker (.append none) (.append [5, 6] .wait)) _ from .worker (by simp) (by simp)
      (by simp) rfl)
  obtain ⟨few, -, served⟩ := worker_never_stuck (by decide) called waits (by simp [Event.byHandler])
  exact ⟨_, _, _, called, waits, by simp, few, rfl, served rfl rfl⟩

end ModHttp3.Worker.Exchange
