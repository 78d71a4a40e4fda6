import Mathlib.Data.Option.Basic
import ModHttp3.Lib.Run
import ModHttp3.Response.Invariant

/-!
# No lost wakeup

nghttp3 stops asking for the body of a response when `h3_session_read_data` returns
`NGHTTP3_ERR_WOULDBLOCK`, and asks again only after `nghttp3_conn_resume_stream`. `Reader` is a
stream together with whether nghttp3's reader of it is suspended in this way, and `Turn` one step
under the session lock of the worker (submitting the response, a turn of the append loop, completing
the response) or of the event thread (reading and acknowledging, cancelling, the failure of the
session).

`Awake` is the invariant: as long as the stream and its session are live, a suspended reader has a
submitted response, nothing to read and no end to report. Both producers resume a submitted
response, so whatever falsifies the last two also wakes the reader.
-/

namespace ModHttp3.Response
open ModHttp3.Lib

/-- A stream, and whether nghttp3's reader of its response is suspended. -/
structure Reader where
  stream : Stream
  suspended : Bool

/-- A stream as it is tracked; nghttp3 has no reader yet. -/
def Reader.init (limit : UInt64) : Reader where
  stream := .init limit
  suspended := false

/-- What a turn does and observes. -/
inductive TurnEvent where
  | submit (status : Status)
  | append (data : List UInt8) (ret : AppendRet)
  | complete (resumed : Bool)
  | read (r : ReadResult)
  | ack (datalen : Nat)
  | cancel
  | session
deriving DecidableEq

/-- One step under the session lock. nghttp3 has the data reader only from a submitted response;
neither cancellation nor the failure of the session is ever taken back. -/
inductive Turn : Reader → TurnEvent → Reader → Prop where
  | submit {x s' status called} (rv : Int) :
    submitResponseNva x.stream rv = (s', status, called) →
    Turn x (.submit status) { x with stream := s' }
  | append {x s' data ret} (malloc : Option Ptr) :
    streamResponseAppendStep x.stream data malloc = some (s', ret) →
    Turn x (.append data ret)
      { stream := s', suspended := x.suspended && !(ret matches .chunk _ true) }
  | complete {x} :
    Turn x (.complete (streamResponseComplete x.stream).2)
      { stream := (streamResponseComplete x.stream).1
        suspended := x.suspended && !(streamResponseComplete x.stream).2 }
  | read {x s' r} (veccnt : Nat) :
    x.stream.responseSubmitted = true →
    sessionReadData x.stream veccnt = some (s', r) →
    Turn x (.read r) { stream := s', suspended := x.suspended || r.ret == .wouldBlock }
  | ack {x s' n} :
    streamResponseAckLocked x.stream n = some s' →
    Turn x (.ack n) { x with stream := s' }
  | cancel {x} :
    Turn x .cancel { x with stream := streamResponseCancelLocked x.stream }
  | session {x} (aborted ngh3Dead ngh3Gone : Bool) :
    Turn x .session
      { x with
        stream :=
          { x.stream with
            aborted := x.stream.aborted || aborted
            ngh3Dead := x.stream.ngh3Dead || ngh3Dead
            ngh3 := x.stream.ngh3 && !ngh3Gone } }

/-- The stream is not cancelled and its session is neither aborted nor dead. -/
def Stream.live (s : Stream) : Bool := !s.gone && s.ngh3

/-- A suspended reader of a live stream has nothing to come back for, and a producer that has
something will resume it. -/
def Awake (x : Reader) : Prop :=
  x.stream.live = true → x.suspended = true →
    x.stream.responseSubmitted = true ∧ x.stream.responseSubmitChunk = none ∧
      x.stream.responseComplete = false

section
variable {x y : Reader} {s s' : Stream} {e : TurnEvent}

/-- A read that would block found nothing from the cursor on and no end. -/
lemma read_wouldBlock {veccnt : Nat} {r : ReadResult} (eq : sessionReadData s veccnt = some (s', r))
    (blocks : r.ret = .wouldBlock) :
    s'.responseSubmitChunk = none ∧ s'.responseComplete = false := by
  rw [sessionReadData] at eq
  split at eq
  · cases eq
    cases blocks
  rename_i pos
  split at eq
  · cases eq
    cases blocks
  obtain ⟨⟨t, vecs⟩, loop, eq⟩ := Option.bind_eq_some_iff.mp eq
  dsimp only at eq
  split at eq
  · cases eq
    cases blocks
  rename_i noVecs
  split at eq
  · cases eq
    cases blocks
  rename_i more
  cases eq
  refine ⟨?_, (Bool.not_eq_true _).mp more⟩
  -- the loop asks for at least one vector, so it found the cursor at the end
  obtain ⟨n, rfl⟩ := Nat.exists_eq_succ_of_ne_zero pos
  rw [readLoop] at loop
  split at loop
  · rename_i cursor
    cases loop
    exact cursor
  · obtain ⟨cell, _, loop⟩ := Option.bind_eq_some_iff.mp loop
    dsimp only at loop
    obtain ⟨⟨t', vs⟩, _, loop⟩ := Option.bind_eq_some_iff.mp loop
    cases loop
    exact absurd (Nat.succ_pos _) noVecs

/-- A read finds nothing once the cursor is at the end. -/
lemma read_cursor {veccnt : Nat} {r : ReadResult} (eq : sessionReadData s veccnt = some (s', r))
    (cursor : s.responseSubmitChunk = none) : s'.responseSubmitChunk = none := by
  rw [sessionReadData] at eq
  split at eq
  · cases eq
    exact cursor
  split at eq
  · cases eq
    exact cursor
  have loop : ∀ n, readLoop n s = some (s, []) := by
    intro n
    cases n with
    | zero => rfl
    | succ n => rw [readLoop, cursor]
  rw [loop] at eq
  simp only [Option.bind_eq_bind, Option.bind_some, List.length_nil, Nat.lt_irrefl, if_false,
    gt_iff_lt] at eq
  split at eq
  · cases eq
    exact cursor
  · cases eq
    exact cursor

/-- A turn of the append loop that leaves the stream live queues nothing, or resumes a submitted
response. -/
lemma append_resumes {data : List UInt8} {malloc : Option Ptr} {ret : AppendRet}
    (eq : streamResponseAppendStep s data malloc = some (s', ret)) (live : s'.live = true) :
    s' = s ∨ (s.live = true ∧ ∃ n, ret = .chunk n s.responseSubmitted) := by
  rw [streamResponseAppendStep, streamResponseAppendStepBy] at eq
  split at eq
  · cases eq
    exact .inl rfl
  split at eq
  · cases eq
    exact .inl rfl
  simp only [noWrap_false, Option.bind_eq_bind, Option.bind_some] at eq
  split at eq
  · cases eq
    cases live
  cases malloc with
  | none =>
    cases eq
    cases live
  | some a =>
    obtain ⟨q, _, eq⟩ := Option.bind_eq_some_iff.mp eq
    cases eq
    exact .inr ⟨live, _, rfl⟩

/-- Every turn keeps suspended readers without work. -/
theorem Awake.turn (h : Awake x) (st : Turn x e y) : Awake y := by
  cases st with
  | submit rv eq =>
    rcases submitResponseNva_cases eq with ⟨_, rfl, _⟩ | ⟨_, rfl, _⟩ | ⟨_, rfl, gone, _⟩ |
      ⟨_, rfl, _⟩
    · exact h
    · exact h
    · intro _ suspended
      have live : x.stream.live = true := by
        rw [Stream.live]
        simpa using gone
      obtain ⟨_, chunk, complete⟩ := h live suspended
      exact ⟨rfl, chunk, complete⟩
    · intro live
      cases live
  | append malloc eq =>
    intro live suspended
    have before := (Bool.and_eq_true_iff.mp suspended).1
    rcases append_resumes eq live with rfl | ⟨alive, n, rfl⟩
    · exact h live before
    -- a suspended reader has a submitted response, so that the append resumes it
    · obtain ⟨submitted, _⟩ := h alive before
      rw [submitted, before] at suspended
      cases suspended
  | complete =>
    intro live suspended
    have before := (Bool.and_eq_true_iff.mp suspended).1
    have alive : x.stream.live = true := live
    obtain ⟨submitted, _⟩ := h alive before
    have resumed : (streamResponseComplete x.stream).2 = true := by
      simp only [Stream.live, Stream.gone, Bool.and_eq_true, Bool.not_eq_true',
        Bool.or_eq_false_iff] at alive
      rw [streamResponseComplete, submitted, alive.2, alive.1.2]
      rfl
    rw [resumed, before] at suspended
    cases suspended
  | @read s' r veccnt submitted eq =>
    intro live suspended
    have frame := (sessionReadData_frame eq).1
    have kept : s'.responseSubmitted = true := by rw [frame]; exact submitted
    rcases (Bool.or_eq_true _ _).mp suspended with before | now
    -- suspended since an earlier read: the cursor found nothing then and stays where it is
    · have alive : x.stream.live = true := by
        rw [frame] at live
        exact live
      obtain ⟨_, chunk, complete⟩ := h alive before
      refine ⟨kept, read_cursor eq chunk, ?_⟩
      rw [frame]
      exact complete
    · exact ⟨kept, read_wouldBlock eq (beq_iff_eq.mp now)⟩
  | @ack s' n eq =>
    have frame := ackLoop_frame eq
    intro live suspended
    rw [frame] at live
    have quiet := h live suspended
    dsimp only
    rw [frame]
    exact quiet
  | cancel =>
    intro live
    cases live
  | session aborted ngh3Dead ngh3Gone =>
    intro live suspended
    refine h ?_ suspended
    simp only [Stream.live, Stream.gone, Bool.and_eq_true, Bool.not_eq_true',
      Bool.or_eq_false_iff] at live ⊢
    exact ⟨⟨⟨live.1.1.1, live.1.1.2.1⟩, live.1.2.1⟩, live.2.1⟩

end

/-- In every interleaving of the two threads on a stream: while it is not cancelled and its session
is neither aborted nor dead, nghttp3's reader is suspended only if nothing is queued from the cursor
on and the response is not complete. -/
theorem no_lost_wakeup {limit : UInt64} {es : List TurnEvent} {x : Reader}
    (run : Run Turn (.init limit) es x) (live : x.stream.live = true)
    (suspended : x.suspended = true) :
    x.stream.responseSubmitChunk = none ∧ x.stream.responseComplete = false := by
  have awake : Awake x :=
    run.invariant (P := Awake) (fun _ _ _ h st => h.turn st) (fun _ h => nomatch h)
  exact (awake live suspended).2

/-- The response is submitted, three bytes are queued and read, and the next read would block. -/
theorem no_lost_wakeup_threeBytes :
    ∃ es x, Run Turn (.init 65536) es x ∧ x.suspended = true ∧
      .append [1, 2, 3] (.chunk 3 true) ∈ es ∧ x.stream.responseSubmitChunk = none ∧
        x.stream.responseComplete = false := by
  have submitted : Run Turn (.init 65536) _ _ := Run.nil.snoc (.submit 0 rfl)
  have queued :=
    submitted.snoc (show Turn _ (.append [1, 2, 3] (.chunk 3 true)) _ from .append (some 7) rfl)
  have run := (queued.snoc (.read 8 rfl rfl)).snoc (.read 8 rfl rfl)
  exact ⟨_, _, run, rfl, by decide, no_lost_wakeup run rfl rfl⟩

end ModHttp3.Response
