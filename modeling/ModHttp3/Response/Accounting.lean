import ModHttp3.Response.Fifo

/-!
# The accounting of the response queue

In every reachable state `response_buffered` is what the queued chunks have left to acknowledge, and
at most `response_buffer_limit`; this bound is what makes the worker wait. The counters are
unsigned, so a miscount would not show as a negative number but as a huge one.
`streamResponseAppendStepChecked` and `streamResponseAckLockedChecked` are the two functions that
subtract, with every subtraction checked: they return `none` where `size_t` would wrap. In a
reachable state they return what the functions of the source return, since no check fails there
(`Holds.appendBy`, `Holds.ackLoopBy`).
-/

namespace ModHttp3.Response
open ModHttp3.Lib

/-- `streamResponseAppendStep` with its subtractions checked. -/
def streamResponseAppendStepChecked :
    Stream → List UInt8 → Option Ptr → Option (Stream × AppendRet) :=
  streamResponseAppendStepBy true

/-- `streamResponseAckLocked` with its subtractions checked. -/
def streamResponseAckLockedChecked (s : Stream) (datalen : Nat) : Option Stream :=
  ackLoopBy true (s.responseQueue.allocated + 1) s datalen

section
variable {s s' : Stream} {xs : Cells} {e : Event}

/-- Freeing the whole queue leaves nothing to account for. -/
lemma Holds.cleanup (h : Holds s xs) (eq : streamResponseCleanupLocked s = some s') :
    Holds s' [] := by
  obtain ⟨q, hq, rep⟩ := h.rep.clear
  rw [streamResponseCleanupLocked, hq] at eq
  cases eq
  exact ⟨rep, .nil, rfl, Nat.zero_le _, h.limit⟩

/-- Every turn keeps the queue accounted for, whether or not the response was cancelled, and no turn
changes the limit. -/
lemma Holds.step (h : Holds s xs) (st : Step s e s') :
    (∃ ys, Holds s' ys) ∧ s'.responseBufferLimit = s.responseBufferLimit := by
  cases st with
  | append ne fresh eq =>
    obtain ⟨t, ret', eq', app⟩ := h.append ne fresh
    rw [eq'] at eq
    cases eq
    cases app with
    | wait _ _ => exact ⟨⟨xs, h⟩, rfl⟩
    | refuse _ => exact ⟨⟨xs, h⟩, rfl⟩
    | tooLong _ => exact ⟨⟨xs, h.frame rfl rfl rfl⟩, rfl⟩
    | noMemory _ => exact ⟨⟨xs, h.frame rfl rfl rfl⟩, rfl⟩
    | chunk _ _ _ holds frame => exact ⟨⟨_, holds⟩, by rw [frame]⟩
  | complete => exact ⟨⟨xs, h.frame rfl rfl rfl⟩, rfl⟩
  | read pos eq =>
    obtain ⟨frame, _⟩ := sessionReadData_frame eq
    exact ⟨⟨xs, h.frame (by rw [frame]) (by rw [frame]) (by rw [frame])⟩, by rw [frame]⟩
  | @ack _ n eq =>
    have frame := ackLoop_frame eq
    obtain ⟨t, eq', holds⟩ := h.ack n
    rw [eq'] at eq
    cases eq
    exact ⟨⟨_, holds⟩, by rw [frame]⟩
  | cancel => exact ⟨⟨xs, h.frame rfl rfl rfl⟩, rfl⟩
  | cleanup _ eq =>
    have holds := h.cleanup eq
    obtain ⟨q, _, eq⟩ := Option.bind_eq_some_iff.mp eq
    cases eq
    exact ⟨⟨[], holds⟩, rfl⟩
  | session _ _ _ _ => exact ⟨⟨xs, h.frame rfl rfl rfl⟩, rfl⟩

end

/-- The queue of every reachable state is accounted for, under the limit the stream was tracked
with. -/
lemma Holds.run {limit : UInt64} {es : List Event} {s : Stream}
    (run : Run Step (Stream.init limit) es s) :
    (∃ xs, Holds s xs) ∧ s.responseBufferLimit = limit.toNat := by
  refine run.invariant (P := fun s => (∃ xs, Holds s xs) ∧ s.responseBufferLimit = limit.toNat) ?_
    ⟨⟨[], .init limit⟩, rfl⟩
  rintro s e t ⟨⟨xs, h⟩, limited⟩ st
  obtain ⟨holds, same⟩ := h.step st
  exact ⟨holds, same.trans limited⟩

/-- In every reachable state of the response queue, whatever the order of the turns and also after
the response was cancelled and cleaned up: `response_buffered` is the sum of what the queued chunks
have left to acknowledge and stays within the limit, the chunks are well formed and only the head is
partly acknowledged, `response_tail` is the last chunk, no subtraction of an append or an
acknowledgement wraps, and an append that neither waits nor is refused has a byte to queue. -/
theorem response_queue_accounted {limit : UInt64} {es : List Event} {s : Stream}
    (run : Run Step (Stream.init limit) es s) :
    (∃ xs : Cells, s.responseQueue.Rep xs ∧
      s.responseBuffered = (xs.map fun x => x.2.len - x.2.acked).sum ∧
      (∀ x ∈ xs, 1 ≤ x.2.len ∧ x.2.len ≤ 4096 ∧ x.2.acked < x.2.len) ∧
      (∀ x ∈ xs.tail, x.2.acked = 0) ∧
      s.responseQueue.tail = (xs.map Prod.fst).getLast?) ∧
    s.responseBuffered ≤ limit.toNat ∧
    (s.responseQueue.tail = none ↔ s.responseQueue.head = none) ∧
    (∀ data malloc, data ≠ [] → (∀ a, malloc = some a → s.responseQueue.mem a = none) →
      ∃ r, streamResponseAppendStepChecked s data malloc = some r ∧
        streamResponseAppendStep s data malloc = some r) ∧
    (∀ n, ∃ t, streamResponseAckLockedChecked s n = some t ∧ streamResponseAckLocked s n = some t) ∧
    (∀ remaining, 0 < remaining → ¬ (s.responseBuffered ≥ s.responseBufferLimit ∧ s.gone = false) →
      (s.gone || !s.ngh3) = false → chunkLen s remaining ≠ 0) := by
  obtain ⟨⟨xs, h⟩, limited⟩ := Holds.run run
  refine ⟨⟨xs, h.rep, h.buffered, ?_, h.valid.tail, h.rep.tail⟩, limited ▸ h.bound, ?_, ?_, ?_, ?_⟩
  · intro x mem
    have valid := h.valid.chunk x mem
    exact ⟨valid.pos, valid.le, valid.acked⟩
  · rw [h.rep.tail, h.rep.head]
    cases xs with
    | nil => simp
    | cons x xs => simp
  · intro data malloc ne fresh
    obtain ⟨t, ret, eq, _⟩ := h.appendBy ne fresh
    exact ⟨(t, ret), eq true, eq false⟩
  · intro n
    obtain ⟨t, eq, _⟩ := h.ackLoopBy n
    rw [← h.rep.allocated] at eq
    exact ⟨t, eq true, eq false⟩
  · intro remaining pos go accepted
    have gone : s.gone = false := (Bool.or_eq_false_iff.mp accepted).1
    have room : s.responseBuffered < s.responseBufferLimit := by
      by_contra full
      exact go ⟨Nat.not_lt.mp full, gone⟩
    have := (h.chunkLen_pos pos room).1
    omega

/-- A response that is cancelled and cleaned up while one of its bytes is not acknowledged yet. -/
def cancelledHalfway : List Event :=
  [.append [1, 2, 3] (.chunk 3 false), .read { vecs := [[1, 2, 3]], ret := .count 1, eof := false },
    .ack 2, .cancel, .cleanup]

/-- The acknowledgement that comes late finds nothing to subtract. -/
theorem response_queue_accounted_cancelledHalfway :
    ∃ s, Run Step (Stream.init 65536) cancelledHalfway s ∧ s.responseBuffered ≤ 65536 ∧
      ∃ t, streamResponseAckLockedChecked s 1 = some t ∧ streamResponseAckLocked s 1 = some t := by
  have run : ((execAll exec (Stream.init 65536)
      [.append [1, 2, 3] (some 7), .read 8, .ack 2, .cancel, .cleanup]).map Prod.snd) =
        some cancelledHalfway := by
    decide +kernel
  obtain ⟨⟨s, es⟩, run, rfl⟩ := Option.map_eq_some_iff.mp run
  obtain ⟨_, bound, _, _, ack, _⟩ := response_queue_accounted (execAll_run exec_step run)
  exact ⟨s, execAll_run exec_step run, bound, ack 1⟩

end ModHttp3.Response
