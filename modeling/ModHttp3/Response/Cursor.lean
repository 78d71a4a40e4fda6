import ModHttp3.Response.Invariant

/-!
# The cursor of the response queue

`Split s sent rest` cuts the queue at `response_submit_chunk`: the chunks in `sent` were handed to
nghttp3 and are not acknowledged yet, those in `rest` were not handed out. It needs no history and
holds of a cancelled response too. There is one lemma for each operation: a chunk is queued at the
end of `rest`, a read moves chunks from `rest` to `sent`, an acknowledgement takes bytes out of
`sent`.
-/

namespace ModHttp3.Response
open ModHttp3.Lib

/-- The queue at its cursor. -/
structure Split (s : Stream) (sent rest : Cells) : Prop where
  holds : Holds s (sent ++ rest)
  cursor : s.responseSubmitChunk = front rest
  offset : s.responseSubmitOffset = 0
  untouched : ∀ x ∈ rest, x.2.acked = 0

/-- What the data reader does (C `h3_session_read_data`). -/
inductive ReadOutcome (s : Stream) (sent rest : Cells) (r : ReadResult) : Stream → Prop where
  | cancelled :
    s.responseCancelled = true →
    r = { vecs := [], ret := .count 0, eof := true } →
    ReadOutcome s sent rest r s
  | chunks {s'} (sent' rest' : Cells) :
    s.responseCancelled = false →
    rest ≠ [] →
    Split s' sent' rest' →
    r.vecs ++ Cells.data rest' = Cells.data rest →
    sent'.unacked = sent.unacked + r.vecs.flatten.length →
    sent'.unacked + rest'.unacked = sent.unacked + rest.unacked →
    1 ≤ r.vecs.flatten.length →
    r.ret ≠ .wouldBlock →
    (r.eof = true → s.responseComplete = true ∧ rest' = []) →
    s' = { s with responseSubmitChunk := s'.responseSubmitChunk,
                  responseSubmitOffset := s'.responseSubmitOffset } →
    ReadOutcome s sent rest r s'
  | finished :
    rest = [] →
    s.responseComplete = true →
    r = { vecs := [], ret := .count 0, eof := true } →
    ReadOutcome s sent rest r s
  | wouldBlock :
    rest = [] →
    s.responseComplete = false →
    r = { vecs := [], ret := .wouldBlock, eof := false } →
    ReadOutcome s sent rest r s

section
variable {s s' : Stream} {sent rest : Cells}

namespace Split

/-- A new stream has nothing queued. -/
lemma init (limit : UInt64) : Split (Stream.init limit) [] [] := ⟨Holds.init limit, rfl, rfl, nofun⟩

/-- What the queue does not look at may change. -/
lemma frame (h : Split s sent rest) (queue : s'.responseQueue = s.responseQueue)
    (buffered : s'.responseBuffered = s.responseBuffered)
    (limit : s'.responseBufferLimit = s.responseBufferLimit)
    (cursor : s'.responseSubmitChunk = s.responseSubmitChunk)
    (offset : s'.responseSubmitOffset = s.responseSubmitOffset) : Split s' sent rest :=
  ⟨h.holds.frame queue buffered limit, cursor.trans h.cursor, offset.trans h.offset, h.untouched⟩

/-- Cancelling leaves the queue and the cursor. -/
lemma cancel (h : Split s sent rest) : Split (streamResponseCancelLocked s) sent rest :=
  h.frame rfl rfl rfl rfl rfl

/-- What is buffered are the bytes that were not acknowledged, handed out or not. -/
lemma buffered (h : Split s sent rest) : s.responseBuffered = sent.unacked + rest.unacked := by
  rw [h.holds.buffered, unacked_append]

/-- A chunk from the cursor on has bytes. -/
lemma pos (h : Split s sent rest) {x : Ptr × Chunk} (mem : x ∈ rest) : 1 ≤ x.2.data.length := by
  have valid := h.holds.valid.chunk x (List.mem_append_right sent mem)
  rw [valid.data]
  exact valid.pos

/-- A chunk is queued; a null cursor is re-armed at it. -/
lemma append {data : List UInt8} {a : Ptr} {n : Nat} (h : Split s sent rest)
    (holds : Holds s' (sent ++ rest ++ [(a, { len := n, acked := 0, data := data.take n })]))
    (cursor : s'.responseSubmitChunk = if s.responseSubmitChunk.isNone then some a else
      s.responseSubmitChunk)
    (offset : s'.responseSubmitOffset = if s.responseSubmitChunk.isNone then 0 else
      s.responseSubmitOffset) :
    Split s' sent (rest ++ [(a, { len := n, acked := 0, data := data.take n })]) where
  holds := by
    rw [← List.append_assoc]
    exact holds
  cursor := by
    rw [cursor, h.cursor]
    cases rest with
    | nil => rfl
    | cons x rest => rfl
  offset := by
    rw [offset, h.offset]
    exact ite_self 0
  untouched x mem := by
    rcases List.mem_append.mp mem with mem | mem
    · exact h.untouched x mem
    · rw [List.mem_singleton.mp mem]

/-- Bytes that were handed out are acknowledged. -/
lemma ack {n : Nat} (h : Split s sent rest) (le : n ≤ sent.unacked) :
    ∃ s', streamResponseAckLocked s n = some s' ∧ Split s' (ackChunks sent n) rest ∧
      (ackChunks sent n).unacked = sent.unacked - n ∧
      s' = { s with responseQueue := s'.responseQueue,
                    responseBuffered := s'.responseBuffered } := by
  obtain ⟨t, eq, holds⟩ := h.holds.ack n
  have frame := ackLoop_frame eq
  rw [ackChunks_append le] at holds
  have valid : Cells.Valid sent := by
    refine ⟨fun x mem => h.holds.valid.chunk x (List.mem_append_left rest mem), fun x mem => ?_⟩
    refine h.holds.valid.tail x ?_
    cases sent with
    | nil => cases mem
    | cons y ys => exact List.mem_append_left rest mem
  refine ⟨t, eq, ⟨holds, ?_, ?_, h.untouched⟩, unacked_ackChunks valid, frame⟩
  · rw [frame]
    exact h.cursor
  · rw [frame]
    exact h.offset

/-- The bytes of the chunks that a read hands out. -/
lemma length_taken (h : Split s sent rest) (n : Nat) :
    (Cells.data (rest.take n)).flatten.length = Cells.unacked (rest.take n) := by
  have untouched : ∀ x ∈ rest.take n, x.2.acked = 0 :=
    fun x mem => h.untouched x (List.mem_of_mem_take mem)
  have valid : Cells.Valid (rest.take n) := by
    refine ⟨fun x mem => ?_, fun x mem => untouched x (List.mem_of_mem_tail mem)⟩
    exact h.holds.valid.chunk x (List.mem_append_right sent (List.mem_of_mem_take mem))
  rw [valid.length_data, acked_eq_zero untouched, Nat.zero_add]

/-- A read follows no dangling pointer. -/
lemma read_some (h : Split s sent rest) (veccnt : Nat) :
    ∃ s' r, sessionReadData s veccnt = some (s', r) := by
  rw [sessionReadData, h.holds.read veccnt h.cursor h.offset]
  simp only [Option.bind_eq_bind, Option.bind_some]
  split_ifs
  · exact ⟨_, _, rfl⟩
  · exact ⟨_, _, rfl⟩
  · exact ⟨_, _, rfl⟩
  · exact ⟨_, _, rfl⟩
  · exact ⟨_, _, rfl⟩

/-- A read hands out whole chunks from the cursor on. -/
lemma read {veccnt : Nat} {r : ReadResult} (h : Split s sent rest) (pos : 1 ≤ veccnt)
    (eq : sessionReadData s veccnt = some (s', r)) : ReadOutcome s sent rest r s' := by
  rw [sessionReadData, if_neg (by omega)] at eq
  split at eq
  · rename_i cancelled
    cases eq
    exact .cancelled cancelled rfl
  rename_i live
  rw [Bool.not_eq_true] at live
  rw [h.holds.read veccnt h.cursor h.offset] at eq
  simp only [Option.bind_eq_bind, Option.bind_some] at eq
  cases rest with
  | nil =>
    have same :
        s = { s with responseSubmitChunk := front ([] : Cells), responseSubmitOffset := 0 } := by
      rw [← h.cursor, ← h.offset]
    simp only [List.drop_nil, List.take_nil, data_nil, List.length_nil, gt_iff_lt, Nat.lt_irrefl,
      if_false] at eq
    rw [← same] at eq
    split at eq
    · rename_i complete
      cases eq
      exact .finished rfl complete rfl
    · rename_i complete
      rw [Bool.not_eq_true] at complete
      cases eq
      exact .wouldBlock rfl complete rfl
  | cons x rest =>
    obtain ⟨n, rfl⟩ := Nat.exists_eq_succ_of_ne_zero (Nat.pos_iff_ne_zero.mp pos)
    have nonempty : (Cells.data ((x :: rest).take (n + 1))).length > 0 := by simp [Cells.data]
    rw [if_pos nonempty] at eq
    cases eq
    have taken := h.length_taken (n + 1)
    have both : Cells.unacked ((x :: rest).take (n + 1)) +
      Cells.unacked ((x :: rest).drop (n + 1)) =
        Cells.unacked (x :: rest) := by
      rw [← unacked_append, List.take_append_drop]
    refine .chunks (sent ++ (x :: rest).take (n + 1)) ((x :: rest).drop (n + 1)) live
      (List.cons_ne_nil x rest)
      ?_ ?_ ?_ ?_ ?_ ?_ ?_ rfl
    · refine ⟨?_, rfl, rfl, fun y mem => h.untouched y (List.mem_of_mem_drop mem)⟩
      rw [List.append_assoc, List.take_append_drop]
      exact h.holds.frame rfl rfl rfl
    · rw [← data_append, List.take_append_drop]
    · rw [unacked_append, taken]
    · rw [unacked_append, Nat.add_assoc, both]
    · have byte := h.pos (x := x) List.mem_cons_self
      simp only [List.take_succ_cons, data_cons, List.flatten_cons, List.length_append]
      omega
    · intro blocks
      cases blocks
    · intro eof
      have both := Bool.and_eq_true_iff.mp eof
      refine ⟨both.2, ?_⟩
      have last := Option.isNone_iff_eq_none.mp both.1
      cases left : (x :: rest).drop (n + 1) with
      | nil => rfl
      | cons y ys =>
        rw [left] at last
        cases last

end Split

end

end ModHttp3.Response
