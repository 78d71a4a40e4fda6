import ModHttp3.Response.Queue

/-!
# The response queue as a list of chunks

`Holds s xs` ties the pointers and counters of a stream's response queue to the list `xs` of chunks
it holds: the linked structure represents `xs`, every chunk is well formed, only the first one may
be partly acknowledged, and `response_buffered` is the sum of what is not acknowledged yet. There is
one lemma per operation: `Holds.append` (`streamResponseAppendStep`), `Holds.ack`
(`streamResponseAckLocked`, which acts on the list as `ackChunks`) and `Holds.read` (`readLoop`,
which hands out whole chunks from the cursor on).
-/

namespace ModHttp3.Response
open ModHttp3.Lib

/-- A queued chunk is non-empty, at most `STREAM_CHUNK_BYTES` long and not fully acknowledged. -/
structure Chunk.Valid (c : Chunk) : Prop where
  pos : 1 ≤ c.len
  le : c.len ≤ streamChunkBytes
  acked : c.acked < c.len
  data : c.data.length = c.len

/-- The cells of the queue. -/
abbrev Cells := List (Ptr × Chunk)

/-- The bytes of each chunk. -/
def Cells.data (xs : Cells) : List (List UInt8) := xs.map (·.2.data)

/-- The acknowledged bytes of the queued chunks. -/
def Cells.acked (xs : Cells) : Nat := (xs.map (·.2.acked)).sum

/-- The queued bytes that are not acknowledged. -/
def Cells.unacked (xs : Cells) : Nat := (xs.map fun x => x.2.len - x.2.acked).sum

/-- Well-formed chunks, of which only the first may be partly acknowledged. -/
structure Cells.Valid (xs : Cells) : Prop where
  chunk : ∀ x ∈ xs, x.2.Valid
  tail : ∀ x ∈ xs.tail, x.2.acked = 0

section
variable {xs ys : Cells} {x : Ptr × Chunk}

/-- No chunks have no data. -/
@[simp] lemma data_nil : Cells.data [] = [] := rfl
/-- No chunks have no acknowledged bytes. -/
@[simp] lemma acked_nil : Cells.acked [] = 0 := rfl
/-- No chunks have no unacknowledged bytes. -/
@[simp] lemma unacked_nil : Cells.unacked [] = 0 := rfl
/-- The data of a queue with one more chunk in front. -/
@[simp] lemma data_cons : Cells.data (x :: xs) = x.2.data :: xs.data := rfl
/-- The acknowledged bytes of a queue with one more chunk in front. -/
@[simp] lemma acked_cons : Cells.acked (x :: xs) = x.2.acked + xs.acked := rfl
/-- The unacknowledged bytes of a queue with one more chunk in front. -/
@[simp] lemma unacked_cons : Cells.unacked (x :: xs) = x.2.len - x.2.acked + xs.unacked := rfl

/-- The data of two queues in a row. -/
@[simp] lemma data_append : Cells.data (xs ++ ys) = xs.data ++ ys.data := List.map_append

/-- The acknowledged bytes of two queues in a row. -/
@[simp] lemma acked_append : Cells.acked (xs ++ ys) = xs.acked + ys.acked := by
  simp only [Cells.acked, List.map_append, List.sum_append]

/-- The unacknowledged bytes of two queues in a row. -/
@[simp] lemma unacked_append : Cells.unacked (xs ++ ys) = xs.unacked + ys.unacked := by
  simp only [Cells.unacked, List.map_append, List.sum_append]

/-- Chunks with no acknowledged byte. -/
lemma acked_eq_zero (h : ∀ x ∈ xs, x.2.acked = 0) : xs.acked = 0 := by
  induction xs with
  | nil => rfl
  | cons x xs ih =>
    rw [acked_cons, h x List.mem_cons_self, ih fun y hy => h y (List.mem_cons_of_mem x hy)]

/-- The empty list of chunks is well formed. -/
lemma Cells.Valid.nil : Cells.Valid [] where
  chunk := nofun
  tail := nofun

/-- Well-formedness of the chunks behind the first. -/
lemma Cells.Valid.of_cons (v : Cells.Valid (x :: xs)) : Cells.Valid xs where
  chunk y hy := v.chunk y (List.mem_cons_of_mem x hy)
  tail y hy := v.tail y (List.mem_of_mem_tail hy)

/-- The bytes held are the acknowledged and the unacknowledged ones. -/
lemma Cells.Valid.length_data (v : xs.Valid) : xs.data.flatten.length = xs.acked + xs.unacked := by
  induction xs with
  | nil => rfl
  | cons x xs ih =>
    have vx := v.chunk x List.mem_cons_self
    have hd := vx.data
    have ha := vx.acked
    rw [data_cons, List.flatten_cons, List.length_append, ih v.of_cons, acked_cons, unacked_cons,
      hd]
    omega

end

/-- What acknowledging `n` bytes does to the chunks. -/
def ackChunks : Cells → Nat → Cells
  | [], _ => []
  | (a, c) :: xs, n =>
    if n = 0 then
      (a, c) :: xs
    else if n < c.len - c.acked then
      (a, { c with acked := c.acked + n }) :: xs
    else
      ackChunks xs (n - (c.len - c.acked))

section
variable {xs ys : Cells} {n : Nat}

/-- Acknowledging nothing changes nothing. -/
@[simp] lemma ackChunks_zero (xs : Cells) : ackChunks xs 0 = xs := by
  cases xs with
  | nil => rfl
  | cons x xs => simp [ackChunks]

/-- Acknowledging keeps the chunks well formed. -/
lemma Cells.Valid.ackChunks (v : xs.Valid) : (ackChunks xs n).Valid := by
  induction xs generalizing n with
  | nil => exact .nil
  | cons x xs ih =>
    obtain ⟨a, c⟩ := x
    have vc : c.Valid := v.chunk _ List.mem_cons_self
    simp only [Response.ackChunks]
    split_ifs with h0 h1
    · exact v
    · refine ⟨fun y hy => ?_, v.tail⟩
      rcases List.mem_cons.mp hy with rfl | hy
      · exact ⟨vc.pos, vc.le, by show c.acked + n < c.len; omega, vc.data⟩
      · exact v.chunk y (List.mem_cons_of_mem _ hy)
    · exact ih v.of_cons

/-- Acknowledging `n` bytes takes `n` off what is unacknowledged. -/
lemma unacked_ackChunks (v : xs.Valid) : (ackChunks xs n).unacked = xs.unacked - n := by
  induction xs generalizing n with
  | nil => simp [ackChunks]
  | cons x xs ih =>
    obtain ⟨a, c⟩ := x
    simp only [ackChunks]
    split_ifs with h0 h1
    · simp [h0]
    · simp only [unacked_cons]
      omega
    · rw [ih v.of_cons, unacked_cons]
      dsimp only
      omega

/-- Acknowledging no more than `xs` holds leaves the chunks behind `xs` alone. -/
lemma ackChunks_append (h : n ≤ xs.unacked) : ackChunks (xs ++ ys) n = ackChunks xs n ++ ys := by
  induction xs generalizing n with
  | nil =>
    rw [unacked_nil] at h
    obtain rfl : n = 0 := by omega
    simp
  | cons x xs ih =>
    obtain ⟨a, c⟩ := x
    rw [unacked_cons] at h
    simp only [List.cons_append, ackChunks]
    split_ifs with h0 h1
    · rfl
    · rfl
    · exact ih (by dsimp only at h; omega)

/-- The chunks that acknowledging `n` bytes frees are the first ones, and what remains acknowledged
in the queue makes up the rest of the `n` bytes. -/
lemma ackChunks_freed (v : xs.Valid) (h : n ≤ xs.unacked) :
    ∃ freed, xs.data = freed ++ (ackChunks xs n).data ∧
      freed.flatten.length + (ackChunks xs n).acked = xs.acked + n := by
  induction xs generalizing n with
  | nil =>
    rw [unacked_nil] at h
    exact ⟨[], rfl, by simp [ackChunks]; omega⟩
  | cons x xs ih =>
    obtain ⟨a, c⟩ := x
    have vc : c.Valid := v.chunk _ List.mem_cons_self
    have hd := vc.data
    have ha := vc.acked
    rw [unacked_cons] at h
    dsimp only at h
    simp only [ackChunks]
    split_ifs with h0 h1
    · exact ⟨[], rfl, by simp [h0]⟩
    · refine ⟨[], rfl, ?_⟩
      simp only [List.flatten_nil, List.length_nil, acked_cons]
      omega
    · -- the head chunk is used up and freed; the rest of the bytes go to the chunks behind it
      obtain ⟨freed, e, len⟩ := ih v.of_cons (n := n - (c.len - c.acked)) (by omega)
      refine ⟨c.data :: freed, by rw [data_cons, e]; rfl, ?_⟩
      rw [List.flatten_cons, List.length_append, acked_cons, hd]
      dsimp only
      omega

end

/-- The response queue of `s` holds the chunks `xs` and its counters account for them. -/
structure Holds (s : Stream) (xs : Cells) : Prop where
  rep : s.responseQueue.Rep xs
  valid : xs.Valid
  buffered : s.responseBuffered = xs.unacked
  bound : s.responseBuffered ≤ s.responseBufferLimit
  limit : s.responseBufferLimit < 2 ^ 64

/-- A fresh stream holds nothing. -/
lemma Holds.init (limit : UInt64) : Holds (Stream.init limit) [] where
  rep := Queue.Rep.empty
  valid := .nil
  buffered := rfl
  bound := Nat.zero_le _
  limit := limit.toNat_lt

section
variable {s s' : Stream} {xs : Cells}

/-- `Holds` only looks at the queue and its counters. -/
lemma Holds.frame (h : Holds s xs) (eq : s'.responseQueue = s.responseQueue)
    (eb : s'.responseBuffered = s.responseBuffered)
    (el : s'.responseBufferLimit = s.responseBufferLimit) : Holds s' xs where
  rep := eq ▸ h.rep
  valid := h.valid
  buffered := eb ▸ h.buffered
  bound := by rw [eb, el]; exact h.bound
  limit := el ▸ h.limit

/-- The next chunk is non-empty, fits the queue and is a piece of what is left. -/
lemma Holds.chunkLen_pos (h : Holds s xs) {remaining : Nat} (pos : 0 < remaining)
    (room : s.responseBuffered < s.responseBufferLimit) :
    1 ≤ chunkLen s remaining ∧ chunkLen s remaining ≤ remaining ∧
      chunkLen s remaining ≤ streamChunkBytes ∧
      s.responseBuffered + chunkLen s remaining ≤ s.responseBufferLimit := by
  have hs := sizeSub_of_le (Nat.le_of_lt room) h.limit
  have hc : streamChunkBytes = 4096 := rfl
  simp only [chunkLen, hs]
  split_ifs <;> omega

/-- What one turn of the append loop can do (C `h3_stream_response_append`): wait, refuse, fail and
cancel the response, or queue one more chunk. -/
inductive Appended (s : Stream) (xs : Cells) (data : List UInt8) (malloc : Option Ptr) :
    Stream → AppendRet → Prop where
  | wait :
    s.responseBuffered ≥ s.responseBufferLimit →
    s.gone = false →
    Appended s xs data malloc s .wait
  | refuse :
    (s.gone || !s.ngh3) = true →
    Appended s xs data malloc s (.ret .econnaborted)
  | tooLong :
    s.responseLen > sizeMax - chunkLen s data.length →
    Appended s xs data malloc (streamResponseCancelLocked s) (.ret .egeneral)
  | noMemory :
    malloc = none →
    Appended s xs data malloc (streamResponseCancelLocked s) (.ret .enomem)
  | chunk {s' a n} :
    (s.gone || !s.ngh3) = false →
    1 ≤ n →
    n ≤ data.length →
    Holds s' (xs ++ [(a, { len := n, acked := 0, data := data.take n })]) →
    s' =
      { s with
        responseQueue := s'.responseQueue
        responseBuffered := s'.responseBuffered
        responseLen := sizeAdd s.responseLen n
        responseSubmitChunk := if s.responseSubmitChunk.isNone then some a else
        s.responseSubmitChunk
        responseSubmitOffset := if s.responseSubmitChunk.isNone then 0 else s.responseSubmitOffset
        } →
    Appended s xs data malloc s' (.chunk n s.responseSubmitted)

/-- The append loop follows no dangling pointer, keeps the queue in order, and no subtraction in it
wraps. -/
theorem Holds.appendBy (h : Holds s xs) {data : List UInt8} {malloc : Option Ptr} (ne : data ≠ [])
    (fresh : ∀ a, malloc = some a → s.responseQueue.mem a = none) :
    ∃ s' ret, (∀ check, streamResponseAppendStepBy check s data malloc = some (s', ret)) ∧
      Appended s xs data malloc s' ret := by
  unfold streamResponseAppendStepBy
  by_cases hw : s.responseBuffered ≥ s.responseBufferLimit ∧ s.gone = false
  · exact ⟨s, .wait, fun _ => if_pos hw, .wait hw.1 hw.2⟩
  simp only [if_neg hw]
  by_cases hr : (s.gone || !s.ngh3) = true
  · exact ⟨s, .ret .econnaborted, fun _ => if_pos hr, .refuse hr⟩
  simp only [if_neg hr, noWrap_of_le _ h.bound, noWrap_of_le _ (chunkLen_le s _),
    Option.bind_eq_bind, Option.bind_some]
  have hg : s.gone = false := by
    cases hg : s.gone with
    | false => rfl
    | true => exact absurd (by rw [hg]; rfl) hr
  -- past the wait of a live stream there is room, so that the chunk is not empty
  have room : s.responseBuffered < s.responseBufferLimit := by
    by_contra hle
    exact hw ⟨by omega, hg⟩
  obtain ⟨h1, h2, h3, h4⟩ := h.chunkLen_pos (List.length_pos_iff.mpr ne) room
  by_cases hz : chunkLen s data.length = 0 ∨ s.responseLen > sizeMax - chunkLen s data.length
  · refine ⟨_, _, fun _ => if_pos hz, .tooLong ?_⟩
    rcases hz with hz | hz
    · omega
    · exact hz
  · simp only [if_neg hz]
    cases malloc with
    | none => exact ⟨_, _, fun _ => rfl, .noMemory rfl⟩
    | some a =>
      set n := chunkLen s data.length
      obtain ⟨q, hq, rep⟩ := h.rep.push (v := { len := n, acked := 0, data := data.take n })
        (fresh a rfl)
      have hlim := h.limit
      have hadd : sizeAdd s.responseBuffered n = s.responseBuffered + n := sizeAdd_of_lt (by omega)
      refine ⟨_, _, fun _ => by simp only [hq]; rfl, .chunk (Bool.eq_false_iff.mpr hr) h1 h2 ?_ rfl⟩
      refine
        { rep := rep
          valid := ⟨fun x hx => ?_, fun x hx => ?_⟩
          buffered := ?_
          bound := ?_
          limit := hlim }
      · rcases List.mem_append.mp hx with hx | hx
        · exact h.valid.chunk x hx
        · rw [List.mem_singleton] at hx
          subst hx
          exact ⟨h1, h3, h1, by rw [List.length_take]; exact Nat.min_eq_left h2⟩
      -- only the head may be acknowledged in part: the new chunk is not acknowledged at all
      · cases xs with
        | nil => cases hx
        | cons y ys =>
          rw [List.cons_append, List.tail_cons] at hx
          rcases List.mem_append.mp hx with hx | hx
          · exact h.valid.tail x hx
          · rw [List.mem_singleton] at hx
            subst hx
            rfl
      · show sizeAdd s.responseBuffered n = _
        rw [hadd, unacked_append, h.buffered]
        simp
      · show sizeAdd s.responseBuffered n ≤ s.responseBufferLimit
        omega

/-- The same of the loop as it is. -/
theorem Holds.append (h : Holds s xs) {data : List UInt8} {malloc : Option Ptr} (ne : data ≠ [])
    (fresh : ∀ a, malloc = some a → s.responseQueue.mem a = none) :
    ∃ s' ret, streamResponseAppendStep s data malloc = some (s', ret) ∧
      Appended s xs data malloc s' ret := by
  obtain ⟨s', ret, eq, app⟩ := h.appendBy ne fresh
  exact ⟨s', ret, eq false, app⟩

/-- Acknowledging changes nothing but the queue and `response_buffered`. -/
lemma ackLoop_frame {fuel n : Nat} (eq : ackLoop fuel s n = some s') :
    s' = { s with responseQueue := s'.responseQueue, responseBuffered := s'.responseBuffered } := by
  induction fuel generalizing s n with
  | zero => cases eq
  | succ fuel ih =>
    rw [ackLoop, ackLoopBy] at eq
    split_ifs at eq
    · cases eq
      rfl
    · split at eq
      · cases eq
        rfl
      · obtain ⟨cell, _, eq⟩ := Option.bind_eq_some_iff.mp eq
        simp only [noWrap_false, Option.bind_eq_bind, Option.bind_some] at eq
        obtain ⟨q, _, eq⟩ := Option.bind_eq_some_iff.mp eq
        split_ifs at eq
        · obtain ⟨q', _, eq⟩ := Option.bind_eq_some_iff.mp eq
          rw [ih eq]
        · rw [ih eq]

/-- The first chunk as the ack loop finds it. -/
structure First (s : Stream) (a : Ptr) (c : Chunk) (xs : Cells) : Prop where
  head : s.responseQueue.head = some a
  cell : s.responseQueue.mem a = some { val := c, next := front xs }
  acked : c.acked < c.len
  len : c.len ≤ 4096
  available : c.len - c.acked ≤ s.responseBuffered
  buffered : s.responseBuffered < 2 ^ 64

/-- The first chunk of a queue in order. -/
lemma Holds.first {a : Ptr} {c : Chunk} (h : Holds s ((a, c) :: xs)) : First s a c xs where
  head := h.rep.head
  cell := h.rep.cell (l := [])
  acked := (h.valid.chunk _ List.mem_cons_self).acked
  len := (h.valid.chunk _ List.mem_cons_self).le
  available := by
    rw [h.buffered, unacked_cons]
    exact Nat.le_add_right _ _
  buffered := Nat.lt_of_le_of_lt h.bound h.limit

/-- What a turn of the ack loop does with `n` bytes: they end inside the first chunk, which stays,
or they use it up, and it is unlinked and freed. -/
inductive Acking (s : Stream) (a : Ptr) (c : Chunk) (xs : Cells) (n : Nat) : Prop where
  | inside {q} :
    n < c.len - c.acked →
    s.responseQueue.modifyHead (fun d => { d with acked := c.acked + n }) = some q →
    Holds { s with responseQueue := q, responseBuffered := s.responseBuffered - n }
      ((a, { c with acked := c.acked + n }) :: xs) →
    Acking s a c xs n
  | whole {q q'} :
    ¬ n < c.len - c.acked →
    s.responseQueue.modifyHead (fun d => { d with acked := c.len }) = some q →
    q.dropHead = some q' →
    Holds { s with responseQueue := q', responseBuffered := s.responseBuffered - (c.len - c.acked) }
    xs →
    Acking s a c xs n

/-- Acknowledging bytes of a queue in order begins at its first chunk. -/
lemma Holds.acking {a : Ptr} {c : Chunk} (h : Holds s ((a, c) :: xs)) {n : Nat} (pos : 0 < n) :
    Acking s a c xs n := by
  have first := h.first
  have bound := h.bound
  have buffered := h.buffered
  rw [unacked_cons] at buffered
  dsimp only at buffered
  by_cases inside : n < c.len - c.acked
  · obtain ⟨q, hq, rep⟩ := h.rep.modifyHead fun c => { c with acked := c.acked + n }
    have write : s.responseQueue.modifyHead (fun d => { d with acked := c.acked + n }) =
        some q := by
      rw [← hq]
      simp [Queue.modifyHead, first.head, first.cell]
    have split : ackChunks ((a, c) :: xs) n = (a, { c with acked := c.acked + n }) :: xs := by
      simp [ackChunks, Nat.pos_iff_ne_zero.mp pos, inside]
    refine .inside inside write ⟨rep, split ▸ h.valid.ackChunks, ?_, ?_, h.limit⟩
    · rw [← split, unacked_ackChunks h.valid, unacked_cons, ← buffered]
    · exact Nat.le_trans (Nat.sub_le _ _) bound
  · obtain ⟨q, hq, rep⟩ := h.rep.modifyHead fun d => { d with acked := c.len }
    obtain ⟨q', hq', rep'⟩ := rep.dropHead
    refine .whole inside hq hq' ⟨rep', h.valid.of_cons, ?_, ?_, h.limit⟩
    · show s.responseBuffered - (c.len - c.acked) = _
      omega
    · exact Nat.le_trans (Nat.sub_le _ _) bound

/-- The ack loop follows no dangling pointer, acknowledges chunk by chunk, and no subtraction in it
wraps. -/
lemma Holds.ackLoopBy (h : Holds s xs) (n : Nat) :
    ∃ s', (∀ check, Response.ackLoopBy check (xs.length + 1) s n = some s') ∧
    Holds s' (ackChunks xs n) := by
  induction xs generalizing s n with
  | nil =>
    have head : s.responseQueue.head = none := h.rep.head
    refine ⟨s, ?_, h⟩
    simp [Response.ackLoopBy, head]
  | cons x xs ih =>
    obtain ⟨a, c⟩ := x
    rcases Nat.eq_zero_or_pos n with rfl | pos
    · exact ⟨s, by simp [Response.ackLoopBy], by simpa using h⟩
    obtain ⟨head, cell, acked, len, available, buffered⟩ := h.first
    have havail : sizeSub c.len c.acked = c.len - c.acked :=
      sizeSub_of_le (Nat.le_of_lt acked) (by omega)
    rcases h.acking pos with ⟨inside, write, h'⟩ | ⟨whole, write, drop, h'⟩
    · have hadd : sizeAdd c.acked n = c.acked + n := sizeAdd_of_lt (by omega)
      have hsub : sizeSub s.responseBuffered n = s.responseBuffered - n :=
        sizeSub_of_le (by omega) (by omega)
      have stays : ¬ c.acked + n = c.len := by omega
      have split : ackChunks ((a, c) :: xs) n = (a, { c with acked := c.acked + n }) :: xs := by
        simp [ackChunks, Nat.pos_iff_ne_zero.mp pos, inside]
      have room : n ≤ s.responseBuffered := by omega
      refine ⟨_, fun check => ?_, split ▸ h'⟩
      simp only [Response.ackLoopBy, Nat.pos_iff_ne_zero.mp pos, if_false, head, cell, consumed,
        havail, inside, if_true, hadd, hsub, noWrap_of_le check (Nat.le_of_lt acked),
        noWrap_of_le check room,
        noWrap_of_le check (Nat.le_refl n), Option.bind_eq_bind, Option.bind_some, write, stays,
        Nat.sub_self,
        List.length_cons]
    · have hadd : sizeAdd c.acked (c.len - c.acked) = c.len := by
        rw [sizeAdd_of_lt (by omega)]
        omega
      have hsub : sizeSub s.responseBuffered (c.len - c.acked) =
          s.responseBuffered - (c.len - c.acked) :=
        sizeSub_of_le available buffered
      have split : ackChunks ((a, c) :: xs) n = ackChunks xs (n - (c.len - c.acked)) := by
        simp [ackChunks, Nat.pos_iff_ne_zero.mp pos, whole]
      obtain ⟨s', hs', hh'⟩ := ih h' (n - (c.len - c.acked))
      refine ⟨s', fun check => ?_, split ▸ hh'⟩
      rw [← hs' check, List.length_cons]
      conv_lhs => rw [Response.ackLoopBy]
      simp only [Nat.pos_iff_ne_zero.mp pos, if_false, head, cell, consumed, havail, whole, hadd,
        hsub, noWrap_of_le check (Nat.le_of_lt acked), noWrap_of_le check available,
        noWrap_of_le check (Nat.not_lt.mp whole), Option.bind_eq_bind, Option.bind_some, write,
        if_true, drop]

/-- Acknowledging follows no dangling pointer (C `h3_stream_response_ack_locked`). -/
theorem Holds.ack (h : Holds s xs) (n : Nat) :
    ∃ s', streamResponseAckLocked s n = some s' ∧ Holds s' (ackChunks xs n) := by
  rw [streamResponseAckLocked, h.rep.allocated]
  obtain ⟨s', eq, holds⟩ := h.ackLoopBy n
  exact ⟨s', eq false, holds⟩

/-- The read loop hands out whole chunks from the cursor on and moves the cursor behind them. -/
theorem Holds.read {sent rest : Cells} (h : Holds s (sent ++ rest)) (veccnt : Nat)
    (cursor : s.responseSubmitChunk = front rest) (offset : s.responseSubmitOffset = 0) :
    readLoop veccnt s =
      some ({ s with responseSubmitChunk := front (rest.drop veccnt), responseSubmitOffset := 0 },
        Cells.data (rest.take veccnt)) := by
  induction veccnt generalizing s sent rest with
  | zero =>
    cases s
    dsimp only at cursor offset
    subst cursor offset
    rfl
  | succ veccnt ih =>
    cases rest with
    | nil =>
      rw [front_nil] at cursor
      cases s
      dsimp only at cursor offset
      subst cursor offset
      rfl
    | cons x rest =>
      obtain ⟨a, c⟩ := x
      rw [front_cons] at cursor
      have cell : s.responseQueue.mem a = some { val := c, next := front rest } := h.rep.cell
      have vc : c.Valid := h.valid.chunk (a, c) (by simp)
      have hle := vc.le
      have hcb : streamChunkBytes = 4096 := rfl
      have hsub : sizeSub c.len 0 = c.len := sizeSub_of_le (Nat.zero_le _) (by omega)
      have h' : Holds { s with responseSubmitChunk := front rest, responseSubmitOffset := 0 }
          ((sent ++ [(a, c)]) ++ rest) := by
        rw [List.append_assoc]
        exact h.frame rfl rfl rfl
      have ih' := ih h' rfl rfl
      simp only [readLoop, cursor, cell, offset, hsub, List.drop_zero, Option.bind_eq_bind,
        Option.bind_some, ih', List.drop_succ_cons, List.take_succ_cons, data_cons]
      rw [← vc.data, List.take_length]

/-- The read loop moves the cursor and changes nothing else. -/
lemma readLoop_frame {veccnt : Nat} {vecs : List (List UInt8)}
    (eq : readLoop veccnt s = some (s', vecs)) :
    s' =
      { s with
        responseSubmitChunk := s'.responseSubmitChunk
        responseSubmitOffset := s'.responseSubmitOffset } := by
  induction veccnt generalizing s vecs with
  | zero =>
    cases eq
    rfl
  | succ veccnt ih =>
    rw [readLoop] at eq
    split at eq
    · cases eq
      rfl
    · obtain ⟨cell, _, eq⟩ := Option.bind_eq_some_iff.mp eq
      dsimp only at eq
      obtain ⟨⟨t, vs⟩, eq1, eq⟩ := Option.bind_eq_some_iff.mp eq
      cases eq
      rw [ih eq1]

/-- A read moves the cursor and changes nothing else; it reports the end of the body only for a
cancelled or complete response. -/
lemma sessionReadData_frame {veccnt : Nat} {r : ReadResult}
    (eq : sessionReadData s veccnt = some (s', r)) :
    s' =
      { s with
        responseSubmitChunk := s'.responseSubmitChunk
        responseSubmitOffset := s'.responseSubmitOffset } ∧
    (r.eof = true → s.responseCancelled = true ∨ s.responseComplete = true) := by
  rw [sessionReadData] at eq
  split at eq
  · cases eq
    exact ⟨rfl, fun h => nomatch h⟩
  split at eq
  · rename_i hc
    cases eq
    exact ⟨rfl, fun _ => .inl hc⟩
  · obtain ⟨⟨t, vecs⟩, eq1, eq⟩ := Option.bind_eq_some_iff.mp eq
    have frame := readLoop_frame eq1
    have complete : t.responseComplete = s.responseComplete := by rw [frame]
    dsimp only at eq
    split at eq
    · cases eq
      refine ⟨frame, fun h => .inr ?_⟩
      rw [← complete]
      exact (Bool.and_eq_true_iff.mp h).2
    split at eq
    · rename_i hc
      cases eq
      exact ⟨frame, fun _ => .inr (complete ▸ hc)⟩
    · cases eq
      exact ⟨frame, fun h => nomatch h⟩

/-- Appending leaves the submission alone and never takes a cancellation back. -/
lemma appendStep_frame {data : List UInt8} {malloc : Option Ptr} {ret : AppendRet}
    (eq : streamResponseAppendStep s data malloc = some (s', ret)) :
    s'.responseSubmitted = s.responseSubmitted ∧
      (s.responseCancelled = true → s'.responseCancelled = true) := by
  unfold streamResponseAppendStep streamResponseAppendStepBy at eq
  split at eq
  · cases eq
    exact ⟨rfl, id⟩
  split at eq
  · cases eq
    exact ⟨rfl, id⟩
  simp only [noWrap_false, Option.bind_eq_bind, Option.bind_some] at eq
  split at eq
  · cases eq
    exact ⟨rfl, fun _ => rfl⟩
  cases malloc with
  | none =>
    cases eq
    exact ⟨rfl, fun _ => rfl⟩
  | some a =>
    obtain ⟨q, _, eq⟩ := Option.bind_eq_some_iff.mp eq
    cases eq
    exact ⟨rfl, id⟩

/-- What submitting the response can do. -/
lemma submitResponseNva_cases {rv : Int} {status : Status} {called : Bool}
    (eq : submitResponseNva s rv = (s', status, called)) :
    (status = .success ∧ s' = s ∧ s.responseSubmitted = true ∧ called = false) ∨
    (status = .econnaborted ∧ s' = s ∧ (s.gone || !s.ngh3) = true ∧ called = false) ∨
    (status = .success ∧ s' = { s with responseSubmitted := true } ∧ (s.gone || !s.ngh3) = false ∧
      s.responseSubmitted = false ∧ called = true) ∨
    (status = .egeneral ∧ s' = streamResponseCancelLocked s ∧ (s.gone || !s.ngh3) = false ∧
      s.responseSubmitted = false ∧ called = true) := by
  rw [submitResponseNva] at eq
  split at eq
  · rename_i hs
    cases eq
    exact .inl ⟨rfl, rfl, hs, rfl⟩
  · rename_i hs
    rw [Bool.not_eq_true] at hs
    split at eq
    · rename_i hr
      cases eq
      exact .inr (.inl ⟨rfl, rfl, hr, rfl⟩)
    · rename_i hr
      rw [Bool.not_eq_true] at hr
      split at eq
      · cases eq
        exact .inr (.inr (.inl ⟨rfl, rfl, hr, hs, rfl⟩))
      · cases eq
        exact .inr (.inr (.inr ⟨rfl, rfl, hr, hs, rfl⟩))

end

end ModHttp3.Response
