import ModHttp3.Lib.Buffer
import ModHttp3.Session.Callbacks

/-!
# The buffer of a request body

`recvBody` says what `on_recv_data` stores; this module is about how. The bytes lie in a block of
`request_body_capacity` bytes, which is replaced by a larger one when it is full: the capacity is
doubled from `H3_BODY_BUF_INIT_CAP`, or from what it was, and then cut at the configured limit.

`BodyBuffer.onRecvData` is the function down to its memory operations. It returns `none` when a copy
leaves the block, when a sum or a product wraps in `size_t`, or when the doubling does not come to
its end; `BodyBuffer.Holds` ties the buffer to the stream object of the session model, and
`Holds.onRecvData` says that it returns and stores what `recvBody` does.
-/

namespace ModHttp3.H3
open ModHttp3.Lib

/-- The fields of a stream that hold the request body. -/
structure BodyBuffer where
  requestBody : Block
  requestBodyLen : Nat
  requestBodyCapacity : Nat
  requestBodyOverflow : Bool

namespace BodyBuffer

/-- No body yet: a null pointer and zeros. -/
def init : BodyBuffer where
  requestBody := []
  requestBodyLen := 0
  requestBodyCapacity := 0
  requestBodyOverflow := false

/-- A larger block, with what was stored in the old one. -/
def grow (max needed : Nat) (b : BodyBuffer) : Option BodyBuffer := do
  let cap := if b.requestBodyCapacity = 0 then bodyBufInitCap else b.requestBodyCapacity
  let cap ← doubleUntil (needed + 1) cap needed
  let cap := if cap > max then max else cap
  let stored ← b.requestBody.read b.requestBodyLen
  let grown ← (Block.alloc cap).write 0 stored
  some { b with requestBody := grown, requestBodyCapacity := cap }

/-- Body bytes of a request stream arrive (C `on_recv_data`); `max` is
`h3_max_request_body_size`. -/
def onRecvData (max : Nat) (b : BodyBuffer) (data : List UInt8) : Option BodyBuffer :=
  if data = [] then
    some b
  else if b.requestBodyOverflow then
    some b
  else do
    let needed ← checkedAdd b.requestBodyLen data.length
    if needed > max then
      some { b with requestBodyOverflow := true }
    else
      let b ← if needed > b.requestBodyCapacity then b.grow max needed else some b
      let body ← b.requestBody.write b.requestBodyLen data
      some { b with requestBody := body, requestBodyLen := needed }

/-- The buffer holds the body of a stream object. -/
structure Holds (b : BodyBuffer) (x : H3Stream) : Prop where
  body : b.requestBody.Starts x.requestBody
  len : b.requestBodyLen = x.requestBody.length
  block : b.requestBody.length = b.requestBodyCapacity
  capacity : b.requestBodyCapacity = x.requestBodyCapacity
  overflow : b.requestBodyOverflow = x.requestBodyOverflow

end BodyBuffer

/-- The largest object: no array is longer than a `ptrdiff_t` can say. -/
def ptrdiffMax : Nat := 2 ^ 63 - 1

section
variable {b b' : BodyBuffer} {x : H3Stream} {max needed : Nat} {data : List UInt8}

/-- The doubling of the session model is the loop of the source. -/
lemma growCapacity_eq {fuel capacity c : Nat}
    (eq : doubleUntil (fuel + 1) capacity needed = some c) :
    growCapacity fuel capacity needed = c := by
  induction fuel generalizing capacity with
  | zero =>
    rw [doubleUntil] at eq
    split at eq
    · obtain ⟨d, _, eq⟩ := Option.bind_eq_some_iff.mp eq
      cases eq
    · cases eq
      rfl
  | succ fuel ih =>
    rw [doubleUntil] at eq
    rw [growCapacity]
    split at eq
    · rename_i lt
      obtain ⟨d, double, eq⟩ := Option.bind_eq_some_iff.mp eq
      rw [checkedMul] at double
      split at double
      · cases double
        rw [if_pos lt]
        exact ih eq
      · cases double
    · rename_i ge
      cases eq
      rw [if_neg ge]

/-- The capacity after growing, as the session model has it. -/
def grownCapacity (max needed : Nat) (x : H3Stream) : Nat :=
  let cap := if x.requestBodyCapacity = 0 then bodyBufInitCap else x.requestBodyCapacity
  let cap := growCapacity needed cap needed
  if cap > max then max else cap

/-- Growing keeps what is stored and makes room for what is needed, within the limit. -/
lemma BodyBuffer.Holds.grow (h : b.Holds x) (le : needed ≤ max) (small : max ≤ 2 ^ 30)
    (stored : x.requestBody.length ≤ needed) :
    ∃ b', b.grow max needed = some b' ∧
      b'.Holds { x with requestBodyCapacity := grownCapacity max needed x } ∧
      needed ≤ b'.requestBodyCapacity ∧ b'.requestBodyCapacity ≤ max ∧
      b'.requestBodyLen = b.requestBodyLen := by
  have pos : 0 < if b.requestBodyCapacity = 0 then bodyBufInitCap else b.requestBodyCapacity := by
    split
    · decide
    · omega
  obtain ⟨c, double, enough, _⟩ := doubleUntil_spec needed needed pos (by omega) (by omega)
  have cap : grownCapacity max needed x = if c > max then max else c := by
    rw [grownCapacity, ← h.capacity, growCapacity_eq double]
  have fits : needed ≤ grownCapacity max needed x := by
    rw [cap]
    split <;> omega
  have bound : grownCapacity max needed x ≤ max := by
    rw [cap]
    split <;> omega
  obtain ⟨grown, write, length, starts⟩ :=
    (Block.Starts.nil (b := Block.alloc (grownCapacity max needed x))).write
    x.requestBody (by rw [Block.alloc_length, List.length_nil]; omega)
  rw [Block.alloc_length] at length
  refine ⟨{ b with requestBody := grown, requestBodyCapacity := grownCapacity max needed x }, ?_,
    ?_, fits, bound, rfl⟩
  · rw [List.length_nil] at write
    simp only [BodyBuffer.grow, double, Option.bind_eq_bind, Option.bind_some, ← cap, h.len,
      h.body.read, write]
  · exact ⟨starts, h.len, length, rfl, h.overflow⟩

/-- `on_recv_data` stays inside its block, wraps nowhere, comes to its end, and stores what the
session model says. -/
lemma BodyBuffer.Holds.onRecvData (h : b.Holds x) (bidi : x.isBidi = true) (small : max ≤ 2 ^ 30)
    (stored : x.requestBody.length ≤ max) (capacity : x.requestBodyCapacity ≤ max)
    (object : data.length ≤ ptrdiffMax) :
    ∃ b', b.onRecvData max data = some b' ∧ b'.Holds (recvBody max data x) ∧
      (recvBody max data x).requestBodyCapacity ≤ max := by
  have object' : data.length ≤ 2 ^ 63 - 1 := object
  rw [BodyBuffer.onRecvData, recvBody]
  by_cases empty : data = []
  · rw [if_pos empty, if_pos (.inr (.inl empty))]
    exact ⟨b, rfl, h, capacity⟩
  rw [if_neg empty]
  by_cases beyond : x.requestBodyOverflow = true
  · rw [if_pos (h.overflow.trans beyond), if_pos (.inr (.inr beyond))]
    exact ⟨b, rfl, h, capacity⟩
  rw [if_neg (h.overflow ▸ beyond), if_neg (by simp [bidi, empty, beyond]), h.len,
    checkedAdd_of_lt (by omega), Option.bind_eq_bind, Option.bind_some]
  dsimp only
  by_cases above : x.requestBody.length + data.length > max
  · rw [if_pos above, if_pos above]
    exact ⟨_, rfl, ⟨h.body, rfl, h.block, h.capacity, rfl⟩, capacity⟩
  rw [if_neg above, if_neg above, h.capacity]
  -- both branches lead to a block with room for the payload
  have copy : ∀ {b1 : BodyBuffer} {c : Nat}, b1.Holds { x with requestBodyCapacity := c } →
      b1.requestBodyLen = b.requestBodyLen → x.requestBody.length + data.length ≤ c → c ≤ max →
      ∃ b', ((b1.requestBody.write b1.requestBodyLen data).bind fun body =>
          some { b1 with
            requestBody := body
            requestBodyLen := x.requestBody.length + data.length }) = some b' ∧
        b'.Holds { x with requestBody := x.requestBody ++ data, requestBodyCapacity := c } ∧
        c ≤ max := by
    intro b1 c h1 len room bound
    obtain ⟨body, write, length, starts⟩ := h1.body.write data
      (by rw [h1.block, h1.capacity]; exact room)
    rw [len, h.len, write, Option.bind_some]
    refine ⟨_, rfl, ⟨starts, ?_, length.trans h1.block, h1.capacity, h1.overflow⟩, bound⟩
    exact List.length_append.symm
  by_cases full : x.requestBody.length + data.length > x.requestBodyCapacity
  · rw [if_pos full, if_pos full]
    obtain ⟨b1, grow, h1, enough, bound, len⟩ :=
      h.grow (Nat.not_lt.mp above) small (Nat.le_add_right _ _)
    rw [h1.capacity] at enough bound
    simp only [grow, Option.bind_eq_bind, Option.bind_some]
    exact copy h1 len enough bound
  · rw [if_neg full, if_neg full]
    simp only [Option.bind_eq_bind, Option.bind_some]
    exact copy h rfl (Nat.not_lt.mp full) capacity

end

/-- The payloads before the first one that would take the total above `max`, when `used` bytes came
before them. -/
def fitting (max : Nat) : Nat → List (List UInt8) → List (List UInt8)
  | _, [] => []
  | used, d :: ds => if used + d.length > max then [] else d :: fitting max (used + d.length) ds

section
variable {max used : Nat} {ds : List (List UInt8)} {d : List UInt8}

/-- One more payload fits if all of them do. -/
lemma fitting_snoc : fitting max used (ds ++ [d]) =
    if used + ds.flatten.length + d.length > max then fitting max used ds else fitting max used
      ds ++ [d] := by
  induction ds generalizing used with
  | nil => simp [fitting]
  | cons e ds ih =>
    rw [List.cons_append, fitting, fitting, List.flatten_cons, List.length_append]
    by_cases beyond : used + e.length > max
    · rw [if_pos beyond, if_pos beyond, if_pos (by omega)]
    · rw [if_neg beyond, if_neg beyond, ih, ← Nat.add_assoc used]
      split <;> rfl

/-- While the total is within the limit, every payload fits. -/
lemma fitting_all (le : used + ds.flatten.length ≤ max) : fitting max used ds = ds := by
  induction ds generalizing used with
  | nil => rfl
  | cons e ds ih =>
    rw [List.flatten_cons, List.length_append] at le
    rw [fitting, if_neg (by omega), ih (by omega)]

/-- What is stored is within the limit. -/
lemma fitting_le (ds : List (List UInt8)) (le : used ≤ max) :
    used + (fitting max used ds).flatten.length ≤ max := by
  induction ds generalizing used with
  | nil => simpa [fitting] using le
  | cons e ds ih =>
    rw [fitting]
    split
    · simpa using le
    · rename_i fits
      have := ih (Nat.not_lt.mp fits)
      rw [List.flatten_cons, List.length_append]
      omega

end

/-- The buffer and the stream object after the payloads `ds`. -/
structure Accumulated (max : Nat) (ds : List (List UInt8)) (b : BodyBuffer) (x : H3Stream) :
    Prop where
  holds : b.Holds x
  bidi : x.isBidi = true
  body : x.requestBody = (fitting max 0 ds).flatten
  overflow : x.requestBodyOverflow = true ↔ max < ds.flatten.length
  capacity : x.requestBodyCapacity ≤ max

section
variable {max : Nat} {ds : List (List UInt8)} {d : List UInt8} {b : BodyBuffer} {x : H3Stream}

/-- What `on_recv_data` stores of a payload. -/
lemma Accumulated.recvBody (h : Accumulated max ds b x) :
    (H3.recvBody max d x).requestBody = (fitting max 0 (ds ++ [d])).flatten ∧
      ((H3.recvBody max d x).requestBodyOverflow = true ↔ max < (ds ++ [d]).flatten.length) := by
  have total : (ds ++ [d]).flatten.length = ds.flatten.length + d.length := by simp
  rw [fitting_snoc, total, Nat.zero_add, H3.recvBody]
  by_cases beyond : max < ds.flatten.length
  · rw [if_pos (.inr (.inr (h.overflow.mpr beyond))), if_pos (by omega)]
    exact ⟨h.body, iff_of_true (h.overflow.mpr beyond) (by omega)⟩
  have fits : x.requestBodyOverflow ≠ true := fun set => beyond (h.overflow.mp set)
  have whole : x.requestBody = ds.flatten := by rw [h.body, fitting_all (by omega)]
  by_cases empty : d = []
  · subst empty
    rw [if_pos (.inr (.inl rfl)), if_neg (by simpa using beyond)]
    refine ⟨by simp [h.body], ?_⟩
    rw [h.overflow, List.length_nil, Nat.add_zero]
  rw [if_neg (by simp [h.bidi, empty, fits]), ← whole]
  dsimp only
  by_cases above : x.requestBody.length + d.length > max
  · rw [if_pos above, if_pos above]
    exact ⟨h.body, iff_of_true rfl above⟩
  · rw [if_neg above, if_neg above]
    refine ⟨by simp [h.body], iff_of_false fits above⟩

/-- One more payload. -/
lemma Accumulated.step (h : Accumulated max ds b x) (small : max ≤ 2 ^ 30)
    (object : d.length ≤ ptrdiffMax) :
    ∃ b', b.onRecvData max d = some b' ∧ Accumulated max (ds ++ [d]) b' (H3.recvBody max d x) := by
  have stored : x.requestBody.length ≤ max := by
    have := fitting_le ds (Nat.zero_le max)
    rw [h.body]
    omega
  obtain ⟨b', eq, holds, capacity⟩ := h.holds.onRecvData h.bidi small stored h.capacity object
  obtain ⟨body, overflow⟩ := h.recvBody (d := d)
  refine ⟨b', eq, holds, ?_, body, overflow, capacity⟩
  exact (recvBody_mild x).1.isBidi.trans h.bidi

end

/-- For every limit and every sequence of payloads: `on_recv_data` stays inside its block, wraps
nowhere and comes to its end; what is stored are the payloads before the first one that would exceed
the limit; the overflow is marked exactly when the total exceeds it, and then nothing more is
stored. -/
theorem request_body_accumulated {max : Nat} (small : max ≤ 2 ^ 30) (ds : List (List UInt8))
    (objects : ∀ d ∈ ds, d.length ≤ ptrdiffMax) :
    ∃ b, ds.foldlM (BodyBuffer.onRecvData max) .init = some b ∧
      b.requestBody.read b.requestBodyLen = some (fitting max 0 ds).flatten ∧
      (b.requestBodyOverflow = true ↔ max < ds.flatten.length) ∧
      (b.requestBodyOverflow = true → ∀ d, b.onRecvData max d = some b) ∧
      b.requestBodyLen ≤ b.requestBodyCapacity ∧ b.requestBodyCapacity ≤ max ∧
      b.requestBody.length = b.requestBodyCapacity := by
  have run : ∃ b x, ds.foldlM (BodyBuffer.onRecvData max) .init = some b ∧
      Accumulated max ds b x := by
    induction ds using List.reverseRecOn with
    | nil =>
      refine ⟨.init, .init 0 none, rfl, ?_⟩
      exact ⟨⟨.nil, rfl, rfl, rfl, rfl⟩, rfl, rfl, by simp [H3Stream.init], Nat.zero_le _⟩
    | append_singleton ds d ih =>
      obtain ⟨b, x, eq, acc⟩ := ih fun d mem => objects d (List.mem_append_left _ mem)
      obtain ⟨b', eq', acc'⟩ := acc.step small (objects d (by simp))
      refine ⟨b', _, ?_, acc'⟩
      rw [List.foldlM_append, eq, Option.bind_eq_bind, Option.bind_some, List.foldlM_cons, eq']
      rfl
  obtain ⟨b, x, eq, acc⟩ := run
  have holds := acc.holds
  refine ⟨b, eq, ?_, ?_, ?_, ?_, ?_, holds.block⟩
  · rw [holds.len, holds.body.read, acc.body]
  · rw [holds.overflow]
    exact acc.overflow
  · intro beyond d
    rw [BodyBuffer.onRecvData, if_pos beyond]
    split <;> rfl
  · rw [holds.len, ← holds.block]
    exact holds.body.length_le
  · rw [holds.capacity]
    exact acc.capacity

/-- Seven bytes for a limit of five: the third payload is the first one that does not fit. -/
theorem request_body_accumulated_sevenBytes :
    ∃ b, [[1, 2, 3], [4, 5], [6], [7]].foldlM (BodyBuffer.onRecvData 5) .init = some b ∧
      b.requestBody.read b.requestBodyLen = some [1, 2, 3, 4, 5] ∧
      b.requestBodyOverflow = true := by
  obtain ⟨b, eq, stored, beyond, _⟩ :=
    request_body_accumulated (show 5 ≤ 2 ^ 30 by decide) [[1, 2, 3], [4, 5], [6], [7]] (by decide)
  exact ⟨b, eq, stored, beyond.mpr (by decide)⟩

end ModHttp3.H3
