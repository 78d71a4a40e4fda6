import Mathlib.Data.List.Basic
import Mathlib.Data.List.Infix
import Mathlib.Tactic.Common
import ModHttp3.Lib.SizeT

/-!
# Buffers that grow by doubling

A `Block` is a piece of allocated memory; its bytes are `none` until they are written. Reading and
writing return `none` past the end of the block, and reading also where nothing was written.
`Block.Starts b xs` says that `b` begins with the bytes `xs`; `Starts.read` and `Starts.write` are
the rules for a buffer that is filled from its beginning.

`doubleUntil` is the loop that doubles a capacity until it is large enough, in `size_t`. It returns
`none` when it wraps or does not come to its end; `doubleUntil_spec` says when it does neither.
-/

namespace ModHttp3.Lib

/-- The bytes of a block of memory, `none` where nothing was written yet. -/
abbrev Block := List (Option UInt8)

namespace Block

/-- A new block. -/
def alloc (n : Nat) : Block := List.replicate n none

/-- Copy bytes to an offset of a block. -/
def write (b : Block) (offset : Nat) (bytes : List UInt8) : Option Block :=
  if offset + bytes.length ≤ b.length then
    some (b.take offset ++ bytes.map some ++ b.drop (offset + bytes.length))
  else
    none

/-- The first `n` bytes of a block. -/
def read (b : Block) (n : Nat) : Option (List UInt8) :=
  if n ≤ b.length then (b.take n).mapM id else none

/-- The block begins with these bytes. -/
def Starts (b : Block) (bytes : List UInt8) : Prop := bytes.map some <+: b

/-- A new block has the size that was asked for. -/
@[simp] lemma alloc_length (n : Nat) : (alloc n).length = n := List.length_replicate

section
variable {b : Block} {xs : List UInt8}

/-- Every block begins with no bytes. -/
lemma Starts.nil : Starts b [] := List.nil_prefix

/-- A block is at least as long as what it begins with. -/
lemma Starts.length_le (h : b.Starts xs) : xs.length ≤ b.length := by
  have := List.IsPrefix.length_le h
  rwa [List.length_map] at this

/-- What a block begins with is in its first bytes. -/
lemma Starts.take (h : b.Starts xs) : b.take xs.length = xs.map some := by
  have := List.prefix_iff_eq_take.mp h
  rw [List.length_map] at this
  exact this.symm

/-- Reading initialised bytes succeeds. -/
lemma mapM_some (xs : List UInt8) :
    (xs.map some).mapM (id : Option UInt8 → Option UInt8) = some xs := by
  induction xs with
  | nil => rfl
  | cons x xs ih =>
    rw [List.map_cons, List.mapM_cons, ih]
    rfl

/-- What was written can be read. -/
lemma Starts.read (h : b.Starts xs) : b.read xs.length = some xs := by
  rw [Block.read, if_pos h.length_le, h.take]
  exact mapM_some xs

/-- A block that begins with some bytes begins with fewer of them. -/
lemma Starts.mono (h : b.Starts xs) {ys : List UInt8} (sub : ys <+: xs) : b.Starts ys :=
  (sub.map some).trans h

/-- The block from an offset on. -/
lemma Starts.drop (h : b.Starts xs) (n : Nat) : Starts (b.drop n) (xs.drop n) := by
  rw [Starts, List.map_drop]
  exact List.IsPrefix.drop h n

/-- Bytes can be added behind those that are there, up to the end of the block. -/
lemma Starts.write (h : b.Starts xs) (ys : List UInt8) (room : xs.length + ys.length ≤ b.length) :
    ∃ b', b.write xs.length ys = some b' ∧ b'.length = b.length ∧ b'.Starts (xs ++ ys) := by
  refine ⟨_, if_pos room, ?_, ?_⟩
  · simp only [List.length_append, List.length_take, List.length_map, List.length_drop]
    omega
  · rw [Starts, h.take, List.map_append]
    exact List.prefix_append _ _

end

end Block

/-- Double a capacity until it is at least `needed`, in at most `fuel` turns. -/
def doubleUntil : Nat → Nat → Nat → Option Nat
  | 0, _, _ => none
  | fuel + 1, capacity, needed =>
    if capacity < needed then do
      let doubled ← checkedMul capacity 2
      doubleUntil fuel doubled needed
    else
      some capacity

/-- The loop ends without a wrap, at a capacity that is enough and less than twice what is
needed. -/
lemma doubleUntil_spec {capacity : Nat} (fuel needed : Nat) (pos : 0 < capacity)
    (small : 2 * needed ≤ 2 ^ 64) (enough : needed ≤ capacity + fuel) :
    ∃ c, doubleUntil (fuel + 1) capacity needed = some c ∧ needed ≤ c ∧
    (c = capacity ∨ c < 2 * needed) := by
  -- each turn adds at least one to the capacity, so that `enough` holds again with one turn less
  induction fuel generalizing capacity with
  | zero =>
    rw [Nat.add_zero] at enough
    rw [doubleUntil, if_neg (Nat.not_lt.mpr enough)]
    exact ⟨capacity, rfl, enough, .inl rfl⟩
  | succ fuel ih =>
    rw [doubleUntil]
    split
    · rename_i lt
      rw [checkedMul_of_lt (by omega)]
      obtain ⟨c, eq, le, bound⟩ := ih (show 0 < capacity * 2 by omega) (by omega)
      refine ⟨c, eq, le, .inr ?_⟩
      omega
    · rename_i ge
      exact ⟨capacity, rfl, Nat.not_lt.mp ge, .inl rfl⟩

end ModHttp3.Lib
