import Mathlib.Data.List.Perm.Basic
import Mathlib.Tactic.Common

/-!
# Unordered removal from an array

The C idiom for an array whose order does not matter: overwrite the removed slot with the last
element and shorten the array by one. `swapRemove_perm` says that exactly the removed element is
gone.

A sweep is a loop over such an array by index that removes some of the elements on its way: after a
removal the index stays, because another element is in the slot now. `Sweep` is what holds at the
head of the loop and `Sweep.At` while the element of a slot is visited; between them they say that
every element is visited once and that those that were kept are left (`Sweep.finish`).
-/

namespace ModHttp3.Lib

/-- Overwrite slot `i` with the last element and drop the last slot. -/
def swapRemove {α : Type*} (xs : List α) (i : Nat) : List α :=
  match xs.getLast? with
  | none => []
  | some last => if i < xs.length - 1 then (xs.set i last).dropLast else xs.dropLast

section
variable {α : Type*} {xs : List α} {x : α} {i : Nat}

/-- Replacing an element exchanges it for the new one. -/
lemma set_perm (h : xs[i]? = some x) (y : α) : (x :: xs.set i y).Perm (y :: xs) := by
  induction xs generalizing i with
  | nil => simp at h
  | cons z zs ih =>
    cases i with
    | zero =>
      simp only [List.getElem?_cons_zero, Option.some.injEq] at h
      subst h
      exact .swap y z zs
    | succ i =>
      rw [List.getElem?_cons_succ] at h
      rw [List.set_cons_succ]
      exact ((List.Perm.swap z x _).trans ((ih h).cons z)).trans (.swap y z zs)

/-- The elements beside that of one slot, whatever the slot holds. -/
lemma exists_rest (h : xs[i]? = some x) :
    ∃ rest, xs.Perm (x :: rest) ∧ ∀ y, (xs.set i y).Perm (y :: rest) := by
  obtain ⟨lt, rfl⟩ := List.getElem?_eq_some_iff.mp h
  refine ⟨xs.eraseIdx i, (List.getElem_cons_eraseIdx_perm lt).symm, ?_⟩
  intro y
  have p := (set_perm h y).trans ((List.getElem_cons_eraseIdx_perm lt).symm.cons y)
  exact (p.trans (.swap _ _ _)).cons_inv

/-- Unordered removal takes out exactly the element of the slot. -/
theorem swapRemove_perm (h : xs[i]? = some x) : (x :: swapRemove xs i).Perm xs := by
  have lt : i < xs.length := (List.getElem?_eq_some_iff.mp h).1
  rcases List.eq_nil_or_concat xs with rfl | ⟨ys, y, rfl⟩
  · simp at lt
  rw [List.concat_eq_append] at h lt ⊢
  rw [List.length_append, List.length_singleton] at lt
  rw [swapRemove, List.getLast?_concat]
  simp only [List.length_append, List.length_singleton, Nat.add_sub_cancel]
  by_cases hi : i < ys.length
  · rw [if_pos hi, List.set_append_left _ _ hi, List.dropLast_concat]
    rw [List.getElem?_append_left hi] at h
    exact (set_perm h y).trans (List.perm_append_singleton y ys).symm
  · have : i = ys.length := by omega
    subst this
    rw [if_neg hi, List.dropLast_concat]
    simp only [List.getElem?_concat_length, Option.some.injEq] at h
    subst h
    exact (List.perm_append_singleton y ys).symm

/-- Removing an entry makes the list shorter by one. -/
lemma swapRemove_length (h : xs[i]? = some x) : (swapRemove xs i).length + 1 = xs.length := by
  have := (swapRemove_perm h).length_eq
  simpa using this

/-- Unordered removal leaves the slots before alone. -/
lemma swapRemove_take (h : xs[i]? = some x) : (swapRemove xs i).take i = xs.take i := by
  have lt : i < xs.length := (List.getElem?_eq_some_iff.mp h).1
  rcases List.eq_nil_or_concat xs with rfl | ⟨ys, y, rfl⟩
  · simp at lt
  rw [List.concat_eq_append] at lt ⊢
  rw [List.length_append, List.length_singleton] at lt
  rw [swapRemove, List.getLast?_concat]
  simp only [List.length_append, List.length_singleton, Nat.add_sub_cancel]
  have le : i ≤ ys.length := by omega
  by_cases hi : i < ys.length
  · rw [if_pos hi, List.set_append_left _ _ hi, List.dropLast_concat,
      List.take_append_of_le_length le, List.take_set_of_le (Nat.le_refl i)]
  · rw [if_neg hi, List.dropLast_concat, List.take_append_of_le_length le]

/-- It takes the element of the slot out of the slots from there on. -/
lemma swapRemove_drop (h : xs[i]? = some x) :
    ((swapRemove xs i).drop i).Perm (xs.drop (i + 1)) := by
  have lt : i < xs.length := (List.getElem?_eq_some_iff.mp h).1
  have here : xs.drop i = x :: xs.drop (i + 1) := by
    rw [List.drop_eq_getElem_cons lt, (List.getElem?_eq_some_iff.mp h).2]
  have perm := swapRemove_perm h
  rw [← List.take_append_drop i (swapRemove xs i), swapRemove_take h] at perm
  nth_rewrite 3 [← List.take_append_drop i xs] at perm
  rw [here] at perm
  have moved := perm.trans List.perm_middle
  exact List.perm_append_left_iff _ |>.mp moved.cons_inv

end

section
variable {α : Type*} {initial visited kept xs : List α} {x : α} {i : Nat}

/-- The head of a loop over `initial`: the elements in `visited` were visited, those in `kept` are
before the index, in this order, and the ones still to visit are behind it. -/
structure Sweep (initial visited kept xs : List α) (i : Nat) : Prop where
  perm : (visited ++ xs.drop i).Perm initial
  kept : xs.take i = kept
  bound : i ≤ xs.length

/-- The element of slot `i` is being visited, and is `x` now. -/
structure Sweep.At (initial visited kept xs : List α) (i : Nat) (x : α) : Prop where
  perm : (visited ++ xs.drop (i + 1)).Perm initial
  kept : xs.take i = kept
  here : xs[i]? = some x

namespace Sweep

/-- A sweep before its first entry. -/
lemma start : Sweep xs [] [] xs 0 where
  perm := .refl _
  kept := rfl
  bound := Nat.zero_le _

/-- The next element is visited, which can change it. -/
lemma visit (s : Sweep initial visited kept xs i) (h : xs[i]? = some x) (y : α) :
    At initial (visited ++ [x]) kept (xs.set i y) i y where
  perm := by
    have lt : i < xs.length := (List.getElem?_eq_some_iff.mp h).1
    have perm := s.perm
    rw [List.drop_eq_getElem_cons lt, (List.getElem?_eq_some_iff.mp h).2] at perm
    rw [List.append_assoc, List.drop_set_of_lt (Nat.lt_succ_self i)]
    exact perm
  kept := by
    rw [List.take_set_of_le (Nat.le_refl i)]
    exact s.kept
  here := by
    rw [List.getElem?_set_self (List.getElem?_eq_some_iff.mp h).1]

/-- The next element is visited and stays as it is. -/
lemma examine (s : Sweep initial visited kept xs i) (h : xs[i]? = some x) :
    At initial (visited ++ [x]) kept xs i x := by
  have at' := s.visit h x
  obtain ⟨lt, rfl⟩ := List.getElem?_eq_some_iff.mp h
  rwa [List.set_getElem_self lt] at at'

/-- The element is kept, and the index moves on. -/
lemma At.keep (s : At initial visited kept xs i x) :
    Sweep initial visited (kept ++ [x]) xs (i + 1) where
  perm := s.perm
  kept := by rw [List.take_add_one, s.kept, s.here, Option.toList_some]
  bound := (List.getElem?_eq_some_iff.mp s.here).1

/-- The element is removed, and the index stays. -/
lemma At.remove (s : At initial visited kept xs i x) :
    Sweep initial visited kept (swapRemove xs i) i where
  perm := ((swapRemove_drop s.here).append_left visited).trans s.perm
  kept := by rw [swapRemove_take s.here, s.kept]
  bound := by
    have := swapRemove_length s.here
    have := (List.getElem?_eq_some_iff.mp s.here).1
    omega

/-- How many elements are still to visit. -/
lemma left (s : Sweep initial visited kept xs i) :
    visited.length + xs.length = initial.length + i := by
  have all := s.perm.length_eq
  have bound := s.bound
  rw [List.length_append, List.length_drop] at all
  omega

/-- At the end of the loop every element was visited once, and those that were kept are left. -/
lemma finish (s : Sweep initial visited kept xs i) (h : xs.length ≤ i) :
    visited.Perm initial ∧ xs = kept := by
  have perm := s.perm
  rw [List.drop_eq_nil_of_le h, List.append_nil] at perm
  exact ⟨perm, by rw [← s.kept, List.take_of_length_le h]⟩

end Sweep

end

end ModHttp3.Lib
