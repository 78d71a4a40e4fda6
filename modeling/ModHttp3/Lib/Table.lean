import Mathlib.Data.List.Basic
import Mathlib.Tactic.Common

/-!
# Tables of fields

A table is a list of entries; keys are compared by their normal form under `norm`, and a key can
have any number of values. `valuesOf` are the values of a key in order. `TableOps` are the
operations that replace values: setting one key, and laying a second table over the first so that
only the last value of each key is left. What they do to the order of the entries is left open; the
laws say what the values are.

`getElem?_filter`, `mem_take_filter` and `mem_drop_filter` say where in a list the entries come from
that a filter with room for `n` entries takes, and those it does not take.
-/

namespace ModHttp3.Lib

section
variable {α : Type*} {p : α → Bool} {l : List α} {n : Nat} {x : α}

/-- The element a filter puts at `k` is the passing one with `k` passing elements before it. -/
lemma getElem?_filter {k : Nat} :
    (l.filter p)[k]? = some x ↔ ∃ i, l[i]? = some x ∧ p x = true ∧ (l.take i).countP p = k := by
  induction l generalizing k with
  | nil => simp
  | cons a l ih =>
    rw [← Nat.or_exists_add_one]
    simp only [List.getElem?_cons_zero, List.getElem?_cons_succ, List.take_succ_cons]
    cases pass : p a with
    | false =>
      rw [List.filter_cons_of_neg (by simp [pass]), ih]
      simp only [List.countP_cons_of_neg (show ¬ p a = true by simp [pass])]
      refine ⟨.inr, fun h => h.resolve_left ?_⟩
      rintro ⟨eq, px, _⟩
      cases eq
      simp [pass] at px
    | true =>
      rw [List.filter_cons_of_pos pass]
      simp only [List.countP_cons_of_pos pass]
      cases k with
      | zero =>
        refine ⟨fun h => .inl ⟨h, ?_, rfl⟩, ?_⟩
        · cases h
          exact pass
        · rintro (h | ⟨_, _, _, more⟩)
          · exact h.1
          · cases more
      | succ k =>
        rw [List.getElem?_cons_succ, ih]
        simp

/-- The first `n` elements that pass are those with fewer than `n` passing elements before them. -/
lemma mem_take_filter :
    x ∈ (l.filter p).take n ↔ ∃ i, l[i]? = some x ∧ p x = true ∧ (l.take i).countP p < n := by
  simp only [List.mem_iff_getElem?, List.getElem?_take, Option.ite_none_right_eq_some,
    getElem?_filter]
  constructor
  · rintro ⟨_, lt, i, eq, px, rfl⟩
    exact ⟨i, eq, px, lt⟩
  · rintro ⟨i, eq, px, lt⟩
    exact ⟨_, lt, i, eq, px, rfl⟩

/-- The others have `n` or more passing elements before them. -/
lemma mem_drop_filter :
    x ∈ (l.filter p).drop n ↔ ∃ i, l[i]? = some x ∧ p x = true ∧ n ≤ (l.take i).countP p := by
  simp only [List.mem_iff_getElem?, List.getElem?_drop, getElem?_filter]
  constructor
  · rintro ⟨k, i, eq, px, count⟩
    exact ⟨i, eq, px, by omega⟩
  · rintro ⟨i, eq, px, le⟩
    exact ⟨_, i, eq, px, (Nat.add_sub_of_le le).symm⟩

end

section
variable {κ ν α : Type*} [DecidableEq ν]

/-- The values of a key, in order. -/
def valuesOf (norm : κ → ν) (t : List (κ × α)) (k : κ) : List α :=
  (t.filter fun e => norm e.1 = norm k).map Prod.snd

/-- The first value of a key. -/
def firstOf (norm : κ → ν) (t : List (κ × α)) (k : κ) : Option α :=
  (t.find? fun e => norm e.1 = norm k).map Prod.snd

/-- The operations that replace values, with what they do to the values of each key. -/
structure TableOps (α : Type*) (norm : κ → ν) where
  setn : List (κ × α) → κ → α → List (κ × α)
  overlapSet : List (κ × α) → List (κ × α) → List (κ × α)
  values_setn : ∀ t k v k', valuesOf norm (setn t k v) k' =
    if norm k = norm k' then [v] else valuesOf norm t k'
  values_overlapSet : ∀ a b k, valuesOf norm (overlapSet a b) k =
    (valuesOf norm (a ++ b) k).getLast?.toList

/-- The last entry of each key. -/
def keepLast (norm : κ → ν) : List (κ × α) → List (κ × α)
  | [] => []
  | e :: t => if t.any fun e' => norm e'.1 = norm e.1 then keepLast norm t else e :: keepLast norm t

variable {norm : κ → ν} {t : List (κ × α)} {e : κ × α} {k : κ}

/-- An empty table has no values. -/
@[simp] lemma valuesOf_nil : valuesOf norm ([] : List (κ × α)) k = [] := rfl

/-- The values of a table with one more entry in front. -/
lemma valuesOf_cons : valuesOf norm (e :: t) k =
    if norm e.1 = norm k then e.2 :: valuesOf norm t k else valuesOf norm t k := by
  by_cases same : norm e.1 = norm k <;> simp [valuesOf, same]

/-- The values of two tables in a row. -/
lemma valuesOf_append (a b : List (κ × α)) (k : κ) :
    valuesOf norm (a ++ b) k = valuesOf norm a k ++ valuesOf norm b k := by
  simp [valuesOf]

/-- The first value that is found is the first of all. -/
lemma firstOf_eq_head : firstOf norm t k = (valuesOf norm t k).head? := by
  rw [firstOf, valuesOf, List.head?_map, List.head?_filter]

/-- A key has no value if no entry has it. -/
lemma valuesOf_eq_nil_iff : valuesOf norm t k = [] ↔ ∀ e ∈ t, norm e.1 ≠ norm k := by
  simp [valuesOf]

/-- Only the last value of each key is left. -/
lemma valuesOf_keepLast :
    valuesOf norm (keepLast norm t) k = (valuesOf norm t k).getLast?.toList := by
  induction t with
  | nil => rfl
  | cons e t ih =>
    rw [keepLast, valuesOf_cons]
    by_cases later : (t.any fun e' => norm e'.1 = norm e.1) = true
    · rw [if_pos later, ih]
      split
      · rename_i same
        -- the key has a value further back
        have nonempty : valuesOf norm t k ≠ [] := by
          rw [Ne, valuesOf_eq_nil_iff]
          intro absent
          obtain ⟨e', mem, eq⟩ := List.any_eq_true.mp later
          exact absent e' mem ((of_decide_eq_true eq).trans same)
        rw [List.getLast?_cons_of_ne_nil nonempty]
      · rfl
    · rw [if_neg later, valuesOf_cons, ih]
      split
      · rename_i same
        have empty : valuesOf norm t k = [] := by
          rw [valuesOf_eq_nil_iff]
          intro e' mem eq
          exact later (List.any_eq_true.mpr ⟨e', mem, decide_eq_true (eq.trans same.symm)⟩)
        rw [empty]
        rfl
      · rfl

/-- Tables that put a new value at their end. -/
def TableOps.plain (α : Type*) (norm : κ → ν) : TableOps α norm where
  setn t k v := (t.filter fun e => norm e.1 ≠ norm k) ++ [(k, v)]
  overlapSet a b := keepLast norm (a ++ b)
  values_setn t k v k' := by
    rw [valuesOf_append, valuesOf_cons, valuesOf_nil]
    by_cases same : norm k = norm k'
    · rw [if_pos same, if_pos same]
      have empty : valuesOf norm (t.filter fun e => norm e.1 ≠ norm k) k' = [] := by
        rw [valuesOf_eq_nil_iff]
        intro e mem
        rw [← same]
        exact of_decide_eq_true (List.mem_filter.mp mem).2
      rw [empty, List.nil_append]
    · rw [if_neg same, if_neg same, List.append_nil, valuesOf, List.filter_filter, valuesOf]
      congr 1
      apply List.filter_congr
      intro e _
      by_cases eq : norm e.1 = norm k'
      · simp [eq, Ne.symm same]
      · simp [eq]
  values_overlapSet _ _ _ := valuesOf_keepLast

end

end ModHttp3.Lib
