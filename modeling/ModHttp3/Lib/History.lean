import Mathlib.Data.List.Basic
import Mathlib.Data.List.Infix
import Mathlib.Tactic.Common

/-!
# Lawful histories

An assumption about an environment is a law on what it may do next, given all that happened before:
`P pre e` says that `e` may follow the history `pre`. `Each P log` says that every entry of `log`
obeys the law. A law that can be decided can be checked on a concrete history. `gather f log` puts
together what the entries of `log` yield, where `f pre e` is what `e` yields after the history
`pre`.
-/

namespace ModHttp3.Lib
variable {α β : Type*} {P : List α → α → Prop} {pre log xs ys : List α} {e : α}

/-- The entries of a list obey the law as a continuation of `pre`. -/
def EachFrom (P : List α → α → Prop) (pre : List α) : List α → Prop
  | [] => True
  | e :: es => P pre e ∧ EachFrom P (pre ++ [e]) es

/-- Every entry obeys the law. -/
def Each (P : List α → α → Prop) (log : List α) : Prop := EachFrom P [] log

instance EachFrom.decidable [∀ pre e, Decidable (P pre e)] :
    ∀ pre log : List α, Decidable (EachFrom P pre log)
  | _, [] => .isTrue trivial
  | pre, e :: es =>
    have := EachFrom.decidable (pre ++ [e]) es
    inferInstanceAs (Decidable (P pre e ∧ EachFrom P (pre ++ [e]) es))

instance Each.decidable [∀ pre e, Decidable (P pre e)] : Decidable (Each P log) :=
  EachFrom.decidable [] log

/-- A property of the entries of two logs in a row. -/
lemma eachFrom_append :
    EachFrom P pre (xs ++ ys) ↔ EachFrom P pre xs ∧ EachFrom P (pre ++ xs) ys := by
  induction xs generalizing pre with
  | nil => simp [EachFrom]
  | cons e xs ih =>
    rw [List.cons_append, EachFrom, EachFrom, ih, List.append_assoc, List.singleton_append,
      and_assoc]

/-- Another entry. -/
lemma Each.snoc (h : Each P log) (he : P log e) : Each P (log ++ [e]) :=
  eachFrom_append.mpr ⟨h, he, trivial⟩

/-- Entries that are lawful after any history. -/
lemma Each.append (h : Each P xs) (always : ∀ e ∈ ys, ∀ pre, P pre e) : Each P (xs ++ ys) := by
  induction ys generalizing xs with
  | nil => simpa using h
  | cons e ys ih =>
    rw [← List.singleton_append, ← List.append_assoc]
    refine ih (h.snoc (always e List.mem_cons_self xs)) ?_
    exact fun e' mem => always e' (List.mem_cons_of_mem _ mem)

/-- What came first is lawful by itself. -/
lemma Each.before (h : Each P (xs ++ ys)) : Each P xs := (eachFrom_append.mp h).1

/-- An entry obeys the law after what came before it. -/
lemma Each.last (h : Each P (pre ++ [e])) : P pre e := (eachFrom_append.mp h).2.1

/-- An entry in the middle of a log has its property with respect to those before it. -/
lemma Each.entry (h : Each P (pre ++ [e] ++ ys)) : P pre e := h.before.last

/-- Every entry of a log has its property where it stands. -/
lemma Each.of_mem (h : Each P log) (mem : e ∈ log) :
    ∃ pre post, log = pre ++ e :: post ∧ P pre e := by
  obtain ⟨pre, post, rfl⟩ := List.append_of_mem mem
  rw [← List.singleton_append, ← List.append_assoc] at h
  exact ⟨pre, post, rfl, h.entry⟩

/-- What the entries of a list yield as a continuation of `pre`. -/
def gatherFrom (f : List α → α → List β) (pre : List α) : List α → List β
  | [] => []
  | e :: es => f pre e ++ gatherFrom f (pre ++ [e]) es

/-- What the entries yield. -/
def gather (f : List α → α → List β) (log : List α) : List β := gatherFrom f [] log

section
variable {f : List α → α → List β}

/-- What is gathered from two logs in a row. -/
lemma gatherFrom_append :
    gatherFrom f pre (xs ++ ys) = gatherFrom f pre xs ++ gatherFrom f (pre ++ xs) ys := by
  induction xs generalizing pre with
  | nil => simp [gatherFrom]
  | cons e xs ih =>
    rw [List.cons_append, gatherFrom, gatherFrom, ih, List.append_assoc, List.append_assoc,
      List.singleton_append]

/-- Another entry. -/
lemma gather_snoc : gather f (log ++ [e]) = gather f log ++ f log e := by
  rw [gather, gatherFrom_append, gatherFrom, gatherFrom, List.append_nil]
  rfl

/-- Entries that yield nothing. -/
lemma gather_append (nothing : ∀ e ∈ ys, ∀ pre, f pre e = []) :
    gather f (xs ++ ys) = gather f xs := by
  induction ys generalizing xs with
  | nil => rw [List.append_nil]
  | cons e ys ih =>
    rw [← List.singleton_append, ← List.append_assoc,
      ih fun e' mem => nothing e' (List.mem_cons_of_mem _ mem), gather_snoc,
      nothing e List.mem_cons_self, List.append_nil]

end

end ModHttp3.Lib
