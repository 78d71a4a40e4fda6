import Mathlib.Data.List.Basic
import Mathlib.Tactic.Common

/-!
# Runs of labelled transition systems

A system is a step relation `Step : σ → ε → σ → Prop` whose labels `ε` record what was done and what
was observed. `Run Step s es t` says that the labels `es` lead from `s` to `t`; the newest label is
the last one, so an induction over a run peels off the step taken last. `Run.invariant` is the rule
for state predicates, `Run.invariant_hist` the one for predicates that tie the state to the whole
history, `Run.budget` the one for measures, and `Run.split` cuts a run at any point of its history.
-/

namespace ModHttp3.Lib

/-- Runs of a labelled step relation, newest label last. -/
inductive Run {σ ε : Type*} (Step : σ → ε → σ → Prop) : σ → List ε → σ → Prop where
  | nil {s} : Run Step s [] s
  | snoc {s t u es e} :
    Run Step s es t →
    Step t e u →
    Run Step s (es ++ [e]) u

section
variable {σ ε : Type*} {Step : σ → ε → σ → Prop}

/-- A single step is a run. -/
lemma Run.single {s t : σ} {e : ε} (st : Step s e t) : Run Step s [e] t := by
  have r := Run.snoc .nil st
  exact r

/-- Runs compose. -/
lemma Run.append {s t u : σ} {es fs : List ε}
    (r1 : Run Step s es t) (r2 : Run Step t fs u) : Run Step s (es ++ fs) u := by
  induction r2 with
  | nil => simpa using r1
  | snoc _ st ih =>
    rw [← List.append_assoc]
    exact .snoc ih st

/-- A run can be cut at any point of its history. -/
lemma Run.split {s u : σ} {es fs : List ε} (r : Run Step s (es ++ fs) u) :
    ∃ t, Run Step s es t ∧ Run Step t fs u := by
  generalize e : es ++ fs = gs at r
  induction r generalizing fs with
  | nil =>
    obtain ⟨rfl, rfl⟩ := List.append_eq_nil_iff.mp e
    exact ⟨_, .nil, .nil⟩
  | @snoc t u gs g r st ih =>
    rcases List.eq_nil_or_concat fs with rfl | ⟨fs', f, rfl⟩
    · rw [List.append_nil] at e
      subst e
      exact ⟨_, .snoc r st, .nil⟩
    · rw [List.concat_eq_append, ← List.append_assoc] at e
      obtain ⟨e1, e2⟩ := List.append_inj' e rfl
      obtain ⟨t', r1, r2⟩ := ih e1
      cases e2
      refine ⟨t', r1, ?_⟩
      rw [List.concat_eq_append]
      exact .snoc r2 st

/-- The last step of a run. -/
lemma Run.last {s u : σ} {es : List ε} {e : ε} (r : Run Step s (es ++ [e]) u) :
    ∃ t, Run Step s es t ∧ Step t e u := by
  generalize eq : es ++ [e] = gs at r
  cases r with
  | nil => simp at eq
  | snoc r st =>
    obtain ⟨rfl, e'⟩ := List.append_inj' eq rfl
    cases e'
    exact ⟨_, r, st⟩

/-- A run goes through every step of its history. -/
lemma Run.step_at {s u : σ} {es fs : List ε} {e : ε} (r : Run Step s (es ++ e :: fs) u) :
    ∃ t v, Run Step s es t ∧ Step t e v ∧ Run Step v fs u := by
  rw [← List.singleton_append, ← List.append_assoc] at r
  obtain ⟨v, r1, r2⟩ := r.split
  obtain ⟨t, r0, st⟩ := r1.last
  exact ⟨t, v, r0, st, r2⟩

/-- A state predicate kept by every step holds along a run. -/
theorem Run.invariant {P : σ → Prop} (step : ∀ s e t, P s → Step s e t → P t)
    {s t : σ} {es : List ε} (r : Run Step s es t) (h : P s) : P t := by
  induction r with
  | nil => exact h
  | snoc _ st ih => exact step _ _ _ ih st

/-- A predicate of the history and the state kept by every step holds along a run. -/
theorem Run.invariant_hist {P : List ε → σ → Prop}
    (step : ∀ es s e t, P es s → Step s e t → P (es ++ [e]) t)
    {s t : σ} {es : List ε} (r : Run Step s es t) (h : P [] s) : P es t := by
  induction r with
  | nil => exact h
  | snoc _ st ih => exact step _ _ _ _ ih st

/-- If no step adds to a measure and the steps that count take something of it, the measure bounds
how many of them a run has. -/
theorem Run.budget {P : σ → Prop} {μ : σ → Nat} {counts : ε → Bool}
    (step : ∀ s e t, P s → Step s e t → P t ∧ μ t + (if counts e then 1 else 0) ≤ μ s) {s t : σ}
    {es : List ε} (r : Run Step s es t) (h : P s) :
    P t ∧ (es.filter counts).length + μ t ≤ μ s := by
  induction r with
  | nil => exact ⟨h, Nat.le_of_eq (Nat.zero_add _)⟩
  | @snoc _ u es e _ st ih =>
    obtain ⟨hu, le⟩ := ih
    obtain ⟨ht, less⟩ := step _ e _ hu st
    refine ⟨ht, ?_⟩
    rw [List.filter_append, List.length_append]
    cases c : counts e with
    | true =>
      rw [c, if_pos rfl] at less
      simp only [List.filter_cons, c, if_true, List.filter_nil, List.length_singleton]
      omega
    | false =>
      simp only [List.filter_cons, c, Bool.false_eq_true, if_false, List.filter_nil,
        List.length_nil]
      omega

/-- A run of a system is a run of every system that allows its steps. -/
lemma Run.mono {Step' : σ → ε → σ → Prop} (sub : ∀ s e t, Step s e t → Step' s e t)
    {s t : σ} {es : List ε} (r : Run Step s es t) : Run Step' s es t := by
  induction r with
  | nil => exact .nil
  | snoc _ st ih => exact .snoc ih (sub _ _ _ st)

/-- A run whose labels all have a property is a run of the steps with such labels. -/
lemma Run.restrict {Q : ε → Prop} {s t : σ} {es : List ε} (r : Run Step s es t)
    (all : ∀ e ∈ es, Q e) :
    Run (fun s e t => Step s e t ∧ Q e) s es t := by
  induction r with
  | nil => exact .nil
  | snoc _ st ih =>
    refine .snoc (ih fun e mem => all e (List.mem_append_left _ mem)) ⟨st, all _ ?_⟩
    exact List.mem_append_right _ (List.mem_singleton_self _)

/-- Run a schedule of commands of a system whose steps can be executed. -/
def execAll {ω : Type*} (exec : σ → ω → Option (σ × ε)) : σ → List ω → Option (σ × List ε)
  | s, [] => some (s, [])
  | s, op :: ops =>
    match exec s op with
    | none => none
    | some (t, e) =>
      match execAll exec t ops with
      | none => none
      | some (u, es) => some (u, e :: es)

/-- A schedule of commands that are steps is a run. -/
lemma execAll_run {ω : Type*} {exec : σ → ω → Option (σ × ε)}
    (sound : ∀ s op t e, exec s op = some (t, e) → Step s e t) {s u : σ} {ops : List ω}
    {es : List ε} (eq : execAll exec s ops = some (u, es)) : Run Step s es u := by
  induction ops generalizing s es with
  | nil =>
    cases eq
    exact .nil
  | cons op ops ih =>
    rw [execAll] at eq
    cases h1 : exec s op with
    | none => simp [h1] at eq
    | some te =>
      obtain ⟨t, e⟩ := te
      cases h2 : execAll exec t ops with
      | none => simp [h1, h2] at eq
      | some uf =>
        simp only [h1, h2, Option.some.injEq, Prod.mk.injEq] at eq
        obtain ⟨rfl, rfl⟩ := eq
        exact (Run.single (sound _ _ _ _ h1)).append (ih h2)

end

end ModHttp3.Lib
