import ModHttp3.Lib.Halting

/-!
# Programs with more state

A model of a program can carry more state than another one of the same program: variables that the
other keeps as arguments, or records of what happened. `Refines part m' m x R` says that `m'`,
started in `x`, does on every list of answers what `m` does on the part of `x` that both have: the
parts agree in the end, both stop or both return, with results in `R` and the same answers left.
There is one rule for each construct; those ending in `_left` are for steps that only the larger
program makes. What holds of the smaller program holds of the larger one (`Refines.wp`).
-/

namespace ModHttp3.Lib.Script
variable {σ τ α β β' γ γ' : Type}

/-- Two programs have come to the same point. -/
inductive Agree (part : τ → σ) (R : β' → β → τ → Prop) :
    τ × Option (β' × List α) → σ × Option (β × List α) → Prop where
  | stopped {y t} :
    part y = t →
    Agree part R (y, none) (t, none)
  | returned {y t b' b rest} :
    part y = t →
    R b' b y →
    Agree part R (y, some (b', rest)) (t, some (b, rest))

/-- The program does what another one does on a part of its state. -/
def Refines (part : τ → σ) (m' : Script τ α β') (m : Script σ α β) (x : τ) (R : β' → β → τ → Prop) :
    Prop :=
  ∀ as, Agree part R (m' x as) (m (part x) as)

namespace Refines
variable {part : τ → σ} {m' : Script τ α β'} {m : Script σ α β} {x : τ}

/-- The results may be related more weakly. -/
lemma mono {R Q : β' → β → τ → Prop} (h : Refines part m' m x R)
    (hR : ∀ b' b y, R b' b y → Q b' b y) :
    Refines part m' m x Q := by
  intro as
  refine Agree.casesOn (h as) .stopped ?_
  intro y t b' b rest same r
  exact .returned same (hR b' b y r)

/-- Both return. -/
lemma pure {R : β' → β → τ → Prop} {b' : β'} {b : β} (h : R b' b x) :
    Refines part (Pure.pure b' : Script τ α β') (Pure.pure b : Script σ α β) x R :=
  fun _ => .returned rfl h

/-- Both go on with scripts that are related at every pair of related results. -/
lemma bind {f' : β' → Script τ α γ'} {f : β → Script σ α γ} {R : γ' → γ → τ → Prop}
    (h : Refines part m' m x fun b' b y => Refines part (f' b') (f b) y R) :
    Refines part (m' >>= f') (m >>= f) x R := by
  intro as
  have first := h as
  generalize large : m' x as = o' at first
  generalize small : m (part x) as = o at first
  cases first with
  | stopped same =>
    rw [bind_none large, bind_none small]
    exact .stopped same
  | @returned y t b' b rest same r =>
    rw [bind_some large, bind_some small, ← same]
    exact r rest

/-- The larger program goes on when the smaller one has returned. -/
lemma bind_left {f' : β' → Script τ α γ'} {R : γ' → β → τ → Prop}
    (h : Refines part m' m x fun b' b y => Refines part (f' b') (Pure.pure b : Script σ α β) y R) :
    Refines part (m' >>= f') m x R := by
  rw [← bind_pure m]
  exact .bind h

/-- Both start by reading the state. -/
lemma get_bind {f' : τ → Script τ α γ'} {f : σ → Script σ α γ} {R : γ' → γ → τ → Prop}
    (h : Refines part (f' x) (f (part x)) x R) : Refines part (get >>= f') (get >>= f) x R := h

/-- The finer script reads its state first. -/
lemma get_bind_left {f' : τ → Script τ α γ'} {R : γ' → β → τ → Prop}
    (h : Refines part (f' x) m x R) :
    Refines part (get >>= f') m x R := h

/-- Both change the state, in the same way as far as the coarser one sees. -/
lemma modify {g' : τ → τ} {g : σ → σ} {R : Unit → Unit → τ → Prop} (same : part (g' x) = g (part x))
    (h : R () () (g' x)) :
    Refines part (Script.modify g' : Script τ α Unit) (Script.modify g) x R :=
  fun _ => .returned same h

/-- The finer script first changes a part that the coarser one does not see. -/
lemma modify_bind_left {g' : τ → τ} {f' : Unit → Script τ α γ'} {R : γ' → β → τ → Prop}
    (same : part (g' x) = part x) (h : Refines part (f' ()) m (g' x) R) :
    Refines part (Script.modify g' >>= f') m x R := by
  intro as
  have rest := h as
  rw [same] at rest
  exact rest

/-- Both ask the same question. -/
lemma ask {g : α → Option γ} {R : γ → γ → τ → Prop} (h : ∀ a c, g a = some c → R c c x) :
    Refines part (Script.ask g) (Script.ask g) x R := by
  intro as
  cases as with
  | nil => exact .stopped rfl
  | cons a rest =>
    show Agree part R (x, (g a).map (·, rest)) (part x, (g a).map (·, rest))
    cases eq : g a with
    | none => exact .stopped rfl
    | some c => exact .returned rfl (h a c eq)

/-- A program on a part of the state refines itself. -/
lemma focus {put : σ → τ → τ} (view : ∀ t, part (put t x) = t) :
    Refines part (Script.focus part put m) m x fun b' b y => b' = b ∧ ∃ t, y = put t x := by
  intro as
  show Agree part _ (put (m (part x) as).1 x, (m (part x) as).2) (m (part x) as)
  rcases m (part x) as with ⟨t, _ | ⟨b, rest⟩⟩
  · exact .stopped (view t)
  · exact .returned (view t) ⟨rfl, t, rfl⟩

/-- What holds of the smaller program can be used. -/
lemma and_wp {R : β' → β → τ → Prop} {Q : β → σ → Prop} {S : σ → Prop} (h : Refines part m' m x R)
    (hm : Wp m (part x) Q S) : Refines part m' m x fun b' b y => R b' b y ∧ Q b (part y) := by
  intro as
  have agree := h as
  have post := hm as
  generalize m' x as = o' at agree ⊢
  generalize m (part x) as = o at agree post ⊢
  cases agree with
  | stopped same => exact .stopped same
  | returned same r =>
    subst same
    exact .returned rfl ⟨r, post⟩

/-- What holds of the smaller program holds of the larger one. -/
lemma wp {R : β' → β → τ → Prop} {Q : β → σ → Prop} {S : σ → Prop} (h : Refines part m' m x R)
    (hm : Wp m (part x) Q S) :
    Wp m' x (fun b' y => ∃ b, R b' b y ∧ Q b (part y)) fun y => S (part y) := by
  intro as
  have agree := h as
  have post := hm as
  generalize m' x as = o' at agree
  generalize m (part x) as = o at agree post
  cases agree with
  | stopped same =>
    subst same
    exact post
  | returned same r =>
    subst same
    exact ⟨_, r, post⟩

end Refines

end ModHttp3.Lib.Script
