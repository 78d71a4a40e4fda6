import Mathlib.Algebra.GroupWithZero.Nat
import Mathlib.Data.List.Basic
import Mathlib.Logic.Relation
import Mathlib.Tactic.Common

/-!
# Programs that ask their environment

`Script σ α β` is a program over a state `σ` that calls into an environment. What the environment
answers is not computed but read from a list of answers `α`; a property of a program on every list
of answers is one in every environment. A program stops where the answers run out or do not fit the
question, and its state at that point counts: `(m s as).1` for all `as` are the states the program
can be seen in.

`Wp m s Q S` says that started in `s` the program either returns a value and a state in `Q`, or is
stopped in a state in `S`. There is one rule for each construct, the two loops by an invariant.
`Goes Step m` is the special case that the program only makes moves of a step relation.
-/

namespace ModHttp3.Lib

/-- A program with state `σ` and result `β` that asks for answers `α`. -/
def Script (σ α β : Type) : Type := σ → List α → σ × Option (β × List α)

namespace Script
variable {σ α β γ : Type}

instance : Monad (Script σ α) where
  pure b := fun s as => (s, some (b, as))
  bind m f := fun s as =>
    match m s as with
    | (t, none) => (t, none)
    | (t, some (b, rest)) => f b t rest

instance : LawfulMonad (Script σ α) := by
  refine LawfulMonad.mk' _ ?_ ?_ ?_
  · intro β m
    funext s as
    show (match m s as with
      | (t, none) => (t, none)
      | (t, some (b, rest)) => (t, some (b, rest)) : σ × Option (β × List α)) = m s as
    rcases m s as with ⟨t, _ | ⟨b, rest⟩⟩ <;> rfl
  · intro β γ b f
    rfl
  · intro β γ δ m f g
    funext s as
    show (match (match m s as with
        | (t, none) => (t, none)
        | (t, some (b, rest)) => f b t rest : σ × Option (γ × List α)) with
      | (t, none) => (t, none)
      | (t, some (c, rest)) => g c t rest : σ × Option (δ × List α)) =
      match m s as with
      | (t, none) => (t, none)
      | (t, some (b, rest)) => (f b >>= g) t rest
    rcases m s as with ⟨t, _ | ⟨b, rest⟩⟩ <;> rfl

/-- The current state. -/
def get : Script σ α σ := fun s as => (s, some (s, as))

/-- Change the state. -/
def modify (f : σ → σ) : Script σ α Unit := fun s as => (f s, some ((), as))

/-- Ask the environment; `f` says what an answer means, or that it is not one to this question. -/
def ask (f : α → Option γ) : Script σ α γ := fun s as =>
  match as with
  | [] => (s, none)
  | a :: rest => (s, (f a).map (·, rest))

/-- Run `body` on the elements of a list until it returns `false`. -/
def forEach (xs : List γ) (body : γ → Script σ α Bool) : Script σ α Unit :=
  match xs with
  | [] => pure ()
  | x :: xs => do
    if ← body x then forEach xs body else pure ()

/-- Repeat `body` at most `n` times, until it returns `false`. -/
def loopN (body : Script σ α Bool) : Nat → Script σ α Unit
  | 0 => fun s _ => (s, none)
  | n + 1 => do
    if ← body then loopN body n else pure ()

/-- Repeat `body` until it returns `false`, for a body that asks at least once. -/
def loop (body : Script σ α Bool) : Script σ α Unit := fun s as => loopN body (as.length + 1) s as

/-- Run a program on a part of a larger state. -/
def focus {τ : Type} (part : τ → σ) (put : σ → τ → τ) (m : Script σ α β) : Script τ α β :=
  fun x as =>
  (put (m (part x) as).1 x, (m (part x) as).2)

/-- The program returns in `Q` or is stopped in `S`, whatever the environment answers. -/
def Wp (m : Script σ α β) (s : σ) (Q : β → σ → Prop) (S : σ → Prop) : Prop :=
  ∀ as, match m s as with
    | (t, none) => S t
    | (t, some (b, _)) => Q b t

section
variable {m : Script σ α β} {f : β → Script σ α γ} {s : σ} {S : σ → Prop}

/-- Less may be promised. -/
lemma Wp.mono {Q R : β → σ → Prop} {S' : σ → Prop} (h : Wp m s Q S) (hQ : ∀ b t, Q b t → R b t)
    (hS : ∀ t, S t → S' t) : Wp m s R S' := by
  intro as
  have := h as
  revert this
  rcases m s as with ⟨t, _ | ⟨b, rest⟩⟩
  · exact hS t
  · exact hQ b t

/-- Two promises about one script. -/
lemma Wp.and {Q R : β → σ → Prop} {S' : σ → Prop} (h1 : Wp m s Q S) (h2 : Wp m s R S') :
    Wp m s (fun b t => Q b t ∧ R b t) (fun t => S t ∧ S' t) := by
  intro as
  have first := h1 as
  have second := h2 as
  revert first second
  rcases m s as with ⟨t, _ | ⟨b, rest⟩⟩
  · exact And.intro
  · exact And.intro

/-- What holds of every state the program can be seen in. -/
lemma Wp.seen {P : σ → Prop} (h : Wp m s (fun _ => P) P) (as : List α) : P (m s as).1 := by
  have := h as
  revert this
  rcases m s as with ⟨t, _ | ⟨b, rest⟩⟩ <;> exact id

/-- Every program comes to some point. -/
lemma Wp.trivial : Wp m s (fun _ _ => True) fun _ => True := by
  intro as
  rcases m s as with ⟨t, _ | ⟨b, rest⟩⟩ <;> exact True.intro

/-- Returning a value. -/
lemma Wp.pure {Q : β → σ → Prop} {b : β} (h : Q b s) : Wp (Pure.pure b : Script σ α β) s Q S :=
  fun _ => h

/-- A sequence of two scripts. -/
lemma Wp.bind {Q : γ → σ → Prop} (h : Wp m s (fun b t => Wp (f b) t Q S) S) :
    Wp (m >>= f) s Q S := by
  intro as
  have h1 := h as
  show match (match m s as with
    | (t, none) => (t, none)
    | (t, some (b, rest)) => f b t rest : σ × Option (γ × List α)) with
    | (t, none) => S t
    | (t, some (b, _)) => Q b t
  revert h1
  rcases m s as with ⟨t, _ | ⟨b, rest⟩⟩
  · exact id
  · intro h1
    exact h1 rest

/-- Reading the state. -/
lemma Wp.get {Q : σ → σ → Prop} (h : Q s s) : Wp (get : Script σ α σ) s Q S := fun _ => h

/-- Changing the state. -/
lemma Wp.modify {Q : Unit → σ → Prop} {g : σ → σ} (h : Q () (g s)) :
    Wp (modify g : Script σ α Unit) s Q S := fun _ => h

/-- Asking the environment, which may stop the script there. -/
lemma Wp.ask {Q : γ → σ → Prop} {g : α → Option γ} (stop : S s) (h : ∀ a c, g a = some c → Q c s) :
    Wp (ask g) s Q S := by
  intro as
  cases as with
  | nil => exact stop
  | cons a rest =>
    show match (s, (g a).map (·, rest)) with
      | (t, none) => S t
      | (t, some (b, _)) => Q b t
    cases eq : g a with
    | none => exact stop
    | some c => exact h a c eq

/-- The rule for programs on a part of the state. -/
lemma Wp.focus {τ : Type} {part : τ → σ} {put : σ → τ → τ} {x : τ} {Q : β → σ → Prop}
    (h : Wp m (part x) Q S) :
    Wp (focus part put m) x (fun b y => ∃ t, Q b t ∧ y = put t x)
      (fun y => ∃ t, S t ∧ y = put t x) := by
  intro as
  have h1 := h as
  unfold Script.focus
  revert h1
  rcases m (part x) as with ⟨t, _ | ⟨b, rest⟩⟩
  · exact fun h1 => ⟨t, h1, rfl⟩
  · exact fun h1 => ⟨t, h1, rfl⟩

/-- The rule for loops over a list: `J` holds before each turn. -/
lemma Wp.forEach {J : σ → Prop} {xs : List γ} {body : γ → Script σ α Bool}
    (h : ∀ x ∈ xs, ∀ s, J s → Wp (body x) s (fun _ t => J t) S) (init : J s) :
    Wp (forEach xs body) s (fun _ t => J t) S := by
  induction xs generalizing s with
  | nil => exact .pure init
  | cons x xs ih =>
    refine .bind ((h x List.mem_cons_self s init).mono ?_ fun _ => id)
    intro go t ht
    cases go with
    | true => exact ih (fun y mem => h y (List.mem_cons_of_mem _ mem)) ht
    | false => exact .pure ht

/-- The same with a `J` that depends on what is left of the list, and with `K` after the last
turn. -/
lemma Wp.forEach_rest {J : List γ → σ → Prop} {K : σ → Prop} {xs : List γ}
    {body : γ → Script σ α Bool}
    (h : ∀ x rest s, J (x :: rest) s →
      Wp (body x) s (fun go t => if go = true then J rest t else K t) S)
    (last : ∀ s, J [] s → K s) (init : J xs s) :
    Wp (Script.forEach xs body) s (fun _ t => K t) S := by
  induction xs generalizing s with
  | nil => exact .pure (last s init)
  | cons x xs ih =>
    refine .bind ((h x xs s init).mono ?_ fun _ => id)
    intro go t ht
    cases go with
    | true => exact ih ht
    | false => exact .pure ht

/-- The invariant rule for loops with a bound. -/
lemma Wp.loopN {J K : σ → Prop} {body : Script σ α Bool}
    (h : ∀ s, J s → Wp body s (fun go t => if go = true then J t else K t) S)
    (stop : ∀ s, J s → S s) {n : Nat} (init : J s) : Wp (loopN body n) s (fun _ t => K t) S := by
  induction n generalizing s with
  | zero => exact fun _ => stop s init
  | succ n ih =>
    refine .bind ((h s init).mono ?_ fun _ => id)
    intro go t ht
    cases go with
    | true => exact ih ht
    | false => exact .pure ht

/-- The rule for unbounded loops: `J` holds before each turn, and `K` after the last one. -/
lemma Wp.loop {J K : σ → Prop} {body : Script σ α Bool}
    (h : ∀ s, J s → Wp body s (fun go t => if go = true then J t else K t) S)
    (stop : ∀ s, J s → S s) (init : J s) : Wp (loop body) s (fun _ t => K t) S :=
  fun as => Wp.loopN h stop init as

end

section
variable (Step : σ → σ → Prop)

/-- From `s`, the program only makes moves of `Step`. -/
def GoesFrom (m : Script σ α β) (s : σ) : Prop :=
  Wp m s (fun _ t => Relation.ReflTransGen Step s t) (Relation.ReflTransGen Step s)

/-- The program only makes moves of `Step`. -/
def Goes (m : Script σ α β) : Prop := ∀ s, GoesFrom Step m s

variable {Step} {m : Script σ α β} {f : β → Script σ α γ} {s : σ}

/-- What a program that only makes moves of `Step` leads to. -/
lemma GoesFrom.reach (h : GoesFrom Step m s) (as : List α) :
    Relation.ReflTransGen Step s (m s as).1 := Wp.seen h as

/-- Returning a value is no step. -/
lemma Goes.pure {b : β} : Goes Step (Pure.pure b : Script σ α β) := fun _ => Wp.pure .refl

/-- A sequence that starts at this state. -/
lemma GoesFrom.bind (hm : GoesFrom Step m s) (hf : ∀ b, Goes Step (f b)) :
    GoesFrom Step (m >>= f) s := by
  refine Wp.bind (hm.mono ?_ fun _ => id)
  intro b t ht
  exact (hf b t).mono (fun _ _ => ht.trans) fun _ => ht.trans

/-- A sequence of two scripts that go by steps. -/
lemma Goes.bind (hm : Goes Step m) (hf : ∀ b, Goes Step (f b)) : Goes Step (m >>= f) :=
  fun s => (hm s).bind hf

/-- A program may depend on the current state. -/
lemma GoesFrom.get_bind {f : σ → Script σ α γ} (h : GoesFrom Step (f s) s) :
    GoesFrom Step (get >>= f) s := Wp.bind (Wp.get h)

/-- A script that looks at the state first. -/
lemma Goes.get_bind {f : σ → Script σ α γ} (h : ∀ s, GoesFrom Step (f s) s) :
    Goes Step (get >>= f) :=
  fun s => GoesFrom.get_bind (h s)

/-- A question is no step, at this state. -/
lemma GoesFrom.ask {g : α → Option γ} : GoesFrom Step (ask g) s := Wp.ask .refl fun _ _ _ => .refl

/-- The program may use what the answer says. -/
lemma GoesFrom.ask_bind {g : α → Option β} (h : ∀ a b, g a = some b → GoesFrom Step (f b) s) :
    GoesFrom Step (Script.ask g >>= f) s :=
  Wp.bind (Wp.ask .refl h)

/-- A question is no step. -/
lemma Goes.ask {g : α → Option γ} : Goes Step (ask g) := fun _ => GoesFrom.ask

/-- A change of the state by steps, at this state. -/
lemma GoesFrom.modify {g : σ → σ} (h : Relation.ReflTransGen Step s (g s)) :
    GoesFrom Step (modify g : Script σ α Unit) s := Wp.modify h

/-- A change of the state that is a move, and what comes after it. -/
lemma GoesFrom.modify_bind {g : σ → σ} {f : Unit → Script σ α γ}
    (h : Relation.ReflTransGen Step s (g s)) (hf : GoesFrom Step (f ()) (g s)) :
    GoesFrom Step (Script.modify g >>= f) s :=
  Wp.bind (Wp.modify (hf.mono (fun _ _ => h.trans) fun _ => h.trans))

/-- A change of the state by steps. -/
lemma Goes.modify {g : σ → σ} (h : ∀ s, Relation.ReflTransGen Step s (g s)) :
    Goes Step (modify g : Script σ α Unit) := fun s => GoesFrom.modify (h s)

/-- A loop over a list whose body goes by steps. -/
lemma Goes.forEach {xs : List γ} {body : γ → Script σ α Bool} (h : ∀ x ∈ xs, Goes Step (body x)) :
    Goes Step (forEach xs body) := by
  intro s
  refine Wp.forEach ?_ .refl
  intro x mem t ht
  exact (h x mem t).mono (fun _ _ => ht.trans) fun _ => ht.trans

/-- A loop whose body goes by steps. -/
lemma Goes.loop {body : Script σ α Bool} (h : Goes Step body) : Goes Step (loop body) := by
  intro s
  refine Wp.loop ?_ (fun _ => id) .refl
  intro t ht
  refine (h t).mono ?_ fun _ => ht.trans
  intro go u hu
  split
  all_goals exact ht.trans hu

end

end Script

end ModHttp3.Lib
