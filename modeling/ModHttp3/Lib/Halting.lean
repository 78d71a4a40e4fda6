import ModHttp3.Lib.Script

/-!
# Programs that come to an end

A program that asks its environment can be stopped for two reasons: the answers have run out, or one
of them does not fit the question (`Refuses`). `Takes n m s Q` says that `m` needs at most `n`
answers: given as many that fit it returns, in `Q`. There is one rule for each construct, as for
`Wp`.

An unbounded loop can take more and more answers. It ends if each turn that goes on makes a measure
smaller (`loop_of_measure`); that may rest on a law of the environment, which is asked for in the
state in which the program was stopped.
-/

namespace ModHttp3.Lib.Script
variable {σ α β γ : Type}

/-- The program was stopped and no further answers let it go on: an answer did not fit the
question. -/
def Refuses (m : Script σ α β) (s : σ) (as : List α) : Prop :=
  ∀ more, m s (as ++ more) = ((m s as).1, none)

/-- The program returns in `Q` after at most `n` answers, if these fit. -/
def Takes (n : Nat) (m : Script σ α β) (s : σ) (Q : β → σ → Prop) : Prop :=
  ∀ as, match m s as with
    | (_, none) => as.length < n ∨ Refuses m s as
    | (t, some (b, rest)) =>
      Q b t ∧ ∃ used, as = used ++ rest ∧ used.length ≤ n ∧ ∀ more,
        m s (used ++ more) = (t, some (b, more))

section
variable {m : Script σ α β} {f : β → Script σ α γ} {s t : σ} {b : β} {as rest : List α} {n k : Nat}

/-- A script that stopped does not reach what follows it. -/
lemma bind_none (eq : m s as = (t, none)) : (m >>= f) s as = (t, none) := by
  show (match m s as with
    | (t, none) => (t, none)
    | (t, some (b, rest)) => f b t rest : σ × Option (γ × List α)) = _
  rw [eq]

/-- A script that returned goes on with what follows it, on the answers that are left. -/
lemma bind_some (eq : m s as = (t, some (b, rest))) : (m >>= f) s as = f b t rest := by
  show (match m s as with
    | (t, none) => (t, none)
    | (t, some (b, rest)) => f b t rest : σ × Option (γ × List α)) = _
  rw [eq]

/-- A script that refuses its answers refuses them with anything behind it. -/
lemma Refuses.bind (h : Refuses m s as) : Refuses (m >>= f) s as := by
  have stopped : m s as = ((m s as).1, none) := by simpa using h []
  intro more
  rw [bind_none stopped, bind_none (h more)]

/-- A refusal in what comes after a program that returned. -/
lemma Refuses.after {used : List α} (returns : ∀ more, m s (used ++ more) = (t, some (b, more)))
    (h : Refuses (f b) t rest) : Refuses (m >>= f) s (used ++ rest) := by
  intro more
  rw [List.append_assoc, bind_some (returns _), bind_some (returns _)]
  exact h more

/-- A program that takes a number of answers returns in `Q`, if it does. -/
lemma Takes.wp {Q : β → σ → Prop} (h : Takes n m s Q) : Wp m s Q fun _ => True := by
  intro as
  have := h as
  revert this
  rcases m s as with ⟨t, _ | ⟨b, rest⟩⟩
  · exact fun _ => trivial
  · exact And.left

/-- More answers may be allowed, and less may be promised. -/
lemma Takes.mono {Q R : β → σ → Prop} (h : Takes n m s Q) (le : n ≤ k) (hQ : ∀ b t, Q b t → R b t) :
    Takes k m s R := by
  intro as
  have := h as
  revert this
  rcases m s as with ⟨t, _ | ⟨b, rest⟩⟩
  · exact Or.imp_left (Nat.lt_of_lt_of_le · le)
  · rintro ⟨q, used, eq, short, returns⟩
    exact ⟨hQ b t q, used, eq, Nat.le_trans short le, returns⟩

/-- A program that cannot do without answers reads at least one. -/
lemma Takes.reads {Q : β → σ → Prop} (h : Takes n m s Q) (asks : (m s []).2 = none)
    (eq : m s as = (t, some (b, rest))) : rest.length < as.length := by
  have first := h as
  rw [eq] at first
  obtain ⟨_, used, rfl, _, returns⟩ := first
  cases used with
  | nil =>
    rw [← List.nil_append [], returns] at asks
    cases asks
  | cons a used =>
    rw [List.length_append, List.length_cons]
    omega

/-- Returning a value takes no answer. -/
lemma Takes.pure {Q : β → σ → Prop} (h : Q b s) : Takes n (Pure.pure b : Script σ α β) s Q :=
  fun _ => ⟨h, [], rfl, Nat.zero_le n, fun _ => rfl⟩

/-- Reading the state takes no answer. -/
lemma Takes.get {Q : σ → σ → Prop} (h : Q s s) : Takes n (Script.get : Script σ α σ) s Q :=
  fun _ => ⟨h, [], rfl, Nat.zero_le n, fun _ => rfl⟩

/-- Changing the state takes no answer. -/
lemma Takes.modify {Q : Unit → σ → Prop} {g : σ → σ} (h : Q () (g s)) :
    Takes n (Script.modify g : Script σ α Unit) s Q :=
  fun _ => ⟨h, [], rfl, Nat.zero_le n, fun _ => rfl⟩

/-- A question takes one answer. -/
lemma Takes.ask {Q : γ → σ → Prop} {g : α → Option γ} (h : ∀ a c, g a = some c → Q c s) :
    Takes 1 (Script.ask g) s Q := by
  intro as
  cases as with
  | nil => exact .inl Nat.zero_lt_one
  | cons a rest =>
    have reads : ∀ more, Script.ask g s (a :: more) = (s, (g a).map (·, more)) := fun _ => rfl
    rw [reads]
    cases eq : g a with
    | none =>
      refine .inr fun more => ?_
      rw [List.cons_append, reads, reads, eq]
      rfl
    | some c =>
      refine ⟨h a c eq, [a], rfl, Nat.le_refl 1, fun more => ?_⟩
      rw [List.singleton_append, reads, eq]
      rfl

/-- The answers of two scripts in a row add up. -/
lemma Takes.bind {Q : γ → σ → Prop} {N : Nat} (h : Takes n m s fun b t => Takes k (f b) t Q)
    (le : n + k ≤ N) :
    Takes N (m >>= f) s Q := by
  intro as
  have first := h as
  rcases eq : m s as with ⟨t, _ | ⟨b, rest⟩⟩
  · rw [eq] at first
    rw [bind_none eq]
    refine first.imp ?_ Refuses.bind
    intro few
    omega
  · rw [eq] at first
    obtain ⟨takes, used, rfl, short, returns⟩ := first
    rw [bind_some eq]
    have second := takes rest
    rcases eq' : f b t rest with ⟨u, _ | ⟨c, rest'⟩⟩
    · rw [eq'] at second
      refine second.imp ?_ (Refuses.after returns)
      intro few
      rw [List.length_append]
      omega
    · rw [eq'] at second
      obtain ⟨q, used', rfl, short', returns'⟩ := second
      refine ⟨q, used ++ used', (List.append_assoc ..).symm, ?_, fun more => ?_⟩
      · rw [List.length_append]
        omega
      · rw [List.append_assoc, bind_some (returns _)]
        exact returns' more

/-- A script that starts by reading the state. -/
lemma Takes.get_bind {f : σ → Script σ α γ} {Q : γ → σ → Prop} (h : Takes n (f s) s Q) :
    Takes n (Script.get >>= f) s Q := .bind (n := 0) (.get h) (Nat.le_of_eq (Nat.zero_add n))

/-- A script that starts by changing the state. -/
lemma Takes.modify_bind {g : σ → σ} {f : Unit → Script σ α γ} {Q : γ → σ → Prop}
    (h : Takes n (f ()) (g s) Q) :
    Takes n (Script.modify g >>= f) s Q :=
  .bind (n := 0) (.modify h) (Nat.le_of_eq (Nat.zero_add n))

/-- A script that starts with a question. -/
lemma Takes.ask_bind {g : α → Option β} {Q : γ → σ → Prop}
    (h : ∀ a b, g a = some b → Takes n (f b) s Q) :
    Takes (n + 1) (Script.ask g >>= f) s Q := .bind (.ask h) (Nat.le_of_eq (Nat.add_comm 1 n))

/-- A program that was given enough answers is only stopped in what comes after its first part. -/
lemma Takes.bind_stopped {Q : β → σ → Prop} (h : Takes n m s Q)
    (stopped : ((m >>= f) s as).2 = none) (fits : ¬Refuses (m >>= f) s as)
    (enough : n ≤ as.length) :
    ∃ b t rest, Q b t ∧ (m >>= f) s as = f b t rest ∧ as.length ≤ n + rest.length ∧
    ¬Refuses (f b) t rest := by
  have first := h as
  rcases eq : m s as with ⟨t, _ | ⟨b, rest⟩⟩
  · rw [eq] at first
    rcases first with few | refuses
    · omega
    · exact absurd refuses.bind fits
  · rw [eq] at first
    obtain ⟨q, used, rfl, short, returns⟩ := first
    refine ⟨b, t, rest, q, bind_some eq, ?_, fun refuses => fits (refuses.after returns)⟩
    rw [List.length_append]
    omega

/-- A program is not stopped in a change of the state. -/
lemma bind_modify_stopped {g : σ → σ} (stopped : ((m >>= fun _ => Script.modify g) s as).2 = none) :
    m s as = (((m >>= fun _ => Script.modify g) s as).1, none) := by
  rcases eq : m s as with ⟨t, _ | ⟨b, rest⟩⟩
  · rw [bind_none eq]
  · rw [bind_some eq] at stopped
    cases stopped

/-- The rule for loops over a list that go through all of it: `J xs` holds when `xs` are left. -/
lemma Takes.forEach {J : List γ → σ → Prop} {xs : List γ} {body : γ → Script σ α Bool}
    (h : ∀ x xs s, J (x :: xs) s → Takes n (body x) s fun go t => go = true ∧ J xs t)
    (init : J xs s) :
    Takes (xs.length * n) (Script.forEach xs body) s fun _ t => J [] t := by
  induction xs generalizing s with
  | nil => exact .pure init
  | cons x xs ih =>
    refine .bind (k := xs.length * n) ((h x xs s init).mono (Nat.le_refl n) ?_) ?_
    · rintro _ t ⟨rfl, ht⟩
      exact ih ht
    · have turns : n + xs.length * n = (x :: xs).length * n := by
        rw [List.length_cons, Nat.succ_mul, Nat.add_comm]
      exact Nat.le_of_eq turns

end

section
variable {L J : σ → Prop} {μ : σ → Nat} {body : Script σ α Bool} {s : σ} {k : Nat}

/-- A property that each round only has if it was there before was there at the start of the loop.
-/
lemma loopN_back (back : ∀ s as, L (body s as).1 → L s) (n : Nat) (s : σ) (as : List α)
    (h : L (loopN body n s as).1) : L s := by
  induction n generalizing s as with
  | zero => exact h
  | succ n ih =>
    rw [loopN] at h
    rcases eq : body s as with ⟨t, _ | ⟨go, rest⟩⟩
    · rw [bind_none eq] at h
      exact back s as (by rw [eq]; exact h)
    · rw [bind_some eq] at h
      refine back s as ?_
      rw [eq]
      cases go with
      | true => exact ih t rest h
      | false => exact h

/-- A loop that is stopped while there is fuel for all answers. -/
lemma loopN_of_measure
    (turn : ∀ s, J s → Takes k body s fun go t => go = true → L t → J t ∧ μ t < μ s)
    (asks : ∀ s as t go rest, body s as = (t, some (go, rest)) → rest.length < as.length)
    (back : ∀ s as, L (body s as).1 → L s) (hs : J s) {as : List α} {n : Nat} (fuel : as.length < n)
    (stopped : (loopN body n s as).2 = none) (lawful : L (loopN body n s as).1) :
    as.length < k * (μ s + 1) ∨
      ∀ more n', (as ++ more).length < n' → loopN body n' s (as ++ more) =
        ((loopN body n s as).1, none) := by
  induction n generalizing s as with
  | zero => cases fuel
  | succ n ih =>
    have first := turn s hs as
    rcases eq : body s as with ⟨t, _ | ⟨go, rest⟩⟩
    · rw [eq] at first
      refine first.imp (Nat.lt_of_lt_of_le · (Nat.le_mul_of_pos_right k (Nat.succ_pos _))) ?_
      intro refuses more n' fuel'
      obtain ⟨n', rfl⟩ := Nat.exists_eq_add_of_lt (Nat.zero_lt_of_lt fuel')
      have refused := refuses more
      rw [eq] at refused
      rw [Nat.zero_add, loopN, loopN, bind_none eq, bind_none refused]
    · rw [eq] at first
      obtain ⟨decreases, used, rfl, short, returns⟩ := first
      have fewer := asks _ _ _ _ _ eq
      rw [loopN, bind_some eq] at stopped lawful ⊢
      cases go with
      | false => cases stopped
      | true =>
        obtain ⟨ht, less⟩ := decreases rfl (loopN_back back n t rest lawful)
        refine (ih ht (by omega) stopped lawful).imp ?_ ?_
        · intro few
          have bound : k * (μ t + 1) ≤ k * μ s := Nat.mul_le_mul_left k less
          rw [List.length_append, Nat.mul_succ]
          omega
        · intro refuses more n' fuel'
          obtain ⟨n', rfl⟩ := Nat.exists_eq_add_of_lt (Nat.zero_lt_of_lt fuel')
          have fuel'' : (rest ++ more).length < n' := by
            rw [List.length_append] at fewer fuel' ⊢
            rw [List.length_append] at fuel'
            omega
          rw [Nat.zero_add, loopN, List.append_assoc, bind_some (returns _)]
          exact refuses more n' fuel''

/-- A loop that is stopped has asked for few answers or refused one, if each turn that goes on
lowers `μ` under the law. -/
lemma loop_of_measure
    (turn : ∀ s, J s → Takes k body s fun go t => go = true → L t → J t ∧ μ t < μ s)
    (asks : ∀ s as t go rest, body s as = (t, some (go, rest)) → rest.length < as.length)
    (back : ∀ s as, L (body s as).1 → L s) (hs : J s) {as : List α}
    (stopped : (loop body s as).2 = none) (lawful : L (loop body s as).1) :
    as.length < k * (μ s + 1) ∨ Refuses (loop body) s as := by
  refine (loopN_of_measure turn asks back hs (Nat.lt_succ_self _) stopped lawful).imp_right ?_
  intro refuses more
  exact refuses more _ (Nat.lt_succ_self _)

end

end ModHttp3.Lib.Script
