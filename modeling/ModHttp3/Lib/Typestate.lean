import ModHttp3.Lib.Ledger

/-!
# Usage protocols

A ledger says that no resource is touched after its release. A usage protocol says more: which
operation is allowed after which. It is an automaton `next` whose letters are the uses of a resource
and, as `none`, its release. `stateOf` runs it over the operations of a log on one resource, and is
`none` if one of them was not allowed there.

Programs work on one resource at a time. `Works next r s ops t` says that `ops` are about `r` and
lead from `s` to `t`; such parts compose (`Works.append`), and are added to a log by `Works.extend`,
for `r`, and `Works.other`, for the rest.
-/

namespace ModHttp3.Lib

variable {σ υ : Type*} {next : σ → Option υ → Option σ} {start s t v : σ}
  {log ops ops' : List (ResOp υ)} {r r' : Nat}
  {u : υ}

/-- An operation as a letter of the protocol. -/
def ResOp.letter : ResOp υ → Option υ
  | .use u _ => some u
  | .free _ => none

/-- What a log does with a resource. -/
def letters (log : List (ResOp υ)) (r : Nat) : List (Option υ) :=
  (log.filter fun op => op.res == r).map ResOp.letter

/-- The state of a resource after a log. -/
def stateOf (next : σ → Option υ → Option σ) (start : σ) (log : List (ResOp υ)) (r : Nat) :
    Option σ :=
  (letters log r).foldlM next start

/-- The operations of two logs in a row on one resource. -/
lemma letters_append : letters (log ++ ops) r = letters log r ++ letters ops r := by
  rw [letters, List.filter_append, List.map_append]
  rfl

/-- Operations on other resources do not count. -/
lemma letters_other (other : ∀ op ∈ ops, op.res ≠ r) : letters ops r = [] := by
  have empty : ops.filter (fun op => op.res == r) = [] := by
    refine List.filter_eq_nil_iff.mpr ?_
    intro op mem
    simpa using other op mem
  rw [letters, empty, List.map_nil]

/-- The protocol goes on where it was. -/
lemma stateOf_append (before : stateOf next start log r = some s) :
    stateOf next start (log ++ ops) r = stateOf next s ops r := by
  rw [stateOf] at before
  rw [stateOf, letters_append, List.foldlM_append, before]
  rfl

/-- A resource that was released is in a final state, if every release leads to one. -/
lemma stateOf_released (final : σ → Prop) (release : ∀ s t, next s none = some t → final t)
    (last : ∀ s l, final s → next s l = none) (is : stateOf next start log r = some s)
    (mem : r ∈ freed log) :
    final s := by
  obtain ⟨op, mem, res⟩ := List.mem_filterMap.mp mem
  cases op with
  | use u r' => cases res
  | free r' =>
    cases res
    obtain ⟨pre, post, rfl⟩ := List.append_of_mem mem
    rw [stateOf, letters_append, List.foldlM_append] at is
    obtain ⟨before, -, is⟩ := Option.bind_eq_some_iff.mp is
    have letter : letters (ResOp.free r :: post) r = none :: letters post r := by
      simp [letters, ResOp.res, ResOp.letter]
    rw [letter, List.foldlM_cons] at is
    obtain ⟨left, released, is⟩ := Option.bind_eq_some_iff.mp is
    have final := release before left released
    cases rest : letters post r with
    | nil =>
      rw [rest] at is
      cases is
      exact final
    | cons l ls =>
      rw [rest, List.foldlM_cons, last left l final] at is
      cases is

/-- Operations on one resource that the protocol allows. -/
structure Works (next : σ → Option υ → Option σ) (r : Nat) (s : σ) (ops : List (ResOp υ)) (t : σ) :
    Prop where
  on : ∀ op ∈ ops, op.res = r
  path : stateOf next s ops r = some t

namespace Works

/-- Doing nothing. -/
lemma nil : Works next r s [] s := ⟨fun _ mem => absurd mem List.not_mem_nil, rfl⟩

/-- One use that is allowed. -/
lemma use (allowed : next s (some u) = some t) : Works next r s [.use u r] t where
  on op mem := by
    cases List.mem_singleton.mp mem
    rfl
  path := by simp [stateOf, letters, ResOp.res, ResOp.letter, allowed]

/-- A free that is allowed. -/
lemma free (allowed : next s none = some t) : Works next r s [.free r] t where
  on op mem := by
    cases List.mem_singleton.mp mem
    rfl
  path := by simp [stateOf, letters, ResOp.res, ResOp.letter, allowed]

/-- One part after the other. -/
lemma append (h : Works next r s ops t) (h' : Works next r t ops' v) :
    Works next r s (ops ++ ops') v where
  on op mem := (List.mem_append.mp mem).elim (h.on op) (h'.on op)
  path := (stateOf_append h.path).trans h'.path

/-- The same use again and again, where it leaves the state. -/
lemma replicate (stays : next s (some u) = some s) (n : Nat) :
    Works next r s (List.replicate n (.use u r)) s := by
  induction n with
  | zero => exact .nil
  | succ n ih => exact (Works.use stays).append ih

/-- At the end of a log. -/
lemma extend (h : Works next r s ops t) (before : stateOf next start log r = some s) :
    stateOf next start (log ++ ops) r = some t :=
  (stateOf_append before).trans h.path

/-- Another resource is not concerned. -/
lemma other (h : Works next r s ops t) (ne : r' ≠ r) :
    stateOf next start (log ++ ops) r' = stateOf next start log r' := by
  have empty : letters ops r' = [] :=
    letters_other fun op mem same => ne (same.symm.trans (h.on op mem))
  rw [stateOf, letters_append, empty, List.append_nil]
  rfl

end Works

end ModHttp3.Lib
