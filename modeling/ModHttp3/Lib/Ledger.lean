import Mathlib.Data.List.Perm.Basic
import Mathlib.Data.List.Range
import Mathlib.Tactic.Common

/-!
# Ownership ledgers

Resources are numbered in the order they are acquired. A log records every use and every release of
a resource. `Ledger owned log n` says that each of the first `n` resources is owned in exactly one
place or was released exactly once, and that nothing in the log touches a resource that was already
released. Programs keep the ledger by the rules `Ledger.acquire`, `Ledger.use`, `Ledger.free` and
`Ledger.perm`.
-/

namespace ModHttp3.Lib

/-- An operation on a numbered resource; `υ` names the kinds of use. -/
inductive ResOp (υ : Type*) where
  | use (u : υ) (r : Nat)
  | free (r : Nat)
deriving DecidableEq

namespace ResOp
variable {υ : Type*}

/-- The resource an operation is about. -/
def res : ResOp υ → Nat
  | .use _ r => r
  | .free r => r

/-- The resource an operation releases. -/
def released : ResOp υ → Option Nat
  | .use _ _ => none
  | .free r => some r

end ResOp

/-- The resources a log releases, in order. -/
def freed {υ : Type*} (log : List (ResOp υ)) : List Nat := log.filterMap ResOp.released

/-- No operation of the log is about a resource released earlier in it. -/
def Safe {υ : Type*} (log : List (ResOp υ)) : Prop :=
  ∀ pre op post, log = pre ++ op :: post → op.res ∉ freed pre

/-- Every resource acquired so far is owned in one place, or was released once and not touched
since. -/
structure Ledger {υ : Type*} (owned : List Nat) (log : List (ResOp υ)) (n : Nat) : Prop where
  accounts : (owned ++ freed log).Perm (List.range n)
  safe : Safe log

section
variable {υ : Type*} {owned owned' : List Nat} {log ops : List (ResOp υ)} {n r : Nat} {u : υ}

/-- What two logs in a row free. -/
lemma freed_append : freed (log ++ ops) = freed log ++ freed ops := List.filterMap_append

/-- An empty log frees nothing. -/
@[simp] lemma freed_nil : freed ([] : List (ResOp υ)) = [] := rfl

/-- A use frees nothing. -/
@[simp] lemma freed_use : freed [ResOp.use u r] = [] := rfl

/-- A free frees its resource. -/
@[simp] lemma freed_free : freed [(ResOp.free r : ResOp υ)] = [r] := rfl

/-- One more operation is safe if its resource was not released. -/
lemma Safe.snoc {op : ResOp υ} (h : Safe log) (fresh : op.res ∉ freed log) :
    Safe (log ++ [op]) := by
  intro pre o post eq
  rcases List.eq_nil_or_concat post with rfl | ⟨post, p, rfl⟩
  · obtain ⟨rfl, e⟩ := List.append_inj' eq rfl
    cases e
    exact fresh
  · rw [List.concat_eq_append, ← List.cons_append, ← List.append_assoc] at eq
    obtain ⟨rfl, _⟩ := List.append_inj' eq rfl
    exact h pre o post rfl

namespace Ledger

/-- Nothing was acquired yet. -/
lemma init : Ledger [] ([] : List (ResOp υ)) 0 where
  accounts := .nil
  safe pre op post eq := by simp at eq

/-- No resource is owned in two places or both owned and released. -/
lemma nodup (h : Ledger owned log n) : (owned ++ freed log).Nodup :=
  h.accounts.nodup_iff.mpr List.nodup_range

/-- What is owned was not released. -/
lemma not_freed (h : Ledger owned log n) (mem : r ∈ owned) : r ∉ freed log :=
  fun hf => (List.nodup_append.mp h.nodup).2.2 r mem r hf rfl

/-- Only acquired resources are owned. -/
lemma lt (h : Ledger owned log n) (mem : r ∈ owned) : r < n :=
  List.mem_range.mp (h.accounts.mem_iff.mp (List.mem_append_left _ mem))

/-- The places of ownership may be listed in any order. -/
lemma perm (h : Ledger owned log n) (p : owned.Perm owned') : Ledger owned' log n where
  accounts := (p.symm.append_right _).trans h.accounts
  safe := h.safe

/-- Acquiring the next resource. -/
lemma acquire (h : Ledger owned log n) : Ledger (n :: owned) log (n + 1) where
  accounts := by
    rw [List.range_succ]
    exact (h.accounts.cons n).trans (List.perm_append_singleton n _).symm
  safe := h.safe

/-- Using what is owned. -/
lemma use (h : Ledger owned log n) (mem : r ∈ owned) (u : υ) :
    Ledger owned (log ++ [ResOp.use u r]) n where
  accounts := by
    rw [freed_append, freed_use, List.append_nil]
    exact h.accounts
  safe := h.safe.snoc (h.not_freed mem)

/-- Using what is owned, any number of times. -/
lemma uses (h : Ledger owned log n) (mem : r ∈ owned) (us : List υ) :
    Ledger owned (log ++ us.map (.use · r)) n := by
  induction us generalizing log with
  | nil => simpa using h
  | cons u us ih =>
    have := ih (h.use mem u)
    rwa [List.append_assoc] at this

/-- Releasing what is owned. -/
lemma free (h : Ledger (r :: owned) log n) : Ledger owned (log ++ [ResOp.free r]) n where
  accounts := by
    rw [freed_append, freed_free, ← List.append_assoc]
    exact (List.perm_append_singleton r _).trans h.accounts
  safe := h.safe.snoc (h.not_freed List.mem_cons_self)

/-- A resource that is not owned any more was released once. -/
lemma count_freed (h : Ledger owned log n) (lt : r < n) (mem : r ∉ owned) :
    (freed log).count r = 1 := by
  have c := h.accounts.count_eq r
  rw [List.count_append, List.count_eq_zero_of_not_mem mem, Nat.zero_add,
    List.nodup_range.count, if_pos (List.mem_range.mpr lt)] at c
  exact c

end Ledger

end

end ModHttp3.Lib
