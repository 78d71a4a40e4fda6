import ModHttp3.Lib.Ledger

/-!
# Programs that allocate and free

`Act υ α` is a program over a heap of numbered objects: it allocates, uses and frees them and
returns a value. The heap has no contents, only the log of what was done. `Owns own m post` says
that `m`, started with the objects `own` and no others, ends with the objects `post` of what it
returns: nothing is lost, freed twice or touched after it was freed. There is one rule for each
operation, `Owns.bind` for sequences and `Owns.perm` for the order in which the objects are listed.
A function is given a specification with the objects `rest` that it leaves alone. `Returns m P` is
about what `m` returns, whatever the heap.
-/

namespace ModHttp3.Lib

/-- The objects allocated so far, and what was done with them. -/
structure Heap (υ : Type) where
  next : Nat
  log : List (ResOp υ)
deriving DecidableEq

/-- A program over the heap. -/
abbrev Act (υ α : Type) := StateM (Heap υ) α

variable {υ α β : Type}

/-- Allocate an object, if there is memory. -/
def Act.alloc (ok : Bool) : Act υ (Option Nat) := fun h =>
  if ok then (some h.next, { h with next := h.next + 1 }) else (none, h)

/-- Do something with an object. -/
def Act.use (u : υ) (r : Nat) : Act υ Unit := fun h => ((), { h with log := h.log ++ [.use u r] })

/-- Free an object. -/
def Act.free (r : Nat) : Act υ Unit := fun h => ((), { h with log := h.log ++ [.free r] })

/-- Do something with an object, if there is one. -/
def Act.useAny (u : υ) : Option Nat → Act υ Unit
  | some r => Act.use u r
  | none => pure ()

/-- Free an object, if there is one. -/
def Act.freeAny : Option Nat → Act υ Unit
  | some r => Act.free r
  | none => pure ()

/-- What a program returns has a property. -/
def Returns (m : Act υ α) (P : α → Prop) : Prop := ∀ h, P (m.run h).1

/-- A program that owns `own` before and `post` after. -/
def Owns (own : List Nat) (m : Act υ α) (post : α → List Nat) : Prop :=
  ∀ h, Ledger own h.log h.next → Ledger (post (m.run h).1) (m.run h).2.log (m.run h).2.next

namespace Returns
variable {m : Act υ α} {P : α → Prop}

/-- Returning a value with the property. -/
lemma pure {a : α} (holds : P a) : Returns (Pure.pure a : Act υ α) P := fun _ => holds

/-- One program after the other. -/
lemma bind {Q : β → Prop} {f : α → Act υ β} (first : Returns m P)
    (then' : ∀ a, P a → Returns (f a) Q) :
    Returns (m >>= f) Q :=
  fun h => then' _ (first h) _

/-- A program whose result does not matter. -/
lemma skip {Q : β → Prop} {f : α → Act υ β} (then' : ∀ a, Returns (f a) Q) : Returns (m >>= f) Q :=
  fun _ => then' _ _

/-- An allocation returns an object exactly if it succeeds. -/
lemma alloc (ok : Bool) : Returns (Act.alloc ok : Act υ _) fun r => r.isSome = ok := by
  intro h
  cases ok with
  | _ => rfl

end Returns

namespace Owns
variable {own own' rest : List Nat} {post post' : α → List Nat} {m : Act υ α} {r : Nat} {u : υ}

/-- Returning a value, with the objects held in another order. -/
lemma pure {a : α} (p : own.Perm (post a)) : Owns own (Pure.pure a : Act υ α) post :=
  fun _ ledger => ledger.perm p

/-- One program after the other. -/
lemma bind {mid : α → List Nat} {post : β → List Nat} {f : α → Act υ β} (first : Owns own m mid)
    (then' : ∀ a, Owns (mid a) (f a) post) : Owns own (m >>= f) post :=
  fun h ledger => then' _ _ (first h ledger)

/-- The same, if something is known of what the first program returns. -/
lemma bind_returns {P : α → Prop} {mid : α → List Nat} {post : β → List Nat} {f : α → Act υ β}
    (first : Owns own m mid) (returns : Returns m P) (then' : ∀ a, P a → Owns (mid a) (f a) post) :
    Owns own (m >>= f) post :=
  fun h ledger => then' _ (returns h) _ (first h ledger)

/-- The order does not matter. -/
lemma perm (before : own.Perm own') (owns : Owns own' m post)
    (after : ∀ a, (post a).Perm (post' a)) :
    Owns own m post' :=
  fun h ledger => (owns h (ledger.perm before)).perm (after _)

/-- An object that was allocated is held. -/
lemma alloc (ok : Bool) : Owns own (Act.alloc ok : Act υ _) fun r => r.toList ++ own := by
  intro h ledger
  cases ok with
  | true => exact ledger.acquire
  | false => exact ledger

/-- A held object may be used. -/
lemma use (mem : r ∈ own) : Owns own (Act.use u r) fun _ => own := fun _ ledger => ledger.use mem u

/-- A held object that was freed is no longer held. -/
lemma free : Owns (r :: rest) (Act.free r : Act υ Unit) fun _ => rest := fun _ ledger => ledger.free

/-- Using an object if there is one. -/
lemma useAny {o : Option Nat} (mem : ∀ r, o = some r → r ∈ own) :
    Owns own (Act.useAny u o) fun _ => own := by
  cases o with
  | some r => exact use (mem r rfl)
  | none => exact pure (.refl _)

/-- Freeing an object if there is one. -/
lemma freeAny {o : Option Nat} :
    Owns (o.toList ++ rest) (Act.freeAny o : Act υ Unit) fun _ => rest := by
  cases o with
  | some r => exact free
  | none => exact pure (.refl _)

end Owns

end ModHttp3.Lib
