import Mathlib.Data.List.Basic
import Mathlib.Data.List.Nodup
import Mathlib.Logic.Function.Basic
import Mathlib.Tactic.Common

/-!
# Singly linked queues with a tail pointer

The pointer structure behind a C queue of heap cells: a memory of allocated cells, a head and a tail
pointer. `push` links a freshly allocated cell behind the tail, `dropHead` unlinks and frees the
first cell, `modifyHead` writes into it and `clear` frees the whole chain. Every operation returns
`none` when it follows a null or dangling pointer.

`Queue.Rep q xs` is the abstraction: the cells reachable from the head are exactly `xs`, each with
its address, no address occurs twice, and the tail is the address of the last one. The lemmas
`Rep.push`, `Rep.dropHead`, `Rep.modifyHead` and `Rep.clear` say what each operation does to the
list, and `Rep.cell` what a pointer into the middle of the queue reads.
-/

namespace ModHttp3.Lib

/-- Addresses; a nullable pointer is an `Option Ptr`. -/
abbrev Ptr := Nat

/-- A heap cell: its contents and the link to the next cell. -/
structure Cell (α : Type) where
  val : α
  next : Option Ptr

/-- The allocated cells by address. -/
abbrev Mem (α : Type) := Ptr → Option (Cell α)

/-- A linked queue; `allocated` counts the cells allocated and not yet freed. -/
structure Queue (α : Type) where
  mem : Mem α
  head : Option Ptr
  tail : Option Ptr
  allocated : Nat

namespace Queue

/-- The queue with both pointers null. -/
def empty {α : Type} : Queue α :=
  { mem := fun _ => none, head := none, tail := none, allocated := 0 }

/-- Link the new cell `a` behind the tail. -/
def push {α : Type} (q : Queue α) (a : Ptr) (v : α) : Option (Queue α) :=
  let mem := Function.update q.mem a (some { val := v, next := none })
  match q.tail with
  | some t => do
    let c ← mem t
    some
      { q with
        mem := Function.update mem t (some { c with next := some a })
        tail := some a
        allocated := q.allocated + 1 }
  | none =>
    some { mem := mem, head := some a, tail := some a, allocated := q.allocated + 1 }

/-- Unlink the first cell and free it. -/
def dropHead {α : Type} (q : Queue α) : Option (Queue α) := do
  let a ← q.head
  let c ← q.mem a
  some
    { mem := Function.update q.mem a none
      head := c.next
      tail := if c.next.isNone then none else q.tail
      allocated := q.allocated - 1 }

/-- Write into the first cell. -/
def modifyHead {α : Type} (q : Queue α) (f : α → α) : Option (Queue α) := do
  let a ← q.head
  let c ← q.mem a
  some { q with mem := Function.update q.mem a (some { c with val := f c.val }) }

/-- Free the chain of cells that starts at `p`. -/
def freeChain {α : Type} : Nat → Mem α → Option Ptr → Option (Mem α)
  | _, mem, none => some mem
  | 0, _, some _ => none
  | fuel + 1, mem, some a => do
    let c ← mem a
    freeChain fuel (Function.update mem a none) c.next

/-- Free every cell and reset both pointers. -/
def clear {α : Type} (q : Queue α) : Option (Queue α) := do
  let mem ← freeChain q.allocated q.mem q.head
  some { mem := mem, head := none, tail := none, allocated := 0 }

end Queue

/-- Following `next` from `p` visits the cells `xs` and ends at the pointer `q`. -/
inductive Seg {α : Type} (m : Mem α) : Option Ptr → List (Ptr × α) → Option Ptr → Prop where
  | nil {p} : Seg m p [] p
  | cons {a v n xs q} :
    m a = some { val := v, next := n } →
    Seg m n xs q →
    Seg m (some a) ((a, v) :: xs) q

/-- The address of the first cell of a list of cells. -/
def front {α : Type} (xs : List (Ptr × α)) : Option Ptr := xs.head?.map Prod.fst

/-- An empty queue has no head. -/
@[simp] lemma front_nil {α : Type} : front ([] : List (Ptr × α)) = none := rfl

/-- The head of a queue is its first cell. -/
@[simp] lemma front_cons {α : Type} (x : Ptr × α) (xs) : front (x :: xs) = some x.1 := rfl

section
variable {α : Type} {m : Mem α} {p q : Option Ptr} {xs ys : List (Ptr × α)} {a : Ptr} {v : α}

/-- A segment that ends in null starts at its first cell. -/
lemma Seg.start (s : Seg m p xs none) : p = front xs := by
  cases s with
  | nil => rfl
  | cons _ _ => rfl

/-- Every cell of a segment is allocated. -/
lemma Seg.allocated (s : Seg m p xs q) (h : a ∈ xs.map Prod.fst) : m a ≠ none := by
  induction s with
  | nil => simp at h
  | cons e _ ih =>
    rw [List.map_cons, List.mem_cons] at h
    rcases h with rfl | h
    · simp [e]
    · exact ih h

/-- The cells after the first one form a segment of their own. -/
lemma Seg.rest (s : Seg m p ((a, v) :: xs) none) : Seg m (front xs) xs none := by
  cases s with
  | cons _ s =>
    rw [← s.start]
    exact s

/-- Segments compose. -/
lemma Seg.append {r : Option Ptr} (s1 : Seg m p xs q) (s2 : Seg m q ys r) :
    Seg m p (xs ++ ys) r := by
  induction s1 with
  | nil => exact s2
  | cons e _ ih => exact .cons e (ih s2)

/-- Segments split. -/
lemma Seg.split {r : Option Ptr} (s : Seg m p (xs ++ ys) r) : ∃ q, Seg m p xs q ∧ Seg m q ys r := by
  induction xs generalizing p with
  | nil => exact ⟨p, .nil, s⟩
  | cons x xs ih =>
    cases s with
    | cons e s' =>
      obtain ⟨q, s1, s2⟩ := ih s'
      exact ⟨q, .cons e s1, s2⟩

/-- Writing outside a segment leaves it alone. -/
lemma Seg.frame {c : Option (Cell α)} (s : Seg m p xs q) (h : a ∉ xs.map Prod.fst) :
    Seg (Function.update m a c) p xs q := by
  induction s with
  | nil => exact .nil
  | @cons b w n xs q e _ ih =>
    rw [List.map_cons, List.mem_cons, not_or] at h
    refine .cons ?_ (ih h.2)
    rw [Function.update_of_ne (Ne.symm h.1)]
    exact e

end

namespace Queue
variable {α : Type} {q q' : Queue α} {xs : List (Ptr × α)} {a : Ptr} {v : α}

/-- The queue holds exactly the cells `xs`, in this order. -/
structure Rep (q : Queue α) (xs : List (Ptr × α)) : Prop where
  seg : Seg q.mem q.head xs none
  nodup : (xs.map Prod.fst).Nodup
  tail : q.tail = (xs.map Prod.fst).getLast?
  allocated : q.allocated = xs.length

/-- The empty queue holds no cell. -/
lemma Rep.empty : Rep (Queue.empty : Queue α) [] where
  seg := .nil
  nodup := List.nodup_nil
  tail := rfl
  allocated := rfl

/-- The head pointer is the address of the first cell. -/
lemma Rep.head (rep : Rep q xs) : q.head = front xs := rep.seg.start

/-- What a pointer into the queue reads. -/
lemma Rep.cell {l r : List (Ptr × α)} (rep : Rep q (l ++ (a, v) :: r)) :
    q.mem a = some { val := v, next := front r } := by
  obtain ⟨p, _, s⟩ := rep.seg.split
  cases s with
  | cons e s' =>
    rw [← s'.start]
    exact e

/-- A freshly allocated address is none of the queue's cells. -/
lemma Rep.fresh (rep : Rep q xs) (h : q.mem a = none) : a ∉ xs.map Prod.fst :=
  fun mem => rep.seg.allocated mem h

/-- Linking a fresh cell behind the tail appends it. -/
theorem Rep.push (rep : Rep q xs) (h : q.mem a = none) :
    ∃ q', q.push a v = some q' ∧ Rep q' (xs ++ [(a, v)]) := by
  have fresh := rep.fresh h
  have nodup : ((xs ++ [(a, v)]).map Prod.fst).Nodup := by
    rw [List.map_append, List.map_singleton]
    exact List.nodup_append.mpr
      ⟨rep.nodup, List.nodup_singleton a, fun x hx y hy => by
        rw [List.mem_singleton] at hy
        rintro rfl
        subst hy
        exact fresh hx⟩
  rcases List.eq_nil_or_concat xs with rfl | ⟨ys, ⟨t, w⟩, rfl⟩
  · have tail : q.tail = none := rep.tail
    refine ⟨_, by rw [Queue.push, tail], ?_⟩
    exact
      { seg := .cons (Function.update_self ..) .nil
        nodup := nodup
        tail := rfl
        allocated := by simp [rep.allocated] }
  · rw [List.concat_eq_append] at *
    have tail : q.tail = some t := by rw [rep.tail]; simp
    have ne : t ≠ a := by
      rintro rfl
      exact fresh (by simp)
    have cell : q.mem t = some { val := w, next := none } := rep.cell (r := [])
    have cell' : Function.update q.mem a (some { val := v, next := none }) t
        = some { val := w, next := none } := by
      rw [Function.update_of_ne ne, cell]
    refine ⟨_, by rw [Queue.push, tail]; simp only [cell']; rfl, ?_⟩
    obtain ⟨p, s, s'⟩ := rep.seg.split
    have ht : t ∉ ys.map Prod.fst := by
      have := rep.nodup
      rw [List.map_append, List.nodup_append] at this
      exact fun hm => this.2.2 t hm t (by simp) rfl
    have ha : a ∉ ys.map Prod.fst := fun hm => fresh (by simp [hm])
    refine
      { seg := ?_
        nodup := nodup
        tail := by simp
        allocated := by simp [rep.allocated] }
    rw [List.append_assoc]
    refine ((s.frame ha).frame ht).append ?_
    cases s' with
    | cons _ _ =>
      refine .cons (Function.update_self ..) (.cons ?_ .nil)
      rw [Function.update_of_ne ne.symm, Function.update_self]

/-- Freeing the first cell removes it from the list. -/
theorem Rep.dropHead (rep : Rep q ((a, v) :: xs)) :
    ∃ q', q.dropHead = some q' ∧ Rep q' xs := by
  have head : q.head = some a := rep.head
  have cell : q.mem a = some { val := v, next := front xs } := rep.cell (l := [])
  refine
    ⟨_, by rw [Queue.dropHead, head]; simp only [Option.bind_eq_bind, Option.bind_some, cell]; rfl,
      ?_⟩
  have nodup := rep.nodup
  rw [List.map_cons, List.nodup_cons] at nodup
  refine
    { seg := rep.seg.rest.frame nodup.1
      nodup := nodup.2
      tail := ?_
      allocated := by simp [rep.allocated] }
  cases xs with
  | nil => rfl
  | cons y ys =>
    simp only [front_cons, Option.isNone_some, Bool.false_eq_true, if_false]
    rw [rep.tail, List.map_cons, List.map_cons, List.getLast?_cons_cons]

/-- Writing into the first cell changes its contents and nothing else. -/
theorem Rep.modifyHead (rep : Rep q ((a, v) :: xs)) (f : α → α) :
    ∃ q', q.modifyHead f = some q' ∧ Rep q' ((a, f v) :: xs) := by
  have head : q.head = some a := rep.head
  have cell : q.mem a = some { val := v, next := front xs } := rep.cell (l := [])
  refine
    ⟨_, by rw [Queue.modifyHead, head]; simp only [Option.bind_eq_bind, Option.bind_some,
    cell]; rfl, ?_⟩
  have nodup := rep.nodup
  rw [List.map_cons, List.nodup_cons] at nodup
  exact
    { seg := .cons (Function.update_self ..) (rep.seg.rest.frame nodup.1)
      nodup := rep.nodup
      tail := rep.tail
      allocated := rep.allocated }

/-- Freeing the chain of a queue follows no dangling pointer. -/
lemma freeChain_seg {m : Mem α} {p : Option Ptr} (s : Seg m p xs none)
    (nodup : (xs.map Prod.fst).Nodup) :
    ∃ m', freeChain xs.length m p = some m' := by
  induction xs generalizing m p with
  | nil =>
    cases s
    exact ⟨m, rfl⟩
  | cons x xs ih =>
    rw [List.map_cons, List.nodup_cons] at nodup
    cases s with
    | cons e s =>
      obtain ⟨m', h⟩ := ih (s.frame (c := none) nodup.1) nodup.2
      refine ⟨m', ?_⟩
      rw [List.length_cons, freeChain, e]
      exact h

/-- Clearing a queue leaves an empty one. -/
theorem Rep.clear (rep : Rep q xs) : ∃ q', q.clear = some q' ∧ Rep q' [] := by
  obtain ⟨m', h⟩ := freeChain_seg rep.seg rep.nodup
  refine ⟨_, by rw [Queue.clear, rep.allocated, h]; rfl, ?_⟩
  exact
    { seg := .nil
      nodup := List.nodup_nil
      tail := rfl
      allocated := rfl }

/-- Linking a cell allocates no other address. -/
lemma push_mem_none {q' : Queue α} {b : Ptr} (eq : q.push a v = some q') (ne : b ≠ a)
    (h : q.mem b = none) : q'.mem b = none := by
  rw [Queue.push] at eq
  cases ht : q.tail with
  | none =>
    rw [ht] at eq
    cases eq
    exact (Function.update_of_ne ne _ _).trans h
  | some t =>
    rw [ht] at eq
    obtain ⟨c, ec, eq⟩ := Option.bind_eq_some_iff.mp eq
    cases eq
    by_cases hb : b = t
    · subst hb
      rw [Function.update_of_ne ne, h] at ec
      cases ec
    · exact ((Function.update_of_ne hb _ _).trans (Function.update_of_ne ne _ _)).trans h

end Queue

end ModHttp3.Lib
