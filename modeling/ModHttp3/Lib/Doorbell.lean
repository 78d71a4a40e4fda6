import Mathlib.Data.List.Basic
import Mathlib.Tactic.Common

/-!
# A doorbell

Threads leave work for a consumer and ring after that. A ring that nobody has answered is queued;
the queue may refuse a ring, but only if there is another one in it. The consumer answers what is
queued before it looks at the work, and sleeps when nothing is queued.

`Attended ahead d` is the invariant of such a protocol: every piece of work that was rung for is
announced by the queue, or the consumer still has it `ahead` of itself. A consumer that sleeps with
nothing ahead has seen all of it (`Attended.seen`).
-/

namespace ModHttp3.Lib

/-- Work for a consumer, and the rings that announce it. -/
structure Doorbell (ω : Type*) where
  /-- the work that was left since the last ring -/
  fresh : List ω
  /-- the work that was left before -/
  rung : List ω
  /-- the rings that are still to come -/
  owed : Nat
  /-- the rings that were not answered -/
  queue : Nat

namespace Doorbell
variable {ω : Type*}

/-- Nothing has happened. -/
def silent : Doorbell ω where
  fresh := []
  rung := []
  owed := 0
  queue := 0

/-- Work is left. -/
def leave (d : Doorbell ω) (w : ω) : Doorbell ω :=
  { d with fresh := d.fresh ++ [w], owed := d.owed + 1 }

/-- The bell is rung for all work that was left; the queue may refuse. -/
def ring (d : Doorbell ω) (taken : Bool) : Doorbell ω where
  fresh := []
  rung := d.rung ++ d.fresh
  owed := d.owed - 1
  queue := if taken then d.queue + 1 else d.queue

/-- The consumer answers a ring. -/
def answer (d : Doorbell ω) : Doorbell ω := { d with queue := d.queue - 1 }

/-- The consumer looks at some of the work. -/
def see (d : Doorbell ω) (p : ω → Bool) : Doorbell ω :=
  { d with fresh := d.fresh.filter (!p ·), rung := d.rung.filter (!p ·) }

end Doorbell

/-- Work that was rung for is announced or ahead of the consumer, and work that was not rung for
will be. -/
structure Attended {ω : Type*} (ahead : ω → Prop) (d : Doorbell ω) : Prop where
  rung : ∀ w ∈ d.rung, 0 < d.queue ∨ ahead w
  fresh : d.fresh ≠ [] → 0 < d.owed

namespace Attended
variable {ω : Type*} {ahead ahead' : ω → Prop} {d : Doorbell ω}

/-- At the start nothing was rung. -/
lemma silent : Attended ahead .silent where
  rung _ := nofun
  fresh := absurd rfl

/-- Whoever leaves work still owes a ring for it. -/
lemma leave (h : Attended ahead d) (w : ω) : Attended ahead (d.leave w) where
  rung := h.rung
  fresh _ := Nat.succ_pos _

/-- After a ring the queue is not empty, whatever was queued before. -/
lemma ring {taken : Bool} (law : taken = false → 0 < d.queue) : Attended ahead (d.ring taken) where
  rung _ _ := by
    refine .inl ?_
    cases taken with
    | true => exact Nat.succ_pos _
    | false => exact law rfl
  fresh := absurd rfl

/-- Nothing of the work is lost when the consumer has all of it ahead. -/
lemma answer (h : Attended ahead d) (all : ∀ w ∈ d.rung, ahead w) : Attended ahead d.answer where
  rung w mem := .inr (all w mem)
  fresh := h.fresh

/-- The consumer moves on past what it sees. -/
lemma see {p : ω → Bool} (h : Attended ahead d)
    (rest : ∀ w ∈ d.rung, p w = false → ahead w → ahead' w) :
    Attended ahead' (d.see p) where
  rung w mem := by
    obtain ⟨mem, other⟩ := List.mem_filter.mp mem
    rw [Bool.not_eq_true'] at other
    exact (h.rung w mem).imp_right (rest w mem other)
  fresh ne := by
    refine h.fresh ?_
    rintro eq
    rw [Doorbell.see, eq] at ne
    exact ne rfl

/-- What the consumer has ahead may be read differently, as long as nothing that was rung for is
lost. -/
lemma mono (h : Attended ahead d) (rest : ∀ w ∈ d.rung, ahead w → ahead' w) :
    Attended ahead' d where
  rung w mem := (h.rung w mem).imp_right (rest w mem)
  fresh := h.fresh

/-- With an empty queue, all that was rung for is ahead. -/
lemma seen (h : Attended ahead d) (empty : d.queue = 0) {w : ω} (mem : w ∈ d.rung) : ahead w := by
  rcases h.rung w mem with pos | ahead
  · omega
  · exact ahead

end Attended

end ModHttp3.Lib
