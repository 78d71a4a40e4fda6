import Mathlib.Algebra.GroupWithZero.Nat
import Mathlib.Data.Nat.Basic
import Mathlib.Tactic.Common

/-!
# Unsigned machine words

`size_t` arithmetic on a 64-bit target: values are natural numbers below `2 ^ 64`, addition and
subtraction wrap. `sizeAdd_of_lt` and `sizeSub_of_le` are the rules that discharge the wrap.

`checkedAdd`, `checkedSub` and `checkedMul` are the same operations with no result where `size_t`
would wrap; a function that is written with them and returns has not wrapped anywhere.
-/

namespace ModHttp3.Lib

/-- The largest `size_t`. -/
def sizeMax : Nat := 2 ^ 64 - 1

/-- Wrapping addition. -/
def sizeAdd (a b : Nat) : Nat := (a + b) % 2 ^ 64

/-- Wrapping subtraction. -/
def sizeSub (a b : Nat) : Nat := (a + (2 ^ 64 - b % 2 ^ 64)) % 2 ^ 64

/-- An addition that stays in range does not wrap. -/
lemma sizeAdd_of_lt {a b : Nat} (h : a + b < 2 ^ 64) : sizeAdd a b = a + b :=
  Nat.mod_eq_of_lt h

/-- A subtraction of a smaller number does not wrap. -/
lemma sizeSub_of_le {a b : Nat} (h : b ≤ a) (ha : a < 2 ^ 64) : sizeSub a b = a - b := by
  unfold sizeSub
  rw [Nat.mod_eq_of_lt (Nat.lt_of_le_of_lt h ha)]
  rw [show a + (2 ^ 64 - b) = (a - b) + 2 ^ 64 from by omega, Nat.add_mod_right]
  exact Nat.mod_eq_of_lt (by omega)

/-- Addition with no result where it would wrap. -/
def checkedAdd (a b : Nat) : Option Nat := if a + b < 2 ^ 64 then some (a + b) else none

/-- Subtraction with no result where it would wrap. -/
def checkedSub (a b : Nat) : Option Nat := if b ≤ a then some (a - b) else none

/-- Multiplication with no result where it would wrap. -/
def checkedMul (a b : Nat) : Option Nat := if a * b < 2 ^ 64 then some (a * b) else none

/-- Nothing to check, or a subtraction that does not wrap: with `check` there is no result where it
would. -/
def noWrap (check : Bool) (a b : Nat) : Option Unit :=
  if check = true ∧ a < b then none else some ()

/-- Without the check every subtraction goes through. -/
@[simp] lemma noWrap_false (a b : Nat) : noWrap false a b = some () := rfl

/-- A subtraction of a smaller number passes the check. -/
lemma noWrap_of_le {a b : Nat} (check : Bool) (h : b ≤ a) : noWrap check a b = some () :=
  if_neg fun bad => Nat.not_lt.mpr h bad.2

/-- A sum that fits is not refused. -/
lemma checkedAdd_of_lt {a b : Nat} (h : a + b < 2 ^ 64) : checkedAdd a b = some (a + b) := if_pos h

/-- A difference that does not wrap is not refused. -/
lemma checkedSub_of_le {a b : Nat} (h : b ≤ a) : checkedSub a b = some (a - b) := if_pos h

/-- A product that fits is not refused. -/
lemma checkedMul_of_lt {a b : Nat} (h : a * b < 2 ^ 64) : checkedMul a b = some (a * b) := if_pos h

end ModHttp3.Lib
