import Mathlib.Data.List.Rotate
import Mathlib.Tactic.Common

/-!
# Rotating cursors

A cursor into `n` slots that moves around cyclically. `ahead n cursor p` is how many slots lie
between the cursor and the slot `p`: a walk from the cursor on comes to `p` after that many slots
(`ahead_spec`), and a cursor that moves on without passing `p` comes closer to it (`ahead_advance`).
A list that is walked from the cursor on is its rotation.
-/

namespace ModHttp3.Lib
variable {n cursor p k : Nat}

/-- How far it is from the cursor to a slot. -/
def ahead (n cursor p : Nat) : Nat := if cursor % n ≤ p then p - cursor % n else p + n - cursor % n

/-- Every slot is less than one round ahead of the cursor. -/
lemma ahead_lt (cursor : Nat) (lt : p < n) : ahead n cursor p < n := by
  rw [ahead]
  split <;> omega

/-- From the cursor, that many steps lead to the slot. -/
lemma ahead_spec (cursor : Nat) (lt : p < n) : (ahead n cursor p + cursor % n) % n = p := by
  have start := Nat.mod_lt cursor (Nat.zero_lt_of_lt lt)
  rw [ahead]
  split
  · rw [Nat.sub_add_cancel ‹_›]
    exact Nat.mod_eq_of_lt lt
  · rw [Nat.sub_add_cancel (by omega), Nat.add_mod_right]
    exact Nat.mod_eq_of_lt lt

/-- A cursor that has not passed the slot has come closer to it. -/
lemma ahead_advance (lt : p < n) (le : k ≤ ahead n cursor p) :
    ahead n ((cursor % n + k) % n) p + k = ahead n cursor p := by
  have start := Nat.mod_lt cursor (Nat.zero_lt_of_lt lt)
  have near := ahead_lt cursor lt
  rw [ahead] at le near ⊢
  rw [Nat.mod_mod]
  by_cases around : n ≤ cursor % n + k
  -- the cursor has passed the last slot, so `p` was behind it and is in front of it now
  · have moved : (cursor % n + k) % n = cursor % n + k - n := by
      rw [Nat.mod_eq_sub_mod around]
      exact Nat.mod_eq_of_lt (by omega)
    have behind : ¬cursor % n ≤ p := by
      intro front
      rw [if_pos front] at le
      omega
    rw [if_neg behind] at le
    rw [ahead, moved, if_neg behind, if_pos (by omega)]
    omega
  · have moved : (cursor % n + k) % n = cursor % n + k := Nat.mod_eq_of_lt (Nat.lt_of_not_le around)
    rw [ahead, moved]
    split at le
    · rw [if_pos (by omega), if_pos ‹_›]
      omega
    · rw [if_neg (by omega), if_neg ‹_›]
      omega

end ModHttp3.Lib
