import Mathlib.Algebra.Group.Nat.Defs
import Mathlib.Logic.Function.Iterate
import Mathlib.Tactic.Common

namespace Foundations
set_option autoImplicit true

/-- What is left of `floor` after `k` doublings that stop at `cap`. -/
def rung (floor cap k : Nat) : Nat := min cap (floor * 2 ^ k)

theorem rung_zero (h : floor ≤ cap) : rung floor cap 0 = floor := by
  rw [rung, Nat.pow_zero, Nat.mul_one]
  exact Nat.min_eq_right h

theorem rung_succ (floor cap k : Nat) :
    rung floor cap (k + 1) = min cap (rung floor cap k * 2) := by
  rw [rung, rung, Nat.pow_succ, ← Nat.mul_assoc]
  omega

theorem rung_le_cap (floor cap k : Nat) : rung floor cap k ≤ cap := Nat.min_le_left _ _

theorem floor_le_rung (h : floor ≤ cap) (k : Nat) : floor ≤ rung floor cap k := by
  induction k with
  | zero => exact Nat.le_of_eq (rung_zero h).symm
  | succ k ih =>
    rw [rung_succ]
    omega

theorem rung_le_add (floor cap k n : Nat) : rung floor cap k ≤ rung floor cap (k + n) := by
  induction n with
  | zero => exact Nat.le_refl _
  | succ n ih =>
    apply Nat.le_trans ih
    rw [← Nat.add_assoc, rung_succ]
    have hcap := rung_le_cap floor cap (k + n)
    omega

/-- A function that takes every rung to the next one climbs one rung each time. -/
theorem rung_iterate {value : α → Nat} {grow : α → α}
    (hgrow : ∀ a, value a ≤ cap → value (grow a) = min cap (value a * 2))
    (h : value a = rung floor cap k) (n : Nat) : value (grow^[n] a) = rung floor cap (k + n) := by
  induction n generalizing a k with
  | zero => exact h
  | succ n ih =>
    have hnext : value (grow a) = rung floor cap (k + 1) := by
      rw [hgrow a (h ▸ rung_le_cap floor cap k), h, rung_succ]
    have hclimbed : k + (n + 1) = k + 1 + n := by omega
    rw [hclimbed]
    exact ih hnext

end Foundations
