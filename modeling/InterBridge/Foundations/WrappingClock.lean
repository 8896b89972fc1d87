import Mathlib.Algebra.Group.Nat.Defs
import Mathlib.Tactic.Common

namespace Foundations
set_option autoImplicit true

/-- The 32-bit reading of a millisecond counter whose true value is `t`. -/
def ms32 (t : Nat) : UInt32 := UInt32.ofNat t

@[simp] theorem ms32_toNat (t : Nat) : (ms32 t).toNat = t % 2 ^ 32 := by
  simp [ms32]

theorem exists_ms32 (now : UInt32) : ∃ t, now = ms32 t := by
  refine ⟨now.toNat, UInt32.toNat_inj.mp ?_⟩
  rw [ms32_toNat, Nat.mod_eq_of_lt now.toNat_lt]

theorem ms32_add (t : Nat) (d : UInt32) : ms32 t + d = ms32 (t + d.toNat) := by
  apply UInt32.toNat_inj.mp
  simp only [UInt32.toNat_add, ms32_toNat]
  omega

theorem ms32_sub_toNat {s t : Nat} (h : s ≤ t) : (ms32 t - ms32 s).toNat = (t - s) % 2 ^ 32 := by
  simp only [UInt32.toNat_sub, ms32_toNat]
  omega

theorem ms32_sub_le {s t : Nat} (h : s ≤ t) : (ms32 t - ms32 s).toNat ≤ t - s := by
  rw [ms32_sub_toNat h]
  exact Nat.mod_le _ _

/-- A measured distance never exceeds the true one, however often the counter rolled over. -/
theorem elapsed_of_ms32_sub {s t : Nat} {d : UInt32} (h : s ≤ t) (hd : d ≤ ms32 t - ms32 s) :
    s + d.toNat ≤ t := by
  have hle := ms32_sub_le h
  have hd' := UInt32.le_iff_toNat_le.mp hd
  omega

theorem ms32_lt_iff {s t : Nat} : ms32 s < ms32 t ↔ s % 2 ^ 32 < t % 2 ^ 32 := by
  rw [UInt32.lt_iff_toNat_lt, ms32_toNat, ms32_toNat]

/-- Comparison by signed difference: `now` has reached `deadline`, and is less than half the
counter's range past it. -/
def reachedSigned (now deadline : UInt32) : Bool := 0 ≤ (now - deadline).toInt32

theorem reachedSigned_iff {now deadline : UInt32} :
    reachedSigned now deadline = true ↔ (now - deadline).toNat < 2 ^ 31 := by
  rw [reachedSigned, decide_eq_true_iff, Int32.le_iff_toInt_le]
  change (0 : Int) ≤ (now - deadline).toBitVec.toInt ↔ (now - deadline).toBitVec.toNat < 2 ^ 31
  rw [BitVec.toInt_eq_toNat_cond]
  split <;> omega

@[simp] theorem reachedSigned_self (now : UInt32) : reachedSigned now now = true := by
  rw [reachedSigned_iff, UInt32.sub_self]
  decide

@[simp] theorem reachedSigned_add_right (now deadline shift : UInt32) :
    reachedSigned (now + shift) (deadline + shift) = reachedSigned now deadline := by
  have hsub : now + shift - (deadline + shift) = now - deadline := by
    apply UInt32.toNat_inj.mp
    simp only [UInt32.toNat_sub, UInt32.toNat_add]
    have hnow := now.toNat_lt
    have hdeadline := deadline.toNat_lt
    have hshift := shift.toNat_lt
    omega
  rw [reachedSigned, hsub, reachedSigned]

theorem delayed_add_right (now delay shift : UInt32) :
    now + shift + delay = now + delay + shift := by
  rw [UInt32.add_assoc, UInt32.add_comm shift delay, UInt32.add_assoc]

/-- A deadline armed for less than half the counter's range is never reached early. -/
theorem le_of_reachedSigned {armed now : Nat} {delay : UInt32} (h : armed ≤ now)
    (hdelay : delay.toNat < 2 ^ 31)
    (hreached : reachedSigned (ms32 now) (ms32 armed + delay) = true) :
    armed + delay.toNat ≤ now := by
  rw [reachedSigned_iff, ms32_add, UInt32.toNat_sub, ms32_toNat, ms32_toNat] at hreached
  omega

/-- A deadline that has passed reads as reached for half the counter's range at least. -/
theorem reachedSigned_of_le {armed now : Nat} {delay : UInt32} (h : armed + delay.toNat ≤ now)
    (hnow : now < armed + 2 ^ 31) : reachedSigned (ms32 now) (ms32 armed + delay) = true := by
  rw [reachedSigned_iff, ms32_add, UInt32.toNat_sub, ms32_toNat, ms32_toNat]
  omega

/-- Seen less than half the counter's range past it, a deadline reads as reached exactly when it
has passed. -/
theorem reachedSigned_iff_le {armed now : Nat} {delay : UInt32} (h : armed ≤ now)
    (hdelay : delay.toNat < 2 ^ 31) (hnow : now < armed + delay.toNat + 2 ^ 31) :
    reachedSigned (ms32 now) (ms32 armed + delay) = true ↔ armed + delay.toNat ≤ now := by
  rw [reachedSigned_iff, ms32_add, UInt32.toNat_sub, ms32_toNat, ms32_toNat]
  omega

end Foundations
