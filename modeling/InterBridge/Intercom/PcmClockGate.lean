import InterBridge.Intercom.PcmClock
import Mathlib.Algebra.Group.Nat.Defs

namespace InterBridge
open Foundations
set_option autoImplicit true

theorem si3050PcmConfigurationSupported_iff (pclkHz fsyncHz : UInt32) :
    si3050PcmConfigurationSupported pclkHz fsyncHz = true ↔
      fsyncHz ≠ 0 ∧ pclkHz.toNat = 128 * fsyncHz.toNat % 2 ^ 32 := by
  rw [si3050PcmConfigurationSupported, Bool.and_eq_true, bne_iff_ne, beq_iff_eq,
    ← UInt32.toNat_inj, Nat.mul_comm 128]
  exact Iff.rfl

theorem Esp32PcmClock.start_install {c : Esp32PcmClock} {i2s : I2sResults}
    (h : .driverInstall config result ∈ (c.start pclkHz fsyncHz i2s).2) :
    si3050PcmConfigurationSupported pclkHz fsyncHz = true ∧ config = tdmConfig fsyncHz := by
  rw [start] at h
  split at h
  · cases h
  split at h
  · cases h
  next hsupported =>
    rw [Bool.not_eq_true', Bool.not_eq_false] at hsupported
    refine ⟨hsupported, ?_⟩
    dsimp only [rollbackAfterBringupFailure] at h
    split at h
    · simp only [List.mem_singleton, I2sCall.driverInstall.injEq] at h
      exact h.1
    split at h
    · simp only [List.mem_cons, List.not_mem_nil, or_false, I2sCall.driverInstall.injEq,
        reduceCtorEq] at h
      exact h.1
    split at h
    · simp only [List.mem_cons, List.not_mem_nil, or_false, I2sCall.driverInstall.injEq,
        reduceCtorEq] at h
      exact h.1
    · simp only [List.mem_cons, List.not_mem_nil, or_false, I2sCall.driverInstall.injEq,
        reduceCtorEq] at h
      exact h.1

/-- The gate lets a pair of rates pass exactly if the TDM geometry produces the one from the other,
and the driver is installed for no other bit clock. -/
def PcmGateExact (pclkHz fsyncHz : UInt32) : Prop :=
  (si3050PcmConfigurationSupported pclkHz fsyncHz = true ↔
      fsyncHz ≠ 0 ∧ pclkHz.toNat = 16 * 8 * fsyncHz.toNat) ∧
    ∀ (c : Esp32PcmClock) i2s config result,
      .driverInstall config result ∈ (c.start pclkHz fsyncHz i2s).2 →
      config.bitClockHz = pclkHz.toNat

/-- The gate is exact for the pairs whose product does not come out right only by wrapping. -/
theorem pcmGateExact_iff (pclkHz fsyncHz : UInt32) :
    PcmGateExact pclkHz fsyncHz ↔
      fsyncHz.toNat < 2 ^ 25 ∨ pclkHz.toNat ≠ 128 * fsyncHz.toNat % 2 ^ 32 := by
  have hgate := si3050PcmConfigurationSupported_iff pclkHz fsyncHz
  have hpclk := pclkHz.toNat_lt
  constructor
  · intro h
    by_contra hwraps
    rw [not_or, Nat.not_lt, not_not] at hwraps
    have hne : fsyncHz ≠ 0 := by
      intro hzero
      rw [hzero] at hwraps
      exact absurd hwraps.1 (by decide)
    have hexact := (h.1.mp (hgate.mpr ⟨hne, hwraps.2⟩)).2
    omega
  · intro h
    have hsupported : si3050PcmConfigurationSupported pclkHz fsyncHz = true ↔
        fsyncHz ≠ 0 ∧ pclkHz.toNat = 16 * 8 * fsyncHz.toNat := by
      rw [hgate]
      refine and_congr_right fun _ => ?_
      rcases h with hsmall | hne
      · omega
      · refine iff_of_false hne fun hexact => ?_
        omega
    refine ⟨hsupported, fun c i2s config result hinstall => ?_⟩
    obtain ⟨hpair, rfl⟩ := Esp32PcmClock.start_install hinstall
    rw [(hsupported.mp hpair).2, Nat.mul_comm]
    rfl

/-- 1.024 MHz passes for a frame rate of 8 kHz and also for one of 8 kHz above 2^25 Hz, for which
the driver would be installed with a bit clock of over 4 GHz. -/
theorem pcmGate_wraps : ¬ PcmGateExact 1024000 33562432 := by
  intro h
  exact absurd (h.1.mp rfl).2 (by decide)

end InterBridge
