import InterBridge.Foundations.PaddedOrder
import InterBridge.Ota.OtaManager
import Mathlib.Logic.Relation

namespace InterBridge
open Foundations
set_option autoImplicit true

/-- An update to the target that succeeded, whatever it called and found outside. -/
def Upgrades (current target : Bytes) : Prop :=
  ∃ (σ : Type) (platform : IOtaPlatform σ) (verifier : IFirmwareVerifier σ)
    (url expectedSha256 : Bytes) (outside : σ),
    ((OtaCoordinator.mk platform verifier current).apply target url expectedSha256 outside).1 =
      .success

/-- Being newer orders the versions up to those that are neither newer nor older, and upgrades
only go up in it. -/
structure NewerOrdersVersions : Prop where
  irrefl : ∀ a, ¬ isNewerVersion a a
  asymm : ∀ a b, isNewerVersion a b → ¬ isNewerVersion b a
  trans : ∀ a b c, isNewerVersion a b → isNewerVersion b c → isNewerVersion a c
  incomp_trans : ∀ a b c, ¬ isNewerVersion a b ∧ ¬ isNewerVersion b a →
    ¬ isNewerVersion b c ∧ ¬ isNewerVersion c b → ¬ isNewerVersion a c ∧ ¬ isNewerVersion c a
  neverReturns : ∀ first last, Relation.TransGen Upgrades first last →
    isNewerVersion last first

namespace FirmwareVersion

/-- The components, missing ones zero. -/
def rank (version : Bytes) : Lex (Nat → Int) := padded 0 (parseVersionComponents version)

theorem newerComponents_iff (n : Nat) (va vb : List Int) (ha : va.length ≤ n)
    (hb : vb.length ≤ n) : newerComponents n va vb ↔ padded 0 vb < padded 0 va := by
  induction n generalizing va vb with
  | zero =>
    rw [List.length_eq_zero_iff.mp (Nat.le_zero.mp ha),
      List.length_eq_zero_iff.mp (Nat.le_zero.mp hb)]
    exact ⟨Bool.noConfusion, fun h => absurd h (lt_irrefl _)⟩
  | succ n ih =>
    have htail (l : List Int) (hl : l.length ≤ n + 1) : l.tail.length ≤ n := by
      rw [List.length_tail]
      omega
    rw [padded_lt_iff, newerComponents]
    by_cases hhead : va.headD 0 = vb.headD 0
    · rw [if_neg (not_not.mpr hhead), ih _ _ (htail va ha) (htail vb hb), hhead]
      simp only [lt_irrefl, false_or, true_and]
    · rw [if_pos hhead, decide_eq_true_iff]
      simp only [Ne.symm hhead, false_and, or_false]

end FirmwareVersion

theorem isNewerVersion_iff (a b : Bytes) :
    isNewerVersion a b ↔ FirmwareVersion.rank b < FirmwareVersion.rank a :=
  FirmwareVersion.newerComponents_iff _ _ _ (Nat.le_max_left _ _) (Nat.le_max_right _ _)

theorem Upgrades.newer (h : Upgrades current target) : isNewerVersion target current := by
  obtain ⟨σ, platform, verifier, url, expectedSha256, outside, hsuccess⟩ := h
  by_contra holder
  rw [Bool.not_eq_true] at holder
  rw [OtaCoordinator.apply, holder] at hsuccess
  cases hsuccess

/-- A platform and a verifier that let everything pass. -/
def acceptingPlatform : IOtaPlatform Unit where
  downloadAndHash _ := pure (some [])
  installAndReboot := pure true
  confirmBootOrRollback := pure true

def acceptingVerifier : IFirmwareVerifier Unit where
  verifySha256 _ _ := pure true
  verifySignature _ _ := pure true

example : Upgrades (ascii "1.9") (ascii "1.10") :=
  ⟨Unit, acceptingPlatform, acceptingVerifier, [], [], (), by decide⟩

theorem upgrades_newer (h : Relation.TransGen Upgrades first last) :
    FirmwareVersion.rank first < FirmwareVersion.rank last := by
  induction h with
  | single hup => exact (isNewerVersion_iff _ _).mp hup.newer
  | tail _ hup ih => exact ih.trans ((isNewerVersion_iff _ _).mp hup.newer)

theorem isNewerVersion_orders : NewerOrdersVersions where
  irrefl a := by
    rw [isNewerVersion_iff]
    exact lt_irrefl _
  asymm a b := by
    rw [isNewerVersion_iff, isNewerVersion_iff]
    exact lt_asymm
  trans a b c := by
    rw [isNewerVersion_iff, isNewerVersion_iff, isNewerVersion_iff]
    intro hab hbc
    exact hbc.trans hab
  incomp_trans a b c := by
    simp only [isNewerVersion_iff]
    intro hab hbc
    have hac := (not_lt.mp hab.1).trans (not_lt.mp hbc.1)
    have hca := (not_lt.mp hbc.2).trans (not_lt.mp hab.2)
    exact ⟨not_lt.mpr hac, not_lt.mpr hca⟩
  neverReturns first last h := by
    rw [isNewerVersion_iff]
    exact upgrades_newer h

end InterBridge
