import InterBridge.Foundations.Transitions
import InterBridge.Network.ReconnectManager
import Mathlib.Algebra.Group.Nat.Defs
import Mathlib.Data.List.Induction

namespace InterBridge
open Foundations
set_option autoImplicit true

namespace RandomBytes

theorem toNat_shifted (b : UInt8) {k : UInt32} (hk : k.toNat ≤ 24) :
    (b.toUInt32 <<< k).toNat = b.toNat <<< k.toNat := by
  have hb := b.toNat_lt
  have hpow : 2 ^ k.toNat ≤ 2 ^ 24 := Nat.pow_le_pow_right (by decide) hk
  have hmul : b.toNat * 2 ^ k.toNat < 2 ^ 32 := by
    calc b.toNat * 2 ^ k.toNat < 2 ^ 8 * 2 ^ k.toNat :=
          Nat.mul_lt_mul_of_pos_right hb (Nat.two_pow_pos _)
      _ ≤ 2 ^ 8 * 2 ^ 24 := Nat.mul_le_mul_left _ hpow
      _ = 2 ^ 32 := rfl
  rw [UInt32.toNat_shiftLeft, UInt8.toNat_toUInt32, Nat.mod_eq_of_lt (by omega : k.toNat < 32),
    Nat.shiftLeft_eq, Nat.mod_eq_of_lt hmul]

theorem toNat_raw (bytes : RandomBytes) : bytes.raw.toNat =
    ((bytes.b0.toNat * 256 + bytes.b1.toNat) * 256 + bytes.b2.toNat) * 256 + bytes.b3.toNat := by
  have happend (high : Nat) (low : UInt8) :
      high <<< 8 ||| low.toNat = high * 256 + low.toNat := by
    rw [← Nat.shiftLeft_add_eq_or_of_lt low.toNat_lt, Nat.shiftLeft_eq]
  rw [← happend, ← happend, ← happend, raw, UInt32.toNat_or, UInt32.toNat_or, UInt32.toNat_or,
    toNat_shifted _ (by decide), toNat_shifted _ (by decide), toNat_shifted _ (by decide),
    UInt8.toNat_toUInt32]
  simp only [Nat.shiftLeft_or_distrib, ← Nat.shiftLeft_add]
  rfl

theorem exists_raw (n : UInt32) : ∃ bytes : RandomBytes, bytes.raw = n := by
  have hn := n.toNat_lt
  refine ⟨⟨.ofNat (n.toNat / 2 ^ 24), .ofNat (n.toNat / 2 ^ 16), .ofNat (n.toNat / 2 ^ 8),
    .ofNat n.toNat⟩, ?_⟩
  rw [← UInt32.toNat_inj, toNat_raw]
  simp only [UInt8.toNat_ofNat']
  omega

end RandomBytes

namespace ReconnectManager

/-- The delay's bound before it is held below the greatest one. -/
def exponential (m : ReconnectManager) : UInt64 :=
  m.initialDelayMs.toUInt64 <<< (min m.attempt 31).toUInt64

inductive Call where
  | nextDelayMs (bytes : RandomBytes)
  | reset

def call (m : ReconnectManager) : Call → ReconnectManager × Option UInt32
  | .nextDelayMs bytes =>
    let (m, delay) := m.nextDelayMs bytes
    (m, some delay)
  | .reset => (m.reset, none)

/-- How many delays have been asked for since the start or the last reset. -/
def delaysSinceReset (calls : List Call) : Nat :=
  calls.foldl (fun n call => match call with | .nextDelayMs _ => n + 1 | .reset => 0) 0

def formula (initialDelayMs maxDelayMs : UInt32) (n : Nat) : Nat :=
  min maxDelayMs.toNat (initialDelayMs.toNat * 2 ^ n)

/-- The next delay is any from zero up to the bound, computed without loss. -/
structure FollowsFormula (m : ReconnectManager) (bound : Nat) : Prop where
  cap : m.cap.toNat = bound
  inRange : ∀ bytes, (m.nextDelayMs bytes).2.toNat ≤ bound
  reached : ∀ delay ≤ bound, ∃ bytes, (m.nextDelayMs bytes).2.toNat = delay
  divisor : m.cap + 1 ≠ 0
  shift : m.exponential.toNat = m.initialDelayMs.toNat * 2 ^ min m.attempt 31
  cast : (min m.exponential m.maxDelayMs.toUInt64).toUInt32.toNat =
    (min m.exponential m.maxDelayMs.toUInt64).toNat
  increment : (m.cap + 1).toNat = m.cap.toNat + 1

/-- The bound stays below the greatest 32-bit number, and no doubling beyond the 31st is
missed. -/
def Representable (initialDelayMs maxDelayMs : UInt32) (n : Nat) : Prop :=
  (maxDelayMs.toNat = 2 ^ 32 - 1 → initialDelayMs.toNat * 2 ^ min n 31 < 2 ^ 32 - 1) ∧
    (31 < n → initialDelayMs = 1 → maxDelayMs.toNat ≤ 2 ^ 31)

theorem after_calls (initialDelayMs maxDelayMs : UInt32) (calls : List Call) :
    finalState call { initialDelayMs, maxDelayMs } calls =
      { initialDelayMs, maxDelayMs, attempt := delaysSinceReset calls } := by
  induction calls using List.reverseRecOn with
  | nil => rfl
  | append_singleton calls last ih =>
    rw [finalState_append, ih]
    simp only [delaysSinceReset, List.foldl_append]
    cases last with
    | nextDelayMs bytes => rfl
    | reset => rfl

theorem toNat_exponential (m : ReconnectManager) :
    m.exponential.toNat = m.initialDelayMs.toNat * 2 ^ min m.attempt 31 := by
  have hk : min m.attempt 31 < 2 ^ 64 := by omega
  have hpow : 2 ^ min m.attempt 31 ≤ 2 ^ 31 := Nat.pow_le_pow_right (by decide) (by omega)
  have hmul : m.initialDelayMs.toNat * 2 ^ min m.attempt 31 < 2 ^ 64 := by
    calc m.initialDelayMs.toNat * 2 ^ min m.attempt 31
        ≤ 2 ^ 32 * 2 ^ 31 := Nat.mul_le_mul (Nat.le_of_lt m.initialDelayMs.toNat_lt) hpow
      _ < 2 ^ 64 := by decide
  have hto : (min m.attempt 31).toUInt64.toNat = min m.attempt 31 := by
    rw [Nat.toUInt64_eq, UInt64.toNat_ofNat', Nat.mod_eq_of_lt hk]
  rw [exponential, UInt64.toNat_shiftLeft, hto, UInt32.toNat_toUInt64,
    Nat.mod_eq_of_lt (by omega : min m.attempt 31 < 64), Nat.shiftLeft_eq,
    Nat.mod_eq_of_lt hmul]

theorem toNat_narrowed (m : ReconnectManager) :
    (min m.exponential m.maxDelayMs.toUInt64).toUInt32.toNat =
      (min m.exponential m.maxDelayMs.toUInt64).toNat := by
  have hmax := m.maxDelayMs.toNat_lt
  have hle : (min m.exponential m.maxDelayMs.toUInt64).toNat ≤ m.maxDelayMs.toNat := by
    rw [UInt64.toNat_min, UInt32.toNat_toUInt64]
    exact Nat.min_le_right _ _
  rw [UInt64.toNat_toUInt32, Nat.mod_eq_of_lt (by omega)]

theorem toNat_cap (m : ReconnectManager) :
    m.cap.toNat = formula m.initialDelayMs m.maxDelayMs (min m.attempt 31) := by
  have hcap : m.cap = (min m.exponential m.maxDelayMs.toUInt64).toUInt32 := rfl
  rw [hcap, toNat_narrowed, UInt64.toNat_min, toNat_exponential, UInt32.toNat_toUInt64, formula,
    Nat.min_comm]

theorem toNat_cap_add_one {m : ReconnectManager} (h : m.cap.toNat ≠ 2 ^ 32 - 1) :
    (m.cap + 1).toNat = m.cap.toNat + 1 := by
  have hlt := m.cap.toNat_lt
  rw [UInt32.toNat_add, UInt32.toNat_one, Nat.mod_eq_of_lt (by omega)]

theorem followsFormula_iff (m : ReconnectManager) (bound : Nat) :
    m.FollowsFormula bound ↔ m.cap.toNat = bound ∧ m.cap.toNat ≠ 2 ^ 32 - 1 := by
  constructor
  · intro h
    refine ⟨h.cap, ?_⟩
    intro hgreatest
    apply h.divisor
    rw [← UInt32.toNat_inj, UInt32.toNat_add, hgreatest]
    rfl
  · rintro ⟨hcap, hroom⟩
    have hincrement := toNat_cap_add_one hroom
    refine ⟨hcap, ?_, ?_, ?_, m.toNat_exponential, m.toNat_narrowed, hincrement⟩
    · intro bytes
      change (bytes.raw % (m.cap + 1)).toNat ≤ bound
      rw [UInt32.toNat_mod, hincrement, ← hcap]
      exact Nat.le_of_lt_succ (Nat.mod_lt _ (Nat.succ_pos _))
    · intro delay hdelay
      have hlt := m.cap.toNat_lt
      obtain ⟨bytes, hraw⟩ := RandomBytes.exists_raw (.ofNat delay)
      refine ⟨bytes, ?_⟩
      change (bytes.raw % (m.cap + 1)).toNat = delay
      rw [hraw, UInt32.toNat_mod, hincrement, UInt32.toNat_ofNat', Nat.mod_eq_of_lt (by omega),
        Nat.mod_eq_of_lt (by omega)]
    · intro hzero
      rw [hzero] at hincrement
      exact absurd hincrement.symm (Nat.succ_ne_zero _)

theorem formula_clamped_iff (initialDelayMs maxDelayMs : UInt32) (n : Nat) :
    (formula initialDelayMs maxDelayMs (min n 31) = formula initialDelayMs maxDelayMs n ∧
      formula initialDelayMs maxDelayMs (min n 31) ≠ 2 ^ 32 - 1) ↔
      Representable initialDelayMs maxDelayMs n := by
  have hmax := maxDelayMs.toNat_lt
  have hone : initialDelayMs = 1 ↔ initialDelayMs.toNat = 1 := by
    rw [← UInt32.toNat_inj, UInt32.toNat_one]
  rw [Representable, hone, formula, formula]
  rcases Nat.lt_or_ge 31 n with hn | hn
  · rw [Nat.min_eq_right (Nat.le_of_lt hn)]
    have hdouble : 2 ^ 32 ≤ 2 ^ n := Nat.pow_le_pow_right Nat.two_pos hn
    rcases Nat.lt_trichotomy initialDelayMs.toNat 1 with hzero | hinitial | hmore
    · rw [Nat.lt_one_iff.mp hzero]
      omega
    · rw [hinitial]
      omega
    · have hpow : 2 * 2 ^ 31 ≤ initialDelayMs.toNat * 2 ^ 31 := Nat.mul_le_mul_right _ hmore
      have hmul : 2 * 2 ^ n ≤ initialDelayMs.toNat * 2 ^ n := Nat.mul_le_mul_right _ hmore
      omega
  · rw [Nat.min_eq_left hn]
    omega

/-- Every delay follows the formula exactly where the bound has room for one more and no
doubling is missed. -/
theorem followsFormula_iff_representable (initialDelayMs maxDelayMs : UInt32)
    (calls : List Call) :
    (finalState call { initialDelayMs, maxDelayMs } calls).FollowsFormula
        (formula initialDelayMs maxDelayMs (delaysSinceReset calls)) ↔
      Representable initialDelayMs maxDelayMs (delaysSinceReset calls) := by
  rw [after_calls, followsFormula_iff, toNat_cap]
  exact formula_clamped_iff _ _ _

/-- With the greatest 32-bit number as the longest delay, the 24th delay is taken modulo zero. -/
theorem greatestDelay_divides_by_zero :
    let calls := List.replicate 23 (Call.nextDelayMs ⟨0, 0, 0, 0⟩)
    let m := finalState call { initialDelayMs := 1000, maxDelayMs := 0xFFFFFFFF } calls
    m.cap + 1 = 0 ∧ ¬ m.FollowsFormula (formula 1000 0xFFFFFFFF (delaysSinceReset calls)) := by
  intro calls m
  have hzero : m.cap + 1 = 0 := by decide
  refine ⟨hzero, ?_⟩
  intro h
  exact h.divisor hzero

end ReconnectManager
end InterBridge
