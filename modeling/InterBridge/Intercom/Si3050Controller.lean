import Mathlib.Algebra.Order.Floor.Div
import Mathlib.Order.Bounds.Basic
import Mathlib.Tactic.Common

namespace InterBridge
set_option autoImplicit true

def kSi3050MinPclkCyclesBeforeResetRelease : UInt32 := 10

/-- The product is taken in 64 bits. -/
def si3050CyclesToMicroseconds (cycles pclkHz : UInt32) : UInt32 :=
  ((cycles.toUInt64 * 1000000 + pclkHz.toUInt64 - 1) / pclkHz.toUInt64).toUInt32

def si3050PllSettleMicroseconds (pclkHz : UInt32) : UInt32 := si3050CyclesToMicroseconds 64 pclkHz

structure Si3050Config where
  pclkHz : UInt32 := 1024000
  fsyncHz : UInt32 := 8000
  deriving DecidableEq

inductive Si3050InitResult where
  | ready | invalidConfig | clockNotRunning
  deriving DecidableEq

/-- A call of one of the five collaborators; what the clock and the bus answer is part of it. -/
inductive Si3050Call where
  | busBegin
  | setChipSelect (selected : Bool)
  | holdClockIdleHigh
  | transfer (out answer : UInt8)
  | setAsserted (asserted : Bool)
  | clockStart (pclkHz fsyncHz : UInt32)
  | clockIsRunning (answer : Bool)
  | delayMicroseconds (microseconds : UInt32)
  deriving DecidableEq

structure Si3050Controller where
  config : Si3050Config := {}
  ready : Bool := false
  deriving DecidableEq

namespace Si3050Controller

/-- `isRunning` is what the clock answers after it was started; the calls made are returned too. -/
def initializeSequence (c : Si3050Controller) (isRunning : Bool) :
    Si3050Controller × Si3050InitResult × List Si3050Call :=
  if c.ready then (c, .ready, [])
  else if c.config.pclkHz = 0 ∨ c.config.fsyncHz = 0 then
    (c, .invalidConfig, [.setAsserted true])
  else
    let calls := [.busBegin, .setChipSelect false, .setAsserted true, .holdClockIdleHigh,
      .clockStart c.config.pclkHz c.config.fsyncHz, .clockIsRunning isRunning]
    if !isRunning then (c, .clockNotRunning, calls)
    else
      let tmr := si3050CyclesToMicroseconds kSi3050MinPclkCyclesBeforeResetRelease c.config.pclkHz
      ({ c with ready := true }, .ready, calls ++ [.delayMicroseconds tmr, .setAsserted false,
        .delayMicroseconds (si3050PllSettleMicroseconds c.config.pclkHz)])

def isReady (c : Si3050Controller) : Bool := c.ready

def transferRaw (c : Si3050Controller) (out answer : UInt8) : Option UInt8 × List Si3050Call :=
  if !c.ready then (none, []) else (some answer, [.transfer out answer])

end Si3050Controller

/-- The wait is the shortest one in whole microseconds that covers the cycles. -/
def ShortestWait (cycles : Nat) (pclkHz : UInt32) (wait : UInt32) : Prop :=
  IsLeast {d : Nat | cycles * 10 ^ 6 ≤ d * pclkHz.toNat} wait.toNat

/-- The wait computed for the cycles: the divisor is not zero, and no step wraps. -/
structure WaitExact (cycles pclkHz : UInt32) : Prop where
  divisor : pclkHz.toUInt64 ≠ 0
  dividend : (cycles.toUInt64 * 1000000 + pclkHz.toUInt64 - 1).toNat =
    cycles.toNat * 10 ^ 6 + pclkHz.toNat - 1
  wait : (si3050CyclesToMicroseconds cycles pclkHz).toNat =
    (cycles.toNat * 10 ^ 6) ⌈/⌉ pclkHz.toNat

theorem toNat_pos {n : UInt32} (h : n ≠ 0) : 0 < n.toNat :=
  Nat.pos_of_ne_zero fun hzero => h (UInt32.toNat_inj.mp hzero)

theorem si3050Wait_dividend (cycles : UInt32) {pclkHz : UInt32} (hpclk : pclkHz ≠ 0) :
    (cycles.toUInt64 * 1000000 + pclkHz.toUInt64 - 1).toNat =
      cycles.toNat * 10 ^ 6 + pclkHz.toNat - 1 := by
  have hpos := toNat_pos hpclk
  have hpclk' := pclkHz.toNat_lt
  have hcycles := cycles.toNat_lt
  have hone : (1 : UInt64).toNat = 1 := rfl
  have hmillion : (1000000 : UInt64).toNat = 1000000 := rfl
  rw [UInt64.toNat_sub, UInt64.toNat_add, UInt64.toNat_mul, UInt32.toNat_toUInt64,
    UInt32.toNat_toUInt64, hone, hmillion]
  omega

theorem waitExact {cycles pclkHz : UInt32} (hcycles : cycles ≤ 64) (hpclk : pclkHz ≠ 0) :
    WaitExact cycles pclkHz := by
  have hpos := toNat_pos hpclk
  have hdividend := si3050Wait_dividend cycles hpclk
  refine ⟨fun h => ?_, hdividend, ?_⟩
  · rw [← UInt64.toNat_inj, UInt32.toNat_toUInt64] at h
    exact hpos.ne' h
  · have hle : (cycles.toNat * 10 ^ 6) ⌈/⌉ pclkHz.toNat ≤ 64 * 10 ^ 6 := by
      rw [ceilDiv_le_iff_le_mul hpos]
      exact (Nat.mul_le_mul_right _ (UInt32.le_iff_toNat_le.mp hcycles)).trans
        (Nat.le_mul_of_pos_left _ hpos)
    rw [si3050CyclesToMicroseconds, UInt64.toNat_toUInt32, UInt64.toNat_div, hdividend,
      UInt32.toNat_toUInt64, ← Nat.ceilDiv_eq_add_pred_div]
    exact Nat.mod_eq_of_lt (hle.trans_lt (by decide))

theorem si3050CyclesToMicroseconds_shortest (cycles : UInt32) {pclkHz : UInt32}
    (hcycles : cycles ≤ 64) (hpclk : pclkHz ≠ 0) :
    ShortestWait cycles.toNat pclkHz (si3050CyclesToMicroseconds cycles pclkHz) := by
  have hpos := toNat_pos hpclk
  rw [ShortestWait, (waitExact hcycles hpclk).wait]
  constructor
  · change _ ≤ _ * pclkHz.toNat
    rw [Nat.mul_comm _ pclkHz.toNat, ← ceilDiv_le_iff_le_mul hpos]
  · intro d hd
    rw [ceilDiv_le_iff_le_mul hpos, Nat.mul_comm pclkHz.toNat]
    exact hd

end InterBridge
