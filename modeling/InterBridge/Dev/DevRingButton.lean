import InterBridge.Foundations.WrappingClock

namespace InterBridge
open Foundations

def kDevRingButtonDebounceMs : UInt32 := 50

def kDevRingButtonLockoutMs : UInt32 := 250

structure DevRingButtonController where
  debounceMs : UInt32 := kDevRingButtonDebounceMs
  lockoutMs : UInt32 := kDevRingButtonLockoutMs
  rawPressedLast : Bool := false
  lastRawChangeMs : UInt32 := 0
  hasLastRawChange : Bool := false
  debouncedPressed : Bool := false
  lockoutActive : Bool := false
  lockoutUntilMs : UInt32 := 0
  deriving DecidableEq

namespace DevRingButtonController

def deadlineReached (nowMs deadlineMs : UInt32) : Bool := reachedSigned nowMs deadlineMs

/-- Whether the pulse is reported is returned too. -/
def update (c : DevRingButtonController) (raw : Bool) (nowMs : UInt32) :
    DevRingButtonController × Bool :=
  let c :=
    if !c.hasLastRawChange || raw != c.rawPressedLast then
      { c with rawPressedLast := raw, lastRawChangeMs := nowMs, hasLastRawChange := true }
    else c
  let stable := c.debounceMs ≤ nowMs - c.lastRawChangeMs
  let newDebounced := if stable then raw else c.debouncedPressed
  let c :=
    if c.lockoutActive && deadlineReached nowMs c.lockoutUntilMs then
      { c with lockoutActive := false }
    else c
  let risingEdge := newDebounced && !c.debouncedPressed
  let c := { c with debouncedPressed := newDebounced }
  if !risingEdge then (c, false)
  -- an edge inside the lockout is dropped and does not extend it
  else if c.lockoutActive then (c, false)
  else ({ c with lockoutActive := true, lockoutUntilMs := nowMs + c.lockoutMs }, true)

end DevRingButtonController
end InterBridge
