import Mathlib.Tactic.Common

namespace InterBridge

def kReconnectInitialDelayMs : UInt32 := 1000

def kReconnectMaxDelayMs : UInt32 := 300000

/-- The four bytes a call of the random source fills in. -/
structure RandomBytes where
  b0 : UInt8
  b1 : UInt8
  b2 : UInt8
  b3 : UInt8
  deriving DecidableEq

def RandomBytes.raw (bytes : RandomBytes) : UInt32 :=
  bytes.b0.toUInt32 <<< 24 ||| bytes.b1.toUInt32 <<< 16 ||| bytes.b2.toUInt32 <<< 8 |||
    bytes.b3.toUInt32

structure ReconnectManager where
  initialDelayMs : UInt32 := kReconnectInitialDelayMs
  maxDelayMs : UInt32 := kReconnectMaxDelayMs
  attempt : Nat := 0
  deriving DecidableEq

namespace ReconnectManager

/-- The largest delay of the current attempt. -/
def cap (m : ReconnectManager) : UInt32 :=
  let cappedAttempt := min m.attempt 31
  let exponential := m.initialDelayMs.toUInt64 <<< cappedAttempt.toUInt64
  (min exponential m.maxDelayMs.toUInt64).toUInt32

def nextDelayMs (m : ReconnectManager) (bytes : RandomBytes) : ReconnectManager × UInt32 :=
  ({ m with attempt := m.attempt + 1 }, bytes.raw % (m.cap + 1))

def reset (m : ReconnectManager) : ReconnectManager := { m with attempt := 0 }

end ReconnectManager
end InterBridge
