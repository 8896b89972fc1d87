import Mathlib.Tactic.Common
import InterBridge.Foundations.Json

namespace InterBridge
open Foundations
set_option autoImplicit true

inductive EventType where
  | ringDetected | offHook | onHook | doorOpenRequested | callStarted | callEnded
  | wifiConnected | wifiDisconnected
  deriving DecidableEq

inductive State where
  | boot | idle | ringing | inCall | error
  deriving DecidableEq

inductive ProtocolIntercomState where
  | idle | ringing | offHook | inCall | error
  deriving DecidableEq

def ProtocolIntercomState.toString : ProtocolIntercomState → Bytes
  | .idle => ascii "IDLE"
  | .ringing => ascii "RINGING"
  | .offHook => ascii "OFF_HOOK"
  | .inCall => ascii "IN_CALL"
  | .error => ascii "ERROR"

def toProtocolIntercomState : State → ProtocolIntercomState
  | .boot => .idle
  | .idle => .idle
  | .ringing => .ringing
  | .inCall => .inCall
  | .error => .error

structure StateMachine where
  state : State := .boot
  deriving DecidableEq

namespace StateMachine

/-- Whether the event caused a transition is returned too. -/
def handleEvent (m : StateMachine) (event : EventType) : StateMachine × Bool :=
  match m.state, event with
  | .idle, .ringDetected => (⟨.ringing⟩, true)
  | .ringing, .offHook => (⟨.inCall⟩, true)
  | .ringing, .onHook => (⟨.idle⟩, true)
  | .inCall, .onHook => (⟨.idle⟩, true)
  | _, _ => (m, false)

/-- The transition the callback is told. -/
def transitionTo (m : StateMachine) (newState : State) : StateMachine × State × State :=
  (⟨newState⟩, m.state, newState)

def finishBoot (m : StateMachine) : StateMachine × Option (State × State) :=
  if m.state = .boot then
    let (m, told) := m.transitionTo .idle
    (m, some told)
  else (m, none)

def reportFault (m : StateMachine) : StateMachine × Option (State × State) :=
  let (m, told) := m.transitionTo .error
  (m, some told)

/-- An event the machine handles is told the callback too. -/
def deliver (m : StateMachine) (event : EventType) : StateMachine × Option (State × State) :=
  let (n, handled) := m.handleEvent event
  (n, if handled then some (m.transitionTo n.state).2 else none)

end StateMachine
end InterBridge
