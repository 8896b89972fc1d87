import InterBridge.Core.RandomId
import InterBridge.Hardware.Button
import InterBridge.Intercom.LineDetector
import InterBridge.MainLoop.MainSessions
import InterBridge.Provisioning.FactoryResetCoordinator

namespace InterBridge
open Foundations
set_option autoImplicit true

def toProtocolEvent : EventType → Option ProtocolEventName
  | .ringDetected => some .ringDetected
  | .offHook => some .offHook
  | .onHook => some .onHook
  | .callStarted => some .callStarted
  | .callEnded => some .callEnded
  | .doorOpenRequested | .wifiConnected | .wifiDisconnected => none

def ProvisioningEvent.name : ProvisioningEvent → ProtocolEventName
  | .provisioningStarted => .provisioningStarted
  | .provisioningCompleted => .provisioningCompleted
  | .provisioningFailed => .provisioningFailed

/-- What one iteration of `loop` reads, phase by phase. -/
structure LoopInput where
  buttonPressed : Bool
  buttonAtMs : Nat
  request : ProvisioningAnswers
  provisioningAtMs : Nat
  provisioning : ProvisioningAnswers
  wifiConnected : Bool
  atMs : Nat
  healthAtMs : Nat
  uptimeAtMs : Nat
  clock : ClockAnswers
  lineState : Bool

/-- The globals of the main program. The manager's store and Wi-Fi are those of the rest, which
holds the device id too. A restart ends the program. -/
structure Production (ρ κ δ ω : Type) where
  random : ρ
  buttonController : ButtonController := {}
  lineDetector : LineDetector := {}
  provisioningManager : ProvisioningManager
  globals : MainLoop κ δ ω
  restarted : Bool := false

/-- What an iteration did: the events it published, and the network update, if it came to it. -/
structure LoopTrace where
  published : List DeviceEvent := []
  network : Option NetworkTrace := none

namespace Production

/-- The manager, with what it refers to. -/
def manager (p : Production ρ κ δ ω) : ProvisioningManager :=
  { p.provisioningManager with store := p.globals.credentialStore, wifi := p.globals.wifiManager }

/-- The manager returned. -/
def managed (p : Production ρ κ δ ω) (m : ProvisioningManager) : Production ρ κ δ ω :=
  { p with
    provisioningManager := m
    globals := { p.globals with credentialStore := m.store, wifiManager := m.wifi } }

section Phases
variable [IRandomSource ρ] [IEventOutbox ω] [ArduinoJson]

def publishProtocolEvent (p : Production ρ κ δ ω) (eventName : ProtocolEventName) :
    Production ρ κ δ ω × DeviceEvent :=
  let (random, eventId) := generateHexId p.random (ascii "evt")
  let event : DeviceEvent :=
    { deviceId := p.globals.remoteCommandProcessor.deviceId
      event := eventName
      eventId := eventId
      callId := []
      timestamp := [] }
  let outbox := IEventOutbox.enqueue p.globals.eventOutbox event.eventId event.toJson
  ({ p with random := random, globals := { p.globals with eventOutbox := outbox } }, event)

def updateButton (p : Production ρ κ δ ω) (input : LoopInput) :
    Production ρ κ δ ω × List DeviceEvent :=
  let nowMs := ms32 input.buttonAtMs
  let (controller, action) := p.buttonController.update input.buttonPressed nowMs
  let p := { p with buttonController := controller }
  match action with
  | .none => (p, [])
  | .provisioningRequested => (p.managed (p.manager.requestProvisioning nowMs input.request), [])
  | .factoryResetRequested =>
    let warned := p.manager.note (.indicated .factoryResetWarning)
    let (store, _) := FactoryResetCoordinator.execute warned.store
    let (p, event) := (p.managed { warned with store := store }).publishProtocolEvent
      .factoryResetRequested
    ({ p with restarted := true }, [event])

def updateProvisioning (p : Production ρ κ δ ω) (input : LoopInput) :
    Production ρ κ δ ω × List DeviceEvent :=
  let updated := p.manager.update (ms32 input.provisioningAtMs) input.provisioning
  let (polled, event) := updated.pollEvent
  let p := p.managed polled
  match event with
  | none => (p, [])
  | some event =>
    let (p, event) := p.publishProtocolEvent event.name
    (p, [event])

def updateIntercom (p : Production ρ κ δ ω) (input : LoopInput) :
    Production ρ κ δ ω × List DeviceEvent :=
  let (detector, event) := p.lineDetector.update input.lineState
  let p := { p with lineDetector := detector }
  match event with
  | none => (p, [])
  | some event =>
    let machine := (p.globals.stateMachine.handleEvent event).1
    let p := { p with globals := { p.globals with stateMachine := machine } }
    match toProtocolEvent event with
    | none => (p, [])
    | some eventName =>
      let (p, event) := p.publishProtocolEvent eventName
      (p, [event])

variable [IMqttClient κ] [IDedupCache δ]

/-- The delay after a refused connection is drawn from the same source as the ids. -/
def updateNetwork (p : Production ρ κ δ ω) (input : LoopInput) :
    Production ρ κ δ ω × NetworkTrace :=
  let (random, bytes) := IRandomSource.fill p.random 4
  let (globals, trace) := p.globals.updateNetwork
    { wifiConnected := input.wifiConnected
      atMs := input.atMs
      healthAtMs := input.healthAtMs
      uptimeAtMs := input.uptimeAtMs
      random := ⟨bytes[0], bytes[1], bytes[2], bytes[3]⟩
      clock := input.clock }
  ({ p with random := if trace.delayMs.isSome then random else p.random, globals := globals },
    trace)

/-- One iteration of `loop`. Nothing comes after a restart. -/
def loop (p : Production ρ κ δ ω) (input : LoopInput) : Production ρ κ δ ω × LoopTrace :=
  if p.restarted then (p, {})
  else
    let (p, pressed) := p.updateButton input
    if p.restarted then (p, { published := pressed })
    else
      let (p, provisioned) := p.updateProvisioning input
      let (p, trace) := p.updateNetwork input
      let (p, hooked) := p.updateIntercom input
      (p, { published := pressed ++ provisioned ++ hooked, network := some trace })

end Phases

/-- The program as `setup` leaves it, with what was loaded from the store. -/
def setup (random : ρ) (topics : MqttTopics) (config : AwsIotConnectionConfig) (client : κ)
    (store : PersistentStore) (provisioned : Bool) (dedupCache : δ) (eventOutbox : ω)
    (templateName proofOfPossession : Bytes) (bootAtMs : Nat) (answers : ProvisioningAnswers) :
    Production ρ κ δ ω :=
  let constructed : Production ρ κ δ ω :=
    { random := random
      provisioningManager :=
        { store := store
          templateName := templateName
          deviceId := topics.deviceId
          proofOfPossession := proofOfPossession
          advertisementInfo := buildBleAdvertisementInfo topics.deviceId }
      globals := .setup topics config client store provisioned dedupCache eventOutbox }
  constructed.managed (constructed.manager.checkAtBoot (ms32 bootAtMs) answers)

end Production
end InterBridge
