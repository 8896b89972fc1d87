import InterBridge.Core.StateMachine
import InterBridge.Foundations.WrappingClock
import InterBridge.Network.HealthReporter
import InterBridge.Network.MqttTransport
import InterBridge.Network.ReconnectManager
import InterBridge.Network.Wifi
import InterBridge.Protocol.EventOutbox
import InterBridge.Protocol.RemoteCommandProcessor

namespace InterBridge
open Foundations
set_option autoImplicit true

def kHardwareVersion : Bytes := ascii "1.0"

def kFirmwareVersion : Bytes := ascii "0.1.0"

def WifiEvent.type : WifiEvent → EventType
  | .wifiConnected => .wifiConnected
  | .wifiDisconnected => .wifiDisconnected

/-- The globals `updateNetwork` works on. The processor holds the transport, the topics and the
device id. -/
structure MainLoop (κ δ ω : Type) where
  wifiManager : WifiManager := {}
  stateMachine : StateMachine := ⟨.idle⟩
  credentialStore : DeviceCredentialStore
  provisioned : Bool
  remoteCommandProcessor : RemoteCommandProcessor (Esp32AwsIotTransport κ) δ
  reconnectManager : ReconnectManager := {}
  healthReporter : HealthReporter := {}
  eventOutbox : ω
  subscribedToCommands : Bool := false
  nextConnectAttemptAtMs : UInt32 := 0

/-- What the rest of the loop does to these globals between two calls of `updateNetwork`. -/
inductive RestOfLoop where
  | wifiBegun
  | wifiPolled (connected : Bool)
  | intercomEvent (event : EventType)
  | eventEnqueued (entry : OutboxEntry)
  | credentialsChanged (store : DeviceCredentialStore)

/-- One call of `updateNetwork`: what happened since the last one, and what it reads. The clock is
read at `atMs` before the connection gate, and later on for the health report. -/
structure NetworkInput where
  meanwhile : List RestOfLoop := []
  wifiConnected : Bool
  atMs : Nat
  healthAtMs : Nat
  uptimeAtMs : Nat
  random : RandomBytes
  clock : ClockAnswers

/-- What one call of `updateNetwork` did: whether it found Wi-Fi up, what `transport.connect()`
and `remoteCommandProcessor->subscribe()` returned, and the delay it drew. -/
structure NetworkTrace where
  wifiUp : Bool
  connect : Option Bool := none
  delayMs : Option UInt32 := none
  subscribe : Option Bool := none
  deriving DecidableEq

namespace MainLoop

def transport (m : MainLoop κ δ ω) : Esp32AwsIotTransport κ := m.remoteCommandProcessor.transport

/-- A call into the transport returned. -/
def returned (m : MainLoop κ δ ω) (reply : TransportReply (Esp32AwsIotTransport κ)) :
    MainLoop κ δ ω :=
  { m with remoteCommandProcessor := m.remoteCommandProcessor.returned reply }

def updateWifi (m : MainLoop κ δ ω) (connected : Bool) : MainLoop κ δ ω :=
  let (wifi, event) := m.wifiManager.update connected
  { m with
    wifiManager := wifi
    stateMachine :=
      match event with
      | some event => (m.stateMachine.handleEvent event.type).1
      | none => m.stateMachine }

theorem returned_transport (m : MainLoop κ δ ω)
    (reply : TransportReply (Esp32AwsIotTransport κ)) :
    (m.returned reply).transport = reply.transport :=
  m.remoteCommandProcessor.returned_transport reply

section RestOfLoop
variable [IEventOutbox ω]

def afterRest (m : MainLoop κ δ ω) : RestOfLoop → MainLoop κ δ ω
  | .wifiBegun => { m with wifiManager := m.wifiManager.begin }
  | .wifiPolled connected => { m with wifiManager := (m.wifiManager.update connected).1 }
  | .intercomEvent event => { m with stateMachine := (m.stateMachine.handleEvent event).1 }
  | .eventEnqueued entry =>
    { m with eventOutbox := IEventOutbox.enqueue m.eventOutbox entry.eventId entry.eventJson }
  | .credentialsChanged store => { m with credentialStore := store }

/-- The state in which this call has polled Wi-Fi. -/
def wifiUpdated (m : MainLoop κ δ ω) (input : NetworkInput) : MainLoop κ δ ω :=
  (input.meanwhile.foldl afterRest m).updateWifi input.wifiConnected

/-- `n` is `m` apart from what is set outside a session. -/
def SameSession (m n : MainLoop κ δ ω) : Prop :=
  ∃ wifiManager stateMachine credentialStore eventOutbox, n =
    { m with
      wifiManager := wifiManager, stateMachine := stateMachine
      credentialStore := credentialStore, eventOutbox := eventOutbox }

theorem afterRest_sameSession (m : MainLoop κ δ ω) (rest : RestOfLoop) :
    m.SameSession (m.afterRest rest) := by
  cases rest with
  | wifiBegun => exact ⟨_, _, _, _, rfl⟩
  | wifiPolled connected => exact ⟨_, _, _, _, rfl⟩
  | intercomEvent event => exact ⟨_, _, _, _, rfl⟩
  | eventEnqueued entry => exact ⟨_, _, _, _, rfl⟩
  | credentialsChanged store => exact ⟨_, _, _, _, rfl⟩

/-- Neither the rest of the loop nor the Wi-Fi update touches the session. -/
theorem wifiUpdated_sameSession (m : MainLoop κ δ ω) (input : NetworkInput) :
    m.SameSession (m.wifiUpdated input) := by
  have hrest : m.SameSession (input.meanwhile.foldl afterRest m) := by
    apply List.foldlRecOn (motive := m.SameSession) input.meanwhile afterRest
    · exact ⟨_, _, _, _, rfl⟩
    · intro n hn rest _
      obtain ⟨_, _, _, _, hafter⟩ := n.afterRest_sameSession rest
      obtain ⟨_, _, _, _, rfl⟩ := hn
      exact ⟨_, _, _, _, hafter⟩
  obtain ⟨_, _, _, _, hrest⟩ := hrest
  rw [wifiUpdated, hrest]
  exact ⟨_, _, _, _, rfl⟩

theorem wifiUpdated_processor (m : MainLoop κ δ ω) (input : NetworkInput) :
    (m.wifiUpdated input).remoteCommandProcessor = m.remoteCommandProcessor := by
  obtain ⟨_, _, _, _, hupdated⟩ := m.wifiUpdated_sameSession input
  rw [hupdated]

theorem wifiUpdated_flag (m : MainLoop κ δ ω) (input : NetworkInput) :
    (m.wifiUpdated input).subscribedToCommands = m.subscribedToCommands := by
  obtain ⟨_, _, _, _, hupdated⟩ := m.wifiUpdated_sameSession input
  rw [hupdated]

theorem wifiUpdated_healthReporter (m : MainLoop κ δ ω) (input : NetworkInput) :
    (m.wifiUpdated input).healthReporter = m.healthReporter := by
  obtain ⟨_, _, _, _, hupdated⟩ := m.wifiUpdated_sameSession input
  rw [hupdated]

theorem wifiUpdated_kept (m : MainLoop κ δ ω) (input : NetworkInput) :
    (m.wifiUpdated input).transport = m.transport ∧
      (m.wifiUpdated input).nextConnectAttemptAtMs = m.nextConnectAttemptAtMs := by
  obtain ⟨_, _, _, _, hupdated⟩ := m.wifiUpdated_sameSession input
  rw [hupdated]
  exact ⟨rfl, rfl⟩

end RestOfLoop

variable [IMqttClient κ]

def publish (m : MainLoop κ δ ω) (message : MqttMessage) (qos : MqttQos) : MainLoop κ δ ω × Bool :=
  let reply := m.transport.publish message qos
  (m.returned reply, reply.ok)

/-- The subscription is asked for again until it is granted. -/
def restoreSubscription (m : MainLoop κ δ ω) : MainLoop κ δ ω × Option Bool :=
  if m.subscribedToCommands then (m, none)
  else
    let (processor, subscribed) := m.remoteCommandProcessor.subscribe
    ({ m with remoteCommandProcessor := processor, subscribedToCommands := subscribed },
      some subscribed)

theorem restoreSubscription_next (m : MainLoop κ δ ω) :
    m.restoreSubscription.1.nextConnectAttemptAtMs = m.nextConnectAttemptAtMs := by
  rw [restoreSubscription]
  split
  · rfl
  · rfl

variable [IEventOutbox ω]

def flushEntry (m : MainLoop κ δ ω) (entry : OutboxEntry) : MainLoop κ δ ω :=
  let (m, ok) :=
    m.publish ⟨m.remoteCommandProcessor.topics.eventsIngest, entry.eventJson⟩ .atLeastOnce
  if ok then { m with eventOutbox := IEventOutbox.dequeue m.eventOutbox entry.eventId } else m

def flushOutbox (m : MainLoop κ δ ω) : MainLoop κ δ ω :=
  (IEventOutbox.pending m.eventOutbox).foldl flushEntry m

/-- What publishing and the bookkeeping around it preserve. -/
structure KeptByPublishing (P : MainLoop κ δ ω → Prop) : Prop where
  publish : ∀ m message qos, P m → P (m.publish message qos).1
  outbox : ∀ m outbox, P m → P { m with eventOutbox := outbox }
  reporter : ∀ m reporter, P m → P { m with healthReporter := reporter }

theorem KeptByPublishing.flushEntry {P : MainLoop κ δ ω → Prop} (h : KeptByPublishing P)
    (hm : P m) (entry : OutboxEntry) : P (m.flushEntry entry) := by
  rw [MainLoop.flushEntry]
  dsimp only
  split
  · exact h.outbox _ _ (h.publish m _ _ hm)
  · exact h.publish m _ _ hm

theorem KeptByPublishing.flushOutbox {P : MainLoop κ δ ω → Prop} (h : KeptByPublishing P)
    (hm : P m) : P m.flushOutbox := by
  apply List.foldlRecOn (motive := P) (IEventOutbox.pending m.eventOutbox) MainLoop.flushEntry hm
  intro n hn entry _
  exact h.flushEntry hn entry

variable [ArduinoJson]

def healthReport (m : MainLoop κ δ ω) (uptimeMs : UInt32) : HealthReport where
  deviceId := m.remoteCommandProcessor.deviceId
  firmwareVersion := kFirmwareVersion
  intercomState := (toProtocolIntercomState m.stateMachine.state).toString
  uptimeMs := uptimeMs.toUInt64
  wifiRssi := 0
  freeHeapBytes := 0

def shadowState (m : MainLoop κ δ ω) (health : HealthReport) : ShadowReportedState where
  firmwareVersion := kFirmwareVersion
  hardwareVersion := kHardwareVersion
  intercomState := health.intercomState
  wifiRssi := health.wifiRssi
  uptimeMs := health.uptimeMs
  provisioned := m.provisioned

def reportHealth (m : MainLoop κ δ ω) (nowMs uptimeMs : UInt32) : MainLoop κ δ ω :=
  let (reporter, due) := m.healthReporter.isDue nowMs
  let m := { m with healthReporter := reporter }
  if due then
    let topics := m.remoteCommandProcessor.topics
    let health := m.healthReport uptimeMs
    let (m, _) := m.publish ⟨topics.healthIngest, health.toJson⟩ .atMostOnce
    (m.publish ⟨topics.shadowUpdate, buildReportedUpdate (m.shadowState health)⟩ .atLeastOnce).1
  else m

omit [IEventOutbox ω] in
theorem KeptByPublishing.reportHealth {P : MainLoop κ δ ω → Prop} (h : KeptByPublishing P)
    (hm : P m) (nowMs uptimeMs : UInt32) : P (m.reportHealth nowMs uptimeMs) := by
  have hdue := h.reporter m (m.healthReporter.isDue nowMs).1 hm
  rw [MainLoop.reportHealth]
  dsimp only
  split
  · exact h.publish _ _ _ (h.publish _ _ _ hdue)
  · exact hdue

variable [IDedupCache δ]

/-- The part of `updateNetwork` for a connected transport before the subscription. -/
def pollAndProcess (m : MainLoop κ δ ω) (input : NetworkInput) : MainLoop κ δ ω :=
  let m := m.returned m.transport.poll
  { m with remoteCommandProcessor := m.remoteCommandProcessor.processPending input.clock }

/-- The part for a connected transport. The jobs client, called last, has no pending job. -/
def serveSession (m : MainLoop κ δ ω) (input : NetworkInput) : MainLoop κ δ ω × Option Bool :=
  let (m, subscribed) := (m.pollAndProcess input).restoreSubscription
  (m.flushOutbox.reportHealth (ms32 input.healthAtMs) (ms32 input.uptimeAtMs), subscribed)

theorem serveSession_next (m : MainLoop κ δ ω) (input : NetworkInput) :
    (m.serveSession input).1.nextConnectAttemptAtMs = m.nextConnectAttemptAtMs := by
  have hkept : KeptByPublishing fun n : MainLoop κ δ ω =>
      n.nextConnectAttemptAtMs = m.nextConnectAttemptAtMs :=
    ⟨fun _ _ _ h => h, fun _ _ h => h, fun _ _ h => h⟩
  have hsubscribed := (m.pollAndProcess input).restoreSubscription_next
  exact hkept.reportHealth (hkept.flushOutbox hsubscribed) _ _

/-- The part without a network link. -/
def leaveNetwork (m : MainLoop κ δ ω) : MainLoop κ δ ω :=
  let reply := m.transport.isConnected
  let m := m.returned reply
  if reply.ok then { m.returned m.transport.disconnect with subscribedToCommands := false } else m

def connect (m : MainLoop κ δ ω) : TransportReply (Esp32AwsIotTransport κ) :=
  m.transport.connect m.credentialStore (MqttTopics.clientId m.remoteCommandProcessor.deviceId)

/-- The session a successful `connect` leaves to be served. -/
def sessionOpened (m : MainLoop κ δ ω) : MainLoop κ δ ω :=
  { m.returned m.connect with
    reconnectManager := m.reconnectManager.reset
    subscribedToCommands := false
    healthReporter := m.healthReporter.forceNextPublish }

/-- The part behind the connection gate. -/
def attemptConnect (m : MainLoop κ δ ω) (input : NetworkInput) : MainLoop κ δ ω × NetworkTrace :=
  if m.connect.ok then
    let (m, subscribed) := m.sessionOpened.serveSession input
    (m, { wifiUp := true, connect := some true, subscribe := subscribed })
  else
    let (manager, delay) := m.reconnectManager.nextDelayMs input.random
    ({ m.returned m.connect with
        reconnectManager := manager
        nextConnectAttemptAtMs := ms32 input.atMs + delay },
      { wifiUp := true, connect := some false, delayMs := some delay })

/-- The state in which this call has asked the transport whether it is connected. -/
def atGate (m : MainLoop κ δ ω) (input : NetworkInput) : MainLoop κ δ ω :=
  (m.wifiUpdated input).returned (m.wifiUpdated input).transport.isConnected

omit [ArduinoJson] [IDedupCache δ] in
theorem atGate_next (m : MainLoop κ δ ω) (input : NetworkInput) :
    (m.atGate input).nextConnectAttemptAtMs = m.nextConnectAttemptAtMs :=
  (m.wifiUpdated_kept input).2

def updateNetwork (m : MainLoop κ δ ω) (input : NetworkInput) : MainLoop κ δ ω × NetworkTrace :=
  if !(m.wifiUpdated input).wifiManager.isConnected then
    ((m.wifiUpdated input).leaveNetwork, { wifiUp := false })
  else if (m.wifiUpdated input).transport.isConnected.ok then
    let (m, subscribed) := (m.atGate input).serveSession input
    (m, { wifiUp := true, subscribe := subscribed })
  else if ms32 input.atMs < (m.atGate input).nextConnectAttemptAtMs then
    (m.atGate input, { wifiUp := true })
  else (m.atGate input).attemptConnect input

/-- Wi-Fi is up and the transport is not connected. -/
def ReachesGate (m : MainLoop κ δ ω) (input : NetworkInput) : Prop :=
  (m.wifiUpdated input).wifiManager.isConnected = true ∧
    (m.wifiUpdated input).transport.isConnected.ok = false

theorem updateNetwork_elsewhere {m : MainLoop κ δ ω} (h : ¬ m.ReachesGate input) :
    (m.updateNetwork input).2.connect = none ∧ (m.updateNetwork input).2.delayMs = none ∧
      (m.updateNetwork input).1.nextConnectAttemptAtMs = m.nextConnectAttemptAtMs := by
  rw [updateNetwork]
  split
  next hwifi =>
    refine ⟨rfl, rfl, ?_⟩
    rw [leaveNetwork]
    dsimp only
    split
    · exact (m.wifiUpdated_kept input).2
    · exact (m.wifiUpdated_kept input).2
  next hwifi =>
    split
    next hconnected => exact ⟨rfl, rfl, (serveSession_next _ input).trans (m.atGate_next input)⟩
    next hconnected =>
      rw [Bool.not_eq_true', Bool.not_eq_false] at hwifi
      exact absurd ⟨hwifi, Bool.eq_false_iff.mpr hconnected⟩ h

theorem updateNetwork_at_gate {m : MainLoop κ δ ω} (h : m.ReachesGate input) :
    m.updateNetwork input =
      if ms32 input.atMs < m.nextConnectAttemptAtMs then (m.atGate input, { wifiUp := true })
      else (m.atGate input).attemptConnect input := by
  rw [updateNetwork, h.1, h.2, atGate_next, Bool.not_true, if_neg Bool.false_ne_true,
    if_neg Bool.false_ne_true]

theorem attemptConnect_accepted {m : MainLoop κ δ ω} (h : m.connect.ok = true)
    (input : NetworkInput) :
    m.attemptConnect input =
      ((m.sessionOpened.serveSession input).1,
        { wifiUp := true, connect := some true
          subscribe := (m.sessionOpened.serveSession input).2 }) := by
  rw [attemptConnect, if_pos h]

theorem attemptConnect_refused {m : MainLoop κ δ ω} (h : m.connect.ok = false)
    (input : NetworkInput) :
    (m.attemptConnect input).2 =
        { wifiUp := true, connect := some false
          delayMs := some (m.reconnectManager.nextDelayMs input.random).2 } ∧
      (m.attemptConnect input).1.nextConnectAttemptAtMs =
        ms32 input.atMs + (m.reconnectManager.nextDelayMs input.random).2 ∧
      (m.attemptConnect input).1.transport.sessionValid = false := by
  rw [attemptConnect, h, if_neg Bool.false_ne_true]
  refine ⟨rfl, rfl, ?_⟩
  change (m.returned m.connect).transport.sessionValid = false
  rw [returned_transport, connect, Esp32AwsIotTransport.connect_sessionValid]
  exact h

end MainLoop
end InterBridge
