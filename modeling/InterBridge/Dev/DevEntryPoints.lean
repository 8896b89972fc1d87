import InterBridge.Dev.BleMqttMain
import InterBridge.Dev.DevRingEvent
import InterBridge.MainLoop.UpdateNetwork
import InterBridge.Protocol.CommandCache

namespace InterBridge
open Foundations
set_option autoImplicit true

def kDevHealthIntervalMs : UInt32 := 60 * 1000

def kHeartbeatMs : UInt32 := 15000

def kDevIngestRuleName : Bytes := ascii "interbridge_dev_ingest_rule"

def kDevResponseRuleName : Bytes := ascii "interbridge_dev_response_rule"

def devMqttTopics (deviceId : Bytes) : MqttTopics where
  deviceId := deviceId
  ingestRuleName := kDevIngestRuleName
  responseRuleName := kDevResponseRuleName

/-- The store that `setup` fills. -/
def devCredentials (certificatePem privateKeyPem : Bytes) : DeviceCredentialStore :=
  (PersistentStore.empty.set kCertificateKey certificatePem).set kPrivateKeyKey privateKeyPem

/-- The command processor with the cache that a bench build keeps in memory. -/
abbrev DevCommandEnvironment (κ : Type) :=
  RemoteCommandProcessor (Esp32AwsIotTransport κ) InMemoryDedupCache

/-- What tells the loops of the bench programs apart. -/
structure DevProgram where
  hasHandoffGate : Bool
  recoveryClearsSubscribed : Bool
  healthNeedsSubscribed : Bool
  deriving DecidableEq

namespace DevProgram

def mqttSmoke : DevProgram := ⟨false, true, true⟩

def devRingSimulator : DevProgram := ⟨false, false, false⟩

def bleMqtt : DevProgram := ⟨true, true, true⟩

end DevProgram

/-- What one iteration of `loop` reads. The callback runs in a task of its own: what it takes after
the drain it would leave for the next one. -/
structure DevLoopReadings where
  atMs : Nat
  wifiConnected : Bool
  timeValid : Bool
  beforeDrain : List SystemEvent := []
  duringDrain : List SystemEvent := []
  timeValidAtUpdate : Bool
  bleOwnsWifi : Bool := false
  associationAtMs : Nat := 0
  networkReady : Bool := false
  hostByName : Bool := false
  timeValidAtConnect : Bool := false
  clock : ClockAnswers
  wifiAtHealth : Bool
  timeValidAtHealth : Bool
  wifiRssi : Int32
  freeHeapBytes : UInt32

def DevLoopReadings.dnsOk (r : DevLoopReadings) : Bool := r.networkReady && r.hostByName

/-- The connectivity coordinator with a record of all calls into it. -/
structure RecordedConnectivity where
  coordinator : DevMqttSmokeState := .constructed connectivityConfig
  calls : List SmokeInput := []

def RecordedConnectivity.call (c : RecordedConnectivity) (input : SmokeInput) :
    RecordedConnectivity × DevSmokeAction :=
  let (coordinator, action) := c.coordinator.step connectivityConfig input
  ({ coordinator := coordinator, calls := c.calls ++ [input] }, action)

/-- The globals that the bench programs have in common. -/
structure DevEntryPoint (κ : Type) where
  credentials : DeviceCredentialStore
  commandEnv : DevCommandEnvironment κ
  recorded : RecordedConnectivity := {}
  healthReporter : HealthReporter := { intervalMs := kDevHealthIntervalMs }
  heartbeatAt : UInt32 := 0
  subscribed : Bool := false
  wifiAssociatedEventPending : Bool := false
  wifiDisconnectedEventPending : Bool := false

namespace DevEntryPoint

/-- The globals after `setup`. -/
def setup (deviceId : Bytes) (config : AwsIotConnectionConfig) (client : κ)
    (certificatePem privateKeyPem : Bytes) : DevEntryPoint κ where
  credentials := devCredentials certificatePem privateKeyPem
  commandEnv := {
    deviceId := deviceId
    transport := { config := config, client := client }
    handler := ⟨deviceId, .new kDefaultDedupCacheCapacity⟩
    topics := devMqttTopics deviceId
    hasDiagnosticCallback := true }

def transport (s : DevEntryPoint κ) : Esp32AwsIotTransport κ := s.commandEnv.transport

def topics (s : DevEntryPoint κ) : MqttTopics := s.commandEnv.topics

def connectivity (s : DevEntryPoint κ) : DevMqttSmokeState := s.recorded.coordinator

/-- A call into the coordinator. -/
def call (s : DevEntryPoint κ) (input : SmokeInput) : DevEntryPoint κ × DevSmokeAction :=
  let (recorded, action) := s.recorded.call input
  ({ s with recorded := recorded }, action)

/-- A call into the transport returned. -/
def returned (s : DevEntryPoint κ) (reply : TransportReply (Esp32AwsIotTransport κ)) :
    DevEntryPoint κ :=
  { s with commandEnv := s.commandEnv.returned reply }

def onWifiEvent (s : DevEntryPoint κ) : SystemEvent → DevEntryPoint κ
  | .wifiStaDisconnected => { s with wifiDisconnectedEventPending := true }
  | .wifiStaGotIp => { s with wifiAssociatedEventPending := true }
  | _ => s

def drainAssociated (s : DevEntryPoint κ) (atMs : Nat) : DevEntryPoint κ :=
  if s.wifiAssociatedEventPending then
    ({ s with wifiAssociatedEventPending := false }.call ⟨.wifiAssociationResult true, atMs⟩).1
  else s

def drainDisconnected (s : DevEntryPoint κ) (atMs : Nat) : DevEntryPoint κ :=
  if s.wifiDisconnectedEventPending then
    ({ s with wifiDisconnectedEventPending := false }.call ⟨.wifiAssociationResult false, atMs⟩).1
  else s

def drainWifiEventSignals (s : DevEntryPoint κ) (r : DevLoopReadings) : DevEntryPoint κ :=
  let s := (r.beforeDrain.foldl onWifiEvent s).drainAssociated r.atMs
  (r.duringDrain.foldl onWifiEvent s).drainDisconnected r.atMs

variable [IMqttClient κ]

def isConnected (s : DevEntryPoint κ) : DevEntryPoint κ × Bool :=
  let reply := s.transport.isConnected
  (s.returned reply, reply.ok)

def disconnect (s : DevEntryPoint κ) : DevEntryPoint κ := s.returned s.transport.disconnect

def tearDown (s : DevEntryPoint κ) : DevEntryPoint κ := { s.disconnect with subscribed := false }

/-- The session goes with the network. The transport is asked a second time where the first
condition fails. -/
def checkNetwork (s : DevEntryPoint κ) (wifiConnected timeValid : Bool) : DevEntryPoint κ :=
  let networkDown := !wifiConnected || !timeValid
  let (s, connected) := if networkDown then s.isConnected else (s, false)
  if networkDown && connected then s.tearDown
  else
    let (s, connected) := s.isConnected
    if !connected && s.subscribed then s.tearDown else s

/-- The head of `loop`, up to the drain of the event flags. -/
def checkSession (s : DevEntryPoint κ) (r : DevLoopReadings) : DevEntryPoint κ :=
  let (s, connected) := (s.checkNetwork r.wifiConnected r.timeValid).isConnected
  if !connected then { s with subscribed := false } else s

def updateConnectivity (s : DevEntryPoint κ) (r : DevLoopReadings) :
    DevEntryPoint κ × DevSmokeAction :=
  let (s, connected) := s.isConnected
  s.call ⟨.update r.wifiConnected r.timeValidAtUpdate connected, r.atMs⟩

/-- The transport is asked to connect with a valid time only. -/
def connect (s : DevEntryPoint κ) (timeValid : Bool) : TransportReply (Esp32AwsIotTransport κ) :=
  if timeValid then s.transport.connect s.credentials (MqttTopics.clientId s.commandEnv.deviceId)
  else .pure s.transport false

/-- What follows a connection: a session without its subscription is given up. -/
def subscribe (s : DevEntryPoint κ) : DevEntryPoint κ :=
  let (commandEnv, subscribed) := s.commandEnv.subscribe
  let s := { s with commandEnv := commandEnv, subscribed := subscribed }
  if !subscribed then s.disconnect
  else { s with healthReporter := s.healthReporter.forceNextPublish }

/-- Whether there is a session with its subscription now. -/
def connectAndSubscribe (s : DevEntryPoint κ) (timeValid : Bool) : DevEntryPoint κ × Bool :=
  let reply := s.connect timeValid
  let s := s.returned reply
  if !reply.ok then (s, false)
  else
    let s := s.subscribe
    (s, s.subscribed)

/-- The branch for `connectMqtt` behind the lookup of the endpoint. -/
def openSession (s : DevEntryPoint κ) (r : DevLoopReadings) : DevEntryPoint κ :=
  let (s, success) := s.connectAndSubscribe r.timeValidAtConnect
  (s.call ⟨.mqttResult success, r.atMs⟩).1

/-- The branch for `connectMqtt`. -/
def connectMqtt (s : DevEntryPoint κ) (r : DevLoopReadings) : DevEntryPoint κ :=
  if !r.dnsOk then (s.call ⟨.networkPreflightFailed, r.atMs⟩).1 else s.openSession r

/-- The branch for `recoverWifi`. -/
def recoverWifi (program : DevProgram) (s : DevEntryPoint κ) : DevEntryPoint κ :=
  let (s, connected) := s.isConnected
  let s := if connected then s.disconnect else s
  if program.recoveryClearsSubscribed then { s with subscribed := false } else s

/-- The switch of `loop`. -/
def act (program : DevProgram) (s : DevEntryPoint κ) (r : DevLoopReadings) :
    DevSmokeAction → DevEntryPoint κ
  | .connectWifi =>
    if program.hasHandoffGate && r.bleOwnsWifi then s
    else (s.call ⟨.wifiAssociationStarted, r.associationAtMs⟩).1
  | .resolveDns => (s.call ⟨.dnsResult r.dnsOk, r.atMs⟩).1
  | .configureTime => s
  | .connectMqtt => s.connectMqtt r
  | .recoverWifi => s.recoverWifi program
  | .none => s

/-- An iteration up to the end of the switch. -/
def maintain (program : DevProgram) (s : DevEntryPoint κ) (r : DevLoopReadings) :
    DevEntryPoint κ × DevSmokeAction :=
  let (s, action) := ((s.checkSession r).drainWifiEventSignals r).updateConnectivity r
  (s.act program r action, action)

variable [ArduinoJson]

def pollAndProcess (s : DevEntryPoint κ) (clock : ClockAnswers) : DevEntryPoint κ :=
  let s := s.returned s.transport.poll
  { s with commandEnv := s.commandEnv.processPending clock }

def health (s : DevEntryPoint κ) (r : DevLoopReadings) : HealthReport where
  deviceId := s.commandEnv.deviceId
  firmwareVersion := kFirmwareVersion
  intercomState := ProtocolIntercomState.idle.toString
  uptimeMs := (ms32 r.atMs).toUInt64
  wifiRssi := r.wifiRssi
  freeHeapBytes := r.freeHeapBytes

def publishReport (s : DevEntryPoint κ) (r : DevLoopReadings) : DevEntryPoint κ :=
  let (reporter, due) := s.healthReporter.isDue (ms32 r.atMs)
  let s := { s with healthReporter := reporter }
  if !due then s
  else
    s.returned (s.transport.publish ⟨s.topics.healthIngest, (s.health r).toJson⟩ .atMostOnce)

def publishHealth (program : DevProgram) (s : DevEntryPoint κ) (r : DevLoopReadings) :
    DevEntryPoint κ :=
  if (program.healthNeedsSubscribed && !s.subscribed) || !r.wifiAtHealth || !r.timeValidAtHealth
  then s
  else
    let (s, connected) := s.isConnected
    if !connected then s else s.publishReport r

omit [ArduinoJson] in
/-- The line that is logged asks for the connection. -/
def heartbeat (s : DevEntryPoint κ) (r : DevLoopReadings) : DevEntryPoint κ :=
  if !deadlineReached (ms32 r.atMs) s.heartbeatAt then s
  else ({ s with heartbeatAt := ms32 r.atMs + kHeartbeatMs }.isConnected).1

/-- The end of an iteration. -/
def report (program : DevProgram) (s : DevEntryPoint κ) (r : DevLoopReadings) : DevEntryPoint κ :=
  (s.publishHealth program r).heartbeat r

def serve (s : DevEntryPoint κ) (r : DevLoopReadings) : DevEntryPoint κ :=
  let (s, connected) := s.isConnected
  if connected then s.pollAndProcess r.clock else s

/-- One iteration of `loop` without call sessions, and the action that was due in it. -/
def loop (s : DevEntryPoint κ) (r : DevLoopReadings) : DevEntryPoint κ × DevSmokeAction :=
  let (s, action) := s.maintain .mqttSmoke r
  ((s.serve r).report .mqttSmoke r, action)

end DevEntryPoint

/-- What one iteration reads with the inputs of the call sessions. -/
structure DevRingLoopReadings extends DevLoopReadings where
  startPressed : Bool
  endPressed : Bool
  timeValidAtRing : Bool
  unixTimeSeconds : Int64

def DevRingLoopReadings.ring (r : DevRingLoopReadings) : RingReading where
  startPressed := r.startPressed
  endPressed := r.endPressed
  nowMs := ms32 r.atMs
  hasValidTime := r.timeValidAtRing
  unixTimeSeconds := r.unixTimeSeconds

/-- The globals of a bench program with call sessions: the outbox is the coordinator's. -/
structure DevRingEntryPoint (κ ρ ω : Type) where
  entry : DevEntryPoint κ
  ringCoordinator : DevRingEventCoordinator ρ ω

namespace DevRingEntryPoint
variable [IMqttClient κ] [IRandomSource ρ] [IEventOutbox ω] [ArduinoJson]

omit [IRandomSource ρ] [ArduinoJson] in
/-- The events go out over the transport that the command environment refers to. -/
def publishPending (s : DevRingEntryPoint κ ρ ω) : DevRingEntryPoint κ ρ ω :=
  let p := publishPendingEvents s.ringCoordinator.outbox s.entry.transport
    s.entry.topics.eventsIngest
  { entry := s.entry.returned ⟨p.transport, p.inbound, true⟩
    ringCoordinator := { s.ringCoordinator with outbox := p.outbox } }

omit [IRandomSource ρ] in
def serve (s : DevRingEntryPoint κ ρ ω) (r : DevRingLoopReadings) : DevRingEntryPoint κ ρ ω :=
  let (entry, connected) := s.entry.isConnected
  let s := { s with entry := entry }
  if !connected then s
  else
    let s := { s with entry := s.entry.pollAndProcess r.clock }
    if IEventOutbox.pending s.ringCoordinator.outbox = [] then s else s.publishPending

def maintain (program : DevProgram) (s : DevRingEntryPoint κ ρ ω) (r : DevRingLoopReadings) :
    DevRingEntryPoint κ ρ ω × DevSmokeAction :=
  let (entry, action) := s.entry.maintain program r.toDevLoopReadings
  ({ entry := entry, ringCoordinator := (s.ringCoordinator.update r.ring).1 }, action)

/-- One iteration of `loop` with call sessions, and the action that was due in it. -/
def loop (program : DevProgram) (s : DevRingEntryPoint κ ρ ω) (r : DevRingLoopReadings) :
    DevRingEntryPoint κ ρ ω × DevSmokeAction :=
  let (s, action) := s.maintain program r
  let s := s.serve r
  ({ s with entry := s.entry.report program r.toDevLoopReadings }, action)

end DevRingEntryPoint
end InterBridge
