import InterBridge.Dev.MqttSmokeState
import InterBridge.Hardware.NtpSyncState
import InterBridge.Provisioning.BleProvisioning

namespace InterBridge
open Foundations
set_option autoImplicit true

def kDevProvisioningWindowMs : UInt32 := 5 * 60 * 1000

def kProvStartConfirmationTimeoutMs : UInt32 := 10 * 1000

/-- The parameters `connectivity` is constructed with: the defaults. -/
abbrev connectivityConfig : DevSmokeConfig := {}

/-- Whether the name can be looked up at all. -/
def isReadyToAttemptDnsResolution (wifiConnected hasValidLocalIp : Bool) : Bool :=
  wifiConnected && hasValidLocalIp

structure BleMqttHandoffGate where
  bleOwnsWifi : Bool := true
  deriving DecidableEq

namespace BleMqttHandoffGate

def markProvisioningEnded (gate : BleMqttHandoffGate) : BleMqttHandoffGate :=
  { gate with bleOwnsWifi := false }

def shouldHandleConnectWifiAction (gate : BleMqttHandoffGate) : Bool := !gate.bleOwnsWifi

end BleMqttHandoffGate

/-- The events the callback is registered for; what they carry is only logged. -/
inductive SystemEvent where
  | provInit | provStart | provCredRecv | provCredFail | provCredSuccess | provEnd
  | wifiStaDisconnected | wifiStaConnected | wifiStaGotIp | other
  deriving DecidableEq

/-- Where the main task stands in `loop`. The callback runs in a task of its own, between any two
of these points. -/
inductive LoopPoint where
  | top
  | session (now : UInt32)
  | drain (now : UInt32) (wifiConnected : Bool)
  | update (now : UInt32) (wifiConnected : Bool)
  | act (now : UInt32) (action : DevSmokeAction)
  deriving DecidableEq

/-- What the main task would read and be answered at a point of `loop`. -/
structure LoopReadings where
  atMs : Nat
  wifiConnected : Bool := false
  hasValidLocalIp : Bool := false
  timeValid : Bool := false
  transportConnected : Bool := false
  hostByName : Bool := false
  connect : Bool := false
  subscribe : Bool := false
  deriving DecidableEq

/-- The Wi-Fi association operations of the main task. -/
inductive WifiOperation where
  | begin
  | disconnect (wifiOff eraseCredentials : Bool)
  deriving DecidableEq

/-- What the callback and the main task share, and the main task's own state. -/
structure BleMqttMain where
  provisioning : Esp32BleProvisioning := { securityMode := .security1 }
  onboardingWindow : BleOnboardingWindow :=
    { confirmationTimeoutMs := kProvStartConfirmationTimeoutMs
      windowMs := kDevProvisioningWindowMs }
  handoff : BleMqttHandoffGate := {}
  wifiAssociatedEventPending : Bool := false
  wifiDisconnectedEventPending : Bool := false
  wifiLocalDisconnectExpected : Bool := false
  connectivity : DevMqttSmokeState := .constructed connectivityConfig
  subscribed : Bool := false
  point : LoopPoint := .top
  deriving DecidableEq

/-- The callback takes an event, or the main task goes on to its next point. -/
inductive BleMqttInput where
  | event (event : SystemEvent) (atMs : Nat)
  | loop (readings : LoopReadings)
  deriving DecidableEq

abbrev BleMqttTransition := Transition BleMqttMain BleMqttInput (Option WifiOperation)

/-- The lookup of the endpoint, where it is made. -/
def LoopReadings.resolves (r : LoopReadings) : Bool :=
  isReadyToAttemptDnsResolution r.wifiConnected r.hasValidLocalIp && r.hostByName

namespace BleMqttMain

def onSystemEvent (s : BleMqttMain) (event : SystemEvent) (nowMs : UInt32) : BleMqttMain :=
  match event with
  | .provStart =>
    { s with
      provisioning := s.provisioning.notifyAdvertisingStarted
      onboardingWindow := s.onboardingWindow.confirmStart nowMs }
  | .provCredRecv =>
    { s with
      provisioning := s.provisioning.notifySecureSessionEstablished.notifyCredentialsReceived }
  | .provCredFail => { s with provisioning := s.provisioning.notifyCredentialsRejected }
  | .provCredSuccess => { s with provisioning := s.provisioning.notifyWifiConnected }
  | .provEnd =>
    { s with
      provisioning := s.provisioning.notifyDisconnected
      onboardingWindow := s.onboardingWindow.close
      handoff := s.handoff.markProvisioningEnded }
  | .wifiStaDisconnected =>
    { s with wifiDisconnectedEventPending := true, wifiLocalDisconnectExpected := false }
  | .wifiStaGotIp => { s with wifiAssociatedEventPending := true }
  | .provInit | .wifiStaConnected | .other => s

/-- The confirmation is armed before the start is requested. -/
def setup (deviceId pop : Bytes) (nowMs : UInt32) : BleMqttMain :=
  let s : BleMqttMain := {}
  let s := { s with onboardingWindow := s.onboardingWindow.requestStart nowMs }
  if !s.provisioning.startAdvertising (buildBleAdvertisementInfo deviceId) pop then
    { s with
      onboardingWindow := s.onboardingWindow.close
      handoff := s.handoff.markProvisioningEnded }
  else s

/-- The head of `loop`. Only a window that was open has its advertising stopped. -/
def updateWindow (s : BleMqttMain) (now : UInt32) : BleMqttMain :=
  let (onboardingWindow, event) := s.onboardingWindow.update now
  let s := { s with onboardingWindow := onboardingWindow }
  match event with
  | .startNotConfirmed => { s with handoff := s.handoff.markProvisioningEnded }
  | .windowTimedOut =>
    { s with
      provisioning := s.provisioning.stopAdvertising
      handoff := s.handoff.markProvisioningEnded }
  | .none => s

/-- A session without Wi-Fi or a valid time, or one that is broken, is torn down. -/
def checkSession (s : BleMqttMain) (r : LoopReadings) : BleMqttMain :=
  if dropsSession r.wifiConnected r.timeValid r.transportConnected then
    { s with subscribed := false }
  else if !r.transportConnected && s.subscribed then { s with subscribed := false }
  -- the source clears `subscribed` without a connection once more, where it is clear by now
  else s

def drainWifiEventSignals (s : BleMqttMain) (now : UInt32) : BleMqttMain :=
  let s :=
    if s.wifiAssociatedEventPending then
      { s with
        wifiAssociatedEventPending := false
        connectivity := s.connectivity.wifiAssociationResult connectivityConfig now true }
    else s
  if s.wifiDisconnectedEventPending then
    { s with
      wifiDisconnectedEventPending := false
      connectivity := s.connectivity.wifiAssociationResult connectivityConfig now false }
  else s

/-- The branch for `connectMqtt`: the endpoint is looked up first. -/
def connectMqtt (s : BleMqttMain) (now : UInt32) (r : LoopReadings) : BleMqttMain :=
  if !r.resolves then
    { s with connectivity := s.connectivity.networkPreflightFailed connectivityConfig now }
  else
    let connected := r.timeValid && r.connect
    let subscribed := if connected then r.subscribe else s.subscribed
    { s with
      subscribed := subscribed
      connectivity :=
        s.connectivity.mqttResult connectivityConfig now (connected && subscribed) }

/-- The switch of `loop`. -/
def act (s : BleMqttMain) (now : UInt32) (action : DevSmokeAction) (r : LoopReadings) :
    BleMqttMain × Option WifiOperation :=
  match action with
  | .connectWifi =>
    if !s.handoff.shouldHandleConnectWifiAction then (s, none)
    else
      ({ s with
          connectivity :=
            s.connectivity.wifiAssociationStarted connectivityConfig (ms32 r.atMs) },
        some .begin)
  | .resolveDns =>
    ({ s with connectivity := s.connectivity.dnsResult connectivityConfig now r.resolves }, none)
  | .configureTime => (s, none)
  | .connectMqtt => (s.connectMqtt now r, none)
  -- not gated: the source takes it to be out of reach while BLE owns Wi-Fi
  | .recoverWifi =>
    ({ s with subscribed := false, wifiLocalDisconnectExpected := true },
      some (.disconnect false false))
  | .none => (s, none)

/-- The main task goes from one point of `loop` to the next. -/
def loop (s : BleMqttMain) (r : LoopReadings) : BleMqttMain × Option WifiOperation :=
  match s.point with
  | .top => ({ s.updateWindow (ms32 r.atMs) with point := .session (ms32 r.atMs) }, none)
  | .session now => ({ s.checkSession r with point := .drain now r.wifiConnected }, none)
  | .drain now wifiConnected =>
    ({ s.drainWifiEventSignals now with point := .update now wifiConnected }, none)
  | .update now wifiConnected =>
    let (connectivity, action) := s.connectivity.update connectivityConfig now wifiConnected
      r.timeValid r.transportConnected
    ({ s with connectivity := connectivity, point := .act now action }, none)
  | .act now action =>
    let (s, operation) := s.act now action r
    ({ s with point := .top }, operation)

def step (s : BleMqttMain) : BleMqttInput → BleMqttMain × Option WifiOperation
  | .event event atMs => (s.onSystemEvent event (ms32 atMs), none)
  | .loop readings => s.loop readings

/-- A run from the boot on. -/
def run (deviceId pop : Bytes) (bootMs : Nat) (inputs : List BleMqttInput) :
    List BleMqttTransition :=
  transitions step (setup deviceId pop (ms32 bootMs)) inputs

end BleMqttMain
end InterBridge
