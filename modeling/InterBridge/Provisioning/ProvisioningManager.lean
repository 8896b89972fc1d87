import InterBridge.Network.Wifi
import InterBridge.Provisioning.FleetProvisioning

namespace InterBridge
open Foundations
set_option autoImplicit true

def kWifiSsidKey : Bytes := ascii "wifi_ssid"

def kWifiPasswordKey : Bytes := ascii "wifi_password"

def kProvisionedKey : Bytes := ascii "provisioned"

/-- Five minutes. -/
def kProvisioningWindowMs : UInt32 := 5 * 60 * 1000

inductive ProvisioningState where
  | idle | provisioningAvailable | bleSessionActive | connectingWifi | fleetProvisioning
  | cloudConnecting | provisioned | provisioningFailed | notProvisioned
  deriving DecidableEq

inductive ProvisioningIndication where
  | provisioningAvailable | appConnected | provisioningSuccess | provisioningFailure
  | factoryResetWarning
  deriving DecidableEq

/-- The protocol events provisioning reports. -/
inductive ProvisioningEvent where
  | provisioningStarted | provisioningCompleted | provisioningFailed
  deriving DecidableEq

structure BleAdvertisementInfo where
  deviceName : Bytes
  deviceIdentityHint : Bytes
  provisioningAvailable : Bool := true
  deriving DecidableEq

def toUpper (c : UInt8) : UInt8 := if 97 ≤ c && c ≤ 122 then c - 32 else c

/-- The hint is the end of the device id. -/
def buildBleAdvertisementInfo (deviceId : Bytes) : BleAdvertisementInfo :=
  let hintLength := min 4 deviceId.length
  let hint := (deviceId.drop (deviceId.length - hintLength)).map toUpper
  { deviceName := ascii "InterBridge-" ++ hint, deviceIdentityHint := hint }

/-- What the manager does to its collaborators, in order. -/
inductive ProvisioningEffect where
  | advertisingRequested (started : Bool)
  | advertisingStopped
  | stored (key value : Bytes)
  | wifiBegun (credentials : WifiCredentials)
  | indicated (indication : ProvisioningIndication)
  | indicatorCleared
  deriving DecidableEq

/-- How the collaborators answer the calls of one operation, none of which is made twice. -/
structure ProvisioningAnswers where
  startAdvertising : BleAdvertisementInfo → Bytes → Bool
  sessionActive : Bool
  receivedCredentials : Option WifiCredentials
  wifiConnected : Bool
  fleet : FleetCollaborators

/-- The effects are not part of the source: they record what happened so far. -/
structure ProvisioningManager where
  store : PersistentStore
  wifi : WifiManager := {}
  templateName : Bytes
  deviceId : Bytes
  proofOfPossession : Bytes
  advertisementInfo : BleAdvertisementInfo
  state : ProvisioningState := .idle
  pendingEvent : Option ProvisioningEvent := none
  provisioningStartedAtMs : UInt32 := 0
  wasAlreadyProvisionedWhenEntered : Bool := false
  effects : List ProvisioningEffect := []

namespace ProvisioningManager

def note (m : ProvisioningManager) (effect : ProvisioningEffect) : ProvisioningManager :=
  { m with effects := m.effects ++ [effect] }

def write (m : ProvisioningManager) (key value : Bytes) : ProvisioningManager :=
  { m with store := m.store.set key value }.note (.stored key value)

def enter (m : ProvisioningManager) (state : ProvisioningState) : ProvisioningManager :=
  { m with state := state }

def report (m : ProvisioningManager) (event : ProvisioningEvent) : ProvisioningManager :=
  { m with pendingEvent := some event }

def startAdvertising (m : ProvisioningManager) (answers : ProvisioningAnswers) :
    ProvisioningManager × Bool :=
  let started := answers.startAdvertising m.advertisementInfo m.proofOfPossession
  (m.note (.advertisingRequested started), started)

def enterProvisioning (m : ProvisioningManager) (nowMs : UInt32) (answers : ProvisioningAnswers) :
    ProvisioningManager :=
  let m := { m with
    wasAlreadyProvisionedWhenEntered := m.store.has kWifiSsidKey
    provisioningStartedAtMs := nowMs
    state := .provisioningAvailable }
  let (m, started) := m.startAdvertising answers
  if !started then
    ((m.enter .provisioningFailed).note (.indicated .provisioningFailure)).report
      .provisioningFailed
  else (m.note (.indicated .provisioningAvailable)).report .provisioningStarted

def checkAtBoot (m : ProvisioningManager) (nowMs : UInt32) (answers : ProvisioningAnswers) :
    ProvisioningManager :=
  if !m.store.has kWifiSsidKey then m.enterProvisioning nowMs answers else m

def isActivelyProvisioning (m : ProvisioningManager) : Bool :=
  match m.state with
  | .provisioningAvailable | .bleSessionActive | .connectingWifi | .fleetProvisioning
  | .cloudConnecting => true
  | .idle | .provisioned | .notProvisioned | .provisioningFailed => false

def requestProvisioning (m : ProvisioningManager) (nowMs : UInt32)
    (answers : ProvisioningAnswers) : ProvisioningManager :=
  if m.isActivelyProvisioning then m else m.enterProvisioning nowMs answers

def checkForCredentials (m : ProvisioningManager) (answers : ProvisioningAnswers) :
    ProvisioningManager :=
  match answers.receivedCredentials with
  | none => m
  | some credentials =>
    let m := (m.write kWifiSsidKey credentials.ssid).write kWifiPasswordKey credentials.password
    let m := m.note .advertisingStopped
    let m := { m with wifi := m.wifi.begin }.note
      (.wifiBegun ⟨cString credentials.ssid, cString credentials.password⟩)
    m.enter .connectingWifi

def resumeAdvertising (m : ProvisioningManager) (answers : ProvisioningAnswers) :
    ProvisioningManager :=
  ((m.enter .provisioningAvailable).startAdvertising answers).1.note
    (.indicated .provisioningAvailable)

def finishProvisioning (m : ProvisioningManager) (success : Bool) (nowMs : UInt32)
    (answers : ProvisioningAnswers) : ProvisioningManager :=
  if success then
    (((m.enter .provisioned).write kProvisionedKey (ascii "1")).note
      (.indicated .provisioningSuccess)).report .provisioningCompleted
  else
    let m := ((m.enter .provisioningFailed).note (.indicated .provisioningFailure)).report
      .provisioningFailed
    if nowMs - m.provisioningStartedAtMs < kProvisioningWindowMs then m.resumeAdvertising answers
    else m

def advanceAfterWifiConnected (m : ProvisioningManager) (nowMs : UInt32)
    (answers : ProvisioningAnswers) : ProvisioningManager :=
  if DeviceCredentialStore.hasCertificate m.store then
    (m.enter .cloudConnecting).finishProvisioning true nowMs answers
  else
    let m := m.enter .fleetProvisioning
    let (result, writes) := provision answers.fleet m.templateName m.deviceId
    let m := writes.foldl (fun m (key, value) => m.write key value) m
    if result = .success then
      (m.enter .cloudConnecting).finishProvisioning true nowMs answers
    else m.finishProvisioning false nowMs answers

def handleTimeout (m : ProvisioningManager) : ProvisioningManager :=
  (((m.note .advertisingStopped).note .indicatorCleared).report .provisioningFailed).enter
    (if m.wasAlreadyProvisionedWhenEntered then .idle else .notProvisioned)

def update (m : ProvisioningManager) (nowMs : UInt32) (answers : ProvisioningAnswers) :
    ProvisioningManager :=
  if !m.isActivelyProvisioning then m
  else if kProvisioningWindowMs ≤ nowMs - m.provisioningStartedAtMs then m.handleTimeout
  else
    match m.state with
    | .provisioningAvailable =>
      if answers.sessionActive then
        ((m.enter .bleSessionActive).note .advertisingStopped).note (.indicated .appConnected)
      else m.checkForCredentials answers
    | .bleSessionActive =>
      let m := m.checkForCredentials answers
      if m.state = .bleSessionActive ∧ !answers.sessionActive then m.resumeAdvertising answers
      else m
    | .connectingWifi =>
      let m := { m with wifi := (m.wifi.update answers.wifiConnected).1 }
      if m.wifi.isConnected then m.advanceAfterWifiConnected nowMs answers else m
    | _ => m

def pollEvent (m : ProvisioningManager) : ProvisioningManager × Option ProvisioningEvent :=
  ({ m with pendingEvent := none }, m.pendingEvent)

end ProvisioningManager
end InterBridge
