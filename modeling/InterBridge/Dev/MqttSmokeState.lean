import InterBridge.Foundations.Transitions
import InterBridge.Foundations.WrappingClock

namespace InterBridge
open Foundations
set_option autoImplicit true

inductive DevSmokeState where
  | waitingForWifi | waitingForDns | waitingForTime | waitingForMqtt | online
  deriving DecidableEq

inductive DevSmokeAction where
  | none | connectWifi | resolveDns | configureTime | connectMqtt | recoverWifi
  deriving DecidableEq

/-- The parameters of the constructor, with their defaults. -/
structure DevSmokeConfig where
  initialRetryMs : UInt32 := 1000
  maxRetryMs : UInt32 := 300000
  ntpAttemptTimeoutMs : UInt32 := 15000
  wifiRecoveryThreshold : UInt32 := 3
  wifiRecoveryCooldownMs : UInt32 := 600000
  wifiAssociationTimeoutMs : UInt32 := 15000
  deriving DecidableEq

/-- The coordinator without its parameters. `wifiRetriesScheduled` is not part of the source: it
counts the calls of `scheduleWifiRetry`. -/
structure DevMqttSmokeState where
  state : DevSmokeState := .waitingForWifi
  retryDelayMs : UInt32
  retryAtMs : UInt32 := 0
  actionIssued : Bool := false
  ntpAttemptInFlight : Bool := false
  ntpAttemptDeadlineMs : UInt32 := 0
  wifiAttemptInFlight : Bool := false
  wifiAttemptDeadlineMs : UInt32 := 0
  wifiConfirmPending : Bool := false
  wifiConfirmDeadlineMs : UInt32 := 0
  wifiRetryDelayMs : UInt32
  wifiRetryAtMs : UInt32 := 0
  consecutiveConnectivityFailures : UInt32 := 0
  wifiRecoveryCooldownActive : Bool := false
  wifiRecoveryCooldownUntilMs : UInt32 := 0
  wifiRecoveryRequested : Bool := false
  awaitingWifiRecoveryDisconnect : Bool := false
  wifiRetriesScheduled : Nat := 0
  deriving DecidableEq

def deadlineReached (nowMs deadlineMs : UInt32) : Bool := reachedSigned nowMs deadlineMs

/-- The delay after the next one: doubled, up to the bound. -/
def DevSmokeConfig.grownDelay (c : DevSmokeConfig) (delayMs : UInt32) : UInt32 :=
  min c.maxRetryMs (if c.maxRetryMs / 2 < delayMs then c.maxRetryMs else delayMs * 2)

namespace DevMqttSmokeState

def constructed (c : DevSmokeConfig) : DevMqttSmokeState where
  retryDelayMs := c.initialRetryMs
  wifiRetryDelayMs := c.initialRetryMs

/-- The Wi-Fi retry, its delay and its attempt are left alone. -/
def enter (c : DevSmokeConfig) (s : DevMqttSmokeState) (state : DevSmokeState) (nowMs : UInt32) :
    DevMqttSmokeState :=
  { s with
    state := state
    retryDelayMs := c.initialRetryMs
    retryAtMs := nowMs
    actionIssued := false
    wifiConfirmPending := false }

def scheduleRetry (c : DevSmokeConfig) (s : DevMqttSmokeState) (nowMs : UInt32) :
    DevMqttSmokeState :=
  { s with
    retryAtMs := nowMs + s.retryDelayMs
    retryDelayMs := c.grownDelay s.retryDelayMs
    actionIssued := false }

def scheduleWifiRetry (c : DevSmokeConfig) (s : DevMqttSmokeState) (nowMs : UInt32) :
    DevMqttSmokeState :=
  { s with
    wifiRetryAtMs := nowMs + s.wifiRetryDelayMs
    wifiRetryDelayMs := c.grownDelay s.wifiRetryDelayMs
    wifiRetriesScheduled := s.wifiRetriesScheduled + 1 }

def recordConnectivityFailure (c : DevSmokeConfig) (s : DevMqttSmokeState) (nowMs : UInt32) :
    DevMqttSmokeState :=
  let s := { s with consecutiveConnectivityFailures := s.consecutiveConnectivityFailures + 1 }
  if s.consecutiveConnectivityFailures < c.wifiRecoveryThreshold then s
  else
    let s := { s with consecutiveConnectivityFailures := 0 }
    if s.wifiRecoveryCooldownActive && !deadlineReached nowMs s.wifiRecoveryCooldownUntilMs then s
    else
      { s with
        wifiRecoveryCooldownActive := true
        wifiRecoveryCooldownUntilMs := nowMs + c.wifiRecoveryCooldownMs
        wifiRecoveryRequested := true }

/-- The branch of `update` for a requested recovery. -/
def recoverWifi (c : DevSmokeConfig) (s : DevMqttSmokeState) (nowMs : UInt32) :
    DevMqttSmokeState :=
  { ({ s with wifiRecoveryRequested := false }.enter c .waitingForWifi nowMs) with
    ntpAttemptInFlight := false
    wifiAttemptInFlight := false
    wifiRetryAtMs := nowMs
    awaitingWifiRecoveryDisconnect := true }

/-- A loss of Wi-Fi that is new: the retry is due at once. -/
def loseWifi (c : DevSmokeConfig) (s : DevMqttSmokeState) (nowMs : UInt32) : DevMqttSmokeState :=
  if s.state = .waitingForWifi then s
  else
    { s.enter c .waitingForWifi nowMs with
      ntpAttemptInFlight := false
      wifiAttemptInFlight := false
      wifiRetryAtMs := nowMs }

def expireWifiAttempt (c : DevSmokeConfig) (s : DevMqttSmokeState) (nowMs : UInt32) :
    DevMqttSmokeState :=
  if s.wifiAttemptInFlight && deadlineReached nowMs s.wifiAttemptDeadlineMs then
    { s with wifiAttemptInFlight := false }.scheduleWifiRetry c nowMs
  else s

def expireWifiConfirm (c : DevSmokeConfig) (s : DevMqttSmokeState) (nowMs : UInt32) :
    DevMqttSmokeState :=
  if s.wifiConfirmPending && deadlineReached nowMs s.wifiConfirmDeadlineMs then
    { s with wifiConfirmPending := false }.scheduleWifiRetry c nowMs
  else s

def issueConnectWifi (c : DevSmokeConfig) (s : DevMqttSmokeState) (nowMs : UInt32) :
    DevMqttSmokeState :=
  { s with
    wifiAttemptInFlight := true
    wifiAttemptDeadlineMs := nowMs + c.wifiAssociationTimeoutMs }

/-- The branch of `update` without Wi-Fi. -/
def updateWifi (c : DevSmokeConfig) (s : DevMqttSmokeState) (nowMs : UInt32) :
    DevMqttSmokeState × DevSmokeAction :=
  let s := (s.loseWifi c nowMs).expireWifiAttempt c nowMs
  if s.wifiAttemptInFlight then (s, .none)
  else
    let s := s.expireWifiConfirm c nowMs
    if s.wifiConfirmPending then (s, .none)
    else if deadlineReached nowMs s.wifiRetryAtMs then (s.issueConnectWifi c nowMs, .connectWifi)
    else (s, .none)

def updateDns (s : DevMqttSmokeState) (nowMs : UInt32) : DevMqttSmokeState × DevSmokeAction :=
  if !s.actionIssued && deadlineReached nowMs s.retryAtMs then
    ({ s with actionIssued := true }, .resolveDns)
  else (s, .none)

def expireNtpAttempt (s : DevMqttSmokeState) (nowMs : UInt32) : DevMqttSmokeState :=
  if s.ntpAttemptInFlight && deadlineReached nowMs s.ntpAttemptDeadlineMs then
    { s with ntpAttemptInFlight := false }
  else s

def issueConfigureTime (c : DevSmokeConfig) (s : DevMqttSmokeState) (nowMs : UInt32) :
    DevMqttSmokeState :=
  { { s with actionIssued := true }.scheduleRetry c nowMs with
    ntpAttemptInFlight := true
    ntpAttemptDeadlineMs := nowMs + c.ntpAttemptTimeoutMs }

/-- The branch of `update` that waits for a valid time. -/
def updateTime (c : DevSmokeConfig) (s : DevMqttSmokeState) (nowMs : UInt32) :
    DevMqttSmokeState × DevSmokeAction :=
  let s := s.expireNtpAttempt nowMs
  if s.ntpAttemptInFlight then (s, .none)
  else if !s.actionIssued && deadlineReached nowMs s.retryAtMs then
    (s.issueConfigureTime c nowMs, .configureTime)
  else (s, .none)

def passTime (c : DevSmokeConfig) (s : DevMqttSmokeState) (nowMs : UInt32) : DevMqttSmokeState :=
  { s with ntpAttemptInFlight := false }.enter c .waitingForMqtt nowMs

def updateMqtt (c : DevSmokeConfig) (s : DevMqttSmokeState) (nowMs : UInt32)
    (timeValid mqttConnected : Bool) : DevMqttSmokeState × DevSmokeAction :=
  if !timeValid then (s.enter c .waitingForTime nowMs, .none)
  else if mqttConnected then (s.enter c .online nowMs, .none)
  else if !s.actionIssued && deadlineReached nowMs s.retryAtMs then
    ({ s with actionIssued := true }, .connectMqtt)
  else (s, .none)

def updateOnline (c : DevSmokeConfig) (s : DevMqttSmokeState) (nowMs : UInt32)
    (timeValid mqttConnected : Bool) : DevMqttSmokeState × DevSmokeAction :=
  if mqttConnected then (s, .none)
  else (s.enter c (if timeValid then .waitingForMqtt else .waitingForTime) nowMs, .none)

/-- The branch of `update` with Wi-Fi. With a valid time, waiting for it falls through. -/
def updateNetwork (c : DevSmokeConfig) (s : DevMqttSmokeState) (nowMs : UInt32)
    (timeValid mqttConnected : Bool) : DevMqttSmokeState × DevSmokeAction :=
  match s.state with
  | .waitingForWifi => (s.enter c .waitingForDns nowMs).updateDns nowMs
  | .waitingForDns => s.updateDns nowMs
  | .waitingForTime =>
    if timeValid then (s.passTime c nowMs).updateMqtt c nowMs timeValid mqttConnected
    else s.updateTime c nowMs
  | .waitingForMqtt => s.updateMqtt c nowMs timeValid mqttConnected
  | .online => s.updateOnline c nowMs timeValid mqttConnected

def update (c : DevSmokeConfig) (s : DevMqttSmokeState) (nowMs : UInt32)
    (wifiConnected timeValid mqttConnected : Bool) : DevMqttSmokeState × DevSmokeAction :=
  if s.wifiRecoveryRequested then (s.recoverWifi c nowMs, .recoverWifi)
  else if s.awaitingWifiRecoveryDisconnect && wifiConnected then (s, .none)
  else if !wifiConnected then { s with awaitingWifiRecoveryDisconnect := false }.updateWifi c nowMs
  else s.updateNetwork c nowMs timeValid mqttConnected

def wifiAssociationStarted (c : DevSmokeConfig) (s : DevMqttSmokeState) (nowMs : UInt32) :
    DevMqttSmokeState :=
  if !s.wifiAttemptInFlight then s
  else { s with wifiAttemptDeadlineMs := nowMs + c.wifiAssociationTimeoutMs }

def wifiAssociationResult (c : DevSmokeConfig) (s : DevMqttSmokeState) (nowMs : UInt32)
    (success : Bool) : DevMqttSmokeState :=
  if s.state ≠ .waitingForWifi || !s.wifiAttemptInFlight then s
  else
    let s := { s with wifiAttemptInFlight := false }
    if success then
      { s with
        wifiConfirmPending := true
        wifiConfirmDeadlineMs := nowMs + c.wifiAssociationTimeoutMs }
    else s.scheduleWifiRetry c nowMs

def dnsResult (c : DevSmokeConfig) (s : DevMqttSmokeState) (nowMs : UInt32) (success : Bool) :
    DevMqttSmokeState :=
  if s.state ≠ .waitingForDns then s
  else if success then s.enter c .waitingForTime nowMs
  else (s.scheduleRetry c nowMs).recordConnectivityFailure c nowMs

def networkPreflightFailed (c : DevSmokeConfig) (s : DevMqttSmokeState) (nowMs : UInt32) :
    DevMqttSmokeState :=
  if s.state ≠ .waitingForMqtt then s
  else (s.enter c .waitingForDns nowMs).recordConnectivityFailure c nowMs

/-- Only a full connection brings the Wi-Fi delay back to its floor. -/
def mqttResult (c : DevSmokeConfig) (s : DevMqttSmokeState) (nowMs : UInt32) (success : Bool) :
    DevMqttSmokeState :=
  if s.state ≠ .waitingForMqtt then s
  else if success then
    { s.enter c .online nowMs with
      consecutiveConnectivityFailures := 0
      wifiRecoveryCooldownActive := false
      wifiRecoveryRequested := false
      awaitingWifiRecoveryDisconnect := false
      wifiRetryDelayMs := c.initialRetryMs }
  else (s.scheduleRetry c nowMs).recordConnectivityFailure c nowMs

end DevMqttSmokeState

/-- A call of one of the operations. -/
inductive SmokeCall where
  | update (wifiConnected timeValid mqttConnected : Bool)
  | wifiAssociationStarted
  | wifiAssociationResult (success : Bool)
  | dnsResult (success : Bool)
  | networkPreflightFailed
  | mqttResult (success : Bool)
  deriving DecidableEq

/-- A call and its time, of which the program sees 32 bits. -/
structure SmokeInput where
  call : SmokeCall
  atMs : Nat
  deriving DecidableEq

/-- The call is an `update` that is given this reading of the Wi-Fi connection. -/
def SmokeInput.Samples (input : SmokeInput) (wifiConnected : Bool) : Prop :=
  ∃ timeValid mqttConnected, input.call = .update wifiConnected timeValid mqttConnected

abbrev SmokeTransition := Transition DevMqttSmokeState SmokeInput DevSmokeAction

namespace DevMqttSmokeState

/-- A call and the action it returns: only `update` returns one. -/
def step (c : DevSmokeConfig) (s : DevMqttSmokeState) (input : SmokeInput) :
    DevMqttSmokeState × DevSmokeAction :=
  match input.call with
  | .update wifiConnected timeValid mqttConnected =>
    s.update c (ms32 input.atMs) wifiConnected timeValid mqttConnected
  | .wifiAssociationStarted => (s.wifiAssociationStarted c (ms32 input.atMs), .none)
  | .wifiAssociationResult success => (s.wifiAssociationResult c (ms32 input.atMs) success, .none)
  | .dnsResult success => (s.dnsResult c (ms32 input.atMs) success, .none)
  | .networkPreflightFailed => (s.networkPreflightFailed c (ms32 input.atMs), .none)
  | .mqttResult success => (s.mqttResult c (ms32 input.atMs) success, .none)

/-- The calls that are not ignored in the current state. -/
def Accepts (s : DevMqttSmokeState) : SmokeCall → Prop
  | .update _ _ _ => True
  | .wifiAssociationStarted => s.wifiAttemptInFlight = true
  | .wifiAssociationResult _ => s.state = .waitingForWifi ∧ s.wifiAttemptInFlight = true
  | .dnsResult _ => s.state = .waitingForDns
  | .networkPreflightFailed => s.state = .waitingForMqtt
  | .mqttResult _ => s.state = .waitingForMqtt

instance (s : DevMqttSmokeState) : (call : SmokeCall) → Decidable (s.Accepts call)
  | .update _ _ _ => inferInstanceAs (Decidable True)
  | .wifiAssociationStarted => inferInstanceAs (Decidable (_ = _))
  | .wifiAssociationResult _ => inferInstanceAs (Decidable (_ ∧ _))
  | .dnsResult _ => inferInstanceAs (Decidable (_ = _))
  | .networkPreflightFailed => inferInstanceAs (Decidable (_ = _))
  | .mqttResult _ => inferInstanceAs (Decidable (_ = _))

end DevMqttSmokeState
end InterBridge
