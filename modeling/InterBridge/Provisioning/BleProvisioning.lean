import InterBridge.Foundations.WrappingClock
import InterBridge.Provisioning.ProvisioningManager

namespace InterBridge
open Foundations
set_option autoImplicit true

inductive BleSecurityMode where
  | security1 | security2
  deriving DecidableEq

inductive WifiCredentialState where
  | idle | connecting | connected | rejected
  deriving DecidableEq

/-- The adapter of the builds with the real provisioning service. -/
structure Esp32BleProvisioning where
  securityMode : BleSecurityMode := .security2
  advertising : Bool := false
  sessionActive : Bool := false
  credentialState : WifiCredentialState := .idle
  deriving DecidableEq

inductive BleOnboardingWindowEvent where
  | none | startNotConfirmed | windowTimedOut
  deriving DecidableEq

structure BleOnboardingWindow where
  confirmationTimeoutMs : UInt32
  windowMs : UInt32
  awaitingConfirmation : Bool := false
  isOpen : Bool := false
  confirmationDeadlineMs : UInt32 := 0
  windowDeadlineMs : UInt32 := 0
  deriving DecidableEq

namespace Esp32BleProvisioning

/-- Whether the start is requested; that advertising is active only an event says. -/
def startAdvertising (p : Esp32BleProvisioning) (info : BleAdvertisementInfo)
    (proofOfPossession : Bytes) : Bool :=
  !(p.securityMode ≠ .security1 || info.deviceName.isEmpty || proofOfPossession.isEmpty)

def stopAdvertising (p : Esp32BleProvisioning) : Esp32BleProvisioning :=
  { p with advertising := false, sessionActive := false }

def notifyAdvertisingStarted (p : Esp32BleProvisioning) : Esp32BleProvisioning :=
  { p with advertising := true }

def notifySecureSessionEstablished (p : Esp32BleProvisioning) : Esp32BleProvisioning :=
  { p with sessionActive := true }

def notifyDisconnected (p : Esp32BleProvisioning) : Esp32BleProvisioning :=
  { p with sessionActive := false }

def notifyCredentialsReceived (p : Esp32BleProvisioning) : Esp32BleProvisioning :=
  { p with credentialState := .connecting }

def notifyWifiConnected (p : Esp32BleProvisioning) : Esp32BleProvisioning :=
  { p with credentialState := .connected }

def notifyCredentialsRejected (p : Esp32BleProvisioning) : Esp32BleProvisioning :=
  { p with credentialState := .rejected }

end Esp32BleProvisioning

namespace BleOnboardingWindow

def deadlineReached (nowMs deadlineMs : UInt32) : Bool := reachedSigned nowMs deadlineMs

def requestStart (w : BleOnboardingWindow) (nowMs : UInt32) : BleOnboardingWindow :=
  { w with
    awaitingConfirmation := true
    isOpen := false
    confirmationDeadlineMs := nowMs + w.confirmationTimeoutMs }

def confirmStart (w : BleOnboardingWindow) (nowMs : UInt32) : BleOnboardingWindow :=
  if !w.awaitingConfirmation then w
  else
    { w with
      awaitingConfirmation := false
      isOpen := true
      windowDeadlineMs := nowMs + w.windowMs }

def close (w : BleOnboardingWindow) : BleOnboardingWindow :=
  { w with awaitingConfirmation := false, isOpen := false }

def update (w : BleOnboardingWindow) (nowMs : UInt32) :
    BleOnboardingWindow × BleOnboardingWindowEvent :=
  if w.awaitingConfirmation && deadlineReached nowMs w.confirmationDeadlineMs then
    ({ w with awaitingConfirmation := false }, .startNotConfirmed)
  else if w.isOpen && deadlineReached nowMs w.windowDeadlineMs then
    ({ w with isOpen := false }, .windowTimedOut)
  else (w, .none)

end BleOnboardingWindow
end InterBridge
