import InterBridge.Foundations.Transitions
import InterBridge.Provisioning.StoredConfiguration

namespace InterBridge
open Foundations
set_option autoImplicit true
namespace ProvisioningManager

/-- The stored Wi-Fi configuration. -/
def configuration (m : ProvisioningManager) : Option Bytes × Option Bytes :=
  (m.store.get kWifiSsidKey, m.store.get kWifiPasswordKey)

/-- An operation that receives credentials leaves them as the configuration, any other leaves the
configuration alone. -/
theorem operate_configuration (m : ProvisioningManager) (operation : Operation) :
    (m.operate operation).1.configuration =
      ((operation.delivered? m).map fun credentials =>
        (some credentials.ssid, some credentials.password)).getD m.configuration := by
  cases operation with
  | requestProvisioning nowMs answers =>
    rw [operate, requestProvisioning]
    split
    · rfl
    · rw [configuration, enterProvisioning_store]
      rfl
  | update nowMs answers =>
    rw [operate, Operation.delivered?]
    cases h : m.delivered? nowMs answers with
    | none => exact Prod.ext (update_kept h).ssid (update_kept h).password
    | some credentials => exact Prod.ext (update_delivered h).ssid (update_delivered h).password
  | pollEvent => rfl
  | wifiUpdate connected => rfl

/-- A provisioning attempt: how it is opened, what happens in its window, and the call that finds
the window over. -/
structure Attempt where
  openedAtMs : UInt32
  openAnswers : ProvisioningAnswers
  operations : List Operation
  endedAtMs : UInt32
  endAnswers : ProvisioningAnswers

namespace Attempt

def opened (attempt : Attempt) (m : ProvisioningManager) : ProvisioningManager :=
  m.requestProvisioning attempt.openedAtMs attempt.openAnswers

def steps (attempt : Attempt) (m : ProvisioningManager) :
    List (Transition ProvisioningManager Operation (Option ProvisioningEvent)) :=
  transitions operate (attempt.opened m) attempt.operations

def last (attempt : Attempt) (m : ProvisioningManager) : ProvisioningManager :=
  finalState operate (attempt.opened m) attempt.operations

def ended (attempt : Attempt) (m : ProvisioningManager) : ProvisioningManager :=
  (attempt.last m).update attempt.endedAtMs attempt.endAnswers

/-- The credentials received in the window. -/
def payloads (attempt : Attempt) (m : ProvisioningManager) : List WifiCredentials :=
  (attempt.steps m).filterMap fun t => t.input.delivered? t.before

/-- The attempt is opened on `m`, goes on without success or failure, and ends by the timeout of
its window. -/
structure TimesOutOn (attempt : Attempt) (m : ProvisioningManager) : Prop where
  opens : m.isActivelyProvisioning = false
  goesOn : ∀ t ∈ attempt.steps m, t.before.isActivelyProvisioning = true
  timesOut : (attempt.last m).TimesOut attempt.endedAtMs

instance (attempt : Attempt) (m : ProvisioningManager) : Decidable (attempt.TimesOutOn m) :=
  decidable_of_iff
    (m.isActivelyProvisioning = false ∧
      (∀ t ∈ attempt.steps m, t.before.isActivelyProvisioning = true) ∧
      (attempt.last m).TimesOut attempt.endedAtMs)
    ⟨fun h => ⟨h.1, h.2.1, h.2.2⟩, fun h => ⟨h.opens, h.goesOn, h.timesOut⟩⟩

theorem opened_configuration (attempt : Attempt) (m : ProvisioningManager) :
    (attempt.opened m).configuration = m.configuration :=
  operate_configuration m (.requestProvisioning attempt.openedAtMs attempt.openAnswers)

theorem filterMap_payloads (attempt : Attempt) (m : ProvisioningManager) :
    ((attempt.steps m).filterMap fun t => (t.input.delivered? t.before).map fun credentials =>
        (some credentials.ssid, some credentials.password)) =
      (attempt.payloads m).map fun credentials =>
        (some credentials.ssid, some credentials.password) := by
  rw [payloads, List.map_filterMap]

theorem ended_configuration (h : TimesOutOn attempt m) :
    (attempt.ended m).configuration =
      ((attempt.payloads m).getLast?.map fun credentials =>
        (some credentials.ssid, some credentials.password)).getD m.configuration := by
  rw [← List.getLast?_map, ← filterMap_payloads, ← opened_configuration attempt m, ended,
    update_timesOut h.timesOut]
  exact finalState_lastWrite operate_configuration _ _

end Attempt

/-- An attempt that times out leaves the configuration as it was exactly when the last payload of
its window, if there was one, repeated that configuration. -/
theorem configuration_kept_iff_lastPayload_same (h : Attempt.TimesOutOn attempt m) :
    ((attempt.ended m).store.get kWifiSsidKey = m.store.get kWifiSsidKey ∧
      (attempt.ended m).store.get kWifiPasswordKey = m.store.get kWifiPasswordKey) ↔
    ∀ credentials, (attempt.payloads m).getLast? = some credentials →
      m.store.get kWifiSsidKey = some credentials.ssid ∧
        m.store.get kWifiPasswordKey = some credentials.password := by
  have hended := Attempt.ended_configuration h
  rw [← Prod.mk.injEq]
  change (attempt.ended m).configuration = m.configuration ↔ _
  rw [hended]
  cases (attempt.payloads m).getLast? with
  | none =>
    refine iff_of_true rfl ?_
    intro credentials hnone
    exact absurd hnone (Option.some_ne_none credentials).symm
  | some last =>
    simp only [Option.map_some, Option.getD_some, Option.some.injEq, forall_eq', configuration,
      Prod.mk.injEq]
    exact ⟨fun h => ⟨h.1.symm, h.2.symm⟩, fun h => ⟨h.1.symm, h.2.symm⟩⟩

/-- A provisioned device in normal operation. -/
def homeDevice : ProvisioningManager where
  store := (PersistentStore.empty.set kWifiSsidKey (ascii "Home")).set kWifiPasswordKey
    (ascii "right password")
  templateName := ascii "InterBridgeTemplate"
  deviceId := ascii "ib_1"
  proofOfPossession := ascii "pop_1"
  advertisementInfo := { deviceName := ascii "InterBridge", deviceIdentityHint := ascii "ib_1" }

/-- Advertising starts, the radio does not connect, and the app sends `credentials`, if any. -/
def sessionSends (credentials : Option WifiCredentials) : ProvisioningAnswers where
  startAdvertising _ _ := true
  sessionActive := false
  receivedCredentials := credentials
  wifiConnected := false
  fleet := ⟨fun _ => none, fun _ => none, fun _ _ _ => false⟩

/-- An attempt opened at 0 whose only call within the window is at one second. -/
def attemptSending (credentials : Option WifiCredentials) : Attempt where
  openedAtMs := 0
  openAnswers := sessionSends none
  operations := [.update 1000 (sessionSends credentials)]
  endedAtMs := kProvisioningWindowMs
  endAnswers := sessionSends none

/-- A mistyped password outlives the attempt it was typed in. -/
theorem attemptSending_wrongPassword_overwrites :
    homeDevice.store.has kWifiSsidKey = true ∧ homeDevice.store.has kWifiPasswordKey = true ∧
      (attemptSending (some ⟨ascii "Home", ascii "wrong"⟩)).TimesOutOn homeDevice ∧
      ((attemptSending (some ⟨ascii "Home", ascii "wrong"⟩)).ended homeDevice).store.get
        kWifiPasswordKey ≠ homeDevice.store.get kWifiPasswordKey :=
  ⟨by decide, by decide, by decide, by decide⟩

/-- An attempt nobody answers keeps the configuration. -/
theorem attemptSending_nothing_kept :
    ((attemptSending none).ended homeDevice).store.get kWifiSsidKey =
        homeDevice.store.get kWifiSsidKey ∧
      ((attemptSending none).ended homeDevice).store.get kWifiPasswordKey =
        homeDevice.store.get kWifiPasswordKey := by
  have htimesOut : (attemptSending none).TimesOutOn homeDevice := by decide
  exact (configuration_kept_iff_lastPayload_same htimesOut).mpr (by decide)

end ProvisioningManager
end InterBridge
