import InterBridge.Provisioning.ProvisioningManager

namespace InterBridge
open Foundations
set_option autoImplicit true
namespace ProvisioningManager

/-- The stored Wi-Fi configuration, and what the current attempt was opened with, are as before. -/
structure KeepsConfiguration (m n : ProvisioningManager) : Prop where
  ssid : n.store.get kWifiSsidKey = m.store.get kWifiSsidKey
  password : n.store.get kWifiPasswordKey = m.store.get kWifiPasswordKey
  wasAlready : n.wasAlreadyProvisionedWhenEntered = m.wasAlreadyProvisionedWhenEntered

/-- A received payload replaced the stored Wi-Fi configuration. -/
structure ReplacesConfiguration (credentials : WifiCredentials) (m n : ProvisioningManager) :
    Prop where
  ssid : n.store.get kWifiSsidKey = some credentials.ssid
  password : n.store.get kWifiPasswordKey = some credentials.password
  wasAlready : n.wasAlreadyProvisionedWhenEntered = m.wasAlreadyProvisionedWhenEntered

namespace KeepsConfiguration

theorem refl (m : ProvisioningManager) : KeepsConfiguration m m := ⟨rfl, rfl, rfl⟩

theorem trans (h : KeepsConfiguration m n) (h' : KeepsConfiguration n o) :
    KeepsConfiguration m o :=
  ⟨h'.ssid.trans h.ssid, h'.password.trans h.password, h'.wasAlready.trans h.wasAlready⟩

theorem has_ssid (h : KeepsConfiguration m n) :
    n.store.has kWifiSsidKey = m.store.has kWifiSsidKey := by
  rw [PersistentStore.has, h.ssid, PersistentStore.has]

theorem write (m : ProvisioningManager) (key value : Bytes) (hs : kWifiSsidKey ≠ key)
    (hp : kWifiPasswordKey ≠ key) : KeepsConfiguration m (m.write key value) :=
  ⟨m.store.get_set_of_ne value hs, m.store.get_set_of_ne value hp, rfl⟩

theorem writes (m : ProvisioningManager) {writes : List (Bytes × Bytes)}
    (h : ∀ write ∈ writes, kWifiSsidKey ≠ write.1 ∧ kWifiPasswordKey ≠ write.1) :
    KeepsConfiguration m (writes.foldl (fun m (key, value) => m.write key value) m) := by
  induction writes generalizing m with
  | nil => exact refl m
  | cons head tail ih =>
    rw [List.forall_mem_cons] at h
    rw [List.foldl_cons]
    exact (write m head.1 head.2 h.1.1 h.1.2).trans (ih _ h.2)

theorem enter (m : ProvisioningManager) (state : ProvisioningState) :
    KeepsConfiguration m (m.enter state) := ⟨rfl, rfl, rfl⟩

theorem finishProvisioning (m : ProvisioningManager) (success : Bool) (nowMs : UInt32)
    (answers : ProvisioningAnswers) :
    KeepsConfiguration m (m.finishProvisioning success nowMs answers) := by
  rw [ProvisioningManager.finishProvisioning]
  split
  · have h := write m kProvisionedKey (ascii "1") (by decide) (by decide)
    exact ⟨h.ssid, h.password, h.wasAlready⟩
  · dsimp only
    split
    · exact ⟨rfl, rfl, rfl⟩
    · exact ⟨rfl, rfl, rfl⟩

theorem advanceAfterWifiConnected (m : ProvisioningManager) (nowMs : UInt32)
    (answers : ProvisioningAnswers) :
    KeepsConfiguration m (m.advanceAfterWifiConnected nowMs answers) := by
  have hwrites : ∀ write ∈ (provision answers.fleet m.templateName m.deviceId).2,
      kWifiSsidKey ≠ write.1 ∧ kWifiPasswordKey ≠ write.1 := by
    intro write hwrite
    rcases provision_writes _ _ _ write hwrite with h | h <;> rw [h] <;> decide
  have hprovision := (enter m .fleetProvisioning).trans (writes _ hwrites)
  rw [ProvisioningManager.advanceAfterWifiConnected]
  split
  · exact (enter m _).trans (finishProvisioning _ _ _ _)
  · dsimp only
    split
    · exact (hprovision.trans (enter _ _)).trans (finishProvisioning _ _ _ _)
    · exact hprovision.trans (finishProvisioning _ _ _ _)

end KeepsConfiguration

/-- The attempt's window is over at the time of this call. -/
def TimesOut (m : ProvisioningManager) (nowMs : UInt32) : Prop :=
  m.isActivelyProvisioning = true ∧ kProvisioningWindowMs ≤ nowMs - m.provisioningStartedAtMs

/-- The call asks the session for credentials. -/
def AsksForCredentials (m : ProvisioningManager) (nowMs : UInt32)
    (answers : ProvisioningAnswers) : Prop :=
  nowMs - m.provisioningStartedAtMs < kProvisioningWindowMs ∧
    (m.state = .provisioningAvailable ∧ answers.sessionActive = false ∨
      m.state = .bleSessionActive)

instance (m : ProvisioningManager) (nowMs : UInt32) : Decidable (m.TimesOut nowMs) :=
  inferInstanceAs (Decidable (_ ∧ _))

instance (m : ProvisioningManager) (nowMs : UInt32) (answers : ProvisioningAnswers) :
    Decidable (m.AsksForCredentials nowMs answers) :=
  inferInstanceAs (Decidable (_ ∧ _))

/-- The credentials this call receives. -/
def delivered? (m : ProvisioningManager) (nowMs : UInt32) (answers : ProvisioningAnswers) :
    Option WifiCredentials :=
  if m.AsksForCredentials nowMs answers then answers.receivedCredentials else none

theorem checkForCredentials_some (m : ProvisioningManager)
    (h : answers.receivedCredentials = some credentials) :
    ReplacesConfiguration credentials m (m.checkForCredentials answers) := by
  rw [checkForCredentials, h]
  refine ⟨?_, PersistentStore.get_set_self _ _ _, rfl⟩
  exact (PersistentStore.get_set_of_ne _ _ (by decide)).trans
    (PersistentStore.get_set_self _ _ _)

theorem checkForCredentials_state (m : ProvisioningManager)
    (h : answers.receivedCredentials = some credentials) :
    (m.checkForCredentials answers).state = .connectingWifi := by
  rw [checkForCredentials, h]
  rfl

theorem checkForCredentials_none (m : ProvisioningManager)
    (h : answers.receivedCredentials = none) : m.checkForCredentials answers = m := by
  rw [checkForCredentials, h]

theorem update_timesOut {m : ProvisioningManager} (h : m.TimesOut nowMs)
    (answers : ProvisioningAnswers) :
    m.update nowMs answers = m.handleTimeout := by
  rw [update, h.1, Bool.not_true, if_neg Bool.false_ne_true, if_pos h.2]

/-- A call that receives credentials stores them, whatever becomes of the attempt. -/
theorem update_delivered (h : m.delivered? nowMs answers = some credentials) :
    ReplacesConfiguration credentials m (m.update nowMs answers) := by
  rw [delivered?] at h
  split at h
  case isFalse => cases h
  case isTrue hasks =>
    obtain ⟨hwindow, hstate⟩ := hasks
    rw [← UInt32.not_le] at hwindow
    rcases hstate with ⟨hs, hsession⟩ | hs
    · simp only [update, isActivelyProvisioning, hs, hsession, Bool.not_true, Bool.false_eq_true,
        if_false, if_neg hwindow]
      exact checkForCredentials_some m h
    · simp only [update, isActivelyProvisioning, hs, Bool.not_true, Bool.false_eq_true, if_false,
        if_neg hwindow, checkForCredentials_state m h, reduceCtorEq, false_and]
      exact checkForCredentials_some m h

theorem update_kept (h : m.delivered? nowMs answers = none) :
    KeepsConfiguration m (m.update nowMs answers) := by
  rw [update]
  split
  · exact .refl m
  split
  · exact ⟨rfl, rfl, rfl⟩
  next _ hwindow =>
  rw [UInt32.not_le] at hwindow
  split
  next hs =>
    split
    next => exact ⟨rfl, rfl, rfl⟩
    next hsession =>
      rw [delivered?, if_pos ⟨hwindow, .inl ⟨hs, Bool.eq_false_iff.mpr hsession⟩⟩] at h
      rw [checkForCredentials_none m h]
      exact .refl m
  next hs =>
    rw [delivered?, if_pos ⟨hwindow, .inr hs⟩] at h
    rw [checkForCredentials_none m h]
    dsimp only
    split
    · exact ⟨rfl, rfl, rfl⟩
    · exact .refl m
  next =>
    dsimp only
    split
    · have h := KeepsConfiguration.advanceAfterWifiConnected
        { m with wifi := (m.wifi.update answers.wifiConnected).1 } nowMs answers
      exact ⟨h.ssid, h.password, h.wasAlready⟩
    · exact ⟨rfl, rfl, rfl⟩
  next => exact .refl m

theorem enterProvisioning_store (m : ProvisioningManager) (nowMs : UInt32)
    (answers : ProvisioningAnswers) : (m.enterProvisioning nowMs answers).store = m.store := by
  rw [enterProvisioning]
  dsimp only
  split
  · rfl
  · rfl

theorem enterProvisioning_wasAlready (m : ProvisioningManager) (nowMs : UInt32)
    (answers : ProvisioningAnswers) :
    (m.enterProvisioning nowMs answers).wasAlreadyProvisionedWhenEntered =
      m.store.has kWifiSsidKey := by
  rw [enterProvisioning]
  dsimp only
  split
  · rfl
  · rfl

theorem checkAtBoot_of_has {m : ProvisioningManager} (h : m.store.has kWifiSsidKey = true)
    (nowMs : UInt32) (answers : ProvisioningAnswers) : m.checkAtBoot nowMs answers = m := by
  rw [checkAtBoot, h, Bool.not_true, if_neg Bool.false_ne_true]

theorem checkAtBoot_of_not_has {m : ProvisioningManager} (h : m.store.has kWifiSsidKey = false)
    (nowMs : UInt32) (answers : ProvisioningAnswers) :
    m.checkAtBoot nowMs answers = m.enterProvisioning nowMs answers := by
  rw [checkAtBoot, h, Bool.not_false, if_pos rfl]

theorem checkAtBoot_store (m : ProvisioningManager) (nowMs : UInt32)
    (answers : ProvisioningAnswers) : (m.checkAtBoot nowMs answers).store = m.store := by
  rw [checkAtBoot]
  split
  · exact enterProvisioning_store m nowMs answers
  · rfl

theorem enterProvisioning_state (m : ProvisioningManager) (nowMs : UInt32)
    (answers : ProvisioningAnswers) :
    (m.enterProvisioning nowMs answers).state = .provisioningAvailable ∨
      (m.enterProvisioning nowMs answers).state = .provisioningFailed := by
  rw [enterProvisioning]
  dsimp only
  split
  · exact .inr rfl
  · exact .inl rfl

/-- What can be done to a running manager; the radio is polled by the main loop too. -/
inductive Operation where
  | requestProvisioning (nowMs : UInt32) (answers : ProvisioningAnswers)
  | update (nowMs : UInt32) (answers : ProvisioningAnswers)
  | pollEvent
  | wifiUpdate (connected : Bool)

def operate (m : ProvisioningManager) : Operation → ProvisioningManager × Option ProvisioningEvent
  | .requestProvisioning nowMs answers => (m.requestProvisioning nowMs answers, none)
  | .update nowMs answers => (m.update nowMs answers, none)
  | .pollEvent => m.pollEvent
  | .wifiUpdate connected => ({ m with wifi := (m.wifi.update connected).1 }, none)

/-- The credentials an operation receives. -/
def Operation.delivered? (m : ProvisioningManager) : Operation → Option WifiCredentials
  | .update nowMs answers => m.delivered? nowMs answers
  | .requestProvisioning _ _ | .pollEvent | .wifiUpdate _ => none

end ProvisioningManager
end InterBridge
