import InterBridge.Foundations.Transitions
import InterBridge.Provisioning.StoredConfiguration

namespace InterBridge
open Foundations
set_option autoImplicit true
namespace ProvisioningManager

/-- A new manager over the store that survives a reboot. -/
def restarted (m : ProvisioningManager) (proofOfPossession : Bytes) : ProvisioningManager where
  store := m.store
  templateName := m.templateName
  deviceId := m.deviceId
  proofOfPossession := proofOfPossession
  advertisementInfo := m.advertisementInfo
  effects := m.effects

inductive LifeEvent where
  | reboot (proofOfPossession : Bytes) (nowMs : UInt32) (answers : ProvisioningAnswers)
  | operate (operation : Operation)

def live (m : ProvisioningManager) : LifeEvent → ProvisioningManager × Option ProvisioningEvent
  | .reboot proofOfPossession nowMs answers =>
    ((m.restarted proofOfPossession).checkAtBoot nowMs answers, none)
  | .operate operation => m.operate operation

abbrev LifeTransition := Transition ProvisioningManager LifeEvent (Option ProvisioningEvent)

/-- A device over an empty store, before its first boot. -/
def factoryNew (templateName deviceId proofOfPossession : Bytes) (info : BleAdvertisementInfo) :
    ProvisioningManager where
  store := .empty
  templateName := templateName
  deviceId := deviceId
  proofOfPossession := proofOfPossession
  advertisementInfo := info

def LifeEvent.delivered? (m : ProvisioningManager) : LifeEvent → Option WifiCredentials
  | .reboot _ _ _ => none
  | .operate operation => operation.delivered? m

def LifeEvent.IsBoot : LifeEvent → Prop
  | .reboot _ _ _ => True
  | .operate _ => False

def LifeEvent.OpensAttempt (m : ProvisioningManager) : LifeEvent → Prop
  | .reboot _ _ _ => m.store.has kWifiSsidKey = false
  | .operate (.requestProvisioning _ _) => m.isActivelyProvisioning = false
  | .operate _ => False

def LifeEvent.EndsWindow (m : ProvisioningManager) : LifeEvent → Prop
  | .operate (.update nowMs _) => m.TimesOut nowMs
  | _ => False

namespace LifeTransition

/-- The step received credentials. -/
def Delivers (t : LifeTransition) : Prop := (t.input.delivered? t.before).isSome = true

def OpensAttempt (t : LifeTransition) : Prop := t.input.OpensAttempt t.before

/-- A boot enters provisioning, and a window that is over leaves the device unprovisioned. -/
def TreatsAsUnprovisioned (t : LifeTransition) : Prop :=
  (t.input.IsBoot → t.after.state = .provisioningAvailable ∨ t.after.state = .provisioningFailed) ∧
    (t.input.EndsWindow t.before → t.after.state = .notProvisioned)

end LifeTransition

/-- An attempt was opened after credentials had been received. -/
def DeliveredBeforeAttempt (ts : List LifeTransition) : Prop :=
  ∃ before opening during, ts = before ++ opening :: during ∧
    LifeTransition.OpensAttempt opening ∧ ∃ u ∈ before, LifeTransition.Delivers u

/-- What the manager remembers of its past. -/
structure Remembers (ts : List LifeTransition) (m : ProvisioningManager) : Prop where
  ssid : m.store.has kWifiSsidKey = true ↔ ∃ u ∈ ts, LifeTransition.Delivers u
  wasAlready : m.isActivelyProvisioning = true →
    (m.wasAlreadyProvisionedWhenEntered = true ↔ DeliveredBeforeAttempt ts)

theorem requestProvisioning_store (m : ProvisioningManager) (nowMs : UInt32)
    (answers : ProvisioningAnswers) : (m.requestProvisioning nowMs answers).store = m.store := by
  rw [requestProvisioning]
  split
  · rfl
  · exact enterProvisioning_store m nowMs answers

theorem update_wasAlready (m : ProvisioningManager) (nowMs : UInt32)
    (answers : ProvisioningAnswers) :
    (m.update nowMs answers).wasAlreadyProvisionedWhenEntered =
      m.wasAlreadyProvisionedWhenEntered := by
  cases h : m.delivered? nowMs answers with
  | none => exact (update_kept h).wasAlready
  | some credentials => exact (update_delivered h).wasAlready

theorem update_inactive {m : ProvisioningManager} (h : m.isActivelyProvisioning = false)
    (nowMs : UInt32) (answers : ProvisioningAnswers) : m.update nowMs answers = m := by
  rw [update, h, Bool.not_false, if_pos rfl]

theorem live_has_ssid (m : ProvisioningManager) (event : LifeEvent) :
    (m.live event).1.store.has kWifiSsidKey = true ↔
      m.store.has kWifiSsidKey = true ∨ (event.delivered? m).isSome = true := by
  cases event with
  | reboot proofOfPossession nowMs answers =>
    rw [live, checkAtBoot_store]
    exact (or_iff_left Bool.false_ne_true).symm
  | operate operation =>
    cases operation with
    | requestProvisioning nowMs answers =>
      rw [live, operate, requestProvisioning_store]
      exact (or_iff_left Bool.false_ne_true).symm
    | update nowMs answers =>
      change (m.update nowMs answers).store.has _ = true ↔
        _ ∨ (m.delivered? nowMs answers).isSome = true
      cases h : m.delivered? nowMs answers with
      | none =>
        rw [(update_kept h).has_ssid]
        exact (or_iff_left Bool.false_ne_true).symm
      | some credentials =>
        rw [PersistentStore.has, (update_delivered h).ssid]
        exact iff_of_true rfl (.inr rfl)
    | pollEvent => exact (or_iff_left Bool.false_ne_true).symm
    | wifiUpdate connected => exact (or_iff_left Bool.false_ne_true).symm

/-- An attempt remembers whether the name was stored when it was opened. -/
theorem live_opens {m : ProvisioningManager} (h : event.OpensAttempt m) :
    (m.live event).1.wasAlreadyProvisionedWhenEntered = m.store.has kWifiSsidKey := by
  cases event with
  | reboot proofOfPossession nowMs answers =>
    rw [live, checkAtBoot_of_not_has (m := m.restarted proofOfPossession) h,
      enterProvisioning_wasAlready]
    rfl
  | operate operation =>
    cases operation with
    | requestProvisioning nowMs answers =>
      have hidle : m.isActivelyProvisioning = false := h
      rw [live, operate, requestProvisioning, hidle, if_neg Bool.false_ne_true,
        enterProvisioning_wasAlready]
    | update nowMs answers => exact h.elim
    | pollEvent => exact h.elim
    | wifiUpdate connected => exact h.elim

theorem live_continues {m : ProvisioningManager} (h : ¬ event.OpensAttempt m)
    (hactive : (m.live event).1.isActivelyProvisioning = true) :
    m.isActivelyProvisioning = true ∧
      (m.live event).1.wasAlreadyProvisionedWhenEntered = m.wasAlreadyProvisionedWhenEntered := by
  cases event with
  | reboot proofOfPossession nowMs answers =>
    have hhas : (m.restarted proofOfPossession).store.has kWifiSsidKey = true :=
      Bool.of_not_eq_false h
    rw [live, checkAtBoot_of_has hhas] at hactive
    exact absurd hactive Bool.false_ne_true
  | operate operation =>
    cases operation with
    | requestProvisioning nowMs answers =>
      have hbefore : m.isActivelyProvisioning = true := Bool.of_not_eq_false h
      rw [live, operate, requestProvisioning, if_pos hbefore]
      exact ⟨hbefore, rfl⟩
    | update nowMs answers =>
      refine ⟨?_, update_wasAlready m nowMs answers⟩
      by_contra hidle
      rw [Bool.not_eq_true] at hidle
      rw [live, operate, update_inactive hidle, hidle] at hactive
      exact Bool.false_ne_true hactive
    | pollEvent => exact ⟨hactive, rfl⟩
    | wifiUpdate connected => exact ⟨hactive, rfl⟩

theorem deliveredBeforeAttempt_concat (ts : List LifeTransition) (t : LifeTransition) :
    DeliveredBeforeAttempt (ts ++ [t]) ↔ DeliveredBeforeAttempt ts ∨
      t.OpensAttempt ∧ ∃ u ∈ ts, LifeTransition.Delivers u := by
  constructor
  · intro h
    obtain ⟨before, opening, during, hts, hopens, hbefore⟩ := h
    rcases concat_eq_append_cons hts with ⟨rfl, rfl, _⟩ | ⟨during', _, rfl⟩
    · exact .inr ⟨hopens, hbefore⟩
    · exact .inl ⟨before, opening, during', rfl, hopens, hbefore⟩
  · intro h
    rcases h with ⟨before, opening, during, rfl, hopens, hbefore⟩ | ⟨hopens, hts⟩
    · exact ⟨before, opening, during ++ [t], by rw [List.append_assoc, List.cons_append],
        hopens, hbefore⟩
    · exact ⟨ts, t, [], rfl, hopens, hts⟩

theorem Remembers.next (h : Remembers ts m) (event : LifeEvent) :
    Remembers (ts ++ [.of live m event]) (m.live event).1 := by
  refine ⟨?_, ?_⟩
  · rw [live_has_ssid, h.ssid]
    simp only [List.mem_append, List.mem_singleton, or_and_right, exists_or, exists_eq_left]
    rfl
  · intro hactive
    rw [deliveredBeforeAttempt_concat]
    by_cases hopens : event.OpensAttempt m
    · rw [live_opens hopens, h.ssid]
      refine ⟨fun hdelivered => .inr ⟨hopens, hdelivered⟩, ?_⟩
      intro hbefore
      rcases hbefore with ⟨before, opening, during, rfl, _, u, hu, hdelivers⟩ | ⟨_, hdelivered⟩
      · exact ⟨u, List.mem_append_left _ hu, hdelivers⟩
      · exact hdelivered
    · obtain ⟨hbefore, hkept⟩ := live_continues hopens hactive
      rw [hkept, h.wasAlready hbefore]
      exact (or_iff_left fun hboth => hopens hboth.1).symm

theorem Remembers.start (templateName deviceId proofOfPossession : Bytes)
    (info : BleAdvertisementInfo) :
    Remembers [] (factoryNew templateName deviceId proofOfPossession info) := by
  refine ⟨iff_of_false Bool.false_ne_true ?_, fun h => absurd h Bool.false_ne_true⟩
  intro h
  obtain ⟨u, hu, _⟩ := h
  exact List.not_mem_nil hu

theorem boot_enters_iff (m : ProvisioningManager) (proofOfPossession : Bytes) (nowMs : UInt32)
    (answers : ProvisioningAnswers) :
    ((m.live (.reboot proofOfPossession nowMs answers)).1.state = .provisioningAvailable ∨
        (m.live (.reboot proofOfPossession nowMs answers)).1.state = .provisioningFailed) ↔
      m.store.has kWifiSsidKey = false := by
  rw [live]
  cases h : m.store.has kWifiSsidKey with
  | false =>
    rw [checkAtBoot_of_not_has (m := m.restarted proofOfPossession) h]
    exact iff_of_true (enterProvisioning_state _ nowMs answers) rfl
  | true =>
    rw [checkAtBoot_of_has (m := m.restarted proofOfPossession) h]
    refine iff_of_false ?_ Bool.noConfusion
    intro hentered
    rcases hentered with h | h <;> cases h

theorem timeout_unprovisioned_iff {m : ProvisioningManager} (h : m.TimesOut nowMs)
    (answers : ProvisioningAnswers) :
    (m.update nowMs answers).state = .notProvisioned ↔
      m.wasAlreadyProvisionedWhenEntered = false := by
  rw [update_timesOut h, handleTimeout]
  cases m.wasAlreadyProvisionedWhenEntered with
  | false => exact iff_of_true rfl rfl
  | true => exact iff_of_false nofun Bool.noConfusion

/-- Of the steps taken so far: no credentials came before this boot, or before the attempt was
opened whose window is over. -/
def NothingDelivered (earlier : List LifeTransition) (t : LifeTransition) : Prop :=
  (t.input.IsBoot → ¬ ∃ u ∈ earlier, LifeTransition.Delivers u) ∧
    (t.input.EndsWindow t.before → ¬ DeliveredBeforeAttempt earlier)

theorem Remembers.treats_iff (h : Remembers ts m) (event : LifeEvent) :
    LifeTransition.TreatsAsUnprovisioned (.of live m event) ↔
      NothingDelivered ts (.of live m event) := by
  cases event with
  | reboot proofOfPossession nowMs answers =>
    refine and_congr (imp_congr_right fun _ => ?_) (imp_congr_right False.elim)
    rw [← h.ssid, Bool.not_eq_true]
    exact boot_enters_iff m proofOfPossession nowMs answers
  | operate operation =>
    refine and_congr (imp_congr_right False.elim) (imp_congr_right fun hends => ?_)
    cases operation with
    | update nowMs answers =>
      have hends : m.TimesOut nowMs := hends
      rw [← h.wasAlready hends.1, Bool.not_eq_true]
      exact timeout_unprovisioned_iff hends answers
    | requestProvisioning nowMs answers => exact hends.elim
    | pollEvent => exact hends.elim
    | wifiUpdate connected => exact hends.elim

/-- `P` holds of every step a device takes before it is ever provisioned, and of the steps
before that one. -/
def UntilProvisioned (P : List LifeTransition → LifeTransition → Prop)
    (ts : List LifeTransition) : Prop :=
  ∀ earlier t later, ts = earlier ++ t :: later →
    (∀ u ∈ earlier, u.after.state ≠ .provisioned) → P earlier t

/-- Over every life of a device, it is treated as unprovisioned until it is provisioned exactly
when no credentials come before a boot, or before the opening of an attempt that times out. -/
theorem neverProvisioned_iff_nothingDelivered (templateName deviceId proofOfPossession : Bytes)
    (info : BleAdvertisementInfo) (events : List LifeEvent) :
    UntilProvisioned (fun _ t => t.TreatsAsUnprovisioned)
        (transitions live (factoryNew templateName deviceId proofOfPossession info) events) ↔
      UntilProvisioned NothingDelivered
        (transitions live (factoryNew templateName deviceId proofOfPossession info) events) := by
  have htreats : ∀ earlier t later,
      transitions live (factoryNew templateName deviceId proofOfPossession info) events =
        earlier ++ t :: later →
      (LifeTransition.TreatsAsUnprovisioned t ↔ NothingDelivered earlier t) := by
    intro earlier t later hts
    obtain ⟨events₁, event, _, _, rfl, rfl, _⟩ := transitions_split hts
    apply Remembers.treats_iff
    apply run_induction (motive := Remembers)
    · exact .start templateName deviceId proofOfPossession info
    · exact fun ts m event h => h.next event
  refine ⟨fun h earlier t later hts hnever => ?_, fun h earlier t later hts hnever => ?_⟩
  · exact (htreats earlier t later hts).mp (h earlier t later hts hnever)
  · exact (htreats earlier t later hts).mpr (h earlier t later hts hnever)

def bench : ProvisioningManager :=
  factoryNew (ascii "InterBridgeTemplate") (ascii "ib_1") (ascii "pop_1")
    { deviceName := ascii "InterBridge", deviceIdentityHint := ascii "ib_1" }

/-- Advertising starts, the radio does not connect, and the app sends the password of a network
that is out of reach. -/
def unreachableNetwork : ProvisioningAnswers where
  startAdvertising _ _ := true
  sessionActive := false
  receivedCredentials := some ⟨ascii "Home", ascii "password"⟩
  wifiConnected := false
  fleet := ⟨fun _ => none, fun _ => none, fun _ _ _ => false⟩

def failedFirstAttempt : List LifeEvent :=
  [.reboot (ascii "pop_1") 0 unreachableNetwork, .operate (.update 1000 unreachableNetwork),
    .operate (.update kProvisioningWindowMs unreachableNetwork),
    .reboot (ascii "pop_2") 0 unreachableNetwork]

/-- After a first attempt that failed, a reboot leaves the device idle. -/
theorem failedFirstAttempt_idle_after_reboot :
    (∀ t ∈ transitions live bench failedFirstAttempt, t.after.state ≠ .provisioned) ∧
      (finalState live bench failedFirstAttempt).state = .idle ∧
      ¬ UntilProvisioned (fun _ t => t.TreatsAsUnprovisioned)
        (transitions live bench failedFirstAttempt) := by
  have hnever : ∀ t ∈ transitions live bench failedFirstAttempt,
      t.after.state ≠ .provisioned := by decide
  refine ⟨hnever, by decide, fun h => ?_⟩
  have hboot := (h _ _ [] (transitions_append live bench (failedFirstAttempt.take 3)
    (failedFirstAttempt.drop 3)) fun u hu => hnever u ?_).1 trivial
  · revert hboot
    decide
  · exact List.mem_of_mem_take (i := 3) hu

end ProvisioningManager
end InterBridge
