import InterBridge.Foundations.Transitions
import InterBridge.Provisioning.OperationWrites

namespace InterBridge
open Foundations
set_option autoImplicit true

/-- Whether advertising is on or off after the effect, where it is about advertising. -/
def ProvisioningEffect.advertising? : ProvisioningEffect → Option Bool
  | .advertisingRequested started => some started
  | .advertisingStopped => some false
  | _ => none

namespace ProvisioningManager

/-- A manager as it is constructed, over a store and a radio that are already in use. -/
def constructed (store : PersistentStore) (wifi : WifiManager)
    (templateName deviceId proofOfPossession : Bytes) (info : BleAdvertisementInfo) :
    ProvisioningManager where
  store := store
  wifi := wifi
  templateName := templateName
  deviceId := deviceId
  proofOfPossession := proofOfPossession
  advertisementInfo := info

inductive ManagerCall where
  | checkAtBoot (nowMs : UInt32) (answers : ProvisioningAnswers)
  | operate (operation : Operation)

def call (m : ProvisioningManager) : ManagerCall → ProvisioningManager × Option ProvisioningEvent
  | .checkAtBoot nowMs answers => (m.checkAtBoot nowMs answers, none)
  | .operate operation => m.operate operation

abbrev CallTransition := Transition ProvisioningManager ManagerCall (Option ProvisioningEvent)

def ManagerCall.isUpdate : ManagerCall → Bool
  | .operate (.update _ _) => true
  | _ => false

/-- The call enters provisioning. -/
def ManagerCall.Enters (m : ProvisioningManager) : ManagerCall → Prop
  | .checkAtBoot _ _ => m.store.has kWifiSsidKey = false
  | .operate (.requestProvisioning _ _) => m.isActivelyProvisioning = false
  | .operate _ => False

/-- From `m` to `n` within an attempt: the state that was left, what was reported, and how
advertising was turned on and off. -/
structure Moves (m n : ProvisioningManager) (state : ProvisioningState)
    (reported : Option ProvisioningEvent) (advertising : List Bool) : Prop where
  state : n.state = state
  pendingEvent : n.pendingEvent = reported.or m.pendingEvent
  startedAt : n.provisioningStartedAtMs = m.provisioningStartedAtMs
  wasAlready : n.wasAlreadyProvisionedWhenEntered = m.wasAlreadyProvisionedWhenEntered
  effects : ∃ effects, n.effects = m.effects ++ effects ∧
    effects.filterMap ProvisioningEffect.advertising? = advertising

namespace Moves

variable {m n o : ProvisioningManager}

theorem trans {state state' : ProvisioningState} (h : Moves m n state reported advertising)
    (h' : Moves n o state' reported' advertising') :
    Moves m o state' (reported'.or reported) (advertising ++ advertising') := by
  obtain ⟨effects, hn, rfl⟩ := h.effects
  obtain ⟨effects', ho, rfl⟩ := h'.effects
  refine ⟨h'.state, ?_, h'.startedAt.trans h.startedAt, h'.wasAlready.trans h.wasAlready,
    effects ++ effects', ?_, List.filterMap_append⟩
  · rw [h'.pendingEvent, h.pendingEvent, Option.or_assoc]
  · rw [ho, hn, List.append_assoc]

theorem enter (m : ProvisioningManager) (state : ProvisioningState) :
    Moves m (m.enter state) state none [] := ⟨rfl, rfl, rfl, rfl, [], (List.append_nil _).symm, rfl⟩

theorem write (m : ProvisioningManager) (key value : Bytes) :
    Moves m (m.write key value) m.state none [] :=
  ⟨rfl, rfl, rfl, rfl, [.stored key value], rfl, rfl⟩

theorem withWifi (m : ProvisioningManager) (wifi : WifiManager) :
    Moves m { m with wifi := wifi } m.state none [] :=
  ⟨rfl, rfl, rfl, rfl, [], (List.append_nil _).symm, rfl⟩

theorem resumeAdvertising (m : ProvisioningManager) (answers : ProvisioningAnswers) :
    Moves m (m.resumeAdvertising answers) .provisioningAvailable none
      [answers.startAdvertising m.advertisementInfo m.proofOfPossession] :=
  ⟨rfl, rfl, rfl, rfl, _, List.append_assoc _ _ _, rfl⟩

theorem handleTimeout (m : ProvisioningManager) : Moves m m.handleTimeout
    (if m.wasAlreadyProvisionedWhenEntered then .idle else .notProvisioned)
    (some .provisioningFailed) [false] :=
  ⟨rfl, rfl, rfl, rfl, _, List.append_assoc _ _ _, rfl⟩

theorem openSession (m : ProvisioningManager) : Moves m
    (((m.enter .bleSessionActive).note .advertisingStopped).note (.indicated .appConnected))
    .bleSessionActive none [false] :=
  ⟨rfl, rfl, rfl, rfl, _, List.append_assoc _ _ _, rfl⟩

theorem received (m : ProvisioningManager) (h : answers.receivedCredentials = some credentials) :
    Moves m (m.checkForCredentials answers) .connectingWifi none [false] := by
  rw [checkForCredentials, h]
  refine ⟨rfl, rfl, rfl, rfl, [.stored kWifiSsidKey credentials.ssid,
    .stored kWifiPasswordKey credentials.password, .advertisingStopped,
    .wifiBegun ⟨cString credentials.ssid, cString credentials.password⟩], ?_, rfl⟩
  simp only [ProvisioningManager.enter, ProvisioningManager.note, ProvisioningManager.write,
    List.append_assoc, List.cons_append, List.nil_append]

theorem finishSuccess (m : ProvisioningManager) (nowMs : UInt32) (answers : ProvisioningAnswers) :
    Moves m (m.finishProvisioning true nowMs answers) .provisioned
      (some .provisioningCompleted) [] :=
  ⟨rfl, rfl, rfl, rfl, _, List.append_assoc _ _ _, rfl⟩

theorem failAndResume (m : ProvisioningManager) (answers : ProvisioningAnswers) :
    Moves m ((((m.enter .provisioningFailed).note (.indicated .provisioningFailure)).report
        .provisioningFailed).resumeAdvertising answers) .provisioningAvailable
      (some .provisioningFailed)
      [answers.startAdvertising m.advertisementInfo m.proofOfPossession] := by
  have hfailed : Moves m (((m.enter .provisioningFailed).note
      (.indicated .provisioningFailure)).report .provisioningFailed) .provisioningFailed
        (some .provisioningFailed) [] := ⟨rfl, rfl, rfl, rfl, _, rfl, rfl⟩
  exact hfailed.trans (resumeAdvertising _ answers)

end Moves

theorem Moves.ended {m n : ProvisioningManager} (h : Moves m n
    (if m.wasAlreadyProvisionedWhenEntered then .idle else .notProvisioned) reported advertising) :
    n.state = .idle ∨ n.state = .notProvisioned := by
  rw [h.state]
  cases m.wasAlreadyProvisionedWhenEntered with
  | false => exact .inr rfl
  | true => exact .inl rfl

theorem active_of_state {m : ProvisioningManager} (h : m.state = .provisioningAvailable ∨
    m.state = .bleSessionActive ∨ m.state = .connectingWifi) : m.isActivelyProvisioning = true := by
  rcases h with h | h | h <;> rw [isActivelyProvisioning, h]

theorem inactive_of_state {m : ProvisioningManager} (h : m.state = .provisioningFailed ∨
    m.state = .provisioned ∨ m.state = .idle ∨ m.state = .notProvisioned) :
    m.isActivelyProvisioning = false := by
  rcases h with h | h | h | h <;> rw [isActivelyProvisioning, h]

/-- Within the window every failure is recoverable. -/
theorem finishFailure_eq {m : ProvisioningManager}
    (h : nowMs - m.provisioningStartedAtMs < kProvisioningWindowMs)
    (answers : ProvisioningAnswers) : m.finishProvisioning false nowMs answers =
      (((m.enter .provisioningFailed).note (.indicated .provisioningFailure)).report
        .provisioningFailed).resumeAdvertising answers := if_pos h

theorem enter_wifi (m : ProvisioningManager) (state : ProvisioningState) :
    (m.enter state).wifi = m.wifi := rfl

theorem write_wifi (m : ProvisioningManager) (key value : Bytes) :
    (m.write key value).wifi = m.wifi := rfl

theorem finishSuccess_wifi (m : ProvisioningManager) (nowMs : UInt32)
    (answers : ProvisioningAnswers) :
    (m.finishProvisioning true nowMs answers).wifi = m.wifi := rfl

theorem failAndResume_wifi (m : ProvisioningManager) (answers : ProvisioningAnswers) :
    ((((m.enter .provisioningFailed).note (.indicated .provisioningFailure)).report
      .provisioningFailed).resumeAdvertising answers).wifi = m.wifi := rfl

/-- What a call of `update` can do. -/
inductive UpdateCase (m : ProvisioningManager) (nowMs : UInt32) (answers : ProvisioningAnswers)
    (n : ProvisioningManager) : Prop where
  | inactive (inactive : m.isActivelyProvisioning = false) (same : n = m)
  | timedOut (timesOut : m.TimesOut nowMs)
      (moves : Moves m n (if m.wasAlreadyProvisionedWhenEntered then .idle else .notProvisioned)
        (some .provisioningFailed) [false]) (wifi : n.wifi = m.wifi)
  | sessionOpened (within : nowMs - m.provisioningStartedAtMs < kProvisioningWindowMs)
      (available : m.state = .provisioningAvailable) (session : answers.sessionActive = true)
      (moves : Moves m n .bleSessionActive none [false]) (wifi : n.wifi = m.wifi)
  | received (asks : m.AsksForCredentials nowMs answers) (credentials : WifiCredentials)
      (delivered : answers.receivedCredentials = some credentials)
      (moves : Moves m n .connectingWifi none [false]) (wifi : n.wifi = m.wifi.begin)
  | waiting (active : m.isActivelyProvisioning = true)
      (within : nowMs - m.provisioningStartedAtMs < kProvisioningWindowMs)
      (undelivered : m.delivered? nowMs answers = none) (linkUnread : m.state ≠ .connectingWifi)
      (connected : m.state = .bleSessionActive → answers.sessionActive = true) (same : n = m)
  | dropped (within : nowMs - m.provisioningStartedAtMs < kProvisioningWindowMs)
      (session : m.state = .bleSessionActive) (undelivered : answers.receivedCredentials = none)
      (dropped : answers.sessionActive = false)
      (moves : Moves m n .provisioningAvailable none
        [answers.startAdvertising m.advertisementInfo m.proofOfPossession])
      (wifi : n.wifi = m.wifi)
  | linkDown (within : nowMs - m.provisioningStartedAtMs < kProvisioningWindowMs)
      (connecting : m.state = .connectingWifi)
      (down : (m.wifi.update answers.wifiConnected).1.isConnected = false)
      (moves : Moves m n .connectingWifi none [])
      (wifi : n.wifi = (m.wifi.update answers.wifiConnected).1)
  | completed (advances : m.AdvancesAfterWifi nowMs answers)
      (enrolled : DeviceCredentialStore.hasCertificate m.store = true ∨
        (provision answers.fleet m.templateName m.deviceId).1 = .success)
      (moves : Moves m n .provisioned (some .provisioningCompleted) [])
      (wifi : n.wifi = (m.wifi.update answers.wifiConnected).1)
  | failed (advances : m.AdvancesAfterWifi nowMs answers)
      (uncertified : DeviceCredentialStore.hasCertificate m.store = false)
      (refused : (provision answers.fleet m.templateName m.deviceId).1 ≠ .success)
      (moves : Moves m n .provisioningAvailable (some .provisioningFailed)
        [answers.startAdvertising m.advertisementInfo m.proofOfPossession])
      (wifi : n.wifi = (m.wifi.update answers.wifiConnected).1)

theorem UpdateCase.advanced {m : ProvisioningManager} (h : m.AdvancesAfterWifi nowMs answers) :
    UpdateCase m nowMs answers (m.update nowMs answers) := by
  rw [update_advances h]
  generalize hlink : { m with wifi := (m.wifi.update answers.wifiConnected).1 } = linked
  have hlinked : Moves m linked m.state none [] := by
    rw [← hlink]
    exact .withWifi m _
  have hwithin : nowMs - linked.provisioningStartedAtMs < kProvisioningWindowMs := by
    rw [hlinked.startedAt]
    exact h.1
  have hwifi : linked.wifi = (m.wifi.update answers.wifiConnected).1 := by rw [← hlink]
  have hstore : linked.store = m.store := by rw [← hlink]
  have hprovision : provision answers.fleet linked.templateName linked.deviceId =
      provision answers.fleet m.templateName m.deviceId := by rw [← hlink]
  have hinfo : answers.startAdvertising linked.advertisementInfo linked.proofOfPossession =
      answers.startAdvertising m.advertisementInfo m.proofOfPossession := by rw [← hlink]
  cases hcertificate : DeviceCredentialStore.hasCertificate m.store with
  | true =>
    rw [advance_certified (hstore ▸ hcertificate)]
    exact .completed h (.inl hcertificate)
      ((hlinked.trans (.enter linked _)).trans (.finishSuccess _ nowMs answers)) hwifi
  | false =>
    have hcases := provision_cases answers.fleet m.templateName m.deviceId
    generalize houtcome : provision answers.fleet m.templateName m.deviceId = outcome at hcases
    cases hcases with
    | @failed result hresult =>
      have hentered : nowMs - (linked.enter .fleetProvisioning).provisioningStartedAtMs <
          kProvisioningWindowMs := hwithin
      rw [advance_failed (hstore ▸ hcertificate) (hprovision.trans houtcome) hresult,
        finishFailure_eq hentered]
      have hmoves := (hlinked.trans (.enter linked .fleetProvisioning)).trans
        (.failAndResume _ answers)
      rw [List.append_nil, List.nil_append, show answers.startAdvertising
        (linked.enter .fleetProvisioning).advertisementInfo
        (linked.enter .fleetProvisioning).proofOfPossession = _ from hinfo] at hmoves
      have hrefused : (provision answers.fleet m.templateName m.deviceId).1 ≠ .success := by
        rw [houtcome]
        exact hresult
      exact .failed h hcertificate hrefused hmoves
        (by rw [failAndResume_wifi, enter_wifi, hwifi])
    | @enrolled privateKey certificate henrols =>
      rw [advance_enrolled (hstore ▸ hcertificate) (hprovision.trans houtcome)]
      have hwritten : (((linked.enter .fleetProvisioning).write kPrivateKeyKey privateKey).write
          kCertificateKey certificate).wifi = (m.wifi.update answers.wifiConnected).1 := by
        rw [write_wifi, write_wifi, enter_wifi, hwifi]
      have hstored := ((hlinked.trans (.enter linked .fleetProvisioning)).trans
        (.write _ kPrivateKeyKey privateKey)).trans (.write _ kCertificateKey certificate)
      exact .completed h (.inr (congrArg Prod.fst houtcome))
        ((hstored.trans (.enter _ .cloudConnecting)).trans (.finishSuccess _ nowMs answers))
        (by rw [finishSuccess_wifi, enter_wifi, hwritten])

theorem update_received {m : ProvisioningManager} (h : m.AsksForCredentials nowMs answers)
    (hreceived : answers.receivedCredentials = some credentials) :
    m.update nowMs answers = m.checkForCredentials answers := by
  obtain ⟨hwindow, hstate⟩ := h
  rw [← UInt32.not_le] at hwindow
  rcases hstate with ⟨hs, hsession⟩ | hs
  · simp only [update, isActivelyProvisioning, hs, hsession, Bool.not_true, Bool.false_eq_true,
      if_false, if_neg hwindow]
  · simp only [update, isActivelyProvisioning, hs, Bool.not_true, Bool.false_eq_true, if_false,
      if_neg hwindow, checkForCredentials_state m hreceived, reduceCtorEq, false_and]

theorem UpdateCase.asked {m : ProvisioningManager} (h : m.AsksForCredentials nowMs answers)
    (hreceived : answers.receivedCredentials = none) :
    UpdateCase m nowMs answers (m.update nowMs answers) := by
  have hundelivered : m.delivered? nowMs answers = none := by
    rw [delivered?, if_pos h]
    exact hreceived
  obtain ⟨hwithin, hstate⟩ := h
  have hwindow := UInt32.not_le.mpr hwithin
  have hactive : m.isActivelyProvisioning = true := by
    rcases hstate with ⟨hs, _⟩ | hs
    · exact active_of_state (.inl hs)
    · exact active_of_state (.inr (.inl hs))
  rcases hstate with ⟨hs, hsession⟩ | hs
  · refine .waiting hactive hwithin hundelivered (fun h => ?_) (fun h => ?_) ?_
    · cases hs.symm.trans h
    · cases hs.symm.trans h
    simp only [update, hactive, hs, hsession, Bool.not_true, Bool.false_eq_true, if_false,
      if_neg hwindow, checkForCredentials_none m hreceived]
  · cases hsession : answers.sessionActive with
    | true =>
      refine .waiting hactive hwithin hundelivered (fun h => ?_) (fun _ => hsession) ?_
      · cases hs.symm.trans h
      simp only [update, hactive, hs, hsession, Bool.not_true, Bool.false_eq_true, if_false,
        if_neg hwindow, checkForCredentials_none m hreceived, and_false]
    | false =>
      have hupdate : m.update nowMs answers = m.resumeAdvertising answers := by
        simp only [update, hactive, hs, hsession, Bool.not_true, Bool.false_eq_true, if_false,
          if_neg hwindow, checkForCredentials_none m hreceived, Bool.not_false, and_self, if_true]
      rw [hupdate]
      exact .dropped hwithin hs hreceived hsession (.resumeAdvertising m answers) rfl

theorem update_cases (m : ProvisioningManager) (nowMs : UInt32) (answers : ProvisioningAnswers) :
    UpdateCase m nowMs answers (m.update nowMs answers) := by
  by_cases hactive : m.isActivelyProvisioning = true
  case neg =>
    rw [Bool.not_eq_true] at hactive
    refine .inactive hactive ?_
    rw [update, hactive, Bool.not_false, if_pos rfl]
  by_cases hout : m.TimesOut nowMs
  · rw [update_timesOut hout]
    exact .timedOut hout (.handleTimeout m) rfl
  have hwithin : nowMs - m.provisioningStartedAtMs < kProvisioningWindowMs :=
    UInt32.not_le.mp fun h => hout ⟨hactive, h⟩
  by_cases hadvances : m.AdvancesAfterWifi nowMs answers
  · exact .advanced hadvances
  by_cases hasks : m.AsksForCredentials nowMs answers
  · cases hreceived : answers.receivedCredentials with
    | none => exact .asked hasks hreceived
    | some credentials =>
      rw [update_received hasks hreceived]
      have hwifi : (m.checkForCredentials answers).wifi = m.wifi.begin := by
        rw [checkForCredentials, hreceived]
        rfl
      exact .received hasks credentials hreceived (.received m hreceived) hwifi
  have hwindow := UInt32.not_le.mpr hwithin
  cases hs : m.state with
  | provisioningAvailable =>
    have hsession : answers.sessionActive = true := by
      by_contra hsession
      exact hasks ⟨hwithin, .inl ⟨hs, Bool.eq_false_iff.mpr hsession⟩⟩
    have hupdate : m.update nowMs answers = ((m.enter .bleSessionActive).note
        .advertisingStopped).note (.indicated .appConnected) := by
      simp only [update, hactive, hs, hsession, Bool.not_true, Bool.false_eq_true, if_false,
        if_neg hwindow, if_true]
    rw [hupdate]
    exact .sessionOpened hwithin hs hsession (.openSession m) rfl
  | bleSessionActive => exact absurd ⟨hwithin, .inr hs⟩ hasks
  | connectingWifi =>
    have hdown : (m.wifi.update answers.wifiConnected).1.isConnected = false := by
      by_contra hup
      exact hadvances ⟨hwithin, hs, Bool.not_eq_false _ ▸ hup⟩
    have hupdate : m.update nowMs answers =
        { m with wifi := (m.wifi.update answers.wifiConnected).1 } := by
      simp only [update, hactive, hs, Bool.not_true, Bool.false_eq_true, if_false,
        if_neg hwindow, hdown]
    rw [hupdate]
    exact .linkDown hwithin hs hdown (hs ▸ .withWifi m _) rfl
  | fleetProvisioning =>
    refine .waiting hactive hwithin (if_neg hasks) (fun h => ?_) (fun h => ?_) ?_
    · cases hs.symm.trans h
    · cases hs.symm.trans h
    simp only [update, hactive, hs, Bool.not_true, Bool.false_eq_true, if_false, if_neg hwindow]
  | cloudConnecting =>
    refine .waiting hactive hwithin (if_neg hasks) (fun h => ?_) (fun h => ?_) ?_
    · cases hs.symm.trans h
    · cases hs.symm.trans h
    simp only [update, hactive, hs, Bool.not_true, Bool.false_eq_true, if_false, if_neg hwindow]
  | provisioningFailed => cases (inactive_of_state (.inl hs)).symm.trans hactive
  | provisioned => cases (inactive_of_state (.inr (.inl hs))).symm.trans hactive
  | idle => cases (inactive_of_state (.inr (.inr (.inl hs)))).symm.trans hactive
  | notProvisioned => cases (inactive_of_state (.inr (.inr (.inr hs)))).symm.trans hactive

/-- Provisioning was entered, with advertising started or not. -/
structure Entered (m n : ProvisioningManager) (nowMs : UInt32) (started : Bool) : Prop where
  state : n.state = if started then .provisioningAvailable else .provisioningFailed
  pendingEvent : n.pendingEvent =
    some (if started then .provisioningStarted else .provisioningFailed)
  startedAt : n.provisioningStartedAtMs = nowMs
  wifi : n.wifi = m.wifi
  effects : n.effects = m.effects ++ [.advertisingRequested started,
    .indicated (if started then .provisioningAvailable else .provisioningFailure)]

theorem Entered.settled {m n : ProvisioningManager} (h : Entered m n nowMs started) :
    n.state = .provisioningAvailable ∨ n.state = .provisioningFailed := by
  rw [h.state]
  cases started with
  | false => exact .inr rfl
  | true => exact .inl rfl

theorem enterProvisioning_entered (m : ProvisioningManager) (nowMs : UInt32)
    (answers : ProvisioningAnswers) : Entered m (m.enterProvisioning nowMs answers) nowMs
      (answers.startAdvertising m.advertisementInfo m.proofOfPossession) := by
  rw [enterProvisioning, startAdvertising]
  dsimp only
  cases hstarted : answers.startAdvertising m.advertisementInfo m.proofOfPossession with
  | false =>
    rw [Bool.not_false, if_pos rfl]
    exact ⟨rfl, rfl, rfl, rfl, List.append_assoc _ _ _⟩
  | true =>
    rw [Bool.not_true, if_neg Bool.noConfusion]
    exact ⟨rfl, rfl, rfl, rfl, List.append_assoc _ _ _⟩

/-- The call may enter provisioning, at this time and with these answers. -/
def ManagerCall.beginning? : ManagerCall → Option (UInt32 × ProvisioningAnswers)
  | .checkAtBoot nowMs answers => some (nowMs, answers)
  | .operate (.requestProvisioning nowMs answers) => some (nowMs, answers)
  | .operate _ => none

theorem ManagerCall.eq_of_beginning {c : ManagerCall} (h : c.beginning? = some (nowMs, answers)) :
    c = .checkAtBoot nowMs answers ∨ c = .operate (.requestProvisioning nowMs answers) := by
  cases c with
  | checkAtBoot nowMs answers =>
    cases h
    exact .inl rfl
  | operate operation =>
    cases operation with
    | requestProvisioning nowMs answers =>
      cases h
      exact .inr rfl
    | update nowMs answers => cases h
    | pollEvent => cases h
    | wifiUpdate connected => cases h

/-- What a call can do. -/
inductive CallCase (m : ProvisioningManager) : ManagerCall → ProvisioningManager → Prop where
  | entered (call : ManagerCall) (enters : call.Enters m) (nowMs : UInt32)
      (answers : ProvisioningAnswers) (beginning : call.beginning? = some (nowMs, answers))
      (n : ProvisioningManager) (entered : Entered m n nowMs
        (answers.startAdvertising m.advertisementInfo m.proofOfPossession)) :
    CallCase m call n
  | ignored (call : ManagerCall) (stays : ¬ call.Enters m)
      (beginning : call.beginning?.isSome = true) : CallCase m call m
  | updated (nowMs : UInt32) (answers : ProvisioningAnswers) (n : ProvisioningManager)
      (updated : UpdateCase m nowMs answers n) : CallCase m (.operate (.update nowMs answers)) n
  | polled : CallCase m (.operate .pollEvent) { m with pendingEvent := none }
  | linkRead (connected : Bool) : CallCase m (.operate (.wifiUpdate connected))
      { m with wifi := (m.wifi.update connected).1 }

theorem call_cases (m : ProvisioningManager) (c : ManagerCall) : CallCase m c (m.call c).1 := by
  cases c with
  | checkAtBoot nowMs answers =>
    cases hhas : m.store.has kWifiSsidKey with
    | false =>
      have henters : (ManagerCall.checkAtBoot nowMs answers).Enters m := hhas
      rw [call, checkAtBoot_of_not_has hhas]
      exact .entered _ henters nowMs answers rfl _ (enterProvisioning_entered m nowMs answers)
    | true =>
      rw [call, checkAtBoot_of_has hhas]
      refine .ignored _ (fun henters => ?_) rfl
      exact Bool.noConfusion (hhas.symm.trans henters)
  | operate operation =>
    cases operation with
    | requestProvisioning nowMs answers =>
      cases hactive : m.isActivelyProvisioning with
      | false =>
        have henters : (ManagerCall.operate (.requestProvisioning nowMs answers)).Enters m :=
          hactive
        rw [call, operate, requestProvisioning, hactive, if_neg Bool.noConfusion]
        exact .entered _ henters nowMs answers rfl _ (enterProvisioning_entered m nowMs answers)
      | true =>
        rw [call, operate, requestProvisioning, hactive, if_pos rfl]
        refine .ignored _ (fun henters => ?_) rfl
        exact Bool.noConfusion (hactive.symm.trans henters)
    | update nowMs answers => exact .updated nowMs answers _ (update_cases m nowMs answers)
    | pollEvent => exact .polled
    | wifiUpdate connected => exact .linkRead connected

theorem call_entered {m : ProvisioningManager} {c : ManagerCall} (h : c.Enters m) :
    ∃ nowMs, ∃ answers : ProvisioningAnswers, c.beginning? = some (nowMs, answers) ∧
      Entered m (m.call c).1 nowMs
        (answers.startAdvertising m.advertisementInfo m.proofOfPossession) := by
  have hcases := call_cases m c
  generalize (m.call c).1 = n at hcases
  cases hcases with
  | entered _ _ nowMs answers hbeginning _ hentered => exact ⟨nowMs, answers, hbeginning, hentered⟩
  | ignored _ hstays => exact absurd h hstays
  | updated => exact h.elim
  | polled => exact h.elim
  | linkRead => exact h.elim

theorem call_ignored {m : ProvisioningManager} {c : ManagerCall} (h : ¬ c.Enters m)
    (hbeginning : c.beginning?.isSome = true) : (m.call c).1 = m := by
  have hcases := call_cases m c
  generalize (m.call c).1 = n at hcases
  cases hcases with
  | entered _ henters => exact absurd henters h
  | ignored => rfl
  | updated => cases hbeginning
  | polled => cases hbeginning
  | linkRead => cases hbeginning

end ProvisioningManager
end InterBridge
