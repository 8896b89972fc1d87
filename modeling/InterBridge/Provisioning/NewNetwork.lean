import InterBridge.Provisioning.ManagerCalls
import InterBridge.Provisioning.NeverProvisioned

namespace InterBridge
open Foundations
set_option autoImplicit true

namespace WifiManager

theorem update_started (wifi : WifiManager) (connected : Bool) :
    (wifi.update connected).1.started = wifi.started := by
  rw [update]
  split
  · rfl
  · split <;> rfl

theorem update_isConnected {wifi : WifiManager} (h : wifi.started = true) (connected : Bool) :
    (wifi.update connected).1.isConnected = connected := by
  rw [update, h, Bool.not_true, if_neg Bool.noConfusion]
  split
  next hsame => exact hsame.symm
  next => rfl

end WifiManager

namespace ProvisioningManager

/-- The credentials a call receives; with them `WiFi.begin` is called. -/
def ManagerCall.delivered? (m : ProvisioningManager) : ManagerCall → Option WifiCredentials
  | .checkAtBoot _ _ => none
  | .operate operation => operation.delivered? m

/-- The status of the link that a call reads. -/
def ManagerCall.linkRead? (m : ProvisioningManager) : ManagerCall → Option Bool
  | .operate (.wifiUpdate connected) => if m.wifi.started then some connected else none
  | .operate (.update nowMs answers) =>
    if m.wifi.started = true ∧ m.state = .connectingWifi ∧
        nowMs - m.provisioningStartedAtMs < kProvisioningWindowMs then
      some answers.wifiConnected
    else none
  | _ => none

namespace CallTransition

def Enters (t : CallTransition) : Prop := t.input.Enters t.before

def Delivers (t : CallTransition) : Prop := (t.input.delivered? t.before).isSome = true

/-- The state `Provisioned` is reached, or the mark of it is stored. -/
def Provisions (t : CallTransition) : Prop :=
  t.before.state ≠ .provisioned ∧ t.after.state = .provisioned ∨
    .stored kProvisionedKey (ascii "1") ∈ t.after.effects.drop t.before.effects.length

end CallTransition

def readsOf (ts : List CallTransition) : List Bool :=
  ts.filterMap fun t => t.input.linkRead? t.before

/-- Since credentials were received last, within their attempt, this happened. -/
structure SinceDelivery (ts since : List CallTransition) : Prop where
  split : ∃ before delivery, ts = before ++ delivery :: since ∧ CallTransition.Delivers delivery
  last : ∀ u ∈ since, ¬ CallTransition.Delivers u
  sameAttempt : ∀ u ∈ since, ¬ CallTransition.Enters u

/-- After the call of `WiFi.begin` the link was seen down, and then up. -/
def NewLinkObserved (earlier : List CallTransition) (t : CallTransition) : Prop :=
  ∃ since, SinceDelivery earlier since ∧ [false, true].Sublist (readsOf (since ++ [t]))

/-- The attempt finds Wi-Fi connected, and what it needs besides. -/
def Completes (m : ProvisioningManager) (nowMs : UInt32) (answers : ProvisioningAnswers) : Prop :=
  m.AdvancesAfterWifi nowMs answers ∧ (DeviceCredentialStore.hasCertificate m.store = true ∨
    (provision answers.fleet m.templateName m.deviceId).1 = .success)

/-- The first update after credentials were received completes the attempt over a link that was
never seen down. -/
structure TakesOldLink (earlier : List CallTransition) (t : CallTransition) : Prop where
  first : ∃ since, SinceDelivery earlier since ∧ (∀ u ∈ since, u.input.isUpdate = false) ∧
    ∀ status ∈ readsOf since, status = true
  completes : ∃ nowMs answers, t.input = .operate (.update nowMs answers) ∧
    t.before.Completes nowMs answers

theorem readsOf_append (ts ts' : List CallTransition) :
    readsOf (ts ++ ts') = readsOf ts ++ readsOf ts' := List.filterMap_append

theorem SinceDelivery.start {t : CallTransition} (h : t.Delivers) (ts : List CallTransition) :
    SinceDelivery (ts ++ [t]) [] :=
  ⟨⟨ts, t, rfl, h⟩, List.forall_mem_nil _, List.forall_mem_nil _⟩

theorem SinceDelivery.next {t : CallTransition} (h : SinceDelivery ts since)
    (hdelivers : ¬ t.Delivers) (henters : ¬ t.Enters) :
    SinceDelivery (ts ++ [t]) (since ++ [t]) := by
  obtain ⟨before, delivery, rfl, hdelivery⟩ := h.split
  refine ⟨⟨before, delivery, List.append_assoc _ _ _, hdelivery⟩, ?_, ?_⟩
  · rw [List.forall_mem_append, List.forall_mem_singleton]
    exact ⟨h.last, hdelivers⟩
  · rw [List.forall_mem_append, List.forall_mem_singleton]
    exact ⟨h.sameAttempt, henters⟩

theorem SinceDelivery.unique (h : SinceDelivery ts since) (h' : SinceDelivery ts since') :
    since = since' := by
  obtain ⟨before, delivery, rfl, hdelivery⟩ := h.split
  obtain ⟨before', delivery', hts, hdelivery'⟩ := h'.split
  exact after_last_unique hts hdelivery hdelivery' h.last h'.last

/-- While an attempt connects, every update since the credentials were received found the link
down. -/
def RemembersLink (ts : List CallTransition) (m : ProvisioningManager) : Prop :=
  m.state = .connectingWifi → m.wifi.started = true ∧ ∃ since, SinceDelivery ts since ∧
    ((∃ u ∈ since, u.input.isUpdate = true) → false ∈ readsOf since)

theorem RemembersLink.stays {m n : ProvisioningManager} {t : CallTransition}
    (h : RemembersLink ts m) (hconnecting : m.state = .connectingWifi)
    (hstarted : m.wifi.started = true → n.wifi.started = true) (hdelivers : ¬ t.Delivers)
    (henters : ¬ t.Enters) (hdown : t.input.isUpdate = true →
      m.wifi.started = true → t.input.linkRead? t.before = some false) :
    RemembersLink (ts ++ [t]) n := by
  intro _
  obtain ⟨hbegun, since, hsince, hreads⟩ := h hconnecting
  refine ⟨hstarted hbegun, since ++ [t], hsince.next hdelivers henters, ?_⟩
  intro hupdated
  obtain ⟨u, hu, hupdate⟩ := hupdated
  rw [readsOf_append, List.mem_append]
  rcases List.mem_append.mp hu with hearlier | hlast
  · exact .inl (hreads ⟨u, hearlier, hupdate⟩)
  · rw [List.mem_singleton] at hlast
    subst hlast
    exact .inr (List.mem_filterMap.mpr ⟨u, List.mem_singleton_self u, hdown hupdate hbegun⟩)

theorem RemembersLink.of_state {m : ProvisioningManager} (h : m.state ≠ .connectingWifi)
    (ts : List CallTransition) : RemembersLink ts m := fun hs => absurd hs h

theorem linkRead?_update {m : ProvisioningManager} (hstarted : m.wifi.started = true)
    (hconnecting : m.state = .connectingWifi)
    (hwithin : nowMs - m.provisioningStartedAtMs < kProvisioningWindowMs) :
    (ManagerCall.operate (.update nowMs answers)).linkRead? m = some answers.wifiConnected :=
  if_pos ⟨hstarted, hconnecting, hwithin⟩

theorem RemembersLink.update {m n : ProvisioningManager} (h : RemembersLink ts m)
    (hcase : UpdateCase m nowMs answers n) (output : Option ProvisioningEvent) :
    RemembersLink (ts ++ [⟨m, .operate (.update nowMs answers), output, n⟩]) n := by
  cases hcase with
  | inactive hinactive hsame =>
    refine .of_state (fun hs => ?_) _
    rw [hsame] at hs
    cases hinactive.symm.trans (active_of_state (.inr (.inr hs)))
  | timedOut _ hmoves _ =>
    refine .of_state (fun hs => ?_) _
    rcases hmoves.ended with hended | hended
    · cases hended.symm.trans hs
    · cases hended.symm.trans hs
  | sessionOpened _ _ _ hmoves _ =>
    exact .of_state (hmoves.state ▸ ProvisioningState.noConfusion) _
  | received hasks credentials hdelivered _ hwifi =>
    intro _
    have hdelivers : CallTransition.Delivers
        ⟨m, .operate (.update nowMs answers), output, n⟩ := by
      change (m.delivered? nowMs answers).isSome = true
      rw [ProvisioningManager.delivered?, if_pos hasks, hdelivered]
      rfl
    refine ⟨hwifi ▸ rfl, [], .start hdelivers ts, fun hupdated => ?_⟩
    obtain ⟨u, hu, _⟩ := hupdated
    cases hu
  | waiting _ _ _ hunread _ hsame => exact .of_state (hsame ▸ hunread) _
  | dropped _ _ _ _ hmoves _ =>
    exact .of_state (hmoves.state ▸ ProvisioningState.noConfusion) _
  | linkDown hwithin hconnecting hdown hmoves hwifi =>
    refine h.stays hconnecting (fun hbegun => ?_) (fun hdelivers => ?_) id fun _ hbegun => ?_
    · rw [hwifi, WifiManager.update_started]
      exact hbegun
    · have hnone : m.delivered? nowMs answers = none :=
        delivered?_of_connectingWifi hconnecting nowMs answers
      have hsome : (m.delivered? nowMs answers).isSome = true := hdelivers
      rw [hnone] at hsome
      cases hsome
    · rw [WifiManager.update_isConnected hbegun] at hdown
      rw [linkRead?_update hbegun hconnecting hwithin, hdown]
  | completed _ _ hmoves _ => exact .of_state (hmoves.state ▸ ProvisioningState.noConfusion) _
  | failed _ _ _ hmoves _ => exact .of_state (hmoves.state ▸ ProvisioningState.noConfusion) _

theorem beginning_quiet {c : ManagerCall} (h : c.beginning?.isSome = true)
    (m : ProvisioningManager) : c.delivered? m = none ∧ c.isUpdate = false := by
  obtain ⟨⟨nowMs, answers⟩, hbeginning⟩ := Option.isSome_iff_exists.mp h
  rcases c.eq_of_beginning hbeginning with rfl | rfl
  · exact ⟨rfl, rfl⟩
  · exact ⟨rfl, rfl⟩

theorem RemembersLink.next {m : ProvisioningManager} (h : RemembersLink ts m) (c : ManagerCall) :
    RemembersLink (ts ++ [.of call m c]) (m.call c).1 := by
  rw [Transition.of]
  have hcases := call_cases m c
  generalize (m.call c).1 = n at hcases
  generalize (m.call c).2 = output
  cases hcases with
  | entered _ _ nowMs answers _ _ hentered =>
    refine .of_state (fun hs => ?_) _
    rcases hentered.settled with hsettled | hsettled
    · cases hsettled.symm.trans hs
    · cases hsettled.symm.trans hs
  | updated nowMs answers n hupdated => exact h.update hupdated output
  | ignored _ hstays hbeginning =>
    intro hconnecting
    obtain ⟨hnone, hnever⟩ := beginning_quiet hbeginning m
    refine h.stays hconnecting id (fun hdelivers => ?_) hstays (fun hupdate _ => ?_) hconnecting
    · have hsome : (c.delivered? m).isSome = true := hdelivers
      rw [hnone] at hsome
      cases hsome
    · exact absurd (hnever.symm.trans hupdate) Bool.noConfusion
  | polled =>
    intro hconnecting
    exact h.stays hconnecting id (fun hdelivers => Bool.noConfusion hdelivers) id
      (fun hupdate _ => Bool.noConfusion hupdate) hconnecting
  | linkRead connected =>
    intro hconnecting
    refine h.stays hconnecting (fun hbegun => ?_) (fun hdelivers => Bool.noConfusion hdelivers) id
      (fun hupdate _ => Bool.noConfusion hupdate) hconnecting
    exact (m.wifi.update_started connected).trans hbegun

theorem mark_not_received (credentials : WifiCredentials) :
    AtomicWrite.put kProvisionedKey (ascii "1") ∉
      [AtomicWrite.put kWifiSsidKey credentials.ssid,
        AtomicWrite.put kWifiPasswordKey credentials.password] := by
  have hssid : kProvisionedKey ≠ kWifiSsidKey := by decide
  have hpassword : kProvisionedKey ≠ kWifiPasswordKey := by decide
  intro hmem
  rw [List.mem_cons, List.mem_singleton, AtomicWrite.put.injEq, AtomicWrite.put.injEq] at hmem
  rcases hmem with ⟨hkey, _⟩ | ⟨hkey, _⟩
  · exact hssid hkey
  · exact hpassword hkey

theorem completes_of_mark {m : ProvisioningManager}
    (h : .put kProvisionedKey (ascii "1") ∈ m.operationWrites (.update nowMs answers)) :
    m.Completes nowMs answers := by
  have hcases := operationWrites_cases m (.update nowMs answers)
  by_cases hadvances : m.AdvancesAfterWifi nowMs answers
  · refine ⟨hadvances, ?_⟩
    cases hcertificate : DeviceCredentialStore.hasCertificate m.store with
    | true => exact .inl rfl
    | false =>
      have hcalled : (Operation.update nowMs answers).provisionCall? m =
          some ⟨answers.fleet, m.templateName, m.deviceId⟩ := if_pos ⟨hadvances, hcertificate⟩
      generalize m.operationWrites (.update nowMs answers) = writes at hcases h
      cases hcases with
      | nothing => cases h
      | received _ hcall => cases hcalled.symm.trans hcall
      | certified _ _ hcall => cases hcalled.symm.trans hcall
      | enrolled _ _ hcall henrols _ =>
        cases hcalled.symm.trans hcall
        exact .inr henrols.success
  by_cases hasks : m.AsksForCredentials nowMs answers
  · have hstate : m.state ≠ .connectingWifi := by
      intro hconnecting
      rcases hasks.2 with ⟨hs, _⟩ | hs
      · cases hs.symm.trans hconnecting
      · cases hs.symm.trans hconnecting
    generalize m.operationWrites (.update nowMs answers) = writes at hcases h
    cases hcases with
    | nothing => cases h
    | received => exact absurd h (mark_not_received _)
    | certified hconnecting => exact absurd hconnecting hstate
    | enrolled hconnecting => exact absurd hconnecting hstate
  · have hquiet : m.operationWrites (.update nowMs answers) = [] :=
      Writes.operationWrites_eq (update_quiet hasks hadvances)
    rw [hquiet] at h
    cases h

theorem Completes.state {m : ProvisioningManager} (h : m.Completes nowMs answers) :
    (m.update nowMs answers).state = .provisioned := by
  obtain ⟨⟨hwithin, hconnecting, hconnected⟩, henrolled⟩ := h
  have hcases := update_cases m nowMs answers
  generalize m.update nowMs answers = n at hcases
  cases hcases with
  | inactive hinactive _ =>
    cases hinactive.symm.trans (active_of_state (.inr (.inr hconnecting)))
  | timedOut hout _ _ => exact absurd hout.2 (UInt32.not_le.mpr hwithin)
  | sessionOpened _ havailable => cases hconnecting.symm.trans havailable
  | received hasks =>
    rcases hasks.2 with ⟨hs, _⟩ | hs
    · cases hconnecting.symm.trans hs
    · cases hconnecting.symm.trans hs
  | waiting _ _ _ hunread => exact absurd hconnecting hunread
  | dropped _ hsession => cases hconnecting.symm.trans hsession
  | linkDown _ _ hdown => exact absurd (hdown.symm.trans hconnected) Bool.noConfusion
  | completed _ _ hmoves _ => exact hmoves.state
  | failed _ huncertified hrefused =>
    rcases henrolled with hcertified | hsuccess
    · exact absurd (huncertified.symm.trans hcertified) Bool.noConfusion
    · exact absurd hsuccess hrefused

theorem completes_of_state {m : ProvisioningManager} {c : ManagerCall}
    (hbefore : m.state ≠ .provisioned) (hafter : (m.call c).1.state = .provisioned) :
    ∃ nowMs answers, c = .operate (.update nowMs answers) ∧ m.Completes nowMs answers := by
  have hcases := call_cases m c
  generalize (m.call c).1 = n at hcases hafter
  cases hcases with
  | entered _ _ nowMs answers _ _ hentered =>
    rcases hentered.settled with hs | hs
    · cases hs.symm.trans hafter
    · cases hs.symm.trans hafter
  | ignored => exact absurd hafter hbefore
  | polled => exact absurd hafter hbefore
  | linkRead => exact absurd hafter hbefore
  | updated nowMs answers n hupdated =>
    cases hupdated with
    | inactive _ hsame => exact absurd (hsame ▸ hafter) hbefore
    | waiting _ _ _ _ _ hsame => exact absurd (hsame ▸ hafter) hbefore
    | timedOut _ hmoves _ =>
      rcases hmoves.ended with hs | hs
      · cases hs.symm.trans hafter
      · cases hs.symm.trans hafter
    | sessionOpened _ _ _ hmoves _ => cases hmoves.state.symm.trans hafter
    | received _ _ _ hmoves _ => cases hmoves.state.symm.trans hafter
    | dropped _ _ _ _ hmoves _ => cases hmoves.state.symm.trans hafter
    | linkDown _ _ _ hmoves _ => cases hmoves.state.symm.trans hafter
    | failed _ _ _ hmoves _ => cases hmoves.state.symm.trans hafter
    | completed hadvances henrolled _ _ => exact ⟨nowMs, answers, rfl, hadvances, henrolled⟩

theorem completes_of_stored {m : ProvisioningManager} {c : ManagerCall}
    (h : .stored kProvisionedKey (ascii "1") ∈ (m.call c).1.effects.drop m.effects.length) :
    ∃ nowMs answers, c = .operate (.update nowMs answers) ∧ m.Completes nowMs answers := by
  by_cases hupdate : ∃ nowMs answers, c = .operate (.update nowMs answers)
  · obtain ⟨nowMs, answers, rfl⟩ := hupdate
    exact ⟨nowMs, answers, rfl, completes_of_mark (List.mem_filterMap.mpr ⟨_, h, rfl⟩)⟩
  have hcases := call_cases m c
  generalize (m.call c).1 = n at hcases h
  cases hcases with
  | updated nowMs answers => exact absurd ⟨nowMs, answers, rfl⟩ hupdate
  | entered _ _ nowMs answers _ _ hentered =>
    rw [hentered.effects, List.drop_left, List.mem_cons, List.mem_singleton] at h
    rcases h with hrequested | hindicated
    · cases hrequested
    · cases hindicated
  | ignored =>
    rw [List.drop_length] at h
    cases h
  | polled =>
    rw [List.drop_length] at h
    cases h
  | linkRead connected =>
    rw [List.drop_length] at h
    cases h

theorem provisions_iff (m : ProvisioningManager) (c : ManagerCall) :
    CallTransition.Provisions (.of call m c) ↔
      ∃ nowMs answers, c = .operate (.update nowMs answers) ∧ m.Completes nowMs answers := by
  constructor
  · intro h
    rcases h with ⟨hbefore, hafter⟩ | hstored
    · exact completes_of_state hbefore hafter
    · exact completes_of_stored hstored
  · intro h
    obtain ⟨nowMs, answers, rfl, hcompletes⟩ := h
    refine .inl ⟨?_, hcompletes.state⟩
    have hconnecting : m.state = .connectingWifi := hcompletes.1.2.1
    exact hconnecting ▸ ProvisioningState.noConfusion

theorem Completes.reads {m : ProvisioningManager} (h : m.Completes nowMs answers)
    (hbegun : m.wifi.started = true) (since : List CallTransition) :
    readsOf (since ++ [.of call m (.operate (.update nowMs answers))]) =
      readsOf since ++ [true] := by
  obtain ⟨⟨hwithin, hconnecting, hconnected⟩, _⟩ := h
  rw [WifiManager.update_isConnected hbegun] at hconnected
  have hread : (ManagerCall.operate (.update nowMs answers)).linkRead? m = some true := by
    rw [linkRead?_update hbegun hconnecting hwithin, hconnected]
  rw [readsOf_append]
  exact congrArg (readsOf since ++ Option.toList ·) hread

/-- An attempt is completed over a link that was seen down exactly where its first update does not
take the old one. -/
theorem RemembersLink.observed_iff {m : ProvisioningManager} {earlier : List CallTransition}
    (h : RemembersLink earlier m) (c : ManagerCall) :
    (CallTransition.Provisions (.of call m c) → NewLinkObserved earlier (.of call m c)) ↔
      ¬ TakesOldLink earlier (.of call m c) := by
  rw [provisions_iff]
  constructor
  · intro hobserved hold
    obtain ⟨since, hsince, _, hup⟩ := hold.first
    obtain ⟨nowMs, answers, hinput, hcompletes⟩ := hold.completes
    obtain ⟨since', hsince', hreads⟩ := hobserved ⟨nowMs, answers, hinput, hcompletes⟩
    cases hsince.unique hsince'
    cases hinput
    have hcompletes : m.Completes nowMs answers := hcompletes
    obtain ⟨hbegun, _⟩ := h hcompletes.1.2.1
    rw [hcompletes.reads hbegun] at hreads
    rcases List.mem_append.mp (hreads.subset List.mem_cons_self) with hdown | hlast
    · exact Bool.noConfusion (hup false hdown)
    · exact Bool.noConfusion (List.mem_singleton.mp hlast)
  · intro hnever hcompletes
    obtain ⟨nowMs, answers, rfl, hcompletes⟩ := hcompletes
    obtain ⟨hbegun, since, hsince, hdown⟩ := h hcompletes.1.2.1
    have hfalse : false ∈ readsOf since := by
      by_contra hup
      have hfirst : ∀ u ∈ since, u.input.isUpdate = false := fun u hu =>
        Bool.eq_false_iff.mpr fun hupdate => hup (hdown ⟨u, hu, hupdate⟩)
      have htrue : ∀ status ∈ readsOf since, status = true := fun status hstatus =>
        Bool.of_not_eq_false fun hdown => hup (hdown ▸ hstatus)
      exact hnever ⟨⟨since, hsince, hfirst, htrue⟩, nowMs, answers, rfl, hcompletes⟩
    refine ⟨since, hsince, ?_⟩
    rw [hcompletes.reads hbegun]
    exact (List.singleton_sublist.mpr hfalse).append (List.Sublist.refl [true])

/-- In every run the state `Provisioned`, and the mark of it, come only of a new link exactly where
no attempt is completed by its first update over a link that was never seen down. -/
theorem newLink_iff_never_takesOldLink (store : PersistentStore) (wifi : WifiManager)
    (templateName deviceId proofOfPossession : Bytes) (info : BleAdvertisementInfo)
    (calls : List ManagerCall) :
    (∀ earlier t later, transitions call
          (constructed store wifi templateName deviceId proofOfPossession info) calls =
        earlier ++ t :: later → CallTransition.Provisions t → NewLinkObserved earlier t) ↔
      ∀ earlier t later, transitions call
          (constructed store wifi templateName deviceId proofOfPossession info) calls =
        earlier ++ t :: later → ¬ TakesOldLink earlier t := by
  have hobserved : ∀ earlier t later, transitions call
        (constructed store wifi templateName deviceId proofOfPossession info) calls =
      earlier ++ t :: later → ((CallTransition.Provisions t → NewLinkObserved earlier t) ↔
        ¬ TakesOldLink earlier t) := by
    intro earlier t later hts
    obtain ⟨before, c, _, _, rfl, rfl, _⟩ := transitions_split hts
    apply RemembersLink.observed_iff
    apply run_induction (motive := RemembersLink)
    · exact fun hconnecting => ProvisioningState.noConfusion hconnecting
    · exact fun ts m c h => h.next c
  exact forall_congr' fun earlier => forall_congr' fun t => forall_congr' fun later =>
    forall_congr' fun hts => hobserved earlier t later hts

/-- A device whose certificate outlived a factory reset. -/
def reset : ProvisioningManager :=
  constructed (PersistentStore.empty.set kCertificateKey (ascii "certificate")) {}
    (ascii "InterBridgeTemplate") (ascii "ib_1") (ascii "pop_1")
    { deviceName := ascii "InterBridge", deviceIdentityHint := ascii "ib_1" }

def connectedTo (ssid : Bytes) : ProvisioningAnswers :=
  { unreachableNetwork with
    receivedCredentials := some ⟨ssid, ascii "password"⟩
    wifiConnected := true }

/-- In the main loop's order: the device is provisioned for one network, and then credentials of
another are received. -/
def reprovisioned : List ManagerCall :=
  [.checkAtBoot 0 (connectedTo (ascii "Old")), .operate (.update 1000 (connectedTo (ascii "Old"))),
    .operate .pollEvent, .operate (.wifiUpdate false),
    .operate (.update 1010 (connectedTo (ascii "Old"))), .operate .pollEvent,
    .operate (.wifiUpdate true), .operate (.requestProvisioning 5000 (connectedTo (ascii "New"))),
    .operate (.update 5010 (connectedTo (ascii "New")))]

/-- The status still reads connected. -/
def oldLinkReported : List ManagerCall := [.operate .pollEvent, .operate (.wifiUpdate true)]

theorem oldLink_provisioned :
    let before := reprovisioned ++ oldLinkReported
    let last := ManagerCall.operate (.update 5020 (connectedTo (ascii "New")))
    let t : CallTransition := .of call (finalState call reset before) last
    transitions call reset (before ++ [last]) = transitions call reset before ++ [t] ∧
      t.Provisions ∧ ¬ NewLinkObserved (transitions call reset before) t := by
  intro before last t
  have hprovisions : t.before.state ≠ .provisioned ∧ t.after.state = .provisioned := by decide
  have hdelivered : CallTransition.Delivers (.of call (finalState call reset
      (reprovisioned.take 8)) (.operate (.update 5010 (connectedTo (ascii "New"))))) := by
    change ((finalState call reset (reprovisioned.take 8)).delivered? 5010
      (connectedTo (ascii "New"))).isSome = true
    decide
  have hsince : SinceDelivery (transitions call reset before)
      (transitions call (finalState call reset reprovisioned) oldLinkReported) := by
    refine ⟨⟨transitions call reset (reprovisioned.take 8), _, ?_, hdelivered⟩, ?_, ?_⟩
    · exact transitions_append call reset reprovisioned oldLinkReported
    · exact List.forall_mem_cons.mpr ⟨fun h => Bool.noConfusion h,
        List.forall_mem_singleton.mpr fun h => Bool.noConfusion h⟩
    · exact List.forall_mem_cons.mpr ⟨id, List.forall_mem_singleton.mpr id⟩
  refine ⟨transitions_append call reset before [last], .inl hprovisions, fun h => ?_⟩
  obtain ⟨since, hsince', hreads⟩ := h
  cases hsince.unique hsince'
  revert hreads
  decide

end ProvisioningManager
end InterBridge
