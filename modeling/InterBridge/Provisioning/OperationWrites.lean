import InterBridge.Provisioning.StoredConfiguration

namespace InterBridge
open Foundations
set_option autoImplicit true

def ProvisioningEffect.write? : ProvisioningEffect → Option StoreWrite
  | .stored key value => some (.put key value)
  | _ => none

namespace ProvisioningManager

/-- The store writes of an operation, in order. -/
def operationWrites (m : ProvisioningManager) (operation : Operation) : List StoreWrite :=
  ((m.operate operation).1.effects.drop m.effects.length).filterMap ProvisioningEffect.write?

/-- On the way from `m` to `n` these writes were made. -/
structure Writes (m n : ProvisioningManager) (writes : List StoreWrite) : Prop where
  effects : ∃ effects, n.effects = m.effects ++ effects ∧
    effects.filterMap ProvisioningEffect.write? = writes
  store : n.store = m.store.writeAll writes

namespace Writes

theorem refl (m : ProvisioningManager) : Writes m m [] :=
  ⟨⟨[], (List.append_nil _).symm, rfl⟩, rfl⟩

theorem trans (h : Writes m n writes) (h' : Writes n o writes') :
    Writes m o (writes ++ writes') := by
  obtain ⟨effects, hn, rfl⟩ := h.effects
  obtain ⟨effects', ho, rfl⟩ := h'.effects
  constructor
  · refine ⟨effects ++ effects', ?_, List.filterMap_append⟩
    rw [ho, hn, List.append_assoc]
  · rw [h'.store, h.store, PersistentStore.writeAll_append]

theorem write (m : ProvisioningManager) (key value : Bytes) :
    Writes m (m.write key value) [.put key value] := ⟨⟨[.stored key value], rfl, rfl⟩, rfl⟩

theorem note (m : ProvisioningManager) (h : ProvisioningEffect.write? effect = none) :
    Writes m (m.note effect) [] := by
  refine ⟨⟨[effect], rfl, ?_⟩, rfl⟩
  rw [List.filterMap_cons, h, List.filterMap_nil]

theorem stopAdvertising (m : ProvisioningManager) : Writes m (m.note .advertisingStopped) [] :=
  note m rfl

theorem change (h : Writes m n writes) (heffects : n'.effects = n.effects)
    (hstore : n'.store = n.store) : Writes m n' writes := by
  constructor
  · rw [heffects]
    exact h.effects
  · rw [hstore]
    exact h.store

theorem enter (m : ProvisioningManager) (state : ProvisioningState) :
    Writes m (m.enter state) [] := (refl m).change rfl rfl

theorem startAdvertising (m : ProvisioningManager) (answers : ProvisioningAnswers) :
    Writes m (m.startAdvertising answers).1 [] := note m rfl

theorem resumeAdvertising (m : ProvisioningManager) (answers : ProvisioningAnswers) :
    Writes m (m.resumeAdvertising answers) [] :=
  ((enter m .provisioningAvailable).trans (startAdvertising _ answers)).trans (note _ rfl)

theorem enterProvisioning (m : ProvisioningManager) (nowMs : UInt32)
    (answers : ProvisioningAnswers) : Writes m (m.enterProvisioning nowMs answers) [] := by
  rw [ProvisioningManager.enterProvisioning]
  generalize hopened : { m with
    wasAlreadyProvisionedWhenEntered := m.store.has kWifiSsidKey
    provisioningStartedAtMs := nowMs
    state := .provisioningAvailable } = opened
  have hwritten : Writes m opened [] := by
    rw [← hopened]
    exact (refl m).change rfl rfl
  have hstarted := hwritten.trans (startAdvertising opened answers)
  dsimp only
  split
  · exact ((hstarted.trans (enter _ _)).trans (note _ rfl)).change rfl rfl
  · exact (hstarted.trans (note _ rfl)).change rfl rfl

theorem finishSuccess (m : ProvisioningManager) (nowMs : UInt32) (answers : ProvisioningAnswers) :
    Writes m (m.finishProvisioning true nowMs answers) [.put kProvisionedKey (ascii "1")] := by
  have hstored := (enter m .provisioned).trans (write _ kProvisionedKey (ascii "1"))
  exact (hstored.trans (note _ rfl)).change rfl rfl

theorem finishFailure (m : ProvisioningManager) (nowMs : UInt32) (answers : ProvisioningAnswers) :
    Writes m (m.finishProvisioning false nowMs answers) [] := by
  have hfailed : Writes m (((m.enter .provisioningFailed).note
      (.indicated .provisioningFailure)).report .provisioningFailed) [] :=
    ((enter m _).trans (note _ rfl)).change rfl rfl
  rw [ProvisioningManager.finishProvisioning, if_neg Bool.false_ne_true]
  dsimp only
  split
  · exact hfailed.trans (resumeAdvertising _ answers)
  · exact hfailed

theorem handleTimeout (m : ProvisioningManager) : Writes m m.handleTimeout [] :=
  ((note m rfl).trans (note _ rfl)).change rfl rfl

theorem received (m : ProvisioningManager) (h : answers.receivedCredentials = some credentials) :
    Writes m (m.checkForCredentials answers)
      [.put kWifiSsidKey credentials.ssid, .put kWifiPasswordKey credentials.password] := by
  rw [checkForCredentials, h]
  refine ⟨⟨[.stored kWifiSsidKey credentials.ssid, .stored kWifiPasswordKey credentials.password,
    .advertisingStopped, .wifiBegun ⟨cString credentials.ssid, cString credentials.password⟩],
    ?_, rfl⟩, rfl⟩
  simp only [ProvisioningManager.enter, ProvisioningManager.note, ProvisioningManager.write,
    List.append_assoc, List.cons_append, List.nil_append]

end Writes

/-- The attempt finds Wi-Fi connected. -/
def AdvancesAfterWifi (m : ProvisioningManager) (nowMs : UInt32)
    (answers : ProvisioningAnswers) : Prop :=
  nowMs - m.provisioningStartedAtMs < kProvisioningWindowMs ∧ m.state = .connectingWifi ∧
    (m.wifi.update answers.wifiConnected).1.isConnected = true

instance (m : ProvisioningManager) (nowMs : UInt32) (answers : ProvisioningAnswers) :
    Decidable (m.AdvancesAfterWifi nowMs answers) :=
  inferInstanceAs (Decidable (_ ∧ _))

/-- The arguments of a call of `FleetProvisioningCoordinator::provision`. -/
structure ProvisionCall where
  fleet : FleetCollaborators
  templateName : Bytes
  deviceId : Bytes

def ProvisionCall.result (call : ProvisionCall) : FleetProvisioningResult :=
  (provision call.fleet call.templateName call.deviceId).1

def ProvisionCall.Enrols (call : ProvisionCall) (privateKey certificate : Bytes) : Prop :=
  InterBridge.Enrols call.fleet call.templateName call.deviceId privateKey certificate

/-- The call of `provision` that an operation makes. -/
def Operation.provisionCall? (m : ProvisioningManager) : Operation → Option ProvisionCall
  | .update nowMs answers =>
    if m.AdvancesAfterWifi nowMs answers ∧
        DeviceCredentialStore.hasCertificate m.store = false then
      some ⟨answers.fleet, m.templateName, m.deviceId⟩
    else none
  | .requestProvisioning _ _ | .pollEvent | .wifiUpdate _ => none

/-- What an operation writes, and when. -/
inductive WritesOf (m : ProvisioningManager) (operation : Operation) : List StoreWrite → Prop where
  | nothing (hdelivered : operation.delivered? m = none)
      (hfailed : ∀ call, operation.provisionCall? m = some call → call.result ≠ .success) :
    WritesOf m operation []
  | received (hdelivered : operation.delivered? m = some credentials)
      (hcall : operation.provisionCall? m = none) :
    WritesOf m operation
      [.put kWifiSsidKey credentials.ssid, .put kWifiPasswordKey credentials.password]
  | certified (hstate : m.state = .connectingWifi) (hdelivered : operation.delivered? m = none)
      (hcall : operation.provisionCall? m = none) :
    WritesOf m operation [.put kProvisionedKey (ascii "1")]
  | enrolled (hstate : m.state = .connectingWifi) (hdelivered : operation.delivered? m = none)
      (hcall : operation.provisionCall? m = some call)
      (henrols : call.Enrols privateKey certificate)
      (hcertificate : DeviceCredentialStore.hasCertificate m.store = false) :
    WritesOf m operation [.put kPrivateKeyKey privateKey, .put kCertificateKey certificate,
      .put kProvisionedKey (ascii "1")]

/-- The step from `m` to `n` makes the writes an operation makes. -/
def Performs (m : ProvisioningManager) (operation : Operation) (n : ProvisioningManager) : Prop :=
  ∃ writes, Writes m n writes ∧ WritesOf m operation writes

theorem delivered?_of_connectingWifi {m : ProvisioningManager} (h : m.state = .connectingWifi)
    (nowMs : UInt32) (answers : ProvisioningAnswers) : m.delivered? nowMs answers = none := by
  rw [delivered?, if_neg]
  intro hasks
  rcases hasks.2 with ⟨hs, _⟩ | hs
  · rw [h] at hs
    cases hs
  · rw [h] at hs
    cases hs

theorem provisionCall?_of_not_advances (h : ¬ m.AdvancesAfterWifi nowMs answers) :
    (Operation.update nowMs answers).provisionCall? m = none := by
  rw [Operation.provisionCall?, if_neg]
  intro hcall
  exact h hcall.1

theorem WritesOf.idle (hdelivered : operation.delivered? m = none)
    (hcall : operation.provisionCall? m = none) : WritesOf m operation [] := by
  apply nothing hdelivered
  intro call h
  rw [hcall] at h
  cases h

theorem checkForCredentials_performs
    (hdelivered : m.delivered? nowMs answers = answers.receivedCredentials)
    (hcall : (Operation.update nowMs answers).provisionCall? m = none) :
    Performs m (.update nowMs answers) (m.checkForCredentials answers) := by
  cases h : answers.receivedCredentials with
  | none =>
    rw [checkForCredentials_none m h]
    rw [h] at hdelivered
    exact ⟨[], .refl m, .idle hdelivered hcall⟩
  | some credentials =>
    rw [h] at hdelivered
    exact ⟨_, .received m h, .received hdelivered hcall⟩

section Advance
variable {n : ProvisioningManager}

theorem advance_certified (h : DeviceCredentialStore.hasCertificate n.store = true)
    (nowMs : UInt32) (answers : ProvisioningAnswers) :
    n.advanceAfterWifiConnected nowMs answers =
      (n.enter .cloudConnecting).finishProvisioning true nowMs answers := if_pos h

theorem advance_failed (h : DeviceCredentialStore.hasCertificate n.store = false)
    (hprovision : provision answers.fleet n.templateName n.deviceId = (result, []))
    (hresult : result ≠ .success) (nowMs : UInt32) :
    n.advanceAfterWifiConnected nowMs answers =
      (n.enter .fleetProvisioning).finishProvisioning false nowMs answers := by
  rw [advanceAfterWifiConnected, h, if_neg Bool.false_ne_true]
  simp only [enter, hprovision, if_neg hresult]
  rfl

theorem advance_enrolled (h : DeviceCredentialStore.hasCertificate n.store = false)
    (hprovision : provision answers.fleet n.templateName n.deviceId =
      (.success, [(kPrivateKeyKey, privateKey), (kCertificateKey, certificate)]))
    (nowMs : UInt32) :
    n.advanceAfterWifiConnected nowMs answers =
      ((((n.enter .fleetProvisioning).write kPrivateKeyKey privateKey).write kCertificateKey
        certificate).enter .cloudConnecting).finishProvisioning true nowMs answers := by
  rw [advanceAfterWifiConnected, h, if_neg Bool.false_ne_true]
  simp only [enter, hprovision, if_true]
  rfl

end Advance

theorem advanceAfterWifiConnected_performs {m n : ProvisioningManager}
    (hadvances : m.AdvancesAfterWifi nowMs answers) (heffects : n.effects = m.effects)
    (hstore : n.store = m.store) (htemplate : n.templateName = m.templateName)
    (hid : n.deviceId = m.deviceId) :
    Performs m (.update nowMs answers) (n.advanceAfterWifiConnected nowMs answers) := by
  have hsame : Writes m n [] := (Writes.refl m).change heffects hstore
  have hdelivered := delivered?_of_connectingWifi hadvances.2.1 nowMs answers
  cases hcertificate : DeviceCredentialStore.hasCertificate m.store with
  | true =>
    have hcall : (Operation.update nowMs answers).provisionCall? m = none := by
      rw [Operation.provisionCall?, if_neg fun h => Bool.noConfusion (hcertificate.symm.trans h.2)]
    rw [← hstore] at hcertificate
    rw [advance_certified hcertificate]
    exact ⟨_, (hsame.trans (.enter n _)).trans (.finishSuccess _ nowMs answers),
      .certified hadvances.2.1 hdelivered hcall⟩
  | false =>
    have hcall : (Operation.update nowMs answers).provisionCall? m =
        some ⟨answers.fleet, m.templateName, m.deviceId⟩ := by
      rw [Operation.provisionCall?, if_pos ⟨hadvances, hcertificate⟩]
    have hentered := hsame.trans (.enter n .fleetProvisioning)
    have hcases := provision_cases answers.fleet m.templateName m.deviceId
    generalize hprovision : provision answers.fleet m.templateName m.deviceId = outcome at hcases
    have hn := hprovision
    rw [← htemplate, ← hid] at hn
    cases hcases with
    | @failed result h =>
      rw [advance_failed (by rw [hstore, hcertificate]) hn h]
      refine ⟨_, hentered.trans (.finishFailure _ nowMs answers), .nothing hdelivered ?_⟩
      intro call hc
      rw [hcall, Option.some.injEq] at hc
      rw [← hc, ProvisionCall.result, hprovision]
      exact h
    | @enrolled privateKey certificate h =>
      rw [advance_enrolled (by rw [hstore, hcertificate]) hn]
      have hstored := (hentered.trans (.write _ kPrivateKeyKey privateKey)).trans
        (.write _ kCertificateKey certificate)
      exact ⟨_, (hstored.trans (.enter _ _)).trans (.finishSuccess _ nowMs answers),
        .enrolled hadvances.2.1 hdelivered hcall h hcertificate⟩

theorem update_quiet {m : ProvisioningManager} (hasks : ¬ m.AsksForCredentials nowMs answers)
    (hadvances : ¬ m.AdvancesAfterWifi nowMs answers) : Writes m (m.update nowMs answers) [] := by
  rw [update]
  split
  · exact .refl m
  split
  · exact .handleTimeout m
  next _ hwindow =>
  rw [UInt32.not_le] at hwindow
  split
  next hs =>
    split
    next =>
      have hentered := (Writes.enter m .bleSessionActive).trans (.stopAdvertising _)
      exact hentered.trans (.note _ rfl)
    next hsession => exact absurd ⟨hwindow, .inl ⟨hs, Bool.eq_false_iff.mpr hsession⟩⟩ hasks
  next hs => exact absurd ⟨hwindow, .inr hs⟩ hasks
  next hs =>
    dsimp only
    split
    next hconnected => exact absurd ⟨hwindow, hs, hconnected⟩ hadvances
    next => exact (Writes.refl m).change rfl rfl
  next => exact .refl m

theorem update_asks {m : ProvisioningManager} (h : m.AsksForCredentials nowMs answers) :
    m.update nowMs answers = m.checkForCredentials answers ∨
      m.update nowMs answers = (m.checkForCredentials answers).resumeAdvertising answers := by
  obtain ⟨hwindow, hstate⟩ := h
  rw [← UInt32.not_le] at hwindow
  rcases hstate with ⟨hs, hsession⟩ | hs
  · left
    simp only [update, isActivelyProvisioning, hs, hsession, Bool.not_true, Bool.false_eq_true,
      if_false, if_neg hwindow]
  · simp only [update, isActivelyProvisioning, hs, Bool.not_true, Bool.false_eq_true, if_false,
      if_neg hwindow]
    split
    · exact .inr rfl
    · exact .inl rfl

theorem update_advances {m : ProvisioningManager} (h : m.AdvancesAfterWifi nowMs answers) :
    m.update nowMs answers =
      { m with wifi := (m.wifi.update answers.wifiConnected).1 }.advanceAfterWifiConnected
        nowMs answers := by
  obtain ⟨hwindow, hs, hconnected⟩ := h
  rw [← UInt32.not_le] at hwindow
  simp only [update, isActivelyProvisioning, hs, Bool.not_true, Bool.false_eq_true, if_false,
    if_neg hwindow, hconnected, if_true]

theorem Performs.trans (h : Performs m operation n) (hn : Writes n o []) :
    Performs m operation o := by
  obtain ⟨writes, hwrites, hof⟩ := h
  refine ⟨writes, ?_, hof⟩
  have htrans := hwrites.trans hn
  rw [List.append_nil] at htrans
  exact htrans

theorem update_performs (m : ProvisioningManager) (nowMs : UInt32)
    (answers : ProvisioningAnswers) :
    Performs m (.update nowMs answers) (m.update nowMs answers) := by
  by_cases hadvances : m.AdvancesAfterWifi nowMs answers
  · rw [update_advances hadvances]
    exact advanceAfterWifiConnected_performs hadvances rfl rfl rfl rfl
  have hcall := provisionCall?_of_not_advances hadvances
  by_cases hasks : m.AsksForCredentials nowMs answers
  · have hchecked := checkForCredentials_performs (if_pos hasks) hcall
    rcases update_asks hasks with h | h
    · rw [h]
      exact hchecked
    · rw [h]
      exact hchecked.trans (.resumeAdvertising _ answers)
  · exact ⟨[], update_quiet hasks hadvances, .idle (if_neg hasks) hcall⟩

theorem operate_performs (m : ProvisioningManager) (operation : Operation) :
    Performs m operation (m.operate operation).1 := by
  cases operation with
  | requestProvisioning nowMs answers =>
    refine ⟨[], ?_, .idle rfl rfl⟩
    rw [operate, requestProvisioning]
    split
    · exact .refl m
    · exact .enterProvisioning m nowMs answers
  | update nowMs answers => exact update_performs m nowMs answers
  | pollEvent => exact ⟨[], (Writes.refl m).change rfl rfl, .idle rfl rfl⟩
  | wifiUpdate connected => exact ⟨[], (Writes.refl m).change rfl rfl, .idle rfl rfl⟩

theorem Writes.operationWrites_eq (h : Writes m (m.operate operation).1 writes) :
    m.operationWrites operation = writes := by
  obtain ⟨effects, heffects, hwrites⟩ := h.effects
  rw [operationWrites, heffects, List.drop_left, hwrites]

theorem operationWrites_cases (m : ProvisioningManager) (operation : Operation) :
    WritesOf m operation (m.operationWrites operation) := by
  obtain ⟨writes, hwrites, hof⟩ := operate_performs m operation
  rw [hwrites.operationWrites_eq]
  exact hof

theorem operate_store (m : ProvisioningManager) (operation : Operation) :
    (m.operate operation).1.store = m.store.writeAll (m.operationWrites operation) := by
  obtain ⟨writes, hwrites, _⟩ := operate_performs m operation
  rw [hwrites.operationWrites_eq]
  exact hwrites.store

theorem update_connectingWifi {m : ProvisioningManager}
    (h : (m.update nowMs answers).state = .connectingWifi) :
    m.state = .connectingWifi ∨ (m.delivered? nowMs answers).isSome = true := by
  by_cases hasks : m.AsksForCredentials nowMs answers
  · rw [delivered?, if_pos hasks]
    cases hreceived : answers.receivedCredentials with
    | some credentials => exact .inr rfl
    | none =>
      rcases update_asks hasks with hm | hm
      · rw [hm, checkForCredentials_none m hreceived] at h
        exact .inl h
      · rw [hm] at h
        cases h
  left
  rw [update] at h
  split at h
  · exact h
  split at h
  · rw [handleTimeout, enter] at h
    dsimp only at h
    split at h
    · cases h
    · cases h
  next _ hwindow =>
  rw [UInt32.not_le] at hwindow
  split at h
  next hs =>
    split at h
    next => cases h
    next hsession => exact absurd ⟨hwindow, .inl ⟨hs, Bool.eq_false_iff.mpr hsession⟩⟩ hasks
  next hs => exact absurd ⟨hwindow, .inr hs⟩ hasks
  next hs => exact hs
  next => exact h

/-- A manager waits for Wi-Fi only after credentials were received. -/
theorem operate_connectingWifi {m : ProvisioningManager} {operation : Operation}
    (h : (m.operate operation).1.state = .connectingWifi) :
    m.state = .connectingWifi ∨ (operation.delivered? m).isSome = true := by
  cases operation with
  | requestProvisioning nowMs answers =>
    rw [operate, requestProvisioning] at h
    split at h
    · exact .inl h
    · rcases enterProvisioning_state m nowMs answers with hs | hs
      · cases h.symm.trans hs
      · cases h.symm.trans hs
  | update nowMs answers => exact update_connectingWifi h
  | pollEvent => exact .inl h
  | wifiUpdate connected => exact .inl h

theorem checkAtBoot_not_connectingWifi (m : ProvisioningManager) (hidle : m.state = .idle)
    (nowMs : UInt32) (answers : ProvisioningAnswers) :
    (m.checkAtBoot nowMs answers).state ≠ .connectingWifi := by
  intro h
  cases hhas : m.store.has kWifiSsidKey with
  | true =>
    rw [checkAtBoot_of_has hhas, hidle] at h
    cases h
  | false =>
    rw [checkAtBoot_of_not_has hhas] at h
    rcases enterProvisioning_state m nowMs answers with hs | hs
    · cases h.symm.trans hs
    · cases h.symm.trans hs

end ProvisioningManager
end InterBridge
