import InterBridge.Provisioning.ManagerCalls
import InterBridge.Provisioning.NeverProvisioned

namespace InterBridge
open Foundations
set_option autoImplicit true

/-- The most recent call of `startAdvertising` answered `started`, and this happened since. -/
structure MostRecentStart (effects : List ProvisioningEffect) (started : Bool)
    (later : List ProvisioningEffect) : Prop where
  split : ∃ earlier, effects = earlier ++ .advertisingRequested started :: later
  last : ∀ other, .advertisingRequested other ∉ later

namespace ProvisioningManager

/-- Available is what the device is while advertising was started and not stopped, and never
otherwise. -/
def AdvertisingMatches (m : ProvisioningManager) : Prop :=
  if m.state = .provisioningAvailable then
    ∃ later, MostRecentStart m.effects true later ∧ .advertisingStopped ∉ later
  else ∀ started later, MostRecentStart m.effects started later →
    started = false ∨ .advertisingStopped ∈ later

/-- A dropped session or a recoverable failure lets the attempt resume advertising. -/
def Resumes (m : ProvisioningManager) (nowMs : UInt32) (answers : ProvisioningAnswers) : Prop :=
  nowMs - m.provisioningStartedAtMs < kProvisioningWindowMs ∧
    (m.state = .bleSessionActive ∧ answers.receivedCredentials = none ∧
        answers.sessionActive = false ∨
      m.AdvancesAfterWifi nowMs answers ∧ DeviceCredentialStore.hasCertificate m.store = false ∧
        (provision answers.fleet m.templateName m.deviceId).1 ≠ .success)

/-- A call that resumes advertising is answered that it started. -/
def ManagerCall.ResumesDiscoverably (m : ProvisioningManager) : ManagerCall → Prop
  | .operate (.update nowMs answers) => m.Resumes nowMs answers →
    answers.startAdvertising m.advertisementInfo m.proofOfPossession = true
  | _ => True

/-- How advertising was turned last. -/
def lastTurn (m : ProvisioningManager) : Option Bool :=
  (m.effects.filterMap ProvisioningEffect.advertising?).getLast?

theorem advertising?_eq_none (effect : ProvisioningEffect) : effect.advertising? = none ↔
    (∀ other, effect ≠ .advertisingRequested other) ∧ effect ≠ .advertisingStopped := by
  cases effect with
  | advertisingRequested started => exact iff_of_false nofun fun h => h.1 started rfl
  | advertisingStopped => exact iff_of_false nofun fun h => h.2 rfl
  | stored key value => exact iff_of_true rfl ⟨nofun, nofun⟩
  | wifiBegun credentials => exact iff_of_true rfl ⟨nofun, nofun⟩
  | indicated indication => exact iff_of_true rfl ⟨nofun, nofun⟩
  | indicatorCleared => exact iff_of_true rfl ⟨nofun, nofun⟩

theorem advertising?_eq_true {effect : ProvisioningEffect} (h : effect.advertising? = some true) :
    effect = .advertisingRequested true := by
  cases effect with
  | advertisingRequested started => rw [Option.some.inj h]
  | advertisingStopped => cases h
  | stored key value => cases h
  | wifiBegun credentials => cases h
  | indicated indication => cases h
  | indicatorCleared => cases h

theorem discoverable_iff (m : ProvisioningManager) :
    (∃ later, MostRecentStart m.effects true later ∧ .advertisingStopped ∉ later) ↔
      m.lastTurn = some true := by
  rw [lastTurn, List.getLast?_filterMap, List.findSome?_eq_some_iff]
  constructor
  · intro h
    obtain ⟨later, ⟨⟨earlier, heffects⟩, hlast⟩, hstopped⟩ := h
    refine ⟨later.reverse, .advertisingRequested true, earlier.reverse, ?_, rfl, ?_⟩
    · rw [heffects, List.reverse_append, List.reverse_cons, List.append_assoc,
        List.singleton_append]
    · intro effect heffect
      rw [List.mem_reverse] at heffect
      rw [advertising?_eq_none]
      refine ⟨fun other h => hlast other (h ▸ heffect), fun h => hstopped (h ▸ heffect)⟩
  · intro h
    obtain ⟨later, effect, earlier, heffects, hturn, hlast⟩ := h
    rw [advertising?_eq_true hturn] at heffects
    have hquiet : ∀ effect ∈ later.reverse,
        (∀ other, effect ≠ .advertisingRequested other) ∧ effect ≠ .advertisingStopped :=
      fun effect heffect =>
        (advertising?_eq_none effect).mp (hlast effect (List.mem_reverse.mp heffect))
    refine ⟨later.reverse, ⟨⟨earlier.reverse, ?_⟩, ?_⟩, ?_⟩
    · rw [← List.reverse_reverse m.effects, heffects, List.reverse_append, List.reverse_cons,
        List.append_assoc, List.singleton_append]
    · exact fun other hmem => (hquiet _ hmem).1 other rfl
    · exact fun hmem => (hquiet _ hmem).2 rfl

theorem undiscoverable_iff (m : ProvisioningManager) :
    (∀ started later, MostRecentStart m.effects started later →
      started = false ∨ .advertisingStopped ∈ later) ↔ m.lastTurn ≠ some true := by
  rw [Ne, ← discoverable_iff]
  constructor
  · intro h hdiscoverable
    obtain ⟨later, hstart, hstopped⟩ := hdiscoverable
    rcases h true later hstart with hfalse | hmem
    · cases hfalse
    · exact hstopped hmem
  · intro h started later hstart
    by_contra hneither
    rw [not_or, Bool.not_eq_false] at hneither
    obtain ⟨rfl, hstopped⟩ := hneither
    exact h ⟨later, hstart, hstopped⟩

theorem advertisingMatches_iff_lastTurn (m : ProvisioningManager) :
    m.AdvertisingMatches ↔ (m.state = .provisioningAvailable ↔ m.lastTurn = some true) := by
  rw [AdvertisingMatches]
  split
  next hs => rw [discoverable_iff, iff_true_left hs]
  next hs => rw [undiscoverable_iff, iff_false_left hs]

theorem lastTurn_of_effects {m n : ProvisioningManager} {advertising : List Bool}
    (h : ∃ effects, n.effects = m.effects ++ effects ∧
      effects.filterMap ProvisioningEffect.advertising? = advertising) :
    n.lastTurn = advertising.getLast?.or m.lastTurn := by
  obtain ⟨effects, hn, rfl⟩ := h
  rw [lastTurn, hn, List.filterMap_append, List.getLast?_append, lastTurn]

theorem matches_of_turn {n : ProvisioningManager} {on : Bool} (hturn : n.lastTurn = some on)
    (hstate : n.state = .provisioningAvailable ↔ on = true) : n.AdvertisingMatches := by
  rw [advertisingMatches_iff_lastTurn, hturn, Option.some.injEq]
  exact hstate

theorem Moves.matches_off {m n : ProvisioningManager} {state : ProvisioningState}
    (h : Moves m n state reported [false]) (hstate : state ≠ .provisioningAvailable) :
    n.AdvertisingMatches := by
  refine matches_of_turn (lastTurn_of_effects h.effects) ?_
  rw [h.state]
  exact iff_of_false hstate Bool.noConfusion

theorem Moves.matches_resumed {m n : ProvisioningManager}
    (h : Moves m n .provisioningAvailable reported [started]) :
    n.AdvertisingMatches ↔ started = true := by
  rw [advertisingMatches_iff_lastTurn, lastTurn_of_effects h.effects, h.state, iff_true_left rfl,
    List.getLast?_singleton, Option.some_or, Option.some.injEq]

theorem Moves.matches_quiet {m n : ProvisioningManager} {state : ProvisioningState}
    (h : Moves m n state reported []) (hm : m.AdvertisingMatches)
    (hbefore : m.state ≠ .provisioningAvailable) (hstate : state ≠ .provisioningAvailable) :
    n.AdvertisingMatches := by
  rw [advertisingMatches_iff_lastTurn, iff_false_left hbefore] at hm
  rw [advertisingMatches_iff_lastTurn, lastTurn_of_effects h.effects, h.state,
    iff_false_left hstate]
  exact hm

theorem Resumes.state {m : ProvisioningManager} (h : m.Resumes nowMs answers) :
    m.state = .bleSessionActive ∨ m.state = .connectingWifi :=
  h.2.imp And.left fun hadvances => hadvances.1.2.1

theorem Resumes.active {m : ProvisioningManager} (h : m.Resumes nowMs answers) :
    m.isActivelyProvisioning = true := by
  rcases h.state with hs | hs
  · exact active_of_state (.inr (.inl hs))
  · exact active_of_state (.inr (.inr hs))

/-- While connecting, only a failure after Wi-Fi connected resumes. -/
theorem Resumes.of_connecting {m : ProvisioningManager} (h : m.Resumes nowMs answers)
    (hs : m.state = .connectingWifi) : m.AdvancesAfterWifi nowMs answers ∧
      DeviceCredentialStore.hasCertificate m.store = false ∧
        (provision answers.fleet m.templateName m.deviceId).1 ≠ .success := by
  refine h.2.resolve_left fun hdropped => ?_
  rw [hs] at hdropped
  cases hdropped.1

theorem AdvertisingMatches.update {m n : ProvisioningManager} (hm : m.AdvertisingMatches)
    (h : UpdateCase m nowMs answers n) : n.AdvertisingMatches ↔
      (m.Resumes nowMs answers →
        answers.startAdvertising m.advertisementInfo m.proofOfPossession = true) := by
  cases h with
  | inactive hinactive hsame =>
    subst hsame
    refine iff_of_true hm fun hresumes => ?_
    exact absurd (hinactive.symm.trans hresumes.active) Bool.noConfusion
  | timedOut hout hmoves _ =>
    refine iff_of_true (hmoves.matches_off ?_) fun hresumes => ?_
    · rw [← hmoves.state]
      rcases hmoves.ended with hs | hs <;> rw [hs] <;> exact ProvisioningState.noConfusion
    · exact absurd hout.2 (UInt32.not_le.mpr hresumes.1)
  | sessionOpened _ havailable _ hmoves _ =>
    refine iff_of_true (hmoves.matches_off ProvisioningState.noConfusion) fun hresumes => ?_
    rcases hresumes.state with hs | hs
    · cases havailable.symm.trans hs
    · cases havailable.symm.trans hs
  | received hasks credentials hdelivered hmoves _ =>
    refine iff_of_true (hmoves.matches_off ProvisioningState.noConfusion) fun hresumes => ?_
    rcases hresumes.2 with ⟨_, hnone, _⟩ | ⟨hadvances, _⟩
    · cases hdelivered.symm.trans hnone
    · rcases hasks.2 with ⟨hs, _⟩ | hs
      · cases hs.symm.trans hadvances.2.1
      · cases hs.symm.trans hadvances.2.1
  | waiting _ _ _ hunread hconnected hsame =>
    subst hsame
    refine iff_of_true hm fun hresumes => ?_
    rcases hresumes.2 with ⟨hs, _, hdropped⟩ | ⟨hadvances, _⟩
    · exact absurd ((hconnected hs).symm.trans hdropped) Bool.noConfusion
    · exact absurd hadvances.2.1 hunread
  | dropped hwithin hsession hundelivered hdropped hmoves _ =>
    have hresumes : m.Resumes nowMs answers :=
      ⟨hwithin, .inl ⟨hsession, hundelivered, hdropped⟩⟩
    rw [hmoves.matches_resumed, forall_prop_of_true hresumes]
  | linkDown _ hconnecting hdown hmoves _ =>
    have hbefore : m.state ≠ .provisioningAvailable := by
      rw [hconnecting]
      exact ProvisioningState.noConfusion
    refine iff_of_true (hmoves.matches_quiet hm hbefore ProvisioningState.noConfusion)
      fun hresumes => ?_
    have hup := (hresumes.of_connecting hconnecting).1.2.2
    exact absurd (hdown.symm.trans hup) Bool.noConfusion
  | completed hadvances henrolled hmoves _ =>
    have hbefore : m.state ≠ .provisioningAvailable := by
      rw [hadvances.2.1]
      exact ProvisioningState.noConfusion
    refine iff_of_true (hmoves.matches_quiet hm hbefore ProvisioningState.noConfusion)
      fun hresumes => ?_
    obtain ⟨_, huncertified, hrefused⟩ := hresumes.of_connecting hadvances.2.1
    rcases henrolled with hcertified | henrolled
    · exact absurd (huncertified.symm.trans hcertified) Bool.noConfusion
    · exact absurd henrolled hrefused
  | failed hadvances huncertified hrefused hmoves _ =>
    have hresumes : m.Resumes nowMs answers :=
      ⟨hadvances.1, .inr ⟨hadvances, huncertified, hrefused⟩⟩
    rw [hmoves.matches_resumed, forall_prop_of_true hresumes]

theorem ManagerCall.resumesDiscoverably_of_beginning {c : ManagerCall}
    (h : c.beginning? = some (nowMs, answers)) (m : ProvisioningManager) :
    c.ResumesDiscoverably m := by
  rcases c.eq_of_beginning h with rfl | rfl
  · trivial
  · trivial

theorem AdvertisingMatches.call {m : ProvisioningManager} (hm : m.AdvertisingMatches)
    (c : ManagerCall) : (m.call c).1.AdvertisingMatches ↔ c.ResumesDiscoverably m := by
  have hcases := call_cases m c
  generalize (m.call c).1 = n at hcases
  cases hcases with
  | entered _ _ nowMs answers hbeginning n hentered =>
    refine iff_of_true ?_ (c.resumesDiscoverably_of_beginning hbeginning m)
    refine matches_of_turn (lastTurn_of_effects ⟨_, hentered.effects, rfl⟩) ?_
    rw [hentered.state]
    cases answers.startAdvertising m.advertisementInfo m.proofOfPossession with
    | false => exact iff_of_false ProvisioningState.noConfusion Bool.noConfusion
    | true => exact iff_of_true rfl rfl
  | ignored _ _ hbeginning =>
    obtain ⟨⟨nowMs, answers⟩, hbeginning⟩ := Option.isSome_iff_exists.mp hbeginning
    exact iff_of_true hm (c.resumesDiscoverably_of_beginning hbeginning m)
  | updated nowMs answers n hupdated => exact hm.update hupdated
  | polled => exact iff_of_true hm trivial
  | linkRead connected => exact iff_of_true hm trivial

/-- In every run the advertising state matches the provisioning state exactly where every call
that resumes advertising starts it. -/
theorem advertisingMatches_iff_resumesDiscoverably (store : PersistentStore) (wifi : WifiManager)
    (templateName deviceId proofOfPossession : Bytes) (info : BleAdvertisementInfo)
    (calls : List ManagerCall) :
    (∀ t ∈ transitions call
        (constructed store wifi templateName deviceId proofOfPossession info) calls,
      t.after.AdvertisingMatches) ↔
    ∀ t ∈ transitions call
        (constructed store wifi templateName deviceId proofOfPossession info) calls,
      t.input.ResumesDiscoverably t.before := by
  refine transitions_after_iff (fun m c hm => hm.call c) ?_ calls
  rw [advertisingMatches_iff_lastTurn]
  exact iff_of_false ProvisioningState.noConfusion nofun

/-- A session is opened, and dropped when advertising cannot be started again. -/
def droppedSession : List ManagerCall :=
  [.checkAtBoot 0 unreachableNetwork,
    .operate (.update 1000 { unreachableNetwork with sessionActive := true }),
    .operate (.update 2000 { unreachableNetwork with
      startAdvertising _ _ := false
      receivedCredentials := none })]

theorem droppedSession_undiscoverable :
    (finalState call bench droppedSession).state = .provisioningAvailable ∧
      ¬ (finalState call bench droppedSession).AdvertisingMatches := by
  have hstate : (finalState call bench droppedSession).state = .provisioningAvailable := by decide
  have hturn : (finalState call bench droppedSession).lastTurn = some false := by decide
  refine ⟨hstate, ?_⟩
  rw [advertisingMatches_iff_lastTurn, hturn]
  exact fun h => Bool.noConfusion (Option.some.inj (h.mp hstate))

end ProvisioningManager
end InterBridge
