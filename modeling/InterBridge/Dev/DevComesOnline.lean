import InterBridge.Dev.DevServing
import InterBridge.Dev.DevWireOrder
import InterBridge.Network.ClientLink

namespace InterBridge
open Foundations
set_option autoImplicit true

/-- An iteration that finds the network there all along. -/
structure NetworkUp (r : DevLoopReadings) : Prop where
  wifi : r.wifiConnected = true
  time : r.timeValid = true
  timeAtUpdate : r.timeValidAtUpdate = true
  lookup : r.dnsOk = true
  timeAtConnect : r.timeValidAtConnect = true

namespace DevMqttSmokeState

/-- No Wi-Fi recovery is under way. -/
structure Free (s : DevMqttSmokeState) : Prop where
  requested : s.wifiRecoveryRequested = false
  awaiting : s.awaitingWifiRecoveryDisconnect = false

/-- A stage that waits for a result is held up by nothing. -/
def RetryDue (s : DevMqttSmokeState) (nowMs : UInt32) : Prop :=
  s.state.reportedAction ≠ .none →
    s.actionIssued = false ∧ deadlineReached nowMs s.retryAtMs = true

/-- One `update` away from a connection. -/
def Close (s : DevMqttSmokeState) (nowMs : UInt32) : Prop :=
  s.state = .waitingForTime ∨
    s.state = .waitingForMqtt ∧ s.actionIssued = false ∧ s.retryAtMs = nowMs

/-- Where an `update` that finds the network there gets to. -/
inductive TowardOnline (s : DevMqttSmokeState) (nowMs : UInt32) (mqttConnected : Bool) :
    DevMqttSmokeState × DevSmokeAction → Prop where
  | lookingUp (s' : DevMqttSmokeState) (stage : s'.state = .waitingForDns)
      (early : s.state = .waitingForWifi ∨ s.state = .waitingForDns) :
      TowardOnline s nowMs mqttConnected (s', .resolveDns)
  | connecting (s' : DevMqttSmokeState) (stage : s'.state = .waitingForMqtt)
      (down : mqttConnected = false) : TowardOnline s nowMs mqttConnected (s', .connectMqtt)
  | arrived (s' : DevMqttSmokeState) (stage : s'.state = .online) (up : mqttConnected = true) :
      TowardOnline s nowMs mqttConnected (s', .none)
  | losing (s' : DevMqttSmokeState) (stage : s.state = .online) (down : mqttConnected = false)
      (close : s'.Close nowMs) : TowardOnline s nowMs mqttConnected (s', .none)

theorem Free.enter {s : DevMqttSmokeState} (h : s.Free) : (s.enter c stage nowMs).Free :=
  ⟨h.requested, h.awaiting⟩

theorem Free.mqttStage {s : DevMqttSmokeState} (h : s.Free) (hstage : MqttStage c s nowMs s') :
    s'.state = .waitingForMqtt ∧ s'.Free := by
  cases hstage with
  | entered => exact ⟨rfl, h.requested, h.awaiting⟩
  | stayed hstage => exact ⟨hstage, h⟩

/-- With the network there, and nothing in the way, an `update` gets somewhere. -/
theorem update_toward {s : DevMqttSmokeState} (hfree : s.Free) (hdue : s.RetryDue nowMs)
    (c : DevSmokeConfig) (mqttConnected : Bool) :
    TowardOnline s nowMs mqttConnected (s.update c nowMs true true mqttConnected) ∧
      (s.update c nowMs true true mqttConnected).1.Free := by
  have hupdate : s.update c nowMs true true mqttConnected =
      s.updateNetwork c nowMs true mqttConnected := by
    rw [update, hfree.requested, hfree.awaiting]
    rfl
  have hunblocked (hstage : s.state.reportedAction ≠ .none) :
      ¬ (s.actionIssued = true ∨ deadlineReached nowMs s.retryAtMs = false) :=
    not_blocked (hdue hstage).1 (hdue hstage).2
  rw [hupdate]
  have hstep : NetworkStep c s nowMs true mqttConnected (s.updateNetwork c nowMs true mqttConnected) :=
    s.updateNetwork_step true mqttConnected
  generalize s.updateNetwork c nowMs true mqttConnected = result at hstep ⊢
  cases hstep with
  | resolving hstage =>
    exact ⟨.lookingUp _ rfl (.inl hstage), hfree.requested, hfree.awaiting⟩
  | retryingDns hstage => exact ⟨.lookingUp _ hstage (.inr hstage), hfree.requested, hfree.awaiting⟩
  | waitingForDns hstage hblocked => exact absurd hblocked (hunblocked (by rw [hstage]; decide))
  | synchronizing _ hinvalid => exact absurd hinvalid.symm Bool.false_ne_true
  | waitingForTime _ hinvalid => exact absurd hinvalid.symm Bool.false_ne_true
  | configuringTime _ hinvalid => exact absurd hinvalid.symm Bool.false_ne_true
  | losingTime _ hinvalid => exact absurd hinvalid.symm Bool.false_ne_true
  | connected s' hstage _ hup => exact ⟨.arrived _ rfl hup, (hfree.mqttStage hstage).2.enter⟩
  | connectingMqtt s' hstage _ hdown =>
    obtain ⟨hwaiting, hfree'⟩ := hfree.mqttStage hstage
    exact ⟨.connecting _ hwaiting hdown, hfree'.requested, hfree'.awaiting⟩
  | waitingForMqtt hstage _ _ hblocked => exact absurd hblocked (hunblocked (by rw [hstage]; decide))
  | online hstage hup => exact ⟨.arrived _ hstage hup, hfree⟩
  | losingMqtt hstage hdown =>
    exact ⟨.losing _ hstage hdown (.inr ⟨rfl, rfl, rfl⟩), hfree.requested, hfree.awaiting⟩

theorem wifiAssociationResult_kept (c : DevSmokeConfig) (s : DevMqttSmokeState) (nowMs : UInt32)
    (success : Bool) :
    let s' := s.wifiAssociationResult c nowMs success
    s'.state = s.state ∧ s'.actionIssued = s.actionIssued ∧ s'.retryAtMs = s.retryAtMs ∧
      s'.wifiRecoveryRequested = s.wifiRecoveryRequested ∧
      s'.awaitingWifiRecoveryDisconnect = s.awaitingWifiRecoveryDisconnect := by
  rw [wifiAssociationResult]
  split
  · exact ⟨rfl, rfl, rfl, rfl, rfl⟩
  dsimp only
  split
  · exact ⟨rfl, rfl, rfl, rfl, rfl⟩
  · exact ⟨rfl, rfl, rfl, rfl, rfl⟩

/-- Nothing is in the way of this coordinator, in this stage. -/
structure Ready (stage : DevSmokeState) (nowMs : UInt32) (s : DevMqttSmokeState) : Prop where
  here : s.state = stage
  free : s.Free
  due : s.RetryDue nowMs

theorem Ready.signal {s : DevMqttSmokeState} {stage : DevSmokeState} (h : s.Ready stage nowMs) (c : DevSmokeConfig)
    (success : Bool) : (s.wifiAssociationResult c nowMs success).Ready stage nowMs := by
  obtain ⟨hstate, hissued, hretry, hrequested, hawaiting⟩ :=
    s.wifiAssociationResult_kept c nowMs success
  refine ⟨hstate.trans h.here, ⟨hrequested.trans h.free.requested,
    hawaiting.trans h.free.awaiting⟩, ?_⟩
  rw [RetryDue, hstate, hissued, hretry]
  exact h.due

end DevMqttSmokeState

/-- The settings are these, and the client does as it is asked. -/
def Settled (config : AwsIotConnectionConfig) (good : Bool → κ → Prop)
    (t : Esp32AwsIotTransport κ) : Prop := t.config = config ∧ ∃ up, good up t.client

theorem settled_keptByCalls [IMqttClient κ] {good : Bool → κ → Prop} (hcoop : Cooperates good)
    (config : AwsIotConnectionConfig) : KeptByCalls (Settled config good) := by
  apply keptByCalls_of_client (Q := fun settings client => settings = config ∧ ∃ up, good up client)
  rintro settings client call ⟨hconfig, up, hclient⟩
  exact ⟨hconfig, _, hcoop.link up client call hclient⟩

theorem KeptByCalls.session [IMqttClient κ] [ArduinoJson] {P : Esp32AwsIotTransport κ → Prop}
    (h : KeptByCalls P) (deviceId : Bytes) : KeptBySession deviceId P P where
  isConnected t := h t .isConnected
  disconnect t := h t .disconnect
  poll t := h t .poll
  response t message qos _ := h t (.publish message qos)
  health t report _ := h t (.publish ⟨_, report.toJson⟩ .atMostOnce)
  opened t credentials ht _ := h t (.connect credentials deviceId) ht
  refused t credentials ht _ := h t (.connect credentials deviceId) ht
  subscribe t := h t (.subscribe _ .atLeastOnce)

/-- The coordinator is online, and so is its session. -/
structure Arrived (good : Bool → κ → Prop) (s : DevEntryPoint κ) : Prop where
  online : s.connectivity.state = .online
  free : s.connectivity.Free
  live : Live good s.transport

namespace DevEntryPoint
open DevMqttSmokeState
variable [IMqttClient κ] [ArduinoJson] {good : Bool → κ → Prop} {s : DevEntryPoint κ}
  {credentials : DeviceCredentialStore}

theorem connectAndSubscribe_live (h : DevHolds deviceId credentials (Settled config good) s)
    (hcoop : Cooperates good) (hconfigured : Configured config credentials deviceId) :
    (s.connectAndSubscribe true).2 = true ∧
      Live good (s.connectAndSubscribe true).1.transport := by
  have hready : Configured s.transport.config s.credentials s.commandEnv.deviceId := by
    rw [h.onTransport.1, h.trusted, h.named]
    exact hconfigured
  obtain ⟨up, hclient⟩ := h.onTransport.2
  obtain ⟨hok, hopened⟩ := hcoop.connect hclient hready
  rw [connectAndSubscribe, connect, if_pos rfl, MqttTopics.clientId]
  dsimp only
  rw [hok, Bool.not_true, if_neg Bool.false_ne_true]
  rw [← returned_transport s] at hopened
  generalize s.returned (s.transport.connect s.credentials s.commandEnv.deviceId) = s at hopened
  obtain ⟨hgranted, hlive⟩ := hopened.subscribe hcoop s.topics.commands .atLeastOnce
  have hflag : s.commandEnv.subscribe.2 = true := hgranted
  rw [subscribe]
  dsimp only
  rw [hflag, Bool.not_true, if_neg Bool.false_ne_true]
  refine ⟨rfl, ?_⟩
  rw [← s.commandEnv.returned_transport] at hlive
  exact hlive

theorem act_toward (program : DevProgram) {s₀ : DevMqttSmokeState}
    (htoward : TowardOnline s₀ (ms32 r.atMs) mqttConnected (s.connectivity, action))
    (hfree : s.connectivity.Free) (h : DevHolds deviceId credentials (Settled config good) s)
    (hlive : mqttConnected = true → Live good s.transport) (hup : NetworkUp r)
    (hcoop : Cooperates good) (hconfigured : Configured config credentials deviceId) :
    Arrived good (s.act program r action) ∨
      (s.act program r action).connectivity.Close (ms32 r.atMs) ∧
        (s.act program r action).connectivity.Free ∧
        (s₀.state = .online → mqttConnected = false) ∧
        s₀.state ≠ .waitingForTime ∧ s₀.state ≠ .waitingForMqtt := by
  cases htoward with
  | lookingUp _ hstage hearly =>
    right
    have hlooked : (s.act program r .resolveDns).connectivity =
        s.connectivity.enter connectivityConfig .waitingForTime (ms32 r.atMs) := by
      rw [act, hup.lookup]
      change s.connectivity.dnsResult connectivityConfig (ms32 r.atMs) true = _
      rw [dnsResult, hstage]
      rfl
    rw [hlooked]
    refine ⟨.inl rfl, hfree.enter, ?_⟩
    rcases hearly with hwifi | hdns
    · rw [hwifi]
      exact ⟨DevSmokeState.noConfusion, DevSmokeState.noConfusion, DevSmokeState.noConfusion⟩
    · rw [hdns]
      exact ⟨DevSmokeState.noConfusion, DevSmokeState.noConfusion, DevSmokeState.noConfusion⟩
  | connecting _ hstage hdown =>
    left
    obtain ⟨hopened, hlive⟩ := connectAndSubscribe_live h hcoop hconfigured
    rw [act, connectMqtt, hup.lookup, Bool.not_true, if_neg Bool.false_ne_true]
    have hresult := openSession_connectivity s r
    rw [hup.timeAtConnect, hopened, mqttResult, hstage] at hresult
    refine ⟨?_, ?_, ?_⟩
    · rw [hresult]
      rfl
    · rw [hresult]
      exact ⟨rfl, rfl⟩
    · rw [openSession, hup.timeAtConnect]
      exact hlive
  | arrived _ hstage hconnected => exact .inl ⟨hstage, hfree, hlive hconnected⟩
  | losing _ hstage hdown hclose =>
    right
    rw [hstage]
    exact ⟨hclose, hfree, fun _ => hdown, DevSmokeState.noConfusion, DevSmokeState.noConfusion⟩

omit [ArduinoJson] in
theorem checkSession_live (h : Live good s.transport) (hcoop : Cooperates good)
    (hup : NetworkUp r) : Live good (s.checkSession r).transport := by
  have hasked {s : DevEntryPoint κ} (h : Live good s.transport) :
      s.isConnected.2 = true ∧ Live good s.isConnected.1.transport := by
    obtain ⟨hok, hlive⟩ := h.isConnected hcoop
    rw [isConnected_transport]
    exact ⟨hok, hlive⟩
  obtain ⟨hconnected, hlive⟩ := hasked h
  obtain ⟨hstill, hdone⟩ := hasked hlive
  have hchecked : s.checkNetwork true true = s.isConnected.1 := by
    change (if !s.isConnected.2 && s.isConnected.1.subscribed then s.isConnected.1.tearDown
      else s.isConnected.1) = s.isConnected.1
    rw [hconnected, Bool.not_true, Bool.false_and, if_neg Bool.false_ne_true]
  rw [checkSession, hup.wifi, hup.time, hchecked]
  dsimp only
  rw [hstill, Bool.not_true, if_neg Bool.false_ne_true]
  exact hdone

theorem maintain_toward (program : DevProgram) {stage : DevSmokeState}
    (h : DevHolds deviceId credentials (Settled config good) s)
    (hready : s.connectivity.Ready stage (ms32 r.atMs)) (hup : NetworkUp r)
    (hcoop : Cooperates good) (hconfigured : Configured config credentials deviceId) :
    Arrived good (s.maintain program r).1 ∨
      (s.maintain program r).1.connectivity.Close (ms32 r.atMs) ∧
        (s.maintain program r).1.connectivity.Free ∧
        (stage = .online → ¬ Live good s.transport) ∧
        stage ≠ .waitingForTime ∧ stage ≠ .waitingForMqtt := by
  have hchecked : DevHolds deviceId credentials (Settled config good)
      ((s.checkSession r).drainWifiEventSignals r) :=
    (h.checkSession ((settled_keptByCalls hcoop config).session deviceId) r).of_eq
      (drainWifiEventSignals_commandEnv _ r) (drainWifiEventSignals_credentials _ r)
  have hstands : ((s.checkSession r).drainWifiEventSignals r).connectivity.Ready stage
      (ms32 r.atMs) := by
    apply drained (p := fun c => c.coordinator.Ready stage (ms32 r.atMs))
    · exact fun c success hc => hc.signal connectivityConfig success
    · rw [checkSession_recorded]
      exact hready
  have hstill : Live good s.transport →
      Live good ((s.checkSession r).drainWifiEventSignals r).transport := by
    intro hlive
    rw [transport, drainWifiEventSignals_commandEnv]
    exact checkSession_live hlive hcoop hup
  rw [maintain]
  generalize (s.checkSession r).drainWifiEventSignals r = s₁ at hchecked hstands hstill ⊢
  obtain ⟨up, hclient⟩ := hchecked.onTransport.2
  obtain ⟨-, hanswer⟩ := hcoop.isConnected hclient
  have hasked : DevHolds deviceId credentials (Settled config good) s₁.isConnected.1 :=
    hchecked.isConnected ((settled_keptByCalls hcoop config).session deviceId).toKeptByServing
  have hconnected : s₁.isConnected.2 = true → Live good s₁.isConnected.1.transport := by
    rw [isConnected_transport]
    exact hanswer
  have htoward : TowardOnline s₁.connectivity (ms32 r.atMs) s₁.isConnected.2
      ((s₁.updateConnectivity r).1.connectivity, (s₁.updateConnectivity r).2) ∧
      (s₁.updateConnectivity r).1.connectivity.Free := by
    rw [updateConnectivity, hup.wifi, hup.timeAtUpdate]
    exact update_toward hstands.free hstands.due connectivityConfig s₁.isConnected.2
  have hacted := act_toward program htoward.1 htoward.2 (hasked.of_eq rfl rfl) hconnected hup hcoop
    hconfigured
  rw [hstands.here] at hacted
  refine hacted.imp_right fun hclose => ⟨hclose.1, hclose.2.1, fun honline hlive => ?_, hclose.2.2.2⟩
  have hdown := hclose.2.2.1 honline
  have hup' := (hstill hlive).isConnected hcoop
  exact Bool.false_ne_true (hdown.symm.trans hup'.1)

end DevEntryPoint
theorem live_keptByServing [IMqttClient κ] [ArduinoJson] {good : Bool → κ → Prop}
    (hcoop : Cooperates good) (deviceId : Bytes) : KeptByServing deviceId (Live good) where
  isConnected _ h := (h.isConnected hcoop).2
  poll _ h := h.poll hcoop
  response _ message qos _ h := (h.publish hcoop message qos).2
  health _ _ _ h := (h.publish hcoop _ .atMostOnce).2

/-- A loop that maintains the connection of its device, and then works on the session. -/
structure WorksOn [IMqttClient κ] [ArduinoJson] (deviceId : Bytes)
    (credentials : DeviceCredentialStore) (program : DevProgram) (step : σ → ι → σ × ο)
    (view : σ → DevEntryPoint κ) (reading : ι → DevLoopReadings) : Prop where
  recorded : ∀ s i, (view (step s i).1).recorded =
    ((view s).maintain program (reading i)).1.recorded
  session : ∀ s i (P : Esp32AwsIotTransport κ → Prop), KeptByServing deviceId P →
    (∀ t payload, P t →
      P (t.publish ⟨(devMqttTopics deviceId).eventsIngest, payload⟩ .atLeastOnce).transport) →
    DevHolds deviceId credentials P ((view s).maintain program (reading i)).1 →
    DevHolds deviceId credentials P (view (step s i).1)

theorem DevEntryPoint.worksOn [IMqttClient κ] [ArduinoJson] (deviceId : Bytes)
    (credentials : DeviceCredentialStore) :
    WorksOn (κ := κ) deviceId credentials .mqttSmoke DevEntryPoint.loop id id where
  recorded s r := s.loop_recorded r
  session _ r _ hP _ h := (h.serve hP r).report hP .mqttSmoke r

theorem DevRingEntryPoint.worksOn [IMqttClient κ] [ArduinoJson] [IRandomSource ρ] [IEventOutbox ω]
    (deviceId : Bytes) (credentials : DeviceCredentialStore) (program : DevProgram) :
    WorksOn (κ := κ) deviceId credentials program
      (DevRingEntryPoint.loop (ρ := ρ) (ω := ω) program) DevRingEntryPoint.entry
      DevRingLoopReadings.toDevLoopReadings where
  recorded s r := s.loop_recorded program r
  session _ r _ hP hevent h :=
    (DevHolds.ringServe h hP hevent r).report hP program r.toDevLoopReadings

namespace WorksOn
open DevEntryPoint DevMqttSmokeState
variable [IMqttClient κ] [ArduinoJson] {deviceId : Bytes} {credentials : DeviceCredentialStore}
  {program : DevProgram} {step : σ → ι → σ × ο} {view : σ → DevEntryPoint κ}
  {reading : ι → DevLoopReadings} {good : Bool → κ → Prop} {s : σ}

theorem settled (hworks : WorksOn deviceId credentials program step view reading)
    (h : DevHolds deviceId credentials (Settled config good) (view s)) (hcoop : Cooperates good)
    (i : ι) : DevHolds deviceId credentials (Settled config good) (view (step s i).1) := by
  have hkept : KeptBySession deviceId (Settled config good) (Settled config good) :=
    (settled_keptByCalls hcoop config).session deviceId
  exact hworks.session s i _ hkept.toKeptByServing
    (fun t payload => settled_keptByCalls hcoop config t (.publish ⟨_, payload⟩ .atLeastOnce))
    (h.maintain hkept program (reading i))

theorem connectivity (hworks : WorksOn deviceId credentials program step view reading) (s : σ)
    (i : ι) : (view (step s i).1).connectivity =
      ((view s).maintain program (reading i)).1.connectivity :=
  congrArg RecordedConnectivity.coordinator (hworks.recorded s i)

theorem toward (hworks : WorksOn deviceId credentials program step view reading)
    (h : DevHolds deviceId credentials (Settled config good) (view s)) (hcoop : Cooperates good)
    (hconfigured : Configured config credentials deviceId) {i : ι} {stage : DevSmokeState}
    (hready : (view s).connectivity.Ready stage (ms32 (reading i).atMs))
    (hup : NetworkUp (reading i)) :
    Arrived good (view (step s i).1) ∨
      (view (step s i).1).connectivity.Close (ms32 (reading i).atMs) ∧
        (view (step s i).1).connectivity.Free ∧
        (stage = .online → ¬ Live good (view s).transport) ∧
        stage ≠ .waitingForTime ∧ stage ≠ .waitingForMqtt := by
  have hmaintained : DevHolds deviceId credentials (Settled config good)
      ((view s).maintain program (reading i)).1 :=
    h.maintain ((settled_keptByCalls hcoop config).session deviceId) program (reading i)
  rw [hworks.connectivity]
  refine (maintain_toward program h hready hup hcoop hconfigured).imp_left fun harrived => ?_
  have hlive := hworks.session s i _ (live_keptByServing hcoop deviceId)
    (fun _ _ hlive => (hlive.publish hcoop _ .atLeastOnce).2) (hmaintained.mono harrived.live)
  refine ⟨?_, ?_, hlive.onTransport⟩
  · rw [hworks.connectivity]
    exact harrived.online
  · rw [hworks.connectivity]
    exact harrived.free

theorem stays (hworks : WorksOn deviceId credentials program step view reading)
    (h : DevHolds deviceId credentials (Settled config good) (view s)) (hcoop : Cooperates good)
    (hconfigured : Configured config credentials deviceId) (harrived : Arrived good (view s))
    (later : List ι) (hup : ∀ i ∈ later, NetworkUp (reading i)) :
    Arrived good (view (finalState step s later)) := by
  induction later generalizing s with
  | nil => exact harrived
  | cons i later ih =>
    rw [List.forall_mem_cons] at hup
    have hready : (view s).connectivity.Ready .online (ms32 (reading i).atMs) :=
      ⟨harrived.online, harrived.free, fun hstage => absurd (by rw [harrived.online]; rfl) hstage⟩
    rcases hworks.toward h hcoop hconfigured hready hup.1 with hnext | ⟨_, _, hdown, _⟩
    · exact ih (hworks.settled h hcoop i) hnext hup.2
    · exact absurd harrived.live (hdown rfl)

/-- Two iterations are enough. -/
theorem arrives (hworks : WorksOn deviceId credentials program step view reading)
    (h : DevHolds deviceId credentials (Settled config good) (view s)) (hcoop : Cooperates good)
    (hconfigured : Configured config credentials deviceId) {first second : ι} {later : List ι}
    (hfree : (view s).connectivity.Free)
    (hdue : (view s).connectivity.RetryDue (ms32 (reading first).atMs))
    (hordered : (reading first).atMs ≤ (reading second).atMs ∧
      (reading second).atMs < (reading first).atMs + 2 ^ 31)
    (hup : ∀ i ∈ first :: second :: later, NetworkUp (reading i)) :
    Arrived good (view (finalState step s (first :: second :: later))) := by
  rw [List.forall_mem_cons, List.forall_mem_cons] at hup
  have hfirst := hworks.settled h hcoop first
  rcases hworks.toward h hcoop hconfigured ⟨rfl, hfree, hdue⟩ hup.1 with harrived | hclose
  · exact hworks.stays hfirst hcoop hconfigured harrived (second :: later)
      (List.forall_mem_cons.mpr hup.2)
  · obtain ⟨hstage, hfree', _⟩ := hclose
    have hdue' : (view (step s first).1).connectivity.RetryDue (ms32 (reading second).atMs) := by
      intro hreported
      rcases hstage with htime | ⟨_, hissued, hretry⟩
      · rw [htime] at hreported
        exact absurd rfl hreported
      · have hreached : reachedSigned (ms32 (reading second).atMs)
            (ms32 (reading first).atMs + 0) = true := reachedSigned_of_le hordered.1 hordered.2
        rw [UInt32.add_zero, ← hretry] at hreached
        exact ⟨hissued, hreached⟩
    rcases hworks.toward hfirst hcoop hconfigured ⟨rfl, hfree', hdue'⟩ hup.2.1 with
      harrived | ⟨_, _, _, hnotTime, hnotMqtt⟩
    · exact hworks.stays (hworks.settled hfirst hcoop second) hcoop hconfigured harrived later
        hup.2.2
    · exact (hstage.elim hnotTime fun hmqtt => hnotMqtt hmqtt.1).elim

theorem holds_run (hworks : WorksOn deviceId credentials program step view reading)
    {P P' : Esp32AwsIotTransport κ → Prop} (hP : KeptBySession deviceId P P')
    (hevent : ∀ t payload, P t →
      P (t.publish ⟨(devMqttTopics deviceId).eventsIngest, payload⟩ .atLeastOnce).transport)
    (h : DevHolds deviceId credentials P (view s)) (is : List ι) :
    DevHolds deviceId credentials P (view (finalState step s is)) := by
  induction is generalizing s with
  | nil => exact h
  | cons i is ih =>
    exact ih (hworks.session s i P hP.toKeptByServing hevent (h.maintain hP program (reading i)))

/-- Between two iterations no action waits for its result. -/
theorem idle_run (hworks : WorksOn deviceId credentials program step view reading)
    (hs : (view s).recorded = {}) (is : List ι) :
    (view (finalState step s is)).connectivity.Idle := by
  have hstep (s : σ) (i : ι) (hconsistent : (view s).recorded.coordinator.Consistent) :
      Drives [(reading i).update] (view s).recorded (view (step s i).1).recorded := by
    rw [hworks.recorded]
    exact maintain_drives program hconsistent (reading i)
  have hconsistent : (view s).recorded.coordinator.Consistent := by
    rw [hs]
    exact consistent_run connectivityConfig []
  have hdrives := drives_run (fun s => (view s).recorded) hstep hconsistent is
  rw [hs] at hdrives
  obtain ⟨hreplayed, hdriven⟩ := hdrives.byCalls
  rw [DevEntryPoint.connectivity, hreplayed]
  exact idle_of_reported hdriven.reported.reported

end WorksOn

/-- The coordinator is online, and its session lives and has its subscription. -/
structure DevOnline (good : Bool → κ → Prop) (topics : MqttTopics)
    (s : DevEntryPoint (RecordingClient κ)) : Prop where
  online : s.connectivity.state = .online
  live : Live (fun up client => good up client.client) s.transport
  subscribed : OnSubscription topics.commands s.transport.client.exchanges

/-- From here on the client does as it is asked, no Wi-Fi recovery is under way, the retry is due,
and two iterations and all later ones find the network there. -/
structure Recovering (good : Bool → κ → Prop) (s : DevEntryPoint (RecordingClient κ))
    (first second : DevLoopReadings) (later : List DevLoopReadings) : Prop where
  client : ∃ up, good up s.transport.client.client
  requested : s.connectivity.wifiRecoveryRequested = false
  awaiting : s.connectivity.awaitingWifiRecoveryDisconnect = false
  due : deadlineReached (ms32 first.atMs) s.connectivity.retryAtMs = true
  ordered : first.atMs ≤ second.atMs ∧ second.atMs < first.atMs + 2 ^ 31
  networkUp : ∀ r ∈ first :: second :: later, NetworkUp r

theorem WorksOn.comesOnline [IMqttClient κ] [ArduinoJson] {program : DevProgram}
    {step : σ → ι → σ × ο} {view : σ → DevEntryPoint (RecordingClient κ)}
    {reading : ι → DevLoopReadings} {good : Bool → κ → Prop} {s : σ} {client : κ}
    (hworks : WorksOn deviceId (devCredentials certificatePem privateKeyPem) program step view
      reading)
    (hs : view s = .setup deviceId config { client := client } certificatePem privateKeyPem)
    (hcoop : Cooperates good)
    (hconfigured : Configured config (devCredentials certificatePem privateKeyPem) deviceId)
    {readings : List ι} {first second : ι} {later : List ι}
    (h : Recovering good (view (finalState step s readings)) (reading first) (reading second)
      (later.map reading)) :
    DevOnline good (devMqttTopics deviceId)
      (view (finalState step s (readings ++ first :: second :: later))) := by
  have hsetup {P : Esp32AwsIotTransport (RecordingClient κ) → Prop}
      (hP : P (Esp32AwsIotTransport.constructed config client)) :
      DevHolds deviceId (devCredentials certificatePem privateKeyPem) P (view s) := by
    rw [hs]
    exact .setup hP deviceId certificatePem privateKeyPem
  have hkept : KeptByCalls fun t : Esp32AwsIotTransport (RecordingClient κ) => t.config = config :=
    keptByCalls_of_client (Q := fun settings _ => settings = config) fun _ _ _ hconfig => hconfig
  have hsettings := hworks.holds_run (hkept.session deviceId)
    (fun t payload => hkept t (.publish ⟨_, payload⟩ .atLeastOnce)) (hsetup rfl) readings
  have hidle := hworks.idle_run (by rw [hs]; rfl) readings
  rw [finalState_append]
  have harrived := hworks.arrives (hsettings.mono ⟨hsettings.onTransport, h.client⟩)
    hcoop.recording hconfigured ⟨h.requested, h.awaiting⟩
    (fun hstage => ⟨hidle hstage, h.due⟩) h.ordered
    (fun i hi => h.networkUp (reading i) (List.mem_map_of_mem hi))
  have hordered := hworks.holds_run (orderly_keptBySession deviceId)
    (fun _ payload ht => ht.publish (ht.serves (.event payload)))
    (hsetup (orderly_constructed (devWirePlan deviceId) config client))
    (readings ++ first :: second :: later)
  rw [finalState_append] at hordered
  exact ⟨harrived.online, harrived.live, hordered.onTransport.trusted harrived.live.valid⟩

/-- Over every run of a bench program, whatever the client and the network did so far: once the
client does as it is asked, two iterations that find the network there bring the device online,
subscribed to its commands, and as long as the network stays so does it. -/
theorem devPrograms_comeOnline [IMqttClient κ] [IRandomSource ρ] [IEventOutbox ω] [ArduinoJson]
    {good : Bool → κ → Prop} (hcoop : Cooperates good) (deviceId : Bytes)
    (config : AwsIotConnectionConfig) (client : κ) (certificatePem privateKeyPem : Bytes)
    (hconfigured : Configured config (devCredentials certificatePem privateKeyPem) deviceId) :
    let entry : DevEntryPoint (RecordingClient κ) :=
      .setup deviceId config { client := client } certificatePem privateKeyPem
    (∀ readings first second later,
      Recovering good (finalState DevEntryPoint.loop entry readings) first second later →
      DevOnline good (devMqttTopics deviceId)
        (finalState DevEntryPoint.loop entry (readings ++ first :: second :: later))) ∧
    ∀ (program : DevProgram) (coordinator : DevRingEventCoordinator ρ ω)
      (readings : List DevRingLoopReadings) (first second : DevRingLoopReadings)
      (later : List DevRingLoopReadings),
      Recovering good (finalState (DevRingEntryPoint.loop program) ⟨entry, coordinator⟩
        readings).entry first.toDevLoopReadings second.toDevLoopReadings
        (later.map DevRingLoopReadings.toDevLoopReadings) →
      DevOnline good (devMqttTopics deviceId)
        (finalState (DevRingEntryPoint.loop program) ⟨entry, coordinator⟩
          (readings ++ first :: second :: later)).entry := by
  intro entry
  constructor
  · intro readings first second later h
    rw [← List.map_id later] at h
    exact (DevEntryPoint.worksOn deviceId _).comesOnline (s := entry) rfl hcoop hconfigured h
  · intro program coordinator readings first second later h
    exact (DevRingEntryPoint.worksOn deviceId _ program).comesOnline (s := ⟨entry, coordinator⟩) rfl
      hcoop hconfigured h

theorem readingOnline_networkUp (atMs : Nat) : NetworkUp (readingOnline atMs) :=
  ⟨rfl, rfl, rfl, rfl, rfl⟩

/-- The broker refuses the first connection. -/
def refusedSetup : DevEntryPoint (RecordingClient RefusingAtFirst) :=
  .setup benchDeviceId Esp32AwsIotTransport.awsConfig { client := ⟨1, false⟩ }
    (ascii "certificate") (ascii "private key")

theorem refusedSetup_comesOnline :
    letI := compactJson
    (finalState DevEntryPoint.loop refusedSetup
      [readingOnline 0, readingOnline 10]).connectivity.state = .waitingForMqtt ∧
    DevOnline (fun up (client : RefusingAtFirst) => client = ⟨0, up⟩) (devMqttTopics benchDeviceId)
      (finalState DevEntryPoint.loop refusedSetup
        ([readingOnline 0, readingOnline 10] ++
          readingOnline 1010 :: readingOnline 1020 :: [readingOnline 1030])) :=
  letI := compactJson
  ⟨by decide +kernel, (devPrograms_comeOnline (ρ := DevRing.CountingRandom)
    (ω := MemoryEventOutbox) refusingAtFirst_cooperates benchDeviceId
    Esp32AwsIotTransport.awsConfig ⟨1, false⟩ (ascii "certificate") (ascii "private key")
    ⟨by decide +kernel, by decide +kernel, by decide,
      ⟨ascii "certificate", by decide +kernel, by decide⟩,
      ⟨ascii "private key", by decide +kernel, by decide⟩⟩).1 _ _ _ _
    ⟨⟨false, by decide +kernel⟩, by decide +kernel, by decide +kernel, by decide +kernel, by decide,
      by
        simp only [List.forall_mem_cons]
        exact ⟨readingOnline_networkUp _, readingOnline_networkUp _, readingOnline_networkUp _,
          List.forall_mem_nil _⟩⟩⟩

end InterBridge
