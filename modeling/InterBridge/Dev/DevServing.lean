import InterBridge.Dev.DevActions
import InterBridge.Dev.DevSessions
import InterBridge.Dev.SessionOrder
import InterBridge.MainLoop.OutboxFlush
import InterBridge.Network.AcceptedMessages

namespace InterBridge
open Foundations
set_option autoImplicit true

namespace RecordedTransport
variable [IMqttClient κ]

theorem refuses_of_down {t : RecordedTransport κ} (h : t.isConnected.ok = false) :
    Refuses t.isConnected.transport := by
  cases hvalid : t.sessionValid with
  | false => exact .inl (t.isConnected_sessionValid.trans hvalid)
  | true =>
    rw [Esp32AwsIotTransport.isConnected_of_valid hvalid] at h ⊢
    exact .inr (.of_answer h)

theorem Refuses.isConnected {t : RecordedTransport κ} (h : Refuses t)
    (hstays : StaysDisconnected κ) : t.isConnected.ok = false := by
  cases hvalid : t.sessionValid with
  | false =>
    rw [Esp32AwsIotTransport.isConnected_of_invalid hvalid]
    rfl
  | true =>
    rw [Esp32AwsIotTransport.isConnected_of_valid hvalid]
    rcases h with hinvalid | hdropped
    · exact absurd (hinvalid.symm.trans hvalid) Bool.false_ne_true
    · exact hdropped.answers hstays

end RecordedTransport

/-- The coordinator is online, and the iteration found Wi-Fi up and the time valid. -/
structure Serving (r : DevLoopReadings) (s : DevMqttSmokeState) : Prop where
  online : s.state = .online
  wifiConnected : r.wifiConnected = true
  timeValid : r.timeValid = true ∨ r.timeValidAtUpdate = true ∧ r.timeValidAtConnect = true

namespace DevEntryPoint
open RecordedTransport

/-- Nothing is carried any more, or the coordinator is online. -/
def RefusesOffline [IMqttClient κ] (s : DevEntryPoint (RecordingClient κ)) : Prop :=
  Refuses s.transport ∨ s.connectivity.state = .online

section Client
variable [IMqttClient κ] {s : DevEntryPoint (RecordingClient κ)}

theorem isConnected_quiet (s : DevEntryPoint (RecordingClient κ)) :
    Quiet s.transport s.isConnected.1.transport := by
  rw [isConnected_transport]
  exact .isConnected s.transport

theorem isConnected_refuses (h : s.isConnected.2 = false) : Refuses s.isConnected.1.transport := by
  rw [isConnected_transport]
  exact refuses_of_down h

theorem disconnect_quiet (s : DevEntryPoint (RecordingClient κ)) :
    Quiet s.transport s.disconnect.transport := by
  rw [disconnect, returned_transport]
  exact .disconnect s.transport

theorem disconnect_refuses (s : DevEntryPoint (RecordingClient κ)) :
    Refuses s.disconnect.transport := by
  rw [disconnect, returned_transport]
  exact .inl rfl

theorem tearDown_refuses (s : DevEntryPoint (RecordingClient κ)) :
    Refuses s.tearDown.transport := s.disconnect_refuses

theorem isConnected_stands (h : Refuses s.transport ∨ p) (hstays : StaysDisconnected κ) :
    Refuses s.isConnected.1.transport ∨ s.isConnected.2 = true ∧ p := by
  cases hup : s.isConnected.2 with
  | false => exact .inl (isConnected_refuses hup)
  | true =>
    rcases h with hrefuses | hp
    · exact absurd (hup.symm.trans (hrefuses.isConnected hstays)) Bool.noConfusion
    · exact .inr ⟨rfl, hp⟩

theorem ifBroken_stands (h : Refuses s.transport ∨ p) (hstays : StaysDisconnected κ) :
    let s' := if !s.isConnected.2 && s.isConnected.1.subscribed then s.isConnected.1.tearDown
      else s.isConnected.1
    Quiet s.transport s'.transport ∧ (Refuses s'.transport ∨ p) := by
  dsimp only
  split
  · exact ⟨(s.isConnected_quiet).trans (disconnect_quiet _), .inl (tearDown_refuses _)⟩
  · exact ⟨s.isConnected_quiet, (isConnected_stands h hstays).imp_right And.right⟩

theorem checkNetwork_stands (h : s.RefusesOffline) (hstays : StaysDisconnected κ)
    (wifiConnected timeValid : Bool) :
    Quiet s.transport (s.checkNetwork wifiConnected timeValid).transport ∧
      (Refuses (s.checkNetwork wifiConnected timeValid).transport ∨
        s.connectivity.state = .online ∧ wifiConnected = true ∧ timeValid = true) := by
  rw [checkNetwork]
  dsimp only
  split
  next hnetwork =>
    split
    next =>
      exact ⟨s.isConnected_quiet.trans (disconnect_quiet _), .inl (tearDown_refuses _)⟩
    next hanswer =>
      have hdown : s.isConnected.2 = false := by
        rw [hnetwork, Bool.true_and, Bool.not_eq_true] at hanswer
        exact hanswer
      have hbroken := ifBroken_stands
        (p := s.connectivity.state = .online ∧ wifiConnected = true ∧ timeValid = true)
        (.inl (isConnected_refuses hdown)) hstays
      exact ⟨s.isConnected_quiet.trans hbroken.1, hbroken.2⟩
  next hnetwork =>
    have hup : wifiConnected = true ∧ timeValid = true := by
      cases wifiConnected with
      | false => exact absurd rfl hnetwork
      | true =>
        cases timeValid with
        | false => exact absurd rfl hnetwork
        | true => exact ⟨rfl, rfl⟩
    rw [Bool.and_false, if_neg Bool.false_ne_true]
    exact ifBroken_stands (h.imp_right fun honline => ⟨honline, hup⟩) hstays

theorem checkSession_stands (h : s.RefusesOffline) (hstays : StaysDisconnected κ)
    (r : DevLoopReadings) :
    Quiet s.transport (s.checkSession r).transport ∧ (Refuses (s.checkSession r).transport ∨
      s.connectivity.state = .online ∧ r.wifiConnected = true ∧ r.timeValid = true) := by
  obtain ⟨hquiet, hstands⟩ := checkNetwork_stands h hstays r.wifiConnected r.timeValid
  have hasked := isConnected_stands hstands hstays
  rw [checkSession]
  dsimp only
  split
  · exact ⟨hquiet.trans (isConnected_quiet _), hasked.imp_right And.right⟩
  · exact ⟨hquiet.trans (isConnected_quiet _), hasked.imp_right And.right⟩

omit [IMqttClient κ] in
theorem drainWifiEventSignals_online {s : DevEntryPoint κ}
    (h : s.connectivity.state = .online) (r : DevLoopReadings) :
    (s.drainWifiEventSignals r).connectivity = s.connectivity := by
  apply drained (p := fun c => c.coordinator = s.connectivity)
  · intro c success hc
    change c.coordinator.wifiAssociationResult connectivityConfig (ms32 r.atMs) success = _
    rw [hc, DevMqttSmokeState.wifiAssociationResult, h]
    rfl
  · rfl

/-- With the transport up and the network there, a device that is online stays so, but for a
recovery. -/
theorem online_update {c : DevSmokeConfig} {s : DevMqttSmokeState}
    (hconsistent : s.Consistent) (honline : s.state = .online)
    (h : DevMqttSmokeState.UpdateStep c s nowMs true timeValid true result) :
    result.2 = .recoverWifi ∨ result = (s, .none) := by
  cases h with
  | recovering => exact .inl rfl
  | awaiting _ hawaiting _ =>
    exact absurd (honline.symm.trans (hconsistent.awaiting hawaiting)) DevSmokeState.noConfusion
  | offline _ _ hdown _ => exact absurd hdown.symm Bool.false_ne_true
  | online _ _ _ _ hstep =>
    cases hstep with
    | online => exact .inr rfl
    | connected s' hs' =>
      cases hs' with
      | entered hstage => exact absurd (honline.symm.trans hstage) DevSmokeState.noConfusion
      | stayed hstage => exact absurd (honline.symm.trans hstage) DevSmokeState.noConfusion
    | connectingMqtt _ _ _ hdown => exact absurd hdown.symm Bool.false_ne_true
    | waitingForMqtt _ _ hdown _ => exact absurd hdown.symm Bool.false_ne_true
    | losingMqtt _ hdown => exact absurd hdown.symm Bool.false_ne_true
    | resolving hstage => exact absurd (honline.symm.trans hstage) DevSmokeState.noConfusion
    | retryingDns hstage => exact absurd (honline.symm.trans hstage) DevSmokeState.noConfusion
    | waitingForDns hstage => exact absurd (honline.symm.trans hstage) DevSmokeState.noConfusion
    | synchronizing hstage => exact absurd (honline.symm.trans hstage) DevSmokeState.noConfusion
    | waitingForTime hstage => exact absurd (honline.symm.trans hstage) DevSmokeState.noConfusion
    | configuringTime hstage => exact absurd (honline.symm.trans hstage) DevSmokeState.noConfusion
    | losingTime hstage => exact absurd (honline.symm.trans hstage) DevSmokeState.noConfusion

/-- What an `update` leaves to the switch. -/
def Decided (r : DevLoopReadings) (s : DevEntryPoint (RecordingClient κ))
    (action : DevSmokeAction) : Prop :=
  Refuses s.transport ∨ action = .recoverWifi ∨ action = .none ∧ Serving r s.connectivity

theorem updateConnectivity_decided (hconsistent : s.connectivity.Consistent)
    (h : Refuses s.transport ∨
      s.connectivity.state = .online ∧ r.wifiConnected = true ∧ r.timeValid = true)
    (hstays : StaysDisconnected κ) :
    Quiet s.transport (s.updateConnectivity r).1.transport ∧
      Decided r (s.updateConnectivity r).1 (s.updateConnectivity r).2 := by
  refine ⟨s.isConnected_quiet, ?_⟩
  rcases isConnected_stands h hstays with hrefuses | ⟨hup, honline, hwifi, htime⟩
  · exact .inl hrefuses
  · have hstep : DevMqttSmokeState.UpdateStep connectivityConfig s.connectivity (ms32 r.atMs)
        r.wifiConnected r.timeValidAtUpdate s.isConnected.2 _ := hconsistent.update_step _ _ _
    rw [hup, hwifi] at hstep
    have hresult : s.connectivity.update connectivityConfig (ms32 r.atMs) r.wifiConnected
        r.timeValidAtUpdate s.isConnected.2 = s.connectivity.update connectivityConfig
          (ms32 r.atMs) true r.timeValidAtUpdate true := by
      rw [hup, hwifi]
    right
    change (s.connectivity.update connectivityConfig (ms32 r.atMs) r.wifiConnected
        r.timeValidAtUpdate s.isConnected.2).2 = .recoverWifi ∨
      (s.connectivity.update connectivityConfig (ms32 r.atMs) r.wifiConnected
        r.timeValidAtUpdate s.isConnected.2).2 = .none ∧
        Serving r (s.connectivity.update connectivityConfig (ms32 r.atMs) r.wifiConnected
          r.timeValidAtUpdate s.isConnected.2).1
    rw [hresult]
    rcases online_update hconsistent honline hstep with hrecover | hsame
    · exact .inl hrecover
    · rw [hsame]
      exact .inr ⟨rfl, honline, hwifi, .inl htime⟩

theorem subscribe_stands (s : DevEntryPoint (RecordingClient κ)) :
    Quiet s.transport s.subscribe.transport ∧
      (Refuses s.subscribe.transport ∨ s.subscribe.subscribed = true) := by
  have hsubscribed : Quiet s.transport (s.commandEnv.subscribe.1).transport := by
    rw [RemoteCommandProcessor.subscribe, RemoteCommandProcessor.returned_transport]
    exact .subscribe s.transport _ _
  rw [subscribe]
  dsimp only
  split
  next =>
    refine ⟨hsubscribed.trans (disconnect_quiet { s with
      commandEnv := s.commandEnv.subscribe.1, subscribed := s.commandEnv.subscribe.2 }), ?_⟩
    exact .inl (disconnect_refuses _)
  next hgranted =>
    rw [Bool.not_eq_true', Bool.not_eq_false] at hgranted
    exact ⟨hsubscribed, .inr hgranted⟩

theorem connectAndSubscribe_stands (h : Refuses s.transport) (timeValid : Bool) :
    Quiet s.transport (s.connectAndSubscribe timeValid).1.transport ∧
      (Refuses (s.connectAndSubscribe timeValid).1.transport ∨
        (s.connectAndSubscribe timeValid).2 = true ∧ timeValid = true) := by
  cases timeValid with
  | false =>
    have hsame : (s.connectAndSubscribe false).1.transport = s.transport :=
      s.returned_transport (.pure s.transport false)
    rw [hsame]
    exact ⟨.refl _, .inl h⟩
  | true =>
    rw [connectAndSubscribe, connect, if_pos rfl]
    have hconnected := Quiet.connect s.transport s.credentials
      (MqttTopics.clientId s.commandEnv.deviceId)
    dsimp only
    split
    next hrefused =>
      rw [Bool.not_eq_true'] at hrefused
      rw [returned_transport]
      refine ⟨hconnected, .inl (.inl ?_)⟩
      rw [Esp32AwsIotTransport.connect_sessionValid, hrefused]
    next =>
      obtain ⟨hquiet, hsubscribed⟩ := subscribe_stands (s.returned (s.transport.connect
        s.credentials (MqttTopics.clientId s.commandEnv.deviceId)))
      rw [returned_transport] at hquiet
      exact ⟨hconnected.trans hquiet, hsubscribed.imp_right fun hup => ⟨hup, rfl⟩⟩

theorem openSession_stands (h : Refuses s.transport)
    (hstage : s.connectivity.state = .waitingForMqtt) (r : DevLoopReadings) :
    Quiet s.transport (s.openSession r).transport ∧ (Refuses (s.openSession r).transport ∨
      (s.openSession r).connectivity.state = .online ∧ r.timeValidAtConnect = true) := by
  obtain ⟨hquiet, hopened⟩ := connectAndSubscribe_stands h r.timeValidAtConnect
  refine ⟨hquiet, hopened.imp_right fun hup => ⟨?_, hup.2⟩⟩
  rw [openSession_connectivity, hup.1, DevMqttSmokeState.mqttResult, hstage]
  rfl

theorem recoverWifi_stands (program : DevProgram) (s : DevEntryPoint (RecordingClient κ)) :
    Quiet s.transport (s.recoverWifi program).transport ∧
      Refuses (s.recoverWifi program).transport := by
  have hdown : Quiet s.transport (if s.isConnected.2 then s.isConnected.1.disconnect
      else s.isConnected.1).transport ∧ Refuses (if s.isConnected.2 then
        s.isConnected.1.disconnect else s.isConnected.1).transport := by
    split
    next => exact ⟨s.isConnected_quiet.trans (disconnect_quiet _), disconnect_refuses _⟩
    next hdown =>
      rw [Bool.not_eq_true] at hdown
      exact ⟨s.isConnected_quiet, isConnected_refuses hdown⟩
  rw [recoverWifi]
  dsimp only
  split
  · exact hdown
  · exact hdown

theorem network_of_connectMqtt {s₀ s : DevMqttSmokeState}
    (h : DevMqttSmokeState.UpdateStep c s₀ nowMs wifiConnected timeValid mqttConnected
      (s, .connectMqtt)) : s.state = .waitingForMqtt ∧ wifiConnected = true ∧ timeValid = true := by
  have hstage := (stage_of_reportedAction (h.reportedAction rfl) rfl).2 rfl
  cases h with
  | offline _ _ _ hstep => cases hstep
  | online _ _ _ hwifi hstep =>
    cases hstep with
    | connectingMqtt _ _ hvalid => exact ⟨hstage, hwifi, hvalid⟩

theorem act_stands (program : DevProgram) {s₀ : DevMqttSmokeState}
    (hupdate : DevMqttSmokeState.UpdateStep connectivityConfig s₀ nowMs r.wifiConnected
      r.timeValidAtUpdate mqttConnected (s.connectivity, action)) (h : Decided r s action) :
    Quiet s.transport (s.act program r action).transport ∧
      (Refuses (s.act program r action).transport ∨
        Serving r (s.act program r action).connectivity) := by
  cases action with
  | connectMqtt =>
    obtain ⟨hstage, hwifi, htime⟩ := network_of_connectMqtt hupdate
    rcases h with hrefuses | hrecover | ⟨hnone, _⟩
    · rw [act, connectMqtt]
      split
      · exact ⟨.refl _, .inl hrefuses⟩
      · obtain ⟨hquiet, hopened⟩ := openSession_stands hrefuses hstage r
        refine ⟨hquiet, hopened.imp_right ?_⟩
        exact fun honline => ⟨honline.1, hwifi, .inr ⟨htime, honline.2⟩⟩
    · cases hrecover
    · cases hnone
  | recoverWifi =>
    obtain ⟨hquiet, hrefuses⟩ := s.recoverWifi_stands program
    exact ⟨hquiet, .inl hrefuses⟩
  | none =>
    rcases h with hrefuses | hrecover | ⟨_, hserving⟩
    · exact ⟨.refl _, .inl hrefuses⟩
    · cases hrecover
    · exact ⟨.refl _, .inr hserving⟩
  | connectWifi =>
    have hsame : (s.act program r .connectWifi).transport = s.transport := by
      rw [act]
      split
      · rfl
      · rfl
    rw [hsame]
    rcases h with hrefuses | hrecover | ⟨hnone, _⟩
    · exact ⟨.refl _, .inl hrefuses⟩
    · cases hrecover
    · cases hnone
  | resolveDns =>
    rcases h with hrefuses | hrecover | ⟨hnone, _⟩
    · exact ⟨.refl _, .inl hrefuses⟩
    · cases hrecover
    · cases hnone
  | configureTime =>
    rcases h with hrefuses | hrecover | ⟨hnone, _⟩
    · exact ⟨.refl _, .inl hrefuses⟩
    · cases hrecover
    · cases hnone

/-- Up to the end of the switch nothing is carried; then the transport refuses, or the coordinator
serves. -/
theorem maintain_stands (program : DevProgram) (hconsistent : s.connectivity.Consistent)
    (h : s.RefusesOffline) (hstays : StaysDisconnected κ) (r : DevLoopReadings) :
    Quiet s.transport (s.maintain program r).1.transport ∧
      (Refuses (s.maintain program r).1.transport ∨
        Serving r (s.maintain program r).1.connectivity) := by
  obtain ⟨hquiet, hchecked⟩ := checkSession_stands h hstays r
  have hdrained : ((s.checkSession r).drainWifiEventSignals r).transport =
      (s.checkSession r).transport :=
    congrArg RemoteCommandProcessor.transport (drainWifiEventSignals_commandEnv _ r)
  have hchecked' : (s.checkSession r).connectivity = s.connectivity :=
    congrArg RecordedConnectivity.coordinator (s.checkSession_recorded r)
  have hdrives := (s.checkSession r).drains r
  rw [checkSession_recorded] at hdrives
  have hconsistent' := hdrives.consistent hconsistent
  have hstands : Refuses ((s.checkSession r).drainWifiEventSignals r).transport ∨
      ((s.checkSession r).drainWifiEventSignals r).connectivity.state = .online ∧
        r.wifiConnected = true ∧ r.timeValid = true := by
    rw [hdrained]
    refine hchecked.imp_right fun honline => ?_
    have hstate : (s.checkSession r).connectivity.state = .online := by
      rw [hchecked']
      exact honline.1
    rw [drainWifiEventSignals_online hstate, hchecked']
    exact honline
  obtain ⟨hupdated, hdecided⟩ := updateConnectivity_decided hconsistent' hstands hstays
  have hstep : DevMqttSmokeState.UpdateStep connectivityConfig
      ((s.checkSession r).drainWifiEventSignals r).connectivity (ms32 r.atMs) r.wifiConnected
      r.timeValidAtUpdate ((s.checkSession r).drainWifiEventSignals r).isConnected.2 _ :=
    hconsistent'.update_step _ _ _
  obtain ⟨hacted, hserving⟩ := act_stands program hstep hdecided
  rw [hdrained] at hupdated
  exact ⟨hquiet.trans (hupdated.trans hacted), hserving⟩

theorem serve_refuses (h : Refuses s.transport) (hstays : StaysDisconnected κ) [ArduinoJson]
    (r : DevLoopReadings) :
    Quiet s.transport (s.serve r).transport ∧ Refuses (s.serve r).transport := by
  have hdown : s.isConnected.2 = false := h.isConnected hstays
  rw [serve]
  dsimp only
  rw [hdown, if_neg Bool.false_ne_true]
  exact ⟨s.isConnected_quiet, isConnected_refuses hdown⟩

theorem heartbeat_transport (s : DevEntryPoint (RecordingClient κ)) (r : DevLoopReadings) :
    (s.heartbeat r).transport = s.transport ∨
      (s.heartbeat r).transport = s.transport.isConnected.transport := by
  rw [heartbeat]
  split
  · exact .inl rfl
  · right
    generalize ms32 r.atMs + kHeartbeatMs = heartbeatAt
    rw [isConnected_transport]
    rfl

theorem report_refuses (program : DevProgram) (h : Refuses s.transport)
    (hstays : StaysDisconnected κ) [ArduinoJson] (r : DevLoopReadings) :
    Quiet s.transport (s.report program r).transport ∧
      Refuses (s.report program r).transport := by
  have hhealth : Quiet s.transport (s.publishHealth program r).transport ∧
      Refuses (s.publishHealth program r).transport := by
    have hdown : s.isConnected.2 = false := h.isConnected hstays
    rw [publishHealth]
    split
    · exact ⟨.refl _, h⟩
    · dsimp only
      rw [hdown, Bool.not_false, if_pos rfl]
      exact ⟨s.isConnected_quiet, isConnected_refuses hdown⟩
  rcases heartbeat_transport (s.publishHealth program r) r with hsame | hasked
  · rw [report, hsame]
    exact hhealth
  · rw [report, hasked]
    exact ⟨hhealth.1.trans (.isConnected _), refuses_of_down (hhealth.2.isConnected hstays)⟩

end Client
end DevEntryPoint

/-- In the iteration nothing was carried, or it found the network there and left the coordinator
online. -/
def CarriesOnline (before after : DevEntryPoint (RecordingClient κ)) (r : DevLoopReadings) : Prop :=
  RecordedTransport.Quiet before.transport after.transport ∨ Serving r after.connectivity

/-- What is kept from one iteration to the next. -/
structure DevStanding [IMqttClient κ] (s : DevEntryPoint (RecordingClient κ)) : Prop where
  consistent : s.connectivity.Consistent
  refuses : s.RefusesOffline

namespace DevStanding
open DevEntryPoint
variable [IMqttClient κ]

theorem setup (deviceId : Bytes) (config : AwsIotConnectionConfig) (client : κ)
    (certificatePem privateKeyPem : Bytes) :
    DevStanding (.setup deviceId config { client := client } certificatePem privateKeyPem) :=
  ⟨DevMqttSmokeState.consistent_run connectivityConfig [], .inl (.inl rfl)⟩

variable [ArduinoJson]

theorem loop {s : DevEntryPoint (RecordingClient κ)} (h : DevStanding s)
    (hstays : StaysDisconnected κ) (r : DevLoopReadings) :
    CarriesOnline s (s.loop r).1 r ∧ DevStanding (s.loop r).1 := by
  have hconsistent : (s.loop r).1.connectivity.Consistent :=
    (loop_drives h.consistent r).consistent h.consistent
  have hkept : (s.loop r).1.connectivity = (s.maintain .mqttSmoke r).1.connectivity :=
    congrArg RecordedConnectivity.coordinator (s.loop_recorded r)
  obtain ⟨hquiet, hmaintained⟩ := maintain_stands .mqttSmoke h.consistent h.refuses hstays r
  rcases hmaintained with hrefuses | hserving
  · obtain ⟨hserved, hrefuses⟩ := serve_refuses hrefuses hstays r
    obtain ⟨hreported, hrefuses⟩ := report_refuses .mqttSmoke hrefuses hstays r
    exact ⟨.inl (hquiet.trans (hserved.trans hreported)), hconsistent, .inl hrefuses⟩
  · rw [← hkept] at hserving
    exact ⟨.inr hserving, hconsistent, .inr hserving.online⟩

theorem ringLoop [IRandomSource ρ] [IEventOutbox ω]
    {s : DevRingEntryPoint (RecordingClient κ) ρ ω} (h : DevStanding s.entry)
    (hstays : StaysDisconnected κ) (program : DevProgram) (r : DevRingLoopReadings) :
    CarriesOnline s.entry (s.loop program r).1.entry r.toDevLoopReadings ∧
      DevStanding (s.loop program r).1.entry := by
  have hconsistent : (s.loop program r).1.entry.connectivity.Consistent :=
    (DevRingEntryPoint.loop_drives program h.consistent r).consistent h.consistent
  have hkept : (s.loop program r).1.entry.connectivity =
      (s.maintain program r).1.entry.connectivity :=
    congrArg RecordedConnectivity.coordinator (s.loop_recorded program r)
  obtain ⟨hquiet, hmaintained⟩ : RecordedTransport.Quiet s.entry.transport
      (s.maintain program r).1.entry.transport ∧
      (RecordedTransport.Refuses (s.maintain program r).1.entry.transport ∨
        Serving r.toDevLoopReadings (s.maintain program r).1.entry.connectivity) :=
    maintain_stands program h.consistent h.refuses hstays r.toDevLoopReadings
  rcases hmaintained with hrefuses | hserving
  · have hserved : RecordedTransport.Quiet (s.maintain program r).1.entry.transport
        ((s.maintain program r).1.serve r).entry.transport ∧
        RecordedTransport.Refuses ((s.maintain program r).1.serve r).entry.transport := by
      have hdown : (s.maintain program r).1.entry.isConnected.2 = false :=
        hrefuses.isConnected hstays
      rw [DevRingEntryPoint.serve]
      dsimp only
      rw [hdown, Bool.not_false, if_pos rfl]
      exact ⟨isConnected_quiet _, isConnected_refuses hdown⟩
    obtain ⟨hreported, hrefuses⟩ := report_refuses program hserved.2 hstays r.toDevLoopReadings
    exact ⟨.inl (hquiet.trans (hserved.1.trans hreported)), hconsistent, .inl hrefuses⟩
  · rw [← hkept] at hserving
    exact ⟨.inr hserving, hconsistent, .inr hserving.online⟩

end DevStanding

/-- Over every run of a bench program whose client does not come back by itself: messages are
published or polled only in an iteration that read Wi-Fi as connected and the time as valid, and
that leaves the coordinator online. -/
theorem devPrograms_carryOnline [IMqttClient κ] [IRandomSource ρ] [IEventOutbox ω] [ArduinoJson]
    (hstays : StaysDisconnected κ) (deviceId : Bytes) (config : AwsIotConnectionConfig)
    (client : κ) (certificatePem privateKeyPem : Bytes) :
    let entry : DevEntryPoint (RecordingClient κ) :=
      .setup deviceId config { client := client } certificatePem privateKeyPem
    (∀ readings, ∀ t ∈ transitions DevEntryPoint.loop entry readings,
      CarriesOnline t.before t.after t.input) ∧
    ∀ (program : DevProgram) (coordinator : DevRingEventCoordinator ρ ω) readings,
      ∀ t ∈ transitions (DevRingEntryPoint.loop program) ⟨entry, coordinator⟩ readings,
        CarriesOnline t.before.entry t.after.entry t.input.toDevLoopReadings := by
  intro entry
  have hsetup := DevStanding.setup deviceId config client certificatePem privateKeyPem
  constructor
  · intro readings t ht
    obtain ⟨earlier, r, later, rfl, rfl⟩ := exists_of_mem_transitions ht
    have hbefore : DevStanding (finalState DevEntryPoint.loop entry earlier) := by
      apply run_induction (motive := fun _ s => DevStanding s) hsetup
      exact fun _ s r hs => (hs.loop hstays r).2
    exact (hbefore.loop hstays r).1
  · intro program coordinator readings t ht
    obtain ⟨earlier, r, later, rfl, rfl⟩ := exists_of_mem_transitions ht
    have hbefore : DevStanding (finalState (DevRingEntryPoint.loop program)
        ⟨entry, coordinator⟩ earlier).entry := by
      apply run_induction (motive := fun _ (s : DevRingEntryPoint _ ρ ω) => DevStanding s.entry)
        hsetup
      exact fun _ s r hs => (hs.ringLoop hstays program r).2
    exact (hbefore.ringLoop hstays program r).1

/-- An iteration that finds the network there all along. -/
def readingOnline (atMs : Nat) : DevLoopReadings where
  atMs := atMs
  wifiConnected := true
  timeValid := true
  timeValidAtUpdate := true
  networkReady := true
  hostByName := true
  timeValidAtConnect := true
  clock := ⟨fun _ => true, fun _ => 0⟩
  wifiAtHealth := true
  timeValidAtHealth := true
  wifiRssi := 0
  freeHeapBytes := 0

def benchDeviceId : Bytes := ascii "ib-0123456789abcdef0123456789abcdef"

def benchSetup : DevEntryPoint (RecordingClient DroppingClient) :=
  .setup benchDeviceId Esp32AwsIotTransport.awsConfig { client := ⟨[true], false⟩ }
    (ascii "certificate") (ascii "private key")

/-- The second iteration connects, polls and publishes a health report. -/
theorem benchSetup_carriesOnline :
    letI := compactJson
    ((finalState DevEntryPoint.loop benchSetup
      [readingOnline 0, readingOnline 10]).transport.client.exchanges.any fun e =>
        e.call.carriesMessages) = true ∧
    ∀ t ∈ transitions DevEntryPoint.loop benchSetup [readingOnline 0, readingOnline 10],
      CarriesOnline t.before t.after t.input :=
  letI := compactJson
  ⟨by decide +kernel, (devPrograms_carryOnline (ρ := DevRing.CountingRandom)
    (ω := MemoryEventOutbox) droppingClient_staysDisconnected benchDeviceId
    Esp32AwsIotTransport.awsConfig ⟨[true], false⟩ (ascii "certificate")
    (ascii "private key")).1 [readingOnline 0, readingOnline 10]⟩

end InterBridge
