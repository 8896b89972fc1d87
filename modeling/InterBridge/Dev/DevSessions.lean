import InterBridge.Dev.DevEntryPoints
import InterBridge.Protocol.ProcessorTransport

namespace InterBridge
open Foundations
set_option autoImplicit true

namespace DevEntryPoint

theorem returned_transport (s : DevEntryPoint κ)
    (reply : TransportReply (Esp32AwsIotTransport κ)) :
    (s.returned reply).transport = reply.transport := s.commandEnv.returned_transport reply

theorem isConnected_transport [IMqttClient κ] (s : DevEntryPoint κ) :
    s.isConnected.1.transport = s.transport.isConnected.transport := s.returned_transport _

/-- What the drain cannot touch. -/
theorem drainWifiEventSignals_kept {view : DevEntryPoint κ → α}
    (hassociated : ∀ s flag recorded, view { s with
      wifiAssociatedEventPending := flag, recorded := recorded } = view s)
    (hdisconnected : ∀ s flag recorded, view { s with
      wifiDisconnectedEventPending := flag, recorded := recorded } = view s)
    (s : DevEntryPoint κ) (r : DevLoopReadings) : view (s.drainWifiEventSignals r) = view s := by
  have hevents (s : DevEntryPoint κ) (events : List SystemEvent) :
      view (events.foldl onWifiEvent s) = view s := by
    apply List.foldlRecOn (motive := fun t : DevEntryPoint κ => view t = view s)
      events onWifiEvent
    · rfl
    · intro t ht event _
      cases event with
      | wifiStaDisconnected => exact (hdisconnected t true t.recorded).trans ht
      | wifiStaGotIp => exact (hassociated t true t.recorded).trans ht
      | _ => exact ht
  have hfirst (s : DevEntryPoint κ) (atMs : Nat) : view (s.drainAssociated atMs) = view s := by
    rw [drainAssociated]
    split
    · exact hassociated s _ _
    · rfl
  have hsecond (s : DevEntryPoint κ) (atMs : Nat) : view (s.drainDisconnected atMs) = view s := by
    rw [drainDisconnected]
    split
    · exact hdisconnected s _ _
    · rfl
  rw [drainWifiEventSignals, hsecond, hevents, hfirst, hevents]

theorem drainWifiEventSignals_commandEnv (s : DevEntryPoint κ) (r : DevLoopReadings) :
    (s.drainWifiEventSignals r).commandEnv = s.commandEnv :=
  drainWifiEventSignals_kept (fun _ _ _ => rfl) (fun _ _ _ => rfl) s r

theorem drainWifiEventSignals_credentials (s : DevEntryPoint κ) (r : DevLoopReadings) :
    (s.drainWifiEventSignals r).credentials = s.credentials :=
  drainWifiEventSignals_kept (fun _ _ _ => rfl) (fun _ _ _ => rfl) s r

end DevEntryPoint

/-- What a program does on a session of this device, short of publishing events, keeps `P`. -/
structure KeptByServing [IMqttClient κ] [ArduinoJson] (deviceId : Bytes)
    (P : Esp32AwsIotTransport κ → Prop) : Prop where
  isConnected : ∀ t, P t → P t.isConnected.transport
  poll : ∀ t, P t → P t.poll.transport
  response : KeptByResponses deviceId (devMqttTopics deviceId) P
  health : ∀ t (report : HealthReport), report.deviceId = deviceId → P t →
    P (t.publish ⟨(devMqttTopics deviceId).healthIngest, report.toJson⟩ .atMostOnce).transport

/-- So does what ends a session and what opens one; a session that was just opened is as `P'` says
until it is subscribed to. -/
structure KeptBySession [IMqttClient κ] [ArduinoJson] (deviceId : Bytes)
    (P P' : Esp32AwsIotTransport κ → Prop) : Prop extends KeptByServing deviceId P where
  disconnect : ∀ t, P t → P t.disconnect.transport
  opened : ∀ t credentials, P t → (t.connect credentials deviceId).ok = true →
    P' (t.connect credentials deviceId).transport
  refused : ∀ t credentials, P t → (t.connect credentials deviceId).ok = false →
    P (t.connect credentials deviceId).transport
  subscribe : ∀ t, P' t → P (t.subscribe (devMqttTopics deviceId).commands .atLeastOnce).transport

/-- The program of the device with this identity, and its transport as `P` says. -/
structure DevHolds [ArduinoJson] (deviceId : Bytes) (credentials : DeviceCredentialStore)
    (P : Esp32AwsIotTransport κ → Prop) (s : DevEntryPoint κ) : Prop where
  named : s.commandEnv.deviceId = deviceId
  trusted : s.credentials = credentials
  env : AnswersOver P deviceId (devMqttTopics deviceId) s.commandEnv

namespace DevHolds
variable [ArduinoJson] {P P' : Esp32AwsIotTransport κ → Prop} {s : DevEntryPoint κ}

theorem of_eq {s' : DevEntryPoint κ} (h : DevHolds deviceId credentials P s)
    (henv : s'.commandEnv = s.commandEnv) (hcredentials : s'.credentials = s.credentials) :
    DevHolds deviceId credentials P s' := by
  refine ⟨?_, hcredentials.trans h.trusted, ?_⟩
  · rw [henv]
    exact h.named
  · rw [henv]
    exact h.env

theorem onTransport (h : DevHolds deviceId credentials P s) : P s.transport := h.env.onTransport

theorem mono (h : DevHolds deviceId credentials P s) (hP : P' s.transport) :
    DevHolds deviceId credentials P' s :=
  ⟨h.named, h.trusted, h.env.onTopics, h.env.named, hP, h.env.waiting⟩

theorem returned (h : DevHolds deviceId credentials P s)
    {reply : TransportReply (Esp32AwsIotTransport κ)} (hreply : P' reply.transport) :
    DevHolds deviceId credentials P' (s.returned reply) :=
  ⟨(s.commandEnv.returned_deviceId reply).trans h.named, h.trusted, h.env.returned hreply⟩

theorem setup {config : AwsIotConnectionConfig} {client : κ}
    (h : P { config := config, client := client }) (deviceId certificatePem privateKeyPem : Bytes) :
    DevHolds deviceId (devCredentials certificatePem privateKeyPem) P
      (.setup deviceId config client certificatePem privateKeyPem) :=
  ⟨rfl, rfl, rfl, rfl, h, List.forall_mem_nil _⟩

variable [IMqttClient κ]

theorem isConnected (h : DevHolds deviceId credentials P s) (hP : KeptByServing deviceId P) :
    DevHolds deviceId credentials P s.isConnected.1 := h.returned (hP.isConnected _ h.onTransport)

theorem disconnect (h : DevHolds deviceId credentials P s) (hP : KeptBySession deviceId P P') :
    DevHolds deviceId credentials P s.disconnect := h.returned (hP.disconnect _ h.onTransport)

theorem tearDown (h : DevHolds deviceId credentials P s) (hP : KeptBySession deviceId P P') :
    DevHolds deviceId credentials P s.tearDown := (h.disconnect hP).of_eq rfl rfl

theorem checkNetwork (h : DevHolds deviceId credentials P s) (hP : KeptBySession deviceId P P')
    (wifiConnected timeValid : Bool) :
    DevHolds deviceId credentials P (s.checkNetwork wifiConnected timeValid) := by
  have hbroken {s : DevEntryPoint κ} (h : DevHolds deviceId credentials P s) :
      DevHolds deviceId credentials P (if !s.isConnected.2 && s.isConnected.1.subscribed then
        s.isConnected.1.tearDown else s.isConnected.1) := by
    split
    · exact (h.isConnected hP.toKeptByServing).tearDown hP
    · exact h.isConnected hP.toKeptByServing
  rw [DevEntryPoint.checkNetwork]
  dsimp only
  split
  · split
    · exact (h.isConnected hP.toKeptByServing).tearDown hP
    · exact hbroken (h.isConnected hP.toKeptByServing)
  · split
    · exact h.tearDown hP
    · exact hbroken h

theorem checkSession (h : DevHolds deviceId credentials P s) (hP : KeptBySession deviceId P P')
    (r : DevLoopReadings) : DevHolds deviceId credentials P (s.checkSession r) := by
  have hchecked := (h.checkNetwork hP r.wifiConnected r.timeValid).isConnected
    hP.toKeptByServing
  rw [DevEntryPoint.checkSession]
  dsimp only
  split
  · exact hchecked.of_eq rfl rfl
  · exact hchecked

theorem subscribe (h : DevHolds deviceId credentials P' s) (hP : KeptBySession deviceId P P') :
    DevHolds deviceId credentials P s.subscribe := by
  have hgranted : P (s.transport.subscribe s.topics.commands .atLeastOnce).transport := by
    rw [DevEntryPoint.topics, h.env.onTopics]
    exact hP.subscribe _ h.onTransport
  have hsubscribed : DevHolds deviceId credentials P { s with
      commandEnv := s.commandEnv.subscribe.1, subscribed := s.commandEnv.subscribe.2 } :=
    (h.returned hgranted).of_eq rfl rfl
  rw [DevEntryPoint.subscribe]
  dsimp only
  split
  · exact hsubscribed.disconnect hP
  · exact hsubscribed.of_eq rfl rfl

theorem connectAndSubscribe (h : DevHolds deviceId credentials P s)
    (hP : KeptBySession deviceId P P') (timeValid : Bool) :
    DevHolds deviceId credentials P (s.connectAndSubscribe timeValid).1 := by
  rw [DevEntryPoint.connectAndSubscribe, DevEntryPoint.connect]
  cases timeValid with
  | false => exact h.returned h.onTransport
  | true =>
    rw [if_pos rfl, MqttTopics.clientId, h.named]
    dsimp only
    split
    next hrefused =>
      rw [Bool.not_eq_true'] at hrefused
      exact h.returned (hP.refused _ _ h.onTransport hrefused)
    next hopened =>
      rw [Bool.not_eq_true', Bool.not_eq_false] at hopened
      exact (h.returned (hP.opened _ _ h.onTransport hopened)).subscribe hP

theorem recoverWifi (h : DevHolds deviceId credentials P s) (hP : KeptBySession deviceId P P')
    (program : DevProgram) : DevHolds deviceId credentials P (s.recoverWifi program) := by
  have hdown : DevHolds deviceId credentials P
      (if s.isConnected.2 then s.isConnected.1.disconnect else s.isConnected.1) := by
    split
    · exact (h.isConnected hP.toKeptByServing).disconnect hP
    · exact h.isConnected hP.toKeptByServing
  rw [DevEntryPoint.recoverWifi]
  dsimp only
  split
  · exact hdown.of_eq rfl rfl
  · exact hdown

theorem act (h : DevHolds deviceId credentials P s) (hP : KeptBySession deviceId P P')
    (program : DevProgram) (r : DevLoopReadings) (action : DevSmokeAction) :
    DevHolds deviceId credentials P (s.act program r action) := by
  cases action with
  | connectWifi =>
    rw [DevEntryPoint.act]
    split
    · exact h
    · exact h.of_eq rfl rfl
  | resolveDns => exact h.of_eq rfl rfl
  | configureTime => exact h
  | connectMqtt =>
    rw [DevEntryPoint.act, DevEntryPoint.connectMqtt]
    split
    · exact h.of_eq rfl rfl
    · exact (h.connectAndSubscribe hP r.timeValidAtConnect).of_eq rfl rfl
  | recoverWifi => exact h.recoverWifi hP program
  | none => exact h

theorem maintain (h : DevHolds deviceId credentials P s) (hP : KeptBySession deviceId P P')
    (program : DevProgram) (r : DevLoopReadings) :
    DevHolds deviceId credentials P (s.maintain program r).1 := by
  have hdrained : DevHolds deviceId credentials P ((s.checkSession r).drainWifiEventSignals r) :=
    (h.checkSession hP r).of_eq (DevEntryPoint.drainWifiEventSignals_commandEnv _ r)
      (DevEntryPoint.drainWifiEventSignals_credentials _ r)
  have hupdated : DevHolds deviceId credentials P
      (((s.checkSession r).drainWifiEventSignals r).updateConnectivity r).1 :=
    (hdrained.isConnected hP.toKeptByServing).of_eq rfl rfl
  exact hupdated.act hP program r _

theorem heartbeat (h : DevHolds deviceId credentials P s) (hP : KeptByServing deviceId P)
    (r : DevLoopReadings) : DevHolds deviceId credentials P (s.heartbeat r) := by
  rw [DevEntryPoint.heartbeat]
  split
  · exact h
  · apply DevHolds.isConnected _ hP
    exact h.of_eq rfl rfl

theorem pollAndProcess (h : DevHolds deviceId credentials P s) (hP : KeptByServing deviceId P)
    (clock : ClockAnswers) : DevHolds deviceId credentials P (s.pollAndProcess clock) := by
  have hpolled := h.returned (hP.poll _ h.onTransport)
  refine ⟨?_, hpolled.trusted, hpolled.env.processPending hP.response clock⟩
  exact (RemoteCommandProcessor.processPending_deviceId clock _).trans hpolled.named

theorem report (h : DevHolds deviceId credentials P s) (hP : KeptByServing deviceId P)
    (program : DevProgram) (r : DevLoopReadings) :
    DevHolds deviceId credentials P (s.report program r) := by
  apply DevHolds.heartbeat _ hP
  rw [DevEntryPoint.publishHealth]
  split
  · exact h
  dsimp only
  split
  · exact h.isConnected hP
  · have hdue : DevHolds deviceId credentials P { s.isConnected.1 with
        healthReporter := (s.isConnected.1.healthReporter.isDue (ms32 r.atMs)).1 } :=
      (h.isConnected hP).of_eq rfl rfl
    rw [DevEntryPoint.publishReport]
    dsimp only
    split
    · exact hdue
    · apply hdue.returned
      rw [DevEntryPoint.topics, hdue.env.onTopics]
      exact hP.health _ _ hdue.named hdue.onTransport

theorem serve (h : DevHolds deviceId credentials P s) (hP : KeptByServing deviceId P)
    (r : DevLoopReadings) : DevHolds deviceId credentials P (s.serve r) := by
  rw [DevEntryPoint.serve]
  dsimp only
  split
  · exact (h.isConnected hP).pollAndProcess hP r.clock
  · exact h.isConnected hP

theorem loop (h : DevHolds deviceId credentials P s) (hP : KeptBySession deviceId P P')
    (r : DevLoopReadings) : DevHolds deviceId credentials P (s.loop r).1 :=
  ((h.maintain hP .mqttSmoke r).serve hP.toKeptByServing r).report hP.toKeptByServing .mqttSmoke r

variable [IRandomSource ρ] [IEventOutbox ω]

omit [IRandomSource ρ] in
theorem ringServe {s : DevRingEntryPoint κ ρ ω} (h : DevHolds deviceId credentials P s.entry)
    (hP : KeptByServing deviceId P) (hevent : ∀ t payload, P t →
      P (t.publish ⟨(devMqttTopics deviceId).eventsIngest, payload⟩ .atLeastOnce).transport)
    (r : DevRingLoopReadings) : DevHolds deviceId credentials P (s.serve r).entry := by
  have hpublished (p : EventPublication ω (Esp32AwsIotTransport κ)) (entries : List OutboxEntry)
      (hp : P p.transport) :
      P (publishEach (devMqttTopics deviceId).eventsIngest p entries).transport := by
    induction entries generalizing p with
    | nil => exact hp
    | cons entry entries ih =>
      rw [publishEach]
      dsimp only
      split
      · exact hevent _ entry.eventJson hp
      · exact ih _ (hevent _ entry.eventJson hp)
  rw [DevRingEntryPoint.serve]
  dsimp only
  split
  · exact h.isConnected hP
  split
  · exact (h.isConnected hP).pollAndProcess hP r.clock
  · have hpolled := (h.isConnected hP).pollAndProcess hP r.clock
    apply hpolled.returned
    dsimp only
    rw [DevEntryPoint.topics, hpolled.env.onTopics]
    exact hpublished _ _ hpolled.onTransport

theorem ringLoop {s : DevRingEntryPoint κ ρ ω} (h : DevHolds deviceId credentials P s.entry)
    (hP : KeptBySession deviceId P P') (hevent : ∀ t payload, P t →
      P (t.publish ⟨(devMqttTopics deviceId).eventsIngest, payload⟩ .atLeastOnce).transport)
    (program : DevProgram) (r : DevRingLoopReadings) :
    DevHolds deviceId credentials P (s.loop program r).1.entry := by
  have hmaintained : DevHolds deviceId credentials P (s.maintain program r).1.entry :=
    h.maintain hP program r.toDevLoopReadings
  exact (hmaintained.ringServe hP.toKeptByServing hevent r).report hP.toKeptByServing program
    r.toDevLoopReadings

end DevHolds
end InterBridge
