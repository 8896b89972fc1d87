import InterBridge.Dev.SessionOrder
import InterBridge.MainLoop.Device
import InterBridge.MainLoop.HealthCadence
import InterBridge.MainLoop.MainWireOrder
import InterBridge.MainLoop.ProductionRuns

namespace InterBridge
open Foundations
set_option autoImplicit true

/-- The events of the intercom line. -/
def ProtocolEventName.isHook : ProtocolEventName → Bool
  | .offHook | .onHook => true
  | _ => false

/-- The level of the line, where the iteration came to read it. -/
def LoopTransition.lineRead? (t : LoopTransition ρ κ δ ω) : Option Bool :=
  t.output.network.map fun _ => t.input.lineState

/-- The line events that were published. -/
def publishedHooks (ts : List (LoopTransition ρ κ δ ω)) : List ProtocolEventName :=
  ((publishedEvents ts).map DeviceEvent.event).filter ProtocolEventName.isHook

theorem StateMachine.handleEvent_idle {m : StateMachine} (h : m.state = .idle)
    (hevent : event ≠ .ringDetected) : m.handleEvent event = (m, false) := by
  obtain ⟨state⟩ := m
  cases h
  cases event with
  | ringDetected => exact absurd rfl hevent
  | _ => rfl

theorem LineDetector.update_output (d : LineDetector) (level : Bool) :
    (d.update level).2 = none ∨ (d.update level).2 = some (hookEvent level) := by
  rw [update]
  split
  · exact .inl rfl
  split
  · exact .inl rfl
  · exact .inr rfl

namespace MainLoop
variable [IMqttClient κ] [IDedupCache δ] [IEventOutbox ω] [ArduinoJson] {m : MainLoop κ δ ω}

omit [IDedupCache δ] [IEventOutbox ω] [ArduinoJson] in
theorem machine_keptByPublishing (machine : StateMachine) :
    KeptByPublishing fun n : MainLoop κ δ ω => n.stateMachine = machine :=
  ⟨fun _ _ _ h => h, fun _ _ h => h, fun _ _ h => h⟩

/-- Only Wi-Fi can move the machine during a network update. -/
theorem updateNetwork_stateMachine (m : MainLoop κ δ ω) (input : NetworkInput) :
    (m.updateNetwork input).1.stateMachine = (m.wifiUpdated input).stateMachine := by
  have hserved (n : MainLoop κ δ ω) : (n.serveSession input).1.stateMachine = n.stateMachine := by
    have hsubscribed : (n.pollAndProcess input).restoreSubscription.1.stateMachine =
        n.stateMachine := by
      rw [restoreSubscription]
      split
      · rfl
      · rfl
    exact (machine_keptByPublishing _).reportHealth
      ((machine_keptByPublishing _).flushOutbox hsubscribed) _ _
  rw [updateNetwork]
  split
  · rw [leaveNetwork]
    dsimp only
    split
    · rfl
    · rfl
  split
  · exact hserved _
  split
  · rfl
  · rw [attemptConnect]
    split
    · exact hserved (m.atGate input).sessionOpened
    · rfl

omit [IMqttClient κ] [IDedupCache δ] [ArduinoJson] in
theorem wifiUpdated_idle (h : m.stateMachine.state = .idle) (halone : input.meanwhile = []) :
    (m.wifiUpdated input).stateMachine.state = .idle := by
  rw [wifiUpdated, halone, List.foldl_nil, updateWifi]
  dsimp only
  split
  next event _ =>
    rw [StateMachine.handleEvent_idle h]
    · exact h
    · cases event with
      | _ => exact EventType.noConfusion
  · exact h

end MainLoop

namespace Production
section Phases
variable [IRandomSource ρ] [IEventOutbox ω] [ArduinoJson]

omit [IRandomSource ρ] [IEventOutbox ω] [ArduinoJson] in
/-- From `p` to `p'` the line, the machine and the processor are left alone. -/
structure OffLine (p p' : Production ρ κ δ ω) (events : List DeviceEvent) : Prop where
  detector : p'.lineDetector = p.lineDetector
  machine : p'.globals.stateMachine = p.globals.stateMachine
  processor : p'.globals.remoteCommandProcessor = p.globals.remoteCommandProcessor
  hooks : (events.map DeviceEvent.event).filter ProtocolEventName.isHook = []

variable (p : Production ρ κ δ ω) (input : LoopInput)

theorem updateButton_offLine :
    OffLine p (p.updateButton input).1 (p.updateButton input).2 := by
  rw [updateButton]
  dsimp only
  split
  · exact ⟨rfl, rfl, rfl, rfl⟩
  · exact ⟨rfl, rfl, rfl, rfl⟩
  · exact ⟨rfl, rfl, rfl, rfl⟩

theorem updateProvisioning_offLine :
    OffLine p (p.updateProvisioning input).1 (p.updateProvisioning input).2 := by
  rw [updateProvisioning]
  dsimp only
  split
  · exact ⟨rfl, rfl, rfl, rfl⟩
  next event _ =>
    refine ⟨rfl, rfl, rfl, ?_⟩
    cases event with
    | _ => rfl

/-- The line is read, and what happened to it published. -/
structure OnLine (p : Production ρ κ δ ω) (level : Bool) (p' : Production ρ κ δ ω)
    (events : List DeviceEvent) : Prop where
  detector : p'.lineDetector = (p.lineDetector.update level).1
  machine : p.globals.stateMachine.state = .idle → p'.globals.stateMachine.state = .idle
  processor : p'.globals.remoteCommandProcessor = p.globals.remoteCommandProcessor
  hooks : (events.map DeviceEvent.event).filter ProtocolEventName.isHook =
    ((p.lineDetector.update level).2.bind toProtocolEvent).toList

theorem updateIntercom_onLine :
    OnLine p input.lineState (p.updateIntercom input).1 (p.updateIntercom input).2 := by
  have houtput := p.lineDetector.update_output input.lineState
  generalize hupdate : p.lineDetector.update input.lineState = result at houtput
  obtain ⟨detector, event⟩ := result
  rw [updateIntercom, hupdate]
  rcases houtput with rfl | rfl
  · exact ⟨by rw [hupdate], id, rfl, by rw [hupdate]; rfl⟩
  have hidle (h : p.globals.stateMachine.state = .idle) :
      (p.globals.stateMachine.handleEvent
        (LineDetector.hookEvent input.lineState)).1.state = .idle := by
    rw [StateMachine.handleEvent_idle h]
    · exact h
    · cases input.lineState with
      | _ => exact EventType.noConfusion
  generalize input.lineState = level at hupdate hidle ⊢
  cases level with
  | true => exact ⟨by rw [hupdate]; rfl, hidle, rfl, by rw [hupdate]; rfl⟩
  | false => exact ⟨by rw [hupdate]; rfl, hidle, rfl, by rw [hupdate]; rfl⟩

end Phases

section Loop
variable [IRandomSource ρ] [IMqttClient κ] [IDedupCache δ] [IEventOutbox ω] [ArduinoJson]

/-- What an iteration does about the line: it reads it last, or a restart comes before that. -/
inductive LineCase (p : Production ρ κ δ ω) (input : LoopInput) :
    Production ρ κ δ ω × LoopTrace → Prop where
  | unread {p' : Production ρ κ δ ω} (earlier : OffLine p p' events) :
    LineCase p input (p', { published := events })
  | read {q q' p' : Production ρ κ δ ω} (earlier : OffLine p q events)
      (later : OnLine q' input.lineState p' events') (call : NetworkInput)
      (alone : call.meanwhile = []) (updated : q'.globals = (q.globals.updateNetwork call).1)
      (detector : q'.lineDetector = q.lineDetector) :
    LineCase p input (p', { published := events ++ events'
                            network := some (q.globals.updateNetwork call).2 })

omit [IRandomSource ρ] [IMqttClient κ] [IDedupCache δ] [IEventOutbox ω] [ArduinoJson] in
theorem OffLine.trans {p p' p'' : Production ρ κ δ ω} (h : OffLine p p' events)
    (h' : OffLine p' p'' events') : OffLine p p'' (events ++ events') := by
  refine ⟨h'.detector.trans h.detector, h'.machine.trans h.machine,
    h'.processor.trans h.processor, ?_⟩
  rw [List.map_append, List.filter_append, h.hooks, h'.hooks, List.append_nil]

theorem loop_lineCase (p : Production ρ κ δ ω) (input : LoopInput) :
    LineCase p input (p.loop input) := by
  rw [loop]
  split
  next hover => exact .unread ⟨rfl, rfl, rfl, rfl⟩
  next =>
    have hpressed := p.updateButton_offLine input
    dsimp only
    split
    next hrestarted => exact .unread hpressed
    next =>
      have hprovisioned := (p.updateButton input).1.updateProvisioning_offLine input
      have hread := (((p.updateButton input).1.updateProvisioning input).1.updateNetwork
        input).1.updateIntercom_onLine input
      exact .read (hpressed.trans hprovisioned) hread _ rfl rfl rfl

/-- The line as it was read so far, and what came of it. -/
structure LineFollowed (topics : MqttTopics) (ts : List (LoopTransition ρ κ δ ω))
    (p : Production ρ κ δ ω) : Prop where
  holds : MainHolds topics (fun _ => True) p.globals
  idle : p.globals.stateMachine.state = .idle
  detector : p.lineDetector =
    finalState LineDetector.update {} (ts.filterMap LoopTransition.lineRead?)
  hooks : publishedHooks ts = ((transitions LineDetector.update {}
    (ts.filterMap LoopTransition.lineRead?)).filterMap Transition.output).filterMap toProtocolEvent

namespace LineFollowed
variable {topics : MqttTopics} {ts : List (LoopTransition ρ κ δ ω)} {p : Production ρ κ δ ω}

omit [IRandomSource ρ] in
theorem served (h : LineFollowed topics ts p) {q : Production ρ κ δ ω}
    (hearlier : OffLine p q events) (halone : call.meanwhile = []) :
    MainHolds topics (fun _ => True) q.globals ∧
      (q.globals.updateNetwork call).1.stateMachine.state = .idle := by
  refine ⟨h.holds.of_eq hearlier.processor, ?_⟩
  rw [MainLoop.updateNetwork_stateMachine]
  refine MainLoop.wifiUpdated_idle ?_ halone
  rw [hearlier.machine]
  exact h.idle

theorem next (h : LineFollowed topics ts p) (input : LoopInput) :
    LineFollowed topics (ts ++ [.of loop p input]) (p.loop input).1 := by
  have hcase := p.loop_lineCase input
  rw [Transition.of]
  generalize p.loop input = result at hcase
  cases hcase with
  | unread earlier =>
    constructor
    · exact h.holds.of_eq earlier.processor
    · rw [earlier.machine]
      exact h.idle
    · rw [earlier.detector, h.detector, List.filterMap_append]
      exact congrArg _ (List.append_nil _).symm
    · rw [publishedHooks, publishedEvents, List.flatMap_append, List.flatMap_singleton,
        List.map_append, List.filter_append, earlier.hooks, List.append_nil, List.filterMap_append]
      refine h.hooks.trans ?_
      exact congrArg (fun levels => ((transitions LineDetector.update {} levels).filterMap
        Transition.output).filterMap toProtocolEvent) (List.append_nil _).symm
  | @read events events' q q' p' earlier later call alone updated detector =>
    obtain ⟨hholds, hidle⟩ := h.served earlier alone
    have hq' : q'.lineDetector = finalState LineDetector.update {}
        (ts.filterMap LoopTransition.lineRead?) := by
      rw [detector, earlier.detector, h.detector]
    constructor
    · refine MainHolds.of_eq (m := q'.globals) ?_ later.processor
      rw [updated]
      exact hholds.updateNetwork_true call
    · apply later.machine
      rw [updated]
      exact hidle
    · rw [later.detector, hq', List.filterMap_append, finalState_append]
      rfl
    · rw [publishedHooks, publishedEvents, List.flatMap_append, List.flatMap_singleton,
        List.map_append, List.map_append, List.filter_append, List.filter_append, earlier.hooks,
        later.hooks, List.nil_append, hq', List.filterMap_append, transitions_append,
        List.filterMap_append, List.filterMap_append]
      refine congrArg₂ _ h.hooks ?_
      change _ = List.filterMap toProtocolEvent (List.filterMap Transition.output
        [.of LineDetector.update _ input.lineState])
      rw [Transition.of]
      cases (LineDetector.update (finalState LineDetector.update {}
        (ts.filterMap LoopTransition.lineRead?)) input.lineState).2 with
      | none => rfl
      | some event =>
        change (toProtocolEvent event).toList = [event].filterMap toProtocolEvent
        rw [List.filterMap_cons]
        cases toProtocolEvent event with
        | none => rfl
        | some eventName => rfl

theorem run (h : LineFollowed topics [] p) (inputs : List LoopInput) :
    LineFollowed topics (transitions loop p inputs) (finalState loop p inputs) :=
  run_induction h (fun _ _ input hp => hp.next input) inputs

end LineFollowed

end Loop

theorem setup_lineFollowed [ArduinoJson] (random : ρ) (topics : MqttTopics)
    (config : AwsIotConnectionConfig) (client : κ) (store : PersistentStore) (provisioned : Bool)
    (dedupCache : δ) (eventOutbox : ω) (templateName proofOfPossession : Bytes) (bootAtMs : Nat)
    (answers : ProvisioningAnswers) :
    LineFollowed topics [] (setup random topics config client store provisioned dedupCache
      eventOutbox templateName proofOfPossession bootAtMs answers) := by
  have hglobals := setup_globals random topics config client store provisioned dedupCache
    eventOutbox templateName proofOfPossession bootAtMs answers
  refine ⟨?_, ?_, rfl, rfl⟩
  · rw [hglobals]
    exact .setup trivial topics store provisioned dedupCache eventOutbox
  · rw [hglobals]
    rfl

end Production

theorem MainLoop.finalState_called [IMqttClient κ] [IDedupCache δ] [ArduinoJson]
    (m : MainLoop (RecordingClient κ) δ PersistentEventOutbox) (calls : List NetworkInput) :
    finalState poweredStep m (calls.map .call) = finalState updateNetwork m calls := by
  induction calls generalizing m with
  | nil => rfl
  | cons call calls ih => exact ih _

theorem EventsHeld.called [IMqttClient κ] [IDedupCache δ] [ArduinoJson] {topics : MqttTopics}
    {m : MainLoop (RecordingClient κ) δ PersistentEventOutbox}
    (h : EventsHeld topics capacity events sent evicted losses m) (hj : ArduinoJson.RoundTrips)
    (hc : 1 ≤ capacity) (hstays : StaysDisconnected κ) (calls : List NetworkInput)
    (hdistinct : ((events ++ (calls.flatMap NetworkInput.meanwhile).filterMap
      RestOfLoop.entry?).map Prod.fst).Nodup) :
    ∃ sent' evicted', EventsHeld topics capacity
      (events ++ (calls.flatMap NetworkInput.meanwhile).filterMap RestOfLoop.entry?) sent' evicted'
        losses (finalState MainLoop.updateNetwork m calls) := by
  have henqueued : (calls.map (PoweredInput.call (κ := κ) (δ := δ))).flatMap
      PoweredInput.enqueued = (calls.flatMap NetworkInput.meanwhile).filterMap RestOfLoop.entry? := by
    rw [List.flatMap_map, List.filterMap_flatMap]
    rfl
  have hlosses : (calls.map (PoweredInput.call (κ := κ) (δ := δ))).countP PoweredInput.isLoss =
      0 := by
    rw [List.countP_map, List.countP_eq_zero]
    intro call _
    exact Bool.false_ne_true
  rw [← henqueued] at hdistinct
  have hrun := h.poweredRun hj hc hstays (calls.map .call) hdistinct
  rw [henqueued, hlosses, MainLoop.finalState_called] at hrun
  exact hrun

/-- Over every run of the program whose client does not come back by itself: what happens to the
line is published, every change of it and nothing else; and every event published, whatever it is
about, is still queued, was accepted by the client once and in order, or was evicted by more events
than the outbox holds. -/
theorem production_delivers [IRandomSource ρ] [IMqttClient κ] [IDedupCache δ] [ArduinoJson]
    (hj : ArduinoJson.RoundTrips) (hc : 1 ≤ capacity) (hstays : StaysDisconnected κ) (random : ρ)
    (topics : MqttTopics) (config : AwsIotConnectionConfig) (client : κ) (store : PersistentStore)
    (provisioned : Bool) (dedupCache : δ) (outboxStore : PersistentStore)
    (templateName proofOfPossession : Bytes) (bootAtMs : Nat) (answers : ProvisioningAnswers)
    (inputs : List LoopInput) :
    let outbox := PersistentEventOutbox.new outboxStore capacity
    let p := Production.setup random topics config ({ client := client } : RecordingClient κ) store
      provisioned dedupCache outbox templateName proofOfPossession bootAtMs answers
    let ts := transitions Production.loop p inputs
    let last := (finalState Production.loop p inputs).globals
    let events := outbox.memory.entries ++ (publishedEvents ts).map DeviceEvent.entry
    (events.map Prod.fst).Nodup →
      publishedHooks ts = (LineDetector.lineEvents
          (ts.filterMap LoopTransition.lineRead?)).filterMap toProtocolEvent ∧
        EventsDelivered capacity events 0
          (RecordedTransport.accepted topics.eventsIngest last.transport)
          last.eventOutbox.memory.entries := by
  intro outbox p ts last events hdistinct
  constructor
  · have hline := (Production.setup_lineFollowed random topics config
      ({ client := client } : RecordingClient κ) store provisioned dedupCache outbox templateName
      proofOfPossession bootAtMs answers).run inputs
    rw [← LineDetector.update_lineEvents]
    exact hline.hooks
  obtain ⟨calls, since, hsimulated⟩ := production_simulated random topics config
    ({ client := client } : RecordingClient κ) store provisioned dedupCache outbox templateName
    proofOfPossession bootAtMs answers inputs
  have hentries := hsimulated.entries
  rw [List.filterMap_append] at hentries
  have hsetup := EventsHeld.setup hc topics config client store provisioned dedupCache outboxStore
  have hdistinct' : ((outbox.memory.entries ++
      ((calls.flatMap NetworkInput.meanwhile).filterMap RestOfLoop.entry? ++
        since.filterMap RestOfLoop.entry?)).map Prod.fst).Nodup := by
    rw [hentries]
    exact hdistinct
  rw [← List.append_assoc] at hdistinct'
  obtain ⟨sent, evicted, hcalled⟩ := hsetup.called hj hc hstays calls
    (hdistinct'.sublist ((List.sublist_append_left _ _).map _))
  obtain ⟨evicted', hlast⟩ := hcalled.rest hj hc since hdistinct'
  rw [← hsimulated.globals, List.append_assoc, hentries] at hlast
  exact hlast.delivered

/-- An iteration in which all goes well. -/
def iterationAt (nowMs : Nat) (lineState : Bool) : LoopInput where
  buttonPressed := false
  buttonAtMs := nowMs
  request := Device.enrollingAnswers
  provisioningAtMs := nowMs
  provisioning := Device.enrollingAnswers
  wifiConnected := true
  atMs := nowMs
  healthAtMs := nowMs
  uptimeAtMs := nowMs
  clock := (MainLoop.callAt nowMs ⟨0, 0, 0, 0⟩).clock
  lineState := lineState

/-- A new device is provisioned while the handset is lifted, and comes online. -/
def firstDay : List LoopInput :=
  [iterationAt 100 false, iterationAt 300 true, iterationAt 400 true, iterationAt 500 false]

/-- The program of a new device, with a client that accepts five messages. -/
def newDevice : Production DevRing.CountingRandom (RecordingClient DroppingClient)
    InMemoryDedupCache PersistentEventOutbox :=
  letI := compactJson
  .setup (DevRing.CountingRandom.mk 0) provisionedTopics Esp32AwsIotTransport.awsConfig
    { client := ⟨List.replicate 5 true, false⟩ } .empty false (.new kDefaultDedupCacheCapacity)
    (.new .empty 32) (ascii "fleet") (ascii "pop_1") 0 Device.enrollingAnswers

def firstDayRun : List (LoopTransition DevRing.CountingRandom (RecordingClient DroppingClient)
    InMemoryDedupCache PersistentEventOutbox) :=
  letI := compactJson
  transitions Production.loop newDevice firstDay

def firstDayLast : MainLoop (RecordingClient DroppingClient) InMemoryDedupCache
    PersistentEventOutbox :=
  letI := compactJson
  (finalState Production.loop newDevice firstDay).globals

/-- All but the last event were accepted. -/
theorem firstDay_delivered :
    letI := compactJson
    (publishedEvents firstDayRun).map DeviceEvent.event =
        [.provisioningStarted, .provisioningCompleted, .offHook, .onHook] ∧
      (RecordedTransport.accepted provisionedTopics.eventsIngest firstDayLast.transport).length =
        3 ∧
      publishedHooks firstDayRun = (LineDetector.lineEvents
        (firstDayRun.filterMap LoopTransition.lineRead?)).filterMap toProtocolEvent ∧
      EventsDelivered 32 ((publishedEvents firstDayRun).map DeviceEvent.entry) 0
        (RecordedTransport.accepted provisionedTopics.eventsIngest firstDayLast.transport)
        firstDayLast.eventOutbox.memory.entries :=
  letI := compactJson
  ⟨by decide +kernel, by decide +kernel, production_delivers compactJson_roundTrips (by decide)
    droppingClient_staysDisconnected (DevRing.CountingRandom.mk 0) provisionedTopics
    Esp32AwsIotTransport.awsConfig ⟨List.replicate 5 true, false⟩ .empty false
    (InMemoryDedupCache.new kDefaultDedupCacheCapacity) .empty (ascii "fleet") (ascii "pop_1") 0
    Device.enrollingAnswers firstDay (by decide +kernel)⟩

/-- What the device reports about its health with nothing going on at the intercom. -/
def IdleReport [ArduinoJson] (deviceId payload : Bytes) : Prop :=
  ∃ report : HealthReport, report.deviceId = deviceId ∧
    report.intercomState = ProtocolIntercomState.idle.toString ∧ payload = report.toJson

theorem MainHolds.reportMessages_idle [ArduinoJson] {topics : MqttTopics}
    {P : Esp32AwsIotTransport κ → Prop} {m : MainLoop κ δ ω} (h : MainHolds topics P m)
    (hidle : m.stateMachine.state = .idle)
    (hmem : message ∈ (m.reportMessages uptimeMs).filter (·.topic = topics.healthIngest)) :
    IdleReport topics.deviceId message.payload := by
  obtain ⟨hmem, htopic⟩ := List.mem_filter.mp hmem
  rw [decide_eq_true_iff] at htopic
  rw [MainLoop.reportMessages, h.answers.onTopics, List.mem_cons, List.mem_singleton] at hmem
  rcases hmem with rfl | rfl
  · exact ⟨m.healthReport uptimeMs, h.named,
      congrArg (fun state => (toProtocolIntercomState state).toString) hidle, rfl⟩
  · exact absurd htopic topics.shadowUpdate_ne_healthIngest

namespace Production
variable [IRandomSource ρ] [IMqttClient κ] [IDedupCache δ] [IEventOutbox ω] [ArduinoJson]

theorem LineFollowed.reportsIdle {topics : MqttTopics}
    {p : Production ρ (RecordingClient κ) δ ω} (h : LineFollowed topics ts p)
    (hidle : ∀ payload ∈ RecordedTransport.accepted topics.healthIngest p.globals.transport,
      IdleReport topics.deviceId payload) (input : LoopInput) :
    ∀ payload ∈ RecordedTransport.accepted topics.healthIngest (p.loop input).1.globals.transport,
      IdleReport topics.deviceId payload := by
  have hcase := p.loop_lineCase input
  generalize p.loop input = result at hcase
  cases hcase with
  | unread earlier =>
    rw [MainLoop.transport, earlier.processor]
    exact hidle
  | @read _ _ q _ _ earlier later call alone updated _ =>
    obtain ⟨hholds, hmachine⟩ := h.served earlier alone
    obtain ⟨went, hwent, haccepted⟩ := MainLoop.updateNetwork_wentOut hholds call
      topics.responsesIngest_ne_healthIngest topics.healthIngest_ne_eventsIngest.symm
    have hprocessor : q.globals.transport = p.globals.transport :=
      congrArg RemoteCommandProcessor.transport earlier.processor
    rw [MainLoop.transport, later.processor, updated]
    change ∀ payload ∈ RecordedTransport.accepted topics.healthIngest
      (q.globals.updateNetwork call).1.transport, _
    rw [haccepted, List.forall_mem_append, hprocessor]
    refine ⟨hidle, List.forall_mem_map.mpr fun message hmessage => ?_⟩
    have hmem := hwent.subset hmessage
    split at hmem
    · exact (hholds.updateNetwork_true call).reportMessages_idle hmachine hmem
    · exact absurd hmem List.not_mem_nil

end Production

/-- Over every run of the program, whatever happens to the line and to Wi-Fi: the state machine
never leaves `idle`, and so no health report that went out says anything else. -/
theorem production_reportsIdle [IRandomSource ρ] [IMqttClient κ] [IDedupCache δ] [IEventOutbox ω]
    [ArduinoJson] (random : ρ) (topics : MqttTopics) (config : AwsIotConnectionConfig) (client : κ)
    (store : PersistentStore) (provisioned : Bool) (dedupCache : δ) (eventOutbox : ω)
    (templateName proofOfPossession : Bytes) (bootAtMs : Nat) (answers : ProvisioningAnswers)
    (inputs : List LoopInput) :
    let p := Production.setup random topics config ({ client := client } : RecordingClient κ) store
      provisioned dedupCache eventOutbox templateName proofOfPossession bootAtMs answers
    let last := (finalState Production.loop p inputs).globals
    last.stateMachine.state = .idle ∧
      ∀ payload ∈ RecordedTransport.accepted topics.healthIngest last.transport,
        IdleReport topics.deviceId payload := by
  intro p last
  have hline := Production.setup_lineFollowed random topics config
    ({ client := client } : RecordingClient κ) store provisioned dedupCache eventOutbox templateName
    proofOfPossession bootAtMs answers
  refine ⟨(hline.run inputs).idle, ?_⟩
  have hrun : Production.LineFollowed topics (transitions Production.loop p inputs)
      (finalState Production.loop p inputs) ∧
      ∀ payload ∈ RecordedTransport.accepted topics.healthIngest last.transport,
        IdleReport topics.deviceId payload := by
    apply run_induction (motive := fun ts p => Production.LineFollowed topics ts p ∧
      ∀ payload ∈ RecordedTransport.accepted topics.healthIngest p.globals.transport,
        IdleReport topics.deviceId payload)
    · refine ⟨hline, ?_⟩
      rw [Production.setup_globals]
      exact List.forall_mem_nil _
    · exact fun _ _ input hp => ⟨hp.1.next input, hp.1.reportsIdle hp.2 input⟩
  exact hrun.2

end InterBridge
