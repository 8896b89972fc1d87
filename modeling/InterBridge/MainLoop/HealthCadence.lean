import InterBridge.MainLoop.MainSessions
import InterBridge.MainLoop.ReconnectStorm
import InterBridge.Network.ClientLink

namespace InterBridge
open Foundations
set_option autoImplicit true

namespace HealthReporter

theorem isDue_of_asked (reporter : HealthReporter)
    (h : reporter.forced = true ∨ reporter.hasPublished = false) (nowMs : UInt32) :
    reporter.isDue nowMs =
      ({ reporter with forced := false, lastPublishMs := nowMs, hasPublished := true }, true) := by
  rw [isDue]
  by_cases hforced : reporter.forced = true
  · rw [if_pos hforced]
  · have hfirst := h.resolve_left hforced
    rw [if_neg hforced, hfirst, Bool.not_false, if_pos rfl]
    rw [Bool.not_eq_true] at hforced
    rw [hforced]

theorem isDue_of_unforced {reporter : HealthReporter} (hforced : reporter.forced = false)
    (hpublished : reporter.hasPublished = true) (nowMs : UInt32) :
    reporter.isDue nowMs =
      if reporter.intervalMs ≤ nowMs - reporter.lastPublishMs then
        ({ reporter with lastPublishMs := nowMs }, true)
      else (reporter, false) := by
  rw [isDue, hforced, hpublished, if_neg Bool.false_ne_true, Bool.not_true,
    if_neg Bool.false_ne_true]

end HealthReporter

namespace MainLoop
variable [IMqttClient κ] [IDedupCache δ] [IEventOutbox ω] [ArduinoJson]

/-- Whether this call of `updateNetwork` reports the health. -/
def reportsHealth (m : MainLoop κ δ ω) (input : NetworkInput) : Bool :=
  match m.flushedFrom input with
  | none => false
  | some start => (start.healthReporter.isDue (ms32 input.healthAtMs)).2

/-- The messages of a report: the health, and the shadow. -/
def reportMessages (m : MainLoop κ δ ω) (uptimeMs : UInt32) : List MqttMessage :=
  let health := m.healthReport uptimeMs
  [⟨m.remoteCommandProcessor.topics.healthIngest, health.toJson⟩,
    ⟨m.remoteCommandProcessor.topics.shadowUpdate, buildReportedUpdate (m.shadowState health)⟩]

omit [IMqttClient κ] [IDedupCache δ] [IEventOutbox ω] in
theorem reportMessages_congr {m n : MainLoop κ δ ω}
    (htopics : n.remoteCommandProcessor.topics = m.remoteCommandProcessor.topics)
    (hdeviceId : n.remoteCommandProcessor.deviceId = m.remoteCommandProcessor.deviceId)
    (hstate : n.stateMachine = m.stateMachine) (hprovisioned : n.provisioned = m.provisioned)
    (uptimeMs : UInt32) : n.reportMessages uptimeMs = m.reportMessages uptimeMs := by
  simp only [reportMessages, healthReport, shadowState, htopics, hdeviceId, hstate, hprovisioned]

omit [IDedupCache δ] [IEventOutbox ω] in
theorem reportMessages_keptByPublishing (uptimeMs : UInt32) (messages : List MqttMessage) :
    KeptByPublishing fun n : MainLoop κ δ ω => n.reportMessages uptimeMs = messages := by
  refine ⟨fun n message qos h => ?_, fun _ _ h => h, fun _ _ h => h⟩
  have hpublished := reportMessages_congr (m := n) (n := (n.publish message qos).1)
    (n.remoteCommandProcessor.returned_topics _) (n.remoteCommandProcessor.returned_deviceId _)
    rfl rfl uptimeMs
  exact hpublished.trans h

section Reporter
variable {m : MainLoop κ δ ω}

omit [IEventOutbox ω] in
theorem readied_healthReporter (m : MainLoop κ δ ω) (input : NetworkInput) :
    (m.readied input).healthReporter = m.healthReporter := by
  rw [readied, restoreSubscription]
  split
  · rfl
  · rfl

omit [IDedupCache δ] [ArduinoJson] in
theorem flushOutbox_healthReporter (m : MainLoop κ δ ω) :
    m.flushOutbox.healthReporter = m.healthReporter := by
  apply List.foldlRecOn (motive := fun n : MainLoop κ δ ω =>
    n.healthReporter = m.healthReporter) (IEventOutbox.pending m.eventOutbox) flushEntry rfl
  intro n hn entry _
  rw [flushEntry]
  dsimp only
  split
  · exact hn
  · exact hn

omit [IDedupCache δ] [IEventOutbox ω] in
theorem reportHealth_healthReporter (m : MainLoop κ δ ω) (nowMs uptimeMs : UInt32) :
    (m.reportHealth nowMs uptimeMs).healthReporter = (m.healthReporter.isDue nowMs).1 := by
  rw [reportHealth]
  dsimp only
  split
  · rfl
  · rfl

/-- A call comes to its flush on a session that was connected, or on one that it opened. -/
inductive FlushStart (m : MainLoop κ δ ω) (input : NetworkInput) (start : MainLoop κ δ ω) :
    Prop where
  | connected (up : m.transport.isConnected.ok = true)
      (trace : (m.updateNetwork input).2.connect = none)
      (reporter : start.healthReporter = m.healthReporter)
  | opened (trace : (m.updateNetwork input).2.connect = some true)
      (reporter : start.healthReporter = m.healthReporter.forceNextPublish)

theorem flushStart (h : m.flushedFrom input = some start) : FlushStart m input start := by
  rw [flushedFrom] at h
  split at h
  · cases h
  next hwifi =>
  split at h
  next hconnected =>
    cases h
    refine .connected ?_ ?_ ?_
    · rw [← (m.wifiUpdated_kept input).1]
      exact hconnected
    · rw [updateNetwork, if_neg hwifi, if_pos hconnected]
    · exact (readied_healthReporter _ input).trans (m.wifiUpdated_healthReporter input)
  next hdown =>
  split at h
  · cases h
  next hdue =>
  split at h
  next hopened =>
    cases h
    refine .opened ?_ ?_
    · rw [updateNetwork, if_neg hwifi, if_neg hdown, if_neg hdue, attemptConnect_accepted hopened]
    · rw [readied_healthReporter]
      exact congrArg HealthReporter.forceNextPublish (m.wifiUpdated_healthReporter input)
  · cases h

/-- A call that does not come to a flush leaves the reporter alone, and opens no session. -/
theorem unflushed_reporter (h : m.flushedFrom input = none) :
    (m.updateNetwork input).1.healthReporter = m.healthReporter ∧
      (m.Down → (m.updateNetwork input).1.Down) := by
  have hreporter := m.wifiUpdated_healthReporter input
  rw [flushedFrom] at h
  rw [updateNetwork]
  split at h
  next hwifi =>
    rw [if_pos hwifi]
    constructor
    · rw [leaveNetwork]
      dsimp only
      split
      · exact hreporter
      · exact hreporter
    · intro hdown
      rcases (m.wifiUpdated input).leaveNetwork_cases with hleft | ⟨_, hvalid⟩
      · exact hleft
      · rw [Down, hvalid, (m.wifiUpdated_kept input).1]
        exact hdown
  next hwifi =>
  rw [if_neg hwifi]
  split at h
  · cases h
  next hdown =>
  rw [if_neg hdown]
  split at h
  next hwait =>
    rw [if_pos hwait]
    exact ⟨hreporter, fun hm => hm.atGate input⟩
  next hdue =>
  rw [if_neg hdue]
  split at h
  · cases h
  next hrefused =>
    rw [Bool.not_eq_true] at hrefused
    refine ⟨?_, fun _ => (attemptConnect_refused hrefused input).2.2⟩
    rw [attemptConnect, hrefused, if_neg Bool.false_ne_true]
    exact hreporter

theorem flushed_reporter (h : m.flushedFrom input = some start) :
    (m.updateNetwork input).1.healthReporter =
      (start.healthReporter.isDue (ms32 input.healthAtMs)).1 := by
  rw [updateNetwork_flushed h, reportHealth_healthReporter, flushOutbox_healthReporter]

end Reporter

/-- On every topic the client accepted some of these messages, in order. -/
def WentOut (messages : List MqttMessage) (topic : Bytes) (t t' : RecordedTransport κ) : Prop :=
  ∃ went : List MqttMessage, went.Sublist (messages.filter (·.topic = topic)) ∧
    RecordedTransport.accepted topic t' =
      RecordedTransport.accepted topic t ++ went.map MqttMessage.payload

omit [IMqttClient κ] [ArduinoJson] in
theorem WentOut.append {messages messages' : List MqttMessage} {t t' t'' : RecordedTransport κ}
    (h : WentOut messages topic t t') (h' : WentOut messages' topic t' t'') :
    WentOut (messages ++ messages') topic t t'' := by
  obtain ⟨went, hwent, haccepted⟩ := h
  obtain ⟨went', hwent', haccepted'⟩ := h'
  refine ⟨went ++ went', ?_, ?_⟩
  · rw [List.filter_append]
    exact hwent.append hwent'
  · rw [haccepted', haccepted, List.map_append, List.append_assoc]

section Accepted
variable {m : MainLoop (RecordingClient κ) δ ω}

omit [IDedupCache δ] [IEventOutbox ω] [ArduinoJson] in
theorem publish_wentOut (m : MainLoop (RecordingClient κ) δ ω) (topic : Bytes)
    (message : MqttMessage) (qos : MqttQos) :
    WentOut [message] topic m.transport (m.publish message qos).1.transport := by
  have haccepted := RecordedTransport.accepted_publish topic m.transport message qos
  rw [publish, returned_transport, WentOut, haccepted]
  split
  next hhere =>
    refine ⟨[message], ?_, rfl⟩
    rw [List.filter_singleton, decide_eq_true hhere.2]
    exact List.Sublist.refl _
  next => exact ⟨[], List.nil_sublist _, rfl⟩

omit [IDedupCache δ] [IEventOutbox ω] in
theorem reportHealth_wentOut (m : MainLoop (RecordingClient κ) δ ω) (topic : Bytes)
    (nowMs uptimeMs : UInt32) :
    WentOut (if (m.healthReporter.isDue nowMs).2 then m.reportMessages uptimeMs else []) topic
      m.transport (m.reportHealth nowMs uptimeMs).transport := by
  rw [reportHealth]
  dsimp only
  split
  · exact (publish_wentOut { m with healthReporter := (m.healthReporter.isDue nowMs).1 } topic _
      _).append (publish_wentOut _ topic _ _)
  · exact ⟨[], List.nil_sublist _, (List.append_nil _).symm⟩

/-- Whatever else a call does, only the messages of its report go to other topics than those of
the responses and the events. -/
theorem updateNetwork_wentOut {topics : MqttTopics} (h : MainHolds topics P m)
    (input : NetworkInput) {topic : Bytes} (hresponses : topics.responsesIngest ≠ topic)
    (hevents : topics.eventsIngest ≠ topic) :
    WentOut (if m.reportsHealth input then
        (m.updateNetwork input).1.reportMessages (ms32 input.uptimeAtMs) else []) topic
      m.transport (m.updateNetwork input).1.transport := by
  have hP := MainHolds.accepted_keptByLoop (κ := κ) topics hresponses
    (RecordedTransport.accepted topic m.transport)
  have hm : MainHolds topics (fun t => RecordedTransport.accepted topic t =
      RecordedTransport.accepted topic m.transport) m := h.mono rfl
  rw [reportsHealth]
  cases hstart : m.flushedFrom input with
  | none =>
    refine ⟨[], List.nil_sublist _, ?_⟩
    rw [(hm.unflushed hP hstart).onTransport]
    exact (List.append_nil _).symm
  | some start =>
    have hflushed := (hm.flushedFrom hP hstart).flushOutbox fun t payload ht =>
      (RecordedTransport.accepted_publish_elsewhere topic t hevents _).trans ht
    have hmessages := (reportMessages_keptByPublishing (ms32 input.uptimeAtMs) _).reportHealth
      (m := start.flushOutbox) rfl (ms32 input.healthAtMs) (ms32 input.uptimeAtMs)
    have hreport := reportHealth_wentOut start.flushOutbox topic (ms32 input.healthAtMs)
      (ms32 input.uptimeAtMs)
    rw [flushOutbox_healthReporter] at hreport
    rw [updateNetwork_flushed hstart, hmessages]
    rw [WentOut, hflushed.onTransport] at hreport
    exact hreport

end Accepted

section Run
variable {m : MainLoop κ δ ω}

/-- The last of these calls that reported the health. -/
def lastReport? (ts : List (NetworkTransition κ δ ω)) : Option (NetworkTransition κ δ ω) :=
  (ts.filter fun v => v.before.reportsHealth v.input).getLast?

theorem lastReport?_concat (ts : List (NetworkTransition κ δ ω)) (m : MainLoop κ δ ω)
    (input : NetworkInput) :
    lastReport? (ts ++ [.of updateNetwork m input]) =
      if m.reportsHealth input then some (.of updateNetwork m input) else lastReport? ts := by
  rw [lastReport?, List.filter_append, List.filter_singleton]
  change List.getLast? (_ ++ bif m.reportsHealth input then _ else _) = _
  cases m.reportsHealth input with
  | true => exact List.getLast?_concat
  | false =>
    rw [cond_false, List.append_nil]
    rfl

/-- What the reporter remembers of the calls so far. -/
structure Reporting (ts : List (NetworkTransition κ δ ω)) (m : MainLoop κ δ ω) : Prop where
  interval : m.healthReporter.intervalMs = kDefaultHealthIntervalMs
  unforced : m.healthReporter.forced = false
  unreported : m.healthReporter.hasPublished = false → m.Down
  last : m.healthReporter.hasPublished = true → ∃ v, lastReport? ts = some v ∧
    m.healthReporter.lastPublishMs = ms32 v.input.healthAtMs

/-- By the readings of the clock, the interval since the last of these reports is over. -/
def IntervalOver (ts : List (NetworkTransition κ δ ω)) (healthAtMs : Nat) : Prop :=
  ∃ v, lastReport? ts = some v ∧
    kDefaultHealthIntervalMs ≤ ms32 healthAtMs - ms32 v.input.healthAtMs

/-- What a call that comes to its flush does about the report. -/
inductive Reports (ts : List (NetworkTransition κ δ ω)) (m : MainLoop κ δ ω)
    (input : NetworkInput) : Prop where
  | reported (due : m.reportsHealth input = true)
      (reason : (m.updateNetwork input).2.connect = some true ∨ IntervalOver ts input.healthAtMs)
      (reporter : (m.updateNetwork input).1.healthReporter =
        { m.healthReporter with
          forced := false, lastPublishMs := ms32 input.healthAtMs, hasPublished := true })
  | silent (early : m.reportsHealth input = false)
      (connected : (m.updateNetwork input).2.connect = none)
      (within : ¬ IntervalOver ts input.healthAtMs)
      (published : m.healthReporter.hasPublished = true)
      (reporter : (m.updateNetwork input).1.healthReporter = m.healthReporter)

theorem Reporting.reports {ts : List (NetworkTransition κ δ ω)} (h : Reporting ts m)
    (hstart : m.flushedFrom input = some start) : Reports ts m input := by
  have hreports : m.reportsHealth input =
      (start.healthReporter.isDue (ms32 input.healthAtMs)).2 := by
    rw [reportsHealth, hstart]
  have hreporter := flushed_reporter hstart
  cases flushStart hstart with
  | opened htrace hforced =>
    have hdue := start.healthReporter.isDue_of_asked
      (.inl (congrArg HealthReporter.forced hforced)) (ms32 input.healthAtMs)
    rw [hdue] at hreports hreporter
    rw [hforced] at hreporter
    exact .reported hreports (.inl htrace) hreporter
  | connected hup htrace hsame =>
    have hvalid := Esp32AwsIotTransport.sessionValid_of_isConnected hup
    have hpublished : m.healthReporter.hasPublished = true := by
      by_contra hnever
      rw [Bool.not_eq_true] at hnever
      exact Bool.false_ne_true ((h.unreported hnever).symm.trans hvalid)
    obtain ⟨v, hlast, hlastMs⟩ := h.last hpublished
    have hdue := HealthReporter.isDue_of_unforced h.unforced hpublished (ms32 input.healthAtMs)
    rw [hsame, hdue] at hreports hreporter
    split at hreports
    next hover =>
      rw [if_pos hover, h.unforced, hpublished] at hreporter
      rw [h.interval, hlastMs] at hover
      exact .reported hreports (.inr ⟨v, hlast, hover⟩) hreporter
    next hwithin =>
      rw [if_neg hwithin] at hreporter
      refine .silent hreports htrace ?_ hpublished hreporter
      rintro ⟨v', hlast', hover⟩
      rw [hlast, Option.some.injEq] at hlast'
      rw [h.interval, hlastMs, hlast'] at hwithin
      exact hwithin hover

theorem Reporting.next {ts : List (NetworkTransition κ δ ω)} (h : Reporting ts m)
    (input : NetworkInput) :
    Reporting (ts ++ [.of updateNetwork m input]) (m.updateNetwork input).1 := by
  have hlast := lastReport?_concat ts m input
  cases hstart : m.flushedFrom input with
  | none =>
    obtain ⟨hreporter, hdown⟩ := unflushed_reporter hstart
    have hsilent : m.reportsHealth input = false := by rw [reportsHealth, hstart]
    rw [hsilent, if_neg Bool.false_ne_true] at hlast
    constructor
    · exact hreporter ▸ h.interval
    · exact hreporter ▸ h.unforced
    · exact fun hnever => hdown (h.unreported (hreporter ▸ hnever))
    · rw [hreporter, hlast]
      exact h.last
  | some start =>
    cases h.reports hstart with
    | reported hdue _ hreporter =>
      rw [hdue, if_pos rfl] at hlast
      constructor
      · rw [hreporter]
        exact h.interval
      · rw [hreporter]
      · intro hnever
        rw [hreporter] at hnever
        exact absurd hnever.symm Bool.false_ne_true
      · intro _
        rw [hreporter]
        exact ⟨_, hlast, rfl⟩
    | silent hearly _ _ hpublished hreporter =>
      rw [hearly, if_neg Bool.false_ne_true] at hlast
      constructor
      · exact hreporter ▸ h.interval
      · exact hreporter ▸ h.unforced
      · intro hnever
        rw [hreporter, hpublished] at hnever
        exact absurd hnever.symm Bool.false_ne_true
      · rw [hreporter, hlast]
        exact h.last

end Run
end MainLoop

end InterBridge
