import InterBridge.Protocol.AttributableCommands
import InterBridge.Protocol.ProcessorEffects
import Mathlib.Data.List.TakeWhile

namespace InterBridge
open Foundations
set_option autoImplicit true

def ProcessorEvent.isPublished : ProcessorEvent → Bool
  | .published _ _ => true
  | _ => false

namespace RemoteCommandProcessor

/-- What happened since the most recent payload was started. -/
def sinceStart (p : RemoteCommandProcessor τ δ) : List ProcessorEvent :=
  p.log.rtakeWhile fun event => event.started?.isNone

/-- What happened since the first response to it was attempted. -/
def sinceFirstAttempt (p : RemoteCommandProcessor τ δ) : List ProcessorEvent :=
  (p.sinceStart.dropWhile fun event => !event.isPublished).tail

/-- Nothing is left to publish for the most recent payload, which parsed. -/
structure Settled [ArduinoJson] (p : RemoteCommandProcessor τ δ)
    (command : DeviceCommand) : Prop where
  drained : p.outbox = []
  parsed : ∃ payload, p.startedPayloads.getLast? = some payload ∧
    (parseCommand payload p.deviceId).command = some command

/-- Once everything is published, the last result tells of all of it. -/
def ResultConverged [ArduinoJson] (p : RemoteCommandProcessor τ δ) : Prop :=
  ∀ command, p.Settled command → ∃ responses,
    p.handledCommands.getLast? = some (command, responses) ∧
      p.lastResult =
        { parsed := true, acceptedPublished := responses.hasAccepted, terminalPublished := true }

/-- Once everything is published, no message was rejected before parsing since the first response
was attempted. -/
def NoneRejected [ArduinoJson] (p : RemoteCommandProcessor τ δ) : Prop :=
  ∀ command, p.Settled command →
    ∀ event ∈ p.sinceFirstAttempt, ¬ event.rejects p.topics

/-- The last result while these responses wait, each terminal or not; a rejected message has
wiped out that the command was parsed. -/
structure Tracks (hasAccepted : Bool) (waiting : List Bool) (rejected : Bool)
    (result : CommandPublishResult) : Prop where
  queued : waiting = [] ∨ waiting = [true] ∨ waiting = [false, true] ∧ hasAccepted = true
  wiped : rejected = true → result.parsed = false
  kept : rejected = false → result =
    { parsed := true
      acceptedPublished := hasAccepted && !waiting.contains false
      terminalPublished := !waiting.contains true }

/-- Which of the responses in the outbox are terminal. -/
def kinds (p : RemoteCommandProcessor τ δ) : List Bool := p.outbox.map PendingResponse.isTerminal

/-- The last result follows the responses of the most recent payload, if it parsed. -/
def TracksResult [ArduinoJson] (p : RemoteCommandProcessor τ δ) : Prop :=
  ∀ payload command, p.startedPayloads.getLast? = some payload →
    (parseCommand payload p.deviceId).command = some command → ∃ responses,
      p.handledCommands.getLast? = some (command, responses) ∧
      p.sinceStart.any ProcessorEvent.isPublished = true ∧
      Tracks responses.hasAccepted p.kinds
        (p.sinceFirstAttempt.any (ProcessorEvent.rejects p.topics)) p.lastResult

theorem Tracks.arrived (h : Tracks hasAccepted waiting rejected result) (now : Bool) :
    Tracks hasAccepted waiting (rejected || now) (if now then {} else result) := by
  refine ⟨h.queued, ?_, ?_⟩
  · intro hrejected
    cases now with
    | true => rfl
    | false =>
      rw [Bool.or_false] at hrejected
      exact h.wiped hrejected
  · intro hrejected
    rw [Bool.or_eq_false_iff] at hrejected
    obtain ⟨hbefore, rfl⟩ := hrejected
    exact h.kept hbefore

theorem Tracks.published {front : PendingResponse}
    (h : Tracks hasAccepted (front.isTerminal :: waiting) rejected result) :
    Tracks hasAccepted waiting rejected (front.mark result) := by
  have hparsed : (front.mark result).parsed = result.parsed := by
    rw [PendingResponse.mark]
    cases front.isTerminal <;> rfl
  refine ⟨?_, ?_, ?_⟩
  · rcases h.queued with hnil | hone | ⟨htwo, _⟩
    · cases hnil
    · exact .inl (List.cons.inj hone).2
    · exact .inr (.inl (List.cons.inj htwo).2)
  · intro hrejected
    rw [hparsed]
    exact h.wiped hrejected
  · intro hrejected
    rw [h.kept hrejected, PendingResponse.mark]
    rcases h.queued with hnil | hone | ⟨htwo, haccepted⟩
    · cases hnil
    · obtain ⟨hfront, hrest⟩ := List.cons.inj hone
      rw [hfront, hrest]
      rfl
    · obtain ⟨hfront, hrest⟩ := List.cons.inj htwo
      rw [hfront, hrest, haccepted]
      rfl

/-- Events that neither start nor handle a payload. -/
def OnlyResponds (events : List ProcessorEvent) : Prop :=
  ∀ event ∈ events, event.started? = none ∧ event.handled? = none

theorem OnlyResponds.append (h : OnlyResponds events) (h' : OnlyResponds later) :
    OnlyResponds (events ++ later) :=
  List.forall_mem_append.mpr ⟨h, h'⟩

theorem OnlyResponds.of_arrivals {events : List ProcessorEvent}
    (h : ∀ event ∈ events, event.IsArrival) : OnlyResponds events := by
  intro event hevent
  cases event with
  | received message waiting => exact ⟨rfl, rfl⟩
  | diagnosed diagnostic => exact ⟨rfl, rfl⟩
  | started payload => exact (h _ hevent).elim
  | handled command responses => exact (h _ hevent).elim
  | published message ok => exact (h _ hevent).elim

theorem OnlyResponds.report (p : RemoteCommandProcessor τ δ) (diagnostic : CommandDiagnostic) :
    OnlyResponds (p.report diagnostic) := by
  rw [RemoteCommandProcessor.report]
  cases p.hasDiagnosticCallback with
  | true => exact List.forall_mem_singleton.mpr ⟨rfl, rfl⟩
  | false => exact List.forall_mem_nil _

theorem OnlyResponds.published (message : MqttMessage) (ok : Bool)
    (h : OnlyResponds events) : OnlyResponds (.published message ok :: events) :=
  List.forall_mem_cons.mpr ⟨⟨rfl, rfl⟩, h⟩

section Appended

variable {p q : RemoteCommandProcessor τ δ} {events : List ProcessorEvent}

theorem startedPayloads_append (hlog : q.log = p.log ++ events) (h : OnlyResponds events) :
    q.startedPayloads = p.startedPayloads := by
  have hnone : events.filterMap ProcessorEvent.started? = [] :=
    List.filterMap_eq_nil_iff.mpr fun event hevent => (h event hevent).1
  rw [startedPayloads, hlog, List.filterMap_append, hnone, List.append_nil]
  rfl

theorem handledCommands_append (hlog : q.log = p.log ++ events) (h : OnlyResponds events) :
    q.handledCommands = p.handledCommands := by
  have hnone : events.filterMap ProcessorEvent.handled? = [] :=
    List.filterMap_eq_nil_iff.mpr fun event hevent => (h event hevent).2
  rw [handledCommands, hlog, List.filterMap_append, hnone, List.append_nil]
  rfl

theorem rtakeWhile_append {P : α → Bool} {l m : List α} (h : ∀ a ∈ m, P a = true) :
    (l ++ m).rtakeWhile P = l.rtakeWhile P ++ m := by
  induction m using List.reverseRecOn with
  | nil => rw [List.append_nil, List.append_nil]
  | append_singleton m a ih =>
    rw [List.forall_mem_append, List.forall_mem_singleton] at h
    rw [← List.append_assoc, List.rtakeWhile_concat_pos _ _ _ h.2, ih h.1, List.append_assoc]

theorem sinceStart_append (hlog : q.log = p.log ++ events) (h : OnlyResponds events) :
    q.sinceStart = p.sinceStart ++ events := by
  rw [sinceStart, hlog]
  apply rtakeWhile_append
  intro event hevent
  rw [(h event hevent).1]
  rfl

theorem sinceStart_started (hlog : q.log = p.log ++ .started payload :: events)
    (h : ∀ event ∈ events, event.started? = none) : q.sinceStart = events := by
  have hsplit : q.log = (p.log ++ [.started payload]) ++ events := by
    rw [hlog, List.append_assoc, List.singleton_append]
  rw [sinceStart, hsplit, rtakeWhile_append, List.rtakeWhile_concat_neg, List.nil_append]
  · exact Bool.noConfusion
  · intro event hevent
    rw [h event hevent]
    rfl

theorem sinceFirstAttempt_append (hlog : q.log = p.log ++ events) (h : OnlyResponds events)
    (hpublished : p.sinceStart.any ProcessorEvent.isPublished = true) :
    q.sinceFirstAttempt = p.sinceFirstAttempt ++ events := by
  have hne : p.sinceStart.dropWhile (fun event => !event.isPublished) ≠ [] := by
    rw [Ne, List.dropWhile_eq_nil_iff]
    intro hall
    obtain ⟨event, hevent, hp⟩ := List.any_eq_true.mp hpublished
    have hnot := hall event hevent
    rw [hp] at hnot
    cases hnot
  rw [sinceFirstAttempt, sinceStart_append hlog h, sinceFirstAttempt, List.dropWhile_append,
    if_neg (by rw [List.isEmpty_iff]; exact hne), List.tail_append_of_ne_nil hne]

theorem getLast?_started (hlog : q.log = p.log ++ .started payload :: events)
    (h : ∀ event ∈ events, event.started? = none) :
    q.startedPayloads.getLast? = some payload := by
  have hnone : events.filterMap ProcessorEvent.started? = [] :=
    List.filterMap_eq_nil_iff.mpr h
  rw [startedPayloads, hlog, List.filterMap_append, List.filterMap_cons]
  dsimp only [ProcessorEvent.started?]
  rw [hnone]
  exact List.getLast?_concat

theorem getLast?_handled
    (hlog : q.log = p.log ++ .started payload :: .handled command responses :: events)
    (h : OnlyResponds events) : q.handledCommands.getLast? = some (command, responses) := by
  have hnone : events.filterMap ProcessorEvent.handled? = [] :=
    List.filterMap_eq_nil_iff.mpr fun event hevent => (h event hevent).2
  rw [handledCommands, hlog, List.filterMap_append, List.filterMap_cons, List.filterMap_cons]
  dsimp only [ProcessorEvent.handled?]
  rw [hnone]
  exact List.getLast?_concat

end Appended

section Steps

variable [ArduinoJson] {p q : RemoteCommandProcessor τ δ}

theorem TracksResult.append (h : p.TracksResult) (hkeeps : Keeps p q)
    (hlog : q.log = p.log ++ events) (hevents : OnlyResponds events)
    (htracks : ∀ hasAccepted rejected, Tracks hasAccepted p.kinds rejected p.lastResult →
      Tracks hasAccepted q.kinds (rejected || events.any (ProcessorEvent.rejects p.topics))
        q.lastResult) : q.TracksResult := by
  intro payload command hlast hparsed
  rw [startedPayloads_append hlog hevents] at hlast
  rw [hkeeps.deviceId] at hparsed
  obtain ⟨responses, hhandled, hpublished, htracked⟩ := h payload command hlast hparsed
  refine ⟨responses, ?_, ?_, ?_⟩
  · rw [handledCommands_append hlog hevents]
    exact hhandled
  · rw [sinceStart_append hlog hevents, List.any_append, hpublished, Bool.true_or]
  · rw [sinceFirstAttempt_append hlog hevents hpublished, hkeeps.topics, List.any_append]
    exact htracks _ _ htracked

omit [ArduinoJson] in
theorem report_not_rejects (p : RemoteCommandProcessor τ δ) (diagnostic : CommandDiagnostic)
    (topics : MqttTopics) :
    (p.report diagnostic).any (ProcessorEvent.rejects topics) = false := by
  rw [report]
  cases p.hasDiagnosticCallback <;> rfl

theorem TracksResult.arrived (h : p.TracksResult) (ha : Arrived p q events) :
    q.TracksResult := by
  apply h.append ha.keeps ha.log (.of_arrivals ha.arrivals)
  intro hasAccepted rejected htracks
  rw [kinds, ha.outbox, ha.lastResult]
  exact htracks.arrived _

theorem TracksResult.drained (h : p.TracksResult) (hkeeps : Keeps p q)
    (hwaiting : p.outbox = front :: rest) (harrivals : ∀ event ∈ events, event.IsArrival)
    (hlog : q.log = p.log ++
      (events ++ .published front.message ok :: p.report (front.drained ok)))
    (hout : q.outbox = if ok then rest else front :: rest)
    (hresult : q.lastResult =
      if ok then front.mark (p.resultAfter events) else p.resultAfter events) :
    q.TracksResult := by
  apply h.append hkeeps hlog ((OnlyResponds.of_arrivals harrivals).append
    (.published _ _ (.report p _)))
  intro hasAccepted rejected htracks
  have harrived := htracks.arrived (events.any (ProcessorEvent.rejects p.topics))
  have hrejected : (events ++ .published front.message ok :: p.report (front.drained ok)).any
      (ProcessorEvent.rejects p.topics) = events.any (ProcessorEvent.rejects p.topics) := by
    rw [List.any_append, List.any_cons, report_not_rejects]
    exact Bool.or_false _
  rw [hrejected, kinds, hout, hresult]
  rw [kinds, hwaiting] at harrived
  cases ok with
  | false => exact harrived
  | true => exact harrived.published

theorem TracksResult.answered {later : List ProcessorEvent} {responses : CommandResponses}
    (hkeeps : Keeps p q) (hparsed : (parseCommand payload p.deviceId).command = some command)
    (hlog : q.log = p.log ++ .started payload :: .handled command responses ::
      (earlier ++ .published message ok :: later))
    (hearlier : OnlyResponds earlier) (hlater : OnlyResponds later)
    (hquiet : ∀ event ∈ earlier, event.isPublished = false)
    (hnone : later.any (ProcessorEvent.rejects p.topics) = false)
    (htracks : Tracks responses.hasAccepted q.kinds false q.lastResult) : q.TracksResult := by
  have hevents := hearlier.append (.published message ok hlater)
  have hstarted : ∀ event ∈ ProcessorEvent.handled command responses ::
      (earlier ++ .published message ok :: later), event.started? = none :=
    List.forall_mem_cons.mpr ⟨rfl, fun event hevent => (hevents event hevent).1⟩
  intro payload' command' hlast hparsed'
  rw [getLast?_started hlog hstarted] at hlast
  cases hlast
  rw [hkeeps.deviceId, hparsed] at hparsed'
  cases hparsed'
  have hsince := sinceStart_started hlog hstarted
  have hattempt : q.sinceFirstAttempt = later := by
    rw [sinceFirstAttempt, hsince, List.dropWhile_cons_of_pos rfl, List.dropWhile_append_of_pos]
    · rfl
    · intro event hevent
      rw [hquiet event hevent]
      rfl
  refine ⟨responses, getLast?_handled hlog hevents, ?_, ?_⟩
  · rw [hsince, List.any_eq_true]
    exact ⟨.published message ok, List.mem_cons_of_mem _ (List.mem_append_right _
      List.mem_cons_self), rfl⟩
  · rw [hattempt, hkeeps.topics, hnone]
    exact htracks

omit [ArduinoJson] in
theorem decision_quiet (p : RemoteCommandProcessor τ δ) (responses : CommandResponses)
    (seq : UInt32) {events : List ProcessorEvent} (h : ∀ event ∈ events, event.IsArrival) :
    OnlyResponds (p.reportDecision responses seq ++ events) ∧
      ∀ event ∈ p.reportDecision responses seq ++ events, event.isPublished = false := by
  have hdecision : OnlyResponds (p.reportDecision responses seq) ∧
      ∀ event ∈ p.reportDecision responses seq, event.isPublished = false := by
    rw [reportDecision]
    cases decisionDiagnostic responses seq with
    | none => exact ⟨List.forall_mem_nil _, List.forall_mem_nil _⟩
    | some diagnostic =>
      rw [Option.toList_some, List.flatMap_singleton]
      refine ⟨.report p diagnostic, ?_⟩
      rw [report]
      cases p.hasDiagnosticCallback with
      | true => exact List.forall_mem_singleton.mpr rfl
      | false => exact List.forall_mem_nil _
  refine ⟨hdecision.1.append (.of_arrivals h), List.forall_mem_append.mpr ⟨hdecision.2, ?_⟩⟩
  intro event hevent
  cases event with
  | published message ok => exact (h _ hevent).elim
  | _ => rfl

theorem TracksResult.effect (h : p.TracksResult) (he : Effect p q) : q.TracksResult := by
  cases he with
  | arrived events ha => exact h.arrived ha
  | drained front rest events ok hkeeps hwaiting harrivals hlog hout _ hresult =>
    exact h.drained hkeeps hwaiting harrivals hlog hout hresult
  | invalid payload hparsed hstarted _ =>
    intro payload' command hlast hparsed'
    rw [getLast?_started hstarted.log fun event hevent =>
      ((OnlyResponds.report p _) event hevent).1] at hlast
    cases hlast
    rw [hstarted.keeps.deviceId, hparsed] at hparsed'
    cases hparsed'
  | accepted payload command responses response events ok hparsed howed harrivals hstarted hout
      hresult =>
    obtain ⟨hearlier, hquiet⟩ := decision_quiet p responses (p.commandSeq + 1) harrivals
    apply TracksResult.answered hstarted.keeps hparsed hstarted.log hearlier
      ((OnlyResponds.report p _).append (.report p _)) hquiet
    · rw [List.any_append, report_not_rejects, report_not_rejects, Bool.or_self]
    · rw [kinds, hout, hresult, CommandResponses.hasAccepted, howed]
      cases ok with
      | true => exact ⟨.inr (.inl rfl), Bool.noConfusion, fun _ => rfl⟩
      | false => exact ⟨.inr (.inr ⟨rfl, rfl⟩), Bool.noConfusion, fun _ => rfl⟩
  | terminal payload command responses events ok hparsed howed harrivals hstarted hout hresult =>
    obtain ⟨hearlier, hquiet⟩ := decision_quiet p responses (p.commandSeq + 1) harrivals
    apply TracksResult.answered hstarted.keeps hparsed hstarted.log hearlier (.report p _) hquiet
    · rw [report_not_rejects]
    · rw [kinds, hout, hresult, CommandResponses.hasAccepted, howed]
      cases ok with
      | true => exact ⟨.inl rfl, Bool.noConfusion, fun _ => rfl⟩
      | false => exact ⟨.inr (.inl rfl), Bool.noConfusion, fun _ => rfl⟩

theorem TracksResult.converged_iff (h : p.TracksResult) :
    p.ResultConverged ↔ p.NoneRejected := by
  constructor
  · intro hconverged command hsettled
    obtain ⟨payload, hlast, hparsed⟩ := hsettled.parsed
    obtain ⟨responses, _, _, htracks⟩ := h payload command hlast hparsed
    obtain ⟨_, _, hresult⟩ := hconverged command hsettled
    have hrejected : p.sinceFirstAttempt.any (ProcessorEvent.rejects p.topics) = false := by
      rw [← Bool.not_eq_true]
      intro hrejected
      have hwiped := htracks.wiped hrejected
      rw [hresult] at hwiped
      cases hwiped
    exact List.any_eq_false.mp hrejected
  · intro hnone command hsettled
    obtain ⟨payload, hlast, hparsed⟩ := hsettled.parsed
    obtain ⟨responses, hhandled, _, htracks⟩ := h payload command hlast hparsed
    have hkept := htracks.kept (List.any_eq_false.mpr (hnone command hsettled))
    rw [kinds, hsettled.drained] at hkept
    refine ⟨responses, hhandled, hkept.trans ?_⟩
    simp

end Steps

end RemoteCommandProcessor

open RemoteCommandProcessor

/-- In every run the last result converges exactly where no message is rejected before parsing
while the responses of the most recent payload are drained, or later. -/
theorem resultConverged_iff_noneRejected [ArduinoJson] [IDeviceTransport τ] [IDedupCache δ]
    (deviceId : Bytes) (transport : τ) (handler : CommandHandler δ) (topics : MqttTopics)
    (hasDiagnosticCallback : Bool) (inputs : List RemoteCommandProcessor.Input) :
    let p := inputs.foldl RemoteCommandProcessor.step
      { deviceId, transport, handler, topics, hasDiagnosticCallback }
    p.ResultConverged ↔ p.NoneRejected := by
  intro p
  have hstart : TracksResult (τ := τ) (δ := δ)
      { deviceId, transport, handler, topics, hasDiagnosticCallback } := by
    intro payload command hlast
    cases hlast
  have htracks : p.TracksResult :=
    List.foldlRecOn inputs _ hstart fun q h input _ => h.effect (step_effect q input)
  exact htracks.converged_iff

/-- A message on another topic arrives between the two responses to a command. -/
def interruptedInputs : List RemoteCommandProcessor.Input :=
  [.deliver ⟨startedProcessor.topics.commands, JsonText.print epochDocument⟩,
    .processPending trustedClock, .deliver ⟨ascii "elsewhere", []⟩, .processPending trustedClock]

theorem interrupted_notConverged :
    letI := compactJson
    let p := interruptedInputs.foldl RemoteCommandProcessor.step startedProcessor
    p.outbox = [] ∧ p.lastResult = { terminalPublished := true } ∧ ¬ p.ResultConverged := by
  let := compactJson
  have hout : (interruptedInputs.foldl RemoteCommandProcessor.step startedProcessor).outbox =
      [] := by decide +kernel
  have hresult : (interruptedInputs.foldl RemoteCommandProcessor.step
      startedProcessor).lastResult = { terminalPublished := true } := by decide +kernel
  refine ⟨hout, hresult, ?_⟩
  intro hconverged
  have hisSome : (parseCommand (JsonText.print epochDocument) (ascii "ib-1")).command.isSome := by
    decide +kernel
  obtain ⟨command, hparsed⟩ := Option.isSome_iff_exists.mp hisSome
  have hdeviceId : (interruptedInputs.foldl RemoteCommandProcessor.step
      startedProcessor).deviceId = ascii "ib-1" := by decide +kernel
  have hstarted : (interruptedInputs.foldl RemoteCommandProcessor.step
      startedProcessor).startedPayloads.getLast? = some (JsonText.print epochDocument) := by
    decide +kernel
  rw [← hdeviceId] at hparsed
  obtain ⟨_, _, hlast⟩ := hconverged command ⟨hout, _, hstarted, hparsed⟩
  rw [hresult] at hlast
  cases hlast

end InterBridge
