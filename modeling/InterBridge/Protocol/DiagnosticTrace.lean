import InterBridge.Protocol.LastResult
import InterBridge.Protocol.ResponseStages

namespace InterBridge
open Foundations
set_option autoImplicit true

/-- The event is about a command, not about a message that arrived. -/
def ProcessorEvent.traced : ProcessorEvent → Bool
  | .received _ _ => false
  | .diagnosed diagnostic => diagnostic.stage ≠ .received
  | _ => true

/-- The diagnostics with this sequence number. -/
def diagnosticsOf (seq : UInt32) (events : List ProcessorEvent) : List CommandDiagnostic :=
  (events.filterMap ProcessorEvent.diagnostic?).filter fun diagnostic => diagnostic.commandSeq = seq

/-- What happened about a payload since it was started. -/
structure TruthfulTrace [ArduinoJson] (deviceId : Bytes) (topics : MqttTopics) (seq : UInt32)
    (payload : Bytes) (events : List ProcessorEvent) : Prop where
  invalid : (parseCommand payload deviceId).command = none →
    events.filter ProcessorEvent.traced = [.diagnosed
      { stage := .rejected, safeCode := some (ascii "MESSAGE_INVALID"), commandSeq := seq }]
  parsed : ∀ command, (parseCommand payload deviceId).command = some command →
    ∃ responses trace, events.filter ProcessorEvent.traced = .handled command responses ::
      ((RemoteCommandProcessor.decisionDiagnostic responses seq).toList.map .diagnosed ++ trace) ∧
      TruthfulStages topics seq responses trace
  sameSeq : ∀ diagnostic, .diagnosed diagnostic ∈ events.filter ProcessorEvent.traced →
    diagnostic.commandSeq = seq

namespace RemoteCommandProcessor

/-- The stages that carry the sequence number of a started payload are those about it, and they
tell the truth. -/
def TruthfulLog [ArduinoJson] (p : RemoteCommandProcessor τ δ) : Prop :=
  ∀ earlier payload rest, p.log = earlier ++ .started payload :: rest →
    let seq := UInt32.ofNat ((earlier.filterMap ProcessorEvent.started?).length + 1)
    let events := rest.takeWhile fun event => event.started?.isNone
    TruthfulTrace p.deviceId p.topics seq payload events ∧
      diagnosticsOf seq p.log = diagnosticsOf seq events

end RemoteCommandProcessor

namespace RemoteCommandProcessor

/-- What was traced about a command since it was started, and which of its responses wait. -/
inductive CommandTrace [ArduinoJson] (deviceId : Bytes) (topics : MqttTopics) (seq : UInt32)
    (payload : Bytes) : List ProcessorEvent → List PendingResponse → Prop where
  | invalid (parsed : (parseCommand payload deviceId).command = none) :
      CommandTrace deviceId topics seq payload
        [.diagnosed
          { stage := .rejected, safeCode := some (ascii "MESSAGE_INVALID"), commandSeq := seq }] []
  | answered (command : DeviceCommand) (responses : CommandResponses)
      (parsed : (parseCommand payload deviceId).command = some command)
      (trace : List ProcessorEvent) (waiting : List PendingResponse)
      (responded : ResponseTrace topics seq responses trace waiting) :
      CommandTrace deviceId topics seq payload
        (.handled command responses ::
          ((decisionDiagnostic responses seq).toList.map .diagnosed ++ trace)) waiting

/-- The commands of a log, each answered before the next one is started. -/
inductive TracedLog [ArduinoJson] (deviceId : Bytes) (topics : MqttTopics) :
    List ProcessorEvent → Nat → List PendingResponse → Prop where
  | start (events : List ProcessorEvent) (arrivals : ∀ event ∈ events, event.IsArrival) :
      TracedLog deviceId topics events 0 []
  | command (log : List ProcessorEvent) (count : Nat)
      (before : TracedLog deviceId topics log count [])
      (payload : Bytes) (events : List ProcessorEvent) (waiting : List PendingResponse)
      (unstarted : ∀ event ∈ events, event.started? = none)
      (untraced : ∀ event ∈ events, event.traced = false → event.IsArrival)
      (trace : CommandTrace deviceId topics (.ofNat (count + 1)) payload
        (events.filter ProcessorEvent.traced) waiting) :
      TracedLog deviceId topics (log ++ .started payload :: events) (count + 1) waiting

/-- The invariant of a processor that reports diagnostics. -/
structure Traced [ArduinoJson] (p : RemoteCommandProcessor τ δ) : Prop where
  callback : p.hasDiagnosticCallback = true
  log : ∃ count, p.commandSeq = .ofNat count ∧
    TracedLog p.deviceId p.topics p.log count p.outbox

theorem filter_arrivals {events : List ProcessorEvent} (h : ∀ event ∈ events, event.IsArrival) :
    events.filter ProcessorEvent.traced = [] := by
  rw [List.filter_eq_nil_iff]
  intro event hevent
  cases event with
  | received message waiting => exact Bool.noConfusion
  | diagnosed diagnostic =>
    have hdiagnostic : diagnostic = { stage := .received } := h _ hevent
    rw [hdiagnostic]
    decide
  | started payload => exact (h _ hevent).elim
  | handled command responses => exact (h _ hevent).elim
  | published message ok => exact (h _ hevent).elim

theorem filter_traced {events : List ProcessorEvent} (h : ∀ event ∈ events, event.traced = true) :
    events.filter ProcessorEvent.traced = events := List.filter_eq_self.mpr h

theorem drained_traced (entry : PendingResponse) (ok : Bool) :
    (ProcessorEvent.diagnosed (entry.drained ok)).traced = true := by
  rcases entry with ⟨_, _, isTerminal, _, _⟩
  cases ok <;> cases isTerminal <;> rfl

theorem decision_traced (responses : CommandResponses) (seq : UInt32) :
    ∀ event ∈ (decisionDiagnostic responses seq).toList.map ProcessorEvent.diagnosed,
      event.traced = true := by
  rw [decisionDiagnostic]
  cases responses.timeValidationPassed with
  | true => exact List.forall_mem_singleton.mpr rfl
  | false =>
    cases responses.terminal.error with
    | none => exact List.forall_mem_nil _
    | some error => exact List.forall_mem_singleton.mpr rfl

theorem report_of_callback {p : RemoteCommandProcessor τ δ}
    (h : p.hasDiagnosticCallback = true) (diagnostic : CommandDiagnostic) :
    p.report diagnostic = [.diagnosed diagnostic] := if_pos h

theorem reportDecision_of_callback {p : RemoteCommandProcessor τ δ}
    (h : p.hasDiagnosticCallback = true) (responses : CommandResponses) (seq : UInt32) :
    p.reportDecision responses seq =
      (decisionDiagnostic responses seq).toList.map .diagnosed := by
  rw [reportDecision]
  cases decisionDiagnostic responses seq with
  | none => rfl
  | some diagnostic =>
    rw [Option.toList_some, List.flatMap_singleton, report_of_callback h]
    rfl

section Steps

variable [ArduinoJson]

theorem TracedLog.arrived {deviceId : Bytes} {topics : MqttTopics} {log : List ProcessorEvent}
    (h : TracedLog deviceId topics log count waiting) {events : List ProcessorEvent}
    (harrivals : ∀ event ∈ events, event.IsArrival) :
    TracedLog deviceId topics (log ++ events) count waiting := by
  cases h with
  | start before hbefore =>
    exact .start _ (List.forall_mem_append.mpr ⟨hbefore, harrivals⟩)
  | command log count hbefore payload earlier waiting hunstarted huntraced htrace =>
    rw [List.append_assoc, List.cons_append]
    refine .command log count hbefore payload _ waiting ?_ ?_ ?_
    · rw [List.forall_mem_append]
      exact ⟨hunstarted, fun event hevent =>
        (OnlyResponds.of_arrivals harrivals event hevent).1⟩
    · rw [List.forall_mem_append]
      exact ⟨huntraced, fun event hevent _ => harrivals event hevent⟩
    · rw [List.filter_append, filter_arrivals harrivals, List.append_nil]
      exact htrace

theorem TracedLog.drained {deviceId : Bytes} {topics : MqttTopics} {log : List ProcessorEvent}
    (h : TracedLog deviceId topics log count (front :: rest)) (ok : Bool) :
    TracedLog deviceId topics
      (log ++ [.published front.message ok, .diagnosed (front.drained ok)]) count
      (if ok then rest else front :: rest) := by
  have hattempt : ∀ event ∈
      ([.published front.message ok, .diagnosed (front.drained ok)] : List ProcessorEvent),
      event.started? = none ∧ event.traced = true := by
    rw [List.forall_mem_cons, List.forall_mem_singleton]
    exact ⟨⟨rfl, rfl⟩, rfl, drained_traced front ok⟩
  generalize hwaiting : front :: rest = waiting at h
  cases h with
  | start before hbefore => cases hwaiting
  | command log count hbefore payload earlier waiting hunstarted huntraced htrace =>
    rw [List.append_assoc, List.cons_append]
    refine .command log count hbefore payload _ _ ?_ ?_ ?_
    · rw [List.forall_mem_append]
      exact ⟨hunstarted, fun event hevent => (hattempt event hevent).1⟩
    · rw [List.forall_mem_append]
      refine ⟨huntraced, fun event hevent huntraced => ?_⟩
      rw [(hattempt event hevent).2] at huntraced
      cases huntraced
    · rw [List.filter_append, filter_traced fun event hevent => (hattempt event hevent).2]
      generalize earlier.filter ProcessorEvent.traced = trace at htrace
      subst hwaiting
      cases htrace with
      | answered command responses hparsed trace waiting hresponded =>
        rw [List.cons_append, List.append_assoc]
        exact .answered command responses hparsed _ _ (hresponded.drained ok)

theorem TracedLog.answered {deviceId : Bytes} {topics : MqttTopics} {log : List ProcessorEvent}
    (h : TracedLog deviceId topics log count []) {command : DeviceCommand}
    (hparsed : (parseCommand payload deviceId).command = some command)
    {events trace : List ProcessorEvent} (harrivals : ∀ event ∈ events, event.IsArrival)
    (htraced : ∀ event ∈ trace, event.started? = none ∧ event.traced = true)
    (hresponded : ResponseTrace topics (.ofNat (count + 1)) responses trace waiting) :
    TracedLog deviceId topics (log ++ .started payload :: .handled command responses ::
      ((decisionDiagnostic responses (.ofNat (count + 1))).toList.map .diagnosed ++ events ++
        trace)) (count + 1) waiting := by
  have hdecision := decision_traced responses (.ofNat (count + 1))
  refine .command log count h payload _ waiting ?_ ?_ ?_
  · rw [List.forall_mem_cons, List.forall_mem_append, List.forall_mem_append]
    refine ⟨rfl, ⟨?_, fun event hevent => (OnlyResponds.of_arrivals harrivals event hevent).1⟩,
      fun event hevent => (htraced event hevent).1⟩
    intro event hevent
    obtain ⟨diagnostic, _, rfl⟩ := List.mem_map.mp hevent
    rfl
  · rw [List.forall_mem_cons, List.forall_mem_append, List.forall_mem_append]
    refine ⟨Bool.noConfusion, ⟨?_, fun event hevent _ => harrivals event hevent⟩, ?_⟩
    · intro event hevent huntraced
      rw [hdecision event hevent] at huntraced
      cases huntraced
    · intro event hevent huntraced
      rw [(htraced event hevent).2] at huntraced
      cases huntraced
  · rw [List.filter_cons_of_pos rfl, List.filter_append, List.filter_append,
      filter_traced hdecision, filter_arrivals harrivals, List.append_nil,
      filter_traced fun event hevent => (htraced event hevent).2]
    exact .answered command responses hparsed trace waiting hresponded

theorem Started.traced {p q : RemoteCommandProcessor τ δ} (h : Started p q payload events)
    (hcallback : p.hasDiagnosticCallback = true) (hcount : p.commandSeq = .ofNat count)
    (hlog : TracedLog p.deviceId p.topics (p.log ++ .started payload :: events) (count + 1)
      q.outbox) : q.Traced := by
  refine ⟨h.keeps.callback.trans hcallback, count + 1, ?_, ?_⟩
  · rw [h.commandSeq, hcount, UInt32.ofNat_add]
    rfl
  · rw [h.keeps.deviceId, h.keeps.topics, h.log]
    exact hlog

theorem Traced.effect {p q : RemoteCommandProcessor τ δ} (h : p.Traced) (he : Effect p q) :
    q.Traced := by
  obtain ⟨hcallback, count, hcount, hlog⟩ := h
  have hnext : p.commandSeq + 1 = .ofNat (count + 1) := by
    rw [hcount, UInt32.ofNat_add]
    rfl
  cases he with
  | arrived events ha =>
    refine ⟨ha.keeps.callback.trans hcallback, count, ha.commandSeq.trans hcount, ?_⟩
    rw [ha.keeps.deviceId, ha.keeps.topics, ha.log, ha.outbox]
    exact hlog.arrived ha.arrivals
  | drained front rest events ok hkeeps hwaiting harrivals hqlog hout hseq _ =>
    refine ⟨hkeeps.callback.trans hcallback, count, hseq.trans hcount, ?_⟩
    rw [hwaiting] at hlog
    rw [hkeeps.deviceId, hkeeps.topics, hqlog, hout, report_of_callback hcallback,
      ← List.append_assoc]
    exact (hlog.arrived harrivals).drained ok
  | invalid payload hparsed hstarted hout =>
    rw [hstarted.idle] at hlog
    apply hstarted.traced hcallback hcount
    rw [hout, report_of_callback hcallback, hnext]
    exact .command p.log count hlog payload _ [] (List.forall_mem_singleton.mpr rfl)
      (List.forall_mem_singleton.mpr Bool.noConfusion) (.invalid hparsed)
  | accepted payload command responses response events ok hparsed howed harrivals hstarted hout _ =>
    rw [hstarted.idle] at hlog
    apply hstarted.traced hcallback hcount
    rw [hout, report_of_callback hcallback, report_of_callback hcallback,
      reportDecision_of_callback hcallback, hnext]
    refine hlog.answered hparsed harrivals ?_ (.accepted howed _ ok)
    simp only [List.forall_mem_cons, List.forall_mem_append]
    cases ok with
    | false =>
      exact ⟨⟨rfl, rfl⟩, ⟨⟨rfl, rfl⟩, List.forall_mem_nil _⟩, ⟨rfl, rfl⟩, List.forall_mem_nil _⟩
    | true =>
      exact ⟨⟨rfl, rfl⟩, ⟨⟨rfl, rfl⟩, List.forall_mem_nil _⟩, ⟨rfl, rfl⟩, List.forall_mem_nil _⟩
  | terminal payload command responses events ok hparsed howed harrivals hstarted hout _ =>
    rw [hstarted.idle] at hlog
    apply hstarted.traced hcallback hcount
    rw [hout, report_of_callback hcallback, reportDecision_of_callback hcallback, hnext]
    refine hlog.answered hparsed harrivals ?_ (.terminal howed _ ok)
    simp only [List.forall_mem_cons]
    exact ⟨⟨rfl, rfl⟩, ⟨rfl, drained_traced _ ok⟩, List.forall_mem_nil _⟩

end Steps

theorem decision_commandSeq (responses : CommandResponses) (seq : UInt32) :
    ∀ diagnostic ∈ decisionDiagnostic responses seq, diagnostic.commandSeq = seq := by
  rw [decisionDiagnostic]
  intro diagnostic hmem
  cases hvalidated : responses.timeValidationPassed with
  | true =>
    rw [hvalidated, if_pos rfl] at hmem
    cases hmem
    rfl
  | false =>
    rw [hvalidated, if_neg Bool.noConfusion] at hmem
    obtain ⟨error, _, rfl⟩ := Option.map_eq_some_iff.mp hmem
    rfl

theorem diagnosticsOf_append (seq : UInt32) (xs ys : List ProcessorEvent) :
    diagnosticsOf seq (xs ++ ys) = diagnosticsOf seq xs ++ diagnosticsOf seq ys := by
  rw [diagnosticsOf, List.filterMap_append, List.filter_append]
  rfl

theorem diagnosticsOf_eq_nil {seq : UInt32} {events : List ProcessorEvent}
    (h : ∀ diagnostic, .diagnosed diagnostic ∈ events → diagnostic.commandSeq ≠ seq) :
    diagnosticsOf seq events = [] := by
  rw [diagnosticsOf, List.filter_eq_nil_iff]
  intro diagnostic hmem
  obtain ⟨event, hevent, hdiagnostic⟩ := List.mem_filterMap.mp hmem
  cases event with
  | diagnosed other =>
    cases hdiagnostic
    exact mt of_decide_eq_true (h diagnostic hevent)
  | received message waiting => cases hdiagnostic
  | started payload => cases hdiagnostic
  | handled command responses => cases hdiagnostic
  | published message ok => cases hdiagnostic

theorem ofNat_ne {number other : Nat} (hlt : number < other) (hother : other < 2 ^ 32) :
    UInt32.ofNat number ≠ UInt32.ofNat other := by
  intro heq
  have hnat := congrArg UInt32.toNat heq
  rw [UInt32.toNat_ofNat_of_lt' (hlt.trans hother), UInt32.toNat_ofNat_of_lt' hother] at hnat
  exact Nat.ne_of_lt hlt hnat

theorem takeWhile_unstarted {events : List ProcessorEvent}
    (h : ∀ event ∈ events, event.started? = none) :
    events.takeWhile (fun event => event.started?.isNone) = events :=
  List.takeWhile_eq_self_iff.mpr fun event hevent => Option.isNone_iff_eq_none.mpr (h event hevent)

theorem takeWhile_started (between : List ProcessorEvent) (payload : Bytes)
    (events : List ProcessorEvent) :
    (between ++ .started payload :: events).takeWhile (fun event => event.started?.isNone) =
      between.takeWhile fun event => event.started?.isNone := by
  induction between with
  | nil => rfl
  | cons event between ih =>
    rw [List.cons_append, List.takeWhile_cons, List.takeWhile_cons, ih]

section Logs

variable [ArduinoJson] {deviceId : Bytes} {topics : MqttTopics} {log events : List ProcessorEvent}

theorem TracedLog.started_length (h : TracedLog deviceId topics log count waiting) :
    (log.filterMap ProcessorEvent.started?).length = count := by
  induction h with
  | start events harrivals =>
    have hnone : events.filterMap ProcessorEvent.started? = [] :=
      List.filterMap_eq_nil_iff.mpr fun event hevent =>
        (OnlyResponds.of_arrivals harrivals event hevent).1
    rw [hnone]
    rfl
  | command log count _ payload events waiting hunstarted _ _ ih =>
    rw [List.filterMap_append, List.length_append, ih,
      List.filterMap_cons_some (rfl : ProcessorEvent.started? (.started payload) = some payload),
      List.filterMap_eq_nil_iff.mpr hunstarted]
    rfl

theorem CommandTrace.truthful {seq : UInt32}
    (h : CommandTrace deviceId topics seq payload (events.filter ProcessorEvent.traced) waiting) :
    TruthfulTrace deviceId topics seq payload events := by
  generalize htraced : events.filter ProcessorEvent.traced = traced at h
  cases h with
  | invalid hinvalid =>
    refine ⟨fun _ => htraced, ?_, ?_⟩
    · intro command hparsed
      rw [hinvalid] at hparsed
      cases hparsed
    · rw [htraced]
      intro diagnostic hmem
      cases List.mem_singleton.mp hmem
      rfl
  | answered command responses hparsed trace waiting hresponded =>
    refine ⟨?_, ?_, ?_⟩
    · intro hinvalid
      rw [hinvalid] at hparsed
      cases hparsed
    · intro other hother
      cases hparsed.symm.trans hother
      exact ⟨responses, trace, htraced, hresponded.truthful.1⟩
    · rw [htraced]
      intro diagnostic hmem
      rw [List.mem_cons, List.mem_append] at hmem
      rcases hmem with hhandled | hdecision | htrace
      · cases hhandled
      · obtain ⟨decided, hdecided, heq⟩ := List.mem_map.mp hdecision
        cases heq
        exact decision_commandSeq responses seq _ (Option.mem_toList.mp hdecided)
      · exact hresponded.truthful.2 diagnostic htrace

/-- A diagnostic reported since a command was started is about it, or about an arrival. -/
theorem CommandTrace.commandSeq {seq : UInt32}
    (h : CommandTrace deviceId topics seq payload (events.filter ProcessorEvent.traced) waiting)
    (huntraced : ∀ event ∈ events, event.traced = false → event.IsArrival)
    (hmem : .diagnosed diagnostic ∈ events) :
    diagnostic.commandSeq = seq ∨ diagnostic.commandSeq = 0 := by
  cases htraced : ProcessorEvent.traced (.diagnosed diagnostic) with
  | true => exact .inl (h.truthful.sameSeq diagnostic (List.mem_filter.mpr ⟨hmem, htraced⟩))
  | false =>
    have hdiagnostic : diagnostic = { stage := .received } := huntraced _ hmem htraced
    exact .inr (congrArg CommandDiagnostic.commandSeq hdiagnostic)

theorem TracedLog.commandSeq (h : TracedLog deviceId topics log count waiting)
    (hmem : .diagnosed diagnostic ∈ log) :
    ∃ number ≤ count, diagnostic.commandSeq = .ofNat number := by
  induction h with
  | start events harrivals =>
    have hdiagnostic : diagnostic = { stage := .received } := harrivals _ hmem
    exact ⟨0, Nat.le_refl 0, congrArg CommandDiagnostic.commandSeq hdiagnostic⟩
  | command log count _ payload events waiting _ huntraced htrace ih =>
    rw [List.mem_append, List.mem_cons] at hmem
    rcases hmem with hbefore | hstarted | hevents
    · obtain ⟨number, hle, hnumber⟩ := ih hbefore
      exact ⟨number, Nat.le_succ_of_le hle, hnumber⟩
    · cases hstarted
    · rcases htrace.commandSeq huntraced hevents with hseq | hzero
      · exact ⟨count + 1, Nat.le_refl _, hseq⟩
      · exact ⟨0, Nat.zero_le _, hzero⟩

theorem TracedLog.truthful (h : TracedLog deviceId topics log count waiting)
    (hcount : count < 2 ^ 32) (earlier : List ProcessorEvent) (payload : Bytes)
    (rest : List ProcessorEvent) (hlog : log = earlier ++ .started payload :: rest) :
    let seq := UInt32.ofNat ((earlier.filterMap ProcessorEvent.started?).length + 1)
    let since := rest.takeWhile fun event => event.started?.isNone
    TruthfulTrace deviceId topics seq payload since ∧
      diagnosticsOf seq log = diagnosticsOf seq since := by
  induction h generalizing rest with
  | start events harrivals =>
    have hmem : .started payload ∈ events :=
      hlog ▸ List.mem_append_right _ List.mem_cons_self
    exact (harrivals _ hmem).elim
  | command log count hbefore latest events waiting hunstarted huntraced htrace ih =>
    rcases append_eq_append_cons hlog with ⟨between, hlog, hrest⟩ | ⟨between, hearlier, hlater⟩
    · have hnumber : (earlier.filterMap ProcessorEvent.started?).length + 1 ≤ count := by
        rw [← hbefore.started_length, hlog, List.filterMap_append, List.length_append,
          List.filterMap_cons_some
            (rfl : ProcessorEvent.started? (.started payload) = some payload), List.length_cons]
        omega
      have hother : diagnosticsOf
          (.ofNat ((earlier.filterMap ProcessorEvent.started?).length + 1))
          (.started latest :: events) = [] := by
        refine diagnosticsOf_eq_nil fun diagnostic hmem => ?_
        rcases htrace.commandSeq huntraced (List.mem_of_ne_of_mem ProcessorEvent.noConfusion hmem)
          with hseq | hzero
        · rw [hseq]
          exact (ofNat_ne (Nat.lt_succ_of_le hnumber) hcount).symm
        · rw [hzero]
          exact ofNat_ne (Nat.succ_pos _) ((Nat.lt_succ_of_le hnumber).trans hcount)
      intro seq since
      have hsince : since = between.takeWhile fun event => event.started?.isNone := by
        rw [← takeWhile_started between latest events, ← hrest]
      rw [diagnosticsOf_append, hother, List.append_nil, hsince]
      exact ih (Nat.lt_of_succ_lt hcount) between hlog
    · cases between with
      | nil =>
        rw [List.append_nil] at hearlier
        rw [List.nil_append, List.cons.injEq, ProcessorEvent.started.injEq] at hlater
        obtain ⟨rfl, rfl⟩ := hlater
        subst hearlier
        rw [hbefore.started_length, takeWhile_unstarted hunstarted]
        refine ⟨htrace.truthful, ?_⟩
        have hother : diagnosticsOf (.ofNat (count + 1)) earlier = [] := by
          refine diagnosticsOf_eq_nil fun diagnostic hmem => ?_
          obtain ⟨number, hle, hseq⟩ := hbefore.commandSeq hmem
          rw [hseq]
          exact ofNat_ne (Nat.lt_succ_of_le hle) hcount
        rw [diagnosticsOf_append, hother]
        rfl
      | cons event between =>
        rw [List.cons_append, List.cons.injEq] at hlater
        have hmem : .started payload ∈ events :=
          hlater.2 ▸ List.mem_append_right _ List.mem_cons_self
        cases hunstarted _ hmem

end Logs

end RemoteCommandProcessor

open RemoteCommandProcessor

/-- In every run that starts fewer than 2^32 payloads, the diagnostics tell the truth. -/
theorem diagnostics_truthful [ArduinoJson] [IDeviceTransport τ] [IDedupCache δ]
    (deviceId : Bytes) (transport : τ) (handler : CommandHandler δ) (topics : MqttTopics)
    (inputs : List RemoteCommandProcessor.Input)
    (hstarted : (inputs.foldl RemoteCommandProcessor.step
      { deviceId, transport, handler, topics,
        hasDiagnosticCallback := true }).startedPayloads.length < 2 ^ 32) :
    (inputs.foldl RemoteCommandProcessor.step
      { deviceId, transport, handler, topics, hasDiagnosticCallback := true }).TruthfulLog := by
  have hstart : Traced (τ := τ) (δ := δ)
      { deviceId, transport, handler, topics, hasDiagnosticCallback := true } :=
    ⟨rfl, 0, rfl, .start [] (List.forall_mem_nil _)⟩
  obtain ⟨_, count, _, hlog⟩ : Traced _ :=
    List.foldlRecOn inputs _ hstart fun q h input _ => h.effect (step_effect q input)
  have hcount : count < 2 ^ 32 := by
    rw [← hlog.started_length]
    exact hstarted
  intro earlier payload rest hsplit
  exact hlog.truthful hcount earlier payload rest hsplit

/-- A message on another topic arrives between the two responses. -/
theorem diagnostics_truthful_interrupted :
    letI := compactJson
    (interruptedInputs.foldl RemoteCommandProcessor.step
      { startedProcessor with hasDiagnosticCallback := true }).TruthfulLog := by
  let := compactJson
  exact diagnostics_truthful _ _ _ _ interruptedInputs (by decide +kernel)

end InterBridge
