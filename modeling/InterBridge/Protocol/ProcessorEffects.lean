import InterBridge.Protocol.ResponseDelivery

namespace InterBridge
open Foundations
set_option autoImplicit true

namespace ProcessorEvent

/-- A message that was delivered, or the diagnostic about one. -/
def IsArrival : ProcessorEvent → Prop
  | .received _ _ => True
  | .diagnosed diagnostic => diagnostic = { stage := .received }
  | _ => False

/-- The message is rejected before it is parsed. -/
def rejects (topics : MqttTopics) : ProcessorEvent → Bool
  | .received message _ =>
    message.topic ≠ topics.commands || kMaxJsonPayloadBytes < message.payload.length
  | _ => false

end ProcessorEvent

namespace PendingResponse

/-- The entry for an `ACCEPTED` response. -/
def accepted [ArduinoJson] (topics : MqttTopics) (response : CommandResponse) (seq : UInt32) :
    PendingResponse where
  message := ⟨topics.responsesIngest, response.toJson⟩
  qos := .atLeastOnce
  isTerminal := false
  commandSeq := seq
  safeCode := none

/-- The entry for a terminal response. -/
def terminal [ArduinoJson] (topics : MqttTopics) (response : CommandResponse) (seq : UInt32) :
    PendingResponse where
  message := ⟨topics.responsesIngest, response.toJson⟩
  qos := .atLeastOnce
  isTerminal := true
  commandSeq := seq
  safeCode := some (RemoteCommandProcessor.terminalCode response)

/-- What is reported when the entry is attempted from the outbox. -/
def drained (entry : PendingResponse) (ok : Bool) : CommandDiagnostic where
  stage :=
    if ok then if entry.isTerminal then .terminalPublished else .acceptedPublished
    else if entry.isTerminal then .terminalPublishFailed else .acceptedPublishFailed
  safeCode := entry.safeCode
  commandSeq := entry.commandSeq

/-- What is recorded when the entry leaves the outbox. -/
def mark (entry : PendingResponse) (result : CommandPublishResult) : CommandPublishResult :=
  if entry.isTerminal then { result with terminalPublished := true }
  else { result with acceptedPublished := true }

end PendingResponse

namespace RemoteCommandProcessor

/-- What reporting the diagnostic leaves in the log. -/
def report (p : RemoteCommandProcessor τ δ) (diagnostic : CommandDiagnostic) :
    List ProcessorEvent :=
  if p.hasDiagnosticCallback then [.diagnosed diagnostic] else []

def reportDecision (p : RemoteCommandProcessor τ δ) (responses : CommandResponses)
    (seq : UInt32) : List ProcessorEvent :=
  (decisionDiagnostic responses seq).toList.flatMap p.report

theorem diagnose_eq (p : RemoteCommandProcessor τ δ) (diagnostic : CommandDiagnostic) :
    p.diagnose diagnostic = { p with log := p.log ++ p.report diagnostic } := by
  rw [diagnose, report]
  by_cases hcallback : p.hasDiagnosticCallback = true
  · rw [if_pos hcallback, if_pos hcallback]
    rfl
  · rw [if_neg hcallback, if_neg hcallback, List.append_nil]

theorem diagnoseDecision_eq (p : RemoteCommandProcessor τ δ) (responses : CommandResponses)
    (seq : UInt32) : p.diagnoseDecision responses seq =
      { p with log := p.log ++ p.reportDecision responses seq } := by
  rw [diagnoseDecision, reportDecision]
  cases decisionDiagnostic responses seq with
  | none =>
    rw [Option.toList_none, List.flatMap_nil, List.append_nil]
  | some diagnostic =>
    rw [Option.toList_some, List.flatMap_singleton]
    exact p.diagnose_eq diagnostic

/-- What is never changed by a call. -/
structure Keeps (p q : RemoteCommandProcessor τ δ) : Prop where
  deviceId : q.deviceId = p.deviceId
  topics : q.topics = p.topics
  callback : q.hasDiagnosticCallback = p.hasDiagnosticCallback

theorem Keeps.report {p q : RemoteCommandProcessor τ δ} (h : Keeps p q) : q.report = p.report := by
  funext diagnostic
  rw [RemoteCommandProcessor.report, RemoteCommandProcessor.report, h.callback]

/-- The result after these messages arrived. -/
def resultAfter (p : RemoteCommandProcessor τ δ) (events : List ProcessorEvent) :
    CommandPublishResult :=
  if events.any (ProcessorEvent.rejects p.topics) then {} else p.lastResult

/-- From `p` to `q` messages arrived, and nothing else happened. -/
structure Arrived (p q : RemoteCommandProcessor τ δ) (events : List ProcessorEvent) : Prop where
  keeps : Keeps p q
  arrivals : ∀ event ∈ events, event.IsArrival
  log : q.log = p.log ++ events
  outbox : q.outbox = p.outbox
  commandSeq : q.commandSeq = p.commandSeq
  lastResult : q.lastResult = p.resultAfter events

namespace Arrived

variable {p q r : RemoteCommandProcessor τ δ} {events later : List ProcessorEvent}

theorem refl (p : RemoteCommandProcessor τ δ) : Arrived p p [] :=
  ⟨⟨rfl, rfl, rfl⟩, List.forall_mem_nil _, (List.append_nil _).symm, rfl, rfl, rfl⟩

theorem trans (h : Arrived p q events) (h' : Arrived q r later) :
    Arrived p r (events ++ later) := by
  refine ⟨⟨?_, ?_, ?_⟩, ?_, ?_, ?_, ?_, ?_⟩
  · rw [h'.keeps.deviceId, h.keeps.deviceId]
  · rw [h'.keeps.topics, h.keeps.topics]
  · rw [h'.keeps.callback, h.keeps.callback]
  · rw [List.forall_mem_append]
    exact ⟨h.arrivals, h'.arrivals⟩
  · rw [h'.log, h.log, List.append_assoc]
  · rw [h'.outbox, h.outbox]
  · rw [h'.commandSeq, h.commandSeq]
  · rw [h'.lastResult, resultAfter, resultAfter, h.lastResult, h.keeps.topics, resultAfter,
      List.any_append]
    cases events.any (ProcessorEvent.rejects p.topics) with
    | true => simp only [if_true, ite_self, Bool.true_or]
    | false => simp only [Bool.false_eq_true, if_false, Bool.false_or]

theorem report_received (p : RemoteCommandProcessor τ δ) :
    ∀ event ∈ p.report { stage := .received }, event.IsArrival := by
  rw [report]
  cases p.hasDiagnosticCallback with
  | true =>
    rw [if_pos rfl, List.forall_mem_singleton]
    rfl
  | false =>
    rw [if_neg Bool.noConfusion]
    exact List.forall_mem_nil _

theorem onMessage (p : RemoteCommandProcessor τ δ) (message : MqttMessage) :
    Arrived p (p.onMessage message)
      (.received message p.pendingPayloads.length :: p.report { stage := .received }) := by
  have harrivals : ∀ event ∈ ProcessorEvent.received message p.pendingPayloads.length ::
      p.report { stage := .received }, event.IsArrival :=
    List.forall_mem_cons.mpr ⟨trivial, report_received p⟩
  have hquiet : (p.report { stage := .received }).any (ProcessorEvent.rejects p.topics) =
      false := by
    rw [report]
    cases p.hasDiagnosticCallback <;> rfl
  have hrejects : ProcessorEvent.rejects p.topics (.received message p.pendingPayloads.length) =
      true ↔ message.topic ≠ p.topics.commands ∨ kMaxJsonPayloadBytes < message.payload.length := by
    rw [ProcessorEvent.rejects, Bool.or_eq_true, decide_eq_true_iff, decide_eq_true_iff]
  rw [RemoteCommandProcessor.onMessage, diagnose_eq]
  split
  · next hbad =>
    refine ⟨⟨rfl, rfl, rfl⟩, harrivals, List.append_assoc _ _ _, rfl, rfl, ?_⟩
    rw [resultAfter, List.any_cons, hrejects.mpr hbad, Bool.true_or, if_pos rfl]
  · next hgood =>
    have hresult : p.lastResult = p.resultAfter
        (.received message p.pendingPayloads.length :: p.report { stage := .received }) := by
      rw [resultAfter, List.any_cons, hquiet, Bool.or_false, if_neg (mt hrejects.mp hgood)]
    split
    · exact ⟨⟨rfl, rfl, rfl⟩, harrivals, List.append_assoc _ _ _, rfl, rfl, hresult⟩
    · exact ⟨⟨rfl, rfl, rfl⟩, harrivals, List.append_assoc _ _ _, rfl, rfl, hresult⟩

theorem returned (p : RemoteCommandProcessor τ δ) (reply : TransportReply τ) :
    ∃ events, Arrived p (p.returned reply) events := by
  apply List.foldlRecOn (motive := fun q => ∃ events, Arrived p q events) reply.inbound
    RemoteCommandProcessor.onMessage
  · exact ⟨[], ⟨rfl, rfl, rfl⟩, List.forall_mem_nil _, (List.append_nil _).symm, rfl, rfl, rfl⟩
  · intro q h message _
    obtain ⟨events, h⟩ := h
    exact ⟨_, h.trans (onMessage q message)⟩

end Arrived

/-- The first diagnostic about an `ACCEPTED` response that was attempted at once. -/
def firstAttempt (seq : UInt32) (ok : Bool) : CommandDiagnostic where
  stage := if ok then .acceptedPublished else .acceptedPending
  commandSeq := seq

/-- The diagnostic about a terminal response left for later, with how the attempt before went. -/
def setAside (terminal : PendingResponse) (ok : Bool) : CommandDiagnostic where
  stage := if ok then .terminalDeferred else .terminalQueuedBehindAccepted
  safeCode := terminal.safeCode
  commandSeq := terminal.commandSeq

/-- From `p` to `q` the payload was started, which needs an empty outbox. -/
structure Started (p q : RemoteCommandProcessor τ δ) (payload : Bytes)
    (events : List ProcessorEvent) : Prop where
  keeps : Keeps p q
  idle : p.outbox = []
  log : q.log = p.log ++ .started payload :: events
  commandSeq : q.commandSeq = p.commandSeq + 1

variable [ArduinoJson]

/-- What a call can do. -/
inductive Effect (p q : RemoteCommandProcessor τ δ) : Prop where
  | arrived (events : List ProcessorEvent) (arrived : Arrived p q events)
  | drained (front : PendingResponse) (rest : List PendingResponse)
      (events : List ProcessorEvent) (ok : Bool) (keeps : Keeps p q)
      (waiting : p.outbox = front :: rest) (arrivals : ∀ event ∈ events, event.IsArrival)
      (log : q.log = p.log ++
        (events ++ .published front.message ok :: p.report (front.drained ok)))
      (outbox : q.outbox = if ok then rest else front :: rest)
      (commandSeq : q.commandSeq = p.commandSeq)
      (lastResult : q.lastResult =
        if ok then front.mark (p.resultAfter events) else p.resultAfter events)
  | invalid (payload : Bytes) (parsed : (parseCommand payload p.deviceId).command = none)
      (started : Started p q payload (p.report
        { stage := .rejected
          safeCode := some (ascii "MESSAGE_INVALID")
          commandSeq := p.commandSeq + 1 }))
      (outbox : q.outbox = [])
  | accepted (payload : Bytes) (command : DeviceCommand) (responses : CommandResponses)
      (response : CommandResponse) (events : List ProcessorEvent) (ok : Bool)
      (parsed : (parseCommand payload p.deviceId).command = some command)
      (owed : responses.accepted = some response) (arrivals : ∀ event ∈ events, event.IsArrival)
      (started : Started p q payload (.handled command responses ::
        (p.reportDecision responses (p.commandSeq + 1) ++ events ++
          .published (PendingResponse.accepted p.topics response (p.commandSeq + 1)).message ok ::
            (p.report (firstAttempt (p.commandSeq + 1) ok) ++ p.report
              (setAside (.terminal p.topics responses.terminal (p.commandSeq + 1)) ok)))))
      (outbox : q.outbox =
        (if ok then [] else [.accepted p.topics response (p.commandSeq + 1)]) ++
          [.terminal p.topics responses.terminal (p.commandSeq + 1)])
      (lastResult : q.lastResult = { parsed := true, acceptedPublished := ok })
  | terminal (payload : Bytes) (command : DeviceCommand) (responses : CommandResponses)
      (events : List ProcessorEvent) (ok : Bool)
      (parsed : (parseCommand payload p.deviceId).command = some command)
      (owed : responses.accepted = none) (arrivals : ∀ event ∈ events, event.IsArrival)
      (started : Started p q payload (.handled command responses ::
        (p.reportDecision responses (p.commandSeq + 1) ++ events ++
          .published
            (PendingResponse.terminal p.topics responses.terminal (p.commandSeq + 1)).message ok ::
            p.report
              ((PendingResponse.terminal p.topics responses.terminal (p.commandSeq + 1)).drained
                ok))))
      (outbox : q.outbox =
        if ok then [] else [.terminal p.topics responses.terminal (p.commandSeq + 1)])
      (lastResult : q.lastResult = { parsed := true, terminalPublished := ok })

variable [IDeviceTransport τ]

omit [ArduinoJson] in
theorem publish_arrived (p : RemoteCommandProcessor τ δ) (message : MqttMessage) (qos : MqttQos) :
    ∃ r events ok, Arrived p r events ∧
      p.publish message qos = (r.note (.published message ok), ok) := by
  obtain ⟨events, harrived⟩ :=
    Arrived.returned p (IDeviceTransport.publish p.transport message qos)
  exact ⟨_, events, _, harrived, rfl⟩

omit [ArduinoJson] in
theorem publishOrQueue_arrived (p : RemoteCommandProcessor τ δ) (entry : PendingResponse)
    (hidle : p.outbox = []) : ∃ r events ok, Arrived p r events ∧
      p.publishOrQueue entry = ({ r with
        log := r.log ++ [.published entry.message ok]
        outbox := if ok then [] else [entry] }, ok) := by
  obtain ⟨r, events, ok, harrived, he⟩ := publish_arrived p entry.message entry.qos
  refine ⟨r, events, ok, harrived, ?_⟩
  have hout : r.outbox = [] := harrived.outbox.trans hidle
  rw [publishOrQueue, he]
  rcases r with ⟨_, _, _, _, _, _, outbox, _, _, _⟩
  change outbox = [] at hout
  subst hout
  cases ok with
  | true => rfl
  | false => rfl

omit [ArduinoJson] [IDeviceTransport τ] in
theorem enqueue_of_room {p : RemoteCommandProcessor τ δ} (h : p.outbox.length < kMaxOutboxSize)
    (entry : PendingResponse) :
    p.enqueue entry = ({ p with outbox := p.outbox ++ [entry] }, true) :=
  if_neg (Nat.not_le_of_lt h)

theorem drainOutbox_effect {p : RemoteCommandProcessor τ δ} (hout : p.outbox ≠ []) :
    Effect p p.drainOutbox := by
  obtain ⟨front, rest, hwaiting⟩ := List.exists_cons_of_ne_nil hout
  obtain ⟨r, events, ok, harrived, he⟩ := publish_arrived p front.message front.qos
  have hrout : r.outbox = front :: rest := harrived.outbox.trans hwaiting
  have hlog : r.log ++ [.published front.message ok] ++ r.report (front.drained ok) =
      p.log ++ (events ++ .published front.message ok :: p.report (front.drained ok)) := by
    rw [harrived.log, harrived.keeps.report, List.append_assoc, List.append_assoc,
      List.singleton_append]
  rw [drainOutbox, hwaiting]
  dsimp only
  rw [he]
  dsimp only
  obtain ⟨hdeviceId, htopics, hcallback⟩ := harrived.keeps
  cases ok with
  | false =>
    rw [Bool.not_false, if_pos rfl, diagnose_eq]
    exact .drained front rest events false ⟨hdeviceId, htopics, hcallback⟩ hwaiting
      harrived.arrivals hlog hrout harrived.commandSeq harrived.lastResult
  | true =>
    rw [Bool.not_true, if_neg Bool.noConfusion, diagnose_eq]
    refine .drained front rest events true ⟨hdeviceId, htopics, hcallback⟩ hwaiting
      harrived.arrivals hlog (congrArg List.tail hrout) harrived.commandSeq ?_
    rw [← harrived.lastResult]
    rfl

/-- From `p` to `q` these events happened, and the outbox became this one. -/
structure Responded (p q : RemoteCommandProcessor τ δ) (events : List ProcessorEvent)
    (outbox : List PendingResponse) : Prop where
  keeps : Keeps p q
  log : q.log = p.log ++ events
  outbox : q.outbox = outbox
  commandSeq : q.commandSeq = p.commandSeq

theorem respondAccepted_effect {p : RemoteCommandProcessor τ δ} (hidle : p.outbox = [])
    (response terminal : CommandResponse) (seq : UInt32) :
    ∃ events ok, (∀ event ∈ events, event.IsArrival) ∧
      Responded p (p.respondAccepted response (.terminal p.topics terminal seq)).1
        (events ++ .published (PendingResponse.accepted p.topics response seq).message ok ::
          (p.report (firstAttempt seq ok) ++
            p.report (setAside (.terminal p.topics terminal seq) ok)))
        ((if ok then [] else [.accepted p.topics response seq]) ++
          [.terminal p.topics terminal seq]) ∧
      (p.respondAccepted response (.terminal p.topics terminal seq)).2 =
        { parsed := true, acceptedPublished := ok } := by
  obtain ⟨r, events, ok, harrived, he⟩ :=
    publishOrQueue_arrived p (.accepted p.topics response seq) hidle
  refine ⟨events, ok, harrived.arrivals, ?_⟩
  have hentry : PendingResponse.accepted p.topics response seq =
      { message := ⟨p.topics.responsesIngest, response.toJson⟩
        qos := .atLeastOnce
        isTerminal := false
        commandSeq := (PendingResponse.terminal p.topics terminal seq).commandSeq
        safeCode := none } := rfl
  have hroom : (if ok then [] else [PendingResponse.accepted p.topics response seq]).length <
      kMaxOutboxSize := by
    cases ok with
    | true => exact Nat.two_pos
    | false => exact Nat.one_lt_two
  obtain ⟨hdeviceId, htopics, hcallback⟩ := harrived.keeps
  rw [respondAccepted, ← hentry, he]
  dsimp only
  rw [enqueue_of_room (by rw [diagnose_eq]; exact hroom), diagnose_eq, diagnose_eq]
  refine ⟨⟨⟨hdeviceId, htopics, hcallback⟩, ?_, rfl, harrived.commandSeq⟩, rfl⟩
  have hlog : r.log ++ [.published (PendingResponse.accepted p.topics response seq).message ok] ++
      r.report (firstAttempt seq ok) ++
        r.report (setAside (.terminal p.topics terminal seq) ok) =
      p.log ++ (events ++
        .published (PendingResponse.accepted p.topics response seq).message ok ::
          (p.report (firstAttempt seq ok) ++
            p.report (setAside (.terminal p.topics terminal seq) ok))) := by
    rw [harrived.log, harrived.keeps.report]
    simp only [List.append_assoc, List.cons_append, List.nil_append]
  exact hlog

omit [ArduinoJson] in
theorem respondTerminal_effect {p : RemoteCommandProcessor τ δ} (hidle : p.outbox = [])
    (terminal : PendingResponse) (hterminal : terminal.isTerminal = true) :
    ∃ events ok, (∀ event ∈ events, event.IsArrival) ∧
      Responded p (p.respondTerminal terminal).1
        (events ++ .published terminal.message ok :: p.report (terminal.drained ok))
        (if ok then [] else [terminal]) ∧
      (p.respondTerminal terminal).2 = { parsed := true, terminalPublished := ok } := by
  obtain ⟨r, events, ok, harrived, he⟩ := publishOrQueue_arrived p terminal hidle
  refine ⟨events, ok, harrived.arrivals, ?_⟩
  have hdiagnostic : terminal.drained ok =
      { stage := if ok then .terminalPublished else .terminalPublishFailed
        safeCode := terminal.safeCode
        commandSeq := terminal.commandSeq } := by
    rw [PendingResponse.drained, if_pos hterminal, if_pos hterminal]
  obtain ⟨hdeviceId, htopics, hcallback⟩ := harrived.keeps
  rw [respondTerminal, he]
  dsimp only
  rw [diagnose_eq, ← hdiagnostic]
  refine ⟨⟨⟨hdeviceId, htopics, hcallback⟩, ?_, rfl, harrived.commandSeq⟩, rfl⟩
  have hlog : r.log ++ [.published terminal.message ok] ++ r.report (terminal.drained ok) =
      p.log ++ (events ++ .published terminal.message ok :: p.report (terminal.drained ok)) := by
    rw [harrived.log, harrived.keeps.report]
    simp only [List.append_assoc, List.singleton_append]
  exact hlog

/-- From `p` to `q` the payload was taken off those that wait. -/
structure Taken (p q : RemoteCommandProcessor τ δ) (payload : Bytes) : Prop where
  keeps : Keeps p q
  idle : p.outbox = []
  log : q.log = p.log ++ [.started payload]
  outbox : q.outbox = []
  commandSeq : q.commandSeq = p.commandSeq

/-- From `p` to `d` a payload was started and handled, and nothing was published yet. -/
structure Decided (p d : RemoteCommandProcessor τ δ) (payload : Bytes) (command : DeviceCommand)
    (responses : CommandResponses) : Prop where
  keeps : Keeps p d
  parsed : (parseCommand payload p.deviceId).command = some command
  idle : p.outbox = []
  log : d.log = p.log ++ .started payload :: .handled command responses ::
    p.reportDecision responses (p.commandSeq + 1)
  outbox : d.outbox = []
  commandSeq : d.commandSeq = p.commandSeq + 1

omit [IDeviceTransport τ] in
theorem Decided.started {p d r : RemoteCommandProcessor τ δ} {responses : CommandResponses}
    (h : Decided p d payload command responses) (hr : Responded d r events waiting)
    (result : CommandPublishResult) :
    Started p { r with lastResult := result } payload
      (.handled command responses ::
        (p.reportDecision responses (p.commandSeq + 1) ++ events)) := by
  obtain ⟨⟨hdeviceId, htopics, hcallback⟩, hlog, _, hseq⟩ := hr
  refine ⟨⟨?_, ?_, ?_⟩, h.idle, ?_, ?_⟩
  · exact hdeviceId.trans h.keeps.deviceId
  · exact htopics.trans h.keeps.topics
  · exact hcallback.trans h.keeps.callback
  · refine hlog.trans ?_
    rw [h.log, List.append_assoc, List.cons_append, List.cons_append]
  · exact hseq.trans h.commandSeq

theorem Decided.accepted {p d r : RemoteCommandProcessor τ δ} {responses : CommandResponses}
    (h : Decided p d payload command responses) (howed : responses.accepted = some response)
    (hr : d.respondAccepted response (.terminal d.topics responses.terminal (p.commandSeq + 1)) =
      (r, result)) : Effect p { r with lastResult := result } := by
  obtain ⟨events, ok, harrivals, heffect, hresult⟩ :=
    respondAccepted_effect h.outbox response responses.terminal (p.commandSeq + 1)
  rw [hr, h.keeps.topics, h.keeps.report] at heffect
  rw [hr] at hresult
  have hstarted := h.started heffect result
  rw [← List.append_assoc] at hstarted
  exact .accepted payload command responses response events ok h.parsed howed harrivals hstarted
    heffect.outbox hresult

theorem Decided.terminal {p d r : RemoteCommandProcessor τ δ} {responses : CommandResponses}
    (h : Decided p d payload command responses) (howed : responses.accepted = none)
    (hr : d.respondTerminal (.terminal d.topics responses.terminal (p.commandSeq + 1)) =
      (r, result)) : Effect p { r with lastResult := result } := by
  obtain ⟨events, ok, harrivals, heffect, hresult⟩ :=
    respondTerminal_effect h.outbox (.terminal d.topics responses.terminal (p.commandSeq + 1)) rfl
  rw [hr, h.keeps.topics, h.keeps.report] at heffect
  rw [hr] at hresult
  have hstarted := h.started heffect result
  rw [← List.append_assoc] at hstarted
  exact .terminal payload command responses events ok h.parsed howed harrivals hstarted
    heffect.outbox hresult

theorem Taken.respond {p q r : RemoteCommandProcessor τ δ} (h : Taken p q payload)
    (hparsed : (parseCommand payload p.deviceId).command = some command)
    {handler : CommandHandler δ} {responses : CommandResponses}
    (hr : ({ q with
        commandSeq := q.commandSeq + 1
        handler := handler }.note (.handled command responses)).respond responses
          (q.commandSeq + 1) = (r, result)) : Effect p { r with lastResult := result } := by
  obtain ⟨⟨hdeviceId, htopics, hcallback⟩, hidle, hlog, hout, hseq⟩ := h
  rw [RemoteCommandProcessor.respond, diagnoseDecision_eq, hseq] at hr
  have hdecided : Decided p { q with
      commandSeq := p.commandSeq + 1
      handler := handler
      log := q.log ++ [.handled command responses] ++
        q.reportDecision responses (p.commandSeq + 1) } payload command responses := by
    have hreport : q.reportDecision = p.reportDecision := by
      funext responses seq
      rw [reportDecision, reportDecision, Keeps.report ⟨hdeviceId, htopics, hcallback⟩]
    refine ⟨⟨hdeviceId, htopics, hcallback⟩, hparsed, hidle, ?_, hout, rfl⟩
    rw [hlog, hreport]
    simp only [List.append_assoc, List.cons_append, List.nil_append]
  cases howed : responses.accepted with
  | some response =>
    rw [howed] at hr
    exact hdecided.accepted howed hr
  | none =>
    rw [howed] at hr
    exact hdecided.terminal howed hr

variable [IDedupCache δ]

theorem processPayload_effect (clock : ClockAnswers) {p q : RemoteCommandProcessor τ δ}
    (h : Taken p q payload) :
    Effect p { (q.processPayload clock payload).1 with
      lastResult := (q.processPayload clock payload).2 } := by
  rw [processPayload]
  cases hparsed : (parseCommand payload q.deviceId).command with
  | none =>
    rw [h.keeps.deviceId] at hparsed
    dsimp only
    rw [diagnose_eq]
    obtain ⟨⟨hdeviceId, htopics, hcallback⟩, hidle, hlog, hout, hseq⟩ := h
    refine .invalid payload hparsed
      ⟨⟨hdeviceId, htopics, hcallback⟩, hidle, ?_, congrArg (· + 1) hseq⟩ hout
    have hinvalid : q.log ++ q.report
          { stage := .rejected
            safeCode := some (ascii "MESSAGE_INVALID")
            commandSeq := q.commandSeq + 1 } =
        p.log ++ .started payload :: p.report
          { stage := .rejected
            safeCode := some (ascii "MESSAGE_INVALID")
            commandSeq := p.commandSeq + 1 } := by
      rw [hlog, hseq, Keeps.report ⟨hdeviceId, htopics, hcallback⟩, List.append_assoc,
        List.singleton_append]
    exact hinvalid
  | some command =>
    rw [h.keeps.deviceId] at hparsed
    exact h.respond hparsed rfl

theorem processPending_effect (clock : ClockAnswers) (p : RemoteCommandProcessor τ δ) :
    Effect p (p.processPending clock) := by
  rw [processPending]
  by_cases hout : p.outbox = []
  · rw [if_neg (not_not.mpr hout)]
    cases hwaiting : p.pendingPayloads with
    | nil => exact .arrived [] (Arrived.refl p)
    | cons payload rest =>
      exact processPayload_effect clock ⟨⟨rfl, rfl, rfl⟩, hout, rfl, hout, rfl⟩
  · rw [if_pos hout]
    exact drainOutbox_effect hout

theorem step_effect (p : RemoteCommandProcessor τ δ) (input : Input) :
    Effect p (p.step input) := by
  cases input with
  | deliver message => exact .arrived _ (Arrived.onMessage p message)
  | subscribe =>
    obtain ⟨events, harrived⟩ := Arrived.returned p
      (IDeviceTransport.subscribe p.transport p.topics.commands .atLeastOnce)
    exact .arrived events harrived
  | processPending clock => exact processPending_effect clock p

end RemoteCommandProcessor
end InterBridge
