import InterBridge.Protocol.ProcessorEffects

namespace InterBridge
open Foundations
set_option autoImplicit true

/-- A message that carries a response of this device to its topic, at least once. -/
structure IsAnswer [ArduinoJson] (deviceId : Bytes) (topics : MqttTopics) (message : MqttMessage)
    (qos : MqttQos) : Prop where
  topic : message.topic = topics.responsesIngest
  payload : ∃ response : CommandResponse, response.deviceId = deviceId ∧
    message.payload = response.toJson
  atLeastOnce : qos = .atLeastOnce

/-- The transport is as `P` says, and what waits in the outbox are responses of this device. -/
structure AnswersOver [ArduinoJson] (P : τ → Prop) (deviceId : Bytes) (topics : MqttTopics)
    (p : RemoteCommandProcessor τ δ) : Prop where
  onTopics : p.topics = topics
  named : p.handler.deviceId = deviceId
  onTransport : P p.transport
  waiting : ∀ entry ∈ p.outbox, IsAnswer deviceId topics entry.message entry.qos

/-- What publishing a response of this device keeps. -/
def KeptByResponses [ArduinoJson] [IDeviceTransport τ] (deviceId : Bytes) (topics : MqttTopics)
    (P : τ → Prop) : Prop :=
  ∀ transport message qos, IsAnswer deviceId topics message qos → P transport →
    P (IDeviceTransport.publish transport message qos).transport

theorem handle_deviceId [IDedupCache δ] (deviceId : Bytes) (cache : δ) (clock : ClockAnswers)
    (command : DeviceCommand) :
    (∀ accepted ∈ (handle deviceId cache clock command).1.accepted,
      accepted.deviceId = deviceId) ∧
      (handle deviceId cache clock command).1.terminal.deviceId = deviceId := by
  cases hfind : IDedupCache.find cache command.commandId with
  | some entry =>
    rw [handle_cached hfind]
    exact ⟨fun _ haccepted => (Option.not_mem_none _ haccepted).elim, rfl⟩
  | none =>
    rw [handle_uncached hfind]
    refine ⟨?_, ?_⟩
    · rw [firstResponses]
      cases refusal clock command with
      | some code => exact fun _ haccepted => (Option.not_mem_none _ haccepted).elim
      | none =>
        intro accepted haccepted
        cases haccepted
        rfl
    · rw [firstResponses_terminal]
      rfl

namespace RemoteCommandProcessor

theorem processPending_deviceId [ArduinoJson] [IDeviceTransport τ] [IDedupCache δ]
    (clock : ClockAnswers) (p : RemoteCommandProcessor τ δ) :
    (p.processPending clock).deviceId = p.deviceId := by
  cases p.processPending_effect clock with
  | arrived events harrived => exact harrived.keeps.deviceId
  | drained _ _ _ _ hkeeps => exact hkeeps.deviceId
  | invalid _ _ hstarted => exact hstarted.keeps.deviceId
  | accepted _ _ _ _ _ _ _ _ _ hstarted => exact hstarted.keeps.deviceId
  | terminal _ _ _ _ _ _ _ _ hstarted => exact hstarted.keeps.deviceId

theorem diagnose_transport (p : RemoteCommandProcessor τ δ) (diagnostic : CommandDiagnostic) :
    (p.diagnose diagnostic).transport = p.transport := by
  obtain ⟨_, hdiagnosed⟩ := p.diagnose_frame diagnostic
  rw [hdiagnosed]

theorem diagnoseDecision_transport (p : RemoteCommandProcessor τ δ) (responses : CommandResponses)
    (seq : UInt32) : (p.diagnoseDecision responses seq).transport = p.transport := by
  rw [diagnoseDecision]
  split
  · exact p.diagnose_transport _
  · rfl

theorem enqueue_transport (p : RemoteCommandProcessor τ δ) (entry : PendingResponse) :
    (p.enqueue entry).1.transport = p.transport := by
  rw [enqueue]
  split
  · rfl
  · rfl

section Published
variable [IDeviceTransport τ]

theorem publish_transport (p : RemoteCommandProcessor τ δ) (message : MqttMessage) (qos : MqttQos) :
    (p.publish message qos).1.transport =
      (IDeviceTransport.publish p.transport message qos).transport :=
  p.returned_transport _

theorem publishOrQueue_transport (p : RemoteCommandProcessor τ δ) (entry : PendingResponse) :
    (p.publishOrQueue entry).1.transport =
      (IDeviceTransport.publish p.transport entry.message entry.qos).transport := by
  have hpublished := p.publish_transport entry.message entry.qos
  rw [publishOrQueue]
  dsimp only
  split
  · exact hpublished
  · exact (enqueue_transport _ entry).trans hpublished

theorem drainOutbox_transport {p : RemoteCommandProcessor τ δ} (h : p.outbox = front :: rest) :
    p.drainOutbox.transport =
      (IDeviceTransport.publish p.transport front.message front.qos).transport := by
  have hpublished := p.publish_transport front.message front.qos
  rw [drainOutbox, h]
  dsimp only
  split
  · exact (diagnose_transport _ _).trans hpublished
  · exact (diagnose_transport _ _).trans hpublished

variable [ArduinoJson]

theorem respond_transport (p : RemoteCommandProcessor τ δ) (responses : CommandResponses)
    (seq : UInt32) : ∃ message qos, (p.respond responses seq).1.transport =
      (IDeviceTransport.publish p.transport message qos).transport := by
  rw [respond, ← p.diagnoseDecision_transport responses seq]
  split
  · rw [respondAccepted]
    exact ⟨_, _, (diagnose_transport _ _).trans ((enqueue_transport _ _).trans
      ((diagnose_transport _ _).trans (publishOrQueue_transport _ _)))⟩
  · rw [respondTerminal]
    exact ⟨_, _, (diagnose_transport _ _).trans (publishOrQueue_transport _ _)⟩

/-- Whatever waits, at most one message is published. -/
theorem processPending_transport [IDedupCache δ] (p : RemoteCommandProcessor τ δ)
    (clock : ClockAnswers) : (p.processPending clock).transport = p.transport ∨
      ∃ message qos, (p.processPending clock).transport =
        (IDeviceTransport.publish p.transport message qos).transport := by
  rw [processPending]
  split
  next hwaiting =>
    obtain ⟨front, rest, hfront⟩ := List.exists_cons_of_ne_nil hwaiting
    exact .inr ⟨_, _, drainOutbox_transport hfront⟩
  split
  · exact .inl rfl
  next payload rest _ =>
    dsimp only
    rw [processPayload]
    split
    · exact .inl (diagnose_transport _ _)
    · exact .inr (respond_transport _ _ _)

end Published

end RemoteCommandProcessor

namespace AnswersOver
variable [ArduinoJson] {P Q : τ → Prop} {p : RemoteCommandProcessor τ δ}

theorem of_eq {q : RemoteCommandProcessor τ δ} (h : AnswersOver P deviceId topics p)
    (htopics : q.topics = p.topics) (hhandler : q.handler = p.handler)
    (htransport : q.transport = p.transport) (houtbox : q.outbox = p.outbox) :
    AnswersOver P deviceId topics q :=
  ⟨htopics.trans h.onTopics, (congrArg CommandHandler.deviceId hhandler).trans h.named,
    htransport ▸ h.onTransport, houtbox ▸ h.waiting⟩

theorem diagnose (h : AnswersOver P deviceId topics p) (diagnostic : CommandDiagnostic) :
    AnswersOver P deviceId topics (p.diagnose diagnostic) := by
  rw [RemoteCommandProcessor.diagnose]
  split
  · exact h.of_eq rfl rfl rfl rfl
  · exact h

theorem diagnoseDecision (h : AnswersOver P deviceId topics p) (responses : CommandResponses)
    (seq : UInt32) : AnswersOver P deviceId topics (p.diagnoseDecision responses seq) := by
  rw [RemoteCommandProcessor.diagnoseDecision]
  split
  · exact h.diagnose _
  · exact h

theorem returned (h : AnswersOver P deviceId topics p) {reply : TransportReply τ}
    (hP : Q reply.transport) : AnswersOver Q deviceId topics (p.returned reply) := by
  obtain ⟨_, _, _, hreturned⟩ := p.returned_frame reply
  rw [hreturned]
  exact ⟨h.onTopics, h.named, hP, h.waiting⟩

theorem enqueue (h : AnswersOver P deviceId topics p) {entry : PendingResponse}
    (hentry : IsAnswer deviceId topics entry.message entry.qos) :
    AnswersOver P deviceId topics (p.enqueue entry).1 := by
  rw [RemoteCommandProcessor.enqueue]
  split
  · exact h
  · refine ⟨h.onTopics, h.named, h.onTransport, ?_⟩
    rw [List.forall_mem_append, List.forall_mem_singleton]
    exact ⟨h.waiting, hentry⟩

theorem isAnswer (h : AnswersOver P deviceId topics p) {response : CommandResponse}
    (hresponse : response.deviceId = deviceId) :
    IsAnswer deviceId topics ⟨p.topics.responsesIngest, response.toJson⟩ .atLeastOnce :=
  ⟨congrArg MqttTopics.responsesIngest h.onTopics, ⟨response, hresponse, rfl⟩, rfl⟩

variable [IDeviceTransport τ]

theorem publish (h : AnswersOver P deviceId topics p) (hP : KeptByResponses deviceId topics P)
    (hmessage : IsAnswer deviceId topics message qos) :
    AnswersOver P deviceId topics (p.publish message qos).1 :=
  (h.returned (hP p.transport message qos hmessage h.onTransport)).of_eq rfl rfl rfl rfl

theorem publishOrQueue (h : AnswersOver P deviceId topics p)
    (hP : KeptByResponses deviceId topics P) {entry : PendingResponse}
    (hentry : IsAnswer deviceId topics entry.message entry.qos) :
    AnswersOver P deviceId topics (p.publishOrQueue entry).1 := by
  have hpublished := h.publish hP hentry
  rw [RemoteCommandProcessor.publishOrQueue]
  dsimp only
  split
  · exact hpublished
  · exact hpublished.enqueue hentry

theorem drainOutbox (h : AnswersOver P deviceId topics p)
    (hP : KeptByResponses deviceId topics P) : AnswersOver P deviceId topics p.drainOutbox := by
  rw [RemoteCommandProcessor.drainOutbox]
  split
  next => exact h
  next front rest hout =>
    have hfront := h.waiting front (hout ▸ List.mem_cons_self)
    have hpublished := h.publish hP hfront
    dsimp only
    split
    · exact hpublished.diagnose _
    · have hmarked : AnswersOver P deviceId topics
          { (p.publish front.message front.qos).1 with
            lastResult := if front.isTerminal then
              { (p.publish front.message front.qos).1.lastResult with terminalPublished := true }
            else { (p.publish front.message front.qos).1.lastResult with
              acceptedPublished := true } } := hpublished.of_eq rfl rfl rfl rfl
      have hdiagnosed := hmarked.diagnose
        { stage := if front.isTerminal then .terminalPublished else .acceptedPublished
          safeCode := front.safeCode
          commandSeq := front.commandSeq }
      exact ⟨hdiagnosed.onTopics, hdiagnosed.named, hdiagnosed.onTransport, fun entry hentry =>
        hdiagnosed.waiting entry (List.mem_of_mem_tail hentry)⟩

theorem respond (h : AnswersOver P deviceId topics p) (hP : KeptByResponses deviceId topics P)
    {responses : CommandResponses}
    (haccepted : ∀ accepted ∈ responses.accepted, accepted.deviceId = deviceId)
    (hterminal : responses.terminal.deviceId = deviceId) (seq : UInt32) :
    AnswersOver P deviceId topics (p.respond responses seq).1 := by
  have hdecided := h.diagnoseDecision responses seq
  have hanswer := hdecided.isAnswer hterminal
  rw [RemoteCommandProcessor.respond]
  split
  next accepted hfirst =>
    exact (((hdecided.publishOrQueue hP (hdecided.isAnswer (haccepted accepted hfirst))).diagnose
      _).enqueue hanswer).diagnose _
  next => exact (hdecided.publishOrQueue hP hanswer).diagnose _

variable [IDedupCache δ]

theorem processPayload (h : AnswersOver P deviceId topics p)
    (hP : KeptByResponses deviceId topics P) (clock : ClockAnswers) (payload : Bytes) :
    AnswersOver P deviceId topics (p.processPayload clock payload).1 := by
  have hcounted : AnswersOver P deviceId topics { p with commandSeq := p.commandSeq + 1 } :=
    h.of_eq rfl rfl rfl rfl
  rw [RemoteCommandProcessor.processPayload]
  split
  next => exact hcounted.diagnose _
  next command _ =>
    obtain ⟨haccepted, hterminal⟩ := handle_deviceId p.handler.deviceId p.handler.dedupCache clock
      command
    rw [h.named] at haccepted hterminal
    dsimp only
    rw [h.named]
    apply AnswersOver.respond _ hP haccepted hterminal
    exact ⟨h.onTopics, rfl, h.onTransport, h.waiting⟩

/-- All that `processPending` does to its transport is to publish responses of this device. -/
theorem processPending (h : AnswersOver P deviceId topics p)
    (hP : KeptByResponses deviceId topics P) (clock : ClockAnswers) :
    AnswersOver P deviceId topics (p.processPending clock) := by
  rw [RemoteCommandProcessor.processPending]
  split
  · exact h.drainOutbox hP
  split
  next => exact h
  next payload rest _ =>
    have htaken : AnswersOver P deviceId topics
        ({ p with pendingPayloads := rest }.note (.started payload)) := h.of_eq rfl rfl rfl rfl
    exact (htaken.processPayload hP clock payload).of_eq rfl rfl rfl rfl

end AnswersOver
end InterBridge
