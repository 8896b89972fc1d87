import InterBridge.Protocol.RemoteCommandProcessor

namespace InterBridge
open Foundations
set_option autoImplicit true

namespace ProcessorEvent

/-- A payload delivered on the commands topic, within the size limit and while there was room. -/
def accepted? (topics : MqttTopics) : ProcessorEvent → Option Bytes
  | .received message waiting =>
    if message.topic = topics.commands ∧ message.payload.length ≤ kMaxJsonPayloadBytes ∧
        waiting < kMaxPendingCommands then
      some message.payload
    else none
  | _ => none

def started? : ProcessorEvent → Option Bytes
  | .started payload => some payload
  | _ => none

def handled? : ProcessorEvent → Option (DeviceCommand × CommandResponses)
  | .handled command responses => some (command, responses)
  | _ => none

def published? : ProcessorEvent → Option MqttMessage
  | .published message ok => if ok then some message else none
  | _ => none

end ProcessorEvent

/-- The responses a handled command is owed, in the order they go out. -/
def CommandResponses.messages [ArduinoJson] (topics : MqttTopics) (responses : CommandResponses) :
    List MqttMessage :=
  (responses.accepted.toList ++ [responses.terminal]).map fun response =>
    ⟨topics.responsesIngest, response.toJson⟩

namespace RemoteCommandProcessor

def acceptedPayloads (p : RemoteCommandProcessor τ δ) : List Bytes :=
  p.log.filterMap (ProcessorEvent.accepted? p.topics)

def startedPayloads (p : RemoteCommandProcessor τ δ) : List Bytes :=
  p.log.filterMap ProcessorEvent.started?

def handledCommands (p : RemoteCommandProcessor τ δ) : List (DeviceCommand × CommandResponses) :=
  p.log.filterMap ProcessorEvent.handled?

def publishedMessages (p : RemoteCommandProcessor τ δ) : List MqttMessage :=
  p.log.filterMap ProcessorEvent.published?

def outboxMessages (p : RemoteCommandProcessor τ δ) : List MqttMessage :=
  p.outbox.map PendingResponse.message

theorem filterMap_concat (f : α → Option β) (l : List α) (a : α) :
    (l ++ [a]).filterMap f = l.filterMap f ++ (f a).toList := by
  rw [List.filterMap_append, List.filterMap_cons]
  cases f a <;> rfl

section Note

variable (p : RemoteCommandProcessor τ δ) (event : ProcessorEvent)

@[simp] theorem note_acceptedPayloads : (p.note event).acceptedPayloads =
    p.acceptedPayloads ++ (event.accepted? p.topics).toList := filterMap_concat _ _ _

@[simp] theorem note_startedPayloads : (p.note event).startedPayloads =
    p.startedPayloads ++ event.started?.toList := filterMap_concat _ _ _

@[simp] theorem note_handledCommands : (p.note event).handledCommands =
    p.handledCommands ++ event.handled?.toList := filterMap_concat _ _ _

@[simp] theorem note_publishedMessages : (p.note event).publishedMessages =
    p.publishedMessages ++ event.published?.toList := filterMap_concat _ _ _

@[simp] theorem diagnose_acceptedPayloads (diagnostic : CommandDiagnostic) :
    (p.diagnose diagnostic).acceptedPayloads = p.acceptedPayloads := by
  rw [diagnose]
  split
  · exact (note_acceptedPayloads p _).trans (List.append_nil _)
  · rfl

@[simp] theorem diagnose_pendingPayloads (diagnostic : CommandDiagnostic) :
    (p.diagnose diagnostic).pendingPayloads = p.pendingPayloads := by
  rw [diagnose]
  split <;> rfl

end Note

/-- Every accepted payload was started or still waits, in the order of arrival. -/
def Arrivals (p : RemoteCommandProcessor τ δ) : Prop :=
  p.acceptedPayloads = p.startedPayloads ++ p.pendingPayloads

theorem Arrivals.note {p : RemoteCommandProcessor τ δ} {event : ProcessorEvent} (h : p.Arrivals)
    (ha : event.accepted? p.topics = none) (hs : event.started? = none) :
    (p.note event).Arrivals := by
  rw [Arrivals, note_acceptedPayloads, note_startedPayloads, ha, hs, Option.toList_none,
    List.append_nil, List.append_nil]
  exact h

/-- From `p` to `q` messages may have arrived and diagnostics been reported, and nothing else. -/
structure OnlyReceived (p q : RemoteCommandProcessor τ δ) : Prop where
  deviceId : q.deviceId = p.deviceId
  topics : q.topics = p.topics
  outbox : q.outbox = p.outbox
  started : q.startedPayloads = p.startedPayloads
  handled : q.handledCommands = p.handledCommands
  published : q.publishedMessages = p.publishedMessages
  arrivals : p.Arrivals → q.Arrivals

namespace OnlyReceived

variable {p q r : RemoteCommandProcessor τ δ}

theorem refl (p : RemoteCommandProcessor τ δ) : OnlyReceived p p :=
  ⟨rfl, rfl, rfl, rfl, rfl, rfl, id⟩

theorem trans (h : OnlyReceived p q) (h' : OnlyReceived q r) : OnlyReceived p r :=
  ⟨h'.deviceId.trans h.deviceId, h'.topics.trans h.topics, h'.outbox.trans h.outbox,
    h'.started.trans h.started, h'.handled.trans h.handled, h'.published.trans h.published,
    h'.arrivals ∘ h.arrivals⟩

theorem note (p : RemoteCommandProcessor τ δ) {event : ProcessorEvent}
    (ha : event.accepted? p.topics = none) (hs : event.started? = none)
    (hh : event.handled? = none) (hp : event.published? = none) :
    OnlyReceived p (p.note event) := by
  refine ⟨rfl, rfl, rfl, ?_, ?_, ?_, fun h => h.note ha hs⟩
  · rw [note_startedPayloads, hs, Option.toList_none, List.append_nil]
  · rw [note_handledCommands, hh, Option.toList_none, List.append_nil]
  · rw [note_publishedMessages, hp, Option.toList_none, List.append_nil]

theorem diagnose (p : RemoteCommandProcessor τ δ) (diagnostic : CommandDiagnostic) :
    OnlyReceived p (p.diagnose diagnostic) := by
  rw [RemoteCommandProcessor.diagnose]
  split
  · exact note p rfl rfl rfl rfl
  · exact refl p

theorem onMessage (p : RemoteCommandProcessor τ δ) (message : MqttMessage) :
    OnlyReceived p (p.onMessage message) := by
  have hdiagnose := diagnose (p.note (.received message p.pendingPayloads.length))
    { stage := .received }
  have hpending := diagnose_pendingPayloads (p.note (.received message p.pendingPayloads.length))
    { stage := .received }
  have haccepted := diagnose_acceptedPayloads
    (p.note (.received message p.pendingPayloads.length)) { stage := .received }
  rw [RemoteCommandProcessor.onMessage]
  generalize (p.note _).diagnose _ = q at *
  have htopics : q.topics = p.topics := hdiagnose.topics
  rw [note_acceptedPayloads] at haccepted
  change q.pendingPayloads = p.pendingPayloads at hpending
  have hnone (h : (ProcessorEvent.received message p.pendingPayloads.length).accepted? p.topics =
      none) : OnlyReceived p q := (note p h rfl rfl rfl).trans hdiagnose
  split
  · next hbad =>
    rw [htopics] at hbad
    have h : OnlyReceived p q := hnone (if_neg fun h => hbad.elim (absurd h.1) h.2.1.not_gt)
    exact h.trans ⟨rfl, rfl, rfl, rfl, rfl, rfl, id⟩
  · next hgood =>
    rw [htopics, not_or, not_not, Nat.not_lt] at hgood
    split
    · next hfull =>
      rw [hpending] at hfull
      exact hnone (if_neg fun h => h.2.2.not_ge hfull)
    · next hroom =>
      rw [hpending, Nat.not_le] at hroom
      have hsome : (ProcessorEvent.received message p.pendingPayloads.length).accepted? p.topics =
          some message.payload := if_pos ⟨hgood.1, hgood.2, hroom⟩
      refine ⟨hdiagnose.deviceId, htopics, hdiagnose.outbox, ?_, ?_, ?_, fun h => ?_⟩
      · exact hdiagnose.started.trans ((note_startedPayloads p _).trans (List.append_nil _))
      · exact hdiagnose.handled.trans ((note_handledCommands p _).trans (List.append_nil _))
      · exact hdiagnose.published.trans ((note_publishedMessages p _).trans (List.append_nil _))
      · rw [hsome] at haccepted
        have hstarted := hdiagnose.started.trans
          ((note_startedPayloads p _).trans (List.append_nil _))
        calc q.acceptedPayloads = p.acceptedPayloads ++ [message.payload] := haccepted
          _ = (p.startedPayloads ++ p.pendingPayloads) ++ [message.payload] := by rw [h]
          _ = q.startedPayloads ++ (q.pendingPayloads ++ [message.payload]) := by
            rw [hstarted, hpending, List.append_assoc]

theorem returned (p : RemoteCommandProcessor τ δ) (reply : TransportReply τ) :
    OnlyReceived p (p.returned reply) := by
  apply List.foldlRecOn reply.inbound
  · exact ⟨rfl, rfl, rfl, rfl, rfl, rfl, id⟩
  · exact fun q h message _ => h.trans (onMessage q message)

end OnlyReceived

/-- From `p` to `q` the given messages were published or put in the outbox, after those that were
there, and nothing was started or handled. -/
structure Answers (messages : List MqttMessage) (p q : RemoteCommandProcessor τ δ) : Prop where
  deviceId : q.deviceId = p.deviceId
  topics : q.topics = p.topics
  started : q.startedPayloads = p.startedPayloads
  handled : q.handledCommands = p.handledCommands
  arrivals : p.Arrivals → q.Arrivals
  outbox_length : q.outbox.length ≤ p.outbox.length + messages.length
  responses : q.publishedMessages ++ q.outboxMessages =
    p.publishedMessages ++ p.outboxMessages ++ messages

theorem OnlyReceived.answers (h : OnlyReceived p q) : Answers [] p q where
  deviceId := h.deviceId
  topics := h.topics
  started := h.started
  handled := h.handled
  arrivals := h.arrivals
  outbox_length := Nat.le_of_eq (congrArg List.length h.outbox)
  responses := by rw [h.published, outboxMessages, h.outbox, List.append_nil, outboxMessages]

namespace Answers

variable {p q r : RemoteCommandProcessor τ δ}

theorem trans (h : Answers messages p q) (h' : Answers rest q r) :
    Answers (messages ++ rest) p r where
  deviceId := h'.deviceId.trans h.deviceId
  topics := h'.topics.trans h.topics
  started := h'.started.trans h.started
  handled := h'.handled.trans h.handled
  arrivals := h'.arrivals ∘ h.arrivals
  outbox_length := by
    have h₁ := h.outbox_length
    have h₂ := h'.outbox_length
    rw [List.length_append]
    omega
  responses := by rw [h'.responses, h.responses, List.append_assoc]

theorem diagnose (h : Answers messages p q) (diagnostic : CommandDiagnostic) :
    Answers messages p (q.diagnose diagnostic) := by
  have hd := h.trans (OnlyReceived.diagnose q diagnostic).answers
  rwa [List.append_nil] at hd

theorem enqueue (p : RemoteCommandProcessor τ δ) (entry : PendingResponse)
    (hroom : p.outbox.length < kMaxOutboxSize) : Answers [entry.message] p (p.enqueue entry).1 := by
  rw [RemoteCommandProcessor.enqueue, if_neg (Nat.not_le_of_lt hroom)]
  refine ⟨rfl, rfl, rfl, rfl, id, ?_, ?_⟩
  · exact Nat.le_of_eq List.length_append
  · simp only [outboxMessages, List.map_append, List.map_cons, List.map_nil, List.append_assoc]
    rfl

end Answers

/-- Every accepted payload is accounted for, every started one that parses was handled once, and
the responses published or still in the outbox are all the responses owed, in order. -/
structure Delivered [ArduinoJson] (p : RemoteCommandProcessor τ δ) : Prop where
  arrivals : p.Arrivals
  handled : p.handledCommands.map Prod.fst =
    p.startedPayloads.filterMap fun payload => (parseCommand payload p.deviceId).command
  responses : p.publishedMessages ++ p.outboxMessages =
    p.handledCommands.flatMap fun h => h.2.messages p.topics

theorem OnlyReceived.delivered [ArduinoJson] {p q : RemoteCommandProcessor τ δ}
    (h : OnlyReceived p q) (hp : p.Delivered) : q.Delivered where
  arrivals := h.arrivals hp.arrivals
  handled := by rw [h.handled, h.started, h.deviceId, hp.handled]
  responses := by rw [h.published, outboxMessages, h.outbox, h.handled, h.topics, ← hp.responses,
    outboxMessages]

theorem OnlyReceived.diagnoseDecision (p : RemoteCommandProcessor τ δ)
    (responses : CommandResponses) (seq : UInt32) :
    OnlyReceived p (p.diagnoseDecision responses seq) := by
  rw [RemoteCommandProcessor.diagnoseDecision]
  split
  · exact .diagnose p _
  · exact .refl p

section Publishing

variable [IDeviceTransport τ]

theorem publish_eq (p : RemoteCommandProcessor τ δ) (message : MqttMessage) (qos : MqttQos) :
    ∃ q ok, OnlyReceived p q ∧ p.publish message qos = (q.note (.published message ok), ok) :=
  ⟨_, _, OnlyReceived.returned p _, rfl⟩

theorem Answers.publishOrQueue (p : RemoteCommandProcessor τ δ) (entry : PendingResponse)
    (hempty : p.outbox = []) : Answers [entry.message] p (p.publishOrQueue entry).1 := by
  obtain ⟨q, ok, hq, he⟩ := publish_eq p entry.message entry.qos
  have hqempty : q.outbox = [] := hq.outbox.trans hempty
  simp only [RemoteCommandProcessor.publishOrQueue, he]
  cases ok with
  | true =>
    rw [if_pos rfl]
    refine ⟨hq.deviceId, hq.topics, ?_, ?_, fun h => (hq.arrivals h).note rfl rfl, ?_, ?_⟩
    · exact (note_startedPayloads q _).trans ((List.append_nil _).trans hq.started)
    · exact (note_handledCommands q _).trans ((List.append_nil _).trans hq.handled)
    · exact Nat.le_trans (Nat.le_of_eq (congrArg List.length hq.outbox)) (Nat.le_add_right _ _)
    · have hout : (q.note (.published entry.message true)).outboxMessages = [] :=
        congrArg (List.map PendingResponse.message) hqempty
      have hpout : p.outboxMessages = [] := congrArg (List.map PendingResponse.message) hempty
      rw [hout, hpout, List.append_nil, List.append_nil]
      exact (note_publishedMessages q _).trans (congrArg (· ++ [entry.message]) hq.published)
  | false =>
    have hnote : OnlyReceived q (q.note (.published entry.message false)) := .note q rfl rfl rfl rfl
    have hroom : (q.note (.published entry.message false)).outbox.length < kMaxOutboxSize :=
      Nat.lt_of_le_of_lt (Nat.le_of_eq (congrArg List.length hqempty)) Nat.two_pos
    exact (hq.trans hnote).answers.trans (.enqueue _ entry hroom)

theorem Delivered.drainOutbox [ArduinoJson] {p : RemoteCommandProcessor τ δ} (h : p.Delivered) :
    p.drainOutbox.Delivered := by
  rw [RemoteCommandProcessor.drainOutbox]
  split
  · exact h
  · next front rest hout =>
    obtain ⟨q, ok, hq, he⟩ := publish_eq p front.message front.qos
    have hqd := hq.delivered h
    simp only [he]
    cases ok with
    | false =>
      have hnote : OnlyReceived q (q.note (.published front.message false)) :=
        .note q rfl rfl rfl rfl
      exact (hnote.trans (.diagnose _ _)).delivered hqd
    | true =>
      let noted := { q.note (.published front.message true) with
        lastResult :=
          if front.isTerminal then { q.lastResult with terminalPublished := true }
          else { q.lastResult with acceptedPublished := true } }
      have hnoted : OnlyReceived (q.note (.published front.message true)) noted :=
        ⟨rfl, rfl, rfl, rfl, rfl, rfl, id⟩
      let r := noted.diagnose
        { stage := if front.isTerminal then .terminalPublished else .acceptedPublished
          safeCode := front.safeCode
          commandSeq := front.commandSeq }
      change Delivered { r with outbox := r.outbox.tail }
      have hr : OnlyReceived (q.note (.published front.message true)) r :=
        hnoted.trans (.diagnose noted _)
      have hstarted : r.startedPayloads = q.startedPayloads :=
        hr.started.trans ((note_startedPayloads q _).trans (List.append_nil _))
      have hhandled : r.handledCommands = q.handledCommands :=
        hr.handled.trans ((note_handledCommands q _).trans (List.append_nil _))
      have hpublished : r.publishedMessages = q.publishedMessages ++ [front.message] :=
        hr.published.trans (note_publishedMessages q _)
      have hqout : q.outbox = front :: rest := hq.outbox.trans hout
      have hrout : r.outbox = front :: rest := hr.outbox.trans hqout
      refine ⟨hr.arrivals (hqd.arrivals.note rfl rfl), ?_, ?_⟩
      · change r.handledCommands.map _ = r.startedPayloads.filterMap _
        rw [hhandled, hstarted, hr.deviceId]
        exact hqd.handled
      · change r.publishedMessages ++ r.outbox.tail.map _ = r.handledCommands.flatMap _
        rw [hpublished, hhandled, hrout, hr.topics, List.append_assoc]
        have hresponses := hqd.responses
        rw [outboxMessages, hqout] at hresponses
        exact hresponses

theorem Answers.respondAccepted [ArduinoJson] (p : RemoteCommandProcessor τ δ)
    (accepted : CommandResponse) (terminal : PendingResponse) (hempty : p.outbox = []) :
    Answers [⟨p.topics.responsesIngest, accepted.toJson⟩, terminal.message] p
      (p.respondAccepted accepted terminal).1 := by
  let entry : PendingResponse :=
    { message := ⟨p.topics.responsesIngest, accepted.toJson⟩
      qos := .atLeastOnce
      isTerminal := false
      commandSeq := terminal.commandSeq
      safeCode := none }
  have hfirst := (Answers.publishOrQueue p entry hempty).diagnose
    { stage := if (p.publishOrQueue entry).2 then .acceptedPublished else .acceptedPending
      commandSeq := terminal.commandSeq }
  have hlength := hfirst.outbox_length
  rw [hempty] at hlength
  exact (hfirst.trans (.enqueue _ terminal (Nat.lt_succ_of_le hlength))).diagnose _

theorem Answers.respondTerminal (p : RemoteCommandProcessor τ δ)
    (terminal : PendingResponse) (hempty : p.outbox = []) :
    Answers [terminal.message] p (p.respondTerminal terminal).1 :=
  (Answers.publishOrQueue p terminal hempty).diagnose _

theorem Answers.respond [ArduinoJson] (p : RemoteCommandProcessor τ δ)
    (responses : CommandResponses) (seq : UInt32) (hempty : p.outbox = []) :
    Answers (responses.messages p.topics) p (p.respond responses seq).1 := by
  have hd := OnlyReceived.diagnoseDecision p responses seq
  have hout : (p.diagnoseDecision responses seq).outbox = [] := hd.outbox.trans hempty
  let terminal : PendingResponse :=
    { message :=
        ⟨(p.diagnoseDecision responses seq).topics.responsesIngest, responses.terminal.toJson⟩
      qos := .atLeastOnce
      isTerminal := true
      commandSeq := seq
      safeCode := some (terminalCode responses.terminal) }
  rw [RemoteCommandProcessor.respond, CommandResponses.messages, ← hd.topics]
  cases responses.accepted with
  | some accepted =>
    have hr := Answers.respondAccepted _ accepted terminal hout
    exact hd.answers.trans hr
  | none =>
    have hr := Answers.respondTerminal _ terminal hout
    exact hd.answers.trans hr

theorem Delivered.processPayload [ArduinoJson] [IDedupCache δ] (clock : ClockAnswers)
    {p : RemoteCommandProcessor τ δ} {payload : Bytes} (hempty : p.outbox = [])
    (hpending : p.Arrivals)
    (hhandled : p.handledCommands.map Prod.fst ++
        (parseCommand payload p.deviceId).command.toList =
      p.startedPayloads.filterMap fun payload => (parseCommand payload p.deviceId).command)
    (hresponses : p.publishedMessages ++ p.outboxMessages =
      p.handledCommands.flatMap fun h => h.2.messages p.topics) :
    (p.processPayload clock payload).1.Delivered := by
  rw [RemoteCommandProcessor.processPayload]
  cases hparsed : (parseCommand payload p.deviceId).command with
  | none =>
    rw [hparsed, Option.toList_none, List.append_nil] at hhandled
    have hd : Delivered { p with commandSeq := p.commandSeq + 1 } :=
      ⟨hpending, hhandled, hresponses⟩
    exact (OnlyReceived.diagnose _ _).delivered hd
  | some command =>
    rw [hparsed] at hhandled
    let responses := (handle p.handler.deviceId p.handler.dedupCache clock command).1
    let handled := { p with
      commandSeq := p.commandSeq + 1
      handler := { p.handler with
        dedupCache := (handle p.handler.deviceId p.handler.dedupCache clock command).2 } }
    let noted := handled.note (.handled command responses)
    have hr : Answers (responses.messages p.topics) noted
        (noted.respond responses (p.commandSeq + 1)).1 := .respond noted _ _ hempty
    change Delivered (noted.respond responses (p.commandSeq + 1)).1
    generalize (noted.respond responses (p.commandSeq + 1)).1 = r at *
    have hcommands : noted.handledCommands = p.handledCommands ++ [(command, responses)] :=
      note_handledCommands handled _
    have hstarted : noted.startedPayloads = p.startedPayloads :=
      (note_startedPayloads handled _).trans (List.append_nil _)
    have hpublished : noted.publishedMessages = p.publishedMessages :=
      (note_publishedMessages handled _).trans (List.append_nil _)
    refine ⟨hr.arrivals (Arrivals.note hpending rfl rfl), ?_, ?_⟩
    · rw [hr.handled, hcommands, hr.started, hstarted, hr.deviceId, List.map_append]
      exact hhandled
    · rw [hr.responses, hr.handled, hcommands, hr.topics, hpublished, List.flatMap_append,
        List.flatMap_singleton]
      exact congrArg (· ++ responses.messages p.topics) hresponses

/-- A call of `processPending` either drains the outbox or starts the oldest waiting payload. -/
theorem Delivered.processPending [ArduinoJson] [IDedupCache δ] (clock : ClockAnswers)
    {p : RemoteCommandProcessor τ δ} (h : p.Delivered) : (p.processPending clock).Delivered := by
  rw [RemoteCommandProcessor.processPending]
  split
  · exact h.drainOutbox
  · next hout =>
    split
    · exact h
    · next payload rest hwaiting =>
      let started := { p with pendingPayloads := rest }.note (.started payload)
      have hstarted : started.startedPayloads = p.startedPayloads ++ [payload] :=
        note_startedPayloads { p with pendingPayloads := rest } _
      have hhandled : started.handledCommands = p.handledCommands :=
        (note_handledCommands { p with pendingPayloads := rest } _).trans (List.append_nil _)
      have hpublished : started.publishedMessages = p.publishedMessages :=
        (note_publishedMessages { p with pendingPayloads := rest } _).trans (List.append_nil _)
      have haccepted : started.acceptedPayloads = p.acceptedPayloads :=
        (note_acceptedPayloads { p with pendingPayloads := rest } _).trans (List.append_nil _)
      have hempty : started.outbox = [] := not_not.mp hout
      have hd : (started.processPayload clock payload).1.Delivered := by
        apply Delivered.processPayload clock hempty
        · have harrivals := h.arrivals
          rw [Arrivals, hwaiting] at harrivals
          rw [Arrivals, haccepted, hstarted, List.append_assoc]
          exact harrivals
        · rw [hhandled, hstarted, filterMap_concat, h.handled]
          rfl
        · rw [hpublished, hhandled]
          exact h.responses
      exact ⟨hd.arrivals, hd.handled, hd.responses⟩

end Publishing

/-- What happens around a processor: its callback is called, or the main loop calls it. -/
inductive Input where
  | deliver (message : MqttMessage)
  | subscribe
  | processPending (clock : ClockAnswers)

def step [ArduinoJson] [IDeviceTransport τ] [IDedupCache δ] (p : RemoteCommandProcessor τ δ) :
    Input → RemoteCommandProcessor τ δ
  | .deliver message => p.onMessage message
  | .subscribe => p.subscribe.1
  | .processPending clock => p.processPending clock

theorem Delivered.step [ArduinoJson] [IDeviceTransport τ] [IDedupCache δ]
    {p : RemoteCommandProcessor τ δ} (h : p.Delivered) (input : Input) :
    (p.step input).Delivered := by
  cases input with
  | deliver message => exact (OnlyReceived.onMessage p message).delivered h
  | subscribe => exact (OnlyReceived.returned p _).delivered h
  | processPending clock => exact h.processPending clock

/-- A payload delivered while four wait is dropped, and those that wait stay as they are. -/
theorem onMessage_pendingPayloads_of_full {p : RemoteCommandProcessor τ δ}
    (h : kMaxPendingCommands ≤ p.pendingPayloads.length) (message : MqttMessage) :
    (p.onMessage message).pendingPayloads = p.pendingPayloads := by
  have hp := diagnose_pendingPayloads (p.note (.received message p.pendingPayloads.length))
    { stage := .received }
  rw [onMessage]
  split
  · exact hp
  · rw [if_pos (h.trans_eq (congrArg List.length hp.symm))]
    exact hp

end RemoteCommandProcessor

open RemoteCommandProcessor

/-- Through every run, whatever the transport answers, accepted payloads are started in order and
handled once each if they parse, and the responses published so far followed by those in the outbox
are exactly the responses computed for the started commands. -/
theorem responses_delivered_in_order [ArduinoJson] [IDeviceTransport τ] [IDedupCache δ]
    (deviceId : Bytes) (transport : τ) (handler : CommandHandler δ) (topics : MqttTopics)
    (hasDiagnosticCallback : Bool) (inputs : List RemoteCommandProcessor.Input) :
    let p := inputs.foldl RemoteCommandProcessor.step
      { deviceId, transport, handler, topics, hasDiagnosticCallback }
    p.acceptedPayloads = p.startedPayloads ++ p.pendingPayloads ∧
    p.handledCommands.map Prod.fst =
      p.startedPayloads.filterMap (fun payload => (parseCommand payload p.deviceId).command) ∧
    p.publishedMessages ++ p.outbox.map PendingResponse.message =
      p.handledCommands.flatMap (fun h => h.2.messages p.topics) ∧
    p.publishedMessages <+: p.handledCommands.flatMap (fun h => h.2.messages p.topics) ∧
    (kMaxPendingCommands ≤ p.pendingPayloads.length →
      ∀ message, (p.onMessage message).pendingPayloads = p.pendingPayloads) := by
  intro p
  have hp : p.Delivered :=
    List.foldlRecOn inputs _ ⟨rfl, rfl, rfl⟩ fun _ h input _ => h.step input
  refine ⟨hp.arrivals, hp.handled, hp.responses, ?_, onMessage_pendingPayloads_of_full⟩
  rw [← hp.responses]
  exact List.prefix_append _ _

end InterBridge
