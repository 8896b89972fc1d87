import InterBridge.Network.DeviceTransport
import InterBridge.Network.MqttTopics
import InterBridge.Protocol.CommandHandler
import InterBridge.Protocol.ParseCommand

namespace InterBridge
open Foundations
set_option autoImplicit true

def kMaxPendingCommands : Nat := 4

def kMaxOutboxSize : Nat := 2

structure CommandPublishResult where
  parsed : Bool := false
  acceptedPublished : Bool := false
  terminalPublished : Bool := false
  deriving DecidableEq

inductive CommandDiagnosticStage where
  | received | validationPassed | rejected | acceptedPublished | acceptedPending
  | acceptedPublishFailed | terminalPublished | terminalDeferred | terminalQueuedBehindAccepted
  | terminalPublishFailed
  deriving DecidableEq

structure CommandDiagnostic where
  stage : CommandDiagnosticStage
  safeCode : Option Bytes := none
  ageSeconds : Int64 := 0
  remainingSeconds : Int64 := 0
  commandSeq : UInt32 := 0
  deriving DecidableEq

structure PendingResponse where
  message : MqttMessage
  qos : MqttQos
  isTerminal : Bool
  commandSeq : UInt32
  safeCode : Option Bytes
  deriving DecidableEq

structure CommandHandler (δ : Type) where
  deviceId : Bytes
  dedupCache : δ

/-- What a processor does that can be observed from outside, in order. -/
inductive ProcessorEvent where
  | received (message : MqttMessage) (waiting : Nat)
  | started (payload : Bytes)
  | handled (command : DeviceCommand) (responses : CommandResponses)
  | published (message : MqttMessage) (ok : Bool)
  | diagnosed (diagnostic : CommandDiagnostic)

/-- The processor with the transport and the handler it refers to. Its log is not part of the
source: it records what happened so far. -/
structure RemoteCommandProcessor (τ δ : Type) where
  deviceId : Bytes
  transport : τ
  handler : CommandHandler δ
  topics : MqttTopics
  lastResult : CommandPublishResult := {}
  pendingPayloads : List Bytes := []
  outbox : List PendingResponse := []
  commandSeq : UInt32 := 0
  hasDiagnosticCallback : Bool := false
  log : List ProcessorEvent := []

namespace RemoteCommandProcessor

def note (p : RemoteCommandProcessor τ δ) (event : ProcessorEvent) : RemoteCommandProcessor τ δ :=
  { p with log := p.log ++ [event] }

def diagnose (p : RemoteCommandProcessor τ δ) (diagnostic : CommandDiagnostic) :
    RemoteCommandProcessor τ δ :=
  if p.hasDiagnosticCallback then p.note (.diagnosed diagnostic) else p

/-- The callback registered by `subscribe`. -/
def onMessage (p : RemoteCommandProcessor τ δ) (message : MqttMessage) :
    RemoteCommandProcessor τ δ :=
  let p := (p.note (.received message p.pendingPayloads.length)).diagnose { stage := .received }
  if message.topic ≠ p.topics.commands ∨ kMaxJsonPayloadBytes < message.payload.length then
    { p with lastResult := {} }
  else if kMaxPendingCommands ≤ p.pendingPayloads.length then p
  else { p with pendingPayloads := p.pendingPayloads ++ [message.payload] }

/-- A call into the transport returned: the messages it delivered meanwhile come first. -/
def returned (p : RemoteCommandProcessor τ δ) (reply : TransportReply τ) :
    RemoteCommandProcessor τ δ :=
  reply.inbound.foldl onMessage { p with transport := reply.transport }

theorem diagnose_frame (p : RemoteCommandProcessor τ δ) (diagnostic : CommandDiagnostic) :
    ∃ log, p.diagnose diagnostic = { p with log := log } := by
  rw [diagnose]
  split
  · exact ⟨_, rfl⟩
  · exact ⟨_, rfl⟩

/-- The callback leaves everything but its queue, its result and the log alone. -/
theorem onMessage_frame (p : RemoteCommandProcessor τ δ) (message : MqttMessage) :
    ∃ result payloads log, p.onMessage message =
      { p with lastResult := result, pendingPayloads := payloads, log := log } := by
  obtain ⟨_, hdiagnosed⟩ := (p.note (.received message p.pendingPayloads.length)).diagnose_frame
    { stage := .received }
  rw [onMessage, hdiagnosed]
  dsimp only
  split
  · exact ⟨_, _, _, rfl⟩
  split
  · exact ⟨_, _, _, rfl⟩
  · exact ⟨_, _, _, rfl⟩

theorem returned_frame (p : RemoteCommandProcessor τ δ) (reply : TransportReply τ) :
    ∃ result payloads log, p.returned reply =
      { p with
        transport := reply.transport, lastResult := result, pendingPayloads := payloads
        log := log } := by
  apply List.foldlRecOn (motive := fun q : RemoteCommandProcessor τ δ => ∃ result payloads log,
    q = { p with
      transport := reply.transport, lastResult := result, pendingPayloads := payloads
      log := log }) reply.inbound onMessage
  · exact ⟨_, _, _, rfl⟩
  · rintro _ ⟨_, _, _, rfl⟩ message _
    obtain ⟨_, _, _, hmessage⟩ := onMessage_frame _ message
    exact ⟨_, _, _, hmessage⟩

theorem returned_transport (p : RemoteCommandProcessor τ δ) (reply : TransportReply τ) :
    (p.returned reply).transport = reply.transport := by
  obtain ⟨_, _, _, hreturned⟩ := p.returned_frame reply
  rw [hreturned]

theorem returned_topics (p : RemoteCommandProcessor τ δ) (reply : TransportReply τ) :
    (p.returned reply).topics = p.topics := by
  obtain ⟨_, _, _, hreturned⟩ := p.returned_frame reply
  rw [hreturned]

theorem returned_deviceId (p : RemoteCommandProcessor τ δ) (reply : TransportReply τ) :
    (p.returned reply).deviceId = p.deviceId := by
  obtain ⟨_, _, _, hreturned⟩ := p.returned_frame reply
  rw [hreturned]

def enqueue (p : RemoteCommandProcessor τ δ) (entry : PendingResponse) :
    RemoteCommandProcessor τ δ × Bool :=
  if kMaxOutboxSize ≤ p.outbox.length then (p, false)
  else ({ p with outbox := p.outbox ++ [entry] }, true)

variable [IDeviceTransport τ]

def subscribe (p : RemoteCommandProcessor τ δ) : RemoteCommandProcessor τ δ × Bool :=
  let reply := IDeviceTransport.subscribe p.transport p.topics.commands .atLeastOnce
  (p.returned reply, reply.ok)

def publish (p : RemoteCommandProcessor τ δ) (message : MqttMessage) (qos : MqttQos) :
    RemoteCommandProcessor τ δ × Bool :=
  let reply := IDeviceTransport.publish p.transport message qos
  ((p.returned reply).note (.published message reply.ok), reply.ok)

def publishOrQueue (p : RemoteCommandProcessor τ δ) (entry : PendingResponse) :
    RemoteCommandProcessor τ δ × Bool :=
  let (p, ok) := p.publish entry.message entry.qos
  if ok then (p, true) else ((p.enqueue entry).1, false)

def drainOutbox (p : RemoteCommandProcessor τ δ) : RemoteCommandProcessor τ δ :=
  match p.outbox with
  | [] => p
  | front :: _ =>
    let (p, ok) := p.publish front.message front.qos
    if !ok then
      p.diagnose
        { stage := if front.isTerminal then .terminalPublishFailed else .acceptedPublishFailed
          safeCode := front.safeCode
          commandSeq := front.commandSeq }
    else
      let p := { p with
        lastResult :=
          if front.isTerminal then { p.lastResult with terminalPublished := true }
          else { p.lastResult with acceptedPublished := true } }
      let p := p.diagnose
        { stage := if front.isTerminal then .terminalPublished else .acceptedPublished
          safeCode := front.safeCode
          commandSeq := front.commandSeq }
      { p with outbox := p.outbox.tail }

/-- The diagnostic about what the handler decided. -/
def decisionDiagnostic (responses : CommandResponses) (seq : UInt32) : Option CommandDiagnostic :=
  if responses.timeValidationPassed then
    some { stage := .validationPassed
           ageSeconds := responses.ageSeconds
           remainingSeconds := responses.remainingSeconds
           commandSeq := seq }
  else
    responses.terminal.error.map fun error =>
      { stage := .rejected, safeCode := some error.code.toString, commandSeq := seq }

def diagnoseDecision (p : RemoteCommandProcessor τ δ) (responses : CommandResponses)
    (seq : UInt32) : RemoteCommandProcessor τ δ :=
  match decisionDiagnostic responses seq with
  | some diagnostic => p.diagnose diagnostic
  | none => p

/-- The code a terminal response is reported with. -/
def terminalCode (terminal : CommandResponse) : Bytes :=
  match terminal.error with
  | some error => error.code.toString
  | none => terminal.status.toString

variable [ArduinoJson]

/-- The responses of a command whose `ACCEPTED` is published first. -/
def respondAccepted (p : RemoteCommandProcessor τ δ) (accepted : CommandResponse)
    (terminal : PendingResponse) : RemoteCommandProcessor τ δ × CommandPublishResult :=
  let (p, acceptedPublished) := p.publishOrQueue
    { message := ⟨p.topics.responsesIngest, accepted.toJson⟩
      qos := .atLeastOnce
      isTerminal := false
      commandSeq := terminal.commandSeq
      safeCode := none }
  let p := p.diagnose
    { stage := if acceptedPublished then .acceptedPublished else .acceptedPending
      commandSeq := terminal.commandSeq }
  let (p, _) := p.enqueue terminal
  let p := p.diagnose
    { stage := if acceptedPublished then .terminalDeferred else .terminalQueuedBehindAccepted
      safeCode := terminal.safeCode
      commandSeq := terminal.commandSeq }
  (p, { parsed := true, acceptedPublished := acceptedPublished })

/-- The response of a command with only a terminal one. -/
def respondTerminal (p : RemoteCommandProcessor τ δ) (terminal : PendingResponse) :
    RemoteCommandProcessor τ δ × CommandPublishResult :=
  let (p, terminalPublished) := p.publishOrQueue terminal
  let p := p.diagnose
    { stage := if terminalPublished then .terminalPublished else .terminalPublishFailed
      safeCode := terminal.safeCode
      commandSeq := terminal.commandSeq }
  (p, { parsed := true, terminalPublished := terminalPublished })

/-- What is done with the responses of a command that was handled. -/
def respond (p : RemoteCommandProcessor τ δ) (responses : CommandResponses) (seq : UInt32) :
    RemoteCommandProcessor τ δ × CommandPublishResult :=
  let p := p.diagnoseDecision responses seq
  let terminal : PendingResponse :=
    { message := ⟨p.topics.responsesIngest, responses.terminal.toJson⟩
      qos := .atLeastOnce
      isTerminal := true
      commandSeq := seq
      safeCode := some (terminalCode responses.terminal) }
  match responses.accepted with
  | some accepted => p.respondAccepted accepted terminal
  | none => p.respondTerminal terminal

variable [IDedupCache δ]

def processPayload (clock : ClockAnswers) (p : RemoteCommandProcessor τ δ) (payload : Bytes) :
    RemoteCommandProcessor τ δ × CommandPublishResult :=
  let seq := p.commandSeq + 1
  let p := { p with commandSeq := seq }
  match (parseCommand payload p.deviceId).command with
  | none =>
    (p.diagnose
      { stage := .rejected, safeCode := some (ascii "MESSAGE_INVALID"), commandSeq := seq }, {})
  | some command =>
    let (responses, cache) := handle p.handler.deviceId p.handler.dedupCache clock command
    let p := { p with handler := { p.handler with dedupCache := cache } }
    (p.note (.handled command responses)).respond responses seq

def processPending (clock : ClockAnswers) (p : RemoteCommandProcessor τ δ) :
    RemoteCommandProcessor τ δ :=
  if p.outbox ≠ [] then p.drainOutbox
  else
    match p.pendingPayloads with
    | [] => p
    | payload :: rest =>
      let p := { p with pendingPayloads := rest }.note (.started payload)
      let (p, result) := p.processPayload clock payload
      { p with lastResult := result }

end RemoteCommandProcessor
end InterBridge
