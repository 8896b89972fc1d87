import InterBridge.MainLoop.ProcessorRuns
import InterBridge.Network.ClientLink
import InterBridge.Network.OutgoingMessages

namespace InterBridge
open Foundations
set_option autoImplicit true

/-- All that a call hands over is as `R` says. -/
def TransportReply.Hands (R : MqttMessage → Prop) (reply : TransportReply τ) : Prop :=
  ∀ message ∈ reply.inbound, R message

namespace TransportReply.Hands
variable {R : MqttMessage → Prop}

theorem pure (transport : τ) (ok : Bool) : (TransportReply.pure transport ok).Hands R :=
  List.forall_mem_nil _

theorem bind {reply : TransportReply τ} {next : Bool → τ → TransportReply τ} (h : reply.Hands R)
    (hnext : ∀ ok transport, (next ok transport).Hands R) : (reply.bind next).Hands R :=
  List.forall_mem_append.mpr ⟨h, hnext _ _⟩

end TransportReply.Hands

/-- Whatever it is asked, the client hands over what `R` says. -/
def HandsOver (κ : Type) [IMqttClient κ] (R : MqttMessage → Prop) : Prop :=
  ∀ client : κ, ∀ call, (IMqttClient.call client call).Hands R

namespace HandsOver
variable [IMqttClient κ] {R : MqttMessage → Prop}

theorem ask (h : HandsOver κ R) (t : Esp32AwsIotTransport κ) (call : MqttClientCall) :
    (t.ask call).Hands R := by
  intro message hmessage
  rw [Esp32AwsIotTransport.ask] at hmessage
  dsimp only at hmessage
  split at hmessage
  · exact h t.client call message hmessage
  · exact absurd hmessage List.not_mem_nil

theorem isConnected (h : HandsOver κ R) (t : Esp32AwsIotTransport κ) : t.isConnected.Hands R := by
  rw [Esp32AwsIotTransport.isConnected]
  split
  · exact h.ask t .connected
  · exact .pure t false

theorem openSession (h : HandsOver κ R) (t : Esp32AwsIotTransport κ) (clientId : Bytes) :
    (t.openSession clientId).Hands R := by
  refine (h.ask t .setMessageCallback).bind fun _ t => (h.ask t _).bind fun configured t => ?_
  split
  · exact .pure t false
  refine (h.ask t _).bind fun connected t => ?_
  split
  · exact .pure t false
  · exact .pure _ true

theorem reply (h : HandsOver κ R) (t : Esp32AwsIotTransport κ) (call : TransportCall) :
    (t.reply call).Hands R := by
  cases call with
  | connect credentials clientId =>
    refine (h.ask t .disconnect).bind fun _ t => ?_
    dsimp only
    split
    · exact .pure _ false
    split
    · split
      · exact .pure _ false
      · exact h.openSession _ clientId
    · exact .pure _ false
  | disconnect => exact (h.ask t .disconnect).bind fun _ t => .pure _ true
  | publish message qos =>
    refine (h.isConnected t).bind fun connected t => ?_
    split
    · exact .pure t false
    refine (h.ask t _).bind fun ok t => ?_
    split
    · exact .pure t true
    · exact .pure _ false
  | subscribe topic qos =>
    refine (h.isConnected t).bind fun connected t => ?_
    split
    · exact .pure _ false
    refine (h.ask t _).bind fun ok t => ?_
    split
    · exact .pure _ true
    · exact .pure _ false
  | poll =>
    refine (h.isConnected t).bind fun connected t => ?_
    split
    · exact .pure t true
    refine (h.ask t _).bind fun _ t => (h.ask t _).bind fun connected t => ?_
    split
    · exact .pure t true
    · exact .pure _ true
  | isConnected => exact h.isConnected t

end HandsOver

/-- Nothing was asked of the processor: none of what waits is a command. -/
structure Unasked [ArduinoJson] (deviceId : Bytes) (handler : CommandHandler δ)
    (p : RemoteCommandProcessor τ δ) : Prop where
  named : p.deviceId = deviceId
  handler : p.handler = handler
  outbox : p.outbox = []
  handled : p.handledCommands = []
  published : p.publishedMessages = []
  waiting : ∀ payload ∈ p.pendingPayloads, (parseCommand payload deviceId).command = none

namespace Unasked
variable [ArduinoJson] {p q : RemoteCommandProcessor τ δ} {handler : CommandHandler δ}

theorem received (h : Unasked deviceId handler p) (hreceived : p.OnlyReceived q)
    (hhandler : q.handler = p.handler)
    (hwaiting : ∀ payload ∈ q.pendingPayloads, (parseCommand payload deviceId).command = none) :
    Unasked deviceId handler q :=
  ⟨hreceived.deviceId.trans h.named, hhandler.trans h.handler, hreceived.outbox.trans h.outbox,
    hreceived.handled.trans h.handled, hreceived.published.trans h.published, hwaiting⟩

theorem onMessage (h : Unasked deviceId handler p)
    (hmessage : (parseCommand message.payload deviceId).command = none) :
    Unasked deviceId handler (p.onMessage message) := by
  have hhandler : (p.onMessage message).handler = p.handler := by
    obtain ⟨_, _, _, hmessage⟩ := p.onMessage_frame message
    rw [hmessage]
  apply h.received (.onMessage p message) hhandler
  have hpending := RemoteCommandProcessor.diagnose_pendingPayloads
    (p.note (.received message p.pendingPayloads.length)) { stage := .received }
  rw [RemoteCommandProcessor.onMessage]
  split
  · rw [hpending]
    exact h.waiting
  split
  · rw [hpending]
    exact h.waiting
  · rw [hpending, List.forall_mem_append, List.forall_mem_singleton]
    exact ⟨h.waiting, hmessage⟩

theorem returned (h : Unasked deviceId handler p) {reply : TransportReply τ}
    (hreply : reply.Hands fun message => (parseCommand message.payload deviceId).command = none) :
    Unasked deviceId handler (p.returned reply) := by
  apply List.foldlRecOn (motive := Unasked deviceId handler) reply.inbound
    RemoteCommandProcessor.onMessage
  · exact ⟨h.named, h.handler, h.outbox, h.handled, h.published, h.waiting⟩
  · intro q hq message hmessage
    exact hq.onMessage (hreply message hmessage)

theorem processPayload [IDeviceTransport τ] [IDedupCache δ] (h : Unasked deviceId handler p)
    (clock : ClockAnswers) (hpayload : (parseCommand payload deviceId).command = none) :
    Unasked deviceId handler (p.processPayload clock payload).1 := by
  have hcounted : p.OnlyReceived { p with commandSeq := p.commandSeq + 1 } :=
    ⟨rfl, rfl, rfl, rfl, rfl, rfl, id⟩
  rw [← h.named] at hpayload
  rw [RemoteCommandProcessor.processPayload, hpayload]
  apply h.received (hcounted.trans (.diagnose _ _))
  · rw [RemoteCommandProcessor.diagnose_eq]
  · rw [RemoteCommandProcessor.diagnose_eq]
    exact h.waiting

theorem processPending [IDeviceTransport τ] [IDedupCache δ] (h : Unasked deviceId handler p)
    (clock : ClockAnswers) : Unasked deviceId handler (p.processPending clock) := by
  rw [RemoteCommandProcessor.processPending, if_neg (not_not.mpr h.outbox)]
  split
  · exact h
  next payload rest hwaiting =>
    have hpayloads := h.waiting
    rw [hwaiting, List.forall_mem_cons] at hpayloads
    have htaken : Unasked deviceId handler
        ({ p with pendingPayloads := rest }.note (.started payload)) := by
      refine ⟨h.named, h.handler, h.outbox, ?_, ?_, hpayloads.2⟩
      · exact (RemoteCommandProcessor.note_handledCommands _ _).trans
          ((List.append_nil _).trans h.handled)
      · exact (RemoteCommandProcessor.note_publishedMessages _ _).trans
          ((List.append_nil _).trans h.published)
    have hdone := htaken.processPayload clock hpayloads.1
    exact ⟨hdone.named, hdone.handler, hdone.outbox, hdone.handled, hdone.published, hdone.waiting⟩

theorem keptByProcessor [IMqttClient κ] [IDedupCache δ]
    (h : HandsOver κ fun message => (parseCommand message.payload deviceId).command = none) :
    KeptByProcessor (κ := κ) (Unasked deviceId handler) :=
  ⟨fun p call hp => hp.returned (h.reply p.transport call), fun _ clock hp =>
    hp.processPending clock⟩

end Unasked

/-- A message with the text of one that a device could have said itself, on any topic. -/
def IsEcho [ArduinoJson] (message : MqttMessage) : Prop :=
  ∃ said : Outgoing, said.Proper ∧ message.payload = said.toJson

/-- Over every run of `updateNetwork`: as long as the client hands over nothing but what a device
says, no command is handled, the command cache stays as it was, and no response is published. -/
theorem echoes_ignored [IMqttClient κ] [IDedupCache δ] [IEventOutbox ω] [ArduinoJson]
    (hj : ArduinoJson.RoundTrips) (hechoes : HandsOver κ IsEcho) (topics : MqttTopics)
    (hnamed : topics.deviceId ≠ []) (config : AwsIotConnectionConfig) (client : κ)
    (credentialStore : DeviceCredentialStore) (provisioned : Bool) (dedupCache : δ)
    (eventOutbox : ω) (inputs : List NetworkInput) :
    let p := (finalState MainLoop.updateNetwork (.setup topics config client credentialStore
      provisioned dedupCache eventOutbox : MainLoop κ δ ω) inputs).remoteCommandProcessor
    p.handledCommands = [] ∧ p.handler.dedupCache = dedupCache ∧ p.outbox = [] ∧
      p.publishedMessages = [] := by
  have hparsed : HandsOver κ fun message =>
      (parseCommand message.payload topics.deviceId).command = none := by
    intro client call message hmessage
    obtain ⟨said, hproper, hpayload⟩ := hechoes client call message hmessage
    rw [hpayload]
    exact Outgoing.parseCommand_toJson hj hproper hnamed
  have hstart : Unasked topics.deviceId ⟨topics.deviceId, dedupCache⟩
      (MainLoop.setup topics config client credentialStore provisioned dedupCache eventOutbox :
        MainLoop κ δ ω).remoteCommandProcessor :=
    ⟨rfl, rfl, rfl, rfl, rfl, List.forall_mem_nil _⟩
  intro p
  have hrun := (Unasked.keptByProcessor hparsed).run hstart inputs
  exact ⟨hrun.handled, congrArg CommandHandler.dedupCache hrun.handler, hrun.outbox,
    hrun.published⟩

/-- A client that hands over a ring with each poll, on the topic for commands. -/
structure EchoingClient where
  up : Bool

instance : IMqttClient EchoingClient where
  call client call :=
    letI := compactJson
    match call with
    | .poll => ⟨client, [⟨provisionedTopics.commands, quietRing.toJson⟩], client.up⟩
    | _ => .pure { client with up := call.link client.up } (call.answer client.up)

theorem echoingClient_handsOver : letI := compactJson; HandsOver EchoingClient IsEcho := by
  intro client call
  cases call with
  | poll => exact List.forall_mem_singleton.mpr ⟨.event quietRing, trivial, rfl⟩
  | _ => exact List.forall_mem_nil _

theorem ringEchoed_ignored :
    letI := compactJson
    let p := (finalState MainLoop.updateNetwork (.setup provisionedTopics
      Esp32AwsIotTransport.awsConfig (⟨false⟩ : EchoingClient) provisionedCredentials true
      (InMemoryDedupCache.new kDefaultDedupCacheCapacity) ({} : MemoryEventOutbox))
      [{ MainLoop.callAt 5 ⟨0, 0, 0, 0⟩ with meanwhile := [.wifiBegun] },
        MainLoop.callAt 6 ⟨0, 0, 0, 0⟩]).remoteCommandProcessor
    p.acceptedPayloads = [quietRing.toJson] ∧ p.startedPayloads = [quietRing.toJson] ∧
      p.publishedMessages = [] :=
  letI := compactJson
  ⟨by decide +kernel, by decide +kernel, (echoes_ignored compactJson_roundTrips
    echoingClient_handsOver provisionedTopics (by decide) Esp32AwsIotTransport.awsConfig
    (⟨false⟩ : EchoingClient) provisionedCredentials true
    (InMemoryDedupCache.new kDefaultDedupCacheCapacity) ({} : MemoryEventOutbox) _).2.2.2⟩

end InterBridge
