import InterBridge.MainLoop.Subscription
import InterBridge.Network.AcceptedMessages
import InterBridge.Network.TopicNames
import InterBridge.Protocol.ProcessorTransport

namespace InterBridge
open Foundations
set_option autoImplicit true

/-- What the main loop does on its transport, short of publishing events and reports, keeps `P`,
which is told whether a subscription is remembered. -/
structure KeptByLoop [IMqttClient κ] [ArduinoJson] (topics : MqttTopics)
    (P : Bool → Esp32AwsIotTransport κ → Prop) : Prop where
  isConnected : ∀ remembered t, P remembered t → P remembered t.isConnected.transport
  disconnect : ∀ remembered t, P remembered t → P false t.disconnect.transport
  poll : ∀ remembered t, P remembered t → P remembered t.poll.transport
  response : ∀ remembered, KeptByResponses topics.deviceId topics (P remembered)
  opened : ∀ remembered t credentials, P remembered t →
    P false (t.connect credentials topics.deviceId).transport
  refused : ∀ remembered t credentials, P remembered t →
    (t.connect credentials topics.deviceId).ok = false →
    P remembered (t.connect credentials topics.deviceId).transport
  subscribe : ∀ remembered t, P remembered t →
    P true (t.subscribe topics.commands .atLeastOnce).transport
  forget : ∀ remembered t, P true t → P remembered t

/-- Publishing an event keeps `P` too, -/
def KeptByEvents [IMqttClient κ] (topics : MqttTopics) (P : Esp32AwsIotTransport κ → Prop) : Prop :=
  ∀ t payload, P t → P (t.publish ⟨topics.eventsIngest, payload⟩ .atLeastOnce).transport

/-- and so does reporting the health. -/
structure KeptByReports [IMqttClient κ] [ArduinoJson] (topics : MqttTopics)
    (P : Esp32AwsIotTransport κ → Prop) : Prop where
  health : ∀ t (report : HealthReport), report.deviceId = topics.deviceId → P t →
    P (t.publish ⟨topics.healthIngest, report.toJson⟩ .atMostOnce).transport
  shadow : ∀ t state, P t →
    P (t.publish ⟨topics.shadowUpdate, buildReportedUpdate state⟩ .atLeastOnce).transport

/-- The main loop of the device with these topics, and its transport as `P` says. -/
structure MainHolds [ArduinoJson] (topics : MqttTopics) (P : Esp32AwsIotTransport κ → Prop)
    (m : MainLoop κ δ ω) : Prop where
  named : m.remoteCommandProcessor.deviceId = topics.deviceId
  answers : AnswersOver P topics.deviceId topics m.remoteCommandProcessor

namespace MainLoop

/-- The main loop as `setup` leaves it, with what was loaded from the store. -/
def setup (topics : MqttTopics) (config : AwsIotConnectionConfig) (client : κ)
    (credentialStore : DeviceCredentialStore) (provisioned : Bool) (dedupCache : δ)
    (eventOutbox : ω) : MainLoop κ δ ω where
  credentialStore := credentialStore
  provisioned := provisioned
  remoteCommandProcessor := {
    deviceId := topics.deviceId
    transport := { config := config, client := client }
    handler := ⟨topics.deviceId, dedupCache⟩
    topics := topics }
  eventOutbox := eventOutbox

variable [IMqttClient κ] [IDedupCache δ] [IEventOutbox ω] [ArduinoJson]

/-- The state in which a session is ready to be flushed to. -/
def readied (m : MainLoop κ δ ω) (input : NetworkInput) : MainLoop κ δ ω :=
  (m.pollAndProcess input).restoreSubscription.1

/-- The state in which this call of `updateNetwork` begins its flush, if it comes to that. -/
def flushedFrom (m : MainLoop κ δ ω) (input : NetworkInput) : Option (MainLoop κ δ ω) :=
  if !(m.wifiUpdated input).wifiManager.isConnected then none
  else if (m.wifiUpdated input).transport.isConnected.ok then some ((m.atGate input).readied input)
  else if ms32 input.atMs < (m.atGate input).nextConnectAttemptAtMs then none
  else if (m.atGate input).connect.ok then some ((m.atGate input).sessionOpened.readied input)
  else none

theorem updateNetwork_flushed {m start : MainLoop κ δ ω} (h : m.flushedFrom input = some start) :
    (m.updateNetwork input).1 =
      start.flushOutbox.reportHealth (ms32 input.healthAtMs) (ms32 input.uptimeAtMs) := by
  rw [flushedFrom] at h
  rw [updateNetwork]
  split at h
  · cases h
  next hwifi =>
    rw [if_neg hwifi]
    split at h
    next hconnected =>
      rw [if_pos hconnected]
      cases h
      rfl
    next hdown =>
      rw [if_neg hdown]
      split at h
      · cases h
      next hdue =>
        rw [if_neg hdue]
        split at h
        next hopened =>
          rw [attemptConnect_accepted hopened]
          cases h
          rfl
        · cases h

omit [IDedupCache δ] [IEventOutbox ω] in
theorem reportHealth_eventOutbox (m : MainLoop κ δ ω) (nowMs uptimeMs : UInt32) :
    (m.reportHealth nowMs uptimeMs).eventOutbox = m.eventOutbox := by
  rw [reportHealth]
  dsimp only
  split
  · rfl
  · rfl

end MainLoop

/-- A device that was provisioned. -/
def provisionedTopics : MqttTopics :=
  ⟨ascii "ib-0123456789abcdef0123456789abcdef", [], [], ascii "interbridge"⟩

def provisionedCredentials : DeviceCredentialStore :=
  (PersistentStore.empty.set kCertificateKey (ascii "certificate")).set kPrivateKeyKey
    (ascii "private key")

namespace MainHolds
variable [ArduinoJson] {topics : MqttTopics} {P Q : Esp32AwsIotTransport κ → Prop}
  {m : MainLoop κ δ ω}

theorem of_eq {n : MainLoop κ δ ω} (h : MainHolds topics P m)
    (hprocessor : n.remoteCommandProcessor = m.remoteCommandProcessor) :
    MainHolds topics P n := by
  constructor
  · rw [hprocessor]
    exact h.named
  · rw [hprocessor]
    exact h.answers

theorem onTransport (h : MainHolds topics P m) : P m.transport := h.answers.onTransport

theorem mono (h : MainHolds topics P m) (hP : Q m.transport) : MainHolds topics Q m :=
  ⟨h.named, h.answers.onTopics, h.answers.named, hP, h.answers.waiting⟩

theorem returned (h : MainHolds topics P m) {reply : TransportReply (Esp32AwsIotTransport κ)}
    (hreply : Q reply.transport) : MainHolds topics Q (m.returned reply) :=
  ⟨(m.remoteCommandProcessor.returned_deviceId reply).trans h.named, h.answers.returned hreply⟩

theorem setup {config : AwsIotConnectionConfig} {client : κ}
    (h : P { config := config, client := client }) (topics : MqttTopics)
    (credentialStore : DeviceCredentialStore) (provisioned : Bool) (dedupCache : δ)
    (eventOutbox : ω) : MainHolds topics P
      (.setup topics config client credentialStore provisioned dedupCache eventOutbox) :=
  ⟨rfl, rfl, rfl, h, List.forall_mem_nil _⟩

theorem wifiUpdated [IEventOutbox ω] (h : MainHolds topics P m) (input : NetworkInput) :
    MainHolds topics P (m.wifiUpdated input) := by
  have hrest : MainHolds topics P (input.meanwhile.foldl MainLoop.afterRest m) := by
    apply List.foldlRecOn (motive := MainHolds topics P) input.meanwhile MainLoop.afterRest h
    intro n hn rest _
    cases rest with
    | _ => exact hn.of_eq rfl
  exact hrest.of_eq rfl

section Kept
variable [IMqttClient κ] {P : Bool → Esp32AwsIotTransport κ → Prop}

theorem restoreSubscription (h : MainHolds topics (P m.subscribedToCommands) m)
    (hP : KeptByLoop topics P) : MainHolds topics (P true) m.restoreSubscription.1 := by
  rw [MainLoop.restoreSubscription]
  split
  next hremembered =>
    rw [hremembered] at h
    exact h
  next =>
    have hsubscribed : P true (m.transport.subscribe m.remoteCommandProcessor.topics.commands
        .atLeastOnce).transport := by
      rw [h.answers.onTopics]
      exact hP.subscribe _ _ h.onTransport
    exact (h.returned hsubscribed).of_eq rfl

theorem leaveNetwork (h : MainHolds topics (P m.subscribedToCommands) m)
    (hP : KeptByLoop topics P) :
    MainHolds topics (P m.leaveNetwork.subscribedToCommands) m.leaveNetwork := by
  have hasked := h.returned (hP.isConnected _ _ h.onTransport)
  rw [MainLoop.leaveNetwork]
  dsimp only
  split
  · exact (hasked.returned (hP.disconnect _ _ hasked.onTransport)).of_eq rfl
  · exact hasked

theorem reportHealth {P : Esp32AwsIotTransport κ → Prop} (h : MainHolds topics P m)
    (hP : KeptByReports topics P) (nowMs uptimeMs : UInt32) :
    MainHolds topics P (m.reportHealth nowMs uptimeMs) := by
  have hdue : MainHolds topics P
      { m with healthReporter := (m.healthReporter.isDue nowMs).1 } := h.of_eq rfl
  rw [MainLoop.reportHealth]
  dsimp only
  split
  · rw [h.answers.onTopics]
    have hhealth := hdue.returned (hP.health _ (m.healthReport uptimeMs) h.named hdue.onTransport)
    exact hhealth.returned (hP.shadow _ _ hhealth.onTransport)
  · exact hdue

theorem atGate [IEventOutbox ω] (h : MainHolds topics (P m.subscribedToCommands) m)
    (hP : KeptByLoop topics P) (input : NetworkInput) :
    MainHolds topics (P (m.atGate input).subscribedToCommands) (m.atGate input) := by
  have hwifi : MainHolds topics (P (m.wifiUpdated input).subscribedToCommands)
      (m.wifiUpdated input) := by
    rw [m.wifiUpdated_flag input]
    exact h.wifiUpdated input
  exact hwifi.returned (hP.isConnected _ _ hwifi.onTransport)

theorem sessionOpened (h : MainHolds topics (P m.subscribedToCommands) m)
    (hP : KeptByLoop topics P) :
    MainHolds topics (P m.sessionOpened.subscribedToCommands) m.sessionOpened := by
  have hopened : P false m.connect.transport := by
    rw [MainLoop.connect, MqttTopics.clientId, h.named]
    exact hP.opened _ _ _ h.onTransport
  exact (h.returned hopened).of_eq rfl

variable [IDedupCache δ]

theorem pollAndProcess {P Q : Esp32AwsIotTransport κ → Prop} (h : MainHolds topics P m)
    (hpolled : Q m.transport.poll.transport)
    (hresponse : KeptByResponses topics.deviceId topics Q) (input : NetworkInput) :
    MainHolds topics Q (m.pollAndProcess input) := by
  have hreturned := h.returned hpolled
  refine ⟨?_, hreturned.answers.processPending hresponse input.clock⟩
  exact (RemoteCommandProcessor.processPending_deviceId input.clock _).trans hreturned.named

theorem readied (h : MainHolds topics (P m.subscribedToCommands) m) (hP : KeptByLoop topics P)
    (input : NetworkInput) : MainHolds topics (P true) (m.readied input) :=
  (h.pollAndProcess (hP.poll _ _ h.onTransport) (hP.response _) input).restoreSubscription hP

variable [IEventOutbox ω]

theorem flushedFrom (h : MainHolds topics (P m.subscribedToCommands) m) (hP : KeptByLoop topics P)
    (hstart : m.flushedFrom input = some start) : MainHolds topics (P true) start := by
  have hgate := h.atGate hP input
  rw [MainLoop.flushedFrom] at hstart
  split at hstart
  · cases hstart
  split at hstart
  · cases hstart
    exact hgate.readied hP input
  split at hstart
  · cases hstart
  split at hstart
  · cases hstart
    exact (hgate.sessionOpened hP).readied hP input
  · cases hstart

theorem unflushed (h : MainHolds topics (P m.subscribedToCommands) m) (hP : KeptByLoop topics P)
    (hstart : m.flushedFrom input = none) :
    MainHolds topics (P (m.updateNetwork input).1.subscribedToCommands)
      (m.updateNetwork input).1 := by
  have hgate := h.atGate hP input
  rw [MainLoop.flushedFrom] at hstart
  rw [MainLoop.updateNetwork]
  split at hstart
  next hwifi =>
    rw [if_pos hwifi]
    apply MainHolds.leaveNetwork _ hP
    rw [m.wifiUpdated_flag input]
    exact h.wifiUpdated input
  next hwifi =>
    rw [if_neg hwifi]
    split at hstart
    · cases hstart
    next hdown =>
      rw [if_neg hdown]
      split at hstart
      next hwait =>
        rw [if_pos hwait]
        exact hgate
      next hdue =>
        rw [if_neg hdue]
        split at hstart
        · cases hstart
        next hrefused =>
          rw [MainLoop.attemptConnect, if_neg hrefused]
          rw [Bool.not_eq_true] at hrefused
          have hconnect : P (m.atGate input).subscribedToCommands
              (m.atGate input).connect.transport := by
            rw [MainLoop.connect, MqttTopics.clientId, hgate.named] at hrefused ⊢
            exact hP.refused _ _ _ hgate.onTransport hrefused
          exact (hgate.returned hconnect).of_eq rfl

omit [IDedupCache δ] in
theorem flushOutbox {P : Esp32AwsIotTransport κ → Prop} (h : MainHolds topics P m)
    (hevents : KeptByEvents topics P) : MainHolds topics P m.flushOutbox := by
  apply List.foldlRecOn (motive := MainHolds topics P) (IEventOutbox.pending m.eventOutbox)
    MainLoop.flushEntry h
  intro n hn entry _
  have hpublished := hn.returned (hevents _ entry.eventJson hn.onTransport)
  rw [MainLoop.flushEntry, MainLoop.publish]
  dsimp only
  rw [hn.answers.onTopics]
  split
  · exact hpublished.of_eq rfl
  · exact hpublished

theorem updateNetwork (h : MainHolds topics (P m.subscribedToCommands) m)
    (hP : KeptByLoop topics P) (hevents : KeptByEvents topics (P true))
    (hreports : KeptByReports topics (P true)) (input : NetworkInput) :
    MainHolds topics (P (m.updateNetwork input).1.subscribedToCommands)
      (m.updateNetwork input).1 := by
  cases hstart : m.flushedFrom input with
  | none => exact h.unflushed hP hstart
  | some start =>
    have hserved := ((h.flushedFrom hP hstart).flushOutbox hevents).reportHealth hreports
      (ms32 input.healthAtMs) (ms32 input.uptimeAtMs)
    rw [← MainLoop.updateNetwork_flushed hstart] at hserved
    exact hserved.mono (hP.forget _ _ hserved.onTransport)

theorem run (h : MainHolds topics (P m.subscribedToCommands) m) (hP : KeptByLoop topics P)
    (hevents : KeptByEvents topics (P true)) (hreports : KeptByReports topics (P true))
    (inputs : List NetworkInput) :
    MainHolds topics (P (finalState MainLoop.updateNetwork m inputs).subscribedToCommands)
      (finalState MainLoop.updateNetwork m inputs) := by
  apply run_induction (motive := fun _ m => MainHolds topics (P m.subscribedToCommands) m) h
  intro _ m input hm
  exact hm.updateNetwork hP hevents hreports input

end Kept

theorem true_keptByLoop [IMqttClient κ] (topics : MqttTopics) :
    KeptByLoop (κ := κ) topics fun _ _ => True where
  isConnected _ _ h := h
  disconnect _ _ h := h
  poll _ _ h := h
  response _ _ _ _ _ h := h
  opened _ _ _ h := h
  refused _ _ _ h _ := h
  subscribe _ _ h := h
  forget _ _ h := h

theorem updateNetwork_true [IMqttClient κ] [IDedupCache δ] [IEventOutbox ω]
    (h : MainHolds topics (fun _ => True) m) (input : NetworkInput) :
    MainHolds topics (fun _ => True) (m.updateNetwork input).1 :=
  h.updateNetwork (true_keptByLoop topics) (fun _ _ h => h) ⟨fun _ _ _ h => h, fun _ _ h => h⟩
    input

/-- Only responses are published on the way, on a topic of their own. -/
theorem accepted_keptByLoop [IMqttClient κ] (topics : MqttTopics) {topic : Bytes}
    (htopic : topics.responsesIngest ≠ topic) (payloads : List Bytes) :
    KeptByLoop (κ := RecordingClient κ) topics fun _ t =>
      RecordedTransport.accepted topic t = payloads where
  isConnected _ t h := (RecordedTransport.accepted_isConnected _ t).trans h
  disconnect _ t h := ((RecordedTransport.Quiet.disconnect t).accepted _).trans h
  poll _ t h := (RecordedTransport.accepted_poll _ t).trans h
  response _ t _ qos hanswer h := by
    refine (RecordedTransport.accepted_publish_elsewhere _ t ?_ qos).trans h
    rw [hanswer.topic]
    exact htopic
  opened _ t credentials h :=
    ((RecordedTransport.Quiet.connect t credentials topics.deviceId).accepted _).trans h
  refused _ t credentials h _ :=
    ((RecordedTransport.Quiet.connect t credentials topics.deviceId).accepted _).trans h
  subscribe _ t h :=
    ((RecordedTransport.Quiet.subscribe t topics.commands .atLeastOnce).accepted _).trans h
  forget _ _ h := h

end MainHolds
end InterBridge
