import InterBridge.Dev.DevRingEvent
import InterBridge.Foundations.FifoDelivery
import InterBridge.MainLoop.UpdateNetwork
import InterBridge.Network.TransportCalls

namespace InterBridge
open Foundations
set_option autoImplicit true

section Client
variable [IMqttClient κ]

/-- The client after a number of calls. -/
def clientAfter (client : κ) (calls : List MqttClientCall) : κ :=
  calls.foldl (fun client call => (IMqttClient.call client call).transport) client

def MqttClientCall.IsConnect (call : MqttClientCall) : Prop := ∃ clientId, call = .connect clientId

/-- Once it has answered that it is not connected, the client answers so until a `connect`. -/
def StaysDisconnected (κ : Type) [IMqttClient κ] : Prop :=
  ∀ (client : κ) (calls : List MqttClientCall), (IMqttClient.call client .connected).ok = false →
    (∀ call ∈ calls, ¬ call.IsConnect) →
    (IMqttClient.call (clientAfter (IMqttClient.call client .connected).transport calls)
      .connected).ok = false

/-- The client has answered that it is not connected, and no `connect` came after that. -/
def Dropped (client : κ) : Prop :=
  ∃ (earlier : κ) (calls : List MqttClientCall),
    (IMqttClient.call earlier .connected).ok = false ∧ (∀ call ∈ calls, ¬ call.IsConnect) ∧
    client = clientAfter (IMqttClient.call earlier .connected).transport calls

theorem Dropped.of_answer {client : κ} (h : (IMqttClient.call client .connected).ok = false) :
    Dropped (IMqttClient.call client .connected).transport :=
  ⟨client, [], h, List.forall_mem_nil _, rfl⟩

theorem Dropped.answers {client : κ} (h : Dropped client) (hstays : StaysDisconnected κ) :
    (IMqttClient.call client .connected).ok = false := by
  obtain ⟨earlier, calls, hdown, hcalls, rfl⟩ := h
  exact hstays earlier calls hdown hcalls

theorem staysDisconnected_of_invariant {Down : κ → Prop}
    (hstart : ∀ client : κ, (IMqttClient.call client .connected).ok = false →
      Down (IMqttClient.call client .connected).transport)
    (hnext : ∀ client call, ¬ MqttClientCall.IsConnect call → Down client →
      Down (IMqttClient.call client call).transport)
    (hanswer : ∀ client, Down client → (IMqttClient.call client .connected).ok = false) :
    StaysDisconnected κ := by
  intro client calls hdown hcalls
  apply hanswer
  apply List.foldlRecOn (motive := Down) calls _ (hstart client hdown)
  intro client hclient call hcall
  exact hnext client call (hcalls call hcall) hclient

end Client

namespace RecordedTransport

/-- The messages given to `publish` of the client. -/
def handed (t : RecordedTransport κ) : List MqttMessage :=
  t.client.exchanges.filterMap fun e =>
    match e.call with
    | .publish message _ => some message
    | _ => none

variable [IMqttClient κ]

/-- The session is not trusted, or the client stays disconnected: nothing more is published. -/
def Refuses (t : RecordedTransport κ) : Prop :=
  t.sessionValid = false ∨ Dropped t.client.client

theorem handed_ask_connected (t : RecordedTransport κ) :
    handed (t.ask .connected).transport = handed t := by
  change List.filterMap _ (t.client.exchanges ++ [_]) = _
  rw [List.filterMap_append]
  exact List.append_nil _

theorem handed_ask_publish (t : RecordedTransport κ) (message : MqttMessage) (qos : MqttQos) :
    handed (t.ask (.publish message qos)).transport = handed t ++ [message] := by
  change List.filterMap _ (t.client.exchanges ++ [_]) = _
  rw [List.filterMap_append]
  rfl

/-- How a `publish` ends: the client accepts the message, or fails to publish it, or is not even
asked. -/
inductive PublishStep (t : RecordedTransport κ) (message : MqttMessage)
    (reply : TransportReply (RecordedTransport κ)) : Prop where
  | accepted (ok : reply.ok = true) (handed : handed reply.transport = handed t ++ [message])
  | failed (ok : reply.ok = false) (handed : handed reply.transport = handed t ++ [message])
      (refuses : Refuses reply.transport)
  | unasked (ok : reply.ok = false) (handed : handed reply.transport = handed t)
      (valid : reply.transport.sessionValid = t.sessionValid) (refuses : Refuses reply.transport)

theorem publishStep (t : RecordedTransport κ) (message : MqttMessage) (qos : MqttQos) :
    PublishStep t message (t.publish message qos) := by
  cases hvalid : t.sessionValid with
  | false =>
    rw [Esp32AwsIotTransport.publish_of_invalid hvalid]
    exact .unasked rfl rfl rfl (.inl hvalid)
  | true =>
    cases hup : (t.ask .connected).ok with
    | false =>
      obtain ⟨hok, htransport⟩ := Esp32AwsIotTransport.publish_down hvalid hup message qos
      apply PublishStep.unasked hok
      · rw [htransport, handed_ask_connected]
      · rw [htransport]
        rfl
      · rw [htransport]
        exact .inr (.of_answer hup)
    | true =>
      obtain ⟨hok, htransport⟩ := Esp32AwsIotTransport.publish_up hvalid hup message qos
      have hhanded := handed_ask_publish (t.ask .connected).transport message qos
      rw [handed_ask_connected] at hhanded
      cases hdone : ((t.ask .connected).transport.ask (.publish message qos)).ok with
      | true =>
        rw [hdone, if_pos rfl] at htransport
        apply PublishStep.accepted (hok.trans hdone)
        rw [htransport, hhanded]
      | false =>
        rw [hdone, if_neg Bool.false_ne_true] at htransport
        apply PublishStep.failed (hok.trans hdone)
        · rw [htransport]
          exact hhanded
        · rw [htransport]
          exact .inl rfl

theorem Refuses.publish {t : RecordedTransport κ} (h : Refuses t) (hstays : StaysDisconnected κ)
    (message : MqttMessage) (qos : MqttQos) :
    (t.publish message qos).ok = false ∧
      handed (t.publish message qos).transport = handed t ∧
      (t.publish message qos).transport.sessionValid = t.sessionValid ∧
      Refuses (t.publish message qos).transport := by
  cases hvalid : t.sessionValid with
  | false =>
    rw [Esp32AwsIotTransport.publish_of_invalid hvalid]
    exact ⟨rfl, rfl, hvalid, .inl hvalid⟩
  | true =>
    have hdown : (t.ask .connected).ok = false := by
      rcases h with hinvalid | hdropped
      · exact absurd (hinvalid.symm.trans hvalid) Bool.false_ne_true
      · exact hdropped.answers hstays
    obtain ⟨hok, htransport⟩ := Esp32AwsIotTransport.publish_down hvalid hdown message qos
    rw [htransport]
    exact ⟨hok, handed_ask_connected t, hvalid, .inr (.of_answer hdown)⟩

end RecordedTransport

namespace MainLoop
open RecordedTransport
variable [IMqttClient κ] [IEventOutbox ω]

/-- The topic the flush of the main loop publishes on. -/
def eventsIngest (m : MainLoop κ δ ω) : Bytes := m.remoteCommandProcessor.topics.eventsIngest

theorem flushEntry_spec (m : MainLoop κ δ ω) (entry : OutboxEntry) :
    let reply := m.transport.publish ⟨m.eventsIngest, entry.eventJson⟩ .atLeastOnce
    (m.flushEntry entry).transport = reply.transport ∧
      (m.flushEntry entry).eventsIngest = m.eventsIngest ∧
      (m.flushEntry entry).eventOutbox =
        if reply.ok then IEventOutbox.dequeue m.eventOutbox entry.eventId else m.eventOutbox := by
  have htransport := m.returned_transport
    (m.transport.publish ⟨m.eventsIngest, entry.eventJson⟩ .atLeastOnce)
  have htopics := congrArg MqttTopics.eventsIngest (m.remoteCommandProcessor.returned_topics
    (m.transport.publish ⟨m.eventsIngest, entry.eventJson⟩ .atLeastOnce))
  dsimp only
  rw [flushEntry, publish]
  dsimp only
  cases hok : (m.transport.publish ⟨m.eventsIngest, entry.eventJson⟩ .atLeastOnce).ok with
  | true =>
    rw [eventsIngest] at hok
    rw [hok, if_pos rfl, if_pos rfl]
    exact ⟨htransport, htopics, rfl⟩
  | false =>
    rw [eventsIngest] at hok
    rw [hok, if_neg Bool.false_ne_true, if_neg Bool.false_ne_true]
    exact ⟨htransport, htopics, rfl⟩

/-- Where a flush leaves the outbox, what it handed to the client, and whether it left the session
trusted. -/
def flushed (outbox : ω) (t : RecordedTransport κ) : ω × List MqttMessage × Bool :=
  (outbox, handed t, t.sessionValid)

theorem refusing_flush (hstays : StaysDisconnected κ) {m : MainLoop (RecordingClient κ) δ ω}
    (h : Refuses m.transport) (entries : List OutboxEntry) :
    flushed (entries.foldl flushEntry m).eventOutbox (entries.foldl flushEntry m).transport =
      flushed m.eventOutbox m.transport := by
  induction entries generalizing m with
  | nil => rfl
  | cons entry entries ih =>
    obtain ⟨htransport, _, houtbox⟩ := m.flushEntry_spec entry
    obtain ⟨hok, hhanded, hvalid, hrefuses⟩ :=
      h.publish hstays ⟨m.eventsIngest, entry.eventJson⟩ .atLeastOnce
    rw [hok, if_neg Bool.false_ne_true] at houtbox
    rw [List.foldl_cons, ih (htransport ▸ hrefuses), flushed, houtbox, htransport, hhanded, hvalid]
    rfl

/-- The loop that goes on after a failure and the one that stops end alike. -/
theorem flush_eq_publishEach (hstays : StaysDisconnected κ) (entries : List OutboxEntry)
    (m : MainLoop (RecordingClient κ) δ ω) (inbound : List MqttMessage) (count : Nat) :
    let p := publishEach m.eventsIngest ⟨m.eventOutbox, m.transport, inbound, count⟩ entries
    flushed (entries.foldl flushEntry m).eventOutbox (entries.foldl flushEntry m).transport =
      flushed p.outbox p.transport := by
  induction entries generalizing m inbound count with
  | nil => rfl
  | cons entry entries ih =>
    obtain ⟨htransport, htopic, houtbox⟩ := m.flushEntry_spec entry
    dsimp only
    rw [List.foldl_cons]
    cases hok : (m.transport.publish ⟨m.eventsIngest, entry.eventJson⟩ .atLeastOnce).ok with
    | true =>
      rw [hok, if_pos rfl] at houtbox
      have hrest := ih (m.flushEntry entry) (inbound ++ (m.transport.publish
        ⟨m.eventsIngest, entry.eventJson⟩ .atLeastOnce).inbound) (count + 1)
      rw [htopic, houtbox, htransport] at hrest
      rw [hrest, publishEach_accepted hok]
      rfl
    | false =>
      have hrefuses : Refuses (m.flushEntry entry).transport := by
        rw [htransport]
        cases publishStep m.transport ⟨m.eventsIngest, entry.eventJson⟩ .atLeastOnce with
        | accepted haccepted => exact absurd (hok.symm.trans haccepted) Bool.false_ne_true
        | failed _ _ hrefuses => exact hrefuses
        | unasked _ _ _ hrefuses => exact hrefuses
      rw [hok, if_neg Bool.false_ne_true] at houtbox
      rw [refusing_flush hstays hrefuses, houtbox, htransport, publishEach_refused hok]
      rfl

omit [IEventOutbox ω] in
/-- The first entries are published and dequeued, and at most one more is tried: nothing overtakes
an entry that failed. -/
theorem publishEach_inOrder (topic : Bytes)
    (p : EventPublication MemoryEventOutbox (RecordedTransport κ))
    (hn : (p.outbox.entries.map Prod.fst).Nodup) :
    let p' := publishEach topic p p.outbox.pending
    ∃ published tried, published ≤ tried ∧ tried ≤ published + 1 ∧
      p'.outbox.entries = p.outbox.entries.drop published ∧
      handed p'.transport = handed p.transport ++
        (p.outbox.entries.take tried).map fun entry => ⟨topic, entry.2⟩ := by
  have hpending : p.outbox.pending =
      p.outbox.entries.map fun entry => ⟨entry.1, entry.2⟩ := rfl
  rw [hpending]
  generalize hentries : p.outbox.entries = rows
  induction rows generalizing p with
  | nil => exact ⟨0, 0, Nat.le_refl _, Nat.zero_le _, hentries, (List.append_nil _).symm⟩
  | cons entry rest ih =>
    rw [List.map_cons]
    cases publishStep p.transport ⟨topic, entry.2⟩ .atLeastOnce with
    | accepted hok hhanded =>
      have hrest : (p.outbox.dequeue entry.1).entries = rest := by
        rw [hentries] at hn
        rw [MemoryEventOutbox.dequeue, hentries]
        exact filter_key_cons hn
      have hkeys : ((p.outbox.dequeue entry.1).entries.map Prod.fst).Nodup := by
        rw [hentries, List.map_cons, List.nodup_cons] at hn
        rw [hrest]
        exact hn.2
      rw [publishEach_accepted hok]
      obtain ⟨published, tried, hle, hnext, hoff, hon⟩ :=
        ih ⟨p.outbox.dequeue entry.1, _, _, _⟩ hkeys rfl hrest
      refine ⟨published + 1, tried + 1, Nat.succ_le_succ hle, Nat.succ_le_succ hnext, hoff, ?_⟩
      refine hon.trans ((congrArg (· ++ _) hhanded).trans ?_)
      rw [List.append_assoc, List.take_succ_cons, List.map_cons, List.singleton_append]
    | failed hok hhanded _ =>
      rw [publishEach_refused hok]
      exact ⟨0, 1, Nat.zero_le _, Nat.le_refl _, hentries, hhanded⟩
    | unasked hok hhanded _ _ =>
      rw [publishEach_refused hok]
      refine ⟨0, 0, Nat.le_refl _, Nat.zero_le _, hentries, hhanded.trans ?_⟩
      exact (List.append_nil _).symm

/-- What the two flushes of `m` have in common. -/
structure FlushesAgree (m : MainLoop (RecordingClient κ) δ MemoryEventOutbox)
    (p : EventPublication MemoryEventOutbox (RecordedTransport κ)) : Prop where
  outbox : m.flushOutbox.eventOutbox = p.outbox
  handed : handed m.flushOutbox.transport = handed p.transport
  sessionValid : m.flushOutbox.transport.sessionValid = p.transport.sessionValid
  inOrder : ∃ published tried, published ≤ tried ∧ tried ≤ published + 1 ∧
    m.flushOutbox.eventOutbox.entries = m.eventOutbox.entries.drop published ∧
    RecordedTransport.handed m.flushOutbox.transport = RecordedTransport.handed m.transport ++
      (m.eventOutbox.entries.take tried).map fun entry => ⟨m.eventsIngest, entry.2⟩

omit [IEventOutbox ω] in
/-- Whatever the client does, as long as it does not come back by itself, the main loop's flush and
`publishPendingEvents` end alike, and no event overtakes one that failed. -/
theorem flushOutbox_agrees (hstays : StaysDisconnected κ)
    (m : MainLoop (RecordingClient κ) δ MemoryEventOutbox)
    (hdistinct : (m.eventOutbox.entries.map Prod.fst).Nodup) :
    FlushesAgree m (publishPendingEvents m.eventOutbox m.transport m.eventsIngest) := by
  have heq := flush_eq_publishEach hstays m.eventOutbox.pending m [] 0
  have hinOrder := publishEach_inOrder m.eventsIngest ⟨m.eventOutbox, m.transport, [], 0⟩ hdistinct
  simp only [flushed, Prod.mk.injEq] at heq
  obtain ⟨houtbox, hhanded, hvalid⟩ := heq
  refine ⟨houtbox, hhanded, hvalid, ?_⟩
  obtain ⟨published, tried, hle, hnext, hoff, hon⟩ := hinOrder
  refine ⟨published, tried, hle, hnext, ?_, ?_⟩
  · exact (congrArg MemoryEventOutbox.entries houtbox).trans hoff
  · exact hhanded.trans hon

end MainLoop

/-- A client whose publishes end as listed, and that is connected until it drops. -/
structure DroppingClient where
  publishes : List Bool
  up : Bool
  deriving DecidableEq

instance : IMqttClient DroppingClient where
  call client
    | .connect _ => .pure { client with up := true } true
    | .connected => .pure client client.up
    | .publish _ _ => .pure { client with publishes := client.publishes.tail }
        (client.publishes.headD false)
    | _ => .pure client true

theorem droppingClient_staysDisconnected : StaysDisconnected DroppingClient := by
  apply @staysDisconnected_of_invariant DroppingClient _ fun client => client.up = false
  · exact fun client h => h
  · intro client call hcall hdown
    cases call with
    | connect clientId => exact absurd ⟨clientId, rfl⟩ hcall
    | _ => exact hdown
  · exact fun client h => h

namespace MainLoop

/-- A session with two events queued, of which the client publishes one. -/
def twoQueued : MainLoop (RecordingClient DroppingClient) InMemoryDedupCache MemoryEventOutbox where
  credentialStore := PersistentStore.empty
  provisioned := true
  remoteCommandProcessor := {
    deviceId := ascii "ib-1"
    transport := {
      Esp32AwsIotTransport.constructed Esp32AwsIotTransport.awsConfig ⟨[true, false], true⟩ with
      sessionValid := true }
    handler := ⟨ascii "ib-1", .new kDefaultDedupCacheCapacity⟩
    topics := ⟨ascii "ib-1", [], [], ascii "interbridge"⟩ }
  eventOutbox := { entries := [(ascii "evt-1", [1]), (ascii "evt-2", [2])] }

theorem twoQueued_flushes_agree :
    FlushesAgree twoQueued
      (publishPendingEvents twoQueued.eventOutbox twoQueued.transport twoQueued.eventsIngest) :=
  flushOutbox_agrees droppingClient_staysDisconnected twoQueued (by decide)

end MainLoop
end InterBridge
