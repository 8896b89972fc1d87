import InterBridge.Network.TransportCalls

namespace InterBridge
open Foundations
set_option autoImplicit true

/-- The calls that messages go out or come in by. -/
def MqttClientCall.carriesMessages : MqttClientCall → Bool
  | .publish _ _ | .poll => true
  | _ => false

namespace RecordedTransport

/-- From `t` to `t'` the client was not asked to carry any message. -/
def Quiet (t t' : RecordedTransport κ) : Prop :=
  ∃ heard, t'.client.exchanges = t.client.exchanges ++ heard ∧
    ∀ e ∈ heard, e.call.carriesMessages = false

namespace Quiet

theorem of_client {t t' : RecordedTransport κ} (h : t'.client = t.client) : Quiet t t' :=
  ⟨[], by rw [h, List.append_nil], List.forall_mem_nil _⟩

theorem refl (t : RecordedTransport κ) : Quiet t t := of_client rfl

theorem trans {t t' t'' : RecordedTransport κ} (h : Quiet t t') (h' : Quiet t' t'') :
    Quiet t t'' := by
  obtain ⟨heard, hheard, hquiet⟩ := h
  obtain ⟨heard', hheard', hquiet'⟩ := h'
  refine ⟨heard ++ heard', ?_, List.forall_mem_append.mpr ⟨hquiet, hquiet'⟩⟩
  rw [hheard', hheard, List.append_assoc]

variable [IMqttClient κ]

theorem ask (t : RecordedTransport κ) (call : MqttClientCall)
    (hcall : call.carriesMessages = false) : Quiet t (t.ask call).transport :=
  ⟨[Esp32AwsIotTransport.exchange t call], rfl, List.forall_mem_singleton.mpr hcall⟩

theorem isConnected (t : RecordedTransport κ) : Quiet t t.isConnected.transport := by
  rw [Esp32AwsIotTransport.isConnected]
  split
  · exact ask t .connected rfl
  · exact refl t

theorem disconnect (t : RecordedTransport κ) : Quiet t t.disconnect.transport :=
  (ask t .disconnect rfl).trans (of_client rfl)

theorem openSession (t : RecordedTransport κ) (clientId : Bytes) :
    Quiet t (t.openSession clientId).transport := by
  have hconfigured := (ask t .setMessageCallback rfl).trans
    (ask (t.ask .setMessageCallback).transport (.configureTls t.config.endpoint
      t.config.port t.config.rootCaPem t.certificatePem t.privateKeyPem t.config.keepAliveSeconds
      t.config.timeoutMs) rfl)
  rw [Esp32AwsIotTransport.openSession, TransportReply.bind_transport,
    TransportReply.bind_transport]
  split
  · exact hconfigured
  rw [TransportReply.bind_transport]
  split
  · exact hconfigured.trans (ask _ _ rfl)
  · exact (hconfigured.trans (ask _ (.connect clientId) rfl)).trans (of_client rfl)

theorem connect (t : RecordedTransport κ) (credentials : DeviceCredentialStore)
    (clientId : Bytes) : Quiet t (t.connect credentials clientId).transport := by
  have htorn : Quiet t (t.ask .disconnect).transport.invalidate :=
    (ask t .disconnect rfl).trans (of_client rfl)
  rw [Esp32AwsIotTransport.connect, TransportReply.bind_transport]
  dsimp only
  split
  · exact htorn
  split
  next cert key _ _ =>
    split
    · exact htorn
    · have hopened := openSession { (t.ask .disconnect).transport.invalidate with
        certificatePem := cert, privateKeyPem := key } clientId
      exact htorn.trans ((of_client rfl).trans hopened)
  next => exact htorn

theorem subscribe (t : RecordedTransport κ) (topic : Bytes) (qos : MqttQos) :
    Quiet t (t.subscribe topic qos).transport := by
  rw [Esp32AwsIotTransport.subscribe, TransportReply.bind_transport]
  split
  · exact (isConnected t).trans (of_client rfl)
  · have hasked := (isConnected t).trans
      (ask t.isConnected.transport (.subscribe topic qos) rfl)
    rw [TransportReply.bind_transport]
    split
    · exact hasked.trans (of_client rfl)
    · exact hasked.trans (of_client rfl)

end Quiet

end RecordedTransport

/-- What the client accepted on a topic in this exchange. -/
def ClientExchange.accepted? (topic : Bytes) (e : ClientExchange) : Option Bytes :=
  match e.call with
  | .publish message _ => if e.ok = true ∧ message.topic = topic then some message.payload else none
  | _ => none

theorem ClientExchange.accepted?_quiet {e : ClientExchange} (h : e.call.carriesMessages = false)
    (topic : Bytes) : e.accepted? topic = none := by
  rw [accepted?]
  cases hcall : e.call with
  | publish message qos =>
    rw [hcall] at h
    cases h
  | _ => rfl

namespace RecordedTransport

/-- The payloads the client accepted on a topic, in order. -/
def accepted (topic : Bytes) (t : RecordedTransport κ) : List Bytes :=
  t.client.exchanges.filterMap (ClientExchange.accepted? topic)

theorem Quiet.accepted {t t' : RecordedTransport κ} (h : Quiet t t') (topic : Bytes) :
    accepted topic t' = RecordedTransport.accepted topic t := by
  obtain ⟨heard, hheard, hquiet⟩ := h
  have hnone : heard.filterMap (ClientExchange.accepted? topic) = [] :=
    List.filterMap_eq_nil_iff.mpr fun e he => ClientExchange.accepted?_quiet (hquiet e he) topic
  rw [RecordedTransport.accepted, hheard, List.filterMap_append, hnone, List.append_nil,
    RecordedTransport.accepted]

section Client
variable [IMqttClient κ] (topic : Bytes) (t : RecordedTransport κ)

theorem accepted_ask (call : MqttClientCall) : accepted topic (t.ask call).transport =
    accepted topic t ++ ((Esp32AwsIotTransport.exchange t call).accepted? topic).toList := by
  change List.filterMap _ (t.client.exchanges ++ [_]) = _
  rw [List.filterMap_append, List.filterMap_cons]
  cases hone : (Esp32AwsIotTransport.exchange t call).accepted? topic with
  | none =>
    rw [Esp32AwsIotTransport.exchange] at hone
    rw [hone]
    rfl
  | some payload =>
    rw [Esp32AwsIotTransport.exchange] at hone
    rw [hone]
    rfl

theorem accepted_isConnected :
    accepted topic t.isConnected.transport = accepted topic t := (Quiet.isConnected t).accepted topic

theorem accepted_poll : accepted topic t.poll.transport = accepted topic t := by
  have hasked : accepted topic ((t.isConnected.transport.ask .poll).transport.ask
      .connected).transport = accepted topic t := by
    rw [(Quiet.ask _ .connected rfl).accepted topic, accepted_ask, accepted_isConnected]
    exact List.append_nil _
  rw [Esp32AwsIotTransport.poll, TransportReply.bind_transport]
  split
  · exact t.accepted_isConnected topic
  rw [TransportReply.bind_transport, TransportReply.bind_transport]
  split
  · exact hasked
  · exact hasked

theorem accepted?_publish (message : MqttMessage) (qos : MqttQos) :
    (Esp32AwsIotTransport.exchange t (.publish message qos)).accepted? topic =
      if (t.ask (.publish message qos)).ok = true ∧ message.topic = topic then some message.payload
      else none := rfl

/-- A message counts where the client accepted it, which is where `publish` succeeds. -/
theorem accepted_publish (message : MqttMessage) (qos : MqttQos) :
    accepted topic (t.publish message qos).transport = accepted topic t ++
      (if (t.publish message qos).ok = true ∧ message.topic = topic then some message.payload
        else none).toList := by
  have hup := accepted_isConnected topic t
  rw [Esp32AwsIotTransport.publish, TransportReply.bind_transport, TransportReply.bind_ok]
  split
  next =>
    rw [if_neg fun h => Bool.false_ne_true h.1]
    exact hup.trans (List.append_nil _).symm
  next =>
    have hasked := accepted_ask topic t.isConnected.transport (.publish message qos)
    rw [hup, accepted?_publish] at hasked
    rw [TransportReply.bind_transport, TransportReply.bind_ok]
    split
    next hok =>
      rw [hok] at hasked
      exact hasked
    next hrefused =>
      rw [if_neg fun h => hrefused h.1] at hasked
      rw [if_neg fun h => Bool.false_ne_true h.1]
      exact hasked

theorem accepted_publish_here (topic payload : Bytes) (qos : MqttQos) :
    accepted topic (t.publish ⟨topic, payload⟩ qos).transport =
      accepted topic t ++ if (t.publish ⟨topic, payload⟩ qos).ok then [payload] else [] := by
  rw [accepted_publish]
  split
  next h => rw [if_pos h.1]; rfl
  next h => rw [if_neg fun hok => h ⟨hok, rfl⟩]; rfl

theorem accepted_publish_elsewhere {message : MqttMessage} (h : message.topic ≠ topic)
    (qos : MqttQos) : accepted topic (t.publish message qos).transport = accepted topic t := by
  rw [accepted_publish, if_neg fun hhere => h hhere.2]
  exact List.append_nil _

end Client
end RecordedTransport
end InterBridge
