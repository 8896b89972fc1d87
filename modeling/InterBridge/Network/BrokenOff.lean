import InterBridge.Network.WireOrder

namespace InterBridge
open Foundations
set_option autoImplicit true

def MqttClientCall.isSubscribe : MqttClientCall → Bool
  | .subscribe _ _ => true
  | _ => false

/-- The client accepted a connection and then broke off: its last answer is a refusal, and it had
not been asked for a subscription before. -/
structure BrokeOff (heard : List ClientExchange) : Prop where
  opened : ∃ e ∈ heard, e.Opens
  refused : ∃ last ∈ heard.getLast?, last.ok = false
  unsubscribed : ∀ e ∈ heard.dropLast, e.call.isSubscribe = false

theorem not_brokeOff_of_granted {heard : List ClientExchange} (he : e ∈ heard)
    (hsubscribe : e.call.isSubscribe = true) (hgranted : e.ok = true) : ¬ BrokeOff heard := by
  intro h
  obtain ⟨last, hlast, hrefused⟩ := h.refused
  obtain ⟨earlier, rfl⟩ := List.getLast?_eq_some_iff.mp hlast
  rcases List.mem_append.mp he with hearlier | hsame
  · have hother := h.unsubscribed e (List.dropLast_concat ▸ hearlier)
    exact absurd (hother.symm.trans hsubscribe) Bool.false_ne_true
  · rw [List.mem_singleton.mp hsame] at hgranted
    exact absurd (hrefused.symm.trans hgranted) Bool.false_ne_true

/-- Since `start` the client accepted no connection and was asked for no subscription. -/
structure BeforeOpening (start heard : List ClientExchange) (t : RecordedTransport κ) : Prop where
  exchanges : t.client.exchanges = start ++ heard
  unopened : ∀ e ∈ heard, ¬ e.Opens
  unsubscribed : ∀ e ∈ heard, e.call.isSubscribe = false

/-- Since `start` the client accepted a connection and was asked for no subscription, and the
session is trusted unless its last answer was a refusal. -/
structure OnTrial (start heard : List ClientExchange) (t : RecordedTransport κ) : Prop where
  exchanges : t.client.exchanges = start ++ heard
  opened : ∃ e ∈ heard, e.Opens
  unsubscribed : ∀ e ∈ heard, e.call.isSubscribe = false
  refused : t.sessionValid = false → ∃ last ∈ heard.getLast?, last.ok = false

/-- Since `start` the client granted a subscription. -/
def GrantedSince (start : List ClientExchange) (t : RecordedTransport κ) : Prop :=
  ∃ heard, t.client.exchanges = start ++ heard ∧
    ∃ e ∈ heard, e.call.isSubscribe = true ∧ e.ok = true

namespace BeforeOpening
open Esp32AwsIotTransport
variable [IMqttClient κ] {start heard : List ClientExchange} {t : RecordedTransport κ}

omit [IMqttClient κ] in
theorem of_client (h : BeforeOpening start heard t) (t' : RecordedTransport κ)
    (hclient : t'.client = t.client) : BeforeOpening start heard t' :=
  ⟨hclient ▸ h.exchanges, h.unopened, h.unsubscribed⟩

theorem ask (h : BeforeOpening start heard t) (call : MqttClientCall)
    (hcall : call.isSubscribe = false)
    (hopens : call.isConnect = true → (t.ask call).ok = false) :
    BeforeOpening start (heard ++ [exchange t call]) (t.ask call).transport := by
  refine ⟨?_, ?_, ?_⟩
  · rw [ask_exchanges, h.exchanges, List.append_assoc]
  · rw [List.forall_mem_append, List.forall_mem_singleton]
    refine ⟨h.unopened, fun hopened => ?_⟩
    exact absurd ((hopens hopened.1).symm.trans hopened.2) Bool.false_ne_true
  · rw [List.forall_mem_append, List.forall_mem_singleton]
    exact ⟨h.unsubscribed, hcall⟩

theorem ask_other (h : BeforeOpening start heard t) (call : MqttClientCall)
    (hcall : call.isSubscribe = false) (hother : call.isConnect = false) :
    BeforeOpening start (heard ++ [exchange t call]) (t.ask call).transport :=
  h.ask call hcall fun hconnect => absurd (hother.symm.trans hconnect) Bool.false_ne_true

theorem isConnected (h : BeforeOpening start heard t) :
    ∃ heard', BeforeOpening start heard' t.isConnected.transport := by
  rw [Esp32AwsIotTransport.isConnected]
  split
  · exact ⟨_, h.ask_other .connected rfl rfl⟩
  · exact ⟨_, h⟩

theorem opened (h : BeforeOpening start heard t) {clientId : Bytes}
    (haccepted : (t.ask (.connect clientId)).ok = true) :
    OnTrial start (heard ++ [exchange t (.connect clientId)])
      { (t.ask (.connect clientId)).transport with sessionValid := true } := by
  refine ⟨?_, ?_, ?_, fun hinvalid => absurd hinvalid.symm Bool.false_ne_true⟩
  · change (t.ask (.connect clientId)).transport.client.exchanges = _
    rw [ask_exchanges, h.exchanges, List.append_assoc]
  · exact ⟨_, List.mem_append_right _ (List.mem_singleton_self _), rfl, haccepted⟩
  · rw [List.forall_mem_append, List.forall_mem_singleton]
    exact ⟨h.unsubscribed, rfl⟩

theorem openSession (h : BeforeOpening start heard t) (clientId : Bytes) :
    ((t.openSession clientId).ok = true →
        ∃ heard', OnTrial start heard' (t.openSession clientId).transport) ∧
      ((t.openSession clientId).ok = false →
        ∃ heard', BeforeOpening start heard' (t.openSession clientId).transport) := by
  have hset := h.ask_other .setMessageCallback rfl rfl
  have hconfigured := hset.ask_other (.configureTls t.config.endpoint t.config.port
    t.config.rootCaPem t.certificatePem t.privateKeyPem t.config.keepAliveSeconds
    t.config.timeoutMs) rfl rfl
  rw [Esp32AwsIotTransport.openSession, TransportReply.bind_ok, TransportReply.bind_transport,
    TransportReply.bind_ok, TransportReply.bind_transport]
  split
  · exact ⟨fun hok => absurd hok Bool.false_ne_true, fun _ => ⟨_, hconfigured⟩⟩
  rw [TransportReply.bind_ok, TransportReply.bind_transport]
  split
  next hrefused =>
    rw [Bool.not_eq_true'] at hrefused
    exact ⟨fun hok => absurd hok Bool.false_ne_true, fun _ =>
      ⟨_, hconfigured.ask (.connect clientId) rfl fun _ => hrefused⟩⟩
  next haccepted =>
    rw [Bool.not_eq_true', Bool.not_eq_false] at haccepted
    exact ⟨fun _ => ⟨_, hconfigured.opened haccepted⟩,
      fun hfalse => absurd hfalse.symm Bool.false_ne_true⟩

theorem connect (h : BeforeOpening start heard t) (credentials : DeviceCredentialStore)
    (clientId : Bytes) :
    ((t.connect credentials clientId).ok = true →
        ∃ heard', OnTrial start heard' (t.connect credentials clientId).transport) ∧
      ((t.connect credentials clientId).ok = false →
        ∃ heard', BeforeOpening start heard' (t.connect credentials clientId).transport) := by
  have htorn := (h.ask_other .disconnect rfl rfl).of_client
    (t.ask .disconnect).transport.invalidate rfl
  rw [Esp32AwsIotTransport.connect, TransportReply.bind_ok, TransportReply.bind_transport]
  dsimp only
  split
  · exact ⟨fun hok => absurd hok Bool.false_ne_true, fun _ => ⟨_, htorn⟩⟩
  split
  next cert key _ _ =>
    split
    · exact ⟨fun hok => absurd hok Bool.false_ne_true, fun _ => ⟨_, htorn⟩⟩
    · exact (htorn.of_client { (t.ask .disconnect).transport.invalidate with
        certificatePem := cert, privateKeyPem := key } rfl).openSession clientId
  next => exact ⟨fun hok => absurd hok Bool.false_ne_true, fun _ => ⟨_, htorn⟩⟩

end BeforeOpening

namespace OnTrial
open Esp32AwsIotTransport
variable [IMqttClient κ] {start heard : List ClientExchange} {t : RecordedTransport κ}

theorem ask (h : OnTrial start heard t) (hvalid : t.sessionValid = true) (call : MqttClientCall)
    (hcall : call.isSubscribe = false) :
    OnTrial start (heard ++ [exchange t call]) (t.ask call).transport := by
  refine ⟨?_, ?_, ?_, fun hinvalid => absurd (hinvalid.symm.trans hvalid) Bool.false_ne_true⟩
  · rw [ask_exchanges, h.exchanges, List.append_assoc]
  · obtain ⟨e, he, hopens⟩ := h.opened
    exact ⟨e, List.mem_append_left _ he, hopens⟩
  · rw [List.forall_mem_append, List.forall_mem_singleton]
    exact ⟨h.unsubscribed, hcall⟩

theorem ask_refused (h : OnTrial start heard t) (hvalid : t.sessionValid = true)
    (call : MqttClientCall) (hcall : call.isSubscribe = false) (hrefused : (t.ask call).ok = false) :
    OnTrial start (heard ++ [exchange t call]) (t.ask call).transport.invalidate := by
  have hasked := h.ask hvalid call hcall
  refine ⟨hasked.exchanges, hasked.opened, hasked.unsubscribed, fun _ => ⟨exchange t call, ?_, ?_⟩⟩
  · rw [List.getLast?_concat]
    rfl
  · exact hrefused

theorem isConnected (h : OnTrial start heard t) :
    ∃ heard', OnTrial start heard' t.isConnected.transport := by
  rw [Esp32AwsIotTransport.isConnected]
  split
  next hvalid => exact ⟨_, h.ask hvalid .connected rfl⟩
  next => exact ⟨_, h⟩

theorem publish (h : OnTrial start heard t) (message : MqttMessage) (qos : MqttQos) :
    ∃ heard', OnTrial start heard' (t.publish message qos).transport := by
  obtain ⟨heard', hasked⟩ := h.isConnected
  rw [Esp32AwsIotTransport.publish, TransportReply.bind_transport]
  split
  · exact ⟨_, hasked⟩
  next hup =>
    rw [Bool.not_eq_true', Bool.not_eq_false] at hup
    have hvalid := t.isConnected_sessionValid.trans (sessionValid_of_isConnected hup)
    rw [TransportReply.bind_transport]
    split
    next => exact ⟨_, hasked.ask hvalid (.publish message qos) rfl⟩
    next hrefused =>
      rw [Bool.not_eq_true] at hrefused
      exact ⟨_, hasked.ask_refused hvalid (.publish message qos) rfl hrefused⟩

theorem poll (h : OnTrial start heard t) : ∃ heard', OnTrial start heard' t.poll.transport := by
  obtain ⟨heard', hasked⟩ := h.isConnected
  rw [Esp32AwsIotTransport.poll, TransportReply.bind_transport]
  split
  · exact ⟨_, hasked⟩
  next hup =>
    rw [Bool.not_eq_true', Bool.not_eq_false] at hup
    have hvalid := t.isConnected_sessionValid.trans (sessionValid_of_isConnected hup)
    have hpolled := hasked.ask hvalid .poll rfl
    rw [TransportReply.bind_transport, TransportReply.bind_transport]
    split
    next => exact ⟨_, hpolled.ask hvalid .connected rfl⟩
    next hrefused =>
      rw [Bool.not_eq_true] at hrefused
      exact ⟨_, hpolled.ask_refused hvalid .connected rfl hrefused⟩

omit [IMqttClient κ] in
theorem brokeOff (h : OnTrial start heard t) (hinvalid : t.sessionValid = false) :
    BrokeOff heard := by
  refine ⟨h.opened, h.refused hinvalid, fun e he => h.unsubscribed e ?_⟩
  exact List.dropLast_subset heard he

/-- The trial ends with the subscription. -/
theorem subscribe (h : OnTrial start heard t) (topic : Bytes) (qos : MqttQos) :
    ((t.subscribe topic qos).ok = true → GrantedSince start (t.subscribe topic qos).transport) ∧
      ((t.subscribe topic qos).ok = false →
        ∃ heard', (t.subscribe topic qos).transport.client.exchanges = start ++ heard' ∧
          BrokeOff heard') := by
  rw [Esp32AwsIotTransport.subscribe, TransportReply.bind_ok, TransportReply.bind_transport]
  split
  next hdown =>
    refine ⟨fun hok => absurd hok Bool.false_ne_true, fun _ => ?_⟩
    rw [Bool.not_eq_true'] at hdown
    rw [Esp32AwsIotTransport.isConnected] at hdown ⊢
    split at hdown
    next hvalid =>
      rw [if_pos hvalid]
      have hbroken := h.ask_refused hvalid .connected rfl hdown
      exact ⟨_, hbroken.exchanges, hbroken.brokeOff rfl⟩
    next hinvalid =>
      rw [if_neg hinvalid]
      exact ⟨_, h.exchanges, h.brokeOff (Bool.eq_false_iff.mpr hinvalid)⟩
  next hup =>
    obtain ⟨heard', hasked⟩ := h.isConnected
    have hexchanges : (t.isConnected.transport.ask (.subscribe topic qos)).transport.client.exchanges
        = start ++ (heard' ++ [exchange t.isConnected.transport (.subscribe topic qos)]) := by
      rw [ask_exchanges, hasked.exchanges, List.append_assoc]
    rw [TransportReply.bind_ok, TransportReply.bind_transport]
    split
    next hgranted =>
      refine ⟨fun _ => ⟨_, hexchanges, exchange t.isConnected.transport (.subscribe topic qos),
        ?_, rfl, hgranted⟩, fun hfalse => absurd hfalse.symm Bool.false_ne_true⟩
      exact List.mem_append_right _ (List.mem_singleton_self _)
    next hrefused =>
      rw [Bool.not_eq_true] at hrefused
      refine ⟨fun hok => absurd hok Bool.false_ne_true, fun _ => ⟨_, hexchanges, ?_, ?_, ?_⟩⟩
      · obtain ⟨e, he, hopens⟩ := hasked.opened
        exact ⟨e, List.mem_append_left _ he, hopens⟩
      · refine ⟨exchange t.isConnected.transport (.subscribe topic qos), ?_, hrefused⟩
        rw [List.getLast?_concat]
        rfl
      · rw [List.dropLast_concat]
        exact hasked.unsubscribed

end OnTrial

theorem GrantedSince.publish [IMqttClient κ] {start : List ClientExchange} {t : RecordedTransport κ}
    (h : GrantedSince start t) (message : MqttMessage) (qos : MqttQos) :
    GrantedSince start (t.publish message qos).transport := by
  obtain ⟨heard, hexchanges, e, he, hgranted⟩ := h
  obtain ⟨heard', hhears⟩ := t.publish_hears message qos
  refine ⟨heard ++ heard', ?_, e, List.mem_append_left _ he, hgranted⟩
  rw [hhears.exchanges, hexchanges, List.append_assoc]

end InterBridge
