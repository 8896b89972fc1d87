import InterBridge.Foundations.History
import InterBridge.Network.MqttTopics
import InterBridge.Network.TransportCalls

namespace InterBridge
open Foundations
set_option autoImplicit true

namespace MqttClientCall

def isConnect : MqttClientCall → Bool
  | .connect _ => true
  | _ => false

/-- The call neither opens a session nor ends one. -/
def staysInSession : MqttClientCall → Bool
  | .connect _ | .disconnect => false
  | _ => true

end MqttClientCall

namespace ClientExchange

def Stays (e : ClientExchange) : Prop := e.call.staysInSession = true

def Opens (e : ClientExchange) : Prop := e.call.isConnect = true ∧ e.ok = true

def Subscribes (topic : Bytes) (e : ClientExchange) : Prop :=
  e.call = .subscribe topic .atLeastOnce ∧ e.ok = true

end ClientExchange

/-- The last thing the client answered is that it is connected. -/
def Answered (earlier : List ClientExchange) : Prop :=
  ∃ e ∈ earlier.getLast?, e.call = .connected ∧ e.ok = true

/-- A session was opened, and has not been ended since. -/
def OnSession (earlier : List ClientExchange) : Prop :=
  Since ClientExchange.Stays ClientExchange.Opens earlier

/-- The subscription was granted, and the session has not been ended since. -/
def OnSubscription (topic : Bytes) (earlier : List ClientExchange) : Prop :=
  Since ClientExchange.Stays (ClientExchange.Subscribes topic) earlier

/-- Who talks to the broker, what about, and what it asks of the client on an open session and what
only once it is subscribed. -/
structure WirePlan where
  clientId : Bytes
  commands : Bytes
  early : MqttClientCall → Prop
  late : MqttClientCall → Prop

/-- The session is far enough for this call. -/
def WirePlan.Serves (plan : WirePlan) (earlier : List ClientExchange) (call : MqttClientCall) :
    Prop :=
  plan.early call ∧ OnSession earlier ∨ plan.late call ∧ OnSubscription plan.commands earlier

/-- When a call into the client is in order. -/
def WirePlan.Allows (plan : WirePlan) (earlier : List ClientExchange) (e : ClientExchange) : Prop :=
  match e.call with
  | .connect clientId =>
    clientId = plan.clientId ∧
      Since (fun w => w.call.isConnect = false) (fun w => w.call = .disconnect) earlier
  | .subscribe topic qos =>
    topic = plan.commands ∧ qos = .atLeastOnce ∧ OnSession earlier ∧ Answered earlier
  | .publish message qos => plan.Serves earlier (.publish message qos) ∧ Answered earlier
  | .poll => plan.Serves earlier .poll ∧ Answered earlier
  | .configureTls .. | .setMessageCallback | .disconnect | .connected => True

/-- The client is asked in order, and a trusted session was marked and has not been ended since. -/
structure Trusts (plan : WirePlan) (mark : ClientExchange → Prop) (t : RecordedTransport κ) :
    Prop where
  lawful : Lawful plan.Allows t.client.exchanges
  trusted : t.sessionValid = true → Since ClientExchange.Stays mark t.client.exchanges

/-- A trusted session has its subscription. -/
abbrev Orderly (plan : WirePlan) (t : RecordedTransport κ) : Prop :=
  Trusts plan (ClientExchange.Subscribes plan.commands) t

/-- A trusted session was opened. -/
abbrev Opened (plan : WirePlan) (t : RecordedTransport κ) : Prop :=
  Trusts plan ClientExchange.Opens t

namespace Trusts
variable {plan : WirePlan} {mark : ClientExchange → Prop} {t : RecordedTransport κ}

theorem of_invalid (h : Lawful plan.Allows t.client.exchanges) (hinvalid : t.sessionValid = false) :
    Trusts plan mark t :=
  ⟨h, fun hvalid => absurd (hinvalid.symm.trans hvalid) Bool.false_ne_true⟩

theorem invalidate (h : Trusts plan mark t) : Trusts plan mark t.invalidate :=
  of_invalid h.lawful rfl

end Trusts

namespace Esp32AwsIotTransport
variable [IMqttClient κ] {plan : WirePlan} {t : RecordedTransport κ}

theorem ask_exchanges (t : RecordedTransport κ) (call : MqttClientCall) :
    (t.ask call).transport.client.exchanges = t.client.exchanges ++ [exchange t call] := rfl

theorem lawful_ask (h : Lawful plan.Allows t.client.exchanges) (call : MqttClientCall)
    (hcall : plan.Allows t.client.exchanges (exchange t call)) :
    Lawful plan.Allows (t.ask call).transport.client.exchanges := by
  rw [ask_exchanges, lawful_concat]
  exact ⟨h, hcall⟩

theorem since_ask {mark : ClientExchange → Prop} (h : Since ClientExchange.Stays mark
    t.client.exchanges) (hstays : (exchange t call).Stays) :
    Since ClientExchange.Stays mark (t.ask call).transport.client.exchanges := by
  rw [ask_exchanges, since_concat]
  exact .inr ⟨hstays, h⟩

theorem isConnected_up (h : t.isConnected.ok = true) :
    t.isConnected.transport = (t.ask .connected).transport ∧ t.sessionValid = true ∧
      Answered t.isConnected.transport.client.exchanges := by
  have hvalid := sessionValid_of_isConnected h
  rw [isConnected_of_valid hvalid] at h ⊢
  refine ⟨rfl, hvalid, exchange t .connected, ?_, rfl, h⟩
  rw [ask_exchanges, List.getLast?_concat]
  rfl

end Esp32AwsIotTransport

theorem WirePlan.Serves.ask [IMqttClient κ] {plan : WirePlan} {t : RecordedTransport κ}
    (h : plan.Serves t.client.exchanges call)
    (hstays : (Esp32AwsIotTransport.exchange t asked).Stays) :
    plan.Serves (t.ask asked).transport.client.exchanges call := by
  rcases h with ⟨hearly, hsession⟩ | ⟨hlate, hsubscription⟩
  · exact .inl ⟨hearly, Esp32AwsIotTransport.since_ask hsession hstays⟩
  · exact .inr ⟨hlate, Esp32AwsIotTransport.since_ask hsubscription hstays⟩

namespace Trusts
open Esp32AwsIotTransport
variable [IMqttClient κ] {plan : WirePlan} {mark : ClientExchange → Prop} {t : RecordedTransport κ}

theorem ask (h : Trusts plan mark t) (call : MqttClientCall)
    (hcall : plan.Allows t.client.exchanges (exchange t call)) (hstays : (exchange t call).Stays) :
    Trusts plan mark (t.ask call).transport :=
  ⟨lawful_ask h.lawful call hcall, fun hvalid => since_ask (h.trusted hvalid) hstays⟩

theorem isConnected (h : Trusts plan mark t) : Trusts plan mark t.isConnected.transport := by
  rw [Esp32AwsIotTransport.isConnected]
  split
  · exact h.ask .connected trivial rfl
  · exact h

theorem publish (h : Trusts plan mark t) (hserves : t.sessionValid = true →
    plan.Serves t.client.exchanges (.publish message qos)) :
    Trusts plan mark (t.publish message qos).transport := by
  rw [Esp32AwsIotTransport.publish, TransportReply.bind_transport]
  split
  next => exact h.isConnected
  next hup =>
    rw [Bool.not_eq_true', Bool.not_eq_false] at hup
    obtain ⟨hsame, hvalid, hanswered⟩ := isConnected_up hup
    have hserves' : plan.Serves t.isConnected.transport.client.exchanges
        (.publish message qos) := by
      rw [hsame]
      exact (hserves hvalid).ask rfl
    have hasked : Trusts plan mark
        (t.isConnected.transport.ask (.publish message qos)).transport :=
      h.isConnected.ask _ ⟨hserves', hanswered⟩ rfl
    rw [TransportReply.bind_transport]
    split
    · exact hasked
    · exact hasked.invalidate

theorem poll (h : Trusts plan mark t)
    (hserves : t.sessionValid = true → plan.Serves t.client.exchanges .poll) :
    Trusts plan mark t.poll.transport := by
  rw [Esp32AwsIotTransport.poll, TransportReply.bind_transport]
  split
  next => exact h.isConnected
  next hup =>
    rw [Bool.not_eq_true', Bool.not_eq_false] at hup
    obtain ⟨hsame, hvalid, hanswered⟩ := isConnected_up hup
    have hserves' : plan.Serves t.isConnected.transport.client.exchanges .poll := by
      rw [hsame]
      exact (hserves hvalid).ask rfl
    have hpolled : Trusts plan mark (t.isConnected.transport.ask .poll).transport :=
      h.isConnected.ask _ ⟨hserves', hanswered⟩ rfl
    have hasked := hpolled.ask .connected trivial rfl
    rw [TransportReply.bind_transport, TransportReply.bind_transport]
    split
    · exact hasked
    · exact hasked.invalidate

theorem disconnect (h : Trusts plan mark t) : Trusts plan mark t.disconnect.transport :=
  of_invalid (lawful_ask h.lawful .disconnect trivial) rfl

end Trusts

namespace Opened
open Esp32AwsIotTransport
variable [IMqttClient κ] {plan : WirePlan} {t : RecordedTransport κ}

/-- A session that was just opened gets its subscription, or is no longer trusted. -/
theorem subscribe (h : Opened plan t) :
    Opened plan (t.subscribe plan.commands .atLeastOnce).transport ∧
      Orderly plan (t.subscribe plan.commands .atLeastOnce).transport := by
  have hasked := h.isConnected
  rw [Esp32AwsIotTransport.subscribe, TransportReply.bind_transport]
  split
  next => exact ⟨.of_invalid hasked.lawful rfl, .of_invalid hasked.lawful rfl⟩
  next hup =>
    rw [Bool.not_eq_true', Bool.not_eq_false] at hup
    obtain ⟨_, hvalid, hanswered⟩ := isConnected_up hup
    have hsession : OnSession t.isConnected.transport.client.exchanges :=
      hasked.trusted (t.isConnected_sessionValid.trans hvalid)
    have hsubscribed : Opened plan (t.isConnected.transport.ask
        (.subscribe plan.commands .atLeastOnce)).transport :=
      hasked.ask _ ⟨rfl, rfl, hsession, hanswered⟩ rfl
    rw [TransportReply.bind_transport]
    split
    next hgranted =>
      exact ⟨⟨hsubscribed.lawful, hsubscribed.trusted⟩, hsubscribed.lawful,
        fun _ => since_concat.mpr (.inl ⟨rfl, hgranted⟩)⟩
    next => exact ⟨.of_invalid hsubscribed.lawful rfl, .of_invalid hsubscribed.lawful rfl⟩

theorem openSession (h : Lawful plan.Allows t.client.exchanges) (hinvalid : t.sessionValid = false)
    (hdown : ∃ earlier e, t.client.exchanges = earlier ++ [e] ∧ e.call = .disconnect) :
    Opened plan (t.openSession plan.clientId).transport := by
  rw [Esp32AwsIotTransport.openSession, TransportReply.bind_transport,
    TransportReply.bind_transport]
  have hconfigured := lawful_ask (lawful_ask h .setMessageCallback trivial) (.configureTls
    t.config.endpoint t.config.port t.config.rootCaPem t.certificatePem t.privateKeyPem
    t.config.keepAliveSeconds t.config.timeoutMs) trivial
  split
  · exact .of_invalid hconfigured hinvalid
  have htorn : Since (fun w : ClientExchange => w.call.isConnect = false)
      (fun w => w.call = .disconnect) ((t.ask .setMessageCallback).transport.ask
        (.configureTls t.config.endpoint t.config.port t.config.rootCaPem t.certificatePem
          t.privateKeyPem t.config.keepAliveSeconds t.config.timeoutMs)).transport.client.exchanges
      := by
    obtain ⟨earlier, e, hexchanges, hdisconnect⟩ := hdown
    rw [ask_exchanges, ask_exchanges, hexchanges, since_concat, since_concat, since_concat]
    exact .inr ⟨rfl, .inr ⟨rfl, .inl hdisconnect⟩⟩
  have hconnected := lawful_ask hconfigured (.connect plan.clientId) ⟨rfl, htorn⟩
  rw [TransportReply.bind_transport]
  split
  next => exact .of_invalid hconnected hinvalid
  next hopened =>
    rw [Bool.not_eq_true', Bool.not_eq_false] at hopened
    exact ⟨hconnected, fun _ => since_concat.mpr (.inl ⟨rfl, hopened⟩)⟩

theorem connect (h : Lawful plan.Allows t.client.exchanges) (credentials : DeviceCredentialStore) :
    Opened plan (t.connect credentials plan.clientId).transport := by
  have htorn := lawful_ask h .disconnect trivial
  rw [Esp32AwsIotTransport.connect, TransportReply.bind_transport]
  dsimp only
  split
  · exact .of_invalid htorn rfl
  split
  next =>
    split
    · exact .of_invalid htorn rfl
    · exact openSession htorn rfl ⟨_, _, rfl, rfl⟩
  next => exact .of_invalid htorn rfl

end Opened
end InterBridge
