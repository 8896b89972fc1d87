import InterBridge.Foundations.Transitions
import InterBridge.Network.MqttTransport

namespace InterBridge
open Foundations
set_option autoImplicit true

/-- One call into a client: what it was, what the client handed to the message callback during it,
and what it returned. -/
structure ClientExchange where
  call : MqttClientCall
  inbound : List MqttMessage
  ok : Bool
  deriving DecidableEq

/-- A client with a record of all calls into it. -/
structure RecordingClient (κ : Type) where
  client : κ
  exchanges : List ClientExchange := []

instance [IMqttClient κ] : IMqttClient (RecordingClient κ) where
  call recording call :=
    let reply := IMqttClient.call recording.client call
    ⟨⟨reply.transport, recording.exchanges ++ [⟨call, reply.inbound, reply.ok⟩]⟩, reply.inbound,
      reply.ok⟩

/-- A call of one of the transport's operations. -/
inductive TransportCall where
  | connect (credentials : DeviceCredentialStore) (clientId : Bytes)
  | disconnect
  | publish (message : MqttMessage) (qos : MqttQos)
  | subscribe (topic : Bytes) (qos : MqttQos)
  | poll
  | isConnected

/-- What an operation returned, and what it handed to the application's callback. -/
structure CallOutcome where
  inbound : List MqttMessage
  ok : Bool

abbrev RecordedTransport (κ : Type) := Esp32AwsIotTransport (RecordingClient κ)

abbrev TransportTransition (κ : Type) := Transition (RecordedTransport κ) TransportCall CallOutcome

namespace TransportTransition

/-- The calls into the client during this step. -/
def exchanges (u : TransportTransition κ) : List ClientExchange :=
  u.after.client.exchanges.drop u.before.client.exchanges.length

/-- What the client handed to the message callback during this step. -/
def arrived (u : TransportTransition κ) : List MqttMessage :=
  (exchanges u).flatMap ClientExchange.inbound

def IsConnect (u : TransportTransition κ) : Prop :=
  ∃ credentials clientId, u.input = .connect credentials clientId

/-- A `connect()` that returned true. -/
def Connected (u : TransportTransition κ) : Prop := IsConnect u ∧ u.output.ok = true

/-- A `subscribe()` that returned true. -/
def Subscribed (u : TransportTransition κ) : Prop :=
  (∃ topic qos, u.input = .subscribe topic qos) ∧ u.output.ok = true

end TransportTransition

namespace Esp32AwsIotTransport
variable [IMqttClient κ]

def reply (t : Esp32AwsIotTransport κ) : TransportCall → TransportReply (Esp32AwsIotTransport κ)
  | .connect credentials clientId => t.connect credentials clientId
  | .disconnect => t.disconnect
  | .publish message qos => t.publish message qos
  | .subscribe topic qos => t.subscribe topic qos
  | .poll => t.poll
  | .isConnected => t.isConnected

def step (t : Esp32AwsIotTransport κ) (call : TransportCall) :
    Esp32AwsIotTransport κ × CallOutcome :=
  ((t.reply call).transport, ⟨(t.reply call).inbound, (t.reply call).ok⟩)

theorem step_invalid {t : Esp32AwsIotTransport κ} (h : t.sessionValid = false)
    (call : TransportCall) :
    (t.step call).1.sessionValid = true →
      ∃ credentials clientId, call = .connect credentials clientId ∧ (t.step call).2.ok = true := by
  intro hvalid
  have hdown := isConnected_of_invalid h
  cases call with
  | connect credentials clientId =>
    refine ⟨credentials, clientId, rfl, ?_⟩
    exact (connect_sessionValid t credentials clientId).symm.trans hvalid
  | disconnect => exact absurd hvalid Bool.false_ne_true
  | publish message qos =>
    change (t.publish message qos).transport.sessionValid = true at hvalid
    rw [publish, hdown] at hvalid
    exact absurd (h.symm.trans hvalid) Bool.false_ne_true
  | subscribe topic qos =>
    change (t.subscribe topic qos).transport.sessionValid = true at hvalid
    rw [subscribe, hdown] at hvalid
    exact absurd hvalid Bool.false_ne_true
  | poll =>
    change t.poll.transport.sessionValid = true at hvalid
    rw [poll, hdown] at hvalid
    exact absurd (h.symm.trans hvalid) Bool.false_ne_true
  | isConnected =>
    change t.isConnected.transport.sessionValid = true at hvalid
    rw [hdown] at hvalid
    exact absurd (h.symm.trans hvalid) Bool.false_ne_true

end Esp32AwsIotTransport

/-- From `t` to the reply, the record grew by `heard`, and if there is a callback it was given the
messages that arrived meanwhile. -/
structure Hears (t : RecordedTransport κ) (reply : TransportReply (RecordedTransport κ))
    (heard : List ClientExchange) : Prop where
  exchanges : reply.transport.client.exchanges = t.client.exchanges ++ heard
  inbound : reply.inbound = if t.callback then heard.flatMap ClientExchange.inbound else []

theorem Hears.pure {t t' : RecordedTransport κ} (h : t'.client = t.client) (ok : Bool) :
    Hears t (.pure t' ok) [] := by
  constructor
  · rw [List.append_nil, ← h]
    rfl
  · split
    · rfl
    · rfl

theorem Hears.bind {t : RecordedTransport κ} {reply : TransportReply (RecordedTransport κ)}
    {next : Bool → RecordedTransport κ → TransportReply (RecordedTransport κ)}
    (h : Hears t reply heard) (hcallback : reply.transport.callback = t.callback)
    (hnext : Hears reply.transport (next reply.ok reply.transport) heard') :
    Hears t (reply.bind next) (heard ++ heard') := by
  constructor
  · change (next reply.ok reply.transport).transport.client.exchanges = _
    rw [hnext.exchanges, h.exchanges, List.append_assoc]
  · change reply.inbound ++ (next reply.ok reply.transport).inbound = _
    rw [hnext.inbound, h.inbound, hcallback, List.flatMap_append]
    split
    · rfl
    · rfl

namespace Esp32AwsIotTransport
variable [IMqttClient κ]

/-- The record of a call into the client. -/
def exchange (t : RecordedTransport κ) (call : MqttClientCall) : ClientExchange :=
  ⟨call, (IMqttClient.call t.client.client call).inbound,
    (IMqttClient.call t.client.client call).ok⟩

theorem ask_hears (t : RecordedTransport κ) (call : MqttClientCall) :
    Hears t (t.ask call) [exchange t call] := by
  constructor
  · rfl
  · rw [List.flatMap_singleton]
    rfl

theorem isConnected_hears (t : RecordedTransport κ) :
    Hears t t.isConnected (if t.sessionValid then [exchange t .connected] else []) := by
  rw [isConnected]
  split
  · exact ask_hears t .connected
  · exact .pure (by rfl) false

omit [IMqttClient κ] in
theorem isConnected_callback [IMqttClient κ] (t : Esp32AwsIotTransport κ) :
    t.isConnected.transport.callback = t.callback := by
  rw [isConnected]
  split
  · rfl
  · rfl

theorem ask_bind_hears_first (t : RecordedTransport κ) (call : MqttClientCall)
    {next : Bool → RecordedTransport κ → TransportReply (RecordedTransport κ)}
    (hnext : ∀ ok t', ∃ heard, Hears t' (next ok t') heard) :
    ∃ heard, Hears t ((t.ask call).bind next) (exchange t call :: heard) := by
  obtain ⟨heard, hnext⟩ := hnext (t.ask call).ok (t.ask call).transport
  exact ⟨heard, (ask_hears t call).bind rfl hnext⟩

theorem ask_bind_hears (t : RecordedTransport κ) (call : MqttClientCall)
    {next : Bool → RecordedTransport κ → TransportReply (RecordedTransport κ)}
    (hnext : ∀ ok t', ∃ heard, Hears t' (next ok t') heard) :
    ∃ heard, Hears t ((t.ask call).bind next) heard := by
  obtain ⟨heard, h⟩ := ask_bind_hears_first t call hnext
  exact ⟨_, h⟩

theorem isConnected_bind_hears (t : RecordedTransport κ)
    {next : Bool → RecordedTransport κ → TransportReply (RecordedTransport κ)}
    (hnext : ∀ ok t', ∃ heard, Hears t' (next ok t') heard) :
    ∃ heard, Hears t (t.isConnected.bind next) heard := by
  obtain ⟨heard, hnext⟩ := hnext t.isConnected.ok t.isConnected.transport
  exact ⟨_, (isConnected_hears t).bind t.isConnected_callback hnext⟩

theorem openSession_hears (t : RecordedTransport κ) (clientId : Bytes) :
    ∃ heard, Hears t (t.openSession clientId) heard := by
  rw [openSession]
  apply ask_bind_hears
  intro _ t
  apply ask_bind_hears
  intro configured t
  split
  · exact ⟨[], .pure (by rfl) false⟩
  apply ask_bind_hears
  intro connected t
  split
  · exact ⟨[], .pure (by rfl) false⟩
  · exact ⟨[], .pure (by rfl) true⟩

/-- `connect` ends the old session on the client before it does anything else. -/
theorem connect_hears (t : RecordedTransport κ) (credentials : DeviceCredentialStore)
    (clientId : Bytes) :
    ∃ heard, Hears t (t.connect credentials clientId) (exchange t .disconnect :: heard) := by
  rw [connect]
  apply ask_bind_hears_first
  intro _ t
  dsimp only
  split
  · exact ⟨[], .pure (by rfl) false⟩
  split
  next cert key _ _ =>
    split
    · exact ⟨[], .pure (by rfl) false⟩
    · obtain ⟨heard, h⟩ := openSession_hears
        { t.invalidate with certificatePem := cert, privateKeyPem := key } clientId
      exact ⟨heard, h.exchanges, h.inbound⟩
  next => exact ⟨[], .pure (by rfl) false⟩

theorem disconnect_hears (t : RecordedTransport κ) : ∃ heard, Hears t t.disconnect heard := by
  rw [disconnect]
  apply ask_bind_hears
  intro _ t
  exact ⟨[], .pure (by rfl) true⟩

theorem publish_hears (t : RecordedTransport κ) (message : MqttMessage) (qos : MqttQos) :
    ∃ heard, Hears t (t.publish message qos) heard := by
  rw [publish]
  apply isConnected_bind_hears
  intro connected t
  split
  · exact ⟨[], .pure (by rfl) false⟩
  apply ask_bind_hears
  intro ok t
  split
  · exact ⟨[], .pure (by rfl) true⟩
  · exact ⟨[], .pure (by rfl) false⟩

theorem subscribe_hears (t : RecordedTransport κ) (topic : Bytes) (qos : MqttQos) :
    ∃ heard, Hears t (t.subscribe topic qos) heard := by
  rw [subscribe]
  apply isConnected_bind_hears
  intro connected t
  split
  · exact ⟨[], .pure (by rfl) false⟩
  apply ask_bind_hears
  intro ok t
  split
  · exact ⟨[], .pure (by rfl) true⟩
  · exact ⟨[], .pure (by rfl) false⟩

theorem poll_hears (t : RecordedTransport κ) : ∃ heard, Hears t t.poll heard := by
  rw [poll]
  apply isConnected_bind_hears
  intro connected t
  split
  · exact ⟨[], .pure (by rfl) true⟩
  apply ask_bind_hears
  intro _ t
  apply ask_bind_hears
  intro connected t
  split
  · exact ⟨[], .pure (by rfl) true⟩
  · exact ⟨[], .pure (by rfl) true⟩

/-- Every operation keeps a record, and what it hands on arrived during it. -/
theorem reply_hears (t : RecordedTransport κ) (call : TransportCall) :
    ∃ heard, Hears t (t.reply call) heard := by
  cases call with
  | connect credentials clientId =>
    obtain ⟨heard, h⟩ := t.connect_hears credentials clientId
    exact ⟨_, h⟩
  | disconnect => exact t.disconnect_hears
  | publish message qos => exact t.publish_hears message qos
  | subscribe topic qos => exact t.subscribe_hears topic qos
  | poll => exact t.poll_hears
  | isConnected => exact ⟨_, t.isConnected_hears⟩

end Esp32AwsIotTransport

theorem TransportTransition.exchanges_of_hears [IMqttClient κ] {t : RecordedTransport κ}
    (call : TransportCall) (h : Hears t (t.reply call) heard) :
    exchanges (.of Esp32AwsIotTransport.step t call) = heard := by
  change (t.reply call).transport.client.exchanges.drop t.client.exchanges.length = heard
  rw [h.exchanges, List.drop_left]

namespace Esp32AwsIotTransport

/-- A transport that was just constructed. -/
def constructed (config : AwsIotConnectionConfig) (client : κ) : RecordedTransport κ where
  config := config
  client := { client := client }

def awsConfig : AwsIotConnectionConfig where
  endpoint := ascii "a-ats.iot.eu-west-1.amazonaws.com"
  region := ascii "eu-west-1"
  rootCaPem := ascii "root CA"

/-- A `connect` with credentials as provisioning stores them. -/
def openCall : TransportCall :=
  .connect ((PersistentStore.empty.set kCertificateKey (ascii "certificate")).set kPrivateKeyKey
    (ascii "private key")) (ascii "ib-0123456789abcdef0123456789abcdef")

end Esp32AwsIotTransport
end InterBridge
