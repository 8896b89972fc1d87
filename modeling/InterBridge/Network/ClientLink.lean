import InterBridge.Network.TransportCalls

namespace InterBridge
open Foundations
set_option autoImplicit true

namespace MqttClientCall

/-- Whether a client that does as it is asked has its link up after the call, -/
def link : MqttClientCall → Bool → Bool
  | .connect _, _ => true
  | .disconnect, _ => false
  | _, up => up

/-- and what it returns. -/
def answer : MqttClientCall → Bool → Bool
  | .connected, up | .publish _ _, up | .subscribe _ _, up | .poll, up => up
  | _, _ => true

end MqttClientCall

/-- Every call of an operation keeps `P`. -/
def KeptByCalls [IMqttClient κ] (P : Esp32AwsIotTransport κ → Prop) : Prop :=
  ∀ t call, P t → P (t.reply call).transport

/-- An operation changes the client by calls into it, and never the settings. -/
theorem keptByCalls_of_client [IMqttClient κ] {Q : AwsIotConnectionConfig → κ → Prop}
    (hask : ∀ config client call, Q config client →
      Q config (IMqttClient.call client call).transport) :
    KeptByCalls fun t : Esp32AwsIotTransport κ => Q t.config t.client := by
  intro t call h
  have hasked (t : Esp32AwsIotTransport κ) (h : Q t.config t.client) :
      Q t.isConnected.transport.config t.isConnected.transport.client := by
    rw [Esp32AwsIotTransport.isConnected]
    split
    · exact hask _ _ .connected h
    · exact h
  cases call with
  | connect credentials clientId =>
    have hdown := hask _ _ .disconnect h
    rw [Esp32AwsIotTransport.reply, Esp32AwsIotTransport.connect, TransportReply.bind_transport]
    dsimp only
    split
    · exact hdown
    split
    next cert key _ _ =>
      split
      · exact hdown
      have hset := hask _ _ .setMessageCallback hdown
      rw [Esp32AwsIotTransport.openSession, TransportReply.bind_transport,
        TransportReply.bind_transport]
      split
      · exact hask _ _ _ hset
      rw [TransportReply.bind_transport]
      split
      · exact hask _ _ (.connect clientId) (hask _ _ _ hset)
      · exact hask _ _ (.connect clientId) (hask _ _ _ hset)
    next => exact hdown
  | disconnect => exact hask _ _ .disconnect h
  | publish message qos =>
    rw [Esp32AwsIotTransport.reply, Esp32AwsIotTransport.publish, TransportReply.bind_transport]
    split
    · exact hasked t h
    rw [TransportReply.bind_transport]
    split
    · exact hask _ _ (.publish message qos) (hasked t h)
    · exact hask _ _ (.publish message qos) (hasked t h)
  | subscribe topic qos =>
    rw [Esp32AwsIotTransport.reply, Esp32AwsIotTransport.subscribe, TransportReply.bind_transport]
    split
    · exact hasked t h
    rw [TransportReply.bind_transport]
    split
    · exact hask _ _ (.subscribe topic qos) (hasked t h)
    · exact hask _ _ (.subscribe topic qos) (hasked t h)
  | poll =>
    rw [Esp32AwsIotTransport.reply, Esp32AwsIotTransport.poll, TransportReply.bind_transport]
    split
    · exact hasked t h
    have hpolled := hask _ _ .connected (hask _ _ .poll (hasked t h))
    rw [TransportReply.bind_transport, TransportReply.bind_transport]
    split
    · exact hpolled
    · exact hpolled
  | isConnected => exact hasked t h

/-- From the states `good up` on the client does as it is asked: it is a link, which is up or not.
What it hands to the callback is open. -/
structure Cooperates [IMqttClient κ] (good : Bool → κ → Prop) : Prop where
  link : ∀ up client call, good up client →
    good (call.link up) (IMqttClient.call client call).transport
  answer : ∀ up client call, good up client →
    (IMqttClient.call client call).ok = call.answer up

/-- The transport trusts its session, and the link is up. -/
structure Live (good : Bool → κ → Prop) (t : Esp32AwsIotTransport κ) : Prop where
  valid : t.sessionValid = true
  up : good true t.client

/-- What `connect` checks before it asks the client. -/
structure Configured (config : AwsIotConnectionConfig) (credentials : DeviceCredentialStore)
    (clientId : Bytes) : Prop where
  endpoint : Esp32AwsIotTransport.validEndpoint config.endpoint = true
  deviceId : Esp32AwsIotTransport.validDeviceId clientId = true
  rootCa : config.rootCaPem ≠ []
  certificate : ∃ cert, credentials.get kCertificateKey = some cert ∧ cert ≠ []
  privateKey : ∃ key, credentials.get kPrivateKeyKey = some key ∧ key ≠ []

namespace Cooperates
variable [IMqttClient κ] {good : Bool → κ → Prop} {t : Esp32AwsIotTransport κ}

theorem ask (h : Cooperates good) (hclient : good up t.client) (call : MqttClientCall) :
    good (call.link up) (t.ask call).transport.client := h.link up t.client call hclient

theorem ask_ok (h : Cooperates good) (hclient : good up t.client) {call : MqttClientCall}
    (hcall : call.answer up = true) : (t.ask call).ok = true :=
  (h.answer up t.client call hclient).trans hcall

theorem isConnected (h : Cooperates good) (hclient : good up t.client) :
    good up t.isConnected.transport.client ∧
      (t.isConnected.ok = true → Live good t.isConnected.transport) := by
  have hlink : good up (t.ask .connected).transport.client := h.ask hclient .connected
  rw [Esp32AwsIotTransport.isConnected]
  split
  next hvalid =>
    refine ⟨hlink, fun hok => ⟨hvalid, ?_⟩⟩
    have hup : up = true := (h.answer up t.client .connected hclient).symm.trans hok
    rw [hup] at hlink
    exact hlink
  next => exact ⟨hclient, fun hok => absurd hok Bool.false_ne_true⟩

theorem openSession (h : Cooperates good) (hclient : good false t.client) (clientId : Bytes) :
    (t.openSession clientId).ok = true ∧ Live good (t.openSession clientId).transport := by
  have hset := h.ask hclient .setMessageCallback
  rw [Esp32AwsIotTransport.openSession, TransportReply.bind_ok, TransportReply.bind_transport,
    TransportReply.bind_ok, TransportReply.bind_transport]
  generalize (t.ask .setMessageCallback).transport = t at hset
  have hconfigured : (t.ask (.configureTls t.config.endpoint t.config.port t.config.rootCaPem
      t.certificatePem t.privateKeyPem t.config.keepAliveSeconds t.config.timeoutMs)).ok = true :=
    h.ask_ok hset rfl
  have htls := h.ask hset (.configureTls t.config.endpoint t.config.port t.config.rootCaPem
    t.certificatePem t.privateKeyPem t.config.keepAliveSeconds t.config.timeoutMs)
  rw [hconfigured, Bool.not_true, if_neg Bool.false_ne_true, TransportReply.bind_ok,
    TransportReply.bind_transport, h.ask_ok htls rfl, Bool.not_true, if_neg Bool.false_ne_true]
  exact ⟨rfl, rfl, h.ask htls (.connect clientId)⟩

theorem connect (h : Cooperates good) (hclient : good up t.client)
    (hconfigured : Configured t.config credentials clientId) :
    (t.connect credentials clientId).ok = true ∧
      Live good (t.connect credentials clientId).transport := by
  obtain ⟨cert, hcert, hcertNonempty⟩ := hconfigured.certificate
  obtain ⟨key, hkey, hkeyNonempty⟩ := hconfigured.privateKey
  have hguard : (!Esp32AwsIotTransport.validEndpoint t.config.endpoint ||
      !Esp32AwsIotTransport.validDeviceId clientId || t.config.rootCaPem.isEmpty ||
      !credentials.hasCertificate || !credentials.hasPrivateKey) = false := by
    rw [hconfigured.endpoint, hconfigured.deviceId, DeviceCredentialStore.hasCertificate,
      DeviceCredentialStore.hasPrivateKey, PersistentStore.has, PersistentStore.has, hcert, hkey,
      List.isEmpty_eq_false_iff.mpr hconfigured.rootCa]
    rfl
  rw [Esp32AwsIotTransport.connect, TransportReply.bind_ok, TransportReply.bind_transport]
  dsimp only
  split
  next hrefused => exact absurd (hguard.symm.trans hrefused) Bool.false_ne_true
  split
  next cert' key' hcert' hkey' =>
    cases hcert.symm.trans hcert'
    cases hkey.symm.trans hkey'
    rw [List.isEmpty_eq_false_iff.mpr hcertNonempty, List.isEmpty_eq_false_iff.mpr hkeyNonempty,
      Bool.or_self, if_neg Bool.false_ne_true]
    apply h.openSession
    exact h.ask hclient .disconnect
  next hnone => exact absurd hkey (hnone cert key hcert)

theorem recording (h : Cooperates good) :
    Cooperates fun up (client : RecordingClient κ) => good up client.client where
  link up client call := h.link up client.client call
  answer up client call := h.answer up client.client call

end Cooperates

namespace Live
variable [IMqttClient κ] {good : Bool → κ → Prop} {t : Esp32AwsIotTransport κ}

theorem ask (h : Live good t) (hcoop : Cooperates good) {call : MqttClientCall}
    (hlink : call.link true = true) : Live good (t.ask call).transport := by
  have hup := hcoop.ask h.up call
  rw [hlink] at hup
  exact ⟨h.valid, hup⟩

theorem isConnected (h : Live good t) (hcoop : Cooperates good) :
    t.isConnected.ok = true ∧ Live good t.isConnected.transport := by
  rw [Esp32AwsIotTransport.isConnected_of_valid h.valid]
  exact ⟨hcoop.ask_ok h.up rfl, h.ask hcoop rfl⟩

theorem publish (h : Live good t) (hcoop : Cooperates good) (message : MqttMessage)
    (qos : MqttQos) :
    (t.publish message qos).ok = true ∧ Live good (t.publish message qos).transport := by
  obtain ⟨hup, hlive⟩ := h.isConnected hcoop
  rw [Esp32AwsIotTransport.publish, TransportReply.bind_ok, TransportReply.bind_transport, hup,
    Bool.not_true, if_neg Bool.false_ne_true, TransportReply.bind_ok,
    TransportReply.bind_transport, hcoop.ask_ok hlive.up rfl]
  exact ⟨rfl, hlive.ask hcoop rfl⟩

theorem subscribe (h : Live good t) (hcoop : Cooperates good) (topic : Bytes) (qos : MqttQos) :
    (t.subscribe topic qos).ok = true ∧ Live good (t.subscribe topic qos).transport := by
  obtain ⟨hup, hlive⟩ := h.isConnected hcoop
  have hasked : Live good (t.isConnected.transport.ask (.subscribe topic qos)).transport :=
    hlive.ask hcoop rfl
  rw [Esp32AwsIotTransport.subscribe, TransportReply.bind_ok, TransportReply.bind_transport, hup,
    Bool.not_true, if_neg Bool.false_ne_true, TransportReply.bind_ok,
    TransportReply.bind_transport, hcoop.ask_ok hlive.up rfl]
  exact ⟨rfl, hasked.valid, hasked.up⟩

theorem poll (h : Live good t) (hcoop : Cooperates good) : Live good t.poll.transport := by
  obtain ⟨hup, hlive⟩ := h.isConnected hcoop
  have hpolled : Live good (t.isConnected.transport.ask .poll).transport := hlive.ask hcoop rfl
  rw [Esp32AwsIotTransport.poll, TransportReply.bind_transport, hup, Bool.not_true,
    if_neg Bool.false_ne_true, TransportReply.bind_transport, TransportReply.bind_transport,
    hcoop.ask_ok hpolled.up rfl]
  exact hpolled.ask hcoop rfl

end Live

/-- A client that refuses a number of connections, and then does as it is asked. -/
structure RefusingAtFirst where
  refusals : Nat
  up : Bool
  deriving DecidableEq

instance : IMqttClient RefusingAtFirst where
  call client call :=
    match client.refusals, call with
    | refusals + 1, .connect _ => .pure { client with refusals := refusals } false
    | _, _ => .pure { client with up := call.link client.up } (call.answer client.up)

theorem refusingAtFirst_cooperates :
    Cooperates fun up (client : RefusingAtFirst) => client = ⟨0, up⟩ where
  link _ _ _ h := h ▸ rfl
  answer _ _ _ h := h ▸ rfl

end InterBridge
