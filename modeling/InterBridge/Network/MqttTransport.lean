import InterBridge.Network.DeviceTransport
import InterBridge.Storage.CredentialStore

namespace InterBridge
open Foundations
set_option autoImplicit true

structure AwsIotConnectionConfig where
  endpoint : Bytes
  region : Bytes
  rootCaPem : Bytes
  port : UInt16 := 8883
  keepAliveSeconds : UInt16 := 30
  timeoutMs : UInt16 := 1500
  deriving DecidableEq

/-- The operations of `IMqttClient` that a session depends on. -/
inductive MqttClientCall where
  | configureTls (endpoint : Bytes) (port : UInt16) (rootCa certificate privateKey : Bytes)
      (keepAliveSeconds timeoutMs : UInt16)
  | setMessageCallback
  | connect (clientId : Bytes)
  | disconnect
  | connected
  | publish (message : MqttMessage) (qos : MqttQos)
  | subscribe (topic : Bytes) (qos : MqttQos)
  | poll
  deriving DecidableEq

/-- A client answers every call as it likes, and may run the message callback during any. -/
class IMqttClient (κ : Type) where
  call : κ → MqttClientCall → TransportReply κ

/-- `callback` is whether the subscriber's callback is set. -/
structure Esp32AwsIotTransport (κ : Type) where
  config : AwsIotConnectionConfig
  client : κ
  callback : Bool := false
  sessionValid : Bool := false
  certificatePem : Bytes := []
  privateKeyPem : Bytes := []

namespace Esp32AwsIotTransport

def endsWith (value suffix : Bytes) : Bool :=
  suffix.length < value.length && suffix.isSuffixOf value

def contains (value part : Bytes) : Bool := value.tails.any part.isPrefixOf

def isDigit (c : UInt8) : Bool := 48 ≤ c && c ≤ 57

def isAlnum (c : UInt8) : Bool := isDigit c || (65 ≤ c && c ≤ 90) || (97 ≤ c && c ≤ 122)

def validEndpoint (endpoint : Bytes) : Bool :=
  if !endsWith endpoint (ascii ".amazonaws.com") || !contains endpoint (ascii "-ats.iot.") ||
      contains endpoint (ascii "/") || contains endpoint (ascii ":") then false
  else endpoint.all fun c => isAlnum c || [c] = ascii "." || [c] = ascii "-"

def validDeviceId (id : Bytes) : Bool :=
  if id.length ≠ 35 || id.take 3 ≠ ascii "ib-" then false
  else (id.drop 3).all fun c => isDigit c || (97 ≤ c && c ≤ 102)

variable [IMqttClient κ]

/-- A call into the client. What arrives meanwhile reaches the subscriber if there is one. -/
def ask (t : Esp32AwsIotTransport κ) (call : MqttClientCall) :
    TransportReply (Esp32AwsIotTransport κ) :=
  let reply := IMqttClient.call t.client call
  ⟨{ t with client := reply.transport }, if t.callback then reply.inbound else [], reply.ok⟩

def invalidate (t : Esp32AwsIotTransport κ) : Esp32AwsIotTransport κ :=
  { t with sessionValid := false }

/-- The part of `connect` after the credentials were loaded. -/
def openSession (t : Esp32AwsIotTransport κ) (clientId : Bytes) :
    TransportReply (Esp32AwsIotTransport κ) :=
  (t.ask .setMessageCallback).bind fun _ t =>
  (t.ask (.configureTls t.config.endpoint t.config.port t.config.rootCaPem t.certificatePem
    t.privateKeyPem t.config.keepAliveSeconds t.config.timeoutMs)).bind fun configured t =>
  if !configured then .pure t false
  else
    (t.ask (.connect clientId)).bind fun connected t =>
    if !connected then .pure t false else .pure { t with sessionValid := true } true

def connect (t : Esp32AwsIotTransport κ) (credentials : DeviceCredentialStore)
    (clientId : Bytes) : TransportReply (Esp32AwsIotTransport κ) :=
  (t.ask .disconnect).bind fun _ t =>
  let t := t.invalidate
  if !validEndpoint t.config.endpoint || !validDeviceId clientId || t.config.rootCaPem.isEmpty ||
      !credentials.hasCertificate || !credentials.hasPrivateKey then .pure t false
  else
    match credentials.loadCertificate, credentials.loadPrivateKey with
    | some cert, some key =>
      if cert.isEmpty || key.isEmpty then .pure t false
      else { t with certificatePem := cert, privateKeyPem := key }.openSession clientId
    | _, _ => .pure t false

def disconnect (t : Esp32AwsIotTransport κ) : TransportReply (Esp32AwsIotTransport κ) :=
  (t.ask .disconnect).bind fun _ t => .pure { t.invalidate with callback := false } true

/-- The client is asked only while the session is trusted. -/
def isConnected (t : Esp32AwsIotTransport κ) : TransportReply (Esp32AwsIotTransport κ) :=
  if t.sessionValid then t.ask .connected else .pure t false

def publish (t : Esp32AwsIotTransport κ) (message : MqttMessage) (qos : MqttQos) :
    TransportReply (Esp32AwsIotTransport κ) :=
  t.isConnected.bind fun connected t =>
  if !connected then .pure t false
  else
    (t.ask (.publish message qos)).bind fun ok t =>
    if ok then .pure t true else .pure t.invalidate false

def subscribe (t : Esp32AwsIotTransport κ) (topic : Bytes) (qos : MqttQos) :
    TransportReply (Esp32AwsIotTransport κ) :=
  t.isConnected.bind fun connected t =>
  if !connected then .pure t.invalidate false
  else
    (t.ask (.subscribe topic qos)).bind fun ok t =>
    if ok then .pure { t with callback := true } true else .pure t.invalidate false

/-- It returns nothing: the answer is not used. -/
def poll (t : Esp32AwsIotTransport κ) : TransportReply (Esp32AwsIotTransport κ) :=
  t.isConnected.bind fun connected t =>
  if !connected then .pure t true
  else
    (t.ask .poll).bind fun _ t =>
    (t.ask .connected).bind fun connected t =>
    if connected then .pure t true else .pure t.invalidate true

instance : IDeviceTransport (Esp32AwsIotTransport κ) := ⟨publish, subscribe⟩

theorem isConnected_of_invalid {t : Esp32AwsIotTransport κ} (h : t.sessionValid = false) :
    t.isConnected = .pure t false := by
  rw [isConnected, h, if_neg Bool.false_ne_true]

theorem publish_of_invalid {t : Esp32AwsIotTransport κ} (h : t.sessionValid = false)
    (message : MqttMessage) (qos : MqttQos) : t.publish message qos = .pure t false := by
  rw [publish, isConnected_of_invalid h]
  rfl

theorem isConnected_of_valid {t : Esp32AwsIotTransport κ} (h : t.sessionValid = true) :
    t.isConnected = t.ask .connected := by
  rw [isConnected, if_pos h]

theorem publish_down {t : Esp32AwsIotTransport κ} (hvalid : t.sessionValid = true)
    (hdown : (t.ask .connected).ok = false) (message : MqttMessage) (qos : MqttQos) :
    (t.publish message qos).ok = false ∧
      (t.publish message qos).transport = (t.ask .connected).transport := by
  rw [publish, isConnected_of_valid hvalid, TransportReply.bind_ok, TransportReply.bind_transport,
    hdown]
  exact ⟨rfl, rfl⟩

theorem publish_up {t : Esp32AwsIotTransport κ} (hvalid : t.sessionValid = true)
    (hup : (t.ask .connected).ok = true) (message : MqttMessage) (qos : MqttQos) :
    let reply := (t.ask .connected).transport.ask (.publish message qos)
    (t.publish message qos).ok = reply.ok ∧ (t.publish message qos).transport =
      if reply.ok then reply.transport else reply.transport.invalidate := by
  rw [publish, isConnected_of_valid hvalid, TransportReply.bind_ok, TransportReply.bind_transport,
    hup, Bool.not_true, if_neg Bool.false_ne_true, TransportReply.bind_ok,
    TransportReply.bind_transport]
  dsimp only
  cases ((t.ask .connected).transport.ask (.publish message qos)).ok with
  | true => exact ⟨rfl, rfl⟩
  | false => exact ⟨rfl, rfl⟩

/-- Only a session that was opened is trusted after `connect`. -/
theorem connect_sessionValid (t : Esp32AwsIotTransport κ) (credentials : DeviceCredentialStore)
    (clientId : Bytes) :
    (t.connect credentials clientId).transport.sessionValid =
      (t.connect credentials clientId).ok := by
  rw [connect, TransportReply.bind_ok, TransportReply.bind_transport]
  dsimp only
  split
  · rfl
  split
  case h_2 => rfl
  split
  · rfl
  rw [openSession, TransportReply.bind_ok, TransportReply.bind_transport,
    TransportReply.bind_ok, TransportReply.bind_transport]
  split
  · rfl
  rw [TransportReply.bind_ok, TransportReply.bind_transport]
  split
  · rfl
  · rfl

/-- A subscription that is refused ends the session. -/
theorem subscribe_refused {t : Esp32AwsIotTransport κ} (h : (t.subscribe topic qos).ok = false) :
    (t.subscribe topic qos).transport.sessionValid = false := by
  rw [subscribe, TransportReply.bind_ok] at h
  rw [subscribe, TransportReply.bind_transport]
  split at h
  next hdown =>
    rw [if_pos hdown]
    rfl
  next hup =>
    rw [if_neg hup, TransportReply.bind_transport]
    rw [TransportReply.bind_ok] at h
    split at h
    next => exact absurd h.symm Bool.false_ne_true
    next hrefused =>
      rw [if_neg hrefused]
      rfl

theorem subscribe_up {t : Esp32AwsIotTransport κ} (hup : t.isConnected.ok = true) (topic : Bytes)
    (qos : MqttQos) :
    (t.subscribe topic qos).ok = (t.isConnected.transport.ask (.subscribe topic qos)).ok := by
  rw [subscribe, TransportReply.bind_ok, hup, Bool.not_true, if_neg Bool.false_ne_true,
    TransportReply.bind_ok]
  cases (t.isConnected.transport.ask (.subscribe topic qos)).ok with
  | true => rfl
  | false => rfl

theorem isConnected_sessionValid (t : Esp32AwsIotTransport κ) :
    t.isConnected.transport.sessionValid = t.sessionValid := by
  rw [isConnected]
  split
  · rfl
  · rfl

theorem sessionValid_of_isConnected {t : Esp32AwsIotTransport κ} (h : t.isConnected.ok = true) :
    t.sessionValid = true := by
  by_contra hinvalid
  rw [Bool.not_eq_true] at hinvalid
  rw [isConnected_of_invalid hinvalid] at h
  exact Bool.false_ne_true h

end Esp32AwsIotTransport
end InterBridge
