import InterBridge.Foundations.Json

namespace InterBridge
open Foundations
set_option autoImplicit true

inductive MqttQos where
  | atMostOnce | atLeastOnce
  deriving DecidableEq

structure MqttMessage where
  topic : Bytes
  payload : Bytes
  deriving DecidableEq

/-- How a call into a transport ends: the messages it handed to the subscriber before returning,
what it returned and the state it left. -/
structure TransportReply (τ : Type) where
  transport : τ
  inbound : List MqttMessage
  ok : Bool

namespace TransportReply

/-- A call that hands over no message. -/
def pure (transport : τ) (ok : Bool) : TransportReply τ := ⟨transport, [], ok⟩

/-- One call, then another one that depends on what the first returned. -/
def bind (reply : TransportReply τ) (next : Bool → τ → TransportReply τ) : TransportReply τ :=
  let last := next reply.ok reply.transport
  { last with inbound := reply.inbound ++ last.inbound }

theorem bind_ok (reply : TransportReply τ) (next : Bool → τ → TransportReply τ) :
    (reply.bind next).ok = (next reply.ok reply.transport).ok := rfl

theorem bind_transport (reply : TransportReply τ) (next : Bool → τ → TransportReply τ) :
    (reply.bind next).transport = (next reply.ok reply.transport).transport := rfl

end TransportReply

class IDeviceTransport (τ : Type) where
  publish : τ → MqttMessage → MqttQos → TransportReply τ
  subscribe : τ → Bytes → MqttQos → TransportReply τ

end InterBridge
