import InterBridge.MainLoop.MainSessions
import InterBridge.Protocol.CommandProgress

namespace InterBridge
open Foundations
set_option autoImplicit true

/-- All that the main loop does to its processor keeps `P`: calls into the transport return, and
what waits is processed. -/
structure KeptByProcessor [IMqttClient κ] [IDedupCache δ] [ArduinoJson]
    (P : RemoteCommandProcessor (Esp32AwsIotTransport κ) δ → Prop) : Prop where
  returned : ∀ p call, P p → P (p.returned (p.transport.reply call))
  processPending : ∀ p clock, P p → P (p.processPending clock)

namespace KeptByProcessor
variable [IMqttClient κ] [IDedupCache δ] [ArduinoJson]
  {P : RemoteCommandProcessor (Esp32AwsIotTransport κ) δ → Prop} {m : MainLoop κ δ ω}

theorem restoreSubscription (h : KeptByProcessor P) (hm : P m.remoteCommandProcessor) :
    P m.restoreSubscription.1.remoteCommandProcessor := by
  rw [MainLoop.restoreSubscription]
  split
  · exact hm
  · exact h.returned _ (.subscribe m.remoteCommandProcessor.topics.commands .atLeastOnce) hm

theorem keptByPublishing (h : KeptByProcessor P) :
    MainLoop.KeptByPublishing fun n : MainLoop κ δ ω => P n.remoteCommandProcessor :=
  ⟨fun _ message qos hn => h.returned _ (.publish message qos) hn, fun _ _ hn => hn,
    fun _ _ hn => hn⟩

theorem leaveNetwork (h : KeptByProcessor P) (hm : P m.remoteCommandProcessor) :
    P m.leaveNetwork.remoteCommandProcessor := by
  have hasked := h.returned _ .isConnected hm
  rw [MainLoop.leaveNetwork]
  dsimp only
  split
  · refine h.returned _ .disconnect ?_
    exact hasked
  · exact hasked

variable [IEventOutbox ω]

theorem serveSession (h : KeptByProcessor P) (hm : P m.remoteCommandProcessor)
    (input : NetworkInput) : P (m.serveSession input).1.remoteCommandProcessor := by
  have hpolled : P (m.pollAndProcess input).remoteCommandProcessor :=
    h.processPending _ input.clock (h.returned _ .poll hm)
  have hflushed := h.keptByPublishing.flushOutbox (h.restoreSubscription hpolled)
  exact h.keptByPublishing.reportHealth hflushed _ _

theorem attemptConnect (h : KeptByProcessor P) (hm : P m.remoteCommandProcessor)
    (input : NetworkInput) : P (m.attemptConnect input).1.remoteCommandProcessor := by
  have hconnect : P (m.returned m.connect).remoteCommandProcessor :=
    h.returned _ (.connect m.credentialStore
      (MqttTopics.clientId m.remoteCommandProcessor.deviceId)) hm
  rw [MainLoop.attemptConnect]
  split
  · have hopened : P m.sessionOpened.remoteCommandProcessor := hconnect
    exact h.serveSession hopened input
  · exact hconnect

theorem updateNetwork (h : KeptByProcessor P) (hm : P m.remoteCommandProcessor)
    (input : NetworkInput) : P (m.updateNetwork input).1.remoteCommandProcessor := by
  rw [← m.wifiUpdated_processor input] at hm
  have hgate : P (m.atGate input).remoteCommandProcessor := h.returned _ .isConnected hm
  rw [MainLoop.updateNetwork]
  split
  · exact h.leaveNetwork hm
  split
  · exact h.serveSession hgate input
  split
  · exact hgate
  · exact h.attemptConnect hgate input

theorem run (h : KeptByProcessor P) (hm : P m.remoteCommandProcessor)
    (inputs : List NetworkInput) :
    P (finalState MainLoop.updateNetwork m inputs).remoteCommandProcessor := by
  apply run_induction (motive := fun _ (m : MainLoop κ δ ω) => P m.remoteCommandProcessor) hm
  intro _ m input hm
  exact h.updateNetwork hm input

end KeptByProcessor

theorem delivered_keptByProcessor [IMqttClient κ] [IDedupCache δ] [ArduinoJson] :
    KeptByProcessor fun p : RemoteCommandProcessor (Esp32AwsIotTransport κ) δ => p.Delivered :=
  ⟨fun p _ h => (RemoteCommandProcessor.OnlyReceived.returned p _).delivered h,
    fun _ clock h => h.processPending clock⟩

end InterBridge
