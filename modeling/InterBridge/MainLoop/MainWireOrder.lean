import InterBridge.MainLoop.MainSessions
import InterBridge.Network.WireOrder

namespace InterBridge
open Foundations
set_option autoImplicit true

/-- What the main loop asks of the client as soon as a session is open. -/
inductive MainEarlyCall [ArduinoJson] (topics : MqttTopics) : MqttClientCall → Prop where
  | poll : MainEarlyCall topics .poll
  | response (answer : IsAnswer topics.deviceId topics message qos) :
    MainEarlyCall topics (.publish message qos)

/-- What waits for the subscription. -/
inductive MainLateCall [ArduinoJson] (topics : MqttTopics) : MqttClientCall → Prop where
  | event (payload : Bytes) :
    MainLateCall topics (.publish ⟨topics.eventsIngest, payload⟩ .atLeastOnce)
  | health (report : HealthReport) (named : report.deviceId = topics.deviceId) :
    MainLateCall topics (.publish ⟨topics.healthIngest, report.toJson⟩ .atMostOnce)
  | shadow (state : ShadowReportedState) :
    MainLateCall topics (.publish ⟨topics.shadowUpdate, buildReportedUpdate state⟩ .atLeastOnce)

def mainWirePlan [ArduinoJson] (topics : MqttTopics) : WirePlan where
  clientId := topics.deviceId
  commands := topics.commands
  early := MainEarlyCall topics
  late := MainLateCall topics

/-- A trusted session was opened, and its subscription granted if that is remembered. -/
structure Standing (plan : WirePlan) (remembered : Bool) (t : RecordedTransport κ) : Prop where
  opened : Opened plan t
  orderly : remembered = true → Orderly plan t

namespace Standing
variable {plan : WirePlan} {t : RecordedTransport κ}

theorem of_invalid (h : Lawful plan.Allows t.client.exchanges) (hinvalid : t.sessionValid = false)
    (remembered : Bool) : Standing plan remembered t :=
  ⟨.of_invalid h hinvalid, fun _ => .of_invalid h hinvalid⟩

theorem forget (h : Standing plan true t) (remembered : Bool) : Standing plan remembered t :=
  ⟨h.opened, fun _ => h.orderly rfl⟩

variable [IMqttClient κ]

theorem isConnected (h : Standing plan remembered t) :
    Standing plan remembered t.isConnected.transport :=
  ⟨h.opened.isConnected, fun hremembered => (h.orderly hremembered).isConnected⟩

theorem poll (h : Standing plan remembered t) (hpoll : plan.early .poll) :
    Standing plan remembered t.poll.transport := by
  have hserves (hvalid : t.sessionValid = true) : plan.Serves t.client.exchanges .poll :=
    .inl ⟨hpoll, h.opened.trusted hvalid⟩
  exact ⟨h.opened.poll hserves, fun hremembered => (h.orderly hremembered).poll hserves⟩

theorem publish (h : Standing plan remembered t)
    (hserves : t.sessionValid = true → plan.Serves t.client.exchanges (.publish message qos)) :
    Standing plan remembered (t.publish message qos).transport :=
  ⟨h.opened.publish hserves, fun hremembered => (h.orderly hremembered).publish hserves⟩

theorem publish_early (h : Standing plan remembered t) (hcall : plan.early (.publish message qos)) :
    Standing plan remembered (t.publish message qos).transport :=
  h.publish fun hvalid => .inl ⟨hcall, h.opened.trusted hvalid⟩

theorem publish_late (h : Standing plan true t) (hcall : plan.late (.publish message qos)) :
    Standing plan true (t.publish message qos).transport :=
  h.publish fun hvalid => .inr ⟨hcall, (h.orderly rfl).trusted hvalid⟩

end Standing

theorem standing_keptByLoop [IMqttClient κ] [ArduinoJson] (topics : MqttTopics) :
    KeptByLoop (κ := RecordingClient κ) topics (Standing (mainWirePlan topics)) where
  isConnected _ _ h := h.isConnected
  disconnect _ _ h := .of_invalid h.opened.disconnect.lawful rfl false
  poll _ _ h := h.poll .poll
  response _ _ _ _ hanswer h := h.publish_early (.response hanswer)
  opened _ _ credentials h :=
    ⟨Opened.connect h.opened.lawful credentials, fun h => absurd h Bool.false_ne_true⟩
  refused remembered t credentials h hrefused := by
    apply Standing.of_invalid (Opened.connect h.opened.lawful credentials).lawful
    rw [← hrefused]
    exact t.connect_sessionValid credentials topics.deviceId
  subscribe _ _ h :=
    have hsubscribed := h.opened.subscribe
    ⟨hsubscribed.1, fun _ => hsubscribed.2⟩
  forget remembered _ h := h.forget remembered

/-- Over every run of `updateNetwork`, whatever the client does: a session is opened after the last
one was torn down, under the device's own id; on it the loop polls and answers commands, in its own
name, and asks for the commands alone; events, health and shadow wait until that was granted; and
none of it goes out right after anything but the answer that the client is connected. -/
theorem updateNetwork_wireOrder [IMqttClient κ] [IDedupCache δ] [IEventOutbox ω] [ArduinoJson]
    (topics : MqttTopics) (config : AwsIotConnectionConfig) (client : κ)
    (credentialStore : DeviceCredentialStore) (provisioned : Bool) (dedupCache : δ)
    (eventOutbox : ω) (inputs : List NetworkInput) :
    let m : MainLoop (RecordingClient κ) δ ω :=
      .setup topics config { client := client } credentialStore provisioned dedupCache eventOutbox
    Lawful (mainWirePlan topics).Allows
      (finalState MainLoop.updateNetwork m inputs).transport.client.exchanges := by
  intro m
  have hsetup : MainHolds topics (Standing (mainWirePlan topics) m.subscribedToCommands) m :=
    .setup (.of_invalid lawful_nil rfl false) topics credentialStore provisioned dedupCache
      eventOutbox
  have hrun := hsetup.run (standing_keptByLoop topics)
    (fun _ payload h => h.publish_late (.event payload))
    ⟨fun _ report hnamed h => h.publish_late (.health report hnamed),
      fun _ state h => h.publish_late (.shadow state)⟩ inputs
  exact hrun.onTransport.opened.lawful

end InterBridge
