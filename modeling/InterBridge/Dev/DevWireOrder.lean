import InterBridge.Dev.DevSessions
import InterBridge.Network.WireOrder

namespace InterBridge
open Foundations
set_option autoImplicit true

/-- What the bench programs ask of the client on a session of theirs. -/
inductive DevCall [ArduinoJson] (topics : MqttTopics) : MqttClientCall → Prop where
  | poll : DevCall topics .poll
  | event (payload : Bytes) : DevCall topics (.publish ⟨topics.eventsIngest, payload⟩ .atLeastOnce)
  | response (answer : IsAnswer topics.deviceId topics message qos) :
    DevCall topics (.publish message qos)
  | health (report : HealthReport) (named : report.deviceId = topics.deviceId) :
    DevCall topics (.publish ⟨topics.healthIngest, report.toJson⟩ .atMostOnce)

/-- All of it waits for the subscription. -/
def devWirePlan [ArduinoJson] (deviceId : Bytes) : WirePlan where
  clientId := deviceId
  commands := (devMqttTopics deviceId).commands
  early _ := False
  late := DevCall (devMqttTopics deviceId)

theorem Orderly.serves [ArduinoJson] {t : RecordedTransport κ} (h : Orderly (devWirePlan deviceId) t)
    (hcall : DevCall (devMqttTopics deviceId) call) :
    t.sessionValid = true → (devWirePlan deviceId).Serves t.client.exchanges call :=
  fun hvalid => .inr ⟨hcall, h.trusted hvalid⟩

theorem orderly_keptBySession [IMqttClient κ] [ArduinoJson] (deviceId : Bytes) :
    KeptBySession (κ := RecordingClient κ) deviceId (Orderly (devWirePlan deviceId))
      (Opened (devWirePlan deviceId)) where
  isConnected _ h := h.isConnected
  disconnect _ h := h.disconnect
  poll _ h := h.poll (h.serves .poll)
  opened _ credentials h _ := Opened.connect h.lawful credentials
  refused t credentials h hrefused := by
    apply Trusts.of_invalid (Opened.connect h.lawful credentials).lawful
    rw [← hrefused]
    exact t.connect_sessionValid credentials deviceId
  subscribe _ h := (Opened.subscribe h).2
  response _ _ _ hanswer h := h.publish (h.serves (.response hanswer))
  health _ report hnamed h := h.publish (h.serves (.health report hnamed))

theorem orderly_constructed (plan : WirePlan) (config : AwsIotConnectionConfig) (client : κ) :
    Orderly plan (Esp32AwsIotTransport.constructed config client) :=
  .of_invalid lawful_nil rfl

/-- Over every run of a bench program, whatever its client does: a session is opened after the last
one was torn down, under the device's own id; the commands are the only subscription, asked for on
an open session; and nothing is polled or published before it was granted in this session, or
right after anything but the answer that the client is connected. -/
theorem devPrograms_wireOrder [IMqttClient κ] [IRandomSource ρ] [IEventOutbox ω] [ArduinoJson]
    (deviceId : Bytes) (config : AwsIotConnectionConfig) (client : κ)
    (certificatePem privateKeyPem : Bytes) :
    let entry : DevEntryPoint (RecordingClient κ) :=
      .setup deviceId config { client := client } certificatePem privateKeyPem
    (∀ readings, Lawful (devWirePlan deviceId).Allows
      (finalState DevEntryPoint.loop entry readings).transport.client.exchanges) ∧
    ∀ (program : DevProgram) (coordinator : DevRingEventCoordinator ρ ω) readings,
      Lawful (devWirePlan deviceId).Allows (finalState (DevRingEntryPoint.loop program)
        ⟨entry, coordinator⟩ readings).entry.transport.client.exchanges := by
  intro entry
  have hsetup := DevHolds.setup (orderly_constructed (devWirePlan deviceId) config client) deviceId
    certificatePem privateKeyPem
  have hkept : KeptBySession (κ := RecordingClient κ) deviceId (Orderly (devWirePlan deviceId))
      (Opened (devWirePlan deviceId)) := orderly_keptBySession deviceId
  let InOrder (s : DevEntryPoint (RecordingClient κ)) : Prop :=
    DevHolds deviceId (devCredentials certificatePem privateKeyPem)
      (Orderly (devWirePlan deviceId)) s
  constructor
  · intro readings
    have hrun : InOrder (finalState DevEntryPoint.loop entry readings) := by
      apply run_induction (motive := fun _ s => InOrder s) hsetup
      exact fun _ s r hs => hs.loop hkept r
    exact hrun.onTransport.lawful
  · intro program coordinator readings
    have hrun : InOrder
        (finalState (DevRingEntryPoint.loop program) ⟨entry, coordinator⟩ readings).entry := by
      apply run_induction
        (motive := fun _ (s : DevRingEntryPoint _ ρ ω) => InOrder s.entry) hsetup
      intro _ s r hs
      exact hs.ringLoop hkept (fun _ payload h => h.publish (h.serves (.event payload))) program r
    exact hrun.onTransport.lawful

end InterBridge
