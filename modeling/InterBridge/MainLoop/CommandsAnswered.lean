import InterBridge.MainLoop.MainRecovery
import InterBridge.MainLoop.ProcessorRuns

namespace InterBridge
open Foundations RemoteCommandProcessor
set_option autoImplicit true

theorem Live.publishes [IMqttClient κ] {good : Bool → κ → Prop} {t : Esp32AwsIotTransport κ}
    (h : Live good t) (hcoop : Cooperates good) : Publishes t :=
  fun message qos => (h.publish hcoop message qos).1

section Serves
variable [IMqttClient κ] [IDedupCache δ] [ArduinoJson] {good : Bool → κ → Prop}
  {topics : MqttTopics} {m start : MainLoop κ δ ω}

omit [IDedupCache δ] [ArduinoJson] in
theorem arrived_keptByPublishing (p : RemoteCommandProcessor (Esp32AwsIotTransport κ) δ) :
    MainLoop.KeptByPublishing fun n : MainLoop κ δ ω => p.OnlyArrived n.remoteCommandProcessor :=
  ⟨fun _ _ _ h => h.trans (.returned _ _), fun _ _ h => h, fun _ _ h => h⟩

variable [IEventOutbox ω]

theorem MainLoop.serveSession_arrived (m : MainLoop κ δ ω) (input : NetworkInput) :
    ((m.remoteCommandProcessor.returned m.transport.poll).processPending input.clock).OnlyArrived
      (m.serveSession input).1.remoteCommandProcessor := by
  have hsubscribed : (m.pollAndProcess input).remoteCommandProcessor.OnlyArrived
      (m.pollAndProcess input).restoreSubscription.1.remoteCommandProcessor := by
    rw [restoreSubscription]
    split
    · exact .refl _
    · exact .returned _ _
  have hkept := arrived_keptByPublishing (ω := ω) (m.pollAndProcess input).remoteCommandProcessor
  exact hkept.reportHealth (hkept.flushOutbox hsubscribed) _ _

/-- Each call that serves a live session is one of those that the commands wait for. -/
theorem Serves.within (h : Serves good topics m input start) (hcoop : Cooperates good)
    (hwithin : m.remoteCommandProcessor.Within target (n + 1)) :
    (m.updateNetwork input).1.remoteCommandProcessor.Within target n := by
  have hpolled := (hwithin.arrive h.arrived).arrive (.returned _ start.transport.poll)
  have hpublishes : Publishes
      (start.remoteCommandProcessor.returned start.transport.poll).transport := by
    rw [returned_transport]
    exact (h.holds.onTransport.poll hcoop).publishes hcoop
  rw [h.served]
  exact (hpolled.processPending hpublishes input.clock).arrive (start.serveSession_arrived input)

end Serves

theorem Online.answers [IMqttClient κ] [IDedupCache δ] [ArduinoJson] {good : Bool → κ → Prop}
    {topics : MqttTopics} {m : MainLoop κ δ PersistentEventOutbox} (h : Online good m)
    (hm : MainHolds topics (fun t => t.config = config) m) (hcoop : Cooperates good)
    (inputs : List NetworkInput)
    (hwifi : ∀ u ∈ transitions MainLoop.updateNetwork m inputs, u.output.wifiUp = true)
    (hwithin : m.remoteCommandProcessor.Within target inputs.length) :
    (finalState MainLoop.updateNetwork m inputs).remoteCommandProcessor.Answered target := by
  induction inputs generalizing m with
  | nil => exact hwithin.zero
  | cons input inputs ih =>
    rw [transitions, List.forall_mem_cons] at hwifi
    obtain ⟨hserves, _⟩ := h.live.serves hm hcoop hwifi.1
    exact ih (hserves.online hcoop) (hm.config_updateNetwork input) hwifi.2
      (hserves.within hcoop hwithin)

/-- Over every run of `updateNetwork`, whatever the client and the network did so far: once the
client does as it is asked, the device is provisioned and the longest delay is over since the last
call, as many calls that find Wi-Fi up as responses wait and twice as many as payloads wait are
enough for every payload accepted so far to be started and answered, in order. -/
theorem commands_answered [IMqttClient κ] [IDedupCache δ] [ArduinoJson]
    {good : Bool → κ → Prop} (hcoop : Cooperates good) (topics : MqttTopics)
    (config : AwsIotConnectionConfig) (client : κ) (credentialStore : DeviceCredentialStore)
    (provisioned : Bool) (dedupCache : δ) (eventOutbox : PersistentEventOutbox)
    (inputs : List NetworkInput) (input : NetworkInput) (later : List NetworkInput) :
    let m : MainLoop κ δ PersistentEventOutbox :=
      .setup topics config client credentialStore provisioned dedupCache eventOutbox
    let reached := finalState MainLoop.updateNetwork m inputs
    let waiting := reached.remoteCommandProcessor
    (∃ up, good up reached.transport.client) →
    Configured config (reached.wifiUpdated input).credentialStore topics.deviceId →
    input.atMs < 2 ^ 32 →
    (∀ earlier ∈ inputs, earlier.atMs + kReconnectMaxDelayMs.toNat ≤ input.atMs) →
    (∀ u ∈ transitions MainLoop.updateNetwork reached (input :: later), u.output.wifiUp = true) →
    waiting.outbox.length + 2 * waiting.pendingPayloads.length ≤ (input :: later).length →
    (finalState MainLoop.updateNetwork reached (input :: later)).remoteCommandProcessor.Answered
      waiting.acceptedPayloads := by
  intro m reached waiting hclient hconfigured hnowrap hwaited hwifi hcalls
  rw [transitions, List.forall_mem_cons] at hwifi
  obtain ⟨hm, _, hserves⟩ := MainLoop.reached_serves hcoop topics config client credentialStore
    provisioned dedupCache eventOutbox inputs input hclient hconfigured hnowrap hwaited hwifi.1
  have hdelivered : waiting.Delivered :=
    delivered_keptByProcessor.run (m := m) ⟨rfl, rfl, rfl⟩ inputs
  have hwithin := hserves.within hcoop ((Within.start hdelivered).mono hcalls)
  exact (hserves.online hcoop).answers (hm.config_updateNetwork input) hcoop later hwifi.2 hwithin

/-- A client that does as it is asked, and hands over a batch of messages with each poll. -/
structure MailingClient where
  batches : List (List MqttMessage)
  up : Bool

instance : IMqttClient MailingClient where
  call client call :=
    match call with
    | .poll => ⟨{ client with batches := client.batches.tail }, client.batches.headD [], client.up⟩
    | _ => .pure { client with up := call.link client.up } (call.answer client.up)

theorem mailingClient_cooperates :
    Cooperates fun up (client : MailingClient) => client.up = up where
  link _ _ call h := by
    cases call with
    | _ => exact h ▸ rfl
  answer _ _ call h := by
    cases call with
    | _ => exact h ▸ rfl

/-- Two commands arrive at once, and Wi-Fi goes while the second one waits. -/
def openDoorFor (deviceId commandId : Bytes) : Bytes :=
  JsonText.print (.obj [(ascii "protocol_version", .int 1), (ascii "device_id", .str deviceId),
    (ascii "command_id", .str commandId), (ascii "command", .str (ascii "OPEN_DOOR")),
    (ascii "parameters", .obj []), (ascii "issued_at", .int 1786467600),
    (ascii "expires_at", .int 1786467630)])

def twoCommands : MailingClient where
  batches := [[], [List.replicate 32 97, List.replicate 32 98].map fun commandId =>
    ⟨provisionedTopics.commands, openDoorFor provisionedTopics.deviceId commandId⟩]
  up := false

def trustedAt (atMs : Nat) : NetworkInput :=
  { MainLoop.callAt atMs ⟨0, 0, 0, 0⟩ with clock := ⟨fun _ => true, fun _ => 1786467600⟩ }

def untilWifiWent : List NetworkInput :=
  [{ trustedAt 5 with meanwhile := [.wifiBegun] }, trustedAt 6,
    { trustedAt 7 with wifiConnected := false }]

theorem twoCommands_answered :
    letI := compactJson
    let reached := finalState MainLoop.updateNetwork (.setup provisionedTopics
      Esp32AwsIotTransport.awsConfig twoCommands provisionedCredentials true
      (InMemoryDedupCache.new kDefaultDedupCacheCapacity) (PersistentEventOutbox.new .empty 32))
      untilWifiWent
    reached.remoteCommandProcessor.pendingPayloads.length = 1 ∧
      (finalState MainLoop.updateNetwork reached
        [trustedAt 300007, trustedAt 300008, trustedAt 300009]).remoteCommandProcessor.Answered
        reached.remoteCommandProcessor.acceptedPayloads :=
  letI := compactJson
  ⟨by decide +kernel, commands_answered mailingClient_cooperates provisionedTopics
    Esp32AwsIotTransport.awsConfig twoCommands provisionedCredentials true
    (InMemoryDedupCache.new kDefaultDedupCacheCapacity) (.new .empty 32) untilWifiWent
    (trustedAt 300007) [trustedAt 300008, trustedAt 300009] ⟨false, by decide +kernel⟩
    ⟨by decide +kernel, by decide +kernel, by decide,
      ⟨ascii "certificate", by decide +kernel, by decide⟩,
      ⟨ascii "private key", by decide +kernel, by decide⟩⟩
    (by decide) (by decide) (by decide +kernel) (by decide +kernel)⟩

end InterBridge
