import InterBridge.MainLoop.ProductionEvents

namespace InterBridge
open Foundations
set_option autoImplicit true

namespace ProvisioningManager

theorem update_unstarted {m : ProvisioningManager} (h : m.wifi = {})
    (hnone : answers.receivedCredentials = none) (nowMs : UInt32) :
    (m.update nowMs answers).wifi = {} := by
  have hpolled : (m.wifi.update answers.wifiConnected).1 = {} := by
    rw [h]
    rfl
  cases m.update_cases nowMs answers with
  | inactive _ same => rw [same, h]
  | timedOut _ _ wifi => rw [wifi, h]
  | sessionOpened _ _ _ _ wifi => rw [wifi, h]
  | received _ credentials delivered _ _ =>
    exact absurd (hnone.symm.trans delivered) (Option.some_ne_none credentials).symm
  | waiting _ _ _ _ _ same => rw [same, h]
  | dropped _ _ _ _ _ wifi => rw [wifi, h]
  | linkDown _ _ _ _ wifi => rw [wifi, hpolled]
  | completed _ _ _ wifi => rw [wifi, hpolled]
  | failed _ _ _ _ wifi => rw [wifi, hpolled]

theorem requestProvisioning_wifi (m : ProvisioningManager) (nowMs : UInt32)
    (answers : ProvisioningAnswers) : (m.requestProvisioning nowMs answers).wifi = m.wifi := by
  rw [requestProvisioning]
  split
  · rfl
  · exact m.enterProvisioning_wifi nowMs answers

end ProvisioningManager

theorem MainLoop.updateNetwork_unstarted [IMqttClient κ] [IDedupCache δ] [IEventOutbox ω]
    [ArduinoJson] {m : MainLoop κ δ ω} (h : m.wifiManager = {})
    (hinvalid : m.transport.sessionValid = false) (halone : input.meanwhile = []) :
    (m.updateNetwork input).1.wifiManager = {} ∧
      (m.updateNetwork input).1.transport = m.transport ∧
      (m.updateNetwork input).2 = { wifiUp := false } := by
  have hwifi : (m.wifiUpdated input).wifiManager = {} := by
    rw [wifiUpdated, halone, List.foldl_nil, updateWifi, h]
    rfl
  have htransport : (m.wifiUpdated input).transport = m.transport := (m.wifiUpdated_kept input).1
  have hdown : (m.wifiUpdated input).transport.isConnected =
      .pure (m.wifiUpdated input).transport false := by
    apply Esp32AwsIotTransport.isConnected_of_invalid
    rw [htransport]
    exact hinvalid
  have hleft : (m.wifiUpdated input).leaveNetwork =
      (m.wifiUpdated input).returned (.pure (m.wifiUpdated input).transport false) := by
    rw [leaveNetwork, hdown]
    rfl
  have hoff : (!(m.wifiUpdated input).wifiManager.isConnected) = true := by
    rw [hwifi]
    rfl
  rw [updateNetwork, if_pos hoff]
  dsimp only
  rw [hleft]
  refine ⟨hwifi, ?_, rfl⟩
  rw [returned_transport]
  exact htransport

namespace Production
variable {p p' q : Production ρ (RecordingClient κ) δ ω}

/-- Wi-Fi was not started, and the client never asked. -/
structure Untouched (p : Production ρ (RecordingClient κ) δ ω) : Prop where
  unstarted : p.globals.wifiManager = {}
  invalid : p.globals.transport.sessionValid = false
  unasked : p.globals.transport.client.exchanges = []

theorem Untouched.of_eq (h : Untouched p) (hwifi : p'.globals.wifiManager = {})
    (hprocessor : p'.globals.remoteCommandProcessor = p.globals.remoteCommandProcessor) :
    Untouched p' := by
  refine ⟨hwifi, ?_, ?_⟩
  · rw [MainLoop.transport, hprocessor]
    exact h.invalid
  · rw [MainLoop.transport, hprocessor]
    exact h.unasked

section Phases
variable [IRandomSource ρ] [IEventOutbox ω] [ArduinoJson]

theorem updateButton_wifiManager (p : Production ρ (RecordingClient κ) δ ω) (input : LoopInput) :
    (p.updateButton input).1.globals.wifiManager = p.globals.wifiManager := by
  rw [updateButton]
  dsimp only
  split
  · rfl
  · exact ProvisioningManager.requestProvisioning_wifi _ _ _
  · rfl

theorem updateProvisioning_unstarted (h : p.globals.wifiManager = {})
    (hnone : input.provisioning.receivedCredentials = none) :
    (p.updateProvisioning input).1.globals.wifiManager = {} := by
  have hupdated := ProvisioningManager.update_unstarted (m := p.manager) h hnone
    (ms32 input.provisioningAtMs)
  rw [updateProvisioning]
  dsimp only
  split
  · exact hupdated
  · exact hupdated

theorem updateIntercom_wifiManager (p : Production ρ (RecordingClient κ) δ ω) (input : LoopInput) :
    (p.updateIntercom input).1.globals.wifiManager = p.globals.wifiManager := by
  rw [updateIntercom]
  dsimp only
  split
  · rfl
  split
  · rfl
  · rfl

variable [IMqttClient κ] [IDedupCache δ]

theorem Untouched.updateNetwork (h : Untouched p) (input : LoopInput) :
    Untouched (p.updateNetwork input).1 ∧ (p.updateNetwork input).2 = { wifiUp := false } := by
  rw [Production.updateNetwork]
  dsimp only
  generalize hcall : NetworkInput.mk _ _ _ _ _ _ _ = call
  have halone : call.meanwhile = [] := by
    rw [← hcall]
  obtain ⟨hwifi, htransport, htrace⟩ :=
    MainLoop.updateNetwork_unstarted h.unstarted h.invalid halone
  refine ⟨⟨hwifi, ?_, ?_⟩, htrace⟩
  · rw [htransport]
    exact h.invalid
  · rw [htransport]
    exact h.unasked

theorem Untouched.next (h : Untouched p) (hnone : input.provisioning.receivedCredentials = none) :
    Untouched (p.loop input).1 ∧ ∀ trace, (p.loop input).2.network = some trace →
      trace = { wifiUp := false } := by
  have hpressed := h.of_eq ((p.updateButton_wifiManager input).trans h.unstarted)
    (p.updateButton_offLine input).processor
  have hprovisioned := hpressed.of_eq (updateProvisioning_unstarted hpressed.unstarted hnone)
    ((p.updateButton input).1.updateProvisioning_offLine input).processor
  obtain ⟨hserved, htrace⟩ := hprovisioned.updateNetwork input
  have hread := hserved.of_eq ((updateIntercom_wifiManager _ input).trans hserved.unstarted)
    (updateIntercom_onLine _ input).processor
  rw [loop]
  split
  · exact ⟨h, fun _ hnetwork => absurd hnetwork.symm (Option.some_ne_none _)⟩
  dsimp only
  split
  · exact ⟨hpressed, fun _ hnetwork => absurd hnetwork.symm (Option.some_ne_none _)⟩
  · refine ⟨hread, fun trace hnetwork => ?_⟩
    rw [← htrace]
    exact (Option.some.inj hnetwork).symm

end Phases
end Production

/-- Over every run of the program in which no credentials are received: Wi-Fi is never started,
whatever network and certificates the store holds, every network update finds it down, and the
client is not asked for anything. -/
theorem production_offline [IRandomSource ρ] [IMqttClient κ] [IDedupCache δ] [IEventOutbox ω]
    [ArduinoJson] (random : ρ) (topics : MqttTopics) (config : AwsIotConnectionConfig) (client : κ)
    (store : PersistentStore) (provisioned : Bool) (dedupCache : δ) (eventOutbox : ω)
    (templateName proofOfPossession : Bytes) (bootAtMs : Nat) (answers : ProvisioningAnswers)
    (inputs : List LoopInput)
    (hnone : ∀ input ∈ inputs, input.provisioning.receivedCredentials = none) :
    let p := Production.setup random topics config ({ client := client } : RecordingClient κ) store
      provisioned dedupCache eventOutbox templateName proofOfPossession bootAtMs answers
    (∀ u ∈ transitions Production.loop p inputs, ∀ trace, u.output.network = some trace →
        trace = { wifiUp := false }) ∧
      (finalState Production.loop p inputs).globals.wifiManager.started = false ∧
      (finalState Production.loop p inputs).globals.transport.client.exchanges = [] := by
  intro p
  have hsetup : Production.Untouched p := by
    refine ⟨?_, ?_, ?_⟩
    · rw [Production.setup_globals]
      rfl
    · rw [Production.setup_globals]
      rfl
    · rw [Production.setup_globals]
      rfl
  generalize p = q at hsetup ⊢
  induction inputs generalizing q with
  | nil =>
    refine ⟨fun u hu => absurd hu List.not_mem_nil, ?_, hsetup.unasked⟩
    rw [finalState, hsetup.unstarted]
  | cons input inputs ih =>
    rw [List.forall_mem_cons] at hnone
    obtain ⟨hnext, htrace⟩ := hsetup.next hnone.1
    obtain ⟨htraces, hlast⟩ := ih hnone.2 _ hnext
    rw [transitions, List.forall_mem_cons]
    exact ⟨⟨htrace, htraces⟩, hlast⟩

/-- The store of a device that was provisioned before it was restarted. -/
def provisionedStore : PersistentStore :=
  ((provisionedCredentials.set kWifiSsidKey (ascii "Home")).set kWifiPasswordKey
    (ascii "password")).set kProvisionedKey (ascii "1")

def noCredentials : ProvisioningAnswers :=
  { Device.enrollingAnswers with receivedCredentials := none }

/-- The radio reports a connection, and nobody sends credentials. -/
def restartedDay : List LoopInput :=
  [{ iterationAt 100 false with provisioning := noCredentials },
    { iterationAt 400000 true with provisioning := noCredentials }]

def restartedDevice : Production DevRing.CountingRandom (RecordingClient DroppingClient)
    InMemoryDedupCache MemoryEventOutbox :=
  .setup (DevRing.CountingRandom.mk 0) provisionedTopics Esp32AwsIotTransport.awsConfig
    { client := ⟨[], false⟩ } provisionedStore true (.new kDefaultDedupCacheCapacity) {}
    (ascii "fleet") (ascii "pop_1") 0 noCredentials

theorem restartedDay_received : ∀ input ∈ restartedDay,
    input.provisioning.receivedCredentials = none := by
  rw [restartedDay, List.forall_mem_cons, List.forall_mem_singleton]
  exact ⟨rfl, rfl⟩

theorem restartedDay_offline :
    letI := compactJson
    (∀ u ∈ transitions Production.loop restartedDevice restartedDay, ∀ trace,
        u.output.network = some trace → trace = { wifiUp := false }) ∧
      (finalState Production.loop restartedDevice restartedDay).globals.wifiManager.started =
        false ∧
      (finalState Production.loop restartedDevice restartedDay).globals.transport.client.exchanges =
        [] :=
  @production_offline _ _ _ _ _ _ _ _ compactJson (DevRing.CountingRandom.mk 0) provisionedTopics
    Esp32AwsIotTransport.awsConfig (⟨[], false⟩ : DroppingClient) provisionedStore true
    (InMemoryDedupCache.new kDefaultDedupCacheCapacity) ({} : MemoryEventOutbox) (ascii "fleet")
    (ascii "pop_1") 0 noCredentials restartedDay restartedDay_received

end InterBridge
