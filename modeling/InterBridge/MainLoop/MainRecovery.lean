import InterBridge.MainLoop.MainSessions
import InterBridge.MainLoop.OutboxFlush
import InterBridge.Network.ClientLink
import InterBridge.Network.ReconnectBackoff
import InterBridge.Protocol.CommandProgress
import InterBridge.Protocol.PersistentOutbox

namespace InterBridge
open Foundations
set_option autoImplicit true

theorem ReconnectManager.nextDelayMs_le {manager : ReconnectManager}
    (h : manager.maxDelayMs = kReconnectMaxDelayMs) (random : RandomBytes) :
    (manager.nextDelayMs random).2.toNat ≤ kReconnectMaxDelayMs.toNat := by
  have hcap : manager.cap.toNat ≤ kReconnectMaxDelayMs.toNat := by
    rw [toNat_cap, formula, h]
    exact Nat.min_le_left _ _
  have hlt : kReconnectMaxDelayMs.toNat < 2 ^ 32 - 1 := by decide
  have hdivisor : (manager.cap + 1).toNat = manager.cap.toNat + 1 := toNat_cap_add_one (by omega)
  rw [nextDelayMs, UInt32.toNat_mod, hdivisor]
  have hmod := Nat.mod_lt random.raw.toNat (Nat.zero_lt_succ manager.cap.toNat)
  exact Nat.le_trans (Nat.le_of_lt_succ hmod) hcap

/-- The next attempt to connect is due by `limit`. -/
structure DueBy (limit : Nat) (m : MainLoop κ δ ω) : Prop where
  longest : m.reconnectManager.maxDelayMs = kReconnectMaxDelayMs
  next : m.nextConnectAttemptAtMs.toNat ≤ limit

namespace DueBy
variable [IMqttClient κ] [IEventOutbox ω] {m : MainLoop κ δ ω}

omit [IEventOutbox ω] in
theorem keptByPublishing (limit : Nat) :
    MainLoop.KeptByPublishing (DueBy limit : MainLoop κ δ ω → Prop) :=
  ⟨fun _ _ _ h => ⟨h.longest, h.next⟩, fun _ _ h => ⟨h.longest, h.next⟩,
    fun _ _ h => ⟨h.longest, h.next⟩⟩

theorem atGate (h : DueBy limit m) (input : NetworkInput) : DueBy limit (m.atGate input) := by
  have hrest : DueBy limit (input.meanwhile.foldl MainLoop.afterRest m) := by
    apply List.foldlRecOn (motive := DueBy limit) input.meanwhile MainLoop.afterRest h
    intro n hn rest _
    cases rest with
    | _ => exact ⟨hn.longest, hn.next⟩
  exact ⟨hrest.longest, hrest.next⟩

variable [ArduinoJson] [IDedupCache δ]

theorem serveSession (h : DueBy limit m) (input : NetworkInput) :
    DueBy limit (m.serveSession input).1 := by
  have hsubscribed : DueBy limit (m.pollAndProcess input).restoreSubscription.1 := by
    rw [MainLoop.restoreSubscription]
    split
    · exact ⟨h.longest, h.next⟩
    · exact ⟨h.longest, h.next⟩
  exact (keptByPublishing limit).reportHealth ((keptByPublishing limit).flushOutbox hsubscribed) _ _

theorem attemptConnect (h : DueBy limit m) (input : NetworkInput)
    (hat : input.atMs + kReconnectMaxDelayMs.toNat ≤ limit) :
    DueBy limit (m.attemptConnect input).1 := by
  rw [MainLoop.attemptConnect]
  split
  · have hopened : DueBy limit m.sessionOpened := ⟨h.longest, h.next⟩
    exact hopened.serveSession input
  · refine ⟨h.longest, ?_⟩
    have hdelay := ReconnectManager.nextDelayMs_le h.longest input.random
    have hsum := Nat.mod_le (input.atMs + (m.reconnectManager.nextDelayMs input.random).2.toNat)
      (2 ^ 32)
    change (ms32 input.atMs + (m.reconnectManager.nextDelayMs input.random).2).toNat ≤ limit
    rw [ms32_add, ms32_toNat]
    omega

theorem updateNetwork (h : DueBy limit m) (input : NetworkInput)
    (hat : input.atMs + kReconnectMaxDelayMs.toNat ≤ limit) :
    DueBy limit (m.updateNetwork input).1 := by
  have hgate := h.atGate input
  rw [MainLoop.updateNetwork]
  split
  · rw [MainLoop.leaveNetwork]
    dsimp only
    split
    · exact ⟨hgate.longest, hgate.next⟩
    · exact ⟨hgate.longest, hgate.next⟩
  split
  · exact hgate.serveSession input
  split
  · exact hgate
  · exact hgate.attemptConnect input hat

theorem run (h : DueBy limit m) (inputs : List NetworkInput)
    (hat : ∀ input ∈ inputs, input.atMs + kReconnectMaxDelayMs.toNat ≤ limit) :
    DueBy limit (finalState MainLoop.updateNetwork m inputs) := by
  induction inputs generalizing m with
  | nil => exact h
  | cons input inputs ih =>
    rw [List.forall_mem_cons] at hat
    exact ih (h.updateNetwork input hat.1) hat.2

end DueBy

theorem KeptByCalls.loop [IMqttClient κ] [ArduinoJson] {P : Esp32AwsIotTransport κ → Prop}
    (h : KeptByCalls P) (topics : MqttTopics) : KeptByLoop topics fun _ => P where
  isConnected _ t := h t .isConnected
  disconnect _ t := h t .disconnect
  poll _ t := h t .poll
  response _ t message qos _ := h t (.publish message qos)
  opened _ t credentials := h t (.connect credentials topics.deviceId)
  refused _ t credentials ht _ := h t (.connect credentials topics.deviceId) ht
  subscribe _ t := h t (.subscribe topics.commands .atLeastOnce)
  forget _ _ ht := ht

theorem KeptByCalls.events [IMqttClient κ] {P : Esp32AwsIotTransport κ → Prop}
    (h : KeptByCalls P) (topics : MqttTopics) : KeptByEvents topics P :=
  fun t payload => h t (.publish ⟨topics.eventsIngest, payload⟩ .atLeastOnce)

theorem KeptByCalls.reports [IMqttClient κ] [ArduinoJson] {P : Esp32AwsIotTransport κ → Prop}
    (h : KeptByCalls P) (topics : MqttTopics) : KeptByReports topics P where
  health t report _ := h t (.publish ⟨topics.healthIngest, report.toJson⟩ .atMostOnce)
  shadow t state := h t (.publish ⟨topics.shadowUpdate, buildReportedUpdate state⟩ .atLeastOnce)

theorem config_keptByCalls [IMqttClient κ] (config : AwsIotConnectionConfig) :
    KeptByCalls fun t : Esp32AwsIotTransport κ => t.config = config :=
  keptByCalls_of_client (Q := fun settings _ => settings = config) fun _ _ _ h => h

theorem MainHolds.config_updateNetwork [IMqttClient κ] [IDedupCache δ] [IEventOutbox ω]
    [ArduinoJson] {topics : MqttTopics} {m : MainLoop κ δ ω}
    (h : MainHolds topics (fun t => t.config = config) m) (input : NetworkInput) :
    MainHolds topics (fun t => t.config = config) (m.updateNetwork input).1 :=
  h.updateNetwork (P := fun _ t => t.config = config) ((config_keptByCalls config).loop topics)
    ((config_keptByCalls config).events topics) ((config_keptByCalls config).reports topics) input

/-- In this call the main loop serves a live session, from `start` on. -/
structure Serves [IMqttClient κ] [IDedupCache δ] [IEventOutbox ω] [ArduinoJson]
    (good : Bool → κ → Prop) (topics : MqttTopics) (m : MainLoop κ δ ω) (input : NetworkInput)
    (start : MainLoop κ δ ω) : Prop where
  holds : MainHolds topics (Live good) start
  arrived : m.remoteCommandProcessor.OnlyArrived start.remoteCommandProcessor
  served : (m.updateNetwork input).1 = (start.serveSession input).1

/-- Online: the session lives, it is subscribed, and nothing waits to be published. -/
structure Online (good : Bool → κ → Prop) (m : MainLoop κ δ PersistentEventOutbox) : Prop where
  live : Live good m.transport
  subscribed : m.subscribedToCommands = true
  flushed : m.eventOutbox.memory.entries = []

namespace MainLoop
variable [IMqttClient κ] [ArduinoJson] {good : Bool → κ → Prop}
  {m : MainLoop κ δ PersistentEventOutbox}

theorem flushEntry_live (h : Live good m.transport) (hcoop : Cooperates good)
    (entry : OutboxEntry) :
    Live good (m.flushEntry entry).transport ∧
      (m.flushEntry entry).eventOutbox.memory.entries =
        m.eventOutbox.memory.entries.filter fun row => row.1 ≠ entry.eventId := by
  obtain ⟨htransport, _, houtbox⟩ := m.flushEntry_spec entry
  obtain ⟨hok, hlive⟩ := h.publish hcoop ⟨m.eventsIngest, entry.eventJson⟩ .atLeastOnce
  rw [htransport, houtbox, hok, if_pos rfl]
  exact ⟨hlive, rfl⟩

theorem flushEntries_live (h : Live good m.transport) (hcoop : Cooperates good)
    (entries : List OutboxEntry) :
    Live good (entries.foldl flushEntry m).transport ∧
      ∀ row ∈ (entries.foldl flushEntry m).eventOutbox.memory.entries,
        row ∈ m.eventOutbox.memory.entries ∧ row.1 ∉ entries.map OutboxEntry.eventId := by
  induction entries generalizing m with
  | nil => exact ⟨h, fun row hrow => ⟨hrow, List.not_mem_nil⟩⟩
  | cons entry entries ih =>
    obtain ⟨hlive, hleft⟩ := flushEntry_live h hcoop entry
    obtain ⟨hdone, hrest⟩ := ih hlive
    refine ⟨hdone, fun row hrow => ?_⟩
    obtain ⟨hmem, hlater⟩ := hrest row hrow
    rw [hleft, List.mem_filter, decide_eq_true_eq] at hmem
    rw [List.map_cons, List.mem_cons, not_or]
    exact ⟨hmem.1, hmem.2, hlater⟩

theorem flushOutbox_live (h : Live good m.transport) (hcoop : Cooperates good) :
    Live good m.flushOutbox.transport ∧ m.flushOutbox.eventOutbox.memory.entries = [] := by
  obtain ⟨hlive, hleft⟩ := flushEntries_live h hcoop (IEventOutbox.pending m.eventOutbox)
  refine ⟨hlive, List.eq_nil_iff_forall_not_mem.mpr fun row hrow => ?_⟩
  obtain ⟨hmem, hnone⟩ := hleft row hrow
  exact hnone (List.mem_map_of_mem (List.mem_map_of_mem hmem))

omit [ArduinoJson] in
theorem live_keptByPublishing (hcoop : Cooperates good) :
    KeptByPublishing fun n : MainLoop κ δ PersistentEventOutbox => Live good n.transport := by
  refine ⟨fun n message qos h => ?_, fun _ _ h => h, fun _ _ h => h⟩
  rw [publish, n.returned_transport]
  exact (h.publish hcoop message qos).2

omit [ArduinoJson] in
theorem restoreSubscription_live (h : Live good m.transport) (hcoop : Cooperates good) :
    Live good m.restoreSubscription.1.transport ∧
      m.restoreSubscription.1.subscribedToCommands = true := by
  rw [restoreSubscription]
  split
  next hflag => exact ⟨h, hflag⟩
  next =>
    obtain ⟨hok, hlive⟩ := h.subscribe hcoop m.remoteCommandProcessor.topics.commands .atLeastOnce
    refine ⟨?_, hok⟩
    rw [← m.remoteCommandProcessor.returned_transport] at hlive
    exact hlive

variable [IDedupCache δ] {topics : MqttTopics}

theorem serveSession_online (hm : MainHolds topics (Live good) m) (hcoop : Cooperates good)
    (input : NetworkInput) : Online good (m.serveSession input).1 := by
  have hpolled : MainHolds topics (Live good) (m.pollAndProcess input) :=
    hm.pollAndProcess (hm.onTransport.poll hcoop)
      (fun _ message qos _ hlive => (hlive.publish hcoop message qos).2) input
  obtain ⟨hlive, hflag⟩ := restoreSubscription_live hpolled.onTransport hcoop
  obtain ⟨hflushed, hempty⟩ := flushOutbox_live hlive hcoop
  have hremembered : KeptByPublishing fun n : MainLoop κ δ PersistentEventOutbox =>
      n.subscribedToCommands = true := ⟨fun _ _ _ h => h, fun _ _ h => h, fun _ _ h => h⟩
  refine ⟨(live_keptByPublishing hcoop).reportHealth hflushed _ _,
    hremembered.reportHealth (hremembered.flushOutbox hflag) _ _, ?_⟩
  rw [← hempty]
  exact congrArg (fun outbox : PersistentEventOutbox => outbox.memory.entries)
    (reportHealth_eventOutbox _ _ _)

end MainLoop

section Serves
variable [IMqttClient κ] [IDedupCache δ] [IEventOutbox ω] [ArduinoJson] {good : Bool → κ → Prop}
  {topics : MqttTopics} {m : MainLoop κ δ ω}

omit [IDedupCache δ] [ArduinoJson] in
theorem MainLoop.atGate_arrived (m : MainLoop κ δ ω) (input : NetworkInput) :
    m.remoteCommandProcessor.OnlyArrived (m.atGate input).remoteCommandProcessor := by
  rw [← m.wifiUpdated_processor input]
  exact .returned _ _

/-- With Wi-Fi up and the delay over, one call of a cooperating client is enough for a session. -/
theorem MainLoop.updateNetwork_serves (hm : MainHolds topics (fun t => t.config = config) m)
    (hcoop : Cooperates good) (hclient : good up m.transport.client)
    (hwifi : (m.updateNetwork input).2.wifiUp = true)
    (hdue : ¬ ms32 input.atMs < m.nextConnectAttemptAtMs)
    (hconfigured : Configured config (m.wifiUpdated input).credentialStore topics.deviceId) :
    ∃ start, Serves good topics m input start := by
  have hgate : MainHolds topics (fun t => t.config = config) (m.atGate input) :=
    hm.atGate ((config_keptByCalls config).loop topics) input
  have hreturned : (m.atGate input).transport =
      (m.wifiUpdated input).transport.isConnected.transport := returned_transport _ _
  rw [← (m.wifiUpdated_kept input).1] at hclient
  obtain ⟨hasked, hup⟩ := hcoop.isConnected hclient
  rw [← hreturned] at hasked hup
  cases hon : (m.wifiUpdated input).wifiManager.isConnected with
  | false =>
    rw [updateNetwork, hon, Bool.not_false, if_pos rfl] at hwifi
    exact absurd hwifi Bool.false_ne_true
  | true =>
    cases hconnected : (m.wifiUpdated input).transport.isConnected.ok with
    | true =>
      refine ⟨m.atGate input, hgate.mono (hup hconnected), m.atGate_arrived input, ?_⟩
      rw [updateNetwork, hon, hconnected, Bool.not_true, if_neg Bool.false_ne_true, if_pos rfl]
    | false =>
      rw [← hgate.onTransport] at hconfigured
      obtain ⟨hok, hlive⟩ := hcoop.connect hasked hconfigured
      rw [← hgate.named] at hok hlive
      refine ⟨(m.atGate input).sessionOpened, (hgate.returned hlive).of_eq rfl,
        (m.atGate_arrived input).trans (.returned _ _), ?_⟩
      rw [updateNetwork, hon, hconnected, Bool.not_true, if_neg Bool.false_ne_true,
        if_neg Bool.false_ne_true, atGate_next, if_neg hdue, attemptConnect_accepted hok]

theorem Live.serves (h : Live good m.transport)
    (hm : MainHolds topics (fun t => t.config = config) m) (hcoop : Cooperates good)
    (hwifi : (m.updateNetwork input).2.wifiUp = true) :
    Serves good topics m input (m.atGate input) ∧ (m.updateNetwork input).2.connect = none := by
  have hlive : Live good (m.wifiUpdated input).transport := by
    rw [(m.wifiUpdated_kept input).1]
    exact h
  obtain ⟨hconnected, hasked⟩ := hlive.isConnected hcoop
  have hgate : MainHolds topics (Live good) (m.atGate input) :=
    (hm.wifiUpdated input).returned hasked
  cases hon : (m.wifiUpdated input).wifiManager.isConnected with
  | false =>
    rw [MainLoop.updateNetwork, hon, Bool.not_false, if_pos rfl] at hwifi
    exact absurd hwifi Bool.false_ne_true
  | true =>
    refine ⟨⟨hgate, m.atGate_arrived input, ?_⟩, ?_⟩
    · rw [MainLoop.updateNetwork, hon, hconnected, Bool.not_true, if_neg Bool.false_ne_true,
        if_pos rfl]
    · rw [MainLoop.updateNetwork, hon, hconnected, Bool.not_true, if_neg Bool.false_ne_true,
        if_pos rfl]

end Serves

theorem Serves.online [IMqttClient κ] [IDedupCache δ] [ArduinoJson] {good : Bool → κ → Prop}
    {topics : MqttTopics} {m start : MainLoop κ δ PersistentEventOutbox}
    (h : Serves good topics m input start) (hcoop : Cooperates good) :
    Online good (m.updateNetwork input).1 := by
  rw [h.served]
  exact MainLoop.serveSession_online h.holds hcoop input

namespace Online
variable [IMqttClient κ] [ArduinoJson] [IDedupCache δ] {good : Bool → κ → Prop}
  {m : MainLoop κ δ PersistentEventOutbox} {topics : MqttTopics}

theorem updateNetwork (h : Online good m) (hm : MainHolds topics (fun t => t.config = config) m)
    (hcoop : Cooperates good) (hwifi : (m.updateNetwork input).2.wifiUp = true) :
    Online good (m.updateNetwork input).1 ∧ (m.updateNetwork input).2.connect = none := by
  obtain ⟨hserves, hconnect⟩ := h.live.serves hm hcoop hwifi
  exact ⟨hserves.online hcoop, hconnect⟩

theorem run (h : Online good m) (hm : MainHolds topics (fun t => t.config = config) m)
    (hcoop : Cooperates good) (inputs : List NetworkInput)
    (hwifi : ∀ u ∈ transitions MainLoop.updateNetwork m inputs, u.output.wifiUp = true) :
    Online good (finalState MainLoop.updateNetwork m inputs) ∧
      ∀ u ∈ transitions MainLoop.updateNetwork m inputs, u.output.connect = none := by
  induction inputs generalizing m with
  | nil => exact ⟨h, List.forall_mem_nil _⟩
  | cons input inputs ih =>
    rw [transitions, List.forall_mem_cons] at hwifi ⊢
    obtain ⟨honline, hconnect⟩ := h.updateNetwork hm hcoop hwifi.1
    obtain ⟨hfinal, hlater⟩ := ih honline (hm.config_updateNetwork input) hwifi.2
    exact ⟨hfinal, hconnect, hlater⟩

end Online

/-- The first call that finds Wi-Fi up, once the client does as it is asked and the longest delay is
over, serves a session. -/
theorem MainLoop.reached_serves [IMqttClient κ] [IDedupCache δ] [IEventOutbox ω] [ArduinoJson]
    {good : Bool → κ → Prop} (hcoop : Cooperates good) (topics : MqttTopics)
    (config : AwsIotConnectionConfig) (client : κ) (credentialStore : DeviceCredentialStore)
    (provisioned : Bool) (dedupCache : δ) (eventOutbox : ω) (inputs : List NetworkInput)
    (input : NetworkInput) :
    let m : MainLoop κ δ ω :=
      .setup topics config client credentialStore provisioned dedupCache eventOutbox
    let reached := finalState MainLoop.updateNetwork m inputs
    (∃ up, good up reached.transport.client) →
    Configured config (reached.wifiUpdated input).credentialStore topics.deviceId →
    input.atMs < 2 ^ 32 →
    (∀ earlier ∈ inputs, earlier.atMs + kReconnectMaxDelayMs.toNat ≤ input.atMs) →
    (reached.updateNetwork input).2.wifiUp = true →
    MainHolds topics (fun t => t.config = config) reached ∧
      ∃ start, Serves good topics reached input start := by
  intro m reached hclient hconfigured hnowrap hwaited hwifi
  obtain ⟨up, hclient⟩ := hclient
  have hm : MainHolds topics (fun t => t.config = config) reached := by
    apply MainHolds.run (P := fun _ t => t.config = config) _
      ((config_keptByCalls config).loop topics)
      ((config_keptByCalls config).events topics) ((config_keptByCalls config).reports topics)
    exact .setup (P := fun t => t.config = config) rfl topics credentialStore provisioned
      dedupCache eventOutbox
  have hdue : DueBy input.atMs reached := DueBy.run ⟨rfl, Nat.zero_le _⟩ inputs hwaited
  have hreached : ¬ ms32 input.atMs < reached.nextConnectAttemptAtMs := by
    rw [UInt32.lt_iff_toNat_lt, ms32_toNat, Nat.mod_eq_of_lt hnowrap]
    exact Nat.not_lt_of_le hdue.next
  exact ⟨hm, updateNetwork_serves hm hcoop hclient hwifi hreached hconfigured⟩

end InterBridge
