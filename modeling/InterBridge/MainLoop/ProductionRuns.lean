import InterBridge.MainLoop.PowerLoss
import InterBridge.MainLoop.ProductionLoop
import InterBridge.Provisioning.ManagerCalls

namespace InterBridge
open Foundations
set_option autoImplicit true

abbrev LoopTransition (ρ κ δ ω : Type) := Transition (Production ρ κ δ ω) LoopInput LoopTrace

/-- What the network update of an iteration reads of its input. -/
structure NetworkReading where
  wifiConnected : Bool
  atMs : Nat
  healthAtMs : Nat
  uptimeAtMs : Nat
  clock : ClockAnswers

def NetworkInput.reading (input : NetworkInput) : NetworkReading :=
  ⟨input.wifiConnected, input.atMs, input.healthAtMs, input.uptimeAtMs, input.clock⟩

def LoopInput.reading (input : LoopInput) : NetworkReading :=
  ⟨input.wifiConnected, input.atMs, input.healthAtMs, input.uptimeAtMs, input.clock⟩

/-- What was read, where the iteration came to the network update. -/
def LoopTransition.reading? (t : LoopTransition ρ κ δ ω) : Option NetworkReading :=
  t.output.network.map fun _ => t.input.reading

def DeviceEvent.entry [ArduinoJson] (event : DeviceEvent) : Bytes × Bytes :=
  (event.eventId, event.toJson)

/-- The events that the program published. -/
def publishedEvents (ts : List (LoopTransition ρ κ δ ω)) : List DeviceEvent :=
  ts.flatMap fun t => t.output.published

namespace MainLoop
variable [IMqttClient κ] [IDedupCache δ] [IEventOutbox ω] [ArduinoJson]

/-- What the rest of the loop did may be counted to the state or to the call. -/
theorem updateNetwork_meanwhile (m : MainLoop κ δ ω) (rests : List RestOfLoop)
    (input : NetworkInput) :
    m.updateNetwork { input with meanwhile := rests ++ input.meanwhile } =
      (rests.foldl afterRest m).updateNetwork input := by
  have hwifi : m.wifiUpdated { input with meanwhile := rests ++ input.meanwhile } =
      (rests.foldl afterRest m).wifiUpdated input := by
    rw [wifiUpdated, List.foldl_append]
    rfl
  rw [updateNetwork, updateNetwork, atGate, atGate, hwifi]
  rfl

end MainLoop

namespace ProvisioningManager

/-- What the manager does to Wi-Fi. -/
inductive WifiCase (wifi : WifiManager) : WifiManager → Prop where
  | kept : WifiCase wifi wifi
  | begun : WifiCase wifi wifi.begin
  | polled (connected : Bool) : WifiCase wifi (wifi.update connected).1

theorem update_wifiCase (m : ProvisioningManager) (nowMs : UInt32)
    (answers : ProvisioningAnswers) : WifiCase m.wifi (m.update nowMs answers).wifi := by
  cases m.update_cases nowMs answers with
  | inactive _ same =>
    rw [same]
    exact .kept
  | timedOut _ _ wifi => exact wifi ▸ .kept
  | sessionOpened _ _ _ _ wifi => exact wifi ▸ .kept
  | received _ _ _ _ wifi => exact wifi ▸ .begun
  | waiting _ _ _ _ _ same =>
    rw [same]
    exact .kept
  | dropped _ _ _ _ _ wifi => exact wifi ▸ .kept
  | linkDown _ _ _ _ wifi => exact wifi ▸ .polled answers.wifiConnected
  | completed _ _ _ wifi => exact wifi ▸ .polled answers.wifiConnected
  | failed _ _ _ _ wifi => exact wifi ▸ .polled answers.wifiConnected

theorem enterProvisioning_wifi (m : ProvisioningManager) (nowMs : UInt32)
    (answers : ProvisioningAnswers) : (m.enterProvisioning nowMs answers).wifi = m.wifi := by
  rw [enterProvisioning]
  dsimp only
  split
  · rfl
  · rfl

theorem requestProvisioning_wifiCase (m : ProvisioningManager) (nowMs : UInt32)
    (answers : ProvisioningAnswers) :
    WifiCase m.wifi (m.requestProvisioning nowMs answers).wifi := by
  rw [requestProvisioning]
  split
  · exact .kept
  · rw [enterProvisioning_wifi]
    exact .kept

end ProvisioningManager

namespace Production

section Rests
variable [IEventOutbox ω] [ArduinoJson]

/-- For the network update, what happened from `p` to `p'` is this, with these events published. -/
structure Amounts (p p' : Production ρ κ δ ω) (rests : List RestOfLoop)
    (events : List DeviceEvent) : Prop where
  globals : p'.globals = rests.foldl MainLoop.afterRest p.globals
  entries : rests.filterMap RestOfLoop.entry? = events.map DeviceEvent.entry

namespace Amounts
variable {p p' p'' : Production ρ κ δ ω}

theorem of_eq (h : p'.globals = p.globals) : Amounts p p' [] [] := ⟨h, rfl⟩

theorem trans (h : Amounts p p' rests events) (h' : Amounts p' p'' rests' events') :
    Amounts p p'' (rests ++ rests') (events ++ events') := by
  constructor
  · rw [h'.globals, h.globals, List.foldl_append]
  · rw [List.filterMap_append, List.map_append, h.entries, h'.entries]

theorem publish [IRandomSource ρ] (h : Amounts p p' rests events)
    (eventName : ProtocolEventName) :
    ∃ rests', Amounts p (p'.publishProtocolEvent eventName).1 rests'
      (events ++ [(p'.publishProtocolEvent eventName).2]) :=
  have hpublished : Amounts p' (p'.publishProtocolEvent eventName).1 [.eventEnqueued
      ⟨_, (p'.publishProtocolEvent eventName).2.toJson⟩]
      [(p'.publishProtocolEvent eventName).2] := ⟨rfl, rfl⟩
  ⟨_, h.trans hpublished⟩

theorem managed (p : Production ρ κ δ ω) {m : ProvisioningManager}
    (h : ProvisioningManager.WifiCase p.globals.wifiManager m.wifi) :
    ∃ rests, Amounts p (p.managed m) rests [] := by
  have hmanaged : (p.managed m).globals =
      { p.globals with credentialStore := m.store, wifiManager := m.wifi } := rfl
  generalize m.wifi = wifi at h hmanaged
  cases h with
  | kept => exact ⟨[.credentialsChanged m.store], hmanaged, rfl⟩
  | begun => exact ⟨[.credentialsChanged m.store, .wifiBegun], hmanaged, rfl⟩
  | polled connected => exact ⟨[.credentialsChanged m.store, .wifiPolled connected], hmanaged, rfl⟩

end Amounts

variable [IRandomSource ρ] (p : Production ρ κ δ ω) (input : LoopInput)

theorem updateButton_amounts :
    ∃ rests, Amounts p (p.updateButton input).1 rests (p.updateButton input).2 := by
  rw [updateButton]
  dsimp only
  generalize p.buttonController.update input.buttonPressed (ms32 input.buttonAtMs) = pressed
  obtain ⟨controller, action⟩ := pressed
  have hpressed : Amounts p { p with buttonController := controller } [] [] := .of_eq rfl
  cases action with
  | none => exact ⟨[], hpressed⟩
  | provisioningRequested =>
    obtain ⟨rests, hmanaged⟩ := Amounts.managed { p with buttonController := controller }
      (ProvisioningManager.requestProvisioning_wifiCase
        (manager { p with buttonController := controller }) (ms32 input.buttonAtMs) input.request)
    exact ⟨_, hpressed.trans hmanaged⟩
  | factoryResetRequested =>
    obtain ⟨rests, hmanaged⟩ := Amounts.managed { p with buttonController := controller }
      (m := { manager { p with buttonController := controller } with store := _ }) .kept
    obtain ⟨rests', hpublished⟩ := (hpressed.trans hmanaged).publish .factoryResetRequested
    exact ⟨_, hpublished.trans (.of_eq rfl)⟩

theorem updateProvisioning_amounts :
    ∃ rests, Amounts p (p.updateProvisioning input).1 rests (p.updateProvisioning input).2 := by
  have hwifi := p.manager.update_wifiCase (ms32 input.provisioningAtMs) input.provisioning
  obtain ⟨rests, hmanaged⟩ := Amounts.managed p (m := (p.manager.update
    (ms32 input.provisioningAtMs) input.provisioning).pollEvent.1) hwifi
  rw [updateProvisioning]
  dsimp only
  split
  · exact ⟨rests, hmanaged⟩
  next event hevent =>
    exact hmanaged.publish event.name

theorem updateIntercom_amounts :
    ∃ rests, Amounts p (p.updateIntercom input).1 rests (p.updateIntercom input).2 := by
  rw [updateIntercom]
  dsimp only
  split
  · exact ⟨[], .of_eq rfl⟩
  next event hevent =>
    have hhandled : Amounts p { p with
        lineDetector := (p.lineDetector.update input.lineState).1
        globals := p.globals.afterRest (.intercomEvent event) } [.intercomEvent event] [] :=
      ⟨rfl, rfl⟩
    split
    · exact ⟨_, hhandled⟩
    next eventName hname =>
      exact hhandled.publish eventName

end Rests

section Loop
variable [IRandomSource ρ] [IMqttClient κ] [IDedupCache δ] [IEventOutbox ω] [ArduinoJson]

/-- What an iteration can do. -/
inductive LoopCase (p : Production ρ κ δ ω) (input : LoopInput) :
    Production ρ κ δ ω × LoopTrace → Prop where
  | ended (restarted : p.restarted = true) : LoopCase p input (p, {})
  | restarts {p' : Production ρ κ δ ω} (amounts : Amounts p p' rests events)
      (restarted : p'.restarted = true) : LoopCase p input (p', { published := events })
  | updates {q q' p' : Production ρ κ δ ω} (earlier : Amounts p q rests events)
      (call : NetworkInput) (alone : call.meanwhile = []) (reading : call.reading = input.reading)
      (updated : q'.globals = (q.globals.updateNetwork call).1)
      (later : Amounts q' p' rests' events') :
      LoopCase p input (p', { published := events ++ events'
                              network := some (q.globals.updateNetwork call).2 })

theorem loop_case (p : Production ρ κ δ ω) (input : LoopInput) :
    LoopCase p input (p.loop input) := by
  rw [loop]
  split
  next hended => exact .ended hended
  next =>
    obtain ⟨rests, hpressed⟩ := p.updateButton_amounts input
    dsimp only
    split
    next hrestarted => exact .restarts hpressed hrestarted
    next =>
      obtain ⟨rests', hprovisioned⟩ := (p.updateButton input).1.updateProvisioning_amounts input
      obtain ⟨rests'', hhooked⟩ := (((p.updateButton input).1.updateProvisioning input).1.updateNetwork
        input).1.updateIntercom_amounts input
      exact .updates (hpressed.trans hprovisioned) _ rfl rfl rfl hhooked

/-- The run of the program up to `p`, seen from the network update: it was called so, and this has
happened since the last call. -/
structure SimulatedBy (m : MainLoop κ δ ω) (ts : List (LoopTransition ρ κ δ ω))
    (p : Production ρ κ δ ω) (calls : List NetworkInput) (since : List RestOfLoop) : Prop where
  globals : p.globals =
    since.foldl MainLoop.afterRest (finalState MainLoop.updateNetwork m calls)
  network : (transitions MainLoop.updateNetwork m calls).map Transition.output =
    ts.filterMap fun t => t.output.network
  readings : calls.map NetworkInput.reading = ts.filterMap LoopTransition.reading?
  entries : (calls.flatMap NetworkInput.meanwhile ++ since).filterMap RestOfLoop.entry? =
    (publishedEvents ts).map DeviceEvent.entry

theorem SimulatedBy.next {m : MainLoop κ δ ω} {ts : List (LoopTransition ρ κ δ ω)}
    {p : Production ρ κ δ ω} (h : SimulatedBy m ts p calls since) (input : LoopInput) :
    ∃ calls' since', SimulatedBy m (ts ++ [.of loop p input]) (p.loop input).1 calls' since' := by
  have hcase := p.loop_case input
  rw [Transition.of]
  generalize p.loop input = result at hcase
  cases hcase with
  | ended =>
    refine ⟨calls, since, h.globals, ?_, ?_, ?_⟩
    · rw [List.filterMap_append, h.network]
      exact (List.append_nil _).symm
    · rw [List.filterMap_append, h.readings]
      exact (List.append_nil _).symm
    · rw [publishedEvents, List.flatMap_append, h.entries]
      exact congrArg _ (List.append_nil _).symm
  | @restarts rests _ _ amounts _ =>
    refine ⟨calls, since ++ rests, ?_, ?_, ?_, ?_⟩
    · rw [amounts.globals, h.globals, List.foldl_append]
    · rw [List.filterMap_append, h.network]
      exact (List.append_nil _).symm
    · rw [List.filterMap_append, h.readings]
      exact (List.append_nil _).symm
    · rw [publishedEvents, List.flatMap_append, ← List.append_assoc, List.filterMap_append,
        h.entries, amounts.entries, List.map_append, List.flatMap_singleton]
      rfl
  | @updates rests _ rests' _ q q' _ earlier call alone reading updated later =>
    have hq : q.globals = (since ++ rests).foldl MainLoop.afterRest
        (finalState MainLoop.updateNetwork m calls) := by
      rw [earlier.globals, h.globals, List.foldl_append]
    have hcall := MainLoop.updateNetwork_meanwhile (finalState MainLoop.updateNetwork m calls)
      (since ++ rests) call
    rw [← hq] at hcall
    refine ⟨calls ++ [{ call with meanwhile := since ++ rests ++ call.meanwhile }], rests', ?_, ?_,
      ?_, ?_⟩
    · rw [later.globals, updated, finalState_append, ← hcall]
      rfl
    · rw [transitions_append, List.map_append, List.filterMap_append, h.network, ← hcall]
      rfl
    · rw [List.map_append, List.filterMap_append, h.readings]
      exact congrArg (_ ++ [·]) reading
    · rw [publishedEvents, List.flatMap_append, List.flatMap_append, List.flatMap_singleton,
        List.flatMap_singleton, alone, List.append_nil, ← List.append_assoc, List.filterMap_append,
        List.filterMap_append, h.entries, earlier.entries, later.entries, List.map_append,
        List.map_append, List.append_assoc]
      rfl

/-- The run of the program, seen from the network update, is one of its own runs. -/
theorem simulatedBy_run {m : MainLoop κ δ ω} {p : Production ρ κ δ ω} (h : p.globals = m)
    (inputs : List LoopInput) : ∃ calls since, SimulatedBy m (transitions loop p inputs)
      (finalState loop p inputs) calls since := by
  apply run_induction (motive := fun ts p => ∃ calls since, SimulatedBy m ts p calls since)
  · exact ⟨[], [], h, rfl, rfl, rfl⟩
  · rintro ts p input ⟨calls, since, hp⟩
    exact hp.next input

end Loop

theorem setup_globals (random : ρ) (topics : MqttTopics) (config : AwsIotConnectionConfig)
    (client : κ) (store : PersistentStore) (provisioned : Bool) (dedupCache : δ) (eventOutbox : ω)
    (templateName proofOfPossession : Bytes) (bootAtMs : Nat) (answers : ProvisioningAnswers) :
    (setup random topics config client store provisioned dedupCache eventOutbox templateName
      proofOfPossession bootAtMs answers).globals =
        .setup topics config client store provisioned dedupCache eventOutbox := by
  rw [setup, ProvisioningManager.checkAtBoot]
  split
  · rw [ProvisioningManager.enterProvisioning]
    dsimp only
    split
    · rfl
    · rfl
  · rfl

end Production

/-- Over every run of the program: the network update is called as in one of its own runs, with what
the button, provisioning and the intercom do in between as the rest of the loop; the events
published are what is enqueued in it, in order. So what holds over all runs of the network update
holds over all runs of the program. -/
theorem production_simulated [IRandomSource ρ] [IMqttClient κ] [IDedupCache δ] [IEventOutbox ω]
    [ArduinoJson] (random : ρ) (topics : MqttTopics) (config : AwsIotConnectionConfig) (client : κ)
    (store : PersistentStore) (provisioned : Bool) (dedupCache : δ) (eventOutbox : ω)
    (templateName proofOfPossession : Bytes) (bootAtMs : Nat) (answers : ProvisioningAnswers)
    (inputs : List LoopInput) :
    let p := Production.setup random topics config client store provisioned dedupCache eventOutbox
      templateName proofOfPossession bootAtMs answers
    ∃ calls since, Production.SimulatedBy
      (.setup topics config client store provisioned dedupCache eventOutbox)
      (transitions Production.loop p inputs) (finalState Production.loop p inputs) calls since :=
  Production.simulatedBy_run (Production.setup_globals random topics config client store
    provisioned dedupCache eventOutbox templateName proofOfPossession bootAtMs answers) inputs

end InterBridge
