import InterBridge.Dev.DevEntryPoints
import InterBridge.Dev.SmokeReports

namespace InterBridge
open Foundations
set_option autoImplicit true

/-- What an iteration gives to `update` besides the state of the transport. -/
structure UpdateReading where
  atMs : Nat
  wifiConnected : Bool
  timeValid : Bool
  deriving DecidableEq

def DevLoopReadings.update (r : DevLoopReadings) : UpdateReading :=
  ⟨r.atMs, r.wifiConnected, r.timeValidAtUpdate⟩

def SmokeInput.updateReading (input : SmokeInput) : Option UpdateReading :=
  match input.call with
  | .update wifiConnected timeValid _ => some ⟨input.atMs, wifiConnected, timeValid⟩
  | _ => none

def SmokeCall.isUpdate : SmokeCall → Bool
  | .update _ _ _ => true
  | _ => false

/-- The call only passes on what the network stack has signalled. -/
def SmokeCall.isSignal : SmokeCall → Bool
  | .wifiAssociationResult _ => true
  | _ => false

namespace DevMqttSmokeState

/-- The result of every action that has one is reported in the very next call. -/
def ReportedNext : List SmokeTransition → Prop
  | [] => True
  | t :: later =>
    (t.output.needsReport = true → ∃ next ∈ later.head?, next.input.call.reports t.output = true) ∧
      ReportedNext later

/-- The coordinator was driven as it asks to be: updated with these readings one after the other,
with every result reported at once, and with no report but a signal made where it is not waited
for. -/
structure Driven (readings : List UpdateReading) (ts : List SmokeTransition) : Prop where
  updates : ts.filterMap (fun t => t.input.updateReading) = readings
  reported : ReportedNext ts
  awaited : ∀ t ∈ ts, t.input.call.isSignal = false → t.before.Accepts t.input.call

theorem updateReading_of_report (h : call.isUpdate = false) (atMs : Nat) :
    (SmokeInput.mk call atMs).updateReading = none := by
  cases call with
  | update => cases h
  | _ => rfl

theorem output_of_report (h : call.isUpdate = false) (c : DevSmokeConfig) (s : DevMqttSmokeState)
    (atMs : Nat) : (s.step c ⟨call, atMs⟩).2 = .none := by
  cases call with
  | update => cases h
  | _ => rfl

theorem ReportedNext.reported {ts : List SmokeTransition} (h : ReportedNext ts) : Reported ts := by
  induction ts with
  | nil => trivial
  | cons t ts ih =>
    refine ⟨fun hneeds => ?_, ih h.2⟩
    obtain ⟨next, hnext, hreports⟩ := h.1 hneeds
    exact ⟨next, List.mem_of_mem_head? hnext, hreports⟩

theorem ReportedNext.append {ts ts' : List SmokeTransition} (h : ReportedNext ts)
    (h' : ReportedNext ts') : ReportedNext (ts ++ ts') := by
  induction ts with
  | nil => exact h'
  | cons t ts ih =>
    refine ⟨fun hneeds => ?_, ih h.2⟩
    obtain ⟨next, hnext, hreports⟩ := h.1 hneeds
    refine ⟨next, ?_, hreports⟩
    change next ∈ (ts ++ ts').head?
    rw [List.head?_append, Option.mem_def.mp hnext]
    rfl

theorem Driven.append (h : Driven readings ts) (h' : Driven readings' ts') :
    Driven (readings ++ readings') (ts ++ ts') := by
  refine ⟨?_, h.reported.append h'.reported, ?_⟩
  · rw [List.filterMap_append, h.updates, h'.updates]
  · rw [List.forall_mem_append]
    exact ⟨h.awaited, h'.awaited⟩

theorem driven_nil : Driven [] [] := ⟨rfl, trivial, List.forall_mem_nil _⟩

theorem driven_signal (c : DevSmokeConfig) (s : DevMqttSmokeState) (success : Bool) (atMs : Nat) :
    Driven [] [.of (step c) s ⟨.wifiAssociationResult success, atMs⟩] := by
  refine ⟨rfl, ⟨fun hneeds => absurd hneeds Bool.false_ne_true, trivial⟩, ?_⟩
  rw [List.forall_mem_singleton]
  exact fun hsignal => absurd hsignal.symm Bool.false_ne_true

theorem driven_answered {c : DevSmokeConfig} {s : DevMqttSmokeState} (reading : UpdateReading)
    {call : SmokeCall} {result : DevMqttSmokeState × DevSmokeAction}
    (hresult : s.step c ⟨.update reading.wifiConnected reading.timeValid mqttConnected,
      reading.atMs⟩ = result)
    (hreports : result.2.needsReport = true → call.reports result.2 = true)
    (haccepts : result.1.Accepts call) (hcall : call.isUpdate = false) (atMs : Nat) :
    Driven [reading] (transitions (step c) s
      [⟨.update reading.wifiConnected reading.timeValid mqttConnected, reading.atMs⟩,
        ⟨call, atMs⟩]) := by
  subst hresult
  refine ⟨?_, ⟨fun hneeds => ⟨_, rfl, hreports hneeds⟩, ?_, trivial⟩, ?_⟩
  · rw [transitions, transitions, transitions, List.filterMap_cons, List.filterMap_cons]
    dsimp only [Transition.of]
    rw [updateReading_of_report hcall]
    rfl
  · intro hneeds
    dsimp only [Transition.of] at hneeds
    rw [output_of_report hcall] at hneeds
    exact absurd hneeds Bool.false_ne_true
  · rw [transitions, transitions, transitions, List.forall_mem_cons, List.forall_mem_cons]
    exact ⟨fun _ => trivial, fun _ => haccepts, List.forall_mem_nil _⟩

theorem driven_unanswered {c : DevSmokeConfig} {s : DevMqttSmokeState} (reading : UpdateReading)
    (hneeds : (s.step c ⟨.update reading.wifiConnected reading.timeValid mqttConnected,
      reading.atMs⟩).2.needsReport = false) :
    Driven [reading] (transitions (step c) s
      [⟨.update reading.wifiConnected reading.timeValid mqttConnected, reading.atMs⟩]) := by
  refine ⟨rfl, ⟨fun hneeds' => ?_, trivial⟩, ?_⟩
  · exact absurd (hneeds.symm.trans hneeds') Bool.false_ne_true
  · rw [transitions, transitions, List.forall_mem_singleton]
    exact fun _ => trivial

end DevMqttSmokeState

namespace DevEntryPoint
open DevMqttSmokeState

/-- From `c` to `c'` the coordinator was called, and driven with these readings by the calls. -/
def Drives (readings : List UpdateReading) (c c' : RecordedConnectivity) : Prop :=
  ∃ inputs, c'.calls = c.calls ++ inputs ∧
    c'.coordinator = finalState (step connectivityConfig) c.coordinator inputs ∧
    Driven readings (transitions (step connectivityConfig) c.coordinator inputs)

theorem Drives.refl (c : RecordedConnectivity) : Drives [] c c :=
  ⟨[], (List.append_nil _).symm, rfl, driven_nil⟩

theorem Drives.trans (h : Drives readings c c') (h' : Drives readings' c' c'') :
    Drives (readings ++ readings') c c'' := by
  obtain ⟨inputs, hcalls, hfinal, hdriven⟩ := h
  obtain ⟨inputs', hcalls', hfinal', hdriven'⟩ := h'
  rw [hfinal] at hfinal' hdriven'
  refine ⟨inputs ++ inputs', ?_, ?_, ?_⟩
  · rw [hcalls', hcalls, List.append_assoc]
  · rw [finalState_append, hfinal']
  · rw [transitions_append]
    exact hdriven.append hdriven'

theorem Drives.consistent (h : Drives readings c c') (hc : c.coordinator.Consistent) :
    c'.coordinator.Consistent := by
  obtain ⟨inputs, _, hfinal, _⟩ := h
  rw [hfinal]
  exact hc.run connectivityConfig inputs

theorem drives_signal (c : RecordedConnectivity) (success : Bool) (atMs : Nat) :
    Drives [] c (c.call ⟨.wifiAssociationResult success, atMs⟩).1 :=
  ⟨[⟨.wifiAssociationResult success, atMs⟩], rfl, rfl, driven_signal _ c.coordinator success atMs⟩

theorem onWifiEvents_recorded (s : DevEntryPoint κ) (events : List SystemEvent) :
    (events.foldl onWifiEvent s).recorded = s.recorded := by
  apply List.foldlRecOn (motive := fun t : DevEntryPoint κ => t.recorded = s.recorded)
    events onWifiEvent
  · rfl
  · intro t ht event _
    cases event with
    | _ => exact ht

theorem drained {p : RecordedConnectivity → Prop} {r : DevLoopReadings}
    (hsignal : ∀ c success, p c → p (c.call ⟨.wifiAssociationResult success, r.atMs⟩).1)
    {s : DevEntryPoint κ} (h : p s.recorded) : p (s.drainWifiEventSignals r).recorded := by
  have hassociated {s : DevEntryPoint κ} (h : p s.recorded) :
      p (s.drainAssociated r.atMs).recorded := by
    rw [drainAssociated]
    split
    · exact hsignal _ true h
    · exact h
  have hdisconnected {s : DevEntryPoint κ} (h : p s.recorded) :
      p (s.drainDisconnected r.atMs).recorded := by
    rw [drainDisconnected]
    split
    · exact hsignal _ false h
    · exact h
  rw [← onWifiEvents_recorded s r.beforeDrain] at h
  have hfirst := hassociated h
  rw [← onWifiEvents_recorded _ r.duringDrain] at hfirst
  exact hdisconnected hfirst

theorem drains (s : DevEntryPoint κ) (r : DevLoopReadings) :
    Drives [] s.recorded (s.drainWifiEventSignals r).recorded :=
  drained (p := Drives [] s.recorded)
    (fun c success h => h.trans (drives_signal c success r.atMs)) (.refl _)

section Client
variable [IMqttClient κ]

theorem checkSession_recorded (s : DevEntryPoint κ) (r : DevLoopReadings) :
    (s.checkSession r).recorded = s.recorded := by
  have hchecked (wifiConnected timeValid : Bool) :
      (s.checkNetwork wifiConnected timeValid).recorded = s.recorded := by
    rw [checkNetwork]
    dsimp only
    split
    · split
      · rfl
      split
      · rfl
      · rfl
    · split
      · rfl
      split
      · rfl
      · rfl
  rw [checkSession]
  dsimp only
  split
  · exact hchecked _ _
  · exact hchecked _ _

theorem subscribe_recorded (s : DevEntryPoint κ) :
    s.subscribe.recorded = s.recorded := by
  rw [subscribe]
  dsimp only
  split
  · rfl
  · rfl

theorem connectAndSubscribe_recorded (s : DevEntryPoint κ) (timeValid : Bool) :
    (s.connectAndSubscribe timeValid).1.recorded = s.recorded := by
  rw [connectAndSubscribe]
  dsimp only
  split
  · rfl
  · exact subscribe_recorded _

theorem openSession_recorded (s : DevEntryPoint κ) (r : DevLoopReadings) :
    (s.openSession r).recorded = (s.recorded.call
      ⟨.mqttResult (s.connectAndSubscribe r.timeValidAtConnect).2, r.atMs⟩).1 := by
  change ((s.connectAndSubscribe r.timeValidAtConnect).1.recorded.call
    ⟨.mqttResult (s.connectAndSubscribe r.timeValidAtConnect).2, r.atMs⟩).1 = _
  rw [connectAndSubscribe_recorded]

theorem openSession_connectivity (s : DevEntryPoint κ) (r : DevLoopReadings) :
    (s.openSession r).connectivity = s.connectivity.mqttResult connectivityConfig (ms32 r.atMs)
      (s.connectAndSubscribe r.timeValidAtConnect).2 :=
  congrArg RecordedConnectivity.coordinator (s.openSession_recorded r)

theorem recoverWifi_recorded (program : DevProgram) (s : DevEntryPoint κ) :
    (s.recoverWifi program).recorded = s.recorded := by
  have hdown : (if s.isConnected.2 then s.isConnected.1.disconnect
      else s.isConnected.1).recorded = s.recorded := by
    split
    · rfl
    · rfl
  rw [recoverWifi]
  dsimp only
  split
  · exact hdown
  · exact hdown

/-- The call that an action ends in, if any. -/
inductive Ending (action : DevSmokeAction) (c c' : RecordedConnectivity) : Prop where
  | silent (needless : action.needsReport = false) (kept : c' = c)
  | reported (call : SmokeCall) (atMs : Nat) (report : call.isUpdate = false)
      (reports : action.needsReport = true → call.reports action = true)
      (accepts : c.coordinator.Accepts call) (after : c' = (c.call ⟨call, atMs⟩).1)

theorem stage_of_reportedAction {stage : DevSmokeState} (h : stage.reportedAction = action)
    (hneeds : action.needsReport = true) :
    (action = .resolveDns → stage = .waitingForDns) ∧
      (action = .connectMqtt → stage = .waitingForMqtt) := by
  subst h
  cases stage with
  | waitingForDns => exact ⟨fun _ => rfl, DevSmokeAction.noConfusion⟩
  | waitingForMqtt => exact ⟨DevSmokeAction.noConfusion, fun _ => rfl⟩
  | _ => cases hneeds

theorem attempt_of_connectWifi {s : DevMqttSmokeState}
    (h : UpdateStep c s nowMs wifiConnected timeValid mqttConnected result)
    (haction : result.2 = .connectWifi) : result.1.wifiAttemptInFlight = true := by
  cases h with
  | recovering => cases haction
  | awaiting => cases haction
  | offline _ _ _ hstep =>
    cases hstep with
    | connecting => rfl
    | _ => cases haction
  | online _ _ _ _ hstep =>
    cases hstep with
    | _ => cases haction

/-- Every action of an `update` is brought to its end by the switch. -/
theorem act_ending (program : DevProgram) {s : DevEntryPoint κ} {s₀ : DevMqttSmokeState}
    (h : UpdateStep connectivityConfig s₀ nowMs wifiConnected timeValid mqttConnected
      (s.connectivity, action)) (r : DevLoopReadings) :
    Ending action s.recorded (s.act program r action).recorded := by
  cases action with
  | connectWifi =>
    rw [act]
    split
    · exact .silent rfl rfl
    · exact .reported .wifiAssociationStarted r.associationAtMs rfl Bool.noConfusion
        (attempt_of_connectWifi h rfl) rfl
  | resolveDns =>
    have hstage := (stage_of_reportedAction (h.reportedAction rfl) rfl).1 rfl
    exact .reported (.dnsResult r.dnsOk) r.atMs rfl (fun _ => rfl) hstage rfl
  | connectMqtt =>
    have hstage := (stage_of_reportedAction (h.reportedAction rfl) rfl).2 rfl
    rw [act, connectMqtt]
    split
    · exact .reported .networkPreflightFailed r.atMs rfl (fun _ => rfl) hstage rfl
    · exact .reported (.mqttResult _) r.atMs rfl (fun _ => rfl) hstage
        (s.openSession_recorded r)
  | recoverWifi =>
    exact .silent rfl (s.recoverWifi_recorded program)
  | configureTime => exact .silent rfl rfl
  | none => exact .silent rfl rfl

theorem act_drives (program : DevProgram) {s : DevEntryPoint κ} (h : s.connectivity.Consistent)
    (r : DevLoopReadings) : Drives [r.update] s.recorded
      ((s.updateConnectivity r).1.act program r (s.updateConnectivity r).2).recorded := by
  have hupdated : UpdateStep connectivityConfig s.connectivity (ms32 r.atMs) r.wifiConnected
      r.timeValidAtUpdate s.isConnected.2 _ := h.update_step _ _ _
  have hending : Ending (s.updateConnectivity r).2 (s.updateConnectivity r).1.recorded
      ((s.updateConnectivity r).1.act program r (s.updateConnectivity r).2).recorded :=
    act_ending program hupdated r
  cases hending with
  | silent hneeds hkept =>
    rw [hkept]
    exact ⟨[⟨.update r.wifiConnected r.timeValidAtUpdate s.isConnected.2, r.atMs⟩], rfl, rfl,
      driven_unanswered r.update hneeds⟩
  | reported call atMs hcall hreports haccepts hafter =>
    rw [hafter]
    exact ⟨[⟨.update r.wifiConnected r.timeValidAtUpdate s.isConnected.2, r.atMs⟩, ⟨call, atMs⟩],
      List.append_assoc _ _ _, rfl, driven_answered r.update rfl hreports haccepts hcall atMs⟩

/-- One iteration updates the coordinator once, and reports to it what it is owed. -/
theorem maintain_drives (program : DevProgram) {s : DevEntryPoint κ}
    (h : s.connectivity.Consistent) (r : DevLoopReadings) :
    Drives [r.update] s.recorded (s.maintain program r).1.recorded := by
  have hdrained := (s.checkSession r).drains r
  rw [checkSession_recorded] at hdrained
  exact hdrained.trans (act_drives program (hdrained.consistent h) r)

variable [ArduinoJson]

theorem report_recorded (program : DevProgram) (s : DevEntryPoint κ) (r : DevLoopReadings) :
    (s.report program r).recorded = s.recorded := by
  have hhealth : (s.publishHealth program r).recorded = s.recorded := by
    rw [publishHealth]
    split
    · rfl
    dsimp only
    split
    · rfl
    · rw [publishReport]
      dsimp only
      split
      · rfl
      · rfl
  rw [report, heartbeat]
  split
  · exact hhealth
  · exact hhealth

theorem serve_recorded (s : DevEntryPoint κ) (r : DevLoopReadings) :
    (s.serve r).recorded = s.recorded := by
  rw [serve]
  dsimp only
  split
  · rfl
  · rfl

theorem loop_recorded (s : DevEntryPoint κ) (r : DevLoopReadings) :
    (s.loop r).1.recorded = (s.maintain .mqttSmoke r).1.recorded :=
  (report_recorded .mqttSmoke _ r).trans (serve_recorded _ r)

theorem loop_drives {s : DevEntryPoint κ} (h : s.connectivity.Consistent) (r : DevLoopReadings) :
    Drives [r.update] s.recorded (s.loop r).1.recorded := by
  rw [loop_recorded]
  exact maintain_drives .mqttSmoke h r

end Client
end DevEntryPoint

namespace DevRingEntryPoint
open DevMqttSmokeState DevEntryPoint
variable [IMqttClient κ] [IRandomSource ρ] [IEventOutbox ω] [ArduinoJson]

omit [IRandomSource ρ] in
theorem serve_recorded (s : DevRingEntryPoint κ ρ ω) (r : DevRingLoopReadings) :
    (s.serve r).entry.recorded = s.entry.recorded := by
  rw [serve]
  dsimp only
  split
  · rfl
  split
  · rfl
  · rfl

theorem loop_recorded (program : DevProgram) (s : DevRingEntryPoint κ ρ ω)
    (r : DevRingLoopReadings) :
    (s.loop program r).1.entry.recorded = (s.maintain program r).1.entry.recorded :=
  (report_recorded program _ r.toDevLoopReadings).trans (serve_recorded _ r)

theorem loop_drives (program : DevProgram) {s : DevRingEntryPoint κ ρ ω}
    (h : s.entry.connectivity.Consistent) (r : DevRingLoopReadings) :
    Drives [r.update] s.entry.recorded (s.loop program r).1.entry.recorded := by
  rw [loop_recorded]
  exact maintain_drives program h r.toDevLoopReadings

end DevRingEntryPoint

namespace DevEntryPoint
open DevMqttSmokeState

theorem drives_run {step : σ → ι → σ × ο} (view : σ → RecordedConnectivity)
    {reading : ι → UpdateReading}
    (hstep : ∀ s i, (view s).coordinator.Consistent →
      Drives [reading i] (view s) (view (step s i).1))
    {s : σ} (hs : (view s).coordinator.Consistent) (is : List ι) :
    Drives (is.map reading) (view s) (view (finalState step s is)) := by
  induction is generalizing s with
  | nil => exact .refl _
  | cons i is ih =>
    have hfirst := hstep s i hs
    exact hfirst.trans (ih (hfirst.consistent hs))

/-- The calls on record, made one after the other from the start, lead to the coordinator as it is,
and drive it with these readings as it asks to be driven. -/
structure DrivenByCalls (readings : List UpdateReading) (c : RecordedConnectivity) : Prop where
  replayed : c.coordinator =
    finalState (step connectivityConfig) (.constructed connectivityConfig) c.calls
  driven : Driven readings
    (transitions (step connectivityConfig) (.constructed connectivityConfig) c.calls)

theorem Drives.byCalls (h : Drives readings {} c) : DrivenByCalls readings c := by
  obtain ⟨inputs, hcalls, hfinal, hdriven⟩ := h
  rw [List.nil_append] at hcalls
  subst hcalls
  exact ⟨hfinal, hdriven⟩

end DevEntryPoint

end InterBridge
