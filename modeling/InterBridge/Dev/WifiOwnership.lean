import InterBridge.Dev.BleMqttMain
import InterBridge.Dev.SmokeReports

namespace InterBridge
open Foundations
set_option autoImplicit true

/-- What the switch of `loop` learns of the network: that a lookup or a connection failed, or that
the device is fully connected. -/
def LoopReadings.learns (r : LoopReadings) : DevSmokeAction → Option Bool
  | .resolveDns => if r.resolves then none else some false
  | .connectMqtt => some (r.resolves && r.timeValid && r.connect && r.subscribe)
  | _ => none

namespace BleMqttMain
open DevMqttSmokeState

/-- The main task stands before its switch, with this action to carry out. -/
def Acting (s : BleMqttMain) (action : DevSmokeAction) : Prop := ∃ now, s.point = .act now action

/-- The main task takes the step through its switch. -/
def ActsOn (action : DevSmokeAction) (t : BleMqttTransition) : Prop :=
  t.before.Acting action ∧ ∃ readings, t.input = .loop readings

def learned (t : BleMqttTransition) : Option Bool :=
  match t.before.point, t.input with
  | .act _ action, .loop readings => readings.learns action
  | _, _ => none

/-- The count of failures, `n` before: it begins again with a full connection. -/
def failuresAfter (n : Nat) : Option Bool → Nat
  | some true => 0
  | some false => n + 1
  | none => n

def failuresSinceOnline (ts : List BleMqttTransition) : Nat :=
  ts.foldl (fun n t => failuresAfter n (learned t)) 0

/-- While BLE owns Wi-Fi the main task leaves the association alone, and does not come to its
recovery. -/
structure OwnsExclusively (ts : List BleMqttTransition) : Prop where
  operations : ∀ t ∈ ts, t.before.handoff.bleOwnsWifi = true → t.output = none
  recovery : ∀ t ∈ ts, ActsOn .recoverWifi t → t.before.handoff.bleOwnsWifi = false

/-- Whenever the main task comes to its switch while BLE owns Wi-Fi, fewer lookups and connections
have failed since the last full connection than authorise a recovery. -/
def FewFailures (ts : List BleMqttTransition) : Prop :=
  ∀ earlier t later, ts = earlier ++ t :: later → t.before.handoff.bleOwnsWifi = true →
    (∃ action, ActsOn action t) →
    failuresSinceOnline earlier < connectivityConfig.wifiRecoveryThreshold.toNat

/-- The connectivity is left alone, and Wi-Fi is not given to BLE. -/
structure Leaves (s s' : BleMqttMain) : Prop where
  connectivity : s'.connectivity = s.connectivity
  ownership : s'.handoff.bleOwnsWifi = true → s.handoff.bleOwnsWifi = true

/-- What a step can do, as far as the connectivity and the switch are concerned. -/
inductive BleMqttStep (s : BleMqttMain) :
    BleMqttInput → BleMqttMain × Option WifiOperation → Prop where
  | interrupted (s' : BleMqttMain) (leaves : Leaves s s') (point : s'.point = s.point) :
      BleMqttStep s (.event event atMs) (s', none)
  | approached (s' : BleMqttMain) (leaves : Leaves s s')
      (before : ∀ action, ¬ s.Acting action) (after : ∀ action, ¬ s'.Acting action) :
      BleMqttStep s (.loop readings) (s', none)
  | drained (s' : BleMqttMain)
      (connectivity : s'.connectivity = (s.drainWifiEventSignals now).connectivity)
      (handoff : s'.handoff = s.handoff) (before : ∀ action, ¬ s.Acting action)
      (after : ∀ action, ¬ s'.Acting action) : BleMqttStep s (.loop readings) (s', none)
  | updated (s' : BleMqttMain)
      (connectivity : (s'.connectivity, action) = s.connectivity.update connectivityConfig now
        wifiConnected readings.timeValid readings.transportConnected)
      (handoff : s'.handoff = s.handoff) (before : ∀ action, ¬ s.Acting action)
      (after : s'.point = .act now action) : BleMqttStep s (.loop readings) (s', none)
  | acted (s' : BleMqttMain) (before : s.point = .act now action)
      (connectivity : s'.connectivity = (s.act now action readings).1.connectivity)
      (handoff : s'.handoff = s.handoff) (after : ∀ action, ¬ s'.Acting action) :
      BleMqttStep s (.loop readings) (s', (s.act now action readings).2)

/-- The action the switch is about to carry out belongs to the stage. -/
def Staged (s : BleMqttMain) : Prop :=
  ∀ action, s.Acting action → action.needsReport = true →
    s.connectivity.state.reportedAction = action

/-- How far the failures have brought the recovery. -/
inductive Escalation (n : Nat) (s : BleMqttMain) : Prop where
  | below (below : Below connectivityConfig n s.connectivity) (idle : ¬ s.Acting .recoverWifi)
  | requested (many : connectivityConfig.wifiRecoveryThreshold.toNat ≤ n)
      (requested : s.connectivity.wifiRecoveryRequested = true)
      (elsewhere : ∀ action, ¬ s.Acting action)
  | recovering (many : connectivityConfig.wifiRecoveryThreshold.toNat ≤ n)
      (acting : s.Acting .recoverWifi)

/-- What holds after a run that has come this far. -/
structure Reached (ts : List BleMqttTransition) (s : BleMqttMain) : Prop where
  consistent : s.connectivity.Consistent
  staged : s.Staged
  escalation : s.handoff.bleOwnsWifi = true → OwnsExclusively ts →
    Escalation (failuresSinceOnline ts) s

theorem onSystemEvent_leaves (s : BleMqttMain) (event : SystemEvent) (nowMs : UInt32) :
    Leaves s (s.onSystemEvent event nowMs) := by
  cases event with
  | provEnd => exact ⟨rfl, fun howns => absurd howns Bool.false_ne_true⟩
  | _ => exact ⟨rfl, id⟩

theorem onSystemEvent_point (s : BleMqttMain) (event : SystemEvent) (nowMs : UInt32) :
    (s.onSystemEvent event nowMs).point = s.point := by
  cases event with
  | _ => rfl

theorem updateWindow_leaves (s : BleMqttMain) (now : UInt32) : Leaves s (s.updateWindow now) := by
  rw [updateWindow]
  generalize s.onboardingWindow.update now = result
  obtain ⟨onboardingWindow, event⟩ := result
  cases event with
  | none => exact ⟨rfl, id⟩
  | _ => exact ⟨rfl, fun howns => absurd howns Bool.false_ne_true⟩

theorem checkSession_leaves (s : BleMqttMain) (r : LoopReadings) : Leaves s (s.checkSession r) := by
  rw [checkSession]
  split
  · exact ⟨rfl, id⟩
  · split
    · exact ⟨rfl, id⟩
    · exact ⟨rfl, id⟩

theorem Leaves.goTo {s s' : BleMqttMain} (h : Leaves s s') (point : LoopPoint) :
    Leaves s { s' with point := point } := ⟨h.connectivity, h.ownership⟩

theorem not_acting_of_point {s : BleMqttMain} {p : LoopPoint} (hpoint : s.point = p)
    (h : ∀ now action, p ≠ .act now action) (action : DevSmokeAction) : ¬ s.Acting action := by
  intro hacting
  obtain ⟨now, hacting⟩ := hacting
  exact h now action (hpoint.symm.trans hacting)

theorem drainWifiEventSignals_handoff (s : BleMqttMain) (now : UInt32) :
    (s.drainWifiEventSignals now).handoff = s.handoff := by
  rw [drainWifiEventSignals]
  by_cases hassociated : s.wifiAssociatedEventPending = true
  · rw [if_pos hassociated]
    split
    · rfl
    · rfl
  · rw [if_neg hassociated]
    split
    · rfl
    · rfl

theorem act_handoff (s : BleMqttMain) (now : UInt32) (action : DevSmokeAction)
    (r : LoopReadings) : (s.act now action r).1.handoff = s.handoff := by
  cases action with
  | connectWifi =>
    rw [act]
    split
    · rfl
    · rfl
  | connectMqtt =>
    rw [act, connectMqtt]
    split
    · rfl
    · rfl
  | _ => rfl

theorem step_cases (s : BleMqttMain) (input : BleMqttInput) :
    BleMqttStep s input (s.step input) := by
  have hafter {s' : BleMqttMain} {p : LoopPoint} (h : ∀ now action, p ≠ .act now action) :
      ∀ action, ¬ Acting { s' with point := p } action := not_acting_of_point rfl h
  cases input with
  | event event atMs =>
    exact .interrupted _ (s.onSystemEvent_leaves event _) (s.onSystemEvent_point event _)
  | loop r =>
    rw [step, loop]
    cases hpoint : s.point with
    | top =>
      apply BleMqttStep.approached { s.updateWindow _ with point := .session (ms32 r.atMs) }
      · exact (s.updateWindow_leaves (ms32 r.atMs)).goTo _
      · exact not_acting_of_point hpoint fun _ _ => LoopPoint.noConfusion
      · exact hafter fun _ _ => LoopPoint.noConfusion
    | session now =>
      apply BleMqttStep.approached { s.checkSession r with point := .drain now r.wifiConnected }
      · exact (s.checkSession_leaves r).goTo _
      · exact not_acting_of_point hpoint fun _ _ => LoopPoint.noConfusion
      · exact hafter fun _ _ => LoopPoint.noConfusion
    | drain now wifiConnected =>
      apply BleMqttStep.drained
        { s.drainWifiEventSignals now with point := .update now wifiConnected } rfl
      · exact s.drainWifiEventSignals_handoff now
      · exact not_acting_of_point hpoint fun _ _ => LoopPoint.noConfusion
      · exact hafter fun _ _ => LoopPoint.noConfusion
    | update now wifiConnected =>
      apply BleMqttStep.updated { s with connectivity := _, point := .act now _ } rfl rfl
      · exact not_acting_of_point hpoint fun _ _ => LoopPoint.noConfusion
      · rfl
    | act now action =>
      apply BleMqttStep.acted { (s.act now action r).1 with point := .top } hpoint rfl
      · exact s.act_handoff now action r
      · exact hafter fun _ _ => LoopPoint.noConfusion

theorem wifiRecoveryThreshold_pos : 1 ≤ connectivityConfig.wifiRecoveryThreshold.toNat := by decide

theorem drainWifiEventSignals_keeps {s : BleMqttMain} (h : s.connectivity.Consistent)
    (now : UInt32) : KeepsCount s.connectivity (s.drainWifiEventSignals now).connectivity := by
  obtain ⟨atMs, rfl⟩ := exists_ms32 now
  have hresult {c : DevMqttSmokeState} (hc : c.Consistent) (success : Bool) :
      KeepsCount c (c.wifiAssociationResult connectivityConfig (ms32 atMs) success) :=
    hc.keepsCount_call connectivityConfig ⟨.wifiAssociationResult success, atMs⟩ rfl
      fun _ _ _ => SmokeCall.noConfusion
  rw [drainWifiEventSignals]
  by_cases hassociated : s.wifiAssociatedEventPending = true
  · have hfirst := hresult h true
    rw [if_pos hassociated]
    split
    · exact hfirst.trans (hresult hfirst.consistent false)
    · exact hfirst
  · rw [if_neg hassociated]
    split
    · exact hresult h false
    · exact h.keepsCount

theorem connectMqtt_reports {s : BleMqttMain} (h : s.connectivity.Consistent)
    (hstage : s.connectivity.state.reportedAction = .connectMqtt) (atMs : Nat) (r : LoopReadings) :
    NetworkReport connectivityConfig s.connectivity (ms32 atMs) (r.learns .connectMqtt)
      (s.connectMqtt (ms32 atMs) r).connectivity := by
  have hreport (call : SmokeCall) (hcall : call.reports .connectMqtt = true) :=
    h.networkReport wifiRecoveryThreshold_pos call atMs (hstage.symm ▸ hcall)
  rw [LoopReadings.learns, connectMqtt]
  cases hresolves : r.resolves with
  | false => exact hreport .networkPreflightFailed rfl
  | true =>
    rw [Bool.true_and]
    cases hconnect : r.timeValid && r.connect with
    | true =>
      rw [Bool.true_and]
      exact hreport (.mqttResult r.subscribe) rfl
    | false =>
      rw [Bool.false_and]
      exact hreport (.mqttResult false) rfl

theorem resolveDns_reports {s : BleMqttMain} (h : s.connectivity.Consistent)
    (hstage : s.connectivity.state.reportedAction = .resolveDns) (atMs : Nat) (r : LoopReadings) :
    NetworkReport connectivityConfig s.connectivity (ms32 atMs) (r.learns .resolveDns)
      (s.connectivity.dnsResult connectivityConfig (ms32 atMs) r.resolves) := by
  have hreport (success : Bool) :=
    h.networkReport wifiRecoveryThreshold_pos (.dnsResult success) atMs (hstage.symm ▸ rfl)
  rw [LoopReadings.learns]
  cases r.resolves with
  | true => exact hreport true
  | false => exact hreport false

theorem act_reports {s : BleMqttMain} (h : s.connectivity.Consistent) (now : UInt32)
    (hstage : action.needsReport = true → s.connectivity.state.reportedAction = action)
    (r : LoopReadings) : NetworkReport connectivityConfig s.connectivity now (r.learns action)
      (s.act now action r).1.connectivity := by
  obtain ⟨atMs, rfl⟩ := exists_ms32 now
  cases action with
  | connectWifi =>
    rw [act]
    split
    · exact .nothing h.keepsCount
    · exact .nothing (h.keepsCount_call connectivityConfig ⟨.wifiAssociationStarted, r.atMs⟩ rfl
        fun _ _ _ => SmokeCall.noConfusion)
  | resolveDns => exact resolveDns_reports h (hstage rfl) atMs r
  | connectMqtt => exact connectMqtt_reports h (hstage rfl) atMs r
  | _ => exact .nothing h.keepsCount

theorem learned_elsewhere {t : BleMqttTransition} (h : ∀ action, ¬ t.before.Acting action) :
    learned t = none := by
  rw [learned]
  cases hpoint : t.before.point with
  | act now action => exact absurd ⟨now, hpoint⟩ (h action)
  | _ => rfl

theorem learned_event {t : BleMqttTransition} (h : t.input = .event event atMs) :
    learned t = none := by
  rw [learned, h]
  cases t.before.point with
  | _ => rfl

theorem learned_acted {t : BleMqttTransition} (hpoint : t.before.point = .act now action)
    (h : t.input = .loop readings) : learned t = readings.learns action := by
  rw [learned, h, hpoint]

theorem failuresSinceOnline_concat (ts : List BleMqttTransition) (t : BleMqttTransition) :
    failuresSinceOnline (ts ++ [t]) = failuresAfter (failuresSinceOnline ts) (learned t) := by
  rw [failuresSinceOnline, List.foldl_append]
  rfl

theorem failuresSinceOnline_quiet {t : BleMqttTransition} (ts : List BleMqttTransition)
    (h : learned t = none) : failuresSinceOnline (ts ++ [t]) = failuresSinceOnline ts := by
  rw [failuresSinceOnline_concat, h]
  rfl

theorem ownsExclusively_concat {t : BleMqttTransition} : OwnsExclusively (ts ++ [t]) ↔
    OwnsExclusively ts ∧ (t.before.handoff.bleOwnsWifi = true → t.output = none) ∧
      (ActsOn .recoverWifi t → t.before.handoff.bleOwnsWifi = false) := by
  constructor
  · intro h
    have hoperations := h.operations
    have hrecovery := h.recovery
    rw [List.forall_mem_append, List.forall_mem_singleton] at hoperations hrecovery
    exact ⟨⟨hoperations.1, hrecovery.1⟩, hoperations.2, hrecovery.2⟩
  · intro h
    obtain ⟨h, hoperation, hrecovery⟩ := h
    constructor
    · rw [List.forall_mem_append, List.forall_mem_singleton]
      exact ⟨h.operations, hoperation⟩
    · rw [List.forall_mem_append, List.forall_mem_singleton]
      exact ⟨h.recovery, hrecovery⟩

theorem Escalation.interrupted {s s' : BleMqttMain} (h : Escalation n s)
    (hconnectivity : s'.connectivity = s.connectivity) (hpoint : s'.point = s.point) :
    Escalation n s' := by
  have hacting (action : DevSmokeAction) : s'.Acting action ↔ s.Acting action := by
    rw [Acting, hpoint]
    rfl
  cases h with
  | below below idle =>
    rw [← hconnectivity] at below
    exact .below below fun hrecovers => idle ((hacting _).mp hrecovers)
  | requested many requested elsewhere =>
    rw [← hconnectivity] at requested
    exact .requested many requested fun action hacts => elsewhere action ((hacting _).mp hacts)
  | recovering many acting => exact .recovering many ((hacting _).mpr acting)

theorem Escalation.moved {s s' : BleMqttMain} (h : Escalation n s)
    (hkeeps : KeepsCount s.connectivity s'.connectivity) (hbefore : ∀ action, ¬ s.Acting action)
    (hafter : ∀ action, ¬ s'.Acting action) : Escalation n s' := by
  cases h with
  | below below =>
    exact .below (below.same hkeeps.kept (hkeeps.requested.trans below.requested)) (hafter _)
  | requested many requested => exact .requested many (hkeeps.requested.trans requested) hafter
  | recovering _ acting => exact absurd acting (hbefore _)

theorem Escalation.updated {s s' : BleMqttMain} (h : Escalation n s)
    (hstep : UpdateStep connectivityConfig s.connectivity now wifiConnected timeValid mqttConnected
      (s'.connectivity, action))
    (hbefore : ∀ action, ¬ s.Acting action) (hafter : s'.point = .act now action) :
    Escalation n s' := by
  obtain ⟨hrecovers, hkept, hrequested⟩ := hstep.ladder
  cases h with
  | below below =>
    apply Escalation.below (below.same hkept hrequested)
    intro hacting
    obtain ⟨now', hacting⟩ := hacting
    rw [hafter, LoopPoint.act.injEq] at hacting
    rw [below.requested] at hrecovers
    exact Bool.false_ne_true (hrecovers.mp hacting.2)
  | requested many requested =>
    have haction : action = .recoverWifi := hrecovers.mpr requested
    exact .recovering many ⟨now, haction ▸ hafter⟩
  | recovering _ acting => exact absurd acting (hbefore _)

theorem Escalation.acted {s s' : BleMqttMain} (h : Escalation n s) (hacting : s.Acting action)
    (haction : action ≠ .recoverWifi)
    (hreport : NetworkReport connectivityConfig s.connectivity now outcome s'.connectivity)
    (hafter : ∀ action, ¬ s'.Acting action) : Escalation (failuresAfter n outcome) s' := by
  cases h with
  | below below =>
    cases hreport with
    | nothing keeps =>
      exact .below (below.same keeps.kept (keeps.requested.trans below.requested)) (hafter _)
    | failure _ counts =>
      rcases below.failed counts with hbelow | ⟨hmany, hrequested⟩
      · exact .below hbelow (hafter _)
      · exact .requested hmany hrequested hafter
    | online _ below => exact .below below (hafter _)
  | requested _ _ elsewhere => exact absurd hacting (elsewhere _)
  | recovering _ acting =>
    obtain ⟨_, hpoint⟩ := hacting
    obtain ⟨_, hpoint'⟩ := acting
    rw [hpoint, LoopPoint.act.injEq] at hpoint'
    exact absurd hpoint'.2 haction

theorem staged_elsewhere {s : BleMqttMain} (h : ∀ action, ¬ s.Acting action) : s.Staged :=
  fun action hacting => absurd hacting (h action)

theorem Reached.escalated {s' : BleMqttMain} (h : Reached ts s)
    (hexclusive : OwnsExclusively (ts ++ [t]))
    (hownership : s'.handoff.bleOwnsWifi = true → s.handoff.bleOwnsWifi = true)
    (howns : s'.handoff.bleOwnsWifi = true) : Escalation (failuresSinceOnline ts) s :=
  h.escalation (hownership howns) (ownsExclusively_concat.mp hexclusive).1

theorem Reached.interrupted {s' : BleMqttMain} (h : Reached ts s) (hleaves : Leaves s s')
    (hpoint : s'.point = s.point) : Reached (ts ++ [⟨s, .event event atMs, none, s'⟩]) s' := by
  constructor
  · exact hleaves.connectivity ▸ h.consistent
  · intro action hacting
    obtain ⟨now, hacting⟩ := hacting
    rw [hleaves.connectivity]
    exact h.staged action ⟨now, hpoint.symm.trans hacting⟩
  · intro howns hexclusive
    have hescalation := h.escalated hexclusive hleaves.ownership howns
    rw [failuresSinceOnline_quiet ts (learned_event rfl)]
    exact hescalation.interrupted hleaves.connectivity hpoint

theorem Reached.moved {s' : BleMqttMain} (h : Reached ts s)
    (hkeeps : KeepsCount s.connectivity s'.connectivity)
    (hownership : s'.handoff.bleOwnsWifi = true → s.handoff.bleOwnsWifi = true)
    (hbefore : ∀ action, ¬ s.Acting action) (hafter : ∀ action, ¬ s'.Acting action) :
    Reached (ts ++ [⟨s, .loop readings, none, s'⟩]) s' := by
  constructor
  · exact hkeeps.consistent
  · exact staged_elsewhere hafter
  · intro howns hexclusive
    have hescalation := h.escalated hexclusive hownership howns
    rw [failuresSinceOnline_quiet ts (learned_elsewhere hbefore)]
    exact hescalation.moved hkeeps hbefore hafter

theorem Reached.updated {s' : BleMqttMain} (h : Reached ts s)
    (hconsistent : s'.connectivity.Consistent)
    (hstep : UpdateStep connectivityConfig s.connectivity now wifiConnected timeValid mqttConnected
      (s'.connectivity, action))
    (hownership : s'.handoff.bleOwnsWifi = true → s.handoff.bleOwnsWifi = true)
    (hbefore : ∀ action, ¬ s.Acting action) (hafter : s'.point = .act now action) :
    Reached (ts ++ [⟨s, .loop readings, none, s'⟩]) s' := by
  constructor
  · exact hconsistent
  · intro action' hacting hneeds
    obtain ⟨now', hacting⟩ := hacting
    rw [hafter, LoopPoint.act.injEq] at hacting
    obtain ⟨rfl, rfl⟩ := hacting
    exact hstep.reportedAction hneeds
  · intro howns hexclusive
    have hescalation := h.escalated hexclusive hownership howns
    rw [failuresSinceOnline_quiet ts (learned_elsewhere hbefore)]
    exact hescalation.updated hstep hbefore hafter

theorem Reached.acted {s' : BleMqttMain} (h : Reached ts s) (hbefore : s.point = .act now action)
    (hreport : NetworkReport connectivityConfig s.connectivity now (readings.learns action)
      s'.connectivity)
    (hownership : s'.handoff.bleOwnsWifi = true → s.handoff.bleOwnsWifi = true)
    (hafter : ∀ action, ¬ s'.Acting action) :
    Reached (ts ++ [⟨s, .loop readings, output, s'⟩]) s' := by
  constructor
  · exact hreport.consistent
  · exact staged_elsewhere hafter
  · intro howns hexclusive
    have hescalation := h.escalated hexclusive hownership howns
    have hrecovery := (ownsExclusively_concat.mp hexclusive).2.2
    rw [failuresSinceOnline_concat, learned_acted hbefore rfl]
    apply hescalation.acted ⟨now, hbefore⟩ _ hreport hafter
    -- carrying out the recovery here is what the run so far is said not to do
    intro haction
    rw [haction] at hbefore
    have hreleased := hrecovery ⟨⟨now, hbefore⟩, readings, rfl⟩
    cases hreleased.symm.trans (hownership howns)

theorem Reached.next (h : Reached ts s) (input : BleMqttInput) :
    Reached (ts ++ [.of step s input]) (s.step input).1 := by
  have hownership {s' : BleMqttMain} (hhandoff : s'.handoff = s.handoff) :
      s'.handoff.bleOwnsWifi = true → s.handoff.bleOwnsWifi = true := by
    rw [hhandoff]
    exact id
  have hstep := s.step_cases input
  rw [Transition.of]
  generalize s.step input = result at hstep ⊢
  cases hstep with
  | interrupted s' leaves point => exact h.interrupted leaves point
  | approached s' leaves before after =>
    have hkeeps : KeepsCount s.connectivity s'.connectivity :=
      leaves.connectivity ▸ h.consistent.keepsCount
    exact h.moved hkeeps leaves.ownership before after
  | @drained now _ s' connectivity handoff before after =>
    have hkeeps : KeepsCount s.connectivity s'.connectivity :=
      connectivity ▸ drainWifiEventSignals_keeps h.consistent now
    exact h.moved hkeeps (hownership handoff) before after
  | @updated action now wifiConnected readings s' connectivity handoff before after =>
    obtain ⟨hnext, hupdate⟩ := h.consistent.updates now wifiConnected readings.timeValid
      readings.transportConnected
    rw [← connectivity] at hnext hupdate
    exact h.updated hnext hupdate (hownership handoff) before after
  | @acted now action readings s' before connectivity handoff after =>
    have hreport := act_reports h.consistent now (h.staged action ⟨now, before⟩) readings
    rw [← connectivity] at hreport
    exact h.acted before hreport (hownership handoff) after

theorem setup_connectivity (deviceId pop : Bytes) (nowMs : UInt32) :
    (setup deviceId pop nowMs).connectivity = .constructed connectivityConfig ∧
      (setup deviceId pop nowMs).point = .top := by
  rw [setup]
  split
  · exact ⟨rfl, rfl⟩
  · exact ⟨rfl, rfl⟩

theorem reached_setup (deviceId pop : Bytes) (nowMs : UInt32) :
    Reached [] (setup deviceId pop nowMs) := by
  obtain ⟨hconnectivity, hpoint⟩ := setup_connectivity deviceId pop nowMs
  have helsewhere := not_acting_of_point hpoint fun _ _ => LoopPoint.noConfusion
  constructor
  · rw [hconnectivity]
    exact consistent_run connectivityConfig []
  · exact staged_elsewhere helsewhere
  · intro _ _
    apply Escalation.below _ (helsewhere _)
    rw [hconnectivity]
    exact ⟨rfl, wifiRecoveryThreshold_pos, rfl, rfl⟩

theorem fewFailures_concat {t : BleMqttTransition} : FewFailures (ts ++ [t]) ↔
    FewFailures ts ∧ (t.before.handoff.bleOwnsWifi = true → (∃ action, ActsOn action t) →
      failuresSinceOnline ts < connectivityConfig.wifiRecoveryThreshold.toNat) := by
  constructor
  · intro h
    refine ⟨?_, h ts t [] rfl⟩
    intro earlier u later hts
    apply h earlier u (later ++ [t])
    rw [hts, List.append_assoc]
    rfl
  · intro h earlier u later hts
    obtain ⟨h, hlast⟩ := h
    rcases concat_eq_append_cons hts with ⟨rfl, rfl, rfl⟩ | ⟨later, rfl, rfl⟩
    · exact hlast
    · exact h earlier u later rfl

/-- Of the actions only the recovery is not gated. -/
theorem act_operation {s : BleMqttMain} (howns : s.handoff.bleOwnsWifi = true)
    (haction : action ≠ .recoverWifi) (now : UInt32) (r : LoopReadings) :
    (s.act now action r).2 = none := by
  cases action with
  | connectWifi =>
    have hgated : s.handoff.shouldHandleConnectWifiAction = false := by
      rw [BleMqttHandoffGate.shouldHandleConnectWifiAction, howns]
      rfl
    rw [act, hgated]
    rfl
  | recoverWifi => exact absurd rfl haction
  | _ => rfl

theorem step_operation {s : BleMqttMain} (howns : s.handoff.bleOwnsWifi = true)
    (input : BleMqttInput) (h : ¬ ActsOn .recoverWifi (.of step s input)) :
    (s.step input).2 = none := by
  rw [ActsOn, Transition.of] at h
  dsimp only at h
  have hstep := s.step_cases input
  generalize s.step input = result at hstep
  cases hstep with
  | @acted now action readings _ before =>
    apply act_operation howns
    intro haction
    rw [haction] at before
    exact h ⟨⟨now, before⟩, readings, rfl⟩
  | _ => rfl

theorem released_of_begin {s : BleMqttMain} (h : (s.step input).2 = some .begin) :
    s.handoff.bleOwnsWifi = false := by
  rw [← Bool.not_eq_true]
  intro howns
  have hstep := s.step_cases input
  generalize s.step input = result at hstep h
  cases hstep with
  | @acted now action readings =>
    by_cases haction : action = .recoverWifi
    · subst haction
      cases h
    · cases (act_operation howns haction now readings).symm.trans h
  | _ => cases h

theorem begin_run (deviceId pop : Bytes) (bootMs : Nat) (inputs : List BleMqttInput) :
    ∀ t ∈ run deviceId pop bootMs inputs, t.output = some .begin →
      t.before.handoff.bleOwnsWifi = false := by
  intro t ht hbegin
  obtain ⟨is₁, input, is₂, _, rfl⟩ := exists_of_mem_transitions ht
  exact released_of_begin hbegin

/-- Before its switch, the count tells whether the main task has come to its recovery. -/
theorem Escalation.few_iff {s : BleMqttMain} (h : Escalation n s) (hacting : s.Acting action) :
    n < connectivityConfig.wifiRecoveryThreshold.toNat ↔ ¬ s.Acting .recoverWifi := by
  cases h with
  | below below idle => exact iff_of_true below.few idle
  | requested _ _ elsewhere => exact absurd hacting (elsewhere action)
  | recovering many acting => exact iff_of_false (Nat.not_lt.mpr many) (not_not_intro acting)

theorem Reached.exclusive_iff (h : Reached ts s) (hexclusive : OwnsExclusively ts)
    (input : BleMqttInput) :
    (s.handoff.bleOwnsWifi = true → (s.step input).2 = none) ∧
        (ActsOn .recoverWifi (.of step s input) → s.handoff.bleOwnsWifi = false) ↔
      (s.handoff.bleOwnsWifi = true → (∃ action, ActsOn action (.of step s input)) →
        failuresSinceOnline ts < connectivityConfig.wifiRecoveryThreshold.toNat) := by
  constructor
  · intro hstep howns hacts
    obtain ⟨action, hacting, hloop⟩ := hacts
    rw [(h.escalation howns hexclusive).few_iff hacting]
    intro hrecovers
    cases (hstep.2 ⟨hrecovers, hloop⟩).symm.trans howns
  · intro hfew
    have hrecovery : ActsOn .recoverWifi (.of step s input) → s.handoff.bleOwnsWifi = false := by
      intro hacts
      rw [← Bool.not_eq_true]
      intro howns
      have hlt := hfew howns ⟨.recoverWifi, hacts⟩
      exact ((h.escalation howns hexclusive).few_iff hacts.1).mp hlt hacts.1
    refine ⟨?_, hrecovery⟩
    intro howns
    apply step_operation howns
    intro hacts
    cases (hrecovery hacts).symm.trans howns

/-- BLE owns Wi-Fi exclusively in just the runs in which no recovery is authorised before the
hand-off. -/
theorem ownsExclusively_iff_fewFailures (deviceId pop : Bytes) (bootMs : Nat)
    (inputs : List BleMqttInput) :
    OwnsExclusively (run deviceId pop bootMs inputs) ↔
      FewFailures (run deviceId pop bootMs inputs) := by
  have hrun : Reached (run deviceId pop bootMs inputs)
      (finalState step (setup deviceId pop (ms32 bootMs)) inputs) ∧
      (OwnsExclusively (run deviceId pop bootMs inputs) ↔
        FewFailures (run deviceId pop bootMs inputs)) := by
    apply run_induction (motive := fun ts s => Reached ts s ∧
      (OwnsExclusively ts ↔ FewFailures ts))
    · refine ⟨reached_setup deviceId pop (ms32 bootMs), iff_of_true ?_ ?_⟩
      · exact ⟨List.forall_mem_nil _, List.forall_mem_nil _⟩
      · intro earlier t later hnil
        exact absurd hnil.symm (List.append_ne_nil_of_right_ne_nil _ (List.cons_ne_nil t later))
    · intro ts s input ih
      obtain ⟨hreached, ih⟩ := ih
      refine ⟨hreached.next input, ?_⟩
      rw [ownsExclusively_concat, fewFailures_concat, ← ih]
      exact and_congr_right fun hexclusive => hreached.exclusive_iff hexclusive input
  exact hrun.2

/-- Once round `loop`, with the same readings at all of its points. -/
def iteration (readings : LoopReadings) : List BleMqttInput := List.replicate 5 (.loop readings)

/-- The credentials bring Wi-Fi up, but no name can be looked up behind it, and the manager has not
ended the provisioning yet. -/
def lookupsFailing : List BleMqttInput :=
  .event .provInit 1010 :: .event .provStart 1500 :: iteration { atMs := 1510 } ++
    .event .provCredRecv 20000 :: .event .provCredSuccess 22000 :: .event .wifiStaGotIp 22000 ::
    iteration { atMs := 22010, wifiConnected := true, hasValidLocalIp := true } ++
    iteration { atMs := 23010, wifiConnected := true, hasValidLocalIp := true } ++
    iteration { atMs := 25010, wifiConnected := true, hasValidLocalIp := true } ++
    iteration { atMs := 25020, wifiConnected := true, hasValidLocalIp := true }

theorem lookupsFailing_not_ownsExclusively :
    ¬ OwnsExclusively (run (ascii "ib-a91c") (ascii "pop") 1000 lookupsFailing) := by
  intro h
  have hdisconnects : ∃ t ∈ run (ascii "ib-a91c") (ascii "pop") 1000 lookupsFailing,
      t.before.handoff.bleOwnsWifi = true ∧ t.output = some (.disconnect false false) := by decide
  obtain ⟨t, ht, howns, hdisconnects⟩ := hdisconnects
  cases (h.operations t ht howns).symm.trans hdisconnects

end BleMqttMain
end InterBridge
