import InterBridge.Dev.SmokeBackoff
import InterBridge.Foundations.DoublingLadder

namespace InterBridge
open Foundations
set_option autoImplicit true

theorem DevSmokeConfig.toNat_grownDelay {c : DevSmokeConfig} (h : delayMs ≤ c.maxRetryMs) :
    (c.grownDelay delayMs).toNat = min c.maxRetryMs.toNat (delayMs.toNat * 2) := by
  have hmax := c.maxRetryMs.toNat_lt
  have htwo : (2 : UInt32).toNat = 2 := rfl
  rw [UInt32.le_iff_toNat_le] at h
  rw [grownDelay, UInt32.toNat_min]
  split
  next habove =>
    rw [UInt32.lt_iff_toNat_lt, UInt32.toNat_div, htwo] at habove
    omega
  next hbelow =>
    rw [UInt32.lt_iff_toNat_lt, UInt32.toNat_div, htwo] at hbelow
    rw [UInt32.toNat_mul, htwo]
    omega

namespace DevMqttSmokeState

/-- The call has the stage's action retried later: by the branch that configures the time, or by
the report that its result is a failure. -/
def SchedulesRetry (u : SmokeTransition) : Prop :=
  u.output = .configureTime ∨
    (u.input.call = .dnsResult false ∨ u.input.call = .mqttResult false) ∧
      u.before.Accepts u.input.call

def ChangesStage (u : SmokeTransition) : Prop := u.after.state ≠ u.before.state

instance : DecidablePred SchedulesRetry := fun _ => inferInstanceAs (Decidable (_ ∨ _ ∧ _))

instance : DecidablePred ChangesStage := fun _ => inferInstanceAs (Decidable (_ ≠ _))

/-- How often the action of the current stage was scheduled again since the stage was entered. -/
def stageSchedulings (ts : List SmokeTransition) : Nat :=
  ts.foldl (fun n u => if ChangesStage u then 0 else if SchedulesRetry u then n + 1 else n) 0

/-- How often the Wi-Fi retry was scheduled since the last full connection. -/
def wifiSchedulings (ts : List SmokeTransition) : Nat :=
  ts.foldl (fun n u => if ReportsOnline u then 0
    else n + (u.after.wifiRetriesScheduled - u.before.wifiRetriesScheduled)) 0

/-- Both delays have climbed as often as their retry was scheduled, and each is brought down by its
own reset only. -/
structure RetryLadders (c : DevSmokeConfig) (ts : List SmokeTransition) (s : DevMqttSmokeState) :
    Prop where
  stageRange : c.initialRetryMs ≤ s.retryDelayMs ∧ s.retryDelayMs ≤ c.maxRetryMs
  wifiRange : c.initialRetryMs ≤ s.wifiRetryDelayMs ∧ s.wifiRetryDelayMs ≤ c.maxRetryMs
  stageRung : s.retryDelayMs.toNat =
    min c.maxRetryMs.toNat (c.initialRetryMs.toNat * 2 ^ stageSchedulings ts)
  wifiRung : s.wifiRetryDelayMs.toNat =
    min c.maxRetryMs.toNat (c.initialRetryMs.toNat * 2 ^ wifiSchedulings ts)
  wifiGrows : ∀ u ∈ ts, ¬ ReportsOnline u → u.before.wifiRetryDelayMs ≤ u.after.wifiRetryDelayMs
  wifiReset : ∀ u ∈ ts, ReportsOnline u → u.after.wifiRetryDelayMs = c.initialRetryMs
  stageReset : ∀ u ∈ ts, ChangesStage u → u.after.retryDelayMs = c.initialRetryMs ∧
    (¬ ReportsOnline u → u.after.wifiRetryDelayMs = u.before.wifiRetryDelayMs)

/-- What a call can do to the delay of the stage. -/
inductive StageLadderStep (c : DevSmokeConfig) (u : SmokeTransition) : Prop where
  | entered (changes : ChangesStage u) (delay : u.after.retryDelayMs = c.initialRetryMs)
      (wifi : ¬ ReportsOnline u → u.after.wifiRetryDelayMs = u.before.wifiRetryDelayMs)
  | scheduled (stays : ¬ ChangesStage u) (schedules : SchedulesRetry u)
      (deadline : u.after.retryAtMs = ms32 u.input.atMs + u.before.retryDelayMs)
      (delay : u.after.retryDelayMs = c.grownDelay u.before.retryDelayMs)
  | kept (stays : ¬ ChangesStage u) (schedules : ¬ SchedulesRetry u)
      (deadline : u.after.retryAtMs = u.before.retryAtMs)
      (delay : u.after.retryDelayMs = u.before.retryDelayMs)

theorem StageLadderStep.unscheduled {u : SmokeTransition} (hstays : u.after.state = u.before.state)
    (haction : u.output ≠ .configureTime)
    (hreport : u.input.call ≠ .dnsResult false ∧ u.input.call ≠ .mqttResult false)
    (hdeadline : u.after.retryAtMs = u.before.retryAtMs)
    (hdelay : u.after.retryDelayMs = u.before.retryDelayMs) : StageLadderStep c u := by
  apply StageLadderStep.kept
  · exact not_not.mpr hstays
  · intro hschedules
    rcases hschedules with hconfigures | ⟨hreports, _⟩
    · exact haction hconfigures
    · exact hreports.elim hreport.1 hreport.2
  · exact hdeadline
  · exact hdelay

theorem StageLadderStep.failed {s : DevMqttSmokeState} {input : SmokeInput}
    (hreport : input.call = .dnsResult false ∨ input.call = .mqttResult false)
    (haccepts : s.Accepts input.call) :
    StageLadderStep c ⟨s, input, .none,
      (s.scheduleRetry c (ms32 input.atMs)).recordConnectivityFailure c (ms32 input.atMs)⟩ := by
  obtain ⟨_, _, _, _, hkept⟩ :=
    (s.scheduleRetry c (ms32 input.atMs)).recordConnectivityFailure_kept c (ms32 input.atMs)
  rw [hkept]
  exact .scheduled (not_not.mpr rfl) (.inr ⟨hreport, haccepts⟩) rfl rfl

/-- While no outcome of an attempt is awaited, the Wi-Fi retry is not scheduled. -/
theorem WifiStep.unawaited {l : DevMqttSmokeState} (h : WifiStep c l nowMs result)
    (hattempt : l.wifiAttemptInFlight = false) (hconfirm : l.wifiConfirmPending = false) :
    result.1.wifiRetryDelayMs = l.wifiRetryDelayMs := by
  have hreleased (l' : DevMqttSmokeState) (hl' : Released c l nowMs l') : l' = l := by
    cases hl' with
    | free => rfl
    | attemptExpired hflying => exact absurd (hattempt.symm.trans hflying) Bool.false_ne_true
    | confirmExpired _ hpending => exact absurd (hconfirm.symm.trans hpending) Bool.false_ne_true
  cases h with
  | attempting => rfl
  | confirming => rfl
  | waiting l' hl' => rw [hreleased l' hl']
  | connecting l' hl' =>
    rw [hreleased l' hl']
    rfl

theorem WifiStep.stageLadder {s : DevMqttSmokeState} {input : SmokeInput}
    (hcall : input.Samples false)
    (h : WifiStep c (s.noticeLoss c (ms32 input.atMs)) (ms32 input.atMs) result) :
    StageLadderStep c ⟨s, input, result.2, result.1⟩ := by
  have hwifi := h.unawaited
  have haction : result.2 ≠ .configureTime :=
    h.action_ne DevSmokeAction.noConfusion DevSmokeAction.noConfusion
  obtain ⟨_, _, _, _, _, _, hframe⟩ := h.frame
  rcases s.noticeLoss_cases c (ms32 input.atMs) with ⟨_, hloss⟩ | ⟨hstage, hloss⟩
  · rw [hloss] at hframe
    obtain ⟨_, _, hupdate⟩ := hcall
    apply StageLadderStep.unscheduled
    · rw [hframe]
    · exact haction
    · rw [hupdate]
      exact ⟨SmokeCall.noConfusion, SmokeCall.noConfusion⟩
    · rw [hframe]
    · rw [hframe]
  · rw [hloss] at hframe hwifi
    apply StageLadderStep.entered
    · rw [ChangesStage, hframe]
      exact hstage.symm
    · rw [hframe]
      rfl
    · exact fun _ => hwifi rfl rfl

theorem NetworkStep.stageLadder {s : DevMqttSmokeState} {input : SmokeInput}
    (hcall : input.Samples true)
    (h : NetworkStep c s (ms32 input.atMs) timeValid mqttConnected result) :
    StageLadderStep c ⟨s, input, result.2, result.1⟩ := by
  obtain ⟨_, _, hupdate⟩ := hcall
  have hreport : input.call ≠ .dnsResult false ∧ input.call ≠ .mqttResult false := by
    rw [hupdate]
    exact ⟨SmokeCall.noConfusion, SmokeCall.noConfusion⟩
  have hchanges {stage stage' : DevSmokeState} (hstage : s.state = stage) (hne : stage' ≠ stage) :
      stage' ≠ s.state := by
    rw [hstage]
    exact hne
  cases h with
  | resolving hstage =>
    exact .entered (hchanges hstage DevSmokeState.noConfusion) rfl (fun _ => rfl)
  | retryingDns => exact .unscheduled rfl DevSmokeAction.noConfusion hreport rfl rfl
  | waitingForDns => exact .unscheduled rfl DevSmokeAction.noConfusion hreport rfl rfl
  | synchronizing => exact .unscheduled rfl DevSmokeAction.noConfusion hreport rfl rfl
  | waitingForTime => exact .unscheduled rfl DevSmokeAction.noConfusion hreport rfl rfl
  | configuringTime => exact .scheduled (not_not.mpr rfl) (.inl rfl) rfl rfl
  | losingTime hstage =>
    exact .entered (hchanges hstage DevSmokeState.noConfusion) rfl (fun _ => rfl)
  | connected s' hs' =>
    cases hs' with
    | entered hstage =>
      exact .entered (hchanges hstage DevSmokeState.noConfusion) rfl (fun _ => rfl)
    | stayed hstage =>
      exact .entered (hchanges hstage DevSmokeState.noConfusion) rfl (fun _ => rfl)
  | connectingMqtt s' hs' =>
    cases hs' with
    | entered hstage =>
      exact .entered (hchanges hstage DevSmokeState.noConfusion) rfl (fun _ => rfl)
    | stayed => exact .unscheduled rfl DevSmokeAction.noConfusion hreport rfl rfl
  | waitingForMqtt => exact .unscheduled rfl DevSmokeAction.noConfusion hreport rfl rfl
  | online => exact .unscheduled rfl DevSmokeAction.noConfusion hreport rfl rfl
  | losingMqtt hstage =>
    refine .entered (hchanges hstage ?_) rfl (fun _ => rfl)
    cases timeValid with
    | true => exact DevSmokeState.noConfusion
    | false => exact DevSmokeState.noConfusion

theorem ReportStep.stageLadder {s : DevMqttSmokeState} (h : ReportStep c s input result) :
    StageLadderStep c ⟨s, input, result.2, result.1⟩ := by
  cases h with
  | resolved hstage =>
    refine .entered ?_ rfl (fun _ => rfl)
    change DevSmokeState.waitingForTime ≠ s.state
    rw [hstage]
    exact DevSmokeState.noConfusion
  | unresolved hstage => exact .failed (.inl rfl) hstage
  | preflightFailed hstage =>
    obtain ⟨_, _, _, _, hkept⟩ := (s.enter c .waitingForDns _).recordConnectivityFailure_kept c _
    rw [hkept]
    refine .entered ?_ rfl (fun _ => rfl)
    change DevSmokeState.waitingForDns ≠ s.state
    rw [hstage]
    exact DevSmokeState.noConfusion
  | mqttUp hstage =>
    refine .entered ?_ rfl ?_
    · change DevSmokeState.online ≠ s.state
      rw [hstage]
      exact DevSmokeState.noConfusion
    · intro honline
      exact absurd ⟨rfl, hstage⟩ honline
  | mqttDown hstage => exact .failed (.inr rfl) hstage

theorem Consistent.stageLadder {s : DevMqttSmokeState} (h : s.Consistent) (c : DevSmokeConfig)
    (input : SmokeInput) : StageLadderStep c (.of (step c) s input) := by
  rw [Transition.of]
  have hstep := h.smokeStep c input
  generalize s.step c input = result at hstep ⊢
  cases hstep with
  | updated _ hstep =>
    cases hstep with
    | recovering hrequested =>
      exact .entered (h.requested hrequested).symm rfl (fun _ => rfl)
    | awaiting =>
      exact .unscheduled rfl DevSmokeAction.noConfusion
        ⟨SmokeCall.noConfusion, SmokeCall.noConfusion⟩ rfl rfl
    | offline _ _ hdown hstep =>
      subst hdown
      exact hstep.stageLadder ⟨_, _, rfl⟩
    | online _ _ _ hup hstep =>
      subst hup
      exact hstep.stageLadder ⟨_, _, rfl⟩
  | ignored hrefuses =>
    apply StageLadderStep.kept
    · exact not_not.mpr rfl
    · intro hschedules
      rcases hschedules with hconfigures | ⟨_, haccepts⟩
      · cases hconfigures
      · exact hrefuses haccepts
    · rfl
    · rfl
  | started =>
    exact .unscheduled rfl DevSmokeAction.noConfusion
      ⟨SmokeCall.noConfusion, SmokeCall.noConfusion⟩ rfl rfl
  | associated =>
    exact .unscheduled rfl DevSmokeAction.noConfusion
      ⟨SmokeCall.noConfusion, SmokeCall.noConfusion⟩ rfl rfl
  | refused =>
    exact .unscheduled rfl DevSmokeAction.noConfusion
      ⟨SmokeCall.noConfusion, SmokeCall.noConfusion⟩ rfl rfl
  | reported _ hstep => exact hstep.stageLadder

theorem ReportsOnline.resets {s : DevMqttSmokeState}
    (h : ReportsOnline (.of (step c) s input)) :
    (s.step c input).1.wifiRetryDelayMs = c.initialRetryMs := by
  obtain ⟨hcall, haccepts⟩ := h
  obtain ⟨call, atMs⟩ := input
  change call = _ at hcall
  subst hcall
  have hstage : s.state = .waitingForMqtt := haccepts
  rw [step]
  dsimp only
  rw [mqttResult, if_neg (not_not.mpr hstage), if_pos rfl]

/-- The stage's delay stands on the rung it has climbed to. -/
theorem StageLadderStep.climbs {u : SmokeTransition} (h : StageLadderStep c u)
    (hrange : c.initialRetryMs ≤ c.maxRetryMs)
    (hrung : u.before.retryDelayMs.toNat =
      rung c.initialRetryMs.toNat c.maxRetryMs.toNat (stageSchedulings ts)) :
    u.after.retryDelayMs.toNat =
      rung c.initialRetryMs.toNat c.maxRetryMs.toNat (stageSchedulings (ts ++ [u])) := by
  rw [stageSchedulings, List.foldl_append, List.foldl_cons, List.foldl_nil, ← stageSchedulings]
  cases h with
  | entered hchanges hdelay =>
    rw [if_pos hchanges, hdelay, rung_zero (UInt32.le_iff_toNat_le.mp hrange)]
  | scheduled hstays hschedules _ hdelay =>
    have hcap : u.before.retryDelayMs ≤ c.maxRetryMs := by
      rw [UInt32.le_iff_toNat_le, hrung]
      exact rung_le_cap _ _ _
    rw [if_neg hstays, if_pos hschedules, hdelay, DevSmokeConfig.toNat_grownDelay hcap, hrung,
      rung_succ]
  | kept hstays hschedules _ hdelay => rw [if_neg hstays, if_neg hschedules, hdelay, hrung]

/-- So does the Wi-Fi delay, which moves up only unless it is brought back to its floor. -/
theorem Consistent.wifiClimbs {s : DevMqttSmokeState} (h : s.Consistent)
    (hrange : c.initialRetryMs ≤ c.maxRetryMs)
    (hrung : s.wifiRetryDelayMs.toNat =
      rung c.initialRetryMs.toNat c.maxRetryMs.toNat (wifiSchedulings ts)) (input : SmokeInput) :
    (s.step c input).1.wifiRetryDelayMs.toNat = rung c.initialRetryMs.toNat c.maxRetryMs.toNat
        (wifiSchedulings (ts ++ [.of (step c) s input])) ∧
      (¬ ReportsOnline (.of (step c) s input) →
        s.wifiRetryDelayMs ≤ (s.step c input).1.wifiRetryDelayMs) := by
  rw [wifiSchedulings, List.foldl_append, List.foldl_cons, List.foldl_nil, ← wifiSchedulings]
  by_cases honline : ReportsOnline (.of (step c) s input)
  · rw [if_pos honline, honline.resets, rung_zero (UInt32.le_iff_toNat_le.mp hrange)]
    exact ⟨rfl, fun hother => absurd honline hother⟩
  · obtain ⟨n, _, _, hadvances⟩ := h.usesAwaited c input
    have hcount : (s.step c input).1.wifiRetriesScheduled - s.wifiRetriesScheduled = n := by
      rw [hadvances.scheduled]
      omega
    have hclimbed : (s.step c input).1.wifiRetryDelayMs.toNat =
        rung c.initialRetryMs.toNat c.maxRetryMs.toNat (wifiSchedulings ts + n) := by
      have hgrow (delayMs : UInt32) (hcap : delayMs.toNat ≤ c.maxRetryMs.toNat) :
          (c.grownDelay delayMs).toNat = min c.maxRetryMs.toNat (delayMs.toNat * 2) :=
        DevSmokeConfig.toNat_grownDelay (UInt32.le_iff_toNat_le.mpr hcap)
      rw [hadvances.delay honline]
      exact rung_iterate hgrow hrung n
    rw [if_neg honline, Transition.of]
    dsimp only
    rw [hcount]
    refine ⟨hclimbed, fun _ => ?_⟩
    rw [UInt32.le_iff_toNat_le, hclimbed, hrung]
    exact rung_le_add _ _ _ _

theorem StageLadderStep.reset {u : SmokeTransition} (h : StageLadderStep c u)
    (hchanges : ChangesStage u) : u.after.retryDelayMs = c.initialRetryMs ∧
      (¬ ReportsOnline u → u.after.wifiRetryDelayMs = u.before.wifiRetryDelayMs) := by
  cases h with
  | entered _ hdelay hwifi => exact ⟨hdelay, hwifi⟩
  | scheduled hstays => exact absurd hchanges hstays
  | kept hstays => exact absurd hchanges hstays

theorem range_of_rung {c : DevSmokeConfig} (hrange : c.initialRetryMs ≤ c.maxRetryMs)
    (h : delayMs.toNat = rung c.initialRetryMs.toNat c.maxRetryMs.toNat k) :
    c.initialRetryMs ≤ delayMs ∧ delayMs ≤ c.maxRetryMs := by
  rw [UInt32.le_iff_toNat_le, UInt32.le_iff_toNat_le, h]
  exact ⟨floor_le_rung (UInt32.le_iff_toNat_le.mp hrange) k, rung_le_cap _ _ _⟩

theorem RetryLadders.next {s : DevMqttSmokeState} (h : RetryLadders c ts s) (hs : s.Consistent)
    (hrange : c.initialRetryMs ≤ c.maxRetryMs) (input : SmokeInput) :
    RetryLadders c (ts ++ [.of (step c) s input]) (s.step c input).1 := by
  have hstage := hs.stageLadder c input
  have hstageRung := hstage.climbs hrange h.stageRung
  obtain ⟨hwifiRung, hgrows⟩ := hs.wifiClimbs hrange h.wifiRung input
  constructor
  · exact range_of_rung hrange hstageRung
  · exact range_of_rung hrange hwifiRung
  · exact hstageRung
  · exact hwifiRung
  · rw [List.forall_mem_append, List.forall_mem_singleton]
    exact ⟨h.wifiGrows, hgrows⟩
  · rw [List.forall_mem_append, List.forall_mem_singleton]
    exact ⟨h.wifiReset, ReportsOnline.resets⟩
  · rw [List.forall_mem_append, List.forall_mem_singleton]
    exact ⟨h.stageReset, hstage.reset⟩

/-- Over every run both ladders stay in range. -/
theorem retryLadders_run (c : DevSmokeConfig) (inputs : List SmokeInput)
    (hrange : c.initialRetryMs ≤ c.maxRetryMs) :
    RetryLadders c (transitions (step c) (constructed c) inputs)
      (finalState (step c) (constructed c) inputs) := by
  have hboth : (finalState (step c) (constructed c) inputs).Consistent ∧
      RetryLadders c (transitions (step c) (constructed c) inputs)
        (finalState (step c) (constructed c) inputs) := by
    apply run_induction (motive := fun ts s => s.Consistent ∧ RetryLadders c ts s)
    · have hrung := (rung_zero (UInt32.le_iff_toNat_le.mp hrange)).symm
      have hbounds := range_of_rung hrange hrung
      exact ⟨consistent_run c [], hbounds, hbounds, hrung, hrung, List.forall_mem_nil _,
        List.forall_mem_nil _, List.forall_mem_nil _⟩
    · intro ts s input h
      exact ⟨h.1.next c input, h.2.next h.1 hrange input⟩
  exact hboth.2

/-- Two refused associations, the second after the bound of one and a half seconds. -/
theorem retryLadders_capped :
    let c : DevSmokeConfig := { initialRetryMs := 1000, maxRetryMs := 1500 }
    let inputs : List SmokeInput := [⟨.update false false false, 0⟩,
      ⟨.wifiAssociationResult false, 10⟩, ⟨.update false false false, 1010⟩,
      ⟨.wifiAssociationResult false, 1020⟩]
    RetryLadders c (transitions (step c) (constructed c) inputs)
        (finalState (step c) (constructed c) inputs) ∧
      (finalState (step c) (constructed c) inputs).wifiRetryDelayMs = 1500 :=
  ⟨retryLadders_run _ _ (by decide), by decide⟩

end DevMqttSmokeState
end InterBridge
