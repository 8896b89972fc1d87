import InterBridge.Dev.SmokeSteps
import Mathlib.Data.List.Basic

namespace InterBridge
open Foundations
set_option autoImplicit true

/-- The call brings the result of the action. -/
def SmokeCall.reports : SmokeCall → DevSmokeAction → Bool
  | .dnsResult _, .resolveDns => true
  | .networkPreflightFailed, .connectMqtt => true
  | .mqttResult _, .connectMqtt => true
  | _, _ => false

def DevSmokeAction.needsReport : DevSmokeAction → Bool
  | .resolveDns | .connectMqtt => true
  | _ => false

/-- The action of a stage whose result the caller reports. -/
def DevSmokeState.reportedAction : DevSmokeState → DevSmokeAction
  | .waitingForDns => .resolveDns
  | .waitingForMqtt => .connectMqtt
  | _ => .none

namespace DevMqttSmokeState

/-- The caller reported the result of every action that has one. -/
def Reported : List SmokeTransition → Prop
  | [] => True
  | u :: later =>
    (u.output.needsReport = true → ∃ v ∈ later, v.input.call.reports u.output = true) ∧
      Reported later

instance : (ts : List SmokeTransition) → Decidable (Reported ts)
  | [] => inferInstanceAs (Decidable True)
  | _ :: later =>
    have := instDecidableReported later
    inferInstanceAs (Decidable (_ ∧ _))

/-- The action was returned and its result was not reported since. -/
def Outstanding (action : DevSmokeAction) (ts : List SmokeTransition) : Prop :=
  ∃ earlier u later, ts = earlier ++ u :: later ∧ u.output = action ∧
    ∀ v ∈ later, v.input.call.reports action = false

/-- The deadline that holds `update` back while Wi-Fi is up has been reached. -/
def AtArmedDeadline (s : DevMqttSmokeState) (nowMs : UInt32) : Prop :=
  match s.state with
  | .waitingForWifi => True
  | .waitingForTime =>
    deadlineReached nowMs
      (if s.ntpAttemptInFlight then s.ntpAttemptDeadlineMs else s.retryAtMs) = true
  | _ => deadlineReached nowMs s.retryAtMs = true

/-- Some call returned an action or reached `Online`. -/
def Progresses (ts : List SmokeTransition) : Prop :=
  ∃ u ∈ ts, u.output ≠ .none ∨ u.after.state = .online

/-- With Wi-Fi up, that many calls of `update`, each made at the armed deadline, get somewhere. -/
def NeverStuck (c : DevSmokeConfig) (s : DevMqttSmokeState) (calls : Nat) : Prop :=
  ∀ inputs : List SmokeInput, inputs.length = calls → (∀ input ∈ inputs, input.Samples true) →
    (∀ u ∈ transitions (step c) s inputs, u.before.AtArmedDeadline (ms32 u.input.atMs)) →
    Progresses (transitions (step c) s inputs)

/-- A stage waits for a result only of an action that is outstanding. -/
def KeepsOutstanding (ts : List SmokeTransition) (s : DevMqttSmokeState) : Prop :=
  s.actionIssued = true → Outstanding s.state.reportedAction ts

theorem Reported.outstanding {ts : List SmokeTransition} (h : Reported ts)
    (hneeds : action.needsReport = true) : ¬ Outstanding action ts := by
  intro houtstanding
  obtain ⟨earlier, u, later, rfl, rfl, hlater⟩ := houtstanding
  induction earlier with
  | nil =>
    obtain ⟨v, hv, hreports⟩ := h.1 hneeds
    exact absurd ((hlater v hv).symm.trans hreports) Bool.false_ne_true
  | cons _ earlier ih => exact ih h.2

theorem reports_of_refused {s : DevMqttSmokeState} (h : ¬ s.Accepts call) :
    call.reports s.state.reportedAction = false := by
  cases call with
  | dnsResult success =>
    have hstage : s.state ≠ .waitingForDns := h
    cases hstate : s.state with
    | waitingForDns => exact absurd hstate hstage
    | _ => rfl
  | networkPreflightFailed =>
    have hstage : s.state ≠ .waitingForMqtt := h
    cases hstate : s.state with
    | waitingForMqtt => exact absurd hstate hstage
    | _ => rfl
  | mqttResult success =>
    have hstage : s.state ≠ .waitingForMqtt := h
    cases hstate : s.state with
    | waitingForMqtt => exact absurd hstate hstage
    | _ => rfl
  | _ => rfl

/-- After a call, a stage waits for a result if the call returned its action, or if it did before
and the call did not bring the result. -/
theorem Consistent.issued_cases {s : DevMqttSmokeState} (h : s.Consistent) (c : DevSmokeConfig)
    (input : SmokeInput) (hissued : (s.step c input).1.actionIssued = true) :
    (s.step c input).2 = (s.step c input).1.state.reportedAction ∨
      (s.actionIssued = true ∧ (s.step c input).1.state = s.state ∧
        input.call.reports s.state.reportedAction = false) := by
  have hstep := h.smokeStep c input
  generalize s.step c input = result at hstep hissued
  cases hstep with
  | updated _ hstep =>
    cases hstep with
    | recovering => cases hissued
    | awaiting => exact .inr ⟨hissued, rfl, rfl⟩
    | offline _ _ _ hstep =>
      obtain ⟨hstate, hkept, _⟩ := hstep.kept
      rw [hkept] at hissued
      rw [hstate]
      rcases s.noticeLoss_cases c _ with ⟨_, hloss⟩ | ⟨_, hloss⟩
      · rw [hloss] at hissued ⊢
        exact .inr ⟨hissued, rfl, rfl⟩
      · rw [hloss] at hissued
        cases hissued
    | online _ _ _ _ hstep =>
      cases hstep with
      | resolving => exact .inl rfl
      | retryingDns hstage => exact .inl (congrArg DevSmokeState.reportedAction hstage).symm
      | waitingForDns => exact .inr ⟨hissued, rfl, rfl⟩
      | synchronizing => exact .inr ⟨hissued, rfl, rfl⟩
      | waitingForTime => exact .inr ⟨hissued, rfl, rfl⟩
      | configuringTime => cases hissued
      | losingTime => cases hissued
      | connected => cases hissued
      | connectingMqtt s' hs' =>
        cases hs' with
        | entered => exact .inl rfl
        | stayed hstage => exact .inl (congrArg DevSmokeState.reportedAction hstage).symm
      | waitingForMqtt => exact .inr ⟨hissued, rfl, rfl⟩
      | online => exact .inr ⟨hissued, rfl, rfl⟩
      | losingMqtt => cases hissued
  | ignored hrefuses =>
    exact .inr ⟨hissued, rfl, reports_of_refused hrefuses⟩
  | started => exact .inr ⟨hissued, rfl, rfl⟩
  | associated => exact .inr ⟨hissued, rfl, rfl⟩
  | refused => exact .inr ⟨hissued, rfl, rfl⟩
  | reported _ hstep => exact absurd (hstep.kept.1.symm.trans hissued) Bool.false_ne_true

theorem keepsOutstanding_run (c : DevSmokeConfig) (inputs : List SmokeInput) :
    KeepsOutstanding (transitions (step c) (constructed c) inputs)
      (finalState (step c) (constructed c) inputs) := by
  have hrun : KeepsOutstanding (transitions (step c) (constructed c) inputs)
        (finalState (step c) (constructed c) inputs) ∧
      (finalState (step c) (constructed c) inputs).Consistent := by
    apply run_induction (motive := fun ts s => KeepsOutstanding ts s ∧ s.Consistent)
    · exact ⟨nofun, consistent_run c []⟩
    · intro ts s input hs
      obtain ⟨houtstanding, hconsistent⟩ := hs
      refine ⟨?_, hconsistent.next c input⟩
      intro hissued
      rcases hconsistent.issued_cases c input hissued with haction | ⟨hbefore, hstate, hreports⟩
      · exact ⟨ts, _, [], rfl, haction, List.forall_mem_nil _⟩
      · obtain ⟨earlier, u, later, rfl, hu, hlater⟩ := houtstanding hbefore
        rw [hstate]
        refine ⟨earlier, u, later ++ [.of (step c) s input], List.append_assoc _ _ _, hu, ?_⟩
        rw [List.forall_mem_append, List.forall_mem_singleton]
        exact ⟨hlater, hreports⟩
  exact hrun.1

/-- No stage with a result to be reported waits for one. -/
def Idle (s : DevMqttSmokeState) : Prop :=
  s.state.reportedAction ≠ .none → s.actionIssued = false

theorem idle_of_reported {c : DevSmokeConfig} {inputs : List SmokeInput}
    (h : Reported (transitions (step c) (constructed c) inputs)) :
    (finalState (step c) (constructed c) inputs).Idle := by
  intro haction
  by_contra hissued
  rw [Bool.not_eq_false] at hissued
  apply h.outstanding _ (keepsOutstanding_run c inputs hissued)
  generalize (finalState (step c) (constructed c) inputs).state = stage at haction
  cases stage with
  | waitingForDns => rfl
  | waitingForMqtt => rfl
  | _ => exact absurd rfl haction

/-- In `WaitingForTime` with no attempt in flight. -/
def TimeDue (s : DevMqttSmokeState) : Prop :=
  s.state = .waitingForTime ∧ s.ntpAttemptInFlight = false

theorem not_blocked {s : DevMqttSmokeState} (hissued : s.actionIssued = false)
    (hdue : deadlineReached nowMs s.retryAtMs = true) :
    ¬ (s.actionIssued = true ∨ deadlineReached nowMs s.retryAtMs = false) := by
  rw [hissued, hdue]
  decide

/-- A call at the armed deadline gets somewhere, or to `TimeDue` from elsewhere. -/
theorem Consistent.progresses {s : DevMqttSmokeState} (h : s.Consistent) (hidle : s.Idle)
    (hawaiting : s.awaitingWifiRecoveryDisconnect = false) (hoffline : s.state ≠ .online)
    {input : SmokeInput} (hsamples : input.Samples true)
    (hdue : s.AtArmedDeadline (ms32 input.atMs)) (c : DevSmokeConfig) :
    ((s.step c input).2 ≠ .none ∨ (s.step c input).1.state = .online) ∨
      ((s.step c input).1.TimeDue ∧ ¬ s.TimeDue) := by
  obtain ⟨timeValid, mqttConnected, hstep⟩ := h.samples_step hsamples c
  generalize s.step c input = result at hstep
  rw [AtArmedDeadline] at hdue
  cases hstep with
  | recovering => exact .inl (.inl nofun)
  | awaiting _ htrue _ => exact absurd (hawaiting.symm.trans htrue) Bool.false_ne_true
  | offline _ _ hdown _ => exact absurd hdown.symm Bool.false_ne_true
  | online _ _ _ _ hstep =>
    cases hstep with
    | resolving => exact .inl (.inl nofun)
    | retryingDns => exact .inl (.inl nofun)
    | waitingForDns hstage hblocked =>
      rw [hstage] at hdue
      rw [Idle, hstage] at hidle
      exact absurd hblocked (not_blocked (hidle nofun) hdue)
    | synchronizing hstage _ hattempt hearly =>
      rw [hstage, hattempt] at hdue
      exact absurd (hearly.symm.trans hdue) Bool.false_ne_true
    | waitingForTime hstage _ _ hblocked =>
      refine .inr ⟨⟨hstage, rfl⟩, ?_⟩
      intro htime
      rw [hstage, htime.2] at hdue
      exact absurd hblocked (not_blocked (h.time hstage) hdue)
    | configuringTime => exact .inl (.inl nofun)
    | losingTime hstage =>
      refine .inr ⟨⟨rfl, ?_⟩, ?_⟩
      · by_contra hattempt
        rw [Bool.not_eq_false] at hattempt
        cases hstage.symm.trans (h.ntp hattempt)
      · intro htime
        cases hstage.symm.trans htime.1
    | connected => exact .inl (.inr rfl)
    | connectingMqtt => exact .inl (.inl nofun)
    | waitingForMqtt hstage _ _ hblocked =>
      rw [hstage] at hdue
      rw [Idle, hstage] at hidle
      exact absurd hblocked (not_blocked (hidle nofun) hdue)
    | online hstage => exact absurd hstage hoffline
    | losingMqtt hstage => exact absurd hstage hoffline

theorem Consistent.neverStuck {s : DevMqttSmokeState} (h : s.Consistent) (hidle : s.Idle)
    (hawaiting : s.awaitingWifiRecoveryDisconnect = false) (hoffline : s.state ≠ .online)
    (c : DevSmokeConfig) : NeverStuck c s 2 := by
  intro inputs hlength hsamples hdue
  obtain ⟨first, second, rfl⟩ := List.length_eq_two.mp hlength
  simp only [transitions, List.forall_mem_cons, Transition.of] at hsamples hdue
  obtain ⟨hsample₁, hsample₂, _⟩ := hsamples
  obtain ⟨hdue₁, hdue₂, _⟩ := hdue
  rcases h.progresses hidle hawaiting hoffline hsample₁ hdue₁ c with hfirst | ⟨htime, _⟩
  · exact ⟨_, List.mem_cons_self, hfirst⟩
  · have hnext := h.next c first
    have hidle : (s.step c first).1.Idle := by
      intro haction
      rw [htime.1] at haction
      exact absurd rfl haction
    have hawaiting : (s.step c first).1.awaitingWifiRecoveryDisconnect = false := by
      by_contra hawaiting
      rw [Bool.not_eq_false] at hawaiting
      cases htime.1.symm.trans (hnext.awaiting hawaiting)
    have hoffline : (s.step c first).1.state ≠ .online := by
      intro honline
      cases htime.1.symm.trans honline
    rcases hnext.progresses hidle hawaiting hoffline hsample₂ hdue₂ c with hsecond | ⟨_, hother⟩
    · exact ⟨_, List.mem_cons_of_mem _ List.mem_cons_self, hsecond⟩
    · exact absurd htime hother

/-- While it waits for the disconnect of a recovery, `update` does nothing for as long as Wi-Fi
reads connected. -/
theorem Consistent.awaits {s : DevMqttSmokeState} (h : s.Consistent)
    (hawaiting : s.awaitingWifiRecoveryDisconnect = true) (c : DevSmokeConfig)
    (timeValid mqttConnected : Bool) (atMs : Nat) :
    s.step c ⟨.update true timeValid mqttConnected, atMs⟩ = (s, .none) := by
  have hrequested : ¬ s.wifiRecoveryRequested = true := by
    intro hrequested
    exact h.requested hrequested (h.awaiting hawaiting)
  rw [step]
  dsimp only
  rw [update, if_neg hrequested, Bool.and_true, if_pos hawaiting]

theorem Consistent.awaits_run {s : DevMqttSmokeState} (h : s.Consistent)
    (hawaiting : s.awaitingWifiRecoveryDisconnect = true) (c : DevSmokeConfig)
    {inputs : List SmokeInput} (hsamples : ∀ input ∈ inputs, input.Samples true) :
    ∀ u ∈ transitions (step c) s inputs, u.before = s ∧ u.output = .none ∧ u.after = s := by
  induction inputs with
  | nil => exact List.forall_mem_nil _
  | cons input inputs ih =>
    rw [List.forall_mem_cons] at hsamples
    obtain ⟨hsample, hrest⟩ := hsamples
    have hstep : s.step c input = (s, .none) := by
      obtain ⟨call, atMs⟩ := input
      obtain ⟨timeValid, mqttConnected, rfl⟩ := hsample
      exact h.awaits hawaiting c timeValid mqttConnected atMs
    rw [transitions, List.forall_mem_cons, Transition.of, hstep]
    exact ⟨⟨rfl, rfl, rfl⟩, ih hrest⟩

theorem Consistent.stuck {s : DevMqttSmokeState} (h : s.Consistent)
    (hawaiting : s.awaitingWifiRecoveryDisconnect = true) (c : DevSmokeConfig) (calls : Nat) :
    ¬ NeverStuck c s calls := by
  intro hnever
  have hsamples : ∀ input ∈ List.replicate calls (SmokeInput.mk (.update true false false) 0),
      input.Samples true := by
    intro input hinput
    rw [List.eq_of_mem_replicate hinput]
    exact ⟨false, false, rfl⟩
  have hwaits := h.awaits_run hawaiting c hsamples
  obtain ⟨u, hu, hmoves⟩ := hnever _ List.length_replicate hsamples (by
    intro u hu
    rw [(hwaits u hu).1, AtArmedDeadline, h.awaiting hawaiting]
    trivial)
  obtain ⟨_, hnone, hafter⟩ := hwaits u hu
  rcases hmoves with haction | honline
  · exact haction hnone
  · rw [hafter, h.awaiting hawaiting] at honline
    cases honline

/-- In every state but `Online` that a run reaches with all results reported: while it does not
wait for the disconnect of a recovery, two calls get somewhere; while it does, no sequence of calls
does in which Wi-Fi reads connected. -/
theorem neverStuck_unless_awaiting (c : DevSmokeConfig) (inputs : List SmokeInput)
    (hreported : Reported (transitions (step c) (constructed c) inputs))
    (hoffline : (finalState (step c) (constructed c) inputs).state ≠ .online) :
    let s := finalState (step c) (constructed c) inputs
    (s.awaitingWifiRecoveryDisconnect = false → NeverStuck c s 2) ∧
      (s.awaitingWifiRecoveryDisconnect = true → ∀ later : List SmokeInput,
        (∀ input ∈ later, input.Samples true) →
        ∀ u ∈ transitions (step c) s later, u.output = .none ∧ u.after = s) := by
  have hconsistent := consistent_run c inputs
  constructor
  · intro hawaiting
    exact hconsistent.neverStuck (idle_of_reported hreported) hawaiting hoffline c
  · intro hawaiting later hsamples u hu
    exact (hconsistent.awaits_run hawaiting c hsamples u hu).2

/-- A stay in the first stage with Wi-Fi whose lookup fails three times. -/
def failedLookups : List SmokeInput :=
  [⟨.update true false false, 0⟩, ⟨.dnsResult false, 0⟩, ⟨.update true false false, 1000⟩,
    ⟨.dnsResult false, 1000⟩, ⟨.update true false false, 3000⟩, ⟨.dnsResult false, 3000⟩]

/-- The recovery that follows is never over for a caller that does not see the disconnect. -/
theorem failedLookups_stuck :
    ¬ ∃ calls, ∀ inputs : List SmokeInput,
      Reported (transitions (step {}) (constructed {}) inputs) →
      (finalState (step {}) (constructed {}) inputs).state ≠ .online →
      NeverStuck {} (finalState (step {}) (constructed {}) inputs) calls := by
  intro h
  obtain ⟨calls, hnever⟩ := h
  have hrecovered := hnever (failedLookups ++ [⟨.update true false false, 3001⟩]) (by decide)
    (by decide)
  exact (consistent_run {} _).stuck (by decide) {} calls hrecovered

/-- Before it, the lookups that failed leave nothing stuck. -/
theorem failedLookups_neverStuck :
    NeverStuck {} (finalState (step {}) (constructed {}) failedLookups) 2 :=
  (neverStuck_unless_awaiting {} failedLookups (by decide) (by decide)).1 (by decide)

end DevMqttSmokeState
end InterBridge
