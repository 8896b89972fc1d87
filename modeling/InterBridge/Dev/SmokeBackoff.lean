import InterBridge.Dev.SmokeSteps
import Mathlib.Logic.Function.Iterate

namespace InterBridge
open Foundations
set_option autoImplicit true

namespace DevMqttSmokeState

/-- How many outcomes of Wi-Fi attempts are awaited: of one in flight, of one to be confirmed. -/
def awaited (s : DevMqttSmokeState) : Nat :=
  s.wifiAttemptInFlight.toNat + s.wifiConfirmPending.toNat

/-- The call reports a full connection, which brings the Wi-Fi delay back to its floor. -/
def ReportsOnline (u : SmokeTransition) : Prop :=
  u.input.call = .mqttResult true ∧ u.before.Accepts u.input.call

instance : DecidablePred ReportsOnline := fun _ => inferInstanceAs (Decidable (_ ∧ _))

/-- From `s` to `s'` the Wi-Fi retry was scheduled `advances` times; with a full connection in
between, the delay says nothing about it. -/
structure BackoffAdvances (c : DevSmokeConfig) (advances : Nat) (online : Prop)
    (s s' : DevMqttSmokeState) : Prop where
  scheduled : s'.wifiRetriesScheduled = s.wifiRetriesScheduled + advances
  delay : ¬ online → s'.wifiRetryDelayMs = c.grownDelay^[advances] s.wifiRetryDelayMs

theorem BackoffAdvances.trans (h : BackoffAdvances c m p s s') (h' : BackoffAdvances c n q s' s'') :
    BackoffAdvances c (n + m) (p ∨ q) s s'' := by
  constructor
  · rw [h'.scheduled, h.scheduled, Nat.add_assoc, Nat.add_comm m n]
  · intro honline
    rw [not_or] at honline
    rw [h'.delay honline.2, h.delay honline.1, Function.iterate_add_apply]

theorem Released.advances {s : DevMqttSmokeState} (h : Released c s nowMs s') (online : Prop) :
    ∃ n, n + s'.awaited ≤ s.awaited ∧ BackoffAdvances c n online s s' := by
  cases h with
  | free => exact ⟨0, Nat.le_of_eq (Nat.zero_add _), rfl, fun _ => rfl⟩
  | attemptExpired hattempt hconfirm =>
    refine ⟨1, ?_, rfl, fun _ => rfl⟩
    change 1 + (false.toNat + s.wifiConfirmPending.toNat) ≤
      s.wifiAttemptInFlight.toNat + s.wifiConfirmPending.toNat
    rw [hattempt, hconfirm]
    decide
  | confirmExpired hattempt hconfirm =>
    refine ⟨1, ?_, rfl, fun _ => rfl⟩
    change 1 + (s.wifiAttemptInFlight.toNat + false.toNat) ≤
      s.wifiAttemptInFlight.toNat + s.wifiConfirmPending.toNat
    rw [hattempt, hconfirm]
    decide

/-- The retry is scheduled for awaited outcomes only; unless an attempt is begun, these are used
up by it. -/
def UsesAwaited (c : DevSmokeConfig) (s : DevMqttSmokeState)
    (result : DevMqttSmokeState × DevSmokeAction) (online : Prop) : Prop :=
  ∃ n, n ≤ s.awaited ∧ (result.2 ≠ .connectWifi → n + result.1.awaited ≤ s.awaited) ∧
    BackoffAdvances c n online s result.1

theorem UsesAwaited.unscheduled {s : DevMqttSmokeState}
    {result : DevMqttSmokeState × DevSmokeAction} (hawaited : result.1.awaited ≤ s.awaited)
    (hscheduled : result.1.wifiRetriesScheduled = s.wifiRetriesScheduled)
    (hdelay : ¬ online → result.1.wifiRetryDelayMs = s.wifiRetryDelayMs) :
    UsesAwaited c s result online := by
  refine ⟨0, Nat.zero_le _, ?_, hscheduled, hdelay⟩
  intro _
  rw [Nat.zero_add]
  exact hawaited

theorem awaited_le_of_entered {s s' : DevMqttSmokeState}
    (hattempt : s'.wifiAttemptInFlight = s.wifiAttemptInFlight)
    (hconfirm : s'.wifiConfirmPending = false) : s'.awaited ≤ s.awaited := by
  rw [awaited, awaited, hattempt, hconfirm]
  exact Nat.add_le_add_left (Nat.zero_le _) _

theorem noticeLoss_ladder (c : DevSmokeConfig) (s : DevMqttSmokeState) (nowMs : UInt32) :
    (s.noticeLoss c nowMs).awaited ≤ s.awaited ∧
      (s.noticeLoss c nowMs).wifiRetriesScheduled = s.wifiRetriesScheduled ∧
      (s.noticeLoss c nowMs).wifiRetryDelayMs = s.wifiRetryDelayMs := by
  rcases s.noticeLoss_cases c nowMs with ⟨_, hloss⟩ | ⟨_, hloss⟩
  · rw [hloss]
    exact ⟨Nat.le_refl _, rfl, rfl⟩
  · rw [hloss]
    exact ⟨Nat.zero_le _, rfl, rfl⟩

theorem WifiStep.usesAwaited {s : DevMqttSmokeState}
    (h : WifiStep c (s.noticeLoss c nowMs) nowMs result) (online : Prop) :
    UsesAwaited c s result online := by
  obtain ⟨hawaited, hscheduled, hdelay⟩ := s.noticeLoss_ladder c nowMs
  have hreleased (s' : DevMqttSmokeState) (hs' : Released c (s.noticeLoss c nowMs) nowMs s') :
      ∃ n, n + s'.awaited ≤ s.awaited ∧ BackoffAdvances c n online s s' := by
    obtain ⟨n, hn, hadvances⟩ := hs'.advances online
    refine ⟨n, Nat.le_trans hn hawaited, ?_, ?_⟩
    · rw [hadvances.scheduled, hscheduled]
    · intro honline
      rw [hadvances.delay honline, hdelay]
  cases h with
  | attempting => exact .unscheduled hawaited hscheduled (fun _ => hdelay)
  | confirming => exact .unscheduled hawaited hscheduled (fun _ => hdelay)
  | waiting s' hs' =>
    obtain ⟨n, hn, hadvances⟩ := hreleased s' hs'
    exact ⟨n, Nat.le_trans (Nat.le_add_right _ _) hn, fun _ => hn, hadvances⟩
  | connecting s' hs' =>
    obtain ⟨n, hn, hadvances⟩ := hreleased s' hs'
    exact ⟨n, Nat.le_trans (Nat.le_add_right _ _) hn, fun hother => absurd rfl hother,
      hadvances.scheduled, hadvances.delay⟩

theorem NetworkStep.usesAwaited {s : DevMqttSmokeState}
    (h : NetworkStep c s nowMs timeValid mqttConnected result) (online : Prop) :
    UsesAwaited c s result online := by
  have hentered (s' : DevMqttSmokeState) (hs' : MqttStage c s nowMs s') :
      s'.awaited ≤ s.awaited ∧ s'.wifiRetriesScheduled = s.wifiRetriesScheduled ∧
        s'.wifiRetryDelayMs = s.wifiRetryDelayMs := by
    cases hs' with
    | entered => exact ⟨awaited_le_of_entered rfl rfl, rfl, rfl⟩
    | stayed => exact ⟨Nat.le_refl _, rfl, rfl⟩
  cases h with
  | resolving => exact .unscheduled (awaited_le_of_entered rfl rfl) rfl (fun _ => rfl)
  | retryingDns => exact .unscheduled (Nat.le_refl _) rfl (fun _ => rfl)
  | waitingForDns => exact .unscheduled (Nat.le_refl _) rfl (fun _ => rfl)
  | synchronizing => exact .unscheduled (Nat.le_refl _) rfl (fun _ => rfl)
  | waitingForTime => exact .unscheduled (Nat.le_refl _) rfl (fun _ => rfl)
  | configuringTime => exact .unscheduled (Nat.le_refl _) rfl (fun _ => rfl)
  | losingTime => exact .unscheduled (awaited_le_of_entered rfl rfl) rfl (fun _ => rfl)
  | connected s' hs' =>
    obtain ⟨hawaited, hscheduled, hdelay⟩ := hentered s' hs'
    have honline : (s'.enter c .online nowMs).awaited ≤ s'.awaited := awaited_le_of_entered rfl rfl
    exact .unscheduled (Nat.le_trans honline hawaited) hscheduled (fun _ => hdelay)
  | connectingMqtt s' hs' =>
    obtain ⟨hawaited, hscheduled, hdelay⟩ := hentered s' hs'
    exact .unscheduled hawaited hscheduled (fun _ => hdelay)
  | waitingForMqtt => exact .unscheduled (Nat.le_refl _) rfl (fun _ => rfl)
  | online => exact .unscheduled (Nat.le_refl _) rfl (fun _ => rfl)
  | losingMqtt => exact .unscheduled (awaited_le_of_entered rfl rfl) rfl (fun _ => rfl)

theorem ReportStep.usesAwaited {s : DevMqttSmokeState} (h : ReportStep c s input result) :
    UsesAwaited c s result (ReportsOnline ⟨s, input, result.2, result.1⟩) := by
  cases h with
  | resolved => exact .unscheduled (awaited_le_of_entered rfl rfl) rfl (fun _ => rfl)
  | unresolved =>
    obtain ⟨_, _, _, _, hkept⟩ := (s.scheduleRetry c _).recordConnectivityFailure_kept c _
    rw [hkept]
    exact .unscheduled (Nat.le_refl _) rfl (fun _ => rfl)
  | preflightFailed =>
    obtain ⟨_, _, _, _, hkept⟩ := (s.enter c _ _).recordConnectivityFailure_kept c _
    rw [hkept]
    exact .unscheduled (awaited_le_of_entered rfl rfl) rfl (fun _ => rfl)
  | mqttUp hstage =>
    refine .unscheduled (awaited_le_of_entered rfl rfl) rfl ?_
    intro honline
    exact absurd ⟨rfl, hstage⟩ honline
  | mqttDown =>
    obtain ⟨_, _, _, _, hkept⟩ := (s.scheduleRetry c _).recordConnectivityFailure_kept c _
    rw [hkept]
    exact .unscheduled (Nat.le_refl _) rfl (fun _ => rfl)

theorem Consistent.usesAwaited {s : DevMqttSmokeState} (h : s.Consistent) (c : DevSmokeConfig)
    (input : SmokeInput) :
    UsesAwaited c s (s.step c input) (ReportsOnline (.of (step c) s input)) := by
  rw [Transition.of]
  have hstep := h.smokeStep c input
  generalize s.step c input = result at hstep ⊢
  cases hstep with
  | updated _ hstep =>
    cases hstep with
    | recovering => exact .unscheduled (Nat.zero_le _) rfl (fun _ => rfl)
    | awaiting => exact .unscheduled (Nat.le_refl _) rfl (fun _ => rfl)
    | offline _ _ _ hstep => exact hstep.usesAwaited _
    | online _ _ _ _ hstep => exact hstep.usesAwaited _
  | ignored => exact .unscheduled (Nat.le_refl _) rfl (fun _ => rfl)
  | started => exact .unscheduled (Nat.le_refl _) rfl (fun _ => rfl)
  | associated _ hattempt =>
    refine .unscheduled ?_ rfl (fun _ => rfl)
    change 0 + 1 ≤ s.wifiAttemptInFlight.toNat + s.wifiConfirmPending.toNat
    rw [hattempt]
    exact Nat.le_add_right 1 _
  | refused _ hattempt =>
    have hawaited : 1 + (0 + s.wifiConfirmPending.toNat) ≤ s.awaited := by
      rw [awaited, hattempt, Nat.zero_add]
      exact Nat.le_refl _
    exact ⟨1, Nat.le_trans (Nat.le_add_right _ _) hawaited, fun _ => hawaited, rfl, fun _ => rfl⟩
  | reported _ hstep => exact hstep.usesAwaited

/-- As long as no attempt is begun, the retry is scheduled at most as often as outcomes are
awaited at first. -/
theorem Consistent.advances_run {s : DevMqttSmokeState} (h : s.Consistent) (c : DevSmokeConfig)
    (inputs : List SmokeInput)
    (hbetween : ∀ v ∈ transitions (step c) s inputs, v.output ≠ .connectWifi) :
    ∃ n, n + (finalState (step c) s inputs).awaited ≤ s.awaited ∧
      BackoffAdvances c n (∃ v ∈ transitions (step c) s inputs, ReportsOnline v) s
        (finalState (step c) s inputs) := by
  induction inputs generalizing s with
  | nil => exact ⟨0, Nat.le_of_eq (Nat.zero_add _), rfl, fun _ => rfl⟩
  | cons input inputs ih =>
    rw [transitions, List.forall_mem_cons] at hbetween
    obtain ⟨hfirst, hrest⟩ := hbetween
    obtain ⟨m, _, hm, hadvances⟩ := h.usesAwaited c input
    obtain ⟨n, hn, hlater⟩ := ih (h.next c input) hrest
    have hboth := hadvances.trans hlater
    refine ⟨n + m, ?_, hboth.scheduled, ?_⟩
    · have hm := hm hfirst
      rw [finalState]
      omega
    · intro honline
      simp only [transitions, List.mem_cons, exists_eq_or_imp] at honline
      exact hboth.delay honline

end DevMqttSmokeState
end InterBridge
