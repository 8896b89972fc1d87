import InterBridge.Dev.SmokeRecovery

namespace InterBridge
open Foundations
set_option autoImplicit true

namespace DevMqttSmokeState

/-- Every flag stands in its stage only, and the failures stay below the threshold. -/
structure FlagsAgree (c : DevSmokeConfig) (s : DevMqttSmokeState) : Prop where
  confirming : s.wifiConfirmPending = true →
    s.state = .waitingForWifi ∧ s.wifiAttemptInFlight = false
  synchronizing : s.ntpAttemptInFlight = true → s.state = .waitingForTime
  disconnecting : s.awaitingWifiRecoveryDisconnect = true → s.state = .waitingForWifi
  failures : s.consecutiveConnectivityFailures.toNat < max 1 c.wifiRecoveryThreshold.toNat
  online : s.state = .online → s.wifiConfirmPending = false ∧ s.ntpAttemptInFlight = false ∧
    s.awaitingWifiRecoveryDisconnect = false

theorem flag_down {flag : Bool} {stage stage' : DevSmokeState} (h : flag = true → stage' = stage)
    (hne : stage' ≠ stage) : flag = false := by
  rw [← Bool.not_eq_true]
  intro hflag
  exact hne (h hflag)

theorem Consistent.flagsAgree {s : DevMqttSmokeState} (h : s.Consistent)
    (hfailures : s.consecutiveConnectivityFailures.toNat < max 1 c.wifiRecoveryThreshold.toNat) :
    FlagsAgree c s := by
  refine ⟨h.confirm, h.ntp, h.awaiting, hfailures, ?_⟩
  intro honline
  have hne {stage : DevSmokeState} (hstage : DevSmokeState.online ≠ stage) : s.state ≠ stage := by
    rw [honline]
    exact hstage
  refine ⟨flag_down (fun hflag => (h.confirm hflag).1) ?_, flag_down h.ntp ?_,
    flag_down h.awaiting ?_⟩
  · exact hne DevSmokeState.noConfusion
  · exact hne DevSmokeState.noConfusion
  · exact hne DevSmokeState.noConfusion

/-- A count that stays below the threshold does not wrap. -/
theorem failures_below (c : DevSmokeConfig) (failures : UInt32) :
    (if failures + 1 < c.wifiRecoveryThreshold then failures + 1 else 0).toNat <
      max 1 c.wifiRecoveryThreshold.toNat := by
  split
  next hbelow =>
    rw [UInt32.lt_iff_toNat_lt] at hbelow
    omega
  next =>
    rw [UInt32.toNat_zero]
    omega

theorem Consistent.failures_next {s : DevMqttSmokeState} (h : s.Consistent) (c : DevSmokeConfig)
    (input : SmokeInput)
    (hbelow : s.consecutiveConnectivityFailures.toNat < max 1 c.wifiRecoveryThreshold.toNat) :
    (s.step c input).1.consecutiveConnectivityFailures.toNat <
      max 1 c.wifiRecoveryThreshold.toNat := by
  have hstep := h.ladderStep c input
  rw [Transition.of] at hstep
  cases hstep with
  | failed _ _ hcounts =>
    have hfailures := hcounts.failures
    dsimp only at hfailures
    rw [hfailures]
    exact failures_below c _
  | online _ _ hfailures =>
    dsimp only at hfailures
    rw [hfailures, UInt32.toNat_zero]
    omega
  | updated _ _ hkept =>
    have hfailures := hkept.failures
    dsimp only at hfailures
    rw [hfailures]
    exact hbelow
  | other _ _ _ _ hkept =>
    have hfailures := hkept.failures
    dsimp only at hfailures
    rw [hfailures]
    exact hbelow

theorem Consistent.failures_run {s : DevMqttSmokeState} (h : s.Consistent) (c : DevSmokeConfig)
    (inputs : List SmokeInput)
    (hbelow : s.consecutiveConnectivityFailures.toNat < max 1 c.wifiRecoveryThreshold.toNat) :
    (finalState (step c) s inputs).consecutiveConnectivityFailures.toNat <
      max 1 c.wifiRecoveryThreshold.toNat := by
  induction inputs generalizing s with
  | nil => exact hbelow
  | cons input inputs ih => exact ih (h.next c input) (h.failures_next c input hbelow)

/-- In every reachable state the flags agree with the stage. -/
theorem flagsAgree_run (c : DevSmokeConfig) (inputs : List SmokeInput) :
    FlagsAgree c (finalState (step c) (constructed c) inputs) := by
  apply (consistent_run c inputs).flagsAgree
  apply Consistent.failures_run
  · exact consistent_run c []
  · change 0 < max 1 c.wifiRecoveryThreshold.toNat
    omega

end DevMqttSmokeState
end InterBridge
