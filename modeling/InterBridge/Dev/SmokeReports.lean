import InterBridge.Dev.SmokeProgress
import InterBridge.Dev.SmokeRecovery

namespace InterBridge
open Foundations
set_option autoImplicit true

/-- What a report says of the network: that a lookup or a connection failed, or that the device is
fully connected. -/
def SmokeCall.outcome : SmokeCall → Option Bool
  | .dnsResult false | .networkPreflightFailed => some false
  | .mqttResult success => some success
  | _ => none

namespace DevMqttSmokeState

/-- Neither the count of failures nor what it escalates to is changed. -/
structure KeepsCount (s s' : DevMqttSmokeState) : Prop where
  consistent : s'.Consistent
  kept : SameCount s s'
  requested : s'.wifiRecoveryRequested = s.wifiRecoveryRequested

/-- `n` failures have been counted, and no recovery was authorised since the count began. -/
structure Below (c : DevSmokeConfig) (n : Nat) (s : DevMqttSmokeState) : Prop where
  count : s.consecutiveConnectivityFailures.toNat = n
  few : n < c.wifiRecoveryThreshold.toNat
  coolingDown : s.wifiRecoveryCooldownActive = false
  requested : s.wifiRecoveryRequested = false

/-- What a report makes of the count, with what it says of the network. -/
inductive NetworkReport (c : DevSmokeConfig) (s : DevMqttSmokeState) (nowMs : UInt32) :
    Option Bool → DevMqttSmokeState → Prop where
  | nothing (keeps : KeepsCount s s') : NetworkReport c s nowMs none s'
  | failure (consistent : s'.Consistent) (counts : CountsFailure c s nowMs s') :
      NetworkReport c s nowMs (some false) s'
  | online (consistent : s'.Consistent) (below : Below c 0 s') :
      NetworkReport c s nowMs (some true) s'

theorem Consistent.keepsCount {s : DevMqttSmokeState} (h : s.Consistent) :
    KeepsCount s s := ⟨h, .refl s, rfl⟩

theorem KeepsCount.trans {s s' s'' : DevMqttSmokeState} (h : KeepsCount s s')
    (h' : KeepsCount s' s'') : KeepsCount s s'' where
  consistent := h'.consistent
  kept :=
    ⟨h'.kept.failures.trans h.kept.failures, h'.kept.coolingDown.trans h.kept.coolingDown,
      h'.kept.cooldown.trans h.kept.cooldown⟩
  requested := h'.requested.trans h.requested

theorem reportsFailure_iff : reportsFailure call = true ↔ call.outcome = some false := by
  cases call with
  | dnsResult success =>
    cases success with
    | true => exact iff_of_false Bool.false_ne_true (Option.some_ne_none _).symm
    | false => exact iff_of_true rfl rfl
  | networkPreflightFailed => exact iff_of_true rfl rfl
  | mqttResult success =>
    cases success with
    | true => exact iff_of_false Bool.false_ne_true (fun h => by cases h)
    | false => exact iff_of_true rfl rfl
  | _ => exact iff_of_false Bool.false_ne_true (Option.some_ne_none _).symm

theorem eq_of_online {call : SmokeCall} (h : call.outcome = some true) :
    call = .mqttResult true := by
  cases call with
  | dnsResult success =>
    cases success with
    | _ => cases h
  | mqttResult success =>
    cases h
    rfl
  | _ => cases h

theorem Consistent.keepsCount_call {s : DevMqttSmokeState} (h : s.Consistent)
    (c : DevSmokeConfig) (input : SmokeInput) (hcall : input.call.outcome = none)
    (hupdate : ∀ wifiConnected timeValid mqttConnected,
      input.call ≠ .update wifiConnected timeValid mqttConnected) :
    KeepsCount s (s.step c input).1 := by
  cases h.ladderStep c input with
  | failed failure =>
    have houtcome : input.call.outcome = some false := reportsFailure_iff.mp failure.1
    cases hcall.symm.trans houtcome
  | online reports =>
    have houtcome : input.call.outcome = some true := congrArg SmokeCall.outcome reports.1
    cases hcall.symm.trans houtcome
  | updated update => exact absurd update (not_update_of_call rfl hupdate)
  | other _ _ _ _ kept requested => exact ⟨h.next c input, kept, requested⟩

theorem Below.same {s s' : DevMqttSmokeState} (h : Below c n s) (hkept : SameCount s s')
    (hrequested : s'.wifiRecoveryRequested = false) : Below c n s' where
  count := (congrArg UInt32.toNat hkept.failures).trans h.count
  few := h.few
  coolingDown := hkept.coolingDown.trans h.coolingDown
  requested := hrequested

/-- One more failure is counted, or with it the recovery is authorised. -/
theorem Below.failed {s s' : DevMqttSmokeState} (h : Below c n s)
    (hcounts : CountsFailure c s nowMs s') :
    Below c (n + 1) s' ∨ c.wifiRecoveryThreshold.toNat ≤ n + 1 ∧
      s'.wifiRecoveryRequested = true := by
  have hnext : (s.consecutiveConnectivityFailures + 1).toNat = n + 1 := by
    have hfew := h.few
    have hthreshold := c.wifiRecoveryThreshold.toNat_lt
    rw [UInt32.toNat_add, h.count, UInt32.toNat_one]
    omega
  by_cases hlt : s.consecutiveConnectivityFailures + 1 < c.wifiRecoveryThreshold
  · have hrefused : s.authorises c nowMs = false := by
      rw [authorises, decide_eq_true hlt]
      rfl
    left
    constructor
    · rw [hcounts.failures, if_pos hlt, hnext]
    · rw [← hnext]
      exact UInt32.lt_iff_toNat_lt.mp hlt
    · rw [hcounts.coolingDown, h.coolingDown, hrefused]
      rfl
    · rw [hcounts.requested, h.requested, hrefused]
      rfl
  · right
    constructor
    · rw [UInt32.lt_iff_toNat_lt, hnext] at hlt
      exact Nat.le_of_not_lt hlt
    · have hauthorises : s.authorises c nowMs = true := by
        rw [authorises, decide_eq_false hlt, h.coolingDown]
        rfl
      rw [hcounts.requested, hauthorises, Bool.or_true]

theorem Consistent.updates {s : DevMqttSmokeState} (h : s.Consistent) (nowMs : UInt32)
    (wifiConnected timeValid mqttConnected : Bool) :
    let result := s.update c nowMs wifiConnected timeValid mqttConnected
    result.1.Consistent ∧
      UpdateStep c s nowMs wifiConnected timeValid mqttConnected result := by
  obtain ⟨atMs, rfl⟩ := exists_ms32 nowMs
  exact ⟨h.next c ⟨.update wifiConnected timeValid mqttConnected, atMs⟩,
    h.update_step wifiConnected timeValid mqttConnected⟩

theorem UpdateStep.reportedAction {s : DevMqttSmokeState}
    (h : UpdateStep c s nowMs wifiConnected timeValid mqttConnected result)
    (hneeds : result.2.needsReport = true) : result.1.state.reportedAction = result.2 := by
  cases h with
  | recovering => cases hneeds
  | awaiting => cases hneeds
  | offline _ _ _ hstep =>
    cases hstep with
    | _ => cases hneeds
  | online _ _ _ _ hstep =>
    cases hstep with
    | resolving => rfl
    | retryingDns hstage => exact congrArg DevSmokeState.reportedAction hstage
    | connectingMqtt s' hs' =>
      cases hs' with
      | entered => rfl
      | stayed hstage => exact congrArg DevSmokeState.reportedAction hstage
    | _ => cases hneeds

theorem Consistent.online {s : DevMqttSmokeState} (h : s.Consistent)
    (hthreshold : 1 ≤ c.wifiRecoveryThreshold.toNat)
    (hreports : ReportsOnline (.of (step c) s input)) : Below c 0 (s.step c input).1 := by
  cases h.ladderStep c input with
  | failed failure => exact absurd hreports failure.not_online
  | online _ _ failures coolingDown requested =>
    exact ⟨congrArg UInt32.toNat failures, hthreshold, coolingDown, requested⟩
  | updated update => exact absurd hreports update.not_online
  | other _ online => exact absurd hreports online

theorem Consistent.counts {s : DevMqttSmokeState} (h : s.Consistent)
    (hfailure : CountedFailure (.of (step c) s input)) :
    CountsFailure c s (ms32 input.atMs) (s.step c input).1 := by
  cases h.ladderStep c input with
  | failed _ _ counts => exact counts
  | online reports => exact absurd reports hfailure.not_online
  | updated update => exact absurd update hfailure.not_update
  | other failure => exact absurd hfailure failure

theorem Consistent.networkReport {s : DevMqttSmokeState} (h : s.Consistent)
    (hthreshold : 1 ≤ c.wifiRecoveryThreshold.toNat) (call : SmokeCall) (atMs : Nat)
    (hreports : call.reports s.state.reportedAction = true) :
    NetworkReport c s (ms32 atMs) call.outcome (s.step c ⟨call, atMs⟩).1 := by
  have hnext := h.next c ⟨call, atMs⟩
  have haccepts : s.Accepts call := by
    by_contra hrefuses
    exact Bool.false_ne_true ((reports_of_refused hrefuses).symm.trans hreports)
  cases houtcome : call.outcome with
  | none =>
    apply NetworkReport.nothing
    apply h.keepsCount_call c _ houtcome
    intro _ _ _ hcall
    cases hcall
    cases hreports
  | some success =>
    cases success with
    | true =>
      obtain rfl := eq_of_online houtcome
      exact .online hnext (h.online hthreshold ⟨rfl, haccepts⟩)
    | false =>
      have hcounted : CountedFailure (.of (step c) s ⟨call, atMs⟩) :=
        ⟨reportsFailure_iff.mpr houtcome, haccepts⟩
      exact .failure hnext (h.counts hcounted)

theorem NetworkReport.consistent {s s' : DevMqttSmokeState} (h : NetworkReport c s now outcome s') :
    s'.Consistent := by
  cases h with
  | nothing keeps => exact keeps.consistent
  | failure consistent => exact consistent
  | online consistent => exact consistent

end DevMqttSmokeState
end InterBridge
