import InterBridge.Dev.MqttSmokeState

namespace InterBridge
open Foundations
set_option autoImplicit true

/-- The same call, that much later. -/
def SmokeInput.later (shiftMs : UInt32) (input : SmokeInput) : SmokeInput :=
  { input with atMs := input.atMs + shiftMs.toNat }

namespace DevMqttSmokeState

/-- The same state with every deadline moved. -/
def shifted (shiftMs : UInt32) (s : DevMqttSmokeState) : DevMqttSmokeState :=
  { s with
    retryAtMs := s.retryAtMs + shiftMs
    ntpAttemptDeadlineMs := s.ntpAttemptDeadlineMs + shiftMs
    wifiAttemptDeadlineMs := s.wifiAttemptDeadlineMs + shiftMs
    wifiConfirmDeadlineMs := s.wifiConfirmDeadlineMs + shiftMs
    wifiRetryAtMs := s.wifiRetryAtMs + shiftMs
    wifiRecoveryCooldownUntilMs := s.wifiRecoveryCooldownUntilMs + shiftMs }

section

variable (c : DevSmokeConfig) (s : DevMqttSmokeState) (nowMs shiftMs : UInt32)

@[simp] theorem deadlineReached_shifted (deadlineMs : UInt32) :
    deadlineReached (nowMs + shiftMs) (deadlineMs + shiftMs) = deadlineReached nowMs deadlineMs :=
  reachedSigned_add_right nowMs deadlineMs shiftMs

theorem enter_shifted (stage : DevSmokeState) :
    (s.shifted shiftMs).enter c stage (nowMs + shiftMs) =
      (s.enter c stage nowMs).shifted shiftMs := rfl

theorem scheduleRetry_shifted :
    (s.shifted shiftMs).scheduleRetry c (nowMs + shiftMs) =
      (s.scheduleRetry c nowMs).shifted shiftMs := by
  have hretry := delayed_add_right nowMs s.retryDelayMs shiftMs
  simp only [scheduleRetry, shifted, hretry]

theorem scheduleWifiRetry_shifted :
    (s.shifted shiftMs).scheduleWifiRetry c (nowMs + shiftMs) =
      (s.scheduleWifiRetry c nowMs).shifted shiftMs := by
  have hretry := delayed_add_right nowMs s.wifiRetryDelayMs shiftMs
  simp only [scheduleWifiRetry, shifted, hretry]

theorem recordConnectivityFailure_shifted :
    (s.shifted shiftMs).recordConnectivityFailure c (nowMs + shiftMs) =
      (s.recordConnectivityFailure c nowMs).shifted shiftMs := by
  have hcooldown := delayed_add_right nowMs c.wifiRecoveryCooldownMs shiftMs
  simp only [recordConnectivityFailure, shifted, deadlineReached_shifted, hcooldown]
  split
  · rfl
  split
  · rfl
  · rfl

theorem recoverWifi_shifted :
    (s.shifted shiftMs).recoverWifi c (nowMs + shiftMs) =
      (s.recoverWifi c nowMs).shifted shiftMs := rfl

theorem loseWifi_shifted :
    (s.shifted shiftMs).loseWifi c (nowMs + shiftMs) = (s.loseWifi c nowMs).shifted shiftMs := by
  rw [loseWifi, loseWifi]
  change (if s.state = .waitingForWifi then _ else _) = _
  split
  · rfl
  · rfl

theorem expireWifiAttempt_shifted :
    (s.shifted shiftMs).expireWifiAttempt c (nowMs + shiftMs) =
      (s.expireWifiAttempt c nowMs).shifted shiftMs := by
  rw [expireWifiAttempt, expireWifiAttempt]
  simp only [shifted, deadlineReached_shifted]
  split
  · exact scheduleWifiRetry_shifted c { s with wifiAttemptInFlight := false } nowMs shiftMs
  · rfl

theorem expireWifiConfirm_shifted :
    (s.shifted shiftMs).expireWifiConfirm c (nowMs + shiftMs) =
      (s.expireWifiConfirm c nowMs).shifted shiftMs := by
  rw [expireWifiConfirm, expireWifiConfirm]
  simp only [shifted, deadlineReached_shifted]
  split
  · exact scheduleWifiRetry_shifted c { s with wifiConfirmPending := false } nowMs shiftMs
  · rfl

theorem issueConnectWifi_shifted :
    (s.shifted shiftMs).issueConnectWifi c (nowMs + shiftMs) =
      (s.issueConnectWifi c nowMs).shifted shiftMs := by
  have hattempt := delayed_add_right nowMs c.wifiAssociationTimeoutMs shiftMs
  simp only [issueConnectWifi, shifted, hattempt]

theorem expireNtpAttempt_shifted :
    (s.shifted shiftMs).expireNtpAttempt (nowMs + shiftMs) =
      (s.expireNtpAttempt nowMs).shifted shiftMs := by
  rw [expireNtpAttempt, expireNtpAttempt]
  simp only [shifted, deadlineReached_shifted]
  split
  · rfl
  · rfl

theorem issueConfigureTime_shifted :
    (s.shifted shiftMs).issueConfigureTime c (nowMs + shiftMs) =
      (s.issueConfigureTime c nowMs).shifted shiftMs := by
  have hretry := delayed_add_right nowMs s.retryDelayMs shiftMs
  have hattempt := delayed_add_right nowMs c.ntpAttemptTimeoutMs shiftMs
  simp only [issueConfigureTime, scheduleRetry, shifted, hretry, hattempt]

theorem passTime_shifted :
    (s.shifted shiftMs).passTime c (nowMs + shiftMs) = (s.passTime c nowMs).shifted shiftMs := rfl

theorem updateWifi_shifted :
    (s.shifted shiftMs).updateWifi c (nowMs + shiftMs) =
      ((s.updateWifi c nowMs).1.shifted shiftMs, (s.updateWifi c nowMs).2) := by
  rw [updateWifi, updateWifi, loseWifi_shifted, expireWifiAttempt_shifted]
  generalize (s.loseWifi c nowMs).expireWifiAttempt c nowMs = l
  dsimp only
  rw [expireWifiConfirm_shifted]
  generalize l.expireWifiConfirm c nowMs = l'
  have hdue : deadlineReached (nowMs + shiftMs) (l'.shifted shiftMs).wifiRetryAtMs =
      deadlineReached nowMs l'.wifiRetryAtMs := deadlineReached_shifted nowMs shiftMs _
  rw [hdue]
  change (if l.wifiAttemptInFlight = true then _ else if l'.wifiConfirmPending = true then _
    else _) = _
  split
  · rfl
  split
  · rfl
  split
  · rw [issueConnectWifi_shifted]
  · rfl

theorem updateDns_shifted :
    (s.shifted shiftMs).updateDns (nowMs + shiftMs) =
      ((s.updateDns nowMs).1.shifted shiftMs, (s.updateDns nowMs).2) := by
  rw [updateDns, updateDns]
  simp only [shifted, deadlineReached_shifted]
  split
  · rfl
  · rfl

theorem updateTime_shifted :
    (s.shifted shiftMs).updateTime c (nowMs + shiftMs) =
      ((s.updateTime c nowMs).1.shifted shiftMs, (s.updateTime c nowMs).2) := by
  rw [updateTime, updateTime, expireNtpAttempt_shifted]
  generalize s.expireNtpAttempt nowMs = l
  have hdue : deadlineReached (nowMs + shiftMs) (l.shifted shiftMs).retryAtMs =
      deadlineReached nowMs l.retryAtMs := deadlineReached_shifted nowMs shiftMs _
  rw [hdue, issueConfigureTime_shifted]
  change (if l.ntpAttemptInFlight = true then _ else if (!l.actionIssued && _) = true then _
    else _) = _
  split
  · rfl
  split
  · rfl
  · rfl

theorem updateMqtt_shifted (timeValid mqttConnected : Bool) :
    (s.shifted shiftMs).updateMqtt c (nowMs + shiftMs) timeValid mqttConnected =
      ((s.updateMqtt c nowMs timeValid mqttConnected).1.shifted shiftMs,
        (s.updateMqtt c nowMs timeValid mqttConnected).2) := by
  rw [updateMqtt, updateMqtt, enter_shifted, enter_shifted]
  have hdue : deadlineReached (nowMs + shiftMs) (s.shifted shiftMs).retryAtMs =
      deadlineReached nowMs s.retryAtMs := deadlineReached_shifted nowMs shiftMs _
  rw [hdue]
  change (if (!timeValid) = true then _ else if mqttConnected = true then _
    else if (!s.actionIssued && _) = true then _ else _) = _
  split
  · rfl
  split
  · rfl
  split
  · rfl
  · rfl

theorem updateOnline_shifted (timeValid mqttConnected : Bool) :
    (s.shifted shiftMs).updateOnline c (nowMs + shiftMs) timeValid mqttConnected =
      ((s.updateOnline c nowMs timeValid mqttConnected).1.shifted shiftMs,
        (s.updateOnline c nowMs timeValid mqttConnected).2) := by
  rw [updateOnline, updateOnline, enter_shifted]
  split
  · rfl
  · rfl

theorem updateNetwork_shifted (timeValid mqttConnected : Bool) :
    (s.shifted shiftMs).updateNetwork c (nowMs + shiftMs) timeValid mqttConnected =
      ((s.updateNetwork c nowMs timeValid mqttConnected).1.shifted shiftMs,
        (s.updateNetwork c nowMs timeValid mqttConnected).2) := by
  have hstage : (s.shifted shiftMs).state = s.state := rfl
  rw [updateNetwork, updateNetwork, hstage]
  cases s.state with
  | waitingForWifi =>
    dsimp only
    rw [enter_shifted, updateDns_shifted]
  | waitingForDns => exact updateDns_shifted s nowMs shiftMs
  | waitingForTime =>
    dsimp only
    split
    · rw [passTime_shifted, updateMqtt_shifted]
    · exact updateTime_shifted c s nowMs shiftMs
  | waitingForMqtt => exact updateMqtt_shifted c s nowMs shiftMs timeValid mqttConnected
  | online => exact updateOnline_shifted c s nowMs shiftMs timeValid mqttConnected

theorem update_shifted (wifiConnected timeValid mqttConnected : Bool) :
    (s.shifted shiftMs).update c (nowMs + shiftMs) wifiConnected timeValid mqttConnected =
      ((s.update c nowMs wifiConnected timeValid mqttConnected).1.shifted shiftMs,
        (s.update c nowMs wifiConnected timeValid mqttConnected).2) := by
  rw [update, update, recoverWifi_shifted, updateNetwork_shifted]
  have hwifi := updateWifi_shifted c { s with awaitingWifiRecoveryDisconnect := false } nowMs
    shiftMs
  change (if s.wifiRecoveryRequested = true then _
    else if (s.awaitingWifiRecoveryDisconnect && wifiConnected) = true then _
    else if (!wifiConnected) = true then _ else _) = _
  split
  · rfl
  split
  · rfl
  split
  · exact hwifi
  · rfl

theorem wifiAssociationStarted_shifted :
    (s.shifted shiftMs).wifiAssociationStarted c (nowMs + shiftMs) =
      (s.wifiAssociationStarted c nowMs).shifted shiftMs := by
  have hattempt := delayed_add_right nowMs c.wifiAssociationTimeoutMs shiftMs
  simp only [wifiAssociationStarted, shifted, hattempt]
  split
  · rfl
  · rfl

theorem wifiAssociationResult_shifted (success : Bool) :
    (s.shifted shiftMs).wifiAssociationResult c (nowMs + shiftMs) success =
      (s.wifiAssociationResult c nowMs success).shifted shiftMs := by
  have hconfirm := delayed_add_right nowMs c.wifiAssociationTimeoutMs shiftMs
  have hrefused := scheduleWifiRetry_shifted c { s with wifiAttemptInFlight := false } nowMs
    shiftMs
  rw [wifiAssociationResult, wifiAssociationResult]
  change (if (decide (s.state ≠ .waitingForWifi) || !s.wifiAttemptInFlight) = true then _
    else _) = _
  split
  · rfl
  cases success with
  | true => simp only [shifted, hconfirm, if_true]
  | false => exact hrefused

theorem dnsResult_shifted (success : Bool) :
    (s.shifted shiftMs).dnsResult c (nowMs + shiftMs) success =
      (s.dnsResult c nowMs success).shifted shiftMs := by
  rw [dnsResult, dnsResult, scheduleRetry_shifted, recordConnectivityFailure_shifted,
    enter_shifted]
  change (if s.state ≠ .waitingForDns then _ else _) = _
  split
  · rfl
  split
  · rfl
  · rfl

theorem networkPreflightFailed_shifted :
    (s.shifted shiftMs).networkPreflightFailed c (nowMs + shiftMs) =
      (s.networkPreflightFailed c nowMs).shifted shiftMs := by
  rw [networkPreflightFailed, networkPreflightFailed, enter_shifted,
    recordConnectivityFailure_shifted]
  change (if s.state ≠ .waitingForMqtt then _ else _) = _
  split
  · rfl
  · rfl

theorem mqttResult_shifted (success : Bool) :
    (s.shifted shiftMs).mqttResult c (nowMs + shiftMs) success =
      (s.mqttResult c nowMs success).shifted shiftMs := by
  rw [mqttResult, mqttResult, scheduleRetry_shifted, recordConnectivityFailure_shifted,
    enter_shifted]
  change (if s.state ≠ .waitingForMqtt then _ else _) = _
  split
  · rfl
  split
  · rfl
  · rfl

end

theorem step_shifted (c : DevSmokeConfig) (shiftMs : UInt32) :
    Commutes (step c) (shifted shiftMs) (SmokeInput.later shiftMs) := by
  intro s input
  obtain ⟨call, atMs⟩ := input
  rw [step, step, SmokeInput.later]
  dsimp only
  rw [← ms32_add]
  cases call with
  | update wifiConnected timeValid mqttConnected => exact update_shifted c s _ shiftMs _ _ _
  | wifiAssociationStarted => exact congrArg (·, _) (wifiAssociationStarted_shifted c s _ shiftMs)
  | wifiAssociationResult success =>
    exact congrArg (·, _) (wifiAssociationResult_shifted c s _ shiftMs success)
  | dnsResult success => exact congrArg (·, _) (dnsResult_shifted c s _ shiftMs success)
  | networkPreflightFailed => exact congrArg (·, _) (networkPreflightFailed_shifted c s _ shiftMs)
  | mqttResult success => exact congrArg (·, _) (mqttResult_shifted c s _ shiftMs success)

/-- Wherever on the circle of the counter it takes place, a call does the same, and so does a
run. -/
theorem rollover_unobservable (c : DevSmokeConfig) (shiftMs : UInt32) :
    (∀ (s : DevMqttSmokeState) (input : SmokeInput),
      step c (s.shifted shiftMs) (input.later shiftMs) =
        ((step c s input).1.shifted shiftMs, (step c s input).2)) ∧
    ∀ (s : DevMqttSmokeState) (inputs : List SmokeInput),
      transitions (step c) (s.shifted shiftMs) (inputs.map (SmokeInput.later shiftMs)) =
        (transitions (step c) s inputs).map
          (Transition.map (shifted shiftMs) (SmokeInput.later shiftMs)) :=
  ⟨step_shifted c shiftMs, (step_shifted c shiftMs).transitions⟩

end DevMqttSmokeState
end InterBridge
