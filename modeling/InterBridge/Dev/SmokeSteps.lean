import InterBridge.Dev.MqttSmokeState

namespace InterBridge
open Foundations
set_option autoImplicit true

namespace DevMqttSmokeState

/-- The flags and the stage agree. -/
structure Consistent (s : DevMqttSmokeState) : Prop where
  confirm : s.wifiConfirmPending = true → s.state = .waitingForWifi ∧ s.wifiAttemptInFlight = false
  ntp : s.ntpAttemptInFlight = true → s.state = .waitingForTime
  time : s.state = .waitingForTime → s.actionIssued = false
  awaiting : s.awaitingWifiRecoveryDisconnect = true → s.state = .waitingForWifi
  requested : s.wifiRecoveryRequested = true → s.state ≠ .waitingForWifi

/-- Nothing is in the way of a Wi-Fi retry but its deadline: an attempt or a confirmation that was
has timed out. -/
inductive Released (c : DevSmokeConfig) (s : DevMqttSmokeState) (nowMs : UInt32) :
    DevMqttSmokeState → Prop where
  | free (attempt : s.wifiAttemptInFlight = false) (confirm : s.wifiConfirmPending = false) :
      Released c s nowMs s
  | attemptExpired (attempt : s.wifiAttemptInFlight = true) (confirm : s.wifiConfirmPending = false)
      (reached : deadlineReached nowMs s.wifiAttemptDeadlineMs = true) :
      Released c s nowMs ({ s with wifiAttemptInFlight := false }.scheduleWifiRetry c nowMs)
  | confirmExpired (attempt : s.wifiAttemptInFlight = false) (confirm : s.wifiConfirmPending = true)
      (reached : deadlineReached nowMs s.wifiConfirmDeadlineMs = true) :
      Released c s nowMs ({ s with wifiConfirmPending := false }.scheduleWifiRetry c nowMs)

/-- What `update` can do without Wi-Fi, from the state in which the loss is noticed. -/
inductive WifiStep (c : DevSmokeConfig) (s : DevMqttSmokeState) (nowMs : UInt32) :
    DevMqttSmokeState × DevSmokeAction → Prop where
  | attempting (attempt : s.wifiAttemptInFlight = true)
      (early : deadlineReached nowMs s.wifiAttemptDeadlineMs = false) :
      WifiStep c s nowMs (s, .none)
  | confirming (attempt : s.wifiAttemptInFlight = false) (confirm : s.wifiConfirmPending = true)
      (early : deadlineReached nowMs s.wifiConfirmDeadlineMs = false) :
      WifiStep c s nowMs (s, .none)
  | waiting (s' : DevMqttSmokeState) (released : Released c s nowMs s')
      (early : deadlineReached nowMs s'.wifiRetryAtMs = false) :
      WifiStep c s nowMs (s', .none)
  | connecting (s' : DevMqttSmokeState) (released : Released c s nowMs s')
      (reached : deadlineReached nowMs s'.wifiRetryAtMs = true) :
      WifiStep c s nowMs (s'.issueConnectWifi c nowMs, .connectWifi)

/-- The stage that looks after the MQTT connection, in `update` with a valid time. -/
inductive MqttStage (c : DevSmokeConfig) (s : DevMqttSmokeState) (nowMs : UInt32) :
    DevMqttSmokeState → Prop where
  | entered (stage : s.state = .waitingForTime) : MqttStage c s nowMs (s.passTime c nowMs)
  | stayed (stage : s.state = .waitingForMqtt) : MqttStage c s nowMs s

/-- What `update` can do with Wi-Fi. -/
inductive NetworkStep (c : DevSmokeConfig) (s : DevMqttSmokeState) (nowMs : UInt32)
    (timeValid mqttConnected : Bool) : DevMqttSmokeState × DevSmokeAction → Prop where
  | resolving (stage : s.state = .waitingForWifi) :
      NetworkStep c s nowMs timeValid mqttConnected
        ({ s.enter c .waitingForDns nowMs with actionIssued := true }, .resolveDns)
  | retryingDns (stage : s.state = .waitingForDns) (idle : s.actionIssued = false)
      (reached : deadlineReached nowMs s.retryAtMs = true) :
      NetworkStep c s nowMs timeValid mqttConnected ({ s with actionIssued := true }, .resolveDns)
  | waitingForDns (stage : s.state = .waitingForDns)
      (blocked : s.actionIssued = true ∨ deadlineReached nowMs s.retryAtMs = false) :
      NetworkStep c s nowMs timeValid mqttConnected (s, .none)
  | synchronizing (stage : s.state = .waitingForTime) (valid : timeValid = false)
      (attempt : s.ntpAttemptInFlight = true)
      (early : deadlineReached nowMs s.ntpAttemptDeadlineMs = false) :
      NetworkStep c s nowMs timeValid mqttConnected (s, .none)
  | waitingForTime (stage : s.state = .waitingForTime) (valid : timeValid = false)
      (expired : s.ntpAttemptInFlight = true →
        deadlineReached nowMs s.ntpAttemptDeadlineMs = true)
      (blocked : s.actionIssued = true ∨ deadlineReached nowMs s.retryAtMs = false) :
      NetworkStep c s nowMs timeValid mqttConnected ({ s with ntpAttemptInFlight := false }, .none)
  | configuringTime (stage : s.state = .waitingForTime) (valid : timeValid = false)
      (expired : s.ntpAttemptInFlight = true →
        deadlineReached nowMs s.ntpAttemptDeadlineMs = true)
      (idle : s.actionIssued = false) (reached : deadlineReached nowMs s.retryAtMs = true) :
      NetworkStep c s nowMs timeValid mqttConnected (s.issueConfigureTime c nowMs, .configureTime)
  | losingTime (stage : s.state = .waitingForMqtt) (valid : timeValid = false) :
      NetworkStep c s nowMs timeValid mqttConnected (s.enter c .waitingForTime nowMs, .none)
  | connected (s' : DevMqttSmokeState) (stage : MqttStage c s nowMs s') (valid : timeValid = true)
      (up : mqttConnected = true) :
      NetworkStep c s nowMs timeValid mqttConnected (s'.enter c .online nowMs, .none)
  | connectingMqtt (s' : DevMqttSmokeState) (stage : MqttStage c s nowMs s')
      (valid : timeValid = true) (down : mqttConnected = false) (idle : s'.actionIssued = false)
      (reached : deadlineReached nowMs s'.retryAtMs = true) :
      NetworkStep c s nowMs timeValid mqttConnected ({ s' with actionIssued := true }, .connectMqtt)
  | waitingForMqtt (stage : s.state = .waitingForMqtt) (valid : timeValid = true)
      (down : mqttConnected = false)
      (blocked : s.actionIssued = true ∨ deadlineReached nowMs s.retryAtMs = false) :
      NetworkStep c s nowMs timeValid mqttConnected (s, .none)
  | online (stage : s.state = .online) (up : mqttConnected = true) :
      NetworkStep c s nowMs timeValid mqttConnected (s, .none)
  | losingMqtt (stage : s.state = .online) (down : mqttConnected = false) :
      NetworkStep c s nowMs timeValid mqttConnected
        (s.enter c (if timeValid then .waitingForMqtt else .waitingForTime) nowMs, .none)

theorem Released.retries {s : DevMqttSmokeState} (h : Released c s nowMs s') :
    WifiStep c s nowMs (if deadlineReached nowMs s'.wifiRetryAtMs then
      (s'.issueConnectWifi c nowMs, .connectWifi) else (s', .none)) := by
  split
  next hreached => exact .connecting s' h hreached
  next hearly => exact .waiting s' h (Bool.eq_false_iff.mpr hearly)

theorem Released.clear {s : DevMqttSmokeState} (h : Released c s nowMs s') :
    s'.wifiAttemptInFlight = false ∧ s'.wifiConfirmPending = false := by
  cases h with
  | free attempt confirm => exact ⟨attempt, confirm⟩
  | attemptExpired _ confirm _ => exact ⟨rfl, confirm⟩
  | confirmExpired attempt _ _ => exact ⟨attempt, rfl⟩

theorem Released.frame {s : DevMqttSmokeState} (h : Released c s nowMs s') :
    ∃ attempt confirm retryAtMs retryDelayMs scheduled, s' =
      { s with
        wifiAttemptInFlight := attempt
        wifiConfirmPending := confirm
        wifiRetryAtMs := retryAtMs
        wifiRetryDelayMs := retryDelayMs
        wifiRetriesScheduled := scheduled } := by
  cases h with
  | free => exact ⟨_, _, _, _, _, rfl⟩
  | attemptExpired => exact ⟨_, _, _, _, _, rfl⟩
  | confirmExpired => exact ⟨_, _, _, _, _, rfl⟩

/-- Once the loss is noticed, only what belongs to the Wi-Fi attempts changes. -/
theorem WifiStep.frame {s : DevMqttSmokeState} (h : WifiStep c s nowMs result) :
    ∃ attempt deadlineMs confirm retryAtMs retryDelayMs scheduled, result.1 =
      { s with
        wifiAttemptInFlight := attempt
        wifiAttemptDeadlineMs := deadlineMs
        wifiConfirmPending := confirm
        wifiRetryAtMs := retryAtMs
        wifiRetryDelayMs := retryDelayMs
        wifiRetriesScheduled := scheduled } := by
  cases h with
  | attempting => exact ⟨_, _, _, _, _, _, rfl⟩
  | confirming => exact ⟨_, _, _, _, _, _, rfl⟩
  | waiting s' hs' =>
    obtain ⟨_, _, _, _, _, rfl⟩ := hs'.frame
    exact ⟨_, _, _, _, _, _, rfl⟩
  | connecting s' hs' =>
    obtain ⟨_, _, _, _, _, rfl⟩ := hs'.frame
    exact ⟨_, _, _, _, _, _, rfl⟩

theorem WifiStep.kept {s : DevMqttSmokeState} (h : WifiStep c s nowMs result) :
    result.1.state = s.state ∧ result.1.actionIssued = s.actionIssued ∧
      result.1.awaitingWifiRecoveryDisconnect = s.awaitingWifiRecoveryDisconnect := by
  obtain ⟨_, _, _, _, _, _, hframe⟩ := h.frame
  rw [hframe]
  exact ⟨rfl, rfl, rfl⟩

theorem WifiStep.action_ne {s : DevMqttSmokeState} (h : WifiStep c s nowMs result)
    (hnone : action ≠ .none) (hconnect : action ≠ .connectWifi) : result.2 ≠ action := by
  cases h with
  | connecting => exact hconnect.symm
  | _ => exact hnone.symm

theorem updateWifi_step {s : DevMqttSmokeState}
    (h : (s.loseWifi c nowMs).wifiConfirmPending = true →
      (s.loseWifi c nowMs).wifiAttemptInFlight = false) :
    WifiStep c (s.loseWifi c nowMs) nowMs (s.updateWifi c nowMs) := by
  rw [updateWifi]
  generalize s.loseWifi c nowMs = l at h ⊢
  dsimp only
  cases hattempt : l.wifiAttemptInFlight with
  | true =>
    have hconfirm : l.wifiConfirmPending = false := by
      by_contra hpending
      rw [Bool.not_eq_false] at hpending
      exact Bool.false_ne_true ((h hpending).symm.trans hattempt)
    cases hreached : deadlineReached nowMs l.wifiAttemptDeadlineMs with
    | false =>
      have hkept : l.expireWifiAttempt c nowMs = l := by
        rw [expireWifiAttempt, hattempt, hreached]
        rfl
      rw [hkept, if_pos hattempt]
      exact .attempting hattempt hreached
    | true =>
      have hexpired : l.expireWifiAttempt c nowMs =
          { l with wifiAttemptInFlight := false }.scheduleWifiRetry c nowMs := by
        rw [expireWifiAttempt, hattempt, hreached]
        rfl
      have hreleased := Released.attemptExpired (c := c) hattempt hconfirm hreached
      obtain ⟨hfree, hclear⟩ := hreleased.clear
      rw [hexpired, hfree, if_neg Bool.false_ne_true, expireWifiConfirm, hclear, Bool.false_and,
        if_neg Bool.false_ne_true, hclear, if_neg Bool.false_ne_true]
      exact hreleased.retries
  | false =>
    have hkept : l.expireWifiAttempt c nowMs = l := by
      rw [expireWifiAttempt, hattempt]
      rfl
    rw [hkept, hattempt, if_neg Bool.false_ne_true, expireWifiConfirm]
    cases hconfirm : l.wifiConfirmPending with
    | false =>
      rw [Bool.false_and, if_neg Bool.false_ne_true, hconfirm, if_neg Bool.false_ne_true]
      exact (Released.free hattempt hconfirm).retries
    | true =>
      cases hreached : deadlineReached nowMs l.wifiConfirmDeadlineMs with
      | false =>
        rw [Bool.true_and, if_neg Bool.false_ne_true, if_pos hconfirm]
        exact .confirming hattempt hconfirm hreached
      | true => exact (Released.confirmExpired hattempt hconfirm hreached).retries

theorem blocked_of_not {s : DevMqttSmokeState}
    (h : ¬ (!s.actionIssued && deadlineReached nowMs s.retryAtMs) = true) :
    s.actionIssued = true ∨ deadlineReached nowMs s.retryAtMs = false := by
  rw [Bool.and_eq_true, Bool.not_eq_true', not_and_or, Bool.not_eq_false, Bool.not_eq_true] at h
  exact h

theorem updateTime_step {s : DevMqttSmokeState} (hstage : s.state = .waitingForTime)
    (mqttConnected : Bool) :
    NetworkStep c s nowMs false mqttConnected (s.updateTime c nowMs) := by
  rw [updateTime]
  cases hexpired : s.ntpAttemptInFlight && deadlineReached nowMs s.ntpAttemptDeadlineMs with
  | true =>
    rw [expireNtpAttempt, if_pos hexpired]
    rw [Bool.and_eq_true] at hexpired
    simp only [Bool.false_eq_true, if_false]
    split
    next hissue =>
      rw [Bool.and_eq_true, Bool.not_eq_true'] at hissue
      exact .configuringTime hstage rfl (fun _ => hexpired.2) hissue.1 hissue.2
    next hissue => exact .waitingForTime hstage rfl (fun _ => hexpired.2) (blocked_of_not hissue)
  | false =>
    rw [expireNtpAttempt, hexpired, if_neg Bool.false_ne_true]
    cases hattempt : s.ntpAttemptInFlight with
    | true =>
      rw [hattempt, Bool.true_and] at hexpired
      rw [if_pos rfl]
      exact .synchronizing hstage rfl hattempt hexpired
    | false =>
      have hnone : s.ntpAttemptInFlight = true →
          deadlineReached nowMs s.ntpAttemptDeadlineMs = true := by
        intro htrue
        exact absurd (hattempt.symm.trans htrue) Bool.false_ne_true
      rw [if_neg Bool.false_ne_true]
      split
      next hissue =>
        rw [Bool.and_eq_true, Bool.not_eq_true'] at hissue
        exact .configuringTime hstage rfl hnone hissue.1 hissue.2
      next hissue =>
        have hsame : { s with ntpAttemptInFlight := false } = s := by rw [← hattempt]
        have hwaiting : NetworkStep c s nowMs false mqttConnected _ :=
          .waitingForTime hstage rfl hnone (blocked_of_not hissue)
        rw [hsame] at hwaiting
        exact hwaiting

theorem updateMqtt_step {s : DevMqttSmokeState} (hstage : MqttStage c s nowMs s')
    (mqttConnected : Bool) :
    NetworkStep c s nowMs true mqttConnected (s'.updateMqtt c nowMs true mqttConnected) := by
  rw [updateMqtt, Bool.not_true, if_neg Bool.false_ne_true]
  cases hup : mqttConnected with
  | true => exact .connected s' hstage rfl rfl
  | false =>
    rw [if_neg Bool.false_ne_true]
    split
    next hissue =>
      rw [Bool.and_eq_true, Bool.not_eq_true'] at hissue
      exact .connectingMqtt s' hstage rfl rfl hissue.1 hissue.2
    next hissue =>
      cases hstage with
      | entered hstage =>
        -- the stage is entered with its retry due
        have hdue : (!(s.passTime c nowMs).actionIssued &&
            deadlineReached nowMs (s.passTime c nowMs).retryAtMs) = true :=
          reachedSigned_self nowMs
        exact absurd hdue hissue
      | stayed hstage => exact .waitingForMqtt hstage rfl rfl (blocked_of_not hissue)

theorem updateNetwork_step (s : DevMqttSmokeState) (timeValid mqttConnected : Bool) :
    NetworkStep c s nowMs timeValid mqttConnected
      (s.updateNetwork c nowMs timeValid mqttConnected) := by
  rw [updateNetwork]
  split
  next hstage =>
    rw [updateDns, if_pos (show (!(s.enter c .waitingForDns nowMs).actionIssued &&
      deadlineReached nowMs (s.enter c .waitingForDns nowMs).retryAtMs) = true from
        reachedSigned_self nowMs)]
    exact .resolving hstage
  next hstage =>
    rw [updateDns]
    split
    next hissue =>
      rw [Bool.and_eq_true, Bool.not_eq_true'] at hissue
      exact .retryingDns hstage hissue.1 hissue.2
    next hissue => exact .waitingForDns hstage (blocked_of_not hissue)
  next hstage =>
    cases timeValid with
    | true =>
      rw [if_pos rfl]
      exact updateMqtt_step (.entered hstage) mqttConnected
    | false =>
      rw [if_neg Bool.false_ne_true]
      exact updateTime_step hstage mqttConnected
  next hstage =>
    cases timeValid with
    | true => exact updateMqtt_step (.stayed hstage) mqttConnected
    | false => exact .losingTime hstage rfl
  next hstage =>
    rw [updateOnline]
    cases mqttConnected with
    | true => exact .online hstage rfl
    | false => exact .losingMqtt hstage rfl

/-- The state in which `update` has noticed that Wi-Fi is down. -/
def noticeLoss (c : DevSmokeConfig) (s : DevMqttSmokeState) (nowMs : UInt32) : DevMqttSmokeState :=
  { s with awaitingWifiRecoveryDisconnect := false }.loseWifi c nowMs

/-- What `update` can do. -/
inductive UpdateStep (c : DevSmokeConfig) (s : DevMqttSmokeState) (nowMs : UInt32)
    (wifiConnected timeValid mqttConnected : Bool) :
    DevMqttSmokeState × DevSmokeAction → Prop where
  | recovering (requested : s.wifiRecoveryRequested = true) :
      UpdateStep c s nowMs wifiConnected timeValid mqttConnected
        (s.recoverWifi c nowMs, .recoverWifi)
  | awaiting (requested : s.wifiRecoveryRequested = false)
      (awaiting : s.awaitingWifiRecoveryDisconnect = true) (up : wifiConnected = true) :
      UpdateStep c s nowMs wifiConnected timeValid mqttConnected (s, .none)
  | offline (result : DevMqttSmokeState × DevSmokeAction)
      (requested : s.wifiRecoveryRequested = false) (down : wifiConnected = false)
      (step : WifiStep c (s.noticeLoss c nowMs) nowMs result) :
      UpdateStep c s nowMs wifiConnected timeValid mqttConnected result
  | online (result : DevMqttSmokeState × DevSmokeAction)
      (requested : s.wifiRecoveryRequested = false)
      (awaiting : s.awaitingWifiRecoveryDisconnect = false) (up : wifiConnected = true)
      (step : NetworkStep c s nowMs timeValid mqttConnected result) :
      UpdateStep c s nowMs wifiConnected timeValid mqttConnected result

/-- What the report of a result can do where it is waited for. -/
inductive ReportStep (c : DevSmokeConfig) (s : DevMqttSmokeState) :
    SmokeInput → DevMqttSmokeState × DevSmokeAction → Prop where
  | resolved (stage : s.state = .waitingForDns) :
      ReportStep c s ⟨.dnsResult true, atMs⟩ (s.enter c .waitingForTime (ms32 atMs), .none)
  | unresolved (stage : s.state = .waitingForDns) :
      ReportStep c s ⟨.dnsResult false, atMs⟩
        ((s.scheduleRetry c (ms32 atMs)).recordConnectivityFailure c (ms32 atMs), .none)
  | preflightFailed (stage : s.state = .waitingForMqtt) :
      ReportStep c s ⟨.networkPreflightFailed, atMs⟩
        ((s.enter c .waitingForDns (ms32 atMs)).recordConnectivityFailure c (ms32 atMs), .none)
  | mqttUp (stage : s.state = .waitingForMqtt) :
      ReportStep c s ⟨.mqttResult true, atMs⟩
        ({ s.enter c .online (ms32 atMs) with
            consecutiveConnectivityFailures := 0
            wifiRecoveryCooldownActive := false
            wifiRecoveryRequested := false
            awaitingWifiRecoveryDisconnect := false
            wifiRetryDelayMs := c.initialRetryMs }, .none)
  | mqttDown (stage : s.state = .waitingForMqtt) :
      ReportStep c s ⟨.mqttResult false, atMs⟩
        ((s.scheduleRetry c (ms32 atMs)).recordConnectivityFailure c (ms32 atMs), .none)

/-- What a call can do. -/
inductive SmokeStep (c : DevSmokeConfig) (s : DevMqttSmokeState) :
    SmokeInput → DevMqttSmokeState × DevSmokeAction → Prop where
  | updated (result : DevMqttSmokeState × DevSmokeAction)
      (step : UpdateStep c s (ms32 atMs) wifiConnected timeValid mqttConnected result) :
      SmokeStep c s ⟨.update wifiConnected timeValid mqttConnected, atMs⟩ result
  | ignored (refuses : ¬ s.Accepts call) : SmokeStep c s ⟨call, atMs⟩ (s, .none)
  | started (attempt : s.wifiAttemptInFlight = true) :
      SmokeStep c s ⟨.wifiAssociationStarted, atMs⟩
        ({ s with wifiAttemptDeadlineMs := ms32 atMs + c.wifiAssociationTimeoutMs }, .none)
  | associated (stage : s.state = .waitingForWifi) (attempt : s.wifiAttemptInFlight = true) :
      SmokeStep c s ⟨.wifiAssociationResult true, atMs⟩
        ({ s with
            wifiAttemptInFlight := false
            wifiConfirmPending := true
            wifiConfirmDeadlineMs := ms32 atMs + c.wifiAssociationTimeoutMs }, .none)
  | refused (stage : s.state = .waitingForWifi) (attempt : s.wifiAttemptInFlight = true) :
      SmokeStep c s ⟨.wifiAssociationResult false, atMs⟩
        ({ s with wifiAttemptInFlight := false }.scheduleWifiRetry c (ms32 atMs), .none)
  | reported (result : DevMqttSmokeState × DevSmokeAction) (step : ReportStep c s input result) :
      SmokeStep c s input result

theorem noticeLoss_cases (c : DevSmokeConfig) (s : DevMqttSmokeState) (nowMs : UInt32) :
    (s.state = .waitingForWifi ∧
        s.noticeLoss c nowMs = { s with awaitingWifiRecoveryDisconnect := false }) ∨
      (s.state ≠ .waitingForWifi ∧ s.noticeLoss c nowMs =
        { s.enter c .waitingForWifi nowMs with
          ntpAttemptInFlight := false
          wifiAttemptInFlight := false
          wifiRetryAtMs := nowMs
          awaitingWifiRecoveryDisconnect := false }) := by
  rw [noticeLoss, loseWifi]
  split
  next hstage => exact .inl ⟨hstage, rfl⟩
  next hstage => exact .inr ⟨hstage, rfl⟩

theorem noticeLoss_state (c : DevSmokeConfig) (s : DevMqttSmokeState) (nowMs : UInt32) :
    (s.noticeLoss c nowMs).state = .waitingForWifi := by
  rcases s.noticeLoss_cases c nowMs with ⟨hstage, hloss⟩ | ⟨_, hloss⟩
  · rw [hloss]
    exact hstage
  · rw [hloss]
    rfl

/-- A failure that is recorded changes the counter and what it escalates to, and nothing else. -/
theorem recordConnectivityFailure_kept (c : DevSmokeConfig) (s : DevMqttSmokeState)
    (nowMs : UInt32) :
    ∃ failures active until_ requested, s.recordConnectivityFailure c nowMs =
      { s with
        consecutiveConnectivityFailures := failures
        wifiRecoveryCooldownActive := active
        wifiRecoveryCooldownUntilMs := until_
        wifiRecoveryRequested := requested } := by
  rw [recordConnectivityFailure]
  dsimp only
  split
  · exact ⟨_, _, _, _, rfl⟩
  split
  · exact ⟨_, _, _, _, rfl⟩
  · exact ⟨_, _, _, _, rfl⟩

theorem ReportStep.not_wifi {s : DevMqttSmokeState} (h : ReportStep c s input result) :
    s.state ≠ .waitingForWifi := by
  intro hwifi
  cases h with
  | resolved hstage => cases hstage.symm.trans hwifi
  | unresolved hstage => cases hstage.symm.trans hwifi
  | preflightFailed hstage => cases hstage.symm.trans hwifi
  | mqttUp hstage => cases hstage.symm.trans hwifi
  | mqttDown hstage => cases hstage.symm.trans hwifi

theorem ReportStep.not_time {s : DevMqttSmokeState} (h : ReportStep c s input result) :
    s.state ≠ .waitingForTime := by
  intro htime
  cases h with
  | resolved hstage => cases hstage.symm.trans htime
  | unresolved hstage => cases hstage.symm.trans htime
  | preflightFailed hstage => cases hstage.symm.trans htime
  | mqttUp hstage => cases hstage.symm.trans htime
  | mqttDown hstage => cases hstage.symm.trans htime

theorem ReportStep.kept {s : DevMqttSmokeState} (h : ReportStep c s input result) :
    result.1.actionIssued = false ∧ result.2 = .none ∧
      result.1.wifiConfirmDeadlineMs = s.wifiConfirmDeadlineMs ∧
      result.1.wifiRetryAtMs = s.wifiRetryAtMs := by
  have hfailed (s' : DevMqttSmokeState) (nowMs : UInt32) (hissued : s'.actionIssued = false)
      (hconfirm : s'.wifiConfirmDeadlineMs = s.wifiConfirmDeadlineMs)
      (hretry : s'.wifiRetryAtMs = s.wifiRetryAtMs) :
      (s'.recordConnectivityFailure c nowMs).actionIssued = false ∧
        DevSmokeAction.none = .none ∧
        (s'.recordConnectivityFailure c nowMs).wifiConfirmDeadlineMs = s.wifiConfirmDeadlineMs ∧
        (s'.recordConnectivityFailure c nowMs).wifiRetryAtMs = s.wifiRetryAtMs := by
    obtain ⟨_, _, _, _, hkept⟩ := s'.recordConnectivityFailure_kept c nowMs
    rw [hkept]
    exact ⟨hissued, rfl, hconfirm, hretry⟩
  cases h with
  | resolved => exact ⟨rfl, rfl, rfl, rfl⟩
  | unresolved => exact hfailed _ _ rfl rfl rfl
  | preflightFailed => exact hfailed _ _ rfl rfl rfl
  | mqttUp => exact ⟨rfl, rfl, rfl, rfl⟩
  | mqttDown => exact hfailed _ _ rfl rfl rfl

theorem Consistent.noticeLoss {s : DevMqttSmokeState} (h : s.Consistent) (c : DevSmokeConfig)
    (nowMs : UInt32) (hconfirm : (s.noticeLoss c nowMs).wifiConfirmPending = true) :
    (s.noticeLoss c nowMs).wifiAttemptInFlight = false := by
  rcases s.noticeLoss_cases c nowMs with ⟨_, hloss⟩ | ⟨_, hloss⟩
  · rw [hloss] at hconfirm ⊢
    exact (h.confirm hconfirm).2
  · rw [hloss]

theorem Consistent.update_step {s : DevMqttSmokeState} (h : s.Consistent)
    (wifiConnected timeValid mqttConnected : Bool) :
    UpdateStep c s nowMs wifiConnected timeValid mqttConnected
      (s.update c nowMs wifiConnected timeValid mqttConnected) := by
  rw [update]
  by_cases hrequested : s.wifiRecoveryRequested = true
  · rw [if_pos hrequested]
    exact .recovering hrequested
  · rw [if_neg hrequested]
    rw [Bool.not_eq_true] at hrequested
    cases wifiConnected with
    | true =>
      rw [Bool.and_true]
      by_cases hawaiting : s.awaitingWifiRecoveryDisconnect = true
      · rw [if_pos hawaiting]
        exact .awaiting hrequested hawaiting rfl
      · rw [if_neg hawaiting]
        rw [Bool.not_eq_true] at hawaiting
        exact .online _ hrequested hawaiting rfl (s.updateNetwork_step _ _)
    | false =>
      rw [Bool.and_false, if_neg Bool.false_ne_true, Bool.not_false, if_pos rfl]
      exact .offline _ hrequested rfl (@updateWifi_step c nowMs
        { s with awaitingWifiRecoveryDisconnect := false } (h.noticeLoss c nowMs))

theorem step_ignored {s : DevMqttSmokeState} (h : ¬ s.Accepts call) (c : DevSmokeConfig)
    (atMs : Nat) : s.step c ⟨call, atMs⟩ = (s, .none) := by
  cases call with
  | update wifiConnected timeValid mqttConnected => exact absurd trivial h
  | wifiAssociationStarted =>
    have hidle : (!s.wifiAttemptInFlight) = true := by
      rw [Bool.not_eq_true', ← Bool.not_eq_true]
      exact h
    exact congrArg (·, DevSmokeAction.none) (if_pos hidle)
  | wifiAssociationResult success =>
    have hrefuses : (decide (s.state ≠ .waitingForWifi) || !s.wifiAttemptInFlight) = true := by
      rw [Bool.or_eq_true, decide_eq_true_iff, Bool.not_eq_true', ← Bool.not_eq_true]
      exact not_and_or.mp h
    exact congrArg (·, DevSmokeAction.none) (if_pos hrefuses)
  | dnsResult success => exact congrArg (·, DevSmokeAction.none) (if_pos h)
  | networkPreflightFailed => exact congrArg (·, DevSmokeAction.none) (if_pos h)
  | mqttResult success => exact congrArg (·, DevSmokeAction.none) (if_pos h)

theorem Consistent.smokeStep {s : DevMqttSmokeState} (h : s.Consistent) (c : DevSmokeConfig)
    (input : SmokeInput) : SmokeStep c s input (s.step c input) := by
  obtain ⟨call, atMs⟩ := input
  by_cases haccepts : s.Accepts call
  · cases call with
    | update wifiConnected timeValid mqttConnected => exact .updated _ (h.update_step _ _ _)
    | wifiAssociationStarted =>
      have hattempt : ¬ (!s.wifiAttemptInFlight) = true := by
        rw [haccepts]
        exact Bool.false_ne_true
      rw [step, wifiAssociationStarted]
      dsimp only
      rw [if_neg hattempt]
      exact .started haccepts
    | wifiAssociationResult success =>
      have hcurrent : ¬ (decide (s.state ≠ .waitingForWifi) || !s.wifiAttemptInFlight) = true := by
        rw [haccepts.1, haccepts.2]
        exact Bool.false_ne_true
      rw [step]
      dsimp only
      rw [wifiAssociationResult, if_neg hcurrent]
      cases success with
      | true => exact .associated haccepts.1 haccepts.2
      | false => exact .refused haccepts.1 haccepts.2
    | dnsResult success =>
      have hstage : s.state = .waitingForDns := haccepts
      rw [step]
      dsimp only
      rw [dnsResult, if_neg (not_not.mpr hstage)]
      cases success with
      | true => exact .reported _ (.resolved haccepts)
      | false => exact .reported _ (.unresolved haccepts)
    | networkPreflightFailed =>
      have hstage : s.state = .waitingForMqtt := haccepts
      rw [step]
      dsimp only
      rw [networkPreflightFailed, if_neg (not_not.mpr hstage)]
      exact .reported _ (.preflightFailed haccepts)
    | mqttResult success =>
      have hstage : s.state = .waitingForMqtt := haccepts
      rw [step]
      dsimp only
      rw [mqttResult, if_neg (not_not.mpr hstage)]
      cases success with
      | true => exact .reported _ (.mqttUp haccepts)
      | false => exact .reported _ (.mqttDown haccepts)
  · rw [step_ignored haccepts]
    exact .ignored haccepts

theorem Consistent.samples_step {s : DevMqttSmokeState} (h : s.Consistent)
    (hsamples : SmokeInput.Samples input wifiConnected) (c : DevSmokeConfig) :
    ∃ timeValid mqttConnected, UpdateStep c s (ms32 input.atMs) wifiConnected timeValid
      mqttConnected (s.step c input) := by
  obtain ⟨call, atMs⟩ := input
  obtain ⟨timeValid, mqttConnected, hcall⟩ := hsamples
  change call = _ at hcall
  subst hcall
  exact ⟨timeValid, mqttConnected, h.update_step _ _ _⟩

/-- Only an `update` returns an action. -/
theorem Consistent.acts {s : DevMqttSmokeState} (h : s.Consistent) {input : SmokeInput}
    (haction : (s.step c input).2 ≠ .none) :
    ∃ wifiConnected timeValid mqttConnected,
      input.call = .update wifiConnected timeValid mqttConnected ∧
      UpdateStep c s (ms32 input.atMs) wifiConnected timeValid mqttConnected (s.step c input) := by
  have hstep := h.smokeStep c input
  generalize s.step c input = result at hstep haction
  cases hstep with
  | updated _ hstep => exact ⟨_, _, _, rfl, hstep⟩
  | reported _ hstep => exact absurd hstep.kept.2.1 haction
  | _ => exact absurd rfl haction

theorem Consistent.enter {s : DevMqttSmokeState} {stage : DevSmokeState}
    (hntp : s.ntpAttemptInFlight = true → stage = .waitingForTime)
    (hawaiting : s.awaitingWifiRecoveryDisconnect = true → stage = .waitingForWifi)
    (hrequested : s.wifiRecoveryRequested = true → stage ≠ .waitingForWifi) (c : DevSmokeConfig)
    (nowMs : UInt32) : (s.enter c stage nowMs).Consistent :=
  ⟨nofun, hntp, fun _ => rfl, hawaiting, hrequested⟩

theorem Consistent.failed {s : DevMqttSmokeState} (h : s.Consistent)
    (hstage : s.state ≠ .waitingForWifi) (c : DevSmokeConfig) (nowMs : UInt32) :
    (s.recordConnectivityFailure c nowMs).Consistent := by
  obtain ⟨_, _, _, _, hkept⟩ := s.recordConnectivityFailure_kept c nowMs
  rw [hkept]
  exact ⟨h.confirm, h.ntp, h.time, h.awaiting, fun _ => hstage⟩

theorem Consistent.scheduleRetry {s : DevMqttSmokeState} (h : s.Consistent) (c : DevSmokeConfig)
    (nowMs : UInt32) : (s.scheduleRetry c nowMs).Consistent :=
  ⟨h.confirm, h.ntp, fun _ => rfl, h.awaiting, h.requested⟩

theorem Consistent.wifiStep {s : DevMqttSmokeState} (h : s.Consistent)
    (hrequested : s.wifiRecoveryRequested = false) (hstep : WifiStep c (s.noticeLoss c nowMs) nowMs
      result) : result.1.Consistent := by
  have hloss : (s.noticeLoss c nowMs).Consistent ∧
      (s.noticeLoss c nowMs).wifiRecoveryRequested = false := by
    rcases s.noticeLoss_cases c nowMs with ⟨_, hloss⟩ | ⟨_, hloss⟩
    · rw [hloss]
      exact ⟨⟨h.confirm, h.ntp, h.time, nofun, h.requested⟩, hrequested⟩
    · rw [hloss]
      refine ⟨⟨nofun, nofun, fun _ => rfl, nofun, ?_⟩, hrequested⟩
      intro htrue
      exact absurd (hrequested.symm.trans htrue) Bool.false_ne_true
  obtain ⟨hloss, hrequested⟩ := hloss
  generalize s.noticeLoss c nowMs = l at hstep hloss hrequested
  have hreleased (l' : DevMqttSmokeState) (hl' : Released c l nowMs l') : l'.Consistent := by
    cases hl' with
    | free => exact hloss
    | attemptExpired _ hconfirm _ =>
      exact ⟨fun hpending => absurd (hconfirm.symm.trans hpending) Bool.false_ne_true, hloss.ntp,
        hloss.time, hloss.awaiting, hloss.requested⟩
    | confirmExpired =>
      exact ⟨nofun, hloss.ntp, hloss.time, hloss.awaiting, hloss.requested⟩
  cases hstep with
  | attempting => exact hloss
  | confirming => exact hloss
  | waiting l' hl' _ => exact hreleased l' hl'
  | connecting l' hl' _ =>
    have hl := hreleased l' hl'
    exact ⟨fun hpending => absurd (hl'.clear.2.symm.trans hpending) Bool.false_ne_true, hl.ntp,
      hl.time, hl.awaiting, hl.requested⟩

theorem Consistent.networkStep {s : DevMqttSmokeState} (h : s.Consistent)
    (hrequested : s.wifiRecoveryRequested = false)
    (hawaiting : s.awaitingWifiRecoveryDisconnect = false)
    (hstep : NetworkStep c s nowMs timeValid mqttConnected result) : result.1.Consistent := by
  have hnotRequested {p : Prop} : s.wifiRecoveryRequested = true → p := by
    intro htrue
    exact absurd (hrequested.symm.trans htrue) Bool.false_ne_true
  have hnotAwaiting {p : Prop} : s.awaitingWifiRecoveryDisconnect = true → p := by
    intro htrue
    exact absurd (hawaiting.symm.trans htrue) Bool.false_ne_true
  have hntp {stage : DevSmokeState} (hstage : s.state ≠ .waitingForTime) :
      s.ntpAttemptInFlight = true → stage = .waitingForTime := by
    intro htrue
    exact absurd (h.ntp htrue) hstage
  have hentered (s' : DevMqttSmokeState) (hs' : MqttStage c s nowMs s') :
      s'.Consistent ∧ s'.state = .waitingForMqtt ∧ s'.ntpAttemptInFlight = false ∧
        s'.awaitingWifiRecoveryDisconnect = false ∧ s'.wifiRecoveryRequested = false := by
    cases hs' with
    | entered hstage =>
      exact ⟨@Consistent.enter { s with ntpAttemptInFlight := false } .waitingForMqtt nofun
        hnotAwaiting hnotRequested c nowMs, rfl, rfl, hawaiting, hrequested⟩
    | stayed hstage =>
      refine ⟨h, hstage, ?_, hawaiting, hrequested⟩
      rw [← Bool.not_eq_true]
      intro htrue
      cases (h.ntp htrue).symm.trans hstage
  cases hstep with
  | resolving hstage =>
    refine ⟨nofun, hntp ?_, ?_, hnotAwaiting, hnotRequested⟩
    · rw [hstage]
      decide
    · intro htime
      cases htime
  | retryingDns hstage =>
    refine ⟨h.confirm, h.ntp, ?_, h.awaiting, h.requested⟩
    intro htime
    cases hstage.symm.trans htime
  | waitingForDns => exact h
  | synchronizing => exact h
  | waitingForTime =>
    exact ⟨h.confirm, nofun, h.time, h.awaiting, h.requested⟩
  | configuringTime hstage =>
    exact ⟨h.confirm, fun _ => hstage, fun _ => rfl, h.awaiting, h.requested⟩
  | losingTime => exact .enter (fun _ => rfl) hnotAwaiting hnotRequested c nowMs
  | connected s' hs' =>
    obtain ⟨h', hstage, hntp, hawaiting, hrequested⟩ := hentered s' hs'
    apply Consistent.enter
    · intro htrue
      exact absurd (hntp.symm.trans htrue) Bool.false_ne_true
    · intro htrue
      exact absurd (hawaiting.symm.trans htrue) Bool.false_ne_true
    · intro htrue
      exact absurd (hrequested.symm.trans htrue) Bool.false_ne_true
  | connectingMqtt s' hs' =>
    obtain ⟨h', hstage, _, _, _⟩ := hentered s' hs'
    refine ⟨h'.confirm, h'.ntp, ?_, h'.awaiting, h'.requested⟩
    intro htime
    cases hstage.symm.trans htime
  | waitingForMqtt => exact h
  | online => exact h
  | losingMqtt hstage =>
    apply Consistent.enter (hntp ?_) hnotAwaiting hnotRequested
    rw [hstage]
    decide

theorem Consistent.reportStep {s : DevMqttSmokeState} (h : s.Consistent)
    (hstep : ReportStep c s input result) : result.1.Consistent := by
  have hwifi := hstep.not_wifi
  have hntp {stage : DevSmokeState} :
      s.ntpAttemptInFlight = true → stage = .waitingForTime := by
    intro htrue
    exact absurd (h.ntp htrue) hstep.not_time
  have hawaiting {stage : DevSmokeState} :
      s.awaitingWifiRecoveryDisconnect = true → stage = .waitingForWifi := by
    intro htrue
    exact absurd (h.awaiting htrue) hwifi
  cases hstep with
  | resolved => exact .enter (fun _ => rfl) hawaiting (fun _ => DevSmokeState.noConfusion) c _
  | unresolved => exact (h.scheduleRetry c _).failed hwifi c _
  | preflightFailed =>
    apply Consistent.failed
    · exact .enter hntp hawaiting (fun _ => DevSmokeState.noConfusion) c _
    · exact DevSmokeState.noConfusion
  | mqttUp => exact ⟨nofun, hntp, fun _ => rfl, nofun, nofun⟩
  | mqttDown => exact (h.scheduleRetry c _).failed hwifi c _

theorem Consistent.next {s : DevMqttSmokeState} (h : s.Consistent) (c : DevSmokeConfig)
    (input : SmokeInput) : (s.step c input).1.Consistent := by
  have hstep := h.smokeStep c input
  generalize s.step c input = result at hstep
  cases hstep with
  | updated _ hstep =>
    cases hstep with
    | recovering => exact ⟨nofun, nofun, fun _ => rfl, fun _ => rfl, nofun⟩
    | awaiting => exact h
    | offline _ hrequested _ hstep => exact h.wifiStep hrequested hstep
    | online _ hrequested hawaiting _ hstep => exact h.networkStep hrequested hawaiting hstep
  | ignored => exact h
  | started => exact ⟨h.confirm, h.ntp, h.time, h.awaiting, h.requested⟩
  | associated hstage => exact ⟨fun _ => ⟨hstage, rfl⟩, h.ntp, h.time, h.awaiting, h.requested⟩
  | refused =>
    exact ⟨fun hpending => ⟨(h.confirm hpending).1, rfl⟩, h.ntp, h.time, h.awaiting, h.requested⟩
  | reported _ hstep => exact h.reportStep hstep

theorem Consistent.run {s : DevMqttSmokeState} (h : s.Consistent) (c : DevSmokeConfig)
    (inputs : List SmokeInput) : (finalState (step c) s inputs).Consistent := by
  induction inputs generalizing s with
  | nil => exact h
  | cons input inputs ih => exact ih (h.next c input)

theorem consistent_run (c : DevSmokeConfig) (inputs : List SmokeInput) :
    (finalState (step c) (constructed c) inputs).Consistent := by
  apply Consistent.run
  exact ⟨nofun, nofun, fun _ => rfl, nofun, nofun⟩

end DevMqttSmokeState
end InterBridge
