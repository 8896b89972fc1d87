import InterBridge.Dev.SmokeAttempts
import InterBridge.Foundations.History

namespace InterBridge
open Foundations
set_option autoImplicit true

namespace DevMqttSmokeState

/-- A failure recorded now gets past both returns of `recordConnectivityFailure`. -/
def authorises (c : DevSmokeConfig) (s : DevMqttSmokeState) (nowMs : UInt32) : Bool :=
  !(s.consecutiveConnectivityFailures + 1 < c.wifiRecoveryThreshold) &&
    !(s.wifiRecoveryCooldownActive && !deadlineReached nowMs s.wifiRecoveryCooldownUntilMs)

def reportsFailure : SmokeCall → Bool
  | .dnsResult false | .networkPreflightFailed | .mqttResult false => true
  | _ => false

/-- The call records a connectivity failure. -/
def CountedFailure (u : SmokeTransition) : Prop :=
  reportsFailure u.input.call = true ∧ u.before.Accepts u.input.call

/-- The failure it records authorises a recovery. The counter and the cooldown are as they were
before the call when `recordConnectivityFailure` comes to it. -/
def Authorises (c : DevSmokeConfig) (u : SmokeTransition) : Prop :=
  CountedFailure u ∧ u.before.authorises c (ms32 u.input.atMs) = true

instance : DecidablePred CountedFailure := fun _ => inferInstanceAs (Decidable (_ ∧ _))

/-- The count of failures, `n` before the call: it begins again where a full connection is
reported, and where it reaches the threshold. -/
def countAfter (threshold n : Nat) (u : SmokeTransition) : Nat :=
  if ReportsOnline u then 0
  else if CountedFailure u then if n + 1 = threshold then 0 else n + 1
  else n

def failureCount (threshold : Nat) (ts : List SmokeTransition) : Nat :=
  ts.foldl (countAfter threshold) 0

def IsUpdate (u : SmokeTransition) : Prop := ∃ wifiConnected, u.input.Samples wifiConnected

/-- A recovery is authorised that neither an `update` has answered nor a full connection has
cancelled. -/
def RecoveryPending (c : DevSmokeConfig) (ts : List SmokeTransition) : Prop :=
  Since (fun w => ¬ IsUpdate w ∧ ¬ ReportsOnline w) (Authorises c) ts

/-- Recoveries are authorised by the failures that should, and each is carried out once. -/
structure RecoveryExact (c : DevSmokeConfig) (ts : List SmokeTransition) : Prop where
  authorised : ∀ earlier u later, ts = earlier ++ u :: later → CountedFailure u →
    (Authorises c u ↔
      failureCount c.wifiRecoveryThreshold.toNat earlier + 1 = c.wifiRecoveryThreshold.toNat ∧
      ∀ before v between, earlier = before ++ v :: between → Authorises c v →
        (∀ w ∈ between, ¬ ReportsOnline w) →
        v.input.atMs + c.wifiRecoveryCooldownMs.toNat ≤ u.input.atMs)
  recovers : ∀ earlier u later, ts = earlier ++ u :: later →
    (u.output = .recoverWifi ↔ IsUpdate u ∧ RecoveryPending c earlier)
  answered : ∀ earlier r between u later, ts = earlier ++ r :: (between ++ u :: later) →
    r.output = .recoverWifi → u.output = .recoverWifi → ∃ v ∈ between, Authorises c v
  cancelled : ∀ earlier r between u later, ts = earlier ++ r :: (between ++ u :: later) →
    ReportsOnline r → u.output = .recoverWifi →
    c.wifiRecoveryThreshold.toNat ≤ between.countP (fun v => CountedFailure v)

/-- Every counted failure comes less than half the counter's range after the last authorisation. -/
def SoonAfterAuthorisation (c : DevSmokeConfig) (ts : List SmokeTransition) : Prop :=
  ∀ earlier v between u later, ts = earlier ++ v :: (between ++ u :: later) →
    Authorises c v → (∀ w ∈ between, ¬ Authorises c w) → CountedFailure u →
    u.input.atMs < v.input.atMs + 2 ^ 31

/-- What recording a failure makes of the counter and of what it escalates to. -/
structure CountsFailure (c : DevSmokeConfig) (s : DevMqttSmokeState) (nowMs : UInt32)
    (s' : DevMqttSmokeState) : Prop where
  failures : s'.consecutiveConnectivityFailures =
    if s.consecutiveConnectivityFailures + 1 < c.wifiRecoveryThreshold then
      s.consecutiveConnectivityFailures + 1
    else 0
  coolingDown :
    s'.wifiRecoveryCooldownActive = (s.wifiRecoveryCooldownActive || s.authorises c nowMs)
  cooldown : s'.wifiRecoveryCooldownUntilMs =
    if s.authorises c nowMs then nowMs + c.wifiRecoveryCooldownMs
    else s.wifiRecoveryCooldownUntilMs
  requested : s'.wifiRecoveryRequested = (s.wifiRecoveryRequested || s.authorises c nowMs)

/-- The counter and the cooldown are the same. -/
structure SameCount (s s' : DevMqttSmokeState) : Prop where
  failures : s'.consecutiveConnectivityFailures = s.consecutiveConnectivityFailures
  coolingDown : s'.wifiRecoveryCooldownActive = s.wifiRecoveryCooldownActive
  cooldown : s'.wifiRecoveryCooldownUntilMs = s.wifiRecoveryCooldownUntilMs

/-- What a call can do to the counter and to what it escalates to. -/
inductive LadderStep (c : DevSmokeConfig) (u : SmokeTransition) : Prop where
  | failed (failure : CountedFailure u) (silent : u.output = .none)
      (counts : CountsFailure c u.before (ms32 u.input.atMs) u.after)
  | online (reports : ReportsOnline u) (silent : u.output = .none)
      (failures : u.after.consecutiveConnectivityFailures = 0)
      (coolingDown : u.after.wifiRecoveryCooldownActive = false)
      (requested : u.after.wifiRecoveryRequested = false)
  | updated (update : IsUpdate u)
      (recovers : u.output = .recoverWifi ↔ u.before.wifiRecoveryRequested = true)
      (kept : SameCount u.before u.after) (requested : u.after.wifiRecoveryRequested = false)
  | other (failure : ¬ CountedFailure u) (online : ¬ ReportsOnline u) (update : ¬ IsUpdate u)
      (silent : u.output = .none) (kept : SameCount u.before u.after)
      (requested : u.after.wifiRecoveryRequested = u.before.wifiRecoveryRequested)

theorem recordConnectivityFailure_counts (c : DevSmokeConfig) (s : DevMqttSmokeState)
    (nowMs : UInt32) : CountsFailure c s nowMs (s.recordConnectivityFailure c nowMs) := by
  by_cases hbelow : s.consecutiveConnectivityFailures + 1 < c.wifiRecoveryThreshold
  · have hrefused : s.authorises c nowMs = false := by
      rw [authorises, decide_eq_true hbelow]
      rfl
    rw [recordConnectivityFailure]
    dsimp only
    rw [if_pos hbelow]
    constructor
    · exact (if_pos hbelow).symm
    · rw [hrefused, Bool.or_false]
    · rw [hrefused, if_neg Bool.false_ne_true]
    · rw [hrefused, Bool.or_false]
  · have hauthorises : s.authorises c nowMs = !(s.wifiRecoveryCooldownActive &&
        !deadlineReached nowMs s.wifiRecoveryCooldownUntilMs) := by
      rw [authorises, decide_eq_false hbelow]
      rfl
    rw [recordConnectivityFailure]
    dsimp only
    rw [if_neg hbelow]
    cases hcooling :
        s.wifiRecoveryCooldownActive && !deadlineReached nowMs s.wifiRecoveryCooldownUntilMs with
    | true =>
      rw [hcooling, Bool.not_true] at hauthorises
      rw [if_pos rfl]
      constructor
      · exact (if_neg hbelow).symm
      · rw [hauthorises, Bool.or_false]
      · rw [hauthorises, if_neg Bool.false_ne_true]
      · rw [hauthorises, Bool.or_false]
    | false =>
      rw [hcooling, Bool.not_false] at hauthorises
      rw [if_neg Bool.false_ne_true]
      constructor
      · exact (if_neg hbelow).symm
      · rw [hauthorises, Bool.or_true]
      · rw [hauthorises, if_pos rfl]
      · rw [hauthorises, Bool.or_true]

theorem SameCount.refl (s : DevMqttSmokeState) : SameCount s s := ⟨rfl, rfl, rfl⟩

theorem WifiStep.sameCount {s : DevMqttSmokeState}
    (h : WifiStep c (s.noticeLoss c nowMs) nowMs result) : SameCount s result.1 ∧
      result.1.wifiRecoveryRequested = s.wifiRecoveryRequested ∧ result.2 ≠ .recoverWifi := by
  have haction : result.2 ≠ .recoverWifi :=
    h.action_ne DevSmokeAction.noConfusion DevSmokeAction.noConfusion
  obtain ⟨_, _, _, _, _, _, hframe⟩ := h.frame
  rw [hframe]
  rcases s.noticeLoss_cases c nowMs with ⟨_, hloss⟩ | ⟨_, hloss⟩
  · rw [hloss]
    exact ⟨⟨rfl, rfl, rfl⟩, rfl, haction⟩
  · rw [hloss]
    exact ⟨⟨rfl, rfl, rfl⟩, rfl, haction⟩

theorem NetworkStep.sameCount {s : DevMqttSmokeState}
    (h : NetworkStep c s nowMs timeValid mqttConnected result) : SameCount s result.1 ∧
      result.1.wifiRecoveryRequested = s.wifiRecoveryRequested := by
  have hstage (s' : DevMqttSmokeState) (hs' : MqttStage c s nowMs s') :
      SameCount s s' ∧ s'.wifiRecoveryRequested = s.wifiRecoveryRequested := by
    cases hs' with
    | entered => exact ⟨⟨rfl, rfl, rfl⟩, rfl⟩
    | stayed => exact ⟨⟨rfl, rfl, rfl⟩, rfl⟩
  cases h with
  | connected s' hs' =>
    obtain ⟨hkept, hrequested⟩ := hstage s' hs'
    exact ⟨⟨hkept.failures, hkept.coolingDown, hkept.cooldown⟩, hrequested⟩
  | connectingMqtt s' hs' =>
    obtain ⟨hkept, hrequested⟩ := hstage s' hs'
    exact ⟨⟨hkept.failures, hkept.coolingDown, hkept.cooldown⟩, hrequested⟩
  | _ => exact ⟨⟨rfl, rfl, rfl⟩, rfl⟩

theorem UpdateStep.ladder {s : DevMqttSmokeState}
    (h : UpdateStep c s nowMs wifiConnected timeValid mqttConnected result) :
    (result.2 = .recoverWifi ↔ s.wifiRecoveryRequested = true) ∧ SameCount s result.1 ∧
      result.1.wifiRecoveryRequested = false := by
  have hidle {action : DevSmokeAction} (haction : action ≠ .recoverWifi)
      (hrequested : s.wifiRecoveryRequested = false) :
      action = .recoverWifi ↔ s.wifiRecoveryRequested = true := by
    rw [hrequested]
    exact iff_of_false haction Bool.false_ne_true
  cases h with
  | recovering hrequested => exact ⟨iff_of_true rfl hrequested, ⟨rfl, rfl, rfl⟩, rfl⟩
  | awaiting hrequested =>
    exact ⟨hidle DevSmokeAction.noConfusion hrequested, .refl s, hrequested⟩
  | offline _ hrequested _ hstep =>
    obtain ⟨hkept, hsame, haction⟩ := hstep.sameCount
    exact ⟨hidle haction hrequested, hkept, hsame.trans hrequested⟩
  | online _ hrequested _ _ hstep =>
    obtain ⟨hkept, hsame⟩ := hstep.sameCount
    exact ⟨hidle hstep.ne_recoverWifi hrequested, hkept, hsame.trans hrequested⟩

theorem CountedFailure.not_online (h : CountedFailure u) : ¬ ReportsOnline u := by
  intro honline
  have hcall := h.1
  rw [honline.1] at hcall
  exact Bool.false_ne_true hcall

theorem CountedFailure.not_update (h : CountedFailure u) : ¬ IsUpdate u := by
  intro hupdate
  obtain ⟨_, _, _, hupdate⟩ := hupdate
  have hcall := h.1
  rw [hupdate] at hcall
  exact Bool.false_ne_true hcall

theorem IsUpdate.not_online (h : IsUpdate u) : ¬ ReportsOnline u := by
  intro honline
  obtain ⟨_, _, _, hupdate⟩ := h
  cases honline.1.symm.trans hupdate

theorem not_update_of_call {u : SmokeTransition} (hcall : u.input.call = call)
    (h : ∀ wifiConnected timeValid mqttConnected,
      call ≠ .update wifiConnected timeValid mqttConnected) : ¬ IsUpdate u := by
  intro hupdate
  obtain ⟨_, _, _, hupdate⟩ := hupdate
  exact h _ _ _ (hcall.symm.trans hupdate)

theorem not_failure_of_call {u : SmokeTransition} (h : reportsFailure u.input.call = false) :
    ¬ CountedFailure u := by
  intro hfailure
  exact Bool.false_ne_true (h.symm.trans hfailure.1)

theorem not_online_of_call {u : SmokeTransition} (h : u.input.call ≠ .mqttResult true) :
    ¬ ReportsOnline u := fun honline => h honline.1

theorem LadderStep.untouched {u : SmokeTransition}
    (hfailure : reportsFailure u.input.call = false) (honline : u.input.call ≠ .mqttResult true)
    (hupdate : ∀ wifiConnected timeValid mqttConnected,
      u.input.call ≠ .update wifiConnected timeValid mqttConnected)
    (hsilent : u.output = .none) (hkept : SameCount u.before u.after)
    (hrequested : u.after.wifiRecoveryRequested = u.before.wifiRecoveryRequested) :
    LadderStep c u :=
  .other (not_failure_of_call hfailure) (not_online_of_call honline)
    (not_update_of_call rfl hupdate) hsilent hkept hrequested

theorem Consistent.ladderStep {s : DevMqttSmokeState} (h : s.Consistent) (c : DevSmokeConfig)
    (input : SmokeInput) : LadderStep c (.of (step c) s input) := by
  rw [Transition.of]
  have hstep := h.smokeStep c input
  generalize s.step c input = result at hstep ⊢
  cases hstep with
  | updated _ hstep =>
    obtain ⟨hrecovers, hkept, hrequested⟩ := hstep.ladder
    exact .updated ⟨_, _, _, rfl⟩ hrecovers hkept hrequested
  | ignored hrefuses =>
    apply LadderStep.other
    · exact fun hfailure => hrefuses hfailure.2
    · exact fun honline => hrefuses honline.2
    · intro hupdate
      obtain ⟨_, _, _, hupdate⟩ := hupdate
      cases hupdate
      exact hrefuses trivial
    · rfl
    · exact .refl s
    · rfl
  | started =>
    exact .untouched rfl SmokeCall.noConfusion (fun _ _ _ => SmokeCall.noConfusion) rfl
      ⟨rfl, rfl, rfl⟩ rfl
  | associated =>
    exact .untouched rfl SmokeCall.noConfusion (fun _ _ _ => SmokeCall.noConfusion) rfl
      ⟨rfl, rfl, rfl⟩ rfl
  | refused =>
    exact .untouched rfl SmokeCall.noConfusion (fun _ _ _ => SmokeCall.noConfusion) rfl
      ⟨rfl, rfl, rfl⟩ rfl
  | reported _ hstep =>
    cases hstep with
    | resolved =>
      exact .untouched rfl SmokeCall.noConfusion (fun _ _ _ => SmokeCall.noConfusion) rfl
        ⟨rfl, rfl, rfl⟩ rfl
    | @unresolved atMs hstage =>
      have hcounts :=
        recordConnectivityFailure_counts c (s.scheduleRetry c (ms32 atMs)) (ms32 atMs)
      exact .failed ⟨rfl, hstage⟩ rfl
        ⟨hcounts.failures, hcounts.coolingDown, hcounts.cooldown, hcounts.requested⟩
    | @preflightFailed atMs hstage =>
      have hcounts :=
        recordConnectivityFailure_counts c (s.enter c .waitingForDns (ms32 atMs)) (ms32 atMs)
      exact .failed ⟨rfl, hstage⟩ rfl
        ⟨hcounts.failures, hcounts.coolingDown, hcounts.cooldown, hcounts.requested⟩
    | mqttUp hstage => exact .online ⟨rfl, hstage⟩ rfl rfl rfl rfl
    | @mqttDown atMs hstage =>
      have hcounts :=
        recordConnectivityFailure_counts c (s.scheduleRetry c (ms32 atMs)) (ms32 atMs)
      exact .failed ⟨rfl, hstage⟩ rfl
        ⟨hcounts.failures, hcounts.coolingDown, hcounts.cooldown, hcounts.requested⟩

/-- What the coordinator remembers of the failures and of the recoveries they authorised. -/
structure Recalls (c : DevSmokeConfig) (ts : List SmokeTransition) (s : DevMqttSmokeState) :
    Prop where
  count : s.consecutiveConnectivityFailures.toNat =
    failureCount c.wifiRecoveryThreshold.toNat ts
  below : s.consecutiveConnectivityFailures.toNat < c.wifiRecoveryThreshold.toNat
  requested : s.wifiRecoveryRequested = true ↔ RecoveryPending c ts
  coolingDown : s.wifiRecoveryCooldownActive = true ↔
    Since (fun w => ¬ ReportsOnline w) (Authorises c) ts
  cooldown : s.wifiRecoveryCooldownActive = true →
    Since (fun w => ¬ Authorises c w ∧ ¬ ReportsOnline w)
      (fun v => Authorises c v ∧
        s.wifiRecoveryCooldownUntilMs = ms32 v.input.atMs + c.wifiRecoveryCooldownMs) ts

theorem failureCount_concat (threshold : Nat) (ts : List SmokeTransition) (u : SmokeTransition) :
    failureCount threshold (ts ++ [u]) = countAfter threshold (failureCount threshold ts) u := by
  rw [failureCount, List.foldl_append]
  rfl

theorem countAfter_failed (threshold n : Nat) {u : SmokeTransition} (h : CountedFailure u) :
    countAfter threshold n u = if n + 1 = threshold then 0 else n + 1 := by
  rw [countAfter, if_neg h.not_online, if_pos h]

theorem countAfter_other (threshold n : Nat) {u : SmokeTransition} (hfailure : ¬ CountedFailure u)
    (honline : ¬ ReportsOnline u) : countAfter threshold n u = n := by
  rw [countAfter, if_neg honline, if_neg hfailure]

theorem Recalls.quiet {s s' : DevMqttSmokeState} (h : Recalls c ts s)
    (hfailure : ¬ CountedFailure u) (honline : ¬ ReportsOnline u) (hkept : SameCount s s')
    (hrequested : s'.wifiRecoveryRequested = true ↔
      ¬ IsUpdate u ∧ s.wifiRecoveryRequested = true) : Recalls c (ts ++ [u]) s' := by
  have hsilent : ¬ Authorises c u := fun hauthorises => hfailure hauthorises.1
  constructor
  · rw [hkept.failures, h.count, failureCount_concat, countAfter_other _ _ hfailure honline]
  · rw [hkept.failures]
    exact h.below
  · rw [hrequested, h.requested, RecoveryPending, RecoveryPending, since_concat,
      or_iff_right hsilent, and_iff_left honline]
  · rw [hkept.coolingDown, h.coolingDown, since_concat, or_iff_right hsilent,
      and_iff_right honline]
  · rw [hkept.coolingDown, hkept.cooldown]
    intro hactive
    exact since_concat.mpr (.inr ⟨⟨hsilent, honline⟩, h.cooldown hactive⟩)

theorem Recalls.reported {s' : DevMqttSmokeState}
    (hthreshold : 1 ≤ c.wifiRecoveryThreshold.toNat) (honline : ReportsOnline u)
    (hfailures : s'.consecutiveConnectivityFailures = 0)
    (hcooling : s'.wifiRecoveryCooldownActive = false)
    (hrequested : s'.wifiRecoveryRequested = false) : Recalls c (ts ++ [u]) s' := by
  have hsilent : ¬ Authorises c u := fun hauthorises => hauthorises.1.not_online honline
  constructor
  · rw [hfailures, failureCount_concat, countAfter, if_pos honline]
    rfl
  · rw [hfailures]
    exact hthreshold
  · rw [hrequested, RecoveryPending, since_concat, or_iff_right hsilent]
    exact iff_of_false Bool.false_ne_true fun hpending => hpending.1.2 honline
  · rw [hcooling, since_concat, or_iff_right hsilent]
    exact iff_of_false Bool.false_ne_true fun hsince => hsince.1 honline
  · rw [hcooling]
    intro hactive
    exact absurd hactive Bool.false_ne_true

theorem Recalls.counted {s : DevMqttSmokeState} (h : Recalls c ts s) :
    (s.consecutiveConnectivityFailures + 1).toNat =
      failureCount c.wifiRecoveryThreshold.toNat ts + 1 := by
  have hbelow := h.below
  have hthreshold := c.wifiRecoveryThreshold.toNat_lt
  rw [UInt32.toNat_add, ← h.count, UInt32.toNat_one]
  omega

theorem Recalls.counted_lt_iff {s : DevMqttSmokeState} (h : Recalls c ts s) :
    s.consecutiveConnectivityFailures + 1 < c.wifiRecoveryThreshold ↔
      failureCount c.wifiRecoveryThreshold.toNat ts + 1 ≠ c.wifiRecoveryThreshold.toNat := by
  have hbelow := h.below
  rw [UInt32.lt_iff_toNat_lt, h.counted]
  rw [h.count] at hbelow
  omega

theorem Recalls.failed {s s' : DevMqttSmokeState} (h : Recalls c ts s)
    (hthreshold : 1 ≤ c.wifiRecoveryThreshold.toNat) (hbefore : u.before = s)
    (hfailure : CountedFailure u) (hcounts : CountsFailure c s (ms32 u.input.atMs) s') :
    Recalls c (ts ++ [u]) s' := by
  have honline := hfailure.not_online
  have hupdate := hfailure.not_update
  have hauthorises : Authorises c u ↔ s.authorises c (ms32 u.input.atMs) = true := by
    rw [Authorises, hbefore, and_iff_right hfailure]
  constructor
  · rw [failureCount_concat, countAfter_failed _ _ hfailure, hcounts.failures]
    by_cases hlt : s.consecutiveConnectivityFailures + 1 < c.wifiRecoveryThreshold
    · rw [if_pos hlt, if_neg (h.counted_lt_iff.mp hlt), h.counted]
    · rw [if_neg hlt, if_pos (not_not.mp fun hne => hlt (h.counted_lt_iff.mpr hne))]
      rfl
  · rw [hcounts.failures]
    by_cases hlt : s.consecutiveConnectivityFailures + 1 < c.wifiRecoveryThreshold
    · rw [if_pos hlt]
      exact UInt32.lt_iff_toNat_lt.mp hlt
    · rw [if_neg hlt]
      exact hthreshold
  · rw [hcounts.requested, Bool.or_eq_true, h.requested, RecoveryPending, RecoveryPending,
      since_concat, hauthorises, and_iff_right (And.intro hupdate honline), or_comm]
  · rw [hcounts.coolingDown, Bool.or_eq_true, h.coolingDown, since_concat, hauthorises,
      and_iff_right honline, or_comm]
  · rw [hcounts.coolingDown, hcounts.cooldown, since_concat]
    intro hactive
    by_cases hnow : s.authorises c (ms32 u.input.atMs) = true
    · rw [if_pos hnow]
      exact .inl ⟨hauthorises.mpr hnow, rfl⟩
    · rw [if_neg hnow]
      rw [Bool.not_eq_true] at hnow
      rw [hnow, Bool.or_false] at hactive
      have hsilent : ¬ Authorises c u := by
        rw [hauthorises, hnow]
        exact Bool.false_ne_true
      exact .inr ⟨⟨hsilent, honline⟩, h.cooldown hactive⟩

theorem Recalls.next {s : DevMqttSmokeState} (h : Recalls c ts s) (hconsistent : s.Consistent)
    (hthreshold : 1 ≤ c.wifiRecoveryThreshold.toNat) (input : SmokeInput) :
    Recalls c (ts ++ [.of (step c) s input]) (s.step c input).1 := by
  cases hconsistent.ladderStep c input with
  | failed failure _ counts => exact h.failed hthreshold rfl failure counts
  | online reports _ failures coolingDown requested =>
    exact .reported hthreshold reports failures coolingDown requested
  | updated update _ kept requested =>
    apply h.quiet (fun hfailure => hfailure.not_update update) update.not_online kept
    exact iff_of_false (fun htrue => Bool.false_ne_true (requested.symm.trans htrue))
      fun hboth => hboth.1 update
  | other failure online update _ kept requested =>
    apply h.quiet failure online kept
    rw [and_iff_right update]
    exact Eq.congr_left requested

theorem recalls_run (c : DevSmokeConfig) (hthreshold : 1 ≤ c.wifiRecoveryThreshold.toNat)
    (inputs : List SmokeInput) :
    Recalls c (transitions (step c) (constructed c) inputs)
      (finalState (step c) (constructed c) inputs) := by
  have hrun : Recalls c (transitions (step c) (constructed c) inputs)
      (finalState (step c) (constructed c) inputs) ∧
      (finalState (step c) (constructed c) inputs).Consistent := by
    apply run_induction (motive := fun ts s => Recalls c ts s ∧ s.Consistent)
    · refine ⟨?_, consistent_run c []⟩
      constructor
      · rfl
      · exact hthreshold
      · exact iff_of_false Bool.false_ne_true not_since_nil
      · exact iff_of_false Bool.false_ne_true not_since_nil
      · intro hactive
        cases hactive
    · intro ts s input ih
      obtain ⟨hrecalls, hconsistent⟩ := ih
      exact ⟨hrecalls.next hconsistent hthreshold input, hconsistent.next c input⟩
  exact hrun.1

theorem InOrder.le_last (h : InOrder (before ++ v :: between))
    (hlast : before ++ v :: between = earlier ++ v' :: later) (hv : Authorises c v)
    (hlater : ∀ w ∈ later, ¬ Authorises c w) : v.input.atMs ≤ v'.input.atMs := by
  rcases append_cons_cases hlast.symm with rfl | hmem | hmem
  · exact Nat.le_refl _
  · exact absurd hv (hlater v hmem)
  · rw [InOrder, List.pairwise_append, List.pairwise_cons] at h
    exact h.2.1.1 v' hmem

/-- The cooldown lets a failure through when the authorisations since the last full connection
are all long enough ago. -/
theorem Recalls.cooled_iff {s : DevMqttSmokeState} (h : Recalls c ts s)
    (hcooldown : c.wifiRecoveryCooldownMs.toNat < 2 ^ 31) (horder : InOrder ts)
    (hpast : ∀ v ∈ ts, v.input.atMs ≤ atMs)
    (hsoon : ∀ before v between, ts = before ++ v :: between → Authorises c v →
      (∀ w ∈ between, ¬ Authorises c w) → atMs < v.input.atMs + 2 ^ 31) :
    (s.wifiRecoveryCooldownActive &&
        !deadlineReached (ms32 atMs) s.wifiRecoveryCooldownUntilMs) = false ↔
      ∀ before v between, ts = before ++ v :: between → Authorises c v →
        (∀ w ∈ between, ¬ ReportsOnline w) →
        v.input.atMs + c.wifiRecoveryCooldownMs.toNat ≤ atMs := by
  rw [Bool.and_eq_false_imp, Bool.not_eq_false']
  constructor
  · intro hreached before v between hts hv hbetween
    have hactive := h.coolingDown.mpr ⟨before, v, between, hts, hv, hbetween⟩
    obtain ⟨earlier, v', later, hlast, ⟨_, huntil⟩, hlater⟩ := h.cooldown hactive
    have hle : v.input.atMs ≤ v'.input.atMs := by
      subst hts
      exact horder.le_last hlast hv fun w hw => (hlater w hw).1
    have hmem : v' ∈ ts := hlast ▸ List.mem_append_right _ List.mem_cons_self
    have hreached := hreached hactive
    rw [huntil] at hreached
    have hcooled := le_of_reachedSigned (hpast v' hmem) hcooldown hreached
    omega
  · intro hcooled hactive
    obtain ⟨earlier, v', later, hlast, ⟨hv', huntil⟩, hlater⟩ := h.cooldown hactive
    rw [huntil]
    apply reachedSigned_of_le
    · exact hcooled earlier v' later hlast hv' fun w hw => (hlater w hw).2
    · exact hsoon earlier v' later hlast hv' fun w hw => (hlater w hw).1

theorem authorises_iff {s : DevMqttSmokeState} : s.authorises c nowMs = true ↔
    ¬ (s.consecutiveConnectivityFailures + 1 < c.wifiRecoveryThreshold) ∧
      (s.wifiRecoveryCooldownActive &&
        !deadlineReached nowMs s.wifiRecoveryCooldownUntilMs) = false := by
  rw [authorises, Bool.and_eq_true, Bool.not_eq_true', Bool.not_eq_true', decide_eq_false_iff_not]

theorem LadderStep.recovers_iff (h : LadderStep c u) :
    u.output = .recoverWifi ↔ IsUpdate u ∧ u.before.wifiRecoveryRequested = true := by
  have hquiet (hsilent : u.output = .none) (hupdate : ¬ IsUpdate u) :
      u.output = .recoverWifi ↔ IsUpdate u ∧ u.before.wifiRecoveryRequested = true := by
    rw [hsilent]
    exact iff_of_false DevSmokeAction.noConfusion fun hboth => hupdate hboth.1
  cases h with
  | failed failure silent => exact hquiet silent failure.not_update
  | online reports silent => exact hquiet silent fun hupdate => hupdate.not_online reports
  | updated update recovers => rw [recovers, and_iff_right update]
  | other _ _ update silent => exact hquiet silent update

theorem foldl_countAfter_le (threshold n : Nat) (ts : List SmokeTransition) :
    ts.foldl (countAfter threshold) n ≤ n + ts.countP (fun v => CountedFailure v) := by
  induction ts generalizing n with
  | nil => exact Nat.le_refl n
  | cons u ts ih =>
    have hu : countAfter threshold n u ≤ n + if CountedFailure u then 1 else 0 := by
      rw [countAfter]
      split_ifs <;> omega
    rw [List.foldl_cons, List.countP_cons]
    simp only [decide_eq_true_iff]
    have hts := ih (countAfter threshold n u)
    omega

theorem failureCount_online (threshold : Nat) (earlier later : List SmokeTransition)
    (h : ReportsOnline r) : failureCount threshold (earlier ++ r :: later) ≤
      later.countP (fun v => CountedFailure v) := by
  have hcount := foldl_countAfter_le threshold 0 later
  rw [Nat.zero_add] at hcount
  rw [failureCount, List.foldl_append, List.foldl_cons, countAfter, if_pos h]
  exact hcount

theorem InOrder.past (h : InOrder (earlier ++ u :: later)) :
    InOrder earlier ∧ ∀ v ∈ earlier, v.input.atMs ≤ u.input.atMs := by
  rw [InOrder, List.pairwise_append] at h
  exact ⟨h.1, fun v hv => h.2.2 v hv u List.mem_cons_self⟩

theorem authorised_run (c : DevSmokeConfig) (hthreshold : 1 ≤ c.wifiRecoveryThreshold.toNat)
    (hcooldown : c.wifiRecoveryCooldownMs.toNat < 2 ^ 31) (inputs : List SmokeInput)
    (horder : InOrder (transitions (step c) (constructed c) inputs))
    (hsoon : SoonAfterAuthorisation c (transitions (step c) (constructed c) inputs))
    (hts : transitions (step c) (constructed c) inputs = earlier ++ u :: later)
    (hfailure : CountedFailure u) :
    Authorises c u ↔
      failureCount c.wifiRecoveryThreshold.toNat earlier + 1 = c.wifiRecoveryThreshold.toNat ∧
      ∀ before v between, earlier = before ++ v :: between → Authorises c v →
        (∀ w ∈ between, ¬ ReportsOnline w) →
        v.input.atMs + c.wifiRecoveryCooldownMs.toNat ≤ u.input.atMs := by
  obtain ⟨is₁, input, is₂, _, rfl, rfl, _⟩ := transitions_split hts
  have hrecalls := recalls_run c hthreshold is₁
  rw [hts] at horder hsoon
  obtain ⟨hbefore, hpast⟩ := horder.past
  have hcooled := hrecalls.cooled_iff hcooldown hbefore hpast fun before v between hearlier hv
      hbetween => by
    rw [hearlier, List.append_assoc] at hsoon
    exact hsoon _ v _ _ _ rfl hv hbetween hfailure
  have hcounted := not_congr hrecalls.counted_lt_iff
  rw [not_ne_iff] at hcounted
  rw [Authorises, and_iff_right hfailure, authorises_iff]
  exact and_congr hcounted hcooled

theorem recovers_run (c : DevSmokeConfig) (hthreshold : 1 ≤ c.wifiRecoveryThreshold.toNat)
    (inputs : List SmokeInput)
    (hts : transitions (step c) (constructed c) inputs = earlier ++ u :: later) :
    u.output = .recoverWifi ↔ IsUpdate u ∧ RecoveryPending c earlier := by
  obtain ⟨is₁, input, is₂, _, rfl, rfl, _⟩ := transitions_split hts
  have hladder := (consistent_run c is₁).ladderStep c input
  rw [hladder.recovers_iff, Transition.of, (recalls_run c hthreshold is₁).requested]

/-- Wi-Fi recovery escalates exactly at the threshold, no more often than the cooldown allows. -/
theorem recoveryExact_run (c : DevSmokeConfig) (hthreshold : 1 ≤ c.wifiRecoveryThreshold.toNat)
    (hcooldown : c.wifiRecoveryCooldownMs.toNat < 2 ^ 31) (inputs : List SmokeInput)
    (hsorted : (inputs.map SmokeInput.atMs).Pairwise (· ≤ ·))
    (hsoon : SoonAfterAuthorisation c (transitions (step c) (constructed c) inputs)) :
    RecoveryExact c (transitions (step c) (constructed c) inputs) := by
  have horder := inOrder_transitions hsorted c (constructed c)
  have hsince {earlier r between u later} (hts : transitions (step c) (constructed c) inputs =
      earlier ++ r :: (between ++ u :: later)) (hrecovers : u.output = .recoverWifi)
      (hr : IsUpdate r ∨ ReportsOnline r) : RecoveryPending c between := by
    rw [← List.cons_append, ← List.append_assoc] at hts
    have hpending := ((recovers_run c hthreshold inputs hts).mp hrecovers).2
    apply hpending.of_append
    · exact fun hquiet => hr.elim hquiet.1 hquiet.2
    · exact fun hr' => hr.elim hr'.1.not_update hr'.1.not_online
  constructor
  · intro earlier u later hts hfailure
    exact authorised_run c hthreshold hcooldown inputs horder hsoon hts hfailure
  · intro earlier u later hts
    exact recovers_run c hthreshold inputs hts
  · intro earlier r between u later hts hr hu
    have hupdate := ((recovers_run c hthreshold inputs hts).mp hr).1
    obtain ⟨before, v, after, rfl, hv, _⟩ := hsince hts hu (.inl hupdate)
    exact ⟨v, List.mem_append_right _ List.mem_cons_self, hv⟩
  · intro earlier r between u later hts hr hu
    obtain ⟨before, v, after, rfl, hv, _⟩ := hsince hts hu (.inr hr)
    have hts' : transitions (step c) (constructed c) inputs =
        (earlier ++ r :: before) ++ v :: (after ++ u :: later) := by
      rw [hts, List.append_assoc, List.append_assoc]
      rfl
    have hcount := ((authorised_run c hthreshold hcooldown inputs horder hsoon hts' hv.1).mp hv).1
    have hle := failureCount_online c.wifiRecoveryThreshold.toNat earlier before hr
    rw [List.countP_append, List.countP_cons, if_pos (decide_eq_true hv.1)]
    omega

/-- On a device up for less than half the counter's range every failure comes soon enough. -/
theorem soonAfterAuthorisation_of_lt (h : ∀ u ∈ ts, u.input.atMs < 2 ^ 31) :
    SoonAfterAuthorisation c ts := by
  intro earlier v between u later hts _ _ _
  have hu : u ∈ ts := by
    rw [hts]
    exact List.mem_append_right _ (List.mem_cons_of_mem _ (List.mem_append_right _
      List.mem_cons_self))
  have hlt := h u hu
  omega

/-- Three lookups fail, and the association is torn down once. -/
def threeLookups : List SmokeInput :=
  [⟨.update true false false, 0⟩, ⟨.dnsResult false, 100⟩, ⟨.update true false false, 1100⟩,
    ⟨.dnsResult false, 1200⟩, ⟨.update true false false, 3200⟩, ⟨.dnsResult false, 3300⟩,
    ⟨.update true false false, 3310⟩, ⟨.update true false false, 3320⟩]

theorem threeLookups_recoveryExact :
    (transitions (step {}) (constructed {}) threeLookups).map (fun u => u.output) =
        [.resolveDns, .none, .resolveDns, .none, .resolveDns, .none, .recoverWifi, .none] ∧
      RecoveryExact {} (transitions (step {}) (constructed {}) threeLookups) :=
  ⟨by decide, recoveryExact_run {} (by decide) (by decide) threeLookups (by decide)
    (soonAfterAuthorisation_of_lt (by decide))⟩

end DevMqttSmokeState
end InterBridge
