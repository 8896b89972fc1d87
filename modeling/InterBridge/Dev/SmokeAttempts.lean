import InterBridge.Dev.SmokeBackoff
import InterBridge.Dev.SmokeGates

namespace InterBridge
open Foundations
set_option autoImplicit true

namespace DevMqttSmokeState

/-- The action `action` is returned by `r`, not between, and then by `u`. -/
structure ConsecutiveActions (action : DevSmokeAction) (ts : List SmokeTransition)
    (r : SmokeTransition) (between : List SmokeTransition) (u : SmokeTransition) : Prop where
  split : ∃ earlier later, ts = earlier ++ r :: (between ++ u :: later)
  first : r.output = action
  second : u.output = action
  between : ∀ v ∈ between, v.output ≠ action

/-- The call starts the time an attempt is given: it begins the attempt, or reports the start of
the one in flight. -/
def Arms (u : SmokeTransition) : Prop :=
  u.output = .connectWifi ∨
    (u.input.call = .wifiAssociationStarted ∧ u.before.Accepts u.input.call)

def LastArmed (attempt : List SmokeTransition) (v : SmokeTransition) : Prop :=
  ∃ earlier later, attempt = earlier ++ v :: later ∧ Arms v ∧ ∀ w ∈ later, ¬ Arms w

/-- The call reports that the attempt in flight succeeded. -/
def ReportsSuccess (u : SmokeTransition) : Prop :=
  u.input.call = .wifiAssociationResult true ∧ u.before.Accepts u.input.call

def ReportsFailure (u : SmokeTransition) : Prop :=
  u.input.call = .wifiAssociationResult false ∧ u.before.wifiAttemptInFlight = true

/-- The time given to the attempt, or to its confirmation, is over. -/
def AttemptOver (c : DevSmokeConfig) (attempt : List SmokeTransition) (atMs : Nat) : Prop :=
  (∃ v, LastArmed attempt v ∧ v.input.atMs + c.wifiAssociationTimeoutMs.toNat ≤ atMs) ∨
    ∃ v ∈ attempt, ReportsSuccess v ∧ v.input.atMs + c.wifiAssociationTimeoutMs.toNat ≤ atMs

/-- What ends an attempt before its time. -/
def EndsAttempt (u : SmokeTransition) : Prop :=
  ReportsFailure u ∨ u.input.Samples true ∨ u.output = .recoverWifi

/-- Where an attempt stands that nothing has ended before its time. -/
inductive WifiAttempt (c : DevSmokeConfig) (attempt : List SmokeTransition)
    (s : DevMqttSmokeState) : Prop where
  | inFlight (v : SmokeTransition) (armed : LastArmed attempt v)
      (flag : s.wifiAttemptInFlight = true)
      (deadline : s.wifiAttemptDeadlineMs = ms32 v.input.atMs + c.wifiAssociationTimeoutMs)
  | confirming (v : SmokeTransition) (mem : v ∈ attempt) (success : ReportsSuccess v)
      (flag : s.wifiAttemptInFlight = false) (pending : s.wifiConfirmPending = true)
      (deadline : s.wifiConfirmDeadlineMs = ms32 v.input.atMs + c.wifiAssociationTimeoutMs)
  | ended (free : s.Unblocked) (w : SmokeTransition) (mem : w ∈ attempt)
      (elapsed : AttemptOver c attempt w.input.atMs)

theorem not_arms {u : SmokeTransition} (haction : u.output = .none)
    (hcall : u.input.call ≠ .wifiAssociationStarted) : ¬ Arms u := by
  intro harms
  rcases harms with hconnects | ⟨hstarted, _⟩
  · cases haction.symm.trans hconnects
  · exact hcall hstarted

theorem LastArmed.mem {attempt : List SmokeTransition} (h : LastArmed attempt v) : v ∈ attempt := by
  obtain ⟨earlier, later, rfl, _⟩ := h
  exact List.mem_append_right _ List.mem_cons_self

theorem LastArmed.next {attempt : List SmokeTransition} (h : LastArmed attempt v)
    (hu : ¬ Arms u) : LastArmed (attempt ++ [u]) v := by
  obtain ⟨earlier, later, rfl, hv, hlater⟩ := h
  refine ⟨earlier, later ++ [u], List.append_assoc _ _ _, hv, ?_⟩
  rw [List.forall_mem_append, List.forall_mem_singleton]
  exact ⟨hlater, hu⟩

theorem AttemptOver.next {attempt : List SmokeTransition} (h : AttemptOver c attempt atMs)
    (hu : ¬ Arms u) : AttemptOver c (attempt ++ [u]) atMs := by
  rcases h with ⟨v, harmed, hle⟩ | ⟨v, hv, hsuccess, hle⟩
  · exact .inl ⟨v, harmed.next hu, hle⟩
  · exact .inr ⟨v, List.mem_append_left _ hv, hsuccess, hle⟩

theorem AttemptOver.mono {attempt : List SmokeTransition} (h : AttemptOver c attempt atMs)
    (hle : atMs ≤ laterMs) : AttemptOver c attempt laterMs := by
  rcases h with ⟨v, harmed, hv⟩ | ⟨v, hv, hsuccess, hle'⟩
  · exact .inl ⟨v, harmed, Nat.le_trans hv hle⟩
  · exact .inr ⟨v, hv, hsuccess, Nat.le_trans hle' hle⟩

theorem WifiAttempt.kept {attempt : List SmokeTransition} {s s' : DevMqttSmokeState}
    (h : WifiAttempt c attempt s) (hu : ¬ Arms u)
    (hflag : s'.wifiAttemptInFlight = s.wifiAttemptInFlight)
    (hpending : s'.wifiConfirmPending = s.wifiConfirmPending)
    (hattempt : s'.wifiAttemptDeadlineMs = s.wifiAttemptDeadlineMs)
    (hconfirm : s'.wifiConfirmDeadlineMs = s.wifiConfirmDeadlineMs) :
    WifiAttempt c (attempt ++ [u]) s' := by
  cases h with
  | inFlight v armed flag deadline =>
    exact .inFlight v (armed.next hu) (hflag.trans flag) (hattempt.trans deadline)
  | confirming v mem success flag pending deadline =>
    exact .confirming v (List.mem_append_left _ mem) success (hflag.trans flag)
      (hpending.trans pending) (hconfirm.trans deadline)
  | ended free w mem elapsed =>
    exact .ended ⟨hflag.trans free.1, hpending.trans free.2⟩ w (List.mem_append_left _ mem)
      (elapsed.next hu)

theorem WifiAttempt.released {attempt : List SmokeTransition} {s : DevMqttSmokeState}
    (h : WifiAttempt c attempt s) (htimeout : c.wifiAssociationTimeoutMs.toNat < 2 ^ 31)
    (hsorted : ∀ w ∈ attempt, w.input.atMs ≤ atMs) (hreleased : Released c s (ms32 atMs) s') :
    AttemptOver c attempt atMs := by
  cases h with
  | inFlight v armed flag deadline =>
    left
    refine ⟨v, armed, ?_⟩
    cases hreleased with
    | free hfree => exact absurd (hfree.symm.trans flag) Bool.false_ne_true
    | attemptExpired _ _ hreached =>
      rw [deadline] at hreached
      exact le_of_reachedSigned (hsorted v armed.mem) htimeout hreached
    | confirmExpired hfree => exact absurd (hfree.symm.trans flag) Bool.false_ne_true
  | confirming v mem success flag pending deadline =>
    right
    refine ⟨v, mem, success, ?_⟩
    cases hreleased with
    | free _ hclear => exact absurd (hclear.symm.trans pending) Bool.false_ne_true
    | attemptExpired htrue => exact absurd (flag.symm.trans htrue) Bool.false_ne_true
    | confirmExpired _ _ hreached =>
      rw [deadline] at hreached
      exact le_of_reachedSigned (hsorted v mem) htimeout hreached
  | ended _ w mem elapsed => exact elapsed.mono (hsorted w mem)

/-- While the attempt has not ended, the coordinator waits for Wi-Fi, and a loss is nothing new. -/
theorem WifiAttempt.noticed {attempt : List SmokeTransition} {s : DevMqttSmokeState}
    (h : WifiAttempt c attempt s) (hstage : s.state = .waitingForWifi) (nowMs : UInt32) :
    WifiAttempt c attempt (s.noticeLoss c nowMs) := by
  rcases s.noticeLoss_cases c nowMs with ⟨_, hloss⟩ | ⟨hother, _⟩
  · rw [hloss]
    cases h with
    | inFlight v armed flag deadline => exact .inFlight v armed flag deadline
    | confirming v mem success flag pending deadline =>
      exact .confirming v mem success flag pending deadline
    | ended free w mem elapsed => exact .ended free w mem elapsed
  · exact absurd hstage hother

theorem Consistent.connecting {s : DevMqttSmokeState} (h : s.Consistent) {input : SmokeInput}
    (haction : (s.step c input).2 = .connectWifi) :
    ∃ s', Released c (s.noticeLoss c (ms32 input.atMs)) (ms32 input.atMs) s' ∧
      (s.step c input).1 = s'.issueConnectWifi c (ms32 input.atMs) ∧
      (s.step c input).1.state = .waitingForWifi := by
  obtain ⟨_, _, _, _, hstep⟩ := h.acts (c := c) (by rw [haction]; exact nofun)
  generalize s.step c input = result at hstep haction
  cases hstep with
  | recovering => cases haction
  | awaiting => cases haction
  | offline _ _ _ hstep =>
    have hstage := hstep.kept.1.trans (s.noticeLoss_state c _)
    cases hstep with
    | connecting s' hreleased => exact ⟨s', hreleased, rfl, hstage⟩
    | _ => cases haction
  | online _ _ _ _ hstep =>
    cases hstep with
    | _ => cases haction

/-- A retry comes after the time of the attempt. -/
theorem WifiAttempt.reissued {attempt : List SmokeTransition} {s : DevMqttSmokeState}
    (h : WifiAttempt c attempt s) (hconsistent : s.Consistent) (hstage : s.state = .waitingForWifi)
    (htimeout : c.wifiAssociationTimeoutMs.toNat < 2 ^ 31) {input : SmokeInput}
    (hsorted : ∀ w ∈ attempt, w.input.atMs ≤ input.atMs)
    (haction : (s.step c input).2 = .connectWifi) : AttemptOver c attempt input.atMs := by
  obtain ⟨s', hreleased, _⟩ := hconsistent.connecting haction
  exact (h.noticed hstage _).released htimeout hsorted hreleased

theorem WifiAttempt.next {attempt : List SmokeTransition} {s : DevMqttSmokeState}
    (h : WifiAttempt c attempt s) (hconsistent : s.Consistent) (hstage : s.state = .waitingForWifi)
    (htimeout : c.wifiAssociationTimeoutMs.toNat < 2 ^ 31) {input : SmokeInput}
    (hsorted : ∀ w ∈ attempt, w.input.atMs ≤ input.atMs)
    (haction : (s.step c input).2 ≠ .connectWifi)
    (hends : ¬ EndsAttempt (.of (step c) s input)) :
    (s.step c input).1.state = .waitingForWifi ∧
      WifiAttempt c (attempt ++ [.of (step c) s input]) (s.step c input).1 := by
  rw [Transition.of] at hends ⊢
  have hstep := hconsistent.smokeStep c input
  generalize s.step c input = result at hstep haction hends ⊢
  cases hstep with
  | updated _ hstep =>
    cases hstep with
    | recovering => exact absurd (.inr (.inr rfl)) hends
    | awaiting _ _ hup =>
      subst hup
      exact absurd (.inr (.inl ⟨_, _, rfl⟩)) hends
    | online _ _ _ hup _ =>
      subst hup
      exact absurd (.inr (.inl ⟨_, _, rfl⟩)) hends
    | offline _ _ _ hstep =>
      refine ⟨hstep.kept.1.trans (s.noticeLoss_state c _), ?_⟩
      cases hstep with
      | attempting => exact (h.noticed hstage _).kept (not_arms rfl (by simp)) rfl rfl rfl rfl
      | confirming => exact (h.noticed hstage _).kept (not_arms rfl (by simp)) rfl rfl rfl rfl
      | waiting s' hreleased =>
        have hover := (h.noticed hstage _).released htimeout hsorted hreleased
        exact .ended hreleased.clear _ (List.mem_append_right _ List.mem_cons_self)
          (hover.next (not_arms rfl (by simp)))
      | connecting => exact absurd rfl haction
  | ignored hrefuses =>
    refine ⟨hstage, h.kept ?_ rfl rfl rfl rfl⟩
    intro harms
    rcases harms with haction | ⟨_, haccepts⟩
    · cases haction
    · exact hrefuses haccepts
  | started hattempt =>
    exact ⟨hstage, .inFlight _ ⟨attempt, [], rfl, .inr ⟨rfl, hattempt⟩, List.forall_mem_nil _⟩
      hattempt rfl⟩
  | associated _ hattempt =>
    exact ⟨hstage, .confirming _ (List.mem_append_right _ List.mem_cons_self)
      ⟨rfl, hstage, hattempt⟩ rfl rfl rfl⟩
  | refused _ hattempt => exact absurd (.inl ⟨rfl, hattempt⟩) hends
  | reported _ hstep => exact absurd hstage hstep.not_wifi

theorem Consistent.connects {s : DevMqttSmokeState} (h : s.Consistent) {input : SmokeInput}
    (haction : (s.step c input).2 = .connectWifi) :
    (s.step c input).1.state = .waitingForWifi ∧
      (s.step c input).1.wifiAttemptInFlight = true ∧
      (s.step c input).1.wifiConfirmPending = false ∧
      (s.step c input).1.wifiAttemptDeadlineMs =
        ms32 input.atMs + c.wifiAssociationTimeoutMs := by
  obtain ⟨s', hreleased, hafter, hstage⟩ := h.connecting haction
  refine ⟨hstage, ?_⟩
  rw [hafter]
  exact ⟨rfl, hreleased.clear.2, rfl⟩

/-- The calls are made in the order of their times. -/
def InOrder (ts : List SmokeTransition) : Prop :=
  ts.Pairwise fun u v => u.input.atMs ≤ v.input.atMs

theorem inOrder_transitions {inputs : List SmokeInput}
    (h : (inputs.map SmokeInput.atMs).Pairwise (· ≤ ·)) (c : DevSmokeConfig)
    (s : DevMqttSmokeState) : InOrder (transitions (step c) s inputs) := by
  rw [← transitions_input (step c) s inputs, List.map_map, List.pairwise_map] at h
  exact h

/-- From an attempt on, as long as nothing ends it before its time. -/
theorem Consistent.wifiAttempt_run {s : DevMqttSmokeState} (h : s.Consistent)
    (htimeout : c.wifiAssociationTimeoutMs.toNat < 2 ^ 31) {input : SmokeInput}
    (haction : (s.step c input).2 = .connectWifi) (inputs : List SmokeInput)
    (horder : InOrder (.of (step c) s input :: transitions (step c) (s.step c input).1 inputs))
    (hbetween : ∀ v ∈ transitions (step c) (s.step c input).1 inputs,
      v.output ≠ .connectWifi ∧ ¬ EndsAttempt v) :
    (finalState (step c) (s.step c input).1 inputs).state = .waitingForWifi ∧
      WifiAttempt c (.of (step c) s input :: transitions (step c) (s.step c input).1 inputs)
        (finalState (step c) (s.step c input).1 inputs) := by
  obtain ⟨hstage, hflag, _, hdeadline⟩ := h.connects haction
  have hrun : (finalState (step c) (s.step c input).1 inputs).Consistent ∧
      (finalState (step c) (s.step c input).1 inputs).state = .waitingForWifi ∧
      WifiAttempt c (.of (step c) s input :: transitions (step c) (s.step c input).1 inputs)
        (finalState (step c) (s.step c input).1 inputs) := by
    apply run_induction_ordered (motive := fun ts t => t.Consistent ∧
      t.state = .waitingForWifi ∧ WifiAttempt c (.of (step c) s input :: ts) t)
      ⟨h.next c input, hstage, ?_⟩ ?_ inputs horder hbetween
    · exact .inFlight _ ⟨[], [], rfl, .inl haction, List.forall_mem_nil _⟩ hflag hdeadline
    · intro ts t next ht hsorted hnext
      obtain ⟨hconsistent, hstage, hattempt⟩ := ht
      rw [← List.cons_append]
      exact ⟨hconsistent.next c next,
        hattempt.next hconsistent hstage htimeout hsorted hnext.1 hnext.2⟩
  exact hrun.2

/-- What ends a synchronization before its time. -/
def EndsSynchronization (u : SmokeTransition) : Prop :=
  (∃ wifiConnected mqttConnected, u.input.call = .update wifiConnected true mqttConnected) ∨
    u.input.Samples false ∨ u.output = .recoverWifi

/-- Where the synchronization begun at `atMs` stands that nothing has ended before its time. -/
inductive NtpAttempt (c : DevSmokeConfig) (atMs : Nat) (later : List SmokeTransition)
    (s : DevMqttSmokeState) : Prop where
  | inFlight (flag : s.ntpAttemptInFlight = true)
      (deadline : s.ntpAttemptDeadlineMs = ms32 atMs + c.ntpAttemptTimeoutMs)
  | ended (flag : s.ntpAttemptInFlight = false) (w : SmokeTransition) (mem : w ∈ later)
      (elapsed : atMs + c.ntpAttemptTimeoutMs.toNat ≤ w.input.atMs)

theorem NtpAttempt.kept {later : List SmokeTransition} {s s' : DevMqttSmokeState}
    (h : NtpAttempt c atMs later s) (hflag : s'.ntpAttemptInFlight = s.ntpAttemptInFlight)
    (hdeadline : s'.ntpAttemptDeadlineMs = s.ntpAttemptDeadlineMs) (u : SmokeTransition) :
    NtpAttempt c atMs (later ++ [u]) s' := by
  cases h with
  | inFlight flag deadline => exact .inFlight (hflag.trans flag) (hdeadline.trans deadline)
  | ended flag w mem elapsed =>
    exact .ended (hflag.trans flag) w (List.mem_append_left _ mem) elapsed

theorem NtpAttempt.expired {later : List SmokeTransition} {s : DevMqttSmokeState}
    (h : NtpAttempt c atMs later s) (htimeout : c.ntpAttemptTimeoutMs.toNat < 2 ^ 31)
    (hfirst : atMs ≤ nextMs) (hsorted : ∀ w ∈ later, w.input.atMs ≤ nextMs)
    (hexpired : s.ntpAttemptInFlight = true →
      deadlineReached (ms32 nextMs) s.ntpAttemptDeadlineMs = true) :
    atMs + c.ntpAttemptTimeoutMs.toNat ≤ nextMs := by
  cases h with
  | inFlight flag deadline =>
    have hreached := hexpired flag
    rw [deadline] at hreached
    exact le_of_reachedSigned hfirst htimeout hreached
  | ended _ w mem elapsed => exact Nat.le_trans elapsed (hsorted w mem)

theorem Consistent.configures {s : DevMqttSmokeState} (h : s.Consistent) {input : SmokeInput}
    (haction : (s.step c input).2 = .configureTime) :
    s.state = .waitingForTime ∧ (s.step c input).1.state = .waitingForTime ∧
      (s.step c input).1.ntpAttemptInFlight = true ∧
      (s.step c input).1.ntpAttemptDeadlineMs = ms32 input.atMs + c.ntpAttemptTimeoutMs ∧
      (s.ntpAttemptInFlight = true →
        deadlineReached (ms32 input.atMs) s.ntpAttemptDeadlineMs = true) := by
  obtain ⟨_, _, _, _, hstep⟩ := h.acts (c := c) (by rw [haction]; exact nofun)
  generalize s.step c input = result at hstep haction
  cases hstep with
  | recovering => cases haction
  | awaiting => cases haction
  | offline _ _ _ hstep =>
    cases hstep with
    | _ => cases haction
  | online _ _ _ _ hstep =>
    cases hstep with
    | configuringTime hstage _ hexpired => exact ⟨hstage, hstage, rfl, rfl, hexpired⟩
    | _ => cases haction

theorem NtpAttempt.next {later : List SmokeTransition} {s : DevMqttSmokeState}
    (h : NtpAttempt c atMs later s) (hconsistent : s.Consistent)
    (hstage : s.state = .waitingForTime) (htimeout : c.ntpAttemptTimeoutMs.toNat < 2 ^ 31)
    {input : SmokeInput} (hfirst : atMs ≤ input.atMs)
    (hsorted : ∀ w ∈ later, w.input.atMs ≤ input.atMs)
    (haction : (s.step c input).2 ≠ .configureTime)
    (hends : ¬ EndsSynchronization (.of (step c) s input)) :
    (s.step c input).1.state = .waitingForTime ∧
      NtpAttempt c atMs (later ++ [.of (step c) s input]) (s.step c input).1 := by
  rw [Transition.of] at hends ⊢
  have hstep := hconsistent.smokeStep c input
  generalize s.step c input = result at hstep haction hends ⊢
  cases hstep with
  | updated _ hstep =>
    cases hstep with
    | recovering => exact absurd (.inr (.inr rfl)) hends
    | awaiting => exact ⟨hstage, h.kept rfl rfl _⟩
    | offline _ _ hdown _ =>
      subst hdown
      exact absurd (.inr (.inl ⟨_, _, rfl⟩)) hends
    | online _ _ _ _ hstep =>
      cases hstep with
      | resolving hother => cases hstage.symm.trans hother
      | retryingDns hother => cases hstage.symm.trans hother
      | waitingForDns hother => cases hstage.symm.trans hother
      | synchronizing => exact ⟨hstage, h.kept rfl rfl _⟩
      | waitingForTime _ _ hexpired =>
        have helapsed := h.expired htimeout hfirst hsorted hexpired
        exact ⟨hstage, .ended rfl _ (List.mem_append_right _ List.mem_cons_self) helapsed⟩
      | configuringTime => exact absurd rfl haction
      | losingTime hother => cases hstage.symm.trans hother
      | connected _ _ hvalid =>
        subst hvalid
        exact absurd (.inl ⟨_, _, rfl⟩) hends
      | connectingMqtt _ _ hvalid =>
        subst hvalid
        exact absurd (.inl ⟨_, _, rfl⟩) hends
      | waitingForMqtt hother => cases hstage.symm.trans hother
      | online hother => cases hstage.symm.trans hother
      | losingMqtt hother => cases hstage.symm.trans hother
  | ignored => exact ⟨hstage, h.kept rfl rfl _⟩
  | started =>
    refine ⟨hstage, ?_⟩
    apply h.kept
    · rfl
    · rfl
  | associated hother => cases hstage.symm.trans hother
  | refused hother => cases hstage.symm.trans hother
  | reported _ hstep => exact absurd hstage hstep.not_time

theorem Consistent.ntpAttempt_run {s : DevMqttSmokeState} (h : s.Consistent)
    (htimeout : c.ntpAttemptTimeoutMs.toNat < 2 ^ 31) {input : SmokeInput}
    (haction : (s.step c input).2 = .configureTime) (inputs : List SmokeInput)
    (horder : InOrder (.of (step c) s input :: transitions (step c) (s.step c input).1 inputs))
    (hbetween : ∀ v ∈ transitions (step c) (s.step c input).1 inputs,
      v.output ≠ .configureTime ∧ ¬ EndsSynchronization v) :
    NtpAttempt c input.atMs (transitions (step c) (s.step c input).1 inputs)
      (finalState (step c) (s.step c input).1 inputs) := by
  obtain ⟨_, hstage, hflag, hdeadline, _⟩ := h.configures haction
  have hrun : (finalState (step c) (s.step c input).1 inputs).Consistent ∧
      (finalState (step c) (s.step c input).1 inputs).state = .waitingForTime ∧
      NtpAttempt c input.atMs (transitions (step c) (s.step c input).1 inputs)
        (finalState (step c) (s.step c input).1 inputs) := by
    apply run_induction_ordered (motive := fun ts t => t.Consistent ∧
      t.state = .waitingForTime ∧ NtpAttempt c input.atMs ts t)
      ⟨h.next c input, hstage, .inFlight hflag hdeadline⟩ ?_ inputs horder hbetween
    intro ts t next ht hsorted hnext
    obtain ⟨hconsistent, hstage, hattempt⟩ := ht
    rw [List.forall_mem_cons] at hsorted
    exact ⟨hconsistent.next c next,
      hattempt.next hconsistent hstage htimeout hsorted.1 hsorted.2 hnext.1 hnext.2⟩
  exact hrun.2.2

/-- No attempt is repeated while it may still succeed, and each one advances the backoff once at
most. -/
structure AttemptsKept (c : DevSmokeConfig) (ts : List SmokeTransition) : Prop where
  wifi : ∀ r between u, ConsecutiveActions .connectWifi ts r between u →
    (∃ v ∈ between, EndsAttempt v) ∨ AttemptOver c (r :: between) u.input.atMs
  time : ∀ r between u, ConsecutiveActions .configureTime ts r between u →
    (∃ v ∈ between, EndsSynchronization v) ∨
      r.input.atMs + c.ntpAttemptTimeoutMs.toNat ≤ u.input.atMs
  backoff : ∀ earlier r between u later, ts = earlier ++ r :: (between ++ u :: later) →
    r.output = .connectWifi → (∀ v ∈ between, v.output ≠ .connectWifi) →
    ∃ n, n ≤ 1 ∧ BackoffAdvances c n (∃ v ∈ between ++ [u], ReportsOnline v) r.after u.after

theorem InOrder.window (h : InOrder (earlier ++ r :: (between ++ u :: later))) :
    InOrder (r :: between) ∧ ∀ v ∈ r :: between, v.input.atMs ≤ u.input.atMs := by
  have hafter := (List.pairwise_append.mp h).2.1
  rw [← List.cons_append] at hafter
  obtain ⟨hbetween, _, hu⟩ := List.pairwise_append.mp hafter
  exact ⟨hbetween, fun v hv => hu v hv u List.mem_cons_self⟩

theorem wifi_attemptOver {c : DevSmokeConfig} {inputs : List SmokeInput}
    (htimeout : c.wifiAssociationTimeoutMs.toNat < 2 ^ 31)
    (horder : InOrder (transitions (step c) (constructed c) inputs))
    (hactions : ConsecutiveActions .connectWifi (transitions (step c) (constructed c) inputs)
      r between u) (hends : ¬ ∃ v ∈ between, EndsAttempt v) :
    AttemptOver c (r :: between) u.input.atMs := by
  obtain ⟨⟨earlier, later, hts⟩, hfirst, hsecond, hbetween⟩ := hactions
  rw [hts] at horder
  obtain ⟨hwindow, hsorted⟩ := horder.window
  obtain ⟨inputs₁, first, _, _, rfl, rfl, hrest⟩ := transitions_split hts
  obtain ⟨inputs₂, second, _, _, rfl, rfl, _⟩ := transitions_split hrest.symm
  have hconsistent := consistent_run c inputs₁
  obtain ⟨hstage, hattempt⟩ := hconsistent.wifiAttempt_run htimeout hfirst inputs₂ hwindow
    fun v hv => ⟨hbetween v hv, fun hv' => hends ⟨v, hv, hv'⟩⟩
  exact hattempt.reissued ((hconsistent.next c first).run c inputs₂) hstage htimeout hsorted hsecond

theorem ntp_attemptOver {c : DevSmokeConfig} {inputs : List SmokeInput}
    (htimeout : c.ntpAttemptTimeoutMs.toNat < 2 ^ 31)
    (horder : InOrder (transitions (step c) (constructed c) inputs))
    (hactions : ConsecutiveActions .configureTime (transitions (step c) (constructed c) inputs)
      r between u) (hends : ¬ ∃ v ∈ between, EndsSynchronization v) :
    r.input.atMs + c.ntpAttemptTimeoutMs.toNat ≤ u.input.atMs := by
  obtain ⟨⟨earlier, later, hts⟩, hfirst, hsecond, hbetween⟩ := hactions
  rw [hts] at horder
  obtain ⟨hwindow, hsorted⟩ := horder.window
  rw [List.forall_mem_cons] at hsorted
  obtain ⟨inputs₁, first, _, _, rfl, rfl, hrest⟩ := transitions_split hts
  obtain ⟨inputs₂, second, _, _, rfl, rfl, _⟩ := transitions_split hrest.symm
  have hconsistent := consistent_run c inputs₁
  have hattempt := hconsistent.ntpAttempt_run htimeout hfirst inputs₂ hwindow
    fun v hv => ⟨hbetween v hv, fun hv' => hends ⟨v, hv, hv'⟩⟩
  obtain ⟨_, _, _, _, hexpired⟩ := ((hconsistent.next c first).run c inputs₂).configures hsecond
  exact hattempt.expired htimeout hsorted.1 hsorted.2 hexpired

theorem backoff_advancesOnce {c : DevSmokeConfig} {inputs : List SmokeInput}
    (hts : transitions (step c) (constructed c) inputs =
      earlier ++ r :: (between ++ u :: later))
    (hfirst : r.output = .connectWifi) (hbetween : ∀ v ∈ between, v.output ≠ .connectWifi) :
    ∃ n, n ≤ 1 ∧ BackoffAdvances c n (∃ v ∈ between ++ [u], ReportsOnline v) r.after u.after := by
  obtain ⟨inputs₁, first, _, _, rfl, rfl, hrest⟩ := transitions_split hts
  obtain ⟨inputs₂, second, _, _, rfl, rfl, _⟩ := transitions_split hrest.symm
  have hconsistent := consistent_run c inputs₁
  obtain ⟨_, hflag, hpending, _⟩ := hconsistent.connects hfirst
  have hnext := hconsistent.next c first
  obtain ⟨m, hm, hadvances⟩ := hnext.advances_run c inputs₂ hbetween
  obtain ⟨n, hn, _, hlast⟩ := (hnext.run c inputs₂).usesAwaited c second
  have hboth := hadvances.trans hlast
  have hone : (step c (finalState (step c) (constructed c) inputs₁) first).1.awaited = 1 := by
    rw [awaited, hflag, hpending]
    rfl
  refine ⟨n + m, ?_, hboth.scheduled, ?_⟩
  · rw [hone] at hm
    omega
  · intro honline
    apply hboth.delay
    intro hreports
    rcases hreports with ⟨v, hv, hreports⟩ | hreports
    · exact honline ⟨v, List.mem_append_left _ hv, hreports⟩
    · exact honline ⟨_, List.mem_append_right _ List.mem_cons_self, hreports⟩

/-- Over every run with timeouts of less than half the counter's range. -/
theorem attemptsKept_run (c : DevSmokeConfig)
    (hwifi : c.wifiAssociationTimeoutMs.toNat < 2 ^ 31)
    (hntp : c.ntpAttemptTimeoutMs.toNat < 2 ^ 31) (inputs : List SmokeInput)
    (hsorted : (inputs.map SmokeInput.atMs).Pairwise (· ≤ ·)) :
    AttemptsKept c (transitions (step c) (constructed c) inputs) := by
  have horder := inOrder_transitions hsorted c (constructed c)
  constructor
  · intro r between u hactions
    by_cases hends : ∃ v ∈ between, EndsAttempt v
    · exact .inl hends
    · exact .inr (wifi_attemptOver hwifi horder hactions hends)
  · intro r between u hactions
    by_cases hends : ∃ v ∈ between, EndsSynchronization v
    · exact .inl hends
    · exact .inr (ntp_attemptOver hntp horder hactions hends)
  · intro earlier r between u later hts hfirst hbetween
    exact backoff_advancesOnce hts hfirst hbetween

/-- An attempt that is confirmed but does not connect, and the one after it. -/
def unconfirmedAttempt : List SmokeInput :=
  [⟨.update false false false, 0⟩, ⟨.wifiAssociationStarted, 500⟩,
    ⟨.wifiAssociationResult true, 2000⟩, ⟨.wifiAssociationResult false, 2001⟩,
    ⟨.update false false false, 17000⟩, ⟨.update false false false, 18000⟩]

theorem unconfirmedAttempt_attemptsKept :
    (transitions (step {}) (constructed {}) unconfirmedAttempt).map (fun u => u.output) =
        [.connectWifi, .none, .none, .none, .none, .connectWifi] ∧
      AttemptsKept {} (transitions (step {}) (constructed {}) unconfirmedAttempt) :=
  ⟨by decide, attemptsKept_run {} (by decide) (by decide) unconfirmedAttempt (by decide)⟩

end DevMqttSmokeState
end InterBridge
