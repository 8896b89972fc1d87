import InterBridge.Dev.SmokeProgress

namespace InterBridge
open Foundations
set_option autoImplicit true

/-- The call is not one of `update`. -/
def SmokeInput.IsSignal (input : SmokeInput) : Prop :=
  ∀ wifiConnected, ¬ input.Samples wifiConnected

namespace DevMqttSmokeState

/-- The deadline that holds `update` back while Wi-Fi is down: of the attempt in flight, else of
the confirmation that is awaited, else of the retry. -/
def blockingDeadline (s : DevMqttSmokeState) : UInt32 :=
  if s.wifiAttemptInFlight then s.wifiAttemptDeadlineMs
  else if s.wifiConfirmPending then s.wifiConfirmDeadlineMs
  else s.wifiRetryAtMs

def AtBlockingDeadline (s : DevMqttSmokeState) (nowMs : UInt32) : Prop :=
  deadlineReached nowMs s.blockingDeadline = true

/-- At least two of the three Wi-Fi deadlines are the same. -/
def RearmsOne (s s' : DevMqttSmokeState) : Prop :=
  (s'.wifiConfirmDeadlineMs = s.wifiConfirmDeadlineMs ∧ s'.wifiRetryAtMs = s.wifiRetryAtMs) ∨
    (s'.wifiAttemptDeadlineMs = s.wifiAttemptDeadlineMs ∧ s'.wifiRetryAtMs = s.wifiRetryAtMs) ∨
    (s'.wifiAttemptDeadlineMs = s.wifiAttemptDeadlineMs ∧
      s'.wifiConfirmDeadlineMs = s.wifiConfirmDeadlineMs)

/-- From the call `u` of `update` that finds Wi-Fi down on, the second further one at the latest
connects. -/
structure ReconnectsSoon (ts : List SmokeTransition) : Prop where
  waits : ∀ u ∈ ts, u.input.Samples false → u.after.state = .waitingForWifi
  rearms : ∀ u ∈ ts, u.input.IsSignal → RearmsOne u.before u.after
  reconnects : ∀ earlier u signals a signals' b later,
    ts = earlier ++ u :: (signals ++ a :: (signals' ++ b :: later)) →
    u.input.Samples false → (∀ v ∈ signals, v.input.IsSignal) →
    a.input.Samples false → a.before.AtBlockingDeadline (ms32 a.input.atMs) →
    (∀ v ∈ signals', v.input.IsSignal) →
    b.input.Samples false → b.before.AtBlockingDeadline (ms32 b.input.atMs) →
    a.output = .connectWifi ∨ b.output = .connectWifi

/-- Neither an attempt nor a confirmation is waited for. -/
def Unblocked (s : DevMqttSmokeState) : Prop :=
  s.wifiAttemptInFlight = false ∧ s.wifiConfirmPending = false

theorem Consistent.waits {s : DevMqttSmokeState} (h : s.Consistent)
    {input : SmokeInput} (hsamples : input.Samples false) (c : DevSmokeConfig) :
    (s.step c input).1.state = .waitingForWifi := by
  obtain ⟨timeValid, mqttConnected, hstep⟩ := h.samples_step hsamples c
  generalize s.step c input = result at hstep
  cases hstep with
  | recovering => rfl
  | awaiting _ _ hup => exact absurd hup Bool.false_ne_true
  | offline _ _ _ hstep => exact hstep.kept.1.trans (s.noticeLoss_state c _)
  | online _ _ _ hup _ => exact absurd hup Bool.false_ne_true

/-- A call at the blocking deadline connects, or clears what blocked a retry. -/
theorem Consistent.reconnects {s : DevMqttSmokeState} (h : s.Consistent)
    (hstage : s.state = .waitingForWifi) {input : SmokeInput} (hsamples : input.Samples false)
    (hdue : s.AtBlockingDeadline (ms32 input.atMs)) (c : DevSmokeConfig) :
    (s.step c input).2 = .connectWifi ∨ ((s.step c input).1.Unblocked ∧ ¬ s.Unblocked) := by
  obtain ⟨timeValid, mqttConnected, hstep⟩ := h.samples_step hsamples c
  generalize s.step c input = result at hstep
  rw [AtBlockingDeadline, blockingDeadline] at hdue
  cases hstep with
  | recovering hrequested => exact absurd hstage (h.requested hrequested)
  | awaiting _ _ hup => exact absurd hup Bool.false_ne_true
  | online _ _ _ hup _ => exact absurd hup Bool.false_ne_true
  | offline _ _ _ hstep =>
    rcases s.noticeLoss_cases c (ms32 input.atMs) with ⟨_, hloss⟩ | ⟨hother, _⟩
    · rw [hloss] at hstep
      cases hstep with
      | attempting hattempt hearly =>
        rw [if_pos hattempt] at hdue
        exact absurd (hearly.symm.trans hdue) Bool.false_ne_true
      | confirming hattempt hconfirm hearly =>
        rw [if_neg (Bool.eq_false_iff.mp hattempt), if_pos hconfirm] at hdue
        exact absurd (hearly.symm.trans hdue) Bool.false_ne_true
      | waiting s' hreleased hearly =>
        refine .inr ⟨hreleased.clear, ?_⟩
        intro hunblocked
        rw [if_neg (Bool.eq_false_iff.mp hunblocked.1),
          if_neg (Bool.eq_false_iff.mp hunblocked.2)] at hdue
        cases hreleased with
        | free => exact absurd (hearly.symm.trans hdue) Bool.false_ne_true
        | attemptExpired htrue => exact absurd (hunblocked.1.symm.trans htrue) Bool.false_ne_true
        | confirmExpired _ htrue => exact absurd (hunblocked.2.symm.trans htrue) Bool.false_ne_true
      | connecting => exact .inl rfl
    · exact absurd hstage hother

theorem Consistent.signal_rearms {s : DevMqttSmokeState} (h : s.Consistent) {input : SmokeInput}
    (hsignal : input.IsSignal) (c : DevSmokeConfig) : RearmsOne s (s.step c input).1 := by
  have hstep := h.smokeStep c input
  generalize s.step c input = result at hstep
  cases hstep with
  | updated => exact absurd ⟨_, _, rfl⟩ (hsignal _)
  | ignored => exact .inl ⟨rfl, rfl⟩
  | started => exact .inl ⟨rfl, rfl⟩
  | associated => exact .inr (.inl ⟨rfl, rfl⟩)
  | refused => exact .inr (.inr ⟨rfl, rfl⟩)
  | reported _ hstep => exact .inl hstep.kept.2.2

theorem Consistent.signal_waits {s : DevMqttSmokeState} (h : s.Consistent)
    (hstage : s.state = .waitingForWifi) {input : SmokeInput} (hsignal : input.IsSignal)
    (c : DevSmokeConfig) :
    (s.step c input).1.state = .waitingForWifi ∧
      (s.Unblocked → (s.step c input).1.Unblocked) := by
  have hstep := h.smokeStep c input
  generalize s.step c input = result at hstep
  cases hstep with
  | updated => exact absurd ⟨_, _, rfl⟩ (hsignal _)
  | ignored => exact ⟨hstage, id⟩
  | started => exact ⟨hstage, id⟩
  | associated _ hattempt =>
    refine ⟨hstage, ?_⟩
    intro hunblocked
    exact absurd (hunblocked.1.symm.trans hattempt) Bool.false_ne_true
  | refused => exact ⟨hstage, fun hunblocked => ⟨rfl, hunblocked.2⟩⟩
  | reported _ hstep => exact absurd hstage hstep.not_wifi

theorem Consistent.signals_wait {s : DevMqttSmokeState} (h : s.Consistent)
    (hstage : s.state = .waitingForWifi) (c : DevSmokeConfig) (inputs : List SmokeInput)
    (hsignals : ∀ v ∈ transitions (step c) s inputs, v.input.IsSignal) :
    (finalState (step c) s inputs).Consistent ∧
      (finalState (step c) s inputs).state = .waitingForWifi ∧
      (s.Unblocked → (finalState (step c) s inputs).Unblocked) := by
  induction inputs generalizing s with
  | nil => exact ⟨h, hstage, id⟩
  | cons input inputs ih =>
    rw [transitions, List.forall_mem_cons] at hsignals
    obtain ⟨hsignal, hsignals⟩ := hsignals
    obtain ⟨hwaits, hunblocked⟩ := h.signal_waits hstage hsignal c
    obtain ⟨hconsistent, hfinal, hstays⟩ := ih (h.next c input) hwaits hsignals
    exact ⟨hconsistent, hfinal, fun hs => hstays (hunblocked hs)⟩

/-- Over every run, whatever signals come in between. -/
theorem reconnectsSoon_run (c : DevSmokeConfig) (inputs : List SmokeInput) :
    ReconnectsSoon (transitions (step c) (constructed c) inputs) := by
  constructor
  · intro u hu hsamples
    obtain ⟨inputs₁, input, _, _, rfl⟩ := exists_of_mem_transitions hu
    exact (consistent_run c inputs₁).waits hsamples c
  · intro u hu hsignal
    obtain ⟨inputs₁, input, _, _, rfl⟩ := exists_of_mem_transitions hu
    exact (consistent_run c inputs₁).signal_rearms hsignal c
  · intro earlier u signals a signals' b later hts hu hsignals ha hdue hsignals' hb hdue'
    obtain ⟨inputs₁, first, _, _, _, rfl, hrest⟩ := transitions_split hts
    obtain ⟨inputs₂, second, _, _, rfl, rfl, hrest⟩ := transitions_split hrest.symm
    obtain ⟨inputs₃, third, _, _, rfl, rfl, _⟩ := transitions_split hrest.symm
    have hconsistent := consistent_run c inputs₁
    generalize finalState (step c) (constructed c) inputs₁ = s at *
    obtain ⟨hconsistent, hwaits, _⟩ := (hconsistent.next c first).signals_wait
      (hconsistent.waits hu c) c inputs₂ hsignals
    dsimp only [Transition.of] at *
    generalize finalState (step c) (s.step c first).1 inputs₂ = s₂ at *
    rcases hconsistent.reconnects hwaits ha hdue c with hconnects | ⟨hunblocked, _⟩
    · exact .inl hconnects
    · right
      obtain ⟨hconsistent, hwaits, hstays⟩ := (hconsistent.next c second).signals_wait
        (hconsistent.waits ha c) c inputs₃ hsignals'
      rcases hconsistent.reconnects hwaits hb hdue' c with hconnects | ⟨_, hblocked⟩
      · exact hconnects
      · exact absurd (hstays hunblocked) hblocked

end DevMqttSmokeState
end InterBridge
