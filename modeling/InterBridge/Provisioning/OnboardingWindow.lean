import InterBridge.Foundations.History
import InterBridge.Provisioning.BleProvisioning
import Mathlib.Algebra.Group.Nat.Defs

namespace InterBridge
open Foundations
set_option autoImplicit true

/-- A call of the window, at a time on an unbounded clock. -/
inductive OnboardingCall where
  | requestStart (atMs : Nat)
  | confirmStart (atMs : Nat)
  | close (atMs : Nat)
  | update (atMs : Nat)
  deriving DecidableEq

def OnboardingCall.atMs : OnboardingCall → Nat
  | .requestStart atMs => atMs
  | .confirmStart atMs => atMs
  | .close atMs => atMs
  | .update atMs => atMs

abbrev OnboardingTransition :=
  Transition BleOnboardingWindow OnboardingCall BleOnboardingWindowEvent

def onboardingStep (w : BleOnboardingWindow) :
    OnboardingCall → BleOnboardingWindow × BleOnboardingWindowEvent
  | .requestStart atMs => (w.requestStart (ms32 atMs), .none)
  | .confirmStart atMs => (w.confirmStart (ms32 atMs), .none)
  | .close _ => (w.close, .none)
  | .update atMs => w.update (ms32 atMs)

def onboardingRun (confirmationTimeoutMs windowMs : UInt32) (calls : List OnboardingCall) :
    List OnboardingTransition :=
  transitions onboardingStep { confirmationTimeoutMs, windowMs } calls

/-- Times do not go back, and each gap is short. -/
def ShortGaps (calls : List OnboardingCall) : Prop :=
  calls.IsChain fun c d => c.atMs ≤ d.atMs ∧ d.atMs < c.atMs + 2 ^ 30

instance (calls : List OnboardingCall) : Decidable (ShortGaps calls) :=
  inferInstanceAs (Decidable (List.IsChain _ _))

namespace OnboardingTransition

def Requests (u : OnboardingTransition) : Prop := ∃ atMs, u.input = .requestStart atMs

def Opens (u : OnboardingTransition) : Prop :=
  u.before.isOpen = false ∧ u.after.isOpen = true

/-- The attempt ends: by a report, or by `close`. -/
def Ends (u : OnboardingTransition) : Prop := u.output ≠ .none ∨ ∃ atMs, u.input = .close atMs

end OnboardingTransition

/-- The latest request was made at `atMs`. -/
def RequestedAt (atMs : Nat) (ts : List OnboardingTransition) : Prop :=
  Since (fun u => ¬ OnboardingTransition.Requests u) (fun u => u.input = .requestStart atMs) ts

/-- The window was last opened at `atMs`. -/
def OpenedAt (atMs : Nat) (ts : List OnboardingTransition) : Prop :=
  Since (fun u => ¬ OnboardingTransition.Opens u)
    (fun u => OnboardingTransition.Opens u ∧ u.input = .confirmStart atMs) ts

/-- What the window promises over a run. -/
structure NeverResurrects (confirmationTimeoutMs windowMs : UInt32)
    (ts : List OnboardingTransition) : Prop where
  /-- It opens only by a confirmation made before the deadline of the latest request. -/
  opened : ∀ earlier u later, ts = earlier ++ u :: later → OnboardingTransition.Opens u →
    ∃ atMs requestedMs, u.input = .confirmStart atMs ∧ RequestedAt requestedMs earlier ∧
      atMs < requestedMs + confirmationTimeoutMs.toNat
  /-- A confirmation without a request, or at or past its deadline, does nothing. -/
  late : ∀ earlier u later, ts = earlier ++ u :: later → ∀ atMs, u.input = .confirmStart atMs →
    (∀ requestedMs, RequestedAt requestedMs earlier →
      requestedMs + confirmationTimeoutMs.toNat ≤ atMs) → u.after = u.before
  /-- An attempt that has ended stays closed until the next request. -/
  ended : ∀ earlier u during later, ts = earlier ++ u :: (during ++ later) →
    OnboardingTransition.Ends u → (∀ w ∈ during, ¬ OnboardingTransition.Requests w) →
    ∀ w ∈ u :: during, w.after.isOpen = false ∧ w.after.awaitingConfirmation = false
  exclusive : ∀ u ∈ ts, ¬ (u.after.awaitingConfirmation = true ∧ u.after.isOpen = true)
  /-- Between two requests at most one end is reported. -/
  once : ∀ earlier during later, ts = earlier ++ (during ++ later) →
    (∀ w ∈ during, ¬ OnboardingTransition.Requests w) →
    (during.filter fun w => w.output ≠ .none).length ≤ 1
  /-- Confirming an open window again does not extend it. -/
  repeated : ∀ u ∈ ts, ∀ atMs, u.input = .confirmStart atMs → u.before.isOpen = true →
    u.after = u.before
  timedOut : ∀ earlier u later, ts = earlier ++ u :: later → ∀ atMs openedMs,
    u.input = .update atMs → OpenedAt openedMs earlier → openedMs + windowMs.toNat ≤ atMs →
    u.after.isOpen = false

/-- A confirmation finds the window still waiting for it at or past its deadline. -/
def ConfirmedLate (confirmationTimeoutMs : UInt32) (earlier : List OnboardingTransition)
    (u : OnboardingTransition) : Prop :=
  u.before.awaitingConfirmation = true ∧ ∃ atMs requestedMs, u.input = .confirmStart atMs ∧
    RequestedAt requestedMs earlier ∧ requestedMs + confirmationTimeoutMs.toNat ≤ atMs

/-- An update finds the window open so far past its end that the distance reads as negative. -/
def UpdatedLate (windowMs : UInt32) (earlier : List OnboardingTransition)
    (u : OnboardingTransition) : Prop :=
  u.before.isOpen = true ∧ ∃ atMs openedMs, u.input = .update atMs ∧ OpenedAt openedMs earlier ∧
    openedMs + windowMs.toNat ≤ atMs ∧ 2 ^ 31 ≤ (atMs - (openedMs + windowMs.toNat)) % 2 ^ 32

/-- The flags of the window, and where its deadlines come from. -/
structure OnboardingTracks (confirmationTimeoutMs windowMs : UInt32)
    (ts : List OnboardingTransition) (w : BleOnboardingWindow) : Prop where
  timeouts : w.confirmationTimeoutMs = confirmationTimeoutMs ∧ w.windowMs = windowMs
  exclusive : ¬ (w.awaitingConfirmation = true ∧ w.isOpen = true)
  awaiting : w.awaitingConfirmation = true → ∃ requestedMs, RequestedAt requestedMs ts
  opened : w.isOpen = true →
    ∃ openedMs, OpenedAt openedMs ts ∧ w.windowDeadlineMs = ms32 openedMs + windowMs

theorem RequestedAt.unique (h : RequestedAt a ts) (h' : RequestedAt b ts) : a = b := by
  obtain ⟨u, hu, hu'⟩ := Since.unique h h' (fun v hv hnot => hnot ⟨a, hv⟩)
    (fun v hv hnot => hnot ⟨b, hv⟩)
  exact OnboardingCall.requestStart.inj (hu.symm.trans hu')

theorem OpenedAt.unique (h : OpenedAt a ts) (h' : OpenedAt b ts) : a = b := by
  obtain ⟨u, hu, hu'⟩ := Since.unique h h' (fun v hv hnot => hnot hv.1) (fun v hv hnot => hnot hv.1)
  exact OnboardingCall.confirmStart.inj (hu.2.symm.trans hu'.2)

section Step
variable {confirmationTimeoutMs windowMs : UInt32} {ts : List OnboardingTransition}
  {w : BleOnboardingWindow}

theorem RequestedAt.concat (h : RequestedAt requestedMs ts)
    (hu : ¬ OnboardingTransition.Requests u) : RequestedAt requestedMs (ts ++ [u]) :=
  since_concat.mpr (.inr ⟨hu, h⟩)

theorem OpenedAt.concat (h : OpenedAt openedMs ts) (hu : ¬ OnboardingTransition.Opens u) :
    OpenedAt openedMs (ts ++ [u]) :=
  since_concat.mpr (.inr ⟨hu, h⟩)

theorem OnboardingTracks.kept (h : OnboardingTracks confirmationTimeoutMs windowMs ts w)
    {call : OnboardingCall} (hcall : ∀ atMs, call ≠ .requestStart atMs)
    (htimeouts : (onboardingStep w call).1.confirmationTimeoutMs = w.confirmationTimeoutMs ∧
      (onboardingStep w call).1.windowMs = w.windowMs)
    (hawaiting : (onboardingStep w call).1.awaitingConfirmation = true →
      w.awaitingConfirmation = true)
    (hopen : (onboardingStep w call).1.isOpen = true →
      w.isOpen = true ∧ (onboardingStep w call).1.windowDeadlineMs = w.windowDeadlineMs) :
    OnboardingTracks confirmationTimeoutMs windowMs (ts ++ [.of onboardingStep w call])
      (onboardingStep w call).1 := by
  constructor
  · rw [htimeouts.1, htimeouts.2]
    exact h.timeouts
  · exact fun hboth => h.exclusive ⟨hawaiting hboth.1, (hopen hboth.2).1⟩
  · intro hafter
    obtain ⟨requestedMs, hrequested⟩ := h.awaiting (hawaiting hafter)
    exact ⟨requestedMs, hrequested.concat fun ⟨atMs, hu⟩ => hcall atMs hu⟩
  · intro hafter
    obtain ⟨hbefore, hdeadline⟩ := hopen hafter
    obtain ⟨openedMs, hopened, hsince⟩ := h.opened hbefore
    refine ⟨openedMs, hopened.concat fun hu => ?_, hdeadline.trans hsince⟩
    exact Bool.false_ne_true (hu.1.symm.trans hbefore)

theorem confirmStart_idle (h : w.awaitingConfirmation = false) (nowMs : UInt32) :
    w.confirmStart nowMs = w := by
  rw [BleOnboardingWindow.confirmStart, h]
  rfl

theorem confirmStart_awaiting (h : w.awaitingConfirmation = true) (nowMs : UInt32) :
    w.confirmStart nowMs = { w with
      awaitingConfirmation := false, isOpen := true, windowDeadlineMs := nowMs + w.windowMs } := by
  rw [BleOnboardingWindow.confirmStart, h]
  rfl

/-- What an update does: nothing, or it takes away the flag whose deadline is reached. -/
theorem update_cases (w : BleOnboardingWindow) (nowMs : UInt32) :
    w.update nowMs = (w, .none) ∨
    (w.awaitingConfirmation = true ∧
      w.update nowMs = ({ w with awaitingConfirmation := false }, .startNotConfirmed)) ∨
    (w.isOpen = true ∧ w.update nowMs = ({ w with isOpen := false }, .windowTimedOut)) := by
  rw [BleOnboardingWindow.update]
  split
  · next h =>
    rw [Bool.and_eq_true] at h
    exact .inr (.inl ⟨h.1, rfl⟩)
  split
  · next h =>
    rw [Bool.and_eq_true] at h
    exact .inr (.inr ⟨h.1, rfl⟩)
  · exact .inl rfl

theorem OnboardingTracks.next (h : OnboardingTracks confirmationTimeoutMs windowMs ts w)
    (call : OnboardingCall) :
    OnboardingTracks confirmationTimeoutMs windowMs (ts ++ [.of onboardingStep w call])
      (onboardingStep w call).1 := by
  cases call with
  | requestStart atMs =>
    refine ⟨h.timeouts, fun hboth => Bool.false_ne_true hboth.2, fun _ => ?_,
      fun hopen => absurd hopen Bool.false_ne_true⟩
    exact ⟨atMs, since_concat.mpr (.inl rfl)⟩
  | confirmStart atMs =>
    cases hawaiting : w.awaitingConfirmation with
    | false =>
      have hstep : (onboardingStep w (.confirmStart atMs)).1 = w := confirmStart_idle hawaiting _
      apply h.kept
      · nofun
      · rw [hstep]
        exact ⟨rfl, rfl⟩
      · rw [hstep]
        exact id
      · rw [hstep]
        exact fun hopen => ⟨hopen, rfl⟩
    | true =>
      have hstep : (onboardingStep w (.confirmStart atMs)).1 = _ :=
        confirmStart_awaiting hawaiting _
      have hclosed : w.isOpen = false := by
        rw [← Bool.not_eq_true]
        exact fun hopen => h.exclusive ⟨hawaiting, hopen⟩
      rw [hstep]
      refine ⟨h.timeouts, fun hboth => Bool.false_ne_true hboth.1,
        fun hafter => absurd hafter Bool.false_ne_true, fun _ => ?_⟩
      refine ⟨atMs, since_concat.mpr (.inl ⟨⟨hclosed, ?_⟩, rfl⟩), ?_⟩
      · exact congrArg BleOnboardingWindow.isOpen hstep
      · rw [← h.timeouts.2]
  | close atMs =>
    refine h.kept ?_ ⟨rfl, rfl⟩ (fun hafter => absurd hafter Bool.false_ne_true)
      fun hafter => absurd hafter Bool.false_ne_true
    nofun
  | update atMs =>
    rcases update_cases w (ms32 atMs) with hupdate | ⟨_, hupdate⟩ | ⟨_, hupdate⟩
    · have hstep : (onboardingStep w (.update atMs)).1 = w := congrArg Prod.fst hupdate
      apply h.kept
      · nofun
      · rw [hstep]
        exact ⟨rfl, rfl⟩
      · rw [hstep]
        exact id
      · rw [hstep]
        exact fun hopen => ⟨hopen, rfl⟩
    · have hstep : (onboardingStep w (.update atMs)).1 = _ := congrArg Prod.fst hupdate
      apply h.kept
      · nofun
      · rw [hstep]
        exact ⟨rfl, rfl⟩
      · rw [hstep]
        exact fun hafter => absurd hafter Bool.false_ne_true
      · rw [hstep]
        exact fun hopen => ⟨hopen, rfl⟩
    · have hstep : (onboardingStep w (.update atMs)).1 = _ := congrArg Prod.fst hupdate
      apply h.kept
      · nofun
      · rw [hstep]
        exact ⟨rfl, rfl⟩
      · rw [hstep]
        exact id
      · rw [hstep]
        exact fun hafter => absurd hafter Bool.false_ne_true

theorem onboardingTracks_run (confirmationTimeoutMs windowMs : UInt32)
    (calls : List OnboardingCall) :
    OnboardingTracks confirmationTimeoutMs windowMs
      (onboardingRun confirmationTimeoutMs windowMs calls)
      (finalState onboardingStep { confirmationTimeoutMs, windowMs } calls) := by
  apply run_induction (motive := OnboardingTracks confirmationTimeoutMs windowMs)
  · exact ⟨⟨rfl, rfl⟩, fun h => Bool.false_ne_true h.1, nofun, nofun⟩
  · exact fun ts w call h => h.next call

theorem onboardingTracks_of_mem
    (h : onboardingRun confirmationTimeoutMs windowMs calls = earlier ++ u :: later) :
    OnboardingTracks confirmationTimeoutMs windowMs earlier u.before ∧
      OnboardingTracks confirmationTimeoutMs windowMs (earlier ++ [u]) u.after ∧
      u.after = (onboardingStep u.before u.input).1 := by
  obtain ⟨calls₁, call, _, _, rfl, rfl, _⟩ := transitions_split h
  have htracks := onboardingTracks_run confirmationTimeoutMs windowMs calls₁
  exact ⟨htracks, htracks.next call, rfl⟩

/-- At rest: no attempt waits, and no window is open. -/
def AtRest (w : BleOnboardingWindow) : Prop :=
  w.isOpen = false ∧ w.awaitingConfirmation = false

theorem AtRest.next (h : AtRest w) {call : OnboardingCall}
    (hcall : ∀ atMs, call ≠ .requestStart atMs) : onboardingStep w call = (w, .none) := by
  obtain ⟨hopen, hawaiting⟩ := h
  cases call with
  | requestStart atMs => exact absurd rfl (hcall atMs)
  | confirmStart atMs => rw [onboardingStep, confirmStart_idle hawaiting]
  | close atMs =>
    have hclose : w.close = w := by
      cases w
      cases hopen
      cases hawaiting
      rfl
    rw [onboardingStep, hclose]
  | update atMs =>
    rw [onboardingStep, BleOnboardingWindow.update, hopen, hawaiting]
    rfl

/-- Whatever reports the end of an attempt, and `close`, leaves the window at rest. -/
theorem atRest_of_ends (h : ¬ (w.awaitingConfirmation = true ∧ w.isOpen = true))
    (hends : OnboardingTransition.Ends (.of onboardingStep w call)) :
    AtRest (onboardingStep w call).1 := by
  cases call with
  | requestStart atMs =>
    rcases hends with hreport | ⟨_, hclose⟩
    · exact absurd rfl hreport
    · cases hclose
  | confirmStart atMs =>
    rcases hends with hreport | ⟨_, hclose⟩
    · exact absurd rfl hreport
    · cases hclose
  | close atMs => exact ⟨rfl, rfl⟩
  | update atMs =>
    have hreport : (w.update (ms32 atMs)).2 ≠ .none := by
      rcases hends with hreport | ⟨_, hclose⟩
      · exact hreport
      · cases hclose
    change AtRest (w.update (ms32 atMs)).1
    rcases update_cases w (ms32 atMs) with hupdate | ⟨hawaiting, hupdate⟩ | ⟨hopen, hupdate⟩
    · exact absurd (congrArg Prod.snd hupdate) hreport
    · rw [hupdate]
      exact ⟨Bool.eq_false_iff.mpr fun hopen => h ⟨hawaiting, hopen⟩, rfl⟩
    · rw [hupdate]
      exact ⟨rfl, Bool.eq_false_iff.mpr fun hawaiting => h ⟨hawaiting, hopen⟩⟩

theorem AtRest.run (h : AtRest w) (calls : List OnboardingCall)
    (hcalls : ∀ u ∈ transitions onboardingStep w calls, ¬ OnboardingTransition.Requests u) :
    ∀ u ∈ transitions onboardingStep w calls, AtRest u.after ∧ u.output = .none := by
  induction calls with
  | nil => exact List.forall_mem_nil _
  | cons call calls ih =>
    rw [transitions, List.forall_mem_cons] at hcalls ⊢
    have hstep := h.next fun atMs hcall => hcalls.1 ⟨atMs, hcall⟩
    have hnext : (onboardingStep w call).1 = w := congrArg Prod.fst hstep
    have hrest : AtRest (Transition.of onboardingStep w call).after := by
      change AtRest (onboardingStep w call).1
      rw [hnext]
      exact h
    rw [hnext] at hcalls ⊢
    exact ⟨⟨hrest, congrArg Prod.snd hstep⟩, ih hcalls.2⟩

theorem reports_le_one (calls : List OnboardingCall)
    (hw : OnboardingTracks confirmationTimeoutMs windowMs ts w)
    (hcalls : ∀ u ∈ transitions onboardingStep w calls, ¬ OnboardingTransition.Requests u) :
    ((transitions onboardingStep w calls).filter fun u => u.output ≠ .none).length ≤ 1 := by
  induction calls generalizing w ts with
  | nil => exact Nat.zero_le 1
  | cons call calls ih =>
    rw [transitions, List.forall_mem_cons] at hcalls
    rw [transitions]
    by_cases hreport : (Transition.of onboardingStep w call).output = .none
    · rw [List.filter_cons, if_neg fun hne => absurd hreport (of_decide_eq_true hne)]
      exact ih (hw.next call) hcalls.2
    · have hrest := atRest_of_ends hw.exclusive (.inl hreport)
      have hnone : (transitions onboardingStep (onboardingStep w call).1 calls).filter
          (fun u => u.output ≠ .none) = [] := by
        rw [List.filter_eq_nil_iff]
        intro u hu
        rw [(hrest.run calls hcalls.2 u hu).2]
        decide
      rw [List.filter_cons, if_pos (decide_eq_true hreport), hnone]
      exact Nat.le_refl 1

end Step

theorem opens_confirmStart {u : OnboardingTransition}
    (hafter : u.after = (onboardingStep u.before u.input).1)
    (hopens : OnboardingTransition.Opens u) :
    u.before.awaitingConfirmation = true ∧ ∃ atMs, u.input = .confirmStart atMs := by
  obtain ⟨hclosed, hopen⟩ := hopens
  cases hinput : u.input with
  | requestStart atMs =>
    rw [hinput] at hafter
    rw [hafter] at hopen
    exact absurd hopen Bool.false_ne_true
  | confirmStart atMs =>
    refine ⟨?_, atMs, rfl⟩
    by_contra hawaiting
    rw [Bool.not_eq_true] at hawaiting
    rw [hinput, onboardingStep, confirmStart_idle hawaiting] at hafter
    rw [hafter] at hopen
    exact Bool.false_ne_true (hclosed.symm.trans hopen)
  | close atMs =>
    rw [hinput] at hafter
    rw [hafter] at hopen
    exact absurd hopen Bool.false_ne_true
  | update atMs =>
    rw [hinput, onboardingStep] at hafter
    rw [hafter] at hopen
    rcases update_cases u.before (ms32 atMs) with hupdate | ⟨_, hupdate⟩ | ⟨hbefore, _⟩
    · rw [hupdate] at hopen
      exact absurd (hclosed.symm.trans hopen) Bool.false_ne_true
    · rw [hupdate] at hopen
      exact absurd (hclosed.symm.trans hopen) Bool.false_ne_true
    · exact absurd (hclosed.symm.trans hbefore) Bool.false_ne_true

/-- Past its end, an update closes the window unless the distance wraps to a negative one. -/
theorem update_closes_iff {w : BleOnboardingWindow}
    (hw : ¬ (w.awaitingConfirmation = true ∧ w.isOpen = true)) (hopen : w.isOpen = true)
    (hdeadline : w.windowDeadlineMs = ms32 openedMs + windowMs)
    (hpast : openedMs + windowMs.toNat ≤ atMs) :
    (w.update (ms32 atMs)).1.isOpen = false ↔
      (atMs - (openedMs + windowMs.toNat)) % 2 ^ 32 < 2 ^ 31 := by
  have hidle : w.awaitingConfirmation = false :=
    Bool.eq_false_iff.mpr fun hawaiting => hw ⟨hawaiting, hopen⟩
  rw [← ms32_sub_toNat hpast, ← ms32_add, ← hdeadline, ← reachedSigned_iff,
    BleOnboardingWindow.update, hidle, hopen, Bool.false_and, Bool.true_and,
    if_neg Bool.false_ne_true, BleOnboardingWindow.deadlineReached]
  split
  · next hreached => exact iff_of_true rfl hreached
  · next hreached =>
    exact iff_of_false (fun hclosed => Bool.false_ne_true (hclosed.symm.trans hopen)) hreached

section Late
variable {confirmationTimeoutMs windowMs : UInt32} {earlier : List OnboardingTransition}
  {u : OnboardingTransition}
  (htracks : OnboardingTracks confirmationTimeoutMs windowMs earlier u.before)
  (hafter : u.after = (onboardingStep u.before u.input).1)
include htracks hafter

theorem ConfirmedLate.opens (h : ConfirmedLate confirmationTimeoutMs earlier u) :
    OnboardingTransition.Opens u := by
  obtain ⟨hawaiting, atMs, _, hcall, _⟩ := h
  rw [hcall, onboardingStep, confirmStart_awaiting hawaiting] at hafter
  have hclosed : u.before.isOpen = false :=
    Bool.eq_false_iff.mpr fun hopen => htracks.exclusive ⟨hawaiting, hopen⟩
  exact ⟨hclosed, congrArg BleOnboardingWindow.isOpen hafter⟩

theorem opens_inTime (hnotLate : ¬ ConfirmedLate confirmationTimeoutMs earlier u)
    (hopens : OnboardingTransition.Opens u) :
    ∃ atMs requestedMs, u.input = .confirmStart atMs ∧ RequestedAt requestedMs earlier ∧
      atMs < requestedMs + confirmationTimeoutMs.toNat := by
  obtain ⟨hawaiting, atMs, hcall⟩ := opens_confirmStart hafter hopens
  obtain ⟨requestedMs, hrequested⟩ := htracks.awaiting hawaiting
  refine ⟨atMs, requestedMs, hcall, hrequested, ?_⟩
  by_contra hlate
  exact hnotLate ⟨hawaiting, atMs, requestedMs, hcall, hrequested, Nat.not_lt.mp hlate⟩

theorem confirmStart_late (hnotLate : ¬ ConfirmedLate confirmationTimeoutMs earlier u)
    (hcall : u.input = .confirmStart atMs)
    (hlate : ∀ requestedMs, RequestedAt requestedMs earlier →
      requestedMs + confirmationTimeoutMs.toNat ≤ atMs) : u.after = u.before := by
  rw [hcall, onboardingStep] at hafter
  cases hawaiting : u.before.awaitingConfirmation with
  | false =>
    rw [confirmStart_idle hawaiting] at hafter
    exact hafter
  | true =>
    obtain ⟨requestedMs, hrequested⟩ := htracks.awaiting hawaiting
    exact absurd ⟨hawaiting, atMs, requestedMs, hcall, hrequested, hlate _ hrequested⟩ hnotLate

theorem confirmStart_open (hcall : u.input = .confirmStart atMs)
    (hopen : u.before.isOpen = true) : u.after = u.before := by
  have hidle : u.before.awaitingConfirmation = false :=
    Bool.eq_false_iff.mpr fun hawaiting => htracks.exclusive ⟨hawaiting, hopen⟩
  rw [hcall, onboardingStep, confirmStart_idle hidle] at hafter
  exact hafter

theorem update_past_iff (hcall : u.input = .update atMs) (hopened : OpenedAt openedMs earlier)
    (hpast : openedMs + windowMs.toNat ≤ atMs) :
    u.after.isOpen = false ↔ ¬ UpdatedLate windowMs earlier u := by
  rw [hcall, onboardingStep] at hafter
  rw [hafter]
  cases hopen : u.before.isOpen with
  | false =>
    refine iff_of_true ?_ fun hlate => Bool.false_ne_true (hopen.symm.trans hlate.1)
    rcases update_cases u.before (ms32 atMs) with hupdate | ⟨_, hupdate⟩ | ⟨_, hupdate⟩
    · rw [hupdate]
      exact hopen
    · rw [hupdate]
      exact hopen
    · rw [hupdate]
  | true =>
    obtain ⟨openedMs', hopened', hdeadline⟩ := htracks.opened hopen
    rw [← hopened.unique hopened'] at hdeadline
    rw [update_closes_iff htracks.exclusive hopen hdeadline hpast]
    constructor
    · intro hcloses hlate
      obtain ⟨_, atMs', openedMs', hcall', hopened', _, hwraps⟩ := hlate
      rw [← OnboardingCall.update.inj (hcall.symm.trans hcall'), ← hopened.unique hopened']
        at hwraps
      exact Nat.not_le.mpr hcloses hwraps
    · intro hnotLate
      by_contra hwraps
      exact hnotLate ⟨hopen, atMs, openedMs, hcall, hopened, hpast, Nat.not_lt.mp hwraps⟩

end Late

/-- A run that keeps its promises has no late confirmation and no late update. -/
theorem NeverResurrects.notLate
    (h : NeverResurrects confirmationTimeoutMs windowMs
      (onboardingRun confirmationTimeoutMs windowMs calls))
    (hts : onboardingRun confirmationTimeoutMs windowMs calls = earlier ++ u :: later) :
    ¬ ConfirmedLate confirmationTimeoutMs earlier u ∧ ¬ UpdatedLate windowMs earlier u := by
  obtain ⟨htracks, _, hafter⟩ := onboardingTracks_of_mem hts
  constructor
  · intro hlate
    obtain ⟨atMs', requestedMs', hcall', hrequested', hbefore⟩ :=
      h.opened _ _ _ hts (hlate.opens htracks hafter)
    obtain ⟨_, atMs, requestedMs, hcall, hrequested, hpast⟩ := hlate
    have hatMs := OnboardingCall.confirmStart.inj (hcall.symm.trans hcall')
    have hrequestedMs := hrequested.unique hrequested'
    omega
  · intro hlate
    have hparts := hlate
    obtain ⟨_, atMs, openedMs, hcall, hopened, hpast, _⟩ := hparts
    have hclosed := h.timedOut _ _ _ hts _ _ hcall hopened hpast
    exact (update_past_iff htracks hafter hcall hopened hpast).mp hclosed hlate

/-- The window keeps its promises in exactly the runs in which no confirmation finds it waiting past
its deadline, and no update finds it open half the clock's range past its end. -/
theorem neverResurrects_iff_notLate (confirmationTimeoutMs windowMs : UInt32)
    (calls : List OnboardingCall) :
    NeverResurrects confirmationTimeoutMs windowMs
        (onboardingRun confirmationTimeoutMs windowMs calls) ↔
      ∀ earlier u later,
        onboardingRun confirmationTimeoutMs windowMs calls = earlier ++ u :: later →
        ¬ ConfirmedLate confirmationTimeoutMs earlier u ∧ ¬ UpdatedLate windowMs earlier u := by
  constructor
  · exact fun h earlier u later hts => h.notLate hts
  · intro h
    constructor
    · intro earlier u later hts hopens
      obtain ⟨htracks, _, hafter⟩ := onboardingTracks_of_mem hts
      exact opens_inTime htracks hafter (h _ _ _ hts).1 hopens
    · intro earlier u later hts atMs hcall hlate
      obtain ⟨htracks, _, hafter⟩ := onboardingTracks_of_mem hts
      exact confirmStart_late htracks hafter (h _ _ _ hts).1 hcall hlate
    · intro earlier u during later hts hends hduring
      obtain ⟨calls₁, call, calls₂, _, rfl, rfl, hrest⟩ := transitions_split hts
      obtain ⟨calls₃, _, _, rfl, _⟩ := transitions_cut hrest.symm
      have hatRest := atRest_of_ends (onboardingTracks_run _ _ calls₁).exclusive hends
      rw [List.forall_mem_cons]
      exact ⟨hatRest, fun w hw => (hatRest.run calls₃ hduring w hw).1⟩
    · intro u hu
      obtain ⟨earlier, later, hts⟩ := List.append_of_mem hu
      exact (onboardingTracks_of_mem hts).2.1.exclusive
    · intro earlier during later hts hduring
      obtain ⟨calls₁, calls₂, _, rfl, hrest⟩ := transitions_cut hts
      obtain ⟨calls₃, _, _, rfl, _⟩ := transitions_cut hrest.symm
      exact reports_le_one calls₃ (onboardingTracks_run _ _ calls₁) hduring
    · intro u hu atMs hcall hopen
      obtain ⟨earlier, later, hts⟩ := List.append_of_mem hu
      obtain ⟨htracks, _, hafter⟩ := onboardingTracks_of_mem hts
      exact confirmStart_open htracks hafter hcall hopen
    · intro earlier u later hts atMs openedMs hcall hopened hpast
      obtain ⟨htracks, _, hafter⟩ := onboardingTracks_of_mem hts
      exact (update_past_iff htracks hafter hcall hopened hpast).mpr (h _ _ _ hts).2

/-- With a deadline of ten seconds, a confirmation at that very moment, no update having come in
between, opens the window. -/
theorem confirmed_at_deadline_opens :
    ShortGaps [.requestStart 0, .confirmStart 10000] ∧
      ¬ NeverResurrects 10000 300000
        (onboardingRun 10000 300000 [.requestStart 0, .confirmStart 10000]) := by
  refine ⟨by decide, fun h => ?_⟩
  have hlate := h.late [_] _ [] rfl 10000 rfl fun requestedMs hrequested => ?_
  · exact absurd (congrArg BleOnboardingWindow.isOpen hlate) (by decide)
  · have hzero : RequestedAt 0 [Transition.of onboardingStep
        { confirmationTimeoutMs := 10000, windowMs := 300000 } (.requestStart 0)] :=
      ⟨[], _, [], rfl, rfl, List.forall_mem_nil _⟩
    rw [← hzero.unique hrequested]
    decide

end InterBridge
