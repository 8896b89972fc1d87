import InterBridge.Foundations.WrappingClock
import InterBridge.Provisioning.ManagerCalls
import InterBridge.Provisioning.NeverProvisioned
import Mathlib.Data.List.Chain

namespace InterBridge
open Foundations
set_option autoImplicit true
namespace ProvisioningManager

/-- The reading of the clock that a call is given. -/
def ManagerCall.reading? : ManagerCall → Option UInt32
  | .checkAtBoot nowMs _ => some nowMs
  | .operate (.requestProvisioning nowMs _) => some nowMs
  | .operate (.update nowMs _) => some nowMs
  | .operate _ => none

/-- A call at a time that the wrapping clock reads. -/
structure TimedCall where
  atMs : Nat
  call : ManagerCall
  reading : ∀ nowMs ∈ call.reading?, nowMs = ms32 atMs

def timedCall (m : ProvisioningManager) (c : TimedCall) :
    ProvisioningManager × Option ProvisioningEvent := m.call c.call

abbrev TimedTransition := Transition ProvisioningManager TimedCall (Option ProvisioningEvent)

def updatesOf (calls : List TimedCall) : List TimedCall :=
  calls.filter fun c => c.call.isUpdate

def TimesOrdered (calls : List TimedCall) : Prop := calls.Pairwise fun c d => c.atMs ≤ d.atMs

/-- From each update to the next it is less than the clock's range without the window. -/
def UpdatesSpaced (calls : List TimedCall) : Prop :=
  (updatesOf calls).IsChain fun c d => d.atMs < c.atMs + (2 ^ 32 - kProvisioningWindowMs.toNat)

/-- The first update comes before the clock has run through once since the first call. -/
def FirstUpdatePrompt (calls : List TimedCall) : Prop :=
  ∀ first ∈ calls.head?, ∀ u ∈ (updatesOf calls).head?, u.atMs < first.atMs + 2 ^ 32

instance (calls : List TimedCall) : Decidable (TimesOrdered calls) :=
  inferInstanceAs (Decidable (List.Pairwise _ _))

instance (calls : List TimedCall) : Decidable (UpdatesSpaced calls) :=
  inferInstanceAs (Decidable (List.IsChain _ _))

instance (calls : List TimedCall) : Decidable (FirstUpdatePrompt calls) :=
  inferInstanceAs (Decidable (∀ first ∈ calls.head?, _))

namespace TimedTransition

def Enters (t : TimedTransition) : Prop := t.input.call.Enters t.before

def elapsed (entry t : TimedTransition) : Nat := t.input.atMs - entry.input.atMs

/-- The step ends its attempt for want of time. -/
structure Expires (t : TimedTransition) : Prop where
  stopped : t.after.effects = t.before.effects ++ [.advertisingStopped, .indicatorCleared]
  reported : t.after.pendingEvent = some .provisioningFailed
  left : t.after.state = .idle ∨ t.after.state = .notProvisioned

/-- Advertising was refused on entry. -/
structure Refused (t : TimedTransition) : Prop where
  enters : t.Enters
  refused : .advertisingRequested false ∈ t.after.effects.drop t.before.effects.length

end TimedTransition

/-- The step `t` belongs to the attempt that `entry` opened. -/
structure InAttempt (ts : List TimedTransition) (entry t : TimedTransition)
    (during : List TimedTransition) : Prop where
  split : ∃ before after, ts = before ++ entry :: during ++ t :: after
  opened : entry.Enters
  continues : ∀ u ∈ during, ¬ TimedTransition.Enters u

/-- The window is a hard bound on every attempt. -/
structure HardBound (ts : List TimedTransition) : Prop where
  unmoved : ∀ entry t during, InAttempt ts entry t during →
    t.before.provisioningStartedAtMs = ms32 entry.input.atMs
  expires : ∀ entry t during, InAttempt ts entry t during → t.input.call.isUpdate = true →
    t.before.isActivelyProvisioning = true →
    kProvisioningWindowMs.toNat ≤ entry.elapsed t →
    (∀ u ∈ during, u.input.call.isUpdate = true →
      entry.elapsed u < kProvisioningWindowMs.toNat) → t.Expires
  notEarlier : ∀ entry t during, InAttempt ts entry t during → t.input.call.isUpdate = true →
    t.before.isActivelyProvisioning = true → entry.elapsed t < kProvisioningWindowMs.toNat →
    t.after.isActivelyProvisioning = true ∨ t.after.state = .provisioned
  failedOnEntry : ∀ t ∈ ts, t.after.state = .provisioningFailed →
    t.Refused ∨ ¬ t.Enters ∧ t.before.state = .provisioningFailed

theorem not_update_of_enters {m : ProvisioningManager} {c : ManagerCall} (h : c.Enters m) :
    c.isUpdate = false := by
  obtain ⟨nowMs, answers, hbeginning, _⟩ := call_entered h
  rcases c.eq_of_beginning hbeginning with rfl | rfl
  · rfl
  · rfl

section Times

variable {calls before during after : List TimedCall} {entry u : TimedCall}

theorem updatesOf_append (calls later : List TimedCall) :
    updatesOf (calls ++ later) = updatesOf calls ++ updatesOf later := List.filter_append ..

theorem updatesOf_eq_nil (h : ∀ c ∈ calls, c.call.isUpdate = false) : updatesOf calls = [] := by
  rw [updatesOf, List.filter_eq_nil_iff]
  intro c hc
  rw [h c hc]
  exact Bool.noConfusion

theorem updatesOf_cons (h : u.call.isUpdate = true) :
    updatesOf (u :: calls) = u :: updatesOf calls := List.filter_cons_of_pos h

theorem UpdatesSpaced.next {v : TimedCall} (h : UpdatesSpaced calls)
    (hcalls : calls = before ++ v :: during ++ u :: after) (hv : v.call.isUpdate = true)
    (hu : u.call.isUpdate = true) (hduring : ∀ c ∈ during, c.call.isUpdate = false) :
    u.atMs < v.atMs + (2 ^ 32 - kProvisioningWindowMs.toNat) := by
  rw [UpdatesSpaced, hcalls, updatesOf_append, updatesOf_append, updatesOf_cons hv,
    updatesOf_cons hu, updatesOf_eq_nil hduring, List.append_assoc, List.singleton_append,
    List.isChain_append_cons_cons] at h
  exact h.2.1

theorem TimesOrdered.le (h : TimesOrdered (before ++ after)) {c d : TimedCall} (hc : c ∈ before)
    (hd : d ∈ after) : c.atMs ≤ d.atMs := (List.pairwise_append.mp h).2.2 c hc d hd

theorem FirstUpdatePrompt.lt (h : FirstUpdatePrompt calls) (hordered : TimesOrdered calls)
    (hcalls : calls = before ++ entry :: during) (hu : (updatesOf calls).head? = some u) :
    u.atMs < entry.atMs + 2 ^ 32 := by
  subst hcalls
  cases before with
  | nil => exact h entry rfl u hu
  | cons first before =>
    have hfirst : first.atMs ≤ entry.atMs := hordered.le List.mem_cons_self List.mem_cons_self
    have hlt := h first rfl u hu
    omega

/-- The update before this one, if there is one, tells how much time has passed since the entry. -/
theorem elapsed_lt (hordered : TimesOrdered calls) (hspaced : UpdatesSpaced calls)
    (hprompt : FirstUpdatePrompt calls) (hcalls : calls = before ++ entry :: during ++ u :: after)
    (hentry : entry.call.isUpdate = false) (hu : u.call.isUpdate = true)
    (hduring : ∀ c ∈ during, c.call.isUpdate = true →
      c.atMs - entry.atMs < kProvisioningWindowMs.toNat) :
    u.atMs < entry.atMs + 2 ^ 32 := by
  have hwindow : kProvisioningWindowMs.toNat < 2 ^ 32 := kProvisioningWindowMs.toNat_lt
  by_cases hearlier : ∃ c ∈ before ++ entry :: during, c.call.isUpdate = true
  · obtain ⟨xs, v, ys, hprefix, hv, hlast⟩ := exists_last hearlier
    have hgap := hspaced.next (hcalls.trans (congrArg (· ++ u :: after) hprefix)) hv hu
      fun c hc => Bool.eq_false_iff.mpr (hlast c hc)
    have hmem : v ∈ before ++ entry :: during :=
      hprefix ▸ List.mem_append_right _ List.mem_cons_self
    rw [List.mem_append, List.mem_cons] at hmem
    rcases hmem with hbefore | rfl | hlater
    · rw [hcalls, List.append_assoc] at hordered
      have hle := hordered.le hbefore (List.mem_append_left _ List.mem_cons_self)
      omega
    · exact absurd (hentry.symm.trans hv) Bool.noConfusion
    · have hearly := hduring v hlater hv
      omega
  · have hnone : updatesOf (before ++ entry :: during) = [] :=
      updatesOf_eq_nil fun c hc => Bool.eq_false_iff.mpr fun h => hearlier ⟨c, hc, h⟩
    have hfirst : (updatesOf calls).head? = some u := by
      rw [hcalls, updatesOf_append, hnone, updatesOf_cons hu]
      rfl
    rw [List.append_assoc] at hcalls
    exact hprompt.lt hordered hcalls hfirst

end Times

theorem call_startedAt {m : ProvisioningManager} {c : ManagerCall} (h : ¬ c.Enters m) :
    (m.call c).1.provisioningStartedAtMs = m.provisioningStartedAtMs := by
  have hcases := call_cases m c
  generalize (m.call c).1 = n at hcases
  cases hcases with
  | entered _ henters => exact absurd henters h
  | ignored => rfl
  | polled => rfl
  | linkRead connected => rfl
  | updated nowMs answers n hupdated =>
    cases hupdated with
    | inactive _ hsame => rw [hsame]
    | waiting _ _ _ _ _ hsame => rw [hsame]
    | timedOut _ hmoves => exact hmoves.startedAt
    | sessionOpened _ _ _ hmoves => exact hmoves.startedAt
    | received _ _ _ hmoves => exact hmoves.startedAt
    | dropped _ _ _ _ hmoves => exact hmoves.startedAt
    | linkDown _ _ _ hmoves => exact hmoves.startedAt
    | completed _ _ hmoves => exact hmoves.startedAt
    | failed _ _ _ hmoves => exact hmoves.startedAt

theorem reading_of_beginning {c : ManagerCall} (h : c.beginning? = some (nowMs, answers)) :
    c.reading? = some nowMs := by
  rcases c.eq_of_beginning h with rfl | rfl
  · rfl
  · rfl

theorem InAttempt.unmoved {m : ProvisioningManager} {calls : List TimedCall}
    (h : InAttempt (transitions timedCall m calls) entry t during) :
    t.before.provisioningStartedAtMs = ms32 entry.input.atMs := by
  obtain ⟨before, after, hts⟩ := h.split
  rw [List.append_assoc] at hts
  obtain ⟨is, i, later, _, _, hentry, hpost⟩ := transitions_split hts
  obtain ⟨js, j, _, _, hduring, ht, _⟩ := transitions_split hpost.symm
  have hkept : (finalState timedCall entry.after js).provisioningStartedAtMs =
      entry.after.provisioningStartedAtMs := by
    rw [hduring] at h
    exact finalState_kept ProvisioningManager.provisioningStartedAtMs
      (fun u => ¬ TimedTransition.Enters u) (fun m c hstays => call_startedAt hstays) h.continues
  obtain ⟨nowMs, answers, hbeginning, hentered⟩ := call_entered h.opened
  have hafter : entry.after = (entry.before.call entry.input.call).1 := by
    rw [hentry]
    rfl
  rw [ht, Transition.of, hkept, hafter, hentered.startedAt]
  exact entry.input.reading nowMs (reading_of_beginning hbeginning)

section Attempt

variable {m : ProvisioningManager} {calls : List TimedCall} {entry t : TimedTransition}
  {during : List TimedTransition}

theorem InAttempt.mem (h : InAttempt ts entry t during) : t ∈ ts := by
  obtain ⟨before, after, rfl⟩ := h.split
  exact List.mem_append_right _ List.mem_cons_self

theorem InAttempt.splitCalls (h : InAttempt (transitions timedCall m calls) entry t during) :
    ∃ before after, calls =
      before ++ entry.input :: during.map Transition.input ++ t.input :: after := by
  obtain ⟨before, after, hts⟩ := h.split
  refine ⟨before.map Transition.input, after.map Transition.input, ?_⟩
  rw [← transitions_input timedCall m calls, hts, List.map_append, List.map_append,
    List.map_cons, List.map_cons]

theorem InAttempt.le (h : InAttempt (transitions timedCall m calls) entry t during)
    (hordered : TimesOrdered calls) : entry.input.atMs ≤ t.input.atMs := by
  obtain ⟨before, after, hcalls⟩ := h.splitCalls
  rw [hcalls] at hordered
  exact hordered.le (List.mem_append_right _ List.mem_cons_self) List.mem_cons_self

theorem update_step (ht : t ∈ transitions timedCall m calls)
    (hu : t.input.call.isUpdate = true) :
    ∃ answers, t.after = t.before.update (ms32 t.input.atMs) answers := by
  obtain ⟨_, c, _, _, rfl⟩ := exists_of_mem_transitions ht
  rcases c with ⟨atMs, c, hreading⟩
  cases c with
  | checkAtBoot nowMs answers => cases hu
  | operate operation =>
    cases operation with
    | requestProvisioning nowMs answers => cases hu
    | pollEvent => cases hu
    | wifiUpdate connected => cases hu
    | update nowMs answers =>
      have hnow : nowMs = ms32 atMs := hreading nowMs rfl
      subst hnow
      exact ⟨answers, rfl⟩

theorem InAttempt.expires (h : InAttempt (transitions timedCall m calls) entry t during)
    (hordered : TimesOrdered calls) (hspaced : UpdatesSpaced calls)
    (hprompt : FirstUpdatePrompt calls) (hu : t.input.call.isUpdate = true)
    (hactive : t.before.isActivelyProvisioning = true)
    (hover : kProvisioningWindowMs.toNat ≤ entry.elapsed t)
    (hearlier : ∀ u ∈ during, u.input.call.isUpdate = true →
      entry.elapsed u < kProvisioningWindowMs.toNat) : t.Expires := by
  obtain ⟨before, after, hcalls⟩ := h.splitCalls
  have hlt : t.input.atMs < entry.input.atMs + 2 ^ 32 := by
    refine elapsed_lt hordered hspaced hprompt hcalls (not_update_of_enters h.opened) hu ?_
    intro c hc hupdate
    obtain ⟨u, hmem, rfl⟩ := List.mem_map.mp hc
    exact hearlier u hmem hupdate
  have hout : t.before.TimesOut (ms32 t.input.atMs) := by
    refine ⟨hactive, UInt32.le_iff_toNat_le.mpr ?_⟩
    rw [h.unmoved, ms32_sub_toNat (h.le hordered)]
    rw [TimedTransition.elapsed] at hover
    omega
  obtain ⟨answers, hafter⟩ := update_step h.mem hu
  rw [update_timesOut hout] at hafter
  constructor
  · rw [hafter]
    exact List.append_assoc _ _ _
  · rw [hafter]
    rfl
  · rw [hafter, handleTimeout, enter]
    dsimp only
    cases t.before.wasAlreadyProvisionedWhenEntered with
    | false => exact .inr rfl
    | true => exact .inl rfl

theorem update_within {m : ProvisioningManager} (hactive : m.isActivelyProvisioning = true)
    (hwithin : nowMs - m.provisioningStartedAtMs < kProvisioningWindowMs)
    (answers : ProvisioningAnswers) :
    (m.update nowMs answers).isActivelyProvisioning = true ∨
      (m.update nowMs answers).state = .provisioned := by
  have hcases := update_cases m nowMs answers
  generalize m.update nowMs answers = n at hcases
  cases hcases with
  | inactive hinactive _ => exact absurd (hinactive.symm.trans hactive) Bool.noConfusion
  | timedOut hout _ _ => exact absurd hout.2 (UInt32.not_le.mpr hwithin)
  | sessionOpened _ _ _ hmoves _ => exact .inl (active_of_state (.inr (.inl hmoves.state)))
  | received _ _ _ hmoves _ => exact .inl (active_of_state (.inr (.inr hmoves.state)))
  | waiting _ _ _ _ _ hsame => exact .inl (hsame ▸ hactive)
  | dropped _ _ _ _ hmoves _ => exact .inl (active_of_state (.inl hmoves.state))
  | linkDown _ _ _ hmoves _ => exact .inl (active_of_state (.inr (.inr hmoves.state)))
  | completed _ _ hmoves _ => exact .inr hmoves.state
  | failed _ _ _ hmoves _ => exact .inl (active_of_state (.inl hmoves.state))

theorem InAttempt.notEarlier (h : InAttempt (transitions timedCall m calls) entry t during)
    (hordered : TimesOrdered calls) (hu : t.input.call.isUpdate = true)
    (hactive : t.before.isActivelyProvisioning = true)
    (hwithin : entry.elapsed t < kProvisioningWindowMs.toNat) :
    t.after.isActivelyProvisioning = true ∨ t.after.state = .provisioned := by
  obtain ⟨answers, hafter⟩ := update_step h.mem hu
  rw [hafter]
  refine update_within hactive (UInt32.lt_iff_toNat_lt.mpr ?_) answers
  rw [h.unmoved]
  exact Nat.lt_of_le_of_lt (ms32_sub_le (h.le hordered)) hwithin

end Attempt

theorem call_failed {m : ProvisioningManager} {c : ManagerCall}
    (h : (m.call c).1.state = .provisioningFailed) :
    (c.Enters m ∧ .advertisingRequested false ∈ (m.call c).1.effects.drop m.effects.length) ∨
      ¬ c.Enters m ∧ m.state = .provisioningFailed := by
  by_cases henters : c.Enters m
  · obtain ⟨nowMs, answers, _, hentered⟩ := call_entered henters
    refine .inl ⟨henters, ?_⟩
    rw [hentered.effects, List.drop_left]
    cases hstarted : answers.startAdvertising m.advertisementInfo m.proofOfPossession with
    | false => exact List.mem_cons_self
    | true =>
      rw [hentered.state, hstarted] at h
      cases h
  refine .inr ⟨henters, ?_⟩
  have hcases := call_cases m c
  generalize (m.call c).1 = n at hcases h
  cases hcases with
  | entered _ hopened => exact absurd hopened henters
  | ignored => exact h
  | polled => exact h
  | linkRead connected => exact h
  | updated nowMs answers n hupdated =>
    cases hupdated with
    | inactive _ hsame => exact hsame ▸ h
    | waiting _ _ _ _ _ hsame => exact hsame ▸ h
    | timedOut _ hmoves =>
      rcases hmoves.ended with hs | hs
      · cases hs.symm.trans h
      · cases hs.symm.trans h
    | sessionOpened _ _ _ hmoves => cases hmoves.state.symm.trans h
    | received _ _ _ hmoves => cases hmoves.state.symm.trans h
    | dropped _ _ _ _ hmoves => cases hmoves.state.symm.trans h
    | linkDown _ _ _ hmoves => cases hmoves.state.symm.trans h
    | completed _ _ hmoves => cases hmoves.state.symm.trans h
    | failed _ _ _ hmoves => cases hmoves.state.symm.trans h

/-- On the wrapping clock the window is a hard bound, however often an attempt goes through
sessions and failures. -/
theorem provisioningWindow_hardBound (store : PersistentStore) (wifi : WifiManager)
    (templateName deviceId proofOfPossession : Bytes) (info : BleAdvertisementInfo)
    (calls : List TimedCall) (hordered : TimesOrdered calls) (hspaced : UpdatesSpaced calls)
    (hprompt : FirstUpdatePrompt calls) :
    HardBound (transitions timedCall
      (constructed store wifi templateName deviceId proofOfPossession info) calls) where
  unmoved _ _ _ h := h.unmoved
  expires _ _ _ h := h.expires hordered hspaced hprompt
  notEarlier _ _ _ h := h.notEarlier hordered
  failedOnEntry t ht hfailed := by
    obtain ⟨_, c, _, _, rfl⟩ := exists_of_mem_transitions ht
    exact (call_failed hfailed).imp (fun h => ⟨h.1, h.2⟩) id

def bootAt (atMs : Nat) (answers : ProvisioningAnswers) : TimedCall where
  atMs := atMs
  call := .checkAtBoot (ms32 atMs) answers
  reading _ h := (Option.some.inj h).symm

def updateAt (atMs : Nat) (answers : ProvisioningAnswers) : TimedCall where
  atMs := atMs
  call := .operate (.update (ms32 atMs) answers)
  reading _ h := (Option.some.inj h).symm

theorem provisioningWindow_hardBound_bench :
    HardBound (transitions timedCall bench
      [bootAt 4294967000 unreachableNetwork, updateAt 4294967200 unreachableNetwork,
        updateAt 4295267000 unreachableNetwork]) :=
  provisioningWindow_hardBound _ _ _ _ _ _ _ (by decide) (by decide) (by decide)

/-- The first update comes when the clock has run through once since the boot. -/
def lateFirstUpdate : List TimedCall :=
  [bootAt 0 unreachableNetwork, updateAt (2 ^ 32) unreachableNetwork]

theorem lateFirstUpdate_unbounded :
    TimesOrdered lateFirstUpdate ∧ UpdatesSpaced lateFirstUpdate ∧
      ¬ HardBound (transitions timedCall bench lateFirstUpdate) := by
  refine ⟨by decide, by decide, fun h => ?_⟩
  have hattempt : InAttempt (transitions timedCall bench lateFirstUpdate)
      (.of timedCall bench (bootAt 0 unreachableNetwork))
      (.of timedCall (bench.checkAtBoot 0 unreachableNetwork)
        (updateAt (2 ^ 32) unreachableNetwork)) [] :=
    ⟨⟨[], [], rfl⟩, rfl, List.forall_mem_nil _⟩
  have hexpires := h.expires _ _ _ hattempt rfl rfl (by decide) (List.forall_mem_nil _)
  have hstate : (finalState timedCall bench lateFirstUpdate).state = .connectingWifi := by decide
  rcases hexpires.left with hidle | hnot
  · cases hstate.symm.trans hidle
  · cases hstate.symm.trans hnot

end ProvisioningManager
end InterBridge
