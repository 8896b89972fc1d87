import InterBridge.Dev.DevRingButton
import InterBridge.Foundations.Debounce

namespace InterBridge
open Foundations
set_option autoImplicit true

namespace DevRingButtonController

def debouncer (c : DevRingButtonController) : Debouncer where
  debounceMs := c.debounceMs
  rawLast := c.rawPressedLast
  lastRawChangeMs := c.lastRawChangeMs
  hasLastRawChange := c.hasLastRawChange
  debounced := c.debouncedPressed

/-- The lockout still runs when this reading of the clock is taken. -/
def Locked (c : DevRingButtonController) (nowMs : UInt32) : Prop :=
  c.lockoutActive = true ∧ deadlineReached nowMs c.lockoutUntilMs = false

/-- The first part of `update`. -/
def observed (c : DevRingButtonController) (raw : Bool) (nowMs : UInt32) :
    DevRingButtonController :=
  if !c.hasLastRawChange || raw != c.rawPressedLast then
    { c with rawPressedLast := raw, lastRawChangeMs := nowMs, hasLastRawChange := true }
  else c

theorem observed_debouncer (c : DevRingButtonController) (raw : Bool) (nowMs : UInt32) :
    (c.observed raw nowMs).debouncer = c.debouncer.observe raw nowMs := by
  rw [observed, Debouncer.observe]
  exact apply_ite debouncer _ _ _

theorem observed_kept (c : DevRingButtonController) (raw : Bool) (nowMs : UInt32) :
    (c.observed raw nowMs).debouncedPressed = c.debouncedPressed ∧
      (c.observed raw nowMs).lockoutMs = c.lockoutMs ∧
      (c.observed raw nowMs).lockoutUntilMs = c.lockoutUntilMs ∧
      (c.observed raw nowMs).lockoutActive = c.lockoutActive := by
  rw [observed]
  split <;> exact ⟨rfl, rfl, rfl, rfl⟩

/-- The second part: a lockout that has run out ends. -/
def unlocked (c : DevRingButtonController) (nowMs : UInt32) : DevRingButtonController :=
  if c.lockoutActive && deadlineReached nowMs c.lockoutUntilMs then
    { c with lockoutActive := false }
  else c

theorem unlocked_kept (c : DevRingButtonController) (nowMs : UInt32) :
    (c.unlocked nowMs).debouncer = c.debouncer ∧ (c.unlocked nowMs).lockoutMs = c.lockoutMs ∧
      (c.unlocked nowMs).lockoutUntilMs = c.lockoutUntilMs := by
  rw [unlocked]
  split <;> exact ⟨rfl, rfl, rfl⟩

theorem unlocked_active (c : DevRingButtonController) (nowMs : UInt32) :
    (c.unlocked nowMs).lockoutActive = true ↔ c.Locked nowMs := by
  rw [unlocked, Locked]
  cases hactive : c.lockoutActive with
  | false =>
    rw [Bool.false_and, if_neg Bool.false_ne_true, hactive]
    exact iff_of_false Bool.false_ne_true fun h => Bool.false_ne_true h.1
  | true =>
    cases deadlineReached nowMs c.lockoutUntilMs with
    | false =>
      rw [Bool.and_false, if_neg Bool.false_ne_true, hactive]
      exact iff_of_true rfl ⟨rfl, rfl⟩
    | true =>
      rw [Bool.and_self, if_pos rfl]
      exact iff_of_false Bool.false_ne_true fun h => Bool.false_ne_true h.2.symm

/-- The last part: a rising edge is reported unless a lockout runs. -/
def pulse (c : DevRingButtonController) (newDebounced : Bool) (nowMs : UInt32) :
    DevRingButtonController × Bool :=
  let risingEdge := newDebounced && !c.debouncedPressed
  let c := { c with debouncedPressed := newDebounced }
  if !risingEdge then (c, false)
  else if c.lockoutActive then (c, false)
  else ({ c with lockoutActive := true, lockoutUntilMs := nowMs + c.lockoutMs }, true)

theorem update_eq (c : DevRingButtonController) (raw : Bool) (nowMs : UInt32) :
    c.update raw nowMs = ((c.observed raw nowMs).unlocked nowMs).pulse
      (if (c.observed raw nowMs).debounceMs ≤ nowMs - (c.observed raw nowMs).lastRawChangeMs then
        raw
      else (c.observed raw nowMs).debouncedPressed) nowMs := by
  rw [update, observed]
  split <;> rfl

theorem pulse_kept (c : DevRingButtonController) (newDebounced : Bool) (nowMs : UInt32) :
    (c.pulse newDebounced nowMs).1.debouncer = { c.debouncer with debounced := newDebounced } ∧
      (c.pulse newDebounced nowMs).1.lockoutMs = c.lockoutMs := by
  rw [pulse]
  dsimp only
  split
  · exact ⟨rfl, rfl⟩
  · split <;> exact ⟨rfl, rfl⟩

theorem pulse_iff (c : DevRingButtonController) (newDebounced : Bool) (nowMs : UInt32) :
    (c.pulse newDebounced nowMs).2 = true ↔
      (newDebounced = true ∧ c.debouncedPressed = false) ∧ ¬ c.lockoutActive = true := by
  rw [pulse]
  dsimp only
  split
  · next hlevel =>
    refine iff_of_false Bool.false_ne_true fun h => ?_
    rw [h.1.1, h.1.2] at hlevel
    exact Bool.false_ne_true hlevel
  · next hlevel =>
    rw [Bool.not_eq_true', Bool.not_eq_false, Bool.and_eq_true, Bool.not_eq_true'] at hlevel
    split
    · next hactive => exact iff_of_false Bool.false_ne_true fun h => h.2 hactive
    · next hactive => exact iff_of_true rfl ⟨hlevel, hactive⟩

theorem pulse_lockout (c : DevRingButtonController) (newDebounced : Bool) (nowMs : UInt32) :
    if (c.pulse newDebounced nowMs).2 then
      (c.pulse newDebounced nowMs).1.lockoutActive = true ∧
        (c.pulse newDebounced nowMs).1.lockoutUntilMs = nowMs + c.lockoutMs
    else
      (c.pulse newDebounced nowMs).1.lockoutActive = c.lockoutActive ∧
        (c.pulse newDebounced nowMs).1.lockoutUntilMs = c.lockoutUntilMs := by
  rw [pulse]
  dsimp only
  split
  · exact ⟨rfl, rfl⟩
  · split <;> exact ⟨rfl, rfl⟩

/-- What one call does: the level is debounced, and a rising edge is reported and starts a lockout,
or falls into one and leaves it alone. -/
structure UpdateStep (c : DevRingButtonController) (raw : Bool) (nowMs : UInt32)
    (result : DevRingButtonController × Bool) : Prop where
  debouncer : result.1.debouncer = (c.debouncer.observe raw nowMs).settle raw nowMs
  lockoutMs : result.1.lockoutMs = c.lockoutMs
  pulse : result.2 = true ↔
    (result.1.debouncedPressed = true ∧ c.debouncedPressed = false) ∧ ¬ c.Locked nowMs
  armed : result.2 = true →
    result.1.lockoutActive = true ∧ result.1.lockoutUntilMs = nowMs + c.lockoutMs
  kept : result.2 = false →
    (result.1.lockoutActive = true ↔ c.Locked nowMs) ∧
      result.1.lockoutUntilMs = c.lockoutUntilMs

theorem updateStep (c : DevRingButtonController) (raw : Bool) (nowMs : UInt32) :
    c.UpdateStep raw nowMs (c.update raw nowMs) := by
  obtain ⟨hpressed, hms, huntil, hactive⟩ := c.observed_kept raw nowMs
  have hdebouncer := c.observed_debouncer raw nowMs
  have hlocked : (c.observed raw nowMs).Locked nowMs ↔ c.Locked nowMs := by
    rw [Locked, Locked, hactive, huntil]
  rw [update_eq]
  generalize c.observed raw nowMs = o at *
  obtain ⟨hdebouncer', hms', huntil'⟩ := o.unlocked_kept nowMs
  have hactive' := o.unlocked_active nowMs
  rw [hlocked] at hactive'
  have hpressed' : (o.unlocked nowMs).debouncedPressed = c.debouncedPressed :=
    (congrArg Debouncer.debounced hdebouncer').trans hpressed
  generalize hlevel : (if o.debounceMs ≤ nowMs - o.lastRawChangeMs then raw
    else o.debouncedPressed) = level
  obtain ⟨hkept, hms''⟩ := (o.unlocked nowMs).pulse_kept level nowMs
  have hiff := (o.unlocked nowMs).pulse_iff level nowMs
  have hlockout := (o.unlocked nowMs).pulse_lockout level nowMs
  rw [hactive', hpressed'] at hiff
  have hafter : ((o.unlocked nowMs).pulse level nowMs).1.debouncedPressed = level :=
    congrArg Debouncer.debounced hkept
  constructor
  · rw [hkept, hdebouncer', ← hlevel, ← hdebouncer]
    rfl
  · exact hms''.trans (hms'.trans hms)
  · rw [hafter]
    exact hiff
  · intro hpulse
    rw [hpulse, if_pos rfl, hms', hms] at hlockout
    exact hlockout
  · intro hpulse
    rw [hpulse, if_neg Bool.false_ne_true, huntil', huntil] at hlockout
    rw [hlockout.1]
    exact ⟨hactive', hlockout.2⟩

end DevRingButtonController

abbrev RingPulseTransition := Transition DevRingButtonController LevelSample Bool

def devRingButtonStep (c : DevRingButtonController) (sample : LevelSample) :
    DevRingButtonController × Bool :=
  c.update sample.level (ms32 sample.atMs)

def devRingButtonRun (debounceMs lockoutMs : UInt32) (samples : List LevelSample) :
    List RingPulseTransition :=
  transitions devRingButtonStep { debounceMs, lockoutMs } samples

theorem devRingButton_debounces :
    Debounces devRingButtonStep DevRingButtonController.debouncer id :=
  fun c sample => (c.updateStep sample.level (ms32 sample.atMs)).debouncer

/-- In this step the debounced level goes from released to pressed. -/
def RisingEdge (u : RingPulseTransition) : Prop :=
  u.after.debouncedPressed = true ∧ u.before.debouncedPressed = false

instance (u : RingPulseTransition) : Decidable (RisingEdge u) :=
  inferInstanceAs (Decidable (_ ∧ _))

theorem devRingButtonStep_updateStep (c : DevRingButtonController) (sample : LevelSample) :
    c.UpdateStep sample.level (ms32 sample.atMs) (devRingButtonStep c sample) :=
  c.updateStep sample.level (ms32 sample.atMs)

theorem pulse_iff_risingEdge (c : DevRingButtonController) (sample : LevelSample) :
    (Transition.of devRingButtonStep c sample).output = true ↔
      RisingEdge (.of devRingButtonStep c sample) ∧ ¬ c.Locked (ms32 sample.atMs) :=
  (devRingButtonStep_updateStep c sample).pulse

/-- Every pulse lies at least the lockout before `t`. -/
def PulsesBefore (lockoutMs : UInt32) (t : Nat) (ts : List RingPulseTransition) : Prop :=
  ∀ u ∈ ts, u.output = true → u.input.atMs + lockoutMs.toNat ≤ t

/-- What a run of the button reports. -/
structure PulsesSpaced (lockoutMs : UInt32) (ts : List RingPulseTransition) : Prop where
  /-- A pulse is a rising edge that lies the lockout or more after every pulse before it: an edge
  dropped in between does not count. -/
  reported : ∀ earlier v later, ts = earlier ++ v :: later →
    (v.output = true ↔ RisingEdge v ∧ PulsesBefore lockoutMs v.input.atMs earlier)
  /-- Between two pulses the debounced level was released. -/
  released : ∀ earlier u between v later, ts = earlier ++ u :: (between ++ v :: later) →
    u.output = true → v.output = true → ∃ w ∈ between, w.after.debouncedPressed = false
  /-- A dropped edge leaves the lockout as it was. -/
  dropped : ∀ u ∈ ts, RisingEdge u → u.output = false →
    u.after.lockoutActive = u.before.lockoutActive ∧
      u.after.lockoutUntilMs = u.before.lockoutUntilMs

/-- The lockout that runs is that of the latest pulse, and where none runs every pulse is past. -/
structure LockoutTracks (lockoutMs : UInt32) (ts : List RingPulseTransition)
    (c : DevRingButtonController) : Prop where
  configured : c.lockoutMs = lockoutMs
  sorted : ∀ last ∈ ts.getLast?, ∀ u ∈ ts, u.input.atMs ≤ last.input.atMs
  active : c.lockoutActive = true → ∃ u ∈ ts, u.output = true ∧
    (∀ w ∈ ts, w.output = true → w.input.atMs ≤ u.input.atMs) ∧
    c.lockoutUntilMs = ms32 u.input.atMs + lockoutMs ∧
    ∀ last ∈ ts.getLast?, last.input.atMs ≤ u.input.atMs + lockoutMs.toNat
  free : c.lockoutActive = false → ∀ last ∈ ts.getLast?,
    PulsesBefore lockoutMs last.input.atMs ts

theorem exists_getLast?_of_mem {l : List α} (h : a ∈ l) : ∃ last, l.getLast? = some last :=
  Option.isSome_iff_exists.mp (List.getLast?_isSome.mpr (List.ne_nil_of_mem h))

section Run
variable {lockoutMs : UInt32} {ts : List RingPulseTransition} {c : DevRingButtonController}
  {sample : LevelSample}

theorem LockoutTracks.locked_iff (h : LockoutTracks lockoutMs ts c)
    (hlockout : lockoutMs.toNat < 2 ^ 31)
    (hgap : ∀ last ∈ ts.getLast?, ShortGap last.input sample) :
    c.Locked (ms32 sample.atMs) ↔ ¬ PulsesBefore lockoutMs sample.atMs ts := by
  rw [DevRingButtonController.Locked]
  cases hactive : c.lockoutActive with
  | false =>
    refine iff_of_false (fun h => Bool.false_ne_true h.1) (not_not.mpr fun u hu hpulse => ?_)
    cases hlast : ts.getLast? with
    | none =>
      rw [List.getLast?_eq_none_iff.mp hlast] at hu
      exact absurd hu List.not_mem_nil
    | some last => exact (h.free hactive last hlast u hu hpulse).trans (hgap last hlast).1
  | true =>
    obtain ⟨u, hu, hpulse, hlatest, huntil, hwithin⟩ := h.active hactive
    obtain ⟨last, hlast⟩ := exists_getLast?_of_mem hu
    have hwithin := hwithin last hlast
    have hle := h.sorted last hlast u hu
    obtain ⟨hle', hlt⟩ := hgap last hlast
    have hreached := reachedSigned_iff_le (hle.trans hle') hlockout (by omega)
    rw [eq_self, true_and, DevRingButtonController.deadlineReached, huntil, ← Bool.not_eq_true,
      hreached, not_iff_not]
    constructor
    · intro hpast w hw hwpulse
      have hwle := hlatest w hw hwpulse
      omega
    · exact fun hpast => hpast u hu hpulse

theorem LockoutTracks.next (h : LockoutTracks lockoutMs ts c) (hlockout : lockoutMs.toNat < 2 ^ 31)
    (hgap : ∀ last ∈ ts.getLast?, ShortGap last.input sample) :
    LockoutTracks lockoutMs (ts ++ [.of devRingButtonStep c sample])
      (devRingButtonStep c sample).1 := by
  have hstep := devRingButtonStep_updateStep c sample
  have hlocked := h.locked_iff hlockout hgap
  have hsorted : ∀ u ∈ ts, u.input.atMs ≤ sample.atMs := by
    intro u hu
    obtain ⟨last, hlast⟩ := exists_getLast?_of_mem hu
    exact (h.sorted last hlast u hu).trans (hgap last hlast).1
  have hsorted' : ∀ u ∈ ts ++ [Transition.of devRingButtonStep c sample],
      u.input.atMs ≤ sample.atMs := by
    rw [List.forall_mem_append, List.forall_mem_singleton]
    exact ⟨hsorted, Nat.le_refl _⟩
  cases hpulse : (devRingButtonStep c sample).2 with
  | true =>
    obtain ⟨hactive, huntil⟩ := hstep.armed hpulse
    constructor
    · exact hstep.lockoutMs.trans h.configured
    · rw [List.getLast?_concat]
      rintro _ ⟨⟩
      exact hsorted'
    · intro _
      refine ⟨_, List.mem_append_right _ (List.mem_singleton_self _), hpulse,
        fun w hw _ => hsorted' w hw, ?_, ?_⟩
      · rw [← h.configured]
        exact huntil
      · rw [List.getLast?_concat]
        rintro _ ⟨⟩
        exact Nat.le_add_right _ _
    · exact fun hfree => absurd (hfree.symm.trans hactive) Bool.false_ne_true
  | false =>
    obtain ⟨hactive, huntil⟩ := hstep.kept hpulse
    constructor
    · exact hstep.lockoutMs.trans h.configured
    · rw [List.getLast?_concat]
      rintro _ ⟨⟩
      exact hsorted'
    · intro hafter
      have hnow := hactive.mp hafter
      obtain ⟨u, hu, hupulse, hlatest, huuntil, _⟩ := h.active hnow.1
      refine ⟨u, List.mem_append_left _ hu, hupulse, ?_, huntil.trans huuntil, ?_⟩
      · rw [List.forall_mem_append, List.forall_mem_singleton]
        exact ⟨hlatest, fun h => absurd (hpulse.symm.trans h) Bool.false_ne_true⟩
      · rw [List.getLast?_concat]
        rintro _ ⟨⟩
        have hrunning := hlocked.mp hnow
        rw [PulsesBefore] at hrunning
        push Not at hrunning
        obtain ⟨w, hw, hwpulse, hlt⟩ := hrunning
        have hle := hlatest w hw hwpulse
        dsimp only [Transition.of]
        omega
    · intro hafter
      rw [List.getLast?_concat]
      rintro _ ⟨⟩
      have hfree : ¬ c.Locked (ms32 sample.atMs) := fun hnow =>
        Bool.false_ne_true (hafter.symm.trans (hactive.mpr hnow))
      rw [hlocked, not_not] at hfree
      rw [PulsesBefore, List.forall_mem_append, List.forall_mem_singleton]
      exact ⟨hfree, fun h => absurd (hpulse.symm.trans h) Bool.false_ne_true⟩

theorem shortGap_of_isChain {rest : List LevelSample} (c : DevRingButtonController)
    (hclock : (samples ++ sample :: rest).IsChain ShortGap) :
    ∀ last ∈ (transitions devRingButtonStep c samples).getLast?, ShortGap last.input sample := by
  intro last hlast
  apply (List.isChain_append.mp hclock).2.2 last.input _ sample rfl
  rw [← transitions_input devRingButtonStep c samples, List.getLast?_map]
  exact Option.mem_map_of_mem _ hlast

theorem lockoutTracks_run (debounceMs : UInt32) (hlockout : lockoutMs.toNat < 2 ^ 31)
    (samples : List LevelSample) (hclock : samples.IsChain ShortGap) :
    LockoutTracks lockoutMs (devRingButtonRun debounceMs lockoutMs samples)
      (finalState devRingButtonStep { debounceMs, lockoutMs } samples) := by
  induction samples using List.reverseRecOn with
  | nil =>
    have hnone : ∀ last, last ∉ ([] : List RingPulseTransition).getLast? := Option.not_mem_none
    exact ⟨rfl, fun last hlast => absurd hlast (hnone last),
      fun hactive => absurd hactive Bool.false_ne_true,
      fun _ last hlast => absurd hlast (hnone last)⟩
  | append_singleton samples sample ih =>
    rw [devRingButtonRun, transitions_append, finalState_append]
    exact (ih hclock.left_of_append).next hlockout (shortGap_of_isChain _ hclock)

theorem released_between {between : List LevelSample} {u : RingPulseTransition}
    (hu : u.after.debouncedPressed = true)
    (hv : (finalState devRingButtonStep u.after between).debouncedPressed = false) :
    ∃ w ∈ transitions devRingButtonStep u.after between, w.after.debouncedPressed = false := by
  obtain ⟨last, hlast⟩ := exists_getLast?_of_mem (l := u :: transitions devRingButtonStep u.after
    between) List.mem_cons_self
  have hstate := getLast?_transitions hlast
  rw [← hstate] at hv
  rcases List.mem_cons.mp (List.mem_of_getLast? hlast) with rfl | hmem
  · exact absurd (hv.symm.trans hu) Bool.false_ne_true
  · exact ⟨last, hmem, hv⟩

theorem pulsesSpaced_run (debounceMs : UInt32) (hlockout : lockoutMs.toNat < 2 ^ 31)
    {samples : List LevelSample} (hclock : samples.IsChain ShortGap) :
    PulsesSpaced lockoutMs (devRingButtonRun debounceMs lockoutMs samples) := by
  constructor
  · intro earlier v later hts
    obtain ⟨samples₁, sample, samples₂, rfl, rfl, rfl, _⟩ := transitions_split hts
    have htracks := lockoutTracks_run debounceMs hlockout samples₁ hclock.left_of_append
    have hlocked := htracks.locked_iff hlockout (shortGap_of_isChain _ hclock)
    rw [pulse_iff_risingEdge, hlocked, not_not]
    exact Iff.rfl
  · intro earlier u between v later hts hu hv
    obtain ⟨samples₁, first, rest, _, _, hfirst, hrest⟩ := transitions_split hts
    obtain ⟨samples₂, sample, _, _, rfl, rfl, _⟩ := transitions_split hrest.symm
    have hu' : u.after.debouncedPressed = true := by
      rw [hfirst] at hu ⊢
      exact ((pulse_iff_risingEdge _ _).mp hu).1.1
    exact released_between hu' ((pulse_iff_risingEdge _ _).mp hv).1.2
  · intro u hu hedge hpulse
    obtain ⟨samples₁, sample, _, _, rfl⟩ := exists_of_mem_transitions hu
    have hstep := devRingButtonStep_updateStep
      (finalState devRingButtonStep { debounceMs, lockoutMs } samples₁) sample
    obtain ⟨hactive, huntil⟩ := hstep.kept hpulse
    have hlocked : (finalState devRingButtonStep { debounceMs, lockoutMs } samples₁).Locked
        (ms32 sample.atMs) := by
      by_contra hfree
      have hreported := (pulse_iff_risingEdge _ _).mpr ⟨hedge, hfree⟩
      exact Bool.false_ne_true (hpulse.symm.trans hreported)
    exact ⟨(hactive.mpr hlocked).trans hlocked.1.symm, huntil⟩

end Run
end InterBridge
