import InterBridge.Foundations.Transitions
import InterBridge.Hardware.Button

namespace InterBridge
open Foundations
set_option autoImplicit true

/-- The raw level read at a time on an unbounded clock, of which the program sees 32 bits. -/
structure ButtonSample where
  pressed : Bool
  atMs : Nat

abbrev ButtonTransition := Transition ButtonController ButtonSample ButtonAction

def buttonStep (c : ButtonController) (sample : ButtonSample) : ButtonController × ButtonAction :=
  c.update sample.pressed (ms32 sample.atMs)

/-- The steps of a controller that starts fresh. -/
def buttonRun (samples : List ButtonSample) : List ButtonTransition :=
  transitions buttonStep {} samples

/-- A press goes back to a pressed sample, from which on the level never counted as released. -/
def HeldSince (ts : List ButtonTransition) (c : ButtonController) : Prop :=
  c.debouncedPressed = true → ∃ before start between, ts = before ++ start :: between ∧
    start.input.pressed = true ∧ c.pressStartMs = ms32 start.input.atMs ∧
    ∀ v ∈ start :: between, v.after.debouncedPressed = true

theorem HeldSince.next (h : HeldSince ts c) (sample : ButtonSample) :
    HeldSince (ts ++ [.of buttonStep c sample]) (buttonStep c sample).1 := by
  intro hp
  rcases c.update_cases sample.pressed (ms32 sample.atMs) with hreleased | ⟨hraw, hs⟩ | ⟨hc, hs⟩
  · exact absurd (hreleased.symm.trans hp) Bool.false_ne_true
  · refine ⟨ts, .of buttonStep c sample, [], rfl, hraw, hs, ?_⟩
    intro v hv
    rw [List.mem_singleton] at hv
    subst hv
    exact hp
  · obtain ⟨before, start, between, rfl, hstart, hsince, hall⟩ := h hc
    refine ⟨before, start, between ++ [.of buttonStep c sample], List.append_assoc _ _ _, hstart,
      hs.trans hsince, ?_⟩
    intro v hv
    rw [← List.cons_append, List.mem_append, List.mem_singleton] at hv
    rcases hv with hv | hv
    · exact hall v hv
    · subst hv
      exact hp

theorem heldSince_run (samples : List ButtonSample) :
    HeldSince (buttonRun samples) (finalState buttonStep {} samples) := by
  apply run_induction (motive := HeldSince)
  · exact fun h => absurd h Bool.false_ne_true
  · exact fun ts c sample h => h.next sample

/-- The sample `u` read pressed, and so did one at least `hold` before it in the same press. -/
def RealHold (earlier : List ButtonTransition) (u : ButtonTransition) (hold : UInt32) : Prop :=
  u.input.pressed = true ∧ ∃ before start between, earlier = before ++ start :: between ∧
    start.input.pressed = true ∧ start.input.atMs + hold.toNat ≤ u.input.atMs ∧
    ∀ v ∈ start :: between ++ [u], v.after.debouncedPressed = true

/-- Every action of a run comes from a real hold. -/
def RealHolds (ts : List ButtonTransition) : Prop :=
  ∀ earlier u later hold, ts = earlier ++ u :: later → u.output.holdMs = some hold →
    RealHold earlier u hold

/-- A sample that reads released while the press still counts, because the release is not yet
stable, and a threshold is due. -/
def LateRelease (c : ButtonController) (sample : ButtonSample) : Prop :=
  sample.pressed = false ∧ c.debouncedPressed = true ∧ ¬ c.ReleaseStable (ms32 sample.atMs) ∧
    c.ThresholdDue (ms32 sample.atMs)

instance (c : ButtonController) (sample : ButtonSample) : Decidable (LateRelease c sample) :=
  inferInstanceAs (Decidable (_ ∧ _))

theorem holdMs_eq_none_iff : ButtonAction.holdMs action = none ↔ action = .none := by
  cases action <;> decide

theorem kButtonProvisioningHoldMs_le (h : ButtonAction.holdMs action = some hold) :
    kButtonProvisioningHoldMs ≤ hold := by
  cases action with
  | none => cases h
  | provisioningRequested =>
    cases h
    decide
  | factoryResetRequested =>
    cases h
    decide

theorem realHold_of_pressed {samples : List ButtonSample} {sample : ButtonSample}
    (hsorted : ∀ s ∈ samples, s.atMs ≤ sample.atMs) (hpressed : sample.pressed = true)
    (hfired : (buttonStep (finalState buttonStep {} samples) sample).2.holdMs = some hold) :
    RealHold (buttonRun samples) (.of buttonStep (finalState buttonStep {} samples) sample)
      hold := by
  obtain ⟨hp, hle⟩ := ButtonController.update_holdMs hfired
  refine ⟨hpressed, ?_⟩
  obtain ⟨before, start, between, hts, hstart, hsince, hall⟩ :=
    (heldSince_run samples).next sample hp
  change ((finalState buttonStep {} samples).update sample.pressed
    (ms32 sample.atMs)).1.pressStartMs = _ at hsince
  rw [hsince] at hle
  rcases concat_eq_append_cons hts with ⟨_, rfl, _⟩ | ⟨between', rfl, hearlier⟩
  · have hzero : hold ≤ ms32 sample.atMs - ms32 sample.atMs := hle
    rw [UInt32.sub_self] at hzero
    exact absurd (UInt32.le_trans (kButtonProvisioningHoldMs_le hfired) hzero) (by decide)
  · refine ⟨before, start, between', hearlier, hstart, ?_, hall⟩
    have hmem : start.input ∈ samples := by
      rw [← transitions_input buttonStep {} samples]
      apply List.mem_map_of_mem
      change start ∈ buttonRun samples
      rw [hearlier]
      exact List.mem_append_right _ List.mem_cons_self
    exact elapsed_of_ms32_sub (hsorted _ hmem) hle

theorem fires_of_lateRelease (h : LateRelease c sample) :
    (buttonStep c sample).2.holdMs ≠ none := by
  obtain ⟨hraw, hc⟩ := h
  rw [ne_eq, holdMs_eq_none_iff, buttonStep, hraw]
  exact (c.update_released_ne_none_iff _).mpr hc

theorem lateRelease_of_fires (hraw : sample.pressed = false)
    (h : (buttonStep c sample).2.holdMs = some hold) : LateRelease c sample := by
  have hne : (buttonStep c sample).2 ≠ .none := by
    rw [ne_eq, ← holdMs_eq_none_iff, h]
    nofun
  rw [buttonStep, hraw] at hne
  exact ⟨hraw, (c.update_released_ne_none_iff _).mp hne⟩

/-- Over every run, actions come from real holds exactly when no sample reads released while its
press still counts and a threshold is due. -/
theorem realHolds_iff_no_lateRelease (samples : List ButtonSample)
    (hsorted : (samples.map ButtonSample.atMs).Pairwise (· ≤ ·)) :
    RealHolds (buttonRun samples) ↔
      ∀ u ∈ buttonRun samples, ¬ LateRelease u.before u.input := by
  constructor
  · intro h u hu hlate
    obtain ⟨earlier, later, hts⟩ := List.append_of_mem hu
    obtain ⟨is₁, i, is₂, _, _, rfl, _⟩ := transitions_split hts
    cases hfired : (buttonStep (finalState buttonStep {} is₁) i).2.holdMs with
    | none => exact fires_of_lateRelease hlate hfired
    | some hold =>
      have hreal := h _ _ _ hold hts hfired
      exact Bool.false_ne_true (hlate.1.symm.trans hreal.1)
  · intro h earlier u later hold hts hfired
    obtain ⟨is₁, i, is₂, his, rfl, rfl, _⟩ := transitions_split hts
    have hu : Transition.of buttonStep (finalState buttonStep {} is₁) i ∈ buttonRun samples := by
      rw [hts]
      exact List.mem_append_right _ List.mem_cons_self
    have hpressed : i.pressed = true := by
      by_contra hraw
      exact h _ hu (lateRelease_of_fires (Bool.eq_false_iff.mpr hraw) hfired)
    apply realHold_of_pressed _ hpressed hfired
    intro s hs
    rw [his, List.map_append, List.pairwise_append] at hsorted
    exact hsorted.2.2 _ (List.mem_map_of_mem hs) _ List.mem_cons_self

/-- In a run of real holds, a press whose pressed samples all lie within less than the provisioning
threshold of each other produces no action. -/
theorem RealHolds.short_press_silent {before press after : List ButtonTransition}
    (h : RealHolds (before ++ press ++ after))
    (hstart : ∀ v, before.getLast? = some v → v.after.debouncedPressed = false)
    (hshort : ∀ v ∈ press, ∀ w ∈ press, v.input.pressed = true → w.input.pressed = true →
      w.input.atMs < v.input.atMs + kButtonProvisioningHoldMs.toNat) :
    ∀ u ∈ press, u.output = .none := by
  intro u hu
  rw [← holdMs_eq_none_iff]
  cases hfired : u.output.holdMs with
  | none => rfl
  | some hold =>
    obtain ⟨press₁, press₂, rfl⟩ := List.append_of_mem hu
    have hts : before ++ (press₁ ++ u :: press₂) ++ after =
        (before ++ press₁) ++ u :: (press₂ ++ after) := by
      simp only [List.append_assoc, List.cons_append]
    obtain ⟨hpressed, first, start, between, hearlier, hpressedStart, hhold, hall⟩ :=
      h _ _ _ hold hts hfired
    have hmem : start ∈ press₁ := by
      rcases List.append_eq_append_iff.mp hearlier with ⟨rest, _, rfl⟩ | ⟨rest, rfl, hrest⟩
      · exact List.mem_append_right _ List.mem_cons_self
      · rcases rest.eq_nil_or_concat with rfl | ⟨rest', v, rfl⟩
        · rw [List.nil_append] at hrest
          exact hrest ▸ List.mem_cons_self
        · have hv : v.after.debouncedPressed = true := by
            apply hall
            rw [hrest]
            simp only [List.concat_eq_append, List.mem_append, List.mem_singleton, or_true, true_or]
          have hlast := hstart v (by simp only [List.concat_eq_append, ← List.append_assoc,
            List.getLast?_append, List.getLast?_singleton, Option.some_or])
          exact absurd (hlast.symm.trans hv) Bool.false_ne_true
    have hle := UInt32.le_iff_toNat_le.mp (kButtonProvisioningHoldMs_le hfired)
    have hlt := hshort start (List.mem_append_left _ hmem) u
      (List.mem_append_right _ List.mem_cons_self) hpressedStart hpressed
    omega

def lateReleasedPress : List ButtonSample := [⟨true, 0⟩, ⟨true, 50⟩, ⟨false, 10050⟩]

/-- A tap of 50 ms whose release is sampled ten seconds later asks for a factory reset. -/
theorem lateReleasedPress_factory_reset :
    (lateReleasedPress.map ButtonSample.atMs).Pairwise (· ≤ ·) ∧
      ¬ RealHolds (buttonRun lateReleasedPress) := by
  refine ⟨by decide, fun h => ?_⟩
  have hreal := h [_, _] _ [] kButtonFactoryResetHoldMs rfl rfl
  exact Bool.false_ne_true hreal.1

/-- A button held for ten seconds. -/
theorem realHolds_held_ten_seconds :
    RealHolds (buttonRun [⟨true, 0⟩, ⟨true, 50⟩, ⟨true, 10050⟩]) :=
  (realHolds_iff_no_lateRelease _ (by decide)).mpr (by decide)

end InterBridge
