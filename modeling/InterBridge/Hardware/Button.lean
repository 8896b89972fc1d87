import InterBridge.Foundations.WrappingClock

namespace InterBridge
open Foundations
set_option autoImplicit true

def kButtonDebounceMs : UInt32 := 50

def kButtonProvisioningHoldMs : UInt32 := 3000

def kButtonFactoryResetHoldMs : UInt32 := 10000

inductive ButtonAction where
  | none | provisioningRequested | factoryResetRequested
  deriving DecidableEq

/-- The hold an action is documented to need. -/
def ButtonAction.holdMs : ButtonAction → Option UInt32
  | .none => .none
  | .provisioningRequested => some kButtonProvisioningHoldMs
  | .factoryResetRequested => some kButtonFactoryResetHoldMs

structure ButtonController where
  rawPressedLast : Bool := false
  lastRawChangeMs : UInt32 := 0
  hasLastRawChange : Bool := false
  debouncedPressed : Bool := false
  pressStartMs : UInt32 := 0
  provisioningFired : Bool := false
  factoryResetFired : Bool := false
  deriving DecidableEq

namespace ButtonController

/-- The first part of `update`: note when the raw level last changed. -/
def observe (c : ButtonController) (raw : Bool) (nowMs : UInt32) : ButtonController :=
  if !c.hasLastRawChange || raw != c.rawPressedLast then
    { c with rawPressedLast := raw, lastRawChangeMs := nowMs, hasLastRawChange := true }
  else c

/-- The second part: the debounced level follows a stable raw level, and a new press begins. -/
def debounce (c : ButtonController) (raw : Bool) (nowMs : UInt32) : ButtonController :=
  let stable := kButtonDebounceMs ≤ nowMs - c.lastRawChangeMs
  let newDebounced := if stable then raw else c.debouncedPressed
  let c :=
    if newDebounced && !c.debouncedPressed then
      { c with pressStartMs := nowMs, provisioningFired := false, factoryResetFired := false }
    else c
  { c with debouncedPressed := newDebounced }

/-- The third part: each threshold fires once in a press, the stronger one first. -/
def fire (c : ButtonController) (nowMs : UInt32) : ButtonController × ButtonAction :=
  if !c.debouncedPressed then (c, .none)
  else
    let heldMs := nowMs - c.pressStartMs
    if !c.factoryResetFired && kButtonFactoryResetHoldMs ≤ heldMs then
      ({ c with factoryResetFired := true, provisioningFired := true }, .factoryResetRequested)
    else if !c.provisioningFired && kButtonProvisioningHoldMs ≤ heldMs then
      ({ c with provisioningFired := true }, .provisioningRequested)
    else (c, .none)

def update (c : ButtonController) (raw : Bool) (nowMs : UInt32) :
    ButtonController × ButtonAction :=
  ((c.observe raw nowMs).debounce raw nowMs).fire nowMs

/-- A threshold that has not fired in this press has been reached. -/
def ThresholdDue (c : ButtonController) (nowMs : UInt32) : Prop :=
  (c.factoryResetFired = false ∧ kButtonFactoryResetHoldMs ≤ nowMs - c.pressStartMs) ∨
    (c.provisioningFired = false ∧ kButtonProvisioningHoldMs ≤ nowMs - c.pressStartMs)

instance (c : ButtonController) (nowMs : UInt32) : Decidable (c.ThresholdDue nowMs) :=
  inferInstanceAs (Decidable (_ ∨ _))

/-- The raw level has been released, and for long enough to count. -/
def ReleaseStable (c : ButtonController) (nowMs : UInt32) : Prop :=
  c.hasLastRawChange = true ∧ c.rawPressedLast = false ∧
    kButtonDebounceMs ≤ nowMs - c.lastRawChangeMs

instance (c : ButtonController) (nowMs : UInt32) : Decidable (c.ReleaseStable nowMs) :=
  inferInstanceAs (Decidable (_ ∧ _))

theorem observe_press (c : ButtonController) (raw : Bool) (nowMs : UInt32) :
    (c.observe raw nowMs).debouncedPressed = c.debouncedPressed ∧
      (c.observe raw nowMs).pressStartMs = c.pressStartMs ∧
      (c.observe raw nowMs).provisioningFired = c.provisioningFired ∧
      (c.observe raw nowMs).factoryResetFired = c.factoryResetFired := by
  rw [observe]
  split <;> exact ⟨rfl, rfl, rfl, rfl⟩

theorem observe_stable_released (c : ButtonController) (nowMs : UInt32) :
    kButtonDebounceMs ≤ nowMs - (c.observe false nowMs).lastRawChangeMs ↔
      c.ReleaseStable nowMs := by
  rw [observe, ReleaseStable]
  split
  · next hchange =>
    have hzero : ¬ kButtonDebounceMs ≤ nowMs - nowMs := by
      rw [UInt32.sub_self]
      decide
    refine iff_of_false hzero fun h => ?_
    rw [h.1, h.2.1] at hchange
    cases hchange
  · next hsame =>
    have hlast : c.hasLastRawChange = true ∧ c.rawPressedLast = false := by
      revert hsame
      cases c.hasLastRawChange <;> cases c.rawPressedLast <;> decide
    exact ⟨fun h => ⟨hlast.1, hlast.2, h⟩, fun h => h.2.2⟩

theorem debounce_cases (c : ButtonController) (raw : Bool) (nowMs : UInt32) :
    (c.debounce raw nowMs).debouncedPressed = false ∨
    (raw = true ∧ (c.debounce raw nowMs).pressStartMs = nowMs) ∨
    (c.debouncedPressed = true ∧ (c.debounce raw nowMs).pressStartMs = c.pressStartMs) := by
  cases hp : c.debouncedPressed with
  | true =>
    refine .inr (.inr ⟨rfl, ?_⟩)
    simp only [debounce, hp, Bool.not_true, Bool.and_false, Bool.false_eq_true, ↓reduceIte]
  | false =>
    by_cases hs : kButtonDebounceMs ≤ nowMs - c.lastRawChangeMs
    · cases raw with
      | true =>
        refine .inr (.inl ⟨rfl, ?_⟩)
        simp only [debounce, hp, hs, Bool.not_false, Bool.and_self, ↓reduceIte]
      | false =>
        refine .inl ?_
        simp only [debounce, hs, ↓reduceIte]
    · refine .inl ?_
      simp only [debounce, hs, hp, ↓reduceIte]

theorem debounce_released (c : ButtonController) (nowMs : UInt32) :
    c.debounce false nowMs = { c with debouncedPressed :=
      if kButtonDebounceMs ≤ nowMs - c.lastRawChangeMs then false else c.debouncedPressed } := by
  cases hp : c.debouncedPressed <;> simp [debounce, hp]

theorem fire_press (c : ButtonController) (nowMs : UInt32) :
    (c.fire nowMs).1.debouncedPressed = c.debouncedPressed ∧
      (c.fire nowMs).1.pressStartMs = c.pressStartMs := by
  rw [fire]
  split
  · exact ⟨rfl, rfl⟩
  dsimp only
  split
  · exact ⟨rfl, rfl⟩
  split <;> exact ⟨rfl, rfl⟩

theorem fire_holdMs {c : ButtonController} (h : (c.fire nowMs).2.holdMs = some hold) :
    c.debouncedPressed = true ∧ hold ≤ nowMs - c.pressStartMs := by
  rw [fire] at h
  split at h
  · cases h
  next hp =>
    rw [Bool.not_eq_true', Bool.not_eq_false] at hp
    refine ⟨hp, ?_⟩
    dsimp only at h
    split at h
    · next hf =>
      cases h
      rw [Bool.and_eq_true, decide_eq_true_eq] at hf
      exact hf.2
    split at h
    · next hf =>
      cases h
      rw [Bool.and_eq_true, decide_eq_true_eq] at hf
      exact hf.2
    · cases h

theorem fire_ne_none_iff (c : ButtonController) (nowMs : UInt32) :
    (c.fire nowMs).2 ≠ .none ↔ c.debouncedPressed = true ∧ c.ThresholdDue nowMs := by
  rw [fire, ThresholdDue]
  cases c.debouncedPressed with
  | false => exact iff_of_false (fun h => h rfl) (fun h => Bool.false_ne_true h.1)
  | true =>
    simp only [Bool.not_true, Bool.false_eq_true, ↓reduceIte, true_and]
    split
    · next hf =>
      rw [Bool.and_eq_true, Bool.not_eq_true', decide_eq_true_eq] at hf
      exact iff_of_true nofun (.inl hf)
    next hf =>
      rw [Bool.and_eq_true, Bool.not_eq_true', decide_eq_true_eq] at hf
      split
      · next hp =>
        rw [Bool.and_eq_true, Bool.not_eq_true', decide_eq_true_eq] at hp
        exact iff_of_true nofun (.inr hp)
      · next hp =>
        rw [Bool.and_eq_true, Bool.not_eq_true', decide_eq_true_eq] at hp
        exact iff_of_false (fun h => h rfl) (fun h => h.elim hf hp)

/-- Either the button counts as released, or its press began with this pressed sample, or it is the
press of before. -/
theorem update_cases (c : ButtonController) (raw : Bool) (nowMs : UInt32) :
    (c.update raw nowMs).1.debouncedPressed = false ∨
    (raw = true ∧ (c.update raw nowMs).1.pressStartMs = nowMs) ∨
    (c.debouncedPressed = true ∧ (c.update raw nowMs).1.pressStartMs = c.pressStartMs) := by
  obtain ⟨hp, hs, _, _⟩ := c.observe_press raw nowMs
  rw [update, (fire_press _ nowMs).1, (fire_press _ nowMs).2, ← hp, ← hs]
  exact debounce_cases _ raw nowMs

theorem update_holdMs {c : ButtonController} (h : (c.update raw nowMs).2.holdMs = some hold) :
    (c.update raw nowMs).1.debouncedPressed = true ∧
      hold ≤ nowMs - (c.update raw nowMs).1.pressStartMs := by
  rw [update, (fire_press _ nowMs).1, (fire_press _ nowMs).2]
  exact fire_holdMs h

/-- A released sample fires exactly when the release is not stable and a threshold is due. -/
theorem update_released_ne_none_iff (c : ButtonController) (nowMs : UInt32) :
    (c.update false nowMs).2 ≠ .none ↔
      c.debouncedPressed = true ∧ ¬ c.ReleaseStable nowMs ∧ c.ThresholdDue nowMs := by
  obtain ⟨hp, hs, hpf, hff⟩ := c.observe_press false nowMs
  rw [update, fire_ne_none_iff, debounce_released, ThresholdDue]
  simp only [observe_stable_released, hp, hs, hpf, hff]
  by_cases hr : c.ReleaseStable nowMs
  · simp only [hr, ↓reduceIte, Bool.false_eq_true, not_true_eq_false, false_and, and_false]
  · simp only [hr, ↓reduceIte, not_false_eq_true, true_and, ThresholdDue]

end ButtonController
end InterBridge
