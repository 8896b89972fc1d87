import InterBridge.Foundations.Debounce
import InterBridge.Hardware.ButtonHold

namespace InterBridge
open Foundations
set_option autoImplicit true

namespace ButtonController

def debouncer (c : ButtonController) : Debouncer where
  debounceMs := kButtonDebounceMs
  rawLast := c.rawPressedLast
  lastRawChangeMs := c.lastRawChangeMs
  hasLastRawChange := c.hasLastRawChange
  debounced := c.debouncedPressed

theorem observe_debouncer (c : ButtonController) (raw : Bool) (nowMs : UInt32) :
    (c.observe raw nowMs).debouncer = c.debouncer.observe raw nowMs := by
  rw [observe, Debouncer.observe]
  exact apply_ite debouncer _ _ _

/-- The level takes its new value, and a rising edge begins a press. -/
def setLevel (c : ButtonController) (newDebounced : Bool) (nowMs : UInt32) : ButtonController :=
  let c :=
    if newDebounced && !c.debouncedPressed then
      { c with pressStartMs := nowMs, provisioningFired := false, factoryResetFired := false }
    else c
  { c with debouncedPressed := newDebounced }

theorem debounce_eq (c : ButtonController) (raw : Bool) (nowMs : UInt32) :
    c.debounce raw nowMs = c.setLevel (if kButtonDebounceMs ≤ nowMs - c.lastRawChangeMs then raw
      else c.debouncedPressed) nowMs := rfl

theorem setLevel_debouncer (c : ButtonController) (newDebounced : Bool) (nowMs : UInt32) :
    (c.setLevel newDebounced nowMs).debouncer =
      { c.debouncer with debounced := newDebounced } := by
  rw [setLevel]
  split <;> rfl

theorem debounce_debouncer (c : ButtonController) (raw : Bool) (nowMs : UInt32) :
    (c.debounce raw nowMs).debouncer = c.debouncer.settle raw nowMs := by
  rw [debounce_eq, setLevel_debouncer]
  rfl

theorem fire_debouncer (c : ButtonController) (nowMs : UInt32) :
    (c.fire nowMs).1.debouncer = c.debouncer := by
  rw [fire]
  split
  · rfl
  dsimp only
  split
  · rfl
  split <;> rfl

theorem update_debouncer (c : ButtonController) (raw : Bool) (nowMs : UInt32) :
    (c.update raw nowMs).1.debouncer = (c.debouncer.observe raw nowMs).settle raw nowMs := by
  rw [update, fire_debouncer, debounce_debouncer, observe_debouncer]

theorem debounce_press {c : ButtonController} (hc : c.debouncedPressed = false)
    (h : (c.debounce raw nowMs).debouncedPressed = true) :
    (c.debounce raw nowMs).pressStartMs = nowMs ∧
      (c.debounce raw nowMs).provisioningFired = false ∧
      (c.debounce raw nowMs).factoryResetFired = false := by
  rw [debounce_eq] at h ⊢
  generalize (if kButtonDebounceMs ≤ nowMs - c.lastRawChangeMs then raw
    else c.debouncedPressed : Bool) = level at *
  change level = true at h
  rw [setLevel, h, hc]
  exact ⟨rfl, rfl, rfl⟩

theorem debounce_held {c : ButtonController} (hc : c.debouncedPressed = true)
    (raw : Bool) (nowMs : UInt32) :
    (c.debounce raw nowMs).pressStartMs = c.pressStartMs ∧
      (c.debounce raw nowMs).provisioningFired = c.provisioningFired ∧
      (c.debounce raw nowMs).factoryResetFired = c.factoryResetFired := by
  simp only [debounce, hc, Bool.not_true, Bool.and_false, Bool.false_eq_true, ↓reduceIte, and_self]

/-- These are the actions of the press so far, as its two flags have them. -/
def FiredSoFar (provisioningFired factoryResetFired : Bool) (actions : List ButtonAction) : Prop :=
  (actions = [] ∧ provisioningFired = false ∧ factoryResetFired = false) ∨
    (actions = [.provisioningRequested] ∧ provisioningFired = true ∧ factoryResetFired = false) ∨
    ((actions = [.factoryResetRequested] ∨
        actions = [.provisioningRequested, .factoryResetRequested]) ∧
      provisioningFired = true ∧ factoryResetFired = true)

/-- What one call returns, as part of a list of actions. -/
def returned : ButtonAction → List ButtonAction
  | .none => []
  | action => [action]

/-- Nothing fires twice in a press, and nothing after the factory reset. -/
theorem FiredSoFar.fire {c : ButtonController}
    (h : FiredSoFar c.provisioningFired c.factoryResetFired actions) (nowMs : UInt32) :
    FiredSoFar (c.fire nowMs).1.provisioningFired (c.fire nowMs).1.factoryResetFired
      (actions ++ returned (c.fire nowMs).2) := by
  rw [ButtonController.fire]
  split
  · rw [returned, List.append_nil]
    exact h
  dsimp only
  split
  · next hfactory =>
    rw [Bool.and_eq_true, Bool.not_eq_true'] at hfactory
    refine .inr (.inr ⟨?_, rfl, rfl⟩)
    rcases h with ⟨rfl, _⟩ | ⟨rfl, _⟩ | ⟨_, _, hfired⟩
    · exact .inl rfl
    · exact .inr rfl
    · exact absurd (hfactory.1.symm.trans hfired) Bool.false_ne_true
  split
  · next hprovisioning =>
    rw [Bool.and_eq_true, Bool.not_eq_true'] at hprovisioning
    rcases h with ⟨rfl, _, hfactory⟩ | ⟨_, hfired, _⟩ | ⟨_, hfired, _⟩
    · exact .inr (.inl ⟨rfl, rfl, hfactory⟩)
    · exact absurd (hprovisioning.1.symm.trans hfired) Bool.false_ne_true
    · exact absurd (hprovisioning.1.symm.trans hfired) Bool.false_ne_true
  · rw [returned, List.append_nil]
    exact h

theorem fire_flags (c : ButtonController) (nowMs : UInt32) :
    (c.provisioningFired = true → (c.fire nowMs).1.provisioningFired = true) ∧
      (c.factoryResetFired = true → (c.fire nowMs).1.factoryResetFired = true) := by
  rw [ButtonController.fire]
  split
  · exact ⟨id, id⟩
  dsimp only
  split
  · exact ⟨fun _ => rfl, fun _ => rfl⟩
  split
  · exact ⟨fun _ => rfl, id⟩
  · exact ⟨id, id⟩

theorem update_press {c : ButtonController} (hc : c.debouncedPressed = false)
    (h : (c.update raw nowMs).1.debouncedPressed = true) :
    (c.update raw nowMs).1.pressStartMs = nowMs ∧
      FiredSoFar (c.update raw nowMs).1.provisioningFired (c.update raw nowMs).1.factoryResetFired
        (returned (c.update raw nowMs).2) := by
  obtain ⟨hp, _, _, _⟩ := c.observe_press raw nowMs
  rw [update, (fire_press _ nowMs).1] at h
  obtain ⟨hstart, hprovisioning, hfactory⟩ := debounce_press (hp.trans hc) h
  rw [update, (fire_press _ nowMs).2]
  have hnew : FiredSoFar ((c.observe raw nowMs).debounce raw nowMs).provisioningFired
      ((c.observe raw nowMs).debounce raw nowMs).factoryResetFired [] :=
    .inl ⟨rfl, hprovisioning, hfactory⟩
  exact ⟨hstart, hnew.fire nowMs⟩

theorem update_held {c : ButtonController} (hc : c.debouncedPressed = true)
    (raw : Bool) (nowMs : UInt32) :
    (c.update raw nowMs).1.pressStartMs = c.pressStartMs ∧
      (c.provisioningFired = true → (c.update raw nowMs).1.provisioningFired = true) ∧
      (c.factoryResetFired = true → (c.update raw nowMs).1.factoryResetFired = true) := by
  obtain ⟨hp, hs, hpf, hff⟩ := c.observe_press raw nowMs
  obtain ⟨hs', hpf', hff'⟩ := debounce_held (hp.trans hc) raw nowMs
  obtain ⟨hprovisioning, hfactory⟩ :=
    fire_flags ((c.observe raw nowMs).debounce raw nowMs) nowMs
  rw [update, (fire_press _ nowMs).2]
  rw [hpf', hpf] at hprovisioning
  rw [hff', hff] at hfactory
  exact ⟨hs'.trans hs, hprovisioning, hfactory⟩

theorem FiredSoFar.update {c : ButtonController} (hc : c.debouncedPressed = true)
    (h : FiredSoFar c.provisioningFired c.factoryResetFired actions) (raw : Bool)
    (nowMs : UInt32) :
    FiredSoFar (c.update raw nowMs).1.provisioningFired (c.update raw nowMs).1.factoryResetFired
      (actions ++ returned (c.update raw nowMs).2) := by
  obtain ⟨hp, _, hpf, hff⟩ := c.observe_press raw nowMs
  obtain ⟨_, hpf', hff'⟩ := debounce_held (hp.trans hc) raw nowMs
  have hkept : FiredSoFar ((c.observe raw nowMs).debounce raw nowMs).provisioningFired
      ((c.observe raw nowMs).debounce raw nowMs).factoryResetFired actions := by
    rw [hpf', hpf, hff', hff]
    exact h
  exact hkept.fire nowMs

theorem update_silent {c : ButtonController}
    (h : (c.update raw nowMs).1.debouncedPressed = false) : (c.update raw nowMs).2 = .none := by
  rw [update, (fire_press _ nowMs).1] at h
  by_contra hfired
  rw [update, ← ne_eq, fire_ne_none_iff] at hfired
  exact Bool.false_ne_true (h.symm.trans hfired.1)

end ButtonController

def ButtonSample.toLevel (sample : ButtonSample) : LevelSample := ⟨sample.pressed, sample.atMs⟩

theorem button_debounces :
    Debounces buttonStep ButtonController.debouncer ButtonSample.toLevel :=
  fun c sample => c.update_debouncer sample.pressed (ms32 sample.atMs)

/-- The actions returned, without the calls that return none. -/
def actionsOf (ts : List ButtonTransition) : List ButtonAction :=
  ts.flatMap fun u => ButtonController.returned u.output

/-- In this step a debounced press begins. -/
def PressBegins (u : ButtonTransition) : Prop :=
  u.before.debouncedPressed = false ∧ u.after.debouncedPressed = true

/-- What the actions of a run are. -/
structure ActsOncePerPress (ts : List ButtonTransition) : Prop where
  /-- In one press each threshold acts at most once, the factory reset last. -/
  words : ∀ earlier press during later, ts = earlier ++ press :: (during ++ later) →
    PressBegins press → (∀ u ∈ during, u.after.debouncedPressed = true) →
    actionsOf (press :: during) ∈ [[], [ButtonAction.provisioningRequested],
      [.factoryResetRequested], [.provisioningRequested, .factoryResetRequested]]
  silent : ∀ u ∈ ts, u.after.debouncedPressed = false → u.output = .none
  /-- Nothing that happens while a press goes on, a released sample included, restarts the hold or
  arms an action again. -/
  held : ∀ u ∈ ts, u.before.debouncedPressed = true → u.after.debouncedPressed = true →
    u.after.pressStartMs = u.before.pressStartMs ∧
      (u.before.provisioningFired = true → u.after.provisioningFired = true) ∧
      (u.before.factoryResetFired = true → u.after.factoryResetFired = true)

theorem firedSoFar_during {c : ButtonController} (samples : List ButtonSample)
    (hc : c.debouncedPressed = true)
    (hduring : ∀ u ∈ transitions buttonStep c samples, u.after.debouncedPressed = true)
    (h : ButtonController.FiredSoFar c.provisioningFired c.factoryResetFired actions) :
    ButtonController.FiredSoFar (finalState buttonStep c samples).provisioningFired
      (finalState buttonStep c samples).factoryResetFired
      (actions ++ actionsOf (transitions buttonStep c samples)) := by
  induction samples generalizing c actions with
  | nil =>
    rw [transitions, actionsOf, List.flatMap_nil, List.append_nil]
    exact h
  | cons sample samples ih =>
    rw [transitions, List.forall_mem_cons] at hduring
    rw [transitions, actionsOf, List.flatMap_cons, ← List.append_assoc]
    apply ih hduring.1 hduring.2
    exact h.update hc sample.pressed (ms32 sample.atMs)

theorem ButtonController.FiredSoFar.mem_words
    (h : FiredSoFar provisioning factoryReset actions) :
    actions ∈ [[], [ButtonAction.provisioningRequested], [.factoryResetRequested],
      [.provisioningRequested, .factoryResetRequested]] := by
  rcases h with ⟨rfl, _⟩ | ⟨rfl, _⟩ | ⟨rfl | rfl, _⟩ <;> decide

/-- Each press acts at most once per threshold, in every run. -/
theorem actsOncePerPress_run (samples : List ButtonSample) :
    ActsOncePerPress (buttonRun samples) := by
  constructor
  · intro earlier press during later hts hbegins hduring
    obtain ⟨samples₁, sample, samples₂, rfl, rfl, rfl, hrest⟩ := transitions_split hts
    obtain ⟨samples₃, _, _, rfl, _⟩ := transitions_cut hrest.symm
    have hpress := (ButtonController.update_press hbegins.1 hbegins.2).2
    exact (firedSoFar_during samples₃ hbegins.2 hduring hpress).mem_words
  · intro u hu hreleased
    obtain ⟨_, _, _, _, rfl⟩ := exists_of_mem_transitions hu
    exact ButtonController.update_silent hreleased
  · intro u hu hbefore _
    obtain ⟨_, _, _, _, rfl⟩ := exists_of_mem_transitions hu
    exact ButtonController.update_held hbefore _ _

end InterBridge
