import InterBridge.Foundations.Debounce

namespace InterBridge
open Foundations
set_option autoImplicit true

def kRingDetectorDebounceMsDefault : UInt32 := 50

inductive RingEvent where
  | none | asserted | cleared
  deriving DecidableEq

structure RingDetector where
  debounceMs : UInt32 := kRingDetectorDebounceMsDefault
  rawAssertedLast : Bool := false
  lastRawChangeMs : UInt32 := 0
  hasLastRawChange : Bool := false
  debouncedAsserted : Bool := false
  deriving DecidableEq

namespace RingDetector

/-- The first part of `update`: note when the raw level last changed. -/
def observe (c : RingDetector) (rawAsserted : Bool) (nowMs : UInt32) : RingDetector :=
  if !c.hasLastRawChange || rawAsserted != c.rawAssertedLast then
    { c with rawAssertedLast := rawAsserted, lastRawChangeMs := nowMs, hasLastRawChange := true }
  else c

/-- The second part: report a change of the debounced level. -/
def report (c : RingDetector) (newDebounced : Bool) : RingDetector × RingEvent :=
  if newDebounced == c.debouncedAsserted then (c, .none)
  else
    ({ c with debouncedAsserted := newDebounced }, if newDebounced then .asserted else .cleared)

/-- `electricallyHigh` is what `readRaw` answers: the line is active low. -/
def update (c : RingDetector) (electricallyHigh : Bool) (nowMs : UInt32) :
    RingDetector × RingEvent :=
  let rawAsserted := !electricallyHigh
  let c := c.observe rawAsserted nowMs
  let stable := c.debounceMs ≤ nowMs - c.lastRawChangeMs
  c.report (if stable then rawAsserted else c.debouncedAsserted)

def isRingAsserted (c : RingDetector) : Bool := c.debouncedAsserted

def debouncer (c : RingDetector) : Debouncer where
  debounceMs := c.debounceMs
  rawLast := c.rawAssertedLast
  lastRawChangeMs := c.lastRawChangeMs
  hasLastRawChange := c.hasLastRawChange
  debounced := c.debouncedAsserted

/-- The event of a change from one debounced level to another. -/
def eventOf (earlier later : Bool) : RingEvent :=
  if later = earlier then .none else if later then .asserted else .cleared

theorem report_event (c : RingDetector) (newDebounced : Bool) :
    (c.report newDebounced).2 =
      eventOf c.isRingAsserted (c.report newDebounced).1.isRingAsserted := by
  rw [report]
  split
  · exact (if_pos rfl).symm
  · next hchanged => exact (if_neg fun h => hchanged (beq_iff_eq.mpr h)).symm

theorem report_debouncer (c : RingDetector) (newDebounced : Bool) :
    (c.report newDebounced).1.debouncer = { c.debouncer with debounced := newDebounced } := by
  rw [report]
  split
  · next hsame =>
    rw [beq_iff_eq.mp hsame]
    rfl
  · rfl

theorem observe_debouncer (c : RingDetector) (rawAsserted : Bool) (nowMs : UInt32) :
    (c.observe rawAsserted nowMs).debouncer = c.debouncer.observe rawAsserted nowMs := by
  rw [observe, Debouncer.observe]
  exact apply_ite debouncer _ _ _

theorem observe_isRingAsserted (c : RingDetector) (rawAsserted : Bool) (nowMs : UInt32) :
    (c.observe rawAsserted nowMs).isRingAsserted = c.isRingAsserted := by
  rw [observe]
  split <;> rfl

theorem update_event (c : RingDetector) (electricallyHigh : Bool) (nowMs : UInt32) :
    (c.update electricallyHigh nowMs).2 = eventOf c.isRingAsserted
      (c.update electricallyHigh nowMs).1.isRingAsserted := by
  rw [update, report_event, observe_isRingAsserted]

theorem update_debouncer (c : RingDetector) (electricallyHigh : Bool) (nowMs : UInt32) :
    (c.update electricallyHigh nowMs).1.debouncer =
      (c.debouncer.observe (!electricallyHigh) nowMs).settle (!electricallyHigh) nowMs := by
  rw [update, report_debouncer, ← observe_debouncer]
  rfl

end RingDetector

abbrev RingTransition := Transition RingDetector LevelSample RingEvent

def ringDetectorStep (c : RingDetector) (sample : LevelSample) : RingDetector × RingEvent :=
  c.update sample.level (ms32 sample.atMs)

def ringDetectorRun (debounceMs : UInt32) (samples : List LevelSample) : List RingTransition :=
  transitions ringDetectorStep { debounceMs } samples

/-- The raw level of a sample of the line: asserted while electrically low. -/
def rawAsserted (sample : LevelSample) : LevelSample := ⟨!sample.level, sample.atMs⟩

theorem ringDetector_debounces :
    Debounces ringDetectorStep RingDetector.debouncer rawAsserted :=
  fun c sample => c.update_debouncer sample.level (ms32 sample.atMs)

/-- The events a run reports. -/
def ringEvents (ts : List RingTransition) : List RingEvent :=
  (ts.map Transition.output).filter (· ≠ .none)

/-- The events strictly alternate, the first one being that the ring is asserted. -/
def RingEventsAlternate (ts : List RingTransition) : Prop :=
  (ringEvents ts).IsChain (· ≠ ·) ∧ ∀ e ∈ (ringEvents ts).head?, e = .asserted

theorem ringEvents_concat (ts : List RingTransition) (u : RingTransition) :
    ringEvents (ts ++ [u]) = ringEvents ts ++ if u.output = .none then [] else [u.output] := by
  rw [ringEvents, List.map_append, List.filter_append, List.map_singleton, List.filter_singleton]
  cases u.output <;> rfl

theorem ringEvents_concat_none (ts : List RingTransition) {u : RingTransition}
    (h : u.output = .none) : ringEvents (ts ++ [u]) = ringEvents ts := by
  rw [ringEvents_concat, if_pos h, List.append_nil]

theorem ringEvents_concat_some (ts : List RingTransition) {u : RingTransition}
    (h : u.output ≠ .none) : ringEvents (ts ++ [u]) = ringEvents ts ++ [u.output] := by
  rw [ringEvents_concat, if_neg h]

theorem RingEventsAlternate.concat (h : RingEventsAlternate ts) (hevent : u.output ≠ .none)
    (hlast : ∀ e ∈ (ringEvents ts).getLast?, e ≠ u.output)
    (hfirst : ringEvents ts = [] → u.output = .asserted) : RingEventsAlternate (ts ++ [u]) := by
  rw [RingEventsAlternate, ringEvents_concat_some ts hevent]
  constructor
  · rw [List.isChain_append]
    refine ⟨h.1, List.isChain_singleton _, fun e he e' he' => ?_⟩
    cases he'
    exact hlast e he
  · cases hevents : ringEvents ts with
    | nil =>
      intro e he
      cases he
      exact hfirst hevents
    | cons e' es =>
      intro e he
      exact h.2 e (hevents ▸ he)

/-- In a run the ring is asserted exactly while the last event says so. -/
def RingEventsAgree (ts : List RingTransition) (c : RingDetector) : Prop :=
  RingEventsAlternate ts ∧
    (c.isRingAsserted = true ↔ (ringEvents ts).getLast? = some .asserted)

theorem RingEventsAgree.kept (h : RingEventsAgree ts c) (hevent : u.output = .none)
    (hlevel : c'.isRingAsserted = c.isRingAsserted) : RingEventsAgree (ts ++ [u]) c' := by
  rw [RingEventsAgree, RingEventsAlternate, ringEvents_concat_none ts hevent, hlevel]
  exact h

theorem ringEventsAgree_run (debounceMs : UInt32) (samples : List LevelSample) :
    RingEventsAgree (ringDetectorRun debounceMs samples)
      (finalState ringDetectorStep { debounceMs } samples) := by
  apply run_induction (motive := RingEventsAgree)
  · exact ⟨⟨List.isChain_nil, nofun⟩, nofun, nofun⟩
  · intro ts c sample h
    have hevent : (Transition.of ringDetectorStep c sample).output =
        RingDetector.eventOf c.isRingAsserted (ringDetectorStep c sample).1.isRingAsserted :=
      c.update_event sample.level (ms32 sample.atMs)
    have hlast := h.2
    cases hbefore : c.isRingAsserted with
    | false =>
      cases hafter : (ringDetectorStep c sample).1.isRingAsserted with
      | false =>
        rw [hbefore, hafter] at hevent
        exact h.kept hevent (hafter.trans hbefore.symm)
      | true =>
        rw [hbefore, hafter] at hevent
        rw [hbefore] at hlast
        have hsome : (Transition.of ringDetectorStep c sample).output ≠ .none := by
          rw [hevent]
          decide
        refine ⟨h.1.concat hsome (fun e he heq => ?_) (fun _ => hevent), ?_⟩
        · rw [heq, hevent] at he
          exact Bool.false_ne_true (hlast.mpr he)
        · rw [ringEvents_concat_some ts hsome, List.getLast?_concat, hevent]
          exact iff_of_true hafter rfl
    | true =>
      rw [hbefore, eq_self, true_iff] at hlast
      cases hafter : (ringDetectorStep c sample).1.isRingAsserted with
      | false =>
        rw [hbefore, hafter] at hevent
        have hsome : (Transition.of ringDetectorStep c sample).output ≠ .none := by
          rw [hevent]
          decide
        refine ⟨h.1.concat hsome (fun e he => ?_) (fun hnil => ?_), ?_⟩
        · rw [hlast] at he
          cases he
          rw [hevent]
          decide
        · rw [hnil] at hlast
          cases hlast
        · rw [ringEvents_concat_some ts hsome, List.getLast?_concat, hevent, hafter]
          decide
      | true =>
        rw [hbefore, hafter] at hevent
        exact h.kept hevent (hafter.trans hbefore.symm)

end InterBridge
