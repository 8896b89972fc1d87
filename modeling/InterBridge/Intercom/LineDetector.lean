import InterBridge.Core.StateMachine
import InterBridge.Foundations.Transitions
import Mathlib.Data.List.Destutter

namespace InterBridge
open Foundations
set_option autoImplicit true

structure LineDetector where
  lastLineState : Bool := false
  initialized : Bool := false
  deriving DecidableEq

namespace LineDetector

def update (d : LineDetector) (current : Bool) : LineDetector × Option EventType :=
  if !d.initialized then ({ lastLineState := current, initialized := true }, none)
  else if current = d.lastLineState then (d, none)
  else ({ d with lastLineState := current }, some (if current then .offHook else .onHook))

/-- The event of a line that has come to this level. -/
def hookEvent (level : Bool) : EventType := if level then .offHook else .onHook

/-- The events of a line that is at a level and then at these. -/
def eventsFrom (level : Bool) : List Bool → List EventType
  | [] => []
  | next :: levels =>
    if next = level then eventsFrom level levels else hookEvent next :: eventsFrom next levels

/-- The events of a line whose levels are read one after the other: every change, but for the first
level. -/
def lineEvents (levels : List Bool) : List EventType :=
  ((levels.destutter (· ≠ ·)).map hookEvent).tail

theorem hookEvent_cons_eventsFrom (level : Bool) (levels : List Bool) :
    hookEvent level :: eventsFrom level levels =
      ((level :: levels).destutter (· ≠ ·)).map hookEvent := by
  induction levels generalizing level with
  | nil => rfl
  | cons next levels ih =>
    rw [eventsFrom, List.destutter_cons', List.destutter'_cons]
    split
    next hsame =>
      rw [if_neg (not_not.mpr hsame.symm), ih, List.destutter_cons']
    next hchanged =>
      rw [if_pos (Ne.symm hchanged), List.map_cons, ih, List.destutter_cons']

theorem transitions_output {d : LineDetector} (h : d.initialized = true) (levels : List Bool) :
    (transitions update d levels).filterMap Transition.output =
      eventsFrom d.lastLineState levels := by
  induction levels generalizing d with
  | nil => rfl
  | cons level levels ih =>
    have hstep : d.update level = if level = d.lastLineState then (d, none)
        else ({ d with lastLineState := level }, some (hookEvent level)) := by
      rw [update, h, Bool.not_true, if_neg Bool.false_ne_true]
      rfl
    rw [transitions, List.filterMap_cons, eventsFrom, Transition.of]
    by_cases hsame : level = d.lastLineState
    · rw [if_pos hsame] at hstep
      rw [hstep, if_pos hsame]
      exact ih h
    · rw [if_neg hsame] at hstep
      rw [hstep, if_neg hsame]
      exact congrArg (hookEvent level :: ·) (ih (d := { d with lastLineState := level }) h)

theorem update_lineEvents (levels : List Bool) :
    (transitions update {} levels).filterMap Transition.output = lineEvents levels := by
  cases levels with
  | nil => rfl
  | cons level levels =>
    rw [lineEvents, ← hookEvent_cons_eventsFrom]
    exact transitions_output (d := ⟨level, true⟩) rfl levels

end LineDetector
end InterBridge
