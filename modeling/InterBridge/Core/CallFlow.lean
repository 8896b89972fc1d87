import InterBridge.Core.StateMachine
import InterBridge.Foundations.Transitions
import Mathlib.Data.List.TakeWhile

namespace InterBridge
open Foundations
set_option autoImplicit true

/-- The calls of the state machine. -/
inductive MachineCall where
  | finishBoot
  | reportFault
  | handleEvent (event : EventType)
  deriving DecidableEq

def MachineCall.event? : MachineCall → Option EventType
  | .handleEvent event => some event
  | _ => none

/-- A ring was detected, and nobody has hung up since. -/
def Rings (events : List EventType) : Prop :=
  ∃ before since, events = before ++ .ringDetected :: since ∧ .onHook ∉ since

/-- A ring was detected and answered, and nobody has hung up since. -/
def RingAnswered (events : List EventType) : Prop :=
  ∃ before since, events = before ++ .ringDetected :: since ∧ .onHook ∉ since ∧ .offHook ∈ since

theorem RingAnswered.rings (h : RingAnswered events) : Rings events := by
  obtain ⟨before, since, hevents, hheld, _⟩ := h
  exact ⟨before, since, hevents, hheld⟩

theorem not_rings_nil : ¬ Rings [] := by
  rintro ⟨before, since, hevents, _⟩
  exact List.append_ne_nil_of_right_ne_nil before (List.cons_ne_nil _ since) hevents.symm

theorem rings_concat (events : List EventType) (event : EventType) :
    Rings (events ++ [event]) ↔ event = .ringDetected ∨ (Rings events ∧ event ≠ .onHook) := by
  constructor
  · rintro ⟨before, since, hevents, hheld⟩
    rcases concat_eq_append_cons hevents with ⟨_, hring, _⟩ | ⟨since', rfl, rfl⟩
    · exact .inl hring.symm
    · rw [List.mem_append, not_or, List.mem_singleton] at hheld
      exact .inr ⟨⟨before, since', rfl, hheld.1⟩, Ne.symm hheld.2⟩
  · rintro (rfl | ⟨⟨before, since, rfl, hheld⟩, hevent⟩)
    · exact ⟨events, [], rfl, List.not_mem_nil⟩
    · refine ⟨before, since ++ [event], ?_, ?_⟩
      · rw [List.append_assoc, List.cons_append]
      · rw [List.mem_append, not_or, List.mem_singleton]
        exact ⟨hheld, Ne.symm hevent⟩

theorem ringAnswered_concat (events : List EventType) (event : EventType) :
    RingAnswered (events ++ [event]) ↔
      (RingAnswered events ∧ event ≠ .onHook) ∨ (Rings events ∧ event = .offHook) := by
  constructor
  · rintro ⟨before, since, hevents, hheld, hanswered⟩
    rcases concat_eq_append_cons hevents with ⟨_, _, rfl⟩ | ⟨since', rfl, rfl⟩
    · exact absurd hanswered List.not_mem_nil
    · rw [List.mem_append, not_or, List.mem_singleton] at hheld
      rw [List.mem_append, List.mem_singleton] at hanswered
      rcases hanswered with hanswered | hevent
      · exact .inl ⟨⟨before, since', rfl, hheld.1, hanswered⟩, Ne.symm hheld.2⟩
      · exact .inr ⟨⟨before, since', rfl, hheld.1⟩, hevent.symm⟩
  · rintro (⟨⟨before, since, rfl, hheld, hanswered⟩, hevent⟩ | ⟨⟨before, since, rfl, hheld⟩, rfl⟩)
    · refine ⟨before, since ++ [event], ?_, ?_, List.mem_append_left _ hanswered⟩
      · rw [List.append_assoc, List.cons_append]
      · rw [List.mem_append, not_or, List.mem_singleton]
        exact ⟨hheld, Ne.symm hevent⟩
    · refine ⟨before, since ++ [.offHook], ?_, ?_, ?_⟩
      · rw [List.append_assoc, List.cons_append]
      · rw [List.mem_append, not_or, List.mem_singleton]
        exact ⟨hheld, EventType.noConfusion⟩
      · exact List.mem_append_right _ (List.mem_singleton_self _)

/-- The events delivered after the boot was finished. -/
def bootedEvents (calls : List MachineCall) : List EventType :=
  (calls.dropWhile (· ≠ .finishBoot)).filterMap MachineCall.event?

theorem dropWhile_of_booting {calls : List MachineCall} (h : .finishBoot ∉ calls) :
    calls.dropWhile (· ≠ .finishBoot) = [] := by
  rw [List.dropWhile_eq_nil_iff]
  intro call hcall
  exact decide_eq_true fun heq => h (heq ▸ hcall)

theorem bootedEvents_finished (h : .finishBoot ∉ calls) :
    bootedEvents (calls ++ [.finishBoot]) = [] := by
  rw [bootedEvents, List.dropWhile_append, dropWhile_of_booting h]
  rfl

theorem bootedEvents_concat (h : .finishBoot ∈ calls) (call : MachineCall) :
    bootedEvents (calls ++ [call]) = bootedEvents calls ++ call.event?.toList := by
  have hdropped : (calls.dropWhile (· ≠ .finishBoot)).isEmpty = false := by
    rw [List.isEmpty_eq_false_iff, ne_eq, List.dropWhile_eq_nil_iff]
    intro hall
    exact absurd rfl (of_decide_eq_true (hall _ h))
  rw [bootedEvents, List.dropWhile_append, hdropped, if_neg Bool.false_ne_true,
    List.filterMap_append]
  cases call with
  | _ => rfl

/-- The state of the call flow after these events. -/
inductive FlowState (events : List EventType) : State → Prop where
  | idle (silent : ¬ Rings events) : FlowState events .idle
  | ringing (rings : Rings events) (unanswered : ¬ RingAnswered events) : FlowState events .ringing
  | inCall (answered : RingAnswered events) : FlowState events .inCall

/-- The state of the machine after these calls: a fault is for good, and until the boot is finished
nothing counts. -/
inductive MachineState (calls : List MachineCall) : State → Prop where
  | error (fault : .reportFault ∈ calls) : MachineState calls .error
  | boot (faultless : .reportFault ∉ calls) (booting : .finishBoot ∉ calls) :
    MachineState calls .boot
  | booted (faultless : .reportFault ∉ calls) (booted : .finishBoot ∈ calls)
      (flow : FlowState (bootedEvents calls) state) : MachineState calls state

/-- The transitions there are. -/
inductive MachineEdge : State → State → Prop where
  | booted : MachineEdge .boot .idle
  | rang : MachineEdge .idle .ringing
  | answered : MachineEdge .ringing .inCall
  | givenUp : MachineEdge .ringing .idle
  | ended : MachineEdge .inCall .idle
  | failed (state : State) : MachineEdge state .error

/-- The callback was told one transition after the other. -/
inductive Told : List (State × State) → State → Prop where
  | start : Told [] .boot
  | next (told : Told log state) (edge : MachineEdge state newState) :
    Told (log ++ [(state, newState)]) newState

namespace StateMachine

def call (m : StateMachine) : MachineCall → StateMachine × Option (State × State)
  | .finishBoot => m.finishBoot
  | .reportFault => m.reportFault
  | .handleEvent event => m.deliver event

theorem flowState_next {m : StateMachine} (h : FlowState events m.state) (event : EventType) :
    FlowState (events ++ [event]) (m.handleEvent event).1.state := by
  obtain ⟨state⟩ := m
  cases h with
  | idle silent =>
    have hunanswered : ¬ RingAnswered events := fun h => silent h.rings
    cases event with
    | ringDetected =>
      refine .ringing ((rings_concat _ _).mpr (.inl rfl)) ?_
      rw [ringAnswered_concat]
      rintro (⟨hanswered, _⟩ | ⟨hrings, _⟩)
      · exact hunanswered hanswered
      · exact silent hrings
    | _ =>
      refine .idle ?_
      rw [rings_concat]
      rintro (hring | ⟨hrings, _⟩)
      · exact EventType.noConfusion hring
      · exact silent hrings
  | ringing rings unanswered =>
    cases event with
    | offHook => exact .inCall ((ringAnswered_concat _ _).mpr (.inr ⟨rings, rfl⟩))
    | onHook =>
      refine .idle ?_
      rw [rings_concat]
      rintro (hring | ⟨_, hheld⟩)
      · exact EventType.noConfusion hring
      · exact hheld rfl
    | _ =>
      refine .ringing ((rings_concat _ _).mpr (.inr ⟨rings, EventType.noConfusion⟩)) ?_
      rw [ringAnswered_concat]
      rintro (⟨hanswered, _⟩ | ⟨_, hanswers⟩)
      · exact unanswered hanswered
      · exact EventType.noConfusion hanswers
  | inCall answered =>
    cases event with
    | onHook =>
      refine .idle ?_
      rw [rings_concat]
      rintro (hring | ⟨_, hheld⟩)
      · exact EventType.noConfusion hring
      · exact hheld rfl
    | _ => exact .inCall ((ringAnswered_concat _ _).mpr (.inl ⟨answered, EventType.noConfusion⟩))

/-- A call leaves the state alone and tells nothing, or tells the transition it makes. -/
inductive CallCase (m : StateMachine) : StateMachine × Option (State × State) → Prop where
  | quiet : CallCase m (m, none)
  | told (edge : MachineEdge m.state newState) :
    CallCase m (⟨newState⟩, some (m.state, newState))

theorem call_case (m : StateMachine) (c : MachineCall) : CallCase m (m.call c) := by
  obtain ⟨state⟩ := m
  cases c with
  | finishBoot =>
    cases state with
    | boot => exact .told .booted
    | _ => exact .quiet
  | reportFault => exact .told (.failed state)
  | handleEvent event =>
    cases state with
    | idle =>
      cases event with
      | ringDetected => exact .told .rang
      | _ => exact .quiet
    | ringing =>
      cases event with
      | offHook => exact .told .answered
      | onHook => exact .told .givenUp
      | _ => exact .quiet
    | inCall =>
      cases event with
      | onHook => exact .told .ended
      | _ => exact .quiet
    | _ => exact .quiet

theorem machineState_next {m : StateMachine} (h : MachineState calls m.state) (c : MachineCall) :
    MachineState (calls ++ [c]) (m.call c).1.state := by
  obtain ⟨state⟩ := m
  have hfaultless {call : MachineCall} (hcalls : .reportFault ∉ calls)
      (hcall : call ≠ .reportFault) : .reportFault ∉ calls ++ [call] := by
    rw [List.mem_append, not_or, List.mem_singleton]
    exact ⟨hcalls, hcall.symm⟩
  cases h with
  | error fault =>
    cases c with
    | _ => exact .error (List.mem_append_left _ fault)
  | boot faultless booting =>
    cases c with
    | finishBoot =>
      refine .booted (hfaultless faultless MachineCall.noConfusion)
        (List.mem_append_right _ (List.mem_singleton_self _)) ?_
      rw [bootedEvents_finished booting]
      exact .idle not_rings_nil
    | reportFault => exact .error (List.mem_append_right _ (List.mem_singleton_self _))
    | handleEvent event =>
      refine .boot (hfaultless faultless MachineCall.noConfusion) ?_
      rw [List.mem_append, not_or, List.mem_singleton]
      exact ⟨booting, MachineCall.noConfusion⟩
  | booted faultless booted flow =>
    cases c with
    | finishBoot =>
      have hsame : ((⟨state⟩ : StateMachine).call .finishBoot).1.state = state := by
        cases flow with
        | _ => rfl
      rw [hsame]
      refine .booted (hfaultless faultless MachineCall.noConfusion)
        (List.mem_append_left _ booted) ?_
      rw [bootedEvents_concat booted]
      exact (List.append_nil (bootedEvents calls)).symm ▸ flow
    | reportFault => exact .error (List.mem_append_right _ (List.mem_singleton_self _))
    | handleEvent event =>
      refine .booted (hfaultless faultless MachineCall.noConfusion)
        (List.mem_append_left _ booted) ?_
      rw [bootedEvents_concat booted]
      exact flowState_next (m := ⟨state⟩) flow event

/-- The state after these calls, and what the callback was told of them. -/
structure CallFlow (calls : List MachineCall) (ts : List (Transition StateMachine MachineCall
    (Option (State × State)))) (m : StateMachine) : Prop where
  state : MachineState calls m.state
  told : Told (ts.filterMap Transition.output) m.state

/-- Over every sequence of calls from the start: the state is what the calls say, in a call exactly
where a ring was answered and nobody has hung up since; and the callback is told an unbroken path
of transitions from the start to this state. -/
theorem callFlow_run (calls : List MachineCall) :
    CallFlow calls (transitions call {} calls) (finalState call {} calls) := by
  have hrun : MachineState ((transitions call {} calls).map Transition.input)
        (finalState call {} calls).state ∧
      Told ((transitions call {} calls).filterMap Transition.output)
        (finalState call {} calls).state := by
    apply run_induction (motive := fun ts (m : StateMachine) =>
      MachineState (ts.map Transition.input) m.state ∧ Told (ts.filterMap Transition.output) m.state)
    · exact ⟨.boot List.not_mem_nil List.not_mem_nil, .start⟩
    · rintro ts m c ⟨hstate, htold⟩
      rw [List.map_append, List.filterMap_append]
      refine ⟨machineState_next hstate c, ?_⟩
      have hcase := m.call_case c
      rw [Transition.of]
      generalize m.call c = result at hcase
      cases hcase with
      | quiet => exact (List.append_nil _).symm ▸ htold
      | told edge => exact htold.next edge
  rw [transitions_input] at hrun
  exact ⟨hrun.1, hrun.2⟩

end StateMachine
end InterBridge
