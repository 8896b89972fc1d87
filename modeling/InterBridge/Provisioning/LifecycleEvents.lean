import InterBridge.Provisioning.ManagerCalls

namespace InterBridge
open Foundations
set_option autoImplicit true
namespace ProvisioningManager

/-- What may come before the update in an iteration: the button, or in the first one the boot. -/
inductive Opening where
  | checkAtBoot (nowMs : UInt32) (answers : ProvisioningAnswers)
  | requestProvisioning (nowMs : UInt32) (answers : ProvisioningAnswers)

namespace Opening

def nowMs : Opening → UInt32
  | checkAtBoot nowMs _ => nowMs
  | requestProvisioning nowMs _ => nowMs

def call : Opening → ManagerCall
  | checkAtBoot nowMs answers => .checkAtBoot nowMs answers
  | requestProvisioning nowMs answers => .operate (.requestProvisioning nowMs answers)

end Opening

/-- One iteration of the main loop, in which less than the window elapses. -/
structure Iteration where
  opening : Option Opening
  updateMs : UInt32
  answers : ProvisioningAnswers
  connected : Bool
  soon : ∀ o ∈ opening, updateMs - o.nowMs < kProvisioningWindowMs

/-- The iteration enters provisioning. -/
def Iteration.Enters (m : ProvisioningManager) (it : Iteration) : Prop :=
  ∃ o ∈ it.opening, o.call.Enters m

def opened (m : ProvisioningManager) (it : Iteration) : ProvisioningManager :=
  match it.opening with
  | none => m
  | some o => (m.call o.call).1

def updated (m : ProvisioningManager) (it : Iteration) : ProvisioningManager :=
  (m.opened it).update it.updateMs it.answers

/-- The link is polled after the event. -/
def iterate (m : ProvisioningManager) (it : Iteration) :
    ProvisioningManager × Option ProvisioningEvent :=
  let (n, event) := (m.updated it).pollEvent
  ({ n with wifi := (n.wifi.update it.connected).1 }, event)

abbrev IterationTransition := Transition ProvisioningManager Iteration (Option ProvisioningEvent)

/-- What a call writes into an empty slot. -/
def slotWrite (m : ProvisioningManager) (c : ManagerCall) : Option ProvisioningEvent :=
  ({ m with pendingEvent := none }.call c).1.pendingEvent

/-- The call writes into a slot whose event was not polled. -/
def Overwrites (m : ProvisioningManager) (c : ManagerCall) : Prop :=
  m.pendingEvent.isSome = true ∧ (m.slotWrite c).isSome = true

namespace IterationTransition

def Enters (t : IterationTransition) : Prop := t.input.Enters t.before

/-- The polled event, with whether the window ran out in the update before. -/
def polled? (t : IterationTransition) : Option (ProvisioningEvent × Bool) :=
  t.output.map fun event =>
    (event, decide ((t.before.opened t.input).TimesOut t.input.updateMs))

/-- No write of this iteration meets an event that was not polled. -/
structure KeepsEvents (t : IterationTransition) : Prop where
  opening : ∀ o ∈ t.input.opening, ¬ t.before.Overwrites o.call
  update : ¬ (t.before.opened t.input).Overwrites
    (.operate (.update t.input.updateMs t.input.answers))
  emptied : t.after.pendingEvent = none

end IterationTransition

def polledEvents (ts : List IterationTransition) : List (ProvisioningEvent × Bool) :=
  ts.filterMap IterationTransition.polled?

/-- An attempt that was started and failed so often within the window. -/
def startedWord (failures : Nat) : List (ProvisioningEvent × Bool) :=
  (.provisioningStarted, false) :: List.replicate failures (.provisioningFailed, false)

/-- What was polled for an attempt, and the manager it left. -/
inductive AttemptWord (m : ProvisioningManager) : List (ProvisioningEvent × Bool) → Prop where
  | refused (state : m.state = .provisioningFailed) :
    AttemptWord m [(.provisioningFailed, false)]
  | active (active : m.isActivelyProvisioning = true) (failures : Nat) :
    AttemptWord m (startedWord failures)
  | completed (state : m.state = .provisioned) (failures : Nat) :
    AttemptWord m (startedWord failures ++ [(.provisioningCompleted, false)])
  | expired (state : m.state = .idle ∨ m.state = .notProvisioned) (failures : Nat) :
    AttemptWord m (startedWord failures ++ [(.provisioningFailed, true)])

/-- The lifecycle events are complete and unambiguous. -/
structure LifecycleComplete (ts : List IterationTransition) : Prop where
  kept : ∀ t ∈ ts, IterationTransition.KeepsEvents t
  words : ∀ before entry during after, ts = before ++ entry :: during ++ after →
    IterationTransition.Enters entry → (∀ u ∈ during, ¬ IterationTransition.Enters u) →
    ∀ last ∈ (entry :: during).getLast?, AttemptWord last.after (polledEvents (entry :: during))
  completed : ∀ t ∈ ts, t.output = some .provisioningCompleted ↔
    t.before.state ≠ .provisioned ∧ t.after.state = .provisioned
  outside : ∀ before after, ts = before ++ after →
    (∀ u ∈ before, ¬ IterationTransition.Enters u) → polledEvents before = []

theorem Opening.beginning (o : Opening) :
    ∃ answers, o.call.beginning? = some (o.nowMs, answers) := by
  cases o with
  | checkAtBoot nowMs answers => exact ⟨answers, rfl⟩
  | requestProvisioning nowMs answers => exact ⟨answers, rfl⟩

theorem opened_entered {m : ProvisioningManager} {it : Iteration} (h : it.Enters m) :
    ∃ nowMs started, Entered m (m.opened it) nowMs started ∧
      it.updateMs - nowMs < kProvisioningWindowMs := by
  obtain ⟨o, ho, henters⟩ := h
  obtain ⟨nowMs, answers, hbeginning, hentered⟩ := call_entered henters
  obtain ⟨answers', hnow⟩ := o.beginning
  rw [hbeginning, Option.some.injEq, Prod.mk.injEq] at hnow
  have hopened : m.opened it = (m.call o.call).1 := by rw [opened, Option.mem_def.mp ho]
  have hsoon : it.updateMs - nowMs < kProvisioningWindowMs := by
    rw [hnow.1]
    exact it.soon o ho
  exact ⟨nowMs, _, hopened ▸ hentered, hsoon⟩

theorem opened_stays {m : ProvisioningManager} {it : Iteration} (h : ¬ it.Enters m) :
    m.opened it = m := by
  rw [opened]
  cases ho : it.opening with
  | none => rfl
  | some o =>
    obtain ⟨answers, hbeginning⟩ := o.beginning
    exact call_ignored (fun henters => h ⟨o, ho, henters⟩) (hbeginning ▸ rfl)

theorem update_available {m : ProvisioningManager} (hs : m.state = .provisioningAvailable)
    (hwithin : nowMs - m.provisioningStartedAtMs < kProvisioningWindowMs)
    (answers : ProvisioningAnswers) :
    (m.update nowMs answers).pendingEvent = m.pendingEvent ∧
      (m.update nowMs answers).isActivelyProvisioning = true := by
  have hactive : m.isActivelyProvisioning = true := active_of_state (.inl hs)
  have hcases := update_cases m nowMs answers
  generalize m.update nowMs answers = n at hcases
  cases hcases with
  | inactive hinactive _ => exact absurd (hinactive.symm.trans hactive) Bool.noConfusion
  | timedOut hout _ _ => exact absurd hout.2 (UInt32.not_le.mpr hwithin)
  | sessionOpened _ _ _ hmoves _ =>
    exact ⟨hmoves.pendingEvent, active_of_state (.inr (.inl hmoves.state))⟩
  | received _ _ _ hmoves _ =>
    exact ⟨hmoves.pendingEvent, active_of_state (.inr (.inr hmoves.state))⟩
  | waiting _ _ _ _ _ hsame => exact ⟨hsame ▸ rfl, hsame ▸ hactive⟩
  | dropped _ hsession => cases hs.symm.trans hsession
  | linkDown _ hconnecting => cases hs.symm.trans hconnecting
  | completed hadvances => cases hs.symm.trans hadvances.2.1
  | failed hadvances => cases hs.symm.trans hadvances.2.1

theorem slotWrite_update {m : ProvisioningManager} (hout : ¬ m.TimesOut nowMs)
    (hadvances : ¬ m.AdvancesAfterWifi nowMs answers) :
    m.slotWrite (.operate (.update nowMs answers)) = none := by
  have hcases := update_cases { m with pendingEvent := none } nowMs answers
  rw [slotWrite, call, operate]
  generalize ({ m with pendingEvent := none } : ProvisioningManager).update nowMs answers = n
    at hcases
  cases hcases with
  | inactive _ hsame => rw [hsame]
  | timedOut hexpired => exact absurd hexpired hout
  | sessionOpened _ _ _ hmoves => exact hmoves.pendingEvent
  | received _ _ _ hmoves => exact hmoves.pendingEvent
  | waiting _ _ _ _ _ hsame => rw [hsame]
  | dropped _ _ _ _ hmoves => exact hmoves.pendingEvent
  | linkDown _ _ _ hmoves => exact hmoves.pendingEvent
  | completed hconnected => exact absurd hconnected hadvances
  | failed hconnected => exact absurd hconnected hadvances

theorem Entered.slotWrite {m n : ProvisioningManager} (h : Entered m n nowMs started)
    (hsoon : updateMs - nowMs < kProvisioningWindowMs) (answers : ProvisioningAnswers) :
    n.slotWrite (.operate (.update updateMs answers)) = none := by
  have hstate : n.state ≠ .connectingWifi := by
    intro hs
    rcases h.settled with hsettled | hsettled
    · cases hsettled.symm.trans hs
    · cases hsettled.symm.trans hs
  refine slotWrite_update (fun hout => ?_) fun hadvances => hstate hadvances.2.1
  have hwindow := hout.2
  rw [h.startedAt] at hwindow
  exact absurd hwindow (UInt32.not_le.mpr hsoon)

theorem keepsEvents {m : ProvisioningManager} (hempty : m.pendingEvent = none) (it : Iteration) :
    IterationTransition.KeepsEvents (.of iterate m it) where
  opening o _ hoverwrites := by
    have hsome := hoverwrites.1
    rw [Transition.of, hempty] at hsome
    cases hsome
  update hoverwrites := by
    by_cases henters : it.Enters m
    · obtain ⟨nowMs, started, hentered, hsoon⟩ := opened_entered henters
      have hwrites := hoverwrites.2
      rw [Transition.of, hentered.slotWrite hsoon] at hwrites
      cases hwrites
    · have hsome := hoverwrites.1
      rw [Transition.of, opened_stays henters, hempty] at hsome
      cases hsome
  emptied := rfl

/-- What an iteration adds to the events of its attempt. -/
def polledNow (m : ProvisioningManager) (it : Iteration) : List (ProvisioningEvent × Bool) :=
  (IterationTransition.polled? (.of iterate m it)).toList

theorem polledNow_eq {m : ProvisioningManager} {it : Iteration}
    (h : (m.updated it).pendingEvent = some event)
    (hout : decide ((m.opened it).TimesOut it.updateMs) = expired) :
    m.polledNow it = [(event, expired)] := by
  rw [polledNow, IterationTransition.polled?, Transition.of]
  change (Option.map _ (m.updated it).pendingEvent).toList = _
  rw [h, ← hout]
  rfl

theorem polledNow_none {m : ProvisioningManager} {it : Iteration}
    (h : (m.updated it).pendingEvent = none) : m.polledNow it = [] := by
  rw [polledNow, IterationTransition.polled?, Transition.of]
  change (Option.map _ (m.updated it).pendingEvent).toList = _
  rw [h]
  rfl

theorem updated_entered {m : ProvisioningManager} {it : Iteration} (h : it.Enters m) :
    ((m.updated it).pendingEvent = some .provisioningStarted ∧
        (m.updated it).isActivelyProvisioning = true ∨
      (m.updated it).pendingEvent = some .provisioningFailed ∧
        (m.updated it).state = .provisioningFailed) ∧
      ¬ (m.opened it).TimesOut it.updateMs := by
  obtain ⟨nowMs, started, hentered, hsoon⟩ := opened_entered h
  have hwithin : it.updateMs - (m.opened it).provisioningStartedAtMs < kProvisioningWindowMs :=
    hentered.startedAt ▸ hsoon
  refine ⟨?_, fun hout => absurd hout.2 (UInt32.not_le.mpr hwithin)⟩
  cases started with
  | true =>
    obtain ⟨hpending, hactive⟩ := update_available hentered.state hwithin it.answers
    exact .inl ⟨hpending.trans hentered.pendingEvent, hactive⟩
  | false =>
    have hinactive : (m.opened it).isActivelyProvisioning = false :=
      inactive_of_state (.inl hentered.state)
    have hupdated : m.updated it = m.opened it := by
      rw [updated, update, hinactive, Bool.not_false, if_pos rfl]
    rw [hupdated]
    exact .inr ⟨hentered.pendingEvent, hentered.state⟩

theorem AttemptWord.enter {m : ProvisioningManager} {it : Iteration} (h : it.Enters m) :
    AttemptWord (m.iterate it).1 (m.polledNow it) := by
  obtain ⟨hreported, hout⟩ := updated_entered h
  rcases hreported with ⟨hpending, hactive⟩ | ⟨hpending, hstate⟩
  · have hleft : (m.iterate it).1.isActivelyProvisioning = true := hactive
    have hpolled : m.polledNow it = startedWord 0 := polledNow_eq hpending (decide_eq_false hout)
    rw [hpolled]
    exact .active hleft 0
  · have hleft : (m.iterate it).1.state = .provisioningFailed := hstate
    rw [polledNow_eq hpending (decide_eq_false hout)]
    exact .refused hleft

theorem iterate_inactive {m : ProvisioningManager} {it : Iteration} (hempty : m.pendingEvent = none)
    (hstays : ¬ it.Enters m) (hinactive : m.isActivelyProvisioning = false) :
    m.polledNow it = [] ∧ (m.iterate it).1.state = m.state := by
  have hupdated : m.updated it = m := by
    rw [updated, opened_stays hstays, update, hinactive, Bool.not_false, if_pos rfl]
  refine ⟨polledNow_none (by rw [hupdated, hempty]), ?_⟩
  change (m.updated it).state = m.state
  rw [hupdated]

theorem startedWord_succ (failures : Nat) :
    startedWord failures ++ [(.provisioningFailed, false)] = startedWord (failures + 1) := by
  rw [startedWord, startedWord, List.replicate_succ', List.cons_append]

theorem AttemptWord.active_next {m : ProvisioningManager} {it : Iteration}
    (hempty : m.pendingEvent = none) (hstays : ¬ it.Enters m)
    (hactive : m.isActivelyProvisioning = true) (failures : Nat) :
    AttemptWord (m.iterate it).1 (startedWord failures ++ m.polledNow it) := by
  have hopened := opened_stays hstays
  have hcases := update_cases m it.updateMs it.answers
  have hupdated : m.updated it = m.update it.updateMs it.answers := by rw [updated, hopened]
  rw [← hupdated] at hcases
  have hwithin (h : it.updateMs - m.provisioningStartedAtMs < kProvisioningWindowMs) :
      decide ((m.opened it).TimesOut it.updateMs) = false := by
    rw [hopened]
    exact decide_eq_false fun hout => absurd hout.2 (UInt32.not_le.mpr h)
  have hquiet (hpending : (m.updated it).pendingEvent = none)
      (hleft : (m.updated it).isActivelyProvisioning = true) :
      AttemptWord (m.iterate it).1 (startedWord failures ++ m.polledNow it) := by
    have hleft : (m.iterate it).1.isActivelyProvisioning = true := hleft
    rw [polledNow_none hpending, List.append_nil]
    exact .active hleft failures
  cases hcases with
  | inactive hinactive _ => exact absurd (hinactive.symm.trans hactive) Bool.noConfusion
  | timedOut hout hmoves _ =>
    have hpolled : m.polledNow it = [(.provisioningFailed, true)] := by
      refine polledNow_eq hmoves.pendingEvent (decide_eq_true ?_)
      rw [hopened]
      exact hout
    rw [hpolled]
    have hended : (m.iterate it).1.state = .idle ∨ (m.iterate it).1.state = .notProvisioned :=
      hmoves.ended
    exact .expired hended failures
  | sessionOpened _ _ _ hmoves _ =>
    exact hquiet (hmoves.pendingEvent.trans hempty) (active_of_state (.inr (.inl hmoves.state)))
  | received _ _ _ hmoves _ =>
    exact hquiet (hmoves.pendingEvent.trans hempty) (active_of_state (.inr (.inr hmoves.state)))
  | waiting _ _ _ _ _ hsame =>
    rw [hsame] at hquiet
    exact hquiet hempty hactive
  | dropped _ _ _ _ hmoves _ =>
    exact hquiet (hmoves.pendingEvent.trans hempty) (active_of_state (.inl hmoves.state))
  | linkDown _ _ _ hmoves _ =>
    exact hquiet (hmoves.pendingEvent.trans hempty) (active_of_state (.inr (.inr hmoves.state)))
  | completed hadvances _ hmoves _ =>
    have hstate : (m.iterate it).1.state = .provisioned := hmoves.state
    rw [polledNow_eq hmoves.pendingEvent (hwithin hadvances.1)]
    exact .completed hstate failures
  | failed hadvances _ _ hmoves _ =>
    have hleft : (m.iterate it).1.isActivelyProvisioning = true :=
      active_of_state (.inl hmoves.state)
    rw [polledNow_eq hmoves.pendingEvent (hwithin hadvances.1), startedWord_succ]
    exact .active hleft (failures + 1)

/-- What an iteration adds to the events of an attempt. -/
theorem AttemptWord.next {m : ProvisioningManager} {it : Iteration} (h : AttemptWord m word)
    (hempty : m.pendingEvent = none) (hstays : ¬ it.Enters m) :
    AttemptWord (m.iterate it).1 (word ++ m.polledNow it) := by
  cases h with
  | active hactive failures => exact .active_next hempty hstays hactive failures
  | refused hs =>
    obtain ⟨hpolled, hstate⟩ := iterate_inactive hempty hstays (inactive_of_state (.inl hs))
    rw [hpolled, List.append_nil]
    exact .refused (hstate.trans hs)
  | completed hs failures =>
    obtain ⟨hpolled, hstate⟩ := iterate_inactive hempty hstays (inactive_of_state (.inr (.inl hs)))
    rw [hpolled, List.append_nil]
    exact .completed (hstate.trans hs) failures
  | expired hs failures =>
    obtain ⟨hpolled, hstate⟩ := iterate_inactive hempty hstays (inactive_of_state (.inr (.inr hs)))
    rw [hpolled, List.append_nil]
    refine .expired ?_ failures
    rw [hstate]
    exact hs

theorem polledEvents_cons (m : ProvisioningManager) (it : Iteration)
    (ts : List IterationTransition) :
    polledEvents (.of iterate m it :: ts) = m.polledNow it ++ polledEvents ts := by
  rw [polledEvents, List.filterMap_cons, polledNow]
  cases IterationTransition.polled? (.of iterate m it) <;> rfl

theorem finalState_empty {m : ProvisioningManager} (hempty : m.pendingEvent = none)
    (iterations : List Iteration) : (finalState iterate m iterations).pendingEvent = none := by
  induction iterations generalizing m with
  | nil => exact hempty
  | cons it iterations ih => exact ih rfl

theorem AttemptWord.run {m : ProvisioningManager} {iterations : List Iteration}
    (h : AttemptWord m word) (hempty : m.pendingEvent = none)
    (hstays : ∀ u ∈ transitions iterate m iterations, ¬ IterationTransition.Enters u) :
    AttemptWord (finalState iterate m iterations)
      (word ++ polledEvents (transitions iterate m iterations)) := by
  induction iterations generalizing m word with
  | nil =>
    rw [transitions, polledEvents, List.filterMap_nil, List.append_nil]
    exact h
  | cons it iterations ih =>
    rw [transitions, List.forall_mem_cons] at hstays
    rw [transitions, polledEvents_cons, ← List.append_assoc]
    exact ih (h.next hempty hstays.1) rfl hstays.2

theorem polledEvents_outside {m : ProvisioningManager} {iterations : List Iteration}
    (hidle : m.state = .idle) (hempty : m.pendingEvent = none)
    (hstays : ∀ u ∈ transitions iterate m iterations, ¬ IterationTransition.Enters u) :
    polledEvents (transitions iterate m iterations) = [] := by
  induction iterations generalizing m with
  | nil => rfl
  | cons it iterations ih =>
    rw [transitions, List.forall_mem_cons] at hstays
    have hstays' : ¬ it.Enters m := hstays.1
    obtain ⟨hpolled, hstate⟩ :=
      iterate_inactive hempty hstays' (inactive_of_state (.inr (.inr (.inl hidle))))
    rw [transitions, polledEvents_cons, hpolled, List.nil_append]
    exact ih (hstate.trans hidle) rfl hstays.2

theorem completed_iff {m : ProvisioningManager} (hempty : m.pendingEvent = none) (it : Iteration) :
    (m.updated it).pendingEvent = some .provisioningCompleted ↔
      m.state ≠ .provisioned ∧ (m.updated it).state = .provisioned := by
  by_cases henters : it.Enters m
  · rcases (updated_entered henters).1 with ⟨hpending, hactive⟩ | ⟨hpending, hstate⟩
    · rw [hpending]
      refine iff_of_false nofun fun hprovisioned => ?_
      cases (inactive_of_state (.inr (.inl hprovisioned.2))).symm.trans hactive
    · rw [hpending, hstate]
      exact iff_of_false nofun nofun
  have hcases := update_cases m it.updateMs it.answers
  rw [updated, opened_stays henters]
  generalize m.update it.updateMs it.answers = n at hcases
  cases hcases with
  | inactive _ hsame =>
    rw [hsame, hempty]
    exact iff_of_false nofun fun h => h.1 h.2
  | timedOut _ hmoves _ =>
    rw [hmoves.pendingEvent]
    refine iff_of_false nofun fun h => ?_
    rcases hmoves.ended with hs | hs
    · cases hs.symm.trans h.2
    · cases hs.symm.trans h.2
  | sessionOpened _ _ _ hmoves _ =>
    rw [hmoves.pendingEvent, hmoves.state, hempty]
    exact iff_of_false nofun nofun
  | received _ _ _ hmoves _ =>
    rw [hmoves.pendingEvent, hmoves.state, hempty]
    exact iff_of_false nofun nofun
  | waiting hactive _ _ _ _ hsame =>
    rw [hsame, hempty]
    exact iff_of_false nofun fun h => h.1 h.2
  | dropped _ _ _ _ hmoves _ =>
    rw [hmoves.pendingEvent, hmoves.state, hempty]
    exact iff_of_false nofun nofun
  | linkDown _ _ _ hmoves _ =>
    rw [hmoves.pendingEvent, hmoves.state, hempty]
    exact iff_of_false nofun nofun
  | completed hadvances _ hmoves _ =>
    rw [hmoves.pendingEvent, hmoves.state]
    refine iff_of_true rfl ⟨?_, rfl⟩
    rw [hadvances.2.1]
    exact ProvisioningState.noConfusion
  | failed _ _ _ hmoves _ =>
    rw [hmoves.pendingEvent, hmoves.state]
    exact iff_of_false nofun nofun

end ProvisioningManager

open ProvisioningManager

/-- Over every run of the main loop the lifecycle events are complete and unambiguous. -/
theorem lifecycleEvents_complete (store : PersistentStore) (wifi : WifiManager)
    (templateName deviceId proofOfPossession : Bytes) (info : BleAdvertisementInfo)
    (iterations : List Iteration) :
    LifecycleComplete (transitions iterate
      (constructed store wifi templateName deviceId proofOfPossession info) iterations) where
  kept t ht := by
    obtain ⟨is, it, _, _, rfl⟩ := exists_of_mem_transitions ht
    exact keepsEvents (finalState_empty rfl is) it
  words before entry during after hts henters hstays last hlast := by
    rw [List.append_assoc] at hts
    obtain ⟨is, it, later, _, _, rfl, hpost⟩ := transitions_split hts
    obtain ⟨js, _, _, rfl, _⟩ := transitions_cut hpost.symm
    rw [getLast?_transitions hlast, polledEvents_cons]
    exact (AttemptWord.enter henters).run rfl hstays
  completed t ht := by
    obtain ⟨is, it, _, _, rfl⟩ := exists_of_mem_transitions ht
    exact completed_iff (finalState_empty rfl is) it
  outside before after hts hstays := by
    obtain ⟨is, _, _, rfl, _⟩ := transitions_cut hts
    exact polledEvents_outside rfl rfl hstays

end InterBridge
