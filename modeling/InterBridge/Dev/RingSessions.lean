import InterBridge.Dev.SessionOrder
import InterBridge.Foundations.History
import Mathlib.Data.List.Nodup

namespace InterBridge
open Foundations
set_option autoImplicit true

/-- A random source with a record of what was drawn from it. -/
structure DrawLog (ρ : Type) where
  random : ρ
  drawn : List Bytes := []

instance [IRandomSource ρ] : IRandomSource (DrawLog ρ) where
  fill log length :=
    let (random, bytes) := IRandomSource.fill log.random length
    (⟨random, log.drawn ++ [bytes.toList]⟩, bytes)

/-- An outbox with a record of what was enqueued. -/
structure EnqueueLog (ω : Type) where
  outbox : ω
  enqueued : List (Bytes × Bytes) := []

instance [IEventOutbox ω] : IEventOutbox (EnqueueLog ω) where
  enqueue log eventId eventJson :=
    ⟨IEventOutbox.enqueue log.outbox eventId eventJson, log.enqueued ++ [(eventId, eventJson)]⟩
  pending log := IEventOutbox.pending log.outbox
  dequeue log eventId := ⟨IEventOutbox.dequeue log.outbox eventId, log.enqueued⟩

/-- The identifier that `generateHexId` makes of the bytes it draws. -/
def hexId (idPrefix bytes : Bytes) : Bytes := idPrefix ++ ascii "-" ++ bytes.flatMap hexByte

theorem hexId_injective (idPrefix : Bytes) : Function.Injective (hexId idPrefix) := by
  intro as bs h
  exact hexBytes_injective (List.append_cancel_left h)

def DeviceEvent.outboxEntry [ArduinoJson] (event : DeviceEvent) : Bytes × Bytes :=
  (event.eventId, event.toJson)

/-- RING_DETECTED and RING_ENDED of one call after the other. -/
def sessionEvents (callIds : List Bytes) : List (ProtocolEventName × Bytes) :=
  callIds.flatMap fun callId => [(.ringDetected, callId), (.ringEnded, callId)]

theorem sessionEvents_concat (callIds : List Bytes) (callId : Bytes) :
    sessionEvents (callIds ++ [callId]) =
      sessionEvents callIds ++ [(.ringDetected, callId)] ++ [(.ringEnded, callId)] := by
  rw [sessionEvents, List.flatMap_append, List.append_assoc]
  rfl

abbrev RingCoordinator (ρ ω : Type) := DevRingEventCoordinator (DrawLog ρ) (EnqueueLog ω)

abbrev UpdateTransition (ρ ω : Type) :=
  Transition (RingCoordinator ρ ω) RingReading DevCallSessionOutcome

namespace UpdateTransition
variable (u : UpdateTransition ρ ω)

def Starts : Prop := u.output.kind = .ringDetected

def Ends : Prop := u.output.kind = .ringEndedByButton ∨ u.output.kind = .ringEndedByTimeout

/-- Neither button reports a press. -/
def NoEdge : Prop :=
  (u.before.startButton.update u.input.startPressed u.input.nowMs).2 = false ∧
    (u.before.endButton.update u.input.endPressed u.input.nowMs).2 = false

variable {u}

theorem quiet_of_kind (kind : DevCallSessionEventKind) (hkind : u.output.kind = kind)
    (h : kind ≠ .ringDetected ∧ kind ≠ .ringEndedByButton ∧ kind ≠ .ringEndedByTimeout) :
    ¬ Starts u ∧ ¬ Ends u := by
  subst hkind
  exact ⟨h.1, not_or.mpr h.2⟩

theorem Ends.not_starts (h : Ends u) : ¬ Starts u := by
  intro hstarts
  rcases h with hbutton | htimeout
  · cases hstarts.symm.trans hbutton
  · cases hstarts.symm.trans htimeout

theorem ends_of_cause (hkind : u.output.kind = kind)
    (h : kind = .ringEndedByButton ∧ p ∨ kind = .ringEndedByTimeout ∧ q) : Ends u := by
  rcases h with ⟨hbutton, _⟩ | ⟨htimeout, _⟩
  · exact .inl (hkind.trans hbutton)
  · exact .inr (hkind.trans htimeout)

end UpdateTransition

/-- The last session to start, at an update of this kind, has not ended. -/
def SessionOpen (mark : UpdateTransition ρ ω → Prop) (ts : List (UpdateTransition ρ ω)) : Prop :=
  Since (fun w => ¬ UpdateTransition.Starts w ∧ ¬ UpdateTransition.Ends w)
    (fun u => UpdateTransition.Starts u ∧ mark u) ts

/-- An update enqueues one event and names it and its call, or it enqueues none and names none;
only a start that is ignored then still names the call that is active. -/
inductive NamesItsEvent [ArduinoJson] (u : UpdateTransition ρ ω) : Prop where
  | one (event : DeviceEvent)
      (enqueued : u.after.outbox.enqueued = u.before.outbox.enqueued ++ [event.outboxEntry])
      (eventId : u.output.eventId = event.eventId) (callId : u.output.callId = event.callId)
      (kind : event.event = .ringDetected ∧ UpdateTransition.Starts u ∨
        event.event = .ringEnded ∧ UpdateTransition.Ends u)
  | none (enqueued : u.after.outbox.enqueued = u.before.outbox.enqueued)
      (eventId : u.output.eventId = [])
      (callId : u.output.callId =
        if u.output.kind = .startIgnoredAlreadyRinging then u.before.activeCallId else [])
      (kind : ¬ UpdateTransition.Starts u ∧ ¬ UpdateTransition.Ends u)

/-- The enqueued events are those of well-formed sessions, and they are what the coordinator and
its outcomes tell of. -/
structure RingSessions [ArduinoJson] (timeoutMs : UInt32) (ts : List (UpdateTransition ρ ω))
    (events : List DeviceEvent) (c : RingCoordinator ρ ω) : Prop where
  enqueued : c.outbox.enqueued = events.map DeviceEvent.outboxEntry
  alternate : ∃ callIds, callIds.Nodup ∧ [] ∉ callIds ∧
    events.map (fun event => (event.event, event.callId)) <+: sessionEvents callIds
  eventIds : (events.map DeviceEvent.eventId).Nodup
  ringing : c.state = .ringing ↔ ∃ event ∈ events.getLast?, event.event = .ringDetected
  active : ∀ event ∈ events.getLast?, event.event = .ringDetected →
    c.activeCallId = event.callId
  inactive : c.state ≠ .ringing → c.activeCallId = []
  outcomes : ∀ u ∈ ts, NamesItsEvent u
  timeouts : ∀ earlier u later, ts = earlier ++ u :: later →
    (u.output.kind = .ringEndedByTimeout ↔ UpdateTransition.NoEdge u ∧ 0 < timeoutMs ∧
      SessionOpen (fun start => timeoutMs ≤ u.input.nowMs - start.input.nowMs) earlier)

namespace DevRingEventCoordinator

/-- The call that is not yet ended. -/
def openCalls (c : RingCoordinator ρ ω) : List Bytes :=
  if c.state = .ringing then [c.activeCallId] else []

theorem openCalls_ringing {c : RingCoordinator ρ ω} (h : c.state = .ringing) :
    c.openCalls = [c.activeCallId] := if_pos h

theorem openCalls_idle {c : RingCoordinator ρ ω} (h : c.state = .idle) : c.openCalls = [] := by
  rw [openCalls, h]
  rfl

theorem state_cases (c : RingCoordinator ρ ω) : c.state = .ringing ∨ c.state = .idle := by
  cases c.state with
  | idle => exact .inr rfl
  | ringing => exact .inl rfl

section Sessions
variable [ArduinoJson]

/-- What one `update` does to the session, the draws and the outbox. -/
inductive RingStep (u : UpdateTransition ρ ω) : Prop where
  | started (callBytes eventBytes : Bytes) (event : DeviceEvent) (idle : u.before.state = .idle)
      (ringing : u.after.state = .ringing) (name : event.event = .ringDetected)
      (callId : event.callId = hexId (ascii "call") callBytes)
      (active : u.after.activeCallId = event.callId)
      (eventId : event.eventId = hexId (ascii "evt") eventBytes)
      (drawn : u.after.random.drawn = u.before.random.drawn ++ [callBytes, eventBytes])
      (enqueued : u.after.outbox.enqueued = u.before.outbox.enqueued ++ [event.outboxEntry])
      (startedAt : u.after.callStartedAtMs = u.input.nowMs)
      (outcome : u.output = ⟨.ringDetected, event.eventId, event.callId⟩)
  | ended (eventBytes : Bytes) (event : DeviceEvent) (kind : DevCallSessionEventKind)
      (cause : kind = .ringEndedByButton ∧ ¬ UpdateTransition.NoEdge u ∨
        kind = .ringEndedByTimeout ∧ UpdateTransition.NoEdge u ∧ 0 < u.before.timeoutMs ∧
          u.before.timeoutMs ≤ u.input.nowMs - u.before.callStartedAtMs)
      (ringing : u.before.state = .ringing) (idle : u.after.state = .idle)
      (name : event.event = .ringEnded) (callId : event.callId = u.before.activeCallId)
      (inactive : u.after.activeCallId = [])
      (eventId : event.eventId = hexId (ascii "evt") eventBytes)
      (drawn : u.after.random.drawn = u.before.random.drawn ++ [eventBytes])
      (enqueued : u.after.outbox.enqueued = u.before.outbox.enqueued ++ [event.outboxEntry])
      (outcome : u.output = ⟨kind, event.eventId, event.callId⟩)
  | silent (state : u.after.state = u.before.state)
      (active : u.after.activeCallId = u.before.activeCallId)
      (startedAt : u.after.callStartedAtMs = u.before.callStartedAtMs)
      (drawn : u.after.random.drawn = u.before.random.drawn)
      (enqueued : u.after.outbox.enqueued = u.before.outbox.enqueued)
      (waits : UpdateTransition.NoEdge u → ¬ (u.before.state = .ringing ∧ 0 < u.before.timeoutMs ∧
        u.before.timeoutMs ≤ u.input.nowMs - u.before.callStartedAtMs))
      (kind : ¬ UpdateTransition.Starts u ∧ ¬ UpdateTransition.Ends u)
      (eventId : u.output.eventId = [])
      (callId : u.output.callId =
        if u.output.kind = .startIgnoredAlreadyRinging then u.before.activeCallId else [])

section Update
variable [IRandomSource ρ] [IEventOutbox ω]

theorem update_ringStep (c : RingCoordinator ρ ω) (reading : RingReading) :
    RingStep (.of update c reading) := by
  rw [Transition.of, update]
  dsimp only
  cases hstart : (c.startButton.update reading.startPressed reading.nowMs).2 with
  | true =>
    rw [if_pos rfl]
    have hedge {output : DevCallSessionOutcome} {after : RingCoordinator ρ ω} :
        ¬ UpdateTransition.NoEdge (⟨c, reading, output, after⟩ : UpdateTransition ρ ω) := by
      intro hnone
      exact Bool.false_ne_true (hnone.1.symm.trans hstart)
    split
    next hidle =>
      exact .started _ _ _ hidle rfl rfl rfl rfl rfl (List.append_assoc _ _ _) rfl rfl rfl
    next =>
      exact .silent rfl rfl rfl rfl rfl (fun hnone => absurd hnone hedge)
        (UpdateTransition.quiet_of_kind .startIgnoredAlreadyRinging rfl (by decide)) rfl rfl
  | false =>
    rw [if_neg Bool.false_ne_true]
    cases hend : (c.endButton.update reading.endPressed reading.nowMs).2 with
    | true =>
      rw [if_pos rfl]
      have hedge {output : DevCallSessionOutcome} {after : RingCoordinator ρ ω} :
          ¬ UpdateTransition.NoEdge (⟨c, reading, output, after⟩ : UpdateTransition ρ ω) := by
        intro hnone
        exact Bool.false_ne_true (hnone.2.symm.trans hend)
      split
      next hringing =>
        exact .ended _ _ .ringEndedByButton (.inl ⟨rfl, hedge⟩) hringing rfl rfl rfl rfl rfl rfl rfl
          rfl
      next =>
      exact .silent rfl rfl rfl rfl rfl (fun hnone => absurd hnone hedge)
        (UpdateTransition.quiet_of_kind .endIgnoredNoActiveCall rfl (by decide)) rfl rfl
    | false =>
      rw [if_neg Bool.false_ne_true]
      split
      next hexpired =>
        exact .ended _ _ .ringEndedByTimeout (.inr ⟨rfl, ⟨hstart, hend⟩, hexpired.2⟩) hexpired.1 rfl
          rfl rfl rfl rfl rfl rfl rfl
      next hwaits =>
        exact .silent rfl rfl rfl rfl rfl (fun _ => hwaits)
          (UpdateTransition.quiet_of_kind .none rfl (by decide)) rfl rfl

theorem update_timeoutMs (c : RingCoordinator ρ ω) (reading : RingReading) :
    (c.update reading).1.timeoutMs = c.timeoutMs := by
  rw [update]
  dsimp only
  split
  · split
    · rfl
    · rfl
  · split
    · split
      · rfl
      · rfl
    · split
      · rfl
      · rfl

end Update

theorem RingStep.namesItsEvent {u : UpdateTransition ρ ω} (h : RingStep u) : NamesItsEvent u := by
  cases h with
  | started _ _ event _ _ hname _ _ _ _ henqueued _ houtcome =>
    apply NamesItsEvent.one event henqueued
    · rw [houtcome]
    · rw [houtcome]
    · exact .inl ⟨hname, congrArg DevCallSessionOutcome.kind houtcome⟩
  | ended _ event kind hcause _ _ hname _ _ _ _ henqueued houtcome =>
    have hkind := congrArg DevCallSessionOutcome.kind houtcome
    apply NamesItsEvent.one event henqueued
    · rw [houtcome]
    · rw [houtcome]
    · exact .inr ⟨hname, UpdateTransition.ends_of_cause hkind hcause⟩
  | silent _ _ _ _ henqueued _ hkind heventId hcallId =>
    exact .none henqueued heventId hcallId hkind

/-- What stands between two updates: the calls that ended, and the one that is open. -/
structure InRingSession (ts : List (UpdateTransition ρ ω)) (events : List DeviceEvent)
    (ended : List Bytes) (c : RingCoordinator ρ ω) : Prop where
  enqueued : c.outbox.enqueued = events.map DeviceEvent.outboxEntry
  word : events.map (fun event => (event.event, event.callId)) =
    sessionEvents ended ++ c.openCalls.map fun callId => (.ringDetected, callId)
  callIds : (ended ++ c.openCalls).Sublist (c.random.drawn.map (hexId (ascii "call")))
  eventIds : (events.map DeviceEvent.eventId).Sublist
    (c.random.drawn.map (hexId (ascii "evt")))
  inactive : c.state = .idle → c.activeCallId = []
  started : c.state = .ringing → SessionOpen (fun u => u.input.nowMs = c.callStartedAtMs) ts
  closed : c.state = .idle → ¬ SessionOpen (fun _ => True) ts

theorem InRingSession.next {u : UpdateTransition ρ ω} (h : InRingSession ts events ended u.before)
    (hstep : RingStep u) : ∃ events' ended', InRingSession (ts ++ [u]) events' ended' u.after := by
  cases hstep with
  | started callBytes eventBytes event hidle hringing hname hcall hactive hevent hdrawn henqueued
      hstarted houtcome =>
    have hword := h.word
    have hcallIds := h.callIds
    rw [openCalls_idle hidle, List.map_nil, List.append_nil] at hword
    rw [openCalls_idle hidle, List.append_nil] at hcallIds
    refine ⟨events ++ [event], ended, ?_, ?_, ?_, ?_, ?_, ?_, ?_⟩
    · rw [henqueued, h.enqueued, List.map_append, List.map_singleton]
    · rw [List.map_append, hword, List.map_singleton, hname, openCalls_ringing hringing, hactive,
        List.map_singleton]
    · rw [openCalls_ringing hringing, hactive, hcall, hdrawn, List.map_append]
      exact hcallIds.append (List.sublist_append_left [_] [_])
    · rw [List.map_append, List.map_singleton, hevent, hdrawn, List.map_append]
      exact h.eventIds.append (List.sublist_append_right [_] [_])
    · intro hother
      exact absurd (hringing.symm.trans hother) DevCallState.noConfusion
    · intro _
      exact since_concat.mpr (.inl ⟨congrArg DevCallSessionOutcome.kind houtcome, hstarted.symm⟩)
    · intro hother
      exact absurd (hringing.symm.trans hother) DevCallState.noConfusion
  | ended eventBytes event kind hcause hringing hidle hname hcall hinactive hevent hdrawn henqueued
      houtcome =>
    have hends : UpdateTransition.Ends u :=
      UpdateTransition.ends_of_cause (congrArg DevCallSessionOutcome.kind houtcome) hcause
    have hword := h.word
    have hcallIds := h.callIds
    rw [openCalls_ringing hringing, List.map_singleton] at hword
    rw [openCalls_ringing hringing] at hcallIds
    refine ⟨events ++ [event], ended ++ [u.before.activeCallId], ?_, ?_, ?_, ?_, ?_, ?_, ?_⟩
    · rw [henqueued, h.enqueued, List.map_append, List.map_singleton]
    · rw [List.map_append, hword, List.map_singleton, hname, hcall, openCalls_idle hidle,
        List.map_nil, List.append_nil, sessionEvents_concat]
    · rw [openCalls_idle hidle, List.append_nil, hdrawn, List.map_append]
      exact hcallIds.trans (List.sublist_append_left _ _)
    · rw [List.map_append, List.map_singleton, hevent, hdrawn, List.map_append]
      exact h.eventIds.append (List.Sublist.refl _)
    · exact fun _ => hinactive
    · intro hother
      exact absurd (hidle.symm.trans hother) DevCallState.noConfusion
    · intro _ hopen
      rcases since_concat.mp hopen with hmark | ⟨hhold, _⟩
      · exact hends.not_starts hmark.1
      · exact hhold.2 hends
  | silent hstate hactive hstarted hdrawn henqueued _ hkind =>
    have hopen : u.after.openCalls = u.before.openCalls := by
      rw [openCalls, openCalls, hstate, hactive]
    refine ⟨events, ended, ?_, ?_, ?_, ?_, ?_, ?_, ?_⟩
    · rw [henqueued, h.enqueued]
    · rw [h.word, hopen]
    · rw [hopen, hdrawn]
      exact h.callIds
    · rw [hdrawn]
      exact h.eventIds
    · rw [hstate, hactive]
      exact h.inactive
    · rw [hstate, hstarted]
      exact fun hringing => since_concat.mpr (.inr ⟨hkind, h.started hringing⟩)
    · rw [hstate]
      intro hidle hopen
      rcases since_concat.mp hopen with hmark | ⟨_, hopen⟩
      · exact hkind.1 hmark.1
      · exact h.closed hidle hopen

theorem InRingSession.last_ringing {c : RingCoordinator ρ ω} (h : InRingSession ts events ended c)
    (hringing : c.state = .ringing) :
    ∃ event ∈ events.getLast?, event.event = .ringDetected ∧ c.activeCallId = event.callId := by
  have hlast := congrArg List.getLast? h.word
  rw [openCalls_ringing hringing, List.map_singleton, List.getLast?_concat, List.getLast?_map,
    Option.map_eq_some_iff] at hlast
  obtain ⟨event, hevent, hsession⟩ := hlast
  rw [Prod.mk.injEq] at hsession
  exact ⟨event, hevent, hsession.1, hsession.2.symm⟩

theorem InRingSession.last_idle {c : RingCoordinator ρ ω} (h : InRingSession ts events ended c)
    (hidle : c.state = .idle) : ∀ event ∈ events.getLast?, event.event ≠ .ringDetected := by
  intro event hevent hdetected
  have hlast := congrArg List.getLast? h.word
  rw [openCalls_idle hidle, List.map_nil, List.append_nil, List.getLast?_map,
    Option.mem_def.mp hevent, Option.map_some, hdetected] at hlast
  rcases ended.eq_nil_or_concat with hnone | ⟨earlier, callId, hcalls⟩
  · rw [hnone] at hlast
    cases hlast
  · rw [hcalls, List.concat_eq_append, sessionEvents_concat, List.getLast?_concat] at hlast
    cases hlast

theorem InRingSession.ringing_iff {c : RingCoordinator ρ ω} (h : InRingSession ts events ended c) :
    c.state = .ringing ↔ ∃ event ∈ events.getLast?, event.event = .ringDetected := by
  constructor
  · intro hringing
    obtain ⟨event, hevent, hdetected, _⟩ := h.last_ringing hringing
    exact ⟨event, hevent, hdetected⟩
  · intro hlast
    obtain ⟨event, hevent, hdetected⟩ := hlast
    apply c.state_cases.resolve_right
    intro hidle
    exact h.last_idle hidle event hevent hdetected

/-- Distinct draws make distinct calls, of which the events are the beginning of a word. -/
theorem InRingSession.alternate {c : RingCoordinator ρ ω} (h : InRingSession ts events ended c)
    (hdistinct : c.random.drawn.Nodup) : ∃ callIds, callIds.Nodup ∧ [] ∉ callIds ∧
      events.map (fun event => (event.event, event.callId)) <+: sessionEvents callIds := by
  refine ⟨ended ++ c.openCalls, ?_, ?_, ?_⟩
  · exact (List.Nodup.map (hexId_injective _) hdistinct).sublist h.callIds
  · intro hnil
    obtain ⟨bytes, _, hbytes⟩ := List.mem_map.mp (h.callIds.subset hnil)
    exact List.append_ne_nil_of_left_ne_nil
      (List.append_ne_nil_of_left_ne_nil (List.cons_ne_nil _ _) _) _ hbytes
  · rw [h.word]
    rcases c.state_cases with hringing | hidle
    · rw [openCalls_ringing hringing, sessionEvents_concat]
      exact List.prefix_append _ _
    · simp only [openCalls_idle hidle, List.map_nil, List.append_nil, List.prefix_rfl]

theorem InRingSession.timesOut_iff {u : UpdateTransition ρ ω}
    (h : InRingSession ts events ended u.before) (hstep : RingStep u) :
    u.output.kind = .ringEndedByTimeout ↔ UpdateTransition.NoEdge u ∧ 0 < u.before.timeoutMs ∧
      SessionOpen (fun start => u.before.timeoutMs ≤ u.input.nowMs - start.input.nowMs) ts := by
  have hexpired (hopen : SessionOpen
      (fun start => u.before.timeoutMs ≤ u.input.nowMs - start.input.nowMs) ts) :
      u.before.state = .ringing ∧
        u.before.timeoutMs ≤ u.input.nowMs - u.before.callStartedAtMs := by
    have hringing : u.before.state = .ringing := by
      apply u.before.state_cases.resolve_right
      intro hidle
      exact h.closed hidle (hopen.mono (fun _ hw => hw) (fun _ hv => ⟨hv.1, trivial⟩))
    obtain ⟨start, hstart, helapsed⟩ := (h.started hringing).unique hopen
      (fun _ hv hw => hw.1 hv.1) (fun _ hv hw => hw.1 hv.1)
    refine ⟨hringing, ?_⟩
    rw [← hstart.2]
    exact helapsed.2
  have hother (hkind : u.output.kind ≠ .ringEndedByTimeout)
      (hwaits : UpdateTransition.NoEdge u → ¬ (u.before.state = .ringing ∧ 0 < u.before.timeoutMs ∧
        u.before.timeoutMs ≤ u.input.nowMs - u.before.callStartedAtMs)) :
      u.output.kind = .ringEndedByTimeout ↔ UpdateTransition.NoEdge u ∧ 0 < u.before.timeoutMs ∧
        SessionOpen (fun start => u.before.timeoutMs ≤ u.input.nowMs - start.input.nowMs) ts := by
    apply iff_of_false hkind
    intro hall
    obtain ⟨hedge, hpositive, hopen⟩ := hall
    obtain ⟨hringing, helapsed⟩ := hexpired hopen
    exact hwaits hedge ⟨hringing, hpositive, helapsed⟩
  cases hstep with
  | started _ _ _ hidle _ _ _ _ _ _ _ _ houtcome =>
    apply hother
    · rw [houtcome]
      exact DevCallSessionEventKind.noConfusion
    · intro _ hall
      exact absurd (hidle.symm.trans hall.1) DevCallState.noConfusion
  | ended _ _ kind hcause hringing _ _ _ _ _ _ _ houtcome =>
    rcases hcause with ⟨hbutton, hedge⟩ | ⟨htimeout, hedge, hpositive, helapsed⟩
    · apply hother
      · rw [houtcome, hbutton]
        exact DevCallSessionEventKind.noConfusion
      · exact fun hnone => absurd hnone hedge
    · rw [houtcome]
      refine iff_of_true htimeout ⟨hedge, hpositive, ?_⟩
      apply (h.started hringing).mono (fun _ hw => hw)
      intro start hstart
      have hat : start.input.nowMs = u.before.callStartedAtMs := hstart.2
      refine ⟨hstart.1, ?_⟩
      rw [← hat] at helapsed
      exact helapsed
  | silent _ _ _ _ _ hwaits hkind =>
    apply hother
    · exact fun htimeout => hkind.2 (.inr htimeout)
    · exact hwaits

section Runs
variable [IRandomSource ρ] [IEventOutbox ω]

/-- A coordinator before any update, with nothing drawn and nothing enqueued so far. -/
def fresh (startButton endButton : DevRingButtonController) (random : ρ) (outbox : ω)
    (deviceId : Bytes) (timeoutMs : UInt32) : RingCoordinator ρ ω where
  startButton := startButton
  endButton := endButton
  random := { random := random }
  outbox := { outbox := outbox }
  deviceId := deviceId
  timeoutMs := timeoutMs

omit [IRandomSource ρ] [IEventOutbox ω] in
theorem inRingSession_fresh (startButton endButton : DevRingButtonController) (random : ρ)
    (outbox : ω) (deviceId : Bytes) (timeoutMs : UInt32) :
    InRingSession [] [] [] (fresh startButton endButton random outbox deviceId timeoutMs) :=
  ⟨rfl, rfl, List.nil_sublist _, List.nil_sublist _, fun _ => rfl, DevCallState.noConfusion,
    fun _ => not_since_nil⟩

theorem inRingSession_run {c : RingCoordinator ρ ω} (h : InRingSession [] [] [] c)
    (readings : List RingReading) :
    (∃ events ended, InRingSession (transitions update c readings) events ended
      (finalState update c readings)) ∧
      (finalState update c readings).timeoutMs = c.timeoutMs := by
  apply run_induction (motive := fun ts c' =>
    (∃ events ended, InRingSession ts events ended c') ∧ c'.timeoutMs = c.timeoutMs)
  · exact ⟨⟨[], [], h⟩, rfl⟩
  · intro ts c' reading hrun
    obtain ⟨⟨events, ended, hsession⟩, htimeout⟩ := hrun
    exact ⟨InRingSession.next (u := .of update c' reading) hsession (c'.update_ringStep reading),
      (c'.update_timeoutMs reading).trans htimeout⟩

/-- Over every run with distinct draws the sessions are well formed. -/
theorem ringSessions_run (startButton endButton : DevRingButtonController) (random : ρ) (outbox : ω)
    (deviceId : Bytes) (timeoutMs : UInt32) (readings : List RingReading)
    (hdistinct : (finalState update (fresh startButton endButton random outbox deviceId timeoutMs)
      readings).random.drawn.Nodup) :
    ∃ events, RingSessions timeoutMs
      (transitions update (fresh startButton endButton random outbox deviceId timeoutMs) readings)
      events
      (finalState update (fresh startButton endButton random outbox deviceId timeoutMs)
        readings) := by
  have hstart := inRingSession_fresh startButton endButton random outbox deviceId timeoutMs
  obtain ⟨⟨events, ended, hsession⟩, _⟩ := inRingSession_run hstart readings
  refine ⟨events, hsession.enqueued, hsession.alternate hdistinct, ?_, hsession.ringing_iff, ?_, ?_,
    ?_, ?_⟩
  · exact (List.Nodup.map (hexId_injective _) hdistinct).sublist hsession.eventIds
  · intro event hevent hdetected
    obtain ⟨last, hlast, _, hactive⟩ :=
      hsession.last_ringing (hsession.ringing_iff.mpr ⟨event, hevent, hdetected⟩)
    rw [Option.mem_unique hevent hlast]
    exact hactive
  · intro hstate
    exact hsession.inactive ((state_cases _).resolve_left hstate)
  · intro u hu
    obtain ⟨earlier, reading, _, _, hu⟩ := exists_of_mem_transitions hu
    rw [hu]
    exact (update_ringStep _ reading).namesItsEvent
  · intro earlier u later hcut
    obtain ⟨readings₁, reading, _, _, hearlier, hu, _⟩ := transitions_split hcut
    obtain ⟨⟨_, _, hbefore⟩, htimeout⟩ := inRingSession_run hstart readings₁
    rw [hu, hearlier]
    have htimesOut := InRingSession.timesOut_iff (u := .of update _ reading) hbefore
      (update_ringStep _ reading)
    rw [Transition.of] at htimesOut ⊢
    dsimp only at htimesOut ⊢
    rw [htimeout] at htimesOut
    exact htimesOut

end Runs
end Sessions

/-- A call that is ended by the button, and one that is ended by the timeout. -/
theorem ringSessions_twoCalls :
    letI := compactJson
    let c : RingCoordinator DevRing.CountingRandom MemoryEventOutbox :=
      fresh {} {} ⟨0⟩ {} (ascii "ib-1") kDevCallTimeoutMs
    let readings : List RingReading := [⟨true, false, 0, false, 0⟩, ⟨true, false, 50, false, 0⟩,
      ⟨false, true, 100, false, 0⟩, ⟨false, true, 150, false, 0⟩, ⟨true, false, 400, false, 0⟩,
      ⟨true, false, 450, false, 0⟩, ⟨false, false, 60450, false, 0⟩]
    ∃ events, RingSessions kDevCallTimeoutMs (transitions update c readings) events
      (finalState update c readings) :=
  letI := compactJson
  ringSessions_run {} {} (DevRing.CountingRandom.mk 0) ({} : MemoryEventOutbox) (ascii "ib-1")
    kDevCallTimeoutMs _ (by decide)

end DevRingEventCoordinator
end InterBridge
