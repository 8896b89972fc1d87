import InterBridge.Dev.OutboxDelivery

namespace InterBridge
open Foundations
set_option autoImplicit true

/-- The simulator: its coordinator and the transport its events go out over. -/
structure DevRing (ρ τ : Type) where
  coordinator : DevRingEventCoordinator ρ OutboxLog
  transport : PublishLog τ

inductive DevRingCall where
  | update (reading : RingReading)
  | publishPendingEvents (topic : Bytes)

inductive DevRingAnswer where
  | outcome (outcome : DevCallSessionOutcome)
  | published (count : Nat)

abbrev DevRingTransition (ρ τ : Type) := Transition (DevRing ρ τ) DevRingCall DevRingAnswer

/-- In this step messages went out: `ahead`, and then `message`. -/
def DevRingTransition.Publishes (u : DevRingTransition ρ τ) (ahead : List MqttMessage)
    (message : MqttMessage) : Prop :=
  ∃ behind, u.after.transport.published =
    u.before.transport.published ++ (ahead ++ message :: behind)

namespace DevRing
section Runs
variable [IRandomSource ρ] [IDeviceTransport τ] [ArduinoJson]

def step (s : DevRing ρ τ) : DevRingCall → DevRing ρ τ × DevRingAnswer
  | .update reading =>
    let (coordinator, outcome) := s.coordinator.update reading
    ({ s with coordinator := coordinator }, .outcome outcome)
  | .publishPendingEvents topic =>
    let p := publishPendingEvents s.coordinator.outbox s.transport topic
    (⟨{ s.coordinator with outbox := p.outbox }, p.transport⟩, .published p.publishedCount)

/-- Whenever the end of a call goes out, its beginning went out before. -/
def EndedFollowsDetected (ts : List (DevRingTransition ρ τ)) : Prop :=
  ∀ u ∈ ts, ∀ ahead message callId, DevRingTransition.Publishes u ahead message →
    ReportsCall .ringEnded callId message.payload →
    ∃ m ∈ u.before.transport.published ++ ahead, ReportsCall .ringDetected callId m.payload

/-- Whenever the end of a call goes out, its beginning went out before, or was evicted. -/
def EndedFollowsDetectedOrEviction (ts : List (DevRingTransition ρ τ)) : Prop :=
  ∀ u ∈ ts, ∀ ahead message callId, DevRingTransition.Publishes u ahead message →
    ReportsCall .ringEnded callId message.payload →
    (∃ m ∈ u.before.transport.published ++ ahead, ReportsCall .ringDetected callId m.payload) ∨
      ∃ entry ∈ u.before.coordinator.outbox.evicted, ReportsCall .ringDetected callId entry.2

/-- The beginning of this call was enqueued. -/
def Begun (callId : Bytes) (enqueued : List (Bytes × Bytes)) : Prop :=
  ∃ entry ∈ enqueued, ReportsCall .ringDetected callId entry.2

/-- The end of a call is enqueued after its beginning. -/
def EndedInOrder (enqueued : List (Bytes × Bytes)) : Prop :=
  ∀ earlier entry later callId, enqueued = earlier ++ entry :: later →
    ReportsCall .ringEnded callId entry.2 → Begun callId earlier

omit [IRandomSource ρ] [IDeviceTransport τ] in
theorem EndedInOrder.concat {enqueued : List (Bytes × Bytes)} (h : EndedInOrder enqueued)
    (hnew : ∀ callId, ReportsCall .ringEnded callId new.2 → Begun callId enqueued) :
    EndedInOrder (enqueued ++ [new]) := by
  intro earlier entry later callId hsplit hended
  rcases concat_eq_append_cons hsplit with ⟨rfl, rfl, _⟩ | ⟨later', _, hsplit⟩
  · exact hnew callId hended
  · exact h earlier entry later' callId hsplit hended

/-- The enqueued events keep to call sessions, and the active one has begun. -/
structure InSessions (c : DevRingEventCoordinator ρ OutboxLog) : Prop where
  ringing : c.state = .ringing → c.activeCallId ≠ [] ∧ Begun c.activeCallId c.outbox.enqueued
  ended : EndedInOrder c.outbox.enqueued

omit [IRandomSource ρ] [IDeviceTransport τ] in
theorem InSessions.start {c : DevRingEventCoordinator ρ OutboxLog} (hidle : c.state = .idle)
    (hempty : c.outbox.enqueued = []) : InSessions c := by
  constructor
  · intro hringing
    exact absurd (hidle.symm.trans hringing) (by decide)
  · intro earlier entry later callId hsplit
    rw [hempty] at hsplit
    exact absurd hsplit (List.append_ne_nil_of_right_ne_nil _ (List.cons_ne_nil _ _)).symm

omit [IRandomSource ρ] [IDeviceTransport τ] in
theorem InSessions.of_eq {c c' : DevRingEventCoordinator ρ OutboxLog} (h : InSessions c)
    (hstate : c'.state = c.state) (hcall : c'.activeCallId = c.activeCallId)
    (henqueued : c'.outbox.enqueued = c.outbox.enqueued) : InSessions c' := by
  constructor
  · rw [hstate, hcall, henqueued]
    exact h.ringing
  · rw [henqueued]
    exact h.ended

omit [IDeviceTransport τ] in
theorem InSessions.update (hj : ArduinoJson.RoundTrips) {c : DevRingEventCoordinator ρ OutboxLog}
    (h : InSessions c) (reading : RingReading) : InSessions (c.update reading).1 := by
  cases c.update_sessionStep reading with
  | silent hstate hcall houtbox => exact h.of_eq hstate hcall (congrArg OutboxLog.enqueued houtbox)
  | started event hidle hringing hname hcall hnamed houtbox =>
    have henqueued : (c.update reading).1.outbox.enqueued =
        c.outbox.enqueued ++ [(event.eventId, event.toJson)] :=
      congrArg OutboxLog.enqueued houtbox
    have hcalled : event.callId ≠ [] := hcall ▸ hnamed
    constructor
    · intro _
      rw [henqueued]
      refine ⟨hnamed, _, List.mem_append_right _ List.mem_cons_self, ?_⟩
      rw [DeviceEvent.reportsCall_iff hj hcalled, hname, hcall]
      exact ⟨rfl, rfl⟩
    · rw [henqueued]
      apply h.ended.concat
      intro callId hended
      have hother := ((DeviceEvent.reportsCall_iff hj hcalled).mp hended).1
      rw [hname] at hother
      exact absurd hother (by decide)
  | ended event hringing hidle hname hcall houtbox =>
    have henqueued : (c.update reading).1.outbox.enqueued =
        c.outbox.enqueued ++ [(event.eventId, event.toJson)] :=
      congrArg OutboxLog.enqueued houtbox
    obtain ⟨hnamed, hbegun⟩ := h.ringing hringing
    constructor
    · intro hstill
      exact absurd (hidle.symm.trans hstill) (by decide)
    · rw [henqueued]
      apply h.ended.concat
      intro callId hended
      have hactive := ((DeviceEvent.reportsCall_iff hj (hcall ▸ hnamed)).mp hended).2
      rw [hactive, hcall]
      exact hbegun

theorem InSessions.step (hj : ArduinoJson.RoundTrips) {s : DevRing ρ τ}
    (h : InSessions s.coordinator) (call : DevRingCall) :
    InSessions (s.step call).1.coordinator := by
  cases call with
  | update reading => exact h.update hj reading
  | publishPendingEvents topic =>
    exact h.of_eq rfl rfl (publishEach_enqueued topic ⟨s.coordinator.outbox, s.transport, [], 0⟩ _)

theorem enqueued_kept (s : DevRing ρ τ) (call : DevRingCall) :
    s.coordinator.outbox.enqueued <+: (s.step call).1.coordinator.outbox.enqueued := by
  cases call with
  | update reading =>
    change _ <+: (s.coordinator.update reading).1.outbox.enqueued
    cases s.coordinator.update_sessionStep reading with
    | silent _ _ houtbox =>
      exact houtbox ▸ List.prefix_refl _
    | started _ _ _ _ _ _ houtbox =>
      rw [houtbox]
      exact List.prefix_append _ _
    | ended _ _ _ _ _ houtbox =>
      rw [houtbox]
      exact List.prefix_append _ _
  | publishPendingEvents topic =>
    have henqueued := publishEach_enqueued topic ⟨s.coordinator.outbox, s.transport, [], 0⟩
      s.coordinator.outbox.outbox.pending
    exact henqueued.symm ▸ List.prefix_refl _

theorem enqueued_kept_run (s : DevRing ρ τ) (calls : List DevRingCall) :
    s.coordinator.outbox.enqueued <+: (finalState step s calls).coordinator.outbox.enqueued := by
  induction calls generalizing s with
  | nil => exact List.prefix_refl _
  | cons call calls ih => exact (s.enqueued_kept call).trans (ih _)

theorem accounted_step {s : DevRing ρ τ} (h : Accounted s.coordinator.outbox s.transport)
    (hdistinct : ((s.step call).1.coordinator.outbox.enqueued.map Prod.fst).Nodup) :
    Accounted (s.step call).1.coordinator.outbox (s.step call).1.transport := by
  cases call with
  | update reading =>
    change ((s.coordinator.update reading).1.outbox.enqueued.map Prod.fst).Nodup at hdistinct
    change Accounted (s.coordinator.update reading).1.outbox s.transport
    cases s.coordinator.update_sessionStep reading with
    | silent _ _ houtbox =>
      rw [houtbox]
      exact h
    | started _ _ _ _ _ _ houtbox =>
      rw [houtbox] at hdistinct ⊢
      exact h.enqueue hdistinct
    | ended _ _ _ _ _ houtbox =>
      rw [houtbox] at hdistinct ⊢
      exact h.enqueue hdistinct
  | publishPendingEvents topic =>
    have hkeys := hdistinct.sublist ((s.enqueued_kept (.publishPendingEvents topic)).sublist.map _)
    rw [← List.append_nil s.coordinator.outbox.enqueued] at hkeys
    exact h.publishPendingEvents hkeys topic

/-- A session with an empty outbox of that capacity before any call. -/
def fresh (startButton endButton : DevRingButtonController) (random : ρ) (capacity : Nat)
    (deviceId : Bytes) (timeoutMs : UInt32) (transport : τ) : DevRing ρ τ where
  coordinator := {
    startButton := startButton
    endButton := endButton
    random := random
    outbox := { outbox := { capacity := capacity } }
    deviceId := deviceId
    timeoutMs := timeoutMs }
  transport := { transport := transport }

theorem sessions_run (hj : ArduinoJson.RoundTrips) {s : DevRing ρ τ}
    (hs : Accounted s.coordinator.outbox s.transport) (hsessions : InSessions s.coordinator)
    (calls : List DevRingCall)
    (hdistinct : ((finalState step s calls).coordinator.outbox.enqueued.map Prod.fst).Nodup) :
    Accounted (finalState step s calls).coordinator.outbox (finalState step s calls).transport ∧
      InSessions (finalState step s calls).coordinator := by
  induction calls using List.reverseRecOn with
  | nil => exact ⟨hs, hsessions⟩
  | append_singleton calls call ih =>
    rw [finalState_append] at hdistinct ⊢
    have hkept := (finalState step s calls).enqueued_kept call
    obtain ⟨haccounted, hsessions⟩ := ih (hdistinct.sublist (hkept.sublist.map _))
    exact ⟨accounted_step haccounted hdistinct, hsessions.step hj call⟩

/-- The end of a call that goes out in this step was queued, and whatever was enqueued before it
went out or was evicted. -/
theorem ended_of_publishes {s : DevRing ρ τ} (h : Accounted s.coordinator.outbox s.transport)
    (hsessions : InSessions s.coordinator)
    (hdistinct : (s.coordinator.outbox.enqueued.map Prod.fst).Nodup)
    (hpublishes : DevRingTransition.Publishes (.of step s call) ahead message)
    (hended : ReportsCall .ringEnded callId message.payload) :
    (∃ m ∈ s.transport.published ++ ahead, ReportsCall .ringDetected callId m.payload) ∨
      ∃ entry ∈ s.coordinator.outbox.evicted, ReportsCall .ringDetected callId entry.2 := by
  obtain ⟨behind, hpublished⟩ := hpublishes
  cases call with
  | update reading =>
    have hnone : s.transport.published = s.transport.published ++ (ahead ++ message :: behind) :=
      hpublished
    rw [List.self_eq_append_right] at hnone
    exact absurd hnone (List.append_ne_nil_of_right_ne_nil _ (List.cons_ne_nil _ _))
  | publishPendingEvents topic =>
    rw [← List.append_nil s.coordinator.outbox.enqueued] at hdistinct
    have hfront := publishPendingEvents_front s.coordinator.outbox s.transport topic
      (h.keys_nodup hdistinct)
    have hnew := List.append_cancel_left (hfront.published.symm.trans hpublished)
    obtain ⟨out, rest, htake, rfl, hrest⟩ := List.map_eq_append_iff.mp hnew
    obtain ⟨entry, out', rfl, rfl, _⟩ := List.map_eq_cons_iff.mp hrest
    have hledger := h.ledger
    rw [← List.take_append_drop (publishPendingEvents s.coordinator.outbox s.transport
      topic).publishedCount s.coordinator.outbox.entries, htake, List.append_assoc,
      List.cons_append] at hledger
    obtain ⟨earlier, henqueued, hfates⟩ := hledger.before_queued
    obtain ⟨detected, hmem, hdetected⟩ := hsessions.ended earlier entry _ callId henqueued hended
    rcases hfates detected hmem with hpublished | hevicted
    · left
      have hpayloads : detected.2 ∈ (s.transport.published ++
          out.map fun entry => (⟨topic, entry.2⟩ : MqttMessage)).map MqttMessage.payload := by
        rw [List.map_append, h.payloads, List.map_map]
        exact List.map_append ▸ List.mem_map_of_mem hpublished
      obtain ⟨m, hm, hpayload⟩ := List.mem_map.mp hpayloads
      exact ⟨m, hm, hpayload.symm ▸ hdetected⟩
    · exact .inr ⟨detected, hevicted, hdetected⟩

/-- Over every run of the simulator with distinct event ids, a published end of a call follows the
beginning of the same call, unless a full outbox evicted that. -/
theorem ended_follows_detected_or_eviction (hj : ArduinoJson.RoundTrips)
    (startButton endButton : DevRingButtonController) (random : ρ) (capacity : Nat)
    (deviceId : Bytes) (timeoutMs : UInt32) (transport : τ) (calls : List DevRingCall)
    (hdistinct : ((finalState step (fresh startButton endButton random capacity deviceId timeoutMs
      transport) calls).coordinator.outbox.enqueued.map Prod.fst).Nodup) :
    EndedFollowsDetectedOrEviction (transitions step (fresh startButton endButton random capacity
      deviceId timeoutMs transport) calls) := by
  intro u hu ahead message callId hpublishes hended
  obtain ⟨calls₁, call, calls₂, rfl, rfl⟩ := exists_of_mem_transitions hu
  rw [finalState_append] at hdistinct
  have hbefore := hdistinct.sublist ((enqueued_kept_run _ (call :: calls₂)).sublist.map _)
  obtain ⟨haccounted, hsessions⟩ := sessions_run hj ⟨.start, rfl⟩
    (InSessions.start rfl rfl) calls₁ hbefore
  exact ended_of_publishes haccounted hsessions hbefore hpublishes hended

end Runs

/-- A random source that fills each buffer with one byte, the next one every time. -/
structure CountingRandom where
  next : UInt8
  deriving DecidableEq

instance : IRandomSource CountingRandom where
  fill random length := (⟨random.next + 1⟩, Vector.replicate length random.next)

/-- A reading with the clock not yet set. -/
def readingAt (nowMs : UInt32) (startPressed endPressed : Bool) : DevRingCall :=
  .update ⟨startPressed, endPressed, nowMs, false, 0⟩

/-- A call begins and ends while nothing can be published. -/
def callOffline : List DevRingCall :=
  [readingAt 0 true false, readingAt 50 true false, .publishPendingEvents (ascii "events"),
    readingAt 100 false true, readingAt 150 false true]

/-- An outbox with room for one event. -/
def roomForOne : DevRing CountingRandom ScriptedTransport :=
  fresh {} {} (CountingRandom.mk 0) 1 (ascii "ib-1") kDevCallTimeoutMs
    (ScriptedTransport.mk [false, true])

/-- The call offline, and the link back after it. -/
def callsWithGap : List DevRingCall :=
  callOffline ++ [.publishPendingEvents (ascii "events")]

theorem callsWithGap_ended_follows_detected_or_eviction :
    letI := compactJson
    EndedFollowsDetectedOrEviction (transitions step roomForOne callsWithGap) :=
  letI := compactJson
  ended_follows_detected_or_eviction compactJson_roundTrips {} {} (CountingRandom.mk 0) 1
    (ascii "ib-1") kDevCallTimeoutMs (ScriptedTransport.mk [false, true]) callsWithGap (by decide)

/-- The event of the end of that call. -/
def endedOffline : DeviceEvent where
  deviceId := ascii "ib-1"
  event := .ringEnded
  eventId := (generateHexId (CountingRandom.mk 2) (ascii "evt")).2
  callId := (generateHexId (CountingRandom.mk 0) (ascii "call")).2
  timestamp := []

/-- Of that call only the end goes out. -/
theorem callsWithGap_ended_alone :
    letI := compactJson
    ¬ EndedFollowsDetected (transitions step roomForOne callsWithGap) := by
  intro h
  have hlast : Transition.of (@step _ _ _ _ compactJson)
      (finalState (@step _ _ _ _ compactJson) roomForOne callOffline)
      (.publishPendingEvents (ascii "events")) ∈
        transitions (@step _ _ _ _ compactJson) roomForOne callsWithGap := by
    rw [callsWithGap, transitions_append]
    exact List.mem_append_right _ List.mem_cons_self
  have hpublishes : DevRingTransition.Publishes
      (Transition.of (@step _ _ _ _ compactJson)
        (finalState (@step _ _ _ _ compactJson) roomForOne callOffline)
        (.publishPendingEvents (ascii "events"))) []
      ⟨ascii "events", @DeviceEvent.toJson compactJson endedOffline⟩ := ⟨[], rfl⟩
  have hended : @ReportsCall compactJson .ringEnded endedOffline.callId
      (@DeviceEvent.toJson compactJson endedOffline) :=
    (@DeviceEvent.reportsCall_iff _ _ compactJson compactJson_roundTrips endedOffline
      (by decide)).mpr ⟨rfl, rfl⟩
  obtain ⟨m, hm, _⟩ := h _ hlast [] _ _ hpublishes hended
  exact absurd hm List.not_mem_nil

end DevRing
end InterBridge
