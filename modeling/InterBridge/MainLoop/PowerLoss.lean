import InterBridge.Foundations.Redelivery
import InterBridge.MainLoop.MainSessions
import InterBridge.MainLoop.OutboxFlush
import InterBridge.MainLoop.ReconnectGate
import InterBridge.Network.AcceptedMessages
import InterBridge.Network.TopicNames
import InterBridge.Protocol.PersistentOutbox

namespace InterBridge
open Foundations
set_option autoImplicit true

/-- The entry that this enqueues. -/
def RestOfLoop.entry? : RestOfLoop → Option (Bytes × Bytes)
  | .eventEnqueued entry => some (entry.eventId, entry.eventJson)
  | _ => none

/-- What a boot finds besides the outbox and the wire. -/
structure Reboot (κ δ : Type) where
  client : κ
  credentialStore : DeviceCredentialStore
  provisioned : Bool
  dedupCache : δ

/-- A call of `updateNetwork`, or one in which power is lost at one of its moments. -/
inductive PoweredInput (κ δ : Type) where
  | call (input : NetworkInput)
  | powerLost (input : NetworkInput) (moment : Nat) (reboot : Reboot κ δ)

namespace PoweredInput

/-- The entries that are enqueued before the end of the call, or before power is lost. -/
def enqueued : PoweredInput κ δ → List (Bytes × Bytes)
  | .call input => input.meanwhile.filterMap RestOfLoop.entry?
  | .powerLost input moment _ => (input.meanwhile.take moment).filterMap RestOfLoop.entry?

def isLoss : PoweredInput κ δ → Bool
  | .call _ => false
  | .powerLost _ _ _ => true

end PoweredInput

namespace MainLoop

section Moments
variable [IMqttClient κ] [IEventOutbox ω]

/-- The states a flush passes through. An event that was published is still queued in one of them. -/
def flushMoments (m : MainLoop κ δ ω) : List OutboxEntry → List (MainLoop κ δ ω)
  | [] => [m]
  | entry :: entries =>
    m :: (m.publish ⟨m.eventsIngest, entry.eventJson⟩ .atLeastOnce).1 ::
      (m.flushEntry entry).flushMoments entries

variable [IDedupCache δ] [ArduinoJson]

/-- The states in which power may be lost: in between, neither the outbox nor what was published
on the events topic changes. -/
def moments (m : MainLoop κ δ ω) (input : NetworkInput) : List (MainLoop κ δ ω) :=
  (List.range input.meanwhile.length).map (fun n => (input.meanwhile.take n).foldl afterRest m) ++
    match m.flushedFrom input with
    | none => []
    | some start => start.flushMoments (IEventOutbox.pending start.eventOutbox)

/-- The state in which power is lost, at the latest after the call. -/
def momentAt (m : MainLoop κ δ ω) (input : NetworkInput) (moment : Nat) : MainLoop κ δ ω :=
  (m.moments input)[moment]?.getD (m.updateNetwork input).1

end Moments

variable [IMqttClient κ] [IDedupCache δ] [ArduinoJson]

/-- The next boot builds everything again; what went over the wire has. -/
def rebooted (m : MainLoop (RecordingClient κ) δ PersistentEventOutbox) (reboot : Reboot κ δ) :
    MainLoop (RecordingClient κ) δ PersistentEventOutbox :=
  .setup m.remoteCommandProcessor.topics m.transport.config
    { client := reboot.client, exchanges := m.transport.client.exchanges } reboot.credentialStore
    reboot.provisioned reboot.dedupCache
    (.new m.eventOutbox.store m.eventOutbox.memory.capacity)

def poweredStep (m : MainLoop (RecordingClient κ) δ PersistentEventOutbox) :
    PoweredInput κ δ → MainLoop (RecordingClient κ) δ PersistentEventOutbox × Unit
  | .call input => ((m.updateNetwork input).1, ())
  | .powerLost input moment reboot => ((m.momentAt input moment).rebooted reboot, ())

section Outbox
variable {m : MainLoop κ' δ ω} [IMqttClient κ'] [IEventOutbox ω]

omit [IMqttClient κ] in
theorem flushedFrom_eventOutbox (h : m.flushedFrom input = some start) :
    start.eventOutbox = (input.meanwhile.foldl afterRest m).eventOutbox := by
  have hreadied (n : MainLoop κ' δ ω) : (n.readied input).eventOutbox = n.eventOutbox := by
    rw [readied, restoreSubscription]
    split
    · rfl
    · rfl
  rw [flushedFrom] at h
  split at h
  · cases h
  split at h
  · cases h
    exact hreadied _
  split at h
  · cases h
  split at h
  · cases h
    exact hreadied _
  · cases h

omit [IMqttClient κ] in
theorem unflushed_eventOutbox (h : m.flushedFrom input = none) :
    (m.updateNetwork input).1.eventOutbox =
      (input.meanwhile.foldl afterRest m).eventOutbox := by
  rw [flushedFrom] at h
  rw [updateNetwork]
  split at h
  next hwifi =>
    rw [if_pos hwifi, leaveNetwork]
    dsimp only
    split
    · rfl
    · rfl
  next hwifi =>
    rw [if_neg hwifi]
    split at h
    · cases h
    next hdown =>
      rw [if_neg hdown]
      split at h
      next hwait =>
        rw [if_pos hwait]
        rfl
      next hdue =>
        rw [if_neg hdue]
        split at h
        · cases h
        next hrefused =>
          rw [attemptConnect, if_neg hrefused]
          rfl

end Outbox
end MainLoop

/-- What became of the events: they are queued, were accepted by the client, or were evicted from a
full outbox; and the client accepted them in the order of enqueueing, each one again at most once
for a loss of power. -/
inductive EventsDelivered (capacity : Nat) (events : List (Bytes × Bytes)) (losses : Nat)
    (accepted : List Bytes) (queued : List (Bytes × Bytes)) : Prop where
  | intro (sent evicted : List (Bytes × Bytes)) (payloads : accepted = sent.map Prod.snd)
    (inOrder : (sent.destutter (· ≠ ·)).Sublist events)
    (repeats : sent.length ≤ (sent.destutter (· ≠ ·)).length + losses)
    (complete : ∀ e ∈ events, e ∈ queued ∨ e ∈ sent ∨ e ∈ evicted)
    (evictions : evicted.length ≤ events.length - capacity)

theorem accepted_keptByReports [IMqttClient κ] [ArduinoJson] (topics : MqttTopics)
    (payloads : List Bytes) : KeptByReports (κ := RecordingClient κ) topics fun t =>
      RecordedTransport.accepted topics.eventsIngest t = payloads where
  health t _ _ h := (RecordedTransport.accepted_publish_elsewhere _ t
    topics.healthIngest_ne_eventsIngest _).trans h
  shadow t _ h := (RecordedTransport.accepted_publish_elsewhere _ t
    topics.shadowUpdate_ne_eventsIngest _).trans h

/-- The events that were enqueued, and what became of them so far. -/
structure EventsHeld [ArduinoJson] (topics : MqttTopics) (capacity : Nat)
    (events sent evicted : List (Bytes × Bytes)) (losses : Nat)
    (m : MainLoop (RecordingClient κ) δ PersistentEventOutbox) : Prop where
  holds : MainHolds topics
    (fun t => RecordedTransport.accepted topics.eventsIngest t = sent.map Prod.snd) m
  reloadable : Reloadable capacity m.eventOutbox
  ledger : Redelivery capacity events sent evicted m.eventOutbox.memory.entries losses

namespace EventsHeld
variable [ArduinoJson] {topics : MqttTopics}
  {m n : MainLoop (RecordingClient κ) δ PersistentEventOutbox}

theorem of_eq (h : EventsHeld topics capacity events sent evicted losses m)
    (hholds : MainHolds topics (fun t => RecordedTransport.accepted topics.eventsIngest t =
      sent.map Prod.snd) n) (houtbox : n.eventOutbox = m.eventOutbox) :
    EventsHeld topics capacity events sent evicted losses n :=
  ⟨hholds, houtbox ▸ h.reloadable, houtbox ▸ h.ledger⟩

theorem setup (hc : 1 ≤ capacity) (topics : MqttTopics) (config : AwsIotConnectionConfig)
    (client : κ) (credentialStore : DeviceCredentialStore) (provisioned : Bool) (dedupCache : δ)
    (store : PersistentStore) :
    EventsHeld topics capacity (PersistentEventOutbox.new store capacity).memory.entries [] [] 0
      (.setup topics config ({ client := client } : RecordingClient κ) credentialStore provisioned
        dedupCache (.new store capacity)) :=
  ⟨.setup (P := fun t => RecordedTransport.accepted topics.eventsIngest t = []) rfl topics _ _ _ _,
    .new hc store, .start capacity _⟩

theorem lose (h : EventsHeld topics capacity events sent evicted losses m) :
    EventsHeld topics capacity events sent evicted (losses + 1) m :=
  ⟨h.holds, h.reloadable, h.ledger.lose⟩

theorem delivered (h : EventsHeld topics capacity events sent evicted losses m) :
    EventsDelivered capacity events losses
      (RecordedTransport.accepted topics.eventsIngest m.transport) m.eventOutbox.memory.entries :=
  .intro sent evicted h.holds.onTransport h.ledger.inOrder h.ledger.repeats
    (fun _ hmem => h.ledger.complete hmem) h.ledger.evictions

theorem afterRest (h : EventsHeld topics capacity events sent evicted losses m)
    (hj : ArduinoJson.RoundTrips) (hc : 1 ≤ capacity) (rest : RestOfLoop)
    (hdistinct : ((events ++ rest.entry?.toList).map Prod.fst).Nodup) :
    ∃ evicted', EventsHeld topics capacity (events ++ rest.entry?.toList) sent evicted' losses
      (m.afterRest rest) := by
  cases rest with
  | eventEnqueued entry =>
    have hnew : entry.eventId ∉ m.eventOutbox.memory.entries.map Prod.fst := by
      obtain ⟨gone, _, hevents, _⟩ := h.ledger.ledger
      intro hmem
      rw [hevents, List.map_append, List.map_append, List.nodup_append] at hdistinct
      exact hdistinct.2.2 _ (List.mem_append_right _ hmem) _ (List.mem_singleton_self _) rfl
    have hentries : (m.afterRest (.eventEnqueued entry)).eventOutbox.memory.entries =
        pushBounded capacity m.eventOutbox.memory.entries (entry.eventId, entry.eventJson) := by
      rw [← h.reloadable.wellFormed.capacity_eq]
      exact upsert_of_notMem hnew _ _
    have hpushed := h.ledger.push (entry.eventId, entry.eventJson)
    rw [← hentries] at hpushed
    exact ⟨_, h.holds.of_eq rfl,
      h.reloadable.run hj hc (.enqueue entry.eventId entry.eventJson), hpushed⟩
  | _ =>
    refine ⟨evicted, ?_⟩
    change EventsHeld topics capacity (events ++ []) sent evicted losses _
    rw [List.append_nil]
    exact h.of_eq (h.holds.of_eq rfl) rfl

theorem rest (h : EventsHeld topics capacity events sent evicted losses m)
    (hj : ArduinoJson.RoundTrips) (hc : 1 ≤ capacity) (meanwhile : List RestOfLoop)
    (hdistinct : ((events ++ meanwhile.filterMap RestOfLoop.entry?).map Prod.fst).Nodup) :
    ∃ evicted', EventsHeld topics capacity (events ++ meanwhile.filterMap RestOfLoop.entry?) sent
      evicted' losses (meanwhile.foldl MainLoop.afterRest m) := by
  induction meanwhile generalizing m events evicted with
  | nil =>
    rw [List.filterMap_nil, List.append_nil]
    exact ⟨evicted, h⟩
  | cons first meanwhile ih =>
    have hsplit : (first :: meanwhile).filterMap RestOfLoop.entry? =
        first.entry?.toList ++ meanwhile.filterMap RestOfLoop.entry? := by
      rw [List.filterMap_cons]
      cases first.entry? with
      | none => rfl
      | some entry => rfl
    rw [hsplit, ← List.append_assoc] at hdistinct ⊢
    obtain ⟨evicted', hfirst⟩ := h.afterRest hj hc first
      (hdistinct.sublist ((List.sublist_append_left _ _).map _))
    exact ih hfirst hdistinct

variable [IMqttClient κ]

/-- An event is published: the client accepts it, or nothing more will be. -/
inductive Published (topics : MqttTopics) (sent : List (Bytes × Bytes))
    (m : MainLoop (RecordingClient κ) δ PersistentEventOutbox) (entry : OutboxEntry) : Prop where
  | accepted (ok : (m.publish ⟨m.eventsIngest, entry.eventJson⟩ .atLeastOnce).2 = true)
      (holds : MainHolds topics (fun t => RecordedTransport.accepted topics.eventsIngest t =
        (sent ++ [(entry.eventId, entry.eventJson)]).map Prod.snd)
        (m.publish ⟨m.eventsIngest, entry.eventJson⟩ .atLeastOnce).1)
  | refused (ok : (m.publish ⟨m.eventsIngest, entry.eventJson⟩ .atLeastOnce).2 = false)
      (holds : MainHolds topics (fun t => RecordedTransport.accepted topics.eventsIngest t =
        sent.map Prod.snd) (m.publish ⟨m.eventsIngest, entry.eventJson⟩ .atLeastOnce).1)
      (refuses : RecordedTransport.Refuses
        (m.publish ⟨m.eventsIngest, entry.eventJson⟩ .atLeastOnce).1.transport)

theorem published (h : EventsHeld topics capacity events sent evicted losses m)
    (entry : OutboxEntry) : Published topics sent m entry := by
  have htopic : m.eventsIngest = topics.eventsIngest :=
    congrArg MqttTopics.eventsIngest h.holds.answers.onTopics
  have hbefore : RecordedTransport.accepted topics.eventsIngest m.transport = sent.map Prod.snd :=
    h.holds.onTransport
  have haccepted : RecordedTransport.accepted topics.eventsIngest
      (m.transport.publish ⟨m.eventsIngest, entry.eventJson⟩ .atLeastOnce).transport =
        sent.map Prod.snd ++
          if (m.transport.publish ⟨m.eventsIngest, entry.eventJson⟩ .atLeastOnce).ok then
            [entry.eventJson] else [] := by
    rw [← hbefore, ← htopic]
    exact RecordedTransport.accepted_publish_here m.transport _ _ _
  have hrefused (hok : (m.transport.publish ⟨m.eventsIngest, entry.eventJson⟩
      .atLeastOnce).ok = false) (hrefuses : RecordedTransport.Refuses (m.transport.publish
        ⟨m.eventsIngest, entry.eventJson⟩ .atLeastOnce).transport) :
      Published topics sent m entry := by
    rw [hok, if_neg Bool.false_ne_true, List.append_nil] at haccepted
    rw [← MainLoop.returned_transport] at hrefuses
    exact .refused hok (h.holds.returned haccepted) hrefuses
  cases RecordedTransport.publishStep m.transport ⟨m.eventsIngest, entry.eventJson⟩
      .atLeastOnce with
  | accepted hok _ =>
    rw [hok, if_pos rfl] at haccepted
    refine .accepted hok (h.holds.returned ?_)
    rw [List.map_append]
    exact haccepted
  | failed hok _ hrefuses => exact hrefused hok hrefuses
  | unasked hok _ _ hrefuses => exact hrefused hok hrefuses

omit [IMqttClient κ] in
theorem dequeue (h : EventsHeld topics capacity events sent evicted losses m)
    (hj : ArduinoJson.RoundTrips) (hc : 1 ≤ capacity) (hdistinct : events.Nodup)
    (hentries : m.eventOutbox.memory.entries = row :: rows)
    (hholds : MainHolds topics (fun t => RecordedTransport.accepted topics.eventsIngest t =
      (sent ++ [row]).map Prod.snd) n) (houtbox : n.eventOutbox = m.eventOutbox.dequeue row.1) :
    EventsHeld topics capacity events (sent ++ [row]) evicted losses n ∧
      n.eventOutbox.memory.entries = rows := by
  have hrest : n.eventOutbox.memory.entries = rows := by
    have hunique := h.reloadable.wellFormed.unique
    rw [hentries] at hunique
    rw [houtbox]
    change m.eventOutbox.memory.entries.filter _ = rows
    rw [hentries]
    exact filter_key_cons hunique
  have hledger := h.ledger
  rw [hentries] at hledger
  refine ⟨⟨hholds, ?_, ?_⟩, hrest⟩
  · rw [houtbox]
    exact h.reloadable.run hj hc (.dequeue row.1)
  · rw [hrest]
    exact hledger.deliver hdistinct

omit [IMqttClient κ] in
theorem interrupt (h : EventsHeld topics capacity events sent evicted losses m)
    (hdistinct : events.Nodup) (hentries : m.eventOutbox.memory.entries = row :: rows)
    (hholds : MainHolds topics (fun t => RecordedTransport.accepted topics.eventsIngest t =
      (sent ++ [row]).map Prod.snd) n) (houtbox : n.eventOutbox = m.eventOutbox) :
    EventsHeld topics capacity events (sent ++ [row]) evicted (losses + 1) n := by
  have hledger := h.ledger
  rw [hentries] at hledger
  refine ⟨hholds, houtbox ▸ h.reloadable, ?_⟩
  rw [houtbox, hentries]
  exact hledger.interrupt hdistinct

/-- These rows are what is left to flush, or nothing will be. -/
def Remaining (m : MainLoop (RecordingClient κ) δ PersistentEventOutbox)
    (rows : List (Bytes × Bytes)) : Prop :=
  RecordedTransport.Refuses m.transport ∨ m.eventOutbox.memory.entries = rows

omit [ArduinoJson] in
theorem refused_of_refuses {row : Bytes × Bytes} (hrefuses : RecordedTransport.Refuses m.transport)
    (hstays : StaysDisconnected κ) :
    (m.publish ⟨m.eventsIngest, row.2⟩ .atLeastOnce).2 = false :=
  (hrefuses.publish hstays ⟨m.eventsIngest, row.2⟩ .atLeastOnce).1

section Flush
variable {capacity : Nat} {events : List (Bytes × Bytes)} (hj : ArduinoJson.RoundTrips)
  (hc : 1 ≤ capacity) (hstays : StaysDisconnected κ) (hdistinct : events.Nodup)
include hj hc hstays hdistinct

theorem flushEntry (h : EventsHeld topics capacity events sent evicted losses m)
    (hremaining : Remaining m (row :: rows)) :
    ∃ sent', EventsHeld topics capacity events sent' evicted losses
        (m.flushEntry ⟨row.1, row.2⟩) ∧ Remaining (m.flushEntry ⟨row.1, row.2⟩) rows := by
  rw [MainLoop.flushEntry]
  dsimp only
  cases h.published ⟨row.1, row.2⟩ with
  | accepted hok hholds =>
    rcases hremaining with hrefuses | hentries
    · exact absurd ((refused_of_refuses hrefuses hstays).symm.trans hok) Bool.false_ne_true
    · rw [MainLoop.eventsIngest] at hok hholds
      rw [if_pos hok]
      obtain ⟨hheld, hrest⟩ := h.dequeue hj hc hdistinct hentries
        (n := { (m.publish _ _).1 with eventOutbox := m.eventOutbox.dequeue row.1 })
        (hholds.of_eq rfl) rfl
      exact ⟨_, hheld, .inr hrest⟩
  | refused hok hholds hrefuses =>
    rw [MainLoop.eventsIngest] at hok hholds hrefuses
    rw [if_neg (Bool.eq_false_iff.mp hok)]
    exact ⟨sent, h.of_eq hholds rfl, .inl hrefuses⟩

theorem flush (h : EventsHeld topics capacity events sent evicted losses m)
    (hremaining : Remaining m rows) :
    ∃ sent', EventsHeld topics capacity events sent' evicted losses
      ((rows.map fun row => ⟨row.1, row.2⟩).foldl MainLoop.flushEntry m) := by
  induction rows generalizing m sent with
  | nil => exact ⟨sent, h⟩
  | cons row rows ih =>
    obtain ⟨sent', hflushed, hremaining⟩ := h.flushEntry hj hc hstays hdistinct hremaining
    exact ih hflushed hremaining

/-- Wherever the flush is cut, one loss of power accounts for what is sent again. -/
theorem flushMoments (h : EventsHeld topics capacity events sent evicted losses m)
    (hremaining : Remaining m rows) :
    ∀ n ∈ m.flushMoments (rows.map fun row => ⟨row.1, row.2⟩),
      ∃ sent', EventsHeld topics capacity events sent' evicted (losses + 1) n := by
  induction rows generalizing m sent with
  | nil =>
    rw [List.map_nil, MainLoop.flushMoments, List.forall_mem_singleton]
    exact ⟨sent, h.lose⟩
  | cons row rows ih =>
    rw [List.map_cons, MainLoop.flushMoments, List.forall_mem_cons, List.forall_mem_cons]
    refine ⟨⟨sent, h.lose⟩, ?_, ?_⟩
    · cases h.published ⟨row.1, row.2⟩ with
      | accepted hok hholds =>
        rcases hremaining with hrefuses | hentries
        · exact absurd ((refused_of_refuses hrefuses hstays).symm.trans hok) Bool.false_ne_true
        · exact ⟨_, h.interrupt hdistinct hentries hholds rfl⟩
      | refused hok hholds hrefuses => exact ⟨sent, (h.of_eq hholds rfl).lose⟩
    · obtain ⟨sent', hflushed, hremaining⟩ := h.flushEntry hj hc hstays hdistinct hremaining
      exact ih hflushed hremaining

end Flush

omit [IMqttClient κ] in
theorem rebooted (h : EventsHeld topics capacity events sent evicted losses m)
    (reboot : Reboot κ δ) :
    EventsHeld topics capacity events sent evicted losses (m.rebooted reboot) := by
  have houtbox : (m.rebooted reboot).eventOutbox = m.eventOutbox := by
    change PersistentEventOutbox.new m.eventOutbox.store m.eventOutbox.memory.capacity = _
    rw [h.reloadable.wellFormed.capacity_eq]
    exact h.reloadable.rebooted
  refine h.of_eq ?_ houtbox
  rw [MainLoop.rebooted, h.holds.answers.onTopics]
  exact .setup h.holds.onTransport topics _ _ _ _

section Step
variable [IDedupCache δ] (hj : ArduinoJson.RoundTrips) (hc : 1 ≤ capacity)
  (hstays : StaysDisconnected κ)
include hj hc hstays

theorem call (h : EventsHeld topics capacity events sent evicted losses m) (input : NetworkInput)
    (hdistinct : ((events ++ input.meanwhile.filterMap RestOfLoop.entry?).map Prod.fst).Nodup) :
    ∃ sent' evicted', EventsHeld topics capacity
      (events ++ input.meanwhile.filterMap RestOfLoop.entry?) sent' evicted' losses
        (m.updateNetwork input).1 := by
  have hP := MainHolds.accepted_keptByLoop (κ := κ) topics
    topics.responsesIngest_ne_eventsIngest (sent.map Prod.snd)
  obtain ⟨evicted', hrest⟩ := h.rest hj hc input.meanwhile hdistinct
  cases hstart : m.flushedFrom input with
  | none =>
    exact ⟨sent, evicted', hrest.of_eq (h.holds.unflushed hP hstart)
      (MainLoop.unflushed_eventOutbox hstart)⟩
  | some start =>
    have hstarted := hrest.of_eq (h.holds.flushedFrom hP hstart)
      (MainLoop.flushedFrom_eventOutbox hstart)
    obtain ⟨sent', hflushed⟩ := hstarted.flush hj hc hstays (.of_map _ hdistinct) (.inr rfl)
    have hP' := accepted_keptByReports (κ := κ) topics (sent'.map Prod.snd)
    rw [MainLoop.updateNetwork_flushed hstart]
    exact ⟨sent', evicted', hflushed.of_eq (hflushed.holds.reportHealth hP' _ _)
      (MainLoop.reportHealth_eventOutbox _ _ _)⟩

/-- Wherever power is lost, at most one event was published and is still queued. -/
theorem momentAt (h : EventsHeld topics capacity events sent evicted losses m)
    (input : NetworkInput) (moment : Nat) (hdistinct : ((events ++
      (input.meanwhile.take moment).filterMap RestOfLoop.entry?).map Prod.fst).Nodup) :
    ∃ sent' evicted', EventsHeld topics capacity
      (events ++ (input.meanwhile.take moment).filterMap RestOfLoop.entry?) sent' evicted'
        (losses + 1) (m.momentAt input moment) := by
  by_cases hrest : moment < input.meanwhile.length
  · obtain ⟨evicted', hheld⟩ := h.rest hj hc (input.meanwhile.take moment) hdistinct
    have hmoment : (m.moments input)[moment]? =
        some ((input.meanwhile.take moment).foldl MainLoop.afterRest m) := by
      rw [MainLoop.moments, List.getElem?_append_left, List.getElem?_map, List.getElem?_range hrest]
      · rfl
      · rw [List.length_map, List.length_range]
        exact hrest
    rw [MainLoop.momentAt, hmoment]
    exact ⟨sent, evicted', hheld.lose⟩
  · rw [List.take_of_length_le (Nat.le_of_not_lt hrest)] at hdistinct ⊢
    have hcall : ∃ sent' evicted', EventsHeld topics capacity
        (events ++ input.meanwhile.filterMap RestOfLoop.entry?) sent' evicted' (losses + 1)
          (m.updateNetwork input).1 := by
      obtain ⟨sent', evicted', hheld⟩ := h.call hj hc hstays input hdistinct
      exact ⟨sent', evicted', hheld.lose⟩
    have hlength : ((List.range input.meanwhile.length).map fun n =>
        (input.meanwhile.take n).foldl MainLoop.afterRest m).length ≤ moment := by
      rw [List.length_map, List.length_range]
      exact Nat.le_of_not_lt hrest
    rw [MainLoop.momentAt, MainLoop.moments, List.getElem?_append_right hlength]
    cases hstart : m.flushedFrom input with
    | none => exact hcall
    | some start =>
      dsimp only
      generalize moment - _ = index
      cases hmoment : (start.flushMoments (IEventOutbox.pending start.eventOutbox))[index]? with
      | none => exact hcall
      | some n =>
        have hP := MainHolds.accepted_keptByLoop (κ := κ) topics
          topics.responsesIngest_ne_eventsIngest (sent.map Prod.snd)
        obtain ⟨evicted', hheld⟩ := h.rest hj hc input.meanwhile hdistinct
        have hstarted := hheld.of_eq (h.holds.flushedFrom hP hstart)
          (MainLoop.flushedFrom_eventOutbox hstart)
        obtain ⟨sent', hn⟩ := hstarted.flushMoments hj hc hstays (.of_map _ hdistinct)
          (.inr rfl) n (List.mem_of_getElem? hmoment)
        exact ⟨sent', evicted', hn⟩

theorem poweredStep (h : EventsHeld topics capacity events sent evicted losses m)
    (input : PoweredInput κ δ)
    (hdistinct : ((events ++ input.enqueued).map Prod.fst).Nodup) :
    ∃ sent' evicted', EventsHeld topics capacity (events ++ input.enqueued) sent' evicted'
      (losses + input.isLoss.toNat) (m.poweredStep input).1 := by
  cases input with
  | call input => exact h.call hj hc hstays input hdistinct
  | powerLost input moment reboot =>
    obtain ⟨sent', evicted', hheld⟩ := h.momentAt hj hc hstays input moment hdistinct
    exact ⟨sent', evicted', hheld.rebooted reboot⟩

theorem poweredRun (h : EventsHeld topics capacity events sent evicted losses m)
    (inputs : List (PoweredInput κ δ))
    (hdistinct : ((events ++ inputs.flatMap PoweredInput.enqueued).map Prod.fst).Nodup) :
    ∃ sent' evicted', EventsHeld topics capacity (events ++ inputs.flatMap PoweredInput.enqueued)
      sent' evicted' (losses + inputs.countP PoweredInput.isLoss)
        (finalState MainLoop.poweredStep m inputs) := by
  induction inputs generalizing m events sent evicted losses with
  | nil =>
    rw [List.flatMap_nil, List.append_nil]
    exact ⟨sent, evicted, h⟩
  | cons input inputs ih =>
    rw [List.flatMap_cons, ← List.append_assoc] at hdistinct ⊢
    obtain ⟨sent', evicted', hstep⟩ := h.poweredStep hj hc hstays input
      (hdistinct.sublist ((List.sublist_append_left _ _).map _))
    obtain ⟨sent'', evicted'', hrun⟩ := ih hstep hdistinct
    have hcount : losses + (input :: inputs).countP PoweredInput.isLoss =
        losses + input.isLoss.toNat + inputs.countP PoweredInput.isLoss := by
      rw [List.countP_cons, Nat.add_assoc, Nat.add_comm input.isLoss.toNat]
      cases input.isLoss with
      | true => rfl
      | false => rfl
    rw [hcount]
    exact ⟨sent'', evicted'', hrun⟩

end Step
end EventsHeld

/-- Over every run of `updateNetwork` whose client does not come back by itself, with power lost at
any moment of it and any number of times: every event that was in the store or enqueued is still
queued, was accepted by the client, or was evicted by more events than the outbox holds; and what
the client accepted is in order, with an event again only where power was lost. -/
theorem events_survivePowerLoss [IMqttClient κ] [IDedupCache δ] [ArduinoJson]
    (hj : ArduinoJson.RoundTrips) (hc : 1 ≤ capacity) (hstays : StaysDisconnected κ)
    (topics : MqttTopics) (config : AwsIotConnectionConfig) (boot : Reboot κ δ)
    (store : PersistentStore) (inputs : List (PoweredInput κ δ)) :
    let outbox := PersistentEventOutbox.new store capacity
    let m := MainLoop.setup topics config ({ client := boot.client } : RecordingClient κ)
      boot.credentialStore boot.provisioned boot.dedupCache outbox
    let events := outbox.memory.entries ++ inputs.flatMap PoweredInput.enqueued
    (events.map Prod.fst).Nodup →
      EventsDelivered capacity events (inputs.countP PoweredInput.isLoss)
        (RecordedTransport.accepted topics.eventsIngest
          (finalState MainLoop.poweredStep m inputs).transport)
        (finalState MainLoop.poweredStep m inputs).eventOutbox.memory.entries := by
  intro outbox m events hdistinct
  have hsetup := EventsHeld.setup hc topics config boot.client boot.credentialStore
    boot.provisioned boot.dedupCache store
  obtain ⟨sent, evicted, hrun⟩ := hsetup.poweredRun hj hc hstays inputs hdistinct
  rw [Nat.zero_add] at hrun
  exact hrun.delivered

/-- A boot that finds credentials and a broker. -/
def bootOnline : Reboot DroppingClient InMemoryDedupCache where
  client := ⟨[true, true, true, true], false⟩
  credentialStore := provisionedCredentials
  provisioned := true
  dedupCache := .new kDefaultDedupCacheCapacity

/-- Power is lost after the first of two events was accepted, and the device comes back. -/
def lostAfterPublish : List (PoweredInput DroppingClient InMemoryDedupCache) :=
  [.powerLost { MainLoop.callAt 0 ⟨0, 0, 0, 0⟩ with
      meanwhile := [.wifiBegun, .eventEnqueued ⟨ascii "evt-1", ascii "ring"⟩,
        .eventEnqueued ⟨ascii "evt-2", ascii "end"⟩] } 4 bootOnline,
    .call { MainLoop.callAt 0 ⟨0, 0, 0, 0⟩ with meanwhile := [.wifiBegun] }]

def lostAfterPublishFinal :
    MainLoop (RecordingClient DroppingClient) InMemoryDedupCache PersistentEventOutbox :=
  letI := compactJson
  finalState MainLoop.poweredStep (.setup provisionedTopics Esp32AwsIotTransport.awsConfig
    { client := bootOnline.client } bootOnline.credentialStore true bootOnline.dedupCache
    (.new .empty 32)) lostAfterPublish

/-- The first event is accepted twice. -/
theorem lostAfterPublish_delivered :
    RecordedTransport.accepted provisionedTopics.eventsIngest lostAfterPublishFinal.transport =
        [ascii "ring", ascii "ring", ascii "end"] ∧
      EventsDelivered 32 [(ascii "evt-1", ascii "ring"), (ascii "evt-2", ascii "end")] 1
        (RecordedTransport.accepted provisionedTopics.eventsIngest lostAfterPublishFinal.transport)
        lostAfterPublishFinal.eventOutbox.memory.entries :=
  letI := compactJson
  ⟨by decide +kernel, events_survivePowerLoss compactJson_roundTrips (by decide)
    droppingClient_staysDisconnected provisionedTopics Esp32AwsIotTransport.awsConfig bootOnline
    .empty lostAfterPublish (by decide +kernel)⟩

end InterBridge
