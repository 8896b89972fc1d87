import InterBridge.Dev.DevRingEvent
import InterBridge.Foundations.FifoDelivery
import InterBridge.Foundations.Transitions

namespace InterBridge
open Foundations
set_option autoImplicit true

/-- A `MemoryEventOutbox` with a record of what went in and of the two ways in which entries left:
by `dequeue` and by eviction. -/
structure OutboxLog where
  outbox : MemoryEventOutbox
  enqueued : List (Bytes × Bytes) := []
  dequeued : List (Bytes × Bytes) := []
  evicted : List (Bytes × Bytes) := []

namespace OutboxLog

def entries (log : OutboxLog) : List (Bytes × Bytes) := log.outbox.entries

def enqueue (log : OutboxLog) (eventId eventJson : Bytes) : OutboxLog :=
  { log with
    outbox := log.outbox.enqueue eventId eventJson
    enqueued := log.enqueued ++ [(eventId, eventJson)]
    evicted := log.evicted ++
      if eventId ∈ log.entries.map Prod.fst then []
      else droppedBy log.outbox.capacity log.entries }

def dequeue (log : OutboxLog) (eventId : Bytes) : OutboxLog :=
  { log with
    outbox := log.outbox.dequeue eventId
    dequeued := log.dequeued ++ log.entries.filter fun entry => entry.1 = eventId }

instance : IEventOutbox OutboxLog := ⟨enqueue, fun log => log.outbox.pending, dequeue⟩

theorem enqueue_entries {log : OutboxLog} (h : eventId ∉ log.entries.map Prod.fst)
    (eventJson : Bytes) :
    (log.enqueue eventId eventJson).entries =
      pushBounded log.outbox.capacity log.entries (eventId, eventJson) :=
  upsert_of_notMem h _ _

theorem enqueue_evicted {log : OutboxLog} (h : eventId ∉ log.entries.map Prod.fst)
    (eventJson : Bytes) :
    (log.enqueue eventId eventJson).evicted =
      log.evicted ++ droppedBy log.outbox.capacity log.entries := by
  rw [enqueue, if_neg h]

theorem dequeue_front {log : OutboxLog} (h : log.entries = entry :: rest)
    (hn : (log.entries.map Prod.fst).Nodup) :
    (log.dequeue entry.1).entries = rest ∧
      (log.dequeue entry.1).dequeued = log.dequeued ++ [entry] := by
  have hrest := filter_key_cons (h ▸ hn)
  rw [h, List.map_cons, List.nodup_cons] at hn
  constructor
  · change log.entries.filter (fun row => row.1 ≠ entry.1) = rest
    rw [h]
    exact hrest
  · have hnone : rest.filter (fun row => row.1 = entry.1) = [] := by
      apply List.filter_eq_nil_iff.mpr
      intro row hrow
      rw [decide_eq_true_iff]
      exact fun he => hn.1 (he ▸ List.mem_map_of_mem hrow)
    rw [dequeue, h, List.filter_cons_of_pos (by simp), hnone]

end OutboxLog

/-- A transport with a record of the messages that it published. -/
structure PublishLog (τ : Type) where
  transport : τ
  published : List MqttMessage := []

instance [IDeviceTransport τ] : IDeviceTransport (PublishLog τ) where
  publish log message qos :=
    let reply := IDeviceTransport.publish log.transport message qos
    ⟨⟨reply.transport, if reply.ok then log.published ++ [message] else log.published⟩,
      reply.inbound, reply.ok⟩
  subscribe log topic qos :=
    let reply := IDeviceTransport.subscribe log.transport topic qos
    ⟨⟨reply.transport, log.published⟩, reply.inbound, reply.ok⟩

/-- From `before` to `after` the first `n` entries were published and dequeued, and nothing else
happened to the outbox. -/
structure PublishedFront (topic : Bytes) (n : Nat) (outbox outbox' : OutboxLog)
    (transport transport' : PublishLog τ) : Prop where
  bounded : n ≤ outbox.entries.length
  entries : outbox'.entries = outbox.entries.drop n
  dequeued : outbox'.dequeued = outbox.dequeued ++ outbox.entries.take n
  enqueued : outbox'.enqueued = outbox.enqueued
  evicted : outbox'.evicted = outbox.evicted
  published : transport'.published =
    transport.published ++ (outbox.entries.take n).map fun entry => ⟨topic, entry.2⟩

theorem PublishedFront.none (topic : Bytes) (outbox : OutboxLog)
    {transport transport' : PublishLog τ} (h : transport'.published = transport.published) :
    PublishedFront topic 0 outbox outbox transport transport' where
  bounded := Nat.zero_le _
  entries := by rw [List.drop_zero]
  dequeued := by rw [List.take_zero, List.append_nil]
  enqueued := rfl
  evicted := rfl
  published := by rw [List.take_zero, List.map_nil, List.append_nil, h]

theorem PublishedFront.next {outbox : OutboxLog} {transport transport₁ transport' : PublishLog τ}
    (hentries : outbox.entries = entry :: rest) (hn : (outbox.entries.map Prod.fst).Nodup)
    (hpublished : transport₁.published = transport.published ++ [⟨topic, entry.2⟩])
    (h : PublishedFront topic n (outbox.dequeue entry.1) outbox' transport₁ transport') :
    PublishedFront topic (n + 1) outbox outbox' transport transport' := by
  obtain ⟨hrest, hdequeued⟩ := OutboxLog.dequeue_front hentries hn
  constructor
  · rw [hentries, List.length_cons]
    exact Nat.succ_le_succ (hrest ▸ h.bounded)
  · rw [h.entries, hrest, hentries, List.drop_succ_cons]
  · rw [h.dequeued, hdequeued, hrest, hentries, List.take_succ_cons, List.append_assoc,
      List.singleton_append]
  · exact h.enqueued
  · exact h.evicted
  · rw [h.published, hpublished, hrest, hentries, List.take_succ_cons, List.map_cons,
      List.append_assoc, List.singleton_append]

section Publish
variable [IDeviceTransport τ]

theorem publishEach_enqueued (topic : Bytes) (p : EventPublication OutboxLog (PublishLog τ))
    (entries : List OutboxEntry) :
    (publishEach topic p entries).outbox.enqueued = p.outbox.enqueued := by
  induction entries generalizing p with
  | nil => rfl
  | cons entry rest ih =>
    cases hok : (IDeviceTransport.publish p.transport ⟨topic, entry.eventJson⟩ .atLeastOnce).ok with
    | false => rw [publishEach_refused hok]
    | true =>
      rw [publishEach_accepted hok, ih]
      rfl

theorem publishEach_front (topic : Bytes) (p : EventPublication OutboxLog (PublishLog τ))
    (hn : (p.outbox.entries.map Prod.fst).Nodup) :
    ∃ n, (publishEach topic p p.outbox.outbox.pending).publishedCount = p.publishedCount + n ∧
      PublishedFront topic n p.outbox (publishEach topic p p.outbox.outbox.pending).outbox
        p.transport (publishEach topic p p.outbox.outbox.pending).transport := by
  have hpending : p.outbox.outbox.pending =
      p.outbox.entries.map fun entry => ⟨entry.1, entry.2⟩ := rfl
  rw [hpending]
  generalize hentries : p.outbox.entries = rows
  induction rows generalizing p with
  | nil => exact ⟨0, rfl, .none topic p.outbox rfl⟩
  | cons entry rest ih =>
    rw [List.map_cons]
    cases hok : (IDeviceTransport.publish p.transport ⟨topic, entry.2⟩ .atLeastOnce).ok with
    | false =>
      rw [publishEach_refused hok]
      refine ⟨0, rfl, .none topic p.outbox ?_⟩
      exact if_neg (Bool.eq_false_iff.mp hok)
    | true =>
      obtain ⟨hrest, _⟩ := OutboxLog.dequeue_front hentries hn
      have hkeys : ((p.outbox.dequeue entry.1).entries.map Prod.fst).Nodup := by
        rw [hentries, List.map_cons, List.nodup_cons] at hn
        rw [hrest]
        exact hn.2
      rw [publishEach_accepted hok]
      obtain ⟨n, hcount, hfront⟩ := ih ⟨p.outbox.dequeue entry.1, _, _, _⟩ hkeys rfl hrest
      exact ⟨n + 1, hcount.trans (Nat.add_right_comm _ 1 n),
        hfront.next hentries hn (if_pos hok)⟩

theorem publishPendingEvents_front (outbox : OutboxLog) (transport : PublishLog τ) (topic : Bytes)
    (hn : (outbox.entries.map Prod.fst).Nodup) :
    PublishedFront topic (publishPendingEvents outbox transport topic).publishedCount outbox
      (publishPendingEvents outbox transport topic).outbox transport
      (publishPendingEvents outbox transport topic).transport := by
  obtain ⟨n, hcount, hfront⟩ := publishEach_front topic ⟨outbox, transport, [], 0⟩ hn
  rw [Nat.zero_add] at hcount
  exact hcount ▸ hfront

/-- What was enqueued is still there, or was evicted, or was published in the order of enqueueing
and then dequeued. -/
structure Accounted (outbox : OutboxLog) (transport : PublishLog τ) : Prop where
  ledger : FifoLedger outbox.enqueued outbox.dequeued outbox.evicted outbox.entries
  payloads : transport.published.map MqttMessage.payload = outbox.dequeued.map Prod.snd

omit [IDeviceTransport τ] in
theorem Accounted.keys_nodup {transport : PublishLog τ} (h : Accounted outbox transport)
    (hdistinct : ((outbox.enqueued ++ more).map Prod.fst).Nodup) :
    (outbox.entries.map Prod.fst).Nodup := by
  apply List.Nodup.sublist _ hdistinct
  exact (h.ledger.queue_sublist.trans (List.sublist_append_left _ _)).map _

omit [IDeviceTransport τ] in
theorem Accounted.notMem_of_fresh {transport : PublishLog τ} (h : Accounted outbox transport)
    (hdistinct : ((outbox.enqueued ++ [(eventId, eventJson)]).map Prod.fst).Nodup) :
    eventId ∉ outbox.entries.map Prod.fst := by
  rw [List.map_append, List.map_singleton, List.nodup_append] at hdistinct
  intro hmem
  have hold := (h.ledger.queue_sublist.map Prod.fst).mem hmem
  exact hdistinct.2.2 eventId hold eventId List.mem_cons_self rfl

omit [IDeviceTransport τ] in
theorem Accounted.enqueue {transport : PublishLog τ} (h : Accounted outbox transport)
    (hdistinct : ((outbox.enqueued ++ [(eventId, eventJson)]).map Prod.fst).Nodup) :
    Accounted (outbox.enqueue eventId eventJson) transport := by
  have hnew := h.notMem_of_fresh hdistinct
  constructor
  · rw [OutboxLog.enqueue_entries hnew, OutboxLog.enqueue_evicted hnew]
    exact h.ledger.push _ _
  · exact h.payloads

theorem Accounted.publishPendingEvents {transport : PublishLog τ} (h : Accounted outbox transport)
    (hdistinct : ((outbox.enqueued ++ more).map Prod.fst).Nodup) (topic : Bytes) :
    Accounted (publishPendingEvents outbox transport topic).outbox
      (InterBridge.publishPendingEvents outbox transport topic).transport := by
  have hfront := publishPendingEvents_front outbox transport topic (h.keys_nodup hdistinct)
  constructor
  · rw [hfront.enqueued, hfront.dequeued, hfront.evicted, hfront.entries]
    have hledger := h.ledger
    rw [← List.take_append_drop (InterBridge.publishPendingEvents outbox transport
      topic).publishedCount outbox.entries] at hledger
    exact hledger.deliver
  · rw [hfront.published, hfront.dequeued, List.map_append, List.map_append, h.payloads,
      List.map_map]
    rfl

end Publish

/-- An outbox with the transport it is published over. -/
structure OutboxSession (τ : Type) where
  outbox : OutboxLog
  transport : PublishLog τ

inductive OutboxCall where
  | enqueue (eventId eventJson : Bytes)
  | publishPendingEvents (topic : Bytes)

def OutboxCall.entry? : OutboxCall → Option (Bytes × Bytes)
  | .enqueue eventId eventJson => some (eventId, eventJson)
  | .publishPendingEvents _ => none

theorem OutboxCall.entries_concat (calls : List OutboxCall) (call : OutboxCall) :
    (calls ++ [call]).filterMap entry? = calls.filterMap entry? ++ call.entry?.toList := by
  rw [List.filterMap_append]
  cases call with
  | enqueue eventId eventJson => rfl
  | publishPendingEvents topic => rfl

abbrev OutboxTransition (τ : Type) := Transition (OutboxSession τ) OutboxCall Nat

namespace OutboxSession

/-- An outbox of that capacity before any call, and the transport as it is. -/
def fresh (capacity : Nat) (transport : τ) : OutboxSession τ :=
  ⟨{ outbox := { capacity := capacity } }, { transport := transport }⟩

/-- The returned count is the output; `enqueue` returns nothing. -/
def step [IDeviceTransport τ] (s : OutboxSession τ) : OutboxCall → OutboxSession τ × Nat
  | .enqueue eventId eventJson => ({ s with outbox := s.outbox.enqueue eventId eventJson }, 0)
  | .publishPendingEvents topic =>
    let p := InterBridge.publishPendingEvents s.outbox s.transport topic
    (⟨p.outbox, p.transport⟩, p.publishedCount)

end OutboxSession

/-- The entry was published in this step. -/
def OutboxTransition.Published (t : OutboxTransition τ) (entry : Bytes × Bytes) : Prop :=
  (∃ topic, t.input = .publishPendingEvents topic) ∧
    entry ∈ t.before.outbox.entries.take t.output

/-- The entry was the oldest one when another was enqueued on a full outbox. -/
def OutboxTransition.Evicted (t : OutboxTransition τ) (entry : Bytes × Bytes) : Prop :=
  (∃ eventId eventJson, t.input = .enqueue eventId eventJson) ∧
    t.before.outbox.outbox.capacity ≤ t.before.outbox.entries.length ∧
    t.before.outbox.entries.head? = some entry

/-- Delivery from the outbox over a run `ts` of `calls` that ends in `s`. -/
structure FifoDelivery [IDeviceTransport τ] (calls : List OutboxCall)
    (ts : List (OutboxTransition τ)) (s : OutboxSession τ) : Prop where
  inOrder : s.outbox.dequeued.Sublist (calls.filterMap OutboxCall.entry?)
  once : (s.outbox.dequeued.map Prod.fst).Nodup
  payloads : s.transport.published.map MqttMessage.payload = s.outbox.dequeued.map Prod.snd
  leaves : ∀ t ∈ ts, ∀ entry ∈ t.before.outbox.entries, entry ∉ t.after.outbox.entries →
    OutboxTransition.Published t entry ∨ OutboxTransition.Evicted t entry
  front : ∀ t ∈ ts, ∀ topic, t.input = .publishPendingEvents topic →
    PublishedFront topic t.output t.before.outbox t.after.outbox t.before.transport
      t.after.transport

namespace OutboxSession
variable [IDeviceTransport τ]

/-- The step keeps to the order of enqueueing, with the new entry's id not seen before. -/
theorem step_accounted {s : OutboxSession τ} (h : Accounted s.outbox s.transport)
    (hdistinct : ((s.outbox.enqueued ++ call.entry?.toList).map Prod.fst).Nodup) :
    (s.step call).1.outbox.enqueued = s.outbox.enqueued ++ call.entry?.toList ∧
      Accounted (s.step call).1.outbox (s.step call).1.transport := by
  cases call with
  | enqueue eventId eventJson => exact ⟨rfl, h.enqueue hdistinct⟩
  | publishPendingEvents topic =>
    have hfront := publishPendingEvents_front s.outbox s.transport topic (h.keys_nodup hdistinct)
    refine ⟨?_, h.publishPendingEvents hdistinct topic⟩
    exact hfront.enqueued.trans (List.append_nil _).symm

theorem step_front {s : OutboxSession τ} (h : Accounted s.outbox s.transport)
    (hdistinct : (s.outbox.enqueued.map Prod.fst).Nodup) (topic : Bytes) :
    PublishedFront topic (s.step (.publishPendingEvents topic)).2 s.outbox
      (s.step (.publishPendingEvents topic)).1.outbox s.transport
      (s.step (.publishPendingEvents topic)).1.transport := by
  rw [← List.append_nil s.outbox.enqueued] at hdistinct
  exact publishPendingEvents_front s.outbox s.transport topic (h.keys_nodup hdistinct)

theorem step_leaves {s : OutboxSession τ} (h : Accounted s.outbox s.transport)
    (hdistinct : ((s.outbox.enqueued ++ call.entry?.toList).map Prod.fst).Nodup)
    (hmem : entry ∈ s.outbox.entries) (hlost : entry ∉ (s.step call).1.outbox.entries) :
    OutboxTransition.Published (.of step s call) entry ∨
      OutboxTransition.Evicted (.of step s call) entry := by
  cases call with
  | enqueue eventId eventJson =>
    refine .inr ⟨⟨eventId, eventJson, rfl⟩, ?_⟩
    change entry ∉ (s.outbox.enqueue eventId eventJson).entries at hlost
    rw [OutboxLog.enqueue_entries (h.notMem_of_fresh hdistinct)] at hlost
    exact head_of_lost hmem hlost
  | publishPendingEvents topic =>
    refine .inl ⟨⟨topic, rfl⟩, ?_⟩
    have hfront := step_front h (hdistinct.sublist ((List.sublist_append_left _ _).map _)) topic
    rw [hfront.entries] at hlost
    rw [← List.take_append_drop (s.step (.publishPendingEvents topic)).2 s.outbox.entries,
      List.mem_append] at hmem
    exact hmem.resolve_right hlost

theorem accounted_run (capacity : Nat) (transport : τ) (calls : List OutboxCall)
    (hdistinct : ((calls.filterMap OutboxCall.entry?).map Prod.fst).Nodup) :
    (finalState step (fresh capacity transport) calls).outbox.enqueued =
        calls.filterMap OutboxCall.entry? ∧
      Accounted (finalState step (fresh capacity transport) calls).outbox
        (finalState step (fresh capacity transport) calls).transport := by
  induction calls using List.reverseRecOn with
  | nil => exact ⟨rfl, .start, rfl⟩
  | append_singleton calls call ih =>
    rw [OutboxCall.entries_concat] at hdistinct ⊢
    have hearlier := hdistinct.sublist ((List.sublist_append_left _ _).map _)
    obtain ⟨henqueued, haccounted⟩ := ih hearlier
    rw [← henqueued] at hdistinct
    obtain ⟨hnext, haccounted⟩ := step_accounted haccounted hdistinct
    rw [finalState_append]
    exact ⟨hnext.trans (congrArg (· ++ call.entry?.toList) henqueued), haccounted⟩

theorem accounted_before {capacity : Nat} {transport : τ} {calls : List OutboxCall}
    (hdistinct : ((calls.filterMap OutboxCall.entry?).map Prod.fst).Nodup)
    (h : t ∈ transitions step (fresh capacity transport) calls) :
    ∃ s call, t = .of step s call ∧ Accounted s.outbox s.transport ∧
      ((s.outbox.enqueued ++ call.entry?.toList).map Prod.fst).Nodup := by
  obtain ⟨calls₁, call, calls₂, rfl, rfl⟩ := exists_of_mem_transitions h
  have hsplit : calls₁ ++ call :: calls₂ = calls₁ ++ [call] ++ calls₂ := by
    rw [List.append_assoc, List.singleton_append]
  rw [hsplit, List.filterMap_append, OutboxCall.entries_concat] at hdistinct
  have hupto := hdistinct.sublist ((List.sublist_append_left _ _).map _)
  have hearlier := hupto.sublist ((List.sublist_append_left _ _).map _)
  obtain ⟨henqueued, haccounted⟩ := accounted_run capacity transport calls₁ hearlier
  exact ⟨_, call, rfl, haccounted, henqueued.symm ▸ hupto⟩

/-- Over every run with distinct event ids, what is published leaves in the order of enqueueing,
each event at most once, and only publishing and eviction take anything out. -/
theorem outbox_fifoDelivery (capacity : Nat) (transport : τ) (calls : List OutboxCall)
    (hdistinct : ((calls.filterMap OutboxCall.entry?).map Prod.fst).Nodup) :
    FifoDelivery calls (transitions step (fresh capacity transport) calls)
      (finalState step (fresh capacity transport) calls) := by
  obtain ⟨henqueued, haccounted⟩ := accounted_run capacity transport calls hdistinct
  have hsublist := haccounted.ledger.delivered_sublist
  rw [henqueued] at hsublist
  refine ⟨hsublist, hdistinct.sublist (hsublist.map _), haccounted.payloads, ?_, ?_⟩
  · intro t ht entry hmem hlost
    obtain ⟨s, call, rfl, hbefore, hkeys⟩ := accounted_before hdistinct ht
    exact step_leaves hbefore hkeys hmem hlost
  · intro t ht topic htopic
    obtain ⟨s, call, rfl, hbefore, hkeys⟩ := accounted_before hdistinct ht
    cases htopic
    exact step_front hbefore (hkeys.sublist ((List.sublist_append_left _ _).map _)) topic

end OutboxSession

/-- A transport whose publishes end as listed, and then fail. -/
structure ScriptedTransport where
  outcomes : List Bool
  deriving DecidableEq

instance : IDeviceTransport ScriptedTransport where
  publish transport _ _ := .pure ⟨transport.outcomes.tail⟩ (transport.outcomes.headD false)
  subscribe transport _ _ := .pure transport true

namespace OutboxSession

/-- The link is lost while three events are queued, and one more evicts the oldest. -/
def interruptedCalls : List OutboxCall :=
  [.enqueue (ascii "evt-1") [1], .enqueue (ascii "evt-2") [2], .publishPendingEvents (ascii "t"),
    .enqueue (ascii "evt-3") [3], .enqueue (ascii "evt-4") [4], .publishPendingEvents (ascii "t")]

theorem interruptedCalls_fifoDelivery :
    FifoDelivery interruptedCalls
      (transitions step (fresh 2 (ScriptedTransport.mk [true, false, true, true]))
        interruptedCalls)
      (finalState step (fresh 2 (ScriptedTransport.mk [true, false, true, true]))
        interruptedCalls) :=
  outbox_fifoDelivery 2 (ScriptedTransport.mk [true, false, true, true]) interruptedCalls
    (by decide)

end OutboxSession
end InterBridge
