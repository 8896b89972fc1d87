import InterBridge.Protocol.ArduinoJson
import InterBridge.Protocol.EventOutbox
import InterBridge.Storage.PersistentStore

namespace InterBridge
open Foundations
set_option autoImplicit true

def outboxStorageKey : Bytes := ascii "event_outbox"

structure PersistentEventOutbox where
  store : PersistentStore
  memory : MemoryEventOutbox

def outboxDocument (entry : OutboxEntry) : Json :=
  .obj [(ascii "id", .str entry.eventId), (ascii "json", .str entry.eventJson)]

/-- One stored row: rows without a string under both keys are skipped. -/
def loadOutboxRow (memory : MemoryEventOutbox) (row : Json) : MemoryEventOutbox :=
  match (row.get (ascii "id")).asString?, (row.get (ascii "json")).asString? with
  | some eventId, some eventJson => memory.enqueue eventId eventJson
  | _, _ => memory

namespace PersistentEventOutbox
variable [ArduinoJson]

def load (store : PersistentStore) (capacity : Nat) : MemoryEventOutbox :=
  match store.get outboxStorageKey with
  | none => { capacity := capacity }
  | some raw =>
    if raw = [] then { capacity := capacity }
    else
      match deserializeJson raw with
      | none => { capacity := capacity }
      | some doc => doc.elements.foldl loadOutboxRow { capacity := capacity }

/-- Construction, which is what a reboot does with the store it finds. -/
def new (store : PersistentStore) (capacity : Nat) : PersistentEventOutbox :=
  ⟨store, load store capacity⟩

def save (outbox : PersistentEventOutbox) : PersistentEventOutbox :=
  { outbox with
    store := outbox.store.set outboxStorageKey
      (serializeJson (.arr (outbox.memory.pending.map outboxDocument))) }

def enqueue (outbox : PersistentEventOutbox) (eventId eventJson : Bytes) : PersistentEventOutbox :=
  { outbox with memory := outbox.memory.enqueue eventId eventJson }.save

def pending (outbox : PersistentEventOutbox) : List OutboxEntry := outbox.memory.pending

def dequeue (outbox : PersistentEventOutbox) (eventId : Bytes) : PersistentEventOutbox :=
  { outbox with memory := outbox.memory.dequeue eventId }.save

def size (outbox : PersistentEventOutbox) : Nat := outbox.memory.entries.length

instance : IEventOutbox PersistentEventOutbox := ⟨enqueue, pending, dequeue⟩

end PersistentEventOutbox

/-- What happens to an outbox. -/
inductive OutboxOp where
  | enqueue (eventId eventJson : Bytes)
  | dequeue (eventId : Bytes)
  | reboot

/-- After a reboot the outbox is built again, with the same capacity. -/
def OutboxOp.run [ArduinoJson] (outbox : PersistentEventOutbox) : OutboxOp → PersistentEventOutbox
  | .enqueue eventId eventJson => outbox.enqueue eventId eventJson
  | .dequeue eventId => outbox.dequeue eventId
  | .reboot => .new outbox.store outbox.memory.capacity

/-- The queue an outbox stands for: an event that is queued already keeps its place, a new one
comes last, and the oldest makes room for it. -/
def OutboxOp.onQueue (capacity : Nat) (queue : List OutboxEntry) : OutboxOp → List OutboxEntry
  | .enqueue eventId eventJson =>
    if eventId ∈ queue.map OutboxEntry.eventId then
      queue.map fun entry => if entry.eventId = eventId then ⟨eventId, eventJson⟩ else entry
    else (if queue.length < capacity then queue else queue.tail) ++ [⟨eventId, eventJson⟩]
  | .dequeue eventId => queue.filter fun entry => entry.eventId ≠ eventId
  | .reboot => queue

/-- An outbox that stands for a queue, in memory and in the store alike. -/
structure OutboxRefines [ArduinoJson] (capacity : Nat) (outbox : PersistentEventOutbox)
    (queue : List OutboxEntry) : Prop where
  pending : outbox.pending = queue
  size : outbox.size = queue.length
  bounded : queue.length ≤ capacity
  unique : (queue.map OutboxEntry.eventId).Nodup
  rebooted : PersistentEventOutbox.new outbox.store capacity = outbox
  absent : ∀ eventId, eventId ∉ queue.map OutboxEntry.eventId →
    (outbox.dequeue eventId).pending = queue

theorem MemoryEventOutbox.pending_ids (outbox : MemoryEventOutbox) :
    outbox.pending.map OutboxEntry.eventId = outbox.entries.map Prod.fst := by
  rw [pending, List.map_map]
  rfl

/-- The rows an outbox of the given capacity may hold. -/
structure WellFormedOutbox (capacity : Nat) (outbox : MemoryEventOutbox) : Prop where
  capacity_eq : outbox.capacity = capacity
  unique : (outbox.entries.map Prod.fst).Nodup
  bounded : outbox.entries.length ≤ capacity

namespace WellFormedOutbox

theorem empty (capacity : Nat) : WellFormedOutbox capacity { capacity := capacity } :=
  ⟨rfl, List.nodup_nil, Nat.zero_le _⟩

theorem enqueue (h : WellFormedOutbox capacity outbox) (hc : 1 ≤ capacity)
    (eventId eventJson : Bytes) : WellFormedOutbox capacity (outbox.enqueue eventId eventJson) := by
  constructor
  · exact h.capacity_eq
  · exact upsert_nodup_keys h.unique _ eventId eventJson
  · have hbounded := h.bounded
    rw [← h.capacity_eq] at hc hbounded ⊢
    exact upsert_length_le hc hbounded eventId eventJson

theorem dequeue (h : WellFormedOutbox capacity outbox) (eventId : Bytes) :
    WellFormedOutbox capacity (outbox.dequeue eventId) := by
  constructor
  · exact h.capacity_eq
  · exact h.unique.sublist (List.filter_sublist.map _)
  · exact Nat.le_trans (List.length_filter_le _ _) h.bounded

theorem loadRow (h : WellFormedOutbox capacity outbox) (hc : 1 ≤ capacity) (row : Json) :
    WellFormedOutbox capacity (loadOutboxRow outbox row) := by
  rw [loadOutboxRow]
  cases (row.get (ascii "id")).asString? with
  | none => exact h
  | some eventId =>
    cases (row.get (ascii "json")).asString? with
    | none => exact h
    | some eventJson => exact h.enqueue hc eventId eventJson

theorem loadRows (h : WellFormedOutbox capacity outbox) (hc : 1 ≤ capacity) (rows : List Json) :
    WellFormedOutbox capacity (rows.foldl loadOutboxRow outbox) := by
  induction rows generalizing outbox with
  | nil => exact h
  | cons row rows ih => exact ih (h.loadRow hc row)

theorem load [ArduinoJson] (hc : 1 ≤ capacity) (store : PersistentStore) :
    WellFormedOutbox capacity (PersistentEventOutbox.load store capacity) := by
  rw [PersistentEventOutbox.load]
  cases store.get outboxStorageKey with
  | none => exact .empty capacity
  | some raw =>
    dsimp only
    by_cases hraw : raw = []
    · rw [if_pos hraw]
      exact .empty capacity
    · rw [if_neg hraw]
      cases deserializeJson raw with
      | none => exact .empty capacity
      | some doc => exact (empty capacity).loadRows hc doc.elements

end WellFormedOutbox

theorem foldl_loadOutboxRow (memory outbox : MemoryEventOutbox) :
    (outbox.pending.map outboxDocument).foldl loadOutboxRow memory =
      { memory with
        entries := outbox.entries.foldl (fun acc row => upsert memory.capacity acc row.1 row.2)
          memory.entries } := by
  obtain ⟨capacity, entries⟩ := outbox
  induction entries generalizing memory with
  | nil => rfl
  | cons row entries ih => exact ih (memory.enqueue row.1 row.2)

theorem outboxDocument_storable (entries : List OutboxEntry) :
    (Json.arr (entries.map outboxDocument)).StorableWithin 10 := by
  intro document hdocument
  obtain ⟨entry, _, rfl⟩ := List.mem_map.mp hdocument
  refine ⟨(by decide : [ascii "id", ascii "json"].Nodup), ?_⟩
  simp only [List.forall_mem_cons]
  exact ⟨trivial, trivial, List.forall_mem_nil _⟩

theorem load_save [ArduinoJson] (hj : ArduinoJson.RoundTrips) (outbox : PersistentEventOutbox)
    (h : WellFormedOutbox capacity outbox.memory) :
    PersistentEventOutbox.new outbox.save.store capacity = outbox.save := by
  have hstorable := outboxDocument_storable outbox.memory.pending
  have hload : PersistentEventOutbox.load outbox.save.store capacity = outbox.memory := by
    rw [PersistentEventOutbox.load, PersistentEventOutbox.save, PersistentStore.get_set_self]
    dsimp only
    rw [if_neg (hj.serializeJson_ne_nil hstorable), hj.storable _ hstorable]
    dsimp only [Json.elements]
    rw [foldl_loadOutboxRow, foldl_upsert_rows h.unique h.bounded]
    obtain ⟨store, memory⟩ := outbox
    cases h.capacity_eq
    rfl
  rw [PersistentEventOutbox.new, hload]
  rfl

/-- What every outbox is that has only been built and used. -/
structure Reloadable [ArduinoJson] (capacity : Nat) (outbox : PersistentEventOutbox) : Prop where
  wellFormed : WellFormedOutbox capacity outbox.memory
  rebooted : PersistentEventOutbox.new outbox.store capacity = outbox

namespace Reloadable
variable [ArduinoJson]

theorem new (hc : 1 ≤ capacity) (store : PersistentStore) :
    Reloadable capacity (.new store capacity) :=
  ⟨.load hc store, rfl⟩

theorem run (h : Reloadable capacity outbox) (hj : ArduinoJson.RoundTrips) (hc : 1 ≤ capacity)
    (op : OutboxOp) : Reloadable capacity (op.run outbox) := by
  cases op with
  | enqueue eventId eventJson =>
    have hmemory := h.wellFormed.enqueue hc eventId eventJson
    exact ⟨hmemory, load_save hj _ hmemory⟩
  | dequeue eventId =>
    have hmemory := h.wellFormed.dequeue eventId
    exact ⟨hmemory, load_save hj _ hmemory⟩
  | reboot =>
    rw [OutboxOp.run, h.wellFormed.capacity_eq, h.rebooted]
    exact h

/-- Each operation does to the rows what it does to the queue. -/
theorem pending_run (h : Reloadable capacity outbox) (op : OutboxOp) :
    (op.run outbox).pending = op.onQueue capacity outbox.pending := by
  have hunique := h.wellFormed.unique
  have hcapacity := h.wellFormed.capacity_eq
  cases op with
  | enqueue eventId eventJson =>
    change (outbox.memory.enqueue eventId eventJson).pending = _
    rw [OutboxOp.onQueue, PersistentEventOutbox.pending, MemoryEventOutbox.pending_ids,
      MemoryEventOutbox.enqueue, MemoryEventOutbox.pending, upsert]
    by_cases hqueued : eventId ∈ outbox.memory.entries.map Prod.fst
    · rw [if_pos hqueued, if_pos hqueued, replaceFirst_eq_map hunique, MemoryEventOutbox.pending,
        List.map_map, List.map_map]
      apply List.map_congr_left
      intro row hrow
      by_cases hid : row.1 = eventId
      · simp only [Function.comp_apply, if_pos hid]
      · simp only [Function.comp_apply, if_neg hid]
    · rw [if_neg hqueued, if_neg hqueued, pushBounded_map, pushBounded, ← hcapacity]
      by_cases hfull : outbox.memory.capacity ≤ outbox.memory.pending.length
      · rw [if_neg (Nat.not_lt_of_le hfull)]
        exact congrArg (· ++ _) (if_pos hfull)
      · rw [if_pos (Nat.lt_of_not_le hfull)]
        exact congrArg (· ++ _) (if_neg hfull)
  | dequeue eventId =>
    change (outbox.memory.dequeue eventId).pending = _
    rw [OutboxOp.onQueue, PersistentEventOutbox.pending, MemoryEventOutbox.pending,
      MemoryEventOutbox.pending, MemoryEventOutbox.dequeue, List.filter_map]
    rfl
  | reboot =>
    rw [OutboxOp.run, hcapacity, h.rebooted]
    rfl

theorem absent (outbox : PersistentEventOutbox)
    (habsent : eventId ∉ outbox.pending.map OutboxEntry.eventId) :
    (outbox.dequeue eventId).pending = outbox.pending := by
  rw [PersistentEventOutbox.pending, MemoryEventOutbox.pending_ids] at habsent
  have hentries : (outbox.memory.dequeue eventId).entries = outbox.memory.entries := by
    apply List.filter_eq_self.mpr
    intro row hrow
    rw [decide_eq_true_iff]
    intro hid
    rw [← hid] at habsent
    exact habsent (List.mem_map_of_mem hrow)
  change (outbox.memory.dequeue eventId).pending = outbox.memory.pending
  rw [MemoryEventOutbox.pending, hentries, MemoryEventOutbox.pending]

theorem refines (h : Reloadable capacity outbox) :
    OutboxRefines capacity outbox outbox.pending := by
  constructor
  · rfl
  · exact (List.length_map _).symm
  · rw [PersistentEventOutbox.pending, MemoryEventOutbox.pending, List.length_map]
    exact h.wellFormed.bounded
  · rw [PersistentEventOutbox.pending, MemoryEventOutbox.pending_ids]
    exact h.wellFormed.unique
  · exact h.rebooted
  · exact fun eventId habsent => absent outbox habsent

end Reloadable

theorem run_refines [ArduinoJson] (h : Reloadable capacity outbox) (hj : ArduinoJson.RoundTrips)
    (hc : 1 ≤ capacity) (ops : List OutboxOp) :
    OutboxRefines capacity (ops.foldl OutboxOp.run outbox)
      (ops.foldl (OutboxOp.onQueue capacity) outbox.pending) := by
  induction ops generalizing outbox with
  | nil => exact h.refines
  | cons op ops ih =>
    rw [List.foldl_cons, List.foldl_cons, ← h.pending_run op]
    exact ih (h.run hj hc op)

/-- Over every sequence of operations and reboots, from any store. -/
theorem persistentOutbox_refines_queue [ArduinoJson] (hj : ArduinoJson.RoundTrips)
    (hc : 1 ≤ capacity) (store : PersistentStore) (ops : List OutboxOp) :
    (store.get outboxStorageKey = none →
      (PersistentEventOutbox.new store capacity).pending = []) ∧
    OutboxRefines capacity (ops.foldl OutboxOp.run (.new store capacity))
      (ops.foldl (OutboxOp.onQueue capacity)
        (PersistentEventOutbox.new store capacity).pending) := by
  constructor
  · intro hfresh
    rw [PersistentEventOutbox.new, PersistentEventOutbox.load, hfresh]
    rfl
  · exact run_refines (.new hc store) hj hc ops

/-- A full outbox is rebooted, replaces one of its events and loses its oldest. -/
def rebootedWhenFull : List OutboxOp :=
  [.enqueue (ascii "evt-1") (ascii "ring"), .enqueue (ascii "evt-2") (ascii "start"), .reboot,
    .enqueue (ascii "evt-1") (ascii "ring again"), .enqueue (ascii "evt-3") (ascii "end"), .reboot,
    .dequeue (ascii "evt-1")]

theorem rebootedWhenFull_refines :
    letI := compactJson
    rebootedWhenFull.foldl (OutboxOp.onQueue 2) [] =
        [⟨ascii "evt-2", ascii "start"⟩, ⟨ascii "evt-3", ascii "end"⟩] ∧
      (PersistentStore.empty.get outboxStorageKey = none →
        (PersistentEventOutbox.new .empty 2).pending = []) ∧
      OutboxRefines 2 (rebootedWhenFull.foldl OutboxOp.run (.new .empty 2))
        (rebootedWhenFull.foldl (OutboxOp.onQueue 2)
          (PersistentEventOutbox.new .empty 2).pending) :=
  letI := compactJson
  ⟨by decide, persistentOutbox_refines_queue compactJson_roundTrips (by decide) .empty
    rebootedWhenFull⟩

end InterBridge
