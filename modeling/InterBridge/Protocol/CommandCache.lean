import InterBridge.Foundations.BoundedFifo
import InterBridge.Protocol.Messages
import InterBridge.Storage.PersistentStore

namespace InterBridge
open Foundations
set_option autoImplicit true

def kDefaultDedupCacheCapacity : Nat := 32

def dedupStorageKey : Bytes := ascii "command_dedup_cache"

structure DedupEntry where
  status : CommandStatus
  hasError : Bool := false
  errorCode : ProtocolErrorCode := .internalError
  deriving DecidableEq

class IDedupCache (δ : Type) where
  find : δ → Bytes → Option DedupEntry
  record : δ → Bytes → DedupEntry → δ

/-- The rows are kept oldest first. -/
structure InMemoryDedupCache where
  capacity : Nat
  rows : List (Bytes × DedupEntry)

namespace InMemoryDedupCache

def new (capacity : Nat) : InMemoryDedupCache := ⟨capacity, []⟩

def find (cache : InMemoryDedupCache) (commandId : Bytes) : Option DedupEntry :=
  cache.rows.lookup commandId

def record (cache : InMemoryDedupCache) (commandId : Bytes) (entry : DedupEntry) :
    InMemoryDedupCache :=
  { cache with rows := upsert cache.capacity cache.rows commandId entry }

def allEntries (cache : InMemoryDedupCache) : List (Bytes × DedupEntry) := cache.rows

instance : IDedupCache InMemoryDedupCache := ⟨find, record⟩

end InMemoryDedupCache

structure PersistentDedupCache where
  store : PersistentStore
  memory : InMemoryDedupCache

def entryDocument (row : Bytes × DedupEntry) : Json :=
  .obj ([(ascii "id", .str row.1),
    (ascii "status", .int row.2.status.toInt32.toInt),
    (ascii "has_error", .bool row.2.hasError)] ++
    if row.2.hasError then [(ascii "error_code", .int row.2.errorCode.toInt32.toInt)] else [])

/-- One stored row: rows without a string id and an integer status are skipped. -/
def loadRow (memory : InMemoryDedupCache) (row : Json) : InMemoryDedupCache :=
  match (row.get (ascii "id")).asString?, (row.get (ascii "status")).asInt32? with
  | some commandId, some status =>
    let hasError := (row.get (ascii "has_error")).asBool? = some true
    memory.record commandId
      { status := .ofInt32 status
        hasError := hasError
        errorCode :=
          match (row.get (ascii "error_code")).asInt32? with
          | some code => if hasError then .ofInt32 code else .internalError
          | none => .internalError }
  | _, _ => memory

namespace PersistentDedupCache
variable [ArduinoJson]

def load (store : PersistentStore) (capacity : Nat) : InMemoryDedupCache :=
  match store.get dedupStorageKey with
  | none => .new capacity
  | some raw =>
    if raw = [] then .new capacity
    else
      match deserializeJson raw with
      | none => .new capacity
      | some doc => doc.elements.foldl loadRow (.new capacity)

/-- Construction, which is what a reboot does with the store it finds. -/
def new (store : PersistentStore) (capacity : Nat) : PersistentDedupCache :=
  ⟨store, load store capacity⟩

def save (cache : PersistentDedupCache) : PersistentDedupCache :=
  { cache with
    store := cache.store.set dedupStorageKey
      (serializeJson (.arr (cache.memory.allEntries.map entryDocument))) }

def find (cache : PersistentDedupCache) (commandId : Bytes) : Option DedupEntry :=
  cache.memory.find commandId

def record (cache : PersistentDedupCache) (commandId : Bytes) (entry : DedupEntry) :
    PersistentDedupCache :=
  { cache with memory := cache.memory.record commandId entry }.save

instance : IDedupCache PersistentDedupCache := ⟨find, record⟩

@[simp] theorem record_rows (cache : PersistentDedupCache) (commandId : Bytes)
    (entry : DedupEntry) : (cache.record commandId entry).memory.rows =
      upsert cache.memory.capacity cache.memory.rows commandId entry := rfl

end PersistentDedupCache

/-- Entries without an error keep the default error code, the only one the store gives back. -/
def DedupEntry.Normal (entry : DedupEntry) : Prop :=
  entry.hasError = false → entry.errorCode = .internalError

theorem entryDocument_storable (row : Bytes × DedupEntry) :
    (entryDocument row).StorableWithin 9 := by
  obtain ⟨commandId, status, hasError, errorCode⟩ := row
  have hs := Json.StorableWithin.int32 8 status.toInt32
  have hc := Json.StorableWithin.int32 8 errorCode.toInt32
  cases hasError with
  | false =>
    refine ⟨(by decide : [ascii "id", ascii "status", ascii "has_error"].Nodup), ?_⟩
    simp only [Bool.false_eq_true, ↓reduceIte, List.append_nil, List.forall_mem_cons]
    exact ⟨trivial, hs, trivial, List.forall_mem_nil _⟩
  | true =>
    refine ⟨(by decide :
      [ascii "id", ascii "status", ascii "has_error", ascii "error_code"].Nodup), ?_⟩
    simp only [↓reduceIte, List.cons_append, List.nil_append, List.forall_mem_cons]
    exact ⟨trivial, hs, trivial, hc, List.forall_mem_nil _⟩

theorem entryDocument_get_errorCode (row : Bytes × DedupEntry) :
    (entryDocument row).get (ascii "error_code") =
      if row.2.hasError then .int row.2.errorCode.toInt32.toInt else .null := by
  obtain ⟨commandId, status, hasError, errorCode⟩ := row
  cases hasError <;> rfl

theorem loadRow_entryDocument (memory : InMemoryDedupCache) {row : Bytes × DedupEntry}
    (h : row.2.Normal) : loadRow memory (entryDocument row) = memory.record row.1 row.2 := by
  have hid : ((entryDocument row).get (ascii "id")).asString? = some row.1 := rfl
  have hs : (entryDocument row).get (ascii "status") = .int row.2.status.toInt32.toInt := rfl
  have he : ((entryDocument row).get (ascii "has_error")).asBool? = some row.2.hasError := rfl
  have hc := entryDocument_get_errorCode row
  obtain ⟨commandId, status, hasError, errorCode⟩ := row
  simp only [loadRow, hid, hs, he, hc, Json.asInt32?_toInt, CommandStatus.ofInt32_toInt32]
  cases hasError with
  | false =>
    have hi : errorCode = .internalError := h rfl
    simp [hi, Json.asInt32?]
  | true => simp

/-- The rows a cache of the given capacity may hold. -/
structure WellFormedRows (capacity : Nat) (rows : List (Bytes × DedupEntry)) : Prop where
  nodup : (rows.map Prod.fst).Nodup
  length_le : rows.length ≤ capacity
  normal : ∀ row ∈ rows, row.2.Normal

theorem WellFormedRows.empty (capacity : Nat) : WellFormedRows capacity [] :=
  ⟨List.nodup_nil, Nat.zero_le _, List.forall_mem_nil _⟩

theorem WellFormedRows.upsert {rows : List (Bytes × DedupEntry)} (h : WellFormedRows capacity rows)
    (hc : 0 < capacity) (hk : commandId ∉ rows.map Prod.fst) (he : DedupEntry.Normal entry) :
    WellFormedRows capacity (upsert capacity rows commandId entry) := by
  rw [upsert_of_notMem hk]
  refine ⟨pushBounded_nodup_keys h.nodup hk _ _, pushBounded_length_le hc h.length_le _, ?_⟩
  intro row hrow
  rcases mem_pushBounded hrow with hrow | rfl
  · exact h.normal row hrow
  · exact he

theorem foldl_loadRow {rows : List (Bytes × DedupEntry)} (hn : ∀ row ∈ rows, row.2.Normal)
    (memory : InMemoryDedupCache) :
    (rows.map entryDocument).foldl loadRow memory =
      { memory with
        rows := rows.foldl (fun acc r => upsert memory.capacity acc r.1 r.2) memory.rows } := by
  induction rows generalizing memory with
  | nil => rfl
  | cons row rows ih =>
    obtain ⟨hrow, hn⟩ := List.forall_mem_cons.mp hn
    rw [List.map_cons, List.foldl_cons, loadRow_entryDocument memory hrow, ih hn]
    rfl

/-- What the store holds for a cache with these rows: nothing before the first record. -/
def StoredRows [ArduinoJson] (store : PersistentStore) (rows : List (Bytes × DedupEntry)) : Prop :=
  store.get dedupStorageKey = some (serializeJson (.arr (rows.map entryDocument))) ∨
    store.get dedupStorageKey = none ∧ rows = []

/-- The state of every cache that has only been built and recorded into. -/
structure PersistentDedupCache.Synced [ArduinoJson] (cache : PersistentDedupCache)
    (capacity : Nat) : Prop where
  capacity_eq : cache.memory.capacity = capacity
  wellFormed : WellFormedRows capacity cache.memory.rows
  stored : StoredRows cache.store cache.memory.rows

variable [ArduinoJson]

theorem load_storedRows {store : PersistentStore} (hj : ArduinoJson.RoundTrips)
    (hw : WellFormedRows capacity rows) (hs : StoredRows store rows) :
    PersistentDedupCache.load store capacity = ⟨capacity, rows⟩ := by
  have hd : (Json.arr (rows.map entryDocument)).StorableWithin 10 := by
    intro v hv
    obtain ⟨row, _, rfl⟩ := List.mem_map.mp hv
    exact entryDocument_storable row
  rcases hs with hs | ⟨hs, rfl⟩
  · simp only [PersistentDedupCache.load, hs, if_neg (hj.serializeJson_ne_nil hd),
      hj.storable _ hd, Json.elements]
    rw [foldl_loadRow hw.normal]
    simp only [InMemoryDedupCache.new, foldl_upsert_rows hw.nodup hw.length_le]
  · simp only [PersistentDedupCache.load, hs, InMemoryDedupCache.new]

namespace PersistentDedupCache.Synced

/-- Rebuilding the cache from its own store changes nothing. -/
theorem reload {cache : PersistentDedupCache} (hj : ArduinoJson.RoundTrips)
    (h : cache.Synced capacity) : new cache.store capacity = cache := by
  obtain ⟨store, cap, rows⟩ := cache
  obtain ⟨rfl, hw, hs⟩ := h
  simp only [new, load_storedRows hj hw hs]

theorem fresh (capacity : Nat) : (new .empty capacity).Synced capacity :=
  ⟨rfl, .empty capacity, .inr ⟨rfl, rfl⟩⟩

theorem record {cache : PersistentDedupCache} (h : cache.Synced capacity) (hc : 0 < capacity)
    (hk : cache.find commandId = none) (he : DedupEntry.Normal entry) :
    (cache.record commandId entry).Synced capacity := by
  obtain ⟨rfl, hw, _⟩ := h
  refine ⟨rfl, hw.upsert hc (lookup_eq_none_iff_notMem.mp hk) he, .inl ?_⟩
  exact PersistentStore.get_set_self _ _ _

end PersistentDedupCache.Synced
end InterBridge
