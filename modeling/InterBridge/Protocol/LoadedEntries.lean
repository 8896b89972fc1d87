import InterBridge.Protocol.CommandHandler

namespace InterBridge
open Foundations
set_option autoImplicit true

def CommandStatus.Named (status : CommandStatus) : Prop :=
  status ∈ [accepted, completed, failed, rejected]

def ProtocolErrorCode.Named (code : ProtocolErrorCode) : Prop := code ∈ listed

/-- Nothing in the entry was cast from a value its enumeration does not have. -/
structure DedupEntry.Named (entry : DedupEntry) : Prop where
  status : entry.status.Named
  errorCode : entry.hasError = true → entry.errorCode.Named

/-- The id of a row the loader does not skip. -/
def rowId? (row : Json) : Option Bytes :=
  match (row.get (ascii "id")).asString?, (row.get (ascii "status")).asInt32? with
  | some commandId, some _ => some commandId
  | _, _ => none

/-- The rows that are not skipped, with their ids. -/
def identified (rows : List Json) : List (Bytes × Json) :=
  rows.filterMap fun row => (rowId? row).map fun commandId => (commandId, row)

def ids (rows : List Json) : List Bytes := (identified rows).map Prod.fst

/-- The integers of the row that are cast are values of their enumerations. -/
def inRange (row : Json) : Bool :=
  ((row.get (ascii "status")).asInt32?.all fun value => 0 ≤ value && value ≤ 3) &&
    ((row.get (ascii "has_error")).asBool? != some true ||
      (row.get (ascii "error_code")).asInt32?.all fun value => 0 ≤ value && value ≤ 18)

/-- Rows out of range change neither which ids are kept nor what is kept for one of them. -/
structure LoadsCleanly (capacity : Nat) (rows : List Json) : Prop where
  sameIds : keptKeys capacity (ids rows) = keptKeys capacity (ids (rows.filter inRange))
  last : ∀ commandId ∈ keptKeys capacity (ids rows), ∀ row,
    (identified rows).reverse.lookup commandId = some row → inRange row = true

/-- No name in the response stands for an unknown value. -/
structure CommandResponse.Known (response : CommandResponse) : Prop where
  status : response.status.toString ≠ ascii "UNKNOWN_STATUS"
  error : ∀ error, response.error = some error → error.code.toString ≠ ascii "UNKNOWN_ERROR"

section

variable [ArduinoJson]

/-- The rows of the document in the store. -/
def storedRows (store : PersistentStore) : List Json :=
  match store.get dedupStorageKey with
  | none => []
  | some raw => if raw = [] then [] else ((deserializeJson raw).map Json.elements).getD []

/-- The cache that is loaded holds the newest entries of the rows in range, and nothing else. -/
structure SafeLoad (store : PersistentStore) (capacity : Nat) : Prop where
  named : ∀ row ∈ (PersistentDedupCache.load store capacity).rows, row.2.Named
  unique : ((PersistentDedupCache.load store capacity).rows.map Prod.fst).Nodup
  bounded : (PersistentDedupCache.load store capacity).rows.length ≤ capacity
  absent : PersistentDedupCache.load store capacity =
    ((storedRows store).filter inRange).foldl loadRow (.new capacity)
  newest : (ids ((storedRows store).filter inRange)).Nodup →
    (PersistentDedupCache.load store capacity).rows.map Prod.fst =
      (ids ((storedRows store).filter inRange)).rtake capacity
  replayed : ∀ deviceId clock command entry,
    (PersistentDedupCache.load store capacity).find command.commandId = some entry →
    (handle deviceId (PersistentDedupCache.new store capacity) clock command).1.terminal.Known

end

def rowEntry (row : Json) : DedupEntry :=
  let hasError := (row.get (ascii "has_error")).asBool? = some true
  { status := .ofInt32 ((row.get (ascii "status")).asInt32?.getD 0)
    hasError := hasError
    errorCode :=
      match (row.get (ascii "error_code")).asInt32? with
      | some code => if hasError then .ofInt32 code else .internalError
      | none => .internalError }

theorem loadRow_eq (memory : InMemoryDedupCache) (row : Json) : loadRow memory row =
    ((rowId? row).map fun commandId => memory.record commandId (rowEntry row)).getD memory := by
  rw [loadRow, rowId?, rowEntry]
  cases (row.get (ascii "id")).asString? with
  | none => rfl
  | some commandId =>
    cases (row.get (ascii "status")).asInt32? with
    | none => rfl
    | some status => rfl

theorem Int32.inRange_iff (value bound : Int32) :
    0 ≤ value ∧ value ≤ bound ↔ ¬ (value < 0 ∨ bound < value) := by
  rw [not_or, Int32.not_lt, Int32.not_lt]

theorem CommandStatus.ofInt32_named_iff (value : Int32) :
    (ofInt32 value).Named ↔ 0 ≤ value ∧ value ≤ 3 := by
  rw [Int32.inRange_iff, ofInt32, Named]
  split_ifs with hout
  · simp [hout]
  all_goals simp [hout]

theorem ProtocolErrorCode.ofInt32_named_iff (value : Int32) :
    (ofInt32 value).Named ↔ 0 ≤ value ∧ value ≤ 18 := by
  rw [Int32.inRange_iff, ofInt32, Named]
  by_cases hout : value < 0 ∨ 18 < value
  · rw [dif_pos hout]
    simp [listed, hout]
  · rw [dif_neg hout]
    refine iff_of_true ?_ hout
    cases hcode : listed[value.toInt.toNat]? with
    | none => decide
    | some code => exact List.mem_of_getElem? hcode

theorem rowId?_status {row : Json} (h : rowId? row = some commandId) :
    ∃ status, (row.get (ascii "status")).asInt32? = some status := by
  rw [rowId?] at h
  cases hs : (row.get (ascii "status")).asInt32? with
  | some status => exact ⟨status, rfl⟩
  | none =>
    rw [hs] at h
    cases hid : (row.get (ascii "id")).asString? with
    | none =>
      rw [hid] at h
      cases h
    | some commandId =>
      rw [hid] at h
      cases h

theorem rowEntry_errorCode {row : Json}
    (h : (row.get (ascii "has_error")).asBool? = some true) : (rowEntry row).errorCode =
      ((row.get (ascii "error_code")).asInt32?.map .ofInt32).getD .internalError := by
  rw [rowEntry]
  cases (row.get (ascii "error_code")).asInt32? with
  | none => rfl
  | some code => exact if_pos h

theorem inRange_iff {row : Json} (h : rowId? row = some commandId) :
    inRange row = true ↔ (rowEntry row).Named := by
  obtain ⟨status, hs⟩ := rowId?_status h
  have hstatus : (rowEntry row).status = .ofInt32 status := by
    rw [rowEntry, hs]
    rfl
  have hnamed : (rowEntry row).Named ↔ (rowEntry row).status.Named ∧
      ((rowEntry row).hasError = true → (rowEntry row).errorCode.Named) :=
    ⟨fun h => ⟨h.status, h.errorCode⟩, fun h => ⟨h.1, h.2⟩⟩
  have hhas : (rowEntry row).hasError = true ↔
      (row.get (ascii "has_error")).asBool? = some true := decide_eq_true_iff
  rw [inRange, hs, Bool.and_eq_true, Option.all_some, Bool.and_eq_true, decide_eq_true_iff,
    decide_eq_true_iff, ← CommandStatus.ofInt32_named_iff, hnamed, hstatus, hhas,
    Bool.or_eq_true, bne_iff_ne, ← imp_iff_not_or]
  apply and_congr_right
  intro _
  apply imp_congr_right
  intro herror
  rw [rowEntry_errorCode herror]
  cases (row.get (ascii "error_code")).asInt32? with
  | none =>
    apply iff_of_true rfl
    rw [Option.map_none, Option.getD_none, ProtocolErrorCode.Named]
    decide
  | some code =>
    rw [Option.all_some, Bool.and_eq_true, decide_eq_true_iff, decide_eq_true_iff]
    exact (ProtocolErrorCode.ofInt32_named_iff code).symm

theorem mem_identified {rows : List Json} (h : r ∈ identified rows) : rowId? r.2 = some r.1 := by
  rw [identified, List.mem_filterMap] at h
  obtain ⟨row, _, hrow⟩ := h
  rw [Option.map_eq_some_iff] at hrow
  obtain ⟨commandId, hid, rfl⟩ := hrow
  exact hid

theorem identified_filter (rows : List Json) (p : Json → Bool) :
    identified (rows.filter p) = (identified rows).filter fun r => p r.2 := by
  rw [identified, identified, List.filterMap_filter, List.filter_filterMap]
  apply List.filterMap_congr
  intro row _
  cases rowId? row with
  | none => split_ifs <;> rfl
  | some commandId => rfl

theorem foldl_loadRow_eq (rows : List Json) (capacity : Nat) :
    rows.foldl loadRow (.new capacity) =
      ⟨capacity, upsertAll capacity ((identified rows).map fun r => (r.1, rowEntry r.2))⟩ := by
  induction rows using List.reverseRecOn with
  | nil => rfl
  | append_singleton rows row ih =>
    have happend : identified (rows ++ [row]) = identified rows ++ identified [row] :=
      List.filterMap_append
    rw [List.foldl_append, ih, happend, List.map_append]
    change loadRow _ row = _
    rw [loadRow_eq]
    cases hid : rowId? row with
    | none =>
      have hnone : identified [row] = [] := by
        rw [identified, List.filterMap_cons, hid]
        rfl
      rw [hnone, List.map_nil, List.append_nil]
      rfl
    | some commandId =>
      have hsome : identified [row] = [(commandId, row)] := by
        rw [identified, List.filterMap_cons, hid]
        rfl
      rw [hsome, List.map_cons, List.map_nil, upsertAll_concat]
      rfl

theorem lookup_filter {rows : List (Bytes × Json)} {p : Json → Bool}
    (h : rows.lookup commandId = some row) (hrow : p row = true) :
    (rows.filter fun r => p r.2).lookup commandId = some row := by
  obtain ⟨before, after, rfl, hbefore⟩ := List.lookup_eq_some_iff.mp h
  rw [List.lookup_eq_some_iff]
  refine ⟨before.filter fun r => p r.2, after.filter fun r => p r.2, ?_, ?_⟩
  · rw [List.filter_append, List.filter_cons, if_pos hrow]
  · intro r hr
    exact hbefore r (List.mem_filter.mp hr).1

theorem lookup_map_entry (rows : List (Bytes × Json)) (commandId : Bytes) :
    (rows.map fun r => (r.1, rowEntry r.2)).lookup commandId =
      (rows.lookup commandId).map rowEntry := by
  induction rows with
  | nil => rfl
  | cons r rows ih =>
    rw [List.map_cons, List.lookup_cons, List.lookup_cons, ih]
    cases commandId == r.1 <;> rfl

theorem identified_keys (rows : List Json) :
    ((identified rows).map fun r => (r.1, rowEntry r.2)).map Prod.fst = ids rows := by
  rw [List.map_map]
  rfl

theorem foldl_loadRow_rows (rows : List Json) (capacity : Nat) :
    (rows.foldl loadRow (.new capacity)).rows =
      (keptKeys capacity (ids rows)).filterMap fun commandId =>
        (((identified rows).reverse.lookup commandId).map rowEntry).map fun entry =>
          (commandId, entry) := by
  rw [foldl_loadRow_eq, upsertAll_eq, identified_keys]
  simp only [← List.map_reverse, lookup_map_entry]

theorem foldl_loadRow_ids (rows : List Json) (capacity : Nat) :
    (rows.foldl loadRow (.new capacity)).rows.map Prod.fst = keptKeys capacity (ids rows) := by
  rw [foldl_loadRow_eq, upsertAll_keys, identified_keys]

theorem DedupEntry.Named.known {entry : DedupEntry} (h : entry.Named) (deviceId : Bytes)
    (command : DeviceCommand) : (fromCache deviceId command entry).Known := by
  constructor
  · have hstatus : ∀ status ∈ [CommandStatus.accepted, .completed, .failed, .rejected],
        status.toString ≠ ascii "UNKNOWN_STATUS" := by decide
    exact hstatus _ h.status
  · intro error herror
    have hcode : ∀ code ∈ ProtocolErrorCode.listed, code.toString ≠ ascii "UNKNOWN_ERROR" := by
      decide
    cases hhas : entry.hasError with
    | false =>
      rw [fromCache, hhas] at herror
      cases herror
    | true =>
      rw [fromCache, hhas] at herror
      cases herror
      exact hcode _ (h.errorCode hhas)

/-- For an id that is kept, rows out of range before its last row make no difference. -/
theorem LoadsCleanly.lookup_filter (h : LoadsCleanly capacity rows)
    (hkept : commandId ∈ keptKeys capacity (ids rows)) :
    (identified (rows.filter inRange)).reverse.lookup commandId =
      (identified rows).reverse.lookup commandId := by
  rw [identified_filter, ← List.filter_reverse]
  cases hlast : (identified rows).reverse.lookup commandId with
  | none =>
    rw [List.lookup_eq_none_iff] at hlast ⊢
    intro r hr
    exact hlast r (List.mem_filter.mp hr).1
  | some row => exact InterBridge.lookup_filter hlast (h.last commandId hkept row hlast)

theorem LoadsCleanly.foldl_filter (h : LoadsCleanly capacity rows) :
    rows.foldl loadRow (.new capacity) =
      (rows.filter inRange).foldl loadRow (.new capacity) := by
  have hrows : (rows.foldl loadRow (.new capacity)).rows =
      ((rows.filter inRange).foldl loadRow (.new capacity)).rows := by
    rw [foldl_loadRow_rows, foldl_loadRow_rows, ← h.sameIds]
    apply List.filterMap_congr
    intro commandId hkept
    rw [h.lookup_filter hkept]
  rw [foldl_loadRow_eq, foldl_loadRow_eq] at hrows ⊢
  exact congrArg (InMemoryDedupCache.mk capacity) hrows

theorem mem_foldl_loadRow {rows : List Json} (commandId : Bytes) (entry : DedupEntry) :
    (commandId, entry) ∈ (rows.foldl loadRow (.new capacity)).rows ↔
      commandId ∈ keptKeys capacity (ids rows) ∧
        ∃ row, (identified rows).reverse.lookup commandId = some row ∧
          rowId? row = some commandId ∧ rowEntry row = entry := by
  rw [foldl_loadRow_rows, List.mem_filterMap]
  constructor
  · intro h
    obtain ⟨commandId', hkept, hentry⟩ := h
    rw [Option.map_map, Option.map_eq_some_iff] at hentry
    obtain ⟨row, hlast, he⟩ := hentry
    cases he
    have hmem := List.mem_reverse.mp (mem_of_lookup_eq_some hlast)
    exact ⟨hkept, row, hlast, mem_identified hmem, rfl⟩
  · intro h
    obtain ⟨hkept, row, hlast, _, rfl⟩ := h
    refine ⟨commandId, hkept, ?_⟩
    rw [hlast]
    rfl

section

variable [ArduinoJson]

theorem load_eq (store : PersistentStore) (capacity : Nat) :
    PersistentDedupCache.load store capacity =
      (storedRows store).foldl loadRow (.new capacity) := by
  rw [PersistentDedupCache.load, storedRows]
  cases store.get dedupStorageKey with
  | none => rfl
  | some raw =>
    dsimp only
    by_cases hraw : raw = []
    · rw [if_pos hraw, if_pos hraw]
      rfl
    · rw [if_neg hraw, if_neg hraw]
      cases deserializeJson raw with
      | none => rfl
      | some doc => rfl

theorem SafeLoad.loadsCleanly {store : PersistentStore} (h : SafeLoad store capacity) :
    LoadsCleanly capacity (storedRows store) := by
  constructor
  · rw [← foldl_loadRow_ids, ← foldl_loadRow_ids, ← h.absent, load_eq]
  · intro commandId hkept row hlast
    have hid := mem_identified (List.mem_reverse.mp (mem_of_lookup_eq_some hlast))
    apply (inRange_iff hid).mpr
    apply h.named (commandId, rowEntry row)
    rw [load_eq]
    exact (mem_foldl_loadRow commandId _).mpr ⟨hkept, row, hlast, hid, rfl⟩

theorem LoadsCleanly.safeLoad {store : PersistentStore} (hc : 0 < capacity)
    (h : LoadsCleanly capacity (storedRows store)) : SafeLoad store capacity := by
  have hnamed : ∀ row ∈ (PersistentDedupCache.load store capacity).rows, row.2.Named := by
    rintro ⟨commandId, entry⟩ hrow
    rw [load_eq] at hrow
    obtain ⟨hkept, row, hlast, hid, rfl⟩ := (mem_foldl_loadRow commandId entry).mp hrow
    exact (inRange_iff hid).mp (h.last commandId hkept row hlast)
  have habsent := (load_eq store capacity).trans h.foldl_filter
  refine ⟨hnamed, ?_, ?_, habsent, ?_, ?_⟩
  · rw [load_eq, foldl_loadRow_eq]
    exact upsertAll_nodup_keys capacity _
  · rw [load_eq, foldl_loadRow_eq]
    exact upsertAll_length_le hc _
  · intro hnodup
    rw [habsent, foldl_loadRow_eq]
    rw [← identified_keys] at hnodup
    dsimp only
    rw [upsertAll_of_nodup hc hnodup, rtake_map, identified_keys]
  · intro deviceId clock command entry hfind
    have hentry := hnamed _ (mem_of_lookup_eq_some hfind)
    have hcached : IDedupCache.find (PersistentDedupCache.new store capacity) command.commandId =
        some entry := hfind
    rw [handle_cached hcached]
    exact hentry.known deviceId command

/-- A stored cache is loaded safely exactly when its rows out of range are of no consequence. -/
theorem safeLoad_iff_loadsCleanly (store : PersistentStore) (capacity : Nat)
    (hc : 0 < capacity) : SafeLoad store capacity ↔ LoadsCleanly capacity (storedRows store) :=
  ⟨SafeLoad.loadsCleanly, LoadsCleanly.safeLoad hc⟩

def storing (rows : List Json) : PersistentStore :=
  .set .empty dedupStorageKey (serializeJson (.arr rows))

theorem storedRows_storing (hj : ArduinoJson.RoundTrips)
    (hrows : (Json.arr rows).StorableWithin 10) : storedRows (storing rows) = rows := by
  rw [storedRows, storing, PersistentStore.get_set_self]
  dsimp only
  rw [if_neg (hj.serializeJson_ne_nil hrows), hj.storable _ hrows]
  rfl

end

/-- The stored row of a command that was answered with this status. -/
def answeredRow (status : Int) : Json :=
  .obj [(ascii "id", .str (ascii "cmd-1")), (ascii "status", .int status),
    (ascii "has_error", .bool false)]

theorem answeredRow_storable (status : Int) (h : -2 ^ 63 ≤ status ∧ status < 2 ^ 63) :
    (Json.arr [answeredRow status]).StorableWithin 10 := by
  intro row hrow
  rw [List.mem_singleton] at hrow
  subst hrow
  refine ⟨(by decide : [ascii "id", ascii "status", ascii "has_error"].Nodup), ?_⟩
  simp only [List.forall_mem_cons]
  exact ⟨trivial, h, trivial, List.forall_mem_nil _⟩

theorem safeLoad_rejectedRow :
    letI := compactJson
    0 < kDefaultDedupCacheCapacity ∧
      SafeLoad (storing [answeredRow 3]) kDefaultDedupCacheCapacity := by
  let := compactJson
  have hrows := storedRows_storing compactJson_roundTrips (answeredRow_storable 3 (by decide))
  refine ⟨by decide, (safeLoad_iff_loadsCleanly _ _ (by decide)).mpr ?_⟩
  rw [hrows]
  refine ⟨by decide, ?_⟩
  intro commandId hkept row hlast
  have hmem : (commandId, row) ∈ [(ascii "cmd-1", answeredRow 3)] := mem_of_lookup_eq_some hlast
  cases List.mem_singleton.mp hmem
  decide

/-- The same command, delivered again. -/
def deliveredAgain : DeviceCommand where
  type := .openDoor
  rawCommand := ascii "OPEN_DOOR"
  commandId := ascii "cmd-1"
  deviceId := ascii "ib-1"
  rawPayload := []
  issuedAtUnixSeconds := 0
  hasIssuedAt := true
  expiresAtUnixSeconds := 0
  hasExpiresAt := true

theorem unlistedStatus_replayed :
    letI := compactJson
    ¬ SafeLoad (storing [answeredRow 7]) kDefaultDedupCacheCapacity ∧
      (handle (ascii "ib-1")
        (PersistentDedupCache.new (storing [answeredRow 7]) kDefaultDedupCacheCapacity)
        ⟨fun _ => true, fun _ => 0⟩ deliveredAgain).1.terminal.status.toString =
          ascii "UNKNOWN_STATUS" := by
  let := compactJson
  have hrows := storedRows_storing compactJson_roundTrips
    (answeredRow_storable 7 (by decide))
  have hload := load_eq (storing [answeredRow 7]) kDefaultDedupCacheCapacity
  rw [hrows] at hload
  have hreplayed : (handle (ascii "ib-1")
      (PersistentDedupCache.new (storing [answeredRow 7]) kDefaultDedupCacheCapacity)
      ⟨fun _ => true, fun _ => 0⟩ deliveredAgain).1.terminal.status.toString =
        ascii "UNKNOWN_STATUS" := by
    rw [PersistentDedupCache.new, hload]
    decide
  refine ⟨?_, hreplayed⟩
  intro h
  refine (h.replayed (ascii "ib-1") ⟨fun _ => true, fun _ => 0⟩ deliveredAgain
    ⟨.unlisted 7 (by decide), false, .internalError⟩ ?_).status hreplayed
  rw [hload]
  decide

end InterBridge
