import InterBridge.Protocol.DedupReplay

namespace InterBridge
open Foundations
set_option autoImplicit true

/-- The cache after a run of a device that started with an empty store. -/
def cacheAfter [ArduinoJson] (deviceId : Bytes) (capacity : Nat) (ops : List DedupOp) :
    PersistentDedupCache :=
  finalState (dedupStep deviceId capacity) (.new .empty capacity) ops

def noteId (capacity : Nat) (recorded : List Bytes) : DedupOp → List Bytes
  | .handle command _ =>
    if command.commandId ∈ recorded.rtake capacity then recorded
    else recorded ++ [command.commandId]
  | .reboot => recorded

/-- The command ids of a run that were new on arrival, where the last `capacity` of these are
remembered. -/
def recordedIds (capacity : Nat) (ops : List DedupOp) : List Bytes :=
  ops.foldl (noteId capacity) []

theorem recordedIds_concat (capacity : Nat) (ops : List DedupOp) (op : DedupOp) :
    recordedIds capacity (ops ++ [op]) = noteId capacity (recordedIds capacity ops) op := by
  rw [recordedIds, List.foldl_append]
  rfl

theorem mem_noteId (h : commandId ∈ recorded) : commandId ∈ noteId capacity recorded op := by
  cases op with
  | reboot => exact h
  | handle command clock =>
    rw [noteId]
    split
    · exact h
    · exact List.mem_append_left _ h

theorem mem_recordedIds_append (h : commandId ∈ recordedIds capacity before)
    (after : List DedupOp) : commandId ∈ recordedIds capacity (before ++ after) := by
  induction after using List.reverseRecOn with
  | nil =>
    rw [List.append_nil]
    exact h
  | append_singleton after op ih =>
    rw [← List.append_assoc, recordedIds_concat]
    exact mem_noteId ih

theorem mem_recordedIds_handle (capacity : Nat) (before : List DedupOp) (command : DeviceCommand)
    (clock : ClockAnswers) :
    command.commandId ∈ recordedIds capacity (before ++ [.handle command clock]) := by
  rw [recordedIds_concat, noteId]
  split
  · next h => exact List.mem_of_mem_drop h
  · exact List.mem_append_right _ (List.mem_singleton_self _)

section Cache

variable [ArduinoJson]

theorem cacheAfter_keys (hj : ArduinoJson.RoundTrips) (hc : 0 < capacity) (deviceId : Bytes)
    (ops : List DedupOp) :
    (cacheAfter deviceId capacity ops).Synced capacity ∧
      (cacheAfter deviceId capacity ops).memory.rows.map Prod.fst =
        (recordedIds capacity ops).rtake capacity := by
  induction ops using List.reverseRecOn with
  | nil => exact ⟨.fresh capacity, (List.rtake_nil capacity).symm⟩
  | append_singleton ops op ih =>
    obtain ⟨hs, hk⟩ := ih
    have hstep : cacheAfter deviceId capacity (ops ++ [op]) =
        (dedupStep deviceId capacity (cacheAfter deviceId capacity ops) op).1 :=
      finalState_append _ _ _ _
    rw [hstep, recordedIds_concat]
    cases op with
    | reboot =>
      simp only [dedupStep, hs.reload hj]
      exact ⟨hs, hk⟩
    | handle command clock =>
      simp only [dedupStep, noteId]
      cases hf : IDedupCache.find (cacheAfter deviceId capacity ops) command.commandId with
      | some entry =>
        have hmem : command.commandId ∈ (recordedIds capacity ops).rtake capacity := by
          rw [← hk]
          exact List.mem_map_of_mem (mem_of_lookup_eq_some hf)
        rw [handle_cached hf, if_pos hmem]
        exact ⟨hs, hk⟩
      | none =>
        have hmem := lookup_eq_none_iff_notMem.mp hf
        rw [handle_uncached hf, firstResponses_terminal]
        refine ⟨hs.record hc hf buildResponse_toEntry_normal, ?_⟩
        rw [← hk, if_neg hmem]
        calc ((cacheAfter deviceId capacity ops).record command.commandId _).memory.rows.map _
            = (pushBounded capacity (cacheAfter deviceId capacity ops).memory.rows
                (command.commandId, _)).map Prod.fst := by
              rw [PersistentDedupCache.record_rows, hs.capacity_eq, upsert_of_notMem hmem]
          _ = (recordedIds capacity ops ++ [command.commandId]).rtake capacity := by
              rw [pushBounded_map, hk, pushBounded_rtake hc]

theorem find_cacheAfter_eq_none_iff (hj : ArduinoJson.RoundTrips) (hc : 0 < capacity)
    (deviceId commandId : Bytes) (ops : List DedupOp) :
    IDedupCache.find (cacheAfter deviceId capacity ops) commandId = none ↔
      commandId ∉ (recordedIds capacity ops).rtake capacity := by
  rw [← (cacheAfter_keys hj hc deviceId ops).2]
  exact lookup_eq_none_iff_notMem

end Cache

/-- Two deliveries of one sensitive command. -/
structure SameOpenDoor (first again : DeviceCommand) : Prop where
  type : first.type = .openDoor
  type_again : again.type = .openDoor
  commandId : again.commandId = first.commandId
  issuedAt : again.issuedAtUnixSeconds = first.issuedAtUnixSeconds
  hasIssuedAt : again.hasIssuedAt = first.hasIssuedAt
  expiresAt : again.expiresAtUnixSeconds = first.expiresAtUnixSeconds
  hasExpiresAt : again.hasExpiresAt = first.hasExpiresAt

/-- The wall-clock readings available to one operation. -/
def DedupOp.readings : DedupOp → List Int64
  | .handle _ clock => [clock.unixTimeSeconds 0, clock.unixTimeSeconds 1]
  | .reboot => []

/-- The wall clock is synchronized throughout and never runs backwards. -/
structure TrustworthyClock (ops : List DedupOp) : Prop where
  valid : ∀ command clock, .handle command clock ∈ ops → ∀ n, clock.hasValidTime n = true
  bounded : ∀ command clock, .handle command clock ∈ ops → clock.Bounded
  nondecreasing : (ops.flatMap DedupOp.readings).Pairwise (· ≤ ·)

/-- The command is answered from the cache, or refused because it expired. -/
def ReplayedOrExpired [IDedupCache δ] (deviceId : Bytes) (cache : δ) (clock : ClockAnswers)
    (command : DeviceCommand) : Prop :=
  (∃ entry, IDedupCache.find cache command.commandId = some entry ∧
    (handle deviceId cache clock command).1 = terminalOnly (fromCache deviceId command entry)) ∨
  (handle deviceId cache clock command).1 =
    terminalOnly (buildResponse deviceId command .rejected (some .commandExpired))

/-- No delivery of an accepted `OPEN_DOOR` command is accepted again: each is answered from the
cache or refused as expired. -/
def AcceptedAtMostOnce [ArduinoJson] (deviceId : Bytes) (capacity : Nat) (ops : List DedupOp) :
    Prop :=
  ∀ before first firstClock between again againClock after,
    ops = before ++ .handle first firstClock :: between ++ .handle again againClock :: after →
    SameOpenDoor first again →
    (handle deviceId (cacheAfter deviceId capacity before) firstClock first).1.hasAccepted →
    ReplayedOrExpired deviceId
      (cacheAfter deviceId capacity (before ++ .handle first firstClock :: between))
      againClock again

/-- Whenever an `OPEN_DOOR` command that arrived new and within its window is delivered again no
later than its expiry, fewer than `capacity` new ids were recorded after its own. -/
def KeptWhileValid (capacity : Nat) (ops : List DedupOp) : Prop :=
  ∀ before first firstClock between again againClock after,
    ops = before ++ .handle first firstClock :: between ++ .handle again againClock :: after →
    SameOpenDoor first again →
    first.commandId ∉ (recordedIds capacity before).rtake capacity →
    TimeSafe firstClock first kOpenDoorMaxValiditySeconds.toInt →
    againClock.unixTimeSeconds 0 ≤ again.expiresAtUnixSeconds →
    pushedSince first.commandId
      (recordedIds capacity (before ++ .handle first firstClock :: between)) < capacity

theorem SameOpenDoor.admissible {clock again : ClockAnswers}
    (hsame : SameOpenDoor first second) (h : Admissible clock first maxValiditySeconds)
    (hv : ∀ n, again.hasValidTime n = true)
    (hle : clock.unixTimeSeconds 0 ≤ again.unixTimeSeconds 0) :
    Admissible again second maxValiditySeconds := by
  obtain ⟨_, hhi, hhx, hi, hx, hvalidity, _, hn, hs⟩ := h
  rw [← hsame.hasIssuedAt] at hhi
  rw [← hsame.hasExpiresAt] at hhx
  rw [← hsame.issuedAt] at hi hs
  rw [← hsame.issuedAt, ← hsame.expiresAt] at hx hvalidity
  rw [Int64.le_iff_toInt_le] at hle
  exact ⟨hv 0, hhi, hhx, hi, hx, hvalidity, hv 1, Int.le_trans hn hle, by omega⟩

theorem SameOpenDoor.refusal_again {clock again : ClockAnswers}
    (hsame : SameOpenDoor first second)
    (h : Admissible clock first kOpenDoorMaxValiditySeconds.toInt)
    (hv : ∀ n, again.hasValidTime n = true) (hb : again.Bounded)
    (hle : clock.unixTimeSeconds 0 ≤ again.unixTimeSeconds 0) :
    refusal again second =
      if second.expiresAtUnixSeconds < again.unixTimeSeconds 0 then some .commandExpired
      else none := by
  rw [refusal, hsame.type_again]
  exact (hsame.admissible h hv hle).checkTimeSafety hb

theorem replayedOrExpired_iff [IDedupCache δ] {cache : δ} {expired : Prop} [Decidable expired]
    (hr : refusal clock command = if expired then some .commandExpired else none) :
    ReplayedOrExpired deviceId cache clock command ↔
      IDedupCache.find cache command.commandId ≠ none ∨ expired := by
  rw [ReplayedOrExpired]
  cases hf : IDedupCache.find cache command.commandId with
  | some entry =>
    rw [handle_cached hf]
    exact iff_of_true (.inl ⟨entry, rfl, rfl⟩) (.inl nofun)
  | none =>
    rw [handle_uncached hf, firstResponses, hr]
    by_cases he : expired
    · rw [if_pos he]
      exact iff_of_true (.inr rfl) (.inr he)
    · rw [if_neg he]
      refine iff_of_false ?_ ?_
      · intro h
        rcases h with ⟨_, h, _⟩ | h
        · cases h
        · cases h
      · intro h
        rcases h with h | h
        · exact h rfl
        · exact he h

theorem TrustworthyClock.le {before between after : List DedupOp}
    (h : TrustworthyClock
      (before ++ .handle first clock :: between ++ .handle second again :: after)) :
    clock.unixTimeSeconds 0 ≤ again.unixTimeSeconds 0 := by
  have hn := h.nondecreasing
  rw [List.flatMap_append, List.pairwise_append] at hn
  apply hn.2.2
  · rw [List.flatMap_append, List.flatMap_cons]
    exact List.mem_append_right _ (List.mem_append_left _ List.mem_cons_self)
  · rw [List.flatMap_cons]
    exact List.mem_append_left _ List.mem_cons_self

section Redelivery

variable [ArduinoJson] {before between after : List DedupOp}

theorem accepted_first_iff (hj : ArduinoJson.RoundTrips) (hc : 0 < capacity) (deviceId : Bytes)
    (hb : clock.Bounded) (hsame : SameOpenDoor first second) :
    (handle deviceId (cacheAfter deviceId capacity before) clock first).1.hasAccepted = true ↔
      first.commandId ∉ (recordedIds capacity before).rtake capacity ∧
        TimeSafe clock first kOpenDoorMaxValiditySeconds.toInt := by
  rw [handle_hasAccepted_iff hb, Acceptable, find_cacheAfter_eq_none_iff hj hc]
  exact and_congr_right' (and_iff_right hsame.type)

/-- A command delivered before is still cached unless `capacity` newer ids were recorded. -/
theorem cached_again_iff (hj : ArduinoJson.RoundTrips) (hc : 0 < capacity) (deviceId : Bytes)
    (hsame : SameOpenDoor first second) :
    IDedupCache.find (cacheAfter deviceId capacity (before ++ .handle first clock :: between))
        second.commandId ≠ none ↔
      pushedSince first.commandId
        (recordedIds capacity (before ++ .handle first clock :: between)) < capacity := by
  have hmem : first.commandId ∈
      recordedIds capacity (before ++ .handle first clock :: between) := by
    rw [List.append_cons]
    exact mem_recordedIds_append (mem_recordedIds_handle capacity before first clock) between
  rw [ne_eq, find_cacheAfter_eq_none_iff hj hc, not_not, hsame.commandId, mem_rtake_iff]
  exact and_iff_right hmem

theorem replayedOrExpired_again_iff (hj : ArduinoJson.RoundTrips) (hc : 0 < capacity)
    (deviceId : Bytes)
    (hclock : TrustworthyClock
      (before ++ .handle first clock :: between ++ .handle second again :: after))
    (hsame : SameOpenDoor first second)
    (hsafe : TimeSafe clock first kOpenDoorMaxValiditySeconds.toInt) :
    ReplayedOrExpired deviceId
        (cacheAfter deviceId capacity (before ++ .handle first clock :: between)) again second ↔
      (again.unixTimeSeconds 0 ≤ second.expiresAtUnixSeconds →
        pushedSince first.commandId
          (recordedIds capacity (before ++ .handle first clock :: between)) < capacity) := by
  have hmem : .handle second again ∈
      before ++ .handle first clock :: between ++ .handle second again :: after :=
    List.mem_append_right _ List.mem_cons_self
  have hrefusal := hsame.refusal_again hsafe.toAdmissible (hclock.valid _ _ hmem)
    (hclock.bounded _ _ hmem) hclock.le
  rw [← Int64.not_lt, ← cached_again_iff hj hc deviceId hsame]
  rw [replayedOrExpired_iff hrefusal, or_iff_not_imp_right]

end Redelivery

/-- Over any run, an `OPEN_DOOR` command is accepted at most once exactly when its id is never
pushed out of the cache by newer ones within its window. -/
theorem acceptedAtMostOnce_iff [ArduinoJson] (hj : ArduinoJson.RoundTrips) (hc : 0 < capacity)
    (deviceId : Bytes) (ops : List DedupOp) (hclock : TrustworthyClock ops) :
    AcceptedAtMostOnce deviceId capacity ops ↔ KeptWhileValid capacity ops := by
  have hbounded {before first rest} {clock : ClockAnswers}
      (hops : ops = before ++ .handle first clock :: rest) :
      clock.Bounded := by
    apply hclock.bounded first
    rw [hops]
    exact List.mem_append_right _ List.mem_cons_self
  constructor
  · intro h before first clock between second again after hops hsame hnew hsafe
    have hb : clock.Bounded := hbounded (hops.trans (List.append_assoc _ _ _))
    have haccepted := (accepted_first_iff hj hc deviceId hb hsame).mpr ⟨hnew, hsafe⟩
    have hagain := h before first clock between second again after hops hsame haccepted
    subst hops
    exact (replayedOrExpired_again_iff hj hc deviceId hclock hsame hsafe).mp hagain
  · intro h before first clock between second again after hops hsame haccepted
    have hb : clock.Bounded := hbounded (hops.trans (List.append_assoc _ _ _))
    obtain ⟨hnew, hsafe⟩ := (accepted_first_iff hj hc deviceId hb hsame).mp haccepted
    have hkept := h before first clock between second again after hops hsame hnew hsafe
    subst hops
    exact (replayedOrExpired_again_iff hj hc deviceId hclock hsame hsafe).mpr hkept

theorem pushedSince_le_length [DecidableEq κ] (k : κ) (pushed : List κ) :
    pushedSince k pushed ≤ pushed.length := by
  rw [pushedSince]
  exact (List.takeWhile_sublist _).length_le.trans_eq List.length_reverse

theorem recordedIds_length_le (capacity : Nat) (ops : List DedupOp) :
    (recordedIds capacity ops).length ≤ ops.length := by
  induction ops using List.reverseRecOn with
  | nil => exact Nat.le_refl _
  | append_singleton ops op ih =>
    rw [recordedIds_concat, List.length_append, List.length_singleton]
    cases op with
    | reboot => exact Nat.le_succ_of_le ih
    | handle command clock =>
      rw [noteId]
      split
      · exact Nat.le_succ_of_le ih
      · rw [List.length_append, List.length_singleton]
        exact Nat.succ_le_succ ih

theorem keptWhileValid_of_length_le (h : ops.length ≤ capacity) : KeptWhileValid capacity ops := by
  intro before first clock between second again after hops _ _ _ _
  have hpushed := pushedSince_le_length first.commandId
    (recordedIds capacity (before ++ .handle first clock :: between))
  have hrecorded := recordedIds_length_le capacity (before ++ .handle first clock :: between)
  rw [hops, List.length_append, List.length_cons] at h
  omega

/-- A clock synchronized at `seconds`. -/
def clockAt (seconds : Int64) : ClockAnswers := ⟨fun _ => true, fun _ => seconds⟩

def openDoorAt1000 (commandId : Bytes) : DeviceCommand where
  type := .openDoor
  rawCommand := ascii "OPEN_DOOR"
  commandId := commandId
  deviceId := ascii "ib-1"
  rawPayload := []
  issuedAtUnixSeconds := 1000
  hasIssuedAt := true
  expiresAtUnixSeconds := 1030
  hasExpiresAt := true

def deliverAt1000 (commandId : Bytes) : DedupOp := .handle (openDoorAt1000 commandId) (clockAt 1000)

theorem clockAt_bounded : (clockAt 1000).Bounded := by
  intro n
  change -2 ^ 62 ≤ (1000 : Int64).toInt ∧ (1000 : Int64).toInt ≤ 2 ^ 62
  decide

theorem openDoorAt1000_timeSafe (commandId : Bytes) :
    TimeSafe (clockAt 1000) (openDoorAt1000 commandId) kOpenDoorMaxValiditySeconds.toInt :=
  ⟨⟨rfl, rfl, rfl, (by decide : (0 : Int) ≤ (1000 : Int64).toInt),
    (by decide : (1000 : Int64).toInt < (1030 : Int64).toInt),
    (by decide : (1030 : Int64).toInt ≤ (1000 : Int64).toInt + kOpenDoorMaxValiditySeconds.toInt),
    rfl, (by decide : (0 : Int) ≤ (1000 : Int64).toInt),
    (by decide : (1000 : Int64).toInt ≤ (1000 : Int64).toInt + kClockSkewToleranceSeconds.toInt)⟩,
    (by decide : (1000 : Int64).toInt ≤ (1030 : Int64).toInt)⟩

theorem sameOpenDoor_refl (commandId : Bytes) :
    SameOpenDoor (openDoorAt1000 commandId) (openDoorAt1000 commandId) :=
  ⟨rfl, rfl, rfl, rfl, rfl, rfl, rfl⟩

theorem trustworthyClock_at1000 (ids : List Bytes) :
    TrustworthyClock (ids.map deliverAt1000) := by
  have hclock {command clock} (h : .handle command clock ∈ ids.map deliverAt1000) :
      clock = clockAt 1000 := by
    obtain ⟨id, _, hid⟩ := List.mem_map.mp h
    cases hid
    rfl
  have hreadings : ∀ seconds ∈ (ids.map deliverAt1000).flatMap DedupOp.readings,
      seconds = 1000 := by
    intro seconds h
    obtain ⟨op, hop, h⟩ := List.mem_flatMap.mp h
    obtain ⟨id, _, rfl⟩ := List.mem_map.mp hop
    rcases List.mem_cons.mp h with h | h
    · exact h
    · exact List.mem_singleton.mp h
  refine ⟨fun _ _ h n => ?_, fun _ _ h => ?_, ?_⟩
  · rw [hclock h]
    rfl
  · rw [hclock h]
    exact clockAt_bounded
  · apply List.pairwise_of_forall_mem_list
    intro s hs t ht
    rw [hreadings s hs, hreadings t ht]
    exact Int64.le_refl _

def otherId (n : Nat) : Bytes :=
  List.replicate 30 48 ++ [48 + .ofNat (n / 10), 48 + .ofNat (n % 10)]

/-- One command, 32 others and the first again, all at the second they were issued. -/
def floodedRun : List DedupOp :=
  deliverAt1000 (List.replicate 32 97) :: (List.range 32).map (deliverAt1000 ∘ otherId) ++
    [deliverAt1000 (List.replicate 32 97)]

/-- With the default cache, an `OPEN_DOOR` command is accepted at most once over a run exactly when
fewer than 32 new ids are recorded before each redelivery within its window. -/
theorem openDoor_acceptedAtMostOnce_iff_keptWhileValid [ArduinoJson] (hj : ArduinoJson.RoundTrips)
    (deviceId : Bytes) (ops : List DedupOp) (hclock : TrustworthyClock ops) :
    AcceptedAtMostOnce deviceId kDefaultDedupCacheCapacity ops ↔
      KeptWhileValid kDefaultDedupCacheCapacity ops :=
  acceptedAtMostOnce_iff hj (by decide) deviceId ops hclock

/-- Two prompt deliveries of one command: only the first is accepted. -/
theorem openDoor_acceptedAtMostOnce_twice_delivered :
    @AcceptedAtMostOnce compactJson (ascii "ib-1") kDefaultDedupCacheCapacity
      ([List.replicate 32 97, List.replicate 32 97].map deliverAt1000) :=
  (@openDoor_acceptedAtMostOnce_iff_keptWhileValid compactJson compactJson_roundTrips
    (ascii "ib-1") _ (trustworthyClock_at1000 _)).mpr (keptWhileValid_of_length_le (by decide))

/-- A flood of other commands makes the device accept a command twice. -/
theorem floodedRun_accepts_twice :
    TrustworthyClock floodedRun ∧
      ¬ @AcceptedAtMostOnce compactJson (ascii "ib-1") kDefaultDedupCacheCapacity floodedRun := by
  have hids : floodedRun = (List.replicate 32 97 :: (List.range 32).map otherId ++
      [List.replicate 32 97]).map deliverAt1000 := by
    simp only [floodedRun, List.map_append, List.map_cons, List.map_map, List.map_nil]
  have hclock : TrustworthyClock floodedRun := by
    rw [hids]
    exact trustworthyClock_at1000 _
  refine ⟨hclock, fun h => ?_⟩
  have hkept := (@acceptedAtMostOnce_iff _ compactJson compactJson_roundTrips (by decide)
    (ascii "ib-1") floodedRun hclock).mp h
  have hfew := hkept [] _ _ _ _ _ [] rfl (sameOpenDoor_refl _) (by decide)
    (openDoorAt1000_timeSafe _) (by decide)
  revert hfew
  decide +kernel

end InterBridge
