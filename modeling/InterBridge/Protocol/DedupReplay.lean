import InterBridge.Foundations.Transitions
import InterBridge.Protocol.CommandHandler

namespace InterBridge
open Foundations
set_option autoImplicit true

/-- What can happen to a device's command cache: a command is handled, or the device restarts. -/
inductive DedupOp where
  | handle (command : DeviceCommand) (clock : ClockAnswers)
  | reboot

/-- The first handling of a command id, with the terminal response it was given. -/
structure FirstHandling where
  command : DeviceCommand
  terminal : CommandResponse

def FirstHandling.commandId (first : FirstHandling) : Bytes := first.command.commandId

def FirstHandling.row (first : FirstHandling) : Bytes × DedupEntry :=
  (first.commandId, first.terminal.toEntry)

/-- The reference list: an id already in it leaves it unchanged, any other is appended and the
oldest beyond the capacity are dropped. -/
def remember (capacity : Nat) (firsts : List FirstHandling) (first : FirstHandling) :
    List FirstHandling :=
  if first.commandId ∈ firsts.map FirstHandling.commandId then firsts
  else (firsts ++ [first]).rtake capacity

section

variable [ArduinoJson]

def dedupStep (deviceId : Bytes) (capacity : Nat) (cache : PersistentDedupCache) :
    DedupOp → PersistentDedupCache × Option CommandResponses
  | .handle command clock =>
    let (responses, cache) := handle deviceId cache clock command
    (cache, some responses)
  | .reboot => (.new cache.store capacity, none)

end

abbrev DedupTransition := Transition PersistentDedupCache DedupOp (Option CommandResponses)

def rememberStep (capacity : Nat) (firsts : List FirstHandling) (t : DedupTransition) :
    List FirstHandling :=
  match t.input, t.output with
  | .handle command _, some responses => remember capacity firsts ⟨command, responses.terminal⟩
  | _, _ => firsts

/-- The reference list after the steps of a run, from the responses the run reported. -/
def firstHandlings (capacity : Nat) (ts : List DedupTransition) : List FirstHandling :=
  ts.foldl (rememberStep capacity) []

theorem firstHandlings_concat (capacity : Nat) (ts : List DedupTransition) (t : DedupTransition) :
    firstHandlings capacity (ts ++ [t]) = rememberStep capacity (firstHandlings capacity ts) t := by
  rw [firstHandlings, List.foldl_append]
  rfl

theorem map_row_keys (firsts : List FirstHandling) :
    (firsts.map FirstHandling.row).map Prod.fst = firsts.map FirstHandling.commandId := by
  rw [List.map_map]
  rfl

/-- The cache holds the image of the reference list, whose responses were all built for the
commands they answered. -/
structure Replays [ArduinoJson] (deviceId : Bytes) (capacity : Nat) (firsts : List FirstHandling)
    (cache : PersistentDedupCache) : Prop where
  synced : cache.Synced capacity
  rows : cache.memory.rows = firsts.map FirstHandling.row
  terminal : ∀ first ∈ firsts, ∃ code,
    first.terminal = buildResponse deviceId first.command .rejected (some code)

namespace Replays

variable [ArduinoJson] {deviceId : Bytes} {firsts : List FirstHandling}
  {cache : PersistentDedupCache}

theorem find_eq_none_iff (h : Replays deviceId capacity firsts cache) :
    IDedupCache.find cache commandId = none ↔ commandId ∉ firsts.map FirstHandling.commandId := by
  rw [← map_row_keys, ← h.rows]
  exact lookup_eq_none_iff_notMem

theorem find_of_mem (h : Replays deviceId capacity firsts cache) (hf : first ∈ firsts) :
    IDedupCache.find cache first.commandId = some first.terminal.toEntry := by
  apply lookup_of_mem h.synced.wellFormed.nodup
  rw [h.rows]
  exact List.mem_map_of_mem hf

theorem fresh (deviceId : Bytes) (capacity : Nat) :
    Replays deviceId capacity [] (.new .empty capacity) :=
  ⟨.fresh capacity, rfl, List.forall_mem_nil _⟩

theorem reboot (hj : ArduinoJson.RoundTrips) (h : Replays deviceId capacity firsts cache) :
    PersistentDedupCache.new cache.store capacity = cache :=
  h.synced.reload hj

theorem handle_listed (h : Replays deviceId capacity firsts cache) (hf : first ∈ firsts)
    (hid : command.commandId = first.commandId) :
    ∃ response, handle deviceId cache clock command = (terminalOnly response, cache) ∧
      response.status = first.terminal.status ∧ response.error = first.terminal.error ∧
      (command = first.command → response = first.terminal) := by
  have hfind := h.find_of_mem hf
  obtain ⟨code, hcode⟩ := h.terminal first hf
  rw [← hid] at hfind
  refine ⟨_, handle_cached hfind, ?_, ?_, ?_⟩
  · rfl
  · rw [hcode]
    rfl
  · intro hcommand
    rw [hcommand, hcode]
    exact fromCache_toEntry

theorem handle_unlisted (h : Replays deviceId capacity firsts cache) (hc : 0 < capacity)
    (hid : command.commandId ∉ firsts.map FirstHandling.commandId) :
    Replays deviceId capacity
      ((firsts ++ [FirstHandling.mk command
        (handle deviceId cache clock command).1.terminal]).rtake capacity)
      (handle deviceId cache clock command).2 := by
  have hfind := h.find_eq_none_iff.mpr hid
  have hterminal := @firstResponses_terminal deviceId clock command
  have hk : command.commandId ∉ cache.memory.rows.map Prod.fst := by
    rw [h.rows, map_row_keys]
    exact hid
  rw [handle_uncached hfind]
  refine ⟨?_, ?_, ?_⟩
  · apply h.synced.record hc hfind
    rw [hterminal]
    exact buildResponse_toEntry_normal
  · calc (cache.record command.commandId _).memory.rows
        = upsert capacity cache.memory.rows command.commandId _ := by
          rw [PersistentDedupCache.record_rows, h.synced.capacity_eq]
      _ = (cache.memory.rows ++ [(command.commandId, _)]).rtake capacity :=
          upsert_eq_rtake hc h.synced.wellFormed.length_le hk _
      _ = _ := by
          rw [rtake_map, List.map_append, h.rows]
          rfl
  · intro first hfirst
    have hmem := List.mem_of_mem_drop hfirst
    rcases List.mem_append.mp hmem with hold | hnew
    · exact h.terminal first hold
    · rw [List.mem_singleton] at hnew
      subst hnew
      exact ⟨_, hterminal⟩

theorem step (hj : ArduinoJson.RoundTrips) (hc : 0 < capacity)
    (h : Replays deviceId capacity firsts cache) (op : DedupOp) :
    Replays deviceId capacity
      (rememberStep capacity firsts (.of (dedupStep deviceId capacity) cache op))
      (dedupStep deviceId capacity cache op).1 := by
  cases op with
  | reboot =>
    simp only [dedupStep, Transition.of, rememberStep, h.reboot hj]
    exact h
  | handle command clock =>
    simp only [dedupStep, Transition.of, rememberStep, remember]
    split
    · next hid =>
      obtain ⟨first, hf, hfirst⟩ := List.mem_map.mp hid
      obtain ⟨response, hr, _⟩ := h.handle_listed hf hfirst.symm
      rw [hr]
      exact h
    · next hid => exact h.handle_unlisted hc hid

/-- The cache follows the reference list through every run. -/
theorem run (hj : ArduinoJson.RoundTrips) (hc : 0 < capacity) (deviceId : Bytes)
    (ops : List DedupOp) :
    Replays deviceId capacity
      (firstHandlings capacity
        (transitions (dedupStep deviceId capacity) (.new .empty capacity) ops))
      (finalState (dedupStep deviceId capacity) (.new .empty capacity) ops) := by
  apply run_induction (motive := fun ts cache =>
    Replays deviceId capacity (firstHandlings capacity ts) cache)
  · exact fresh deviceId capacity
  · intro ts cache op h
    rw [firstHandlings_concat]
    exact h.step hj hc op

end Replays

/-- Through every run the cache equals the reference list, in memory and in the store; listed
commands are answered as they first were and change nothing. -/
theorem dedup_replays_first_handlings [ArduinoJson] (hj : ArduinoJson.RoundTrips)
    (deviceId : Bytes) (capacity : Nat) (hc : 0 < capacity) (ops : List DedupOp) :
    let start := PersistentDedupCache.new .empty capacity
    let cache := finalState (dedupStep deviceId capacity) start ops
    let firsts := firstHandlings capacity (transitions (dedupStep deviceId capacity) start ops)
    cache.memory.allEntries = firsts.map FirstHandling.row ∧
    (dedupStep deviceId capacity cache .reboot).1 = cache ∧
    (∀ command clock first, first ∈ firsts → command.commandId = first.commandId →
      ∃ response, handle deviceId cache clock command = (terminalOnly response, cache) ∧
        response.status = first.terminal.status ∧ response.error = first.terminal.error ∧
        (command = first.command → response.toJson = first.terminal.toJson)) ∧
    ∀ store, (dedupStep deviceId capacity
        (dedupStep deviceId capacity (.new store capacity) .reboot).1 .reboot).1 =
      (dedupStep deviceId capacity (.new store capacity) .reboot).1 := by
  intro start cache firsts
  have h : Replays deviceId capacity firsts cache := .run hj hc deviceId ops
  refine ⟨h.rows, h.reboot hj, ?_, fun store => rfl⟩
  intro command clock first hf hid
  obtain ⟨response, hr, hs, he, hsame⟩ := h.handle_listed hf hid
  refine ⟨response, hr, hs, he, fun hcommand => ?_⟩
  rw [hsame hcommand]

/-- An accepted `OPEN_DOOR` command is still cached after a restart. -/
theorem dedup_replays_openDoor_after_reboot :
    (finalState (@dedupStep compactJson (ascii "ib-1") kDefaultDedupCacheCapacity)
      (@PersistentDedupCache.new compactJson .empty kDefaultDedupCacheCapacity)
      [.handle farFutureOpenDoor swingingClock, .reboot]).memory.allEntries =
    [(List.replicate 32 97, ⟨.rejected, true, .capabilityDisabled⟩)] :=
  (@dedup_replays_first_handlings compactJson compactJson_roundTrips (ascii "ib-1")
    kDefaultDedupCacheCapacity (by decide) _).1.trans (by decide +kernel)

end InterBridge
