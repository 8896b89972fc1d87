import InterBridge.Foundations.Transitions
import InterBridge.Protocol.CommandCache
import InterBridge.Protocol.PersistentOutbox
import InterBridge.Provisioning.DeviceIdentity
import InterBridge.Provisioning.FactoryResetCoordinator
import InterBridge.Provisioning.OperationWrites

namespace InterBridge
open Foundations
set_option autoImplicit true

structure DeviceConfig where
  hardwareVersion : Bytes
  firmwareVersion : Bytes
  fleetProvisioningTemplateName : Bytes

def DeviceConfig.identityProvider (config : DeviceConfig) : DeviceIdentityProvider :=
  ⟨config.hardwareVersion, config.firmwareVersion⟩

/-- What is in memory from a boot to the next restart or loss of power. -/
structure Running (ρ : Type) where
  random : ρ
  identity : DeviceIdentity
  provisioningManager : ProvisioningManager
  dedupCache : InMemoryDedupCache
  eventOutbox : MemoryEventOutbox

/-- A device is off until it boots. -/
structure Device (ρ : Type) where
  store : PersistentStore
  running : Option (Running ρ) := none

/-- What the main program does with the parts that write to the store. -/
inductive DeviceAction (ρ : Type) where
  | boot (random : ρ) (nowMs : UInt32) (answers : ProvisioningAnswers)
  | provisioning (operation : ProvisioningManager.Operation)
  | factoryReset
  | record (commandId : Bytes) (entry : DedupEntry)
  | enqueue (eventId eventJson : Bytes)
  | dequeue (eventId : Bytes)

def DeviceAction.IsBoot : DeviceAction ρ → Prop
  | .boot _ _ _ => True
  | .provisioning _ | .factoryReset | .record _ _ | .enqueue _ _ | .dequeue _ => False

theorem DeviceAction.IsBoot.eq_boot {action : DeviceAction ρ} (h : action.IsBoot) :
    ∃ random nowMs answers, action = .boot random nowMs answers := by
  cases action with
  | boot random nowMs answers => exact ⟨random, nowMs, answers, rfl⟩
  | provisioning => exact h.elim
  | factoryReset => exact h.elim
  | record => exact h.elim
  | enqueue => exact h.elim
  | dequeue => exact h.elim

/-- The actions of the command cache and of the outbox. -/
def DeviceAction.Saves : DeviceAction ρ → Prop
  | .record _ _ | .enqueue _ _ | .dequeue _ => True
  | .boot _ _ _ | .provisioning _ | .factoryReset => False

/-- What an action comes to when nothing interrupts it: the store writes it makes in order, what
is in memory afterwards, and the identity a boot loads. -/
structure Outcome (ρ : Type) where
  writes : List StoreWrite := []
  running : Option (Running ρ)
  loaded : Option DeviceIdentity := none

/-- An action, and after how many of its writes power is lost, if it is. -/
structure DeviceInput (ρ : Type) where
  action : DeviceAction ρ
  powerLostAfter : Option Nat := none

abbrev DeviceTransition (ρ : Type) := Transition (Device ρ) (DeviceInput ρ) (Option DeviceIdentity)

/-- The manager refers to the store of the device. -/
def Running.manager (r : Running ρ) (store : PersistentStore) : ProvisioningManager :=
  { r.provisioningManager with store := store }

section Json
variable [ArduinoJson]

def dedupWrite (cache : InMemoryDedupCache) : StoreWrite :=
  .put dedupStorageKey (serializeJson (.arr (cache.allEntries.map entryDocument)))

def outboxWrite (outbox : MemoryEventOutbox) : StoreWrite :=
  .put outboxStorageKey (serializeJson (.arr (outbox.pending.map outboxDocument)))

end Json

namespace Device
variable [IRandomSource ρ] [ArduinoJson]

def boot (config : DeviceConfig) (store : PersistentStore) (random : ρ) (nowMs : UInt32)
    (answers : ProvisioningAnswers) : Outcome ρ :=
  let loaded := config.identityProvider.load store random
  let (random, proofOfPossession) := generateHexId loaded.random (ascii "pop")
  let manager : ProvisioningManager :=
    { store := store.writeAll loaded.writes
      templateName := config.fleetProvisioningTemplateName
      deviceId := loaded.value.deviceId
      proofOfPossession := proofOfPossession
      advertisementInfo := buildBleAdvertisementInfo loaded.value.deviceId }
  { writes := loaded.writes
    running := some
      { random := random
        identity := loaded.value
        provisioningManager := manager.checkAtBoot nowMs answers
        dedupCache := PersistentDedupCache.load store kDefaultDedupCacheCapacity
        eventOutbox := PersistentEventOutbox.load store kDefaultEventOutboxCapacity }
    loaded := some loaded.value }

/-- A device that is off does nothing. -/
def whenRunning (d : Device ρ) (act : Running ρ → Outcome ρ) : Outcome ρ :=
  match d.running with
  | none => { running := none }
  | some r => act r

/-- The reset is reported as a protocol event, and then the device restarts. -/
def factoryReset (r : Running ρ) : Outcome ρ :=
  let (_, eventId) := generateHexId r.random (ascii "evt")
  let event : DeviceEvent :=
    { deviceId := r.identity.deviceId
      event := .factoryResetRequested
      eventId := eventId
      callId := []
      timestamp := [] }
  { writes := FactoryResetCoordinator.executeWrites ++
      [outboxWrite (r.eventOutbox.enqueue event.eventId event.toJson)]
    running := none }

def outcome (config : DeviceConfig) (d : Device ρ) : DeviceAction ρ → Outcome ρ
  | .boot random nowMs answers => boot config d.store random nowMs answers
  | .provisioning operation => d.whenRunning fun r =>
    { writes := (r.manager d.store).operationWrites operation
      running := some
        { r with provisioningManager := ((r.manager d.store).operate operation).1 } }
  | .factoryReset => d.whenRunning factoryReset
  | .record commandId entry => d.whenRunning fun r =>
    let cache := r.dedupCache.record commandId entry
    { writes := [dedupWrite cache], running := some { r with dedupCache := cache } }
  | .enqueue eventId eventJson => d.whenRunning fun r =>
    let outbox := r.eventOutbox.enqueue eventId eventJson
    { writes := [outboxWrite outbox], running := some { r with eventOutbox := outbox } }
  | .dequeue eventId => d.whenRunning fun r =>
    let outbox := r.eventOutbox.dequeue eventId
    { writes := [outboxWrite outbox], running := some { r with eventOutbox := outbox } }

/-- The writes made before power is lost, or all of them. -/
def made (config : DeviceConfig) (d : Device ρ) (input : DeviceInput ρ) : List StoreWrite :=
  match input.powerLostAfter with
  | none => (d.outcome config input.action).writes
  | some n => (d.outcome config input.action).writes.take n

def step (config : DeviceConfig) (d : Device ρ) (input : DeviceInput ρ) :
    Device ρ × Option DeviceIdentity :=
  match input.powerLostAfter with
  | none => (⟨d.store.writeAll (d.made config input), (d.outcome config input.action).running⟩,
    (d.outcome config input.action).loaded)
  | some _ => (⟨d.store.writeAll (d.made config input), none⟩, none)

theorem step_store (config : DeviceConfig) (d : Device ρ) (input : DeviceInput ρ) :
    (d.step config input).1.store = d.store.writeAll (d.made config input) := by
  rw [step]
  split
  · rfl
  · rfl

theorem made_cut (config : DeviceConfig) (d : Device ρ) (input : DeviceInput ρ) :
    d.made config input <+: (d.outcome config input.action).writes := by
  rw [made]
  split
  · exact List.prefix_refl _
  · exact List.take_prefix _ _

section Uninterrupted
variable (config : DeviceConfig) {d : Device ρ} (h : d.running = some r)
include h

/-- Without a loss of power the store is what the parts make of it. -/
theorem step_provisioning (operation : ProvisioningManager.Operation) :
    (d.step config ⟨.provisioning operation, none⟩).1.store =
      ((r.manager d.store).operate operation).1.store := by
  rw [step_store, made, outcome, whenRunning, h, ProvisioningManager.operate_store]
  rfl

theorem step_factoryReset :
    ∃ eventId eventJson, (d.step config ⟨.factoryReset, none⟩).1.store =
      (PersistentEventOutbox.enqueue ⟨(FactoryResetCoordinator.execute d.store).1, r.eventOutbox⟩
        eventId eventJson).store := by
  rw [step_store, made, outcome, whenRunning, h]
  dsimp only [factoryReset]
  rw [PersistentStore.writeAll_append]
  exact ⟨_, _, rfl⟩

theorem step_record (commandId : Bytes) (entry : DedupEntry) :
    (d.step config ⟨.record commandId entry, none⟩).1.store =
      (PersistentDedupCache.record ⟨d.store, r.dedupCache⟩ commandId entry).store := by
  rw [step_store, made, outcome, whenRunning, h]
  rfl

theorem step_enqueue (eventId eventJson : Bytes) :
    (d.step config ⟨.enqueue eventId eventJson, none⟩).1.store =
      (PersistentEventOutbox.enqueue ⟨d.store, r.eventOutbox⟩ eventId eventJson).store := by
  rw [step_store, made, outcome, whenRunning, h]
  rfl

theorem step_dequeue (eventId : Bytes) :
    (d.step config ⟨.dequeue eventId, none⟩).1.store =
      (PersistentEventOutbox.dequeue ⟨d.store, r.eventOutbox⟩ eventId).store := by
  rw [step_store, made, outcome, whenRunning, h]
  rfl

end Uninterrupted

/-- The stores a step passes through; power may be lost in each of them. -/
def moments (config : DeviceConfig) (t : DeviceTransition ρ) : List PersistentStore :=
  (t.before.made config t.input).inits.map t.before.store.writeAll

theorem mem_moments {config : DeviceConfig} {t : DeviceTransition ρ}
    {store : PersistentStore} :
    store ∈ moments config t ↔
      ∃ written, written <+: t.before.made config t.input ∧
        t.before.store.writeAll written = store := by
  simp only [moments, List.mem_map, List.mem_inits]

theorem exists_cut {config : DeviceConfig} {d : Device ρ} {input : DeviceInput ρ}
    {store : PersistentStore}
    (h : store ∈ moments config (.of (step config) d input)) :
    ∃ written, written <+: (d.outcome config input.action).writes ∧
      store = d.store.writeAll written := by
  obtain ⟨written, hmade, hstore⟩ := mem_moments.mp h
  exact ⟨written, hmade.trans (made_cut config d input), hstore.symm⟩

theorem last_mem_moments (config : DeviceConfig) (d : Device ρ) (input : DeviceInput ρ) :
    (d.step config input).1.store ∈ moments config (.of (step config) d input) :=
  mem_moments.mpr ⟨_, List.prefix_refl _, (step_store config d input).symm⟩

theorem outcome_off (config : DeviceConfig) {d : Device ρ} (h : d.running = none)
    (hboot : ¬ action.IsBoot) : d.outcome config action = { running := none } := by
  cases action with
  | boot random nowMs answers => exact absurd trivial hboot
  | provisioning operation => rw [outcome, whenRunning, h]
  | factoryReset => rw [outcome, whenRunning, h]
  | record commandId entry => rw [outcome, whenRunning, h]
  | enqueue eventId eventJson => rw [outcome, whenRunning, h]
  | dequeue eventId => rw [outcome, whenRunning, h]

theorem step_off (config : DeviceConfig) (store : PersistentStore) {input : DeviceInput ρ}
    (hboot : ¬ input.action.IsBoot) :
    step config ⟨store, none⟩ input = (⟨store, none⟩, none) := by
  rw [step, made, outcome_off config rfl hboot]
  cases input.powerLostAfter with
  | none => rfl
  | some n =>
    dsimp only
    rw [List.take_nil]
    rfl

theorem step_powerLost (config : DeviceConfig) (d : Device ρ) {input : DeviceInput ρ}
    (h : input.powerLostAfter = some n) :
    d.step config input =
      (⟨d.store.writeAll ((d.outcome config input.action).writes.take n), none⟩, none) := by
  rw [step, made, h]

theorem step_uninterrupted (config : DeviceConfig) (d : Device ρ) {input : DeviceInput ρ}
    (h : input.powerLostAfter = none) :
    d.step config input = (⟨d.store.writeAll (d.outcome config input.action).writes,
      (d.outcome config input.action).running⟩, (d.outcome config input.action).loaded) := by
  rw [step, made, h]

theorem outcome_saves (config : DeviceConfig) {d : Device ρ} {action : DeviceAction ρ}
    (haction : action.Saves) (h : (d.outcome config action).running = some r') :
    ∃ r, d.running = some r ∧ r'.provisioningManager = r.provisioningManager := by
  cases hrunning : d.running with
  | none =>
    have hboot : ¬ action.IsBoot := by
      intro hboot
      obtain ⟨random, nowMs, answers, rfl⟩ := hboot.eq_boot
      exact haction
    rw [outcome_off config hrunning hboot] at h
    cases h
  | some r =>
    refine ⟨r, rfl, ?_⟩
    cases action with
    | boot => exact haction.elim
    | provisioning => exact haction.elim
    | factoryReset => exact haction.elim
    | record commandId entry =>
      rw [outcome, whenRunning, hrunning] at h
      cases h
      rfl
    | enqueue eventId eventJson =>
      rw [outcome, whenRunning, hrunning] at h
      cases h
      rfl
    | dequeue eventId =>
      rw [outcome, whenRunning, hrunning] at h
      cases h
      rfl

/-- What an action writes, and when. -/
inductive Acts (d : Device ρ) : DeviceAction ρ → List StoreWrite → Prop where
  | idle (hrunning : d.running = none) : Acts d action []
  | boot (hwrites : WritesTo [kDeviceIdKey, kSetupCodeKey] writes) :
    Acts d (.boot random nowMs answers) writes
  | provisioning (hrunning : d.running = some r)
      (hwrites : (r.manager d.store).WritesOf operation writes) :
    Acts d (.provisioning operation) writes
  | factoryReset (hrunning : d.running = some r) (hkey : w.key = outboxStorageKey) :
    Acts d .factoryReset (FactoryResetCoordinator.executeWrites ++ [w])
  | saves (haction : action.Saves)
      (hwrites : WritesTo [dedupStorageKey, outboxStorageKey] writes) :
    Acts d action writes

theorem acts (config : DeviceConfig) (d : Device ρ) (action : DeviceAction ρ) :
    Acts d action (d.outcome config action).writes := by
  cases action with
  | boot random nowMs answers => exact .boot (config.identityProvider.load_writes d.store random)
  | provisioning operation =>
    rw [outcome, whenRunning]
    cases h : d.running with
    | none => exact .idle h
    | some r => exact .provisioning h (ProvisioningManager.operationWrites_cases _ operation)
  | factoryReset =>
    rw [outcome, whenRunning]
    cases h : d.running with
    | none => exact .idle h
    | some r => exact .factoryReset h rfl
  | record commandId entry =>
    rw [outcome, whenRunning]
    cases h : d.running with
    | none => exact .idle h
    | some r => exact .saves trivial (List.forall_mem_singleton.mpr List.mem_cons_self)
  | enqueue eventId eventJson =>
    rw [outcome, whenRunning]
    cases h : d.running with
    | none => exact .idle h
    | some r =>
      exact .saves trivial
        (List.forall_mem_singleton.mpr (List.mem_cons_of_mem _ List.mem_cons_self))
  | dequeue eventId =>
    rw [outcome, whenRunning]
    cases h : d.running with
    | none => exact .idle h
    | some r =>
      exact .saves trivial
        (List.forall_mem_singleton.mpr (List.mem_cons_of_mem _ List.mem_cons_self))

def benchConfig : DeviceConfig := ⟨ascii "1.0", ascii "0.1.0", []⟩

/-- The app sends credentials, Wi-Fi connects, and the registration succeeds. -/
def enrollingAnswers : ProvisioningAnswers where
  startAdvertising _ _ := true
  sessionActive := false
  receivedCredentials := some ⟨ascii "Home", ascii "password"⟩
  wifiConnected := true
  fleet := ⟨fun _ => some ⟨ascii "key", ascii "csr"⟩, fun _ => some ⟨ascii "cert", ascii "token"⟩,
    fun _ _ _ => true⟩

end Device
end InterBridge
