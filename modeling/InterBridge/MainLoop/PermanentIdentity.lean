import InterBridge.MainLoop.Device

namespace InterBridge
open Foundations
open ProvisioningManager
set_option autoImplicit true

namespace FactoryResetCoordinator

/-- The Wi-Fi configuration is gone, the mark is reset, and nothing else changed. -/
structure ClearsConfiguration (store store' : PersistentStore) : Prop where
  ssid : store'.get kWifiSsidKey = none
  password : store'.get kWifiPasswordKey = none
  provisioned : store'.get kProvisionedKey = some (ascii "0")
  others : ∀ key ∉ [kWifiSsidKey, kWifiPasswordKey, kProvisionedKey],
    store'.get key = store.get key
  certificate : DeviceCredentialStore.loadCertificate store' =
    DeviceCredentialStore.loadCertificate store
  privateKey : DeviceCredentialStore.loadPrivateKey store' =
    DeviceCredentialStore.loadPrivateKey store

theorem execute_clears (store : PersistentStore) : ClearsConfiguration store (execute store).1 where
  ssid := execute_ssid store
  password := execute_password store
  provisioned := execute_provisioned store
  others _ hkey := execute_get_of_notMem store hkey
  certificate := execute_get_of_notMem store (by decide)
  privateKey := execute_get_of_notMem store (by decide)

end FactoryResetCoordinator

namespace Device

/-- A factory reset that ran to its end on a running device. -/
def Resets (t : DeviceTransition ρ) : Prop :=
  t.before.running.isSome = true ∧ t.input.action = .factoryReset ∧ t.input.powerLostAfter = none

/-- The boot found the device unprovisioned and its manager opened an attempt. -/
def BootsUnprovisioned (t : DeviceTransition ρ) (identity : DeviceIdentity) : Prop :=
  identity.provisioned = false ∧ ∃ r, t.after.running = some r ∧
    (r.provisioningManager.state = .provisioningAvailable ∨
      r.provisioningManager.state = .provisioningFailed)

theorem Acts.writesElsewhere {d : Device ρ} (h : Acts d action writes)
    (hboot : ¬ action.IsBoot) :
    ∃ keys, WritesTo keys writes ∧ kDeviceIdKey ∉ keys ∧ kSetupCodeKey ∉ keys := by
  cases h with
  | idle => exact ⟨[], writesTo_keys [], List.not_mem_nil, List.not_mem_nil⟩
  | boot => exact absurd trivial hboot
  | factoryReset hrunning hkey =>
    refine ⟨[kWifiSsidKey, kWifiPasswordKey, kProvisionedKey, outboxStorageKey], ?_, by decide,
      by decide⟩
    rw [← hkey]
    exact writesTo_keys _
  | saves haction hwrites => exact ⟨_, hwrites, by decide, by decide⟩
  | provisioning hrunning hwrites =>
    cases hwrites with
    | nothing => exact ⟨[], writesTo_keys [], List.not_mem_nil, List.not_mem_nil⟩
    | received =>
      exact ⟨[kWifiSsidKey, kWifiPasswordKey], writesTo_keys _, by decide, by decide⟩
    | certified => exact ⟨[kProvisionedKey], writesTo_keys _, by decide, by decide⟩
    | enrolled =>
      exact ⟨[kPrivateKeyKey, kCertificateKey, kProvisionedKey], writesTo_keys _, by decide,
        by decide⟩

theorem whenRunning_loaded {d : Device ρ} {act : Running ρ → Outcome ρ}
    (h : ∀ r, (act r).loaded = none) : (d.whenRunning act).loaded = none := by
  rw [whenRunning]
  split
  · rfl
  · exact h _

/-- What a factory reset leaves behind for the next boot. -/
structure Unprovisioned (store : PersistentStore) : Prop where
  ssid : store.get kWifiSsidKey = none
  provisioned : store.get kProvisionedKey = some (ascii "0")

section Runs
variable [IRandomSource ρ] [ArduinoJson]

/-- A boot that comes to its end outputs the identity it loaded. -/
structure IdentityPermanent (config : DeviceConfig) (ts : List (DeviceTransition ρ)) : Prop where
  loaded : ∀ t ∈ ts, ∀ identity, t.output = some identity →
    HoldsIdentity t.after.store identity.deviceId identity.setupCode
  kept : ∀ earlier t later, ts = earlier ++ t :: later → ∀ identity, t.output = some identity →
    ∀ u ∈ later,
      (∀ store ∈ moments config u, HoldsIdentity store identity.deviceId identity.setupCode) ∧
      ∀ identity', u.output = some identity' →
        identity'.deviceId = identity.deviceId ∧ identity'.setupCode = identity.setupCode
  resets : ∀ t ∈ ts, Resets t →
    FactoryResetCoordinator.ClearsConfiguration t.before.store
        (FactoryResetCoordinator.execute t.before.store).1 ∧
      ∀ key ≠ outboxStorageKey,
        t.after.store.get key = (FactoryResetCoordinator.execute t.before.store).1.get key
  rebooted : ∀ earlier t between u later, ts = earlier ++ t :: between ++ u :: later →
    Resets t → (∀ v ∈ between, v.output = none) → ∀ identity, u.output = some identity →
    BootsUnprovisioned u identity

theorem output_cases (config : DeviceConfig) {d : Device ρ} {input : DeviceInput ρ}
    (h : (d.step config input).2 = some identity) :
    ∃ random nowMs answers, input = ⟨.boot random nowMs answers, none⟩ := by
  obtain ⟨action, powerLostAfter⟩ := input
  cases powerLostAfter with
  | some n => cases h
  | none =>
    have hloaded : (d.outcome config action).loaded = some identity := h
    cases action with
    | boot random nowMs answers => exact ⟨random, nowMs, answers, rfl⟩
    | provisioning operation => cases (whenRunning_loaded fun _ => rfl).symm.trans hloaded
    | factoryReset => cases (whenRunning_loaded fun _ => rfl).symm.trans hloaded
    | record => cases (whenRunning_loaded fun _ => rfl).symm.trans hloaded
    | enqueue => cases (whenRunning_loaded fun _ => rfl).symm.trans hloaded
    | dequeue => cases (whenRunning_loaded fun _ => rfl).symm.trans hloaded

theorem step_boot_output (config : DeviceConfig) (d : Device ρ) (random : ρ) (nowMs : UInt32)
    (answers : ProvisioningAnswers) :
    (d.step config ⟨.boot random nowMs answers, none⟩).2 =
      some (config.identityProvider.load d.store random).value := rfl

theorem step_boot_store (config : DeviceConfig) (d : Device ρ) (random : ρ) (nowMs : UInt32)
    (answers : ProvisioningAnswers) :
    (d.step config ⟨.boot random nowMs answers, none⟩).1.store =
      d.store.writeAll (config.identityProvider.load d.store random).writes := rfl

theorem output_held (config : DeviceConfig) {d : Device ρ} {input : DeviceInput ρ}
    (h : (d.step config input).2 = some identity) :
    HoldsIdentity (d.step config input).1.store identity.deviceId identity.setupCode := by
  obtain ⟨random, nowMs, answers, rfl⟩ := output_cases config h
  rw [step_boot_output, Option.some.injEq] at h
  rw [step_boot_store, ← h]
  exact config.identityProvider.load_holdsIdentity d.store random

section Held
variable (config : DeviceConfig) {d : Device ρ} {id code : Bytes}
  (h : HoldsIdentity d.store id code)
include h

theorem held_moments (input : DeviceInput ρ) : ∀ store ∈ moments config (.of (step config) d input),
    HoldsIdentity store id code := by
  intro store hstore
  obtain ⟨written, hcut, rfl⟩ := exists_cut hstore
  by_cases hboot : input.action.IsBoot
  · obtain ⟨random, nowMs, answers, haction⟩ := hboot.eq_boot
    have hwrites : (d.outcome config (.boot random nowMs answers)).writes = [] :=
      (h.load config.identityProvider random).1
    rw [haction, hwrites, List.prefix_nil] at hcut
    rw [hcut]
    exact h
  · obtain ⟨keys, hwrites, hid, hcode⟩ := (acts config d input.action).writesElsewhere hboot
    exact h.writeAll hwrites hid hcode hcut

theorem held_output {input : DeviceInput ρ} (houtput : (d.step config input).2 = some identity) :
    identity.deviceId = id ∧ identity.setupCode = code := by
  obtain ⟨random, nowMs, answers, rfl⟩ := output_cases config houtput
  rw [step_boot_output, Option.some.injEq] at houtput
  rw [← houtput]
  exact (h.load _ random).2

/-- A stored identity stays, and is what every later boot loads. -/
theorem held_run (inputs : List (DeviceInput ρ)) :
    ∀ u ∈ transitions (step config) d inputs,
      (∀ store ∈ moments config u, HoldsIdentity store id code) ∧
      ∀ identity, u.output = some identity →
        identity.deviceId = id ∧ identity.setupCode = code := by
  induction inputs generalizing d with
  | nil => exact List.forall_mem_nil _
  | cons input inputs ih =>
    rw [transitions, List.forall_mem_cons]
    have hmoments := held_moments config h input
    exact ⟨⟨hmoments, fun identity => held_output config h⟩,
      ih (hmoments _ (last_mem_moments config d input))⟩

end Held

theorem reset_store (config : DeviceConfig) {d : Device ρ} (h : d.running = some r) {key : Bytes}
    (hkey : key ≠ outboxStorageKey) :
    (d.step config ⟨.factoryReset, none⟩).1.store.get key =
      (FactoryResetCoordinator.execute d.store).1.get key := by
  obtain ⟨eventId, eventJson, hstore⟩ := step_factoryReset config h
  rw [hstore]
  exact PersistentStore.get_set_of_ne _ _ hkey

theorem reset_next (config : DeviceConfig) {d : Device ρ} (h : d.running = some r) :
    ∃ store, (d.step config ⟨.factoryReset, none⟩).1 = ⟨store, none⟩ ∧ Unprovisioned store := by
  have hoff : (d.step config ⟨.factoryReset, none⟩).1.running = none := by
    rw [step_uninterrupted config d rfl, outcome, whenRunning, h]
    rfl
  refine ⟨(d.step config ⟨.factoryReset, none⟩).1.store, ?_, ?_, ?_⟩
  · rw [← hoff]
  · rw [reset_store config h (by decide)]
    exact FactoryResetCoordinator.execute_ssid d.store
  · rw [reset_store config h (by decide)]
    exact FactoryResetCoordinator.execute_provisioned d.store

theorem Unprovisioned.boots (config : DeviceConfig) {d : Device ρ} {input : DeviceInput ρ}
    (h : Unprovisioned d.store) (houtput : (d.step config input).2 = some identity) :
    BootsUnprovisioned (.of (step config) d input) identity := by
  obtain ⟨random, nowMs, answers, rfl⟩ := output_cases config houtput
  have hkept := (config.identityProvider.load_writes d.store random).get
    (by decide : kWifiSsidKey ∉ _) d.store (List.prefix_refl _)
  have hhas : (d.store.writeAll (config.identityProvider.load d.store random).writes).has
      kWifiSsidKey = false := by
    rw [PersistentStore.has, hkept, h.ssid]
    rfl
  constructor
  · rw [step_boot_output, Option.some.injEq] at houtput
    rw [← houtput, DeviceIdentityProvider.load_provisioned, h.provisioned]
    decide
  · refine ⟨_, rfl, ?_⟩
    dsimp only
    rw [checkAtBoot_of_not_has hhas]
    exact enterProvisioning_state _ nowMs answers

theorem Unprovisioned.waits (config : DeviceConfig) {store : PersistentStore}
    {input : DeviceInput ρ} (h : Unprovisioned store)
    (houtput : (step config ⟨store, none⟩ input).2 = none) :
    ∃ store', (step config ⟨store, none⟩ input).1 = ⟨store', none⟩ ∧ Unprovisioned store' := by
  by_cases hboot : input.action.IsBoot
  · obtain ⟨action, powerLostAfter⟩ := input
    obtain ⟨random, nowMs, answers, rfl⟩ := hboot.eq_boot
    cases powerLostAfter with
    | none => cases houtput
    | some n =>
      have hwrites := config.identityProvider.load_writes store random
      have hcut := List.take_prefix n (config.identityProvider.load store random).writes
      refine ⟨_, rfl, ?_, ?_⟩
      · exact (hwrites.get (by decide) store hcut).trans h.ssid
      · exact (hwrites.get (by decide) store hcut).trans h.provisioned
  · rw [step_off config store hboot]
    exact ⟨store, rfl, h⟩

theorem Unprovisioned.rebooted (config : DeviceConfig) {store : PersistentStore}
    (h : Unprovisioned store) {inputs : List (DeviceInput ρ)}
    {between later : List (DeviceTransition ρ)} {u : DeviceTransition ρ}
    (hts : transitions (step config) ⟨store, none⟩ inputs = between ++ u :: later)
    (hbetween : ∀ v ∈ between, v.output = none) (houtput : u.output = some identity) :
    BootsUnprovisioned u identity := by
  induction between generalizing store inputs with
  | nil =>
    cases inputs with
    | nil => cases hts
    | cons input inputs =>
      rw [transitions, List.nil_append, List.cons.injEq] at hts
      rw [← hts.1] at houtput ⊢
      exact h.boots config houtput
  | cons v between ih =>
    cases inputs with
    | nil => cases hts
    | cons input inputs =>
      rw [transitions, List.cons_append, List.cons.injEq] at hts
      rw [List.forall_mem_cons, ← hts.1] at hbetween
      obtain ⟨store', hafter, hcleared⟩ := h.waits config hbetween.1
      rw [hafter] at hts
      exact ih hcleared hts.2 hbetween.2

/-- Over every run from any store, the identity is permanent. -/
theorem identity_permanent (config : DeviceConfig) (store : PersistentStore)
    (inputs : List (DeviceInput ρ)) :
    IdentityPermanent config (transitions (step config) ⟨store, none⟩ inputs) := by
  constructor
  · intro t ht identity houtput
    obtain ⟨inputs₁, input, inputs₂, rfl, rfl⟩ := exists_of_mem_transitions ht
    exact output_held config houtput
  · intro earlier t later hts identity houtput
    obtain ⟨inputs₁, input, inputs₂, rfl, rfl, rfl, rfl⟩ := transitions_split hts
    exact held_run config (output_held config houtput) inputs₂
  · intro t ht hresets
    obtain ⟨inputs₁, ⟨action, powerLostAfter⟩, inputs₂, rfl, rfl⟩ := exists_of_mem_transitions ht
    obtain ⟨hon, rfl, rfl⟩ := hresets
    obtain ⟨r, hrunning⟩ := Option.isSome_iff_exists.mp hon
    refine ⟨FactoryResetCoordinator.execute_clears _, ?_⟩
    intro key hkey
    exact reset_store config hrunning hkey
  · intro earlier t between u later hts hresets hbetween identity houtput
    rw [List.append_assoc] at hts
    obtain ⟨inputs₁, ⟨action, powerLostAfter⟩, inputs₂, rfl, rfl, rfl, hlater⟩ :=
      transitions_split hts
    obtain ⟨hon, rfl, rfl⟩ := hresets
    obtain ⟨r, hrunning⟩ := Option.isSome_iff_exists.mp hon
    obtain ⟨store', hafter, hcleared⟩ := reset_next config hrunning
    dsimp only [Transition.of] at hlater hafter
    rw [hafter] at hlater
    exact hcleared.rebooted config hlater.symm hbetween houtput

end Runs
end Device
end InterBridge
