import InterBridge.MainLoop.Device

namespace InterBridge
open Foundations
open ProvisioningManager
set_option autoImplicit true
namespace Device

/-- The credentials an action receives. -/
def delivered? (d : Device ρ) : DeviceAction ρ → Option WifiCredentials
  | .provisioning operation => d.running.bind fun r => operation.delivered? (r.manager d.store)
  | .boot _ _ _ | .factoryReset | .record _ _ | .enqueue _ _ | .dequeue _ => none

/-- One of these steps received the credentials. -/
def Delivered (ts : List (DeviceTransition ρ)) (credentials : WifiCredentials) : Prop :=
  ∃ t ∈ ts, t.before.delivered? t.input.action = some credentials

/-- The name and the password are both absent or both from one payload, and a device marked as
provisioned has a name. -/
structure ConfigurationConsistent (ts : List (DeviceTransition ρ)) (store : PersistentStore) :
    Prop where
  pair : store.get kWifiSsidKey = none ∧ store.get kWifiPasswordKey = none ∨
    ∃ credentials, Delivered ts credentials ∧
      store.get kWifiSsidKey = some credentials.ssid ∧
      store.get kWifiPasswordKey = some credentials.password
  marked : store.get kProvisionedKey = some (ascii "1") → store.has kWifiSsidKey = true

/-- Every boot finds the configuration consistent. -/
def BootsConsistent (ts : List (DeviceTransition ρ)) : Prop :=
  ∀ earlier t later, ts = earlier ++ t :: later → t.input.action.IsBoot →
    ConfigurationConsistent earlier t.before.store

/-- Where a loss of power may fall. Between the name and the password of a payload: only where
some payload had this name with the password that is stored. Between the two removals of a
factory reset: only where no password is stored. Before the mark is reset: only where there is
none. -/
structure HarmlessCut (earlier : List (DeviceTransition ρ)) (t : DeviceTransition ρ) : Prop where
  betweenNameAndPassword : ∀ credentials, t.before.delivered? t.input.action = some credentials →
    t.input.powerLostAfter = some 1 → ∃ password,
      t.before.store.get kWifiPasswordKey = some password ∧
      Delivered (earlier ++ [t]) ⟨credentials.ssid, password⟩
  betweenRemovals : t.before.running.isSome = true → t.input.action = .factoryReset →
    t.input.powerLostAfter = some 1 → t.before.store.get kWifiPasswordKey = none
  beforeMark : t.before.running.isSome = true → t.input.action = .factoryReset →
    t.input.powerLostAfter = some 2 → t.before.store.get kProvisionedKey ≠ some (ascii "1")

/-- Every loss of power that a boot follows is harmless. -/
def CutsHarmless (ts : List (DeviceTransition ρ)) : Prop :=
  ∀ earlier t later, ts = earlier ++ t :: later →
    (∃ u ∈ later, u.input.action.IsBoot) → HarmlessCut earlier t

theorem Delivered.mono {ts : List (DeviceTransition ρ)} (h : Delivered ts credentials)
    (ts' : List (DeviceTransition ρ)) : Delivered (ts ++ ts') credentials := by
  obtain ⟨t, ht, hdelivered⟩ := h
  exact ⟨t, List.mem_append_left _ ht, hdelivered⟩

namespace ConfigurationConsistent

theorem mono {ts : List (DeviceTransition ρ)} {store : PersistentStore}
    (h : ConfigurationConsistent ts store)
    (ts' : List (DeviceTransition ρ)) : ConfigurationConsistent (ts ++ ts') store := by
  refine ⟨h.pair.imp_right ?_, h.marked⟩
  intro hpair
  obtain ⟨credentials, hdelivered, hstored⟩ := hpair
  exact ⟨credentials, hdelivered.mono ts', hstored⟩

theorem of_eq {ts : List (DeviceTransition ρ)} {store store' : PersistentStore}
    (h : ConfigurationConsistent ts store)
    (hssid : store'.get kWifiSsidKey = store.get kWifiSsidKey)
    (hpassword : store'.get kWifiPasswordKey = store.get kWifiPasswordKey)
    (hprovisioned : store'.get kProvisionedKey = store.get kProvisionedKey) :
    ConfigurationConsistent ts store' := by
  refine ⟨?_, ?_⟩
  · rw [hssid, hpassword]
    exact h.pair
  · rw [hprovisioned, PersistentStore.has, hssid]
    exact h.marked

theorem mark {ts : List (DeviceTransition ρ)} {store store' : PersistentStore}
    (h : ConfigurationConsistent ts store) (hhas : store.has kWifiSsidKey = true)
    (hssid : store'.get kWifiSsidKey = store.get kWifiSsidKey)
    (hpassword : store'.get kWifiPasswordKey = store.get kWifiPasswordKey) :
    ConfigurationConsistent ts store' := by
  refine ⟨?_, fun _ => ?_⟩
  · rw [hssid, hpassword]
    exact h.pair
  · rw [PersistentStore.has, hssid]
    exact hhas

theorem received {ts : List (DeviceTransition ρ)} {store : PersistentStore}
    (hdelivered : Delivered ts credentials)
    (hssid : store.get kWifiSsidKey = some credentials.ssid)
    (hpassword : store.get kWifiPasswordKey = some credentials.password) :
    ConfigurationConsistent ts store := by
  refine ⟨.inr ⟨credentials, hdelivered, hssid, hpassword⟩, fun _ => ?_⟩
  rw [PersistentStore.has, hssid]
  rfl

theorem cleared {ts : List (DeviceTransition ρ)} {store : PersistentStore}
    (hssid : store.get kWifiSsidKey = none) (hpassword : store.get kWifiPasswordKey = none)
    (hprovisioned : store.get kProvisionedKey ≠ some (ascii "1")) :
    ConfigurationConsistent ts store :=
  ⟨.inl ⟨hssid, hpassword⟩, fun h => absurd h hprovisioned⟩

theorem absent {ts : List (DeviceTransition ρ)} {store : PersistentStore}
    (h : ConfigurationConsistent ts store) (hpassword : store.get kWifiPasswordKey = none) :
    store.get kProvisionedKey ≠ some (ascii "1") := by
  intro hmarked
  have hhas := h.marked hmarked
  rcases h.pair with ⟨hssid, _⟩ | ⟨credentials, _, _, hstored⟩
  · rw [PersistentStore.has, hssid] at hhas
    cases hhas
  · cases hpassword.symm.trans hstored

end ConfigurationConsistent

theorem delivered?_provisioning {d : Device ρ} (h : d.running = some r) (operation : Operation) :
    d.delivered? (.provisioning operation) = operation.delivered? (r.manager d.store) := by
  rw [delivered?, h, Option.bind_some]

theorem delivered?_off {d : Device ρ} (h : d.running = none) (action : DeviceAction ρ) :
    d.delivered? action = none := by
  cases action with
  | provisioning operation => rw [delivered?, h, Option.bind_none]
  | boot => rfl
  | factoryReset => rfl
  | record => rfl
  | enqueue => rfl
  | dequeue => rfl

theorem delivered?_saves (d : Device ρ) {action : DeviceAction ρ} (h : action.Saves) :
    d.delivered? action = none := by
  cases action with
  | provisioning => exact h.elim
  | boot => rfl
  | factoryReset => rfl
  | record => rfl
  | enqueue => rfl
  | dequeue => rfl

/-- The actions that touch the configuration: receiving a payload, finishing an attempt, and a
factory reset. -/
inductive ConfigurationWrites (d : Device ρ) (action : DeviceAction ρ) : List StoreWrite → Prop
    where
  | elsewhere (hdelivered : d.delivered? action = none) (hwrites : WritesTo keys writes)
      (hkeys : kWifiSsidKey ∉ keys ∧ kWifiPasswordKey ∉ keys ∧ kProvisionedKey ∉ keys) :
    ConfigurationWrites d action writes
  | received (hdelivered : d.delivered? action = some credentials) :
    ConfigurationWrites d action
      [.put kWifiSsidKey credentials.ssid, .put kWifiPasswordKey credentials.password]
  | marked (hdelivered : d.delivered? action = none) (hrunning : d.running = some r)
      (hstate : r.provisioningManager.state = .connectingWifi) (hwrites : WritesTo keys writes)
      (hkeys : kWifiSsidKey ∉ keys ∧ kWifiPasswordKey ∉ keys) :
    ConfigurationWrites d action writes
  | reset (hrunning : d.running = some r) (haction : action = .factoryReset)
      (hkey : w.key = outboxStorageKey) :
    ConfigurationWrites d action (FactoryResetCoordinator.executeWrites ++ [w])

theorem Acts.configurationWrites {d : Device ρ} (h : Acts d action writes) :
    ConfigurationWrites d action writes := by
  cases h with
  | idle hrunning =>
    exact .elsewhere (delivered?_off hrunning action) (writesTo_keys [])
      ⟨List.not_mem_nil, List.not_mem_nil, List.not_mem_nil⟩
  | boot hwrites => exact .elsewhere rfl hwrites (by decide)
  | factoryReset hrunning hkey => exact .reset hrunning rfl hkey
  | saves haction hwrites => exact .elsewhere (delivered?_saves d haction) hwrites (by decide)
  | @provisioning r operation _ hrunning hwrites =>
    have hdelivered? := delivered?_provisioning hrunning operation
    cases hwrites with
    | nothing hdelivered =>
      exact .elsewhere (hdelivered?.trans hdelivered) (writesTo_keys [])
        ⟨List.not_mem_nil, List.not_mem_nil, List.not_mem_nil⟩
    | received hdelivered => exact .received (hdelivered?.trans hdelivered)
    | certified hstate hdelivered =>
      refine .marked (hdelivered?.trans hdelivered) hrunning hstate (writesTo_keys _) ?_
      change kWifiSsidKey ∉ [kProvisionedKey] ∧ kWifiPasswordKey ∉ [kProvisionedKey]
      decide
    | enrolled hstate hdelivered =>
      refine .marked (hdelivered?.trans hdelivered) hrunning hstate (writesTo_keys _) ?_
      change kWifiSsidKey ∉ [kPrivateKeyKey, kCertificateKey, kProvisionedKey] ∧
        kWifiPasswordKey ∉ [kPrivateKeyKey, kCertificateKey, kProvisionedKey]
      decide

/-- What the manager remembers of the configuration: it waits for Wi-Fi only with a name stored. -/
structure Remembers (ts : List (DeviceTransition ρ)) (d : Device ρ) : Prop where
  consistent : ConfigurationConsistent ts d.store
  waits : ∀ r, d.running = some r → r.provisioningManager.state = .connectingWifi →
    d.store.has kWifiSsidKey = true

theorem ConfigurationWrites.has_ssid {d : Device ρ} (h : ConfigurationWrites d action writes)
    (haction : action ≠ .factoryReset)
    (hssid : d.store.has kWifiSsidKey = true ∨ (d.delivered? action).isSome = true) :
    (d.store.writeAll writes).has kWifiSsidKey = true := by
  have hkept (hnone : d.delivered? action = none) : d.store.has kWifiSsidKey = true := by
    rw [hnone] at hssid
    exact hssid.resolve_right Bool.false_ne_true
  cases h with
  | elsewhere hdelivered hwrites hkeys =>
    rw [PersistentStore.has, hwrites.get hkeys.1 d.store (List.prefix_refl _)]
    exact hkept hdelivered
  | received => rfl
  | marked hdelivered hrunning hstate hwrites hkeys =>
    rw [PersistentStore.has, hwrites.get hkeys.1 d.store (List.prefix_refl _)]
    exact hkept hdelivered
  | reset hrunning hreset => exact absurd hreset haction

theorem reset_consistent (ts : List (DeviceTransition ρ)) (store : PersistentStore)
    (hkey : w.key = outboxStorageKey) (hrest : rest <+: [w]) :
    ConfigurationConsistent ts
      (store.writeAll (FactoryResetCoordinator.executeWrites ++ rest)) := by
  have hwrites : WritesTo [outboxStorageKey] [w] := by
    rw [← hkey]
    exact writesTo_keys [w]
  rw [PersistentStore.writeAll_append]
  apply ConfigurationConsistent.cleared
  · rw [hwrites.get (by decide) _ hrest]
    exact FactoryResetCoordinator.execute_ssid store
  · rw [hwrites.get (by decide) _ hrest]
    exact FactoryResetCoordinator.execute_password store
  · rw [hwrites.get (by decide) _ hrest]
    intro hmarked
    have hzero := (FactoryResetCoordinator.execute_provisioned store).symm.trans hmarked
    revert hzero
    decide

/-- What a device is off for adds nothing to what was received. -/
theorem ConfigurationConsistent.before_off {ts between : List (DeviceTransition ρ)}
    {store : PersistentStore} (h : ConfigurationConsistent (ts ++ between) store)
    (hoff : ∀ v ∈ between, v.before.running = none) : ConfigurationConsistent ts store := by
  refine ⟨h.pair.imp_right ?_, h.marked⟩
  intro hpair
  obtain ⟨credentials, ⟨t, ht, hdelivered⟩, hstored⟩ := hpair
  rcases List.mem_append.mp ht with ht | ht
  · exact ⟨credentials, ⟨t, ht, hdelivered⟩, hstored⟩
  · cases (delivered?_off (hoff t ht) t.input.action).symm.trans hdelivered

theorem harmless_of_uninterrupted {ts : List (DeviceTransition ρ)} {t : DeviceTransition ρ}
    (h : t.input.powerLostAfter = none) : HarmlessCut ts t := by
  constructor
  · intro credentials _ hlost
    cases h.symm.trans hlost
  · intro _ _ hlost
    cases h.symm.trans hlost
  · intro _ _ hlost
    cases h.symm.trans hlost

section Runs
variable [IRandomSource ρ] [ArduinoJson]

theorem configurationWrites (config : DeviceConfig) (d : Device ρ) (action : DeviceAction ρ) :
    ConfigurationWrites d action (d.outcome config action).writes :=
  (acts config d action).configurationWrites

theorem Remembers.consistent_next {ts : List (DeviceTransition ρ)} {d : Device ρ}
    (h : Remembers ts d) (config : DeviceConfig) (input : DeviceInput ρ)
    (hharmless : HarmlessCut ts (.of (step config) d input)) :
    ConfigurationConsistent (ts ++ [.of (step config) d input]) (d.step config input).1.store := by
  have hcut := made_cut config d input
  have hwrites := configurationWrites config d input.action
  rw [step_store]
  generalize hall : (d.outcome config input.action).writes = writes at hcut hwrites
  cases hwrites with
  | elsewhere hdelivered hwrites hkeys =>
    exact (h.consistent.of_eq (hwrites.get hkeys.1 d.store hcut)
      (hwrites.get hkeys.2.1 d.store hcut) (hwrites.get hkeys.2.2 d.store hcut)).mono _
  | marked hdelivered hrunning hstate hwrites hkeys =>
    exact (h.consistent.mark (h.waits _ hrunning hstate) (hwrites.get hkeys.1 d.store hcut)
      (hwrites.get hkeys.2 d.store hcut)).mono _
  | @received credentials hdelivered =>
    have hnow : Delivered (ts ++ [.of (step config) d input]) credentials :=
      ⟨_, List.mem_append_right _ (List.mem_singleton_self _), hdelivered⟩
    rw [made, hall]
    cases hlost : input.powerLostAfter with
    | none => exact .received hnow rfl rfl
    | some n =>
      rcases n with _ | _ | n
      · exact h.consistent.mono _
      · obtain ⟨password, hstored, hpayload⟩ :=
          hharmless.betweenNameAndPassword credentials hdelivered hlost
        exact .received hpayload rfl hstored
      · dsimp only
        rw [List.take_of_length_le (Nat.le_add_left 2 n)]
        exact .received hnow rfl rfl
  | @reset r w hrunning haction hkey =>
    have hon : d.running.isSome = true := by
      rw [hrunning]
      rfl
    rw [made, hall]
    cases hlost : input.powerLostAfter with
    | none => exact reset_consistent _ _ hkey (List.prefix_refl _)
    | some n =>
      rcases n with _ | _ | _ | n
      · exact h.consistent.mono _
      · have hpassword := hharmless.betweenRemovals hon haction hlost
        exact .cleared rfl hpassword (h.consistent.absent hpassword)
      · exact .cleared rfl rfl (hharmless.beforeMark hon haction hlost)
      · exact reset_consistent _ _ hkey (List.take_prefix n [w])

theorem outcome_connectingWifi (config : DeviceConfig) {d : Device ρ} {action : DeviceAction ρ}
    (h : (d.outcome config action).running = some r')
    (hstate : r'.provisioningManager.state = .connectingWifi) :
    action ≠ .factoryReset ∧
      ((∃ r, d.running = some r ∧ r.provisioningManager.state = .connectingWifi) ∨
        (d.delivered? action).isSome = true) := by
  have hsaves (hsaves : action.Saves) :
      ∃ r, d.running = some r ∧ r.provisioningManager.state = .connectingWifi := by
    obtain ⟨r, hrunning, hsame⟩ := outcome_saves config hsaves h
    rw [hsame] at hstate
    exact ⟨r, hrunning, hstate⟩
  have hkept : action ≠ .factoryReset := by
    intro hreset
    rw [hreset, outcome, whenRunning] at h
    split at h
    · cases h
    · cases h
  refine ⟨hkept, ?_⟩
  cases action with
  | boot random nowMs answers =>
    cases h
    exact absurd hstate (checkAtBoot_not_connectingWifi _ rfl nowMs answers)
  | provisioning operation =>
    cases hrunning : d.running with
    | none =>
      rw [outcome, whenRunning, hrunning] at h
      cases h
    | some r =>
      rw [outcome, whenRunning, hrunning] at h
      cases h
      rw [delivered?_provisioning hrunning]
      rcases operate_connectingWifi hstate with hs | hs
      · exact .inl ⟨r, rfl, hs⟩
      · exact .inr hs
  | factoryReset => exact absurd rfl hkept
  | record => exact .inl (hsaves trivial)
  | enqueue => exact .inl (hsaves trivial)
  | dequeue => exact .inl (hsaves trivial)

theorem Remembers.next {ts : List (DeviceTransition ρ)} {d : Device ρ} (h : Remembers ts d)
    (config : DeviceConfig) (input : DeviceInput ρ)
    (hharmless : HarmlessCut ts (.of (step config) d input)) :
    Remembers (ts ++ [.of (step config) d input]) (d.step config input).1 := by
  refine ⟨h.consistent_next config input hharmless, ?_⟩
  intro r' hrunning hstate
  cases hlost : input.powerLostAfter with
  | some n =>
    rw [step_powerLost config d hlost] at hrunning
    cases hrunning
  | none =>
    rw [step_uninterrupted config d hlost] at hrunning ⊢
    obtain ⟨haction, hssid⟩ := outcome_connectingWifi config hrunning hstate
    apply (configurationWrites config d input.action).has_ssid haction
    apply hssid.imp_left
    intro hwaits
    obtain ⟨r, hbefore, hs⟩ := hwaits
    exact h.waits r hbefore hs

theorem remembers_run (config : DeviceConfig) {store : PersistentStore}
    (hssid : store.get kWifiSsidKey = none) (hpassword : store.get kWifiPasswordKey = none)
    (hprovisioned : store.get kProvisionedKey ≠ some (ascii "1")) (inputs : List (DeviceInput ρ))
    (hharmless : ∀ earlier t later,
      transitions (step config) ⟨store, none⟩ inputs = earlier ++ t :: later →
      HarmlessCut earlier t) :
    Remembers (transitions (step config) ⟨store, none⟩ inputs)
      (finalState (step config) ⟨store, none⟩ inputs) := by
  revert hharmless
  apply run_induction (motive := fun ts (d : Device ρ) =>
    (∀ earlier t later, ts = earlier ++ t :: later → HarmlessCut earlier t) → Remembers ts d)
  · intro _
    refine ⟨.cleared hssid hpassword hprovisioned, ?_⟩
    intro r hrunning
    cases hrunning
  · intro ts d input ih hharmless
    have hbefore : Remembers ts d := by
      apply ih
      intro earlier t later hts
      apply hharmless earlier t (later ++ [.of (step config) d input])
      rw [hts, List.append_assoc, List.cons_append]
    exact hbefore.next config input (hharmless ts _ [] rfl)

/-- A device that is off is found as it is by the next boot, and receives nothing before. -/
theorem exists_boot (config : DeviceConfig) {store : PersistentStore}
    {inputs : List (DeviceInput ρ)}
    (h : ∃ u ∈ transitions (step config) ⟨store, none⟩ inputs, u.input.action.IsBoot) :
    ∃ between u later, transitions (step config) ⟨store, none⟩ inputs = between ++ u :: later ∧
      u.input.action.IsBoot ∧ u.before.store = store ∧
      ∀ v ∈ between, v.before.running = none := by
  induction inputs with
  | nil =>
    obtain ⟨u, hu, _⟩ := h
    exact absurd hu List.not_mem_nil
  | cons input inputs ih =>
    by_cases hboot : input.action.IsBoot
    · exact ⟨[], _, _, rfl, hboot, rfl, List.forall_mem_nil _⟩
    · have hoff := step_off config store hboot
      rw [transitions, hoff] at h ⊢
      have hlater :
          ∃ u ∈ transitions (step config) ⟨store, none⟩ inputs, u.input.action.IsBoot := by
        obtain ⟨u, hu, hub⟩ := h
        rcases List.mem_cons.mp hu with rfl | hu
        · exact absurd hub hboot
        · exact ⟨u, hu, hub⟩
      obtain ⟨between, u, later, hts, hub, hstore, hbetween⟩ := ih hlater
      refine ⟨.of (step config) ⟨store, none⟩ input :: between, u, later, ?_, hub, hstore, ?_⟩
      · rw [hts, List.cons_append]
      · exact List.forall_mem_cons.mpr ⟨rfl, hbetween⟩

theorem writes_of_delivered (config : DeviceConfig) {d : Device ρ} {action : DeviceAction ρ}
    (h : d.delivered? action = some credentials) : (d.outcome config action).writes =
      [.put kWifiSsidKey credentials.ssid, .put kWifiPasswordKey credentials.password] := by
  have hwrites := configurationWrites config d action
  generalize (d.outcome config action).writes = writes at hwrites
  cases hwrites with
  | elsewhere hdelivered => cases hdelivered.symm.trans h
  | received hdelivered =>
    cases hdelivered.symm.trans h
    rfl
  | marked hdelivered => cases hdelivered.symm.trans h
  | reset hrunning haction =>
    rw [haction] at h
    cases h

theorem writes_of_reset (config : DeviceConfig) {d : Device ρ} (h : d.running.isSome = true) :
    ∃ w, (d.outcome config .factoryReset).writes =
      FactoryResetCoordinator.executeWrites ++ [w] := by
  obtain ⟨r, hrunning⟩ := Option.isSome_iff_exists.mp h
  rw [outcome, whenRunning, hrunning]
  exact ⟨_, rfl⟩

theorem harmless_of_consistent (config : DeviceConfig) {ts : List (DeviceTransition ρ)}
    {d : Device ρ} {input : DeviceInput ρ}
    (h : ConfigurationConsistent (ts ++ [.of (step config) d input])
      (d.step config input).1.store) : HarmlessCut ts (.of (step config) d input) := by
  have hreset (hon : d.running.isSome = true) (haction : input.action = .factoryReset) :
      ∃ w, (d.outcome config input.action).writes =
        FactoryResetCoordinator.executeWrites ++ [w] := by
    rw [haction]
    exact writes_of_reset config hon
  constructor
  · intro credentials hdelivered hcut
    have hlost : input.powerLostAfter = some 1 := hcut
    have hwrites : (d.outcome config input.action).writes = _ :=
      writes_of_delivered config hdelivered
    rw [step_powerLost config d hlost, hwrites] at h
    rcases h.pair with ⟨hssid, _⟩ | ⟨payload, hpayload, hssid, hpassword⟩
    · cases hssid
    · have hname : some credentials.ssid = some payload.ssid := hssid
      rw [Option.some.injEq] at hname
      rw [hname]
      exact ⟨payload.password, hpassword, hpayload⟩
  · intro hon haction hcut
    have hlost : input.powerLostAfter = some 1 := hcut
    obtain ⟨w, hwrites⟩ := hreset hon haction
    rw [step_powerLost config d hlost, hwrites] at h
    rcases h.pair with ⟨_, hpassword⟩ | ⟨payload, _, hssid, _⟩
    · exact hpassword
    · cases hssid
  · intro hon haction hcut hmarked
    have hlost : input.powerLostAfter = some 2 := hcut
    obtain ⟨w, hwrites⟩ := hreset hon haction
    rw [step_powerLost config d hlost, hwrites] at h
    cases h.marked hmarked

/-- Over every run from a store without a configuration, every boot finds the configuration
consistent exactly when every loss of power that a boot follows is harmless. -/
theorem bootsConsistent_iff_cutsHarmless (config : DeviceConfig) {store : PersistentStore}
    (hssid : store.get kWifiSsidKey = none) (hpassword : store.get kWifiPasswordKey = none)
    (hprovisioned : store.get kProvisionedKey ≠ some (ascii "1"))
    (inputs : List (DeviceInput ρ)) :
    BootsConsistent (transitions (step config) ⟨store, none⟩ inputs) ↔
      CutsHarmless (transitions (step config) ⟨store, none⟩ inputs) := by
  constructor
  · intro h earlier t later hts hboot
    obtain ⟨inputs₁, input, inputs₂, rfl, rfl, rfl, rfl⟩ := transitions_split hts
    cases hlost : input.powerLostAfter with
    | none => exact harmless_of_uninterrupted hlost
    | some n =>
      have hoff : (Transition.of (step config) (finalState (step config) ⟨store, none⟩ inputs₁)
          input).after = ⟨(step config (finalState (step config) ⟨store, none⟩ inputs₁)
            input).1.store, none⟩ := by
        rw [Transition.of, step_powerLost config _ hlost]
      rw [hoff] at hts hboot
      obtain ⟨between, u, rest, hlater, hub, hstore, hbetween⟩ := exists_boot config hboot
      rw [hlater, ← List.cons_append, ← List.append_assoc] at hts
      have hconsistent := h _ u rest hts hub
      rw [hstore, List.append_cons] at hconsistent
      exact harmless_of_consistent config (hconsistent.before_off hbetween)
  · intro h earlier t later hts hboot
    obtain ⟨inputs₁, input, inputs₂, rfl, rfl, rfl, _⟩ := transitions_split hts
    refine (remembers_run config hssid hpassword hprovisioned inputs₁ ?_).consistent
    intro before u between hu
    apply h before u (between ++ .of (step config) _ input :: later)
    · rw [hts, hu, List.append_assoc, List.cons_append]
    · exact ⟨_, List.mem_append_right _ List.mem_cons_self, hboot⟩

end Runs

/-- A device is provisioned and reset. -/
def provisionedAndReset (powerLostAfter : Option Nat) : List (DeviceInput Unit) :=
  [⟨.boot () 0 enrollingAnswers, none⟩,
    ⟨.provisioning (.update 1000 enrollingAnswers), none⟩,
    ⟨.provisioning (.update 2000 enrollingAnswers), none⟩,
    ⟨.factoryReset, powerLostAfter⟩,
    ⟨.boot () 0 enrollingAnswers, none⟩]

/-- A reset that is cut after its first removal leaves a password without a name. -/
theorem interruptedReset_inconsistent :
    letI := zeroRandom
    letI := compactJson
    ¬ BootsConsistent (transitions (step benchConfig) ⟨.empty, none⟩
      (provisionedAndReset (some 1))) := by
  intro h
  let := zeroRandom
  let := compactJson
  have hboot := h _ _ [] (transitions_append (step benchConfig) ⟨.empty, none⟩
    ((provisionedAndReset (some 1)).take 4) ((provisionedAndReset (some 1)).drop 4)) trivial
  rcases hboot.pair with ⟨_, hpassword⟩ | ⟨_, _, hssid, _⟩
  · revert hpassword
    decide
  · cases hssid

theorem completedReset_consistent :
    letI := zeroRandom
    letI := compactJson
    BootsConsistent (transitions (step benchConfig) ⟨.empty, none⟩ (provisionedAndReset none)) := by
  let := zeroRandom
  let := compactJson
  apply (bootsConsistent_iff_cutsHarmless benchConfig rfl rfl (by decide)
    (provisionedAndReset none)).mpr
  intro earlier t later hts _
  obtain ⟨inputs₁, input, inputs₂, hinputs, _, rfl, _⟩ := transitions_split hts
  apply harmless_of_uninterrupted
  have hall : ∀ input ∈ provisionedAndReset none, input.powerLostAfter = none := by decide
  apply hall
  rw [hinputs]
  exact List.mem_append_right _ List.mem_cons_self

end Device
end InterBridge
