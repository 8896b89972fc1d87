import InterBridge.MainLoop.Device

namespace InterBridge
open Foundations
open ProvisioningManager
set_option autoImplicit true
namespace Device

/-- The call of `provision` an action makes. -/
def provisionCall? (d : Device ρ) : DeviceAction ρ → Option ProvisionCall
  | .provisioning operation =>
    d.running.bind fun r => operation.provisionCall? (r.manager d.store)
  | .boot _ _ _ | .factoryReset | .record _ _ | .enqueue _ _ | .dequeue _ => none

/-- A stored certificate has its key beside it, and both come from one of these steps, whose call
of `provision` went well. -/
def Paired (ts : List (DeviceTransition ρ)) (store : PersistentStore) : Prop :=
  ∀ certificate, DeviceCredentialStore.loadCertificate store = some certificate →
    ∃ privateKey, DeviceCredentialStore.loadPrivateKey store = some privateKey ∧
      ∃ t ∈ ts, ∃ call, t.before.provisionCall? t.input.action = some call ∧
        call.Enrols privateKey certificate

/-- A stored certificate and its key stay. -/
def KeepsCredentials (store store' : PersistentStore) : Prop :=
  DeviceCredentialStore.hasCertificate store = true →
    DeviceCredentialStore.loadCertificate store' = DeviceCredentialStore.loadCertificate store ∧
      DeviceCredentialStore.loadPrivateKey store' = DeviceCredentialStore.loadPrivateKey store

/-- The writes of an action are about other keys, or they are those of a device without a
certificate that enrols. -/
inductive CredentialWrites (d : Device ρ) (action : DeviceAction ρ) : List StoreWrite → Prop where
  | elsewhere (hwrites : WritesTo keys writes) (hcertificate : kCertificateKey ∉ keys)
      (hprivateKey : kPrivateKeyKey ∉ keys)
      (hfailed : ∀ call, d.provisionCall? action = some call → writes = []) :
    CredentialWrites d action writes
  | enrolled (hcertificate : DeviceCredentialStore.hasCertificate d.store = false)
      (hcall : d.provisionCall? action = some call)
      (henrols : call.Enrols privateKey certificate) :
    CredentialWrites d action [.put kPrivateKeyKey privateKey, .put kCertificateKey certificate,
      .put kProvisionedKey (ascii "1")]

theorem provisionCall?_provisioning {d : Device ρ} (h : d.running = some r)
    (operation : Operation) :
    d.provisionCall? (.provisioning operation) = operation.provisionCall? (r.manager d.store) := by
  rw [provisionCall?, h, Option.bind_some]

theorem provisionCall?_saves (d : Device ρ) {action : DeviceAction ρ} (h : action.Saves) :
    d.provisionCall? action = none := by
  cases action with
  | boot => rfl
  | provisioning => exact h.elim
  | factoryReset => rfl
  | record => rfl
  | enqueue => rfl
  | dequeue => rfl

theorem CredentialWrites.other {d : Device ρ} (hwrites : WritesTo keys writes)
    (hcall : d.provisionCall? action = none)
    (hkeys : kCertificateKey ∉ keys ∧ kPrivateKeyKey ∉ keys) :
    CredentialWrites d action writes := by
  apply elsewhere hwrites hkeys.1 hkeys.2
  intro call h
  cases hcall.symm.trans h

theorem operation_credentialWrites {d : Device ρ} (hrunning : d.running = some r)
    (h : (r.manager d.store).WritesOf operation writes) :
    CredentialWrites d (.provisioning operation) writes := by
  have hcall? := provisionCall?_provisioning hrunning operation
  cases h with
  | nothing => exact .elsewhere (writesTo_keys []) List.not_mem_nil List.not_mem_nil fun _ _ => rfl
  | received hdelivered hcall =>
    apply CredentialWrites.other (writesTo_keys _) (hcall?.trans hcall)
    change kCertificateKey ∉ [kWifiSsidKey, kWifiPasswordKey] ∧
      kPrivateKeyKey ∉ [kWifiSsidKey, kWifiPasswordKey]
    decide
  | certified hstate hdelivered hcall =>
    apply CredentialWrites.other (writesTo_keys _) (hcall?.trans hcall)
    change kCertificateKey ∉ [kProvisionedKey] ∧ kPrivateKeyKey ∉ [kProvisionedKey]
    decide
  | enrolled hstate hdelivered hcall henrols hcertificate =>
    exact .enrolled hcertificate (hcall?.trans hcall) henrols

theorem Acts.credentialWrites {d : Device ρ} (h : Acts d action writes) :
    CredentialWrites d action writes := by
  cases h with
  | idle => exact .elsewhere (writesTo_keys []) List.not_mem_nil List.not_mem_nil fun _ _ => rfl
  | boot hwrites => exact .other hwrites rfl (by decide)
  | @factoryReset _ w hrunning hkey =>
    apply CredentialWrites.other (writesTo_keys _) rfl
    rw [List.map_append, List.map_singleton, hkey]
    decide
  | saves haction hwrites => exact .other hwrites (provisionCall?_saves d haction) (by decide)
  | provisioning hrunning hwrites => exact operation_credentialWrites hrunning hwrites

/-- Where the writes of an enrolment are cut decides whether there is a certificate yet. -/
theorem enrolment_cut (hcut : written <+: [.put kPrivateKeyKey privateKey,
      .put kCertificateKey certificate, .put kProvisionedKey value]) (store : PersistentStore) :
    written.length < 2 ∧
        DeviceCredentialStore.loadCertificate (store.writeAll written) =
          DeviceCredentialStore.loadCertificate store ∨
      2 ≤ written.length ∧
        DeviceCredentialStore.loadCertificate (store.writeAll written) = some certificate ∧
        DeviceCredentialStore.loadPrivateKey (store.writeAll written) = some privateKey := by
  rw [← List.mem_inits] at hcut
  simp only [List.inits, List.map_cons, List.map_nil, List.mem_cons, List.not_mem_nil,
    or_false] at hcut
  rcases hcut with rfl | rfl | rfl | rfl
  · exact .inl ⟨Nat.zero_lt_two, rfl⟩
  · exact .inl ⟨Nat.one_lt_two, rfl⟩
  · exact .inr ⟨Nat.le_refl 2, rfl, rfl⟩
  · exact .inr ⟨Nat.le_succ 2, rfl, rfl⟩

theorem CredentialWrites.keeps {d : Device ρ} (h : CredentialWrites d action writes)
    (hle : written <+: written') (hcut : written' <+: writes) :
    KeepsCredentials (d.store.writeAll written) (d.store.writeAll written') := by
  cases h with
  | elsewhere hwrites hcertificate hprivateKey hfailed =>
    intro _
    constructor
    · exact (hwrites.get hcertificate d.store hcut).trans
        (hwrites.get hcertificate d.store (hle.trans hcut)).symm
    · exact (hwrites.get hprivateKey d.store hcut).trans
        (hwrites.get hprivateKey d.store (hle.trans hcut)).symm
  | enrolled hcertificate hcall henrols =>
    intro hhas
    rcases enrolment_cut (hle.trans hcut) d.store with ⟨_, h⟩ | ⟨hlength, hsome, hkey⟩
    · rw [DeviceCredentialStore.loadCertificate, DeviceCredentialStore.loadCertificate] at h
      rw [DeviceCredentialStore.hasCertificate, PersistentStore.has, h] at hhas
      cases hcertificate.symm.trans hhas
    · rcases enrolment_cut hcut d.store with ⟨hshort, _⟩ | ⟨_, hsome', hkey'⟩
      · have hlengths := hle.length_le
        omega
      · exact ⟨hsome'.trans hsome.symm, hkey'.trans hkey.symm⟩

variable {store store' store'' : PersistentStore}

theorem Paired.mono {ts : List (DeviceTransition ρ)} (h : Paired ts store)
    (ts' : List (DeviceTransition ρ)) : Paired (ts ++ ts') store := by
  intro certificate hcertificate
  obtain ⟨privateKey, hprivateKey, t, ht, hcall⟩ := h certificate hcertificate
  exact ⟨privateKey, hprivateKey, t, List.mem_append_left _ ht, hcall⟩

theorem Paired.of_eq {ts : List (DeviceTransition ρ)} (h : Paired ts store)
    (hcertificate : DeviceCredentialStore.loadCertificate store' =
      DeviceCredentialStore.loadCertificate store)
    (hprivateKey : DeviceCredentialStore.loadPrivateKey store' =
      DeviceCredentialStore.loadPrivateKey store) : Paired ts store' := by
  rw [Paired, hcertificate, hprivateKey]
  exact h

theorem paired_of_none {ts : List (DeviceTransition ρ)}
    (h : DeviceCredentialStore.loadCertificate store = none) : Paired ts store := by
  intro certificate hcertificate
  cases h.symm.trans hcertificate

theorem KeepsCredentials.trans (h : KeepsCredentials store store')
    (h' : KeepsCredentials store' store'') : KeepsCredentials store store'' := by
  intro hhas
  obtain ⟨hcertificate, hprivateKey⟩ := h hhas
  have hcertificate' : store'.get kCertificateKey = store.get kCertificateKey := hcertificate
  have hhas' : DeviceCredentialStore.hasCertificate store' = true := by
    rw [DeviceCredentialStore.hasCertificate, PersistentStore.has, hcertificate']
    exact hhas
  obtain ⟨hsame, hsame'⟩ := h' hhas'
  exact ⟨hsame.trans hcertificate, hsame'.trans hprivateKey⟩

section Runs
variable [IRandomSource ρ] [ArduinoJson]

structure CredentialsConsistent (config : DeviceConfig) (ts : List (DeviceTransition ρ)) :
    Prop where
  paired : ∀ earlier t later, ts = earlier ++ t :: later →
    ∀ store ∈ moments config t, Paired (earlier ++ [t]) store
  unchanged : ∀ t ∈ ts, ∀ call, t.before.provisionCall? t.input.action = some call →
    call.result ≠ .success → ∀ store ∈ moments config t, store = t.before.store
  permanent : (ts.flatMap (moments config)).Pairwise KeepsCredentials

theorem credentialWrites (config : DeviceConfig) (d : Device ρ) (action : DeviceAction ρ) :
    CredentialWrites d action (d.outcome config action).writes :=
  (acts config d action).credentialWrites

/-- Whatever the step before left paired, every moment of the next one is paired. -/
theorem Paired.next {ts : List (DeviceTransition ρ)} {d : Device ρ} (h : Paired ts d.store)
    (config : DeviceConfig) (input : DeviceInput ρ)
    (hstore : store ∈ moments config (.of (step config) d input)) :
    Paired (ts ++ [.of (step config) d input]) store := by
  obtain ⟨written, hcut, rfl⟩ := exists_cut hstore
  have hwrites := credentialWrites config d input.action
  generalize (d.outcome config input.action).writes = writes at hcut hwrites
  cases hwrites with
  | elsewhere hwrites hcertificate hprivateKey hfailed =>
    exact (h.of_eq (hwrites.get hcertificate d.store hcut)
      (hwrites.get hprivateKey d.store hcut)).mono _
  | enrolled hcertificate hcall henrols =>
    rcases enrolment_cut hcut d.store with ⟨_, hnone⟩ | ⟨_, hsome, hkey⟩
    · apply paired_of_none
      exact hnone.trans (Option.isNone_iff_eq_none.mp (Option.isSome_eq_false_iff.mp hcertificate))
    · intro certificate hstored
      cases hsome.symm.trans hstored
      exact ⟨_, hkey, _, List.mem_append_right _ (List.mem_singleton_self _), _, hcall, henrols⟩

theorem paired_run (config : DeviceConfig) {store : PersistentStore}
    (h : DeviceCredentialStore.loadCertificate store = none) (inputs : List (DeviceInput ρ)) :
    Paired (transitions (step config) ⟨store, none⟩ inputs)
      (finalState (step config) ⟨store, none⟩ inputs).store := by
  apply run_induction (motive := fun ts (d : Device ρ) => Paired ts d.store)
  · exact paired_of_none h
  · intro ts d input hpaired
    exact hpaired.next config input (last_mem_moments config d input)

theorem failed_unchanged (config : DeviceConfig) {d : Device ρ} {input : DeviceInput ρ}
    (hcall : d.provisionCall? input.action = some call) (hfailed : call.result ≠ .success)
    (hstore : store ∈ moments config (.of (step config) d input)) : store = d.store := by
  obtain ⟨written, hcut, rfl⟩ := exists_cut hstore
  have hwrites := credentialWrites config d input.action
  generalize (d.outcome config input.action).writes = writes at hcut hwrites
  cases hwrites with
  | elsewhere hwrites hcertificate hprivateKey hnothing =>
    rw [hnothing call hcall, List.prefix_nil] at hcut
    rw [hcut]
    rfl
  | enrolled hcertificate hcall' henrols =>
    rw [hcall, Option.some.injEq] at hcall'
    subst hcall'
    exact absurd henrols.success hfailed

theorem moments_pairwise (config : DeviceConfig) (d : Device ρ) (input : DeviceInput ρ) :
    (moments config (.of (step config) d input)).Pairwise KeepsCredentials := by
  rw [moments, List.pairwise_map]
  apply pairwise_inits
  intro written written' hle hcut
  exact (credentialWrites config d input.action).keeps hle
    (hcut.trans (made_cut config d input))

theorem permanent_run (config : DeviceConfig) (d : Device ρ) (inputs : List (DeviceInput ρ)) :
    ((transitions (step config) d inputs).flatMap (moments config)).Pairwise KeepsCredentials := by
  have hrun : ((transitions (step config) d inputs).flatMap (moments config)).Pairwise
        KeepsCredentials ∧
      ∀ store ∈ (transitions (step config) d inputs).flatMap (moments config),
        KeepsCredentials store (finalState (step config) d inputs).store := by
    apply run_induction (motive := fun ts (d : Device ρ) =>
      (ts.flatMap (moments config)).Pairwise KeepsCredentials ∧
        ∀ store ∈ ts.flatMap (moments config), KeepsCredentials store d.store)
    · exact ⟨.nil, List.forall_mem_nil _⟩
    · intro ts d input ih
      obtain ⟨hpairwise, hkept⟩ := ih
      have hnext : ∀ store ∈ moments config (.of (step config) d input),
          KeepsCredentials d.store store := by
        intro store hstore
        obtain ⟨written, hcut, rfl⟩ := exists_cut hstore
        exact (credentialWrites config d input.action).keeps List.nil_prefix hcut
      rw [List.flatMap_append, List.flatMap_singleton]
      constructor
      · rw [List.pairwise_append]
        refine ⟨hpairwise, moments_pairwise config d input, ?_⟩
        intro store hstore store' hstore'
        exact (hkept store hstore).trans (hnext store' hstore')
      · rw [List.forall_mem_append]
        constructor
        · intro store hstore
          exact (hkept store hstore).trans (hnext _ (last_mem_moments config d input))
        · intro store hstore
          obtain ⟨written, hmade, rfl⟩ := mem_moments.mp hstore
          rw [step_store]
          exact (credentialWrites config d input.action).keeps hmade (made_cut config d input)
  exact hrun.1

/-- Over every run from a store without credentials, with power lost between any two writes, the
stored credentials are consistent. -/
theorem credentials_crashConsistent (config : DeviceConfig) {store : PersistentStore}
    (h : DeviceCredentialStore.hasCertificate store = false) (inputs : List (DeviceInput ρ)) :
    CredentialsConsistent config (transitions (step config) ⟨store, none⟩ inputs) := by
  have hnone : DeviceCredentialStore.loadCertificate store = none :=
    Option.isNone_iff_eq_none.mp (Option.isSome_eq_false_iff.mp h)
  refine ⟨?_, ?_, permanent_run config _ inputs⟩
  · intro earlier t later hts store hstore
    obtain ⟨earlier, input, later, rfl, rfl, rfl, _⟩ := transitions_split hts
    exact (paired_run config hnone earlier).next config input hstore
  · intro t ht call hcall hfailed store hstore
    obtain ⟨earlier, input, later, rfl, rfl⟩ := exists_of_mem_transitions ht
    exact failed_unchanged config hcall hfailed hstore

end Runs

/-- Power is lost after the key is stored and before the certificate is; the next attempt
enrols. -/
def interruptedEnrolment : List (DeviceInput Unit) :=
  [⟨.boot () 0 enrollingAnswers, none⟩,
    ⟨.provisioning (.update 1000 enrollingAnswers), none⟩,
    ⟨.provisioning (.update 2000 enrollingAnswers), some 1⟩,
    ⟨.boot () 0 enrollingAnswers, none⟩,
    ⟨.provisioning (.requestProvisioning 1000 enrollingAnswers), none⟩,
    ⟨.provisioning (.update 2000 enrollingAnswers), none⟩,
    ⟨.provisioning (.update 3000 enrollingAnswers), none⟩]

theorem interruptedEnrolment_consistent :
    letI := zeroRandom
    letI := compactJson
    DeviceCredentialStore.loadCertificate
        (finalState (step benchConfig) ⟨.empty, none⟩ interruptedEnrolment).store =
      some (ascii "cert") ∧
    CredentialsConsistent benchConfig
      (transitions (step benchConfig) ⟨.empty, none⟩ interruptedEnrolment) :=
  let := zeroRandom
  let := compactJson
  ⟨by decide, credentials_crashConsistent benchConfig rfl interruptedEnrolment⟩

end Device
end InterBridge
