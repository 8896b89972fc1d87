import InterBridge.Storage.CredentialStore

namespace InterBridge
open Foundations
set_option autoImplicit true

structure KeyPair where
  privateKeyPem : Bytes
  csrPem : Bytes
  deriving DecidableEq

structure CertificateResult where
  certificatePem : Bytes
  certificateOwnershipToken : Bytes
  deriving DecidableEq

inductive FleetProvisioningResult where
  | success | keyGenerationFailed | certificateRequestFailed | registerThingFailed
  deriving DecidableEq

/-- The key generator and the claim transport, as they answer one attempt. -/
structure FleetCollaborators where
  generate : Bytes → Option KeyPair
  createCertificateFromCsr : Bytes → Option CertificateResult
  registerThing : Bytes → Bytes → Bytes → Bool

/-- `FleetProvisioningCoordinator::provision`, with the store writes it makes in order. -/
def provision (fleet : FleetCollaborators) (templateName deviceId : Bytes) :
    FleetProvisioningResult × List (Bytes × Bytes) :=
  match fleet.generate deviceId with
  | none => (.keyGenerationFailed, [])
  | some keyPair =>
    match fleet.createCertificateFromCsr keyPair.csrPem with
    | none => (.certificateRequestFailed, [])
    | some certificate =>
      if !fleet.registerThing templateName certificate.certificateOwnershipToken deviceId then
        (.registerThingFailed, [])
      else
        (.success, [(kPrivateKeyKey, keyPair.privateKeyPem),
          (kCertificateKey, certificate.certificatePem)])

theorem provision_writes (fleet : FleetCollaborators) (templateName deviceId : Bytes) :
    ∀ write ∈ (provision fleet templateName deviceId).2,
      write.1 = kPrivateKeyKey ∨ write.1 = kCertificateKey := by
  intro write h
  rw [provision] at h
  split at h
  · cases h
  split at h
  · cases h
  split at h
  · cases h
  · rcases List.mem_cons.mp h with rfl | h
    · exact .inl rfl
    · rw [List.mem_singleton] at h
      subst h
      exact .inr rfl

/-- Every step of the attempt went well, the registration included, and left these credentials. -/
def Enrols (fleet : FleetCollaborators) (templateName deviceId privateKey certificate : Bytes) :
    Prop :=
  ∃ keyPair result, fleet.generate deviceId = some keyPair ∧
    fleet.createCertificateFromCsr keyPair.csrPem = some result ∧
    fleet.registerThing templateName result.certificateOwnershipToken deviceId = true ∧
    keyPair.privateKeyPem = privateKey ∧ result.certificatePem = certificate

/-- An attempt enrols and stores both credentials, or fails and stores nothing. -/
inductive Provisions (fleet : FleetCollaborators) (templateName deviceId : Bytes) :
    FleetProvisioningResult × List (Bytes × Bytes) → Prop where
  | failed (h : result ≠ .success) : Provisions fleet templateName deviceId (result, [])
  | enrolled (h : Enrols fleet templateName deviceId privateKey certificate) :
    Provisions fleet templateName deviceId
      (.success, [(kPrivateKeyKey, privateKey), (kCertificateKey, certificate)])

theorem provision_cases (fleet : FleetCollaborators) (templateName deviceId : Bytes) :
    Provisions fleet templateName deviceId (provision fleet templateName deviceId) := by
  rw [provision]
  split
  next => exact .failed FleetProvisioningResult.noConfusion
  next keyPair hgenerate =>
    split
    next => exact .failed FleetProvisioningResult.noConfusion
    next result hcreate =>
      split
      next => exact .failed FleetProvisioningResult.noConfusion
      next hregister =>
        rw [Bool.not_eq_true, Bool.not_eq_false'] at hregister
        exact .enrolled ⟨keyPair, result, hgenerate, hcreate, hregister, rfl, rfl⟩

theorem Enrols.success {fleet : FleetCollaborators}
    (h : Enrols fleet templateName deviceId privateKey certificate) :
    (provision fleet templateName deviceId).1 = .success := by
  obtain ⟨keyPair, result, hgenerate, hcreate, hregister, _⟩ := h
  simp only [provision, hgenerate, hcreate, hregister, Bool.not_true, Bool.false_eq_true, if_false]

end InterBridge
