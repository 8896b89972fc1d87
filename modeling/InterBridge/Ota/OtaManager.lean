import InterBridge.Ota.FirmwareVersion

namespace InterBridge
open Foundations
set_option autoImplicit true

inductive OtaResult where
  | success | versionRejected | downloadFailed | hashMismatch | signatureInvalid | installFailed
  | bootValidationFailed
  deriving DecidableEq

def OtaResult.toText : OtaResult → Bytes
  | .success => ascii "SUCCESS"
  | .versionRejected => ascii "VERSION_REJECTED"
  | .downloadFailed => ascii "DOWNLOAD_FAILED"
  | .hashMismatch => ascii "HASH_MISMATCH"
  | .signatureInvalid => ascii "SIGNATURE_INVALID"
  | .installFailed => ascii "INSTALL_FAILED"
  | .bootValidationFailed => ascii "BOOT_VALIDATION_FAILED"

/-- The half of an update that is left to the platform. What it does goes with the state of
everything outside the two coordinators. -/
structure IOtaPlatform (σ : Type) where
  downloadAndHash : Bytes → StateM σ (Option Bytes)
  installAndReboot : StateM σ Bool
  confirmBootOrRollback : StateM σ Bool

structure IFirmwareVerifier (σ : Type) where
  verifySha256 : Bytes → Bytes → StateM σ Bool
  verifySignature : Bytes → Bytes → StateM σ Bool

namespace DefaultFirmwareVerifier

/-- `std::tolower` in the C locale. -/
def lowerByte (c : UInt8) : UInt8 := if 65 ≤ c ∧ c ≤ 90 then c + 32 else c

def toLower (value : Bytes) : Bytes := value.map lowerByte

end DefaultFirmwareVerifier

/-- No signing scheme has been chosen, so no signature passes. -/
def DefaultFirmwareVerifier (σ : Type) : IFirmwareVerifier σ where
  verifySha256 computedHexDigest expectedHexDigest :=
    pure (DefaultFirmwareVerifier.toLower computedHexDigest =
      DefaultFirmwareVerifier.toLower expectedHexDigest)
  verifySignature _ _ := pure false

structure OtaCoordinator (σ : Type) where
  platform : IOtaPlatform σ
  verifier : IFirmwareVerifier σ
  currentVersion : Bytes

def OtaCoordinator.apply (o : OtaCoordinator σ) (targetVersion url expectedSha256 : Bytes) :
    StateM σ OtaResult := do
  if !isNewerVersion targetVersion o.currentVersion then return .versionRejected
  let some downloaded ← o.platform.downloadAndHash url | return .downloadFailed
  if !(← o.verifier.verifySha256 downloaded expectedSha256) then return .hashMismatch
  if !(← o.verifier.verifySignature downloaded []) then return .signatureInvalid
  if !(← o.platform.installAndReboot) then return .installFailed
  if !(← o.platform.confirmBootOrRollback) then return .bootValidationFailed
  return .success

end InterBridge
