import InterBridge.Network.MqttTopics
import InterBridge.Network.MqttTransport
import InterBridge.Provisioning.DeviceIdentity

namespace InterBridge
open Foundations
set_option autoImplicit true

/-- `connect` as it would be if it took any client identifier. -/
def Esp32AwsIotTransport.connectAs [IMqttClient κ] (t : Esp32AwsIotTransport κ)
    (credentials : DeviceCredentialStore) (clientId : Bytes) :
    TransportReply (Esp32AwsIotTransport κ) :=
  (t.ask .disconnect).bind fun _ t =>
  let t := t.invalidate
  if !validEndpoint t.config.endpoint || t.config.rootCaPem.isEmpty ||
      !credentials.hasCertificate || !credentials.hasPrivateKey then .pure t false
  else
    match credentials.loadCertificate, credentials.loadPrivateKey with
    | some cert, some key =>
      if cert.isEmpty || key.isEmpty then .pure t false
      else { t with certificatePem := cert, privateKeyPem := key }.openSession clientId
    | _, _ => .pure t false

theorem isValidDeviceId_eq (deviceId : Bytes) :
    isValidDeviceId deviceId = Esp32AwsIotTransport.validDeviceId deviceId := by
  have hformat : (decide (deviceId.length ≠ 35) || decide (deviceId.take 3 ≠ ascii "ib-")) =
      !(decide (deviceId.length = 35) && decide (deviceId.take 3 = ascii "ib-")) := by
    rw [decide_not, decide_not, Bool.not_and]
  rw [isValidDeviceId, Esp32AwsIotTransport.validDeviceId, hformat]
  cases decide (deviceId.length = 35) && decide (deviceId.take 3 = ascii "ib-") with
  | true => rfl
  | false => rfl

theorem connect_of_valid [IMqttClient κ] (h : isValidDeviceId deviceId = true)
    (t : Esp32AwsIotTransport κ) (credentials : DeviceCredentialStore) :
    t.connect credentials deviceId = t.connectAs credentials deviceId := by
  rw [isValidDeviceId_eq] at h
  have hchecked (valid : Bool) :
      (valid || !Esp32AwsIotTransport.validDeviceId deviceId) = valid := by
    rw [h, Bool.not_true, Bool.or_false]
  apply congrArg (t.ask .disconnect).bind
  funext _ t'
  apply if_congr
  · rw [hchecked]
  · rfl
  · rfl

/-- The checks of an identity agree with each other and with what makes one. -/
structure IdentityAgreement : Prop where
  validators : ∀ deviceId,
    isValidDeviceId deviceId = Esp32AwsIotTransport.validDeviceId deviceId
  hexId : ∀ {ρ : Type} [IRandomSource ρ] (random : ρ),
    isValidDeviceId (generateHexId random (ascii "ib")).2 = true ∧
      Esp32AwsIotTransport.validDeviceId (generateHexId random (ascii "ib")).2 = true
  numericCode : ∀ {ρ : Type} [IRandomSource ρ] (random : ρ),
    isValidSetupCode (generateNumericCode random 12).2 = true
  printed : ∀ {ρ : Type} [IRandomSource ρ] (random : ρ) (idPrefix : Bytes)
    (buffer : Vector UInt8 33), (generateHexId random idPrefix).2 = idPrefix ++ ascii "-" ++
      (printHex buffer.toList 0 (IRandomSource.fill random 16).2.toList).take 32
  injective : ∀ {ρ σ : Type} [IRandomSource ρ] [IRandomSource σ] (random : ρ) (random' : σ)
    (idPrefix : Bytes), (generateHexId random idPrefix).2 = (generateHexId random' idPrefix).2 →
      (IRandomSource.fill random 16).2 = (IRandomSource.fill random' 16).2
  connects : ∀ {ρ κ : Type} [IRandomSource ρ] [IMqttClient κ] (provider : DeviceIdentityProvider)
    (store : PersistentStore) (random : ρ) (t : Esp32AwsIotTransport κ)
    (credentials : DeviceCredentialStore),
    let clientId := MqttTopics.clientId (provider.load store random).value.deviceId
    t.connect credentials clientId = t.connectAs credentials clientId

/-- The identity a boot loads is one that `connect` takes. -/
theorem identityAgreement : IdentityAgreement := by
  constructor
  · exact isValidDeviceId_eq
  · intro ρ _ random
    have hvalid := generateHexId_isValidDeviceId random
    exact ⟨hvalid, isValidDeviceId_eq _ ▸ hvalid⟩
  · intro ρ _ random
    exact generateNumericCode_isValidSetupCode random
  · intro ρ _ random idPrefix buffer
    exact generateHexId_printed random idPrefix buffer
  · intro ρ σ _ _ random random' idPrefix h
    exact generateHexId_injective h
  · intro ρ κ _ _ provider store random t credentials
    exact connect_of_valid (provider.load_holdsIdentity store random).validDeviceId t credentials

end InterBridge
