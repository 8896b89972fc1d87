import InterBridge.Core.RandomId
import InterBridge.Protocol.Messages
import InterBridge.Provisioning.ProvisioningManager

namespace InterBridge
open Foundations
set_option autoImplicit true

def kDeviceIdKey : Bytes := ascii "device_id"

def kSetupCodeKey : Bytes := ascii "setup_code"

def kSetupCodeDigits : Nat := 12

def isDecimalDigit (c : UInt8) : Bool := 48 ≤ c && c ≤ 57

def isValidDeviceId (deviceId : Bytes) : Bool :=
  deviceId.length = 3 + 32 && deviceId.take 3 = ascii "ib-" && (deviceId.drop 3).all isLowercaseHex

def isValidSetupCode (setupCode : Bytes) : Bool :=
  setupCode.length = kSetupCodeDigits && setupCode.all isDecimalDigit

structure DeviceIdentity where
  deviceId : Bytes
  hardwareVersion : Bytes
  firmwareVersion : Bytes
  setupCode : Bytes
  provisioned : Bool := false
  deriving DecidableEq

/-- What a load hands on, with the store writes it makes in order. -/
structure Loaded (ρ α : Type) where
  value : α
  random : ρ
  writes : List StoreWrite

/-- The stored value if it is valid, else a new one, which is stored. -/
def loadOrGenerate (store : PersistentStore) (key : Bytes) (isValid : Bytes → Bool)
    (generate : ρ → ρ × Bytes) (random : ρ) : Loaded ρ Bytes :=
  match (store.get key).filter isValid with
  | some stored => ⟨stored, random, []⟩
  | none =>
    let (random, value) := generate random
    ⟨value, random, [.put key value]⟩

structure DeviceIdentityProvider where
  hardwareVersion : Bytes
  firmwareVersion : Bytes

def DeviceIdentityProvider.load [IRandomSource ρ] (provider : DeviceIdentityProvider)
    (store : PersistentStore) (random : ρ) : Loaded ρ DeviceIdentity :=
  let deviceId :=
    loadOrGenerate store kDeviceIdKey isValidDeviceId (generateHexId · (ascii "ib")) random
  let store := store.writeAll deviceId.writes
  let setupCode :=
    loadOrGenerate store kSetupCodeKey isValidSetupCode (generateNumericCode · kSetupCodeDigits)
      deviceId.random
  let store := store.writeAll setupCode.writes
  { value :=
      { deviceId := deviceId.value
        hardwareVersion := provider.hardwareVersion
        firmwareVersion := provider.firmwareVersion
        setupCode := setupCode.value
        provisioned := store.get kProvisionedKey = some (ascii "1") }
    random := setupCode.random
    writes := deviceId.writes ++ setupCode.writes }

theorem isDecimalDigit_add {d : UInt8} (h : d < 10) : isDecimalDigit (48 + d) = true := by
  simp only [UInt8.lt_iff_toNat_lt, UInt8.reduceToNat] at h
  simp only [isDecimalDigit, Bool.and_eq_true, decide_eq_true_eq, UInt8.le_iff_toNat_le,
    UInt8.toNat_add, UInt8.reduceToNat]
  omega

theorem hexDigit_isLowercaseHex {d : UInt8} (h : d < 16) : isLowercaseHex (hexDigit d) = true := by
  rw [hexDigit]
  split
  next hd =>
    have hdigit : isDecimalDigit (48 + d) = true := isDecimalDigit_add hd
    rw [isLowercaseHex, ← isDecimalDigit, hdigit, Bool.true_or]
  next hd =>
    simp only [UInt8.lt_iff_toNat_lt, UInt8.reduceToNat] at h hd
    simp only [isLowercaseHex, Bool.or_eq_true, Bool.and_eq_true, decide_eq_true_eq,
      UInt8.le_iff_toNat_le, UInt8.toNat_add, UInt8.reduceToNat]
    omega

theorem hexBytes_isLowercaseHex (bytes : Bytes) :
    (bytes.flatMap hexByte).all isLowercaseHex = true := by
  induction bytes with
  | nil => rfl
  | cons b bytes ih =>
    rw [List.flatMap_cons, List.all_append, ih, hexByte, List.all_cons, List.all_cons,
      List.all_nil, hexDigit_isLowercaseHex (div_lt_sixteen b),
      hexDigit_isLowercaseHex (mod_lt_sixteen b)]
    rfl

theorem hexBytes_length (bytes : Bytes) :
    (bytes.flatMap hexByte).length = 2 * bytes.length := by
  induction bytes with
  | nil => rfl
  | cons b bytes ih =>
    rw [List.flatMap_cons, List.length_append, ih, List.length_cons, hexByte]
    simp only [List.length_cons, List.length_nil]
    omega

/-- What is generated passes the check that decides whether it is generated again. -/
theorem generateHexId_isValidDeviceId [IRandomSource ρ] (random : ρ) :
    isValidDeviceId (generateHexId random (ascii "ib")).2 = true := by
  have hid : (generateHexId random (ascii "ib")).2 =
      ascii "ib-" ++ (IRandomSource.fill random 16).2.toList.flatMap hexByte := rfl
  have hlength : (ascii "ib-").length = 3 := by decide
  rw [hid, isValidDeviceId, List.length_append, hexBytes_length, Vector.length_toList, hlength,
    ← hlength, List.take_left, List.drop_left, hexBytes_isLowercaseHex, hlength]
  rfl

theorem generateNumericCode_valid [IRandomSource ρ] (random : ρ) (digitCount : Nat) :
    (generateNumericCode random digitCount).2.length = digitCount ∧
      (generateNumericCode random digitCount).2.all isDecimalDigit = true := by
  induction digitCount generalizing random with
  | zero => exact ⟨rfl, rfl⟩
  | succ digitCount ih =>
    obtain ⟨hlength, hdigits⟩ := ih (IRandomSource.fill random 1).1
    have hdigit : ∀ byte : UInt8, byte % 10 < 10 := by grind
    rw [generateNumericCode]
    constructor
    · rw [List.length_cons, hlength]
    · rw [List.all_cons, hdigits, isDecimalDigit_add (hdigit _)]
      rfl

theorem generateNumericCode_isValidSetupCode [IRandomSource ρ] (random : ρ) :
    isValidSetupCode (generateNumericCode random kSetupCodeDigits).2 = true := by
  obtain ⟨hlength, hdigits⟩ := generateNumericCode_valid random kSetupCodeDigits
  rw [isValidSetupCode, hlength, hdigits]
  rfl

section LoadOrGenerate
variable (store : PersistentStore) (key : Bytes) (isValid : Bytes → Bool)
  (generate : ρ → ρ × Bytes) (random : ρ)

theorem loadOrGenerate_writes :
    ∀ w ∈ (loadOrGenerate store key isValid generate random).writes, w.key = key := by
  intro w h
  rw [loadOrGenerate] at h
  split at h
  · cases h
  · rw [List.mem_singleton] at h
    rw [h]
    rfl

theorem loadOrGenerate_spec (hgenerate : ∀ random, isValid (generate random).2 = true) :
    isValid (loadOrGenerate store key isValid generate random).value = true ∧
      (store.writeAll (loadOrGenerate store key isValid generate random).writes).get key =
        some (loadOrGenerate store key isValid generate random).value := by
  rw [loadOrGenerate]
  split
  next stored h =>
    rw [Option.filter_eq_some_iff] at h
    exact ⟨h.2, h.1⟩
  next h => exact ⟨hgenerate random, store.get_set_self _ _⟩

theorem loadOrGenerate_of_valid {value : Bytes} (hstored : store.get key = some value)
    (hvalid : isValid value = true) :
    loadOrGenerate store key isValid generate random = ⟨value, random, []⟩ := by
  have h : (store.get key).filter isValid = some value :=
    Option.filter_eq_some_iff.mpr ⟨hstored, hvalid⟩
  rw [loadOrGenerate, h]

end LoadOrGenerate

/-- The store holds this identity, and a load accepts it. -/
structure HoldsIdentity (store : PersistentStore) (deviceId setupCode : Bytes) : Prop where
  storedDeviceId : store.get kDeviceIdKey = some deviceId
  storedSetupCode : store.get kSetupCodeKey = some setupCode
  validDeviceId : isValidDeviceId deviceId = true
  validSetupCode : isValidSetupCode setupCode = true

namespace DeviceIdentityProvider
variable [IRandomSource ρ] (provider : DeviceIdentityProvider) (store : PersistentStore)
  (random : ρ)

theorem load_writes :
    WritesTo [kDeviceIdKey, kSetupCodeKey] (provider.load store random).writes := by
  intro w h
  rcases List.mem_append.mp h with h | h
  · rw [loadOrGenerate_writes _ _ _ _ _ w h]
    exact List.mem_cons_self
  · rw [loadOrGenerate_writes _ _ _ _ _ w h]
    exact List.mem_cons_of_mem _ List.mem_cons_self

theorem load_provisioned :
    (provider.load store random).value.provisioned =
      decide (store.get kProvisionedKey = some (ascii "1")) := by
  have hkey : kProvisionedKey ∉ [kDeviceIdKey, kSetupCodeKey] := by decide
  have hkept := (provider.load_writes store random).get hkey store (List.prefix_refl _)
  rw [← hkept, load, store.writeAll_append]

/-- From the first load on the store holds the identity the load returned. -/
theorem load_holdsIdentity :
    HoldsIdentity (store.writeAll (provider.load store random).writes)
      (provider.load store random).value.deviceId
      (provider.load store random).value.setupCode := by
  obtain ⟨hvalidId, hid⟩ := loadOrGenerate_spec store kDeviceIdKey isValidDeviceId
    (generateHexId · (ascii "ib")) random generateHexId_isValidDeviceId
  obtain ⟨hvalidCode, hcode⟩ := loadOrGenerate_spec
    (store.writeAll (loadOrGenerate store kDeviceIdKey isValidDeviceId
      (generateHexId · (ascii "ib")) random).writes) kSetupCodeKey isValidSetupCode
    (generateNumericCode · kSetupCodeDigits)
    (loadOrGenerate store kDeviceIdKey isValidDeviceId
      (generateHexId · (ascii "ib")) random).random generateNumericCode_isValidSetupCode
  rw [load, store.writeAll_append]
  refine ⟨?_, hcode, hvalidId, hvalidCode⟩
  rw [PersistentStore.writeAll_get_of_cut _ (List.prefix_refl _), hid]
  intro w hw
  rw [loadOrGenerate_writes _ _ _ _ _ w hw]
  decide

end DeviceIdentityProvider

theorem HoldsIdentity.load [IRandomSource ρ] (h : HoldsIdentity store deviceId setupCode)
    (provider : DeviceIdentityProvider) (random : ρ) :
    (provider.load store random).writes = [] ∧
      (provider.load store random).value.deviceId = deviceId ∧
      (provider.load store random).value.setupCode = setupCode := by
  rw [DeviceIdentityProvider.load,
    loadOrGenerate_of_valid _ _ _ _ _ h.storedDeviceId h.validDeviceId]
  dsimp only [PersistentStore.writeAll, List.foldl_nil]
  rw [loadOrGenerate_of_valid _ _ _ _ _ h.storedSetupCode h.validSetupCode]
  exact ⟨rfl, rfl, rfl⟩

theorem HoldsIdentity.writeAll (h : HoldsIdentity store deviceId setupCode)
    (hwrites : WritesTo keys writes) (hdeviceId : kDeviceIdKey ∉ keys)
    (hsetupCode : kSetupCodeKey ∉ keys) (hcut : written <+: writes) :
    HoldsIdentity (store.writeAll written) deviceId setupCode := by
  refine ⟨?_, ?_, h.validDeviceId, h.validSetupCode⟩
  · rw [hwrites.get hdeviceId store hcut]
    exact h.storedDeviceId
  · rw [hwrites.get hsetupCode store hcut]
    exact h.storedSetupCode

end InterBridge
