import InterBridge.Protocol.ArduinoJson

namespace InterBridge
open Foundations
set_option autoImplicit true

def kProtocolVersion : Int32 := 1

def kMaxJsonPayloadBytes : Nat := 8192

inductive CommandType where
  | openDoor | restart | enterProvisioning | factoryReset
  | answerCall | rejectCall | endCall | unknown
  deriving DecidableEq

def commandTypeFromString (value : Bytes) : CommandType :=
  if value = ascii "OPEN_DOOR" then .openDoor
  else if value = ascii "RESTART" then .restart
  else if value = ascii "ENTER_PROVISIONING" then .enterProvisioning
  else if value = ascii "FACTORY_RESET" then .factoryReset
  else if value = ascii "ANSWER_CALL" then .answerCall
  else if value = ascii "REJECT_CALL" then .rejectCall
  else if value = ascii "END_CALL" then .endCall
  else .unknown

def isLowercaseHex (c : UInt8) : Bool := (48 ≤ c && c ≤ 57) || (97 ≤ c && c ≤ 102)

def isValidCommandId (commandId : Bytes) : Bool :=
  commandId.length = 32 && commandId.all isLowercaseHex

/-- A `CommandStatus` is an `int` underneath: a value cast from stored data may be none of the
named ones. -/
inductive CommandStatus where
  | accepted | completed | failed | rejected
  | unlisted (value : Int32) (h : value < 0 ∨ 3 < value)
  deriving DecidableEq

def CommandStatus.toInt32 : CommandStatus → Int32
  | .accepted => 0
  | .completed => 1
  | .failed => 2
  | .rejected => 3
  | .unlisted value _ => value

/-- `static_cast<CommandStatus>(value)`. -/
def CommandStatus.ofInt32 (value : Int32) : CommandStatus :=
  if h : value < 0 ∨ 3 < value then .unlisted value h
  else if value = 0 then .accepted
  else if value = 1 then .completed
  else if value = 2 then .failed
  else .rejected

def CommandStatus.toString : CommandStatus → Bytes
  | .accepted => ascii "ACCEPTED"
  | .completed => ascii "COMPLETED"
  | .failed => ascii "FAILED"
  | .rejected => ascii "REJECTED"
  | .unlisted _ _ => ascii "UNKNOWN_STATUS"

@[simp] theorem CommandStatus.ofInt32_toInt32 (status : CommandStatus) :
    ofInt32 status.toInt32 = status := by
  cases status with
  | unlisted value h => rw [toInt32, ofInt32, dif_pos h]
  | _ => decide

inductive ProtocolErrorCode where
  | invalidPayload | payloadTooLarge | unsupportedProtocolVersion | unknownCommand
  | commandNotAllowed | commandExpired | clockNotTrustworthy | invalidTimestamp | deviceBusy
  | notProvisioned | wifiUnavailable | cloudUnavailable | capabilityDisabled | doorOutputFailure
  | otaDownloadFailed | otaValidationFailed | otaInstallFailed | provisioningFailed | internalError
  | unlisted (value : Int32) (h : value < 0 ∨ 18 < value)
  deriving DecidableEq

def ProtocolErrorCode.toInt32 : ProtocolErrorCode → Int32
  | .invalidPayload => 0
  | .payloadTooLarge => 1
  | .unsupportedProtocolVersion => 2
  | .unknownCommand => 3
  | .commandNotAllowed => 4
  | .commandExpired => 5
  | .clockNotTrustworthy => 6
  | .invalidTimestamp => 7
  | .deviceBusy => 8
  | .notProvisioned => 9
  | .wifiUnavailable => 10
  | .cloudUnavailable => 11
  | .capabilityDisabled => 12
  | .doorOutputFailure => 13
  | .otaDownloadFailed => 14
  | .otaValidationFailed => 15
  | .otaInstallFailed => 16
  | .provisioningFailed => 17
  | .internalError => 18
  | .unlisted value _ => value

/-- The named codes in the order of their values. -/
def ProtocolErrorCode.listed : List ProtocolErrorCode :=
  [.invalidPayload, .payloadTooLarge, .unsupportedProtocolVersion, .unknownCommand,
    .commandNotAllowed, .commandExpired, .clockNotTrustworthy, .invalidTimestamp, .deviceBusy,
    .notProvisioned, .wifiUnavailable, .cloudUnavailable, .capabilityDisabled, .doorOutputFailure,
    .otaDownloadFailed, .otaValidationFailed, .otaInstallFailed, .provisioningFailed,
    .internalError]

/-- `static_cast<ProtocolErrorCode>(value)`. -/
def ProtocolErrorCode.ofInt32 (value : Int32) : ProtocolErrorCode :=
  if h : value < 0 ∨ 18 < value then .unlisted value h
  else listed[value.toInt.toNat]?.getD .internalError

@[simp] theorem ProtocolErrorCode.ofInt32_toInt32 (code : ProtocolErrorCode) :
    ofInt32 code.toInt32 = code := by
  cases code with
  | unlisted value h => rw [toInt32, ofInt32, dif_pos h]
  | _ => decide

def ProtocolErrorCode.toString : ProtocolErrorCode → Bytes
  | .invalidPayload => ascii "INVALID_PAYLOAD"
  | .payloadTooLarge => ascii "PAYLOAD_TOO_LARGE"
  | .unsupportedProtocolVersion => ascii "UNSUPPORTED_PROTOCOL_VERSION"
  | .unknownCommand => ascii "UNKNOWN_COMMAND"
  | .commandNotAllowed => ascii "COMMAND_NOT_ALLOWED"
  | .commandExpired => ascii "COMMAND_EXPIRED"
  | .clockNotTrustworthy => ascii "CLOCK_NOT_TRUSTWORTHY"
  | .invalidTimestamp => ascii "INVALID_TIMESTAMP"
  | .deviceBusy => ascii "DEVICE_BUSY"
  | .notProvisioned => ascii "NOT_PROVISIONED"
  | .wifiUnavailable => ascii "WIFI_UNAVAILABLE"
  | .cloudUnavailable => ascii "CLOUD_UNAVAILABLE"
  | .capabilityDisabled => ascii "CAPABILITY_DISABLED"
  | .doorOutputFailure => ascii "DOOR_OUTPUT_FAILURE"
  | .otaDownloadFailed => ascii "OTA_DOWNLOAD_FAILED"
  | .otaValidationFailed => ascii "OTA_VALIDATION_FAILED"
  | .otaInstallFailed => ascii "OTA_INSTALL_FAILED"
  | .provisioningFailed => ascii "PROVISIONING_FAILED"
  | .internalError => ascii "INTERNAL_ERROR"
  | .unlisted _ _ => ascii "UNKNOWN_ERROR"

def defaultErrorMessage : ProtocolErrorCode → Bytes
  | .invalidPayload => ascii "Command payload is malformed or missing required fields"
  | .payloadTooLarge => ascii "Command payload exceeds the maximum allowed size"
  | .unsupportedProtocolVersion => ascii "Command uses an unsupported protocol version"
  | .unknownCommand => ascii "Command type is not recognized"
  | .commandNotAllowed => ascii "Command is not allowed in the current device state"
  | .commandExpired => ascii "Command validity window has expired"
  | .clockNotTrustworthy =>
    ascii "Device clock is not yet synchronized; time-sensitive commands are refused"
  | .invalidTimestamp =>
    ascii "Command issued_at/expires_at is invalid or exceeds the allowed validity window"
  | .deviceBusy => ascii "Device is busy and cannot execute the command right now"
  | .notProvisioned => ascii "Device is not provisioned"
  | .wifiUnavailable => ascii "Wi-Fi is unavailable"
  | .cloudUnavailable => ascii "Cloud connection is unavailable"
  | .capabilityDisabled => ascii "Door opening capability is disabled"
  | .doorOutputFailure => ascii "Door output could not be activated"
  | .otaDownloadFailed => ascii "Firmware download failed"
  | .otaValidationFailed => ascii "Firmware validation failed"
  | .otaInstallFailed => ascii "Firmware install failed"
  | .provisioningFailed => ascii "Provisioning failed"
  | .internalError => ascii "Internal firmware error"
  | .unlisted _ _ => ascii "Unknown error"

structure ProtocolError where
  code : ProtocolErrorCode
  message : Bytes
  deriving DecidableEq

structure CommandResponse where
  deviceId : Bytes
  commandId : Bytes
  command : Bytes
  status : CommandStatus
  error : Option ProtocolError
  deriving DecidableEq

def CommandResponse.toDocument (response : CommandResponse) : Json :=
  .obj ([(ascii "protocol_version", .int kProtocolVersion.toInt),
    (ascii "device_id", .str response.deviceId),
    (ascii "command_id", .str response.commandId),
    (ascii "command", .str response.command),
    (ascii "status", .str response.status.toString)] ++
    match response.error with
    | some error =>
      [(ascii "error", .obj [(ascii "code", .str error.code.toString),
        (ascii "message", .str error.message)])]
    | none => [])

def CommandResponse.toJson [ArduinoJson] (response : CommandResponse) : Bytes :=
  serializeJson response.toDocument

inductive ProtocolEventName where
  | ringDetected | ringEnded | offHook | onHook | callStarted | callEnded | doorOpened
  | doorOpenFailed | provisioningStarted | provisioningCompleted | provisioningFailed
  | factoryResetRequested | otaStarted | otaCompleted | otaFailed | error
  deriving DecidableEq

def ProtocolEventName.toString : ProtocolEventName → Bytes
  | .ringDetected => ascii "RING_DETECTED"
  | .ringEnded => ascii "RING_ENDED"
  | .offHook => ascii "OFF_HOOK"
  | .onHook => ascii "ON_HOOK"
  | .callStarted => ascii "CALL_STARTED"
  | .callEnded => ascii "CALL_ENDED"
  | .doorOpened => ascii "DOOR_OPENED"
  | .doorOpenFailed => ascii "DOOR_OPEN_FAILED"
  | .provisioningStarted => ascii "PROVISIONING_STARTED"
  | .provisioningCompleted => ascii "PROVISIONING_COMPLETED"
  | .provisioningFailed => ascii "PROVISIONING_FAILED"
  | .factoryResetRequested => ascii "FACTORY_RESET_REQUESTED"
  | .otaStarted => ascii "OTA_STARTED"
  | .otaCompleted => ascii "OTA_COMPLETED"
  | .otaFailed => ascii "OTA_FAILED"
  | .error => ascii "ERROR"

/-- `callId` is empty for an event outside a call session, `timestamp` while no time is known. -/
structure DeviceEvent where
  deviceId : Bytes
  event : ProtocolEventName
  eventId : Bytes
  callId : Bytes
  timestamp : Bytes
  deriving DecidableEq

/-- A member that is left out while its text is empty. -/
def optionalMember (key value : Bytes) : List (Bytes × Json) :=
  if value.isEmpty then [] else [(key, .str value)]

def DeviceEvent.toDocument (event : DeviceEvent) : Json :=
  .obj ([(ascii "protocol_version", .int kProtocolVersion.toInt),
    (ascii "device_id", .str event.deviceId),
    (ascii "event", .str event.event.toString)] ++
    optionalMember (ascii "event_id") event.eventId ++
    optionalMember (ascii "call_id") event.callId ++
    optionalMember (ascii "timestamp") event.timestamp)

def DeviceEvent.toJson [ArduinoJson] (event : DeviceEvent) : Bytes :=
  serializeJson event.toDocument

theorem optionalMember_keys (key value : Bytes) :
    ((optionalMember key value).map Prod.fst).Sublist [key] := by
  rw [optionalMember]
  split
  · exact List.nil_sublist _
  · exact .refl _

theorem optionalMember_storable (h : member ∈ optionalMember key value) :
    member.2.StorableWithin 9 := by
  rw [optionalMember] at h
  split at h
  · exact absurd h List.not_mem_nil
  · rw [List.mem_singleton] at h
    rw [h]
    trivial

theorem DeviceEvent.toDocument_storable (event : DeviceEvent) :
    event.toDocument.StorableWithin 10 := by
  constructor
  · have hkeys : [ascii "protocol_version", ascii "device_id", ascii "event", ascii "event_id",
        ascii "call_id", ascii "timestamp"].Nodup := by decide
    simp only [List.map_append]
    refine List.Nodup.sublist ?_ hkeys
    exact (((List.Sublist.refl _).append (optionalMember_keys _ _)).append
      (optionalMember_keys _ _)).append (optionalMember_keys _ _)
  · simp only [List.forall_mem_append, List.forall_mem_cons]
    exact ⟨⟨⟨⟨Json.StorableWithin.int32 9 _, trivial, trivial, List.forall_mem_nil _⟩,
      fun _ => optionalMember_storable⟩, fun _ => optionalMember_storable⟩,
      fun _ => optionalMember_storable⟩

theorem DeviceEvent.get_event (event : DeviceEvent) :
    event.toDocument.get (ascii "event") = .str event.event.toString := rfl

theorem DeviceEvent.get_call_id {event : DeviceEvent} (h : event.callId ≠ []) :
    event.toDocument.get (ascii "call_id") = .str event.callId := by
  have hcall : optionalMember (ascii "call_id") event.callId =
      [(ascii "call_id", .str event.callId)] := by
    rw [optionalMember, if_neg (mt List.isEmpty_iff.mp h)]
  rw [toDocument, hcall, optionalMember]
  split
  · rfl
  · rfl

/-- What the cloud reads off a payload: an event of this name in this call session. -/
def ReportsCall [ArduinoJson] (name : ProtocolEventName) (callId payload : Bytes) : Prop :=
  ∃ v, deserializeJson payload = some v ∧ v.get (ascii "event") = .str name.toString ∧
    v.get (ascii "call_id") = .str callId

theorem DeviceEvent.reportsCall_iff [ArduinoJson] (hj : ArduinoJson.RoundTrips)
    {event : DeviceEvent} (h : event.callId ≠ []) :
    ReportsCall kind call event.toJson ↔
      kind.toString = event.event.toString ∧ call = event.callId := by
  have hread : deserializeJson event.toJson = some event.toDocument :=
    hj.storable _ event.toDocument_storable
  constructor
  · intro hreports
    obtain ⟨v, hv, hname, hcall⟩ := hreports
    rw [hread, Option.some.injEq] at hv
    subst hv
    rw [get_event, Json.str.injEq] at hname
    rw [get_call_id h, Json.str.injEq] at hcall
    exact ⟨hname.symm, hcall.symm⟩
  · intro hevent
    obtain ⟨hname, hcall⟩ := hevent
    exact ⟨_, hread, by rw [hname, get_event], by rw [hcall, get_call_id h]⟩

@[ext] structure DeviceCommand where
  type : CommandType
  rawCommand : Bytes
  commandId : Bytes
  deviceId : Bytes
  rawPayload : Bytes
  issuedAtUnixSeconds : Int64
  hasIssuedAt : Bool
  expiresAtUnixSeconds : Int64
  hasExpiresAt : Bool
  deriving DecidableEq

end InterBridge
