import InterBridge.Network.HealthReporter
import InterBridge.Protocol.ParseCommand

namespace InterBridge
open Foundations
set_option autoImplicit true

def HealthReport.toDocument (report : HealthReport) : Json :=
  .obj [(ascii "protocol_version", .int kProtocolVersion.toInt),
    (ascii "device_id", .str report.deviceId),
    (ascii "firmware_version", .str report.firmwareVersion),
    (ascii "intercom_state", .str report.intercomState),
    (ascii "uptime_ms", .int report.uptimeMs.toNat),
    (ascii "wifi_rssi", .int report.wifiRssi.toInt),
    (ascii "free_heap", .int report.freeHeapBytes.toNat)]

def ShadowReportedState.toDocument (state : ShadowReportedState) : Json :=
  .obj [(ascii "state", .obj [(ascii "reported", .obj
    [(ascii "firmware_version", .str state.firmwareVersion),
      (ascii "hardware_version", .str state.hardwareVersion),
      (ascii "intercom_state", .str state.intercomState),
      (ascii "wifi_rssi", .int state.wifiRssi.toInt),
      (ascii "uptime_ms", .int state.uptimeMs.toNat),
      (ascii "provisioned", .bool state.provisioned),
      (ascii "health_interval_s", .int state.healthIntervalSeconds.toNat)])])]

/-- What a device says: an event, the response to a command, its health, or its shadow. -/
inductive Outgoing where
  | event (event : DeviceEvent)
  | response (response : CommandResponse)
  | health (report : HealthReport)
  | shadow (state : ShadowReportedState)
  deriving DecidableEq

inductive OutgoingKind where
  | event | response | health | shadow
  deriving DecidableEq

/-- The kind of message that a document is, by the members it has. -/
def OutgoingKind.ofDocument (doc : Json) : OutgoingKind :=
  if doc.containsKey (ascii "event") then .event
  else if doc.containsKey (ascii "command_id") then .response
  else if doc.containsKey (ascii "uptime_ms") then .health
  else .shadow

/-- The named statuses. -/
def CommandStatus.listed : List CommandStatus := [.accepted, .completed, .failed, .rejected]

theorem CommandStatus.toString_injective {status status' : CommandStatus} (h : status ∈ listed)
    (h' : status' ∈ listed) (heq : status.toString = status'.toString) : status = status' := by
  have hall : ∀ a ∈ listed, ∀ b ∈ listed, a.toString = b.toString → a = b := by decide +kernel
  exact hall _ h _ h' heq

theorem ProtocolErrorCode.toString_injective {code code' : ProtocolErrorCode} (h : code ∈ listed)
    (h' : code' ∈ listed) (heq : code.toString = code'.toString) : code = code' := by
  have hall : ∀ a ∈ listed, ∀ b ∈ listed, a.toString = b.toString → a = b := by decide +kernel
  exact hall _ h _ h' heq

def ProtocolEventName.all : List ProtocolEventName :=
  [.ringDetected, .ringEnded, .offHook, .onHook, .callStarted, .callEnded, .doorOpened,
    .doorOpenFailed, .provisioningStarted, .provisioningCompleted, .provisioningFailed,
    .factoryResetRequested, .otaStarted, .otaCompleted, .otaFailed, .error]

theorem ProtocolEventName.toString_injective {name name' : ProtocolEventName}
    (heq : name.toString = name'.toString) : name = name' := by
  have hmem (name : ProtocolEventName) : name ∈ all := by
    cases name with
    | _ => decide
  have hall : ∀ a ∈ all, ∀ b ∈ all, a.toString = b.toString → a = b := by decide +kernel
  exact hall _ (hmem name) _ (hmem name') heq

/-- What is read off a member that is left out while its text is empty. -/
def optionalText (value : Bytes) : Json := if value.isEmpty then .null else .str value

theorem optionalText_injective (h : optionalText value = optionalText value') : value = value' := by
  rw [optionalText, optionalText] at h
  split at h
  next hempty =>
    split at h
    next hempty' => rw [List.isEmpty_iff.mp hempty, List.isEmpty_iff.mp hempty']
    next => cases h
  next =>
    split at h
    · cases h
    · exact Json.str.inj h

namespace DeviceEvent

theorem get_optional (e : DeviceEvent) :
    e.toDocument.get (ascii "event_id") = optionalText e.eventId ∧
      e.toDocument.get (ascii "call_id") = optionalText e.callId ∧
      e.toDocument.get (ascii "timestamp") = optionalText e.timestamp := by
  rw [toDocument, optionalMember, optionalMember, optionalMember, optionalText, optionalText,
    optionalText]
  split
  all_goals
    split
    all_goals
      split
      all_goals exact ⟨rfl, rfl, rfl⟩

theorem toDocument_injective {e e' : DeviceEvent} (h : e.toDocument = e'.toDocument) : e = e' := by
  have hmember (key : Bytes) : e.toDocument.get key = e'.toDocument.get key := by rw [h]
  obtain ⟨hid, hcall, htime⟩ := e.get_optional
  obtain ⟨hid', hcall', htime'⟩ := e'.get_optional
  have hdevice : Json.str e.deviceId = .str e'.deviceId := hmember (ascii "device_id")
  have hname : Json.str e.event.toString = .str e'.event.toString := hmember (ascii "event")
  have heventId := hid.symm.trans ((hmember _).trans hid')
  have hcallId := hcall.symm.trans ((hmember _).trans hcall')
  have htimestamp := htime.symm.trans ((hmember _).trans htime')
  cases e with
  | mk =>
    cases e' with
    | mk =>
      rw [DeviceEvent.mk.injEq]
      exact ⟨Json.str.inj hdevice, ProtocolEventName.toString_injective (Json.str.inj hname),
        optionalText_injective heventId, optionalText_injective hcallId,
        optionalText_injective htimestamp⟩

end DeviceEvent

theorem CommandResponse.toDocument_injective {r r' : CommandResponse}
    (hproper : r.status ∈ CommandStatus.listed ∧
      ∀ error, r.error = some error → error.code ∈ ProtocolErrorCode.listed)
    (hproper' : r'.status ∈ CommandStatus.listed ∧
      ∀ error, r'.error = some error → error.code ∈ ProtocolErrorCode.listed)
    (h : r.toDocument = r'.toDocument) : r = r' := by
  have hmember (key : Bytes) : r.toDocument.get key = r'.toDocument.get key := by rw [h]
  have hdevice : Json.str r.deviceId = .str r'.deviceId := hmember (ascii "device_id")
  have hid : Json.str r.commandId = .str r'.commandId := hmember (ascii "command_id")
  have hcommand : Json.str r.command = .str r'.command := hmember (ascii "command")
  have hstatus : Json.str r.status.toString = .str r'.status.toString := hmember (ascii "status")
  have herror := hmember (ascii "error")
  obtain ⟨deviceId, commandId, command, status, error⟩ := r
  obtain ⟨deviceId', commandId', command', status', error'⟩ := r'
  rw [CommandResponse.mk.injEq]
  refine ⟨Json.str.inj hdevice, Json.str.inj hid, Json.str.inj hcommand,
    CommandStatus.toString_injective hproper.1 hproper'.1 (Json.str.inj hstatus), ?_⟩
  cases error with
  | none =>
    cases error' with
    | none => rfl
    | some error' => cases herror
  | some error =>
    cases error' with
    | none => cases herror
    | some error' =>
      have hcode : Json.str error.code.toString = .str error'.code.toString :=
        congrArg (Json.get · (ascii "code")) herror
      have hmessage : Json.str error.message = .str error'.message :=
        congrArg (Json.get · (ascii "message")) herror
      rw [Option.some.injEq, ProtocolError.mk.injEq]
      exact ⟨ProtocolErrorCode.toString_injective (hproper.2 _ rfl) (hproper'.2 _ rfl)
        (Json.str.inj hcode), Json.str.inj hmessage⟩

theorem HealthReport.toDocument_injective {h h' : HealthReport} (heq : h.toDocument = h'.toDocument) :
    h = h' := by
  obtain ⟨deviceId, firmwareVersion, intercomState, uptimeMs, wifiRssi, freeHeapBytes⟩ := h
  obtain ⟨deviceId', firmwareVersion', intercomState', uptimeMs', wifiRssi', freeHeapBytes'⟩ := h'
  simp only [toDocument, Json.obj.injEq, List.cons.injEq, Prod.mk.injEq, Json.str.injEq,
    Json.int.injEq, true_and, and_true, Int.natCast_inj, UInt64.toNat_inj, UInt32.toNat_inj,
    Int32.toInt_inj] at heq
  rw [HealthReport.mk.injEq]
  exact heq

theorem ShadowReportedState.toDocument_injective {s s' : ShadowReportedState}
    (heq : s.toDocument = s'.toDocument) : s = s' := by
  obtain ⟨firmwareVersion, hardwareVersion, intercomState, wifiRssi, uptimeMs, provisioned,
    healthIntervalSeconds⟩ := s
  obtain ⟨firmwareVersion', hardwareVersion', intercomState', wifiRssi', uptimeMs', provisioned',
    healthIntervalSeconds'⟩ := s'
  simp only [toDocument, Json.obj.injEq, List.cons.injEq, Prod.mk.injEq, Json.str.injEq,
    Json.int.injEq, Json.bool.injEq, true_and, and_true, Int.natCast_inj, UInt64.toNat_inj,
    UInt32.toNat_inj, Int32.toInt_inj] at heq
  rw [ShadowReportedState.mk.injEq]
  exact heq

namespace Outgoing

def kind : Outgoing → OutgoingKind
  | .event _ => .event
  | .response _ => .response
  | .health _ => .health
  | .shadow _ => .shadow

def toDocument : Outgoing → Json
  | .event e => e.toDocument
  | .response r => r.toDocument
  | .health h => h.toDocument
  | .shadow s => s.toDocument

def toJson [ArduinoJson] : Outgoing → Bytes
  | .event e => e.toJson
  | .response r => r.toJson
  | .health h => h.toJson
  | .shadow s => buildReportedUpdate s

theorem toJson_eq [ArduinoJson] (message : Outgoing) :
    message.toJson = serializeJson message.toDocument := by
  cases message with
  | _ => rfl

/-- The codes of a response are named ones, and a document can carry the uptime. -/
def Proper : Outgoing → Prop
  | .event _ => True
  | .response r =>
    r.status ∈ CommandStatus.listed ∧
      ∀ error, r.error = some error → error.code ∈ ProtocolErrorCode.listed
  | .health h => h.uptimeMs.toNat < 2 ^ 63
  | .shadow s => s.uptimeMs.toNat < 2 ^ 63

theorem ofDocument_toDocument (message : Outgoing) :
    OutgoingKind.ofDocument message.toDocument = message.kind := by
  cases message with
  | response r =>
    rw [toDocument, CommandResponse.toDocument]
    cases r.error with
    | _ => rfl
  | _ => rfl

theorem toDocument_injective {message message' : Outgoing} (h : message.Proper)
    (h' : message'.Proper) (heq : message.toDocument = message'.toDocument) :
    message = message' := by
  have hkind : message.kind = message'.kind := by
    rw [← ofDocument_toDocument, heq, ofDocument_toDocument]
  cases message with
  | event e =>
    cases message' with
    | event e' => exact congrArg event (DeviceEvent.toDocument_injective heq)
    | _ => cases hkind
  | response r =>
    cases message' with
    | response r' => exact congrArg response (CommandResponse.toDocument_injective h h' heq)
    | _ => cases hkind
  | health report =>
    cases message' with
    | health report' => exact congrArg health (HealthReport.toDocument_injective heq)
    | _ => cases hkind
  | shadow state =>
    cases message' with
    | shadow state' => exact congrArg shadow (ShadowReportedState.toDocument_injective heq)
    | _ => cases hkind

theorem storable_nat (h : n < 2 ^ 63) (depth : Nat) :
    Json.StorableWithin depth (.int (n : Nat)) := by
  have hrange : (-2 ^ 63 : Int) ≤ n ∧ (n : Int) < 2 ^ 63 := by omega
  cases depth with
  | _ => exact hrange

theorem storable_obj (keys : List Bytes) (hkeys : members.map Prod.fst = keys)
    (hdistinct : keys.Nodup) (hmembers : ∀ m ∈ members, Json.StorableWithin depth m.2) :
    Json.StorableWithin (depth + 1) (.obj members) :=
  ⟨hkeys ▸ hdistinct, hmembers⟩

theorem response_storable (r : CommandResponse) : r.toDocument.StorableWithin 10 := by
  rw [CommandResponse.toDocument]
  cases r.error with
  | none =>
    apply storable_obj [ascii "protocol_version", ascii "device_id", ascii "command_id",
      ascii "command", ascii "status"] rfl (by decide)
    simp only [List.append_nil, List.forall_mem_cons]
    exact ⟨Json.StorableWithin.int32 9 _, trivial, trivial, trivial, trivial,
      List.forall_mem_nil _⟩
  | some error =>
    have herror : Json.StorableWithin 9 (.obj [(ascii "code", .str error.code.toString),
        (ascii "message", .str error.message)]) :=
      storable_obj [ascii "code", ascii "message"] rfl (by decide)
        (List.forall_mem_cons.mpr ⟨trivial, List.forall_mem_singleton.mpr trivial⟩)
    apply storable_obj [ascii "protocol_version", ascii "device_id", ascii "command_id",
      ascii "command", ascii "status", ascii "error"] rfl (by decide)
    simp only [List.cons_append, List.nil_append, List.forall_mem_cons]
    exact ⟨Json.StorableWithin.int32 9 _, trivial, trivial, trivial, trivial, herror,
      List.forall_mem_nil _⟩

theorem health_storable {h : HealthReport} (huptime : h.uptimeMs.toNat < 2 ^ 63) :
    h.toDocument.StorableWithin 10 := by
  have hheap : h.freeHeapBytes.toNat < 2 ^ 63 := by
    have hlt := h.freeHeapBytes.toNat_lt
    omega
  apply storable_obj [ascii "protocol_version", ascii "device_id", ascii "firmware_version",
    ascii "intercom_state", ascii "uptime_ms", ascii "wifi_rssi", ascii "free_heap"] rfl (by decide)
  simp only [List.forall_mem_cons]
  exact ⟨Json.StorableWithin.int32 9 _, trivial, trivial, trivial, storable_nat huptime 9,
    Json.StorableWithin.int32 9 _, storable_nat hheap 9, List.forall_mem_nil _⟩

theorem shadow_storable {s : ShadowReportedState} (huptime : s.uptimeMs.toNat < 2 ^ 63) :
    s.toDocument.StorableWithin 10 := by
  have hinterval : s.healthIntervalSeconds.toNat < 2 ^ 63 := by
    have hlt := s.healthIntervalSeconds.toNat_lt
    omega
  apply storable_obj [ascii "state"] rfl (by decide)
  rw [List.forall_mem_singleton]
  apply storable_obj [ascii "reported"] rfl (by decide)
  rw [List.forall_mem_singleton]
  apply storable_obj [ascii "firmware_version", ascii "hardware_version", ascii "intercom_state",
    ascii "wifi_rssi", ascii "uptime_ms", ascii "provisioned", ascii "health_interval_s"] rfl
    (by decide)
  simp only [List.forall_mem_cons]
  exact ⟨trivial, trivial, trivial, Json.StorableWithin.int32 7 _, storable_nat huptime 7, trivial,
    storable_nat hinterval 7, List.forall_mem_nil _⟩

theorem toDocument_storable {message : Outgoing} (h : message.Proper) :
    message.toDocument.StorableWithin 10 := by
  cases message with
  | event e => exact e.toDocument_storable
  | response r => exact response_storable r
  | health report => exact health_storable h
  | shadow state => exact shadow_storable h

/-- No document of the device keeps to the fields of a command. -/
theorem foreign_key (message : Outgoing) : ∃ key ∈ message.toDocument.keys, key ∉ allowedFields := by
  cases message with
  | event e => exact ⟨ascii "event", .tail _ (.tail _ (.head _)), by decide⟩
  | response r =>
    exact ⟨ascii "status", .tail _ (.tail _ (.tail _ (.tail _ (.head _)))), by decide⟩
  | health report => exact ⟨ascii "firmware_version", .tail _ (.tail _ (.head _)), by decide⟩
  | shadow state => exact ⟨ascii "state", .head _, by decide⟩

theorem parseCommand_toJson [ArduinoJson] (hj : ArduinoJson.RoundTrips) {message : Outgoing}
    (h : message.Proper) (hexpected : expectedDeviceId ≠ []) :
    (parseCommand message.toJson expectedDeviceId).command = none := by
  obtain ⟨key, hkey, hforeign⟩ := message.foreign_key
  have hfields : (expectedDeviceId = [] || message.toDocument.keys.all (· ∈ allowedFields)) =
      false := by
    rw [decide_eq_false hexpected, Bool.false_or, List.all_eq_false]
    exact ⟨key, hkey, by rwa [decide_eq_true_iff]⟩
  have hread : deserializeJson message.toJson = some message.toDocument := by
    rw [toJson_eq]
    exact hj.storable _ (toDocument_storable h)
  have hparsed : parseDocument message.toDocument expectedDeviceId = .error .invalidPayload := by
    rw [parseDocument, hfields]
    rfl
  rw [parseCommand]
  split
  · rfl
  · rw [hread]
    dsimp only
    rw [hparsed]

end Outgoing

/-- Over all messages of the device: the document shows which kind it is, and everything that went
into it. -/
theorem outgoing_injective [ArduinoJson] (hj : ArduinoJson.RoundTrips) {message message' : Outgoing}
    (h : message.Proper) (h' : message'.Proper) (heq : message.toJson = message'.toJson) :
    message = message' := by
  apply Outgoing.toDocument_injective h h'
  rw [Outgoing.toJson_eq, Outgoing.toJson_eq] at heq
  have hread := congrArg deserializeJson heq
  rw [hj.storable _ (Outgoing.toDocument_storable h),
    hj.storable _ (Outgoing.toDocument_storable h')] at hread
  exact Option.some.inj hread

/-- A member left out and an empty text are the same message. -/
def quietRing : DeviceEvent :=
  { deviceId := ascii "ib-1", event := .ringDetected, eventId := ascii "e-1",
    callId := [], timestamp := [] }

theorem quietRing_injective :
    Outgoing.event { quietRing with callId := ascii "" } =
      .event { quietRing with timestamp := (ascii "z").tail } :=
  @outgoing_injective compactJson compactJson_roundTrips _ _ trivial trivial rfl

end InterBridge
