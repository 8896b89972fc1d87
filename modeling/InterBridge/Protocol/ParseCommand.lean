import InterBridge.Foundations.BoundedFifo
import InterBridge.Protocol.Messages

namespace InterBridge
open Foundations
set_option autoImplicit true

inductive CommandParseStatus where
  | ok | payloadTooLarge | invalidPayload | unsupportedProtocolVersion
  deriving DecidableEq

/-- The command is there exactly when the status is `ok`. -/
structure CommandParseResult where
  status : CommandParseStatus
  command : Option DeviceCommand
  deriving DecidableEq

def allowedFields : List Bytes :=
  [ascii "protocol_version", ascii "device_id", ascii "command_id", ascii "command",
    ascii "parameters", ascii "issued_at", ascii "expires_at"]

def forbiddenFields : List Bytes :=
  [ascii "dtmf", ascii "key", ascii "gpio", ascii "mode", ascii "relay", ascii "pulse",
    ascii "pulse_duration"]

/-- An early return of `parseCommand`: go on only if the condition holds. -/
def require (condition : Bool) (status : CommandParseStatus) : Except CommandParseStatus Unit :=
  if condition then .ok () else .error status

def orInvalid : Option α → Except CommandParseStatus α
  | some a => .ok a
  | none => .error .invalidPayload

/-- The checks made only when a device id is expected, after the command string. -/
def parseRemoteFields (doc : Json) (expectedDeviceId : Bytes) :
    Except CommandParseStatus Bytes :=
  if expectedDeviceId = [] then .ok []
  else do
    let deviceId ← orInvalid (doc.get (ascii "device_id")).asString?
    require (deviceId = expectedDeviceId) .invalidPayload
    require (doc.get (ascii "parameters")).isObject .invalidPayload
    require ((doc.get (ascii "parameters")).keys.length = 0) .invalidPayload
    require ((doc.get (ascii "issued_at")).asInt64?.isSome &&
      (doc.get (ascii "expires_at")).asInt64?.isSome) .invalidPayload
    .ok deviceId

def buildCommand [ArduinoJson] (doc : Json) (rawCommand commandId deviceId : Bytes) :
    DeviceCommand where
  type := commandTypeFromString rawCommand
  rawCommand := rawCommand
  commandId := commandId
  deviceId := deviceId
  rawPayload :=
    if (doc.get (ascii "payload")).isObject then serializeJson (doc.get (ascii "payload")) else []
  issuedAtUnixSeconds := (doc.get (ascii "issued_at")).asInt64?.getD 0
  hasIssuedAt := (doc.get (ascii "issued_at")).asInt64?.isSome
  expiresAtUnixSeconds := (doc.get (ascii "expires_at")).asInt64?.getD 0
  hasExpiresAt := (doc.get (ascii "expires_at")).asInt64?.isSome

def parseDocument [ArduinoJson] (doc : Json) (expectedDeviceId : Bytes) :
    Except CommandParseStatus DeviceCommand := do
  require (expectedDeviceId = [] || doc.keys.all (· ∈ allowedFields)) .invalidPayload
  require (forbiddenFields.all fun field => !doc.containsKey field) .invalidPayload
  let version ← orInvalid (doc.get (ascii "protocol_version")).asInt32?
  require (version = kProtocolVersion) .unsupportedProtocolVersion
  let commandId ← orInvalid (doc.get (ascii "command_id")).asString?
  require (isValidCommandId commandId) .invalidPayload
  let rawCommand ← orInvalid (doc.get (ascii "command")).asString?
  require (rawCommand ≠ []) .invalidPayload
  let deviceId ← parseRemoteFields doc expectedDeviceId
  .ok (buildCommand doc rawCommand commandId deviceId)

def parseCommand [ArduinoJson] (json expectedDeviceId : Bytes) : CommandParseResult :=
  if kMaxJsonPayloadBytes < json.length then ⟨.payloadTooLarge, none⟩
  else
    match deserializeJson json with
    | none => ⟨.invalidPayload, none⟩
    | some doc =>
      match parseDocument doc expectedDeviceId with
      | .ok command => ⟨.ok, some command⟩
      | .error status => ⟨status, none⟩

@[simp] theorem require_bind_ok {k : Unit → Except CommandParseStatus α} :
    (require c s >>= k) = .ok a ↔ c = true ∧ k () = .ok a := by
  cases c <;> simp [require, bind, Except.bind]

@[simp] theorem require_bind_error {k : Unit → Except CommandParseStatus α} :
    (require c s >>= k) = .error e ↔ (c = false ∧ e = s) ∨ (c = true ∧ k () = .error e) := by
  cases c <;> simp [require, bind, Except.bind, eq_comm]

@[simp] theorem orInvalid_bind_ok {k : β → Except CommandParseStatus α} :
    (orInvalid o >>= k) = .ok a ↔ ∃ b, o = some b ∧ k b = .ok a := by
  cases o <;> simp [orInvalid, bind, Except.bind]

@[simp] theorem orInvalid_bind_error {k : β → Except CommandParseStatus α} :
    (orInvalid o >>= k) = .error e ↔
      (o = none ∧ e = .invalidPayload) ∨ ∃ b, o = some b ∧ k b = .error e := by
  cases o <;> simp [orInvalid, bind, Except.bind, eq_comm]

theorem asString?_eq_some {v : Json} : v.asString? = some s ↔ v = .str s := by
  cases v <;> simp [Json.asString?]

/-- A JSON object with no member outside the command format. -/
def OnlyAllowedFields (doc : Json) : Prop :=
  doc.isObject = true ∧ ∀ key ∈ doc.keys, key ∈ allowedFields

theorem get_of_not_isObject {doc : Json} (h : doc.isObject = false) (key : Bytes) :
    doc.get key = .null := by
  cases doc with
  | obj members => cases h
  | _ => rfl

theorem not_containsKey_of_keys {doc : Json} (h : key ∉ doc.keys) :
    doc.containsKey key = false := by
  cases doc with
  | obj members =>
    rw [Json.containsKey, lookup_eq_none_iff_notMem.mpr h]
    rfl
  | _ => rfl

theorem forbidden_notMem_allowed : ∀ field ∈ forbiddenFields, field ∉ allowedFields := by
  decide

theorem no_forbidden_of_allowed {doc : Json} (h : ∀ key ∈ doc.keys, key ∈ allowedFields) :
    (forbiddenFields.all fun field => !doc.containsKey field) = true := by
  rw [List.all_eq_true]
  intro field hf
  have hk : field ∉ doc.keys := fun hk => forbidden_notMem_allowed field hf (h field hk)
  rw [not_containsKey_of_keys hk]
  rfl

theorem get_of_notMem_keys {doc : Json} (h : key ∉ doc.keys) : doc.get key = .null := by
  cases doc with
  | obj members =>
    rw [Json.get, lookup_eq_none_iff_notMem.mpr h]
    rfl
  | _ => rfl

theorem emptyObject_iff {v : Json} : v.isObject = true ∧ v.keys.length = 0 ↔ v = .obj [] := by
  cases v <;> simp [Json.isObject, Json.keys]

/-- The device command format, relating a document to the command it describes. -/
structure CommandFormat (doc : Json) (expectedDeviceId : Bytes) (command : DeviceCommand) :
    Prop where
  fields : OnlyAllowedFields doc
  version : doc.get (ascii "protocol_version") = .int kProtocolVersion.toInt
  commandId : doc.get (ascii "command_id") = .str command.commandId
  commandId_length : command.commandId.length = 32
  commandId_hex : ∀ c ∈ command.commandId, (48 ≤ c ∧ c ≤ 57) ∨ (97 ≤ c ∧ c ≤ 102)
  rawCommand : doc.get (ascii "command") = .str command.rawCommand
  rawCommand_ne_nil : command.rawCommand ≠ []
  deviceId : doc.get (ascii "device_id") = .str expectedDeviceId
  parameters : doc.get (ascii "parameters") = .obj []
  issuedAt : doc.get (ascii "issued_at") = .int command.issuedAtUnixSeconds.toInt
  expiresAt : doc.get (ascii "expires_at") = .int command.expiresAtUnixSeconds.toInt

/-- What an accepted command holds besides the values the format ties to the document. -/
structure CarriedVerbatim (expectedDeviceId : Bytes) (command : DeviceCommand) : Prop where
  type : command.type = commandTypeFromString command.rawCommand
  deviceId : command.deviceId = expectedDeviceId
  rawPayload : command.rawPayload = []
  hasIssuedAt : command.hasIssuedAt = true
  hasExpiresAt : command.hasExpiresAt = true

/-- An otherwise allowed object whose `protocol_version` is another `int`. -/
def ForeignVersion (doc : Json) : Prop :=
  OnlyAllowedFields doc ∧ ∃ version : Int32,
    doc.get (ascii "protocol_version") = .int version.toInt ∧ version ≠ kProtocolVersion

theorem asInt32?_eq_some {v : Json} {n : Int32} : v.asInt32? = some n ↔ v = .int n.toInt := by
  cases v with
  | int m =>
    simp only [Json.asInt32?, Option.ite_none_right_eq_some, Option.some.injEq, Json.int.injEq]
    constructor
    · intro h
      obtain ⟨⟨hl, hu⟩, he⟩ := h
      rw [← he]
      exact (Int32.toInt_ofInt_of_le hl hu).symm
    · intro h
      rw [h]
      exact ⟨⟨n.le_toInt, n.toInt_lt⟩, n.ofInt_toInt⟩
  | _ => simp [Json.asInt32?]

theorem isValidCommandId_iff : isValidCommandId commandId = true ↔
    commandId.length = 32 ∧ ∀ c ∈ commandId, (48 ≤ c ∧ c ≤ 57) ∨ (97 ≤ c ∧ c ≤ 102) := by
  simp only [isValidCommandId, isLowercaseHex, Bool.and_eq_true, decide_eq_true_eq,
    List.all_eq_true, Bool.or_eq_true]

theorem keys_all_allowed {doc : Json} :
    (doc.keys.all (· ∈ allowedFields)) = true ↔ ∀ key ∈ doc.keys, key ∈ allowedFields := by
  simp only [List.all_eq_true, decide_eq_true_eq]

theorem isObject_of_get {doc : Json} (h : doc.get key = v) (hv : v ≠ .null) :
    doc.isObject = true := by
  cases hd : doc.isObject with
  | true => rfl
  | false => exact absurd ((get_of_not_isObject hd key).symm.trans h) (Ne.symm hv)

theorem parseRemoteFields_ok {doc : Json} (he : expectedDeviceId ≠ []) :
    parseRemoteFields doc expectedDeviceId = .ok deviceId ↔
      deviceId = expectedDeviceId ∧ doc.get (ascii "device_id") = .str expectedDeviceId ∧
      doc.get (ascii "parameters") = .obj [] ∧
      (∃ n, (doc.get (ascii "issued_at")).asInt64? = some n) ∧
      ∃ n, (doc.get (ascii "expires_at")).asInt64? = some n := by
  simp only [parseRemoteFields, if_neg he, orInvalid_bind_ok, require_bind_ok, decide_eq_true_eq,
    asString?_eq_some, Bool.and_eq_true, Option.isSome_iff_exists, Except.ok.injEq]
  constructor
  · intro hall
    obtain ⟨id, hid, hdev, hobj, hlen, htimes, hret⟩ := hall
    subst hdev
    exact ⟨hret.symm, hid, emptyObject_iff.mp ⟨hobj, hlen⟩, htimes⟩
  · intro hall
    obtain ⟨hdev, hid, hp, htimes⟩ := hall
    obtain ⟨hobj, hlen⟩ := emptyObject_iff.mpr hp
    exact ⟨expectedDeviceId, hid, rfl, hobj, hlen, htimes, hdev.symm⟩

theorem parseRemoteFields_error {doc : Json} (he : expectedDeviceId ≠ [])
    (h : parseRemoteFields doc expectedDeviceId = .error status) : status = .invalidPayload := by
  simp only [parseRemoteFields, if_neg he, orInvalid_bind_error, require_bind_error] at h
  rcases h with ⟨_, h⟩ | ⟨_, _, ⟨_, h⟩ | ⟨_, ⟨_, h⟩ | ⟨_, ⟨_, h⟩ | ⟨_, ⟨_, h⟩ | ⟨_, h⟩⟩⟩⟩⟩
  · exact h
  · exact h
  · exact h
  · exact h
  · exact h
  · cases h

variable [ArduinoJson]

theorem buildCommand_carried {doc : Json} (hf : OnlyAllowedFields doc)
    (hi : (doc.get (ascii "issued_at")).asInt64? = some issuedAt)
    (hx : (doc.get (ascii "expires_at")).asInt64? = some expiresAt) :
    CarriedVerbatim deviceId (buildCommand doc rawCommand commandId deviceId) where
  type := rfl
  deviceId := rfl
  rawPayload := by
    have hk : ascii "payload" ∉ doc.keys := by
      intro hk
      exact absurd (hf.2 _ hk) (by decide)
    simp only [buildCommand, get_of_notMem_keys hk, Json.isObject, Bool.false_eq_true, ↓reduceIte]
  hasIssuedAt := by rw [buildCommand, hi, Option.isSome_some]
  hasExpiresAt := by rw [buildCommand, hx, Option.isSome_some]

/-- Parsing a document succeeds exactly on the device command format. -/
theorem parseDocument_ok {doc : Json} (he : expectedDeviceId ≠ []) :
    parseDocument doc expectedDeviceId = .ok command ↔
      CommandFormat doc expectedDeviceId command ∧ CarriedVerbatim expectedDeviceId command := by
  simp only [parseDocument, require_bind_ok, orInvalid_bind_ok, decide_eq_false he, Bool.false_or,
    keys_all_allowed, decide_eq_true_eq, asString?_eq_some, asInt32?_eq_some]
  constructor
  · intro hall
    obtain ⟨hkeys, _, version, hv, hver, commandId, hid, hvalid, rawCommand, hraw, hne, hrest⟩ :=
      hall
    subst hver
    cases hrem : parseRemoteFields doc expectedDeviceId with
    | error status =>
      rw [hrem] at hrest
      cases hrest
    | ok deviceId =>
      rw [hrem] at hrest
      cases hrest
      obtain ⟨rfl, hdev, hpar, ⟨issuedAt, hi⟩, ⟨expiresAt, hx⟩⟩ := (parseRemoteFields_ok he).mp hrem
      have hf : OnlyAllowedFields doc := ⟨isObject_of_get hv nofun, hkeys⟩
      obtain ⟨hlen, hhex⟩ := isValidCommandId_iff.mp hvalid
      refine ⟨⟨hf, hv, hid, hlen, hhex, hraw, hne, hdev, hpar, ?_, ?_⟩,
        buildCommand_carried hf hi hx⟩
      · rw [buildCommand, hi]
        exact Json.asInt64?_eq_some.mp hi
      · rw [buildCommand, hx]
        exact Json.asInt64?_eq_some.mp hx
  · intro hall
    obtain ⟨hc, hcar⟩ := hall
    have hi := Json.asInt64?_eq_some.mpr hc.issuedAt
    have hx := Json.asInt64?_eq_some.mpr hc.expiresAt
    have hrem := (parseRemoteFields_ok he).mpr ⟨rfl, hc.deviceId, hc.parameters, ⟨_, hi⟩, ⟨_, hx⟩⟩
    refine ⟨hc.fields.2, no_forbidden_of_allowed hc.fields.2, _, hc.version, rfl, _, hc.commandId,
      isValidCommandId_iff.mpr ⟨hc.commandId_length, hc.commandId_hex⟩, _, hc.rawCommand,
      hc.rawCommand_ne_nil, ?_⟩
    have hb : CarriedVerbatim expectedDeviceId
        (buildCommand doc command.rawCommand command.commandId expectedDeviceId) :=
      buildCommand_carried hc.fields hi hx
    rw [hrem]
    apply congrArg Except.ok
    apply DeviceCommand.ext
    · exact hcar.type.symm
    · rfl
    · rfl
    · exact hcar.deviceId.symm
    · exact hb.rawPayload.trans hcar.rawPayload.symm
    · simp only [buildCommand, hi, Option.getD_some]
    · exact hb.hasIssuedAt.trans hcar.hasIssuedAt.symm
    · simp only [buildCommand, hx, Option.getD_some]
    · exact hb.hasExpiresAt.trans hcar.hasExpiresAt.symm

theorem parseDocument_foreignVersion {doc : Json} (he : expectedDeviceId ≠ []) :
    parseDocument doc expectedDeviceId = .error .unsupportedProtocolVersion ↔
      ForeignVersion doc := by
  simp only [parseDocument, require_bind_error, orInvalid_bind_error, decide_eq_false he,
    Bool.false_or, keys_all_allowed, asInt32?_eq_some, reduceCtorEq, and_false, false_or,
    and_true, decide_eq_false_iff_not]
  constructor
  · intro hall
    obtain ⟨hkeys, _, version, hv, hrest⟩ := hall
    rcases hrest with hne | ⟨_, hrest⟩
    · exact ⟨⟨isObject_of_get hv nofun, hkeys⟩, version, hv, hne⟩
    · obtain ⟨_, _, _, _, _, _, hrest⟩ := hrest
      cases hrem : parseRemoteFields doc expectedDeviceId with
      | error status =>
        rw [parseRemoteFields_error he hrem] at hrem
        rw [hrem] at hrest
        cases hrest
      | ok deviceId =>
        rw [hrem] at hrest
        cases hrest
  · intro hall
    obtain ⟨hf, version, hv, hne⟩ := hall
    exact ⟨hf.2, no_forbidden_of_allowed hf.2, version, hv, .inl hne⟩

theorem parseDocument_error {doc : Json} (he : expectedDeviceId ≠ [])
    (h : parseDocument doc expectedDeviceId = .error status) :
    status = .unsupportedProtocolVersion ∨ status = .invalidPayload := by
  simp only [parseDocument, require_bind_error, orInvalid_bind_error] at h
  rcases h with ⟨_, h⟩ | ⟨_, ⟨_, h⟩ | ⟨_, ⟨_, h⟩ | ⟨_, _, ⟨_, h⟩ | ⟨_, ⟨_, h⟩ | ⟨_, _, ⟨_, h⟩ |
    ⟨_, ⟨_, h⟩ | ⟨_, _, ⟨_, h⟩ | ⟨_, h⟩⟩⟩⟩⟩⟩⟩⟩
  · exact .inr h
  · exact .inr h
  · exact .inr h
  · exact .inl h
  · exact .inr h
  · exact .inr h
  · exact .inr h
  · exact .inr h
  · cases hrem : parseRemoteFields doc expectedDeviceId with
    | error status' =>
      rw [hrem] at h
      cases h
      exact .inr (parseRemoteFields_error he hrem)
    | ok deviceId =>
      rw [hrem] at h
      cases h

theorem parseDocument_of_format {doc : Json} (he : expectedDeviceId ≠ [])
    (h : CommandFormat doc expectedDeviceId command) :
    ∃ command, parseDocument doc expectedDeviceId = .ok command := by
  let carried : DeviceCommand :=
    { command with
      type := commandTypeFromString command.rawCommand, deviceId := expectedDeviceId
      rawPayload := [], hasIssuedAt := true, hasExpiresAt := true }
  exact ⟨carried, (parseDocument_ok he).mpr ⟨{ h with }, ⟨rfl, rfl, rfl, rfl, rfl⟩⟩⟩

/-- The payload decodes to a document with the given property. -/
def DecodesTo (json : Bytes) (P : Json → Prop) : Prop :=
  ∃ doc, deserializeJson json = some doc ∧ P doc

theorem parseCommand_undecoded (h : json.length ≤ kMaxJsonPayloadBytes)
    (hd : deserializeJson json = none) :
    parseCommand json expectedDeviceId = ⟨.invalidPayload, none⟩ := by
  rw [parseCommand, if_neg (Nat.not_lt_of_le h), hd]

theorem parseCommand_parsed (h : json.length ≤ kMaxJsonPayloadBytes)
    (hd : deserializeJson json = some doc)
    (hp : parseDocument doc expectedDeviceId = .ok command) :
    parseCommand json expectedDeviceId = ⟨.ok, some command⟩ := by
  simp only [parseCommand, if_neg (Nat.not_lt_of_le h), hd, hp]

theorem parseCommand_refused (h : json.length ≤ kMaxJsonPayloadBytes)
    (hd : deserializeJson json = some doc)
    (hp : parseDocument doc expectedDeviceId = .error status) :
    parseCommand json expectedDeviceId = ⟨status, none⟩ := by
  simp only [parseCommand, if_neg (Nat.not_lt_of_le h), hd, hp]

theorem parseCommand_status_of_le (h : json.length ≤ kMaxJsonPayloadBytes)
    (he : expectedDeviceId ≠ []) :
    ((parseCommand json expectedDeviceId).status = .unsupportedProtocolVersion ↔
      DecodesTo json ForeignVersion) ∧
    ((parseCommand json expectedDeviceId).status = .ok ↔
      DecodesTo json fun doc => ∃ command, CommandFormat doc expectedDeviceId command) ∧
    (parseCommand json expectedDeviceId).status ≠ .payloadTooLarge := by
  cases hd : deserializeJson json with
  | none =>
    have hn (P : Json → Prop) : ¬ DecodesTo json P := by
      intro hall
      obtain ⟨doc, hdoc, _⟩ := hall
      rw [hd] at hdoc
      cases hdoc
    simp [parseCommand_undecoded h hd, hn]
  | some doc =>
    have hdec (P : Json → Prop) : DecodesTo json P ↔ P doc := by
      constructor
      · intro hall
        obtain ⟨doc', hdoc, hP⟩ := hall
        rw [hd] at hdoc
        cases hdoc
        exact hP
      · exact fun hP => ⟨doc, hd, hP⟩
    rw [hdec, hdec, ← parseDocument_foreignVersion he]
    cases hp : parseDocument doc expectedDeviceId with
    | ok command =>
      have hf := ((parseDocument_ok he).mp hp).1
      rw [parseCommand_parsed h hd hp]
      exact ⟨by simp, iff_of_true rfl ⟨command, hf⟩, by simp⟩
    | error status =>
      have hno : ¬ ∃ command, CommandFormat doc expectedDeviceId command := by
        intro hall
        obtain ⟨command, hf⟩ := hall
        obtain ⟨command', hok⟩ := parseDocument_of_format he hf
        rw [hp] at hok
        cases hok
      rw [parseCommand_refused h hd hp]
      rcases parseDocument_error he hp with hs | hs <;> simp [hs, hno]

theorem parseCommand_command (h : (parseCommand json expectedDeviceId).status = .ok)
    (he : expectedDeviceId ≠ []) :
    ∃ doc command, deserializeJson json = some doc ∧
      (parseCommand json expectedDeviceId).command = some command ∧
      CommandFormat doc expectedDeviceId command ∧ CarriedVerbatim expectedDeviceId command := by
  by_cases hlen : kMaxJsonPayloadBytes < json.length
  · rw [parseCommand, if_pos hlen] at h
    cases h
  · have hle := Nat.le_of_not_lt hlen
    obtain ⟨doc, hd, hf⟩ := (parseCommand_status_of_le hle he).2.1.mp h
    obtain ⟨_, hf⟩ := hf
    obtain ⟨command, hp⟩ := parseDocument_of_format he hf
    exact ⟨doc, command, hd, by rw [parseCommand_parsed hle hd hp], (parseDocument_ok he).mp hp⟩

/-- The status of every payload is decided by its size, its decoding and the command format, and
an accepted command carries the document's values. -/
theorem parseCommand_accepts_exactly_command_format (json expectedDeviceId : Bytes)
    (he : expectedDeviceId ≠ []) :
    ((parseCommand json expectedDeviceId).status = .payloadTooLarge ↔
      kMaxJsonPayloadBytes < json.length) ∧
    (json.length ≤ kMaxJsonPayloadBytes →
      ((parseCommand json expectedDeviceId).status = .unsupportedProtocolVersion ↔
        DecodesTo json ForeignVersion) ∧
      ((parseCommand json expectedDeviceId).status = .ok ↔
        DecodesTo json fun doc => ∃ command, CommandFormat doc expectedDeviceId command) ∧
      ((parseCommand json expectedDeviceId).status = .invalidPayload ↔
        ¬ DecodesTo json ForeignVersion ∧
        ¬ DecodesTo json fun doc => ∃ command, CommandFormat doc expectedDeviceId command)) ∧
    ((parseCommand json expectedDeviceId).status = .ok →
      ∃ doc command, deserializeJson json = some doc ∧
        (parseCommand json expectedDeviceId).command = some command ∧
        CommandFormat doc expectedDeviceId command ∧
        CarriedVerbatim expectedDeviceId command) := by
  refine ⟨?_, fun hle => ?_, fun hok => parseCommand_command hok he⟩
  · constructor
    · intro ht
      apply Nat.lt_of_not_le
      intro hle
      exact (parseCommand_status_of_le hle he).2.2 ht
    · intro hlt
      rw [parseCommand, if_pos hlt]
  · obtain ⟨hforeign, hok, hlarge⟩ := parseCommand_status_of_le hle he
    refine ⟨hforeign, hok, ?_⟩
    rw [← hforeign, ← hok]
    cases hs : (parseCommand json expectedDeviceId).status with
    | payloadTooLarge => exact absurd hs hlarge
    | _ => simp

omit [ArduinoJson] in
/-- An `OPEN_DOOR` payload in the documented format is accepted. -/
theorem parseCommand_accepts_open_door :
    (@parseCommand compactJson
      (JsonText.print (.obj [(ascii "protocol_version", .int 1),
        (ascii "device_id", .str (ascii "ib-1")),
        (ascii "command_id", .str (List.replicate 32 97)),
        (ascii "command", .str (ascii "OPEN_DOOR")),
        (ascii "parameters", .obj []), (ascii "issued_at", .int 1000),
        (ascii "expires_at", .int 1030)]))
      (ascii "ib-1")).status = .ok := by
  have hstorable : Json.StorableWithin 2 (.obj [(ascii "protocol_version", .int 1),
      (ascii "device_id", .str (ascii "ib-1")), (ascii "command_id", .str (List.replicate 32 97)),
      (ascii "command", .str (ascii "OPEN_DOOR")), (ascii "parameters", .obj []),
      (ascii "issued_at", .int 1000), (ascii "expires_at", .int 1030)]) :=
    ⟨by decide +kernel, by simp [Json.StorableWithin]⟩
  apply ((@parseCommand_accepts_exactly_command_format compactJson _ (ascii "ib-1")
    (by decide)).2.1 (by decide +kernel)).2.1.mpr
  exact ⟨_, JsonText.parse_print hstorable,
    ⟨.openDoor, ascii "OPEN_DOOR", List.replicate 32 97, ascii "ib-1", [], 1000, true, 1030, true⟩,
    ⟨⟨rfl, by decide⟩, rfl, rfl, rfl, by decide +kernel, rfl, by decide, rfl, rfl, rfl, rfl⟩⟩

end InterBridge
