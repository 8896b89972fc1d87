import InterBridge.Protocol.ResponseDelivery

namespace InterBridge
open Foundations
set_option autoImplicit true

/-- The command format but for its timestamps: it says who asks for what. -/
structure Attributable (doc : Json) (deviceId commandId rawCommand : Bytes) : Prop where
  fields : OnlyAllowedFields doc
  version : doc.get (ascii "protocol_version") = .int kProtocolVersion.toInt
  device : doc.get (ascii "device_id") = .str deviceId
  id : doc.get (ascii "command_id") = .str commandId
  id_length : commandId.length = 32
  id_hex : ∀ c ∈ commandId, (48 ≤ c ∧ c ≤ 57) ∨ (97 ≤ c ∧ c ≤ 102)
  command : doc.get (ascii "command") = .str rawCommand
  command_ne_nil : rawCommand ≠ []
  parameters : doc.get (ascii "parameters") = .obj []

/-- Both timestamps are integers in the range of `int64_t`. -/
def IntegerTimestamps (doc : Json) : Prop :=
  (∃ issuedAt : Int64, doc.get (ascii "issued_at") = .int issuedAt.toInt) ∧
    ∃ expiresAt : Int64, doc.get (ascii "expires_at") = .int expiresAt.toInt

namespace RemoteCommandProcessor

/-- From `p` to `q` a command was answered once: its terminal response, behind an `ACCEPTED` if it
has one, was published or queued, and malformed timestamps were rejected as such. -/
structure AnsweredBy [ArduinoJson] [IDedupCache δ] (clock : ClockAnswers) (doc : Json)
    (commandId rawCommand : Bytes) (p q : RemoteCommandProcessor τ δ)
    (responses : CommandResponses) : Prop where
  sent : q.publishedMessages ++ q.outboxMessages =
    p.publishedMessages ++ p.outboxMessages ++ responses.messages p.topics
  terminal : responses.terminal.commandId = commandId
  accepted : ∀ response, responses.accepted = some response →
    response.commandId = commandId ∧ response.status = .accepted
  invalidTimestamp : commandTypeFromString rawCommand = .openDoor →
    IDedupCache.find p.handler.dedupCache commandId = none → clock.hasValidTime 0 = true →
    ¬ IntegerTimestamps doc → responses.terminal.status = .rejected ∧
      responses.terminal.error.map ProtocolError.code = some .invalidTimestamp

end RemoteCommandProcessor

theorem isSome_asInt64? {v : Json} :
    v.asInt64?.isSome = true ↔ ∃ n : Int64, v = .int n.toInt := by
  simp only [Option.isSome_iff_exists, Json.asInt64?_eq_some]

theorem integerTimestamps_iff : IntegerTimestamps doc ↔
    ((doc.get (ascii "issued_at")).asInt64?.isSome &&
      (doc.get (ascii "expires_at")).asInt64?.isSome) = true := by
  rw [Bool.and_eq_true, isSome_asInt64?, isSome_asInt64?]
  rfl

instance : Decidable (IntegerTimestamps doc) := decidable_of_iff _ integerTimestamps_iff.symm

theorem require_true (status : CommandParseStatus) : require true status = .ok () := rfl

theorem orInvalid_some (a : α) : orInvalid (some a) = .ok a := rfl

theorem ok_bind (a : α) (k : α → Except CommandParseStatus β) : (Except.ok a >>= k) = k a := rfl

namespace Attributable

theorem parseDocument_eq [ArduinoJson] (h : Attributable doc deviceId commandId rawCommand) :
    parseDocument doc deviceId = parseRemoteFields doc deviceId >>= fun deviceId =>
      .ok (buildCommand doc rawCommand commandId deviceId) := by
  have hversion := asInt32?_eq_some.mpr h.version
  have hid := asString?_eq_some.mpr h.id
  have hcommand := asString?_eq_some.mpr h.command
  have hvalid := isValidCommandId_iff.mpr ⟨h.id_length, h.id_hex⟩
  have hkeys := keys_all_allowed.mpr h.fields.2
  rw [parseDocument, hkeys, no_forbidden_of_allowed h.fields.2, hversion, hid, hcommand,
    Bool.or_true]
  simp only [require_true, orInvalid_some, ok_bind, hvalid, h.command_ne_nil, ne_eq,
    not_false_eq_true, decide_true]

theorem parseRemoteFields_eq (h : Attributable doc deviceId commandId rawCommand) :
    parseRemoteFields doc deviceId =
      if deviceId = [] ∨ IntegerTimestamps doc then .ok deviceId else .error .invalidPayload := by
  have hdevice := asString?_eq_some.mpr h.device
  rw [parseRemoteFields]
  by_cases he : deviceId = []
  · rw [if_pos he, if_pos (.inl he), he]
  · rw [if_neg he, hdevice, h.parameters]
    by_cases htimes : IntegerTimestamps doc
    · rw [if_pos (.inr htimes), integerTimestamps_iff.mp htimes]
      simp only [require_true, orInvalid_some, ok_bind, decide_true]
      rfl
    · have hmalformed := Bool.eq_false_of_not_eq_true (mt integerTimestamps_iff.mpr htimes)
      rw [if_neg fun hor => hor.elim he htimes, hmalformed]
      simp only [require_true, orInvalid_some, ok_bind, decide_true]
      rfl

theorem parseCommand_eq [ArduinoJson] (h : Attributable doc deviceId commandId rawCommand)
    (hsize : payload.length ≤ kMaxJsonPayloadBytes) (hd : deserializeJson payload = some doc) :
    (parseCommand payload deviceId).command =
      if deviceId = [] ∨ IntegerTimestamps doc then
        some (buildCommand doc rawCommand commandId deviceId)
      else none := by
  have hdocument := h.parseDocument_eq
  rw [h.parseRemoteFields_eq] at hdocument
  by_cases hok : deviceId = [] ∨ IntegerTimestamps doc
  · rw [if_pos hok, ok_bind] at hdocument
    rw [if_pos hok, parseCommand_parsed hsize hd hdocument]
  · rw [if_neg hok] at hdocument
    rw [if_neg hok, parseCommand_refused hsize hd hdocument]

end Attributable

theorem buildCommand_timestamps [ArduinoJson] (h : ¬ IntegerTimestamps doc) :
    (!(buildCommand doc rawCommand commandId deviceId).hasIssuedAt ||
      !(buildCommand doc rawCommand commandId deviceId).hasExpiresAt) = true := by
  rw [← Bool.not_and, Bool.not_eq_true']
  exact Bool.eq_false_of_not_eq_true (mt integerTimestamps_iff.mpr h)

/-- Whether a command is cached or not, its responses carry its id, and the first is `ACCEPTED`. -/
theorem handle_ids [IDedupCache δ] (deviceId : Bytes) (cache : δ) (clock : ClockAnswers)
    (command : DeviceCommand) :
    (handle deviceId cache clock command).1.terminal.commandId = command.commandId ∧
      ∀ response, (handle deviceId cache clock command).1.accepted = some response →
        response.commandId = command.commandId ∧ response.status = .accepted := by
  cases hf : IDedupCache.find cache command.commandId with
  | some entry =>
    rw [handle_cached hf]
    refine ⟨rfl, ?_⟩
    intro response hresponse
    cases hresponse
  | none =>
    rw [handle_uncached hf, firstResponses_terminal]
    refine ⟨rfl, ?_⟩
    intro response hresponse
    rw [firstResponses] at hresponse
    cases hrefusal : refusal clock command with
    | some code =>
      rw [hrefusal] at hresponse
      cases hresponse
    | none =>
      rw [hrefusal] at hresponse
      cases hresponse
      exact ⟨rfl, rfl⟩

theorem handle_invalidTimestamp [IDedupCache δ] {cache : δ} {command : DeviceCommand}
    (hf : IDedupCache.find cache command.commandId = none) (htype : command.type = .openDoor)
    (hclock : clock.hasValidTime 0 = true)
    (htimes : (!command.hasIssuedAt || !command.hasExpiresAt) = true) :
    (handle deviceId cache clock command).1.terminal.status = .rejected ∧
      (handle deviceId cache clock command).1.terminal.error.map ProtocolError.code =
        some .invalidTimestamp := by
  have hrefusal : refusal clock command = some .invalidTimestamp := by
    rw [refusal, htype]
    dsimp only
    rw [checkTimeSafety_eq, hclock, Bool.not_true, if_neg Bool.false_ne_true, if_pos htimes]
  rw [handle_uncached hf, firstResponses_terminal, hrefusal]
  exact ⟨rfl, rfl⟩

namespace RemoteCommandProcessor

variable [ArduinoJson] [IDeviceTransport τ] [IDedupCache δ]

theorem processPayload_answered (clock : ClockAnswers) {p : RemoteCommandProcessor τ δ}
    (hempty : p.outbox = [])
    (hparsed : (parseCommand payload p.deviceId).command =
      some (buildCommand doc rawCommand commandId p.deviceId)) :
    AnsweredBy clock doc commandId rawCommand p (p.processPayload clock payload).1
      (handle p.handler.deviceId p.handler.dedupCache clock
        (buildCommand doc rawCommand commandId p.deviceId)).1 := by
  let command := buildCommand doc rawCommand commandId p.deviceId
  let handled := { p with
    commandSeq := p.commandSeq + 1
    handler := { p.handler with
      dedupCache := (handle p.handler.deviceId p.handler.dedupCache clock command).2 } }
  let noted := handled.note
    (.handled command (handle p.handler.deviceId p.handler.dedupCache clock command).1)
  have hanswers : Answers
      ((handle p.handler.deviceId p.handler.dedupCache clock command).1.messages p.topics) noted
      (p.processPayload clock payload).1 := by
    rw [processPayload, hparsed]
    exact Answers.respond noted _ _ hempty
  have hpublished : noted.publishedMessages = p.publishedMessages :=
    (note_publishedMessages handled _).trans (List.append_nil _)
  obtain ⟨hterminal, haccepted⟩ :=
    handle_ids p.handler.deviceId p.handler.dedupCache clock command
  constructor
  · rw [hanswers.responses, hpublished]
    rfl
  · exact hterminal
  · exact haccepted
  · intro htype hf hclock htimes
    exact handle_invalidTimestamp hf htype hclock (buildCommand_timestamps htimes)

theorem processPayload_unanswered (clock : ClockAnswers) (p : RemoteCommandProcessor τ δ)
    (hparsed : (parseCommand payload p.deviceId).command = none) :
    (p.processPayload clock payload).1.publishedMessages ++
      (p.processPayload clock payload).1.outboxMessages =
        p.publishedMessages ++ p.outboxMessages := by
  have hreceived : OnlyReceived p (p.processPayload clock payload).1 := by
    have hcounted : OnlyReceived p { p with commandSeq := p.commandSeq + 1 } :=
      ⟨rfl, rfl, rfl, rfl, rfl, rfl, id⟩
    rw [processPayload, hparsed]
    exact hcounted.trans (.diagnose _ _)
  exact hreceived.answers.responses.trans (List.append_nil _)

theorem messages_ne_nil (topics : MqttTopics) (responses : CommandResponses) :
    responses.messages topics ≠ [] := by
  rw [CommandResponses.messages, List.map_append]
  exact List.append_ne_nil_of_right_ne_nil _ (List.cons_ne_nil _ _)

theorem not_answered (clock : ClockAnswers) (p : RemoteCommandProcessor τ δ)
    (hparsed : (parseCommand payload p.deviceId).command = none) :
    ¬ ∃ responses, AnsweredBy clock doc commandId rawCommand p (p.processPayload clock payload).1
      responses := by
  intro hanswered
  obtain ⟨responses, hanswered⟩ := hanswered
  have hsent := hanswered.sent
  rw [processPayload_unanswered clock p hparsed] at hsent
  exact messages_ne_nil p.topics responses (List.self_eq_append_right.mp hsent)

/-- An attributable payload is answered exactly if both its timestamps are integers, or the
processor expects no device at all. -/
theorem answered_iff_integerTimestamps (clock : ClockAnswers) (p : RemoteCommandProcessor τ δ)
    (hempty : p.outbox = []) (hsize : payload.length ≤ kMaxJsonPayloadBytes)
    (hd : deserializeJson payload = some doc)
    (h : Attributable doc p.deviceId commandId rawCommand) :
    (∃ responses, AnsweredBy clock doc commandId rawCommand p (p.processPayload clock payload).1
      responses) ↔ p.deviceId = [] ∨ IntegerTimestamps doc := by
  have hparsed := h.parseCommand_eq hsize hd
  by_cases hok : p.deviceId = [] ∨ IntegerTimestamps doc
  · rw [if_pos hok] at hparsed
    exact iff_of_true ⟨_, processPayload_answered clock hempty hparsed⟩ hok
  · rw [if_neg hok] at hparsed
    exact iff_of_false (not_answered clock p hparsed) hok

end RemoteCommandProcessor

/-- A transport that takes every message. -/
structure TakingTransport where
  deriving DecidableEq

instance : IDeviceTransport TakingTransport where
  publish transport _ _ := .pure transport true
  subscribe transport _ _ := .pure transport true

/-- An `OPEN_DOOR` command between the given timestamps. -/
def openDoorDocument (issuedAt expiresAt : Json) : Json :=
  .obj [(ascii "protocol_version", .int 1), (ascii "device_id", .str (ascii "ib-1")),
    (ascii "command_id", .str (List.replicate 32 97)), (ascii "command", .str (ascii "OPEN_DOOR")),
    (ascii "parameters", .obj []), (ascii "issued_at", issuedAt), (ascii "expires_at", expiresAt)]

/-- The processor of a device that has just started. -/
def startedProcessor : RemoteCommandProcessor TakingTransport InMemoryDedupCache where
  deviceId := ascii "ib-1"
  transport := {}
  handler := ⟨ascii "ib-1", .new kDefaultDedupCacheCapacity⟩
  topics :=
    { deviceId := ascii "ib-1", ingestRuleName := ascii "in", responseRuleName := ascii "out" }

theorem openDoorDocument_attributable (issuedAt expiresAt : Json) :
    Attributable (openDoorDocument issuedAt expiresAt) (ascii "ib-1") (List.replicate 32 97)
      (ascii "OPEN_DOOR") where
  fields := ⟨rfl, fun _ hkey => hkey⟩
  version := rfl
  device := rfl
  id := rfl
  id_length := rfl
  id_hex := by decide +kernel
  command := rfl
  command_ne_nil := by decide
  parameters := rfl

theorem openDoorDocument_decodes {issuedAt expiresAt : Json} (hi : issuedAt.StorableWithin 1)
    (hx : expiresAt.StorableWithin 1) : JsonText.parse (JsonText.print
      (openDoorDocument issuedAt expiresAt)) = some (openDoorDocument issuedAt expiresAt) := by
  have hstorable : (openDoorDocument issuedAt expiresAt).StorableWithin 2 := by
    refine ⟨(by decide +kernel : allowedFields.Nodup), ?_⟩
    simp only [List.forall_mem_cons]
    exact ⟨Json.StorableWithin.int32 1 kProtocolVersion, trivial, trivial, trivial,
      ⟨List.nodup_nil, List.forall_mem_nil _⟩, hi, hx, List.forall_mem_nil _⟩
  exact JsonText.parse_print hstorable

def isoDocument : Json :=
  openDoorDocument (.str (ascii "2026-08-11T17:00:00Z")) (.str (ascii "2026-08-11T17:00:30Z"))

def epochDocument : Json := openDoorDocument (.int 1786467600) (.int 1786467630)

def trustedClock : ClockAnswers := ⟨fun _ => true, fun _ => 1786467600⟩

/-- Timestamps in ISO-8601 leave the command without any response. -/
theorem isoDocument_unanswered :
    letI := compactJson
    (JsonText.print isoDocument).length ≤ kMaxJsonPayloadBytes ∧
      deserializeJson (JsonText.print isoDocument) = some isoDocument ∧
      Attributable isoDocument (ascii "ib-1") (List.replicate 32 97) (ascii "OPEN_DOOR") ∧
      ¬ ∃ responses, RemoteCommandProcessor.AnsweredBy trustedClock isoDocument
        (List.replicate 32 97) (ascii "OPEN_DOOR") startedProcessor
        (startedProcessor.processPayload trustedClock (JsonText.print isoDocument)).1
        responses := by
  let := compactJson
  have hsize : (JsonText.print isoDocument).length ≤ kMaxJsonPayloadBytes := by decide +kernel
  have hdecodes : deserializeJson (JsonText.print isoDocument) = some isoDocument :=
    openDoorDocument_decodes trivial trivial
  have hattributable : Attributable isoDocument (ascii "ib-1") (List.replicate 32 97)
      (ascii "OPEN_DOOR") := openDoorDocument_attributable _ _
  have hmalformed : ¬ (ascii "ib-1" = [] ∨ IntegerTimestamps isoDocument) := by
    intro hor
    rcases hor with hnone | ⟨⟨issuedAt, hissued⟩, _⟩
    · exact absurd hnone (by decide)
    · cases hissued
  refine ⟨hsize, hdecodes, hattributable, ?_⟩
  apply RemoteCommandProcessor.not_answered
  exact (hattributable.parseCommand_eq hsize hdecodes).trans (if_neg hmalformed)

theorem epochDocument_answered :
    letI := compactJson
    ∃ responses, RemoteCommandProcessor.AnsweredBy trustedClock epochDocument
      (List.replicate 32 97) (ascii "OPEN_DOOR") startedProcessor
      (startedProcessor.processPayload trustedClock (JsonText.print epochDocument)).1
      responses := by
  let := compactJson
  have hsize : (JsonText.print epochDocument).length ≤ kMaxJsonPayloadBytes := by decide +kernel
  have hdecodes : deserializeJson (JsonText.print epochDocument) = some epochDocument :=
    openDoorDocument_decodes ⟨by decide, by decide⟩ ⟨by decide, by decide⟩
  exact (RemoteCommandProcessor.answered_iff_integerTimestamps trustedClock startedProcessor rfl
    hsize hdecodes (openDoorDocument_attributable _ _)).mpr
      (.inr ⟨⟨1786467600, rfl⟩, ⟨1786467630, rfl⟩⟩)

end InterBridge
