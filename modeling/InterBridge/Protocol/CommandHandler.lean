import InterBridge.Foundations.SignedArithmetic
import InterBridge.Protocol.CommandCache

namespace InterBridge
open Foundations
set_option autoImplicit true

def kOpenDoorMaxValiditySeconds : Int64 := 30

def kClockSkewToleranceSeconds : Int64 := 5

inductive DoorOpenCapability where
  | disabled | dtmf | relay
  deriving DecidableEq

def kDoorOpenCapability : DoorOpenCapability := .disabled

/-- The answers the clock gives to the successive calls made while one command is handled. -/
structure ClockAnswers where
  hasValidTime : Nat → Bool
  unixTimeSeconds : Nat → Int64

structure CommandResponses where
  accepted : Option CommandResponse := none
  terminal : CommandResponse
  timeValidationPassed : Bool := false
  ageSeconds : Int64 := 0
  remainingSeconds : Int64 := 0
  deriving DecidableEq

def CommandResponses.hasAccepted (responses : CommandResponses) : Bool := responses.accepted.isSome

def buildResponse (deviceId : Bytes) (command : DeviceCommand) (status : CommandStatus)
    (errorCode : Option ProtocolErrorCode) : CommandResponse where
  deviceId := deviceId
  commandId := command.commandId
  command := command.rawCommand
  status := status
  error := errorCode.map fun code => ⟨code, defaultErrorMessage code⟩

def fromCache (deviceId : Bytes) (command : DeviceCommand) (entry : DedupEntry) :
    CommandResponse :=
  buildResponse deviceId command entry.status
    (if entry.hasError then some entry.errorCode else none)

def terminalOnly (response : CommandResponse) : CommandResponses := { terminal := response }

/-- The entry `recordAndReturn` compresses a response into. -/
def CommandResponse.toEntry (response : CommandResponse) : DedupEntry where
  status := response.status
  hasError := response.error.isSome
  errorCode := (response.error.map ProtocolError.code).getD .internalError

def recordAndReturn [IDedupCache δ] (cache : δ) (command : DeviceCommand)
    (response : CommandResponse) : CommandResponse × δ :=
  (response, IDedupCache.record cache command.commandId response.toEntry)

def checkTimeSafetyWith [Monad m] (ops : Int64Ops m) (clock : ClockAnswers)
    (command : DeviceCommand) (maxValiditySeconds : Int64) : m (Option ProtocolErrorCode) :=
  if !clock.hasValidTime 0 then pure (some .clockNotTrustworthy)
  else if !command.hasIssuedAt || !command.hasExpiresAt then pure (some .invalidTimestamp)
  else if command.issuedAtUnixSeconds < 0 ||
      command.expiresAtUnixSeconds ≤ command.issuedAtUnixSeconds then
    pure (some .invalidTimestamp)
  else do
    let validityWindow ← ops.sub command.expiresAtUnixSeconds command.issuedAtUnixSeconds
    if maxValiditySeconds < validityWindow then pure (some .invalidTimestamp)
    else
      let now := clock.unixTimeSeconds 0
      if !clock.hasValidTime 1 || now < 0 then pure (some .clockNotTrustworthy)
      else do
        let latestIssue ← ops.add now kClockSkewToleranceSeconds
        if latestIssue < command.issuedAtUnixSeconds then pure (some .invalidTimestamp)
        else if command.expiresAtUnixSeconds < now then pure (some .commandExpired)
        else pure none

def rejectAndRecord [IDedupCache δ] (deviceId : Bytes) (cache : δ) (command : DeviceCommand)
    (code : ProtocolErrorCode) : CommandResponses × δ :=
  let (terminal, cache) := recordAndReturn cache command
    (buildResponse deviceId command .rejected (some code))
  (terminalOnly terminal, cache)

def handleWith [Monad m] [IDedupCache δ] (ops : Int64Ops m) (deviceId : Bytes) (cache : δ)
    (clock : ClockAnswers) (command : DeviceCommand) : m (CommandResponses × δ) :=
  match IDedupCache.find cache command.commandId with
  | some entry => pure (terminalOnly (fromCache deviceId command entry), cache)
  | none =>
    match command.type with
    | .openDoor => do
      match ← checkTimeSafetyWith ops clock command kOpenDoorMaxValiditySeconds with
      | some timeError => pure (rejectAndRecord deviceId cache command timeError)
      | none =>
        if kDoorOpenCapability ≠ .disabled then
          pure (rejectAndRecord deviceId cache command .commandNotAllowed)
        else do
          let now := clock.unixTimeSeconds 1
          let ageSeconds ← ops.sub now command.issuedAtUnixSeconds
          let remainingSeconds ← ops.sub command.expiresAtUnixSeconds now
          let (terminal, cache) := recordAndReturn cache command
            (buildResponse deviceId command .rejected (some .capabilityDisabled))
          pure ({ accepted := some (buildResponse deviceId command .accepted none)
                  terminal := terminal
                  timeValidationPassed := true
                  ageSeconds := ageSeconds
                  remainingSeconds := remainingSeconds }, cache)
    | .restart | .enterProvisioning | .factoryReset | .answerCall | .rejectCall | .endCall =>
      pure (rejectAndRecord deviceId cache command .commandNotAllowed)
    | .unknown => pure (rejectAndRecord deviceId cache command .unknownCommand)

def checkTimeSafety (clock : ClockAnswers) (command : DeviceCommand)
    (maxValiditySeconds : Int64) : Option ProtocolErrorCode :=
  (checkTimeSafetyWith .wrapping clock command maxValiditySeconds).run

def handle [IDedupCache δ] (deviceId : Bytes) (cache : δ) (clock : ClockAnswers)
    (command : DeviceCommand) : CommandResponses × δ :=
  (handleWith .wrapping deviceId cache clock command).run

/-- Why a command seen for the first time is refused; `none` when it is accepted. -/
def refusal (clock : ClockAnswers) (command : DeviceCommand) : Option ProtocolErrorCode :=
  match command.type with
  | .openDoor => checkTimeSafety clock command kOpenDoorMaxValiditySeconds
  | .unknown => some .unknownCommand
  | _ => some .commandNotAllowed

/-- The responses to a command whose id is not cached. -/
def firstResponses (deviceId : Bytes) (clock : ClockAnswers) (command : DeviceCommand) :
    CommandResponses :=
  match refusal clock command with
  | some code => terminalOnly (buildResponse deviceId command .rejected (some code))
  | none =>
    { accepted := some (buildResponse deviceId command .accepted none)
      terminal := buildResponse deviceId command .rejected (some .capabilityDisabled)
      timeValidationPassed := true
      ageSeconds := clock.unixTimeSeconds 1 - command.issuedAtUnixSeconds
      remainingSeconds := command.expiresAtUnixSeconds - clock.unixTimeSeconds 1 }

section Responses

variable [IDedupCache δ] {cache : δ}

theorem handle_cached (h : IDedupCache.find cache command.commandId = some entry) :
    handle deviceId cache clock command =
      (terminalOnly (fromCache deviceId command entry), cache) := by
  simp only [handle, handleWith, h, Id.run_pure]

theorem handle_uncached (h : IDedupCache.find cache command.commandId = none) :
    handle deviceId cache clock command =
      (firstResponses deviceId clock command,
        IDedupCache.record cache command.commandId
          (firstResponses deviceId clock command).terminal.toEntry) := by
  simp only [handle, handleWith, h]
  cases ht : command.type with
  | openDoor =>
    simp only [firstResponses, refusal, ht, checkTimeSafety, Id.run_bind]
    cases (checkTimeSafetyWith .wrapping clock command kOpenDoorMaxValiditySeconds).run with
    | some code => rfl
    | none => rfl
  | _ => simp only [firstResponses, refusal, ht]; rfl

end Responses

theorem firstResponses_hasAccepted :
    (firstResponses deviceId clock command).hasAccepted = (refusal clock command).isNone := by
  rw [firstResponses]
  cases refusal clock command <;> rfl

theorem firstResponses_timeValidationPassed :
    (firstResponses deviceId clock command).timeValidationPassed =
      (refusal clock command).isNone := by
  rw [firstResponses]
  cases refusal clock command <;> rfl

theorem firstResponses_terminal :
    (firstResponses deviceId clock command).terminal =
      buildResponse deviceId command .rejected
        (some ((refusal clock command).getD .capabilityDisabled)) := by
  rw [firstResponses]
  cases refusal clock command <;> rfl

theorem buildResponse_toEntry_normal :
    (buildResponse deviceId command status code).toEntry.Normal := by
  intro h
  cases code with
  | none => rfl
  | some code => cases h

theorem fromCache_toEntry :
    fromCache deviceId command (buildResponse deviceId command status code).toEntry =
      buildResponse deviceId command status code := by
  cases code <;> rfl

/-- The time-safety rules for a command other than expiry, over the exact integers: `now` is the
one reading taken between two answers that the clock is valid. -/
structure Admissible (clock : ClockAnswers) (command : DeviceCommand) (maxValiditySeconds : Int) :
    Prop where
  trusted_before : clock.hasValidTime 0 = true
  hasIssuedAt : command.hasIssuedAt = true
  hasExpiresAt : command.hasExpiresAt = true
  issuedAt_nonneg : 0 ≤ command.issuedAtUnixSeconds.toInt
  issuedAt_lt : command.issuedAtUnixSeconds.toInt < command.expiresAtUnixSeconds.toInt
  validity : command.expiresAtUnixSeconds.toInt ≤
    command.issuedAtUnixSeconds.toInt + maxValiditySeconds
  trusted_after : clock.hasValidTime 1 = true
  now_nonneg : 0 ≤ (clock.unixTimeSeconds 0).toInt
  issued : command.issuedAtUnixSeconds.toInt ≤
    (clock.unixTimeSeconds 0).toInt + kClockSkewToleranceSeconds.toInt

structure TimeSafe (clock : ClockAnswers) (command : DeviceCommand) (maxValiditySeconds : Int) :
    Prop extends Admissible clock command maxValiditySeconds where
  not_expired : (clock.unixTimeSeconds 0).toInt ≤ command.expiresAtUnixSeconds.toInt

/-- Readings a 64-bit clock can be trusted to stay far below its range with. -/
def ClockAnswers.Bounded (clock : ClockAnswers) : Prop :=
  ∀ n, -2 ^ 62 ≤ (clock.unixTimeSeconds n).toInt ∧ (clock.unixTimeSeconds n).toInt ≤ 2 ^ 62

theorem checked_sub (h : FitsInt64 (a.toInt - b.toInt)) :
    Int64Ops.checked.sub a b = some (a - b) := if_pos h

theorem checked_sub_eq_none (h : ¬ FitsInt64 (a.toInt - b.toInt)) :
    Int64Ops.checked.sub a b = none := if_neg h

theorem checked_add (h : FitsInt64 (a.toInt + b.toInt)) :
    Int64Ops.checked.add a b = some (a + b) := if_pos h

theorem fitsInt64_validityWindow {command : DeviceCommand}
    (hi : ¬ command.issuedAtUnixSeconds < 0)
    (hx : ¬ command.expiresAtUnixSeconds ≤ command.issuedAtUnixSeconds) :
    FitsInt64 (command.expiresAtUnixSeconds.toInt - command.issuedAtUnixSeconds.toInt) := by
  have hub := command.expiresAtUnixSeconds.toInt_lt
  rw [Int64.lt_iff_toInt_lt, Int64.toInt_zero] at hi
  rw [Int64.le_iff_toInt_le] at hx
  refine ⟨?_, ?_⟩ <;> omega

theorem ClockAnswers.Bounded.fitsInt64_skew {clock : ClockAnswers} (h : clock.Bounded) (n : Nat) :
    FitsInt64 ((clock.unixTimeSeconds n).toInt + kClockSkewToleranceSeconds.toInt) := by
  obtain ⟨hl, hu⟩ := h n
  have hk : kClockSkewToleranceSeconds.toInt = 5 := rfl
  rw [hk]
  refine ⟨?_, ?_⟩ <;> omega

theorem checkTimeSafety_eq (clock : ClockAnswers) (command : DeviceCommand)
    (maxValiditySeconds : Int64) :
    checkTimeSafety clock command maxValiditySeconds =
      if !clock.hasValidTime 0 then some .clockNotTrustworthy
      else if !command.hasIssuedAt || !command.hasExpiresAt then some .invalidTimestamp
      else if command.issuedAtUnixSeconds < 0 ||
          command.expiresAtUnixSeconds ≤ command.issuedAtUnixSeconds then some .invalidTimestamp
      else if maxValiditySeconds < command.expiresAtUnixSeconds - command.issuedAtUnixSeconds then
        some .invalidTimestamp
      else if !clock.hasValidTime 1 || clock.unixTimeSeconds 0 < 0 then some .clockNotTrustworthy
      else if clock.unixTimeSeconds 0 + kClockSkewToleranceSeconds <
          command.issuedAtUnixSeconds then some .invalidTimestamp
      else if command.expiresAtUnixSeconds < clock.unixTimeSeconds 0 then some .commandExpired
      else none := rfl

/-- The time check meets no overflow, whatever the timestamps are. -/
theorem checkTimeSafetyWith_checked {clock : ClockAnswers} (h : clock.Bounded)
    (command : DeviceCommand) (maxValiditySeconds : Int64) :
    checkTimeSafetyWith .checked clock command maxValiditySeconds =
      some (checkTimeSafety clock command maxValiditySeconds) := by
  simp only [checkTimeSafety_eq, checkTimeSafetyWith, apply_ite some]
  split
  · rfl
  split
  · rfl
  split
  · rfl
  next horder =>
    rw [Bool.or_eq_true, decide_eq_true_eq, decide_eq_true_eq, not_or] at horder
    rw [checked_sub (fitsInt64_validityWindow horder.1 horder.2)]
    simp only [Option.bind_eq_bind, Option.bind_some, checked_add (h.fitsInt64_skew 0)]
    rfl

theorem toInt_validityWindow {command : DeviceCommand}
    (hi : 0 ≤ command.issuedAtUnixSeconds.toInt)
    (hx : command.issuedAtUnixSeconds.toInt < command.expiresAtUnixSeconds.toInt) :
    (command.expiresAtUnixSeconds - command.issuedAtUnixSeconds).toInt =
      command.expiresAtUnixSeconds.toInt - command.issuedAtUnixSeconds.toInt := by
  apply FitsInt64.toInt_sub
  apply fitsInt64_validityWindow
  · rw [Int64.lt_iff_toInt_lt]
    exact Int.not_lt.mpr hi
  · rw [Int64.le_iff_toInt_le]
    exact Int.not_le.mpr hx

theorem checkTimeSafety_eq_none_iff {clock : ClockAnswers} (h : clock.Bounded)
    (command : DeviceCommand) (maxValiditySeconds : Int64) :
    checkTimeSafety clock command maxValiditySeconds = none ↔
      TimeSafe clock command maxValiditySeconds.toInt := by
  have hskew := (h.fitsInt64_skew 0).toInt_add
  have hzero : (0 : Int64).toInt = 0 := rfl
  simp only [checkTimeSafety_eq, reduceCtorEq, Bool.or_eq_true, decide_eq_true_eq,
    Bool.not_eq_true', not_or, Bool.not_eq_false, Int64.lt_iff_toInt_lt, Int64.le_iff_toInt_le,
    hskew, hzero, Int.not_lt, Int.not_le, ite_eq_iff, false_or, and_false, and_true]
  constructor
  · intro hall
    obtain ⟨hb, ⟨hhi, hhx⟩, ⟨hi, hx⟩, hv, ⟨ha, hn⟩, hs, he⟩ := hall
    rw [toInt_validityWindow hi hx] at hv
    exact ⟨⟨hb, hhi, hhx, hi, hx, by omega, ha, hn, hs⟩, he⟩
  · intro hall
    obtain ⟨⟨hb, hhi, hhx, hi, hx, hv, ha, hn, hs⟩, he⟩ := hall
    rw [toInt_validityWindow hi hx]
    exact ⟨hb, ⟨hhi, hhx⟩, ⟨hi, hx⟩, by omega, ⟨ha, hn⟩, hs, he⟩

theorem Admissible.checkTimeSafety {clock : ClockAnswers} (h : clock.Bounded)
    (ha : Admissible clock command maxValiditySeconds.toInt) :
    checkTimeSafety clock command maxValiditySeconds =
      if command.expiresAtUnixSeconds < clock.unixTimeSeconds 0 then some .commandExpired
      else none := by
  have hskew := (h.fitsInt64_skew 0).toInt_add
  have hwindow := toInt_validityWindow ha.issuedAt_nonneg ha.issuedAt_lt
  have hzero : (0 : Int64).toInt = 0 := rfl
  have hv := ha.validity
  rw [checkTimeSafety_eq, ha.trusted_before, ha.hasIssuedAt, ha.hasExpiresAt, ha.trusted_after]
  simp only [Int64.lt_iff_toInt_lt, Int64.le_iff_toInt_le, hskew, hzero, hwindow,
    Int.not_lt.mpr ha.issuedAt_nonneg, Int.not_le.mpr ha.issuedAt_lt, Int.not_lt.mpr ha.now_nonneg,
    Int.not_lt.mpr ha.issued, decide_false, Bool.not_true, Bool.or_self, Bool.false_eq_true,
    ↓reduceIte]
  rw [if_neg (by omega)]

theorem checkTimeSafety_ne_capabilityDisabled (clock : ClockAnswers) (command : DeviceCommand)
    (maxValiditySeconds : Int64) :
    checkTimeSafety clock command maxValiditySeconds ≠ some .capabilityDisabled := by
  simp only [checkTimeSafety_eq, ne_eq, ite_eq_iff, Option.some.injEq, reduceCtorEq, and_false,
    or_self, not_false_eq_true]

theorem refusal_ne_capabilityDisabled (clock : ClockAnswers) (command : DeviceCommand) :
    refusal clock command ≠ some .capabilityDisabled := by
  cases ht : command.type with
  | openDoor =>
    rw [refusal, ht]
    exact checkTimeSafety_ne_capabilityDisabled clock command _
  | _ => simp only [refusal, ht, ne_eq, Option.some.injEq, reduceCtorEq, not_false_eq_true]

theorem refusal_eq_none_iff {clock : ClockAnswers} (h : clock.Bounded) (command : DeviceCommand) :
    refusal clock command = none ↔ command.type = .openDoor ∧
      TimeSafe clock command kOpenDoorMaxValiditySeconds.toInt := by
  cases ht : command.type with
  | openDoor => simp only [refusal, ht, checkTimeSafety_eq_none_iff h, true_and]
  | _ => simp only [refusal, ht, reduceCtorEq, false_and]

/-- The command is new, and it is an `OPEN_DOOR` whose timestamps pass the time check. -/
def Acceptable [IDedupCache δ] (cache : δ) (clock : ClockAnswers) (command : DeviceCommand) :
    Prop :=
  IDedupCache.find cache command.commandId = none ∧ command.type = .openDoor ∧
    TimeSafe clock command kOpenDoorMaxValiditySeconds.toInt

/-- The two differences reported about an accepted command, with the reading taken for them. -/
def DiagnosticsOverflow (clock : ClockAnswers) (command : DeviceCommand) : Prop :=
  (clock.unixTimeSeconds 1).toInt - command.issuedAtUnixSeconds.toInt < -2 ^ 63 ∨
    2 ^ 63 ≤ command.expiresAtUnixSeconds.toInt - (clock.unixTimeSeconds 1).toInt

section Acceptance

variable [IDedupCache δ] {cache : δ} {clock : ClockAnswers} {command : DeviceCommand}

theorem handle_hasAccepted_iff (h : clock.Bounded) :
    (handle deviceId cache clock command).1.hasAccepted = true ↔
      Acceptable cache clock command := by
  rw [Acceptable, ← refusal_eq_none_iff h]
  cases hf : IDedupCache.find cache command.commandId with
  | some entry =>
    rw [handle_cached hf]
    simp only [CommandResponses.hasAccepted, terminalOnly, Option.isSome_none, Bool.false_eq_true,
      reduceCtorEq, false_and]
  | none =>
    rw [handle_uncached hf, firstResponses_hasAccepted, Option.isNone_iff_eq_none]
    exact (and_iff_right rfl).symm

theorem handle_timeValidationPassed :
    (handle deviceId cache clock command).1.timeValidationPassed =
      (handle deviceId cache clock command).1.hasAccepted := by
  cases hf : IDedupCache.find cache command.commandId with
  | some entry =>
    rw [handle_cached hf]
    rfl
  | none =>
    rw [handle_uncached hf, firstResponses_hasAccepted, firstResponses_timeValidationPassed]

theorem TimeSafe.diagnostics_checked (ht : TimeSafe clock command maxValiditySeconds)
    (h : clock.Bounded) : ¬ DiagnosticsOverflow clock command ↔
      FitsInt64 ((clock.unixTimeSeconds 1).toInt - command.issuedAtUnixSeconds.toInt) ∧
      FitsInt64 (command.expiresAtUnixSeconds.toInt - (clock.unixTimeSeconds 1).toInt) := by
  obtain ⟨hl, hu⟩ := h 1
  have hi := ht.issuedAt_nonneg
  have hx := ht.issuedAt_lt
  rw [DiagnosticsOverflow, FitsInt64, FitsInt64]
  omega

theorem handleWith_checked (h : clock.Bounded) (hd : ¬ (Acceptable cache clock command ∧
    DiagnosticsOverflow clock command)) :
    handleWith .checked deviceId cache clock command =
      some (handle deviceId cache clock command) := by
  cases hf : IDedupCache.find cache command.commandId with
  | some entry =>
    rw [handle_cached hf]
    simp only [handleWith, hf]
    rfl
  | none =>
    rw [handle_uncached hf]
    cases ht : command.type with
    | openDoor =>
      simp only [handleWith, hf, ht, checkTimeSafetyWith_checked h, firstResponses, refusal,
        Option.bind_eq_bind, Option.bind_some]
      cases hc : checkTimeSafety clock command kOpenDoorMaxValiditySeconds with
      | some code => rfl
      | none =>
        have hts := (checkTimeSafety_eq_none_iff h command _).mp hc
        have hno : ¬ DiagnosticsOverflow clock command := fun ho => hd ⟨⟨hf, ht, hts⟩, ho⟩
        obtain ⟨hage, hremaining⟩ := (hts.diagnostics_checked h).mp hno
        simp only [checked_sub hage, checked_sub hremaining, Option.bind_some]
        rfl
    | _ =>
      simp only [handleWith, hf, ht, firstResponses, refusal]
      rfl

theorem handleWith_checked_eq_none (h : clock.Bounded) (ha : Acceptable cache clock command)
    (hd : DiagnosticsOverflow clock command) :
    handleWith .checked deviceId cache clock command = none := by
  obtain ⟨hf, ht, hts⟩ := ha
  have hc := (checkTimeSafety_eq_none_iff h command _).mpr hts
  simp only [handleWith, hf, ht, checkTimeSafetyWith_checked h, hc, Option.bind_eq_bind,
    Option.bind_some]
  have hno := mt (hts.diagnostics_checked h).mpr (not_not_intro hd)
  by_cases hage : FitsInt64 ((clock.unixTimeSeconds 1).toInt - command.issuedAtUnixSeconds.toInt)
  · have hremaining := fun hr => hno ⟨hage, hr⟩
    simp only [checked_sub hage, checked_sub_eq_none hremaining, Option.bind_some]
    rfl
  · simp only [checked_sub_eq_none hage]
    rfl

theorem handle_uncached_record (hf : IDedupCache.find cache command.commandId = none) :
    ∃ code, (handle deviceId cache clock command).1.terminal =
        buildResponse deviceId command .rejected (some code) ∧
      (handle deviceId cache clock command).2 =
        IDedupCache.record cache command.commandId ⟨.rejected, true, code⟩ ∧
      (code = .capabilityDisabled ↔
        (handle deviceId cache clock command).1.hasAccepted = true) := by
  rw [handle_uncached hf, firstResponses_terminal, firstResponses_hasAccepted]
  refine ⟨_, rfl, rfl, ?_⟩
  cases hr : refusal clock command with
  | none => exact iff_of_true rfl rfl
  | some code =>
    have hne := refusal_ne_capabilityDisabled clock command
    rw [hr] at hne
    exact iff_of_false (fun he => hne (congrArg some he)) Bool.false_ne_true

end Acceptance

/-- `ACCEPTED` is answered exactly to a new `OPEN_DOOR` command within its validity window; only
the two reported differences can overflow, and a new command is recorded once, as rejected. -/
theorem handle_accepts_exactly_timeSafe [IDedupCache δ] (deviceId : Bytes) (cache : δ)
    (clock : ClockAnswers) (command : DeviceCommand) (h : clock.Bounded) :
    ((handle deviceId cache clock command).1.hasAccepted = true ↔
      Acceptable cache clock command) ∧
    ((handle deviceId cache clock command).1.timeValidationPassed = true ↔
      Acceptable cache clock command) ∧
    checkTimeSafetyWith .checked clock command kOpenDoorMaxValiditySeconds =
      some (checkTimeSafety clock command kOpenDoorMaxValiditySeconds) ∧
    (handleWith .checked deviceId cache clock command = none ↔
      Acceptable cache clock command ∧ DiagnosticsOverflow clock command) ∧
    (∀ result, handleWith .checked deviceId cache clock command = some result →
      result = handle deviceId cache clock command) ∧
    (IDedupCache.find cache command.commandId = none →
      ∃ code, (handle deviceId cache clock command).1.terminal =
          buildResponse deviceId command .rejected (some code) ∧
        (handle deviceId cache clock command).2 =
          IDedupCache.record cache command.commandId ⟨.rejected, true, code⟩ ∧
        (code = .capabilityDisabled ↔
          (handle deviceId cache clock command).1.hasAccepted = true)) := by
  refine ⟨handle_hasAccepted_iff h, ?_, checkTimeSafetyWith_checked h command _, ?_, ?_,
    handle_uncached_record⟩
  · rw [handle_timeValidationPassed]
    exact handle_hasAccepted_iff h
  · constructor
    · intro hn
      by_contra hd
      rw [handleWith_checked h hd] at hn
      cases hn
    · intro hall
      obtain ⟨ha, hd⟩ := hall
      exact handleWith_checked_eq_none h ha hd
  · intro result hr
    by_cases hd : Acceptable cache clock command ∧ DiagnosticsOverflow clock command
    · rw [handleWith_checked_eq_none h hd.1 hd.2] at hr
      cases hr
    · rw [handleWith_checked h hd] at hr
      exact (Option.some.inj hr).symm

/-- A clock always trusted whose first reading is `2 ^ 62` and whose later ones are `-2 ^ 62`. -/
def swingingClock : ClockAnswers where
  hasValidTime := fun _ => true
  unixTimeSeconds := fun n => if n = 0 then .ofInt (2 ^ 62) else .ofInt (-2 ^ 62)

def farFutureOpenDoor : DeviceCommand where
  type := .openDoor
  rawCommand := ascii "OPEN_DOOR"
  commandId := List.replicate 32 97
  deviceId := ascii "ib-1"
  rawPayload := []
  issuedAtUnixSeconds := .ofInt (2 ^ 62 + 1)
  hasIssuedAt := true
  expiresAtUnixSeconds := .ofInt (2 ^ 62 + 2)
  hasExpiresAt := true

theorem swingingClock_bounded : swingingClock.Bounded := by
  intro n
  cases n with
  | zero => decide
  | succ n =>
    change -2 ^ 62 ≤ (Int64.ofInt (-2 ^ 62)).toInt ∧ (Int64.ofInt (-2 ^ 62)).toInt ≤ 2 ^ 62
    decide

theorem farFutureOpenDoor_acceptable :
    Acceptable (InMemoryDedupCache.new kDefaultDedupCacheCapacity) swingingClock
      farFutureOpenDoor :=
  ⟨rfl, rfl, ⟨⟨rfl, rfl, rfl, by decide, by decide, by decide, rfl, by decide, by decide⟩,
    by decide⟩⟩

/-- An `OPEN_DOOR` command of that time is accepted. -/
theorem handle_accepts_farFutureOpenDoor :
    (handle (ascii "ib-1") (InMemoryDedupCache.new kDefaultDedupCacheCapacity) swingingClock
      farFutureOpenDoor).1.hasAccepted = true :=
  (handle_accepts_exactly_timeSafe (ascii "ib-1") _ swingingClock farFutureOpenDoor
    swingingClock_bounded).1.mpr farFutureOpenDoor_acceptable

/-- The age of an accepted command can leave the 64-bit range. -/
theorem handle_diagnostics_overflow :
    swingingClock.Bounded ∧
      handleWith .checked (ascii "ib-1") (InMemoryDedupCache.new kDefaultDedupCacheCapacity)
        swingingClock farFutureOpenDoor = none :=
  ⟨swingingClock_bounded, handleWith_checked_eq_none swingingClock_bounded
    farFutureOpenDoor_acceptable (.inl (by decide))⟩

end InterBridge
