import InterBridge.Foundations.Transitions
import InterBridge.Protocol.ProcessorEffects

namespace InterBridge
open Foundations
set_option autoImplicit true

namespace ProcessorEvent

def attempt? : ProcessorEvent → Option (MqttMessage × Bool)
  | .published message ok => some (message, ok)
  | _ => none

def diagnostic? : ProcessorEvent → Option CommandDiagnostic
  | .diagnosed diagnostic => some diagnostic
  | _ => none

end ProcessorEvent

/-- The attempts to publish, with how they went. -/
def attemptsIn (trace : List ProcessorEvent) : List (MqttMessage × Bool) :=
  trace.filterMap ProcessorEvent.attempt?

def stagesIn (trace : List ProcessorEvent) : List CommandDiagnosticStage :=
  (trace.filterMap ProcessorEvent.diagnostic?).map CommandDiagnostic.stage

/-- How the stages of a terminal response end. -/
def terminalWord (failures : Nat) : List CommandDiagnosticStage :=
  List.replicate failures .terminalPublishFailed ++ [.terminalPublished]

inductive CommandWord : List CommandDiagnosticStage → Prop where
  | acceptedAtOnce (failures : Nat) :
      CommandWord ([.acceptedPublished, .terminalDeferred] ++ terminalWord failures)
  | acceptedLater (retries failures : Nat) :
      CommandWord ([.acceptedPending, .terminalQueuedBehindAccepted] ++
        (List.replicate retries .acceptedPublishFailed ++ [.acceptedPublished]) ++
          terminalWord failures)
  | terminalOnly (failures : Nat) : CommandWord (terminalWord failures)

/-- The stages about the terminal response. -/
def terminalStages : List CommandDiagnosticStage :=
  [.terminalPublished, .terminalDeferred, .terminalQueuedBehindAccepted, .terminalPublishFailed]

/-- The stages that say why the terminal response is not attempted yet. -/
def asideStages : List CommandDiagnosticStage := [.terminalDeferred, .terminalQueuedBehindAccepted]

/-- The message is the response a stage is about. -/
def AboutMessage [ArduinoJson] (topics : MqttTopics) (seq : UInt32) (responses : CommandResponses)
    (stage : CommandDiagnosticStage) (message : MqttMessage) : Prop :=
  if stage ∈ terminalStages then
    message = (PendingResponse.terminal topics responses.terminal seq).message
  else ∃ response, responses.accepted = some response ∧
    message = (PendingResponse.accepted topics response seq).message

/-- Each stage about an attempt comes right after it. -/
def ReportsAttempts [ArduinoJson] (topics : MqttTopics) (seq : UInt32)
    (responses : CommandResponses) (trace : List ProcessorEvent) : Prop :=
  ∀ before diagnostic after, trace = before ++ .diagnosed diagnostic :: after →
    diagnostic.stage ∉ asideStages → ∃ earlier message ok,
      before = earlier ++ [.published message ok] ∧
        (ok = true ↔ diagnostic.stage ∈ [.acceptedPublished, .terminalPublished]) ∧
        AboutMessage topics seq responses diagnostic.stage message

/-- The attempts at the two responses, in order, and as many stages as there were attempts. -/
structure CountedAttempts [ArduinoJson] (topics : MqttTopics) (seq : UInt32)
    (responses : CommandResponses) (trace : List ProcessorEvent)
    (acceptedAttempts terminalAttempts : List Bool) : Prop where
  attempts : attemptsIn trace =
    (responses.accepted.toList.flatMap fun response => acceptedAttempts.map fun ok =>
      ((PendingResponse.accepted topics response seq).message, ok)) ++
    terminalAttempts.map fun ok =>
      ((PendingResponse.terminal topics responses.terminal seq).message, ok)
  unaccepted : responses.accepted = none → acceptedAttempts = []
  acceptedPending : (stagesIn trace).count .acceptedPending =
    (acceptedAttempts.take 1).count false
  acceptedPublishFailed : (stagesIn trace).count .acceptedPublishFailed =
    (acceptedAttempts.drop 1).count false
  terminalPublishFailed : (stagesIn trace).count .terminalPublishFailed =
    terminalAttempts.count false
  acceptedPublished : (stagesIn trace).count .acceptedPublished = acceptedAttempts.count true
  terminalPublished : (stagesIn trace).count .terminalPublished = terminalAttempts.count true
  acceptedOnce : acceptedAttempts.count true ≤ 1
  terminalOnce : terminalAttempts.count true ≤ 1

/-- The stages after the decision about a command tell of the attempts to publish its responses
as they were. -/
structure TruthfulStages [ArduinoJson] (topics : MqttTopics) (seq : UInt32)
    (responses : CommandResponses) (trace : List ProcessorEvent) : Prop where
  word : ∃ word, CommandWord word ∧ stagesIn trace <+: word
  counted : ∃ acceptedAttempts terminalAttempts,
    CountedAttempts topics seq responses trace acceptedAttempts terminalAttempts
  reported : ReportsAttempts topics seq responses trace
  aside : ∀ before diagnostic after, trace = before ++ .diagnosed diagnostic :: after →
    diagnostic.stage ∈ asideStages → ∃ response ok, responses.accepted = some response ∧
      attemptsIn before = [((PendingResponse.accepted topics response seq).message, ok)]
  safeCode : ∀ diagnostic, .diagnosed diagnostic ∈ trace → diagnostic.stage ∈ terminalStages →
    diagnostic.safeCode = some (RemoteCommandProcessor.terminalCode responses.terminal)

theorem stagesIn_append (xs ys : List ProcessorEvent) :
    stagesIn (xs ++ ys) = stagesIn xs ++ stagesIn ys := by
  rw [stagesIn, List.filterMap_append, List.map_append]
  rfl

theorem attemptsIn_append (xs ys : List ProcessorEvent) :
    attemptsIn (xs ++ ys) = attemptsIn xs ++ attemptsIn ys := List.filterMap_append

/-- How the publishing of a response goes: so many failures, and then a success or not yet. -/
structure Delivery where
  failures : Nat := 0
  published : Bool := false

namespace Delivery

def outcomes (d : Delivery) : List Bool :=
  List.replicate d.failures false ++ if d.published then [true] else []

def failed (d : Delivery) : Delivery := { d with failures := d.failures + 1 }

def succeeded (d : Delivery) : Delivery := { d with published := true }

theorem outcomes_failed {d : Delivery} (h : d.published = false) :
    d.failed.outcomes = d.outcomes ++ [false] := by
  rw [outcomes, outcomes, failed, h, List.replicate_succ', if_neg Bool.noConfusion,
    List.append_nil, List.append_nil]

theorem outcomes_succeeded {d : Delivery} (h : d.published = false) :
    d.succeeded.outcomes = d.outcomes ++ [true] := by
  rw [outcomes, outcomes, succeeded, h, if_pos rfl, if_neg Bool.noConfusion, List.append_nil]

theorem count_false (d : Delivery) : d.outcomes.count false = d.failures := by
  rw [outcomes, List.count_append, List.count_replicate_self]
  cases d.published <;> rfl

theorem count_true (d : Delivery) : d.outcomes.count true = d.published.toNat := by
  rw [outcomes, List.count_append, List.count_replicate, if_neg (by decide), Nat.zero_add]
  cases d.published <;> rfl

/-- The stages of a delivery, under the names they have for its response. -/
def stages (failed published : CommandDiagnosticStage) (d : Delivery) :
    List CommandDiagnosticStage :=
  List.replicate d.failures failed ++ if d.published then [published] else []

theorem count_stages_failed {failed published : CommandDiagnosticStage} (h : failed ≠ published)
    (d : Delivery) : (d.stages failed published).count failed = d.failures := by
  rw [stages, List.count_append, List.count_replicate_self]
  cases d.published with
  | false => rfl
  | true => rw [if_pos rfl, List.count_singleton, if_neg (mt beq_iff_eq.mp h.symm), Nat.add_zero]

theorem count_stages_published {failed published : CommandDiagnosticStage}
    (h : failed ≠ published) (d : Delivery) :
    (d.stages failed published).count published = d.published.toNat := by
  rw [stages, List.count_append, List.count_replicate, if_neg (mt beq_iff_eq.mp h), Nat.zero_add]
  cases d.published with
  | false => rfl
  | true => exact List.count_singleton_self

theorem count_stages_of_ne {failed published stage : CommandDiagnosticStage}
    (hfailed : failed ≠ stage) (hpublished : published ≠ stage) (d : Delivery) :
    (d.stages failed published).count stage = 0 := by
  rw [stages, List.count_append, List.count_replicate, if_neg (mt beq_iff_eq.mp hfailed),
    Nat.zero_add]
  cases d.published with
  | false => rfl
  | true => rw [if_pos rfl, List.count_singleton, if_neg (mt beq_iff_eq.mp hpublished)]

/-- Part of the way of a terminal response is the beginning of a whole one. -/
theorem stages_begins (last : Delivery) :
    last.stages .terminalPublishFailed .terminalPublished <+: terminalWord last.failures := by
  rw [stages, terminalWord, List.prefix_append_right_inj]
  cases last.published with
  | false => exact List.nil_prefix
  | true => exact List.prefix_rfl

end Delivery

namespace PendingResponse

/-- Attempts to publish the entry, each with its diagnostic. -/
def reportedAttempts (entry : PendingResponse) (outcomes : List Bool) : List ProcessorEvent :=
  outcomes.flatMap fun ok => [.published entry.message ok, .diagnosed (entry.drained ok)]

theorem attemptsIn_reported (entry : PendingResponse) (outcomes : List Bool) :
    attemptsIn (entry.reportedAttempts outcomes) = outcomes.map fun ok => (entry.message, ok) := by
  induction outcomes with
  | nil => rfl
  | cons ok outcomes ih =>
    rw [reportedAttempts, List.flatMap_cons, attemptsIn, List.filterMap_append]
    exact congrArg ((entry.message, ok) :: ·) ih

theorem stagesIn_reported (entry : PendingResponse) (d : Delivery) :
    stagesIn (entry.reportedAttempts d.outcomes) =
      List.replicate d.failures (entry.drained false).stage ++
        if d.published then [(entry.drained true).stage] else [] := by
  have hall (outcomes : List Bool) : stagesIn (entry.reportedAttempts outcomes) =
      outcomes.map fun ok => (entry.drained ok).stage := by
    induction outcomes with
    | nil => rfl
    | cons ok outcomes ih =>
      rw [reportedAttempts, List.flatMap_cons, stagesIn, List.filterMap_append, List.map_append]
      exact congrArg ((entry.drained ok).stage :: ·) ih
  rw [hall, Delivery.outcomes, List.map_append, List.map_replicate]
  cases d.published <;> rfl

theorem diagnosed_reported {entry : PendingResponse} {outcomes : List Bool}
    (h : .diagnosed diagnostic ∈ entry.reportedAttempts outcomes) :
    ∃ ok, diagnostic = entry.drained ok := by
  obtain ⟨ok, _, hmem⟩ := List.mem_flatMap.mp h
  rcases List.mem_cons.mp hmem with hpublished | hdiagnosed
  · cases hpublished
  · cases List.mem_singleton.mp hdiagnosed
    exact ⟨ok, rfl⟩

theorem drained_published (entry : PendingResponse) (ok : Bool) :
    ok = true ↔ (entry.drained ok).stage ∈ [.acceptedPublished, .terminalPublished] := by
  rw [drained]
  dsimp only
  generalize entry.isTerminal = isTerminal
  revert ok isTerminal
  decide

theorem drained_terminal (entry : PendingResponse) (ok : Bool) :
    (entry.drained ok).stage ∈ terminalStages ↔ entry.isTerminal = true := by
  rw [drained]
  dsimp only
  generalize entry.isTerminal = isTerminal
  revert ok isTerminal
  decide

theorem drained_not_aside (entry : PendingResponse) (ok : Bool) :
    (entry.drained ok).stage ∉ asideStages := by
  rw [drained]
  dsimp only
  generalize entry.isTerminal = isTerminal
  revert ok isTerminal
  decide

end PendingResponse

namespace ReportsAttempts

variable [ArduinoJson] {topics : MqttTopics} {seq : UInt32} {responses : CommandResponses}

theorem nil : ReportsAttempts topics seq responses [] := by
  intro before diagnostic after htrace _
  exact absurd htrace.symm (List.append_ne_nil_of_right_ne_nil _ (List.cons_ne_nil _ _))

theorem append {xs ys : List ProcessorEvent} (h : ReportsAttempts topics seq responses xs)
    (h' : ReportsAttempts topics seq responses ys) :
    ReportsAttempts topics seq responses (xs ++ ys) := by
  intro before diagnostic after htrace hstage
  rcases append_eq_append_cons htrace with ⟨rest, hxs, _⟩ | ⟨between, rfl, hys⟩
  · exact h before diagnostic rest hxs hstage
  · obtain ⟨earlier, message, ok, rfl, hrest⟩ := h' between diagnostic after hys hstage
    exact ⟨xs ++ earlier, message, ok, (List.append_assoc _ _ _).symm, hrest⟩

theorem attempt {diagnostic : CommandDiagnostic} {message : MqttMessage} {ok : Bool}
    (hok : ok = true ↔ diagnostic.stage ∈ [.acceptedPublished, .terminalPublished])
    (hmessage : AboutMessage topics seq responses diagnostic.stage message) :
    ReportsAttempts topics seq responses [.published message ok, .diagnosed diagnostic] := by
  intro before other after htrace _
  cases before with
  | nil => cases htrace
  | cons first before =>
    cases before with
    | nil =>
      cases htrace
      exact ⟨[], message, ok, rfl, hok, hmessage⟩
    | cons second before =>
      rw [List.cons_append, List.cons_append, List.cons.injEq, List.cons.injEq] at htrace
      exact absurd htrace.2.2.symm (List.append_ne_nil_of_right_ne_nil _ (List.cons_ne_nil _ _))

theorem aside {diagnostic : CommandDiagnostic} (hstage : diagnostic.stage ∈ asideStages) :
    ReportsAttempts topics seq responses [.diagnosed diagnostic] := by
  intro before other after htrace hother
  cases before with
  | nil =>
    cases htrace
    exact absurd hstage hother
  | cons first before =>
    rw [List.cons_append, List.cons.injEq] at htrace
    exact absurd htrace.2.symm (List.append_ne_nil_of_right_ne_nil _ (List.cons_ne_nil _ _))

theorem reported {entry : PendingResponse}
    (hentry : ∀ ok, AboutMessage topics seq responses (entry.drained ok).stage entry.message)
    (outcomes : List Bool) :
    ReportsAttempts topics seq responses (entry.reportedAttempts outcomes) := by
  induction outcomes with
  | nil => exact nil
  | cons ok outcomes ih => exact append (attempt (entry.drained_published ok) (hentry ok)) ih

end ReportsAttempts

namespace RemoteCommandProcessor

/-- The first attempt at an `ACCEPTED` response, with the terminal one set aside. -/
def acceptedAttempt (accepted terminal : PendingResponse) (first : Bool) : List ProcessorEvent :=
  [.published accepted.message first, .diagnosed (firstAttempt accepted.commandSeq first),
    .diagnosed (setAside terminal first)]

/-- What was published and reported about a command's responses, and which still wait. -/
inductive ResponseTrace [ArduinoJson] (topics : MqttTopics) (seq : UInt32)
    (responses : CommandResponses) : List ProcessorEvent → List PendingResponse → Prop where
  | acceptedWaits (response : CommandResponse) (owed : responses.accepted = some response)
      (failures : Nat) :
      ResponseTrace topics seq responses
        (acceptedAttempt (.accepted topics response seq) (.terminal topics responses.terminal seq)
          false ++ (PendingResponse.accepted topics response seq).reportedAttempts
            (Delivery.mk failures false).outcomes)
        [.accepted topics response seq, .terminal topics responses.terminal seq]
  | acceptedPublished (response : CommandResponse) (owed : responses.accepted = some response)
      (first : Bool) (retries : Delivery) (published : retries.published = !first)
      (once : first = true → retries.failures = 0) (last : Delivery) :
      ResponseTrace topics seq responses
        (acceptedAttempt (.accepted topics response seq) (.terminal topics responses.terminal seq)
            first ++ (PendingResponse.accepted topics response seq).reportedAttempts
              retries.outcomes ++
          (PendingResponse.terminal topics responses.terminal seq).reportedAttempts last.outcomes)
        (if last.published then [] else [.terminal topics responses.terminal seq])
  | terminalOnly (owed : responses.accepted = none) (last : Delivery) :
      ResponseTrace topics seq responses
        ((PendingResponse.terminal topics responses.terminal seq).reportedAttempts last.outcomes)
        (if last.published then [] else [.terminal topics responses.terminal seq])

theorem reportedAttempts_concat (entry : PendingResponse) (outcomes : List Bool) (ok : Bool) :
    entry.reportedAttempts (outcomes ++ [ok]) = entry.reportedAttempts outcomes ++
      [.published entry.message ok, .diagnosed (entry.drained ok)] := by
  rw [PendingResponse.reportedAttempts, List.flatMap_append, List.flatMap_singleton]
  rfl

theorem reportedAttempts_last {last : Delivery} (hwaits : last.published = false)
    (entry : PendingResponse) (ok : Bool) : ∃ next : Delivery,
      next.published = ok ∧ entry.reportedAttempts next.outcomes =
        entry.reportedAttempts last.outcomes ++
          [.published entry.message ok, .diagnosed (entry.drained ok)] := by
  cases ok with
  | false =>
    refine ⟨last.failed, hwaits, ?_⟩
    rw [Delivery.outcomes_failed hwaits, reportedAttempts_concat]
  | true =>
    refine ⟨last.succeeded, rfl, ?_⟩
    rw [Delivery.outcomes_succeeded hwaits, reportedAttempts_concat]

theorem waits_of_cons {last : Delivery}
    (h : front :: rest = if last.published then [] else [entry]) :
    last.published = false ∧ front = entry ∧ rest = [] := by
  cases hlast : last.published with
  | true =>
    rw [hlast] at h
    cases h
  | false =>
    rw [hlast] at h
    cases h
    exact ⟨rfl, rfl, rfl⟩

theorem ResponseTrace.drained [ArduinoJson] {topics : MqttTopics} {responses : CommandResponses}
    (h : ResponseTrace topics seq responses trace (front :: rest)) (ok : Bool) :
    ResponseTrace topics seq responses
      (trace ++ [.published front.message ok, .diagnosed (front.drained ok)])
      (if ok then rest else front :: rest) := by
  generalize hwaiting : front :: rest = waiting at h
  cases h with
  | acceptedWaits response owed failures =>
    cases hwaiting
    rw [List.append_assoc, ← reportedAttempts_concat]
    cases ok with
    | false =>
      rw [← Delivery.outcomes_failed rfl]
      exact .acceptedWaits response owed (failures + 1)
    | true =>
      rw [← Delivery.outcomes_succeeded rfl]
      have hnone : (PendingResponse.terminal topics responses.terminal seq).reportedAttempts
          (Delivery.outcomes {}) = [] := rfl
      have h : ResponseTrace topics seq responses _ _ := .acceptedPublished response owed false
        (Delivery.mk failures false).succeeded rfl Bool.noConfusion {}
      rw [hnone, List.append_nil] at h
      exact h
  | acceptedPublished response owed first retries published once last =>
    obtain ⟨hwaits, rfl, rfl⟩ := waits_of_cons hwaiting
    obtain ⟨next, rfl, hnext⟩ := reportedAttempts_last hwaits
      (PendingResponse.terminal topics responses.terminal seq) ok
    rw [List.append_assoc, ← hnext, hwaits]
    exact .acceptedPublished response owed first retries published once next
  | terminalOnly owed last =>
    obtain ⟨hwaits, rfl, rfl⟩ := waits_of_cons hwaiting
    obtain ⟨next, rfl, hnext⟩ := reportedAttempts_last hwaits
      (PendingResponse.terminal topics responses.terminal seq) ok
    rw [← hnext, hwaits]
    exact .terminalOnly owed next

/-- The trace of a command that is accepted. -/
def answeredTrace (accepted terminal : PendingResponse) (first : Bool) (retries last : Delivery) :
    List ProcessorEvent :=
  acceptedAttempt accepted terminal first ++ accepted.reportedAttempts retries.outcomes ++
    terminal.reportedAttempts last.outcomes

/-- No response is retried once published, and the terminal one comes last. -/
structure InOrder (first : Bool) (retries last : Delivery) : Prop where
  atOnce : first = true → retries = {}
  inOrder : first = false → retries.published = false → last = {}

section Truth

variable [ArduinoJson] {topics : MqttTopics} {seq : UInt32} {responses : CommandResponses}

theorem ResponseTrace.accepted {topics : MqttTopics} {responses : CommandResponses}
    (owed : responses.accepted = some response) (seq : UInt32) (ok : Bool) :
    ResponseTrace topics seq responses
      (acceptedAttempt (.accepted topics response seq) (.terminal topics responses.terminal seq) ok)
      ((if ok then [] else [.accepted topics response seq]) ++
        [.terminal topics responses.terminal seq]) := by
  cases ok with
  | false => exact .acceptedWaits response owed 0
  | true => exact .acceptedPublished response owed true {} rfl (fun _ => rfl) {}

theorem ResponseTrace.terminal {topics : MqttTopics} {responses : CommandResponses}
    (owed : responses.accepted = none) (seq : UInt32) (ok : Bool) :
    ResponseTrace topics seq responses
      [.published (PendingResponse.terminal topics responses.terminal seq).message ok,
        .diagnosed ((PendingResponse.terminal topics responses.terminal seq).drained ok)]
      (if ok then [] else [.terminal topics responses.terminal seq]) := by
  cases ok with
  | false => exact .terminalOnly owed (Delivery.mk 1 false)
  | true => exact .terminalOnly owed (Delivery.mk 0 true)

theorem stagesIn_accepted (response : CommandResponse) (d : Delivery) :
    stagesIn ((PendingResponse.accepted topics response seq).reportedAttempts d.outcomes) =
      d.stages .acceptedPublishFailed .acceptedPublished :=
  PendingResponse.stagesIn_reported _ d

theorem stagesIn_terminal (response : CommandResponse) (d : Delivery) :
    stagesIn ((PendingResponse.terminal topics response seq).reportedAttempts d.outcomes) =
      d.stages .terminalPublishFailed .terminalPublished :=
  PendingResponse.stagesIn_reported _ d

theorem stagesIn_answered (response : CommandResponse) (first : Bool) (retries last : Delivery) :
    stagesIn (answeredTrace (.accepted topics response seq)
        (.terminal topics responses.terminal seq) first retries last) =
      (if first then [.acceptedPublished, .terminalDeferred]
        else [.acceptedPending, .terminalQueuedBehindAccepted]) ++
      (retries.stages .acceptedPublishFailed .acceptedPublished ++
        last.stages .terminalPublishFailed .terminalPublished) := by
  rw [answeredTrace, stagesIn_append, stagesIn_append, stagesIn_accepted, stagesIn_terminal,
    List.append_assoc]
  cases first <;> rfl

theorem count_answered (response : CommandResponse) (first : Bool) (retries last : Delivery)
    (stage : CommandDiagnosticStage) :
    (stagesIn (answeredTrace (.accepted topics response seq)
        (.terminal topics responses.terminal seq) first retries last)).count stage =
      (if first then [.acceptedPublished, .terminalDeferred]
        else [.acceptedPending, .terminalQueuedBehindAccepted]).count stage +
      ((retries.stages .acceptedPublishFailed .acceptedPublished).count stage +
        (last.stages .terminalPublishFailed .terminalPublished).count stage) := by
  rw [stagesIn_answered, List.count_append, List.count_append]

theorem aboutMessage_accepted (owed : responses.accepted = some response) (ok : Bool) :
    AboutMessage topics seq responses
      ((PendingResponse.accepted topics response seq).drained ok).stage
      (PendingResponse.accepted topics response seq).message := by
  rw [AboutMessage, if_neg fun h => Bool.noConfusion ((PendingResponse.drained_terminal _ ok).mp h)]
  exact ⟨response, owed, rfl⟩

theorem aboutMessage_terminal (ok : Bool) : AboutMessage topics seq responses
    ((PendingResponse.terminal topics responses.terminal seq).drained ok).stage
    (PendingResponse.terminal topics responses.terminal seq).message := by
  rw [AboutMessage, if_pos ((PendingResponse.drained_terminal _ ok).mpr rfl)]

theorem InOrder.word (h : InOrder first retries last) (response : CommandResponse) :
    ∃ word, CommandWord word ∧ stagesIn (answeredTrace (.accepted topics response seq)
      (.terminal topics responses.terminal seq) first retries last) <+: word := by
  rw [stagesIn_answered]
  cases first with
  | true =>
    refine ⟨_, .acceptedAtOnce last.failures, ?_⟩
    rw [h.atOnce rfl, if_pos rfl, List.prefix_append_right_inj]
    exact last.stages_begins
  | false =>
    refine ⟨_, .acceptedLater retries.failures last.failures, ?_⟩
    rw [if_neg Bool.noConfusion, List.append_assoc, List.prefix_append_right_inj, Delivery.stages,
      List.append_assoc, List.append_assoc, List.prefix_append_right_inj]
    cases hpublished : retries.published with
    | true =>
      rw [if_pos rfl, List.prefix_append_right_inj]
      exact last.stages_begins
    | false =>
      rw [h.inOrder rfl hpublished, if_neg Bool.noConfusion]
      exact List.nil_prefix

theorem InOrder.counted (h : InOrder first retries last)
    (owed : responses.accepted = some response) :
    CountedAttempts topics seq responses (answeredTrace (.accepted topics response seq)
        (.terminal topics responses.terminal seq) first retries last)
      (first :: retries.outcomes) last.outcomes where
  attempts := by
    rw [owed, Option.toList_some, List.flatMap_singleton, answeredTrace, attemptsIn_append,
      attemptsIn_append, PendingResponse.attemptsIn_reported, PendingResponse.attemptsIn_reported]
    rfl
  unaccepted hnone := by
    rw [owed] at hnone
    cases hnone
  acceptedPending := by
    rw [count_answered, Delivery.count_stages_of_ne (by decide) (by decide),
      Delivery.count_stages_of_ne (by decide) (by decide)]
    cases first <;> rfl
  acceptedPublishFailed := by
    rw [count_answered, Delivery.count_stages_failed (by decide),
      Delivery.count_stages_of_ne (by decide) (by decide), List.drop_one, List.tail_cons,
      Delivery.count_false]
    cases first <;> exact Nat.zero_add _
  terminalPublishFailed := by
    rw [count_answered, Delivery.count_stages_of_ne (by decide) (by decide),
      Delivery.count_stages_failed (by decide), Delivery.count_false, Nat.zero_add]
    cases first <;> exact Nat.zero_add _
  acceptedPublished := by
    rw [count_answered, Delivery.count_stages_published (by decide),
      Delivery.count_stages_of_ne (by decide) (by decide), List.count_cons, Delivery.count_true]
    cases first <;> exact Nat.add_comm _ _
  terminalPublished := by
    rw [count_answered, Delivery.count_stages_of_ne (by decide) (by decide),
      Delivery.count_stages_published (by decide), Delivery.count_true, Nat.zero_add]
    cases first <;> exact Nat.zero_add _
  acceptedOnce := by
    rw [List.count_cons, Delivery.count_true]
    cases first with
    | true =>
      rw [h.atOnce rfl]
      exact Nat.le_refl 1
    | false => exact Bool.toNat_le _
  terminalOnce := by
    rw [Delivery.count_true]
    exact Bool.toNat_le _

theorem InOrder.reported (owed : responses.accepted = some response) (first : Bool)
    (retries last : Delivery) :
    ReportsAttempts topics seq responses (answeredTrace (.accepted topics response seq)
      (.terminal topics responses.terminal seq) first retries last) := by
  have hfirst : ReportsAttempts topics seq responses
      [.published (PendingResponse.accepted topics response seq).message first,
        .diagnosed (firstAttempt seq first)] := by
    refine .attempt ?_ ?_
    · cases first <;> simp [firstAttempt]
    · cases first <;> exact ⟨response, owed, rfl⟩
  have haside : ReportsAttempts topics seq responses
      [.diagnosed (setAside (.terminal topics responses.terminal seq) first)] := by
    refine .aside ?_
    cases first <;> simp [setAside, asideStages]
  exact ((hfirst.append haside).append (.reported (aboutMessage_accepted owed) _)).append
    (.reported aboutMessage_terminal _)

theorem InOrder.aside (owed : responses.accepted = some response) (first : Bool)
    (retries last : Delivery) {before after : List ProcessorEvent}
    (htrace : answeredTrace (.accepted topics response seq)
      (.terminal topics responses.terminal seq) first retries last =
        before ++ .diagnosed diagnostic :: after) (hstage : diagnostic.stage ∈ asideStages) :
    ∃ response ok, responses.accepted = some response ∧
      attemptsIn before = [((PendingResponse.accepted topics response seq).message, ok)] := by
  have hlater : .diagnosed diagnostic ∉
      (PendingResponse.accepted topics response seq).reportedAttempts retries.outcomes ++
        (PendingResponse.terminal topics responses.terminal seq).reportedAttempts
          last.outcomes := by
    rw [List.mem_append]
    intro hmem
    rcases hmem with hmem | hmem
    · obtain ⟨ok, rfl⟩ := PendingResponse.diagnosed_reported hmem
      exact PendingResponse.drained_not_aside _ ok hstage
    · obtain ⟨ok, rfl⟩ := PendingResponse.diagnosed_reported hmem
      exact PendingResponse.drained_not_aside _ ok hstage
  have hfirst : (firstAttempt seq first).stage ∉ asideStages := by
    cases first <;> simp [firstAttempt, asideStages]
  rw [answeredTrace, List.append_assoc] at htrace
  rcases append_eq_append_cons htrace with ⟨rest, hattempt, _⟩ | ⟨_, _, hrest⟩
  · refine ⟨response, first, owed, ?_⟩
    rcases before with _ | ⟨published, _ | ⟨reported, _ | ⟨_, _⟩⟩⟩
    · cases hattempt
    · cases hattempt
      exact absurd hstage hfirst
    · cases hattempt
      rfl
    · have hlength := congrArg List.length hattempt
      simp [acceptedAttempt] at hlength
  · exact absurd (hrest ▸ List.mem_append_right _ List.mem_cons_self) hlater

theorem answered_diagnosed (response : CommandResponse) (first : Bool) (retries last : Delivery)
    (h : .diagnosed diagnostic ∈ answeredTrace (.accepted topics response seq)
      (.terminal topics responses.terminal seq) first retries last) :
    diagnostic.commandSeq = seq ∧ (diagnostic.stage ∈ terminalStages →
      diagnostic.safeCode = some (terminalCode responses.terminal)) := by
  rw [answeredTrace, List.mem_append, List.mem_append] at h
  rcases h with (hfirst | haccepted) | hterminal
  · rw [acceptedAttempt, List.mem_cons, List.mem_cons, List.mem_singleton] at hfirst
    rcases hfirst with hpublished | hfirst | haside
    · cases hpublished
    · cases hfirst
      refine ⟨rfl, fun h => ?_⟩
      cases first <;> simp [firstAttempt, terminalStages] at h
    · cases haside
      exact ⟨rfl, fun _ => rfl⟩
  · obtain ⟨ok, rfl⟩ := PendingResponse.diagnosed_reported haccepted
    exact ⟨rfl, fun h => Bool.noConfusion ((PendingResponse.drained_terminal _ ok).mp h)⟩
  · obtain ⟨ok, rfl⟩ := PendingResponse.diagnosed_reported hterminal
    exact ⟨rfl, fun _ => rfl⟩

theorem InOrder.truthful (h : InOrder first retries last)
    (owed : responses.accepted = some response) :
    TruthfulStages topics seq responses (answeredTrace (.accepted topics response seq)
      (.terminal topics responses.terminal seq) first retries last) where
  word := h.word response
  counted := ⟨_, _, h.counted owed⟩
  reported := InOrder.reported owed first retries last
  aside _ _ _ htrace hstage := InOrder.aside owed first retries last htrace hstage
  safeCode _ hmem := (answered_diagnosed response first retries last hmem).2

theorem terminalOnly_truthful (owed : responses.accepted = none) (last : Delivery) :
    TruthfulStages topics seq responses
      ((PendingResponse.terminal topics responses.terminal seq).reportedAttempts
        last.outcomes) where
  word := ⟨_, .terminalOnly last.failures, by
    rw [stagesIn_terminal]
    exact last.stages_begins⟩
  counted := by
    refine ⟨[], last.outcomes, ?_, fun _ => rfl, ?_, ?_, ?_, ?_, ?_, Nat.zero_le 1, ?_⟩
    · rw [owed, PendingResponse.attemptsIn_reported]
      rfl
    · rw [stagesIn_terminal, Delivery.count_stages_of_ne (by decide) (by decide)]
      rfl
    · rw [stagesIn_terminal, Delivery.count_stages_of_ne (by decide) (by decide)]
      rfl
    · rw [stagesIn_terminal, Delivery.count_stages_failed (by decide), Delivery.count_false]
    · rw [stagesIn_terminal, Delivery.count_stages_of_ne (by decide) (by decide)]
      rfl
    · rw [stagesIn_terminal, Delivery.count_stages_published (by decide), Delivery.count_true]
    · rw [Delivery.count_true]
      exact Bool.toNat_le _
  reported := .reported aboutMessage_terminal _
  aside before diagnostic after htrace hstage := by
    have hmem : .diagnosed diagnostic ∈
        (PendingResponse.terminal topics responses.terminal seq).reportedAttempts
          last.outcomes := htrace ▸ List.mem_append_right _ List.mem_cons_self
    obtain ⟨ok, rfl⟩ := PendingResponse.diagnosed_reported hmem
    exact absurd hstage (PendingResponse.drained_not_aside _ ok)
  safeCode diagnostic hmem _ := by
    obtain ⟨ok, rfl⟩ := PendingResponse.diagnosed_reported hmem
    rfl

theorem ResponseTrace.inOrder (h : ResponseTrace topics seq responses trace waiting) :
    (∃ response first retries last, responses.accepted = some response ∧
      InOrder first retries last ∧ trace = answeredTrace (.accepted topics response seq)
        (.terminal topics responses.terminal seq) first retries last) ∨
    (responses.accepted = none ∧ ∃ last : Delivery, trace =
      (PendingResponse.terminal topics responses.terminal seq).reportedAttempts last.outcomes) := by
  cases h with
  | acceptedWaits response owed failures =>
    exact .inl ⟨response, false, ⟨failures, false⟩, {}, owed,
      ⟨Bool.noConfusion, fun _ _ => rfl⟩, (List.append_nil _).symm⟩
  | acceptedPublished response owed first retries published once last =>
    refine .inl ⟨response, first, retries, last, owed, ⟨?_, ?_⟩, rfl⟩
    · intro hfirst
      rcases retries with ⟨failures, done⟩
      have hfailures : failures = 0 := once hfirst
      have hdone : done = false := by rw [show done = !first from published, hfirst, Bool.not_true]
      rw [hfailures, hdone]
    · intro hfirst hwaits
      rw [hwaits, hfirst] at published
      cases published
  | terminalOnly owed last => exact .inr ⟨owed, last, rfl⟩

theorem ResponseTrace.truthful (h : ResponseTrace topics seq responses trace waiting) :
    TruthfulStages topics seq responses trace ∧
      ∀ diagnostic, .diagnosed diagnostic ∈ trace → diagnostic.commandSeq = seq := by
  rcases h.inOrder with ⟨response, first, retries, last, howed, horder, rfl⟩ | ⟨howed, last, rfl⟩
  · exact ⟨horder.truthful howed, fun diagnostic hmem =>
      (answered_diagnosed response first retries last hmem).1⟩
  · refine ⟨terminalOnly_truthful howed last, ?_⟩
    intro diagnostic hmem
    obtain ⟨ok, rfl⟩ := PendingResponse.diagnosed_reported hmem
    rfl

end Truth

end RemoteCommandProcessor

end InterBridge
