import InterBridge.Aws.Jobs
import InterBridge.Foundations.Transitions
import Mathlib.Data.List.Forall2

namespace InterBridge
open Foundations
set_option autoImplicit true

def JobsCall.isInstall : JobsCall → Bool
  | .installAndReboot _ => true
  | _ => false

def JobsCall.statusUpdate? : JobsCall → Option (Bytes × JobStatus × Bytes)
  | .updateJobStatus jobId status details => some (jobId, status, details)
  | _ => none

/-- The reason that the call gives for giving up. -/
def JobsCall.failure? : JobsCall → Option OtaResult
  | .downloadAndHash _ none => some .downloadFailed
  | .verifySha256 _ _ false => some .hashMismatch
  | .verifySignature _ _ false => some .signatureInvalid
  | .installAndReboot false => some .installFailed
  | .confirmBootOrRollback false => some .bootValidationFailed
  | _ => none

/-- The first of a job's steps that failed. -/
def firstFailure (currentVersion : Bytes) (job : JobDocument) (calls : List JobsCall) :
    Option OtaResult :=
  if isNewerVersion job.version currentVersion then calls.findSome? JobsCall.failure?
  else some .versionRejected

/-- How a job is reported in the end. -/
def terminalReport (jobId : Bytes) : Option OtaResult → Bytes × JobStatus × Bytes
  | none => (jobId, .succeeded, [])
  | some reason => (jobId, .failed, reason.toText)

/-- A job is installed only after every check, and reported from its start to its end. -/
structure JobExact (currentVersion : Bytes) (job : JobDocument) (poll : Poll) : Prop where
  verified : ∀ before ok after, poll.calls = before ++ .installAndReboot ok :: after →
    isNewerVersion job.version currentVersion = true ∧ ∃ earlier digest,
      before = earlier ++ [.downloadAndHash job.url (some digest),
        .verifySha256 digest job.sha256 true, .verifySignature digest [] true]
  once : poll.calls.countP JobsCall.isInstall ≤ 1
  reported : poll.calls.filterMap JobsCall.statusUpdate? =
    [(job.jobId, .inProgress, []),
      terminalReport job.jobId (firstFailure currentVersion job poll.calls)]
  succeeded : firstFailure currentVersion job poll.calls = none ↔
    .installAndReboot true ∈ poll.calls ∧ .confirmBootOrRollback true ∈ poll.calls
  returned : poll.result = some ((firstFailure currentVersion job poll.calls).getD .success)

structure PollExact (currentVersion : Bytes) (poll : Poll) : Prop where
  polled : ∃ pending after, poll.calls = .checkPendingJob pending :: after
  idle : .checkPendingJob none ∈ poll.calls → poll = ⟨none, [.checkPendingJob none]⟩
  job : ∀ job, .checkPendingJob (some job) ∈ poll.calls → JobExact currentVersion job poll

/-- Two letters are the same but for the case of an ASCII letter. -/
def SameLetter (x y : UInt8) : Prop :=
  x = y ∨ (65 ≤ x ∧ x ≤ 90 ∧ y = x + 32) ∨ (65 ≤ y ∧ y ≤ 90 ∧ x = y + 32)

/-- The default verifier compares the digests ignoring case, and lets nothing be installed. -/
structure DefaultVerified (poll : Poll) : Prop where
  neverInstalled : ∀ ok, .installAndReboot ok ∉ poll.calls
  hash : ∀ computed expected ok, .verifySha256 computed expected ok ∈ poll.calls →
    (ok = true ↔ List.Forall₂ SameLetter computed expected)

theorem lowerByte_eq_iff (x y : UInt8) : DefaultFirmwareVerifier.lowerByte x =
    DefaultFirmwareVerifier.lowerByte y ↔ SameLetter x y := by
  simp only [DefaultFirmwareVerifier.lowerByte, SameLetter]
  split_ifs
  all_goals
    simp only [UInt8.le_iff_toNat_le, ← UInt8.toNat_inj, UInt8.toNat_add, UInt8.reduceToNat] at *
  all_goals omega

theorem toLower_eq_iff (computed expected : Bytes) : DefaultFirmwareVerifier.toLower computed =
    DefaultFirmwareVerifier.toLower expected ↔ List.Forall₂ SameLetter computed expected := by
  rw [DefaultFirmwareVerifier.toLower, DefaultFirmwareVerifier.toLower, ← List.forall₂_eq_eq_eq,
    List.forall₂_map_left_iff, List.forall₂_map_right_iff]
  simp only [lowerByte_eq_iff]

theorem DefaultFirmwareVerifier.answersSha256 {σ : Type}
    (h : (DefaultFirmwareVerifier σ).AnswersSha256 computed expected ok) :
    ok = true ↔ List.Forall₂ SameLetter computed expected := by
  obtain ⟨outside, hanswer⟩ := h
  rw [← hanswer, ← toLower_eq_iff]
  exact decide_eq_true_iff

theorem DefaultFirmwareVerifier.not_answersSignature {σ : Type} :
    ¬ (DefaultFirmwareVerifier σ).AnswersSignature digest signature true := by
  intro h
  obtain ⟨outside, hanswer⟩ := h
  exact Bool.false_ne_true hanswer

namespace ApplyCalls

theorem checks_none (h : ApplyCalls o targetVersion url expectedSha256 made result)
    (pending : Option JobDocument) : .checkPendingJob pending ∉ made := by
  cases h with
  | _ => simp

theorem reports_none (h : ApplyCalls o targetVersion url expectedSha256 made result) :
    made.filterMap JobsCall.statusUpdate? = [] := by
  cases h with
  | _ => rfl

theorem installs_once (h : ApplyCalls o targetVersion url expectedSha256 made result) :
    made.countP JobsCall.isInstall ≤ 1 := by
  cases h with
  | installFailed => exact Nat.le_refl 1
  | installed => exact Nat.le_refl 1
  | _ => exact Nat.zero_le 1

theorem verified (h : ApplyCalls o targetVersion url expectedSha256 made result)
    (hmade : made = before ++ .installAndReboot ok :: after) :
    isNewerVersion targetVersion o.currentVersion = true ∧ ∃ digest,
      before = [.downloadAndHash url (some digest), .verifySha256 digest expectedSha256 true,
        .verifySignature digest [] true] := by
  cases h with
  | installFailed newer digest =>
    simp [List.cons_eq_append_iff] at hmade
    exact ⟨newer, digest, hmade.1⟩
  | installed newer digest =>
    simp [List.cons_eq_append_iff] at hmade
    exact ⟨newer, digest, hmade.1⟩
  | _ => simp [List.cons_eq_append_iff] at hmade

theorem firstFailure_eq {job : JobDocument}
    (h : ApplyCalls o job.version job.url job.sha256 made result) :
    firstFailure o.currentVersion job made = if result = .success then none else some result := by
  rw [firstFailure]
  cases h with
  | versionRejected older => rw [older, if_neg Bool.false_ne_true, if_neg OtaResult.noConfusion]
  | downloadFailed newer => rw [if_pos newer, if_neg OtaResult.noConfusion]; rfl
  | hashMismatch newer => rw [if_pos newer, if_neg OtaResult.noConfusion]; rfl
  | signatureInvalid newer => rw [if_pos newer, if_neg OtaResult.noConfusion]; rfl
  | installFailed newer => rw [if_pos newer, if_neg OtaResult.noConfusion]; rfl
  | installed newer _ _ _ confirmed =>
    rw [if_pos newer]
    cases confirmed with
    | false => rfl
    | true => rfl

theorem succeeded (h : ApplyCalls o targetVersion url expectedSha256 made result) :
    result = .success ↔ .installAndReboot true ∈ made ∧ .confirmBootOrRollback true ∈ made := by
  cases h with
  | installed _ _ _ _ confirmed =>
    cases confirmed with
    | false => simp
    | true => simp
  | _ => simp

/-- With the default verifier every job ends at its signature at the latest. -/
theorem defaultVerified {o : OtaCoordinator σ}
    (h : ApplyCalls o targetVersion url expectedSha256 made result)
    (hverifier : o.verifier = DefaultFirmwareVerifier σ) :
    (∀ ok, .installAndReboot ok ∉ made) ∧
      ∀ computed expected ok, .verifySha256 computed expected ok ∈ made →
        (ok = true ↔ List.Forall₂ SameLetter computed expected) := by
  cases h with
  | versionRejected => simp
  | downloadFailed => simp
  | hashMismatch newer digest sha =>
    rw [hverifier] at sha
    have hanswer := DefaultFirmwareVerifier.answersSha256 sha
    refine ⟨by simp, ?_⟩
    intro computed expected ok hmem
    simp only [List.mem_cons, List.not_mem_nil, or_false] at hmem
    rcases hmem with hmem | hmem
    · cases hmem
    · cases hmem
      exact hanswer
  | signatureInvalid newer digest sha =>
    rw [hverifier] at sha
    have hanswer := DefaultFirmwareVerifier.answersSha256 sha
    refine ⟨by simp, ?_⟩
    intro computed expected ok hmem
    simp only [List.mem_cons, List.not_mem_nil, or_false] at hmem
    rcases hmem with hmem | hmem | hmem
    · cases hmem
    · cases hmem
      exact hanswer
    · cases hmem
  | installFailed _ _ _ signature =>
    rw [hverifier] at signature
    exact absurd signature DefaultFirmwareVerifier.not_answersSignature
  | installed _ _ _ signature =>
    rw [hverifier] at signature
    exact absurd signature DefaultFirmwareVerifier.not_answersSignature

end ApplyCalls

namespace JobsCoordinator

theorem terminalUpdate_eq (jobId : Bytes) (result : OtaResult) :
    (terminalUpdate jobId result).statusUpdate? = some (terminalReport jobId
      (if result = .success then none else some result)) := by
  rw [terminalUpdate]
  by_cases hsuccess : result = .success
  · rw [if_pos hsuccess, if_pos hsuccess]
    rfl
  · rw [if_neg hsuccess, if_neg hsuccess]
    rfl

theorem terminalUpdate_cases (jobId : Bytes) (result : OtaResult) :
    ∃ status details, terminalUpdate jobId result = .updateJobStatus jobId status details := by
  rw [terminalUpdate]
  by_cases hsuccess : result = .success
  · rw [if_pos hsuccess]
    exact ⟨_, _, rfl⟩
  · rw [if_neg hsuccess]
    exact ⟨_, _, rfl⟩

/-- A processed job's calls, with an updating call at either end. -/
def processedCalls (job : JobDocument) (made : List JobsCall) (result : OtaResult) :
    List JobsCall :=
  .checkPendingJob (some job) :: .updateJobStatus job.jobId .inProgress [] ::
    (made ++ [terminalUpdate job.jobId result])

theorem mem_processedCalls {call : JobsCall} (hcheck : call ≠ .checkPendingJob (some job))
    (hupdate : ∀ jobId status details, call ≠ .updateJobStatus jobId status details) :
    call ∈ processedCalls job made result ↔ call ∈ made := by
  obtain ⟨status, details, hterminal⟩ := terminalUpdate_cases job.jobId result
  rw [processedCalls, hterminal, List.mem_cons, List.mem_cons, List.mem_append,
    List.mem_singleton, or_iff_right hcheck, or_iff_right (hupdate _ _ _),
    or_iff_left (hupdate _ _ _)]

theorem processedCalls_split
    (h : processedCalls job made result = before ++ .installAndReboot ok :: after) :
    ∃ before' after', before = .checkPendingJob (some job) ::
        .updateJobStatus job.jobId .inProgress [] :: before' ∧
      made = before' ++ .installAndReboot ok :: after' := by
  obtain ⟨status, details, hterminal⟩ := terminalUpdate_cases job.jobId result
  rw [processedCalls, hterminal, List.cons_eq_append_iff] at h
  rcases h with ⟨_, h⟩ | ⟨before, rfl, h⟩
  · cases h
  rw [List.cons_eq_append_iff] at h
  rcases h with ⟨_, h⟩ | ⟨before, rfl, h⟩
  · cases h
  rcases concat_eq_append_cons h with ⟨_, hlast, _⟩ | ⟨after', _, hmade⟩
  · cases hlast
  · exact ⟨before, after', rfl, hmade⟩

theorem firstFailure_processedCalls (currentVersion : Bytes) (result : OtaResult) :
    firstFailure currentVersion job (processedCalls job made result) =
      firstFailure currentVersion job made := by
  obtain ⟨status, details, hterminal⟩ := terminalUpdate_cases job.jobId result
  have hend : [JobsCall.updateJobStatus job.jobId status details].findSome? JobsCall.failure? =
      none := rfl
  have hfound : (processedCalls job made result).findSome? JobsCall.failure? =
      made.findSome? JobsCall.failure? := by
    rw [processedCalls, hterminal, List.findSome?_cons, List.findSome?_cons,
      List.findSome?_append, hend, Option.or_none]
    rfl
  rw [firstFailure, firstFailure, hfound]

theorem jobExact (job : JobDocument) (h : ApplyCalls o job.version job.url job.sha256 made result) :
    JobExact o.currentVersion job ⟨some result, processedCalls job made result⟩ := by
  have hfirst := (firstFailure_processedCalls o.currentVersion result).trans h.firstFailure_eq
  constructor
  · intro before ok after hcalls
    obtain ⟨before, after, rfl, hmade⟩ := processedCalls_split hcalls
    obtain ⟨hnewer, digest, hbefore⟩ := h.verified hmade
    refine ⟨hnewer, [.checkPendingJob (some job), .updateJobStatus job.jobId .inProgress []],
      digest, ?_⟩
    rw [hbefore]
    rfl
  · obtain ⟨status, details, hterminal⟩ := terminalUpdate_cases job.jobId result
    rw [processedCalls, hterminal, List.countP_cons, List.countP_cons, List.countP_append,
      List.countP_singleton]
    exact h.installs_once
  · rw [hfirst, processedCalls, List.filterMap_cons, List.filterMap_cons, List.filterMap_append,
      h.reports_none, List.filterMap_cons, terminalUpdate_eq]
    rfl
  · rw [hfirst, mem_processedCalls JobsCall.noConfusion fun _ _ _ => JobsCall.noConfusion,
      mem_processedCalls JobsCall.noConfusion fun _ _ _ => JobsCall.noConfusion, ← h.succeeded]
    by_cases hsuccess : result = .success
    · rw [if_pos hsuccess]
      exact iff_of_true rfl hsuccess
    · rw [if_neg hsuccess]
      exact iff_of_false (Option.some_ne_none result) hsuccess
  · rw [hfirst]
    by_cases hsuccess : result = .success
    · rw [if_pos hsuccess, hsuccess]
      rfl
    · rw [if_neg hsuccess]
      rfl

theorem checks_processedCalls (h : ApplyCalls o job.version job.url job.sha256 made result)
    (hmem : .checkPendingJob pending ∈ processedCalls job made result) : pending = some job := by
  obtain ⟨status, details, hterminal⟩ := terminalUpdate_cases job.jobId result
  rw [processedCalls, hterminal, List.mem_cons, List.mem_cons, List.mem_append,
    List.mem_singleton] at hmem
  rcases hmem with hmem | hmem | hmem | hmem
  · exact JobsCall.checkPendingJob.inj hmem
  · cases hmem
  · exact absurd hmem (h.checks_none pending)
  · cases hmem

theorem PollCalls.exact (h : PollCalls o poll) : PollExact o.currentVersion poll := by
  cases h with
  | idle =>
    constructor
    · exact ⟨none, [], rfl⟩
    · exact fun _ => rfl
    · intro job hmem
      cases List.mem_singleton.mp hmem
  | processed job made result applied =>
    constructor
    · exact ⟨some job, _, rfl⟩
    · intro hmem
      cases checks_processedCalls applied hmem
    · intro found hmem
      cases checks_processedCalls applied hmem
      exact jobExact job applied

theorem PollCalls.defaultVerified {o : OtaCoordinator σ} (h : PollCalls o poll)
    (hverifier : o.verifier = DefaultFirmwareVerifier σ) : DefaultVerified poll := by
  cases h with
  | idle =>
    constructor
    · simp
    · simp
  | processed job made result applied =>
    obtain ⟨hinstalls, hhash⟩ := applied.defaultVerified hverifier
    constructor
    · intro ok
      rw [← processedCalls, mem_processedCalls JobsCall.noConfusion
        fun _ _ _ => JobsCall.noConfusion]
      exact hinstalls ok
    · intro computed expected ok
      rw [← processedCalls, mem_processedCalls JobsCall.noConfusion
        fun _ _ _ => JobsCall.noConfusion]
      exact hhash computed expected ok

theorem polls_induction (j : JobsCoordinator σ) {motive : Poll → Prop}
    (hpoll : ∀ poll, PollCalls j.otaCoordinator poll → motive poll) (outside : σ)
    (changes : List (σ → σ)) : ∀ poll ∈ j.polls outside changes, motive poll := by
  induction changes generalizing outside with
  | nil => exact List.forall_mem_nil _
  | cons change changes ih =>
    obtain ⟨result, outside', calls, hprocess, hcalls⟩ := j.pollAndProcess_calls (change outside)
    rw [polls, hprocess, List.forall_mem_cons]
    exact ⟨hpoll _ hcalls, ih outside'⟩

/-- Over every run of polls, whatever the platform, the verifier and the job client do. -/
theorem jobsExact_run (jobsClient : IJobsClient σ) (platform : IOtaPlatform σ)
    (currentVersion : Bytes) (outside : σ) (changes : List (σ → σ)) :
    (∀ verifier, ∀ poll ∈ polls ⟨jobsClient, ⟨platform, verifier, currentVersion⟩⟩ outside changes,
      PollExact currentVersion poll) ∧
    ∀ poll ∈ polls ⟨jobsClient, ⟨platform, DefaultFirmwareVerifier σ, currentVersion⟩⟩ outside
      changes, DefaultVerified poll := by
  constructor
  · intro verifier
    apply polls_induction
    exact fun poll hpoll => hpoll.exact
  · apply polls_induction
    exact fun poll hpoll => hpoll.defaultVerified rfl

end JobsCoordinator

end InterBridge
