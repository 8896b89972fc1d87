import InterBridge.Ota.OtaManager

namespace InterBridge
open Foundations
set_option autoImplicit true

/-- The execution document of a pending job. -/
structure JobDocument where
  jobId : Bytes
  version : Bytes
  url : Bytes
  sha256 : Bytes
  deriving DecidableEq

inductive JobStatus where
  | inProgress | succeeded | failed | rejected
  deriving DecidableEq

structure IJobsClient (σ : Type) where
  checkPendingJob : StateM σ (Option JobDocument)
  updateJobStatus : Bytes → JobStatus → Bytes → StateM σ Unit

structure JobsCoordinator (σ : Type) where
  jobsClient : IJobsClient σ
  otaCoordinator : OtaCoordinator σ

def JobsCoordinator.pollAndProcess (j : JobsCoordinator σ) : StateM σ (Option OtaResult) := do
  let some job ← j.jobsClient.checkPendingJob | return none
  j.jobsClient.updateJobStatus job.jobId .inProgress []
  let result ← j.otaCoordinator.apply job.version job.url job.sha256
  if result = .success then j.jobsClient.updateJobStatus job.jobId .succeeded []
  else j.jobsClient.updateJobStatus job.jobId .failed result.toText
  return some result

/-- A call into one of the three interfaces, with what it returned. -/
inductive JobsCall where
  | checkPendingJob (job : Option JobDocument)
  | updateJobStatus (jobId : Bytes) (status : JobStatus) (statusDetails : Bytes)
  | downloadAndHash (url : Bytes) (digest : Option Bytes)
  | verifySha256 (computedHexDigest expectedHexDigest : Bytes) (ok : Bool)
  | verifySignature (firmwareDigestHex signature : Bytes) (ok : Bool)
  | installAndReboot (ok : Bool)
  | confirmBootOrRollback (ok : Bool)
  deriving DecidableEq

/-- The state of everything outside, with a record of the calls into it. -/
abbrev Recorded (σ : Type) := σ × List JobsCall

def recording (entry : α → JobsCall) (call : StateM σ α) : StateM (Recorded σ) α :=
  fun (outside, calls) =>
    let (answer, outside') := call outside
    (answer, outside', calls ++ [entry answer])

def IOtaPlatform.recorded (p : IOtaPlatform σ) : IOtaPlatform (Recorded σ) where
  downloadAndHash url := recording (.downloadAndHash url) (p.downloadAndHash url)
  installAndReboot := recording .installAndReboot p.installAndReboot
  confirmBootOrRollback := recording .confirmBootOrRollback p.confirmBootOrRollback

def IFirmwareVerifier.recorded (v : IFirmwareVerifier σ) : IFirmwareVerifier (Recorded σ) where
  verifySha256 computed expected :=
    recording (.verifySha256 computed expected) (v.verifySha256 computed expected)
  verifySignature digest signature :=
    recording (.verifySignature digest signature) (v.verifySignature digest signature)

def IJobsClient.recorded (c : IJobsClient σ) : IJobsClient (Recorded σ) where
  checkPendingJob := recording .checkPendingJob c.checkPendingJob
  updateJobStatus jobId status details :=
    recording (fun _ => .updateJobStatus jobId status details)
      (c.updateJobStatus jobId status details)

def OtaCoordinator.recorded (o : OtaCoordinator σ) : OtaCoordinator (Recorded σ) :=
  ⟨o.platform.recorded, o.verifier.recorded, o.currentVersion⟩

def JobsCoordinator.recorded (j : JobsCoordinator σ) : JobsCoordinator (Recorded σ) :=
  ⟨j.jobsClient.recorded, j.otaCoordinator.recorded⟩

/-- The verifier can give this answer. -/
def IFirmwareVerifier.AnswersSha256 (v : IFirmwareVerifier σ) (computed expected : Bytes)
    (ok : Bool) : Prop := ∃ outside, (v.verifySha256 computed expected outside).1 = ok

def IFirmwareVerifier.AnswersSignature (v : IFirmwareVerifier σ) (digest signature : Bytes)
    (ok : Bool) : Prop := ∃ outside, (v.verifySignature digest signature outside).1 = ok

/-- What `apply` calls and what it returns. -/
inductive ApplyCalls (o : OtaCoordinator σ) (targetVersion url expectedSha256 : Bytes) :
    List JobsCall → OtaResult → Prop where
  | versionRejected (older : isNewerVersion targetVersion o.currentVersion = false) :
      ApplyCalls o targetVersion url expectedSha256 [] .versionRejected
  | downloadFailed (newer : isNewerVersion targetVersion o.currentVersion = true) :
      ApplyCalls o targetVersion url expectedSha256 [.downloadAndHash url none] .downloadFailed
  | hashMismatch (newer : isNewerVersion targetVersion o.currentVersion = true) (digest : Bytes)
      (sha : o.verifier.AnswersSha256 digest expectedSha256 false) :
      ApplyCalls o targetVersion url expectedSha256
        [.downloadAndHash url (some digest), .verifySha256 digest expectedSha256 false]
        .hashMismatch
  | signatureInvalid (newer : isNewerVersion targetVersion o.currentVersion = true)
      (digest : Bytes) (sha : o.verifier.AnswersSha256 digest expectedSha256 true) :
      ApplyCalls o targetVersion url expectedSha256
        [.downloadAndHash url (some digest), .verifySha256 digest expectedSha256 true,
          .verifySignature digest [] false]
        .signatureInvalid
  | installFailed (newer : isNewerVersion targetVersion o.currentVersion = true) (digest : Bytes)
      (sha : o.verifier.AnswersSha256 digest expectedSha256 true)
      (signature : o.verifier.AnswersSignature digest [] true) :
      ApplyCalls o targetVersion url expectedSha256
        [.downloadAndHash url (some digest), .verifySha256 digest expectedSha256 true,
          .verifySignature digest [] true, .installAndReboot false]
        .installFailed
  | installed (newer : isNewerVersion targetVersion o.currentVersion = true) (digest : Bytes)
      (sha : o.verifier.AnswersSha256 digest expectedSha256 true)
      (signature : o.verifier.AnswersSignature digest [] true) (confirmed : Bool) :
      ApplyCalls o targetVersion url expectedSha256
        [.downloadAndHash url (some digest), .verifySha256 digest expectedSha256 true,
          .verifySignature digest [] true, .installAndReboot true,
          .confirmBootOrRollback confirmed]
        (if confirmed then .success else .bootValidationFailed)

theorem bind_of_eq {call : StateM σ α} (h : call s = (answer, s')) (next : α → StateM σ β) :
    (call >>= next) s = next answer s' := by
  change next (call s).1 (call s).2 = _
  rw [h]

theorem bind_recording {call : StateM σ α} (h : call outside = (answer, outside'))
    (entry : α → JobsCall) (next : α → StateM (Recorded σ) β) (calls : List JobsCall) :
    (recording entry call >>= next) (outside, calls) =
      next answer (outside', calls ++ [entry answer]) := by
  apply bind_of_eq
  rw [recording, h]

namespace OtaCoordinator

theorem recorded_downloadAndHash (o : OtaCoordinator σ) (url : Bytes) :
    o.recorded.platform.downloadAndHash url =
      recording (.downloadAndHash url) (o.platform.downloadAndHash url) := rfl

theorem recorded_verifySha256 (o : OtaCoordinator σ) (computed expected : Bytes) :
    o.recorded.verifier.verifySha256 computed expected =
      recording (.verifySha256 computed expected) (o.verifier.verifySha256 computed expected) := rfl

theorem recorded_verifySignature (o : OtaCoordinator σ) (digest signature : Bytes) :
    o.recorded.verifier.verifySignature digest signature =
      recording (.verifySignature digest signature) (o.verifier.verifySignature digest signature) :=
  rfl

theorem recorded_installAndReboot (o : OtaCoordinator σ) : o.recorded.platform.installAndReboot =
    recording .installAndReboot o.platform.installAndReboot := rfl

theorem recorded_confirmBootOrRollback (o : OtaCoordinator σ) :
    o.recorded.platform.confirmBootOrRollback =
      recording .confirmBootOrRollback o.platform.confirmBootOrRollback := rfl

theorem apply_calls (o : OtaCoordinator σ) (targetVersion url expectedSha256 : Bytes)
    (outside : σ) (calls : List JobsCall) : ∃ result outside' made,
      o.recorded.apply targetVersion url expectedSha256 (outside, calls) =
        (result, outside', calls ++ made) ∧
      ApplyCalls o targetVersion url expectedSha256 made result := by
  rw [apply]
  by_cases holder : (!isNewerVersion targetVersion o.recorded.currentVersion) = true
  · rw [if_pos holder]
    refine ⟨.versionRejected, outside, [], ?_, .versionRejected ?_⟩
    · rw [List.append_nil]
      rfl
    · rw [Bool.not_eq_true'] at holder
      exact holder
  · rw [if_neg holder, recorded_downloadAndHash]
    rw [Bool.not_eq_true', Bool.not_eq_false] at holder
    have hnewer : isNewerVersion targetVersion o.currentVersion = true := holder
    rcases hdownload : o.platform.downloadAndHash url outside with ⟨digest, outside⟩
    rw [bind_recording hdownload]
    cases digest with
    | none => exact ⟨.downloadFailed, outside, _, rfl, .downloadFailed hnewer⟩
    | some digest =>
      rcases hsha : o.verifier.verifySha256 digest expectedSha256 outside with ⟨ok, outside⟩
      have hanswer : o.verifier.AnswersSha256 digest expectedSha256 ok :=
        ⟨_, congrArg Prod.fst hsha⟩
      dsimp only
      rw [recorded_verifySha256, bind_recording hsha, List.append_assoc]
      cases ok with
      | false => exact ⟨.hashMismatch, outside, _, rfl, .hashMismatch hnewer digest hanswer⟩
      | true =>
        rcases hsignature : o.verifier.verifySignature digest [] outside with ⟨ok, outside⟩
        rw [if_neg Bool.noConfusion, recorded_verifySignature, bind_recording hsignature,
          List.append_assoc]
        cases ok with
        | false =>
          exact ⟨.signatureInvalid, outside, _, rfl, .signatureInvalid hnewer digest hanswer⟩
        | true =>
          have hvalid : o.verifier.AnswersSignature digest [] true :=
            ⟨_, congrArg Prod.fst hsignature⟩
          rcases hinstall : o.platform.installAndReboot outside with ⟨ok, outside⟩
          rw [if_neg Bool.noConfusion, recorded_installAndReboot, bind_recording hinstall,
            List.append_assoc]
          cases ok with
          | false =>
            exact ⟨.installFailed, outside, _, rfl, .installFailed hnewer digest hanswer hvalid⟩
          | true =>
            rcases hconfirm : o.platform.confirmBootOrRollback outside with ⟨ok, outside⟩
            rw [if_neg Bool.noConfusion, recorded_confirmBootOrRollback, bind_recording hconfirm,
              List.append_assoc]
            refine ⟨_, outside, _, ?_, .installed hnewer digest hanswer hvalid ok⟩
            cases ok with
            | false => rfl
            | true => rfl

end OtaCoordinator

/-- One poll: what it returned and what it called. -/
structure Poll where
  result : Option OtaResult
  calls : List JobsCall
  deriving DecidableEq

namespace JobsCoordinator

/-- The polls one after another, with everything outside free to change before each. -/
def polls (j : JobsCoordinator σ) (outside : σ) : List (σ → σ) → List Poll
  | [] => []
  | change :: changes =>
    let (result, outside, calls) := j.recorded.pollAndProcess (change outside, [])
    ⟨result, calls⟩ :: j.polls outside changes

/-- The update that ends a job. -/
def terminalUpdate (jobId : Bytes) (result : OtaResult) : JobsCall :=
  if result = .success then .updateJobStatus jobId .succeeded []
  else .updateJobStatus jobId .failed result.toText

/-- What a poll can be. -/
inductive PollCalls (o : OtaCoordinator σ) : Poll → Prop where
  | idle : PollCalls o ⟨none, [.checkPendingJob none]⟩
  | processed (job : JobDocument) (made : List JobsCall) (result : OtaResult)
      (applied : ApplyCalls o job.version job.url job.sha256 made result) :
      PollCalls o ⟨some result, .checkPendingJob (some job) ::
        .updateJobStatus job.jobId .inProgress [] :: (made ++ [terminalUpdate job.jobId result])⟩

theorem pollAndProcess_calls (j : JobsCoordinator σ) (outside : σ) :
    ∃ result outside' calls,
      j.recorded.pollAndProcess (outside, []) = (result, outside', calls) ∧
      PollCalls j.otaCoordinator ⟨result, calls⟩ := by
  have hcheck : j.recorded.jobsClient.checkPendingJob =
      recording .checkPendingJob j.jobsClient.checkPendingJob := rfl
  rw [pollAndProcess, hcheck]
  rcases hpending : j.jobsClient.checkPendingJob outside with ⟨pending, outside⟩
  rw [bind_recording hpending]
  cases pending with
  | none => exact ⟨none, outside, _, rfl, .idle⟩
  | some job =>
    have hupdate (jobId : Bytes) (status : JobStatus) (details : Bytes) :
        j.recorded.jobsClient.updateJobStatus jobId status details =
          recording (fun _ => .updateJobStatus jobId status details)
            (j.jobsClient.updateJobStatus jobId status details) := rfl
    rcases hstart : j.jobsClient.updateJobStatus job.jobId .inProgress [] outside with ⟨_, outside⟩
    dsimp only
    rw [hupdate, bind_recording hstart]
    obtain ⟨result, outside, made, happly, hmade⟩ := j.otaCoordinator.apply_calls job.version
      job.url job.sha256 outside
      ([] ++ [.checkPendingJob (some job)] ++ [.updateJobStatus job.jobId .inProgress []])
    have hota : j.recorded.otaCoordinator = j.otaCoordinator.recorded := rfl
    rw [hota, bind_of_eq happly]
    have hend (status : JobStatus) (details : Bytes) (calls : List JobsCall) :
        ∃ outside', (j.recorded.jobsClient.updateJobStatus job.jobId status details >>= fun _ =>
          pure (some result)) (outside, calls) =
            (some result, outside', calls ++ [.updateJobStatus job.jobId status details]) := by
      rcases hstatus : j.jobsClient.updateJobStatus job.jobId status details outside with
        ⟨_, outside'⟩
      rw [hupdate, bind_recording hstatus]
      exact ⟨outside', rfl⟩
    have hpoll := PollCalls.processed job made result hmade
    by_cases hsuccess : result = .success
    · obtain ⟨outside', hreported⟩ := hend .succeeded [] _
      rw [terminalUpdate, if_pos hsuccess] at hpoll
      rw [if_pos hsuccess]
      exact ⟨_, outside', _, hreported, hpoll⟩
    · obtain ⟨outside', hreported⟩ := hend .failed result.toText _
      rw [terminalUpdate, if_neg hsuccess] at hpoll
      rw [if_neg hsuccess]
      exact ⟨_, outside', _, hreported, hpoll⟩

end JobsCoordinator

end InterBridge
