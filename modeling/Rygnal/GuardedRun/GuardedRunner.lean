import Rygnal.GuardedRun.ChangedFiles
import Rygnal.GuardedRun.PatchFinalizer
import Rygnal.ChangeRisk.SubjectiveRisk
import Rygnal.Library.Unwinding

/-! # A guarded run

`guarded_runner.py`: `run_guarded` from the moment its recovery session exists. Every call answers
or raises; the monitored body, the handlers and the `finally` block pass on the local variables as
they were when a call raised.
-/

namespace Rygnal.GuardedRun
open Rygnal.Core Rygnal.Core.PyException Rygnal.Library Rygnal.Library.Unwinding Rygnal.ChangeRisk
  Rygnal.Approval Rygnal.Artifact Rygnal.Intent

inductive GuardedRunStatus where
  | completed
  | failed
  | timedOut
  | blocked
  | approvalRequired
  | cleanupFailed
deriving DecidableEq, Repr

def GuardedRunStatus.value : GuardedRunStatus → String
  | .completed => "completed"
  | .failed => "failed"
  | .timedOut => "timed_out"
  | .blocked => "blocked"
  | .approvalRequired => "approval_required"
  | .cleanupFailed => "cleanup_failed"

/-- `GuardedRunStatus(finalization.status.value)`. -/
def GuardedRunStatus.ofFinal : GuardedPatchFinalStatus → GuardedRunStatus
  | .completed => .completed
  | .failed => .failed
  | .timedOut => .timedOut
  | .blocked => .blocked
  | .approvalRequired => .approvalRequired

structure GuardedCommandResult where
  exitCode : Option ℤ
  stdout : Utf8.DecodedText
  stderr : Utf8.DecodedText
  timedOut : Bool
  sandboxSetupFailed : Bool

inductive CleanupStatus where
  | worktreeRemoved
  | worktreeQuarantined
  | cleanupFailed
deriving DecidableEq, Repr

def CleanupStatus.value : CleanupStatus → String
  | .worktreeRemoved => "worktree_removed"
  | .worktreeQuarantined => "worktree_quarantined"
  | .cleanupFailed => "cleanup_failed"

structure CleanupResult where
  status : CleanupStatus
  message : String
  quarantined : Bool

/-- The calls of `_audit`, in the order of the source. -/
inductive AuditPoint where
  | workspaceCreated
  | commandStarted
  | commandEnded
  | changedFilesDetected
  | patchClassified
  | patchGenerated
  | commandFailed
  | patchGenerationFailed
  | normalizedActions
  | intentEvaluated
  | intentEvaluationFailed
  | finalized
  | finalizationFailed
  | cleanupStarted
  | cleanupEnded
deriving DecidableEq, Repr

structure GuardedRunConfig where
  trustedRepoPath : String
  preserveWorkspace : Bool
  hasIntentContract : Bool
  hasLogger : Bool

/-- What each call of a run answers, or the exception it raises. -/
structure RunAnswers where
  audit : AuditPoint → Option PyException
  runCommand : Except PyException GuardedCommandResult
  detectChangedFiles : Except PyException ChangedFileReport
  generatePatchDiff : Except PyException PatchDiff
  classifyAndDecidePatch : Except PyException PatchRiskDecision
  normalizeActions : Option PyException
  evaluateIntentContract : Except PyException IntentFallbackEvaluation
  buildIntentReview : Option PyException
  finalizer : FinalizerAnswers
  destroyRecoverySession : Except PyException CleanupResult
  releaseGuard : Option PyException

/-- The local variables of `run_guarded`, and the trusted repository. The last two fields keep the
call of the finalizer: what it was asked and what it returned. -/
structure RunState (R : Type) where
  repo : R
  status : GuardedRunStatus
  commandResult : Option GuardedCommandResult
  changedFileReport : Option ChangedFileReport
  patchDiff : Option PatchDiff
  changeRiskReport : Option ChangeRiskReport
  intentFallbackEvaluation : Option IntentFallbackEvaluation
  blockedReason : Option String
  approvalRequest : Option ApprovalRequest
  patchApplyOutcome : Option GuardedPatchApplyOutcome
  patchArtifactId : Option String
  cleanupPerformed : Bool
  cleanupStatus : Option String
  workspaceQuarantined : Bool
  warnings : List String
  finalizationRequest : Option GuardedPatchFinalizationRequest
  finalization : Option GuardedPatchFinalizationResult

structure GuardedRunResult where
  status : GuardedRunStatus
  commandResult : Option GuardedCommandResult
  changedFileReport : Option ChangedFileReport
  patchDiff : Option PatchDiff
  changeRiskReport : Option ChangeRiskReport
  intentFallbackEvaluation : Option IntentFallbackEvaluation
  blockedReason : Option String
  approvalRequest : Option ApprovalRequest
  patchApplyOutcome : Option GuardedPatchApplyOutcome
  patchArtifactId : Option String
  cleanupPerformed : Bool
  cleanupStatus : Option String
  workspaceQuarantined : Bool
  warnings : List String

section Running
variable {R : Type}

/-- The variables before the recovery session. -/
def startState (warnings : List String) (repo : R) : RunState R where
  repo := repo
  status := .failed
  commandResult := none
  changedFileReport := none
  patchDiff := none
  changeRiskReport := none
  intentFallbackEvaluation := none
  blockedReason := none
  approvalRequest := none
  patchApplyOutcome := none
  patchArtifactId := none
  cleanupPerformed := false
  cleanupStatus := none
  workspaceQuarantined := false
  warnings := warnings
  finalizationRequest := none
  finalization := none

/-- `return GuardedRunResult(...)`. -/
def RunState.result (state : RunState R) : GuardedRunResult where
  status := state.status
  commandResult := state.commandResult
  changedFileReport := state.changedFileReport
  patchDiff := state.patchDiff
  changeRiskReport := state.changeRiskReport
  intentFallbackEvaluation := state.intentFallbackEvaluation
  blockedReason := state.blockedReason
  approvalRequest := state.approvalRequest
  patchApplyOutcome := state.patchApplyOutcome
  patchArtifactId := state.patchArtifactId
  cleanupPerformed := state.cleanupPerformed
  cleanupStatus := state.cleanupStatus
  workspaceQuarantined := state.workspaceQuarantined
  warnings := state.warnings

/-- A handler that fails closed: the reason is kept and added to the warnings. -/
def RunState.failClosed (state : RunState R) (reason : String) : RunState R :=
  { state with
    status := .failed, blockedReason := some reason, warnings := state.warnings ++ [reason] }

def commandStatus (result : GuardedCommandResult) : GuardedRunStatus :=
  if result.sandboxSetupFailed then .blocked
  else if result.timedOut then .timedOut
  else if result.exitCode = some 0 then .completed
  else .failed

def classifyChanges (answers : RunAnswers) (report : ChangedFileReport) (state : RunState R) :
    Except (PyException × RunState R) (RunState R) :=
  if report.files = [] then .ok state
  else do
    let patchDiff ← answer state answers.generatePatchDiff
    let generated := { state with patchDiff := some patchDiff }
    let patchDecision ← answer generated answers.classifyAndDecidePatch
    let classified := { generated with changeRiskReport := some patchDecision.report }
    call classified (answers.audit .patchClassified)
    return classified

/-- The body after the command has ended. -/
def inspectWorkspace (answers : RunAnswers) (state : RunState R) :
    Except (PyException × RunState R) (RunState R) := do
  call state (answers.audit .commandEnded)
  let report ← answer state answers.detectChangedFiles
  let detected := { state with changedFileReport := some report }
  call detected (answers.audit .changedFilesDetected)
  let classified ← classifyChanges answers report detected
  call classified (answers.audit .patchGenerated)
  return classified

/-- The body of the `try`. -/
def monitoredBody (answers : RunAnswers) (state : RunState R) :
    Except (PyException × RunState R) (RunState R) := do
  call state (answers.audit .workspaceCreated)
  call state (answers.audit .commandStarted)
  let result ← answer state answers.runCommand
  inspectWorkspace answers
    { state with commandResult := some result, status := commandStatus result }

/-- The classes of the first `except`. -/
def commandErrors : List ExceptionClass :=
  [.other "RecoverySessionError", .other "GuardedCommandExecutionError"]

/-- The classes of the second `except`. -/
def patchErrors : List ExceptionClass :=
  [.other "ChangedFileDetectionError", .other "PatchDiffGenerationError",
    .other "ChangeRiskClassificationError"]

/-- The `except` clauses: the exception that is still raised after them, and the variables. -/
def handleBody (answers : RunAnswers) :
    Except (PyException × RunState R) (RunState R) → Option PyException × RunState R
  | .ok state => (none, state)
  | .error (exc, state) =>
    if exc.isInstance commandErrors then
      (answers.audit .commandFailed, state.failClosed exc.message)
    else if exc.isInstance patchErrors then
      (answers.audit .patchGenerationFailed, state.failClosed exc.message)
    else (some exc, state)

/-- `except Exception`: the reason names the exception, and the audit can raise again. -/
def exceptException (text : String) (fault : Option PyException)
    (handled : RunState R → RunState R) :
    Except (PyException × RunState R) (RunState R) →
      Except (PyException × RunState R) (RunState R)
  | .ok state => .ok state
  | .error (exc, state) =>
    if exc.isInstance [.exception] then do
      let failed := handled (state.failClosed (text ++ exc.message))
      call failed fault
      return failed
    else .error (exc, state)

/-- The evaluation of the intent contract, when there is one. -/
def evaluateContract (config : GuardedRunConfig) (answers : RunAnswers) (state : RunState R) :
    Except (PyException × RunState R) (RunState R) :=
  if config.hasIntentContract then do
    let evaluation ← answer state answers.evaluateIntentContract
    let evaluated := { state with intentFallbackEvaluation := some evaluation }
    call evaluated answers.buildIntentReview
    call evaluated (answers.audit .intentEvaluated)
    return evaluated
  else .ok state

def evaluateIntent (config : GuardedRunConfig) (answers : RunAnswers) (state : RunState R) :
    Except (PyException × RunState R) (RunState R) :=
  exceptException "Intent evaluation failed closed before trusted mutation: "
    (answers.audit .intentEvaluationFailed) id (evaluateContract config answers state)

/-- The request to the finalizer. -/
def RunState.request (config : GuardedRunConfig) (state : RunState R) :
    GuardedPatchFinalizationRequest where
  currentStatus := state.status.value
  trustedRepoPath := config.trustedRepoPath
  commandExitCode := state.commandResult.bind GuardedCommandResult.exitCode
  commandTimedOut := state.commandResult.any GuardedCommandResult.timedOut
  patchDiff := state.patchDiff
  riskReport := state.changeRiskReport
  intentFallbackEvaluation := state.intentFallbackEvaluation
  hasLogger := config.hasLogger

/-- The variables after the finalizer has returned. -/
def RunState.withFinalization (state : RunState R) (finalization : GuardedPatchFinalizationResult) :
    RunState R :=
  let reason := finalization.blockedReason.filter (· ≠ "")
  let status := GuardedRunStatus.ofFinal finalization.status
  { state with
    status := status
    patchApplyOutcome := some finalization.applyOutcome
    patchArtifactId := finalization.artifactId
    approvalRequest := finalization.approvalRequest
    blockedReason := reason <|> state.blockedReason
    warnings := state.warnings ++ reason.toList.filter fun text =>
      status ≠ .completed && text ∉ state.warnings
    finalization := some finalization }

section Finalizing
variable [BytesDigest]

def callFinalizer (git : GitRepository R) (config : GuardedRunConfig) (answers : RunAnswers)
    (state : RunState R) : Except (PyException × RunState R) (RunState R) :=
  let request := state.request config
  match finalizeGuardedPatch git answers.finalizer request state.repo with
  | (.error exc, repo) =>
    .error (exc, { state with repo := repo, finalizationRequest := some request })
  | (.ok finalization, repo) => do
    let finalized := RunState.withFinalization
      { state with repo := repo, finalizationRequest := some request } finalization
    call finalized (answers.audit .finalized)
    return finalized

def finalizeRun (git : GitRepository R) (config : GuardedRunConfig) (answers : RunAnswers)
    (state : RunState R) : Except (PyException × RunState R) (RunState R) :=
  exceptException "Authoritative patch finalization failed closed: "
    (answers.audit .finalizationFailed)
    (fun state => { state with patchApplyOutcome := some .applyFailed })
    (callFinalizer git config answers state)

end Finalizing

/-- The variables after `destroy_recovery_session`. -/
def RunState.withCleanup (state : RunState R) (result : CleanupResult) : RunState R :=
  let cleaned := { state with
    cleanupStatus := some result.status.value, workspaceQuarantined := result.quarantined }
  if result.status = .cleanupFailed || result.quarantined then
    { cleaned with status := .cleanupFailed, warnings := state.warnings ++ [result.message] }
  else cleaned

def cleanUp (config : GuardedRunConfig) (answers : RunAnswers) (state : RunState R) :
    Except (PyException × RunState R) (RunState R) :=
  if config.preserveWorkspace then do
    let preserved := { state with
      cleanupStatus := some "preserved"
      warnings := state.warnings ++
        ["Disposable guarded workspace was preserved by explicit configuration."] }
    call preserved (answers.audit .cleanupEnded)
    return preserved
  else do
    let started := { state with cleanupPerformed := true }
    call started (answers.audit .cleanupStarted)
    let result ← answer started answers.destroyRecoverySession
    call (started.withCleanup result) (answers.audit .cleanupEnded)
    return started.withCleanup result

section Whole
variable [BytesDigest]

/-- The `finally` block. -/
def finallyBlock (git : GitRepository R) (config : GuardedRunConfig) (answers : RunAnswers)
    (state : RunState R) : Except (PyException × RunState R) (RunState R) := do
  call state answers.normalizeActions
  call state (answers.audit .normalizedActions)
  let evaluated ← evaluateIntent config answers state
  let finalized ← finalizeRun git config answers evaluated
  cleanUp config answers finalized

/-- `run_guarded` with its recovery session, up to the release of the concurrency guard: the last
exception is the one that leaves it. -/
def runGuarded (git : GitRepository R) (config : GuardedRunConfig) (answers : RunAnswers)
    (warnings : List String) (repo : R) :
    Except (PyException × RunState R) (GuardedRunResult × RunState R) :=
  let (raised, state) := handleBody answers (monitoredBody answers (startState warnings repo))
  match finallyBlock git config answers state with
  | .error (exc, ended) => .error (answers.releaseGuard.getD exc, ended)
  | .ok ended =>
    match answers.releaseGuard <|> raised with
    | some exc => .error (exc, ended)
    | none => .ok (ended.result, ended)

end Whole
end Running

end Rygnal.GuardedRun
