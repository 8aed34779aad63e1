import Rygnal.GuardedRun.GuardedRunner

/-! # Interrupted runs

A guarded run that is left by an exception at any of its calls: when the trusted repository is
nevertheless as it was.
-/

namespace Rygnal.GuardedRun
open Rygnal.Core Rygnal.Core.PyException Rygnal.Library Rygnal.Library.Unwinding Rygnal.ChangeRisk
  Rygnal.Approval Rygnal.Artifact Rygnal.Intent

section Claims
variable [BytesDigest] {R : Type}

/-- The variables at the end of a run, however it ended. -/
def endState : Except (PyException × RunState R) (GuardedRunResult × RunState R) → RunState R
  | .ok (_, state) => state
  | .error (_, state) => state

/-- The repository is changed only by a run that returns the application, or whose finalizer
reports a failed rollback; and a run whose body was aborted is not finalized as completed. -/
structure TrustedOnly (answers : RunAnswers) (warnings : List String) (repo : R)
    (ended : Except (PyException × RunState R) (GuardedRunResult × RunState R)) : Prop where
  changed : (endState ended).repo ≠ repo →
    (∃ result state, ended = .ok (result, state) ∧ result.patchApplyOutcome = some .applied) ∨
    ∃ finalization, (endState ended).finalization = some finalization ∧
      RollbackFailed finalization
  aborted : ∀ raised, monitoredBody answers (startState warnings repo) = .error raised →
    ∀ request, (endState ended).finalizationRequest = some request →
      request.currentStatus ≠ "completed"

end Claims

/-! ## When nothing disturbs a run -/

namespace RunAnswers

/-- The command was started and completed. -/
structure CommandCompletes (answers : RunAnswers) : Prop where
  created : answers.audit .workspaceCreated = none
  started : answers.audit .commandStarted = none
  ran : ∃ result, answers.runCommand = .ok result ∧ commandStatus result = .completed

/-- The steps before the finalizer raise nothing. -/
structure ReachesFinalizer (config : GuardedRunConfig) (answers : RunAnswers) : Prop where
  normalized : answers.normalizeActions = none
  recorded : answers.audit .normalizedActions = none
  intent : config.hasIntentContract = true →
    (∃ evaluation, answers.evaluateIntentContract = .ok evaluation) ∧
      answers.buildIntentReview = none ∧ answers.audit .intentEvaluated = none

def changesFiles (answers : RunAnswers) : Bool :=
  answers.detectChangedFiles.toOption.any fun report => report.files ≠ []

/-- What the calls for the patch raise first, when there is one. -/
def patchFault (answers : RunAnswers) : Option PyException :=
  if answers.changesFiles then
    failureOf answers.generatePatchDiff <|> failureOf answers.classifyAndDecidePatch <|>
      answers.audit .patchClassified
  else none

/-- What the calls of the monitored body after the command raise first. -/
def bodyFault (answers : RunAnswers) : Option PyException :=
  answers.audit .commandEnded <|> failureOf answers.detectChangedFiles <|>
    answers.audit .changedFilesDetected <|> answers.patchFault <|> answers.audit .patchGenerated

/-- What the calls of the cleanup raise first. -/
def cleanupFault (config : GuardedRunConfig) (answers : RunAnswers) : Option PyException :=
  if config.preserveWorkspace then answers.audit .cleanupEnded
  else answers.audit .cleanupStarted <|> failureOf answers.destroyRecoverySession <|>
    answers.audit .cleanupEnded

/-- What the calls after the finalizer raise first. -/
def finishFault (config : GuardedRunConfig) (answers : RunAnswers) : Option PyException :=
  answers.audit .finalized <|> answers.cleanupFault config <|> answers.releaseGuard

/-- The request to the finalizer of a run whose body raised nothing. -/
def completedRequest (config : GuardedRunConfig) (answers : RunAnswers)
    (result : GuardedCommandResult) : GuardedPatchFinalizationRequest where
  currentStatus := "completed"
  trustedRepoPath := config.trustedRepoPath
  commandExitCode := result.exitCode
  commandTimedOut := result.timedOut
  patchDiff := if answers.changesFiles then answers.generatePatchDiff.toOption else none
  riskReport :=
    if answers.changesFiles then
      answers.classifyAndDecidePatch.toOption.map PatchRiskDecision.report
    else none
  intentFallbackEvaluation :=
    if config.hasIntentContract then answers.evaluateIntentContract.toOption else none
  hasLogger := config.hasLogger

end RunAnswers

/-- After the command has completed, the monitored body raises nothing but what its handlers
catch; and when the finalizer changes the repository without reporting a failed rollback, neither
it nor anything after it raises. -/
structure Undisturbed [BytesDigest] {R : Type} (git : GitRepository R) (config : GuardedRunConfig)
    (answers : RunAnswers) (result : GuardedCommandResult) (repo : R) : Prop where
  body : ∀ exc, answers.bodyFault = some exc → exc.isInstance (commandErrors ++ patchErrors) = true
  finish : answers.bodyFault = none → ∀ ended repo',
    finalizeGuardedPatch git answers.finalizer (answers.completedRequest config result) repo =
      (ended, repo') → repo' ≠ repo →
    (∃ finalization, ended = .ok finalization) ∧
      (answers.finishFault config = none ∨
        ∃ finalization, ended = .ok finalization ∧ RollbackFailed finalization)

/-- The variables when the command has ended. -/
def endedState {R : Type} (warnings : List String) (repo : R) (result : GuardedCommandResult) :
    RunState R :=
  { startState warnings repo with
    commandResult := some result, status := commandStatus result }

/-- The variables when the intent contract was evaluated without a fault. -/
def RunState.evaluated {R : Type} (config : GuardedRunConfig) (answers : RunAnswers)
    (state : RunState R) : RunState R :=
  { state with
    intentFallbackEvaluation :=
      if config.hasIntentContract then answers.evaluateIntentContract.toOption
      else state.intentFallbackEvaluation }

/-! ## The monitored body -/

section Body
variable {R : Type} {answers : RunAnswers} {state : RunState R}

/-- The variables that the body leaves alone after the command. -/
structure SameRun (state state' : RunState R) : Prop where
  repo : state'.repo = state.repo
  status : state'.status = state.status
  commandResult : state'.commandResult = state.commandResult
  finalizationRequest : state'.finalizationRequest = state.finalizationRequest
  finalization : state'.finalization = state.finalization
  patchApplyOutcome : state'.patchApplyOutcome = state.patchApplyOutcome

theorem inspectWorkspace_endsIn : EndsIn (SameRun state) (inspectWorkspace answers state) := by
  refine endsIn_call ⟨rfl, rfl, rfl, rfl, rfl, rfl⟩ fun _ => ?_
  refine endsIn_answer ⟨rfl, rfl, rfl, rfl, rfl, rfl⟩ fun report _ => ?_
  refine endsIn_call ⟨rfl, rfl, rfl, rfl, rfl, rfl⟩ fun _ => ?_
  have hclassify : EndsIn (SameRun state)
      (classifyChanges answers report { state with changedFileReport := some report }) := by
    rw [classifyChanges]
    split
    · exact ⟨rfl, rfl, rfl, rfl, rfl, rfl⟩
    refine endsIn_answer ⟨rfl, rfl, rfl, rfl, rfl, rfl⟩ fun _ _ => ?_
    refine endsIn_answer ⟨rfl, rfl, rfl, rfl, rfl, rfl⟩ fun _ _ => ?_
    exact endsIn_call ⟨rfl, rfl, rfl, rfl, rfl, rfl⟩ fun _ => ⟨rfl, rfl, rfl, rfl, rfl, rfl⟩
  refine endsIn_bind hclassify (fun _ h => h) fun s _ h => ?_
  exact endsIn_call h fun _ => h

theorem raises_classifyChanges {report : ChangedFileReport}
    (h : answers.detectChangedFiles = .ok report) :
    raises (classifyChanges answers report state) = answers.patchFault := by
  have hchanges : answers.changesFiles = decide (report.files ≠ []) := by
    rw [RunAnswers.changesFiles, h]
    rfl
  rw [classifyChanges, RunAnswers.patchFault, hchanges]
  split
  · rename_i hnone
    simp [hnone]
  · rename_i hsome
    simp only [ne_eq, hsome, not_false_eq_true, decide_true, if_true]
    apply raises_answer_bind
    intro patchDiff _
    apply raises_answer_bind
    intro decision _
    exact raises_call_map _ _ _

/-- After the command, the body raises what the first of its calls raises. -/
theorem raises_inspectWorkspace :
    raises (inspectWorkspace answers state) = answers.bodyFault := by
  rw [inspectWorkspace, raises_call_bind, RunAnswers.bodyFault]
  congr 1
  ext1
  apply raises_answer_bind
  intro report hdetect
  rw [raises_call_bind]
  congr 1
  ext1
  rw [← raises_classifyChanges hdetect]
  exact raises_bind fun classified _ => raises_call_map _ _ _

/-- What a body without a fault has found. -/
structure Inspected (answers : RunAnswers) (state ended : RunState R) : Prop where
  patchDiff : ended.patchDiff =
    if answers.changesFiles then answers.generatePatchDiff.toOption else state.patchDiff
  report : ended.changeRiskReport =
    if answers.changesFiles then
      answers.classifyAndDecidePatch.toOption.map PatchRiskDecision.report
    else state.changeRiskReport
  intent : ended.intentFallbackEvaluation = state.intentFallbackEvaluation

theorem inspectWorkspace_eq_ok {ended : RunState R}
    (h : inspectWorkspace answers state = .ok ended) : Inspected answers state ended := by
  simp only [inspectWorkspace, bind_eq_ok, call_eq_ok, answer_eq_ok, exists_const] at h
  obtain ⟨_, report, hdetect, _, classified, hclassify, _, hend⟩ := h
  obtain rfl := Except.ok.inj hend
  have hchanges : answers.changesFiles = decide (report.files ≠ []) := by
    rw [RunAnswers.changesFiles, hdetect]
    rfl
  rw [classifyChanges] at hclassify
  split at hclassify
  · rename_i hnone
    obtain rfl := Except.ok.inj hclassify
    exact ⟨by simp [hchanges, hnone], by simp [hchanges, hnone], rfl⟩
  · rename_i hsome
    simp only [bind_eq_ok, call_eq_ok, answer_eq_ok, exists_const] at hclassify
    obtain ⟨patchDiff, hgenerate, decision, hdecide, _, hstate⟩ := hclassify
    obtain rfl := Except.ok.inj hstate
    refine ⟨?_, ?_, rfl⟩
    · simp [hchanges, hsome, hgenerate, Except.toOption]
    · simp [hchanges, hsome, hdecide, Except.toOption]

end Body

/-! ## Runs whose repository is left alone -/

section Kept
variable [BytesDigest] {R : Type} {git : GitRepository R} {config : GuardedRunConfig}
  {answers : RunAnswers} {state : RunState R} {repo : R}

/-- The repository is as it was, and no finalizer was told that the command completed. -/
structure Kept (repo : R) (state : RunState R) : Prop where
  repo : state.repo = repo
  request : ∀ request, state.finalizationRequest = some request →
    request.currentStatus ≠ "completed"

/-- A run that was stopped. -/
def Stopped (state : RunState R) : Prop := state.status ∈ [.failed, .timedOut, .blocked]

omit [BytesDigest] in
theorem endsIn_exceptException {post : RunState R → Prop} {text : String}
    {fault : Option PyException} {handled : RunState R → RunState R}
    {x : Except (PyException × RunState R) (RunState R)} (h : EndsIn post x)
    (hfail : ∀ s reason, post s → post (handled (s.failClosed reason))) :
    EndsIn post (exceptException text fault handled x) := by
  cases x with
  | ok s => exact h
  | error raised =>
    rw [exceptException]
    split
    · exact endsIn_call (hfail _ _ h) fun _ => hfail _ _ h
    · exact h

omit [BytesDigest] in
theorem handleBody_post {post : RunState R → Prop}
    {x : Except (PyException × RunState R) (RunState R)} (h : EndsIn post x)
    (hfail : ∀ s reason, post s → post (s.failClosed reason)) :
    post (handleBody answers x).2 := by
  cases x with
  | ok s => exact h
  | error raised =>
    rw [handleBody]
    split
    · exact hfail _ _ h
    split
    · exact hfail _ _ h
    · exact h

/-- A run that was stopped is never applied. -/
theorem finalizeGuardedPatch_stopped {answers : FinalizerAnswers}
    {request : GuardedPatchFinalizationRequest}
    (h : request.currentStatus ∈ ["failed", "timed_out", "blocked"]) :
    (finalizeGuardedPatch git answers request repo).2 = repo := by
  have hstatus : normalizeCurrentStatus request.currentStatus ∈
      [GuardedPatchFinalStatus.failed, .timedOut, .blocked] := by
    simp only [List.mem_cons, List.not_mem_nil, or_false] at h
    rcases h with h | h | h
    · rw [h]
      decide
    · rw [h]
      decide
    · rw [h]
      decide
  simp only [finalizeGuardedPatch]
  split
  · rfl
  split
  · rfl
  split
  · rfl
  simp_all

theorem finalizeRun_kept (hstopped : Stopped state) (h : Kept repo state) :
    EndsIn (Kept repo) (finalizeRun git config answers state) := by
  have hvalue : state.status.value ∈ ["failed", "timed_out", "blocked"] := by
    have hall : ∀ status ∈ [GuardedRunStatus.failed, .timedOut, .blocked],
        status.value ∈ ["failed", "timed_out", "blocked"] := by decide
    exact hall _ hstopped
  have hne : state.status.value ≠ "completed" := by
    intro heq
    rw [heq] at hvalue
    exact absurd hvalue (by decide)
  have hrepo : (finalizeGuardedPatch git answers.finalizer (state.request config) state.repo).2 =
      state.repo := finalizeGuardedPatch_stopped hvalue
  refine endsIn_exceptException ?_ fun s reason hs => ⟨hs.repo, hs.request⟩
  rw [callFinalizer]
  generalize finalizeGuardedPatch git answers.finalizer (state.request config) state.repo = ended
    at hrepo
  obtain ⟨ended, repo'⟩ := ended
  obtain rfl : repo' = state.repo := hrepo
  have hkept : ∀ request, some (state.request config) = some request →
      request.currentStatus ≠ "completed" := by
    rintro _ ⟨⟩
    exact hne
  cases ended with
  | error exc => exact ⟨h.repo, hkept⟩
  | ok finalization => exact endsIn_call ⟨h.repo, hkept⟩ fun _ => ⟨h.repo, hkept⟩

/-- What the steps around the finalizer leave alone. -/
structure SameTrusted (state state' : RunState R) : Prop where
  repo : state'.repo = state.repo
  finalizationRequest : state'.finalizationRequest = state.finalizationRequest
  finalization : state'.finalization = state.finalization
  patchApplyOutcome : state'.patchApplyOutcome = state.patchApplyOutcome

omit [BytesDigest] in
theorem Kept.same {state' : RunState R} (h : Kept repo state) (hsame : SameTrusted state state') :
    Kept repo state' :=
  ⟨hsame.repo.trans h.repo, by rw [hsame.finalizationRequest]; exact h.request⟩

omit [BytesDigest] in
theorem cleanUp_endsIn : EndsIn (SameTrusted state) (cleanUp config answers state) := by
  rw [cleanUp]
  split
  · exact endsIn_call ⟨rfl, rfl, rfl, rfl⟩ fun _ => ⟨rfl, rfl, rfl, rfl⟩
  · refine endsIn_call ⟨rfl, rfl, rfl, rfl⟩ fun _ => ?_
    refine endsIn_answer ⟨rfl, rfl, rfl, rfl⟩ fun result _ => ?_
    have hsame : SameTrusted state
        (RunState.withCleanup { state with cleanupPerformed := true } result) := by
      simp only [RunState.withCleanup]
      split
      · exact ⟨rfl, rfl, rfl, rfl⟩
      · exact ⟨rfl, rfl, rfl, rfl⟩
    exact endsIn_call hsame fun _ => hsame

omit [BytesDigest] in
theorem evaluateIntent_endsIn : EndsIn (SameTrusted state) (evaluateIntent config answers state) := by
  refine endsIn_exceptException ?_ fun s reason hs =>
    ⟨hs.repo, hs.finalizationRequest, hs.finalization, hs.patchApplyOutcome⟩
  rw [evaluateContract]
  split
  · refine endsIn_answer ⟨rfl, rfl, rfl, rfl⟩ fun _ _ => ?_
    refine endsIn_call ⟨rfl, rfl, rfl, rfl⟩ fun _ => ?_
    exact endsIn_call ⟨rfl, rfl, rfl, rfl⟩ fun _ => ⟨rfl, rfl, rfl, rfl⟩
  · exact ⟨rfl, rfl, rfl, rfl⟩

omit [BytesDigest] in
/-- A contract that is evaluated without a fault. -/
theorem evaluateIntent_eq_ok (h : config.hasIntentContract = true →
      (∃ evaluation, answers.evaluateIntentContract = .ok evaluation) ∧
        answers.buildIntentReview = none ∧ answers.audit .intentEvaluated = none) :
    evaluateIntent config answers state = .ok (state.evaluated config answers) := by
  rw [evaluateIntent, evaluateContract, RunState.evaluated]
  by_cases hcontract : config.hasIntentContract = true
  · obtain ⟨⟨evaluation, hevaluation⟩, hreview, haudit⟩ := h hcontract
    simp only [hcontract, hevaluation, hreview, haudit, if_true]
    rfl
  · simp only [Bool.not_eq_true] at hcontract
    simp only [hcontract, Bool.false_eq_true, if_false]
    rfl

omit [BytesDigest] in
/-- After the evaluation of the contract a run is stopped, unless nothing was raised. -/
theorem evaluateIntent_stopped {evaluated : RunState R}
    (h : evaluateIntent config answers state = .ok evaluated) :
    evaluated.status = .failed ∨ (evaluated.status = state.status ∧
      (config.hasIntentContract = true →
        (∃ evaluation, answers.evaluateIntentContract = .ok evaluation) ∧
          answers.buildIntentReview = none ∧ answers.audit .intentEvaluated = none)) := by
  rw [evaluateIntent] at h
  cases hcontract : evaluateContract config answers state with
  | ok s =>
    rw [hcontract] at h
    obtain rfl := Except.ok.inj h
    right
    rw [evaluateContract] at hcontract
    split at hcontract
    · simp only [bind_eq_ok, call_eq_ok, answer_eq_ok, exists_const] at hcontract
      obtain ⟨evaluation, hevaluation, hreview, haudit, hstate⟩ := hcontract
      obtain rfl := Except.ok.inj hstate
      exact ⟨rfl, fun _ => ⟨⟨evaluation, hevaluation⟩, hreview, haudit⟩⟩
    · rename_i hnone
      obtain rfl := Except.ok.inj hcontract
      exact ⟨rfl, fun hsome => absurd hsome hnone⟩
  | error raised =>
    left
    rw [hcontract, exceptException] at h
    split at h
    · simp only [bind_eq_ok, call_eq_ok, exists_const] at h
      obtain ⟨_, hstate⟩ := h
      obtain rfl := Except.ok.inj hstate
      rfl
    · cases h

/-- A run that was stopped, or that does not reach its finalizer, keeps its repository. -/
theorem finallyBlock_kept (h : Kept repo state)
    (hstop : Stopped state ∨ ¬ answers.ReachesFinalizer config) :
    EndsIn (Kept repo) (finallyBlock git config answers state) := by
  refine endsIn_call h fun hnormalized => endsIn_call h fun hrecorded => ?_
  have hevaluate : EndsIn (Kept repo) (evaluateIntent config answers state) :=
    evaluateIntent_endsIn.mono fun _ => h.same
  refine endsIn_bind hevaluate (fun _ hs => hs) fun evaluated hevaluated hkept => ?_
  have hstopped : Stopped evaluated := by
    rcases evaluateIntent_stopped hevaluated with hfailed | ⟨hsame, hintent⟩
    · simp [Stopped, hfailed]
    · rcases hstop with hstate | hreach
      · rw [Stopped, hsame]
        exact hstate
      · exact absurd ⟨hnormalized, hrecorded, hintent⟩ hreach
  exact endsIn_bind (finalizeRun_kept hstopped hkept) (fun _ hs => hs)
    fun _ _ hs => cleanUp_endsIn.mono fun _ => hs.same

/-- The end of a run is that of its `finally` block. -/
theorem endState_runGuarded {post : RunState R → Prop} {warnings : List String}
    (h : EndsIn post (finallyBlock git config answers
      (handleBody answers (monitoredBody answers (startState warnings repo))).2)) :
    post (endState (runGuarded git config answers warnings repo)) := by
  simp only [runGuarded]
  split
  · rename_i heq
    rw [heq] at h
    exact h
  · rename_i heq
    rw [heq] at h
    split
    · exact h
    · exact h

omit [BytesDigest] in
theorem Kept.trustedOnly {warnings : List String}
    {ended : Except (PyException × RunState R) (GuardedRunResult × RunState R)}
    (h : Kept repo (endState ended)) : TrustedOnly answers warnings repo ended :=
  ⟨fun hchanged => absurd h.repo hchanged, fun _ _ => h.request⟩

omit [BytesDigest] in
theorem commandStatus_stopped {result : GuardedCommandResult}
    (h : commandStatus result ≠ .completed) :
    commandStatus result ∈ [GuardedRunStatus.failed, .timedOut, .blocked] := by
  simp only [commandStatus] at h ⊢
  split
  · simp
  split
  · simp
  split
  · simp_all
  · simp

omit [BytesDigest] in
theorem startState_kept (warnings : List String) (repo : R) :
    Kept repo (startState warnings repo) where
  repo := rfl
  request := by simp [startState]

omit [BytesDigest] in
theorem startState_kept_of_same {warnings : List String} {result : GuardedCommandResult}
    {s : RunState R} (h : SameRun (endedState warnings repo result) s) : Kept repo s := by
  refine ⟨h.repo, ?_⟩
  rw [h.finalizationRequest]
  exact (startState_kept warnings repo).request

omit [BytesDigest] in
/-- A run whose command did not complete is stopped. -/
theorem handleBody_stopped {warnings : List String} (h : ¬ answers.CommandCompletes) :
    Stopped (handleBody answers (monitoredBody answers (startState warnings repo))).2 ∧
      Kept repo (handleBody answers (monitoredBody answers (startState warnings repo))).2 := by
  have hstart : Stopped (startState warnings repo) ∧ Kept repo (startState warnings repo) :=
    ⟨by simp [Stopped, startState], startState_kept warnings repo⟩
  have hfail : ∀ (s : RunState R) reason, Stopped s ∧ Kept repo s →
      Stopped (s.failClosed reason) ∧ Kept repo (s.failClosed reason) :=
    fun s reason hs => ⟨by simp [Stopped, RunState.failClosed], hs.2.repo, hs.2.request⟩
  refine handleBody_post ?_ hfail
  refine endsIn_call hstart fun hcreated => endsIn_call hstart fun hstarted => ?_
  refine endsIn_answer hstart fun result hran => ?_
  have hstopped := commandStatus_stopped fun hcompleted =>
    h ⟨hcreated, hstarted, result, hran, hcompleted⟩
  refine inspectWorkspace_endsIn.mono fun s hs => ⟨?_, startState_kept_of_same hs⟩
  rw [Stopped, hs.status]
  exact hstopped

end Kept

/-! ## Runs that reach their finalizer as completed -/

section Completed
variable [BytesDigest] {R : Type} {git : GitRepository R} {config : GuardedRunConfig}
  {answers : RunAnswers} {state : RunState R} {repo : R}

/-- The finalizer is asked with the variables of the run. -/
theorem finalizeRun_request :
    EndsIn (fun s => s.finalizationRequest = some (state.request config))
      (finalizeRun git config answers state) := by
  refine endsIn_exceptException ?_ fun s reason hs => hs
  rw [callFinalizer]
  generalize finalizeGuardedPatch git answers.finalizer (state.request config) state.repo = ended
  obtain ⟨ended, repo'⟩ := ended
  cases ended with
  | error exc => rfl
  | ok finalization => exact endsIn_call rfl fun _ => rfl

/-- A run that reaches its finalizer calls it with the evaluated intent. -/
theorem finallyBlock_eq (h : answers.ReachesFinalizer config) :
    finallyBlock git config answers state =
      finalizeRun git config answers (state.evaluated config answers) >>= cleanUp config answers := by
  rw [finallyBlock, h.normalized, h.recorded, evaluateIntent_eq_ok h.intent]
  rfl

/-- After an interruption of the finalizer, nothing is returned as applied. -/
theorem finalizeRun_interrupted {exc : PyException} {repo' : R} (hnone : state.finalization = none)
    (houtcome : state.patchApplyOutcome = none)
    (h : finalizeGuardedPatch git answers.finalizer (state.request config) state.repo =
      (.error exc, repo')) :
    EndsIn (fun s => s.repo = repo' ∧ s.finalization = none ∧
      s.patchApplyOutcome ≠ some .applied) (finalizeRun git config answers state) := by
  rw [finalizeRun, callFinalizer, h, exceptException]
  split
  · exact endsIn_call ⟨rfl, hnone, nofun⟩ fun _ => ⟨rfl, hnone, nofun⟩
  · exact ⟨rfl, hnone, by simp [houtcome]⟩

/-- After the finalizer has returned, the variables keep what it returned. -/
theorem finalizeRun_returned {finalization : GuardedPatchFinalizationResult} {repo' : R}
    (h : finalizeGuardedPatch git answers.finalizer (state.request config) state.repo =
      (.ok finalization, repo')) :
    EndsIn (fun s => s.repo = repo' ∧ s.finalization = some finalization)
      (finalizeRun git config answers state) := by
  refine endsIn_exceptException ?_ fun s reason hs => hs
  rw [callFinalizer, h]
  exact endsIn_call ⟨rfl, rfl⟩ fun _ => ⟨rfl, rfl⟩

/-- The outcome of the finalizer is kept exactly when its audit raises nothing. -/
theorem finalizeRun_outcome {finalization : GuardedPatchFinalizationResult} {repo' : R}
    (h : finalizeGuardedPatch git answers.finalizer (state.request config) state.repo =
      (.ok finalization, repo')) :
    (∃ s, finalizeRun git config answers state = .ok s ∧ s.patchApplyOutcome = some .applied) ↔
      answers.audit .finalized = none ∧ finalization.applyOutcome = .applied := by
  rw [finalizeRun, callFinalizer, h]
  cases haudit : answers.audit .finalized with
  | none =>
    constructor
    · rintro ⟨s, hs, houtcome⟩
      obtain rfl := Except.ok.inj hs
      exact ⟨rfl, Option.some.inj houtcome⟩
    · rintro ⟨_, houtcome⟩
      exact ⟨_, rfl, congrArg some houtcome⟩
  | some exc =>
    constructor
    · rintro ⟨s, hs, houtcome⟩
      change exceptException _ _ _ (.error (exc, _)) = _ at hs
      rw [exceptException] at hs
      split at hs
      · simp only [bind_eq_ok, call_eq_ok, exists_const] at hs
        obtain ⟨_, hstate⟩ := hs
        obtain rfl := Except.ok.inj hstate
        cases houtcome
      · cases hs
    · rintro ⟨hnone, _⟩
      cases hnone

omit [BytesDigest] in
theorem raises_cleanUp : raises (cleanUp config answers state) = answers.cleanupFault config := by
  rw [cleanUp, RunAnswers.cleanupFault]
  split
  · exact raises_call_map _ _ _
  · rw [raises_call_bind]
    congr 1
    ext1
    exact raises_answer_bind _ _ _ fun result _ => raises_call_map _ _ _

/-- What a run returns when nothing after its body raises. -/
theorem runGuarded_returned {warnings : List String} {s : RunState R}
    (hbody : monitoredBody answers (startState warnings repo) = .ok s) :
    (∃ result ended, runGuarded git config answers warnings repo = .ok (result, ended) ∧
      result.patchApplyOutcome = some .applied) ↔
    answers.releaseGuard = none ∧ ∃ ended, finallyBlock git config answers s = .ok ended ∧
      ended.patchApplyOutcome = some .applied := by
  simp only [runGuarded, hbody, handleBody]
  cases hfinally : finallyBlock git config answers s with
  | error raised => simp
  | ok ended =>
    cases hrelease : answers.releaseGuard with
    | none => simp [RunState.result]
    | some exc => simp

/-- A run whose finalizer applied the patch returns that, exactly when nothing afterwards
raises. -/
theorem runGuarded_applied {warnings : List String} {s : RunState R}
    {finalization : GuardedPatchFinalizationResult} {repo' : R}
    (hbody : monitoredBody answers (startState warnings repo) = .ok s)
    (hreach : answers.ReachesFinalizer config)
    (h : finalizeGuardedPatch git answers.finalizer ((s.evaluated config answers).request config)
      s.repo = (.ok finalization, repo')) :
    (∃ result ended, runGuarded git config answers warnings repo = .ok (result, ended) ∧
      result.patchApplyOutcome = some .applied) ↔
    answers.finishFault config = none ∧ finalization.applyOutcome = .applied := by
  rw [runGuarded_returned hbody, finallyBlock_eq hreach]
  have houtcome := finalizeRun_outcome h
  have hfault : answers.finishFault config = none ↔ answers.audit .finalized = none ∧
      answers.cleanupFault config = none ∧ answers.releaseGuard = none := by
    simp only [RunAnswers.finishFault]
    cases answers.audit .finalized <;> cases answers.cleanupFault config <;> simp
  rw [hfault]
  constructor
  · rintro ⟨hrelease, ended, hended, happlied⟩
    obtain ⟨finalized, hfinalized, hclean⟩ := bind_eq_ok.mp hended
    have hsame : EndsIn (SameTrusted finalized) (cleanUp config answers finalized) := cleanUp_endsIn
    rw [hclean] at hsame
    obtain ⟨haudit, happly⟩ := houtcome.mp ⟨finalized, hfinalized, by
      rw [← hsame.patchApplyOutcome]
      exact happlied⟩
    have hcleanup : answers.cleanupFault config = none := by
      have hraises : raises (cleanUp config answers finalized) = _ := raises_cleanUp
      rw [← hraises, hclean]
      rfl
    exact ⟨⟨haudit, hcleanup, hrelease⟩, happly⟩
  · rintro ⟨⟨haudit, hcleanup, hrelease⟩, happly⟩
    obtain ⟨finalized, hfinalized, happlied⟩ := houtcome.mpr ⟨haudit, happly⟩
    have hraises : raises (cleanUp config answers finalized) = none :=
      raises_cleanUp.trans hcleanup
    obtain ⟨ended, hclean⟩ := raises_eq_none.mp hraises
    have hsame : EndsIn (SameTrusted finalized) (cleanUp config answers finalized) := cleanUp_endsIn
    rw [hclean] at hsame
    refine ⟨hrelease, ended, bind_eq_ok.mpr ⟨finalized, hfinalized, hclean⟩, ?_⟩
    rw [hsame.patchApplyOutcome]
    exact happlied

omit [BytesDigest] in
/-- The body of a run whose command completes is what follows the command. -/
theorem monitoredBody_completes {warnings : List String} (h : answers.CommandCompletes) :
    ∃ result, answers.runCommand = .ok result ∧ commandStatus result = .completed ∧
      monitoredBody answers (startState warnings repo) = inspectWorkspace answers
        (endedState warnings repo result) := by
  obtain ⟨result, hran, hstatus⟩ := h.ran
  refine ⟨result, hran, hstatus, ?_⟩
  rw [monitoredBody, h.created, h.started, hran]
  rfl

omit [BytesDigest] in
/-- The request of a run whose body raised nothing. -/
theorem request_eq_completedRequest {warnings : List String} {result : GuardedCommandResult}
    {s : RunState R} (hstatus : commandStatus result = .completed)
    (hsame : SameRun (endedState warnings repo result) s)
    (hinspected : Inspected answers (endedState warnings repo result) s) :
    (s.evaluated config answers).request config = answers.completedRequest config result := by
  simp only [RunState.request, RunState.evaluated, RunAnswers.completedRequest, hsame.status,
    endedState, hstatus, hsame.commandResult, hinspected.patchDiff, hinspected.report, hinspected.intent]
  rfl

/-- The end of a run that reaches its finalizer keeps the request. -/
theorem finallyBlock_request (hreach : answers.ReachesFinalizer config) :
    EndsIn (fun s => ∃ request, s.finalizationRequest = some request ∧
      request.currentStatus = state.status.value) (finallyBlock git config answers state) := by
  rw [finallyBlock_eq hreach]
  refine endsIn_bind (finalizeRun_request.mono fun s hs => ⟨_, hs, rfl⟩) (fun _ hs => hs) ?_
  rintro finalized _ ⟨request, hrequest, hstatus⟩
  exact cleanUp_endsIn.mono fun s hs => ⟨request, hs.finalizationRequest.trans hrequest, hstatus⟩

/-- A run whose body was left by an exception after the command completed. -/
theorem trustedOnly_aborted_iff {warnings : List String} {exc : PyException} {s : RunState R}
    (hbody : monitoredBody answers (startState warnings repo) = .error (exc, s))
    (hkept : Kept repo s) (hcompleted : s.status = .completed) :
    TrustedOnly answers warnings repo (runGuarded git config answers warnings repo) ↔
      (answers.ReachesFinalizer config →
        exc.isInstance (commandErrors ++ patchErrors) = true) := by
  have hclasses : exc.isInstance (commandErrors ++ patchErrors) =
      (exc.isInstance commandErrors || exc.isInstance patchErrors) := List.any_append
  have htrusted : Stopped (handleBody answers (monitoredBody answers (startState warnings repo))).2 ∨
      ¬ answers.ReachesFinalizer config →
      Kept repo (handleBody answers (monitoredBody answers (startState warnings repo))).2 →
      TrustedOnly answers warnings repo (runGuarded git config answers warnings repo) :=
    fun hstop hhandled => (endState_runGuarded (finallyBlock_kept hhandled hstop)).trustedOnly
  have hclosed : Stopped (s.failClosed exc.message) ∧ Kept repo (s.failClosed exc.message) :=
    ⟨by simp [Stopped, RunState.failClosed], hkept.repo, hkept.request⟩
  by_cases hcommand : exc.isInstance commandErrors = true
  · have hhandled : (handleBody answers (monitoredBody answers (startState warnings repo))).2 =
        s.failClosed exc.message := by
      simp [hbody, handleBody, hcommand]
    rw [hhandled] at htrusted
    exact ⟨fun _ _ => by simp [hclasses, hcommand], fun _ => htrusted (.inl hclosed.1) hclosed.2⟩
  by_cases hpatch : exc.isInstance patchErrors = true
  · have hhandled : (handleBody answers (monitoredBody answers (startState warnings repo))).2 =
        s.failClosed exc.message := by
      simp [hbody, handleBody, hcommand, hpatch]
    rw [hhandled] at htrusted
    exact ⟨fun _ _ => by simp [hclasses, hpatch], fun _ => htrusted (.inl hclosed.1) hclosed.2⟩
  have hraised : (handleBody answers (monitoredBody answers (startState warnings repo))).2 = s := by
    simp [hbody, handleBody, hcommand, hpatch]
  by_cases hreach : answers.ReachesFinalizer config
  · constructor
    · intro htrust _
      have hend : EndsIn (fun s' => ∃ request, s'.finalizationRequest = some request ∧
          request.currentStatus = s.status.value) (finallyBlock git config answers s) :=
        finallyBlock_request hreach
      rw [← hraised] at hend
      obtain ⟨request, hrequest, hstatus⟩ := endState_runGuarded hend
      rw [hraised, hcompleted] at hstatus
      exact absurd hstatus (htrust.aborted _ hbody request hrequest)
    · intro h
      simp [hclasses, hcommand, hpatch] at h
      exact absurd hreach h
  · rw [hraised] at htrusted
    exact ⟨fun _ h => absurd h hreach, fun _ => htrusted (.inr hreach) hkept⟩

/-- A run that ends with the finalizer's answer, given what the finalizer answered. -/
theorem trustedOnly_finished_iff (hinverse : git.Inverse) {warnings : List String} {s : RunState R}
    (hbody : monitoredBody answers (startState warnings repo) = .ok s)
    (hreach : answers.ReachesFinalizer config) (hrepo : s.repo = repo)
    (hnone : s.finalization = none) (houtcome : s.patchApplyOutcome = none)
    {request : GuardedPatchFinalizationRequest}
    (hrequest : (s.evaluated config answers).request config = request)
    {ended : Except PyException GuardedPatchFinalizationResult} {repo' : R}
    (hfinalize : finalizeGuardedPatch git answers.finalizer request repo = (ended, repo')) :
    TrustedOnly answers warnings repo (runGuarded git config answers warnings repo) ↔
      (repo' ≠ repo → (∃ finalization, ended = .ok finalization) ∧
        (answers.finishFault config = none ∨
          ∃ finalization, ended = .ok finalization ∧ RollbackFailed finalization)) := by
  subst hrequest hrepo
  have hhandled : (handleBody answers (monitoredBody answers (startState warnings s.repo))).2 = s := by
    rw [hbody]
    rfl
  have hnoabort : ∀ raised, monitoredBody answers (startState warnings s.repo) = .error raised →
      ∀ request, (endState (runGuarded git config answers warnings s.repo)).finalizationRequest =
        some request → request.currentStatus ≠ "completed" := by
    intro raised herror
    rw [hbody] at herror
    nomatch herror
  cases ended with
  | error exc =>
    have hend : EndsIn (fun s' => s'.repo = repo' ∧ s'.finalization = none ∧
        s'.patchApplyOutcome ≠ some .applied) (finallyBlock git config answers s) := by
      rw [finallyBlock_eq hreach]
      refine endsIn_bind (finalizeRun_interrupted hnone houtcome hfinalize) (fun _ h => h) ?_
      rintro finalized _ ⟨hrepo, hnone, houtcome⟩
      exact cleanUp_endsIn.mono fun s' h => ⟨h.repo.trans hrepo, h.finalization.trans hnone,
        by rw [h.patchApplyOutcome]; exact houtcome⟩
    have hstate := hend
    rw [← hhandled] at hstate
    obtain ⟨hrepo, hfinalization, _⟩ := endState_runGuarded hstate
    constructor
    · intro htrust hchanged
      rcases htrust.changed (by rw [hrepo]; exact hchanged) with happlied | ⟨finalization, hsome, _⟩
      · obtain ⟨_, final, hfinal, happlied⟩ := (runGuarded_returned hbody).mp happlied
        rw [hfinal] at hend
        exact absurd happlied hend.2.2
      · rw [hfinalization] at hsome
        nomatch hsome
    · intro h
      refine ⟨fun hchanged => ?_, hnoabort⟩
      obtain ⟨⟨_, hok⟩, _⟩ := h (by rw [← hrepo]; exact hchanged)
      nomatch hok
  | ok finalization =>
    have hend : EndsIn (fun s' => s'.repo = repo' ∧ s'.finalization = some finalization)
        (finallyBlock git config answers s) := by
      rw [finallyBlock_eq hreach]
      refine endsIn_bind (finalizeRun_returned hfinalize) (fun _ h => h) ?_
      rintro finalized _ ⟨hrepo, hsome⟩
      exact cleanUp_endsIn.mono fun s' h => ⟨h.repo.trans hrepo, h.finalization.trans hsome⟩
    rw [← hhandled] at hend
    obtain ⟨hrepo, hfinalization⟩ := endState_runGuarded hend
    have happlied := runGuarded_applied hbody hreach hfinalize
    constructor
    · intro htrust hchanged
      refine ⟨⟨finalization, rfl⟩, ?_⟩
      rcases htrust.changed (by rw [hrepo]; exact hchanged) with hreturned | ⟨_, hsome, hrollback⟩
      · exact .inl (happlied.mp hreturned).1
      · rw [hfinalization] at hsome
        obtain rfl := Option.some.inj hsome
        exact .inr ⟨finalization, rfl, hrollback⟩
    · intro h
      refine ⟨fun hchanged => ?_, hnoabort⟩
      rw [hrepo] at hchanged
      obtain ⟨_, hfinish | ⟨other, hother, hrollback⟩⟩ := h hchanged
      · rcases finalizeGuardedPatch_changed hinverse hfinalize hchanged with houtcome | hrollback
        · exact .inl (happlied.mpr ⟨hfinish, houtcome⟩)
        · exact .inr ⟨finalization, hfinalization, hrollback⟩
      · obtain rfl := Except.ok.inj hother
        exact .inr ⟨finalization, hfinalization, hrollback⟩

/-- A run keeps what it promises exactly when it is not disturbed after its command has
completed. -/
theorem runGuarded_trustedOnly_iff (hinverse : git.Inverse) (warnings : List String) :
    TrustedOnly answers warnings repo (runGuarded git config answers warnings repo) ↔
      (answers.CommandCompletes → answers.ReachesFinalizer config →
        ∀ result, answers.runCommand = .ok result →
          Undisturbed git config answers result repo) := by
  by_cases hcompletes : answers.CommandCompletes
  swap
  · obtain ⟨hstopped, hhandled⟩ : Stopped (handleBody answers
        (monitoredBody answers (startState warnings repo))).2 ∧ Kept repo (handleBody answers
        (monitoredBody answers (startState warnings repo))).2 := handleBody_stopped hcompletes
    have hkept : Kept repo (endState (runGuarded git config answers warnings repo)) :=
      endState_runGuarded (finallyBlock_kept hhandled (.inl hstopped))
    exact ⟨fun _ h => absurd h hcompletes, fun _ => hkept.trustedOnly⟩
  obtain ⟨result, hran, hstatus, hbody⟩ : ∃ result, answers.runCommand = .ok result ∧
      commandStatus result = .completed ∧ monitoredBody answers (startState warnings repo) =
        inspectWorkspace answers (endedState warnings repo result) :=
    monitoredBody_completes hcompletes
  have hsame : EndsIn (SameRun (endedState warnings repo result))
      (inspectWorkspace answers (endedState warnings repo result)) := inspectWorkspace_endsIn
  have hresult : (answers.CommandCompletes → answers.ReachesFinalizer config →
      ∀ result, answers.runCommand = .ok result → Undisturbed git config answers result repo) ↔
      (answers.ReachesFinalizer config → Undisturbed git config answers result repo) := by
    constructor
    · exact fun h hreach => h hcompletes hreach result hran
    · intro h _ hreach other hother
      obtain rfl : result = other := by
        rw [hran] at hother
        exact Except.ok.inj hother
      exact h hreach
  rw [hresult]
  have hraises : raises (inspectWorkspace answers (endedState warnings repo result)) =
      answers.bodyFault := raises_inspectWorkspace
  cases hfault : answers.bodyFault with
  | some exc =>
    obtain ⟨s, hs⟩ := raises_eq_some.mp (hraises.trans hfault)
    rw [hs] at hsame hbody
    rw [trustedOnly_aborted_iff hbody (startState_kept_of_same hsame) (hsame.status.trans hstatus)]
    constructor
    · intro h hreach
      refine ⟨fun other hother => ?_, fun hnone => ?_⟩
      · obtain rfl := Option.some.inj (hfault.symm.trans hother)
        exact h hreach
      · rw [hfault] at hnone
        nomatch hnone
    · exact fun h hreach => (h hreach).body exc hfault
  | none =>
    obtain ⟨s, hs⟩ := raises_eq_none.mp (hraises.trans hfault)
    have hinspected := inspectWorkspace_eq_ok hs
    rw [hs] at hsame hbody
    by_cases hreach : answers.ReachesFinalizer config
    · have hrequest : (s.evaluated config answers).request config =
          answers.completedRequest config result :=
        request_eq_completedRequest hstatus hsame hinspected
      obtain ⟨ended, repo', hfinalize⟩ : ∃ ended repo', finalizeGuardedPatch git answers.finalizer
          (answers.completedRequest config result) repo = (ended, repo') := ⟨_, _, rfl⟩
      have hiff := trustedOnly_finished_iff hinverse hbody hreach hsame.repo hsame.finalization
        hsame.patchApplyOutcome hrequest hfinalize
      rw [hiff]
      constructor
      · intro h _
        refine ⟨fun exc hexc => ?_, fun _ other other' hother hchanged => ?_⟩
        · rw [hfault] at hexc
          nomatch hexc
        · obtain ⟨rfl, rfl⟩ := Prod.mk.inj (hfinalize.symm.trans hother)
          exact h hchanged
      · exact fun h hchanged => (h hreach).finish hfault ended repo' hfinalize hchanged
    · have hend : EndsIn (Kept repo) (finallyBlock git config answers
          (handleBody answers (monitoredBody answers (startState warnings repo))).2) := by
        rw [hbody]
        exact finallyBlock_kept (startState_kept_of_same hsame) (.inr hreach)
      exact ⟨fun _ h => absurd h hreach, fun _ => (endState_runGuarded hend).trustedOnly⟩

end Completed

/-! ## An audit that fails after the patch was classified -/

namespace Sample

def guideDecision : PatchRiskDecision :=
  ⟨true, .low, "Guarded patch accepted by deterministic patch-risk gate.", guideReport "docs/a.md"⟩

/-- A command that changes one line of a guide; only the audit may raise. -/
def guideRun (audit : AuditPoint → Option PyException) : RunAnswers where
  audit := audit
  runCommand := .ok ⟨some 0, [], [], false, false⟩
  detectChangedFiles := .ok ⟨"/work/ws", "4b825dc642cb6eb9a060e54bf8d69288fbee4904",
    [⟨"docs/a.md", .modified, none, none, none, false⟩], []⟩
  generatePatchDiff := .ok (onePatch "docs/a.md")
  classifyAndDecidePatch := .ok guideDecision
  normalizeActions := none
  evaluateIntentContract := .error (safePatchApplyError "")
  buildIntentReview := none
  finalizer := smoothAnswers (onePatch "docs/a.md")
  destroyRecoverySession := .ok ⟨.worktreeRemoved, "Removed.", false⟩
  releaseGuard := none

def localConfig : GuardedRunConfig := ⟨"/work/repo", false, false, true⟩

/-- The log cannot be written when the patch was generated. -/
def fullDisk : AuditPoint → Option PyException
  | .patchGenerated => some ⟨[.osError, .exception, .baseException], "No space left on device"⟩
  | _ => none

end Sample

open Rygnal.GuardedRun.Sample

/-- With every audit written, the guide is applied and the run returns that. -/
theorem guide_run_trusted :
    (runGuarded switch localConfig (guideRun fun _ => none) [] false).toOption.any
        (fun ended => ended.1.patchApplyOutcome = some .applied) = true ∧
      TrustedOnly (guideRun fun _ => none) [] false
        (runGuarded switch localConfig (guideRun fun _ => none) [] false) := by
  refine ⟨by decide, (runGuarded_trustedOnly_iff switch_inverse []).mpr ?_⟩
  rintro _ _ result ⟨⟩
  constructor
  · intro exc hexc
    have hnone : (guideRun fun _ => none).bodyFault = none := by decide
    rw [hnone] at hexc
    nomatch hexc
  · intro _ ended repo' hended _
    have hok : (finalizeGuardedPatch switch (guideRun fun _ => none).finalizer
        ((guideRun fun _ => none).completedRequest localConfig ⟨some 0, [], [], false, false⟩)
        false).1.toOption.isSome = true := by decide +kernel
    rw [hended] at hok
    cases ended with
    | ok finalization => exact ⟨⟨finalization, rfl⟩, .inl rfl⟩
    | error exc => nomatch hok

/-- With the log full at the last audit of the body, the guide is applied, and the run is left by
the exception. -/
theorem full_disk_not_trusted :
    ¬ TrustedOnly (guideRun fullDisk) [] false
      (runGuarded switch localConfig (guideRun fullDisk) [] false) := by
  intro htrust
  have hrepo : (endState (runGuarded switch localConfig (guideRun fullDisk) [] false)).repo =
      true := by decide
  have hraised : (runGuarded switch localConfig (guideRun fullDisk) [] false).toOption.isNone =
      true := by decide
  have hreason : (endState (runGuarded switch localConfig (guideRun fullDisk) [] false)
      ).finalization.any (fun finalization => finalization.blockedReason.isSome) = false := by
    decide
  rcases htrust.changed (by rw [hrepo]; decide) with ⟨result, state, hok, _⟩ |
    ⟨finalization, hsome, text, hrollback⟩
  · rw [hok] at hraised
    nomatch hraised
  · rw [hsome] at hreason
    simp [hrollback] at hreason

end Rygnal.GuardedRun
