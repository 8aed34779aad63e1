import Rygnal.GuardedRun.Interruption
import Rygnal.Intent.ActionNormalizer

/-! # The end of a guarded run

`run_guarded` from its argument list on: which calls raise before the disposable workspace is
destroyed, and which arguments and changed paths the normalizer does not take.
-/

namespace Rygnal.GuardedRun
open Rygnal.Core Rygnal.Core.PyException Rygnal.Library Rygnal.Library.PyText
  Rygnal.Library.Unwinding Rygnal.ChangeRisk Rygnal.Approval Rygnal.Artifact Rygnal.Intent

/-! ## Arguments -/

/-- The `command` of a call; an item is `none` where it is not a string. -/
inductive CommandInput where
  | shellString (command : String)
  | notIterable
  | items (items : List (Option String))
deriving DecidableEq, Repr

/-- `_validate_command`. -/
def validateCommand : CommandInput → Except String (List String)
  | .shellString _ => .error "Command must be argv-style, not a shell string."
  | .notIterable => .error "Command must be an argv-style iterable of strings."
  | .items items =>
    if items = [] then .error "Command must not be empty."
    else if none ∈ items then .error "Every command item must be a string."
    else if some "" ∈ items then .error "Command items must not be empty strings."
    else .ok (items.filterMap id)

section Normalizing
variable [UnicodeTables]

/-- `run_guarded` up to its first audit: a refused command is reported, and the normalizer of an
accepted one can raise. -/
def startRun (command : CommandInput) : Except PyException (Except String (List String)) :=
  match validateCommand command with
  | .error reason => .ok (.error reason)
  | .ok argv => (normalizeCommandAction argv).map fun _ => .ok argv

def ChangedFile.effect (file : ChangedFile) : Intent.ChangedFile :=
  ⟨file.path, file.kind, file.oldPath⟩

/-- What `normalize_guarded_actions` raises. -/
def normalizationFault (argv : List String) (report : Option ChangedFileReport) :
    Option PyException :=
  failureOf (normalizeGuardedActions argv
    (report.map fun report => report.files.map ChangedFile.effect))

/-- The paths of a command are not blank. -/
def PlainArguments (argv : List String) : Prop :=
  ∀ path ∈ extractRepoPaths argv, isPresent path = true

instance (argv : List String) : Decidable (PlainArguments argv) :=
  inferInstanceAs (Decidable (∀ path ∈ extractRepoPaths argv, _))

/-- The paths of a changed file are not blank, and those of a rename are there and not too long. -/
structure PlainEffect (file : Intent.ChangedFile) : Prop where
  present : ∀ path ∈ affectedPathsForChangedFile file, isPresent path = true
  renamed : file.kind = .renamed → ∃ oldPath, file.oldPath = some oldPath ∧
    oldPath.length ≤ maxPathLength ∧ file.path.length ≤ maxPathLength

omit [UnicodeTables] in
theorem isPlain_stripString {path : String} :
    Intent.isPlain (stripString path) = true ↔ isPresent path = true := by
  have hempty : String.ofList (strip path.toList) = "" ↔ strip path.toList = [] := by
    rw [← String.toList_inj]
    simp
  simp [Intent.isPlain, stripString, isPresent, hempty]

omit [UnicodeTables] in
/-- When the constructor of an action raises nothing. -/
theorem normalizedAction_isOk {source : NormalizedActionSource} {operation : IntentOperation}
    {affectedPaths : List String} {oldPath newPath : Option String} {resourceKind : ResourceKind} :
    (∃ action, normalizedAction source operation affectedPaths oldPath newPath resourceKind =
        .ok action) ↔
      (∀ path ∈ oldPath.toList ++ newPath.toList, path.length ≤ maxPathLength) ∧
      (∀ path ∈ affectedPaths ++ oldPath.toList ++ newPath.toList, isPresent path = true) ∧
      (operation = .rename → oldPath.isSome = true ∧ newPath.isSome = true) := by
  have hplain : (∀ path ∈ affectedPaths.map stripString ++ (oldPath.map stripString).toList ++
        (newPath.map stripString).toList, Intent.isPlain path = true) ↔
      ∀ path ∈ affectedPaths ++ oldPath.toList ++ newPath.toList, isPresent path = true := by
    rw [Option.toList_map, Option.toList_map, ← List.map_append, ← List.map_append]
    simp only [List.forall_mem_map, isPlain_stripString]
  have hlong : ((oldPath.toList ++ newPath.toList).any fun path => maxPathLength < path.length) =
      false ↔ ∀ path ∈ oldPath.toList ++ newPath.toList, path.length ≤ maxPathLength := by
    simp only [List.any_eq_false, decide_eq_true_eq, not_lt]
  rw [normalizedAction, ← hlong, ← hplain]
  simp only [Option.isSome_map]
  split
  · rename_i htoo
    simp [htoo]
  · rename_i hshort
    rw [Bool.not_eq_true] at hshort
    simp only [hshort, true_and]
    split
    · rename_i hok
      exact iff_of_true ⟨_, rfl⟩ hok
    · rename_i hbad
      exact iff_of_false nofun hbad

theorem operationFromCommand_ne_rename (argv : List String) :
    operationFromCommand argv ≠ .rename := by
  have hite : ∀ (p : Prop) [Decidable p] (x y : IntentOperation), x ≠ .rename → y ≠ .rename →
      (if p then x else y) ≠ .rename := by
    intro p _ x y hx hy
    split
    · exact hx
    · exact hy
  unfold operationFromCommand
  repeat' apply hite
  all_goals exact nofun

theorem normalizeCommandAction_isOk {argv : List String} :
    (∃ action, normalizeCommandAction argv = .ok action) ↔ PlainArguments argv := by
  rw [normalizeCommandAction, normalizedAction_isOk, PlainArguments]
  simp [operationFromCommand_ne_rename]

theorem normalizeChangedFileAction_isOk {file : Intent.ChangedFile} :
    (∃ action, normalizeChangedFileAction file = .ok action) ↔ PlainEffect file := by
  rw [normalizeChangedFileAction, normalizedAction_isOk]
  obtain ⟨path, kind, oldPath⟩ := file
  by_cases hrenamed : kind = .renamed
  · subst hrenamed
    cases oldPath with
    | none =>
      refine iff_of_false (fun h => ?_) fun h => ?_
      · exact absurd (h.2.2 rfl).1 (by simp)
      · have ⟨_, hsome, _⟩ := h.renamed rfl
        cases hsome
    | some oldPath =>
      constructor
      · intro ⟨hlength, hpresent, _⟩
        refine ⟨fun p hp => hpresent p (by simp_all), fun _ => ⟨oldPath, rfl, ?_⟩⟩
        exact ⟨hlength oldPath (by simp), hlength path (by simp)⟩
      · intro h
        have ⟨_, hsome, hold, hnew⟩ := h.renamed rfl
        cases hsome
        have hpresent := h.present
        simp only [affectedPathsForChangedFile, if_true] at hpresent
        refine ⟨?_, ?_, fun _ => ⟨rfl, rfl⟩⟩
        · simp [hold, hnew]
        · intro p hp
          refine hpresent p ?_
          simp only [affectedPathsForChangedFile, if_true, Option.toList_some] at hp
          simp at hp
          simp only [List.mem_append, Option.toList_some, List.mem_singleton]
          tauto
  · have hoperation : operationFromChangedFile ⟨path, kind, oldPath⟩ ≠ .rename := by
      cases kind <;> simp_all [operationFromChangedFile]
    simp only [hrenamed, if_false, hoperation, false_implies, and_true]
    constructor
    · intro ⟨_, hpresent⟩
      exact ⟨fun p hp => hpresent p (by simpa using hp), fun h => absurd h hrenamed⟩
    · intro h
      exact ⟨by simp, fun p hp => h.present p (by simpa using hp)⟩

theorem mapM_normalizeChangedFileAction_isOk {files : List Intent.ChangedFile} :
    (∃ actions, files.mapM normalizeChangedFileAction = .ok actions) ↔
      ∀ file ∈ files, PlainEffect file := by
  rw [mapM_eq_ok_iff]
  simp only [normalizeChangedFileAction_isOk]

/-- The normalizer of a run raises nothing exactly when all its paths are plain. -/
theorem normalizationFault_eq_none {argv : List String} {report : Option ChangedFileReport} :
    normalizationFault argv report = none ↔ PlainArguments argv ∧
      ∀ files ∈ report, ∀ file ∈ files.files, PlainEffect file.effect := by
  rw [normalizationFault, failureOf_eq_none, ← normalizeCommandAction_isOk]
  simp only [normalizeGuardedActions, bind_eq_ok]
  have hfiles : (∃ actions, ((report.map fun report => report.files.map ChangedFile.effect).getD
      []).mapM normalizeChangedFileAction = .ok actions) ↔
        ∀ files ∈ report, ∀ file ∈ files.files, PlainEffect file.effect := by
    rw [mapM_normalizeChangedFileAction_isOk]
    cases report with
    | none => simp
    | some report => simp
  rw [← hfiles]
  constructor
  · rintro ⟨_, action, haction, actions, hactions, _⟩
    exact ⟨⟨action, haction⟩, actions, hactions⟩
  · rintro ⟨⟨action, haction⟩, actions, hactions⟩
    exact ⟨_, action, haction, actions, hactions, rfl⟩

/-! ## Runs of a command -/

section Running
variable [BytesDigest] {R : Type}

/-- The variables when the `finally` block begins. -/
def handledState (answers : RunAnswers) (warnings : List String) (repo : R) : RunState R :=
  (handleBody answers (monitoredBody answers (startState warnings repo))).2

/-- The answers of a run that normalizes the given arguments and the files it has found. -/
def RunAnswers.normalizing (answers : RunAnswers) (argv : List String) (warnings : List String)
    (repo : R) : RunAnswers :=
  { answers with
    normalizeActions :=
      normalizationFault argv (handledState answers warnings repo).changedFileReport }

/-- `run_guarded` for a command whose recovery session is created. -/
def runCommandGuarded (git : GitRepository R) (config : GuardedRunConfig) (answers : RunAnswers)
    (command : CommandInput) (warnings : List String) (repo : R) :
    Except (PyException × RunState R) (GuardedRunResult × RunState R) :=
  match startRun command with
  | .error exc => .error (exc, startState warnings repo)
  | .ok (.error reason) =>
    let blocked := { startState warnings repo with status := .blocked, blockedReason := some reason }
    .ok (blocked.result, blocked)
  | .ok (.ok argv) =>
    runGuarded git config (answers.normalizing argv warnings repo) warnings repo

/-- `destroy_recovery_session` has removed or quarantined the workspace. -/
def Destroyed (state : RunState R) : Prop :=
  state.cleanupStatus = some CleanupStatus.worktreeRemoved.value ∨
    state.cleanupStatus = some CleanupStatus.worktreeQuarantined.value

/-- No session outlives the run, and the normalizer does not raise for an accepted command. -/
structure Concluded (git : GitRepository R) (config : GuardedRunConfig) (answers : RunAnswers)
    (command : CommandInput) (warnings : List String) (repo : R) : Prop where
  destroyed : config.preserveWorkspace = false → ∀ argv, startRun command = .ok (.ok argv) →
    Destroyed (endState (runCommandGuarded git config answers command warnings repo))
  normalized : ∀ argv, validateCommand command = .ok argv →
    (∃ started, startRun command = .ok started) ∧
      normalizationFault argv (handledState answers warnings repo).changedFileReport = none

/-- What the evaluation of the intent contract raises first. -/
def RunAnswers.intentFault (config : GuardedRunConfig) (answers : RunAnswers) : Option PyException :=
  if config.hasIntentContract then
    failureOf answers.evaluateIntentContract <|> answers.buildIntentReview <|>
      answers.audit .intentEvaluated
  else none

/-- What the finalizer, or the audit of its result, raises. -/
def finalizerFault (git : GitRepository R) (config : GuardedRunConfig) (answers : RunAnswers)
    (state : RunState R) : Option PyException :=
  failureOf (finalizeGuardedPatch git answers.finalizer (state.request config) state.repo).1 <|>
    answers.audit .finalized

/-- The `finally` block before the cleanup. -/
def beforeCleanup (git : GitRepository R) (config : GuardedRunConfig) (answers : RunAnswers)
    (state : RunState R) : Except (PyException × RunState R) (RunState R) := do
  call state answers.normalizeActions
  call state (answers.audit .normalizedActions)
  let evaluated ← evaluateIntent config answers state
  finalizeRun git config answers evaluated

omit [UnicodeTables] in
theorem finallyBlock_eq_bind (git : GitRepository R) (config : GuardedRunConfig)
    (answers : RunAnswers) (state : RunState R) : finallyBlock git config answers state =
      beforeCleanup git config answers state >>= cleanUp config answers := by
  simp only [finallyBlock, beforeCleanup, bind_assoc]

/-- A fault that a handler catches and reports. -/
def Caught (fault : Option PyException) (report : Option PyException) : Prop :=
  ∀ exc, fault = some exc → exc.isInstance [.exception] = true ∧ report = none

omit [BytesDigest] [UnicodeTables] in
theorem exceptException_eq_ok {text : String} {fault : Option PyException}
    {handled : RunState R → RunState R} {x : Except (PyException × RunState R) (RunState R)} :
    (∃ s, exceptException text fault handled x = .ok s) ↔ Caught (raises x) fault := by
  cases x with
  | ok s => simp [exceptException, Caught]
  | error raised =>
    obtain ⟨exc, state⟩ := raised
    by_cases hordinary : exc.isInstance [.exception] = true
    · cases fault with
      | none => simp [exceptException, Caught, hordinary]
      | some exc' => simp [exceptException, Caught, hordinary]
    · simp [exceptException, Caught, hordinary]

omit [BytesDigest] [UnicodeTables] in
theorem raises_evaluateContract {config : GuardedRunConfig} {answers : RunAnswers}
    {state : RunState R} :
    raises (evaluateContract config answers state) = answers.intentFault config := by
  rw [evaluateContract, RunAnswers.intentFault]
  split
  · apply raises_answer_bind
    intro evaluation _
    rw [raises_call_bind]
    congr 1
    ext1
    exact raises_call_map _ _ _
  · rfl

omit [UnicodeTables] in
theorem raises_callFinalizer {git : GitRepository R} {config : GuardedRunConfig}
    {answers : RunAnswers} {state : RunState R} :
    raises (callFinalizer git config answers state) = finalizerFault git config answers state := by
  rw [callFinalizer, finalizerFault]
  cases finalizeGuardedPatch git answers.finalizer (state.request config) state.repo with
  | mk ended repo =>
    cases ended with
    | error exc => rfl
    | ok finalization => exact raises_call_map _ _ _

/-! ## When the workspace is destroyed -/

section Cleanup
variable {git : GitRepository R} {config : GuardedRunConfig} {answers : RunAnswers}
  {state : RunState R} {repo : R}

/-- Nothing escapes from the `finally` block before the session is destroyed. -/
structure ReachesCleanup (git : GitRepository R) (config : GuardedRunConfig) (answers : RunAnswers)
    (state : RunState R) : Prop where
  recorded : answers.audit .normalizedActions = none
  intent : Caught (answers.intentFault config) (answers.audit .intentEvaluationFailed)
  finalizer : ∀ evaluated, evaluateIntent config answers state = .ok evaluated →
    Caught (finalizerFault git config answers evaluated) (answers.audit .finalizationFailed)
  started : answers.audit .cleanupStarted = none
  destroyed : ∃ result, answers.destroyRecoverySession = .ok result ∧ result.status ≠ .cleanupFailed

/-- The session was not cleaned up yet. -/
def Uncleaned (state : RunState R) : Prop := state.cleanupStatus = none

omit [BytesDigest] [UnicodeTables] in
theorem Uncleaned.not_destroyed (h : Uncleaned state) : ¬ Destroyed state := by
  rw [Destroyed, h]
  simp

omit [BytesDigest] [UnicodeTables] in
theorem inspectWorkspace_uncleaned (h : Uncleaned state) :
    EndsIn Uncleaned (inspectWorkspace answers state) := by
  refine endsIn_call h fun _ => ?_
  refine endsIn_answer h fun report _ => ?_
  refine endsIn_call h fun _ => ?_
  have hclassify : EndsIn Uncleaned
      (classifyChanges answers report { state with changedFileReport := some report }) := by
    rw [classifyChanges]
    split
    · exact h
    refine endsIn_answer h fun _ _ => ?_
    refine endsIn_answer h fun _ _ => ?_
    exact endsIn_call h fun _ => h
  refine endsIn_bind hclassify (fun _ h => h) fun _ _ h => ?_
  exact endsIn_call h fun _ => h

omit [BytesDigest] [UnicodeTables] in
theorem handledState_uncleaned (warnings : List String) (repo : R) :
    Uncleaned (handledState answers warnings repo) := by
  have hstart : Uncleaned (startState warnings repo) := rfl
  apply handleBody_post
  · refine endsIn_call hstart fun _ => ?_
    refine endsIn_call hstart fun _ => ?_
    exact endsIn_answer hstart fun _ _ => inspectWorkspace_uncleaned rfl
  · exact fun _ _ h => h

omit [BytesDigest] [UnicodeTables] in
theorem evaluateIntent_uncleaned (h : Uncleaned state) :
    EndsIn Uncleaned (evaluateIntent config answers state) := by
  refine endsIn_exceptException ?_ fun _ _ hs => hs
  rw [evaluateContract]
  split
  · refine endsIn_answer h fun _ _ => ?_
    refine endsIn_call h fun _ => ?_
    exact endsIn_call h fun _ => h
  · exact h

omit [UnicodeTables] in
theorem finalizeRun_uncleaned (h : Uncleaned state) :
    EndsIn Uncleaned (finalizeRun git config answers state) := by
  refine endsIn_exceptException ?_ fun _ _ hs => hs
  rw [callFinalizer]
  cases finalizeGuardedPatch git answers.finalizer (state.request config) state.repo with
  | mk ended repo =>
    cases ended with
    | error exc => exact h
    | ok finalization => exact endsIn_call h fun _ => h

omit [UnicodeTables] in
theorem beforeCleanup_uncleaned (h : Uncleaned state) :
    EndsIn Uncleaned (beforeCleanup git config answers state) := by
  refine endsIn_call h fun _ => ?_
  refine endsIn_call h fun _ => ?_
  exact endsIn_bind (evaluateIntent_uncleaned h) (fun _ h => h) fun _ _ h => finalizeRun_uncleaned h

omit [UnicodeTables] in
/-- When the `finally` block reaches its cleanup. -/
theorem beforeCleanup_eq_ok : (∃ s, beforeCleanup git config answers state = .ok s) ↔
    answers.normalizeActions = none ∧ answers.audit .normalizedActions = none ∧
      Caught (answers.intentFault config) (answers.audit .intentEvaluationFailed) ∧
      ∀ evaluated, evaluateIntent config answers state = .ok evaluated →
        Caught (finalizerFault git config answers evaluated)
          (answers.audit .finalizationFailed) := by
  have hintent : (∃ s, evaluateIntent config answers state = .ok s) ↔
      Caught (answers.intentFault config) (answers.audit .intentEvaluationFailed) := by
    rw [evaluateIntent, exceptException_eq_ok, raises_evaluateContract]
  have hfinalize : ∀ evaluated, (∃ s, finalizeRun git config answers evaluated = .ok s) ↔
      Caught (finalizerFault git config answers evaluated)
        (answers.audit .finalizationFailed) := by
    intro evaluated
    rw [finalizeRun, exceptException_eq_ok, raises_callFinalizer]
  simp only [beforeCleanup, bind_eq_ok, call_eq_ok, exists_const, ← hintent, ← hfinalize]
  constructor
  · rintro ⟨s, hnormalized, hrecorded, evaluated, hevaluated, hs⟩
    refine ⟨hnormalized, hrecorded, ⟨evaluated, hevaluated⟩, ?_⟩
    intro other hother
    obtain rfl := Except.ok.inj (hevaluated.symm.trans hother)
    exact ⟨s, hs⟩
  · rintro ⟨hnormalized, hrecorded, ⟨evaluated, hevaluated⟩, hall⟩
    obtain ⟨s, hs⟩ := hall evaluated hevaluated
    exact ⟨s, hnormalized, hrecorded, evaluated, hevaluated, hs⟩

omit [BytesDigest] [UnicodeTables] in
/-- The cleanup of a session that is not preserved. -/
theorem cleanUp_destroyed (hpreserve : config.preserveWorkspace = false) (h : Uncleaned state) :
    EndsIn (fun s => Destroyed s ↔ answers.audit .cleanupStarted = none ∧
      ∃ result, answers.destroyRecoverySession = .ok result ∧ result.status ≠ .cleanupFailed)
      (cleanUp config answers state) := by
  have hstarted : Uncleaned { state with cleanupPerformed := true } := h
  rw [cleanUp, hpreserve]
  simp only [Bool.false_eq_true, if_false]
  cases hcall : answers.audit .cleanupStarted with
  | some exc =>
    apply iff_of_false hstarted.not_destroyed
    rintro ⟨hnone, _⟩
    cases hnone
  | none =>
    cases hdestroy : answers.destroyRecoverySession with
    | error exc =>
      apply iff_of_false hstarted.not_destroyed
      rintro ⟨_, _, hresult, _⟩
      cases hresult
    | ok result =>
      have hstatus : Destroyed (RunState.withCleanup { state with cleanupPerformed := true }
          result) ↔ result.status ≠ .cleanupFailed := by
        have hvalue : (RunState.withCleanup { state with cleanupPerformed := true }
            result).cleanupStatus = some result.status.value := by
          simp only [RunState.withCleanup]
          split <;> rfl
        rw [Destroyed, hvalue]
        cases result.status <;> decide
      have hend : Destroyed (RunState.withCleanup { state with cleanupPerformed := true }
          result) ↔ (none : Option PyException) = none ∧ ∃ result', Except.ok result =
            (Except.ok result' : Except PyException CleanupResult) ∧
            result'.status ≠ .cleanupFailed := by
        rw [hstatus]
        simp
      change EndsIn _ (call _ (answers.audit .cleanupEnded) >>= fun _ => .ok _)
      exact endsIn_call hend fun _ => hend

omit [UnicodeTables] in
/-- The workspace is destroyed exactly when no exception escapes before. -/
theorem destroyed_iff (hpreserve : config.preserveWorkspace = false) (warnings : List String) :
    Destroyed (endState (runGuarded git config answers warnings repo)) ↔
      answers.normalizeActions = none ∧
        ReachesCleanup git config answers (handledState answers warnings repo) := by
  have huncleaned : Uncleaned (handledState answers warnings repo) :=
    handledState_uncleaned warnings repo
  suffices hended : EndsIn (fun s => Destroyed s ↔ answers.normalizeActions = none ∧
      ReachesCleanup git config answers (handledState answers warnings repo))
      (finallyBlock git config answers (handledState answers warnings repo)) from
    endState_runGuarded hended
  have hbefore := @beforeCleanup_uncleaned _ _ git config answers _ huncleaned
  have hreached := @beforeCleanup_eq_ok _ _ git config answers (handledState answers warnings repo)
  rw [finallyBlock_eq_bind]
  cases hended : beforeCleanup git config answers (handledState answers warnings repo) with
  | error raised =>
    rw [hended] at hbefore hreached
    refine iff_of_false (Uncleaned.not_destroyed hbefore) ?_
    rintro ⟨hnormalized, hreach⟩
    have ⟨_, hok⟩ := hreached.mpr ⟨hnormalized, hreach.recorded, hreach.intent, hreach.finalizer⟩
    cases hok
  | ok s =>
    rw [hended] at hbefore hreached
    have ⟨hnormalized, hrecorded, hintent, hfinalizer⟩ := hreached.mp ⟨s, rfl⟩
    refine (cleanUp_destroyed hpreserve hbefore).mono fun s' hs' => ?_
    rw [hs']
    constructor
    · rintro ⟨hstarted, hdestroyed⟩
      exact ⟨hnormalized, hrecorded, hintent, hfinalizer, hstarted, hdestroyed⟩
    · rintro ⟨_, hreach⟩
      exact ⟨hreach.started, hreach.destroyed⟩

/-- The normalizer is not asked behind its first call. -/
theorem reachesCleanup_normalizing (argv : List String) {warnings : List String} :
    ReachesCleanup git config (answers.normalizing argv warnings repo)
        (handledState (answers.normalizing argv warnings repo) warnings repo) ↔
      ReachesCleanup git config answers (handledState answers warnings repo) :=
  ⟨fun h => ⟨h.recorded, h.intent, h.finalizer, h.started, h.destroyed⟩,
    fun h => ⟨h.recorded, h.intent, h.finalizer, h.started, h.destroyed⟩⟩

omit [BytesDigest] in
theorem startRun_eq_ok {command : CommandInput} {argv : List String} :
    startRun command = .ok (.ok argv) ↔ validateCommand command = .ok argv ∧ PlainArguments argv := by
  rw [startRun]
  cases hcommand : validateCommand command with
  | error reason => simp
  | ok argv' =>
    simp only [map_eq_ok, Except.ok.injEq]
    constructor
    · rintro ⟨action, haction, rfl⟩
      exact ⟨rfl, normalizeCommandAction_isOk.mp ⟨action, haction⟩⟩
    · rintro ⟨rfl, hplain⟩
      have ⟨action, haction⟩ := normalizeCommandAction_isOk.mpr hplain
      exact ⟨action, haction, rfl⟩

omit [BytesDigest] in
theorem startRun_isOk {command : CommandInput} {argv : List String}
    (h : validateCommand command = .ok argv) :
    (∃ started, startRun command = .ok started) ↔ PlainArguments argv := by
  rw [← normalizeCommandAction_isOk]
  simp only [startRun, h, map_eq_ok]
  constructor
  · rintro ⟨_, action, haction, _⟩
    exact ⟨action, haction⟩
  · rintro ⟨action, haction⟩
    exact ⟨_, action, haction, rfl⟩

end Cleanup

end Running
end Normalizing

/-! ## A log that cannot be written, and a blank path -/

namespace CleanupRuns
open Rygnal.GuardedRun.Sample PyText.Ascii

/-- The log cannot be written when the cleanup starts. -/
def fullLog : AuditPoint → Option PyException
  | .cleanupStarted => some ⟨[.osError, .exception, .baseException], "No space left on device"⟩
  | _ => none

def touchGuide : CommandInput := .items [some "touch", some "docs/a.md"]

/-- A form feed as the name of a file. -/
def touchBlank : CommandInput := .items [some "touch", some "./\x0c"]

end CleanupRuns

open CleanupRuns Rygnal.GuardedRun.Sample PyText.Ascii

end Rygnal.GuardedRun
