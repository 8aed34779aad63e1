import Rygnal.Recovery.OwnerMarker
import Rygnal.GuardedRun.GuardedRunner
import Rygnal.Library.EffectTrace

/-! # Cleanup of a recovery session

`destroy_recovery_session` removes the worktree of a session, or puts it aside where Git cannot
remove it. The disk and Git answer its questions and may fail at any change; the changes that it
tries are recorded in their order.
-/

namespace Rygnal.Recovery
open Rygnal.Core Rygnal.Core.PyException Rygnal.Library.PyText Rygnal.Library.EffectTrace
  Rygnal.Library.EffectTrace.Act
open GuardedRun (CleanupStatus)

/-! ## The disk -/

inductive DiskChange where
  | ensurePrivateDirectory (path : Text)
  | mkdir (path : Text)
  | chmod (path : Text) (mode : ℕ)
  | worktreeRemove (repoRoot workspace : Text)
  | worktreeMove (repoRoot workspace target : Text)
  | writeText (path text : Text)
  | unlink (path : Text)
  | rmdir (path : Text)
  | replace (source target : Text)
deriving DecidableEq, Repr

/-- What the file system and `git worktree list` answer, and how a change ends. -/
structure CleanupDisk (W : Type) where
  resolve : W → Text → Except PyException Text
  isSymlink : W → Text → Bool
  isFile : W → Text → Bool
  isPresent : W → Text → Bool
  readText : W → Text → Except PyException Text
  entries : W → Text → Except PyException (List Text)
  registeredWorktreePaths : W → Text → Except PyException (List Text)
  change : W → DiskChange → Except PyException Unit × W

def recoverySessionError (message : String) : PyException :=
  ⟨[.other "RecoverySessionError", .exception, .baseException], message⟩

/-- `Path.joinpath`: an absolute name replaces the path. -/
def joinedPath (path name : Text) : Text :=
  if name.head? = some '/' then name else joinpath path name

def markerOf (sessionRoot : Text) : Text := joinpath sessionRoot ".rygnal-owner".toList

def expectedOwnerMarker (session : RecoverySession) : Text :=
  ownerMarkerPayload session.runId session.trustedRepoPath session.baselineCommitSha
    session.executionPath

/-- The result of `destroy_recovery_session`. -/
structure CleanupResult where
  status : CleanupStatus
  message : String
  quarantined : Bool
  workspacePath : Option Text
  quarantinePath : Option Text

def cleanupFailed (message : String) (quarantined : Bool) (workspacePath : Text) : CleanupResult :=
  ⟨.cleanupFailed, message, quarantined, some workspacePath, none⟩

section Cleanup
variable {W : Type} (disk : CleanupDisk W) (session : RecoverySession)

abbrev CleanupAct (W : Type) := Act PyException W DiskChange

/-! ## Ownership -/

/-- The run root, the session root and the marker of a session. -/
structure OwnedPaths where
  runRoot : Text
  sessionRoot : Text
  markerPath : Text

def validateCleanupOwnership (runRootPath : Text) (w : W) : Except PyException OwnedPaths := do
  let repoRoot ← disk.resolve w session.trustedRepoPath
  let workspace ← disk.resolve w session.executionPath
  let runRoot ← disk.resolve w runRootPath
  let root ← disk.resolve w (workspacesRoot runRoot)
  let expectedSessionRoot ← disk.resolve w (joinedPath root session.runId)
  let expectedWorkspace ← disk.resolve w (joinpath expectedSessionRoot "workspace".toList)
  let markerPath := markerOf expectedSessionRoot
  raiseIf (workspace = repoRoot)
    (recoverySessionError "Refusing cleanup because workspace equals trusted repository.")
  raiseIf (!strictDescendant workspace root)
    (recoverySessionError "Refusing cleanup outside the controlled Rygnal workspaces root.")
  raiseIf (workspace ≠ expectedWorkspace)
    (recoverySessionError "Refusing cleanup because workspace path does not match run identity.")
  raiseIf (disk.isSymlink w expectedSessionRoot || disk.isSymlink w workspace)
    (recoverySessionError "Refusing cleanup through a symlinked Rygnal workspace path.")
  raiseIf (!disk.isFile w markerPath || disk.isSymlink w markerPath)
    (recoverySessionError "Refusing cleanup because the Rygnal ownership marker is missing.")
  let markerPayload ← disk.readText w markerPath
  raiseIf (markerPayload ≠ expectedOwnerMarker session)
    (recoverySessionError "Refusing cleanup because the ownership marker is invalid.")
  let registeredPaths ← disk.registeredWorktreePaths w repoRoot
  raiseIf (workspace ∉ registeredPaths)
    (recoverySessionError "Refusing cleanup because Git does not register the workspace.")
  return ⟨runRoot, expectedSessionRoot, markerPath⟩

/-! ## Removal and quarantine -/

def ensurePrivateDirectory (path : Text) : CleanupAct W Text := do
  perform disk.change (.ensurePrivateDirectory path)
  read fun w => disk.resolve w path

def present (path : Text) : CleanupAct W Bool := read fun w => .ok (disk.isPresent w path)

/-- `except` for the classes: other exceptions go on. -/
def onException {α : Type} (classes : List ExceptionClass) (handler : PyException → CleanupAct W α)
    (exc : PyException) : CleanupAct W α :=
  if exc.isInstance classes then handler exc else raise exc

/-- The body of the `try` of `_quarantine_worktree`. -/
def moveToQuarantine (repoRoot workspace quarantineSessionRoot markerPath sessionRoot : Text) :
    CleanupAct W Unit := do
  perform disk.change (.worktreeMove repoRoot workspace
    (joinpath quarantineSessionRoot "workspace".toList))
  let markerPayload ← read fun w => disk.readText w markerPath
  perform disk.change (.writeText (markerOf quarantineSessionRoot) markerPayload)
  perform disk.change (.chmod (markerOf quarantineSessionRoot) 0o600)
  perform disk.change (.unlink markerPath)
  branch (perform disk.change (.rmdir sessionRoot)) (onException [.osError] fun _ => pure ()) pure

def quarantineWorktree (owned : OwnedPaths) (removalError : String) :
    CleanupAct W CleanupResult := do
  let repoRoot ← read fun w => disk.resolve w session.trustedRepoPath
  let workspace ← read fun w => disk.resolve w session.executionPath
  let quarantineRoot ← ensurePrivateDirectory disk (joinpath owned.runRoot "quarantine".toList)
  let quarantineSessionRoot := joinedPath quarantineRoot session.runId
  let taken ← present disk quarantineSessionRoot
  if taken then
    pure (cleanupFailed ("Worktree removal failed and quarantine destination already exists: " ++
      String.ofList quarantineSessionRoot) true workspace)
  else do
    perform disk.change (.mkdir quarantineSessionRoot)
    perform disk.change (.chmod quarantineSessionRoot 0o700)
    branch (moveToQuarantine disk repoRoot workspace quarantineSessionRoot owned.markerPath
        owned.sessionRoot)
      (onException [.exception] fun quarantineError => do
        branch (perform disk.change (.rmdir quarantineSessionRoot))
          (onException [.osError] fun _ => pure ()) pure
        pure (cleanupFailed ("Disposable worktree removal failed and quarantine also failed. " ++
          "Removal error: " ++ removalError ++ ". Quarantine error: " ++ quarantineError.message)
          true workspace))
      fun _ => pure ⟨.worktreeQuarantined, "Disposable worktree removal failed; the " ++
        "Rygnal-owned workspace was quarantined. Original error: " ++ removalError, true, some workspace,
        some (joinpath quarantineSessionRoot "workspace".toList)⟩

/-- Data beside the workspace is put aside, not deleted. -/
def quarantineResidue (owned : OwnedPaths) (workspace : Text) : CleanupAct W CleanupResult := do
  let quarantineRoot ← ensurePrivateDirectory disk (joinpath owned.runRoot "quarantine".toList)
  let quarantineSession := joinedPath quarantineRoot (session.runId ++ "-residual".toList)
  let taken ← present disk quarantineSession
  if taken then
    pure (cleanupFailed ("Residual workspace data was detected, but its quarantine destination " ++
      "already exists.") true owned.sessionRoot)
  else
    branch (perform disk.change (.replace owned.sessionRoot quarantineSession))
      (onException [.osError] fun exc => pure (cleanupFailed ("Disposable worktree was removed, " ++
        "but residual session data could not be quarantined: " ++ exc.message) true
        owned.sessionRoot))
      fun _ => pure ⟨.worktreeQuarantined, "The registered worktree was removed and residual " ++
        "out-of-workspace data was quarantined.", true, some workspace, some quarantineSession⟩

def removeMetadata (owned : OwnedPaths) (repoRoot workspace : Text) :
    CleanupAct W CleanupResult :=
  branch (do
      perform disk.change (.unlink owned.markerPath)
      perform disk.change (.rmdir owned.sessionRoot))
    (onException [.osError] fun exc => pure ⟨.cleanupFailed, "Disposable worktree was removed, " ++
      "but Rygnal ownership metadata cleanup failed: " ++ exc.message, false, some workspace, none⟩)
    fun _ => do
      let registeredPaths ← read fun w => disk.registeredWorktreePaths w repoRoot
      if workspace ∈ registeredPaths then
        pure ⟨.cleanupFailed, "Disposable workspace remains registered after cleanup: " ++
          String.ofList workspace, false, some workspace, none⟩
      else
        pure ⟨.worktreeRemoved, "Verified disposable Git worktree removed successfully.", false,
          some workspace, none⟩

def removeWorktree (owned : OwnedPaths) (repoRoot workspace : Text) :
    CleanupAct W CleanupResult :=
  branch (perform disk.change (.worktreeRemove repoRoot workspace))
    (onException [.other "RecoverySessionError"] fun exc =>
      quarantineWorktree disk session owned exc.message)
    fun _ => do
      let kept ← present disk workspace
      if kept then
        pure (cleanupFailed ("Git reported successful worktree removal, but the workspace still " ++
          "exists: " ++ String.ofList workspace) true workspace)
      else do
        let entries ← read fun w => disk.entries w owned.sessionRoot
        if (entries.filter (· ≠ owned.markerPath)) ≠ [] then
          quarantineResidue disk session owned workspace
        else removeMetadata disk owned repoRoot workspace

def destroyRecoverySession (runRootPath : Text) : CleanupAct W CleanupResult :=
  branch (read (validateCleanupOwnership disk session runRootPath))
    (onException [.other "RecoverySessionError"] fun exc =>
      pure ⟨.cleanupFailed, exc.message, false, some session.executionPath, none⟩)
    fun owned => do
      let repoRoot ← read fun w => disk.resolve w session.trustedRepoPath
      let workspace ← read fun w => disk.resolve w session.executionPath
      removeWorktree disk session owned repoRoot workspace

/-! ## What a cleanup may change -/

/-- Git removes the worktree; then the marker and its empty directory go. -/
def removalPlan (owned : OwnedPaths) (repoRoot workspace : Text) : List DiskChange :=
  [.worktreeRemove repoRoot workspace, .unlink owned.markerPath, .rmdir owned.sessionRoot]

/-- The quarantine directory of a run root, as the disk once resolved it. -/
def QuarantineRoot (owned : OwnedPaths) (quarantineRoot : Text) : Prop :=
  ∃ w, disk.resolve w (joinpath owned.runRoot "quarantine".toList) = .ok quarantineRoot

/-- The worktree of the session and its repository, as the disk resolved them once more. -/
def Moved (repoRoot workspace : Text) : Prop :=
  (∃ w, disk.resolve w session.trustedRepoPath = .ok repoRoot) ∧
    ∃ w, disk.resolve w session.executionPath = .ok workspace

/-- What is left beside a removed worktree is moved aside. -/
def residuePlan (owned : OwnedPaths) (repoRoot workspace quarantineRoot : Text) : List DiskChange :=
  [.worktreeRemove repoRoot workspace,
    .ensurePrivateDirectory (joinpath owned.runRoot "quarantine".toList),
    .replace owned.sessionRoot (joinedPath quarantineRoot (session.runId ++ "-residual".toList))]

/-- The worktree is moved into a new directory. -/
def openingPlan (owned : OwnedPaths) (repoRoot workspace quarantineRoot : Text) : List DiskChange :=
  let quarantineSessionRoot := joinedPath quarantineRoot session.runId
  [.ensurePrivateDirectory (joinpath owned.runRoot "quarantine".toList),
    .mkdir quarantineSessionRoot, .chmod quarantineSessionRoot 0o700,
    .worktreeMove repoRoot workspace (joinpath quarantineSessionRoot "workspace".toList)]

/-- The marker is copied before it goes. -/
def markerPlan (quarantineSessionRoot markerPath sessionRoot payload : Text) : List DiskChange :=
  [.writeText (markerOf quarantineSessionRoot) payload,
    .chmod (markerOf quarantineSessionRoot) 0o600, .unlink markerPath, .rmdir sessionRoot]

def quarantinePlan (owned : OwnedPaths) (repoRoot workspace quarantineRoot payload : Text) :
    List DiskChange :=
  openingPlan session owned repoRoot workspace quarantineRoot ++
    markerPlan (joinedPath quarantineRoot session.runId) owned.markerPath owned.sessionRoot payload

/-- A part of a quarantine, in order: of its opening, or of the whole with the marker as read. -/
def Opened (owned : OwnedPaths) (repoRoot workspace quarantineRoot : Text)
    (done : List DiskChange) : Prop :=
  done <+: openingPlan session owned repoRoot workspace quarantineRoot ∨
    ∃ payload, (∃ w, disk.readText w owned.markerPath = .ok payload) ∧
      done <+: quarantinePlan session owned repoRoot workspace quarantineRoot payload

/-- The changes of a quarantine that ends as `ended`: the directory that it made may go again. -/
structure PutAside (owned : OwnedPaths) (ended : Except PyException CleanupResult)
    (changes : List DiskChange) : Prop where
  order : changes <+: [.ensurePrivateDirectory (joinpath owned.runRoot "quarantine".toList)] ∨
    ∃ repoRoot workspace quarantineRoot done, Moved disk session repoRoot workspace ∧
      QuarantineRoot disk owned quarantineRoot ∧
      Opened disk session owned repoRoot workspace quarantineRoot done ∧
      (changes = done ∨ changes = done ++ [.rmdir (joinedPath quarantineRoot session.runId)])
  status : ∀ result, ended = .ok result → result.status ≠ .worktreeRemoved ∧
    (result.status = .worktreeQuarantined → ∃ repoRoot workspace quarantineRoot payload,
      Moved disk session repoRoot workspace ∧ QuarantineRoot disk owned quarantineRoot ∧
      changes = quarantinePlan session owned repoRoot workspace quarantineRoot payload)

section Plans
variable {disk session} {owned : OwnedPaths} {repoRoot workspace : Text}

theorem does_onException {α : Type} {classes : List ExceptionClass}
    {handler : PyException → CleanupAct W α} {exc : PyException}
    {Q : Except PyException α → List DiskChange → Prop} (hraise : Q (.error exc) [])
    (hhandler : Does (handler exc) Q) : Does (onException classes handler exc) Q := by
  rw [onException]
  split_ifs
  · exact hhandler
  · exact does_raise hraise

theorem moveToQuarantine_does (quarantineSessionRoot markerPath sessionRoot : Text) :
    Does (moveToQuarantine disk repoRoot workspace quarantineSessionRoot markerPath sessionRoot)
      fun ended added => ∃ rest,
        added = .worktreeMove repoRoot workspace
          (joinpath quarantineSessionRoot "workspace".toList) :: rest ∧
        (rest = [] ∨ ∃ payload, (∃ w, disk.readText w markerPath = .ok payload) ∧
          rest <+: markerPlan quarantineSessionRoot markerPath sessionRoot payload) ∧
        (ended = .ok () → ∃ payload, (∃ w, disk.readText w markerPath = .ok payload) ∧
          rest = markerPlan quarantineSessionRoot markerPath sessionRoot payload) := by
  refine does_perform_bind (fun exc => ⟨[], rfl, .inl rfl, by simp⟩) ?_
  refine does_read_bind (fun w exc _ => ⟨[], rfl, .inl rfl, by simp⟩) fun w payload hread => ?_
  refine does_perform_bind (fun exc =>
    ⟨_, rfl, .inr ⟨payload, ⟨w, hread⟩, by simp [markerPlan]⟩, by simp⟩) ?_
  refine does_perform_bind (fun exc =>
    ⟨_, rfl, .inr ⟨payload, ⟨w, hread⟩, by simp [markerPlan]⟩, by simp⟩) ?_
  refine does_perform_bind (fun exc =>
    ⟨_, rfl, .inr ⟨payload, ⟨w, hread⟩, by simp [markerPlan]⟩, by simp⟩) ?_
  refine Does.branch (does_perform (Q := fun _ added => added = [.rmdir sessionRoot])
    fun _ => rfl) ?_ ?_
  · rintro exc first rfl
    exact does_onException ⟨_, rfl, .inr ⟨payload, ⟨w, hread⟩, by simp [markerPlan]⟩, by simp⟩
      (does_pure ⟨_, rfl, .inr ⟨payload, ⟨w, hread⟩, by simp [markerPlan]⟩,
        fun _ => ⟨payload, ⟨w, hread⟩, by simp [markerPlan]⟩⟩)
  · rintro ⟨⟩ first rfl
    exact does_pure ⟨_, rfl, .inr ⟨payload, ⟨w, hread⟩, by simp [markerPlan]⟩,
      fun _ => ⟨payload, ⟨w, hread⟩, by simp [markerPlan]⟩⟩

theorem ensurePrivateDirectory_does (path : Text) :
    Does (ensurePrivateDirectory disk path) fun ended added =>
      added = [.ensurePrivateDirectory path] ∧
        ∀ resolved, ended = .ok resolved → ∃ w, disk.resolve w path = .ok resolved :=
  does_perform_bind (fun _ => ⟨rfl, by simp⟩) (does_read fun w => ⟨rfl, fun _ h => ⟨w, h⟩⟩)

/-- A quarantine that stops early, or takes its empty directory away again. -/
theorem PutAside.of_failed {ended : Except PyException CleanupResult} {changes : List DiskChange}
    (horder : changes <+: [.ensurePrivateDirectory (joinpath owned.runRoot "quarantine".toList)] ∨
      ∃ repoRoot workspace quarantineRoot done, Moved disk session repoRoot workspace ∧
        QuarantineRoot disk owned quarantineRoot ∧
        Opened disk session owned repoRoot workspace quarantineRoot done ∧
        (changes = done ∨ changes = done ++ [.rmdir (joinedPath quarantineRoot session.runId)]))
    (hfailed : ∀ result, ended = .ok result → result.status = .cleanupFailed) :
    PutAside disk session owned ended changes := by
  refine ⟨horder, ?_⟩
  intro result hresult
  rw [hfailed result hresult]
  exact ⟨by decide, fun h => by cases h⟩

theorem quarantineWorktree_does (removalError : String) :
    Does (quarantineWorktree disk session owned removalError) (PutAside disk session owned) := by
  refine does_read_bind (fun w exc _ => .of_failed (.inl (by simp)) (by simp))
    fun w repoRoot hrepo => ?_
  refine does_read_bind (fun w exc _ => .of_failed (.inl (by simp)) (by simp))
    fun w' workspace hworkspace => ?_
  have hmoved : Moved disk session repoRoot workspace := ⟨⟨w, hrepo⟩, ⟨w', hworkspace⟩⟩
  refine (ensurePrivateDirectory_does _).bind ?_ ?_
  · rintro exc first ⟨rfl, -⟩
    exact .of_failed (.inl (List.prefix_refl _)) (by simp)
  rintro quarantineRoot first ⟨rfl, hresolved⟩
  have hroot : QuarantineRoot disk owned quarantineRoot := hresolved _ rfl
  refine does_read_bind (fun w exc h => by cases h) fun w taken _ => ?_
  split
  · exact does_pure (.of_failed (.inl (by simp)) (by simp [cleanupFailed]))
  refine does_perform_bind (fun exc => .of_failed (.inr ⟨repoRoot, workspace, quarantineRoot, _,
    hmoved, hroot, .inl (by simp [openingPlan]), .inl rfl⟩) (by simp)) ?_
  refine does_perform_bind (fun exc => .of_failed (.inr ⟨repoRoot, workspace, quarantineRoot, _,
    hmoved, hroot, .inl (by simp [openingPlan]), .inl rfl⟩) (by simp)) ?_
  refine (moveToQuarantine_does _ _ _).branch ?_ ?_
  · rintro exc moving ⟨rest, rfl, hrest, -⟩
    have hdone : Opened disk session owned repoRoot workspace quarantineRoot
        (openingPlan session owned repoRoot workspace quarantineRoot ++ rest) := by
      rcases hrest with rfl | ⟨payload, hread, hpart⟩
      · exact .inl (by simp)
      · exact .inr ⟨payload, hread, (List.prefix_append_right_inj _).mpr hpart⟩
    refine does_onException (.of_failed (.inr ⟨repoRoot, workspace, quarantineRoot, _, hmoved,
      hroot, hdone, .inl (by simp [openingPlan])⟩) (by simp)) ?_
    refine Does.bind (Q := fun _ added =>
      added = [.rmdir (joinedPath quarantineRoot session.runId)]) ?_ ?_ ?_
    · refine Does.branch (does_perform (Q := fun _ added =>
        added = [.rmdir (joinedPath quarantineRoot session.runId)]) fun _ => rfl) ?_ ?_
      · rintro raised first rfl
        exact does_onException rfl (does_pure rfl)
      · rintro ⟨⟩ first rfl
        exact does_pure rfl
    · rintro raised first rfl
      exact .of_failed (.inr ⟨repoRoot, workspace, quarantineRoot, _, hmoved, hroot, hdone,
        .inr (by simp [openingPlan])⟩) (by simp)
    · rintro ⟨⟩ first rfl
      exact does_pure (.of_failed (.inr ⟨repoRoot, workspace, quarantineRoot, _, hmoved, hroot,
        hdone, .inr (by simp [openingPlan])⟩) (by simp [cleanupFailed]))
  · rintro ⟨⟩ moving ⟨rest, rfl, -, hrest⟩
    obtain ⟨payload, hread, rfl⟩ := hrest rfl
    refine does_pure ⟨.inr ⟨repoRoot, workspace, quarantineRoot,
      quarantinePlan session owned repoRoot workspace quarantineRoot payload, hmoved, hroot,
      .inr ⟨payload, hread, List.prefix_refl _⟩, .inl (by simp [quarantinePlan, openingPlan])⟩, ?_⟩
    intro result hresult
    cases hresult
    exact ⟨by simp, fun _ => ⟨repoRoot, workspace, quarantineRoot, payload, hmoved, hroot,
      by simp [quarantinePlan, openingPlan]⟩⟩

/-- The changes of a cleanup of owned paths that ends as `ended`. -/
structure CleanedUp (disk : CleanupDisk W) (session : RecoverySession) (owned : OwnedPaths)
    (repoRoot workspace : Text) (ended : Except PyException CleanupResult)
    (changes : List DiskChange) : Prop where
  order : changes <+: removalPlan owned repoRoot workspace ∨
    changes <+: [.worktreeRemove repoRoot workspace,
      .ensurePrivateDirectory (joinpath owned.runRoot "quarantine".toList)] ∨
    (∃ quarantineRoot, QuarantineRoot disk owned quarantineRoot ∧
      changes = residuePlan session owned repoRoot workspace quarantineRoot) ∨
    ∃ aside, changes = .worktreeRemove repoRoot workspace :: aside ∧
      PutAside disk session owned ended aside
  removed : ∀ result, ended = .ok result → result.status = .worktreeRemoved →
    changes = removalPlan owned repoRoot workspace
  quarantined : ∀ result, ended = .ok result → result.status = .worktreeQuarantined →
    (∃ quarantineRoot, QuarantineRoot disk owned quarantineRoot ∧
      changes = residuePlan session owned repoRoot workspace quarantineRoot) ∨
    ∃ moveRoot moved quarantineRoot payload, Moved disk session moveRoot moved ∧
      QuarantineRoot disk owned quarantineRoot ∧
      changes = .worktreeRemove repoRoot workspace ::
        quarantinePlan session owned moveRoot moved quarantineRoot payload

theorem CleanedUp.of_failed {ended : Except PyException CleanupResult} {changes : List DiskChange}
    (horder : changes <+: removalPlan owned repoRoot workspace ∨
      changes <+: [.worktreeRemove repoRoot workspace,
        .ensurePrivateDirectory (joinpath owned.runRoot "quarantine".toList)] ∨
      ∃ quarantineRoot, QuarantineRoot disk owned quarantineRoot ∧
        changes = residuePlan session owned repoRoot workspace quarantineRoot)
    (hfailed : ∀ result, ended = .ok result → result.status = .cleanupFailed) :
    CleanedUp disk session owned repoRoot workspace ended changes where
  order := horder.imp_right fun h => h.imp_right .inl
  removed result hresult h := by
    rw [hfailed result hresult] at h
    cases h
  quarantined result hresult h := by
    rw [hfailed result hresult] at h
    cases h

theorem CleanedUp.of_putAside {ended : Except PyException CleanupResult}
    {aside : List DiskChange} (h : PutAside disk session owned ended aside) :
    CleanedUp disk session owned repoRoot workspace ended
      (.worktreeRemove repoRoot workspace :: aside) where
  order := .inr (.inr (.inr ⟨aside, rfl, h⟩))
  removed result hresult hstatus := absurd hstatus (h.status result hresult).1
  quarantined result hresult hstatus := by
    obtain ⟨moveRoot, moved, quarantineRoot, payload, hmoved, hroot, rfl⟩ :=
      (h.status result hresult).2 hstatus
    exact .inr ⟨moveRoot, moved, quarantineRoot, payload, hmoved, hroot, rfl⟩

theorem quarantineResidue_does : Does (quarantineResidue disk session owned workspace)
    fun ended added => CleanedUp disk session owned repoRoot workspace ended
      (.worktreeRemove repoRoot workspace :: added) := by
  refine (ensurePrivateDirectory_does _).bind ?_ ?_
  · rintro exc first ⟨rfl, -⟩
    exact .of_failed (.inr (.inl (List.prefix_refl _))) (by simp)
  rintro quarantineRoot first ⟨rfl, hresolved⟩
  have hroot : QuarantineRoot disk owned quarantineRoot := hresolved _ rfl
  refine does_read_bind (fun w exc h => by cases h) fun w taken _ => ?_
  split
  · exact does_pure (.of_failed (.inr (.inl (by simp))) (by simp [cleanupFailed]))
  refine Does.branch (does_perform (Q := fun _ added => added = [.replace owned.sessionRoot
    (joinedPath quarantineRoot (session.runId ++ "-residual".toList))]) fun _ => rfl) ?_ ?_
  · rintro exc first rfl
    exact does_onException (.of_failed (.inr (.inr ⟨quarantineRoot, hroot, rfl⟩)) (by simp))
      (does_pure (.of_failed (.inr (.inr ⟨quarantineRoot, hroot, rfl⟩)) (by simp [cleanupFailed])))
  · rintro ⟨⟩ first rfl
    refine does_pure ⟨.inr (.inr (.inl ⟨quarantineRoot, hroot, rfl⟩)), ?_, ?_⟩
    · intro result hresult hstatus
      cases hresult
      cases hstatus
    · intro result hresult _
      exact .inl ⟨quarantineRoot, hroot, rfl⟩

theorem removeMetadata_does : Does (removeMetadata disk owned repoRoot workspace)
    fun ended added => CleanedUp disk session owned repoRoot workspace ended
      (.worktreeRemove repoRoot workspace :: added) := by
  refine Does.branch (Q := fun ended added =>
    added <+: [.unlink owned.markerPath, .rmdir owned.sessionRoot] ∧
      (ended = .ok () → added = [.unlink owned.markerPath, .rmdir owned.sessionRoot])) ?_ ?_ ?_
  · refine does_perform_bind (fun exc => ⟨by simp, by simp⟩) ?_
    exact does_perform fun _ => ⟨by simp, fun _ => rfl⟩
  · rintro exc first ⟨hpart, -⟩
    exact does_onException (.of_failed (.inl (by simpa [removalPlan] using hpart)) (by simp))
      (does_pure (.of_failed (.inl (by simpa [removalPlan] using hpart)) (by simp)))
  · rintro ⟨⟩ first ⟨-, hwhole⟩
    obtain rfl := hwhole rfl
    refine does_read_bind (fun w exc _ => .of_failed (.inl (by simp [removalPlan])) (by simp))
      fun w registeredPaths _ => ?_
    split
    · exact does_pure (.of_failed (.inl (by simp [removalPlan])) (by simp))
    · refine does_pure ⟨.inl (by simp [removalPlan]), fun _ _ _ => by simp [removalPlan], ?_⟩
      intro result hresult hstatus
      cases hresult
      cases hstatus

theorem removeWorktree_does : Does (removeWorktree disk session owned repoRoot workspace)
    (CleanedUp disk session owned repoRoot workspace) := by
  refine Does.branch (does_perform
    (Q := fun _ added => added = [.worktreeRemove repoRoot workspace]) fun _ => rfl) ?_ ?_
  · rintro exc first rfl
    refine does_onException (.of_failed (.inl (by simp [removalPlan])) (by simp)) ?_
    intro p
    have haside : Does (quarantineWorktree disk session owned exc.message)
        (PutAside disk session owned) := quarantineWorktree_does exc.message
    obtain ⟨added, hadded, haside⟩ := haside p
    exact ⟨added, hadded, .of_putAside haside⟩
  · rintro ⟨⟩ first rfl
    refine does_read_bind (fun w exc h => by cases h) fun w kept _ => ?_
    split
    · exact does_pure (.of_failed (.inl (by simp [removalPlan])) (by simp [cleanupFailed]))
    refine does_read_bind (fun w exc _ => .of_failed (.inl (by simp [removalPlan])) (by simp))
      fun w entries _ => ?_
    split
    · exact quarantineResidue_does
    · exact removeMetadata_does

/-! ## Owned paths -/

/-- What the disk says of the paths of a session that may be cleaned up. -/
structure Owns (disk : CleanupDisk W) (session : RecoverySession) (w : W) (owned : OwnedPaths)
    (repoRoot workspace : Text) : Prop where
  repo : disk.resolve w session.trustedRepoPath = .ok repoRoot
  resolved : disk.resolve w session.executionPath = .ok workspace
  apart : workspace ≠ repoRoot
  below : ∃ root, disk.resolve w (workspacesRoot owned.runRoot) = .ok root ∧
    strictDescendant workspace root = true ∧
    disk.resolve w (joinedPath root session.runId) = .ok owned.sessionRoot
  own : disk.resolve w (joinpath owned.sessionRoot "workspace".toList) = .ok workspace
  plain : disk.isSymlink w owned.sessionRoot = false ∧ disk.isSymlink w workspace = false
  marker : owned.markerPath = markerOf owned.sessionRoot ∧
    disk.isSymlink w owned.markerPath = false ∧
    disk.readText w owned.markerPath = .ok (expectedOwnerMarker session)
  registered : ∃ paths, disk.registeredWorktreePaths w repoRoot = .ok paths ∧ workspace ∈ paths

theorem owns_of_validated {runRootPath : Text} {w : W}
    (h : validateCleanupOwnership disk session runRootPath w = .ok owned) :
    ∃ repoRoot workspace, Owns disk session w owned repoRoot workspace := by
  obtain ⟨repoRoot, hrepo, h⟩ := bind_eq_ok.mp h
  obtain ⟨workspace, hworkspace, h⟩ := bind_eq_ok.mp h
  obtain ⟨runRoot, -, h⟩ := bind_eq_ok.mp h
  obtain ⟨root, hroot, h⟩ := bind_eq_ok.mp h
  obtain ⟨sessionRoot, hsession, h⟩ := bind_eq_ok.mp h
  obtain ⟨expectedWorkspace, hexpected, h⟩ := bind_eq_ok.mp h
  obtain ⟨_, hapart, h⟩ := bind_eq_ok.mp h
  obtain ⟨_, hbelow, h⟩ := bind_eq_ok.mp h
  obtain ⟨_, hsame, h⟩ := bind_eq_ok.mp h
  obtain ⟨_, hplain, h⟩ := bind_eq_ok.mp h
  obtain ⟨_, hfile, h⟩ := bind_eq_ok.mp h
  obtain ⟨markerPayload, hmarker, h⟩ := bind_eq_ok.mp h
  obtain ⟨_, hpayload, h⟩ := bind_eq_ok.mp h
  obtain ⟨registeredPaths, hregistered, h⟩ := bind_eq_ok.mp h
  obtain ⟨_, hmember, h⟩ := bind_eq_ok.mp h
  obtain rfl := Except.ok.inj h
  have hworkspaceEq : workspace = expectedWorkspace := by simpa using raiseIf_eq_ok.mp hsame
  have hpayloadEq : markerPayload = expectedOwnerMarker session := by
    simpa using raiseIf_eq_ok.mp hpayload
  refine ⟨repoRoot, workspace, hrepo, hworkspace, by simpa using raiseIf_eq_ok.mp hapart,
    ⟨root, hroot, by simpa using raiseIf_eq_ok.mp hbelow, hsession⟩, hworkspaceEq ▸ hexpected,
    by simpa using raiseIf_eq_ok.mp hplain, ⟨rfl, ?_, hpayloadEq ▸ hmarker⟩,
    ⟨registeredPaths, hregistered, by simpa using raiseIf_eq_ok.mp hmember⟩⟩
  have hboth := raiseIf_eq_ok.mp hfile
  rw [Bool.or_eq_false_iff] at hboth
  exact hboth.2

end Plans

end Cleanup
end Rygnal.Recovery
