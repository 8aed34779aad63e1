import Rygnal.ChangeRisk.Classification

/-! # The criticality step

`_criticality_shadow_for_file` of `change_risk.py`: the contents of a changed file are loaded, the
claim of a lockfile or of a generated file to bypass the analysis is checked, and the Rust kernel is
asked. Loading and the kernel call stand inside `except Exception`; the validators of lockfiles
handle only the decode errors of their parsers.
-/

namespace Rygnal.ChangeRisk.Criticality
open Rygnal.Core Rygnal.Library Rygnal.Library.PyText Rygnal.Library.PosixPath

/-! ## What the step calls -/

/-- An exception that `except Exception` handles. -/
structure RaisedException where
  exc : PyException
  ordinary : exc.isInstance [.exception] = true

/-- What the validators read of a parsed document. -/
inductive Parsed where
  | dict (keys : List String)
  | other
deriving DecidableEq, Repr

structure RustCriticalityInput where
  filePath : String
  actionType : String
  oldCode : Text
  newCode : Text
  elevated : Bool

structure RustSemanticMetrics where
  oldNodeCount : ℤ
  newNodeCount : ℤ
  oldTokenCount : ℤ
  newTokenCount : ℤ
  matchedNodeCount : ℤ
  survivalRatio : ℚ

structure RustCriticalityAssessment where
  criticalityIndex : ℚ
  riskLevel : String
  reasons : List String
  semanticMetrics : RustSemanticMetrics
  pathCategory : String
  pathSeverity : String

/-- The exceptions of `evaluate_criticality`, by their handlers. -/
inductive KernelFault where
  | unavailable (text : String)
  | evaluation (errorCode reason : String)
  | kernel (text : String)
  | unexpected (text : String)

/-- Git, the file system, the parsers and the Rust kernel. `tomlLoads` is `none` where the
interpreter has no TOML parser. -/
structure Tools where
  resolve : String → Except RaisedException String
  git : String → List String → Except RaisedException (List UInt8)
  readInt : List UInt8 → Except RaisedException ℤ
  fileSize : String → String → Except RaisedException ℤ
  fileBytes : String → String → Except RaisedException (List UInt8)
  jsonLoads : Text → Except RaisedException Parsed
  tomlLoads : Option (Text → Except RaisedException Parsed)
  evaluateCriticality : RustCriticalityInput → Except KernelFault RustCriticalityAssessment

/-! ## Loading the contents -/

def maxCriticalityShadowBytes : ℕ := 1000000

def maxCriticalityRawBytes : ℕ := maxCriticalityShadowBytes * 2

def gitLfsPointerPrefix : List UInt8 :=
  "version https://git-lfs.github.com/spec/v1".toList.flatMap String.utf8EncodeChar

/-- The exceptions of the load, by their handlers. -/
inductive LoadFault where
  | invalidEncoding
  | gitLfsPointer
  | raised (exc : PyException)

def raised {α : Type} (result : Except RaisedException α) : Except LoadFault α :=
  result.mapError fun e => .raised e.exc

def normalized (path : String) : Except LoadFault String :=
  (normalizeRepoRelativePath path).mapError .raised

def decodeCriticalityFileBytes (rawContent : List UInt8) : Except LoadFault Text :=
  if gitLfsPointerPrefix.isPrefixOf rawContent then .error .gitLfsPointer
  else
    let text := Utf8.decode rawContent
    if text = Utf8.ofText (Utf8.visible text) then .ok (Utf8.visible text)
    else .error .invalidEncoding

def baselineFileSize (tools : Tools) (workspace sha path : String) : Except LoadFault ℤ := do
  let stdout ← raised (tools.git workspace ["cat-file", "-s", sha ++ ":" ++ path])
  raised (tools.readInt stdout)

def readBaselineFileText (tools : Tools) (workspace sha path : String) : Except LoadFault Text := do
  let stdout ← raised (tools.git workspace ["show", sha ++ ":" ++ path])
  decodeCriticalityFileBytes stdout

def readWorkspaceFileText (tools : Tools) (workspace path : String) : Except LoadFault Text := do
  let rawContent ← raised (tools.fileBytes workspace path)
  decodeCriticalityFileBytes rawContent

/-- The kinds whose baseline has a file. -/
def hasBaseline (kind : ChangedFileKind) : Bool := kind ∉ [.added, .untracked]

/-- A side of the change that exists is loaded, the other one has its initial value. -/
def loadIf {α : Type} (present : Bool) (load : Except LoadFault α) (initial : α) :
    Except LoadFault α :=
  if present then load else .ok initial

def loadCriticalityFileContents (tools : Tools) (patchDiff : PatchDiff) (fileDiff : PatchFileDiff) :
    Except LoadFault (Text × Text) := do
  let workspace ← raised (tools.resolve patchDiff.workspacePath)
  -- an empty old path counts as a missing one
  let oldPath ← normalized
    (if (fileDiff.oldPath.getD "").isEmpty then fileDiff.path else fileDiff.oldPath.getD "")
  let newPath ← normalized fileDiff.path
  let oldSize ← loadIf (hasBaseline fileDiff.kind)
    (baselineFileSize tools workspace patchDiff.baselineCommitSha oldPath) 0
  let newSize ← loadIf (fileDiff.kind ≠ .deleted) (raised (tools.fileSize workspace newPath)) 0
  if oldSize + newSize > maxCriticalityRawBytes then
    return (List.replicate (maxCriticalityShadowBytes + 1) 'x', [])
  let oldCode ← loadIf (hasBaseline fileDiff.kind)
    (readBaselineFileText tools workspace patchDiff.baselineCommitSha oldPath) []
  let newCode ← loadIf (fileDiff.kind ≠ .deleted) (readWorkspaceFileText tools workspace newPath) []
  return (oldCode, newCode)

/-! ## Bypass verdicts -/

structure CriticalityBypassVerdict where
  allowed : Bool
  reasonCode : String
  verdict : String
  isCandidate : Bool
deriving DecidableEq, Repr

def bypassVerdictBypassed : String := "bypassed"
def bypassVerdictRustInvoked : String := "rust-invoked"
def bypassVerdictElevatedRisk : String := "elevated-risk"

def criticalityLockfileNames : List String :=
  ["bun.lockb", "cargo.lock", "composer.lock", "gemfile.lock", "go.sum", "gradle.lockfile",
    "package-lock.json", "pipfile.lock", "pnpm-lock.yaml", "poetry.lock", "pubspec.lock",
    "uv.lock", "yarn.lock"]

def criticalityGeneratedMarkers : List String :=
  ["@generated", "auto-generated", "autogenerated", "do not edit"]

/-- The claim of a file that is neither a lockfile nor generated. -/
def notCandidate : CriticalityBypassVerdict :=
  ⟨false, "not-bypass-candidate", bypassVerdictRustInvoked, false⟩

def invalidStructure : CriticalityBypassVerdict :=
  ⟨false, bypassReasonLockfileInvalidStructure, bypassVerdictElevatedRisk, true⟩

/-! ## Lockfiles -/

def jsonDecodeError : ExceptionClass := .jsonDecodeError

def tomlDecodeError : ExceptionClass := .other "TOMLDecodeError"

/-- `try: loads(content)`, handling the decode error only. -/
def parseObject (loads : Text → Except RaisedException Parsed) (decodeError : ExceptionClass)
    (content : Text) : Except PyException (Option (List String)) :=
  match loads content with
  | .ok (.dict keys) => .ok (some keys)
  | .ok .other => .ok none
  | .error e => if e.exc.isInstance [decodeError] then .ok none else .error e.exc

def parseJsonObject (tools : Tools) (content : Text) : Except PyException (Option (List String)) :=
  parseObject tools.jsonLoads jsonDecodeError content

def parseTomlObject (tools : Tools) (content : Text) : Except PyException (Option (List String)) :=
  match tools.tomlLoads with
  | none => .ok none
  | some loads => parseObject loads tomlDecodeError content

/-- The verdict on a parsed document, with the reason codes of its format. -/
def documentVerdict (failed mismatch valid : String) (hasShape : List String → Bool) :
    Option (List String) → CriticalityBypassVerdict
  | none => ⟨false, failed, bypassVerdictRustInvoked, true⟩
  | some keys =>
    if !hasShape keys then ⟨false, mismatch, bypassVerdictRustInvoked, true⟩
    else ⟨true, valid, bypassVerdictBypassed, true⟩

/-- One of the keys suffices. -/
def validateJsonLockfile (tools : Tools) (expectedKeys : List String) (content : Text) :
    Except PyException CriticalityBypassVerdict :=
  (parseJsonObject tools content).map
    (documentVerdict "parse-failed-json" "shape-mismatch-json" "bypassed:lockfile-root-valid-json"
      fun keys => expectedKeys.any (· ∈ keys))

/-- All of the keys are needed. -/
def validateTomlLockfile (tools : Tools) (expectedKeys : List String) (content : Text) :
    Except PyException CriticalityBypassVerdict :=
  (parseTomlObject tools content).map
    (documentVerdict "parse-failed-toml" "shape-mismatch-toml" "bypassed:lockfile-root-valid-toml"
      fun keys => expectedKeys.all (· ∈ keys))

def validatePackageLock (tools : Tools) : Text → Except PyException CriticalityBypassVerdict :=
  validateJsonLockfile tools ["lockfileVersion", "packages", "dependencies"]

def validateComposerLock (tools : Tools) : Text → Except PyException CriticalityBypassVerdict :=
  validateJsonLockfile tools ["packages", "packages-dev"]

def validatePipfileLock (tools : Tools) : Text → Except PyException CriticalityBypassVerdict :=
  validateJsonLockfile tools ["_meta", "default", "develop"]

def validateCargoLock (tools : Tools) : Text → Except PyException CriticalityBypassVerdict :=
  validateTomlLockfile tools ["package"]

def validatePoetryLock (tools : Tools) : Text → Except PyException CriticalityBypassVerdict :=
  validateTomlLockfile tools ["package", "metadata"]

def validateUvLock (tools : Tools) : Text → Except PyException CriticalityBypassVerdict :=
  validateTomlLockfile tools ["package"]

def criticalityLockfileValidators (tools : Tools) :
    List (String × (Text → Except PyException CriticalityBypassVerdict)) :=
  [("cargo.lock", validateCargoLock tools), ("composer.lock", validateComposerLock tools),
    ("package-lock.json", validatePackageLock tools), ("pipfile.lock", validatePipfileLock tools),
    ("poetry.lock", validatePoetryLock tools), ("uv.lock", validateUvLock tools)]

section Step
variable [UnicodeTables]

/-- `PurePosixPath(path).name.lower()`. -/
def lowerName (path : String) : String := String.ofList (lower (name path.toList))

def validateLockfileStructure (tools : Tools) (path : String) (content : Text) :
    Except PyException CriticalityBypassVerdict :=
  match (criticalityLockfileValidators tools).lookup (lowerName path) with
  | none => .ok ⟨false, "parse-failed-pattern", bypassVerdictRustInvoked, true⟩
  | some validator => validator content

/-- The loop over the snapshots, which ends with the verdict of the last one. -/
def validateSnapshots (tools : Tools) (path : String) :
    List Text → Except PyException CriticalityBypassVerdict
  | [] => .ok invalidStructure
  | snapshot :: rest => do
    let structureVerdict ← validateLockfileStructure tools path snapshot
    if !structureVerdict.allowed then return invalidStructure
    else if rest.isEmpty then return structureVerdict
    else validateSnapshots tools path rest

def snapshots (oldCode newCode : Text) : List Text := [oldCode, newCode].filter (strip · ≠ [])

def validateLockfileSnapshots (tools : Tools) (path : String) (oldCode newCode : Text) :
    Except PyException CriticalityBypassVerdict :=
  validateSnapshots tools path (snapshots oldCode newCode)

/-- The path has no directory and the name of a lockfile. -/
def isRootLockfile (path : String) : Bool :=
  lowerName path ∈ criticalityLockfileNames && (parts path.toList).dropLast.isEmpty

/-- The allowlist is empty in every call of the step. -/
def isValidLockfileBypassPath (path : String) : Except PyException CriticalityBypassVerdict := do
  let normalizedPath ← normalizeRepoRelativePath path
  if lowerName normalizedPath ∉ criticalityLockfileNames then return notCandidate
  if isRootLockfile normalizedPath then
    return ⟨true, "lockfile-root-path-valid", bypassVerdictBypassed, true⟩
  return ⟨false, "rust-invoked:lockfile-nested-path", bypassVerdictRustInvoked, true⟩

/-! ## Generated files -/

def hasGeneratedMarker (code : Text) : Bool :=
  criticalityGeneratedMarkers.any fun marker =>
    containsText marker.toList (lower (joinWith '\n' ((splitlines code).take 5)))

def hasGeneratedFileMarker (oldCode newCode : Text) : Bool :=
  hasGeneratedMarker oldCode || hasGeneratedMarker newCode

def hasGeneratedPath (lowerPath : Text) : Bool :=
  (parts lowerPath).any (fun part =>
    String.ofList part ∈ ["generated", "gen", "__generated__", "autogenerated"]) ||
  ["generated", "autogenerated_", "_pb2.py", "_pb2_grpc.py", ".pb.", ".g."].any fun token =>
    containsText token.toList (name lowerPath)

def isValidGeneratedBypass (path : String) (oldCode newCode : Text) :
    Except PyException CriticalityBypassVerdict := do
  let hasMarker := hasGeneratedFileMarker oldCode newCode
  let normalizedPath ← normalizeRepoRelativePath path
  let hasPathEvidence := hasGeneratedPath (lower normalizedPath.toList)
  if hasMarker && hasPathEvidence then
    return ⟨true, "bypassed:generated-marker-and-path", bypassVerdictBypassed, true⟩
  if hasMarker then
    return ⟨false, "rust-invoked:generated-marker-without-path", bypassVerdictRustInvoked, true⟩
  if hasPathEvidence then
    return ⟨false, "rust-invoked:generated-path-without-marker", bypassVerdictRustInvoked, true⟩
  return notCandidate

def evaluateCriticalityBypassClaim (tools : Tools) (path : String) (oldCode newCode : Text) :
    Except PyException CriticalityBypassVerdict := do
  let normalizedPath ← normalizeRepoRelativePath path
  let lockfilePathVerdict ← isValidLockfileBypassPath normalizedPath
  if lockfilePathVerdict.allowed then
    validateLockfileSnapshots tools normalizedPath oldCode newCode
  else if lockfilePathVerdict.isCandidate then return lockfilePathVerdict
  else isValidGeneratedBypass normalizedPath oldCode newCode

/-! ## Shadows -/

def criticalitySuccessShadow (assessment : RustCriticalityAssessment)
    (bypass : Option CriticalityBypassVerdict) : RustCriticalityShadow where
  available := true
  criticalityIndex := some assessment.criticalityIndex
  riskLevel := some assessment.riskLevel
  reasons := assessment.reasons
  semanticMetrics := some
    [("old_node_count", .int assessment.semanticMetrics.oldNodeCount),
      ("new_node_count", .int assessment.semanticMetrics.newNodeCount),
      ("old_token_count", .int assessment.semanticMetrics.oldTokenCount),
      ("new_token_count", .int assessment.semanticMetrics.newTokenCount),
      ("matched_node_count", .int assessment.semanticMetrics.matchedNodeCount),
      ("survival_ratio", .float assessment.semanticMetrics.survivalRatio)]
  pathCategory := some assessment.pathCategory
  pathSeverity := some assessment.pathSeverity
  errorCode := none
  errorReason := none
  criticalityBypassVerdict := bypass.map (·.verdict)
  criticalityBypassReason := bypass.map (·.reasonCode)

def criticalityFailureShadow (errorCode errorReason : String)
    (bypass : Option CriticalityBypassVerdict) : RustCriticalityShadow where
  available := false
  criticalityIndex := none
  riskLevel := none
  reasons := []
  semanticMetrics := none
  pathCategory := none
  pathSeverity := none
  errorCode := some errorCode
  errorReason := some errorReason
  criticalityBypassVerdict := bypass.map (·.verdict)
  criticalityBypassReason := bypass.map (·.reasonCode)

def criticalityExceptionShadow (fault : KernelFault) (bypass : Option CriticalityBypassVerdict) :
    RustCriticalityShadow :=
  match fault with
  | .unavailable text => criticalityFailureShadow "rust-kernel-unavailable" text bypass
  | .evaluation errorCode reason => criticalityFailureShadow errorCode reason bypass
  | .kernel text => criticalityFailureShadow "rust-kernel-error" text bypass
  | .unexpected text => criticalityFailureShadow "rust-criticality-unexpected-error" text bypass

/-! ## The step -/

def gitSubmoduleMode : String := "160000"

def isGitSubmodule (fileDiff : PatchFileDiff) : Bool :=
  fileDiff.oldMode = some gitSubmoduleMode || fileDiff.newMode = some gitSubmoduleMode

def isJupyterNotebook (path : String) : Bool := extension path.toList = ".ipynb"

def shadowTextSizeBytes (values : List Text) : ℕ :=
  (values.map fun value => (value.flatMap String.utf8EncodeChar).length).sum

/-- The call of the kernel, whose handler also takes in the second normalization. -/
def kernelShadow (tools : Tools) (fileDiff : PatchFileDiff) (oldCode newCode : Text)
    (bypass : Option CriticalityBypassVerdict) : RustCriticalityShadow :=
  match normalizeRepoRelativePath fileDiff.path with
  | .error exc => criticalityExceptionShadow (.unexpected exc.message) bypass
  | .ok filePath =>
    match tools.evaluateCriticality ⟨filePath, fileDiff.kind.value, oldCode, newCode,
        bypass.any (·.verdict = bypassVerdictElevatedRisk)⟩ with
    | .error fault => criticalityExceptionShadow fault bypass
    | .ok assessment => criticalitySuccessShadow assessment bypass

/-- What follows the bypass claim. -/
def shadowOfVerdict (tools : Tools) (fileDiff : PatchFileDiff) (oldCode newCode : Text)
    (verdict : CriticalityBypassVerdict) : RustCriticalityShadow :=
  let bypass := if verdict.isCandidate then some verdict else none
  if verdict.allowed then
    criticalityFailureShadow "criticality-bypass" verdict.reasonCode (some verdict)
  else if shadowTextSizeBytes [strip oldCode, strip newCode] > maxCriticalityShadowBytes then
    criticalityFailureShadow "file-too-large"
      "file size exceeds shadow mode criticality limits" bypass
  else kernelShadow tools fileDiff oldCode newCode bypass

/-- What follows once the contents are loaded. -/
def assessContents (tools : Tools) (fileDiff : PatchFileDiff) (oldCode newCode : Text) :
    Except PyException RustCriticalityShadow :=
  (evaluateCriticalityBypassClaim tools fileDiff.path oldCode newCode).map
    (shadowOfVerdict tools fileDiff oldCode newCode)

/-- The files whose contents are not loaded, with the code and text of their shadows. -/
def excluded (fileDiff : PatchFileDiff) : Option (String × String) :=
  if isSymlinkFile fileDiff then
    some ("symlink-file", "Symlink entries are excluded from Rust criticality analysis")
  else if isGitSubmodule fileDiff then
    some ("git-submodule", "Git submodule entries are excluded from Rust criticality analysis")
  else if fileDiff.binary then
    some ("binary-file", "binary files are excluded from Rust criticality shadow analysis")
  else if isJupyterNotebook fileDiff.path then
    some ("jupyter-notebook-unsupported",
      "Jupyter notebook files are excluded from Rust criticality analysis")
  else none

def criticalityShadowForFile (tools : Tools) (patchDiff : PatchDiff) (fileDiff : PatchFileDiff) :
    Except PyException RustCriticalityShadow :=
  match excluded fileDiff with
  | some (errorCode, errorReason) => .ok (criticalityFailureShadow errorCode errorReason none)
  | none =>
    match loadCriticalityFileContents tools patchDiff fileDiff with
    | .ok (oldCode, newCode) => assessContents tools fileDiff oldCode newCode
    | .error .invalidEncoding => .ok (criticalityFailureShadow "invalid-encoding"
        "file contents are not valid UTF-8 for Rust criticality analysis" none)
    | .error .gitLfsPointer => .ok (criticalityFailureShadow "git-lfs-pointer"
        "Git LFS pointer files are excluded from Rust criticality analysis" none)
    | .error (.raised exc) =>
      if exc.isInstance [.exception] then
        .ok (criticalityFailureShadow "content-unavailable"
          ("file contents could not be loaded for Rust criticality shadow analysis: " ++
            exc.message) none)
      else .error exc

end Step

/-! ## Faults of the load -/

/-- A failure that the handlers of the load take in. -/
def Handled {α : Type} (result : Except LoadFault α) : Prop :=
  ∀ exc, result = .error (.raised exc) → exc.isInstance [.exception] = true

section Handled
variable {α β : Type}

theorem Handled.ok (a : α) : Handled (.ok a) := by
  intro exc h
  cases h

theorem Handled.bind {first : Except LoadFault α} {rest : α → Except LoadFault β}
    (hfirst : Handled first) (hrest : ∀ a, Handled (rest a)) : Handled (first >>= rest) := by
  intro exc h
  rcases bind_eq_error.mp h with h | ⟨a, -, h⟩
  · exact hfirst exc h
  · exact hrest a exc h

theorem Handled.loadIf {present : Bool} {load : Except LoadFault α} (h : Handled load) (initial : α) :
    Handled (loadIf present load initial) := by
  cases present with
  | false => exact .ok initial
  | true => exact h

theorem handled_raised (result : Except RaisedException α) : Handled (raised result) := by
  intro exc h
  cases result with
  | ok a => cases h
  | error e =>
    cases h
    exact e.ordinary

end Handled

theorem ordinary_changedFilePathError (message : String) :
    (changedFilePathError message).isInstance [.exception] = true := rfl

theorem handled_normalized (path : String) : Handled (normalized path) := by
  intro exc h
  unfold normalized normalizeRepoRelativePath at h
  dsimp only at h
  split_ifs at h
  all_goals
    cases h
    try exact ordinary_changedFilePathError _

theorem handled_decode (rawContent : List UInt8) :
    Handled (decodeCriticalityFileBytes rawContent) := by
  intro exc h
  unfold decodeCriticalityFileBytes at h
  dsimp only at h
  split_ifs at h
  all_goals cases h

theorem handled_load (tools : Tools) (patchDiff : PatchDiff) (fileDiff : PatchFileDiff) :
    Handled (loadCriticalityFileContents tools patchDiff fileDiff) := by
  unfold loadCriticalityFileContents
  refine (handled_raised _).bind fun workspace => ?_
  refine (handled_normalized _).bind fun oldPath => ?_
  refine (handled_normalized _).bind fun newPath => ?_
  refine (Handled.loadIf ?_ 0).bind fun oldSize => ?_
  · exact (handled_raised _).bind fun stdout => handled_raised _
  refine ((handled_raised _).loadIf 0).bind fun newSize => ?_
  by_cases hlarge : oldSize + newSize > maxCriticalityRawBytes
  · simp only [hlarge, if_true]
    exact .ok _
  · simp only [hlarge, if_false]
    refine (Handled.loadIf ?_ []).bind fun oldCode => ?_
    · exact (handled_raised _).bind fun stdout => handled_decode _
    refine (Handled.loadIf ?_ []).bind fun newCode => .ok _
    exact (handled_raised _).bind fun rawContent => handled_decode _

/-- Contents are loaded only for a path that normalizes. -/
theorem exists_normalized_of_load {tools : Tools} {patchDiff : PatchDiff} {fileDiff : PatchFileDiff}
    {codes : Text × Text} (h : loadCriticalityFileContents tools patchDiff fileDiff = .ok codes) :
    ∃ path, normalizeRepoRelativePath fileDiff.path = .ok path := by
  unfold loadCriticalityFileContents at h
  have ⟨_, _, h⟩ := bind_eq_ok.mp h
  have ⟨_, _, h⟩ := bind_eq_ok.mp h
  have ⟨path, hpath, _⟩ := bind_eq_ok.mp h
  exact ⟨path, mapError_eq_ok.mp hpath⟩

/-! ## The shapes of lockfiles -/

inductive LockfileFormat where
  | json
  | toml
deriving DecidableEq, Repr

/-- What a lockfile of each name has to look like. -/
def lockfileShapes : List (String × LockfileFormat × List String) :=
  [("cargo.lock", .toml, ["package"]), ("composer.lock", .json, ["packages", "packages-dev"]),
    ("package-lock.json", .json, ["lockfileVersion", "packages", "dependencies"]),
    ("pipfile.lock", .json, ["_meta", "default", "develop"]),
    ("poetry.lock", .toml, ["package", "metadata"]), ("uv.lock", .toml, ["package"])]

namespace LockfileFormat

def parser (tools : Tools) : LockfileFormat → Option (Text → Except RaisedException Parsed)
  | json => some tools.jsonLoads
  | toml => tools.tomlLoads

def decodeError : LockfileFormat → ExceptionClass
  | json => jsonDecodeError
  | toml => tomlDecodeError

def HasShape (expectedKeys keys : List String) : LockfileFormat → Prop
  | json => ∃ key ∈ expectedKeys, key ∈ keys
  | toml => ∀ key ∈ expectedKeys, key ∈ keys

def validate (tools : Tools) (expectedKeys : List String) :
    LockfileFormat → Text → Except PyException CriticalityBypassVerdict
  | json => validateJsonLockfile tools expectedKeys
  | toml => validateTomlLockfile tools expectedKeys

end LockfileFormat

/-- The snapshot parses to a table with the keys that the lockfile's name asks for. -/
def WellShaped (tools : Tools) (lockfile : String) (snapshot : Text) : Prop :=
  ∃ format expectedKeys loads keys, lockfileShapes.lookup lockfile = some (format, expectedKeys) ∧
    format.parser tools = some loads ∧ loads snapshot = .ok (.dict keys) ∧
      format.HasShape expectedKeys keys

/-- The parser raises an exception that is not its decode error. -/
def ParserRaises (tools : Tools) (lockfile : String) (snapshot : Text) : Prop :=
  ∃ format expectedKeys loads e, lockfileShapes.lookup lockfile = some (format, expectedKeys) ∧
    format.parser tools = some loads ∧ loads snapshot = .error e ∧
      e.exc.isInstance [format.decodeError] = false

theorem lookup_map {α β : Type} (f : α → β) (entries : List (String × α)) (key : String) :
    (entries.map fun entry => (entry.1, f entry.2)).lookup key = (entries.lookup key).map f := by
  induction entries with
  | nil => rfl
  | cons entry entries ih =>
    obtain ⟨name, value⟩ := entry
    by_cases h : key = name
    · simp [h]
    · have hne : (key == name) = false := by simpa using h
      simp [List.lookup_cons, hne, ih]

theorem lookup_validators (tools : Tools) (lockfile : String) :
    (criticalityLockfileValidators tools).lookup lockfile =
      (lockfileShapes.lookup lockfile).map fun shape => shape.1.validate tools shape.2 :=
  lookup_map (fun shape : LockfileFormat × List String => shape.1.validate tools shape.2)
    lockfileShapes lockfile

theorem parseObject_eq_error {loads : Text → Except RaisedException Parsed}
    {decodeError : ExceptionClass} {content : Text} {exc : PyException} :
    parseObject loads decodeError content = .error exc ↔
      ∃ e, loads content = .error e ∧ e.exc.isInstance [decodeError] = false ∧ e.exc = exc := by
  unfold parseObject
  cases h : loads content with
  | ok parsed => cases parsed <;> simp
  | error e => by_cases hdecode : e.exc.isInstance [decodeError] <;> simp [hdecode]

theorem parseObject_eq_some {loads : Text → Except RaisedException Parsed}
    {decodeError : ExceptionClass} {content : Text} {keys : List String} :
    parseObject loads decodeError content = .ok (some keys) ↔ loads content = .ok (.dict keys) := by
  unfold parseObject
  cases h : loads content with
  | ok parsed => cases parsed <;> simp
  | error e => by_cases hdecode : e.exc.isInstance [decodeError] <;> simp [hdecode]

theorem documentVerdict_allowed {failed mismatch valid : String} {hasShape : List String → Bool}
    {parsed : Option (List String)} :
    (documentVerdict failed mismatch valid hasShape parsed).allowed = true ↔
      ∃ keys, parsed = some keys ∧ hasShape keys = true := by
  cases parsed with
  | none => simp [documentVerdict]
  | some keys => by_cases h : hasShape keys <;> simp [documentVerdict, h]

namespace LockfileFormat
variable {tools : Tools} {expectedKeys : List String} {snapshot : Text}

theorem validate_eq_error {format : LockfileFormat} :
    (∃ exc, format.validate tools expectedKeys snapshot = .error exc) ↔
      ∃ loads e, format.parser tools = some loads ∧ loads snapshot = .error e ∧
        e.exc.isInstance [format.decodeError] = false := by
  cases format with
  | json =>
    simp [validate, validateJsonLockfile, parseJsonObject, map_eq_error, parseObject_eq_error,
      parser, decodeError]
  | toml =>
    cases htoml : tools.tomlLoads with
    | none => simp [validate, validateTomlLockfile, parseTomlObject, htoml, Except.map, parser]
    | some loads =>
      simp [validate, validateTomlLockfile, parseTomlObject, htoml, map_eq_error,
        parseObject_eq_error, parser, decodeError]

theorem validate_allowed {format : LockfileFormat} :
    (∃ verdict, format.validate tools expectedKeys snapshot = .ok verdict ∧
        verdict.allowed = true) ↔
      ∃ loads keys, format.parser tools = some loads ∧ loads snapshot = .ok (.dict keys) ∧
        format.HasShape expectedKeys keys := by
  cases format with
  | json =>
    simp [validate, validateJsonLockfile, parseJsonObject, map_eq_ok, documentVerdict_allowed,
      parseObject_eq_some, parser, HasShape]
  | toml =>
    cases htoml : tools.tomlLoads with
    | none =>
      simp [validate, validateTomlLockfile, parseTomlObject, htoml, map_eq_ok,
        documentVerdict_allowed, parser]
    | some loads =>
      simp [validate, validateTomlLockfile, parseTomlObject, htoml, map_eq_ok,
        documentVerdict_allowed, parseObject_eq_some, parser, HasShape]

end LockfileFormat

section Verdicts
variable [UnicodeTables] {tools : Tools} {path : String} {snapshot : Text}

theorem validateLockfileStructure_eq_error :
    (∃ exc, validateLockfileStructure tools path snapshot = .error exc) ↔
      ParserRaises tools (lowerName path) snapshot := by
  unfold validateLockfileStructure ParserRaises
  rw [lookup_validators]
  cases lockfileShapes.lookup (lowerName path) with
  | none => simp
  | some shape =>
    obtain ⟨format, expectedKeys⟩ := shape
    simp [LockfileFormat.validate_eq_error]

theorem validateLockfileStructure_allowed :
    (∃ verdict, validateLockfileStructure tools path snapshot = .ok verdict ∧
        verdict.allowed = true) ↔ WellShaped tools (lowerName path) snapshot := by
  unfold validateLockfileStructure WellShaped
  rw [lookup_validators]
  cases lockfileShapes.lookup (lowerName path) with
  | none => simp
  | some shape =>
    obtain ⟨format, expectedKeys⟩ := shape
    simp [LockfileFormat.validate_allowed]

/-- A parser raises on a snapshot that the loop reaches: the ones before it are well shaped. -/
def SnapshotRaises (tools : Tools) (lockfile : String) : List Text → Prop
  | [] => False
  | snapshot :: rest => ParserRaises tools lockfile snapshot ∨
      WellShaped tools lockfile snapshot ∧ SnapshotRaises tools lockfile rest

/-- What the validator says of one snapshot. -/
theorem validateLockfileStructure_cases (tools : Tools) (path : String) (snapshot : Text) :
    (∃ exc, validateLockfileStructure tools path snapshot = .error exc ∧
        ParserRaises tools (lowerName path) snapshot) ∨
      ∃ verdict, validateLockfileStructure tools path snapshot = .ok verdict ∧
        ¬ ParserRaises tools (lowerName path) snapshot ∧
          (verdict.allowed = true ↔ WellShaped tools (lowerName path) snapshot) := by
  rw [← validateLockfileStructure_eq_error, ← validateLockfileStructure_allowed]
  cases validateLockfileStructure tools path snapshot with
  | error exc => exact .inl ⟨exc, rfl, exc, rfl⟩
  | ok verdict => exact .inr ⟨verdict, rfl, by simp, by simp⟩

theorem validateSnapshots_eq_error {codes : List Text} :
    (∃ exc, validateSnapshots tools path codes = .error exc) ↔
      SnapshotRaises tools (lowerName path) codes := by
  induction codes with
  | nil => simp [validateSnapshots, SnapshotRaises]
  | cons code rest ih =>
    rcases validateLockfileStructure_cases tools path code with
      ⟨exc, hraise, hparser⟩ | ⟨verdict, hverdict, hparser, hallowed⟩
    · simp [validateSnapshots, SnapshotRaises, hraise, hparser, bind, Except.bind]
    · rw [SnapshotRaises, ← ih, ← hallowed]
      by_cases hvalid : verdict.allowed = true
      · cases rest with
        | nil =>
          simp [validateSnapshots, hverdict, hvalid, hparser, bind, Except.bind, pure, Except.pure]
        | cons code' rest' =>
          rw [validateSnapshots, hverdict]
          simp [hvalid, hparser, bind, Except.bind]
      · simp [validateSnapshots, hverdict, hvalid, hparser, bind, Except.bind, pure, Except.pure]

/-- Snapshots of which one is not well shaped are refused, unless a parser raises. -/
theorem validateSnapshots_invalid {codes : List Text} {verdict : CriticalityBypassVerdict}
    (h : validateSnapshots tools path codes = .ok verdict)
    (hcode : ∃ code ∈ codes, ¬ WellShaped tools (lowerName path) code) :
    verdict = invalidStructure := by
  induction codes with
  | nil =>
    obtain ⟨code, hmem, _⟩ := hcode
    cases hmem
  | cons code rest ih =>
    obtain ⟨first, hfirst, h⟩ := bind_eq_ok.mp h
    have hallowed : first.allowed = true ↔ WellShaped tools (lowerName path) code := by
      rw [← validateLockfileStructure_allowed]
      simp [hfirst]
    by_cases hvalid : first.allowed = true
    · have hrest : ∃ code ∈ rest, ¬ WellShaped tools (lowerName path) code := by
        simpa [hallowed.mp hvalid] using hcode
      cases rest with
      | nil => simp at hrest
      | cons code' rest' =>
        apply ih _ hrest
        simpa [hvalid] using h
    · simp [hvalid, pure, Except.pure] at h
      exact h.symm

end Verdicts

/-! ## Where the step raises -/

section Raising
variable [UnicodeTables] {tools : Tools} {patchDiff : PatchDiff} {fileDiff : PatchFileDiff}
  {path : String} {oldCode newCode : Text}

/-- The normalized path still is a lockfile at the root when it is normalized again. -/
def RootLockfile (path : String) : Prop :=
  ∃ again, normalizeRepoRelativePath path = .ok again ∧ isRootLockfile again = true

/-- The bypass claim raises for a normalized path and its contents: the path cannot be normalized
again, or a lockfile's parser raises. -/
def ClaimRaises (tools : Tools) (path : String) (oldCode newCode : Text) : Prop :=
  (∃ exc, normalizeRepoRelativePath path = .error exc) ∨
    RootLockfile path ∧ SnapshotRaises tools (lowerName path) (snapshots oldCode newCode)

theorem isValidLockfileBypassPath_allowed {verdict : CriticalityBypassVerdict}
    (h : isValidLockfileBypassPath path = .ok verdict) :
    verdict.allowed = true ↔ RootLockfile path := by
  obtain ⟨again, hagain, h⟩ := bind_eq_ok.mp h
  have hroot : RootLockfile path ↔ isRootLockfile again = true := by simp [RootLockfile, hagain]
  rw [hroot]
  by_cases hname : lowerName again ∈ criticalityLockfileNames
  · by_cases hlock : isRootLockfile again = true
    · simp [hname, hlock, pure, Except.pure] at h
      simp [← h, hlock]
    · simp [hname, hlock, pure, Except.pure] at h
      simp [← h, hlock]
  · simp [hname, pure, Except.pure] at h
    simp [← h, notCandidate, isRootLockfile, hname]

theorem isValidGeneratedBypass_ok {again : String}
    (hagain : normalizeRepoRelativePath path = .ok again) (oldCode newCode : Text) :
    ∃ verdict, isValidGeneratedBypass path oldCode newCode = .ok verdict := by
  unfold isValidGeneratedBypass
  rw [hagain]
  simp only [bind, Except.bind, pure, Except.pure]
  split_ifs <;> exact ⟨_, rfl⟩

/-- The claim of a file whose path normalizes. -/
theorem evaluateCriticalityBypassClaim_eq (hpath : normalizeRepoRelativePath fileDiff.path = .ok path) :
    evaluateCriticalityBypassClaim tools fileDiff.path oldCode newCode =
      (isValidLockfileBypassPath path >>= fun verdict =>
        if verdict.allowed then validateLockfileSnapshots tools path oldCode newCode
        else if verdict.isCandidate then .ok verdict
        else isValidGeneratedBypass path oldCode newCode) := by
  unfold evaluateCriticalityBypassClaim
  rw [hpath]
  rfl

theorem evaluateCriticalityBypassClaim_eq_error
    (hpath : normalizeRepoRelativePath fileDiff.path = .ok path) :
    (∃ exc, evaluateCriticalityBypassClaim tools fileDiff.path oldCode newCode = .error exc) ↔
      ClaimRaises tools path oldCode newCode := by
  rw [evaluateCriticalityBypassClaim_eq hpath, ClaimRaises]
  cases hagain : normalizeRepoRelativePath path with
  | error exc =>
    have hverdict : isValidLockfileBypassPath path = .error exc := by
      simp [isValidLockfileBypassPath, hagain, bind, Except.bind]
    simp [hverdict, bind, Except.bind]
  | ok again =>
    obtain ⟨verdict, hverdict⟩ : ∃ verdict, isValidLockfileBypassPath path = .ok verdict := by
      simp only [isValidLockfileBypassPath, hagain, bind, Except.bind, pure, Except.pure]
      split_ifs <;> exact ⟨_, rfl⟩
    have hallowed := isValidLockfileBypassPath_allowed hverdict
    rw [hverdict, ← validateSnapshots_eq_error, ← hallowed]
    by_cases hroot : verdict.allowed = true
    · simp [hroot, validateLockfileSnapshots, bind, Except.bind]
    · obtain ⟨generated, hgenerated⟩ := isValidGeneratedBypass_ok hagain oldCode newCode
      by_cases hcandidate : verdict.isCandidate = true
      · simp [hroot, hcandidate, bind, Except.bind]
      · simp [hroot, hcandidate, hgenerated, bind, Except.bind]

/-- Only the bypass claim of loaded contents raises. -/
theorem assessContents_eq_error (hpath : normalizeRepoRelativePath fileDiff.path = .ok path) :
    (∃ exc, assessContents tools fileDiff oldCode newCode = .error exc) ↔
      ClaimRaises tools path oldCode newCode := by
  rw [← evaluateCriticalityBypassClaim_eq_error hpath]
  simp [assessContents, map_eq_error]

/-- The contents of the file are loaded, and its bypass claim raises. -/
def StepRaises (tools : Tools) (patchDiff : PatchDiff) (fileDiff : PatchFileDiff) : Prop :=
  excluded fileDiff = none ∧ ∃ path oldCode newCode,
    normalizeRepoRelativePath fileDiff.path = .ok path ∧
      loadCriticalityFileContents tools patchDiff fileDiff = .ok (oldCode, newCode) ∧
        ClaimRaises tools path oldCode newCode

/-- The step gives a shadow, or an exception escapes from it. -/
theorem criticalityShadowForFile_ok_iff :
    (∃ shadow, criticalityShadowForFile tools patchDiff fileDiff = .ok shadow) ↔
      ¬ StepRaises tools patchDiff fileDiff := by
  unfold criticalityShadowForFile StepRaises
  cases hexcluded : excluded fileDiff with
  | some fault => simp
  | none =>
    cases hload : loadCriticalityFileContents tools patchDiff fileDiff with
    | error fault =>
      cases fault with
      | invalidEncoding => simp
      | gitLfsPointer => simp
      | raised exc => simp [handled_load tools patchDiff fileDiff exc hload]
    | ok codes =>
      obtain ⟨oldCode, newCode⟩ := codes
      obtain ⟨path, hpath⟩ := exists_normalized_of_load hload
      have hassess : (∃ exc, assessContents tools fileDiff oldCode newCode = .error exc) ↔
          ClaimRaises tools path oldCode newCode := assessContents_eq_error hpath
      simp [hpath, ← hassess]
      cases assessContents tools fileDiff oldCode newCode <;> simp

end Raising

/-! ## Classification with the step -/

section Classification
variable [UnicodeTables]

def classifyChangedFile (tools : Tools) (patchDiff : PatchDiff) (addedLinesByPath : AddedLines)
    (fileDiff : PatchFileDiff) : Except PyException FileRiskClassification := do
  let fileRisk ← classifyPatchFileRisk fileDiff addedLinesByPath
  let shadow ← criticalityShadowForFile tools patchDiff fileDiff
  return attachCriticalityShadow fileRisk shadow

/-- `classify_patch_risk`, with the step in place of the answer of `Analyses`. -/
def classifyPatchRisk (tools : Tools) (analyses : Analyses) (patchDiff : PatchDiff)
    (validationReasons : List ChangeRiskReason) (policy : DiffLimitPolicy) :
    Except PyException ChangeRiskReport := do
  let addedLinesByPath ← extractAddedLinesByPath (Utf8.visible patchDiff.patch)
  let files ← patchDiff.files.mapM (classifyChangedFile tools patchDiff addedLinesByPath)
  let paths := patchDiff.files.map (·.path)
  return {
    baselineCommitSha := patchDiff.baselineCommitSha
    patchSha256 := patchDiff.patchSha256
    files := files
    reportReasons := validationReasons ++ diffLimitReasons patchDiff policy ++
      dependencyGovernanceReasons (analyses.buildDependencyGovernancePlan paths) ++
      actionIntentReportReasons (analyses.classifyActionIntent paths addedLinesByPath) }

variable {tools : Tools} {analyses : Analyses} {patchDiff : PatchDiff}
  {validationReasons : List ChangeRiskReason} {policy : DiffLimitPolicy}

/-- Where the step gives the answers of `Analyses`, the classification is the one built on them. -/
theorem classifyPatchRisk_eq
    (h : ∀ fileDiff ∈ patchDiff.files, criticalityShadowForFile tools patchDiff fileDiff =
      .ok (analyses.criticalityShadowForFile patchDiff fileDiff)) :
    classifyPatchRisk tools analyses patchDiff validationReasons policy =
      ChangeRisk.classifyPatchRisk analyses patchDiff validationReasons policy := by
  have hfiles : ∀ addedLines, patchDiff.files.mapM (classifyChangedFile tools patchDiff addedLines) =
      patchDiff.files.mapM (ChangeRisk.classifyChangedFile analyses patchDiff addedLines) := by
    intro addedLines
    apply mapM_congr
    intro fileDiff hfile
    rw [classifyChangedFile, ChangeRisk.classifyChangedFile, h fileDiff hfile]
    cases classifyPatchFileRisk fileDiff addedLines <;> rfl
  simp only [classifyPatchRisk, ChangeRisk.classifyPatchRisk, hfiles]

theorem classifyPatchRisk_files {report : ChangeRiskReport}
    (h : classifyPatchRisk tools analyses patchDiff validationReasons policy = .ok report) :
    ∃ addedLines, patchDiff.files.mapM (classifyChangedFile tools patchDiff addedLines) =
      .ok report.files := by
  obtain ⟨addedLines, -, h⟩ := bind_eq_ok.mp h
  obtain ⟨files, hfiles, h⟩ := bind_eq_ok.mp h
  cases h
  exact ⟨addedLines, hfiles⟩

theorem classifyChangedFile_eq_ok {addedLines : AddedLines} {fileDiff : PatchFileDiff}
    {fileRisk : FileRiskClassification}
    (h : classifyChangedFile tools patchDiff addedLines fileDiff = .ok fileRisk) :
    ∃ ownRisk shadow, classifyPatchFileRisk fileDiff addedLines = .ok ownRisk ∧
      criticalityShadowForFile tools patchDiff fileDiff = .ok shadow ∧
        fileRisk = attachCriticalityShadow ownRisk shadow := by
  obtain ⟨ownRisk, hown, h⟩ := bind_eq_ok.mp h
  obtain ⟨shadow, hshadow, h⟩ := bind_eq_ok.mp h
  cases h
  exact ⟨ownRisk, shadow, hown, hshadow, rfl⟩

/-- A lockfile at the root whose loaded contents have a snapshot, not blank, that does not parse or
lacks its shape. -/
def RejectedLockfile (tools : Tools) (patchDiff : PatchDiff) (fileDiff : PatchFileDiff) : Prop :=
  excluded fileDiff = none ∧ ∃ path oldCode newCode,
    normalizeRepoRelativePath fileDiff.path = .ok path ∧ RootLockfile path ∧
      loadCriticalityFileContents tools patchDiff fileDiff = .ok (oldCode, newCode) ∧
        ∃ code ∈ [oldCode, newCode], strip code ≠ [] ∧ ¬ WellShaped tools (lowerName path) code

/-- The verdict on a rejected lockfile, if there is one, is that its structure is invalid. -/
theorem rejected_verdict {path : String} {oldCode newCode : Text} {fileDiff : PatchFileDiff}
    {verdict : CriticalityBypassVerdict}
    (hpath : normalizeRepoRelativePath fileDiff.path = .ok path) (hroot : RootLockfile path)
    (hcode : ∃ code ∈ [oldCode, newCode], strip code ≠ [] ∧
      ¬ WellShaped tools (lowerName path) code)
    (h : evaluateCriticalityBypassClaim tools fileDiff.path oldCode newCode = .ok verdict) :
    verdict = invalidStructure := by
  rw [evaluateCriticalityBypassClaim_eq hpath] at h
  obtain ⟨lockfile, hlockfile, h⟩ := bind_eq_ok.mp h
  rw [if_pos ((isValidLockfileBypassPath_allowed hlockfile).mpr hroot)] at h
  apply validateSnapshots_invalid h
  obtain ⟨code, hmem, hblank, hshape⟩ := hcode
  exact ⟨code, by simpa [snapshots, hblank] using hmem, hshape⟩

omit [UnicodeTables] in
theorem kernelShadow_bypassReason (tools : Tools) (fileDiff : PatchFileDiff) (oldCode newCode : Text)
    (bypass : Option CriticalityBypassVerdict) :
    (kernelShadow tools fileDiff oldCode newCode bypass).criticalityBypassReason =
      bypass.map (·.reasonCode) := by
  unfold kernelShadow criticalityExceptionShadow
  split
  · rfl
  · split
    · split <;> rfl
    · rfl

omit [UnicodeTables] in
/-- A shadow after the verdict of an invalid structure carries its reason code. -/
theorem shadowOfVerdict_invalid (tools : Tools) (fileDiff : PatchFileDiff) (oldCode newCode : Text) :
    (shadowOfVerdict tools fileDiff oldCode newCode invalidStructure).criticalityBypassReason =
      some bypassReasonLockfileInvalidStructure := by
  simp only [shadowOfVerdict, invalidStructure, Bool.false_eq_true, if_false, if_true]
  split
  · rfl
  · exact kernelShadow_bypassReason _ _ _ _ _

/-- A rejected lockfile that is classified has a reason of level high. -/
theorem rejected_high {fileDiff : PatchFileDiff} {addedLines : AddedLines}
    {fileRisk : FileRiskClassification}
    (h : classifyChangedFile tools patchDiff addedLines fileDiff = .ok fileRisk)
    (hrejected : RejectedLockfile tools patchDiff fileDiff) :
    ∃ reason ∈ fileRisk.reasons, RiskLevel.high ≤ reason.riskLevel := by
  obtain ⟨ownRisk, shadow, -, hshadow, rfl⟩ := classifyChangedFile_eq_ok h
  obtain ⟨hexcluded, path, oldCode, newCode, hpath, hroot, hload, hcode⟩ := hrejected
  simp only [criticalityShadowForFile, hexcluded, hload, assessContents] at hshadow
  obtain ⟨verdict, hverdict, hshadow⟩ := map_eq_ok.mp hshadow
  rw [rejected_verdict hpath hroot hcode hverdict] at hshadow
  have hreason : shadow.criticalityBypassReason = some bypassReasonLockfileInvalidStructure := by
    rw [← hshadow, shadowOfVerdict_invalid]
  obtain ⟨reason, hbypass, hlevel⟩ : ∃ reason, criticalityBypassRiskReason shadow = some reason ∧
      reason.riskLevel = .high := by
    simp [criticalityBypassRiskReason, hreason, changeRiskReason]
  refine ⟨reason, ?_, hlevel.ge⟩
  simp [attachCriticalityShadow, hbypass]

/-! ## The promise of the step -/

/-- No exception escapes from the step, so that the files that can be classified still are, one by
one, and a lockfile that does not parse is not let through silently. -/
structure Guarded (tools : Tools) (analyses : Analyses) (patchDiff : PatchDiff)
    (validationReasons : List ChangeRiskReason) (policy : DiffLimitPolicy) : Prop where
  total : ∀ fileDiff ∈ patchDiff.files,
    ∃ shadow, criticalityShadowForFile tools patchDiff fileDiff = .ok shadow
  classified : ∀ addedLines, extractAddedLinesByPath (Utf8.visible patchDiff.patch) = .ok addedLines →
    (∀ fileDiff ∈ patchDiff.files, ∃ ownRisk,
      classifyPatchFileRisk fileDiff addedLines = .ok ownRisk) →
    ∃ report, classifyPatchRisk tools analyses patchDiff validationReasons policy = .ok report ∧
      List.Forall₂ (fun fileDiff fileRisk =>
        normalizeRepoRelativePath fileDiff.path = .ok fileRisk.path) patchDiff.files report.files
  lockfiles : ∀ report,
    classifyPatchRisk tools analyses patchDiff validationReasons policy = .ok report →
    List.Forall₂ (fun fileDiff fileRisk => RejectedLockfile tools patchDiff fileDiff →
      ∃ reason ∈ fileRisk.reasons, RiskLevel.high ≤ reason.riskLevel) patchDiff.files report.files

theorem classifyChangedFile_path {addedLines : AddedLines} {fileDiff : PatchFileDiff}
    {fileRisk : FileRiskClassification}
    (h : classifyChangedFile tools patchDiff addedLines fileDiff = .ok fileRisk) :
    normalizeRepoRelativePath fileDiff.path = .ok fileRisk.path := by
  obtain ⟨ownRisk, shadow, hown, -, rfl⟩ := classifyChangedFile_eq_ok h
  obtain ⟨path, hpath, howned, -, -⟩ := classifyPatchFileRisk_eq_ok hown
  rw [hpath, ← howned]
  rfl

/-- Files whose own risk and shadow are given are all classified. -/
theorem exists_report
    (hshadow : ∀ fileDiff ∈ patchDiff.files,
      ∃ shadow, criticalityShadowForFile tools patchDiff fileDiff = .ok shadow)
    {addedLines : AddedLines}
    (hlines : extractAddedLinesByPath (Utf8.visible patchDiff.patch) = .ok addedLines)
    (hown : ∀ fileDiff ∈ patchDiff.files, ∃ ownRisk,
      classifyPatchFileRisk fileDiff addedLines = .ok ownRisk) :
    ∃ report, classifyPatchRisk tools analyses patchDiff validationReasons policy = .ok report := by
  have hfiles : ∃ files,
      patchDiff.files.mapM (classifyChangedFile tools patchDiff addedLines) = .ok files := by
    apply mapM_eq_ok_iff.mpr
    intro fileDiff hfile
    obtain ⟨ownRisk, howned⟩ := hown fileDiff hfile
    obtain ⟨shadow, hshadowed⟩ := hshadow fileDiff hfile
    exact ⟨_, bind_eq_ok.mpr ⟨ownRisk, howned, bind_eq_ok.mpr ⟨shadow, hshadowed, rfl⟩⟩⟩
  obtain ⟨files, hfiles⟩ := hfiles
  exact ⟨_, bind_eq_ok.mpr ⟨addedLines, hlines, bind_eq_ok.mpr ⟨files, hfiles, rfl⟩⟩⟩

/-- The promise holds for a patch unless the contents of one of its files are loaded and its bypass
claim raises: its path does not normalize again, or it is a lockfile at the root and a parser raises
something other than its decode error on a snapshot that the validation reaches. -/
theorem guarded_iff (tools : Tools) (analyses : Analyses) (patchDiff : PatchDiff)
    (validationReasons : List ChangeRiskReason) (policy : DiffLimitPolicy) :
    Guarded tools analyses patchDiff validationReasons policy ↔
      ∀ fileDiff ∈ patchDiff.files, ¬ StepRaises tools patchDiff fileDiff := by
  constructor
  · intro h fileDiff hfile
    exact criticalityShadowForFile_ok_iff.mp (h.total fileDiff hfile)
  · intro h
    have htotal : ∀ fileDiff ∈ patchDiff.files,
        ∃ shadow, criticalityShadowForFile tools patchDiff fileDiff = .ok shadow :=
      fun fileDiff hfile => criticalityShadowForFile_ok_iff.mpr (h fileDiff hfile)
    refine ⟨htotal, ?_, ?_⟩
    · intro addedLines hlines hown
      obtain ⟨report, hreport⟩ := exists_report htotal hlines hown
      obtain ⟨_, hfiles⟩ := classifyPatchRisk_files hreport
      exact ⟨report, hreport, (forall₂_of_mapM_eq_ok hfiles).imp fun _ _ => classifyChangedFile_path⟩
    · intro report hreport
      obtain ⟨_, hfiles⟩ := classifyPatchRisk_files hreport
      exact (forall₂_of_mapM_eq_ok hfiles).imp fun _ _ => rejected_high

end Classification

/-! ## A deeply nested lockfile -/

namespace Sample
open PyText.Ascii

/-- Arrays nested to a depth. -/
def nested (depth : ℕ) : Text := List.replicate depth '['

def recursionError : RaisedException where
  exc := .runtime (.other "RecursionError")
    "maximum recursion depth exceeded while decoding a JSON array from a unicode string"
  ordinary := rfl

def fileNotFound : RaisedException where
  exc := ⟨[.other "FileNotFoundError", .osError, .exception, .baseException],
    "git executable was not found on PATH"⟩
  ordinary := rfl

/-- A workspace whose files hold the nested arrays, with a parser that they exhaust. -/
def tools (depth : ℕ) : Tools where
  resolve path := .ok path
  git _ _ := .error fileNotFound
  readInt _ := .error fileNotFound
  fileSize _ _ := .ok depth
  fileBytes _ _ := .ok (List.replicate depth 91)
  jsonLoads text := if text = nested depth then .error recursionError else .ok .other
  tomlLoads := none
  evaluateCriticality _ := .error (.unavailable "rust kernel is not installed")

def packageLock : PatchFileDiff where
  path := "package-lock.json"
  kind := .added
  additions := some 1
  deletions := some 0
  binary := false
  oldPath := none
  oldMode := none
  newMode := some "100644"
  modeChanged := false

def patch : PatchDiff where
  workspacePath := "/work/ws"
  baselineCommitSha := "4b825dc642cb6eb9a060e54bf8d69288fbee4904"
  patch := []
  patchSha256 := ""
  patchSizeBytes := 0
  files := [packageLock]
  ignoredFiles := []

theorem isPrefixOf_replicate {needle : List UInt8} {a b : UInt8} (hhead : needle.head? = some a)
    (hne : a ≠ b) (n : ℕ) : needle.isPrefixOf (List.replicate n b) = false := by
  cases needle with
  | nil => cases hhead
  | cons first rest =>
    cases hhead
    cases n with
    | zero => rfl
    | succ n => simp [List.replicate_succ, List.isPrefixOf, hne]

theorem decode_nested (depth : ℕ) :
    decodeCriticalityFileBytes (List.replicate depth 91) = .ok (nested depth) := by
  have hhead : gitLfsPointerPrefix.head? = some 118 := by decide
  have hpointer : gitLfsPointerPrefix.isPrefixOf (List.replicate depth 91) = false :=
    isPrefixOf_replicate hhead (by decide) depth
  have hbytes : List.replicate depth 91 = (nested depth).map fun c => UInt8.ofNat c.toNat := by
    rw [nested, List.map_replicate]
    rfl
  have hdecode : Utf8.decode (List.replicate depth 91) = Utf8.ofText (nested depth) := by
    rw [hbytes]
    apply Utf8.decode_ascii
    intro c hc
    rw [List.eq_of_mem_replicate hc]
    decide
  have hvisible : Utf8.visible (Utf8.ofText (nested depth)) = nested depth := by
    rw [Utf8.visible, Utf8.ofText, List.map_map]
    exact List.map_id _
  simp [decodeCriticalityFileBytes, hpointer, hdecode, hvisible]

theorem normalized_packageLock :
    normalizeRepoRelativePath packageLock.path = .ok packageLock.path := by
  decide +kernel

theorem load_packageLock {depth : ℕ} (h : depth ≤ maxCriticalityRawBytes) :
    loadCriticalityFileContents (tools depth) patch packageLock = .ok ([], nested depth) := by
  have hpath : normalized packageLock.path = .ok packageLock.path := by
    rw [normalized, normalized_packageLock]
    rfl
  have hfile : readWorkspaceFileText (tools depth) "/work/ws" packageLock.path =
      .ok (nested depth) := decode_nested depth
  have hsize : ¬ (0 : ℤ) + depth > maxCriticalityRawBytes := by omega
  unfold loadCriticalityFileContents
  change (normalized packageLock.path >>= fun oldPath => normalized packageLock.path >>= fun newPath =>
    if (0 : ℤ) + depth > maxCriticalityRawBytes then
      .ok (List.replicate (maxCriticalityShadowBytes + 1) 'x', [])
    else readWorkspaceFileText (tools depth) "/work/ws" newPath >>= fun newCode =>
      .ok ([], newCode)) = _
  simp only [hpath, bind, Except.bind, hsize, if_false, hfile]

theorem packageLock_raises {depth : ℕ} (hpos : 0 < depth) (h : depth ≤ maxCriticalityRawBytes) :
    StepRaises (tools depth) patch packageLock := by
  have hroot : isRootLockfile packageLock.path = true := by decide +kernel
  have hincluded : excluded packageLock = none := by decide +kernel
  have hname : lowerName packageLock.path = "package-lock.json" := by decide +kernel
  have hblank : strip (nested depth) ≠ [] := by
    intro hstrip
    have hspace := strip_eq_nil.mp hstrip '[' (by simp [nested]; omega)
    exact absurd hspace (by decide)
  have hsnapshots : snapshots [] (nested depth) = [nested depth] := by
    have hempty : strip [] = [] := rfl
    simp [snapshots, hblank, hempty]
  refine ⟨hincluded, packageLock.path, [], nested depth, normalized_packageLock, load_packageLock h,
    .inr ⟨⟨_, normalized_packageLock, hroot⟩, ?_⟩⟩
  rw [hsnapshots, hname]
  refine .inl ⟨.json, ["lockfileVersion", "packages", "dependencies"], (tools depth).jsonLoads,
    recursionError, by decide, rfl, ?_, by decide⟩
  simp [tools]

end Sample

open Sample PyText.Ascii

/-- A lockfile of nested arrays that exhaust the parser stops the classification. -/
theorem deeplyNested_escapes :
    ¬ Guarded (tools 100000) ⟨fun _ _ => ⟨false, none, none, [], none, none, none, none, none, none, none⟩,
      fun _ => ⟨false, false, false, false, false, []⟩, fun _ _ => []⟩ patch []
      defaultDiffLimitPolicy := by
  intro h
  have hraises : StepRaises (tools 100000) patch packageLock :=
    packageLock_raises (by decide) (by decide)
  exact criticalityShadowForFile_ok_iff.mp (h.total packageLock List.mem_cons_self) hraises

end Rygnal.ChangeRisk.Criticality
