import Rygnal.Core.Exceptions
import Rygnal.Library.Fields
import Rygnal.Library.PosixPath

/-! # Paths in the Rust kernel

`path_safety.rs`: the normalization of repository-relative paths, the outcomes of its checks, and
the sensitivity of a path. Normalizing drops segments after it has trimmed the text and looked
for a drive, so a second pass can meet white space or a drive that the first one did not.
-/

namespace Rygnal.Kernel
open Rygnal.Core Rygnal.Library.PyText Rygnal.Library.PosixPath

/-! ## Outcomes -/

inductive PathSafetyError where
  | empty
  | absolute (path : Text)
  | parentTraversal (path : Text)
  | windowsRooted (path : Text)
  | nullByte
deriving DecidableEq, Repr

namespace PathSafetyError

def code : PathSafetyError → String
  | .empty => "empty-path"
  | .absolute _ => "absolute-path"
  | .parentTraversal _ => "parent-traversal"
  | .windowsRooted _ => "windows-rooted-path"
  | .nullByte => "null-byte"

/-- `fmt::Display`. -/
def display : PathSafetyError → Text
  | .empty => "path must not be empty".toList
  | .absolute path => "path must be repository-relative: ".toList ++ path
  | .parentTraversal path => "path must not traverse outside the repository: ".toList ++ path
  | .windowsRooted path => "windows-rooted path is not allowed: ".toList ++ path
  | .nullByte => "path must not contain NUL bytes".toList

end PathSafetyError

structure PathValidationOutcome where
  safe : Bool
  normalizedPath : Option Text
  errorCode : Option String
  reason : Option Text
  isSentinel : Bool
deriving DecidableEq, Repr

def unsafeOutcome (err : PathSafetyError) : PathValidationOutcome :=
  ⟨false, none, some err.code, some err.display, false⟩

/-! ## Normalization -/

/-- `char::is_whitespace`. -/
def isWhitespace (c : Char) : Bool :=
  (0x09 ≤ c.toNat && c.toNat ≤ 0x0D) || c.toNat == 0x20 || c.toNat == 0x85 ||
    c.toNat == 0xA0 || c.toNat == 0x1680 || (0x2000 ≤ c.toNat && c.toNat ≤ 0x200A) ||
    c.toNat == 0x2028 || c.toNat == 0x2029 || c.toNat == 0x202F || c.toNat == 0x205F ||
    c.toNat == 0x3000

/-- `str::trim`. -/
def trim (s : Text) : Text := (s.dropWhile isWhitespace).rdropWhile isWhitespace

/-- The text that is split into segments. -/
def trimmedPath (path : Text) : Text := trim (replaceChar '\\' '/' path)

def hasWindowsDrivePrefix : Text → Bool
  | c :: ':' :: _ => c.isAlpha
  | _ => false

/-- The loop over the segments. -/
def cleanParts (path : Text) : List Text → Except PathSafetyError (List Text)
  | [] => .ok []
  | part :: rest =>
    if part = [] ∨ part = ['.'] then cleanParts path rest
    else if part = ['.', '.'] then .error (.parentTraversal path)
    else (cleanParts path rest).map (part :: ·)

def normalizeRepoRelativePath (path : Text) : Except PathSafetyError Text :=
  if '\x00' ∈ path then .error .nullByte
  else
    let normalized := trimmedPath path
    if normalized = [] then .error .empty
    else if isAbsolute normalized then .error (.absolute path)
    else if hasWindowsDrivePrefix normalized then .error (.windowsRooted path)
    else do
      let parts ← cleanParts path (splitOn '/' normalized)
      if parts = [] then .error .empty else .ok (joinWith '/' parts)

def checkRepoRelativePath (path : Text) : PathValidationOutcome :=
  match normalizeRepoRelativePath path with
  | .ok normalizedPath => ⟨true, some normalizedPath, none, none, false⟩
  | .error err => unsafeOutcome err

/-- `validate_patch_path`: the path without its Git prefix, or nothing for `/dev/null`. -/
def validatePatchPath (path : Text) : Except PathSafetyError (Option Text) :=
  match trim path with
  | 'a' :: '/' :: rest => (normalizeRepoRelativePath rest).map some
  | 'b' :: '/' :: rest => (normalizeRepoRelativePath rest).map some
  | trimmed =>
    if trimmed = "/dev/null".toList then .ok none
    else (normalizeRepoRelativePath trimmed).map some

def checkPatchPath (path : Text) : PathValidationOutcome :=
  match validatePatchPath path with
  | .ok normalizedPath => ⟨true, normalizedPath, none, none, trim path = "/dev/null".toList⟩
  | .error err => unsafeOutcome err

/-! ## Sensitivity -/

structure PathSensitivity where
  category : String
  severity : String
  reason : String
deriving DecidableEq, Repr

def isOneOf (names : List String) (segment : Text) : Bool := names.any (·.toList = segment)

def isSecretPath (segments : List Text) (fileName : Text) : Bool :=
  isOneOf [".env"] fileName || startsWith fileName ".env." ||
    [".pem", ".key", ".p12", ".pfx"].any (endsWith fileName) ||
    segments.any (isOneOf ["secrets", ".secrets", "credentials", ".credentials"])

def isCiPath (segments : List Text) : Bool :=
  segments.take 2 = [".github".toList, "workflows".toList] || segments.take 1 = [".gitlab".toList] ||
    segments.any (isOneOf [".circleci"])

def isPolicyPath (segments : List Text) : Bool := segments.any (isOneOf ["policies"])

def isDependencyPath (fileName : Text) : Bool :=
  isOneOf ["go.mod", "go.sum", "cargo.toml", "cargo.lock", "package.json", "package-lock.json",
    "pnpm-lock.yaml", "yarn.lock", "pyproject.toml", "requirements.txt", "requirements-dev.txt",
    "poetry.lock", "pipfile", "pipfile.lock"] fileName

def isConfigPath (segments : List Text) (fileName : Text) : Bool :=
  containsText "config".toList fileName || containsText "settings".toList fileName ||
    isOneOf [".gitignore", ".dockerignore", "dockerfile", "docker-compose.yml",
      "docker-compose.yaml"] fileName ||
    segments.any (isOneOf ["config", "configs", ".config"])

def isGeneratedPath (segments : List Text) : Bool :=
  segments.any (isOneOf ["node_modules", "__pycache__", ".pytest_cache", "target", "dist",
    "build", ".mypy_cache", ".ruff_cache", ".venv", "vendor"])

def isTestPath (segments : List Text) (fileName : Text) : Bool :=
  segments.any (isOneOf ["test", "tests", "__tests__"]) || startsWith fileName "test_" ||
    ["_test.py", "_test.go", ".test.ts", ".test.tsx"].any (endsWith fileName)

def isDocumentationPath (segments : List Text) (fileName : Text) : Bool :=
  segments.any (isOneOf ["docs", "doc", "documentation"]) ||
    isOneOf ["readme.md", "license", "license.md"] fileName ||
    [".md", ".rst"].any (endsWith fileName)

/-- The category of a normalized path in lower case. The tables of the kernel and of its Python
fallback are the same. -/
def sensitivityOf (lowered : Text) : PathSensitivity :=
  let segments := splitOn '/' lowered
  let fileName := segments.getLastD []
  if isSecretPath segments fileName then
    ⟨"secret", "critical", "path appears to contain secrets or credentials"⟩
  else if isCiPath segments then
    ⟨"ci", "high", "path modifies CI/CD automation or workflow configuration"⟩
  else if isPolicyPath segments then
    ⟨"policy", "high", "path modifies Rygnal policy configuration"⟩
  else if isDependencyPath fileName then
    ⟨"dependency", "high", "path modifies dependency or package manager metadata"⟩
  else if isConfigPath segments fileName then
    ⟨"config", "medium", "path modifies configuration or settings"⟩
  else if isGeneratedPath segments then
    ⟨"generated", "low", "path is generated, cached, vendored, or build output"⟩
  else if isTestPath segments fileName then
    ⟨"test", "low", "path appears to be test code or test data"⟩
  else if isDocumentationPath segments fileName then
    ⟨"documentation", "low", "path appears to be documentation"⟩
  else ⟨"normal", "medium", "path has no special sensitivity classification"⟩

/-- `classify_path_sensitivity`. -/
def classifyPathSensitivity (path : Text) : Except PathSafetyError PathSensitivity :=
  (normalizeRepoRelativePath path).map fun normalized => sensitivityOf (normalized.map Char.toLower)

/-! ## What normalization accepts -/

theorem cleanParts_eq_ok {path : Text} {segments named : List Text} :
    cleanParts path segments = .ok named ↔ ['.', '.'] ∉ segments ∧
      named = segments.filter fun part => part ≠ [] ∧ part ≠ ['.'] := by
  induction segments generalizing named with
  | nil =>
    simp only [cleanParts, Except.ok.injEq, List.not_mem_nil, not_false_eq_true, true_and,
      List.filter_nil]
    exact eq_comm
  | cons part rest ih =>
    rw [cleanParts]
    by_cases hdrop : part = [] ∨ part = ['.']
    · have hdots : ['.', '.'] ≠ part := by
        rintro rfl
        simp at hdrop
      have hskip : (part :: rest).filter (fun part => part ≠ [] ∧ part ≠ ['.']) =
          rest.filter fun part => part ≠ [] ∧ part ≠ ['.'] := by
        apply List.filter_cons_of_neg
        simpa [not_and, imp_iff_not_or] using hdrop
      rw [if_pos hdrop, ih, hskip, List.mem_cons, not_or]
      exact ⟨fun h => ⟨⟨hdots, h.1⟩, h.2⟩, fun h => ⟨h.1.2, h.2⟩⟩
    · rw [not_or] at hdrop
      rw [if_neg (by simp [hdrop])]
      by_cases hparent : part = ['.', '.']
      · rw [if_pos hparent]
        simp [hparent]
      · rw [if_neg hparent, List.filter_cons_of_pos (by simp [hdrop]), List.mem_cons, not_or]
        cases hrest : cleanParts path rest with
        | error err =>
          have hnone : ∀ others, cleanParts path rest ≠ .ok others := by simp [hrest]
          simp only [Except.map, reduceCtorEq, false_iff, not_and, and_imp]
          intro _ hdots _
          exact hnone _ (ih.mpr ⟨hdots, rfl⟩)
        | ok others =>
          obtain ⟨hdots, rfl⟩ := ih.mp hrest
          simp only [Except.map, Except.ok.injEq]
          exact ⟨fun h => ⟨⟨Ne.symm hparent, hdots⟩, h.symm⟩, fun h => h.2.symm⟩

/-- The segments of a path that normalization keeps. -/
def namedSegments (path : Text) : List Text := parts (trimmedPath path)

theorem normalizeRepoRelativePath_eq_ok {path normalized : Text} :
    normalizeRepoRelativePath path = .ok normalized ↔
      '\x00' ∉ path ∧ isAbsolute (trimmedPath path) = false ∧
        hasWindowsDrivePrefix (trimmedPath path) = false ∧
        ['.', '.'] ∉ splitOn '/' (trimmedPath path) ∧ namedSegments path ≠ [] ∧
        normalized = joinWith '/' (namedSegments path) := by
  rw [normalizeRepoRelativePath]
  by_cases hnul : '\x00' ∈ path
  · simp [hnul]
  rw [if_neg hnul]
  simp only [hnul, not_false_eq_true, true_and]
  by_cases hempty : trimmedPath path = []
  · simp [hempty, namedSegments, parts, splitOn]
  rw [if_neg hempty]
  cases isAbsolute (trimmedPath path) with
  | true => simp
  | false =>
    cases hasWindowsDrivePrefix (trimmedPath path) with
    | true => simp
    | false =>
      simp only [Bool.false_eq_true, if_false, true_and, bind_eq_ok, cleanParts_eq_ok]
      constructor
      · rintro ⟨named, ⟨hdots, hnamed⟩, h⟩
        have hsame : named = namedSegments path := hnamed
        subst hsame
        split_ifs at h with hnil
        exact ⟨hdots, hnil, (Except.ok.inj h).symm⟩
      · rintro ⟨hdots, hnil, rfl⟩
        exact ⟨namedSegments path, ⟨hdots, rfl⟩, if_neg hnil⟩

end Rygnal.Kernel
