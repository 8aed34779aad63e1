import Rygnal.ChangeRisk.Paths

/-! # Ignore rules

`ignore_rules.py`: which untracked paths of a guarded workspace are left out as generated noise.
-/

namespace Rygnal.GuardedRun
open Rygnal.Core Rygnal.Core.PyException Rygnal.Library Rygnal.Library.PyText
  Rygnal.Library.PosixPath Rygnal.ChangeRisk

def defaultHeavyPathSegments : List String :=
  [".cache", ".coverage", ".git", ".hg", ".mypy_cache", ".next", ".nox", ".pytest_cache",
    ".ruff_cache", ".svn", ".tox", ".venv", "__pycache__", "build", "coverage", "dist",
    "node_modules", "site-packages", "target", "venv"]

def defaultVisibleBasenames : List String :=
  [".dockerignore", ".env", ".env.example", ".env.local", ".env.production", ".gitattributes",
    ".gitignore", ".gitlab-ci.yml", ".npmrc", ".pypirc", "Cargo.lock", "Cargo.toml", "Dockerfile",
    "Gemfile", "Gemfile.lock", "Pipfile", "Pipfile.lock", "bun.lock", "bun.lockb", "compose.yaml",
    "compose.yml", "docker-compose.yaml", "docker-compose.yml", "go.mod", "go.sum",
    "package-lock.json", "package.json", "pnpm-lock.yaml", "poetry.lock", "pyproject.toml",
    "requirements-dev.txt", "requirements.txt", "uv.lock", "yarn.lock"]

structure GuardedIgnoreRules where
  heavyPathSegments : List String
  visibleBasenames : List String
  visibleSuffixes : List String
  visiblePrefixes : List String
  visibleGlobs : List String

def defaultGuardedIgnoreRules : GuardedIgnoreRules where
  heavyPathSegments := defaultHeavyPathSegments
  visibleBasenames := defaultVisibleBasenames
  visibleSuffixes := [".env", ".env.local", ".env.production"]
  visiblePrefixes := [".github/workflows/", ".gitlab/"]
  visibleGlobs := ["requirements-*.txt", "*.lock", "*.pem", "*.key", "*.p12", "*.pfx"]

structure GuardedIgnoreDecision where
  path : String
  ignored : Bool
  protectedPath : Bool
deriving DecidableEq, Repr

def guardedPathError (message : String) : PyException := .value .valueError message

/-- `normalize_guarded_path`. -/
def normalizeGuardedPath (path : String) : Except PyException String :=
  let normalized := strip (replaceChar '\\' '/' path.toList)
  let cleanParts := parts normalized
  if normalized = [] then .error (guardedPathError "Guarded path must not be empty.")
  else if isAbsolute normalized then
    .error (guardedPathError ("Guarded path must be repository-relative: " ++ path))
  else if ['.', '.'] ∈ cleanParts then
    .error (guardedPathError ("Guarded path must not traverse: " ++ path))
  else if cleanParts = [] then
    .error (guardedPathError "Guarded path must not normalize to empty.")
  else .ok (String.ofList (joinWith '/' cleanParts))

/-- Both normalizations accept the same paths with the same result. -/
theorem normalizeGuardedPath_eq_ok {path normalized : String} :
    normalizeGuardedPath path = .ok normalized ↔
      normalizeRepoRelativePath path = .ok normalized := by
  simp only [normalizeGuardedPath, normalizeRepoRelativePath]
  split
  · simp
  split
  · simp
  split
  · simp
  split
  · simp
  · simp

/-- `PurePosixPath.match` with a relative pattern: its parts match the last parts. -/
def pathMatch (path pattern : Text) : Bool :=
  (parts pattern).length ≤ (parts path).length &&
    (List.zipWith fnmatchcase (parts pattern).reverse (parts path).reverse).all id

namespace GuardedIgnoreRules
variable [UnicodeTables]

def isHeavyOrGeneratedPath (rules : GuardedIgnoreRules) (path : String) :
    Except PyException Bool := do
  let normalized ← normalizeGuardedPath path
  return (parts normalized.toList).any fun part =>
    rules.heavyPathSegments.any fun segment => lower part = lower segment.toList

def isProtectedVisiblePath (rules : GuardedIgnoreRules) (path : String) :
    Except PyException Bool := do
  let normalized ← normalizeGuardedPath path
  let lowerPath := lower normalized.toList
  return rules.visibleBasenames.any (fun basename =>
      lower (name normalized.toList) = lower basename.toList) ||
    rules.visibleSuffixes.any (fun suffix => (lower suffix.toList).isSuffixOf lowerPath) ||
    rules.visiblePrefixes.any (fun start => (lower start.toList).isPrefixOf lowerPath) ||
    rules.visibleGlobs.any fun pattern =>
      pathMatch normalized.toList pattern.toList || pathMatch lowerPath (lower pattern.toList)

def decideUntrackedPath (rules : GuardedIgnoreRules) (path : String) :
    Except PyException GuardedIgnoreDecision := do
  let normalized ← normalizeGuardedPath path
  let visible ← rules.isProtectedVisiblePath normalized
  if visible then return ⟨normalized, false, true⟩
  let heavy ← rules.isHeavyOrGeneratedPath normalized
  return ⟨normalized, heavy, false⟩

/-- A decision is about the normalized path. -/
theorem decideUntrackedPath_path {rules : GuardedIgnoreRules} {path : String}
    {decision : GuardedIgnoreDecision} (h : rules.decideUntrackedPath path = .ok decision) :
    normalizeGuardedPath path = .ok decision.path := by
  obtain ⟨normalized, hnormalized, h⟩ := bind_eq_ok.mp h
  obtain ⟨visible, _, h⟩ := bind_eq_ok.mp h
  rw [hnormalized]
  cases visible with
  | true =>
    obtain rfl := Except.ok.inj h
    rfl
  | false =>
    obtain ⟨heavy, _, h⟩ := bind_eq_ok.mp h
    obtain rfl := Except.ok.inj h
    rfl

end GuardedIgnoreRules

end Rygnal.GuardedRun
