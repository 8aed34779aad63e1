import Rygnal.ChangeRisk.Report
import Rygnal.Core.Exceptions
import Rygnal.Library.PosixPath

/-! # Path risk

`normalize_repo_relative_path` and the path classifiers of `change_risk.py`: the pattern and
name tables, the reasons that a path alone gives, and the baseline reason of a path without
any.
-/

namespace Rygnal.ChangeRisk
open Rygnal.Core Rygnal.Library Rygnal.Library.PyText Rygnal.Library.PosixPath

def changedFilePathError (message : String) : PyException :=
  ⟨[.other "ChangedFilePathError", .other "ChangedFileDetectionError", .runtimeError, .exception,
    .baseException], message⟩

def normalizeRepoRelativePath (path : String) : Except PyException String :=
  let normalized := strip (replaceChar '\\' '/' path.toList)
  let cleanParts := parts normalized
  if normalized = [] then .error (changedFilePathError "Changed file path must not be empty.")
  else if isAbsolute normalized then
    .error (changedFilePathError ("Changed file path must be relative: " ++ path))
  else if ['.', '.'] ∈ cleanParts then
    .error (changedFilePathError ("Changed file path must not traverse: " ++ path))
  else if cleanParts = [] then
    .error (changedFilePathError "Changed file path must not be empty.")
  else .ok (String.ofList (joinWith '/' cleanParts))

/-! ## Tables -/

def docExtensions : List String := [".adoc", ".md", ".rst", ".txt"]

def docFileNames : List String :=
  ["changelog", "code_of_conduct", "contributing", "license", "readme", "security"]

def sourceExtensions : List String :=
  [".c", ".cc", ".cpp", ".cs", ".css", ".go", ".html", ".java", ".js", ".jsx", ".kt", ".mjs",
    ".php", ".py", ".rb", ".rs", ".scala", ".swift", ".ts", ".tsx"]

def scriptExtensions : List String := [".bash", ".bat", ".cmd", ".fish", ".ps1", ".sh", ".zsh"]

def binaryExtensions : List String :=
  [".bin", ".class", ".dll", ".dylib", ".exe", ".jar", ".o", ".pyc", ".so", ".wasm", ".war"]

def dependencyFileNames : List String :=
  ["build.gradle", "cargo.lock", "cargo.toml", "composer.json", "composer.lock", "gemfile",
    "gemfile.lock", "go.mod", "go.sum", "gradle.lockfile", "package-lock.json", "package.json",
    "pipfile", "pipfile.lock", "pnpm-lock.yaml", "poetry.lock", "pom.xml", "pubspec.lock",
    "pubspec.yaml", "pyproject.toml", "requirements.txt", "uv.lock", "yarn.lock"]

def dependencyNamePatterns : List String :=
  ["requirements-*.txt", "requirements_*.txt", "requirements*.in", "requirements*.txt"]

def ciPathPatterns : List String :=
  [".circleci/*", ".github/actions/*", ".github/workflows/*", ".gitlab-ci.yml",
    "azure-pipelines.yml", "bitbucket-pipelines.yml", "buildkite.yml", "jenkinsfile"]

def infraPathPatterns : List String :=
  [".dockerignore", ".gitignore", "docker-compose*.yaml", "docker-compose*.yml", "dockerfile",
    "helm/*", "k8s/*", "kubernetes/*", "makefile", "mkdocs.yml", "terraform/*", "tox.ini", "*.tf"]

def securitySensitivePathPatterns : List String :=
  [".aws/*", ".aws/credentials", ".azure/*", ".config/gcloud/*", ".docker/config.json", ".env",
    ".env.*", ".gnupg/*", ".netrc", ".npmrc", ".pypirc", ".ssh/*", ".ssh/config", ".ssh/id_*",
    "*/.aws/*", "*/.aws/credentials", "*/.azure/*", "*/.config/gcloud/*", "*/.docker/config.json",
    "*/.env", "*/.env.*", "*/.gnupg/*", "*/.netrc", "*/.npmrc", "*/.pypirc", "*/.ssh/*",
    "*/.ssh/config", "*/.ssh/id_*", "*/credentials", "*/credentials.*", "*/credentials*.json",
    "*/id_dsa", "*/id_ecdsa", "*/id_ed25519", "*/id_rsa", "*/private*.key", "*/private*.pem",
    "*/secret", "*/secret.*", "*/secrets", "*/secrets.*", "*/service-account*.json",
    "*/service_account*.json", "*.key", "*.p12", "*.pem", "*.pfx", "credentials", "credentials.*",
    "credentials*.json", "id_dsa", "id_ecdsa", "id_ed25519", "id_rsa", "secret", "secret.*",
    "secrets", "secrets.*"]

def authSecurityPathSegments : List String :=
  ["auth", "authentication", "iam", "jwt", "oauth", "permission", "permissions", "rbac",
    "security", "session", "sessions"]

def deployPathSegments : List String :=
  ["deploy", "deployment", "deployments", "helm", "k8s", "kubernetes", "terraform"]

def scriptPathSegments : List String := ["bin", "script", "scripts", "tool", "tools"]

/-! ## Classifiers -/

def matchesAny (path : Text) (patterns : List String) : Bool :=
  patterns.any fun pattern => fnmatchcase pattern.toList path

def matchesName (path : Text) (names : List String) : Bool := String.ofList (name path) ∈ names

def matchesNamePattern (path : Text) (patterns : List String) : Bool :=
  matchesAny (name path) patterns

def hasAnySegment (path : Text) (segments : List String) : Bool :=
  (splitOn '/' path).any fun segment => String.ofList segment ∈ segments

section Classifiers
variable [UnicodeTables]

def extension (path : Text) : String := String.ofList (lower (suffix path))

def isScriptLikePath (path : Text) : Bool :=
  extension path ∈ scriptExtensions || hasAnySegment path scriptPathSegments ||
    String.ofList (name path) ∈ ["makefile", "dockerfile"]

def isDocumentationPath (path : Text) : Bool :=
  startsWith path "docs/" || extension path ∈ docExtensions ||
    String.ofList (name path) ∈ ["license", "notice"] || String.ofList (stem path) ∈ docFileNames

def isTestPath (path : Text) : Bool :=
  startsWith path "tests/" || startsWith path "test/" || containsText "/tests/".toList path ||
    startsWith (name path) "test_" || endsWith (stem path) "_test"

/-- One check of `_path_risk_reasons`: its code, level, text, and when it applies. -/
structure PathCheck where
  code : String
  riskLevel : RiskLevel
  reason : String
  applies : Text → Bool

def isSecuritySensitive (lowerPath : Text) : Bool :=
  matchesAny lowerPath securitySensitivePathPatterns

/-- The checks of `_path_risk_reasons` in order, on the lower-case path. -/
def pathChecks : List PathCheck :=
  [⟨"security-sensitive-path", .critical,
      "File path indicates credential, key, secret, or environment material.",
      isSecuritySensitive⟩,
    ⟨"dependency-file-change", .high, "Dependency manifest or lockfile changed.",
      fun path => matchesName path dependencyFileNames ||
        matchesNamePattern path dependencyNamePatterns⟩,
    ⟨"ci-config-change", .high, "CI/CD workflow or pipeline configuration changed.",
      fun path => matchesAny path ciPathPatterns⟩,
    ⟨"infrastructure-or-deploy-change", .high,
      "Infrastructure, container, deployment, or release configuration changed.",
      fun path => matchesAny path infraPathPatterns || hasAnySegment path deployPathSegments⟩,
    ⟨"auth-security-path-change", .high,
      "Authentication, authorization, session, or security-sensitive code path changed.",
      fun path => hasAnySegment path authSecurityPathSegments⟩,
    ⟨"script-change", .high, "Executable script or automation path changed.", isScriptLikePath⟩]

def pathRiskReasons (path : String) : List ChangeRiskReason :=
  (pathChecks.filter fun check => check.applies (lower path.toList)).map fun check =>
    changeRiskReason check.code check.riskLevel check.reason [("path", .str path)]

def baselinePathReason (path : String) : ChangeRiskReason :=
  let lowerPath := lower path.toList
  let reason code level text := changeRiskReason code level text [("path", .str path)]
  if isDocumentationPath lowerPath then
    reason "documentation-change" .low "Documentation-only path changed."
  else if isTestPath lowerPath then
    reason "test-change" .low "Test path changed without privileged file indicators."
  else if extension lowerPath ∈ sourceExtensions then
    reason "source-code-change" .medium "Source code changed."
  else
    reason "project-file-change" .medium
      "Project file changed without a lower-risk classification."

end Classifiers

end Rygnal.ChangeRisk
