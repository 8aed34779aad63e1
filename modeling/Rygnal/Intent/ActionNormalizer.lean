import Rygnal.ChangeRisk.Report
import Rygnal.Intent.IntentContract
import Rygnal.Library.PosixPath

/-! # Normalized actions

`action_normalizer.py`: the operation, the paths and the one resource kind of a command and of each
changed file. Identifiers and evidence for the audit log are left out.
-/

namespace Rygnal.Intent
open Rygnal.Core Rygnal.Library Rygnal.Library.PyText Rygnal.Library.PosixPath Rygnal.ChangeRisk

/-! ## Resource kinds -/

def dependencyManifests : List String :=
  ["Cargo.toml", "Gemfile", "go.mod", "package.json", "pnpm-workspace.yaml", "poetry.lock",
    "pyproject.toml", "requirements.txt", "setup.cfg", "setup.py", "uv.toml"]

def lockfileNames : List String :=
  ["Cargo.lock", "Gemfile.lock", "go.sum", "package-lock.json", "pnpm-lock.yaml", "poetry.lock",
    "uv.lock", "yarn.lock"]

def secretTokens : List String :=
  [".env", "credential", "credentials", "id_rsa", "private_key", "secret", "secrets", "token"]

def configSuffixes : List String := [".yaml", ".yml", ".toml", ".json", ".ini", ".cfg", ".conf"]

def documentationSuffixes : List String := [".md", ".rst", ".txt"]

def endsWithAny (text : Text) (endings : List String) : Bool := endings.any (endsWith text)

def isSecretPath (loweredPath : Text) : Bool :=
  secretTokens.any fun token => containsText token.toList loweredPath

def isPolicyPath (loweredPath : Text) : Bool :=
  startsWith loweredPath ".rygnal/" || containsText "/policy".toList loweredPath ||
    startsWith loweredPath "policies/" || endsWith loweredPath "policy.yaml" ||
    endsWith loweredPath "policy.yml"

/-- `_is_test_path`. -/
def isTestResource (loweredPath : Text) : Bool :=
  startsWith loweredPath "tests/" || startsWith loweredPath "test/" ||
    startsWith (name loweredPath) "test_" || endsWith (name loweredPath) "_test.py" ||
    endsWith (name loweredPath) "_test.rs"

section Normalizer
variable [UnicodeTables]

/-- The table that `_resource_kind_for_path` and `classify_resource_path` share. -/
def kindOfNormalized (normalized : Text) : ResourceKind :=
  let lowered := lower normalized
  let fileName := name normalized
  if isSecretPath lowered then .sensitive
  else if startsWith normalized ".github/workflows/" then .ciWorkflow
  else if String.ofList fileName ∈ lockfileNames then .lockfile
  else if String.ofList fileName ∈ dependencyManifests then .dependencyManifest
  else if isPolicyPath lowered then .policy
  else if isTestResource lowered then .test
  else if endsWith lowered ".py" then .pythonModule
  else if endsWith lowered ".rs" then .rustModule
  else if endsWithAny lowered configSuffixes then .config
  else if endsWithAny lowered documentationSuffixes then .documentation
  else if '.' ∉ fileName then .directory
  else .file

def resourceKindForPath (path : String) : ResourceKind :=
  kindOfNormalized (strip (replaceChar '\\' '/' path.toList))

/-- The kinds that `_dominant_resource_kind` prefers, in its order. -/
def preferredKinds : List ResourceKind :=
  [.sensitive, .policy, .ciWorkflow, .dependencyManifest, .lockfile, .config, .pythonModule,
    .rustModule, .test]

def dominantResourceKind (paths : List String) : ResourceKind :=
  let kinds := paths.map resourceKindForPath
  match preferredKinds.find? (· ∈ kinds) with
  | some preferred => preferred
  | none => kinds.headD .unknown

/-! ## Commands -/

/-- `_command_name`. -/
def commandName : List String → String
  | [] => "unknown"
  | executable :: _ =>
    let fileName := lower (name executable.toList)
    if fileName = [] then "unknown" else String.ofList fileName

def operationFromCommand (command : List String) : IntentOperation :=
  let executable := commandName command
  let args := command.tail.map fun arg => String.ofList (lower arg.toList)
  let anyArg (words : List String) := args.any (· ∈ words)
  if executable ∈ ["rm", "rmdir", "unlink"] then
    if anyArg ["-r", "-rf", "-fr", "--recursive"] then .deleteFolder else .deleteFile
  else if executable = "git" ∧ args.head? = some "rm" then .deleteFile
  else if executable = "git" ∧ args.head? = some "mv" then .move
  else if executable ∈ ["mv", "rename"] then .move
  else if executable ∈ ["cp", "mkdir", "touch"] then .create
  else if executable ∈ ["pytest", "tox", "ruff"] then .test
  else if executable ∈ ["python", "python3"] ∧
      (args.any fun arg => containsText "pytest".toList arg.toList) = true then .test
  else if executable ∈ ["cargo", "make", "mvn", "gradle"] ∧ "test" ∈ args then .test
  else if executable ∈ ["cargo", "make", "mvn", "gradle"] ∧ "build" ∈ args then .build
  else if executable ∈ ["npm", "pnpm", "yarn"] ∧ "test" ∈ args then .test
  else if executable ∈ ["npm", "pnpm", "yarn"] ∧ "build" ∈ args then .build
  else if executable ∈ ["npm", "pnpm", "yarn"] ∧
      anyArg ["install", "add", "remove", "update"] = true then .dependencyChange
  else if executable ∈ ["pip", "pip3", "poetry", "uv"] ∧
      anyArg ["install", "add", "remove", "update", "sync"] = true then .dependencyChange
  else .command

def looksLikeRepoPath (value : String) : Bool :=
  let text := value.toList
  let fileName := name text
  if text = [] ∨ startsWith text "-" then false
  else if containsText "://".toList text ∨ '\n' ∈ text ∨ '\r' ∈ text then false
  else if text.any (· ∈ [' ', '\t', ';', '\'', '"', '(', ')', '\x7b', '\x7d']) then false
  else if '=' ∈ text then false
  else if value = "." ∨ value = ".." then false
  else if isAbsolute text then false
  else '/' ∈ text || (startsWith fileName "." && 1 < fileName.length) || '.' ∈ fileName ||
    String.ofList fileName ∈ dependencyManifests || String.ofList fileName ∈ lockfileNames

def normalizeCandidatePath (value : String) : Option String :=
  let cleanParts := parts value.toList
  if ['.', '.'] ∈ cleanParts then none
  else if cleanParts = [] then none
  else some (String.ofList (joinWith '/' cleanParts))

/-- `_INLINE_CODE_OPTIONS`. -/
def inlineCodeOptions : List String := ["-c", "--command", "-e", "--eval"]

/-- The loop of `_extract_repo_paths` over the arguments. -/
def argumentPaths (skipInlinePayload : Bool) : List String → List String
  | [] => []
  | arg :: args =>
    if skipInlinePayload then argumentPaths false args
    else if arg ∈ inlineCodeOptions then argumentPaths true args
    else if looksLikeRepoPath arg then
      (normalizeCandidatePath arg).toList ++ argumentPaths false args
    else argumentPaths false args

/-- `tuple(dict.fromkeys(items))`. -/
def uniqueItems {α : Type} [DecidableEq α] (items : List α) : List α := items.reverse.dedup.reverse

def extractRepoPaths (command : List String) : List String :=
  uniqueItems (argumentPaths false command.tail)

def normalizeCommandAction (command : List String) : Except PyException NormalizedAction :=
  let affectedPaths := extractRepoPaths command
  normalizedAction .command (operationFromCommand command) affectedPaths none none
    (dominantResourceKind affectedPaths)

/-! ## Changed files -/

structure ChangedFile where
  path : String
  kind : ChangedFileKind
  oldPath : Option String
deriving DecidableEq, Repr

def operationFromChangedFile (changedFile : ChangedFile) : IntentOperation :=
  match changedFile.kind with
  | .added | .untracked => .create
  | .modified | .modeChanged => .modify
  | .deleted => .deleteFile
  | .renamed => .rename

def affectedPathsForChangedFile (changedFile : ChangedFile) : List String :=
  if changedFile.kind = .renamed then changedFile.oldPath.toList ++ [changedFile.path]
  else [changedFile.path]

def normalizeChangedFileAction (changedFile : ChangedFile) : Except PyException NormalizedAction :=
  let affectedPaths := affectedPathsForChangedFile changedFile
  let renamed := changedFile.kind = .renamed
  normalizedAction .filesystem (operationFromChangedFile changedFile) affectedPaths
    (if renamed then changedFile.oldPath else none) (if renamed then some changedFile.path else none)
    (dominantResourceKind affectedPaths)

/-- `normalize_guarded_actions`; the files are those of the changed file report, if there is one. -/
def normalizeGuardedActions (command : List String) (files : Option (List ChangedFile)) :
    Except PyException (List NormalizedAction) := do
  let commandAction ← normalizeCommandAction command
  let fileActions ← (files.getD []).mapM normalizeChangedFileAction
  return commandAction :: fileActions

end Normalizer

end Rygnal.Intent
