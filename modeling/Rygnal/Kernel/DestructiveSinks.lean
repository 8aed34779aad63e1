import Mathlib.Algebra.Order.Ring.Rat
import Rygnal.Kernel.TextSurvival

/-! # Destructive sinks

The calls of new code that delete or overwrite files, by the language of its path.
-/

namespace Rygnal.Kernel.Scoring
open Rygnal.Library.PyText

inductive DestructiveLanguage where
  | python
  | javaScript
  | typeScript
  | go
  | rust
  | java
  | shell
deriving DecidableEq, Repr

inductive DestructiveSeverity where
  | medium
  | high
  | critical
deriving DecidableEq, Repr

inductive DestructiveOperation where
  | deleteFile
  | deleteDirectory
  | recursiveDelete
  | truncate
  | overwrite
  | shellDelete
deriving DecidableEq, Repr

structure DestructiveSinkMatch where
  ruleId : String
  language : DestructiveLanguage
  severity : DestructiveSeverity
  operation : DestructiveOperation
deriving DecidableEq, Repr

inductive RulePattern where
  | contains (token : String)
  | all (tokens : List String)
deriving DecidableEq, Repr

structure DestructiveSinkRule where
  id : String
  language : DestructiveLanguage
  severity : DestructiveSeverity
  operation : DestructiveOperation
  patterns : List RulePattern

def pythonRules : List DestructiveSinkRule :=
  [⟨"python-shutil-rmtree", .python, .critical, .recursiveDelete, [.contains "shutil.rmtree("]⟩,
    ⟨"python-os-remove", .python, .high, .deleteFile,
      [.contains "os.remove(", .contains "os.unlink(", .contains ".unlink("]⟩,
    ⟨"python-shell-rm-rf", .python, .critical, .shellDelete,
      [.all ["subprocess.run(", "rm -rf"], .all ["subprocess.call(", "rm -rf"],
        .all ["os.system(", "rm -rf"]]⟩]

def javaScriptRules : List DestructiveSinkRule :=
  [⟨"javascript-fs-rm-recursive", .javaScript, .critical, .recursiveDelete,
      [.all ["fs.rmSync(", "recursive: true"], .all ["fs.rm(", "recursive: true"]]⟩,
    ⟨"javascript-fs-unlink", .javaScript, .high, .deleteFile,
      [.contains "fs.unlinkSync(", .contains "fs.unlink("]⟩,
    ⟨"javascript-shell-rm-rf", .javaScript, .critical, .shellDelete,
      [.all ["exec(", "rm -rf"], .all ["execSync(", "rm -rf"], .all ["spawn(", "rm"]]⟩]

def typeScriptRules : List DestructiveSinkRule :=
  [⟨"typescript-fs-rm-recursive", .typeScript, .critical, .recursiveDelete,
      [.all ["fs.rmSync(", "recursive: true"], .all ["fs.rm(", "recursive: true"]]⟩,
    ⟨"typescript-fs-unlink", .typeScript, .high, .deleteFile,
      [.contains "fs.unlinkSync(", .contains "fs.unlink("]⟩]

def goRules : List DestructiveSinkRule :=
  [⟨"go-os-remove-all", .go, .critical, .recursiveDelete, [.contains "os.RemoveAll("]⟩,
    ⟨"go-os-remove", .go, .high, .deleteFile, [.contains "os.Remove("]⟩,
    ⟨"go-os-truncate", .go, .high, .truncate, [.contains "os.Truncate("]⟩]

def rustRules : List DestructiveSinkRule :=
  [⟨"rust-remove-dir-all", .rust, .critical, .recursiveDelete,
      [.contains "std::fs::remove_dir_all(", .contains "fs::remove_dir_all("]⟩,
    ⟨"rust-remove-file", .rust, .high, .deleteFile,
      [.contains "std::fs::remove_file(", .contains "fs::remove_file("]⟩,
    ⟨"rust-open-options-truncate", .rust, .high, .truncate,
      [.all ["OpenOptions::new()", ".truncate(true)"]]⟩,
    ⟨"rust-fs-write-overwrite", .rust, .medium, .overwrite,
      [.contains "std::fs::write(", .contains "fs::write("]⟩]

def javaRules : List DestructiveSinkRule :=
  [⟨"java-files-delete", .java, .high, .deleteFile,
      [.contains "Files.delete(", .contains "Files.deleteIfExists("]⟩,
    ⟨"java-file-delete", .java, .high, .deleteFile, [.contains ".delete()"]⟩]

def shellRules : List DestructiveSinkRule :=
  [⟨"shell-rm-rf", .shell, .critical, .shellDelete,
      [.contains "rm -rf", .contains "rm -fr", .contains "rm -r ", .contains "rm -R "]⟩,
    ⟨"shell-rmdir", .shell, .high, .deleteDirectory, [.contains "rmdir "]⟩]

def rulesForLanguage : DestructiveLanguage → List DestructiveSinkRule
  | .python => pythonRules
  | .javaScript => javaScriptRules
  | .typeScript => typeScriptRules
  | .go => goRules
  | .rust => rustRules
  | .java => javaRules
  | .shell => shellRules

def patternMatches (code : Text) : RulePattern → Bool
  | .contains token => containsText token.toList code
  | .all tokens => tokens.all fun token => containsText token.toList code

def matchingRules (language : DestructiveLanguage) (code : Text) : List DestructiveSinkMatch :=
  ((rulesForLanguage language).filter fun rule => rule.patterns.any (patternMatches code)).map
    fun rule => ⟨rule.id, rule.language, rule.severity, rule.operation⟩

def languageForPath (path : Text) : Option DestructiveLanguage :=
  let lowered := path.map Char.toLower
  if [".py", ".pyi"].any (endsWith lowered) then some .python
  else if [".ts", ".tsx"].any (endsWith lowered) then some .typeScript
  else if [".js", ".jsx", ".mjs", ".cjs"].any (endsWith lowered) then some .javaScript
  else if endsWith lowered ".go" then some .go
  else if endsWith lowered ".rs" then some .rust
  else if endsWith lowered ".java" then some .java
  else if [".sh", ".bash", ".zsh", ".ksh"].any (endsWith lowered) then some .shell
  else none

def containsShellTruncation (code : Text) : Bool :=
  (lines code).any fun line =>
    let trimmed := trim line
    if trimmed = [] || startsWith trimmed "#" then false
    else startsWith trimmed ">" ||
      (containsText " > ".toList trimmed && !containsText " >> ".toList trimmed)

def detectDestructiveSinks (path code : Text) : List DestructiveSinkMatch :=
  match languageForPath path with
  | none => []
  | some language =>
    matchingRules language code ++
      if language = .shell ∧ containsShellTruncation code = true then
        [⟨"shell-truncation-redirection", language, .high, .truncate⟩]
      else []

def DestructiveSeverity.scoreModifier : DestructiveSeverity → ℚ
  | .medium => 1
  | .high => 2
  | .critical => 3

def destructiveSinkScoreModifier (sinks : List DestructiveSinkMatch) : ℚ :=
  (sinks.map fun sink => sink.severity.scoreModifier).foldl max 0

theorem foldl_max_le {scores : List ℚ} {start bound : ℚ} :
    scores.foldl max start ≤ bound ↔ start ≤ bound ∧ ∀ score ∈ scores, score ≤ bound := by
  induction scores generalizing start with
  | nil => simp
  | cons score scores ih =>
    rw [List.foldl_cons, ih, max_le_iff, List.forall_mem_cons, and_assoc]

theorem destructiveSinkScoreModifier_le {sinks : List DestructiveSinkMatch} {bound : ℚ} :
    destructiveSinkScoreModifier sinks ≤ bound ↔
      0 ≤ bound ∧ ∀ sink ∈ sinks, sink.severity.scoreModifier ≤ bound := by
  rw [destructiveSinkScoreModifier, foldl_max_le, List.forall_mem_map]

theorem destructiveSinkScoreModifier_nonneg (sinks : List DestructiveSinkMatch) :
    0 ≤ destructiveSinkScoreModifier sinks :=
  (destructiveSinkScoreModifier_le.mp (le_refl _)).1

theorem scoreModifier_le {sinks : List DestructiveSinkMatch} {sink : DestructiveSinkMatch}
    (h : sink ∈ sinks) : sink.severity.scoreModifier ≤ destructiveSinkScoreModifier sinks :=
  (destructiveSinkScoreModifier_le.mp (le_refl _)).2 sink h

theorem destructiveSinkScoreModifier_mono {sinks sinks' : List DestructiveSinkMatch}
    (h : sinks ⊆ sinks') : destructiveSinkScoreModifier sinks ≤ destructiveSinkScoreModifier sinks' :=
  destructiveSinkScoreModifier_le.mpr ⟨destructiveSinkScoreModifier_nonneg sinks',
    fun _ hsink => scoreModifier_le (h hsink)⟩

end Rygnal.Kernel.Scoring
