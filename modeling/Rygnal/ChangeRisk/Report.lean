import Mathlib.Algebra.Ring.Int.Defs
import Mathlib.Algebra.Ring.Nat
import Mathlib.Order.MinMax
import Rygnal.Core.Value
import Rygnal.Library.Utf8

/-! # Changed files, patches and risk reports

The records that the change-risk classifier reads and writes, and the order of its risk
levels. The level of a file or of a report is the highest of the levels it collects.
-/

namespace Rygnal.ChangeRisk
open Rygnal.Core Rygnal.Library Rygnal.Library.PyText Rygnal.Library.Utf8

inductive RiskLevel where
  | low
  | medium
  | high
  | critical
deriving DecidableEq, Repr

namespace RiskLevel

def value : RiskLevel → String
  | .low => "low"
  | .medium => "medium"
  | .high => "high"
  | .critical => "critical"

/-- `RISK_LEVEL_ORDER`. -/
def order : RiskLevel → ℕ
  | .low => 0
  | .medium => 1
  | .high => 2
  | .critical => 3

theorem order_injective : Function.Injective order := by
  intro a b h
  cases a <;> cases b <;> first | rfl | cases h

instance : LinearOrder RiskLevel := LinearOrder.lift' order order_injective

theorem low_le (level : RiskLevel) : low ≤ level := Nat.zero_le _

theorem critical_le {level : RiskLevel} : critical ≤ level ↔ level = critical := by
  cases level <;> decide

end RiskLevel

/-- `_highest_risk`. -/
def highestRisk (levels : List RiskLevel) (default : RiskLevel) : RiskLevel :=
  levels.foldl (fun highest level => if highest < level then level else highest) default

/-- The highest level reaches a level exactly when some level of the list, or the default,
does. -/
theorem le_highestRisk {level default : RiskLevel} {levels : List RiskLevel} :
    level ≤ highestRisk levels default ↔ level ≤ default ∨ ∃ l ∈ levels, level ≤ l := by
  unfold highestRisk
  induction levels generalizing default with
  | nil => simp
  | cons l levels ih =>
    have hmax : (if default < l then l else default) = max default l := (max_def_lt _ _).symm
    rw [List.foldl_cons, ih, hmax, le_max_iff, List.exists_mem_cons_iff, or_assoc]

/-! ## Patches -/

inductive ChangedFileKind where
  | added
  | modified
  | deleted
  | renamed
  | modeChanged
  | untracked
deriving DecidableEq, Repr

def ChangedFileKind.value : ChangedFileKind → String
  | .added => "added"
  | .modified => "modified"
  | .deleted => "deleted"
  | .renamed => "renamed"
  | .modeChanged => "mode_changed"
  | .untracked => "untracked"

structure PatchFileDiff where
  path : String
  kind : ChangedFileKind
  additions : Option ℤ
  deletions : Option ℤ
  binary : Bool
  oldPath : Option String
  oldMode : Option String
  newMode : Option String
  modeChanged : Bool
deriving DecidableEq, Repr

/-- The patch text is decoded with `surrogateescape`. -/
structure PatchDiff where
  workspacePath : String
  baselineCommitSha : String
  patch : DecodedText
  patchSha256 : String
  patchSizeBytes : ℤ
  files : List PatchFileDiff
  ignoredFiles : List String
deriving DecidableEq, Repr

namespace PatchDiff

def changedFileCount (patchDiff : PatchDiff) : ℤ := patchDiff.files.length

def totalAdditions (patchDiff : PatchDiff) : ℤ :=
  (patchDiff.files.map fun file => file.additions.getD 0).sum

def totalDeletions (patchDiff : PatchDiff) : ℤ :=
  (patchDiff.files.map fun file => file.deletions.getD 0).sum

def binaryFileCount (patchDiff : PatchDiff) : ℤ := patchDiff.files.countP (·.binary)

end PatchDiff

/-! ## Reports -/

structure ChangeRiskReason where
  code : String
  riskLevel : RiskLevel
  reason : String
  evidence : Dict
deriving DecidableEq, Repr

/-- `_reason`: the evidence is sorted by its keys. -/
def changeRiskReason (code : String) (riskLevel : RiskLevel) (reason : String) (evidence : Dict) :
    ChangeRiskReason :=
  ⟨code, riskLevel, reason, evidence.insertionSort fun e f => e.1 ≤ f.1⟩

structure RustCriticalityShadow where
  available : Bool
  criticalityIndex : Option ℚ
  riskLevel : Option String
  reasons : List String
  semanticMetrics : Option Dict
  pathCategory : Option String
  pathSeverity : Option String
  errorCode : Option String
  errorReason : Option String
  criticalityBypassVerdict : Option String
  criticalityBypassReason : Option String
deriving DecidableEq, Repr

structure FileRiskClassification where
  path : String
  kind : ChangedFileKind
  riskLevel : RiskLevel
  reasons : List ChangeRiskReason
  additions : Option ℤ
  deletions : Option ℤ
  binary : Bool
  oldPath : Option String
  oldMode : Option String
  newMode : Option String
  modeChanged : Bool
  rustCriticality : Option RustCriticalityShadow
deriving DecidableEq, Repr

structure ChangeRiskReport where
  baselineCommitSha : String
  patchSha256 : String
  files : List FileRiskClassification
  reportReasons : List ChangeRiskReason
deriving DecidableEq, Repr

namespace ChangeRiskReport

def overallRiskLevel (report : ChangeRiskReport) : RiskLevel :=
  highestRisk (report.files.map (·.riskLevel) ++ report.reportReasons.map (·.riskLevel)) .low

/-- The reasons of the files and of the report. -/
def reasons (report : ChangeRiskReport) : List ChangeRiskReason :=
  report.files.flatMap (·.reasons) ++ report.reportReasons

end ChangeRiskReport

/-! ## Audit summaries -/

def optionInt (n : Option ℤ) : Value := (n.map Value.int).getD .none

def ChangeRiskReason.auditSummary (reason : ChangeRiskReason) : Value :=
  .dict [("code", .str reason.code), ("risk_level", .str reason.riskLevel.value),
    ("reason", .str reason.reason), ("evidence", .dict reason.evidence)]

def RustCriticalityShadow.auditSummary (shadow : RustCriticalityShadow) : Value :=
  .dict [("available", .bool shadow.available),
    ("criticality_index", (shadow.criticalityIndex.map Value.float).getD .none),
    ("risk_level", optionValue shadow.riskLevel), ("reasons", .tuple (shadow.reasons.map .str)),
    ("semantic_metrics", (shadow.semanticMetrics.map Value.dict).getD .none),
    ("path_category", optionValue shadow.pathCategory),
    ("path_severity", optionValue shadow.pathSeverity), ("error_code", optionValue shadow.errorCode),
    ("error_reason", optionValue shadow.errorReason),
    ("criticality_bypass_verdict", optionValue shadow.criticalityBypassVerdict),
    ("criticality_bypass_reason", optionValue shadow.criticalityBypassReason)]

def FileRiskClassification.auditSummary (file : FileRiskClassification) : Value :=
  .dict [("path", .str file.path), ("old_path", optionValue file.oldPath),
    ("kind", .str file.kind.value), ("risk_level", .str file.riskLevel.value),
    ("additions", optionInt file.additions), ("deletions", optionInt file.deletions),
    ("binary", .bool file.binary), ("old_mode", optionValue file.oldMode),
    ("new_mode", optionValue file.newMode), ("mode_changed", .bool file.modeChanged),
    ("reasons", .tuple (file.reasons.map ChangeRiskReason.auditSummary)),
    ("rust_criticality", (file.rustCriticality.map RustCriticalityShadow.auditSummary).getD .none)]

namespace ChangeRiskReport

def riskCounts (report : ChangeRiskReport) : Value :=
  .dict ([RiskLevel.low, .medium, .high, .critical].map fun level =>
    (level.value, .int (report.files.countP fun file => file.riskLevel = level)))

def auditSummary (report : ChangeRiskReport) : Value :=
  .dict [("baseline_commit_sha", .str report.baselineCommitSha),
    ("patch_sha256", .str report.patchSha256),
    ("overall_risk_level", .str report.overallRiskLevel.value),
    ("changed_file_count", .int report.files.length), ("risk_counts", report.riskCounts),
    ("files", .tuple (report.files.map FileRiskClassification.auditSummary)),
    ("report_reasons", .tuple (report.reportReasons.map ChangeRiskReason.auditSummary))]

end ChangeRiskReport

end Rygnal.ChangeRisk
