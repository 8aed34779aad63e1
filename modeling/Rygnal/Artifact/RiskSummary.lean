import Rygnal.Artifact.Lossless
import Rygnal.ChangeRisk.Report

/-! # Risk reports as artifact summaries

The audit summary of a risk report whose evidence holds any values, and
`_risk_report_from_summary`, which reads a report back from a decoded summary.
-/

namespace Rygnal.Artifact
open Rygnal.Core Rygnal.Core.PyException Rygnal.Library Rygnal.ChangeRisk

/-! ## Reports -/

structure RiskReason where
  code : String
  riskLevel : RiskLevel
  reason : String
  evidence : List (String × PyValue)

structure RustShadow where
  available : Bool
  criticalityIndex : Option ℚ
  riskLevel : Option String
  reasons : List String
  semanticMetrics : Option (List (PyValue × PyValue))
  pathCategory : Option String
  pathSeverity : Option String
  errorCode : Option String
  errorReason : Option String
  criticalityBypassVerdict : Option String
  criticalityBypassReason : Option String

structure FileRisk where
  path : String
  kind : ChangedFileKind
  riskLevel : RiskLevel
  reasons : List RiskReason
  additions : Option ℤ
  deletions : Option ℤ
  binary : Bool
  oldPath : Option String
  oldMode : Option String
  newMode : Option String
  modeChanged : Bool
  rustCriticality : Option RustShadow

/-- A `ChangeRiskReport` with evidence and metrics of any values. -/
structure RiskReport where
  baselineCommitSha : String
  patchSha256 : String
  files : List FileRisk
  reportReasons : List RiskReason

/-! ## Audit summaries -/

def strOrNone (s : Option String) : PyValue := (s.map PyValue.str).getD .none

def intOrNone (n : Option ℤ) : PyValue := (n.map PyValue.int).getD .none

def strEntries (entries : List (String × PyValue)) : List (PyValue × PyValue) :=
  entries.map fun e => (.str e.1, e.2)

/-- `dict(self.evidence)` keeps the last value of a key. -/
def RiskReason.auditSummary (reason : RiskReason) : PyValue :=
  .dict (strEntries [("code", .str reason.code), ("risk_level", .str reason.riskLevel.value),
    ("reason", .str reason.reason),
    ("evidence", .dict (strEntries (PyDict.merge [] reason.evidence)))])

def RustShadow.auditSummary (shadow : RustShadow) : PyValue :=
  .dict (strEntries [("available", .bool shadow.available),
    ("criticality_index", (shadow.criticalityIndex.map PyValue.float).getD .none),
    ("risk_level", strOrNone shadow.riskLevel),
    ("reasons", .tuple (shadow.reasons.map PyValue.str)),
    ("semantic_metrics", (shadow.semanticMetrics.map PyValue.dict).getD .none),
    ("path_category", strOrNone shadow.pathCategory),
    ("path_severity", strOrNone shadow.pathSeverity), ("error_code", strOrNone shadow.errorCode),
    ("error_reason", strOrNone shadow.errorReason),
    ("criticality_bypass_verdict", strOrNone shadow.criticalityBypassVerdict),
    ("criticality_bypass_reason", strOrNone shadow.criticalityBypassReason)])

def FileRisk.auditSummary (file : FileRisk) : PyValue :=
  .dict (strEntries [("path", .str file.path), ("old_path", strOrNone file.oldPath),
    ("kind", .str file.kind.value), ("risk_level", .str file.riskLevel.value),
    ("additions", intOrNone file.additions), ("deletions", intOrNone file.deletions),
    ("binary", .bool file.binary), ("old_mode", strOrNone file.oldMode),
    ("new_mode", strOrNone file.newMode), ("mode_changed", .bool file.modeChanged),
    ("reasons", .tuple (file.reasons.map RiskReason.auditSummary)),
    ("rust_criticality", (file.rustCriticality.map RustShadow.auditSummary).getD .none)])

namespace RiskReport

def overallRiskLevel (report : RiskReport) : RiskLevel :=
  highestRisk (report.files.map (·.riskLevel) ++ report.reportReasons.map (·.riskLevel)) .low

def riskCounts (report : RiskReport) : PyValue :=
  .dict (strEntries ([RiskLevel.low, .medium, .high, .critical].map fun level =>
    (level.value, .int (report.files.countP fun file => file.riskLevel = level))))

def auditSummary (report : RiskReport) : PyValue :=
  .dict (strEntries [("baseline_commit_sha", .str report.baselineCommitSha),
    ("patch_sha256", .str report.patchSha256),
    ("overall_risk_level", .str report.overallRiskLevel.value),
    ("changed_file_count", .int report.files.length), ("risk_counts", report.riskCounts),
    ("files", .tuple (report.files.map FileRisk.auditSummary)),
    ("report_reasons", .tuple (report.reportReasons.map RiskReason.auditSummary))])

end RiskReport

/-! ## Reading a summary -/

def keyError (key : String) : PyException :=
  ⟨[.other "KeyError", .lookupError, .exception, .baseException], "'" ++ key ++ "'"⟩

def typeError (message : String) : PyException :=
  ⟨[.other "TypeError", .exception, .baseException], message⟩

def attributeError (message : String) : PyException :=
  ⟨[.other "AttributeError", .exception, .baseException], message⟩

def valueError (message : String) : PyException :=
  ⟨[.valueError, .exception, .baseException], message⟩

/-- `RiskLevel(text)`. -/
def riskLevelOf (text : String) : Except PyException RiskLevel :=
  if text = "low" then .ok .low
  else if text = "medium" then .ok .medium
  else if text = "high" then .ok .high
  else if text = "critical" then .ok .critical
  else .error (valueError ("'" ++ text ++ "' is not a valid RiskLevel"))

/-- `ChangedFileKind(text)`. -/
def changedFileKindOf (text : String) : Except PyException ChangedFileKind :=
  if text = "added" then .ok .added
  else if text = "modified" then .ok .modified
  else if text = "deleted" then .ok .deleted
  else if text = "renamed" then .ok .renamed
  else if text = "mode_changed" then .ok .modeChanged
  else if text = "untracked" then .ok .untracked
  else .error (valueError ("'" ++ text ++ "' is not a valid ChangedFileKind"))

/-- `value.get(key)` of the entries of a dictionary. -/
def pyGet (entries : List (PyValue × PyValue)) (key : String) : Option PyValue :=
  (entries.find? fun e =>
    match e.1 with
    | .str k => k == key
    | _ => false).map Prod.snd

/-- `value[key]`. -/
def pyItem (entries : List (PyValue × PyValue)) (key : String) : Except PyException PyValue :=
  match pyGet entries key with
  | some v => .ok v
  | none => .error (keyError key)

/-- `bool(value)`. -/
def PyValue.truthy : PyValue → Bool
  | .none => false
  | .bool b => b
  | .int n => n ≠ 0
  | .float q => q ≠ 0
  | .str s => s ≠ ""
  | .list xs | .tuple xs => !xs.isEmpty
  | .dict es => !es.isEmpty
  | .other _ => true

section Reading
variable [Conversions]

def pyInt : PyValue → Except PyException ℤ
  | .int n => .ok n
  | v => Conversions.int v

def pyFloat : PyValue → Except PyException ℚ
  | .float q => .ok q
  | v => Conversions.float v

def pyDict : PyValue → Except PyException (List (PyValue × PyValue))
  | .dict entries => .ok entries
  | v => Conversions.dict v

/-- The items that a loop over the value takes. -/
def pyIter : PyValue → Except PyException (List PyValue)
  | .list items | .tuple items => .ok items
  | v => Conversions.iter v

/-- `_optional_string` of `value.get(key)`. -/
def optionalString : Option PyValue → Option String
  | none | some .none => none
  | some v => some (pyStr v)

/-- `_optional_integer` of `value.get(key)`. -/
def optionalInteger : Option PyValue → Except PyException (Option ℤ)
  | none | some .none => .ok none
  | some v => (pyInt v).map some

/-- `dict(value)` where there is one. -/
def optionalDict : Option PyValue → Except PyException (Option (List (PyValue × PyValue)))
  | none | some .none => .ok none
  | some v => (pyDict v).map some

/-- `float(value)` where there is one. -/
def optionalFloat : Option PyValue → Except PyException (Option ℚ)
  | none | some .none => .ok none
  | some v => (pyFloat v).map some

/-- `tuple(sorted((str(key), value) for key, value in evidence.items()))`. -/
def sortedEvidence (entries : List (PyValue × PyValue)) :
    Except PyException (List (String × PyValue)) :=
  let pairs := entries.map fun e => (pyStr e.1, e.2)
  if (pairs.map Prod.fst).Nodup then .ok (pairs.insertionSort fun e f => e.1 ≤ f.1)
  else Conversions.sortPairs pairs

def riskReasonFromSummary : PyValue → Except PyException RiskReason
  | .dict summary =>
    match (pyGet summary "evidence").getD (.dict []) with
    | .dict entries => do
      let code ← pyItem summary "code"
      let level ← pyItem summary "risk_level"
      let riskLevel ← riskLevelOf (pyStr level)
      let reason ← pyItem summary "reason"
      let evidence ← sortedEvidence entries
      return ⟨pyStr code, riskLevel, pyStr reason, evidence⟩
    | _ => .error (tamperedError "Risk reason evidence must be an object.")
  | _ => .error (attributeError "object has no attribute 'get'")

def rustShadowFromSummary : Option PyValue → Except PyException (Option RustShadow)
  | none | some .none => .ok none
  | some (.dict summary) => do
    let semanticMetrics ← optionalDict (pyGet summary "semantic_metrics")
    let criticalityIndex ← optionalFloat (pyGet summary "criticality_index")
    let reasons ← pyIter ((pyGet summary "reasons").getD (.tuple []))
    return some {
      available := ((pyGet summary "available").getD (.bool false)).truthy
      criticalityIndex := criticalityIndex
      riskLevel := optionalString (pyGet summary "risk_level")
      reasons := reasons.map pyStr
      semanticMetrics := semanticMetrics
      pathCategory := optionalString (pyGet summary "path_category")
      pathSeverity := optionalString (pyGet summary "path_severity")
      errorCode := optionalString (pyGet summary "error_code")
      errorReason := optionalString (pyGet summary "error_reason")
      criticalityBypassVerdict := optionalString (pyGet summary "criticality_bypass_verdict")
      criticalityBypassReason := optionalString (pyGet summary "criticality_bypass_reason") }
  | some _ => .error (attributeError "object has no attribute 'get'")

def fileRiskFromSummary : PyValue → Except PyException FileRisk
  | .dict item => do
    let path ← pyItem item "path"
    let kind ← (pyItem item "kind").bind fun v => changedFileKindOf (pyStr v)
    let riskLevel ← (pyItem item "risk_level").bind fun v => riskLevelOf (pyStr v)
    let additions ← optionalInteger (pyGet item "additions")
    let deletions ← optionalInteger (pyGet item "deletions")
    let summaries ← pyIter ((pyGet item "reasons").getD (.tuple []))
    let reasons ← summaries.mapM riskReasonFromSummary
    let rustCriticality ← rustShadowFromSummary (pyGet item "rust_criticality")
    return {
      path := pyStr path
      kind := kind
      riskLevel := riskLevel
      reasons := reasons
      additions := additions
      deletions := deletions
      binary := ((pyGet item "binary").getD (.bool false)).truthy
      oldPath := optionalString (pyGet item "old_path")
      oldMode := optionalString (pyGet item "old_mode")
      newMode := optionalString (pyGet item "new_mode")
      modeChanged := ((pyGet item "mode_changed").getD (.bool false)).truthy
      rustCriticality := rustCriticality }
  | _ => .error (typeError "object is not subscriptable by a string")

def riskReportFromSummary (summary : List (PyValue × PyValue)) : Except PyException RiskReport := do
  let filesRaw ← pyIter ((pyGet summary "files").getD (.tuple []))
  let files ← filesRaw.mapM fileRiskFromSummary
  let reasonsRaw ← pyIter ((pyGet summary "report_reasons").getD (.tuple []))
  let reportReasons ← reasonsRaw.mapM riskReasonFromSummary
  let baseline ← pyItem summary "baseline_commit_sha"
  let patch ← pyItem summary "patch_sha256"
  return ⟨pyStr baseline, pyStr patch, files, reportReasons⟩

end Reading

end Rygnal.Artifact
