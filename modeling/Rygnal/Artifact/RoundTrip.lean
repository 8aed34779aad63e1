import Mathlib.Data.String.Basic
import Rygnal.Core.JsonReading
import Rygnal.Artifact.PatchArtifact

/-! # Patch artifacts survive storage

What `load` reads back of a persisted artifact: the patch, the risk report up to the order of
dictionaries, and after `mark_consumed` every other field.
-/

namespace Rygnal.Artifact
open Rygnal.Core Rygnal.Core.PyException Rygnal.Library Rygnal.Library.PyText Rygnal.ChangeRisk
  Rygnal.Approval

/-! ## Dictionaries with string keys -/

theorem pyGet_strEntries (es : List (String × PyValue)) (key : String) :
    pyGet (strEntries es) key = PyDict.get es key := by
  induction es with
  | nil => rfl
  | cons e es ih =>
    obtain ⟨k, v⟩ := e
    rw [PyDict.get_cons, ← ih]
    by_cases hk : k = key
    · simp [pyGet, strEntries, hk]
    · simp [pyGet, strEntries, hk]

/-- The values of the entries, sorted. -/
def sortedValues (es : List (String × PyValue)) : List (String × PyValue) :=
  es.map fun e => (e.1, e.2.sorted)

theorem sortedEntries_strEntries (es : List (String × PyValue)) :
    PyValue.sortedEntries (strEntries es) = strEntries (sortedValues es) := by
  induction es with
  | nil => rfl
  | cons e es ih =>
    rw [strEntries, List.map_cons, PyValue.sortedEntries]
    exact congrArg _ ih

theorem get_sortedValues (es : List (String × PyValue)) (key : String) :
    PyDict.get (sortedValues es) key = (PyDict.get es key).map PyValue.sorted := by
  induction es with
  | nil => rfl
  | cons e es ih =>
    obtain ⟨k, v⟩ := e
    rw [sortedValues, List.map_cons, PyDict.get_cons, PyDict.get_cons, ← sortedValues, ih]
    split <;> rfl

theorem keys_sortedValues (es : List (String × PyValue)) :
    (sortedValues es).map Prod.fst = es.map Prod.fst := by
  rw [sortedValues, List.map_map]
  rfl

theorem insertionSort_strEntries (es : List (String × PyValue)) :
    (strEntries es).insertionSort (fun e f => keyText e.1 ≤ keyText f.1) =
      strEntries (es.insertionSort fun e f => e.1 ≤ f.1) := by
  symm
  apply List.map_insertionSort
  intro e _ f _
  simp only [keyText]

/-- The entries of a dictionary in the order in which JSON gives them back. -/
def sortedDict (entries : List (PyValue × PyValue)) : List (PyValue × PyValue) :=
  if isPlain entries then
    (PyValue.sortedEntries entries).insertionSort fun e f => keyText e.1 ≤ keyText f.1
  else PyValue.sortedEntries entries

/-- A field of a sorted dictionary is the sorted field. -/
theorem pyGet_sortedDict (es : List (String × PyValue)) (hkeys : (es.map Prod.fst).Nodup)
    (key : String) :
    pyGet (sortedDict (strEntries es)) key = (PyDict.get es key).map PyValue.sorted := by
  unfold sortedDict
  rw [sortedEntries_strEntries, insertionSort_strEntries]
  split
  · have hperm := List.perm_insertionSort (fun e f : String × PyValue => e.1 ≤ f.1)
      (sortedValues es)
    rw [pyGet_strEntries, ← PyDict.get_of_perm hperm.symm _ key, get_sortedValues]
    rwa [keys_sortedValues]
  · rw [pyGet_strEntries, get_sortedValues]

/-! ## Reports -/

/-- The evidence of a classified reason: its keys ascend, and its values can be encoded. -/
structure RiskReason.Canonical (reason : RiskReason) : Prop where
  ascending : (reason.evidence.map Prod.fst).Pairwise (· < ·)
  supported : ∀ e ∈ reason.evidence, e.2.Supported

def RustShadow.Canonical (shadow : RustShadow) : Prop :=
  ∀ metrics ∈ shadow.semanticMetrics, (PyValue.dict metrics).Supported

structure FileRisk.Canonical (file : FileRisk) : Prop where
  reasons : ∀ reason ∈ file.reasons, reason.Canonical
  rustCriticality : ∀ shadow ∈ file.rustCriticality, shadow.Canonical

structure RiskReport.Canonical (report : RiskReport) : Prop where
  files : ∀ file ∈ report.files, file.Canonical
  reportReasons : ∀ reason ∈ report.reportReasons, reason.Canonical

def RiskReason.sorted (reason : RiskReason) : RiskReason :=
  { reason with evidence := sortedValues reason.evidence }

def RustShadow.sorted (shadow : RustShadow) : RustShadow :=
  { shadow with semanticMetrics := shadow.semanticMetrics.map sortedDict }

def FileRisk.sorted (file : FileRisk) : FileRisk :=
  { file with
    reasons := file.reasons.map RiskReason.sorted
    rustCriticality := file.rustCriticality.map RustShadow.sorted }

/-- The report with its dictionaries in the order of their keys. -/
def RiskReport.sorted (report : RiskReport) : RiskReport :=
  { report with
    files := report.files.map FileRisk.sorted
    reportReasons := report.reportReasons.map RiskReason.sorted }

theorem riskLevelOf_value (level : RiskLevel) : riskLevelOf level.value = .ok level := by
  cases level <;> rfl

theorem changedFileKindOf_value (kind : ChangedFileKind) :
    changedFileKindOf kind.value = .ok kind := by
  cases kind <;> rfl

/-- A dictionary of distinct keys is built from its own entries. -/
theorem merge_of_nodup {es : List (String × PyValue)} (h : (es.map Prod.fst).Nodup) :
    PyDict.merge [] es = es := by
  have hset : ∀ (acc : List (String × PyValue)) (k : String) (v : PyValue),
      k ∉ acc.map Prod.fst → PyDict.set acc k v = acc ++ [(k, v)] := by
    intro acc k v hk
    induction acc with
    | nil => rfl
    | cons e acc ih =>
      obtain ⟨l, y⟩ := e
      rw [List.map_cons, List.mem_cons, not_or] at hk
      rw [PyDict.set, if_neg (Ne.symm hk.1), ih hk.2]
      rfl
  have hfold : ∀ (es acc : List (String × PyValue)), ((acc ++ es).map Prod.fst).Nodup →
      es.foldl (fun acc e => PyDict.set acc e.1 e.2) acc = acc ++ es := by
    intro es
    induction es with
    | nil =>
      intro acc _
      rw [List.append_nil]
      rfl
    | cons e es ih =>
      intro acc hacc
      have hnew : e.1 ∉ acc.map Prod.fst := by
        rw [List.map_append, List.nodup_append] at hacc
        intro hmem
        exact hacc.2.2 _ hmem _ (List.mem_map_of_mem List.mem_cons_self) rfl
      rw [List.foldl_cons, hset acc e.1 e.2 hnew, ih]
      · rw [List.append_assoc]
        rfl
      · rwa [List.append_assoc]
  exact hfold es [] h

section Reading
variable [Conversions]

/-- Evidence in ascending order is read back in its order. -/
theorem sortedEvidence_sorted {es : List (String × PyValue)}
    (h : (es.map Prod.fst).Pairwise (· < ·)) :
    sortedEvidence (sortedDict (strEntries es)) = .ok (sortedValues es) := by
  have hnodup : (es.map Prod.fst).Nodup := h.imp fun hlt => ne_of_lt hlt
  have hordered : (sortedValues es).Pairwise fun e f => e.1 ≤ f.1 := by
    have hle := h.imp fun hlt => le_of_lt hlt
    rw [← keys_sortedValues] at hle
    exact List.pairwise_map.mp hle
  have hsort : (sortedValues es).insertionSort (fun e f => e.1 ≤ f.1) = sortedValues es :=
    hordered.insertionSort_eq
  have hdict : sortedDict (strEntries es) = strEntries (sortedValues es) := by
    unfold sortedDict
    rw [sortedEntries_strEntries, insertionSort_strEntries, hsort, ite_self]
  have hpairs : (strEntries (sortedValues es)).map (fun e => (pyStr e.1, e.2)) =
      sortedValues es := by
    rw [strEntries, List.map_map]
    exact List.map_id _
  rw [hdict, sortedEvidence, hpairs, if_pos, hsort]
  rwa [keys_sortedValues]

theorem riskReason_roundTrip {reason : RiskReason} (h : reason.Canonical) :
    riskReasonFromSummary reason.auditSummary.sorted = .ok reason.sorted := by
  have hnodup : (reason.evidence.map Prod.fst).Nodup := h.ascending.imp fun hlt => ne_of_lt hlt
  have hkeys : ["code", "risk_level", "reason", "evidence"].Nodup := by decide
  have hget := pyGet_sortedDict [("code", .str reason.code),
    ("risk_level", .str reason.riskLevel.value), ("reason", .str reason.reason),
    ("evidence", .dict (strEntries (PyDict.merge [] reason.evidence)))] hkeys
  have hcode := hget "code"
  have hlevel := hget "risk_level"
  have hreason := hget "reason"
  have hevidence := hget "evidence"
  simp only [PyDict.get_cons, String.reduceEq, if_true, if_false, Option.map_some,
    merge_of_nodup hnodup] at hcode hlevel hreason hevidence
  rw [RiskReason.auditSummary, merge_of_nodup hnodup]
  change riskReasonFromSummary (.dict (sortedDict (strEntries _))) = _
  rw [riskReasonFromSummary, hevidence]
  simp only [pyItem, hcode, hlevel, hreason]
  change ((riskLevelOf reason.riskLevel.value).bind fun riskLevel =>
    (sortedEvidence (sortedDict (strEntries reason.evidence))).bind fun evidence =>
      Except.ok (RiskReason.mk reason.code riskLevel reason.reason evidence)) = _
  rw [riskLevelOf_value, sortedEvidence_sorted h.ascending]
  rfl

/-- `_optional_string` of a sorted optional text. -/
theorem optionalString_sorted (s : Option String) :
    optionalString (some (strOrNone s).sorted) = s := by
  cases s <;> rfl

theorem optionalInteger_sorted (n : Option ℤ) :
    optionalInteger (some (intOrNone n).sorted) = .ok n := by
  cases n <;> rfl

theorem optionalFloat_sorted (q : Option ℚ) :
    optionalFloat (some ((q.map PyValue.float).getD .none).sorted) = .ok q := by
  cases q <;> rfl

theorem optionalDict_sorted (entries : Option (List (PyValue × PyValue))) :
    optionalDict (some ((entries.map PyValue.dict).getD .none).sorted) =
      .ok (entries.map sortedDict) := by
  cases entries <;> rfl

omit [Conversions] in
theorem sortedItems_map {α : Type} (f : α → PyValue) (xs : List α) :
    PyValue.sortedItems (xs.map f) = xs.map fun x => (f x).sorted := by
  induction xs with
  | nil => rfl
  | cons x xs ih => rw [List.map_cons, PyValue.sortedItems, ih, List.map_cons]

theorem rustShadow_roundTrip (shadow : RustShadow) :
    rustShadowFromSummary (some shadow.auditSummary.sorted) = .ok (some shadow.sorted) := by
  have hkeys : ["available", "criticality_index", "risk_level", "reasons", "semantic_metrics",
      "path_category", "path_severity", "error_code", "error_reason", "criticality_bypass_verdict",
      "criticality_bypass_reason"].Nodup := by decide
  have hget := pyGet_sortedDict [("available", .bool shadow.available),
    ("criticality_index", (shadow.criticalityIndex.map PyValue.float).getD .none),
    ("risk_level", strOrNone shadow.riskLevel),
    ("reasons", .tuple (shadow.reasons.map PyValue.str)),
    ("semantic_metrics", (shadow.semanticMetrics.map PyValue.dict).getD .none),
    ("path_category", strOrNone shadow.pathCategory),
    ("path_severity", strOrNone shadow.pathSeverity), ("error_code", strOrNone shadow.errorCode),
    ("error_reason", strOrNone shadow.errorReason),
    ("criticality_bypass_verdict", strOrNone shadow.criticalityBypassVerdict),
    ("criticality_bypass_reason", strOrNone shadow.criticalityBypassReason)] hkeys
  have hreasons : (PyValue.sortedItems (shadow.reasons.map PyValue.str)).map pyStr =
      shadow.reasons := by
    rw [sortedItems_map, List.map_map]
    exact List.map_id _
  change rustShadowFromSummary (some (.dict (sortedDict (strEntries _)))) = _
  rw [rustShadowFromSummary]
  simp only [hget, PyDict.get_cons, String.reduceEq, if_true, if_false, Option.map_some,
    optionalString_sorted, optionalDict_sorted, optionalFloat_sorted, Option.getD_some,
    PyValue.sorted, pyIter, bind, Except.bind, hreasons, PyValue.truthy]
  rfl

theorem fileRisk_roundTrip {file : FileRisk} (h : file.Canonical) :
    fileRiskFromSummary file.auditSummary.sorted = .ok file.sorted := by
  have hkeys : ["path", "old_path", "kind", "risk_level", "additions", "deletions", "binary",
      "old_mode", "new_mode", "mode_changed", "reasons", "rust_criticality"].Nodup := by decide
  have hget := pyGet_sortedDict [("path", .str file.path), ("old_path", strOrNone file.oldPath),
    ("kind", .str file.kind.value), ("risk_level", .str file.riskLevel.value),
    ("additions", intOrNone file.additions), ("deletions", intOrNone file.deletions),
    ("binary", .bool file.binary), ("old_mode", strOrNone file.oldMode),
    ("new_mode", strOrNone file.newMode), ("mode_changed", .bool file.modeChanged),
    ("reasons", .tuple (file.reasons.map RiskReason.auditSummary)),
    ("rust_criticality", (file.rustCriticality.map RustShadow.auditSummary).getD .none)] hkeys
  have hreasons : (file.reasons.map fun reason => reason.auditSummary.sorted).mapM
      riskReasonFromSummary = .ok (file.reasons.map RiskReason.sorted) :=
    mapM_map_ok fun reason hreason => riskReason_roundTrip (h.reasons reason hreason)
  have hrust : rustShadowFromSummary
      (some ((file.rustCriticality.map RustShadow.auditSummary).getD .none).sorted) =
      .ok (file.rustCriticality.map RustShadow.sorted) := by
    cases file.rustCriticality with
    | none => rfl
    | some shadow => exact rustShadow_roundTrip shadow
  change fileRiskFromSummary (.dict (sortedDict (strEntries _))) = _
  rw [fileRiskFromSummary]
  simp only [hget, pyItem, PyDict.get_cons, String.reduceEq, if_true, if_false, Option.map_some,
    optionalString_sorted, optionalInteger_sorted, Option.getD_some, hrust]
  simp only [PyValue.sorted, pyIter, bind, Except.bind, PyValue.truthy, pyStr,
    changedFileKindOf_value, riskLevelOf_value, sortedItems_map, hreasons]
  rfl

theorem riskReport_roundTrip {report : RiskReport} (h : report.Canonical) :
    ∃ summary, report.auditSummary.sorted = .dict summary ∧
      riskReportFromSummary summary = .ok report.sorted := by
  have hkeys : ["baseline_commit_sha", "patch_sha256", "overall_risk_level", "changed_file_count",
      "risk_counts", "files", "report_reasons"].Nodup := by decide
  have hget := pyGet_sortedDict [("baseline_commit_sha", .str report.baselineCommitSha),
    ("patch_sha256", .str report.patchSha256),
    ("overall_risk_level", .str report.overallRiskLevel.value),
    ("changed_file_count", .int report.files.length), ("risk_counts", report.riskCounts),
    ("files", .tuple (report.files.map FileRisk.auditSummary)),
    ("report_reasons", .tuple (report.reportReasons.map RiskReason.auditSummary))] hkeys
  have hfiles : (report.files.map fun file => file.auditSummary.sorted).mapM
      fileRiskFromSummary = .ok (report.files.map FileRisk.sorted) :=
    mapM_map_ok fun file hfile => fileRisk_roundTrip (h.files file hfile)
  have hreasons : (report.reportReasons.map fun reason => reason.auditSummary.sorted).mapM
      riskReasonFromSummary = .ok (report.reportReasons.map RiskReason.sorted) :=
    mapM_map_ok fun reason hreason => riskReason_roundTrip (h.reportReasons reason hreason)
  refine ⟨_, rfl, ?_⟩
  change riskReportFromSummary (sortedDict (strEntries _)) = _
  rw [riskReportFromSummary]
  simp only [hget, pyItem, PyDict.get_cons, String.reduceEq, if_true, if_false, Option.map_some,
    Option.getD_some]
  simp only [PyValue.sorted, pyIter, bind, Except.bind, pyStr, sortedItems_map, hfiles, hreasons]
  rfl

end Reading

/-! ## Artifacts -/

/-- The artifact with its dictionaries as JSON gives them back. -/
def PatchArtifact.reread (artifact : PatchArtifact) : PatchArtifact :=
  { artifact with
    files := artifact.files.map jsonDict
    ignoredFiles := artifact.ignoredFiles.map jsonDict
    riskSummary := jsonDict artifact.riskSummary
    intentSummary := jsonDict artifact.intentSummary }

theorem keys_toPayloadWithDigest (artifact : PatchArtifact) :
    artifact.toPayloadWithDigest.map Prod.fst = PatchArtifact.requiredFields := rfl

theorem requiredFields_nodup : PatchArtifact.requiredFields.Nodup := by
  rw [PatchArtifact.requiredFields]
  decide

theorem jsonRoundTripList_dicts (ds : List Dict) :
    Value.jsonRoundTripList (ds.map Value.dict) = (ds.map jsonDict).map Value.dict := by
  induction ds with
  | nil => rfl
  | cons d ds ih =>
    rw [List.map_cons, Value.jsonRoundTripList, ih]
    rfl

section Artifacts
variable [Conversions]

theorem valueDicts_dicts (ds : List Dict) :
    valueDicts (.list (ds.map Value.dict)) = .ok ds := by
  have h : (ds.map Value.dict).mapM valueDict = .ok (ds.map id) := mapM_map_ok fun d _ => rfl
  rw [valueDicts, h, List.map_id]

theorem artifactOfFields_reread (artifact : PatchArtifact) :
    artifactOfFields (jsonDict artifact.toPayloadWithDigest) = .ok artifact.reread := by
  have hkeys : (artifact.toPayloadWithDigest.map Prod.fst).Nodup := requiredFields_nodup
  have hconsumed :
      optionalString (some (PyValue.ofValue (optionValue artifact.consumedAt).jsonRoundTrip)) =
        artifact.consumedAt := by
    cases artifact.consumedAt <;> rfl
  unfold artifactOfFields
  simp only [get_jsonDict hkeys]
  simp only [PatchArtifact.toPayloadWithDigest, PatchArtifact.toPayload, List.cons_append,
    List.nil_append, PyDict.get_cons, String.reduceEq, if_true, if_false, Option.map_some,
    Option.getD_some, Value.jsonRoundTrip, PyValue.ofValue, pyInt, bind, Except.bind,
    jsonRoundTripList_dicts, valueDicts_dicts, valueDict, hconsumed]
  rfl

/-- The payload that a file holds is read back as the artifact. -/
theorem artifactFromPayload_reread (artifact : PatchArtifact) :
    artifactFromPayload (Value.jsonRoundTrip (.dict artifact.toPayloadWithDigest)) =
      .ok artifact.reread := by
  have hkeys : (artifact.toPayloadWithDigest.map Prod.fst).Nodup := requiredFields_nodup
  have hperm : ((jsonDict artifact.toPayloadWithDigest).map Prod.fst).Perm
      PatchArtifact.requiredFields := keys_jsonDict artifact.toPayloadWithDigest
  have hmissing : PatchArtifact.requiredFields.filter (fun name =>
      (PyDict.get (jsonDict artifact.toPayloadWithDigest) name).isNone) = [] := by
    rw [List.filter_eq_nil_iff]
    intro name hname
    rw [get_jsonDict hkeys, Option.isNone_map, Option.isNone_iff_eq_none]
    rw [← keys_toPayloadWithDigest artifact] at hname
    obtain ⟨e, he, rfl⟩ := List.mem_map.mp hname
    rw [(PyDict.get_eq_some hkeys).mpr he]
    nofun
  have hextra : ((jsonDict artifact.toPayloadWithDigest).map Prod.fst).filter
      (fun name => name ∉ PatchArtifact.requiredFields) = [] := by
    rw [List.filter_eq_nil_iff]
    intro name hname
    simpa using hperm.mem_iff.mp hname
  change artifactFromPayload (.dict (jsonDict artifact.toPayloadWithDigest)) = _
  simp only [artifactFromPayload, hmissing, hextra, artifactOfFields_reread]
  rfl

/-- The file summary as JSON gives it back describes the file. -/
theorem fileOfSummary_fileSummary (file : PatchFileDiff) :
    fileOfSummary (jsonDict (fileSummary file)) = .ok file := by
  have hkeys : ["path", "old_path", "kind", "additions", "deletions", "binary", "old_mode",
      "new_mode", "mode_changed"].Nodup := by decide
  have hget := @get_jsonDict (fileSummary file) hkeys
  have hstring : ∀ s : Option String,
      optionalString (some (PyValue.ofValue (optionValue s).jsonRoundTrip)) = s := by
    intro s
    cases s <;> rfl
  have hinteger : ∀ n : Option ℤ,
      optionalInteger (some (PyValue.ofValue (optionInt n).jsonRoundTrip)) = .ok n := by
    intro n
    cases n <;> rfl
  unfold fileOfSummary
  simp only [dictItem, dictGet, hget]
  simp only [fileSummary, PyDict.get_cons, String.reduceEq, if_true, if_false, Option.map_some,
    Option.getD_some, hstring, hinteger, Value.jsonRoundTrip, PyValue.ofValue, pyStr,
    PyValue.truthy, changedFileKindOf_value, bind, Except.bind]
  rfl

theorem ignoredOfSummary_ignoredSummary (path : String) :
    ignoredOfSummary (jsonDict (ignoredSummary path)) = .ok path := by
  have hkeys : ["path", "reason"].Nodup := by decide
  have hget := @get_jsonDict (ignoredSummary path) hkeys
  unfold ignoredOfSummary
  simp only [dictItem, hget]
  simp only [ignoredSummary, PyDict.get_cons, String.reduceEq, if_true, if_false, Option.map_some,
    Value.jsonRoundTrip, PyValue.ofValue, pyStr, bind, Except.bind]
  rfl

end Artifacts

end Rygnal.Artifact
