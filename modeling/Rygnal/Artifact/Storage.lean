import Rygnal.Artifact.RoundTrip
import Rygnal.Core.TextLength

/-! # The store of patch artifacts

What `persist` and `mark_consumed` leave in the directory, and what a later `load` gives back.
-/

namespace Rygnal.Artifact
open Rygnal.Core Rygnal.Core.PyException Rygnal.Library Rygnal.Library.PyText Rygnal.ChangeRisk
  Rygnal.Approval

/-- The artifact read back from its file is read back as it is. -/
theorem PatchArtifact.reread_reread (artifact : PatchArtifact) :
    artifact.reread.reread = artifact.reread := by
  simp only [PatchArtifact.reread, List.map_map, Function.comp_def, jsonDict_idem]

/-- Reading back commutes with a change of state, time and digest. -/
theorem PatchArtifact.reread_marked (artifact : PatchArtifact) (state digest : String)
    (consumedAt : Option String) :
    { ({ artifact with
        state := state
        consumedAt := consumedAt
        artifactDigest := digest } : PatchArtifact).reread with
      state := artifact.state
      consumedAt := artifact.consumedAt
      artifactDigest := artifact.artifactDigest } = artifact.reread := rfl

/-! ## Identifiers -/

theorem requireIdentifier_hexId (id : HexId) (label : String) :
    requireIdentifier id.text label = .ok id.text := by
  have hchars : ∀ c ∈ "0123456789abcdef".toList, isSpace c = false ∧
      (isAscii c && (c.isAlphanum || c == '-' || c == '_')) = true := by decide
  have hstrip : strip id.text.toList = id.text.toList := by
    apply strip_of_no_space
    intro c hc
    exact (hchars c (id.hex_text c hc)).1
  have hlength : id.text.toList.length = 32 := id.length_text
  have hvalid : (id.text.toList.any fun c =>
      !(isAscii c && (c.isAlphanum || c == '-' || c == '_'))) = false := by
    rw [List.any_eq_false]
    intro c hc
    rw [(hchars c (id.hex_text c hc)).2]
    decide
  have hblank : id.text.toList ≠ [] := by
    intro h
    rw [h] at hlength
    cases hlength
  simp only [requireIdentifier, hstrip, hvalid, hblank, hlength, String.ofList_toList]
  rfl

/-! ## Loading -/

section Loading
variable [IsoDateTime] [Digest] [BytesDigest] [FloatText] [Conversions]

/-- The checks of `load` on an artifact that was read. -/
theorem load_eq_ok {repoIdentity : String → String} {directory : Directory} {now : ℤ}
    {artifactId : String} {allowExpired allowConsumed : Bool} {loaded : PatchArtifact}
    (h : load repoIdentity directory now artifactId allowExpired allowConsumed = .ok loaded) :
    ∃ normalizedId payload, requireIdentifier artifactId "artifact ID" = .ok normalizedId ∧
      readPayload directory normalizedId = .ok payload ∧
      artifactFromPayload payload = .ok loaded ∧ loaded.artifactId = normalizedId := by
  have ⟨normalizedId, hid, h⟩ := bind_eq_ok.mp h
  have ⟨payload, hpayload, h⟩ := bind_eq_ok.mp h
  have ⟨artifact, hartifact, h⟩ := bind_eq_ok.mp h
  have ⟨_, _, h⟩ := bind_eq_ok.mp h
  have ⟨_, hname, h⟩ := bind_eq_ok.mp h
  have ⟨_, _, h⟩ := bind_eq_ok.mp h
  have ⟨_, _, h⟩ := bind_eq_ok.mp h
  have ⟨_, _, h⟩ := bind_eq_ok.mp h
  cases h
  rw [raiseIf_eq_ok, decide_eq_false_iff_not, not_not] at hname
  exact ⟨normalizedId, payload, hid, hpayload, hartifact, hname⟩

/-- A load that accepts everything does not depend on the time. -/
theorem load_anyTime {repoIdentity : String → String} {directory : Directory} {now : ℤ}
    {artifactId : String} {loaded : PatchArtifact}
    (h : load repoIdentity directory now artifactId true true = .ok loaded) (now' : ℤ) :
    load repoIdentity directory now' artifactId true true = .ok loaded := by
  simpa [load, loadPayload] using h

/-- What a serialized artifact is loaded as. -/
theorem loaded_of_written {repoIdentity : String → String} {directory : Directory} {now : ℤ}
    {artifactId : String} {allowExpired allowConsumed : Bool} {artifact loaded : PatchArtifact}
    {file : ArtifactFile} (hfile : serialized artifact.toPayloadWithDigest = .ok file)
    (hwritten : directory artifactId = some file)
    (hid : requireIdentifier artifactId "artifact ID" = .ok artifactId)
    (h : load repoIdentity directory now artifactId allowExpired allowConsumed = .ok loaded) :
    loaded = artifact.reread := by
  have ⟨normalizedId, payload, hid', hpayload, hartifact, _⟩ := load_eq_ok h
  rw [hid] at hid'
  cases hid'
  unfold serialized at hfile
  dsimp only at hfile
  split at hfile
  · cases hfile
  · cases hfile
    rw [readPayload, hwritten] at hpayload
    unfold readFile at hpayload
    dsimp only at hpayload
    split at hpayload
    · cases hpayload
    · cases hpayload
      rw [artifactFromPayload_reread] at hartifact
      cases hartifact
      rfl

end Loading

/-! ## Persisting -/

/-- The summary of a report whose evidence can be encoded can be encoded. -/
theorem supported_strEntries {es : List (String × PyValue)} (hkeys : (es.map Prod.fst).Nodup)
    (hvalues : ∀ e ∈ es, e.2.Supported) : (PyValue.dict (strEntries es)).Supported := by
  have hdistinct : PyValue.DistinctKeys (strEntries es) := by
    rw [PyValue.DistinctKeys, strEntries, List.pairwise_map]
    apply (List.pairwise_map.mp hkeys).imp
    intro e f hne
    simpa [PyValue.pyEq] using Ne.symm hne
  rw [PyValue.Supported, PyValue.supportedEntries_iff]
  apply And.intro hdistinct
  intro e he
  rw [strEntries, List.mem_map] at he
  rcases he with ⟨f, hf, rfl⟩
  exact ⟨rfl, trivial, hvalues f hf⟩

theorem supportedItems_iff {items : List PyValue} :
    PyValue.SupportedItems items ↔ ∀ v ∈ items, v.Supported := by
  induction items with
  | nil => simp [PyValue.SupportedItems]
  | cons v items ih => rw [PyValue.SupportedItems, ih, List.forall_mem_cons]

theorem supported_strOrNone (s : Option String) : (strOrNone s).Supported := by
  cases s <;> trivial

theorem supported_intOrNone (n : Option ℤ) : (intOrNone n).Supported := by
  cases n <;> trivial

theorem RiskReason.Canonical.auditSummary_supported {reason : RiskReason} (h : reason.Canonical) :
    reason.auditSummary.Supported := by
  have hnodup : (reason.evidence.map Prod.fst).Nodup := h.ascending.imp fun hlt => ne_of_lt hlt
  rw [RiskReason.auditSummary, merge_of_nodup hnodup]
  apply supported_strEntries
  · simp
  · simp only [List.forall_mem_cons, List.not_mem_nil, IsEmpty.forall_iff, implies_true, and_true]
    exact ⟨trivial, trivial, trivial, supported_strEntries hnodup h.supported⟩

theorem RustShadow.Canonical.auditSummary_supported {shadow : RustShadow} (h : shadow.Canonical) :
    shadow.auditSummary.Supported := by
  apply supported_strEntries
  · simp
  · have hindex : ((shadow.criticalityIndex.map PyValue.float).getD .none).Supported := by
      cases shadow.criticalityIndex <;> trivial
    have hmetrics : ((shadow.semanticMetrics.map PyValue.dict).getD .none).Supported := by
      unfold RustShadow.Canonical at h
      cases hm : shadow.semanticMetrics with
      | none => trivial
      | some metrics => exact h metrics hm
    have hreasons : (PyValue.tuple (shadow.reasons.map PyValue.str)).Supported := by
      rw [PyValue.Supported, supportedItems_iff]
      intro v hv
      rcases List.mem_map.mp hv with ⟨s, -, rfl⟩
      trivial
    simp only [List.forall_mem_cons, List.not_mem_nil, IsEmpty.forall_iff, implies_true, and_true,
      supported_strOrNone, hindex, hmetrics, hreasons]
    trivial

theorem FileRisk.Canonical.auditSummary_supported {file : FileRisk} (h : file.Canonical) :
    file.auditSummary.Supported := by
  apply supported_strEntries
  · simp
  · have hreasons : (PyValue.tuple (file.reasons.map RiskReason.auditSummary)).Supported := by
      rw [PyValue.Supported, supportedItems_iff]
      intro v hv
      rcases List.mem_map.mp hv with ⟨reason, hreason, rfl⟩
      exact (h.reasons reason hreason).auditSummary_supported
    have hrust : ((file.rustCriticality.map RustShadow.auditSummary).getD .none).Supported := by
      cases hr : file.rustCriticality with
      | none => trivial
      | some shadow => exact (h.rustCriticality shadow hr).auditSummary_supported
    simp only [List.forall_mem_cons, List.not_mem_nil, IsEmpty.forall_iff, implies_true, and_true,
      supported_strOrNone, supported_intOrNone, hreasons, hrust]
    simp [PyValue.Supported]

theorem RiskReport.Canonical.auditSummary_supported {report : RiskReport} (h : report.Canonical) :
    report.auditSummary.Supported := by
  apply supported_strEntries
  · simp
  · have hcounts : report.riskCounts.Supported := by
      apply supported_strEntries
      · simp [RiskLevel.value]
      · simp [PyValue.Supported]
    have hfiles : (PyValue.tuple (report.files.map FileRisk.auditSummary)).Supported := by
      rw [PyValue.Supported, supportedItems_iff]
      intro v hv
      rcases List.mem_map.mp hv with ⟨file, hfile, rfl⟩
      exact (h.files file hfile).auditSummary_supported
    have hreasons : (PyValue.tuple (report.reportReasons.map RiskReason.auditSummary)).Supported := by
      rw [PyValue.Supported, supportedItems_iff]
      intro v hv
      rcases List.mem_map.mp hv with ⟨reason, hreason, rfl⟩
      exact (h.reportReasons reason hreason).auditSummary_supported
    simp only [List.forall_mem_cons, List.not_mem_nil, IsEmpty.forall_iff, implies_true, and_true,
      hcounts, hfiles, hreasons]
    simp [PyValue.Supported]

/-! ## Equality of reports -/

/-- `==` of classified reasons, their evidence compared as pairs. -/
structure RiskReason.Equal (a b : RiskReason) : Prop where
  fields : { a with evidence := [] } = { b with evidence := [] }
  evidence : List.Forall₂ (fun e f => e.1 = f.1 ∧ PyValue.pyEq e.2 f.2 = true) a.evidence b.evidence

structure RustShadow.Equal (a b : RustShadow) : Prop where
  fields : { a with semanticMetrics := none } = { b with semanticMetrics := none }
  semanticMetrics : Option.Rel (fun m n => PyValue.pyEq (.dict m) (.dict n) = true)
    a.semanticMetrics b.semanticMetrics

structure FileRisk.Equal (a b : FileRisk) : Prop where
  fields : { a with reasons := [], rustCriticality := none } =
    { b with reasons := [], rustCriticality := none }
  reasons : List.Forall₂ RiskReason.Equal a.reasons b.reasons
  rustCriticality : Option.Rel RustShadow.Equal a.rustCriticality b.rustCriticality

/-- `==` of risk reports. -/
structure RiskReport.Equal (a b : RiskReport) : Prop where
  baselineCommitSha : a.baselineCommitSha = b.baselineCommitSha
  patchSha256 : a.patchSha256 = b.patchSha256
  files : List.Forall₂ FileRisk.Equal a.files b.files
  reportReasons : List.Forall₂ RiskReason.Equal a.reportReasons b.reportReasons

theorem forall₂_map_self {α : Type} {R : α → α → Prop} {f : α → α} {xs : List α}
    (h : ∀ x ∈ xs, R (f x) x) : List.Forall₂ R (xs.map f) xs := by
  rw [List.forall₂_map_left_iff]
  exact List.forall₂_same.mpr h

theorem RiskReason.Canonical.sorted_equal {reason : RiskReason} (h : reason.Canonical) :
    reason.sorted.Equal reason := by
  constructor
  · rfl
  · apply forall₂_map_self
    intro e he
    exact ⟨rfl, PyValue.pyEq_sorted e.2 (h.supported e he)⟩

theorem RustShadow.Canonical.sorted_equal {shadow : RustShadow} (h : shadow.Canonical) :
    shadow.sorted.Equal shadow := by
  constructor
  · rfl
  · unfold RustShadow.Canonical at h
    unfold RustShadow.sorted
    dsimp only
    cases hm : shadow.semanticMetrics with
    | none => exact .none
    | some metrics =>
      have heq := PyValue.pyEq_sorted (.dict metrics) (h metrics hm)
      exact .some heq

theorem FileRisk.Canonical.sorted_equal {file : FileRisk} (h : file.Canonical) :
    file.sorted.Equal file := by
  constructor
  · rfl
  · exact forall₂_map_self fun reason hreason => (h.reasons reason hreason).sorted_equal
  · unfold FileRisk.sorted
    dsimp only
    cases hr : file.rustCriticality with
    | none => exact .none
    | some shadow => exact .some (h.rustCriticality shadow hr).sorted_equal

/-- A report in the order of its keys is equal to the report. -/
theorem RiskReport.Canonical.sorted_equal {report : RiskReport} (h : report.Canonical) :
    report.sorted.Equal report := by
  constructor
  · rfl
  · rfl
  · exact forall₂_map_self fun file hfile => (h.files file hfile).sorted_equal
  · exact forall₂_map_self fun reason hreason => (h.reportReasons reason hreason).sorted_equal

/-! ## Persisted artifacts -/

/-- What the artifact of a call holds of its patch and of its report. -/
structure PatchArtifact.Holds (artifact : PatchArtifact) (call : PersistCall)
    (bytes : List UInt8) : Prop where
  patchBase64 : artifact.patchBase64 = String.ofList (Base64.encode bytes)
  encoded : encodePatch call.patchDiff.patch = .ok bytes
  patchSha256 : artifact.patchSha256 = call.patchDiff.patchSha256
  patchSizeBytes : artifact.patchSizeBytes = call.patchDiff.patchSizeBytes
  workspacePath : artifact.workspacePath = call.patchDiff.workspacePath
  baselineCommitSha : artifact.baselineCommitSha = call.patchDiff.baselineCommitSha
  files : artifact.files = call.patchDiff.files.map fileSummary
  ignoredFiles : artifact.ignoredFiles = call.patchDiff.ignoredFiles.map ignoredSummary
  riskSummary : encodeLosslessValue call.riskReport.auditSummary = .ok (.dict artifact.riskSummary)

theorem encode_dict {entries : List (PyValue × PyValue)} {w : Value}
    (h : encodeLosslessValue (.dict entries) = .ok w) : w = .dict (encodedEntries w) := by
  rw [encodeLosslessValue] at h
  split at h
  · have ⟨_, _, h⟩ := map_eq_ok.mp h
    rw [← h]
    rfl
  · have ⟨_, _, h⟩ := map_eq_ok.mp h
    rw [← h]
    rfl

section Persisting
variable [IsoDateTime] [Digest] [BytesDigest] [FloatText] [Conversions]
variable {repoIdentity : String → String} {answers : PersistAnswers} {call : PersistCall}

omit [IsoDateTime] [Conversions] in
theorem buildArtifact_eq_ok {artifact : PatchArtifact}
    (h : buildArtifact repoIdentity answers call = .ok artifact) :
    artifact.artifactId = answers.newArtifactId.text ∧
      ∃ bytes, artifact.Holds call bytes ∧
        BytesDigest.sha256 bytes = call.patchDiff.patchSha256 ∧
        (bytes.length : ℤ) = call.patchDiff.patchSizeBytes := by
  have ⟨_, _, h⟩ := bind_eq_ok.mp h
  have ⟨_, _, h⟩ := bind_eq_ok.mp h
  have ⟨_, _, h⟩ := bind_eq_ok.mp h
  have ⟨_, _, h⟩ := bind_eq_ok.mp h
  have ⟨bytes, hbytes, h⟩ := bind_eq_ok.mp h
  have ⟨_, hsha, h⟩ := bind_eq_ok.mp h
  have ⟨_, hsize, h⟩ := bind_eq_ok.mp h
  have ⟨_, _, h⟩ := bind_eq_ok.mp h
  have ⟨_, _, h⟩ := bind_eq_ok.mp h
  have ⟨risk, hrisk, h⟩ := bind_eq_ok.mp h
  have ⟨_, _, h⟩ := bind_eq_ok.mp h
  rw [raiseIf_eq_ok, decide_eq_false_iff_not, not_not] at hsha hsize
  cases h
  refine ⟨rfl, bytes, ?_, hsha, hsize⟩
  have hdict := encode_dict hrisk
  constructor <;> try rfl
  · exact hbytes
  · change _ = Except.ok (Value.dict (encodedEntries risk))
    rwa [← hdict]

/-- What `persist` wrote and how it read it back. -/
theorem persist_eq_ok {directory directory' : Directory} {now : ℤ} {loaded : PatchArtifact}
    (h : persist repoIdentity directory now answers call = .ok (loaded, directory')) :
    ∃ artifact file, buildArtifact repoIdentity answers call = .ok artifact ∧
      serialized artifact.toPayloadWithDigest = .ok file ∧
      directory' answers.newArtifactId.text = some file ∧
      load repoIdentity directory' now answers.newArtifactId.text true true = .ok loaded := by
  have ⟨artifact, hbuild, h⟩ := bind_eq_ok.mp h
  cases hfault : answers.fault with
  | some exc =>
    rw [hfault] at h
    cases h
  | none =>
    rw [hfault] at h
    have ⟨_, _, h⟩ := bind_eq_ok.mp h
    have ⟨file, hfile, h⟩ := bind_eq_ok.mp h
    have ⟨_, hload, h⟩ := bind_eq_ok.mp h
    have ⟨_, _, h⟩ := bind_eq_ok.mp h
    cases h
    exact ⟨artifact, file, hbuild, hfile, Function.update_self .., hload⟩

omit [IsoDateTime] [Digest] [BytesDigest] [Conversions] in
/-- The size of the file, without its text. -/
theorem serialized_eq (payload : Dict) : serialized payload =
    if maxPatchArtifactBytes < (Value.jsonRoundTrip (.dict payload)).textLength then
      .error (patchArtifactError "Serialized patch artifact exceeds the configured size limit.")
    else .ok (.regular (Value.jsonRoundTrip (.dict payload)).textLength
      (.parsed (Value.jsonRoundTrip (.dict payload)))) := by
  rw [serialized, Value.canonicalJson, Value.length_text]

/-- An artifact that can be read back from its payload is persisted. -/
theorem persist_of_bound {directory : Directory} {now : ℤ} {artifact loaded : PatchArtifact}
    (hbuild : buildArtifact repoIdentity answers call = .ok artifact)
    (hfault : answers.fault = none) (hnew : directory answers.newArtifactId.text = none)
    (hsize : (Value.jsonRoundTrip (.dict artifact.toPayloadWithDigest)).textLength ≤
      maxPatchArtifactBytes)
    (hload : loadPayload repoIdentity now answers.newArtifactId.text answers.newArtifactId.text
      true true (Value.jsonRoundTrip (.dict artifact.toPayloadWithDigest)) = .ok loaded)
    (hdigest : loaded.artifactDigest = artifact.artifactDigest) :
    ∃ directory', persist repoIdentity directory now answers call = .ok (loaded, directory') := by
  have hfile := serialized_eq artifact.toPayloadWithDigest
  rw [if_neg (Nat.not_lt.mpr hsize)] at hfile
  have hzero : (Value.jsonRoundTrip (.dict artifact.toPayloadWithDigest)).textLength ≠ 0 := by
    rw [Value.jsonRoundTrip, Value.textLength]
    exact Nat.succ_ne_zero _
  generalize (Value.jsonRoundTrip (.dict artifact.toPayloadWithDigest)).textLength = size
    at hfile hsize hzero
  have hread : readFile answers.newArtifactId.text (some (.regular size
      (.parsed (Value.jsonRoundTrip (.dict artifact.toPayloadWithDigest))))) =
        .ok (Value.jsonRoundTrip (.dict artifact.toPayloadWithDigest)) := by
    rw [readFile, if_neg (not_or.mpr ⟨hzero, Nat.not_lt.mpr hsize⟩)]
  let file := ArtifactFile.regular size
    (.parsed (Value.jsonRoundTrip (.dict artifact.toPayloadWithDigest)))
  let directory' := Function.update directory answers.newArtifactId.text (some file)
  have hwritten : directory' answers.newArtifactId.text = some file := Function.update_self ..
  have hagain : load repoIdentity directory' now answers.newArtifactId.text true true =
      .ok loaded := by
    refine bind_eq_ok.mpr ⟨_, requireIdentifier_hexId _ _, bind_eq_ok.mpr ⟨_, ?_, hload⟩⟩
    rw [readPayload, hwritten, hread]
  refine ⟨directory', bind_eq_ok.mpr ⟨artifact, hbuild, ?_⟩⟩
  rw [hfault, hnew]
  refine bind_eq_ok.mpr ⟨(), rfl, bind_eq_ok.mpr ⟨_, hfile, bind_eq_ok.mpr ⟨loaded, hagain, ?_⟩⟩⟩
  exact bind_eq_ok.mpr ⟨(), raiseIf_eq_ok.mpr (by simpa using hdigest), rfl⟩

omit [IsoDateTime] [Digest] [FloatText] in
/-- The artifact read back gives the patch whose text its bytes decode to. -/
theorem toPatchDiff_reread {artifact : PatchArtifact} {bytes : List UInt8}
    (h : artifact.Holds call bytes) (hsha : BytesDigest.sha256 bytes = call.patchDiff.patchSha256)
    (hsize : (bytes.length : ℤ) = call.patchDiff.patchSizeBytes) :
    artifact.reread.toPatchDiff = .ok { call.patchDiff with patch := Utf8.decode bytes } := by
  have hbytes : artifact.reread.patchBytes = .ok bytes := by
    change PatchArtifact.patchBytes artifact = _
    rw [PatchArtifact.patchBytes, h.patchBase64, String.toList_ofList, Base64.decode_encode]
  have hfiles : (call.patchDiff.files.map fun file => jsonDict (fileSummary file)).mapM
      fileOfSummary = .ok (call.patchDiff.files.map id) :=
    mapM_map_ok fun file _ => fileOfSummary_fileSummary file
  have hignored : (call.patchDiff.ignoredFiles.map fun path => jsonDict (ignoredSummary path)).mapM
      ignoredOfSummary = .ok (call.patchDiff.ignoredFiles.map id) :=
    mapM_map_ok fun path _ => ignoredOfSummary_ignoredSummary path
  rw [List.map_id] at hfiles hignored
  rw [PatchArtifact.toPatchDiff, hbytes]
  simp only [PatchArtifact.reread, h.patchSha256, h.patchSizeBytes, h.files, h.ignoredFiles,
    h.workspacePath, h.baselineCommitSha, List.map_map, Function.comp_def, bind, Except.bind,
    hfiles, hignored, hsha, hsize]
  simp [raiseIf, pure, Except.pure]

omit [IsoDateTime] [Digest] [BytesDigest] [FloatText] in
/-- The artifact read back gives the report in the order of its keys. -/
theorem toRiskReport_reread {artifact : PatchArtifact} {bytes : List UInt8}
    (h : artifact.Holds call bytes) (hreport : call.riskReport.Canonical) :
    artifact.reread.toRiskReport = .ok call.riskReport.sorted := by
  have ⟨w, hencode, hdecode⟩ := decode_jsonRoundTrip hreport.auditSummary_supported
  rw [h.riskSummary] at hencode
  cases hencode
  have ⟨summary, hsummary, hreads⟩ := riskReport_roundTrip hreport
  rw [Value.jsonRoundTrip, hsummary] at hdecode
  rw [PatchArtifact.toRiskReport]
  change (decodeLosslessValue (.dict (jsonDict artifact.riskSummary))).bind _ = _
  rw [jsonDict, hdecode]
  exact hreads

/-- What `mark_consumed` writes, and that it can be loaded. -/
theorem markConsumed_written {directory directory' : Directory} {now : ℤ} {artifactId : String}
    {consumedAt : String} {fault : Option PyException} {consumed : PatchArtifact}
    (hid : requireIdentifier artifactId "artifact ID" = .ok artifactId)
    (h : markConsumed repoIdentity directory now consumedAt artifactId fault =
      .ok (consumed, directory')) :
    ∃ before file, load repoIdentity directory now artifactId true true = .ok before ∧
      serialized (withIntegrityDigest { before with
        state := stateConsumed
        consumedAt := some consumedAt }).toPayloadWithDigest = .ok file ∧
      directory' = Function.update directory artifactId (some file) ∧
      load repoIdentity directory' now artifactId true true = .ok consumed := by
  have ⟨normalizedId, hid', h⟩ := bind_eq_ok.mp h
  rw [hid] at hid'
  cases hid'
  cases fault with
  | some exc => cases h
  | none =>
    have ⟨before, hbefore, h⟩ := bind_eq_ok.mp h
    have hname : before.artifactId = artifactId := by
      have ⟨normalizedId, _, hid', _, _, hname⟩ := load_eq_ok hbefore
      rw [hid] at hid'
      cases hid'
      exact hname
    have ⟨_, _, h⟩ := bind_eq_ok.mp h
    have ⟨file, hfile, h⟩ := bind_eq_ok.mp h
    have ⟨_, hagain, h⟩ := bind_eq_ok.mp h
    cases h
    rw [hname] at hagain ⊢
    exact ⟨before, file, hbefore, hfile, rfl, hagain⟩

/-- Marking an artifact as consumed rewrites its state, its time and its digest, and the file is
loaded as that artifact from then on. -/
theorem markConsumed_eq_ok {directory directory' : Directory} {now now' : ℤ} {artifactId : String}
    {consumedAt : String} {fault : Option PyException} {loaded consumed : PatchArtifact}
    (hid : requireIdentifier artifactId "artifact ID" = .ok artifactId)
    (hload : load repoIdentity directory now artifactId true true = .ok loaded)
    (hreread : loaded.reread = loaded)
    (h : markConsumed repoIdentity directory now' consumedAt artifactId fault =
      .ok (consumed, directory')) :
    load repoIdentity directory' now' artifactId true true = .ok consumed ∧
      { consumed with
        state := loaded.state
        consumedAt := loaded.consumedAt
        artifactDigest := loaded.artifactDigest } = loaded := by
  have ⟨before, file, hbefore, hfile, hdirectory, hagain⟩ := markConsumed_written hid h
  rw [load_anyTime hload now'] at hbefore
  cases hbefore
  subst hdirectory
  apply And.intro hagain
  have hsame := loaded_of_written hfile (Function.update_self ..) hid hagain
  generalize hmarked : withIntegrityDigest { loaded with
    state := stateConsumed
    consumedAt := some consumedAt } = marked at hsame
  have hdigest : marked = { loaded with
      state := stateConsumed
      consumedAt := some consumedAt
      artifactDigest := marked.artifactDigest } := by
    rw [← hmarked]
    rfl
  rw [hsame, hdigest]
  have hfields := loaded.reread_marked stateConsumed marked.artifactDigest (some consumedAt)
  rwa [hreread] at hfields

end Persisting

/-! ## Sample artifacts -/

namespace Sample

/-- The two times of the sample. -/
scoped instance isoDateTime : IsoDateTime where
  fromIsoFormat text :=
    if text = "2026-01-01T00:00:00+00:00".toList then some 1767225600000000
    else if text = "2026-01-01T01:00:00+00:00".toList then some 1767229200000000
    else none
  hasTimezone text := text.any (· == '+')

scoped instance digest : Digest :=
  ⟨fun _ => "2c26b46b68ffc68ff99b453c1d30413413422d706483bfa0f98a5e886266e7ae"⟩

/-- The digests of the two patches of the sample. -/
scoped instance bytesDigest : BytesDigest where
  sha256 bytes :=
    if bytes = [0xC3, 0xA9] then
      "4a99557e4033c3539de2eb65472017cad5f9557f7a0625a09f1c3f6e2ba69c4c"
    else "5d21b500103d21e1feb9c39daf830bec59d56fa5c55899d3ab5ec1f4e4239448"

scoped instance floatText : FloatText := ⟨fun _ => []⟩

/-- The sample converts no value of another type. -/
scoped instance conversions : Conversions where
  str _ := ""
  int _ := .error (typeError "")
  float _ := .error (typeError "")
  dict _ := .error (typeError "")
  iter _ := .error (typeError "")
  sortPairs pairs := .ok pairs
  jsonDict _ := .error (typeError "")
  jsonIter _ := .error (typeError "")

def patchDiff (bytes : List UInt8) (patch : Utf8.DecodedText) : PatchDiff where
  workspacePath := "/work/ws"
  baselineCommitSha := "4b825dc642cb6eb9a060e54bf8d69288fbee4904"
  patch := patch
  patchSha256 := BytesDigest.sha256 bytes
  patchSizeBytes := bytes.length
  files := [⟨"app.py", .modified, some 1, some 0, false, none, none, none, false⟩]
  ignoredFiles := []

def request (patchDiff : PatchDiff) : ApprovalRequest where
  approvalId := "apr_7d1f"
  createdAt := "2026-01-01T00:00:00+00:00"
  traceId := "trace_1f"
  requestedBy := "dev-1"
  agentId := "agent-1"
  environment := "dev"
  toolName := "guarded_workspace"
  action := some "approve_patch_apply"
  target := .str patchDiff.patchSha256
  policyId := some "guarded-workspace-risky-patch-approval"
  reason := "Patch is risky."
  severity := .medium
  riskAssessment := []
  metadata := [("baseline_commit_sha", .str patchDiff.baselineCommitSha)]
  contextPresent := by decide

def report (patchDiff : PatchDiff) : RiskReport where
  baselineCommitSha := patchDiff.baselineCommitSha
  patchSha256 := patchDiff.patchSha256
  files := [⟨"app.py", .modified, .medium,
    [⟨"source-change", .medium, "Source changed.", [("lines", .tuple [.int 1])]⟩],
    some 1, some 0, false, none, none, none, false, none⟩]
  reportReasons := []

def call (patchDiff : PatchDiff) : PersistCall where
  patchDiff := patchDiff
  runId := "run_1"
  traceId := "trace_1f"
  approvalRequest := request patchDiff
  trustedRepo := "/work/repo"
  riskReport := report patchDiff
  intentSummary := []
  ttlSeconds := 3600

def answers : PersistAnswers where
  isDirectory := true
  newArtifactId := ⟨"0123456789abcdef0123456789abcdef", by decide, by decide⟩
  createdAt := "2026-01-01T00:00:00+00:00"
  expiresAt := "2026-01-01T01:00:00+00:00"
  fault := none

def persisted (patchDiff : PatchDiff) : Except PyException (PatchArtifact × Directory) :=
  persist (fun _ => "identity") (fun _ => none) 1767225600000000 answers (call patchDiff)

theorem toOption_eq_some {α : Type} {result : Except PyException α} {value : α} :
    result.toOption = some value ↔ result = .ok value := by
  cases result <;> simp [Except.toOption]

/-- The artifact of a patch and how it is read back. -/
def reread (patchDiff : PatchDiff) : Option (PatchArtifact × PatchArtifact) := do
  let artifact ← (buildArtifact (fun _ => "identity") answers (call patchDiff)).toOption
  let payload := Value.jsonRoundTrip (.dict artifact.toPayloadWithDigest)
  if payload.textLength ≤ maxPatchArtifactBytes then
    let loaded ← (loadPayload (fun _ => "identity") 1767225600000000 answers.newArtifactId.text
      answers.newArtifactId.text true true payload).toOption
    return (artifact, loaded)
  else none

theorem persisted_of_reread {patchDiff : PatchDiff} (check : PatchArtifact → Bool)
    (h : (reread patchDiff).any (fun found =>
      found.2.artifactDigest = found.1.artifactDigest && check found.2) = true) :
    ∃ loaded directory', persisted patchDiff = .ok (loaded, directory') ∧ check loaded = true := by
  have ⟨found, hfound, hchecks⟩ := (Option.any_eq_true _ _).mp h
  rw [Bool.and_eq_true, decide_eq_true_eq] at hchecks
  obtain ⟨artifact, hartifact, hfound⟩ := Option.bind_eq_some_iff.mp hfound
  dsimp only at hfound
  split at hfound
  · rename_i hsize
    obtain ⟨loaded, hloaded, hfound⟩ := Option.bind_eq_some_iff.mp hfound
    cases hfound
    rw [toOption_eq_some] at hartifact hloaded
    have ⟨directory', hpersist⟩ : ∃ directory', persisted patchDiff = .ok (loaded, directory') :=
      persist_of_bound hartifact rfl rfl hsize hloaded hchecks.1
    exact ⟨loaded, directory', hpersist, hchecks.2⟩
  · cases hfound

theorem report_canonical (patchDiff : PatchDiff) : (report patchDiff).Canonical := by
  constructor
  · intro file hfile
    cases List.mem_singleton.mp hfile
    constructor
    · intro reason hreason
      cases List.mem_singleton.mp hreason
      constructor
      · exact List.pairwise_singleton ..
      · simp [PyValue.Supported, PyValue.SupportedItems]
    · intro shadow hshadow
      cases hshadow
  · intro reason hreason
    cases hreason

end Sample

end Rygnal.Artifact
