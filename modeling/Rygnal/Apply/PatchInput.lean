import Rygnal.Apply.Replay
import Rygnal.Apply.ApplyApproved

/-! # What `git apply` reads

The standard inputs of the two runs of `git apply` in a call, beside the bytes of the artifact
whose digest was approved.
-/

namespace Rygnal.Apply
open Rygnal.Core Rygnal.Core.PyException Rygnal.Library Rygnal.Library.PyText Rygnal.Library.Utf8
  Rygnal.ChangeRisk Rygnal.Approval Rygnal.Artifact Rygnal.Interceptor

/-! ## Calls with their standard inputs -/

/-- `_check_patch_applies` or `_apply_patch` with the standard input of its process, when it
comes to start one. -/
def gitApplyInput (command : String) (patch : DecodedText) (answer : GitAnswer) :
    List (List UInt8) × Except PyException Unit :=
  match encodeStrict patch with
  | none => ([], .error unicodeEncodeError)
  | some bytes => ([bytes], (runGit command answer).map fun _ => ())

theorem gitApplyInput_snd (command : String) (patch : DecodedText) (answer : GitAnswer) :
    (gitApplyInput command patch answer).2 = gitApply command patch answer := by
  rw [gitApplyInput, gitApply]
  cases encodeStrict patch <;> rfl

section Calls
variable [UnicodeTables] [Digest] [IsoTime]

/-- `apply_approved_patch` with the standard inputs of its runs of `git apply`. -/
def applyWithInputs (used : List ApprovalUseKey) (stores : ℕ → List AuditEvent)
    (answers : PatchAnswers) (call : ApplyCall) :
    List (List UInt8) × Except PyException ApprovedPatchApplyResult :=
  match admitApply used stores answers call with
  | .error exc => ([], .error exc)
  | .ok report =>
    let checked := gitApplyInput "apply --check --whitespace=error -" call.patchDiff.patch
      answers.checkApplies
    match checked.2 with
    | .error exc => (checked.1, .error exc)
    | .ok () =>
      let applied := gitApplyInput "apply --whitespace=error -" call.patchDiff.patch answers.apply
      match applied.2 with
      | .error exc => (checked.1 ++ applied.1, .error exc)
      | .ok () =>
        let result := applyResult call report
        let audited := auditOutcome (approvedPatchApplyEvent answers.ambient call result)
          answers.auditWrite
        (checked.1 ++ applied.1, match audited.2 with
          | some exc => .error exc
          | none => .ok result)

variable {used : List ApprovalUseKey} {stores : ℕ → List AuditEvent} {answers : PatchAnswers}
  {call : ApplyCall} {report : ChangeRiskReport}

/-- The inputs are those of `apply_approved_patch`. -/
theorem applyWithInputs_snd :
    (applyWithInputs used stores answers call).2 = applyApprovedPatch used stores answers call := by
  rw [applyWithInputs, applyApprovedPatch]
  cases admitApply used stores answers call with
  | error exc => rfl
  | ok report =>
    dsimp only
    have hcheck := gitApplyInput_snd "apply --check --whitespace=error -" call.patchDiff.patch
      answers.checkApplies
    have happly := gitApplyInput_snd "apply --whitespace=error -" call.patchDiff.patch answers.apply
    rw [hcheck, happly]
    change _ = checkPatchApplies call.patchDiff.patch answers.checkApplies >>= _
    rw [checkPatchApplies]
    cases gitApply "apply --check --whitespace=error -" call.patchDiff.patch
        answers.checkApplies with
    | error exc => rfl
    | ok _ =>
      change _ = applyPatch call.patchDiff.patch answers.apply >>= _
      rw [applyPatch]
      cases gitApply "apply --whitespace=error -" call.patchDiff.patch answers.apply with
      | error exc => rfl
      | ok _ => rfl

/-- An encoding that raises is the end of the call, before any process is started. -/
theorem applyWithInputs_of_none (hadmission : admitApply used stores answers call = .ok report)
    (h : encodeStrict call.patchDiff.patch = none) :
    applyWithInputs used stores answers call = ([], .error unicodeEncodeError) := by
  rw [applyWithInputs, hadmission]
  dsimp only
  rw [gitApplyInput, h]

/-- Every process reads the encoded patch, and at least one is started. -/
theorem applyWithInputs_of_some (hadmission : admitApply used stores answers call = .ok report)
    {bytes : List UInt8} (h : encodeStrict call.patchDiff.patch = some bytes) :
    (applyWithInputs used stores answers call).1 ≠ [] ∧
      ∀ input ∈ (applyWithInputs used stores answers call).1, input = bytes := by
  rw [applyWithInputs, hadmission]
  dsimp only
  rw [gitApplyInput, gitApplyInput, h]
  dsimp only
  split
  · simp
  · split <;> simp

/-! ## The bytes of the artifact -/

variable [BytesDigest] [Conversions] {artifact : PatchArtifact}

omit [UnicodeTables] [Digest] [IsoTime] [Conversions] in
/-- Some process was started, and each read the bytes of the artifact, whose digest is the one
that the approval names. -/
structure HandsPatchBytes (artifact : PatchArtifact) (inputs : List (List UInt8)) : Prop where
  started : inputs ≠ []
  exact : ∀ input ∈ inputs, artifact.patchBytes = .ok input ∧
    BytesDigest.sha256 input = artifact.patchSha256

omit [UnicodeTables] [Digest] [IsoTime] in
/-- What `to_patch_diff` decodes. -/
theorem toPatchDiff_eq_ok {patchDiff : PatchDiff} (h : artifact.toPatchDiff = .ok patchDiff) :
    ∃ bytes, artifact.patchBytes = .ok bytes ∧ BytesDigest.sha256 bytes = artifact.patchSha256 ∧
      patchDiff.patch = decode bytes ∧ patchDiff.patchSha256 = artifact.patchSha256 := by
  have ⟨bytes, hbytes, h⟩ := bind_eq_ok.mp h
  have ⟨_, hsha, h⟩ := bind_eq_ok.mp h
  have ⟨_, _, h⟩ := bind_eq_ok.mp h
  have ⟨files, _, h⟩ := bind_eq_ok.mp h
  have ⟨ignored, _, h⟩ := bind_eq_ok.mp h
  rw [raiseIf_eq_ok, decide_eq_false_iff_not, not_not] at hsha
  cases h
  exact ⟨bytes, hbytes, hsha, rfl, rfl⟩

/-- A call that passed its checks hands the approved bytes to `git apply` if and only if they are
valid UTF-8. -/
theorem handsPatchBytes_iff (hdiff : artifact.toPatchDiff = .ok call.patchDiff)
    (hadmission : admitApply used stores answers call = .ok report) :
    HandsPatchBytes artifact (applyWithInputs used stores answers call).1 ↔
      ∀ bytes, artifact.patchBytes = .ok bytes → IsUtf8 bytes := by
  have ⟨bytes, hbytes, hsha, hpatch, _⟩ := toPatchDiff_eq_ok hdiff
  constructor
  · intro h bytes' hbytes'
    rw [hbytes, Except.ok.injEq] at hbytes'
    subst hbytes'
    cases hencode : encodeStrict call.patchDiff.patch with
    | none => exact absurd (by rw [applyWithInputs_of_none hadmission hencode]) h.started
    | some encoded =>
      rw [hpatch] at hencode
      exact (encodeStrict_decode.mp hencode).2
  · intro h
    have hencode := encodeStrict_decode.mpr ⟨rfl, h bytes hbytes⟩
    rw [← hpatch] at hencode
    have ⟨hstarted, hinputs⟩ := applyWithInputs_of_some hadmission hencode
    constructor
    · exact hstarted
    · intro input hinput
      rw [hinputs input hinput]
      exact ⟨hbytes, hsha⟩

end Calls

/-! ## A patch of a Latin-1 file -/

namespace LatinPatch
open PyText.Ascii Rygnal.Apply.Sample

/-- The change of the only line of `app.py`. -/
def patchOf (blob : String) (content : List UInt8) : List UInt8 :=
  ("diff --git a/app.py b/app.py\n".toList ++ "index 587be6b..".toList ++ blob.toList ++
    " 100644\n--- a/app.py\n".toList ++ "+++ b/app.py\n@@ -1 +1 @@\n".toList ++
    "-x\n+".toList).map (fun c => UInt8.ofNat c.toNat) ++ content ++ [0x0A]

/-- The patch that writes `y`, and the one that writes `ÿ` in Latin-1. -/
def asciiPatch : List UInt8 := patchOf "975fbec" [0x79]

def latinPatch : List UInt8 := patchOf "29e181e" [0xFF]

/-- The digests of the two patches. -/
scoped instance bytesDigest : BytesDigest where
  sha256 bytes :=
    if 0xFF ∈ bytes then "5b91956d1ae6a954fd95c3f5f00598fb07205ead036cf222322bb769c0ee8fc6"
    else "3050bf1b38a2178cbc03f6d0449682ef9b0e81f6634879c959f61cd66ba8f6ec"

/-- The sample converts no value of another type. -/
scoped instance conversions : Conversions where
  str _ := ""
  int _ := .error (typeError "")
  float _ := .error (typeError "")
  dict _ := .error (typeError "")
  iter _ := .error (typeError "")
  sortPairs pairs := .ok pairs
  jsonDict _ := .error (typeError "")
  jsonIter _ := .error (typeError "")

def artifactOf (bytes : List UInt8) : PatchArtifact where
  schemaVersion := "1"
  artifactId := "0123456789abcdef0123456789abcdef"
  runId := "run_1"
  traceId := "trace_1f"
  approvalRequestId := "apr_7d1f"
  trustedRepoPath := "/work/repo"
  trustedRepoIdentitySha256 := "identity"
  baselineCommitSha := "4b825dc642cb6eb9a060e54bf8d69288fbee4904"
  workspacePath := "/work/ws"
  patchBase64 := String.ofList (Base64.encode bytes)
  patchSha256 := BytesDigest.sha256 bytes
  patchSizeBytes := bytes.length
  files := [[("path", .str "app.py"), ("kind", .str "modified"), ("additions", .int 1),
    ("deletions", .int 1)]]
  ignoredFiles := []
  riskSummary := []
  intentSummary := []
  createdAt := "2026-01-01T00:00:00+00:00"
  expiresAt := "2026-01-01T01:00:00+00:00"
  state := "PENDING_APPROVAL"
  consumedAt := none
  artifactDigest := ""

def diffOf (bytes : List UInt8) : PatchDiff where
  workspacePath := "/work/ws"
  baselineCommitSha := "4b825dc642cb6eb9a060e54bf8d69288fbee4904"
  patch := decode bytes
  patchSha256 := BytesDigest.sha256 bytes
  patchSizeBytes := bytes.length
  files := [⟨"app.py", .modified, some 1, some 1, false, none, none, none, false⟩]
  ignoredFiles := []

def requestOf (bytes : List UInt8) : ApprovalRequest :=
  { request "apr_7d1f" (by decide) with
    target := .str (BytesDigest.sha256 bytes)
    contextPresent := (request "apr_7d1f" (by decide)).contextPresent }

def decisionOf (bytes : List UInt8) : ApprovalDecision :=
  patchDecision (requestOf bytes) true "lead-1" "fine" "2026-01-01T00:05:00+00:00"

def callOf (bytes : List UInt8) : ApplyCall where
  patchDiff := diffOf bytes
  targetRepo := "/work/repo"
  approvalRequest := requestOf bytes
  approvalDecision := withReceipt (decisionOf bytes)
    ((calculateApprovalReceiptHash (requestOf bytes) (decisionOf bytes)).toOption.getD "")
  riskReport := some { report with patchSha256 := BytesDigest.sha256 bytes }
  logger := some ⟨0, true⟩

def patchAnswers : PatchAnswers where
  ambient := answers.ambient
  checks := answers.checks
  historyFault := none
  checkApplies := completed ""
  apply := completed ""
  auditWrite := .written

theorem toPatchDiff_artifactOf (bytes : List UInt8) :
    (artifactOf bytes).toPatchDiff = .ok (diffOf bytes) := by
  have hbytes : (artifactOf bytes).patchBytes = .ok bytes := by
    rw [PatchArtifact.patchBytes, artifactOf, String.toList_ofList, Base64.decode_encode]
  rw [PatchArtifact.toPatchDiff, hbytes]
  change raiseIf (BytesDigest.sha256 bytes ≠ BytesDigest.sha256 bytes) _ >>= _ = _
  rw [raiseIf, if_neg (by simp)]
  change raiseIf ((bytes.length : ℤ) ≠ bytes.length) _ >>= _ = _
  rw [raiseIf, if_neg (by simp)]
  rfl

theorem admitted_of_toBool {bytes : List UInt8}
    (h : (admitApply [] (fun _ => []) patchAnswers (callOf bytes)).toBool = true) :
    ∃ report, admitApply [] (fun _ => []) patchAnswers (callOf bytes) = .ok report := by
  cases hadmission : admitApply [] (fun _ => []) patchAnswers (callOf bytes) with
  | error exc =>
    rw [hadmission] at h
    cases h
  | ok report => exact ⟨report, rfl⟩

end LatinPatch

open LatinPatch PyText.Ascii Rygnal.Apply.Sample in
theorem asciiPatch_handed : HandsPatchBytes (artifactOf asciiPatch)
    (applyWithInputs [] (fun _ => []) patchAnswers (callOf asciiPatch)).1 := by
  have ⟨report, hadmission⟩ := @admitted_of_toBool asciiPatch (by decide +kernel)
  have hencode : encodeStrict (decode asciiPatch) = some asciiPatch := by decide +kernel
  apply (handsPatchBytes_iff (toPatchDiff_artifactOf asciiPatch) hadmission).mpr
  intro bytes hbytes
  have ⟨bytes', hbytes', _, hpatch, _⟩ := toPatchDiff_eq_ok (toPatchDiff_artifactOf asciiPatch)
  rw [hbytes, Except.ok.injEq] at hbytes'
  subst hbytes'
  change decode asciiPatch = decode bytes at hpatch
  have hinjective := congrArg encodeEscaped hpatch
  rw [encodeEscaped_decode, encodeEscaped_decode, Option.some.injEq] at hinjective
  rw [← hinjective]
  exact (encodeStrict_decode.mp hencode).2

open LatinPatch PyText.Ascii Rygnal.Apply.Sample in
/-- The approved change of a Latin-1 line is admitted, and the encoding of its patch raises. -/
theorem latinPatch_raises :
    (admitApply [] (fun _ => []) patchAnswers (callOf latinPatch)).toBool = true ∧
      applyWithInputs [] (fun _ => []) patchAnswers (callOf latinPatch) =
        ([], .error unicodeEncodeError) ∧
      ¬ HandsPatchBytes (artifactOf latinPatch)
        (applyWithInputs [] (fun _ => []) patchAnswers (callOf latinPatch)).1 := by
  have hbool : (admitApply [] (fun _ => []) patchAnswers (callOf latinPatch)).toBool = true := by
    decide
  have ⟨report, hadmission⟩ := admitted_of_toBool hbool
  have hencode : encodeStrict (callOf latinPatch).patchDiff.patch = none := by decide
  have hinputs := applyWithInputs_of_none hadmission hencode
  refine ⟨hbool, hinputs, ?_⟩
  rw [hinputs]
  exact fun h => h.started rfl

end Rygnal.Apply
