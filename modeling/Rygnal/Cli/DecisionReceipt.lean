import Rygnal.Cli.LocalApply
import Rygnal.Core.JsonText

/-! # Altered decision records

What `validateDecisionRecordForRun` makes of a decision record that was altered after it was
written. The receipt covers every field, but the schema tag selects whether it is checked.
-/

namespace Rygnal.Cli
open Rygnal.Core Rygnal.Library

section Receipts
variable [GoEncoding]

/-- The fields under the receipt. -/
def receiptPayload (decision : LocalDecisionRecord) : Dict :=
  [("schema", .str decision.schema), ("run_id", .str decision.runId),
    ("approval_id", .str decision.approvalId), ("status", .str decision.status),
    ("decided_at", .str decision.decidedAt), ("decided_by", .str decision.decidedBy),
    ("reason", .str decision.reason), ("patch_sha256", .str decision.patchSha256),
    ("baseline_commit_sha", .str decision.baselineCommitSha),
    ("engine_protocol_version", .str decision.engineProtocolVersion),
    ("rygnal_version", .str decision.rygnalVersion), ("authority", .str decision.authority),
    ("authority_synchronized", .bool decision.authoritySynchronized)]

theorem calculateLocalDecisionReceipt_eq (decision : LocalDecisionRecord) :
    calculateLocalDecisionReceipt decision =
      GoEncoding.sha256Hex (GoEncoding.marshal (receiptPayload decision)) := rfl

omit [GoEncoding] in
/-- A record is its receipt together with the fields under it. -/
theorem ext_receiptPayload {decision altered : LocalDecisionRecord}
    (hpayload : receiptPayload altered = receiptPayload decision)
    (hreceipt : altered.receiptSha256 = decision.receiptSha256) : altered = decision := by
  cases decision
  cases altered
  simp only [receiptPayload, List.cons.injEq, Prod.mk.injEq, true_and, Value.str.injEq,
    Value.bool.injEq, and_true] at hpayload
  simp_all

/-- A record under the second schema is accepted only with the receipt of its fields. -/
theorem receipt_of_validateDecisionAuthority {record : RunReviewRecord}
    {decision : LocalDecisionRecord} (h : validateDecisionAuthority record decision = .ok ()) :
    decision.receiptSha256 = calculateLocalDecisionReceipt decision := by
  simp only [validateDecisionAuthority, bind_eq_ok] at h
  obtain ⟨_, _, _, _, _, _, _, _, h⟩ := h
  have hchecks : ∃ u : Unit, refuseIf (decision.receiptSha256 ≠
      calculateLocalDecisionReceipt decision)
      ("decision receipt digest does not match record contents for run " ++ record.runId) =
        .ok u := by
    split_ifs at h
    · simp only [bind_eq_ok] at h
      obtain ⟨_, _, _, _, h⟩ := h
      exact ⟨(), h⟩
    · simp only [bind_eq_ok] at h
      obtain ⟨_, _, _, _, _, _, h⟩ := h
      exact ⟨(), h⟩
    · simp only [bind_eq_ok] at h
      obtain ⟨_, herror, _⟩ := h
      cases herror
  obtain ⟨u, hreceipt⟩ := hchecks
  rw [refuseIf_eq_ok, not_not] at hreceipt
  exact hreceipt

/-- The alteration is not a recomputation of the receipt. -/
def KeepsReceipt (decision altered : LocalDecisionRecord) : Prop :=
  altered.receiptSha256 = decision.receiptSha256 ∨
    altered.receiptSha256 ≠ calculateLocalDecisionReceipt altered

theorem receipt_ne_of_altered {decision altered : LocalDecisionRecord}
    (hmarshal : GoEncoding.marshal (receiptPayload altered) =
      GoEncoding.marshal (receiptPayload decision) →
        receiptPayload altered = receiptPayload decision)
    (hsha : GoEncoding.sha256Hex (GoEncoding.marshal (receiptPayload altered)) =
      GoEncoding.sha256Hex (GoEncoding.marshal (receiptPayload decision)) →
        GoEncoding.marshal (receiptPayload altered) = GoEncoding.marshal (receiptPayload decision))
    (hwritten : decision.receiptSha256 = calculateLocalDecisionReceipt decision)
    (haltered : altered ≠ decision) (hkeeps : KeepsReceipt decision altered) :
    altered.receiptSha256 ≠ calculateLocalDecisionReceipt altered := by
  rcases hkeeps with hsame | hother
  · intro h
    have hreceipts : calculateLocalDecisionReceipt altered =
        calculateLocalDecisionReceipt decision := by
      rw [← h, hsame, hwritten]
    exact haltered (ext_receiptPayload (hmarshal (hsha hreceipts)) hsame)
  · exact hother

/-! ## Written records -/

/-- What a decision command writes where no decision was. -/
structure Written (directory : RunDirectory) (record : RunReviewRecord)
    (decision : LocalDecisionRecord) : Prop where
  summary : directory.summary = some record
  unmarked : record.decisionInvalidReason = ""
  runId : decision.runId = record.runId
  patch : decision.patchSha256 = record.patch.sha256
  patchBound : decision.patchSha256 ≠ ""
  baseline : decision.baselineCommitSha = record.baseline
  baselineBound : decision.baselineCommitSha ≠ ""
  receipt : decision.receiptSha256 = calculateLocalDecisionReceipt decision

variable {directory : RunDirectory} {runId : String} {opts : DecisionOptions}
  {answers : DecisionAnswers} {decision : LocalDecisionRecord}

theorem written_of_runDecisionCommand (hmissing : directory.decision = .missing)
    (h : (runDecisionCommand directory runId opts answers).1.decision = .written decision) :
    ∃ record, Written (runDecisionCommand directory runId opts answers).1 record decision := by
  rw [runDecisionCommand] at h ⊢
  cases hadmission : admitDecision directory runId opts answers with
  | error message =>
    rw [hadmission] at h
    rw [hmissing] at h
    cases h
  | ok admitted =>
    simp only [hadmission, writeLocalDecisionRecord, hmissing, if_true] at h ⊢
    have hsame : decision = admitted := by
      cases houtcome : answers.recordWrite with
      | written =>
        rw [houtcome] at h
        exact (RecordFile.written.inj h).symm
      | failed left error =>
        rw [houtcome] at h
        cases left with
        | whole => exact (RecordFile.written.inj h).symm
        | _ => cases h
    subst hsame
    simp only [admitDecision, bind_eq_ok, refuseIf_eq_ok] at hadmission
    obtain ⟨_, _, _, _, read, hread, _, _, _, hunmarked, _, _, _, hbinding, synchronization, _,
      hdecision⟩ := hadmission
    simp only [validateReviewBindingForDecision, bind_eq_ok, refuseIf_eq_ok] at hbinding
    obtain ⟨_, hpatch, _, hbaseline, _⟩ := hbinding
    obtain rfl := Except.ok.inj hdecision
    cases hsummary : directory.summary with
    | none =>
      simp only [findRunReviewRecord, readRun, hsummary, Option.map_none] at hread
      cases hread
    | some record =>
      simp only [findRunReviewRecord, readRun, hsummary, Option.map_some, hmissing] at hread
      obtain rfl := Except.ok.inj hread
      exact ⟨record, rfl, not_not.mp hunmarked, rfl, rfl, hpatch, rfl, hbaseline, rfl⟩

/-- The directory with an altered decision record. -/
def alterDecision (directory : RunDirectory) (altered : LocalDecisionRecord) : RunDirectory :=
  { directory with decision := .written altered }

/-- The record is tagged with the first schema, and what is checked under that schema is kept or
still admissible. -/
structure Downgraded (decision altered : LocalDecisionRecord) : Prop where
  schema : altered.schema = localDecisionSchemaV1
  runId : altered.runId = decision.runId
  status : altered.status = "approved" ∨ altered.status = "rejected"
  patch : altered.patchSha256 = decision.patchSha256
  baseline : altered.baselineCommitSha = decision.baselineCommitSha

theorem validate_altered {record : RunReviewRecord} {altered : LocalDecisionRecord}
    (hwritten : Written directory record decision)
    (hreceipt : altered.receiptSha256 ≠ calculateLocalDecisionReceipt altered)
    {read : RunReviewRecord} (hread : readRun (alterDecision directory altered) = some read) :
    validateDecisionRecordForRun read = .ok () ↔ Downgraded decision altered := by
  simp only [readRun, alterDecision, hwritten.summary, Option.map_some, Option.some.injEq] at hread
  obtain rfl := hread
  have hpatch : record.patch.sha256 ≠ "" := hwritten.patch ▸ hwritten.patchBound
  have hbaseline : record.baseline ≠ "" := hwritten.baseline ▸ hwritten.baselineBound
  have hauthority : ∀ read : RunReviewRecord, validateDecisionAuthority read altered ≠ .ok () :=
    fun read h => hreceipt (receipt_of_validateDecisionAuthority h)
  simp only [validateDecisionRecordForRun, bind_eq_ok, refuseIf_eq_ok, hwritten.unmarked]
  constructor
  · rintro ⟨_, _, _, _, _, hrun, _, hstatus, _, _, _, hsha, _, _, _, hbase, hschema⟩
    split_ifs at hschema with htag
    · refine ⟨htag, ?_, ?_, ?_, ?_⟩
      · rw [hwritten.runId]
        exact not_not.mp hrun
      · tauto
      · rw [hwritten.patch]
        tauto
      · rw [hwritten.baseline]
        tauto
    · exact absurd hschema (hauthority _)
  · intro h
    have hrun := h.runId.trans hwritten.runId
    have hsha := h.patch.trans hwritten.patch
    have hbase := h.baseline.trans hwritten.baseline
    refine ⟨(), by simp, (), by simp [h.schema], (), by simp [hrun], (), ?_, (), ?_, (), ?_, (), ?_,
      (), ?_, ?_⟩
    · rcases h.status with hstatus | hstatus <;> simp [hstatus]
    · rw [hsha]
      exact hpatch
    · simp [hsha]
    · rw [hbase]
      exact hbaseline
    · simp [hbase]
    · rw [if_pos h.schema]

/-- An altered record whose receipt was not recomputed is refused unless it is tagged with the
first schema and passes the checks of that schema. -/
theorem altered_refused_iff {altered : LocalDecisionRecord} {record : RunReviewRecord}
    (hmarshal : ∀ first second : LocalDecisionRecord,
      GoEncoding.marshal (receiptPayload first) = GoEncoding.marshal (receiptPayload second) →
        receiptPayload first = receiptPayload second)
    (hsha : GoEncoding.sha256Hex (GoEncoding.marshal (receiptPayload altered)) =
      GoEncoding.sha256Hex (GoEncoding.marshal (receiptPayload decision)) →
        GoEncoding.marshal (receiptPayload altered) = GoEncoding.marshal (receiptPayload decision))
    (hmissing : directory.decision = .missing)
    (hwritten : (runDecisionCommand directory runId opts answers).1.decision = .written decision)
    (haltered : altered ≠ decision) (hkeeps : KeepsReceipt decision altered)
    (hread : findRunReviewRecord
      (alterDecision (runDecisionCommand directory runId opts answers).1 altered) runId =
        .ok record) :
    (∃ message, validateDecisionRecordForRun record = .error message) ↔
      ¬ Downgraded decision altered := by
  obtain ⟨summary, hsummary⟩ := written_of_runDecisionCommand hmissing hwritten
  have hreceipt := receipt_ne_of_altered (hmarshal altered decision) hsha hsummary.receipt haltered
    hkeeps
  have hfound : readRun (alterDecision (runDecisionCommand directory runId opts answers).1 altered) =
      some record := by
    rw [findRunReviewRecord] at hread
    cases hrun : readRun
        (alterDecision (runDecisionCommand directory runId opts answers).1 altered) with
    | none =>
      rw [hrun] at hread
      cases hread
    | some read =>
      rw [hrun] at hread
      rw [Except.ok.inj hread]
  rw [← validate_altered hsummary hreceipt hfound]
  cases validateDecisionRecordForRun record with
  | error message => simp
  | ok u => simp

end Receipts

/-! ## A rejected run -/

namespace RejectedRun

def patchSha : String := "5d21b500103d21e1feb9c39daf830bec59d56fa5c55899d3ab5ec1f4e4239448"

/-- A run whose patch waits for an approval. -/
def directory : RunDirectory where
  path := "runs/run-1"
  summary := some {
    runId := "run-1"
    requestId := "run-1"
    status := "approval_required"
    baseline := "4b825dc642cb6eb9a060e54bf8d69288fbee4904"
    patch := ⟨true, patchSha, ""⟩
    approval := ⟨true, "approval-1", patchSha⟩
    patchDigest := patchSha
    apply := none
    decision := none
    decisionInvalidReason := "" }
  patch := some "diff"
  decision := .missing
  applyRecord := .missing

def opts : DecisionOptions := ⟨false, "Not safe.", "dev", "rejected"⟩

def answers : DecisionAnswers :=
  ⟨"dev", "2026-01-01T00:00:00Z", "1.0.0", none, .written, .ok ()⟩

def rejected : LocalDecisionRecord where
  schema := localDecisionSchema
  runId := "run-1"
  approvalId := "approval-1"
  status := "rejected"
  decidedAt := "2026-01-01T00:00:00Z"
  decidedBy := "dev"
  reason := "Not safe."
  patchSha256 := patchSha
  baselineCommitSha := "4b825dc642cb6eb9a060e54bf8d69288fbee4904"
  engineProtocolVersion := protocolVersion
  rygnalVersion := "1.0.0"
  authority := "local"
  authoritySynchronized := false
  receiptSha256 := "82df65f7a3c84a435cf828ac610bf690796e1174767df4698eed300bcc87e9b6"

/-- The rejection turned into an approval. -/
def approved : LocalDecisionRecord := { rejected with status := "approved" }

/-- The approval under the first schema. -/
def downgraded : LocalDecisionRecord := { approved with schema := localDecisionSchemaV1 }

/-- The fields of a structure in their order, as compact JSON. -/
def fieldJson : Value → Json
  | .str text => .str text
  | .bool value => .bool value
  | _ => .null

def marshalFields (fields : Dict) : String :=
  String.ofList (Json.object (fields.map fun field => (field.1, fieldJson field.2))).text

/-- The digests of the three payloads. -/
def digest (text : String) : String :=
  if text = marshalFields (receiptPayload rejected) then
    "82df65f7a3c84a435cf828ac610bf690796e1174767df4698eed300bcc87e9b6"
  else if text = marshalFields (receiptPayload approved) then
    "701ca998e72d13e843721cc39ae7c74997924b49e8f67d81e46b86d333f25f50"
  else "27e7ea4b2d28f7340b70558f9ad6f374e8b177f0e6a2cc1adea381ed81fe3d10"

@[reducible]
def encoding : GoEncoding := ⟨digest, marshalFields, id⟩

theorem marshalFields_injective {first second : LocalDecisionRecord}
    (h : marshalFields (receiptPayload first) = marshalFields (receiptPayload second)) :
    receiptPayload first = receiptPayload second := by
  have htext := Json.text_injective (String.ofList_injective h)
  simp only [receiptPayload, List.map_cons, List.map_nil, fieldJson, Json.object.injEq,
    List.cons.injEq, Prod.mk.injEq, Json.str.injEq, Json.bool.injEq, true_and, and_true] at htext
  simp only [receiptPayload, List.cons.injEq, Prod.mk.injEq, Value.str.injEq, Value.bool.injEq,
    true_and, and_true]
  exact htext

/-- The command admits the rejection. -/
theorem admits [GoEncoding] : admitDecision directory "run-1" opts answers =
    .ok { rejected with receiptSha256 := calculateLocalDecisionReceipt rejected } := rfl

theorem digest_of_rejected {text : String} (h : text = marshalFields (receiptPayload rejected)) :
    digest text = "82df65f7a3c84a435cf828ac610bf690796e1174767df4698eed300bcc87e9b6" :=
  if_pos h

theorem digest_of_approved {text : String} (hne : text ≠ marshalFields (receiptPayload rejected))
    (h : text = marshalFields (receiptPayload approved)) :
    digest text = "701ca998e72d13e843721cc39ae7c74997924b49e8f67d81e46b86d333f25f50" :=
  (if_neg hne).trans (if_pos h)

theorem encoding_sha256Hex : encoding.sha256Hex = digest := rfl

theorem encoding_marshal : encoding.marshal = marshalFields := rfl

theorem receipt_rejected :
    @calculateLocalDecisionReceipt encoding rejected = rejected.receiptSha256 := by
  rw [@calculateLocalDecisionReceipt_eq encoding, encoding_sha256Hex, encoding_marshal,
    digest_of_rejected rfl, rejected]

theorem rejects : @runDecisionCommand encoding directory "run-1" opts answers =
    ({ directory with decision := .written rejected }, .ok ()) := by
  simp only [runDecisionCommand, admits, receipt_rejected]
  rfl

theorem written : (@runDecisionCommand encoding directory "run-1" opts answers).1.decision =
    .written rejected := by
  rw [rejects]

theorem digest_approved_ne : digest (marshalFields (receiptPayload approved)) ≠
    digest (marshalFields (receiptPayload rejected)) := by
  have hne : marshalFields (receiptPayload approved) ≠ marshalFields (receiptPayload rejected) :=
    fun hsame => absurd (marshalFields_injective hsame) (by decide)
  intro hdigest
  rw [digest_of_rejected rfl, digest_of_approved hne rfl] at hdigest
  exact absurd hdigest (by decide)

theorem approved_refused : ∃ message, @validateDecisionRecordForRun encoding
    { directory.summary.get rfl with decision := some approved } = .error message := by
  refine (@altered_refused_iff encoding directory "run-1" opts answers rejected approved
    { directory.summary.get rfl with decision := some approved } ?_ ?_ rfl written ?_ ?_ ?_).mpr ?_
  · exact fun first second => marshalFields_injective
  · intro h
    exact absurd h digest_approved_ne
  · decide
  · exact .inl rfl
  · rw [rejects]
    rfl
  · intro h
    exact absurd h.schema (by decide)

/-- The rejection that was turned into an approval under the first schema is accepted, with the
receipt of the rejection. -/
theorem downgraded_accepted :
    (@runDecisionCommand encoding directory "run-1" opts answers).1.decision = .written rejected ∧
      downgraded.receiptSha256 = rejected.receiptSha256 ∧ downgraded.status ≠ rejected.status ∧
      ((@findRunReviewRecord encoding
        (alterDecision (@runDecisionCommand encoding directory "run-1" opts answers).1 downgraded)
        "run-1") >>= @validateDecisionRecordForRun encoding) = .ok () := by
  rw [rejects]
  exact ⟨rfl, rfl, by decide, by decide⟩

end RejectedRun

end Rygnal.Cli
