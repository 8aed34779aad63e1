import Rygnal.Library.Transition
import Rygnal.Service.DecisionReplay

/-! # Decisions over the API

`api.py`: the generic approval endpoints and the patch approval endpoints write one queue. The
generic ones record a decision without the binding and the receipt that the apply path asks for,
and without the check of the operator.
-/

namespace Rygnal.Service
open Rygnal.Core Rygnal.Core.PyException Rygnal.Library Rygnal.Library.PyText Rygnal.Security
  Rygnal.Approval Rygnal.Artifact Rygnal.ChangeRisk Rygnal.Library.Transition

/-! ## Callers -/

/-- `ipaddress.ip_address(host).is_loopback`, `none` where it raises. -/
class IpAddress where
  isLoopback : String → Option Bool

/-- What `ApiRequestGuardMiddleware` and `require_patch_operator` read of the configuration. -/
structure ApiConfig where
  authRequired : Bool
  operatorToken : Option String

/-- The credentials of a request: its bearer credential, its `x-rygnal-operator-token` header and
the host of its client. -/
structure Caller where
  bearer : String
  operatorHeader : String
  host : String

/-- `hmac.compare_digest` of two texts, false where it raises. -/
def compareDigest (a b : String) : Bool :=
  (a ++ b).toList.all (fun c => c.toNat < 128) && a = b

/-- `_token_matches`. -/
def tokenMatches (candidate : String) (configured : Option String) : Bool :=
  let boundedCandidate := if candidate.length ≤ 4096 then candidate else ""
  configured.any fun token => token ≠ "" && compareDigest boundedCandidate token

/-- The middleware lets the request of the caller through. -/
def authenticated (config : ApiConfig) (caller : Caller) : Bool :=
  !config.authRequired || tokenMatches caller.bearer config.operatorToken

/-- `require_patch_operator`. -/
def requirePatchOperator [UnicodeTables] [IpAddress] (config : ApiConfig) (caller : Caller) :
    Bool :=
  match config.operatorToken.filter (· ≠ "") with
  | some token =>
    compareDigest (if caller.operatorHeader = "" then caller.bearer else caller.operatorHeader) token
  | none =>
    (IpAddress.isLoopback caller.host).getD (lower caller.host.toList = "localhost".toList)

/-! ## Requests -/

/-- The requests that write the queue. A directory is what the artifact store holds during the
call. -/
inductive ApiCall where
  | create (request : ApprovalRequest)
  | decide (approved : Bool) (approvalId decidedBy reason now : String)
  | decidePatch (approved : Bool) (call : DecisionCall) (directory : Directory)

structure ApiRequest where
  caller : Caller
  call : ApiCall

/-- The queue, with the decisions of pending approvals that requests of operators recorded. -/
structure ApiState where
  rows : ApprovalTable
  operatorDecisions : List (String × ApprovalDecision)

/-- The decision that a pending approval received between two states of the queue. -/
def newDecision (rows rows' : ApprovalTable) (approvalId : String) :
    List (String × ApprovalDecision) :=
  match SQLiteApprovalQueue.selectRow rows approvalId,
      SQLiteApprovalQueue.selectRow rows' approvalId with
  | some before, some after =>
    if before.status = .pending then after.decision.toList.map fun d => (approvalId, d) else []
  | _, _ => []

section Requests
variable [UnicodeTables] [IsoDateTime] [Digest] [BytesDigest] [FloatText] [Conversions] [IpAddress]

/-- One request of any caller. -/
def apiStep (config : ApiConfig) (engine : ApprovalAuthorizationEngine)
    (repoIdentity : String → String) : Step ApiState ApiRequest := fun s request =>
  if !authenticated config request.caller then some s
  else match request.call with
    | .create approval =>
      match SQLiteApprovalQueue.submit s.rows approval with
      | .ok rows => some { s with rows := rows }
      | .error _ => some s
    | .decide approved approvalId decidedBy reason now =>
      match SQLiteApprovalQueue.recordDecision engine s.rows approvalId
          (Approval.decide approvalId approved decidedBy reason now) with
      | .ok (_, rows) => some { s with rows := rows }
      | .error _ => some s
    | .decidePatch approved call directory =>
      if requirePatchOperator config request.caller then
        let rows := (decideArtifact approved engine repoIdentity directory s.rows call).2
        some ⟨rows, s.operatorDecisions ++ newDecision s.rows rows call.approvalId⟩
      else some s

/-! ## What an approved row must hold -/

/-- The binding and the receipt that `assert_patch_approval_granted` checks, for the patch that the
request names. -/
structure Grantable (request : ApprovalRequest) (decision : ApprovalDecision) : Prop where
  bound : ∃ sha baseline, request.target = .str sha ∧
    request.metadata.get "baseline_commit_sha" = some (.str baseline) ∧
    ∀ patchDiff : PatchDiff, patchDiff.patchSha256 = sha →
      patchDiff.baselineCommitSha = baseline →
        assertPatchApprovalBound request decision patchDiff = .ok ()
  granted : decision.status = .approved ∧ decision.approved = true
  receipt : assertApprovalReceiptValid request decision = .ok ()

/-- The approved row of an artifact holds a decision of an operator that can be applied. -/
def ApprovedByOperator (s : ApiState) (row : ApprovalRow) : Prop :=
  row.status = .approved → artifactIdFromRequest row.item ≠ none →
    ∃ decision, row.decision = some decision ∧ (row.approvalId, decision) ∈ s.operatorDecisions ∧
      Grantable row.request decision

structure Sound (s : ApiState) : Prop where
  unique : Table.Unique ApprovalRow.approvalId s.rows
  approved : ∀ row ∈ s.rows, ApprovedByOperator s row

/-! ## Receipts of stored decisions -/

/-- The binding and the receipt of an approval by the reviewer outlive their redaction in the
store. -/
structure Survives (request : ApprovalRequest) (decidedBy reason : String) : Prop where
  approvalId : redactSensitiveString request.approvalId = request.approvalId
  target : ∀ sha, request.target = .str sha → redactSensitiveString sha = sha
  baseline : ∃ baseline, request.metadata.get "baseline_commit_sha" = some (.str baseline) ∧
    isPresent baseline = true ∧ redactSensitiveString baseline = baseline
  decidedBy : redactDeep 2 (redactSensitiveString decidedBy) = redactDeep 2 decidedBy
  reason : redactDeep 2 (redactSensitiveString (redactSensitiveString reason)) =
    redactDeep 2 (redactSensitiveString reason)

omit [IsoDateTime] [Digest] [BytesDigest] [FloatText] [Conversions] [IpAddress] in
/-- The metadata that is read back of an approved patch decision. -/
theorem stored_metadata {request : ApprovalRequest} {decidedBy reason time sha baseline hash : String}
    (hboundary : boundBaseline request = [("baseline_commit_sha", baseline)])
    (hsha : redactSensitiveString sha = sha)
    (hbaseline : redactSensitiveString baseline = baseline)
    (hhash : redactSensitiveString hash = hash) :
    (decisionWith request decidedBy reason time sha (some hash)).stored.metadata =
      texts [(receiptHashKey, hash), (receiptSchemaVersionKey, receiptSchemaVersion),
        ("baseline_commit_sha", baseline), ("patch_sha256", sha)] := by
  have hversion : redactSensitiveString receiptSchemaVersion = receiptSchemaVersion :=
    redactSensitiveString_of_plain (by decide)
  have hpatchKey : isSensitiveKey "patch_sha256" = false := rfl
  have hbaselineKey : isSensitiveKey "baseline_commit_sha" = false := rfl
  have hschemaKey : isSensitiveKey receiptSchemaVersionKey = false := rfl
  have hhashKey : isSensitiveKey receiptHashKey = false := rfl
  change storedDict (texts (decisionTexts request sha (some hash))) = _
  simp only [decisionTexts, hboundary, receiptTexts, List.cons_append, List.nil_append, texts,
    List.map_cons, List.map_nil, storedDict, redactEntries, hpatchKey, hbaselineKey, hschemaKey,
    hhashKey, Bool.false_eq_true, if_false, redactSensitiveValue, hsha, hbaseline, hversion, hhash,
    Value.jsonRoundTripEntries, Value.jsonRoundTrip]
  simp [List.insertionSort, List.orderedInsert, receiptHashKey, receiptSchemaVersionKey]

omit [IsoDateTime] [Digest] [BytesDigest] [FloatText] [Conversions] [IpAddress] in
theorem stableJsonValue_bindings (depth : ℕ) (sha baseline : String) :
    stableJsonValue depth
        (.dict (texts [("baseline_commit_sha", baseline), ("patch_sha256", sha)])) =
      stableJsonValue depth
        (.dict (texts [("patch_sha256", sha), ("baseline_commit_sha", baseline)])) := by
  have hpatchKey : isSensitiveKey "patch_sha256" = false := rfl
  have hbaselineKey : isSensitiveKey "baseline_commit_sha" = false := rfl
  simp only [stableJsonValue, texts, List.map_cons, List.map_nil, stableEntries, hpatchKey,
    hbaselineKey, Bool.false_eq_true, if_false]
  simp [bind, Except.bind, pure, Except.pure, Except.map, sortEntries, List.insertionSort,
    List.orderedInsert]

omit [IsoDateTime] [Digest] [BytesDigest] [FloatText] [Conversions] [IpAddress] in
/-- Decisions whose fields are redacted to the same texts have one payload. -/
theorem decisionEntries_congr {d d' : ApprovalDecision} {x x' : String}
    (hid : d.approvalId = d'.approvalId)
    (hstatus : d.status = d'.status) (happroved : d.approved = d'.approved)
    (hby : d.decidedBy = some x) (hby' : d'.decidedBy = some x')
    (hsame : redactDeep 2 x = redactDeep 2 x')
    (hat : d.decidedAt = d'.decidedAt)
    (hreason : redactDeep 2 d.reason = redactDeep 2 d'.reason)
    (hmetadata : stableJsonValue 2 (.dict (receiptFreeMetadata d.metadata)) =
      stableJsonValue 2 (.dict (receiptFreeMetadata d'.metadata))) :
    stableEntries 1 (decisionEntries d) = stableEntries 1 (decisionEntries d') := by
  have hentry : ∀ (key : String) (x x' : Value), stableJsonValue 2 x = stableJsonValue 2 x' →
      stableEntry 1 key x = stableEntry 1 key x' := by
    intro key x x' h
    rw [stableEntry, stableEntry, h]
  have htext : ∀ s s' : String, redactDeep 2 s = redactDeep 2 s' →
      stableJsonValue 2 (.str s) = stableJsonValue 2 (.str s') := by
    intro s s' h
    rw [stableJsonValue, stableJsonValue, h]
  have hdecider : ∀ s : String, optionValue (some s) = .str s := fun _ => rfl
  simp only [decisionEntries, stableEntries_cons, hid, hstatus, happroved, hat, hby, hby',
    hdecider, hentry "decided_by" _ _ (htext _ _ hsame),
    hentry "reason" _ _ (htext _ _ hreason), hentry "metadata" _ _ hmetadata]

omit [IsoDateTime] [Digest] [BytesDigest] [FloatText] [Conversions] [IpAddress] in
theorem approvalReceiptPayload_congr {request : ApprovalRequest} {d d' : ApprovalDecision}
    (h : stableEntries 1 (decisionEntries d) = stableEntries 1 (decisionEntries d')) :
    approvalReceiptPayload request d = approvalReceiptPayload request d' := by
  have hentry : stableEntry 0 "decision" (.dict (decisionEntries d)) =
      stableEntry 0 "decision" (.dict (decisionEntries d')) := by
    rw [stableEntry, stableEntry, stableJsonValue, stableJsonValue, h]
  rw [approvalReceiptPayload_eq, approvalReceiptPayload_eq, stableJsonValue, stableJsonValue,
    payloadEntries, payloadEntries]
  simp only [stableEntries_cons, hentry]

omit [IsoDateTime] [BytesDigest] [FloatText] [Conversions] [IpAddress] in
/-- The payload of a stored approval is the one that was signed. -/
theorem receiptHash_stored {request : ApprovalRequest} {call : DecisionCall}
    {sha baseline hash : String} (htarget : request.target = .str sha)
    (hboundary : boundBaseline request = [("baseline_commit_sha", baseline)])
    (hsurvives : Survives request call.decidedBy call.reason)
    (hbaseline : redactSensitiveString baseline = baseline)
    (hhash : redactSensitiveString hash = hash) :
    calculateApprovalReceiptHash request (withoutReceiptMetadata
        (decisionWith request call.decidedBy call.reason call.clock.decided.text sha
          (some hash)).stored) =
      calculateApprovalReceiptHash request (unsignedDecision request call) := by
  have hsha := hsurvives.target sha htarget
  have hstored := @stored_metadata _ request call.decidedBy call.reason call.clock.decided.text sha
    baseline hash hboundary hsha hbaseline hhash
  have hfree : receiptFreeMetadata (receiptFreeMetadata
      (decisionWith request call.decidedBy call.reason call.clock.decided.text sha
        (some hash)).stored.metadata) =
        texts [("baseline_commit_sha", baseline), ("patch_sha256", sha)] := by
    rw [hstored]
    rfl
  have hunsigned : receiptFreeMetadata (unsignedDecision request call).metadata =
      texts [("patch_sha256", sha), ("baseline_commit_sha", baseline)] := by
    change receiptFreeMetadata (receiptFreeMetadata (decisionBindingMetadata request)) = _
    rw [decisionBindingMetadata_eq htarget, hboundary]
    rfl
  have htime : some (redactSensitiveString call.clock.decided.text) =
      some call.clock.decided.text := by
    rw [redactSensitiveString_of_plain call.clock.decided.iso_text]
  have hmetadata : stableJsonValue 2 (.dict (receiptFreeMetadata (receiptFreeMetadata
      (decisionWith request call.decidedBy call.reason call.clock.decided.text sha
        (some hash)).stored.metadata))) =
      stableJsonValue 2 (.dict (receiptFreeMetadata (unsignedDecision request call).metadata)) := by
    rw [hfree, hunsigned, stableJsonValue_bindings]
  have hentries := @decisionEntries_congr _ (withoutReceiptMetadata
      (decisionWith request call.decidedBy call.reason call.clock.decided.text sha
        (some hash)).stored) (unsignedDecision request call)
    (redactSensitiveString call.decidedBy) call.decidedBy hsurvives.approvalId rfl rfl rfl rfl
    hsurvives.decidedBy htime hsurvives.reason hmetadata
  rw [calculateApprovalReceiptHash, calculateApprovalReceiptHash,
    approvalReceiptPayload_congr hentries]

/-- What the digests of receipts look like. -/
def HexDigests : Prop :=
  ∀ text, Digest.sha256 text ≠ "" ∧ ∀ c ∈ (Digest.sha256 text).toList, c ∈ "0123456789abcdef".toList

omit [IsoDateTime] [BytesDigest] [FloatText] [Conversions] [IpAddress] in
/-- An approval that an operator's request builds can be granted once it is stored. -/
theorem grantable_stored {request : ApprovalRequest} {call : DecisionCall} {sha : String}
    {decision : ApprovalDecision} (hdigests : HexDigests)
    (hbuild : buildDecision true call request (some sha) = .ok decision)
    (hsurvives : Survives request call.decidedBy call.reason) :
    Grantable request decision.stored := by
  obtain ⟨htarget, hash, hsome, hsigned, rfl⟩ := buildDecision_eq_ok.mp hbuild
  obtain ⟨text, rfl⟩ := Option.isSome_iff_exists.mp hsome
  obtain ⟨baseline, hget, hpresent, hbaseline⟩ := hsurvives.baseline
  have hboundary : boundBaseline request = [("baseline_commit_sha", baseline)] := by
    rw [boundBaseline, hget]
    simp only [hpresent, if_true]
  have hcalculated := hsigned text rfl
  obtain ⟨payload, _, hdigest⟩ := map_eq_ok.mp hcalculated
  have hplain : redactSensitiveString text = text := by
    have hsub : ∀ c ∈ "0123456789abcdef".toList, c ∈ plainCharacters := by decide
    rw [← hdigest]
    exact redactSensitiveString_of_plain fun c hc => hsub c ((hdigests _).2 c hc)
  have hsha := hsurvives.target sha htarget
  have hstored := @stored_metadata _ request call.decidedBy call.reason call.clock.decided.text sha
    baseline text hboundary hsha hbaseline hplain
  refine ⟨⟨sha, baseline, htarget, hget, ?_⟩, ⟨rfl, rfl⟩, ?_⟩
  · intro patchDiff hpatch hcommit
    have hpatchKey : (texts [(receiptHashKey, text), (receiptSchemaVersionKey, receiptSchemaVersion),
        ("baseline_commit_sha", baseline), ("patch_sha256", sha)]).get "patch_sha256" =
          some (.str sha) := rfl
    have hbaselineKey : (texts [(receiptHashKey, text), (receiptSchemaVersionKey,
        receiptSchemaVersion), ("baseline_commit_sha", baseline), ("patch_sha256", sha)]).get
          "baseline_commit_sha" = some (.str baseline) := rfl
    have hallowed : (validateTransition .pending .approved).allowed = true := by decide
    have hstatus : (decisionWith request call.decidedBy call.reason call.clock.decided.text sha
        (some text)).stored.status = .approved := rfl
    have hdecisionId : (decisionWith request call.decidedBy call.reason call.clock.decided.text sha
        (some text)).stored.approvalId = request.approvalId := hsurvives.approvalId
    simp only [assertPatchApprovalBound, hstored, hpatchKey, hbaselineKey, htarget, hget, hpatch,
      hcommit, hstatus, hdecisionId, hallowed, ne_eq, not_true_eq_false, decide_false,
      Bool.not_true]
    rfl
  · have hverify : verifyApprovalReceipt request (decisionWith request call.decidedBy call.reason
        call.clock.decided.text sha (some text)).stored = .valid := by
      have hhashKey : (texts [(receiptHashKey, text), (receiptSchemaVersionKey,
          receiptSchemaVersion), ("baseline_commit_sha", baseline), ("patch_sha256", sha)]).get
            receiptHashKey = some (.str text) := rfl
      have hne : text ≠ "" := hdigest ▸ (hdigests _).1
      rw [verifyApprovalReceipt, hstored, hhashKey]
      simp only [if_neg hne]
      rw [receiptHash_stored htarget hboundary hsurvives hbaseline hplain, hcalculated]
      simp
    rw [assertApprovalReceiptValid, hverify]

/-! ## Steps -/

/-- The request cannot approve the patch of an artifact in a way that the apply path refuses. -/
def Safe (config : ApiConfig) (engine : ApprovalAuthorizationEngine) (s : ApiState)
    (request : ApiRequest) : Prop :=
  authenticated config request.caller = true →
    match request.call with
    | .create _ => True
    | .decide approved approvalId decidedBy reason now =>
      approved = true → ∀ row ∈ s.rows, row.approvalId = approvalId → row.status = .pending →
        artifactIdFromRequest row.item ≠ none →
          (engine.authorize row.request (Approval.decide approvalId true decidedBy reason now)
            .pending).allowed = false
    | .decidePatch approved call _ =>
      approved = true → requirePatchOperator config request.caller = true →
        ∀ row ∈ s.rows, row.approvalId = call.approvalId → row.status = .pending →
          artifactIdFromRequest row.item ≠ none →
            (∀ queued, SQLiteApprovalQueue.get s.rows call.approvalId = .ok queued →
              queued.request = row.request) ∧ Survives row.request call.decidedBy call.reason

omit [IsoDateTime] [BytesDigest] [FloatText] [Conversions] [IpAddress] in
theorem Sound.submit {s : ApiState} (h : Sound s) {request : ApprovalRequest}
    {rows : ApprovalTable} (hsubmit : SQLiteApprovalQueue.submit s.rows request = .ok rows) :
    Sound { s with rows := rows } := by
  rcases SQLiteApprovalQueue.submit_eq_ok hsubmit with ⟨rfl, _⟩ | ⟨rfl, hnone⟩
  · exact h
  · have hfresh : ∀ row ∈ s.rows, row.approvalId ≠ (ApprovalRow.inserted request).approvalId := by
      intro row hrow hkey
      have hselect : SQLiteApprovalQueue.selectRow s.rows request.approvalId = some row :=
        h.unique.selectOne_eq_some.mpr ⟨hrow, hkey⟩
      rw [hselect] at hnone
      cases hnone
    refine ⟨h.unique.insert hfresh, ?_⟩
    intro row hrow
    rcases Table.mem_insert.mp hrow with hrow | rfl
    · exact h.approved row hrow
    · intro hstatus
      cases hstatus

omit [IsoDateTime] [BytesDigest] [FloatText] [Conversions] [IpAddress] in
/-- A recorded decision keeps the invariant when it is one that an operator can apply. -/
theorem Sound.record {s : ApiState} (h : Sound s) {engine : ApprovalAuthorizationEngine}
    {approvalId : String} {decision : ApprovalDecision} {answer : QueuedApproval}
    {rows : ApprovalTable} {later : List (String × ApprovalDecision)}
    (hrecord : SQLiteApprovalQueue.recordDecision engine s.rows approvalId decision =
      .ok (answer, rows))
    (hdecision : ∀ row ∈ s.rows, row.approvalId = approvalId → row.status = .pending →
      (engine.authorize row.request decision .pending).allowed = true →
        decision.status = .approved → artifactIdFromRequest row.item ≠ none →
          (approvalId, decision.stored) ∈ later ∧ Grantable row.request decision.stored) :
    Sound ⟨rows, s.operatorDecisions ++ later⟩ := by
  have hkept : ∀ row ∈ s.rows, ApprovedByOperator ⟨rows, s.operatorDecisions ++ later⟩ row := by
    intro row hrow hstatus hartifact
    have ⟨d, hd, hmem, hgrant⟩ := h.approved row hrow hstatus hartifact
    exact ⟨d, hd, List.mem_append_left _ hmem, hgrant⟩
  obtain ⟨row, hselect, hid, ⟨_, _, rfl⟩ | ⟨hpending, _, hallowed, hs, rfl⟩⟩ :=
    SQLiteApprovalQueue.recordDecision_eq_ok hrecord
  · exact ⟨h.unique, hkept⟩
  have ⟨hmem, hkey⟩ := SQLiteApprovalQueue.selectRow_mem hselect
  refine ⟨h.unique.update fun _ _ => rfl, ?_⟩
  intro r hr
  rcases Table.mem_update.mp hr with ⟨hold, _⟩ | ⟨r', hr', hselected, rfl⟩
  · exact hkept r hold
  · have ⟨hkey', _⟩ := of_decide_eq_true hselected
    obtain rfl : r' = row := h.unique.eq_of_key hr' hmem (hkey'.trans hkey.symm)
    rw [hpending] at hallowed
    intro hstatus hartifact
    have ⟨hlater, hgrant⟩ := hdecision r' hr' hkey' hpending hallowed hstatus hartifact
    have hrowKey : (ApprovalRow.decided decision hs r').approvalId = approvalId := hkey'
    refine ⟨decision.stored, rfl, ?_, hgrant⟩
    rw [hrowKey]
    exact List.mem_append_right _ hlater

omit [IpAddress] in
/-- The rows that a patch decision leaves, whether it is reported or not. -/
theorem recordArtifactDecision_rows {engine : ApprovalAuthorizationEngine}
    {repoIdentity : String → String} {directory : Directory} {rows : ApprovalTable}
    {call : DecisionCall} {allowExpired allowConsumed : Bool}
    {build : ApprovalRequest → Option String → Except PyException ApprovalDecision} :
    (recordArtifactDecision engine repoIdentity directory rows call allowExpired allowConsumed
        build).2 = rows ∨
      ∃ decision answer, preparedDecision repoIdentity directory rows call allowExpired
          allowConsumed build = .ok decision ∧
        SQLiteApprovalQueue.recordDecision engine rows call.approvalId decision =
          .ok (answer, (recordArtifactDecision engine repoIdentity directory rows call allowExpired
            allowConsumed build).2) := by
  unfold recordArtifactDecision
  cases preparedDecision repoIdentity directory rows call allowExpired allowConsumed build with
  | error exc => exact .inl rfl
  | ok decision =>
    cases hrecord : SQLiteApprovalQueue.recordDecision engine rows call.approvalId decision with
    | error error =>
      simp only [hrecord]
      exact .inl trivial
    | ok result =>
      have ⟨updated, rows'⟩ := result
      simp only [hrecord]
      exact .inr ⟨decision, updated, rfl, hrecord⟩

omit [UnicodeTables] [IsoDateTime] [Digest] [BytesDigest] [FloatText] [Conversions] [IpAddress] in
/-- The decision of a pending row is listed for it. -/
theorem mem_newDecision {rows rows' : ApprovalTable} {approvalId : String} {row after : ApprovalRow}
    {decision : ApprovalDecision} (hrow : SQLiteApprovalQueue.selectRow rows approvalId = some row)
    (hpending : row.status = .pending)
    (hafter : SQLiteApprovalQueue.selectRow rows' approvalId = some after)
    (hdecision : after.decision = some decision) :
    (approvalId, decision) ∈ newDecision rows rows' approvalId := by
  rw [newDecision, hrow, hafter]
  simp [hpending, hdecision]

omit [IpAddress] in
/-- A patch decision of an operator keeps the invariant. -/
theorem Sound.decidePatch {s : ApiState} (h : Sound s) (hdigests : HexDigests) {approved : Bool}
    {engine : ApprovalAuthorizationEngine} {repoIdentity : String → String} {directory : Directory}
    {call : DecisionCall}
    (hsafe : approved = true → ∀ row ∈ s.rows, row.approvalId = call.approvalId →
      row.status = .pending → artifactIdFromRequest row.item ≠ none →
        (∀ queued, SQLiteApprovalQueue.get s.rows call.approvalId = .ok queued →
          queued.request = row.request) ∧ Survives row.request call.decidedBy call.reason) :
    Sound ⟨(decideArtifact approved engine repoIdentity directory s.rows call).2,
      s.operatorDecisions ++ newDecision s.rows
        (decideArtifact approved engine repoIdentity directory s.rows call).2 call.approvalId⟩ := by
  rw [decideArtifact_eq]
  rcases recordArtifactDecision_rows with hrows | ⟨decision, answer, hprepared, hrecord⟩
  · rw [hrows]
    refine ⟨h.unique, ?_⟩
    intro row hrow hstatus hartifact
    have ⟨d, hd, hmem, hgrant⟩ := h.approved row hrow hstatus hartifact
    exact ⟨d, hd, List.mem_append_left _ hmem, hgrant⟩
  have ⟨queued, artifact, hqueued, _, hbuild⟩ := preparedDecision_eq_ok.mp hprepared
  apply h.record hrecord
  intro row hrow hkey hpending hallowed hstatus hartifact
  have hselect : SQLiteApprovalQueue.selectRow s.rows call.approvalId = some row :=
    h.unique.selectOne_eq_some.mpr ⟨hrow, hkey⟩
  cases approved with
  | false =>
    obtain ⟨_, hash, hnone, _, rfl⟩ := buildDecision_eq_ok.mp hbuild
    rw [Option.isSome_eq_false_iff, Option.isNone_iff_eq_none] at hnone
    subst hnone
    cases hstatus
  | true =>
    have ⟨hsame, hsurvives⟩ := hsafe rfl row hrow hkey hpending hartifact
    rw [hsame queued hqueued] at hbuild
    refine ⟨?_, grantable_stored hdigests hbuild hsurvives⟩
    obtain ⟨r, hr, _, ⟨hterminal, _⟩ | ⟨_, _, _, hs, hupdated⟩⟩ :=
      SQLiteApprovalQueue.recordDecision_eq_ok hrecord
    · rw [hselect, Option.some.injEq] at hr
      exact absurd (hr ▸ hpending) hterminal
    · have hafter : SQLiteApprovalQueue.selectRow (s.rows.update (SQLiteApprovalQueue.pendingRow
          call.approvalId) (ApprovalRow.decided decision hs)) call.approvalId =
            some (ApprovalRow.decided decision hs row) := by
        have hunique := h.unique.update (p := SQLiteApprovalQueue.pendingRow call.approvalId)
          (f := ApprovalRow.decided decision hs) fun _ _ => rfl
        have hpendingRow : SQLiteApprovalQueue.pendingRow call.approvalId row = true := by
          simp [SQLiteApprovalQueue.pendingRow, hkey, hpending]
        exact hunique.selectOne_eq_some.mpr ⟨Table.mem_update_image hrow hpendingRow, hkey⟩
      rw [hupdated]
      exact mem_newDecision hselect hpending hafter rfl

variable {config : ApiConfig} {engine : ApprovalAuthorizationEngine} {repoIdentity : String → String}

/-- A safe request keeps the invariant. -/
theorem apiStep_sound (hdigests : HexDigests) {s t : ApiState} {request : ApiRequest}
    (h : Sound s) (hsafe : Safe config engine s request)
    (hstep : apiStep config engine repoIdentity s request = some t) : Sound t := by
  unfold apiStep at hstep
  cases hauth : authenticated config request.caller with
  | false =>
    rw [hauth] at hstep
    cases hstep
    exact h
  | true =>
    have hsafe := hsafe hauth
    rw [hauth] at hstep
    simp only [Bool.not_true, Bool.false_eq_true, if_false] at hstep
    cases hcall : request.call with
    | create approval =>
      rw [hcall] at hstep
      cases hsubmit : SQLiteApprovalQueue.submit s.rows approval with
      | error error =>
        simp only [hsubmit] at hstep
        cases hstep
        exact h
      | ok rows =>
        simp only [hsubmit] at hstep
        cases hstep
        exact h.submit hsubmit
    | decide approved approvalId decidedBy reason now =>
      rw [hcall] at hstep hsafe
      cases hrecord : SQLiteApprovalQueue.recordDecision engine s.rows approvalId
          (Approval.decide approvalId approved decidedBy reason now) with
      | error error =>
        simp only [hrecord] at hstep
        cases hstep
        exact h
      | ok result =>
        have ⟨answer, rows⟩ := result
        simp only [hrecord] at hstep
        cases hstep
        have hsound : Sound ⟨rows, s.operatorDecisions ++ []⟩ := by
          apply h.record hrecord
          intro row hrow hkey hpending hallowed hstatus hartifact
          cases approved with
          | false => cases hstatus
          | true =>
            rw [hsafe rfl row hrow hkey hpending hartifact] at hallowed
            cases hallowed
        rwa [List.append_nil] at hsound
    | decidePatch approved call directory =>
      rw [hcall] at hstep hsafe
      cases hoperator : requirePatchOperator config request.caller with
      | false =>
        simp only [hoperator, Bool.false_eq_true, if_false] at hstep
        cases hstep
        exact h
      | true =>
        simp only [hoperator, if_true] at hstep
        cases hstep
        exact h.decidePatch hdigests fun happroved => hsafe happroved hoperator

omit [UnicodeTables] [IsoDateTime] [Digest] [BytesDigest] [FloatText] [Conversions] [IpAddress] in
/-- A decision without the digest of the patch is refused for every patch. -/
theorem patchSha256_of_bound {request : ApprovalRequest} {decision : ApprovalDecision}
    {patchDiff : PatchDiff} (h : assertPatchApprovalBound request decision patchDiff = .ok ()) :
    decision.metadata.get "patch_sha256" = some (.str patchDiff.patchSha256) := by
  have ⟨_, _, h⟩ := bind_eq_ok.mp h
  have ⟨_, _, h⟩ := bind_eq_ok.mp h
  have ⟨_, _, h⟩ := bind_eq_ok.mp h
  have ⟨_, hdigest, _⟩ := bind_eq_ok.mp h
  have hraise := raiseIf_eq_ok.mp hdigest
  simpa using hraise

end Requests

/-! ## Sample requests -/

namespace OperatorRuns
open Sample Rygnal.Artifact.Sample PyText.Ascii

instance : IpAddress where
  isLoopback host := if host = "127.0.0.1" then some true else none

def config : ApiConfig := ⟨true, some "operator-token"⟩

def operator : Caller := ⟨"operator-token", "", "10.0.0.7"⟩

/-- The request of a patch, with its boundary. -/
def boundRequest : ApprovalRequest :=
  { patchRequest with
    metadata := [("artifact_id", .str "0123456789abcdef0123456789abcdef"),
      ("baseline_commit_sha", .str "4b825dc642cb6eb9a060e54bf8d69288fbee4904")] }

def created : ApiRequest := ⟨operator, .create boundRequest⟩

def patchApproved : ApiRequest := ⟨operator, .decidePatch true (decisionCall "lead-1") artifacts⟩

def genericApproved : ApiRequest :=
  ⟨operator, .decide true "apr_7d1f" "lead-1" "reviewed." "2026-01-01T00:10:00+00:00"⟩

def serve (requests : List ApiRequest) : Option ApiState :=
  run (apiStep config ⟨[], []⟩ fun _ => "identity") ⟨[], []⟩ requests

theorem boundRequest_survives :
    Survives (ApprovalRow.inserted boundRequest).request "lead-1" "reviewed." := by
  have hreason : redactSensitiveString "reviewed." = "reviewed." :=
    redactSensitiveString_of_plain (by decide +kernel)
  have hdecider : redactSensitiveString "lead-1" = "lead-1" :=
    redactSensitiveString_of_plain (by decide +kernel)
  constructor
  · exact redactSensitiveString_of_plain (by decide +kernel)
  · intro sha hsha
    cases hsha
    exact redactSensitiveString_of_plain (by decide +kernel)
  · have hget : (ApprovalRow.inserted boundRequest).request.metadata.get "baseline_commit_sha" =
        some (.str "4b825dc642cb6eb9a060e54bf8d69288fbee4904") := by decide +kernel
    exact ⟨_, hget, by decide +kernel, redactSensitiveString_of_plain (by decide +kernel)⟩
  · rw [hdecider]
  · rw [hreason, hreason]

theorem hexDigests : HexDigests := by
  intro text
  change "2c26b46b68ffc68ff99b453c1d30413413422d706483bfa0f98a5e886266e7ae" ≠ "" ∧
    ∀ c ∈ "2c26b46b68ffc68ff99b453c1d30413413422d706483bfa0f98a5e886266e7ae".toList, _
  decide +kernel

theorem patchApproved_safe : Meets (apiStep config ⟨[], []⟩ fun _ => "identity")
    (Safe config ⟨[], []⟩) ⟨[], []⟩ [created, patchApproved] := by
  refine ⟨fun _ => trivial, ?_⟩
  intro t ht
  have hstep : apiStep config ⟨[], []⟩ (fun _ => "identity") ⟨[], []⟩ created =
      some ⟨[ApprovalRow.inserted boundRequest], []⟩ := rfl
  rw [hstep] at ht
  cases ht
  refine ⟨?_, fun _ _ => trivial⟩
  intro _ _ _ row hrow _ _ _
  rw [List.mem_singleton] at hrow
  subst hrow
  refine ⟨?_, boundRequest_survives⟩
  intro queued hqueued
  have hget : SQLiteApprovalQueue.get [ApprovalRow.inserted boundRequest] "apr_7d1f" =
      .ok (ApprovalRow.inserted boundRequest).item := by decide +kernel
  cases hqueued.symm.trans hget
  rfl

end OperatorRuns

end Rygnal.Service
