import Rygnal.Approval.ReceiptPayload
import Rygnal.Artifact.Storage
import Rygnal.Service.ApprovalService

/-! # The same decision twice

A second call of `approve` or `reject` on the rows that the first one left. It meets a decided
row, and whether it is taken as a repetition is decided by `_same_terminal_decision`.
-/

namespace Rygnal.Service
open Rygnal.Core Rygnal.Core.PyException Rygnal.Library Rygnal.Library.PyText Rygnal.Security
  Rygnal.Approval Rygnal.Artifact Rygnal.ChangeRisk

/-! ## Rows after a decision -/

section Rows

/-- Items that hold the same requests. -/
def SameRequests (items items' : Items) : Prop :=
  ∀ key, (PyDict.get items key).map QueuedApproval.request =
    (PyDict.get items' key).map QueuedApproval.request

theorem SameRequests.foldl {rows : ApprovalTable} {update : ApprovalRow → ApprovalRow}
    (hupdate : ∀ row, (update row).request = row.request) {items items' : Items}
    (h : SameRequests items items') :
    SameRequests (rows.foldl (fun acc row => acc.set row.request.approvalId row.item) items)
      ((rows.map update).foldl (fun acc row => acc.set row.request.approvalId row.item) items') := by
  induction rows generalizing items items' with
  | nil => exact h
  | cons row rows ih =>
    rw [List.map_cons, List.foldl_cons, List.foldl_cons]
    apply ih
    intro key
    rw [PyDict.get_set, PyDict.get_set, hupdate row]
    split
    · exact congrArg some (hupdate row).symm
    · exact h key

variable [UnicodeTables]

/-- Deciding a row changes no request that the queue returns. -/
theorem get_decided {rows : ApprovalTable} {approvalId key : String} {decision : ApprovalDecision}
    {hs : decision.status ≠ .pending} {queued : QueuedApproval}
    (h : SQLiteApprovalQueue.get rows key = .ok queued) :
    ∃ queued', SQLiteApprovalQueue.get (rows.update (SQLiteApprovalQueue.pendingRow approvalId)
        (ApprovalRow.decided decision hs)) key = .ok queued' ∧
      queued'.request = queued.request := by
  have hupdate : ∀ row : ApprovalRow, (if SQLiteApprovalQueue.pendingRow approvalId row then
      ApprovalRow.decided decision hs row else row).request = row.request := by
    intro row
    split <;> rfl
  have hsame : SameRequests (SQLiteApprovalQueue.loadItems rows) (SQLiteApprovalQueue.loadItems
      (rows.update (SQLiteApprovalQueue.pendingRow approvalId)
        (ApprovalRow.decided decision hs))) := SameRequests.foldl hupdate fun _ => rfl
  have hget : PyDict.get (SQLiteApprovalQueue.loadItems rows) key = some queued := by
    unfold SQLiteApprovalQueue.get InMemoryApprovalQueue.get at h
    split at h
    · rename_i item hitem
      cases h
      exact hitem
    · cases h
  have hrequest := hsame key
  rw [hget, Option.map_some, eq_comm, Option.map_eq_some_iff] at hrequest
  obtain ⟨queued', hqueued', heq⟩ := hrequest
  refine ⟨queued', ?_, heq⟩
  rw [SQLiteApprovalQueue.get, InMemoryApprovalQueue.get, hqueued']

/-- The first decision of a pending row. -/
theorem recordDecision_first {engine : ApprovalAuthorizationEngine} {rows rows' : ApprovalTable}
    (hunique : Table.Unique ApprovalRow.approvalId rows) {approvalId : String} {row : ApprovalRow}
    (hrow : SQLiteApprovalQueue.selectRow rows approvalId = some row) (hp : row.status = .pending)
    {decision : ApprovalDecision} {updated : QueuedApproval}
    (h : SQLiteApprovalQueue.recordDecision engine rows approvalId decision =
      .ok (updated, rows')) :
    decision.approvalId = approvalId ∧ updated = ⟨row.request, decision.status, some decision⟩ ∧
      ∃ hs : decision.status ≠ .pending,
        rows' = rows.update (SQLiteApprovalQueue.pendingRow approvalId)
          (ApprovalRow.decided decision hs) ∧
        SQLiteApprovalQueue.selectRow rows' approvalId =
          some (ApprovalRow.decided decision hs row) := by
  have ⟨row', hrow', hid, hcase⟩ := SQLiteApprovalQueue.recordDecision_eq_ok h
  rw [hrow, Option.some.injEq] at hrow'
  subst hrow'
  rcases hcase with ⟨hne, _⟩ | ⟨_, _, hauth, hs, hrows'⟩
  · exact absurd hp hne
  · rw [hp] at hauth
    rw [SQLiteApprovalQueue.recordDecision_of_authorized hunique hrow hp hid hauth hs] at h
    cases h
    refine ⟨hid, rfl, hs, rfl, ?_⟩
    have ⟨hmem, hkey⟩ := SQLiteApprovalQueue.selectRow_mem hrow
    have hunique' : Table.Unique ApprovalRow.approvalId
        (rows.update (SQLiteApprovalQueue.pendingRow approvalId)
          (ApprovalRow.decided decision hs)) := hunique.update fun _ _ => rfl
    have hpending : SQLiteApprovalQueue.pendingRow approvalId row = true := by
      simp [SQLiteApprovalQueue.pendingRow, hkey, hp]
    exact hunique'.selectOne_eq_some.mpr ⟨Table.mem_update_image hmem hpending, hkey⟩

/-- A decided row answers exactly the repeated decision. -/
theorem recordDecision_again {engine : ApprovalAuthorizationEngine} {rows : ApprovalTable}
    {approvalId : String} {row : ApprovalRow} {first : ApprovalDecision}
    (hrow : SQLiteApprovalQueue.selectRow rows approvalId = some row) (hp : row.status ≠ .pending)
    (hfirst : row.decision = some first) {decision : ApprovalDecision}
    {result : QueuedApproval × ApprovalTable} :
    SQLiteApprovalQueue.recordDecision engine rows approvalId decision = .ok result ↔
      decision.approvalId = approvalId ∧ sameTerminalDecision first decision = true ∧
        result = (row.item, rows) := by
  rw [SQLiteApprovalQueue.recordDecision]
  by_cases hid : decision.approvalId = approvalId
  · simp only [hid, hrow, hp, hfirst, ne_eq, not_true_eq_false, if_false, not_false_eq_true,
      if_true, true_and]
    cases hsame : sameTerminalDecision first decision with
    | true => simp [eq_comm]
    | false => simp
  · simp [hid]

end Rows

/-! ## The artifact of the second call -/

section Loading
variable [IsoDateTime] [Digest] [BytesDigest] [FloatText] [Conversions]
variable {repoIdentity : String → String} {directory : Directory}

/-- Until it expires, an artifact is loaded as before. -/
theorem load_later {now now' expires : ℤ} {artifactId : String}
    {allowExpired allowConsumed : Bool} {artifact : PatchArtifact}
    (h : load repoIdentity directory now artifactId allowExpired allowConsumed = .ok artifact)
    (hexpires : parseTimestamp artifact.expiresAt = .ok expires) (hlive : now' ≤ expires) :
    load repoIdentity directory now' artifactId allowExpired allowConsumed = .ok artifact := by
  have ⟨normalizedId, hid, h⟩ := bind_eq_ok.mp h
  have ⟨payload, hpayload, h⟩ := bind_eq_ok.mp h
  have ⟨found, hfound, h⟩ := bind_eq_ok.mp h
  have ⟨_, hverify, h⟩ := bind_eq_ok.mp h
  have ⟨_, hname, h⟩ := bind_eq_ok.mp h
  have ⟨_, hconsumed, h⟩ := bind_eq_ok.mp h
  have ⟨_, hparse, h⟩ := bind_eq_ok.mp h
  have ⟨_, _, h⟩ := bind_eq_ok.mp h
  cases h
  rw [hexpires] at hparse
  cases hparse
  have hfresh : raiseIf (expires < now' ∧ !allowExpired) (expiredError artifactId) = .ok () := by
    rw [raiseIf_eq_ok]
    simp [not_lt.mpr hlive]
  apply bind_eq_ok.mpr ⟨normalizedId, hid, _⟩
  apply bind_eq_ok.mpr ⟨payload, hpayload, _⟩
  apply bind_eq_ok.mpr ⟨artifact, hfound, _⟩
  apply bind_eq_ok.mpr ⟨(), hverify, _⟩
  apply bind_eq_ok.mpr ⟨(), hname, _⟩
  apply bind_eq_ok.mpr ⟨(), hconsumed, _⟩
  apply bind_eq_ok.mpr ⟨expires, hexpires, _⟩
  exact bind_eq_ok.mpr ⟨(), hfresh, rfl⟩

theorem loadBoundArtifact_congr {now : ℤ} {queued queued' : QueuedApproval}
    (h : queued'.request = queued.request) (allowExpired allowConsumed : Bool) :
    loadBoundArtifact repoIdentity directory now queued' allowExpired allowConsumed =
      loadBoundArtifact repoIdentity directory now queued allowExpired allowConsumed := by
  unfold loadBoundArtifact artifactIdFromRequest checkBinding
  rw [h]

theorem loadBoundArtifact_eq_ok {now : ℤ} {queued : QueuedApproval}
    {allowExpired allowConsumed : Bool} {artifact : PatchArtifact} :
    loadBoundArtifact repoIdentity directory now queued allowExpired allowConsumed = .ok artifact ↔
      ∃ artifactId, artifactIdFromRequest queued = some artifactId ∧
        load repoIdentity directory now artifactId allowExpired allowConsumed = .ok artifact ∧
        checkBinding queued artifact = .ok () := by
  unfold loadBoundArtifact
  cases artifactIdFromRequest queued with
  | none =>
    constructor
    · intro h
      cases h
    · rintro ⟨_, h, _⟩
      cases h
  | some artifactId =>
    constructor
    · intro h
      have ⟨found, hfound, h⟩ := bind_eq_ok.mp h
      have ⟨_, hbound, h⟩ := bind_eq_ok.mp h
      cases h
      exact ⟨artifactId, rfl, mapError_eq_ok.mp hfound, hbound⟩
    · rintro ⟨_, hid, hload, hbound⟩
      cases hid
      apply bind_eq_ok.mpr ⟨artifact, mapError_eq_ok.mpr hload, _⟩
      exact bind_eq_ok.mpr ⟨(), hbound, rfl⟩

/-- Viewing a queued approval again, after a decision and at another time. -/
theorem viewForQueued_again {now : ℤ} (now' : ℤ) {queued queued' : QueuedApproval}
    {view : ApprovalArtifactView} (hsame : queued'.request = queued.request)
    (h : viewForQueued repoIdentity directory now queued = .ok view) :
    ∃ artifact patchDiff expired,
      loadBoundArtifact repoIdentity directory now queued true true = .ok artifact ∧
      view.artifactExpiresAt = artifact.expiresAt ∧
      viewForQueued repoIdentity directory now' queued' =
        .ok (viewOf queued' artifact patchDiff expired) := by
  have ⟨artifact, hartifact, h⟩ := bind_eq_ok.mp h
  have ⟨patchDiff, hpatch, h⟩ := bind_eq_ok.mp h
  have ⟨expires, hexpires, h⟩ := bind_eq_ok.mp h
  cases h
  refine ⟨artifact, patchDiff, expires < now', hartifact, rfl, ?_⟩
  have ⟨artifactId, hid, hload, hbound⟩ := loadBoundArtifact_eq_ok.mp hartifact
  have hlater : loadBoundArtifact repoIdentity directory now' queued' true true = .ok artifact := by
    rw [loadBoundArtifact_congr hsame]
    exact loadBoundArtifact_eq_ok.mpr ⟨artifactId, hid, load_anyTime hload now', hbound⟩
  apply bind_eq_ok.mpr ⟨artifact, hlater, _⟩
  apply bind_eq_ok.mpr ⟨patchDiff, hpatch, _⟩
  exact bind_eq_ok.mpr ⟨expires, hexpires, rfl⟩

end Loading

/-! ## Comparing the decisions -/

section Comparison
variable [UnicodeTables]

/-- Metadata of texts. -/
def texts (entries : List (String × String)) : Dict := entries.map fun e => (e.1, .str e.2)

omit [UnicodeTables] in
theorem pyEqEntries_iff {entries entries' : Dict} : Value.pyEqEntries entries entries' = true ↔
    ∀ e ∈ entries, ∃ v, PyDict.get entries' e.1 = some v ∧ Value.pyEq e.2 v = true := by
  induction entries with
  | nil => simp [Value.pyEqEntries]
  | cons e es ih =>
    have ⟨k, x⟩ := e
    rw [Value.pyEqEntries, Bool.and_eq_true, ih, List.forall_mem_cons]
    apply and_congr_left
    intro _
    change _ ↔ ∃ v, List.lookup k entries' = some v ∧ Value.pyEq x v = true
    cases List.lookup k entries' <;> simp

theorem mem_storedDict_texts {entries : List (String × String)}
    (hkeys : ∀ e ∈ entries, isSensitiveKey e.1 = false) {e : String × Value} :
    e ∈ storedDict (texts entries) ↔
      ∃ p ∈ entries, e = (p.1, .str (redactSensitiveString p.2)) := by
  rw [storedDict, List.mem_insertionSort]
  induction entries with
  | nil => simp [texts, redactEntries, Value.jsonRoundTripEntries]
  | cons p ps ih =>
    obtain ⟨k, x⟩ := p
    rw [List.forall_mem_cons] at hkeys
    rw [texts, List.map_cons, redactEntries, Value.jsonRoundTripEntries, List.mem_cons]
    rw [← texts, ih hkeys.2, hkeys.1]
    simp [redactSensitiveValue, Value.jsonRoundTrip]

/-- Stored texts equal new texts when redaction turns each into the new one. -/
theorem pyEq_stored_texts {entries entries' : List (String × String)}
    (hlength : entries.length = entries'.length) (hnodup : (entries'.map Prod.fst).Nodup)
    (hkeys : ∀ e ∈ entries, isSensitiveKey e.1 = false) :
    Value.pyEq (.dict (storedDict (texts entries))) (.dict (texts entries')) = true ↔
      ∀ p ∈ entries, (p.1, redactSensitiveString p.2) ∈ entries' := by
  have hlengths : (storedDict (texts entries)).length = (texts entries').length := by
    have hkeys := congrArg List.length (keys_jsonRoundTripEntries (redactEntries (texts entries)))
    have hkeys' := congrArg List.length (keys_redactEntries (texts entries))
    simp only [List.length_map] at hkeys hkeys'
    rw [storedDict, List.length_insertionSort, hkeys, hkeys', texts, texts, List.length_map,
      List.length_map, hlength]
  have hnodup' : ((texts entries').map Prod.fst).Nodup := by
    rw [texts, List.map_map]
    exact hnodup
  rw [Value.pyEq, hlengths, beq_self_eq_true, Bool.true_and, pyEqEntries_iff]
  constructor
  · intro h p hp
    have hmem := (mem_storedDict_texts hkeys).mpr ⟨p, hp, rfl⟩
    obtain ⟨v, hv, heq⟩ := h _ hmem
    rw [PyDict.get_eq_some hnodup', texts, List.mem_map] at hv
    obtain ⟨q, hq, hqv⟩ := hv
    obtain ⟨hkey, hvalue⟩ := Prod.mk.inj hqv
    subst hvalue
    have hsame : redactSensitiveString p.2 = q.2 := by simpa [Value.pyEq] using heq
    change q.1 = p.1 at hkey
    rw [hsame, ← hkey]
    exact hq
  · intro h e he
    obtain ⟨p, hp, heq⟩ := (mem_storedDict_texts hkeys).mp he
    subst heq
    refine ⟨.str (redactSensitiveString p.2), ?_, by simp [Value.pyEq]⟩
    rw [PyDict.get_eq_some hnodup', texts, List.mem_map]
    exact ⟨_, h p hp, rfl⟩

/-- The baseline that a decision is bound to. -/
def boundBaseline (request : ApprovalRequest) : List (String × String) :=
  match request.metadata.get "baseline_commit_sha" with
  | some (.str baseline) => if isPresent baseline then [("baseline_commit_sha", baseline)] else []
  | _ => []

omit [UnicodeTables] in
theorem decisionBindingMetadata_eq {request : ApprovalRequest} {sha : String}
    (h : request.target = .str sha) :
    decisionBindingMetadata request = texts (("patch_sha256", sha) :: boundBaseline request) := by
  unfold decisionBindingMetadata boundBaseline
  rw [h]
  generalize request.metadata.get "baseline_commit_sha" = found
  cases found with
  | none => rfl
  | some v =>
    cases v with
    | str baseline =>
      cases hpresent : isPresent baseline with
      | true => simp [hpresent, texts]
      | false => simp [hpresent, texts]
    | _ => rfl

omit [UnicodeTables] in
theorem boundBaseline_cases (request : ApprovalRequest) :
    boundBaseline request = [] ∨
      ∃ baseline, boundBaseline request = [("baseline_commit_sha", baseline)] := by
  unfold boundBaseline
  split
  · rename_i baseline _
    split
    · exact .inr ⟨baseline, rfl⟩
    · exact .inl rfl
  · exact .inl rfl

/-- The entries that a receipt adds. -/
def receiptTexts : Option String → List (String × String)
  | none => []
  | some hash => [(receiptSchemaVersionKey, receiptSchemaVersion), (receiptHashKey, hash)]

/-- The metadata of a decision, with the receipt hash of an approved one. -/
def decisionTexts (request : ApprovalRequest) (sha : String) (hash : Option String) :
    List (String × String) :=
  ("patch_sha256", sha) :: boundBaseline request ++ receiptTexts hash

def decisionWith (request : ApprovalRequest) (decidedBy reason time sha : String)
    (hash : Option String) : ApprovalDecision :=
  { patchDecision request hash.isSome decidedBy reason time with
    metadata := texts (decisionTexts request sha hash) }

theorem withReceipt_patchDecision {request : ApprovalRequest} {sha : String}
    (h : request.target = .str sha) (decidedBy reason time hash : String) :
    withReceipt (patchDecision request true decidedBy reason time) hash =
      decisionWith request decidedBy reason time sha (some hash) := by
  have hmetadata : (patchDecision request true decidedBy reason time).metadata =
      texts (("patch_sha256", sha) :: boundBaseline request) := decisionBindingMetadata_eq h
  rw [withReceipt, withoutReceiptMetadata, hmetadata, decisionWith, decisionTexts]
  rcases boundBaseline_cases request with hb | ⟨baseline, hb⟩
  · rw [hb]
    rfl
  · rw [hb]
    rfl

omit [UnicodeTables] in
theorem decisionTexts_nodup (request : ApprovalRequest) (sha : String) (hash : Option String) :
    ((decisionTexts request sha hash).map Prod.fst).Nodup := by
  rcases boundBaseline_cases request with hb | ⟨baseline, hb⟩ <;> cases hash <;>
    simp [decisionTexts, hb, receiptTexts, receiptSchemaVersionKey, receiptHashKey]

theorem decisionTexts_keys (request : ApprovalRequest) (sha : String) (hash : Option String) :
    ∀ e ∈ decisionTexts request sha hash, isSensitiveKey e.1 = false := by
  have hpatch : isSensitiveKey "patch_sha256" = false := rfl
  have hbaseline : isSensitiveKey "baseline_commit_sha" = false := rfl
  have hschema : isSensitiveKey receiptSchemaVersionKey = false := rfl
  have hreceipt : isSensitiveKey receiptHashKey = false := rfl
  rcases boundBaseline_cases request with hb | ⟨baseline, hb⟩ <;> cases hash <;>
    simp [decisionTexts, hb, receiptTexts, hpatch, hbaseline, hschema, hreceipt]

omit [UnicodeTables] in
/-- A map of texts that leaves the schema version turns the metadata of one decision into that of
another one. -/
theorem decisionTexts_mapped {f : String → String} (hf : f receiptSchemaVersion =
    receiptSchemaVersion) {request : ApprovalRequest} {sha : String} {hash hash' : Option String}
    (hhash : hash.isSome = hash'.isSome) :
    (∀ p ∈ decisionTexts request sha hash, (p.1, f p.2) ∈ decisionTexts request sha hash') ↔
      f sha = sha ∧ (∀ e ∈ boundBaseline request, f e.2 = e.2) ∧ hash.map f = hash' := by
  rcases boundBaseline_cases request with hb | ⟨baseline, hb⟩ <;> cases hash <;> cases hash' <;>
    simp_all [decisionTexts, receiptTexts, receiptSchemaVersionKey, receiptHashKey]

omit [UnicodeTables] in
theorem decisionTexts_length {hash hash' : Option String} (hhash : hash.isSome = hash'.isSome)
    (request : ApprovalRequest) (sha : String) :
    (decisionTexts request sha hash).length = (decisionTexts request sha hash').length := by
  cases hash <;> cases hash' <;> simp_all [decisionTexts, receiptTexts]

/-- The first decision, stored, is taken for the second one. -/
theorem sameTerminalDecision_stored {request : ApprovalRequest}
    {decidedBy reason time time' sha : String} {hash hash' : Option String}
    (hhash : hash.isSome = hash'.isSome) :
    sameTerminalDecision (decisionWith request decidedBy reason time sha hash).stored
        (decisionWith request decidedBy reason time' sha hash') = true ↔
      redactSensitiveString request.approvalId = request.approvalId ∧
        redactSensitiveString decidedBy = decidedBy ∧
        redactSensitiveString (redactSensitiveString reason) = redactSensitiveString reason ∧
        redactSensitiveString sha = sha ∧
        (∀ e ∈ boundBaseline request, redactSensitiveString e.2 = e.2) ∧
        hash.map redactSensitiveString = hash' := by
  have hlength := decisionTexts_length hhash request sha
  have hmetadata := pyEq_stored_texts hlength (decisionTexts_nodup request sha hash')
    (decisionTexts_keys request sha hash)
  have hversion : redactSensitiveString receiptSchemaVersion = receiptSchemaVersion :=
    redactSensitiveString_of_plain (by decide)
  rw [decisionTexts_mapped hversion hhash] at hmetadata
  rw [sameTerminalDecision, decide_eq_true_eq]
  simp only [ApprovalDecision.stored, decisionWith, patchDecision, hhash, hmetadata,
    Option.map_some, Option.some.injEq, true_and]

end Comparison

/-! ## Calls -/

section Calls
variable [UnicodeTables] [IsoDateTime] [Digest] [BytesDigest] [FloatText] [Conversions]

/-- The decision that `approve` or `reject` builds. -/
def buildDecision (approved : Bool) (call : DecisionCall) (request : ApprovalRequest)
    (patchSha256 : Option String) : Except PyException ApprovalDecision :=
  if approved then
    approvePatchRequest request call.decidedBy call.reason patchSha256 call.clock.decided.text
  else rejectPatchRequest request call.decidedBy call.reason patchSha256 call.clock.decided.text

/-- A call of `approve`, or of `reject`. -/
def decideArtifact (approved : Bool) (engine : ApprovalAuthorizationEngine)
    (repoIdentity : String → String) (directory : Directory) (rows : ApprovalTable)
    (call : DecisionCall) : Except PyException ApprovalArtifactView × ApprovalTable :=
  if approved then approve engine repoIdentity directory rows call
  else reject engine repoIdentity directory rows call

theorem decideArtifact_eq (approved : Bool) (engine : ApprovalAuthorizationEngine)
    (repoIdentity : String → String) (directory : Directory) (rows : ApprovalTable)
    (call : DecisionCall) : decideArtifact approved engine repoIdentity directory rows call =
      recordArtifactDecision engine repoIdentity directory rows call (!approved) (!approved)
        (buildDecision approved call) := by
  cases approved <;> rfl

/-- The decision without its receipt, whose payload is hashed. -/
def unsignedDecision (request : ApprovalRequest) (call : DecisionCall) : ApprovalDecision :=
  withoutReceiptMetadata
    (patchDecision request true call.decidedBy call.reason call.clock.decided.text)

omit [UnicodeTables] [IsoDateTime] [Digest] [BytesDigest] [FloatText] [Conversions] in
theorem validateDecisionContext_eq_ok {request : ApprovalRequest} {sha : String} {u : Unit} :
    validateDecisionContext request (some sha) = .ok u ↔ request.target = .str sha := by
  rw [validateDecisionContext, raiseIf_eq_ok]
  simp

omit [IsoDateTime] [BytesDigest] [FloatText] [Conversions] in
/-- An approved patch decision is signed with the hash of its payload. -/
theorem attach_patchDecision {request : ApprovalRequest} {sha : String}
    (htarget : request.target = .str sha) (call : DecisionCall) :
    attachApprovalReceipt request
        (patchDecision request true call.decidedBy call.reason call.clock.decided.text) =
      (calculateApprovalReceiptHash request (unsignedDecision request call)).map fun hash =>
        decisionWith request call.decidedBy call.reason call.clock.decided.text sha (some hash) := by
  have hfree : (patchDecision request true call.decidedBy call.reason
      call.clock.decided.text).metadata.get receiptHashKey = none := by
    change (decisionBindingMetadata request).get receiptHashKey = none
    rw [decisionBindingMetadata_eq htarget]
    rcases boundBaseline_cases request with hb | ⟨baseline, hb⟩
    · rw [hb]
      rfl
    · rw [hb]
      rfl
  unfold attachApprovalReceipt
  rw [if_neg (by simp [patchDecision]), ← unsignedDecision, hfree]
  cases calculateApprovalReceiptHash request (unsignedDecision request call) with
  | error exc => rfl
  | ok hash =>
    change Except.ok (withReceipt _ hash) = _
    rw [withReceipt_patchDecision htarget]
    rfl

omit [IsoDateTime] [BytesDigest] [FloatText] [Conversions] in
/-- What a call builds for a request bound to its patch. -/
theorem buildDecision_eq_ok {approved : Bool} {call : DecisionCall} {request : ApprovalRequest}
    {sha : String} {decision : ApprovalDecision} :
    buildDecision approved call request (some sha) = .ok decision ↔
      request.target = .str sha ∧ ∃ hash : Option String, hash.isSome = approved ∧
        (∀ text ∈ hash, calculateApprovalReceiptHash request (unsignedDecision request call) =
          .ok text) ∧
        decision = decisionWith request call.decidedBy call.reason call.clock.decided.text sha
          hash := by
  cases approved with
  | false =>
    constructor
    · intro h
      have ⟨_, hcontext, h⟩ := bind_eq_ok.mp h
      cases h
      have htarget := validateDecisionContext_eq_ok.mp hcontext
      refine ⟨htarget, none, rfl, nofun, ?_⟩
      rw [decisionWith, decisionTexts, receiptTexts, List.append_nil,
        ← decisionBindingMetadata_eq htarget]
      rfl
    · rintro ⟨htarget, hash, hnone, _, hdecision⟩
      rw [Option.isSome_eq_false_iff, Option.isNone_iff_eq_none] at hnone
      subst hnone hdecision
      apply bind_eq_ok.mpr ⟨(), validateDecisionContext_eq_ok.mpr htarget, _⟩
      rw [decisionWith, decisionTexts, receiptTexts, List.append_nil,
        ← decisionBindingMetadata_eq htarget]
      rfl
  | true =>
    constructor
    · intro h
      have ⟨_, hcontext, h⟩ := bind_eq_ok.mp h
      have htarget := validateDecisionContext_eq_ok.mp hcontext
      rw [attach_patchDecision htarget] at h
      have ⟨hash, hhash, heq⟩ := map_eq_ok.mp h
      refine ⟨htarget, some hash, rfl, ?_, heq.symm⟩
      intro text htext
      cases htext
      exact hhash
    · rintro ⟨htarget, hash, hsome, hhash, hdecision⟩
      have ⟨text, htext⟩ := Option.isSome_iff_exists.mp hsome
      subst htext hdecision
      apply bind_eq_ok.mpr ⟨(), validateDecisionContext_eq_ok.mpr htarget, _⟩
      rw [attach_patchDecision htarget, hhash text rfl]
      rfl

/-! ## Receipt hashes at two times -/

/-- The same call at another time. -/
def DecisionCall.again (call : DecisionCall) (clock : DecisionClock)
    (auditFault : Option PyException) : DecisionCall :=
  { call with clock := clock, auditFault := auditFault }

omit [IsoDateTime] [BytesDigest] [FloatText] [Conversions] in
/-- Whether a decision can be signed does not depend on its time. -/
theorem receiptHash_again {request : ApprovalRequest} {call : DecisionCall} {hash : String}
    (h : calculateApprovalReceiptHash request (unsignedDecision request call) = .ok hash)
    (clock : DecisionClock) (fault : Option PyException) :
    ∃ hash', calculateApprovalReceiptHash request
      (unsignedDecision request (call.again clock fault)) = .ok hash' := by
  have ⟨payload, hpayload, _⟩ := map_eq_ok.mp h
  have hok : (approvalReceiptPayload request
      (unsignedDecision request (call.again clock fault))).isOk = true := by
    have hfirst := approvalReceiptPayload_isOk request (unsignedDecision request call)
    rw [hpayload] at hfirst
    rw [approvalReceiptPayload_isOk]
    exact hfirst.symm
  cases hagain : approvalReceiptPayload request
      (unsignedDecision request (call.again clock fault)) with
  | error exc =>
    rw [hagain] at hok
    cases hok
  | ok payload' => exact ⟨Json.sha256 payload', map_eq_ok.mpr ⟨payload', hagain, rfl⟩⟩

/-- The payloads of the two decisions have no common digest. -/
def NoCollision (request : ApprovalRequest) (call call' : DecisionCall) : Prop :=
  ∀ payload payload', approvalReceiptPayload request (unsignedDecision request call) = .ok payload →
    approvalReceiptPayload request (unsignedDecision request call') = .ok payload' →
    Json.sha256 payload = Json.sha256 payload' → payload.text = payload'.text

omit [IsoDateTime] [Digest] [BytesDigest] [FloatText] [Conversions] in
theorem redactDeep_utcIso (time : UtcIso) (depth : ℕ) : redactDeep depth time.text = time.text := by
  induction depth with
  | zero => exact redactSensitiveString_of_plain time.iso_text
  | succ depth ih => rw [redactDeep, redactSensitiveString_of_plain time.iso_text, ih]

omit [IsoDateTime] [BytesDigest] [FloatText] [Conversions] in
/-- The receipt hash tells the time of the decision. -/
theorem receiptHash_eq_iff {request : ApprovalRequest} {call call' : DecisionCall}
    {hash hash' : String} (hcollision : NoCollision request call call')
    (hby : call'.decidedBy = call.decidedBy) (hreason : call'.reason = call.reason)
    (h : calculateApprovalReceiptHash request (unsignedDecision request call) = .ok hash)
    (h' : calculateApprovalReceiptHash request (unsignedDecision request call') = .ok hash') :
    hash = hash' ↔ call'.clock.decided.text = call.clock.decided.text := by
  have ⟨payload, hpayload, hdigest⟩ := map_eq_ok.mp h
  have ⟨payload', hpayload', hdigest'⟩ := map_eq_ok.mp h'
  constructor
  · intro heq
    rw [← hdigest, ← hdigest'] at heq
    have hsame := Json.text_injective (hcollision payload payload' hpayload hpayload' heq)
    have ⟨inner, hinner, htime⟩ := decidedAt_of_payload hpayload rfl
    have ⟨inner', hinner', htime'⟩ := decidedAt_of_payload hpayload' rfl
    rw [hsame, hinner', Option.some.injEq] at hinner
    rw [← hinner, htime', redactDeep_utcIso, redactDeep_utcIso] at htime
    exact Json.str.inj (Option.some.inj htime)
  · intro htime
    have hunsigned : unsignedDecision request call' = unsignedDecision request call := by
      rw [unsignedDecision, unsignedDecision, hby, hreason, htime]
    rw [hunsigned, h] at h'
    exact Except.ok.inj h'

omit [IsoDateTime] [BytesDigest] [FloatText] [Conversions] in
/-- The decision that the second call builds. -/
theorem buildDecision_again {request : ApprovalRequest} {call : DecisionCall} {sha : String}
    {hash : Option String} (htarget : request.target = .str sha)
    (hsigned : ∀ text ∈ hash,
      calculateApprovalReceiptHash request (unsignedDecision request call) = .ok text)
    (clock : DecisionClock) (fault : Option PyException) :
    ∃ hash' : Option String, hash'.isSome = hash.isSome ∧
      (∀ text ∈ hash', calculateApprovalReceiptHash request
        (unsignedDecision request (call.again clock fault)) = .ok text) ∧
      buildDecision hash.isSome (call.again clock fault) request (some sha) =
        .ok (decisionWith request call.decidedBy call.reason clock.decided.text sha hash') := by
  cases hash with
  | none =>
    refine ⟨none, rfl, nofun, ?_⟩
    exact buildDecision_eq_ok.mpr ⟨htarget, none, rfl, nofun, rfl⟩
  | some text =>
    have ⟨text', htext'⟩ := receiptHash_again (hsigned text rfl) clock fault
    have hsigned' : ∀ t ∈ some text', calculateApprovalReceiptHash request
        (unsignedDecision request (call.again clock fault)) = .ok t := by
      intro t ht
      cases ht
      exact htext'
    refine ⟨some text', rfl, hsigned', ?_⟩
    exact buildDecision_eq_ok.mpr ⟨htarget, some text', rfl, hsigned', rfl⟩

omit [IsoDateTime] [BytesDigest] [FloatText] [Conversions] in
/-- The stored receipt hash is the new one at the time of the first decision only. -/
theorem storedHash_eq_iff {request : ApprovalRequest} {call : DecisionCall} {clock : DecisionClock}
    {fault : Option PyException} {hash hash' : Option String}
    (hhex : ∀ text, ∀ c ∈ (Digest.sha256 text).toList, c ∈ "0123456789abcdef".toList)
    (hcollision : NoCollision request call (call.again clock fault))
    (hsome : hash'.isSome = hash.isSome)
    (hsigned : ∀ text ∈ hash,
      calculateApprovalReceiptHash request (unsignedDecision request call) = .ok text)
    (hsigned' : ∀ text ∈ hash', calculateApprovalReceiptHash request
      (unsignedDecision request (call.again clock fault)) = .ok text) :
    hash.map redactSensitiveString = hash' ↔
      (hash.isSome = true → clock.decided.text = call.clock.decided.text) := by
  cases hash with
  | none =>
    rw [Option.isSome_none, Option.isSome_eq_false_iff, Option.isNone_iff_eq_none] at hsome
    simp [hsome]
  | some text =>
    have ⟨text', htext'⟩ := Option.isSome_iff_exists.mp hsome
    subst htext'
    have hplain : redactSensitiveString text = text := by
      have ⟨payload, _, hdigest⟩ := map_eq_ok.mp (hsigned text rfl)
      have hsub : ∀ c ∈ "0123456789abcdef".toList, c ∈ plainCharacters := by decide
      rw [← hdigest]
      exact redactSensitiveString_of_plain fun c hc => hsub c (hhex _ c hc)
    have hiff := receiptHash_eq_iff hcollision rfl rfl (hsigned text rfl) (hsigned' text' rfl)
    rw [Option.map_some, hplain, Option.some.injEq, hiff]
    exact ⟨fun h _ => h, fun h => h rfl⟩

/-! ## The second call -/

/-- Redaction leaves the texts of the decision that are compared. -/
structure KeptByRedaction (request : ApprovalRequest) (decidedBy reason : String) : Prop where
  approvalId : redactSensitiveString request.approvalId = request.approvalId
  decidedBy : redactSensitiveString decidedBy = decidedBy
  reason : redactSensitiveString (redactSensitiveString reason) = redactSensitiveString reason
  target : ∀ sha, request.target = .str sha → redactSensitiveString sha = sha
  baseline : ∀ e ∈ boundBaseline request, redactSensitiveString e.2 = e.2

/-- The call returns the decision that the rows hold, and leaves the rows. -/
def ReturnsRecorded (result : Except PyException ApprovalArtifactView × ApprovalTable)
    (rows : ApprovalTable) (approvalId : String) : Prop :=
  ∃ view row decision, result = (.ok view, rows) ∧
    SQLiteApprovalQueue.selectRow rows approvalId = some row ∧ row.decision = some decision ∧
    view.decisionStatus = some decision.status.value ∧ view.decidedBy = decision.decidedBy ∧
    view.decidedAt = decision.decidedAt ∧ view.decisionReason = some decision.reason

/-- What a call that returned has done. -/
theorem recordArtifactDecision_eq_ok {engine : ApprovalAuthorizationEngine}
    {repoIdentity : String → String} {directory : Directory} {rows rows' : ApprovalTable}
    {call : DecisionCall} {allowExpired allowConsumed : Bool}
    {build : ApprovalRequest → Option String → Except PyException ApprovalDecision}
    {view : ApprovalArtifactView} :
    recordArtifactDecision engine repoIdentity directory rows call allowExpired allowConsumed build =
        (.ok view, rows') ↔
      ∃ decision updated,
        preparedDecision repoIdentity directory rows call allowExpired allowConsumed build =
          .ok decision ∧
        SQLiteApprovalQueue.recordDecision engine rows call.approvalId decision =
          .ok (updated, rows') ∧
        reportDecision repoIdentity directory call updated = .ok view := by
  unfold recordArtifactDecision
  cases preparedDecision repoIdentity directory rows call allowExpired allowConsumed build with
  | error exc => simp
  | ok decision =>
    cases hrecord : SQLiteApprovalQueue.recordDecision engine rows call.approvalId decision with
    | error error => simp [hrecord]
    | ok result =>
      have ⟨updated, rows''⟩ := result
      simp only [hrecord]
      constructor
      · intro h
        have ⟨hview, hrows⟩ := Prod.mk.inj h
        exact ⟨decision, updated, rfl, by rw [hrecord, hrows], hview⟩
      · rintro ⟨decision', updated', hdecision, hrecorded, hview⟩
        cases hdecision
        rw [hrecord] at hrecorded
        cases hrecorded
        rw [hview]

omit [UnicodeTables] in
theorem preparedDecision_eq_ok {repoIdentity : String → String} {directory : Directory}
    {rows : ApprovalTable} {call : DecisionCall} {allowExpired allowConsumed : Bool}
    {build : ApprovalRequest → Option String → Except PyException ApprovalDecision}
    {decision : ApprovalDecision} :
    preparedDecision repoIdentity directory rows call allowExpired allowConsumed build =
        .ok decision ↔
      ∃ queued artifact, SQLiteApprovalQueue.get rows call.approvalId = .ok queued ∧
        loadBoundArtifact repoIdentity directory call.clock.loaded queued allowExpired
          allowConsumed = .ok artifact ∧
        build queued.request (some artifact.patchSha256) = .ok decision := by
  constructor
  · intro h
    have ⟨queued, hqueued, h⟩ := bind_eq_ok.mp h
    have ⟨artifact, hartifact, h⟩ := bind_eq_ok.mp h
    exact ⟨queued, artifact, mapError_eq_ok.mp hqueued, hartifact, mapError_eq_ok.mp h⟩
  · rintro ⟨queued, artifact, hqueued, hartifact, hbuild⟩
    apply bind_eq_ok.mpr ⟨queued, mapError_eq_ok.mpr hqueued, _⟩
    exact bind_eq_ok.mpr ⟨artifact, hartifact, mapError_eq_ok.mpr hbuild⟩

omit [UnicodeTables] in
theorem reportDecision_eq_ok {repoIdentity : String → String} {directory : Directory}
    {call : DecisionCall} {updated : QueuedApproval} {view : ApprovalArtifactView} :
    reportDecision repoIdentity directory call updated = .ok view ↔
      updated.decision.isSome = true ∧ call.auditFault = none ∧
        viewForQueued repoIdentity directory call.clock.viewed updated = .ok view := by
  unfold reportDecision requiredDecision
  cases updated.decision with
  | none =>
    constructor
    · intro h
      cases h
    · rintro ⟨h, _⟩
      cases h
  | some decision =>
    cases call.auditFault with
    | none => simp [bind, Except.bind]
    | some exc => simp [bind, Except.bind]

/-- After a first decision, the same decision is returned again exactly when the audit event can
be written, redaction leaves the compared texts, and an approval is repeated at the very time of
the first one. -/
theorem decideArtifact_again_iff (approved : Bool) {engine engine' : ApprovalAuthorizationEngine}
    {repoIdentity : String → String} {directory : Directory} {rows rows' : ApprovalTable}
    (hunique : Table.Unique ApprovalRow.approvalId rows) {call : DecisionCall}
    {queued : QueuedApproval} (hqueued : SQLiteApprovalQueue.get rows call.approvalId = .ok queued)
    {row : ApprovalRow} (hrow : SQLiteApprovalQueue.selectRow rows call.approvalId = some row)
    (hpending : row.status = .pending) {view : ApprovalArtifactView}
    (hfirst : decideArtifact approved engine repoIdentity directory rows call = (.ok view, rows'))
    {clock : DecisionClock} {fault : Option PyException}
    (hlive : ∀ artifact, loadBoundArtifact repoIdentity directory call.clock.loaded queued
      (!approved) (!approved) = .ok artifact →
        ∃ expires, parseTimestamp artifact.expiresAt = .ok expires ∧ clock.loaded ≤ expires)
    (hhex : ∀ text, ∀ c ∈ (Digest.sha256 text).toList, c ∈ "0123456789abcdef".toList)
    (hcollision : NoCollision queued.request call (call.again clock fault)) :
    ReturnsRecorded (decideArtifact approved engine' repoIdentity directory rows'
        (call.again clock fault)) rows' call.approvalId ↔
      KeptByRedaction queued.request call.decidedBy call.reason ∧ fault = none ∧
        (approved = true → clock.decided.text = call.clock.decided.text) := by
  rw [decideArtifact_eq] at hfirst
  have ⟨first, updated, hprepared, hrecord, hreport⟩ := recordArtifactDecision_eq_ok.mp hfirst
  have ⟨queued₀, artifact, hqueued₀, hartifact, hbuild⟩ := preparedDecision_eq_ok.mp hprepared
  rw [hqueued] at hqueued₀
  cases hqueued₀
  have ⟨htarget, hash, hhash, hsigned, hdecision⟩ := buildDecision_eq_ok.mp hbuild
  have ⟨hid, hupdated, hs, hrows', hrow'⟩ := recordDecision_first hunique hrow hpending hrecord
  -- the second call reads the same request and the same artifact
  have ⟨queued', hqueued', hsame⟩ : ∃ queued', SQLiteApprovalQueue.get rows' call.approvalId =
      .ok queued' ∧ queued'.request = queued.request := by
    rw [hrows']
    exact get_decided hqueued
  have hartifact' : loadBoundArtifact repoIdentity directory clock.loaded queued' (!approved)
      (!approved) = .ok artifact := by
    rw [loadBoundArtifact_congr hsame]
    have ⟨artifactId, hartifactId, hload, hbound⟩ := loadBoundArtifact_eq_ok.mp hartifact
    have ⟨expires, hexpires, hunexpired⟩ := hlive artifact hartifact
    have hlater := load_later hload hexpires hunexpired
    exact loadBoundArtifact_eq_ok.mpr ⟨artifactId, hartifactId, hlater, hbound⟩
  have ⟨hash', hsome, hsigned', hbuild'⟩ := buildDecision_again htarget hsigned clock fault
  let second := decisionWith queued.request call.decidedBy call.reason clock.decided.text
    artifact.patchSha256 hash'
  rw [hhash, ← hsame] at hbuild'
  have hprepared' : preparedDecision repoIdentity directory rows' (call.again clock fault)
      (!approved) (!approved) (buildDecision approved (call.again clock fault)) = .ok second := by
    refine preparedDecision_eq_ok.mpr ⟨queued', artifact, hqueued', hartifact', ?_⟩
    rw [hbuild', hsame]
  have hagain : ∀ result, SQLiteApprovalQueue.recordDecision engine' rows' call.approvalId second =
      .ok result ↔ second.approvalId = call.approvalId ∧
        sameTerminalDecision first.stored second = true ∧
        result = ((ApprovalRow.decided first hs row).item, rows') :=
    fun result => recordDecision_again hrow' hs rfl
  have hsecond : second.approvalId = call.approvalId := by
    rw [← hid, hdecision]
    rfl
  have hcompare : sameTerminalDecision first.stored second = true ↔
      KeptByRedaction queued.request call.decidedBy call.reason ∧
        (approved = true → clock.decided.text = call.clock.decided.text) := by
    rw [hdecision, sameTerminalDecision_stored hsome.symm,
      storedHash_eq_iff hhex hcollision hsome hsigned hsigned', hhash]
    constructor
    · rintro ⟨hid, hby, hreason, hsha, hbaseline, htime⟩
      refine ⟨⟨hid, hby, hreason, ?_, hbaseline⟩, htime⟩
      intro sha heq
      rw [htarget] at heq
      cases heq
      exact hsha
    · rintro ⟨h, htime⟩
      exact ⟨h.approvalId, h.decidedBy, h.reason, h.target _ htarget, h.baseline, htime⟩
  have ⟨hdecided, _, hview⟩ := reportDecision_eq_ok.mp hreport
  have hrequest : (ApprovalRow.decided first hs row).item.request = updated.request := by
    rw [hupdated]
    rfl
  rw [decideArtifact_eq]
  constructor
  · rintro ⟨view', _, _, hresult, _⟩
    have ⟨decision', updated', hprepared'', hrecord', hreport'⟩ :=
      recordArtifactDecision_eq_ok.mp hresult
    rw [hprepared'] at hprepared''
    cases hprepared''
    have ⟨_, hterminal, _⟩ := (hagain _).mp hrecord'
    have ⟨_, hfault, _⟩ := reportDecision_eq_ok.mp hreport'
    have ⟨hkept, htime⟩ := hcompare.mp hterminal
    exact ⟨hkept, hfault, htime⟩
  · rintro ⟨hkept, hfault, htime⟩
    have hterminal := hcompare.mpr ⟨hkept, htime⟩
    have hrecord' := (hagain _).mpr ⟨hsecond, hterminal, rfl⟩
    have ⟨artifact', patchDiff, expired, _, _, hagainView⟩ :=
      viewForQueued_again clock.viewed hrequest hview
    have hreport' : reportDecision repoIdentity directory (call.again clock fault)
        (ApprovalRow.decided first hs row).item = .ok _ :=
      reportDecision_eq_ok.mpr ⟨rfl, hfault, hagainView⟩
    refine ⟨_, _, first.stored, recordArtifactDecision_eq_ok.mpr
      ⟨second, _, hprepared', hrecord', hreport'⟩, hrow', rfl, rfl, rfl, rfl, rfl⟩

end Calls

/-! ## Sample decisions -/

namespace Sample
open Rygnal.Artifact.Sample PyText.Ascii

def artifactPayload : Dict :=
  [("approval_request_id", .str "apr_7d1f"),
    ("artifact_digest", .str "2c26b46b68ffc68ff99b453c1d30413413422d706483bfa0f98a5e886266e7ae"),
    ("artifact_id", .str "0123456789abcdef0123456789abcdef"),
    ("baseline_commit_sha", .str "4b825dc642cb6eb9a060e54bf8d69288fbee4904"),
    ("consumed_at", .none), ("created_at", .str "2026-01-01T00:00:00+00:00"),
    ("expires_at", .str "2026-01-01T01:00:00+00:00"), ("files", .list []),
    ("ignored_files", .list []), ("intent_summary", .dict []), ("patch_base64", .str "w6k="),
    ("patch_sha256", .str "4a99557e4033c3539de2eb65472017cad5f9557f7a0625a09f1c3f6e2ba69c4c"),
    ("patch_size_bytes", .int 2), ("risk_summary", .dict []), ("run_id", .str "run_1"),
    ("schema_version", .str "patch-artifact.v1"), ("state", .str "pending"),
    ("trace_id", .str "trace_1f"), ("trusted_repo_identity_sha256", .str "identity"),
    ("trusted_repo_path", .str "/work/repo"), ("workspace_path", .str "/work/ws")]

/-- One artifact, in a file of 1000 bytes. -/
def artifacts : Directory := fun name =>
  if name = "0123456789abcdef0123456789abcdef" then
    some (.regular 1000 (.parsed (.dict artifactPayload)))
  else none

theorem patchRequest_present : ∀ value ∈ ["apr_7d1f", "2026-01-01T00:00:00+00:00", "trace_1f",
    "dev-1", "agent-1", "dev", "guarded_workspace", "Patch is risky."], isPresent value = true := by
  decide

def patchRequest : ApprovalRequest where
  approvalId := "apr_7d1f"
  createdAt := "2026-01-01T00:00:00+00:00"
  traceId := "trace_1f"
  requestedBy := "dev-1"
  agentId := "agent-1"
  environment := "dev"
  toolName := "guarded_workspace"
  action := some "approve_patch_apply"
  target := .str "4a99557e4033c3539de2eb65472017cad5f9557f7a0625a09f1c3f6e2ba69c4c"
  policyId := none
  reason := "Patch is risky."
  severity := .medium
  riskAssessment := []
  metadata := [("artifact_id", .str "0123456789abcdef0123456789abcdef")]
  contextPresent := patchRequest_present

def submitted : ApprovalTable := [ApprovalRow.inserted patchRequest]

def clock : DecisionClock :=
  ⟨1767225600000000, ⟨"2026-01-01T00:10:00+00:00", by decide⟩, 1767225600000000⟩

def laterClock : DecisionClock :=
  ⟨1767225600000000, ⟨"2026-01-01T00:20:00+00:00", by decide⟩, 1767225600000000⟩

/-- A decision by the given reviewer. -/
def decisionCall (decidedBy : String) : DecisionCall :=
  ⟨clock, none, "apr_7d1f", decidedBy, "reviewed."⟩

def decideRows (approved : Bool) (rows : ApprovalTable) (call : DecisionCall) :
    Except PyException ApprovalArtifactView × ApprovalTable :=
  decideArtifact approved ⟨[], []⟩ (fun _ => "identity") artifacts rows call

theorem submitted_live : ∀ artifact, loadBoundArtifact (fun _ => "identity") artifacts
    clock.loaded (ApprovalRow.inserted patchRequest).item false false = .ok artifact →
      ∃ expires, parseTimestamp artifact.expiresAt = .ok expires ∧ clock.loaded ≤ expires := by
  have hlive : (loadBoundArtifact (fun _ => "identity") artifacts clock.loaded
      (ApprovalRow.inserted patchRequest).item false false).toOption.all (fun artifact =>
        (parseTimestamp artifact.expiresAt).toOption.any fun expires =>
          decide (clock.loaded ≤ expires)) = true := by decide +kernel
  intro artifact hartifact
  rw [hartifact] at hlive
  change (parseTimestamp artifact.expiresAt).toOption.any _ = true at hlive
  cases hexpires : parseTimestamp artifact.expiresAt with
  | error exc =>
    rw [hexpires] at hlive
    cases hlive
  | ok expires =>
    rw [hexpires] at hlive
    exact ⟨expires, rfl, of_decide_eq_true hlive⟩

theorem patchRequest_kept :
    KeptByRedaction (ApprovalRow.inserted patchRequest).item.request "lead-1" "reviewed." := by
  have hreason : redactSensitiveString "reviewed." = "reviewed." :=
    redactSensitiveString_of_plain (by decide +kernel)
  constructor
  · exact redactSensitiveString_of_plain (by decide +kernel)
  · exact redactSensitiveString_of_plain (by decide +kernel)
  · rw [hreason, hreason]
  · intro sha hsha
    cases hsha
    exact redactSensitiveString_of_plain (by decide +kernel)
  · intro e he
    cases he

end Sample

open Sample Rygnal.Artifact.Sample PyText.Ascii in
theorem approved_again : ∃ view rows',
    decideRows true submitted (decisionCall "lead-1") = (.ok view, rows') ∧
      ReturnsRecorded (decideRows true rows' ((decisionCall "lead-1").again clock none)) rows'
        "apr_7d1f" := by
  have hok : (decideRows true submitted (decisionCall "lead-1")).1.toBool = true := by
    decide +kernel
  cases hfirst : decideRows true submitted (decisionCall "lead-1") with
  | mk result rows' =>
    cases result with
    | error exc =>
      rw [hfirst] at hok
      cases hok
    | ok view =>
      refine ⟨view, rows', rfl, ?_⟩
      have hcollision : NoCollision (ApprovalRow.inserted patchRequest).item.request
          (decisionCall "lead-1") ((decisionCall "lead-1").again clock none) := by
        intro payload payload' hpayload hpayload' _
        have hsame := hpayload.symm.trans hpayload'
        cases hsame
        rfl
      have hunique : Table.Unique ApprovalRow.approvalId submitted := List.pairwise_singleton ..
      have hhex : ∀ text, ∀ c ∈ (Digest.sha256 text).toList, c ∈ "0123456789abcdef".toList := by
        intro text
        change ∀ c ∈ "2c26b46b68ffc68ff99b453c1d30413413422d706483bfa0f98a5e886266e7ae".toList, _
        decide +kernel
      exact (decideArtifact_again_iff true hunique rfl rfl rfl hfirst submitted_live hhex
        hcollision).mpr ⟨patchRequest_kept, rfl, fun _ => rfl⟩

open Sample Rygnal.Artifact.Sample PyText.Ascii in
/-- The reviewer `sk-aaaaaaaaaaaa` is stored redacted, and cannot repeat a rejection. -/
theorem rejected_not_again : ∃ view rows',
    decideRows false submitted (decisionCall "sk-aaaaaaaaaaaa") = (.ok view, rows') ∧
      ¬ ReturnsRecorded (decideRows false rows'
        ((decisionCall "sk-aaaaaaaaaaaa").again laterClock none)) rows' "apr_7d1f" := by
  have hruns : ((decideRows false submitted (decisionCall "sk-aaaaaaaaaaaa")).1.toBool &&
      !(decideRows false (decideRows false submitted (decisionCall "sk-aaaaaaaaaaaa")).2
        ((decisionCall "sk-aaaaaaaaaaaa").again laterClock none)).1.toBool) = true := by
    decide +kernel
  cases hfirst : decideRows false submitted (decisionCall "sk-aaaaaaaaaaaa") with
  | mk result rows' =>
    rw [hfirst] at hruns
    cases result with
    | error exc => cases hruns
    | ok view =>
      refine ⟨view, rows', rfl, ?_⟩
      rintro ⟨again, _, _, hsecond, _⟩
      simp only at hruns
      rw [hsecond] at hruns
      cases hruns

end Rygnal.Service
