import Rygnal.Engine.EngineApi
import Rygnal.Core.JsonText
import Rygnal.Cli.LocalApply

/-! # The engine's stream and its reader

`readNDJSONStream` of `client.go`, what `persistRunReviewArtifactLocked` writes for the last event
and the digest check of `apply.go`. A result reaches the reader when its texts can be encoded and
its lines fit the reader's buffer, and no other result does.
-/

namespace Rygnal.Engine
open Rygnal.Core Rygnal.Library Rygnal.Library.Utf8 Rygnal.ChangeRisk Rygnal.Artifact
  Rygnal.GuardedRun Rygnal.Cli

/-! ## Texts that can be encoded -/

/-- No byte of the text is escaped. -/
def PlainText (text : DecodedText) : Prop := ∀ byte, .escaped byte ∉ text

@[simp] theorem plainText_ofText (text : PyText.Text) : PlainText (ofText text) := by
  intro byte hbyte
  have ⟨c, _, hc⟩ := List.mem_map.mp hbyte
  cases hc

theorem plainText_cons {c : DecodedChar} {text : DecodedText} :
    PlainText (c :: text) ↔ (∃ d, c = .char d) ∧ PlainText text := by
  cases c with
  | char d => simp [PlainText]
  | escaped byte =>
    simp only [PlainText, List.mem_cons, not_or, reduceCtorEq, exists_false, false_and, iff_false,
      not_forall]
    exact ⟨byte, fun h => h.1 rfl⟩

theorem encodeStrict_isSome (text : DecodedText) : (encodeStrict text).isSome ↔ PlainText text := by
  induction text with
  | nil => simp [encodeStrict, PlainText]
  | cons c text ih =>
    rw [plainText_cons, ← ih]
    cases c <;> simp [encodeStrict]

theorem ofText_visible {text : DecodedText} (h : PlainText text) : ofText (visible text) = text := by
  induction text with
  | nil => rfl
  | cons c text ih =>
    have ⟨⟨d, hd⟩, htext⟩ := plainText_cons.mp h
    subst hd
    exact congrArg (DecodedChar.char d :: ·) (ih htext)

namespace EngineJson

theorem mem_itemTexts {text : DecodedText} (items : List EngineJson) :
    text ∈ itemTexts items ↔ ∃ item ∈ items, text ∈ item.texts := by
  induction items with
  | nil => simp [itemTexts]
  | cons item items ih => simp [itemTexts, ih]

theorem mem_entryTexts {text : DecodedText} (entries : List (String × EngineJson)) :
    text ∈ entryTexts entries ↔ ∃ entry ∈ entries, text ∈ entry.2.texts := by
  induction entries with
  | nil => simp [entryTexts]
  | cons entry entries ih => simp [entryTexts, ih]

@[simp] theorem plain_null : null.Plain := by simp [Plain, texts]

@[simp] theorem plain_bool (b : Bool) : (bool b).Plain := by simp [Plain, texts]

@[simp] theorem plain_int (n : ℤ) : (int n).Plain := by simp [Plain, texts]

@[simp] theorem plain_str (text : DecodedText) : (str text).Plain ↔ PlainText text := by
  simp [Plain, PlainText, texts]

@[simp] theorem plain_text (value : String) : (EngineJson.text value).Plain := by
  simp [EngineJson.text]

@[simp] theorem plain_arr (items : List EngineJson) :
    (arr items).Plain ↔ ∀ item ∈ items, item.Plain := by
  simp only [Plain, texts, mem_itemTexts]
  constructor
  · intro h item hitem text htext
    exact h text ⟨item, hitem, htext⟩
  · rintro h text ⟨item, hitem, htext⟩
    exact h item hitem text htext

@[simp] theorem plain_obj (entries : List (String × EngineJson)) :
    (obj entries).Plain ↔ ∀ entry ∈ entries, entry.2.Plain := by
  simp only [Plain, texts, mem_entryTexts]
  constructor
  · intro h entry hentry text htext
    exact h text ⟨entry, hentry, htext⟩
  · rintro h text ⟨entry, hentry, htext⟩
    exact h entry hentry text htext

@[simp] theorem plain_optional {α : Type} (json : α → EngineJson) (value : Option α) :
    (optional json value).Plain ↔ ∀ a ∈ value, (json a).Plain := by
  cases value <;> simp [optional]

end EngineJson

theorem makeEvent_plain (now : EngineEventName → String) (request : EngineRequest)
    (event : EngineEventName) (status : EngineStatus) (data : EngineJson) :
    (makeEvent now request event status data).toJson.Plain ↔
      PlainText request.requestId ∧ data.Plain := by
  simp [makeEvent, EngineEvent.toJson]

theorem mem_fromKeys {α : Type} [DecidableEq α] {item : α} {items : List α} :
    item ∈ fromKeys items ↔ item ∈ items := by
  have hfold : ∀ kept : List α, item ∈ items.foldl
      (fun kept item => if item ∈ kept then kept else kept ++ [item]) kept ↔
        item ∈ kept ∨ item ∈ items := by
    induction items with
    | nil => simp
    | cons first items ih =>
      intro kept
      rw [List.foldl_cons, ih]
      split
      · rename_i hfirst
        simp only [List.mem_cons]
        constructor
        · rintro (h | h)
          · exact .inl h
          · exact .inr (.inr h)
        · rintro (h | rfl | h)
          · exact .inl h
          · exact .inl hfirst
          · exact .inr h
      · simp [or_assoc]
  simpa [fromKeys] using hfold []

/-- A request and a result whose reported texts hold no undecodable byte. -/
structure Encodable (request : EngineRequest) (result : EngineResult) : Prop where
  trustedRepo : PlainText result.trustedRepoPath
  run : ∀ text ∈ result.runId, PlainText text
  baseline : ∀ text ∈ result.baselineCommitSha, PlainText text
  backend : ∀ text ∈ result.backendName, PlainText text
  cleanup : ∀ text ∈ result.cleanupStatus, PlainText text
  command : ∀ output ∈ result.commandResult,
    (request.includeStdout = true → PlainText output.stdout) ∧
      (request.includeStderr = true → PlainText output.stderr)
  changes : ∀ file ∈ result.changedFiles,
    PlainText file.path ∧ ∀ text ∈ file.oldPath, PlainText text
  patch : ∀ patch ∈ result.patchDiff,
    (∀ file ∈ patch.files, PlainText file.path ∧ (∀ text ∈ file.oldPath, PlainText text) ∧
      (∀ text ∈ file.oldMode, PlainText text) ∧ ∀ text ∈ file.newMode, PlainText text) ∧
        (request.includeRawPatch = true → PlainText patch.patch)
  risk : ∀ risk ∈ result.risk, ∀ reason ∈ risk.reasonCodes, PlainText reason
  blocked : ∀ text ∈ result.blockedReason, PlainText text
  approval : ∀ approval ∈ result.approvalRequest, PlainText approval.approvalId ∧
    PlainText approval.target ∧ (∀ text ∈ approval.policyId, PlainText text) ∧
      PlainText approval.reason
  artifact : ∀ text ∈ result.patchArtifactId, PlainText text
  actions : result.normalizedActions.Plain
  intent : result.intent.Plain
  warnings : ∀ warning ∈ result.warnings, PlainText warning

section Summaries
variable [BytesDigest]
open EngineJson

theorem streamSummary_plain (text : DecodedText) (includeRaw : Bool) :
    (streamSummary text includeRaw).Plain ↔ (includeRaw = true → PlainText text) := by
  cases includeRaw <;> simp [streamSummary]

theorem commandResultSummary_plain (request : EngineRequest) (output : CommandOutput) :
    (commandResultSummary request output).Plain ↔
      (request.includeStdout = true → PlainText output.stdout) ∧
        (request.includeStderr = true → PlainText output.stderr) := by
  simp [commandResultSummary, streamSummary_plain]

theorem safePathIdentity_isSome (path : DecodedText) :
    (safePathIdentity path).isSome ↔ PlainText path := by
  rw [safePathIdentity, Option.isSome_map, encodeStrict_isSome]

theorem safePathIdentity_plain {path : DecodedText} {identity : EngineJson}
    (h : safePathIdentity path = some identity) : identity.Plain := by
  have hpath := (safePathIdentity_isSome path).mp (Option.isSome_of_eq_some h)
  rw [safePathIdentity, Option.map_eq_some_iff] at h
  obtain ⟨bytes, _, rfl⟩ := h
  have hname : PlainText (path.reverse.takeWhile (· ≠ .char '/')).reverse := by
    intro byte hbyte
    rw [List.mem_reverse] at hbyte
    exact hpath byte (List.mem_reverse.mp ((List.takeWhile_sublist _).subset hbyte))
  simpa using hname

omit [BytesDigest] in
theorem approvalSummary_plain (result : EngineResult) :
    (approvalSummary result).Plain ∧ (∀ text ∈ result.patchArtifactId, PlainText text) ↔
      (∀ approval ∈ result.approvalRequest, PlainText approval.approvalId ∧
        PlainText approval.target ∧ (∀ text ∈ approval.policyId, PlainText text) ∧
          PlainText approval.reason) ∧ ∀ text ∈ result.patchArtifactId, PlainText text := by
  cases happroval : result.approvalRequest with
  | none => simp [approvalSummary, happroval]
  | some approval =>
    simp [approvalSummary, happroval]
    tauto

omit [BytesDigest] in
theorem patchSummary_plain (request : EngineRequest) (result : EngineResult) :
    (patchSummary request result).Plain ↔
      (∀ patch ∈ result.patchDiff,
        (∀ file ∈ patch.files, PlainText file.path ∧ (∀ text ∈ file.oldPath, PlainText text) ∧
          (∀ text ∈ file.oldMode, PlainText text) ∧ ∀ text ∈ file.newMode, PlainText text) ∧
            (request.includeRawPatch = true → PlainText patch.patch)) ∧
        ∀ text ∈ result.patchArtifactId, PlainText text := by
  cases hpatch : result.patchDiff with
  | none => simp [patchSummary, hpatch]
  | some patch =>
    cases hraw : request.includeRawPatch
    · simp [patchSummary, hpatch, hraw, ReportedPatchFile.auditSummary]
    · simp only [patchSummary, hpatch, hraw, if_true, plain_obj, List.forall_mem_append,
        List.forall_mem_cons, List.forall_mem_map, ReportedPatchFile.auditSummary, plain_arr]
      simp
      tauto

omit [BytesDigest] in
theorem riskSummary_plain (result : EngineResult) :
    (riskSummary result).Plain ↔
      ∀ risk ∈ result.risk, ∀ reason ∈ risk.reasonCodes, PlainText reason := by
  cases hrisk : result.risk with
  | none => simp [riskSummary, hrisk]
  | some risk =>
    simp only [riskSummary, hrisk, plain_obj, List.forall_mem_cons, List.forall_mem_map, plain_arr]
    simp [mem_fromKeys]

theorem commandResult_plain (request : EngineRequest) (result : EngineResult) :
    (match result.commandResult with
      | some output => commandResultSummary request output
      | none => .obj [("present", .bool false)]).Plain ↔
      ∀ output ∈ result.commandResult, (request.includeStdout = true → PlainText output.stdout) ∧
        (request.includeStderr = true → PlainText output.stderr) := by
  cases result.commandResult <;> simp [commandResultSummary_plain]

theorem guardedResultSummary_plain (request : EngineRequest) (result : EngineResult) :
    (∃ summary, guardedResultSummary request result = some summary ∧ summary.Plain) ↔
      Encodable request result := by
  have hcommand := commandResult_plain request result
  have happroval := approvalSummary_plain result
  constructor
  · rintro ⟨summary, hsummary, hplain⟩
    rw [guardedResultSummary, Option.map_eq_some_iff] at hsummary
    obtain ⟨identity, hidentity, rfl⟩ := hsummary
    have hrepo := (safePathIdentity_isSome _).mp (Option.isSome_of_eq_some hidentity)
    simp only [plain_obj, List.forall_mem_cons, plain_optional, plain_str, plain_arr,
      List.forall_mem_map, patchSummary_plain, riskSummary_plain, plain_text, plain_bool,
      plain_int, true_and, List.not_mem_nil, false_imp_iff, forall_const, and_true,
      implies_true, mem_fromKeys] at hplain
    obtain ⟨hrun, hidentity, hbaseline, hbackend, hcleanup, houtput, hfiles, ⟨hpatch, hartifact⟩,
      hrisk, hblocked, happroved, hactions, hintent, hwarnings⟩ := hplain
    have happroved := happroval.mp ⟨happroved, hartifact⟩
    exact ⟨hrepo, hrun, hbaseline, hbackend, hcleanup, hcommand.mp houtput, hfiles, hpatch,
      hrisk, hblocked, happroved.1, hartifact, hactions, hintent, hwarnings⟩
  · intro h
    obtain ⟨identity, hidentity⟩ :=
      Option.isSome_iff_exists.mp ((safePathIdentity_isSome result.trustedRepoPath).mpr h.trustedRepo)
    refine ⟨_, by rw [guardedResultSummary, hidentity, Option.map_some], ?_⟩
    simp only [plain_obj, List.forall_mem_cons, plain_optional, plain_str, plain_arr,
      List.forall_mem_map, patchSummary_plain, riskSummary_plain, plain_text, plain_bool,
      plain_int, true_and, List.not_mem_nil, false_imp_iff, forall_const, and_true,
      implies_true, mem_fromKeys]
    have happroved := happroval.mpr ⟨h.approval, h.artifact⟩
    exact ⟨h.run, safePathIdentity_plain hidentity, h.baseline, h.backend, h.cleanup,
      hcommand.mpr h.command,
      h.changes, ⟨h.patch, h.artifact⟩, h.risk, h.blocked, happroved.1, h.actions, h.intent,
      h.warnings⟩

end Summaries

/-! ## Emission -/

/-- What the engine and its reader rely on. -/
structure EngineCodec.Lawful (codec : EngineCodec) : Prop where
  dumps : ∀ json, (codec.dumpJson json).isSome ↔ json.Plain
  oneLine : ∀ {json line}, codec.dumpJson json = some line → ∀ byte ∈ line, 0x20 ≤ byte.toNat
  reads : ∀ {json line}, codec.dumpJson json = some line → codec.unmarshal line = some json

section Emission
variable {codec : EngineCodec} {steps : List (Option EngineEvent)}

theorem dump_of_emit : ∀ written ∈ (emit codec steps).1,
    codec.dumpJson written.1.toJson = some written.2 := by
  induction steps with
  | nil => simp [emit]
  | cons step steps ih =>
    cases step with
    | none => simp [emit]
    | some event =>
      rw [emit]
      cases hline : codec.dumpJson event.toJson with
      | none => simp
      | some line => simpa [hline] using ih

theorem emit_finished (hcodec : codec.Lawful) : (emit codec steps).2 = true ↔
    ∀ step ∈ steps, ∃ event, step = some event ∧ event.toJson.Plain := by
  induction steps with
  | nil => simp [emit]
  | cons step steps ih =>
    cases step with
    | none => simp [emit]
    | some event =>
      have hevent := hcodec.dumps event.toJson
      rw [emit, List.forall_mem_cons, ← ih]
      cases hline : codec.dumpJson event.toJson with
      | none => simp_all
      | some line => simp_all

theorem events_of_finished (h : (emit codec steps).2 = true) :
    (emit codec steps).1.map (some ·.1) = steps := by
  induction steps with
  | nil => rfl
  | cons step steps ih =>
    cases step with
    | none => simp [emit] at h
    | some event =>
      rw [emit] at h ⊢
      cases hline : codec.dumpJson event.toJson with
      | none => simp [hline] at h
      | some line =>
        rw [hline] at h
        exact congrArg (some event :: ·) (ih h)

/-- An emission that raises does not write the last event. -/
theorem events_of_unfinished (h : (emit codec steps).2 = false) :
    ∀ written ∈ (emit codec steps).1, some written.1 ∈ steps.dropLast := by
  induction steps with
  | nil => simp [emit]
  | cons step steps ih =>
    cases step with
    | none => simp [emit]
    | some event =>
      rw [emit] at h ⊢
      cases hline : codec.dumpJson event.toJson with
      | none => simp
      | some line =>
        rw [hline] at h
        cases steps with
        | nil => cases h
        | cons next steps =>
          intro written hwritten
          rw [List.dropLast_cons_cons]
          rcases List.mem_cons.mp hwritten with rfl | hwritten
          · exact List.mem_cons_self
          · exact List.mem_cons_of_mem _ (ih h written hwritten)

/-- An emission that raises at its last step has written the others. -/
theorem emit_stopped (hcodec : codec.Lawful) {before : List EngineEvent} {last : EngineEvent}
    (hbefore : ∀ event ∈ before, event.toJson.Plain)
    (hlast : ¬ ∀ step ∈ before.map some ++ [some last],
      ∃ event, step = some event ∧ event.toJson.Plain) :
    (emit codec (before.map some ++ [some last])).1.map Prod.fst = before ∧
      (emit codec (before.map some ++ [some last])).2 = false := by
  induction before with
  | nil =>
    have hnone : codec.dumpJson last.toJson = none := by
      rw [← Option.not_isSome_iff_eq_none, hcodec.dumps]
      simpa using hlast
    simp [emit, hnone]
  | cons event before ih =>
    rw [List.forall_mem_cons] at hbefore
    rw [List.map_cons, List.cons_append, List.forall_mem_cons] at hlast
    have ⟨line, hline⟩ := Option.isSome_iff_exists.mp ((hcodec.dumps _).mpr hbefore.1)
    have ⟨hmap, hfinished⟩ := ih hbefore.2 fun h => hlast ⟨⟨event, rfl, hbefore.1⟩, h⟩
    rw [List.map_cons, List.cons_append, emit, hline]
    exact ⟨congrArg (event :: ·) hmap, hfinished⟩

/-- The line of an event of an emission that did not raise. -/
theorem written_of_finished (h : (emit codec steps).2 = true) {event : EngineEvent}
    (hevent : some event ∈ steps) {line : List UInt8}
    (hline : codec.dumpJson event.toJson = some line) : (event, line) ∈ (emit codec steps).1 := by
  rw [← events_of_finished h] at hevent
  have ⟨written, hwritten, heq⟩ := List.mem_map.mp hevent
  cases heq
  have hdump := dump_of_emit written hwritten
  rw [hline] at hdump
  cases hdump
  exact hwritten

theorem step_of_written (h : (emit codec steps).2 = true) {written : EngineEvent × List UInt8}
    (hwritten : written ∈ (emit codec steps).1) : some written.1 ∈ steps := by
  have hmem := List.mem_map_of_mem (f := fun entry : EngineEvent × List UInt8 => some entry.1)
    hwritten
  rwa [events_of_finished h] at hmem

end Emission

section Events
variable [BytesDigest] {codec : EngineCodec} {now : EngineEventName → String}
  {fallbackRequestId : DecodedText} {request : EngineRequest} {result : EngineResult}

theorem openingEvents_not_terminal {event : EngineEvent}
    (h : some event ∈ openingEvents now fallbackRequestId request) :
    event.event.isTerminal = false := by
  cases hidentity : safePathIdentity request.trustedRepoPath with
  | none =>
    simp only [openingEvents, hidentity, Option.map_none, List.mem_cons, Option.some.injEq,
      reduceCtorEq, List.not_mem_nil, or_false, false_or] at h
    rcases h with rfl | rfl <;> rfl
  | some identity =>
    simp only [openingEvents, hidentity, Option.map_some, List.mem_cons, Option.some.injEq,
      List.not_mem_nil, or_false] at h
    rcases h with rfl | rfl | rfl | rfl <;> rfl

/-- A run that was opened has a request whose id can be encoded. -/
theorem requestId_of_opened (hcodec : codec.Lawful)
    (hopen : (emit codec (openingEvents now fallbackRequestId request)).2 = true) :
    PlainText request.requestId := by
  have hplain := (emit_finished hcodec).mp hopen
  have ⟨event, hevent, hdocument⟩ := hplain _ (List.mem_cons_of_mem _ List.mem_cons_self)
  rw [Option.map_eq_some_iff] at hevent
  obtain ⟨identity, _, rfl⟩ := hevent
  exact ((makeEvent_plain now request _ _ _).mp hdocument).1

/-- The events before the last one. -/
def reportEvents (now : EngineEventName → String) (request : EngineRequest)
    (result : EngineResult) : List EngineEvent :=
  (match result.runId with
    | some runId => [makeEvent now request .workspaceCreated .workspaceCreated
        (.obj [("run_id", .str runId),
          ("baseline_commit_sha", .optional .str result.baselineCommitSha),
          ("workspace_path_returned", .bool false)])]
    | none => []) ++
  (match result.commandResult with
    | some output => [makeEvent now request .commandFinished .commandFinished
        (commandResultSummary request output)]
    | none => []) ++
  [makeEvent now request .workspaceCleaned .workspaceCleaned
    (.obj [("cleanup_performed", .bool result.cleanupPerformed),
      ("cleanup_status", .optional .str result.cleanupStatus),
      ("workspace_path_returned", .bool false)])]

theorem reportEvents_not_terminal :
    ∀ event ∈ reportEvents now request result, event.event.isTerminal = false := by
  rw [reportEvents]
  cases result.runId <;> cases result.commandResult <;> simp [makeEvent] <;> decide

theorem resultEvents_of_none (h : guardedResultSummary request result = none) :
    resultEvents now request result = (reportEvents now request result).map some ++ [none] := by
  rw [resultEvents, reportEvents, h]
  cases result.runId <;> cases result.commandResult <;> rfl

theorem resultEvents_of_some {summary : EngineJson}
    (h : guardedResultSummary request result = some summary) :
    resultEvents now request result = (reportEvents now request result ++
      if engineStatusForGuardedResult result = .approvalRequired then
        [makeEvent now request .approvalRequired .approvalRequired summary] else []).map some ++
      [some (makeEvent now request .runCompleted (engineStatusForGuardedResult result) summary)] := by
  rw [resultEvents, reportEvents, h]
  dsimp only
  split_ifs <;> cases result.runId <;> cases result.commandResult <;> rfl

theorem resultEvents_not_terminal {event : EngineEvent}
    (h : some event ∈ (resultEvents now request result).dropLast) :
    event.event.isTerminal = false := by
  cases hsummary : guardedResultSummary request result with
  | none =>
    rw [resultEvents_of_none hsummary, List.dropLast_concat] at h
    have ⟨event', hevent, heq⟩ := List.mem_map.mp h
    cases heq
    exact reportEvents_not_terminal event hevent
  | some summary =>
    rw [resultEvents_of_some hsummary, List.dropLast_concat] at h
    have ⟨event', hevent, heq⟩ := List.mem_map.mp h
    cases heq
    rcases List.mem_append.mp hevent with hevent | hevent
    · exact reportEvents_not_terminal event hevent
    · split at hevent
      · rw [List.mem_singleton.mp hevent]
        rfl
      · cases hevent

theorem reportEvents_plain (hrequest : PlainText request.requestId)
    (hresult : Encodable request result) :
    ∀ event ∈ reportEvents now request result, event.toJson.Plain := by
  have hrun := hresult.run
  have hcommand := hresult.command
  rw [reportEvents]
  cases hid : result.runId <;> cases hresultCommand : result.commandResult <;>
    simp_all [makeEvent_plain, commandResultSummary_plain, hresult.baseline, hresult.cleanup]

/-- Every event of a result can be written exactly when its texts can be encoded. -/
theorem resultEvents_plain (now : EngineEventName → String)
    (hrequest : PlainText request.requestId) :
    (∀ step ∈ resultEvents now request result, ∃ event, step = some event ∧ event.toJson.Plain) ↔
      Encodable request result := by
  rw [← guardedResultSummary_plain]
  cases hsummary : guardedResultSummary request result with
  | none =>
    rw [resultEvents_of_none hsummary]
    constructor
    · intro h
      have ⟨event, hevent, _⟩ := h none (List.mem_append_right _ (List.mem_singleton_self _))
      cases hevent
    · rintro ⟨summary, h, _⟩
      cases h
  | some summary =>
    constructor
    · intro h
      rw [resultEvents_of_some hsummary] at h
      have ⟨event, hevent, hplain⟩ := h _ (List.mem_append_right _ (List.mem_singleton_self _))
      cases hevent
      exact ⟨summary, rfl, ((makeEvent_plain now request _ _ _).mp hplain).2⟩
    · rintro ⟨summary', h, hplain⟩ step hstep
      cases h
      have hresult := (guardedResultSummary_plain request result).mp ⟨summary, hsummary, hplain⟩
      rw [resultEvents_of_some hsummary, List.mem_append, List.mem_map, List.mem_singleton] at hstep
      rcases hstep with ⟨event, hevent, rfl⟩ | rfl
      · refine ⟨event, rfl, ?_⟩
        rcases List.mem_append.mp hevent with hevent | hevent
        · exact reportEvents_plain hrequest hresult event hevent
        · split at hevent
          · rw [List.mem_singleton.mp hevent]
            exact (makeEvent_plain now request _ _ _).mpr ⟨hrequest, hplain⟩
          · cases hevent
      · exact ⟨_, rfl, (makeEvent_plain now request _ _ _).mpr ⟨hrequest, hplain⟩⟩

end Events

/-! ## The reader -/

/-- The lines of a stream; the last one may lack its newline. -/
def splitLines : List UInt8 → List (List UInt8)
  | [] => []
  | byte :: bytes =>
    if byte = 0x0A then [] :: splitLines bytes
    else match splitLines bytes with
      | [] => [[byte]]
      | line :: lines => (byte :: line) :: lines

/-- `dropCR` of `bufio.ScanLines`. -/
def dropCR (line : List UInt8) : List UInt8 :=
  if line.getLast? = some 0x0D then line.dropLast else line

/-- The limit that `readNDJSONStream` gives its scanner. -/
def maxTokenSize : ℕ := 10 * 1024 * 1024

inductive StreamError where
  | nonJsonLine (line : List UInt8)
  | unexpectedProtocolVersion (version : String)
  | readStream
deriving DecidableEq, Repr

/-- A string field of a Go structure: a missing or null value leaves it empty. -/
def stringField (json : EngineJson) (key : String) : Option String :=
  match json.get key with
  | none | some .null => some ""
  | some (.str text) => some (String.ofList (visible text))
  | some _ => none

def boolField (json : EngineJson) (key : String) : Option Bool :=
  match json.get key with
  | none | some .null => some false
  | some (.bool value) => some value
  | some _ => none

/-- The loop of `readNDJSONStream`: the events that it read, and its error. The buffer holds a line
together with its newline. -/
def readLines (codec : EngineCodec) : List (List UInt8) → List EngineJson × Option StreamError
  | [] => ([], none)
  | line :: lines =>
    if maxTokenSize ≤ line.length then ([], some .readStream)
    else match codec.unmarshal (dropCR line) with
      | none => ([], some (.nonJsonLine (dropCR line)))
      | some event => match stringField event "protocol_version" with
        | none => ([], some (.nonJsonLine (dropCR line)))
        | some version =>
          if version ≠ protocolVersion then ([], some (.unexpectedProtocolVersion version))
          else (event :: (readLines codec lines).1, (readLines codec lines).2)

/-- `readNDJSONStream` of the engine's output. -/
def readNDJSONStream (codec : EngineCodec) (stdout : List UInt8) :
    List EngineJson × Option StreamError :=
  readLines codec (splitLines stdout)

/-- What `_emit` writes for its lines. -/
def ndjson (lines : List (List UInt8)) : List UInt8 := lines.flatMap (· ++ [0x0A])

/-- The patch of `RunCompletedData`. -/
def decodePatchInfo (patch : EngineJson) : Option PatchInfo := do
  return ⟨← boolField patch "generated", ← stringField patch "sha256", ← stringField patch "raw"⟩

def decodeApprovalInfo (approval : EngineJson) : Option ApprovalInfo := do
  return ⟨← boolField approval "required", ← stringField approval "approval_id",
    ← stringField approval "target"⟩

/-- An object field of a Go structure. -/
def objectField {α : Type} (decode : EngineJson → Option α) (json : EngineJson) (key : String) :
    Option α :=
  match json.get key with
  | none | some .null => decode (.obj [])
  | some (.obj entries) => decode (.obj entries)
  | some _ => none

/-- `DecodeRunCompletedData`. -/
def decodeRunCompletedData (event : EngineJson) : Option RunCompletedData := do
  let data := (event.get "data").getD (.obj [])
  return ⟨← stringField data "status", ← stringField data "run_id",
    ← stringField data "baseline_commit_sha", ← objectField decodePatchInfo data "patch",
    ← objectField decodeApprovalInfo data "approval"⟩

theorem splitLines_line {line : List UInt8} (h : 0x0A ∉ line) (bytes : List UInt8) :
    splitLines (line ++ 0x0A :: bytes) = line :: splitLines bytes := by
  induction line with
  | nil => rw [List.nil_append, splitLines, if_pos rfl]
  | cons byte line ih =>
    have ⟨hbyte, hline⟩ := not_or.mp (mt List.mem_cons.mpr h)
    rw [List.cons_append, splitLines, if_neg (Ne.symm hbyte), ih hline]

theorem splitLines_ndjson {lines : List (List UInt8)} (h : ∀ line ∈ lines, 0x0A ∉ line) :
    splitLines (ndjson lines) = lines := by
  induction lines with
  | nil => rfl
  | cons line lines ih =>
    rw [List.forall_mem_cons] at h
    rw [ndjson, List.flatMap_cons, List.append_assoc, List.singleton_append, splitLines_line h.1]
    exact congrArg (line :: ·) (ih h.2)

theorem dropCR_of_printed {line : List UInt8} (h : ∀ byte ∈ line, 0x20 ≤ byte.toNat) :
    dropCR line = line := by
  rw [dropCR, if_neg]
  intro hlast
  have hbyte := h _ (List.mem_of_getLast? hlast)
  exact absurd hbyte (by decide)

section Reader
variable {codec : EngineCodec} {written : List (EngineEvent × List UInt8)}

theorem protocolVersion_of_event (event : EngineEvent) :
    stringField event.toJson "protocol_version" = some protocolVersion := by
  simp [stringField, EngineEvent.toJson, EngineJson.get, EngineJson.text, protocolVersion]

/-- A line that was written is read back unless it exceeds the reader's buffer. -/
theorem readLines_cons (hcodec : codec.Lawful) {event : EngineEvent} {line : List UInt8}
    (hline : codec.dumpJson event.toJson = some line) (lines : List (List UInt8)) :
    readLines codec (line :: lines) =
      if maxTokenSize ≤ line.length then ([], some .readStream)
      else (event.toJson :: (readLines codec lines).1, (readLines codec lines).2) := by
  rw [readLines, dropCR_of_printed (hcodec.oneLine hline), hcodec.reads hline]
  simp only [protocolVersion_of_event, ne_eq, not_true_eq_false, if_false]

theorem readLines_written (hcodec : codec.Lawful)
    (hwritten : ∀ entry ∈ written, codec.dumpJson entry.1.toJson = some entry.2)
    (hshort : ∀ entry ∈ written, entry.2.length < maxTokenSize) :
    readLines codec (written.map Prod.snd) = (written.map fun entry => entry.1.toJson, none) := by
  induction written with
  | nil => rfl
  | cons entry written ih =>
    rw [List.forall_mem_cons] at hwritten hshort
    rw [List.map_cons, readLines_cons hcodec hwritten.1, if_neg (not_le_of_gt hshort.1),
      ih hwritten.2 hshort.2]
    rfl

theorem short_of_readLines (hcodec : codec.Lawful)
    (hwritten : ∀ entry ∈ written, codec.dumpJson entry.1.toJson = some entry.2)
    (hread : (readLines codec (written.map Prod.snd)).2 = none) :
    ∀ entry ∈ written, entry.2.length < maxTokenSize := by
  induction written with
  | nil => simp
  | cons entry written ih =>
    rw [List.forall_mem_cons] at hwritten ⊢
    rw [List.map_cons, readLines_cons hcodec hwritten.1] at hread
    split_ifs at hread with hlong
    exact ⟨not_le.mp hlong, ih hwritten.2 hread⟩

theorem splitLines_written (hcodec : codec.Lawful)
    (hwritten : ∀ entry ∈ written, codec.dumpJson entry.1.toJson = some entry.2) :
    splitLines (ndjson (written.map Prod.snd)) = written.map Prod.snd := by
  apply splitLines_ndjson
  intro line hline hnewline
  have ⟨entry, hentry, hsnd⟩ := List.mem_map.mp hline
  rw [← hsnd] at hnewline
  exact absurd (hcodec.oneLine (hwritten entry hentry) _ hnewline) (by decide)

end Reader

/-! ## What the reader receives -/

/-- The bytes of a Go string. -/
def goBytes (text : String) : List UInt8 := text.toList.flatMap String.utf8EncodeChar

theorem encodeEscaped_of_plain {text : DecodedText} (h : PlainText text) :
    encodeEscaped text = some ((visible text).flatMap String.utf8EncodeChar) := by
  induction text with
  | nil => rfl
  | cons c text ih =>
    have ⟨⟨d, hd⟩, htext⟩ := plainText_cons.mp h
    subst hd
    rw [encodeEscaped, ih htext]
    rfl

/-- The text of valid bytes reaches Go as these bytes. -/
theorem goBytes_of_plain {bytes : List UInt8} (h : PlainText (decode bytes)) :
    goBytes (String.ofList (visible (decode bytes))) = bytes := by
  have hbytes := encodeEscaped_decode bytes
  rw [encodeEscaped_of_plain h] at hbytes
  rw [goBytes, String.toList_ofList]
  exact Option.some.inj hbytes

/-- What `PatchInfo` receives of `_patch_summary`. -/
def reportedPatchInfo (request : EngineRequest) (result : EngineResult) : PatchInfo :=
  match result.patchDiff with
  | none => ⟨false, "", ""⟩
  | some patch => ⟨true, patch.patchSha256,
      if request.includeRawPatch then String.ofList (visible patch.patch) else ""⟩

theorem decodePatchInfo_patchSummary (request : EngineRequest) (result : EngineResult) :
    decodePatchInfo (patchSummary request result) = some (reportedPatchInfo request result) := by
  cases hpatch : result.patchDiff with
  | none =>
    simp [patchSummary, hpatch, decodePatchInfo, reportedPatchInfo, boolField, stringField,
      EngineJson.get, List.lookup_cons]
  | some patch =>
    cases hraw : request.includeRawPatch <;>
      simp [patchSummary, hpatch, hraw, decodePatchInfo, reportedPatchInfo, boolField, stringField,
        EngineJson.get, EngineJson.text, List.lookup_cons]

section Summary
variable [BytesDigest] {request : EngineRequest} {result : EngineResult} {summary : EngineJson}

theorem summary_get (h : guardedResultSummary request result = some summary) :
    summary.get "status" = some (.text (engineStatusForGuardedResult result).value) ∧
      summary.get "run_id" = some (.optional .str result.runId) ∧
        summary.get "patch" = some (patchSummary request result) := by
  rw [guardedResultSummary, Option.map_eq_some_iff] at h
  obtain ⟨identity, _, rfl⟩ := h
  simp [EngineJson.get, List.lookup_cons]

omit [BytesDigest] in
theorem applyOutcome_patchSummary : (patchSummary request result).get "apply_outcome" =
    some (.optional (fun outcome => .text (applyOutcomeValue outcome)) result.patchApplyOutcome) := by
  cases hpatch : result.patchDiff with
  | none => simp [patchSummary, hpatch, EngineJson.get, List.lookup_cons]
  | some patch => simp [patchSummary, hpatch, EngineJson.get, List.lookup_cons]

theorem patch_of_decoded (h : guardedResultSummary request result = some summary)
    {now : EngineEventName → String} {data : RunCompletedData}
    (hdata : decodeRunCompletedData (makeEvent now request .runCompleted
      (engineStatusForGuardedResult result) summary).toJson = some data) :
    data.patch = reportedPatchInfo request result := by
  have hget : (makeEvent now request .runCompleted (engineStatusForGuardedResult result)
      summary).toJson.get "data" = some summary := by
    simp [makeEvent, EngineEvent.toJson, EngineJson.get, List.lookup_cons]
  have hpatch : objectField decodePatchInfo summary "patch" =
      some (reportedPatchInfo request result) := by
    rw [objectField, (summary_get h).2.2, ← decodePatchInfo_patchSummary]
    cases hdiff : result.patchDiff <;> simp only [patchSummary, hdiff]
  simp only [decodeRunCompletedData, hget, Option.getD_some, hpatch, Option.bind_eq_bind,
    Option.bind_eq_some_iff, Option.some.injEq, Option.pure_def] at hdata
  obtain ⟨_, _, _, _, _, _, _, rfl, _, _, rfl⟩ := hdata
  rfl

end Summary

/-- The event carries the status, the run id and the apply outcome of the result. -/
structure CarriesOutcome (event : EngineEvent) (result : EngineResult) : Prop where
  status : event.status = engineStatusForGuardedResult result
  summaryStatus : event.data.get "status" =
    some (.text (engineStatusForGuardedResult result).value)
  runId : event.data.get "run_id" = some (.optional .str result.runId)
  applyOutcome : (event.data.get "patch").bind (·.get "apply_outcome") =
    some (.optional (fun outcome => .text (applyOutcomeValue outcome)) result.patchApplyOutcome)

section Reports
variable [BytesDigest] (codec : EngineCodec) (now : EngineEventName → String)
  (fallbackRequestId : DecodedText) (errorType : String) (request : EngineRequest)
  (result : EngineResult)

/-- What the engine's bytes are read as. -/
def readRun : List EngineJson × Option StreamError :=
  readNDJSONStream codec
    (ndjson ((engineStream codec now fallbackRequestId errorType request result).map Prod.snd))

/-- The run is reported by the one terminal event `run.completed` with its outcome, the reader
accepts the stream, and a patch that is written to `patch.diff` has the digest of the record. -/
structure Reported [GoEncoding] : Prop where
  completed : ∃ event, ((engineStream codec now fallbackRequestId errorType request result).map
      Prod.fst).filter (fun event => event.event.isTerminal) = [event] ∧
    event.event = .runCompleted ∧ CarriesOutcome event result
  accepted : (readRun codec now fallbackRequestId errorType request result).2 = none
  digest : ∀ last ∈ (readRun codec now fallbackRequestId errorType request result).1.getLast?,
    ∀ data ∈ decodeRunCompletedData last, ∀ patch ∈ persistedPatch data,
      ∀ requestId eventRequestId,
        (persistedRecord data requestId eventRequestId).patch.sha256 = GoEncoding.sha256Hex patch ∧
          assertPatchDigestMatches (persistedRecord data requestId eventRequestId) patch = .ok ()

/-- Every event of the run is a line that the reader's buffer holds. -/
def LinesFit : Prop :=
  ∀ event, some event ∈ openingEvents now fallbackRequestId request ++
      resultEvents now request result →
    ∀ line ∈ codec.dumpJson event.toJson, line.length < maxTokenSize

variable {codec now fallbackRequestId errorType request result}

theorem encodable_of_completed (hcodec : codec.Lawful)
    (hopen : (emit codec (openingEvents now fallbackRequestId request)).2 = true)
    {event : EngineEvent} (hevent : event.event = .runCompleted)
    (hmem : event ∈ (engineStream codec now fallbackRequestId errorType request result).map
      Prod.fst) : Encodable request result := by
  rw [← resultEvents_plain now (requestId_of_opened hcodec hopen), ← emit_finished hcodec]
  by_contra hunfinished
  rw [Bool.not_eq_true] at hunfinished
  have ⟨written, hwritten, heq⟩ := List.mem_map.mp hmem
  have hterminal : written.1.event.isTerminal = true := by
    rw [heq, hevent]
    rfl
  rw [engineStream, List.mem_append, List.mem_append] at hwritten
  rcases hwritten with (hwritten | hwritten) | hwritten
  · have hnot := openingEvents_not_terminal (step_of_written hopen hwritten)
    simp [hnot] at hterminal
  · have hnot := resultEvents_not_terminal (events_of_unfinished hunfinished written hwritten)
    simp [hnot] at hterminal
  · rw [hunfinished] at hwritten
    have hfailed : written.1 = runFailedEvent now request errorType := by
      simp only [Bool.false_eq_true, if_false, emit] at hwritten
      split at hwritten
      · cases hwritten
      · rw [List.mem_singleton.mp hwritten]
    rw [← heq, hfailed] at hevent
    cases hevent

theorem engineStream_of_finished
    (hfinished : (emit codec (resultEvents now request result)).2 = true) :
    engineStream codec now fallbackRequestId errorType request result =
      (emit codec (openingEvents now fallbackRequestId request)).1 ++
        (emit codec (resultEvents now request result)).1 := by
  rw [engineStream, hfinished, if_pos rfl, List.append_nil]

theorem dump_of_engineStream :
    ∀ entry ∈ engineStream codec now fallbackRequestId errorType request result,
      codec.dumpJson entry.1.toJson = some entry.2 := by
  intro entry hentry
  rw [engineStream, List.mem_append, List.mem_append] at hentry
  rcases hentry with (hentry | hentry) | hentry
  · exact dump_of_emit entry hentry
  · exact dump_of_emit entry hentry
  · split at hentry
    · cases hentry
    · exact dump_of_emit entry hentry

theorem linesFit_of_accepted (hcodec : codec.Lawful)
    (hopen : (emit codec (openingEvents now fallbackRequestId request)).2 = true)
    (hfinished : (emit codec (resultEvents now request result)).2 = true)
    (haccepted : (readRun codec now fallbackRequestId errorType request result).2 = none) :
    LinesFit codec now fallbackRequestId request result := by
  rw [readRun, readNDJSONStream, splitLines_written hcodec dump_of_engineStream] at haccepted
  have hshort := short_of_readLines hcodec dump_of_engineStream haccepted
  rw [engineStream_of_finished hfinished] at hshort
  intro event hevent line hline
  refine hshort (event, line) ?_
  rcases List.mem_append.mp hevent with hevent | hevent
  · exact List.mem_append_left _ (written_of_finished hopen hevent hline)
  · exact List.mem_append_right _ (written_of_finished hfinished hevent hline)

theorem readRun_of_linesFit (errorType : String) (hcodec : codec.Lawful)
    (hopen : (emit codec (openingEvents now fallbackRequestId request)).2 = true)
    (hfinished : (emit codec (resultEvents now request result)).2 = true)
    (hfit : LinesFit codec now fallbackRequestId request result) :
    readRun codec now fallbackRequestId errorType request result =
      ((engineStream codec now fallbackRequestId errorType request result).map
        fun entry => entry.1.toJson, none) := by
  rw [readRun, readNDJSONStream, splitLines_written hcodec dump_of_engineStream]
  apply readLines_written hcodec dump_of_engineStream
  intro entry hentry
  have hdump := dump_of_engineStream entry hentry
  rw [engineStream_of_finished hfinished, List.mem_append] at hentry
  rcases hentry with hentry | hentry
  · exact hfit entry.1 (List.mem_append_left _ (step_of_written hopen hentry)) entry.2 hdump
  · exact hfit entry.1 (List.mem_append_right _ (step_of_written hfinished hentry)) entry.2 hdump

end Reports

end Rygnal.Engine
