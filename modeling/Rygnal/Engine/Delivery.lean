import Rygnal.Engine.Stream
import Rygnal.Core.TextLength

/-! # Which results reach the reader

A run reports its result by one terminal event that the reader accepts exactly when every reported
text can be encoded and every line fits the reader's buffer. Otherwise the engine reports a failed
run, or the reader stops, although the repository may be changed already.
-/

namespace Rygnal.Engine
open Rygnal.Core Rygnal.Library Rygnal.Library.Utf8 Rygnal.ChangeRisk Rygnal.Artifact
  Rygnal.GuardedRun Rygnal.Cli

section Delivery
variable [BytesDigest] [GoEncoding] {codec : EngineCodec} {now : EngineEventName → String}
  {fallbackRequestId : DecodedText} (errorType : String) {request : EngineRequest}
  {result : EngineResult}

omit [GoEncoding] in
theorem completed_of_finished
    (hopen : (emit codec (openingEvents now fallbackRequestId request)).2 = true)
    (hfinished : (emit codec (resultEvents now request result)).2 = true)
    {summary : EngineJson} (hsummary : guardedResultSummary request result = some summary) :
    ∃ before : List EngineEvent, (∀ event ∈ before, event.event.isTerminal = false) ∧
      (engineStream codec now fallbackRequestId errorType request result).map Prod.fst =
        before ++ [makeEvent now request .runCompleted (engineStatusForGuardedResult result)
          summary] := by
  have hopened := events_of_finished hopen
  have hreported := (events_of_finished hfinished).trans (resultEvents_of_some hsummary)
  have hreported' : (emit codec (resultEvents now request result)).1.map Prod.fst =
      (reportEvents now request result ++
        if engineStatusForGuardedResult result = .approvalRequired then
          [makeEvent now request .approvalRequired .approvalRequired summary] else []) ++
        [makeEvent now request .runCompleted (engineStatusForGuardedResult result) summary] := by
    apply List.map_injective_iff.mpr (Option.some_injective EngineEvent)
    rw [List.map_map, List.map_append]
    exact hreported
  rw [engineStream_of_finished hfinished, List.map_append, hreported', ← List.append_assoc]
  refine ⟨_, ?_, rfl⟩
  intro event hevent
  rcases List.mem_append.mp hevent with hevent | hevent
  · have ⟨written, hwritten, heq⟩ := List.mem_map.mp hevent
    rw [← heq]
    exact openingEvents_not_terminal (step_of_written hopen hwritten)
  · rcases List.mem_append.mp hevent with hevent | hevent
    · exact reportEvents_not_terminal event hevent
    · split at hevent
      · rw [List.mem_singleton.mp hevent]
        rfl
      · cases hevent

theorem digest_of_reported
    (hdigest : ∀ text, GoEncoding.sha256Hex text = BytesDigest.sha256 (goBytes text))
    (hpatch : ∀ patch ∈ result.patchDiff, ∃ bytes, patch.patch = decode bytes ∧
      patch.patchSha256 = BytesDigest.sha256 bytes)
    (hresult : Encodable request result) {data : RunCompletedData}
    (hdata : data.patch = reportedPatchInfo request result) {patch : String}
    (hpersisted : persistedPatch data = some patch) (requestId eventRequestId : String) :
    (persistedRecord data requestId eventRequestId).patch.sha256 = GoEncoding.sha256Hex patch ∧
      assertPatchDigestMatches (persistedRecord data requestId eventRequestId) patch = .ok () := by
  have hsha : data.patch.sha256 = GoEncoding.sha256Hex patch := by
    rw [persistedPatch] at hpersisted
    split_ifs at hpersisted with hraw
    cases hpersisted
    cases hdiff : result.patchDiff with
    | none => simp [hdata, reportedPatchInfo, hdiff] at hraw
    | some reported =>
      obtain ⟨bytes, hbytes, hsha⟩ := hpatch reported hdiff
      have hinclude : request.includeRawPatch = true := by
        by_contra hinclude
        simp [hdata, reportedPatchInfo, hdiff, hinclude] at hraw
      have hplain := (hresult.patch reported hdiff).2 hinclude
      rw [hbytes] at hplain
      rw [hdata, hdigest, reportedPatchInfo, hdiff]
      simp only [hinclude, if_true]
      rw [hsha, hbytes, goBytes_of_plain hplain]
  refine ⟨hsha, ?_⟩
  simp only [assertPatchDigestMatches, persistedRecord, hsha, hpersisted, Option.map_some,
    Option.getD_some, ne_eq, not_true_eq_false, and_false]
  rfl

/-- A run whose opening events were written reports its result if and only if the reported texts
can be encoded and the lines fit the reader's buffer. -/
theorem reported_iff (hcodec : codec.Lawful)
    (hdigest : ∀ text, GoEncoding.sha256Hex text = BytesDigest.sha256 (goBytes text))
    (hopen : (emit codec (openingEvents now fallbackRequestId request)).2 = true)
    (hpatch : ∀ patch ∈ result.patchDiff, ∃ bytes, patch.patch = decode bytes ∧
      patch.patchSha256 = BytesDigest.sha256 bytes) :
    Reported codec now fallbackRequestId errorType request result ↔
      Encodable request result ∧ LinesFit codec now fallbackRequestId request result := by
  have hrequest := requestId_of_opened hcodec hopen
  constructor
  · intro hreported
    obtain ⟨event, hfilter, hevent, _⟩ := hreported.completed
    have hmem : event ∈ (engineStream codec now fallbackRequestId errorType request result).map
        Prod.fst := by
      apply List.mem_of_mem_filter
      rw [hfilter]
      exact List.mem_singleton_self event
    have hresult := encodable_of_completed hcodec hopen hevent hmem
    have hfinished := (emit_finished hcodec).mpr
      ((resultEvents_plain now hrequest).mpr hresult)
    exact ⟨hresult, linesFit_of_accepted hcodec hopen hfinished hreported.accepted⟩
  · rintro ⟨hresult, hfit⟩
    have hfinished := (emit_finished hcodec).mpr
      ((resultEvents_plain now hrequest).mpr hresult)
    have ⟨summary, hsummary, _⟩ := (guardedResultSummary_plain request result).mpr hresult
    have ⟨before, hbefore, hstream⟩ := completed_of_finished errorType hopen hfinished
      hsummary
    have hread := readRun_of_linesFit errorType hcodec hopen hfinished hfit
    have hget := summary_get hsummary
    refine ⟨⟨makeEvent now request .runCompleted (engineStatusForGuardedResult result) summary, ?_,
      rfl, rfl, hget.1, hget.2.1, ?_⟩, ?_, ?_⟩
    · rw [hstream, List.filter_append, List.filter_eq_nil_iff.mpr]
      · rfl
      · intro event hevent
        rw [hbefore event hevent]
        exact Bool.false_ne_true
    · change (summary.get "patch").bind _ = _
      rw [hget.2.2]
      exact applyOutcome_patchSummary
    · rw [hread]
    · intro last hlast data hdata patch hpersisted requestId eventRequestId
      have hevents := congrArg (List.map EngineEvent.toJson) hstream
      rw [List.map_map, List.map_append, List.map_singleton] at hevents
      rw [hread] at hlast
      change last ∈ (List.map (EngineEvent.toJson ∘ Prod.fst) _).getLast? at hlast
      rw [hevents, List.getLast?_concat] at hlast
      cases hlast
      exact digest_of_reported hdigest hpatch hresult (patch_of_decoded hsummary hdata) hpersisted
        requestId eventRequestId

end Delivery

/-! ## Documents printed in ASCII -/

namespace EngineJson

mutual

/-- A document with its texts as they are shown. -/
def toJson : EngineJson → Json
  | .null => .null
  | .bool value => .bool value
  | .int value => .int value
  | .str text => .str (String.ofList (visible text))
  | .arr items => .array (itemsToJson items)
  | .obj entries => .object (entriesToJson entries)

def itemsToJson : List EngineJson → List Json
  | [] => []
  | item :: items => item.toJson :: itemsToJson items

def entriesToJson : List (String × EngineJson) → List (String × Json)
  | [] => []
  | (key, value) :: entries => (key, value.toJson) :: entriesToJson entries

end

mutual

def ofJson : Json → EngineJson
  | .null => .null
  | .bool value => .bool value
  | .int value => .int value
  | .str text => .text text
  | .array items => .arr (itemsOfJson items)
  | .object entries => .obj (entriesOfJson entries)

def itemsOfJson : List Json → List EngineJson
  | [] => []
  | item :: items => ofJson item :: itemsOfJson items

def entriesOfJson : List (String × Json) → List (String × EngineJson)
  | [] => []
  | (key, value) :: entries => (key, ofJson value) :: entriesOfJson entries

end

mutual

theorem ofJson_toJson : ∀ json : EngineJson, json.Plain → ofJson json.toJson = json
  | .null, _ => rfl
  | .bool _, _ => rfl
  | .int _, _ => rfl
  | .str text, h => by
    rw [toJson, ofJson, EngineJson.text, String.toList_ofList,
      ofText_visible ((plain_str text).mp h)]
  | .arr items, h => by
    rw [toJson, ofJson, itemsOfJson_itemsToJson items ((plain_arr items).mp h)]
  | .obj entries, h => by
    rw [toJson, ofJson, entriesOfJson_entriesToJson entries ((plain_obj entries).mp h)]

theorem itemsOfJson_itemsToJson : ∀ items : List EngineJson, (∀ item ∈ items, item.Plain) →
    itemsOfJson (itemsToJson items) = items
  | [], _ => rfl
  | item :: items, h => by
    rw [List.forall_mem_cons] at h
    rw [itemsToJson, itemsOfJson, ofJson_toJson item h.1, itemsOfJson_itemsToJson items h.2]

theorem entriesOfJson_entriesToJson : ∀ entries : List (String × EngineJson),
    (∀ entry ∈ entries, entry.2.Plain) → entriesOfJson (entriesToJson entries) = entries
  | [], _ => rfl
  | (key, value) :: entries, h => by
    rw [List.forall_mem_cons] at h
    rw [entriesToJson, entriesOfJson, ofJson_toJson value h.1,
      entriesOfJson_entriesToJson entries h.2]

end

/-- `Plain`, as a test. -/
def isPlain (json : EngineJson) : Bool :=
  json.texts.all fun text => text.all fun
    | .char _ => true
    | .escaped _ => false

theorem isPlain_iff (json : EngineJson) : json.isPlain = true ↔ json.Plain := by
  rw [isPlain, Plain, List.all_eq_true]
  constructor
  · intro h text htext byte hbyte
    exact Bool.false_ne_true (List.all_eq_true.mp (h text htext) _ hbyte)
  · intro h text htext
    rw [List.all_eq_true]
    intro c hc
    cases c with
    | char _ => rfl
    | escaped byte => exact absurd hc (h text htext byte)

end EngineJson

/-- The printable characters of ASCII. -/
def Printable (text : PyText.Text) : Prop := ∀ c ∈ text, 0x20 ≤ c.toNat ∧ c.toNat ≤ 0x7E

theorem printable_append {s t : PyText.Text} :
    Printable (s ++ t) ↔ Printable s ∧ Printable t :=
  List.forall_mem_append

theorem printable_cons {c : Char} {t : PyText.Text} :
    Printable (c :: t) ↔ (0x20 ≤ c.toNat ∧ c.toNat ≤ 0x7E) ∧ Printable t := List.forall_mem_cons

theorem printable_hexDigit (n : ℕ) :
    0x20 ≤ (Json.hexDigit (n % 16)).toNat ∧ (Json.hexDigit (n % 16)).toNat ≤ 0x7E := by
  have hall : ∀ m < 16, 0x20 ≤ (Json.hexDigit m).toNat ∧ (Json.hexDigit m).toNat ≤ 0x7E := by
    decide
  exact hall (n % 16) (Nat.mod_lt n (by decide))

theorem printable_unicodeEscape (n : ℕ) : Printable (Json.unicodeEscape n) := by
  intro c hc
  simp only [Json.unicodeEscape, List.mem_cons, List.not_mem_nil, or_false] at hc
  rcases hc with rfl | rfl | rfl | rfl | rfl | rfl
  · decide
  · decide
  · exact printable_hexDigit _
  · exact printable_hexDigit _
  · exact printable_hexDigit _
  · exact printable_hexDigit _

theorem printable_escapeChar (c : Char) : Printable (Json.escapeChar c) := by
  rw [Json.escapeChar]
  split_ifs with h1 h2 h3 h4 h5 h6 h7 hplain
  any_goals (unfold Printable; decide)
  · intro d hd
    rwa [List.mem_singleton.mp hd]
  · exact printable_unicodeEscape _
  · exact printable_append.mpr ⟨printable_unicodeEscape _, printable_unicodeEscape _⟩

theorem printable_stringText (s : String) : Printable (Json.stringText s) := by
  rw [Json.stringText, List.cons_append, printable_cons, printable_append]
  refine ⟨by decide, ?_, by unfold Printable; decide⟩
  intro d hd
  obtain ⟨c, _, hc⟩ := List.mem_flatMap.mp hd
  exact printable_escapeChar c d hc

mutual

theorem printable_text : ∀ json : Json, Printable json.text
  | .null => by unfold Printable; decide
  | .bool true => by unfold Printable; decide
  | .bool false => by unfold Printable; decide
  | .int n => by
    intro c hc
    have hall : ∀ c ∈ "-0123456789".toList, 0x20 ≤ c.toNat ∧ c.toNat ≤ 0x7E := by decide
    exact hall c (Value.int_chars hc)
  | .str s => printable_stringText s
  | .array items => by
    rw [Json.text, List.cons_append, printable_cons, printable_append]
    exact ⟨by decide, printable_itemsText items, by unfold Printable; decide⟩
  | .object entries => by
    rw [Json.text, List.cons_append, printable_cons, printable_append]
    exact ⟨by decide, printable_entriesText entries, by unfold Printable; decide⟩

theorem printable_itemsText : ∀ items : List Json, Printable (Json.itemsText items)
  | [] => by unfold Printable; decide
  | [x] => printable_text x
  | x :: y :: ys => by
    rw [Json.itemsText, printable_append, printable_cons]
    · exact ⟨printable_text x, by decide, printable_itemsText (y :: ys)⟩
    · simp

theorem printable_entriesText : ∀ entries : List (String × Json),
    Printable (Json.entriesText entries)
  | [] => by unfold Printable; decide
  | [(key, x)] => by
    rw [Json.entriesText, printable_append, printable_cons]
    exact ⟨printable_stringText key, by decide, printable_text x⟩
  | (key, x) :: e :: es => by
    rw [Json.entriesText, printable_append, printable_append, printable_cons, printable_cons]
    · exact ⟨⟨printable_stringText key, by decide, printable_text x⟩, by decide,
        printable_entriesText (e :: es)⟩
    · simp

end

def asciiBytes (text : PyText.Text) : List UInt8 := text.map fun c => c.toNat.toUInt8

theorem asciiBytes_injective {s t : PyText.Text} (hs : Printable s) (ht : Printable t)
    (h : asciiBytes s = asciiBytes t) : s = t := by
  have hback : ∀ u : PyText.Text, Printable u →
      (asciiBytes u).map (fun byte => Char.ofNat byte.toNat) = u := by
    intro u hu
    rw [asciiBytes, List.map_map]
    conv_rhs => rw [← List.map_id u]
    apply List.map_congr_left
    intro c hc
    have hbound := (hu c hc).2
    have hbyte : c.toNat.toUInt8.toNat = c.toNat := by
      rw [Nat.toUInt8, UInt8.toNat_ofNat']
      omega
    change Char.ofNat c.toNat.toUInt8.toNat = c
    rw [hbyte, Char.ofNat_toNat]
  rw [← hback s hs, h, hback t ht]

/-- Compact JSON with escapes for what is not ASCII. -/
def printJson (json : EngineJson) : Option (List UInt8) :=
  if json.isPlain then some (asciiBytes json.toJson.text) else none

/-! ### The length of a printed document -/

namespace EngineJson

mutual

/-- A bound of the length of the printed document. -/
def printedBound : EngineJson → ℕ
  | .null => 4
  | .bool _ => 5
  | .int value => value.natAbs + 2
  | .str text => 12 * (visible text).length + 2
  | .arr items => itemsBound items + 2
  | .obj entries => entriesBound entries + 2

def itemsBound : List EngineJson → ℕ
  | [] => 0
  | item :: items => item.printedBound + 1 + itemsBound items

def entriesBound : List (String × EngineJson) → ℕ
  | [] => 0
  | (key, value) :: entries => 12 * key.utf8ByteSize + 4 + value.printedBound + entriesBound entries

end

mutual

theorem length_text_le : ∀ json : EngineJson, json.toJson.text.length ≤ json.printedBound
  | .null => le_rfl
  | .bool true => by decide
  | .bool false => le_rfl
  | .int value => Value.length_intText_le value
  | .str text => by
    rw [toJson, Json.text, printedBound]
    have h := Json.length_stringText_le (String.ofList (visible text))
    rwa [String.length_ofList] at h
  | .arr items => by
    have h := length_itemsText_le items
    rw [toJson, Json.text, printedBound]
    simp only [List.cons_append, List.length_cons, List.length_append, List.length_nil]
    omega
  | .obj entries => by
    have h := length_entriesText_le entries
    rw [toJson, Json.text, printedBound]
    simp only [List.cons_append, List.length_cons, List.length_append, List.length_nil]
    omega

theorem length_itemsText_le : ∀ items : List EngineJson,
    (Json.itemsText (itemsToJson items)).length ≤ itemsBound items
  | [] => le_rfl
  | [item] => by
    have h := length_text_le item
    simp only [itemsToJson, Json.itemsText, itemsBound]
    omega
  | item :: next :: items => by
    have h := length_text_le item
    have hrest := length_itemsText_le (next :: items)
    simp only [itemsToJson, Json.itemsText, itemsBound, List.length_append,
      List.length_cons] at hrest ⊢
    omega

theorem length_entriesText_le : ∀ entries : List (String × EngineJson),
    (Json.entriesText (entriesToJson entries)).length ≤ entriesBound entries
  | [] => le_rfl
  | [(key, value)] => by
    have hkey := Json.length_stringText_le key
    have hsize := length_le_utf8ByteSize key
    have h := length_text_le value
    simp only [entriesToJson, Json.entriesText, entriesBound, List.length_append,
      List.length_cons]
    omega
  | (key, value) :: next :: entries => by
    have hkey := Json.length_stringText_le key
    have hsize := length_le_utf8ByteSize key
    have h := length_text_le value
    have hrest := length_entriesText_le (next :: entries)
    simp only [entriesToJson, Json.entriesText, entriesBound, List.length_append,
      List.length_cons] at hrest ⊢
    omega

end

end EngineJson

theorem length_printJson_le {json : EngineJson} {line : List UInt8}
    (h : printJson json = some line) : line.length ≤ json.printedBound := by
  simp only [printJson, Option.ite_none_right_eq_some, Option.some.injEq] at h
  rw [← h.2, asciiBytes, List.length_map]
  exact json.length_text_le

open Classical in
/-- The printer and its inverse. -/
noncomputable def printedCodec : EngineCodec where
  dumpJson := printJson
  unmarshal line :=
    if h : ∃ json : Json, asciiBytes json.text = line then some (.ofJson h.choose) else none

theorem printedCodec_lawful : printedCodec.Lawful where
  dumps json := by
    rw [← EngineJson.isPlain_iff]
    change (printJson json).isSome = true ↔ _
    cases hplain : json.isPlain <;> simp [printJson, hplain]
  oneLine := by
    intro json line hline byte hbyte
    simp only [printedCodec, printJson, Option.ite_none_right_eq_some, Option.some.injEq] at hline
    rw [← hline.2] at hbyte
    have ⟨c, hc, hcbyte⟩ := List.mem_map.mp hbyte
    have hprintable := printable_text _ c hc
    rw [← hcbyte, Nat.toUInt8, UInt8.toNat_ofNat']
    omega
  reads := by
    intro json line hline
    simp only [printedCodec, printJson, Option.ite_none_right_eq_some, Option.some.injEq] at hline
    have hexists : ∃ other : Json, asciiBytes other.text = line := ⟨json.toJson, hline.2⟩
    have hchosen := hexists.choose_spec.trans hline.2.symm
    have htext := asciiBytes_injective (printable_text _) (printable_text _) hchosen
    have hplain := (EngineJson.isPlain_iff json).mp hline.1
    simp only [printedCodec]
    rw [dif_pos hexists, Json.text_injective htext, EngineJson.ofJson_toJson json hplain]

/-! ## A patch of a Latin-1 file -/

namespace Sample

def patchOf (content : List UInt8) : List UInt8 :=
  asciiBytes ("diff --git a/n.txt b/n.txt\nindex 587be6b..975fbec 100644\n--- a/n.txt\n".toList ++
    "+++ b/n.txt\n@@ -1 +1 @@\n-x\n+".toList) ++ content ++ [0x0A]

/-- The digests of the patches of the two runs. -/
@[reducible]
def patchDigest : BytesDigest := ⟨fun bytes =>
  if bytes = patchOf [0xE9] then
    "c290289136c4a3f0e5ca058d671a4237f9edf79a7db0977ddf89926f2df18545"
  else "c64023484a960a33d803f41334f881fa3330519fd077b89d5ff598dc9ad9edee"⟩

@[reducible]
def goEncoding : GoEncoding := ⟨fun text => patchDigest.sha256 (goBytes text), fun _ => "", id⟩

def word (text : String) : DecodedText := ofText text.toList

/-- The request of the command line: the raw patch is asked for. -/
def request : EngineRequest where
  requestId := word "req-1"
  trustedRepoPath := word "/repo"
  command := [word "agent"]
  timeoutSeconds := 900
  unsafeLocalRequested := false
  preserveWorkspace := false
  includeRawPatch := true
  includeStdout := false
  includeStderr := false

/-- A run whose patch was applied to the trusted repository. -/
def applied (content : List UInt8) : EngineResult where
  status := .completed
  runId := some (word "run-1")
  trustedRepoPath := word "/repo"
  baselineCommitSha := some (word "4b825dc642cb6eb9a060e54bf8d69288fbee4904")
  backendName := some (word "docker")
  backendSafeByDefault := true
  containmentVerified := true
  containmentFeatures := []
  cleanupPerformed := true
  cleanupStatus := some (word "destroyed")
  workspaceQuarantined := false
  commandResult := some ⟨some 0, [], [], false, 12⟩
  changedFiles := [⟨word "n.txt", .modified, none, false⟩]
  ignoredFileCount := 0
  patchDiff := some {
    patch := decode (patchOf content)
    patchSha256 := patchDigest.sha256 (patchOf content)
    patchSizeBytes := (patchOf content).length
    files := [⟨word "n.txt", none, .modified, some 1, some 1, false, none, none, false⟩]
    ignoredFileCount := 0 }
  risk := some ⟨.low, [], []⟩
  blockedReason := none
  approvalRequest := none
  patchApplyOutcome := some .applied
  patchArtifactId := none
  normalizedActions := .arr []
  intent := .null
  warnings := []

def clock : EngineEventName → String := fun _ => "2026-01-01T00:00:00+00:00"

theorem opened : (emit printedCodec (@openingEvents patchDigest clock (word "req-1") request)).2 =
    true := by
  have hpath : PlainText request.trustedRepoPath := plainText_ofText _
  have ⟨identity, hidentity⟩ := Option.isSome_iff_exists.mp
    ((@safePathIdentity_isSome patchDigest request.trustedRepoPath).mpr hpath)
  have hplain := @safePathIdentity_plain patchDigest _ _ hidentity
  have hid : PlainText request.requestId := plainText_ofText _
  have hcommand : (@commandSummary patchDigest request.command).Plain := by
    simp [commandSummary, request, word]
  rw [emit_finished printedCodec_lawful]
  simp only [openingEvents, hidentity, Option.map_some, List.forall_mem_cons, Option.some.injEq,
    exists_eq_left', makeEvent_plain]
  simp [EngineEvent.toJson, hid, hplain, hcommand, word]

theorem latin1_not_encodable : ¬ Encodable request (applied [0xE9]) := by
  intro hresult
  have hescaped : .escaped 0xE9 ∈ decode (patchOf [0xE9]) := by decide +kernel
  exact (hresult.patch _ rfl).2 rfl 0xE9 hescaped

/-- The events of the result up to the one that cannot be printed. -/
theorem latin1_reported :
    let emitted := emit printedCodec (@resultEvents patchDigest clock request (applied [0xE9]));
    (emitted.1.map fun written => written.1.event) =
        [.workspaceCreated, .commandFinished, .workspaceCleaned] ∧ emitted.2 = false := by
  let _ := patchDigest
  have hid : PlainText request.requestId := plainText_ofText _
  have ⟨identity, hidentity⟩ := Option.isSome_iff_exists.mp
    ((safePathIdentity_isSome (applied [0xE9]).trustedRepoPath).mpr (plainText_ofText _))
  have hsteps := @resultEvents_of_some patchDigest clock request (applied [0xE9]) _
    (by rw [guardedResultSummary, hidentity, Option.map_some])
  have hreport : ∀ event ∈ reportEvents clock request (applied [0xE9]), event.toJson.Plain := by
    simp [reportEvents, applied, makeEvent_plain, commandResultSummary, streamSummary, request, word]
  rw [if_neg (by decide), List.append_nil] at hsteps
  have hlast : ¬ ∀ step ∈ resultEvents clock request (applied [0xE9]),
      ∃ event, step = some event ∧ event.toJson.Plain := by
    rw [resultEvents_plain clock hid]
    exact latin1_not_encodable
  rw [hsteps] at hlast ⊢
  have hstopped := emit_stopped printedCodec_lawful hreport hlast
  exact ⟨(List.map_map ..).symm.trans (congrArg (List.map EngineEvent.event) hstopped.1),
    hstopped.2⟩

/-- The repository was changed, and no `run.completed` is reported. -/
theorem latin1_patch_not_reported : (applied [0xE9]).patchApplyOutcome = some .applied ∧
    ((@engineStream patchDigest printedCodec clock (word "req-1") "PydanticSerializationError"
      request (applied [0xE9])).map fun written => written.1.event) =
        [.engineStarted, .requestAccepted, .runStarted, .commandStarted, .workspaceCreated,
          .commandFinished, .workspaceCleaned, .runFailed] ∧
    ¬ @Reported patchDigest printedCodec clock (word "req-1") "PydanticSerializationError" request
      (applied [0xE9]) goEncoding := by
  let _ := patchDigest
  let _ := goEncoding
  refine ⟨rfl, ?_, ?_⟩
  · have hopened := congrArg (List.filterMap (Option.map EngineEvent.event))
      (events_of_finished opened)
    have hfailed : (emit printedCodec
        [some (runFailedEvent clock request "PydanticSerializationError")]).2 = true := by
      rw [emit_finished printedCodec_lawful]
      simp [runFailedEvent, EngineEvent.toJson, EngineError.toJson, request, word]
    have hlast := congrArg (List.filterMap (Option.map EngineEvent.event))
      (events_of_finished hfailed)
    rw [List.filterMap_map] at hopened hlast
    change List.filterMap (some ∘ fun written : EngineEvent × List UInt8 => written.1.event) _ = _
      at hopened hlast
    rw [List.filterMap_eq_map] at hopened hlast
    rw [engineStream, List.map_append, List.map_append, latin1_reported.2, if_neg Bool.false_ne_true,
      latin1_reported.1, hopened, hlast]
    rfl
  · intro hreported
    obtain ⟨event, hfilter, hevent, _⟩ := hreported.completed
    have hmem := List.mem_of_mem_filter (hfilter ▸ List.mem_singleton_self event)
    exact latin1_not_encodable (encodable_of_completed printedCodec_lawful opened hevent hmem)

/-- Whether every line of the steps fits, by the bound of its length. -/
def fits [BytesDigest] (result : EngineResult) : Bool :=
  (openingEvents clock (word "req-1") request ++ resultEvents clock request result).all fun step =>
    step.all fun event => event.toJson.printedBound < maxTokenSize

theorem linesFit_of_fits [BytesDigest] {result : EngineResult} (h : fits result = true) :
    LinesFit printedCodec clock (word "req-1") request result := by
  intro event hevent line hline
  have hstep := List.all_eq_true.mp h _ hevent
  rw [Option.all_some, decide_eq_true_eq] at hstep
  exact (length_printJson_le hline).trans_lt hstep

theorem ascii_encodable : Encodable request (applied [0x79]) where
  trustedRepo := plainText_ofText _
  run := by simp [applied, word]
  baseline := by simp [applied, word]
  backend := by simp [applied, word]
  cleanup := by simp [applied, word]
  command := by simp [applied, request]
  changes := by simp [applied, word]
  patch := by
    have hpatch : decode (patchOf [0x79]) = ofText (visible (decode (patchOf [0x79]))) := by
      decide +kernel
    intro patch h
    cases h
    exact ⟨by simp [word], fun _ => hpatch ▸ plainText_ofText _⟩
  risk := by simp [applied]
  blocked := nofun
  approval := nofun
  artifact := nofun
  actions := by simp [applied]
  intent := by simp [applied]
  warnings := nofun

theorem ascii_patch_reported : @Reported patchDigest printedCodec clock (word "req-1") "" request
    (applied [0x79]) goEncoding := by
  refine (@reported_iff patchDigest goEncoding printedCodec clock (word "req-1") "" request
    (applied [0x79]) printedCodec_lawful (fun _ => rfl) opened ?_).mpr ⟨ascii_encodable, ?_⟩
  · intro patch hpatch
    cases hpatch
    exact ⟨patchOf [0x79], rfl, rfl⟩
  · apply @linesFit_of_fits patchDigest
    unfold fits
    rw [List.all_append, Bool.and_eq_true]
    exact ⟨by decide +kernel, by decide +kernel⟩

end Sample

end Rygnal.Engine
