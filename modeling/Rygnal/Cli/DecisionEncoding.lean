import Rygnal.Cli.LocalReview
import Rygnal.Core.JsonText
import Rygnal.Library.Utf8

/-! # Decision records between memory and file

The JSON strings of `encoding/json`, and the decision record that `runDecisionCommandLocked`
writes for texts of any bytes, read back and validated.
-/

namespace Rygnal.Cli
open Rygnal.Core Rygnal.Library Rygnal.Library.PyText Rygnal.Library.Utf8

/-! ## Go strings -/

/-- A Go string by its runes and the bytes that begin none. -/
abbrev GoString := DecodedText

/-- The string of some bytes. -/
def goString (bytes : List UInt8) : GoString := Utf8.decode bytes

/-- `utf8.ValidString`. -/
def IsValid (text : GoString) : Prop := text = ofText (visible text)

def isSpaceRune : DecodedChar → Bool
  | .char c => isSpace c
  | .escaped _ => false

/-- `strings.TrimSpace`. -/
def trimSpaceBytes (text : GoString) : GoString :=
  (text.rdropWhile isSpaceRune).dropWhile isSpaceRune

/-! ## JSON strings -/

/-- The escape of a character under `json.Marshal`. -/
def quoteChar (c : Char) : Text :=
  if c = '"' ∨ c = '\\' then ['\\', c]
  else if c.toNat = 0x08 then ['\\', 'b']
  else if c.toNat = 0x0C then ['\\', 'f']
  else if c = '\n' then ['\\', 'n']
  else if c = '\r' then ['\\', 'r']
  else if c = '\t' then ['\\', 't']
  else if c.toNat < 0x20 ∨ c ∈ ['<', '>', '&'] ∨ c.toNat = 0x2028 ∨ c.toNat = 0x2029 then
    Json.unicodeEscape c.toNat
  else [c]

/-- `appendString`: a byte that begins no rune is written as an escape. -/
def quoteRune : DecodedChar → Text
  | .char c => quoteChar c
  | .escaped _ => Json.unicodeEscape 0xFFFD

def quoteBody (text : GoString) : Text := text.flatMap quoteRune

def hexValue (c : Char) : Option ℕ :=
  if c.isDigit then some (c.toNat - 0x30)
  else if 'a' ≤ c ∧ c ≤ 'f' then some (c.toNat - 0x61 + 10)
  else if 'A' ≤ c ∧ c ≤ 'F' then some (c.toNat - 0x41 + 10)
  else none

/-- The digits of an escape, without its `\u`. -/
def getu4 : Text → Option ℕ
  | a :: b :: c :: d :: _ => do
    let a ← hexValue a
    let b ← hexValue b
    let c ← hexValue c
    let d ← hexValue d
    return ((a * 16 + b) * 16 + c) * 16 + d
  | _ => none

/-- `utf16.DecodeRune` of a code unit and the escape after it. -/
def decodePair (unit : ℕ) : Text → Option Char
  | '\\' :: 'u' :: text =>
    (getu4 text).bind fun low =>
      if 0xD800 ≤ unit ∧ unit < 0xDC00 ∧ 0xDC00 ≤ low ∧ low < 0xE000 then
        some (Char.ofNat (0x10000 + (unit - 0xD800) * 0x400 + (low - 0xDC00)))
      else none
  | _ => none

def unescapeLetter (c : Char) : Option Char :=
  if c = '"' ∨ c = '\\' ∨ c = '/' then some c
  else if c = 'b' then some (Char.ofNat 0x08)
  else if c = 'f' then some (Char.ofNat 0x0C)
  else if c = 'n' then some '\n'
  else if c = 'r' then some '\r'
  else if c = 't' then some '\t'
  else none

/-- The character at a place of a JSON string, with the number of further characters it takes. -/
def readRune (c : Char) (text : Text) : Option (Char × ℕ) :=
  if c = '\\' then
    match text with
    | [] => none
    | letter :: rest =>
      if letter = 'u' then
        (getu4 rest).map fun unit =>
          if 0xD800 ≤ unit ∧ unit < 0xE000 then
            match decodePair unit (rest.drop 4) with
            | some c => (c, 11)
            | none => ('\uFFFD', 5)
          else (Char.ofNat unit, 5)
      else (unescapeLetter letter).map fun c => (c, 1)
  else if c = '"' ∨ c.toNat < 0x20 then none
  else some (c, 0)

/-- `unquote`, with `skip` characters of the current escape still to drop. -/
def unquoteFrom : ℕ → Text → Option Text
  | _, [] => some []
  | skip + 1, _ :: text => unquoteFrom skip text
  | 0, c :: text =>
    (readRune c text).bind fun rune => (unquoteFrom rune.2 text).map (rune.1 :: ·)

/-- `unquote` of what stands between the quotation marks. -/
def unquote (body : Text) : Option Text := unquoteFrom 0 body

/-! ## Reading what was quoted -/

theorem hexValue_hexDigit {n : ℕ} (h : n < 16) : hexValue (Json.hexDigit n) = some n := by
  have hall : ∀ n : Fin 16, hexValue (Json.hexDigit n.val) = some n.val := by decide
  exact hall ⟨n, h⟩

theorem getu4_unicodeEscape {n : ℕ} (h : n < 0x10000) (rest : Text) :
    getu4 ((Json.unicodeEscape n).drop 2 ++ rest) = some n := by
  simp only [Json.unicodeEscape, List.drop_succ_cons, List.drop_zero, List.cons_append, getu4,
    hexValue_hexDigit (Nat.mod_lt _ (by decide : 0 < 16)), bind, Option.bind, pure,
    Option.some.injEq]
  omega

/-- The escape of a code unit that is no surrogate is read as its character. -/
theorem readRune_unicodeEscape {c : Char} (h : c.toNat < 0x10000) (rest : Text) :
    Json.unicodeEscape c.toNat ++ rest =
        '\\' :: ('u' :: ((Json.unicodeEscape c.toNat).drop 2 ++ rest)) ∧
      readRune '\\' ('u' :: ((Json.unicodeEscape c.toNat).drop 2 ++ rest)) = some (c, 5) := by
  refine ⟨rfl, ?_⟩
  have hunit : ¬ (0xD800 ≤ c.toNat ∧ c.toNat < 0xE000) := by
    have hvalid := Json.toNat_not_surrogate c
    omega
  simp only [readRune, if_pos, getu4_unicodeEscape h, Option.map_some, if_neg hunit,
    Char.ofNat_toNat]

theorem unquoteFrom_skip (skipped text : Text) :
    unquoteFrom skipped.length (skipped ++ text) = unquoteFrom 0 text := by
  induction skipped with
  | nil => rfl
  | cons c skipped ih => exact ih

theorem unquoteFrom_unicodeEscape {c : Char} (h : c.toNat < 0x10000) (rest : Text) :
    unquoteFrom 0 (Json.unicodeEscape c.toNat ++ rest) =
      (unquoteFrom 0 rest).map (c :: ·) := by
  have ⟨htext, hread⟩ := readRune_unicodeEscape h rest
  rw [htext, unquoteFrom, hread]
  exact congrArg (Option.map (c :: ·))
    (unquoteFrom_skip ('u' :: (Json.unicodeEscape c.toNat).drop 2) rest)

theorem unquoteFrom_letter {letter c : Char} (hu : letter ≠ 'u')
    (h : unescapeLetter letter = some c) (rest : Text) :
    unquoteFrom 0 ('\\' :: letter :: rest) = (unquoteFrom 0 rest).map (c :: ·) := by
  rw [unquoteFrom]
  have hread : readRune '\\' (letter :: rest) = some (c, 1) := by
    simp only [readRune, if_pos, if_neg hu, h, Option.map_some]
  rw [hread]
  rfl

theorem eq_ofNat_of_toNat {c : Char} {n : ℕ} (h : c.toNat = n) : Char.ofNat n = c := by
  rw [← h, Char.ofNat_toNat]

/-- Each rune is read back as the character that stands for it. -/
theorem unquoteFrom_quoteRune (r : DecodedChar) (rest : Text) :
    unquoteFrom 0 (quoteRune r ++ rest) = (unquoteFrom 0 rest).map (r.visible :: ·) := by
  cases r with
  | escaped byte => exact @unquoteFrom_unicodeEscape '\uFFFD' (by decide) rest
  | char c =>
    change unquoteFrom 0 (quoteChar c ++ rest) = (unquoteFrom 0 rest).map (c :: ·)
    unfold quoteChar
    split_ifs with h1 h2 h3 h4 h5 h6 h7
    · rcases h1 with rfl | rfl
      · exact unquoteFrom_letter (by decide) rfl rest
      · exact unquoteFrom_letter (by decide) rfl rest
    · rw [← eq_ofNat_of_toNat h2]
      exact unquoteFrom_letter (by decide) rfl rest
    · rw [← eq_ofNat_of_toNat h3]
      exact unquoteFrom_letter (by decide) rfl rest
    · subst h4
      exact unquoteFrom_letter (by decide) rfl rest
    · subst h5
      exact unquoteFrom_letter (by decide) rfl rest
    · subst h6
      exact unquoteFrom_letter (by decide) rfl rest
    · apply unquoteFrom_unicodeEscape
      rcases h7 with h | h | h | h
      · omega
      · have hall : ∀ d ∈ ['<', '>', '&'], d.toNat < 0x10000 := by decide
        exact hall c h
      · omega
      · omega
    · rw [not_or] at h1 h7
      have hread : readRune c rest = some (c, 0) := by
        simp only [readRune, if_neg h1.2, if_neg (not_or.mpr ⟨h1.1, h7.1⟩)]
      rw [List.singleton_append, unquoteFrom, hread]
      rfl

/-- A string is read back with a replacement character for each byte that begins no rune. -/
theorem unquote_quoteBody (text : GoString) : unquote (quoteBody text) = some (visible text) := by
  induction text with
  | nil => rfl
  | cons r text ih =>
    rw [unquote] at ih ⊢
    rw [quoteBody, List.flatMap_cons, unquoteFrom_quoteRune, ← quoteBody, ih]
    rfl

/-! ## What the replacement changes -/

theorem length_quoteChar_replacement : (quoteChar '\uFFFD').length = 1 := by decide

/-- The replaced bytes of a text. -/
def invalidBytes (text : GoString) : ℕ := text.countP fun r => r matches .escaped _

theorem isValid_iff (text : GoString) : IsValid text ↔ invalidBytes text = 0 := by
  rw [invalidBytes, List.countP_eq_zero]
  induction text with
  | nil => exact ⟨fun _ => nofun, fun _ => rfl⟩
  | cons r text ih =>
    rw [List.forall_mem_cons, ← ih]
    cases r with
    | char c => simp [IsValid, ofText, visible, DecodedChar.visible]
    | escaped byte => simp [IsValid, ofText, visible]

/-- The escape of an invalid byte is longer than its replacement by five characters. -/
theorem length_quoteBody (text : GoString) : (quoteBody text).length =
    (quoteBody (ofText (visible text))).length + 5 * invalidBytes text := by
  induction text with
  | nil => rfl
  | cons r text ih =>
    have hcons : ∀ (r : DecodedChar) (text : GoString),
        (quoteBody (r :: text)).length = (quoteRune r).length + (quoteBody text).length := by
      intro r text
      rw [quoteBody, List.flatMap_cons, List.length_append, quoteBody]
    have hvisible : ofText (visible (r :: text)) = .char r.visible :: ofText (visible text) := rfl
    rw [hcons, hvisible, hcons, ih, invalidBytes, invalidBytes, List.countP_cons]
    cases r with
    | char c =>
      change (quoteChar c).length + _ = (quoteChar c).length + _ + 5 * (_ + 0)
      omega
    | escaped byte =>
      have hreplacement := length_quoteChar_replacement
      change 6 + _ = (quoteChar '\uFFFD').length + _ + 5 * (_ + 1)
      omega

/-! ## Records in memory -/

/-- A `localDecisionRecord` in memory: the decider and the reason may hold any bytes, and the
other texts come from decoded JSON, from constants or from the clock. -/
structure MemoryDecision where
  schema : String
  runId : String
  approvalId : String
  status : String
  decidedAt : String
  decidedBy : GoString
  reason : GoString
  patchSha256 : String
  baselineCommitSha : String
  engineProtocolVersion : String
  rygnalVersion : String
  authority : String
  authoritySynchronized : Bool
  receiptSha256 : String
deriving DecidableEq

def stringLiteral (text : GoString) : Text := '"' :: (quoteBody text ++ ['"'])

def textLiteral (text : String) : Text := stringLiteral (ofText text.toList)

def boolLiteral (value : Bool) : Text := if value then "true".toList else "false".toList

def memberText (member : String × Text) : Text :=
  '"' :: (member.1.toList ++ '"' :: ':' :: member.2)

def joinMembers : List (String × Text) → Text
  | [] => []
  | [member] => memberText member
  | member :: next :: members => memberText member ++ ',' :: joinMembers (next :: members)

/-- `json.Marshal` of a structure. -/
def marshalObject (members : List (String × Text)) : String :=
  String.ofList ('{' :: (joinMembers members ++ ['\x7d']))

/-- `localDecisionReceiptPayload`. -/
def receiptMembers (decision : MemoryDecision) : List (String × Text) :=
  [("schema", textLiteral decision.schema), ("run_id", textLiteral decision.runId),
    ("approval_id", textLiteral decision.approvalId), ("status", textLiteral decision.status),
    ("decided_at", textLiteral decision.decidedAt),
    ("decided_by", stringLiteral decision.decidedBy), ("reason", stringLiteral decision.reason),
    ("patch_sha256", textLiteral decision.patchSha256),
    ("baseline_commit_sha", textLiteral decision.baselineCommitSha),
    ("engine_protocol_version", textLiteral decision.engineProtocolVersion),
    ("rygnal_version", textLiteral decision.rygnalVersion),
    ("authority", textLiteral decision.authority),
    ("authority_synchronized", boolLiteral decision.authoritySynchronized)]

/-- `hex.EncodeToString(sha256.Sum256(…))` and the verb `%q`. -/
class GoHash where
  sha256Hex : String → String
  quote : String → String

/-- The literal of a field; the structures under a receipt hold texts and truth values. -/
def valueLiteral : Value → Text
  | .str text => textLiteral text
  | .bool value => boolLiteral value
  | _ => "null".toList

instance [GoHash] : GoEncoding where
  sha256Hex := GoHash.sha256Hex
  marshal fields := marshalObject (fields.map fun field => (field.1, valueLiteral field.2))
  quote := GoHash.quote

/-! ## The command -/

inductive DecisionCommand where
  | approve
  | reject
deriving DecidableEq

def DecisionCommand.status : DecisionCommand → String
  | .approve => "approved"
  | .reject => "rejected"

structure DecisionFlags where
  command : DecisionCommand
  yes : Bool
  reason : List UInt8
  decidedBy : List UInt8

/-- The decision that the approval API reports. -/
structure RemoteDecision where
  status : String
  decidedAt : String
  decidedBy : String
  reason : String

/-- What the surroundings answer: the git configuration, the environment variables in their
order, the clock, the version of the build and the approval API, when one is configured. -/
structure DecisionHost where
  email : Option (List UInt8)
  name : Option (List UInt8)
  environment : List (List UInt8)
  now : String
  version : String
  sharedApproval : Option (Except String RemoteDecision)

/-- `defaultDecisionActor`. -/
def defaultDecisionActor (host : DecisionHost) : GoString :=
  let configured := fun answer : Option (List UInt8) =>
    (answer.map fun bytes => trimSpaceBytes (goString bytes)).filter (· ≠ [])
  match configured host.email, configured host.name with
  | some email, some name => name ++ ofText " <".toList ++ email ++ ofText ">".toList
  | some email, none => email
  | none, some name => name
  | none, none =>
    ((host.environment.map fun bytes => trimSpaceBytes (goString bytes)).find? (· ≠ [])).getD
      (ofText "unknown-local-user".toList)

def reasonOf (flags : DecisionFlags) : GoString := trimSpaceBytes (goString flags.reason)

def deciderOf (flags : DecisionFlags) (host : DecisionHost) : GoString :=
  if trimSpaceBytes (goString flags.decidedBy) = [] then defaultDecisionActor host
  else trimSpaceBytes (goString flags.decidedBy)

/-- `canonicalSharedDecision`. -/
def canonicalSharedDecision (remote : RemoteDecision) (requested : MemoryDecision) :
    Except String MemoryDecision := do
  refuseIf (remote.status ≠ requested.status) "shared approval decision details are inconsistent"
  refuseIf (remote.decidedBy = "" ∨ remote.decidedAt = "" ∨ remote.reason = "")
    "shared approval decision details are incomplete"
  refuseIf (ofText remote.decidedBy.toList ≠ requested.decidedBy ∨
      ofText remote.reason.toList ≠ requested.reason)
    "shared approval already has different decision details"
  return { requested with
    authority := "shared_api"
    authoritySynchronized := true
    decidedAt := remote.decidedAt
    decidedBy := ofText remote.decidedBy.toList
    reason := ofText remote.reason.toList }

/-- The decision with the canonical values of the shared authority. -/
def sharedOrLocal (record : RunReviewRecord) (requested : MemoryDecision)
    (sharedApproval : Option (Except String RemoteDecision)) : Except String MemoryDecision :=
  match sharedApproval with
  | none => .ok { requested with authority := "local", authoritySynchronized := false }
  | some answer => do
    refuseIf (!record.approval.required)
      ("shared approval authority is configured, but run " ++ record.runId ++
        " has no approval requirement")
    refuseIf (requested.approvalId = "")
      ("run " ++ record.runId ++ " is missing the Python approval identity")
    refuseIf (!isSharedApprovalId requested.approvalId) "shared approval identity is invalid"
    refuseIf (record.approval.target ≠ record.patch.sha256)
      ("approval target does not match review patch digest for run " ++ record.runId)
    let remote ← answer
    canonicalSharedDecision remote requested

def requestedDecision (record : RunReviewRecord) (flags : DecisionFlags) (host : DecisionHost) :
    MemoryDecision where
  schema := localDecisionSchema
  runId := record.runId
  approvalId := record.approval.approvalId
  status := flags.command.status
  decidedAt := host.now
  decidedBy := deciderOf flags host
  reason := reasonOf flags
  patchSha256 := record.patch.sha256
  baselineCommitSha := record.baseline
  engineProtocolVersion := protocolVersion
  rygnalVersion := host.version
  authority := ""
  authoritySynchronized := false
  receiptSha256 := ""

section Records
variable [GoHash]

/-- `calculateLocalDecisionReceipt` of a record in memory. -/
def memoryReceipt (decision : MemoryDecision) : String :=
  GoHash.sha256Hex (marshalObject (receiptMembers decision))

/-- The record that `runDecisionCommandLocked` writes for a run record. -/
def decidedRecord (record : RunReviewRecord) (flags : DecisionFlags) (host : DecisionHost) :
    Except String MemoryDecision := do
  refuseIf (flags.command = .approve ∧ !flags.yes)
    "refusing to approve without explicit --yes confirmation"
  refuseIf (flags.command = .reject ∧ reasonOf flags = []) "reject requires --reason"
  refuseIf record.apply.isSome
    ("run " ++ record.runId ++ " was already applied; refusing to change approval decision")
  refuseIf (record.decisionInvalidReason ≠ "")
    ("run " ++ record.runId ++ " has invalid decision state: " ++ record.decisionInvalidReason)
  refuseIf record.decision.isSome
    ("run " ++ record.runId ++ " already has a decision: " ++ decisionStatus record)
  validateReviewBindingForDecision record
  let decision ← sharedOrLocal record (requestedDecision record flags host) host.sharedApproval
  return { decision with receiptSha256 := memoryReceipt decision }

/-! ## The file -/

/-- A field with its key, its literal and the option `omitempty`. -/
structure FileField where
  key : String
  literal : Text
  omitEmpty : Bool

def FileField.kept (field : FileField) : Bool :=
  !(field.omitEmpty && field.literal = stringLiteral [])

def fileFields (decision : MemoryDecision) : List FileField :=
  [⟨"schema", textLiteral decision.schema, false⟩, ⟨"run_id", textLiteral decision.runId, false⟩,
    ⟨"approval_id", textLiteral decision.approvalId, true⟩,
    ⟨"status", textLiteral decision.status, false⟩,
    ⟨"decided_at", textLiteral decision.decidedAt, false⟩,
    ⟨"decided_by", stringLiteral decision.decidedBy, false⟩,
    ⟨"reason", stringLiteral decision.reason, true⟩,
    ⟨"patch_sha256", textLiteral decision.patchSha256, true⟩,
    ⟨"baseline_commit_sha", textLiteral decision.baselineCommitSha, true⟩,
    ⟨"engine_protocol_version", textLiteral decision.engineProtocolVersion, true⟩,
    ⟨"rygnal_version", textLiteral decision.rygnalVersion, true⟩,
    ⟨"authority", textLiteral decision.authority, true⟩,
    ⟨"authority_synchronized", boolLiteral decision.authoritySynchronized, false⟩,
    ⟨"receipt_sha256", textLiteral decision.receiptSha256, true⟩]

/-- The members of the object in `decision.json`, without the layout of `json.MarshalIndent`. -/
def writtenMembers (fields : List FileField) : List (String × Text) :=
  (fields.filter FileField.kept).map fun field => (field.key, field.literal)

/-- A text of the object; the zero value where it is missing. -/
def readText (members : List (String × Text)) (key : String) : Option String :=
  match members.lookup key with
  | none => some ""
  | some ('"' :: body) => (unquote body.dropLast).map String.ofList
  | some _ => none

def readBool (members : List (String × Text)) (key : String) : Option Bool :=
  match members.lookup key with
  | none => some false
  | some literal =>
    if literal = "true".toList then some true
    else if literal = "false".toList then some false
    else none

/-- `readLocalDecisionRecord`. -/
def readLocalDecisionRecord (members : List (String × Text)) : Option LocalDecisionRecord := do
  let schema ← readText members "schema"
  let runId ← readText members "run_id"
  let approvalId ← readText members "approval_id"
  let status ← readText members "status"
  let decidedAt ← readText members "decided_at"
  let decidedBy ← readText members "decided_by"
  let reason ← readText members "reason"
  let patchSha256 ← readText members "patch_sha256"
  let baselineCommitSha ← readText members "baseline_commit_sha"
  let engineProtocolVersion ← readText members "engine_protocol_version"
  let rygnalVersion ← readText members "rygnal_version"
  let authority ← readText members "authority"
  let authoritySynchronized ← readBool members "authority_synchronized"
  let receiptSha256 ← readText members "receipt_sha256"
  return ⟨schema, runId, approvalId, status, decidedAt, decidedBy, reason, patchSha256,
    baselineCommitSha, engineProtocolVersion, rygnalVersion, authority, authoritySynchronized,
    receiptSha256⟩

/-- The written record is read back and accepted for its run. -/
def AcceptedBack (record : RunReviewRecord) (decision : MemoryDecision) : Prop :=
  ∃ found, readLocalDecisionRecord (writtenMembers (fileFields decision)) = some found ∧
    validateDecisionRecordForRun { record with decision := some found } = .ok ()

end Records

/-! ## Reading the file -/

theorem lookup_eq_none {fields : List FileField} {key : String}
    (h : key ∉ fields.map FileField.key) : (writtenMembers fields).lookup key = none := by
  rw [List.lookup_eq_none_iff]
  rintro ⟨k, literal⟩ hmem
  rw [writtenMembers, List.mem_map] at hmem
  obtain ⟨field, hfield, heq⟩ := hmem
  cases heq
  rw [bne_iff_ne]
  rintro rfl
  exact h (List.mem_map_of_mem (List.mem_of_mem_filter hfield))

theorem writtenMembers_cons (field : FileField) (fields : List FileField) :
    writtenMembers (field :: fields) = if field.kept then
      (field.key, field.literal) :: writtenMembers fields else writtenMembers fields := by
  rw [writtenMembers, List.filter_cons]
  split_ifs
  · rfl
  · rfl

/-- A kept field is found under its key. -/
theorem lookup_writtenMembers {fields : List FileField} (hnodup : (fields.map FileField.key).Nodup)
    {field : FileField} (hfield : field ∈ fields) : (writtenMembers fields).lookup field.key =
      if field.kept then some field.literal else none := by
  induction fields with
  | nil => cases hfield
  | cons first fields ih =>
    rw [List.map_cons, List.nodup_cons] at hnodup
    rw [writtenMembers_cons]
    rcases List.mem_cons.mp hfield with rfl | hmem
    · split_ifs
      · rw [List.lookup_cons_self]
      · exact lookup_eq_none hnodup.1
    · have hne : (field.key == first.key) = false := by
        rw [beq_eq_false_iff_ne]
        intro h
        exact hnodup.1 (h ▸ List.mem_map_of_mem hmem)
      rw [← ih hnodup.2 hmem]
      split
      · rw [List.lookup_cons, hne]
      · rfl

theorem quoteBody_eq_nil {text : GoString} (h : quoteBody text = []) : visible text = [] := by
  have hread := unquote_quoteBody text
  rw [h] at hread
  exact (Option.some.inj hread).symm

/-- A text is read back with its invalid bytes replaced, also where it was empty and omitted. -/
theorem readText_written {fields : List FileField} (hnodup : (fields.map FileField.key).Nodup)
    {key : String} {text : GoString} {omitEmpty : Bool}
    (hfield : ⟨key, stringLiteral text, omitEmpty⟩ ∈ fields) :
    readText (writtenMembers fields) key = some (String.ofList (visible text)) := by
  have hlookup := lookup_writtenMembers hnodup hfield
  dsimp only at hlookup
  rw [readText, hlookup]
  split_ifs with hkept
  · change (unquote (quoteBody text ++ ['"']).dropLast).map String.ofList = _
    rw [List.dropLast_concat, unquote_quoteBody, Option.map_some]
  · rw [FileField.kept, Bool.not_eq_true, Bool.not_eq_false', Bool.and_eq_true,
      decide_eq_true_eq] at hkept
    have hempty : quoteBody text = [] := List.append_cancel_right (List.cons.inj hkept.2).2
    rw [quoteBody_eq_nil hempty]

theorem readBool_written {fields : List FileField} (hnodup : (fields.map FileField.key).Nodup)
    {key : String} {value : Bool} (hfield : ⟨key, boolLiteral value, false⟩ ∈ fields) :
    readBool (writtenMembers fields) key = some value := by
  have hlookup := lookup_writtenMembers hnodup hfield
  have hkept : FileField.kept ⟨key, boolLiteral value, false⟩ = true := rfl
  rw [if_pos hkept] at hlookup
  rw [readBool, hlookup]
  cases value
  · have hne : boolLiteral false ≠ "true".toList := by decide
    exact (if_neg hne).trans (if_pos rfl)
  · exact if_pos rfl

/-- The record as it is read back. -/
def readBack (decision : MemoryDecision) : LocalDecisionRecord where
  schema := decision.schema
  runId := decision.runId
  approvalId := decision.approvalId
  status := decision.status
  decidedAt := decision.decidedAt
  decidedBy := String.ofList (visible decision.decidedBy)
  reason := String.ofList (visible decision.reason)
  patchSha256 := decision.patchSha256
  baselineCommitSha := decision.baselineCommitSha
  engineProtocolVersion := decision.engineProtocolVersion
  rygnalVersion := decision.rygnalVersion
  authority := decision.authority
  authoritySynchronized := decision.authoritySynchronized
  receiptSha256 := decision.receiptSha256

theorem readLocalDecisionRecord_written (decision : MemoryDecision) :
    readLocalDecisionRecord (writtenMembers (fileFields decision)) = some (readBack decision) := by
  have hnodup : ((fileFields decision).map FileField.key).Nodup := by
    change ["schema", "run_id", "approval_id", "status", "decided_at", "decided_by", "reason",
      "patch_sha256", "baseline_commit_sha", "engine_protocol_version", "rygnal_version",
      "authority", "authority_synchronized", "receipt_sha256"].Nodup
    decide
  have htext : ∀ {key text : String} {omitEmpty : Bool},
      ⟨key, textLiteral text, omitEmpty⟩ ∈ fileFields decision →
        readText (writtenMembers (fileFields decision)) key = some text := by
    intro key text omitEmpty hfield
    rw [readText_written hnodup hfield, visible_ofText, String.ofList_toList]
  have hschema := @htext "schema" decision.schema false (by simp [fileFields])
  have hrunId := @htext "run_id" decision.runId false (by simp [fileFields])
  have happrovalId := @htext "approval_id" decision.approvalId true (by simp [fileFields])
  have hstatus := @htext "status" decision.status false (by simp [fileFields])
  have hdecidedAt := @htext "decided_at" decision.decidedAt false (by simp [fileFields])
  have hpatch := @htext "patch_sha256" decision.patchSha256 true (by simp [fileFields])
  have hbaseline := @htext "baseline_commit_sha" decision.baselineCommitSha true
    (by simp [fileFields])
  have hprotocol := @htext "engine_protocol_version" decision.engineProtocolVersion true
    (by simp [fileFields])
  have hversion := @htext "rygnal_version" decision.rygnalVersion true (by simp [fileFields])
  have hauthority := @htext "authority" decision.authority true (by simp [fileFields])
  have hreceipt := @htext "receipt_sha256" decision.receiptSha256 true (by simp [fileFields])
  have hdecidedBy := @readText_written _ hnodup "decided_by" decision.decidedBy false
    (by simp [fileFields])
  have hreason := @readText_written _ hnodup "reason" decision.reason true (by simp [fileFields])
  have hsynchronized := @readBool_written _ hnodup "authority_synchronized"
    decision.authoritySynchronized (by simp [fileFields])
  simp only [readLocalDecisionRecord, hschema, hrunId, happrovalId, hstatus, hdecidedAt, hpatch,
    hbaseline, hprotocol, hversion, hauthority, hreceipt, hdecidedBy, hreason, hsynchronized,
    Option.bind_eq_bind, Option.bind_some]
  rfl

/-! ## The receipt of what is read back -/

section Receipt
variable [GoHash] {record : RunReviewRecord} {flags : DecisionFlags} {host : DecisionHost}
  {decision : MemoryDecision}

/-- The fields of a record with the invalid bytes of two texts replaced. -/
def replaced (decision : MemoryDecision) : MemoryDecision :=
  { decision with
    decidedBy := ofText (visible decision.decidedBy)
    reason := ofText (visible decision.reason) }

omit [GoHash] in
theorem replaced_receipted (decision : MemoryDecision) (receipt : String) :
    replaced { decision with receiptSha256 := receipt } =
      { replaced decision with receiptSha256 := receipt } := rfl

theorem memoryReceipt_receipted (decision : MemoryDecision) (receipt : String) :
    memoryReceipt { decision with receiptSha256 := receipt } = memoryReceipt decision := rfl

theorem calculateLocalDecisionReceipt_readBack (decision : MemoryDecision) :
    calculateLocalDecisionReceipt (readBack decision) = memoryReceipt (replaced decision) := by
  simp only [calculateLocalDecisionReceipt, readBack, GoEncoding.sha256Hex, GoEncoding.marshal,
    List.map_cons, List.map_nil, valueLiteral, memoryReceipt, receiptMembers, replaced, textLiteral,
    String.toList_ofList]

omit [GoHash] in
/-- The receipts hash the same text exactly when no byte was replaced. -/
theorem marshalObject_replaced_iff (decision : MemoryDecision) :
    marshalObject (receiptMembers (replaced decision)) =
        marshalObject (receiptMembers decision) ↔
      IsValid decision.decidedBy ∧ IsValid decision.reason := by
  constructor
  · intro h
    have hlength := congrArg List.length (String.ofList_injective h)
    have hdecider := length_quoteBody decision.decidedBy
    have hreason := length_quoteBody decision.reason
    simp only [receiptMembers, replaced, joinMembers, memberText, stringLiteral,
      List.length_append, List.length_cons] at hlength
    rw [isValid_iff, isValid_iff]
    omega
  · rintro ⟨hdecider, hreason⟩
    rw [IsValid] at hdecider hreason
    rw [replaced, ← hdecider, ← hreason]

/-! ## Decided records -/

omit [GoHash] in
/-- The shared authority changes the time of a decision only. -/
theorem sharedOrLocal_eq_ok {requested : MemoryDecision}
    {sharedApproval : Option (Except String RemoteDecision)}
    (h : sharedOrLocal record requested sharedApproval = .ok decision) :
    ∃ authority synchronized decidedAt, decision = { requested with
        authority := authority
        authoritySynchronized := synchronized
        decidedAt := decidedAt } ∧
      ((authority = "local" ∧ synchronized = false) ∨
        (authority = "shared_api" ∧ synchronized = true ∧ record.approval.required = true)) := by
  cases sharedApproval with
  | none =>
    cases h
    exact ⟨_, _, _, rfl, .inl ⟨rfl, rfl⟩⟩
  | some answer =>
    simp only [sharedOrLocal, canonicalSharedDecision, bind_eq_ok, refuseIf_eq_ok,
      exists_const] at h
    obtain ⟨hrequired, -, -, -, remote, -, -, -, hdetails, hdecision⟩ := h
    rw [not_or, not_not, not_not] at hdetails
    rw [hdetails.1, hdetails.2] at hdecision
    cases hdecision
    refine ⟨_, _, _, rfl, .inr ⟨rfl, rfl, ?_⟩⟩
    simpa using hrequired

/-- What the command has checked and recorded. -/
structure Decided (record : RunReviewRecord) (flags : DecisionFlags) (host : DecisionHost)
    (decision : MemoryDecision) : Prop where
  unmarked : record.decisionInvalidReason = ""
  binding : validateReviewBindingForDecision record = .ok ()
  recorded : ∃ authority synchronized decidedAt,
    decision = { requestedDecision record flags host with
      authority := authority
      authoritySynchronized := synchronized
      decidedAt := decidedAt
      receiptSha256 := memoryReceipt decision } ∧
    ((authority = "local" ∧ synchronized = false) ∨
      (authority = "shared_api" ∧ synchronized = true ∧ record.approval.required = true))

theorem decided_of_decidedRecord (h : decidedRecord record flags host = .ok decision) :
    Decided record flags host decision := by
  simp only [decidedRecord, bind_eq_ok, refuseIf_eq_ok, exists_const] at h
  obtain ⟨-, -, -, hunmarked, -, _, hbinding, requested, hshared, hdecision⟩ := h
  obtain ⟨authority, synchronized, decidedAt, rfl, hauthority⟩ := sharedOrLocal_eq_ok hshared
  cases hdecision
  exact ⟨not_not.mp hunmarked, hbinding, authority, synchronized, decidedAt, rfl, hauthority⟩

/-- The record that is read back is accepted exactly when its receipt is that of its fields. -/
theorem Decided.accepted_iff (h : Decided record flags host decision)
    (hhex : memoryReceipt decision ≠ "") :
    validateDecisionRecordForRun { record with decision := some (readBack decision) } = .ok () ↔
      host.version ≠ "" ∧ memoryReceipt decision = memoryReceipt (replaced decision) := by
  have hreceipt := calculateLocalDecisionReceipt_readBack decision
  have hmarked := h.unmarked
  have hbinding := h.binding
  simp only [validateReviewBindingForDecision, bind_eq_ok, refuseIf_eq_ok, exists_const] at hbinding
  obtain ⟨hpatch, hbaseline, happroval⟩ := hbinding
  obtain ⟨authority, synchronized, decidedAt, hrecorded, hauthority⟩ := h.recorded
  have hschema : decision.schema = localDecisionSchema := congrArg MemoryDecision.schema hrecorded
  have hrunId : decision.runId = record.runId := congrArg MemoryDecision.runId hrecorded
  have hidentity : decision.approvalId = record.approval.approvalId :=
    congrArg MemoryDecision.approvalId hrecorded
  have hstatus : decision.status = flags.command.status :=
    congrArg MemoryDecision.status hrecorded
  have hsha : decision.patchSha256 = record.patch.sha256 :=
    congrArg MemoryDecision.patchSha256 hrecorded
  have hcommit : decision.baselineCommitSha = record.baseline :=
    congrArg MemoryDecision.baselineCommitSha hrecorded
  have hprotocol : decision.engineProtocolVersion = protocolVersion :=
    congrArg MemoryDecision.engineProtocolVersion hrecorded
  have hversion : decision.rygnalVersion = host.version :=
    congrArg MemoryDecision.rygnalVersion hrecorded
  have hclaimed : decision.authority = authority := congrArg MemoryDecision.authority hrecorded
  have hsynchronized : decision.authoritySynchronized = synchronized :=
    congrArg MemoryDecision.authoritySynchronized hrecorded
  have hdigest : decision.receiptSha256 = memoryReceipt decision :=
    congrArg MemoryDecision.receiptSha256 hrecorded
  have hnamed : record.approval.required = true → ¬ record.approval.approvalId = "" := by
    intro hrequired
    rw [if_pos hrequired] at happroval
    simp only [bind_eq_ok, refuseIf_eq_ok, exists_const] at happroval
    exact happroval.1
  have hcommand : ¬ (flags.command.status ≠ "approved" ∧ flags.command.status ≠ "rejected") := by
    cases flags.command <;> decide
  have hsecond : localDecisionSchema ≠ localDecisionSchemaV1 := by decide
  simp only [validateDecisionRecordForRun, validateDecisionAuthority, bind_eq_ok, refuseIf_eq_ok,
    exists_const, hreceipt]
  simp only [readBack, hschema, hrunId, hidentity, hstatus, hsha, hcommit, hprotocol, hversion,
    hclaimed, hsynchronized, hdigest, hmarked]
  rcases hauthority with ⟨rfl, rfl⟩ | ⟨rfl, rfl, hrequired⟩
  · simp [hsecond, hcommand, hpatch, hbaseline, hhex, bind_eq_ok]
    exact fun _ _ => hnamed
  · simp [hsecond, hcommand, hpatch, hbaseline, hhex, hnamed hrequired, hrequired, bind_eq_ok]

/-- Provided that SHA-256 does not collide on the two encodings of a record, a written decision
record is accepted when it is read back exactly when its decider and its reason are valid UTF-8,
in a build with a version. -/
theorem acceptedBack_iff (h : decidedRecord record flags host = .ok decision)
    (hhex : memoryReceipt decision ≠ "")
    (hsha : memoryReceipt decision = memoryReceipt (replaced decision) →
      marshalObject (receiptMembers decision) =
        marshalObject (receiptMembers (replaced decision))) :
    AcceptedBack record decision ↔
      host.version ≠ "" ∧ IsValid (deciderOf flags host) ∧ IsValid (reasonOf flags) := by
  have hdecided := decided_of_decidedRecord h
  have hread := readLocalDecisionRecord_written decision
  have hback : AcceptedBack record decision ↔ validateDecisionRecordForRun
      { record with decision := some (readBack decision) } = .ok () := by
    rw [AcceptedBack, hread]
    simp
  have hreceipts : memoryReceipt decision = memoryReceipt (replaced decision) ↔
      IsValid decision.decidedBy ∧ IsValid decision.reason := by
    rw [← marshalObject_replaced_iff]
    exact ⟨fun heq => (hsha heq).symm, fun heq => congrArg GoHash.sha256Hex heq.symm⟩
  have hfields : decision.decidedBy = deciderOf flags host ∧ decision.reason = reasonOf flags := by
    obtain ⟨_, _, _, hrecorded, _⟩ := hdecided.recorded
    rw [hrecorded]
    exact ⟨rfl, rfl⟩
  rw [hback, hdecided.accepted_iff hhex, hreceipts, hfields.1, hfields.2]

end Receipt

namespace EncodedRejection

def record : RunReviewRecord where
  runId := "run-1"
  requestId := "request-1"
  status := "needs_approval"
  baseline := "89e6c98d92887913cadf06b2adb97f26cde4849b"
  patch := ⟨true, "5d21b500103d21e1feb9c39daf830bec59d56fa5c55899d3ab5ec1f4e4239448", ""⟩
  approval := ⟨false, "", ""⟩
  patchDigest := "5d21b500103d21e1feb9c39daf830bec59d56fa5c55899d3ab5ec1f4e4239448"
  apply := none
  decision := none
  decisionInvalidReason := ""

def host : DecisionHost := ⟨none, none, [], "2026-01-01T00:00:00Z", "0.1.0", none⟩

/-- `rygnal reject run-1 --decided-by dev` with a reason. -/
def flags (reason : List UInt8) : DecisionFlags := ⟨.reject, false, reason, [0x64, 0x65, 0x76]⟩

/-- The word `café` in Latin-1. -/
def latinReason : List UInt8 := [0x63, 0x61, 0x66, 0xE9]

def plainReason : List UInt8 := [0x75, 0x6E, 0x73, 0x61, 0x66, 0x65]

def draft (reason : List UInt8) : MemoryDecision :=
  { requestedDecision record (flags reason) host with authority := "local" }

/-- The digests of the three payloads. -/
def digest (text : String) : String :=
  if text = marshalObject (receiptMembers (draft latinReason)) then
    "4a5e21dd9ce96186d4231e1b8bf02a27677113ede3a73dea840c7c4dfdd87cbe"
  else if text = marshalObject (receiptMembers
      (replaced (draft latinReason))) then
    "08f5515850ef10e98973cb1dfe225946a4d8cc5fcdb958c5a8a3ad836494bcff"
  else "8013ca5fcc94e72162ec41d7aada8c5f63efb24582d583f4035bda08816b0cfc"

local instance : GoHash := ⟨digest, id⟩

theorem digest_written {text : String}
    (h : text = marshalObject (receiptMembers (draft latinReason))) :
    digest text = "4a5e21dd9ce96186d4231e1b8bf02a27677113ede3a73dea840c7c4dfdd87cbe" :=
  if_pos h

theorem digest_reread {text : String}
    (hne : text ≠ marshalObject (receiptMembers (draft latinReason)))
    (h : text = marshalObject (receiptMembers (replaced (draft latinReason)))) :
    digest text = "08f5515850ef10e98973cb1dfe225946a4d8cc5fcdb958c5a8a3ad836494bcff" :=
  (if_neg hne).trans (if_pos h)

theorem digest_ne_nil (text : String) : digest text ≠ "" := by
  rw [digest]
  split_ifs
  · decide
  · decide
  · decide

theorem sha256Hex_eq : (GoHash.sha256Hex : String → String) = digest := rfl

theorem memoryReceipt_ne_nil (decision : MemoryDecision) : memoryReceipt decision ≠ "" := by
  rw [memoryReceipt, sha256Hex_eq]
  exact digest_ne_nil _

theorem decided_latin : decidedRecord record (flags latinReason) host =
    .ok { draft latinReason with
      receiptSha256 := memoryReceipt (draft latinReason) } := rfl

theorem decided_plain : decidedRecord record (flags plainReason) host =
    .ok { draft plainReason with
      receiptSha256 := memoryReceipt (draft plainReason) } := rfl

theorem plain_valid : IsValid (reasonOf (flags plainReason)) ∧
    IsValid (deciderOf (flags plainReason) host) := by
  unfold IsValid
  decide

theorem latin_invalid : ¬ IsValid (reasonOf (flags latinReason)) := by
  unfold IsValid
  decide

/-- The rejection with a Latin-1 reason is written, and refused when it is read back. -/
theorem latinRejection_refused : ∃ decision,
    decidedRecord record (flags latinReason) host = .ok decision ∧ ¬ AcceptedBack record decision := by
  refine ⟨_, decided_latin, ?_⟩
  rintro ⟨found, hread, haccepted⟩
  rw [readLocalDecisionRecord_written, Option.some.injEq] at hread
  rw [← hread, (decided_of_decidedRecord decided_latin).accepted_iff (memoryReceipt_ne_nil _)]
    at haccepted
  have hreceipts := haccepted.2
  rw [replaced_receipted, memoryReceipt_receipted (draft latinReason),
    memoryReceipt_receipted (replaced (draft latinReason)), memoryReceipt, memoryReceipt,
    sha256Hex_eq] at hreceipts
  have hne : marshalObject (receiptMembers (replaced (draft latinReason))) ≠
      marshalObject (receiptMembers (draft latinReason)) := by
    intro hsame
    exact latin_invalid ((marshalObject_replaced_iff _).mp hsame).2
  rw [digest_written rfl, digest_reread hne rfl] at hreceipts
  exact absurd hreceipts (by decide)

theorem plain_unchanged (receipt : String) :
    marshalObject (receiptMembers { draft plainReason with receiptSha256 := receipt }) =
      marshalObject (receiptMembers
        (replaced { draft plainReason with receiptSha256 := receipt })) := by
  have hvalid : IsValid { draft plainReason with receiptSha256 := receipt }.decidedBy ∧
      IsValid { draft plainReason with receiptSha256 := receipt }.reason :=
    ⟨plain_valid.2, plain_valid.1⟩
  exact ((marshalObject_replaced_iff _).mpr hvalid).symm

theorem plainRejection_accepted : ∃ decision,
    decidedRecord record (flags plainReason) host = .ok decision ∧ AcceptedBack record decision :=
  ⟨_, decided_plain, (acceptedBack_iff decided_plain (memoryReceipt_ne_nil _)
    (fun _ => plain_unchanged _)).mpr ⟨by decide, plain_valid.2, plain_valid.1⟩⟩

end EncodedRejection

end Rygnal.Cli
