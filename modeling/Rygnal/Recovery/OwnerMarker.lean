import Rygnal.Library.Fields
import Rygnal.Library.Utf8
import Rygnal.Core.Exceptions

/-! # Owner markers of recovery sessions

The marker that `create_recovery_session` writes beside a workspace, how the reconciler reads it,
and for which paths it reads back the session.
-/

namespace Rygnal.Recovery
open Rygnal.Core Rygnal.Library Rygnal.Library.PyText

/-! ## Writing -/

def ownerMarkerSchema : Text := "rygnal-worktree-owner.v1".toList

/-- One line `key=value`. -/
def fieldLine (field : Text × Text) : Text := field.1 ++ '=' :: field.2

def markerFields (runId trustedRepoPath baselineCommitSha workspacePath : Text) :
    List (Text × Text) :=
  [("schema".toList, ownerMarkerSchema), ("run_id".toList, runId),
    ("trusted_repo_path".toList, trustedRepoPath),
    ("baseline_commit_sha".toList, baselineCommitSha), ("workspace_path".toList, workspacePath)]

/-- `_owner_marker_payload`: the lines joined by line feeds, the last of them empty. -/
def ownerMarkerPayload (runId trustedRepoPath baselineCommitSha workspacePath : Text) : Text :=
  unlines ((markerFields runId trustedRepoPath baselineCommitSha workspacePath).map fieldLine)

/-! ## Reading -/

def maxRecoveryMetadataBytes : ℕ := 16 * 1024

/-- `raw.decode("utf-8")`. -/
def decodeStrict (raw : List UInt8) : Option Text :=
  (Utf8.decode raw).mapM fun
    | .char c => some c
    | .escaped _ => none

abbrev Marker := List (Text × Text)

/-- The loop over the lines. -/
def readFields : List Text → Marker → Except String Marker
  | [], values => .ok values
  | line :: rest, values =>
    if '=' ∉ line then .error "Recovery metadata contains a malformed line."
    else
      let key := line.takeWhile (· ≠ '=')
      if key = [] ∨ key ∈ values.map Prod.fst then
        .error "Recovery metadata contains an invalid or duplicate field."
      else readFields rest (values ++ [(key, (line.dropWhile (· ≠ '=')).tail)])

/-- `_read_key_value_file` of a regular file that does not change. -/
def readKeyValueFile (raw : List UInt8) : Except String Marker :=
  if raw.length = 0 ∨ maxRecoveryMetadataBytes < raw.length then
    .error "Recovery metadata has an invalid or excessive size."
  else match decodeStrict raw with
    | none => .error "Recovery metadata is not valid UTF-8."
    | some text =>
      match readFields (splitlines text) [] with
      | .error message => .error message
      | .ok [] => .error "Recovery metadata is empty."
      | .ok values => .ok values

def requiredFields : List Text :=
  ["schema".toList, "run_id".toList, "trusted_repo_path".toList, "baseline_commit_sha".toList,
    "workspace_path".toList]

def fieldOf (marker : Marker) (key : String) : Text := (marker.lookup key.toList).getD []

/-- `_read_owner_marker`. -/
def readOwnerMarker (raw : List UInt8) : Except String Marker :=
  match readKeyValueFile raw with
  | .error message => .error message
  | .ok marker =>
    let keys := marker.map Prod.fst
    if ¬ ((∀ key ∈ keys, key ∈ requiredFields) ∧ ∀ key ∈ requiredFields, key ∈ keys) then
      .error "Ownership marker fields are incomplete or unsupported."
    else if fieldOf marker "schema" ≠ ownerMarkerSchema then
      .error "Ownership marker schema is unsupported."
    else .ok marker

/-! ## Sessions -/

/-- `Path(text).resolve().as_posix()`, the home directory of `expanduser` and
`detect_trusted_repo_root`; `none` is an exception. -/
structure Host where
  resolve : Text → Option Text
  expandHome : Text → Text
  detectTrustedRepoRoot : Text → Option Text

structure RecoverySession where
  runId : Text
  trustedRepoPath : Text
  executionPath : Text
  baselineCommitSha : Text
  timelineDir : Text
deriving DecidableEq

/-- `Path.joinpath` with a relative name. -/
def joinpath (path : Text) (name : Text) : Text :=
  if path = ['/'] then '/' :: name else path ++ '/' :: name

def strictDescendant (path root : Text) : Bool :=
  path ≠ root && (joinpath root []).isPrefixOf path

def isIdentifierChar (c : Char) : Bool :=
  c.isAlphanum || c == '_' || c == '.' || c == '-'

def isHexDigit (c : Char) : Bool :=
  c.isDigit || ('a' ≤ c && c ≤ 'f') || ('A' ≤ c && c ≤ 'F')

/-- `str.lower()` of a hexadecimal text. -/
def lowerHex (text : Text) : Text := text.map Char.toLower

def expanduser (host : Host) (path : Text) : Text :=
  if path.head? = some '~' then host.expandHome path else path

/-- The path of the workspace directory below its session root. -/
def workspacesRoot (runRoot : Text) : Text := joinpath runRoot "workspaces".toList

def sessionRootOf (runRoot runId : Text) : Text := joinpath (workspacesRoot runRoot) runId

def workspaceOf (runRoot runId : Text) : Text :=
  joinpath (sessionRootOf runRoot runId) "workspace".toList

def timelineOf (runRoot runId : Text) : Text :=
  joinpath (joinpath runRoot "timelines".toList) runId

/-- A call of the file system that raises. -/
def orRaise (answer : Option Text) : Except String Text :=
  match answer with
  | some path => .ok path
  | none => .error "OSError"

def raiseWhen (condition : Bool) (message : String) : Except String Unit :=
  if condition then .error message else .ok ()

/-- `RecoveryReconciler._session_from_marker` for the session directory of the name. -/
def sessionFromMarker (host : Host) (runRoot name : Text) (marker : Marker) :
    Except String RecoverySession := do
  let runId := fieldOf marker "run_id"
  raiseWhen (runId ≠ name) "Ownership marker run ID does not match the workspace directory."
  raiseWhen (!(runId ≠ [] && runId.length ≤ 200 && runId.all isIdentifierChar))
    "Ownership marker contains an invalid run ID."
  let baseline := fieldOf marker "baseline_commit_sha"
  raiseWhen (!(baseline.length = 40 && baseline.all isHexDigit))
    "Ownership marker contains an invalid baseline."
  let trustedRepo := expanduser host (fieldOf marker "trusted_repo_path")
  let workspace := expanduser host (fieldOf marker "workspace_path")
  raiseWhen (trustedRepo.head? ≠ some '/' || workspace.head? ≠ some '/')
    "Ownership marker paths must be absolute."
  let trustedRepo ← orRaise (host.resolve trustedRepo)
  let workspace ← orRaise (host.resolve workspace)
  let expectedWorkspace ← orRaise (host.resolve (workspaceOf runRoot name))
  raiseWhen (workspace ≠ expectedWorkspace)
    "Ownership marker workspace does not match its controlled session path."
  let root ← orRaise (host.resolve (workspacesRoot runRoot))
  let sessionRoot ← orRaise (host.resolve (sessionRootOf runRoot name))
  raiseWhen (!strictDescendant sessionRoot root)
    "Workspace session escaped the configured Rygnal workspaces root."
  raiseWhen (workspace = trustedRepo) "Workspace marker resolves to the trusted repository."
  let detectedRoot ← orRaise (host.detectTrustedRepoRoot trustedRepo)
  raiseWhen (detectedRoot ≠ trustedRepo)
    "Ownership marker trusted path is not the Git repository root."
  return ⟨runId, trustedRepo, workspace, lowerHex baseline, timelineOf runRoot runId⟩

/-- The marker of a session directory, as a session. -/
def readSession (host : Host) (runRoot name : Text) (raw : List UInt8) :
    Except String RecoverySession := do
  let marker ← readOwnerMarker raw
  sessionFromMarker host runRoot name marker

/-! ## Reading the lines -/

theorem decodeStrict_flatMap (text : Text) :
    decodeStrict (text.flatMap String.utf8EncodeChar) = some text := by
  rw [decodeStrict, Utf8.decode_flatMap, Utf8.ofText]
  induction text with
  | nil => rfl
  | cons c text ih => simp_all

theorem takeWhile_fieldLine {field : Text × Text} (h : '=' ∉ field.1) :
    (fieldLine field).takeWhile (· ≠ '=') = field.1 := by
  rw [fieldLine, List.takeWhile_append_of_pos]
  · simp
  · intro c hc
    exact decide_eq_true fun heq => h (heq ▸ hc)

theorem dropWhile_fieldLine {field : Text × Text} (h : '=' ∉ field.1) :
    (fieldLine field).dropWhile (· ≠ '=') = '=' :: field.2 := by
  rw [fieldLine, List.dropWhile_append_of_pos]
  · simp
  · intro c hc
    exact decide_eq_true fun heq => h (heq ▸ hc)

/-- Lines of new keys are read as their fields. -/
theorem readFields_fieldLines {fields values : List (Text × Text)}
    (hkeys : ∀ field ∈ fields, field.1 ≠ [] ∧ '=' ∉ field.1)
    (hnodup : ((values ++ fields).map Prod.fst).Nodup) :
    readFields (fields.map fieldLine) values = .ok (values ++ fields) := by
  induction fields generalizing values with
  | nil => simp [readFields]
  | cons field fields ih =>
    rw [List.forall_mem_cons] at hkeys
    have hmem : '=' ∈ fieldLine field := List.mem_append_right _ List.mem_cons_self
    have hnew : field.1 ∉ values.map Prod.fst := by
      rw [List.map_append, List.nodup_append] at hnodup
      intro hold
      exact hnodup.2.2 _ hold _ (List.mem_map_of_mem List.mem_cons_self) rfl
    have hrest := @ih (values ++ [field]) hkeys.2 (by simpa using hnodup)
    rw [List.map_cons, readFields, if_neg (not_not.mpr hmem)]
    dsimp only
    rw [takeWhile_fieldLine hkeys.1.2, dropWhile_fieldLine hkeys.1.2,
      if_neg (not_or.mpr ⟨hkeys.1.1, hnew⟩), List.tail_cons, hrest, List.append_assoc,
      List.singleton_append]

/-- What was read has one field a line and no key twice. -/
theorem of_readFields {lines : List Text} {values found : Marker}
    (h : readFields lines values = .ok found) (hnodup : (values.map Prod.fst).Nodup) :
    found.length = values.length + lines.length ∧ (found.map Prod.fst).Nodup := by
  induction lines generalizing values with
  | nil =>
    cases h
    exact ⟨rfl, hnodup⟩
  | cons line lines ih =>
    rw [readFields] at h
    split at h
    · cases h
    · dsimp only at h
      split at h
      · cases h
      · rename_i hkey
        rw [not_or] at hkey
        have hnext := ih h (by
          rw [List.map_append, List.nodup_append]
          refine ⟨hnodup, by simp, ?_⟩
          intro a ha b hb
          rw [List.map_singleton, List.mem_singleton] at hb
          rintro rfl
          rw [hb] at ha
          exact hkey.2 ha)
        simp only [List.length_append, List.length_cons, List.length_nil] at hnext ⊢
        exact ⟨by omega, hnext.2⟩

/-! ## The lines of a marker -/

/-- No character at which `str.splitlines` ends a line. -/
def OneLine (text : Text) : Prop := ∀ c ∈ text, isLineBreak c = false

theorem oneLine_append {s t : Text} : OneLine (s ++ t) ↔ OneLine s ∧ OneLine t :=
  List.forall_mem_append

theorem oneLine_fieldLine {key value : Text} (hkey : OneLine key) :
    OneLine (fieldLine (key, value)) ↔ OneLine value := by
  rw [fieldLine, oneLine_append, OneLine, OneLine, List.forall_mem_cons]
  exact ⟨fun h => h.2.2, fun h => ⟨hkey, by decide, h⟩⟩

section Lines
variable {runId trusted baseline workspace : Text}

theorem splitlines_payload : splitlines (ownerMarkerPayload runId trusted baseline workspace) =
    pieces (fieldLine ("schema".toList, ownerMarkerSchema)) ++
      (pieces (fieldLine ("run_id".toList, runId)) ++
        (pieces (fieldLine ("trusted_repo_path".toList, trusted)) ++
          (pieces (fieldLine ("baseline_commit_sha".toList, baseline)) ++
            pieces (fieldLine ("workspace_path".toList, workspace))))) := by
  rw [ownerMarkerPayload, splitlines_unlines]
  simp [markerFields]

/-- The keys of a marker are written as they are and read as they are. -/
theorem readFields_markerFields : readFields
    ((markerFields runId trusted baseline workspace).map fieldLine) [] =
      .ok (markerFields runId trusted baseline workspace) := by
  apply readFields_fieldLines
  · simp only [markerFields, List.forall_mem_cons]
    exact ⟨by decide, by decide, by decide, by decide, by decide, nofun⟩
  · change requiredFields.Nodup
    decide

theorem fieldLine_inj {key s t : Text} (h : fieldLine (key, s) = fieldLine (key, t)) : s = t :=
  (List.cons.inj (List.append_cancel_left h)).2

/-- A field whose line stays one line is read back, or without a carriage return at its end. -/
theorem pieces_fieldLine {key value : Text} (hkey : OneLine key)
    (h : (pieces (fieldLine (key, value))).length = 1) :
    ∃ t, pieces (fieldLine (key, value)) = [fieldLine (key, t)] ∧ OneLine t ∧
      (value = t ∨ value = t ++ ['\r']) := by
  obtain ⟨l, hl⟩ := List.length_eq_one_iff.mp h
  have honeLine : OneLine l := fun c hc =>
    isLineBreak_of_mem_splitlines (hl ▸ List.mem_singleton_self l : l ∈ pieces _) c hc
  rcases eq_of_pieces_eq_singleton hl with hline | hline
  · subst hline
    exact ⟨value, hl, (oneLine_fieldLine hkey).mp honeLine, .inl rfl⟩
  · rcases List.eq_nil_or_concat value with rfl | ⟨t, c, rfl⟩
    · have hlast := congrArg List.getLast? hline
      simp [fieldLine] at hlast
    · rw [List.concat_eq_append] at hline hl ⊢
      rw [fieldLine, ← List.cons_append, ← List.append_assoc] at hline
      obtain ⟨rfl, hc⟩ := List.append_inj' hline rfl
      rw [(List.cons.inj hc).1] at hl ⊢
      exact ⟨t, hl, (oneLine_fieldLine hkey).mp honeLine, .inr rfl⟩

theorem pieces_of_oneLine {key value t : Text} (hkey : OneLine key) (h : OneLine t)
    (hvalue : value = t ∨ value = t ++ ['\r']) :
    pieces (fieldLine (key, value)) = [fieldLine (key, t)] := by
  have hline := (oneLine_fieldLine hkey).mpr h
  rcases hvalue with rfl | rfl
  · exact pieces_of_forall hline
  · have hreturn := pieces_return hline
    rwa [fieldLine, List.append_assoc, List.cons_append] at hreturn

end Lines

/-! ## Sizes -/

/-- The number of bytes of a text. -/
def utf8Length (text : Text) : ℕ := (text.flatMap String.utf8EncodeChar).length

theorem utf8Length_append (s t : Text) : utf8Length (s ++ t) = utf8Length s + utf8Length t := by
  rw [utf8Length, List.flatMap_append, List.length_append, utf8Length, utf8Length]

theorem utf8Length_le (text : Text) : utf8Length text ≤ 4 * text.length := by
  induction text with
  | nil => exact le_rfl
  | cons c text ih =>
    have hsize := c.utf8Size_le_four
    rw [← List.singleton_append, utf8Length_append, List.length_append, List.length_singleton]
    have hchar : utf8Length [c] = c.utf8Size := by
      rw [utf8Length, List.flatMap_singleton, String.length_utf8EncodeChar]
    omega

/-- The longest path that the system calls take, with its final NUL. -/
def pathMax : ℕ := 4096

/-! ## Created sessions -/

/-- What `create_recovery_session` has checked when it returns, on a host whose files are as they
were then. -/
structure Created (host : Host) (trusted runRoot runId baseline : Text) : Prop where
  trustedAbsolute : trusted.head? = some '/'
  trustedResolved : host.resolve trusted = some trusted
  trustedRoot : host.detectTrustedRepoRoot trusted = some trusted
  trustedLength : utf8Length trusted < pathMax
  runRootAbsolute : runRoot.head? = some '/'
  separate : strictDescendant trusted runRoot = false
  rootResolved : host.resolve (workspacesRoot runRoot) = some (workspacesRoot runRoot)
  sessionResolved : host.resolve (sessionRootOf runRoot runId) = some (sessionRootOf runRoot runId)
  workspaceResolved : host.resolve (workspaceOf runRoot runId) = some (workspaceOf runRoot runId)
  workspaceLength : utf8Length (workspaceOf runRoot runId) < pathMax
  runIdLength : runId.length = 32
  runIdHex : ∀ c ∈ runId, c ∈ "0123456789abcdef".toList
  baselineLength : baseline.length = 40
  baselineHex : baseline.all isHexDigit = true

theorem prefix_joinpath (path name : Text) : path <+: joinpath path name := by
  rw [joinpath]
  split_ifs with h
  · exact ⟨name, by rw [h]; rfl⟩
  · exact List.prefix_append _ _

theorem prefix_joinpath_of_nil (path name : Text) : joinpath path [] <+: joinpath path name := by
  rw [joinpath, joinpath]
  split_ifs
  · exact ⟨name, rfl⟩
  · exact ⟨name, by simp⟩

theorem strictDescendant_of_prefix {path root name : Text} (hname : name ≠ [])
    (h : joinpath root name <+: path) : strictDescendant path root = true := by
  have hlength : root.length < (joinpath root name).length := by
    have hpos := List.length_pos_iff.mpr hname
    rw [joinpath]
    split_ifs with hroot
    · rw [hroot, List.length_cons]
      simpa using hpos
    · simp
  rw [strictDescendant, Bool.and_eq_true, decide_eq_true_eq, List.isPrefixOf_iff_prefix]
  refine ⟨?_, (prefix_joinpath_of_nil root name).trans h⟩
  rintro rfl
  exact absurd h.length_le (by omega)

section Created
variable {host : Host} {trusted runRoot runId baseline : Text}

theorem Created.workspace_ne (h : Created host trusted runRoot runId baseline) :
    workspaceOf runRoot runId ≠ trusted := by
  rintro rfl
  have hprefix : workspacesRoot runRoot <+: workspaceOf runRoot runId :=
    (prefix_joinpath _ _).trans (prefix_joinpath _ _)
  have hdescendant := strictDescendant_of_prefix (by decide) hprefix
  rw [h.separate] at hdescendant
  cases hdescendant

theorem head?_joinpath {path : Text} (h : path.head? = some '/') (name : Text) :
    (joinpath path name).head? = some '/' := by
  rw [joinpath]
  split_ifs
  · rfl
  · rw [List.head?_append, h]
    rfl

theorem Created.workspaceAbsolute (h : Created host trusted runRoot runId baseline) :
    (workspaceOf runRoot runId).head? = some '/' :=
  head?_joinpath (head?_joinpath (head?_joinpath h.runRootAbsolute _) _) _

theorem Created.oneLine_runId (h : Created host trusted runRoot runId baseline) : OneLine runId := by
  have hall : ∀ c ∈ "0123456789abcdef".toList, isLineBreak c = false := by decide
  exact fun c hc => hall c (h.runIdHex c hc)

theorem isLineBreak_of_isHexDigit {c : Char} (h : isHexDigit c = true) : isLineBreak c = false := by
  have hrange : 0x30 ≤ c.toNat ∧ c.toNat ≤ 0x66 := by
    simp only [isHexDigit, Bool.or_eq_true, Bool.and_eq_true, decide_eq_true_eq,
      Char.isDigit_iff_toNat] at h
    have hle : ∀ d e : Char, d ≤ e → d.toNat ≤ e.toNat := fun d e hde => UInt32.le_iff_toNat_le.mp hde
    rcases h with (h | h) | h
    · exact ⟨h.1, h.2.trans (by decide)⟩
    · exact ⟨(by decide : 0x30 ≤ 'a'.toNat).trans (hle _ _ h.1), hle _ _ h.2⟩
    · exact ⟨(by decide : 0x30 ≤ 'A'.toNat).trans (hle _ _ h.1),
        (hle _ _ h.2).trans (by decide : 'F'.toNat ≤ 0x66)⟩
  simp [isLineBreak]
  omega

theorem Created.oneLine_baseline (h : Created host trusted runRoot runId baseline) :
    OneLine baseline :=
  fun c hc => isLineBreak_of_isHexDigit (List.all_eq_true.mp h.baselineHex c hc)

theorem oneLine_joinpath {path name : Text} (hname : OneLine name) :
    OneLine (joinpath path name) ↔ OneLine path := by
  rw [joinpath]
  split_ifs with hroot
  · rw [hroot, OneLine, List.forall_mem_cons]
    exact ⟨fun _ => by unfold OneLine; decide, fun _ => ⟨by decide, hname⟩⟩
  · rw [oneLine_append, OneLine, OneLine, List.forall_mem_cons]
    exact ⟨fun h => h.1, fun h => ⟨h, by decide, hname⟩⟩

theorem Created.oneLine_workspace (h : Created host trusted runRoot runId baseline) :
    OneLine (workspaceOf runRoot runId) ↔ OneLine runRoot := by
  rw [workspaceOf, oneLine_joinpath (by unfold OneLine; decide), sessionRootOf,
    oneLine_joinpath h.oneLine_runId, workspacesRoot, oneLine_joinpath (by unfold OneLine; decide)]

/-- The marker is within the size limit. -/
theorem Created.size (h : Created host trusted runRoot runId baseline) :
    utf8Length (ownerMarkerPayload runId trusted baseline (workspaceOf runRoot runId)) ≤
      maxRecoveryMetadataBytes := by
  have htrusted := h.trustedLength
  have hworkspace := h.workspaceLength
  have hrunId := utf8Length_le runId
  have hbaseline := utf8Length_le baseline
  rw [h.runIdLength] at hrunId
  rw [h.baselineLength] at hbaseline
  have hschema : utf8Length ownerMarkerSchema = 24 := by decide
  have hone : utf8Length ['='] = 1 ∧ utf8Length ['\n'] = 1 := by decide
  have hkeys : utf8Length "schema".toList = 6 ∧ utf8Length "run_id".toList = 6 ∧
      utf8Length "trusted_repo_path".toList = 17 ∧ utf8Length "baseline_commit_sha".toList = 19 ∧
      utf8Length "workspace_path".toList = 14 := by decide
  have hline : ∀ key value : Text, utf8Length (fieldLine (key, value) ++ ['\n']) =
      utf8Length key + utf8Length value + 2 := by
    intro key value
    rw [fieldLine, ← List.singleton_append, utf8Length_append, utf8Length_append,
      utf8Length_append, hone.1, hone.2]
    dsimp only
    omega
  simp only [ownerMarkerPayload, markerFields, unlines, List.map_cons, List.map_nil,
    List.flatMap_cons, List.flatMap_nil, List.append_nil, utf8Length_append (_ ++ ['\n'])]
  rw [hline, hline, hline, hline, hline, hschema, hkeys.1, hkeys.2.1, hkeys.2.2.1, hkeys.2.2.2.1,
    hkeys.2.2.2.2]
  unfold maxRecoveryMetadataBytes
  unfold pathMax at htrusted hworkspace
  omega

/-! ## The round trip -/

/-- The path of the trusted repository as the reader of the marker finds it. -/
def ReadAs (trusted t : Text) : Prop := OneLine t ∧ (trusted = t ∨ trusted = t ++ ['\r'])

/-- The bytes of the marker. -/
def markerBytes (trusted runRoot runId baseline : Text) : List UInt8 :=
  (ownerMarkerPayload runId trusted baseline (workspaceOf runRoot runId)).flatMap
    String.utf8EncodeChar

/-- The marker of a created session is read as its fields are. -/
theorem Created.readKeyValueFile_fields (h : Created host trusted runRoot runId baseline) :
    readKeyValueFile (markerBytes trusted runRoot runId baseline) =
      match readFields (splitlines (ownerMarkerPayload runId trusted baseline
        (workspaceOf runRoot runId))) [] with
      | .error message => .error message
      | .ok [] => .error "Recovery metadata is empty."
      | .ok values => .ok values := by
  have hsize : (markerBytes trusted runRoot runId baseline).length ≤ maxRecoveryMetadataBytes :=
    h.size
  have hpos : (markerBytes trusted runRoot runId baseline).length ≠ 0 := by
    rw [markerBytes, ← utf8Length, ownerMarkerPayload, markerFields, List.map_cons, unlines,
      List.flatMap_cons, utf8Length_append, utf8Length_append]
    have hone : utf8Length ['\n'] = 1 := by decide
    omega
  rw [readKeyValueFile, if_neg (not_or.mpr ⟨hpos, Nat.not_lt.mpr hsize⟩), markerBytes,
    decodeStrict_flatMap]

theorem Created.readKeyValueFile_eq (h : Created host trusted runRoot runId baseline)
    {fields : Marker} : readKeyValueFile (markerBytes trusted runRoot runId baseline) = .ok fields ↔
      fields ≠ [] ∧ readFields (splitlines (ownerMarkerPayload runId trusted baseline
        (workspaceOf runRoot runId))) [] = .ok fields := by
  rw [h.readKeyValueFile_fields]
  split
  · rename_i hread
    rw [hread]
    simp
  · rename_i hread
    rw [hread]
    constructor
    · intro hfields
      cases hfields
    · rintro ⟨hne, hfields⟩
      cases hfields
      exact absurd rfl hne
  · rename_i found hne hread
    rw [hread, Except.ok.injEq]
    constructor
    · rintro rfl
      exact ⟨fun hnil => hne hnil, rfl⟩
    · exact fun hfields => hfields.2

theorem oneLine_keys : OneLine "schema".toList ∧ OneLine "run_id".toList ∧
    OneLine "trusted_repo_path".toList ∧ OneLine "baseline_commit_sha".toList ∧
    OneLine "workspace_path".toList ∧ OneLine ownerMarkerSchema := by
  unfold OneLine
  decide

theorem length_pieces_pos (line : Text) : 0 < (pieces line).length :=
  List.length_pos_iff.mpr (splitlines_terminated_ne_nil line)

/-- The path of a workspace does not end with a carriage return. -/
theorem workspaceOf_ne_return (t : Text) : workspaceOf runRoot runId ≠ t ++ ['\r'] := by
  intro h
  have hlast := congrArg List.getLast? h
  rw [workspaceOf, joinpath] at hlast
  split_ifs at hlast
  · simp at hlast
  · simp at hlast

theorem Created.splitlines_eq (h : Created host trusted runRoot runId baseline) {t : Text}
    (hroot : OneLine runRoot) (ht : ReadAs trusted t) :
    splitlines (ownerMarkerPayload runId trusted baseline (workspaceOf runRoot runId)) =
      (markerFields runId t baseline (workspaceOf runRoot runId)).map fieldLine := by
  have ⟨hschema, hrun, htrusted, hbaseline, hworkspace, hvalue⟩ := oneLine_keys
  rw [splitlines_payload, pieces_of_oneLine hschema hvalue (.inl rfl),
    pieces_of_oneLine hrun h.oneLine_runId (.inl rfl), pieces_of_oneLine htrusted ht.1 ht.2,
    pieces_of_oneLine hbaseline h.oneLine_baseline (.inl rfl),
    pieces_of_oneLine hworkspace (h.oneLine_workspace.mpr hroot) (.inl rfl)]
  rfl

/-- The marker is accepted exactly when its two paths stay on their lines. -/
theorem Created.readOwnerMarker_eq (h : Created host trusted runRoot runId baseline)
    {marker : Marker} : readOwnerMarker (markerBytes trusted runRoot runId baseline) = .ok marker ↔
      OneLine runRoot ∧ ∃ t, ReadAs trusted t ∧
        marker = markerFields runId t baseline (workspaceOf runRoot runId) := by
  have ⟨hschema, hrun, htrusted, hbaseline, hworkspace, hvalue⟩ := oneLine_keys
  constructor
  · intro hread
    rw [readOwnerMarker] at hread
    split at hread
    · cases hread
    · rename_i found hfile
      have ⟨_, hfields⟩ := h.readKeyValueFile_eq.mp hfile
      have ⟨hlength, hnodup⟩ := of_readFields hfields List.nodup_nil
      dsimp only at hread
      split_ifs at hread with hkeys
      have hperm : (found.map Prod.fst).Perm requiredFields :=
        (List.perm_ext_iff_of_nodup hnodup (by decide)).mpr fun key =>
          ⟨hkeys.1 key, hkeys.2 key⟩
      have hfive : found.length = 5 := by
        have hcount := hperm.length_eq
        rwa [List.length_map] at hcount
      rw [hfive, splitlines_payload] at hlength
      simp only [List.length_append, List.length_nil] at hlength
      have hpos1 := length_pieces_pos (fieldLine ("schema".toList, ownerMarkerSchema))
      have hpos2 := length_pieces_pos (fieldLine ("run_id".toList, runId))
      have hpos3 := length_pieces_pos (fieldLine ("trusted_repo_path".toList, trusted))
      have hpos4 := length_pieces_pos (fieldLine ("baseline_commit_sha".toList, baseline))
      have hpos5 := length_pieces_pos
        (fieldLine ("workspace_path".toList, workspaceOf runRoot runId))
      have hone3 : (pieces (fieldLine ("trusted_repo_path".toList, trusted))).length = 1 := by
        omega
      have hone5 : (pieces (fieldLine ("workspace_path".toList,
          workspaceOf runRoot runId))).length = 1 := by omega
      obtain ⟨t, _, hline, ht⟩ := pieces_fieldLine htrusted hone3
      obtain ⟨w, _, hwline, hw⟩ := pieces_fieldLine hworkspace hone5
      have hw : workspaceOf runRoot runId = w := hw.resolve_right (workspaceOf_ne_return w)
      have hroot : OneLine runRoot := h.oneLine_workspace.mp (hw ▸ hwline)
      refine ⟨hroot, t, ⟨hline, ht⟩, ?_⟩
      rw [h.splitlines_eq hroot ⟨hline, ht⟩, readFields_markerFields, Except.ok.injEq] at hfields
      rw [← Except.ok.inj hread, hfields]
  · rintro ⟨hroot, t, ht, rfl⟩
    have hfile : readKeyValueFile (markerBytes trusted runRoot runId baseline) =
        .ok (markerFields runId t baseline (workspaceOf runRoot runId)) := by
      rw [h.readKeyValueFile_eq, h.splitlines_eq hroot ht, readFields_markerFields]
      exact ⟨by simp [markerFields], rfl⟩
    rw [readOwnerMarker, hfile]
    change (if ¬ ((∀ key ∈ requiredFields, key ∈ requiredFields) ∧
      ∀ key ∈ requiredFields, key ∈ requiredFields) then _
        else if ownerMarkerSchema ≠ ownerMarkerSchema then _ else _) = _
    rw [if_neg (not_not.mpr ⟨fun _ hkey => hkey, fun _ hkey => hkey⟩), if_neg (not_not.mpr rfl)]

/-! ## The session of a marker -/

@[simp] theorem raiseWhen_eq_ok {condition : Bool} {message : String} {u : Unit} :
    raiseWhen condition message = .ok u ↔ condition = false := by
  cases condition <;> simp [raiseWhen]

@[simp] theorem orRaise_eq_ok {answer : Option Text} {path : Text} :
    orRaise answer = .ok path ↔ answer = some path := by
  cases answer <;> simp [orRaise]

section Fields
variable {runId t baseline workspace : Text}

theorem fieldOf_runId :
    fieldOf (markerFields runId t baseline workspace) "run_id" = runId := rfl

theorem fieldOf_baseline :
    fieldOf (markerFields runId t baseline workspace) "baseline_commit_sha" = baseline := rfl

theorem fieldOf_trusted :
    fieldOf (markerFields runId t baseline workspace) "trusted_repo_path" = t := rfl

theorem fieldOf_workspace :
    fieldOf (markerFields runId t baseline workspace) "workspace_path" = workspace := rfl

end Fields

theorem expanduser_of_absolute {host : Host} {path : Text} (h : path.head? = some '/') :
    expanduser host path = path := by
  rw [expanduser, h, if_neg (by decide)]

theorem ReadAs.absolute {trusted t : Text} (h : ReadAs trusted t)
    (htrusted : trusted.head? = some '/') : t.head? = some '/' := by
  rcases h.2 with rfl | rfl
  · exact htrusted
  · cases t with
    | nil => exact absurd htrusted (by decide)
    | cons c t => exact htrusted

theorem Created.runId_ok (h : Created host trusted runRoot runId baseline) :
    (runId ≠ [] && runId.length ≤ 200 && runId.all isIdentifierChar) = true := by
  have hall : ∀ c ∈ "0123456789abcdef".toList, isIdentifierChar c = true := by decide
  have hlength := h.runIdLength
  have hne : runId ≠ [] := by
    rintro rfl
    cases hlength
  simp only [Bool.and_eq_true, decide_eq_true_eq, List.all_eq_true]
  exact ⟨⟨hne, by omega⟩, fun c hc => hall c (h.runIdHex c hc)⟩

theorem Created.sessionRoot_below (h : Created host trusted runRoot runId baseline) :
    strictDescendant (sessionRootOf runRoot runId) (workspacesRoot runRoot) = true := by
  have hne : runId ≠ [] := by
    have hlength := h.runIdLength
    rintro rfl
    cases hlength
  exact strictDescendant_of_prefix hne List.prefix_rfl

/-- The repository of a session is the resolved path of its marker. -/
theorem trusted_of_sessionFromMarker {name : Text} {marker : Marker} {session : RecoverySession}
    (h : sessionFromMarker host runRoot name marker = .ok session) :
    host.resolve (expanduser host (fieldOf marker "trusted_repo_path")) =
      some session.trustedRepoPath := by
  simp only [sessionFromMarker, bind_eq_ok, raiseWhen_eq_ok, orRaise_eq_ok, exists_const] at h
  obtain ⟨-, -, -, -, trustedRepo, htrusted, _, -, _, -, -, _, -, _, -, -, -, _, -, -, hsession⟩ := h
  rw [htrusted, ← Except.ok.inj hsession]

/-- A marker that gives the resolved path of the repository is read as its session. -/
theorem Created.sessionFromMarker_eq (h : Created host trusted runRoot runId baseline) {t : Text}
    (ht : ReadAs trusted t) (hresolve : host.resolve t = some trusted) :
    sessionFromMarker host runRoot runId
        (markerFields runId t baseline (workspaceOf runRoot runId)) =
      .ok ⟨runId, trusted, workspaceOf runRoot runId, lowerHex baseline,
        timelineOf runRoot runId⟩ := by
  have htrusted := @expanduser_of_absolute host _ (ht.absolute h.trustedAbsolute)
  have hworkspace := @expanduser_of_absolute host _ h.workspaceAbsolute
  have hbaseline : (baseline.length = 40 && baseline.all isHexDigit) = true := by
    rw [h.baselineHex, h.baselineLength]
    rfl
  have habsolute : (t.head? ≠ some '/' || (workspaceOf runRoot runId).head? ≠ some '/') = false := by
    rw [ht.absolute h.trustedAbsolute, h.workspaceAbsolute]
    rfl
  simp only [sessionFromMarker, bind_eq_ok, raiseWhen_eq_ok, orRaise_eq_ok, exists_const,
    fieldOf_runId, fieldOf_baseline, fieldOf_trusted, fieldOf_workspace, htrusted, hworkspace]
  refine ⟨by simp, ?_, ?_, ?_, trusted, hresolve, _, h.workspaceResolved, _, h.workspaceResolved,
    by simp, _, h.rootResolved, _, h.sessionResolved, ?_, ?_, _, h.trustedRoot, by simp, rfl⟩
  · exact congrArg not h.runId_ok
  · exact congrArg not hbaseline
  · exact habsolute
  · rw [h.sessionRoot_below, Bool.not_true]
  · exact decide_eq_false h.workspace_ne

/-- The marker of a created session is read as that session exactly when its paths stay on their
lines, up to a carriage return at the end of a path that resolves to the same repository. -/
theorem Created.readSession_iff (h : Created host trusted runRoot runId baseline) :
    readSession host runRoot runId (markerBytes trusted runRoot runId baseline) =
      .ok ⟨runId, trusted, workspaceOf runRoot runId, lowerHex baseline,
        timelineOf runRoot runId⟩ ↔
    OneLine runRoot ∧ (OneLine trusted ∨
      ∃ t, OneLine t ∧ trusted = t ++ ['\r'] ∧ host.resolve t = some trusted) := by
  rw [readSession, bind_eq_ok]
  constructor
  · rintro ⟨marker, hmarker, hsession⟩
    obtain ⟨hroot, t, ht, rfl⟩ := h.readOwnerMarker_eq.mp hmarker
    have hresolve := trusted_of_sessionFromMarker hsession
    rw [fieldOf_trusted, expanduser_of_absolute (ht.absolute h.trustedAbsolute)] at hresolve
    refine ⟨hroot, ?_⟩
    rcases ht.2 with rfl | hreturn
    · exact .inl ht.1
    · exact .inr ⟨t, ht.1, hreturn, hresolve⟩
  · rintro ⟨hroot, hline | ⟨t, hline, hreturn, hresolve⟩⟩
    · have ht : ReadAs trusted trusted := ⟨hline, .inl rfl⟩
      exact ⟨_, h.readOwnerMarker_eq.mpr ⟨hroot, trusted, ht, rfl⟩,
        h.sessionFromMarker_eq ht h.trustedResolved⟩
    · have ht : ReadAs trusted t := ⟨hline, .inr hreturn⟩
      exact ⟨_, h.readOwnerMarker_eq.mpr ⟨hroot, t, ht, rfl⟩, h.sessionFromMarker_eq ht hresolve⟩

end Created

/-- A host without links whose directories are all repository roots. -/
def plainHost : Host := ⟨some, id, some⟩

def sampleRunRoot : Text := "/tmp/rygnal-runs".toList

def sampleRunId : Text := "0123456789abcdef0123456789abcdef".toList

def sampleBaseline : Text := "89e6c98d92887913cadf06b2adb97f26cde4849b".toList

theorem sample_created {trusted : Text} (habsolute : trusted.head? = some '/')
    (hlength : trusted.length < 1024) (hseparate : strictDescendant trusted sampleRunRoot = false) :
    Created plainHost trusted sampleRunRoot sampleRunId sampleBaseline where
  trustedAbsolute := habsolute
  trustedResolved := rfl
  trustedRoot := rfl
  trustedLength := by
    have hle := utf8Length_le trusted
    unfold pathMax
    omega
  runRootAbsolute := by decide
  separate := hseparate
  rootResolved := rfl
  sessionResolved := rfl
  workspaceResolved := rfl
  workspaceLength := by decide
  runIdLength := by decide
  runIdHex := by decide
  baselineLength := by decide
  baselineHex := by decide

/-- A vertical tab in the path of the repository. -/
def tabbedRepository : Text := "/work/re\x0bpo".toList

/-- The session of a repository with a vertical tab in its path cannot be recovered. -/
theorem tabbedRepository_unread :
    Created plainHost tabbedRepository sampleRunRoot sampleRunId sampleBaseline ∧
    readSession plainHost sampleRunRoot sampleRunId
        (markerBytes tabbedRepository sampleRunRoot sampleRunId sampleBaseline) =
      .error "Recovery metadata contains a malformed line." := by
  have hcreated := @sample_created tabbedRepository (by decide) (by decide)
    (by decide)
  have hfields : readFields (splitlines (ownerMarkerPayload sampleRunId tabbedRepository
      sampleBaseline (workspaceOf sampleRunRoot sampleRunId))) [] =
        .error "Recovery metadata contains a malformed line." := by
    decide
  refine ⟨hcreated, ?_⟩
  rw [readSession, readOwnerMarker, hcreated.readKeyValueFile_fields, hfields]
  rfl

theorem plainRepository_read :
    readSession plainHost sampleRunRoot sampleRunId
        (markerBytes "/work/repo".toList sampleRunRoot sampleRunId sampleBaseline) =
      .ok ⟨sampleRunId, "/work/repo".toList, workspaceOf sampleRunRoot sampleRunId,
        lowerHex sampleBaseline, timelineOf sampleRunRoot sampleRunId⟩ :=
  (sample_created (by decide) (by decide) (by decide)).readSession_iff.mpr
    ⟨by unfold OneLine; decide, .inl (by unfold OneLine; decide)⟩

end Rygnal.Recovery
