import Rygnal.Kernel.NormalForm
import Rygnal.ChangeRisk.Paths

/-! # The Python fallback of the kernel

`rust_kernel.py` checks paths itself where the native module is missing. It strips the ends of a
text with `str.strip`, finds a drive with `str.isalpha`, leaves the segments to
`normalize_repo_relative_path`, and lower-cases with `str.lower`; the kernel trims white space,
asks for an ASCII letter and lower-cases ASCII.
-/

namespace Rygnal.Kernel
open Rygnal.Core Rygnal.Library.PyText Rygnal.Library.PosixPath

/-- `str.isalpha` outside ASCII. -/
class LetterTable where
  alpha : Char → Bool

namespace Fallback

/-! ## The checks -/

section Checks
variable [LetterTable]

def isAlpha (c : Char) : Bool := if isAscii c then c.isAlpha else LetterTable.alpha c

def startsWithDrive : Text → Bool
  | c :: ':' :: _ => isAlpha c
  | _ => false

def fallbackPrecheckErrorCode (path : Text) : Option String :=
  if '\x00' ∈ path then some "null-byte"
  else
    let normalized := strip (replaceChar '\\' '/' path)
    if normalized = [] then some "empty-path"
    else if isAbsolute normalized then some "absolute-path"
    else if startsWithDrive normalized then some "windows-rooted-path"
    else if ['.', '.'] ∈ splitOn '/' normalized then some "parent-traversal"
    else none

def fallbackReasonForCode (path : Text) (errorCode : String) : Text :=
  if errorCode = "empty-path" then "path must not be empty".toList
  else if errorCode = "absolute-path" then "path must be repository-relative: ".toList ++ path
  else if errorCode = "parent-traversal" then
    "path must not traverse outside the repository: ".toList ++ path
  else if errorCode = "windows-rooted-path" then
    "windows-rooted path is not allowed: ".toList ++ path
  else if errorCode = "null-byte" then "path must not contain NUL bytes".toList
  else "invalid path: ".toList ++ path

def fallbackErrorCode (path : Text) : String :=
  (fallbackPrecheckErrorCode path).getD "invalid-path"

def safePathOutcome (normalizedPath : Option Text) (isSentinel : Bool) : PathValidationOutcome :=
  ⟨true, normalizedPath, none, none, isSentinel⟩

def unsafePathOutcome (path : Text) (exc : PyException) : PathValidationOutcome :=
  ⟨false, none, some (fallbackErrorCode path), some exc.message.toList, false⟩

def unsafePathOutcomeFromCode (path : Text) (errorCode : String) : PathValidationOutcome :=
  ⟨false, none, some errorCode, some (fallbackReasonForCode path errorCode), false⟩

/-- What both checks do with `path`, which is read as `trimmed`. -/
def checkedOutcome (path trimmed : Text) : PathValidationOutcome :=
  match fallbackPrecheckErrorCode trimmed with
  | some errorCode => unsafePathOutcomeFromCode path errorCode
  | none =>
    match ChangeRisk.normalizeRepoRelativePath (String.ofList trimmed) with
    | .ok normalizedPath => safePathOutcome (some normalizedPath.toList) false
    | .error exc => unsafePathOutcome path exc

def validateRepoRelativePath (path : Text) : PathValidationOutcome := checkedOutcome path path

/-- A text without one Git prefix. -/
def withoutGitPrefix (trimmed : Text) : Text :=
  if startsWith trimmed "a/" || startsWith trimmed "b/" then trimmed.drop 2 else trimmed

def validatePatchPath (path : Text) : PathValidationOutcome :=
  let trimmed := strip path
  if trimmed = "/dev/null".toList then safePathOutcome none true
  else checkedOutcome path (withoutGitPrefix trimmed)

end Checks

/-- `classify_path_sensitivity`, which looks for neither a NUL nor a drive. -/
def classifyPathSensitivity [UnicodeTables] (path : Text) : Except PyException PathSensitivity :=
  (ChangeRisk.normalizeRepoRelativePath (String.ofList path)).map fun normalized =>
    sensitivityOf (lower normalized.toList)

/-! ## White space of the two languages -/

/-- The characters that only `str.strip` takes for white space. -/
def isSeparator (c : Char) : Bool := 0x1C ≤ c.toNat && c.toNat ≤ 0x1F

theorem isSpace_eq {c : Char} (h : isSeparator c = false) : isSpace c = isWhitespace c := by
  have hsep : ¬ (0x1C ≤ c.toNat ∧ c.toNat ≤ 0x1F) := by simpa [isSeparator] using h
  have hspace : (0x1C ≤ c.toNat ∧ c.toNat ≤ 0x20) ↔ c.toNat = 0x20 := by omega
  have hdecide : (decide (0x1C ≤ c.toNat) && decide (c.toNat ≤ 0x20)) = (c.toNat == 0x20) := by
    rw [← Bool.decide_and, Bool.eq_iff_iff]
    simpa using hspace
  rw [isSpace, isWhitespace, hdecide]

theorem dropWhile_congr {p q : Char → Bool} {s : Text} (h : ∀ c ∈ s, p c = q c) :
    s.dropWhile p = s.dropWhile q := by
  induction s with
  | nil => rfl
  | cons c cs ih =>
    rw [List.dropWhile_cons, List.dropWhile_cons, h c List.mem_cons_self,
      ih fun d hd => h d (List.mem_cons_of_mem c hd)]

/-- The two ends of a text are dropped in either order. -/
theorem rdropWhile_dropWhile (p : Char → Bool) (s : Text) :
    (s.dropWhile p).rdropWhile p = (s.rdropWhile p).dropWhile p := by
  induction s using List.reverseRecOn with
  | nil => rfl
  | append_singleton cs c ih =>
    rw [List.dropWhile_append]
    by_cases hempty : cs.dropWhile p = []
    · by_cases hc : p c
      · rw [List.rdropWhile_concat_pos _ _ _ hc, ← ih, hempty]
        simp [hc]
      · rw [List.rdropWhile_concat_neg _ _ _ hc, List.dropWhile_append]
        simp [hempty, hc]
    · by_cases hc : p c
      · rw [List.rdropWhile_concat_pos _ _ _ hc, ← ih]
        simp [hempty, hc]
      · rw [List.rdropWhile_concat_neg _ _ _ hc, List.dropWhile_append]
        simp [hempty, hc]

theorem strip_eq_trim {s : Text} (h : ∀ c ∈ s, isSeparator c = false) : strip s = trim s := by
  have hspace : ∀ c ∈ s, isSpace c = isWhitespace c := fun c hc => isSpace_eq (h c hc)
  have hleft : lstrip s = s.dropWhile isWhitespace := dropWhile_congr hspace
  have hright : ∀ t, t ⊆ s → t.rdropWhile isSpace = t.rdropWhile isWhitespace := by
    intro t ht
    rw [List.rdropWhile, List.rdropWhile,
      dropWhile_congr fun c hc => hspace c (ht (List.mem_reverse.mp hc))]
  have hswap : strip s = (s.dropWhile isSpace).rdropWhile isSpace :=
    (rdropWhile_dropWhile isSpace s).symm
  rw [hswap, hright _ (List.dropWhile_suffix _).subset, trim, ← hleft, lstrip]

/-! ## Both checks of one path -/

section Alike
variable {path : Text}

theorem infix_of_replaced {c : Char} (h : [c, ':'] <:+: replaceChar '\\' '/' path) :
    c = '/' ∨ [c, ':'] <:+: path := by
  obtain ⟨before, after, heq⟩ := h
  obtain ⟨pre, post, rfl, hpre, -⟩ := List.map_eq_append_iff.mp heq.symm
  obtain ⟨first, pair, rfl, -, hpair⟩ := List.map_eq_append_iff.mp hpre
  obtain ⟨d, rest, rfl, hd, hrest⟩ := List.map_eq_cons_iff.mp hpair
  obtain ⟨e, nothing, rfl, he, hnothing⟩ := List.map_eq_cons_iff.mp hrest
  obtain rfl := List.map_eq_nil_iff.mp hnothing
  have hcolon : e = ':' := by
    split_ifs at he with hback
    · exact absurd he (by decide)
    · exact he
  split_ifs at hd with hback
  · exact .inl hd.symm
  · subst hd hcolon
    exact .inr ⟨first, post, rfl⟩

theorem cleanParts_eq (path : Text) (segments : List Text) :
    cleanParts path segments = if ['.', '.'] ∈ segments then .error (.parentTraversal path)
      else .ok (segments.filter fun part => part ≠ [] ∧ part ≠ ['.']) := by
  split_ifs with hdots
  · induction segments with
    | nil => cases hdots
    | cons part rest ih =>
      rw [cleanParts]
      rcases List.mem_cons.mp hdots with rfl | hrest
      · simp
      · rw [ih hrest]
        split_ifs <;> rfl
  · exact cleanParts_eq_ok.mpr ⟨hdots, rfl⟩

/-- A relative path whose segments all are dropped. -/
def Unnamed (path : Text) : Prop :=
  '\x00' ∉ path ∧ trimmedPath path ≠ [] ∧ isAbsolute (trimmedPath path) = false ∧
    namedSegments path = []

theorem dots_mem_namedSegments :
    ['.', '.'] ∈ splitOn '/' (trimmedPath path) ↔ ['.', '.'] ∈ namedSegments path := by
  simp [mem_namedSegments]

theorem parts_ne_nil_of_drive {s : Text} (h : hasWindowsDrivePrefix s = true) : parts s ≠ [] := by
  unfold hasWindowsDrivePrefix at h
  split at h
  · rename_i c rest
    have hslash : c ≠ '/' := by
      rintro rfl
      exact absurd h (by decide)
    have hdot : c ≠ '.' := by
      rintro rfl
      exact absurd h (by decide)
    rw [parts, splitOn, if_neg hslash]
    split <;> simp [hdot]
  · cases h

variable [LetterTable]

/-- No separator of `str.strip`, and no letter outside ASCII before a colon. -/
structure ReadAlike (path : Text) : Prop where
  ends : ∀ c ∈ path, isSeparator c = false
  drive : ∀ c, [c, ':'] <:+: path → isAlpha c = c.isAlpha

theorem ReadAlike.of_isInfix {part : Text} (h : ReadAlike path) (hpart : part <:+: path) :
    ReadAlike part where
  ends c hc := h.ends c (hpart.subset hc)
  drive c hc := h.drive c (hc.trans hpart)

theorem strip_replaced (h : ReadAlike path) :
    strip (replaceChar '\\' '/' path) = trimmedPath path := by
  apply strip_eq_trim
  intro c hc
  obtain ⟨d, hd, rfl⟩ := List.mem_map.mp hc
  split_ifs
  · decide
  · exact h.ends d hd

theorem startsWithDrive_trimmedPath (h : ReadAlike path) :
    startsWithDrive (trimmedPath path) = hasWindowsDrivePrefix (trimmedPath path) := by
  cases htrimmed : trimmedPath path with
  | nil => rfl
  | cons c tail =>
    cases tail with
    | nil => rfl
    | cons d rest =>
      by_cases hd : d = ':'
      · subst hd
        have hpair : [c, ':'] <:+: trimmedPath path := by
          rw [htrimmed]
          exact ⟨[], rest, rfl⟩
        rcases infix_of_replaced (hpair.trans (trim_isInfix _)) with rfl | hmem
        · rfl
        · exact h.drive c hmem
      · simp [startsWithDrive, hasWindowsDrivePrefix, hd]

theorem exists_error (h : ReadAlike path)
    (hrefused : trimmedPath path = [] ∨ isAbsolute (trimmedPath path) = true ∨
      ['.', '.'] ∈ namedSegments path ∨ namedSegments path = []) :
    ∃ exc, ChangeRisk.normalizeRepoRelativePath (String.ofList path) = .error exc := by
  have hnamed : parts (trimmedPath path) = namedSegments path := rfl
  simp only [ChangeRisk.normalizeRepoRelativePath, String.toList_ofList, strip_replaced h, hnamed]
  split_ifs with hempty habsolute hdots hnone
  · exact ⟨_, rfl⟩
  · exact ⟨_, rfl⟩
  · exact ⟨_, rfl⟩
  · exact ⟨_, rfl⟩
  · simp [hempty, habsolute, hdots, hnone] at hrefused

/-- What the kernel and its fallback make of one path. -/
inductive SideBySide (path : Text) : Prop where
  | refused (err : PathSafetyError) (kernel : normalizeRepoRelativePath path = .error err)
    (code : fallbackPrecheckErrorCode path = some err.code)
    (reason : fallbackReasonForCode path err.code = err.display) (named : ¬ Unnamed path)
    (fallback : (∃ exc, ChangeRisk.normalizeRepoRelativePath (String.ofList path) = .error exc) ∨
      err = .nullByte ∨ err = .windowsRooted path)
  | unnamed (exc : PyException) (kernel : normalizeRepoRelativePath path = .error .empty)
    (code : fallbackPrecheckErrorCode path = none)
    (fallback : ChangeRisk.normalizeRepoRelativePath (String.ofList path) = .error exc)
    (unnamed : Unnamed path)
  | accepted (normalized : Text) (kernel : normalizeRepoRelativePath path = .ok normalized)
    (code : fallbackPrecheckErrorCode path = none)
    (fallback : ChangeRisk.normalizeRepoRelativePath (String.ofList path) =
      .ok (String.ofList normalized)) (named : ¬ Unnamed path)

theorem sideBySide (h : ReadAlike path) : SideBySide path := by
  have hstrip := strip_replaced h
  have hdrive := startsWithDrive_trimmedPath h
  by_cases hnul : '\x00' ∈ path
  · refine .refused .nullByte ?_ ?_ rfl (fun hu => hu.1 hnul) (.inr (.inl rfl))
    · rw [normalizeRepoRelativePath, if_pos hnul]
    · rw [fallbackPrecheckErrorCode, if_pos hnul]
      rfl
  by_cases hempty : trimmedPath path = []
  · refine .refused .empty ?_ ?_ rfl (fun hu => hu.2.1 hempty) (.inl (exists_error h (.inl hempty)))
    · simp [normalizeRepoRelativePath, hnul, hempty]
    · simp [fallbackPrecheckErrorCode, hnul, hstrip, hempty, PathSafetyError.code]
  by_cases habsolute : isAbsolute (trimmedPath path) = true
  · refine .refused (.absolute path) ?_ ?_ rfl (fun hu => absurd habsolute (by simpa using hu.2.2.1))
      (.inl (exists_error h (.inr (.inl habsolute))))
    · simp [normalizeRepoRelativePath, hnul, hempty, habsolute]
    · simp [fallbackPrecheckErrorCode, hnul, hstrip, hempty, habsolute, PathSafetyError.code]
  by_cases hrooted : hasWindowsDrivePrefix (trimmedPath path) = true
  · refine .refused (.windowsRooted path) ?_ ?_ rfl
      (fun hu => parts_ne_nil_of_drive hrooted hu.2.2.2) (.inr (.inr rfl))
    · simp [normalizeRepoRelativePath, hnul, hempty, habsolute, hrooted]
    · simp [fallbackPrecheckErrorCode, hnul, hstrip, hempty, habsolute, hdrive, hrooted,
        PathSafetyError.code]
  by_cases hdots : ['.', '.'] ∈ splitOn '/' (trimmedPath path)
  · have hmem := dots_mem_namedSegments.mp hdots
    refine .refused (.parentTraversal path) ?_ ?_ rfl ?_
      (.inl (exists_error h (.inr (.inr (.inl hmem)))))
    · simp [normalizeRepoRelativePath, hnul, hempty, habsolute, hrooted, cleanParts_eq, hdots]
      rfl
    · simp [fallbackPrecheckErrorCode, hnul, hstrip, hempty, habsolute, hdrive, hrooted, hdots,
        PathSafetyError.code]
    · intro hu
      rw [hu.2.2.2] at hmem
      cases hmem
  have hcode : fallbackPrecheckErrorCode path = none := by
    simp [fallbackPrecheckErrorCode, hnul, hstrip, hempty, habsolute, hdrive, hrooted, hdots]
  have hparts : ['.', '.'] ∉ parts (trimmedPath path) :=
    fun hmem => hdots (dots_mem_namedSegments.mpr hmem)
  by_cases hnamed : namedSegments path = []
  · obtain ⟨exc, hexc⟩ := exists_error h (.inr (.inr (.inr hnamed)))
    refine .unnamed exc ?_ hcode hexc ⟨hnul, hempty, by simpa using habsolute, hnamed⟩
    rw [normalizeRepoRelativePath, if_neg hnul]
    simp only [hempty, habsolute, hrooted, cleanParts_eq, if_neg hdots, if_false]
    exact if_pos hnamed
  · refine .accepted (joinWith '/' (namedSegments path)) ?_ hcode ?_ fun hu => hnamed hu.2.2.2
    · exact normalizeRepoRelativePath_eq_ok.mpr
        ⟨hnul, by simpa using habsolute, by simpa using hrooted, hdots, hnamed, rfl⟩
    · rw [namedSegments] at hnamed
      simp [ChangeRisk.normalizeRepoRelativePath, hstrip, hempty, habsolute, hparts, hnamed,
        namedSegments]

/-! ## Outcomes -/

def withoutReason (outcome : PathValidationOutcome) : PathValidationOutcome :=
  { outcome with reason := none }

def refusal (errorCode : String) : PathValidationOutcome := ⟨false, none, some errorCode, none, false⟩

theorem validateRepoRelativePath_eq (h : ReadAlike path) (hnamed : ¬ Unnamed path) :
    validateRepoRelativePath path = checkRepoRelativePath path := by
  rw [validateRepoRelativePath, checkedOutcome, checkRepoRelativePath]
  cases sideBySide h with
  | refused err kernel code reason _ _ =>
    rw [kernel, code]
    simp only [unsafePathOutcomeFromCode, unsafeOutcome, reason]
  | unnamed _ _ _ _ unnamed => exact absurd unnamed hnamed
  | accepted normalized kernel code fallback _ =>
    rw [kernel, code, fallback]
    simp only [safePathOutcome, String.toList_ofList]

theorem validateRepoRelativePath_unnamed (h : ReadAlike path) (hunnamed : Unnamed path) :
    withoutReason (validateRepoRelativePath path) = refusal "invalid-path" ∧
      withoutReason (checkRepoRelativePath path) = refusal "empty-path" := by
  rw [validateRepoRelativePath, checkedOutcome, checkRepoRelativePath]
  cases sideBySide h with
  | refused _ _ _ _ named _ => exact absurd hunnamed named
  | unnamed exc kernel code fallback _ =>
    rw [kernel, code, fallback]
    simp [unsafePathOutcome, fallbackErrorCode, code, withoutReason, refusal, unsafeOutcome,
      PathSafetyError.code]
  | accepted _ _ _ _ named => exact absurd hunnamed named

/-- The reason alone tells which text a patch path was read from. -/
theorem checkedOutcome_withoutReason (original : Text) (hnamed : ¬ Unnamed path)
    (h : ReadAlike path) : withoutReason (checkedOutcome original path) =
      withoutReason (checkRepoRelativePath path) := by
  rw [checkedOutcome, checkRepoRelativePath]
  cases sideBySide h with
  | refused err kernel code _ _ _ =>
    rw [kernel, code]
    rfl
  | unnamed _ _ _ _ unnamed => exact absurd unnamed hnamed
  | accepted normalized kernel code fallback _ =>
    rw [kernel, code, fallback]
    simp only [safePathOutcome, String.toList_ofList, withoutReason]

theorem checkedOutcome_unnamed (original : Text) (hunnamed : Unnamed path) (h : ReadAlike path) :
    (checkedOutcome original path).safe = false ∧ (checkRepoRelativePath path).safe = false := by
  rw [checkedOutcome, checkRepoRelativePath]
  cases sideBySide h with
  | refused _ _ _ _ named _ => exact absurd hunnamed named
  | unnamed exc kernel code fallback _ =>
    rw [kernel, code, fallback]
    exact ⟨rfl, rfl⟩
  | accepted _ _ _ _ named => exact absurd hunnamed named

omit [LetterTable] in
theorem withoutGitPrefix_isInfix (s : Text) : withoutGitPrefix s <:+: s := by
  rw [withoutGitPrefix]
  split_ifs
  · exact (List.drop_suffix 2 s).isInfix
  · exact List.infix_refl s

omit [LetterTable] in
theorem checkPatchPath_eq (hdevice : trim path ≠ "/dev/null".toList) :
    checkPatchPath path = checkRepoRelativePath (withoutGitPrefix (trim path)) := by
  have hread : Kernel.validatePatchPath path =
      (normalizeRepoRelativePath (withoutGitPrefix (trim path))).map some := by
    rw [Kernel.validatePatchPath]
    split
    · rename_i rest heq
      rw [heq]
      rfl
    · rename_i rest heq
      rw [heq]
      rfl
    · rename_i hnota hnotb
      rw [if_neg hdevice, withoutGitPrefix, if_neg]
      simp only [startsWith, Bool.or_eq_true, List.isPrefixOf_iff_prefix, not_or]
      constructor
      · rintro ⟨rest, hrest⟩
        exact hnota rest hrest.symm
      · rintro ⟨rest, hrest⟩
        exact hnotb rest hrest.symm
  rw [checkPatchPath, checkRepoRelativePath, hread]
  cases normalizeRepoRelativePath (withoutGitPrefix (trim path)) with
  | error err => rfl
  | ok normalized =>
    have hsentinel : decide (trim path = "/dev/null".toList) = false := decide_eq_false hdevice
    simp only [Except.map, hsentinel]

/-! ## Accepted paths -/

/-- A chain of segments that names a place below the repository. -/
def BelowRepository (normalized : Text) : Prop :=
  ∃ segments, segments ≠ [] ∧ normalized = joinWith '/' segments ∧ ∀ segment ∈ segments,
    segment ∉ [[], ['.'], ['.', '.']] ∧ ∀ c ∈ segment, c ∉ ['/', '\\', '\x00']

omit [LetterTable] in
theorem mem_strip {c : Char} {s : Text} (h : c ∈ strip s) : c ∈ s :=
  (List.rdropWhile_prefix isSpace s).subset ((List.dropWhile_suffix isSpace).subset h)

theorem belowRepository_of_checked {original normalized : Text}
    (h : (checkedOutcome original path).normalizedPath = some normalized) :
    BelowRepository normalized := by
  rw [checkedOutcome] at h
  split at h
  · cases h
  · rename_i hcode
    have hnul : '\x00' ∉ path := by
      intro hmem
      rw [fallbackPrecheckErrorCode, if_pos hmem] at hcode
      cases hcode
    split at h
    · rename_i accepted haccepted
      obtain rfl : accepted.toList = normalized := by simpa [safePathOutcome] using h
      simp only [ChangeRisk.normalizeRepoRelativePath, String.toList_ofList] at haccepted
      split_ifs at haccepted with _ _ hdots hnone
      obtain rfl := Except.ok.inj haccepted
      refine ⟨_, hnone, String.toList_ofList, ?_⟩
      intro segment hsegment
      obtain ⟨hsplit, hname⟩ := List.mem_filter.mp hsegment
      refine ⟨?_, ?_⟩
      · have hparent : segment ≠ ['.', '.'] := by
          rintro rfl
          exact hdots hsegment
        simpa [hparent] using hname
      · intro c hc hbad
        have hslash : c ≠ '/' := by
          rintro rfl
          exact sep_notMem_of_mem_splitOn hsplit hc
        have hmem : c ∈ replaceChar '\\' '/' path := by
          apply mem_strip
          rw [← @joinWith_splitOn '/' (strip _)]
          exact mem_joinWith_of_mem hsplit hc
        obtain ⟨d, hd, rfl⟩ := List.mem_map.mp hmem
        split_ifs at hslash hbad with hback
        · exact hslash rfl
        · simp only [List.mem_cons, List.not_mem_nil, or_false] at hbad
          rcases hbad with rfl | rfl | rfl
          · exact hslash rfl
          · exact hback rfl
          · exact hnul hd
    · cases h

/-- On a text that the two languages read alike the fallback gives the outcome of the kernel, with
the same normalized path and error code, but for a path whose segments all are dropped, which both
refuse. Whatever text it reads, the fallback accepts nothing but a place below the repository. -/
theorem fallback_follows_kernel (path : Text) :
    (ReadAlike path →
      (¬ Unnamed path → validateRepoRelativePath path = checkRepoRelativePath path) ∧
      (Unnamed path →
        withoutReason (validateRepoRelativePath path) = refusal "invalid-path" ∧
        withoutReason (checkRepoRelativePath path) = refusal "empty-path") ∧
      (¬ Unnamed (withoutGitPrefix (strip path)) →
        withoutReason (validatePatchPath path) = withoutReason (checkPatchPath path)) ∧
      (Unnamed (withoutGitPrefix (strip path)) →
        (validatePatchPath path).safe = false ∧ (checkPatchPath path).safe = false)) ∧
    ∀ normalized,
      (validateRepoRelativePath path).normalizedPath = some normalized ∨
        (validatePatchPath path).normalizedPath = some normalized →
      BelowRepository normalized := by
  constructor
  · intro h
    have hstrip : strip path = trim path := strip_eq_trim h.ends
    have hinner : ReadAlike (withoutGitPrefix (trim path)) :=
      h.of_isInfix ((withoutGitPrefix_isInfix _).trans (trim_isInfix path))
    refine ⟨validateRepoRelativePath_eq h, validateRepoRelativePath_unnamed h, ?_, ?_⟩
    · intro hnamed
      rw [hstrip] at hnamed
      rw [validatePatchPath, hstrip]
      by_cases hdevice : trim path = "/dev/null".toList
      · rw [if_pos hdevice]
        simp [checkPatchPath, Kernel.validatePatchPath, hdevice, safePathOutcome, withoutReason]
      · rw [if_neg hdevice, checkPatchPath_eq hdevice]
        exact checkedOutcome_withoutReason path hnamed hinner
    · intro hunnamed
      rw [hstrip] at hunnamed
      have hdevice : trim path ≠ "/dev/null".toList := by
        intro hdevice
        rw [hdevice] at hunnamed
        exact absurd hunnamed.2.2.1 (by decide)
      rw [validatePatchPath, hstrip, if_neg hdevice, checkPatchPath_eq hdevice]
      exact checkedOutcome_unnamed path hunnamed hinner
  · rintro normalized (hrepo | hpatch)
    · exact belowRepository_of_checked hrepo
    · rw [validatePatchPath] at hpatch
      split_ifs at hpatch with hdevice
      · cases hpatch
      · exact belowRepository_of_checked hpatch

/-! ## Sensitivity -/

omit [LetterTable] in
theorem lower_normalized [UnicodeTables] {normalized : Text} (hascii : ∀ c ∈ path, isAscii c = true)
    (h : normalizeRepoRelativePath path = .ok normalized) :
    lower normalized = normalized.map Char.toLower := by
  obtain ⟨-, -, -, -, -, rfl⟩ := normalizeRepoRelativePath_eq_ok.mp h
  rw [lower, if_pos]
  rw [List.all_eq_true]
  intro c hc
  rcases mem_joined hc with rfl | htrimmed
  · rfl
  · rcases mem_of_mem_trimmedPath htrimmed with rfl | hpath
    · rfl
    · exact hascii c hpath

/-- Where the kernel classifies a path that both languages lower-case alike, the fallback gives the
same category, severity and reason. It refuses what the kernel refuses, but for a NUL and a drive,
which it never looks for. -/
theorem fallback_sensitivity [UnicodeTables] (path : Text) (h : ReadAlike path)
    (hlower : ∀ normalized, normalizeRepoRelativePath path = .ok normalized →
      lower normalized = normalized.map Char.toLower) :
    (∀ sensitivity, Kernel.classifyPathSensitivity path = .ok sensitivity →
      classifyPathSensitivity path = .ok sensitivity) ∧
    ∀ err, Kernel.classifyPathSensitivity path = .error err →
      (∃ exc, classifyPathSensitivity path = .error exc) ∨
        err = .nullByte ∨ err = .windowsRooted path := by
  have hrefused : ∀ exc, ChangeRisk.normalizeRepoRelativePath (String.ofList path) = .error exc →
      classifyPathSensitivity path = .error exc := by
    intro exc hexc
    rw [classifyPathSensitivity, hexc]
    rfl
  rw [Kernel.classifyPathSensitivity]
  cases sideBySide h with
  | refused refusal kernel _ _ _ fallback =>
    rw [kernel]
    refine ⟨?_, ?_⟩
    · intro _ hok
      cases hok
    · intro err herr
      obtain rfl : refusal = err := Except.error.inj herr
      rcases fallback with ⟨exc, hexc⟩ | hunchecked
      · exact .inl ⟨exc, hrefused exc hexc⟩
      · exact .inr hunchecked
  | unnamed exc kernel _ fallback _ =>
    rw [kernel]
    refine ⟨?_, fun _ _ => .inl ⟨exc, hrefused exc fallback⟩⟩
    intro _ hok
    cases hok
  | accepted normalized kernel _ fallback _ =>
    rw [kernel]
    refine ⟨?_, ?_⟩
    · intro sensitivity hok
      obtain rfl : sensitivityOf (normalized.map Char.toLower) = sensitivity := Except.ok.inj hok
      rw [classifyPathSensitivity, fallback]
      simp only [Except.map, String.toList_ofList, hlower normalized kernel]
    · intro _ herr
      cases herr

end Alike

namespace Sample
open Rygnal.Library.PyText.Ascii

@[reducible] def noLetters : LetterTable := ⟨fun _ => false⟩

theorem readme_sensitivity : classifyPathSensitivity "docs\\./README.md".toList =
    .ok ⟨"documentation", "low", "path appears to be documentation"⟩ := by
  have hcolon : ':' ∉ "docs\\./README.md".toList := by decide
  have halike : @ReadAlike noLetters "docs\\./README.md".toList := by
    refine @ReadAlike.mk noLetters _ (by decide) ?_
    intro c hc
    exact absurd (hc.subset (List.mem_cons_of_mem c List.mem_cons_self)) hcolon
  have hlower : ∀ normalized,
      normalizeRepoRelativePath "docs\\./README.md".toList = .ok normalized →
        lower normalized = normalized.map Char.toLower := by
    intro normalized
    exact lower_normalized (by decide)
  exact (@fallback_sensitivity noLetters _ _ halike hlower).1 _ (by decide +kernel)

end Sample

end Fallback
end Rygnal.Kernel
