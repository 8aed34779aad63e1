import Rygnal.Library.Fields
import Rygnal.Core.JsonText
import Rygnal.GuardedRun.Verification

/-! # Round trip of Git's records

The raw and the numstat output of a diff, as Git writes them with NUL bytes, and what is read back
from them. Every path passes through `normalize_repo_relative_path`, which refuses some names and
rewrites others.
-/

namespace Rygnal.GuardedRun
open Rygnal.Core Rygnal.Core.PyException Rygnal.Library Rygnal.Library.PyText Rygnal.ChangeRisk

/-! ## Stable paths -/

/-- A name that normalization keeps as it is. -/
structure StablePath (path : String) : Prop where
  noBackslash : '\\' ∉ path.toList
  trimmed : strip path.toList = path.toList
  components : ∀ part ∈ splitOn '/' path.toList, part ≠ [] ∧ part ≠ ['.'] ∧ part ≠ ['.', '.']

/-- The path is refused. -/
def Rejected (path : String) : Prop := ∃ exc, normalizeRepoRelativePath path = .error exc

theorem replaceChar_of_notMem {old new : Char} {s : Text} (h : old ∉ s) :
    replaceChar old new s = s := by
  rw [replaceChar]
  conv_rhs => rw [← List.map_id s]
  apply List.map_congr_left
  intro c hc
  exact if_neg fun heq : c = old => h (heq ▸ hc)

theorem normalPath_of_stable {path : String} (h : StablePath path) : NormalPath path := by
  have hreplace : replaceChar '\\' '/' path.toList = path.toList :=
    replaceChar_of_notMem h.noBackslash
  have hparts : PosixPath.parts path.toList = splitOn '/' path.toList := by
    apply List.filter_eq_self.mpr
    intro part hpart
    exact decide_eq_true ⟨(h.components part hpart).1, (h.components part hpart).2.1⟩
  have hnonempty : path.toList ≠ [] := by
    intro hempty
    have hfirst := h.components [] (by rw [hempty]; exact List.mem_singleton_self _)
    exact hfirst.1 rfl
  have hrelative : PosixPath.isAbsolute path.toList = false := by
    rw [PosixPath.isAbsolute, decide_eq_false_iff_not]
    intro habsolute
    obtain ⟨rest, hrest⟩ := List.head?_eq_some_iff.mp habsolute
    have hfirst := h.components [] (by rw [hrest, splitOn_sep]; exact List.mem_cons_self)
    exact hfirst.1 rfl
  have hdots : ['.', '.'] ∉ splitOn '/' path.toList := by
    intro hmem
    exact (h.components _ hmem).2.2 rfl
  rw [NormalPath, normalizeRepoRelativePath, hreplace, h.trimmed]
  simp only [hparts, if_neg hnonempty, hrelative, Bool.false_eq_true, if_false, if_neg hdots,
    if_neg (splitOn_ne_nil _), joinWith_splitOn, String.ofList_toList]

theorem strip_sublist (s : Text) : (strip s).Sublist s :=
  (List.dropWhile_sublist _).trans (List.rdropWhile_prefix _ _).sublist

/-- What normalization returns, without an outer white space or a backslash. -/
theorem normalizeRepoRelativePath_eq_ok {path normalized : String}
    (h : normalizeRepoRelativePath path = .ok normalized) :
    ∃ cleanParts, cleanParts = PosixPath.parts (strip (replaceChar '\\' '/' path.toList)) ∧
      normalized.toList = joinWith '/' cleanParts ∧ cleanParts ≠ [] ∧ ['.', '.'] ∉ cleanParts := by
  rw [normalizeRepoRelativePath] at h
  split_ifs at h with hempty habsolute hdots hparts
  refine ⟨_, rfl, ?_, hparts, hdots⟩
  rw [← Except.ok.inj h, String.toList_ofList]

theorem stable_of_normalPath {path : String} (h : NormalPath path) : StablePath path := by
  obtain ⟨cleanParts, hclean, hjoin, hparts, hdots⟩ := normalizeRepoRelativePath_eq_ok h
  have hnoBackslash : '\\' ∉ path.toList := by
    intro hmem
    rw [hjoin] at hmem
    rcases mem_of_mem_joinWith hmem with hmem | ⟨part, hpart, hmem⟩
    · exact absurd hmem (by decide)
    · rw [hclean] at hpart
      have hstripped := @mem_joinWith_of_mem '/' _ _ (List.mem_of_mem_filter hpart) _ hmem
      rw [joinWith_splitOn] at hstripped
      obtain ⟨c, _, hc⟩ := List.mem_map.mp ((strip_sublist _).subset hstripped)
      split_ifs at hc with hslash
      · exact absurd hc (by decide)
      · exact hslash hc
  rw [replaceChar_of_notMem hnoBackslash] at hclean
  have hwidth : path.toList.length + 1 = width cleanParts := by
    rw [hjoin, length_joinWith hparts]
  have hstripped : (strip path.toList).length + 1 = width (splitOn '/' (strip path.toList)) := by
    rw [← @length_joinWith '/' _ (splitOn_ne_nil _), joinWith_splitOn]
  have hle : width cleanParts ≤ width (splitOn '/' (strip path.toList)) := by
    rw [hclean]
    exact width_filter_le _ _
  have htrimmed : strip path.toList = path.toList :=
    (strip_sublist path.toList).eq_of_length_le (by omega)
  rw [htrimmed] at hclean hstripped
  have hkept : ∀ part ∈ splitOn '/' path.toList, decide (part ≠ [] ∧ part ≠ ['.']) = true := by
    apply filter_eq_self_of_width
    change _ ≤ width (PosixPath.parts path.toList)
    rw [← hclean]
    omega
  refine ⟨hnoBackslash, htrimmed, ?_⟩
  intro part hpart
  have hproper := of_decide_eq_true (hkept part hpart)
  refine ⟨hproper.1, hproper.2, ?_⟩
  rintro rfl
  apply hdots
  rw [hclean]
  exact List.mem_filter.mpr ⟨hpart, decide_eq_true hproper⟩

/-- A path is kept exactly when it has no backslash, no outer white space and only proper
components. -/
theorem normalPath_iff {path : String} : NormalPath path ↔ StablePath path :=
  ⟨stable_of_normalPath, normalPath_of_stable⟩

/-! ## Records and their outputs -/

/-- A changed file of a diff: its raw record and its line counts, `none` for a binary file. -/
structure DiffRecord where
  raw : RawRecord
  counts : Option (ℕ × ℕ)
  nulFree : ∀ field ∈ raw.fields, '\x00' ∉ field.toList
  named : ∀ path ∈ raw.change.paths, path ≠ ""

/-- The change with its paths rewritten. -/
def RawChange.mapPaths (f : String → String) : RawChange → RawChange
  | .added path => .added (f path)
  | .deleted path => .deleted (f path)
  | .modified path => .modified (f path)
  | .typeChanged path => .typeChanged (f path)
  | .renamed similarity oldPath path => .renamed similarity (f oldPath) (f path)

def RawChange.path : RawChange → String
  | .added path => path
  | .deleted path => path
  | .modified path => path
  | .typeChanged path => path
  | .renamed _ _ path => path

def RawChange.oldPath : RawChange → Option String
  | .renamed _ oldPath _ => some oldPath
  | _ => none

/-- The file that a record stands for. -/
def RawRecord.changedFile (record : RawRecord) : ChangedFile where
  path := record.change.path
  kind := record.change.kind
  oldPath := record.change.oldPath
  oldMode := some (String.ofList record.oldMode.text)
  newMode := some (String.ofList record.newMode.text)
  modeChanged := String.ofList record.oldMode.text ≠ String.ofList record.newMode.text

namespace DiffRecord

def path (record : DiffRecord) : String := record.raw.change.path

def stats (record : DiffRecord) : LineStats :=
  match record.counts with
  | none => ⟨none, none, true⟩
  | some (additions, deletions) => ⟨some additions, some deletions, false⟩

def countText (count : Option ℕ) : Text := (count.map (Nat.toDigits 10)).getD ['-']

/-- The fields of `git diff --numstat -z`: a rename has its paths in fields of their own. -/
def numstatFields (record : DiffRecord) : List Text :=
  let header := countText (record.counts.map Prod.fst) ++
    '\t' :: (countText (record.counts.map Prod.snd) ++ ['\t'])
  match record.raw.change with
  | .renamed _ oldPath path => [header, oldPath.toList, path.toList]
  | change => [header ++ change.path.toList]

/-- `git diff --raw -z`. -/
def rawOutput (records : List DiffRecord) : Text :=
  terminated '\x00' (records.flatMap fun record => record.raw.fields.map String.toList)

/-- `git diff --numstat -z`. -/
def numstatOutput (records : List DiffRecord) : Text :=
  terminated '\x00' (records.flatMap numstatFields)

end DiffRecord

/-- `parse_git_raw_diff`, which leaves the empty fields out. -/
def readRawDiff (rawOutput : Text) : Except PyException (List ChangedFile) :=
  parseGitRawDiff (((splitOn '\x00' rawOutput).filter (· ≠ [])).map String.ofList)

/-- `parse_git_numstat`. -/
def readNumstat (rawOutput : Text) : Except PyException (List (String × LineStats)) :=
  parseGitNumstat ((splitOn '\x00' rawOutput).map String.ofList)

/-! ## Reading one record -/

/-- Normalization of the paths of a record. -/
def Normalizes (f : String → String) (record : RawRecord) : Prop :=
  ∀ path ∈ record.change.paths, normalizeRepoRelativePath path = .ok (f path)

theorem parseGitRawDiff_fields {f : String → String} {record : RawRecord}
    (h : Normalizes f record) (rest : List String) :
    parseGitRawDiff (record.fields ++ rest) = (parseGitRawDiff rest).map
      (RawRecord.changedFile { record with change := record.change.mapPaths f } :: ·) := by
  have hheader := readRawHeader_header record
  obtain ⟨oldMode, newMode, oldObject, newObject, change⟩ := record
  rw [RawRecord.fields, List.cons_append, parseGitRawDiff, hheader]
  cases change with
  | renamed similarity oldPath path =>
    have hold := h oldPath List.mem_cons_self
    have hnew := h path (List.mem_cons_of_mem _ List.mem_cons_self)
    simp only [RawChange.status, RawChange.paths, List.headD_cons, List.cons_append,
      List.nil_append, hold, hnew]
    cases parseGitRawDiff rest <;> rfl
  | _ path =>
    have hpath := h path List.mem_cons_self
    simp only [RawChange.status, RawChange.paths, List.headD_cons, List.cons_append,
      List.nil_append, hpath]
    cases parseGitRawDiff rest <;> rfl

theorem parseGitRawDiff_rejected {record : RawRecord}
    (h : ∃ path ∈ record.change.paths, Rejected path) (rest : List String) :
    ∃ exc, parseGitRawDiff (record.fields ++ rest) = .error exc := by
  have hheader := readRawHeader_header record
  obtain ⟨oldMode, newMode, oldObject, newObject, change⟩ := record
  obtain ⟨rejected, hmem, exc, hexc⟩ := h
  rw [RawRecord.fields, List.cons_append, parseGitRawDiff, hheader]
  cases change with
  | renamed similarity oldPath path =>
    simp only [RawChange.status, RawChange.paths, List.headD_cons, List.cons_append,
      List.nil_append]
    cases hold : normalizeRepoRelativePath oldPath with
    | error exc' => exact ⟨exc', rfl⟩
    | ok normalized =>
      rcases List.mem_cons.mp hmem with rfl | hmem
      · rw [hold] at hexc
        cases hexc
      · rw [List.mem_singleton.mp hmem] at hexc
        rw [hexc]
        exact ⟨exc, rfl⟩
  | _ path =>
    rw [List.mem_singleton.mp hmem] at hexc
    simp only [RawChange.status, RawChange.paths, List.headD_cons, List.cons_append,
      List.nil_append, hexc]
    exact ⟨exc, rfl⟩

theorem countText_plain {count : Option ℕ} {c : Char} (h : c ∈ DiffRecord.countText count) :
    c ∈ "-0123456789".toList := by
  cases count with
  | none =>
    rw [List.mem_singleton.mp h]
    decide
  | some n => exact List.mem_cons_of_mem '-' (Value.digits_chars h)

theorem parseLineCount_toDigits (n : ℕ) : parseLineCount (Nat.toDigits 10 n) = .ok (n : ℤ) := by
  have hdigits : (Nat.toDigits 10 n).all Char.isDigit = true := by
    rw [List.all_eq_true]
    intro c hc
    exact Nat.isDigit_of_mem_toDigits (by decide) (by decide) hc
  have hvalue := @Nat.ofDigitChars_ten_toDigits n
  rw [Nat.ofDigitChars_eq_foldl] at hvalue
  rw [parseLineCount, if_pos ⟨Nat.toDigits_ne_nil, hdigits⟩, hvalue]

theorem lineStats_counts (record : DiffRecord) :
    lineStats (DiffRecord.countText (record.counts.map Prod.fst))
      (DiffRecord.countText (record.counts.map Prod.snd)) = .ok record.stats := by
  have hdash : ∀ n : ℕ, Nat.toDigits 10 n ≠ ['-'] := by
    intro n h
    have hdigit := @Value.digits_chars n '-' (by rw [h]; exact List.mem_singleton_self _)
    exact absurd hdigit (by decide)
  rw [DiffRecord.stats]
  cases record.counts with
  | none => rfl
  | some counts =>
    obtain ⟨additions, deletions⟩ := counts
    change lineStats (Nat.toDigits 10 additions) (Nat.toDigits 10 deletions) = _
    rw [lineStats, if_neg (not_or.mpr ⟨hdash additions, hdash deletions⟩),
      parseLineCount_toDigits, parseLineCount_toDigits]
    rfl

theorem splitTabs_header {additions deletions : Text} (hadditions : '\t' ∉ additions)
    (hdeletions : '\t' ∉ deletions) (path : Text) :
    splitTabs (additions ++ '\t' :: (deletions ++ '\t' :: path)) =
      some (additions, deletions, path) := by
  obtain ⟨part, parts, hsplit⟩ := List.exists_cons_of_ne_nil (@splitOn_ne_nil '\t' path)
  rw [splitTabs, splitOn_append hadditions, splitOn_append hdeletions, hsplit]
  simp only
  rw [← hsplit, joinWith_splitOn]

section Numstat
variable {additions deletions : Text} (hadditions : '\t' ∉ additions)
  (hdeletions : '\t' ∉ deletions)
include hadditions hdeletions

theorem parseGitNumstat_path {path : Text} (hpath : path ≠ []) (rest : List String) :
    parseGitNumstat (String.ofList (additions ++ '\t' :: (deletions ++ '\t' :: path)) :: rest) = do
      let path ← normalizeRepoRelativePath (String.ofList path)
      let stats ← lineStats additions deletions
      let statsByPath ← parseGitNumstat rest
      return (path, stats) :: statsByPath := by
  have hheader : String.ofList (additions ++ '\t' :: (deletions ++ '\t' :: path)) ≠ "" := by
    intro h
    have hlist := congrArg String.toList h
    simp at hlist
  rw [parseGitNumstat, if_neg hheader, String.toList_ofList, splitTabs_header hadditions hdeletions]
  cases path with
  | nil => exact absurd rfl hpath
  | cons c cs => rfl

theorem parseGitNumstat_rename (oldPath path : String) (rest : List String) :
    parseGitNumstat (String.ofList (additions ++ '\t' :: (deletions ++ ['\t'])) :: oldPath ::
        path :: rest) = do
      let _ ← normalizeRepoRelativePath oldPath
      let path ← normalizeRepoRelativePath path
      let stats ← lineStats additions deletions
      let statsByPath ← parseGitNumstat rest
      return (path, stats) :: statsByPath := by
  have hheader : String.ofList (additions ++ '\t' :: (deletions ++ ['\t'])) ≠ "" := by
    intro h
    have hlist := congrArg String.toList h
    simp at hlist
  rw [parseGitNumstat, if_neg hheader, String.toList_ofList, splitTabs_header hadditions hdeletions]

end Numstat

theorem tab_notMem_countText (count : Option ℕ) : '\t' ∉ DiffRecord.countText count := by
  intro h
  exact absurd (countText_plain h) (by decide)

theorem parseGitNumstat_fields {f : String → String} {record : DiffRecord}
    (h : Normalizes f record.raw) (rest : List String) :
    parseGitNumstat (record.numstatFields.map String.ofList ++ rest) =
      (parseGitNumstat rest).map ((f record.path, record.stats) :: ·) := by
  have hstats := lineStats_counts record
  have hplain := tab_notMem_countText
  rw [Normalizes] at h
  have hnamed := record.named
  rw [DiffRecord.numstatFields, DiffRecord.path]
  cases hchange : record.raw.change with
  | renamed similarity oldPath path =>
    rw [hchange] at h
    have hold := h oldPath List.mem_cons_self
    have hnew := h path (List.mem_cons_of_mem _ List.mem_cons_self)
    simp only [List.map_cons, List.map_nil, List.cons_append, List.nil_append, String.ofList_toList]
    rw [parseGitNumstat_rename (hplain _) (hplain _), hold, hnew, hstats]
    cases parseGitNumstat rest <;> rfl
  | _ path =>
    rw [hchange] at h hnamed
    have hpath := h path List.mem_cons_self
    have hne : path.toList ≠ [] := by simpa using hnamed path List.mem_cons_self
    simp only [List.map_cons, List.map_nil, List.cons_append, List.nil_append, RawChange.path,
      List.append_assoc]
    rw [parseGitNumstat_path (hplain _) (hplain _) hne, String.ofList_toList, hpath, hstats]
    cases parseGitNumstat rest <;> rfl

theorem parseGitNumstat_rejected {record : DiffRecord}
    (h : ∃ path ∈ record.raw.change.paths, Rejected path) (rest : List String) :
    ∃ exc, parseGitNumstat (record.numstatFields.map String.ofList ++ rest) = .error exc := by
  obtain ⟨rejected, hmem, exc, hexc⟩ := h
  have hplain := tab_notMem_countText
  have hnamed := record.named
  rw [DiffRecord.numstatFields]
  cases hchange : record.raw.change with
  | renamed similarity oldPath path =>
    rw [hchange] at hmem
    simp only [List.map_cons, List.map_nil, List.cons_append, List.nil_append, String.ofList_toList]
    rw [parseGitNumstat_rename (hplain _) (hplain _)]
    cases hold : normalizeRepoRelativePath oldPath with
    | error exc' => exact ⟨exc', rfl⟩
    | ok normalized =>
      rcases List.mem_cons.mp hmem with rfl | hmem
      · rw [hold] at hexc
        cases hexc
      · rw [List.mem_singleton.mp hmem] at hexc
        rw [hexc]
        exact ⟨exc, rfl⟩
  | _ path =>
    rw [hchange] at hmem hnamed
    rw [List.mem_singleton.mp hmem] at hexc
    have hne : path.toList ≠ [] := by simpa using hnamed path List.mem_cons_self
    simp only [List.map_cons, List.map_nil, List.cons_append, List.nil_append, RawChange.path,
      List.append_assoc]
    rw [parseGitNumstat_path (hplain _) (hplain _) hne, String.ofList_toList, hexc]
    exact ⟨exc, rfl⟩

/-! ## Reading a list of records -/

theorem header_ne_empty (record : RawRecord) : record.header ≠ [] := by
  simp [RawRecord.header]

theorem splitOn_rawOutput (records : List DiffRecord) :
    ((splitOn '\x00' (DiffRecord.rawOutput records)).filter (· ≠ [])).map String.ofList =
      records.flatMap fun record => record.raw.fields := by
  have hfields : ∀ field ∈ records.flatMap fun record => record.raw.fields.map String.toList,
      '\x00' ∉ field ∧ field ≠ [] := by
    intro field hfield
    obtain ⟨record, _, hfield⟩ := List.mem_flatMap.mp hfield
    obtain ⟨text, htext, rfl⟩ := List.mem_map.mp hfield
    refine ⟨record.nulFree text htext, ?_⟩
    rcases List.mem_cons.mp htext with rfl | htext
    · rw [String.toList_ofList]
      exact header_ne_empty record.raw
    · simpa using record.named text htext
  rw [DiffRecord.rawOutput, splitOn_terminated fun field hfield => (hfields field hfield).1,
    List.filter_append, List.filter_eq_self.mpr]
  · simp only [ne_eq, not_true_eq_false, decide_false, Bool.false_eq_true, not_false_eq_true,
      List.filter_cons_of_neg, List.filter_nil, List.append_nil, List.map_flatMap, List.map_map]
    apply List.flatMap_congr
    intro record _
    have hid : String.ofList ∘ String.toList = id := funext fun _ => String.ofList_toList
    rw [hid, List.map_id]
  · intro field hfield
    exact decide_eq_true (hfields field hfield).2

theorem splitOn_numstatOutput (records : List DiffRecord) :
    (splitOn '\x00' (DiffRecord.numstatOutput records)).map String.ofList =
      (records.flatMap fun record => record.numstatFields.map String.ofList) ++ [""] := by
  have hcount : ∀ count, '\x00' ∉ DiffRecord.countText count := by
    intro count h
    exact absurd (countText_plain h) (by decide)
  have hfields : ∀ field ∈ records.flatMap DiffRecord.numstatFields, '\x00' ∉ field := by
    intro field hfield
    obtain ⟨record, _, hfield⟩ := List.mem_flatMap.mp hfield
    have hnul : ∀ path ∈ record.raw.change.paths, '\x00' ∉ path.toList := by
      intro path hpath
      exact record.nulFree path (List.mem_cons_of_mem _ hpath)
    rw [DiffRecord.numstatFields] at hfield
    cases hchange : record.raw.change with
    | renamed similarity oldPath path =>
      rw [hchange] at hfield hnul
      simp only [RawChange.paths, List.forall_mem_cons] at hnul
      rcases List.mem_cons.mp hfield with rfl | hfield
      · simp [hcount]
      · rcases List.mem_cons.mp hfield with rfl | hfield
        · exact hnul.1
        · rw [List.mem_singleton.mp hfield]
          exact hnul.2.1
    | _ path =>
      rw [hchange] at hfield hnul
      simp only [RawChange.paths, List.forall_mem_cons] at hnul
      rw [List.mem_singleton.mp hfield]
      simp [hcount, RawChange.path, hnul.1]
  rw [DiffRecord.numstatOutput, splitOn_terminated hfields, List.map_append, List.map_flatMap]
  rfl

/-- The two outputs are read as exactly the records, or refused. -/
structure RoundTrips (records : List DiffRecord) : Prop where
  files : ∀ files, readRawDiff (DiffRecord.rawOutput records) = .ok files →
    files = records.map fun record => record.raw.changedFile
  stats : ∀ statsByPath, readNumstat (DiffRecord.numstatOutput records) = .ok statsByPath →
    (∀ record ∈ records, statsByPath.reverse.lookup record.path = some record.stats) ∧
      ∀ path ∈ statsByPath.map Prod.fst, ∃ record ∈ records, record.path = path

/-- Some path of the records is refused. -/
def SomeRejected (records : List DiffRecord) : Prop :=
  ∃ record ∈ records, ∃ path ∈ record.raw.change.paths, Rejected path

/-- The paths that normalization returns. -/
def normalForm (path : String) : String := (normalizeRepoRelativePath path).toOption.getD path

theorem normalizes_of_not_rejected {record : RawRecord}
    (h : ¬ ∃ path ∈ record.change.paths, Rejected path) : Normalizes normalForm record := by
  intro path hpath
  rw [normalForm]
  cases hnormal : normalizeRepoRelativePath path with
  | error exc => exact absurd ⟨path, hpath, exc, hnormal⟩ h
  | ok normalized => rfl

theorem readRawDiff_rejected {records : List DiffRecord} (h : SomeRejected records) :
    ∃ exc, readRawDiff (DiffRecord.rawOutput records) = .error exc := by
  rw [readRawDiff, splitOn_rawOutput]
  induction records with
  | nil =>
    obtain ⟨record, hrecord, _⟩ := h
    cases hrecord
  | cons record records ih =>
    rw [List.flatMap_cons]
    by_cases hfirst : ∃ path ∈ record.raw.change.paths, Rejected path
    · exact parseGitRawDiff_rejected hfirst _
    · rw [parseGitRawDiff_fields (normalizes_of_not_rejected hfirst)]
      obtain ⟨other, hother, hrejected⟩ := h
      rcases List.mem_cons.mp hother with rfl | hother
      · exact absurd hrejected hfirst
      · obtain ⟨exc, hexc⟩ := ih ⟨other, hother, hrejected⟩
        exact ⟨exc, by rw [hexc]; rfl⟩

theorem readRawDiff_accepted {records : List DiffRecord} (h : ¬ SomeRejected records) :
    readRawDiff (DiffRecord.rawOutput records) = .ok (records.map fun record =>
      RawRecord.changedFile { record.raw with change := record.raw.change.mapPaths normalForm }) := by
  rw [readRawDiff, splitOn_rawOutput]
  induction records with
  | nil => rfl
  | cons record records ih =>
    have hfirst : ¬ ∃ path ∈ record.raw.change.paths, Rejected path :=
      fun hrejected => h ⟨record, List.mem_cons_self, hrejected⟩
    have hlater : ¬ SomeRejected records := by
      rintro ⟨other, hother, hrejected⟩
      exact h ⟨other, List.mem_cons_of_mem record hother, hrejected⟩
    rw [List.flatMap_cons, parseGitRawDiff_fields (normalizes_of_not_rejected hfirst), ih hlater]
    rfl

theorem readNumstat_rejected {records : List DiffRecord} (h : SomeRejected records) :
    ∃ exc, readNumstat (DiffRecord.numstatOutput records) = .error exc := by
  rw [readNumstat, splitOn_numstatOutput]
  induction records with
  | nil =>
    obtain ⟨record, hrecord, _⟩ := h
    cases hrecord
  | cons record records ih =>
    rw [List.flatMap_cons, List.append_assoc]
    by_cases hfirst : ∃ path ∈ record.raw.change.paths, Rejected path
    · exact parseGitNumstat_rejected hfirst _
    · rw [parseGitNumstat_fields (normalizes_of_not_rejected hfirst)]
      obtain ⟨other, hother, hrejected⟩ := h
      rcases List.mem_cons.mp hother with rfl | hother
      · exact absurd hrejected hfirst
      · obtain ⟨exc, hexc⟩ := ih ⟨other, hother, hrejected⟩
        exact ⟨exc, by rw [hexc]; rfl⟩

theorem readNumstat_accepted {records : List DiffRecord} (h : ¬ SomeRejected records) :
    readNumstat (DiffRecord.numstatOutput records) =
      .ok (records.map fun record => (normalForm record.path, record.stats)) := by
  rw [readNumstat, splitOn_numstatOutput]
  induction records with
  | nil => rfl
  | cons record records ih =>
    have hfirst : ¬ ∃ path ∈ record.raw.change.paths, Rejected path :=
      fun hrejected => h ⟨record, List.mem_cons_self, hrejected⟩
    have hlater : ¬ SomeRejected records := by
      rintro ⟨other, hother, hrejected⟩
      exact h ⟨other, List.mem_cons_of_mem record hother, hrejected⟩
    rw [List.flatMap_cons, List.append_assoc,
      parseGitNumstat_fields (normalizes_of_not_rejected hfirst), ih hlater]
    rfl

/-- A value of a list with distinct keys is found by its key. -/
theorem lookup_of_mem {α : Type} {entries : List (String × α)} {key : String} {value : α}
    (hdistinct : (entries.map Prod.fst).Nodup) (h : (key, value) ∈ entries) :
    entries.lookup key = some value := by
  induction entries with
  | nil => cases h
  | cons entry entries ih =>
    rw [List.map_cons, List.nodup_cons] at hdistinct
    rw [List.lookup_cons]
    rcases List.mem_cons.mp h with heq | h
    · rw [← heq, beq_self_eq_true]
    · have hne : (key == entry.1) = false := by
        rw [beq_eq_false_iff_ne]
        intro heq
        exact hdistinct.1 (List.mem_map.mpr ⟨(key, value), h, heq⟩)
      rw [hne]
      exact ih hdistinct.2 h

/-- Only the paths of a record pass through normalization. -/
theorem changedFile_mapPaths (f : String → String) (record : RawRecord) :
    RawRecord.changedFile { record with change := record.change.mapPaths f } = record.changedFile ↔
      ∀ path ∈ record.change.paths, f path = path := by
  obtain ⟨oldMode, newMode, oldObject, newObject, change⟩ := record
  cases change with
  | renamed similarity oldPath path =>
    simp [RawRecord.changedFile, RawChange.mapPaths, RawChange.path, RawChange.oldPath,
      RawChange.kind, RawChange.paths, and_comm]
  | _ path =>
    simp [RawRecord.changedFile, RawChange.mapPaths, RawChange.path, RawChange.oldPath,
      RawChange.kind, RawChange.paths]

theorem path_mem_paths (change : RawChange) : change.path ∈ change.paths := by
  cases change <;> simp [RawChange.path, RawChange.paths]

/-- Records with distinct paths are read back as they are, or refused, if and only if one of their
paths is refused or every one is a name that normalization keeps. -/
theorem roundTrips_iff (records : List DiffRecord)
    (hdistinct : (records.map DiffRecord.path).Nodup) :
    RoundTrips records ↔ SomeRejected records ∨
      ∀ record ∈ records, ∀ path ∈ record.raw.change.paths, StablePath path := by
  constructor
  · intro h
    by_cases hrejected : SomeRejected records
    · exact .inl hrejected
    · right
      intro record hrecord path hpath
      have hfiles := h.files _ (readRawDiff_accepted hrejected)
      have hfile := List.map_inj_left.mp hfiles record hrecord
      have hsame := (changedFile_mapPaths normalForm record.raw).mp hfile path hpath
      have hnormal := normalizes_of_not_rejected
        (fun hsome => hrejected ⟨record, hrecord, hsome⟩) path hpath
      rw [← normalPath_iff, NormalPath, hnormal, hsame]
  · rintro (hrejected | hstable)
    · obtain ⟨exc, hexc⟩ := readRawDiff_rejected hrejected
      obtain ⟨exc', hexc'⟩ := readNumstat_rejected hrejected
      constructor
      · intro files hfiles
        rw [hexc] at hfiles
        cases hfiles
      · intro statsByPath hstats
        rw [hexc'] at hstats
        cases hstats
    · have hnormal : ∀ record ∈ records, ∀ path ∈ record.raw.change.paths,
          normalizeRepoRelativePath path = .ok path :=
        fun record hrecord path hpath => normalPath_of_stable (hstable record hrecord path hpath)
      have hsame : ∀ record ∈ records, ∀ path ∈ record.raw.change.paths, normalForm path = path := by
        intro record hrecord path hpath
        rw [normalForm, hnormal record hrecord path hpath]
        rfl
      have haccepted : ¬ SomeRejected records := by
        rintro ⟨record, hrecord, path, hpath, exc, hexc⟩
        rw [hnormal record hrecord path hpath] at hexc
        cases hexc
      constructor
      · intro files hfiles
        rw [readRawDiff_accepted haccepted] at hfiles
        rw [← Except.ok.inj hfiles]
        apply List.map_congr_left
        intro record hrecord
        exact (changedFile_mapPaths normalForm record.raw).mpr (hsame record hrecord)
      · intro statsByPath hstats
        have hentries : statsByPath = records.map fun record => (record.path, record.stats) := by
          rw [readNumstat_accepted haccepted] at hstats
          rw [← Except.ok.inj hstats]
          apply List.map_congr_left
          intro record hrecord
          rw [DiffRecord.path, hsame record hrecord _ (path_mem_paths record.raw.change)]
        have hkeys : statsByPath.map Prod.fst = records.map DiffRecord.path := by
          rw [hentries, List.map_map]
          rfl
        constructor
        · intro record hrecord
          apply lookup_of_mem
          · rw [List.map_reverse, List.nodup_reverse, hkeys]
            exact hdistinct
          · rw [List.mem_reverse, hentries]
            exact List.mem_map.mpr ⟨record, hrecord, rfl⟩
        · intro path hpath
          rw [hkeys] at hpath
          exact List.mem_map.mp hpath

/-! ## A backslash in a name -/

namespace Slashes

def word (text : String) (h : text.toList ≠ [] ∧ ∀ c ∈ text.toList, isSpace c = false) : RawWord :=
  NewGuide.word text h

/-- An added file of one line. -/
def addedFile (path : String) : RawRecord :=
  { NewGuide.addedRecord path with newObject := word "587be6b" (by decide) }

def slash : DiffRecord where
  raw := addedFile "a/b"
  counts := some (1, 0)
  nulFree := by decide
  named := by decide

def backslash : DiffRecord where
  raw := addedFile "a\\b"
  counts := some (2, 0)
  nulFree := by decide
  named := by decide

theorem slash_roundTrips : RoundTrips [slash] := by
  refine (roundTrips_iff [slash] (by decide)).mpr (.inr ?_)
  intro record hrecord path hpath
  rw [List.mem_singleton.mp hrecord] at hpath
  rw [List.mem_singleton.mp hpath]
  exact ⟨by decide, by decide, by decide⟩

/-- Two files of Git are one path of the report, with the line counts of one of them. -/
theorem backslash_merged : ([slash, backslash].map DiffRecord.path).Nodup ∧
    ¬ RoundTrips [slash, backslash] := by
  refine ⟨by decide, ?_⟩
  intro h
  have hfiles : readRawDiff (DiffRecord.rawOutput [slash, backslash]) =
      .ok [(addedFile "a/b").changedFile, (addedFile "a/b").changedFile] := by
    decide +kernel
  exact absurd (h.files _ hfiles) (by decide)

end Slashes

end Rygnal.GuardedRun
