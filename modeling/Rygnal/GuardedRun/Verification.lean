import Rygnal.GuardedRun.PatchDiffs
import Rygnal.GuardedRun.SafeApply

/-! # Verification of an applied patch

A patch that was generated from a workspace and applied to a clean repository: when the
verification finds the same patch there.
-/

namespace Rygnal.GuardedRun
open Rygnal.Core Rygnal.Core.PyException Rygnal.Library Rygnal.Library.PyText Rygnal.ChangeRisk
  Rygnal.Artifact

/-! ## The assumptions about Git -/

/-- What a rename or an addition creates. -/
def RawChange.created : RawChange → Option String
  | .added path => some path
  | .renamed _ _ path => some path
  | _ => none

/-- The created files of a raw diff are the known files that the baseline lacks, and a patch that
applies to its baseline gives its files. -/
structure GitDiff.Faithful {Entry : Type} (git : GitDiff Entry) : Prop where
  created : ∀ tree known path, (∃ record ∈ git.raw tree known, record.change.created = some path) ↔
    path ∈ known.paths ∧ path ∉ tree.paths
  applies : ∀ tree known after, git.apply (git.patch tree known) tree = some after → after = known

/-! ## Raw records -/

theorem status_plain (change : RawChange) :
    change.status ≠ [] ∧ ∀ c ∈ change.status, isSpace c = false := by
  have hdigit : ∀ digit : Fin 10, isSpace (Nat.digitChar digit.val) = false := by decide
  cases change with
  | renamed similarity oldPath path =>
    refine ⟨by simp [RawChange.status], ?_⟩
    intro c hc
    rcases List.mem_cons.mp hc with rfl | hc
    · decide
    · obtain ⟨digit, _, rfl⟩ := List.mem_map.mp hc
      exact hdigit digit
  | _ => simp [RawChange.status]; try decide

/-- The header of a record is read back. -/
theorem readRawHeader_header (record : RawRecord) :
    readRawHeader (String.ofList record.header) =
      .ok ⟨String.ofList record.oldMode.text, String.ofList record.newMode.text,
        record.change.status.headD ' '⟩ := by
  obtain ⟨hstatus, hplain⟩ := status_plain record.change
  have hcolon : ∀ c ∈ ':' :: record.oldMode.text, isSpace c = false := by
    intro c hc
    rcases List.mem_cons.mp hc with rfl | hc
    · decide
    · exact record.oldMode.plain c hc
  have hsplit : PyText.split record.header = [':' :: record.oldMode.text, record.newMode.text,
      record.oldObject.text, record.newObject.text, record.change.status] := by
    have hword : ∀ (word : Text) (rest : Text), word ≠ [] → (∀ c ∈ word, isSpace c = false) →
        PyText.split (word ++ ' ' :: rest) = word :: PyText.split rest := by
      intro word rest hword h
      have hspace : isSpace ' ' = true := by decide
      rw [split_word_append hword h (by simpa using hspace), split_space hspace]
    have hlast : PyText.split record.change.status = [record.change.status] := by
      have h : PyText.split (record.change.status ++ []) = _ :=
        split_word_append hstatus hplain (by simp)
      rwa [List.append_nil] at h
    rw [RawRecord.header, hword _ _ (by simp) hcolon,
      hword _ _ record.newMode.nonempty record.newMode.plain,
      hword _ _ record.oldObject.nonempty record.oldObject.plain,
      hword _ _ record.newObject.nonempty record.newObject.plain, hlast]
  have hstart : startsWith record.header ":" = true := by
    simp [startsWith, RawRecord.header]
  rw [readRawHeader, String.toList_ofList, hstart, if_pos rfl, hsplit]
  rfl

/-- The kind of the file that is reported for a record. -/
def RawChange.kind : RawChange → ChangedFileKind
  | .added _ => .added
  | .deleted _ => .deleted
  | .modified _ => .modified
  | .typeChanged _ => .modeChanged
  | .renamed _ _ _ => .renamed

/-- A record is read as one file of its kind. -/
theorem parseGitRawDiff_record {record : RawRecord} {rest : List String} {files : List ChangedFile}
    (h : parseGitRawDiff (record.fields ++ rest) = .ok files) :
    ∃ file later, files = file :: later ∧ parseGitRawDiff rest = .ok later ∧
      file.kind = record.change.kind := by
  have hheader := readRawHeader_header record
  obtain ⟨oldMode, newMode, oldObject, newObject, change⟩ := record
  rw [RawRecord.fields, List.cons_append, parseGitRawDiff, hheader] at h
  obtain ⟨header, hread, h⟩ := bind_eq_ok.mp h
  obtain rfl := Except.ok.inj hread
  cases change with
  | renamed similarity oldPath path =>
    simp only [RawChange.status, RawChange.paths, List.headD_cons, if_true, List.cons_append,
      List.nil_append] at h
    obtain ⟨_, _, h⟩ := bind_eq_ok.mp h
    obtain ⟨_, _, h⟩ := bind_eq_ok.mp h
    obtain ⟨later, hlater, h⟩ := bind_eq_ok.mp h
    obtain rfl := Except.ok.inj h
    exact ⟨_, later, rfl, hlater, rfl⟩
  | _ =>
    simp only [RawChange.status, RawChange.paths, List.headD_cons, Char.reduceEq, if_false,
      List.cons_append, List.nil_append] at h
    obtain ⟨_, _, h⟩ := bind_eq_ok.mp h
    obtain ⟨kind, hkind, h⟩ := bind_eq_ok.mp h
    obtain ⟨later, hlater, h⟩ := bind_eq_ok.mp h
    obtain rfl := Except.ok.inj h
    obtain rfl := Except.ok.inj hkind
    exact ⟨_, later, rfl, hlater, rfl⟩

/-- The files of a raw diff are of the kinds of its records. -/
theorem parseGitRawDiff_kinds {records : List RawRecord} {files : List ChangedFile}
    (h : parseGitRawDiff (records.flatMap RawRecord.fields) = .ok files) :
    files.map ChangedFile.kind = records.map fun record => record.change.kind := by
  induction records generalizing files with
  | nil =>
    obtain rfl := Except.ok.inj h
    rfl
  | cons record records ih =>
    obtain ⟨file, later, rfl, hlater, hkind⟩ := parseGitRawDiff_record h
    rw [List.map_cons, List.map_cons, hkind, ih hlater]

/-! ## Untracked files -/

section Untracked
variable [UnicodeTables] {rules : GuardedIgnoreRules}

/-- The path is its own normal form. -/
def NormalPath (path : String) : Prop := normalizeRepoRelativePath path = .ok path

/-- The path is left out as generated noise. -/
def Ignored (rules : GuardedIgnoreRules) (path : String) : Prop :=
  ∃ decision, rules.decideUntrackedPath path = .ok decision ∧ decision.ignored = true

theorem classifyUntrackedFiles_kind {paths : List String} {changedFiles : List ChangedFile}
    {ignoredFiles : List String}
    (h : classifyUntrackedFiles rules paths = .ok (changedFiles, ignoredFiles)) :
    ∀ file ∈ changedFiles, file.kind = .untracked := by
  induction paths generalizing changedFiles ignoredFiles with
  | nil =>
    cases h
    simp
  | cons field fields ih =>
    obtain ⟨path, _, hdecide⟩ := bind_eq_ok.mp h
    obtain ⟨decision, _, hclassify⟩ := bind_eq_ok.mp hdecide
    obtain ⟨⟨laterFiles, laterIgnored⟩, hlater, hend⟩ := bind_eq_ok.mp hclassify
    cases hcase : decision.ignored with
    | true =>
      simp only [hcase, if_true] at hend
      cases hend
      exact ih hlater
    | false =>
      simp only [hcase, Bool.false_eq_true, if_false] at hend
      cases hend
      intro file hfile
      rcases List.mem_cons.mp hfile with rfl | hfile
      · rfl
      · exact ih hlater file hfile

/-- Normal untracked paths are reported under their names, or ignored. -/
theorem classifyUntrackedFiles_eq_ok {paths : List String} {changedFiles : List ChangedFile}
    {ignoredFiles : List String} (hnormal : ∀ path ∈ paths, NormalPath path)
    (h : classifyUntrackedFiles rules paths = .ok (changedFiles, ignoredFiles)) :
    (∀ file, file ∈ changedFiles ↔ ∃ path ∈ paths, ¬ Ignored rules path ∧
      file = ⟨path, .untracked, none, none, none, false⟩) ∧
    ∀ path, path ∈ ignoredFiles ↔ path ∈ paths ∧ Ignored rules path := by
  induction paths generalizing changedFiles ignoredFiles with
  | nil =>
    cases h
    simp
  | cons field fields ih =>
    obtain ⟨path, hpath, hdecide⟩ := bind_eq_ok.mp h
    obtain ⟨decision, hdecision, hclassify⟩ := bind_eq_ok.mp hdecide
    obtain ⟨⟨laterFiles, laterIgnored⟩, hlater, hend⟩ := bind_eq_ok.mp hclassify
    obtain ⟨hfiles, hignored⟩ := ih (fun p hp => hnormal p (List.mem_cons_of_mem field hp)) hlater
    have hfield := hnormal field List.mem_cons_self
    obtain rfl : path = field := Except.ok.inj (hpath.symm.trans hfield)
    have hsame : decision.path = path := by
      have hnormalized := normalizeGuardedPath_eq_ok.mp
        (GuardedIgnoreRules.decideUntrackedPath_path hdecision)
      exact Except.ok.inj (hnormalized.symm.trans hfield)
    have hiff : Ignored rules path ↔ decision.ignored = true := by
      constructor
      · rintro ⟨other, hother, hignored⟩
        obtain rfl := Except.ok.inj (hdecision.symm.trans hother)
        exact hignored
      · exact fun hignored => ⟨decision, hdecision, hignored⟩
    cases hcase : decision.ignored with
    | true =>
      rw [hcase] at hiff
      simp only [hcase, if_true] at hend
      cases hend
      refine ⟨fun file => ?_, fun p => ?_⟩
      · rw [hfiles]
        simp [hiff]
      · rw [List.mem_cons, hignored, hsame, List.mem_cons, or_and_right]
        constructor
        · rintro (rfl | hp)
          · exact .inl ⟨rfl, hiff.mpr rfl⟩
          · exact .inr hp
        · rintro (⟨rfl, _⟩ | hp)
          · exact .inl rfl
          · exact .inr hp
    | false =>
      rw [hcase] at hiff
      simp only [hcase, Bool.false_eq_true, if_false] at hend
      cases hend
      refine ⟨fun file => ?_, fun p => ?_⟩
      · rw [List.mem_cons, hfiles, hsame]
        simp [hiff]
      · rw [hignored, List.mem_cons, or_and_right]
        constructor
        · exact .inr
        · rintro (⟨rfl, hp⟩ | hp)
          · exact absurd (hiff.mp hp) (by decide)
          · exact hp

end Untracked

/-! ## Generated patches -/

section Generated
variable [UnicodeTables] [BytesDigest] {Entry : Type} {git : GitDiff Entry}
  {rules : GuardedIgnoreRules} {workspace : GitWorkspace Entry}

omit [UnicodeTables] [BytesDigest] in
/-- A normalized commit name is its own normal form. -/
theorem normalizeBaselineCommitSha_again {sha baseline : String}
    (h : normalizeBaselineCommitSha sha = .ok baseline) :
    normalizeBaselineCommitSha baseline = .ok baseline := by
  have hchar : ∀ c ∈ "0123456789abcdefABCDEF".toList,
      c.toLower ∈ "0123456789abcdefABCDEF".toList ∧ c.toLower.toLower = c.toLower ∧
        isSpace c.toLower = false := by decide
  simp only [normalizeBaselineCommitSha] at h
  split at h
  · rename_i hhex
    obtain rfl := Except.ok.inj h
    have hstrip : strip ((strip sha.toList).map Char.toLower) =
        (strip sha.toList).map Char.toLower := by
      apply strip_of_no_space
      intro c hc
      obtain ⟨d, hd, rfl⟩ := List.mem_map.mp hc
      exact (hchar d (hhex.2 d hd)).2.2
    have hlower : ((strip sha.toList).map Char.toLower).map Char.toLower =
        (strip sha.toList).map Char.toLower := by
      rw [List.map_map]
      apply List.map_congr_left
      intro c hc
      exact (hchar c (hhex.2 c hc)).2.1
    rw [normalizeBaselineCommitSha, String.toList_ofList, hstrip, hlower, if_pos]
    refine ⟨by rw [List.length_map]; exact hhex.1, ?_⟩
    intro c hc
    obtain ⟨d, hd, rfl⟩ := List.mem_map.mp hc
    exact (hchar d (hhex.2 d hd)).1
  · nomatch h

/-- The paths that are added to a copy of the index. -/
def ChangedFileReport.untrackedPaths (report : ChangedFileReport) : List String :=
  (report.files.filter fun file => file.kind = .untracked).map ChangedFile.path

/-- The files of the patch of a report. -/
def knownTo (workspace : GitWorkspace Entry) (report : ChangedFileReport) : Tree Entry :=
  workspace.work.restrict fun path => path ∈ workspace.index || path ∈ report.untrackedPaths

/-- What a report was made of. -/
structure Detected (git : GitDiff Entry) (rules : GuardedIgnoreRules)
    (workspace : GitWorkspace Entry) (tree : Tree Entry) (report : ChangedFileReport)
    (trackedFiles untrackedFiles : List ChangedFile) (ignoredFiles : List String) : Prop where
  raw : parseGitRawDiff ((git.raw tree workspace.tracked).flatMap RawRecord.fields) =
    .ok trackedFiles
  untracked : classifyUntrackedFiles rules workspace.untracked = .ok (untrackedFiles, ignoredFiles)
  files : report.files =
    (trackedFiles ++ untrackedFiles).insertionSort fun f g => f.precedes g = true
  ignoredFiles : report.ignoredFiles = ignoredFiles.insertionSort (· ≤ ·)

/-- What a patch was made of. -/
structure Generated (git : GitDiff Entry) (workspace : GitWorkspace Entry) (tree : Tree Entry)
    (report : ChangedFileReport) (patchDiff : PatchDiff) : Prop where
  commit : git.commitTree patchDiff.baselineCommitSha = .ok tree
  normal : normalizeBaselineCommitSha patchDiff.baselineCommitSha = .ok patchDiff.baselineCommitSha
  isDirectory : workspace.isDirectory = true
  present : ∀ path ∈ report.untrackedPaths, path ∈ workspace.work.paths
  generated : ∃ statsByPath modeByPath,
    parseGitNumstat (git.numstat tree (knownTo workspace report)) = .ok statsByPath ∧
    parseGitPatchModes (git.patch tree (knownTo workspace report)) = .ok modeByPath ∧
    patchDiff = {
      workspacePath := workspace.path
      baselineCommitSha := patchDiff.baselineCommitSha
      patch := Utf8.decode (git.patch tree (knownTo workspace report))
      patchSha256 := BytesDigest.sha256 (git.patch tree (knownTo workspace report))
      patchSizeBytes := (git.patch tree (knownTo workspace report)).length
      files := report.files.map (buildPatchFileDiff statsByPath modeByPath)
      ignoredFiles := report.ignoredFiles }

theorem generatePatchDiff_eq_ok {sha : String} {patchDiff : PatchDiff}
    (h : generatePatchDiff git rules workspace sha = .ok patchDiff) :
    normalizeBaselineCommitSha sha = .ok patchDiff.baselineCommitSha ∧
      ∃ tree report trackedFiles untrackedFiles ignoredFiles,
        Detected git rules workspace tree report trackedFiles untrackedFiles ignoredFiles ∧
        Generated git workspace tree report patchDiff := by
  obtain ⟨report, hdetect, h⟩ := bind_eq_ok.mp h
  have hdetect := mapError_eq_ok.mp hdetect
  simp only [detectChangedFiles, bind_eq_ok, raiseIf_eq_ok] at hdetect
  obtain ⟨baseline, hbaseline, _, hdirectory, tree, htree, trackedFiles, hraw,
    ⟨untrackedFiles, ignoredFiles⟩, huntracked, hreport⟩ := hdetect
  have hreport := Except.ok.inj hreport
  have hcommit : report.baselineCommitSha = baseline := by rw [← hreport]
  have hagain := normalizeBaselineCommitSha_again hbaseline
  simp only [generatePatchDiffFromReport, generateDiffOutputs, bind_eq_ok, raiseIf_eq_ok,
    mapError_eq_ok, hcommit] at h
  obtain ⟨_, _, other, hother, ⟨patchBytes, numstat⟩, ⟨tree', htree', _, hpresent, houtputs⟩,
    statsByPath, hstats, modeByPath, hmodes, hpatch⟩ := h
  obtain rfl := Except.ok.inj (hagain.symm.trans hother)
  obtain rfl := Except.ok.inj (htree.symm.trans htree')
  obtain ⟨hbytes, hnumstat⟩ := Prod.mk.inj (Except.ok.inj houtputs)
  obtain rfl : git.patch tree (knownTo workspace report) = patchBytes := hbytes
  obtain rfl : git.numstat tree (knownTo workspace report) = numstat := hnumstat
  obtain rfl := Except.ok.inj hpatch
  have hdetected : Detected git rules workspace tree report trackedFiles untrackedFiles
      ignoredFiles := ⟨hraw, huntracked, by rw [← hreport], by rw [← hreport]⟩
  refine ⟨hbaseline, tree, report, trackedFiles, untrackedFiles, ignoredFiles, hdetected,
    htree, hagain, by simpa using hdirectory, ?_, statsByPath, modeByPath, hstats, hmodes, rfl⟩
  intro path hpath
  by_contra habsent
  have hany : report.untrackedPaths.any (fun path => decide (path ∉ workspace.work.paths)) =
      true := List.any_eq_true.mpr ⟨path, hpath, decide_eq_true habsent⟩
  rw [ChangedFileReport.untrackedPaths] at hany
  rw [hany] at hpresent
  cases hpresent

omit [UnicodeTables] in
/-- The patch of a report is generated again. -/
theorem Generated.again {tree : Tree Entry} {report : ChangedFileReport} {patchDiff : PatchDiff}
    (h : Generated git workspace tree report patchDiff) (workspace' : GitWorkspace Entry)
    (report' : ChangedFileReport) (hdirectory : workspace'.isDirectory = true)
    (hwork : workspace'.work = workspace.work)
    (hindex : ∀ path ∈ workspace.work.paths, path ∈ workspace'.index ↔ path ∈ workspace.index)
    (hcommit : report'.baselineCommitSha = patchDiff.baselineCommitSha)
    (hfiles : report'.files = report.files) (hignored : report'.ignoredFiles = report.ignoredFiles) :
    generatePatchDiffFromReport git workspace' report' =
      .ok { patchDiff with workspacePath := workspace'.path } := by
  obtain ⟨statsByPath, modeByPath, hstats, hmodes, hpatch⟩ := h.generated
  have hpaths : (report'.files.filter fun file => file.kind = .untracked).map ChangedFile.path =
      report.untrackedPaths := by rw [hfiles, ChangedFileReport.untrackedPaths]
  have hknown : (workspace'.work.restrict fun path =>
      path ∈ workspace'.index || path ∈ report.untrackedPaths) = knownTo workspace report := by
    rw [hwork, knownTo]
    apply Tree.restrict_congr
    intro path hpath
    simp only [hindex path hpath]
  have hpresent : report.untrackedPaths.any (fun path => decide (path ∉ workspace.work.paths)) =
      false := by
    rw [List.any_eq_false]
    intro path hpath
    simpa using h.present path hpath
  have houtputs : generateDiffOutputs git workspace' patchDiff.baselineCommitSha report' = .ok
      (git.patch tree (knownTo workspace report), git.numstat tree (knownTo workspace report)) := by
    refine bind_eq_ok.mpr ⟨tree, h.commit, bind_eq_ok.mpr ⟨(), ?_, ?_⟩⟩
    · rw [hpaths, hwork, hpresent]
      rfl
    · rw [hpaths, hknown]
      rfl
  refine bind_eq_ok.mpr ⟨(), by rw [hdirectory]; rfl, ?_⟩
  refine bind_eq_ok.mpr ⟨_, mapError_eq_ok.mpr (by rw [hcommit]; exact h.normal), ?_⟩
  refine bind_eq_ok.mpr ⟨_, houtputs, bind_eq_ok.mpr ⟨_, hstats, bind_eq_ok.mpr ⟨_, hmodes, ?_⟩⟩⟩
  rw [hpatch, hfiles, hignored]
  rfl

omit [BytesDigest] in
/-- The changes of a report are detected again. -/
theorem Detected.again {tree : Tree Entry} {report : ChangedFileReport} {baseline : String}
    {trackedFiles untrackedFiles : List ChangedFile} {ignoredFiles : List String}
    {workspace' : GitWorkspace Entry}
    (h : Detected git rules workspace tree report trackedFiles untrackedFiles ignoredFiles)
    (hcommit : git.commitTree baseline = .ok tree)
    (hnormal : normalizeBaselineCommitSha baseline = .ok baseline)
    (hdirectory : workspace'.isDirectory = true) (hwork : workspace'.work = workspace.work)
    (hindex : ∀ path ∈ workspace.work.paths, path ∈ workspace'.index ↔ path ∈ workspace.index) :
    detectChangedFiles git rules workspace' baseline =
      .ok ⟨workspace'.path, baseline, report.files, report.ignoredFiles⟩ := by
  have htracked : workspace'.tracked = workspace.tracked := by
    rw [GitWorkspace.tracked, GitWorkspace.tracked, hwork]
    apply Tree.restrict_congr
    intro path hpath
    simp only [hindex path hpath]
  have huntracked : workspace'.untracked = workspace.untracked := by
    rw [GitWorkspace.untracked, GitWorkspace.untracked, hwork]
    congr 1
    apply Tree.restrict_congr
    intro path hpath
    simp only [hindex path hpath]
  rw [h.files, h.ignoredFiles]
  refine bind_eq_ok.mpr ⟨baseline, hnormal, bind_eq_ok.mpr ⟨(), by rw [hdirectory]; rfl, ?_⟩⟩
  refine bind_eq_ok.mpr ⟨tree, hcommit, bind_eq_ok.mpr ⟨trackedFiles, ?_, ?_⟩⟩
  · rw [htracked]
    exact h.raw
  · refine bind_eq_ok.mpr ⟨(untrackedFiles, ignoredFiles), ?_, rfl⟩
    rw [huntracked]
    exact h.untracked

end Generated

/-! ## Applied patches -/

section Applied
variable [UnicodeTables] [BytesDigest] {Entry : Type} {git : GitDiff Entry}
  {rules : GuardedIgnoreRules} {workspace repository : GitWorkspace Entry}

/-- A clean repository at a commit: its index and its working tree have the files of the commit. -/
structure CleanAt (git : GitDiff Entry) (baselineCommitSha : String)
    (repository : GitWorkspace Entry) : Prop where
  isDirectory : repository.isDirectory = true
  commit : git.commitTree baselineCommitSha = .ok repository.work
  index : ∀ path, path ∈ repository.index ↔ path ∈ repository.work.paths

/-- Every untracked path is its own normal form. -/
def NormalNames (workspace : GitWorkspace Entry) : Prop :=
  ∀ path ∈ workspace.untracked, NormalPath path

/-- Of the files of the working tree, the index knows those of the baseline, and no untracked file
is left out as generated noise. -/
structure Unstaged (rules : GuardedIgnoreRules) (workspace repository : GitWorkspace Entry) :
    Prop where
  index : ∀ path ∈ workspace.work.paths, path ∈ workspace.index ↔ path ∈ repository.index
  kept : ∀ path ∈ workspace.untracked, ¬ Ignored rules path

omit [BytesDigest] in
/-- The untracked paths of a report with normal names. -/
theorem Detected.mem_untrackedPaths {tree : Tree Entry} {report : ChangedFileReport}
    {trackedFiles untrackedFiles : List ChangedFile} {ignoredFiles : List String}
    (h : Detected git rules workspace tree report trackedFiles untrackedFiles ignoredFiles)
    (hnormal : NormalNames workspace) {path : String} :
    path ∈ report.untrackedPaths ↔ path ∈ workspace.untracked ∧ ¬ Ignored rules path := by
  have hkinds := parseGitRawDiff_kinds h.raw
  have huntracked := (classifyUntrackedFiles_eq_ok hnormal h.untracked).1
  simp only [ChangedFileReport.untrackedPaths, h.files, List.mem_map, List.mem_filter,
    List.mem_insertionSort, List.mem_append, decide_eq_true_eq]
  constructor
  · rintro ⟨file, ⟨htracked | hmem, hkind⟩, rfl⟩
    · have hrecord := List.mem_map_of_mem (f := ChangedFile.kind) htracked
      rw [hkinds, hkind] at hrecord
      obtain ⟨record, _, hrecord⟩ := List.mem_map.mp hrecord
      cases hchange : record.change <;> simp [hchange, RawChange.kind] at hrecord
    · obtain ⟨path, hpath, hkept, rfl⟩ := (huntracked file).mp hmem
      exact ⟨hpath, hkept⟩
  · rintro ⟨hpath, hkept⟩
    exact ⟨_, ⟨.inr ((huntracked _).mpr ⟨path, hpath, hkept, rfl⟩), rfl⟩, rfl⟩

omit [BytesDigest] in
/-- A workspace whose changes are all unstaged is patched as a whole. -/
theorem knownTo_eq_work {tree : Tree Entry} {report : ChangedFileReport}
    {trackedFiles untrackedFiles : List ChangedFile} {ignoredFiles : List String}
    (h : Detected git rules workspace tree report trackedFiles untrackedFiles ignoredFiles)
    (hnormal : NormalNames workspace) (hkept : ∀ path ∈ workspace.untracked, ¬ Ignored rules path) :
    knownTo workspace report = workspace.work := by
  apply Tree.restrict_eq_self
  intro path hpath
  by_cases hindex : path ∈ workspace.index
  · simp [hindex]
  · have huntracked : path ∈ workspace.untracked := by
      simp [GitWorkspace.untracked, hpath, hindex]
    simp [(h.mem_untrackedPaths hnormal).mpr ⟨huntracked, hkept path huntracked⟩]

omit [UnicodeTables] in
/-- A generated patch applies to the files that it knows. -/
theorem Generated.applied {tree : Tree Entry} {report : ChangedFileReport} {patchDiff : PatchDiff}
    {after : Tree Entry} (h : Generated git workspace tree report patchDiff) (hgit : git.Faithful)
    (hclean : CleanAt git patchDiff.baselineCommitSha repository)
    (happly : (Utf8.encodeEscaped patchDiff.patch).bind (git.apply · repository.work) = some after) :
    tree = repository.work ∧ after = knownTo workspace report := by
  have htree : tree = repository.work := Except.ok.inj (h.commit.symm.trans hclean.commit)
  obtain ⟨_, _, _, _, hpatch⟩ := h.generated
  have hbytes : Utf8.encodeEscaped patchDiff.patch =
      some (git.patch tree (knownTo workspace report)) := by
    rw [hpatch]
    exact Utf8.encodeEscaped_decode _
  rw [hbytes, ← htree] at happly
  exact ⟨htree, hgit.applies _ _ _ happly⟩

/-- Unstaged changes are found again where their patch was applied. -/
theorem verified_of_unstaged {sha : String} {patchDiff : PatchDiff} {after : Tree Entry}
    (hgit : git.Faithful) (hgen : generatePatchDiff git rules workspace sha = .ok patchDiff)
    (hclean : CleanAt git patchDiff.baselineCommitSha repository)
    (happly : (Utf8.encodeEscaped patchDiff.patch).bind (git.apply · repository.work) = some after)
    (hnormal : NormalNames workspace) (hunstaged : Unstaged rules workspace repository) :
    verifyAppliedPatch (generatePatchDiff git rules { repository with work := after }
      patchDiff.baselineCommitSha) patchDiff = .ok () := by
  obtain ⟨_, tree, report, trackedFiles, untrackedFiles, ignoredFiles, hdetected, hgenerated⟩ :=
    generatePatchDiff_eq_ok hgen
  obtain ⟨rfl, rfl⟩ := hgenerated.applied hgit hclean happly
  rw [knownTo_eq_work hdetected hnormal hunstaged.kept]
  have hindex : ∀ path ∈ workspace.work.paths, path ∈ repository.index ↔ path ∈ workspace.index :=
    fun path hpath => (hunstaged.index path hpath).symm
  have hdetect : detectChangedFiles git rules { repository with work := workspace.work }
      patchDiff.baselineCommitSha = .ok ⟨repository.path, patchDiff.baselineCommitSha,
        report.files, report.ignoredFiles⟩ :=
    hdetected.again hgenerated.commit hgenerated.normal hclean.isDirectory rfl hindex
  have hagain : generatePatchDiffFromReport git { repository with work := workspace.work }
      ⟨repository.path, patchDiff.baselineCommitSha, report.files, report.ignoredFiles⟩ =
        .ok { patchDiff with workspacePath := repository.path } :=
    hgenerated.again _ _ hclean.isDirectory rfl hindex rfl rfl rfl
  have hpatch : generatePatchDiff git rules { repository with work := workspace.work }
      patchDiff.baselineCommitSha = .ok { patchDiff with workspacePath := repository.path } :=
    bind_eq_ok.mpr ⟨_, mapError_eq_ok.mpr hdetect, hagain⟩
  rw [hpatch, verifyAppliedPatch]
  refine bind_eq_ok.mpr ⟨_, rfl, ?_⟩
  simp only [raiseIf, ne_eq, not_true_eq_false, decide_false, Bool.false_eq_true, if_false]
  rfl

omit [UnicodeTables] in
/-- The files of a patch are those of its report. -/
theorem Generated.files {tree : Tree Entry} {report : ChangedFileReport}
    {patchDiff : PatchDiff} (h : Generated git workspace tree report patchDiff) :
    (patchDiff.files.map fun file => (file.path, file.kind)) =
      report.files.map (fun file => (file.path, file.kind)) ∧
    patchDiff.ignoredFiles = report.ignoredFiles := by
  obtain ⟨_, _, _, _, hpatch⟩ := h.generated
  rw [hpatch]
  rw [List.map_map]
  exact ⟨rfl, rfl⟩

omit [UnicodeTables] [BytesDigest] in
/-- The untracked paths of a report are read off its paths and kinds. -/
theorem untrackedPaths_congr {report report' : ChangedFileReport}
    (h : (report.files.map fun file => (file.path, file.kind)) =
      report'.files.map fun file => (file.path, file.kind)) :
    report.untrackedPaths = report'.untrackedPaths := by
  have hread : ∀ files : List ChangedFile,
      (files.filter fun file => file.kind = .untracked).map ChangedFile.path =
        ((files.map fun file => (file.path, file.kind)).filter fun file =>
          file.2 = ChangedFileKind.untracked).map Prod.fst := by
    intro files
    rw [List.filter_map, List.map_map]
    rfl
  rw [ChangedFileReport.untrackedPaths, ChangedFileReport.untrackedPaths, hread, hread, h]

omit [UnicodeTables] [BytesDigest] in
/-- Only an addition or a rename creates a path. -/
theorem RawChange.created_iff (change : RawChange) :
    (∃ path, change.created = some path) ↔ change.kind = .added ∨ change.kind = .renamed := by
  cases change <;> simp [RawChange.created, RawChange.kind]

omit [BytesDigest] in
/-- A report names a created file exactly when the index knows one that the baseline lacks. -/
theorem Detected.created_iff {tree : Tree Entry} {report : ChangedFileReport}
    {trackedFiles untrackedFiles : List ChangedFile} {ignoredFiles : List String}
    (h : Detected git rules workspace tree report trackedFiles untrackedFiles ignoredFiles)
    (hgit : git.Faithful) :
    (∃ kind ∈ report.files.map ChangedFile.kind, kind = .added ∨ kind = .renamed) ↔
      ∃ path ∈ workspace.tracked.paths, path ∉ tree.paths := by
  have hkinds := parseGitRawDiff_kinds h.raw
  have hread : (∃ kind ∈ report.files.map ChangedFile.kind, kind = .added ∨ kind = .renamed) ↔
      ∃ kind ∈ trackedFiles.map ChangedFile.kind, kind = .added ∨ kind = .renamed := by
    simp only [h.files, List.mem_map, List.mem_insertionSort, List.mem_append]
    constructor
    · rintro ⟨_, ⟨file, htracked | huntracked, rfl⟩, hkind⟩
      · exact ⟨_, ⟨file, htracked, rfl⟩, hkind⟩
      · rw [classifyUntrackedFiles_kind h.untracked file huntracked] at hkind
        simp at hkind
    · rintro ⟨_, ⟨file, htracked, rfl⟩, hkind⟩
      exact ⟨_, ⟨file, .inl htracked, rfl⟩, hkind⟩
  rw [hread, hkinds]
  constructor
  · rintro ⟨_, hmem, hkind⟩
    obtain ⟨record, hrecord, rfl⟩ := List.mem_map.mp hmem
    obtain ⟨path, hpath⟩ := record.change.created_iff.mpr hkind
    exact ⟨path, (hgit.created tree workspace.tracked path).mp ⟨record, hrecord, hpath⟩⟩
  · rintro ⟨path, hpath⟩
    obtain ⟨record, hrecord, hcreated⟩ := (hgit.created tree workspace.tracked path).mpr hpath
    exact ⟨_, List.mem_map_of_mem hrecord, record.change.created_iff.mp ⟨path, hcreated⟩⟩

/-- A patch that is found again where it was applied had only unstaged changes. -/
theorem unstaged_of_verified {sha : String} {patchDiff : PatchDiff} {after : Tree Entry}
    (hgit : git.Faithful) (hgen : generatePatchDiff git rules workspace sha = .ok patchDiff)
    (hclean : CleanAt git patchDiff.baselineCommitSha repository)
    (happly : (Utf8.encodeEscaped patchDiff.patch).bind (git.apply · repository.work) = some after)
    (hnormal : NormalNames workspace)
    (hverified : verifyAppliedPatch (generatePatchDiff git rules { repository with work := after }
      patchDiff.baselineCommitSha) patchDiff = .ok ()) :
    Unstaged rules workspace repository := by
  obtain ⟨_, tree, report, trackedFiles, untrackedFiles, ignoredFiles, hdetected, hgenerated⟩ :=
    generatePatchDiff_eq_ok hgen
  obtain ⟨rfl, rfl⟩ := hgenerated.applied hgit hclean happly
  obtain ⟨actual, hactual, -, -, hfiles, hignored⟩ := (verified_of_verifyAppliedPatch
    hverified).matches_patch
  obtain ⟨hsha, tree', report', trackedFiles', untrackedFiles', ignoredFiles', hdetected',
    hgenerated'⟩ := generatePatchDiff_eq_ok hactual
  have hcommit := hgenerated'.commit
  rw [← Except.ok.inj (hgenerated.normal.symm.trans hsha), hclean.commit] at hcommit
  obtain rfl := Except.ok.inj hcommit
  have hpaths : (report.files.map fun file => (file.path, file.kind)) =
      report'.files.map fun file => (file.path, file.kind) := by
    rw [← hgenerated.files.1, ← hgenerated'.files.1, hfiles]
  have htracked : ∀ path ∈ workspace.work.paths, path ∈ workspace.index →
      path ∈ repository.index := by
    intro path hpath hindex
    by_contra hnew
    have hkinds : report.files.map ChangedFile.kind = report'.files.map ChangedFile.kind := by
      have hkind := congrArg (List.map Prod.snd) hpaths
      rw [List.map_map, List.map_map] at hkind
      exact hkind
    have hcreated := (hdetected.created_iff hgit).mpr ⟨path, by
      simp [GitWorkspace.tracked, hpath, hindex], fun h => hnew ((hclean.index path).mpr h)⟩
    rw [hkinds] at hcreated
    obtain ⟨other, hother, habsent⟩ := (hdetected'.created_iff hgit).mp hcreated
    simp only [GitWorkspace.tracked, Tree.mem_paths_restrict, decide_eq_true_eq] at hother
    exact habsent ((hclean.index other).mp hother.2)
  -- an untracked file of the repository is one of the workspace
  have huntracked : ∀ path, path ∈ GitWorkspace.untracked
      { repository with work := knownTo workspace report } →
      path ∈ workspace.untracked ∧ path ∈ report.untrackedPaths := by
    intro path hpath
    simp only [GitWorkspace.untracked, knownTo, Tree.mem_paths_restrict, decide_eq_true_eq,
      Bool.or_eq_true] at hpath ⊢
    obtain ⟨⟨hwork, hindex | hadded⟩, hnew⟩ := hpath
    · exact absurd (htracked path hwork hindex) hnew
    · exact ⟨⟨hwork, fun hindex => hnew (htracked path hwork hindex)⟩, hadded⟩
  have hnormal' : NormalNames { repository with work := knownTo workspace report } :=
    fun path hpath => hnormal path (huntracked path hpath).1
  have hkept : ∀ path ∈ workspace.untracked, ¬ Ignored rules path := by
    intro path hpath hnoise
    have hmem : path ∈ report.ignoredFiles := by
      rw [hdetected.ignoredFiles, List.mem_insertionSort]
      exact ((classifyUntrackedFiles_eq_ok hnormal hdetected.untracked).2 path).mpr ⟨hpath, hnoise⟩
    rw [← hgenerated.files.2, ← hignored, hgenerated'.files.2, hdetected'.ignoredFiles,
      List.mem_insertionSort] at hmem
    have hmem' := ((classifyUntrackedFiles_eq_ok hnormal' hdetected'.untracked).2 path).mp hmem
    have hadded := (huntracked path hmem'.1).2
    exact ((hdetected.mem_untrackedPaths hnormal).mp hadded).2 hnoise
  refine ⟨fun path hpath => ⟨htracked path hpath, fun hindex => ?_⟩, hkept⟩
  by_contra hnew
  have hmem : path ∈ workspace.untracked := by simp [GitWorkspace.untracked, hpath, hnew]
  have hadded := (hdetected.mem_untrackedPaths hnormal).mpr ⟨hmem, hkept path hmem⟩
  rw [untrackedPaths_congr hpaths] at hadded
  have hother := ((hdetected'.mem_untrackedPaths hnormal').mp hadded).1
  simp only [GitWorkspace.untracked, Tree.mem_paths_restrict, decide_eq_true_eq] at hother
  exact hother.2 hindex

/-- The verification of a correctly applied patch accepts it when the changes of the workspace are
unstaged; and it accepts no other patch, up to names that are not normal. -/
theorem appliedPatch_verified_iff {sha : String} {patchDiff : PatchDiff} {after : Tree Entry}
    (hgit : git.Faithful) (hgen : generatePatchDiff git rules workspace sha = .ok patchDiff)
    (hclean : CleanAt git patchDiff.baselineCommitSha repository)
    (happly : (Utf8.encodeEscaped patchDiff.patch).bind (git.apply · repository.work) =
      some after) :
    (NormalNames workspace ∧ Unstaged rules workspace repository →
      verifyAppliedPatch (generatePatchDiff git rules { repository with work := after }
        patchDiff.baselineCommitSha) patchDiff = .ok ()) ∧
    (verifyAppliedPatch (generatePatchDiff git rules { repository with work := after }
        patchDiff.baselineCommitSha) patchDiff = .ok () →
      NormalNames workspace → Unstaged rules workspace repository) := by
  constructor
  · rintro ⟨hnormal, hunstaged⟩
    exact verified_of_unstaged hgit hgen hclean happly hnormal hunstaged
  · intro hverified hnormal
    exact unstaged_of_verified hgit hgen hclean happly hnormal hverified

end Applied

/-! ## A new empty guide, staged and unstaged -/

namespace NewGuide
open PyText.Ascii

def patchText : String :=
  "diff --git a/a.md b/a.md\nnew file mode 100644\nindex 0000000000000000000000000000000000000000..e69de29bb2d1d6434b8b29ae775ad8c2e48c5391\n"

def patchBytes : List UInt8 := patchText.toList.map fun c => c.toNat.toUInt8

/-- The digest of the one patch. -/
scoped instance guideDigest : BytesDigest :=
  ⟨fun _ => "1d06c0b6e20d7bd28cfdfd3be83b8e9fbce800c9d0fcda061218664db66409a3"⟩

def emptyCommit : String := "4b825dc642cb6eb9a060e54bf8d69288fbee4904"

def noFiles : Tree String := ⟨[], .nil⟩

def oneGuide : Tree String := ⟨[("a.md", "")], List.pairwise_singleton _ _⟩

def word (text : String) (h : text.toList ≠ [] ∧ ∀ c ∈ text.toList, isSpace c = false) : RawWord :=
  ⟨text.toList, h.1, h.2⟩

def addedRecord (path : String) : RawRecord where
  oldMode := word "000000" (by decide)
  newMode := word "100644" (by decide)
  oldObject := word "0000000" (by decide)
  newObject := word "0000000" (by decide)
  change := .added path

/-- Git on additions to the empty commit. -/
def gitAdditions : GitDiff String where
  commitTree sha := if sha = emptyCommit then .ok noFiles else .error (detectionError "bad object")
  raw tree known := (known.paths.filter (· ∉ tree.paths)).map addedRecord
  patch tree known :=
    if tree.files = noFiles.files ∧ known.files = oneGuide.files then patchBytes else []
  numstat _ known := known.paths.map fun path => "0\t0\t" ++ path
  apply bytes tree :=
    if tree.files = noFiles.files ∧ bytes = patchBytes then some oneGuide else none

theorem gitAdditions_faithful : gitAdditions.Faithful where
  created tree known path := by
    simp only [gitAdditions, List.mem_map, List.mem_filter, decide_eq_true_eq]
    constructor
    · rintro ⟨_, ⟨other, hother, rfl⟩, hcreated⟩
      obtain rfl := Option.some.inj hcreated
      exact hother
    · exact fun hpath => ⟨_, ⟨path, hpath, rfl⟩, rfl⟩
  applies tree known after happly := by
    have hne : ([] : List UInt8) ≠ patchBytes := by decide +kernel
    simp only [gitAdditions] at happly
    by_cases hknown : tree.files = noFiles.files ∧ known.files = oneGuide.files
    · simp only [hknown, and_self, if_true] at happly
      obtain rfl := Option.some.inj happly
      obtain ⟨files, ordered⟩ := known
      simp only at hknown
      simp only [hknown, oneGuide]
    · simp only [hknown, if_false, hne, and_false, reduceCtorEq] at happly

/-- A directory with the guide. -/
def withGuide (path : String) (index : List String) : GitWorkspace String :=
  ⟨path, true, index, oneGuide⟩

def repository : GitWorkspace String := ⟨"/work/repo", true, [], noFiles⟩

def untrackedGuide : ChangedFile := ⟨"a.md", .untracked, none, none, none, false⟩

def stagedGuide : ChangedFile :=
  ⟨"a.md", .added, none, some "000000", some "100644", true⟩

def guideStats : List (String × LineStats) := [("a.md", ⟨some 0, some 0, false⟩)]

def guideModes : List (String × PatchModeMetadata) :=
  [("a.md", ⟨none, some "100644", false⟩)]

def guidePatch (path : String) (file : ChangedFile) : PatchDiff where
  workspacePath := path
  baselineCommitSha := emptyCommit
  patch := Utf8.decode patchBytes
  patchSha256 := guideDigest.sha256 patchBytes
  patchSizeBytes := patchBytes.length
  files := [buildPatchFileDiff guideStats guideModes file]
  ignoredFiles := []

theorem repository_clean (path : String) (file : ChangedFile) :
    CleanAt gitAdditions (guidePatch path file).baselineCommitSha repository where
  isDirectory := rfl
  commit := by
    change gitAdditions.commitTree emptyCommit = .ok noFiles
    simp only [gitAdditions, if_true]
  index path := by simp [repository, noFiles, Tree.paths]

theorem guide_applies (path : String) (file : ChangedFile) :
    (Utf8.encodeEscaped (guidePatch path file).patch).bind
      (gitAdditions.apply · repository.work) = some oneGuide := by
  rw [guidePatch, Utf8.encodeEscaped_decode]
  simp [gitAdditions, repository]

theorem ok_of_toOption {α : Type} {x : Except PyException α} {a : α}
    (h : x.toOption = some a) : x = .ok a := by
  cases x with
  | ok b =>
    obtain rfl := Option.some.inj h
    rfl
  | error exc => nomatch h

/-- The patch of a directory whose one change is the guide. -/
theorem guide_generated {path : String} {index : List String} {file : ChangedFile}
    (hdetect : (detectChangedFiles gitAdditions defaultGuardedIgnoreRules (withGuide path index)
      emptyCommit).toOption = some ⟨path, emptyCommit, [file], []⟩)
    (hknown : (knownTo (withGuide path index) ⟨path, emptyCommit, [file], []⟩).files =
      oneGuide.files)
    (hpath : file.path = "a.md") :
    generatePatchDiff gitAdditions defaultGuardedIgnoreRules (withGuide path index) emptyCommit =
      .ok (guidePatch path file) := by
  have hnormal : normalizeBaselineCommitSha emptyCommit = .ok emptyCommit :=
    ok_of_toOption (by decide)
  have hpaths : (knownTo (withGuide path index) ⟨path, emptyCommit, [file], []⟩).paths =
      ["a.md"] := by
    rw [Tree.paths, hknown]
    rfl
  have houtputs : generateDiffOutputs gitAdditions (withGuide path index) emptyCommit
      ⟨path, emptyCommit, [file], []⟩ = .ok (patchBytes, ["0\t0\ta.md"]) := by
    refine bind_eq_ok.mpr ⟨noFiles, rfl, bind_eq_ok.mpr ⟨(), ?_, ?_⟩⟩
    · by_cases hkind : file.kind = .untracked
      · simp [hkind, hpath, withGuide, oneGuide, Tree.paths]
      · simp [hkind]
    · change Except.ok (gitAdditions.patch noFiles (knownTo (withGuide path index) _),
        gitAdditions.numstat noFiles (knownTo (withGuide path index) _)) = _
      simp only [gitAdditions, hknown, hpaths]
      rfl
  have hstats : parseGitNumstat ["0\t0\ta.md"] = .ok guideStats :=
    ok_of_toOption (by decide)
  have hmodes : parseGitPatchModes patchBytes = .ok guideModes :=
    ok_of_toOption (by decide +kernel)
  refine bind_eq_ok.mpr ⟨_, mapError_eq_ok.mpr (ok_of_toOption hdetect), ?_⟩
  refine bind_eq_ok.mpr ⟨(), rfl, bind_eq_ok.mpr ⟨_, mapError_eq_ok.mpr hnormal, ?_⟩⟩
  exact bind_eq_ok.mpr ⟨_, houtputs, bind_eq_ok.mpr ⟨_, hstats, bind_eq_ok.mpr ⟨_, hmodes, rfl⟩⟩⟩

theorem untracked_generated (path : String)
    (hdetect : (detectChangedFiles gitAdditions defaultGuardedIgnoreRules (withGuide path [])
      emptyCommit).toOption = some ⟨path, emptyCommit, [untrackedGuide], []⟩) :
    generatePatchDiff gitAdditions defaultGuardedIgnoreRules (withGuide path []) emptyCommit =
      .ok (guidePatch path untrackedGuide) :=
  guide_generated hdetect (by simp [knownTo, Tree.restrict, withGuide, oneGuide,
    ChangedFileReport.untrackedPaths, untrackedGuide]) rfl

end NewGuide

open NewGuide PyText.Ascii

/-- An unstaged guide is found again. -/
theorem unstaged_guide_verified :
    verifyAppliedPatch (generatePatchDiff gitAdditions defaultGuardedIgnoreRules
      { repository with work := oneGuide } emptyCommit) (guidePatch "/work/ws" untrackedGuide) =
        .ok () := by
  have hgen : generatePatchDiff gitAdditions defaultGuardedIgnoreRules (withGuide "/work/ws" [])
      emptyCommit = .ok (guidePatch "/work/ws" untrackedGuide) :=
    untracked_generated _ (by decide)
  refine (appliedPatch_verified_iff gitAdditions_faithful hgen (repository_clean _ _)
    (guide_applies _ _)).1 ⟨?_, fun _ _ => Iff.rfl, ?_⟩
  · intro path hpath
    obtain rfl := List.mem_singleton.mp hpath
    exact ok_of_toOption (by decide)
  · rintro path hpath ⟨decision, hdecision, hignored⟩
    obtain rfl := List.mem_singleton.mp hpath
    have hkept : (defaultGuardedIgnoreRules.decideUntrackedPath "a.md").toOption.any
        GuardedIgnoreDecision.ignored = false := by decide
    rw [hdecision] at hkept
    exact Bool.noConfusion (hkept.symm.trans hignored)

/-- A staged guide is applied correctly, and not found again. -/
theorem staged_guide_not_verified :
    generatePatchDiff gitAdditions defaultGuardedIgnoreRules
        (withGuide "/work/ws" ["a.md"]) emptyCommit =
          .ok (guidePatch "/work/ws" stagedGuide) ∧
      CleanAt gitAdditions (guidePatch "/work/ws" stagedGuide).baselineCommitSha repository ∧
      (Utf8.encodeEscaped (guidePatch "/work/ws" stagedGuide).patch).bind
        (gitAdditions.apply · repository.work) = some oneGuide ∧
      verifyAppliedPatch (generatePatchDiff gitAdditions defaultGuardedIgnoreRules
        { repository with work := oneGuide } emptyCommit) (guidePatch "/work/ws" stagedGuide) ≠
          .ok () := by
  refine ⟨?_, repository_clean _ _, guide_applies _ _, ?_⟩
  · refine guide_generated (by decide) ?_ rfl
    simp [knownTo, Tree.restrict, withGuide, oneGuide]
  · intro hok
    have hagain : generatePatchDiff gitAdditions defaultGuardedIgnoreRules
        { repository with work := oneGuide } emptyCommit =
          .ok (guidePatch "/work/repo" untrackedGuide) :=
      untracked_generated "/work/repo" (by decide)
    rw [hagain] at hok
    obtain ⟨actual, hactual, -, -, hfiles, -⟩ := (verified_of_verifyAppliedPatch hok).matches_patch
    obtain rfl := Except.ok.inj hactual
    have hdiffer : (guidePatch "/work/repo" untrackedGuide).files ≠
        (guidePatch "/work/ws" stagedGuide).files := by decide
    exact hdiffer hfiles

end Rygnal.GuardedRun
