import Rygnal.Kernel.PathSafety

/-! # Normal forms of kernel paths

What an accepted path looks like after normalization, and when a second pass accepts it unchanged.
-/

namespace Rygnal.Kernel
open Rygnal.Library.PyText Rygnal.Library.PosixPath

/-! ## Trimming -/

/-- Neither end is white space. -/
structure Trimmed (s : Text) : Prop where
  head : ∀ c, s.head? = some c → isWhitespace c = false
  last : ∀ c, s.getLast? = some c → isWhitespace c = false

theorem dropWhile_eq_self {s : Text} :
    s.dropWhile isWhitespace = s ↔ ∀ c, s.head? = some c → isWhitespace c = false := by
  cases s with
  | nil => simp
  | cons c cs => simp [List.dropWhile_eq_self_iff]

theorem rdropWhile_eq_self {s : Text} :
    s.rdropWhile isWhitespace = s ↔ ∀ c, s.getLast? = some c → isWhitespace c = false := by
  rw [List.rdropWhile_eq_self_iff]
  constructor
  · intro h c hc
    obtain ⟨hne, rfl⟩ := List.mem_getLast?_eq_getLast hc
    simpa using h hne
  · intro h hne
    simpa using h _ (List.getLast?_eq_some_getLast hne)

theorem trim_isInfix (s : Text) : trim s <:+: s :=
  (List.rdropWhile_prefix _ _).isInfix.trans (List.dropWhile_suffix _).isInfix

theorem trim_eq_self {s : Text} : trim s = s ↔ Trimmed s := by
  constructor
  · intro h
    have hsuffix := List.dropWhile_suffix (l := s) isWhitespace
    have hle : s.length ≤ (s.dropWhile isWhitespace).length := by
      have hprefix := List.rdropWhile_prefix isWhitespace (s.dropWhile isWhitespace)
      exact le_of_eq_of_le (congrArg List.length h).symm hprefix.length_le
    have hhead : s.dropWhile isWhitespace = s := hsuffix.eq_of_length_le hle
    have hlast : s.rdropWhile isWhitespace = s := by
      rwa [trim, hhead] at h
    exact ⟨dropWhile_eq_self.mp hhead, rdropWhile_eq_self.mp hlast⟩
  · intro h
    rw [trim, dropWhile_eq_self.mpr h.head, rdropWhile_eq_self.mpr h.last]

/-! ## The segments of a normalized path -/

section Segments
variable {path : Text}

theorem backslash_notMem_trimmedPath (path : Text) : '\\' ∉ trimmedPath path := by
  intro h
  have hmem := (trim_isInfix _).subset h
  simp only [replaceChar, List.mem_map] at hmem
  obtain ⟨c, -, hc⟩ := hmem
  split_ifs at hc with hslash
  · exact absurd hc (by decide)
  · exact hslash hc

theorem mem_of_mem_trimmedPath {c : Char} (h : c ∈ trimmedPath path) : c = '/' ∨ c ∈ path := by
  have hmem := (trim_isInfix _).subset h
  simp only [replaceChar, List.mem_map] at hmem
  obtain ⟨d, hd, rfl⟩ := hmem
  split_ifs
  · exact .inl rfl
  · exact .inr hd

theorem mem_namedSegments {segment : Text} : segment ∈ namedSegments path ↔
    segment ∈ splitOn '/' (trimmedPath path) ∧ segment ≠ [] ∧ segment ≠ ['.'] := by
  simp [namedSegments, parts]

theorem mem_trimmedPath_of_segment {segment : Text} (h : segment ∈ namedSegments path) {c : Char}
    (hc : c ∈ segment) : c ∈ trimmedPath path := by
  rw [← @joinWith_splitOn '/' (trimmedPath path)]
  exact mem_joinWith_of_mem (mem_namedSegments.mp h).1 hc

theorem slash_notMem_segment : ∀ segment ∈ namedSegments path, '/' ∉ segment :=
  fun _ h => sep_notMem_of_mem_splitOn (mem_namedSegments.mp h).1

theorem splitOn_joined (hne : namedSegments path ≠ []) :
    splitOn '/' (joinWith '/' (namedSegments path)) = namedSegments path :=
  splitOn_joinWith hne slash_notMem_segment

theorem mem_joined {c : Char} (h : c ∈ joinWith '/' (namedSegments path)) :
    c = '/' ∨ c ∈ trimmedPath path := by
  rcases mem_of_mem_joinWith h with hsep | ⟨segment, hsegment, hc⟩
  · exact .inl hsep
  · exact .inr (mem_trimmedPath_of_segment hsegment hc)

theorem replaceChar_joined : replaceChar '\\' '/' (joinWith '/' (namedSegments path)) =
    joinWith '/' (namedSegments path) := by
  have hnot : '\\' ∉ joinWith '/' (namedSegments path) := by
    intro h
    rcases mem_joined h with hsep | hmem
    · exact absurd hsep (by decide)
    · exact backslash_notMem_trimmedPath path hmem
  have hid : ∀ c ∈ joinWith '/' (namedSegments path), (if c = '\\' then '/' else c) = id c := by
    intro c hc
    have hne : c ≠ '\\' := by
      rintro rfl
      exact hnot hc
    exact if_neg hne
  exact (List.map_congr_left hid).trans (List.map_id _)

end Segments

/-! ## The ends of a joined path -/

section Ends
variable {sep : Char}

theorem joinWith_eq_append (first : Text) (rest : List Text) :
    ∃ tail, joinWith sep (first :: rest) = first ++ tail ∧ ∀ c, tail.head? = some c → c = sep := by
  cases rest with
  | nil => exact ⟨[], rfl, by simp⟩
  | cons v vs => exact ⟨_, joinWith_cons first v vs, by simp [eq_comm]⟩

theorem getLast?_joinWith {words : List Text} {last : Text} (h : words.getLast? = some last)
    (hne : last ≠ []) : (joinWith sep words).getLast? = last.getLast? := by
  induction words with
  | nil => cases h
  | cons w ws ih =>
    cases ws with
    | nil =>
      obtain rfl : w = last := by simpa using h
      change (w ++ []).getLast? = _
      rw [List.append_nil]
    | cons v vs =>
      rw [List.getLast?_cons_cons] at h
      have hjoined := ih h
      have hlast : (joinWith sep (v :: vs)).getLast? ≠ none := by
        rw [hjoined, ne_eq, List.getLast?_eq_none_iff]
        exact hne
      obtain ⟨c, hc⟩ := Option.ne_none_iff_exists'.mp hlast
      rw [joinWith_cons, ← hjoined, hc, List.getLast?_append, List.getLast?_cons, hc]
      rfl

theorem hasWindowsDrivePrefix_append {s tail : Text} (hs : s ≠ [])
    (htail : ∀ c, tail.head? = some c → c ≠ ':') :
    hasWindowsDrivePrefix (s ++ tail) = hasWindowsDrivePrefix s := by
  match s, tail with
  | c :: d :: rest, _ =>
    rw [List.cons_append, List.cons_append]
    by_cases hd : d = ':'
    · subst hd
      rfl
    · rw [hasWindowsDrivePrefix.eq_2, hasWindowsDrivePrefix.eq_2]
      all_goals simp_all
  | [c], [] => rfl
  | [c], d :: rest =>
    have hd := htail d rfl
    rw [List.singleton_append, hasWindowsDrivePrefix.eq_2, hasWindowsDrivePrefix.eq_2]
    all_goals simp_all

end Ends

/-! ## Second passes -/

/-- The first segment is no drive, and neither end is white space. -/
structure PlainEnds (segments : List Text) : Prop where
  noDrive : ∀ first, segments.head? = some first → hasWindowsDrivePrefix first = false
  head : ∀ first, segments.head? = some first → ∀ c, first.head? = some c →
    isWhitespace c = false
  last : ∀ last, segments.getLast? = some last → ∀ c, last.getLast? = some c →
    isWhitespace c = false

/-- A path in normal form, which a second check accepts unchanged. -/
structure NormalForm (path : Text) : Prop where
  noNul : '\x00' ∉ path
  segments : ∀ segment ∈ splitOn '/' path,
    segment ≠ [] ∧ segment ≠ ['.'] ∧ segment ≠ ['.', '.']
  relative : isAbsolute path = false
  noDrive : hasWindowsDrivePrefix path = false
  fixed : checkRepoRelativePath path = ⟨true, some path, none, none, false⟩

theorem checkRepoRelativePath_eq_ok {path normalized : Text} :
    checkRepoRelativePath path = ⟨true, some normalized, none, none, false⟩ ↔
      normalizeRepoRelativePath path = .ok normalized := by
  rw [checkRepoRelativePath]
  cases normalizeRepoRelativePath path <;> simp [unsafeOutcome]

/-- A second pass that keeps the text has trimmed nothing. -/
theorem trimmedPath_eq_of_fixed {path : Text} (hreplace : replaceChar '\\' '/' path = path)
    (h : path = joinWith '/' (namedSegments path)) : trim path = path := by
  have hlength : path.length ≤ (trim path).length := by
    calc path.length = (joinWith '/' (namedSegments path)).length := congrArg List.length h
      _ ≤ (joinWith '/' (splitOn '/' (trimmedPath path))).length :=
        (joinWith_filter_sublist _ _).length_le
      _ = (trim path).length := by rw [joinWith_splitOn, trimmedPath, hreplace]
  exact (trim_isInfix path).eq_of_length_le hlength

variable {path normalized : Text}

theorem plainEnds_iff (hne : namedSegments path ≠ []) : PlainEnds (namedSegments path) ↔
    hasWindowsDrivePrefix (joinWith '/' (namedSegments path)) = false ∧
      Trimmed (joinWith '/' (namedSegments path)) := by
  have hnonempty : ∀ segment ∈ namedSegments path, segment ≠ [] :=
    fun segment h => (mem_namedSegments.mp h).2.1
  have hslash := @slash_notMem_segment path
  obtain ⟨first, rest, hsegments⟩ := List.exists_cons_of_ne_nil hne
  have ⟨last, hlast⟩ : ∃ last, (namedSegments path).getLast? = some last :=
    ⟨_, List.getLast?_eq_some_getLast hne⟩
  rw [hsegments] at hnonempty hslash hlast ⊢
  have hfirst : first ≠ [] := hnonempty first List.mem_cons_self
  obtain ⟨tail, hjoined, htail⟩ := @joinWith_eq_append '/' first rest
  have hdrive : hasWindowsDrivePrefix (joinWith '/' (first :: rest)) =
      hasWindowsDrivePrefix first := by
    rw [hjoined, hasWindowsDrivePrefix_append hfirst]
    intro c hc
    rw [htail c hc]
    decide
  have hhead : (joinWith '/' (first :: rest)).head? = first.head? := by
    rw [hjoined, List.head?_append_of_ne_nil _ hfirst]
  have hend := @getLast?_joinWith '/' _ last hlast
    (hnonempty last (List.mem_of_mem_getLast? hlast))
  rw [hdrive]
  constructor
  · intro h
    refine ⟨h.noDrive first rfl, ?_, ?_⟩
    · rw [hhead]
      exact h.head first rfl
    · rw [hend]
      exact h.last last hlast
  · rintro ⟨hnone, hends⟩
    constructor
    · rintro _ ⟨⟩
      exact hnone
    · rintro _ ⟨⟩
      rw [← hhead]
      exact hends.head
    · intro other hother
      obtain rfl : last = other := Option.some.inj (hlast.symm.trans hother)
      rw [← hend]
      exact hends.last

/-- An accepted path is normalized to a normal form exactly when its first named segment is no
drive and does not begin, and its last one does not end, with white space. -/
theorem normalForm_iff
    (h : checkRepoRelativePath path = ⟨true, some normalized, none, none, false⟩) :
    NormalForm normalized ↔ PlainEnds (namedSegments path) := by
  rw [checkRepoRelativePath_eq_ok, normalizeRepoRelativePath_eq_ok] at h
  obtain ⟨hnul, -, -, hdots, hne, rfl⟩ := h
  have hsplit := splitOn_joined hne
  rw [plainEnds_iff hne]
  constructor
  · intro hnormal
    have hfixed := hnormal.fixed
    rw [checkRepoRelativePath_eq_ok, normalizeRepoRelativePath_eq_ok] at hfixed
    have htrim := trimmedPath_eq_of_fixed replaceChar_joined hfixed.2.2.2.2.2
    exact ⟨hnormal.noDrive, trim_eq_self.mp htrim⟩
  · rintro ⟨hdrive, htrimmed⟩
    have hnamed : ∀ segment ∈ namedSegments path,
        segment ≠ [] ∧ segment ≠ ['.'] ∧ segment ≠ ['.', '.'] := by
      intro segment hsegment
      have ⟨hmem, hkept⟩ := mem_namedSegments.mp hsegment
      exact ⟨hkept.1, hkept.2, fun hparent => hdots (hparent ▸ hmem)⟩
    have hnoNul : '\x00' ∉ joinWith '/' (namedSegments path) := by
      intro hmem
      rcases mem_joined hmem with hsep | htrim
      · exact absurd hsep (by decide)
      · rcases mem_of_mem_trimmedPath htrim with hsep | hpath
        · exact absurd hsep (by decide)
        · exact hnul hpath
    have htext : trimmedPath (joinWith '/' (namedSegments path)) =
        joinWith '/' (namedSegments path) := by
      rw [trimmedPath, replaceChar_joined, trim_eq_self.mpr htrimmed]
    have hsegments : namedSegments (joinWith '/' (namedSegments path)) = namedSegments path := by
      have hall : ∀ segment ∈ namedSegments path, decide (segment ≠ [] ∧ segment ≠ ['.']) = true :=
        fun segment hsegment =>
          decide_eq_true ⟨(hnamed segment hsegment).1, (hnamed segment hsegment).2.1⟩
      rw [namedSegments, parts, htext, hsplit, List.filter_eq_self.mpr hall]
    have hrelative : isAbsolute (joinWith '/' (namedSegments path)) = false := by
      obtain ⟨first, rest, hcons⟩ := List.exists_cons_of_ne_nil hne
      obtain ⟨tail, hjoined, -⟩ := @joinWith_eq_append '/' first rest
      have hmem : first ∈ namedSegments path := hcons ▸ List.mem_cons_self
      have hslash := slash_notMem_segment first hmem
      have hfirst := (hnamed first hmem).1
      rw [hcons, hjoined, isAbsolute, List.head?_append_of_ne_nil _ hfirst, decide_eq_false_iff_not]
      intro hhead
      exact hslash (List.mem_of_mem_head? hhead)
    refine ⟨hnoNul, ?_, hrelative, hdrive, ?_⟩
    · rw [hsplit]
      exact hnamed
    · rw [checkRepoRelativePath_eq_ok, normalizeRepoRelativePath_eq_ok, htext, hsplit, hsegments]
      exact ⟨hnoNul, hrelative, hdrive, fun hmem => (hnamed _ hmem).2.2 rfl, hne, rfl⟩

theorem docs_normalForm : NormalForm "docs/usage.md".toList := by
  have hnamed : namedSegments "./docs//usage.md".toList = ["docs".toList, "usage.md".toList] := by
    decide
  apply (@normalForm_iff "./docs//usage.md".toList _ (by decide)).mpr
  rw [hnamed]
  constructor
  · rintro first ⟨⟩
    decide
  · rintro first ⟨⟩ c ⟨⟩
    decide
  · rintro last ⟨⟩ c ⟨⟩
    decide

/-- A drive after a dropped segment is accepted, and so is white space after one; the second
check refuses the drive and reads another name. -/
theorem hidden_drive_accepted :
    (checkRepoRelativePath "./C:/x".toList).normalizedPath = some "C:/x".toList ∧
      (checkRepoRelativePath "C:/x".toList).errorCode = some "windows-rooted-path" ∧
      (checkRepoRelativePath "./ a".toList).normalizedPath = some " a".toList ∧
      (checkRepoRelativePath " a".toList).normalizedPath = some "a".toList := by
  decide

/-- The classification of a normal form is the classification of the path. -/
theorem classifyPathSensitivity_normalized (h : normalizeRepoRelativePath path = .ok normalized)
    (hnormal : NormalForm normalized) :
    classifyPathSensitivity normalized = classifyPathSensitivity path := by
  have hfixed := checkRepoRelativePath_eq_ok.mp hnormal.fixed
  rw [classifyPathSensitivity, classifyPathSensitivity, h, hfixed]

end Rygnal.Kernel
