import Rygnal.Kernel.NormalForm
import Mathlib.Data.Multiset.Basic
import Mathlib.Data.Multiset.UnionInter
import Mathlib.Algebra.Order.Field.Basic
import Mathlib.Algebra.Order.Field.Rat

/-! # Survival of text lines

The text fallbacks of the two risk models: how many lines of the old text survive in the new one,
by membership, by a map of counts, and by comparing the whole texts when these are too long.
-/

namespace Rygnal.Kernel
open Rygnal.Library.PyText Rygnal.Library.PosixPath

/-! ## Lines -/

/-- `strip_suffix('\r')` of a terminated line. -/
def stripReturn (line : Text) : Text :=
  if line.getLast? = some '\r' then line.dropLast else line

/-- `str::lines`. -/
def lines (code : Text) : List Text :=
  let pieces := splitOn '\n' code
  pieces.dropLast.map stripReturn ++ pieces.getLast?.toList.filter (· ≠ [])

def normalizedNonEmptyLines (code : Text) : List Text :=
  ((lines code).map trim).filter (· ≠ [])

/-! ## Metrics -/

/-- The ratio is a quotient of two counts; its rounding to `f64` is left out. -/
structure SemanticMetrics where
  oldNodeCount : ℕ
  newNodeCount : ℕ
  oldTokenCount : ℕ
  newTokenCount : ℕ
  matchedNodeCount : ℕ
  survivalRatio : ℚ
deriving DecidableEq

def clampUnit (value : ℚ) : ℚ := max 0 (min value 1)

/-- The metrics of two counts and the number of matched lines. -/
def textMetrics (oldCount newCount matched : ℕ) : SemanticMetrics where
  oldNodeCount := 0
  newNodeCount := 0
  oldTokenCount := oldCount
  newTokenCount := newCount
  matchedNodeCount := matched
  survivalRatio := clampUnit (if oldCount = 0 then 1 else (matched : ℚ) / oldCount)

namespace Subjective

/-- `text_survival_metrics` of the subjective risk. -/
def textSurvivalMetrics (oldCode newCode : Text) : SemanticMetrics :=
  let oldLines := normalizedNonEmptyLines oldCode
  let newLines := normalizedNonEmptyLines newCode
  textMetrics oldLines.length newLines.length (oldLines.filter (· ∈ newLines)).length

end Subjective

namespace Criticality

def maxTextFallbackLines : ℕ := 20000

def maxTextFallbackLineBytes : ℕ := 1000

/-- The first loop of `count_multiset_intersection`: a missing key has the count 0. -/
def countLines (newLines : List Text) : Text → ℕ :=
  newLines.foldl (fun counts line => Function.update counts line (counts line + 1)) fun _ => 0

/-- The second loop: a line with a count left is counted and uses one of it. -/
def takeMatches (counts : Text → ℕ) : List Text → ℕ
  | [] => 0
  | line :: rest =>
    if counts line = 0 then takeMatches counts rest
    else takeMatches (Function.update counts line (counts line - 1)) rest + 1

def countMultisetIntersection (oldLines newLines : List Text) : ℕ :=
  takeMatches (countLines newLines) oldLines

/-- `text_survival_metrics` past its test of the sizes. -/
def exactTextSurvivalMetrics (oldCode newCode : Text) : SemanticMetrics :=
  let oldLines := normalizedNonEmptyLines oldCode
  let newLines := normalizedNonEmptyLines newCode
  textMetrics oldLines.length newLines.length (countMultisetIntersection oldLines newLines)

def hasOversizedTrimmedLine (code : Text) : Bool :=
  ((lines code).map trim).any fun line =>
    maxTextFallbackLineBytes < (line.flatMap String.utf8EncodeChar).length

def boundedNonEmptyLineCount (code : Text) : ℕ :=
  ((normalizedNonEmptyLines code).take (maxTextFallbackLines + 1)).length

def shouldUseBoundedTextFallback (oldCode newCode : Text) : Bool :=
  hasOversizedTrimmedLine oldCode || hasOversizedTrimmedLine newCode ||
    maxTextFallbackLines < boundedNonEmptyLineCount oldCode ||
    maxTextFallbackLines < boundedNonEmptyLineCount newCode

def boundedTextSurvivalMetrics (oldCode newCode : Text) : SemanticMetrics :=
  let oldCount := boundedNonEmptyLineCount oldCode
  let newCount := boundedNonEmptyLineCount newCode
  let matched := if oldCount = 0 then 0
    else if trim oldCode = trim newCode then min oldCount newCount
    else 0
  textMetrics oldCount newCount matched

/-- `text_survival_metrics` of the criticality. -/
def textSurvivalMetrics (oldCode newCode : Text) : SemanticMetrics :=
  if shouldUseBoundedTextFallback oldCode newCode then boundedTextSurvivalMetrics oldCode newCode
  else exactTextSurvivalMetrics oldCode newCode

end Criticality

/-! ## Trimmed lines -/

/-- Nothing but white space. -/
def Blank (s : Text) : Prop := ∀ c ∈ s, isWhitespace c = true

theorem trim_blank_append {w : Text} (h : Blank w) (s : Text) : trim (w ++ s) = trim s := by
  rw [trim, List.dropWhile_append_of_pos h, trim]

theorem trim_append_blank {w : Text} (h : Blank w) (s : Text) : trim (s ++ w) = trim s := by
  rw [trim, trim, List.dropWhile_append]
  split
  · rename_i hs
    rw [List.isEmpty_iff.mp hs, List.dropWhile_eq_nil_iff.mpr h]
  · rw [List.rdropWhile, List.rdropWhile, List.reverse_append,
      List.dropWhile_append_of_pos fun c hc => h c (List.mem_reverse.mp hc)]

theorem trim_eq_nil {s : Text} (h : Blank s) : trim s = [] := by
  have htrim := trim_append_blank h []
  rwa [List.nil_append] at htrim

/-- A text is its trimmed part between two blank ones. -/
theorem exists_blank_trim (s : Text) : ∃ v w, Blank v ∧ Blank w ∧ v ++ (trim s ++ w) = s := by
  refine ⟨s.takeWhile isWhitespace, (s.dropWhile isWhitespace).rtakeWhile isWhitespace,
    fun c hc => List.mem_takeWhile_imp hc, fun c hc => List.mem_rtakeWhile_imp hc, ?_⟩
  rw [trim, List.rdropWhile_append_rtakeWhile, List.takeWhile_append_dropWhile]

theorem trim_trim (s : Text) : trim (trim s) = trim s := by
  obtain ⟨v, w, hv, hw, hs⟩ := exists_blank_trim s
  conv_rhs => rw [← hs, trim_blank_append hv, trim_append_blank hw]

theorem trim_stripReturn (line : Text) : trim (stripReturn line) = trim line := by
  rw [stripReturn]
  split
  · rename_i hlast
    have hline := List.dropLast_append_getLast? _ hlast
    have htrim := trim_append_blank (w := ['\r']) (by simp [Blank, isWhitespace]) line.dropLast
    rw [hline] at htrim
    exact htrim.symm
  · rfl

/-- The trimmed pieces that are not empty. -/
def named (pieces : List Text) : List Text := (pieces.map trim).filter (· ≠ [])

theorem named_append (a b : List Text) : named (a ++ b) = named a ++ named b := by
  rw [named, List.map_append, List.filter_append, named, named]

theorem named_cons (a : Text) (b : List Text) : named (a :: b) = named [a] ++ named b :=
  named_append [a] b

theorem named_singleton {a b : Text} (h : trim a = trim b) : named [a] = named [b] := by
  rw [named, named, List.map_singleton, List.map_singleton, h]

theorem named_eq_nil {pieces : List Text} (h : ∀ piece ∈ pieces, Blank piece) :
    named pieces = [] := by
  rw [named, List.filter_eq_nil_iff]
  intro line hline
  obtain ⟨piece, hpiece, rfl⟩ := List.mem_map.mp hline
  simp [trim_eq_nil (h piece hpiece)]

/-- Neither the last piece nor the carriage returns make a difference to the lines. -/
theorem normalizedNonEmptyLines_eq (code : Text) :
    normalizedNonEmptyLines code = named (splitOn '\n' code) := by
  have hlast : (splitOn '\n' code).dropLast ++ (splitOn '\n' code).getLast?.toList =
      splitOn '\n' code := by
    rw [List.getLast?_eq_some_getLast (splitOn_ne_nil code), Option.toList_some,
      List.dropLast_append_getLast]
  conv_rhs => rw [← hlast]
  change named (lines code) = _
  rw [lines, named_append, named_append]
  congr 1
  · rw [named, named, List.map_map]
    exact congrArg (List.filter _) (List.map_congr_left fun line _ => trim_stripReturn line)
  · cases (splitOn '\n' code).getLast? with
    | none => rfl
    | some line =>
      cases line with
      | nil => rfl
      | cons c cs => rfl

theorem mem_of_mem_splitOn {s piece : Text} (h : piece ∈ splitOn '\n' s) {c : Char} (hc : c ∈ piece) :
    c ∈ s := by
  rw [← @joinWith_splitOn '\n' s]
  exact mem_joinWith_of_mem h hc

/-- White space before a text begins its first piece or stands in pieces of its own. -/
theorem named_blank_append {w : Text} (h : Blank w) (s : Text) :
    named (splitOn '\n' (w ++ s)) = named (splitOn '\n' s) := by
  induction w with
  | nil => rfl
  | cons c w ih =>
    rw [Blank, List.forall_mem_cons] at h
    rw [← ih h.2, List.cons_append]
    by_cases hc : c = '\n'
    · subst hc
      rw [splitOn_sep, named_cons, named_eq_nil (by simp [Blank]), List.nil_append]
    · obtain ⟨u, us, hsplit⟩ := List.exists_cons_of_ne_nil (splitOn_ne_nil (w ++ s))
      have htrim : trim (c :: u) = trim u := trim_blank_append (w := [c]) (by simpa [Blank] using h.1) u
      rw [splitOn_cons hc hsplit, hsplit, named_cons, named_cons u, named_singleton htrim]

/-- White space after a text goes on with its last piece. -/
theorem splitOn_append_blank {w : Text} (h : Blank w) (s : Text) :
    ∃ v vs end' us, splitOn '\n' s = v :: vs ∧ splitOn '\n' (s ++ w) = (v ++ end') :: us ∧
      Blank end' ∧ named us = named vs := by
  induction s with
  | nil =>
    obtain ⟨u, us, hsplit⟩ := List.exists_cons_of_ne_nil (splitOn_ne_nil w)
    have hblank : ∀ piece ∈ u :: us, Blank piece := by
      intro piece hpiece c hc
      rw [← hsplit] at hpiece
      exact h c (mem_of_mem_splitOn hpiece hc)
    rw [List.forall_mem_cons] at hblank
    exact ⟨[], [], u, us, rfl, hsplit, hblank.1, named_eq_nil hblank.2⟩
  | cons c s ih =>
    obtain ⟨v, vs, end', us, hs, hsw, hblank, hnamed⟩ := ih
    by_cases hc : c = '\n'
    · subst hc
      refine ⟨[], v :: vs, [], (v ++ end') :: us, ?_, ?_, by simp [Blank], ?_⟩
      · rw [splitOn_sep, hs]
      · rw [List.cons_append, splitOn_sep, hsw]
        rfl
      · rw [named_cons, named_cons v, hnamed, named_singleton (trim_append_blank hblank v)]
    · exact ⟨c :: v, vs, end', us, splitOn_cons hc hs, splitOn_cons hc hsw, hblank, hnamed⟩

theorem named_append_blank {w : Text} (h : Blank w) (s : Text) :
    named (splitOn '\n' (s ++ w)) = named (splitOn '\n' s) := by
  obtain ⟨v, vs, end', us, hs, hsw, hblank, hnamed⟩ := splitOn_append_blank h s
  rw [hs, hsw, named_cons, named_cons v, hnamed, named_singleton (trim_append_blank hblank v)]

/-- The lines do not depend on the white space around the text. -/
theorem normalizedNonEmptyLines_trim (code : Text) :
    normalizedNonEmptyLines (trim code) = normalizedNonEmptyLines code := by
  obtain ⟨v, w, hv, hw, hcode⟩ := exists_blank_trim code
  rw [normalizedNonEmptyLines_eq, normalizedNonEmptyLines_eq]
  conv_rhs => rw [← hcode, named_blank_append hv, named_append_blank hw]

/-- Any list of trimmed lines is the lines of a text. -/
theorem normalizedNonEmptyLines_join {words : List Text}
    (h : ∀ word ∈ words, '\n' ∉ word ∧ trim word = word ∧ word ≠ []) :
    normalizedNonEmptyLines (joinWith '\n' words) = words := by
  rw [normalizedNonEmptyLines_eq]
  rcases eq_or_ne words [] with rfl | hne
  · rfl
  · rw [splitOn_joinWith hne fun word hword => (h word hword).1, named,
      List.map_congr_left fun word hword => (h word hword).2.1, List.map_id',
      List.filter_eq_self]
    intro word hword
    exact decide_eq_true (h word hword).2.2

theorem mem_normalizedNonEmptyLines {line code : Text} (h : line ∈ normalizedNonEmptyLines code) :
    '\n' ∉ line ∧ trim line = line ∧ line ≠ [] := by
  rw [normalizedNonEmptyLines_eq, named, List.mem_filter, List.mem_map, decide_eq_true_eq] at h
  obtain ⟨⟨piece, hpiece, rfl⟩, hne⟩ := h
  refine ⟨?_, trim_trim piece, hne⟩
  intro hmem
  exact sep_notMem_of_mem_splitOn hpiece ((trim_isInfix piece).subset hmem)

/-! ## Counting -/

namespace Criticality

theorem countLines_eq (newLines : List Text) : countLines newLines = fun line =>
    (newLines : Multiset Text).count line := by
  have hfold : ∀ counts : Text → ℕ, newLines.foldl
      (fun counts line => Function.update counts line (counts line + 1)) counts =
        fun line => counts line + (newLines : Multiset Text).count line := by
    induction newLines with
    | nil => simp
    | cons first newLines ih =>
      intro counts
      rw [List.foldl_cons, ih]
      funext line
      rw [← Multiset.cons_coe]
      by_cases hline : line = first
      · subst hline
        rw [Function.update_self, Multiset.count_cons_self]
        omega
      · rw [Function.update_of_ne hline, Multiset.count_cons_of_ne hline]
  rw [countLines, hfold]
  simp

/-- What the second loop counts with the counts of a multiset. -/
theorem takeMatches_count (oldLines : List Text) (left : Multiset Text) :
    takeMatches (fun line => left.count line) oldLines = ((oldLines : Multiset Text) ∩ left).card := by
  induction oldLines generalizing left with
  | nil => simp [takeMatches]
  | cons line rest ih =>
    rw [takeMatches, ← Multiset.cons_coe]
    by_cases hline : line ∈ left
    · have hcounts : Function.update (fun other => left.count other) line (left.count line - 1) =
          fun other => (left.erase line).count other := by
        funext other
        by_cases hother : other = line
        · subst hother
          rw [Function.update_self, Multiset.count_erase_self]
        · rw [Function.update_of_ne hother, Multiset.count_erase_of_ne hother]
      rw [if_neg (Multiset.count_pos.mpr hline).ne', hcounts, ih,
        Multiset.cons_inter_of_pos _ hline, Multiset.card_cons]
    · rw [if_pos (Multiset.count_eq_zero.mpr hline), ih, Multiset.cons_inter_of_neg _ hline]

/-- The two loops count the multiset intersection. -/
theorem countMultisetIntersection_eq (oldLines newLines : List Text) :
    countMultisetIntersection oldLines newLines =
      ((oldLines : Multiset Text) ∩ (newLines : Multiset Text)).card := by
  rw [countMultisetIntersection, countLines_eq, takeMatches_count]

end Criticality

section Counting
variable {α : Type*} [DecidableEq α] {old new : Multiset α}

/-- The lines found by membership are as many as the common ones when no line that the new text
has is repeated more often in the old one. -/
theorem card_filter_mem_eq_iff :
    (old.filter (· ∈ new)).card = (old ∩ new).card ↔
      ∀ line ∈ new, old.count line ≤ new.count line := by
  have hle : old ∩ new ≤ old.filter (· ∈ new) := by
    rw [Multiset.le_iff_count]
    intro line
    rw [Multiset.count_inter, Multiset.count_filter]
    split_ifs with hline
    · exact min_le_left _ _
    · rw [Multiset.count_eq_zero_of_notMem hline, Nat.min_zero]
  constructor
  · intro h line hline
    have heq := congrArg (Multiset.count line) (Multiset.eq_of_le_of_card_le hle h.le)
    rw [Multiset.count_inter, Multiset.count_filter, if_pos hline] at heq
    exact min_eq_left_iff.mp heq
  · intro h
    congr 1
    ext line
    rw [Multiset.count_inter, Multiset.count_filter]
    split_ifs with hline
    · exact (min_eq_left (h line hline)).symm
    · rw [Multiset.count_eq_zero_of_notMem hline, Nat.min_zero]

/-- Taking one of the common copies of a line away leaves one common line less. -/
theorem card_inter_erase {line : α} (hmem : line ∈ new) (hle : new.count line ≤ old.count line) :
    (old ∩ new.erase line).card + 1 = (old ∩ new).card := by
  have hcommon : line ∈ old ∩ new := by
    have hpos := Multiset.count_pos.mpr hmem
    rw [Multiset.mem_inter]
    exact ⟨Multiset.count_pos.mp (by omega), hmem⟩
  have herase : old ∩ new.erase line = (old ∩ new).erase line := by
    ext other
    by_cases hother : other = line
    · subst hother
      simp only [Multiset.count_inter, Multiset.count_erase_self]
      omega
    · simp only [Multiset.count_inter, Multiset.count_erase_of_ne hother]
  rw [herase, Multiset.card_erase_add_one hcommon]

end Counting

/-! ## The metrics of two texts -/

/-- The lines of a text, in any order. -/
abbrev lineBag (code : Text) : Multiset Text := (normalizedNonEmptyLines code : List Text)

section Ratios
variable {oldCount newCount matched : ℕ}

theorem survivalRatio_eq (h : matched ≤ oldCount) :
    (textMetrics oldCount newCount matched).survivalRatio =
      if oldCount = 0 then 1 else (matched : ℚ) / oldCount := by
  rw [textMetrics, clampUnit]
  split_ifs with hzero
  · simp
  · have hpos : (0 : ℚ) < oldCount := Nat.cast_pos.mpr (Nat.pos_of_ne_zero hzero)
    have hle : (matched : ℚ) / oldCount ≤ 1 := (div_le_one hpos).mpr (Nat.cast_le.mpr h)
    rw [min_eq_left hle, max_eq_right (div_nonneg (Nat.cast_nonneg _) hpos.le)]

theorem survivalRatio_nonneg : 0 ≤ (textMetrics oldCount newCount matched).survivalRatio :=
  le_max_left _ _

theorem survivalRatio_lt {newCount' matched' : ℕ} (hlt : matched' < matched)
    (hle : matched ≤ oldCount) :
    (textMetrics oldCount newCount' matched').survivalRatio <
      (textMetrics oldCount newCount matched).survivalRatio := by
  have hne : oldCount ≠ 0 := by omega
  have hpos : (0 : ℚ) < oldCount := Nat.cast_pos.mpr (Nat.pos_of_ne_zero hne)
  rw [survivalRatio_eq hle, survivalRatio_eq (hlt.le.trans hle), if_neg hne, if_neg hne,
    div_lt_div_iff_of_pos_right hpos]
  exact Nat.cast_lt.mpr hlt

end Ratios

section Texts
variable {oldCode newCode : Text}

theorem subjective_eq : Subjective.textSurvivalMetrics oldCode newCode =
    textMetrics (lineBag oldCode).card (lineBag newCode).card
      ((lineBag oldCode).filter (· ∈ lineBag newCode)).card := by
  rw [Subjective.textSurvivalMetrics, Multiset.filter_coe]
  simp only [Multiset.coe_card, Multiset.mem_coe]

theorem exact_eq : Criticality.exactTextSurvivalMetrics oldCode newCode =
    textMetrics (lineBag oldCode).card (lineBag newCode).card
      (lineBag oldCode ∩ lineBag newCode).card := by
  rw [Criticality.exactTextSurvivalMetrics, Criticality.countMultisetIntersection_eq]
  rfl

theorem exact_of_eq (h : lineBag oldCode = lineBag newCode) :
    (Criticality.exactTextSurvivalMetrics oldCode newCode).survivalRatio = 1 := by
  have hself : lineBag oldCode ∩ lineBag oldCode = lineBag oldCode := by
    ext line
    rw [Multiset.count_inter, min_self]
  rw [exact_eq, ← h, hself, survivalRatio_eq le_rfl]
  split_ifs with hzero
  · rfl
  · exact div_self (Nat.cast_ne_zero.mpr hzero)

/-- The fallback reports full survival for equal texts and none for others. -/
theorem bounded_le_exact :
    (Criticality.boundedTextSurvivalMetrics oldCode newCode).survivalRatio ≤
      (Criticality.exactTextSurvivalMetrics oldCode newCode).survivalRatio := by
  rw [Criticality.boundedTextSurvivalMetrics]
  by_cases hzero : Criticality.boundedNonEmptyLineCount oldCode = 0
  · have hempty : (lineBag oldCode).card = 0 := by
      rw [Criticality.boundedNonEmptyLineCount, List.length_take] at hzero
      rw [Multiset.coe_card]
      omega
    rw [if_pos hzero, exact_eq, survivalRatio_eq (Nat.zero_le _), if_pos hzero, hempty,
      survivalRatio_eq (hempty ▸ Multiset.card_le_card Multiset.inter_le_left), if_pos rfl]
  · rw [if_neg hzero]
    split_ifs with htrim
    · have hlines : lineBag oldCode = lineBag newCode := by
        rw [lineBag, ← normalizedNonEmptyLines_trim, htrim, normalizedNonEmptyLines_trim]
      rw [exact_of_eq hlines]
      exact max_le (by decide) (min_le_right _ _)
    · rw [survivalRatio_eq (Nat.zero_le _), if_neg hzero, Nat.cast_zero, zero_div, exact_eq]
      exact survivalRatio_nonneg

/-- What the survival metrics of two texts promise. -/
structure SurvivalAgrees (oldCode newCode : Text) : Prop where
  same : Subjective.textSurvivalMetrics oldCode newCode =
    Criticality.exactTextSurvivalMetrics oldCode newCode
  matched : (Subjective.textSurvivalMetrics oldCode newCode).matchedNodeCount =
    (lineBag oldCode ∩ lineBag newCode).card
  oldBound : (Subjective.textSurvivalMetrics oldCode newCode).matchedNodeCount ≤
    (Subjective.textSurvivalMetrics oldCode newCode).oldTokenCount
  newBound : (Subjective.textSurvivalMetrics oldCode newCode).matchedNodeCount ≤
    (Subjective.textSurvivalMetrics oldCode newCode).newTokenCount
  removal : ∀ line newCode', 2 ≤ (lineBag newCode).count line →
    (lineBag newCode).count line ≤ (lineBag oldCode).count line →
      lineBag newCode' = (lineBag newCode).erase line →
        (Subjective.textSurvivalMetrics oldCode newCode').survivalRatio <
          (Subjective.textSurvivalMetrics oldCode newCode).survivalRatio
  fallback : (Criticality.boundedTextSurvivalMetrics oldCode newCode).survivalRatio ≤
    (Criticality.exactTextSurvivalMetrics oldCode newCode).survivalRatio

/-- One copy of a repeated line can be taken away. -/
theorem exists_lineBag_erase (newCode line : Text) :
    ∃ newCode', lineBag newCode' = (lineBag newCode).erase line := by
  refine ⟨joinWith '\n' ((lineBag newCode).erase line).toList, ?_⟩
  rw [lineBag, normalizedNonEmptyLines_join, Multiset.coe_toList]
  intro word hword
  exact mem_normalizedNonEmptyLines (Multiset.mem_of_mem_erase (Multiset.mem_toList.mp hword))

/-- A copy of a line that is still there afterwards is not missed by membership. -/
theorem subjective_of_erase {line newCode' : Text} (htwo : 2 ≤ (lineBag newCode).count line)
    (herase : lineBag newCode' = (lineBag newCode).erase line) :
    (Subjective.textSurvivalMetrics oldCode newCode').survivalRatio =
      (Subjective.textSurvivalMetrics oldCode newCode).survivalRatio := by
  have hmem : ∀ other, other ∈ lineBag newCode' ↔ other ∈ lineBag newCode := by
    intro other
    rw [herase]
    by_cases hother : other = line
    · subst hother
      rw [← Multiset.count_pos, ← Multiset.count_pos, Multiset.count_erase_self]
      omega
    · exact Multiset.mem_erase_of_ne hother
  have hfilter : (lineBag oldCode).filter (· ∈ lineBag newCode') =
      (lineBag oldCode).filter (· ∈ lineBag newCode) :=
    Multiset.filter_congr fun other _ => hmem other
  rw [subjective_eq, subjective_eq, hfilter]
  rfl

/-- Membership counts as the multiset intersection does if and only if every line of the new text
stands less often in the old text, or at most once. -/
theorem survivalAgrees_iff : SurvivalAgrees oldCode newCode ↔
    ∀ line ∈ lineBag newCode, (lineBag oldCode).count line < (lineBag newCode).count line ∨
      (lineBag oldCode).count line ≤ 1 := by
  constructor
  · intro h line hline
    have hmatched : ((lineBag oldCode).filter (· ∈ lineBag newCode)).card =
        (lineBag oldCode ∩ lineBag newCode).card := by
      have hmatched := h.matched
      rwa [subjective_eq] at hmatched
    have hle := card_filter_mem_eq_iff.mp hmatched line hline
    by_contra! hmany
    obtain ⟨newCode', herase⟩ := exists_lineBag_erase newCode line
    have hlower := h.removal line newCode' (by omega) (by omega) herase
    rw [subjective_of_erase (by omega) herase] at hlower
    exact lt_irrefl _ hlower
  · intro h
    have hle : ∀ line ∈ lineBag newCode,
        (lineBag oldCode).count line ≤ (lineBag newCode).count line := by
      intro line hline
      have hpos := Multiset.count_pos.mpr hline
      rcases h line hline with hlt | hone <;> omega
    have hcard := card_filter_mem_eq_iff.mpr hle
    constructor
    · rw [subjective_eq, exact_eq, hcard]
    · rw [subjective_eq]
      exact hcard
    · rw [subjective_eq]
      exact Multiset.card_le_card (Multiset.filter_le (· ∈ lineBag newCode) (lineBag oldCode))
    · rw [subjective_eq]
      exact hcard.le.trans (Multiset.card_le_card Multiset.inter_le_right)
    · intro line newCode' htwo hold _
      have hline : line ∈ lineBag newCode := Multiset.count_pos.mp (by omega)
      rcases h line hline with hlt | hone <;> omega
    · exact bounded_le_exact

/-- A line that stands twice in the old text and once in the new one is matched twice. -/
theorem repeatedLine_matchedTwice :
    (Subjective.textSurvivalMetrics "a\na".toList "a".toList).matchedNodeCount = 2 ∧
      (Criticality.exactTextSurvivalMetrics "a\na".toList "a".toList).matchedNodeCount = 1 ∧
        ¬ SurvivalAgrees "a\na".toList "a".toList := by
  have hsubjective : (Subjective.textSurvivalMetrics "a\na".toList "a".toList).matchedNodeCount =
      2 := by decide
  have hexact : (Criticality.exactTextSurvivalMetrics "a\na".toList "a".toList).matchedNodeCount =
      1 := by decide
  refine ⟨hsubjective, hexact, ?_⟩
  intro h
  rw [h.same, hexact] at hsubjective
  cases hsubjective

end Texts

end Rygnal.Kernel
