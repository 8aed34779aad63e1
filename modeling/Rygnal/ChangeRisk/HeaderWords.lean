import Rygnal.ChangeRisk.GitPatch
import Rygnal.Library.ShellWords

/-! # The words of a patch header

Git writes the paths of a header for its own reader, and a program that splits the header into
shell words reads some of them otherwise: a space or a single quote that Git leaves unquoted ends
or joins words, and the shell keeps the backslash of most of Git's escapes.
-/

namespace Rygnal.ChangeRisk.GitPatch
open Rygnal.Library Rygnal.Library.PyText Rygnal.Library.ShellWords

/-- What the shell reads for a byte that Git quoted. -/
def shellByte (byte : ℕ) : Text :=
  if byte = 34 then ['"'] else if byte = 92 then ['\\'] else quoteByte byte

/-- What the shell reads for a path, when it reads one word. -/
def shellWord (start : String) (path : Text) : Text :=
  if path.any mustQuote then
    start.toList ++
      path.flatMap fun c => (String.utf8EncodeChar c).flatMap fun byte => shellByte byte.toNat
  else start.toList ++ path

/-- A path that is one word for the shell: Git quotes it, or there is nothing to quote. -/
def OneWord (path : Text) : Prop := path.any mustQuote = true ∨ ' ' ∉ path ∧ '\'' ∉ path

/-- A path that the shell reads as it is. -/
structure ShellPlain (path : Text) : Prop where
  printable : ∀ c ∈ path, 0x20 ≤ c.toNat ∧ c.toNat < 0x7F
  noBackslash : '\\' ∉ path
  quoted : '"' ∈ path ∨ ' ' ∉ path ∧ '\'' ∉ path

/-! ## Quoted paths -/

theorem wordsFrom_quoted {c : Char} (hquote : c ≠ '"') (hbackslash : c ≠ '\\')
    (current rest : Text) :
    wordsFrom (.quoted '"') current (c :: rest) = wordsFrom (.quoted '"') (c :: current) rest := by
  rw [wordsFrom, if_neg hquote, if_neg (by simp [hbackslash])]

theorem wordsFrom_escape {c : Char} (hquote : c ≠ '"') (hbackslash : c ≠ '\\')
    (current rest : Text) :
    wordsFrom (.quoted '"') current ('\\' :: c :: rest) =
      wordsFrom (.quoted '"') (c :: '\\' :: current) rest := by
  rw [wordsFrom, if_neg (by decide), if_pos (by decide), wordsFrom,
    if_neg (by simp [hquote, hbackslash])]

theorem octalDigit_ne (n : ℕ) : octalDigit n ≠ '"' ∧ octalDigit n ≠ '\\' := by
  have hdigit : ∀ k < 8, Nat.digitChar k ≠ '"' ∧ Nat.digitChar k ≠ '\\' := by decide
  exact hdigit (n % 8) (Nat.mod_lt n (by decide))

theorem wordsFrom_quoteByte (byte : ℕ) (current rest : Text) :
    wordsFrom (.quoted '"') current (quoteByte byte ++ rest) =
      wordsFrom (.quoted '"') ((shellByte byte).reverse ++ current) rest := by
  unfold shellByte quoteByte
  split
  case h_8 => rfl
  case h_9 => rfl
  case h_10 =>
    rename_i hquote hbackslash
    rw [if_neg (fun h => hquote h), if_neg (fun h => hbackslash h)]
    split
    · rename_i hprintable
      have htoNat := toNat_ofNat_of_printable hprintable.2
      have hne : ∀ c : Char, c.toNat ≠ byte → Char.ofNat byte ≠ c := by
        rintro c hc rfl
        exact hc htoNat
      exact wordsFrom_quoted (hne '"' fun h => hquote h.symm) (hne '\\' fun h => hbackslash h.symm)
        current rest
    · have hd := octalDigit_ne
      rw [List.cons_append, List.cons_append, wordsFrom_escape (hd _).1 (hd _).2, List.cons_append,
        wordsFrom_quoted (hd _).1 (hd _).2, List.cons_append, wordsFrom_quoted (hd _).1 (hd _).2]
      rfl
  all_goals exact wordsFrom_escape (by decide) (by decide) current rest

theorem wordsFrom_quoteBytes (bytes : List ℕ) (current rest : Text) :
    wordsFrom (.quoted '"') current (bytes.flatMap quoteByte ++ rest) =
      wordsFrom (.quoted '"') ((bytes.flatMap shellByte).reverse ++ current) rest := by
  induction bytes generalizing current with
  | nil => rfl
  | cons byte bytes ih =>
    rw [List.flatMap_cons, List.append_assoc, wordsFrom_quoteByte, ih, List.flatMap_cons,
      List.reverse_append, List.append_assoc]

/-- The bytes of a path in UTF-8. -/
def pathBytes (path : Text) : List ℕ := path.flatMap fun c => (String.utf8EncodeChar c).map UInt8.toNat

theorem flatMap_pathBytes (f : ℕ → Text) (path : Text) :
    (pathBytes path).flatMap f =
      path.flatMap fun c => (String.utf8EncodeChar c).flatMap fun byte => f byte.toNat := by
  rw [pathBytes, List.flatMap_assoc]
  congr 1
  funext c
  rw [List.flatMap_map]

theorem ordinary_of_unquoted {path : Text} (h : ¬path.any mustQuote = true) (hspace : ' ' ∉ path)
    (hsingle : '\'' ∉ path) {c : Char} (hc : c ∈ path) : Ordinary c := by
  have hplain : mustQuote c = false := by
    simpa using List.any_eq_false.mp (Bool.not_eq_true _ ▸ h) c hc
  simp only [mustQuote, Bool.or_eq_false_iff, decide_eq_false_iff_not, not_lt, not_le,
    beq_eq_false_iff_ne, ne_eq] at hplain
  have hcontrol : ∀ d : Char, d.toNat < 0x20 → c ≠ d := by
    rintro d hd rfl
    omega
  have hneSpace : c ≠ ' ' := fun heq => hspace (heq ▸ hc)
  have hneSingle : c ≠ '\'' := fun heq => hsingle (heq ▸ hc)
  constructor
  · simp [isSeparator, hneSpace, hcontrol '\t' (by decide), hcontrol '\r' (by decide),
      hcontrol '\n' (by decide)]
  · exact hplain.2
  · simp [isQuote, hneSingle, hplain.1.2]

/-- A quoted or plain path of a header is one word. -/
theorem wordsFrom_quoteTwo {start : String} {c : Char} {cs : Text} (hcons : start.toList = c :: cs)
    (hstart : ∀ d ∈ start.toList, Ordinary d ∧ d ≠ '"') {path : Text} (h : OneWord path)
    (rest : Text) :
    wordsFrom .between [] (quoteTwo start path ++ rest) =
      wordsFrom .word (shellWord start path).reverse rest := by
  unfold quoteTwo shellWord
  by_cases hquoted : path.any mustQuote = true
  · rw [if_pos hquoted, if_pos hquoted, ← flatMap_pathBytes, ← flatMap_pathBytes]
    have hprefix : ∀ text current : Text, (∀ d ∈ text, Ordinary d ∧ d ≠ '"') → ∀ rest,
        wordsFrom (.quoted '"') current (text ++ rest) =
          wordsFrom (.quoted '"') (text.reverse ++ current) rest := by
      intro text
      induction text with
      | nil => exact fun _ _ _ => rfl
      | cons d text ih =>
        intro current htext rest
        rw [List.forall_mem_cons] at htext
        rw [List.cons_append, wordsFrom_quoted htext.1.2 htext.1.1.noBackslash, ih _ htext.2,
          List.reverse_cons, List.append_assoc]
        rfl
    simp only [List.cons_append, List.append_assoc]
    rw [wordsFrom, if_neg (by decide), if_neg (by decide), if_pos (by decide), hprefix _ _ hstart,
      wordsFrom_quoteBytes, List.nil_append, wordsFrom, if_pos rfl, List.append_nil,
      List.reverse_append]
  · obtain ⟨hspace, hsingle⟩ := h.resolve_left hquoted
    rw [if_neg hquoted, if_neg hquoted, hcons]
    have hordinary : ∀ d ∈ c :: cs ++ path, Ordinary d := by
      rw [← hcons]
      intro d hd
      rcases List.mem_append.mp hd with hd | hd
      · exact (hstart d hd).1
      · exact ordinary_of_unquoted hquoted hspace hsingle hd
    exact wordsFrom_between hordinary rest
/-! ## The words of a header -/

theorem gitHeader_eq (file : FileDiff) : file.gitHeader = "diff --git ".toList ++
    (quoteTwo "a/" file.oldPath ++ ' ' :: quoteTwo "b/" file.path) :=
  List.append_assoc _ _ _

theorem wordsFrom_diffGit (rest : Text) : wordsFrom .between [] ("diff --git ".toList ++ rest) =
    (wordsFrom .between [] rest).map fun words => "diff".toList :: "--git".toList :: words := by
  have hsplit : "diff --git ".toList ++ rest =
      'd' :: "iff".toList ++ ' ' :: ('-' :: "-git".toList ++ ' ' :: rest) := by
    simp
  rw [hsplit, wordsFrom_ordinary (by decide), wordsFrom_ordinary (by decide)]
  cases wordsFrom .between [] rest <;> rfl

/-- The four words of a header whose paths are one word each. -/
theorem split_gitHeader {file : FileDiff} (hold : OneWord file.oldPath) (hpath : OneWord file.path) :
    ShellWords.split file.gitHeader = .ok ["diff".toList, "--git".toList,
      shellWord "a/" file.oldPath, shellWord "b/" file.path] := by
  have hfirst := @wordsFrom_quoteTwo "a/" 'a' ['/'] rfl (by decide) _ hold
  have hsecond := @wordsFrom_quoteTwo "b/" 'b' ['/'] rfl (by decide) _ hpath []
  rw [List.append_nil] at hsecond
  have hwords : wordsFrom .between [] file.gitHeader =
      .ok ("diff".toList :: "--git".toList :: [shellWord "a/" file.oldPath,
        shellWord "b/" file.path]) := by
    rw [gitHeader_eq, wordsFrom_diffGit, hfirst, wordsFrom_space, hsecond, wordsFrom_end,
      List.reverse_reverse, List.reverse_reverse]
    rfl
  exact hwords

theorem wordsFrom_tab (current : Text) : wordsFrom .word current ['\t'] = .ok [current.reverse] := by
  rw [wordsFrom, if_pos (by decide), wordsFrom]
  rfl

/-- The words of a `---` or `+++` line. -/
theorem split_label {c d : Char} {mark cs : Text} (hmark : ∀ e ∈ c :: mark, Ordinary e)
    {start : String} (hcons : start.toList = d :: cs)
    (hstart : ∀ e ∈ start.toList, Ordinary e ∧ e ≠ '"') {path : Text} (h : OneWord path) :
    ShellWords.split (c :: mark ++ ' ' :: label start path) =
      .ok [c :: mark, shellWord start path] := by
  have hword : wordsFrom .between [] (label start path) = .ok [shellWord start path] := by
    unfold label
    split
    · rw [wordsFrom_quoteTwo hcons hstart h, wordsFrom_tab, List.reverse_reverse]
    · have hend := wordsFrom_quoteTwo hcons hstart h []
      rw [List.append_nil] at hend
      rw [hend, wordsFrom_end, List.reverse_reverse]
  have hline := wordsFrom_ordinary hmark (label start path)
  rw [hword] at hline
  exact hline

theorem any_mustQuote_of_printable {path : Text}
    (hprintable : ∀ c ∈ path, 0x20 ≤ c.toNat ∧ c.toNat < 0x7F) (hbackslash : '\\' ∉ path) :
    path.any mustQuote = true ↔ '"' ∈ path := by
  rw [List.any_eq_true]
  constructor
  · rintro ⟨c, hc, hquote⟩
    have hrange := hprintable c hc
    have hne : c ≠ '\\' := fun heq => hbackslash (heq ▸ hc)
    simp only [mustQuote, Bool.or_eq_true, decide_eq_true_eq, beq_iff_eq] at hquote
    rcases hquote with ((hlow | hhigh) | rfl) | heq
    · omega
    · omega
    · exact hc
    · exact absurd heq hne
  · exact fun h => ⟨'"', h, by decide⟩

theorem ShellPlain.oneWord {path : Text} (h : ShellPlain path) : OneWord path := by
  rcases h.quoted with hquote | hplain
  · exact .inl ((any_mustQuote_of_printable h.printable h.noBackslash).mpr hquote)
  · exact .inr hplain

/-- The shell reads a printable path without a backslash as it is. -/
theorem shellWord_of_printable (start : String) {path : Text}
    (hprintable : ∀ c ∈ path, 0x20 ≤ c.toNat ∧ c.toNat < 0x7F) (hbackslash : '\\' ∉ path) :
    shellWord start path = start.toList ++ path := by
  have hchar : ∀ c ∈ path,
      ((String.utf8EncodeChar c).flatMap fun byte => shellByte byte.toNat) = [c] := by
    intro c hc
    have hrange := hprintable c hc
    have hne : c.toNat ≠ 92 := by
      intro h
      have heq : c = '\\' := Char.toNat_inj.mp h
      exact hbackslash (heq ▸ hc)
    have hbyte : ∀ n < 0x7F, 0x20 ≤ n → n ≠ 92 → shellByte n = [Char.ofNat n] := by decide
    have hval : c.val ≤ 127 := by
      rw [UInt32.le_iff_toNat_le]
      exact Nat.le_of_lt hrange.2
    have hsize : c.utf8Size = 1 := Char.utf8Size_eq_one_iff.mpr hval
    have hnat : c.val.toUInt8.toNat = c.toNat := by
      rw [UInt32.toNat_toUInt8]
      exact Nat.mod_eq_of_lt (hrange.2.trans (by decide))
    rw [String.utf8EncodeChar_eq_singleton hsize, List.flatMap_singleton, hnat,
      hbyte _ hrange.2 hrange.1 hne, Char.ofNat_toNat]
  unfold shellWord
  split
  · congr 1
    rw [List.flatMap_congr hchar, List.flatMap_singleton']
  · rfl

/-! ## The characters of a header -/

theorem printable_quoteByte (byte : ℕ) :
    ∀ c ∈ quoteByte byte, 0x20 ≤ c.toNat ∧ c.toNat < 0x7F := by
  unfold quoteByte
  split
  case h_10 =>
    split
    · rename_i hprintable
      have htoNat := toNat_ofNat_of_printable hprintable.2
      intro c hc
      rw [List.mem_singleton.mp hc, htoNat]
      exact hprintable
    · have hdigit : ∀ n, 0x20 ≤ (octalDigit n).toNat ∧ (octalDigit n).toNat < 0x7F := by
        have hall : ∀ k < 8, 0x20 ≤ (Nat.digitChar k).toNat ∧ (Nat.digitChar k).toNat < 0x7F := by
          decide
        exact fun n => hall (n % 8) (Nat.mod_lt n (by decide))
      intro c hc
      simp only [List.mem_cons, List.not_mem_nil, or_false] at hc
      rcases hc with rfl | rfl | rfl | rfl
      · decide
      · exact hdigit _
      · exact hdigit _
      · exact hdigit _
  all_goals decide

theorem printable_of_unquoted {path : Text} (h : ¬path.any mustQuote = true) :
    ∀ c ∈ path, 0x20 ≤ c.toNat ∧ c.toNat < 0x7F := by
  intro c hc
  have hplain : mustQuote c = false := by
    simpa using List.any_eq_false.mp (Bool.not_eq_true _ ▸ h) c hc
  simp only [mustQuote, Bool.or_eq_false_iff, decide_eq_false_iff_not, not_lt, not_le] at hplain
  exact hplain.1.1

theorem printable_quoteTwo {start : String}
    (hstart : ∀ c ∈ start.toList, 0x20 ≤ c.toNat ∧ c.toNat < 0x7F) (path : Text) :
    ∀ c ∈ quoteTwo start path, 0x20 ≤ c.toNat ∧ c.toNat < 0x7F := by
  unfold quoteTwo
  split
  · intro c hc
    simp only [List.cons_append, List.mem_cons, List.mem_append, List.not_mem_nil, or_false] at hc
    rcases hc with rfl | (hc | hc) | rfl
    · decide
    · exact hstart c hc
    · obtain ⟨d, -, hd⟩ := List.mem_flatMap.mp hc
      obtain ⟨byte, -, hbyte⟩ := List.mem_flatMap.mp hd
      exact printable_quoteByte _ c hbyte
    · decide
  · rename_i hunquoted
    intro c hc
    rcases List.mem_append.mp hc with hc | hc
    · exact hstart c hc
    · exact printable_of_unquoted hunquoted c hc

theorem printable_gitHeader (file : FileDiff) :
    ∀ c ∈ file.gitHeader, 0x20 ≤ c.toNat ∧ c.toNat < 0x7F := by
  intro c hc
  rw [gitHeader_eq, List.mem_append, List.mem_append, List.mem_cons] at hc
  rcases hc with hc | hc | rfl | hc
  · have hword : ∀ d ∈ "diff --git ".toList, 0x20 ≤ d.toNat ∧ d.toNat < 0x7F := by decide
    exact hword c hc
  · exact printable_quoteTwo (by decide) _ c hc
  · decide
  · exact printable_quoteTwo (by decide) _ c hc

theorem flatMap_pieces_of_unbroken {lines : List Text} (h : ∀ line ∈ lines, Unbroken line) :
    lines.flatMap pieces = lines := by
  induction lines with
  | nil => rfl
  | cons line lines ih =>
    rw [List.flatMap_cons, pieces_of_forall (h line List.mem_cons_self),
      ih fun l hl => h l (List.mem_cons_of_mem line hl), List.singleton_append]

theorem unbroken_gitHeader (file : FileDiff) : Unbroken file.gitHeader := by
  rw [gitHeader_eq]
  exact (by decide : Unbroken "diff --git ".toList).append
    ((unbroken_quoteTwo (by decide) file.oldPath).append
      (.cons (by decide) (unbroken_quoteTwo (by decide) file.path)))

theorem pieces_header (file : FileDiff) :
    (file.gitHeader :: file.extendedHeader).flatMap pieces =
      file.gitHeader :: file.extendedHeader := by
  apply flatMap_pieces_of_unbroken
  intro line hline
  rcases List.mem_cons.mp hline with rfl | hline
  · exact unbroken_gitHeader file
  · exact (quiet_extendedHeader file line hline).unbroken

/-- A line of base-85 digits has no space. -/
theorem space_notMem_dataLine (line : Fin 52 × List (Fin 85)) : ' ' ∉ dataLine line := by
  have hletters : ∀ c ∈ 'A' :: lengthLetters, c ≠ ' ' := by decide
  have hdigits : ∀ c ∈ '0' :: base85, c ≠ ' ' := by decide
  intro hspace
  rcases List.mem_cons.mp hspace with h | h
  · exact getD_of_forall hletters line.1.val h.symm
  · obtain ⟨digit, -, hdigit⟩ := List.mem_map.mp h
    exact getD_of_forall hdigits digit.val hdigit

/-- The header of a path that Git does not quote holds the characters of the path and of the
header words. -/
theorem notMem_gitHeader {file : FileDiff} {c : Char} (hold : file.oldPath = file.path)
    (hunquoted : ¬file.path.any mustQuote = true) (hpath : c ∉ file.path)
    (hwords : c ∉ "diff --git a/b/".toList) : c ∉ file.gitHeader := by
  have hhead : ∀ d ∈ "diff --git ".toList ++ ("a/".toList ++ ' ' :: "b/".toList),
      d ∈ "diff --git a/b/".toList := by
    decide
  intro hc
  rw [gitHeader_eq, hold] at hc
  unfold quoteTwo at hc
  rw [if_neg hunquoted, if_neg hunquoted] at hc
  simp only [List.mem_append, List.mem_cons] at hc hhead
  rcases hc with hc | (hc | hc) | hc | hc | hc
  · exact hwords (hhead c (.inl hc))
  · exact hwords (hhead c (.inr (.inl hc)))
  · exact hpath hc
  · exact hwords (hhead c (.inr (.inr (.inl hc))))
  · exact hwords (hhead c (.inr (.inr (.inr hc))))
  · exact hpath hc

theorem head_of_quoteTwo {path rest word : Text} {words : List Text}
    (h : wordsFrom .between [] (quoteTwo "a/" path ++ rest) = .ok (word :: words)) :
    ['a'] <+: word := by
  unfold quoteTwo at h
  split at h
  · have hquoted : ∃ tail, ('"' :: "a/".toList ++ path.flatMap (fun c =>
        (String.utf8EncodeChar c).flatMap fun byte => quoteByte byte.toNat) ++ ['"']) ++ rest =
          '"' :: 'a' :: tail := ⟨_, rfl⟩
    obtain ⟨tail, htail⟩ := hquoted
    rw [htail, wordsFrom, if_neg (by decide), if_neg (by decide), if_pos (by decide),
      wordsFrom_quoted (by decide) (by decide)] at h
    exact prefix_of_wordsFrom h (by decide)
  · have hplain : ∃ tail, ("a/".toList ++ path) ++ rest = 'a' :: tail := ⟨_, rfl⟩
    obtain ⟨tail, htail⟩ := hplain
    rw [htail, wordsFrom, if_neg (by decide), if_neg (by decide), if_neg (by decide)] at h
    exact prefix_of_wordsFrom h (by decide)

/-- The third word of a header goes on from its `a`. -/
theorem head_of_split_gitHeader {file : FileDiff} {command flag old : Text} {words : List Text}
    (h : ShellWords.split file.gitHeader = .ok (command :: flag :: old :: words)) :
    ['a'] <+: old := by
  rw [ShellWords.split, gitHeader_eq, wordsFrom_diffGit] at h
  cases hrest : wordsFrom .between [] (quoteTwo "a/" file.oldPath ++ ' ' ::
      quoteTwo "b/" file.path) with
  | error exc =>
    rw [hrest] at h
    cases h
  | ok rest =>
    rw [hrest] at h
    have hwords := Except.ok.inj h
    rw [(List.cons.inj (List.cons.inj hwords).2).2] at hrest
    exact head_of_quoteTwo hrest

theorem length_le_quoteTwo (start : String) (path : Text) :
    path.length ≤ (quoteTwo start path).length := by
  have hbyte : ∀ byte, quoteByte byte ≠ [] := by
    intro byte
    unfold quoteByte
    split
    case h_10 => split <;> exact List.cons_ne_nil _ _
    all_goals exact List.cons_ne_nil _ _
  have hchar : ∀ c : Char,
      1 ≤ ((String.utf8EncodeChar c).flatMap fun byte => quoteByte byte.toNat).length := by
    intro c
    obtain ⟨byte, bytes, hbytes⟩ := List.exists_cons_of_ne_nil (@String.utf8EncodeChar_ne_nil c)
    rw [hbytes, List.flatMap_cons, List.length_append]
    have hpos := List.length_pos_iff.mpr (hbyte byte.toNat)
    omega
  have hflat : path.length ≤ (path.flatMap fun c =>
      (String.utf8EncodeChar c).flatMap fun byte => quoteByte byte.toNat).length := by
    induction path with
    | nil => exact Nat.le_refl 0
    | cons c path ih =>
      rw [List.flatMap_cons, List.length_append, List.length_cons]
      have hone := hchar c
      omega
  unfold quoteTwo
  split
  · simp only [List.length_append, List.length_cons]
    omega
  · rw [List.length_append]
    omega

end Rygnal.ChangeRisk.GitPatch
