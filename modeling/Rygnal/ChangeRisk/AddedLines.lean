import Rygnal.ChangeRisk.Paths
import Rygnal.Library.Regex

/-! # Added lines and what they contain

`extract_added_lines_by_path` reads a patch line by line with one current path, and
`_content_risk_reasons` scans the lines of a path with the secret and destructive-command
patterns. Each pattern gives at most one reason: exactly when some line matches it.
-/

namespace Rygnal.ChangeRisk
open Rygnal.Core Rygnal.Library Rygnal.Library.PyText Rygnal.Library.Regex

abbrev AddedLines := PyDict (List Text)

/-! ## Extraction -/

def parseNewPatchPath (rawPath : Text) : Except PyException (Option String) :=
  if rawPath = "/dev/null".toList then .ok none
  else
    let path := if startsWith rawPath "b/" then rawPath.drop 2 else rawPath
    (normalizeRepoRelativePath (String.ofList path)).map some

/-- The variables of the loop of `extract_added_lines_by_path`. -/
structure Extraction where
  currentPath : Option String
  addedLines : AddedLines
deriving DecidableEq, Repr

namespace Extraction

/-- `added_lines.setdefault(path, [])`, with the path as the current one. -/
def enter (state : Extraction) (path : String) : Extraction where
  currentPath := some path
  addedLines :=
    match state.addedLines.get path with
    | some _ => state.addedLines
    | none => state.addedLines.set path []

/-- `added_lines[path].append(line)`. -/
def append (state : Extraction) (path : String) (line : Text) : Extraction :=
  { state with
    addedLines := state.addedLines.set path ((state.addedLines.get path).getD [] ++ [line]) }

/-- One pass of the loop. -/
def step (state : Extraction) (line : Text) : Except PyException Extraction :=
  if startsWith line "diff --git " then .ok { state with currentPath := none }
  else if startsWith line "+++ " then
    (parseNewPatchPath (strip (line.drop 4))).map fun
      | some path => state.enter path
      | none => { state with currentPath := none }
  else
    match state.currentPath with
    | none => .ok state
    | some path =>
      if startsWith line "+" && !startsWith line "+++" then .ok (state.append path (line.drop 1))
      else .ok state

end Extraction

def extractAddedLinesByPath (patch : Text) : Except PyException AddedLines :=
  ((splitlines patch).foldlM Extraction.step ⟨none, []⟩).map Extraction.addedLines

/-! ## Patterns -/

section Patterns
open Re

/-- `[a-z]` of a pattern that ignores case. -/
def anyLetter (c : Char) : Bool := c.isAlpha || foldsTo 'i' c || foldsTo 's' c || foldsTo 'k' c

def secretAddedLinePatterns : List (String × Re) :=
  [("private-key-header", seqs [lit "-----BEGIN ", .star fun c => c.isUpper || c == ' ',
      lit "PRIVATE KEY-----"]),
    ("aws-access-key-id", seqs [.bound, lit "AKIA",
      exactly (fun c => c.isDigit || c.isUpper) 16, .bound]),
    ("openai-api-key", seqs [.bound, lit "sk-",
      atLeast (fun c => c.isAlphanum || c == '_' || c == '-') 20, .bound]),
    ("credential-assignment", seqs [.bound,
      alts (seqs [ilit "api", .opt (oneOf "_-"), ilit "key"])
        [seqs [ilit "access", .opt (oneOf "_-"), ilit "token"],
          seqs [ilit "auth", .opt (oneOf "_-"), ilit "token"], ilit "password",
          seqs [ilit "private", .opt (oneOf "_-"), ilit "key"], ilit "secret",
          seqs [ilit "client", .opt (oneOf "_-"), ilit "secret"]],
      .bound, .star isSpace, oneOf ":=", .star isSpace, .opt (oneOf "'\""),
      atLeast (fun c => c != '\'' && c != '"' && !isSpace c) 8])]

/-- `.`. -/
def notNewline (c : Char) : Bool := c != '\n'

def destructiveAddedLinePatterns : List (String × Re) :=
  [("recursive-force-delete", seqs [.bound, ilit "rm", plus isSpace, char '-', .star anyLetter,
      ilit "r", .star anyLetter, ilit "f", .star anyLetter, .bound]),
    ("world-writable-permission", seqs [.bound, ilit "chmod", plus isSpace, lit "777", .bound]),
    ("pipe-to-shell", seqs [.bound, alts (ilit "curl") [ilit "wget"], .bound, plus notNewline,
      char '|', .star isSpace, alts (ilit "sh") [ilit "bash"], .bound]),
    -- The raw string has `\\s`: a backslash and an s, not white space.
    ("disk-format", seqs [.bound, ilit "mkfs", alts (char '.') [.seq (char '\\') (ilit "s")]]),
    ("raw-disk-write", seqs [.bound, ilit "dd", plus isSpace, .star notNewline, .bound, ilit "of",
      lit "=/", ilit "dev", char '/'])]

end Patterns

section Scan
variable [UnicodeTables]

/-- A pattern of the scan, with its code in `seen_codes` and the reason that it gives. -/
structure LineCheck where
  code : String
  pattern : Re
  reason : ChangeRiskReason

def secretCheck (path : String) (entry : String × Re) : LineCheck where
  code := entry.1
  pattern := entry.2
  reason := changeRiskReason ("added-secret-" ++ entry.1) .critical
    "Added line appears to contain credential or secret material."
    [("path", .str path), ("pattern", .str entry.1)]

def destructiveCheck (path : String) (entry : String × Re) : LineCheck where
  code := entry.1
  pattern := entry.2
  reason := changeRiskReason ("destructive-command-" ++ entry.1)
    (if isScriptLikePath path.toList then .critical else .high)
    "Added line appears to contain a destructive command pattern."
    [("path", .str path), ("pattern", .str entry.1)]

/-- The patterns in the order in which each line is tried. -/
def lineChecks (path : String) : List LineCheck :=
  secretAddedLinePatterns.map (secretCheck path) ++
    destructiveAddedLinePatterns.map (destructiveCheck path)

structure ContentScan where
  reasons : List ChangeRiskReason
  seenCodes : List String

def ContentScan.check (line : Text) (scan : ContentScan) (check : LineCheck) : ContentScan :=
  if check.code ∈ scan.seenCodes ∨ check.pattern.search line = false then scan
  else ⟨scan.reasons ++ [check.reason], check.code :: scan.seenCodes⟩

/-- `_content_risk_reasons`. -/
def contentRiskReasons (path : String) (addedLines : List Text) : List ChangeRiskReason :=
  (addedLines.foldl (fun scan line => (lineChecks path).foldl (ContentScan.check line) scan)
    ⟨[], []⟩).reasons

/-! ## What the scan reports -/

theorem lineChecks_codes (path : String) : ((lineChecks path).map LineCheck.code).Nodup := by
  have hcodes : (lineChecks path).map LineCheck.code =
      secretAddedLinePatterns.map Prod.fst ++ destructiveAddedLinePatterns.map Prod.fst := rfl
  rw [hcodes]
  decide

/-- The reasons so far are those of the checks that matched, and every code seen has its
reason. -/
structure ContentScan.Sound (checks : List LineCheck) (matched : LineCheck → Prop)
    (scan : ContentScan) : Prop where
  reasons : ∀ reason ∈ scan.reasons, ∃ c ∈ checks, matched c ∧ c.reason = reason
  seen : ∀ c ∈ checks, c.code ∈ scan.seenCodes → c.reason ∈ scan.reasons
  complete : ∀ c ∈ checks, matched c → c.reason ∈ scan.reasons

/-- What one pattern tried on one line adds. -/
theorem ContentScan.Sound.check {checks : List LineCheck}
    (hcodes : (checks.map LineCheck.code).Nodup) {matched : LineCheck → Prop}
    {scan : ContentScan} (h : scan.Sound checks matched) {c : LineCheck} (hc : c ∈ checks)
    (line : Text) : (scan.check line c).Sound checks fun d =>
      matched d ∨ (d = c ∧ c.pattern.search line = true) := by
  have hsame : ∀ d ∈ checks, d.code = c.code → d = c := fun d hd hcode =>
    List.inj_on_of_nodup_map hcodes hd hc hcode
  unfold ContentScan.check
  split
  · rename_i hskip
    constructor
    · intro reason hr
      obtain ⟨d, hd, hm, rfl⟩ := h.reasons reason hr
      exact ⟨d, hd, .inl hm, rfl⟩
    · exact h.seen
    · rintro d hd (hm | ⟨rfl, hsearch⟩)
      · exact h.complete d hd hm
      · rcases hskip with hseen | hno
        · exact h.seen d hd hseen
        · rw [hno] at hsearch
          cases hsearch
  · rename_i htake
    rw [not_or, Bool.not_eq_false] at htake
    constructor
    · intro reason hr
      rcases List.mem_append.mp hr with hr | hr
      · obtain ⟨d, hd, hm, rfl⟩ := h.reasons reason hr
        exact ⟨d, hd, .inl hm, rfl⟩
      · exact ⟨c, hc, .inr ⟨rfl, htake.2⟩, (List.mem_singleton.mp hr).symm⟩
    · intro d hd hseen
      rcases List.mem_cons.mp hseen with hcode | hseen
      · rw [hsame d hd hcode]
        exact List.mem_append_right _ List.mem_cons_self
      · exact List.mem_append_left _ (h.seen d hd hseen)
    · rintro d hd (hm | ⟨rfl, _⟩)
      · exact List.mem_append_left _ (h.complete d hd hm)
      · exact List.mem_append_right _ List.mem_cons_self

/-- What all patterns tried on one line add. -/
theorem ContentScan.Sound.line {checks : List LineCheck}
    (hcodes : (checks.map LineCheck.code).Nodup) {matched : LineCheck → Prop}
    {scan : ContentScan} (h : scan.Sound checks matched) (line : Text) (tried : List LineCheck)
    (htried : ∀ c ∈ tried, c ∈ checks) :
    (tried.foldl (ContentScan.check line) scan).Sound checks fun c =>
      matched c ∨ (c ∈ tried ∧ c.pattern.search line = true) := by
  induction tried generalizing scan matched with
  | nil => simpa using h
  | cons c tried ih =>
    have hstep := ih (h.check hcodes (htried c List.mem_cons_self) line)
      fun d hd => htried d (List.mem_cons_of_mem c hd)
    rw [List.foldl_cons]
    convert hstep using 2 with d
    rw [List.mem_cons, or_assoc]
    apply or_congr_right
    constructor
    · rintro ⟨rfl | hd, hsearch⟩
      · exact .inl ⟨rfl, hsearch⟩
      · exact .inr ⟨hd, hsearch⟩
    · rintro (⟨rfl, hsearch⟩ | ⟨hd, hsearch⟩)
      · exact ⟨.inl rfl, hsearch⟩
      · exact ⟨.inr hd, hsearch⟩

theorem ContentScan.Sound.lines {checks : List LineCheck}
    (hcodes : (checks.map LineCheck.code).Nodup) {matched : LineCheck → Prop}
    {scan : ContentScan} (h : scan.Sound checks matched) (lines : List Text) :
    (lines.foldl (fun s line => checks.foldl (ContentScan.check line) s) scan).Sound checks
      fun c => matched c ∨ ∃ line ∈ lines, c ∈ checks ∧ c.pattern.search line = true := by
  induction lines generalizing scan matched with
  | nil => simpa using h
  | cons line lines ih =>
    rw [List.foldl_cons]
    convert ih (h.line hcodes line checks fun _ hc => hc) using 2 with c
    rw [List.exists_mem_cons_iff, or_assoc]

/-- The scan gives exactly the reasons of the patterns that some added line matches. -/
theorem mem_contentRiskReasons {path : String} {addedLines : List Text}
    {reason : ChangeRiskReason} : reason ∈ contentRiskReasons path addedLines ↔
      ∃ c ∈ lineChecks path, (∃ line ∈ addedLines, c.pattern.search line = true) ∧
        c.reason = reason := by
  have hempty : (⟨[], []⟩ : ContentScan).Sound (lineChecks path) fun _ => False :=
    ⟨by simp, by simp, by simp⟩
  have hscan := hempty.lines (lineChecks_codes path) addedLines
  constructor
  · intro hr
    obtain ⟨c, hc, hfalse | ⟨line, hline, _, hsearch⟩, hreason⟩ := hscan.reasons reason hr
    · exact hfalse.elim
    · exact ⟨c, hc, ⟨line, hline, hsearch⟩, hreason⟩
  · rintro ⟨c, hc, ⟨line, hline, hsearch⟩, rfl⟩
    exact hscan.complete c hc (.inr ⟨line, hline, hc, hsearch⟩)

omit [UnicodeTables] in
theorem secretCheck_riskLevel (path : String) (entry : String × Re) :
    (secretCheck path entry).reason.riskLevel = .critical := rfl

theorem destructiveCheck_riskLevel (path : String) (entry : String × Re) :
    (destructiveCheck path entry).reason.riskLevel =
      if isScriptLikePath path.toList then .critical else .high := by
  simp only [destructiveCheck, changeRiskReason]

theorem secretReason_mem {path : String} {addedLines : List Text} {line : Text}
    (hline : line ∈ addedLines) {entry : String × Re} (hentry : entry ∈ secretAddedLinePatterns)
    (hsearch : entry.2.search line = true) :
    (secretCheck path entry).reason ∈ contentRiskReasons path addedLines := by
  have hcheck : secretCheck path entry ∈ lineChecks path :=
    List.mem_append_left _ (List.mem_map_of_mem hentry)
  exact mem_contentRiskReasons.mpr ⟨secretCheck path entry, hcheck, ⟨line, hline, hsearch⟩, rfl⟩

theorem destructiveReason_mem {path : String} {addedLines : List Text} {line : Text}
    (hline : line ∈ addedLines) {entry : String × Re}
    (hentry : entry ∈ destructiveAddedLinePatterns) (hsearch : entry.2.search line = true) :
    (destructiveCheck path entry).reason ∈ contentRiskReasons path addedLines := by
  have hcheck : destructiveCheck path entry ∈ lineChecks path :=
    List.mem_append_right _ (List.mem_map_of_mem hentry)
  exact mem_contentRiskReasons.mpr
    ⟨destructiveCheck path entry, hcheck, ⟨line, hline, hsearch⟩, rfl⟩

end Scan

end Rygnal.ChangeRisk
