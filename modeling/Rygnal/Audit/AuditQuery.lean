import Rygnal.Audit.AuditLogger
import Rygnal.Library.Utf8
import Rygnal.Security.Redaction

/-! # Queries of the audit log

`audit_query.py`: the events of a log file of any bytes, the filters, the pages and their
redaction, and for which logs the pages are complete.
-/

namespace Rygnal.Audit
open Rygnal.Core Rygnal.Library Rygnal.Library.PyText Rygnal.Security

structure AuditQuery where
  eventId : Option String
  traceId : Option String
  decision : Option String
  toolName : Option String
  action : Option String
  severity : Option String
  policyId : Option String
  since : Option String
  untilTime : Option String
  limit : ℤ
  offset : ℤ
  maxLimit : ℤ
  newestFirst : Bool

structure AuditQueryResult where
  events : List ChainedEvent
  totalScanned : ℕ
  totalMatching : ℕ
  returnedCount : ℕ
  malformedCount : ℕ
  warnings : List String
  limit : ℤ
  offset : ℤ
  newestFirst : Bool

/-- The libraries below a query. `parseEvent` is `AuditEvent(**json.loads(line))`, `fromIso` is
`datetime.fromisoformat` in UTC microseconds, UTC where the text has no zone, and `dumps` says
whether `model_dump(mode="json")` returns; `none` is an exception. -/
class LogHost where
  parseEvent : Text → Option ChainedEvent
  fromIso : Text → Option ℤ
  dumps : ChainedEvent → Bool
  defaults : EventDefaults

/-! ## Reading the log -/

/-- `path.read_text(encoding="utf-8")`; the translation of line ends changes no line. -/
def readText (content : List UInt8) : Except String Text :=
  match Utf8.encodeStrict (Utf8.decode content) with
  | none => .error "UnicodeDecodeError"
  | some _ => .ok (Utf8.visible (Utf8.decode content))

def nonBlankLines (text : Text) : List Text := (splitlines text).filter fun line => strip line ≠ []

section Queries
variable [LogHost] [UnicodeTables]

/-- The loop of `_read_jsonl_events`: the events and the number of malformed lines. -/
def readLines : List Text → List ChainedEvent × ℕ
  | [] => ([], 0)
  | line :: lines =>
    let (events, malformed) := readLines lines
    if strip line = [] then (events, malformed)
    else match LogHost.parseEvent line with
      | some event => (event :: events, malformed)
      | none => (events, malformed + 1)

/-- `_read_jsonl_events`. -/
def readJsonlEvents (text : Text) : List ChainedEvent × ℕ := readLines (splitlines text)

def malformedWarnings (malformed : ℕ) : List String :=
  if malformed = 0 then []
  else ["Skipped " ++ toString malformed ++ " malformed audit log line(s)."]

/-! ## Filters -/

/-- `_parse_optional_timestamp` of a text. -/
def parseTimestamp (value : String) (fieldName : String) : Except String ℤ :=
  let normalized := strip value.toList
  if normalized = [] then .error ("Audit query " ++ fieldName ++ " must not be blank.")
  else
    let normalized :=
      if normalized.getLast? = some 'Z' then normalized.dropLast ++ "+00:00".toList
      else normalized
    match LogHost.fromIso normalized with
    | some time => .ok time
    | none => .error ("Invalid audit query " ++ fieldName ++ ".")

/-- `_parse_optional_timestamp`. -/
def parseOptionalTimestamp (value : Option String) (fieldName : String) :
    Except String (Option ℤ) :=
  match value with
  | none => .ok none
  | some value => (parseTimestamp value fieldName).map some

/-- The comparisons of `_matches_query` before the timestamp. -/
def passesFields (event : ChainedEvent) (query : AuditQuery) : Bool :=
  query.eventId.all (· = event.eventId) && query.traceId.all (· = event.traceId) &&
    query.decision.all (· = event.decision.value) && query.toolName.all (· = event.toolName) &&
    query.action.all (some · = event.action) && query.severity.all (· = event.severity.value) &&
    query.policyId.all (some · = event.policyId)

def withinBounds (since untilTime : Option ℤ) (time : ℤ) : Bool :=
  since.all (· ≤ time) && untilTime.all (time ≤ ·)

/-- `_matches_query`. -/
def matchesQuery (event : ChainedEvent) (query : AuditQuery) (since untilTime : Option ℤ) :
    Except String Bool :=
  if passesFields event query then
    (parseTimestamp event.timestamp "event timestamp").map (withinBounds since untilTime)
  else .ok false

def filterEvents (query : AuditQuery) (since untilTime : Option ℤ) :
    List ChainedEvent → Except String (List ChainedEvent)
  | [] => .ok []
  | event :: events => do
    let keep ← matchesQuery event query since untilTime
    let filtered ← filterEvents query since untilTime events
    return if keep then event :: filtered else filtered

/-! ## The query -/

/-- `_redact_event`. -/
def redactEvent (event : ChainedEvent) : Except String ChainedEvent :=
  if LogHost.dumps event then
    match eventOfPayload LogHost.defaults (redactEntries event.modelDump) with
    | some event => .ok event
    | none => .error "ValidationError"
  else .error "PydanticSerializationError"

/-- `_normalize_query`. -/
def normalizeQuery (query : AuditQuery) : AuditQuery :=
  if query.maxLimit < query.limit then { query with limit := query.maxLimit } else query

def raiseWhen (condition : Prop) [Decidable condition] (message : String) : Except String Unit :=
  if condition then .error message else .ok ()

/-- `_validate_query`. -/
def validateQuery (query : AuditQuery) : Except String Unit := do
  raiseWhen (query.limit < 0) "Audit query limit must not be negative."
  raiseWhen (query.offset < 0) "Audit query offset must not be negative."
  raiseWhen (query.maxLimit ≤ 0) "Audit query max_limit must be positive."

/-- `query_audit_events` of an existing file, without the check of its integrity. -/
def queryAuditEvents (content : List UInt8) (query : AuditQuery) :
    Except String AuditQueryResult := do
  let query := normalizeQuery query
  validateQuery query
  let text ← readText content
  let (events, malformed) := readJsonlEvents text
  let since ← parseOptionalTimestamp query.since "since"
  let untilTime ← parseOptionalTimestamp query.untilTime "until"
  let filtered ← filterEvents query since untilTime events
  let filtered := if query.newestFirst then filtered.reverse else filtered
  let page := (filtered.drop query.offset.toNat).take query.limit.toNat
  let safePage ← page.mapM redactEvent
  return ⟨safePage, events.length, filtered.length, safePage.length, malformed,
    malformedWarnings malformed, query.limit, query.offset, query.newestFirst⟩

/-! ## What the pages are to hold -/

/-- The events of a log of valid bytes. -/
def logEvents (content : List UInt8) : List ChainedEvent :=
  (readJsonlEvents (Utf8.visible (Utf8.decode content))).1

def eventTime (event : ChainedEvent) : Option ℤ :=
  (parseTimestamp event.timestamp "event timestamp").toOption

/-- The event satisfies the filters of the query. -/
def satisfies (query : AuditQuery) (since untilTime : Option ℤ) (event : ChainedEvent) : Bool :=
  passesFields event query && (eventTime event).any (withinBounds since untilTime)

/-- A query whose bounds are dates and whose largest page is not empty. -/
structure Valid (query : AuditQuery) (since untilTime : Option ℤ) : Prop where
  since_eq : parseOptionalTimestamp query.since "since" = .ok since
  until_eq : parseOptionalTimestamp query.untilTime "until" = .ok untilTime
  maxLimit_pos : 0 < query.maxLimit

def matchingEvents (content : List UInt8) (query : AuditQuery) (since untilTime : Option ℤ) :
    List ChainedEvent :=
  let matching := (logEvents content).filter (satisfies query since untilTime)
  if query.newestFirst then matching.reverse else matching

/-- An event without its secrets. -/
def safeEvent (event : ChainedEvent) : ChainedEvent := (redactEvent event).toOption.getD event

/-- Every page of the size is answered, the pages account for every line that is not blank, and
together they are the matching events in their order. -/
structure Answered (content : List UInt8) (query : AuditQuery) (since untilTime : Option ℤ)
    (limit : ℕ) (pages : ℕ → AuditQueryResult) : Prop where
  answered : ∀ i : ℕ, queryAuditEvents content
    { query with limit := limit, offset := ((i * limit : ℕ) : ℤ) } = .ok (pages i)
  accounted : ∀ i, (pages i).totalScanned + (pages i).malformedCount =
    (nonBlankLines (Utf8.visible (Utf8.decode content))).length
  complete : ∀ n, (matchingEvents content query since untilTime).length ≤ n * limit →
    (List.range n).flatMap (fun i => (pages i).events) =
      (matchingEvents content query since untilTime).map safeEvent

/-! ## Lines -/

omit [UnicodeTables] in
/-- Every line that is not blank is an event or malformed. -/
theorem readLines_accounts (lines : List Text) :
    (readLines lines).1.length + (readLines lines).2 =
      (lines.filter fun line => strip line ≠ []).length := by
  induction lines with
  | nil => rfl
  | cons line lines ih =>
    rw [readLines, List.filter_cons]
    dsimp only
    split_ifs with hblank hkept
    · simp [hblank] at hkept
    · exact ih
    · rw [List.length_cons, ← ih]
      split
      · rw [List.length_cons]
        omega
      · exact (Nat.add_assoc _ _ 1).symm
    · simp_all

/-! ## Filtering -/

section Filters
variable {query : AuditQuery} {since untilTime : Option ℤ} {event : ChainedEvent}

omit [UnicodeTables] in
theorem matchesQuery_eq_ok {keep : Bool} :
    matchesQuery event query since untilTime = .ok keep ↔
      (passesFields event query = true → (eventTime event).isSome = true) ∧
        keep = satisfies query since untilTime event := by
  rw [matchesQuery, satisfies, eventTime]
  split_ifs with hpasses
  · cases parseTimestamp event.timestamp "event timestamp" with
    | error message => simp [Except.map, Except.toOption, hpasses]
    | ok time =>
      simp [Except.map, Except.toOption, hpasses]
      exact eq_comm
  · simp [hpasses]

omit [UnicodeTables] in
/-- The filter returns exactly when every event that passes the other filters has a date. -/
theorem filterEvents_eq_ok {events filtered : List ChainedEvent} :
    filterEvents query since untilTime events = .ok filtered ↔
      (∀ event ∈ events, passesFields event query = true → (eventTime event).isSome = true) ∧
        filtered = events.filter (satisfies query since untilTime) := by
  induction events generalizing filtered with
  | nil =>
    rw [filterEvents, List.filter_nil, Except.ok.injEq]
    exact ⟨fun h => ⟨by simp, h.symm⟩, fun h => h.2.symm⟩
  | cons event events ih =>
    rw [filterEvents, bind_eq_ok, List.forall_mem_cons, List.filter_cons]
    constructor
    · rintro ⟨keep, hkeep, hrest⟩
      obtain ⟨rest, hfiltered, hresult⟩ := bind_eq_ok.mp hrest
      obtain ⟨hdate, rfl⟩ := matchesQuery_eq_ok.mp hkeep
      obtain ⟨hdates, rfl⟩ := ih.mp hfiltered
      exact ⟨⟨hdate, hdates⟩, (Except.ok.inj hresult).symm⟩
    · rintro ⟨⟨hdate, hdates⟩, rfl⟩
      refine ⟨satisfies query since untilTime event, matchesQuery_eq_ok.mpr ⟨hdate, rfl⟩, ?_⟩
      rw [ih.mpr ⟨hdates, rfl⟩]
      rfl

end Filters

/-! ## Pages -/

/-- A loop that returns on every element collects the results. -/
theorem mapM_eq_ok {events : List ChainedEvent}
    (h : ∀ event ∈ events, ∃ safe, redactEvent event = .ok safe) :
    events.mapM redactEvent = .ok (events.map safeEvent) := by
  induction events with
  | nil => rfl
  | cons event events ih =>
    rw [List.forall_mem_cons] at h
    obtain ⟨⟨safe, hsafe⟩, hrest⟩ := h
    have hevent : safeEvent event = safe := by
      rw [safeEvent, hsafe]
      rfl
    rw [List.mapM_cons, hsafe, ih hrest, List.map_cons, hevent]
    rfl

omit [LogHost] [UnicodeTables] in
/-- The first pages are the first events. -/
theorem flatMap_pages {α : Type} (events : List α) (limit n : ℕ) :
    (List.range n).flatMap (fun i => (events.drop (i * limit)).take limit) =
      events.take (n * limit) := by
  induction n with
  | zero => simp
  | succ n ih =>
    rw [List.range_succ, List.flatMap_append, ih, List.flatMap_singleton, Nat.succ_mul,
      List.take_add]

section Pages
variable {content : List UInt8} {query : AuditQuery} {since untilTime : Option ℤ}

omit [LogHost] [UnicodeTables] in
theorem readText_eq_ok {text : Text} : readText content = .ok text ↔
    Utf8.IsUtf8 content ∧ text = Utf8.visible (Utf8.decode content) := by
  rw [readText]
  cases hencode : Utf8.encodeStrict (Utf8.decode content) with
  | none =>
    have hinvalid : ¬ Utf8.IsUtf8 content := by
      intro hvalid
      rw [Utf8.encodeStrict_decode.mpr ⟨rfl, hvalid⟩] at hencode
      cases hencode
    simp [hinvalid]
  | some encoded =>
    have hvalid := (Utf8.encodeStrict_decode.mp hencode).2
    simp only [Except.ok.injEq, hvalid, true_and]
    exact eq_comm

/-- When a page is answered, and what it holds. -/
theorem queryAuditEvents_eq_ok (hvalid : Valid query since untilTime) {limit offset : ℕ}
    (hlimit : (limit : ℤ) ≤ query.maxLimit) {result : AuditQueryResult} :
    queryAuditEvents content { query with limit := limit, offset := offset } = .ok result ↔
      Utf8.IsUtf8 content ∧
      (∀ event ∈ logEvents content, passesFields event query = true →
        (eventTime event).isSome = true) ∧
      ∃ page, (((matchingEvents content query since untilTime).drop offset).take limit).mapM
          redactEvent = .ok page ∧
        result = ⟨page, (logEvents content).length,
          (matchingEvents content query since untilTime).length, page.length,
          (readJsonlEvents (Utf8.visible (Utf8.decode content))).2,
          malformedWarnings (readJsonlEvents (Utf8.visible (Utf8.decode content))).2, limit, offset,
          query.newestFirst⟩ := by
  have hnormal : normalizeQuery { query with limit := limit, offset := offset } =
      { query with limit := limit, offset := offset } := if_neg (Int.not_lt.mpr hlimit)
  have hchecked : validateQuery { query with limit := limit, offset := offset } = .ok () := by
    have hpos := hvalid.maxLimit_pos
    simp only [validateQuery, raiseWhen, if_neg (Int.not_lt.mpr (Int.natCast_nonneg limit)),
      if_neg (Int.not_lt.mpr (Int.natCast_nonneg offset)), if_neg (Int.not_le.mpr hpos)]
    rfl
  simp only [queryAuditEvents, hnormal, bind_eq_ok, hchecked, hvalid.since_eq, hvalid.until_eq,
    readText_eq_ok, filterEvents_eq_ok, Except.ok.injEq, exists_eq_left', exists_const, true_and]
  constructor
  · rintro ⟨_, ⟨hutf8, rfl⟩, _, ⟨hdates, rfl⟩, page, hpage, hresult⟩
    exact ⟨hutf8, hdates, page, hpage, (Except.ok.inj hresult).symm⟩
  · rintro ⟨hutf8, hdates, page, hpage, rfl⟩
    exact ⟨_, ⟨hutf8, rfl⟩, _, ⟨hdates, rfl⟩, page, hpage, rfl⟩

/-- A log that cannot be read makes the query raise. -/
theorem queryAuditEvents_eq_error {message : String} (hread : readText content = .error message)
    (hchecked : validateQuery (normalizeQuery query) = .ok ()) :
    queryAuditEvents content query = .error message := by
  simp only [queryAuditEvents, hchecked, hread]
  rfl

/-- The events are read from valid bytes, have dates where the other filters let them pass, and
can be redacted where they match. -/
structure Readable (content : List UInt8) (query : AuditQuery) (since untilTime : Option ℤ) :
    Prop where
  utf8 : Utf8.IsUtf8 content
  dated : ∀ event ∈ logEvents content, passesFields event query = true →
    (eventTime event).isSome = true
  redactable : ∀ event ∈ matchingEvents content query since untilTime,
    ∃ safe, redactEvent event = .ok safe

theorem mapM_page {events page : List ChainedEvent} (h : events.mapM redactEvent = .ok page)
    {event : ChainedEvent} (hevent : event ∈ events) : ∃ safe, redactEvent event = .ok safe := by
  induction events generalizing page with
  | nil => cases hevent
  | cons first events ih =>
    rw [List.mapM_cons, bind_eq_ok] at h
    obtain ⟨safe, hsafe, hrest⟩ := h
    obtain ⟨rest, hmapped, _⟩ := bind_eq_ok.mp hrest
    rcases List.mem_cons.mp hevent with rfl | hmem
    · exact ⟨safe, hsafe⟩
    · exact ih hmapped hmem

end Pages

end Queries

namespace SampleLog
open PyText.Ascii

/-- Nothing in the sample logs is JSON. -/
local instance : LogHost := ⟨fun _ => none, fun _ => none, fun _ => true, ⟨"", "", "", ""⟩⟩

def query : AuditQuery :=
  ⟨none, none, none, none, none, none, none, none, none, 100, 0, 500, false⟩

theorem query_valid : Valid query none none := ⟨rfl, rfl, by decide⟩

/-- The line `x`. -/
def malformedLog : List UInt8 := [0x78, 0x0A]

theorem logEvents_malformedLog : logEvents malformedLog = [] := by decide +kernel

theorem malformedLog_readable : Readable malformedLog query none none where
  utf8 := ⟨['x', '\n'], by decide⟩
  dated := by simp [logEvents_malformedLog]
  redactable := by simp [matchingEvents, logEvents_malformedLog]

end SampleLog

end Rygnal.Audit
