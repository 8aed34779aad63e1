import Rygnal.Audit.HashChain
import Rygnal.Cli.LocalReview
import Rygnal.Library.Transition

/-! # One log for the engine and the command line

The audit log of a repository: Python loggers append under the lock of the file, bound to the hash
of the last line, and `appendLocalDecisionAuditEvent` appends the event of a local decision, which
has another schema and takes no lock.
-/

namespace Rygnal.Audit
open Rygnal.Core Rygnal.Library Rygnal.Interceptor Rygnal.Cli Transition

/-! ## The two writers -/

/-- A Go field with `omitempty`. -/
def omitEmpty (key value : String) : Dict := if value = "" then [] else [(key, .str value)]

/-- The line that `appendLocalDecisionAuditEvent` writes. -/
def localDecisionAuditEvent (decision : LocalDecisionRecord) : Dict :=
  [("schema", .str "rygnal.local_decision_event.v2"),
    ("event", .str ("local_decision." ++ decision.status)), ("run_id", .str decision.runId)] ++
  omitEmpty "approval_id" decision.approvalId ++
  [("status", .str decision.status), ("decided_at", .str decision.decidedAt),
    ("decided_by", .str decision.decidedBy)] ++
  omitEmpty "reason" decision.reason ++ omitEmpty "patch_sha256" decision.patchSha256 ++
  omitEmpty "baseline_commit_sha" decision.baselineCommitSha ++
  omitEmpty "engine_protocol_version" decision.engineProtocolVersion ++
  omitEmpty "rygnal_version" decision.rygnalVersion ++ omitEmpty "authority" decision.authority ++
  [("authority_synchronized", .bool decision.authoritySynchronized)] ++
  omitEmpty "receipt_sha256" decision.receiptSha256

/-- An event that a logger was asked to write; its metadata is a dictionary. -/
structure LoggedEvent where
  event : ChainedEvent
  entries : Dict
  metadata : event.metadata = .dict entries

/-- The lines of the file, and the logger that holds the lock with the hash it read. -/
structure LogFile where
  lines : List Dict
  holder : Option (ℕ × Option String)

inductive LogStep where
  /-- A logger takes the lock and reads the last hash. -/
  | lock (logger : ℕ)
  /-- It writes its event and releases the lock. -/
  | write (logger : ℕ) (logged : LoggedEvent)
  /-- It fails or ends before it wrote. -/
  | abandon (logger : ℕ)
  | decide (decision : LocalDecisionRecord)

section Log
variable [FloatText] [Digest]

def logStep (file : LogFile) : LogStep → Option LogFile
  | .lock logger =>
    if file.holder = none then some { file with holder := some (logger, lastHash file.lines) }
    else none
  | .write logger logged =>
    match file.holder with
    | some (holder, previousHash) =>
      if holder = logger then
        some ⟨file.lines ++ [(bindEvent logged.event previousHash).payload], none⟩
      else none
    | none => none
  | .abandon logger =>
    if file.holder.map Prod.fst = some logger then some { file with holder := none } else none
  | .decide decision =>
    some { file with lines := file.lines ++ [localDecisionAuditEvent decision] }

def emptyLog : LogFile := ⟨[], none⟩

/-! ## What has to hold -/

/-- The events of the lines that are events at all. -/
def pythonEvents (defaults : EventDefaults) (lines : List Dict) : List ChainedEvent :=
  lines.filterMap (eventOfPayload defaults)

/-- Each event names the hash of the one before it. -/
def Linked : Option String → List ChainedEvent → Prop
  | _, [] => True
  | previousHash, event :: events =>
    event.prevEventHash = previousHash ∧ Linked event.eventHash events

/-- The Python events form one chain, and the log is read and verified. -/
structure Intact (defaults : EventDefaults) (lines : List Dict) : Prop where
  linked : Linked none (pythonEvents defaults lines)
  read : ∃ events, readEvents defaults lines = some events
  verified : verifyIntegrity defaults lines = some true

/-- No local decision is appended. -/
def IsLoggerStep : LogStep → Prop
  | .decide _ => False
  | _ => True

/-! ## Logs without local decisions -/

omit [FloatText] [Digest] in
theorem linked_of_verifyChain [FloatText] [Digest] {previousHash : Option String}
    {events : List ChainedEvent} (h : verifyChain previousHash events = true) :
    Linked previousHash events := by
  induction events generalizing previousHash with
  | nil => trivial
  | cons event events ih =>
    simp only [verifyChain, Bool.and_eq_true, decide_eq_true_eq] at h
    exact ⟨h.1.1, ih h.2⟩

theorem ChainOf.intact {lines : List Dict} {events : List ChainedEvent} (h : ChainOf lines events)
    (defaults : EventDefaults) : Intact defaults lines := by
  have hread := h.readEvents defaults
  refine ⟨?_, ⟨_, hread⟩, h.verifyIntegrity defaults⟩
  have hevents : pythonEvents defaults lines = events.map ChainedEvent.reread := by
    rw [pythonEvents, h.payloads, List.filterMap_map, ← List.filterMap_eq_map]
    apply List.filterMap_congr
    intro event hevent
    have ⟨_, hmetadata⟩ := h.metadata event hevent
    rw [Function.comp_apply, Function.comp_apply, eventOfPayload_payload defaults hmetadata]
  rw [hevents]
  apply linked_of_verifyChain
  rw [verifyChain_reread, h.verified]

/-- Between the steps of the loggers, the holder knows the last hash. -/
structure Chained (file : LogFile) : Prop where
  chain : ∃ events, ChainOf file.lines events
  holder : ∀ logger hash, file.holder = some (logger, hash) → hash = lastHash file.lines

theorem Chained.step {file next : LogFile} {label : LogStep} (h : Chained file)
    (hlogger : IsLoggerStep label) (hstep : logStep file label = some next) : Chained next := by
  obtain ⟨events, hchain⟩ := h.chain
  cases label with
  | lock logger =>
    rw [logStep] at hstep
    split at hstep
    · obtain rfl := Option.some.inj hstep
      refine ⟨⟨events, hchain⟩, ?_⟩
      intro _ _ hholder
      exact (Prod.mk.inj (Option.some.inj hholder)).2.symm
    · nomatch hstep
  | write logger logged =>
    rw [logStep] at hstep
    split at hstep
    · rename_i holder previousHash hholder
      split at hstep
      · obtain rfl := Option.some.inj hstep
        have hhash := h.holder holder previousHash hholder
        subst hhash
        refine ⟨⟨_, hchain.append logged.event ⟨logged.entries, logged.metadata⟩⟩, ?_⟩
        intro _ _ hnone
        nomatch hnone
      · nomatch hstep
    · nomatch hstep
  | abandon logger =>
    rw [logStep] at hstep
    split at hstep
    · obtain rfl := Option.some.inj hstep
      refine ⟨⟨events, hchain⟩, ?_⟩
      intro _ _ hnone
      nomatch hnone
    · nomatch hstep
  | decide decision => exact hlogger.elim

/-! ## Logs with a local decision -/

omit [FloatText] [Digest] in
/-- The event of a local decision names no user, so it is no audit event. -/
theorem eventOfPayload_localDecision (defaults : EventDefaults) (decision : LocalDecisionRecord) :
    eventOfPayload defaults (localDecisionAuditEvent decision) = none := by
  have homit (key value : String) (hkey : key ≠ "user_id") :
      ∀ entry ∈ omitEmpty key value, entry.1 ≠ "user_id" := by
    intro entry hentry
    rw [omitEmpty] at hentry
    split at hentry
    · nomatch hentry
    · rw [List.mem_singleton.mp hentry]
      exact hkey
  have hkeys : ∀ entry ∈ localDecisionAuditEvent decision, entry.1 ≠ "user_id" := by
    simp only [localDecisionAuditEvent, List.forall_mem_append]
    and_intros
    all_goals first
      | exact homit _ _ (by decide)
      | simp
  have huser : (localDecisionAuditEvent decision).get "user_id" = none := by
    rw [PyDict.get, List.lookup_eq_none_iff]
    intro entry hentry
    simpa using Ne.symm (hkeys entry hentry)
  have hfield : textField (localDecisionAuditEvent decision) "user_id" = none := by
    rw [textField, huser]
  rw [eventOfPayload, hfield, Option.bind_eq_bind, Option.bind_none]

omit [FloatText] [Digest] in
theorem readEvents_eq_none {defaults : EventDefaults} {lines : List Dict} {line : Dict}
    (hmem : line ∈ lines) (hline : eventOfPayload defaults line = none) :
    readEvents defaults lines = none := by
  induction lines with
  | nil => nomatch hmem
  | cons first lines ih =>
    rw [readEvents, List.mapM_cons]
    rcases List.mem_cons.mp hmem with rfl | hmem
    · rw [hline, Option.bind_eq_bind, Option.bind_none]
    · have hrest := ih hmem
      rw [readEvents] at hrest
      rw [hrest]
      simp only [Option.bind_eq_bind, Option.bind_none, Option.bind_fun_none]

/-- The lines of the log stay. -/
theorem mem_of_logStep {file next : LogFile} {label : LogStep}
    (hstep : logStep file label = some next) {line : Dict} (hline : line ∈ file.lines) :
    line ∈ next.lines := by
  cases label with
  | lock logger =>
    rw [logStep] at hstep
    split at hstep
    · exact Option.some.inj hstep ▸ hline
    · nomatch hstep
  | write logger logged =>
    rw [logStep] at hstep
    split at hstep
    · split at hstep
      · exact Option.some.inj hstep ▸ List.mem_append_left _ hline
      · nomatch hstep
    · nomatch hstep
  | abandon logger =>
    rw [logStep] at hstep
    split at hstep
    · exact Option.some.inj hstep ▸ hline
    · nomatch hstep
  | decide decision => exact Option.some.inj hstep ▸ List.mem_append_left _ hline

/-- A local decision leaves its line in the log. -/
theorem mem_of_decide {decision : LocalDecisionRecord} {labels : List LogStep}
    (hdecide : .decide decision ∈ labels) {start file : LogFile}
    (h : run logStep start labels = some file) :
    localDecisionAuditEvent decision ∈ file.lines := by
  have ⟨before, after, hsplit⟩ := List.append_of_mem hdecide
  rw [hsplit] at h
  have ⟨_, _, hafter⟩ := run_append_eq_some.mp h
  have ⟨next, hstep, hrest⟩ := run_cons_eq_some.mp hafter
  have hline : localDecisionAuditEvent decision ∈ next.lines := by
    rw [logStep] at hstep
    exact Option.some.inj hstep ▸ List.mem_append_right _ (List.mem_singleton_self _)
  exact run_invariant (fun _ _ _ hmem hstep => mem_of_logStep hstep hmem) hline hrest

end Log

/-! ## Concrete logs -/

namespace Sample

instance : FloatText := Json.fractionText

/-- A digest that tells no texts apart. -/
instance : Digest := ⟨fun _ => "digest"⟩

def defaults : EventDefaults := ⟨"1.0", "event", "now", "trace"⟩

/-- An engine event. -/
def runEvent (eventId : String) : LoggedEvent where
  event := { traceId := "trace", userId := "user", agentId := "agent", environment := "local"
             toolName := "guarded_run", action := none, target := .none, input := .none
             decision := .allow, allowed := true, severity := .low, policyId := none
             reason := "Completed.", metadata := .dict [], schemaVersion := "audit.v2"
             rygnalPackageVersion := "1.0", eventId, timestamp := "now", prevEventHash := none
             eventHash := none }
  entries := []
  metadata := rfl

def approval : LocalDecisionRecord :=
  ⟨"rygnal.local_decision.v2", "run", "approval", "approved", "now", "user", "Reviewed.", "digest",
    "base", "rygnal.engine.v1", "1.0", "local", false, "digest"⟩

def engineRuns : List LogStep :=
  [.lock 0, .write 0 (runEvent "first"), .lock 1, .write 1 (runEvent "second")]

def approvedBetween : List LogStep :=
  [.lock 0, .write 0 (runEvent "first"), .decide approval, .lock 1, .write 1 (runEvent "second")]

end Sample

end Rygnal.Audit
