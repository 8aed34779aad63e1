import Rygnal.Core.JsonReading
import Rygnal.Core.JsonText
import Rygnal.Interceptor.Intercept

/-! # Hash-chained audit events

`audit_logger.py`: the hash of an event, the events read back from their JSON payloads and the
check of the chain. A payload is the dictionary that its JSON text encodes.
-/

namespace Rygnal.Audit
open Rygnal.Core Rygnal.Library Rygnal.Interceptor

/-- An `AuditEvent` with all its fields. -/
structure ChainedEvent extends AuditEvent where
  schemaVersion : String
  rygnalPackageVersion : String
  eventId : String
  timestamp : String
  prevEventHash : Option String
  eventHash : Option String
deriving DecidableEq, Repr

namespace ChainedEvent

/-- `model_dump(mode="json")`; every use writes it to JSON, where tuples become lists. -/
def modelDump (event : ChainedEvent) : Dict :=
  [("schema_version", .str event.schemaVersion),
    ("rygnal_package_version", .str event.rygnalPackageVersion), ("event_id", .str event.eventId),
    ("timestamp", .str event.timestamp), ("trace_id", .str event.traceId),
    ("user_id", .str event.userId), ("agent_id", .str event.agentId),
    ("environment", .str event.environment), ("tool_name", .str event.toolName),
    ("action", optionValue event.action), ("target", event.target), ("input", event.input),
    ("decision", .str event.decision.value), ("allowed", .bool event.allowed),
    ("severity", .str event.severity.value), ("policy_id", optionValue event.policyId),
    ("reason", .str event.reason), ("metadata", event.metadata),
    ("prev_event_hash", optionValue event.prevEventHash),
    ("event_hash", optionValue event.eventHash)]

/-- The payload that `_calculate_event_hash` digests. -/
def hashedPayload (event : ChainedEvent) : Dict :=
  let data := { event with eventHash := none }.modelDump
  if event.schemaVersion = "audit.v1" then data.filter fun e => e.1 ≠ "rygnal_package_version"
  else data

/-- The payload as it is read back from its JSON text. -/
def payload (event : ChainedEvent) : Dict := jsonDict event.modelDump

end ChainedEvent

/-! ## Reading events -/

/-- The values of the fields with a default factory, when a payload lacks them. -/
structure EventDefaults where
  packageVersion : String
  eventId : String
  timestamp : String
  traceId : String

def decisionOf (value : String) : Option Decision :=
  [Decision.allow, .block, .requireApproval, .simulate].find? fun d => d.value = value

def severityOf (value : String) : Option Severity :=
  [Severity.low, .medium, .high, .critical].find? fun s => s.value = value

/-- A required text field. -/
def textField (payload : Dict) (key : String) : Option String :=
  match payload.get key with
  | some (.str s) => some s
  | _ => none

/-- A text field with a default. -/
def defaultedField (payload : Dict) (key default : String) : Option String :=
  match payload.get key with
  | none => some default
  | some (.str s) => some s
  | some _ => none

/-- A field of type `str | None`. -/
def optionalField (payload : Dict) (key : String) : Option (Option String) :=
  match payload.get key with
  | none | some .none => some none
  | some (.str s) => some (some s)
  | some _ => none

/-- `AuditEvent(**payload)`; no writer of the log relies on a conversion of types. -/
def eventOfPayload (defaults : EventDefaults) (payload : Dict) : Option ChainedEvent := do
  let userId ← textField payload "user_id"
  let agentId ← textField payload "agent_id"
  let environment ← textField payload "environment"
  let toolName ← textField payload "tool_name"
  let schemaVersion ← defaultedField payload "schema_version" "audit.v2"
  let rygnalPackageVersion ←
    defaultedField payload "rygnal_package_version" defaults.packageVersion
  let eventId ← defaultedField payload "event_id" defaults.eventId
  let timestamp ← defaultedField payload "timestamp" defaults.timestamp
  let traceId ← defaultedField payload "trace_id" defaults.traceId
  let action ← optionalField payload "action"
  let decision ← (← textField payload "decision") |> decisionOf
  let allowed ← match payload.get "allowed" with
    | some (.bool b) => some b
    | _ => none
  let severity ← (← textField payload "severity") |> severityOf
  let policyId ← optionalField payload "policy_id"
  let reason ← textField payload "reason"
  let metadata ← match payload.get "metadata" with
    | none => some (.dict [])
    | some (.dict d) => some (.dict d)
    | some _ => none
  let prevEventHash ← optionalField payload "prev_event_hash"
  let eventHash ← optionalField payload "event_hash"
  return {
    traceId, userId, agentId, environment, toolName, action, decision, allowed, severity, policyId,
    reason, metadata, schemaVersion, rygnalPackageVersion, eventId, timestamp, prevEventHash,
    eventHash
    target := (payload.get "target").getD .none
    input := (payload.get "input").getD .none }

/-- `read_events`; `none` when a line is no event. -/
def readEvents (defaults : EventDefaults) (lines : List Dict) : Option (List ChainedEvent) :=
  lines.mapM (eventOfPayload defaults)

/-! ## The hash chain -/

section Hashes
variable [FloatText] [Digest]

/-- The text that `_calculate_event_hash` digests. -/
def hashedText (event : ChainedEvent) : String :=
  String.ofList (Value.canonicalJson (.dict event.hashedPayload))

/-- `_calculate_event_hash`. -/
def calculateEventHash (event : ChainedEvent) : String := Digest.sha256 (hashedText event)

/-- The loop of `verify_integrity`. -/
def verifyChain (previousHash : Option String) : List ChainedEvent → Bool
  | [] => true
  | event :: events =>
    event.prevEventHash = previousHash && some (calculateEventHash event) = event.eventHash &&
      verifyChain event.eventHash events

/-- `verify_integrity`; `none` when the log cannot be read. -/
def verifyIntegrity (defaults : EventDefaults) (lines : List Dict) : Option Bool :=
  (readEvents defaults lines).map (verifyChain none)

/-- The hashes that `write_event` sets on an event. -/
def bindEvent (event : ChainedEvent) (previousHash : Option String) : ChainedEvent :=
  let bound := { event with prevEventHash := previousHash }
  { bound with eventHash := some (calculateEventHash bound) }

end Hashes

/-- `_last_hash_from_handle`. -/
def lastHash (lines : List Dict) : Option String :=
  match lines.getLast?.bind fun payload => payload.get "event_hash" with
  | some (.str hash) => some hash
  | _ => none

end Rygnal.Audit
