import Rygnal.Audit.AuditLogger

/-! # The hash chain determines its events

An event is read back from its payload up to the order of dictionaries, its hash does not change
by that, and the text behind a hash determines every field that the hash covers.
-/

namespace Rygnal.Audit
open Rygnal.Core Rygnal.Library Rygnal.Interceptor

/-! ## Entries of payloads -/

theorem get_filter_ne (d : Dict) (removed key : String) :
    PyDict.get (d.filter fun e => e.1 ≠ removed) key =
      if key = removed then none else PyDict.get d key := by
  induction d with
  | nil => simp
  | cons e d ih =>
    obtain ⟨k, v⟩ := e
    rw [List.filter_cons, PyDict.get_cons]
    by_cases hk : k = removed
    · simp only [hk, ne_eq, not_true_eq_false, decide_false, Bool.false_eq_true, if_false, ih]
      by_cases hkey : key = removed
      · simp [hkey]
      · simp [hkey, Ne.symm hkey]
    · simp only [ne_eq, hk, not_false_eq_true, decide_true, if_true]
      rw [PyDict.get_cons, ih]
      by_cases hkey : k = key
      · simp [← hkey, hk]
      · simp [hkey]

theorem optionValue_injective : Function.Injective optionValue := by
  intro a b h
  cases a <;> cases b <;> simp_all [optionValue]

theorem decisionOf_value (d : Decision) : decisionOf d.value = some d := by
  cases d <;> decide

theorem severityOf_value (s : Severity) : severityOf s.value = some s := by
  cases s <;> decide

namespace ChainedEvent

/-- The event with its free values as JSON gives them back. -/
def reread (event : ChainedEvent) : ChainedEvent :=
  { event with
    target := event.target.jsonRoundTrip
    input := event.input.jsonRoundTrip
    metadata := event.metadata.jsonRoundTrip }

theorem keys_modelDump (event : ChainedEvent) : event.modelDump.map Prod.fst =
    ["schema_version", "rygnal_package_version", "event_id", "timestamp", "trace_id", "user_id",
      "agent_id", "environment", "tool_name", "action", "target", "input", "decision", "allowed",
      "severity", "policy_id", "reason", "metadata", "prev_event_hash", "event_hash"] := rfl

theorem nodup_modelDump (event : ChainedEvent) : (event.modelDump.map Prod.fst).Nodup := by
  rw [keys_modelDump]
  decide

@[simp] theorem jsonRoundTrip_optionValue (text : Option String) :
    (optionValue text).jsonRoundTrip = optionValue text := by
  cases text <;> rfl

theorem modelDump_reread (event : ChainedEvent) :
    event.reread.modelDump = Value.jsonRoundTripEntries event.modelDump := by
  simp [modelDump, reread, Value.jsonRoundTripEntries, Value.jsonRoundTrip]

theorem hashedPayload_reread (event : ChainedEvent) :
    event.reread.hashedPayload = Value.jsonRoundTripEntries event.hashedPayload := by
  have hdump := modelDump_reread { event with eventHash := none }
  have hreread : ({ event with eventHash := none } : ChainedEvent).reread =
      { event.reread with eventHash := none } := rfl
  rw [hreread] at hdump
  rw [hashedPayload, hashedPayload, hdump]
  change (if event.schemaVersion = "audit.v1" then _ else _) = _
  split
  · rw [jsonRoundTripEntries_eq_map, jsonRoundTripEntries_eq_map, List.filter_map]
    rfl
  · rfl

end ChainedEvent

open ChainedEvent

section Fields
variable {payload : Dict} {key : String}

theorem textField_of_get {s : String} (h : payload.get key = some (.str s)) :
    textField payload key = some s := by
  rw [textField, h]

theorem defaultedField_of_get {default s : String} (h : payload.get key = some (.str s)) :
    defaultedField payload key default = some s := by
  rw [defaultedField, h]

theorem optionalField_of_get {s : Option String} (h : payload.get key = some (optionValue s)) :
    optionalField payload key = some s := by
  rw [optionalField, h]
  cases s <;> rfl

end Fields

theorem get_payload {event : ChainedEvent} {key : String} {v : Value}
    (h : event.modelDump.get key = some v) : event.payload.get key = some v.jsonRoundTrip := by
  rw [payload, get_jsonDict event.nodup_modelDump, h, Option.map_some]

/-- A payload is read back as the event it was dumped from. -/
theorem eventOfPayload_payload (defaults : EventDefaults) {event : ChainedEvent} {d : Dict}
    (hmetadata : event.metadata = .dict d) :
    eventOfPayload defaults event.payload = some event.reread := by
  have htext {key s : String} (h : event.modelDump.get key = some (.str s)) :
      event.payload.get key = some (.str s) := get_payload h
  have hoption {key : String} {s : Option String}
      (h : event.modelDump.get key = some (optionValue s)) :
      event.payload.get key = some (optionValue s) := by
    rw [get_payload h, jsonRoundTrip_optionValue]
  have hallowed : event.payload.get "allowed" = some (.bool event.allowed) :=
    get_payload (v := .bool event.allowed) rfl
  have hdict : event.payload.get "metadata" = some (.dict (jsonDict d)) := by
    rw [get_payload (v := event.metadata) rfl, hmetadata]
    rfl
  have htarget : event.payload.get "target" = some event.target.jsonRoundTrip := get_payload rfl
  have hinput : event.payload.get "input" = some event.input.jsonRoundTrip := get_payload rfl
  rw [eventOfPayload, defaultedField_of_get (htext (s := event.schemaVersion) rfl),
    defaultedField_of_get (htext (s := event.rygnalPackageVersion) rfl),
    defaultedField_of_get (htext (s := event.eventId) rfl),
    defaultedField_of_get (htext (s := event.timestamp) rfl),
    defaultedField_of_get (htext (s := event.traceId) rfl),
    textField_of_get (htext (s := event.userId) rfl),
    textField_of_get (htext (s := event.agentId) rfl),
    textField_of_get (htext (s := event.environment) rfl),
    textField_of_get (htext (s := event.toolName) rfl),
    optionalField_of_get (hoption (s := event.action) rfl),
    textField_of_get (htext (s := event.decision.value) rfl),
    textField_of_get (htext (s := event.severity.value) rfl),
    optionalField_of_get (hoption (s := event.policyId) rfl),
    textField_of_get (htext (s := event.reason) rfl),
    optionalField_of_get (hoption (s := event.prevEventHash) rfl),
    optionalField_of_get (hoption (s := event.eventHash) rfl), hallowed, hdict, htarget, hinput]
  simp [decisionOf_value, severityOf_value, reread, hmetadata, Value.jsonRoundTrip, jsonDict]

section Hashes
variable [FloatText] [Digest]

/-- Reading an event back keeps its hash. -/
theorem calculateEventHash_reread (event : ChainedEvent) :
    calculateEventHash event.reread = calculateEventHash event := by
  have hentries : jsonDict (Value.jsonRoundTripEntries event.hashedPayload) =
      jsonDict event.hashedPayload := by
    rw [jsonDict, jsonDict, jsonRoundTripEntries_idem]
  rw [calculateEventHash, calculateEventHash, hashedText, hashedText, Value.canonicalJson,
    Value.canonicalJson, hashedPayload_reread]
  change Digest.sha256 (String.ofList (Value.text (.dict (jsonDict _)))) = _
  rw [hentries]
  rfl

/-! ## What a hash determines -/

/-- Two events agree in every field, those of the first schema up to the package version. -/
def SameEvent (event other : ChainedEvent) : Prop :=
  event.reread = { other.reread with
    rygnalPackageVersion :=
      if other.schemaVersion = "audit.v1" then event.rygnalPackageVersion
      else other.rygnalPackageVersion }

omit [FloatText] [Digest] in
theorem nodup_hashedPayload (event : ChainedEvent) : (event.hashedPayload.map Prod.fst).Nodup := by
  rw [hashedPayload]
  split
  · exact (nodup_modelDump { event with eventHash := none }).sublist
      (List.filter_sublist.map Prod.fst)
  · exact nodup_modelDump { event with eventHash := none }

omit [FloatText] [Digest] in
theorem get_hashedPayload (event : ChainedEvent) (key : String) :
    event.hashedPayload.get key =
      if event.schemaVersion = "audit.v1" ∧ key = "rygnal_package_version" then none
      else PyDict.get { event with eventHash := none }.modelDump key := by
  rw [hashedPayload]
  by_cases hschema : event.schemaVersion = "audit.v1"
  · simp only [hschema, if_true, true_and]
    exact get_filter_ne _ _ _
  · simp only [hschema, if_false, false_and]

omit [Digest] in
/-- The text behind a hash determines the event up to its own hash. -/
theorem sameEvent_of_hashedText [LawfulFloatText] {event other : ChainedEvent}
    (h : hashedText event = hashedText other) (hhash : event.eventHash = other.eventHash) :
    SameEvent event other := by
  have hdict : jsonDict event.hashedPayload = jsonDict other.hashedPayload :=
    Value.dict.inj (Value.canonicalJson_injective (String.ofList_injective h))
  have hget (key : String) : (event.hashedPayload.get key).map Value.jsonRoundTrip =
      (other.hashedPayload.get key).map Value.jsonRoundTrip := by
    rw [← get_jsonDict (nodup_hashedPayload event), ← get_jsonDict (nodup_hashedPayload other),
      hdict]
  simp only [get_hashedPayload] at hget
  have hfield (key : String) (hkey : key ≠ "rygnal_package_version") :
      (PyDict.get { event with eventHash := none }.modelDump key).map Value.jsonRoundTrip =
        (PyDict.get { other with eventHash := none }.modelDump key).map Value.jsonRoundTrip := by
    have hvalue := hget key
    simpa only [hkey, and_false, if_false] using hvalue
  have hvalue (key : String) (v w : Value) (hkey : key ≠ "rygnal_package_version")
      (hv : PyDict.get { event with eventHash := none }.modelDump key = some v)
      (hw : PyDict.get { other with eventHash := none }.modelDump key = some w) :
      v.jsonRoundTrip = w.jsonRoundTrip := by
    have heq := hfield key hkey
    rw [hv, hw] at heq
    exact Option.some.inj heq
  have htext (key s t : String) (hkey : key ≠ "rygnal_package_version")
      (hs : PyDict.get { event with eventHash := none }.modelDump key = some (.str s))
      (ht : PyDict.get { other with eventHash := none }.modelDump key = some (.str t)) : s = t :=
    Value.str.inj (hvalue key (.str s) (.str t) hkey hs ht)
  have hoption (key : String) (s t : Option String) (hkey : key ≠ "rygnal_package_version")
      (hs : PyDict.get { event with eventHash := none }.modelDump key = some (optionValue s))
      (ht : PyDict.get { other with eventHash := none }.modelDump key = some (optionValue t)) :
      s = t := by
    have heq := hvalue key _ _ hkey hs ht
    rw [jsonRoundTrip_optionValue, jsonRoundTrip_optionValue] at heq
    exact optionValue_injective heq
  have hschema := htext "schema_version" event.schemaVersion other.schemaVersion (by decide) rfl rfl
  have hpackage : other.schemaVersion ≠ "audit.v1" →
      event.rygnalPackageVersion = other.rygnalPackageVersion := by
    intro hv2
    have heq := hget "rygnal_package_version"
    simp only [hschema, hv2, false_and, if_false] at heq
    exact Value.str.inj (Option.some.inj heq)
  have hdecision : event.decision = other.decision := by
    have heq := htext "decision" event.decision.value other.decision.value (by decide) rfl rfl
    have hsome := congrArg decisionOf heq
    rw [decisionOf_value, decisionOf_value] at hsome
    exact Option.some.inj hsome
  have hseverity : event.severity = other.severity := by
    have heq := htext "severity" event.severity.value other.severity.value (by decide) rfl rfl
    have hsome := congrArg severityOf heq
    rw [severityOf_value, severityOf_value] at hsome
    exact Option.some.inj hsome
  have hallowed : event.allowed = other.allowed :=
    Value.bool.inj (hvalue "allowed" (.bool event.allowed) (.bool other.allowed) (by decide) rfl rfl)
  have htarget := hvalue "target" event.target other.target (by decide) rfl rfl
  have hinput := hvalue "input" event.input other.input (by decide) rfl rfl
  have hmetadata := hvalue "metadata" event.metadata other.metadata (by decide) rfl rfl
  have heventId := htext "event_id" event.eventId other.eventId (by decide) rfl rfl
  have htimestamp := htext "timestamp" event.timestamp other.timestamp (by decide) rfl rfl
  have htrace := htext "trace_id" event.traceId other.traceId (by decide) rfl rfl
  have huser := htext "user_id" event.userId other.userId (by decide) rfl rfl
  have hagent := htext "agent_id" event.agentId other.agentId (by decide) rfl rfl
  have henvironment := htext "environment" event.environment other.environment (by decide) rfl rfl
  have htool := htext "tool_name" event.toolName other.toolName (by decide) rfl rfl
  have haction := hoption "action" event.action other.action (by decide) rfl rfl
  have hpolicy := hoption "policy_id" event.policyId other.policyId (by decide) rfl rfl
  have hreason := htext "reason" event.reason other.reason (by decide) rfl rfl
  have hprevious := hoption "prev_event_hash" event.prevEventHash other.prevEventHash (by decide) rfl
    rfl
  clear h hdict hget hfield hvalue htext hoption
  rw [SameEvent]
  by_cases hv1 : other.schemaVersion = "audit.v1"
  · rw [if_pos hv1]
    obtain ⟨event, _⟩ := event
    obtain ⟨other, _⟩ := other
    cases event
    cases other
    simp_all [reread]
  · have hversion := hpackage hv1
    rw [if_neg hv1]
    obtain ⟨event, _⟩ := event
    obtain ⟨other, _⟩ := other
    cases event
    cases other
    simp_all [reread]

/-! ## Chains -/

/-- The hash in which a chain ends. -/
def chainHead (previousHash : Option String) (events : List ChainedEvent) : Option String :=
  (events.getLast?.map ChainedEvent.eventHash).getD previousHash

omit [FloatText] [Digest] in
@[simp] theorem chainHead_nil (previousHash : Option String) :
    chainHead previousHash [] = previousHash := rfl

omit [FloatText] [Digest] in
@[simp] theorem chainHead_append (previousHash : Option String) (events : List ChainedEvent)
    (event : ChainedEvent) : chainHead previousHash (events ++ [event]) = event.eventHash := by
  simp [chainHead]

omit [FloatText] [Digest] in
theorem chainHead_cons (previousHash : Option String) (event : ChainedEvent)
    (events : List ChainedEvent) :
    chainHead previousHash (event :: events) = chainHead event.eventHash events := by
  cases events with
  | nil => rfl
  | cons next events =>
    rw [chainHead, chainHead, List.getLast?_cons_cons, List.getLast?_cons]
    rfl

theorem verifyChain_append (previousHash : Option String) (events : List ChainedEvent)
    (event : ChainedEvent) :
    verifyChain previousHash (events ++ [event]) = true ↔
      verifyChain previousHash events = true ∧
        event.prevEventHash = chainHead previousHash events ∧
        some (calculateEventHash event) = event.eventHash := by
  induction events generalizing previousHash with
  | nil => simp [verifyChain]
  | cons first events ih =>
    rw [List.cons_append, verifyChain, verifyChain, chainHead_cons]
    simp only [Bool.and_eq_true, ih]
    tauto

theorem verifyChain_reread (previousHash : Option String) (events : List ChainedEvent) :
    verifyChain previousHash (events.map reread) = verifyChain previousHash events := by
  induction events generalizing previousHash with
  | nil => rfl
  | cons event events ih =>
    rw [List.map_cons, verifyChain, verifyChain, ih, calculateEventHash_reread]
    rfl

/-- Two events that hash to the same digest have the same text. -/
def CollisionFree (events others : List ChainedEvent) : Prop :=
  ∀ event ∈ events, ∀ other ∈ others,
    calculateEventHash event = calculateEventHash other → hashedText event = hashedText other

/-- Verified chains of one length that end in the same hash hold the same events. -/
theorem sameEvents_of_chainHead [LawfulFloatText] {events others : List ChainedEvent}
    (hlength : events.length = others.length) (hevents : verifyChain none events = true)
    (hothers : verifyChain none others = true)
    (hhead : chainHead none events = chainHead none others) (hfree : CollisionFree events others) :
    List.Forall₂ SameEvent events others := by
  induction events using List.reverseRecOn generalizing others with
  | nil =>
    rw [List.length_nil, eq_comm, List.length_eq_zero_iff] at hlength
    rw [hlength]
    exact .nil
  | append_singleton events event ih =>
    induction others using List.reverseRecOn with
    | nil => simp at hlength
    | append_singleton others other =>
      have ⟨hverified, hprevious, hhash⟩ := (verifyChain_append none events event).mp hevents
      have ⟨hverified', hprevious', hhash'⟩ := (verifyChain_append none others other).mp hothers
      rw [chainHead_append, chainHead_append] at hhead
      have hdigest : calculateEventHash event = calculateEventHash other :=
        Option.some.inj (hhash.trans (hhead.trans hhash'.symm))
      have hsame : SameEvent event other :=
        sameEvent_of_hashedText (hfree event (by simp) other (by simp) hdigest) hhead
      rw [SameEvent] at hsame
      have hprev := congrArg ChainedEvent.prevEventHash hsame
      change event.prevEventHash = other.prevEventHash at hprev
      have hrest : List.Forall₂ SameEvent events others := by
        apply ih _ hverified hverified'
        · rw [← hprevious, ← hprevious', hprev]
        · intro e he f hf
          exact hfree e (List.mem_append_left _ he) f (List.mem_append_left _ hf)
        · simpa using hlength
      exact List.rel_append hrest (.cons hsame .nil)

/-! ## Logs -/

/-- The lines of a log are the payloads of a verified chain of events. -/
structure ChainOf (lines : List Dict) (events : List ChainedEvent) : Prop where
  payloads : lines = events.map ChainedEvent.payload
  metadata : ∀ event ∈ events, ∃ d, event.metadata = .dict d
  verified : verifyChain none events = true

namespace ChainOf
variable {lines : List Dict} {events : List ChainedEvent}

theorem empty : ChainOf [] [] where
  payloads := rfl
  metadata _ h := nomatch h
  verified := rfl

theorem readEvents (h : ChainOf lines events) (defaults : EventDefaults) :
    readEvents defaults lines = some (events.map reread) := by
  rw [h.payloads, Audit.readEvents, List.mapM_map]
  have hmetadata := h.metadata
  clear h
  induction events with
  | nil => rfl
  | cons event events ih =>
    have ⟨⟨d, hd⟩, hrest⟩ := List.forall_mem_cons.mp hmetadata
    rw [List.mapM_cons, Function.comp_apply, eventOfPayload_payload defaults hd, ih hrest]
    rfl

theorem verifyIntegrity (h : ChainOf lines events) (defaults : EventDefaults) :
    verifyIntegrity defaults lines = some true := by
  rw [Audit.verifyIntegrity, h.readEvents, Option.map_some, verifyChain_reread, h.verified]

theorem lastHash (h : ChainOf lines events) : lastHash lines = chainHead none events := by
  rw [h.payloads, Audit.lastHash, chainHead, List.getLast?_map]
  cases events.getLast? with
  | none => rfl
  | some event =>
    have hget : event.payload.get "event_hash" = some (optionValue event.eventHash) := by
      rw [get_payload (v := optionValue event.eventHash) rfl, jsonRoundTrip_optionValue]
    simp only [Option.map_some, Option.bind_some, hget, Option.getD_some]
    cases event.eventHash <;> rfl

/-- The next event is bound to the last hash of the log. -/
theorem append (h : ChainOf lines events) (event : ChainedEvent)
    (hmetadata : ∃ d, event.metadata = .dict d) :
    ChainOf (lines ++ [(bindEvent event (Audit.lastHash lines)).payload])
      (events ++ [bindEvent event (Audit.lastHash lines)]) where
  payloads := by rw [h.payloads, List.map_append, List.map_singleton]
  metadata := by
    intro other hother
    rcases List.mem_append.mp hother with hother | hother
    · exact h.metadata other hother
    · rw [List.mem_singleton.mp hother]
      exact hmetadata
  verified := by
    rw [verifyChain_append]
    exact ⟨h.verified, h.lastHash, rfl⟩

end ChainOf

end Hashes

end Rygnal.Audit
