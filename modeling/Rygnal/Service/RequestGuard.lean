import Mathlib.Algebra.Ring.Nat
import Mathlib.Data.List.Nodup
import Mathlib.Logic.Function.Basic
import Rygnal.Core.Exceptions
import Rygnal.Core.Json
import Rygnal.Library.Transition

/-! # The guard in front of the API

`ApiRequestGuardMiddleware` of `api_security.py`: header checks, authentication, the slots of
concurrent requests, the limit on request bodies and the headers of every response. The application
behind it is arbitrary code; its actions, and those of all other requests, interleave in every order.
-/

namespace Rygnal.Service.RequestGuard
open Rygnal.Core Rygnal.Library.PyText Rygnal.Library.Transition

/-! ## Headers -/

abbrev Header := List UInt8 × List UInt8

def ascii (s : String) : List UInt8 := s.toList.map fun c => UInt8.ofNat c.toNat

/-- `bytes.decode("latin-1")`. -/
def latin1 (bytes : List UInt8) : Text := bytes.map fun byte => Char.ofNat byte.toNat

/-- `bytes.lower()`. -/
def lowerBytes (bytes : List UInt8) : List UInt8 :=
  bytes.map fun byte => if 65 ≤ byte ∧ byte ≤ 90 then byte + 32 else byte

/-- `bytes.strip()`. -/
def stripBytes (bytes : List UInt8) : List UInt8 :=
  (bytes.dropWhile (· ∈ ascii " \t\n\r\x0b\x0c")).rdropWhile (· ∈ ascii " \t\n\r\x0b\x0c")

def firstHeader (headers : List Header) (name : String) : Option Text :=
  (headers.find? fun h => lowerBytes h.1 = lowerBytes (ascii name)).map fun h => latin1 h.2

def securityHeaders : List Header :=
  [(ascii "x-content-type-options", ascii "nosniff"), (ascii "x-frame-options", ascii "DENY"),
    (ascii "referrer-policy", ascii "no-referrer"), (ascii "cache-control", ascii "no-store"),
    (ascii "content-security-policy", ascii "default-src 'none'; frame-ancestors 'none'"),
    (ascii "permissions-policy", ascii "camera=(), microphone=(), geolocation=()")]

/-- `api_security` reads these fields of the runtime configuration, whose validators bound them. -/
structure ApiRuntimeConfig where
  authRequired : Bool
  maxRequestBodyBytes : ℕ
  maxHeaderBytes : ℕ
  maxHeaderCount : ℕ
  maxConcurrency : ℕ
  allowedHosts : List Text
  bodyBounds : 1024 ≤ maxRequestBodyBytes ∧ maxRequestBodyBytes ≤ 16 * 1024 * 1024
  headerBounds : 1024 ≤ maxHeaderBytes ∧ maxHeaderBytes ≤ 256 * 1024
  countBounds : 1 ≤ maxHeaderCount ∧ maxHeaderCount ≤ 500
  concurrencyBounds : 1 ≤ maxConcurrency ∧ maxConcurrency ≤ 1024

/-- `int(value, 10)` of bytes: a sign and digits, which single underscores may separate. -/
def parseInt (bytes : List UInt8) : Option ℤ :=
  let text := latin1 (stripBytes bytes)
  let unsigned := if text.head? = some '-' ∨ text.head? = some '+' then text.tail else text
  let groups := splitOn '_' unsigned
  let digits := groups.flatten
  if groups.any (fun group => group.isEmpty || group.any (!·.isDigit)) || 4300 < digits.length then
    none
  else
    let magnitude : ℤ := digits.foldl (fun n c => 10 * n + (c.toNat - '0'.toNat : ℕ)) 0
    some (if text.head? = some '-' then -magnitude else magnitude)

/-- The fields of an error response. -/
structure Refusal where
  status : ℕ
  code : String
  message : String
  retryable : Bool
deriving DecidableEq, Repr

section Checks
variable [UnicodeTables]

def hostWithoutPort (value : Text) : Text :=
  let normalized := strip value
  if normalized.head? = some '[' ∧ ']' ∈ normalized then
    lower (normalized.takeWhile (· ≠ ']') ++ [']'])
  else if normalized.count ':' = 1 then lower (normalized.takeWhile (· ≠ ':'))
  else lower normalized

def contentLengths (headers : List Header) : List (List UInt8) :=
  (headers.filter fun h => lowerBytes h.1 = ascii "content-length").map fun h => stripBytes h.2

def validateContentLength (config : ApiRuntimeConfig) : List (List UInt8) → Option Refusal
  | [] => none
  | value :: values =>
    if values.any (· ≠ value) then
      some ⟨400, "conflicting_content_length", "Conflicting Content-Length headers.", false⟩
    else match parseInt value with
      | none => some ⟨400, "invalid_content_length", "Content-Length is invalid.", false⟩
      | some length =>
        if length < 0 then
          some ⟨400, "invalid_content_length", "Content-Length is invalid.", false⟩
        else if length > config.maxRequestBodyBytes then
          some ⟨413, "request_body_too_large", "Request body exceeds the configured limit.", false⟩
        else none

def validateHeaders (config : ApiRuntimeConfig) (headers : List Header) : Option Refusal :=
  if headers.length > config.maxHeaderCount then
    some ⟨431, "too_many_headers", "Request contains too many headers.", false⟩
  else if (headers.map fun h => h.1.length + h.2.length).sum > config.maxHeaderBytes then
    some ⟨431, "headers_too_large", "Request headers exceed the configured limit.", false⟩
  else if (firstHeader headers "host").any fun host =>
      lower (hostWithoutPort host) ∉ config.allowedHosts then
    some ⟨400, "invalid_host", "HTTP host is not allowed.", false⟩
  else validateContentLength config (contentLengths headers)

/-! ## Credentials -/

def bearerTokenFromHeaders (headers : List Header) : Text :=
  let raw := (firstHeader headers "authorization").getD []
  let scheme := raw.takeWhile (· ≠ ' ')
  if ' ' ∉ raw ∨ lower scheme ≠ "bearer".toList then []
  else
    let candidate := strip (raw.dropWhile (· ≠ ' ')).tail
    if (candidate.flatMap String.utf8EncodeChar).length > 4096 then [] else candidate

def nonAsciiComparison : PyException :=
  ⟨[.other "TypeError", .exception, .baseException],
    "comparing strings with non-ASCII characters is not supported"⟩

/-- `hmac.compare_digest` raises for texts outside ASCII. -/
def compareDigest (a b : Text) : Except PyException Bool :=
  if a.all isAscii && b.all isAscii then .ok (a = b) else .error nonAsciiComparison

def tokenMatches (candidate : Text) (configured : Option Text) : Except PyException Bool :=
  let expected := configured.getD []
  let boundedCandidate := if candidate.length ≤ 4096 then candidate else []
  if expected.isEmpty then .ok false else compareDigest boundedCandidate expected

/-! ## Responses -/

structure HttpRequest where
  headers : List Header
  path : String
  uuidHex : String

def isRequestIdChar (c : Char) : Bool := c.isAlphanum || c ∈ ['.', '_', ':', '-']

/-- `normalize_request_id`: `[A-Za-z0-9][A-Za-z0-9._:\-]{7,127}` in full, or a new id. -/
def normalizeRequestId (candidate : Option Text) (uuidHex : String) : Text :=
  match candidate with
  | some (c :: rest) =>
    if c.isAlphanum && rest.all isRequestIdChar && 7 ≤ rest.length && rest.length ≤ 127 then c :: rest
    else ("req_" ++ uuidHex).toList
  | _ => ("req_" ++ uuidHex).toList

def HttpRequest.requestId (request : HttpRequest) : Text :=
  normalizeRequestId (firstHeader request.headers "x-request-id") request.uuidHex

def encodeAscii (text : Text) : List UInt8 := text.map fun c => UInt8.ofNat c.toNat

/-- A message of the response. -/
inductive Sent where
  | start (status : ℕ) (headers : List Header)
  | body (bytes : List UInt8) (moreBody : Bool)
deriving DecidableEq, Repr

def Sent.isStart : Sent → Bool
  | .start _ _ => true
  | .body _ _ => false

def errorBody (refusal : Refusal) (requestId : Text) : List UInt8 :=
  encodeAscii (Json.object [("error", .object [("code", .str refusal.code), ("details", .null),
    ("message", .str refusal.message), ("request_id", .str (String.ofList requestId)),
    ("retryable", .bool refusal.retryable)])]).text

def sendError (refusal : Refusal) (requestId : Text) (extraHeaders : List Header) : List Sent :=
  let payload := errorBody refusal requestId
  [.start refusal.status ([(ascii "content-type", ascii "application/json"),
      (ascii "content-length", ascii (toString payload.length)),
      (ascii "x-request-id", encodeAscii requestId)] ++ securityHeaders ++ extraHeaders),
    .body payload false]

/-- The loop of `guarded_send` over the headers that every response carries. -/
def addMissing (headers required : List Header) : List Header :=
  headers ++ required.filter fun h => h.1 ∉ headers.map Prod.fst

def guardedHeaders (requestId : Text) (headers : List Header) : List Header :=
  addMissing
    ((headers.filter fun h => lowerBytes h.1 ∉ [ascii "server", ascii "x-powered-by"]).map fun h =>
      (lowerBytes h.1, h.2))
    (securityHeaders ++ [(ascii "x-request-id", encodeAscii requestId)])

def guardedSend (requestId : Text) : Sent → Sent
  | .start status headers => .start status (guardedHeaders requestId headers)
  | .body bytes moreBody => .body bytes moreBody

/-! ## One request among others -/

inductive Phase where
  | idle
  | admitting
  | inside
  | leaving
  | finished
  | passedThrough
deriving DecidableEq, Repr

/-- `delivered` are the body bytes that the application got, `called` the request it was called
for, `forwarded` its messages and `answered` those of the guard itself. -/
structure RequestState where
  phase : Phase
  request : HttpRequest
  receivedBytes : ℕ
  responseStarted : Bool
  delivered : ℕ
  called : Bool
  forwarded : List Sent
  answered : List Sent

def RequestState.unused : RequestState :=
  ⟨.idle, ⟨[], "", ""⟩, 0, false, 0, false, [], []⟩

/-- How the application ends under the time limit. -/
inductive Outcome where
  | returned
  | bodyLimitExceeded
  | timeout
  | raised
deriving DecidableEq, Repr

/-- One action of a request between two points where other requests can come in. -/
inductive GuardAction where
  | arrive (request : HttpRequest)
  | passThrough
  | acquire
  | cancel
  | receive (bodyLength : ℕ)
  | send (message : Sent)
  | complete (outcome : Outcome)
  | release

def requestOverloaded : Refusal :=
  ⟨429, "request_overloaded", "Request capacity is exhausted.", true⟩

def authenticationFailed : Refusal :=
  ⟨401, "authentication_failed", "Authentication failed.", false⟩

/-- The credentials of a request, where they are asked for. -/
def authenticate (config : ApiRuntimeConfig) (token : Option Text) (request : HttpRequest) :
    Except PyException Bool :=
  if config.authRequired && request.path ∉ ["/health", "/ready"] then
    tokenMatches (bearerTokenFromHeaders request.headers) token
  else .ok true

/-- What precedes the admission. An exception of the comparison leaves the middleware. -/
def arrive (config : ApiRuntimeConfig) (token : Option Text) (request : HttpRequest) : RequestState :=
  let r := { RequestState.unused with request := request }
  match validateHeaders config request.headers with
  | some refusal =>
    { r with phase := .finished, answered := sendError refusal request.requestId [] }
  | none =>
    match authenticate config token request with
    | .error _ => { r with phase := .finished }
    | .ok false =>
      { r with
        phase := .finished
        answered := sendError authenticationFailed request.requestId
          [(ascii "www-authenticate", ascii "Bearer")] }
    | .ok true => { r with phase := .admitting }

/-- `limited_receive`: a message beyond the limit is replaced by an exception. -/
def limitedReceive (config : ApiRuntimeConfig) (r : RequestState) (bodyLength : ℕ) : RequestState :=
  let receivedBytes := r.receivedBytes + bodyLength
  if receivedBytes > config.maxRequestBodyBytes then { r with receivedBytes := receivedBytes }
  else { r with receivedBytes := receivedBytes, delivered := r.delivered + bodyLength }

def forward (r : RequestState) (message : Sent) : RequestState :=
  { r with
    responseStarted := r.responseStarted || message.isStart
    forwarded := r.forwarded ++ [guardedSend r.request.requestId message] }

/-- The `except` clauses around the application. -/
def outcomeRefusal : Outcome → Option Refusal
  | .bodyLimitExceeded =>
    some ⟨413, "request_body_too_large", "Request body exceeds the configured limit.", false⟩
  | .timeout => some ⟨504, "request_timeout", "Request timed out.", true⟩
  | .returned | .raised => none

def complete (r : RequestState) (outcome : Outcome) : RequestState :=
  match outcomeRefusal outcome with
  | some refusal =>
    if r.responseStarted then { r with phase := .leaving }
    else { r with phase := .leaving, answered := sendError refusal r.request.requestId [] }
  | none => { r with phase := .leaving }

/-- One action of a request, with the number of active requests. -/
def requestStep (config : ApiRuntimeConfig) (token : Option Text) (active : ℕ) (r : RequestState) :
    GuardAction → Option (ℕ × RequestState)
  | .arrive request => if r.phase = .idle then some (active, arrive config token request) else none
  | .passThrough => if r.phase = .idle then some (active, { r with phase := .passedThrough }) else none
  | .acquire =>
    if r.phase ≠ .admitting then none
    else if active ≥ config.maxConcurrency then
      some (active, { r with
        phase := .finished, answered := sendError requestOverloaded r.request.requestId [] })
    else some (active + 1, { r with phase := .inside, called := true })
  | .cancel => if r.phase = .admitting then some (active, { r with phase := .finished }) else none
  | .receive bodyLength =>
    if r.phase = .inside then some (active, limitedReceive config r bodyLength) else none
  | .send message => if r.phase = .inside then some (active, forward r message) else none
  | .complete outcome => if r.phase = .inside then some (active, complete r outcome) else none
  | .release =>
    if r.phase = .leaving then
      some (if active > 0 then active - 1 else active, { r with phase := .finished })
    else none

structure GuardState where
  activeRequests : ℕ
  requests : ℕ → RequestState

def GuardState.initial : GuardState := ⟨0, fun _ => .unused⟩

def guardStep (config : ApiRuntimeConfig) (token : Option Text) : Step GuardState (ℕ × GuardAction)
  | s, (i, action) =>
    (requestStep config token s.activeRequests (s.requests i) action).map fun next =>
      ⟨next.1, Function.update s.requests i next.2⟩

end Checks

/-! ## Two requests and one slot -/

namespace Sample
open Rygnal.Library.PyText.Ascii

def config : ApiRuntimeConfig where
  authRequired := true
  maxRequestBodyBytes := 1024
  maxHeaderBytes := 1024
  maxHeaderCount := 10
  maxConcurrency := 1
  allowedHosts := ["localhost".toList]
  bodyBounds := by decide
  headerBounds := by decide
  countBounds := by decide
  concurrencyBounds := by decide

def authorized : HttpRequest where
  headers := [(ascii "Host", ascii "localhost:8787"), (ascii "Authorization", ascii "Bearer token-1")]
  path := "/approvals"
  uuidHex := "0123456789abcdef0123456789abcdef"

/-- The second request finds the slot taken, and the first one sends more than it may. -/
def labels : List (ℕ × GuardAction) :=
  [(0, .arrive authorized), (1, .arrive authorized), (0, .acquire), (1, .acquire),
    (0, .receive 1000), (0, .receive 100), (0, .complete .bodyLimitExceeded), (0, .release)]

def final : Option GuardState := run (guardStep config (some "token-1".toList)) .initial labels

theorem final_isSome : final.isSome = true := by decide +kernel

end Sample

/-! ## Slots -/

/-- Between `_acquire` and `_release`. -/
def RequestState.HoldsSlot (r : RequestState) : Prop := r.phase = .inside ∨ r.phase = .leaving

/-- The active requests are counted, and never more than configured. -/
structure Accounted (config : ApiRuntimeConfig) (s : GuardState) (holders : List ℕ) : Prop where
  nodup : holders.Nodup
  mem : ∀ i, i ∈ holders ↔ (s.requests i).HoldsSlot
  length : holders.length = s.activeRequests
  bounded : s.activeRequests ≤ config.maxConcurrency

section Guard
variable [UnicodeTables] {config : ApiRuntimeConfig} {token : Option Text} {s t : GuardState}
  {active active' : ℕ} {r r' : RequestState} {action : GuardAction}

theorem arrive_phase (config : ApiRuntimeConfig) (token : Option Text) (request : HttpRequest) :
    (arrive config token request).phase = .finished ∨
      (arrive config token request).phase = .admitting := by
  unfold arrive
  split
  · exact .inl rfl
  · split
    · exact .inl rfl
    · exact .inl rfl
    · exact .inr rfl

omit [UnicodeTables] in
theorem complete_phase (r : RequestState) (outcome : Outcome) :
    (complete r outcome).phase = .leaving := by
  unfold complete
  split
  · split <;> rfl
  · rfl

omit [UnicodeTables] in
theorem limitedReceive_phase (config : ApiRuntimeConfig) (r : RequestState) (bodyLength : ℕ) :
    (limitedReceive config r bodyLength).phase = r.phase := by
  simp only [limitedReceive]
  split <;> rfl

/-- What one action does to the slots: nothing, or it takes or gives back its own. -/
theorem requestStep_slots (h : requestStep config token active r action = some (active', r')) :
    (active' = active ∧ (r'.HoldsSlot ↔ r.HoldsSlot)) ∨
      (active' = active + 1 ∧ active < config.maxConcurrency ∧ ¬ r.HoldsSlot ∧ r'.HoldsSlot) ∨
        (active' = active - 1 ∧ r.HoldsSlot ∧ ¬ r'.HoldsSlot) := by
  cases action with
  | arrive request =>
    obtain ⟨hphase, ⟨⟩⟩ := Option.ite_none_right_eq_some.mp h
    left
    rcases arrive_phase config token request with hfinished | hadmitting
    · simp [RequestState.HoldsSlot, hphase, hfinished]
    · simp [RequestState.HoldsSlot, hphase, hadmitting]
  | passThrough | cancel =>
    obtain ⟨hphase, ⟨⟩⟩ := Option.ite_none_right_eq_some.mp h
    simp [RequestState.HoldsSlot, hphase]
  | acquire =>
    simp only [requestStep, ne_eq, ite_not] at h
    split at h
    · rename_i hphase
      split at h
      · cases h
        simp [RequestState.HoldsSlot, hphase]
      · cases h
        rename_i hfree
        simp [RequestState.HoldsSlot, hphase, Nat.lt_of_not_le hfree]
    · cases h
  | receive bodyLength =>
    obtain ⟨hphase, ⟨⟩⟩ := Option.ite_none_right_eq_some.mp h
    simp [RequestState.HoldsSlot, limitedReceive_phase]
  | send message =>
    obtain ⟨hphase, ⟨⟩⟩ := Option.ite_none_right_eq_some.mp h
    simp [RequestState.HoldsSlot, forward]
  | complete outcome =>
    obtain ⟨hphase, ⟨⟩⟩ := Option.ite_none_right_eq_some.mp h
    simp [RequestState.HoldsSlot, hphase, complete_phase]
  | release =>
    obtain ⟨hphase, ⟨⟩⟩ := Option.ite_none_right_eq_some.mp h
    right
    right
    refine ⟨?_, .inr hphase, by simp [RequestState.HoldsSlot]⟩
    split <;> omega

theorem guardStep_eq_some {i : ℕ} (h : guardStep config token s (i, action) = some t) :
    ∃ active' r', requestStep config token s.activeRequests (s.requests i) action =
      some (active', r') ∧ t = ⟨active', Function.update s.requests i r'⟩ := by
  obtain ⟨⟨active', r'⟩, hstep, ht⟩ := Option.map_eq_some_iff.mp h
  exact ⟨active', r', hstep, ht.symm⟩

omit [UnicodeTables] in
theorem Accounted.initial (config : ApiRuntimeConfig) : Accounted config .initial [] where
  nodup := List.nodup_nil
  mem i := by simp [GuardState.initial, RequestState.unused, RequestState.HoldsSlot]
  length := rfl
  bounded := Nat.zero_le _

theorem Accounted.step {holders : List ℕ} {i : ℕ} (hs : Accounted config s holders)
    (h : guardStep config token s (i, action) = some t) : ∃ holders', Accounted config t holders' := by
  obtain ⟨active', r', hstep, rfl⟩ := guardStep_eq_some h
  have hother : ∀ j, j ≠ i → ((Function.update s.requests i r') j).HoldsSlot =
      (s.requests j).HoldsSlot := by
    intro j hj
    rw [Function.update_of_ne hj]
  rcases requestStep_slots hstep with ⟨rfl, hsame⟩ | ⟨rfl, hfree, hbefore, hafter⟩ |
    ⟨rfl, hbefore, hafter⟩
  · refine ⟨holders, hs.nodup, ?_, hs.length, hs.bounded⟩
    intro j
    by_cases hj : j = i
    · subst hj
      simp [hs.mem, hsame]
    · simp [hs.mem, hother j hj]
  · -- the request takes a slot that was free
    refine ⟨i :: holders, ?_, ?_, by simp [hs.length], hfree⟩
    · exact List.nodup_cons.mpr ⟨fun hi => hbefore ((hs.mem i).mp hi), hs.nodup⟩
    · intro j
      by_cases hj : j = i
      · subst hj
        simp [hafter]
      · simp [hj, hs.mem]
  · -- the request gives its slot back
    have hi : i ∈ holders := (hs.mem i).mpr hbefore
    refine ⟨holders.erase i, hs.nodup.erase i, ?_, ?_, (Nat.sub_le _ _).trans hs.bounded⟩
    · intro j
      rw [hs.nodup.mem_erase_iff]
      by_cases hj : j = i
      · subst hj
        simp [hafter]
      · simp [hj, hs.mem]
    · rw [List.length_erase_of_mem hi, hs.length]

theorem Accounted.run {labels : List (ℕ × GuardAction)}
    (h : run (guardStep config token) .initial labels = some s) :
    ∃ holders, Accounted config s holders := by
  refine run_invariant (P := fun s => ∃ holders, Accounted config s holders) ?_
    ⟨[], Accounted.initial config⟩ h
  rintro s ⟨i, action⟩ t ⟨holders, hs⟩ hstep
  exact hs.step hstep

/-- Whatever the applications, the clients and the exceptions do, the counter is the number of
requests between `_acquire` and `_release`, it never exceeds the configured concurrency, and a
request is turned away exactly when that many others are inside. -/
theorem slots_accounted {labels : List (ℕ × GuardAction)}
    (h : run (guardStep config token) .initial labels = some s) :
    (∃ holders : List ℕ, holders.Nodup ∧ (∀ i, i ∈ holders ↔ (s.requests i).HoldsSlot) ∧
      holders.length = s.activeRequests) ∧ s.activeRequests ≤ config.maxConcurrency ∧
    ∀ i t, guardStep config token s (i, .acquire) = some t →
      ((t.requests i).HoldsSlot ↔ s.activeRequests < config.maxConcurrency) := by
  obtain ⟨holders, hs⟩ := Accounted.run h
  refine ⟨⟨holders, hs.nodup, hs.mem, hs.length⟩, hs.bounded, ?_⟩
  intro i t hstep
  obtain ⟨active', r', hacquire, rfl⟩ := guardStep_eq_some hstep
  simp only [requestStep, ne_eq, ite_not] at hacquire
  split at hacquire
  · split at hacquire
    · cases hacquire
      rename_i hfull
      simp [RequestState.HoldsSlot, Nat.not_lt.mpr hfull]
    · cases hacquire
      rename_i hfree
      simp [RequestState.HoldsSlot, Nat.lt_of_not_le hfree]
  · cases hacquire

end Guard

open Rygnal.Service.RequestGuard.Sample

theorem slots_accounted_sample : ∃ s, final = some s ∧ s.activeRequests ≤ 1 := by
  obtain ⟨s, hs⟩ := Option.isSome_iff_exists.mp final_isSome
  exact ⟨s, hs, (@slots_accounted Rygnal.Library.PyText.Ascii.tables _ _ _ _ hs).2.1⟩

/-! ## Headers of every response -/

/-- The names that a response start carries, and those it never carries. -/
def Protected (headers : List Header) : Prop :=
  (∀ name ∈ ascii "x-request-id" :: securityHeaders.map Prod.fst, name ∈ headers.map Prod.fst) ∧
    ∀ name ∈ [ascii "server", ascii "x-powered-by"], name ∉ headers.map Prod.fst

theorem mem_names_addMissing {headers required : List Header} {name : List UInt8} :
    name ∈ (addMissing headers required).map Prod.fst ↔
      name ∈ headers.map Prod.fst ∨ name ∈ required.map Prod.fst := by
  rw [addMissing, List.map_append, List.mem_append]
  constructor
  · rintro (hgiven | hadded)
    · exact .inl hgiven
    · obtain ⟨h, hmem, rfl⟩ := List.mem_map.mp hadded
      exact .inr (List.mem_map_of_mem (List.mem_of_mem_filter hmem))
  · rintro (hgiven | hrequired)
    · exact .inl hgiven
    · by_cases hgiven : name ∈ headers.map Prod.fst
      · exact .inl hgiven
      · obtain ⟨h, hmem, rfl⟩ := List.mem_map.mp hrequired
        exact .inr (List.mem_map_of_mem (List.mem_filter.mpr ⟨hmem, decide_eq_true hgiven⟩))

theorem guardedHeaders_protected (requestId : Text) (headers : List Header) :
    Protected (guardedHeaders requestId headers) := by
  constructor
  · intro name hname
    rw [guardedHeaders, mem_names_addMissing, List.map_append, List.mem_append]
    rcases List.mem_cons.mp hname with rfl | hsecurity
    · exact .inr (.inr List.mem_cons_self)
    · exact .inr (.inl hsecurity)
  · intro name hname hmem
    rw [guardedHeaders, mem_names_addMissing] at hmem
    rcases hmem with hgiven | hrequired
    · simp only [List.map_map, List.mem_map, List.mem_filter, Function.comp_apply] at hgiven
      obtain ⟨h, ⟨-, hallowed⟩, rfl⟩ := hgiven
      exact of_decide_eq_true hallowed hname
    · have hdisjoint : ∀ hidden ∈ [ascii "server", ascii "x-powered-by"],
          hidden ∉ (securityHeaders.map Prod.fst) ++ [ascii "x-request-id"] := by decide
      exact hdisjoint name hname (by simpa using hrequired)

theorem sendError_protected {refusal : Refusal} {requestId : Text} {extraHeaders : List Header}
    (hextra : ∀ h ∈ extraHeaders, h.1 = ascii "www-authenticate") {status : ℕ}
    {headers : List Header} (h : Sent.start status headers ∈ sendError refusal requestId extraHeaders) :
    Protected headers := by
  simp only [sendError, List.mem_cons, Sent.start.injEq, List.not_mem_nil, or_false,
    reduceCtorEq] at h
  obtain ⟨-, rfl⟩ := h
  constructor
  · intro name hname
    rcases List.mem_cons.mp hname with rfl | hsecurity
    · simp
    · rw [List.map_append, List.map_append, List.mem_append, List.mem_append]
      exact .inl (.inr hsecurity)
  · intro name hname hmem
    have hdisjoint : ∀ hidden ∈ [ascii "server", ascii "x-powered-by"],
        hidden ∉ [ascii "content-type", ascii "content-length", ascii "x-request-id",
          ascii "www-authenticate"] ++ securityHeaders.map Prod.fst := by decide
    apply hdisjoint name hname
    rw [List.map_append, List.map_append, List.mem_append, List.mem_append] at hmem
    rcases hmem with (hown | hsecurity) | hgiven
    · simp only [List.map_cons, List.map_nil, List.mem_cons, List.not_mem_nil, or_false] at hown
      rcases hown with rfl | rfl | rfl <;> simp
    · exact List.mem_append_right _ hsecurity
    · obtain ⟨h, hmem, rfl⟩ := List.mem_map.mp hgiven
      rw [hextra h hmem]
      simp

/-! ## What reaches the application and the client -/

section Requests
variable [UnicodeTables] {config : ApiRuntimeConfig} {token : Option Text} {s t : GuardState}
  {active active' : ℕ} {r r' : RequestState} {action : GuardAction}

def Admitted (config : ApiRuntimeConfig) (token : Option Text) (request : HttpRequest) : Prop :=
  validateHeaders config request.headers = none ∧ authenticate config token request = .ok true

/-- One error response of the guard, before which the application started none. -/
def Answered (r : RequestState) : Prop :=
  r.responseStarted = false ∧ ∃ refusal extraHeaders,
    (∀ h ∈ extraHeaders, h.1 = ascii "www-authenticate") ∧
      r.answered = sendError refusal r.request.requestId extraHeaders

structure Contained (config : ApiRuntimeConfig) (token : Option Text) (r : RequestState) : Prop where
  admitted : r.phase = .admitting ∨ r.called = true → Admitted config token r.request
  uncalled : r.phase = .idle ∨ r.phase = .admitting → r.called = false
  inside : r.HoldsSlot → r.called = true
  untouched : r.called = false → r.forwarded = [] ∧ r.delivered = 0
  counted : r.delivered ≤ r.receivedBytes
  limited : r.delivered ≤ config.maxRequestBodyBytes
  started : r.responseStarted = r.forwarded.any Sent.isStart
  pending : r.phase = .idle ∨ r.phase = .admitting ∨ r.phase = .inside → r.answered = []
  answered : r.answered = [] ∨ Answered r
  headers : ∀ status headers, Sent.start status headers ∈ r.forwarded → Protected headers

theorem Contained.unused : Contained config token .unused where
  admitted h := by simp [RequestState.unused] at h
  uncalled _ := rfl
  inside h := by simp [RequestState.HoldsSlot, RequestState.unused] at h
  untouched _ := ⟨rfl, rfl⟩
  counted := Nat.le_refl _
  limited := Nat.zero_le _
  started := rfl
  pending _ := rfl
  answered := .inl rfl
  headers _ _ h := by simp [RequestState.unused] at h

/-- A request that is refused before the application is called. -/
theorem Contained.refused {request : HttpRequest} {answered : List Sent}
    (h : answered = [] ∨ ∃ refusal extraHeaders,
      (∀ h ∈ extraHeaders, h.1 = ascii "www-authenticate") ∧
        answered = sendError refusal request.requestId extraHeaders) :
    Contained config token { RequestState.unused with
      phase := .finished, request := request, answered := answered } where
  admitted h := by simp [RequestState.unused] at h
  uncalled _ := rfl
  inside h := by simp [RequestState.HoldsSlot] at h
  untouched _ := ⟨rfl, rfl⟩
  counted := Nat.le_refl _
  limited := Nat.zero_le _
  started := rfl
  pending h := by simp at h
  answered := h.imp id fun hanswer => ⟨rfl, hanswer⟩
  headers _ _ h := by simp [RequestState.unused] at h

theorem Contained.waiting {request : HttpRequest} (h : Admitted config token request) :
    Contained config token { RequestState.unused with phase := .admitting, request := request } where
  admitted _ := h
  uncalled _ := rfl
  inside h := by simp [RequestState.HoldsSlot] at h
  untouched _ := ⟨rfl, rfl⟩
  counted := Nat.le_refl _
  limited := Nat.zero_le _
  started := rfl
  pending _ := rfl
  answered := .inl rfl
  headers _ _ h := by simp [RequestState.unused] at h

theorem Contained.arrive (request : HttpRequest) :
    Contained config token (arrive config token request) := by
  unfold RequestGuard.arrive
  cases hheaders : validateHeaders config request.headers with
  | some refusal => exact .refused (.inr ⟨refusal, [], nofun, rfl⟩)
  | none =>
    cases hauth : authenticate config token request with
    | error exc => exact .refused (.inl rfl)
    | ok matches_ =>
      cases matches_ with
      | false =>
        refine .refused (.inr ⟨authenticationFailed, _, ?_, rfl⟩)
        intro h hmem
        rw [List.mem_singleton.mp hmem]
      | true =>
        exact .waiting ⟨hheaders, hauth⟩

theorem Contained.receive (h : Contained config token r) (hphase : r.phase = .inside)
    (bodyLength : ℕ) : Contained config token (limitedReceive config r bodyLength) := by
  have hcalled := h.inside (.inl hphase)
  simp only [limitedReceive]
  split
  · exact { h with counted := h.counted.trans (Nat.le_add_right _ _) }
  · rename_i hfits
    exact { h with
      untouched := fun hnot => by simp [hcalled] at hnot
      counted := Nat.add_le_add_right h.counted _
      limited := (Nat.add_le_add_right h.counted _).trans (Nat.le_of_not_lt hfits) }

theorem Contained.forward (h : Contained config token r) (hphase : r.phase = .inside)
    (message : Sent) : Contained config token (forward r message) := by
  have hcalled := h.inside (.inl hphase)
  have hpending := h.pending (.inr (.inr hphase))
  have hstart : (guardedSend r.request.requestId message).isStart = message.isStart := by
    cases message <;> rfl
  exact { h with
    untouched := fun hnot => by simp [RequestGuard.forward, hcalled] at hnot
    started := by simp [RequestGuard.forward, h.started, hstart]
    answered := .inl hpending
    headers := by
      intro status headers hmem
      rcases List.mem_append.mp hmem with hbefore | hnew
      · exact h.headers status headers hbefore
      · cases message with
        | start status' headers' =>
          cases List.mem_singleton.mp hnew
          exact guardedHeaders_protected _ _
        | body bytes moreBody => cases List.mem_singleton.mp hnew }

theorem Contained.complete (h : Contained config token r) (hphase : r.phase = .inside)
    (outcome : Outcome) : Contained config token (complete r outcome) := by
  have hcalled := h.inside (.inl hphase)
  have hpending := h.pending (.inr (.inr hphase))
  have hleft : Contained config token { r with phase := .leaving } :=
    { h with
      admitted := fun _ => h.admitted (.inr hcalled)
      uncalled := fun hwait => by simp at hwait
      inside := fun _ => hcalled
      pending := fun _ => hpending
      answered := .inl hpending }
  unfold RequestGuard.complete
  split
  · rename_i refusal _
    split
    · exact hleft
    · rename_i hstarted
      exact { hleft with
        pending := fun hopen => by simp at hopen
        answered := .inr ⟨by simpa using hstarted, refusal, [], nofun, rfl⟩ }
  · exact hleft

/-- Every action of a request keeps it contained. -/
theorem Contained.step (h : Contained config token r)
    (hstep : requestStep config token active r action = some (active', r')) :
    Contained config token r' := by
  cases action with
  | arrive request =>
    obtain ⟨_, ⟨⟩⟩ := Option.ite_none_right_eq_some.mp hstep
    exact Contained.arrive request
  | passThrough =>
    obtain ⟨hphase, ⟨⟩⟩ := Option.ite_none_right_eq_some.mp hstep
    have hcalled := h.uncalled (.inl hphase)
    exact { h with
      admitted := fun hor => by simp [hcalled] at hor
      uncalled := fun _ => hcalled
      inside := fun hholds => by simp [RequestState.HoldsSlot] at hholds
      pending := fun _ => h.pending (.inl hphase) }
  | acquire =>
    simp only [requestStep, ne_eq, ite_not] at hstep
    split at hstep
    · rename_i hphase
      have hcalled := h.uncalled (.inr hphase)
      have hstarted : r.responseStarted = false := by
        rw [h.started, (h.untouched hcalled).1]
        rfl
      split at hstep
      · cases hstep
        exact { h with
          admitted := fun hor => by simp [hcalled] at hor
          uncalled := fun _ => hcalled
          inside := fun hholds => by simp [RequestState.HoldsSlot] at hholds
          pending := fun hopen => by simp at hopen
          answered := .inr ⟨hstarted, requestOverloaded, [], nofun, rfl⟩ }
      · cases hstep
        exact { h with
          admitted := fun _ => h.admitted (.inl hphase)
          uncalled := fun hwait => by simp at hwait
          inside := fun _ => rfl
          untouched := fun hnot => by simp at hnot
          pending := fun _ => h.pending (.inr (.inl hphase)) }
    · cases hstep
  | cancel =>
    obtain ⟨hphase, ⟨⟩⟩ := Option.ite_none_right_eq_some.mp hstep
    have hcalled := h.uncalled (.inr hphase)
    exact { h with
      admitted := fun hor => by simp [hcalled] at hor
      uncalled := fun _ => hcalled
      inside := fun hholds => by simp [RequestState.HoldsSlot] at hholds
      pending := fun _ => h.pending (.inr (.inl hphase)) }
  | receive bodyLength =>
    obtain ⟨hphase, ⟨⟩⟩ := Option.ite_none_right_eq_some.mp hstep
    exact h.receive hphase bodyLength
  | send message =>
    obtain ⟨hphase, ⟨⟩⟩ := Option.ite_none_right_eq_some.mp hstep
    exact h.forward hphase message
  | complete outcome =>
    obtain ⟨hphase, ⟨⟩⟩ := Option.ite_none_right_eq_some.mp hstep
    exact h.complete hphase outcome
  | release =>
    obtain ⟨hphase, ⟨⟩⟩ := Option.ite_none_right_eq_some.mp hstep
    have hcalled := h.inside (.inr hphase)
    exact { h with
      admitted := fun _ => h.admitted (.inr hcalled)
      uncalled := fun hwait => by simp at hwait
      inside := fun hholds => by simp [RequestState.HoldsSlot] at hholds
      pending := fun hopen => by simp at hopen }

theorem Contained.run {labels : List (ℕ × GuardAction)}
    (h : run (guardStep config token) .initial labels = some s) (i : ℕ) :
    Contained config token (s.requests i) := by
  refine run_invariant (P := fun s => ∀ i, Contained config token (s.requests i)) ?_ ?_ h i
  · rintro s ⟨j, action⟩ t hs hstep i
    obtain ⟨active', r', hrequest, rfl⟩ := guardStep_eq_some hstep
    by_cases hi : i = j
    · subst hi
      simpa using (hs i).step hrequest
    · simpa [Function.update_of_ne hi] using hs i
  · exact fun _ => Contained.unused

/-- The application is called only for requests with valid headers and credentials, it never gets
more body bytes than configured, the guard answers at most once and only where no response was
started, and every response start carries the headers of the guard. -/
theorem requests_contained {labels : List (ℕ × GuardAction)}
    (h : run (guardStep config token) .initial labels = some s) (i : ℕ) :
    ((s.requests i).called = true → Admitted config token (s.requests i).request) ∧
      ((s.requests i).called = false →
        (s.requests i).forwarded = [] ∧ (s.requests i).delivered = 0) ∧
      (s.requests i).delivered ≤ config.maxRequestBodyBytes ∧
      ((s.requests i).answered = [] ∨ (Answered (s.requests i) ∧
        ∀ message ∈ (s.requests i).forwarded, message.isStart = false)) ∧
      ∀ status headers, Sent.start status headers ∈
        (s.requests i).forwarded ++ (s.requests i).answered → Protected headers := by
  have hc := Contained.run h i
  refine ⟨fun hcalled => hc.admitted (.inr hcalled), hc.untouched, hc.limited, ?_, ?_⟩
  · rcases hc.answered with hnone | hanswered
    · exact .inl hnone
    · have hstarted := hc.started.symm.trans hanswered.1
      exact .inr ⟨hanswered, by simpa using hstarted⟩
  · intro status headers hmem
    rcases List.mem_append.mp hmem with hforwarded | hanswer
    · exact hc.headers status headers hforwarded
    · rcases hc.answered with hnone | ⟨-, refusal, extraHeaders, hextra, hsent⟩
      · simp [hnone] at hanswer
      · rw [hsent] at hanswer
        exact sendError_protected hextra hanswer

end Requests

theorem requests_contained_sample : ∃ s, final = some s ∧ (s.requests 0).delivered ≤ 1024 := by
  obtain ⟨s, hs⟩ := Option.isSome_iff_exists.mp final_isSome
  exact ⟨s, hs, (@requests_contained Rygnal.Library.PyText.Ascii.tables _ _ _ _ hs 0).2.2.1⟩

end Rygnal.Service.RequestGuard
