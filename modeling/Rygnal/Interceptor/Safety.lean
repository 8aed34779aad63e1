import Rygnal.Interceptor.Intercept

/-! # When the interceptor executes a tool

Every execution of a call is licensed by the policy decision that was audited before it,
and under `REQUIRE_APPROVAL` by an authorized approval, unless the resolver returns a
rejection whose separate `approved` flag is set.
-/

namespace Rygnal.Interceptor
open Rygnal.Core Rygnal.Library Rygnal.Library.PyText Rygnal.Security Rygnal.Approval

def Effect.isExecution : Effect → Bool
  | .executed _ => true
  | .audited _ => false

/-- The event records this policy decision. -/
structure Carries (event : AuditEvent) (policy : PolicyDecision) : Prop where
  decision : event.decision = policy.decision
  allowed : event.allowed = policy.allowed
  severity : event.severity = policy.severity
  policyId : event.policyId = policy.policyId
  reason : event.reason = policy.reason

section Safety
variable [UnicodeTables] {i : RygnalInterceptor} {ambient : Ambient} {request : ToolRequest}
  {risk : Dict} {policy : PolicyDecision}

theorem decisionEvent_carries (ambient : Ambient) (request : ToolRequest)
    (policy : PolicyDecision) (metadata : Dict) :
    Carries (decisionEvent ambient request policy metadata) policy :=
  ⟨rfl, rfl, rfl, rfl, rfl⟩

/-! ## Effects of the parts -/

theorem failClosedResult_effects {reasonCode : String} {exc : PyException} {extra : Dict}
    {r : ToolRequest} :
    .executed r ∉ (failClosedResult i ambient request reasonCode exc risk extra).effects := by
  unfold failClosedResult
  simp only
  split
  · simp
  · split <;> simp
  · split <;> simp

theorem guarded_effects {reasonCode : String} {exc : PyException} {extra : Dict}
    {r : ToolRequest} :
    .executed r ∉ (guarded i ambient request reasonCode exc risk extra).effects := by
  unfold guarded
  split
  · exact failClosedResult_effects
  · simp

omit [UnicodeTables] in
/-- The tool is executed once or not at all, and in which cases it is. -/
theorem executeWithDecision_effects (i : RygnalInterceptor) (request : ToolRequest)
    (policy : PolicyDecision) (approval : Option ApprovalDecision) :
    (executeWithDecision i request policy approval).1 = [] ∨
    ((executeWithDecision i request policy approval).1 = [.executed request] ∧
      i.runtimeMode ≠ .observe ∧ i.runtimeMode ≠ .simulate ∧
      (policy.decision = .allow ∨
        policy.decision = .requireApproval ∧ ∃ a ∈ approval, a.approved = true)) := by
  unfold executeWithDecision
  cases hmode : i.runtimeMode with
  | observe => exact .inl rfl
  | simulate => cases policy.decision <;> exact .inl rfl
  | enforce | productionSafe =>
    cases hdecision : policy.decision with
    | allow => exact .inr ⟨rfl, by simp, by simp, .inl rfl⟩
    | block | simulate => exact .inl rfl
    | requireApproval =>
      by_cases happroved : approval.any (·.approved) = true
      · refine .inr ⟨by simp [happroved], by simp, by simp, .inr ⟨rfl, ?_⟩⟩
        simpa [Option.any_eq_true] using happroved
      · exact .inl (by simp [happroved])

/-- An execution stands right behind the audit event of its decision. -/
theorem auditAndExecute_effects {approval : Option ApprovalDecision} {metadata : Dict}
    {r : ToolRequest}
    (h : .executed r ∈ (auditAndExecute i ambient request risk policy approval metadata).effects) :
    (auditAndExecute i ambient request risk policy approval metadata).effects =
        [.audited (decisionEvent ambient request policy metadata), .executed request] ∧
      i.write (decisionEvent ambient request policy metadata) = .written ∧
      i.runtimeMode ≠ .observe ∧ i.runtimeMode ≠ .simulate ∧
      (policy.decision = .allow ∨
        policy.decision = .requireApproval ∧ ∃ a ∈ approval, a.approved = true) := by
  unfold auditAndExecute at h ⊢
  cases hwrite : i.write (decisionEvent ambient request policy metadata) with
  | failed exc => simp [hwrite] at h
  | writtenThenFailed exc => simp [hwrite] at h
  | written =>
    simp only [hwrite] at h ⊢
    rcases executeWithDecision_effects i request policy approval with hnone | ⟨hone, hmode⟩
    · simp [hnone] at h
    · exact ⟨by rw [hone], trivial, hmode⟩

variable [Digest]

/-- Why an execution was allowed, with the effects before it. -/
structure Licensed (i : RygnalInterceptor) (ambient : Ambient) (request : ToolRequest)
    (before : List Effect) (executed : ToolRequest) : Prop where
  tool : executed = request
  mode : i.runtimeMode ≠ .observe ∧ i.runtimeMode ≠ .simulate
  grounds : ∃ risk policy, i.assess request = .ok risk ∧ i.evaluate request risk = .ok policy ∧
    (∃ event, .audited event ∈ before ∧ Carries event policy) ∧
    (policy.decision = .allow ∨ policy.decision = .requireApproval ∧
      ∃ approvalRequest decision resolved decidedBy,
        (workflowOf i ambient).requestApproval ambient request policy risk =
          .ok (approvalRequest, decision) ∧
        (workflowOf i ambient).resolver approvalRequest = .ok resolved ∧
        resolved.status = .approved ∧ resolved.decidedBy = some decidedBy ∧
        decidedBy ≠ request.userId ∧
        (workflowOf i ambient).authorizationEngine.Permits approvalRequest resolved decidedBy)

/-- The tool is executed at most once, and only with a license. -/
def ExecutesSafely (i : RygnalInterceptor) (ambient : Ambient) (request : ToolRequest) : Prop :=
  (intercept i ambient request).effects.countP Effect.isExecution ≤ 1 ∧
  ∀ before after executed,
    (intercept i ambient request).effects = before ++ .executed executed :: after →
    Licensed i ambient request before executed

/-- The resolver rejects the request with its `approved` flag set, in a mode that executes
tools, and the audit event of that answer is written. -/
def FlaggedRejection (i : RygnalInterceptor) (ambient : Ambient) (request : ToolRequest) : Prop :=
  i.runtimeMode ≠ .observe ∧ i.runtimeMode ≠ .simulate ∧
  ∃ risk policy approvalRequest resolved, i.assess request = .ok risk ∧
    i.evaluate request risk = .ok policy ∧ policy.decision = .requireApproval ∧
    buildApprovalRequest ambient request policy risk = .ok approvalRequest ∧
    (workflowOf i ambient).resolver approvalRequest = .ok resolved ∧
    resolved.approvalId = approvalRequest.approvalId ∧ resolved.status = .rejected ∧
    resolved.approved = true ∧
    i.write (decisionEvent ambient request policy
      ((auditMetadata i risk policy).set "approval" (approvalMetadata resolved))) = .written

/-- What a call that executes the tool went through. -/
theorem intercept_executes {r : ToolRequest}
    (h : .executed r ∈ (intercept i ambient request).effects) :
    i.runtimeMode ≠ .observe ∧ i.runtimeMode ≠ .simulate ∧
    ∃ risk policy metadata, i.assess request = .ok risk ∧ i.evaluate request risk = .ok policy ∧
      (intercept i ambient request).effects =
        [.audited (decisionEvent ambient request policy metadata), .executed request] ∧
      i.write (decisionEvent ambient request policy metadata) = .written ∧
      (policy.decision = .allow ∨ policy.decision = .requireApproval ∧
        ∃ approvalRequest decision,
          (workflowOf i ambient).requestApproval ambient request policy risk =
            .ok (approvalRequest, decision) ∧ decision.approved = true ∧
          metadata = (auditMetadata i risk policy).set "approval" (approvalMetadata decision)) := by
  unfold intercept at h ⊢
  cases hassess : i.assess request with
  | error exc =>
    simp only [hassess] at h
    exact absurd h guarded_effects
  | ok risk =>
    simp only [hassess] at h ⊢
    cases hevaluate : i.evaluate request risk with
    | error exc =>
      simp only [hevaluate] at h
      exact absurd h guarded_effects
    | ok policy =>
      simp only [hevaluate] at h ⊢
      by_cases hdecision : policy.decision = .requireApproval
      · rw [if_pos hdecision] at h ⊢
        cases happroval : (workflowOf i ambient).requestApproval ambient request policy risk with
        | error exc =>
          simp only [happroval] at h
          exact absurd h guarded_effects
        | ok result =>
          obtain ⟨approvalRequest, decision⟩ := result
          simp only [happroval] at h ⊢
          obtain ⟨heffects, hwrite, hobserve, hsimulate, hallow | ⟨-, a, ha, happroved⟩⟩ :=
            auditAndExecute_effects h
          · rw [hdecision] at hallow
            cases hallow
          · obtain rfl : decision = a := by simpa using ha
            exact ⟨hobserve, hsimulate, risk, policy, _, rfl, hevaluate, heffects, hwrite,
              .inr ⟨hdecision, approvalRequest, decision, happroval, happroved, rfl⟩⟩
      · rw [if_neg hdecision] at h ⊢
        obtain ⟨heffects, hwrite, hobserve, hsimulate, hallow | ⟨hrequire, -⟩⟩ :=
          auditAndExecute_effects h
        · exact ⟨hobserve, hsimulate, risk, policy, _, rfl, hevaluate, heffects, hwrite,
            .inl hallow⟩
        · exact absurd hrequire hdecision

/-- A flagged rejection executes the tool. -/
theorem flaggedRejection_executes (h : FlaggedRejection i ambient request) :
    .executed request ∈ (intercept i ambient request).effects := by
  obtain ⟨hobserve, hsimulate, risk, policy, approvalRequest, resolved, hassess, hevaluate,
    hdecision, hbuild, hresolve, hid, hstatus, happroved, hwrite⟩ := h
  have happroval := requestApproval_of_rejected hbuild hresolve hid hstatus
  unfold intercept
  simp only [hassess, hevaluate, hdecision, if_true, happroval, auditAndExecute, hwrite]
  unfold executeWithDecision
  cases hmode : i.runtimeMode with
  | observe => exact absurd hmode hobserve
  | simulate => exact absurd hmode hsimulate
  | enforce | productionSafe => simp [hdecision, happroved]

/-- The resolver's answer licenses nothing then. -/
theorem FlaggedRejection.unsafely (h : FlaggedRejection i ambient request) :
    ¬ ExecutesSafely i ambient request := by
  rintro ⟨-, hlicensed⟩
  obtain ⟨before, after, hsplit⟩ := List.append_of_mem (flaggedRejection_executes h)
  obtain ⟨-, -, risk, policy, hassess, hevaluate, -, hgrounds⟩ :=
    hlicensed before after request hsplit
  obtain ⟨-, -, risk', policy', approvalRequest, resolved, hassess', hevaluate', hdecision,
    hbuild, hresolve, hid, hstatus, -, -⟩ := h
  obtain rfl : risk = risk' := by
    rw [hassess] at hassess'
    exact Except.ok.inj hassess'
  obtain rfl : policy = policy' := by
    rw [hevaluate] at hevaluate'
    exact Except.ok.inj hevaluate'
  rcases hgrounds with hallow | ⟨-, approvalRequest', decision, resolved', decidedBy, hrequest,
    hresolve', hstatus', -⟩
  · rw [hdecision] at hallow
    cases hallow
  · -- the request is built once, and the resolver is asked once
    have hrequest' := requestApproval_of_rejected hbuild hresolve hid hstatus
    rw [hrequest, Except.ok.injEq, Prod.mk.injEq] at hrequest'
    rw [hrequest'.1, hresolve, Except.ok.injEq] at hresolve'
    rw [← hresolve', hstatus] at hstatus'
    cases hstatus'

/-- Every execution is licensed exactly when the call meets no flagged rejection. -/
theorem executesSafely_iff (i : RygnalInterceptor) (ambient : Ambient) (request : ToolRequest) :
    ExecutesSafely i ambient request ↔ ¬ FlaggedRejection i ambient request := by
  constructor
  · intro hsafe hflagged
    exact hflagged.unsafely hsafe
  · intro hflagged
    have hexecutes : ∀ r, .executed r ∈ (intercept i ambient request).effects →
        ∃ event, (intercept i ambient request).effects = [.audited event, .executed request] ∧
          Licensed i ambient request [.audited event] request := by
      intro r hr
      obtain ⟨hobserve, hsimulate, risk, policy, metadata, hassess, hevaluate, heffects, hwrite,
        hwhy⟩ := intercept_executes hr
      have hcarries := decisionEvent_carries ambient request policy metadata
      refine ⟨_, heffects, rfl, ⟨hobserve, hsimulate⟩, risk, policy, hassess, hevaluate,
        ⟨_, List.mem_singleton_self _, hcarries⟩, ?_⟩
      rcases hwhy with hallow | ⟨hdecision, approvalRequest, decision, hrequest, happroved, rfl⟩
      · exact .inl hallow
      refine .inr ⟨hdecision, approvalRequest, decision, ?_⟩
      obtain ⟨hbuild, resolved, hresolve, hid, hiff⟩ := requestApproval_eq_ok hrequest
      obtain ⟨hallowed, hflag⟩ := hiff.mp happroved
      obtain ⟨-, hrejected | ⟨hstatus, decidedBy, hby, hne, hpermits⟩⟩ :=
        ApprovalAuthorizationEngine.authorize_allowed.mp hallowed
      · have hsame := requestApproval_of_rejected hbuild hresolve hid hrejected
        rw [hrequest, Except.ok.injEq, Prod.mk.injEq] at hsame
        rw [hsame.2] at hwrite
        exact absurd ⟨hobserve, hsimulate, risk, policy, approvalRequest, resolved, hassess,
          hevaluate, hdecision, hbuild, hresolve, hid, hrejected, hflag, hwrite⟩ hflagged
      · rw [buildApprovalRequest_requestedBy hbuild] at hne
        exact ⟨resolved, decidedBy, hrequest, hresolve, hstatus, hby, hne, hpermits⟩
    constructor
    · by_cases hany : ∃ r, .executed r ∈ (intercept i ambient request).effects
      · obtain ⟨r, hr⟩ := hany
        obtain ⟨event, heffects, -⟩ := hexecutes r hr
        rw [heffects]
        simp [Effect.isExecution]
      · have hzero : (intercept i ambient request).effects.countP Effect.isExecution = 0 := by
          refine List.countP_eq_zero.mpr fun effect heffect => ?_
          cases effect with
          | audited event => simp [Effect.isExecution]
          | executed r => exact absurd ⟨r, heffect⟩ hany
        omega
    · intro before after executed hsplit
      obtain ⟨event, heffects, hlicensed⟩ := hexecutes executed (by simp [hsplit])
      rw [heffects] at hsplit
      obtain ⟨rfl, rfl⟩ : before = [.audited event] ∧ executed = request := by
        rcases before with _ | ⟨b, _ | ⟨c, rest⟩⟩
        · simp at hsplit
        · simp only [List.cons_append, List.nil_append, List.cons.injEq] at hsplit
          exact ⟨by rw [hsplit.1], (Effect.executed.inj hsplit.2.1).symm⟩
        · simp at hsplit
      exact hlicensed

end Safety

/-! ## A rejection with its flag set -/

namespace Sample

/-- The sample run attaches no receipt, so it takes no digest. -/
scoped instance digest : Digest := ⟨id⟩

def ambient : Ambient := ⟨"trace_1f", "apr_7d1f", "2025-01-01T00:00:00Z", fun _ => ""⟩

def toolRequest : ToolRequest :=
  ⟨"deploy", some "release", some "service", .none, "dev-1", "agent-1", "staging", []⟩

def policy : PolicyDecision :=
  ⟨.requireApproval, false, .high, "needs review", some "deploy-review", none⟩

/-- Status `rejected`, `approved=True`. -/
def flagged (request : ApprovalRequest) : ApprovalDecision :=
  ⟨request.approvalId, .rejected, true, some "lead-1", none, "not now", []⟩

def interceptor : RygnalInterceptor where
  assess _ := .ok []
  evaluate _ _ := .ok policy
  approvalWorkflow := some ⟨fun request => .ok (flagged request), ⟨[], []⟩⟩
  write _ := .written
  execute _ := ⟨.executed, true, .none, none⟩
  runtimeMode := .enforce

end Sample

open Sample PyText.Ascii in
/-- The interceptor executes a tool whose approval was rejected. -/
theorem flagged_executes_unsafely : ¬ ExecutesSafely interceptor ambient toolRequest := by
  refine FlaggedRejection.unsafely ?_
  have hbuild : (buildApprovalRequest ambient toolRequest policy []).toOption.isSome = true := by
    decide
  cases hrequest : buildApprovalRequest ambient toolRequest policy [] with
  | error e =>
    rw [hrequest] at hbuild
    cases hbuild
  | ok request =>
    exact ⟨by decide, by decide, [], policy, request, flagged request, rfl, rfl, rfl, hrequest,
      rfl, rfl, rfl, rfl, rfl⟩

end Rygnal.Interceptor
