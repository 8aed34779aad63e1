import Rygnal.Core.Models

/-! # Approval state machine and authorization engine

`ApprovalStateMachine.validate_transition` and `ApprovalAuthorizationEngine.authorize`: may a
decision take effect for a request, and the reason and metadata of the answer.
-/

namespace Rygnal.Approval
open Rygnal.Core Rygnal.Library Rygnal.Library.PyText Rygnal.Security

/-- The common shape of `ApprovalStateTransitionResult` and `ApprovalAuthorizationResult`. -/
structure CheckResult where
  allowed : Bool
  reason : String
  metadata : Dict
deriving DecidableEq, Repr

def allowedTransitions : List (ApprovalStatus × ApprovalStatus) :=
  [(.pending, .approved), (.pending, .rejected)]

def validateTransition (currentStatus nextStatus : ApprovalStatus) : CheckResult :=
  if (currentStatus, nextStatus) ∈ allowedTransitions then
    ⟨true, "Approval state transition allowed.",
      [("current_status", .str currentStatus.value), ("next_status", .str nextStatus.value)]⟩
  else
    ⟨false, "Invalid approval state transition: " ++ currentStatus.value ++ " -> "
      ++ nextStatus.value ++ ".",
      [("guard", .str "approval-state-transition"), ("current_status", .str currentStatus.value),
        ("next_status", .str nextStatus.value)]⟩

structure ApprovalReviewerPermission where
  role : String
  canApprove : Bool
deriving DecidableEq, Repr

structure ApprovalAuthorizationEngine where
  reviewerPermissions : List (String × ApprovalReviewerPermission)
  rolePermissions : List (String × RolePermission)

def authorized (metadata : Dict) : CheckResult := ⟨true, "Approval decision authorized.", metadata⟩

def denyRolePermission (reviewerRole deniedConstraint : String) (metadata : Dict) : CheckResult :=
  ⟨false, "Reviewer role '" ++ reviewerRole ++ "' is not permitted to approve this "
    ++ deniedConstraint ++ ".",
    metadata.merge
      [("guard", .str "role-permission"), ("denied_constraint", .str deniedConstraint)]⟩

/-- `allowed is None or value in allowed`. -/
def listPermits (allowed : Option (List String)) (value : Option String) : Bool :=
  match allowed with
  | none => true
  | some items => value.any fun v => items.contains v

def authorizeRoleConstraints (request : ApprovalRequest) (decidedBy reviewerRole : String)
    (permission : RolePermission) : CheckResult :=
  let baseMetadata : Dict :=
    [("reviewer_role", .str reviewerRole), ("attempted_decided_by", .str decidedBy)]
  if request.severity ∉ permission.allowedSeverities then
    denyRolePermission reviewerRole "severity" baseMetadata
  else if !listPermits permission.allowedActions request.action then
    denyRolePermission reviewerRole "action" baseMetadata
  else if !listPermits permission.environments (some request.environment) then
    denyRolePermission reviewerRole "environment" baseMetadata
  else authorized baseMetadata

namespace ApprovalAuthorizationEngine
variable [UnicodeTables]

def normalizeRole (role : String) : String := String.ofList (lower (strip role.toList))

/-- `_authorize_role_permission`; `none` when no roles are configured. -/
def authorizeRolePermission (engine : ApprovalAuthorizationEngine) (request : ApprovalRequest)
    (decision : ApprovalDecision) (decidedBy : String) : Option CheckResult :=
  if engine.rolePermissions.isEmpty then none
  else match decision.metadata.get "reviewer_role" with
    | some (.str reviewerRole) =>
      if isPresent reviewerRole then
        let normalizedRole := normalizeRole reviewerRole
        match engine.rolePermissions.lookup normalizedRole with
        | some permission =>
          some (authorizeRoleConstraints request decidedBy normalizedRole permission)
        | none => some ⟨false, "Reviewer role '" ++ reviewerRole ++ "' is not configured.",
            [("guard", .str "role-permission"), ("attempted_decided_by", .str decidedBy),
              ("reviewer_role", .str normalizedRole), ("denied_constraint", .str "reviewer_role")]⟩
      else some (missingRole decidedBy)
    | _ => some (missingRole decidedBy)
where
  missingRole (decidedBy : String) : CheckResult :=
    ⟨false, "Approval decision is missing reviewer role.",
      [("guard", .str "role-permission"), ("attempted_decided_by", .str decidedBy),
        ("denied_constraint", .str "reviewer_role")]⟩

/-- `_authorize_reviewer_permission`; `none` when no reviewers are configured. -/
def authorizeReviewerPermission (engine : ApprovalAuthorizationEngine) (decidedBy : String) :
    Option CheckResult :=
  match engine.reviewerPermissions.lookup decidedBy with
  | none =>
    if engine.reviewerPermissions.isEmpty then none
    else some ⟨false, "Reviewer does not have approval permission.",
      [("guard", .str "reviewer-role"), ("attempted_decided_by", .str decidedBy)]⟩
  | some permission =>
    let reviewerRole := normalizeRole permission.role
    if permission.canApprove then some (authorized [("reviewer_role", .str reviewerRole)])
    else some ⟨false, "Reviewer role '" ++ permission.role ++ "' cannot approve protected actions.",
      [("guard", .str "reviewer-role"), ("attempted_decided_by", .str decidedBy),
        ("reviewer_role", .str reviewerRole)]⟩

/-- The permission tables decide in this order; no table at all permits every reviewer. -/
def authorizePermissions (engine : ApprovalAuthorizationEngine) (request : ApprovalRequest)
    (decision : ApprovalDecision) (decidedBy : String) : CheckResult :=
  ((engine.authorizeRolePermission request decision decidedBy).or
    (engine.authorizeReviewerPermission decidedBy)).getD (authorized [])

def authorize (engine : ApprovalAuthorizationEngine) (request : ApprovalRequest)
    (decision : ApprovalDecision) (currentStatus : ApprovalStatus) : CheckResult :=
  let transition := validateTransition currentStatus decision.status
  if !transition.allowed then transition
  else if decision.status = .rejected then ⟨true, "Approval rejection authorized.", []⟩
  else match decision.decidedBy with
    | none => ⟨false, "Approval decision is missing reviewer identity.",
        [("guard", .str "reviewer-identity")]⟩
    | some decidedBy =>
      if decidedBy = request.requestedBy then
        ⟨false, "Requester cannot approve their own approval request.",
          [("guard", .str "self-approval"), ("attempted_decided_by", .str decidedBy)]⟩
      else engine.authorizePermissions request decision decidedBy

end ApprovalAuthorizationEngine

/-! ## When a decision is authorized -/

@[simp] theorem validateTransition_allowed {current next : ApprovalStatus} :
    (validateTransition current next).allowed = true ↔
      current = .pending ∧ next ≠ .pending := by
  cases current <;> cases next <;> simp [validateTransition, allowedTransitions]

@[simp] theorem authorized_allowed (metadata : Dict) : (authorized metadata).allowed = true := rfl

@[simp] theorem denyRolePermission_allowed (reviewerRole constraint : String) (metadata : Dict) :
    (denyRolePermission reviewerRole constraint metadata).allowed = false := rfl

/-- A role permits exactly the requests on its three lists. -/
def RolePermits (permission : RolePermission) (request : ApprovalRequest) : Prop :=
  request.severity ∈ permission.allowedSeverities ∧
    listPermits permission.allowedActions request.action = true ∧
    listPermits permission.environments (some request.environment) = true

theorem authorizeRoleConstraints_allowed {request : ApprovalRequest}
    {decidedBy reviewerRole : String} {permission : RolePermission} :
    (authorizeRoleConstraints request decidedBy reviewerRole permission).allowed = true ↔
      RolePermits permission request := by
  unfold authorizeRoleConstraints RolePermits
  by_cases hs : request.severity ∈ permission.allowedSeverities
  · by_cases ha : listPermits permission.allowedActions request.action = true
    · by_cases he : listPermits permission.environments (some request.environment) = true
      · simp [hs, ha, he]
      · simp [hs, ha, he]
    · simp [hs, ha]
  · simp [hs]

namespace ApprovalAuthorizationEngine
variable [UnicodeTables] {engine : ApprovalAuthorizationEngine} {request : ApprovalRequest}
  {decision : ApprovalDecision} {status : ApprovalStatus}

/-- The role and reviewer permissions of the engine accept the reviewer's approval. -/
def Permits (engine : ApprovalAuthorizationEngine) (request : ApprovalRequest)
    (decision : ApprovalDecision) (decidedBy : String) : Prop :=
  (engine.authorizePermissions request decision decidedBy).allowed = true

/-- A decision is authorized when it rejects a pending request, or when another identity
than the requester approves it and the permission tables accept that reviewer. -/
theorem authorize_allowed : (engine.authorize request decision status).allowed = true ↔
    status = .pending ∧ (decision.status = .rejected ∨ decision.status = .approved ∧
      ∃ decidedBy, decision.decidedBy = some decidedBy ∧ decidedBy ≠ request.requestedBy ∧
        engine.Permits request decision decidedBy) := by
  unfold authorize
  by_cases ht : (validateTransition status decision.status).allowed = true
  · obtain ⟨rfl, hnext⟩ := validateTransition_allowed.mp ht
    cases hstatus : decision.status with
    | pending => exact absurd hstatus hnext
    | rejected => simp [validateTransition, allowedTransitions]
    | approved =>
      cases hby : decision.decidedBy with
      | none => simp [validateTransition, allowedTransitions]
      | some decidedBy =>
        by_cases hself : decidedBy = request.requestedBy
        · simp [validateTransition, allowedTransitions, hself]
        · simp [validateTransition, allowedTransitions, hself, Permits]
  · have hnone : ¬ (status = .pending ∧ decision.status ≠ .pending) :=
      fun h => ht (validateTransition_allowed.mpr h)
    have hf : (validateTransition status decision.status).allowed = false :=
      Bool.eq_false_iff.mpr ht
    simp only [hf, Bool.not_false, if_true, Bool.false_eq_true, false_iff]
    rintro ⟨hp, h⟩
    refine hnone ⟨hp, ?_⟩
    rcases h with h | ⟨h, -⟩ <;> simp [h]

/-- The permission tables read the severity, the action and the environment of a request. -/
theorem authorizePermissions_congr {request' : ApprovalRequest} {decidedBy : String}
    (hs : request.severity = request'.severity) (ha : request.action = request'.action)
    (he : request.environment = request'.environment) :
    engine.authorizePermissions request decision decidedBy =
      engine.authorizePermissions request' decision decidedBy := by
  simp only [authorizePermissions, authorizeRolePermission, authorizeRoleConstraints, hs, ha, he]

theorem authorize_congr {request' : ApprovalRequest}
    (hr : request.requestedBy = request'.requestedBy)
    (hs : request.severity = request'.severity) (ha : request.action = request'.action)
    (he : request.environment = request'.environment) :
    engine.authorize request decision status = engine.authorize request' decision status := by
  simp only [authorize, hr, authorizePermissions_congr hs ha he]

end ApprovalAuthorizationEngine

end Rygnal.Approval
