import Rygnal.Apply.ApprovedApply
import Rygnal.Library.Transition

/-! # Replay protection across processes

Threads of any number of processes apply patches. Each process has its own set of used
approvals, which a crash and a new process lose; the audit stores are durable. A label is one
step of one call between two points where other calls can come in, so that the calls
interleave in every order.
-/

namespace Rygnal.Apply
open Rygnal.Core Rygnal.Core.PyException Rygnal.Library Rygnal.Library.PyText Rygnal.Security
  Rygnal.ChangeRisk Rygnal.Approval Rygnal.Interceptor Rygnal.Library.Transition

/-! ## Processes -/

/-- Where a call of `apply_approved_patch` stands. -/
inductive Phase where
  | checking
  | readingHistory (report : ChangeRiskReport)
  | reserving (report : ChangeRiskReport)
  | checkingApplies (report : ChangeRiskReport)
  /-- The next step runs `git apply` on the target repository. -/
  | applying (report : ChangeRiskReport)
  | auditing (report : ChangeRiskReport)
  | returned (result : ApprovedPatchApplyResult)
  | raised (exc : PyException)
deriving DecidableEq

structure Running where
  process : ℕ
  call : ApplyCall
  phase : Phase

def Running.key (c : Running) : ApprovalUseKey := c.call.approvalUseKey

/-- `used` is `_USED_PATCH_APPROVALS` of each process. -/
structure World where
  used : ℕ → List ApprovalUseKey
  stores : ℕ → List AuditEvent
  calls : ℕ → Option Running
  crashed : ℕ → Bool

def World.initial : World := ⟨fun _ => [], fun _ => [], fun _ => none, fun _ => false⟩

/-- What the environment answers in one step of a call. -/
structure Answers where
  ambient : Ambient
  checks : CheckAnswers
  historyFault : Option PyException
  git : GitAnswer
  auditWrite : AuditWrite

inductive Label where
  | start (thread process : ℕ) (call : ApplyCall)
  | advance (thread : ℕ) (answers : Answers)
  | crash (process : ℕ)

namespace World

def setPhase (w : World) (t : ℕ) (c : Running) (phase : Phase) : World :=
  { w with calls := Function.update w.calls t (some { c with phase := phase }) }

/-- Append events to the store of the call's logger. -/
def append (w : World) (logger : Option Logger) (events : List AuditEvent) : World :=
  match logger with
  | none => w
  | some logger =>
    { w with stores := Function.update w.stores logger.store (w.stores logger.store ++ events) }

/-- `_reserve_approval_use` for a key that is not used. -/
def reserve (w : World) (p : ℕ) (key : ApprovalUseKey) : World :=
  { w with used := Function.update w.used p (key :: w.used p) }

/-- `_release_approval_use`. -/
def release (w : World) (p : ℕ) (key : ApprovalUseKey) : World :=
  { w with used := Function.update w.used p ((w.used p).filter (· ≠ key)) }

/-- `except Exception` releases the reservation. -/
def releaseOn (w : World) (p : ℕ) (key : ApprovalUseKey) (exc : PyException) : World :=
  if exc.isInstance [.exception] then w.release p key else w

end World

section System
variable [UnicodeTables] [Digest] [IsoTime]

/-- One step of a call that has not ended. -/
def advance (w : World) (t : ℕ) (c : Running) (answers : Answers) : Option World :=
  match c.phase with
  | .checking =>
    let (events, outcome) := checkCall answers.ambient answers.checks c.call
    some ((w.append c.call.logger events).setPhase t c (match outcome with
      | .ok report => .readingHistory report
      | .error exc => .raised exc))
  | .readingHistory report =>
    some (w.setPhase t c (match ensureApprovalNotPreviouslyApplied c.call.logger c.key w.stores
        answers.historyFault with
      | .ok () => .reserving report
      | .error exc => .raised exc))
  | .reserving report =>
    if c.key ∈ w.used c.process then some (w.setPhase t c (.raised alreadyUsedError))
    else some ((w.reserve c.process c.key).setPhase t c (.checkingApplies report))
  | .checkingApplies report =>
    match checkPatchApplies c.call.patchDiff.patch answers.git with
    | .ok () => some (w.setPhase t c (.applying report))
    | .error exc => some ((w.releaseOn c.process c.key exc).setPhase t c (.raised exc))
  | .applying report =>
    match applyPatch c.call.patchDiff.patch answers.git with
    | .ok () => some (w.setPhase t c (.auditing report))
    | .error exc => some ((w.releaseOn c.process c.key exc).setPhase t c (.raised exc))
  | .auditing report =>
    let result := applyResult c.call report
    let (events, exc) :=
      auditOutcome (approvedPatchApplyEvent answers.ambient c.call result) answers.auditWrite
    some ((w.append c.call.logger events).setPhase t c (match exc with
      | none => .returned result
      | some exc => .raised exc))
  | .returned _ | .raised _ => none

def step : Step World Label
  | w, .crash p => some { w with crashed := Function.update w.crashed p true }
  | w, .start t p call =>
    if w.crashed p || (w.calls t).isSome then none
    else some { w with calls := Function.update w.calls t (some ⟨p, call, .checking⟩) }
  | w, .advance t answers =>
    match w.calls t with
    | none => none
    | some c => if w.crashed c.process then none else advance w t c answers

/-! ## When a replay is refused -/

/-- Redaction leaves the three fields of the key alone. -/
def ApprovalUseKey.Stable (key : ApprovalUseKey) : Prop :=
  redactSensitiveString key.approvalId = key.approvalId ∧
    redactSensitiveString key.patchSha256 = key.patchSha256 ∧
    redactSensitiveString key.baselineCommitSha = key.baselineCommitSha

/-- A call for the key has returned in the process. -/
def World.ReturnedIn (w : World) (p : ℕ) (key : ApprovalUseKey) : Prop :=
  ∃ t c result, w.calls t = some c ∧ c.process = p ∧ c.key = key ∧ c.phase = .returned result

/-- A call for the key has returned with a logger over the store. -/
def World.ReturnedOver (w : World) (store : ℕ) (key : ApprovalUseKey) : Prop :=
  ∃ t c result logger, w.calls t = some c ∧ c.call.logger = some logger ∧ logger.store = store ∧
    c.key = key ∧ c.phase = .returned result

/-- Git, when it runs at all, ends with some result. -/
def GitAnswer.Orderly : GitAnswer → Prop
  | .raised _ => False
  | _ => True

/-- The checks raise nothing but errors of `apply_approved_patch`. -/
structure CheckAnswers.Orderly (answers : CheckAnswers) (call : ApplyCall) : Prop where
  showToplevel : answers.showToplevel.Orderly
  status : answers.status.Orderly
  head : answers.head.Orderly
  pathSafety : ∀ exc, answers.pathSafety ≠ .raised exc
  pathAudit : answers.pathAudit = .written
  riskReport : (riskReportOf answers call).isOk = true

/-- What a call for an approval that was applied before has to meet at its next step: the
checks and the reading of the history run orderly, and the key is stable or its process has
applied it. -/
def ReplayMet (w : World) (c : Running) (answers : Answers) : Prop :=
  match c.phase with
  | .checking => answers.checks.Orderly c.call
  | .readingHistory _ =>
    (∀ logger exc, c.call.logger = some logger → answers.historyFault = some exc →
      logger.storageBackend = true ∧ exc.isInstance [.exception] = true) ∧
    (c.key.Stable ∨ w.ReturnedIn c.process c.key)
  | _ => True

/-- The condition on a step; it binds only calls for approvals that were applied before. -/
def ReplayCondition (w : World) : Label → Prop
  | .advance t answers => ∀ c logger, w.calls t = some c → c.call.logger = some logger →
      w.ReturnedOver logger.store c.key → ReplayMet w c answers
  | _ => True

/-- The call has not touched the repository, and it can only end with an
`ApprovedPatchApplyError`. -/
def Phase.Refused : Phase → Prop
  | .checking | .readingHistory _ | .reserving _ => True
  | .raised exc => exc.isInstance [.approvedPatchApplyError] = true
  | _ => False

/-- How many steps a call takes at most until it ends. -/
def Phase.rank : Phase → ℕ
  | .checking => 6
  | .readingHistory _ => 5
  | .reserving _ => 4
  | .checkingApplies _ => 3
  | .applying _ => 2
  | .auditing _ => 1
  | .returned _ | .raised _ => 0

/-- The call of thread `t` began after `s` was reached, with a logger over a store to which a
call for the same approval had returned before. -/
def Replays (s w : World) (t : ℕ) (c : Running) : Prop :=
  s.calls t = none ∧ w.calls t = some c ∧
    ∃ logger, c.call.logger = some logger ∧ s.ReturnedOver logger.store c.key

/-- In every state of the run, every call that replays an applied approval is refused, and each
of its steps brings it nearer to its end. -/
def ReplaysRefused (ls : List Label) : Prop :=
  ∀ ls₁ ls₂ s w, ls₁ ++ ls₂ = ls → run step World.initial ls₁ = some s → run step s ls₂ = some w →
    ∀ t c, Replays s w t c → c.phase.Refused ∧
      (c.phase.rank ≠ 0 → w.crashed c.process = false → ∀ answers, ∃ w' c',
        step w (.advance t answers) = some w' ∧ w'.calls t = some c' ∧
          c'.phase.rank < c.phase.rank)

/-! ## What a step can do -/

/-- Every way in which a call can move. -/
inductive Advanced (w : World) (t : ℕ) (c : Running) (answers : Answers) : World → Prop
  | checked {events : List AuditEvent} {report : ChangeRiskReport} (phase : c.phase = .checking) :
      Advanced w t c answers ((w.append c.call.logger events).setPhase t c (.readingHistory report))
  | rejected {events : List AuditEvent} {exc : PyException} (phase : c.phase = .checking)
      (error : (checkCall answers.ambient answers.checks c.call).2 = .error exc) :
      Advanced w t c answers ((w.append c.call.logger events).setPhase t c (.raised exc))
  | read {report : ChangeRiskReport} (phase : c.phase = .readingHistory report)
      (unused : ensureApprovalNotPreviouslyApplied c.call.logger c.key w.stores
        answers.historyFault = .ok ()) :
      Advanced w t c answers (w.setPhase t c (.reserving report))
  | replayed {report : ChangeRiskReport} {exc : PyException}
      (phase : c.phase = .readingHistory report)
      (error : ensureApprovalNotPreviouslyApplied c.call.logger c.key w.stores
        answers.historyFault = .error exc) :
      Advanced w t c answers (w.setPhase t c (.raised exc))
  | reused {report : ChangeRiskReport} (phase : c.phase = .reserving report) :
      Advanced w t c answers (w.setPhase t c (.raised alreadyUsedError))
  | reserved {report : ChangeRiskReport} (phase : c.phase = .reserving report)
      (unused : c.key ∉ w.used c.process) :
      Advanced w t c answers
        ((w.reserve c.process c.key).setPhase t c (.checkingApplies report))
  | fits {report : ChangeRiskReport} (phase : c.phase = .checkingApplies report) :
      Advanced w t c answers (w.setPhase t c (.applying report))
  | patched {report : ChangeRiskReport} (phase : c.phase = .applying report) :
      Advanced w t c answers (w.setPhase t c (.auditing report))
  | failed {report : ChangeRiskReport} {exc : PyException}
      (phase : c.phase = .checkingApplies report ∨ c.phase = .applying report) :
      Advanced w t c answers ((w.releaseOn c.process c.key exc).setPhase t c (.raised exc))
  | logged {report : ChangeRiskReport} (phase : c.phase = .auditing report) :
      Advanced w t c answers
        ((w.append c.call.logger [storedEvent (approvedPatchApplyEvent answers.ambient c.call
          (applyResult c.call report))]).setPhase t c (.returned (applyResult c.call report)))
  | unlogged {report : ChangeRiskReport} {events : List AuditEvent} {exc : PyException}
      (phase : c.phase = .auditing report) :
      Advanced w t c answers ((w.append c.call.logger events).setPhase t c (.raised exc))

variable {w w' : World} {t : ℕ} {c : Running} {answers : Answers}

theorem advance_advanced (h : advance w t c answers = some w') : Advanced w t c answers w' := by
  unfold advance at h
  split at h
  · rename_i hphase
    cases hcheck : (checkCall answers.ambient answers.checks c.call).2 with
    | ok report =>
      simp only [hcheck, Option.some.injEq] at h
      subst h
      exact .checked hphase
    | error exc =>
      simp only [hcheck, Option.some.injEq] at h
      subst h
      exact .rejected hphase hcheck
  · rename_i hphase
    cases hread : ensureApprovalNotPreviouslyApplied c.call.logger c.key w.stores
      answers.historyFault with
    | ok u =>
      simp only [hread, Option.some.injEq] at h
      subst h
      exact .read hphase hread
    | error exc =>
      simp only [hread, Option.some.injEq] at h
      subst h
      exact .replayed hphase hread
  · rename_i hphase
    split at h
    · cases h
      exact .reused hphase
    · rename_i hunused
      cases h
      exact .reserved hphase hunused
  · rename_i hphase
    split at h
    · cases h
      exact .fits hphase
    · cases h
      exact .failed (.inl hphase)
  · rename_i hphase
    split at h
    · cases h
      exact .patched hphase
    · cases h
      exact .failed (.inr hphase)
  · rename_i hphase
    cases hwrite : answers.auditWrite with
    | written =>
      simp only [hwrite, auditOutcome, Option.some.injEq] at h
      subst h
      exact .logged hphase
    | failed exc =>
      simp only [hwrite, auditOutcome, Option.some.injEq] at h
      subst h
      exact .unlogged hphase
    | writtenThenFailed exc =>
      simp only [hwrite, auditOutcome, Option.some.injEq] at h
      subst h
      exact .unlogged hphase
  · cases h
  · cases h

/-- A step is a crash, the start of a call, or a step of a call whose process is alive. -/
theorem step_cases {l : Label} (h : step w l = some w') :
    (∃ p, l = .crash p ∧ w' = { w with crashed := Function.update w.crashed p true }) ∨
    (∃ t p call, l = .start t p call ∧ w.calls t = none ∧
      w' = { w with calls := Function.update w.calls t (some ⟨p, call, .checking⟩) }) ∨
    ∃ t answers c, l = .advance t answers ∧ w.calls t = some c ∧ Advanced w t c answers w' := by
  cases l with
  | crash p =>
    cases h
    exact .inl ⟨p, rfl, rfl⟩
  | start t p call =>
    simp only [step] at h
    split at h
    · cases h
    · rename_i hfree
      cases h
      rw [Bool.or_eq_true, not_or, Option.not_isSome_iff_eq_none] at hfree
      exact .inr (.inl ⟨t, p, call, rfl, hfree.2, rfl⟩)
  | advance t answers =>
    simp only [step] at h
    split at h
    · cases h
    · rename_i c hc
      split at h
      · cases h
      · exact .inr (.inr ⟨t, answers, c, rfl, hc, advance_advanced h⟩)

/-! ## What the checks raise -/

omit [UnicodeTables] [Digest] [IsoTime] in
/-- An orderly run of Git raises nothing but an error of `apply_approved_patch`. -/
theorem runGit_error {command : String} {answer : GitAnswer} (h : answer.Orderly)
    {exc : PyException} (herror : runGit command answer = .error exc) :
    exc.isInstance [.approvedPatchApplyError] = true := by
  cases answer with
  | missing =>
    cases herror
    rfl
  | raised e => exact h.elim
  | completed process =>
    rw [runGit] at herror
    split at herror
    · cases herror
      rfl
    · cases herror

theorem authorizeApply_error {call : ApplyCall} {report : ChangeRiskReport} {now : ℤ}
    {exc : PyException} (h : authorizeApply call report now = .error exc) :
    exc.isInstance [.approvedPatchApplyError] = true := by
  unfold authorizeApply at h
  rcases bind_eq_error.mp h with h | ⟨_, -, h⟩
  · exact (raiseIf_eq_error.mp h).2 ▸ rfl
  rcases bind_eq_error.mp h with h | ⟨_, -, h⟩
  · exact (raiseIf_eq_error.mp h).2 ▸ rfl
  rcases bind_eq_error.mp h with h | ⟨_, -, h⟩
  · cases hgranted : assertPatchApprovalGranted call.approvalRequest call.approvalDecision
        call.patchDiff now with
    | ok u =>
      rw [hgranted] at h
      cases h
    | error e =>
      rw [hgranted] at h
      cases h
      rfl
  unfold validateRequestForApply at h
  rcases bind_eq_error.mp h with h | ⟨_, -, h⟩
  · exact (raiseIf_eq_error.mp h).2 ▸ rfl
  rcases bind_eq_error.mp h with h | ⟨_, -, h⟩
  · exact (raiseIf_eq_error.mp h).2 ▸ rfl
  exact (raiseIf_eq_error.mp h).2 ▸ rfl

theorem checkPatch_error {answers : CheckAnswers} {call : ApplyCall} (ho : answers.Orderly call)
    {exc : PyException} (h : checkPatch answers call = .error exc) :
    exc.isInstance [.approvedPatchApplyError] = true := by
  unfold checkPatch at h
  rcases bind_eq_error.mp h with h | ⟨report, -, h⟩
  · have hok := ho.riskReport
    rw [h] at hok
    cases hok
  rcases bind_eq_error.mp h with h | ⟨_, -, h⟩
  · exact authorizeApply_error h
  rcases bind_eq_error.mp h with h | ⟨_, -, h⟩
  · unfold ensureCleanRepo at h
    rcases bind_eq_error.mp h with h | ⟨_, -, h⟩
    · exact runGit_error ho.status h
    · exact (raiseIf_eq_error.mp h).2 ▸ rfl
  rcases bind_eq_error.mp h with h | ⟨_, -, h⟩
  · unfold ensureTargetAtBaseline at h
    rcases bind_eq_error.mp h with h | ⟨_, -, h⟩
    · exact runGit_error ho.head h
    · exact (raiseIf_eq_error.mp h).2 ▸ rfl
  cases h

theorem checkCall_error {ambient : Ambient} {answers : CheckAnswers} {call : ApplyCall}
    (ho : answers.Orderly call) {exc : PyException}
    (h : (checkCall ambient answers call).2 = .error exc) :
    exc.isInstance [.approvedPatchApplyError] = true := by
  unfold checkCall at h
  split at h
  · rename_i e hroot
    cases h
    unfold ensureGitRepoRoot at hroot
    rcases bind_eq_error.mp hroot with hroot | ⟨_, -, hroot⟩
    · exact (raiseIf_eq_error.mp hroot).2 ▸ rfl
    rcases bind_eq_error.mp hroot with hroot | ⟨_, -, hroot⟩
    · exact runGit_error ho.showToplevel hroot
    · exact (raiseIf_eq_error.mp hroot).2 ▸ rfl
  · split at h
    · rename_i events e hpaths
      cases h
      unfold checkPaths at hpaths
      split at hpaths
      · cases hpaths
      · rename_i e hraised
        exact absurd hraised (ho.pathSafety e)
      · rw [ho.pathAudit] at hpaths
        split at hpaths
        · cases hpaths
          rfl
        · cases hpaths
          rfl
    · exact checkPatch_error ho h

omit [UnicodeTables] [Digest] [IsoTime] in
theorem history_error {logger : Option Logger} {key : ApprovalUseKey}
    {events : ℕ → List AuditEvent} {fault : Option PyException}
    (hfault : ∀ l exc, logger = some l → fault = some exc →
      l.storageBackend = true ∧ exc.isInstance [.exception] = true) {exc : PyException}
    (h : ensureApprovalNotPreviouslyApplied logger key events fault = .error exc) :
    exc.isInstance [.approvedPatchApplyError] = true := by
  unfold ensureApprovalNotPreviouslyApplied at h
  split at h
  · cases h
    rfl
  · rename_i l
    split at h
    · rename_i e
      cases h
      obtain ⟨hbackend, hexception⟩ := hfault l e rfl rfl
      unfold historyError
      cases happly : e.isInstance [.approvedPatchApplyError] with
      | true => simp [happly]
      | false =>
        simp only [hbackend, hexception, Bool.not_false, Bool.and_self, if_true]
        rfl
    · split at h
      · cases h
        rfl
      · cases h

/-! ## What the runs keep -/

/-- The event records an application for the key, as redaction leaves it. -/
structure Records (key : ApprovalUseKey) (event : AuditEvent) : Prop where
  policyId : event.policyId = some approvedPatchApplyPolicyId
  approvalId : eventField event "approval_id" = some (.str (redactSensitiveString key.approvalId))
  patchSha256 : eventField event "patch_sha256" =
    some (.str (redactSensitiveString key.patchSha256))
  baselineCommitSha : eventField event "baseline_commit_sha" =
    some (.str (redactSensitiveString key.baselineCommitSha))

omit [Digest] [IsoTime] in
theorem eventField_stored (ambient : Ambient) (call : ApplyCall)
    (result : ApprovedPatchApplyResult) (field : String) :
    eventField (storedEvent (approvedPatchApplyEvent ambient call result)) field =
      (PyDict.get result.auditSummary field).map fun v =>
        if isSensitiveKey field then .str redacted else storedValue v := by
  have hkeys : (result.auditSummary.map Prod.fst).Nodup := by
    have hnames : result.auditSummary.map Prod.fst = ["outcome", "applied", "target_repo_path",
      "patch_sha256", "baseline_commit_sha", "approval_id", "approved_by", "files",
      "overall_risk_level", "risk_counts", "risk_report"] := rfl
    rw [hnames]
    decide
  exact get_storedDict hkeys field

omit [Digest] [IsoTime] in
theorem records_stored (ambient : Ambient) (call : ApplyCall) (report : ChangeRiskReport) :
    Records call.approvalUseKey
      (storedEvent (approvedPatchApplyEvent ambient call (applyResult call report))) where
  policyId := rfl
  approvalId := by
    rw [eventField_stored]
    rfl
  patchSha256 := by
    rw [eventField_stored]
    rfl
  baselineCommitSha := by
    rw [eventField_stored]
    rfl

omit [Digest] [IsoTime] in
/-- A record of a stable key matches the key. -/
theorem Records.matches {key : ApprovalUseKey} {event : AuditEvent} (h : Records key event)
    (hs : key.Stable) : eventMatchesKey event key = true := by
  obtain ⟨hid, hpatch, hbaseline⟩ := hs
  unfold eventMatchesKey
  rw [h.approvalId, h.patchSha256, h.baselineCommitSha, hid, hpatch, hbaseline]
  simp

/-- The call holds its reservation. -/
def Phase.Holding : Phase → Prop
  | .checkingApplies _ | .applying _ | .auditing _ | .returned _ => True
  | _ => False

/-- The call has passed the replay check. -/
def Phase.Admitted : Phase → Prop
  | .reserving _ => True
  | phase => phase.Holding

omit [UnicodeTables] [Digest] [IsoTime] in
theorem Phase.Holding.admitted {phase : Phase} (h : phase.Holding) : phase.Admitted := by
  cases phase <;> trivial

/-- What every run keeps: an admitted call has a logger, a call that holds its reservation has
its key among the used ones and no other call of its process has it too, and a call that
returned has left its record. -/
structure Sound (w : World) : Prop where
  logger : ∀ t c, w.calls t = some c → c.phase.Admitted → c.call.logger.isSome
  held : ∀ t c, w.calls t = some c → c.phase.Holding → c.key ∈ w.used c.process
  exclusive : ∀ t₁ t₂ c₁ c₂, w.calls t₁ = some c₁ → w.calls t₂ = some c₂ → c₁.phase.Holding →
    c₂.phase.Holding → c₁.process = c₂.process → c₁.key = c₂.key → t₁ = t₂
  recorded : ∀ t c result logger, w.calls t = some c → c.phase = .returned result →
    c.call.logger = some logger → ∃ event ∈ w.stores logger.store, Records c.key event

omit [Digest] [IsoTime] in
theorem sound_initial : Sound World.initial where
  logger t c h := by cases h
  held t c h := by cases h
  exclusive t₁ t₂ c₁ c₂ h := by cases h
  recorded t c result logger h := by cases h

omit [UnicodeTables] [Digest] [IsoTime] in
@[simp] theorem setPhase_calls (w : World) (t : ℕ) (c : Running) (phase : Phase) :
    (w.setPhase t c phase).calls = Function.update w.calls t (some { c with phase := phase }) := rfl

omit [UnicodeTables] [Digest] [IsoTime] in
theorem setPhase_self (w : World) (t : ℕ) (c : Running) (phase : Phase) :
    (w.setPhase t c phase).calls t = some { c with phase := phase } := Function.update_self ..

omit [UnicodeTables] [Digest] [IsoTime] in
@[simp] theorem setPhase_stores (w : World) (t : ℕ) (c : Running) (phase : Phase) :
    (w.setPhase t c phase).stores = w.stores := rfl

omit [UnicodeTables] [Digest] [IsoTime] in
@[simp] theorem setPhase_used (w : World) (t : ℕ) (c : Running) (phase : Phase) :
    (w.setPhase t c phase).used = w.used := rfl

omit [UnicodeTables] [Digest] [IsoTime] in
@[simp] theorem append_calls (w : World) (logger : Option Logger) (events : List AuditEvent) :
    (w.append logger events).calls = w.calls := by
  cases logger <;> rfl

omit [UnicodeTables] [Digest] [IsoTime] in
@[simp] theorem append_used (w : World) (logger : Option Logger) (events : List AuditEvent) :
    (w.append logger events).used = w.used := by
  cases logger <;> rfl

omit [UnicodeTables] [Digest] [IsoTime] in
theorem mem_append_stores (w : World) (logger : Option Logger) (events : List AuditEvent) (n : ℕ)
    (e : AuditEvent) (h : e ∈ w.stores n) : e ∈ (w.append logger events).stores n := by
  cases logger with
  | none => exact h
  | some logger =>
    by_cases hn : n = logger.store
    · subst hn
      simp [World.append, h]
    · simp [World.append, hn, h]

omit [UnicodeTables] [Digest] [IsoTime] in
theorem mem_append_store (w : World) (logger : Logger) (event : AuditEvent) :
    event ∈ (w.append (some logger) [event]).stores logger.store := by
  simp [World.append]

omit [UnicodeTables] [Digest] [IsoTime] in
@[simp] theorem releaseOn_calls (w : World) (p : ℕ) (key : ApprovalUseKey) (exc : PyException) :
    (w.releaseOn p key exc).calls = w.calls := by
  unfold World.releaseOn
  split <;> rfl

omit [UnicodeTables] [Digest] [IsoTime] in
@[simp] theorem releaseOn_stores (w : World) (p : ℕ) (key : ApprovalUseKey) (exc : PyException) :
    (w.releaseOn p key exc).stores = w.stores := by
  unfold World.releaseOn
  split <;> rfl

omit [UnicodeTables] [Digest] [IsoTime] in
theorem mem_releaseOn (w : World) (p : ℕ) (key : ApprovalUseKey) (exc : PyException) (p' : ℕ)
    (key' : ApprovalUseKey) (h : key' ∈ w.used p') :
    key' ∈ (w.releaseOn p key exc).used p' ∨ p' = p ∧ key' = key := by
  unfold World.releaseOn
  split
  · by_cases hp : p' = p
    · subst hp
      by_cases hk : key' = key
      · exact .inr ⟨rfl, hk⟩
      · simp [World.release, h, hk]
    · simp [World.release, h, hp]
  · exact .inl h

omit [UnicodeTables] [Digest] [IsoTime] in
theorem mem_reserve (w : World) (p : ℕ) (key : ApprovalUseKey) (p' : ℕ) (key' : ApprovalUseKey)
    (h : key' ∈ w.used p') : key' ∈ (w.reserve p key).used p' := by
  by_cases hp : p' = p
  · subst hp
    simp [World.reserve, h]
  · simp [World.reserve, hp, h]

omit [Digest] [IsoTime] in
/-- A move of one call keeps the invariant when it loses no event and no reservation but the
call's own, and takes only a reservation that is free. -/
theorem Sound.move (hs : Sound w) {phase : Phase} (hc : w.calls t = some c)
    (hcalls : w'.calls = w.calls) (hstores : ∀ n e, e ∈ w.stores n → e ∈ w'.stores n)
    (hused : ∀ p key, key ∈ w.used p → key ∈ w'.used p ∨
      p = c.process ∧ key = c.key ∧ ¬ phase.Holding ∧ c.phase.Holding)
    (hholding : phase.Holding → c.key ∈ w'.used c.process ∧
      (c.phase.Holding ∨ c.key ∉ w.used c.process))
    (hlogger : phase.Admitted → c.call.logger.isSome)
    (hrecorded : ∀ result logger, phase = .returned result → c.call.logger = some logger →
      ∃ event ∈ w'.stores logger.store, Records c.key event) : Sound (w'.setPhase t c phase) := by
  have hself : (w'.setPhase t c phase).calls t = some { c with phase := phase } := by
    rw [setPhase_calls, Function.update_self]
  have hother : ∀ u, u ≠ t → (w'.setPhase t c phase).calls u = w.calls u := by
    intro u hu
    rw [setPhase_calls, Function.update_of_ne hu, hcalls]
  -- two calls, one of them the moved one, do not hold the same reservation
  have hfree : ∀ u d, u ≠ t → w.calls u = some d → d.phase.Holding → phase.Holding →
      c.process = d.process → c.key = d.key → False := by
    intro u d hu hd hdh hh hp hk
    rcases (hholding hh).2 with hch | hnot
    · exact hu (hs.exclusive u t d c hd hc hdh hch hp.symm hk.symm)
    · apply hnot
      rw [hp, hk]
      exact hs.held u d hd hdh
  constructor
  · intro u d hd hadm
    by_cases hu : u = t
    · subst hu
      rw [hself] at hd
      cases hd
      exact hlogger hadm
    · rw [hother u hu] at hd
      exact hs.logger u d hd hadm
  · intro u d hd hh
    by_cases hu : u = t
    · subst hu
      rw [hself] at hd
      cases hd
      exact (hholding hh).1
    · rw [hother u hu] at hd
      rcases hused _ _ (hs.held u d hd hh) with hin | ⟨hp, hk, -, hch⟩
      · exact hin
      · exact absurd (hs.exclusive u t d c hd hc hh hch hp hk) hu
  · intro u₁ u₂ d₁ d₂ hd₁ hd₂ hh₁ hh₂ hp hk
    by_cases hu₁ : u₁ = t
    · by_cases hu₂ : u₂ = t
      · rw [hu₁, hu₂]
      · rw [hu₁, hself] at hd₁
        cases hd₁
        rw [hother u₂ hu₂] at hd₂
        exact (hfree u₂ d₂ hu₂ hd₂ hh₂ hh₁ hp hk).elim
    · rw [hother u₁ hu₁] at hd₁
      by_cases hu₂ : u₂ = t
      · rw [hu₂, hself] at hd₂
        cases hd₂
        exact (hfree u₁ d₁ hu₁ hd₁ hh₁ hh₂ hp.symm hk.symm).elim
      · rw [hother u₂ hu₂] at hd₂
        exact hs.exclusive u₁ u₂ d₁ d₂ hd₁ hd₂ hh₁ hh₂ hp hk
  · intro u d result logger hd hreturned hlog
    by_cases hu : u = t
    · subst hu
      rw [hself] at hd
      cases hd
      exact hrecorded result logger hreturned hlog
    · rw [hother u hu] at hd
      have ⟨event, hmem, hrec⟩ := hs.recorded u d result logger hd hreturned hlog
      exact ⟨event, hstores _ _ hmem, hrec⟩

omit [Digest] [IsoTime] in
/-- A call that is not admitted after the move takes nothing. -/
theorem Sound.move_idle (hs : Sound w) {phase : Phase} (hc : w.calls t = some c)
    (hcalls : w'.calls = w.calls) (hused : w'.used = w.used)
    (hstores : ∀ n e, e ∈ w.stores n → e ∈ w'.stores n) (hphase : ¬ phase.Admitted) :
    Sound (w'.setPhase t c phase) := by
  apply hs.move hc hcalls hstores
  · intro p key hkey
    rw [hused]
    exact .inl hkey
  · intro h
    exact absurd h.admitted hphase
  · intro h
    exact absurd h hphase
  · intro result logger h
    subst h
    exact absurd trivial hphase

omit [Digest] [IsoTime] in
/-- A call that holds its reservation goes on with it. -/
theorem Sound.move_holding (hs : Sound w) {phase : Phase} (hc : w.calls t = some c)
    (hcalls : w'.calls = w.calls) (hused : w'.used = w.used)
    (hstores : ∀ n e, e ∈ w.stores n → e ∈ w'.stores n) (hphase : c.phase.Holding)
    (hrecorded : ∀ result logger, phase = .returned result → c.call.logger = some logger →
      ∃ event ∈ w'.stores logger.store, Records c.key event) :
    Sound (w'.setPhase t c phase) := by
  apply hs.move hc hcalls hstores
  · intro p key hkey
    rw [hused]
    exact .inl hkey
  · intro _
    rw [hused]
    exact ⟨hs.held t c hc hphase, .inl hphase⟩
  · intro _
    exact hs.logger t c hc hphase.admitted
  · exact hrecorded

theorem Sound.advanced (hs : Sound w) (hc : w.calls t = some c)
    (h : Advanced w t c answers w') : Sound w' := by
  cases h with
  | checked hphase =>
    exact hs.move_idle hc (append_calls ..) (append_used ..) (mem_append_stores w _ _) id
  | rejected hphase herror =>
    exact hs.move_idle hc (append_calls ..) (append_used ..) (mem_append_stores w _ _) id
  | replayed hphase herror => exact hs.move_idle hc rfl rfl (fun _ _ h => h) id
  | reused hphase => exact hs.move_idle hc rfl rfl (fun _ _ h => h) id
  | unlogged hphase =>
    exact hs.move_idle hc (append_calls ..) (append_used ..) (mem_append_stores w _ _) id
  | read hphase hunused =>
    apply hs.move hc rfl (fun _ _ h => h) (fun _ _ h => .inl h)
    · exact False.elim
    · intro _
      cases hlogger : c.call.logger with
      | none =>
        rw [hlogger] at hunused
        cases hunused
      | some logger => rfl
    · nofun
  | reserved hphase hunused =>
    have hcalls : (w.reserve c.process c.key).calls = w.calls := rfl
    apply hs.move hc hcalls (fun _ _ h => h) (fun p key h => .inl (mem_reserve w _ _ p key h))
    · intro _
      exact ⟨by simp [World.reserve], .inr hunused⟩
    · intro _
      exact hs.logger t c hc (by rw [hphase]; trivial)
    · nofun
  | fits hphase =>
    apply hs.move_holding hc rfl rfl (fun _ _ h => h)
    · rw [hphase]; trivial
    · nofun
  | patched hphase =>
    apply hs.move_holding hc rfl rfl (fun _ _ h => h)
    · rw [hphase]; trivial
    · nofun
  | failed hphase =>
    have hholding : c.phase.Holding := by
      rcases hphase with hphase | hphase
      · rw [hphase]; trivial
      · rw [hphase]; trivial
    apply hs.move hc (releaseOn_calls ..)
    · intro n e he
      rw [releaseOn_stores]
      exact he
    · intro p key hkey
      rcases mem_releaseOn w c.process c.key _ p key hkey with hin | ⟨hp, hk⟩
      · exact .inl hin
      · exact .inr ⟨hp, hk, id, hholding⟩
    · exact False.elim
    · exact False.elim
    · nofun
  | logged hphase =>
    apply hs.move_holding hc (append_calls ..) (append_used ..) (mem_append_stores w _ _)
    · rw [hphase]; trivial
    · intro result logger _ hlogger
      rw [hlogger]
      exact ⟨_, mem_append_store w logger _, records_stored _ _ _⟩

theorem Sound.step {l : Label} (hs : Sound w) (h : step w l = some w') : Sound w' := by
  rcases step_cases h with ⟨p, rfl, rfl⟩ | ⟨t, p, call, rfl, hfree, rfl⟩ | ⟨t, answers, c, rfl, hc, hadv⟩
  · exact ⟨hs.logger, hs.held, hs.exclusive, hs.recorded⟩
  · -- a call that starts is not admitted, so the facts are about the other threads
    have hother : ∀ u d, Function.update w.calls t (some ⟨p, call, .checking⟩) u = some d →
        d.phase.Admitted → w.calls u = some d := by
      intro u d hd hadm
      by_cases hu : u = t
      · rw [hu, Function.update_self] at hd
        cases hd
        exact hadm.elim
      · rwa [Function.update_of_ne hu] at hd
    constructor
    · intro u d hd hadm
      exact hs.logger u d (hother u d hd hadm) hadm
    · intro u d hd hh
      exact hs.held u d (hother u d hd hh.admitted) hh
    · intro u₁ u₂ d₁ d₂ hd₁ hd₂ hh₁ hh₂
      exact hs.exclusive u₁ u₂ d₁ d₂ (hother _ _ hd₁ hh₁.admitted) (hother _ _ hd₂ hh₂.admitted)
        hh₁ hh₂
    · intro u d result logger hd hreturned
      exact hs.recorded u d result logger (hother u d hd (by rw [hreturned]; trivial)) hreturned
  · exact hs.advanced hc hadv

/-! ## Replays -/

/-- Every move sets the phase of its own call and nothing else of any call. -/
theorem Advanced.calls (h : Advanced w t c answers w') :
    ∃ phase, w'.calls = Function.update w.calls t (some { c with phase := phase }) := by
  cases h with
  | checked | rejected | logged | unlogged => exact ⟨_, by rw [setPhase_calls, append_calls]⟩
  | read | replayed | reused | reserved | fits | patched => exact ⟨_, rfl⟩
  | failed => exact ⟨_, by rw [setPhase_calls, releaseOn_calls]⟩

/-- A call that has returned moves no more. -/
theorem step_returned {l : Label} (h : step w l = some w') {u : ℕ} {d : Running}
    {result : ApprovedPatchApplyResult} (hd : w.calls u = some d)
    (hreturned : d.phase = .returned result) : w'.calls u = some d := by
  rcases step_cases h with ⟨p, rfl, rfl⟩ | ⟨t, p, call, rfl, hfree, rfl⟩ | ⟨t, answers, c, rfl, hc, hadv⟩
  · exact hd
  · have hu : u ≠ t := by
      intro hu
      rw [hu, hfree] at hd
      cases hd
    exact (Function.update_of_ne hu _ _).trans hd
  · by_cases hu : u = t
    · subst hu
      rw [hc] at hd
      cases hd
      cases hadv with
      | checked hphase | rejected hphase | read hphase | replayed hphase | reused hphase
      | reserved hphase | fits hphase | patched hphase | logged hphase | unlogged hphase =>
        rw [hreturned] at hphase
        cases hphase
      | failed hphase =>
        rw [hreturned] at hphase
        rcases hphase with hphase | hphase
        · cases hphase
        · cases hphase
    · have ⟨phase, hcalls⟩ := hadv.calls
      rw [hcalls, Function.update_of_ne hu]
      exact hd

theorem World.ReturnedIn.step {l : Label} {p : ℕ} {key : ApprovalUseKey} (hr : w.ReturnedIn p key)
    (h : step w l = some w') : w'.ReturnedIn p key := by
  have ⟨t, c, result, hc, hp, hk, hreturned⟩ := hr
  exact ⟨t, c, result, step_returned h hc hreturned, hp, hk, hreturned⟩

theorem World.ReturnedOver.step {l : Label} {store : ℕ} {key : ApprovalUseKey}
    (hr : w.ReturnedOver store key) (h : step w l = some w') : w'.ReturnedOver store key := by
  have ⟨t, c, result, logger, hc, hlogger, hstore, hk, hreturned⟩ := hr
  exact ⟨t, c, result, logger, step_returned h hc hreturned, hlogger, hstore, hk, hreturned⟩

omit [Digest] [IsoTime] in
theorem Sound.used_of_returnedIn (hs : Sound w) {p : ℕ} {key : ApprovalUseKey}
    (hr : w.ReturnedIn p key) : key ∈ w.used p := by
  obtain ⟨t, c, result, hc, rfl, rfl, hreturned⟩ := hr
  exact hs.held t c hc (by rw [hreturned]; trivial)

omit [Digest] [IsoTime] in
/-- The history of a store over which a stable key was applied refuses the key. -/
theorem Sound.history_refuses (hs : Sound w) {logger : Logger} {key : ApprovalUseKey}
    (hr : w.ReturnedOver logger.store key) (hstable : key.Stable) (fault : Option PyException) :
    ensureApprovalNotPreviouslyApplied (some logger) key w.stores fault ≠ .ok () := by
  obtain ⟨t, c, result, l, hc, hl, hstore, rfl, hreturned⟩ := hr
  have ⟨event, hmem, hrecords⟩ := hs.recorded t c result l hc hreturned hl
  intro hok
  unfold ensureApprovalNotPreviouslyApplied at hok
  cases fault with
  | some exc => cases hok
  | none =>
    have hany : ((w.stores logger.store).filter fun event =>
        event.policyId = some approvedPatchApplyPolicyId).any
          (fun event => eventMatchesKey event c.key) = true := by
      apply List.any_eq_true.mpr
      refine ⟨event, List.mem_filter.mpr ⟨hstore ▸ hmem, ?_⟩, hrecords.matches hstable⟩
      exact decide_eq_true hrecords.policyId
    simp only [hany, if_true] at hok
    cases hok

/-- A replaying call is refused, and it passes the replay check only in a process where the key
is used. -/
structure Halted (w : World) (c : Running) : Prop where
  refused : c.phase.Refused
  used : ∀ report, c.phase = .reserving report → w.ReturnedIn c.process c.key

/-- A move of a replaying call that meets the condition leaves it refused. -/
theorem Halted.advanced (hs : Sound w) {logger : Logger} (hlogger : c.call.logger = some logger)
    (hover : w.ReturnedOver logger.store c.key) (hmet : ReplayMet w c answers) (hh : Halted w c)
    (h : Advanced w t c answers w') : ∃ phase, w'.calls t = some { c with phase := phase } ∧
      phase.Refused ∧ ∀ report, phase = .reserving report → w.ReturnedIn c.process c.key := by
  have hrefused := hh.refused
  cases h with
  | checked hphase =>
    exact ⟨_, setPhase_self .., trivial, nofun⟩
  | rejected hphase herror =>
    rw [ReplayMet, hphase] at hmet
    exact ⟨_, setPhase_self .., checkCall_error hmet herror,
      nofun⟩
  | read hphase hunused =>
    rw [ReplayMet, hphase] at hmet
    refine ⟨_, setPhase_self .., trivial, ?_⟩
    intro _ _
    rcases hmet.2 with hstable | hin
    · rw [hlogger] at hunused
      exact absurd hunused (hs.history_refuses hover hstable _)
    · exact hin
  | replayed hphase herror =>
    rw [ReplayMet, hphase] at hmet
    exact ⟨_, setPhase_self .., history_error hmet.1 herror,
      nofun⟩
  | reused hphase =>
    exact ⟨_, setPhase_self .., rfl, nofun⟩
  | reserved hphase hunused =>
    exact absurd (hs.used_of_returnedIn (hh.used _ hphase)) hunused
  | fits hphase | patched hphase | logged hphase | unlogged hphase =>
    rw [hphase] at hrefused
    exact hrefused.elim
  | failed hphase =>
    rcases hphase with hphase | hphase
    · rw [hphase] at hrefused
      exact hrefused.elim
    · rw [hphase] at hrefused
      exact hrefused.elim

/-- Every call that replays an approval applied in `s` is halted. -/
structure Guarded (s w : World) : Prop where
  sound : Sound w
  kept : ∀ store key, s.ReturnedOver store key → w.ReturnedOver store key
  halted : ∀ t c, Replays s w t c → Halted w c

omit [Digest] [IsoTime] in
theorem guarded_self (hs : Sound w) : Guarded w w where
  sound := hs
  kept _ _ h := h
  halted t c h := by
    have hnone := h.1
    rw [h.2.1] at hnone
    cases hnone

theorem Guarded.step {s : World} {l : Label} (hg : Guarded s w) (hmet : ReplayCondition w l)
    (h : step w l = some w') : Guarded s w' := by
  have hover : ∀ store key, s.ReturnedOver store key → w'.ReturnedOver store key := by
    intro store key hr
    exact (hg.kept store key hr).step h
  rcases step_cases h with ⟨p, rfl, rfl⟩ | ⟨t, p, call, rfl, hfree, rfl⟩ | ⟨t, answers, c, rfl, hc, hadv⟩
  · refine ⟨hg.sound.step h, hover, ?_⟩
    intro u d hreplays
    have hh := hg.halted u d hreplays
    exact ⟨hh.refused, fun report hphase => (hh.used report hphase).step h⟩
  · refine ⟨hg.sound.step h, hover, ?_⟩
    intro u d ⟨hnew, hd, logger, hlogger, hr⟩
    change Function.update w.calls t (some ⟨p, call, .checking⟩) u = some d at hd
    by_cases hut : u = t
    · rw [hut, Function.update_self] at hd
      cases hd
      exact ⟨trivial, nofun⟩
    · rw [Function.update_of_ne hut] at hd
      have hh := hg.halted u d ⟨hnew, hd, logger, hlogger, hr⟩
      exact ⟨hh.refused, fun report hphase => (hh.used report hphase).step h⟩
  · have ⟨phase, hcalls⟩ := hadv.calls
    refine ⟨hg.sound.step h, hover, ?_⟩
    intro u d ⟨hnew, hd, logger, hlogger, hr⟩
    by_cases hut : u = t
    · subst hut
      have hd' := hd
      rw [hcalls, Function.update_self] at hd'
      cases hd'
      have hh := hg.halted u c ⟨hnew, hc, logger, hlogger, hr⟩
      have hlogger' : c.call.logger = some logger := hlogger
      have hreturned : w.ReturnedOver logger.store c.key := hg.kept _ _ hr
      have ⟨phase', hc', hrefused, hused⟩ :=
        Halted.advanced hg.sound hlogger' hreturned (hmet c logger hc hlogger hreturned) hh hadv
      rw [hd] at hc'
      cases hc'
      exact ⟨hrefused, fun report hphase => (hused report hphase).step h⟩
    · rw [hcalls, Function.update_of_ne hut] at hd
      have hh := hg.halted u d ⟨hnew, hd, logger, hlogger, hr⟩
      exact ⟨hh.refused, fun report hphase => (hh.used report hphase).step h⟩

/-- Each step brings a call nearer to its end. -/
theorem Advanced.rank_lt (h : Advanced w t c answers w') :
    ∃ c', w'.calls t = some c' ∧ c'.phase.rank < c.phase.rank := by
  cases h with
  | checked hphase | rejected hphase | read hphase | replayed hphase | reused hphase
  | reserved hphase | fits hphase | patched hphase | logged hphase | unlogged hphase =>
    exact ⟨_, setPhase_self .., by simp [hphase, Phase.rank]⟩
  | failed hphase =>
    refine ⟨_, setPhase_self .., ?_⟩
    rcases hphase with hphase | hphase
    · simp [hphase, Phase.rank]
    · simp [hphase, Phase.rank]

/-- A call that has not ended can take a step, whatever the environment answers. -/
theorem exists_advance (hrank : c.phase.rank ≠ 0) (answers : Answers) :
    ∃ w', advance w t c answers = some w' := by
  unfold advance
  cases hphase : c.phase with
  | returned result => exact absurd (by rw [hphase]; rfl) hrank
  | raised exc => exact absurd (by rw [hphase]; rfl) hrank
  | checking | readingHistory report | auditing report => exact ⟨_, rfl⟩
  | reserving report | checkingApplies report | applying report =>
    dsimp only
    split
    · exact ⟨_, rfl⟩
    · exact ⟨_, rfl⟩

/-- Calls of which each has a stable key and orderly answers meet the condition. -/
theorem meets_of_stable {ls : List Label} {calls : List ApplyCall}
    (hstable : ∀ call ∈ calls, call.approvalUseKey.Stable)
    (hstart : ∀ t p call, .start t p call ∈ ls → call ∈ calls)
    (hanswers : ∀ t answers, .advance t answers ∈ ls →
      answers.historyFault = none ∧ ∀ call ∈ calls, answers.checks.Orderly call) :
    Meets step ReplayCondition World.initial ls := by
  have hcalls : ∀ w l w', (∀ t c, w.calls t = some c → c.call ∈ calls) → l ∈ ls →
      step w l = some w' → ∀ t c, w'.calls t = some c → c.call ∈ calls := by
    intro w l w' hw hl h u d hd
    rcases step_cases h with ⟨p, rfl, rfl⟩ | ⟨t, p, call, rfl, hfree, rfl⟩ |
      ⟨t, answers, c, rfl, hc, hadv⟩
    · exact hw u d hd
    · change Function.update w.calls t (some ⟨p, call, .checking⟩) u = some d at hd
      by_cases hut : u = t
      · rw [hut, Function.update_self] at hd
        cases hd
        exact hstart t p call hl
      · rw [Function.update_of_ne hut] at hd
        exact hw u d hd
    · have ⟨phase, hcalls⟩ := hadv.calls
      rw [hcalls] at hd
      by_cases hut : u = t
      · rw [hut, Function.update_self] at hd
        cases hd
        exact hw t c hc
      · rw [Function.update_of_ne hut] at hd
        exact hw u d hd
  apply meets_of_invariant hcalls _ (by intro t c hc; cases hc) fun l hl => hl
  intro w l hw hl
  cases l with
  | crash p => trivial
  | start t p call => trivial
  | advance t answers =>
    intro c logger hc _ _
    have ⟨hfault, hchecks⟩ := hanswers t answers hl
    have hcall := hw t c hc
    unfold ReplayMet
    split
    · exact hchecks c.call hcall
    · constructor
      · intro _ exc _ hexc
        rw [hfault] at hexc
        cases hexc
      · exact .inl (hstable c.call hcall)
    · trivial

end System

/-! ## Two processes apply one approval -/

namespace Sample

/-- The digest of the one payload of the sample. -/
scoped instance digest : Digest :=
  ⟨fun _ => "2c26b46b68ffc68ff99b453c1d30413413422d706483bfa0f98a5e886266e7ae"⟩

/-- The two times of the sample. -/
scoped instance isoTime : IsoTime where
  fromIsoFormat text :=
    if text = "2026-01-01T00:00:00+00:00".toList then some 1767225600000000
    else if text = "2026-01-01T00:05:00+00:00".toList then some 1767225900000000
    else none

def patchDiff : PatchDiff where
  workspacePath := "/work/ws"
  baselineCommitSha := "4b825dc642cb6eb9a060e54bf8d69288fbee4904"
  patch := Utf8.ofText "diff --git a/app.py b/app.py\n".toList
  patchSha256 := "e3b0c44298fc1c149afbf4c8996fb92427ae41e4649b934ca495991b7852b855"
  patchSizeBytes := 29
  files := [⟨"app.py", .modified, some 1, some 0, false, none, none, none, false⟩]
  ignoredFiles := []

def report : ChangeRiskReport where
  baselineCommitSha := patchDiff.baselineCommitSha
  patchSha256 := patchDiff.patchSha256
  files := [⟨"app.py", .modified, .medium, [⟨"source-change", .medium, "Source changed.", []⟩],
    some 1, some 0, false, none, none, none, false, none⟩]
  reportReasons := []

def request (approvalId : String) (h : isPresent approvalId = true) : ApprovalRequest where
  approvalId := approvalId
  createdAt := "2026-01-01T00:00:00+00:00"
  traceId := "trace_1f"
  requestedBy := "dev-1"
  agentId := "agent-1"
  environment := "dev"
  toolName := "guarded_workspace"
  action := some "approve_patch_apply"
  target := .str patchDiff.patchSha256
  policyId := some "guarded-workspace-risky-patch-approval"
  reason := "Patch is risky."
  severity := .medium
  riskAssessment := []
  metadata := [("baseline_commit_sha", .str patchDiff.baselineCommitSha)]
  contextPresent := by
    simp only [List.forall_mem_cons]
    exact ⟨h, by decide, by decide, by decide, by decide, by decide, by decide, by decide, nofun⟩

open PyText.Ascii in
def call (approvalId : String) (h : isPresent approvalId = true) : ApplyCall where
  patchDiff := patchDiff
  targetRepo := "/work/repo"
  approvalRequest := request approvalId h
  approvalDecision := withReceipt
    (patchDecision (request approvalId h) true "lead-1" "fine" "2026-01-01T00:05:00+00:00")
    ((calculateApprovalReceiptHash (request approvalId h) (patchDecision (request approvalId h)
      true "lead-1" "fine" "2026-01-01T00:05:00+00:00")).toOption.getD "")
  riskReport := some report
  logger := some ⟨0, true⟩

def completed (stdout : String) : GitAnswer := .completed ⟨0, stdout.toList, []⟩

def answers : Answers where
  ambient := ⟨"trace_1f", "", "", fun _ => ""⟩
  checks := {
    targetExists := true
    showToplevel := completed "/work/repo\n"
    toplevelIsTarget := fun text => text = "/work/repo".toList
    pathSafety := .safe
    pathAudit := .written
    analyses := ⟨fun _ _ => ⟨false, none, none, [], none, none, none, none, none, none, none⟩,
      fun _ => ⟨false, false, false, false, false, []⟩, fun _ _ => []⟩
    status := completed ""
    head := completed "4b825dc642cb6eb9a060e54bf8d69288fbee4904\n"
    now := 1767225960000000 }
  historyFault := none
  git := completed ""
  auditWrite := .written

/-- Two calls for one approval, the second one in a new process. -/
def applied (approvalId : String) (h : isPresent approvalId = true) : List Label :=
  .start 0 1 (call approvalId h) :: List.replicate 6 (.advance 0 answers) ++ [.crash 1]

def repeated (approvalId : String) (h : isPresent approvalId = true) : List Label :=
  .start 1 2 (call approvalId h) :: List.replicate 6 (.advance 1 answers)

/-- The call has returned, for the key and with the logger of the sample. -/
def returned (approvalId : String) (c : Running) : Bool :=
  c.key = ⟨approvalId, patchDiff.patchSha256, patchDiff.baselineCommitSha⟩ &&
    c.call.logger = some ⟨0, true⟩ &&
    match c.phase with
    | .returned _ => true
    | _ => false

theorem returned_iff {approvalId : String} {c : Running} : returned approvalId c = true ↔
    c.key = ⟨approvalId, patchDiff.patchSha256, patchDiff.baselineCommitSha⟩ ∧
      c.call.logger = some ⟨0, true⟩ ∧ ∃ result, c.phase = .returned result := by
  cases hphase : c.phase <;> simp [returned, hphase]

end Sample

end Rygnal.Apply
