import Rygnal.Approval.Queue
import Rygnal.Library.Transition

/-! # Processes sharing one approval database

Every process has its own authorization engine and its own cache of loaded items. A label
is one transaction of one process, so the transactions interleave in every order.
-/

namespace Rygnal.Approval
open Rygnal.Core Rygnal.Library Rygnal.Library.PyText Rygnal.Library.Transition

/-- One transaction of a process. `load` is `_load_items`, which every submit, list and get
runs in a transaction of its own. -/
inductive Call where
  | submit (request : ApprovalRequest)
  | load
  | approve (approvalId decidedBy reason decidedAt : String)
  | reject (approvalId decidedBy reason decidedAt : String)
  | recordDecision (approvalId : String) (decision : ApprovalDecision)

/-- `answers` are the approvals that decision calls have returned so far. -/
structure SharedQueue where
  rows : ApprovalTable
  caches : ℕ → Items
  answers : List (String × QueuedApproval)

def SharedQueue.initial : SharedQueue := ⟨[], fun _ => [], []⟩

section Steps
variable [UnicodeTables]

/-- The decision that a call hands to `record_decision`. -/
def Call.decision? : Call → Option (String × ApprovalDecision)
  | .approve approvalId decidedBy reason decidedAt =>
    some (approvalId, decide approvalId true decidedBy reason decidedAt)
  | .reject approvalId decidedBy reason decidedAt =>
    some (approvalId, decide approvalId false decidedBy reason decidedAt)
  | .recordDecision approvalId decision => some (approvalId, decision)
  | .submit _ | .load => none

def submitStep (q : SharedQueue) (request : ApprovalRequest) : SharedQueue :=
  match SQLiteApprovalQueue.submit q.rows request with
  | .ok rows => { q with rows := rows }
  | .error _ => q

def decideStep (engine : ApprovalAuthorizationEngine) (q : SharedQueue) (process : ℕ)
    (approvalId : String) (decision : ApprovalDecision) : SharedQueue :=
  match SQLiteApprovalQueue.recordDecision engine q.rows approvalId decision with
  | .ok (answer, rows) =>
    { rows := rows
      caches := Function.update q.caches process ((q.caches process).set approvalId answer)
      answers := (approvalId, answer) :: q.answers }
  | .error _ => q

/-- A refused transaction leaves everything as it was. -/
def queueStep (engines : ℕ → ApprovalAuthorizationEngine) : Step SharedQueue (ℕ × Call)
  | q, (_, .submit request) => some (submitStep q request)
  | q, (process, .load) =>
    some { q with
      caches := Function.update q.caches process (SQLiteApprovalQueue.loadItems q.rows) }
  | q, (process, call) =>
    call.decision?.map fun d => decideStep (engines process) q process d.1 d.2

/-! ## One step -/

variable {engines : ℕ → ApprovalAuthorizationEngine} {q q' : SharedQueue}

/-- The decision call of a step found this pending row and was authorized for it. -/
structure Authorizes (engines : ℕ → ApprovalAuthorizationEngine) (process : ℕ) (call : Call)
    (q : SharedQueue) (row : ApprovalRow) (decision : ApprovalDecision) : Prop where
  presented : call.decision? = some (row.approvalId, decision)
  pending : row ∈ q.rows ∧ row.status = .pending
  transition : (validateTransition .pending decision.status).allowed = true
  authorization :
    ((engines process).authorize row.request decision .pending).allowed = true

/-- What one step does to the table and to the answers. -/
inductive QueueEffect (engines : ℕ → ApprovalAuthorizationEngine) (process : ℕ) (call : Call)
    (q q' : SharedQueue) : Prop
  | quiet (rows : q'.rows = q.rows) (answers : q'.answers = q.answers)
  | inserted (request : ApprovalRequest)
      (absent : SQLiteApprovalQueue.selectRow q.rows request.approvalId = none)
      (rows : q'.rows = q.rows.insert (ApprovalRow.inserted request))
      (answers : q'.answers = q.answers)
  | replayed (row : ApprovalRow) (found : row ∈ q.rows) (terminal : row.status ≠ .pending)
      (rows : q'.rows = q.rows)
      (answers : q'.answers = (row.approvalId, row.item) :: q.answers)
  | decided (row : ApprovalRow) (decision : ApprovalDecision) (answer : QueuedApproval)
      (terminal : decision.status ≠ .pending)
      (authorizes : Authorizes engines process call q row decision)
      (status : answer.status = decision.status)
      (rows : q'.rows = q.rows.update (SQLiteApprovalQueue.pendingRow row.approvalId)
        (ApprovalRow.decided decision terminal))
      (answers : q'.answers = (row.approvalId, answer) :: q.answers)

theorem decideStep_effect {process : ℕ} {call : Call} {approvalId : String}
    {decision : ApprovalDecision} (hcall : call.decision? = some (approvalId, decision)) :
    QueueEffect engines process call q
      (decideStep (engines process) q process approvalId decision) := by
  unfold decideStep
  cases hrecord : SQLiteApprovalQueue.recordDecision (engines process) q.rows approvalId
    decision with
  | error e => exact .quiet rfl rfl
  | ok result =>
    obtain ⟨answer, rows⟩ := result
    obtain ⟨row, hrow, hid, hcase⟩ := SQLiteApprovalQueue.recordDecision_eq_ok hrecord
    obtain ⟨hmem, rfl⟩ := SQLiteApprovalQueue.selectRow_mem hrow
    rcases hcase with ⟨hne, rfl, rfl⟩ | ⟨hp, ha, hauth, hs, rfl⟩
    · exact .replayed row hmem hne rfl rfl
    · have htransition := validateTransition_allowed.mpr ⟨rfl, hs⟩
      exact .decided row decision answer hs ⟨hcall, ⟨hmem, hp⟩, htransition, hp ▸ hauth⟩ ha rfl rfl

theorem queueStep_effect {process : ℕ} {call : Call}
    (h : queueStep engines q (process, call) = some q') :
    QueueEffect engines process call q q' := by
  cases call with
  | submit request =>
    simp only [queueStep, submitStep, Option.some.injEq] at h
    split at h
    · rename_i rows hsubmit
      subst h
      rcases SQLiteApprovalQueue.submit_eq_ok hsubmit with ⟨rfl, -⟩ | ⟨rfl, hnone⟩
      · exact .quiet rfl rfl
      · exact .inserted request hnone rfl rfl
    · subst h
      exact .quiet rfl rfl
  | load =>
    simp only [queueStep, Option.some.injEq] at h
    subst h
    exact .quiet rfl rfl
  | approve | reject | recordDecision =>
    simp only [queueStep, Call.decision?, Option.map_some, Option.some.injEq] at h
    exact h ▸ decideStep_effect rfl

/-- A decided row is not touched again. -/
theorem queueStep_terminal {process : ℕ} {call : Call} {row : ApprovalRow}
    (h : queueStep engines q (process, call) = some q') (hr : row ∈ q.rows)
    (ht : row.status ≠ .pending) : row ∈ q'.rows := by
  cases queueStep_effect h with
  | quiet rows _ => exact rows ▸ hr
  | inserted _ _ rows _ => exact rows ▸ Table.mem_insert.mpr (.inl hr)
  | replayed _ _ _ rows _ => exact rows ▸ hr
  | decided _ _ _ _ _ _ rows _ =>
    rw [rows]
    exact Table.mem_update_of_not hr (by simp [SQLiteApprovalQueue.pendingRow, ht])

/-! ## Runs -/

/-- Ids are unique, and every answer is the status of a decided row. -/
structure QueueSound (q : SharedQueue) : Prop where
  ids : Table.Unique ApprovalRow.approvalId q.rows
  answers : ∀ a ∈ q.answers, a.2.status ≠ .pending ∧
    ∃ row ∈ q.rows, row.approvalId = a.1 ∧ row.status = a.2.status

omit [UnicodeTables] in
theorem QueueSound.initial : QueueSound SharedQueue.initial :=
  ⟨.nil _, fun a ha => by simp [SharedQueue.initial] at ha⟩

theorem queueStep_sound {process : ℕ} {call : Call} (h : QueueSound q)
    (hstep : queueStep engines q (process, call) = some q') : QueueSound q' := by
  have hold : ∀ a ∈ q.answers, a.2.status ≠ .pending ∧
      ∃ row ∈ q'.rows, row.approvalId = a.1 ∧ row.status = a.2.status := by
    intro a ha
    obtain ⟨hne, row, hr, hid, hs⟩ := h.answers a ha
    exact ⟨hne, row, queueStep_terminal hstep hr (hs ▸ hne), hid, hs⟩
  cases queueStep_effect hstep with
  | quiet rows answers => exact ⟨rows ▸ h.ids, answers ▸ hold⟩
  | inserted request absent rows answers =>
    refine ⟨rows ▸ h.ids.insert fun row hr => ?_, answers ▸ hold⟩
    exact of_decide_eq_false (Table.selectOne_eq_none.mp absent row hr)
  | replayed row found terminal rows answers =>
    refine ⟨rows ▸ h.ids, fun a ha => ?_⟩
    rw [answers] at ha
    rcases List.mem_cons.mp ha with rfl | ha
    · exact ⟨terminal, row, rows ▸ found, rfl, rfl⟩
    · exact hold a ha
  | decided row decision answer terminal authorizes status rows answers =>
    refine ⟨rows ▸ h.ids.update fun _ _ => rfl, fun a ha => ?_⟩
    rw [answers] at ha
    rcases List.mem_cons.mp ha with rfl | ha
    · refine ⟨status ▸ terminal, ApprovalRow.decided decision terminal row, ?_, rfl, status.symm⟩
      rw [rows]
      exact Table.mem_update_image authorizes.pending.1
        (by simp [SQLiteApprovalQueue.pendingRow, authorizes.pending.2])
    · exact hold a ha

theorem run_sound {ls : List (ℕ × Call)} (h : QueueSound q)
    (hrun : run (queueStep engines) q ls = some q') : QueueSound q' :=
  run_invariant (fun _ _ _ => queueStep_sound) h hrun

theorem run_terminal {ls : List (ℕ × Call)} {row : ApprovalRow} (hr : row ∈ q.rows)
    (ht : row.status ≠ .pending) (hrun : run (queueStep engines) q ls = some q') :
    row ∈ q'.rows := by
  have hstep : ∀ s l u, row ∈ s.rows → queueStep engines s l = some u → row ∈ u.rows :=
    fun s l u hs hl => queueStep_terminal hl hs ht
  exact run_invariant hstep hr hrun

/-- The step that decided a row. -/
def Decides (engines : ℕ → ApprovalAuthorizationEngine) (q : SharedQueue) (l : ℕ × Call)
    (row : ApprovalRow) : Prop :=
  ∃ before decision, Authorizes engines l.1 l.2 q before decision ∧
    row.approvalId = before.approvalId ∧ row.request = before.request ∧
    row.status = decision.status ∧ row.decision = some decision.stored

theorem queueStep_decides {process : ℕ} {call : Call} {row : ApprovalRow} (hq : QueueSound q)
    (h : queueStep engines q (process, call) = some q')
    (hr : row ∈ q'.rows ∧ row.status ≠ .pending) :
    (row ∈ q.rows ∧ row.status ≠ .pending) ∨ Decides engines q (process, call) row := by
  obtain ⟨hm, hne⟩ := hr
  cases queueStep_effect h with
  | quiet rows _ => exact .inl ⟨rows ▸ hm, hne⟩
  | inserted _ _ rows _ =>
    rcases Table.mem_insert.mp (rows ▸ hm) with hm | rfl
    · exact .inl ⟨hm, hne⟩
    · exact absurd rfl hne
  | replayed _ _ _ rows _ => exact .inl ⟨rows ▸ hm, hne⟩
  | decided before decision answer terminal authorizes _ rows _ =>
    rcases Table.mem_update.mp (rows ▸ hm) with ⟨hm, -⟩ | ⟨found, hf, hpending, rfl⟩
    · exact .inl ⟨hm, hne⟩
    · have : found = before := by
        simp only [SQLiteApprovalQueue.pendingRow, decide_eq_true_eq] at hpending
        exact hq.ids.eq_of_key hf authorizes.pending.1 hpending.1
      subst this
      exact .inr ⟨found, decision, authorizes, rfl, rfl, rfl, rfl⟩

/-- Under every interleaving an approval is decided at most once, by a decision that was
authorized against its stored request; its row then stays, and every decision call that
returns reports that status. -/
theorem decisions_final (engines : ℕ → ApprovalAuthorizationEngine) (ls : List (ℕ × Call))
    (q : SharedQueue) (h : run (queueStep engines) SharedQueue.initial ls = some q) :
    Table.Unique ApprovalRow.approvalId q.rows ∧
    (∀ row ∈ q.rows, row.status ≠ .pending →
      (∃ t l u, Takes (queueStep engines) SharedQueue.initial ls t l u ∧
        Decides engines t l row) ∧
      ∀ ks q', run (queueStep engines) q ks = some q' → row ∈ q'.rows) ∧
    ∀ a ∈ q.answers, a.2.status ≠ .pending ∧
      ∃ row ∈ q.rows, row.approvalId = a.1 ∧ row.status = a.2.status := by
  have hsound := run_sound .initial h
  refine ⟨hsound.ids, fun row hr hne => ⟨?_, fun ks q' => run_terminal hr hne⟩, hsound.answers⟩
  have hdecides : ∀ s l t, QueueSound s → queueStep engines s l = some t →
      (row ∈ t.rows ∧ row.status ≠ .pending) →
      (row ∈ s.rows ∧ row.status ≠ .pending) ∨ Decides engines s l row :=
    fun _ _ _ hs hl => queueStep_decides hs hl
  rcases run_origin (fun _ _ _ => queueStep_sound) hdecides .initial h ⟨hr, hne⟩ with
    ⟨hm, -⟩ | hdecided
  · simp [SharedQueue.initial] at hm
  · exact hdecided

end Steps

namespace Sample

/-- Two processes decide the submitted request, then one repeats the call that lost. -/
def contested : List (ℕ × Call) :=
  [(0, .submit request), (0, .load), (1, .approve "apr_7d1f" "lead-1" "fine" "t1"),
    (2, .reject "apr_7d1f" "lead-2" "no" "t2"), (0, .submit request),
    (1, .approve "apr_7d1f" "lead-1" "fine" "t3")]

end Sample

open Sample PyText.Ascii in
theorem contested_final : ∃ q,
    run (queueStep fun _ => ⟨[], []⟩) SharedQueue.initial contested = some q ∧
    q.answers.map (·.2.status) = [.approved, .approved] ∧
    ∀ a ∈ q.answers, ∃ row ∈ q.rows, row.approvalId = a.1 ∧ row.status = a.2.status := by
  have hrun : ((run (queueStep fun _ => ⟨[], []⟩) SharedQueue.initial contested).any
      fun q => q.answers.map (·.2.status) = [.approved, .approved]) = true := by decide
  obtain ⟨q, hq, hanswers⟩ := (Option.any_eq_true _ _).mp hrun
  have hfinal := decisions_final _ contested q hq
  exact ⟨q, hq, of_decide_eq_true hanswers, fun a ha => (hfinal.2.2 a ha).2⟩

end Rygnal.Approval
