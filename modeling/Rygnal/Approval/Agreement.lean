import Rygnal.Approval.Persistence
import Rygnal.Library.Transition

/-! # The two queues side by side

One sequence of calls on an `InMemoryApprovalQueue` and on a `SQLiteApprovalQueue` with the
same engine. Submissions that overwrite an approval in memory, or that redaction changes
when it stores them, make the queues disagree; without them they agree call by call.
-/

namespace Rygnal.Approval
open Rygnal.Core Rygnal.Library Rygnal.Library.PyText Rygnal.Library.Transition
open Rygnal.Security

inductive QueueOp where
  | submit (request : ApprovalRequest)
  | approve (approvalId decidedBy reason decidedAt : String)
  | reject (approvalId decidedBy reason decidedAt : String)
  | recordDecision (approvalId : String) (decision : ApprovalDecision)
  | list (status : Option ApprovalStatus)
  | get (approvalId : String)

structure Queues where
  items : Items
  rows : ApprovalTable

def Queues.initial : Queues := ⟨[], []⟩

section Sequences
variable [UnicodeTables]

/-- The in-memory call; `none` when it raises. -/
def memoryCall (engine : ApprovalAuthorizationEngine) (items : Items) : QueueOp → Option Items
  | .submit request => some (InMemoryApprovalQueue.submit items request)
  | .approve approvalId decidedBy reason decidedAt =>
    record approvalId (decide approvalId true decidedBy reason decidedAt)
  | .reject approvalId decidedBy reason decidedAt =>
    record approvalId (decide approvalId false decidedBy reason decidedAt)
  | .recordDecision approvalId decision => record approvalId decision
  | .list _ => some items
  | .get approvalId => (InMemoryApprovalQueue.get items approvalId).toOption.map fun _ => items
where
  record (approvalId : String) (decision : ApprovalDecision) : Option Items :=
    (InMemoryApprovalQueue.recordDecision engine items approvalId decision).toOption.map (·.2)

/-- The same call on the table; `none` when it raises. -/
def sqliteCall (engine : ApprovalAuthorizationEngine) (rows : ApprovalTable) :
    QueueOp → Option ApprovalTable
  | .submit request => (SQLiteApprovalQueue.submit rows request).toOption
  | .approve approvalId decidedBy reason decidedAt =>
    record approvalId (decide approvalId true decidedBy reason decidedAt)
  | .reject approvalId decidedBy reason decidedAt =>
    record approvalId (decide approvalId false decidedBy reason decidedAt)
  | .recordDecision approvalId decision => record approvalId decision
  | .list _ => some rows
  | .get approvalId => (SQLiteApprovalQueue.get rows approvalId).toOption.map fun _ => rows
where
  record (approvalId : String) (decision : ApprovalDecision) : Option ApprovalTable :=
    (SQLiteApprovalQueue.recordDecision engine rows approvalId decision).toOption.map (·.2)

/-- A call that raises leaves its queue as it was. -/
def queuesStep (engine : ApprovalAuthorizationEngine) : Step Queues QueueOp
  | s, op => some ⟨(memoryCall engine s.items op).getD s.items,
      (sqliteCall engine s.rows op).getD s.rows⟩

def memoryStatus (s : Queues) (approvalId : String) : Option ApprovalStatus :=
  (InMemoryApprovalQueue.get s.items approvalId).toOption.map (·.status)

def sqliteStatus (s : Queues) (approvalId : String) : Option ApprovalStatus :=
  (SQLiteApprovalQueue.get s.rows approvalId).toOption.map (·.status)

/-- The call repeats the terminal decision that the table holds for it. -/
def RepeatsDecision (s : Queues) (op : QueueOp) : Prop :=
  ∃ row ∈ s.rows, row.status ≠ .pending ∧ ∃ current decision,
    row.decision = some current ∧ sameTerminalDecision current decision = true ∧
    (op = .recordDecision row.approvalId decision ∨
      ∃ approved decidedBy reason decidedAt,
        decision = decide row.approvalId approved decidedBy reason decidedAt ∧
        op = if approved then .approve row.approvalId decidedBy reason decidedAt
          else .reject row.approvalId decidedBy reason decidedAt)

/-- Both queues return, both raise, or the table accepts a repeated decision. -/
def Agrees (engine : ApprovalAuthorizationEngine) (s : Queues) (op : QueueOp) : Prop :=
  (memoryCall engine s.items op).isSome = (sqliteCall engine s.rows op).isSome ∨
    (memoryCall engine s.items op = none ∧ sqliteCall engine s.rows op = some s.rows ∧
      RepeatsDecision s op)

/-! ## The loaded items -/

omit [UnicodeTables] in
theorem get_foldl_set {rows : ApprovalTable} (hu : Table.Unique ApprovalRow.approvalId rows)
    (hk : ∀ row ∈ rows, row.request.approvalId = row.approvalId) (items : Items)
    (approvalId : String) :
    PyDict.get (rows.foldl (fun acc row => acc.set row.request.approvalId row.item) items)
        approvalId =
      ((SQLiteApprovalQueue.selectRow rows approvalId).map ApprovalRow.item).or
        (items.get approvalId) := by
  induction rows generalizing items with
  | nil => simp [SQLiteApprovalQueue.selectRow, Table.selectOne]
  | cons row rows ih =>
    have hu' : Table.Unique ApprovalRow.approvalId rows := (List.nodup_cons.mp hu).2
    have hrow : row.request.approvalId = row.approvalId := hk row List.mem_cons_self
    rw [List.foldl_cons, ih hu' fun r hr => hk r (List.mem_cons_of_mem row hr), PyDict.get_set,
      hrow]
    by_cases h : row.approvalId = approvalId
    · have hnone : SQLiteApprovalQueue.selectRow rows approvalId = none := by
        refine Table.selectOne_eq_none.mpr fun r hr => decide_eq_false fun hid => ?_
        exact (List.nodup_cons.mp hu).1 (List.mem_map.mpr ⟨r, hr, hid.trans h.symm⟩)
      rw [hnone]
      simp [SQLiteApprovalQueue.selectRow, Table.selectOne, h]
    · simp [SQLiteApprovalQueue.selectRow, Table.selectOne, h]

/-! ## The relation that the calls keep -/

/-- Redaction leaves the id of the request and what the engine reads of it. -/
structure StoredVerbatim (request : ApprovalRequest) : Prop where
  approvalId : redactSensitiveString request.approvalId = request.approvalId
  reads : ReadsUnchanged request

/-- A row holds the redacted request and the status of an item. -/
structure Mirrors (item : QueuedApproval) (row : ApprovalRow) : Prop where
  approvalId : item.request.approvalId = row.approvalId
  request : row.request = item.request.stored
  status : row.status = item.status
  verbatim : StoredVerbatim item.request

structure InStep (s : Queues) : Prop where
  ids : Table.Unique ApprovalRow.approvalId s.rows
  mirrored : ∀ approvalId,
    (s.items.get approvalId = none ∧
      SQLiteApprovalQueue.selectRow s.rows approvalId = none) ∨
    ∃ item row, s.items.get approvalId = some item ∧
      SQLiteApprovalQueue.selectRow s.rows approvalId = some row ∧ Mirrors item row

/-- A submission that both queues treat alike: redaction leaves what is read of it, and an
approval with its id is still pending on the same stored request. -/
def Resubmittable (s : Queues) : QueueOp → Prop
  | .submit request => StoredVerbatim request ∧
      ∀ item, s.items.get request.approvalId = some item →
        item.status = .pending ∧ item.request.stored = request.stored
  | _ => True

namespace InStep
variable {s : Queues} {engine : ApprovalAuthorizationEngine}

omit [UnicodeTables] in
theorem select_iff (hu : Table.Unique ApprovalRow.approvalId s.rows) {approvalId : String}
    {row : ApprovalRow} : SQLiteApprovalQueue.selectRow s.rows approvalId = some row ↔
      row ∈ s.rows ∧ row.approvalId = approvalId :=
  hu.selectOne_eq_some

theorem initial : InStep Queues.initial :=
  ⟨.nil _, fun _ => .inl ⟨rfl, by simp [SQLiteApprovalQueue.selectRow, Table.selectOne,
    Queues.initial]⟩⟩

theorem keyed (h : InStep s) : ∀ row ∈ s.rows, row.request.approvalId = row.approvalId := by
  intro row hr
  have hselect := (select_iff h.ids).mpr ⟨hr, rfl⟩
  rcases h.mirrored row.approvalId with ⟨-, hnone⟩ | ⟨item, row', -, hrow', hm⟩
  · rw [hselect] at hnone
    cases hnone
  · rw [hselect, Option.some.injEq] at hrow'
    subst hrow'
    rw [hm.request, ← hm.approvalId]
    exact hm.verbatim.approvalId

/-- The items that the table loads are its rows. -/
theorem get_loadItems (h : InStep s) (approvalId : String) :
    PyDict.get (SQLiteApprovalQueue.loadItems s.rows) approvalId =
      (SQLiteApprovalQueue.selectRow s.rows approvalId).map ApprovalRow.item := by
  rw [SQLiteApprovalQueue.loadItems, get_foldl_set h.ids h.keyed, PyDict.get_nil, Option.or_none]

theorem status_eq (h : InStep s) (approvalId : String) :
    memoryStatus s approvalId = sqliteStatus s approvalId := by
  unfold memoryStatus sqliteStatus SQLiteApprovalQueue.get InMemoryApprovalQueue.get
  rw [h.get_loadItems]
  rcases h.mirrored approvalId with ⟨hm, hr⟩ | ⟨item, row, hm, hr, hmirror⟩
  · rw [hm, hr]
    rfl
  · rw [hm, hr]
    exact congrArg some hmirror.status.symm

theorem get_isSome (h : InStep s) (approvalId : String) :
    (InMemoryApprovalQueue.get s.items approvalId).toOption.isSome =
      (SQLiteApprovalQueue.get s.rows approvalId).toOption.isSome := by
  have hstatus := congrArg Option.isSome (h.status_eq approvalId)
  simpa [memoryStatus, sqliteStatus] using hstatus

/-- A new item in memory and the table around its row. -/
theorem assign (h : InStep s) {rows : ApprovalTable} {item : QueuedApproval} {row : ApprovalRow}
    (ids : Table.Unique ApprovalRow.approvalId rows) (hrow : row ∈ rows)
    (hm : Mirrors item row)
    (hother : ∀ approvalId, approvalId ≠ row.approvalId →
      SQLiteApprovalQueue.selectRow rows approvalId =
        SQLiteApprovalQueue.selectRow s.rows approvalId) :
    InStep ⟨s.items.set item.request.approvalId item, rows⟩ where
  ids := ids
  mirrored approvalId := by
    rw [PyDict.get_set]
    by_cases hid : approvalId = row.approvalId
    · subst hid
      refine .inr ⟨item, row, by simp [hm.approvalId], ?_, hm⟩
      exact ids.selectOne_eq_some.mpr ⟨hrow, rfl⟩
    · have hne : item.request.approvalId ≠ approvalId := by
        rw [hm.approvalId]
        exact Ne.symm hid
      simp only [hne, if_false, hother approvalId hid]
      exact h.mirrored approvalId

theorem submit (h : InStep s) {request : ApprovalRequest}
    (hr : Resubmittable s (.submit request)) :
    ∃ rows, SQLiteApprovalQueue.submit s.rows request = .ok rows ∧
      InStep ⟨InMemoryApprovalQueue.submit s.items request, rows⟩ := by
  obtain ⟨hverbatim, hpresent⟩ := hr
  rcases h.mirrored request.approvalId with ⟨-, hnone⟩ | ⟨item, row, hitem, hrow, hm⟩
  · refine ⟨s.rows.insert (ApprovalRow.inserted request),
      by rw [SQLiteApprovalQueue.submit, hnone], ?_⟩
    have hfresh : ∀ row ∈ s.rows, row.approvalId ≠ (ApprovalRow.inserted request).approvalId :=
      fun row hrow => of_decide_eq_false (Table.selectOne_eq_none.mp hnone row hrow)
    have hmirror : Mirrors ⟨request, .pending, none⟩ (ApprovalRow.inserted request) :=
      ⟨rfl, ApprovalRow.inserted_request request, rfl, hverbatim⟩
    refine h.assign (h.ids.insert hfresh) (Table.mem_insert.mpr (.inr rfl)) hmirror
      fun approvalId hne => ?_
    rw [ApprovalRow.inserted_approvalId] at hne
    simp [SQLiteApprovalQueue.selectRow, Table.selectOne, Table.insert, List.find?_append,
      Ne.symm hne]
  · obtain ⟨hpending, hsame⟩ := hpresent item hitem
    obtain ⟨hmem, hid⟩ := SQLiteApprovalQueue.selectRow_mem hrow
    have hmirror : Mirrors ⟨request, .pending, none⟩ row :=
      ⟨hid.symm, hm.request.trans hsame, hm.status.trans hpending, hverbatim⟩
    refine ⟨s.rows, ?_, h.assign h.ids hmem hmirror fun _ _ => rfl⟩
    rw [SQLiteApprovalQueue.submit, hrow]
    simp [hm.request, hsame]

end InStep

/-! ## Decisions -/

section Decisions
variable {s : Queues} {engine : ApprovalAuthorizationEngine} {approvalId : String}
  {decision : ApprovalDecision}

theorem memoryRecord_of_item {items : Items} {item : QueuedApproval}
    (hitem : items.get approvalId = some item) (hid : decision.approvalId = approvalId) :
    memoryCall.record engine items approvalId decision =
      if (engine.authorize item.request decision item.status).allowed = true then
        some (items.set item.request.approvalId ⟨item.request, decision.status, some decision⟩)
      else none := by
  have hget : InMemoryApprovalQueue.get items approvalId = .ok item := by
    rw [InMemoryApprovalQueue.get, hitem]
  rw [memoryCall.record, InMemoryApprovalQueue.recordDecision, hget]
  by_cases ha : (engine.authorize item.request decision item.status).allowed = true
  · have ht : (validateTransition item.status decision.status).allowed = true := by
      obtain ⟨hp, h | ⟨h, -⟩⟩ := ApprovalAuthorizationEngine.authorize_allowed.mp ha <;>
        simp [hp, h]
    simp [hid, ht, ha, Except.toOption]
  · by_cases ht : (validateTransition item.status decision.status).allowed = true
    · simp [hid, ht, ha, Except.toOption]
    · simp [hid, ht, ha, Except.toOption]

theorem memoryRecord_of_mismatch {items : Items} (hid : decision.approvalId ≠ approvalId) :
    memoryCall.record engine items approvalId decision = none := by
  rw [memoryCall.record, InMemoryApprovalQueue.recordDecision]
  split
  · rfl
  · simp [hid, Except.toOption]

theorem sqliteRecord_of_mismatch {rows : ApprovalTable} (hid : decision.approvalId ≠ approvalId) :
    sqliteCall.record engine rows approvalId decision = none := by
  simp [sqliteCall.record, SQLiteApprovalQueue.recordDecision, hid, Except.toOption]

theorem memoryRecord_of_absent {items : Items} (h : items.get approvalId = none) :
    memoryCall.record engine items approvalId decision = none := by
  simp [memoryCall.record, InMemoryApprovalQueue.recordDecision, InMemoryApprovalQueue.get, h,
    Except.toOption]

theorem sqliteRecord_of_absent {rows : ApprovalTable}
    (h : SQLiteApprovalQueue.selectRow rows approvalId = none) :
    sqliteCall.record engine rows approvalId decision = none := by
  by_cases hid : decision.approvalId = approvalId
  · simp [sqliteCall.record, SQLiteApprovalQueue.recordDecision, hid, h, Except.toOption]
  · exact sqliteRecord_of_mismatch hid

/-- A decided row answers a repeated decision and refuses every other one. -/
theorem sqliteRecord_of_terminal {rows : ApprovalTable} {row : ApprovalRow}
    (hrow : SQLiteApprovalQueue.selectRow rows approvalId = some row) (ht : row.status ≠ .pending) :
    sqliteCall.record engine rows approvalId decision = none ∨
      sqliteCall.record engine rows approvalId decision = some rows ∧
        ∃ current, row.decision = some current ∧ sameTerminalDecision current decision = true := by
  unfold sqliteCall.record
  cases hrecord : SQLiteApprovalQueue.recordDecision engine rows approvalId decision with
  | error e => exact .inl rfl
  | ok result =>
    refine .inr ?_
    unfold SQLiteApprovalQueue.recordDecision at hrecord
    split at hrecord
    · cases hrecord
    · rw [hrow] at hrecord
      simp only [ht, ne_eq, not_false_eq_true, if_true] at hrecord
      split at hrecord
      · rename_i current hcurrent
        split at hrecord
        · rename_i hsame
          cases hrecord
          exact ⟨rfl, current, hcurrent, hsame⟩
        · cases hrecord
      · cases hrecord

/-- A decision on both queues: they stay in step, and they answer alike unless the table
accepts a repeated decision. -/
theorem InStep.record (h : InStep s) (engine : ApprovalAuthorizationEngine) (approvalId : String)
    (decision : ApprovalDecision) :
    InStep ⟨(memoryCall.record engine s.items approvalId decision).getD s.items,
      (sqliteCall.record engine s.rows approvalId decision).getD s.rows⟩ ∧
    ((memoryCall.record engine s.items approvalId decision).isSome =
        (sqliteCall.record engine s.rows approvalId decision).isSome ∨
      memoryCall.record engine s.items approvalId decision = none ∧
        sqliteCall.record engine s.rows approvalId decision = some s.rows ∧
        ∃ row ∈ s.rows, row.approvalId = approvalId ∧ row.status ≠ .pending ∧
          ∃ current, row.decision = some current ∧
            sameTerminalDecision current decision = true) := by
  rcases h.mirrored approvalId with ⟨hnone, hnone'⟩ | ⟨item, row, hitem, hrow, hm⟩
  · rw [memoryRecord_of_absent hnone, sqliteRecord_of_absent hnone']
    exact ⟨h, .inl rfl⟩
  by_cases hid : decision.approvalId = approvalId
  swap
  · rw [memoryRecord_of_mismatch hid, sqliteRecord_of_mismatch hid]
    exact ⟨h, .inl rfl⟩
  obtain ⟨hmem, hkey⟩ := SQLiteApprovalQueue.selectRow_mem hrow
  have hauth : engine.authorize row.request decision item.status =
      engine.authorize item.request decision item.status := by
    rw [hm.request, hm.verbatim.reads.authorize_stored]
  rw [memoryRecord_of_item hitem hid]
  by_cases hp : item.status = .pending
  · have hrp : row.status = .pending := hm.status.trans hp
    rw [hp] at hauth ⊢
    split
    · rename_i ha
      have hs : decision.status ≠ .pending := by
        obtain ⟨-, h | ⟨h, -⟩⟩ := ApprovalAuthorizationEngine.authorize_allowed.mp ha <;> simp [h]
      have hdecided := SQLiteApprovalQueue.recordDecision_of_authorized h.ids hrow hrp hid
        (hauth ▸ ha) hs
      rw [sqliteCall.record, hdecided]
      refine ⟨?_, .inl rfl⟩
      have hmirror : Mirrors ⟨item.request, decision.status, some decision⟩
          (ApprovalRow.decided decision hs row) :=
        ⟨hm.approvalId, hm.request, rfl, hm.verbatim⟩
      have hit : SQLiteApprovalQueue.pendingRow approvalId row = true := by
        simp [SQLiteApprovalQueue.pendingRow, hkey, hrp]
      let rows := s.rows.update (SQLiteApprovalQueue.pendingRow approvalId)
        (ApprovalRow.decided decision hs)
      have hids : Table.Unique ApprovalRow.approvalId rows := h.ids.update fun _ _ => rfl
      have hrow' : ApprovalRow.decided decision hs row ∈ rows := Table.mem_update_image hmem hit
      refine h.assign hids hrow' hmirror fun approvalId' hne =>
        Table.selectOne_update (fun r hr => ?_) s.rows
      simp only [SQLiteApprovalQueue.pendingRow, decide_eq_true_eq] at hr
      have hne' : r.approvalId ≠ approvalId' := by
        rw [hr.1, ← hkey]
        exact Ne.symm hne
      exact ⟨decide_eq_false hne', decide_eq_false hne'⟩
    · rename_i ha
      have hdenied : sqliteCall.record engine s.rows approvalId decision = none := by
        cases hrecord : SQLiteApprovalQueue.recordDecision engine s.rows approvalId decision with
        | error e => rw [sqliteCall.record, hrecord]; rfl
        | ok result =>
          have hallowed := (SQLiteApprovalQueue.recordDecision_pending h.ids hrow hrp hid).mp
            ⟨result, hrecord⟩
          exact absurd (hauth ▸ hallowed) ha
      rw [hdenied]
      exact ⟨h, .inl rfl⟩
  · have hdenied : ¬ (engine.authorize item.request decision item.status).allowed = true :=
      fun ha => hp (ApprovalAuthorizationEngine.authorize_allowed.mp ha).1
    have ht : row.status ≠ .pending := hm.status ▸ hp
    rw [if_neg hdenied]
    rcases sqliteRecord_of_terminal hrow ht with hnone | ⟨hsome, hrepeat⟩
    · rw [hnone]
      exact ⟨h, .inl rfl⟩
    · rw [hsome]
      exact ⟨h, .inr ⟨rfl, rfl, row, hmem, hkey, ht, hrepeat⟩⟩

end Decisions

/-! ## Sequences of calls -/

section Runs
variable {s s' : Queues} {engine : ApprovalAuthorizationEngine} {op : QueueOp}

theorem queuesStep_inStep (h : InStep s) (hr : Resubmittable s op)
    (hstep : queuesStep engine s op = some s') : InStep s' := by
  rw [queuesStep, Option.some.injEq] at hstep
  subst hstep
  cases op with
  | submit request =>
    obtain ⟨rows, hsubmit, hin⟩ := h.submit hr
    simpa [memoryCall, sqliteCall, hsubmit, Except.toOption] using hin
  | approve approvalId decidedBy reason decidedAt =>
    exact (h.record engine approvalId (decide approvalId true decidedBy reason decidedAt)).1
  | reject approvalId decidedBy reason decidedAt =>
    exact (h.record engine approvalId (decide approvalId false decidedBy reason decidedAt)).1
  | recordDecision approvalId decision => exact (h.record engine approvalId decision).1
  | list => exact h
  | get approvalId =>
    have hmem : ((memoryCall engine s.items (.get approvalId)).getD s.items) = s.items := by
      simp only [memoryCall]
      cases (InMemoryApprovalQueue.get s.items approvalId).toOption <;> rfl
    have hrows : ((sqliteCall engine s.rows (.get approvalId)).getD s.rows) = s.rows := by
      simp only [sqliteCall]
      cases (SQLiteApprovalQueue.get s.rows approvalId).toOption <;> rfl
    rw [hmem, hrows]
    exact h

theorem InStep.agrees (h : InStep s) (hr : Resubmittable s op) : Agrees engine s op := by
  cases op with
  | submit request =>
    obtain ⟨rows, hsubmit, -⟩ := h.submit hr
    exact .inl (by simp [memoryCall, sqliteCall, hsubmit, Except.toOption])
  | approve approvalId decidedBy reason decidedAt =>
    let decision := decide approvalId true decidedBy reason decidedAt
    rcases (h.record engine approvalId decision).2 with hsame |
      ⟨hm, hs, row, hrow, rfl, ht, current, hc, hrepeat⟩
    · exact .inl hsame
    · exact .inr ⟨hm, hs, row, hrow, ht, current, decision, hc, hrepeat,
        .inr ⟨true, decidedBy, reason, decidedAt, rfl, rfl⟩⟩
  | reject approvalId decidedBy reason decidedAt =>
    let decision := decide approvalId false decidedBy reason decidedAt
    rcases (h.record engine approvalId decision).2 with hsame |
      ⟨hm, hs, row, hrow, rfl, ht, current, hc, hrepeat⟩
    · exact .inl hsame
    · exact .inr ⟨hm, hs, row, hrow, ht, current, decision, hc, hrepeat,
        .inr ⟨false, decidedBy, reason, decidedAt, rfl, rfl⟩⟩
  | recordDecision approvalId decision =>
    rcases (h.record engine approvalId decision).2 with hsame |
      ⟨hm, hs, row, hrow, rfl, ht, current, hc, hrepeat⟩
    · exact .inl hsame
    · exact .inr ⟨hm, hs, row, hrow, ht, current, decision, hc, hrepeat, .inl rfl⟩
  | list => exact .inl rfl
  | get approvalId =>
    left
    simpa [memoryCall, sqliteCall] using h.get_isSome approvalId

/-- No call touches a decided row. -/
theorem sqliteCall_terminal {rows rows' : ApprovalTable} {row : ApprovalRow} (hr : row ∈ rows)
    (ht : row.status ≠ .pending) (h : sqliteCall engine rows op = some rows') : row ∈ rows' := by
  have hrecord : ∀ approvalId decision,
      sqliteCall.record engine rows approvalId decision = some rows' → row ∈ rows' := by
    intro approvalId decision hcall
    unfold sqliteCall.record at hcall
    cases hdecision : SQLiteApprovalQueue.recordDecision engine rows approvalId decision with
    | error e =>
      rw [hdecision] at hcall
      cases hcall
    | ok result =>
      rw [hdecision] at hcall
      obtain ⟨answer, rows₁⟩ := result
      obtain rfl : rows₁ = rows' := by simpa [Except.toOption] using hcall
      obtain ⟨-, -, -, ⟨-, -, hsame⟩ | ⟨-, -, -, hs, hupdate⟩⟩ :=
        SQLiteApprovalQueue.recordDecision_eq_ok hdecision
      · exact hsame ▸ hr
      · rw [hupdate]
        exact Table.mem_update_of_not hr (by simp [SQLiteApprovalQueue.pendingRow, ht])
  cases op with
  | submit request =>
    cases hsubmit : SQLiteApprovalQueue.submit rows request with
    | error e => simp [sqliteCall, hsubmit, Except.toOption] at h
    | ok rows₁ =>
      obtain rfl : rows₁ = rows' := by simpa [sqliteCall, hsubmit, Except.toOption] using h
      rcases SQLiteApprovalQueue.submit_eq_ok hsubmit with ⟨rfl, -⟩ | ⟨rfl, -⟩
      · exact hr
      · exact Table.mem_insert.mpr (.inl hr)
  | approve | reject | recordDecision => exact hrecord _ _ h
  | list =>
    obtain rfl : rows = rows' := by simpa [sqliteCall] using h
    exact hr
  | get approvalId =>
    obtain ⟨-, -, rfl⟩ := Option.map_eq_some_iff.mp h
    exact hr

theorem InStep.sqliteStatus_eq_some (h : InStep s) {approvalId : String}
    {status : ApprovalStatus} : sqliteStatus s approvalId = some status ↔
      ∃ row ∈ s.rows, row.approvalId = approvalId ∧ row.status = status := by
  unfold sqliteStatus SQLiteApprovalQueue.get InMemoryApprovalQueue.get
  rw [h.get_loadItems]
  cases hrow : SQLiteApprovalQueue.selectRow s.rows approvalId with
  | none =>
    have hnone := Table.selectOne_eq_none.mp hrow
    simp only [Option.map_none, Except.toOption, reduceCtorEq, false_iff, not_exists, not_and]
    intro row hr hid
    exact absurd hid (of_decide_eq_false (hnone row hr))
  | some row =>
    obtain ⟨hmem, hid⟩ := SQLiteApprovalQueue.selectRow_mem hrow
    have hstatus : (some row.status = some status) ↔
        ∃ r ∈ s.rows, r.approvalId = approvalId ∧ r.status = status := by
      constructor
      · intro hs
        exact ⟨row, hmem, hid, Option.some.inj hs⟩
      · rintro ⟨r, hr, hrid, rfl⟩
        rw [h.ids.eq_of_key hr hmem (hrid.trans hid.symm)]
    exact hstatus

/-- A decided approval keeps its status on both queues. -/
theorem queuesStep_terminal (h : InStep s) (hr : Resubmittable s op)
    (hstep : queuesStep engine s op = some s') {approvalId : String} {status : ApprovalStatus}
    (hne : status ≠ .pending) (hs : memoryStatus s approvalId = some status) :
    memoryStatus s' approvalId = some status := by
  have h' := queuesStep_inStep h hr hstep
  rw [h.status_eq] at hs
  rw [h'.status_eq]
  obtain ⟨row, hrow, hid, rfl⟩ := h.sqliteStatus_eq_some.mp hs
  refine h'.sqliteStatus_eq_some.mpr ⟨row, ?_, hid, rfl⟩
  rw [queuesStep, Option.some.injEq] at hstep
  subst hstep
  cases hcall : sqliteCall engine s.rows op with
  | none => simpa [hcall] using hrow
  | some rows => exact sqliteCall_terminal hrow hne hcall

/-- Along a sequence of calls the two queues agree on what succeeds and on every status, and
no decided approval changes its status on either. -/
structure QueuesAgree (engine : ApprovalAuthorizationEngine) (ops : List QueueOp) : Prop where
  calls : ∀ s op s', Takes (queuesStep engine) Queues.initial ops s op s' → Agrees engine s op
  statuses : ∀ s, run (queuesStep engine) Queues.initial ops = some s →
    ∀ approvalId, memoryStatus s approvalId = sqliteStatus s approvalId
  terminal : ∀ s op s', Takes (queuesStep engine) Queues.initial ops s op s' →
    ∀ approvalId, ∀ status ≠ .pending,
      (memoryStatus s approvalId = some status → memoryStatus s' approvalId = some status) ∧
      (sqliteStatus s approvalId = some status → sqliteStatus s' approvalId = some status)

/-- The queues agree along every sequence whose submissions neither replace an approval
nor are changed by redaction where the queues read them. -/
theorem queuesAgree_of_resubmittable (engine : ApprovalAuthorizationEngine)
    (ops : List QueueOp)
    (h : Meets (queuesStep engine) Resubmittable Queues.initial ops) : QueuesAgree engine ops where
  calls s op s' htakes := by
    obtain ⟨hin, hr⟩ := h.takes (fun _ _ _ => queuesStep_inStep) .initial htakes
    exact hin.agrees hr
  statuses s hrun := (h.invariant (fun _ _ _ => queuesStep_inStep) .initial hrun).status_eq
  terminal s op s' htakes approvalId status hne := by
    obtain ⟨hin, hr⟩ := h.takes (fun _ _ _ => queuesStep_inStep) .initial htakes
    obtain ⟨_, _, -, -, hstep⟩ := htakes
    have hkeeps : memoryStatus s approvalId = some status →
        memoryStatus s' approvalId = some status := queuesStep_terminal hin hr hstep hne
    refine ⟨hkeeps, ?_⟩
    rw [← hin.status_eq, ← (queuesStep_inStep hin hr hstep).status_eq]
    exact hkeeps

end Runs

end Sequences

/-! ## Resubmission after a decision -/

namespace Sample

def approved : List QueueOp :=
  [.submit request, .list none, .approve "apr_7d1f" "lead-1" "fine" "t1", .get "apr_7d1f"]

def resubmitted : List QueueOp := approved ++ [.submit request]

end Sample

open Sample PyText.Ascii in
theorem approved_agrees : QueuesAgree ⟨[], []⟩ approved := by
  refine queuesAgree_of_resubmittable ⟨[], []⟩ approved ⟨⟨?_, ?_⟩, fun s _ => ⟨trivial, fun s _ =>
    ⟨trivial, fun s _ => ⟨trivial, fun s _ => trivial⟩⟩⟩⟩
  · exact ⟨by decide, by decide, by decide, by decide⟩
  · intro item hitem
    simp [Queues.initial, PyDict.get] at hitem

open Sample PyText.Ascii in
/-- Submitting an approved request again makes it pending in memory only. -/
theorem resubmitted_disagrees : ¬ QueuesAgree ⟨[], []⟩ resubmitted := by
  intro h
  have hrun : ((run (queuesStep ⟨[], []⟩) Queues.initial resubmitted).any fun s =>
      memoryStatus s "apr_7d1f" = some .pending ∧ sqliteStatus s "apr_7d1f" = some .approved) =
      true := by decide
  obtain ⟨s, hs, hstatus⟩ := (Option.any_eq_true _ _).mp hrun
  obtain ⟨hmemory, hsqlite⟩ := of_decide_eq_true hstatus
  have hsame := h.statuses s hs "apr_7d1f"
  rw [hmemory, hsqlite] at hsame
  cases hsame

end Rygnal.Approval
