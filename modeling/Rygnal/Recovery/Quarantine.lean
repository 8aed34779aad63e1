import Rygnal.Approval.Agreement
import Rygnal.Artifact.ArtifactLock
import Rygnal.Artifact.Storage

/-! # Finalizing runs and recovery passes

Guarded runs that persist an artifact and then submit its approval request, and passes of
`RecoveryReconciler.reconcile` over the same artifacts. A label is one system call, one
transaction or one load of a file, so that the runs and the passes interleave in every order.
-/

namespace Rygnal.Recovery
open Rygnal.Core Rygnal.Core.PyException Rygnal.Library Rygnal.Library.PyText
  Rygnal.Library.Transition Rygnal.Approval Rygnal.Artifact Rygnal.Security

/-! ## Runs -/

/-- A call of `persist` in `_persist_pending_approval`: the approval id is new, and the metadata
is a dictionary. -/
structure PendingPatch where
  call : PersistCall
  answers : PersistAnswers
  newApprovalId : HexId
  approvalId_eq : call.approvalRequest.approvalId = "apr_" ++ newApprovalId.text
  metadata_keys : (call.approvalRequest.metadata.map Prod.fst).Nodup

/-- Where a run stands in `_persist_pending_approval`. -/
inductive RunPhase where
  | idle
  | locking (patch : PendingPatch) (artifact : PatchArtifact)
  | locked (patch : PendingPatch) (artifact : PatchArtifact)
  | written (patch : PendingPatch) (artifact : PatchArtifact)
  | unlocked (patch : PendingPatch) (artifact : PatchArtifact)
  | persisted (patch : PendingPatch) (loaded : PatchArtifact)
  /-- The run returned `PENDING_APPROVAL`. -/
  | reported (patch : PendingPatch)
  | removing (patch : PendingPatch)
  | failed

/-- Where a recovery pass stands. -/
inductive PassPhase where
  | idle
  | gating (locks : List String)
  | ready
  | listed (artifacts : List String)
  | scanning (artifacts : List String) (queue : List QueuedApproval)
  | orphaned (artifact : String) (artifacts : List String) (queue : List QueuedApproval)
  | consuming (artifact : String) (artifacts : List String) (queue : List QueuedApproval)

/-- `writer` and `requester` name the run for which an artifact id or an approval id was made. -/
structure World where
  directory : Directory
  quarantined : List String
  locks : String → Option LockContent
  rows : ApprovalTable
  writer : String → Option ℕ
  requester : String → Option ℕ
  running : List ℕ
  exited : List ℕ
  runs : ℕ → RunPhase
  passes : ℕ → PassPhase

def World.initial : World :=
  ⟨fun _ => none, [], fun _ => none, [], fun _ => none, fun _ => none, [], [], fun _ => .idle,
    fun _ => .idle⟩

inductive RunAction where
  | persist (patch : PendingPatch)
  | lock
  /-- The retries are used up, or a call raises inside the lock. -/
  | giveUp
  | write
  | unlock
  | verify (now : ℤ)
  | submit
  | submitFails
  | delete

inductive PassAction where
  | listLocks (locks : List String)
  | checkLock
  | removeLock (lock : String)
  | listArtifacts (artifacts : List String)
  | listQueue
  | examine (now : ℤ) (applyEvidence : Bool)
  | quarantine
  | markConsumed (now : ℤ) (consumedAt : String) (fault : Option PyException)
  /-- The pass returns, or an exception leaves it. -/
  | leave

inductive Label where
  | start (process : ℕ)
  | exit (process : ℕ)
  | run (index : ℕ) (action : RunAction)
  | pass (index : ℕ) (action : PassAction)

namespace World

def setRun (w : World) (t : ℕ) (phase : RunPhase) : World :=
  { w with runs := Function.update w.runs t phase }

def setPass (w : World) (r : ℕ) (phase : PassPhase) : World :=
  { w with passes := Function.update w.passes r phase }

def setLock (w : World) (id : String) (lock : Option LockContent) : World :=
  { w with locks := Function.update w.locks id lock }

def setFile (w : World) (id : String) (file : Option ArtifactFile) : World :=
  { w with directory := Function.update w.directory id file }

def alive (d : Threads) (w : World) (pid : ℤ) : Bool := w.running.any fun p => d.pid p = pid

end World

/-- The approvals of the listed queue that are bound to the artifact. -/
def approvalsOf (queue : List QueuedApproval) (artifactId : String) : List QueuedApproval :=
  queue.filter fun item => item.request.metadata.get "artifact_id" = some (.str artifactId)

/-- `_validate_artifact_binding`. -/
def validateArtifactBinding (artifact : PatchArtifact) (queued : QueuedApproval) : Bool :=
  artifact.approvalRequestId = queued.request.approvalId &&
    queued.request.target = .str artifact.patchSha256 &&
    match queued.request.metadata.get "baseline_commit_sha" with
    | none | some .none => true
    | some baseline => baseline = .str artifact.baselineCommitSha

section Steps
variable [UnicodeTables] [IsoDateTime] [Digest] [BytesDigest] [FloatText] [Conversions]
variable (d : Threads) (repoIdentity : String → String)

/-- One step of a run; `patch.answers.newArtifactId` and `patch.newApprovalId` are new ids. -/
def runStep (w : World) (t : ℕ) : RunAction → RunPhase → Option World
  | .persist patch, .idle =>
    let id := patch.answers.newArtifactId.text
    if (w.writer id).isSome ∨ (w.requester patch.call.approvalRequest.approvalId).isSome then none
    else
      let w := { w with
        writer := Function.update w.writer id (some t)
        requester := Function.update w.requester patch.call.approvalRequest.approvalId (some t) }
      match buildArtifact repoIdentity patch.answers patch.call with
      | .ok artifact => some (w.setRun t (.locking patch artifact))
      | .error _ => some (w.setRun t .failed)
  | .lock, .locking patch artifact =>
    let id := patch.answers.newArtifactId.text
    if (w.locks id).isSome then some w
    else some ((w.setLock id (some (.owner (d.pid (d.process t))))).setRun t
      (.locked patch artifact))
  | .giveUp, .locking _ _ => some (w.setRun t .failed)
  | .giveUp, .locked patch _ | .giveUp, .written patch _ =>
    some ((w.setLock patch.answers.newArtifactId.text none).setRun t .failed)
  | .write, .locked patch artifact =>
    let id := patch.answers.newArtifactId.text
    let failed := (w.setLock id none).setRun t .failed
    if patch.answers.fault.isSome ∨ (w.directory id).isSome then some failed
    else match serialized artifact.toPayloadWithDigest with
      | .ok file => some ((w.setFile id (some file)).setRun t (.written patch artifact))
      | .error _ => some failed
  | .unlock, .written patch artifact =>
    some ((w.setLock patch.answers.newArtifactId.text none).setRun t (.unlocked patch artifact))
  | .verify now, .unlocked patch artifact =>
    match load repoIdentity w.directory now patch.answers.newArtifactId.text true true with
    | .ok loaded =>
      if loaded.artifactDigest = artifact.artifactDigest then
        some (w.setRun t (.persisted patch loaded))
      else some (w.setRun t .failed)
    | .error _ => some (w.setRun t .failed)
  | .submit, .persisted patch loaded =>
    match SQLiteApprovalQueue.submit w.rows
        (bindArtifactToApproval patch.call.approvalRequest loaded) with
    | .ok rows => some ({ w with rows := rows }.setRun t (.reported patch))
    | .error _ => some (w.setRun t (.removing patch))
  | .submitFails, .persisted patch _ => some (w.setRun t (.removing patch))
  | .delete, .removing patch =>
    let id := patch.answers.newArtifactId.text
    match w.directory id with
    | some (.regular _ _) => some ((w.setFile id none).setRun t .failed)
    | _ => some (w.setRun t .failed)
  | _, _ => none

/-- One step of a pass. -/
def passStep (w : World) (r : ℕ) : PassAction → PassPhase → Option World
  | .listLocks locks, .idle =>
    if locks.all fun id => (w.locks id).isSome then some (w.setPass r (.gating locks)) else none
  | .checkLock, .gating [] => some (w.setPass r .ready)
  | .checkLock, .gating (id :: rest) =>
    match w.locks id with
    | some (.owner pid) => some (w.setPass r (if w.alive d pid then .idle else .gating rest))
    | _ => some (w.setPass r .idle)
  -- `_reconcile_artifact_locks` removes locks; whose they are does not matter here
  | .removeLock id, .ready => some (w.setLock id none)
  | .listArtifacts artifacts, .ready =>
    if artifacts.all fun id => (w.directory id).isSome then some (w.setPass r (.listed artifacts))
    else none
  | .listQueue, .listed artifacts =>
    some (w.setPass r (.scanning artifacts (SQLiteApprovalQueue.list w.rows none)))
  | .examine now applyEvidence, .scanning (id :: rest) queue =>
    match load repoIdentity w.directory now id true true with
    | .error exc =>
      if exc.isInstance [.patchArtifactError] then some (w.setPass r (.scanning rest queue))
      else some (w.setPass r .idle)
    | .ok artifact =>
      match approvalsOf queue id with
      | [] => some (w.setPass r (.orphaned id rest queue))
      | [queued] =>
        if validateArtifactBinding artifact queued ∧ artifact.state = statePending ∧
            applyEvidence then
          some (w.setPass r (.consuming id rest queue))
        else some (w.setPass r (.scanning rest queue))
      | _ => some (w.setPass r (.scanning rest queue))
  | .quarantine, .orphaned id rest queue =>
    match w.directory id with
    | some (.regular _ _) =>
      if id ∈ w.quarantined then some (w.setPass r (.scanning rest queue))
      else some ({ w.setFile id none with quarantined := id :: w.quarantined }.setPass r
        (.scanning rest queue))
    | _ => some (w.setPass r (.scanning rest queue))
  | .markConsumed now consumedAt fault, .consuming id rest queue =>
    match Artifact.markConsumed repoIdentity w.directory now consumedAt id fault with
    | .ok (_, directory) =>
      some ({ w with directory := directory }.setPass r (.scanning rest queue))
    | .error exc =>
      if exc.isInstance [.patchArtifactError] then some (w.setPass r (.scanning rest queue))
      else some (w.setPass r .idle)
  | .leave, _ => some (w.setPass r .idle)
  | _, _ => none

def step : Step World Label
  | w, .start p =>
    if p ∈ w.running ∨ p ∈ w.exited then none else some { w with running := p :: w.running }
  | w, .exit p =>
    if p ∈ w.running then
      some { w with running := w.running.filter (· ≠ p), exited := p :: w.exited }
    else none
  | w, .run t action =>
    if d.process t ∈ w.running then runStep d repoIdentity w t action (w.runs t) else none
  | w, .pass r action =>
    if d.process r ∈ w.running then passStep d repoIdentity w r action (w.passes r) else none

end Steps

/-! ## What is kept -/

def PendingPatch.artifactId (patch : PendingPatch) : String := patch.answers.newArtifactId.text

def PendingPatch.approvalId (patch : PendingPatch) : String :=
  patch.call.approvalRequest.approvalId

namespace RunPhase

def patch? : RunPhase → Option PendingPatch
  | .locking patch _ | .locked patch _ | .written patch _ | .unlocked patch _
  | .persisted patch _ | .reported patch | .removing patch => some patch
  | .idle | .failed => none

/-- The patch of a run that has persisted its artifact. -/
def held? : RunPhase → Option PendingPatch
  | .persisted patch _ | .reported patch => some patch
  | _ => none

/-- The run has called `persist` and not yet submitted its request. -/
def unsubmitted : RunPhase → Bool
  | .locking _ _ | .locked _ _ | .written _ _ | .unlocked _ _ | .persisted _ _ => true
  | _ => false

theorem patch?_of_held {phase : RunPhase} {patch : PendingPatch} (h : phase.held? = some patch) :
    phase.patch? = some patch := by
  cases phase with
  | persisted patch loaded => exact h
  | reported patch => exact h
  | _ => cases h

end RunPhase

/-- Whenever a pass lists the queue, each artifact that it has listed belongs to a run that has
submitted its request, failed or exited. -/
def ListsSubmitted (d : Threads) (w : World) : Label → Prop
  | .pass r .listQueue =>
    match w.passes r with
    | .listed artifacts => ∀ id ∈ artifacts, ∀ t ∈ w.writer id,
        d.process t ∈ w.running → (w.runs t).unsubmitted = false
    | _ => True
  | _ => True

section Kept
variable [IsoDateTime] [Digest] [BytesDigest] [FloatText] [Conversions]
variable (d : Threads) (repoIdentity : String → String)

/-- The artifact can be loaded at any time. -/
def Loadable (w : World) (artifactId : String) : Prop :=
  ∃ artifact, ∀ now, load repoIdentity w.directory now artifactId true true = .ok artifact

/-- The artifacts of live runs that have persisted them, and of runs that reported a pending
approval, are loadable; the latter are bound by a request in the queue. -/
structure ArtifactsKept (w : World) : Prop where
  persisted : ∀ t patch loaded, w.runs t = .persisted patch loaded →
    d.process t ∈ w.running → Loadable repoIdentity w patch.artifactId
  reported : ∀ t patch, w.runs t = .reported patch → Loadable repoIdentity w patch.artifactId ∧
    ∃ row ∈ w.rows, row.approvalId = patch.approvalId ∧
      row.request.metadata.get "artifact_id" = some (.str patch.artifactId)

end Kept

/-! ## The invariant -/

/-- The run still claims its artifact. -/
def Claims (d : Threads) (w : World) (t : ℕ) : Prop :=
  (∃ patch, w.runs t = .reported patch) ∨
    d.process t ∈ w.running ∧ (w.runs t).unsubmitted = true

/-- The listed queue binds the artifact, or no run claims it. -/
def Settled (d : Threads) (w : World) (queue : List QueuedApproval) (artifactId : String) : Prop :=
  ∃ t, w.writer artifactId = some t ∧ (approvalsOf queue artifactId ≠ [] ∨ ¬ Claims d w t)

/-- The artifacts that a pass still handles, with the queue that it has listed. -/
def PassPhase.todo : PassPhase → Option (List String × List QueuedApproval)
  | .scanning ids queue => some (ids, queue)
  | .orphaned id rest queue | .consuming id rest queue => some (id :: rest, queue)
  | _ => none

/-- What holds of a pass in its phase. -/
structure PassSound (d : Threads) (w : World) (phase : PassPhase) : Prop where
  listed : ∀ ids, phase = .listed ids → ∀ id ∈ ids, (w.writer id).isSome
  settled : ∀ ids queue, phase.todo = some (ids, queue) → ∀ id ∈ ids, Settled d w queue id
  orphaned : ∀ id rest queue, phase = .orphaned id rest queue → approvalsOf queue id = []

structure RecoveryInvariant [IsoDateTime] [Digest] [BytesDigest] [FloatText] [Conversions]
    (d : Threads) (repoIdentity : String → String) (w : World) : Prop where
  files : ∀ id, (w.directory id).isSome → (w.writer id).isSome
  hex : ∀ id, (w.writer id).isSome → ∃ new : HexId, id = new.text
  begun : ∀ id t, w.writer id = some t → w.runs t ≠ .idle
  made : ∀ id t patch, w.writer id = some t → (w.runs t).patch? = some patch →
    patch.artifactId = id
  owns : ∀ t patch, (w.runs t).patch? = some patch →
    w.writer patch.artifactId = some t ∧ w.requester patch.approvalId = some t
  ids : Table.Unique ApprovalRow.approvalId w.rows
  keyed : ∀ row ∈ w.rows, row.request.approvalId = row.approvalId
  requested : ∀ row ∈ w.rows, ∃ t patch, w.runs t = .reported patch ∧
    row.approvalId = patch.approvalId
  unborn : ∀ t, d.process t ∉ w.running → d.process t ∉ w.exited → w.runs t = .idle
  named : ∀ t patch loaded, w.runs t = .persisted patch loaded →
    loaded.artifactId = patch.artifactId
  kept : ArtifactsKept d repoIdentity w
  passes : ∀ r, PassSound d w (w.passes r)

/-! ## Frames -/

/-- The run claims no more than before, and its ids stay. -/
structure Evolves (d : Threads) (w w' : World) : Prop where
  writer : ∀ id t, w.writer id = some t → w'.writer id = some t
  claims : ∀ t, w.runs t ≠ .idle → Claims d w' t → Claims d w t

theorem PassSound.evolves {d : Threads} {w w' : World} {phase : PassPhase}
    (h : PassSound d w phase) (hbegun : ∀ id t, w.writer id = some t → w.runs t ≠ .idle)
    (he : Evolves d w w') : PassSound d w' phase := by
  constructor
  · intro ids hids id hid
    have ⟨t, ht⟩ := Option.isSome_iff_exists.mp (h.listed ids hids id hid)
    rw [he.writer id t ht]
    rfl
  · intro ids queue htodo id hid
    have ⟨t, ht, hsettled⟩ := h.settled ids queue htodo id hid
    refine ⟨t, he.writer id t ht, ?_⟩
    rcases hsettled with hbound | hclaims
    · exact .inl hbound
    · right
      intro hclaims'
      exact hclaims (he.claims t (hbegun id t ht) hclaims')
  · exact h.orphaned

/-- A pass without artifacts. -/
theorem PassSound.empty {d : Threads} {w : World} {phase : PassPhase}
    (hlisted : ∀ ids, phase ≠ .listed ids) (htodo : phase.todo = none) : PassSound d w phase := by
  constructor
  · intro ids h
    exact absurd h (hlisted ids)
  · intro ids queue h
    rw [htodo] at h
    cases h
  · rintro id rest queue rfl
    cases htodo

/-- The pass goes on with the artifacts that are left. -/
theorem PassSound.scanRest {d : Threads} {w : World} {phase : PassPhase}
    (h : PassSound d w phase) {ids rest : List String} {queue : List QueuedApproval}
    (htodo : phase.todo = some (ids, queue)) (hrest : ∀ id ∈ rest, id ∈ ids) :
    PassSound d w (.scanning rest queue) := by
  constructor
  · intro ids h
    cases h
  · intro ids' queue' h'
    cases h'
    intro id hid
    exact h.settled ids queue htodo id (hrest id hid)
  · intro id rest queue h
    cases h

section Invariant
variable [IsoDateTime] [Digest] [BytesDigest] [FloatText] [Conversions]
variable {d : Threads} {repoIdentity : String → String} {w : World} {t : ℕ}

/-- Loading depends on the file of the artifact only. -/
theorem load_congr {directory directory' : Directory} (id : HexId)
    (h : directory' id.text = directory id.text) (now : ℤ) (allowExpired allowConsumed : Bool) :
    load repoIdentity directory' now id.text allowExpired allowConsumed =
      load repoIdentity directory now id.text allowExpired allowConsumed := by
  have hread : readPayload directory' id.text = readPayload directory id.text :=
    congrArg (readFile id.text) h
  unfold load
  rw [requireIdentifier_hexId]
  change (readPayload directory' id.text).bind _ = (readPayload directory id.text).bind _
  rw [hread]

theorem Loadable.of_eq {w' : World} {id : HexId} (h : Loadable repoIdentity w id.text)
    (hfile : w'.directory id.text = w.directory id.text) : Loadable repoIdentity w' id.text := by
  have ⟨artifact, hload⟩ := h
  refine ⟨artifact, ?_⟩
  intro now
  rw [load_congr id hfile]
  exact hload now

namespace RecoveryInvariant

theorem initial (d : Threads) : RecoveryInvariant d repoIdentity .initial := by
  have hkept : ArtifactsKept d repoIdentity .initial := by
    constructor
    · intro t patch loaded h
      cases h
    · intro t patch h
      cases h
  have hpasses : ∀ r, PassSound d .initial (World.initial.passes r) := by
    intro r
    constructor
    · intro ids h
      cases h
    · intro ids queue h
      cases h
    · intro id rest queue h
      cases h
  constructor
  · intro id h
    cases h
  · intro id h
    cases h
  · intro id t h
    cases h
  · intro id t patch h
    cases h
  · intro t patch h
    cases h
  · exact .nil _
  · intro row h
    cases h
  · intro row h
    cases h
  · intro t _ _
    rfl
  · intro t patch loaded h
    cases h
  · exact hkept
  · exact hpasses

/-- The artifacts of two runs are different files. -/
theorem artifactId_injective (h : RecoveryInvariant d repoIdentity w) {u : ℕ}
    {patch patch' : PendingPatch} (ht : (w.runs t).patch? = some patch)
    (hu : (w.runs u).patch? = some patch') (heq : patch.artifactId = patch'.artifactId) : t = u := by
  have hwriter := (h.owns t patch ht).1
  rw [heq, (h.owns u patch' hu).1, Option.some.injEq] at hwriter
  exact hwriter.symm

/-- The runs of a new process have not begun. -/
theorem start (h : RecoveryInvariant d repoIdentity w) {p : ℕ} (hr : p ∉ w.running)
    (he : p ∉ w.exited) : RecoveryInvariant d repoIdentity { w with running := p :: w.running } := by
  have hlive : ∀ u, d.process u ∈ p :: w.running → w.runs u ≠ .idle → d.process u ∈ w.running := by
    intro u hu hbegun
    rcases List.mem_cons.mp hu with hp | hu
    · exact absurd (h.unborn u (by rwa [hp]) (by rwa [hp])) hbegun
    · exact hu
  have hevolves : Evolves d w { w with running := p :: w.running } := by
    constructor
    · intro id u hu
      exact hu
    · intro u hbegun hclaims
      exact hclaims.imp_right fun hu => ⟨hlive u hu.1 hbegun, hu.2⟩
  constructor
  · exact h.files
  · exact h.hex
  · exact h.begun
  · exact h.made
  · exact h.owns
  · exact h.ids
  · exact h.keyed
  · exact h.requested
  · intro u hu he'
    exact h.unborn u (fun hmem => hu (List.mem_cons_of_mem p hmem)) he'
  · exact h.named
  · constructor
    · intro u patch loaded hu hmem
      exact h.kept.persisted u patch loaded hu
        (hlive u hmem (fun hidle => by rw [hu] at hidle; cases hidle))
    · exact h.kept.reported
  · intro r
    exact (h.passes r).evolves h.begun hevolves

theorem exit (h : RecoveryInvariant d repoIdentity w) (p : ℕ) :
    RecoveryInvariant d repoIdentity
      { w with running := w.running.filter (· ≠ p), exited := p :: w.exited } := by
  have hlive : ∀ u, d.process u ∈ w.running.filter (· ≠ p) → d.process u ∈ w.running := by
    intro u hu
    exact (List.mem_filter.mp hu).1
  have hevolves : Evolves d w
      { w with running := w.running.filter (· ≠ p), exited := p :: w.exited } := by
    constructor
    · intro id u hu
      exact hu
    · intro u _ hclaims
      exact hclaims.imp_right fun hu => ⟨hlive u hu.1, hu.2⟩
  constructor
  · exact h.files
  · exact h.hex
  · exact h.begun
  · exact h.made
  · exact h.owns
  · exact h.ids
  · exact h.keyed
  · exact h.requested
  · intro u hu he
    rw [List.mem_cons, not_or] at he
    apply h.unborn u _ he.2
    intro hmem
    exact hu (List.mem_filter.mpr ⟨hmem, by simpa using he.1⟩)
  · exact h.named
  · constructor
    · intro u patch loaded hu hmem
      exact h.kept.persisted u patch loaded hu (hlive u hmem)
    · exact h.kept.reported
  · intro r
    exact (h.passes r).evolves h.begun hevolves

/-- A begun run moves to a phase in which it claims no more than before. -/
theorem setRun (h : RecoveryInvariant d repoIdentity w) (ht : d.process t ∈ w.running)
    (hold : w.runs t ≠ .idle ∧ ∀ patch, w.runs t ≠ .reported patch) (phase : RunPhase)
    (hnew : phase ≠ .idle ∧ ∀ patch, phase ≠ .reported patch)
    (hpatch : ∀ patch, phase.patch? = some patch → (w.runs t).patch? = some patch)
    (hclaim : phase.unsubmitted = true → (w.runs t).unsubmitted = true)
    (hload : ∀ patch loaded, phase = .persisted patch loaded →
      loaded.artifactId = patch.artifactId ∧ Loadable repoIdentity w patch.artifactId) :
    RecoveryInvariant d repoIdentity (w.setRun t phase) := by
  have hruns : ∀ u, (w.setRun t phase).runs u = if u = t then phase else w.runs u := by
    intro u
    change Function.update w.runs t phase u = _
    rw [Function.update_apply]
  have hreported : ∀ u patch, (w.setRun t phase).runs u = .reported patch ↔
      w.runs u = .reported patch := by
    intro u patch
    rw [hruns]
    split
    · rename_i hu
      subst hu
      exact iff_of_false (hnew.2 patch) (hold.2 patch)
    · rfl
  have hevolves : Evolves d w (w.setRun t phase) := by
    constructor
    · intro id u hu
      exact hu
    · intro u _ hclaims
      rcases hclaims with ⟨patch, hu⟩ | ⟨hlive, hu⟩
      · exact .inl ⟨patch, (hreported u patch).mp hu⟩
      · rw [hruns] at hu
        split at hu
        · rename_i heq
          subst heq
          exact .inr ⟨hlive, hclaim hu⟩
        · exact .inr ⟨hlive, hu⟩
  constructor
  · exact h.files
  · exact h.hex
  · intro id u hu
    rw [hruns]
    split
    · exact hnew.1
    · exact h.begun id u hu
  · intro id u patch hid hu
    rw [hruns] at hu
    split at hu
    · rename_i heq
      subst heq
      exact h.made id u patch hid (hpatch patch hu)
    · exact h.made id u patch hid hu
  · intro u patch hu
    rw [hruns] at hu
    split at hu
    · rename_i heq
      subst heq
      exact h.owns u patch (hpatch patch hu)
    · exact h.owns u patch hu
  · exact h.ids
  · exact h.keyed
  · intro row hrow
    have ⟨u, patch, hu, hid⟩ := h.requested row hrow
    exact ⟨u, patch, (hreported u patch).mpr hu, hid⟩
  · intro u hu he
    rw [hruns, if_neg]
    · exact h.unborn u hu he
    · rintro rfl
      exact hu ht
  · intro u patch loaded hu
    rw [hruns] at hu
    split at hu
    · exact (hload patch loaded hu).1
    · exact h.named u patch loaded hu
  · constructor
    · intro u patch loaded hu hlive
      rw [hruns] at hu
      split at hu
      · exact (hload patch loaded hu).2
      · exact h.kept.persisted u patch loaded hu hlive
    · intro u patch hu
      exact h.kept.reported u patch ((hreported u patch).mp hu)
  · intro r
    exact (h.passes r).evolves h.begun hevolves

/-- Files may change while the claimed artifacts stay loadable. -/
theorem setDirectory (h : RecoveryInvariant d repoIdentity w) {directory : Directory}
    (hfiles : ∀ id, (directory id).isSome → (w.writer id).isSome)
    (hload : ∀ t patch, Claims d w t → (w.runs t).held? = some patch →
      Loadable repoIdentity w patch.artifactId →
      Loadable repoIdentity { w with directory := directory } patch.artifactId) :
    RecoveryInvariant d repoIdentity { w with directory := directory } := by
  have hevolves : Evolves d w { w with directory := directory } :=
    ⟨fun id u hu => hu, fun u _ hclaims => hclaims⟩
  constructor
  · exact hfiles
  · exact h.hex
  · exact h.begun
  · exact h.made
  · exact h.owns
  · exact h.ids
  · exact h.keyed
  · exact h.requested
  · exact h.unborn
  · exact h.named
  · constructor
    · intro u patch loaded hu hlive
      apply hload u patch
      · exact .inr ⟨hlive, by rw [hu]; rfl⟩
      · rw [hu]
        rfl
      · exact h.kept.persisted u patch loaded hu hlive
    · intro u patch hu
      have ⟨hloadable, hrow⟩ := h.kept.reported u patch hu
      refine ⟨?_, hrow⟩
      apply hload u patch
      · exact .inl ⟨patch, hu⟩
      · rw [hu]
        rfl
      · exact hloadable
  · intro r
    exact (h.passes r).evolves h.begun hevolves

/-- One file changes that no other run claims. -/
theorem setFile (h : RecoveryInvariant d repoIdentity w) (id : HexId) (file : Option ArtifactFile)
    (hfile : file.isSome → (w.writer id.text).isSome)
    (hother : ∀ t patch, Claims d w t → (w.runs t).held? = some patch →
      patch.artifactId ≠ id.text) :
    RecoveryInvariant d repoIdentity (w.setFile id.text file) := by
  apply h.setDirectory
  · intro id' hsome
    rw [Function.update_apply] at hsome
    split at hsome
    · rename_i heq
      subst heq
      exact hfile hsome
    · exact h.files id' hsome
  · intro t patch hclaims hpatch hloadable
    exact hloadable.of_eq (Function.update_of_ne (hother t patch hclaims hpatch) _ _)

theorem setLock (h : RecoveryInvariant d repoIdentity w) (id : String)
    (lock : Option LockContent) : RecoveryInvariant d repoIdentity (w.setLock id lock) := by
  have hevolves : Evolves d w (w.setLock id lock) :=
    ⟨fun id u hu => hu, fun u _ hclaims => hclaims⟩
  exact ⟨h.files, h.hex, h.begun, h.made, h.owns, h.ids, h.keyed, h.requested, h.unborn,
    h.named, ⟨h.kept.persisted, h.kept.reported⟩, fun r => (h.passes r).evolves h.begun hevolves⟩

theorem setPass (h : RecoveryInvariant d repoIdentity w) (r : ℕ) {phase : PassPhase}
    (hphase : PassSound d w phase) : RecoveryInvariant d repoIdentity (w.setPass r phase) := by
  have hevolves : Evolves d w (w.setPass r phase) :=
    ⟨fun id u hu => hu, fun u _ hclaims => hclaims⟩
  refine ⟨h.files, h.hex, h.begun, h.made, h.owns, h.ids, h.keyed, h.requested, h.unborn,
    h.named, ⟨h.kept.persisted, h.kept.reported⟩, ?_⟩
  intro q
  change PassSound d _ (Function.update w.passes r phase q)
  rw [Function.update_apply]
  split
  · exact hphase.evolves h.begun hevolves
  · exact (h.passes q).evolves h.begun hevolves

/-- A new artifact id and a new approval id belong to the run that made them. -/
theorem begin_run (h : RecoveryInvariant d repoIdentity w) (ht : d.process t ∈ w.running)
    (hidle : w.runs t = .idle) (patch : PendingPatch) (hw : w.writer patch.artifactId = none)
    (hr : w.requester patch.approvalId = none) (phase : RunPhase) (hbegun : phase ≠ .idle)
    (hpatch : ∀ patch', phase.patch? = some patch' → patch' = patch)
    (hnot : (∀ patch', phase ≠ .reported patch') ∧ ∀ patch' loaded, phase ≠ .persisted patch' loaded) :
    RecoveryInvariant d repoIdentity ({ w with
      writer := Function.update w.writer patch.artifactId (some t)
      requester := Function.update w.requester patch.approvalId (some t) }.setRun t phase) := by
  have hwriter : ∀ id u, w.writer id = some u →
      Function.update w.writer patch.artifactId (some t) id = some u := by
    intro id u hu
    rw [Function.update_of_ne _ _ _, hu]
    rintro rfl
    rw [hw] at hu
    cases hu
  have hrequester : ∀ id u, w.requester id = some u →
      Function.update w.requester patch.approvalId (some t) id = some u := by
    intro id u hu
    rw [Function.update_of_ne _ _ _, hu]
    rintro rfl
    rw [hr] at hu
    cases hu
  have hruns : ∀ u, u ≠ t → Function.update w.runs t phase u = w.runs u :=
    fun u hu => Function.update_of_ne hu _ _
  have hother : ∀ u, w.runs u ≠ .idle → u ≠ t := by
    rintro u hu rfl
    exact hu hidle
  constructor
  · intro id hid
    have ⟨u, hu⟩ := Option.isSome_iff_exists.mp (h.files id hid)
    exact Option.isSome_iff_exists.mpr ⟨u, hwriter id u hu⟩
  · intro id hid
    change (Function.update w.writer patch.artifactId (some t) id).isSome at hid
    rw [Function.update_apply] at hid
    split at hid
    · rename_i heq
      exact ⟨patch.answers.newArtifactId, heq⟩
    · exact h.hex id hid
  · intro id u hu
    change Function.update w.runs t phase u ≠ .idle
    by_cases hut : u = t
    · subst hut
      rwa [Function.update_self]
    · rw [hruns u hut]
      change Function.update w.writer patch.artifactId (some t) id = some u at hu
      rw [Function.update_apply] at hu
      split at hu
      · exact absurd (Option.some.inj hu).symm hut
      · exact h.begun id u hu
  · intro id u patch' hid hu
    change Function.update w.writer patch.artifactId (some t) id = some u at hid
    change (Function.update w.runs t phase u).patch? = some patch' at hu
    rw [Function.update_apply] at hid
    by_cases hut : u = t
    · subst hut
      rw [Function.update_self] at hu
      rw [hpatch patch' hu]
      split at hid
      · rename_i heq
        exact heq.symm
      · exact absurd hidle (h.begun id u hid)
    · rw [hruns u hut] at hu
      split at hid
      · exact absurd (Option.some.inj hid).symm hut
      · exact h.made id u patch' hid hu
  · intro u patch' hu
    change (Function.update w.runs t phase u).patch? = some patch' at hu
    by_cases hut : u = t
    · subst hut
      rw [Function.update_self] at hu
      rw [hpatch patch' hu]
      exact ⟨Function.update_self .., Function.update_self ..⟩
    · rw [hruns u hut] at hu
      have ⟨howns, hasks⟩ := h.owns u patch' hu
      exact ⟨hwriter _ u howns, hrequester _ u hasks⟩
  · exact h.ids
  · exact h.keyed
  · intro row hrow
    have ⟨u, patch', hu, hid⟩ := h.requested row hrow
    refine ⟨u, patch', ?_, hid⟩
    rw [← hu]
    exact hruns u (hother u (by rw [hu]; nofun))
  · intro u hu he
    have hut : u ≠ t := by
      rintro rfl
      exact hu ht
    exact (hruns u hut).trans (h.unborn u hu he)
  · intro u patch' loaded hu
    change Function.update w.runs t phase u = .persisted patch' loaded at hu
    by_cases hut : u = t
    · subst hut
      rw [Function.update_self] at hu
      exact absurd hu (hnot.2 patch' loaded)
    · rw [hruns u hut] at hu
      exact h.named u patch' loaded hu
  · constructor
    · intro u patch' loaded hu hlive
      change Function.update w.runs t phase u = .persisted patch' loaded at hu
      by_cases hut : u = t
      · subst hut
        rw [Function.update_self] at hu
        exact absurd hu (hnot.2 patch' loaded)
      · rw [hruns u hut] at hu
        exact h.kept.persisted u patch' loaded hu hlive
    · intro u patch' hu
      change Function.update w.runs t phase u = .reported patch' at hu
      by_cases hut : u = t
      · subst hut
        rw [Function.update_self] at hu
        exact absurd hu (hnot.1 patch')
      · rw [hruns u hut] at hu
        exact h.kept.reported u patch' hu
  · intro r
    apply (h.passes r).evolves h.begun
    constructor
    · exact hwriter
    · intro u hu hclaims
      have hut := hruns u (hother u hu)
      rcases hclaims with ⟨patch', hreported⟩ | ⟨hlive, hunsub⟩
      · exact .inl ⟨patch', hut.symm.trans hreported⟩
      · change (Function.update w.runs t phase u).unsubmitted = true at hunsub
        rw [hut] at hunsub
        exact .inr ⟨hlive, hunsub⟩

theorem setQuarantined (h : RecoveryInvariant d repoIdentity w) (quarantined : List String) :
    RecoveryInvariant d repoIdentity { w with quarantined := quarantined } := by
  have hevolves : Evolves d w { w with quarantined := quarantined } :=
    ⟨fun id u hu => hu, fun u _ hclaims => hclaims⟩
  exact ⟨h.files, h.hex, h.begun, h.made, h.owns, h.ids, h.keyed, h.requested, h.unborn, h.named,
    ⟨h.kept.persisted, h.kept.reported⟩, fun r => (h.passes r).evolves h.begun hevolves⟩

/-- The rows of the queue are among the listed approvals. -/
theorem mem_list (h : RecoveryInvariant d repoIdentity w) {row : ApprovalRow}
    (hrow : row ∈ w.rows) : row.item ∈ SQLiteApprovalQueue.list w.rows none := by
  have hselect : SQLiteApprovalQueue.selectRow w.rows row.approvalId = some row :=
    h.ids.selectOne_eq_some.mpr ⟨hrow, rfl⟩
  have hget : PyDict.get (SQLiteApprovalQueue.loadItems w.rows) row.approvalId = some row.item := by
    rw [SQLiteApprovalQueue.loadItems, get_foldl_set h.ids h.keyed, hselect]
    rfl
  have hmem := List.mem_map_of_mem (f := Prod.snd) (PyDict.mem_of_get hget)
  exact List.mem_filter.mpr ⟨hmem, rfl⟩

theorem unclaimed_of_settled (h : RecoveryInvariant d repoIdentity w)
    {queue : List QueuedApproval} {id : String} (hsettled : Settled d w queue id)
    (hnone : approvalsOf queue id = []) {u : ℕ} {patch : PendingPatch} (hclaims : Claims d w u)
    (hpatch : (w.runs u).patch? = some patch) : patch.artifactId ≠ id := by
  rintro rfl
  have ⟨t, ht, hsettled⟩ := hsettled
  rw [(h.owns u patch hpatch).1, Option.some.injEq] at ht
  subst ht
  rcases hsettled with hbound | hfree
  · exact hbound hnone
  · exact hfree hclaims

/-- A pass that lists the queue when every listed artifact is submitted binds them all. -/
theorem listQueue (h : RecoveryInvariant d repoIdentity w) {r : ℕ} {ids : List String}
    (hphase : w.passes r = .listed ids) (hlists : ListsSubmitted d w (.pass r .listQueue)) :
    PassSound d w (.scanning ids (SQLiteApprovalQueue.list w.rows none)) := by
  rw [ListsSubmitted, hphase] at hlists
  constructor
  · intro ids h
    cases h
  · intro ids' queue h'
    cases h'
    intro id hid
    have ⟨t, ht⟩ := Option.isSome_iff_exists.mp ((h.passes r).listed ids hphase id hid)
    refine ⟨t, ht, ?_⟩
    by_cases hclaims : Claims d w t
    · left
      rcases hclaims with ⟨patch, hreported⟩ | ⟨hlive, hunsub⟩
      · have ⟨_, row, hrow, _, hbound⟩ := h.kept.reported t patch hreported
        rw [h.made id t patch ht (by rw [hreported]; rfl)] at hbound
        have hmem : row.item ∈ approvalsOf (SQLiteApprovalQueue.list w.rows none) id :=
          List.mem_filter.mpr ⟨h.mem_list hrow, decide_eq_true hbound⟩
        exact List.ne_nil_of_mem hmem
      · rw [hlists id hid t ht hlive] at hunsub
        cases hunsub
    · exact .inr hclaims
  · intro id rest queue h
    cases h

/-- What `persist` wrote is read back under its name. -/
theorem verify (h : RecoveryInvariant d repoIdentity w) (ht : d.process t ∈ w.running)
    {patch : PendingPatch} {artifact loaded : PatchArtifact} {now : ℤ}
    (hphase : w.runs t = .unlocked patch artifact)
    (hload : load repoIdentity w.directory now patch.answers.newArtifactId.text true true =
      .ok loaded) :
    RecoveryInvariant d repoIdentity (w.setRun t (.persisted patch loaded)) := by
  have ⟨normalizedId, _, hid, _, _, hname⟩ := load_eq_ok hload
  rw [requireIdentifier_hexId] at hid
  cases hid
  apply h.setRun ht
  · rw [hphase]
    exact ⟨nofun, fun _ => nofun⟩
  · exact ⟨nofun, fun _ => nofun⟩
  · intro patch' hpatch
    rw [hphase]
    exact hpatch
  · intro _
    rw [hphase]
    rfl
  · intro patch' loaded' heq
    cases heq
    exact ⟨hname, loaded, load_anyTime hload⟩

/-- A run that holds no artifact writes and deletes its file. -/
theorem setOwnFile (h : RecoveryInvariant d repoIdentity w) {patch : PendingPatch}
    (hpatch : (w.runs t).patch? = some patch) (hheld : (w.runs t).held? = none)
    (file : Option ArtifactFile) :
    RecoveryInvariant d repoIdentity (w.setFile patch.artifactId file) := by
  apply h.setFile patch.answers.newArtifactId
  · intro _
    exact Option.isSome_iff_exists.mpr ⟨t, (h.owns t patch hpatch).1⟩
  · intro u patch' _ hu heq
    have hut := h.artifactId_injective (RunPhase.patch?_of_held hu) hpatch heq
    rw [hut, hheld] at hu
    cases hu

/-- A run goes on with its patch. -/
theorem advance (h : RecoveryInvariant d repoIdentity w) (ht : d.process t ∈ w.running)
    {phase next : RunPhase} (hphase : w.runs t = phase)
    (hold : phase ≠ .idle ∧ ∀ patch, phase ≠ .reported patch)
    (hnew : next ≠ .idle ∧ (∀ patch, next ≠ .reported patch) ∧
      ∀ patch loaded, next ≠ .persisted patch loaded)
    (hpatch : next.patch? = phase.patch?)
    (hclaim : next.unsubmitted = true → phase.unsubmitted = true) :
    RecoveryInvariant d repoIdentity (w.setRun t next) := by
  subst hphase
  apply h.setRun ht hold next ⟨hnew.1, hnew.2.1⟩ _ hclaim
  · intro patch loaded heq
    exact absurd heq (hnew.2.2 patch loaded)
  · intro patch hnext
    rwa [← hpatch]

theorem fail (h : RecoveryInvariant d repoIdentity w) (ht : d.process t ∈ w.running)
    {phase : RunPhase} (hphase : w.runs t = phase)
    (hold : phase ≠ .idle ∧ ∀ patch, phase ≠ .reported patch) :
    RecoveryInvariant d repoIdentity (w.setRun t .failed) := by
  subst hphase
  apply h.setRun ht hold .failed ⟨nofun, fun _ => nofun⟩
  · intro patch heq
    cases heq
  · intro hclaim
    cases hclaim
  · intro patch loaded heq
    cases heq

/-- A pass without artifacts goes on. -/
theorem toPhase (h : RecoveryInvariant d repoIdentity w) (r : ℕ) (phase : PassPhase)
    (hlisted : ∀ ids, phase ≠ .listed ids) (htodo : phase.todo = none) :
    RecoveryInvariant d repoIdentity (w.setPass r phase) :=
  h.setPass r (PassSound.empty hlisted htodo)

/-- The pass marks an artifact as consumed, or goes on without it. -/
theorem markConsumed (h : RecoveryInvariant d repoIdentity w) {id : String}
    (hwriter : (w.writer id).isSome) {now : ℤ} {consumedAt : String} {fault : Option PyException}
    {consumed : PatchArtifact} {directory : Directory}
    (hmark : markConsumed repoIdentity w.directory now consumedAt id fault =
      .ok (consumed, directory)) :
    RecoveryInvariant d repoIdentity { w with directory := directory } := by
  have ⟨new, hnew⟩ := h.hex id hwriter
  subst hnew
  have hid := requireIdentifier_hexId new "artifact ID"
  have ⟨_, file, _, _, hdirectory, hload⟩ := markConsumed_written hid hmark
  have hother : ∀ id' ≠ new.text, directory id' = w.directory id' := by
    intro id' hne
    rw [hdirectory]
    exact Function.update_of_ne hne _ _
  have hconsumed : Loadable repoIdentity { w with directory := directory } new.text :=
    ⟨consumed, load_anyTime hload⟩
  apply h.setDirectory
  · intro id' hsome
    by_cases heq : id' = new.text
    · rw [heq]
      exact hwriter
    · rw [hother id' heq] at hsome
      exact h.files id' hsome
  · intro u patch _ _ hloadable
    by_cases heq : patch.artifactId = new.text
    · rw [heq]
      exact hconsumed
    · have hfile := hother patch.artifactId heq
      exact Loadable.of_eq hloadable hfile

end RecoveryInvariant
end Invariant

section Steps
variable [UnicodeTables] [IsoDateTime] [Digest] [BytesDigest] [FloatText] [Conversions]
variable {d : Threads} {repoIdentity : String → String} {w : World} {t : ℕ}

/-! ## Ids in the queue -/

omit [IsoDateTime] [Digest] [BytesDigest] [FloatText] [Conversions] in
theorem redact_hexId (id : HexId) : redactSensitiveString id.text = id.text := by
  apply redactSensitiveString_of_id
  intro c hc
  have hsub : ∀ c ∈ "0123456789abcdef".toList, c ∈ idCharacters := by decide
  exact hsub c (id.hex_text c hc)

omit [IsoDateTime] [Digest] [BytesDigest] [FloatText] [Conversions] in
theorem redact_approvalId (patch : PendingPatch) :
    redactSensitiveString patch.approvalId = patch.approvalId := by
  apply redactSensitiveString_of_id
  intro c hc
  have hid : patch.approvalId = "apr_" ++ patch.newApprovalId.text := patch.approvalId_eq
  have hsub : ∀ c ∈ "0123456789abcdef".toList, c ∈ idCharacters := by decide
  have happr : ∀ c ∈ "apr_".toList, c ∈ idCharacters := by decide
  rw [hid, String.toList_append, List.mem_append] at hc
  rcases hc with hc | hc
  · exact happr c hc
  · exact hsub c (patch.newApprovalId.hex_text c hc)

omit [IsoDateTime] [Digest] [BytesDigest] [FloatText] [Conversions] in
/-- The stored request names the artifact that it was bound to. -/
theorem stored_artifactId (patch : PendingPatch) {loaded : PatchArtifact}
    (hname : loaded.artifactId = patch.artifactId) :
    (bindArtifactToApproval patch.call.approvalRequest loaded).stored.metadata.get "artifact_id" =
      some (.str patch.artifactId) := by
  have hkey : isSensitiveKey "artifact_id" = false := rfl
  have hget : PyDict.get (bindArtifactToApproval patch.call.approvalRequest loaded).metadata
      "artifact_id" = some (.str patch.artifactId) := by
    rw [← hname, bindArtifactToApproval, PyDict.get_merge]
    rfl
  have hnodup : ((bindArtifactToApproval patch.call.approvalRequest loaded).metadata.map
      Prod.fst).Nodup := PyDict.nodup_merge patch.metadata_keys _
  change PyDict.get (storedDict _) "artifact_id" = _
  rw [get_storedDict hnodup, hget, Option.map_some, hkey]
  change some (Value.str (redactSensitiveString patch.answers.newArtifactId.text)) = _
  rw [redact_hexId]
  rfl

namespace RecoveryInvariant

/-- A run submits the request of its artifact. -/
theorem submit (h : RecoveryInvariant d repoIdentity w) (ht : d.process t ∈ w.running)
    {patch : PendingPatch} {loaded : PatchArtifact} (hphase : w.runs t = .persisted patch loaded)
    {rows : ApprovalTable} (hsubmit : SQLiteApprovalQueue.submit w.rows
      (bindArtifactToApproval patch.call.approvalRequest loaded) = .ok rows) :
    RecoveryInvariant d repoIdentity ({ w with rows := rows }.setRun t (.reported patch)) := by
  have hpatch : (w.runs t).patch? = some patch := by
    rw [hphase]
    rfl
  have hnew : ∀ row ∈ w.rows, row.approvalId ≠ patch.approvalId := by
    intro row hrow hid
    have ⟨u, patch', hu, hid'⟩ := h.requested row hrow
    have hasks := (h.owns u patch' (by rw [hu]; rfl)).2
    rw [← hid', hid, (h.owns t patch hpatch).2, Option.some.injEq] at hasks
    subst hasks
    rw [hphase] at hu
    cases hu
  let request := bindArtifactToApproval patch.call.approvalRequest loaded
  have hrows : rows = w.rows.insert (ApprovalRow.inserted request) := by
    rcases SQLiteApprovalQueue.submit_eq_ok hsubmit with ⟨-, row, hrow, -⟩ | ⟨hrows, -⟩
    · have ⟨hmem, hid⟩ := SQLiteApprovalQueue.selectRow_mem hrow
      exact absurd hid (hnew row hmem)
    · exact hrows
  have hmem : ∀ row, row ∈ rows ↔ row ∈ w.rows ∨ row = ApprovalRow.inserted request := by
    intro row
    rw [hrows, Table.mem_insert]
  have hruns : ∀ u, u ≠ t → Function.update w.runs t (.reported patch) u = w.runs u :=
    fun u hu => Function.update_of_ne hu _ _
  have hreported : ∀ u patch', w.runs u = .reported patch' →
      Function.update w.runs t (.reported patch) u = .reported patch' := by
    intro u patch' hu
    rw [hruns u, hu]
    rintro rfl
    rw [hphase] at hu
    cases hu
  constructor
  · exact h.files
  · exact h.hex
  · intro id u hu
    change Function.update w.runs t (.reported patch) u ≠ .idle
    by_cases hut : u = t
    · subst hut
      rw [Function.update_self]
      nofun
    · rw [hruns u hut]
      exact h.begun id u hu
  · intro id u patch' hid hu
    change (Function.update w.runs t (.reported patch) u).patch? = some patch' at hu
    by_cases hut : u = t
    · subst hut
      rw [Function.update_self] at hu
      cases hu
      exact h.made id u patch hid hpatch
    · rw [hruns u hut] at hu
      exact h.made id u patch' hid hu
  · intro u patch' hu
    change (Function.update w.runs t (.reported patch) u).patch? = some patch' at hu
    by_cases hut : u = t
    · subst hut
      rw [Function.update_self] at hu
      cases hu
      exact h.owns u patch hpatch
    · rw [hruns u hut] at hu
      exact h.owns u patch' hu
  · change Table.Unique ApprovalRow.approvalId rows
    rw [hrows]
    exact h.ids.insert fun row hrow => hnew row hrow
  · intro row hrow
    rcases (hmem row).mp hrow with hold | rfl
    · exact h.keyed row hold
    · exact redact_approvalId patch
  · intro row hrow
    rcases (hmem row).mp hrow with hold | rfl
    · have ⟨u, patch', hu, hid⟩ := h.requested row hold
      exact ⟨u, patch', hreported u patch' hu, hid⟩
    · exact ⟨t, patch, Function.update_self .., rfl⟩
  · intro u hu he
    have hut : u ≠ t := by
      rintro rfl
      exact hu ht
    exact (hruns u hut).trans (h.unborn u hu he)
  · intro u patch' loaded' hu
    change Function.update w.runs t (.reported patch) u = .persisted patch' loaded' at hu
    by_cases hut : u = t
    · subst hut
      rw [Function.update_self] at hu
      cases hu
    · rw [hruns u hut] at hu
      exact h.named u patch' loaded' hu
  · constructor
    · intro u patch' loaded' hu hlive
      change Function.update w.runs t (.reported patch) u = .persisted patch' loaded' at hu
      by_cases hut : u = t
      · subst hut
        rw [Function.update_self] at hu
        cases hu
      · rw [hruns u hut] at hu
        exact h.kept.persisted u patch' loaded' hu hlive
    · intro u patch' hu
      change Function.update w.runs t (.reported patch) u = .reported patch' at hu
      by_cases hut : u = t
      · subst hut
        rw [Function.update_self] at hu
        cases hu
        refine ⟨h.kept.persisted u patch loaded hphase ht, ApprovalRow.inserted request,
          (hmem _).mpr (.inr rfl), rfl, ?_⟩
        exact stored_artifactId patch (h.named u patch loaded hphase)
      · rw [hruns u hut] at hu
        have ⟨hloadable, row, hrow, hid⟩ := h.kept.reported u patch' hu
        exact ⟨hloadable, row, (hmem row).mpr (.inl hrow), hid⟩
  · intro r
    apply (h.passes r).evolves h.begun
    constructor
    · intro id u hu
      exact hu
    · intro u hu hclaims
      by_cases hut : u = t
      · subst hut
        exact .inr ⟨ht, by rw [hphase]; rfl⟩
      · rcases hclaims with ⟨patch', hrep⟩ | ⟨hlive, hunsub⟩
        · exact .inl ⟨patch', (hruns u hut).symm.trans hrep⟩
        · change (Function.update w.runs t (.reported patch) u).unsubmitted = true at hunsub
          rw [hruns u hut] at hunsub
          exact .inr ⟨hlive, hunsub⟩

theorem runStep (h : RecoveryInvariant d repoIdentity w) (ht : d.process t ∈ w.running)
    {action : RunAction} {w' : World}
    (hstep : runStep d repoIdentity w t action (w.runs t) = some w') :
    RecoveryInvariant d repoIdentity w' := by
  unfold Recovery.runStep at hstep
  split at hstep
  · rename_i patch hphase
    dsimp only at hstep
    split at hstep
    · cases hstep
    · rename_i hnew
      simp only [not_or, Option.not_isSome_iff_eq_none] at hnew
      split at hstep
      · rename_i artifact _
        cases hstep
        apply h.begin_run ht hphase patch hnew.1 hnew.2 (.locking patch artifact) nofun
        · intro patch' hpatch'
          cases hpatch'
          rfl
        · exact ⟨fun _ => nofun, fun _ _ => nofun⟩
      · cases hstep
        apply h.begin_run ht hphase patch hnew.1 hnew.2 .failed nofun
        · intro patch' hpatch'
          cases hpatch'
        · exact ⟨fun _ => nofun, fun _ _ => nofun⟩
  · rename_i patch artifact hphase
    dsimp only at hstep
    split at hstep
    · cases hstep
      exact h
    · cases hstep
      apply (h.setLock _ _).advance ht hphase
      · exact ⟨nofun, fun _ => nofun⟩
      · exact ⟨nofun, fun _ => nofun, fun _ _ => nofun⟩
      · rfl
      · exact fun _ => rfl
  · rename_i patch artifact hphase
    cases hstep
    exact h.fail ht hphase ⟨nofun, fun _ => nofun⟩
  · rename_i patch artifact hphase
    cases hstep
    exact (h.setLock _ _).fail ht hphase ⟨nofun, fun _ => nofun⟩
  · rename_i patch artifact hphase
    cases hstep
    exact (h.setLock _ _).fail ht hphase ⟨nofun, fun _ => nofun⟩
  · rename_i patch artifact hphase
    have hfailed : RecoveryInvariant d repoIdentity
        ((w.setLock patch.answers.newArtifactId.text none).setRun t .failed) :=
      (h.setLock _ _).fail ht hphase ⟨nofun, fun _ => nofun⟩
    dsimp only at hstep
    split at hstep
    · cases hstep
      exact hfailed
    · split at hstep
      · rename_i file _
        cases hstep
        have hfile : RecoveryInvariant d repoIdentity
            (w.setFile patch.artifactId (some file)) :=
          h.setOwnFile (congrArg RunPhase.patch? hphase) (congrArg RunPhase.held? hphase) _
        apply hfile.advance ht hphase
        · exact ⟨nofun, fun _ => nofun⟩
        · exact ⟨nofun, fun _ => nofun, fun _ _ => nofun⟩
        · rfl
        · exact fun _ => rfl
      · cases hstep
        exact hfailed
  · rename_i patch artifact hphase
    cases hstep
    apply (h.setLock _ _).advance ht hphase
    · exact ⟨nofun, fun _ => nofun⟩
    · exact ⟨nofun, fun _ => nofun, fun _ _ => nofun⟩
    · rfl
    · exact fun _ => rfl
  · rename_i now patch artifact hphase
    split at hstep
    · rename_i loaded hload
      split at hstep
      · cases hstep
        exact h.verify ht hphase hload
      · cases hstep
        exact h.fail ht hphase ⟨nofun, fun _ => nofun⟩
    · cases hstep
      exact h.fail ht hphase ⟨nofun, fun _ => nofun⟩
  · rename_i patch loaded hphase
    split at hstep
    · rename_i rows hsubmit
      cases hstep
      exact h.submit ht hphase hsubmit
    · cases hstep
      apply h.advance ht hphase
      · exact ⟨nofun, fun _ => nofun⟩
      · exact ⟨nofun, fun _ => nofun, fun _ _ => nofun⟩
      · rfl
      · exact fun _ => rfl
  · rename_i patch loaded hphase
    cases hstep
    apply h.advance ht hphase
    · exact ⟨nofun, fun _ => nofun⟩
    · exact ⟨nofun, fun _ => nofun, fun _ _ => nofun⟩
    · rfl
    · exact fun _ => rfl
  · rename_i patch hphase
    dsimp only at hstep
    split at hstep
    · cases hstep
      have hfile : RecoveryInvariant d repoIdentity (w.setFile patch.artifactId none) :=
        h.setOwnFile (congrArg RunPhase.patch? hphase) (congrArg RunPhase.held? hphase) _
      exact hfile.fail ht hphase ⟨nofun, fun _ => nofun⟩
    · cases hstep
      exact h.fail ht hphase ⟨nofun, fun _ => nofun⟩
  · cases hstep

omit [UnicodeTables] in
theorem passStep (h : RecoveryInvariant d repoIdentity w) {r : ℕ} {action : PassAction} {w' : World}
    (hlists : ListsSubmitted d w (.pass r action))
    (hstep : passStep d repoIdentity w r action (w.passes r) = some w') :
    RecoveryInvariant d repoIdentity w' := by
  have hidle : RecoveryInvariant d repoIdentity (w.setPass r .idle) :=
    h.toPhase r .idle nofun rfl
  have hsound := h.passes r
  unfold Recovery.passStep at hstep
  split at hstep
  · split at hstep
    · cases hstep
      exact h.toPhase r (.gating _) nofun rfl
    · cases hstep
  · cases hstep
    exact h.toPhase r .ready nofun rfl
  · rename_i lock rest hphase
    split at hstep
    · rename_i pid _
      cases hstep
      cases w.alive d pid with
      | true => exact hidle
      | false => exact h.toPhase r (.gating rest) nofun rfl
    · cases hstep
      exact hidle
  · cases hstep
    exact h.setLock _ _
  · rename_i artifacts hphase
    split at hstep
    · rename_i hlisted
      cases hstep
      apply h.setPass r
      constructor
      · intro ids heq id hid
        cases heq
        exact h.files id (List.all_eq_true.mp hlisted id hid)
      · intro ids queue htodo
        cases htodo
      · intro id rest queue heq
        cases heq
    · cases hstep
  · rename_i artifacts hphase
    cases hstep
    exact h.setPass r (h.listQueue hphase hlists)
  · rename_i now applyEvidence id rest queue hphase
    rw [hphase] at hsound
    have hrest : PassSound d w (.scanning rest queue) :=
      hsound.scanRest rfl fun _ => List.mem_cons_of_mem id
    have hsettled := hsound.settled (id :: rest) queue rfl
    split at hstep
    · split at hstep
      · cases hstep
        exact h.setPass r hrest
      · cases hstep
        exact hidle
    · split at hstep
      · rename_i hnone
        cases hstep
        apply h.setPass r
        constructor
        · intro ids heq
          cases heq
        · intro ids queue' htodo
          cases htodo
          exact hsettled
        · intro id' rest' queue' heq
          cases heq
          exact hnone
      · split at hstep
        · cases hstep
          apply h.setPass r
          constructor
          · intro ids heq
            cases heq
          · intro ids queue' htodo
            cases htodo
            exact hsettled
          · intro id' rest' queue' heq
            cases heq
        · cases hstep
          exact h.setPass r hrest
      · cases hstep
        exact h.setPass r hrest
  · rename_i id rest queue hphase
    rw [hphase] at hsound
    have hrest : PassSound d w (.scanning rest queue) :=
      hsound.scanRest rfl fun _ => List.mem_cons_of_mem id
    have hgoOn : RecoveryInvariant d repoIdentity (w.setPass r (.scanning rest queue)) :=
      h.setPass r hrest
    split at hstep
    · split at hstep
      · cases hstep
        exact hgoOn
      · cases hstep
        -- no run claims an artifact that the listed queue does not bind
        have hsettled := hsound.settled (id :: rest) queue rfl id List.mem_cons_self
        have hnone := hsound.orphaned id rest queue rfl
        have ⟨t, ht, _⟩ := hsettled
        have ⟨new, hnew⟩ := h.hex id (Option.isSome_iff_exists.mpr ⟨t, ht⟩)
        subst hnew
        have hremoved := h.setFile new none nofun fun u patch hclaims hheld =>
          h.unclaimed_of_settled hsettled hnone hclaims (RunPhase.patch?_of_held hheld)
        apply (hremoved.setQuarantined (new.text :: w.quarantined)).setPass r
        exact hrest.evolves h.begun ⟨fun _ _ hu => hu, fun _ _ hclaims => hclaims⟩
    · cases hstep
      exact hgoOn
  · rename_i now consumedAt fault id rest queue hphase
    rw [hphase] at hsound
    have hrest : PassSound d w (.scanning rest queue) :=
      hsound.scanRest rfl fun _ => List.mem_cons_of_mem id
    split at hstep
    · rename_i consumed directory hmark
      cases hstep
      have ⟨t, ht, _⟩ := hsound.settled (id :: rest) queue rfl id List.mem_cons_self
      have hwriter := Option.isSome_iff_exists.mpr ⟨t, ht⟩
      apply (h.markConsumed hwriter hmark).setPass r
      exact hrest.evolves h.begun ⟨fun _ _ hu => hu, fun _ _ hclaims => hclaims⟩
    · split at hstep
      · cases hstep
        exact h.setPass r hrest
      · cases hstep
        exact hidle
  · cases hstep
    exact hidle
  · cases hstep

/-- A step at which no pass lists the queue too early keeps the invariant. -/
theorem step (h : RecoveryInvariant d repoIdentity w) {label : Label} {w' : World}
    (hlists : ListsSubmitted d w label) (hstep : step d repoIdentity w label = some w') :
    RecoveryInvariant d repoIdentity w' := by
  cases label with
  | start p =>
    rw [Recovery.step] at hstep
    split at hstep
    · cases hstep
    · rename_i hnew
      rw [not_or] at hnew
      cases hstep
      exact h.start hnew.1 hnew.2
  | exit p =>
    rw [Recovery.step] at hstep
    split at hstep
    · cases hstep
      exact h.exit p
    · cases hstep
  | run t action =>
    rw [Recovery.step] at hstep
    split at hstep
    · rename_i ht
      exact h.runStep ht hstep
    · cases hstep
  | pass r action =>
    rw [Recovery.step] at hstep
    split at hstep
    · exact h.passStep hlists hstep
    · cases hstep

end RecoveryInvariant

/-- While passes list the queue only after the runs of the artifacts that they have listed have
submitted their requests, recovery removes no artifact of a run that reported a pending
approval or goes on to submit it. -/
theorem artifacts_kept (labels : List Label) (w : World)
    (hmeets : Meets (Recovery.step d repoIdentity) (ListsSubmitted d) .initial labels)
    (hrun : run (Recovery.step d repoIdentity) .initial labels = some w) :
    ArtifactsKept d repoIdentity w := by
  have hinv : RecoveryInvariant d repoIdentity w :=
    hmeets.invariant (fun _ _ _ h hl hs => h.step hl hs) (.initial d) hrun
  exact hinv.kept

end Steps

/-! ## A pass during a run -/

section Evaluation
variable [UnicodeTables] [IsoDateTime] [Digest] [BytesDigest] [FloatText] [Conversions]
variable (d : Threads) (repoIdentity : String → String)

/-- `step`, with the size of a written artifact taken without its text. -/
def sizedStep (w : World) : Label → Option World
  | .run t .write =>
    if d.process t ∈ w.running then
      match w.runs t with
      | .locked patch artifact =>
        let id := patch.answers.newArtifactId.text
        let failed := (w.setLock id none).setRun t .failed
        let payload := Value.jsonRoundTrip (.dict artifact.toPayloadWithDigest)
        if patch.answers.fault.isSome ∨ (w.directory id).isSome then some failed
        else if maxPatchArtifactBytes < payload.textLength then some failed
        else some ((w.setFile id (some (.regular payload.textLength (.parsed payload)))).setRun t
          (.written patch artifact))
      | phase => runStep d repoIdentity w t .write phase
    else none
  | label => step d repoIdentity w label

theorem step_eq_sizedStep : step d repoIdentity = sizedStep d repoIdentity := by
  funext w label
  cases label with
  | run t action =>
    cases action with
    | write =>
      rw [step, sizedStep]
      cases hphase : w.runs t with
      | locked patch artifact =>
        simp only [runStep, serialized_eq]
        split_ifs <;> rfl
      | _ => rfl
    | _ => rfl
  | _ => rfl

end Evaluation

namespace Sample
open Rygnal.Artifact.Sample

def pendingPatch : PendingPatch where
  call :=
    let patchDiff := patchDiff [0x2B, 0xFF, 0x0A] (Utf8.decode [0x2B, 0xFF, 0x0A])
    { call patchDiff with
      approvalRequest := { request patchDiff with
        approvalId := "apr_" ++ "fedcba9876543210fedcba9876543210"
        contextPresent := by decide } }
  answers := answers
  newApprovalId := ⟨"fedcba9876543210fedcba9876543210", by decide, by decide⟩
  approvalId_eq := rfl
  metadata_keys := by decide

/-- Run 0 persists its artifact. -/
def persists : List Label :=
  [.start 0, .start 1, .run 0 (.persist pendingPatch), .run 0 .lock, .run 0 .write, .run 0 .unlock,
    .run 0 (.verify 1767225600000000)]

/-- Pass 1 lists the artifact and the queue, and loads the artifact. -/
def examines : List Label :=
  [.pass 1 (.listLocks []), .pass 1 .checkLock, .pass 1 (.listArtifacts [pendingPatch.artifactId]),
    .pass 1 .listQueue, .pass 1 (.examine 1767225600000000 false)]

/-- Run 0 submits its request and pass 1 finds it. -/
def submittedFirst : List Label := persists ++ [.run 0 .submit] ++ examines

/-- Pass 1 finds no request yet and moves the artifact away, and run 0 submits the request. -/
def examinedFirst : List Label := persists ++ examines ++ [.pass 1 .quarantine, .run 0 .submit]

end Sample

instance (d : Threads) (w : World) (label : Label) : Decidable (ListsSubmitted d w label) := by
  unfold ListsSubmitted
  split <;> try split
  all_goals infer_instance

/-- The run returned `PENDING_APPROVAL`. -/
def RunPhase.isReported : RunPhase → Bool
  | .reported _ => true
  | _ => false

open Sample Rygnal.Artifact.Sample PyText.Ascii in
/-- The two runs, evaluated together since they share their states. -/
theorem sample_runs :
    ((run (step threads fun _ => "identity") .initial submittedFirst).any
      fun w => (w.runs 0).isReported) = true ∧
    Meets (step threads fun _ => "identity") (ListsSubmitted threads) .initial submittedFirst ∧
    ((run (step threads fun _ => "identity") .initial examinedFirst).any fun w =>
      match w.runs 0 with
      | .reported patch => decide (w.directory patch.answers.newArtifactId.text = none)
      | _ => false) = true := by
  rw [step_eq_sizedStep]
  decide +kernel

open Sample Rygnal.Artifact.Sample PyText.Ascii in
theorem submittedFirst_kept : ∃ w,
    run (step threads fun _ => "identity") .initial submittedFirst = some w ∧
      (w.runs 0).isReported = true ∧ ArtifactsKept threads (fun _ => "identity") w := by
  have ⟨hrun, hmeets, _⟩ := sample_runs
  have ⟨w, hw, hreported⟩ := (Option.any_eq_true _ _).mp hrun
  exact ⟨w, hw, hreported, artifacts_kept submittedFirst w hmeets hw⟩

open Sample Rygnal.Artifact.Sample PyText.Ascii in
/-- The reported approval refers to an artifact that recovery has moved away. -/
theorem examinedFirst_not_kept : ∃ w,
    run (step threads fun _ => "identity") .initial examinedFirst = some w ∧
      ¬ ArtifactsKept threads (fun _ => "identity") w := by
  have ⟨_, _, hrun⟩ := sample_runs
  have ⟨w, hw, hgone⟩ := (Option.any_eq_true _ _).mp hrun
  refine ⟨w, hw, ?_⟩
  intro hkept
  cases hphase : w.runs 0 with
  | reported patch =>
    rw [hphase, decide_eq_true_eq] at hgone
    have ⟨artifact, hload⟩ := (hkept.reported 0 patch hphase).1
    have ⟨_, payload, hid, hpayload, _⟩ := load_eq_ok (hload 0)
    rw [PendingPatch.artifactId, requireIdentifier_hexId] at hid
    cases hid
    rw [readPayload, hgone] at hpayload
    cases hpayload
  | _ =>
    rw [hphase] at hgone
    cases hgone

end Rygnal.Recovery
