import Rygnal.Operations.Reachable

/-! # Recovery and the owners of reservations

Recovery updates a row by its key and state only, after an owner check made in an earlier
step. As long as every row it updates still carries the token that was checked, it never
hits a live owner, and no two live processes hold reservations for one repository.
-/

namespace Rygnal.Operations
open Rygnal.Core Rygnal.Library Rygnal.Library.PyText Rygnal.Library.Transition

variable {d : Deployment} {w w' : World} {t u : ℕ}

/-- The process that drew the owner token has not crashed. -/
def World.alive (d : Deployment) (w : World) (ownerToken : String) : Prop :=
  ∃ i ∈ w.issued, i.record.ownerToken = ownerToken ∧ w.crashed (d.process i.thread) = false

def World.gone (d : Deployment) (w : World) (ownerToken : String) : Prop :=
  ∃ i ∈ w.issued, i.record.ownerToken = ownerToken ∧ w.crashed (d.process i.thread) = true

/-- The thread drew the token of the record, whose operation is incomplete. -/
structure World.Owns (w : World) (t : ℕ) (record : OperationRecord) : Prop where
  drawn : ∃ i ∈ w.issued, i.thread = t ∧ SameReservation record i.record
  row : ∃ row ∈ w.db.operations, row.incomplete = true ∧ SameReservation row record

/-- No two live processes hold reservations for one repository. -/
def World.Exclusive (d : Deployment) (w : World) : Prop :=
  ∀ t u, w.crashed (d.process t) = false → w.crashed (d.process u) = false →
    ∀ r ∈ w.held t, ∀ s ∈ w.held u, r.record.resourceKey = s.record.resourceKey →
      d.process t = d.process u

/-- Operations with a live owner keep their row and their lease. -/
def World.SparesLive (d : Deployment) (w w' : World) : Prop :=
  ∀ row ∈ w.db.operations, w.alive d row.ownerToken → row ∈ w'.db.operations ∧
    ∀ lease ∈ w.db.leases, lease.operationKey = row.operationKey → lease ∈ w'.db.leases

theorem World.gone.not_alive {ownerToken : String} (hu : tokensUnique w.issued)
    (h : w.gone d ownerToken) : ¬ w.alive d ownerToken := by
  rintro ⟨i, hi, hti, hlive⟩
  obtain ⟨j, hj, htj, hdead⟩ := h
  have : i = j := hu.eq_of_key hi hj (hti.trans htj.symm)
  rw [this, hdead] at hlive
  cases hlive

/-- An incomplete row has one owning thread. -/
theorem World.Owns.thread_unique (hu : tokensUnique w.issued) {r s : OperationRecord}
    (hr : w.Owns t r) (hs : w.Owns u s) (htoken : r.ownerToken = s.ownerToken) : t = u := by
  obtain ⟨i, hi, rfl, hri⟩ := hr.drawn
  obtain ⟨j, hj, rfl, hsj⟩ := hs.drawn
  have : i = j := hu.eq_of_key hi hj
    (hri.ownerToken.symm.trans (htoken.trans hsj.ownerToken))
  rw [this]

theorem World.Owns.alive {record : OperationRecord} (h : w.Owns t record)
    (hlive : w.crashed (d.process t) = false) : w.alive d record.ownerToken := by
  obtain ⟨i, hi, rfl, hri⟩ := h.drawn
  exact ⟨i, hi, hri.ownerToken.symm, hlive⟩

/-- An owner stays one while the rows with its token stay and tokens are only added. -/
theorem World.Owns.mono {record : OperationRecord} (h : w.Owns t record)
    (hissued : ∀ i ∈ w.issued, i ∈ w'.issued)
    (hrows : ∀ row ∈ w.db.operations, row.incomplete = true →
      row.ownerToken = record.ownerToken →
      ∃ row' ∈ w'.db.operations, row'.incomplete = true ∧ SameReservation row' row) :
    w'.Owns t record := by
  obtain ⟨i, hi, ht, hri⟩ := h.drawn
  obtain ⟨row, hr, hinc, hsame⟩ := h.row
  obtain ⟨row', hr', hinc', hsame'⟩ := hrows row hr hinc hsame.ownerToken
  exact ⟨⟨i, hissued i hi, ht, hri⟩, row', hr', hinc', hsame'.trans hsame⟩

/-- What a thread relies on in the middle of a call. -/
def PendingSound (d : Deployment) (w : World) (t : ℕ) : Pending → Prop
  | .reloading record => w.crashed (d.process t) = false → w.Owns t record
  | .recovering todo stage => (∀ r ∈ todo, Genuine w.issued r) ∧
      (stage ≠ .ownerCheck → ∀ r ∈ todo.head?, w.gone d r.ownerToken)
  | _ => True

/-- Live threads own what they hold, and a record that recovery is about to update has lost
its owner. -/
structure Ownership (d : Deployment) (w : World) : Prop where
  sound : w.Sound
  owned : ∀ t, w.crashed (d.process t) = false → ∀ r ∈ w.held t, w.Owns t r.record
  pending : ∀ t, PendingSound d w t (w.pending t)

theorem PendingSound.mono {p : Pending} (h : PendingSound d w t p)
    (hissued : ∀ i ∈ w.issued, i ∈ w'.issued) (hcrashed : w'.crashed = w.crashed)
    (hown : ∀ record, p = .reloading record → w.crashed (d.process t) = false →
      w.Owns t record → w'.Owns t record) : PendingSound d w' t p := by
  cases p with
  | reloading record =>
    intro hlive
    rw [hcrashed] at hlive
    exact hown record rfl hlive (h hlive)
  | recovering todo stage =>
    refine ⟨fun r hr => ?_, fun hstage r hr => ?_⟩
    · obtain ⟨i, hi, hri⟩ := h.1 r hr
      exact ⟨i, hissued i hi, hri⟩
    · obtain ⟨i, hi, hti, hdead⟩ := h.2 hstage r hr
      exact ⟨i, hissued i hi, hti, hcrashed ▸ hdead⟩
  | idle | failing | releasing => trivial

namespace Ownership

theorem initial : Ownership d World.initial where
  sound := .initial
  owned _ _ r hr := by simp [World.initial] at hr
  pending _ := trivial

theorem crash (h : Ownership d w) (p : ℕ) :
    Ownership d { w with crashed := Function.update w.crashed p true } := by
  have hlive : ∀ q, Function.update w.crashed p true q = false → w.crashed q = false := by
    intro q hq
    by_cases hqp : q = p
    · subst hqp
      simp at hq
    · rwa [Function.update_of_ne hqp] at hq
  have hdead : ∀ q, w.crashed q = true → Function.update w.crashed p true q = true := by
    intro q hq
    by_contra hn
    rw [hlive q (by simpa using hn)] at hq
    cases hq
  refine ⟨h.sound.crash _, fun t ht r hr => ?_, fun t => ?_⟩
  · have hown := h.owned t (hlive _ ht) r hr
    exact ⟨hown.drawn, hown.row⟩
  · have hp := h.pending t
    cases hpending : w.pending t with
    | reloading record =>
      rw [hpending] at hp
      intro ht
      exact ⟨(hp (hlive _ ht)).drawn, (hp (hlive _ ht)).row⟩
    | recovering todo stage =>
      rw [hpending] at hp
      refine ⟨hp.1, fun hstage r hr => ?_⟩
      obtain ⟨i, hi, hti, hid⟩ := hp.2 hstage r hr
      exact ⟨i, hi, hti, hdead _ hid⟩
    | idle | failing | releasing => trivial

theorem setPending (h : Ownership d w) {p : Pending} (hp : PendingSound d w t p) :
    Ownership d (w.setPending t p) where
  sound := h.sound.setPending t p
  owned u hu r hr := ⟨(h.owned u hu r hr).drawn, (h.owned u hu r hr).row⟩
  pending u := by
    rw [World.setPending_pending]
    have hmono : ∀ q, PendingSound d w u q → PendingSound d (w.setPending t p) u q :=
      fun q hq => hq.mono (fun _ hi => hi) rfl fun _ _ _ hown => ⟨hown.drawn, hown.row⟩
    split
    · rename_i hut
      subst hut
      exact hmono _ hp
    · exact hmono _ (h.pending u)

/-- A thread that read its own row back holds it. -/
theorem hold (h : Ownership d w) {reservation : OperationReservation}
    (hr : w.Owns t reservation.record) (hg : Genuine w.issued reservation.record) :
    Ownership d (w.hold t reservation) where
  sound := h.sound.hold t hg
  owned u hu r hm := by
    rcases World.mem_hold.mp hm with hm | ⟨rfl, rfl⟩
    · exact ⟨(h.owned u hu r hm).drawn, (h.owned u hu r hm).row⟩
    · exact ⟨hr.drawn, hr.row⟩
  pending u := (h.pending u).mono (fun _ hi => hi) rfl fun _ _ _ hown => ⟨hown.drawn, hown.row⟩

/-- A commit under which every live owner of an incomplete row still finds it. -/
theorem commit (h : Ownership d w) {db : Database} (hs : (w.commit db).Sound)
    (hrows : ∀ row ∈ w.db.operations, row.incomplete = true → w.alive d row.ownerToken →
      ∃ row' ∈ db.operations, row'.incomplete = true ∧ SameReservation row' row) :
    Ownership d (w.commit db) := by
  have hown : ∀ {u record}, w.crashed (d.process u) = false → w.Owns u record →
      (w.commit db).Owns u record := by
    intro u record hu hown
    refine hown.mono (fun _ hi => hi) fun row hr hinc htoken => hrows row hr hinc ?_
    exact htoken ▸ hown.alive hu
  exact ⟨hs, fun u hu r hr => hown hu (h.owned u hu r hr),
    fun u => (h.pending u).mono (fun _ hi => hi) rfl fun _ _ hu => hown hu⟩

/-- A thread ends its own reservation: the rows with other tokens stay. -/
theorem complete (h : Ownership d w) {db : Database} {record : OperationRecord}
    (hs : ((w.commit db).unhold t record.ownerToken).Sound) (hown : w.Owns t record)
    (hquiet : ∀ r, w.pending t ≠ .reloading r)
    (hrows : ∀ row ∈ w.db.operations, row.ownerToken ≠ record.ownerToken →
      row ∈ db.operations) :
    Ownership d ((w.commit db).unhold t record.ownerToken) := by
  have hother : ∀ {u r}, w.Owns u r → r.ownerToken ≠ record.ownerToken →
      ((w.commit db).unhold t record.ownerToken).Owns u r := by
    intro u r hr hne
    refine hr.mono (fun _ hi => hi) fun row hrow hinc htoken => ?_
    exact ⟨row, hrows row hrow (htoken ▸ hne), hinc, .refl row⟩
  have htoken : ∀ {u r}, u ≠ t → w.Owns u r → r.ownerToken ≠ record.ownerToken := by
    intro u r hut hr heq
    exact hut (hr.thread_unique h.sound.tokens hown heq)
  refine ⟨hs, fun u hu r hr => ?_, fun u => ?_⟩
  · obtain ⟨hm, hne⟩ := World.mem_unhold.mp hr
    by_cases hut : u = t
    · exact hother (h.owned u hu r hm) (hne hut)
    · exact hother (h.owned u hu r hm) (htoken hut (h.owned u hu r hm))
  · refine (h.pending u).mono (fun _ hi => hi) rfl fun r hr _ hrown => ?_
    have hut : u ≠ t := by
      rintro rfl
      exact hquiet r hr
    exact hother hrown (htoken hut hrown)

theorem reserve (h : Ownership d w) {active : ℤ → String → Bool} {record : OperationRecord}
    {db : Database} (hstate : record.state = .reserved)
    (hf : w.fresh record.ownerToken = true)
    (hr : w.db.reserve active record = (.inserted, db)) :
    Ownership d (((w.commit db).issue ⟨t, record⟩).setPending t (.reloading record)) := by
  have hissued : ∀ i ∈ w.issued, i ∈ ((w.commit db).issue ⟨t, record⟩).issued :=
    fun i hi => Table.mem_insert.mpr (.inl hi)
  obtain ⟨base, hbase, rfl⟩ : ∃ base : Database,
      (∀ row ∈ w.db.operations, row.incomplete = true → row ∈ base.operations) ∧
      db = base.insertReservation record := by
    rcases Database.reserve_eq hr with ⟨ho, -⟩ | ⟨-, base, hbase, -, rfl⟩
    · exact absurd rfl ho
    refine ⟨base, fun row hrow hinc => ?_, rfl⟩
    rcases hbase with ⟨rfl, -⟩ | ⟨failed, hread, hfailed, rfl⟩
    · exact hrow
    · refine Table.mem_delete.mpr ⟨hrow, decide_eq_false fun hk => ?_⟩
      obtain ⟨hfm, hfk⟩ := Table.selectOne_mem hread
      have : row = failed :=
        h.sound.tables.row_eq hrow hfm (hk.trans (of_decide_eq_true hfk).symm)
      simp [this, OperationRecord.incomplete, hfailed, OperationState.incomplete] at hinc
  have hown : ∀ {u r}, w.Owns u r →
      ((w.commit (base.insertReservation record)).issue ⟨t, record⟩).Owns u r := by
    intro u r hur
    refine hur.mono hissued fun row hrow hinc _ => ?_
    exact ⟨row, Table.mem_insert.mpr (.inl (hbase row hrow hinc)), hinc, .refl row⟩
  have hcommitted : Ownership d ((w.commit (base.insertReservation record)).issue ⟨t, record⟩) :=
    ⟨h.sound.reserve hstate hf hr, fun u hu r hm => hown (h.owned u hu r hm),
      fun u => (h.pending u).mono hissued rfl fun _ _ _ => hown⟩
  refine hcommitted.setPending fun _ => ⟨⟨⟨t, record⟩, Table.mem_insert.mpr (.inr rfl), rfl,
    .refl record⟩, record, Table.mem_insert.mpr (.inr rfl), ?_, .refl record⟩
  simp [OperationRecord.incomplete, hstate, OperationState.incomplete]

end Ownership

section Runs
variable [Digest] [UnicodeTables]

/-- A row with a live owner that a recovery update finds still carries the listed owner
token, and an owner check reads the recorded start identity for a process that is alive. -/
def OwnersKept (d : Deployment) (w : World) : Label → Prop
  | .act t (.recoverCommit _) =>
    match w.pending t with
    | .recovering (record :: _) (.update _) => ∀ row ∈ w.db.operations,
        Database.recoverableRow record.operationKey row = true → w.alive d row.ownerToken →
        row.ownerToken = record.ownerToken
    | _ => True
  | .act t (.checkOwner os) =>
    match w.pending t with
    | .recovering (record :: _) .ownerCheck =>
      w.alive d record.ownerToken → ownerRecordIsActive os record = true
    | _ => True
  | _ => True

omit [UnicodeTables] in
/-- The rows that a recovery commit hits have lost their owner. -/
theorem Ownership.recovered_gone (h : Ownership d w) {record : OperationRecord}
    {rest : List OperationRecord} {evidence : Bool} {now : ℕ}
    (hc : OwnersKept d w (.act t (.recoverCommit now)))
    (hp : w.pending t = .recovering (record :: rest) (.update evidence)) {row : OperationRecord}
    (hr : row ∈ w.db.operations)
    (hit : Database.recoverableRow record.operationKey row = true) :
    ¬ w.alive d row.ownerToken := by
  intro halive
  have hpending := h.pending t
  rw [hp] at hpending
  have hgone := hpending.2 (by simp) record rfl
  simp only [OwnersKept, hp] at hc
  rw [← hc row hr hit halive] at hgone
  exact hgone.not_alive h.sound.tokens halive

theorem Stepped.ownership {action : Action} (h : Ownership d w)
    (hlive : w.crashed (d.process t) = false) (hc : OwnersKept d w (.act t action))
    (hs : Stepped d w t action w') : Ownership d w' := by
  have hsound : w'.Sound := hs.sound h.sound
  have hpending := h.pending t
  cases hs with
  | same => exact h
  | rests | fails | unmodified => exact h.setPending trivial
  | reserves _ fresh reserved committed =>
    subst reserved
    exact h.reserve rfl fresh committed
  | @receives record row reloading read =>
    rw [reloading] at hpending
    have hown := hpending hlive
    obtain ⟨hmem, hkey⟩ := Table.selectOne_mem read
    obtain ⟨mine, hmine, hinc, hsame⟩ := hown.row
    have hrow : row = mine := h.sound.tables.row_eq hmem hmine
      ((of_decide_eq_true hkey).trans hsame.operationKey.symm)
    subst hrow
    obtain ⟨i, hi, ht, hri⟩ := hown.drawn
    have hrecord : w.Owns t row := ⟨⟨i, hi, ht, hsame.trans hri⟩, row, hmem, hinc, .refl row⟩
    exact (h.hold hrecord (h.sound.rows row hmem)).setPending trivial
  | @marks reservation _ _ _ committed =>
    obtain ⟨-, ho, -⟩ := Database.ownedTransition_eq_ok committed
    refine h.commit hsound fun row hrow hinc _ => ?_
    rw [ho]
    by_cases hit : Database.ownedRow reservation.record .reserved row = true
    · exact ⟨_, Table.mem_update_image hrow hit, rfl, Database.Transition.write_sameReservation ..⟩
    · exact ⟨row, Table.mem_update_of_not hrow (by simpa using hit), hinc, .refl row⟩
  | completes idle held committed =>
    obtain ⟨-, ho, -⟩ := Database.ownedTransition_eq_ok committed
    refine h.complete hsound (h.owned t hlive _ held) (by simp [idle]) fun row hrow hne => ?_
    rw [ho]
    refine Table.mem_update_of_not hrow ?_
    simp [Database.ownedRow, hne]
  | releases releasing held committed =>
    obtain ⟨-, ho, -⟩ := Database.ownedTransition_eq_ok committed
    refine (h.complete ⟨hsound.1, hsound.2, hsound.3, hsound.4⟩ (h.owned t hlive _ held)
      (by simp [releasing]) fun row hrow hne => ?_).setPending trivial
    rw [World.commit_db, ho]
    refine Table.mem_update_of_not hrow ?_
    simp [Database.ownedRow, hne]
  | lists =>
    refine h.setPending ⟨fun r hr => h.sound.rows r ?_, fun hne => absurd rfl hne⟩
    exact (Table.mem_selectAll.mp ((List.mem_insertionSort _).mp hr)).1
  | skips recovering =>
    rw [recovering] at hpending
    exact h.setPending ⟨fun r hr => hpending.1 r (List.mem_cons_of_mem _ hr),
      fun hne => absurd rfl hne⟩
  | @suspects record rest os recovering inactive =>
    rw [recovering] at hpending
    refine h.setPending ⟨hpending.1, fun _ r hr => ?_⟩
    obtain rfl : record = r := by simpa using hr
    obtain ⟨i, hi, hri⟩ := hpending.1 record (by simp)
    refine ⟨i, hi, hri.ownerToken.symm, ?_⟩
    -- a live owner would have been found active
    by_contra hn
    simp only [OwnersKept, recovering] at hc
    have hactive := hc ⟨i, hi, hri.ownerToken.symm, by simpa using hn⟩
    rw [inactive] at hactive
    cases hactive
  | decides next recovering checked =>
    rw [recovering] at hpending
    exact h.setPending ⟨hpending.1, fun _ => hpending.2 checked⟩
  | @recovers record rest evidence now db recovering committed =>
    obtain ⟨-, ho, -⟩ := Database.recoverTerminal_eq_ok committed
    have hcommit : Ownership d (w.commit db) := by
      refine h.commit ⟨hsound.1, hsound.2, hsound.3, hsound.4⟩ fun row hrow hinc halive => ?_
      refine ⟨row, ?_, hinc, .refl row⟩
      rw [ho]
      refine Table.mem_update_of_not hrow ?_
      by_contra hit
      exact h.recovered_gone hc recovering hrow (by simpa using hit) halive
    rw [recovering] at hpending
    exact hcommit.setPending ⟨fun r hr => hpending.1 r (List.mem_cons_of_mem _ hr),
      fun hne => absurd rfl hne⟩

theorem step_ownership {l : Label} (h : Ownership d w) (hc : OwnersKept d w l)
    (hs : step d w l = some w') : Ownership d w' := by
  rcases step_cases hs with ⟨p, -, rfl⟩ | ⟨t, action, rfl, hlive, hs⟩
  · exact h.crash p
  · exact hs.ownership h hlive hc

omit [Digest] [UnicodeTables] in
theorem Ownership.exclusive (h : Ownership d w) : w.Exclusive d := by
  intro t u ht hu r hr s hs hk
  have hown := h.owned t ht r hr
  have hown' := h.owned u hu s hs
  obtain ⟨row, hrow, hinc, hsame⟩ := hown.row
  obtain ⟨row', hrow', hinc', hsame'⟩ := hown'.row
  have : row = row' := h.sound.tables.incomplete_unique hrow hrow' hinc hinc'
    (hsame.resourceKey.trans (hk.trans hsame'.resourceKey.symm))
  subst this
  rw [hown.thread_unique h.sound.tokens hown' (hsame.ownerToken.symm.trans hsame'.ownerToken)]

/-- Only its commit changes the tables in a recovery, and it hits no live owner. -/
theorem Stepped.sparesLive {action : Action} (h : Ownership d w)
    (hc : OwnersKept d w (.act t action)) (hs : Stepped d w t action w')
    (hr : action.recovers = true) : w.SparesLive d w' := by
  intro row hrow halive
  cases hs with
  | same | rests | lists | skips | suspects | decides => exact ⟨hrow, fun _ hl _ => hl⟩
  | reserves | receives | marks | completes | fails | unmodified | releases => cases hr
  | @recovers record rest evidence now db recovering committed =>
    obtain ⟨-, ho, hl⟩ := Database.recoverTerminal_eq_ok committed
    have hspared : Database.recoverableRow record.operationKey row = false := by
      by_contra hit
      exact h.recovered_gone hc recovering hrow (by simpa using hit) halive
    rw [World.setPending_db, World.commit_db, ho, hl]
    refine ⟨Table.mem_update_of_not hrow hspared, fun lease hlease hk => ?_⟩
    refine Table.mem_delete.mpr ⟨hlease, decide_eq_false fun hk' => ?_⟩
    -- the lease belongs to an incomplete row with the same key, which is `row`
    obtain ⟨owner, howner, hinc, rfl⟩ := h.sound.tables.row_of_lease hlease
    have : owner = row := h.sound.tables.row_eq howner hrow hk
    subst this
    rw [Bool.eq_false_iff, Ne, Database.recoverableRow_iff] at hspared
    exact hspared ⟨hk', hinc⟩

/-- No recovery step of the run hits a live owner, and at its end the live holders are
exclusive. -/
def Protected (d : Deployment) (ls : List Label) : Prop :=
  (∀ w t action w', Takes (step d) World.initial ls w (.act t action) w' →
    action.recovers = true → w.SparesLive d w') ∧
  ∀ w, run (step d) World.initial ls = some w → w.Exclusive d

/-- Runs in which recovery finds the owner that it checked protect live owners. -/
theorem protected_of_ownersKept (d : Deployment) (ls : List Label)
    (h : Meets (step d) (OwnersKept d) World.initial ls) : Protected d ls := by
  constructor
  · intro w t action w' htakes hr
    obtain ⟨hown, hc⟩ := h.takes (fun _ _ _ => step_ownership) .initial htakes
    obtain ⟨_, _, -, -, hstep⟩ := htakes
    rcases step_cases hstep with ⟨p, hl, -⟩ | ⟨t', action', hl, -, hs⟩
    · cases hl
    · cases hl
      exact hs.sparesLive hown hc hr
  · intro w hrun
    exact (h.invariant (fun _ _ _ => step_ownership) .initial hrun).exclusive

end Runs

instance World.decidableAlive (d : Deployment) (w : World) (ownerToken : String) :
    Decidable (w.alive d ownerToken) :=
  inferInstanceAs (Decidable (∃ i ∈ w.issued, _))

instance OwnersKept.decidable [Digest] (d : Deployment) (w : World) :
    ∀ l, Decidable (OwnersKept d w l)
  | .crash _ => isTrue trivial
  | .act t action => by
    cases action <;> unfold OwnersKept <;> dsimp only <;>
      first | infer_instance | (split <;> infer_instance)

open Sample PyText.Ascii in
theorem retried_protected : Meets (step deployment) (OwnersKept deployment) World.initial retried ∧
    Protected deployment retried := by
  have h : Meets (step deployment) (OwnersKept deployment) World.initial retried := by
    decide +kernel
  exact ⟨h, protected_of_ownersKept deployment retried h⟩

/-! ## A stale recovery update -/

namespace Sample

/-- Process 0 crashes holding the repository; processes 1 and 2 both list and check its
operation; process 1 releases it and process 3 reserves it again. -/
def released : List Label :=
  [.act 0 (.reserve artifactApply "9e0c" (os [0, 1, 2, 3, 4]) 100), .act 0 .reload, .crash 0,
    .act 1 .listIncomplete, .act 2 .listIncomplete,
    .act 1 (.checkOwner (os [1, 2, 3, 4])), .act 2 (.checkOwner (os [1, 2, 3, 4])),
    .act 1 (.checkEvidence false), .act 2 (.checkEvidence false),
    .act 1 (.inspectRepository (some ⟨"b7", true⟩)),
    .act 2 (.inspectRepository (some ⟨"b7", true⟩)), .act 1 (.recoverCommit 101),
    .act 3 (.reserve artifactApply "41d7" (os [1, 2, 3, 4]) 102), .act 3 .reload]

/-- Then the update of process 2 ends the reservation of process 3. -/
def stale : Label := .act 2 (.recoverCommit 103)

/-- Process 4 reserves the repository that process 3 still holds. -/
def taken : List Label :=
  [.act 4 (.reserve artifactApply "c3f0" (os [1, 2, 3, 4]) 104), .act 4 .reload]

/-- Two live threads hold a reservation for the same repository. -/
def sharedBy (w : World) (t u : ℕ) : Bool :=
  !w.crashed (deployment.process t) && !w.crashed (deployment.process u) &&
    (w.held t).any fun r => (w.held u).any fun s => r.record.resourceKey = s.record.resourceKey

end Sample

open Sample PyText.Ascii in
/-- A recoverer whose listing is stale fails the operation of a live process, and another
process then reserves the same repository. -/
theorem stale_recovery_unprotected :
    (∃ w w', run (step deployment) World.initial released = some w ∧
      step deployment w stale = some w' ∧ ¬ w.SparesLive deployment w') ∧
    (∃ w, run (step deployment) World.initial (released ++ stale :: taken) = some w ∧
      ¬ w.Exclusive deployment) ∧
    ¬ Protected deployment (released ++ stale :: taken) := by
  have hstale : ((run (step deployment) World.initial released).any fun w =>
      (step deployment w stale).any fun w' => w.db.operations.any fun row =>
        w.alive deployment row.ownerToken && !w'.db.operations.contains row) = true := by
    decide +kernel
  have htaken : ((run (step deployment) World.initial (released ++ stale :: taken)).any
      fun w => sharedBy w 3 4) = true := by
    decide +kernel
  obtain ⟨w, hw, h⟩ := (Option.any_eq_true _ _).mp hstale
  obtain ⟨w', hw', h⟩ := (Option.any_eq_true _ _).mp h
  obtain ⟨row, hrow, h⟩ := List.any_eq_true.mp h
  simp only [Bool.and_eq_true, decide_eq_true_eq, Bool.not_eq_true', List.contains_eq_mem,
    decide_eq_false_iff_not] at h
  have hlive : ¬ w.SparesLive deployment w' := fun hs => h.2 (hs row hrow h.1).1
  obtain ⟨v, hv, hshared⟩ := (Option.any_eq_true _ _).mp htaken
  simp only [sharedBy, Bool.and_eq_true, Bool.not_eq_true', List.any_eq_true,
    decide_eq_true_eq] at hshared
  obtain ⟨⟨h3, h4⟩, r, hr, s, hs, hk⟩ := hshared
  have hexclusive : ¬ v.Exclusive deployment := fun he => by
    have := he 3 4 h3 h4 r hr s hs hk
    simp [deployment] at this
  exact ⟨⟨w, w', hw, hw', hlive⟩, ⟨v, hv, hexclusive⟩, fun hp => hexclusive (hp.2 v hv)⟩

end Rygnal.Operations
