import Mathlib.Data.Int.Notation
import Mathlib.Logic.Function.Basic
import Rygnal.Library.Transition

/-! # The concurrency guard of guarded runs

`_guarded_run_concurrency_guard` of one trusted repository and run root. The lock file is created
before its owner is written, and it is removed by its path. Each label is one system call of one
process, and a process may exit between any two of them.
-/

namespace Rygnal.GuardedRun
open Rygnal.Library.Transition

/-- The pid of each process. -/
structure Processes where
  pid : ℕ → ℤ
  pos : ∀ p, 0 < pid p

/-- Where a process stands in the guard. A lock whose file was gone when it was read has no
file. -/
inductive GuardPhase where
  | outside
  | opening
  /-- `os.open` found the path taken. -/
  | exists_
  | read (file : Option ℕ) (activePid : Option ℤ)
  | stale (file : Option ℕ)
  | opened (file : ℕ)
  | inside (file : ℕ)
  | leaving (file : ℕ)
deriving DecidableEq, Repr

/-- `path` is the file that the lock path names, and `owner` the pid in a file, once its metadata
is written. -/
structure GuardWorld where
  path : Option ℕ
  owner : ℕ → Option ℤ
  creator : ℕ → ℕ
  nextFile : ℕ
  running : List ℕ
  exited : List ℕ
  phase : ℕ → GuardPhase

def GuardWorld.initial : GuardWorld :=
  ⟨none, fun _ => none, fun _ => 0, 0, [], [], fun _ => .outside⟩

inductive GuardAction where
  | enter
  | openExclusive
  /-- Another error: of `os.open`, of the write, or of the removal of a stale lock. -/
  | fail
  | readMetadata
  | probe
  | removeStale
  | write
  /-- The guarded run returns or raises. -/
  | finish
  | unlink
deriving DecidableEq, Repr

inductive GuardLabel where
  | start (process : ℕ)
  | exit (process : ℕ)
  | call (process : ℕ) (action : GuardAction)
deriving DecidableEq, Repr

namespace GuardWorld

/-- `_process_is_alive`. -/
def alive (d : Processes) (w : GuardWorld) : Option ℤ → Bool
  | none => false
  | some pid => 0 < pid && w.running.any fun p => d.pid p = pid

def setPhase (w : GuardWorld) (p : ℕ) (phase : GuardPhase) : GuardWorld :=
  { w with phase := Function.update w.phase p phase }

/-- `os.open` with `O_CREAT | O_EXCL` where the path is free. -/
def create (w : GuardWorld) (p : ℕ) : GuardWorld :=
  { w with
    path := some w.nextFile
    owner := Function.update w.owner w.nextFile none
    creator := Function.update w.creator w.nextFile p
    nextFile := w.nextFile + 1
    phase := Function.update w.phase p (.opened w.nextFile) }

def writeOwner (w : GuardWorld) (file : ℕ) (pid : ℤ) : GuardWorld :=
  { w with owner := Function.update w.owner file (some pid) }

/-- `lock_path.unlink()`, whatever file the path names. -/
def unlink (w : GuardWorld) : GuardWorld := { w with path := none }

end GuardWorld

/-- One step of a process in the guard. -/
def guardCall (d : Processes) (w : GuardWorld) (p : ℕ) :
    GuardAction → GuardPhase → Option GuardWorld
  | .enter, .outside => some (w.setPhase p .opening)
  | .openExclusive, .opening =>
    match w.path with
    | none => some (w.create p)
    | some _ => some (w.setPhase p .exists_)
  | .fail, .opening => some (w.setPhase p .outside)
  | .readMetadata, .exists_ => some (w.setPhase p (.read w.path (w.path.bind w.owner)))
  | .probe, .read file activePid =>
    some (w.setPhase p (if w.alive d activePid then .outside else .stale file))
  | .removeStale, .stale _ => some (w.unlink.setPhase p .opening)
  | .fail, .stale _ => some (w.setPhase p .outside)
  | .write, .opened file => some ((w.writeOwner file (d.pid p)).setPhase p (.inside file))
  | .fail, .opened _ => some (w.setPhase p .outside)
  | .finish, .inside file => some (w.setPhase p (.leaving file))
  | .unlink, .leaving _ => some (w.unlink.setPhase p .outside)
  | _, _ => none

def guardStep (d : Processes) : Step GuardWorld GuardLabel
  | w, .start p =>
    if p ∈ w.running ∨ p ∈ w.exited then none else some { w with running := p :: w.running }
  | w, .exit p =>
    if p ∈ w.running then
      some { w with running := w.running.filter (· ≠ p), exited := p :: w.exited }
    else none
  | w, .call p action => if p ∈ w.running then guardCall d w p action (w.phase p) else none

/-! ## What has to hold -/

def GuardPhase.isInside : GuardPhase → Bool
  | .inside _ => true
  | _ => false

/-- At most one live process is inside the guarded region. -/
def OneInside (w : GuardWorld) : Prop :=
  ∀ p q, p ∈ w.running → q ∈ w.running → (w.phase p).isInside = true →
    (w.phase q).isInside = true → p = q

/-- The step unlinks the lock path. -/
def GuardLabel.unlinks : GuardLabel → Option ℕ
  | .call p .removeStale | .call p .unlink => some p
  | _ => none

/-- A step does not unlink the lock file of another process that is alive. -/
def SparesLive (w : GuardWorld) (l : GuardLabel) : Prop :=
  ∀ p f, l.unlinks = some p → w.path = some f → w.creator f ≠ p → w.creator f ∉ w.running

/-- Whoever reads a lock without an owner created it or finds its creator gone, and a stale lock is
removed while the path still names the file that was read, or no file. -/
def FindsOwner (w : GuardWorld) : GuardLabel → Prop
  | .call p .readMetadata =>
    w.phase p = .exists_ → ∀ f ∈ w.path, w.owner f = none → w.creator f ∉ w.running ∨ w.creator f = p
  | .call p .removeStale =>
    match w.phase p with
    | .stale file => w.path = none ∨ w.path = file
    | _ => True
  | _ => True

/-! ## The invariant -/

/-- The lock file that a process has created and not yet removed. -/
def GuardPhase.file? : GuardPhase → Option ℕ
  | .opened file | .inside file | .leaving file => some file
  | _ => none

/-- What a process has read of a lock file is still right. -/
def Justified (d : Processes) (w : GuardWorld) (p : ℕ) : GuardPhase → Prop
  | .read (some f) (some pid) => f < w.nextFile ∧ pid = d.pid (w.creator f)
  | .read (some f) none | .stale (some f) =>
    f < w.nextFile ∧ (w.creator f ∉ w.running ∨ w.creator f = p)
  | _ => True

/-- What was read stays right where the files keep their creators and no creator comes back. -/
theorem Justified.mono {d : Processes} {w w' : GuardWorld} {p : ℕ} {phase : GuardPhase}
    (h : Justified d w p phase) (hnext : w.nextFile ≤ w'.nextFile)
    (hcreator : ∀ f, f < w.nextFile → w'.creator f = w.creator f)
    (hgone : ∀ f, f < w.nextFile → w.creator f ∉ w.running → w.creator f ∉ w'.running) :
    Justified d w' p phase := by
  have hfound {f : ℕ} (hf : f < w.nextFile ∧ (w.creator f ∉ w.running ∨ w.creator f = p)) :
      f < w'.nextFile ∧ (w'.creator f ∉ w'.running ∨ w'.creator f = p) := by
    rw [hcreator f hf.1]
    exact ⟨Nat.lt_of_lt_of_le hf.1 hnext, hf.2.imp (hgone f hf.1) id⟩
  cases phase with
  | read file activePid =>
    cases file with
    | none => trivial
    | some f =>
      cases activePid with
      | none => exact hfound h
      | some pid =>
        have ⟨hf, hpid⟩ := h
        exact ⟨Nat.lt_of_lt_of_le hf hnext, by rw [hpid, hcreator f hf]⟩
  | stale file =>
    cases file with
    | none => trivial
    | some f => exact hfound h
  | outside => trivial
  | opening => trivial
  | exists_ => trivial
  | opened file => trivial
  | inside file => trivial
  | leaving file => trivial

/-- Each live holder created the file that the path names. -/
structure GuardInvariant (d : Processes) (w : GuardWorld) : Prop where
  path_lt : ∀ f, w.path = some f → f < w.nextFile
  file_lt : ∀ p f, (w.phase p).file? = some f → f < w.nextFile
  named : ∀ p f, p ∈ w.running → (w.phase p).file? = some f → w.path = some f
  created : ∀ p f, (w.phase p).file? = some f → w.creator f = p
  written : ∀ f pid, f < w.nextFile → w.owner f = some pid → pid = d.pid (w.creator f)
  justified : ∀ p, Justified d w p (w.phase p)
  born : ∀ f, f < w.nextFile → w.creator f ∈ w.running ∨ w.creator f ∈ w.exited
  unborn : ∀ p, p ∉ w.running → p ∉ w.exited → w.phase p = .outside

namespace GuardInvariant
variable {d : Processes} {w : GuardWorld} {p : ℕ}

theorem initial (d : Processes) : GuardInvariant d .initial := by
  constructor <;> simp [GuardWorld.initial, GuardPhase.file?, Justified]

/-- The holders are the creators of one file. -/
theorem oneInside (h : GuardInvariant d w) : OneInside w := by
  have hinside : ∀ q, (w.phase q).isInside = true → ∃ f, (w.phase q).file? = some f := by
    intro q hq
    cases hphase : w.phase q <;> simp_all [GuardPhase.isInside, GuardPhase.file?]
  intro q r hq hr hqi hri
  have ⟨f, hf⟩ := hinside q hqi
  have ⟨g, hg⟩ := hinside r hri
  have hfg := (h.named q f hq hf).symm.trans (h.named r g hr hg)
  rw [Option.some.injEq] at hfg
  rw [← h.created q f hf, hfg, h.created r g hg]

/-! ## Each step keeps the invariant -/

/-- A process that was not running before has created no file. -/
theorem start (h : GuardInvariant d w) (hr : p ∉ w.running) (he : p ∉ w.exited) :
    GuardInvariant d { w with running := p :: w.running } := by
  have hcreator : ∀ f, f < w.nextFile → w.creator f ≠ p := by
    intro f hf hp
    rcases h.born f hf with hborn | hborn
    · exact hr (hp ▸ hborn)
    · exact he (hp ▸ hborn)
  constructor
  · exact h.path_lt
  · exact h.file_lt
  · intro q f hq hf
    rcases List.mem_cons.mp hq with rfl | hq
    · rw [h.unborn q hr he] at hf
      nomatch hf
    · exact h.named q f hq hf
  · exact h.created
  · exact h.written
  · intro q
    refine (h.justified q).mono (Nat.le_refl _) (fun _ _ => rfl) ?_
    intro f hf hgone hmem
    rcases List.mem_cons.mp hmem with hp | hmem
    · exact hcreator f hf hp
    · exact hgone hmem
  · intro f hf
    exact (h.born f hf).imp (List.mem_cons_of_mem p) id
  · intro q hq hq'
    exact h.unborn q (fun hmem => hq (List.mem_cons_of_mem p hmem)) hq'

theorem exit (h : GuardInvariant d w) (p : ℕ) : GuardInvariant d
    { w with running := w.running.filter (· ≠ p), exited := p :: w.exited } := by
  have hrunning : ∀ q, q ∈ w.running.filter (· ≠ p) → q ∈ w.running := by
    intro q hq
    exact (List.mem_filter.mp hq).1
  constructor
  · exact h.path_lt
  · exact h.file_lt
  · intro q f hq
    exact h.named q f (hrunning q hq)
  · exact h.created
  · exact h.written
  · intro q
    refine (h.justified q).mono (Nat.le_refl _) (fun _ _ => rfl) ?_
    intro f _ hgone hmem
    exact hgone (hrunning _ hmem)
  · intro f hf
    rcases h.born f hf with hborn | hborn
    · by_cases hp : w.creator f = p
      · exact .inr (hp ▸ List.mem_cons_self)
      · exact .inl (List.mem_filter.mpr ⟨hborn, decide_eq_true hp⟩)
    · exact .inr (List.mem_cons_of_mem p hborn)
  · intro q hq he
    rw [List.mem_cons, not_or] at he
    apply h.unborn q _ he.2
    intro hmem
    exact hq (List.mem_filter.mpr ⟨hmem, decide_eq_true he.1⟩)

/-- A process may go on with the file that it has, or drop it, and remember what is right. -/
theorem setPhase (h : GuardInvariant d w) (hp : p ∈ w.running) (phase : GuardPhase)
    (hfile : ∀ f, phase.file? = some f → (w.phase p).file? = some f)
    (hright : Justified d w p phase) : GuardInvariant d (w.setPhase p phase) := by
  have hkeep : ∀ q f, ((w.setPhase p phase).phase q).file? = some f →
      (w.phase q).file? = some f := by
    intro q f hf
    change (Function.update w.phase p phase q).file? = some f at hf
    by_cases hq : q = p
    · subst hq
      rw [Function.update_self] at hf
      exact hfile f hf
    · rwa [Function.update_of_ne hq] at hf
  constructor
  · exact h.path_lt
  · intro q f hf
    exact h.file_lt q f (hkeep q f hf)
  · intro q f hq hf
    exact h.named q f hq (hkeep q f hf)
  · intro q f hf
    exact h.created q f (hkeep q f hf)
  · exact h.written
  · intro q
    change Justified d w q (Function.update w.phase p phase q)
    by_cases hq : q = p
    · subst hq
      rw [Function.update_self]
      exact hright
    · rw [Function.update_of_ne hq]
      exact h.justified q
  · exact h.born
  · intro q hq he
    have hne : q ≠ p := by
      rintro rfl
      exact hq hp
    change Function.update w.phase p phase q = .outside
    rw [Function.update_of_ne hne]
    exact h.unborn q hq he

/-- A new file belongs to its creator, and where the path is free no process is a live holder. -/
theorem create (h : GuardInvariant d w) (hp : p ∈ w.running) (hpath : w.path = none) :
    GuardInvariant d (w.create p) := by
  have hphase : ∀ q f, (Function.update w.phase p (.opened w.nextFile) q).file? = some f →
      q = p ∧ f = w.nextFile ∨ q ≠ p ∧ (w.phase q).file? = some f := by
    intro q f hf
    by_cases hq : q = p
    · subst hq
      rw [Function.update_self] at hf
      exact .inl ⟨rfl, (Option.some.inj hf).symm⟩
    · rw [Function.update_of_ne hq] at hf
      exact .inr ⟨hq, hf⟩
  have hcreator : ∀ f, f < w.nextFile →
      Function.update w.creator w.nextFile p f = w.creator f :=
    fun f hf => Function.update_of_ne (Nat.ne_of_lt hf) _ _
  constructor
  · intro f hf
    rw [← Option.some.inj hf]
    exact Nat.lt_succ_self _
  · intro q f hf
    rcases hphase q f hf with ⟨-, rfl⟩ | ⟨-, hf⟩
    · exact Nat.lt_succ_self _
    · exact Nat.lt_succ_of_lt (h.file_lt q f hf)
  · intro q f hq hf
    rcases hphase q f hf with ⟨-, rfl⟩ | ⟨-, hf⟩
    · rfl
    · have hnamed := h.named q f hq hf
      rw [hpath] at hnamed
      nomatch hnamed
  · intro q f hf
    rcases hphase q f hf with ⟨rfl, rfl⟩ | ⟨-, hf⟩
    · exact Function.update_self ..
    · exact (hcreator f (h.file_lt q f hf)).trans (h.created q f hf)
  · intro f pid hf howner
    change Function.update w.owner w.nextFile none f = some pid at howner
    change pid = d.pid (Function.update w.creator w.nextFile p f)
    rcases Nat.lt_succ_iff_lt_or_eq.mp hf with hlt | rfl
    · rw [Function.update_of_ne (Nat.ne_of_lt hlt)] at howner ⊢
      exact h.written f pid hlt howner
    · rw [Function.update_self] at howner
      nomatch howner
  · intro q
    have hright : Justified d (w.create p) q (w.phase q) :=
      (h.justified q).mono (Nat.le_succ _) hcreator fun _ _ hgone => hgone
    change Justified d (w.create p) q (Function.update w.phase p (.opened w.nextFile) q)
    by_cases hq : q = p
    · subst hq
      rw [Function.update_self]
      trivial
    · rwa [Function.update_of_ne hq]
  · intro f hf
    change Function.update w.creator w.nextFile p f ∈ w.running ∨ _
    rcases Nat.lt_succ_iff_lt_or_eq.mp hf with hlt | rfl
    · have hborn := h.born f hlt
      rwa [← hcreator f hlt] at hborn
    · rw [Function.update_self]
      exact .inl hp
  · intro q hq he
    have hne : q ≠ p := by
      rintro rfl
      exact hq hp
    change Function.update w.phase p (.opened w.nextFile) q = .outside
    rw [Function.update_of_ne hne]
    exact h.unborn q hq he

/-- The creator writes its own pid into its file. -/
theorem writeOwner (h : GuardInvariant d w) {f : ℕ} (hf : (w.phase p).file? = some f) :
    GuardInvariant d (w.writeOwner f (d.pid p)) := by
  constructor
  · exact h.path_lt
  · exact h.file_lt
  · exact h.named
  · exact h.created
  · intro g pid hg howner
    change Function.update w.owner f (some (d.pid p)) g = some pid at howner
    by_cases hgf : g = f
    · rw [hgf, Function.update_self] at howner
      rw [hgf]
      change pid = d.pid (w.creator f)
      rw [h.created p f hf]
      exact (Option.some.inj howner).symm
    · rw [Function.update_of_ne hgf] at howner
      exact h.written g pid hg howner
  · intro q
    exact (h.justified q).mono (Nat.le_refl _) (fun _ _ => rfl) fun _ _ hgone => hgone
  · exact h.born
  · exact h.unborn

/-- The path may be unlinked where no other live process holds the file that it names. -/
theorem unlink (h : GuardInvariant d w) (phase : GuardPhase) (hp : p ∈ w.running)
    (hphase : phase.file? = none) (hright : ∀ w', Justified d w' p phase)
    (hother : ∀ q f, q ∈ w.running → q ≠ p → (w.phase q).file? = some f → w.path ≠ some f) :
    GuardInvariant d (w.unlink.setPhase p phase) := by
  have hkept : GuardInvariant d (w.setPhase p phase) := by
    apply h.setPhase hp phase _ (hright w)
    intro f hf
    rw [hphase] at hf
    nomatch hf
  constructor
  · intro f hf
    nomatch hf
  · exact hkept.file_lt
  · intro q f hq hf
    change (Function.update w.phase p phase q).file? = some f at hf
    have hne : q ≠ p := by
      rintro rfl
      rw [Function.update_self, hphase] at hf
      nomatch hf
    rw [Function.update_of_ne hne] at hf
    exact absurd (h.named q f hq hf) (hother q f hq hne hf)
  · exact hkept.created
  · exact hkept.written
  · exact hkept.justified
  · exact hkept.born
  · exact hkept.unborn

/-- A live process is found alive by its pid. -/
theorem alive_of_running (hp : p ∈ w.running) : w.alive d (some (d.pid p)) = true := by
  rw [GuardWorld.alive, Bool.and_eq_true, List.any_eq_true]
  exact ⟨decide_eq_true (d.pos p), p, hp, decide_eq_true rfl⟩

/-- What the probe finds dead is dead, or the process's own file. -/
theorem justified_stale (h : GuardInvariant d w) {file : Option ℕ} {activePid : Option ℤ}
    (hphase : w.phase p = .read file activePid) (hdead : w.alive d activePid = false) :
    Justified d w p (.stale file) := by
  have hright := h.justified p
  rw [hphase] at hright
  cases file with
  | none => trivial
  | some f =>
    cases activePid with
    | none => exact hright
    | some pid =>
      have ⟨hf, hpid⟩ := hright
      refine ⟨hf, .inl ?_⟩
      intro hlive
      rw [hpid, alive_of_running hlive] at hdead
      nomatch hdead

/-- A stale lock that is removed belongs to no other live process. -/
theorem stale_spares (h : GuardInvariant d w) {file : Option ℕ} (hphase : w.phase p = .stale file)
    (hpath : w.path = none ∨ w.path = file) {f : ℕ} (hf : w.path = some f) :
    w.creator f ∉ w.running ∨ w.creator f = p := by
  have hright := h.justified p
  rw [hphase] at hright
  rcases hpath with hnone | hsame
  · rw [hnone] at hf
    nomatch hf
  · rw [← hsame, hf] at hright
    exact hright.2

theorem guardCall (h : GuardInvariant d w) (hp : p ∈ w.running) {action : GuardAction}
    {w' : GuardWorld} (hfinds : FindsOwner w (.call p action))
    (hstep : guardCall d w p action (w.phase p) = some w') : GuardInvariant d w' := by
  unfold GuardedRun.guardCall at hstep
  split at hstep
  · exact Option.some.inj hstep ▸ h.setPhase hp .opening nofun trivial
  · split at hstep
    · rename_i hpath
      exact Option.some.inj hstep ▸ h.create hp hpath
    · exact Option.some.inj hstep ▸ h.setPhase hp .exists_ nofun trivial
  · exact Option.some.inj hstep ▸ h.setPhase hp .outside nofun trivial
  · rename_i hphase
    have hread : Justified d w p (.read w.path (w.path.bind w.owner)) := by
      cases hpath : w.path with
      | none => trivial
      | some f =>
        rw [Option.bind_some]
        have hlt := h.path_lt f hpath
        cases howner : w.owner f with
        | none => exact ⟨hlt, hfinds hphase f hpath howner⟩
        | some pid => exact ⟨hlt, h.written f pid hlt howner⟩
    exact Option.some.inj hstep ▸ h.setPhase hp _ nofun hread
  · rename_i file activePid hphase
    obtain rfl := Option.some.inj hstep
    split
    · exact h.setPhase hp .outside nofun trivial
    · rename_i hdead
      exact h.setPhase hp (.stale file) nofun
        (h.justified_stale hphase (eq_false_of_ne_true hdead))
  · rename_i file hphase
    rw [FindsOwner, hphase] at hfinds
    refine Option.some.inj hstep ▸ h.unlink .opening hp rfl (fun _ => trivial) ?_
    intro q f hq hqp hqf hpath
    rcases h.stale_spares hphase hfinds hpath with hgone | hown
    · exact hgone (h.created q f hqf ▸ hq)
    · exact hqp ((h.created q f hqf).symm.trans hown)
  · exact Option.some.inj hstep ▸ h.setPhase hp .outside nofun trivial
  · rename_i file hphase
    have hfile : (w.phase p).file? = some file := congrArg GuardPhase.file? hphase
    refine Option.some.inj hstep ▸ (h.writeOwner hfile).setPhase hp (.inside file) ?_ trivial
    intro f hf
    exact hfile.trans hf
  · exact Option.some.inj hstep ▸ h.setPhase hp .outside nofun trivial
  · rename_i file hphase
    refine Option.some.inj hstep ▸ h.setPhase hp (.leaving file) ?_ trivial
    intro f hf
    exact (congrArg GuardPhase.file? hphase).trans hf
  · rename_i file hphase
    have hfile : (w.phase p).file? = some file := congrArg GuardPhase.file? hphase
    refine Option.some.inj hstep ▸ h.unlink .outside hp rfl (fun _ => trivial) ?_
    intro q f hq hqp hqf hpath
    rw [h.named p file hp hfile, Option.some.injEq] at hpath
    subst hpath
    exact hqp ((h.created q file hqf).symm.trans (h.created p file hfile))
  · nomatch hstep

/-- A step that finds the owner of the lock keeps the invariant. -/
theorem guardStep (h : GuardInvariant d w) {l : GuardLabel} {w' : GuardWorld}
    (hfinds : FindsOwner w l) (hstep : guardStep d w l = some w') : GuardInvariant d w' := by
  cases l with
  | start p =>
    rw [GuardedRun.guardStep] at hstep
    split at hstep
    · nomatch hstep
    · rename_i hnew
      rw [not_or] at hnew
      exact Option.some.inj hstep ▸ h.start hnew.1 hnew.2
  | exit p =>
    rw [GuardedRun.guardStep] at hstep
    split at hstep
    · exact Option.some.inj hstep ▸ h.exit p
    · nomatch hstep
  | call p action =>
    rw [GuardedRun.guardStep] at hstep
    split at hstep
    · rename_i hp
      exact h.guardCall hp hfinds hstep
    · nomatch hstep

/-- A step that finds the owner of the lock unlinks no file of another live process. -/
theorem sparesLive (h : GuardInvariant d w) {l : GuardLabel} {w' : GuardWorld}
    (hfinds : FindsOwner w l) (hstep : GuardedRun.guardStep d w l = some w') : SparesLive w l := by
  intro p f hunlinks hpath hne
  cases l with
  | start q => nomatch hunlinks
  | exit q => nomatch hunlinks
  | call q action =>
    rw [GuardedRun.guardStep] at hstep
    split at hstep
    · rename_i hq
      cases action with
      | removeStale =>
        obtain rfl := Option.some.inj hunlinks
        cases hphase : w.phase q with
        | stale file =>
          rw [FindsOwner, hphase] at hfinds
          exact (h.stale_spares hphase hfinds hpath).resolve_right hne
        | _ =>
          rw [hphase] at hstep
          nomatch hstep
      | unlink =>
        obtain rfl := Option.some.inj hunlinks
        cases hphase : w.phase q with
        | leaving file =>
          have hfile : (w.phase q).file? = some file := congrArg GuardPhase.file? hphase
          have hnamed := h.named q file hq hfile
          rw [hpath, Option.some.injEq] at hnamed
          exact absurd (hnamed ▸ h.created q file hfile) hne
        | _ =>
          rw [hphase] at hstep
          nomatch hstep
      | _ => nomatch hunlinks
    · nomatch hstep

end GuardInvariant

/-- In a run in which every reader finds the owner of the lock, at most one live process is inside
the guard at any time, and no step unlinks the lock file of another live process. -/
theorem guard_exclusive (d : Processes) (labels : List GuardLabel) (w : GuardWorld)
    (hmeets : Meets (guardStep d) FindsOwner .initial labels)
    (hrun : run (guardStep d) .initial labels = some w) :
    OneInside w ∧ ∀ s l t, Takes (guardStep d) .initial labels s l t → SparesLive s l := by
  have hstep : ∀ s l t, GuardInvariant d s → FindsOwner s l → guardStep d s l = some t →
      GuardInvariant d t := fun _ _ _ h hf hs => h.guardStep hf hs
  constructor
  · exact (hmeets.invariant hstep (.initial d) hrun).oneInside
  · intro s l t htakes
    have ⟨hinv, hfinds⟩ := hmeets.takes hstep (.initial d) htakes
    have ⟨_, _, _, _, hs⟩ := htakes
    exact hinv.sparesLive hfinds hs

/-! ## A lock whose owner is not written yet -/

namespace Sample

/-- Process `n` has the pid `4101 + n`. -/
def processes : Processes := ⟨fun p => 4101 + p, fun p => by omega⟩

/-- The process takes the lock. -/
def enters (p : ℕ) : List GuardLabel :=
  [.call p .enter, .call p .openExclusive, .call p .write]

/-- The process finds the lock stale and removes it. -/
def recovers (p : ℕ) : List GuardLabel :=
  [.call p .openExclusive, .call p .readMetadata, .call p .probe, .call p .removeStale]

/-- Process 0 exits inside the guard; process 1 removes its lock and enters. -/
def recovered : List GuardLabel :=
  [.start 0, .start 1] ++ enters 0 ++ [.exit 0, .call 1 .enter] ++ recovers 1 ++
    [.call 1 .openExclusive, .call 1 .write]

/-- Process 1 reads the lock of process 0 before its owner is written. -/
def readTooEarly : List GuardLabel :=
  [.start 0, .start 1, .call 0 .enter, .call 0 .openExclusive, .call 1 .enter] ++ recovers 1 ++
    [.call 1 .openExclusive, .call 1 .write, .call 0 .write]

end Sample

instance (w : GuardWorld) (l : GuardLabel) : Decidable (FindsOwner w l) := by
  unfold FindsOwner
  split <;> try split
  all_goals infer_instance

open Sample in
theorem recovered_one : ∃ w, run (guardStep processes) .initial recovered = some w ∧
    (w.phase 1).isInside = true ∧ OneInside w := by
  have hrun : ((run (guardStep processes) .initial recovered).any
      fun w => (w.phase 1).isInside) = true := by decide
  have ⟨w, hw, hinside⟩ := (Option.any_eq_true _ _).mp hrun
  exact ⟨w, hw, hinside, (guard_exclusive processes recovered w (by decide) hw).1⟩

open Sample in
/-- Two live processes are inside the guard, after one unlinked the lock of the other. -/
theorem readTooEarly_two : ∃ w, run (guardStep processes) .initial readTooEarly = some w ∧
    ¬ OneInside w := by
  have hrun : ((run (guardStep processes) .initial readTooEarly).any fun w =>
      decide (0 ∈ w.running) && decide (1 ∈ w.running) && (w.phase 0).isInside &&
        (w.phase 1).isInside) = true := by decide
  have ⟨w, hw, hfacts⟩ := (Option.any_eq_true _ _).mp hrun
  simp only [Bool.and_eq_true, decide_eq_true_eq] at hfacts
  have ⟨⟨⟨hzero, hone⟩, hin⟩, hin'⟩ := hfacts
  refine ⟨w, hw, ?_⟩
  intro h
  nomatch h 0 1 hzero hone hin hin'

end Rygnal.GuardedRun
