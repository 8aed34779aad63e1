import Mathlib.Data.Int.Notation
import Mathlib.Logic.Function.Basic
import Rygnal.Library.Transition

/-! # The lock of an artifact

`_artifact_lock` of one artifact id, and `_reconcile_pid_locks` on the same directory. A label
is one system call of one thread, so that the calls of any number of processes interleave in
every order, and a process may exit between any two of them.
-/

namespace Rygnal.Artifact
open Rygnal.Library.Transition

def lockRetryCount : ℕ := 40

/-- Which process a thread runs in, and the pid of each process. -/
structure Threads where
  process : ℕ → ℕ
  pid : ℕ → ℤ

/-- What a lock file holds: its fields are written in one call, after the file is created. -/
inductive LockContent where
  | incomplete
  | owner (pid : ℤ)
deriving DecidableEq, Repr

/-- Where a thread stands in `_artifact_lock`, with the file that it has created. -/
inductive LockPhase where
  | outside
  | opening (attempts : ℕ)
  | opened (file : ℕ)
  /-- The body of the `with` statement; `applying` is a call of `apply_approved_patch`. -/
  | inside (file : ℕ) (applying : Bool)
  | leaving (file : ℕ)
deriving DecidableEq, Repr

/-- Where a reconciler stands with this lock path. -/
inductive SweepPhase where
  | idle
  | listed
  | regular
  | opened (file : ℕ)
  | read (file : ℕ) (pid : ℤ)
  | stale (file : ℕ) (pid : ℤ)
deriving DecidableEq, Repr

/-- `path` is the file that the lock path names. -/
structure LockWorld where
  path : Option ℕ
  content : ℕ → LockContent
  nextFile : ℕ
  running : List ℕ
  exited : List ℕ
  calls : ℕ → LockPhase
  sweeps : ℕ → SweepPhase

def LockWorld.initial : LockWorld :=
  ⟨none, fun _ => .incomplete, 0, [], [], fun _ => .outside, fun _ => .idle⟩

inductive LockAction where
  | enter
  | openExclusive
  /-- `os.open` or the write raises another error. -/
  | fail
  | write
  | apply
  | applied
  /-- The body returns or raises. -/
  | finish
  | unlink
deriving DecidableEq, Repr

inductive SweepAction where
  | glob
  | isFile
  | openMetadata
  | readMetadata
  | probe
  | remove
deriving DecidableEq, Repr

inductive LockLabel where
  | start (process : ℕ)
  | exit (process : ℕ)
  | call (thread : ℕ) (action : LockAction)
  | sweep (thread : ℕ) (action : SweepAction)
deriving DecidableEq, Repr

namespace LockWorld

/-- `_process_is_alive`. -/
def alive (d : Threads) (w : LockWorld) (pid : ℤ) : Bool := w.running.any fun p => d.pid p = pid

/-- The process of the thread runs. -/
def Live (d : Threads) (w : LockWorld) (t : ℕ) : Prop := d.process t ∈ w.running

instance (d : Threads) (w : LockWorld) (t : ℕ) : Decidable (w.Live d t) :=
  inferInstanceAs (Decidable (_ ∈ _))

def setCall (w : LockWorld) (t : ℕ) (phase : LockPhase) : LockWorld :=
  { w with calls := Function.update w.calls t phase }

def setSweep (w : LockWorld) (t : ℕ) (phase : SweepPhase) : LockWorld :=
  { w with sweeps := Function.update w.sweeps t phase }

/-- `os.open` with `O_CREAT | O_EXCL` where the path is free. -/
def create (w : LockWorld) (t : ℕ) : LockWorld :=
  { w with
    path := some w.nextFile
    content := Function.update w.content w.nextFile .incomplete
    nextFile := w.nextFile + 1
    calls := Function.update w.calls t (.opened w.nextFile) }

def writeOwner (w : LockWorld) (file : ℕ) (pid : ℤ) : LockWorld :=
  { w with content := Function.update w.content file (.owner pid) }

/-- `lock_path.unlink()`, whatever file the path names. -/
def unlink (w : LockWorld) : LockWorld := { w with path := none }

end LockWorld

/-- One step of `_artifact_lock`. -/
def lockCall (d : Threads) (w : LockWorld) (t : ℕ) : LockAction → LockPhase → Option LockWorld
  | .enter, .outside => some (w.setCall t (.opening 0))
  | .openExclusive, .opening attempts =>
    match w.path with
    | none => some (w.create t)
    | some _ =>
      if attempts + 1 < lockRetryCount then some (w.setCall t (.opening (attempts + 1)))
      else some (w.setCall t .outside)
  | .fail, .opening _ => some (w.setCall t .outside)
  | .fail, .opened file => some (w.setCall t (.leaving file))
  | .write, .opened file =>
    some ((w.writeOwner file (d.pid (d.process t))).setCall t (.inside file false))
  | .apply, .inside file false => some (w.setCall t (.inside file true))
  | .applied, .inside file true => some (w.setCall t (.inside file false))
  | .finish, .inside file _ => some (w.setCall t (.leaving file))
  | .unlink, .leaving _ => some (w.unlink.setCall t .outside)
  | _, _ => none

/-- One step of `_reconcile_pid_locks` at this path. -/
def lockSweep (d : Threads) (w : LockWorld) (t : ℕ) : SweepAction → SweepPhase → Option LockWorld
  | .glob, .idle => some (w.setSweep t (if w.path.isSome then .listed else .idle))
  | .isFile, .listed => some (w.setSweep t (if w.path.isSome then .regular else .idle))
  | .openMetadata, .regular =>
    match w.path with
    | some file => some (w.setSweep t (.opened file))
    | none => some (w.setSweep t .idle)
  | .readMetadata, .opened file =>
    match w.content file with
    | .owner pid => some (w.setSweep t (.read file pid))
    | .incomplete => some (w.setSweep t .idle)
  | .probe, .read file pid =>
    some (w.setSweep t (if w.alive d pid then .idle else .stale file pid))
  | .remove, .stale _ _ => some (w.unlink.setSweep t .idle)
  | _, _ => none

def lockStep (d : Threads) : Step LockWorld LockLabel
  | w, .start p =>
    if p ∈ w.running ∨ p ∈ w.exited then none else some { w with running := p :: w.running }
  | w, .exit p =>
    if p ∈ w.running then
      some { w with running := w.running.filter (· ≠ p), exited := p :: w.exited }
    else none
  | w, .call t action => if w.Live d t then lockCall d w t action (w.calls t) else none
  | w, .sweep t action => if w.Live d t then lockSweep d w t action (w.sweeps t) else none

/-! ## Exclusion -/

def LockPhase.isInside : LockPhase → Bool
  | .inside _ _ => true
  | _ => false

def LockPhase.isApplying : LockPhase → Bool
  | .inside _ applying => applying
  | _ => false

/-- At most one live thread is inside the lock, and at most one applies the artifact. -/
def Exclusive (d : Threads) (w : LockWorld) : Prop :=
  (∀ t u, w.Live d t → w.Live d u → (w.calls t).isInside = true → (w.calls u).isInside = true →
    t = u) ∧
  (∀ t u, w.Live d t → w.Live d u → (w.calls t).isApplying = true →
    (w.calls u).isApplying = true → t = u)

/-- A reconciler that removes the lock path removes the file that it has read. -/
def RemovesWhatItRead (w : LockWorld) : LockLabel → Prop
  | .sweep t .remove =>
    match w.sweeps t with
    | .stale file _ => w.path = none ∨ w.path = some file
    | _ => True
  | _ => True

/-! ## Holders -/

/-- The lock file that a call has created and not yet removed. -/
def LockPhase.file? : LockPhase → Option ℕ
  | .opened file | .inside file _ | .leaving file => some file
  | _ => none

/-- The lock file that a reconciler has found, and the pid that it read. -/
def SweepPhase.owner? : SweepPhase → Option (ℕ × ℤ)
  | .read file pid | .stale file pid => some (file, pid)
  | _ => none

/-- Each live holder owns the file that the path names. -/
structure LockInvariant (d : Threads) (w : LockWorld) : Prop where
  path_lt : ∀ f, w.path = some f → f < w.nextFile
  call_lt : ∀ t f, (w.calls t).file? = some f → f < w.nextFile
  sweep_lt : ∀ t f pid, (w.sweeps t).owner? = some (f, pid) → f < w.nextFile
  opened_lt : ∀ t f, w.sweeps t = .opened f → f < w.nextFile
  named : ∀ t f, w.Live d t → (w.calls t).file? = some f → w.path = some f
  written : ∀ t f pid, (w.calls t).file? = some f → w.content f = .owner pid →
    pid = d.pid (d.process t)
  unwritten : ∀ t f, w.calls t = .opened f → w.content f = .incomplete
  distinct : ∀ t u f, (w.calls t).file? = some f → (w.calls u).file? = some f → t = u
  owner : ∀ t f pid, (w.sweeps t).owner? = some (f, pid) → w.content f = .owner pid
  dead : ∀ r f pid, w.sweeps r = .stale f pid → ∀ t, w.Live d t → (w.calls t).file? ≠ some f
  unborn : ∀ t, d.process t ∉ w.running → d.process t ∉ w.exited → w.calls t = .outside

theorem LockInvariant.initial (d : Threads) : LockInvariant d .initial := by
  constructor <;> simp [LockWorld.initial, LockPhase.file?, SweepPhase.owner?]

/-- The invariant excludes a second holder. -/
theorem LockInvariant.exclusive {d : Threads} {w : LockWorld} (h : LockInvariant d w) :
    Exclusive d w := by
  have hinside : ∀ t, (w.calls t).isInside = true → ∃ f, (w.calls t).file? = some f := by
    intro t ht
    cases hc : w.calls t <;> simp_all [LockPhase.isInside, LockPhase.file?]
  have happlying : ∀ t, (w.calls t).isApplying = true → (w.calls t).isInside = true := by
    intro t ht
    cases hc : w.calls t <;> simp_all [LockPhase.isInside, LockPhase.isApplying]
  have hone : ∀ t u, w.Live d t → w.Live d u → (w.calls t).isInside = true →
      (w.calls u).isInside = true → t = u := by
    intro t u ht hu hti hui
    have ⟨f, hf⟩ := hinside t hti
    have ⟨g, hg⟩ := hinside u hui
    have hfg := (h.named t f ht hf).symm.trans (h.named u g hu hg)
    rw [Option.some.injEq] at hfg
    subst hfg
    exact h.distinct t u f hf hg
  apply And.intro hone
  intro t u ht hu hta hua
  exact hone t u ht hu (happlying t hta) (happlying u hua)

/-! ## Each step keeps the invariant -/

namespace LockInvariant
variable {d : Threads} {w : LockWorld} {t : ℕ}

/-- A new process has entered no call yet. -/
theorem start (h : LockInvariant d w) {p : ℕ} (hr : p ∉ w.running) (he : p ∉ w.exited) :
    LockInvariant d { w with running := p :: w.running } := by
  have hlive : ∀ u f, d.process u ∈ p :: w.running → (w.calls u).file? = some f → w.Live d u := by
    intro u f hu hf
    rcases List.mem_cons.mp hu with hp | hu
    · have hout := h.unborn u (by rwa [hp]) (by rwa [hp])
      rw [hout] at hf
      cases hf
    · exact hu
  constructor
  · exact h.path_lt
  · exact h.call_lt
  · exact h.sweep_lt
  · exact h.opened_lt
  · intro u f hu hf
    exact h.named u f (hlive u f hu hf) hf
  · exact h.written
  · exact h.unwritten
  · exact h.distinct
  · exact h.owner
  · intro r f pid hstale u hu hf
    exact h.dead r f pid hstale u (hlive u f hu hf) hf
  · intro u hu he'
    exact h.unborn u (fun hmem => hu (List.mem_cons_of_mem p hmem)) he'

theorem exit (h : LockInvariant d w) (p : ℕ) : LockInvariant d
    { w with running := w.running.filter (· ≠ p), exited := p :: w.exited } := by
  have hlive : ∀ u, d.process u ∈ w.running.filter (· ≠ p) → w.Live d u := by
    intro u hu
    exact (List.mem_filter.mp hu).1
  constructor
  · exact h.path_lt
  · exact h.call_lt
  · exact h.sweep_lt
  · exact h.opened_lt
  · intro u f hu hf
    exact h.named u f (hlive u hu) hf
  · exact h.written
  · exact h.unwritten
  · exact h.distinct
  · exact h.owner
  · intro r f pid hstale u hu
    exact h.dead r f pid hstale u (hlive u hu)
  · intro u hu he
    rw [List.mem_cons, not_or] at he
    apply h.unborn u _ he.2
    intro hmem
    exact hu (List.mem_filter.mpr ⟨hmem, by simpa using he.1⟩)

/-- A call may go on with the file that it has, or drop it. -/
theorem setCall (h : LockInvariant d w) (ht : w.Live d t) (phase : LockPhase)
    (hfile : ∀ f, phase.file? = some f → (w.calls t).file? = some f)
    (hopened : ∀ f, phase ≠ .opened f) : LockInvariant d (w.setCall t phase) := by
  have hkeep : ∀ u f, (Function.update w.calls t phase u).file? = some f →
      (w.calls u).file? = some f := by
    intro u f hf
    by_cases hu : u = t
    · subst hu
      rw [Function.update_self] at hf
      exact hfile f hf
    · rwa [Function.update_of_ne hu] at hf
  constructor
  · exact h.path_lt
  · intro u f hf
    exact h.call_lt u f (hkeep u f hf)
  · exact h.sweep_lt
  · exact h.opened_lt
  · intro u f hu hf
    exact h.named u f hu (hkeep u f hf)
  · intro u f pid hf
    exact h.written u f pid (hkeep u f hf)
  · intro u f hf
    change Function.update w.calls t phase u = .opened f at hf
    by_cases hu : u = t
    · subst hu
      rw [Function.update_self] at hf
      exact absurd hf (hopened f)
    · rw [Function.update_of_ne hu] at hf
      exact h.unwritten u f hf
  · intro u v f hu hv
    exact h.distinct u v f (hkeep u f hu) (hkeep v f hv)
  · exact h.owner
  · intro r f pid hstale u hu hf
    exact h.dead r f pid hstale u hu (hkeep u f hf)
  · intro u hu he
    have hne : u ≠ t := by
      rintro rfl
      exact hu ht
    change Function.update w.calls t phase u = .outside
    rw [Function.update_of_ne hne]
    exact h.unborn u hu he

/-- A new file belongs to nobody else. -/
theorem create (h : LockInvariant d w) (ht : w.Live d t) (hpath : w.path = none) :
    LockInvariant d (w.create t) := by
  have hcalls : ∀ u f, (Function.update w.calls t (.opened w.nextFile) u).file? = some f →
      u = t ∧ f = w.nextFile ∨ u ≠ t ∧ (w.calls u).file? = some f ∧ f < w.nextFile := by
    intro u f hf
    by_cases hu : u = t
    · subst hu
      rw [Function.update_self] at hf
      exact .inl ⟨rfl, (Option.some.inj hf).symm⟩
    · rw [Function.update_of_ne hu] at hf
      exact .inr ⟨hu, hf, h.call_lt u f hf⟩
  have hcontent : ∀ f, f < w.nextFile →
      Function.update w.content w.nextFile .incomplete f = w.content f := by
    intro f hf
    exact Function.update_of_ne (Nat.ne_of_lt hf) _ _
  constructor
  · intro f hf
    cases hf
    exact Nat.lt_succ_self _
  · intro u f hf
    rcases hcalls u f hf with ⟨-, rfl⟩ | ⟨-, -, hlt⟩
    · exact Nat.lt_succ_self _
    · exact Nat.lt_succ_of_lt hlt
  · intro r f pid hr
    exact Nat.lt_succ_of_lt (h.sweep_lt r f pid hr)
  · intro r f hr
    exact Nat.lt_succ_of_lt (h.opened_lt r f hr)
  · intro u f hu hf
    rcases hcalls u f hf with ⟨-, rfl⟩ | ⟨-, hold, -⟩
    · rfl
    · have hnamed := h.named u f hu hold
      rw [hpath] at hnamed
      cases hnamed
  · intro u f pid hf hpid
    change Function.update w.content w.nextFile .incomplete f = .owner pid at hpid
    rcases hcalls u f hf with ⟨-, rfl⟩ | ⟨-, hold, hlt⟩
    · rw [Function.update_self] at hpid
      cases hpid
    · rw [hcontent f hlt] at hpid
      exact h.written u f pid hold hpid
  · intro u f hf
    have hfile : (Function.update w.calls t (.opened w.nextFile) u).file? = some f := by
      change Function.update w.calls t (.opened w.nextFile) u = .opened f at hf
      rw [hf]
      rfl
    change Function.update w.content w.nextFile .incomplete f = .incomplete
    rcases hcalls u f hfile with ⟨-, rfl⟩ | ⟨hu, -, hlt⟩
    · exact Function.update_self ..
    · change Function.update w.calls t (.opened w.nextFile) u = .opened f at hf
      rw [Function.update_of_ne hu] at hf
      rw [hcontent f hlt]
      exact h.unwritten u f hf
  · intro u v f hu hv
    rcases hcalls u f hu with ⟨rfl, rfl⟩ | ⟨-, hu, hlt⟩
    · rcases hcalls v _ hv with ⟨rfl, -⟩ | ⟨-, -, hlt⟩
      · rfl
      · exact absurd hlt (Nat.lt_irrefl _)
    · rcases hcalls v f hv with ⟨-, rfl⟩ | ⟨-, hv, -⟩
      · exact absurd hlt (Nat.lt_irrefl _)
      · exact h.distinct u v f hu hv
  · intro r f pid hr
    change Function.update w.content w.nextFile .incomplete f = .owner pid
    rw [hcontent f (h.sweep_lt r f pid hr)]
    exact h.owner r f pid hr
  · intro r f pid hr u hu hf
    have hlt : f < w.nextFile := h.sweep_lt r f pid (congrArg SweepPhase.owner? hr)
    rcases hcalls u f hf with ⟨-, rfl⟩ | ⟨-, hold, -⟩
    · exact Nat.lt_irrefl _ hlt
    · exact h.dead r f pid hr u hu hold
  · intro u hu he
    have hne : u ≠ t := by
      rintro rfl
      exact hu ht
    change Function.update w.calls t (.opened w.nextFile) u = .outside
    rw [Function.update_of_ne hne]
    exact h.unborn u hu he

/-- The creator of a file writes its own pid, and nobody has read the file before. -/
theorem writeOwner (h : LockInvariant d w) {f : ℕ} (hf : w.calls t = .opened f)
    {phase : LockPhase} (ht : w.Live d t) (hphase : phase.file? = some f)
    (hopened : ∀ g, phase ≠ .opened g) :
    LockInvariant d ((w.writeOwner f (d.pid (d.process t))).setCall t phase) := by
  have hfile : (w.calls t).file? = some f := congrArg LockPhase.file? hf
  have hempty := h.unwritten t f hf
  have hother : ∀ u g, u ≠ t → (w.calls u).file? = some g → g ≠ f := by
    rintro u g hu hg rfl
    exact hu (h.distinct u t g hg hfile)
  have hkept := h.setCall ht phase (fun g hg => by rw [hfile, ← hphase, hg]) hopened
  constructor
  · exact hkept.path_lt
  · exact hkept.call_lt
  · exact hkept.sweep_lt
  · exact hkept.opened_lt
  · exact hkept.named
  · intro u g pid hg hpid
    change Function.update w.content f (.owner (d.pid (d.process t))) g = .owner pid at hpid
    by_cases hgf : g = f
    · subst hgf
      rw [Function.update_self] at hpid
      have hphases : ((w.setCall t phase).calls t).file? = some g := by
        change (Function.update w.calls t phase t).file? = some g
        rwa [Function.update_self]
      rw [hkept.distinct u t g hg hphases]
      cases hpid
      rfl
    · rw [Function.update_of_ne hgf] at hpid
      exact hkept.written u g pid hg hpid
  · intro u g hg
    have hne : u ≠ t := by
      rintro rfl
      change Function.update w.calls u phase u = .opened g at hg
      rw [Function.update_self] at hg
      exact hopened g hg
    have hu : w.calls u = .opened g := by
      change Function.update w.calls t phase u = .opened g at hg
      rwa [Function.update_of_ne hne] at hg
    have hgf := hother u g hne (congrArg LockPhase.file? hu)
    change Function.update w.content f (.owner (d.pid (d.process t))) g = .incomplete
    rw [Function.update_of_ne hgf]
    exact h.unwritten u g hu
  · exact hkept.distinct
  · intro r g pid hr
    have hgf : g ≠ f := by
      rintro rfl
      have howner := h.owner r g pid hr
      rw [hempty] at howner
      cases howner
    change Function.update w.content f (.owner (d.pid (d.process t))) g = .owner pid
    rw [Function.update_of_ne hgf]
    exact h.owner r g pid hr
  · exact hkept.dead
  · exact hkept.unborn

/-- The holder that leaves is the only one, so the path names its own file. -/
theorem unlink (h : LockInvariant d w) {f : ℕ} (ht : w.Live d t)
    (hf : (w.calls t).file? = some f) : LockInvariant d (w.unlink.setCall t .outside) := by
  have hkept : LockInvariant d (w.setCall t .outside) := h.setCall ht .outside nofun nofun
  have hpath := h.named t f ht hf
  constructor
  · nofun
  · exact hkept.call_lt
  · exact hkept.sweep_lt
  · exact hkept.opened_lt
  · intro u g hu hg
    have hne : u ≠ t := by
      rintro rfl
      change (Function.update w.calls u .outside u).file? = some g at hg
      rw [Function.update_self] at hg
      cases hg
    have hold : (w.calls u).file? = some g := by
      change (Function.update w.calls t .outside u).file? = some g at hg
      rwa [Function.update_of_ne hne] at hg
    have hnamed := h.named u g hu hold
    rw [hpath, Option.some.injEq] at hnamed
    subst hnamed
    exact absurd (h.distinct u t f hold hf) hne
  · exact hkept.written
  · exact hkept.unwritten
  · exact hkept.distinct
  · exact hkept.owner
  · exact hkept.dead
  · exact hkept.unborn

/-- A reconciler keeps to what it has read of the file. -/
theorem setSweep (h : LockInvariant d w) (phase : SweepPhase)
    (hopened : ∀ f, phase = .opened f → f < w.nextFile)
    (howner : ∀ f pid, phase.owner? = some (f, pid) → f < w.nextFile ∧ w.content f = .owner pid)
    (hdead : ∀ f pid, phase = .stale f pid → ∀ u, w.Live d u → (w.calls u).file? ≠ some f) :
    LockInvariant d (w.setSweep t phase) := by
  have hsweeps : ∀ r, (w.setSweep t phase).sweeps r = if r = t then phase else w.sweeps r := by
    intro r
    change Function.update w.sweeps t phase r = _
    rw [Function.update_apply]
  constructor
  · exact h.path_lt
  · exact h.call_lt
  · intro r f pid hr
    rw [hsweeps] at hr
    split at hr
    · exact (howner f pid hr).1
    · exact h.sweep_lt r f pid hr
  · intro r f hr
    rw [hsweeps] at hr
    split at hr
    · exact hopened f hr
    · exact h.opened_lt r f hr
  · exact h.named
  · exact h.written
  · exact h.unwritten
  · exact h.distinct
  · intro r f pid hr
    rw [hsweeps] at hr
    split at hr
    · exact (howner f pid hr).2
    · exact h.owner r f pid hr
  · intro r f pid hr
    rw [hsweeps] at hr
    split at hr
    · exact hdead f pid hr
    · exact h.dead r f pid hr
  · exact h.unborn

/-- Removing a file that no live call holds. -/
theorem remove (h : LockInvariant d w)
    (hfree : ∀ u f, w.Live d u → (w.calls u).file? = some f → w.path ≠ some f) :
    LockInvariant d w.unlink := by
  constructor
  · nofun
  · exact h.call_lt
  · exact h.sweep_lt
  · exact h.opened_lt
  · intro u f hu hf
    exact absurd (h.named u f hu hf) (hfree u f hu hf)
  · exact h.written
  · exact h.unwritten
  · exact h.distinct
  · exact h.owner
  · exact h.dead
  · exact h.unborn

/-- `_process_is_alive` finds the process of a live call. -/
theorem alive_of_live (ht : w.Live d t) : w.alive d (d.pid (d.process t)) = true := by
  rw [LockWorld.alive, List.any_eq_true]
  exact ⟨d.process t, ht, decide_eq_true rfl⟩

theorem lockCall (h : LockInvariant d w) (ht : w.Live d t) {action : LockAction} {w' : LockWorld}
    (hstep : lockCall d w t action (w.calls t) = some w') : LockInvariant d w' := by
  unfold Artifact.lockCall at hstep
  split at hstep
  · cases hstep
    exact h.setCall ht (.opening 0) nofun nofun
  · rename_i attempts hphase
    split at hstep
    · rename_i hpath
      cases hstep
      exact h.create ht hpath
    · split at hstep
      · cases hstep
        exact h.setCall ht (.opening (attempts + 1)) nofun nofun
      · cases hstep
        exact h.setCall ht .outside nofun nofun
  · cases hstep
    exact h.setCall ht .outside nofun nofun
  · rename_i file hphase
    cases hstep
    exact h.setCall ht (.leaving file) (fun f hf => by rw [hphase]; exact hf) nofun
  · rename_i file hphase
    cases hstep
    exact h.writeOwner hphase ht rfl nofun
  · rename_i file hphase
    cases hstep
    exact h.setCall ht (.inside file true) (fun f hf => by rw [hphase]; exact hf) nofun
  · rename_i file hphase
    cases hstep
    exact h.setCall ht (.inside file false) (fun f hf => by rw [hphase]; exact hf) nofun
  · rename_i file applying hphase
    cases hstep
    exact h.setCall ht (.leaving file) (fun f hf => by rw [hphase]; exact hf) nofun
  · rename_i file hphase
    cases hstep
    exact h.unlink ht (congrArg LockPhase.file? hphase)
  · cases hstep

theorem lockSweep (h : LockInvariant d w) {action : SweepAction} {w' : LockWorld}
    (hremoves : RemovesWhatItRead w (.sweep t action))
    (hstep : lockSweep d w t action (w.sweeps t) = some w') : LockInvariant d w' := by
  have hidle : LockInvariant d (w.setSweep t .idle) := h.setSweep .idle nofun nofun nofun
  unfold Artifact.lockSweep at hstep
  split at hstep
  · cases hstep
    split
    · exact h.setSweep .listed nofun nofun nofun
    · exact hidle
  · cases hstep
    split
    · exact h.setSweep .regular nofun nofun nofun
    · exact hidle
  · split at hstep
    · rename_i file hpath
      cases hstep
      refine h.setSweep (.opened file) ?_ nofun nofun
      intro f hf
      cases hf
      exact h.path_lt file hpath
    · cases hstep
      exact hidle
  · rename_i file hphase
    split at hstep
    · rename_i pid hcontent
      cases hstep
      refine h.setSweep (.read file pid) nofun ?_ nofun
      intro f pid' hf
      cases hf
      exact ⟨h.opened_lt t file hphase, hcontent⟩
    · cases hstep
      exact hidle
  · rename_i file pid hphase
    have hfound : (w.sweeps t).owner? = some (file, pid) := congrArg SweepPhase.owner? hphase
    have hcontent := h.owner t file pid hfound
    cases hstep
    split
    · exact hidle
    · rename_i hdead
      refine h.setSweep (.stale file pid) nofun ?_ ?_
      · intro f pid' hf
        cases hf
        exact ⟨h.sweep_lt t file pid hfound, hcontent⟩
      · -- a live call on this file would have written the pid that was found dead
        intro f pid' hf u hu hfile
        cases hf
        apply hdead
        rw [h.written u file pid hfile hcontent]
        exact alive_of_live hu
  · rename_i file pid hphase
    cases hstep
    have hfree : ∀ u f, w.Live d u → (w.calls u).file? = some f → w.path ≠ some f := by
      intro u f hu hf hpath
      rw [RemovesWhatItRead, hphase] at hremoves
      rcases hremoves with hnone | hsame
      · rw [hnone] at hpath
        cases hpath
      · rw [hpath, Option.some.injEq] at hsame
        subst hsame
        exact h.dead t f pid hphase u hu hf
    exact (h.remove hfree).setSweep .idle nofun nofun nofun
  · cases hstep

/-- A step that removes only what was read keeps the invariant. -/
theorem lockStep {l : LockLabel} {w' : LockWorld} (h : LockInvariant d w)
    (hremoves : RemovesWhatItRead w l) (hstep : lockStep d w l = some w') :
    LockInvariant d w' := by
  cases l with
  | start p =>
    rw [Artifact.lockStep] at hstep
    split at hstep
    · cases hstep
    · rename_i hnew
      rw [not_or] at hnew
      cases hstep
      exact h.start hnew.1 hnew.2
  | exit p =>
    rw [Artifact.lockStep] at hstep
    split at hstep
    · cases hstep
      exact h.exit p
    · cases hstep
  | call t action =>
    rw [Artifact.lockStep] at hstep
    split at hstep
    · rename_i ht
      exact h.lockCall ht hstep
    · cases hstep
  | sweep t action =>
    rw [Artifact.lockStep] at hstep
    split at hstep
    · exact h.lockSweep hremoves hstep
    · cases hstep

end LockInvariant

/-- In a run whose reconcilers remove only lock files that they have read, at most one live
thread is inside the lock at any time. -/
theorem artifactLock_exclusive (d : Threads) (labels : List LockLabel) (w : LockWorld)
    (hmeets : Meets (lockStep d) RemovesWhatItRead .initial labels)
    (hrun : run (lockStep d) .initial labels = some w) : Exclusive d w := by
  have hinv : LockInvariant d w :=
    hmeets.invariant (fun _ _ _ h hr hs => h.lockStep hr hs) (.initial d) hrun
  exact hinv.exclusive

/-! ## A stale lock removed twice -/

namespace Sample

/-- Thread `n` runs in process `n`, with pid `4101 + n`. -/
def threads : Threads := ⟨id, fun p => 4101 + p⟩

/-- The thread takes the lock. -/
def enters (t : ℕ) : List LockLabel :=
  [.call t .enter, .call t .openExclusive, .call t .write]

/-- The reconciler finds the owner of the lock dead. -/
def findsStale (t : ℕ) : List LockLabel :=
  [.sweep t .glob, .sweep t .isFile, .sweep t .openMetadata, .sweep t .readMetadata,
    .sweep t .probe]

/-- Process 0 exits inside the lock, process 3 removes the lock, and process 1 takes it. -/
def recovered : List LockLabel :=
  [.start 0, .start 1, .start 2, .start 3, .start 4] ++ enters 0 ++ [.exit 0] ++
    findsStale 3 ++ [.sweep 3 .remove] ++ enters 1

/-- Processes 3 and 4 both find the lock stale, and one of them removes the next lock. -/
def removedTwice : List LockLabel :=
  [.start 0, .start 1, .start 2, .start 3, .start 4] ++ enters 0 ++ [.exit 0] ++
    findsStale 3 ++ findsStale 4 ++ [.sweep 3 .remove] ++ enters 1 ++ [.call 1 .apply] ++
    [.sweep 4 .remove] ++ enters 2 ++ [.call 2 .apply]

end Sample

instance (w : LockWorld) (l : LockLabel) : Decidable (RemovesWhatItRead w l) := by
  unfold RemovesWhatItRead
  split <;> try split
  all_goals infer_instance

open Sample in
theorem recovered_exclusive : ∃ w, run (lockStep threads) .initial recovered = some w ∧
    (w.calls 1).isInside = true ∧ Exclusive threads w := by
  have hrun : ((run (lockStep threads) .initial recovered).any
      fun w => (w.calls 1).isInside) = true := by decide
  have ⟨w, hw, hinside⟩ := (Option.any_eq_true _ _).mp hrun
  exact ⟨w, hw, hinside, artifactLock_exclusive threads recovered w (by decide) hw⟩

open Sample in
/-- Two live processes apply the artifact at the same time. -/
theorem removedTwice_not_exclusive : ∃ w,
    run (lockStep threads) .initial removedTwice = some w ∧ ¬ Exclusive threads w := by
  have hrun : ((run (lockStep threads) .initial removedTwice).any fun w =>
      decide (w.Live threads 1) && decide (w.Live threads 2) && (w.calls 1).isApplying &&
        (w.calls 2).isApplying) = true := by decide
  have ⟨w, hw, hfacts⟩ := (Option.any_eq_true _ _).mp hrun
  simp only [Bool.and_eq_true, decide_eq_true_eq] at hfacts
  have ⟨⟨⟨hone, htwo⟩, happly⟩, happly'⟩ := hfacts
  refine ⟨w, hw, ?_⟩
  intro h
  have heq := h.2 1 2 hone htwo happly happly'
  cases heq

end Rygnal.Artifact
