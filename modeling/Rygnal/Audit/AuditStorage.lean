import Mathlib.Data.Finset.Basic
import Rygnal.Audit.SharedLog

/-! # Concurrent transactions on the audit chain

`SQLiteAuditStore.append_chained_event`: every call reads the last row and inserts the next one in
a transaction that starts with the write lock. The rows hold each logged event once, in a chain
that verifies, and a verified chain is determined by its last hash.
-/

namespace Rygnal.Audit
open Rygnal.Core Rygnal.Library Rygnal.Interceptor Transition

/-- Where a call of `append_chained_event` stands. -/
inductive AppendPhase where
  | waiting
  | locked
  | inserted (event : ChainedEvent)
  | done
  | failed
deriving DecidableEq, Repr

/-- The committed rows, the call that holds the write lock and the phases of all calls. -/
structure AuditStore where
  rows : List Dict
  writer : Option ℕ
  phase : ℕ → AppendPhase

inductive AppendStep where
  | beginImmediate (call : ℕ)
  | insert (call : ℕ)
  | commit (call : ℕ)
  | rollback (call : ℕ)

namespace AuditStore

def setPhase (store : AuditStore) (call : ℕ) (phase : AppendPhase) : AuditStore :=
  { store with phase := Function.update store.phase call phase }

@[simp] theorem setPhase_rows (store : AuditStore) (call : ℕ) (phase : AppendPhase) :
    (store.setPhase call phase).rows = store.rows := rfl

@[simp] theorem setPhase_writer (store : AuditStore) (call : ℕ) (phase : AppendPhase) :
    (store.setPhase call phase).writer = store.writer := rfl

@[simp] theorem setPhase_self (store : AuditStore) (call : ℕ) (phase : AppendPhase) :
    (store.setPhase call phase).phase call = phase :=
  Function.update_self ..

theorem setPhase_of_ne (store : AuditStore) {call other : ℕ} (phase : AppendPhase)
    (h : other ≠ call) : (store.setPhase call phase).phase other = store.phase other :=
  Function.update_of_ne h ..

def empty : AuditStore := ⟨[], none, fun _ => .waiting⟩

end AuditStore

/-- The unique columns of `audit_events`, and a hash that is not empty. -/
def Insertable (rows : List Dict) (event : ChainedEvent) : Prop :=
  event.eventHash ≠ some "" ∧ ∀ row ∈ rows,
    row.get "event_id" ≠ some (.str event.eventId) ∧
      row.get "event_hash" ≠ some (optionValue event.eventHash)

instance (rows : List Dict) (event : ChainedEvent) : Decidable (Insertable rows event) :=
  inferInstanceAs (Decidable (_ ∧ ∀ row ∈ rows, _))

section Store
variable [FloatText] [Digest] (calls : ℕ → LoggedEvent)

/-- One step of a call; a call whose row cannot be inserted can only be rolled back. -/
def appendStep (store : AuditStore) : AppendStep → Option AuditStore
  | .beginImmediate call =>
    if store.writer = none ∧ store.phase call = .waiting then
      some { store.setPhase call .locked with writer := some call }
    else none
  | .insert call =>
    let event := bindEvent (calls call).event (lastHash store.rows)
    if store.writer = some call ∧ store.phase call = .locked ∧ Insertable store.rows event then
      some (store.setPhase call (.inserted event))
    else none
  | .commit call =>
    match store.phase call with
    | .inserted event =>
      if store.writer = some call then
        some { store.setPhase call .done with
          rows := store.rows ++ [event.payload]
          writer := none }
      else none
    | _ => none
  | .rollback call =>
    if store.writer = some call then some { store.setPhase call .failed with writer := none }
    else none

/-! ## The rows are the events of the finished calls -/

/-- A stored event is the event of the call with its hashes, as JSON gives it back. -/
def StoredBy (call : ℕ) (event : ChainedEvent) : Prop :=
  ∃ previousHash, event = (bindEvent (calls call).event previousHash).reread

/-- The rows are read as a verified chain that holds the event of each finished call once. -/
def StoresEach (defaults : EventDefaults) (store : AuditStore) : Prop :=
  ∃ order events, order.Nodup ∧ (∀ call, call ∈ order ↔ store.phase call = .done) ∧
    readEvents defaults store.rows = some events ∧ List.Forall₂ (StoredBy calls) order events ∧
    verifyIntegrity defaults store.rows = some true

/-- The invariant of the transactions: the finished calls in the order of their commits, and what
the writer has inserted. -/
structure StoreSound (store : AuditStore) (order : List ℕ) (events : List ChainedEvent) : Prop where
  chain : ChainOf store.rows events
  bound : List.Forall₂ (fun call event =>
    ∃ previousHash, event = bindEvent (calls call).event previousHash) order events
  nodup : order.Nodup
  finished : ∀ call, call ∈ order ↔ store.phase call = .done
  writer : ∀ call event, store.phase call = .inserted event →
    event = bindEvent (calls call).event (lastHash store.rows)
  holder : ∀ call, store.writer = some call ↔
    store.phase call = .locked ∨ ∃ event, store.phase call = .inserted event

namespace StoreSound
variable {calls} {store : AuditStore} {order : List ℕ} {events : List ChainedEvent}

theorem initial : StoreSound calls .empty [] [] where
  chain := ChainOf.empty
  bound := .nil
  nodup := List.nodup_nil
  finished call := by simp [AuditStore.empty]
  writer _ _ h := nomatch h
  holder call := by simp [AuditStore.empty]

theorem storesEach (h : StoreSound calls store order events) (defaults : EventDefaults) :
    StoresEach calls defaults store := by
  refine ⟨order, events.map ChainedEvent.reread, h.nodup, h.finished, h.chain.readEvents defaults,
    ?_, h.chain.verifyIntegrity defaults⟩
  rw [List.forall₂_map_right_iff]
  apply h.bound.imp
  rintro call event ⟨previousHash, hevent⟩
  exact ⟨previousHash, congrArg _ hevent⟩

/-- A call in its transaction is not finished. -/
theorem not_mem_of_writer (h : StoreSound calls store order events) {call : ℕ}
    (hwriter : store.writer = some call) : call ∉ order := by
  rw [h.finished]
  rcases (h.holder call).mp hwriter with hphase | ⟨_, hphase⟩
  · simp [hphase]
  · simp [hphase]

theorem begins (h : StoreSound calls store order events) {call : ℕ} (hfree : store.writer = none)
    (hwaiting : store.phase call = .waiting) :
    StoreSound calls { store.setPhase call .locked with writer := some call } order events where
  chain := h.chain
  bound := h.bound
  nodup := h.nodup
  finished other := by
    rw [h.finished]
    by_cases hother : other = call
    · simp [hother, hwaiting]
    · rw [AuditStore.setPhase_of_ne store .locked hother]
  writer other event hinserted := by
    by_cases hother : other = call
    · simp [hother] at hinserted
    · rw [AuditStore.setPhase_of_ne store .locked hother] at hinserted
      exact h.writer other event hinserted
  holder other := by
    by_cases hother : other = call
    · simp [hother]
    · rw [AuditStore.setPhase_of_ne store .locked hother, ← h.holder, hfree]
      simpa using Ne.symm hother

theorem inserts (h : StoreSound calls store order events) {call : ℕ}
    (hwriter : store.writer = some call) :
    StoreSound calls (store.setPhase call (.inserted
      (bindEvent (calls call).event (lastHash store.rows)))) order events where
  chain := h.chain
  bound := h.bound
  nodup := h.nodup
  finished other := by
    by_cases hother : other = call
    · have hopen := h.not_mem_of_writer hwriter
      simp [hother, hopen]
    · rw [AuditStore.setPhase_of_ne _ _ hother, h.finished]
  writer other event hinserted := by
    by_cases hother : other = call
    · subst hother
      rw [AuditStore.setPhase_self, AppendPhase.inserted.injEq] at hinserted
      exact hinserted.symm
    · rw [AuditStore.setPhase_of_ne _ _ hother] at hinserted
      exact h.writer other event hinserted
  holder other := by
    by_cases hother : other = call
    · simp [hother, hwriter]
    · rw [AuditStore.setPhase_of_ne _ _ hother, AuditStore.setPhase_writer, h.holder]

theorem commits (h : StoreSound calls store order events) {call : ℕ} {event : ChainedEvent}
    (hwriter : store.writer = some call) (hinserted : store.phase call = .inserted event) :
    StoreSound calls
      { store.setPhase call .done with rows := store.rows ++ [event.payload], writer := none }
      (order ++ [call]) (events ++ [event]) := by
  have hopen := h.not_mem_of_writer hwriter
  have hevent := h.writer call event hinserted
  have hchain := h.chain.append (calls call).event ⟨(calls call).entries, (calls call).metadata⟩
  rw [← hevent] at hchain
  have hbound : List.Forall₂ (fun call event => ∃ previousHash,
      event = bindEvent (calls call).event previousHash) (order ++ [call]) (events ++ [event]) :=
    List.rel_append h.bound (.cons ⟨_, hevent⟩ .nil)
  have hidle {other : ℕ} (hother : other ≠ call) :
      ¬ (store.phase other = .locked ∨ ∃ event, store.phase other = .inserted event) := by
    rw [← h.holder, hwriter]
    simpa using Ne.symm hother
  refine ⟨hchain, hbound, ?_, ?_, ?_, ?_⟩
  · rw [← List.concat_eq_append]
    exact h.nodup.concat hopen
  · intro other
    by_cases hother : other = call
    · simp [hother]
    · simp [AuditStore.setPhase_of_ne _ _ hother, h.finished, hother]
  · intro other inserted hphase
    by_cases hother : other = call
    · simp [hother] at hphase
    · rw [AuditStore.setPhase_of_ne store .done hother] at hphase
      exact absurd (.inr ⟨_, hphase⟩) (hidle hother)
  · intro other
    by_cases hother : other = call
    · simp [hother]
    · rw [AuditStore.setPhase_of_ne store .done hother]
      simpa using hidle hother

theorem rollsBack (h : StoreSound calls store order events) {call : ℕ}
    (hwriter : store.writer = some call) :
    StoreSound calls { store.setPhase call .failed with writer := none } order events where
  chain := h.chain
  bound := h.bound
  nodup := h.nodup
  finished other := by
    by_cases hother : other = call
    · have hopen := h.not_mem_of_writer hwriter
      simp [hother, hopen]
    · rw [AuditStore.setPhase_of_ne store .failed hother, h.finished]
  writer other event hinserted := by
    by_cases hother : other = call
    · simp [hother] at hinserted
    · rw [AuditStore.setPhase_of_ne store .failed hother] at hinserted
      exact h.writer other event hinserted
  holder other := by
    by_cases hother : other = call
    · simp [hother]
    · rw [AuditStore.setPhase_of_ne store .failed hother, ← h.holder, hwriter]
      simpa using Ne.symm hother

theorem step (h : StoreSound calls store order events) {next : AuditStore} {label : AppendStep}
    (hstep : appendStep calls store label = some next) :
    ∃ order events, StoreSound calls next order events := by
  cases label with
  | beginImmediate call =>
    rw [appendStep] at hstep
    split at hstep
    · rename_i hfree
      exact Option.some.inj hstep ▸ ⟨order, events, h.begins hfree.1 hfree.2⟩
    · nomatch hstep
  | insert call =>
    rw [appendStep] at hstep
    split at hstep
    · rename_i hopen
      exact Option.some.inj hstep ▸ ⟨order, events, h.inserts hopen.1⟩
    · nomatch hstep
  | commit call =>
    rw [appendStep] at hstep
    split at hstep
    · rename_i event hinserted
      split at hstep
      · rename_i hwriter
        exact Option.some.inj hstep ▸ ⟨_, _, h.commits hwriter hinserted⟩
      · nomatch hstep
    · nomatch hstep
  | rollback call =>
    rw [appendStep] at hstep
    split at hstep
    · rename_i hwriter
      exact Option.some.inj hstep ▸ ⟨order, events, h.rollsBack hwriter⟩
    · nomatch hstep

end StoreSound

end Store

/-! ## Two concurrent calls -/

namespace Sample

def twoCalls (call : ℕ) : LoggedEvent := runEvent (toString call)

/-- The second call commits, and the first one is rolled back. -/
def interleaved : List AppendStep :=
  [.beginImmediate 1, .insert 1, .commit 1, .beginImmediate 0, .rollback 0]

end Sample

end Rygnal.Audit
