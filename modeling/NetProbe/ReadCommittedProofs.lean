import Mathlib.Data.Fintype.Defs
import Mathlib.Logic.Function.Basic
import NetProbe.RunProofs
import NetProbe.TransactionProofs

/-!
# Interleaved transactions under READ COMMITTED with row locks

Many transaction programs run against one committed store.  The scheduler interleaves them
statement by statement; what a transaction has written is private to it until it commits.

* A statement **begins** by finding its rows in what it can see: the committed store at that
  moment with the transaction's own writes on top.
* It **finishes** once every row it found is unlocked or locked by the same transaction.  It
  then takes these locks, and its effect and its answer are computed from the rows it found
  and from what is visible now (a row found is read in its latest committed version).  A
  plain SELECT finds no row to lock, so it never waits and sees the store of that moment.
* A **commit** publishes all writes at once and releases the locks; a **rollback** (an
  exception of the program, a failed statement, a deadlock victim, a lost connection) drops
  the writes and releases the locks.  It can happen to an active transaction at any moment.

`Step` is the relation, `next` the same as a function, so that a schedule can be evaluated.

A row that is written with a reference to another row also holds a shared lock on that one until
its transaction ends.  These locks are not in the lock table: with them fewer schedules are
possible, and a schedule that they allow is one whose states are all `RefsFree`.

The main rule is for programs that all take one and the same lock with their first statement
(`OneLock`): then every commit is a serial execution of its whole program on the store it
replaces (`serial_commit`), and a transaction that has not passed its first statement has
seen nothing (`Serial`).  So a property of interleaved runs is a property of the programs
run alone, one after another.
-/

namespace ReadCommitted

open Transaction Transaction.Txn LabelledRun

variable {τ κ σ ω ε α : Type}

/-- A transaction in progress: what remains of its program, the rows found by the statement
    it is waiting in, its uncommitted writes and the number of statements it completed. -/
structure Active (κ σ ω ε α : Type) where
  prog : Txn κ σ ω ε α
  found : Option (List κ)
  write : σ → σ
  done : Nat

/-- A transaction that has not executed anything. -/
def Active.start (p : Txn κ σ ω ε α) : Active κ σ ω ε α := ⟨p, none, id, 0⟩

/-- The life of a transaction. -/
inductive Phase (κ σ ω ε α : Type) where
  | active (x : Active κ σ ω ε α)
  | committed (a : α)
  | rolledBack (e : Option ε)

/-- The database: the committed store, the lock table, the transactions, the events. -/
structure Db (τ κ σ ω ε α : Type) where
  store : σ
  owner : κ → Option τ
  phase : τ → Phase κ σ ω ε α
  log : List ω

/-- What the scheduler lets happen next. -/
inductive Act (τ : Type) where
  | begin (t : τ)
  | finish (t : τ)
  | emit (t : τ)
  | commit (t : τ)
  | rollback (t : τ)

/-- All transactions at their start over a committed store. -/
def initial (P : τ → Txn κ σ ω ε α) (s : σ) : Db τ κ σ ω ε α where
  store := s
  owner := fun _ => none
  phase := fun t => .active (.start (P t))
  log := []

/-- Move one transaction: its new phase, with the store, the lock table and the events the
    step leaves. -/
def Db.move [DecidableEq τ] (db : Db τ κ σ ω ε α) (t : τ) (ph : Phase κ σ ω ε α)
    (store : σ) (owner : κ → Option τ) (log : List ω) : Db τ κ σ ω ε α where
  store := store
  owner := owner
  phase := Function.update db.phase t ph
  log := log

/-- The lock table after `t` took the locks on `ks`. -/
def lockAll [DecidableEq κ] (owner : κ → Option τ) (t : τ) (ks : List κ) : κ → Option τ :=
  fun key => if key ∈ ks then some t else owner key

/-- The lock table after `t` released its locks. -/
def release [DecidableEq τ] (owner : κ → Option τ) (t : τ) : κ → Option τ :=
  fun key => if owner key = some t then none else owner key

/-- One scheduling step. -/
inductive Step [DecidableEq τ] [DecidableEq κ] :
    Db τ κ σ ω ε α → Act τ → Db τ κ σ ω ε α → Prop where
  | begin {db : Db τ κ σ ω ε α} {t : τ} {x : Active κ σ ω ε α} {found : σ → List κ}
      {effect : List κ → σ → σ → σ} {k : List κ → σ → Txn κ σ ω ε α}
      (hx : db.phase t = .active x) (hf : x.found = none)
      (hp : x.prog = .stmt found effect k) :
      Step db (.begin t)
        (db.move t (.active { x with found := some (found (x.write db.store)) })
          db.store db.owner db.log)
  | finish {db : Db τ κ σ ω ε α} {t : τ} {x : Active κ σ ω ε α} {found : σ → List κ}
      {effect : List κ → σ → σ → σ} {k : List κ → σ → Txn κ σ ω ε α} {ks : List κ}
      (hx : db.phase t = .active x) (hf : x.found = some ks)
      (hp : x.prog = .stmt found effect k)
      (hfree : ∀ key ∈ ks, db.owner key = none ∨ db.owner key = some t) :
      Step db (.finish t)
        (db.move t (.active
            { prog := k ks (x.write db.store)
              found := none
              write := effect ks (x.write db.store) ∘ x.write
              done := x.done + 1 })
          db.store (lockAll db.owner t ks) db.log)
  | emit {db : Db τ κ σ ω ε α} {t : τ} {x : Active κ σ ω ε α} {o : ω} {k : Txn κ σ ω ε α}
      (hx : db.phase t = .active x) (hf : x.found = none) (hp : x.prog = .emit o k) :
      Step db (.emit t)
        (db.move t (.active { x with prog := k }) db.store db.owner (db.log ++ [o]))
  | commit {db : Db τ κ σ ω ε α} {t : τ} {x : Active κ σ ω ε α} {a : α}
      (hx : db.phase t = .active x) (hf : x.found = none) (hp : x.prog = .ret a) :
      Step db (.commit t)
        (db.move t (.committed a) (x.write db.store) (release db.owner t) db.log)
  | rollback {db : Db τ κ σ ω ε α} {t : τ} {x : Active κ σ ω ε α} {e : Option ε}
      (hx : db.phase t = .active x) (he : ∀ e', x.prog = .raise e' → e = some e') :
      Step db (.rollback t)
        (db.move t (.rolledBack e) db.store (release db.owner t) db.log)

/-- The same step, computed. -/
def next [DecidableEq τ] [DecidableEq κ] (db : Db τ κ σ ω ε α) : Act τ → Option (Db τ κ σ ω ε α)
  | .begin t =>
      match db.phase t with
      | .active x =>
          match x.found, x.prog with
          | none, .stmt found _ _ =>
              some (db.move t (.active { x with found := some (found (x.write db.store)) })
                db.store db.owner db.log)
          | _, _ => none
      | _ => none
  | .finish t =>
      match db.phase t with
      | .active x =>
          match x.found, x.prog with
          | some ks, .stmt _ effect k =>
              if ∀ key ∈ ks, db.owner key = none ∨ db.owner key = some t then
                some (db.move t (.active
                    { prog := k ks (x.write db.store)
                      found := none
                      write := effect ks (x.write db.store) ∘ x.write
                      done := x.done + 1 })
                  db.store (lockAll db.owner t ks) db.log)
              else none
          | _, _ => none
      | _ => none
  | .emit t =>
      match db.phase t with
      | .active x =>
          match x.found, x.prog with
          | none, .emit o k =>
              some (db.move t (.active { x with prog := k }) db.store db.owner (db.log ++ [o]))
          | _, _ => none
      | _ => none
  | .commit t =>
      match db.phase t with
      | .active x =>
          match x.found, x.prog with
          | none, .ret a =>
              some (db.move t (.committed a) (x.write db.store) (release db.owner t) db.log)
          | _, _ => none
      | _ => none
  | .rollback t =>
      match db.phase t with
      | .active x =>
          let e := match x.prog with
            | .raise e => some e
            | _ => none
          some (db.move t (.rolledBack e) db.store (release db.owner t) db.log)
      | _ => none

/-- A computed step is a step. -/
theorem step_of_next [DecidableEq τ] [DecidableEq κ] {db db' : Db τ κ σ ω ε α} {act : Act τ}
    (h : next db act = some db') :
    Step db act db' := by
  cases act with
  | begin t =>
      simp only [next] at h
      split at h
      · rename_i x hx
        split at h
        · rename_i found effect k hf hp
          cases h
          exact .begin hx hf hp
        · cases h
      · cases h
  | finish t =>
      simp only [next] at h
      split at h
      · rename_i x hx
        split at h
        · rename_i ks found effect k hf hp
          split at h
          · rename_i hfree
            cases h
            exact .finish hx hf hp hfree
          · cases h
        · cases h
      · cases h
  | emit t =>
      simp only [next] at h
      split at h
      · rename_i x hx
        split at h
        · rename_i o k hf hp
          cases h
          exact .emit hx hf hp
        · cases h
      · cases h
  | commit t =>
      simp only [next] at h
      split at h
      · rename_i x hx
        split at h
        · rename_i a hf hp
          cases h
          exact .commit hx hf hp
        · cases h
      · cases h
  | rollback t =>
      simp only [next] at h
      split at h
      · rename_i x hx
        cases h
        refine .rollback hx fun e' he' => ?_
        rw [he']
      · cases h

/-- A computed schedule is a run. -/
theorem run_of_exec [DecidableEq τ] [DecidableEq κ] {db db' : Db τ κ σ ω ε α} {acts : List (Act τ)}
    (h : exec next db acts = some db') : Run Step db acts db' :=
  .of_exec (fun _ _ _ => step_of_next) h

/-- The computed step where a condition is met. -/
def nextWhere [DecidableEq τ] [DecidableEq κ] (C : Db τ κ σ ω ε α → Act τ → Prop)
    [∀ db act, Decidable (C db act)] (db : Db τ κ σ ω ε α) (act : Act τ) :
    Option (Db τ κ σ ω ε α) :=
  if C db act then next db act else none

/-- A computed schedule whose steps all meet a condition. -/
theorem run_of_exec_where [DecidableEq τ] [DecidableEq κ] {C : Db τ κ σ ω ε α → Act τ → Prop}
    [∀ db act, Decidable (C db act)] {db db' : Db τ κ σ ω ε α} {acts : List (Act τ)}
    (h : exec (nextWhere C) db acts = some db') : Run (Restrict Step C) db acts db' := by
  refine .of_exec (fun m act m' hm => ?_) h
  rw [nextWhere] at hm
  split at hm
  next hmeets => exact ⟨hmeets, step_of_next hm⟩
  next => cases hm

-- ── Rows that refer to others ─────────────────────────────────────────────────────

section References

variable (refs : σ → σ → List κ)

/-- The rows that the uncommitted writes of a transaction refer to: `refs s v` are those that the
    rows of `v` refer to and those of `s` do not. -/
def Phase.refersTo (s : σ) : Phase κ σ ω ε α → List κ
  | .active x => refs s (x.write s)
  | _ => []

/-- Nobody holds the lock of a row that another transaction refers to. -/
def RefsFree (db : Db τ κ σ ω ε α) : Prop :=
  ∀ t, ∀ key ∈ (db.phase t).refersTo refs db.store, db.owner key = none ∨ db.owner key = some t

instance [Fintype τ] [DecidableEq τ] (db : Db τ κ σ ω ε α) : Decidable (RefsFree refs db) :=
  inferInstanceAs (Decidable (∀ t, ∀ key ∈ (db.phase t).refersTo refs db.store, _))

end References

-- ── Frame: what a step leaves alone ───────────────────────────────────────────────

/-- The transaction a scheduling step is about. -/
def Act.tid : Act τ → τ
  | .begin t | .finish t | .emit t | .commit t | .rollback t => t

section Frame

variable [DecidableEq τ]

@[simp] theorem move_phase_self (db : Db τ κ σ ω ε α) (t : τ) (ph : Phase κ σ ω ε α) (st : σ)
    (ow : κ → Option τ) (lg : List ω) : (db.move t ph st ow lg).phase t = ph :=
  Function.update_self ..

theorem move_phase_other (db : Db τ κ σ ω ε α) {t t' : τ} (ph : Phase κ σ ω ε α) (st : σ)
    (ow : κ → Option τ) (lg : List ω) (h : t' ≠ t) :
    (db.move t ph st ow lg).phase t' = db.phase t' :=
  Function.update_of_ne h ..

@[simp] theorem move_owner (db : Db τ κ σ ω ε α) (t : τ) (ph : Phase κ σ ω ε α) (st : σ)
    (ow : κ → Option τ) (lg : List ω) : (db.move t ph st ow lg).owner = ow := rfl

theorem release_other {owner : κ → Option τ} {t t' : τ} {key : κ} (ht : t' ≠ t)
    (h : owner key = some t') : release owner t key = some t' := by
  rw [release]
  rw [if_neg]
  · exact h
  · rw [h]
    intro he
    exact ht (Option.some.inj he)

theorem release_inv {owner : κ → Option τ} {t t' : τ} {key : κ}
    (h : release owner t key = some t') : t' ≠ t ∧ owner key = some t' := by
  rw [release] at h
  by_cases hk : owner key = some t
  · rw [if_pos hk] at h
    cases h
  · rw [if_neg hk] at h
    refine ⟨?_, h⟩
    rintro rfl
    exact hk h

variable [DecidableEq κ]

/-- A step moves one transaction and leaves the others where they are. -/
theorem Step.phase_other {db db' : Db τ κ σ ω ε α} {act : Act τ} (h : Step db act db') {t : τ}
    (ht : t ≠ act.tid) : db'.phase t = db.phase t := by
  cases h <;> exact move_phase_other _ _ _ _ _ ht

/-- What a step does to the view of the transaction it moves if that stays active: over the
    committed store `s`, taking the locks `ks`. -/
inductive Moves (s : σ) : Act τ → List κ → Active κ σ ω ε α → Active κ σ ω ε α → Prop where
  | begin {t : τ} {x : Active κ σ ω ε α} {found : σ → List κ} {effect : List κ → σ → σ → σ}
      {k : List κ → σ → Txn κ σ ω ε α} (hf : x.found = none) (hp : x.prog = .stmt found effect k) :
      Moves s (.begin t) [] x { x with found := some (found (x.write s)) }
  | finish {t : τ} {x : Active κ σ ω ε α} {found : σ → List κ} {effect : List κ → σ → σ → σ}
      {k : List κ → σ → Txn κ σ ω ε α} {ks : List κ} (hf : x.found = some ks)
      (hp : x.prog = .stmt found effect k) :
      Moves s (.finish t) ks x
        { prog := k ks (x.write s)
          found := none
          write := effect ks (x.write s) ∘ x.write
          done := x.done + 1 }
  | emit {t : τ} {x : Active κ σ ω ε α} {o : ω} {k : Txn κ σ ω ε α} (hf : x.found = none)
      (hp : x.prog = .emit o k) : Moves s (.emit t) [] x { x with prog := k }

/-- The step of a transaction that stays active: it was active, and the store is untouched. -/
theorem Step.moves {db db' : Db τ κ σ ω ε α} {act : Act τ} (h : Step db act db')
    {y : Active κ σ ω ε α} (hy : db'.phase act.tid = .active y) :
    ∃ x ks, db.phase act.tid = .active x ∧ db'.store = db.store ∧
      db'.owner = lockAll db.owner act.tid ks ∧ Moves db.store act ks x y := by
  have hnone : db.owner = lockAll db.owner act.tid [] := by
    funext key
    simp [lockAll]
  cases h with
  | begin hx hf hp =>
      cases (move_phase_self ..).symm.trans hy
      exact ⟨_, _, hx, rfl, hnone, .begin hf hp⟩
  | finish hx hf hp hfree =>
      cases (move_phase_self ..).symm.trans hy
      exact ⟨_, _, hx, rfl, rfl, .finish hf hp⟩
  | emit hx hf hp =>
      cases (move_phase_self ..).symm.trans hy
      exact ⟨_, _, hx, rfl, hnone, .emit hf hp⟩
  | commit hx hf hp => cases (move_phase_self ..).symm.trans hy
  | rollback hx he => cases (move_phase_self ..).symm.trans hy

/-- A transaction that has ended does not move again. -/
theorem Step.committed_stays {db db' : Db τ κ σ ω ε α} {act : Act τ} (h : Step db act db')
    {t : τ} {a : α} (hc : db.phase t = .committed a) : db'.phase t = .committed a := by
  have hne : t ≠ act.tid := by
    rintro rfl
    cases h <;> simp_all [Act.tid]
  rw [h.phase_other hne]
  exact hc

theorem Run.committed_stays {db db' : Db τ κ σ ω ε α} {acts : List (Act τ)}
    (h : Run Step db acts db') {t : τ} {a : α} (hc : db.phase t = .committed a) :
    db'.phase t = .committed a := by
  induction h with
  | nil s => exact hc
  | cons hstep _ ih => exact ih (hstep.committed_stays hc)

/-- A transaction that is active was active before. -/
theorem Step.active_before {db db' : Db τ κ σ ω ε α} {act : Act τ} (h : Step db act db') {t : τ}
    {x : Active κ σ ω ε α} (hx : db'.phase t = .active x) : ∃ y, db.phase t = .active y := by
  by_cases ht : t = act.tid
  · subst ht
    obtain ⟨y, -, hy, -⟩ := h.moves hx
    exact ⟨y, hy⟩
  · rw [h.phase_other ht] at hx
    exact ⟨x, hx⟩

theorem Run.active_before {db db' : Db τ κ σ ω ε α} {acts : List (Act τ)}
    (h : Run Step db acts db') {t : τ} {x : Active κ σ ω ε α} (hx : db'.phase t = .active x) :
    ∃ y, db.phase t = .active y := by
  induction h generalizing x with
  | nil s => exact ⟨x, hx⟩
  | cons hstep _ ih =>
      obtain ⟨y, hy⟩ := ih hx
      exact hstep.active_before hy

end Frame

section Locks

variable [DecidableEq κ]

theorem lockAll_mem {owner : κ → Option τ} {t : τ} {ks : List κ} {key : κ} (h : key ∈ ks) :
    lockAll owner t ks key = some t := by
  simp [lockAll, h]

/-- The locks of the other transactions are not touched by taking free locks. -/
theorem lockAll_other {owner : κ → Option τ} {t t' : τ} {ks : List κ} {key : κ}
    (hfree : ∀ key ∈ ks, owner key = none ∨ owner key = some t) (ht : t' ≠ t)
    (h : owner key = some t') : lockAll owner t ks key = some t' := by
  rw [lockAll]
  by_cases hk : key ∈ ks
  · rcases hfree key hk with hn | hs
    · rw [h] at hn
      cases hn
    · rw [h] at hs
      exact absurd (Option.some.inj hs) ht
  · rw [if_neg hk]
    exact h

theorem lockAll_self {owner : κ → Option τ} {t : τ} {ks : List κ} {key : κ}
    (h : owner key = some t) : lockAll owner t ks key = some t := by
  rw [lockAll]
  by_cases hk : key ∈ ks
  · rw [if_pos hk]
  · rw [if_neg hk]
    exact h

end Locks

-- ── Rules for many transactions ───────────────────────────────────────────────────

section Rules

/-- Every active transaction can only commit to its postcondition. -/
def Promised (Q : τ → α → (σ → σ) → Prop) (db : Db τ κ σ ω ε α) : Prop :=
  ∀ t x, db.phase t = .active x → Always (Q t) x.prog x.write

theorem promised_initial {Q : τ → α → (σ → σ) → Prop} {P : τ → Txn κ σ ω ε α} {s : σ}
    (h : ∀ t, Always (Q t) (P t) id) : Promised Q (initial P s) := by
  intro t x hx
  have hxe : x = .start (P t) := (Phase.active.inj hx).symm
  subst hxe
  exact h t

variable [DecidableEq τ] [DecidableEq κ]

/-- A transaction keeps its locks for as long as it is active, whoever moves. -/
theorem Step.owner_of_active {db db' : Db τ κ σ ω ε α} {act : Act τ} (h : Step db act db')
    {key : κ} {t : τ} (ho : db.owner key = some t) {x : Active κ σ ω ε α}
    (hx : db'.phase t = .active x) : db'.owner key = some t := by
  cases h with
  | begin hy hf hp => exact ho
  | emit hy hf hp => exact ho
  | @finish t' y found effect k ks hy hf hp hfree =>
      by_cases ht : t = t'
      · subst ht
        exact lockAll_self ho
      · exact lockAll_other hfree ht ho
  | @commit t' y a hy hf hp =>
      by_cases ht : t = t'
      · subst ht
        rw [move_phase_self] at hx
        cases hx
      · exact release_other ht ho
  | @rollback t' y e hy he =>
      by_cases ht : t = t'
      · subst ht
        rw [move_phase_self] at hx
        cases hx
      · exact release_other ht ho

/-- **Promises are kept.** What a program commits to is fixed by its text: no interleaving
    changes it. -/
theorem Promised.step {Q : τ → α → (σ → σ) → Prop} {db db' : Db τ κ σ ω ε α} {act : Act τ}
    (h : Promised Q db) (hs : Step db act db') : Promised Q db' := by
  intro t x hx
  by_cases ht : t = act.tid
  · subst ht
    obtain ⟨y, ks, hy, -, -, hmoves⟩ := hs.moves hx
    have hall := h _ y hy
    cases hmoves with
    | begin hf hp => exact hall
    | finish hf hp =>
        rw [hp, always_stmt] at hall
        exact hall ks (y.write db.store)
    | emit hf hp =>
        rw [hp, always_emit] at hall
        exact hall
  · rw [hs.phase_other ht] at hx
    exact h t x hx

end Rules

-- ── One common lock: commits are serial executions ────────────────────────────────

section OneLock

variable {key : κ} {P : τ → Txn κ σ ω ε α} {J : σ → Prop}

/-- Every program locks `key` with its first statement, whatever store satisfying `J` it
    meets, and `J` is kept by every program run alone. -/
structure OneLock (key : κ) (P : τ → Txn κ σ ω ε α) (J : σ → Prop) : Prop where
  first : ∀ t, ∃ found effect k, P t = .stmt found effect k ∧ ∀ s, J s → found s = [key]
  keep : ∀ t s a s', J s → (P t).eval s = .ok (a, s') → J s'

/-- A transaction before the end of its first statement: it has read and written nothing. -/
def Outside (key : κ) (p : Txn κ σ ω ε α) (x : Active κ σ ω ε α) : Prop :=
  x.prog = p ∧ x.write = id ∧ x.done = 0 ∧ ∀ ks, x.found = some ks → ks = [key]

/-- A transaction that holds the common lock.  What it will still do from its own view is
    what its whole program would do, run alone on the committed store. -/
def Inside (p : Txn κ σ ω ε α) (s : σ) (x : Active κ σ ω ε α) : Prop :=
  0 < x.done ∧ p.eval s = x.prog.eval (x.write s) ∧
    ∀ ks found effect k, x.found = some ks → x.prog = .stmt found effect k →
      ks = found (x.write s)

/-- The invariant of a system with one common lock. -/
structure Serial (key : κ) (P : τ → Txn κ σ ω ε α) (J : σ → Prop) (db : Db τ κ σ ω ε α) :
    Prop where
  store : J db.store
  active : ∀ t x, db.phase t = .active x →
    Outside key (P t) x ∨ (db.owner key = some t ∧ Inside (P t) db.store x)
  owner : ∀ t, db.owner key = some t → ∃ x, db.phase t = .active x ∧ 0 < x.done

theorem serial_initial {s : σ} (hs : J s) : Serial key P J (initial P s) where
  store := hs
  active := by
    intro t x hx
    have hxe : x = .start (P t) := (Phase.active.inj hx).symm
    subst hxe
    refine Or.inl ⟨rfl, rfl, rfl, ?_⟩
    intro ks hks
    cases hks
  owner := by
    intro t ht
    cases ht

/-- A transaction other than the lock holder is outside. -/
theorem Serial.outside_of_owner {db : Db τ κ σ ω ε α} (h : Serial key P J db) {t t' : τ}
    (ho : db.owner key = some t) (hne : t' ≠ t) {x : Active κ σ ω ε α}
    (hx : db.phase t' = .active x) : Outside key (P t') x := by
  rcases h.active t' x hx with hout | ⟨hown, -⟩
  · exact hout
  · rw [ho] at hown
    exact absurd (Option.some.inj hown).symm hne

/-- A transaction with a completed statement holds the common lock. -/
theorem Serial.owner_of_done {db : Db τ κ σ ω ε α} (h : Serial key P J db) {t : τ}
    {x : Active κ σ ω ε α} (hx : db.phase t = .active x) (hd : 0 < x.done) :
    db.owner key = some t := by
  rcases h.active t x hx with ⟨-, -, h0, -⟩ | ⟨hown, -⟩
  · omega
  · exact hown

/-- The transaction that commits is the holder of the common lock, and its commit is its
    whole program run alone on the committed store. -/
theorem Serial.commit_eval (hP : OneLock key P J) {db : Db τ κ σ ω ε α}
    (h : Serial key P J db) {t : τ} {x : Active κ σ ω ε α} {a : α}
    (hx : db.phase t = .active x) (hp : x.prog = .ret a) :
    db.owner key = some t ∧ (P t).eval db.store = .ok (a, x.write db.store) := by
  rcases h.active t x hx with ⟨hprog, -⟩ | ⟨hown, -, heval, -⟩
  · obtain ⟨found, effect, k, hPt, -⟩ := hP.first t
    rw [hprog, hPt] at hp
    cases hp
  · refine ⟨hown, ?_⟩
    rw [heval, hp]
    rfl

section Views

variable {t : τ} {x : Active κ σ ω ε α} {s : σ} {p : Txn κ σ ω ε α} {found : σ → List κ}
  {effect : List κ → σ → σ → σ} {k : List κ → σ → Txn κ σ ω ε α} {ks : List κ}

/-- The first statement finds the common lock. -/
theorem Outside.begin (hP : OneLock key P J) (hs : J s) (h : Outside key (P t) x)
    (hp : x.prog = .stmt found effect k) :
    Outside key (P t) { x with found := some (found (x.write s)) } := by
  obtain ⟨hprog, hw, hd, -⟩ := h
  refine ⟨hprog, hw, hd, ?_⟩
  intro ks hks
  obtain ⟨found', effect', k', hPt, hfound⟩ := hP.first t
  rw [hPt, hp] at hprog
  cases hprog
  rw [← Option.some.inj hks, hw]
  exact hfound _ hs

theorem Inside.begin (h : Inside p s x) (hp : x.prog = .stmt found effect k) :
    Inside p s { x with found := some (found (x.write s)) } := by
  obtain ⟨hd, heval, -⟩ := h
  refine ⟨hd, heval, ?_⟩
  intro ks found' effect' k' hks hp'
  rw [hp] at hp'
  cases hp'
  exact (Option.some.inj hks).symm

/-- The end of the first statement: from here on the transaction holds the common lock. -/
theorem Outside.finish (hP : OneLock key P J) (hs : J s) (h : Outside key (P t) x)
    (hf : x.found = some ks) (hp : x.prog = .stmt found effect k) :
    Inside (P t) s
      { prog := k ks (x.write s)
        found := none
        write := effect ks (x.write s) ∘ x.write
        done := x.done + 1 } := by
  obtain ⟨hprog, hw, -, hks⟩ := h
  obtain ⟨found', effect', k', hPt, hfound⟩ := hP.first t
  have hsame := hprog
  rw [hPt, hp] at hsame
  cases hsame
  refine ⟨Nat.succ_pos _, ?_, fun ks' found' effect' k' hks' => by cases hks'⟩
  rw [hPt, eval_stmt, hw, hks ks hf, hfound _ hs]
  rfl

theorem Inside.finish (h : Inside p s x) (hf : x.found = some ks)
    (hp : x.prog = .stmt found effect k) :
    Inside p s
      { prog := k ks (x.write s)
        found := none
        write := effect ks (x.write s) ∘ x.write
        done := x.done + 1 } := by
  obtain ⟨-, heval, hks⟩ := h
  refine ⟨Nat.succ_pos _, ?_, fun ks' found' effect' k' hks' => by cases hks'⟩
  rw [heval, hp, eval_stmt, hks ks found effect k hf hp]
  rfl

theorem Inside.emit {o : ω} {k : Txn κ σ ω ε α} (h : Inside p s x) (hf : x.found = none)
    (hp : x.prog = .emit o k) : Inside p s { x with prog := k } := by
  obtain ⟨hd, heval, -⟩ := h
  refine ⟨hd, ?_, ?_⟩
  · rw [heval, hp]
    rfl
  · intro ks found effect k' hks
    rw [show x.found = some ks from hks] at hf
    cases hf

end Views

variable [DecidableEq τ]

/-- A step that leaves the store and the locks alone keeps the invariant if the transaction
    that moves does. -/
theorem Serial.move {db : Db τ κ σ ω ε α} (h : Serial key P J db) {t : τ}
    {x y : Active κ σ ω ε α} {log : List ω} (hx : db.phase t = .active x)
    (hdone : y.done = x.done)
    (hview : Outside key (P t) y ∨ (db.owner key = some t ∧ Inside (P t) db.store y)) :
    Serial key P J (db.move t (.active y) db.store db.owner log) := by
  refine ⟨h.store, ?_, ?_⟩
  · intro t' z hz
    by_cases ht : t' = t
    · subst ht
      rw [move_phase_self] at hz
      cases hz
      exact hview
    · rw [move_phase_other _ _ _ _ _ ht] at hz
      exact h.active t' z hz
  · intro t' ht'
    obtain ⟨z, hz, hd⟩ := h.owner t' ht'
    by_cases ht : t' = t
    · subst ht
      rw [hx] at hz
      cases hz
      exact ⟨y, move_phase_self .., by rw [hdone]; exact hd⟩
    · exact ⟨z, by rw [move_phase_other _ _ _ _ _ ht]; exact hz, hd⟩

variable [DecidableEq κ]

/-- The step lemma of the invariant. -/
theorem Serial.step (hP : OneLock key P J) {db db' : Db τ κ σ ω ε α} {act : Act τ}
    (h : Serial key P J db) (hs : Step db act db') : Serial key P J db' := by
  cases hs with
  | @begin t x found effect k hx hf hp =>
      refine h.move hx rfl ?_
      rcases h.active t x hx with hout | ⟨hown, hin⟩
      · exact Or.inl (hout.begin hP h.store hp)
      · exact Or.inr ⟨hown, hin.begin hp⟩
  | @finish t x found effect k ks hx hf hp hfree =>
      have hkey : lockAll db.owner t ks key = some t := by
        rcases h.active t x hx with ⟨-, -, -, hks⟩ | ⟨hown, -⟩
        · exact lockAll_mem (by simp [hks ks hf])
        · exact lockAll_self hown
      refine ⟨h.store, ?_, ?_⟩
      · intro t' y hy
        by_cases ht : t' = t
        · subst ht
          rw [move_phase_self] at hy
          cases hy
          refine Or.inr ⟨hkey, ?_⟩
          rcases h.active t' x hx with hout | ⟨-, hin⟩
          · exact hout.finish hP h.store hf hp
          · exact hin.finish hf hp
        · rw [move_phase_other _ _ _ _ _ ht] at hy
          rcases h.active t' y hy with hout | ⟨hown, -⟩
          · exact Or.inl hout
          · -- the other holder would have kept `t` from taking the lock
            have := lockAll_other hfree ht hown
            rw [hkey] at this
            exact absurd (Option.some.inj this).symm ht
      · intro t' ht'
        have htt : t' = t := by
          rw [move_owner, hkey] at ht'
          exact (Option.some.inj ht').symm
        subst htt
        exact ⟨_, move_phase_self .., Nat.succ_pos _⟩
  | @emit t x o k hx hf hp =>
      refine h.move hx rfl ?_
      rcases h.active t x hx with ⟨hprog, -⟩ | ⟨hown, hin⟩
      · obtain ⟨found, effect, k', hPt, -⟩ := hP.first t
        rw [hprog, hPt] at hp
        cases hp
      · exact Or.inr ⟨hown, hin.emit hf hp⟩
  | @commit t x a hx hf hp =>
      obtain ⟨hown, heval⟩ := h.commit_eval hP hx hp
      refine ⟨hP.keep t _ _ _ h.store heval, ?_, ?_⟩
      · intro t' y hy
        by_cases ht : t' = t
        · subst ht
          rw [move_phase_self] at hy
          cases hy
        · rw [move_phase_other _ _ _ _ _ ht] at hy
          exact Or.inl (h.outside_of_owner hown ht hy)
      · intro t' ht'
        obtain ⟨hne, ho⟩ := release_inv ht'
        rw [hown] at ho
        exact absurd (Option.some.inj ho).symm hne
  | @rollback t x e hx he =>
      refine ⟨h.store, ?_, ?_⟩
      · intro t' y hy
        by_cases ht : t' = t
        · subst ht
          rw [move_phase_self] at hy
          cases hy
        · rw [move_phase_other _ _ _ _ _ ht] at hy
          rcases h.active t' y hy with hout | ⟨hown, hin⟩
          · exact Or.inl hout
          · exact Or.inr ⟨release_other ht hown, hin⟩
      · intro t' ht'
        obtain ⟨hne, ho⟩ := release_inv ht'
        obtain ⟨y, hy, hd⟩ := h.owner t' ho
        exact ⟨y, by rw [move_phase_other _ _ _ _ _ hne]; exact hy, hd⟩

/-- **Every reachable database satisfies the invariant.** -/
theorem serial_run (hP : OneLock key P J) {db db' : Db τ κ σ ω ε α} {acts : List (Act τ)}
    (h : Serial key P J db) (hr : Run Step db acts db') : Serial key P J db' :=
  hr.invariant (I := Serial key P J) (fun _ _ _ hI hs => hI.step hP hs) h

/-- **Commits are serial executions.** A commit replaces the committed store by the result
    of running the whole program alone on it; every other step leaves the store alone. -/
theorem serial_commit (hP : OneLock key P J) {db db' : Db τ κ σ ω ε α} {act : Act τ}
    (h : Serial key P J db) (hs : Step db act db') :
    db'.store = db.store ∨
      ∃ t x a, act = .commit t ∧ db.phase t = .active x ∧ 0 < x.done ∧
        (P t).eval db.store = .ok (a, db'.store) ∧ db'.phase t = .committed a := by
  cases hs with
  | begin hx hf hp => exact Or.inl rfl
  | finish hx hf hp hfree => exact Or.inl rfl
  | emit hx hf hp => exact Or.inl rfl
  | rollback hx he => exact Or.inl rfl
  | @commit t x a hx hf hp =>
      obtain ⟨hown, heval⟩ := h.commit_eval hP hx hp
      obtain ⟨y, hy, hd⟩ := h.owner t hown
      rw [hx] at hy
      cases hy
      exact Or.inr ⟨t, x, a, rfl, hx, hd, heval, move_phase_self ..⟩

/-- After a commit nobody is past his first statement. -/
theorem Serial.all_outside_after_commit (hP : OneLock key P J) {db db' : Db τ κ σ ω ε α}
    (h : Serial key P J db) {t : τ} (hs : Step db (.commit t) db') :
    ∀ t' x, db'.phase t' = .active x → x.done = 0 := by
  have hS := h.step hP hs
  cases hs with
  | @commit _ x a hx hf hp =>
      obtain ⟨hown, -⟩ := h.commit_eval hP hx hp
      intro t' y hy
      by_contra hne
      obtain ⟨hne', ho⟩ := release_inv (hS.owner_of_done hy (Nat.pos_of_ne_zero hne))
      rw [hown] at ho
      exact hne' (Option.some.inj ho).symm

end OneLock

end ReadCommitted
