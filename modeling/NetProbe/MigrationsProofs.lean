import Mathlib.Data.Char
import Mathlib.Data.List.Lex
import Mathlib.Data.List.Sort
import NetProbe.JournalProofs
import NetProbe.PyTextProofs
import NetProbe.ReadCommittedProofs
import NetProbe.TableProofs

/-!
# Migrations

`app/db/migrations.py`.  A call of `migrate` makes sure that `schema_migrations` exists, in a
statement of its own, and does the rest in one transaction: it takes an advisory lock, reads the
recorded versions, and executes and records the files of the directory that are not among them.

What the SQL of a file does to the schema is a function that may fail, one for each file and
call, since the directory may differ from call to call.  The store remembers which files were
executed (`executed`); this history is part of it, so a rollback undoes it with the rest.

Any number of calls run interleaved, statement by statement (`MigrateStep`); a call can be ended
by an error at any moment.  Because the lock is taken before the versions are read, a commit is
the call run alone on the store it replaces, and the executed files are a journal into which
each committed call enters its directory (`journal_of_run`).
-/

namespace NetProbeMigrations

open NetProbePyText UniqueTable Transaction Transaction.Txn LabelledRun ReadCommitted Journal

-- ── The store and the directory ───────────────────────────────────────────────────

/-- The exceptions that end a call. -/
inductive MigrateError where
  | runtimeError
  | undefinedTable
  | dataError
  | uniqueViolation
  /-- The file cannot be read, or its SQL fails. -/
  | fileFailed
  deriving DecidableEq, Repr

/-- A file of the directory, and what its SQL does to the objects of the schema. -/
structure File (Ω : Type) where
  name : Str
  sql : Ω → Except MigrateError Ω

/-- The migrations directory as a call finds it: the names in a directory differ. -/
structure Directory (Ω : Type) where
  entries : List (File Ω)
  distinct : (entries.map (·.name)).Nodup

/-- The primary key of `schema_migrations`. -/
def versionClash (a b : Str) : Bool := a = b

/-- The committed state: whether `schema_migrations` exists, its rows, all other objects, and
    the files that have been executed. -/
structure Store (Ω : Type) where
  created : Bool
  versions : Table Str versionClash
  objects : Ω
  executed : List (File Ω)

/-- A database that has never been migrated. -/
def Store.fresh {Ω : Type} (objects : Ω) : Store Ω := ⟨false, .empty, objects, []⟩

/-- The names of the executed files. -/
def Store.journal {Ω : Type} (s : Store Ω) : List Str := s.executed.map (·.name)

/-- What a statement can lock: an advisory lock, or a value of the primary key. -/
inductive LockKey where
  | advisory (n : Int)
  | version (name : Str)
  deriving DecidableEq, Repr

/-- A part of the transaction of `migrate`. -/
abbrev MigrateTxn (Ω α : Type) : Type := Txn LockKey (Store Ω) Unit MigrateError α

-- ── The program ───────────────────────────────────────────────────────────────────

section Program

variable {Ω : Type}

/-- The file name matches `[0-9][0-9][0-9]_*.sql`. -/
def isMigration : Str → Bool
  | a :: b :: c :: '_' :: rest =>
      a.isDigit && b.isDigit && c.isDigit && (str ".sql").isSuffixOf rest
  | _ => false

/-- `sorted(MIGRATIONS_DIR.glob("[0-9][0-9][0-9]_*.sql"))` -/
def Directory.files (dir : Directory Ω) : List (File Ω) :=
  (dir.entries.filter fun f => isMigration f.name).insertionSort fun f g => f.name ≤ g.name

/-- The key of the advisory lock. -/
def migrationLock : LockKey := .advisory 684210731

/-- `SELECT pg_advisory_xact_lock($1)` -/
def advisoryXactLock (key : LockKey) : MigrateTxn Ω Unit :=
  query (fun _ => [key]) fun _ _ => .ok ((), id)

/-- `SELECT version FROM schema_migrations` -/
def selectVersions : MigrateTxn Ω (List Str) :=
  query (fun _ => []) fun _ v =>
    if v.created then .ok (v.versions.rows, id) else .error .undefinedTable

/-- `connection.execute(path.read_text(encoding="utf-8"))` -/
def executeFile (path : File Ω) : MigrateTxn Ω Unit :=
  query (fun _ => []) fun _ v =>
    match path.sql v.objects with
    | .error e => .error e
    | .ok objects =>
        .ok ((), fun s => { s with objects := objects, executed := s.executed ++ [path] })

/-- `INSERT INTO schema_migrations(version) VALUES($1)`, into a `varchar(100)` -/
def insertVersion (name : Str) : MigrateTxn Ω Unit :=
  query (fun _ => [.version name]) fun _ v =>
    if ¬ v.created then .error .undefinedTable
    else if 100 < name.length then .error .dataError
    else if v.versions.Accepts (· ++ [name]) then
      .ok ((), fun s => { s with versions := s.versions.alter (· ++ [name]) })
    else .error .uniqueViolation

/-- `for path in ...`: the files not known are executed, recorded and appended to `applied`. -/
def applyFiles (known_versions applied : List Str) : List (File Ω) → MigrateTxn Ω (List Str)
  | [] => return applied
  | path :: paths =>
      if known_versions.contains path.name then applyFiles known_versions applied paths
      else do
        executeFile path
        insertVersion path.name
        applyFiles known_versions (applied ++ [path.name]) paths

/-- `async with connection.transaction(): ...` -/
def migration (dir : Directory Ω) : MigrateTxn Ω (List Str) := do
  advisoryXactLock migrationLock
  let known_versions ← selectVersions
  applyFiles known_versions [] dir.files

/-- `CREATE TABLE IF NOT EXISTS schema_migrations ...` -/
def createTable (s : Store Ω) : Store Ω := { s with created := true }

/-- `migrate()` alone: its answer, and the store it leaves. -/
def migrate (database_enabled : Bool) (dir : Directory Ω) (s : Store Ω) :
    Except MigrateError (List Str) × Store Ω :=
  if database_enabled then
    ((migration dir).result (createTable s), (migration dir).perform (createTable s))
  else (.error .runtimeError, s)

end Program

-- ── A call alone ──────────────────────────────────────────────────────────────────

/-- The SQL of files, one after another. -/
def executeAll {Ω : Type} : List (File Ω) → Ω → Except MigrateError Ω
  | [], objects => .ok objects
  | f :: files, objects => (f.sql objects).bind (executeAll files)

/-- The files were executed in order and recorded. -/
structure Applied {Ω : Type} (files : List (File Ω)) (s s' : Store Ω) : Prop where
  created : s'.created = s.created
  executed : s'.executed = s.executed ++ files
  versions : s'.versions.rows = s.versions.rows ++ files.map (·.name)
  objects : executeAll files s.objects = .ok s'.objects

/-- The files of a directory that are not recorded. -/
def Directory.newFiles {Ω : Type} (dir : Directory Ω) (s : Store Ω) : List (File Ω) :=
  pending (·.name) s.versions.rows dir.files

/-- Neither the objects nor the recorded versions changed, and nothing was executed. -/
structure Unchanged {Ω : Type} (s s' : Store Ω) : Prop where
  executed : s'.executed = s.executed
  versions : s'.versions = s.versions
  objects : s'.objects = s.objects

/-- What a call that returns `applied` has done: it executed the files of its directory that
    were not recorded, in ascending order, and all files of the directory are recorded. -/
structure Migrates {Ω : Type} (dir : Directory Ω) (s s' : Store Ω) (applied : List Str) : Prop where
  executed : s'.executed = s.executed ++ dir.newFiles s
  returned : applied = (dir.newFiles s).map (·.name)
  ascending : applied.Pairwise (· < ·)
  recorded : ∀ f ∈ dir.files, f.name ∈ s'.versions.rows

section Alone

variable {Ω : Type} {s s' s'' : Store Ω} {dir : Directory Ω} {f : File Ω} {files : List (File Ω)}

theorem Applied.refl (s : Store Ω) : Applied [] s s :=
  ⟨rfl, (List.append_nil _).symm, (List.append_nil _).symm, rfl⟩

theorem Applied.cons (h : Applied [f] s s') (h' : Applied files s' s'') :
    Applied (f :: files) s s'' where
  created := h'.created.trans h.created
  executed := by rw [h'.executed, h.executed, List.append_assoc]; rfl
  versions := by rw [h'.versions, h.versions, List.append_assoc]; rfl
  objects := by
    have hf : (f.sql s.objects).bind .ok = .ok s'.objects := h.objects
    cases hsql : f.sql s.objects with
    | error e =>
        rw [hsql] at hf
        cases hf
    | ok objects =>
        rw [hsql] at hf
        obtain rfl : objects = s'.objects := Except.ok.inj hf
        rw [executeAll]
        rw [hsql]
        exact h'.objects

/-- A file that is executed and recorded. -/
theorem applied_file {u u' : Unit} (hexecute : (executeFile f).eval s = .ok (u, s'))
    (hinsert : (insertVersion f.name).eval s' = .ok (u', s'')) : Applied [f] s s'' := by
  rw [executeFile] at hexecute
  rw [insertVersion] at hinsert
  rw [eval_query] at hexecute hinsert
  cases hsql : f.sql s.objects with
  | error e =>
      rw [hsql] at hexecute
      cases hexecute
  | ok objects =>
      rw [hsql] at hexecute
      cases hexecute
      split at hinsert
      · cases hinsert
      · split at hinsert
        · cases hinsert
        · split at hinsert
          · rename_i hacc
            cases hinsert
            refine ⟨rfl, rfl, alter_rows hacc, ?_⟩
            rw [executeAll]
            rw [hsql]
            rfl
          · cases hinsert

/-- The loop, from `applied` on: the files not known are applied, in order. -/
theorem applyFiles_ok {known applied names : List Str}
    (h : (applyFiles known applied files).eval s = .ok (names, s')) :
    names = applied ++ (pending (·.name) known files).map (·.name) ∧
      Applied (pending (·.name) known files) s s' := by
  induction files generalizing applied s with
  | nil =>
      cases h
      exact ⟨(List.append_nil _).symm, .refl _⟩
  | cons path paths ih =>
      rw [applyFiles] at h
      by_cases hknown : path.name ∈ known
      · rw [if_pos (List.contains_iff_mem.mpr hknown)] at h
        rw [pending_cons_of_mem hknown]
        exact ih h
      · rw [if_neg fun hcontains => hknown (List.contains_iff_mem.mp hcontains)] at h
        rw [pending_cons_of_not_mem hknown]
        obtain ⟨u, s₁, hexecute, h⟩ := ok_of_eval_bind h
        obtain ⟨u', s₂, hinsert, h⟩ := ok_of_eval_bind h
        obtain ⟨hnames, happlied⟩ := ih h
        refine ⟨?_, (applied_file hexecute hinsert).cons happlied⟩
        rw [hnames, List.append_assoc]
        rfl

/-- **What a transaction of `migrate` does**, run alone, if it commits. -/
theorem migration_ok {names : List Str} (h : (migration dir).eval s = .ok (names, s')) :
    s.created = true ∧ names = (dir.newFiles s).map (·.name) ∧ Applied (dir.newFiles s) s s' := by
  rw [migration] at h
  obtain ⟨u, s₁, hlock, h⟩ := ok_of_eval_bind h
  obtain ⟨known, s₂, hselect, h⟩ := ok_of_eval_bind h
  rw [advisoryXactLock] at hlock
  rw [selectVersions] at hselect
  rw [eval_query] at hlock hselect
  cases hlock
  split at hselect
  · rename_i hcreated
    cases hselect
    exact ⟨hcreated, applyFiles_ok h⟩
  · cases hselect

/-- Known files are passed over. -/
theorem applyFiles_known {known applied : List Str} (h : ∀ f ∈ files, f.name ∈ known) :
    (applyFiles known applied files).eval s = .ok (applied, s) := by
  induction files with
  | nil => rfl
  | cons path paths ih =>
      rw [applyFiles]
      rw [if_pos (List.contains_iff_mem.mpr (h path (List.mem_cons_self ..)))]
      exact ih fun f hf => h f (List.mem_cons_of_mem _ hf)

/-- A directory all of whose files are recorded is done with at once. -/
theorem eval_migration_of_recorded (hcreated : s.created = true)
    (h : ∀ f ∈ dir.files, f.name ∈ s.versions.rows) :
    (migration dir).eval s = .ok ([], s) := by
  have hselect : (selectVersions : MigrateTxn Ω (List Str)).eval s = .ok (s.versions.rows, s) := by
    rw [selectVersions]
    rw [eval_query, if_pos hcreated]
    rfl
  have hstart : (migration dir).eval s =
      (selectVersions >>= fun known => applyFiles known [] dir.files).eval s := rfl
  rw [hstart, bind_eq, eval_bind_of_ok hselect]
  exact applyFiles_known h

/-- What holds of every committed state: the versions are the names of the executed files, and
    the objects are what these files made of the first ones. -/
structure Consistent {Ω : Type} (objects : Ω) (s : Store Ω) : Prop where
  recorded : s.versions.rows = s.journal
  built : executeAll s.executed objects = .ok s.objects

theorem executeAll_append {objects : Ω} {files' : List (File Ω)} :
    executeAll (files ++ files') objects = (executeAll files objects).bind (executeAll files') := by
  induction files generalizing objects with
  | nil => rfl
  | cons f files ih =>
      show (f.sql objects).bind (executeAll (files ++ files')) =
        ((f.sql objects).bind (executeAll files)).bind (executeAll files')
      cases f.sql objects with
      | error e => rfl
      | ok objects => exact ih

theorem Consistent.applied {objects : Ω} (h : Consistent objects s)
    (happlied : Applied files s s') :
    Consistent objects s' where
  recorded := by
    rw [Store.journal]
    rw [happlied.versions, happlied.executed, List.map_append, h.recorded]
    rfl
  built := by
    rw [happlied.executed, executeAll_append, h.built]
    exact happlied.objects

theorem files_ascending (dir : Directory Ω) : (dir.files.map (·.name)).Pairwise (· < ·) := by
  have htotal : Std.Total fun f g : File Ω => f.name ≤ g.name := ⟨fun f g => le_total f.name g.name⟩
  have htrans : IsTrans (File Ω) fun f g => f.name ≤ g.name :=
    ⟨fun f g h hfg hgh => le_trans hfg hgh⟩
  have hsorted : (dir.files.map (·.name)).Pairwise (· ≤ ·) :=
    List.pairwise_map.mpr (List.pairwise_insertionSort ..)
  have hperm : dir.files.Perm (dir.entries.filter fun f => isMigration f.name) :=
    List.perm_insertionSort ..
  have hdistinct : (dir.files.map (·.name)).Nodup :=
    (hperm.map _).nodup_iff.mpr (dir.distinct.sublist (List.filter_sublist.map _))
  exact (hsorted.and hdistinct).imp fun h => lt_of_le_of_ne h.1 h.2

/-- A transaction that commits, run alone. -/
theorem migrates_of_ok {names : List Str}
    (h : (migration dir).eval s = .ok (names, s')) : Migrates dir s s' names := by
  obtain ⟨-, rfl, happlied⟩ := migration_ok h
  refine ⟨happlied.executed, rfl, ?_, fun f hf => ?_⟩
  · exact (files_ascending dir).sublist (List.filter_sublist.map _)
  · rw [happlied.versions]
    by_cases hknown : f.name ∈ s.versions.rows
    · exact List.mem_append_left _ hknown
    · exact List.mem_append_right _ (List.mem_map_of_mem (mem_pending.mpr ⟨hf, hknown⟩))

/-- A call alone: it changes nothing and raises, or it returns what it has applied. -/
theorem migrate_cases (database_enabled : Bool) (dir : Directory Ω) (s : Store Ω) :
    (∃ e, (migrate database_enabled dir s).1 = .error e ∧
        Unchanged s (migrate database_enabled dir s).2) ∨
      ∃ names, (migrate database_enabled dir s).1 = .ok names ∧
        Migrates dir s (migrate database_enabled dir s).2 names := by
  rw [migrate]
  split
  · cases heval : (migration dir).eval (createTable s) with
    | error e =>
        rw [result_of_error heval, perform_of_error heval]
        exact Or.inl ⟨e, rfl, ⟨rfl, rfl, rfl⟩⟩
    | ok r =>
        obtain ⟨names, s'⟩ := r
        rw [result_of_ok heval, perform_of_ok heval]
        obtain ⟨hexecuted, hreturned, hascending, hrecorded⟩ := migrates_of_ok heval
        exact Or.inr ⟨names, rfl, ⟨hexecuted, hreturned, hascending, hrecorded⟩⟩
  · exact Or.inl ⟨_, rfl, ⟨rfl, rfl, rfl⟩⟩

end Alone

-- ── Many calls ────────────────────────────────────────────────────────────────────

/-- Calls in progress: the database, and the calls that are past `CREATE TABLE IF NOT EXISTS`. -/
structure Calls (τ Ω : Type) where
  db : Db τ LockKey (Store Ω) Unit MigrateError (List Str)
  prepared : τ → Bool

/-- All calls at their start. -/
def start {τ Ω : Type} (dirs : τ → Directory Ω) (objects : Ω) : Calls τ Ω :=
  ⟨initial (fun t => migration (dirs t)) (.fresh objects), fun _ => false⟩

/-- What happens next: the first statement of a call, which commits by itself, or a scheduling
    step of its transaction. -/
inductive Label (τ : Type) where
  | createTable (t : τ)
  | txn (act : Act τ)

/-- One step.  An error may end a call at any moment, also before its first statement. -/
inductive MigrateStep {τ Ω : Type} [DecidableEq τ] : Calls τ Ω → Label τ → Calls τ Ω → Prop where
  | createTable {calls : Calls τ Ω} {t : τ}
    {x : Active LockKey (Store Ω) Unit MigrateError (List Str)}
      (hx : calls.db.phase t = .active x) (hfirst : calls.prepared t = false) :
      MigrateStep calls (.createTable t)
        ⟨{ calls.db with
          store := createTable calls.db.store }, Function.update calls.prepared t true⟩
  | txn {calls : Calls τ Ω} {act : Act τ} {db : Db τ LockKey (Store Ω) Unit MigrateError (List Str)}
      (hprepared : calls.prepared act.tid = true ∨ act = .rollback act.tid)
      (h : Step calls.db act db) : MigrateStep calls (.txn act) { calls with db := db }

/-- The same step, computed. -/
def nextCalls {τ Ω : Type} [DecidableEq τ] (calls : Calls τ Ω) : Label τ → Option (Calls τ Ω)
  | .createTable t =>
      match calls.db.phase t with
      | .active _ =>
          if calls.prepared t then none
          else some ⟨{ calls.db with store := createTable calls.db.store },
            Function.update calls.prepared t true⟩
      | _ => none
  | .txn act =>
      if calls.prepared act.tid then (next calls.db act).map fun db => { calls with db := db }
      else none

/-- A computed step is a step. -/
theorem step_of_nextCalls {τ Ω : Type} [DecidableEq τ] {calls calls' : Calls τ Ω} {label : Label τ}
    (h : nextCalls calls label = some calls') : MigrateStep calls label calls' := by
  cases label with
  | createTable t =>
      rw [nextCalls] at h
      dsimp only at h
      split at h
      · rename_i x hx
        split at h
        · cases h
        · rename_i hprepared
          cases h
          exact .createTable hx (by simpa using hprepared)
      · cases h
  | txn act =>
      unfold nextCalls at h
      dsimp only at h
      split at h
      · rename_i hprepared
        obtain ⟨db, hdb, rfl⟩ := Option.map_eq_some_iff.mp h
        exact .txn (Or.inl hprepared) (step_of_next hdb)
      · cases h

section Together

variable {τ Ω : Type} {dirs : τ → Directory Ω} {objects : Ω} {calls calls' : Calls τ Ω}
  {label : Label τ} {labels : List (Label τ)} {t : τ}

/-- Every call takes the advisory lock first. -/
theorem oneLock (dirs : τ → Directory Ω) (objects : Ω) :
    OneLock migrationLock (fun t => migration (dirs t)) (Consistent objects) where
  first := by
    intro t
    obtain ⟨effect, k, hprog⟩ := (firstFinds_query (fun _ => [migrationLock])
      (fun _ _ => .ok ((), id))).bind fun _ : Unit =>
        selectVersions.bind fun known => applyFiles known [] (dirs t).files
    exact ⟨_, effect, k, hprog, fun _ _ => rfl⟩
  keep := by
    intro t s names s' hs heval
    exact hs.applied (migration_ok heval).2.2

/-- The invariant: commits are serial, the table exists for every call that is past its first
    statement, and no other call has begun its transaction. -/
structure Sound (dirs : τ → Directory Ω) (objects : Ω) (calls : Calls τ Ω) : Prop where
  serial : Serial migrationLock (fun t => migration (dirs t)) (Consistent objects) calls.db
  created : ∀ t, calls.prepared t = true → calls.db.store.created = true
  returned : ∀ t names, calls.db.phase t = .committed names → calls.db.store.created = true
  waiting : ∀ t x, calls.db.phase t = .active x → calls.prepared t = false →
    x = .start (migration (dirs t))

theorem sound_start (dirs : τ → Directory Ω) (objects : Ω) :
    Sound dirs objects (start dirs objects) where
  serial := serial_initial ⟨rfl, rfl⟩
  created := by
    intro t h
    cases h
  returned := by
    intro t names h
    cases h
  waiting := by
    intro t x hx _
    exact (Phase.active.inj hx).symm

/-- While the table does not exist, nobody has begun. -/
theorem Sound.all_waiting (h : Sound dirs objects calls) (hnone : calls.db.store.created = false) :
    ∀ t x, calls.db.phase t = .active x → x = .start (migration (dirs t)) := by
  intro t x hx
  refine h.waiting t x hx ?_
  cases hprepared : calls.prepared t with
  | false => rfl
  | true =>
      rw [h.created t hprepared] at hnone
      cases hnone

/-- The table is created under the transactions: it exists already, or nobody has begun. -/
theorem Sound.serial_createTable (h : Sound dirs objects calls) :
    Serial migrationLock (fun t => migration (dirs t)) (Consistent objects)
      { calls.db with store := createTable calls.db.store } := by
  cases hcreated : calls.db.store.created with
  | true =>
      have hsame : createTable calls.db.store = calls.db.store := by
        rw [createTable]
        rw [← hcreated]
      rw [hsame]
      exact h.serial
  | false =>
      refine ⟨⟨h.serial.store.recorded, h.serial.store.built⟩, fun t x hx => ?_, fun t howner => ?_⟩
      · rw [h.all_waiting hcreated t x hx]
        exact Or.inl ⟨rfl, rfl, rfl, fun ks hks => by cases hks⟩
      · obtain ⟨x, hx, hdone⟩ := h.serial.owner t howner
        rw [h.all_waiting hcreated t x hx] at hdone
        cases hdone

variable [DecidableEq τ]

/-- A commit is the transaction run alone on the store it replaces. -/
theorem commit_ok (h : Sound dirs objects calls)
    (hstep : MigrateStep calls (.txn (.commit t)) calls') :
    ∃ names, calls'.db.phase t = .committed names ∧
      (migration (dirs t)).eval calls.db.store = .ok (names, calls'.db.store) := by
  cases hstep with
  | @txn _ db hprepared hdb =>
      cases hdb with
      | @commit _ x names hx hf hp =>
          exact ⟨names, move_phase_self .., (h.serial.commit_eval (oneLock dirs objects) hx hp).2⟩

/-- A step that is not a commit leaves all but the existence of the table alone. -/
theorem store_of_step (h : Sound dirs objects calls) (hstep : MigrateStep calls label calls') :
    (calls'.db.store = calls.db.store ∨ calls'.db.store = createTable calls.db.store) ∨
      ∃ t, label = .txn (.commit t) := by
  cases hstep with
  | createTable hx hfirst => exact Or.inl (Or.inr rfl)
  | txn hprepared hdb =>
      rcases serial_commit (oneLock dirs objects) h.serial hdb with hsame | ⟨t, -, -, rfl, -⟩
      · exact Or.inl (Or.inl hsame)
      · exact Or.inr ⟨t, rfl⟩

/-- The step lemma of the invariant. -/
theorem Sound.step (h : Sound dirs objects calls) (hstep : MigrateStep calls label calls') :
    Sound dirs objects calls' := by
  cases hstep with
  | @createTable t x hx hfirst =>
      refine ⟨h.serial_createTable, fun _ _ => rfl, fun _ _ _ => rfl, fun t' y hy hwaiting => ?_⟩
      by_cases ht : t' = t
      · subst ht
        dsimp only at hwaiting
        rw [Function.update_self] at hwaiting
        cases hwaiting
      · dsimp only at hwaiting
        rw [Function.update_of_ne ht] at hwaiting
        exact h.waiting t' y hy hwaiting
  | @txn act db hprepared hdb =>
      have hkept : calls.db.store.created = true → db.store.created = true := by
        intro hcreated
        rcases serial_commit (oneLock dirs objects) h.serial hdb with
          hsame | ⟨t', x, names, -, -, -, heval, -⟩
        · rw [hsame]
          exact hcreated
        · rw [(migration_ok heval).2.2.created]
          exact hcreated
      refine ⟨h.serial.step (oneLock dirs objects) hdb, fun t ht => hkept (h.created t ht),
        fun t names hphase => ?_, fun t y hy hwaiting => ?_⟩
      · by_cases ht : t = act.tid
        · subst ht
          rcases hprepared with htrue | hrollback
          · exact hkept (h.created _ htrue)
          · rw [hrollback] at hdb
            cases hdb with
            | rollback hx he => cases (move_phase_self ..).symm.trans hphase
        · exact hkept (h.returned t names ((hdb.phase_other ht).symm.trans hphase))
      · by_cases ht : t = act.tid
        · subst ht
          rcases hprepared with htrue | hrollback
          · rw [htrue] at hwaiting
            cases hwaiting
          · rw [hrollback] at hdb
            cases hdb with
            | rollback hx he => cases (move_phase_self ..).symm.trans hy
        · exact h.waiting t y ((hdb.phase_other ht).symm.trans hy) hwaiting

/-- What a committed call enters into the journal. -/
def Label.entered (dirs : τ → Directory Ω) : Label τ → Option (List (File Ω))
  | .txn (.commit t) => some (dirs t).files
  | _ => none

/-- **The executed files are a journal** of the directories of the committed calls, in the order
    of their commits. -/
theorem journal_of_run (hrun : Run MigrateStep (start dirs objects) labels calls) :
    Sound dirs objects calls ∧
      Run (Enters (·.name)) [] (labels.filterMap (Label.entered dirs)) calls.db.store.journal := by
  refine hrun.invariant_of_labels (I := fun labels calls => Sound dirs objects calls ∧
    Run (Enters (·.name)) [] (labels.filterMap (Label.entered dirs)) calls.db.store.journal)
    (fun labels calls label calls' hI hstep => ⟨hI.1.step hstep, ?_⟩)
      ⟨sound_start dirs objects, .nil _⟩
  rw [List.filterMap_append]
  refine hI.2.append ?_
  cases hentered : label.entered dirs with
  | none =>
      rw [List.filterMap_cons_none hentered]
      rcases store_of_step hI.1 hstep with hsame | ⟨t, rfl⟩
      · have hjournal : calls'.db.store.journal = calls.db.store.journal := by
          rcases hsame with hsame | hsame <;> rw [hsame]
          rfl
        rw [hjournal]
        exact .nil _
      · cases hentered
  | some batch =>
      rw [List.filterMap_cons_some hentered]
      refine .single ?_
      obtain ⟨t, rfl, rfl⟩ : ∃ t, label = .txn (.commit t) ∧ (dirs t).files = batch := by
        cases label with
        | createTable t => cases hentered
        | txn act =>
            cases act with
            | commit t => exact ⟨t, rfl, Option.some.inj hentered⟩
            | begin t | finish t | emit t | rollback t => cases hentered
      obtain ⟨names, -, heval⟩ := commit_ok hI.1 hstep
      have happlied := (migration_ok heval).2.2
      rw [Enters, Store.journal]
      rw [happlied.executed, List.map_append]
      rw [Directory.newFiles]
      rw [hI.1.serial.store.recorded]
      rfl

-- ── Exactly once, all or nothing ──────────────────────────────────────────────────

/-- The call a step is about. -/
def Label.tid : Label τ → τ
  | .createTable t => t
  | .txn act => act.tid

theorem MigrateStep.committed_stays (hstep : MigrateStep calls label calls') {names : List Str}
    (h : calls.db.phase t = .committed names) : calls'.db.phase t = .committed names := by
  cases hstep with
  | createTable hx hfirst => exact h
  | txn hprepared hdb => exact hdb.committed_stays h

/-- A call with a commit among the steps of the run has returned. -/
theorem committed_of_mem (hrun : Run MigrateStep (start dirs objects) labels calls)
    (hmem : .txn (.commit t) ∈ labels) : ∃ names, calls.db.phase t = .committed names := by
  refine (hrun.invariant_of_labels (I := fun labels calls => Sound dirs objects calls ∧
    (.txn (.commit t) ∈ labels → ∃ names, calls.db.phase t = .committed names))
    (fun labels calls label calls' hI hstep => ⟨hI.1.step hstep, fun hlater => ?_⟩)
    ⟨sound_start dirs objects, fun h => by cases h⟩).2 hmem
  rcases List.mem_append.mp hlater with hbefore | hnow
  · obtain ⟨names, hphase⟩ := hI.2 hbefore
    exact ⟨names, hstep.committed_stays hphase⟩
  · obtain rfl := List.mem_singleton.mp hnow
    obtain ⟨names, hphase, -⟩ := commit_ok hI.1 hstep
    exact ⟨names, hphase⟩

/-- A call that has returned has a commit among the steps of the run. -/
theorem mem_of_committed (hrun : Run MigrateStep (start dirs objects) labels calls)
    {names : List Str}
    (hphase : calls.db.phase t = .committed names) : .txn (.commit t) ∈ labels := by
  refine hrun.invariant_of_labels (I := fun labels calls =>
    (∃ names, calls.db.phase t = .committed names) → .txn (.commit t) ∈ labels)
    (fun labels calls label calls' hI hstep hnow => ?_) (fun ⟨_, h⟩ => by cases h) ⟨names, hphase⟩
  obtain ⟨names, hnow⟩ := hnow
  rw [List.mem_append, List.mem_singleton]
  cases hstep with
  | createTable hx hfirst => exact Or.inl (hI ⟨names, hnow⟩)
  | @txn act db hprepared hdb =>
      by_cases ht : t = act.tid
      · subst ht
        cases hdb with
        | commit => exact Or.inr rfl
        | begin | finish | emit | rollback => cases (move_phase_self ..).symm.trans hnow
      · dsimp only at hnow
        rw [hdb.phase_other ht] at hnow
        exact Or.inl (hI ⟨names, hnow⟩)

/-- A call that has failed changed nothing in any of its steps. -/
theorem failed_unchanged (hrun : Run MigrateStep (start dirs objects) labels calls)
    {e : Option MigrateError} (hfailed : calls.db.phase t = .rolledBack e) :
    Throughout MigrateStep (fun m label m' => label.tid = t → Unchanged m.db.store m'.db.store)
      (start dirs objects) labels := by
  rintro before label after m m' rfl hbefore hstep htid
  rcases store_of_step (journal_of_run hbefore).1 hstep with hsame | ⟨t', rfl⟩
  · rcases hsame with hsame | hsame <;> rw [hsame] <;> exact ⟨rfl, rfl, rfl⟩
  · obtain rfl : t' = t := htid
    obtain ⟨names, hphase⟩ := committed_of_mem hrun
      (List.mem_append_right before (List.mem_cons_self ..))
    rw [hfailed] at hphase
    cases hphase

/-- The files of a call that has returned are recorded. -/
theorem recorded_of_committed (hrun : Run MigrateStep (start dirs objects) labels calls)
    {names : List Str} (hphase : calls.db.phase t = .committed names) :
    ∀ f ∈ (dirs t).files, f.name ∈ calls.db.store.versions.rows := by
  intro f hf
  obtain ⟨hsound, hjournal⟩ := journal_of_run hrun
  rw [hsound.serial.store.recorded]
  refine (run_covers hjournal).mpr (Or.inr ⟨(dirs t).files, ?_, List.mem_map_of_mem hf⟩)
  exact List.mem_filterMap.mpr ⟨_, mem_of_committed hrun hphase, rfl⟩

/-- **Migrations are applied exactly once, and all or nothing.** For any calls of `migrate`,
    each with a directory of its own, interleaved in any way and failing anywhere. -/
theorem migrations_exactly_once (hrun : Run MigrateStep (start dirs objects) labels calls) :
    -- every committed state
    (calls.db.store.journal.Nodup ∧
      (∀ name, name ∈ calls.db.store.versions.rows ↔ name ∈ calls.db.store.journal) ∧
      executeAll calls.db.store.executed objects = .ok calls.db.store.objects) ∧
    -- a call that fails
    (∀ t e, calls.db.phase t = .rolledBack e →
      Throughout MigrateStep (fun m label m' => label.tid = t → Unchanged m.db.store m'.db.store)
        (start dirs objects) labels) ∧
    -- a call that succeeds
    (∀ t calls', MigrateStep calls (.txn (.commit t)) calls' →
      ∃ applied, calls'.db.phase t = .committed applied ∧
        Migrates (dirs t) calls.db.store calls'.db.store applied) ∧
    -- a call that follows
    ∀ t applied t', calls.db.phase t = .committed applied →
      (∀ f ∈ (dirs t').files, ∃ g ∈ (dirs t).files, g.name = f.name) →
        migrate true (dirs t') calls.db.store = (.ok [], calls.db.store) ∧
          ∀ calls', MigrateStep calls (.txn (.commit t')) calls' →
            calls'.db.phase t' = .committed [] ∧ calls'.db.store = calls.db.store := by
  obtain ⟨hsound, -⟩ := journal_of_run hrun
  have hstore := hsound.serial.store
  refine ⟨⟨?_, fun name => ?_, hstore.built⟩, fun t e => failed_unchanged hrun,
    fun t calls' hstep => ?_, fun t applied t' hphase hsame => ?_⟩
  · rw [← hstore.recorded]
    exact calls.db.store.versions.distinct.imp fun h => by simpa [versionClash] using h
  · rw [hstore.recorded]
  · obtain ⟨names, hphase, heval⟩ := commit_ok hsound hstep
    exact ⟨names, hphase, migrates_of_ok heval⟩
  · have hcreated := hsound.returned t applied hphase
    have hnone : (migration (dirs t')).eval calls.db.store = .ok ([], calls.db.store) := by
      refine eval_migration_of_recorded hcreated fun f hf => ?_
      obtain ⟨g, hg, hname⟩ := hsame f hf
      rw [← hname]
      exact recorded_of_committed hrun hphase g hg
    refine ⟨?_, fun calls' hstep => ?_⟩
    · have hready : createTable calls.db.store = calls.db.store := by
        rw [createTable]
        rw [← hcreated]
      rw [migrate]
      rw [if_pos rfl, hready, result_of_ok hnone, perform_of_ok hnone]
    · obtain ⟨names, hphase', heval⟩ := commit_ok hsound hstep
      rw [hnone] at heval
      obtain ⟨rfl, hstore'⟩ := Prod.mk.inj (Except.ok.inj heval)
      exact ⟨hphase', hstore'.symm⟩

end Together

-- ── A history of two calls ────────────────────────────────────────────────────────

/-- A file that creates one table; schema objects are the names of the tables. -/
def sampleFile (name table : Str) : File (List Str) where
  name := name
  sql := fun tables => if tables.contains table then .error .fileFailed else .ok (tables ++ [table])

/-- The directory of the first call, and of the second, which finds one more file. -/
def sampleDirs : Bool → Directory (List Str)
  | true =>
      ⟨[sampleFile (str "001_initial.sql") (str "users"), sampleFile (str "README.md") (str "x")],
      by decide⟩
  | false => ⟨[sampleFile (str "002_runs.sql") (str "runs"),
      sampleFile (str "001_initial.sql") (str "users")], by decide⟩

/-- The second call waits for the lock while the first one runs, and then goes on. -/
def sampleSchedule : List (Label Bool) :=
  [.createTable true, .txn (.begin true), .txn (.finish true), .createTable false,
    .txn (.begin false)] ++
    (List.replicate 3 [.txn (.begin true), .txn (.finish true)]).flatten ++
    [.txn (.commit true), .txn (.finish false)] ++
    (List.replicate 3 [.txn (.begin false), .txn (.finish false)]).flatten

/-- What a call has returned. -/
def returned (calls : Calls Bool (List Str)) (t : Bool) : Option (List Str) :=
  match calls.db.phase t with
  | .committed names => some names
  | _ => none

/-- The general result on overlapping calls: the second one executes the new file alone. -/
theorem overlapping_calls :
    ∃ calls calls' : Calls Bool (List Str),
      Run MigrateStep (start sampleDirs []) sampleSchedule calls ∧
        MigrateStep calls (.txn (.commit false)) calls' ∧
        Migrates (sampleDirs false) calls.db.store calls'.db.store [str "002_runs.sql"] := by
  have hexec : ((exec nextCalls (start sampleDirs []) sampleSchedule).bind fun calls =>
      (nextCalls calls (.txn (.commit false))).bind fun calls' => returned calls' false) =
        some [str "002_runs.sql"] := by
    decide +kernel
  obtain ⟨calls, hcalls, hexec⟩ := Option.bind_eq_some_iff.mp hexec
  obtain ⟨calls', hcalls', hreturned⟩ := Option.bind_eq_some_iff.mp hexec
  have hrun : Run MigrateStep (start sampleDirs []) sampleSchedule calls :=
    .of_exec (fun _ _ _ => step_of_nextCalls) hcalls
  refine ⟨calls, calls', hrun, step_of_nextCalls hcalls', ?_⟩
  obtain ⟨applied, hphase, hmigrates⟩ :=
    (migrations_exactly_once hrun).2.2.1 false calls' (step_of_nextCalls hcalls')
  rw [returned] at hreturned
  rw [hphase] at hreturned
  obtain rfl := Option.some.inj hreturned
  exact hmigrates

end NetProbeMigrations
