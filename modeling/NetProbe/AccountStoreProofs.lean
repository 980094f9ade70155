import NetProbe.ColumnTypesProofs
import NetProbe.CoreAuthProofs
import NetProbe.TableProofs
import NetProbe.TransactionProofs
import Mathlib.Data.List.Sort

/-!
# Accounts, sessions and their SQL

The tables of `001_initial_database.sql` that authentication reads and writes, with their
uniqueness constraints as the invariant of `Table`, and the SQL statements of the program as
transaction statements.  A statement that takes row locks names the rows it finds
(`LockKey`); an INSERT or a change of a unique column also locks the key values it brings
in, since the database makes a concurrent INSERT of the same value wait.  A plain SELECT
locks nothing.

Constraints that a statement can violate are answered with the exception of the driver:
`uniqueViolation`, `foreignKeyViolation`, and `dataError` for a text that does not fit its
`varchar` or holds a NUL.  An INSERT also locks the accounts it refers to, in a mode that
only a stronger lock on the account conflicts with.  That lock is not taken here: the runs
are those of the database and more, and a run that refutes something about all of them is one
in which nobody would have waited for such a lock (`RefsFree addedRefs`).

The serial keys of the audit table are left out, nothing reads them; those of the password
history come from outside, as the sequence that draws them does.  Of the integer columns only
the next `version` is held against its type; the counter of failed logins stops where it locks
the account.

Each statement has one lemma that says what it does when it runs alone (`eval_…`).
-/

namespace NetProbeAccountStore

open NetProbePyText NetProbeConfig NetProbeCoreAuth UniqueTable Transaction Transaction.Txn

-- ── Rows ──────────────────────────────────────────────────────────────────────────

/-- A row of `user_accounts`. -/
structure Account where
  id : Uuid
  username : Str
  email : Option Str
  display_name : Str
  password_hash : Str
  role : Role
  status : AccountStatus
  must_change_password : Bool
  failed_login_count : Int
  locked_until : Option Time
  last_login_at : Option Time
  password_changed_at : Time
  created_by : Option Uuid
  created_at : Time
  updated_at : Time
  disabled_at : Option Time
  deleted_at : Option Time
  version : Int
  deriving DecidableEq, Repr

/-- An account for testing, whose hash is that of `Crypto.plain`. -/
def sampleAccount (id : Uuid) (username : Str) (role : Role) (status : AccountStatus) :
    Account where
  id := id
  username := username
  email := none
  display_name := username
  password_hash := str "$correct horse battery"
  role := role
  status := status
  must_change_password := false
  failed_login_count := 0
  locked_until := none
  last_login_at := none
  password_changed_at := 0
  created_by := none
  created_at := 0
  updated_at := 0
  disabled_at := none
  deleted_at := none
  version := 1

/-- A row of `user_sessions`. -/
structure Session where
  id : Uuid
  user_id : Uuid
  token_hash : Str
  csrf_token_hash : Str
  client_key : Option Str
  user_agent_summary : Option Str
  created_at : Time
  last_seen_at : Time
  idle_expires_at : Time
  absolute_expires_at : Time
  revoked_at : Option Time
  revoke_reason : Option Str
  deriving DecidableEq, Repr

/-- A row of `user_password_history`. -/
structure PasswordHistory where
  id : Nat
  user_id : Uuid
  password_hash : Str
  created_at : Time
  deriving DecidableEq, Repr

/-- `safe_details` of an audit event: the allow-listed keys that are present. -/
structure SafeDetails where
  role : Option Role := none
  status : Option AccountStatus := none
  count : Option Nat := none
  deriving DecidableEq, Repr

/-- What `add_auth_event` is told, and what its log event carries. -/
structure AuditFields where
  event_type : Str
  outcome : Str
  actor_user_id : Option Uuid := none
  target_user_id : Option Uuid := none
  reason_code : Option Str := none
  client_key : Option Str := none
  session_id : Option Uuid := none
  details : SafeDetails := {}
  deriving DecidableEq, Repr

/-- A row of `auth_audit_events`. -/
structure AuthAuditEvent where
  fields : AuditFields
  created_at : Time
  expires_at : Time
  deriving DecidableEq, Repr

/-- The uniqueness constraints of `user_accounts`. -/
def accountClash (a b : Account) : Bool :=
  a.id = b.id || a.username = b.username || (a.email.isSome && a.email = b.email)

/-- The uniqueness constraints of `user_sessions`. -/
def sessionClash (a b : Session) : Bool := a.id = b.id || a.token_hash = b.token_hash

/-- The uniqueness constraint of `user_password_history`. -/
def historyClash (a b : PasswordHistory) : Bool := a.id = b.id

/-- The committed state of the four tables. -/
structure Store where
  accounts : Table Account accountClash
  sessions : Table Session sessionClash
  history : Table PasswordHistory historyClash
  audit : List AuthAuditEvent

/-- There is an account with this id: what a foreign key to `user_accounts` asks for. -/
def Store.hasAccount (s : Store) (id : Uuid) : Bool := s.accounts.rows.any fun a => a.id = id

/-- No rows at all. -/
def Store.empty : Store := ⟨.empty, .empty, .empty, []⟩

theorem accountClash_symm (a b : Account) : accountClash a b = accountClash b a := by
  unfold accountClash
  rw [Bool.eq_iff_iff]
  simp only [Bool.or_eq_true, Bool.and_eq_true, decide_eq_true_eq]
  constructor <;> (rintro ((h | h) | ⟨h, h'⟩) <;> simp_all)

theorem sessionClash_symm (a b : Session) : sessionClash a b = sessionClash b a := by
  unfold sessionClash
  rw [Bool.eq_iff_iff]
  simp only [Bool.or_eq_true, decide_eq_true_eq]
  constructor <;> (rintro (h | h) <;> simp_all)

/-- The row of an account: ids are unique. -/
theorem account_unique {s : Store} {a b : Account} (ha : a ∈ s.accounts.rows)
    (hb : b ∈ s.accounts.rows) (h : a.id = b.id) : a = b :=
  eq_of_clash accountClash_symm ha hb (by simp [accountClash, h])

theorem session_unique {s : Store} {x y : Session} (hx : x ∈ s.sessions.rows)
    (hy : y ∈ s.sessions.rows) (h : x.id = y.id) : x = y :=
  eq_of_clash sessionClash_symm hx hy (by simp [sessionClash, h])

theorem token_unique {s : Store} {x y : Session} (hx : x ∈ s.sessions.rows)
    (hy : y ∈ s.sessions.rows) (h : x.token_hash = y.token_hash) : x = y :=
  eq_of_clash sessionClash_symm hx hy (by simp [sessionClash, h])

-- ── Changes of the store ──────────────────────────────────────────────────────────

namespace Store

/-- A change of the account rows, as far as the constraints allow it. -/
def alterAccounts (s : Store) (g : List Account → List Account) : Store :=
  { s with accounts := s.accounts.alter g }

def alterSessions (s : Store) (g : List Session → List Session) : Store :=
  { s with sessions := s.sessions.alter g }

def alterHistory (s : Store) (g : List PasswordHistory → List PasswordHistory) : Store :=
  { s with history := s.history.alter g }

def addAudit (s : Store) (event : AuthAuditEvent) : Store :=
  { s with audit := s.audit ++ [event] }

variable (s : Store) (g : List Account → List Account) (h : List Session → List Session)
  (k : List PasswordHistory → List PasswordHistory) (event : AuthAuditEvent)

@[simp] theorem alterAccounts_accounts : (s.alterAccounts g).accounts = s.accounts.alter g := rfl
@[simp] theorem alterAccounts_sessions : (s.alterAccounts g).sessions = s.sessions := rfl
@[simp] theorem alterAccounts_history : (s.alterAccounts g).history = s.history := rfl
@[simp] theorem alterAccounts_audit : (s.alterAccounts g).audit = s.audit := rfl
@[simp] theorem alterSessions_accounts : (s.alterSessions h).accounts = s.accounts := rfl
@[simp] theorem alterSessions_sessions : (s.alterSessions h).sessions = s.sessions.alter h := rfl
@[simp] theorem alterSessions_history : (s.alterSessions h).history = s.history := rfl
@[simp] theorem alterSessions_audit : (s.alterSessions h).audit = s.audit := rfl
@[simp] theorem alterHistory_accounts : (s.alterHistory k).accounts = s.accounts := rfl
@[simp] theorem alterHistory_sessions : (s.alterHistory k).sessions = s.sessions := rfl
@[simp] theorem alterHistory_history : (s.alterHistory k).history = s.history.alter k := rfl
@[simp] theorem alterHistory_audit : (s.alterHistory k).audit = s.audit := rfl
@[simp] theorem addAudit_accounts : (s.addAudit event).accounts = s.accounts := rfl
@[simp] theorem addAudit_sessions : (s.addAudit event).sessions = s.sessions := rfl
@[simp] theorem addAudit_history : (s.addAudit event).history = s.history := rfl
@[simp] theorem addAudit_audit : (s.addAudit event).audit = s.audit ++ [event] := rfl

end Store

-- ── Updates that leave the unique columns alone ───────────────────────────────────

/-- `WHERE id=$1` -/
def byId (id : Uuid) (a : Account) : Bool := a.id = id

/-- A change of an account row that leaves the unique columns alone. -/
def KeepsKeys (f : Account → Account) : Prop :=
  ∀ a, (f a).id = a.id ∧ (f a).username = a.username ∧ (f a).email = a.email

/-- A change of a session row that leaves the unique columns alone. -/
def KeepsSessionKeys (f : Session → Session) : Prop :=
  ∀ x, (f x).id = x.id ∧ (f x).token_hash = x.token_hash

/-- Change one account. -/
def Store.setAccount (s : Store) (id : Uuid) (f : Account → Account) : Store :=
  s.alterAccounts (updateWhere (byId id) f)

/-- Change the sessions a WHERE clause selects. -/
def Store.setSessions (s : Store) (p : Session → Bool) (f : Session → Session) : Store :=
  s.alterSessions (updateWhere p f)

section Updates

variable {s : Store} {id : Uuid} {f : Account → Account} {p : Session → Bool}
  {h : Session → Session}

/-- The clause selects one row: ids are unique. -/
theorem byId_clash (a b : Account) (ha : byId id a = true) (hb : byId id b = true) :
    accountClash a b = true := by
  rw [byId] at ha hb
  simp only [decide_eq_true_eq] at ha hb
  simp [accountClash, ha, hb]

theorem find_byId {a : Account} (hfind : s.accounts.rows.find? (byId id) = some a) :
    a ∈ s.accounts.rows ∧ a.id = id := by
  have hp := List.find?_some hfind
  exact ⟨List.mem_of_find?_eq_some hfind, by simpa [byId] using hp⟩

/-- The clause finds the row with the id, and no other. -/
theorem byId_find {a : Account} (ha : a ∈ s.accounts.rows) (hid : a.id = id) :
    s.accounts.rows.find? (byId id) = some a :=
  find?_of_mem accountClash_symm byId_clash ha (decide_eq_true hid)

theorem byId_filter {a : Account} (ha : a ∈ s.accounts.rows) (hid : a.id = id) :
    s.accounts.rows.filter (byId id) = [a] :=
  filter_of_mem accountClash_symm byId_clash ha (decide_eq_true hid)

/-- An update of accounts that leaves the unique columns alone violates nothing. -/
theorem accepts_update {q : Account → Bool} (hf : KeepsKeys f) :
    s.accounts.Accepts (updateWhere q f) :=
  accepts_updateWhere fun a b => by
    simp only [accountClash, (hf a).1, (hf a).2.1, (hf a).2.2, (hf b).1, (hf b).2.1, (hf b).2.2,
      and_self]

theorem accepts_updateSessions (hh : KeepsSessionKeys h) : s.sessions.Accepts (updateWhere p h) :=
  accepts_updateWhere fun a b => by
    simp only [sessionClash, (hh a).1, (hh a).2, (hh b).1, (hh b).2, and_self]

@[simp] theorem setAccount_sessions : (s.setAccount id f).sessions = s.sessions := rfl
@[simp] theorem setAccount_history : (s.setAccount id f).history = s.history := rfl
@[simp] theorem setAccount_audit : (s.setAccount id f).audit = s.audit := rfl
@[simp] theorem setSessions_accounts : (s.setSessions p h).accounts = s.accounts := rfl
@[simp] theorem setSessions_history : (s.setSessions p h).history = s.history := rfl
@[simp] theorem setSessions_audit : (s.setSessions p h).audit = s.audit := rfl

theorem setAccount_rows_of_accepts (h : s.accounts.Accepts (updateWhere (byId id) f)) :
    (s.setAccount id f).accounts.rows = updateWhere (byId id) f s.accounts.rows :=
  alter_rows h

theorem setSessions_rows (hh : KeepsSessionKeys h) :
    (s.setSessions p h).sessions.rows = updateWhere p h s.sessions.rows :=
  alter_rows (accepts_updateSessions hh)

/-- The rows after a change of one account: the changed row, and the others as they were. -/
theorem mem_setAccount_of_accepts (h : s.accounts.Accepts (updateWhere (byId id) f)) {x : Account} :
    x ∈ (s.setAccount id f).accounts.rows ↔
      ∃ a ∈ s.accounts.rows, (if a.id = id then f a else a) = x := by
  rw [setAccount_rows_of_accepts h, mem_updateWhere]
  simp only [byId, decide_eq_true_eq]

theorem mem_setAccount (hf : KeepsKeys f) {x : Account} :
    x ∈ (s.setAccount id f).accounts.rows ↔
      ∃ a ∈ s.accounts.rows, (if a.id = id then f a else a) = x :=
  mem_setAccount_of_accepts (accepts_update hf)

theorem mem_setSessions (hh : KeepsSessionKeys h) {x : Session} :
    x ∈ (s.setSessions p h).sessions.rows ↔
      ∃ y ∈ s.sessions.rows, (if p y then h y else y) = x := by
  rw [setSessions_rows hh, mem_updateWhere]

/-- An update of accounts keeps the ids, accepted or not. -/
theorem hasAccount_updateWhere {q : Account → Bool} {u : Uuid}
    (hid : ∀ a, (f a).id = a.id) :
    (s.alterAccounts (updateWhere q f)).hasAccount u = s.hasAccount u := by
  unfold Store.hasAccount
  rw [Store.alterAccounts_accounts]
  rcases alter_rows_cases s.accounts (updateWhere q f) with hrows | hrows
  · rw [hrows]
    unfold updateWhere
    rw [List.any_map]
    congr 1
    funext a
    simp only [Function.comp_apply]
    split
    · rw [hid a]
    · rfl
  · rw [hrows]

/-- A row after an update of accounts, accepted or not. -/
theorem mem_alterAccounts {q : Account → Bool} {b : Account}
    (hb : b ∈ (s.alterAccounts (updateWhere q f)).accounts.rows) :
    ∃ a ∈ s.accounts.rows, b = a ∨ b = f a := by
  rw [Store.alterAccounts_accounts] at hb
  rcases alter_rows_cases s.accounts (updateWhere q f) with hrows | hrows
  · rw [hrows] at hb
    obtain ⟨a, ha, rfl⟩ := mem_updateWhere.mp hb
    refine ⟨a, ha, ?_⟩
    split
    · exact Or.inr rfl
    · exact Or.inl rfl
  · rw [hrows] at hb
    exact ⟨b, hb, Or.inl rfl⟩

theorem hasAccount_setAccount (hf : KeepsKeys f) {u : Uuid} :
    (s.setAccount id f).hasAccount u = s.hasAccount u :=
  hasAccount_updateWhere fun a => (hf a).1

@[simp] theorem hasAccount_setSessions {u : Uuid} :
    (s.setSessions p h).hasAccount u = s.hasAccount u := rfl

@[simp] theorem hasAccount_alterSessions {g : List Session → List Session} {u : Uuid} :
    (s.alterSessions g).hasAccount u = s.hasAccount u := rfl

@[simp] theorem hasAccount_alterHistory {g : List PasswordHistory → List PasswordHistory}
    {u : Uuid} :
    (s.alterHistory g).hasAccount u = s.hasAccount u := rfl

theorem hasAccount_of_mem {a : Account} (ha : a ∈ s.accounts.rows) : s.hasAccount a.id = true :=
  List.any_eq_true.mpr ⟨a, ha, by simp⟩

theorem exists_of_hasAccount {u : Uuid} (h : s.hasAccount u = true) :
    ∃ a ∈ s.accounts.rows, a.id = u := by
  obtain ⟨a, ha, hid⟩ := List.any_eq_true.mp h
  exact ⟨a, ha, of_decide_eq_true hid⟩

theorem hasAccount_insert {row : Account} (hacc : s.accounts.Accepts (· ++ [row])) {u : Uuid} :
    (s.alterAccounts (· ++ [row])).hasAccount u = (s.hasAccount u || decide (row.id = u)) := by
  unfold Store.hasAccount
  rw [Store.alterAccounts_accounts, alter_rows hacc, List.any_append]
  simp only [List.any_cons, List.any_nil, Bool.or_false]

end Updates

-- ── Locks, exceptions, events ─────────────────────────────────────────────────────

/-- What a statement can lock: a row, or a value of a unique column. -/
inductive LockKey where
  | account (id : Uuid)
  | accountName (username : Str)
  | accountEmail (email : Str)
  | session (id : Uuid)
  | sessionToken (token_hash : Str)
  | history (id : Nat)
  deriving DecidableEq, Repr

/-- The accounts that rows of `v` refer to and rows of `s` do not: those of the rows added. -/
def addedRefs (s v : Store) : List LockKey :=
  ((v.accounts.rows.filter fun a => s.accounts.rows.all (·.id ≠ a.id)).filterMap (·.created_by) ++
    (v.sessions.rows.filter fun x => s.sessions.rows.all (·.id ≠ x.id)).map (·.user_id) ++
    (v.history.rows.filter fun r => s.history.rows.all (·.id ≠ r.id)).map (·.user_id) ++
    (v.audit.drop s.audit.length).flatMap fun event =>
      event.fields.actor_user_id.toList ++ event.fields.target_user_id.toList).map .account

/-- The exceptions that end an operation. -/
inductive AuthError where
  | uniqueViolation
  | foreignKeyViolation
  | dataError
  | verificationError
  | runtimeError
  | attributeError
  | typeError
  | valueError (message : Str)
  | systemExit (message : Str)
  | httpException (status_code : Int) (code message : Str)
  deriving DecidableEq, Repr

/-- What an operation does that a rollback does not undo: a log event of `add_auth_event`, or
    the verification of a password against the hash of an account (none for the dummy hash). -/
inductive AuthEvent where
  | log (fields : AuditFields)
  | verify (user_id : Option Uuid) (matched : Bool)
  deriving DecidableEq, Repr

/-- An operation on the account tables. -/
abbrev AuthTxn (α : Type) : Type := Txn LockKey Store AuthEvent AuthError α

/-- The rows come in an order of the database's choosing; a sort key orders them as far as it
    tells them apart. -/
structure Scan (ρ : Type) where
  order : List ρ → List ρ
  perm : ∀ rows, (order rows).Perm rows

/-- Rows in the order they were inserted. -/
def Scan.asInserted {ρ : Type} : Scan ρ := ⟨id, fun _ => .refl _⟩

/-- `ORDER BY` ascending. -/
def orderBy {ρ : Type} (scan : Scan ρ) (key : ρ → Time) (rows : List ρ) : List ρ :=
  (scan.order rows).insertionSort fun a b => key a ≤ key b

/-- `ORDER BY ... DESC`. -/
def orderByDesc {ρ : Type} (scan : Scan ρ) (key : ρ → Time) (rows : List ρ) : List ρ :=
  (scan.order rows).insertionSort fun a b => key b ≤ key a

section Queries

variable {ρ : Type} {key : ρ → Time} {rows rows' : List ρ}

theorem orderByDesc_perm (scan : Scan ρ) : (orderByDesc scan key rows).Perm rows :=
  (List.perm_insertionSort _ _).trans (scan.perm rows)

theorem orderByDesc_sorted (scan : Scan ρ) :
    (orderByDesc scan key rows).Pairwise fun a b => key b ≤ key a := by
  have htotal : Std.Total fun a b : ρ => key b ≤ key a := ⟨fun a b => Int.le_total (key b) (key a)⟩
  have htrans : IsTrans ρ fun a b => key b ≤ key a := ⟨fun a b c hab hbc => Int.le_trans hbc hab⟩
  exact List.pairwise_insertionSort _ _

/-- The same rows in another table can come in the same order. -/
theorem orderByDesc_reorder (scan : Scan ρ) (h : rows.Perm rows') :
    ∃ scan' : Scan ρ, orderByDesc scan' key rows' = orderByDesc scan key rows := by
  classical
  refine ⟨⟨fun l => if l = rows' then scan.order rows else l, fun l => ?_⟩, ?_⟩
  · by_cases hl : l = rows'
    · rw [if_pos hl, hl]
      exact (scan.perm rows).trans h
    · rw [if_neg hl]
  · unfold orderByDesc
    dsimp only
    rw [if_pos rfl]

/-- Rows with distinct sort keys come in one order. -/
theorem orderByDesc_unique (scan scan' : Scan ρ) (h : rows.Perm rows')
    (hkey : ∀ a ∈ rows, ∀ b ∈ rows, key a = key b → a = b) :
    orderByDesc scan key rows = orderByDesc scan' key rows' := by
  have hmem : ∀ (scan : Scan ρ) {a : ρ} {l : List ρ}, l.Perm rows →
      a ∈ orderByDesc scan key l → a ∈ rows :=
    fun scan a l hl ha => hl.mem_iff.mp ((orderByDesc_perm scan).mem_iff.mp ha)
  refine List.Perm.eq_of_pairwise (fun a b ha hb hab hba => ?_) (orderByDesc_sorted scan)
    (orderByDesc_sorted scan') ?_
  · exact hkey a (hmem scan (.refl _) ha) b (hmem scan' h.symm hb) (Int.le_antisymm hba hab)
  · exact (orderByDesc_perm scan).trans (h.trans (orderByDesc_perm scan').symm)

end Queries

-- ── Statements ────────────────────────────────────────────────────────────────────

section Statements

/-- The locks of the account rows a WHERE clause selects. -/
def accountsWhere (p : Account → Bool) (s : Store) : List LockKey :=
  (s.accounts.rows.filter p).map fun a => .account a.id

def sessionsWhere (p : Session → Bool) (s : Store) : List LockKey :=
  (s.sessions.rows.filter p).map fun x => .session x.id

def historyWhere (p : PasswordHistory → Bool) (s : Store) : List LockKey :=
  (s.history.rows.filter p).map fun r => .history r.id

/-- A WHERE clause on the rows found: a row found that has changed is tested again. -/
def foundAccount (ks : List LockKey) (p : Account → Bool) (a : Account) : Bool :=
  ks.contains (.account a.id) && p a

def foundSession (ks : List LockKey) (p : Session → Bool) (x : Session) : Bool :=
  ks.contains (.session x.id) && p x

def foundHistory (ks : List LockKey) (p : PasswordHistory → Bool) (r : PasswordHistory) : Bool :=
  ks.contains (.history r.id) && p r

/-- A change of accounts that a constraint may refuse. -/
def changeAccounts {α : Type} (v : Store) (g : List Account → List Account) (a : α) :
    Except AuthError (α × (Store → Store)) :=
  if v.accounts.Accepts g then .ok (a, fun s => s.alterAccounts g) else .error .uniqueViolation

/-- `SELECT * FROM user_accounts WHERE p FOR UPDATE`, the first row. -/
def selectAccountForUpdate (p : Account → Bool) : AuthTxn (Option Account) :=
  query (accountsWhere p) fun ks v => .ok (v.accounts.rows.find? (foundAccount ks p), id)

/-- `UPDATE user_accounts SET f WHERE p RETURNING *`, for an update that leaves the unique
    columns alone or brings in the value of one of them (`keys`). -/
def updateAccounts (keys : List LockKey) (p : Account → Bool) (f : Account → Account) :
    AuthTxn (List Account) :=
  query (fun s => accountsWhere p s ++ keys) fun ks v =>
    changeAccounts v (updateWhere (foundAccount ks p) f)
      ((v.accounts.rows.filter (foundAccount ks p)).map f)

/-- `INSERT INTO user_accounts VALUES row RETURNING *` -/
def insertAccount (row : Account) : AuthTxn Account :=
  query (fun _ => [.account row.id, .accountName row.username] ++
      (row.email.map LockKey.accountEmail).toList) fun _ v =>
    if row.created_by.any fun id => !v.hasAccount id then
      .error .foreignKeyViolation
    else changeAccounts v (· ++ [row]) row

/-- `SELECT count(*) FROM user_accounts WHERE p` -/
def countAccounts (p : Account → Bool) : AuthTxn Nat :=
  query (fun _ => []) fun _ v => .ok ((v.accounts.rows.filter p).length, id)

/-- `SELECT * FROM user_accounts WHERE p ORDER BY created_at DESC LIMIT n OFFSET m` -/
def selectAccounts (scan : Scan Account) (p : Account → Bool) (limit offset : Nat) :
    AuthTxn (List Account) :=
  query (fun _ => []) fun _ v =>
    .ok (((orderByDesc scan (·.created_at) (v.accounts.rows.filter p)).drop offset).take limit, id)

/-- `SELECT ... FROM user_sessions WHERE p ORDER BY created_at` -/
def selectSessions (scan : Scan Session) (p : Session → Bool) : AuthTxn (List Session) :=
  query (fun _ => []) fun _ v => .ok (orderBy scan (·.created_at) (v.sessions.rows.filter p), id)

/-- `SELECT s.*, u.* FROM user_sessions s JOIN user_accounts u ON u.id=s.user_id WHERE p
    FOR UPDATE OF s`, the first row. -/
def selectSessionForUpdate (p : Session → Bool) : AuthTxn (Option (Session × Account)) :=
  query (sessionsWhere p) fun ks v =>
    .ok ((v.sessions.rows.find? (foundSession ks p)).bind fun x =>
      (v.accounts.rows.find? fun a => a.id = x.user_id).map fun a => (x, a), id)

/-- `UPDATE user_sessions SET f WHERE p RETURNING *`; the unique columns stay. -/
def updateSessions (p : Session → Bool) (f : Session → Session) : AuthTxn (List Session) :=
  query (sessionsWhere p) fun ks v =>
    .ok ((v.sessions.rows.filter (foundSession ks p)).map f,
      fun s => s.setSessions (foundSession ks p) f)

/-- `INSERT INTO user_sessions VALUES row` -/
def insertSession (row : Session) : AuthTxn Unit :=
  query (fun _ => [.session row.id, .sessionToken row.token_hash]) fun _ v =>
    if !v.hasAccount row.user_id then .error .foreignKeyViolation
    else if v.sessions.Accepts (· ++ [row]) then .ok ((), fun s => s.alterSessions (· ++ [row]))
    else .error .uniqueViolation

/-- `SELECT EXISTS(SELECT 1 FROM user_sessions WHERE p)` -/
def existsSession (p : Session → Bool) : AuthTxn Bool :=
  query (fun _ => []) fun _ v => .ok (v.sessions.rows.any p, id)

/-- The first rows of `SELECT ... FROM user_password_history WHERE p ORDER BY created_at DESC`. -/
def latestHistory (scan : Scan PasswordHistory) (p : PasswordHistory → Bool) (limit : Nat)
    (s : Store) : List PasswordHistory :=
  (orderByDesc scan (·.created_at) (s.history.rows.filter p)).take limit

/-- `SELECT ... FROM user_password_history WHERE p ORDER BY created_at DESC LIMIT n`; a negative
    limit is refused. -/
def selectHistory (scan : Scan PasswordHistory) (p : PasswordHistory → Bool) (limit : Int) :
    AuthTxn (List PasswordHistory) :=
  query (fun _ => []) fun _ v =>
    if limit < 0 then .error .dataError else .ok (latestHistory scan p limit.toNat v, id)

/-- `INSERT INTO user_password_history VALUES row` -/
def insertHistory (row : PasswordHistory) : AuthTxn Unit :=
  query (fun _ => [.history row.id]) fun _ v =>
    if !v.hasAccount row.user_id then .error .foreignKeyViolation
    else if v.history.Accepts (· ++ [row]) then .ok ((), fun s => s.alterHistory (· ++ [row]))
    else .error .uniqueViolation

/-- The rows of a WHERE clause but for the latest ones. -/
def oldHistory (scan : Scan PasswordHistory) (p : PasswordHistory → Bool) (limit : Nat)
    (s : Store) (r : PasswordHistory) : Bool :=
  p r && !((latestHistory scan p limit s).map (·.id)).contains r.id

/-- `DELETE FROM user_password_history WHERE p AND id NOT IN (SELECT id FROM
    user_password_history WHERE p ORDER BY created_at DESC LIMIT n)` -/
def trimHistory (scan : Scan PasswordHistory) (p : PasswordHistory → Bool) (limit : Int) :
    AuthTxn Unit :=
  query (fun s => historyWhere (oldHistory scan p limit.toNat s) s) fun ks v =>
    if limit < 0 then .error .dataError
    else .ok ((), fun s => s.alterHistory
      (List.filter fun r => !foundHistory ks (oldHistory scan p limit.toNat v) r))

/-- `INSERT INTO auth_audit_events VALUES event` -/
def insertAudit (event : AuthAuditEvent) : AuthTxn Unit :=
  query (fun _ => []) fun _ v =>
    if (event.fields.actor_user_id.toList ++ event.fields.target_user_id.toList).all
      v.hasAccount then
      .ok ((), fun s => s.addAudit event)
    else .error .foreignKeyViolation

end Statements

-- ── Statements that run alone ─────────────────────────────────────────────────────

section Eval

variable {s : Store}

/-- The rows a statement finds in its own view are the rows its WHERE clause selects. -/
theorem foundAccount_where (p : Account → Bool) (keys : List LockKey) {a : Account}
    (ha : a ∈ s.accounts.rows) :
    foundAccount (accountsWhere p s ++ keys) p a = p a := by
  rw [foundAccount]
  cases hp : p a with
  | false => simp
  | true =>
      have hmem : LockKey.account a.id ∈ accountsWhere p s :=
        List.mem_map.mpr ⟨a, List.mem_filter.mpr ⟨ha, hp⟩, rfl⟩
      simp [hmem]

theorem foundSession_where {p : Session → Bool} {x : Session} (hx : x ∈ s.sessions.rows) :
    foundSession (sessionsWhere p s) p x = p x := by
  rw [foundSession]
  cases hp : p x with
  | false => simp
  | true =>
      have hmem : LockKey.session x.id ∈ sessionsWhere p s :=
        List.mem_map.mpr ⟨x, List.mem_filter.mpr ⟨hx, hp⟩, rfl⟩
      simp [hmem]

theorem foundHistory_where {p : PasswordHistory → Bool} {r : PasswordHistory}
    (hr : r ∈ s.history.rows) : foundHistory (historyWhere p s) p r = p r := by
  rw [foundHistory]
  cases hp : p r with
  | false => simp
  | true =>
      have hmem : LockKey.history r.id ∈ historyWhere p s :=
        List.mem_map.mpr ⟨r, List.mem_filter.mpr ⟨hr, hp⟩, rfl⟩
      simp [hmem]

/-- Two predicates that agree on the rows select the same, find the same and update the same. -/
theorem find?_congr_mem {ρ : Type} {p q : ρ → Bool} {rows : List ρ}
    (h : ∀ r ∈ rows, p r = q r) : rows.find? p = rows.find? q := by
  induction rows with
  | nil => rfl
  | cons r rows ih =>
      have hr := h r (by simp)
      have htail := ih fun x hx => h x (List.mem_cons_of_mem _ hx)
      rw [List.find?_cons, List.find?_cons, hr, htail]

theorem updateWhere_congr_mem {ρ : Type} {p q : ρ → Bool} {f : ρ → ρ} {rows : List ρ}
    (h : ∀ r ∈ rows, p r = q r) : updateWhere p f rows = updateWhere q f rows := by
  rw [updateWhere]
  refine List.map_congr_left fun r hr => ?_
  rw [h r hr]

/-- Two changes that make the same of the rows of a table are the same change. -/
theorem alter_congr {ρ : Type} {clash : ρ → ρ → Bool} {t : Table ρ clash}
    {g g' : List ρ → List ρ} (h : g t.rows = g' t.rows) : t.alter g = t.alter g' := by
  have hacc : t.Accepts g ↔ t.Accepts g' := by
    unfold Table.Accepts
    rw [h]
  unfold Table.alter
  by_cases ha : t.Accepts g
  · rw [dif_pos ha, dif_pos (hacc.mp ha)]
    simp only [h]
  · rw [dif_neg ha, dif_neg fun h' => ha (hacc.mpr h')]

@[simp] theorem eval_selectAccountForUpdate (p : Account → Bool) :
    (selectAccountForUpdate p).eval s = .ok (s.accounts.rows.find? p, s) := by
  rw [selectAccountForUpdate]
  rw [eval_query]
  have hfind : s.accounts.rows.find? (foundAccount (accountsWhere p s) p) =
      s.accounts.rows.find? p :=
    find?_congr_mem fun a ha => by
      simpa using foundAccount_where p [] ha
  rw [hfind]
  rfl

/-- An update of accounts run alone: it is carried out, or violates a unique column. -/
theorem eval_updateAccounts (keys : List LockKey) (p : Account → Bool) (f : Account → Account) :
    (updateAccounts keys p f).eval s =
      if s.accounts.Accepts (updateWhere p f) then
        .ok ((s.accounts.rows.filter p).map f, s.alterAccounts (updateWhere p f))
      else .error .uniqueViolation := by
  have hfound : ∀ a ∈ s.accounts.rows, foundAccount (accountsWhere p s ++ keys) p a = p a :=
    fun a ha => foundAccount_where p keys ha
  have hupdate : updateWhere (foundAccount (accountsWhere p s ++ keys) p) f s.accounts.rows =
      updateWhere p f s.accounts.rows := updateWhere_congr_mem hfound
  have hacc : s.accounts.Accepts (updateWhere (foundAccount (accountsWhere p s ++ keys) p) f) ↔
      s.accounts.Accepts (updateWhere p f) := by
    unfold Table.Accepts
    rw [hupdate]
  rw [updateAccounts]
  rw [eval_query]
  rw [changeAccounts]
  by_cases ha : s.accounts.Accepts (updateWhere p f)
  · rw [if_pos ha, if_pos (hacc.mpr ha), List.filter_congr hfound]
    simp only [Except.bind, Store.alterAccounts, alter_congr hupdate]
  · rw [if_neg ha, if_neg fun h => ha (hacc.mp h)]
    rfl

/-- An update of accounts that leaves the unique columns alone is always carried out. -/
theorem eval_updateAccounts_plain {keys : List LockKey} {p : Account → Bool}
    {f : Account → Account} (hf : KeepsKeys f) :
    (updateAccounts keys p f).eval s =
      .ok ((s.accounts.rows.filter p).map f, s.alterAccounts (updateWhere p f)) := by
  rw [eval_updateAccounts, if_pos (accepts_update hf)]

@[simp] theorem eval_countAccounts (p : Account → Bool) :
    (countAccounts p).eval s = .ok ((s.accounts.rows.filter p).length, s) := by
  rw [countAccounts]
  rw [eval_query]
  rfl

theorem eval_insertAccount (row : Account) :
    (insertAccount row).eval s =
      if row.created_by.any fun id => !s.hasAccount id then
        .error .foreignKeyViolation
      else if s.accounts.Accepts (· ++ [row]) then .ok (row, s.alterAccounts (· ++ [row]))
      else .error .uniqueViolation := by
  rw [insertAccount]
  rw [eval_query]
  split
  · rfl
  · rw [changeAccounts]
    split <;> rfl

@[simp] theorem eval_selectSessions (scan : Scan Session) (p : Session → Bool) :
    (selectSessions scan p).eval s =
      .ok (orderBy scan (·.created_at) (s.sessions.rows.filter p), s) := by
  rw [selectSessions]
  rw [eval_query]
  rfl

@[simp] theorem eval_selectSessionForUpdate (p : Session → Bool) :
    (selectSessionForUpdate p).eval s =
      .ok ((s.sessions.rows.find? p).bind fun x =>
        (s.accounts.rows.find? fun a => a.id = x.user_id).map fun a => (x, a), s) := by
  rw [selectSessionForUpdate]
  rw [eval_query, find?_congr_mem fun x hx => foundSession_where hx]
  rfl

@[simp] theorem eval_updateSessions (p : Session → Bool) (f : Session → Session) :
    (updateSessions p f).eval s = .ok ((s.sessions.rows.filter p).map f, s.setSessions p f) := by
  have hfound : ∀ x ∈ s.sessions.rows, foundSession (sessionsWhere p s) p x = p x :=
    fun x hx => foundSession_where hx
  have hupdate : updateWhere (foundSession (sessionsWhere p s) p) f s.sessions.rows =
      updateWhere p f s.sessions.rows := updateWhere_congr_mem hfound
  rw [updateSessions]
  rw [eval_query, List.filter_congr hfound]
  simp only [Except.bind, Store.setSessions, Store.alterSessions, alter_congr hupdate]

theorem eval_insertSession (row : Session) :
    (insertSession row).eval s =
      if !s.hasAccount row.user_id then .error .foreignKeyViolation
      else if s.sessions.Accepts (· ++ [row]) then .ok ((), s.alterSessions (· ++ [row]))
      else .error .uniqueViolation := by
  rw [insertSession]
  rw [eval_query]
  split
  · rfl
  · split <;> rfl

@[simp] theorem eval_existsSession (p : Session → Bool) :
    (existsSession p).eval s = .ok (s.sessions.rows.any p, s) := by
  rw [existsSession]
  rw [eval_query]
  rfl

theorem eval_selectHistory (scan : Scan PasswordHistory) (p : PasswordHistory → Bool)
    (limit : Int) :
    (selectHistory scan p limit).eval s =
      if limit < 0 then .error .dataError else .ok (latestHistory scan p limit.toNat s, s) := by
  rw [selectHistory]
  rw [eval_query]
  split <;> rfl

theorem eval_insertHistory (row : PasswordHistory) :
    (insertHistory row).eval s =
      if !s.hasAccount row.user_id then .error .foreignKeyViolation
      else if s.history.Accepts (· ++ [row]) then .ok ((), s.alterHistory (· ++ [row]))
      else .error .uniqueViolation := by
  rw [insertHistory]
  rw [eval_query]
  split
  · rfl
  · split <;> rfl

/-- Trimming the history run alone keeps the latest rows of the WHERE clause and all others. -/
theorem eval_trimHistory (scan : Scan PasswordHistory) (p : PasswordHistory → Bool) (limit : Int) :
    (trimHistory scan p limit).eval s =
      if limit < 0 then .error .dataError
      else .ok ((), s.alterHistory (List.filter fun r => !oldHistory scan p limit.toNat s r)) := by
  rw [trimHistory]
  rw [eval_query]
  split
  · rfl
  · simp only [Except.bind, Store.alterHistory]
    rw [alter_congr]
    refine List.filter_congr fun r hr => ?_
    rw [foundHistory_where hr]

theorem eval_insertAudit (event : AuthAuditEvent) :
    (insertAudit event).eval s =
      if (event.fields.actor_user_id.toList ++ event.fields.target_user_id.toList).all
        s.hasAccount then
        .ok ((), s.addAudit event)
      else .error .foreignKeyViolation := by
  rw [insertAudit]
  rw [eval_query]
  split <;> rfl

end Eval

end NetProbeAccountStore
