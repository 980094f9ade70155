import NetProbe.AccountStoreProofs

/-!
# Login, sessions, password change

`app/services/auth_service.py` as transaction programs over the account store.  What an
operation reads besides its arguments and the store is a parameter: its clock (`utcnow()` at
its start and when the audit row is written, `now()` of its transaction), the random values
it draws, the value the history sequence gives it, and the order in which the database
returns rows that `ORDER BY` does not tell apart.

The programs stand under the names of the source; a function with several tails is cut into
named parts.  Every part that the outcome file composes has a lemma that says what it does
when it runs alone (`eval_…`) and which events it emits (`trace_…`).
-/

namespace NetProbeAuthService

open NetProbePyText NetProbeConfig NetProbeCoreAuth NetProbeAccountStore UniqueTable
open Transaction Transaction.Txn

/-- The clock readings of one operation. -/
structure Clock where
  utcnow : Time
  txNow : Time
  auditNow : Time

/-- What a login draws at random. -/
structure LoginDraw where
  token : Str
  csrf_token : Str
  session_id : Uuid
  salt : Str

/-- What a successful login returns: context, session token, CSRF token. -/
structure LoginResult where
  context : AuthContext
  token : Str
  csrf_token : Str
  deriving DecidableEq, Repr

-- ── Changes of rows ───────────────────────────────────────────────────────────────

/-- The row of an account whose lock has expired. -/
def expireLock (a : Account) : Account :=
  { a with status := .ACTIVE, locked_until := none, failed_login_count := 0 }

/-- The row after a wrong password. -/
def recordFailure (failures : Int) (status : AccountStatus) (locked_until : Option Time)
    (txNow : Time) (a : Account) : Account :=
  { a with
    failed_login_count := failures, status := status, locked_until := locked_until
    updated_at := txNow }

/-- The row after a login. -/
def recordLogin (new_hash : Str) (now txNow : Time) (a : Account) : Account :=
  { a with
    password_hash := new_hash, failed_login_count := 0, locked_until := none
    last_login_at := some now, status := if a.status = .PENDING then .ACTIVE else a.status
    updated_at := txNow }

/-- The row after a change of its password. -/
def setPassword (new_hash : Str) (must_change : Bool) (txNow : Time) (a : Account) : Account :=
  { a with
    password_hash := new_hash, password_changed_at := txNow
    must_change_password := must_change, updated_at := txNow }

/-- A revoked session. -/
def revoke (time : Time) (reason : Str) (x : Session) : Session :=
  { x with revoked_at := some time, revoke_reason := some reason }

/-- A session whose activity is recorded. -/
def touch (now idle : Time) (x : Session) : Session :=
  { x with last_seen_at := now, idle_expires_at := min idle x.absolute_expires_at }

/-- `WHERE user_id=$1 AND revoked_at IS NULL` -/
def unrevokedOf (user_id : Uuid) (x : Session) : Bool := x.user_id = user_id && x.revoked_at.isNone

theorem expireLock_keeps : KeepsKeys expireLock := fun _ => ⟨rfl, rfl, rfl⟩

theorem recordFailure_keeps {failures : Int} {status : AccountStatus} {until_ : Option Time}
    {txNow : Time} : KeepsKeys (recordFailure failures status until_ txNow) :=
  fun _ => ⟨rfl, rfl, rfl⟩

theorem recordLogin_keeps {new_hash : Str} {now txNow : Time} :
    KeepsKeys (recordLogin new_hash now txNow) := fun _ => ⟨rfl, rfl, rfl⟩

theorem setPassword_keeps {new_hash : Str} {must : Bool} {txNow : Time} :
    KeepsKeys (setPassword new_hash must txNow) := fun _ => ⟨rfl, rfl, rfl⟩

theorem revoke_keeps {time : Time} {reason : Str} : KeepsSessionKeys (revoke time reason) :=
  fun _ => ⟨rfl, rfl⟩

theorem touch_keeps {now idle : Time} : KeepsSessionKeys (touch now idle) := fun _ => ⟨rfl, rfl⟩

-- ── The programs ──────────────────────────────────────────────────────────────────

section Programs

variable (py : Python) (settings : Settings) (crypto : Crypto)

/-- `pool = await get_pool()`, and what is done with it. -/
def withPool {α : Type} (p : AuthTxn α) : AuthTxn α :=
  if settings.database_enabled then p else .raise .runtimeError

/-- The row an audit event is stored in. -/
def auditRow (clock : Clock) (fields : AuditFields) : AuthAuditEvent :=
  ⟨fields, clock.txNow, clock.auditNow + days settings.auth_audit_retention_days⟩

/-- The fields of the log event; the session is not among them. -/
def logFields (fields : AuditFields) : AuditFields := { fields with session_id := none }

/-- `add_auth_event(connection, ...)` -/
def addAuthEvent (clock : Clock) (fields : AuditFields) : AuthTxn Unit := do
  tell (.log (logFields fields))
  insertAudit (auditRow settings clock fields)

/-- `verify_password(password, encoded_hash)`, on the hash of an account or on the dummy. -/
def verify (user_id : Option Uuid) (password encoded_hash : Str) : AuthTxn Bool :=
  match verifyPassword crypto settings password encoded_hash with
  | none => .raise .verificationError
  | some matched => .emit (.verify user_id matched) (.ret matched)

/-- The lock of the account has run out at `now`. -/
def lockExpired (now : Time) (a : Account) : Bool :=
  a.status = .LOCKED && a.locked_until.any fun t => t ≤ now

/-- The row the login goes on with, after the automatic unlock. -/
def currentUser (now : Time) (a : Account) : Account :=
  if lockExpired now a then expireLock a else a

/-- The audit event of a refused login. -/
def loginFailed (target : Option Uuid) (reason : Str) (client_key : Option Str) : AuditFields where
  event_type := str "LOGIN_FAILED"
  outcome := str "FAILURE"
  target_user_id := target
  reason_code := some reason
  client_key := client_key

/-- The account is locked by this failure. -/
def locks (user : Account) : Bool := settings.login_max_failures ≤ user.failed_login_count + 1

/-- The row after this failure. -/
def failureRow (clock : Clock) (user : Account) : Account → Account :=
  recordFailure (user.failed_login_count + 1)
    (if locks settings user then .LOCKED else user.status)
    (if locks settings user then some (clock.utcnow + minutes settings.login_lock_minutes)
      else none)
    clock.txNow

/-- A login with a wrong password. -/
def loginFails (clock : Clock) (client_key : Option Str) (user : Account) :
    AuthTxn (Option LoginResult) := do
  let _ ← updateAccounts [] (byId user.id) (failureRow settings clock user)
  addAuthEvent settings clock
    (loginFailed (some user.id) (if locks settings user then str "LOCKED" else str "BAD_PASSWORD")
      client_key)
  return none

/-- The hash the account keeps after a login. -/
def newHash (salt password : Str) (user : Account) : Str :=
  if passwordNeedsRehash crypto user.password_hash then hashPassword crypto settings salt password
  else user.password_hash

/-- The number of sessions a login evicts, of those it read. -/
def excess (sessions : List Session) : Nat :=
  (((sessions.length : Int) - settings.max_sessions_per_user) + 1).toNat

/-- The session a login creates. -/
def newSession (clock : Clock) (draw : LoginDraw) (client_key user_agent : Option Str)
    (user : Account) : Session where
  id := draw.session_id
  user_id := user.id
  token_hash := hashToken crypto settings draw.token
  csrf_token_hash := hashToken crypto settings draw.csrf_token
  client_key := client_key
  user_agent_summary := summarizeUserAgent py user_agent
  created_at := clock.txNow
  last_seen_at := clock.utcnow
  idle_expires_at := clock.utcnow + minutes settings.session_idle_minutes
  absolute_expires_at := clock.utcnow +
    hours (if user.role = .ADMIN then settings.admin_session_absolute_hours
      else settings.session_absolute_hours)
  revoked_at := none
  revoke_reason := none

/-- The context of an account in a session. -/
def contextOf (a : Account) (session_id : Uuid) : AuthContext :=
  ⟨a.id, session_id, a.username, a.display_name, a.role, a.must_change_password⟩

/-- The sessions a login evicts, of those it read. -/
def evicted (sessions : List Session) : List Uuid :=
  (sessions.take (excess settings sessions)).map (·.id)

/-- `if excess: UPDATE user_sessions SET ... WHERE id=ANY($1::uuid[])` -/
def evictOldest (clock : Clock) (sessions : List Session) : AuthTxn Unit :=
  if excess settings sessions = 0 then return ()
  else do
    let _ ← updateSessions (fun x => (evicted settings sessions).contains x.id)
      (revoke clock.utcnow (str "MAX_SESSIONS"))
    return ()

/-- The audit event of a login. -/
def loginSucceeded (user : Account) (client_key : Option Str) (session_id : Uuid) :
    AuditFields where
  event_type := str "LOGIN_SUCCEEDED"
  outcome := str "SUCCESS"
  actor_user_id := some user.id
  target_user_id := some user.id
  client_key := client_key
  session_id := some session_id

/-- A login with the right password. -/
def loginSucceeds (clock : Clock) (draw : LoginDraw) (scan : Scan Session)
    (client_key user_agent : Option Str) (password : Str) (user : Account) :
    AuthTxn (Option LoginResult) := do
  let _ ← updateAccounts [] (byId user.id)
    (recordLogin (newHash settings crypto draw.salt password user) clock.utcnow clock.txNow)
  let sessions ← selectSessions scan (unrevokedOf user.id)
  evictOldest settings clock sessions
  insertSession (newSession py settings crypto clock draw client_key user_agent user)
  addAuthEvent settings clock (loginSucceeded user client_key draw.session_id)
  return some ⟨contextOf user draw.session_id, draw.token, draw.csrf_token⟩

/-- The automatic unlock of an account whose lock has expired. -/
def autoUnlock (clock : Clock) (found : Account) : AuthTxn Unit :=
  if lockExpired clock.utcnow found then do
    let _ ← updateAccounts [] (byId found.id) expireLock
    return ()
  else return ()

/-- A login on an account that was found. -/
def loginKnown (clock : Clock) (draw : LoginDraw) (scan : Scan Session)
    (client_key user_agent : Option Str) (password : Str) (found : Account) :
    AuthTxn (Option LoginResult) := do
  autoUnlock clock found
  let user := currentUser clock.utcnow found
  if ¬ user.status.usable then
    addAuthEvent settings clock (loginFailed (some user.id) user.status.text client_key)
    return none
  else
    let matched ← verify settings crypto (some user.id) password user.password_hash
    if matched then
      loginSucceeds py settings crypto clock draw scan client_key user_agent password user
    else loginFails settings clock client_key user

/-- A login under a name nobody has. -/
def loginUnknown (clock : Clock) (draw : LoginDraw) (client_key : Option Str) (password : Str) :
    AuthTxn (Option LoginResult) := do
  let _ ← verify settings crypto none password
    (hashPassword crypto settings draw.salt (str "dummy-password-for-timing-only"))
  addAuthEvent settings clock (loginFailed none (str "UNKNOWN_USER") client_key)
  return none

/-- `WHERE username=$1 AND deleted_at IS NULL` -/
def byUsername (username : Str) (a : Account) : Bool := a.username = username && a.deleted_at.isNone

/-- `authenticate(username, password, client_ip, user_agent)` -/
def authenticate (clock : Clock) (draw : LoginDraw) (scan : Scan Session)
    (username password client_ip : Str) (user_agent : Option Str) :
    AuthTxn (Option LoginResult) :=
  let client_key := hashClientIp crypto settings client_ip
  withPool settings do
    match ← selectAccountForUpdate (byUsername username) with
    | none => loginUnknown settings crypto clock draw client_key password
    | some found =>
        loginKnown py settings crypto clock draw scan client_key user_agent password found

/-- `WHERE s.token_hash=$1 AND s.revoked_at IS NULL` -/
def byToken (token_hash : Str) (x : Session) : Bool :=
  x.token_hash = token_hash && x.revoked_at.isNone

/-- The idle or the absolute time of a session is up. -/
def sessionExpired (now : Time) (x : Session) : Bool :=
  x.idle_expires_at ≤ now || x.absolute_expires_at ≤ now

/-- `WHERE id=$1` on sessions -/
def sessionById (id : Uuid) (x : Session) : Bool := x.id = id

/-- The activity of a session is recorded if the last record is five minutes old. -/
def recordActivity (clock : Clock) (x : Session) : AuthTxn Unit :=
  if minutes 5 ≤ clock.utcnow - x.last_seen_at then do
    let _ ← updateSessions (sessionById x.id)
      (touch clock.utcnow (clock.utcnow + minutes settings.session_idle_minutes))
    return ()
  else return ()

/-- `resolve_session(token)` -/
def resolveSession (clock : Clock) (token : Str) : AuthTxn (Option AuthContext) :=
  withPool settings do
    match ← selectSessionForUpdate (byToken (hashToken crypto settings token)) with
    | none => return none
    | some (x, a) =>
        if ¬ a.status.usable ∨ a.deleted_at.isSome then return none
        else if sessionExpired clock.utcnow x then
          let _ ← updateSessions (sessionById x.id) (revoke clock.utcnow (str "EXPIRED"))
          return none
        else
          recordActivity settings clock x
          return some (contextOf a x.id)

/-- `csrf_matches(session_id, token)` -/
def csrfMatches (session_id : Uuid) (token : Str) : AuthTxn Bool :=
  withPool settings (existsSession fun x =>
    x.id = session_id && x.csrf_token_hash = hashToken crypto settings token && x.revoked_at.isNone)

/-- The audit event of `revoke_session`. -/
def sessionRevoked (session_id user_id : Uuid) (reason : Str) : AuditFields where
  event_type := if reason = str "LOGOUT" then str "LOGOUT" else str "SESSION_REVOKED"
  outcome := str "SUCCESS"
  actor_user_id := some user_id
  target_user_id := some user_id
  reason_code := some reason
  session_id := some session_id

/-- `revoke_session(session_id, user_id, reason)` -/
def revokeSession (clock : Clock) (session_id user_id : Uuid) (reason : Str) : AuthTxn Unit :=
  withPool settings do
    let _ ← updateSessions (fun x => x.id = session_id && x.revoked_at.isNone)
      (revoke clock.utcnow reason)
    addAuthEvent settings clock (sessionRevoked session_id user_id reason)

/-- The password verifies against one of the hashes; they are tried in order. -/
def verifiesAny (user_id : Uuid) (password : Str) : List Str → AuthTxn Bool
  | [] => return false
  | hash :: hashes => do
      if ← verify settings crypto (some user_id) password hash then return true
      else verifiesAny user_id password hashes

/-- The audit event of a password change. -/
def passwordChanged (user_id session_id : Uuid) : AuditFields where
  event_type := str "PASSWORD_CHANGED"
  outcome := str "SUCCESS"
  actor_user_id := some user_id
  target_user_id := some user_id
  session_id := some session_id

/-- What `change_password` writes once the new password is accepted. -/
def storePassword (clock : Clock) (scan : Scan PasswordHistory) (salt : Str) (historyId : Nat)
    (context : AuthContext) (user : Account) (new_password : Str) : AuthTxn Bool := do
  insertHistory ⟨historyId, user.id, user.password_hash, clock.txNow⟩
  let _ ← updateAccounts [] (byId user.id)
    (setPassword (hashPassword crypto settings salt new_password) false clock.txNow)
  trimHistory scan (fun r => r.user_id = user.id) settings.password_history_count
  let _ ← updateSessions (fun x => unrevokedOf user.id x && x.id ≠ context.session_id)
    (revoke clock.txNow (str "PASSWORD_CHANGED"))
  addAuthEvent settings clock (passwordChanged user.id context.session_id)
  return true

/-- `change_password(context, current_password, new_password)` -/
def changePassword (clock : Clock) (scan : Scan PasswordHistory) (salt : Str) (historyId : Nat)
    (context : AuthContext) (current_password new_password : Str) : AuthTxn Bool :=
  withPool settings do
    match ← selectAccountForUpdate (byId context.user_id) with
    | none => return false
    | some user =>
        if ← verify settings crypto (some user.id) current_password user.password_hash then
          match validatePassword py new_password user.username with
          | .error message => .raise (.valueError message)
          | .ok _ =>
              let history ← selectHistory scan (fun r => r.user_id = user.id)
                settings.password_history_count
              if ← verifiesAny settings crypto user.id new_password
                  (user.password_hash :: history.map (·.password_hash)) then
                .raise (.valueError (str "최근 사용한 비밀번호는 다시 사용할 수 없습니다."))
              else storePassword settings crypto clock scan salt historyId context user new_password
        else return false

end Programs

-- ── Pieces that run alone ─────────────────────────────────────────────────────────

section Pieces

variable {py : Python} {settings : Settings} {crypto : Crypto} {s : Store}

section Username

variable {username : Str} {a : Account}

theorem byUsername_clash (a b : Account) (ha : byUsername username a = true)
    (hb : byUsername username b = true) : accountClash a b = true := by
  rw [byUsername] at ha hb
  simp only [Bool.and_eq_true, decide_eq_true_eq] at ha hb
  simp [accountClash, ha.1, hb.1]

/-- The row `authenticate` locks is the one with the user name. -/
theorem byUsername_find (hmem : a ∈ s.accounts.rows) (hname : a.username = username)
    (hlive : a.deleted_at = none) : s.accounts.rows.find? (byUsername username) = some a :=
  find?_of_mem accountClash_symm byUsername_clash hmem (by simp [byUsername, hname, hlive])

end Username

section Pool

variable {α : Type} {p : AuthTxn α}

theorem withPool_of_enabled (h : settings.database_enabled = true) : withPool settings p = p := by
  rw [withPool]
  rw [if_pos h]

theorem withPool_of_disabled (h : ¬ settings.database_enabled = true) :
    withPool settings p = .raise .runtimeError := by
  rw [withPool]
  rw [if_neg h]

/-- What holds of a program and of the missing pool. -/
theorem withPool_rule {P : AuthTxn α → Prop} (h : P p) (hraise : P (.raise .runtimeError)) :
    P (withPool settings p) := by
  by_cases hdb : settings.database_enabled = true
  · rw [withPool_of_enabled hdb]
    exact h
  · rw [withPool_of_disabled hdb]
    exact hraise

end Pool

theorem eval_addAuthEvent (clock : Clock) (fields : AuditFields) :
    (addAuthEvent settings clock fields).eval s =
      if (fields.actor_user_id.toList ++ fields.target_user_id.toList).all s.hasAccount then
        .ok ((), s.addAudit (auditRow settings clock fields))
      else .error .foreignKeyViolation := by
  rw [addAuthEvent]
  rw [bind_eq, eval_bind, eval_tell]
  exact eval_insertAudit _

@[simp] theorem trace_addAuthEvent (clock : Clock) (fields : AuditFields) :
    (addAuthEvent settings clock fields).trace s = [.log (logFields fields)] := by
  rw [addAuthEvent]
  rw [bind_eq, trace_bind, eval_tell, trace_tell]
  simp [insertAudit]

/-- An audit event about accounts that exist is stored. -/
theorem eval_addAuthEvent_ok {clock : Clock} {fields : AuditFields}
    (h : ∀ id ∈ fields.actor_user_id.toList ++ fields.target_user_id.toList,
      s.hasAccount id = true) :
    (addAuthEvent settings clock fields).eval s =
      .ok ((), s.addAudit (auditRow settings clock fields)) := by
  rw [eval_addAuthEvent, if_pos (List.all_eq_true.mpr h)]

section Verify

variable {user_id : Option Uuid} {password hash : Str} {matched : Bool}

theorem eval_verify (h : verifyPassword crypto settings password hash = some matched) :
    (verify settings crypto user_id password hash).eval s = .ok (matched, s) := by
  rw [verify]
  rw [h]
  rfl

theorem trace_verify (h : verifyPassword crypto settings password hash = some matched) :
    (verify settings crypto user_id password hash).trace s = [.verify user_id matched] := by
  rw [verify]
  rw [h]
  rfl

/-- A verification that raises does so before it is observed. -/
theorem eval_verify_raises (h : verifyPassword crypto settings password hash = none) :
    (verify settings crypto user_id password hash).eval s = .error .verificationError := by
  rw [verify]
  rw [h]
  rfl

theorem trace_verify_raises (h : verifyPassword crypto settings password hash = none) :
    (verify settings crypto user_id password hash).trace s = [] := by
  rw [verify]
  rw [h]
  rfl

end Verify

/-- An update of one account that leaves the unique columns alone. -/
theorem eval_updateAccount {keys : List LockKey} {id : Uuid} {f : Account → Account}
    (hf : KeepsKeys f) :
    (updateAccounts keys (byId id) f).eval s =
      .ok ((s.accounts.rows.filter (byId id)).map f, s.setAccount id f) :=
  eval_updateAccounts_plain hf

/-- The store after the automatic unlock. -/
def unlockStore (now : Time) (found : Account) (s : Store) : Store :=
  if lockExpired now found then s.setAccount found.id expireLock else s

section Unlock

variable {now : Time} {a : Account}

/-- A lock that has run out is gone, in the row and in the store; any other lock stays. -/
theorem currentUser_of_expired (h : lockExpired now a = true) :
    currentUser now a = expireLock a := by
  rw [currentUser]
  rw [if_pos h]

theorem currentUser_of_live (h : lockExpired now a = false) : currentUser now a = a := by
  rw [currentUser]
  rw [h, if_neg Bool.false_ne_true]

theorem unlockStore_of_expired (h : lockExpired now a = true) :
    unlockStore now a s = s.setAccount a.id expireLock := by
  rw [unlockStore]
  rw [if_pos h]

theorem unlockStore_of_live (h : lockExpired now a = false) : unlockStore now a s = s := by
  rw [unlockStore]
  rw [h, if_neg Bool.false_ne_true]

/-- What the unlock of a row leaves alone is the same in the row the login goes on with. -/
theorem currentUser_same {β : Type} (f : Account → β) (hf : ∀ b, f (expireLock b) = f b) :
    f (currentUser now a) = f a := by
  cases h : lockExpired now a with
  | true =>
      rw [currentUser_of_expired h]
      exact hf a
  | false => rw [currentUser_of_live h]

@[simp] theorem currentUser_id (now : Time) (a : Account) : (currentUser now a).id = a.id :=
  currentUser_same (·.id) fun _ => rfl

@[simp] theorem currentUser_username (now : Time) (a : Account) :
    (currentUser now a).username = a.username :=
  currentUser_same (·.username) fun _ => rfl

@[simp] theorem currentUser_password_hash (now : Time) (a : Account) :
    (currentUser now a).password_hash = a.password_hash :=
  currentUser_same (·.password_hash) fun _ => rfl

@[simp] theorem currentUser_role (now : Time) (a : Account) : (currentUser now a).role = a.role :=
  currentUser_same (·.role) fun _ => rfl

@[simp] theorem currentUser_deleted_at (now : Time) (a : Account) :
    (currentUser now a).deleted_at = a.deleted_at :=
  currentUser_same (·.deleted_at) fun _ => rfl

end Unlock

@[simp] theorem unlockStore_sessions {now : Time} {found : Account} :
    (unlockStore now found s).sessions = s.sessions := by
  rw [unlockStore]
  split <;> rfl

theorem hasAccount_unlockStore {now : Time} {found : Account} {u : Uuid} :
    (unlockStore now found s).hasAccount u = s.hasAccount u := by
  rw [unlockStore]
  split
  · exact hasAccount_setAccount expireLock_keeps
  · rfl

@[simp] theorem eval_autoUnlock (clock : Clock) (found : Account) :
    (autoUnlock clock found).eval s = .ok ((), unlockStore clock.utcnow found s) := by
  rw [autoUnlock, unlockStore]
  split
  · rw [bind_eq, eval_bind, eval_updateAccount expireLock_keeps]
    rfl
  · rfl

@[simp] theorem trace_autoUnlock (clock : Clock) (found : Account) :
    (autoUnlock clock found).trace s = [] := by
  rw [autoUnlock]
  split
  · rw [bind_eq, trace_bind, eval_updateAccount expireLock_keeps]
    simp [updateAccounts]
    rfl
  · rfl

/-- Without sessions to evict nothing changes. -/
theorem setSessions_evict_none {time : Time} {reason : Str} {sessions : List Session}
    (h : excess settings sessions = 0) :
    s.setSessions (fun x => (evicted settings sessions).contains x.id)
      (revoke time reason) = s := by
  have hnone : evicted settings sessions = [] := by
    rw [evicted]
    rw [h]
    rfl
  rw [Store.setSessions, Store.alterSessions]
  rw [alter_eq_self (updateWhere_none fun x _ => by rw [hnone]; rfl)]

/-- The store after the eviction is the same expression whether or not there are sessions to
    evict. -/
@[simp] theorem eval_evictOldest (clock : Clock) (sessions : List Session) :
    (evictOldest settings clock sessions).eval s =
      .ok ((), s.setSessions (fun x => (evicted settings sessions).contains x.id)
        (revoke clock.utcnow (str "MAX_SESSIONS"))) := by
  rw [evictOldest]
  split
  · rename_i h0
    rw [setSessions_evict_none h0]
    rfl
  · rw [bind_eq, eval_bind, eval_updateSessions]
    rfl

@[simp] theorem trace_evictOldest (clock : Clock) (sessions : List Session) :
    (evictOldest settings clock sessions).trace s = [] := by
  rw [evictOldest]
  split
  · rfl
  · rw [bind_eq, trace_bind, eval_updateSessions]
    simp [updateSessions]
    rfl

end Pieces

end NetProbeAuthService
