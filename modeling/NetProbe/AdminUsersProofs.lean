import NetProbe.AuthServiceProofs

/-!
# Account administration

`app/api/admin_users.py` and the `create-admin` command of `app/cli.py` as transaction programs.
The request bodies carry what their schemas check.  A route gets the id of the administrator
who calls it as `actor`.

`UpdateUser` lists the ways through `update_user` run alone, with the guard of the last
administrator and every later failure apart; the other routes have one lemma each that
says what a commit leaves behind.
-/

namespace NetProbeAdminUsers

open NetProbePyText NetProbeColumnTypes NetProbeConfig NetProbeCoreAuth NetProbeAccountStore
open NetProbeAuthService UniqueTable Transaction Transaction.Txn

-- ── Request bodies ────────────────────────────────────────────────────────────────

/-- `UserCreateRequest` -/
structure UserCreateRequest where
  username : Str
  display_name : Str
  email : Option Str := none
  role : Role := .OPERATOR
  temporary_password : Str
  username_matches : usernameMatches username = true
  display_name_length : 1 ≤ display_name.length ∧ display_name.length ≤ 100
  email_length : ∀ text ∈ email, text.length ≤ 320
  password_length : 12 ≤ temporary_password.length ∧ temporary_password.length ≤ 128

/-- `UserUpdateRequest` -/
structure UserUpdateRequest where
  display_name : Option Str := none
  email : Option Str := none
  role : Option Role := none
  status : Option AccountStatus := none
  display_name_length : ∀ text ∈ display_name, 1 ≤ text.length ∧ text.length ≤ 100
  email_length : ∀ text ∈ email, text.length ≤ 320

/-- `AdminResetPasswordRequest` -/
structure AdminResetPasswordRequest where
  temporary_password : Str
  password_length : 12 ≤ temporary_password.length ∧ temporary_password.length ≤ 128

/-- A body for testing. -/
def UserCreateRequest.sample : UserCreateRequest where
  username := str "operator2"
  display_name := str "operator"
  temporary_password := str "first long secret"
  username_matches := by decide
  display_name_length := by decide
  email_length := by simp
  password_length := by decide

/-- A patch of role and status alone. -/
def UserUpdateRequest.patch (role : Option Role) (status : Option AccountStatus) :
    UserUpdateRequest where
  role := role
  status := status
  display_name_length := by simp
  email_length := by simp

-- ── Errors ────────────────────────────────────────────────────────────────────────

def userNotFound : AuthError :=
  .httpException 404 (str "USER_NOT_FOUND") (str "사용자를 찾을 수 없습니다.")

def lastAdminProtected : AuthError :=
  .httpException 409 (str "LAST_ADMIN_PROTECTED") (str "마지막 관리자 계정은 변경할 수 없습니다.")

/-- `except asyncpg.UniqueViolationError as exc: raise HTTPException(409, ...)` -/
def usernameExists : AuthError → AuthError
  | .uniqueViolation =>
      .httpException 409 (str "USERNAME_ALREADY_EXISTS") (str "이미 사용 중인 아이디 또는 이메일입니다.")
  | e => e

/-- The same of the command line. -/
def adminExists : AuthError → AuthError
  | .uniqueViolation => .systemExit (str "이미 존재하는 아이디 또는 이메일입니다.")
  | e => e

-- ── The programs ──────────────────────────────────────────────────────────────────

/-- An administrator who can log in: what the guard of the last administrator counts. -/
def usableAdmin (a : Account) : Bool := a.role = .ADMIN && a.status.usable && a.deleted_at.isNone

/-- `WHERE id=$1 AND deleted_at IS NULL` -/
def byLiveId (id : Uuid) (a : Account) : Bool := a.id = id && a.deleted_at.isNone

/-- `payload.role not in {None, "ADMIN"}` -/
def UserUpdateRequest.demotes (payload : UserUpdateRequest) : Bool := payload.role.any (· ≠ .ADMIN)

/-- The condition under which `update_user` counts the administrators. -/
def countsAdmins (payload : UserUpdateRequest) (user : Account) : Bool :=
  user.role = .ADMIN && (payload.demotes || payload.status = some .DISABLED)

section Programs

variable (py : Python) (settings : Settings) (crypto : Crypto)

/-- A row that a command or a route creates. -/
def newAccount (clock : Clock) (id : Uuid) (username : Str) (email : Option Str)
    (display_name password_hash : Str) (role : Role) (status : AccountStatus)
    (created_by : Option Uuid) : Account where
  id := id
  username := username
  email := email
  display_name := display_name
  password_hash := password_hash
  role := role
  status := status
  must_change_password := true
  failed_login_count := 0
  locked_until := none
  last_login_at := none
  password_changed_at := clock.txNow
  created_by := created_by
  created_at := clock.txNow
  updated_at := clock.txNow
  disabled_at := none
  deleted_at := none
  version := 1

/-- The texts fit their columns. -/
def accountFits (username : Str) (email : Option Str) (display_name : Str) : Bool :=
  fits 50 username && email.all (fits 320) && fits 100 display_name

/-- `INSERT INTO user_accounts ...` -/
def storeAccount (row : Account) : AuthTxn Account :=
  if accountFits row.username row.email row.display_name then insertAccount row
  else .raise .dataError

/-- The audit event of a route, about an account. -/
def adminEvent (event_type : Str) (actor user_id : Uuid) (details : SafeDetails) : AuditFields where
  event_type := event_type
  outcome := str "SUCCESS"
  actor_user_id := some actor
  target_user_id := some user_id
  details := details

/-- The row `create_user` inserts. -/
def createdAccount (clock : Clock) (actor user_id : Uuid) (salt : Str)
    (payload : UserCreateRequest) :
    Account :=
  newAccount clock user_id payload.username
    (match payload.email with
      | none | some [] => none
      | some email => some (strip py (py.lower email)))
    (strip py payload.display_name) (hashPassword crypto settings salt payload.temporary_password)
    payload.role .PENDING (some actor)

/-- `create_user(payload, context)` -/
def createUser (clock : Clock) (actor user_id : Uuid) (salt : Str) (payload : UserCreateRequest) :
    AuthTxn Account :=
  match validatePassword py payload.temporary_password payload.username with
  | .error message => .raise (.valueError message)
  | .ok _ => withPool settings (handle usernameExists do
      let user ← storeAccount (createdAccount py settings crypto clock actor user_id salt payload)
      addAuthEvent settings clock
        (adminEvent (str "ACCOUNT_CREATED") actor user_id { role := some payload.role })
      return user)

/-- The address that the column keeps of one as it was typed. -/
def keptEmail (email : Option Str) : Option Str := email.map (cut 320)

/-- `create_admin(username, display_name, email)`, with the two passwords that are typed. -/
def createAdmin (clock : Clock) (user_id : Uuid) (salt username display_name : Str)
    (email : Option Str) (password confirm : Str) : AuthTxn Account :=
  match normalizeUsername py username with
  | .error message => .raise (.valueError message)
  | .ok username =>
      if password ≠ confirm then .raise (.systemExit (str "비밀번호가 일치하지 않습니다."))
      else
        match validatePassword py password username with
        | .error message => .raise (.valueError message)
        | .ok _ => withPool settings (handle adminExists (storeAccount
            (newAccount clock user_id username (keptEmail email) (strip py display_name)
              (hashPassword crypto settings salt password) .ADMIN .ACTIVE none)))

/-- The e-mail address a patch brings in. -/
def newEmail (payload : UserUpdateRequest) : Option Str :=
  match payload.email with
  | none | some [] => none
  | some email => some (py.lower (strip py email))

/-- The display name a patch brings in. -/
def newDisplayName (payload : UserUpdateRequest) : Option Str :=
  match payload.display_name with
  | none | some [] => none
  | some name => some (strip py name)

/-- `SET display_name=COALESCE($2,display_name), ...` -/
def patched (clock : Clock) (payload : UserUpdateRequest) (a : Account) : Account :=
  { a with
    display_name := (newDisplayName py payload).getD a.display_name
    email := (newEmail py payload).or a.email
    role := payload.role.getD a.role
    status := payload.status.getD a.status
    disabled_at := if payload.status = some .DISABLED then some clock.txNow else a.disabled_at
    version := a.version + 1
    updated_at := clock.txNow }

/-- The texts of a patch fit their columns, and so does the next version of the account. -/
def patchFits (payload : UserUpdateRequest) (user : Account) : Bool :=
  (newEmail py payload).all (fits 320) && (newDisplayName py payload).all (fits 100) &&
    user.version < 2147483647

/-- The guard of the last administrator. -/
def lastAdminGuard (payload : UserUpdateRequest) (user : Account) : AuthTxn Unit :=
  if countsAdmins payload user then do
    let count ← countAccounts usableAdmin
    if count ≤ 1 then .raise lastAdminProtected else return ()
  else return ()

/-- `if payload.status == "DISABLED": UPDATE user_sessions SET ...` -/
def revokeDisabled (clock : Clock) (user_id : Uuid) (payload : UserUpdateRequest) : AuthTxn Unit :=
  if payload.status = some .DISABLED then do
    let _ ← updateSessions (unrevokedOf user_id) (revoke clock.txNow (str "ACCOUNT_DISABLED"))
    return ()
  else return ()

/-- The audit event of a patch. -/
def accountUpdated (actor user_id : Uuid) (payload : UserUpdateRequest) : AuditFields :=
  adminEvent (str "ACCOUNT_UPDATED") actor user_id
    { role := payload.role, status := payload.status }

/-- What `update_user` writes once the guard has let it pass. -/
def storePatch (clock : Clock) (actor user_id : Uuid) (payload : UserUpdateRequest)
    (user : Account) : AuthTxn (Option Account) :=
  if patchFits py payload user then do
    let updated ← updateAccounts ((newEmail py payload).map LockKey.accountEmail).toList
      (byId user_id) (patched py clock payload)
    revokeDisabled clock user_id payload
    addAuthEvent settings clock (accountUpdated actor user_id payload)
    return updated.head?
  else .raise .dataError

/-- `update_user(user_id, payload, context)` -/
def updateUser (clock : Clock) (actor user_id : Uuid) (payload : UserUpdateRequest) :
    AuthTxn (Option Account) :=
  withPool settings do
    match ← selectAccountForUpdate (byLiveId user_id) with
    | none => .raise userNotFound
    | some user =>
        lastAdminGuard payload user
        storePatch py settings clock actor user_id payload user

/-- The row after an unlock. -/
def unlocked (txNow : Time) (a : Account) : Account :=
  { a with status := .ACTIVE, failed_login_count := 0, locked_until := none, updated_at := txNow }

/-- `unlock_user(user_id, context)` -/
def unlockUser (clock : Clock) (actor user_id : Uuid) : AuthTxn Unit :=
  withPool settings do
    let rows ← updateAccounts [] (byId user_id) (unlocked clock.txNow)
    if rows.length = 0 then .raise userNotFound
    else addAuthEvent settings clock (adminEvent (str "ACCOUNT_UNLOCKED") actor user_id {})

/-- What `reset_password` writes once the new password is accepted. -/
def storeReset (clock : Clock) (actor user_id : Uuid) (salt : Str) (historyId : Nat)
    (payload : AdminResetPasswordRequest) (user : Account) : AuthTxn Unit := do
  insertHistory ⟨historyId, user_id, user.password_hash, clock.txNow⟩
  let _ ← updateAccounts [] (byId user_id)
    (setPassword (hashPassword crypto settings salt payload.temporary_password) true clock.txNow)
  let _ ← updateSessions (unrevokedOf user_id) (revoke clock.txNow (str "PASSWORD_RESET"))
  addAuthEvent settings clock (adminEvent (str "PASSWORD_RESET_BY_ADMIN") actor user_id {})

/-- `reset_password(user_id, payload, context)` -/
def resetPassword (clock : Clock) (actor user_id : Uuid) (salt : Str) (historyId : Nat)
    (payload : AdminResetPasswordRequest) : AuthTxn Unit :=
  withPool settings do
    match ← selectAccountForUpdate (byId user_id) with
    | none => .raise userNotFound
    | some user =>
        match validatePassword py payload.temporary_password user.username with
        | .error message => .raise (.valueError message)
        | .ok _ => storeReset settings crypto clock actor user_id salt historyId payload user

/-- `revoke_user_sessions(user_id, context)`: the number of sessions revoked. -/
def revokeUserSessions (clock : Clock) (actor user_id : Uuid) : AuthTxn Nat :=
  withPool settings do
    let rows ← updateSessions (unrevokedOf user_id) (revoke clock.txNow (str "ADMIN_REVOKED"))
    addAuthEvent settings clock
      (adminEvent (str "SESSION_REVOKED") actor user_id { count := some rows.length })
    return rows.length

end Programs

-- ── What a patch does ─────────────────────────────────────────────────────────────

section Patch

variable {py : Python} {settings : Settings} {clock : Clock} {actor user_id : Uuid}
  {payload : UserUpdateRequest} {s : Store}

/-- The administrators who can log in. -/
def usableAdmins (s : Store) : List Account := s.accounts.rows.filter usableAdmin

/-- The guard lets the request on this row pass. -/
def GuardPasses (payload : UserUpdateRequest) (user : Account) (s : Store) : Prop :=
  countsAdmins payload user = true → 1 < (usableAdmins s).length

/-- The store after `revokeDisabled`. -/
def revokedStore (clock : Clock) (user_id : Uuid) (payload : UserUpdateRequest)
    (s : Store) : Store :=
  if payload.status = some .DISABLED then
    s.setSessions (unrevokedOf user_id) (revoke clock.txNow (str "ACCOUNT_DISABLED"))
  else s

/-- The store after a patch. -/
def patchedStore (py : Python) (settings : Settings) (clock : Clock) (actor user_id : Uuid)
    (payload : UserUpdateRequest) (s : Store) : Store :=
  (revokedStore clock user_id payload (s.setAccount user_id (patched py clock payload))).addAudit
    (auditRow settings clock (accountUpdated actor user_id payload))

/-- The exceptions a patch can end in after the guard. -/
def PatchFailure (e : AuthError) : Prop :=
  e = .dataError ∨ e = .uniqueViolation ∨ e = .foreignKeyViolation

/-- The ways through `update_user` run alone. -/
inductive UpdateUser (py : Python) (settings : Settings) (clock : Clock) (actor user_id : Uuid)
    (payload : UserUpdateRequest) (s : Store) :
      Except AuthError (Option Account × Store) → Prop where
  | noPool (hdb : settings.database_enabled = false) :
      UpdateUser py settings clock actor user_id payload s (.error .runtimeError)
  | notFound (hdb : settings.database_enabled = true)
      (hfind : s.accounts.rows.find? (byLiveId user_id) = none) :
      UpdateUser py settings clock actor user_id payload s (.error userNotFound)
  /-- The guard refuses the request. -/
  | guarded {user : Account} (hdb : settings.database_enabled = true)
      (hfind : s.accounts.rows.find? (byLiveId user_id) = some user)
      (hlast : ¬ GuardPasses payload user s) :
      UpdateUser py settings clock actor user_id payload s (.error lastAdminProtected)
  /-- A text does not fit, the e-mail address is taken, or the actor does not exist. -/
  | raised {user : Account} {e : AuthError} (hdb : settings.database_enabled = true)
      (hfind : s.accounts.rows.find? (byLiveId user_id) = some user)
      (hpass : GuardPasses payload user s) (he : PatchFailure e) :
      UpdateUser py settings clock actor user_id payload s (.error e)
  | updated {user : Account} {row : Option Account} (hdb : settings.database_enabled = true)
      (hfind : s.accounts.rows.find? (byLiveId user_id) = some user)
      (hpass : GuardPasses payload user s)
      (haccepts : s.accounts.Accepts (updateWhere (byId user_id) (patched py clock payload))) :
      UpdateUser py settings clock actor user_id payload s
        (.ok (row, patchedStore py settings clock actor user_id payload s))

theorem byLiveId_clash (a b : Account) (ha : byLiveId user_id a = true)
    (hb : byLiveId user_id b = true) : accountClash a b = true := by
  rw [byLiveId] at ha hb
  simp only [Bool.and_eq_true, decide_eq_true_eq] at ha hb
  simp [accountClash, ha.1, hb.1]

theorem find_byLiveId {user : Account} (h : s.accounts.rows.find? (byLiveId user_id) = some user) :
    user ∈ s.accounts.rows ∧ user.id = user_id ∧ user.deleted_at = none := by
  have hp := List.find?_some h
  rw [byLiveId] at hp
  simp only [Bool.and_eq_true, decide_eq_true_eq, Option.isNone_iff_eq_none] at hp
  exact ⟨List.mem_of_find?_eq_some h, hp⟩

/-- The row `update_user` locks is the one with the id. -/
theorem byLiveId_find {user : Account} (hmem : user ∈ s.accounts.rows) (hid : user.id = user_id)
    (hlive : user.deleted_at = none) : s.accounts.rows.find? (byLiveId user_id) = some user :=
  find?_of_mem accountClash_symm byLiveId_clash hmem (by simp [byLiveId, hid, hlive])

theorem eval_lastAdminGuard (payload : UserUpdateRequest) (user : Account) (s : Store) :
    (lastAdminGuard payload user).eval s =
      if countsAdmins payload user = true ∧ (usableAdmins s).length ≤ 1 then
        .error lastAdminProtected
      else .ok ((), s) := by
  rw [lastAdminGuard]
  by_cases hc : countsAdmins payload user = true
  · rw [if_pos hc, bind_eq, eval_bind_of_ok (eval_countAccounts _)]
    by_cases hn : (s.accounts.rows.filter usableAdmin).length ≤ 1
    · rw [if_pos hn]
      exact (if_pos ⟨hc, hn⟩).symm
    · rw [if_neg hn]
      exact (if_neg fun h => hn h.2).symm
  · rw [if_neg hc, if_neg fun h => hc h.1]
    rfl

theorem eval_revokeDisabled (u : Uuid) :
    (revokeDisabled clock u payload).eval s =
      .ok ((), revokedStore clock u payload s) := by
  rw [revokeDisabled, revokedStore]
  split
  · rw [bind_eq, eval_bind_of_ok (eval_updateSessions _ _)]
    rfl
  · rfl

/-- Storing a patch run alone. -/
theorem storePatch_cases (py : Python) (settings : Settings) (clock : Clock) (actor user_id : Uuid)
    (payload : UserUpdateRequest) (user : Account) (s : Store) :
    (∃ e, PatchFailure e ∧
      (storePatch py settings clock actor user_id payload user).eval s = .error e) ∨
      s.accounts.Accepts (updateWhere (byId user_id) (patched py clock payload)) ∧
        ∃ row, (storePatch py settings clock actor user_id payload user).eval s =
          .ok (row, patchedStore py settings clock actor user_id payload s) := by
  rw [storePatch]
  by_cases hfits : patchFits py payload user = true
  · rw [if_pos hfits, bind_eq]
    have hupdate := eval_updateAccounts (s := s)
      ((newEmail py payload).map LockKey.accountEmail).toList (byId user_id)
      (patched py clock payload)
    by_cases hacc : s.accounts.Accepts (updateWhere (byId user_id) (patched py clock payload))
    · rw [if_pos hacc] at hupdate
      rw [eval_bind_of_ok hupdate, bind_eq, eval_bind_of_ok (eval_revokeDisabled _), bind_eq,
        eval_bind, eval_addAuthEvent]
      split
      · exact Or.inr ⟨hacc, _, rfl⟩
      · exact Or.inl ⟨_, Or.inr (Or.inr rfl), rfl⟩
    · rw [if_neg hacc] at hupdate
      exact Or.inl ⟨_, Or.inr (Or.inl rfl), eval_bind_of_error hupdate⟩
  · rw [if_neg hfits]
    exact Or.inl ⟨_, Or.inl rfl, rfl⟩

/-- **What `update_user` can do**, run alone. -/
theorem updateUser_cases (py : Python) (settings : Settings) (clock : Clock) (actor user_id : Uuid)
    (payload : UserUpdateRequest) (s : Store) :
    UpdateUser py settings clock actor user_id payload s
      ((updateUser py settings clock actor user_id payload).eval s) := by
  rw [updateUser]
  by_cases hdb : settings.database_enabled = true
  · rw [withPool_of_enabled hdb, bind_eq, eval_bind_of_ok (eval_selectAccountForUpdate _)]
    cases hfind : s.accounts.rows.find? (byLiveId user_id) with
    | none => exact .notFound hdb hfind
    | some user =>
        dsimp only
        have hguard := eval_lastAdminGuard payload user s
        rw [bind_eq]
        by_cases hlast : countsAdmins payload user = true ∧ (usableAdmins s).length ≤ 1
        · rw [if_pos hlast] at hguard
          rw [eval_bind_of_error hguard]
          refine .guarded hdb hfind fun hpass => ?_
          have := hpass hlast.1
          omega
        · rw [if_neg hlast] at hguard
          rw [eval_bind_of_ok hguard]
          have hpass : GuardPasses payload user s := fun hc => by
            by_contra hn
            exact hlast ⟨hc, by omega⟩
          rcases storePatch_cases py settings clock actor user_id payload user s with
            ⟨e, he, heval⟩ | ⟨hacc, row, heval⟩
          · rw [heval]
            exact .raised hdb hfind hpass he
          · rw [heval]
            exact .updated hdb hfind hpass hacc
  · rw [withPool_of_disabled hdb]
    exact .noPool (by simpa using hdb)

end Patch

-- ── What the other routes do ──────────────────────────────────────────────────────

section Routes

variable {py : Python} {settings : Settings} {crypto : Crypto} {clock : Clock}
  {actor user_id : Uuid} {s : Store}

theorem unlocked_keeps {txNow : Time} : KeepsKeys (unlocked txNow) := fun _ => ⟨rfl, rfl, rfl⟩

/-- The store after an unlock. -/
def unlockedStore (settings : Settings) (clock : Clock) (actor user_id : Uuid)
    (s : Store) : Store :=
  (s.setAccount user_id (unlocked clock.txNow)).addAudit
    (auditRow settings clock (adminEvent (str "ACCOUNT_UNLOCKED") actor user_id {}))

/-- `unlock_user` on an account that exists, by one that exists, unlocks it whatever its status. -/
theorem eval_unlockUser_ok (hdb : settings.database_enabled = true)
    (huser : s.hasAccount user_id = true) (hactor : s.hasAccount actor = true) :
    (unlockUser settings clock actor user_id).eval s =
      .ok ((), unlockedStore settings clock actor user_id s) := by
  have hrows : ((s.accounts.rows.filter (byId user_id)).map (unlocked clock.txNow)).length ≠ 0 := by
    obtain ⟨a, ha, hid⟩ := exists_of_hasAccount huser
    rw [List.length_map, byId_filter ha hid]
    exact Nat.one_ne_zero
  rw [unlockUser]
  rw [withPool_of_enabled hdb, bind_eq, eval_bind_of_ok (eval_updateAccount unlocked_keeps),
    if_neg hrows]
  refine eval_addAuthEvent_ok fun id hid => ?_
  rw [hasAccount_setAccount unlocked_keeps]
  have hcases : id = actor ∨ id = user_id := by simpa [adminEvent] using hid
  rcases hcases with rfl | rfl
  · exact hactor
  · exact huser

theorem unlockUser_cases (settings : Settings) (clock : Clock) (actor user_id : Uuid) (s : Store) :
    (∃ e, (unlockUser settings clock actor user_id).eval s = .error e) ∨
      (unlockUser settings clock actor user_id).eval s =
        .ok ((), unlockedStore settings clock actor user_id s) := by
  rw [unlockUser, withPool]
  split
  · rw [bind_eq, eval_bind_of_ok (eval_updateAccount unlocked_keeps)]
    split
    · exact Or.inl ⟨_, rfl⟩
    · rw [eval_addAuthEvent]
      split
      · exact Or.inr rfl
      · exact Or.inl ⟨_, rfl⟩
  · exact Or.inl ⟨_, rfl⟩

/-- The store after a password reset. -/
def resetStore (settings : Settings) (crypto : Crypto) (clock : Clock) (actor user_id : Uuid)
    (salt : Str) (historyId : Nat) (payload : AdminResetPasswordRequest)
    (user : Account) (s : Store) :
    Store :=
  (((s.alterHistory (· ++ [⟨historyId, user_id, user.password_hash, clock.txNow⟩])).setAccount
    user_id
      (setPassword (hashPassword crypto settings salt payload.temporary_password) true
        clock.txNow)).setSessions (unrevokedOf user_id)
      (revoke clock.txNow (str "PASSWORD_RESET"))).addAudit
    (auditRow settings clock (adminEvent (str "PASSWORD_RESET_BY_ADMIN") actor user_id {}))

/-- **What `reset_password` can do**, run alone. -/
theorem resetPassword_cases (py : Python) (settings : Settings) (crypto : Crypto) (clock : Clock)
    (actor user_id : Uuid) (salt : Str) (historyId : Nat) (payload : AdminResetPasswordRequest)
    (s : Store) :
    (∃ e, (resetPassword py settings crypto clock actor user_id salt historyId payload).eval s =
        .error e) ∨
      ∃ user,
        (settings.database_enabled = true ∧ s.accounts.rows.find? (byId user_id) = some user) ∧
        validatePassword py payload.temporary_password user.username = .ok () ∧
        s.history.Accepts (· ++ [⟨historyId, user_id, user.password_hash, clock.txNow⟩]) ∧
        (resetPassword py settings crypto clock actor user_id salt historyId payload).eval s =
          .ok
            ((), resetStore settings crypto clock actor user_id salt historyId payload user s) := by
  rw [resetPassword, withPool]
  split
  · rename_i hdb
    rw [bind_eq, eval_bind_of_ok (eval_selectAccountForUpdate _)]
    cases hfind : s.accounts.rows.find? (byId user_id) with
    | none => exact Or.inl ⟨_, rfl⟩
    | some user =>
        dsimp only
        cases hpolicy : validatePassword py payload.temporary_password user.username with
        | error message => exact Or.inl ⟨_, rfl⟩
        | ok _ =>
            dsimp only
            rw [storeReset]
            have hins := eval_insertHistory (s := s)
              ⟨historyId, user_id, user.password_hash, clock.txNow⟩
            rw [bind_eq]
            split at hins
            · exact Or.inl ⟨_, eval_bind_of_error hins⟩
            · split at hins
              · rename_i hacc
                rw [eval_bind_of_ok hins, bind_eq,
                  eval_bind_of_ok (eval_updateAccount setPassword_keeps),
                  bind_eq, eval_bind_of_ok (eval_updateSessions _ _), eval_addAuthEvent]
                split
                · exact Or.inr ⟨user, ⟨hdb, rfl⟩, hpolicy, hacc, rfl⟩
                · exact Or.inl ⟨_, rfl⟩
              · exact Or.inl ⟨_, eval_bind_of_error hins⟩
  · exact Or.inl ⟨_, rfl⟩

/-- **What `revoke_user_sessions` can do**, run alone. -/
theorem revokeUserSessions_cases (settings : Settings) (clock : Clock) (actor user_id : Uuid)
    (s : Store) :
    (∃ e, (revokeUserSessions settings clock actor user_id).eval s = .error e) ∨
      ∃ n details, (revokeUserSessions settings clock actor user_id).eval s =
        .ok (n, (s.setSessions (unrevokedOf user_id)
          (revoke clock.txNow (str "ADMIN_REVOKED"))).addAudit (auditRow settings clock
            (adminEvent (str "SESSION_REVOKED") actor user_id details))) := by
  rw [revokeUserSessions, withPool]
  split
  · rw [bind_eq, eval_bind_of_ok (eval_updateSessions _ _), bind_eq, eval_bind, eval_addAuthEvent]
    split
    · exact Or.inr ⟨_, _, rfl⟩
    · exact Or.inl ⟨_, rfl⟩
  · exact Or.inl ⟨_, rfl⟩

theorem storeAccount_cases (row : Account) :
    (∃ e, (storeAccount row).eval s = .error e) ∨
      s.accounts.Accepts (· ++ [row]) ∧
        (storeAccount row).eval s = .ok (row, s.alterAccounts (· ++ [row])) := by
  rw [storeAccount]
  split
  · rw [eval_insertAccount]
    split
    · exact Or.inl ⟨_, rfl⟩
    · split
      · rename_i hacc
        exact Or.inr ⟨hacc, rfl⟩
      · exact Or.inl ⟨_, rfl⟩
  · exact Or.inl ⟨_, rfl⟩

theorem eval_handle_of_error {α : Type} {g : AuthError → AuthError} {p : AuthTxn α} {e : AuthError}
    (h : p.eval s = .error e) : (p.handle g).eval s = .error (g e) := by
  rw [eval_handle, h]
  rfl

theorem eval_handle_of_ok {α : Type} {g : AuthError → AuthError} {p : AuthTxn α} {r : α × Store}
    (h : p.eval s = .ok r) : (p.handle g).eval s = .ok r := by
  rw [eval_handle, h]
  rfl

/-- **What `create_user` can do**, run alone: it raises, or it stores one account. -/
theorem createUser_cases (py : Python) (settings : Settings) (crypto : Crypto) (clock : Clock)
    (actor user_id : Uuid) (salt : Str) (payload : UserCreateRequest) (s : Store) :
    (∃ e, (createUser py settings crypto clock actor user_id salt payload).eval s = .error e) ∨
      s.accounts.Accepts
        (· ++ [createdAccount py settings crypto clock actor user_id salt payload]) ∧
        (createUser py settings crypto clock actor user_id salt payload).eval s =
          .ok (createdAccount py settings crypto clock actor user_id salt payload,
            (s.alterAccounts (· ++
              [createdAccount py settings crypto clock actor user_id salt payload])).addAudit
              (auditRow settings clock (adminEvent (str "ACCOUNT_CREATED") actor user_id
                { role := some payload.role }))) := by
  rw [createUser, withPool]
  cases validatePassword py payload.temporary_password payload.username with
  | error message => exact Or.inl ⟨_, rfl⟩
  | ok _ =>
      dsimp only
      split
      · rcases storeAccount_cases (s := s)
          (createdAccount py settings crypto clock actor user_id salt payload)
            with ⟨e, he⟩ | ⟨hacc, hok⟩
        · exact Or.inl ⟨_, eval_handle_of_error (eval_bind_of_error he)⟩
        · rw [eval_handle, bind_eq, eval_bind_of_ok hok, bind_eq, eval_bind, eval_addAuthEvent]
          split
          · exact Or.inr ⟨hacc, rfl⟩
          · exact Or.inl ⟨_, rfl⟩
      · exact Or.inl ⟨_, rfl⟩

/-- **What `create-admin` can do**, run alone: it stops, or it stores one active account. -/
theorem createAdmin_cases (py : Python) (settings : Settings) (crypto : Crypto) (clock : Clock)
    (user_id : Uuid) (salt username display_name : Str) (email : Option Str)
    (password confirm : Str)
    (s : Store) :
    (∃ e, (createAdmin py settings crypto clock user_id salt username display_name email password
        confirm).eval s = .error e) ∨
      ∃ row : Account, (row.status = .ACTIVE ∧ row.deleted_at = none) ∧
        s.accounts.Accepts (· ++ [row]) ∧
        (createAdmin py settings crypto clock user_id salt username display_name email password
          confirm).eval s = .ok (row, s.alterAccounts (· ++ [row])) := by
  unfold createAdmin withPool
  cases normalizeUsername py username with
  | error message => exact Or.inl ⟨_, rfl⟩
  | ok name =>
      dsimp only
      split
      · exact Or.inl ⟨_, rfl⟩
      · cases validatePassword py password name with
        | error message => exact Or.inl ⟨_, rfl⟩
        | ok _ =>
            dsimp only
            split
            · rcases storeAccount_cases (s := s) (newAccount clock user_id name (keptEmail email)
                (strip py display_name) (hashPassword crypto settings salt password) .ADMIN .ACTIVE
                none) with ⟨e, he⟩ | ⟨hacc, hok⟩
              · exact Or.inl ⟨_, eval_handle_of_error he⟩
              · exact Or.inr ⟨_, ⟨rfl, rfl⟩, hacc, eval_handle_of_ok hok⟩
            · exact Or.inl ⟨_, rfl⟩

end Routes

end NetProbeAdminUsers
