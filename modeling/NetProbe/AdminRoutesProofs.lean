import NetProbe.AuthDepsProofs

/-!
# The routes of account administration

The handlers of `app/api/admin_users.py` with the context their dependencies hand over, which
is `None` when authentication is switched off.  `list_users` does not look at it; the other
handlers ask it for the id of the administrator, at different points of their transactions.

`createUser_aborts` and its like say that without a context none of the five commits, whatever
its statements find and see; with one they are the programs of the administration module
(`createUser_some`, ...).  `fail_closed_iff` puts the six together: for a request without a good
session of an administrator, account administration fails closed unless authentication is
switched off and the request is a listing that selects an account.
-/

namespace NetProbeAdminRoutes

open NetProbePyText NetProbeConfig NetProbeCoreAuth NetProbeAccountStore NetProbeAuthService
open NetProbeAdminUsers NetProbeAccountRuns NetProbeDeps NetProbeAuthDeps
open UniqueTable Transaction Transaction.Txn

-- ── Listing ───────────────────────────────────────────────────────────────────────

/-- The query parameters of `list_users`. -/
structure ListQuery where
  role : Option Str := none
  status : Option Str := none
  query : Option Str := none
  limit : Nat := 50
  offset : Nat := 0
  query_length : ∀ text ∈ query, text.length ≤ 100
  limit_bounds : 1 ≤ limit ∧ limit ≤ 200

/-- A parameter that is true to `if`. -/
def given : Option Str → Option Str
  | none | some [] => none
  | some (c :: cs) => some (c :: cs)

/-- `LIKE`: a percent sign stands for any text, an underscore for one character, and a backslash
    takes the next character as it is.  (A pattern of `list_users` does not end in one.) -/
def like : Str → Str → Bool
  | [], text => text.isEmpty
  | '%' :: pattern, text => text.tails.any (like pattern)
  | '_' :: pattern, text => !text.isEmpty && like pattern text.tail
  | '\\' :: c :: pattern, text => text.head? = some c && like pattern text.tail
  | c :: pattern, text => text.head? = some c && like pattern text.tail

example : like (str "%oo_") (str "root") = true ∧ like (str "%\\%%") (str "root") = false := by
  decide

section List

variable (py : Python) (settings : Settings) (lower : Str → Str)

/-- `f"%{query.lower()}%"` -/
def likePattern (query : Str) : Str := '%' :: (py.lower query ++ ['%'])

/-- The WHERE clause of `list_users`; `lower` is that of the database. -/
def ListQuery.selects (q : ListQuery) (a : Account) : Bool :=
  a.deleted_at.isNone &&
    (given q.role).all (fun role => a.role.text = role) &&
    (given q.status).all (fun status => a.status.text = status) &&
    (given q.query).all fun query =>
      like (likePattern py query) (lower a.username) ||
        like (likePattern py query) (lower a.display_name)

/-- The parameters can be sent to the database: no text holds a NUL, and the offset is a
    `bigint`. -/
def ListQuery.encodes (q : ListQuery) : Bool :=
  ((given q.role).toList ++ (given q.status).toList ++
    ((given q.query).map (likePattern py)).toList).all
    (fun text => text.all (· ≠ '\x00')) && q.offset < 2 ^ 63

/-- `list_users(role, status, query, limit, offset)` -/
def listUsers (scan : Scan Account) (q : ListQuery) : AuthTxn (List Account) :=
  withPool settings
    (if q.encodes py then selectAccounts scan (q.selects py lower) q.limit q.offset
    else .raise .dataError)

end List

-- ── The other handlers ────────────────────────────────────────────────────────────

/-- `context.user_id` -/
def userIdOf : Option AuthContext → AuthTxn Uuid
  | some context => .ret context.user_id
  | none => .raise .attributeError

section Handlers

variable (py : Python) (settings : Settings) (crypto : Crypto) (clock : Clock)
  (context : Option AuthContext) (user_id : Uuid)

/-- `create_user(payload, context)` -/
def createUser (salt : Str) (payload : UserCreateRequest) : AuthTxn Account :=
  match validatePassword py payload.temporary_password payload.username with
  | .error message => .raise (.valueError message)
  | .ok _ => withPool settings (handle usernameExists do
      let actor ← userIdOf context
      let user ← storeAccount (createdAccount py settings crypto clock actor user_id salt payload)
      addAuthEvent settings clock
        (adminEvent (str "ACCOUNT_CREATED") actor user_id { role := some payload.role })
      return user)

/-- `update_user(user_id, payload, context)` -/
def updateUser (payload : UserUpdateRequest) : AuthTxn (Option Account) :=
  withPool settings do
    match ← selectAccountForUpdate (byLiveId user_id) with
    | none => .raise userNotFound
    | some user =>
        lastAdminGuard payload user
        if patchFits py payload user then do
          let updated ← updateAccounts ((newEmail py payload).map LockKey.accountEmail).toList
            (byId user_id) (patched py clock payload)
          revokeDisabled clock user_id payload
          let actor ← userIdOf context
          addAuthEvent settings clock (accountUpdated actor user_id payload)
          return updated.head?
        else .raise .dataError

/-- `unlock_user(user_id, context)` -/
def unlockUser : AuthTxn Unit :=
  withPool settings do
    let rows ← updateAccounts [] (byId user_id) (unlocked clock.txNow)
    if rows.length = 0 then .raise userNotFound
    else
      let actor ← userIdOf context
      addAuthEvent settings clock (adminEvent (str "ACCOUNT_UNLOCKED") actor user_id {})

/-- `reset_password(user_id, payload, context)` -/
def resetPassword (salt : Str) (historyId : Nat) (payload : AdminResetPasswordRequest) :
    AuthTxn Unit :=
  withPool settings do
    match ← selectAccountForUpdate (byId user_id) with
    | none => .raise userNotFound
    | some user =>
        match validatePassword py payload.temporary_password user.username with
        | .error message => .raise (.valueError message)
        | .ok _ => do
            insertHistory ⟨historyId, user_id, user.password_hash, clock.txNow⟩
            let _ ← updateAccounts [] (byId user_id)
              (setPassword (hashPassword crypto settings salt payload.temporary_password) true
                clock.txNow)
            let _ ← updateSessions (unrevokedOf user_id) (revoke clock.txNow (str "PASSWORD_RESET"))
            let actor ← userIdOf context
            addAuthEvent settings clock
              (adminEvent (str "PASSWORD_RESET_BY_ADMIN") actor user_id {})

/-- `revoke_user_sessions(user_id, context)` -/
def revokeUserSessions : AuthTxn Nat :=
  withPool settings do
    let rows ← updateSessions (unrevokedOf user_id) (revoke clock.txNow (str "ADMIN_REVOKED"))
    let actor ← userIdOf context
    addAuthEvent settings clock
      (adminEvent (str "SESSION_REVOKED") actor user_id { count := some rows.length })
    return rows.length

variable {py settings crypto clock user_id} {c : AuthContext} {salt : Str} {historyId : Nat}

-- ── With a context ────────────────────────────────────────────────────────────────

theorem createUser_some {payload : UserCreateRequest} :
    createUser py settings crypto clock (some c) user_id salt payload =
      NetProbeAdminUsers.createUser py settings crypto clock c.user_id user_id salt payload := rfl

theorem updateUser_some {payload : UserUpdateRequest} :
    updateUser py settings clock (some c) user_id payload =
      NetProbeAdminUsers.updateUser py settings clock c.user_id user_id payload := rfl

theorem unlockUser_some :
    unlockUser settings clock (some c) user_id =
      NetProbeAdminUsers.unlockUser settings clock c.user_id user_id := rfl

theorem resetPassword_some {payload : AdminResetPasswordRequest} :
    resetPassword py settings crypto clock (some c) user_id salt historyId payload =
      NetProbeAdminUsers.resetPassword py settings crypto clock c.user_id user_id salt historyId
        payload := rfl

theorem revokeUserSessions_some :
    revokeUserSessions settings clock (some c) user_id =
      NetProbeAdminUsers.revokeUserSessions settings clock c.user_id user_id := rfl

-- ── Without a context ─────────────────────────────────────────────────────────────

theorem aborts_withPool {α : Type} {p : AuthTxn α} (h : Aborts p) : Aborts (withPool settings p) :=
  withPool_rule h (aborts_raise _)

theorem aborts_userIdOf {α : Type} (f : Uuid → AuthTxn α) : Aborts ((userIdOf none).bind f) :=
  (aborts_raise _).bind f

theorem createUser_aborts {payload : UserCreateRequest} :
    Aborts (createUser py settings crypto clock none user_id salt payload) := by
  rw [createUser]
  split
  · exact aborts_raise _
  · exact aborts_withPool (Makes.handle _ (aborts_userIdOf _))

theorem updateUser_aborts {payload : UserUpdateRequest} :
    Aborts (updateUser py settings clock none user_id payload) := by
  refine aborts_withPool (aborts_bind _ fun found => ?_)
  cases found with
  | none => exact aborts_raise _
  | some user =>
      refine aborts_bind _ fun _ => ?_
      split
      · exact aborts_bind _ fun _ => aborts_bind _ fun _ => aborts_userIdOf _
      · exact aborts_raise _

theorem unlockUser_aborts : Aborts (unlockUser settings clock none user_id) := by
  refine aborts_withPool (aborts_bind _ fun rows => ?_)
  split
  · exact aborts_raise _
  · exact aborts_userIdOf _

theorem resetPassword_aborts {payload : AdminResetPasswordRequest} :
    Aborts (resetPassword py settings crypto clock none user_id salt historyId payload) := by
  refine aborts_withPool (aborts_bind _ fun found => ?_)
  cases found with
  | none => exact aborts_raise _
  | some user =>
      dsimp only
      split
      · exact aborts_raise _
      · exact aborts_bind _ fun _ => aborts_bind _ fun _ => aborts_bind _ fun _ => aborts_userIdOf _

theorem revokeUserSessions_aborts : Aborts (revokeUserSessions settings clock none user_id) :=
  aborts_withPool (aborts_bind _ fun _ => aborts_userIdOf _)

end Handlers

-- ── Requests and responses ────────────────────────────────────────────────────────

/-- The row of an account in a response. -/
structure SerializedUser where
  id : Uuid
  username : Str
  email : Option Str
  display_name : Str
  role : Role
  status : AccountStatus
  must_change_password : Bool
  last_login_at : Option Time
  created_at : Time
  deriving DecidableEq, Repr

/-- `serialize_user(user)`; ids and times are left as they are. -/
def serializeUser (user : Account) : SerializedUser where
  id := user.id
  username := user.username
  email := user.email
  display_name := user.display_name
  role := user.role
  status := user.status
  must_change_password := user.must_change_password
  last_login_at := user.last_login_at
  created_at := user.created_at

/-- The data of a response. -/
inductive AdminResponse where
  | items (users : List SerializedUser) (limit offset : Nat)
  | user (row : SerializedUser)
  | unlocked
  | passwordReset
  | revoked (count : Nat)

/-- The accounts in a response. -/
def AdminResponse.accounts : AdminResponse → List SerializedUser
  | .items users _ _ => users
  | .user row => [row]
  | .unlocked | .passwordReset | .revoked _ => []

/-- A request to account administration, with what its handler reads besides it. -/
inductive AdminRequest where
  | listUsers (scan : Scan Account) (q : ListQuery)
  | createUser (clock : Clock) (user_id : Uuid) (salt : Str) (payload : UserCreateRequest)
  | updateUser (clock : Clock) (user_id : Uuid) (payload : UserUpdateRequest)
  | unlockUser (clock : Clock) (user_id : Uuid)
  | resetPassword (clock : Clock) (user_id : Uuid) (salt : Str) (historyId : Nat)
      (payload : AdminResetPasswordRequest)
  | revokeUserSessions (clock : Clock) (user_id : Uuid)

/-- The dependencies: that of the router, and for changes those of the decorator and the
    parameters as well. -/
def AdminRequest.dependencies : AdminRequest → List Dependency
  | .listUsers .. => [.roles [.ADMIN]]
  | .createUser .. => Route.createUser.dependencies
  | .updateUser .. => Route.updateUser.dependencies
  | .unlockUser .. => Route.unlockUser.dependencies
  | .resetPassword .. => Route.resetPassword.dependencies
  | .revokeUserSessions .. => Route.revokeUserSessions.dependencies

section Serve

variable (env : Env) (lower : Str → Str)

/-- The handler of a request: its transaction, and the response. -/
def AdminRequest.handler (context : Option AuthContext) : AdminRequest → Web AdminResponse
  | .listUsers scan q => do
      let users ← transact (NetProbeAdminRoutes.listUsers env.py env.settings lower scan q)
      return .items (users.map serializeUser) q.limit q.offset
  | .createUser clock user_id salt payload => do
      let user ← transact
        (NetProbeAdminRoutes.createUser env.py env.settings env.crypto clock context
          user_id salt payload)
      return .user (serializeUser user)
  | .updateUser clock user_id payload => do
      match ← transact
        (NetProbeAdminRoutes.updateUser env.py env.settings clock context user_id payload) with
      | none => throw .typeError
      | some updated => return .user (serializeUser updated)
  | .unlockUser clock user_id => do
      transact (NetProbeAdminRoutes.unlockUser env.settings clock context user_id)
      return .unlocked
  | .resetPassword clock user_id salt historyId payload => do
      transact (NetProbeAdminRoutes.resetPassword env.py env.settings env.crypto
        clock context user_id
        salt historyId payload)
      return .passwordReset
  | .revokeUserSessions clock user_id => do
      let count ← transact
        (NetProbeAdminRoutes.revokeUserSessions env.settings clock context user_id)
      return .revoked count

/-- The handler, if it runs, returns no account and leaves the tables as they are. -/
def FailsClosed (call : AdminRequest) (ticks : Nat → Tick) (request : Request)
    (st : WebState) : Prop :=
  ∀ context m, Returns (solve env request call.dependencies ticks) st context m →
    ((call.handler env lower context).run.run m).2.store = m.store ∧
      ∀ response m', Returns (call.handler env lower context) m response m' → response.accounts = []

/-- The request carries a good session of an administrator who has no password to change. -/
def AdminSession (request : Request) (now : Time) (s : Store) : Prop :=
  ∃ token x a, GoodSession env request now s token x a ∧ a.role = .ADMIN ∧
    a.must_change_password = false

/-- The request is a listing that selects an account. -/
def AdminRequest.Lists (s : Store) : AdminRequest → Prop
  | .listUsers _ q => q.encodes env.py = true ∧
      q.offset < (s.accounts.rows.filter (q.selects env.py lower)).length
  | _ => False

end Serve

section FailsClosed

variable {env : Env} {lower : Str → Str} {call : AdminRequest} {ticks : Nat → Tick}
  {request : Request}
  {st m m' : WebState} {context : Option AuthContext} {response : AdminResponse}

-- ── What a handler does without a context ─────────────────────────────────────────

section Transact

variable {α : Type} {p : AuthTxn α}

/-- A transaction that commits, and what follows. -/
theorem run_transact_ok {a : α} {s' : Store} (h : p.eval m.store = .ok (a, s'))
    (f : α → Web AdminResponse) :
    (transact p >>= f).run.run m = (f a).run.run { m with store := s' } := by
  have hrun : (transact p).run.run m = (.ok a, { m with store := s' }) := by
    show (p.result m.store, _) = _
    rw [result_of_ok h, perform_of_ok h]
  rw [ExceptT.run_bind, StateT.run_bind, hrun]
  rfl

/-- A transaction that is rolled back ends the handler. -/
theorem run_transact_error {e : AuthError} (h : p.eval m.store = .error e)
    (f : α → Web AdminResponse) : (transact p >>= f).run.run m = (.error e, m) := by
  have hrun : (transact p).run.run m = (.error e, m) := by
    show (p.result m.store, _) = _
    rw [result_of_error h, perform_of_error h]
  rw [ExceptT.run_bind, StateT.run_bind, hrun]
  rfl

/-- A handler whose transaction is rolled back. -/
theorem closed_of_error {e : AuthError} (h : p.eval m.store = .error e)
    (f : α → Web AdminResponse) :
    ((transact p >>= f).run.run m).2.store = m.store ∧
      ∀ response m', Returns (transact p >>= f) m response m' → response.accounts = [] := by
  have hrun := run_transact_error h f
  refine ⟨by rw [hrun], fun response m' hreturns => ?_⟩
  rw [Returns] at hreturns
  rw [hrun] at hreturns
  cases hreturns

/-- A handler whose transaction never commits. -/
theorem closed_of_aborts (h : Aborts p) (f : α → Web AdminResponse) :
    ((transact p >>= f).run.run m).2.store = m.store ∧
      ∀ response m', Returns (transact p >>= f) m response m' → response.accounts = [] := by
  obtain ⟨e, he⟩ := h.eval m.store
  exact closed_of_error he f

end Transact

/-- The rows of a listing are as many as are left after the offset, up to the limit. -/
theorem rows_eq_nil_iff {scan : Scan Account} {p : Account → Bool} {limit offset : Nat} {s : Store}
    (hlimit : 1 ≤ limit) :
    (((orderByDesc scan (·.created_at) (s.accounts.rows.filter p)).drop offset).take limit) = [] ↔
      ¬ offset < (s.accounts.rows.filter p).length := by
  have hlength : (orderByDesc scan (·.created_at) (s.accounts.rows.filter p)).length =
      (s.accounts.rows.filter p).length := by
    rw [orderByDesc]
    rw [List.length_insertionSort]
    exact (scan.perm _).length_eq
  rw [← List.length_eq_zero_iff, List.length_take, List.length_drop, hlength]
  omega

/-- What `list_users` answers. -/
theorem eval_listUsers (hdb : env.settings.database_enabled = true) (lower : Str → Str)
    (scan : Scan Account) (q : ListQuery) (s : Store) :
    (listUsers env.py env.settings lower scan q).eval s =
      if q.encodes env.py = true then
        .ok (((orderByDesc scan (·.created_at)
          (s.accounts.rows.filter (q.selects env.py lower))).drop q.offset).take q.limit, s)
      else .error .dataError := by
  rw [listUsers]
  rw [withPool_of_enabled hdb]
  split
  · rw [selectAccounts]
    rw [eval_query]
    rfl
  · rfl

/-- The handler of a listing leaves the tables alone, and answers with accounts if it selects
    any. -/
theorem listing_closed_iff (hdb : env.settings.database_enabled = true) {scan : Scan Account}
    {q : ListQuery} :
    ((((AdminRequest.listUsers scan q).handler env lower context).run.run m).2.store = m.store ∧
      ∀ response m', Returns
        ((AdminRequest.listUsers scan q).handler env lower context) m response m' →
        response.accounts = []) ↔ ¬ (AdminRequest.listUsers scan q).Lists env lower m.store := by
  have heval := eval_listUsers hdb lower scan q m.store
  by_cases hencodes : q.encodes env.py = true
  · rw [if_pos hencodes] at heval
    have hrun : ((AdminRequest.listUsers scan q).handler env lower context).run.run m =
        (.ok (.items _ q.limit q.offset), { m with store := m.store }) := run_transact_ok heval _
    constructor
    · rintro ⟨-, hclosed⟩ ⟨-, hselected⟩
      have hrows := List.map_eq_nil_iff.mp (hclosed _ _ hrun)
      exact (rows_eq_nil_iff q.limit_bounds.1).mp hrows hselected
    · intro hnot
      refine ⟨by rw [hrun], fun response m' hreturns => ?_⟩
      rw [Returns] at hreturns
      rw [hrun] at hreturns
      cases hreturns
      show List.map serializeUser _ = []
      rw [(rows_eq_nil_iff q.limit_bounds.1).mpr fun hselected => hnot ⟨hencodes, hselected⟩]
      rfl
  · rw [if_neg hencodes] at heval
    exact iff_of_true (closed_of_error heval _) fun hlists => hencodes hlists.1

-- ── With authentication switched off ──────────────────────────────────────────────

/-- The roles are not looked at. -/
theorem requireRoles_open {roles : List Role} {clock : Clock}
    (hauth : env.settings.auth_enabled = false) :
    Returns (requireRoles env roles clock request) st context m ↔
      context = none ∧ m = { st with current_user := none } := by
  rw [requireRoles, requireCurrentUser]
  rw [if_pos hauth, returns_bind]
  constructor
  · rintro ⟨found, m₁, hfound, hrest⟩
    obtain ⟨u, m₂, hmodify, hnone⟩ := returns_bind.mp hfound
    obtain ⟨rfl, rfl⟩ := returns_pure.mp hnone
    obtain ⟨rfl, rfl⟩ := returns_pure.mp hrest
    exact ⟨rfl, returns_modify.mp hmodify⟩
  · rintro ⟨rfl, rfl⟩
    exact ⟨none, _, returns_bind.mpr ⟨(), _, returns_modify.mpr rfl, returns_pure.mpr ⟨rfl, rfl⟩⟩,
      returns_pure.mpr ⟨rfl, rfl⟩⟩

/-- The CSRF token is not looked at. -/
theorem requireCsrf_open {clock : Clock} {u : Unit} (hauth : env.settings.auth_enabled = false) :
    Returns (requireCsrf env clock request) st u m ↔ m = st := by
  rw [requireCsrf]
  rw [if_pos hauth, returns_pure]
  exact ⟨fun h => h.2, fun h => ⟨rfl, h⟩⟩

/-- The dependencies let every request pass, without a context. -/
theorem solve_open (hauth : env.settings.auth_enabled = false) :
    Returns (solve env request call.dependencies ticks) st context m ↔
      context = none ∧ m = { st with current_user := none } := by
  have hchange :
      Returns (solve env request [.roles [.ADMIN], .csrf, .roles [.ADMIN]] ticks) st context
      m ↔ context = none ∧ m = { st with current_user := none } := by
    constructor
    · intro h
      obtain ⟨c₀, m₁, hroles, hrest⟩ := returns_bind.mp h
      obtain ⟨c₁, m₂, hcsrf, hlast⟩ := returns_bind.mp hrest
      obtain ⟨u, m₃, hcsrf, hpure⟩ := returns_bind.mp hcsrf
      obtain ⟨-, rfl⟩ := (requireRoles_open hauth).mp hroles
      obtain rfl := (requireCsrf_open hauth).mp hcsrf
      obtain ⟨-, rfl⟩ := returns_pure.mp hpure
      have hlast : Returns (requireRoles env [.ADMIN] (ticks 2).clock request)
          { st with current_user := none } context m := hlast
      obtain ⟨rfl, rfl⟩ := (requireRoles_open hauth).mp hlast
      exact ⟨rfl, rfl⟩
    · rintro ⟨rfl, rfl⟩
      refine returns_bind.mpr ⟨none, _, (requireRoles_open hauth).mpr ⟨rfl, rfl⟩, ?_⟩
      have hlast : Returns (requireRoles env [.ADMIN] (ticks 2).clock request)
          { st with current_user := none } none { st with current_user := none } :=
        (requireRoles_open hauth).mpr ⟨rfl, rfl⟩
      refine returns_bind.mpr ⟨none, _, ?_, hlast⟩
      exact returns_bind.mpr ⟨(), _, (requireCsrf_open hauth).mpr rfl, returns_pure.mpr ⟨rfl, rfl⟩⟩
  cases call with
  | listUsers scan q => exact requireRoles_open hauth
  | createUser | updateUser | unlockUser | resetPassword | revokeUserSessions => exact hchange

/-- A handler without a context fails closed unless the request is a listing that selects an
    account. -/
theorem closed_without_context_iff (hdb : env.settings.database_enabled = true) :
    (((call.handler env lower none).run.run m).2.store = m.store ∧
      ∀ response m', Returns (call.handler env lower none) m response m' → response.accounts = []) ↔
        ¬ call.Lists env lower m.store := by
  cases call with
  | listUsers scan q => exact listing_closed_iff hdb
  | createUser => exact iff_of_true (closed_of_aborts createUser_aborts _) not_false
  | updateUser => exact iff_of_true (closed_of_aborts updateUser_aborts _) not_false
  | unlockUser => exact iff_of_true (closed_of_aborts unlockUser_aborts _) not_false
  | resetPassword => exact iff_of_true (closed_of_aborts resetPassword_aborts _) not_false
  | revokeUserSessions => exact iff_of_true (closed_of_aborts revokeUserSessions_aborts _) not_false

-- ── With authentication switched on ───────────────────────────────────────────────

/-- A request whose handler runs carries a good session of an administrator. -/
theorem adminSession_of_solve (hauth : env.settings.auth_enabled = true)
    (h : Returns (solve env request call.dependencies ticks) st context m) :
    AdminSession env request (ticks 0).clock.utcnow st.store := by
  have hfirst :
      ∃ out m', Returns (requireRoles env [.ADMIN] (ticks 0).clock request) st out m' := by
    cases call with
    | listUsers scan q => exact ⟨context, m, h⟩
    | createUser | updateUser | unlockUser | resetPassword | revokeUserSessions =>
        obtain ⟨out, m', hroles, -⟩ := returns_bind.mp h
        exact ⟨out, m', hroles⟩
  obtain ⟨out, m', hroles⟩ := hfirst
  obtain ⟨token, x, a, hgood, hmust, hrole, -, -⟩ := requireRoles_returns hauth hroles
  exact ⟨token, x, a, hgood, List.mem_singleton.mp hrole, hmust⟩

/-- **Account administration fails closed**, for a request without a good session of an
    administrator who has no password to change, exactly if authentication is switched on or the
    request is not a listing that selects an account. -/
theorem fail_closed_iff (hdb : env.settings.database_enabled = true)
    (hno : ¬ AdminSession env request (ticks 0).clock.utcnow st.store) :
    FailsClosed env lower call ticks request st ↔
      env.settings.auth_enabled = true ∨ ¬ call.Lists env lower st.store := by
  by_cases hauth : env.settings.auth_enabled = true
  · refine iff_of_true (fun context m hsolve => ?_) (Or.inl hauth)
    exact absurd (adminSession_of_solve hauth hsolve) hno
  · have hoff : env.settings.auth_enabled = false := by simpa using hauth
    constructor
    · intro hclosed
      have hhandler := hclosed none { st with
        current_user := none } ((solve_open hoff).mpr ⟨rfl, rfl⟩)
      exact Or.inr fun hlists => (closed_without_context_iff hdb).mp hhandler hlists
    · rintro (hon | hnot) context m hsolve
      · exact absurd hon hauth
      · obtain ⟨rfl, rfl⟩ := (solve_open hoff).mp hsolve
        exact (closed_without_context_iff hdb).mpr hnot

end FailsClosed

/-- A deployment without authentication. -/
def openEnv : Env := ⟨.asciiOnly, { database_enabled := true, auth_enabled := false }, .plain⟩

/-- A request without cookies and headers. -/
def bareRequest : Request := ⟨str "/api/v1/admin/users", none, fun _ => none, fun _ => none⟩

/-- The listing of all accounts. -/
def listAll : AdminRequest :=
  .listUsers .asInserted { query_length := by simp, limit_bounds := by decide }

/-- The state of a request before its dependencies, over two accounts. -/
def twoAccounts : WebState := ⟨adminAndOperator, none, ⟨30, fun _ => []⟩⟩

theorem bareRequest_no_session : ¬ AdminSession openEnv bareRequest 0 adminAndOperator := by
  rintro ⟨token, x, a, hgood, -⟩
  cases hgood.cookie

/-- **The listing is open** without authentication: a request without a session gets both
    accounts. -/
theorem open_listing_answers :
    openEnv.settings.database_enabled = true ∧
      ¬ AdminSession openEnv bareRequest 0 adminAndOperator ∧
      ¬ FailsClosed openEnv id listAll (fun _ => ⟨⟨0, 0, 0⟩, 0⟩) bareRequest twoAccounts := by
  refine ⟨rfl, bareRequest_no_session, fun hclosed => ?_⟩
  have hopen : Returns (solve openEnv bareRequest listAll.dependencies fun _ => ⟨⟨0, 0, 0⟩, 0⟩)
      twoAccounts none { twoAccounts with current_user := none } := (solve_open rfl).mpr ⟨rfl, rfl⟩
  have hlists : listAll.Lists openEnv id adminAndOperator :=
    And.intro (by decide +kernel) (by decide +kernel)
  exact (listing_closed_iff rfl).mp (hclosed none _ hopen) hlists

/-- The general result on an unlock without authentication. -/
theorem open_unlock_fails_closed :
    FailsClosed openEnv id (.unlockUser ⟨0, 0, 0⟩ 2)
      (fun _ => ⟨⟨0, 0, 0⟩, 0⟩) bareRequest twoAccounts :=
  (fail_closed_iff rfl bareRequest_no_session).mpr (Or.inr not_false)

end NetProbeAdminRoutes
