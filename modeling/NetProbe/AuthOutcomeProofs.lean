import NetProbe.AuthServiceProofs

/-!
# What login, sessions and password change do

The ways through each operation of the authentication service, run alone on a store.  `Login`
has one constructor for each way through `authenticate`, with the events, the result and the
store it leaves; `authenticate_login` says that the program takes one of them.  `Resolve` and
`resolveSession_cases` do the same for `resolve_session`; `revokeSession_cases` and
`changePassword_cases` do it for the other two.  Everything later is derived from these; no
later proof unfolds the programs.
-/

namespace NetProbeAuthService

open NetProbePyText NetProbeConfig NetProbeCoreAuth NetProbeAccountStore UniqueTable
open Transaction Transaction.Txn

-- ── What a login does ─────────────────────────────────────────────────────────────

section Login

variable (py : Python) (settings : Settings) (crypto : Crypto)

/-- The store after a login with a wrong password. -/
def failedStore (clock : Clock) (client_key : Option Str) (user : Account) (s : Store) : Store :=
  (s.setAccount user.id (failureRow settings clock user)).addAudit
    (auditRow settings clock
      (loginFailed (some user.id) (if locks settings user then str "LOCKED" else str "BAD_PASSWORD")
        client_key))

/-- The store before a login inserts its session. -/
def evictedStore (clock : Clock) (draw : LoginDraw) (scan : Scan Session) (password : Str)
    (user : Account) (s : Store) : Store :=
  let old := orderBy scan (·.created_at) (s.sessions.rows.filter (unrevokedOf user.id))
  (s.setAccount user.id
      (recordLogin (newHash settings crypto draw.salt password user) clock.utcnow
        clock.txNow)).setSessions
    (fun x => (evicted settings old).contains x.id) (revoke clock.utcnow (str "MAX_SESSIONS"))

/-- The store after a login. -/
def loggedInStore (clock : Clock) (draw : LoginDraw) (scan : Scan Session)
    (client_key user_agent : Option Str) (password : Str) (user : Account) (s : Store) : Store :=
  ((evictedStore settings crypto clock draw scan password user s).alterSessions
      (· ++ [newSession py settings crypto clock draw client_key user_agent user])).addAudit
    (auditRow settings clock (loginSucceeded user client_key draw.session_id))

variable {py settings crypto}

theorem failureRow_keeps {clock : Clock} {user : Account} :
    KeepsKeys (failureRow settings clock user) := recordFailure_keeps

/-- An account that is refused has not been unlocked on the way. -/
theorem lockExpired_of_refused {now : Time} {a : Account}
    (h : (currentUser now a).status.usable = false) : lockExpired now a = false := by
  cases hl : lockExpired now a with
  | true =>
      rw [currentUser_of_expired hl] at h
      cases h
  | false => rfl

variable {clock : Clock} {draw : LoginDraw} {scan : Scan Session}
  {username password client_ip : Str}
  {client_key user_agent : Option Str} {user : Account} {s : Store}

/-- A login with a wrong password on an account that exists. -/
theorem eval_loginFails (h : s.hasAccount user.id = true) :
    (loginFails settings clock client_key user).eval s =
      .ok (none, failedStore settings clock client_key user s) := by
  have hacc : (s.setAccount user.id (failureRow settings clock user)).hasAccount user.id =
      true := by
    rw [hasAccount_setAccount failureRow_keeps, h]
  rw [loginFails]
  rw [bind_eq, eval_bind, eval_updateAccount failureRow_keeps]
  simp only [Except.bind, bind_eq, eval_bind]
  rw [eval_addAuthEvent_ok (by simpa [loginFailed] using hacc)]
  rfl

theorem trace_loginFails :
    (loginFails settings clock client_key user).trace s =
      [.log (logFields (loginFailed (some user.id)
        (if locks settings user then str "LOCKED" else str "BAD_PASSWORD") client_key))] := by
  rw [loginFails]
  rw [bind_eq, trace_bind_of_ok (eval_updateAccount failureRow_keeps), bind_eq]
  simp only [pure_eq, trace_bind_ret, trace_addAuthEvent, updateAccounts, trace_query,
    List.nil_append]

/-- The eviction leaves `evictedStore`. -/
theorem eval_eviction :
    (evictOldest settings clock (orderBy scan (·.created_at)
        (s.sessions.rows.filter (unrevokedOf user.id)))).eval
      (s.setAccount user.id
        (recordLogin (newHash settings crypto draw.salt password user) clock.utcnow clock.txNow)) =
      .ok ((), evictedStore settings crypto clock draw scan password user s) :=
  eval_evictOldest clock _

/-- The account still exists when its session is inserted. -/
theorem hasAccount_evictedStore (h : s.hasAccount user.id = true) :
    (evictedStore settings crypto clock draw scan password user s).hasAccount user.id = true := by
  rw [evictedStore]
  rw [hasAccount_setSessions, hasAccount_setAccount recordLogin_keeps, h]

/-- The session of a login is stored. -/
theorem eval_insertNewSession (h : s.hasAccount user.id = true)
    (hfresh : (evictedStore settings crypto clock draw scan password user s).sessions.Accepts
      (· ++ [newSession py settings crypto clock draw client_key user_agent user])) :
    (insertSession (newSession py settings crypto clock draw client_key user_agent user)).eval
        (evictedStore settings crypto clock draw scan password user s) =
      .ok ((), (evictedStore settings crypto clock draw scan password user s).alterSessions
        (· ++ [newSession py settings crypto clock draw client_key user_agent user])) := by
  rw [eval_insertSession, if_neg, if_pos hfresh]
  simpa [newSession] using hasAccount_evictedStore h

/-- The id or the token hash of the session is taken. -/
theorem eval_insertNewSession_taken (h : s.hasAccount user.id = true)
    (htaken : ¬ (evictedStore settings crypto clock draw scan password user s).sessions.Accepts
      (· ++ [newSession py settings crypto clock draw client_key user_agent user])) :
    (insertSession (newSession py settings crypto clock draw client_key user_agent user)).eval
        (evictedStore settings crypto clock draw scan password user s) =
          .error .uniqueViolation := by
  rw [eval_insertSession, if_neg, if_neg htaken]
  simpa [newSession] using hasAccount_evictedStore h

/-- A login with the right password on an account that exists. -/
theorem eval_loginSucceeds (h : s.hasAccount user.id = true) :
    (loginSucceeds py settings crypto clock draw scan client_key user_agent password user).eval s =
      if (evictedStore settings crypto clock draw scan password user s).sessions.Accepts
          (· ++ [newSession py settings crypto clock draw client_key user_agent user]) then
        .ok (some ⟨contextOf user draw.session_id, draw.token, draw.csrf_token⟩,
          loggedInStore py settings crypto clock draw scan client_key user_agent password user s)
      else .error .uniqueViolation := by
  rw [loginSucceeds]
  rw [bind_eq, eval_bind_of_ok (eval_updateAccount recordLogin_keeps), bind_eq,
    eval_bind_of_ok (eval_selectSessions scan _), setAccount_sessions, bind_eq,
    eval_bind_of_ok eval_eviction, bind_eq]
  by_cases hfresh : (evictedStore settings crypto clock draw scan password user s).sessions.Accepts
      (· ++ [newSession py settings crypto clock draw client_key user_agent user])
  · rw [if_pos hfresh, eval_bind_of_ok (eval_insertNewSession h hfresh), bind_eq,
      eval_bind_of_ok (eval_addAuthEvent_ok
        (by simpa [loginSucceeded] using hasAccount_evictedStore h))]
    rfl
  · rw [if_neg hfresh]
    exact eval_bind_of_error (eval_insertNewSession_taken h hfresh)

theorem trace_loginSucceeds (h : s.hasAccount user.id = true) :
    (loginSucceeds py settings crypto clock draw scan client_key user_agent password user).trace s =
      if (evictedStore settings crypto clock draw scan password user s).sessions.Accepts
          (· ++ [newSession py settings crypto clock draw client_key user_agent user]) then
        [.log (logFields (loginSucceeded user client_key draw.session_id))]
      else [] := by
  rw [loginSucceeds]
  rw [bind_eq, trace_bind_of_ok (eval_updateAccount recordLogin_keeps), bind_eq,
    trace_bind_of_ok (eval_selectSessions scan _), setAccount_sessions, bind_eq,
    trace_bind_of_ok eval_eviction, bind_eq]
  by_cases hfresh : (evictedStore settings crypto clock draw scan password user s).sessions.Accepts
      (· ++ [newSession py settings crypto clock draw client_key user_agent user])
  · rw [if_pos hfresh, trace_bind_of_ok (eval_insertNewSession h hfresh)]
    simp [updateAccounts, selectSessions, insertSession]
  · rw [if_neg hfresh, trace_bind_of_error (eval_insertNewSession_taken h hfresh)]
    simp [updateAccounts, selectSessions, insertSession]

/-- The ways through `authenticate` run alone on the store `s`: the events, and the result
    with the store it leaves. -/
inductive Login (py : Python) (settings : Settings) (crypto : Crypto) (clock : Clock)
    (draw : LoginDraw) (scan : Scan Session) (username password client_ip : Str)
    (user_agent : Option Str) (s : Store) :
    List AuthEvent → Except AuthError (Option LoginResult × Store) → Prop where
  /-- The database is switched off. -/
  | noPool (hdb : settings.database_enabled = false) :
      Login py settings crypto clock draw scan username password client_ip user_agent s []
        (.error .runtimeError)
  /-- Nobody has the name: the password is verified against the dummy hash. -/
  | unknown {matched : Bool} (hfind : s.accounts.rows.find? (byUsername username) = none) :
      Login py settings crypto clock draw scan username password client_ip user_agent s
        [.verify none matched, .log (logFields
          (loginFailed none (str "UNKNOWN_USER") (hashClientIp crypto settings client_ip)))]
        (.ok (none, s.addAudit (auditRow settings clock
          (loginFailed none (str "UNKNOWN_USER") (hashClientIp crypto settings client_ip)))))
  /-- The verification against the dummy hash raises. -/
  | unknownRaised (hfind : s.accounts.rows.find? (byUsername username) = none) :
      Login py settings crypto clock draw scan username password client_ip user_agent s []
        (.error .verificationError)
  /-- The account is locked or disabled, and its lock has not run out. -/
  | refused {found : Account} (hfind : s.accounts.rows.find? (byUsername username) = some found)
      (hlock : lockExpired clock.utcnow found = false) (husable : found.status.usable = false) :
      Login py settings crypto clock draw scan username password client_ip user_agent s
        [.log (logFields (loginFailed (some found.id) found.status.text
          (hashClientIp crypto settings client_ip)))]
        (.ok (none, s.addAudit (auditRow settings clock (loginFailed (some found.id)
          found.status.text (hashClientIp crypto settings client_ip)))))
  /-- The verification against the hash of the account raises. -/
  | raised {found : Account} (hfind : s.accounts.rows.find? (byUsername username) = some found)
      (husable : (currentUser clock.utcnow found).status.usable = true)
      (hverify : verifyPassword crypto settings password found.password_hash = none) :
      Login py settings crypto clock draw scan username password client_ip user_agent s []
        (.error .verificationError)
  /-- The password is wrong. -/
  | wrongPassword {found : Account}
      (hfind : s.accounts.rows.find? (byUsername username) = some found)
      (husable : (currentUser clock.utcnow found).status.usable = true)
      (hverify : verifyPassword crypto settings password found.password_hash = some false) :
      Login py settings crypto clock draw scan username password client_ip user_agent s
        [.verify (some found.id) false, .log (logFields (loginFailed (some found.id)
          (if locks settings (currentUser clock.utcnow found) then str "LOCKED"
            else str "BAD_PASSWORD")
          (hashClientIp crypto settings client_ip)))]
        (.ok (none, failedStore settings clock (hashClientIp crypto settings client_ip)
          (currentUser clock.utcnow found) (unlockStore clock.utcnow found s)))
  /-- The password is right, and the id or the token drawn for the session is taken. -/
  | taken {found : Account} (hfind : s.accounts.rows.find? (byUsername username) = some found)
      (husable : (currentUser clock.utcnow found).status.usable = true)
      (hverify : verifyPassword crypto settings password found.password_hash = some true)
      (htaken : ¬ (evictedStore settings crypto clock draw scan password
          (currentUser clock.utcnow found) (unlockStore clock.utcnow found s)).sessions.Accepts
        (· ++ [newSession py settings crypto clock draw (hashClientIp crypto settings client_ip)
          user_agent (currentUser clock.utcnow found)])) :
      Login py settings crypto clock draw scan username password client_ip user_agent s
        [.verify (some found.id) true] (.error .uniqueViolation)
  /-- The password is right and the session is stored. -/
  | loggedIn {found : Account} (hfind : s.accounts.rows.find? (byUsername username) = some found)
      (husable : (currentUser clock.utcnow found).status.usable = true)
      (hverify : verifyPassword crypto settings password found.password_hash = some true)
      (hfresh : (evictedStore settings crypto clock draw scan password
          (currentUser clock.utcnow found) (unlockStore clock.utcnow found s)).sessions.Accepts
        (· ++ [newSession py settings crypto clock draw (hashClientIp crypto settings client_ip)
          user_agent (currentUser clock.utcnow found)])) :
      Login py settings crypto clock draw scan username password client_ip user_agent s
        [.verify (some found.id) true, .log (logFields
          (loginSucceeded (currentUser clock.utcnow found) (hashClientIp crypto settings client_ip)
            draw.session_id))]
        (.ok (some ⟨contextOf (currentUser clock.utcnow found) draw.session_id, draw.token,
            draw.csrf_token⟩,
          loggedInStore py settings crypto clock draw scan (hashClientIp crypto settings client_ip)
            user_agent password (currentUser clock.utcnow found)
              (unlockStore clock.utcnow found s)))

/-- A login under a name nobody has. -/
theorem loginUnknown_login (hfind : s.accounts.rows.find? (byUsername username) = none) :
    Login py settings crypto clock draw scan username password client_ip user_agent s
      ((loginUnknown settings crypto clock draw (hashClientIp crypto settings client_ip)
        password).trace s)
      ((loginUnknown settings crypto clock draw
        (hashClientIp crypto settings client_ip) password).eval
        s) := by
  rw [loginUnknown]
  rw [bind_eq]
  cases hm : verifyPassword crypto settings password
      (hashPassword crypto settings draw.salt (str "dummy-password-for-timing-only")) with
  | none =>
      rw [eval_bind_of_error (eval_verify_raises hm), trace_bind_of_error (eval_verify_raises hm),
        trace_verify_raises hm]
      exact .unknownRaised hfind
  | some matched =>
      rw [eval_bind_of_ok (eval_verify hm), trace_bind_of_ok (eval_verify hm),
        trace_verify hm, bind_eq, eval_bind_of_ok (eval_addAuthEvent_ok (by simp [loginFailed]))]
      simp only [pure_eq, trace_bind_ret, trace_addAuthEvent]
      exact .unknown hfind

/-- A login on an account that was found. -/
theorem loginKnown_login {found : Account}
    (hfind : s.accounts.rows.find? (byUsername username) = some found) :
    Login py settings crypto clock draw scan username password client_ip user_agent s
      ((loginKnown py settings crypto clock draw scan (hashClientIp crypto settings client_ip)
        user_agent password found).trace s)
      ((loginKnown py settings crypto clock draw scan (hashClientIp crypto settings client_ip)
        user_agent password found).eval s) := by
  have hacc : (unlockStore clock.utcnow found s).hasAccount found.id = true := by
    rw [hasAccount_unlockStore]
    exact hasAccount_of_mem (List.mem_of_find?_eq_some hfind)
  rw [loginKnown]
  rw [bind_eq, eval_bind_of_ok (eval_autoUnlock clock found),
    trace_bind_of_ok (eval_autoUnlock clock found), trace_autoUnlock, List.nil_append]
  cases husable : (currentUser clock.utcnow found).status.usable with
  | false =>
      have hlock := lockExpired_of_refused husable
      rw [unlockStore_of_live hlock] at hacc ⊢
      rw [currentUser_of_live hlock] at husable ⊢
      dsimp only
      rw [if_pos (by simp [husable]), bind_eq,
        eval_bind_of_ok (eval_addAuthEvent_ok (by simpa [loginFailed] using hacc))]
      simp only [pure_eq, trace_bind_ret, trace_addAuthEvent]
      exact .refused hfind hlock husable
  | true =>
      dsimp only
      rw [if_neg (by simp [husable]), bind_eq, currentUser_id, currentUser_password_hash]
      cases hm : verifyPassword crypto settings password found.password_hash with
      | none =>
          rw [eval_bind_of_error (eval_verify_raises hm),
            trace_bind_of_error (eval_verify_raises hm), trace_verify_raises hm]
          exact .raised hfind husable hm
      | some matched =>
          rw [eval_bind_of_ok (eval_verify hm), trace_bind_of_ok (eval_verify hm), trace_verify hm]
          have hid : (unlockStore clock.utcnow found s).hasAccount
              (currentUser clock.utcnow found).id = true := by
            rw [currentUser_id]
            exact hacc
          cases matched with
          | true =>
              rw [if_pos rfl, eval_loginSucceeds hid, trace_loginSucceeds hid]
              by_cases hfresh : (evictedStore settings crypto clock draw scan password
                  (currentUser clock.utcnow found)
                  (unlockStore clock.utcnow found s)).sessions.Accepts
                (· ++ [newSession py settings crypto clock draw
                  (hashClientIp crypto settings client_ip)
                  user_agent (currentUser clock.utcnow found)])
              · rw [if_pos hfresh, if_pos hfresh]
                exact .loggedIn hfind husable hm hfresh
              · rw [if_neg hfresh, if_neg hfresh]
                exact .taken hfind husable hm hfresh
          | false =>
              rw [if_neg (by simp), eval_loginFails hid, trace_loginFails, currentUser_id]
              exact .wrongPassword hfind husable hm

/-- **What `authenticate` can do**, run alone. -/
theorem authenticate_login (py : Python) (settings : Settings) (crypto : Crypto) (clock : Clock)
    (draw : LoginDraw) (scan : Scan Session) (username password client_ip : Str)
    (user_agent : Option Str) (s : Store) :
    Login py settings crypto clock draw scan username password client_ip user_agent s
      ((authenticate py settings crypto clock draw scan username password client_ip
        user_agent).trace s)
      ((authenticate py settings crypto clock draw scan username password client_ip user_agent).eval
        s) := by
  rw [authenticate]
  by_cases hdb : settings.database_enabled = true
  · rw [withPool_of_enabled hdb, bind_eq, eval_bind_of_ok (eval_selectAccountForUpdate _),
      trace_bind_of_ok (eval_selectAccountForUpdate _)]
    simp only [selectAccountForUpdate, trace_query, List.nil_append]
    cases hfind : s.accounts.rows.find? (byUsername username) with
    | none => exact loginUnknown_login hfind
    | some found => exact loginKnown_login hfind
  · rw [withPool_of_disabled hdb]
    exact .noPool (by simpa using hdb)

end Login

-- ── What the session operations and a password change do ──────────────────────────

section Sessions

variable {py : Python} {settings : Settings} {crypto : Crypto} {clock : Clock} {s : Store}

/-- The row a session token resolves to, with its account. -/
def sessionOf (settings : Settings) (crypto : Crypto) (token : Str) (s : Store) :
    Option (Session × Account) :=
  (s.sessions.rows.find? (byToken (hashToken crypto settings token))).bind fun x =>
    (s.accounts.rows.find? fun a => a.id = x.user_id).map fun a => (x, a)

/-- The store after the activity of a session was recorded, if it is time to. -/
def activityStore (settings : Settings) (clock : Clock) (x : Session) (s : Store) : Store :=
  if minutes 5 ≤ clock.utcnow - x.last_seen_at then
    s.setSessions (sessionById x.id)
      (touch clock.utcnow (clock.utcnow + minutes settings.session_idle_minutes))
  else s

/-- The ways through `resolve_session` run alone. -/
inductive Resolve (settings : Settings) (crypto : Crypto) (clock : Clock)
    (token : Str) (s : Store) :
    Except AuthError (Option AuthContext × Store) → Prop where
  /-- The database is switched off. -/
  | noPool (hdb : settings.database_enabled = false) :
      Resolve settings crypto clock token s (.error .runtimeError)
  /-- No session that is not revoked has this token. -/
  | noSession (hdb : settings.database_enabled = true)
    (hrow : sessionOf settings crypto token s = none) :
      Resolve settings crypto clock token s (.ok (none, s))
  /-- The account is locked, disabled or deleted: the row is left as it is. -/
  | refused {x : Session} {a : Account} (hdb : settings.database_enabled = true)
      (hrow : sessionOf settings crypto token s = some (x, a))
      (hrefused : a.status.usable = false ∨ a.deleted_at.isSome = true) :
      Resolve settings crypto clock token s (.ok (none, s))
  /-- The time of the session is up, which revokes it. -/
  | expired {x : Session} {a : Account} (hdb : settings.database_enabled = true)
      (hrow : sessionOf settings crypto token s = some (x, a)) (husable : a.status.usable = true)
      (hdeleted : a.deleted_at = none) (hexpired : sessionExpired clock.utcnow x = true) :
      Resolve settings crypto clock token s (.ok (none,
        s.setSessions (sessionById x.id) (revoke clock.utcnow (str "EXPIRED"))))
  /-- The session is good. -/
  | resolved {x : Session} {a : Account} (hdb : settings.database_enabled = true)
      (hrow : sessionOf settings crypto token s = some (x, a)) (husable : a.status.usable = true)
      (hdeleted : a.deleted_at = none) (hlive : sessionExpired clock.utcnow x = false) :
      Resolve settings crypto clock token s
        (.ok (some (contextOf a x.id), activityStore settings clock x s))

/-- What `sessionOf` finds are rows of the store that belong together. -/
theorem sessionOf_some {token : Str} {x : Session} {a : Account}
    (h : sessionOf settings crypto token s = some (x, a)) :
    x ∈ s.sessions.rows ∧ a ∈ s.accounts.rows ∧ a.id = x.user_id ∧
      x.token_hash = hashToken crypto settings token ∧ x.revoked_at = none := by
  obtain ⟨y, hy, hmap⟩ := Option.bind_eq_some_iff.mp h
  obtain ⟨b, hb, hpair⟩ := Option.map_eq_some_iff.mp hmap
  cases hpair
  have htoken := List.find?_some hy
  have hid := List.find?_some hb
  rw [byToken] at htoken
  simp only [Bool.and_eq_true, decide_eq_true_eq, Option.isNone_iff_eq_none] at htoken hid
  exact ⟨List.mem_of_find?_eq_some hy, List.mem_of_find?_eq_some hb, hid, htoken⟩

theorem eval_recordActivity (x : Session) :
    (recordActivity settings clock x).eval s = .ok ((), activityStore settings clock x s) := by
  rw [recordActivity, activityStore]
  split
  · rw [bind_eq, eval_bind_of_ok (eval_updateSessions _ _)]
    rfl
  · rfl

/-- **What `resolve_session` can do**, run alone. -/
theorem resolveSession_cases (settings : Settings) (crypto : Crypto) (clock : Clock) (token : Str)
    (s : Store) :
    Resolve settings crypto clock token s
      ((resolveSession settings crypto clock token).eval s) := by
  rw [resolveSession]
  by_cases hdb : settings.database_enabled = true
  · rw [withPool_of_enabled hdb, bind_eq, eval_bind_of_ok (eval_selectSessionForUpdate _)]
    cases hrow : sessionOf settings crypto token s with
    | none =>
        rw [sessionOf] at hrow
        rw [hrow]
        exact .noSession hdb hrow
    | some r =>
        obtain ⟨x, a⟩ := r
        have hrow' := hrow
        rw [sessionOf] at hrow
        rw [hrow]
        dsimp only
        by_cases hrefused : ¬ a.status.usable = true ∨ a.deleted_at.isSome = true
        · rw [if_pos hrefused]
          exact .refused hdb hrow' (by simpa using hrefused)
        · rw [if_neg hrefused]
          have husable : a.status.usable = true ∧ a.deleted_at = none := by simpa using hrefused
          by_cases hexpired : sessionExpired clock.utcnow x = true
          · rw [if_pos hexpired, bind_eq, eval_bind_of_ok (eval_updateSessions _ _)]
            exact .expired hdb hrow' husable.1 husable.2 hexpired
          · rw [if_neg hexpired, bind_eq, eval_bind_of_ok (eval_recordActivity x)]
            exact .resolved hdb hrow' husable.1 husable.2 (by simpa using hexpired)
  · rw [withPool_of_disabled hdb]
    exact .noPool (by simpa using hdb)

/-- **What `revoke_session` can do**, run alone. -/
theorem revokeSession_cases (settings : Settings) (clock : Clock) (session_id user_id : Uuid)
    (reason : Str) (s : Store) :
    (∃ e, (revokeSession settings clock session_id user_id reason).eval s = .error e) ∨
      (revokeSession settings clock session_id user_id reason).eval s =
        .ok ((), (s.setSessions (fun x => x.id = session_id && x.revoked_at.isNone)
          (revoke clock.utcnow reason)).addAudit
            (auditRow settings clock (sessionRevoked session_id user_id reason))) := by
  rw [revokeSession, withPool]
  split
  · rw [bind_eq, eval_bind_of_ok (eval_updateSessions _ _), eval_addAuthEvent]
    split
    · exact Or.inr rfl
    · exact Or.inl ⟨_, rfl⟩
  · exact Or.inl ⟨_, rfl⟩

/-- The password verifies against one of the hashes, or a verification raises. -/
theorem verifiesAny_cases (settings : Settings) (crypto : Crypto) (user_id : Uuid) (password : Str)
    (hashes : List Str) (s : Store) :
    (∃ e, (verifiesAny settings crypto user_id password hashes).eval s = .error e) ∨
      ∃ found, (verifiesAny settings crypto user_id password hashes).eval s = .ok (found, s) ∧
        (found = false →
          ∀ hash ∈ hashes, verifyPassword crypto settings password hash = some false) := by
  induction hashes with
  | nil => exact Or.inr ⟨false, rfl, fun _ hash h => by cases h⟩
  | cons hash hashes ih =>
      rw [verifiesAny]
      rw [bind_eq]
      cases hm : verifyPassword crypto settings password hash with
      | none => exact Or.inl ⟨_, eval_bind_of_error (eval_verify_raises hm)⟩
      | some matched =>
          rw [eval_bind_of_ok (eval_verify hm)]
          cases matched with
          | true => exact Or.inr ⟨true, rfl, fun h => by cases h⟩
          | false =>
              rcases ih with ⟨e, he⟩ | ⟨found, hf, hall⟩
              · exact Or.inl ⟨e, he⟩
              · refine Or.inr ⟨found, hf, fun h0 other hother => ?_⟩
                rcases List.mem_cons.mp hother with rfl | hmem
                · exact hm
                · exact hall h0 other hmem

/-- The history after a password change keeps the latest rows of the account. -/
def keptHistory (settings : Settings) (scan : Scan PasswordHistory) (user : Account) (s : Store)
    (r : PasswordHistory) : Bool :=
  !oldHistory scan (fun r => r.user_id = user.id) settings.password_history_count.toNat s r

/-- The store after the old hash went into the history and the new one into the account. -/
def newHashStore (settings : Settings) (crypto : Crypto) (clock : Clock) (salt : Str)
    (historyId : Nat) (user : Account) (new_password : Str) (s : Store) : Store :=
  (s.alterHistory (· ++ [⟨historyId, user.id, user.password_hash, clock.txNow⟩])).setAccount user.id
    (setPassword (hashPassword crypto settings salt new_password) false clock.txNow)

/-- The store after a password change. -/
def changedStore (settings : Settings) (crypto : Crypto) (clock : Clock)
    (scan : Scan PasswordHistory) (salt : Str) (historyId : Nat) (context : AuthContext)
    (user : Account) (new_password : Str) (s : Store) : Store :=
  let s' := newHashStore settings crypto clock salt historyId user new_password s
  ((s'.alterHistory (List.filter (keptHistory settings scan user s'))).setSessions
      (fun x => unrevokedOf user.id x && x.id ≠ context.session_id)
      (revoke clock.txNow (str "PASSWORD_CHANGED"))).addAudit
    (auditRow settings clock (passwordChanged user.id context.session_id))

/-- Storing an accepted password, run alone. -/
theorem storePassword_cases (settings : Settings) (crypto : Crypto) (clock : Clock)
    (scan : Scan PasswordHistory) (salt : Str) (historyId : Nat) (context : AuthContext)
    (user : Account) (new_password : Str) (s : Store) :
    (∃ e, (storePassword settings crypto clock scan salt historyId context user new_password).eval
      s =
        .error e) ∨
      s.history.Accepts (· ++ [⟨historyId, user.id, user.password_hash, clock.txNow⟩]) ∧
        (storePassword settings crypto clock scan salt historyId context user new_password).eval s =
          .ok (true,
            changedStore settings crypto clock scan salt historyId context user
              new_password s) := by
  rw [storePassword]
  rw [bind_eq]
  have hins := eval_insertHistory (s := s) ⟨historyId, user.id, user.password_hash, clock.txNow⟩
  split at hins
  · exact Or.inl ⟨_, eval_bind_of_error hins⟩
  · split at hins
    · rename_i hacc
      rw [eval_bind_of_ok hins, bind_eq,
        eval_bind_of_ok (eval_updateAccount setPassword_keeps), bind_eq]
      have htrim := eval_trimHistory
        (s := newHashStore settings crypto clock salt historyId user new_password s) scan
        (fun r => r.user_id = user.id) settings.password_history_count
      rw [newHashStore] at htrim
      split at htrim
      · exact Or.inl ⟨_, eval_bind_of_error htrim⟩
      · rw [eval_bind_of_ok htrim, bind_eq, eval_bind_of_ok (eval_updateSessions _ _), bind_eq,
          eval_bind, eval_addAuthEvent]
        split
        · exact Or.inr ⟨hacc, rfl⟩
        · exact Or.inl ⟨_, rfl⟩
    · exact Or.inl ⟨_, eval_bind_of_error hins⟩

/-- **What `change_password` can do**, run alone: it raises, it answers `False` and changes
    nothing, or it verified the current password, accepted the new one and stored it. -/
theorem changePassword_cases (py : Python) (settings : Settings) (crypto : Crypto) (clock : Clock)
    (scan : Scan PasswordHistory) (salt : Str) (historyId : Nat) (context : AuthContext)
    (current_password new_password : Str) (s : Store) :
    (∃ e, (changePassword py settings crypto clock scan salt historyId context current_password
        new_password).eval s = .error e) ∨
      (changePassword py settings crypto clock scan salt historyId context current_password
        new_password).eval s = .ok (false, s) ∨
      ∃ user, (settings.database_enabled = true ∧
          s.accounts.rows.find? (byId context.user_id) = some user) ∧
        verifyPassword crypto settings current_password user.password_hash = some true ∧
        (validatePassword py new_password user.username = .ok () ∧
          0 ≤ settings.password_history_count ∧
          ∀ hash ∈ user.password_hash :: (latestHistory scan (fun r => r.user_id = user.id)
              settings.password_history_count.toNat s).map (·.password_hash),
            verifyPassword crypto settings new_password hash = some false) ∧
        s.history.Accepts (· ++ [⟨historyId, user.id, user.password_hash, clock.txNow⟩]) ∧
        (changePassword py settings crypto clock scan salt historyId context current_password
          new_password).eval s =
          .ok (true,
            changedStore settings crypto clock scan salt historyId context user
              new_password s) := by
  rw [changePassword, withPool]
  split
  · rename_i hdb
    rw [bind_eq, eval_bind_of_ok (eval_selectAccountForUpdate _)]
    cases hfind : s.accounts.rows.find? (byId context.user_id) with
    | none => exact Or.inr (Or.inl rfl)
    | some user =>
        dsimp only
        rw [bind_eq]
        cases hm : verifyPassword crypto settings current_password user.password_hash with
        | none => exact Or.inl ⟨_, eval_bind_of_error (eval_verify_raises hm)⟩
        | some matched =>
            rw [eval_bind_of_ok (eval_verify hm)]
            cases matched with
            | false => exact Or.inr (Or.inl rfl)
            | true =>
                rw [if_pos rfl]
                cases hpolicy : validatePassword py new_password user.username with
                | error message => exact Or.inl ⟨_, rfl⟩
                | ok _ =>
                    dsimp only
                    rw [bind_eq]
                    have hhist := eval_selectHistory (s := s) scan (fun r => r.user_id = user.id)
                      settings.password_history_count
                    split at hhist
                    · exact Or.inl ⟨_, eval_bind_of_error hhist⟩
                    · rename_i hlimit
                      rw [eval_bind_of_ok hhist, bind_eq]
                      rcases verifiesAny_cases settings crypto user.id new_password
                        (user.password_hash :: (latestHistory scan (fun r => r.user_id = user.id)
                          settings.password_history_count.toNat s).map (·.password_hash)) s with
                        ⟨e, he⟩ | ⟨found, hf, hall⟩
                      · exact Or.inl ⟨e, eval_bind_of_error he⟩
                      · rw [eval_bind_of_ok hf]
                        cases found with
                        | true => exact Or.inl ⟨_, rfl⟩
                        | false =>
                            rcases storePassword_cases settings crypto clock scan salt historyId
                              context user new_password s with ⟨e, he⟩ | ⟨hacc, hok⟩
                            · exact Or.inl ⟨e, he⟩
                            · exact Or.inr (Or.inr ⟨user, ⟨hdb, rfl⟩, hm,
                                ⟨hpolicy, Int.not_lt.mp hlimit, hall rfl⟩, hacc, hok⟩)
  · exact Or.inl ⟨_, rfl⟩

end Sessions

end NetProbeAuthService
