import NetProbe.AdminRoutesProofs

/-!
# How account administration fails

Each handler of `app/api/admin_users.py` is one transaction, so a request that raises changes
nothing; but the exception decides what the client is told.  `HTTPException` keeps its status,
everything else is the unhandled exception of `app/main.py`, a 500 (`statusOf`).

The failures are not translated alike.  `create_user` maps a unique violation to a 409, and
`update_user` lets it pass; the policy of a password is a 422 in `change_password`, and a
`ValueError` here; a user who does not exist is a 404 except for `revoke_user_sessions`, where
the audit row is the first to notice.  `request_mapped_iff` says which requests are answered as
they should be: for each route the condition on the request and the tables (`Mappable`).
-/

namespace NetProbeAdminErrors

open NetProbePyText NetProbeConfig NetProbeCoreAuth NetProbeAccountStore NetProbeAuthService
open NetProbeAdminUsers NetProbeAccountRuns NetProbeDeps NetProbeAuthDeps NetProbeAdminRoutes
open UniqueTable Transaction Transaction.Txn LabelledRun

-- ── Answers ───────────────────────────────────────────────────────────────────────

/-- The status of the answer to a request that raises: `http_exception_handler` and
    `unhandled_exception_handler`. -/
def statusOf : AuthError → Int
  | .httpException status_code _ _ => status_code
  | _ => 500

/-- The statuses of client errors. -/
def ClientError (status_code : Int) : Prop := 400 ≤ status_code ∧ status_code < 500

instance (status_code : Int) : Decidable (ClientError status_code) :=
  inferInstanceAs (Decidable (400 ≤ status_code ∧ status_code < 500))

/-- A handler returns, with the changes `C` committed; or it is answered with a client error, and
    nothing has changed. -/
def Mapped (w : Web AdminResponse) (m : WebState) (C : Store → Prop) : Prop :=
  (∃ response s', Returns w m response { m with store := s' } ∧ C s') ∨
    ∃ e, w.run.run m = (.error e, m) ∧ ClientError (statusOf e)

section Mapped

variable {α : Type} {p : AuthTxn α} {f : α → Web AdminResponse} {m : WebState} {C : Store → Prop}

theorem mapped_of_ok {a : α} {s' : Store} {response : AdminResponse}
    (h : p.eval m.store = .ok (a, s'))
    (hf : f a = pure response) (hC : C s') : Mapped (transact p >>= f) m C := by
  refine Or.inl ⟨response, s', ?_, hC⟩
  show (transact p >>= f).run.run m = _
  rw [run_transact_ok h, hf]
  rfl

/-- A transaction that is rolled back with a client error. -/
theorem mapped_of_error {e : AuthError} (h : p.eval m.store = .error e)
    (hstatus : ClientError (statusOf e)) : Mapped (transact p >>= f) m C :=
  Or.inr ⟨e, run_transact_error h f, hstatus⟩

/-- A transaction that is rolled back with an exception nobody translates. -/
theorem not_mapped_of_error {e : AuthError} (h : p.eval m.store = .error e)
    (hstatus : statusOf e = 500) :
    ¬ Mapped (transact p >>= f) m C := by
  have hrun := run_transact_error h f
  rintro (⟨response, s', hreturns, -⟩ | ⟨e', he', hclient⟩)
  · rw [Returns] at hreturns
    rw [hrun] at hreturns
    cases hreturns
  · rw [hrun] at he'
    cases he'
    rw [hstatus] at hclient
    exact absurd hclient (by decide)

end Mapped

-- ── What a request commits ────────────────────────────────────────────────────────

/-- The tables of a store. -/
structure Leaves (accounts : List Account) (sessions : List Session)
    (history : List PasswordHistory)
    (audit : List AuthAuditEvent) (s : Store) : Prop where
  accounts : s.accounts.rows = accounts
  sessions : s.sessions.rows = sessions
  history : s.history.rows = history
  audit : s.audit = audit

/-- All row changes of a request, and its audit row. -/
def Committed (env : Env) (actor : Uuid) (s : Store) : AdminRequest → Store → Prop
  | .listUsers .. => Leaves s.accounts.rows s.sessions.rows s.history.rows s.audit
  | .createUser clock user_id salt payload =>
      Leaves (s.accounts.rows ++
          [createdAccount env.py env.settings env.crypto clock actor user_id salt payload])
        s.sessions.rows s.history.rows
        (s.audit ++ [auditRow env.settings clock
          (adminEvent (str "ACCOUNT_CREATED") actor user_id { role := some payload.role })])
  | .updateUser clock user_id payload =>
      Leaves (updateWhere (byId user_id) (patched env.py clock payload) s.accounts.rows)
        (if payload.status = some .DISABLED then
          updateWhere (unrevokedOf user_id) (revoke clock.txNow (str "ACCOUNT_DISABLED"))
            s.sessions.rows
        else s.sessions.rows)
        s.history.rows
        (s.audit ++ [auditRow env.settings clock (accountUpdated actor user_id payload)])
  | .unlockUser clock user_id =>
      Leaves (updateWhere (byId user_id) (unlocked clock.txNow) s.accounts.rows)
        s.sessions.rows s.history.rows
        (s.audit ++ [auditRow env.settings clock
          (adminEvent (str "ACCOUNT_UNLOCKED") actor user_id {})])
  | .resetPassword clock user_id salt historyId payload =>
      Leaves (updateWhere (byId user_id)
          (setPassword (hashPassword env.crypto env.settings salt payload.temporary_password) true
            clock.txNow) s.accounts.rows)
        (updateWhere (unrevokedOf user_id) (revoke clock.txNow (str "PASSWORD_RESET"))
          s.sessions.rows)
        (s.history.rows ++ (s.accounts.rows.filter (byId user_id)).map fun user =>
          ⟨historyId, user_id, user.password_hash, clock.txNow⟩)
        (s.audit ++ [auditRow env.settings clock
          (adminEvent (str "PASSWORD_RESET_BY_ADMIN") actor user_id {})])
  | .revokeUserSessions clock user_id =>
      Leaves s.accounts.rows
        (updateWhere (unrevokedOf user_id) (revoke clock.txNow (str "ADMIN_REVOKED"))
          s.sessions.rows)
        s.history.rows
        (s.audit ++ [auditRow env.settings clock (adminEvent (str "SESSION_REVOKED") actor user_id
          { count := some (s.sessions.rows.filter (unrevokedOf user_id)).length })])

-- ── When it is answered as it should be ───────────────────────────────────────────

/-- The e-mail address `create_user` stores. -/
def sentEmail (py : Python) (payload : UserCreateRequest) : Option Str :=
  match payload.email with
  | none | some [] => none
  | some email => some (strip py (py.lower email))

/-- The texts of a new account fit their columns. -/
def payloadFits (py : Python) (payload : UserCreateRequest) : Bool :=
  accountFits payload.username (sentEmail py payload) (strip py payload.display_name)

/-- Nobody else has the e-mail address a patch brings in. -/
def AddressFree (py : Python) (user_id : Uuid) (payload : UserUpdateRequest) (s : Store) : Prop :=
  ∀ email ∈ newEmail py payload, ∀ a ∈ s.accounts.rows, a.email = some email → a.id = user_id

/-- The tables and the request cause no failure that the route does not translate. -/
def Mappable (env : Env) (s : Store) : AdminRequest → Prop
  | .listUsers _ q => q.encodes env.py = true
  | .createUser _ _ _ payload =>
      validatePassword env.py payload.temporary_password payload.username = .ok () ∧
        payloadFits env.py payload = true
  -- a user the guard lets pass is patched
  | .updateUser _ user_id payload => ∀ user, s.accounts.rows.find? (byLiveId user_id) = some user →
      GuardPasses payload user s →
        patchFits env.py payload user = true ∧ AddressFree env.py user_id payload s
  | .unlockUser .. => True
  -- the id comes from a sequence, which repeats none
  | .resetPassword _ user_id _ historyId payload =>
      ∀ user, s.accounts.rows.find? (byId user_id) = some user →
        validatePassword env.py payload.temporary_password user.username = .ok () ∧
          ∀ r ∈ s.history.rows, r.id ≠ historyId
  | .revokeUserSessions _ user_id => s.hasAccount user_id = true

section Routes

variable {env : Env} {lower : Str → Str} {clock : Clock} {c : AuthContext}
  {user_id : Uuid} {salt : Str}
  {historyId : Nat} {m : WebState} {s : Store} {actor : Uuid}

-- ── The statements the routes share ───────────────────────────────────────────────

/-- The audit row of a route, written by an actor who exists. -/
theorem eval_adminEvent (hactor : s.hasAccount actor = true) {event_type : Str}
    {details : SafeDetails} :
    (addAuthEvent env.settings clock (adminEvent event_type actor user_id details)).eval s =
      if s.hasAccount user_id = true then
        .ok ((), s.addAudit
          (auditRow env.settings clock (adminEvent event_type actor user_id details)))
      else .error .foreignKeyViolation := by
  rw [eval_addAuthEvent]
  show (if ([actor] ++ [user_id]).all s.hasAccount = true then _ else _) = _
  rw [List.all_append, List.all_cons, hactor]
  simp only [List.all_cons, List.all_nil, Bool.and_true, Bool.true_and]

-- ── Creation ──────────────────────────────────────────────────────────────────────

section Create

variable {payload : UserCreateRequest}

/-- The insertion of an account whose creator exists. -/
theorem eval_storeAccount {row : Account}
    (hcreator : ∀ id ∈ row.created_by, s.hasAccount id = true) :
    (storeAccount row).eval s =
      if accountFits row.username row.email row.display_name = true then
        if s.accounts.Accepts (· ++ [row]) then .ok (row, s.alterAccounts (· ++ [row]))
        else .error .uniqueViolation
      else .error .dataError := by
  rw [storeAccount]
  by_cases hfits : accountFits row.username row.email row.display_name = true
  · rw [if_pos hfits, if_pos hfits, eval_insertAccount]
    refine if_neg fun hmissing => ?_
    cases hcreated : row.created_by with
    | none =>
        rw [hcreated] at hmissing
        cases hmissing
    | some id =>
        rw [hcreated, Option.any_some, hcreator id hcreated] at hmissing
        cases hmissing
  · rw [if_neg hfits, if_neg hfits]
    rfl

/-- `create_user` by an actor who exists. -/
theorem eval_createUser (env : Env) (clock : Clock) (user_id : Uuid) (salt : Str)
    (payload : UserCreateRequest) (hdb : env.settings.database_enabled = true)
    (hactor : s.hasAccount actor = true) {row : Account}
    (hrow : createdAccount env.py env.settings env.crypto clock actor user_id salt payload = row) :
    (NetProbeAdminUsers.createUser env.py env.settings env.crypto clock actor user_id
      salt payload).eval s =
      match validatePassword env.py payload.temporary_password payload.username with
      | .error message => .error (.valueError message)
      | .ok _ =>
          if payloadFits env.py payload = true then
            if s.accounts.Accepts (· ++ [row]) then
              .ok (row, (s.alterAccounts (· ++ [row])).addAudit (auditRow env.settings clock
                (adminEvent (str "ACCOUNT_CREATED") actor user_id { role := some payload.role })))
            else .error (usernameExists .uniqueViolation)
          else .error .dataError := by
  rw [NetProbeAdminUsers.createUser]
  cases validatePassword env.py payload.temporary_password payload.username with
  | error message => rfl
  | ok _ =>
      dsimp only
      have hstore : (storeAccount row).eval s =
          if payloadFits env.py payload = true then
            if s.accounts.Accepts (· ++ [row]) then .ok (row, s.alterAccounts (· ++ [row]))
            else .error .uniqueViolation
          else .error .dataError := by
        subst hrow
        exact eval_storeAccount fun id hid => Option.some.inj hid ▸ hactor
      rw [withPool_of_enabled hdb, hrow, bind_eq]
      by_cases hfits : payloadFits env.py payload = true
      · rw [if_pos hfits] at hstore ⊢
        by_cases hacc : s.accounts.Accepts (· ++ [row])
        · rw [if_pos hacc] at hstore ⊢
          have huser : (s.alterAccounts (· ++ [row])).hasAccount user_id = true := by
            rw [hasAccount_insert hacc, ← hrow]
            show (s.hasAccount user_id || decide (user_id = user_id)) = true
            simp
          have hactor' : (s.alterAccounts (· ++ [row])).hasAccount actor = true := by
            rw [hasAccount_insert hacc, hactor, Bool.true_or]
          refine eval_handle_of_ok ?_
          rw [eval_bind_of_ok hstore, bind_eq,
            eval_bind_of_ok ((eval_adminEvent hactor').trans (if_pos huser))]
          rfl
        · rw [if_neg hacc] at hstore ⊢
          exact eval_handle_of_error (eval_bind_of_error hstore)
      · rw [if_neg hfits] at hstore ⊢
        exact eval_handle_of_error (eval_bind_of_error hstore)

theorem mapped_createUser_iff (hdb : env.settings.database_enabled = true)
    (hactor : m.store.hasAccount c.user_id = true) :
    Mapped ((AdminRequest.createUser clock user_id salt payload).handler env lower (some c)) m
        (Committed env c.user_id m.store (.createUser clock user_id salt payload)) ↔
      Mappable env m.store (.createUser clock user_id salt payload) := by
  have heval := eval_createUser env clock user_id salt payload hdb hactor rfl
  rw [← createUser_some] at heval
  cases hvalid : validatePassword env.py payload.temporary_password payload.username with
  | error message =>
      rw [hvalid] at heval
      refine iff_of_false (not_mapped_of_error heval rfl) ?_
      rintro ⟨hok, -⟩
      cases hvalid.symm.trans hok
  | ok valid =>
      rw [hvalid] at heval
      dsimp only at heval
      by_cases hfits : payloadFits env.py payload = true
      · rw [if_pos hfits] at heval
        refine iff_of_true ?_ ⟨hvalid, hfits⟩
        by_cases hacc : m.store.accounts.Accepts
            (· ++ [createdAccount env.py env.settings env.crypto clock c.user_id
              user_id salt payload])
        · rw [if_pos hacc] at heval
          exact mapped_of_ok heval rfl ⟨alter_rows hacc, rfl, rfl, rfl⟩
        · rw [if_neg hacc] at heval
          exact mapped_of_error heval (by decide)
      · rw [if_neg hfits] at heval
        exact iff_of_false (not_mapped_of_error heval rfl)
          fun h => hfits h.2

end Create

-- ── Patches ───────────────────────────────────────────────────────────────────────

section Update

variable {payload : UserUpdateRequest} {user : Account}

/-- What a patch changes about a row that clashes with another one is its address. -/
theorem clash_patched_iff {a : Account} (hne : accountClash a user = false) :
    accountClash a (patched env.py clock payload user) = false ↔
      ∀ email ∈ newEmail env.py payload, a.email ≠ some email := by
  unfold accountClash at hne ⊢
  simp only [Bool.or_eq_false_iff, Bool.and_eq_false_iff, decide_eq_false_iff_not] at hne ⊢
  obtain ⟨⟨hid, hname⟩, hemail⟩ := hne
  show (¬ a.id = user.id ∧ ¬ a.username = user.username) ∧
    (a.email.isSome = false ∨ ¬ a.email = (newEmail env.py payload).or user.email) ↔ _
  cases hnew : newEmail env.py payload with
  | none => exact iff_of_true ⟨⟨hid, hname⟩, hemail⟩ fun email h => nomatch h
  | some address =>
      rw [Option.some_or]
      constructor
      · rintro ⟨-, hfree⟩ email hmem hsame
        obtain rfl := Option.some.inj hmem
        rcases hfree with hnone | hother
        · rw [hsame] at hnone
          cases hnone
        · exact hother hsame
      · intro hfree
        exact ⟨⟨hid, hname⟩, Or.inr (hfree address rfl)⟩

/-- A patch is accepted exactly if nobody else has the address it brings in. -/
theorem accepts_patch_iff (hmem : user ∈ s.accounts.rows) (hid : user.id = user_id) :
    s.accounts.Accepts (updateWhere (byId user_id) (patched env.py clock payload)) ↔
      AddressFree env.py user_id payload s := by
  rw [accepts_updateOne_iff accountClash_symm byId_clash hmem (by simp [byId, hid])]
  have hclash : ∀ a ∈ s.accounts.rows, a.id ≠ user_id → accountClash a user = false := by
    intro a ha hne
    by_contra hclash
    have hsame := eq_of_clash accountClash_symm ha hmem (by simpa using hclash)
    exact hne (hsame ▸ hid)
  constructor
  · intro h email hemail a ha haddress
    by_contra hne
    have hfree := (clash_patched_iff (hclash a ha hne)).mp (h a ha (by simp [byId, hne]))
    exact hfree email hemail haddress
  · intro h a ha hother
    have hne : a.id ≠ user_id := by simpa [byId] using hother
    exact (clash_patched_iff (hclash a ha hne)).mpr fun email hemail haddress =>
      hne (h email hemail a ha haddress)

/-- `storePatch` on a user who exists, by an actor who exists. -/
theorem eval_storePatch (hactor : s.hasAccount actor = true) (hmem : user ∈ s.accounts.rows)
    (hid : user.id = user_id) :
    (storePatch env.py env.settings clock actor user_id payload user).eval s =
      if patchFits env.py payload user = true then
        if s.accounts.Accepts (updateWhere (byId user_id) (patched env.py clock payload)) then
          .ok (some (patched env.py clock payload user),
            patchedStore env.py env.settings clock actor user_id payload s)
        else .error .uniqueViolation
      else .error .dataError := by
  rw [storePatch]
  by_cases hfits : patchFits env.py payload user = true
  · rw [if_pos hfits, if_pos hfits, bind_eq]
    have hupdate := eval_updateAccounts (s := s)
      ((newEmail env.py payload).map LockKey.accountEmail).toList (byId user_id)
      (patched env.py clock payload)
    by_cases hacc : s.accounts.Accepts (updateWhere (byId user_id) (patched env.py clock payload))
    · rw [if_pos hacc, byId_filter hmem hid] at hupdate
      have hkept : ∀ u, s.hasAccount u = true → (revokedStore clock user_id payload
          (s.setAccount user_id (patched env.py clock payload))).hasAccount u = true := by
        intro u hu
        have hsame : (s.setAccount user_id (patched env.py clock payload)).hasAccount u =
            s.hasAccount u :=
          hasAccount_updateWhere fun _ => rfl
        rw [revokedStore]
        split
        · exact hsame.trans hu
        · exact hsame.trans hu
      have haudit : (addAuthEvent env.settings clock (accountUpdated actor user_id payload)).eval
          (revokedStore clock user_id payload
            (s.setAccount user_id (patched env.py clock payload))) =
            .ok ((), patchedStore env.py env.settings clock actor user_id payload s) :=
        (eval_adminEvent (hkept actor hactor)).trans
          (if_pos (hkept user_id (hid ▸ hasAccount_of_mem hmem)))
      rw [if_pos hacc, eval_bind_of_ok hupdate, bind_eq,
        eval_bind_of_ok (eval_revokeDisabled _), bind_eq]
      exact eval_bind_of_ok haudit
    · rw [if_neg hacc] at hupdate ⊢
      exact eval_bind_of_error hupdate
  · rw [if_neg hfits, if_neg hfits]
    rfl

/-- `update_user` on a user who exists: the guard, and what it lets pass. -/
theorem eval_updateUser (env : Env) (clock : Clock) (actor : Uuid) (payload : UserUpdateRequest)
    (hdb : env.settings.database_enabled = true)
    (hfind : s.accounts.rows.find? (byLiveId user_id) = some user) :
    (NetProbeAdminUsers.updateUser env.py env.settings clock actor user_id payload).eval s =
      if countsAdmins payload user = true ∧
        (usableAdmins s).length ≤ 1 then .error lastAdminProtected
      else (storePatch env.py env.settings clock actor user_id payload user).eval s := by
  rw [NetProbeAdminUsers.updateUser]
  rw [withPool_of_enabled hdb, bind_eq, eval_bind_of_ok (eval_selectAccountForUpdate _), hfind]
  dsimp only
  have hguard := eval_lastAdminGuard payload user s
  rw [bind_eq]
  split
  · rename_i hlast
    rw [if_pos hlast] at hguard
    exact eval_bind_of_error hguard
  · rename_i hlast
    rw [if_neg hlast] at hguard
    exact eval_bind_of_ok hguard

/-- The store after a patch. -/
theorem leaves_patchedStore
    (hacc : s.accounts.Accepts (updateWhere (byId user_id) (patched env.py clock payload))) :
    Committed env actor s (.updateUser clock user_id payload)
      (patchedStore env.py env.settings clock actor user_id payload s) := by
  unfold patchedStore revokedStore Committed
  dsimp only
  by_cases hdisabled : payload.status = some .DISABLED
  · rw [if_pos hdisabled, if_pos hdisabled]
    exact ⟨alter_rows hacc, setSessions_rows revoke_keeps, rfl, rfl⟩
  · rw [if_neg hdisabled, if_neg hdisabled]
    exact ⟨alter_rows hacc, rfl, rfl, rfl⟩

theorem mapped_updateUser_iff (hdb : env.settings.database_enabled = true)
    (hactor : m.store.hasAccount c.user_id = true) :
    Mapped ((AdminRequest.updateUser clock user_id payload).handler env lower (some c)) m
        (Committed env c.user_id m.store (.updateUser clock user_id payload)) ↔
      Mappable env m.store (.updateUser clock user_id payload) := by
  cases hfind : m.store.accounts.rows.find? (byLiveId user_id) with
  | none =>
      have heval :
          (NetProbeAdminUsers.updateUser env.py env.settings clock c.user_id user_id payload).eval
          m.store = .error userNotFound := by
        rw [NetProbeAdminUsers.updateUser]
        rw [withPool_of_enabled hdb, bind_eq,
          eval_bind_of_ok (eval_selectAccountForUpdate _), hfind]
        rfl
      rw [← updateUser_some] at heval
      refine iff_of_true (mapped_of_error heval (by decide)) fun user hsome => ?_
      cases hfind.symm.trans hsome
  | some user =>
      obtain ⟨hmem, hid, -⟩ := find_byLiveId hfind
      have heval := eval_updateUser env clock c.user_id payload hdb hfind
      rw [← updateUser_some] at heval
      by_cases hlast : countsAdmins payload user = true ∧ (usableAdmins m.store).length ≤ 1
      · rw [if_pos hlast] at heval
        refine iff_of_true (mapped_of_error heval (by decide)) fun user' hsome hpass => ?_
        obtain rfl := Option.some.inj (hfind.symm.trans hsome)
        have hmore := hpass hlast.1
        omega
      · have hpass : GuardPasses payload user m.store := by
          intro hcounts
          by_contra hfew
          exact hlast ⟨hcounts, by omega⟩
        rw [if_neg hlast, eval_storePatch hactor hmem hid] at heval
        by_cases hfits : patchFits env.py payload user = true
        · rw [if_pos hfits] at heval
          by_cases hacc :
            m.store.accounts.Accepts (updateWhere (byId user_id) (patched env.py clock payload))
          · rw [if_pos hacc] at heval
            refine iff_of_true (mapped_of_ok heval rfl (leaves_patchedStore hacc))
              fun user' hsome _ => ?_
            obtain rfl := Option.some.inj (hfind.symm.trans hsome)
            exact ⟨hfits, (accepts_patch_iff hmem hid).mp hacc⟩
          · rw [if_neg hacc] at heval
            refine iff_of_false (not_mapped_of_error heval rfl) ?_
            exact fun h => hacc ((accepts_patch_iff hmem hid).mpr (h user hfind hpass).2)
        · rw [if_neg hfits] at heval
          refine iff_of_false (not_mapped_of_error heval rfl) ?_
          exact fun h => hfits (h user hfind hpass).1

end Update

-- ── Unlocks, resets, revocations, listings ────────────────────────────────────────

theorem mapped_unlockUser_iff (hdb : env.settings.database_enabled = true)
    (hactor : m.store.hasAccount c.user_id = true) :
    Mapped ((AdminRequest.unlockUser clock user_id).handler env lower (some c)) m
        (Committed env c.user_id m.store (.unlockUser clock user_id)) ↔
      Mappable env m.store (.unlockUser clock user_id) := by
  refine iff_of_true ?_ trivial
  by_cases huser : m.store.hasAccount user_id = true
  · have heval : (NetProbeAdminUsers.unlockUser env.settings clock c.user_id user_id).eval m.store =
        .ok ((), unlockedStore env.settings clock c.user_id user_id m.store) :=
      eval_unlockUser_ok hdb huser hactor
    rw [← unlockUser_some] at heval
    exact mapped_of_ok heval rfl
      ⟨setAccount_rows_of_accepts (accepts_update unlocked_keeps), rfl, rfl, rfl⟩
  · have hnone : m.store.accounts.rows.filter (byId user_id) = [] := by
      refine List.filter_eq_nil_iff.mpr fun a ha hid => huser ?_
      rw [← show a.id = user_id from of_decide_eq_true hid]
      exact hasAccount_of_mem ha
    have heval : (NetProbeAdminUsers.unlockUser env.settings clock c.user_id user_id).eval m.store =
        .error userNotFound := by
      rw [NetProbeAdminUsers.unlockUser]
      rw [withPool_of_enabled hdb, bind_eq,
        eval_bind_of_ok (eval_updateAccount unlocked_keeps), hnone]
      rfl
    rw [← unlockUser_some] at heval
    exact mapped_of_error heval (by decide)

section Reset

variable {payload : AdminResetPasswordRequest} {user : Account}

theorem accepts_history_iff {row : PasswordHistory} :
    s.history.Accepts (· ++ [row]) ↔ ∀ r ∈ s.history.rows, r.id ≠ row.id := by
  rw [accepts_append_iff]
  simp only [historyClash, decide_eq_false_iff_not]

/-- `storeReset` on a user who exists, by an actor who exists. -/
theorem eval_storeReset (hactor : s.hasAccount actor = true) (hmem : user ∈ s.accounts.rows)
    (hid : user.id = user_id) :
    (storeReset env.settings env.crypto clock actor user_id salt historyId payload user).eval s =
      if s.history.Accepts (· ++ [⟨historyId, user_id, user.password_hash, clock.txNow⟩]) then
        .ok
          ((), resetStore env.settings env.crypto clock actor user_id salt historyId payload user s)
      else .error .uniqueViolation := by
  have huser : s.hasAccount user_id = true := hid ▸ hasAccount_of_mem hmem
  have hinsert := eval_insertHistory (s := s) ⟨historyId, user_id, user.password_hash, clock.txNow⟩
  rw [if_neg (by simp [huser])] at hinsert
  rw [storeReset]
  rw [bind_eq]
  by_cases hacc : s.history.Accepts (· ++ [⟨historyId, user_id, user.password_hash, clock.txNow⟩])
  · rw [if_pos hacc] at hinsert ⊢
    rw [eval_bind_of_ok hinsert, bind_eq,
      eval_bind_of_ok (eval_updateAccount setPassword_keeps), bind_eq,
      eval_bind_of_ok (eval_updateSessions _ _)]
    refine (eval_adminEvent ?_).trans (if_pos ?_)
    · exact (hasAccount_setAccount setPassword_keeps).trans hactor
    · exact (hasAccount_setAccount setPassword_keeps).trans huser
  · rw [if_neg hacc] at hinsert ⊢
    exact eval_bind_of_error hinsert

/-- The store after a reset. -/
theorem leaves_resetStore (hmem : user ∈ s.accounts.rows) (hid : user.id = user_id)
    (hacc : s.history.Accepts (· ++ [⟨historyId, user_id, user.password_hash, clock.txNow⟩])) :
    Committed env actor s (.resetPassword clock user_id salt historyId payload)
      (resetStore env.settings env.crypto clock actor user_id salt historyId payload user s) := by
  refine ⟨setAccount_rows_of_accepts (accepts_update setPassword_keeps),
    setSessions_rows revoke_keeps, (alter_rows hacc).trans ?_, rfl⟩
  rw [byId_filter hmem hid]
  rfl

/-- `reset_password` on a user who exists. -/
theorem eval_resetPassword (env : Env) (clock : Clock) (actor : Uuid) (salt : Str) (historyId : Nat)
    (payload : AdminResetPasswordRequest) (hdb : env.settings.database_enabled = true)
    (hfind : s.accounts.rows.find? (byId user_id) = some user) :
    (NetProbeAdminUsers.resetPassword env.py env.settings env.crypto clock actor
      user_id salt historyId
        payload).eval s =
      match validatePassword env.py payload.temporary_password user.username with
      | .error message => .error (.valueError message)
      | .ok _ =>
          (storeReset env.settings env.crypto clock actor user_id salt historyId payload user).eval
            s := by
  rw [NetProbeAdminUsers.resetPassword]
  rw [withPool_of_enabled hdb, bind_eq, eval_bind_of_ok (eval_selectAccountForUpdate _), hfind]
  dsimp only
  cases validatePassword env.py payload.temporary_password user.username with
  | error message => rfl
  | ok _ => rfl

theorem mapped_resetPassword_iff (hdb : env.settings.database_enabled = true)
    (hactor : m.store.hasAccount c.user_id = true) :
    Mapped ((AdminRequest.resetPassword clock user_id salt historyId payload).handler
      env lower (some c)) m
        (Committed env c.user_id m.store (.resetPassword clock user_id salt historyId payload)) ↔
      Mappable env m.store (.resetPassword clock user_id salt historyId payload) := by
  cases hfind : m.store.accounts.rows.find? (byId user_id) with
  | none =>
      have heval :
          (NetProbeAdminUsers.resetPassword env.py env.settings env.crypto clock c.user_id user_id
          salt historyId payload).eval m.store = .error userNotFound := by
        rw [NetProbeAdminUsers.resetPassword]
        rw [withPool_of_enabled hdb, bind_eq,
          eval_bind_of_ok (eval_selectAccountForUpdate _), hfind]
        rfl
      rw [← resetPassword_some] at heval
      refine iff_of_true (mapped_of_error heval (by decide)) fun user hsome => ?_
      cases hfind.symm.trans hsome
  | some user =>
      obtain ⟨hmem, hid⟩ := find_byId hfind
      have heval := eval_resetPassword env clock c.user_id salt historyId payload hdb hfind
      rw [← resetPassword_some] at heval
      cases hvalid : validatePassword env.py payload.temporary_password user.username with
      | error message =>
          rw [hvalid] at heval
          refine iff_of_false (not_mapped_of_error heval rfl) ?_
          intro h
          cases hvalid.symm.trans (h user hfind).1
      | ok valid =>
          rw [hvalid] at heval
          dsimp only at heval
          rw [eval_storeReset hactor hmem hid] at heval
          by_cases hacc : m.store.history.Accepts
              (· ++ [⟨historyId, user_id, user.password_hash, clock.txNow⟩])
          · rw [if_pos hacc] at heval
            refine iff_of_true (mapped_of_ok heval rfl (leaves_resetStore hmem hid hacc))
              fun user' hsome => ?_
            obtain rfl := Option.some.inj (hfind.symm.trans hsome)
            exact ⟨hvalid, accepts_history_iff.mp hacc⟩
          · rw [if_neg hacc] at heval
            refine iff_of_false (not_mapped_of_error heval rfl) ?_
            exact fun h => hacc (accepts_history_iff.mpr (h user hfind).2)

end Reset

/-- `revoke_user_sessions` by an actor who exists: the audit row asks whether the user does. -/
theorem eval_revokeUserSessions (env : Env) (clock : Clock) (user_id : Uuid)
    (hdb : env.settings.database_enabled = true) (hactor : s.hasAccount actor = true) :
    (NetProbeAdminUsers.revokeUserSessions env.settings clock actor user_id).eval s =
      if s.hasAccount user_id = true then
        .ok ((s.sessions.rows.filter (unrevokedOf user_id)).length,
          (s.setSessions (unrevokedOf user_id) (revoke clock.txNow (str "ADMIN_REVOKED"))).addAudit
            (auditRow env.settings clock (adminEvent (str "SESSION_REVOKED") actor user_id
              { count := some (s.sessions.rows.filter (unrevokedOf user_id)).length })))
      else .error .foreignKeyViolation := by
  rw [NetProbeAdminUsers.revokeUserSessions]
  rw [withPool_of_enabled hdb, bind_eq, eval_bind_of_ok (eval_updateSessions _ _),
    List.length_map, bind_eq]
  have hkept : ∀ u, (s.setSessions (unrevokedOf user_id)
      (revoke clock.txNow (str "ADMIN_REVOKED"))).hasAccount u = s.hasAccount u :=
    fun _ => hasAccount_setSessions
  rw [← hkept] at hactor
  by_cases huser : s.hasAccount user_id = true
  · rw [if_pos huser]
    rw [← hkept] at huser
    exact eval_bind_of_ok ((eval_adminEvent hactor).trans (if_pos huser))
  · rw [if_neg huser]
    rw [← hkept] at huser
    exact eval_bind_of_error ((eval_adminEvent hactor).trans (if_neg huser))

theorem mapped_revokeUserSessions_iff (hdb : env.settings.database_enabled = true)
    (hactor : m.store.hasAccount c.user_id = true) :
    Mapped ((AdminRequest.revokeUserSessions clock user_id).handler env lower (some c)) m
        (Committed env c.user_id m.store (.revokeUserSessions clock user_id)) ↔
      Mappable env m.store (.revokeUserSessions clock user_id) := by
  have heval := eval_revokeUserSessions env clock user_id hdb hactor
  rw [← revokeUserSessions_some] at heval
  by_cases huser : m.store.hasAccount user_id = true
  · rw [if_pos huser] at heval
    exact iff_of_true (mapped_of_ok heval rfl ⟨rfl, setSessions_rows revoke_keeps, rfl, rfl⟩) huser
  · rw [if_neg huser] at heval
    exact iff_of_false (not_mapped_of_error heval rfl) huser

theorem mapped_listUsers_iff (hdb : env.settings.database_enabled = true) {scan : Scan Account}
    {q : ListQuery} :
    Mapped ((AdminRequest.listUsers scan q).handler env lower (some c)) m
        (Committed env c.user_id m.store (.listUsers scan q)) ↔
      Mappable env m.store (.listUsers scan q) := by
  have heval := eval_listUsers hdb lower scan q m.store
  by_cases hencodes : q.encodes env.py = true
  · rw [if_pos hencodes] at heval
    exact iff_of_true (mapped_of_ok heval rfl ⟨rfl, rfl, rfl, rfl⟩) hencodes
  · rw [if_neg hencodes] at heval
    exact iff_of_false (not_mapped_of_error heval rfl) hencodes

end Routes

-- ── The request of an administrator ───────────────────────────────────────────────

section Request

variable {env : Env} {lower : Str → Str} {call : AdminRequest} {ticks : Nat → Tick}
  {request : Request}
  {st m : WebState} {context : Option AuthContext}

/-- A handler that runs has the context of an account that exists. -/
theorem administrator_of_solve (hauth : env.settings.auth_enabled = true)
    (h : Returns (solve env request call.dependencies ticks) st context m) :
    ∃ c, context = some c ∧ m.store.hasAccount c.user_id = true := by
  have hlast : ∃ clock m₀, Returns (requireRoles env [.ADMIN] clock request) m₀ context m := by
    cases call with
    | listUsers scan q => exact ⟨(ticks 0).clock, st, h⟩
    | createUser | updateUser | unlockUser | resetPassword | revokeUserSessions =>
        obtain ⟨out₁, m₁, -, hrest⟩ := returns_bind.mp h
        obtain ⟨out₂, m₂, -, hthird⟩ := returns_bind.mp hrest
        exact ⟨(ticks 2).clock, m₂, hthird⟩
  obtain ⟨clock, m₀, hroles⟩ := hlast
  obtain ⟨token, x, a, hgood, -, -, -, hstore, hcontext⟩ := requireRoles_returns hauth hroles
  refine ⟨contextOf a x.id, hcontext, ?_⟩
  have haccounts : m.store.accounts = m₀.store.accounts := by
    rw [hstore]
    rw [activityStore]
    split
    · rfl
    · rfl
  show m.store.hasAccount a.id = true
  refine hasAccount_of_mem ?_
  rw [haccounts]
  exact hgood.account

/-- **Which requests are answered as they should be**: a request of an administrator whose handler
    runs commits all its changes, or is refused with a client error and changes nothing, exactly
    if it is mappable. -/
theorem request_mapped_iff (hdb : env.settings.database_enabled = true)
    (hauth : env.settings.auth_enabled = true)
    (hsolve : Returns (solve env request call.dependencies ticks) st context m) :
    ∃ c, context = some c ∧
      (Mapped (call.handler env lower context) m (Committed env c.user_id m.store call) ↔
        Mappable env m.store call) := by
  obtain ⟨c, rfl, hactor⟩ := administrator_of_solve hauth hsolve
  refine ⟨c, rfl, ?_⟩
  cases call with
  | listUsers scan q => exact mapped_listUsers_iff hdb
  | createUser clock user_id salt payload => exact mapped_createUser_iff hdb hactor
  | updateUser clock user_id payload => exact mapped_updateUser_iff hdb hactor
  | unlockUser clock user_id => exact mapped_unlockUser_iff hdb hactor
  | resetPassword clock user_id salt historyId payload => exact mapped_resetPassword_iff hdb hactor
  | revokeUserSessions clock user_id => exact mapped_revokeUserSessions_iff hdb hactor

end Request

-- ── A deployment ──────────────────────────────────────────────────────────────────

/-- A request of the administrator of `sampleOps`. -/
def adminRequest : Request := { sampleRequest with path := str "/api/v1/admin/users" }

/-- The administrator. -/
def adminContext : AuthContext := ⟨1, 7, str "root", str "root", .ADMIN, false⟩

/-- The clocks of the dependencies. -/
def adminTicks (_ : Nat) : Tick := ⟨⟨3, 3, 3⟩, 0⟩

/-- The state in which the handler of a change runs. -/
def solvedState : WebState :=
  ((solve .sample adminRequest Route.createUser.dependencies adminTicks).run.run sampleState).2

theorem adminRequest_solved :
    Returns (solve .sample adminRequest Route.createUser.dependencies adminTicks)
    sampleState (some adminContext) solvedState :=
  Prod.ext (by decide +kernel) rfl

/-- The creation of an operator. -/
def creation : AdminRequest := .createUser ⟨4, 4, 4⟩ 2 [] .sample

/-- The general result on a creation. -/
theorem creation_mapped : Mapped (creation.handler .sample id (some adminContext)) solvedState
    (Committed .sample 1 solvedState.store creation) := by
  have hsolve : Returns (solve .sample adminRequest creation.dependencies adminTicks) sampleState
      (some adminContext) solvedState := adminRequest_solved
  obtain ⟨c, hc, hiff⟩ := request_mapped_iff rfl rfl hsolve
  obtain rfl := Option.some.inj hc
  exact hiff.mpr (And.intro (by decide) (by decide))

/-- A change of accounts; a reset draws an id that no row has. -/
def Changes (s : Store) : AdminRequest → Prop
  | .listUsers .. => False
  | .resetPassword _ _ _ historyId _ => ∀ r ∈ s.history.rows, r.id ≠ historyId
  | _ => True

/-- **A missing user is a server error.** To revoke the sessions of a user who does not exist
    violates the foreign key of the audit row. -/
theorem revocation_unmapped :
    ¬ ∀ (env : Env) (lower : Str → Str) (calls : List Call) (call : AdminRequest)
      (ticks : Nat → Tick)
      (request : Request) (st m : WebState) (c : AuthContext),
      env.settings.database_enabled = true → env.settings.auth_enabled = true →
        Run (callStep env) .empty calls st.store → Changes st.store call →
          Returns (solve env request call.dependencies ticks) st (some c) m →
            Mapped (call.handler env lower (some c)) m (Committed env c.user_id m.store call) := by
  intro h
  have hmapped :=
    h .sample id _ (.revokeUserSessions ⟨4, 4, 4⟩ 99) adminTicks adminRequest sampleState
    solvedState adminContext rfl rfl (run_callsOf _ _ _) trivial adminRequest_solved
  have huser : solvedState.store.hasAccount 99 = true :=
    (mapped_revokeUserSessions_iff rfl (by decide +kernel)).mp hmapped
  revert huser
  decide +kernel

end NetProbeAdminErrors
