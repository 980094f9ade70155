import NetProbe.SessionCapProofs

/-!
# The audit trail

Which account an operation touches, and whether it says so.  `Touched` is what the audit trail is
for: an account is new, its role, status or password is not what it was, or one of its sessions
got a revocation time.  `Audited` is a row of `auth_audit_events` about the account, added by the
same transaction.

Seven of the ten operations change one account and what belongs to it, and record that account
(`Recorded`): `authenticate` with its automatic unlock and the sessions it evicts,
`change_password`, and the routes.  The other three can leave something unrecorded (`Omits`):

* `create_admin` inserts an account, and never writes an audit row;
* `resolve_session` revokes a session whose time is up, and writes none either;
* `revoke_session` revokes the session it is told to, and records the user it is told, who need
  not be its owner.

So a run is recorded throughout exactly if none of its calls is one of these
(`audit_complete_iff`).
-/

namespace NetProbeAuditTrail

open NetProbePyText NetProbeConfig NetProbeCoreAuth NetProbeAccountStore NetProbeAuthService
open NetProbeAdminUsers NetProbeAccountRuns UniqueTable Transaction Transaction.Txn LabelledRun

-- ── What the trail is for ─────────────────────────────────────────────────────────

/-- The account is new, its role, status or password changed, or `revoked_at` of one of its
    sessions was set. -/
inductive Touched (user_id : Uuid) (s s' : Store) : Prop where
  | inserted (hbefore : s.hasAccount user_id = false) (hafter : s'.hasAccount user_id = true)
  | changed {a b : Account} (ha : a ∈ s.accounts.rows) (hb : b ∈ s'.accounts.rows)
      (haid : a.id = user_id) (hbid : b.id = user_id)
      (hchanged : b.role ≠ a.role ∨ b.status ≠ a.status ∨ b.password_hash ≠ a.password_hash)
  | revoked {x y : Session} (hx : x ∈ s.sessions.rows) (hy : y ∈ s'.sessions.rows)
      (hid : y.id = x.id) (howner : y.user_id = user_id) (hset : y.revoked_at.isSome = true)
      (hchanged : y.revoked_at ≠ x.revoked_at)

/-- An audit row about the account was added. -/
def Audited (user_id : Uuid) (s s' : Store) : Prop :=
  ∃ added, s'.audit = s.audit ++ added ∧
    ∃ event ∈ added, event.fields.target_user_id = some user_id

/-- Every account that was touched has its audit row. -/
def Recorded (s s' : Store) : Prop := ∀ user_id, Touched user_id s s' → Audited user_id s s'

/-- Nothing that the trail is for happened to the account. -/
structure Spared (user_id : Uuid) (s s' : Store) : Prop where
  account : ∀ b ∈ s'.accounts.rows, b.id = user_id → ∃ a ∈ s.accounts.rows, a.id = user_id ∧
    b.role = a.role ∧ b.status = a.status ∧ b.password_hash = a.password_hash
  session : ∀ y ∈ s'.sessions.rows, y.user_id = user_id → y.revoked_at = none ∨
    ∃ x ∈ s.sessions.rows, x.id = y.id ∧ x.user_id = user_id ∧ y.revoked_at = x.revoked_at

section Spared

variable {u : Uuid} {s s' s'' : Store}

theorem Spared.of_same (haccounts : s'.accounts = s.accounts)
    (hsessions : s'.sessions = s.sessions) :
    Spared u s s' where
  account := by
    intro b hb hid
    rw [haccounts] at hb
    exact ⟨b, hb, hid, rfl, rfl, rfl⟩
  session := by
    intro y hy howner
    rw [hsessions] at hy
    exact Or.inr ⟨y, hy, rfl, howner, rfl⟩

theorem Spared.refl (s : Store) : Spared u s s := .of_same rfl rfl

theorem Spared.trans (h : Spared u s s') (h' : Spared u s' s'') : Spared u s s'' where
  account := by
    intro c hc hid
    obtain ⟨b, hb, hbid, hrole, hstatus, hhash⟩ := h'.account c hc hid
    obtain ⟨a, ha, haid, hrole', hstatus', hhash'⟩ := h.account b hb hbid
    exact ⟨a, ha, haid, hrole.trans hrole', hstatus.trans hstatus', hhash.trans hhash'⟩
  session := by
    intro z hz howner
    rcases h'.session z hz howner with hnone | ⟨y, hy, hyid, hyowner, hsame⟩
    · exact Or.inl hnone
    · rcases h.session y hy hyowner with hnone | ⟨x, hx, hxid, hxowner, hsame'⟩
      · exact Or.inl (hsame.trans hnone)
      · exact Or.inr ⟨x, hx, hxid.trans hyid, hxowner, hsame.trans hsame'⟩

/-- An account that was spared was not touched. -/
theorem Spared.not_touched (h : Spared u s s') : ¬ Touched u s s' := by
  intro ht
  cases ht with
  | inserted hbefore hafter =>
      obtain ⟨b, hb, hid⟩ := exists_of_hasAccount hafter
      obtain ⟨a, ha, haid, -⟩ := h.account b hb hid
      rw [← haid, hasAccount_of_mem ha] at hbefore
      cases hbefore
  | changed ha hb haid hbid hchanged =>
      obtain ⟨c, hc, hcid, hrole, hstatus, hhash⟩ := h.account _ hb hbid
      obtain rfl := account_unique ha hc (haid.trans hcid.symm)
      rcases hchanged with hne | hne | hne
      · exact hne hrole
      · exact hne hstatus
      · exact hne hhash
  | revoked hx hy hid howner hset hchanged =>
      rcases h.session _ hy howner with hnone | ⟨z, hz, hzid, -, hsame⟩
      · rw [hnone] at hset
        cases hset
      · obtain rfl := session_unique hx hz (hid.symm.trans hzid.symm)
        exact hchanged hsame

/-- A change of one account spares the others. -/
theorem spared_setAccount {id : Uuid} {f : Account → Account}
    (hacc : s.accounts.Accepts (updateWhere (byId id) f))
    (hf : ∀ a, (f a).id = a.id) (hne : u ≠ id) :
    Spared u s (s.setAccount id f) where
  account := by
    intro b hb hid
    obtain ⟨a, ha, rfl⟩ := (mem_setAccount_of_accepts hacc).mp hb
    split at hid
    · rename_i haid
      rw [hf a, haid] at hid
      exact absurd hid.symm hne
    · rename_i haid
      rw [if_neg haid]
      exact ⟨a, ha, hid, rfl, rfl, rfl⟩
  session := fun y hy howner => Or.inr ⟨y, hy, rfl, howner, rfl⟩

/-- A change of sessions spares the accounts whose sessions keep their revocation. -/
theorem spared_setSessions {p : Session → Bool} {f : Session → Session}
    (hkeeps : KeepsSessionKeys f)
    (hf : ∀ x ∈ s.sessions.rows, p x = true → (f x).user_id = x.user_id ∧
      (x.user_id ≠ u ∨ (f x).revoked_at = x.revoked_at)) :
    Spared u s (s.setSessions p f) where
  account := fun b hb hid => ⟨b, hb, hid, rfl, rfl, rfl⟩
  session := by
    intro y hy howner
    obtain ⟨x, hx, rfl⟩ := (mem_setSessions hkeeps).mp hy
    split at howner
    · rename_i hp
      obtain ⟨hkept, hother | hsame⟩ := hf x hx hp
      · exact absurd (hkept.symm.trans howner) hother
      · rw [if_pos hp]
        exact Or.inr ⟨x, hx, (hkeeps x).1.symm, hkept.symm.trans howner, hsame⟩
    · rename_i hp
      rw [if_neg hp]
      exact Or.inr ⟨x, hx, rfl, howner, rfl⟩

/-- A revocation spares the accounts that own none of the sessions. -/
theorem spared_revoke {p : Session → Bool} {time : Time} {reason : Str}
    (hp : ∀ x ∈ s.sessions.rows, p x = true → x.user_id ≠ u) :
    Spared u s (s.setSessions p (revoke time reason)) :=
  spared_setSessions revoke_keeps fun x hx hpx => ⟨rfl, Or.inl (hp x hx hpx)⟩

theorem spared_unrevokedOf {id : Uuid} {time : Time} {reason : Str} (hne : u ≠ id) :
    Spared u s (s.setSessions (unrevokedOf id) (revoke time reason)) :=
  spared_revoke fun x _ hp hu => by
    rw [unrevokedOf] at hp
    simp only [Bool.and_eq_true, decide_eq_true_eq] at hp
    exact hne (hu.symm.trans hp.1)

theorem spared_addSession {row : Session} (hacc : s.sessions.Accepts (· ++ [row]))
    (hrow : row.revoked_at = none) : Spared u s (s.alterSessions (· ++ [row])) where
  account := fun b hb hid => ⟨b, hb, hid, rfl, rfl, rfl⟩
  session := by
    intro y hy howner
    rw [Store.alterSessions_sessions, alter_rows hacc] at hy
    rcases List.mem_append.mp hy with hmem | hnew
    · exact Or.inr ⟨y, hmem, rfl, howner, rfl⟩
    · rw [List.mem_singleton.mp hnew]
      exact Or.inl hrow

theorem spared_addAccount {row : Account} (hacc : s.accounts.Accepts (· ++ [row]))
    (hne : u ≠ row.id) :
    Spared u s (s.alterAccounts (· ++ [row])) where
  account := by
    intro b hb hid
    rw [Store.alterAccounts_accounts, alter_rows hacc] at hb
    rcases List.mem_append.mp hb with hmem | hnew
    · exact ⟨b, hmem, hid, rfl, rfl, rfl⟩
    · rw [List.mem_singleton.mp hnew] at hid
      exact absurd hid.symm hne
  session := fun y hy howner => Or.inr ⟨y, hy, rfl, howner, rfl⟩

end Spared

-- ── What is recorded ──────────────────────────────────────────────────────────────

section Recorded

variable {u : Uuid} {s s' : Store}

/-- Who one added row is about. -/
theorem audited_one {event : AuthAuditEvent} (h : s'.audit = s.audit ++ [event]) :
    Audited u s s' ↔ event.fields.target_user_id = some u := by
  constructor
  · rintro ⟨added, hadded, other, hother, htarget⟩
    rw [h] at hadded
    rw [← List.append_cancel_left hadded] at hother
    rwa [List.mem_singleton.mp hother] at htarget
  · exact fun htarget => ⟨[event], h, event, List.mem_singleton.mpr rfl, htarget⟩

/-- Nothing is recorded when the audit rows stay. -/
theorem not_audited_of_same (h : s'.audit = s.audit) : ¬ Audited u s s' := by
  rintro ⟨added, hadded, event, hevent, -⟩
  rw [h] at hadded
  rw [List.self_eq_append_right.mp hadded] at hevent
  cases hevent

/-- A change that spares everyone leaves nothing to record. -/
theorem recorded_of_spared (h : ∀ w, Spared w s s') : Recorded s s' :=
  fun w ht => absurd ht (h w).not_touched

/-- A change of one account that records it. -/
theorem recorded_of_one {e : AuthAuditEvent} (haudit : s'.audit = s.audit ++ [e])
    (htarget : e.fields.target_user_id = some u) (hspared : ∀ w, w ≠ u → Spared w s s') :
    Recorded s s' := by
  intro w ht
  by_cases hw : w = u
  · rw [hw]
    exact (audited_one haudit).mpr htarget
  · exact absurd ht (hspared w hw).not_touched

end Recorded

-- ── Each operation ────────────────────────────────────────────────────────────────

section Operations

variable {env : Env} {u : Uuid} {s s' : Store} {answer : Except AuthError Answer} {call : Call}

theorem spared_unlockStore {now : Time} {found : Account} (hne : u ≠ found.id) :
    Spared u s (unlockStore now found s) := by
  rw [unlockStore]
  split
  · exact spared_setAccount (accepts_update expireLock_keeps) (fun _ => rfl) hne
  · exact .refl s

@[simp] theorem unlockStore_audit (now : Time) (found : Account) (s : Store) :
    (unlockStore now found s).audit = s.audit := by
  rw [unlockStore]
  split <;> rfl

/-- The sessions a login evicts are those of its account. -/
theorem owner_of_evicted {settings : Settings} {scan : Scan Session} {x : Session}
    (hx : x ∈ s.sessions.rows)
    (hevicted : (evicted settings (orderBy scan (·.created_at)
      (s.sessions.rows.filter (unrevokedOf u)))).contains x.id = true) : x.user_id = u := by
  obtain ⟨y, hy, hid⟩ := mem_evicted (List.contains_iff_mem.mp hevicted)
  obtain ⟨hrow, hown⟩ := List.mem_filter.mp (mem_orderBy.mp hy)
  obtain rfl := session_unique hrow hx hid
  rw [unrevokedOf] at hown
  simp only [Bool.and_eq_true, decide_eq_true_eq] at hown
  exact hown.1

theorem spared_evictedStore {clock : Clock} {draw : LoginDraw}
    {scan : Scan Session} {password : Str}
    {user : Account} (hne : u ≠ user.id) :
    Spared u s (evictedStore env.settings env.crypto clock draw scan password user s) := by
  rw [evictedStore]
  refine (spared_setAccount (accepts_update recordLogin_keeps) (fun _ => rfl) hne).trans
    (spared_revoke fun x hx hevicted howner => ?_)
  exact hne (howner.symm.trans (owner_of_evicted hx hevicted))

theorem recorded_authenticate {clock : Clock} {draw : LoginDraw} {scan : Scan Session}
    {username password client_ip : Str} {user_agent : Option Str}
    (h : callStep env s
      ⟨.authenticate clock draw scan username password client_ip user_agent, answer⟩ s') :
    Recorded s s' := by
  obtain ⟨events, out, hlogin, hends⟩ := callStep_authenticate h
  cases hlogin with
  | noPool | unknownRaised | raised | taken =>
      obtain ⟨-, rfl⟩ := hends
      exact recorded_of_spared fun _ => .refl s'
  | unknown | refused =>
      obtain ⟨-, rfl⟩ := hends
      exact recorded_of_spared fun _ => .of_same rfl rfl
  | @wrongPassword found hfind husable hverify =>
      obtain ⟨-, rfl⟩ := hends
      refine recorded_of_one (u := found.id)
        (by unfold failedStore; rw [Store.addAudit_audit, setAccount_audit, unlockStore_audit])
        (by simp [auditRow, loginFailed]) fun w hw => ?_
      rw [failedStore]
      exact (spared_unlockStore hw).trans ((spared_setAccount (accepts_update failureRow_keeps)
        (fun _ => rfl) (by rwa [currentUser_id])).trans (.of_same rfl rfl))
  | @loggedIn found hfind husable hverify hfresh =>
      obtain ⟨-, rfl⟩ := hends
      refine recorded_of_one (u := found.id) (e := auditRow env.settings clock
        (loginSucceeded (currentUser clock.utcnow found)
          (hashClientIp env.crypto env.settings client_ip)
          draw.session_id)) ?_ (by simp [auditRow, loginSucceeded]) fun w hw => ?_
      · rw [loggedInStore, evictedStore]
        rw [Store.addAudit_audit, Store.alterSessions_audit, setSessions_audit, setAccount_audit,
          unlockStore_audit]
      · rw [loggedInStore]
        exact (spared_unlockStore hw).trans ((spared_evictedStore (by rwa [currentUser_id])).trans
          ((spared_addSession hfresh rfl).trans (.of_same rfl rfl)))

theorem recorded_changePassword {clock : Clock} {scan : Scan PasswordHistory} {salt : Str}
    {historyId : Nat} {context : AuthContext} {current_password new_password : Str}
    (h : callStep env s ⟨.changePassword clock scan salt historyId context current_password
      new_password, answer⟩ s') : Recorded s s' := by
  rcases callStep_changePassword h with ⟨-, rfl⟩ | ⟨user, -, -, rfl⟩
  · exact recorded_of_spared fun _ => .refl s'
  · refine recorded_of_one (u := user.id) rfl rfl fun w hw => ?_
    refine Spared.trans (Spared.trans (.of_same rfl rfl) (spared_setAccount
      (accepts_update setPassword_keeps) (fun _ => rfl) hw)) (Spared.trans (.of_same rfl rfl)
        ((spared_revoke fun x _ hp howner => ?_).trans (.of_same rfl rfl)))
    rw [unrevokedOf] at hp
    simp only [Bool.and_eq_true, decide_eq_true_eq] at hp
    exact hw (howner.symm.trans hp.1.1)

theorem recorded_createUser {clock : Clock} {actor user_id : Uuid} {salt : Str}
    {payload : UserCreateRequest}
    (h : callStep env s ⟨.createUser clock actor user_id salt payload, answer⟩ s') :
      Recorded s s' := by
  rcases createUser_cases env.py env.settings env.crypto clock actor user_id salt payload s with
    ⟨e, he⟩ | ⟨hacc, hok⟩
  · rw [(callStep_error h (eval_answering_error he)).2]
    exact recorded_of_spared fun _ => .refl s
  · rw [(callStep_ok h (eval_answering_ok hok)).2]
    exact recorded_of_one (u := user_id) rfl rfl fun w hw =>
      (spared_addAccount hacc hw).trans (.of_same rfl rfl)

theorem recorded_updateUser {clock : Clock} {actor user_id : Uuid} {payload : UserUpdateRequest}
    (h : callStep env s ⟨.updateUser clock actor user_id payload, answer⟩ s') : Recorded s s' := by
  obtain ⟨out, hupdate, hends⟩ := callStep_updateUser h
  cases hupdate with
  | noPool | notFound | guarded | raised =>
      obtain ⟨-, rfl⟩ := hends
      exact recorded_of_spared fun _ => .refl s'
  | @updated user row hdb hfind hpass hacc =>
      obtain ⟨-, rfl⟩ := hends
      refine recorded_of_one (u := user_id)
        (e := auditRow env.settings clock (accountUpdated actor user_id payload)) ?_ rfl
        fun w hw => (spared_setAccount hacc (fun _ => rfl) hw).trans ?_
      · rw [patchedStore, revokedStore]
        split <;> rfl
      · rw [patchedStore, revokedStore]
        split
        · exact (spared_unrevokedOf hw).trans (.of_same rfl rfl)
        · exact .of_same rfl rfl

theorem recorded_unlockUser {clock : Clock} {actor user_id : Uuid}
    (h : callStep env s ⟨.unlockUser clock actor user_id, answer⟩ s') : Recorded s s' := by
  rcases callStep_unlockUser h with ⟨e, -, rfl⟩ | ⟨-, rfl⟩
  · exact recorded_of_spared fun _ => .refl s'
  · exact recorded_of_one (u := user_id) rfl rfl fun w hw =>
      (spared_setAccount (accepts_update unlocked_keeps) (fun _ => rfl) hw).trans (.of_same rfl rfl)

theorem recorded_resetPassword {clock : Clock} {actor user_id : Uuid} {salt : Str} {historyId : Nat}
    {payload : AdminResetPasswordRequest}
    (h : callStep env s ⟨.resetPassword clock actor user_id salt historyId payload, answer⟩ s') :
    Recorded s s' := by
  rcases callStep_resetPassword h with ⟨e, -, rfl⟩ | ⟨user, -, -, rfl⟩
  · exact recorded_of_spared fun _ => .refl s'
  · exact recorded_of_one (u := user_id) rfl rfl fun w hw => Spared.trans (.of_same rfl rfl)
      ((spared_setAccount (accepts_update setPassword_keeps) (fun _ => rfl) hw).trans
        ((spared_unrevokedOf hw).trans (.of_same rfl rfl)))

theorem recorded_revokeUserSessions {clock : Clock} {actor user_id : Uuid}
    (h : callStep env s ⟨.revokeUserSessions clock actor user_id, answer⟩ s') : Recorded s s' := by
  rcases revokeUserSessions_cases env.settings clock actor user_id s
    with ⟨e, he⟩ | ⟨n, details, hok⟩
  · rw [(callStep_error h (eval_answering_error he)).2]
    exact recorded_of_spared fun _ => .refl s
  · rw [(callStep_ok h (eval_answering_ok hok)).2]
    exact recorded_of_one (u := user_id) rfl rfl fun w hw =>
      (spared_unrevokedOf hw).trans (.of_same rfl rfl)

-- ── What is left out ──────────────────────────────────────────────────────────────

/-- The row `create_admin` inserts, if the pure checks of its arguments let it. -/
def adminRow (env : Env) (clock : Clock) (user_id : Uuid) (salt username display_name : Str)
    (email : Option Str) (password confirm : Str) : Option Account :=
  match normalizeUsername env.py username with
  | .error _ => none
  | .ok name =>
      if password ≠ confirm then none
      else
        match validatePassword env.py password name with
        | .error _ => none
        | .ok _ =>
            if accountFits name (keptEmail email) (strip env.py display_name) then
              some (newAccount clock user_id name (keptEmail email) (strip env.py display_name)
                (hashPassword env.crypto env.settings salt password) .ADMIN .ACTIVE none)
            else none

/-- The operation changes something on this store that it does not record. -/
def Omits (env : Env) (s : Store) : Op → Prop
  -- an administrator from the command line, whose id, name and address are free
  | .createAdmin clock user_id salt username display_name email password confirm =>
      env.settings.database_enabled = true ∧ ∃ row,
        adminRow env clock user_id salt username display_name email password confirm = some row ∧
          ∀ a ∈ s.accounts.rows, accountClash a row = false
  -- the token of a session whose time is up, of an account that can log in
  | .resolveSession clock token =>
      env.settings.database_enabled = true ∧ ∃ x a,
        sessionOf env.settings env.crypto token s = some (x, a) ∧ a.status.usable = true ∧
          a.deleted_at = none ∧ sessionExpired clock.utcnow x = true
  -- the session of somebody else than the user it is revoked for
  | .revokeSession _ session_id user_id _ =>
      (env.settings.database_enabled = true ∧ s.hasAccount user_id = true) ∧
        ∃ x ∈ s.sessions.rows, x.id = session_id ∧ x.revoked_at = none ∧ x.user_id ≠ user_id
  | _ => False

section CreateAdmin

variable {clock : Clock} {user_id : Uuid} {salt username display_name : Str} {email : Option Str}
  {password confirm : Str} {row : Account}

/-- Arguments without a row are refused. -/
theorem createAdmin_refuses (hnone : env.settings.database_enabled = true →
      adminRow env clock user_id salt username display_name email password confirm = none) :
    ∃ e, (NetProbeAdminUsers.createAdmin env.py env.settings env.crypto clock user_id salt username
      display_name email password confirm).eval s = .error e := by
  unfold createAdmin withPool
  cases hname : normalizeUsername env.py username with
  | error message => exact ⟨_, rfl⟩
  | ok name =>
      dsimp only
      by_cases htyped : password ≠ confirm
      · rw [if_pos htyped]
        exact ⟨_, rfl⟩
      · rw [if_neg htyped]
        cases hvalid : validatePassword env.py password name with
        | error message => exact ⟨_, rfl⟩
        | ok _ =>
            dsimp only
            split
            · rename_i hdb
              have hfits : ¬ accountFits name (keptEmail email) (strip env.py display_name) =
                  true := by
                intro hfits
                have hrow := hnone hdb
                rw [adminRow] at hrow
                rw [hname] at hrow
                dsimp only at hrow
                rw [if_neg htyped, hvalid] at hrow
                dsimp only at hrow
                rw [if_pos hfits] at hrow
                cases hrow
              refine ⟨adminExists .dataError, eval_handle_of_error (e := .dataError) ?_⟩
              rw [storeAccount]
              rw [if_neg (by exact hfits)]
              rfl
            · exact ⟨_, rfl⟩

/-- The row of the arguments is stored if it is free. -/
theorem eval_createAdmin (hdb : env.settings.database_enabled = true)
    (hrow : adminRow env clock user_id salt username display_name email password confirm =
      some row) :
    (NetProbeAdminUsers.createAdmin env.py env.settings env.crypto clock user_id salt username
      display_name email password confirm).eval s =
        if s.accounts.Accepts (· ++ [row]) then .ok (row, s.alterAccounts (· ++ [row]))
        else .error (adminExists .uniqueViolation) := by
  rw [adminRow] at hrow
  unfold createAdmin withPool
  cases hname : normalizeUsername env.py username with
  | error message =>
      rw [hname] at hrow
      cases hrow
  | ok name =>
      rw [hname] at hrow
      dsimp only at hrow ⊢
      by_cases htyped : password ≠ confirm
      · rw [if_pos htyped] at hrow
        cases hrow
      · rw [if_neg htyped] at hrow ⊢
        cases hvalid : validatePassword env.py password name with
        | error message =>
            rw [hvalid] at hrow
            cases hrow
        | ok _ =>
            rw [hvalid] at hrow
            dsimp only at hrow ⊢
            by_cases hfits : accountFits name (keptEmail email) (strip env.py display_name) = true
            · rw [if_pos hfits] at hrow
              obtain rfl := Option.some.inj hrow
              rw [if_pos hdb, eval_handle]
              rw [storeAccount]
              rw [if_pos (by exact hfits), eval_insertAccount, if_neg (by simp [newAccount])]
              split <;> rfl
            · rw [if_neg hfits] at hrow
              cases hrow

end CreateAdmin

/-- A revocation is carried out exactly for a user who exists. -/
theorem eval_revokeSession (env : Env) (clock : Clock) (session_id user_id : Uuid) (reason : Str)
    (s : Store) :
    (env.settings.database_enabled = true ∧ s.hasAccount user_id = true ∧
        (NetProbeAuthService.revokeSession env.settings clock session_id user_id reason).eval s =
          .ok ((), (s.setSessions (fun x => x.id = session_id && x.revoked_at.isNone)
            (revoke clock.utcnow reason)).addAudit
              (auditRow env.settings clock (sessionRevoked session_id user_id reason)))) ∨
      ¬ (env.settings.database_enabled = true ∧ s.hasAccount user_id = true) ∧
        ∃ e,
          (NetProbeAuthService.revokeSession env.settings clock session_id user_id reason).eval s =
          .error e := by
  rw [revokeSession, withPool]
  split
  · rename_i hdb
    rw [bind_eq, eval_bind_of_ok (eval_updateSessions _ _), eval_addAuthEvent]
    by_cases huser : s.hasAccount user_id = true
    · exact Or.inl ⟨hdb, huser, if_pos (by simp [sessionRevoked, huser])⟩
    · exact Or.inr ⟨fun h => huser h.2, _, if_neg (by simpa [sessionRevoked] using huser)⟩
  · rename_i hdb
    exact Or.inr ⟨fun h => hdb h.1, _, rfl⟩

/-- A creation from the command line is never recorded. -/
theorem recorded_createAdmin_iff {clock : Clock} {user_id : Uuid} {salt username display_name : Str}
    {email : Option Str} {password confirm : Str}
    (h : callStep env s
      ⟨.createAdmin clock user_id salt username display_name email password confirm,
      answer⟩ s') :
    Recorded s s' ↔
      ¬ Omits env s
        (.createAdmin clock user_id salt username display_name email password confirm) := by
  have hquiet :
      ∀ e, (NetProbeAdminUsers.createAdmin env.py env.settings env.crypto clock user_id salt
      username display_name email password confirm).eval s = .error e → Recorded s s' := by
    intro e he
    rw [(callStep_error h (eval_answering_error he)).2]
    exact recorded_of_spared fun _ => .refl s
  by_cases ho : Omits env s
      (.createAdmin clock user_id salt username display_name email password confirm)
  · refine iff_of_false (fun hrec => ?_) (fun hnot => hnot ho)
    obtain ⟨hdb, row, hrow, hfree⟩ := ho
    have hacc := accepts_append_iff.mpr hfree
    have hok := eval_createAdmin (s := s) hdb hrow
    rw [if_pos hacc] at hok
    rw [(callStep_ok h (eval_answering_ok hok)).2] at hrec
    refine not_audited_of_same rfl (hrec row.id (.inserted ?_ ?_))
    · rw [Store.hasAccount]
      refine List.any_eq_false.mpr fun a ha hid => ?_
      have hclash := hfree a ha
      simp [accountClash, of_decide_eq_true hid] at hclash
    · refine hasAccount_of_mem ?_
      rw [Store.alterAccounts_accounts, alter_rows hacc]
      exact List.mem_append_right _ (List.mem_singleton.mpr rfl)
  · refine iff_of_true ?_ ho
    by_cases hnone : env.settings.database_enabled = true →
        adminRow env clock user_id salt username display_name email password confirm = none
    · obtain ⟨e, he⟩ := createAdmin_refuses (s := s) hnone
      exact hquiet e he
    · obtain ⟨hdb, hsome⟩ := Classical.not_imp.mp hnone
      obtain ⟨row, hrow⟩ := Option.ne_none_iff_exists'.mp hsome
      have hend := eval_createAdmin (s := s) hdb hrow
      rw [if_neg fun hacc => ho ⟨hdb, row, hrow, accepts_append_iff.mp hacc⟩] at hend
      exact hquiet _ hend

/-- A session the clause selects is there with its revocation. -/
theorem mem_revoked {p : Session → Bool} {t : Time} {r : Str} {x : Session}
    (hx : x ∈ s.sessions.rows) (hp : p x = true) :
    revoke t r x ∈ (s.setSessions p (revoke t r)).sessions.rows :=
  (mem_setSessions revoke_keeps).mpr ⟨x, hx, if_pos hp⟩

theorem recorded_resolveSession_iff {clock : Clock} {token : Str}
    (h : callStep env s ⟨.resolveSession clock token, answer⟩ s') :
    Recorded s s' ↔ ¬ Omits env s (.resolveSession clock token) := by
  obtain ⟨out, hres, hends⟩ := callStep_resolveSession h
  cases hres with
  | noPool hdb =>
      obtain ⟨-, rfl⟩ := hends
      refine iff_of_true (recorded_of_spared fun _ => .refl s') ?_
      rintro ⟨hdb', -⟩
      rw [hdb] at hdb'
      cases hdb'
  | noSession hdb hrow =>
      obtain ⟨-, rfl⟩ := hends
      refine iff_of_true (recorded_of_spared fun _ => .refl s') ?_
      rintro ⟨-, x, a, hrow', -⟩
      rw [hrow] at hrow'
      cases hrow'
  | refused hdb hrow hrefused =>
      obtain ⟨-, rfl⟩ := hends
      refine iff_of_true (recorded_of_spared fun _ => .refl s') ?_
      rintro ⟨-, x, a, hrow', husable, hdeleted, -⟩
      obtain ⟨rfl, rfl⟩ := Prod.mk.inj (Option.some.inj (hrow.symm.trans hrow'))
      rcases hrefused with hstatus | hgone
      · rw [hstatus] at husable
        cases husable
      · rw [hdeleted] at hgone
        cases hgone
  | @expired x a hdb hrow husable hdeleted hexpired =>
      obtain ⟨-, rfl⟩ := hends
      refine iff_of_false (fun hrec => ?_) fun hnot =>
        hnot ⟨hdb, x, a, hrow, husable, hdeleted, hexpired⟩
      obtain ⟨hx, -, -, -, hunrevoked⟩ := sessionOf_some hrow
      have hy := mem_revoked (p := sessionById x.id) (t := clock.utcnow) (r := str "EXPIRED") hx
        (by simp [sessionById])
      refine not_audited_of_same rfl (hrec x.user_id (.revoked hx hy rfl rfl rfl ?_))
      rw [hunrevoked]
      exact Option.some_ne_none _
  | @resolved x a hdb hrow husable hdeleted hlive =>
      obtain ⟨-, rfl⟩ := hends
      refine iff_of_true (recorded_of_spared fun w => ?_) ?_
      · rw [activityStore]
        split
        · exact spared_setSessions touch_keeps fun y _ _ => ⟨rfl, Or.inr rfl⟩
        · exact .refl s
      · rintro ⟨-, y, b, hrow', -, -, hexpired⟩
        obtain ⟨rfl, rfl⟩ := Prod.mk.inj (Option.some.inj (hrow.symm.trans hrow'))
        rw [hlive] at hexpired
        cases hexpired

theorem recorded_revokeSession_iff {clock : Clock} {session_id user_id : Uuid} {reason : Str}
    (h : callStep env s ⟨.revokeSession clock session_id user_id reason, answer⟩ s') :
    Recorded s s' ↔ ¬ Omits env s (.revokeSession clock session_id user_id reason) := by
  rcases eval_revokeSession env clock session_id user_id reason s with
    ⟨hdb, huser, hok⟩ | ⟨hnone, e, he⟩
  · rw [(callStep_ok h (eval_answering_ok hok)).2]
    constructor
    · rintro hrec ⟨-, x, hx, hid, hunrevoked, howner⟩
      have hy := mem_revoked (p := fun z => z.id = session_id && z.revoked_at.isNone)
        (t := clock.utcnow) (r := reason) hx (by simp [hid, hunrevoked])
      have hset : (revoke clock.utcnow reason x).revoked_at ≠ x.revoked_at := by
        rw [hunrevoked]
        exact Option.some_ne_none _
      have hrow := (audited_one rfl).mp (hrec x.user_id (.revoked hx hy rfl rfl rfl hset))
      exact howner (Option.some.inj hrow).symm
    · intro hnot
      refine recorded_of_one (u := user_id) rfl rfl fun w hw =>
        (spared_revoke fun x hx hp howner => ?_).trans (.of_same rfl rfl)
      simp only [Bool.and_eq_true, decide_eq_true_eq, Option.isNone_iff_eq_none] at hp
      exact hnot ⟨⟨hdb, huser⟩, x, hx, hp.1, hp.2, by rwa [howner]⟩
  · rw [(callStep_error h (eval_answering_error he)).2]
    exact iff_of_true (recorded_of_spared fun _ => .refl s) fun ho => hnone ho.1

/-- **What is recorded.** An operation records what it does to accounts exactly if it is not one
    of the three. -/
theorem recorded_iff (h : callStep env s call s') : Recorded s s' ↔ ¬ Omits env s call.op := by
  obtain ⟨op, answer⟩ := call
  cases op with
  | authenticate => exact iff_of_true (recorded_authenticate h) id
  | resolveSession => exact recorded_resolveSession_iff h
  | revokeSession => exact recorded_revokeSession_iff h
  | changePassword => exact iff_of_true (recorded_changePassword h) id
  | createUser => exact iff_of_true (recorded_createUser h) id
  | createAdmin => exact recorded_createAdmin_iff h
  | updateUser => exact iff_of_true (recorded_updateUser h) id
  | unlockUser => exact iff_of_true (recorded_unlockUser h) id
  | resetPassword => exact iff_of_true (recorded_resetPassword h) id
  | revokeUserSessions => exact iff_of_true (recorded_revokeUserSessions h) id

end Operations

-- ── Runs ──────────────────────────────────────────────────────────────────────────

section Runs

variable {env : Env} {op : Op} {u : Uuid} {s s' : Store} {call : Call} {calls : List Call}

/-- The account has an audit row. -/
def InTrail (u : Uuid) (s : Store) : Prop :=
  ∃ event ∈ s.audit, event.fields.target_user_id = some u

/-- One change of an operation removes no audit row. -/
theorem change_audit_grows {g : Store → Store} (h : Change env op g) (s : Store) :
    s.audit ⊆ (g s).audit := by
  cases h with
  | audit event => exact List.subset_append_left _ _
  | same | history | revoke | account | insert | touch | session => exact List.Subset.refl _

/-- The trail only grows. -/
theorem audit_grows (h : callStep env s call s') : s.audit ⊆ s'.audit :=
  callStep_related (G := fun s s' => s.audit ⊆ s'.audit) h (fun _ => List.Subset.refl _)
    (fun _ _ _ => List.Subset.trans) fun _ hg => change_audit_grows hg

/-- **When the trail is complete.** A run is recorded at every step exactly if no step is one of
    the three that omit something. -/
theorem audit_complete_iff (env : Env) (s : Store) (calls : List Call) :
    Throughout (callStep env) (fun m _ m' => Recorded m m') s calls ↔
      Throughout (callStep env) (fun m call _ => ¬ Omits env m call.op) s calls :=
  throughout_iff (I := fun _ => True)
    (fun _ _ _ _ _ h => ⟨recorded_iff h, fun _ => trivial⟩) trivial

/-- An account that is there after a recorded call is in the trail if those before it are. -/
theorem inTrail_step (h : callStep env s call s') (hrec : Recorded s s')
    (hs : ∀ a ∈ s.accounts.rows, InTrail a.id s) : ∀ b ∈ s'.accounts.rows, InTrail b.id s' := by
  intro b hb
  cases hbefore : s.hasAccount b.id with
  | true =>
      obtain ⟨a, ha, hid⟩ := exists_of_hasAccount hbefore
      obtain ⟨event, hevent, htarget⟩ := hs a ha
      exact ⟨event, audit_grows h hevent, by rw [htarget, hid]⟩
  | false =>
      obtain ⟨added, hadded, event, hevent, htarget⟩ :=
        hrec b.id (.inserted hbefore (hasAccount_of_mem hb))
      exact ⟨event, by rw [hadded]; exact List.mem_append_right _ hevent, htarget⟩

/-- Every account of a store that was reached without an omission is in the trail. -/
theorem accounts_in_trail
    (h : Run (Restrict (callStep env) fun m call => ¬ Omits env m call.op) .empty calls s) :
    ∀ a ∈ s.accounts.rows, InTrail a.id s := by
  refine h.invariant (I := fun m => ∀ a ∈ m.accounts.rows, InTrail a.id m)
    (fun m call m' hI hstep => ?_) fun a ha => ?_
  · exact inTrail_step hstep.2 ((recorded_iff hstep.2).mpr hstep.1) hI
  · cases ha

end Runs

/-- An administrator is created from the command line. -/
def rootAdmin : Op :=
  .createAdmin ⟨0, 0, 0⟩ 1 [] (str "root") (str "root") none (str "correct horse battery")
    (str "correct horse battery")

/-- The administrator logged in. -/
def rootLoggedIn : Store :=
  performAll .sample [rootAdmin, sampleLogin 0 (str "root") (str "correct horse battery")] .empty

/-- The session of the administrator is used a day later. -/
def rootReturns : Op := .resolveSession ⟨hours 24, hours 24, hours 24⟩ (str "token")

/-- **Two changes without a record.** The first administrator is created from the command line,
    and a session of theirs is revoked because its time is up. -/
theorem changes_unrecorded :
    ¬ Throughout (callStep .sample) (fun m _ m' => Recorded m m') .empty
        [rootAdmin.on .sample .empty] ∧
      ¬ Throughout (callStep .sample) (fun m _ m' => Recorded m m') rootLoggedIn
        [rootReturns.on .sample rootLoggedIn] := by
  constructor
  · intro h
    have hrec := h [] _ [] .empty _ rfl (.nil _) (callStep_on .sample rootAdmin .empty)
    refine (recorded_iff (callStep_on .sample rootAdmin .empty)).mp hrec ⟨rfl, ?_⟩
    obtain ⟨row, hrow⟩ := Option.isSome_iff_exists.mp (show (adminRow .sample ⟨0, 0, 0⟩ 1 []
      (str "root") (str "root") none (str "correct horse battery")
      (str "correct horse battery")).isSome = true by decide +kernel)
    exact ⟨row, hrow, fun a ha => by cases ha⟩
  · intro h
    have hrec :=
      h [] _ [] rootLoggedIn _ rfl (.nil _) (callStep_on .sample rootReturns rootLoggedIn)
    refine (recorded_iff (callStep_on .sample rootReturns rootLoggedIn)).mp hrec ⟨rfl, ?_⟩
    have hfound : (sessionOf Env.sample.settings Env.sample.crypto (str "token") rootLoggedIn).any
        (fun r => r.2.status.usable && (r.2.deleted_at.isNone && sessionExpired (hours 24) r.1)) =
          true := by decide +kernel
    obtain ⟨⟨x, a⟩, hrow, hp⟩ := (Option.any_eq_true ..).mp hfound
    simp only [Bool.and_eq_true, Option.isNone_iff_eq_none] at hp
    exact ⟨x, a, hrow, hp.1, hp.2.1, hp.2.2⟩

end NetProbeAuditTrail
