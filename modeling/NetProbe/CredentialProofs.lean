import NetProbe.ReadCommittedProofs
import NetProbe.SessionRunsProofs

/-!
# Credential changes under concurrency

Any number of concurrent logins, password changes, password resets and patches to `DISABLED`
on one account, interleaved statement by statement.  All of them lock the row of the account
with their first statement (`oneLock`), so a commit is a serial execution of the whole
operation on the store it replaces, and an operation that has not passed its first statement
has read nothing.

`credential_change_cuts_off`: a login that commits has checked its password against the hash
that is in force when it commits; and after a credential change has committed, the account
has its new hash or status (`InForce`), and every session of it that is not revoked was
created by a login that had read nothing when the change committed and whose check was made
on a later store (`CreatedSince`) - but for the caller's own session after a password change.
-/

namespace NetProbeAccountRuns

open NetProbePyText NetProbeConfig NetProbeCoreAuth NetProbeAccountStore NetProbeAuthService
open NetProbeAdminUsers UniqueTable Transaction Transaction.Txn LabelledRun ReadCommitted

/-- The account is there under its name, and not deleted. -/
def HasRow (user_id : Uuid) (username : Str) (s : Store) : Prop :=
  ∃ a ∈ s.accounts.rows, a.id = user_id ∧ a.username = username ∧ a.deleted_at = none

/-- The operations on the account: a login under its name, a change or a reset of its password,
    a patch that disables it. -/
inductive OnAccount (user_id : Uuid) (username : Str) : Op → Prop where
  | authenticate (clock : Clock) (draw : LoginDraw) (scan : Scan Session)
      (password client_ip : Str) (user_agent : Option Str) :
      OnAccount user_id username
        (.authenticate clock draw scan username password client_ip user_agent)
  | changePassword (clock : Clock) (scan : Scan PasswordHistory) (salt : Str) (historyId : Nat)
      (context : AuthContext) (current_password new_password : Str)
      (huser : context.user_id = user_id) :
      OnAccount user_id username
        (.changePassword clock scan salt historyId context current_password new_password)
  | resetPassword (clock : Clock) (actor : Uuid) (salt : Str) (historyId : Nat)
      (payload : AdminResetPasswordRequest) :
      OnAccount user_id username (.resetPassword clock actor user_id salt historyId payload)
  | disable (clock : Clock) (actor : Uuid) (payload : UserUpdateRequest)
      (hstatus : payload.status = some .DISABLED) :
      OnAccount user_id username (.updateUser clock actor user_id payload)

/-- The answers by which an operation has changed the credentials of its account. -/
inductive CutsOff : Op → Answer → Prop where
  | changePassword (clock : Clock) (scan : Scan PasswordHistory) (salt : Str) (historyId : Nat)
      (context : AuthContext) (current_password new_password : Str) :
      CutsOff (.changePassword clock scan salt historyId context current_password new_password)
        (.changed true)
  | resetPassword (clock : Clock) (actor user_id : Uuid) (salt : Str) (historyId : Nat)
      (payload : AdminResetPasswordRequest) :
      CutsOff (.resetPassword clock actor user_id salt historyId payload) .done
  | disable (clock : Clock) (actor user_id : Uuid) (payload : UserUpdateRequest)
      (row : Option Account) (hstatus : payload.status = some .DISABLED) :
      CutsOff (.updateUser clock actor user_id payload) (.account row)

/-- The credentials an operation gives to its account. -/
def InForce (env : Env) : Op → Account → Prop
  | .changePassword _ _ salt _ _ _ new_password, a =>
      a.password_hash = hashPassword env.crypto env.settings salt new_password
  | .resetPassword _ _ _ salt _ payload, a =>
      a.password_hash = hashPassword env.crypto env.settings salt payload.temporary_password
  | .updateUser .., a => a.status = .DISABLED
  | _, _ => False

/-- The session a password change leaves to its caller. -/
def KeptSession (op : Op) (session_id : Uuid) : Prop :=
  ∃ clock scan salt historyId context current_password new_password,
    op = .changePassword clock scan salt historyId context current_password new_password ∧
      session_id = context.session_id

/-- The account has a session with this id that is not revoked. -/
def LiveSession (user_id session_id : Uuid) (s : Store) : Prop :=
  ∃ x ∈ s.sessions.rows, x.id = session_id ∧ x.user_id = user_id ∧ x.revoked_at = none

/-- The login on the store returns `r`, having verified its password against the hash the
    account has there, in a status that may log in. -/
def LoginChecked (env : Env) (user_id : Uuid) (op : Op) (s : Store) (r : LoginResult) : Prop :=
  ∃ clock draw scan username password client_ip user_agent a,
    op = .authenticate clock draw scan username password client_ip user_agent ∧
      (op.prog env).result s = .ok (.login (some r)) ∧ a ∈ s.accounts.rows ∧ a.id = user_id ∧
      (currentUser clock.utcnow a).status.usable = true ∧
      verifyPassword env.crypto env.settings password a.password_hash = some true

/-- Concurrent operations on the account tables. -/
abbrev OpDb (τ : Type) := Db τ LockKey Store AuthEvent AuthError Answer

/-- The session was created, between two databases of a run, by a login that had read nothing
    in the first and checked its password on the store it then replaced. -/
def CreatedSince {τ : Type} [DecidableEq τ] (env : Env) (user_id : Uuid) (ops : τ → Op)
    (db db' : OpDb τ) (session_id : Uuid) : Prop :=
  ∃ t mid mid' acts acts' r,
    Run Step db acts mid ∧ Step mid (.commit t) mid' ∧ Run Step mid' acts' db' ∧
      (∃ x, db.phase t = .active x ∧ x.done = 0) ∧
      LoginChecked env user_id (ops t) mid.store r ∧ r.context.session_id = session_id

section Alone

variable {env : Env} {user_id i : Uuid} {username : Str} {s s' : Store} {op : Op} {ans : Answer}

-- ── The operations run alone ──────────────────────────────────────────────────────

theorem byUsername_filter {a : Account} (ha : a ∈ s.accounts.rows) (hname : a.username = username)
    (hlive : a.deleted_at = none) : s.accounts.rows.filter (byUsername username) = [a] :=
  filter_of_mem accountClash_symm byUsername_clash ha (by simp [byUsername, hname, hlive])

theorem byLiveId_filter {a : Account} (ha : a ∈ s.accounts.rows) (hid : a.id = user_id)
    (hlive : a.deleted_at = none) : s.accounts.rows.filter (byLiveId user_id) = [a] :=
  filter_of_mem accountClash_symm byLiveId_clash ha (by simp [byLiveId, hid, hlive])

/-- A commit run alone, as a step. -/
theorem callStep_of_eval (h : (op.prog env).eval s = .ok (ans, s')) :
    callStep env s ⟨op, .ok ans⟩ s' := ⟨result_of_ok h, (perform_of_ok h).symm⟩

theorem firstFinds_withPool {α : Type} {settings : Settings} {found : Store → List LockKey}
    {p : AuthTxn α} (hdb : settings.database_enabled = true) (h : FirstFinds found p) :
    FirstFinds found (withPool settings p) := by
  rw [withPool_of_enabled hdb]
  exact h

/-- What the first statement of an operation on the account finds. -/
theorem first_finds (hdb : env.settings.database_enabled = true)
    (hon : OnAccount user_id username op) :
    ∃ found, FirstFinds found (op.prog env) ∧
      ∀ s, HasRow user_id username s → found s = [.account user_id] := by
  cases hon with
  | authenticate clock draw scan password client_ip user_agent =>
      refine ⟨accountsWhere (byUsername username), ?_, ?_⟩
      · exact (firstFinds_withPool hdb ((firstFinds_query _ _).bind _)).bind _
      · rintro s ⟨a, ha, rfl, hname, hlive⟩
        rw [accountsWhere]
        rw [byUsername_filter ha hname hlive]
        rfl
  | changePassword clock scan salt historyId context current_password new_password huser =>
      refine ⟨accountsWhere (byId context.user_id), ?_, ?_⟩
      · exact (firstFinds_withPool hdb ((firstFinds_query _ _).bind _)).bind _
      · rintro s ⟨a, ha, rfl, -, -⟩
        rw [accountsWhere]
        rw [huser, byId_filter ha rfl]
        rfl
  | resetPassword clock actor salt historyId payload =>
      refine ⟨accountsWhere (byId user_id), ?_, ?_⟩
      · exact (firstFinds_withPool hdb ((firstFinds_query _ _).bind _)).bind _
      · rintro s ⟨a, ha, rfl, -, -⟩
        rw [accountsWhere]
        rw [byId_filter ha rfl]
        rfl
  | disable clock actor payload hstatus =>
      refine ⟨accountsWhere (byLiveId user_id), ?_, ?_⟩
      · exact (firstFinds_withPool hdb ((firstFinds_query _ _).bind _)).bind _
      · rintro s ⟨a, ha, rfl, -, hlive⟩
        rw [accountsWhere]
        rw [byLiveId_filter ha rfl hlive]
        rfl

/-- All operations of the account take its row first. -/
theorem oneLock {τ : Type} {ops : τ → Op} (hdb : env.settings.database_enabled = true)
    (hops : ∀ t, OnAccount user_id username (ops t)) :
    OneLock (.account user_id) (fun t => (ops t).prog env) (HasRow user_id username) where
  first := by
    intro t
    obtain ⟨found, ⟨effect, k, hprog⟩, hfound⟩ := first_finds hdb (hops t)
    exact ⟨found, effect, k, hprog, hfound⟩
  keep := by
    rintro t s ans s' ⟨a, ha, hid, hname, hlive⟩ heval
    obtain ⟨b, hb, hab⟩ := (call_follows (callStep_of_eval heval)).account a ha
    exact ⟨b, hb, hab.id.trans hid, hab.username.trans hname, hab.deleted_at.trans hlive⟩

/-- A session that is not revoked after an operation was not before, or is the one a login
    returns. -/
theorem live_back (h : callStep env s ⟨op, .ok ans⟩ s') (hlive : LiveSession user_id i s') :
    LiveSession user_id i s ∨ ∃ r, ans = .login (some r) ∧ r.context.session_id = i := by
  obtain ⟨y, hy, hid, huser, hunrevoked⟩ := hlive
  rcases (call_follows h).sessionBack y hy with ⟨x, hx, hxy⟩ | hnew
  · refine Or.inl ⟨x, hx, hxy.id.symm.trans hid, hxy.user_id.symm.trans huser, ?_⟩
    by_contra hrevoked
    have := hxy.revoked (Option.isSome_iff_ne_none.mpr hrevoked)
    rw [hunrevoked] at this
    cases this
  · obtain ⟨clock, draw, _, _, _, client_ip, user_agent, found, -, -, -, rfl, hanswer⟩ := hnew
    exact Or.inr ⟨_, Except.ok.inj hanswer, hid⟩

/-- A session that survives a revocation is not selected by it. -/
theorem live_of_revoked {p : Session → Bool} {time : Time} {reason : Str}
    (hlive : LiveSession user_id i (s.setSessions p (revoke time reason))) :
    ∃ x ∈ s.sessions.rows, x.id = i ∧ x.user_id = user_id ∧ x.revoked_at = none ∧ p x = false := by
  obtain ⟨y, hy, hid, huser, hunrevoked⟩ := hlive
  obtain ⟨x, hx, rfl⟩ := (mem_setSessions revoke_keeps).mp hy
  split at hunrevoked
  · cases hunrevoked
  · rename_i hp
    rw [if_neg hp] at hid huser
    exact ⟨x, hx, hid, huser, hunrevoked, by simpa using hp⟩

/-- **What a credential change leaves.** A session of the account that is not revoked after it
    is the one of the caller of a password change, and was not revoked before. -/
theorem cut_off (hon : OnAccount user_id username op) (hcuts : CutsOff op ans)
    (h : callStep env s ⟨op, .ok ans⟩ s') (hlive : LiveSession user_id i s') :
    KeptSession op i ∧ LiveSession user_id i s := by
  cases hcuts with
  | disable clock actor u payload row hstatus =>
      obtain ⟨y, hy, -, huser, hunrevoked⟩ := hlive
      have hu : u = user_id := by
        cases hon
        rfl
      have := (disables_revokes h ⟨clock, actor, payload, row, rfl, hstatus, rfl⟩).2.2 y hy
        (huser.trans hu.symm)
      rw [hunrevoked] at this
      cases this
  | resetPassword clock actor u salt historyId payload =>
      have hu : u = user_id := by
        cases hon
        rfl
      subst hu
      rcases callStep_resetPassword h with ⟨e, hanswer, -⟩ | ⟨user, -, -, rfl⟩
      · cases hanswer
      · obtain ⟨x, hx, hid, huser, hunrevoked, hp⟩ := live_of_revoked hlive
        simp [unrevokedOf, huser, hunrevoked] at hp
  | changePassword clock scan salt historyId context current_password new_password =>
      have hu : context.user_id = user_id := by
        cases hon
        assumption
      rcases callStep_changePassword h with ⟨⟨e, hanswer⟩ | hanswer, -⟩ | ⟨user, hfind, -, rfl⟩
      · cases hanswer
      · cases hanswer
      · obtain ⟨x, hx, hid, huser, hunrevoked, hp⟩ := live_of_revoked hlive
        have huserid : user.id = user_id := (find_byId hfind).2.trans hu
        refine ⟨⟨clock, scan, salt, historyId, context, current_password, new_password, rfl, ?_⟩,
          ⟨x, hx, hid, huser, hunrevoked⟩⟩
        rw [← hid]
        simpa [unrevokedOf, huser, huserid, hunrevoked] using hp

/-- The account has its new credentials after the change. -/
theorem in_force (hon : OnAccount user_id username op) (hcuts : CutsOff op ans)
    (h : callStep env s ⟨op, .ok ans⟩ s') :
    ∃ a ∈ s'.accounts.rows, a.id = user_id ∧ InForce env op a := by
  cases hcuts with
  | disable clock actor u payload row hstatus =>
      have hu : u = user_id := by
        cases hon
        rfl
      subst hu
      obtain ⟨b, hb, hid, hdisabled, -⟩ :=
        (disables_revokes h ⟨clock, actor, payload, row, rfl, hstatus, rfl⟩).2.1
      exact ⟨b, hb, hid, hdisabled⟩
  | resetPassword clock actor u salt historyId payload =>
      have hu : u = user_id := by
        cases hon
        rfl
      subst hu
      rcases callStep_resetPassword h with ⟨e, hanswer, -⟩ | ⟨user, hfind, -, rfl⟩
      · cases hanswer
      · obtain ⟨hmem, hid⟩ := find_byId hfind
        refine
          ⟨setPassword (hashPassword env.crypto env.settings salt payload.temporary_password) true
          clock.txNow user, ?_, hid, rfl⟩
        exact (mem_setAccount setPassword_keeps).mpr ⟨user, hmem, by rw [if_pos hid]⟩
  | changePassword clock scan salt historyId context current_password new_password =>
      have hu : context.user_id = user_id := by
        cases hon
        assumption
      rcases callStep_changePassword h with ⟨⟨e, hanswer⟩ | hanswer, -⟩ | ⟨user, hfind, -, rfl⟩
      · cases hanswer
      · cases hanswer
      · obtain ⟨hmem, hid⟩ := find_byId hfind
        refine
          ⟨setPassword (hashPassword env.crypto env.settings salt new_password) false clock.txNow
          user, ?_, hid.trans hu, rfl⟩
        exact (mem_setAccount setPassword_keeps).mpr ⟨user, hmem, by rw [if_pos rfl]⟩

/-- A login that returns has checked the row it found. -/
theorem login_checked {r : LoginResult} (hrow : HasRow user_id username s)
    (hon : OnAccount user_id username op) (h : callStep env s ⟨op, .ok (.login (some r))⟩ s') :
    LoginChecked env user_id op s r := by
  obtain ⟨a, ha, hid, hname, hlive⟩ := hrow
  cases hon with
  | authenticate clock draw scan password client_ip user_agent =>
      obtain ⟨events, out, hlogin, hends⟩ := callStep_authenticate h
      cases hlogin with
      | noPool | unknownRaised | raised | taken | unknown | refused | wrongPassword => cases hends.1
      | @loggedIn found hfind husable hverify hfresh =>
          obtain rfl : a = found :=
            Option.some.inj ((byUsername_find ha hname hlive).symm.trans hfind)
          exact ⟨clock, draw, scan, username, password, client_ip, user_agent, a, rfl, h.1, ha,
            hid, husable, hverify⟩
  | changePassword | resetPassword | disable =>
      obtain ⟨b, hb⟩ := result_answering h.1
      cases hb

end Alone

-- ── The operations interleaved ────────────────────────────────────────────────────

section Together

variable {env : Env} {user_id : Uuid} {username : Str} {τ : Type} [DecidableEq τ] {ops : τ → Op}
  {db db' : OpDb τ}

/-- The invariant of the concurrent operations: commits are serial, under the lock on the row
    of the account. -/
abbrev OnRow (env : Env) (user_id : Uuid) (username : Str) (ops : τ → Op) (db : OpDb τ) : Prop :=
  Serial (.account user_id) (fun t => (ops t).prog env) (HasRow user_id username) db

/-- A commit is the operation run alone on the store it replaces. -/
theorem commit_callStep (hdb : env.settings.database_enabled = true)
    (hops : ∀ t, OnAccount user_id username (ops t)) (hserial : OnRow env user_id username ops db)
    {t : τ} (hstep : Step db (.commit t) db') :
    ∃ ans, db'.phase t = .committed ans ∧ callStep env db.store ⟨ops t, .ok ans⟩ db'.store := by
  cases hstep with
  | @commit _ x ans hx hf hp =>
      obtain ⟨-, heval⟩ := hserial.commit_eval (oneLock hdb hops) hx hp
      exact ⟨ans, move_phase_self .., callStep_of_eval heval⟩

/-- **The step lemma.** A session that is not revoked after a scheduling step was not before,
    or the step is the commit of the login that created it. -/
theorem live_step (hdb : env.settings.database_enabled = true)
    (hops : ∀ t, OnAccount user_id username (ops t)) (hserial : OnRow env user_id username ops db)
    {act : Act τ} {i : Uuid} (hstep : Step db act db') (hlive : LiveSession user_id i db'.store) :
    LiveSession user_id i db.store ∨
      ∃ t x r, act = .commit t ∧ db.phase t = .active x ∧
        LoginChecked env user_id (ops t) db.store r ∧ r.context.session_id = i := by
  rcases serial_commit (oneLock hdb hops) hserial hstep
    with hsame | ⟨t, x, ans, rfl, hx, -, heval, -⟩
  · rw [hsame] at hlive
    exact Or.inl hlive
  · have hcall := callStep_of_eval heval
    rcases live_back hcall hlive with hbefore | ⟨r, rfl, hi⟩
    · exact Or.inl hbefore
    · exact Or.inr ⟨t, x, r, rfl, hx, login_checked hserial.store (hops t) hcall, hi⟩

/-- A session that is not revoked at the end of a run was not at its start, or was created
    since, if nobody had read anything at the start. -/
theorem live_run (hdb : env.settings.database_enabled = true)
    (hops : ∀ t, OnAccount user_id username (ops t)) (hserial : OnRow env user_id username ops db)
    (houtside : ∀ t x, db.phase t = .active x → x.done = 0) {acts : List (Act τ)} {i : Uuid}
    (hrun : Run Step db acts db') (hlive : LiveSession user_id i db'.store) :
    LiveSession user_id i db.store ∨ CreatedSince env user_id ops db db' i := by
  refine (hrun.invariant_of_labels (I := fun acts db' => Run Step db acts db' ∧
    (LiveSession user_id i db'.store →
      LiveSession user_id i db.store ∨ CreatedSince env user_id ops db db' i)) ?_
    ⟨.nil db, fun h => Or.inl h⟩).2 hlive
  rintro acts m act m' ⟨hm, ih⟩ hstep
  refine ⟨hm.append (.single hstep), fun hlive' => ?_⟩
  rcases live_step hdb hops (serial_run (oneLock hdb hops) hserial hm) hstep hlive' with
    hbefore | ⟨t, x, r, rfl, hx, hchecked, hi⟩
  · -- created before this step: the step prolongs the run after the commit
    rcases ih hbefore with hstart | ⟨t, mid, mid', acts₁, acts₂, r, hmid, hcommit, hrest, hcreated⟩
    · exact Or.inl hstart
    · exact Or.inr ⟨t, mid, mid', acts₁, acts₂ ++ [act], r, hmid, hcommit,
        hrest.append (.single hstep), hcreated⟩
  · obtain ⟨y, hy⟩ := Run.active_before hm hx
    exact Or.inr ⟨t, m, m', acts, [], r, hm, hstep, .nil m', ⟨y, hy, houtside t y hy⟩, hchecked, hi⟩

/-- **Credential changes cut off every older session.** -/
theorem credential_change_cuts_off {s : Store} {t : τ} {acts : List (Act τ)}
    (hdb : env.settings.database_enabled = true)
    (hops : ∀ t, OnAccount user_id username (ops t)) (hrow : HasRow user_id username s)
    (hrun : Run Step (initial (fun t => (ops t).prog env) s) acts db)
    (hstep : Step db (.commit t) db') :
    (∀ r, db'.phase t = .committed (.login (some r)) →
      LoginChecked env user_id (ops t) db.store r) ∧
      ∀ ans, db'.phase t = .committed ans → CutsOff (ops t) ans →
        (∃ a ∈ db'.store.accounts.rows, a.id = user_id ∧ InForce env (ops t) a) ∧
          ∀ acts' db'', Run Step db' acts' db'' → ∀ x ∈ db''.store.sessions.rows,
            x.user_id = user_id → x.revoked_at = none →
              CreatedSince env user_id ops db' db'' x.id ∨
                (KeptSession (ops t) x.id ∧ LiveSession user_id x.id db.store) := by
  have hlock := oneLock hdb hops
  have hserial : OnRow env user_id username ops db := serial_run hlock (serial_initial hrow) hrun
  obtain ⟨ans, hphase, hcall⟩ := commit_callStep hdb hops hserial hstep
  refine ⟨fun r hr => ?_, fun ans' hans' hcuts => ?_⟩
  · rw [hphase] at hr
    obtain rfl : ans = .login (some r) := Phase.committed.inj hr
    exact login_checked hserial.store (hops t) hcall
  · rw [hphase] at hans'
    obtain rfl : ans = ans' := Phase.committed.inj hans'
    refine ⟨in_force (hops t) hcuts hcall, fun acts' db'' hlater x hx huser hunrevoked => ?_⟩
    rcases live_run hdb hops (hserial.step hlock hstep)
      (hserial.all_outside_after_commit hlock hstep)
      hlater ⟨x, hx, rfl, huser, hunrevoked⟩ with hleft | hcreated
    · exact Or.inr (cut_off (hops t) hcuts hcall hleft)
    · exact Or.inl hcreated

end Together

-- ── A run of the operations ───────────────────────────────────────────────────────

/-- A reset of the password of the first administrator, and a login with the old one. -/
def resetAndLogin : Bool → Op
  | true => .resetPassword ⟨3, 3, 3⟩ 2 1 [] 1 ⟨str "temporary battery", by decide⟩
  | false => sampleLogin 3 (str "root") (str "correct horse battery")

/-- Both at their start, over two administrators the first of whom has a session. -/
def resetAndLoginStart : OpDb Bool :=
  initial (fun t => (resetAndLogin t).prog .sample) (performAll .sample sampleStart .empty)

/-- The login waits for the row while the reset runs. -/
def resetSchedule : List (Act Bool) :=
  [.begin true, .finish true, .begin false, .begin true, .finish true, .begin true, .finish true,
    .begin true, .finish true, .emit true, .begin true, .finish true]

/-- The answer of a transaction that has committed. -/
def committedAnswer (db : OpDb Bool) (t : Bool) : Option Answer :=
  match db.phase t with
  | .committed ans => some ans
  | _ => none

theorem phase_of_committedAnswer {db : OpDb Bool} {t : Bool} {ans : Answer}
    (h : committedAnswer db t = some ans) : db.phase t = .committed ans := by
  rw [committedAnswer] at h
  split at h
  · rename_i ans' hphase
    rw [hphase, Option.some.inj h]
  · cases h

/-- The general result on a reset that a login waits for. -/
theorem reset_cuts_off_waiting_login :
    ∃ db db' : OpDb Bool, Run Step resetAndLoginStart resetSchedule db ∧
      Step db (.commit true) db' ∧ ∀ acts' db'', Run Step db' acts' db'' →
        ∀ x ∈ db''.store.sessions.rows, x.user_id = 1 → x.revoked_at = none →
          CreatedSince .sample 1 resetAndLogin db' db'' x.id := by
  have hexec : (exec next resetAndLoginStart resetSchedule).bind (fun db =>
      (next db (.commit true)).bind fun db' => committedAnswer db' true) = some .done := by
    decide +kernel
  obtain ⟨db, hdb, hexec⟩ := Option.bind_eq_some_iff.mp hexec
  obtain ⟨db', hdb', hanswer⟩ := Option.bind_eq_some_iff.mp hexec
  have hops : ∀ t, OnAccount 1 (str "root") (resetAndLogin t) := by
    intro t
    cases t with
    | true => exact .resetPassword ..
    | false => exact .authenticate ..
  have hrow : HasRow 1 (str "root") (performAll .sample sampleStart .empty) := by
    rw [HasRow]
    decide +kernel
  refine ⟨db, db', run_of_exec hdb, step_of_next hdb', fun acts' db'' hlater x hx huser hlive => ?_⟩
  have hcut := (credential_change_cuts_off (t := true) rfl hops hrow (run_of_exec hdb)
    (step_of_next hdb')).2 .done (phase_of_committedAnswer hanswer) (.resetPassword ..)
  rcases hcut.2 acts' db'' hlater x hx huser hlive with hcreated | ⟨hkept, -⟩
  · exact hcreated
  · obtain ⟨_, _, _, _, _, _, _, hop, -⟩ := hkept
    cases hop

end NetProbeAccountRuns
