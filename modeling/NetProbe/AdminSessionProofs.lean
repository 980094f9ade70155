import NetProbe.SessionLifetimeProofs

/-!
# Sessions of administrators

The absolute limit of a session is set at its login, from the role of the account at that
time; the role in the context of a later request is read from the account.  So a session is
short for an administrator unless the account became one while the session was open.

`admin_sessions_short` holds in every run whose patches to the role `ADMIN` find no open
session that may outlast the limit of administrators; `promoted_session_lasts` is a run in which
one does.
-/

namespace NetProbeAccountRuns

open NetProbePyText NetProbeConfig NetProbeCoreAuth NetProbeAccountStore NetProbeAuthService
open NetProbeAdminUsers UniqueTable Transaction Transaction.Txn LabelledRun

/-- The call is the login that returned the session. -/
def Call.Opens (call : Call) (session_id : Uuid) : Prop :=
  ∃ r, call.answer = .ok (.login (some r)) ∧ r.context.session_id = session_id

/-- The call committed a patch that makes the account an administrator, and does not disable it. -/
def Call.Promotes (call : Call) (user_id : Uuid) : Prop :=
  ∃ clock actor payload row, call.op = .updateUser clock actor user_id payload ∧
    payload.role = some .ADMIN ∧ payload.status ≠ some .DISABLED ∧ call.answer = .ok (.account row)

/-- The absolute limit of an administrator who logged in with this call. -/
def adminLimit (env : Env) (login : Call) : Time :=
  login.op.utcnow + hours env.settings.admin_session_absolute_hours

/-- After the calls, a session whose context is that of an administrator was opened by a login,
    and is got only before the limit of administrators. -/
def AdminSessionsShort (env : Env) (calls : List Call) (s : Store) : Prop :=
  ∀ clock token c, ((Op.resolveSession clock token).prog env).result s = .ok (.context (some c)) →
    c.role = .ADMIN →
      (∃ login ∈ calls, login.Opens c.session_id) ∧
        ∀ login ∈ calls, login.Opens c.session_id → clock.utcnow < adminLimit env login

/-- The call promotes nobody with an open session that may outlast the limit. -/
def PromotesInTime (env : Env) (calls : List Call) (s : Store) (call : Call) : Prop :=
  ∀ user_id, call.Promotes user_id → ∀ x ∈ s.sessions.rows, x.user_id = user_id →
    x.revoked_at = none → ∀ login ∈ calls, login.Opens x.id →
      x.absolute_expires_at ≤ adminLimit env login

/-- Every open session of an administrator is short, and every session has the absolute limit of
    the login that opened it. -/
structure ShortSessions (env : Env) (calls : List Call) (s : Store) : Prop where
  opened : ∀ login ∈ calls, ∀ session_id, login.Opens session_id →
    ∃ x ∈ s.sessions.rows, x.id = session_id
  short : ∀ x ∈ s.sessions.rows, x.revoked_at = none → ∀ a ∈ s.accounts.rows, a.id = x.user_id →
    a.role = .ADMIN → ∀ login ∈ calls, login.Opens x.id →
      x.absolute_expires_at ≤ adminLimit env login

section Step

variable {env : Env} {s s' : Store} {call : Call} {calls : List Call}

/-- A call that is rolled back leaves the store as it is. -/
theorem callStep_rolledBack {e : AuthError} (h : callStep env s call s')
    (hanswer : call.answer = .error e) : s' = s := by
  have hends := ends_eval (call.op.prog env) s
  rw [h.1, hanswer, ← h.2] at hends
  cases heval : (call.op.prog env).eval s with
  | ok r =>
      rw [heval] at hends
      cases hends.1
  | error e' =>
      rw [heval] at hends
      exact hends.2

/-- The role of an account after changes of an operation: only a patch of this account sets it. -/
def RoleStep (op : Op) (a b : Account) : Prop :=
  b.id = a.id ∧ (b.role = a.role ∨ ∃ clock actor payload,
    op = .updateUser clock actor a.id payload ∧
    payload.role = some b.role)

/-- The roles after an operation. -/
theorem roles_step (h : callStep env s call s') : AccountsLater (RoleStep call.op) s s' := by
  refine callStep_accounts h (fun a => ⟨rfl, Or.inl rfl⟩) (fun a b c hab hbc => ?_) fun f a hf => ?_
  · refine ⟨hbc.1.trans hab.1, ?_⟩
    rcases hbc.2 with hsame | hpatch
    · rw [hsame]
      exact hab.2
    · rw [hab.1] at hpatch
      exact Or.inr hpatch
  · cases hop : call.op with
    | updateUser clock actor user_id payload =>
        rw [hop] at hf
        generalize hid : a.id = id at hf
        cases hf
        refine ⟨rfl, ?_⟩
        cases hrole : payload.role with
        | none => exact Or.inl (by simp [patched, hrole])
        | some role => exact Or.inr ⟨clock, actor, payload, by rw [hid], by simp [patched, hrole]⟩
    | authenticate | resolveSession | revokeSession | changePassword | createUser | createAdmin |
      unlockUser | resetPassword | revokeUserSessions =>
        rw [hop] at hf
        generalize hid : a.id = id at hf
        cases hf <;> exact ⟨rfl, Or.inl rfl⟩

/-- **The role of an account.** An administrator was one before, or is made one by this call. -/
theorem admin_before (h : callStep env s call s') {a b : Account} (ha : a ∈ s.accounts.rows)
    (hb : b ∈ s'.accounts.rows) (hid : b.id = a.id) (hadmin : b.role = .ADMIN) :
    a.role = .ADMIN ∨ call.Promotes a.id ∨ call.Disables a.id := by
  obtain ⟨b', hb', hb'id, hrole⟩ := roles_step h a ha
  obtain rfl : b = b' := account_unique hb hb' (hid.trans hb'id.symm)
  rcases hrole with hsame | ⟨clock, actor, payload, hop, hpatch⟩
  · exact Or.inl (hsame ▸ hadmin)
  · cases hanswer : call.answer with
    | error e =>
        have hsame := callStep_rolledBack h hanswer
        subst hsame
        exact Or.inl (account_unique hb ha hid ▸ hadmin)
    | ok ans =>
        have hresult := h.1
        rw [hanswer, hop] at hresult
        obtain ⟨row, rfl⟩ := result_answering hresult
        rw [hadmin] at hpatch
        by_cases hstatus : payload.status = some .DISABLED
        · exact Or.inr (Or.inr ⟨clock, actor, payload, row, hop, hstatus, hanswer⟩)
        · exact Or.inr (Or.inl ⟨clock, actor, payload, row, hop, hpatch, hstatus, hanswer⟩)

/-- A login that evicts sessions leaves their rows. -/
theorem sessionsLater_evictedStore {settings : Settings} {crypto : Crypto} {clock : Clock}
    {draw : LoginDraw} {scan : Scan Session} {password : Str} {user : Account} :
    SessionsLater False s (evictedStore settings crypto clock draw scan password user s) := by
  intro x hx
  have hset : SessionsLater False (s.setAccount user.id
      (recordLogin (newHash settings crypto draw.salt password user) clock.utcnow clock.txNow))
      (evictedStore settings crypto clock draw scan password user s) :=
    sessionsLater_set revoke_keeps fun x _ _ => later_revoke x
  exact hset x hx

/-- The session of a login is new. -/
theorem login_fresh {r : LoginResult} (h : callStep env s call s')
    (hanswer : call.answer = .ok (.login (some r))) :
    ∀ x ∈ s.sessions.rows, x.id ≠ r.context.session_id := by
  obtain ⟨op, answer⟩ := call
  dsimp only at hanswer
  subst hanswer
  cases op with
  | authenticate clock draw scan username password client_ip user_agent =>
      obtain ⟨events, out, hlogin, hends⟩ := callStep_authenticate h
      cases hlogin with
      | noPool | unknownRaised | raised | taken | unknown | refused | wrongPassword => cases hends.1
      | @loggedIn found hfind husable hverify hfresh =>
          obtain ⟨hr, -⟩ := hends
          cases hr
          intro x hx hid
          -- the row is still there when the new one is inserted
          have hrow : x ∈ (unlockStore clock.utcnow found s).sessions.rows := by
            rw [unlockStore_sessions]
            exact hx
          obtain ⟨y, hy, hxy⟩ := sessionsLater_evictedStore x hrow
          have hclash := accepts_append_iff.mp hfresh y hy
          have hsame : y.id = draw.session_id := hxy.id.trans hid
          simp [sessionClash, hsame, newSession] at hclash
  | resolveSession | revokeSession | changePassword | createUser | createAdmin | updateUser |
    unlockUser | resetPassword | revokeUserSessions =>
      obtain ⟨a, ha⟩ := result_answering h.1
      cases ha

/-- A session after an operation is a session from before, or the one a login returns. -/
theorem session_cases (h : callStep env s call s') {y : Session} (hy : y ∈ s'.sessions.rows) :
    (∃ x ∈ s.sessions.rows, Later True x y) ∨ NewSession env call s y := by
  rcases (call_follows h).sessionBack y hy with ⟨x, hx, hxy⟩ | hnew
  · obtain ⟨z, hz, hxz⟩ := callStep_later h hx
    obtain rfl : y = z := session_unique hy hz (hxy.id.trans hxz.id.symm)
    exact Or.inl ⟨x, hx, hxz.mono fun _ => trivial⟩
  · exact Or.inr hnew

/-- A session from before was not opened by this call. -/
theorem not_opens_of_mem (h : callStep env s call s') {x : Session} (hx : x ∈ s.sessions.rows) :
    ¬ call.Opens x.id := by
  rintro ⟨r, hanswer, hid⟩
  exact login_fresh h hanswer x hx hid.symm

/-- An open session from before stays short. -/
theorem ShortSessions.old (hI : ShortSessions env calls s) (hR : Reached env calls s)
    (h : callStep env s call s') (hcond : PromotesInTime env calls s call) {x y : Session}
    (hx : x ∈ s.sessions.rows) (hxy : Later True x y) (hy : y ∈ s'.sessions.rows)
    (hunrevoked : y.revoked_at = none) {b : Account} (hb : b ∈ s'.accounts.rows)
    (hid : b.id = y.user_id) (hadmin : b.role = .ADMIN) {login : Call} (hlogin : login ∈ calls)
    (hopens : login.Opens y.id) : y.absolute_expires_at ≤ adminLimit env login := by
  have hbefore : x.revoked_at = none := by
    by_contra hrevoked
    have := hxy.revoked (Option.isSome_iff_ne_none.mpr hrevoked)
    rw [hunrevoked] at this
    cases this
  obtain ⟨a, ha, haid⟩ := hR.owned x hx
  have hba : b.id = a.id := by rw [hid, hxy.user_id, haid]
  rw [hxy.absolute]
  rw [hxy.id] at hopens
  rcases admin_before h ha hb hba hadmin with hwas | hpromotes | hdisables
  · exact hI.short x hx hbefore a ha haid hwas login hlogin hopens
  · exact hcond a.id hpromotes x hx haid.symm hbefore login hlogin hopens
  · -- a patch that disables the account as well revokes its sessions
    have := (disables_revokes h hdisables).2.2 y hy (by rw [hxy.user_id, haid])
    rw [hunrevoked] at this
    cases this

/-- The session a login opens for an administrator is short. -/
theorem newSession_short (h : callStep env s call s') {y : Session} (hnew : NewSession env call s y)
    {b : Account} (hb : b ∈ s'.accounts.rows) (hid : b.id = y.user_id) (hadmin : b.role = .ADMIN) :
    y.absolute_expires_at ≤ adminLimit env call := by
  obtain ⟨clock, draw, scan, username, password, client_ip, user_agent, found, hop, hfound, -, rfl,
    -⟩ := hnew
  have huser : b.id = found.id := hid.trans (currentUser_id clock.utcnow found)
  have hrole : found.role = .ADMIN := by
    rcases admin_before h hfound hb huser hadmin with hwas | ⟨_, _, _, _, hpatch, -⟩ |
      ⟨_, _, _, _, hpatch, -⟩
    · exact hwas
    · rw [hop] at hpatch
      cases hpatch
    · rw [hop] at hpatch
      cases hpatch
  rw [adminLimit]
  rw [hop]
  simp [newSession, hrole, Op.utcnow]

/-- **The step lemma.** -/
theorem ShortSessions.step (hI : ShortSessions env calls s) (hR : Reached env calls s)
    (h : callStep env s call s') (hcond : PromotesInTime env calls s call) :
    ShortSessions env (calls ++ [call]) s' where
  opened := by
    intro login hlogin session_id hopens
    rcases List.mem_append.mp hlogin with hold | hnew
    · obtain ⟨x, hx, hid⟩ := hI.opened login hold session_id hopens
      obtain ⟨y, hy, hxy⟩ := callStep_later h hx
      exact ⟨y, hy, hxy.id.trans hid⟩
    · rw [List.mem_singleton.mp hnew] at hopens
      obtain ⟨r, hanswer, hid⟩ := hopens
      obtain ⟨-, x, hx, hstored⟩ := login_session h hanswer
      exact ⟨x, hx, hstored.id.trans hid⟩
  short := by
    intro y hy hunrevoked b hb hid hadmin login hlogin hopens
    rcases session_cases h hy with ⟨x, hx, hxy⟩ | hnew
    · rcases List.mem_append.mp hlogin with hold | hthis
      · exact hI.old hR h hcond hx hxy hy hunrevoked hb hid hadmin hold hopens
      · rw [List.mem_singleton.mp hthis, hxy.id] at hopens
        exact absurd hopens (not_opens_of_mem h hx)
    · rcases List.mem_append.mp hlogin with hold | hthis
      · -- an earlier login with this session would have left its row
        obtain ⟨clock, draw, scan, username, password, client_ip, user_agent, found, -, -, -, rfl,
          hanswer⟩ := hnew
        obtain ⟨x, hx, hxid⟩ := hI.opened login hold _ hopens
        exact absurd ⟨_, hanswer, hxid.symm⟩ (not_opens_of_mem h hx)
      · rw [List.mem_singleton.mp hthis]
        exact newSession_short h hnew hb hid hadmin

/-- The sessions after a run whose patches to `ADMIN` are in time. -/
theorem shortSessions_of_run (hrun : Run (callStep env) Store.empty calls s)
    (hcond : ∀ before call after m, calls = before ++ call :: after →
      Run (callStep env) Store.empty before m → PromotesInTime env before m call) :
    ShortSessions env calls s := by
  have hall :=
    hrun.invariant_of_labels (I := fun calls s => Run (callStep env) Store.empty calls s ∧
    ((∀ before call after m, calls = before ++ call :: after →
      Run (callStep env) Store.empty before m → PromotesInTime env before m call) →
        ShortSessions env calls s)) ?_ ⟨.nil _, fun _ => ?_⟩
  · exact hall.2 hcond
  · rintro calls m call m' ⟨hm, ih⟩ hstep
    refine ⟨hm.append (.single hstep), fun hcond => ?_⟩
    have hinit : ShortSessions env calls m := by
      refine ih fun before call' after m' hcalls hbefore => ?_
      exact hcond before call' (after ++ [call]) m' (by rw [hcalls]; simp) hbefore
    exact hinit.step (reached_of_run hm) hstep (hcond calls call [] m rfl hm)
  · refine ⟨?_, ?_⟩
    · intro login hlogin
      cases hlogin
    · intro x hx
      cases hx

/-- **Sessions of administrators are short** in every run whose patches to the role `ADMIN` are in
    time. -/
theorem admin_sessions_short (hrun : Run (callStep env) Store.empty calls s)
    (hcond : ∀ before call after m, calls = before ++ call :: after →
      Run (callStep env) Store.empty before m → PromotesInTime env before m call) :
    AdminSessionsShort env calls s := by
  have hI := shortSessions_of_run hrun hcond
  intro clock token c hresult hadmin
  obtain ⟨out, hres, hends⟩ := callStep_resolveSession
    (callStep_on env (.resolveSession clock token) s)
  cases hres with
  | noPool => cases hresult.symm.trans hends.1
  | noSession | refused | expired => cases hresult.symm.trans hends.1
  | @resolved x a hdb hrow husable hdeleted hlive =>
      cases hresult.symm.trans hends.1
      obtain ⟨hx, ha, hid, -, hunrevoked⟩ := sessionOf_some hrow
      refine ⟨?_, fun login hlogin hopens => ?_⟩
      · obtain ⟨r, ⟨login, hlogin, hanswer⟩, hissued⟩ := (reached_of_run hrun).issued x hx
        exact ⟨login, hlogin, r, hanswer, hissued.id.symm⟩
      · have hlimit := hI.short x hx hunrevoked a ha hid hadmin login hlogin hopens
        have hnot : ¬ x.absolute_expires_at ≤ clock.utcnow := by
          intro hup
          rw [sessionExpired_iff.mpr (Or.inr hup)] at hlive
          cases hlive
        exact Int.lt_of_lt_of_le (Int.not_le.mp hnot) hlimit

end Step

/-- The administrator creates an operator, the operator logs in, and is made an administrator. -/
def promotionStart : List Op :=
  [.createAdmin ⟨0, 0, 0⟩ 1 [] (str "root") (str "root") none (str "correct horse battery")
      (str "correct horse battery"),
    .createUser ⟨0, 0, 0⟩ 1 2 []
      { username := str "operator1", display_name := str "operator1"
        email := some (str "operator1@example.com")
        temporary_password := str "correct horse battery", username_matches := by decide
        display_name_length := by decide, email_length := by decide, password_length := by decide },
    sampleLogin 0 (str "operator1") (str "correct horse battery"),
    .updateUser ⟨1, 1, 1⟩ 1 2 (.patch (some .ADMIN) none)]

/-- The session is used every 25 minutes, up to more than four hours. -/
def promotionUses : List Op := (List.range 9).map fun n => sampleResolve (minutes (25 * (n + 1)))

/-- **A promoted session lasts as long as before.** Four hours and ten minutes after its login,
    the session of the operator resolves to the context of an administrator; the limit of
    administrators is four hours. -/
theorem promoted_session_lasts :
    (Env.sample).settings.admin_session_absolute_hours ≤
    (Env.sample).settings.session_absolute_hours ∧
      Run (callStep .sample) .empty (callsOf .sample (promotionStart ++ promotionUses) .empty)
        (performAll .sample (promotionStart ++ promotionUses) .empty) ∧
      ¬ AdminSessionsShort .sample (callsOf .sample (promotionStart ++ promotionUses) .empty)
        (performAll .sample (promotionStart ++ promotionUses) .empty) := by
  refine ⟨by decide, run_callsOf _ _ _, fun hshort => ?_⟩
  have hadmin : ((sampleResolve (minutes 250)).prog .sample).result
      (performAll .sample (promotionStart ++ promotionUses) .empty) =
      .ok (.context (some ⟨2, 7, str "operator1", str "operator1", .ADMIN, true⟩)) := by
        decide +kernel
  have hlogin : (sampleLogin 0 (str "operator1") (str "correct horse battery")).on .sample
      (performAll .sample (promotionStart.take 2) .empty) ∈
      callsOf .sample (promotionStart ++ promotionUses) .empty :=
    List.mem_cons_of_mem _ (List.mem_cons_of_mem _ (List.mem_cons_self ..))
  have hlate := (hshort _ _ _ hadmin rfl).2 _ hlogin
    ⟨⟨⟨2, 7, str "operator1", str "operator1", .OPERATOR, true⟩, str "token", str "csrf"⟩,
      by decide +kernel, rfl⟩
  exact absurd hlate (by decide +kernel)

/-- The general result on the session of an administrator. -/
theorem sample_admin_session_short :
    AdminSessionsShort .sample (callsOf .sample sampleStart .empty)
      (performAll .sample sampleStart .empty) := by
  refine admin_sessions_short (run_callsOf .sample sampleStart .empty)
    fun before call after m hcalls _ => ?_
  rintro user_id ⟨clock, actor, payload, row, hop, -⟩
  have hmem : call.op ∈ (callsOf .sample sampleStart .empty).map (·.op) := by
    rw [hcalls]
    exact List.mem_map_of_mem (List.mem_append_right _ (List.mem_cons_self ..))
  have hops : (callsOf .sample sampleStart .empty).map (·.op) = sampleStart := rfl
  rw [hops, hop] at hmem
  simp [sampleStart, sampleLogin] at hmem

end NetProbeAccountRuns
