import NetProbe.AccountRunsProofs

/-!
# Disabled accounts and refused sessions over runs

`Reached` is what holds of every store that a run of operations reaches from the empty one:
accounts are not deleted, every session has its account and was returned by a login of the
run, every login's session is stored, and a disabled account has no session that is not
revoked.

* `disabled_stays_out_iff`: after a patch to `DISABLED`, and until a patch to another status,
  the account stays out in every state exactly if nobody unlocks it: `unlock_user` sets
  `ACTIVE` whatever the status was (`unlock_reenables_disabled`).
* `refused_for_good_iff`: a refused token is refused for good exactly if the refusal was not
  because of the status `LOCKED` alone, which is the one reason that leaves the session row as
  it is and can go away (`locked_session_comes_back`).
-/

namespace NetProbeAccountRuns

open NetProbePyText NetProbeConfig NetProbeCoreAuth NetProbeAccountStore NetProbeAuthService
open NetProbeAdminUsers UniqueTable Transaction Transaction.Txn LabelledRun

-- ── Every reachable store ─────────────────────────────────────────────────────────

/-- The session row of a login result. -/
structure IssuedBy (env : Env) (r : LoginResult) (x : Session) : Prop where
  id : x.id = r.context.session_id
  user_id : x.user_id = r.context.user_id
  token_hash : x.token_hash = hashToken env.crypto env.settings r.token
  csrf_token_hash : x.csrf_token_hash = hashToken env.crypto env.settings r.csrf_token

/-- One of the calls is a login that returned `r`. -/
def LoggedIn (calls : List Call) (r : LoginResult) : Prop :=
  ∃ call ∈ calls, call.answer = .ok (.login (some r))

/-- What holds after a run from the empty store. -/
structure Reached (env : Env) (calls : List Call) (s : Store) : Prop where
  live : ∀ a ∈ s.accounts.rows, a.deleted_at = none
  owned : ∀ x ∈ s.sessions.rows, ∃ a ∈ s.accounts.rows, a.id = x.user_id
  disabled : ∀ a ∈ s.accounts.rows, a.status = .DISABLED →
    ∀ x ∈ s.sessions.rows, x.user_id = a.id → x.revoked_at.isSome = true
  issued : ∀ x ∈ s.sessions.rows, ∃ r, LoggedIn calls r ∧ IssuedBy env r x
  stored : ∀ r, LoggedIn calls r → ∃ x ∈ s.sessions.rows, IssuedBy env r x

section Reached

variable {env : Env} {s s' : Store} {call : Call} {calls : List Call}

theorem IssuedBy.step {r : LoginResult} {x y : Session} (h : IssuedBy env r x)
    (hs : SessionStep call x y) : IssuedBy env r y :=
  ⟨hs.id.trans h.id, hs.user_id.trans h.user_id, hs.token_hash.trans h.token_hash,
    hs.csrf_token_hash.trans h.csrf_token_hash⟩

/-- The result of a program that answers. -/
theorem result_answering {α : Type} {p : AuthTxn α} {f : α → Answer} {ans : Answer}
    (h : (answering p f).result s = .ok ans) : ∃ a, ans = f a := by
  cases heval : p.eval s with
  | ok r =>
      obtain ⟨a, t⟩ := r
      rw [result_of_ok (eval_answering_ok heval)] at h
      exact ⟨a, (Except.ok.inj h).symm⟩
  | error e =>
      rw [result_of_error (eval_answering_error heval)] at h
      cases h

/-- The session of a login is stored. -/
theorem login_stores {r : LoginResult} (h : callStep env s call s')
    (hanswer : call.answer = .ok (.login (some r))) : ∃ y ∈ s'.sessions.rows, IssuedBy env r y := by
  obtain ⟨op, answer⟩ := call
  dsimp only at hanswer
  subst hanswer
  cases op with
  | authenticate clock draw scan username password client_ip user_agent =>
      obtain ⟨events, out, hlogin, hends⟩ := callStep_authenticate h
      cases hlogin with
      | noPool | unknownRaised | raised | taken | unknown | refused | wrongPassword => cases hends.1
      | @loggedIn found hfind husable hverify hfresh =>
          obtain ⟨hr, rfl⟩ := hends
          cases hr
          refine ⟨newSession env.py env.settings env.crypto clock draw
            (hashClientIp env.crypto env.settings client_ip) user_agent
            (currentUser clock.utcnow found), ?_, ⟨rfl, rfl, rfl, rfl⟩⟩
          rw [loggedInStore]
          rw [Store.addAudit_sessions, Store.alterSessions_sessions, alter_rows hfresh]
          exact List.mem_append_right _ (List.mem_singleton.mpr rfl)
  | resolveSession | revokeSession | changePassword | createUser | createAdmin | updateUser |
    unlockUser | resetPassword | revokeUserSessions =>
      obtain ⟨a, ha⟩ := result_answering h.1
      cases ha

/-- A patch to `DISABLED` revokes the sessions of the account and sets its status. -/
theorem disables_revokes {user_id : Uuid} (h : callStep env s call s')
    (hd : call.Disables user_id) :
    env.settings.database_enabled = true ∧
      (∃ b ∈ s'.accounts.rows, b.id = user_id ∧ b.status = .DISABLED ∧ b.deleted_at = none) ∧
      ∀ y ∈ s'.sessions.rows, y.user_id = user_id → y.revoked_at.isSome = true := by
  obtain ⟨op, answer⟩ := call
  obtain ⟨clock, actor, payload, row, hop, hstatus, hanswer⟩ := hd
  dsimp only at hop hanswer
  subst hop hanswer
  obtain ⟨out, hupdate, hends⟩ := callStep_updateUser h
  cases hupdate with
  | noPool | notFound | guarded | raised => cases hends.1
  | @updated user row' hdb hfind hpass hacc =>
      obtain ⟨-, rfl⟩ := hends
      obtain ⟨hmem, hid, hlive⟩ := find_byLiveId hfind
      rw [patchedStore, revokedStore]
      rw [if_pos hstatus]
      refine ⟨hdb, ?_, ?_⟩
      · refine ⟨patched env.py clock payload user, ?_, hid, by simp [patched, hstatus], hlive⟩
        exact (mem_setAccount_of_accepts hacc).mpr ⟨user, hmem, by rw [if_pos hid]⟩
      · intro y hy huser
        obtain ⟨x, -, rfl⟩ := (mem_setSessions revoke_keeps).mp hy
        split
        · rfl
        · rename_i hp
          rw [if_neg hp] at huser
          cases hrevoked : x.revoked_at with
          | some time => rfl
          | none =>
              refine absurd ?_ hp
              simp [unrevokedOf, huser, hrevoked]

theorem loggedIn_append {r : LoginResult} :
    LoggedIn (calls ++ [call]) r ↔ LoggedIn calls r ∨ call.answer = .ok (.login (some r)) := by
  rw [LoggedIn]
  constructor
  · rintro ⟨c, hc, hanswer⟩
    rcases List.mem_append.mp hc with hmem | hnew
    · exact Or.inl ⟨c, hmem, hanswer⟩
    · rw [List.mem_singleton.mp hnew] at hanswer
      exact Or.inr hanswer
  · rintro (⟨c, hc, hanswer⟩ | hanswer)
    · exact ⟨c, List.mem_append_left _ hc, hanswer⟩
    · exact ⟨call, List.mem_append_right _ (List.mem_singleton.mpr rfl), hanswer⟩

/-- The step lemma of the invariant. -/
theorem Reached.step (hR : Reached env calls s) (h : callStep env s call s') :
    Reached env (calls ++ [call]) s' := by
  have hf := call_follows h
  refine ⟨?_, ?_, ?_, ?_, ?_⟩
  · intro b hb
    rcases hf.accountBack b hb with ⟨a, ha, hab⟩ | hnew
    · rw [hab.deleted_at]
      exact hR.live a ha
    · exact hnew.2
  · intro y hy
    rcases hf.sessionBack y hy with ⟨x, hx, hxy⟩ | hnew
    · obtain ⟨a, ha, hid⟩ := hR.owned x hx
      obtain ⟨b, hb, hab⟩ := hf.account a ha
      exact ⟨b, hb, by rw [hab.id, hid, hxy.user_id]⟩
    · obtain ⟨clock, draw, _, _, _, client_ip, user_agent, found, -, hfound, -, rfl, -⟩ := hnew
      obtain ⟨b, hb, hab⟩ := hf.account found hfound
      exact ⟨b, hb, by rw [hab.id]; exact (currentUser_id _ _).symm⟩
  · intro b hb hdisabled y hy huser
    rcases hf.accountBack b hb with ⟨a, ha, hab⟩ | hnew
    · rcases hab.enabled hdisabled with hadisabled | hd
      · rcases hf.sessionBack y hy with ⟨x, hx, hxy⟩ | hnew
        · exact hxy.revoked (hR.disabled a ha hadisabled x hx
            (by rw [← hxy.user_id, huser, hab.id]))
        · -- a login does not get this far on a disabled account
          obtain ⟨clock, draw, _, _, _, client_ip, user_agent, found, -, hfound, hne, rfl, -⟩ :=
            hnew
          have hfa : found = a := account_unique hfound ha (by
            rw [← hab.id, ← huser]
            exact (currentUser_id _ _).symm)
          exact absurd (hfa ▸ hadisabled) hne
      · exact (disables_revokes h hd).2.2 y hy (by rw [huser, hab.id])
    · exact absurd hdisabled hnew.1
  · intro y hy
    rcases hf.sessionBack y hy with ⟨x, hx, hxy⟩ | hnew
    · obtain ⟨r, hr, hissued⟩ := hR.issued x hx
      exact ⟨r, loggedIn_append.mpr (Or.inl hr), hissued.step hxy⟩
    · obtain ⟨clock, draw, _, _, _, client_ip, user_agent, found, -, -, -, rfl, hanswer⟩ := hnew
      exact ⟨_, loggedIn_append.mpr (Or.inr hanswer), ⟨rfl, rfl, rfl, rfl⟩⟩
  · intro r hr
    rcases loggedIn_append.mp hr with hold | hnew
    · obtain ⟨x, hx, hissued⟩ := hR.stored r hold
      obtain ⟨y, hy, hxy⟩ := hf.session x hx
      exact ⟨y, hy, hissued.step hxy⟩
    · exact login_stores h hnew

/-- **Every reachable store.** -/
theorem reached_of_run (hrun : Run (callStep env) Store.empty calls s) : Reached env calls s := by
  refine hrun.invariant_of_labels (I := Reached env) (fun _ _ _ _ hR h => hR.step h) ?_
  refine ⟨?_, ?_, ?_, ?_, ?_⟩
  · intro a ha
    cases ha
  · intro x hx
    cases hx
  · intro a ha
    cases ha
  · intro x hx
    cases hx
  · rintro r ⟨call, hcall, -⟩
    cases hcall

end Reached

-- ── A disabled account ────────────────────────────────────────────────────────────

/-- The account is disabled and nobody gets in with it. -/
structure Out (env : Env) (user_id : Uuid) (s : Store) : Prop where
  status : ∃ a ∈ s.accounts.rows, a.id = user_id ∧ a.status = .DISABLED
  login : ∀ a ∈ s.accounts.rows, a.id = user_id → ∀ clock draw scan password client_ip user_agent,
    ((Op.authenticate clock draw scan a.username password client_ip user_agent).prog env).result s =
      .ok (.login none)
  session : ∀ x ∈ s.sessions.rows, x.user_id = user_id → ∀ clock token,
    hashToken env.crypto env.settings token = x.token_hash →
      ((Op.resolveSession clock token).prog env).result s = .ok (.context none)

section Disabled

variable {env : Env} {s s' s₀ s₁ : Store} {call patch : Call} {calls : List Call} {user_id : Uuid}

/-- The account exists, is not deleted and is disabled. -/
def DisabledRow (user_id : Uuid) (s : Store) : Prop :=
  ∃ a ∈ s.accounts.rows, a.id = user_id ∧ a.status = .DISABLED ∧ a.deleted_at = none

/-- A disabled account is refused at login and in every session. -/
theorem out_of_disabled (hdb : env.settings.database_enabled = true) (h : DisabledRow user_id s) :
    Out env user_id s := by
  obtain ⟨a, ha, hid, hdisabled, hdeleted⟩ := h
  refine ⟨⟨a, ha, hid, hdisabled⟩, ?_, ?_⟩
  · intro b hb hbid clock draw scan password client_ip user_agent
    obtain rfl : b = a := account_unique hb ha (hbid.trans hid.symm)
    have hname : s.accounts.rows.find? (byUsername b.username) = some b :=
      byUsername_find hb rfl hdeleted
    have hrefused : ∀ found, s.accounts.rows.find? (byUsername b.username) = some found →
        (currentUser clock.utcnow found).status.usable ≠ true := by
      intro found hfound husable
      rw [hname] at hfound
      cases hfound
      exact not_disabled_of_currentUser husable hdisabled
    obtain ⟨events, out, hlogin, hends⟩ := callStep_authenticate (callStep_on env
      (.authenticate clock draw scan b.username password client_ip user_agent) s)
    cases hlogin with
    | noPool hoff => simp [hdb] at hoff
    | unknown hnone | unknownRaised hnone => simp [hname] at hnone
    | refused => exact hends.1
    | raised hfind husable => exact absurd husable (hrefused _ hfind)
    | wrongPassword hfind husable => exact absurd husable (hrefused _ hfind)
    | taken hfind husable => exact absurd husable (hrefused _ hfind)
    | loggedIn hfind husable => exact absurd husable (hrefused _ hfind)
  · intro x hx huser clock token htoken
    obtain ⟨out, hres, hends⟩ :=
      callStep_resolveSession (callStep_on env (.resolveSession clock token) s)
    cases hres with
    | noPool hoff => simp [hdb] at hoff
    | noSession | refused | expired => exact hends.1
    | @resolved y b _ hrow husable _ _ =>
        obtain ⟨hy, hb, hbid, hhash, -⟩ := sessionOf_some hrow
        obtain rfl : y = x := token_unique hy hx (hhash.trans htoken)
        obtain rfl : b = a := account_unique hb ha (hbid.trans (huser.trans hid.symm))
        exact absurd hdisabled (not_disabled_of_usable husable)

/-- A disabled account stays so over every operation that neither patches its status nor
    unlocks it. -/
theorem disabledRow_step (h : DisabledRow user_id s) (hs : callStep env s call s')
    (hrestore : ¬ call.Restores user_id) (hunlock : ¬ call.Unlocks user_id) :
    DisabledRow user_id s' := by
  obtain ⟨a, ha, hid, hdisabled, hdeleted⟩ := h
  obtain ⟨b, hb, hab⟩ := (call_follows hs).account a ha
  refine ⟨b, hb, hab.id.trans hid, ?_, hab.deleted_at.trans hdeleted⟩
  rcases hab.disabled hdisabled with hb | hre | hun
  · exact hb
  · exact absurd (hid ▸ hre) hrestore
  · exact absurd (hid ▸ hun) hunlock

/-- An unlock makes the account active whatever it was. -/
theorem unlocks_activates (hs : callStep env s call s') (h : call.Unlocks user_id) :
    ∀ b ∈ s'.accounts.rows, b.id = user_id → b.status = .ACTIVE := by
  obtain ⟨op, answer⟩ := call
  obtain ⟨clock, actor, hop, hanswer⟩ := h
  dsimp only at hop hanswer
  subst hop hanswer
  rcases callStep_unlockUser hs with ⟨e, hanswer, -⟩ | ⟨-, rfl⟩
  · cases hanswer
  · intro b hb hid
    obtain ⟨a, -, rfl⟩ := (mem_setAccount unlocked_keeps).mp hb
    split
    · rfl
    · rename_i hne
      rw [if_neg hne] at hid
      exact absurd hid hne

/-- **A disabled account stays out exactly if nobody unlocks it.** From the commit of a patch
    to `DISABLED`, over any operations without a patch to another status. -/
theorem disabled_stays_out_iff (hpatch : callStep env s patch s₀)
    (hdisables : patch.Disables user_id)
    (hrun : Run (callStep env) s₀ calls s₁) (hrestore : ∀ call ∈ calls, ¬ call.Restores user_id) :
    (∀ before after m, calls = before ++ after → Run (callStep env) s₀ before m →
      Out env user_id m) ↔
      ∀ call ∈ calls, ¬ call.Unlocks user_id := by
  obtain ⟨hdb, ⟨b, hb, hid, hdisabled, hlive⟩, -⟩ := disables_revokes hpatch hdisables
  constructor
  · intro hout call hcall hunlock
    obtain ⟨before, after, rfl⟩ := List.append_of_mem hcall
    obtain ⟨m, hbefore, hrest⟩ := hrun.split
    cases hrest with
    | @cons _ m' _ _ _ hstep _ =>
        have hprefix := hbefore.append (Run.single hstep)
        obtain ⟨a, ha, haid, hadisabled⟩ :=
          (hout (before ++ [call]) after m' (by simp) hprefix).status
        rw [unlocks_activates hstep hunlock a ha haid] at hadisabled
        cases hadisabled
  · rintro hunlock before after m rfl hbefore
    refine out_of_disabled hdb ?_
    have hclean : Run (Restrict (callStep env) fun _ call =>
        ¬ call.Restores user_id ∧ ¬ call.Unlocks user_id) s₀ before m :=
      hbefore.restrict_of_labels fun call hcall =>
        ⟨hrestore call (List.mem_append_left _ hcall), hunlock call (List.mem_append_left _ hcall)⟩
    exact hclean.invariant (I := DisabledRow user_id)
      (fun _ _ _ hI hs => disabledRow_step hI hs.2 hs.1.1 hs.1.2) ⟨b, hb, hid, hdisabled, hlive⟩

end Disabled

/-- An administrator and an operator. -/
def adminAndOperator : Store :=
  { Store.empty with
    accounts := ⟨[sampleAccount 1 (str "root") .ADMIN .ACTIVE,
      sampleAccount 2 (str "operator1") .OPERATOR .ACTIVE], by decide⟩ }

/-- The administrator disables the operator. -/
def disableOperator : Op := .updateUser ⟨0, 0, 0⟩ 1 2 (.patch none (some .DISABLED))

/-- The store in which the operator is disabled. -/
def operatorDisabled : Store := (disableOperator.prog .sample).perform adminAndOperator

theorem disableOperator_disables : (disableOperator.on .sample adminAndOperator).Disables 2 := by
  refine ⟨⟨0, 0, 0⟩, 1, .patch none (some .DISABLED),
    some (patched .asciiOnly ⟨0, 0, 0⟩ (.patch none (some .DISABLED))
      (sampleAccount 2 (str "operator1") .OPERATOR .ACTIVE)), rfl, rfl, ?_⟩
  decide +kernel

/-- The general result on a run of one login: the disabled account stays out. -/
theorem disabled_stays_out_sample :
    Out .sample 2
      (((sampleLogin 5 (str "operator1") (str "correct horse battery")).prog .sample).perform
      operatorDisabled) := by
  have hrun := Run.single (callStep_on .sample
    (sampleLogin 5 (str "operator1") (str "correct horse battery")) operatorDisabled)
  refine (disabled_stays_out_iff (callStep_on .sample disableOperator adminAndOperator)
    disableOperator_disables hrun ?_).mpr ?_ _ [] _ (List.append_nil _).symm hrun
  · rintro call hcall ⟨_, _, _, _, _, hop, -⟩
    rw [List.mem_singleton.mp hcall] at hop
    cases hop
  · rintro call hcall ⟨_, _, hop, -⟩
    rw [List.mem_singleton.mp hcall] at hop
    cases hop

/-- The administrator unlocks the operator. -/
def unlockOperator : Op := .unlockUser ⟨1, 1, 1⟩ 1 2

/-- **An unlock re-enables a disabled account.** No patch of the status in between, and the
    operator is active again and logs in. -/
theorem unlock_reenables_disabled :
    (disableOperator.on .sample adminAndOperator).Disables 2 ∧
      Run (callStep .sample) operatorDisabled [unlockOperator.on .sample operatorDisabled]
        ((unlockOperator.prog .sample).perform operatorDisabled) ∧
      (∀ call ∈ [unlockOperator.on .sample operatorDisabled], ¬ call.Restores 2) ∧
      ¬ Out .sample 2 ((unlockOperator.prog .sample).perform operatorDisabled) ∧
      ((sampleLogin 5 (str "operator1") (str "correct horse battery")).prog .sample).result
        ((unlockOperator.prog .sample).perform operatorDisabled) =
        .ok
          (.login (some ⟨⟨2, 7, str "operator1", str "operator1", .OPERATOR, false⟩, str "token",
            str "csrf"⟩)) := by
  have hunlocks : (unlockOperator.on .sample operatorDisabled).Unlocks 2 :=
    ⟨⟨1, 1, 1⟩, 1, rfl, by decide +kernel⟩
  refine ⟨disableOperator_disables, Run.single (callStep_on _ _ _), ?_, fun hout => ?_,
    by decide +kernel⟩
  · rintro call hcall ⟨_, _, _, _, _, hop, -⟩
    rw [List.mem_singleton.mp hcall] at hop
    cases hop
  · obtain ⟨a, ha, hid, hdisabled⟩ := hout.status
    rw [unlocks_activates (callStep_on _ _ _) hunlocks a ha hid] at hdisabled
    cases hdisabled

-- ── A refused session ─────────────────────────────────────────────────────────────

/-- The one reason to refuse a session that can go away: the session is good, the account is
    locked. -/
def RefusedByLock (env : Env) (clock : Clock) (token : Str) (s : Store) : Prop :=
  ∃ x a, sessionOf env.settings env.crypto token s = some (x, a) ∧ a.status = .LOCKED ∧
    sessionExpired clock.utcnow x = false

/-- The session of the token is revoked, or its time is up. -/
def DeadToken (env : Env) (now : Time) (token : Str) (s : Store) : Prop :=
  ∃ x ∈ s.sessions.rows, x.token_hash = hashToken env.crypto env.settings token ∧
    (x.revoked_at.isSome = true ∨ sessionExpired now x = true)

section Refused

variable {env : Env} {s s' s₀ : Store} {call : Call} {calls : List Call} {now now' : Time}
  {clock : Clock} {token : Str} {r : LoginResult}

theorem sessionExpired_mono {x : Session} (h : sessionExpired now x = true) (hle : now ≤ now') :
    sessionExpired now' x = true := by
  rw [sessionExpired] at h ⊢
  simp only [Bool.or_eq_true, decide_eq_true_eq] at h ⊢
  exact h.imp (fun hidle => Int.le_trans hidle hle) (fun habs => Int.le_trans habs hle)

/-- Every operation of the run is at or after its start, and so is its end. -/
theorem NonDecreasing.bounds {start finish : Time} (h : NonDecreasing start calls finish) :
    (∀ call ∈ calls, start ≤ call.op.utcnow) ∧ start ≤ finish := by
  rw [NonDecreasing] at h
  rw [List.cons_append, List.pairwise_cons] at h
  exact ⟨fun call hcall => h.1 _ (List.mem_append_left _ (List.mem_map_of_mem hcall)),
    h.1 _ (List.mem_append_right _ (List.mem_singleton.mpr rfl))⟩

/-- A dead token stays dead over every later operation. -/
theorem deadToken_step (h : DeadToken env now token s) (hs : callStep env s call s')
    (hle : now ≤ call.op.utcnow) : DeadToken env now token s' := by
  obtain ⟨x, hx, hhash, hdead⟩ := h
  obtain ⟨y, hy, hxy⟩ := (call_follows hs).session x hx
  refine ⟨y, hy, hxy.token_hash.trans hhash, ?_⟩
  rcases hdead with hrevoked | hexpired
  · exact Or.inl (hxy.revoked hrevoked)
  · refine Or.inr ?_
    rw [sessionExpired_congr (hxy.times (sessionExpired_mono hexpired hle)), hexpired]

/-- A dead token is refused. -/
theorem refused_of_deadToken (hdb : env.settings.database_enabled = true)
    (h : DeadToken env now token s) (hle : now ≤ clock.utcnow) :
    ((Op.resolveSession clock token).prog env).result s = .ok (.context none) := by
  obtain ⟨x, hx, hhash, hdead⟩ := h
  obtain ⟨out, hres, hends⟩ :=
    callStep_resolveSession (callStep_on env (.resolveSession clock token) s)
  cases hres with
  | noPool hoff => simp [hdb] at hoff
  | noSession | refused | expired => exact hends.1
  | @resolved y b _ hrow husable hdeleted hlive =>
      obtain ⟨hy, -, -, hyhash, hunrevoked⟩ := sessionOf_some hrow
      obtain rfl : y = x := token_unique hy hx (hyhash.trans hhash.symm)
      rcases hdead with hrevoked | hexpired
      · rw [hunrevoked] at hrevoked
        cases hrevoked
      · rw [sessionExpired_mono hexpired hle] at hlive
        cases hlive

/-- A refusal that is not by the lock alone leaves a dead token. -/
theorem deadToken_of_refused (hR : Reached env calls s) (hissued : LoggedIn calls r)
    (hrefused : callStep env s ⟨.resolveSession clock r.token, .ok (.context none)⟩ s₀)
    (hlock : ¬ RefusedByLock env clock r.token s) : DeadToken env clock.utcnow r.token s₀ := by
  obtain ⟨x, hx, hxr⟩ := hR.stored r hissued
  obtain ⟨out, hres, hends⟩ := callStep_resolveSession hrefused
  cases hres with
  | noPool hoff => cases hends.1
  | noSession hdb hrow =>
      have hs : s₀ = s := hends.2
      rw [hs]
      refine ⟨x, hx, hxr.token_hash, Or.inl ?_⟩
      -- the row of the token is there, so it is not selected because it is revoked
      by_contra hunrevoked
      obtain ⟨a, ha, hid⟩ := hR.owned x hx
      have hfound : s.sessions.rows.find? (byToken (hashToken env.crypto env.settings r.token)) =
          some x := by
        refine find?_of_mem sessionClash_symm (fun y z hy hz => ?_) hx ?_
        · rw [byToken] at hy hz
          simp only [Bool.and_eq_true, decide_eq_true_eq] at hy hz
          simp [sessionClash, hy.1, hz.1]
        · simpa [byToken, hxr.token_hash] using hunrevoked
      rw [sessionOf] at hrow
      rw [hfound] at hrow
      have hnone := List.find?_eq_none.mp (Option.map_eq_none_iff.mp hrow) a ha
      simp [hid] at hnone
  | @refused y a hdb hrow hbad =>
      obtain ⟨-, rfl⟩ := hends
      obtain ⟨hy, ha, hid, hhash, hunrevoked⟩ := sessionOf_some hrow
      refine ⟨y, hy, hhash, Or.inr ?_⟩
      rcases hbad with hunusable | hdeleted
      · cases hstatus : a.status with
        | ACTIVE | PENDING => simp [hstatus, AccountStatus.usable] at hunusable
        | LOCKED =>
            by_contra hlive
            exact hlock ⟨y, a, hrow, hstatus, by simpa using hlive⟩
        | DISABLED =>
            have := hR.disabled a ha hstatus y hy hid.symm
            rw [hunrevoked] at this
            cases this
      · rw [hR.live a ha] at hdeleted
        cases hdeleted
  | @expired y a hdb hrow husable hdeleted hexpired =>
      obtain ⟨-, rfl⟩ := hends
      obtain ⟨hy, -, -, hhash, -⟩ := sessionOf_some hrow
      refine ⟨revoke clock.utcnow (str "EXPIRED") y, ?_, hhash, Or.inl rfl⟩
      exact (mem_setSessions revoke_keeps).mpr ⟨y, hy, by simp [sessionById]⟩
  | @resolved y a hdb hrow husable hdeleted hlive =>
      cases hends.1

/-- The database is on if a session was asked for. -/
theorem database_of_refused
    (hrefused : callStep env s ⟨.resolveSession clock token, .ok (.context none)⟩ s₀) :
    env.settings.database_enabled = true := by
  obtain ⟨out, hres, hends⟩ := callStep_resolveSession hrefused
  cases hres with
  | noPool hoff => cases hends.1
  | noSession hdb | refused hdb | expired hdb | resolved hdb => exact hdb

/-- A session that was refused by the lock alone resolves again after an unlock. -/
theorem resolves_after_unlock (hdb : env.settings.database_enabled = true)
    (hlive : ∀ a ∈ s.accounts.rows, a.deleted_at = none) (h : RefusedByLock env clock token s) :
    ∃ u, callStep env s ⟨.unlockUser clock u u, .ok .done⟩
        (unlockedStore env.settings clock u u s) ∧
      ((Op.resolveSession clock token).prog env).result (unlockedStore env.settings clock u u s) ≠
        .ok (.context none) := by
  obtain ⟨x, a, hrow, hlocked, hgood⟩ := h
  obtain ⟨hx, ha, hid, hhash, hunrevoked⟩ := sessionOf_some hrow
  have hexists := hasAccount_of_mem ha
  have heval : ((Op.unlockUser clock a.id a.id).prog env).eval s =
      .ok (.done, unlockedStore env.settings clock a.id a.id s) :=
    eval_answering_ok (eval_unlockUser_ok hdb hexists hexists)
  refine ⟨a.id, ⟨result_of_ok heval, (perform_of_ok heval).symm⟩, ?_⟩
  have hmem :
      unlocked clock.txNow a ∈ (unlockedStore env.settings clock a.id a.id s).accounts.rows :=
    (mem_setAccount unlocked_keeps).mpr ⟨a, ha, by simp⟩
  have hrow' :
      sessionOf env.settings env.crypto token (unlockedStore env.settings clock a.id a.id s) =
      some (x, unlocked clock.txNow a) := by
    rw [sessionOf] at hrow ⊢
    obtain ⟨y, hy, hmap⟩ := Option.bind_eq_some_iff.mp hrow
    obtain ⟨b, -, hpair⟩ := Option.map_eq_some_iff.mp hmap
    cases hpair
    refine Option.bind_eq_some_iff.mpr ⟨x, hy, Option.map_eq_some_iff.mpr ⟨_, ?_, rfl⟩⟩
    exact byId_find hmem (show (unlocked clock.txNow a).id = x.user_id from hid)
  obtain ⟨out, hres, hends⟩ :=
    callStep_resolveSession (callStep_on env (.resolveSession clock token)
    (unlockedStore env.settings clock a.id a.id s))
  cases hres with
  | noPool hoff => simp [hdb] at hoff
  | noSession _ hnone => simp [hrow'] at hnone
  | refused _ hsome hbad =>
      rw [hrow'] at hsome
      cases hsome
      rcases hbad with hbad | hbad
      · cases hbad
      · rw [show (unlocked clock.txNow a).deleted_at = none from hlive a ha] at hbad
        cases hbad
  | expired _ hsome _ _ hexpired =>
      rw [hrow'] at hsome
      cases hsome
      rw [hgood] at hexpired
      cases hexpired
  | resolved =>
      intro h
      cases hends.1.symm.trans h

/-- **A refused session is refused for good unless it was refused by the lock alone.** After any
    run from the empty store, for a token that a login of it returned. -/
theorem refused_for_good_iff (hrun : Run (callStep env) Store.empty calls s)
    (hissued : LoggedIn calls r)
    (hrefused : callStep env s ⟨.resolveSession clock r.token, .ok (.context none)⟩ s₀) :
    (∀ later s' clock', Run (callStep env) s₀ later s' →
      NonDecreasing clock.utcnow later clock'.utcnow →
        ((Op.resolveSession clock' r.token).prog env).result s' = .ok (.context none)) ↔
      ¬ RefusedByLock env clock r.token s := by
  have hR := reached_of_run hrun
  have hdb := database_of_refused hrefused
  constructor
  · intro hall hlock
    -- the refusal wrote nothing, so the unlock finds the session as it was
    have hsame : s₀ = s := by
      obtain ⟨x, a, hrow, hlocked, -⟩ := hlock
      obtain ⟨out, hres, hends⟩ := callStep_resolveSession hrefused
      cases hres with
      | noPool | noSession | refused => exact hends.2
      | expired _ hsome husable | resolved _ hsome husable =>
          rw [hrow] at hsome
          cases hsome
          rw [hlocked] at husable
          cases husable
    subst hsame
    obtain ⟨u, hunlock, hback⟩ := resolves_after_unlock hdb hR.live hlock
    refine hback (hall [⟨.unlockUser clock u u, .ok .done⟩] _ clock (Run.single hunlock) ?_)
    simp [NonDecreasing, Op.utcnow]
  · intro hlock later s' clock' hlater htimes
    obtain ⟨hafter, hend⟩ := htimes.bounds
    have hclean := hlater.restrict_of_labels (C := fun call => clock.utcnow ≤ call.op.utcnow) hafter
    have hdead : DeadToken env clock.utcnow r.token s' :=
      hclean.invariant (I := DeadToken env clock.utcnow r.token)
        (fun _ _ _ hI hs => deadToken_step hI hs.2 hs.1)
        (deadToken_of_refused hR hissued hrefused hlock)
    exact refused_of_deadToken hdb hdead hend

end Refused

/-- Two administrators are created, and the first logs in. -/
def sampleStart : List Op :=
  [.createAdmin ⟨0, 0, 0⟩ 1 [] (str "root") (str "root") none (str "correct horse battery")
      (str "correct horse battery"),
    .createAdmin ⟨0, 0, 0⟩ 2 [] (str "second") (str "second") none (str "correct horse battery")
      (str "correct horse battery"),
    sampleLogin 1 (str "root") (str "correct horse battery")]

/-- What the login of `sampleStart` returns. -/
def sampleResult : LoginResult :=
  ⟨⟨1, 7, str "root", str "root", .ADMIN, true⟩, str "token", str "csrf"⟩

/-- The session is asked for. -/
def sampleResolve (now : Time) : Op := .resolveSession ⟨now, now, now⟩ (str "token")

/-- The general result on a session that was logged out: it is refused later as well. -/
theorem refused_for_good_after_logout :
    ((sampleResolve 9).prog .sample).result (((sampleResolve 5).prog .sample).perform
      (performAll .sample (sampleStart ++ [.revokeSession ⟨2, 2, 2⟩ 7 1 (str "LOGOUT")]) .empty)) =
      .ok (.context none) := by
  have hrefused : callStep .sample
      (performAll .sample (sampleStart ++ [.revokeSession ⟨2, 2, 2⟩ 7 1 (str "LOGOUT")]) .empty)
      ⟨sampleResolve 5, .ok (.context none)⟩
      (((sampleResolve 5).prog .sample).perform
        (performAll .sample (sampleStart ++ [.revokeSession ⟨2, 2, 2⟩ 7 1 (str "LOGOUT")])
          .empty)) :=
    ⟨by decide +kernel, rfl⟩
  refine (refused_for_good_iff (r := sampleResult) (run_callsOf .sample _ .empty)
    ⟨(sampleLogin 1 (str "root") (str "correct horse battery")).on .sample
      (performAll .sample (sampleStart.take 2) .empty), ?_, by decide +kernel⟩ hrefused).mpr ?_
    [] _ ⟨9, 9, 9⟩ (.nil _) (by simp [NonDecreasing])
  · exact List.mem_cons_of_mem _ (List.mem_cons_of_mem _ (List.mem_cons_self ..))
  · rintro ⟨x, a, hrow, -, -⟩
    have hnone : sessionOf (Env.sample).settings (Env.sample).crypto (str "token")
        (performAll .sample (sampleStart ++ [.revokeSession ⟨2, 2, 2⟩ 7 1 (str "LOGOUT")]) .empty) =
        none := by decide +kernel
    rw [show sampleResult.token = str "token" from rfl, hnone] at hrow
    cases hrow

/-- The second administrator locks the first. -/
def sampleLock : Op := .updateUser ⟨2, 2, 2⟩ 2 1 (.patch none (some .LOCKED))

/-- The second administrator unlocks the first. -/
def sampleUnlock : Op := .unlockUser ⟨6, 6, 6⟩ 2 1

/-- **A locked session comes back.** The session of a locked account is refused, and resolves
    again once the account is unlocked. -/
theorem locked_session_comes_back :
    Run (callStep .sample) .empty (callsOf .sample (sampleStart ++ [sampleLock]) .empty)
        (performAll .sample (sampleStart ++ [sampleLock]) .empty) ∧
      LoggedIn (callsOf .sample (sampleStart ++ [sampleLock]) .empty) sampleResult ∧
      ((sampleResolve 5).prog .sample).result
        (performAll .sample (sampleStart ++ [sampleLock]) .empty) = .ok (.context none) ∧
      ((sampleResolve 7).prog .sample).result
        (performAll .sample (sampleStart ++ [sampleLock, sampleResolve 5, sampleUnlock]) .empty) =
        .ok (.context (some sampleResult.context)) := by
  refine ⟨run_callsOf _ _ _, ⟨(sampleLogin 1 (str "root") (str "correct horse battery")).on .sample
    (performAll .sample (sampleStart.take 2) .empty), ?_, by decide +kernel⟩, by decide +kernel,
    by decide +kernel⟩
  exact List.mem_cons_of_mem _ (List.mem_cons_of_mem _ (List.mem_cons_self ..))

end NetProbeAccountRuns
