import NetProbe.AccountWritesProofs
import NetProbe.SessionRunsProofs

/-!
# How long a session lasts

`resolve_session` records the activity of a session only when the last record is five minutes
old, so the idle time in the row lags behind the last use.  `Tracks` says by how much: the
recorded time is at most the last use and less than five minutes before it, and the idle time
is the recorded time plus the idle limit, cut at the absolute limit.  `tracked_step` keeps it
over every operation; from it `session_lifetime` derives what a call can count on: a call
succeeds only before both limits, and does succeed up to five minutes before the idle limit of
the last use.
-/

namespace NetProbeAccountRuns

open NetProbePyText NetProbeConfig NetProbeCoreAuth NetProbeAccountStore NetProbeAuthService
open NetProbeAdminUsers UniqueTable Transaction Transaction.Txn LabelledRun

-- ── The uses of a session ─────────────────────────────────────────────────────────

/-- The call returned a context. -/
def Call.succeeded (call : Call) : Bool :=
  match call.answer with
  | .ok (.context (some _)) => true
  | _ => false

/-- The times at which the session with this token hash was asked for, in order. -/
def askTimes (env : Env) (hash : Str) (calls : List Call) : List Time :=
  (calls.filter (·.op.asksFor env hash)).map (·.op.utcnow)

/-- The time of the latest call that got the session, or of the login. -/
def lastUse (env : Env) (hash : Str) (login : Time) (calls : List Call) : Time :=
  ((calls.filter fun call => call.op.asksFor env hash && call.succeeded).map (·.op.utcnow)).getLastD
    login

/-- A call that leaves the session and its account alone but for `resolve_session` itself: the
    account is `ACTIVE`, and nobody revokes the session by other means. -/
structure Undisturbed (env : Env) (x₀ : Session) (s : Store) (call : Call) (s' : Store) : Prop where
  step : callStep env s call s'
  active : ∀ a ∈ s.accounts.rows, a.id = x₀.user_id → a.status = .ACTIVE
  unrevoked : call.op.asksFor env x₀.token_hash = false →
    (∀ x ∈ s.sessions.rows, x.id = x₀.id → x.revoked_at = none) →
      ∀ y ∈ s'.sessions.rows, y.id = x₀.id → y.revoked_at = none

section Uses

variable {env : Env} {hash : Str} {login : Time} {calls : List Call} {call : Call}

theorem askTimes_append_of_asks (h : call.op.asksFor env hash = true) :
    askTimes env hash (calls ++ [call]) = askTimes env hash calls ++ [call.op.utcnow] := by
  have hone : [call].filter (·.op.asksFor env hash) = [call] := by simp [h]
  rw [askTimes]
  rw [List.filter_append, List.map_append, hone]
  rfl

theorem askTimes_append_of_not (h : call.op.asksFor env hash = false) :
    askTimes env hash (calls ++ [call]) = askTimes env hash calls := by
  unfold askTimes
  rw [List.filter_append, List.filter_cons_of_neg (by simp [h])]
  simp

theorem lastUse_append_of_use (h : call.op.asksFor env hash = true) (hok : call.succeeded = true) :
    lastUse env hash login (calls ++ [call]) = call.op.utcnow := by
  rw [lastUse]
  rw [List.filter_append, List.filter_cons_of_pos (by simp [h, hok])]
  simp

theorem lastUse_append_of_not (h : (call.op.asksFor env hash && call.succeeded) = false) :
    lastUse env hash login (calls ++ [call]) = lastUse env hash login calls := by
  unfold lastUse
  rw [List.filter_append, List.filter_cons_of_neg (by simpa using h)]
  simp

/-- Times that do not decrease, without the last call. -/
theorem askTimes_init
    (h : (login :: askTimes env hash (calls ++ [call])).Pairwise (· ≤ ·)) :
    (login :: askTimes env hash calls).Pairwise (· ≤ ·) := by
  rw [askTimes] at h ⊢
  rw [List.filter_append, List.map_append, ← List.cons_append] at h
  exact (List.pairwise_append.mp h).1

/-- The last use is the login or one of the times at which the session was asked for. -/
theorem lastUse_mem : lastUse env hash login calls ∈ login :: askTimes env hash calls := by
  have hmem : lastUse env hash login calls ∈ login ::
      (calls.filter fun call => call.op.asksFor env hash && call.succeeded).map (·.op.utcnow) :=
    List.getLastD_mem_cons
  rcases List.mem_cons.mp hmem with hlogin | huse
  · rw [hlogin]
    exact List.mem_cons_self ..
  · refine List.mem_cons_of_mem _ ?_
    obtain ⟨call, hcall, htime⟩ := List.mem_map.mp huse
    obtain ⟨hin, hboth⟩ := List.mem_filter.mp hcall
    rw [← htime]
    exact List.mem_map_of_mem (List.mem_filter.mpr ⟨hin, (Bool.and_eq_true_iff.mp hboth).1⟩)

end Uses

-- ── One call that asks for the session ────────────────────────────────────────────

/-- What a call that asks for the session `x` does. -/
inductive Asked (env : Env) (s : Store) (x : Session) (call : Call) : Store → Prop where
  /-- The session is revoked, or its account may not use it: nothing changes. -/
  | refused (hfails : call.succeeded = false)
      (hwhy : x.revoked_at.isSome = true ∨ ∀ a ∈ s.accounts.rows, a.id = x.user_id →
        a.status.usable = false ∨ a.deleted_at.isSome = true) :
      Asked env s x call s
  /-- The time of the session is up, which revokes it. -/
  | expired {clock : Clock} (hfails : call.succeeded = false)
    (hclock : clock.utcnow = call.op.utcnow)
      (hexpired : sessionExpired call.op.utcnow x = true) :
      Asked env s x call (s.setSessions (sessionById x.id) (revoke clock.utcnow (str "EXPIRED")))
  /-- The session is good. -/
  | used {clock : Clock} (hok : call.succeeded = true) (hclock : clock.utcnow = call.op.utcnow)
      (hunrevoked : x.revoked_at = none) (hlive : sessionExpired call.op.utcnow x = false) :
      Asked env s x call (activityStore env.settings clock x s)

section Asked

variable {env : Env} {s s' : Store} {x : Session} {call : Call}

/-- The row of a token that is not revoked is found, with its account. -/
theorem sessionOf_of_mem {settings : Settings} {crypto : Crypto} {token : Str} {a : Account}
    (hx : x ∈ s.sessions.rows) (hhash : hashToken crypto settings token = x.token_hash)
    (hunrevoked : x.revoked_at = none) (ha : a ∈ s.accounts.rows) (hid : a.id = x.user_id) :
    sessionOf settings crypto token s = some (x, a) := by
  have hrow : s.sessions.rows.find? (byToken (hashToken crypto settings token)) = some x := by
    refine find?_of_mem sessionClash_symm (fun y z hy hz => ?_) hx ?_
    · rw [byToken] at hy hz
      simp only [Bool.and_eq_true, decide_eq_true_eq] at hy hz
      simp [sessionClash, hy.1, hz.1]
    · simp [byToken, hhash, hunrevoked]
  have hacc : s.accounts.rows.find? (fun b => b.id = x.user_id) = some a := by
    rw [← hid]
    exact byId_find ha rfl
  rw [sessionOf]
  rw [hrow, Option.bind_some, hacc]
  rfl

/-- **A call that asks for a session** is one of the three. -/
theorem asked_cases (hdb : env.settings.database_enabled = true) (h : callStep env s call s')
    (hx : x ∈ s.sessions.rows) (hasks : call.op.asksFor env x.token_hash = true) :
    Asked env s x call s' := by
  obtain ⟨op, answer⟩ := call
  cases op with
  | resolveSession clock token =>
      have hhash : hashToken env.crypto env.settings token = x.token_hash := by
        simpa [Op.asksFor] using hasks
      obtain ⟨out, hres, hends⟩ := callStep_resolveSession h
      cases hres with
      | noPool hoff =>
          rw [hdb] at hoff
          cases hoff
      | noSession _ hnone =>
          obtain ⟨hanswer, rfl⟩ := hends
          refine .refused (by rw [hanswer]; rfl) ?_
          by_cases hrevoked : x.revoked_at = none
          · refine Or.inr fun a ha hid => ?_
            rw [sessionOf_of_mem hx hhash hrevoked ha hid] at hnone
            cases hnone
          · exact Or.inl (Option.isSome_iff_ne_none.mpr hrevoked)
      | @refused y a _ hrow hbad =>
          obtain ⟨hanswer, rfl⟩ := hends
          obtain ⟨hy, ha, hid, hyhash, -⟩ := sessionOf_some hrow
          obtain rfl : y = x := token_unique hy hx (hyhash.trans hhash)
          refine .refused (by rw [hanswer]; rfl) (Or.inr fun b hb hbid => ?_)
          rw [account_unique hb ha (hbid.trans hid.symm)]
          exact hbad
      | @expired y a _ hrow _ _ hexpired =>
          obtain ⟨hanswer, rfl⟩ := hends
          obtain ⟨hy, -, -, hyhash, -⟩ := sessionOf_some hrow
          obtain rfl : y = x := token_unique hy hx (hyhash.trans hhash)
          exact .expired (by rw [hanswer]; rfl) rfl hexpired
      | @resolved y a _ hrow _ _ hlive =>
          obtain ⟨hanswer, rfl⟩ := hends
          obtain ⟨hy, -, -, hyhash, hunrevoked⟩ := sessionOf_some hrow
          obtain rfl : y = x := token_unique hy hx (hyhash.trans hhash)
          exact .used (by rw [hanswer]; rfl) rfl hunrevoked hlive
  | authenticate | revokeSession | changePassword | createUser | createAdmin | updateUser |
    unlockUser | resetPassword | revokeUserSessions => cases hasks

end Asked

-- ── How the row follows the use ───────────────────────────────────────────────────

/-- How far the row of a session is behind its use: `p` is the time of its last use, `asked`
    are the times at which it was asked for, and `x₀` is the row its login stored. -/
structure Tracks (env : Env) (x₀ : Session) (asked : List Time) (p : Time) (x : Session) :
    Prop where
  seen : x.last_seen_at ≤ p
  recent : p < x.last_seen_at + minutes 5
  lower : min (x.last_seen_at + minutes env.settings.session_idle_minutes) x₀.absolute_expires_at ≤
    x.idle_expires_at
  upper : x.idle_expires_at ≤ x.last_seen_at + minutes env.settings.session_idle_minutes
  capped : x.idle_expires_at ≤ max x₀.absolute_expires_at x₀.idle_expires_at
  revoked : x.revoked_at.isSome = true → ∃ t ∈ asked,
    x.idle_expires_at ≤ t ∨ x₀.absolute_expires_at ≤ t

/-- The session of a login is stored, tracks its use, and has its account. -/
structure Tracked (env : Env) (login : Time) (x₀ : Session) (calls : List Call) (s : Store) :
    Prop where
  row : ∃ x ∈ s.sessions.rows, Later True x₀ x ∧
    Tracks env x₀ (askTimes env x₀.token_hash calls) (lastUse env x₀.token_hash login calls) x
  owner : ∃ a ∈ s.accounts.rows, a.id = x₀.user_id ∧ a.deleted_at = none

section Tracks

variable {env : Env} {x₀ x y : Session} {asked asked' : List Time} {login p t : Time} {s s' : Store}
  {calls : List Call} {call : Call}

/-- A row with the same times, that is not revoked or was before. -/
theorem Tracks.same (h : Tracks env x₀ asked p x)
    (htimes : y.last_seen_at = x.last_seen_at ∧ y.idle_expires_at = x.idle_expires_at)
    (hrevoked : y.revoked_at.isSome = true → ∃ t ∈ asked',
      x.idle_expires_at ≤ t ∨ x₀.absolute_expires_at ≤ t) : Tracks env x₀ asked' p y := by
  obtain ⟨hseen, hidle⟩ := htimes
  refine ⟨?_, ?_, ?_, ?_, ?_, ?_⟩
  · rw [hseen]
    exact h.seen
  · rw [hseen]
    exact h.recent
  · rw [hseen, hidle]
    exact h.lower
  · rw [hseen, hidle]
    exact h.upper
  · rw [hidle]
    exact h.capped
  · rw [hidle]
    exact hrevoked

/-- A use within five minutes of the last record leaves the row as it is. -/
theorem Tracks.use (h : Tracks env x₀ asked p x) (hunrevoked : x.revoked_at = none) (hle : p ≤ t)
    (hsoon : ¬ minutes 5 ≤ t - x.last_seen_at) : Tracks env x₀ asked' t x := by
  refine ⟨Int.le_trans h.seen hle, ?_, h.lower, h.upper, h.capped, fun hrevoked => ?_⟩
  · simp only [Time] at *
    omega
  · rw [hunrevoked] at hrevoked
    cases hrevoked

/-- A later use is recorded. -/
theorem Tracks.touch (hunrevoked : x.revoked_at = none)
    (habsolute : x.absolute_expires_at = x₀.absolute_expires_at) :
    Tracks env x₀ asked' t
      (touch t (t + minutes env.settings.session_idle_minutes) x) where
  seen := Int.le_refl t
  recent := by
    show t < t + minutes 5
    exact Int.lt_add_of_pos_right t (by decide)
  lower := by
    show min (t + minutes env.settings.session_idle_minutes) x₀.absolute_expires_at ≤
      min (t + minutes env.settings.session_idle_minutes) x.absolute_expires_at
    rw [habsolute]
  upper := Int.min_le_left _ _
  capped := by
    show min (t + minutes env.settings.session_idle_minutes) x.absolute_expires_at ≤
      max x₀.absolute_expires_at x₀.idle_expires_at
    rw [habsolute]
    exact Int.le_trans (Int.min_le_right _ _) (Int.le_max_left _ _)
  revoked := by
    intro hrevoked
    rw [show (NetProbeAuthService.touch t _ x).revoked_at = x.revoked_at from rfl, hunrevoked]
      at hrevoked
    cases hrevoked

/-- A call that does not ask for the session leaves it as it is. -/
theorem Tracked.step_of_not (h : Tracked env login x₀ calls s)
    (hcall : Undisturbed env x₀ s call s')
    (hnot : call.op.asksFor env x₀.token_hash = false) :
    ∃ y ∈ s'.sessions.rows, Later True x₀ y ∧ Tracks env x₀
      (askTimes env x₀.token_hash (calls ++ [call]))
      (lastUse env x₀.token_hash login (calls ++ [call])) y := by
  obtain ⟨x, hx, hlater, htracks⟩ := h.row
  obtain ⟨y, hy, hxy⟩ := callStep_later hcall.step hx
  have htimes := hxy.times (by rw [hlater.token_hash, hnot]; exact Bool.false_ne_true)
  refine ⟨y, hy, hlater.trans (hxy.mono fun _ => trivial), ?_⟩
  rw [askTimes_append_of_not hnot, lastUse_append_of_not (by rw [hnot]; rfl)]
  refine htracks.same htimes fun hrevoked => ?_
  by_cases hbefore : x.revoked_at = none
  · -- nobody else revokes it
    have hafter := hcall.unrevoked hnot (fun z hz hid => ?_) y hy (hxy.id.trans hlater.id)
    · rw [hafter] at hrevoked
      cases hrevoked
    · rw [session_unique hz hx (hid.trans hlater.id.symm)]
      exact hbefore
  · exact htracks.revoked (Option.isSome_iff_ne_none.mpr hbefore)

/-- A call that asks for the session uses it, finds it expired, or is refused. -/
theorem Tracked.step_of_asks (hdb : env.settings.database_enabled = true)
    (h : Tracked env login x₀ calls s) (hcall : callStep env s call s')
    (hasks : call.op.asksFor env x₀.token_hash = true)
    (hle : lastUse env x₀.token_hash login calls ≤ call.op.utcnow) :
    ∃ y ∈ s'.sessions.rows, Later True x₀ y ∧ Tracks env x₀
      (askTimes env x₀.token_hash (calls ++ [call]))
      (lastUse env x₀.token_hash login (calls ++ [call])) y := by
  obtain ⟨x, hx, hlater, htracks⟩ := h.row
  rw [askTimes_append_of_asks hasks]
  cases asked_cases hdb hcall hx (by rw [hlater.token_hash, hasks]) with
  | refused hfails hwhy =>
      rw [lastUse_append_of_not (by rw [hasks, hfails]; rfl)]
      refine ⟨x, hx, hlater, htracks.same ⟨rfl, rfl⟩ fun hrevoked => ?_⟩
      obtain ⟨t, ht, hup⟩ := htracks.revoked hrevoked
      exact ⟨t, List.mem_append_left _ ht, hup⟩
  | @expired clock hfails hclock hexpired =>
      rw [lastUse_append_of_not (by rw [hasks, hfails]; rfl)]
      refine ⟨revoke clock.utcnow (str "EXPIRED") x,
        (mem_setSessions revoke_keeps).mpr ⟨x, hx, by simp [sessionById]⟩,
        hlater.trans (later_revoke x), htracks.same ⟨rfl, rfl⟩ fun _ => ?_⟩
      refine ⟨call.op.utcnow, List.mem_append_right _ (List.mem_singleton.mpr rfl), ?_⟩
      rw [← hlater.absolute]
      simpa [sessionExpired] using hexpired
  | @used clock hok hclock hunrevoked hlive =>
      rw [lastUse_append_of_use hasks hok]
      rw [activityStore]
      split
      · rw [hclock]
        exact ⟨_, (mem_setSessions touch_keeps).mpr ⟨x, hx, if_pos (by simp [sessionById])⟩,
          hlater.trans (later_touch x trivial), Tracks.touch hunrevoked hlater.absolute⟩
      · rename_i hsoon
        rw [hclock] at hsoon
        exact ⟨x, hx, hlater, htracks.use hunrevoked hle hsoon⟩

/-- The account of the session stays. -/
theorem Tracked.owner_step (h : Tracked env login x₀ calls s) (hcall : callStep env s call s') :
    ∃ a ∈ s'.accounts.rows, a.id = x₀.user_id ∧ a.deleted_at = none := by
  obtain ⟨a, ha, hid, hdeleted⟩ := h.owner
  obtain ⟨b, hb, hab⟩ := (call_follows hcall).account a ha
  exact ⟨b, hb, hab.id.trans hid, hab.deleted_at.trans hdeleted⟩

/-- The last use is not after a call that asks for the session. -/
theorem lastUse_le (hasks : call.op.asksFor env x₀.token_hash = true)
    (htimes : (login :: askTimes env x₀.token_hash (calls ++ [call])).Pairwise (· ≤ ·)) :
    lastUse env x₀.token_hash login calls ≤ call.op.utcnow := by
  rw [askTimes_append_of_asks hasks, ← List.cons_append, List.pairwise_append] at htimes
  exact htimes.2.2 _ lastUse_mem _ (List.mem_singleton.mpr rfl)

/-- **The step lemma.** -/
theorem Tracked.step (hdb : env.settings.database_enabled = true)
    (h : Tracked env login x₀ calls s) (hcall : Undisturbed env x₀ s call s')
    (htimes : (login :: askTimes env x₀.token_hash (calls ++ [call])).Pairwise (· ≤ ·)) :
    Tracked env login x₀ (calls ++ [call]) s' := by
  refine ⟨?_, h.owner_step hcall.step⟩
  cases hasks : call.op.asksFor env x₀.token_hash with
  | true => exact h.step_of_asks hdb hcall.step hasks (lastUse_le hasks htimes)
  | false => exact h.step_of_not hcall hasks

end Tracks

-- ── From the login on ─────────────────────────────────────────────────────────────

section Lifetime

variable {env : Env} {s₀ s₁ s s' : Store} {login call : Call} {calls : List Call} {r : LoginResult}
  {x₀ : Session}

/-- The database is on if a login returned. -/
theorem database_of_login (h : callStep env s₀ login s₁)
    (hanswer : login.answer = .ok (.login (some r))) : env.settings.database_enabled = true := by
  obtain ⟨op, answer⟩ := login
  dsimp only at hanswer
  subst hanswer
  cases op with
  | authenticate clock draw scan username password client_ip user_agent =>
      by_contra hoff
      have hraise :
          (Op.authenticate clock draw scan username password client_ip user_agent).prog env =
          .raise .runtimeError := by
        show answering (withPool env.settings _) _ = _
        rw [withPool_of_disabled hoff]
        rfl
      have hresult := h.1
      dsimp only at hresult
      rw [hraise] at hresult
      cases hresult
  | resolveSession | revokeSession | changePassword | createUser | createAdmin | updateUser |
    unlockUser | resetPassword | revokeUserSessions =>
      obtain ⟨a, ha⟩ := result_answering h.1
      cases ha

/-- The row a login stores. -/
structure StoredBy (env : Env) (login : Call) (r : LoginResult) (x : Session) : Prop where
  id : x.id = r.context.session_id
  user_id : x.user_id = r.context.user_id
  last_seen : x.last_seen_at = login.op.utcnow
  idle : x.idle_expires_at = login.op.utcnow + minutes env.settings.session_idle_minutes
  absolute : x.absolute_expires_at = login.op.utcnow +
    hours (if r.context.role = .ADMIN then env.settings.admin_session_absolute_hours
      else env.settings.session_absolute_hours)
  unrevoked : x.revoked_at = none

/-- A login that returns has found the account of its context, and has stored its session. -/
theorem login_session (h : callStep env s₀ login s₁)
    (hanswer : login.answer = .ok (.login (some r))) :
    (∃ a ∈ s₀.accounts.rows, a.id = r.context.user_id ∧ a.role = r.context.role ∧
        a.deleted_at = none) ∧
      ∃ x ∈ s₁.sessions.rows, StoredBy env login r x := by
  obtain ⟨op, answer⟩ := login
  dsimp only at hanswer
  subst hanswer
  cases op with
  | authenticate clock draw scan username password client_ip user_agent =>
      obtain ⟨events, out, hlogin, hends⟩ := callStep_authenticate h
      cases hlogin with
      | noPool | unknownRaised | raised | taken | unknown | refused | wrongPassword => cases hends.1
      | @loggedIn found hfind husable hverify hfresh =>
          obtain ⟨hr, rfl⟩ := hends
          cases hr
          have hname := List.find?_some hfind
          rw [byUsername] at hname
          simp only [Bool.and_eq_true, Option.isNone_iff_eq_none] at hname
          refine ⟨⟨found, List.mem_of_find?_eq_some hfind, (currentUser_id _ _).symm,
            (currentUser_role _ _).symm, hname.2⟩,
              newSession env.py env.settings env.crypto clock draw
            (hashClientIp env.crypto env.settings client_ip) user_agent
            (currentUser clock.utcnow found), ?_, ⟨rfl, rfl, rfl, rfl, rfl, rfl⟩⟩
          rw [loggedInStore]
          rw [Store.addAudit_sessions, Store.alterSessions_sessions, alter_rows hfresh]
          exact List.mem_append_right _ (List.mem_singleton.mpr rfl)
  | resolveSession | revokeSession | changePassword | createUser | createAdmin | updateUser |
    unlockUser | resetPassword | revokeUserSessions =>
      obtain ⟨a, ha⟩ := result_answering h.1
      cases ha

/-- The invariant holds after the login. -/
theorem tracked_of_login (h : callStep env s₀ login s₁)
    (hanswer : login.answer = .ok (.login (some r))) (hx₀ : x₀ ∈ s₁.sessions.rows)
    (hid : x₀.id = r.context.session_id) : Tracked env login.op.utcnow x₀ [] s₁ := by
  obtain ⟨⟨a, ha, huser, -, hdeleted⟩, x, hx, hstored⟩ := login_session h hanswer
  obtain rfl : x = x₀ := session_unique hx hx₀ (hstored.id.trans hid.symm)
  refine ⟨⟨x, hx, .refl x, ?_⟩, ?_⟩
  · refine ⟨?_, ?_, ?_, ?_, Int.le_max_right _ _, fun hrevoked => ?_⟩
    · exact Int.le_of_eq hstored.last_seen
    · rw [hstored.last_seen]
      exact Int.lt_add_of_pos_right _ (by decide)
    · rw [hstored.last_seen, hstored.idle]
      exact Int.min_le_left _ _
    · rw [hstored.last_seen, hstored.idle]
    · rw [hstored.unrevoked] at hrevoked
      cases hrevoked
  · obtain ⟨b, hb, hab⟩ := (call_follows h).account a ha
    exact ⟨b, hb, hab.id.trans (huser.trans hstored.user_id.symm), hab.deleted_at.trans hdeleted⟩

/-- The invariant holds in every run that leaves the session alone. -/
theorem tracked_of_run (hlogin : callStep env s₀ login s₁)
    (hanswer : login.answer = .ok (.login (some r))) (hx₀ : x₀ ∈ s₁.sessions.rows)
    (hid : x₀.id = r.context.session_id) (hrun : Run (Undisturbed env x₀) s₁ calls s)
    (htimes : (login.op.utcnow :: askTimes env x₀.token_hash calls).Pairwise (· ≤ ·)) :
    Tracked env login.op.utcnow x₀ calls s := by
  refine hrun.invariant_of_labels (I := fun calls s =>
    (login.op.utcnow :: askTimes env x₀.token_hash calls).Pairwise (· ≤ ·) →
      Tracked env login.op.utcnow x₀ calls s) (fun calls s call s' ih hcall htimes => ?_)
    (fun _ => tracked_of_login hlogin hanswer hx₀ hid) htimes
  exact (ih (askTimes_init htimes)).step (database_of_login hlogin hanswer) hcall htimes

/-- The time of an expired session is up. -/
theorem sessionExpired_iff {t : Time} {x : Session} : sessionExpired t x = true ↔
    x.idle_expires_at ≤ t ∨ x.absolute_expires_at ≤ t := by
  rw [sessionExpired]
  rw [Bool.or_eq_true, decide_eq_true_eq, decide_eq_true_eq]

section Call

variable {t₀ : Time} {x y : Session}

/-- Up to five minutes before the idle limit of the last use, the time in the row is not up. -/
theorem Tracks.lt_idle {asked : List Time} {p t : Time} (h : Tracks env x₀ asked p x)
    (habsolute : t < x₀.absolute_expires_at)
    (hsoon : t - p ≤ minutes (env.settings.session_idle_minutes - 5)) : t < x.idle_expires_at := by
  have hrecent := h.recent
  refine Int.lt_of_lt_of_le (Int.lt_min.mpr ⟨?_, habsolute⟩) h.lower
  unfold minutes at *
  simp only [Time] at *
  omega

/-- A call that gets the session comes before both limits. -/
theorem within_limits (hdb : env.settings.database_enabled = true) (h : Tracked env t₀ x₀ calls s)
    (hcall : callStep env s call s') (hasks : call.op.asksFor env x₀.token_hash = true)
    (hok : call.succeeded = true) :
    call.op.utcnow < x₀.absolute_expires_at ∧ call.op.utcnow <
      lastUse env x₀.token_hash t₀ calls + minutes env.settings.session_idle_minutes := by
  obtain ⟨x, hx, hlater, htracks⟩ := h.row
  cases asked_cases hdb hcall hx (by rw [hlater.token_hash, hasks]) with
  | refused hfails | expired hfails =>
      rw [hok] at hfails
      cases hfails
  | used _ _ _ hlive =>
      have hnot :
          ¬ (x.idle_expires_at ≤ call.op.utcnow ∨ x.absolute_expires_at ≤ call.op.utcnow) := by
        rw [← sessionExpired_iff, hlive]
        exact Bool.false_ne_true
      obtain ⟨hidle, habsolute⟩ := not_or.mp hnot
      refine ⟨by rw [← hlater.absolute]; exact Int.not_le.mp habsolute, ?_⟩
      exact Int.lt_of_lt_of_le (Int.not_le.mp hidle)
        (Int.le_trans htracks.upper (Int.add_le_add_right htracks.seen _))

/-- A call that comes early enough gets the session. -/
theorem granted_early (hdb : env.settings.database_enabled = true) (h : Tracked env t₀ x₀ calls s)
    (hcall : Undisturbed env x₀ s call s') (hasks : call.op.asksFor env x₀.token_hash = true)
    (htimes : (t₀ :: askTimes env x₀.token_hash (calls ++ [call])).Pairwise (· ≤ ·))
    (habsolute : call.op.utcnow < x₀.absolute_expires_at)
    (hsoon : call.op.utcnow - lastUse env x₀.token_hash t₀ calls ≤
      minutes (env.settings.session_idle_minutes - 5)) : call.succeeded = true := by
  obtain ⟨x, hx, hlater, htracks⟩ := h.row
  have hidle := htracks.lt_idle habsolute hsoon
  cases asked_cases hdb hcall.step hx (by rw [hlater.token_hash, hasks]) with
  | refused _ hwhy =>
      rcases hwhy with hrevoked | hbad
      · -- it was found expired before, at a time that is not after this one
        obtain ⟨t, ht, hup⟩ := htracks.revoked hrevoked
        rw [askTimes_append_of_asks hasks, ← List.cons_append, List.pairwise_append] at htimes
        have hle : t ≤ call.op.utcnow :=
          htimes.2.2 t (List.mem_cons_of_mem _ ht) _ (List.mem_singleton.mpr rfl)
        rcases hup with hup | hup
        · exact absurd hidle (Int.not_lt.mpr (Int.le_trans hup hle))
        · exact absurd habsolute (Int.not_lt.mpr (Int.le_trans hup hle))
      · obtain ⟨a, ha, hid, hdeleted⟩ := h.owner
        rcases hbad a ha (hid.trans hlater.user_id.symm) with hbad | hbad
        · rw [hcall.active a ha hid] at hbad
          cases hbad
        · rw [hdeleted] at hbad
          cases hbad
  | expired _ _ hexpired =>
      rcases sessionExpired_iff.mp hexpired with hup | hup
      · exact absurd hidle (Int.not_lt.mpr hup)
      · rw [hlater.absolute] at hup
        exact absurd habsolute (Int.not_lt.mpr hup)
  | used hok => exact hok

/-- A call that finds the time of the session up revokes it. -/
theorem ended_when_up (hdb : env.settings.database_enabled = true) (h : Tracked env t₀ x₀ calls s)
    (hcall : Undisturbed env x₀ s call s') (hasks : call.op.asksFor env x₀.token_hash = true)
    (hx : x ∈ s.sessions.rows) (hid : x.id = x₀.id)
    (hexpired : sessionExpired call.op.utcnow x = true) (hy : y ∈ s'.sessions.rows)
    (hyid : y.id = x₀.id) : y.revoked_at.isSome = true := by
  obtain ⟨z, hz, hlater, -⟩ := h.row
  obtain rfl : x = z := session_unique hx hz (hid.trans hlater.id.symm)
  cases asked_cases hdb hcall.step hx (by rw [hlater.token_hash, hasks]) with
  | refused _ hwhy =>
      obtain rfl : y = x := session_unique hy hx (hyid.trans hid.symm)
      rcases hwhy with hrevoked | hbad
      · exact hrevoked
      · obtain ⟨a, ha, haid, hdeleted⟩ := h.owner
        rcases hbad a ha (haid.trans hlater.user_id.symm) with hbad | hbad
        · rw [hcall.active a ha haid] at hbad
          cases hbad
        · rw [hdeleted] at hbad
          cases hbad
  | expired =>
      obtain ⟨z, hz, rfl⟩ := (mem_setSessions revoke_keeps).mp hy
      split
      · rfl
      · rename_i hp
        rw [if_neg hp] at hyid
        exact absurd (hyid.trans hid.symm) (by simpa [sessionById] using hp)
  | used _ _ _ hlive =>
      rw [hexpired] at hlive
      cases hlive

/-- The recorded activity of a session does not go back. -/
theorem seen_mono (hdb : env.settings.database_enabled = true) (h : Tracked env t₀ x₀ calls s)
    (hcall : callStep env s call s')
    (htimes : (t₀ :: askTimes env x₀.token_hash (calls ++ [call])).Pairwise (· ≤ ·))
    (hx : x ∈ s.sessions.rows) (hid : x.id = x₀.id) (hy : y ∈ s'.sessions.rows)
    (hyid : y.id = x₀.id) : x.last_seen_at ≤ y.last_seen_at := by
  obtain ⟨z, hz, hlater, htracks⟩ := h.row
  obtain rfl : x = z := session_unique hx hz (hid.trans hlater.id.symm)
  cases hasks : call.op.asksFor env x₀.token_hash with
  | false =>
      obtain ⟨z, hz, hxz⟩ := callStep_later hcall hx
      obtain rfl : y = z := session_unique hy hz (hyid.trans (hid.symm.trans hxz.id.symm))
      exact Int.le_of_eq
        (hxz.times (by rw [hlater.token_hash, hasks]; exact Bool.false_ne_true)).1.symm
  | true =>
      cases asked_cases hdb hcall hx (by rw [hlater.token_hash, hasks]) with
      | refused => rw [session_unique hy hx (hyid.trans hid.symm)]
      | expired =>
          obtain ⟨z, hz, rfl⟩ := (mem_setSessions revoke_keeps).mp hy
          have hzx : z = x := session_unique hz hx (by
            rw [hid, ← hyid]
            split <;> rfl)
          rw [hzx]
          split <;> exact Int.le_refl _
      | @used clock _ hclock =>
          rw [activityStore] at hy
          split at hy
          · obtain ⟨z, hz, rfl⟩ := (mem_setSessions touch_keeps).mp hy
            have hzx : z = x := session_unique hz hx (by
              rw [hid, ← hyid]
              split <;> rfl)
            rw [hzx, if_pos (by simp [sessionById])]
            show x.last_seen_at ≤ clock.utcnow
            rw [hclock]
            exact Int.le_trans htracks.seen (lastUse_le hasks htimes)
          · rw [session_unique hy hx (hyid.trans hid.symm)]

end Call

/-- What a session promises to one more call. -/
structure Promises (env : Env) (login : Time) (x₀ : Session) (calls : List Call) (s : Store)
    (call : Call) (s' : Store) : Prop where
  /-- It is got only before both limits. -/
  within : call.op.asksFor env x₀.token_hash = true → call.succeeded = true →
    call.op.utcnow < x₀.absolute_expires_at ∧ call.op.utcnow <
      lastUse env x₀.token_hash login calls + minutes env.settings.session_idle_minutes
  /-- It is got up to five minutes before the idle limit. -/
  granted : call.op.asksFor env x₀.token_hash = true →
    call.op.utcnow < x₀.absolute_expires_at →
      call.op.utcnow - lastUse env x₀.token_hash login calls ≤
        minutes (env.settings.session_idle_minutes - 5) → call.succeeded = true
  /-- It is revoked when it is asked for and its time is up. -/
  ended : call.op.asksFor env x₀.token_hash = true → ∀ x ∈ s.sessions.rows, x.id = x₀.id →
    sessionExpired call.op.utcnow x = true →
      ∀ y ∈ s'.sessions.rows, y.id = x₀.id → y.revoked_at.isSome = true
  /-- Its recorded activity does not go back. -/
  seen : ∀ x ∈ s.sessions.rows, x.id = x₀.id → ∀ y ∈ s'.sessions.rows, y.id = x₀.id →
    x.last_seen_at ≤ y.last_seen_at
  /-- Its idle time stays below the absolute time, or where the login set it. -/
  capped : ∀ y ∈ s'.sessions.rows, y.id = x₀.id →
    y.idle_expires_at ≤ max x₀.absolute_expires_at x₀.idle_expires_at

/-- **How long a session lasts.** After a login, in every run that leaves the session and its
    account alone, at times that do not decrease. -/
theorem session_lifetime (hlogin : callStep env s₀ login s₁)
    (hanswer : login.answer = .ok (.login (some r))) (hx₀ : x₀ ∈ s₁.sessions.rows)
    (hid : x₀.id = r.context.session_id) (hrun : Run (Undisturbed env x₀) s₁ calls s)
    (hcall : Undisturbed env x₀ s call s')
    (htimes : (login.op.utcnow :: askTimes env x₀.token_hash (calls ++ [call])).Pairwise (· ≤ ·)) :
    Promises env login.op.utcnow x₀ calls s call s' := by
  have hdb := database_of_login hlogin hanswer
  have hbefore : (login.op.utcnow :: askTimes env x₀.token_hash calls).Pairwise (· ≤ ·) :=
    askTimes_init htimes
  have htracked := tracked_of_run hlogin hanswer hx₀ hid hrun hbefore
  refine ⟨fun hasks hok => ?_, fun hasks habsolute hsoon => ?_,
    fun hasks x hx hxid hexpired y hy hyid => ?_,
    fun x hx hxid y hy hyid => ?_, fun y hy hyid => ?_⟩
  · exact within_limits hdb htracked hcall.step hasks hok
  · exact granted_early hdb htracked hcall hasks htimes habsolute hsoon
  · exact ended_when_up hdb htracked hcall hasks hx hxid hexpired hy hyid
  · exact seen_mono hdb htracked hcall.step htimes hx hxid hy hyid
  · obtain ⟨z, hz, hlater, htracks⟩ := (htracked.step hdb hcall htimes).row
    rw [session_unique hy hz (hyid.trans hlater.id.symm)]
    exact htracks.capped

end Lifetime

/-- The session of `sampleStart` is used four minutes after its login, and asked for after
    twenty: the activity of the first use was not recorded, and the general result grants the
    second. -/
theorem session_lasts_twenty_minutes :
    ((sampleResolve (minutes 20)).on .sample (((sampleResolve (minutes 4)).prog .sample).perform
      (performAll .sample sampleStart .empty))).succeeded = true := by
  have hrow : ∃ x ∈ (performAll .sample sampleStart .empty).sessions.rows,
      x.id = 7 ∧ x.user_id = 1 ∧
      x.token_hash = hashToken (Env.sample).crypto (Env.sample).settings (str "token") ∧
      x.absolute_expires_at = 1 + hours 4 := by decide +kernel
  obtain ⟨x₀, hx₀, hid, huser, hhash, habsolute⟩ := hrow
  have hasks : ∀ now, (sampleResolve now).asksFor .sample x₀.token_hash = true := by
    intro now
    exact decide_eq_true hhash.symm
  have hundisturbed : ∀ now s, (∀ a ∈ s.accounts.rows, a.id = 1 → a.status = .ACTIVE) →
      Undisturbed .sample x₀ s ((sampleResolve now).on .sample s)
        (((sampleResolve now).prog .sample).perform s) := by
    intro now s hactive
    refine ⟨callStep_on _ _ _, fun a ha haid => hactive a ha (haid.trans huser), fun hnot => ?_⟩
    rw [show ((sampleResolve now).on Env.sample s).op = sampleResolve now from rfl, hasks] at hnot
    cases hnot
  have hpromises := session_lifetime (r := sampleResult)
    (callStep_on .sample (sampleLogin 1 (str "root") (str "correct horse battery"))
      (performAll .sample (sampleStart.take 2) .empty)) (by decide +kernel) hx₀ hid
    (Run.single (hundisturbed (minutes 4) _ (by decide +kernel)))
    (hundisturbed (minutes 20) _ (by decide +kernel)) (by rw [hhash]; decide +kernel)
  refine hpromises.granted (hasks _) ?_ ?_
  · rw [habsolute]
    decide
  · rw [hhash]
    decide +kernel

end NetProbeAccountRuns
