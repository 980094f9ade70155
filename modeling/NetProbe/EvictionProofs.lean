import NetProbe.SessionCapProofs

/-!
# Which sessions a login sacrifices

A login at its limit revokes the oldest unrevoked sessions of the account.  A session whose
times are up stays unrevoked until its token is presented again, so the unrevoked sessions
are live ones and dead ones, and the age of a session says nothing about which of the two it
is.  `login_spares_live_iff` says exactly when a login revokes a live session although fewer
sessions than the limit are live: when a live session is among the oldest ones.  If the dead
sessions are older than the live ones, no live session is lost (`oldest_dead_of_older`).
-/

namespace NetProbeAccountRuns

open NetProbePyText NetProbeConfig NetProbeCoreAuth NetProbeAccountStore NetProbeAuthService
open NetProbeAdminUsers UniqueTable Transaction Transaction.Txn LabelledRun

-- ── Live sessions ─────────────────────────────────────────────────────────────────

/-- The session is not revoked and neither of its times is up. -/
def liveAt (now : Time) (x : Session) : Bool :=
  x.revoked_at.isNone && now < x.idle_expires_at && now < x.absolute_expires_at

/-- The sessions of an account that are live. -/
def liveSessions (user_id : Uuid) (now : Time) (s : Store) : List Session :=
  s.sessions.rows.filter fun x => x.user_id = user_id && liveAt now x

/-- The session was revoked with this reason. -/
def RevokedFor (reason : Str) (s' : Store) (x : Session) : Prop :=
  ∃ y ∈ s'.sessions.rows, y.id = x.id ∧ y.revoked_at.isSome = true ∧ y.revoke_reason = some reason

/-- A live session is revoked for want of room only if `limit` sessions were live. -/
def SparesLive (limit : Int) (user_id : Uuid) (now : Time) (s s' : Store) : Prop :=
  ∀ x ∈ liveSessions user_id now s, RevokedFor (str "MAX_SESSIONS") s' x →
    limit ≤ (liveSessions user_id now s).length

/-- The unrevoked sessions of an account that are in the way of one more, the oldest first. -/
def inTheWay (scan : Scan Session) (limit : Int) (user_id : Uuid) (s : Store) : List Session :=
  (orderBy scan (·.created_at) (unrevokedSessions user_id s)).take
    (((unrevokedSessions user_id s).length : Int) + 1 - limit).toNat

/-- What is live here is what `resolve_session` does not find expired. -/
theorem liveAt_iff {now : Time} {x : Session} :
    liveAt now x = true ↔ x.revoked_at = none ∧ sessionExpired now x = false := by
  rw [liveAt, sessionExpired]
  simp only [Bool.and_eq_true, decide_eq_true_eq, Option.isNone_iff_eq_none, Bool.or_eq_false_iff,
    decide_eq_false_iff_not, Int.not_le, and_assoc]

section Live

variable {u : Uuid} {now : Time} {s : Store} {x : Session}

theorem mem_liveSessions :
    x ∈ liveSessions u now s ↔ x ∈ s.sessions.rows ∧ x.user_id = u ∧ liveAt now x = true := by
  rw [liveSessions]
  rw [List.mem_filter, Bool.and_eq_true, decide_eq_true_eq]

theorem mem_of_inTheWay {scan : Scan Session} {limit : Int} (h : x ∈ inTheWay scan limit u s) :
    x ∈ s.sessions.rows ∧ x.user_id = u ∧ x.revoked_at = none := by
  have hx : x ∈ unrevokedSessions u s := mem_orderBy.mp (List.mem_of_mem_take h)
  obtain ⟨hrow, hp⟩ := List.mem_filter.mp hx
  rw [unrevokedOf] at hp
  simp only [Bool.and_eq_true, decide_eq_true_eq, Option.isNone_iff_eq_none] at hp
  exact ⟨hrow, hp⟩

end Live

-- ── What a login revokes ──────────────────────────────────────────────────────────

section Eviction

variable {env : Env} {clock : Clock} {draw : LoginDraw} {scan : Scan Session}
  {username password client_ip : Str} {client_key user_agent : Option Str} {user : Account}
  {r : LoginResult} {s s' : Store} {x : Session}

/-- The session rows a login leaves: those of the evicted ids are revoked, and one is new. -/
theorem loggedInStore_sessions
    (hfresh :
      (evictedStore env.settings env.crypto clock draw scan password user s).sessions.Accepts
      (· ++ [newSession env.py env.settings env.crypto clock draw client_key user_agent user])) :
    (loggedInStore env.py env.settings env.crypto clock draw scan client_key
      user_agent password user
        s).sessions.rows =
      updateWhere (fun x => (evicted env.settings
          (orderBy scan (·.created_at) (unrevokedSessions user.id s))).contains x.id)
        (revoke clock.utcnow (str "MAX_SESSIONS")) s.sessions.rows ++
      [newSession env.py env.settings env.crypto clock draw client_key user_agent user] := by
  rw [loggedInStore]
  rw [Store.addAudit_sessions, Store.alterSessions_sessions, alter_rows hfresh]
  rw [evictedStore]
  rw [setSessions_rows revoke_keeps]
  rfl

/-- An unrevoked session is revoked by a login exactly when its id is among the evicted ones. -/
theorem revokedFor_iff_evicted (hx : x ∈ s.sessions.rows) (hunrevoked : x.revoked_at = none)
    (hfresh :
      (evictedStore env.settings env.crypto clock draw scan password user s).sessions.Accepts
      (· ++ [newSession env.py env.settings env.crypto clock draw client_key user_agent user])) :
    RevokedFor (str "MAX_SESSIONS") (loggedInStore env.py env.settings env.crypto clock draw scan
        client_key user_agent password user s) x ↔
      x.id ∈ evicted env.settings (orderBy scan (·.created_at) (unrevokedSessions user.id s)) := by
  rw [RevokedFor]
  rw [loggedInStore_sessions hfresh]
  constructor
  · rintro ⟨y, hy, hid, hrevoked, -⟩
    rcases List.mem_append.mp hy with hold | hnew
    · obtain ⟨z, hz, rfl⟩ := mem_updateWhere.mp hold
      split at hid
      · rename_i hevicted
        have hzx : z.id = x.id := hid
        rw [← hzx]
        exact List.contains_iff_mem.mp hevicted
      · rename_i hkept
        rw [if_neg hkept, session_unique hz hx hid, hunrevoked] at hrevoked
        cases hrevoked
    · rw [List.mem_singleton.mp hnew] at hrevoked
      cases hrevoked
  · intro hevicted
    refine ⟨revoke clock.utcnow (str "MAX_SESSIONS") x, List.mem_append_left _ ?_, rfl, rfl, rfl⟩
    exact mem_updateWhere.mpr ⟨x, hx, if_pos (List.contains_iff_mem.mpr hevicted)⟩

/-- The evicted ids are those of the sessions in the way. -/
theorem evicted_eq_inTheWay {settings : Settings} {u : Uuid} :
    evicted settings (orderBy scan (·.created_at) (unrevokedSessions u s)) =
      (inTheWay scan settings.max_sessions_per_user u s).map (·.id) := by
  have hlength : (orderBy scan (·.created_at) (unrevokedSessions u s)).length =
      (unrevokedSessions u s).length := by
    rw [orderBy]
    rw [List.length_insertionSort, (scan.perm _).length_eq]
  have hexcess : excess settings (orderBy scan (·.created_at) (unrevokedSessions u s)) =
      (((unrevokedSessions u s).length : Int) + 1 - settings.max_sessions_per_user).toNat := by
    rw [excess]
    rw [hlength]
    congr 1
    omega
  rw [evicted, inTheWay]
  rw [hexcess]

/-- What a login revokes for want of room: of the unrevoked sessions of its account those that
    are in the way. -/
theorem login_revokes_iff
    (h : callStep env s ⟨.authenticate clock draw scan username password client_ip user_agent,
      .ok (.login (some r))⟩ s')
    (hx : x ∈ s.sessions.rows) (hunrevoked : x.revoked_at = none) :
    RevokedFor (str "MAX_SESSIONS") s' x ↔
      x ∈ inTheWay scan env.settings.max_sessions_per_user r.context.user_id s := by
  obtain ⟨events, out, hlogin, hends⟩ := callStep_authenticate h
  cases hlogin with
  | noPool | unknownRaised | raised | taken | unknown | refused | wrongPassword => cases hends.1
  | @loggedIn found hfind husable hverify hfresh =>
      obtain ⟨hr, rfl⟩ := hends
      cases hr
      -- the automatic unlock changes no session
      have hsame : (unlockStore clock.utcnow found s).sessions = s.sessions := unlockStore_sessions
      have hread : unrevokedSessions (currentUser clock.utcnow found).id
          (unlockStore clock.utcnow found s) =
          unrevokedSessions (currentUser clock.utcnow found).id s := by
        unfold unrevokedSessions
        rw [hsame]
      rw [revokedFor_iff_evicted (hsame ▸ hx) hunrevoked hfresh, hread, evicted_eq_inTheWay]
      constructor
      · intro hid
        obtain ⟨y, hy, hyx⟩ := List.mem_map.mp hid
        have heq : y = x := session_unique (mem_of_inTheWay hy).1 hx hyx
        exact heq ▸ hy
      · exact fun hway => List.mem_map_of_mem hway

/-- **When a login spares live sessions.** A login revokes a live session only if as many
    sessions as the limit are live — exactly when that many are live, or no live session is
    among the oldest unrevoked ones that are in its way. -/
theorem login_spares_live_iff
    (h : callStep env s ⟨.authenticate clock draw scan username password client_ip user_agent,
      .ok (.login (some r))⟩ s') :
    SparesLive env.settings.max_sessions_per_user r.context.user_id clock.utcnow s s' ↔
      env.settings.max_sessions_per_user ≤ (liveSessions r.context.user_id clock.utcnow s).length ∨
        ∀ x ∈ inTheWay scan env.settings.max_sessions_per_user r.context.user_id s,
          liveAt clock.utcnow x = false := by
  constructor
  · intro hspares
    by_cases hfull : env.settings.max_sessions_per_user ≤
        (liveSessions r.context.user_id clock.utcnow s).length
    · exact Or.inl hfull
    · refine Or.inr fun x hx => ?_
      obtain ⟨hrow, huser, hunrevoked⟩ := mem_of_inTheWay hx
      cases hlive : liveAt clock.utcnow x with
      | false => rfl
      | true =>
          have hgone := (login_revokes_iff h hrow hunrevoked).mpr hx
          exact absurd (hspares x (mem_liveSessions.mpr ⟨hrow, huser, hlive⟩) hgone) hfull
  · rintro (hfull | hdead) x hx hgone
    · exact hfull
    · obtain ⟨hrow, -, hlive⟩ := mem_liveSessions.mp hx
      have hway := (login_revokes_iff h hrow (liveAt_iff.mp hlive).1).mp hgone
      rw [hdead x hway] at hlive
      cases hlive

end Eviction

-- ── Dead sessions that are older ──────────────────────────────────────────────────

section Older

variable {u : Uuid} {now : Time} {s : Store} {limit : Int}

/-- The dead unrevoked sessions and the live ones are all there are. -/
theorem length_dead :
    ((unrevokedSessions u s).filter fun x => !liveAt now x).length + (liveSessions u now s).length =
      (unrevokedSessions u s).length := by
  have hlive : liveSessions u now s = (unrevokedSessions u s).filter fun x => liveAt now x := by
    rw [liveSessions, unrevokedSessions]
    rw [List.filter_filter]
    refine List.filter_congr fun x _ => ?_
    cases hl : liveAt now x with
    | false => simp
    | true => simp [unrevokedOf, (liveAt_iff.mp hl).1]
  rw [hlive, Nat.add_comm, ← List.length_append]
  exact (List.filter_append_perm (fun x => liveAt now x) (unrevokedSessions u s)).length_eq

/-- If every dead session is older than every live one, the sessions in the way of a login are
    dead as long as fewer than the limit are live. -/
theorem oldest_dead_of_older (scan : Scan Session)
    (holder : ∀ x ∈ unrevokedSessions u s, ∀ y ∈ unrevokedSessions u s, liveAt now x = false →
      liveAt now y = true → x.created_at < y.created_at)
    (hroom : ((liveSessions u now s).length : Int) < limit) :
    ∀ x ∈ inTheWay scan limit u s, liveAt now x = false := by
  intro x hx
  cases hlive : liveAt now x with
  | false => rfl
  | true =>
      exfalso
      have hsorted := oldest_first scan (unrevokedSessions u s)
      have hperm :
          (orderBy scan (·.created_at) (unrevokedSessions u s)).Perm (unrevokedSessions u s) :=
        (List.perm_insertionSort _ _).trans (scan.perm _)
      rw [inTheWay] at hx
      generalize orderBy scan (·.created_at) (unrevokedSessions u s) = old at hx hsorted hperm
      generalize hk : (((unrevokedSessions u s).length : Int) + 1 - limit).toNat = k at hx
      have hshort : (old.take k).length ≤ k := List.length_take_le k old
      obtain ⟨before, after, htake⟩ := List.append_of_mem hx
      have hold : old = before ++ x :: (after ++ old.drop k) := by
        conv_lhs => rw [← List.take_append_drop k old, htake]
        simp
      rw [htake, List.length_append, List.length_cons] at hshort
      -- what comes after a live session is not older, so the dead ones all come before it
      have hafter : ∀ y ∈ x :: (after ++ old.drop k), liveAt now y = true := by
        intro y hy
        rw [hold] at hsorted hperm
        rcases List.mem_cons.mp hy with rfl | hlater
        · exact hlive
        · cases hdead : liveAt now y with
          | true => rfl
          | false =>
              have hle := (List.pairwise_cons.mp (List.pairwise_append.mp hsorted).2.1).1 y hlater
              have hlt := holder y (hperm.mem_iff.mp (List.mem_append_right _ hy)) x
                (hperm.mem_iff.mp (List.mem_append_right _ (List.mem_cons_self ..))) hdead hlive
              exact absurd hle (Int.not_le.mpr hlt)
      have hdead : ((unrevokedSessions u s).filter fun x => !liveAt now x).length ≤
          before.length := by
        have hnone : (x :: (after ++ old.drop k)).filter (fun x => !liveAt now x) = [] :=
          List.filter_eq_nil_iff.mpr fun y hy => by simp [hafter y hy]
        rw [← (hperm.filter _).length_eq, hold, List.filter_append, hnone, List.append_nil]
        exact List.length_filter_le _ _
      have hall := @length_dead u now s
      omega

end Older

-- ── A dead session that is newer ──────────────────────────────────────────────────

/-- A deployment that allows two sessions. -/
def Env.twoSessions : Env :=
  { Env.sample with settings := { Env.sample.settings with max_sessions_per_user := 2 } }

/-- A login of the administrator with the session `id`. -/
def loginWith (now : Time) (token : Str) (id : Uuid) : Op :=
  .authenticate ⟨now, now, now⟩ ⟨token, str "csrf", id, []⟩ .asInserted (str "root")
    (str "correct horse battery") (str "192.0.2.7") none

/-- Two logins; the older session stays in use, the newer one is left alone. -/
def olderInUse : Store :=
  performAll .twoSessions (sampleStart.take 1 ++ [loginWith 0 (str "older") 7,
    loginWith (minutes 1) (str "newer") 8,
      .resolveSession ⟨minutes 25, minutes 25, minutes 25⟩ (str "older")])
    .empty

/-- What a third login returns. -/
def thirdResult : LoginResult :=
  ⟨⟨1, 9, str "root", str "root", .ADMIN, true⟩, str "third", str "csrf"⟩

/-- The third login, after the newer session has expired. -/
theorem third_login :
    callStep .twoSessions olderInUse
      ⟨loginWith (minutes 40) (str "third") 9, .ok (.login (some thirdResult))⟩
      (((loginWith (minutes 40) (str "third") 9).prog .twoSessions).perform olderInUse) :=
  ⟨by decide +kernel, rfl⟩

/-- **A login revokes the one live session.** Two sessions are allowed and one is live, the
    older one, which is still in use. -/
theorem live_session_sacrificed :
    ¬ ∀ (env : Env) (clock : Clock) (draw : LoginDraw) (scan : Scan Session)
        (username password client_ip : Str) (user_agent : Option Str) (s s' : Store)
        (r : LoginResult),
        1 ≤ env.settings.max_sessions_per_user →
        callStep env s ⟨.authenticate clock draw scan username password client_ip user_agent,
          .ok (.login (some r))⟩ s' →
        SparesLive env.settings.max_sessions_per_user r.context.user_id clock.utcnow s s' := by
  intro h
  have hspares := h _ _ _ _ _ _ _ _ _ _ _ (by decide) third_login
  have hlive : ∃ x ∈ liveSessions 1 (minutes 40) olderInUse,
      x ∈ inTheWay .asInserted 2 1 olderInUse ∧
      (liveSessions 1 (minutes 40) olderInUse).length = 1 := by decide +kernel
  obtain ⟨x, hx, hway, hone⟩ := hlive
  obtain ⟨hrow, -, hl⟩ := mem_liveSessions.mp hx
  have hfull := hspares x hx ((login_revokes_iff third_login hrow (liveAt_iff.mp hl).1).mpr hway)
  have hlt : ¬ (2 : Int) ≤ ((liveSessions 1 (minutes 40) olderInUse).length : Int) := by
    rw [hone]
    decide
  exact hlt hfull

/-- The general result on the third login while the newer session is live as well. -/
theorem full_login_spares :
    SparesLive 2 1 (minutes 30) olderInUse
      (((loginWith (minutes 30) (str "third") 9).prog .twoSessions).perform olderInUse) := by
  have hcall : callStep .twoSessions olderInUse
      ⟨loginWith (minutes 30) (str "third") 9, .ok (.login (some thirdResult))⟩
      (((loginWith (minutes 30) (str "third") 9).prog .twoSessions).perform olderInUse) :=
    ⟨by decide +kernel, rfl⟩
  exact (login_spares_live_iff hcall).mpr (Or.inl (by decide +kernel))

end NetProbeAccountRuns
