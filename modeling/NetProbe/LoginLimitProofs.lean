import Mathlib.Algebra.Order.Group.Int
import NetProbe.SessionRunsProofs
import NetProbe.LockoutProofs

/-!
# The limit on login attempts

Section 7 of the account specification: calls of `authenticate` on one account, one after
another, at times that do not decrease, with nothing else touching the account.

The row of the account shows a `Guard` (`Shows`): the failures counted so far, or the lock
with its expiry.  `guard_step` is the simulation: whatever a call does, the guard makes the
matching attempt - the automatic unlock, the failure that locks and the login that sets the
counter back are each inside one call.  The law of the window is then the one of the lockout
guard; what a call does at a lock (`locked_is_idle`) and with the right password
(`right_password_logs_in`) is read off the ways through `authenticate`.
-/

namespace NetProbeLoginLimit

open NetProbePyText NetProbeConfig NetProbeCoreAuth NetProbeAccountStore NetProbeAuthService
open NetProbeAccountRuns UniqueTable Transaction Transaction.Txn LabelledRun Lockout

-- ── Calls of authenticate ─────────────────────────────────────────────────────────

/-- One call of `authenticate`, with the events and the answer it had. -/
structure LoginCall where
  clock : Clock
  draw : LoginDraw
  scan : Scan Session
  password : Str
  client_ip : Str
  user_agent : Option Str
  events : List AuthEvent
  answer : Except AuthError (Option LoginResult)

namespace LoginCall

/-- The program of a call under a name. -/
def prog (env : Env) (username : Str) (x : LoginCall) : AuthTxn (Option LoginResult) :=
  authenticate env.py env.settings env.crypto x.clock x.draw x.scan username x.password x.client_ip
    x.user_agent

/-- `now` of a call. -/
def now (x : LoginCall) : Time := x.clock.utcnow

/-- The call returned a session. -/
def LogsIn (x : LoginCall) : Prop := ∃ r, x.answer = .ok (some r)

instance (x : LoginCall) : Decidable x.LogsIn :=
  match h : x.answer with
  | .ok (some r) => .isTrue ⟨r, h⟩
  | .ok none => .isFalse fun ⟨r, hr⟩ => by
      rw [h] at hr
      cases hr
  | .error e => .isFalse fun ⟨r, hr⟩ => by
      rw [h] at hr
      cases hr

/-- How often the call verified a wrong password against the hash of the account. -/
def wrongVerifications (user_id : Uuid) (x : LoginCall) : Nat :=
  x.events.count (.verify (some user_id) false)

/-- The call as an attempt at the guard. -/
def attempt (user_id : Uuid) (x : LoginCall) : Time × Outcome :=
  (x.now,
    if AuthEvent.verify (some user_id) false ∈ x.events then .wrong
    else match x.answer with
      | .ok (some _) => .right
      | _ => .idle)

@[simp] theorem now_eq (x : LoginCall) : x.now = x.clock.utcnow := rfl

@[simp] theorem attempt_fst (user_id : Uuid) (x : LoginCall) : (x.attempt user_id).1 = x.now := rfl

end LoginCall

/-- One call, run alone. -/
def loginStep (env : Env) (username : Str) (s : Store) (x : LoginCall) (s' : Store) : Prop :=
  (x.prog env username).trace s = x.events ∧ (x.prog env username).result s = x.answer ∧
    s' = (x.prog env username).perform s

/-- The wrong passwords verified from `start` until before `finish`. -/
def wrongBetween (user_id : Uuid) (start finish : Time) (xs : List LoginCall) : Nat :=
  ((xs.filter fun x => start ≤ x.now ∧ x.now < finish).map (·.wrongVerifications user_id)).sum

-- ── The guard of an account ───────────────────────────────────────────────────────

/-- `max(1, login_max_failures)` -/
def maxFailures (settings : Settings) : Nat := max 1 settings.login_max_failures.toNat

/-- The lock period. -/
def lockPeriod (settings : Settings) : Time := minutes settings.login_lock_minutes

instance (settings : Settings) : NeZero (maxFailures settings) :=
  ⟨Nat.ne_of_gt (Nat.le_max_left 1 _)⟩

/-- The row shows the state of the guard. -/
def Shows {K : Nat} : Guard K Time → Account → Prop
  | .counting n, a => a.status.usable = true ∧ a.failed_login_count = ((n : Nat) : Int)
  | .shut expiry, a => a.status = .LOCKED ∧ a.locked_until = some expiry

/-- The row is that of the account, with a hash of its password, and not deleted. -/
structure IsAccount (env : Env) (user_id : Uuid) (username password : Str) (a : Account) :
    Prop where
  id : a.id = user_id
  username : a.username = username
  deleted_at : a.deleted_at = none
  password_hash : ∃ salt, a.password_hash = hashPassword env.crypto env.settings salt password

/-- The store has the account, and its row shows the guard. -/
def Guarded (env : Env) (user_id : Uuid) (username password : Str) (s : Store)
    (g : Guard (maxFailures env.settings) Time) : Prop :=
  ∃ a ∈ s.accounts.rows, IsAccount env user_id username password a ∧ Shows g a

/-- An account nobody has failed to log in to. -/
structure Untried (a : Account) : Prop where
  status : a.status = .ACTIVE ∨ a.status = .PENDING
  failed_login_count : a.failed_login_count = 0
  locked_until : a.locked_until = none

section Rows

variable {env : Env} {user_id : Uuid} {username password : Str} {a found : Account} {now : Time}
  {s : Store} {g : Guard (maxFailures env.settings) Time}

theorem untried_shows (h : Untried a) :
    Shows (.counting 0 : Guard (maxFailures env.settings) Time) a := by
  refine ⟨?_, by rw [h.failed_login_count]; rfl⟩
  rcases h.status with hs | hs <;> rw [hs] <;> rfl

/-- The row after the automatic unlock is in the store after it. -/
theorem currentUser_mem (h : found ∈ s.accounts.rows) :
    currentUser now found ∈ (unlockStore now found s).accounts.rows := by
  cases hl : lockExpired now found with
  | true =>
      rw [currentUser_of_expired hl, unlockStore_of_expired hl]
      exact (mem_setAccount expireLock_keeps).mpr ⟨found, h, by rw [if_pos rfl]⟩
  | false =>
      rw [currentUser_of_live hl, unlockStore_of_live hl]
      exact h

/-- A row on which the login goes on shows a guard that is not shut at the time, with the
    failures that count. -/
theorem failures_of_usable (h : Shows g a) (husable : (currentUser now a).status.usable = true) :
    ∃ n : Nat, g.failures now = some n ∧ (currentUser now a).failed_login_count = (n : Int) := by
  cases g with
  | counting n =>
      have hlock : lockExpired now a = false := by
        rw [lockExpired]
        cases hs : a.status with
        | LOCKED =>
            have := h.1
            rw [hs] at this
            cases this
        | ACTIVE | PENDING | DISABLED => rfl
      refine ⟨n, rfl, ?_⟩
      rw [currentUser_of_live hlock]
      exact h.2
  | shut expiry =>
      cases hlock : lockExpired now a with
      | true =>
          refine ⟨0, failures_shut.mpr ⟨?_, rfl⟩, ?_⟩
          · rw [lockExpired] at hlock
            rw [h.1, h.2] at hlock
            simpa using hlock
          · rw [currentUser_of_expired hlock]
            rfl
      | false =>
          rw [currentUser_of_live hlock, h.1] at husable
          cases husable

/-- A failure locks the account exactly when it is the last one the guard allows. -/
theorem locks_iff {settings : Settings} {n : Nat} (h : a.failed_login_count = (n : Int)) :
    locks settings a = true ↔ ¬ n + 1 < maxFailures settings := by
  rw [locks, maxFailures]
  rw [h, decide_eq_true_iff]
  omega

/-- The row after a failure shows the guard after one. -/
theorem shows_failure {clock : Clock} {n : Nat} (hn : a.failed_login_count = (n : Int))
    (husable : a.status.usable = true) :
    Shows (Guard.fail (K := maxFailures env.settings) (lockPeriod env.settings) clock.utcnow n)
      (failureRow env.settings clock a a) := by
  rw [Guard.fail, failureRow, recordFailure]
  by_cases hlast : n + 1 < maxFailures env.settings
  · have hlocks : ¬ locks env.settings a = true := fun hl => (locks_iff hn).mp hl hlast
    rw [dif_pos hlast, if_neg hlocks, if_neg hlocks]
    exact ⟨husable, by simp [hn]⟩
  · have hlocks : locks env.settings a = true := (locks_iff hn).mpr hlast
    rw [dif_neg hlast, if_pos hlocks, if_pos hlocks]
    exact ⟨rfl, rfl⟩

/-- The row after a login shows the guard set back. -/
theorem shows_login {new_hash : Str} {txNow : Time} (husable : a.status.usable = true) :
    Shows (.counting 0 : Guard (maxFailures env.settings) Time)
      (recordLogin new_hash now txNow a) := by
  refine ⟨?_, rfl⟩
  rw [recordLogin]
  dsimp only
  split
  · rfl
  · exact husable

theorem IsAccount.unlocked (h : IsAccount env user_id username password a) :
    IsAccount env user_id username password (currentUser now a) := by
  cases hl : lockExpired now a with
  | true =>
      rw [currentUser_of_expired hl]
      exact ⟨h.id, h.username, h.deleted_at, h.password_hash⟩
  | false =>
      rw [currentUser_of_live hl]
      exact h

/-- The row a login finds is that of the account. -/
theorem IsAccount.find (h : IsAccount env user_id username password a) (ha : a ∈ s.accounts.rows) :
    s.accounts.rows.find? (byUsername username) = some a :=
  byUsername_find ha h.username h.deleted_at

end Rows

-- ── What a call does to the guard ─────────────────────────────────────────────────

section Calls

variable {env : Env} {user_id : Uuid} {username password : Str} {s s' : Store} {x : LoginCall}
  {g : Guard (maxFailures env.settings) Time}

/-- A call takes one of the ways through `authenticate`. -/
theorem loginStep_login (h : loginStep env username s x s') :
    ∃ out, Login env.py env.settings env.crypto x.clock x.draw x.scan username
      x.password x.client_ip
      x.user_agent s x.events out ∧ Ends s out x.answer s' := by
  obtain ⟨htrace, hresult, rfl⟩ := h
  refine ⟨(x.prog env username).eval s, ?_, ?_⟩
  · rw [← htrace]
    exact authenticate_login ..
  · rw [← hresult]
    exact ends_eval _ _

theorem attempt_wrong_iff :
    (x.attempt user_id).2 = .wrong ↔ AuthEvent.verify (some user_id) false ∈ x.events := by
  rw [LoginCall.attempt]
  by_cases h : AuthEvent.verify (some user_id) false ∈ x.events
  · simp [h]
  · simp only [h, if_false, iff_false]
    split <;> simp

/-- A call verifies at most one password. -/
theorem wrongVerifications_le_one (h : loginStep env username s x s') :
    x.wrongVerifications user_id ≤ 1 := by
  obtain ⟨out, hlogin, -⟩ := loginStep_login h
  rw [LoginCall.wrongVerifications]
  generalize x.events = events at hlogin
  cases hlogin with
  | wrongPassword hfind husable hverify =>
      rw [List.count_cons, List.count_cons, List.count_nil]
      simp only [reduceCtorEq, beq_iff_eq, if_false]
      split <;> decide
  | noPool | unknown | unknownRaised | refused | raised | taken | loggedIn => simp

theorem wrongVerifications_eq (h : loginStep env username s x s') :
    x.wrongVerifications user_id = if (x.attempt user_id).2 = .wrong then 1 else 0 := by
  have hle : x.wrongVerifications user_id ≤ 1 := wrongVerifications_le_one h
  have hpos := List.count_pos_iff (a := AuthEvent.verify (some user_id) false) (l := x.events)
  rw [LoginCall.wrongVerifications] at hle ⊢
  by_cases hmem : AuthEvent.verify (some user_id) false ∈ x.events
  · rw [if_pos (attempt_wrong_iff.mpr hmem)]
    have := hpos.mpr hmem
    omega
  · rw [if_neg (fun hw => hmem (attempt_wrong_iff.mp hw))]
    exact List.count_eq_zero.mpr hmem

/-- Only the password of the account verifies. -/
theorem right_password {given : Str} {a : Account} (hexact : ExactVerify env.crypto env.settings)
    (h : IsAccount env user_id username password a)
    (hverify : verifyPassword env.crypto env.settings given a.password_hash = some true) :
    given = password := by
  obtain ⟨salt, hsalt⟩ := h.password_hash
  rw [hsalt, hexact salt given password] at hverify
  simpa using hverify

/-- The hash the account keeps after a login with its password is one of its password. -/
theorem hash_newHash {salt : Str} {a : Account} (h : IsAccount env user_id username password a) :
    ∃ salt', newHash env.settings env.crypto salt password a =
      hashPassword env.crypto env.settings salt' password := by
  rw [newHash]
  split
  · exact ⟨salt, rfl⟩
  · exact h.password_hash

/-- **The simulation.** Whatever a call does, the guard makes the matching attempt. -/
theorem guard_step (hexact : ExactVerify env.crypto env.settings)
    (h : Guarded env user_id username password s g)
    (hstep : loginStep env username s x s') :
    ∃ g', Attempt (lockPeriod env.settings) g (x.attempt user_id) g' ∧
      Guarded env user_id username password s' g' := by
  obtain ⟨a, ha, hacc, hshows⟩ := h
  have hfound := hacc.find ha
  obtain ⟨clock, draw, scan, given, client_ip, user_agent, events, answer⟩ := x
  obtain ⟨out, hlogin, hends⟩ := loginStep_login hstep
  dsimp only at hlogin hends
  cases hlogin with
  | noPool hdb =>
      obtain ⟨rfl, rfl⟩ := hends
      exact ⟨g, .idle g _, a, ha, hacc, hshows⟩
  | unknown hfind | unknownRaised hfind =>
      rw [hfound] at hfind
      cases hfind
  | refused hfind hlock husable =>
      obtain ⟨rfl, rfl⟩ := hends
      exact ⟨g, .idle g _, a, ha, hacc, hshows⟩
  | raised hfind husable hverify =>
      obtain ⟨rfl, rfl⟩ := hends
      exact ⟨g, .idle g _, a, ha, hacc, hshows⟩
  | taken hfind husable hverify htaken =>
      obtain ⟨rfl, rfl⟩ := hends
      refine ⟨g, ?_, a, ha, hacc, hshows⟩
      have hattempt := Attempt.idle (L := lockPeriod env.settings) g clock.utcnow
      simpa [LoginCall.attempt] using hattempt
  | @wrongPassword found hfind husable hverify =>
      obtain ⟨rfl, rfl⟩ := hends
      obtain rfl : a = found := Option.some.inj (hfound.symm.trans hfind)
      obtain ⟨n, hfailures, hcount⟩ := failures_of_usable hshows husable
      refine ⟨.fail (lockPeriod env.settings) clock.utcnow n, ?_,
        failureRow env.settings clock (currentUser clock.utcnow a)
          (currentUser clock.utcnow a), ?_, ?_,
        shows_failure hcount husable⟩
      · have hattempt := Attempt.wrong (L := lockPeriod env.settings) hfailures
        simpa [LoginCall.attempt, LoginCall.now, hacc.id] using hattempt
      · exact (mem_setAccount failureRow_keeps).mpr ⟨_, currentUser_mem ha, by rw [if_pos rfl]⟩
      · exact ⟨hacc.unlocked.id, hacc.unlocked.username, hacc.unlocked.deleted_at,
          hacc.unlocked.password_hash⟩
  | @loggedIn found hfind husable hverify hfresh =>
      obtain ⟨rfl, rfl⟩ := hends
      obtain rfl : a = found := Option.some.inj (hfound.symm.trans hfind)
      obtain ⟨n, hfailures, -⟩ := failures_of_usable hshows husable
      obtain rfl := right_password hexact hacc hverify
      refine ⟨.counting 0, ?_, recordLogin (newHash env.settings env.crypto draw.salt given
        (currentUser clock.utcnow a)) clock.utcnow clock.txNow (currentUser clock.utcnow a), ?_, ?_,
        shows_login husable⟩
      · have hattempt := Attempt.right (L := lockPeriod env.settings) hfailures
        simpa [LoginCall.attempt] using hattempt
      · exact (mem_setAccount recordLogin_keeps).mpr ⟨_, currentUser_mem ha, by rw [if_pos rfl]⟩
      · exact ⟨hacc.unlocked.id, hacc.unlocked.username, hacc.unlocked.deleted_at,
          hash_newHash hacc.unlocked⟩

/-- **At a lock.** A call before the lock runs out verifies nothing and changes neither accounts
    nor sessions. -/
theorem locked_is_idle {a : Account} {expiry : Time} (hstep : loginStep env username s x s')
    (ha : a ∈ s.accounts.rows) (hacc : IsAccount env user_id username password a)
    (hlocked : a.status = .LOCKED) (huntil : a.locked_until = some expiry)
    (hearly : x.now < expiry) :
    (∀ u matched, AuthEvent.verify u matched ∉ x.events) ∧ s'.accounts = s.accounts ∧
      s'.sessions = s.sessions := by
  have hfound := hacc.find ha
  have hblocked : (currentUser x.clock.utcnow a).status.usable = false := by
    have hlock : lockExpired x.clock.utcnow a = false := by
      rw [lockExpired]
      rw [huntil]
      simpa using fun _ => hearly
    rw [currentUser_of_live hlock, hlocked]
    rfl
  obtain ⟨out, hlogin, hends⟩ := loginStep_login hstep
  generalize x.events = events at hlogin ⊢
  cases hlogin with
  | noPool hdb =>
      rw [hends.2]
      exact ⟨by simp, rfl, rfl⟩
  | unknown hfind | unknownRaised hfind =>
      rw [hfound] at hfind
      cases hfind
  | refused hfind hlock husable =>
      rw [hends.2]
      exact ⟨by simp, rfl, rfl⟩
  | raised hfind husable | wrongPassword hfind husable | taken hfind husable
  | loggedIn hfind husable =>
      obtain rfl := Option.some.inj (hfound.symm.trans hfind)
      rw [hblocked] at husable
      cases husable

/-- The id and the token drawn for the session of a call are not in use. -/
def FreshDraw (env : Env) (s : Store) (x : LoginCall) : Prop :=
  ∀ y ∈ s.sessions.rows, y.id ≠ x.draw.session_id ∧
    y.token_hash ≠ hashToken env.crypto env.settings x.draw.token

/-- **The right password.** Unless the account is locked, it logs in and sets the counter
    back. -/
theorem right_password_logs_in (hdb : env.settings.database_enabled = true)
    (hexact : ExactVerify env.crypto env.settings) (hstep : loginStep env username s x s')
    {a : Account} (ha : a ∈ s.accounts.rows) (hacc : IsAccount env user_id username x.password a)
    (hshows : Shows g a) (hfresh : FreshDraw env s x)
    (hopen : a.status = .LOCKED → ∃ expiry, a.locked_until = some expiry ∧ expiry ≤ x.now) :
    x.LogsIn ∧ ∃ b ∈ s'.accounts.rows, b.id = user_id ∧ b.failed_login_count = 0 ∧
      b.locked_until = none := by
  have hfound := hacc.find ha
  have husable : lockExpired x.clock.utcnow a = true ∨ a.status.usable = true := by
    cases g with
    | counting n => exact Or.inr hshows.1
    | shut expiry =>
        obtain ⟨until', huntil, hle⟩ := hopen hshows.1
        refine Or.inl ?_
        rw [lockExpired]
        rw [huntil]
        simpa [hshows.1] using hle
  obtain ⟨salt, hsalt⟩ := hacc.password_hash
  have hright : verifyPassword env.crypto env.settings x.password a.password_hash = some true := by
    rw [hsalt, hexact, decide_eq_true rfl]
  obtain ⟨out, hlogin, hends⟩ := loginStep_login hstep
  generalize x.events = events at hlogin
  cases hlogin with
  | noPool hdb' =>
      rw [hdb] at hdb'
      cases hdb'
  | unknown hfind | unknownRaised hfind =>
      rw [hfound] at hfind
      cases hfind
  | refused hfind hlock hrefused =>
      obtain rfl := Option.some.inj (hfound.symm.trans hfind)
      rw [hlock, hrefused] at husable
      rcases husable with h | h <;> cases h
  | raised hfind _ hverify | wrongPassword hfind _ hverify =>
      obtain rfl := Option.some.inj (hfound.symm.trans hfind)
      rw [hright] at hverify
      cases hverify
  | taken hfind _ hverify htaken =>
      refine absurd (accepts_append_iff.mpr fun y hy => ?_) htaken
      obtain ⟨z, hz, rfl⟩ := (mem_setSessions revoke_keeps).mp hy
      rw [setAccount_sessions, unlockStore_sessions] at hz
      obtain ⟨hid, htoken⟩ := hfresh z hz
      split <;> simp [sessionClash, newSession, revoke, hid, htoken]
  | @loggedIn found hfind _ hverify hfresh' =>
      obtain rfl : a = found := Option.some.inj (hfound.symm.trans hfind)
      refine ⟨⟨_, hends.1⟩, recordLogin (newHash env.settings env.crypto x.draw.salt x.password
        (currentUser x.clock.utcnow a)) x.clock.utcnow x.clock.txNow (currentUser x.clock.utcnow a),
        ?_, hacc.unlocked.id, rfl, rfl⟩
      rw [hends.2]
      exact (mem_setAccount recordLogin_keeps).mpr ⟨_, currentUser_mem ha, by rw [if_pos rfl]⟩

end Calls

-- ── Runs of calls ─────────────────────────────────────────────────────────────────

section Runs

variable {env : Env} {user_id : Uuid} {username password : Str} {s s' : Store} {xs : List LoginCall}
  {g : Guard (maxFailures env.settings) Time}

/-- The wrong passwords verified in a window are the failures of the guard in it. -/
theorem wrongBetween_eq {L t : Time}
    (h : ∀ x ∈ xs, x.wrongVerifications user_id = if (x.attempt user_id).2 = .wrong then 1 else 0) :
    wrongBetween user_id t (t + L) xs = wrongsIn L t (xs.map (·.attempt user_id)) := by
  induction xs with
  | nil => rfl
  | cons x xs ih =>
      have hx := h x (List.mem_cons_self ..)
      have hxs := ih fun y hy => h y (List.mem_cons_of_mem _ hy)
      rw [wrongBetween, wrongsIn] at hxs ⊢
      rw [List.map_cons, List.countP_cons, ← hxs, List.filter_cons]
      by_cases hwindow : t ≤ x.now ∧ x.now < t + L
      · rw [if_pos (decide_eq_true hwindow), List.map_cons, List.sum_cons, hx, Nat.add_comm]
        congr 1
        by_cases hwrong : (x.attempt user_id).2 = .wrong
        · rw [if_pos hwrong, if_pos (by simpa [hwrong] using hwindow)]
        · rw [if_neg hwrong, if_neg (by simp [hwrong])]
      · have houtside : ¬ ((x.attempt user_id).2 = .wrong ∧ t ≤ x.now ∧ x.now < t + L) :=
          fun hall => hwindow hall.2
        rw [if_neg (by rwa [decide_eq_true_iff]), if_neg (by rwa [decide_eq_true_iff])]
        rfl

/-- The calls drive the guard. -/
theorem guard_run (hexact : ExactVerify env.crypto env.settings)
    (h : Guarded env user_id username password s g) (hrun : Run (loginStep env username) s xs s') :
    ∃ g', Run (Attempt (lockPeriod env.settings)) g (xs.map (·.attempt user_id)) g' ∧
      Guarded env user_id username password s' g' :=
  hrun.simulate (R := Guarded env user_id username password)
    (fun _ _ _ _ hR hstep => guard_step hexact hR hstep) h

/-- Calls that do not log in verify at most `maxFailures` wrong passwords in any window of the
    lock period. -/
theorem wrong_window (hexact : ExactVerify env.crypto env.settings)
    (h : Guarded env user_id username password s g) (hrun : Run (loginStep env username) s xs s')
    (htimes : (xs.map (·.now)).Pairwise (· ≤ ·)) (hfail : ∀ x ∈ xs, ¬ x.LogsIn) (t : Time) :
    wrongBetween user_id t (t + lockPeriod env.settings) xs ≤ maxFailures env.settings := by
  obtain ⟨g', hguard, -⟩ := guard_run hexact h hrun
  rw [wrongBetween_eq (hrun.all_labels fun _ _ _ hstep => wrongVerifications_eq hstep)]
  refine window_le hguard ?_ ?_ t
  · exact List.pairwise_map.mpr (List.pairwise_map.mp htimes)
  · intro l hl hright
    obtain ⟨x, hx, rfl⟩ := List.mem_map.mp hl
    refine hfail x hx ?_
    rw [LoginCall.attempt] at hright
    dsimp only at hright
    split at hright
    · cases hright
    · split at hright
      · rename_i r hanswer
        exact ⟨r, hanswer⟩
      · cases hright

/-- **The limit on login attempts.** -/
theorem brute_force_bound {salt : Str} {a₀ : Account} (hdb : env.settings.database_enabled = true)
    (hexact : ExactVerify env.crypto env.settings) (ha₀ : a₀ ∈ s.accounts.rows)
    (hid : a₀.id = user_id) (hname : a₀.username = username) (hlive : a₀.deleted_at = none)
    (hhash : a₀.password_hash = hashPassword env.crypto env.settings salt password)
    (huntried : Untried a₀) (hrun : Run (loginStep env username) s xs s')
    (htimes : (xs.map (·.now)).Pairwise (· ≤ ·)) :
    (∀ x s'', loginStep env username s' x s'' → ∀ a ∈ s'.accounts.rows, a.id = user_id →
        a.status = .LOCKED → (∃ expiry, a.locked_until = some expiry ∧ x.now < expiry) →
          (∀ u matched, AuthEvent.verify u matched ∉ x.events) ∧ s''.accounts = s'.accounts ∧
            s''.sessions = s'.sessions) ∧
      (∀ before between after, xs = before ++ between ++ after → (∀ x ∈ between, ¬ x.LogsIn) →
        ∀ t, wrongBetween user_id t
          (t + lockPeriod env.settings) between ≤ maxFailures env.settings) ∧
      ∀ x s'', loginStep env username s' x s'' → x.password = password → FreshDraw env s' x →
        ∀ a ∈ s'.accounts.rows, a.id = user_id →
          (a.status = .LOCKED → ∃ expiry, a.locked_until = some expiry ∧ expiry ≤ x.now) →
            x.LogsIn ∧ ∃ b ∈ s''.accounts.rows, b.id = user_id ∧ b.failed_login_count = 0 ∧
              b.locked_until = none := by
  have hstart : Guarded env user_id username password s (.counting 0) :=
    ⟨a₀, ha₀, ⟨hid, hname, hlive, salt, hhash⟩, untried_shows huntried⟩
  obtain ⟨g', -, a', ha', hacc, hshows⟩ := guard_run hexact hstart hrun
  refine ⟨?_, ?_, ?_⟩
  · rintro x s'' hstep a ha haid hlocked ⟨expiry, huntil, hearly⟩
    obtain rfl : a = a' := account_unique ha ha' (haid.trans hacc.id.symm)
    exact locked_is_idle hstep ha hacc hlocked huntil hearly
  · rintro before between after rfl hfail t
    obtain ⟨s₂, hrun₂, -⟩ := hrun.split
    obtain ⟨s₁, hrun₁, hbetween⟩ := hrun₂.split
    obtain ⟨g₁, -, hguarded⟩ := guard_run hexact hstart hrun₁
    refine wrong_window hexact hguarded hbetween ?_ hfail t
    rw [List.map_append, List.map_append] at htimes
    exact (List.pairwise_append.mp (List.pairwise_append.mp htimes).1).2.1
  · rintro x s'' hstep rfl hfresh a ha haid hopen
    obtain rfl : a = a' := account_unique ha ha' (haid.trans hacc.id.symm)
    exact right_password_logs_in hdb hexact hstep ha hacc hshows hfresh hopen

end Runs

-- ── A run of calls ────────────────────────────────────────────────────────────────

/-- The call with the events and the answer it has on a store. -/
def LoginCall.on (env : Env) (username : Str) (s : Store) (x : LoginCall) : LoginCall :=
  { x with events := (x.prog env username).trace s, answer := (x.prog env username).result s }

theorem loginStep_on (env : Env) (username : Str) (s : Store) (x : LoginCall) :
    loginStep env username s (x.on env username s) ((x.prog env username).perform s) :=
  ⟨rfl, rfl, rfl⟩

/-- Calls, one after another. -/
def loginsOn (env : Env) (username : Str) : List LoginCall → Store → List LoginCall
  | [], _ => []
  | x :: xs, s => x.on env username s :: loginsOn env username xs ((x.prog env username).perform s)

/-- The store after calls. -/
def afterLogins (env : Env) (username : Str) : List LoginCall → Store → Store
  | [], s => s
  | x :: xs, s => afterLogins env username xs ((x.prog env username).perform s)

theorem run_loginsOn (env : Env) (username : Str) (xs : List LoginCall) (s : Store) :
    Run (loginStep env username) s (loginsOn env username xs s)
      (afterLogins env username xs s) := by
  induction xs generalizing s with
  | nil => exact .nil s
  | cons x xs ih => exact .cons (loginStep_on env username s x) (ih _)

/-- A call for testing. -/
def sampleCall (now : Time) (password : Str) : LoginCall :=
  ⟨⟨now, now, now⟩, ⟨str "token", str "csrf", 7, []⟩, .asInserted, password,
    str "192.0.2.7", none, [], .ok none⟩

/-- One account. -/
def sampleRoot : Store := performAll .sample (sampleStart.take 1) .empty

/-- As many wrong passwords as lock the account. -/
def wrongCalls : List LoginCall := [1, 2, 3, 4, 5].map fun now => sampleCall now (str "guess")

/-- The store with the account locked. -/
def lockedRoot : Store := afterLogins .sample (str "root") wrongCalls sampleRoot

/-- The general result on five wrong passwords, a right one too early and a right one in time. -/
theorem brute_force_bound_sample :
    (∀ t, wrongBetween 1 t (t + 900000000)
      (loginsOn .sample (str "root") wrongCalls sampleRoot) ≤ 5) ∧
      (∀ u matched, AuthEvent.verify u matched ∉
        ((sampleCall 6 (str "correct horse battery")).on .sample (str "root") lockedRoot).events) ∧
      ((sampleCall 900000005 (str "correct horse battery")).on .sample (str "root")
        lockedRoot).LogsIn := by
  have hrow : ∃ a ∈ sampleRoot.accounts.rows, a.id = 1 ∧ a.username = str "root" ∧
      a.deleted_at = none ∧
      a.password_hash = hashPassword Env.sample.crypto Env.sample.settings []
        (str "correct horse battery") ∧
      (a.status = .ACTIVE ∨ a.status = .PENDING) ∧ a.failed_login_count = 0 ∧
      a.locked_until = none := by decide +kernel
  obtain ⟨a₀, ha₀, hid, hname, hlive, hhash, hstatus, hcount, huntil⟩ := hrow
  have hlocked : ∃ a ∈ lockedRoot.accounts.rows, a.id = 1 ∧ a.status = .LOCKED ∧
      a.locked_until = some 900000005 := by decide +kernel
  obtain ⟨a, ha, haid, hastatus, hauntil⟩ := hlocked
  obtain ⟨hidle, hwindow, hlogsIn⟩ :=
    brute_force_bound rfl (plain_exactVerify _) ha₀ hid hname hlive
    hhash ⟨hstatus, hcount, huntil⟩ (run_loginsOn .sample (str "root") wrongCalls sampleRoot)
    (by decide +kernel)
  refine ⟨fun t => ?_, ?_, ?_⟩
  · exact hwindow [] _ [] (List.append_nil _).symm (by decide +kernel) t
  · exact (hidle _ _ (loginStep_on ..) a ha haid hastatus ⟨_, hauntil, by decide⟩).1
  · exact (hlogsIn _ _ (loginStep_on ..) rfl (by unfold FreshDraw; decide +kernel) a ha haid
      fun _ => ⟨_, hauntil, by decide⟩).1

end NetProbeLoginLimit
