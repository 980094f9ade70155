import NetProbe.AdminSessionProofs
import NetProbe.LoginLimitProofs

/-!
# The lock fields of an account

`status`, `failed_login_count` and `locked_until` belong together: they are the state of the
account's lock.  `LockFields` is that state on its own and `LockFields.after` what each kind
of operation does to it; `call_lock` is the refinement: every operation of the service does to
the three columns of every row what the event it is (`lockEvent`) does to the lock.

* `lock_holds_iff`: after a patch to `LOCKED`, and until an unlock or a patch to another status,
  the account stays locked and every login is refused exactly if no login finds an expiry that
  is up, as the patch leaves `locked_until` as it was (`patched_lock_opens`).
* `lock_fields_coherent`: an account that can be used has fewer failures than lock it, and an
  expiry only while it is locked, if no patch of the status leaves a counter or an expiry of a
  lock behind (`patched_fields_incoherent`).
-/

namespace NetProbeLockFields

open NetProbePyText NetProbeConfig NetProbeCoreAuth NetProbeAccountStore NetProbeAuthService
open NetProbeAdminUsers NetProbeAccountRuns NetProbeLoginLimit UniqueTable Transaction
open Transaction.Txn LabelledRun

-- ── The lock of an account ────────────────────────────────────────────────────────

/-- The three columns of the lock. -/
structure LockFields where
  status : AccountStatus
  failures : Int
  expiry : Option Time
  deriving DecidableEq, Repr

/-- What an operation is to the lock of one account. -/
inductive LockEvent where
  | idle
  | wrong (now : Time)
  | right (now : Time)
  | patch (status : AccountStatus)
  | unlock
  deriving DecidableEq, Repr

/-- The wrong passwords an event is. -/
def LockEvent.tried : LockEvent → Nat
  | .wrong _ => 1
  | _ => 0

namespace LockFields

/-- No failure and no lock. -/
def cleared : LockFields := ⟨.ACTIVE, 0, none⟩

/-- The lock has run out. -/
def expired (now : Time) (l : LockFields) : Bool :=
  l.status = .LOCKED && l.expiry.any fun t => t ≤ now

/-- A lock that has run out opens by itself. -/
def opened (now : Time) (l : LockFields) : LockFields := if l.expired now then cleared else l

/-- One failure more. -/
def fail (settings : Settings) (now : Time) (l : LockFields) : LockFields :=
  if settings.login_max_failures ≤ l.failures + 1 then
    ⟨.LOCKED, l.failures + 1, some (now + minutes settings.login_lock_minutes)⟩
  else ⟨l.status, l.failures + 1, none⟩

/-- A login. -/
def logIn (l : LockFields) : LockFields :=
  ⟨if l.status = .PENDING then .ACTIVE else l.status, 0, none⟩

/-- The lock after an event. -/
def after (settings : Settings) (l : LockFields) : LockEvent → LockFields
  | .idle => l
  | .wrong now => (l.opened now).fail settings now
  | .right now => (l.opened now).logIn
  | .patch status => { l with status := status }
  | .unlock => cleared

/-- The event can happen: a password is looked at only if the account can be used. -/
def Possible (l : LockFields) : LockEvent → Prop
  | .wrong now | .right now => (l.opened now).status.usable = true
  | _ => True

/-- An expiry belongs to a lock, and an account that can be used has failures to spare. -/
structure Coherent (settings : Settings) (l : LockFields) : Prop where
  expiry : l.expiry ≠ none → l.status = .LOCKED
  failures : l.status.usable = true → l.failures < settings.login_max_failures

/-- A patch of the status leaves no expiry behind at another status than `LOCKED`, and no
    failure at a status that makes the account usable. -/
def Clean (l : LockFields) : LockEvent → Prop
  | .patch status => (status ≠ .LOCKED → l.expiry = none) ∧
      (status.usable = true → l.status.usable = false → l.failures = 0)
  | _ => True

variable {settings : Settings} {l : LockFields} {e : LockEvent} {now : Time}

theorem expired_of_usable (h : l.status.usable = true) : l.expired now = false := by
  rw [expired]
  cases hs : l.status with
  | LOCKED =>
      rw [hs] at h
      cases h
  | ACTIVE | PENDING | DISABLED => rfl

theorem opened_of_usable (h : l.status.usable = true) : l.opened now = l := by
  rw [opened]
  rw [expired_of_usable h]
  rfl

/-- A lock opens at an attempt only if it has run out. -/
theorem opened_of_blocked (h : l.status.usable = false)
    (hopen : (l.opened now).status.usable = true) :
    l.opened now = cleared := by
  rw [opened] at hopen ⊢
  split
  · rfl
  · rename_i hexpired
    rw [if_neg hexpired, h] at hopen
    cases hopen

/-- The failure that locks, and one that is spared. -/
theorem fail_of_last (h : settings.login_max_failures ≤ l.failures + 1) :
    l.fail settings now =
      ⟨.LOCKED, l.failures + 1, some (now + minutes settings.login_lock_minutes)⟩ := by
  rw [LockFields.fail]
  rw [if_pos h]

theorem fail_of_spare (h : l.failures + 1 < settings.login_max_failures) :
    l.fail settings now = ⟨l.status, l.failures + 1, none⟩ := by
  rw [LockFields.fail]
  rw [if_neg (Int.not_le.mpr h)]

theorem fail_failures : (l.fail settings now).failures = l.failures + 1 := by
  rcases Int.lt_or_le (l.failures + 1) settings.login_max_failures with hspare | hlast
  · rw [fail_of_spare hspare]
  · rw [fail_of_last hlast]

/-- **The step lemma.** -/
theorem Coherent.after (h : l.Coherent settings) (hK : 1 ≤ settings.login_max_failures)
    (hpossible : l.Possible e) (hclean : l.Clean e) : (l.after settings e).Coherent settings := by
  have hcleared : cleared.Coherent settings := ⟨fun hne => absurd rfl hne, fun _ => hK⟩
  cases e with
  | idle => exact h
  | wrong now =>
      unfold LockFields.after
      dsimp only
      rcases Int.lt_or_le ((l.opened now).failures + 1) settings.login_max_failures
        with hspare | hlast
      · rw [fail_of_spare hspare]
        exact ⟨fun hne => absurd rfl hne, fun _ => hspare⟩
      · rw [fail_of_last hlast]
        exact ⟨fun _ => rfl, fun husable => by cases husable⟩
  | right now => exact ⟨fun hne => absurd rfl hne, fun _ => hK⟩
  | patch status =>
      refine ⟨fun hne => ?_, fun husable => ?_⟩
      · by_contra hother
        exact hne (hclean.1 hother)
      · cases hbefore : l.status.usable with
        | true => exact h.failures hbefore
        | false =>
            show l.failures < _
            rw [hclean.2 husable hbefore]
            exact hK
  | unlock => exact hcleared

/-- The failures an event leaves that makes the account usable: at most its own. -/
theorem failures_of_made_usable (hblocked : l.status.usable = false)
    (husable : (l.after settings e).status.usable = true) (hpossible : l.Possible e)
    (hclean : l.Clean e) :
    (l.after settings e).failures = (e.tried : Int) := by
  cases e with
  | idle =>
      rw [LockFields.after, hblocked] at husable
      cases husable
  | wrong now =>
      unfold LockFields.after
      dsimp only
      rw [opened_of_blocked hblocked hpossible, fail_failures]
      rfl
  | right now => rfl
  | patch status => exact hclean.2 husable hblocked
  | unlock => rfl

/-- The first failure locks only if one is enough. -/
theorem fail_cleared :
    (cleared.fail settings now).status = .LOCKED ↔ settings.login_max_failures ≤ 1 := by
  have hzero : cleared.failures + 1 = 1 := rfl
  rcases Int.lt_or_le (cleared.failures + 1) settings.login_max_failures with hspare | hlast
  · rw [fail_of_spare hspare]
    exact iff_of_false (by decide) (Int.not_le.mpr (hzero ▸ hspare))
  · rw [fail_of_last hlast]
    exact iff_of_true rfl (hzero ▸ hlast)

/-- A wrong password on an account that can be used. -/
theorem after_wrong (h : l.status.usable = true) :
    l.after settings (.wrong now) = l.fail settings now := by
  unfold LockFields.after
  dsimp only
  rw [opened_of_usable h]

end LockFields

-- ── The columns of a row ──────────────────────────────────────────────────────────

/-- The lock of an account. -/
def lockFields (a : Account) : LockFields := ⟨a.status, a.failed_login_count, a.locked_until⟩

/-- The event a call is to the lock of a row: a login under its name verifies the password if the
    account can be used, and what is rolled back is nothing. -/
def lockEvent (env : Env) (call : Call) (a : Account) : LockEvent :=
  match call.op, call.answer with
  | .authenticate clock _ _ username password _ _, .ok _ =>
      if a.username = username ∧ a.deleted_at = none ∧
          (currentUser clock.utcnow a).status.usable = true then
        match verifyPassword env.crypto env.settings password a.password_hash with
        | some true => .right clock.utcnow
        | some false => .wrong clock.utcnow
        | none => .idle
      else .idle
  | .updateUser _ _ user_id payload, .ok _ =>
      if a.id = user_id then
        match payload.status with
        | some status => .patch status
        | none => .idle
      else .idle
  | .unlockUser _ _ user_id, .ok _ => if a.id = user_id then .unlock else .idle
  | _, _ => .idle

/-- A row before and after a call. -/
structure LockStep (env : Env) (call : Call) (a b : Account) : Prop where
  id : b.id = a.id
  username : b.username = a.username
  deleted_at : b.deleted_at = a.deleted_at
  fields : lockFields b = (lockFields a).after env.settings (lockEvent env call a)

/-- The row keeps its lock. -/
structure SameLock (a b : Account) : Prop where
  id : b.id = a.id
  username : b.username = a.username
  deleted_at : b.deleted_at = a.deleted_at
  fields : lockFields b = lockFields a

section Rows

variable {env : Env} {s s' : Store} {call : Call} {a b found : Account} {now : Time}

theorem SameLock.refl (a : Account) : SameLock a a := ⟨rfl, rfl, rfl, rfl⟩

theorem SameLock.trans {c : Account} (h : SameLock a b) (h' : SameLock b c) : SameLock a c :=
  ⟨h'.id.trans h.id, h'.username.trans h.username, h'.deleted_at.trans h.deleted_at,
    h'.fields.trans h.fields⟩

/-- A row whose lock is not concerned. -/
theorem SameLock.idle (h : SameLock a b) (hidle : lockEvent env call a = .idle) :
    LockStep env call a b :=
  ⟨h.id, h.username, h.deleted_at, by rw [hidle]; exact h.fields⟩

theorem expired_lockFields : (lockFields a).expired now = lockExpired now a := rfl

/-- The row the login goes on with has the lock that has opened. -/
theorem lockFields_currentUser : lockFields (currentUser now a) = (lockFields a).opened now := by
  rw [currentUser, LockFields.opened]
  rw [expired_lockFields]
  split <;> rfl

theorem lockFields_failureRow {settings : Settings} {clock : Clock} {user : Account} :
    lockFields (failureRow settings clock user user) =
      (lockFields user).fail settings clock.utcnow := by
  have hcount : (lockFields user).failures = user.failed_login_count := rfl
  rcases Int.lt_or_le ((lockFields user).failures + 1) settings.login_max_failures
    with hspare | hlast
  · rw [LockFields.fail_of_spare hspare]
    rw [hcount, ← Int.not_le] at hspare
    simp [lockFields, failureRow, recordFailure, locks, hspare]
  · rw [LockFields.fail_of_last hlast]
    rw [hcount] at hlast
    simp [lockFields, failureRow, recordFailure, locks, hlast]

theorem lockFields_recordLogin {new_hash : Str} {txNow : Time} :
    lockFields (recordLogin new_hash now txNow a) = (lockFields a).logIn := rfl

/-- The rows after the automatic unlock of one account and a change of it. -/
theorem mem_unlocked_set {f : Account → Account} (hf : KeepsKeys f)
    (hfound : found ∈ s.accounts.rows)
    (ha : a ∈ s.accounts.rows) :
    (if a.id = found.id then f (currentUser now found) else a) ∈
      ((unlockStore now found s).setAccount (currentUser now found).id f).accounts.rows := by
  refine (mem_setAccount hf).mpr ?_
  rw [currentUser_id]
  by_cases hid : a.id = found.id
  · exact ⟨_, currentUser_mem hfound, by rw [currentUser_id, if_pos rfl, if_pos hid]⟩
  · refine ⟨a, ?_, by rw [if_neg hid, if_neg hid]⟩
    rw [unlockStore]
    split
    · exact (mem_setAccount expireLock_keeps).mpr ⟨a, ha, by rw [if_neg hid]⟩
    · exact ha

end Rows

-- ── What a call does to the lock ──────────────────────────────────────────────────

section Calls

variable {env : Env} {s s' : Store} {call : Call} {a b found : Account}
  {answer : Except AuthError Answer}

/-- A login under another name is nothing to the lock. -/
theorem lockEvent_other {clock : Clock} {draw : LoginDraw} {scan : Scan Session}
    {username password client_ip : Str} {user_agent : Option Str} (ha : a ∈ s.accounts.rows)
    (hfind : s.accounts.rows.find? (byUsername username) = some found) (hne : a.id ≠ found.id) :
    lockEvent env ⟨.authenticate clock draw scan username password client_ip user_agent, answer⟩ a =
      .idle := by
  rw [lockEvent]
  cases answer with
  | error e => rfl
  | ok _ =>
      refine if_neg fun hcond => hne ?_
      have hfa := byUsername_find ha hcond.1 hcond.2.1
      rw [hfind] at hfa
      rw [Option.some.inj hfa]

/-- A login on an account that can be used. -/
theorem lockEvent_found {clock : Clock} {draw : LoginDraw} {scan : Scan Session}
    {username password client_ip : Str} {user_agent : Option Str} {ans : Answer} {matched : Bool}
    (hfind : s.accounts.rows.find? (byUsername username) = some found)
    (husable : (currentUser clock.utcnow found).status.usable = true)
    (hverify : verifyPassword env.crypto env.settings password found.password_hash = some matched) :
    lockEvent env ⟨.authenticate clock draw scan username password client_ip user_agent, .ok ans⟩
      found =
      if matched then .right clock.utcnow else .wrong clock.utcnow := by
  have hname := List.find?_some hfind
  rw [byUsername] at hname
  simp only [Bool.and_eq_true, decide_eq_true_eq, Option.isNone_iff_eq_none] at hname
  rw [lockEvent]
  dsimp only
  rw [if_pos ⟨hname.1, hname.2, husable⟩, hverify]
  cases matched <;> rfl

theorem lock_authenticate {clock : Clock} {draw : LoginDraw} {scan : Scan Session}
    {username password client_ip : Str} {user_agent : Option Str}
    (h : callStep env s
      ⟨.authenticate clock draw scan username password client_ip user_agent, answer⟩ s')
    (ha : a ∈ s.accounts.rows) :
    ∃ b ∈ s'.accounts.rows, LockStep env
      ⟨.authenticate clock draw scan username password client_ip user_agent, answer⟩ a b := by
  obtain ⟨events, out, hlogin, hends⟩ := callStep_authenticate h
  cases hlogin with
  | noPool | unknownRaised | raised | taken =>
      obtain ⟨rfl, rfl⟩ := hends
      exact ⟨a, ha, (SameLock.refl a).idle rfl⟩
  | unknown hfind =>
      obtain ⟨rfl, rfl⟩ := hends
      refine ⟨a, ha, (SameLock.refl a).idle (if_neg fun hcond => ?_)⟩
      have hfa := byUsername_find ha hcond.1 hcond.2.1
      rw [hfind] at hfa
      cases hfa
  | @refused found hfind hlock husable =>
      obtain ⟨rfl, rfl⟩ := hends
      refine ⟨a, ha, (SameLock.refl a).idle (if_neg fun hcond => ?_)⟩
      have hfa := byUsername_find ha hcond.1 hcond.2.1
      obtain rfl : found = a := Option.some.inj (hfind.symm.trans hfa)
      have hopen := hcond.2.2
      rw [currentUser_of_live hlock, husable] at hopen
      cases hopen
  | @wrongPassword found hfind husable hverify =>
      obtain ⟨rfl, rfl⟩ := hends
      have hfound := List.mem_of_find?_eq_some hfind
      refine ⟨_, mem_unlocked_set failureRow_keeps hfound ha, ?_⟩
      by_cases hid : a.id = found.id
      · obtain rfl : a = found := account_unique ha hfound hid
        rw [if_pos rfl]
        refine ⟨currentUser_id _ _, currentUser_username _ _, currentUser_deleted_at _ _, ?_⟩
        · rw [lockFields_failureRow, lockFields_currentUser, lockEvent_found hfind husable hverify]
          rfl
      · rw [if_neg hid]
        exact (SameLock.refl a).idle (lockEvent_other ha hfind hid)
  | @loggedIn found hfind husable hverify hfresh =>
      obtain ⟨rfl, rfl⟩ := hends
      have hfound := List.mem_of_find?_eq_some hfind
      refine ⟨_, mem_unlocked_set recordLogin_keeps hfound ha, ?_⟩
      by_cases hid : a.id = found.id
      · obtain rfl : a = found := account_unique ha hfound hid
        rw [if_pos rfl]
        refine ⟨currentUser_id _ _, currentUser_username _ _, currentUser_deleted_at _ _, ?_⟩
        · rw [lockFields_recordLogin, lockFields_currentUser, lockEvent_found hfind husable hverify]
          rfl
      · rw [if_neg hid]
        exact (SameLock.refl a).idle (lockEvent_other ha hfind hid)

theorem lock_updateUser {clock : Clock} {actor user_id : Uuid} {payload : UserUpdateRequest}
    (h : callStep env s ⟨.updateUser clock actor user_id payload, answer⟩ s')
    (ha : a ∈ s.accounts.rows) :
    ∃ b ∈ s'.accounts.rows, LockStep env ⟨.updateUser clock actor user_id payload, answer⟩ a b := by
  obtain ⟨out, hupdate, hends⟩ := callStep_updateUser h
  cases hupdate with
  | noPool | notFound | guarded | raised =>
      obtain ⟨rfl, rfl⟩ := hends
      exact ⟨a, ha, (SameLock.refl a).idle rfl⟩
  | @updated user row hdb hfind hpass hacc =>
      obtain ⟨rfl, rfl⟩ := hends
      have hrows : (patchedStore env.py env.settings clock actor user_id payload s).accounts =
          (s.setAccount user_id (patched env.py clock payload)).accounts := by
        rw [patchedStore, revokedStore]
        split <;> rfl
      rw [hrows]
      refine ⟨_, (mem_setAccount_of_accepts hacc).mpr ⟨a, ha, rfl⟩, ?_⟩
      by_cases hid : a.id = user_id
      · rw [if_pos hid]
        refine ⟨rfl, rfl, rfl, ?_⟩
        rw [lockEvent]
        dsimp only
        rw [if_pos hid]
        cases hstatus : payload.status with
        | none => simp [lockFields, patched, hstatus, LockFields.after]
        | some status => simp [lockFields, patched, hstatus, LockFields.after]
      · rw [if_neg hid]
        exact (SameLock.refl a).idle (if_neg hid)

theorem lock_unlockUser {clock : Clock} {actor user_id : Uuid}
    (h : callStep env s ⟨.unlockUser clock actor user_id, answer⟩ s') (ha : a ∈ s.accounts.rows) :
    ∃ b ∈ s'.accounts.rows, LockStep env ⟨.unlockUser clock actor user_id, answer⟩ a b := by
  rcases callStep_unlockUser h with ⟨e, rfl, rfl⟩ | ⟨rfl, rfl⟩
  · exact ⟨a, ha, (SameLock.refl a).idle rfl⟩
  · refine ⟨_, (mem_setAccount unlocked_keeps).mpr ⟨a, ha, rfl⟩, ?_⟩
    by_cases hid : a.id = user_id
    · rw [if_pos hid]
      refine ⟨rfl, rfl, rfl, ?_⟩
      rw [lockEvent]
      dsimp only
      rw [if_pos hid]
      rfl
    · rw [if_neg hid]
      exact (SameLock.refl a).idle (if_neg hid)

/-- An operation that writes no column of a lock. -/
theorem lock_others (h : callStep env s call s')
    (hrow : ∀ f a, RowChange env call.op a.id f → SameLock a (f a))
    (hidle : ∀ a, lockEvent env call a = .idle) (ha : a ∈ s.accounts.rows) :
    ∃ b ∈ s'.accounts.rows, LockStep env call a b := by
  obtain ⟨b, hb, hab⟩ := callStep_accounts h .refl (fun _ _ _ => .trans) hrow a ha
  exact ⟨b, hb, hab.idle (hidle a)⟩

/-- **The refinement.** A call does to the three columns of a row what its event does to the
    lock. -/
theorem call_lock (h : callStep env s call s') (ha : a ∈ s.accounts.rows) :
    ∃ b ∈ s'.accounts.rows, LockStep env call a b := by
  obtain ⟨op, answer⟩ := call
  cases op with
  | authenticate => exact lock_authenticate h ha
  | updateUser => exact lock_updateUser h ha
  | unlockUser => exact lock_unlockUser h ha
  | resolveSession | revokeSession | createUser | createAdmin | revokeUserSessions =>
      exact lock_others h (fun f a hf => by cases hf) (fun a => rfl) ha
  | changePassword | resetPassword =>
      refine lock_others h (fun f a hf => ?_) (fun a => rfl) ha
      generalize a.id = id at hf
      cases hf
      exact ⟨rfl, rfl, rfl, rfl⟩

/-- The row after a call is the one with the id. -/
theorem call_lock_row (h : callStep env s call s') (ha : a ∈ s.accounts.rows)
    (hb : b ∈ s'.accounts.rows) (hid : b.id = a.id) : LockStep env call a b := by
  obtain ⟨c, hc, hac⟩ := call_lock h ha
  rwa [account_unique hb hc (hid.trans hac.id.symm)]

/-- A password is looked at only if the account can be used. -/
theorem lockEvent_possible : (lockFields a).Possible (lockEvent env call a) := by
  have hopen : ∀ now, (currentUser now a).status.usable = true →
      ((lockFields a).opened now).status.usable = true := by
    intro now husable
    rw [← lockFields_currentUser]
    exact husable
  rw [lockEvent]
  split
  · split
    · rename_i hcond
      split
      · exact hopen _ hcond.2.2
      · exact hopen _ hcond.2.2
      · trivial
    · trivial
  · split
    · split <;> trivial
    · trivial
  · split <;> trivial
  · trivial

/-- An account nobody has failed to log in to. -/
def Fresh (l : LockFields) : Prop := l.status.usable = true ∧ l.failures = 0 ∧ l.expiry = none

theorem fresh_newRow {op : Op} {row : Account} (h : NewRow env op row) :
    Fresh (lockFields row) := by
  cases h with
  | user => exact ⟨rfl, rfl, rfl⟩
  | admin name => exact ⟨rfl, rfl, rfl⟩

/-- A creation changes no row. -/
theorem call_creates (hop : ∀ id f, ¬ RowChange env call.op id f) (h : callStep env s call s') :
    ∀ b ∈ s'.accounts.rows, b ∈ s.accounts.rows ∨ NewRow env call.op b := by
  refine callStep_related (G := fun s s' => ∀ b ∈ s'.accounts.rows, b ∈ s.accounts.rows ∨
    NewRow env call.op b) h (fun _ _ hb => Or.inl hb) (fun s s' s'' hs hs' b hb => ?_)
      fun g hg s b hb => ?_
  · rcases hs' b hb with hmem | hnew
    · exact hs b hmem
    · exact Or.inr hnew
  · generalize call.op = op at hg hop ⊢
    cases hg with
    | same | audit | history | revoke | touch | session => exact Or.inl hb
    | @account _ id f hf ks => exact absurd hf (hop id f)
    | @insert _ row hrow =>
        rw [Store.alterAccounts_accounts] at hb
        rcases alter_rows_cases s.accounts (· ++ [row]) with hrows | hrows
        · rw [hrows] at hb
          rcases List.mem_append.mp hb with hmem | hnew
          · exact Or.inl hmem
          · rw [List.mem_singleton.mp hnew]
            exact Or.inr hrow
        · rw [hrows] at hb
          exact Or.inl hb

theorem rowChange_id {op : Op} {id : Uuid} {f : Account → Account} (h : RowChange env op id f)
    (a : Account) : (f a).id = a.id := by
  cases h with
  | expireLock | failure | login | change | patch | unlock | reset => rfl

/-- A call that creates no account leaves the ids. -/
theorem call_rows (hop : ∀ row, ¬ NewRow env call.op row) (h : callStep env s call s') :
    ∀ b ∈ s'.accounts.rows, ∃ a ∈ s.accounts.rows, a.id = b.id := by
  refine callStep_related (G := fun s s' => ∀ b ∈ s'.accounts.rows,
    ∃ a ∈ s.accounts.rows, a.id = b.id)
    h (fun _ b hb => ⟨b, hb, rfl⟩) (fun s s' s'' hs hs' b hb => ?_) fun g hg s b hb => ?_
  · obtain ⟨c, hc, hcb⟩ := hs' b hb
    obtain ⟨a, ha, hac⟩ := hs c hc
    exact ⟨a, ha, hac.trans hcb⟩
  · generalize call.op = op at hg hop
    cases hg with
    | same | audit | history | revoke | touch | session => exact ⟨b, hb, rfl⟩
    | @insert _ row hrow => exact absurd hrow (hop row)
    | @account _ id f hf ks =>
        rw [Store.alterAccounts_accounts] at hb
        rcases alter_rows_cases s.accounts (updateWhere (foundAccount ks (byId id)) f)
          with hrows | hrows
        · rw [hrows] at hb
          obtain ⟨a, ha, rfl⟩ := mem_updateWhere.mp hb
          refine ⟨a, ha, ?_⟩
          split
          · exact (rowChange_id hf a).symm
          · rfl
        · rw [hrows] at hb
          exact ⟨b, hb, rfl⟩

/-- Where the rows after a call come from. -/
theorem call_lock_back (h : callStep env s call s') (hb : b ∈ s'.accounts.rows) :
    (∃ a ∈ s.accounts.rows, LockStep env call a b) ∨ Fresh (lockFields b) := by
  have hrow : (∃ a ∈ s.accounts.rows, a.id = b.id) ∨ Fresh (lockFields b) := by
    obtain ⟨op, answer⟩ := call
    cases op with
    | createUser | createAdmin =>
        rcases call_creates (fun id f hf => by cases hf) h b hb with hmem | hnew
        · exact Or.inl ⟨b, hmem, rfl⟩
        · exact Or.inr (fresh_newRow hnew)
    | authenticate | resolveSession | revokeSession | changePassword | updateUser | unlockUser |
      resetPassword | revokeUserSessions =>
        exact Or.inl (call_rows (fun row hnew => by cases hnew) h b hb)
  rcases hrow with ⟨a, ha, hid⟩ | hfresh
  · exact Or.inl ⟨a, ha, call_lock_row h ha hb hid.symm⟩
  · exact Or.inr hfresh

end Calls

-- ── The lock of an administrator ──────────────────────────────────────────────────

section Held

variable {env : Env} {s s' s₀ : Store} {call patch : Call} {calls : List Call} {user_id : Uuid}
  {a b : Account}

/-- The operation committed a patch of the account that sets its status. -/
def SetsStatus (user_id : Uuid) (status : AccountStatus) (call : Call) : Prop :=
  ∃ clock actor payload row, call.op = .updateUser clock actor user_id payload ∧
    payload.status = some status ∧ call.answer = .ok (.account row)

/-- The operation committed an unlock of the account, or a patch to another status than `LOCKED`. -/
def Lifts (user_id : Uuid) (call : Call) : Prop :=
  call.Unlocks user_id ∨ ∃ status, status ≠ .LOCKED ∧ SetsStatus user_id status call

/-- The account exists, is not deleted and is locked. -/
def LockedRow (user_id : Uuid) (s : Store) : Prop :=
  ∃ a ∈ s.accounts.rows, a.id = user_id ∧ a.status = .LOCKED ∧ a.deleted_at = none

/-- The operation leaves the account locked, and if it is a login under the name of the account
    it is refused. -/
def StaysLocked (user_id : Uuid) (s : Store) (call : Call) (s' : Store) : Prop :=
  LockedRow user_id s' ∧ ∀ a ∈ s.accounts.rows, a.id = user_id →
    ∀ clock draw scan password client_ip user_agent,
      call.op = .authenticate clock draw scan a.username password client_ip user_agent →
        call.answer = .ok (.login none)

/-- A login under the name of the account finds no expiry that is up, unless one failure is enough
    to lock and its password is wrong. -/
def FindsNoExpiry (env : Env) (user_id : Uuid) (s : Store) (call : Call) : Prop :=
  ∀ a ∈ s.accounts.rows, a.id = user_id → ∀ clock draw scan password client_ip user_agent,
    call.op = .authenticate clock draw scan a.username password client_ip user_agent →
      lockExpired clock.utcnow a = false ∨
        env.settings.login_max_failures ≤ 1 ∧
          verifyPassword env.crypto env.settings password a.password_hash = some false

/-- A patch of the status sets it. -/
theorem lockEvent_patch {status : AccountStatus} (h : SetsStatus user_id status call)
    (hid : a.id = user_id) : lockEvent env call a = .patch status := by
  obtain ⟨op, answer⟩ := call
  obtain ⟨clock, actor, payload, row, hop, hstatus, hanswer⟩ := h
  dsimp only at hop hanswer
  subst hop hanswer
  rw [lockEvent]
  dsimp only
  rw [if_pos hid, hstatus]

/-- A call that lifts no lock and is no login under the name leaves the lock, or patches it to
    `LOCKED`. -/
theorem lockEvent_held (h : callStep env s call s') (hlift : ¬ Lifts a.id call)
    (hop : ∀ clock draw scan password client_ip user_agent,
      call.op ≠ .authenticate clock draw scan a.username password client_ip user_agent) :
    lockEvent env call a = .idle ∨ lockEvent env call a = .patch .LOCKED := by
  obtain ⟨op, answer⟩ := call
  cases answer with
  | error e =>
      refine Or.inl ?_
      rw [lockEvent]
      cases op <;> rfl
  | ok ans =>
      cases op with
      | authenticate clock draw scan username password client_ip user_agent =>
          refine Or.inl (if_neg fun hcond => ?_)
          exact hop clock draw scan password client_ip user_agent (by rw [hcond.1])
      | updateUser clock actor user_id payload =>
          by_cases hid : a.id = user_id
          · obtain ⟨row, rfl⟩ := result_answering h.1
            cases hstatus : payload.status with
            | none => exact Or.inl (by simp [lockEvent, hid, hstatus])
            | some status =>
                have hsets : SetsStatus a.id status
                    ⟨.updateUser clock actor user_id payload, .ok (.account row)⟩ :=
                  ⟨clock, actor, payload, row, by rw [hid], hstatus, rfl⟩
                rw [lockEvent_patch hsets rfl]
                by_cases hlocked : status = .LOCKED
                · exact Or.inr (by rw [hlocked])
                · exact absurd (Or.inr ⟨status, hlocked, hsets⟩) hlift
          · exact Or.inl (if_neg hid)
      | unlockUser clock actor user_id =>
          by_cases hid : a.id = user_id
          · obtain ⟨_, rfl⟩ := result_answering h.1
            exact absurd (Or.inl ⟨clock, actor, by rw [hid], rfl⟩) hlift
          · exact Or.inl (if_neg hid)
      | resolveSession | revokeSession | changePassword | createUser | createAdmin | resetPassword |
        revokeUserSessions => exact Or.inl rfl

/-- A login under the name of an account whose lock has not run out. -/
theorem login_held {clock : Clock} {draw : LoginDraw} {scan : Scan Session}
    {password client_ip : Str} {user_agent : Option Str} {answer : Except AuthError Answer}
    (hdb : env.settings.database_enabled = true)
    (h : callStep env s
      ⟨.authenticate clock draw scan a.username password client_ip user_agent, answer⟩ s')
    (ha : a ∈ s.accounts.rows) (hlive : a.deleted_at = none)
    (hblocked : (currentUser clock.utcnow a).status.usable = false) :
    answer = .ok (.login none) ∧ s'.accounts = s.accounts := by
  have hfa := byUsername_find ha rfl hlive
  obtain ⟨events, out, hlogin, hends⟩ := callStep_authenticate h
  cases hlogin with
  | noPool hoff => simp [hdb] at hoff
  | unknown hnone | unknownRaised hnone => simp [hfa] at hnone
  | refused =>
      obtain ⟨rfl, rfl⟩ := hends
      exact ⟨rfl, rfl⟩
  | raised hfind husable | wrongPassword hfind husable | taken hfind husable
  | loggedIn hfind husable =>
      obtain rfl := Option.some.inj (hfa.symm.trans hfind)
      rw [hblocked] at husable
      cases husable

/-- A login under the name of an account that can be used is refused exactly if its password is
    wrong. -/
theorem login_opened {clock : Clock} {draw : LoginDraw} {scan : Scan Session}
    {password client_ip : Str} {user_agent : Option Str} {answer : Except AuthError Answer}
    (hdb : env.settings.database_enabled = true)
    (h : callStep env s
      ⟨.authenticate clock draw scan a.username password client_ip user_agent, answer⟩ s')
    (ha : a ∈ s.accounts.rows) (hlive : a.deleted_at = none)
    (husable : (currentUser clock.utcnow a).status.usable = true) :
    answer = .ok (.login none) ↔
      verifyPassword env.crypto env.settings password a.password_hash = some false := by
  have hfa := byUsername_find ha rfl hlive
  obtain ⟨events, out, hlogin, hends⟩ := callStep_authenticate h
  cases hlogin with
  | noPool hoff => simp [hdb] at hoff
  | unknown hnone | unknownRaised hnone => simp [hfa] at hnone
  | refused hfind hlock hrefused =>
      obtain rfl := Option.some.inj (hfa.symm.trans hfind)
      rw [currentUser_of_live hlock, hrefused] at husable
      cases husable
  | raised hfind _ hverify | taken hfind _ hverify | loggedIn hfind _ hverify =>
      obtain rfl := Option.some.inj (hfa.symm.trans hfind)
      rw [hends.1, hverify]
      simp
  | wrongPassword hfind _ hverify =>
      obtain rfl := Option.some.inj (hfa.symm.trans hfind)
      rw [hends.1, hverify]
      simp

theorem lockedRow_iff (hb : b ∈ s.accounts.rows) (hid : b.id = user_id)
    (hlive : b.deleted_at = none) :
    LockedRow user_id s ↔ b.status = .LOCKED := by
  constructor
  · rintro ⟨c, hc, hcid, hlocked, -⟩
    rwa [account_unique hb hc (hid.trans hcid.symm)]
  · intro hlocked
    exact ⟨b, hb, hid, hlocked, hlive⟩

section LoginStep

variable {clock : Clock} {draw : LoginDraw} {scan : Scan Session} {password client_ip : Str}
  {user_agent : Option Str} {answer : Except AuthError Answer}

/-- What the two conditions say of a login under the name of the account. -/
theorem staysLocked_login_iff (ha : a ∈ s.accounts.rows) :
    StaysLocked a.id s
        ⟨.authenticate clock draw scan a.username password client_ip user_agent, answer⟩ s' ↔
      LockedRow a.id s' ∧ answer = .ok (.login none) := by
  refine and_congr_right fun _ => ⟨fun hall => ?_, fun hanswer c hc hid _ _ _ _ _ _ _ => hanswer⟩
  exact hall a ha rfl clock draw scan password client_ip user_agent rfl

theorem findsNoExpiry_login_iff (ha : a ∈ s.accounts.rows) :
    FindsNoExpiry env a.id s
        ⟨.authenticate clock draw scan a.username password client_ip user_agent, answer⟩ ↔
      lockExpired clock.utcnow a = false ∨ env.settings.login_max_failures ≤ 1 ∧
        verifyPassword env.crypto env.settings password a.password_hash = some false := by
  constructor
  · intro hall
    exact hall a ha rfl clock draw scan password client_ip user_agent rfl
  · intro hone c hc hid clock' draw' scan' password' client_ip' user_agent' hop
    obtain rfl : c = a := account_unique hc ha hid
    cases hop
    exact hone

/-- A wrong password on a lock that has opened is its first failure. -/
theorem locked_by_first_failure
    (h : callStep env s
      ⟨.authenticate clock draw scan a.username password client_ip user_agent, .ok (.login none)⟩
        s')
    (ha : a ∈ s.accounts.rows) (hlive : a.deleted_at = none)
    (hexpired : lockExpired clock.utcnow a = true)
    (hwrong : verifyPassword env.crypto env.settings password a.password_hash = some false) :
    LockedRow a.id s' ↔ env.settings.login_max_failures ≤ 1 := by
  obtain ⟨b, hb, hab⟩ := call_lock h ha
  have husable : (currentUser clock.utcnow a).status.usable = true := by
    rw [currentUser_of_expired hexpired]
    rfl
  have hopened : (lockFields a).opened clock.utcnow = LockFields.cleared := if_pos hexpired
  have hfields := congrArg LockFields.status hab.fields
  rw [lockEvent_found (byUsername_find ha rfl hlive) husable hwrong, if_neg Bool.false_ne_true]
    at hfields
  rw [lockedRow_iff hb hab.id (hab.deleted_at.trans hlive)]
  show (lockFields b).status = _ ↔ _
  rw [hfields]
  show (((lockFields a).opened clock.utcnow).fail env.settings clock.utcnow).status = _ ↔ _
  rw [hopened]
  exact LockFields.fail_cleared

/-- The step lemma of a login under the name of a locked account. -/
theorem staysLocked_of_login (hdb : env.settings.database_enabled = true)
    (h : callStep env s
      ⟨.authenticate clock draw scan a.username password client_ip user_agent, answer⟩ s')
    (ha : a ∈ s.accounts.rows) (hstatus : a.status = .LOCKED) (hlive : a.deleted_at = none) :
    StaysLocked a.id s
        ⟨.authenticate clock draw scan a.username password client_ip user_agent, answer⟩ s' ↔
      FindsNoExpiry env a.id s
        ⟨.authenticate clock draw scan a.username password client_ip user_agent, answer⟩ := by
  rw [staysLocked_login_iff ha, findsNoExpiry_login_iff ha]
  cases hexpired : lockExpired clock.utcnow a with
  | false =>
      have hblocked : (currentUser clock.utcnow a).status.usable = false := by
        rw [currentUser_of_live hexpired, hstatus]
        rfl
      obtain ⟨hanswer, haccounts⟩ := login_held hdb h ha hlive hblocked
      have hrow : LockedRow a.id s' := ⟨a, by rw [haccounts]; exact ha, rfl, hstatus, hlive⟩
      exact ⟨fun _ => Or.inl rfl, fun _ => ⟨hrow, hanswer⟩⟩
  | true =>
      have husable : (currentUser clock.utcnow a).status.usable = true := by
        rw [currentUser_of_expired hexpired]
        rfl
      have hanswer := login_opened hdb h ha hlive husable
      constructor
      · rintro ⟨hrow, rfl⟩
        have hwrong := hanswer.mp rfl
        exact Or.inr ⟨(locked_by_first_failure h ha hlive hexpired hwrong).mp hrow, hwrong⟩
      · rintro (hfalse | ⟨hone, hwrong⟩)
        · cases hfalse
        · obtain rfl := hanswer.mpr hwrong
          exact ⟨(locked_by_first_failure h ha hlive hexpired hwrong).mpr hone, rfl⟩

end LoginStep

/-- The step lemma: on a locked account, an operation that lifts no lock leaves it locked and
    refused exactly if it finds no expiry that is up. -/
theorem staysLocked_iff (hdb : env.settings.database_enabled = true) (h : callStep env s call s')
    (hlocked : LockedRow user_id s) (hlift : ¬ Lifts user_id call) :
    StaysLocked user_id s call s' ↔ FindsNoExpiry env user_id s call := by
  obtain ⟨a, ha, rfl, hstatus, hlive⟩ := hlocked
  by_cases hop : ∃ clock draw scan password client_ip user_agent,
      call.op = .authenticate clock draw scan a.username password client_ip user_agent
  · obtain ⟨clock, draw, scan, password, client_ip, user_agent, hop⟩ := hop
    obtain ⟨op, answer⟩ := call
    dsimp only at hop
    subst hop
    exact staysLocked_of_login hdb h ha hstatus hlive
  · -- any other operation leaves the lock or sets it again
    have hother : ∀ clock draw scan password client_ip user_agent,
        call.op ≠ .authenticate clock draw scan a.username password client_ip user_agent :=
      fun clock draw scan password client_ip user_agent h =>
        hop ⟨clock, draw, scan, password, client_ip, user_agent, h⟩
    obtain ⟨b, hb, hab⟩ := call_lock h ha
    have hfields := congrArg LockFields.status hab.fields
    have hb' : b.status = .LOCKED := by
      rcases lockEvent_held h hlift hother with hidle | hpatch
      · rw [hidle] at hfields
        exact hfields.trans hstatus
      · rw [hpatch] at hfields
        exact hfields
    have hrow : LockedRow a.id s' := ⟨b, hb, hab.id, hb', hab.deleted_at.trans hlive⟩
    have hnever : ∀ c ∈ s.accounts.rows, c.id = a.id →
        ∀ clock draw scan password client_ip user_agent,
        call.op ≠ .authenticate clock draw scan c.username password client_ip user_agent := by
      intro c hc hid
      rw [account_unique hc ha hid]
      exact hother
    constructor
    · intro _ c hc hid clock draw scan password client_ip user_agent hlogin
      exact absurd hlogin (hnever c hc hid _ _ _ _ _ _)
    · intro _
      refine ⟨hrow, fun c hc hid clock draw scan password client_ip user_agent hlogin => ?_⟩
      exact absurd hlogin (hnever c hc hid _ _ _ _ _ _)

/-- A patch to `LOCKED` that commits locks the account. -/
theorem locks_row (h : callStep env s patch s₀) (hlocks : SetsStatus user_id .LOCKED patch) :
    env.settings.database_enabled = true ∧ LockedRow user_id s₀ := by
  have hevent := @lockEvent_patch env patch user_id
  obtain ⟨op, answer⟩ := patch
  obtain ⟨clock, actor, payload, row, hop, hstatus, hanswer⟩ := id hlocks
  dsimp only at hop hanswer
  subst hop hanswer
  obtain ⟨out, hupdate, hends⟩ := callStep_updateUser h
  cases hupdate with
  | noPool | notFound | guarded | raised => cases hends.1
  | @updated user row' hdb hfind hpass hacc =>
      obtain ⟨hmem, hid, hlive⟩ := find_byLiveId hfind
      obtain ⟨b, hb, hstep⟩ := call_lock h hmem
      refine ⟨hdb, b, hb, hstep.id.trans hid, ?_, hstep.deleted_at.trans hlive⟩
      have hfields := congrArg LockFields.status hstep.fields
      rwa [hevent hlocks hid] at hfields

/-- The run lemma: over operations that lift no lock. -/
theorem staysLocked_throughout_iff (hdb : env.settings.database_enabled = true)
    (hrow : LockedRow user_id s) (hperiod : ∀ call ∈ calls, ¬ Lifts user_id call) :
    Throughout (callStep env) (StaysLocked user_id) s calls ↔
      Throughout (callStep env) (fun m call _ => FindsNoExpiry env user_id m call) s calls := by
  refine throughout_iff (fun m call m' hcall hlocked hstep => ⟨?_, fun h => h.1⟩) hrow
  exact staysLocked_iff hdb hstep hlocked (hperiod call hcall)

/-- **When the lock of an administrator holds.** From the commit of a patch to `LOCKED`, over any
    operations that lift no lock. -/
theorem lock_holds_iff (hpatch : callStep env s patch s₀)
    (hlocks : SetsStatus user_id .LOCKED patch)
    (hperiod : ∀ call ∈ calls, ¬ Lifts user_id call) :
    LockedRow user_id s₀ ∧
      (Throughout (callStep env) (StaysLocked user_id) s₀ calls ↔
        Throughout (callStep env) (fun m call _ => FindsNoExpiry env user_id m call) s₀ calls) := by
  obtain ⟨hdb, hrow⟩ := locks_row hpatch hlocks
  exact ⟨hrow, staysLocked_throughout_iff hdb hrow hperiod⟩

/-- A lock without an expiry has none later. -/
theorem null_stays (h : callStep env s call s') (ha : a ∈ s.accounts.rows)
    (hlocked : a.status = .LOCKED)
    (hnull : a.locked_until = none) (hlift : ¬ Lifts a.id call) :
    ∃ b ∈ s'.accounts.rows, b.id = a.id ∧ b.status = .LOCKED ∧ b.locked_until = none := by
  obtain ⟨b, hb, hab⟩ := call_lock h ha
  have hkept : ∀ e, lockEvent env call a = e → (e = .idle ∨ e = .patch .LOCKED) →
      b.status = .LOCKED ∧ b.locked_until = none := by
    rintro e he (rfl | rfl)
    · have hfields := hab.fields
      rw [he] at hfields
      exact ⟨(congrArg LockFields.status hfields).trans hlocked,
        (congrArg LockFields.expiry hfields).trans hnull⟩
    · have hfields := hab.fields
      rw [he] at hfields
      exact ⟨congrArg LockFields.status hfields, (congrArg LockFields.expiry hfields).trans hnull⟩
  refine ⟨b, hb, hab.id, hkept _ rfl ?_⟩
  by_cases hop : ∃ clock draw scan password client_ip user_agent,
      call.op = .authenticate clock draw scan a.username password client_ip user_agent
  · obtain ⟨clock, draw, scan, password, client_ip, user_agent, hop⟩ := hop
    refine Or.inl ?_
    rw [lockEvent]
    rw [hop]
    cases call.answer with
    | error e => rfl
    | ok ans =>
        refine if_neg fun hcond => ?_
        have hopen := hcond.2.2
        rw [currentUser, lockExpired] at hopen
        simp [hlocked, hnull, AccountStatus.usable] at hopen
  · refine lockEvent_held h hlift fun clock draw scan password client_ip user_agent hlogin => ?_
    exact hop ⟨clock, draw, scan, password, client_ip, user_agent, hlogin⟩

/-- **A lock set on an account without an expiry holds.** -/
theorem lock_holds_of_null (hpatch : callStep env s patch s₀)
    (hlocks : SetsStatus user_id .LOCKED patch)
    (hperiod : ∀ call ∈ calls, ¬ Lifts user_id call)
    (hnull : ∀ a ∈ s₀.accounts.rows, a.id = user_id → a.locked_until = none) :
    Throughout (callStep env) (StaysLocked user_id) s₀ calls := by
  obtain ⟨hdb, hrow⟩ := locks_row hpatch hlocks
  obtain ⟨a, ha, hid, hlocked, -⟩ := id hrow
  refine (staysLocked_throughout_iff hdb hrow hperiod).mpr
    fun before call after m m' hcalls hbefore _ b hb hbid _ _ _ _ _ _ _ => Or.inl ?_
  have hclean : Run (Restrict (callStep env) fun _ call => ¬ Lifts user_id call) s₀ before m :=
    hbefore.restrict_of_labels fun call hcall =>
      hperiod call (by rw [hcalls]; exact List.mem_append_left _ hcall)
  obtain ⟨c, hc, hcid, -, hcnull⟩ := hclean.invariant
    (I := fun m => ∃ a ∈ m.accounts.rows, a.id = user_id ∧ a.status = .LOCKED ∧
      a.locked_until = none)
    (fun m call m' hI hstep => by
      obtain ⟨a, ha, rfl, hlocked, hnull⟩ := hI
      exact null_stays hstep.2 ha hlocked hnull hstep.1)
    ⟨a, ha, hid, hlocked, hnull a ha hid⟩
  obtain rfl : b = c := account_unique hb hc (hbid.trans hcid.symm)
  rw [lockExpired]
  rw [hcnull]
  exact Bool.and_false _

end Held

/-- An administrator and an operator with a new account. -/
def twoAccounts : List Op := promotionStart.take 2

/-- As many wrong passwords as lock the operator for a quarter of an hour. -/
def guesses : List Op := List.replicate 5 (sampleLogin 0 (str "operator1") (str "guess"))

/-- A patch of the operator's status. -/
def patchOperator (now : Time) (status : AccountStatus) : Op :=
  .updateUser ⟨now, now, now⟩ 1 2 (.patch none (some status))

/-- The operator is locked by failures. -/
def guessed : Store := performAll .sample (twoAccounts ++ guesses) .empty

/-- The operator's right password after 16 minutes. -/
def lateLogin : Op := sampleLogin (minutes 16) (str "operator1") (str "correct horse battery")

theorem patchOperator_sets {now : Time} {status : AccountStatus} {s : Store}
    (h : (((patchOperator now status).prog .sample).result s).toOption.isSome = true) :
    SetsStatus 2 status ((patchOperator now status).on .sample s) := by
  cases hresult : ((patchOperator now status).prog .sample).result s with
  | error e =>
      rw [hresult] at h
      cases h
  | ok ans =>
      obtain ⟨row, rfl⟩ := result_answering hresult
      exact ⟨⟨now, now, now⟩, 1, .patch none (some status), row, rfl, rfl, hresult⟩

/-- A login lifts no lock. -/
theorem login_lifts_not {now : Time} {username password : Str} {s : Store} (user_id : Uuid) :
    ¬ Lifts user_id ((sampleLogin now username password).on .sample s) := by
  rintro (⟨_, _, hop, -⟩ | ⟨_, -, _, _, _, _, hop, -⟩) <;> cases hop

/-- **The lock of an administrator opens by itself.** The operator is locked by five wrong
    passwords, an administrator sets the status to `LOCKED` a minute later, and the right password
    logs in after 16 minutes. -/
theorem patched_lock_opens :
    ¬ ∀ (calls later : List Call) (s s₀ : Store) (patch : Call) (user_id : Uuid),
      Run (callStep .sample) .empty calls s → callStep .sample s patch s₀ →
        SetsStatus user_id .LOCKED patch → (∀ call ∈ later, ¬ Lifts user_id call) →
          NonDecreasing 0 (calls ++ patch :: later) (minutes 16) →
            Throughout (callStep .sample) (StaysLocked user_id) s₀ later := by
  intro h
  have hlocked := h (callsOf .sample (twoAccounts ++ guesses) .empty)
    [lateLogin.on .sample (((patchOperator (minutes 1) .LOCKED).prog .sample).perform guessed)]
    guessed _ ((patchOperator (minutes 1) .LOCKED).on .sample guessed) 2 (run_callsOf _ _ _)
    (callStep_on _ _ _) (patchOperator_sets (by decide +kernel))
    (fun call hcall => by
      rw [List.mem_singleton.mp hcall]
      exact login_lifts_not 2)
    (by unfold NonDecreasing; decide +kernel)
  have hlogin : ((lateLogin.prog .sample).result
      (((patchOperator (minutes 1) .LOCKED).prog .sample).perform guessed)) =
        .ok (.login none) := by
    have hfound :
        ∃ a ∈ (((patchOperator (minutes 1) .LOCKED).prog .sample).perform guessed).accounts.rows,
        a.id = 2 ∧ a.username = str "operator1" := by decide +kernel
    obtain ⟨a, ha, hid, hname⟩ := hfound
    refine (hlocked [] _ [] _ _ rfl (.nil _) (callStep_on _ _ _)).2 a ha hid
      ⟨minutes 16, minutes 16, minutes 16⟩ ⟨str "token", str "csrf", 7, []⟩ .asInserted
      (str "correct horse battery") (str "192.0.2.7") none ?_
    rw [hname]
    rfl
  exact absurd hlogin (by decide +kernel)

/-- The general result on an account nobody has failed to log in to. -/
theorem fresh_lock_holds :
    Throughout (callStep .sample) (StaysLocked 2)
      (performAll .sample (twoAccounts ++ [patchOperator 0 .LOCKED]) .empty)
      [lateLogin.on .sample
        (performAll .sample (twoAccounts ++ [patchOperator 0 .LOCKED]) .empty)] := by
  refine (lock_holds_iff (callStep_on .sample (patchOperator 0 .LOCKED)
    (performAll .sample twoAccounts .empty)) (patchOperator_sets (by decide +kernel))
      fun call hcall => ?_).2.mpr fun before call after m m' hcalls hbefore _ a ha hid => ?_
  · rw [List.mem_singleton.mp hcall]
    exact login_lifts_not 2
  · obtain rfl : before = [] := by
      cases before with
      | nil => rfl
      | cons c before => simp at hcalls
    cases hbefore
    have hnull :
        ∀ a ∈ (performAll .sample (twoAccounts ++ [patchOperator 0 .LOCKED]) .empty).accounts.rows,
        a.id = 2 → a.locked_until = none := by decide +kernel
    intro _ _ _ _ _ _ _
    refine Or.inl ?_
    rw [lockExpired]
    rw [hnull a ha hid]
    exact Bool.and_false _

-- ── Coherent lock fields ──────────────────────────────────────────────────────────

section Reachable

variable {env : Env} {s s' t : Store} {call : Call} {calls : List Call} {user_id : Uuid} {n : Nat}

/-- Every patch of a status leaves no expiry of a lock behind, and no failure at an account it
    makes usable. -/
def PatchesCleanly (s : Store) (call : Call) : Prop :=
  ∀ user_id status, SetsStatus user_id status call → ∀ a ∈ s.accounts.rows, a.id = user_id →
    (status ≠ .LOCKED → a.locked_until = none) ∧
      (status.usable = true → a.status.usable = false → a.failed_login_count = 0)

/-- The locks of all accounts are coherent. -/
def AllCoherent (settings : Settings) (s : Store) : Prop :=
  ∀ a ∈ s.accounts.rows, (lockFields a).Coherent settings

/-- Operations that try `n` wrong passwords on the account and are nothing else to its lock. -/
inductive Tries (env : Env) (user_id : Uuid) (s : Store) : Nat → Store → Prop where
  | none : Tries env user_id s 0 s
  | idle {m m' : Store} {n : Nat} {call : Call} {a : Account} (h : Tries env user_id s n m)
      (hstep : callStep env m call m') (ha : a ∈ m.accounts.rows) (hid : a.id = user_id)
      (hidle : lockEvent env call a = .idle) : Tries env user_id s n m'
  | wrong {m m' : Store} {n : Nat} {call : Call} {a : Account} {now : Time}
      (h : Tries env user_id s n m) (hstep : callStep env m call m') (ha : a ∈ m.accounts.rows)
      (hid : a.id = user_id) (hwrong : lockEvent env call a = .wrong now) :
      Tries env user_id s (n + 1) m'

/-- A call whose event is a patch has set the status. -/
theorem setsStatus_of_patch {a : Account} {status : AccountStatus} (h : callStep env s call s')
    (hevent : lockEvent env call a = .patch status) : SetsStatus a.id status call := by
  obtain ⟨op, answer⟩ := call
  rw [lockEvent] at hevent
  split at hevent
  · split at hevent
    · split at hevent <;> cases hevent
    · cases hevent
  · rename_i clock actor user_id payload ans hop hanswer
    dsimp only at hop hanswer
    subst hop hanswer
    obtain ⟨row, rfl⟩ := result_answering h.1
    split at hevent
    · rename_i hid
      split at hevent
      · rename_i status' hstatus
        cases hevent
        exact ⟨clock, actor, payload, row, by rw [hid], hstatus, rfl⟩
      · cases hevent
    · cases hevent
  · split at hevent <;> cases hevent
  · cases hevent

/-- A call that patches cleanly is a clean event for every row. -/
theorem lockEvent_clean {a : Account} (h : callStep env s call s') (hclean : PatchesCleanly s call)
    (ha : a ∈ s.accounts.rows) : (lockFields a).Clean (lockEvent env call a) := by
  cases hevent : lockEvent env call a with
  | idle | wrong | right | unlock => trivial
  | patch status => exact hclean a.id status (setsStatus_of_patch h hevent) a ha rfl

/-- The step lemma. -/
theorem AllCoherent.step (hcoherent : AllCoherent env.settings s)
    (hK : 1 ≤ env.settings.login_max_failures) (hclean : PatchesCleanly s call)
    (h : callStep env s call s') : AllCoherent env.settings s' := by
  intro b hb
  rcases call_lock_back h hb with ⟨a, ha, hab⟩ | ⟨husable, hzero, hnone⟩
  · rw [hab.fields]
    exact (hcoherent a ha).after hK lockEvent_possible (lockEvent_clean h hclean ha)
  · refine ⟨fun hne => absurd hnone hne, fun _ => ?_⟩
    rw [hzero]
    exact hK

/-- Wrong passwords on an account that can be used: each counts, and the last one locks. -/
theorem tries_count {b c : Account} {j : Nat} (h : Tries env user_id s' n t)
    (hb : b ∈ s'.accounts.rows) (hid : b.id = user_id) (husable : b.status.usable = true)
    (hcount : b.failed_login_count = j) (hspare : (j : Int) < env.settings.login_max_failures)
    (hc : c ∈ t.accounts.rows) (hcid : c.id = user_id) :
    ((n + j : Nat) < env.settings.login_max_failures →
        c.status.usable = true ∧ c.failed_login_count = ((n + j : Nat) : Int)) ∧
      ((n + j : Nat) = env.settings.login_max_failures → c.status = .LOCKED) := by
  induction h generalizing c with
  | none =>
      obtain rfl : c = b := account_unique hc hb (hcid.trans hid.symm)
      rw [Nat.zero_add]
      exact ⟨fun _ => ⟨husable, hcount⟩, fun hlast => absurd hspare (by omega)⟩
  | @idle m m' n call a h hstep ha haid hidle ih =>
      have hfields := (call_lock_row hstep ha hc (hcid.trans haid.symm)).fields
      rw [hidle] at hfields
      have hstatus : c.status = a.status := congrArg LockFields.status hfields
      have hfailures : c.failed_login_count = a.failed_login_count :=
        congrArg LockFields.failures hfields
      rw [hstatus, hfailures]
      exact ih ha haid
  | @wrong m m' n call a now h hstep ha haid hwrong ih =>
      have hfields := (call_lock_row hstep ha hc (hcid.trans haid.symm)).fields
      rw [hwrong] at hfields
      have hcounts : ((n + j : Nat) : Int) < env.settings.login_max_failures →
          lockFields c = (lockFields a).fail env.settings now ∧ a.status.usable = true ∧
            a.failed_login_count = ((n + j : Nat) : Int) := by
        intro hlt
        obtain ⟨hausable, hacount⟩ := (ih ha haid).1 hlt
        refine ⟨?_, hausable, hacount⟩
        rw [hfields]
        exact LockFields.after_wrong hausable
      constructor
      · intro hlt
        obtain ⟨hfail, hausable, hacount⟩ := hcounts (by omega)
        have hspare : (lockFields a).failures + 1 < env.settings.login_max_failures := by
          show a.failed_login_count + 1 < _
          omega
        rw [LockFields.fail_of_spare hspare] at hfail
        have hstatus : c.status = a.status := congrArg LockFields.status hfail
        have hfailures : c.failed_login_count = a.failed_login_count + 1 :=
          congrArg LockFields.failures hfail
        exact ⟨by rw [hstatus, hausable], by omega⟩
      · intro hlast
        obtain ⟨hfail, -, hacount⟩ := hcounts (by omega)
        have hlocks : env.settings.login_max_failures ≤ (lockFields a).failures + 1 := by
          show _ ≤ a.failed_login_count + 1
          omega
        rw [LockFields.fail_of_last hlocks] at hfail
        exact congrArg LockFields.status hfail

/-- **The lock fields stay coherent**, and an account that has been made usable again has all its
    attempts, in every run in which every patch of a status is clean. -/
theorem lock_fields_coherent (hK : 1 ≤ env.settings.login_max_failures)
    (hrun : Run (Restrict (callStep env) PatchesCleanly) Store.empty calls s) :
    AllCoherent env.settings s ∧
      ∀ call s', PatchesCleanly s call → callStep env s call s' →
        ∀ a ∈ s.accounts.rows, ∀ b ∈ s'.accounts.rows, b.id = a.id →
          a.status.usable = false → b.status.usable = true →
            ∀ n t, Tries env a.id s' n t → ∀ c ∈ t.accounts.rows, c.id = a.id →
              ((n + (lockEvent env call a).tried : Nat) < env.settings.login_max_failures →
                  c.status.usable = true) ∧
                ((n + (lockEvent env call a).tried : Nat) = env.settings.login_max_failures →
                  c.status = .LOCKED) := by
  have hcoherent : AllCoherent env.settings s :=
    hrun.invariant (I := AllCoherent env.settings)
      (fun _ _ _ hI hstep => hI.step hK hstep.1 hstep.2) (fun a ha => by cases ha)
  refine
    ⟨hcoherent, fun call s' hclean hstep a ha b hb hid hblocked husable n t htries c hc hcid => ?_⟩
  have hfields := (call_lock_row hstep ha hb hid).fields
  have hcount : b.failed_login_count = ((lockEvent env call a).tried : Int) := by
    have hafter : ((lockFields a).after env.settings (lockEvent env call a)).status.usable =
        true := by
      rw [← hfields]
      exact husable
    have hleft := LockFields.failures_of_made_usable hblocked hafter lockEvent_possible
      (lockEvent_clean hstep hclean ha)
    rw [← hfields] at hleft
    exact hleft
  have hspare : ((lockEvent env call a).tried : Int) < env.settings.login_max_failures := by
    rw [← hcount]
    exact (hcoherent.step hK hclean hstep b hb).failures husable
  obtain ⟨hlt, hlast⟩ := tries_count htries hb hid husable hcount hspare hc hcid
  exact ⟨fun h => (hlt h).1, hlast⟩

end Reachable

/-- **A patch leaves a lock's expiry behind.** An operator who is locked by failures and patched to
    `ACTIVE` has an expiry, and as many failures as lock an account. -/
theorem patched_fields_incoherent :
    ¬ ∀ (calls : List Call) (s : Store), Run (callStep .sample) .empty calls s →
      AllCoherent (Env.sample).settings s := by
  intro h
  have hrow : ∃ a ∈ (performAll .sample (twoAccounts ++ guesses ++ [patchOperator 1 .ACTIVE])
      .empty).accounts.rows, a.locked_until ≠ none ∧ a.status ≠ .LOCKED := by decide +kernel
  obtain ⟨a, ha, hexpiry, hstatus⟩ := hrow
  exact hstatus ((h _ _ (run_callsOf _ _ _) a ha).expiry hexpiry)

/-- Nothing else than `update_user` sets a status. -/
theorem patchesCleanly_of_no_patch {s : Store} {call : Call}
    (h : ∀ clock actor user_id payload, call.op ≠ .updateUser clock actor user_id payload) :
    PatchesCleanly s call := by
  rintro user_id status ⟨clock, actor, payload, row, hop, -⟩
  exact absurd hop (h clock actor user_id payload)

/-- The general result on an operator who is locked by failures and unlocked. -/
theorem unlocked_operator_coherent :
    AllCoherent (Env.sample).settings guessed ∧
      ∀ n t, Tries .sample 2 ((unlockOperator.prog .sample).perform guessed) n t →
        ∀ c ∈ t.accounts.rows, c.id = 2 → (n < 5 → c.status.usable = true) ∧
          (n = 5 → c.status = .LOCKED) := by
  have hclean : Run (Restrict (callStep .sample) PatchesCleanly) .empty
      (callsOf .sample (twoAccounts ++ guesses) .empty) guessed := by
    refine
      ((run_callsOf .sample (twoAccounts ++ guesses) .empty).restrict_of_labels fun call hcall =>
      ?_).mono fun m call m' hstep => ⟨patchesCleanly_of_no_patch hstep.1, hstep.2⟩
    intro clock actor user_id payload hop
    have hmem : call.op ∈ (callsOf .sample (twoAccounts ++ guesses) .empty).map (·.op) :=
      List.mem_map_of_mem hcall
    have hops : (callsOf .sample (twoAccounts ++ guesses) .empty).map (·.op) =
        twoAccounts ++ guesses := rfl
    rw [hops, hop] at hmem
    simp [twoAccounts, promotionStart, guesses, sampleLogin] at hmem
  obtain ⟨hcoherent, hlaw⟩ := lock_fields_coherent (by decide) hclean
  refine ⟨hcoherent, fun n t htries c hc hid => ?_⟩
  have hrows : ∃ a ∈ guessed.accounts.rows,
      ∃ b ∈ ((unlockOperator.prog .sample).perform guessed).accounts.rows,
      a.id = 2 ∧ b.id = 2 ∧ a.status.usable = false ∧ b.status.usable = true ∧
        lockEvent .sample (unlockOperator.on .sample guessed) a = .unlock := by decide +kernel
  obtain ⟨a, ha, b, hb, haid, hbid, hblocked, husable, hunlock⟩ := hrows
  have hcount := hlaw (unlockOperator.on .sample guessed) _
    (patchesCleanly_of_no_patch fun _ _ _ _ hop => by cases hop) (callStep_on _ _ _) a ha b hb
    (hbid.trans haid.symm) hblocked husable n t (by rw [haid]; exact htries) c hc
      (hid.trans haid.symm)
  rw [hunlock] at hcount
  refine ⟨fun hlt => hcount.1 ?_, fun hlast => hcount.2 ?_⟩
  · show ((n + 0 : Nat) : Int) < 5
    omega
  · show ((n + 0 : Nat) : Int) = 5
    omega

end NetProbeLockFields
