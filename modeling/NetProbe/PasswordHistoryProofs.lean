import NetProbe.AccountRunsProofs
import NetProbe.RecentEntriesProofs

/-!
# What the password history remembers

`change_password` and `reset_password` move the hash they replace into the history of the
account.  A change keeps only the latest `password_history_count` rows of it; a reset keeps
them all.

`Replaced` says what either does, and `password_step` that nothing else happens to the password
of an account: it is created, replaced, or stays with its history.  The passwords of a run
are read off its calls (`passwords`); `Remembered` relates them to the rows: the history of
an account are hashes of its last superseded passwords, never fewer than the count.  The
check of a change reads the latest rows by time, which are the last ones as long as the
clock advances.
-/

namespace NetProbePasswordHistory

open NetProbePyText NetProbeConfig NetProbeCoreAuth NetProbeAccountStore NetProbeAuthService
open NetProbeAdminUsers NetProbeAccountRuns UniqueTable Transaction Transaction.Txn LabelledRun
open RecentEntries

-- ── The history of one account ────────────────────────────────────────────────────

/-- The rows of the history of an account, in the order they were inserted. -/
def historyOf (u : Uuid) (s : Store) : List PasswordHistory :=
  s.history.rows.filter fun r => r.user_id = u

/-- `password_history_count` as a number of rows. -/
def historyCount (env : Env) : Nat := env.settings.password_history_count.toNat

/-- The row that keeps a hash that is replaced. -/
def replacedRow (historyId : Nat) (user : Account) (txNow : Time) : PasswordHistory where
  id := historyId
  user_id := user.id
  password_hash := user.password_hash
  created_at := txNow

section HistoryOf

variable {env : Env} {s s' : Store} {u v : Uuid} {row : PasswordHistory} {clock : Clock}
  {scan : Scan PasswordHistory} {salt : Str} {historyId : Nat} {context : AuthContext}
  {user : Account} {new_password : Str}

theorem historyOf_insert (hacc : s.history.Accepts (· ++ [row])) :
    historyOf u (s.alterHistory (· ++ [row])) =
      historyOf u s ++ if row.user_id = u then [row] else [] := by
  rw [historyOf]
  rw [Store.alterHistory_history, alter_rows hacc, List.filter_append]
  by_cases hu : row.user_id = u
  · rw [if_pos hu, List.filter_cons_of_pos (by simp [hu])]
    rfl
  · rw [if_neg hu, List.filter_cons_of_neg (by simp [hu])]
    rfl

theorem historyClash_eq {a b : PasswordHistory} (ha : a ∈ s.history.rows) (hb : b ∈ s.history.rows)
    (h : a.id = b.id) : a = b := by
  refine eq_of_clash (fun x y => ?_) ha hb (by simp [historyClash, h])
  simp [historyClash, eq_comm]

/-- The latest rows of an account by time are the last ones inserted. -/
theorem latestHistory_perm {n : Nat} (hlast : LastLatest (·.created_at) n (historyOf u s)) :
    (latestHistory scan (fun r => r.user_id = u) n s).Perm ((historyOf u s).rtake n) :=
  latest_perm (orderByDesc_perm scan) (orderByDesc_sorted scan) hlast

/-- Of the rows of the account, the trimming of a change keeps the last ones. -/
theorem filter_kept (scan : Scan PasswordHistory)
    (hlast : LastLatest (·.created_at) (historyCount env) (historyOf user.id s)) :
    (historyOf user.id s).filter (keptHistory env.settings scan user s) =
      (historyOf user.id s).rtake (historyCount env) := by
  have hlatest : (latestHistory scan (fun r => r.user_id = user.id) (historyCount env) s).Perm
      ((historyOf user.id s).rtake (historyCount env)) := latestHistory_perm hlast
  have hkept : ∀ r ∈ historyOf user.id s, keptHistory env.settings scan user s r = true ↔
      ∃ b ∈ (historyOf user.id s).rtake (historyCount env), b.id = r.id := by
    intro r hr
    have hown : r.user_id = user.id := by simpa using (List.mem_filter.mp hr).2
    simp only [keptHistory, oldHistory, hown, decide_true, Bool.true_and, Bool.not_not,
      List.contains_iff_mem, List.mem_map]
    exact ⟨fun ⟨b, hb, hid⟩ => ⟨b, hlatest.mem_iff.mp hb, hid⟩,
      fun ⟨b, hb, hid⟩ => ⟨b, hlatest.mem_iff.mpr hb, hid⟩⟩
  have hold : ((historyOf user.id s).rdrop (historyCount env)).filter
      (keptHistory env.settings scan user s) = [] := by
    refine List.filter_eq_nil_iff.mpr fun r hr hk => ?_
    obtain ⟨b, hb, hid⟩ := (hkept r (mem_of_mem_rdrop hr)).mp hk
    -- ids are unique, so the row would be before itself
    have hbr : b = r := historyClash_eq (List.mem_filter.mp (mem_of_mem_rtake hb)).1
      (List.mem_filter.mp (mem_of_mem_rdrop hr)).1 hid
    exact lt_irrefl _ (hlast r hr r (hbr ▸ hb))
  have hnew : ((historyOf user.id s).rtake (historyCount env)).filter
      (keptHistory env.settings scan user s) = (historyOf user.id s).rtake (historyCount env) :=
    List.filter_eq_self.mpr fun r hr => (hkept r (mem_of_mem_rtake hr)).mpr ⟨r, hr, rfl⟩
  have hsplit := congrArg (List.filter (keptHistory env.settings scan user s))
    (rdrop_append_rtake (historyOf user.id s) (historyCount env))
  rw [List.filter_append, hold, hnew, List.nil_append] at hsplit
  exact hsplit.symm

/-- The table after a change of a password. -/
theorem history_changedStore :
    (changedStore env.settings env.crypto clock scan salt historyId context user new_password
        s).history.rows =
      (s.alterHistory (· ++ [replacedRow historyId user clock.txNow])).history.rows.filter
        (keptHistory env.settings scan user
          (newHashStore env.settings env.crypto clock salt historyId user new_password s)) :=
  alter_rows accepts_filter

theorem historyOf_newHashStore
    (hacc : s.history.Accepts (· ++ [replacedRow historyId user clock.txNow])) :
    historyOf u (newHashStore env.settings env.crypto clock salt historyId user new_password s) =
      historyOf u s ++ if user.id = u then [replacedRow historyId user clock.txNow] else [] :=
  historyOf_insert hacc

/-- The history of the account after a change of its password. -/
theorem historyOf_changedStore
    (hacc : s.history.Accepts (· ++ [replacedRow historyId user clock.txNow]))
    (hlast : LastLatest (·.created_at) (historyCount env)
      (historyOf user.id s ++ [replacedRow historyId user clock.txNow])) :
    historyOf user.id (changedStore env.settings env.crypto clock scan salt historyId context user
        new_password s) =
      (historyOf user.id s ++ [replacedRow historyId user clock.txNow]).rtake
      (historyCount env) := by
  have hnew : historyOf user.id (newHashStore env.settings env.crypto clock salt historyId user
        new_password s) = historyOf user.id s ++ [replacedRow historyId user clock.txNow] := by
    rw [historyOf_newHashStore hacc, if_pos rfl]
  rw [← hnew] at hlast ⊢
  rw [← filter_kept scan hlast]
  rw [historyOf]
  rw [history_changedStore]
  exact List.filter_comm ..

/-- The history of another account. -/
theorem historyOf_changedStore_other (hne : user.id ≠ u)
    (hacc : s.history.Accepts (· ++ [replacedRow historyId user clock.txNow])) :
    historyOf u (changedStore env.settings env.crypto clock scan salt historyId context user
        new_password s) = historyOf u s := by
  have hins := historyOf_insert (u := u) hacc
  rw [if_neg (by exact hne), List.append_nil] at hins
  rw [← hins]
  rw [historyOf]
  rw [history_changedStore, List.filter_filter]
  refine List.filter_congr fun r _ => ?_
  by_cases hr : r.user_id = u
  · simp [hr, keptHistory, oldHistory, Ne.symm hne]
  · simp [hr]

/-- The histories after a reset. -/
theorem historyOf_resetStore {actor user_id : Uuid} {payload : AdminResetPasswordRequest}
    (hid : user.id = user_id)
    (hacc : s.history.Accepts (· ++ [replacedRow historyId user clock.txNow])) :
    historyOf u
      (resetStore env.settings env.crypto clock actor user_id salt historyId payload user s) =
      historyOf u s ++ if user_id = u then [replacedRow historyId user clock.txNow] else [] := by
  subst hid
  exact historyOf_insert hacc

end HistoryOf
-- ── When a password is replaced ───────────────────────────────────────────────────

/-- What `change_password` checks before it writes anything. -/
structure ChangeAccepted (env : Env) (scan : Scan PasswordHistory) (context : AuthContext)
    (current_password new_password : Str) (s : Store) (user : Account) : Prop where
  database : env.settings.database_enabled = true
  found : s.accounts.rows.find? (byId context.user_id) = some user
  current : verifyPassword env.crypto env.settings current_password user.password_hash = some true
  policy : validatePassword env.py new_password user.username = .ok ()
  limit : 0 ≤ env.settings.password_history_count
  fresh : ∀ hash ∈ user.password_hash :: (latestHistory scan (fun r => r.user_id = user.id)
      (historyCount env) s).map (·.password_hash),
    verifyPassword env.crypto env.settings new_password hash = some false

/-- What `reset_password` checks before it writes anything. -/
structure ResetAccepted (env : Env) (user_id : Uuid)
    (payload : AdminResetPasswordRequest) (s : Store)
    (user : Account) : Prop where
  database : env.settings.database_enabled = true
  found : s.accounts.rows.find? (byId user_id) = some user
  policy : validatePassword env.py payload.temporary_password user.username = .ok ()

section Commits

variable {env : Env} {s s' : Store} {u : Uuid} {clock : Clock}
  {scan : Scan PasswordHistory} {salt : Str}
  {historyId : Nat} {context : AuthContext} {user : Account} {current_password new_password : Str}
  {actor user_id : Uuid} {payload : AdminResetPasswordRequest}
  {answer : Except AuthError Answer}

/-- A change as a call: it is carried out, or leaves the store as it is. -/
theorem callStep_changed
    (h : callStep env s ⟨.changePassword clock scan salt historyId context current_password
      new_password, answer⟩ s') :
    answer ≠ .ok (.changed true) ∧ s' = s ∨
      ∃ user, answer = .ok (.changed true) ∧
        ChangeAccepted env scan context current_password new_password s user ∧
        s.history.Accepts (· ++ [replacedRow historyId user clock.txNow]) ∧
        s' = changedStore env.settings env.crypto clock scan salt historyId
          context user new_password
          s := by
  rcases changePassword_cases env.py env.settings env.crypto clock scan salt historyId context
    current_password new_password s with
    ⟨e, he⟩ | hfalse | ⟨user, ⟨hdb, hfind⟩, hcurrent, ⟨hpolicy, hlimit, hfresh⟩, hacc, hok⟩
  · obtain ⟨hanswer, hs'⟩ := callStep_error h (eval_answering_error he)
    refine Or.inl ⟨?_, hs'⟩
    rw [hanswer]
    exact fun hc => nomatch hc
  · obtain ⟨hanswer, hs'⟩ := callStep_ok h (eval_answering_ok hfalse)
    refine Or.inl ⟨?_, hs'⟩
    rw [hanswer]
    exact fun hc => nomatch hc
  · obtain ⟨hanswer, hs'⟩ := callStep_ok h (eval_answering_ok hok)
    exact Or.inr ⟨user, hanswer, ⟨hdb, hfind, hcurrent, hpolicy, hlimit, hfresh⟩, hacc, hs'⟩

/-- A reset as a call. -/
theorem callStep_reset
    (h : callStep env s ⟨.resetPassword clock actor user_id salt historyId payload, answer⟩ s') :
    (∃ e, answer = .error e) ∧ s' = s ∨
      ∃ user, answer = .ok .done ∧ ResetAccepted env user_id payload s user ∧
        s.history.Accepts (· ++ [replacedRow historyId user clock.txNow]) ∧
        s' = resetStore env.settings env.crypto clock actor user_id salt historyId
          payload user s := by
  rcases resetPassword_cases env.py env.settings env.crypto clock actor user_id
    salt historyId payload
    s with ⟨e, he⟩ | ⟨user, ⟨hdb, hfind⟩, hpolicy, hacc, hok⟩
  · obtain ⟨hanswer, hs'⟩ := callStep_error h (eval_answering_error he)
    exact Or.inl ⟨⟨e, hanswer⟩, hs'⟩
  · obtain ⟨hanswer, hs'⟩ := callStep_ok h (eval_answering_ok hok)
    obtain ⟨-, rfl⟩ := find_byId hfind
    exact Or.inr ⟨user, hanswer, ⟨hdb, hfind, hpolicy⟩, hacc, hs'⟩

end Commits

-- ── What a call does to the password of an account ────────────────────────────────

/-- `now()` of the transaction of an operation. -/
def Op.txNow : Op → Time
  | .authenticate clock .. | .resolveSession clock .. | .revokeSession clock ..
  | .changePassword clock .. | .createUser clock .. | .createAdmin clock .. | .updateUser clock ..
  | .unlockUser clock .. | .resetPassword clock .. | .revokeUserSessions clock .. => clock.txNow

/-- The operations that set passwords over the API. -/
def Op.setsPassword : Op → Bool
  | .createUser .. | .changePassword .. | .resetPassword .. => true
  | _ => false

/-- The password that such an operation puts in force for an account when it commits. -/
def Op.password : Op → Answer → Uuid → Option Str
  | .createUser _ _ user_id _ payload, _, u =>
      if user_id = u then some payload.temporary_password else none
  | .changePassword _ _ _ _ context _ new_password, answer, u =>
      if answer = .changed true ∧ context.user_id = u then some new_password else none
  | .resetPassword _ _ user_id _ _ payload, _, u =>
      if user_id = u then some payload.temporary_password else none
  | _, _, _ => none

/-- The password that a call puts in force for an account. -/
def Call.password (call : Call) (u : Uuid) : Option Str :=
  match call.answer with
  | .ok answer => Op.password call.op answer u
  | .error _ => none

/-- The passwords of an account in the order in which they were in force. -/
def passwords (u : Uuid) (calls : List Call) : List Str :=
  calls.filterMap fun call => Call.password call u

/-- The text is a hash of the password. -/
def HashOf (env : Env) (hash password : Str) : Prop :=
  ∃ salt, hash = hashPassword env.crypto env.settings salt password

/-- The account is there and its hash is one of the password. -/
def InForce (env : Env) (u : Uuid) (password : Str) (s : Store) : Prop :=
  ∃ a ∈ s.accounts.rows, a.id = u ∧ HashOf env a.password_hash password

/-- In a change of the account's password, the rows that stay are later than those that go. -/
def ClockAhead (env : Env) (u : Uuid) (s : Store) : Op → Prop
  | .changePassword clock scan _ historyId context current_password new_password =>
      context.user_id = u →
        ∀ user, ChangeAccepted env scan context current_password new_password s user →
          LastLatest (·.created_at) (historyCount env)
            (historyOf u s ++ [replacedRow historyId user clock.txNow])
  | _ => True

/-- An accepted reset of the account. -/
def Resets (env : Env) (s : Store) (op : Op) (u : Uuid) : Prop :=
  ∃ clock actor salt historyId payload user,
    op = .resetPassword clock actor u salt historyId payload ∧ ResetAccepted env u payload s user

/-- A password is put in force and the hash of the one before becomes `row`. -/
structure Replaced (env : Env) (call : Call) (u : Uuid) (password : Str) (row : PasswordHistory)
    (s s' : Store) : Prop where
  sets : Call.password call u = some password
  old : ∃ user ∈ s.accounts.rows, user.id = u ∧ row.password_hash = user.password_hash
  time : row.created_at = Op.txNow call.op
  inForce : InForce env u password s'

/-- What a call can do to the password of an account and its history. -/
inductive PasswordStep (env : Env) (call : Call) (u : Uuid) (s s' : Store) : Prop where
  | same (hpassword : Call.password call u = none) (hhistory : historyOf u s' = historyOf u s)
      (haccounts : ∀ b, b.id = u → (b ∈ s'.accounts.rows ↔ b ∈ s.accounts.rows))
  | created {password : Str} (hpassword : Call.password call u = some password)
      (hnew : s.hasAccount u = false) (hhistory : historyOf u s' = historyOf u s)
      (hforce : InForce env u password s')
  | changed {password : Str} {row : PasswordHistory}
    (hreplaced : Replaced env call u password row s s')
      (hhistory : historyOf u s' = (historyOf u s ++ [row]).rtake (historyCount env))
  | reset {password : Str} {row : PasswordHistory}
    (hreplaced : Replaced env call u password row s s')
      (hhistory : historyOf u s' = historyOf u s ++ [row]) (haccepted : Resets env s call.op u)

section Steps

variable {env : Env} {s s' : Store} {u v : Uuid} {clock : Clock}
  {scan : Scan PasswordHistory} {salt : Str}
  {historyId : Nat} {context : AuthContext} {user : Account} {current_password new_password : Str}
  {actor user_id : Uuid} {call : Call} {answer : Except AuthError Answer}

/-- A call that leaves the store as it is. -/
theorem passwordStep_refl (hpassword : Call.password call u = none) : PasswordStep env call u s s :=
  .same hpassword rfl fun _ _ => Iff.rfl

theorem password_of_error {op : Op} {e : AuthError} : Call.password ⟨op, .error e⟩ u = none := rfl

/-- The accounts after a new hash was set. -/
theorem inForce_setPassword {must : Bool} {time : Time} {password : Str} {t : Store}
    (hmem : user ∈ s.accounts.rows)
    (ht : t.accounts = (s.setAccount user.id (setPassword
      (hashPassword env.crypto env.settings salt password) must time)).accounts) :
    InForce env user.id password t := by
  refine
    ⟨setPassword (hashPassword env.crypto env.settings salt password) must time user, ?_, rfl, salt,
    rfl⟩
  rw [ht]
  exact (mem_setAccount setPassword_keeps).mpr ⟨user, hmem, if_pos rfl⟩

theorem mem_setPassword_other {hash : Str} {must : Bool} {time : Time} {t : Store} (hne : v ≠ u)
    (ht : t.accounts = (s.setAccount v (setPassword hash must time)).accounts) (b : Account)
    (hid : b.id = u) : b ∈ t.accounts.rows ↔ b ∈ s.accounts.rows := by
  have hbv : b.id ≠ v := fun h => hne (h.symm.trans hid)
  rw [ht, mem_setAccount setPassword_keeps]
  constructor
  · rintro ⟨a, ha, hab⟩
    split at hab
    · rename_i hav
      subst hab
      exact absurd hav hbv
    · exact hab ▸ ha
  · exact fun hb => ⟨b, hb, if_neg hbv⟩

theorem passwordStep_changePassword
    (hclock : ClockAhead env u s (.changePassword clock scan salt historyId context current_password
      new_password))
    (h : callStep env s ⟨.changePassword clock scan salt historyId context current_password
      new_password, answer⟩ s') :
    PasswordStep env
      ⟨.changePassword clock scan salt historyId context current_password new_password,
      answer⟩ u s s' := by
  rcases callStep_changed h with ⟨hanswer, rfl⟩ | ⟨user, rfl, haccepted, hacc, rfl⟩
  · refine passwordStep_refl ?_
    cases answer with
    | error e => rfl
    | ok ans => exact if_neg fun hc => hanswer (congrArg Except.ok hc.1)
  · obtain ⟨hmem, hid⟩ := find_byId haccepted.found
    by_cases hu : context.user_id = u
    · obtain rfl : user.id = u := hid.trans hu
      refine .changed (?_ : Replaced env _ user.id new_password
        (replacedRow historyId user clock.txNow)
        _ _) (historyOf_changedStore hacc (hclock hu user haccepted))
      exact ⟨if_pos ⟨rfl, hu⟩, ⟨user, hmem, rfl, rfl⟩, rfl, inForce_setPassword hmem rfl⟩
    · have hne : user.id ≠ u := fun h => hu (hid.symm.trans h)
      exact .same (if_neg fun hc => hu hc.2) (historyOf_changedStore_other hne hacc)
        (mem_setPassword_other hne rfl)

theorem passwordStep_resetPassword {payload : AdminResetPasswordRequest}
    (h : callStep env s ⟨.resetPassword clock actor user_id salt historyId payload, answer⟩ s') :
    PasswordStep env ⟨.resetPassword clock actor user_id salt historyId payload, answer⟩ u
      s s' := by
  rcases callStep_reset h with ⟨⟨e, rfl⟩, rfl⟩ | ⟨user, rfl, haccepted, hacc, rfl⟩
  · exact passwordStep_refl password_of_error
  · obtain ⟨hmem, rfl⟩ := find_byId haccepted.found
    have hins :
        historyOf u (resetStore env.settings env.crypto clock actor user.id salt historyId payload
          user s) =
        historyOf u s ++ if user.id = u then [replacedRow historyId user clock.txNow] else [] :=
      historyOf_resetStore rfl hacc
    by_cases hu : user.id = u
    · subst hu
      rw [if_pos rfl] at hins
      refine .reset (?_ : Replaced env _ user.id payload.temporary_password
        (replacedRow historyId user clock.txNow) _ _) hins
        ⟨clock, actor, salt, historyId, payload, user, rfl, haccepted⟩
      exact ⟨if_pos rfl, ⟨user, hmem, rfl, rfl⟩, rfl, inForce_setPassword hmem rfl⟩
    · rw [if_neg hu, List.append_nil] at hins
      exact .same (if_neg hu) hins (mem_setPassword_other hu rfl)

theorem passwordStep_createUser {payload : UserCreateRequest}
    (h : callStep env s ⟨.createUser clock actor user_id salt payload, answer⟩ s') :
    PasswordStep env ⟨.createUser clock actor user_id salt payload, answer⟩ u s s' := by
  rcases createUser_cases env.py env.settings env.crypto clock actor user_id salt payload s with
    ⟨e, he⟩ | ⟨hacc, hok⟩
  · obtain ⟨rfl, rfl⟩ := callStep_error h (eval_answering_error he)
    exact passwordStep_refl password_of_error
  · obtain ⟨rfl, rfl⟩ := callStep_ok h (eval_answering_ok hok)
    have hrows := alter_rows hacc
    by_cases hu : user_id = u
    · have hfree : ∀ a ∈ s.accounts.rows, a.id ≠ u := by
        intro a ha hid
        have hclash := accepts_append_iff.mp hacc a ha
        simp [accountClash, createdAccount, newAccount, hid, hu] at hclash
      refine .created (if_pos hu) ?_ rfl
        ⟨_, hrows ▸ List.mem_append_right _ (List.mem_singleton_self _),
        hu, salt, rfl⟩
      by_contra hne
      obtain ⟨a, ha, hid⟩ := List.any_eq_true.mp (Bool.not_eq_false _ ▸ hne)
      exact hfree a ha (of_decide_eq_true hid)
    · refine .same (if_neg hu) rfl fun b hid => ⟨fun hb => ?_, fun hb => ?_⟩
      · rcases List.mem_append.mp (hrows ▸ hb) with hold | hnew
        · exact hold
        · rw [List.mem_singleton.mp hnew] at hid
          exact absurd hid hu
      · exact hrows ▸ List.mem_append_left _ hb

/-- **What a call does to the password of an account.** -/
theorem password_step (hop : Op.setsPassword call.op = true) (hclock : ClockAhead env u s call.op)
    (h : callStep env s call s') : PasswordStep env call u s s' := by
  obtain ⟨op, answer⟩ := call
  cases op with
  | createUser clock actor user_id salt payload => exact passwordStep_createUser h
  | changePassword clock scan salt historyId context current_password new_password =>
      exact passwordStep_changePassword hclock h
  | resetPassword clock actor user_id salt historyId payload => exact passwordStep_resetPassword h
  | authenticate | resolveSession | revokeSession | createAdmin | updateUser | unlockUser
  | revokeUserSessions => cases hop

end Steps

-- ── Runs ──────────────────────────────────────────────────────────────────────────

/-- The transaction times of the calls increase. -/
def Advancing (calls : List Call) : Prop :=
  (calls.map fun call => Op.txNow call.op).Pairwise (· < ·)

/-- The history of an account holds hashes of its last superseded passwords, at least as many as
    the count, in the order of their times. -/
structure Remembered (env : Env) (u : Uuid) (calls : List Call) (s : Store) : Prop where
  born : s.hasAccount u = true → passwords u calls ≠ []
  inForce : ∀ password ∈ (passwords u calls).getLast?, InForce env u password s
  history : ∃ m, historyCount env ≤ m ∧
    List.Forall₂ (fun r password => HashOf env r.password_hash password)
    (historyOf u s) ((passwords u calls).dropLast.rtake m)
  increasing : (historyOf u s).Pairwise fun a b => a.created_at < b.created_at
  times : ∀ r ∈ historyOf u s, r.created_at ∈ calls.map fun call => Op.txNow call.op

section Runs

variable {env : Env} {s s' : Store} {u : Uuid} {calls : List Call} {call : Call} {password : Str}
  {row : PasswordHistory}

theorem passwords_concat : passwords u (calls ++ [call]) = passwords u calls ++
    (Call.password call u).toList := by
  rw [passwords]
  rw [List.filterMap_append]
  cases h : Call.password call u with
  | none => rw [List.filterMap_cons_none (by exact h)]; rfl
  | some password => rw [List.filterMap_cons_some (by exact h)]; rfl

theorem Advancing.init (h : Advancing (calls ++ [call])) : Advancing calls := by
  rw [Advancing] at h ⊢
  rw [List.map_append] at h
  exact (List.pairwise_append.mp h).1

/-- The last call of a run is later than all before. -/
theorem Advancing.lt_last (h : Advancing (calls ++ [call])) {time : Time}
    (htime : time ∈ calls.map fun call => Op.txNow call.op) : time < Op.txNow call.op := by
  rw [Advancing] at h
  rw [List.map_append] at h
  exact (List.pairwise_append.mp h).2.2 time htime _ (by simp)

/-- The rows with the one that a call adds are in the order of their times. -/
theorem Remembered.increasing_concat (h : Remembered env u calls s)
    (hadvancing : Advancing (calls ++ [call]))
    (htime : row.created_at = Op.txNow call.op) :
    (historyOf u s ++ [row]).Pairwise fun a b => a.created_at < b.created_at := by
  refine List.pairwise_append.mpr ⟨h.increasing, List.pairwise_singleton _ _, fun a ha b hb => ?_⟩
  rw [List.mem_singleton.mp hb, htime]
  exact hadvancing.lt_last (h.times a ha)

/-- The clock of a run with increasing times is ahead. -/
theorem Remembered.clockAhead (h : Remembered env u calls s)
    (hadvancing : Advancing (calls ++ [call])) :
    ClockAhead env u s call.op := by
  unfold ClockAhead
  split
  · rename_i clock scan salt historyId context current_password new_password hop
    intro _ user _
    refine lastLatest_of_increasing (h.increasing_concat hadvancing ?_)
    rw [hop]
    rfl
  · trivial

/-- The password in force is the last one, and the row that replaces it is a hash of it. -/
theorem Remembered.replaced (h : Remembered env u calls s)
    (hreplaced : Replaced env call u password row s s') :
    ∃ last, passwords u calls = (passwords u calls).dropLast ++ [last] ∧
      HashOf env row.password_hash last := by
  obtain ⟨user, huser, hid, hrow⟩ := hreplaced.old
  have hne : passwords u calls ≠ [] := h.born (hid ▸ hasAccount_of_mem huser)
  refine ⟨(passwords u calls).getLast hne, (List.dropLast_append_getLast hne).symm, ?_⟩
  obtain ⟨a, ha, haid, hhash⟩ := h.inForce _ (List.getLast?_eq_getLast_of_ne_nil hne)
  rw [hrow, account_unique huser ha (hid.trans haid.symm)]
  exact hhash

/-- A step that replaces the password, whatever it keeps of the history. -/
theorem Remembered.replace (h : Remembered env u calls s) (hadvancing : Advancing (calls ++ [call]))
    (hreplaced : Replaced env call u password row s s') {n : Nat} (hn : historyCount env ≤ n)
    (hhistory : historyOf u s' = (historyOf u s ++ [row]).rtake n) :
    Remembered env u (calls ++ [call]) s' := by
  have hpasswords : passwords u (calls ++ [call]) = passwords u calls ++ [password] := by
    rw [passwords_concat, hreplaced.sets]
    rfl
  obtain ⟨last, hlast, hhash⟩ := h.replaced hreplaced
  obtain ⟨m, hm, hrows⟩ := h.history
  refine ⟨fun _ => by simp [hpasswords], ?_, ⟨min (m + 1) n, by omega, ?_⟩, ?_, ?_⟩
  · intro p hp
    rw [hpasswords, List.getLast?_concat] at hp
    obtain rfl : password = p := Option.some.inj hp
    exact hreplaced.inForce
  · rw [hhistory, hpasswords, List.dropLast_concat, ← rtake_rtake]
    refine forall₂_rtake ?_
    rw [hlast, List.rtake_concat_succ]
    exact List.rel_append hrows (.cons hhash .nil)
  · rw [hhistory]
    exact (h.increasing_concat hadvancing hreplaced.time).sublist (List.drop_sublist _ _)
  · intro r hr
    rw [hhistory] at hr
    rw [List.map_append]
    rcases List.mem_append.mp (mem_of_mem_rtake hr) with hold | hnew
    · exact List.mem_append_left _ (h.times r hold)
    · rw [List.mem_singleton.mp hnew, hreplaced.time]
      exact List.mem_append_right _ (by simp)

/-- The rows of an unchanged history still have times of the run. -/
theorem Remembered.times_concat (h : Remembered env u calls s)
    (hhistory : historyOf u s' = historyOf u s) :
    ∀ r ∈ historyOf u s', r.created_at ∈ (calls ++ [call]).map fun call => Op.txNow call.op := by
  intro r hr
  rw [hhistory] at hr
  rw [List.map_append]
  exact List.mem_append_left _ (h.times r hr)

/-- A step that leaves the password and its history alone. -/
theorem Remembered.same (h : Remembered env u calls s) (hpassword : Call.password call u = none)
    (hhistory : historyOf u s' = historyOf u s)
    (haccounts : ∀ b, b.id = u → (b ∈ s'.accounts.rows ↔ b ∈ s.accounts.rows)) :
    Remembered env u (calls ++ [call]) s' := by
  have hpasswords : passwords u (calls ++ [call]) = passwords u calls := by
    rw [passwords_concat, hpassword]
    exact List.append_nil _
  refine ⟨fun hu => ?_, fun p hp => ?_, ?_, ?_, h.times_concat hhistory⟩
  · rw [hpasswords]
    obtain ⟨b, hb, hid⟩ := exists_of_hasAccount hu
    exact h.born (hid ▸ hasAccount_of_mem ((haccounts b hid).mp hb))
  · obtain ⟨a, ha, hid, hhash⟩ := h.inForce p (hpasswords ▸ hp)
    exact ⟨a, (haccounts a hid).mpr ha, hid, hhash⟩
  · rw [hhistory, hpasswords]
    exact h.history
  · rw [hhistory]
    exact h.increasing

/-- A step that creates the account. -/
theorem Remembered.create (h : Remembered env u calls s)
    (hpassword : Call.password call u = some password)
    (hnew : s.hasAccount u = false) (hhistory : historyOf u s' = historyOf u s)
    (hforce : InForce env u password s') : Remembered env u (calls ++ [call]) s' := by
  have hnone : passwords u calls = [] := by
    by_contra hne
    obtain ⟨a, ha, hid, -⟩ := h.inForce _ (List.getLast?_eq_getLast_of_ne_nil hne)
    rw [← hid, hasAccount_of_mem ha] at hnew
    cases hnew
  have hpasswords : passwords u (calls ++ [call]) = [password] := by
    rw [passwords_concat, hpassword, hnone]
    rfl
  obtain ⟨m, hm, hrows⟩ := h.history
  refine ⟨fun _ => by simp [hpasswords], fun q hq => ?_, ⟨m, hm, ?_⟩, ?_, h.times_concat hhistory⟩
  · rw [hpasswords] at hq
    obtain rfl : password = q := Option.some.inj hq
    exact hforce
  · rw [hhistory, hpasswords]
    rw [hnone] at hrows
    exact hrows
  · rw [hhistory]
    exact h.increasing

/-- The step lemma. -/
theorem Remembered.step (h : Remembered env u calls s) (hadvancing : Advancing (calls ++ [call]))
    (hstep : PasswordStep env call u s s') : Remembered env u (calls ++ [call]) s' := by
  cases hstep with
  | same hpassword hhistory haccounts => exact h.same hpassword hhistory haccounts
  | created hpassword hnew hhistory hforce => exact h.create hpassword hnew hhistory hforce
  | changed hreplaced hhistory => exact h.replace hadvancing hreplaced le_rfl hhistory
  | @reset p row hreplaced hhistory haccepted =>
      refine h.replace hadvancing hreplaced (Nat.le_max_left _ (historyOf u s ++ [row]).length) ?_
      rw [rtake_of_length_le (Nat.le_max_right _ _)]
      exact hhistory

/-- The run lemma: an account that is created in the run. -/
theorem remembered_run {s₀ : Store}
    (hforeign : ∀ r ∈ s₀.history.rows, s₀.hasAccount r.user_id = true)
    (hnew : s₀.hasAccount u = false) (hrun : Run (callStep env) s₀ calls s)
    (hops : ∀ call ∈ calls, Op.setsPassword call.op = true) (hadvancing : Advancing calls) :
    Remembered env u calls s := by
  have hnone : historyOf u s₀ = [] := by
    refine List.filter_eq_nil_iff.mpr fun r hr hu => ?_
    have hu : r.user_id = u := of_decide_eq_true hu
    rw [← hu, hforeign r hr] at hnew
    cases hnew
  have hstart : Remembered env u [] s₀ := by
    refine ⟨fun hu => ?_, fun p hp => (nomatch hp), ⟨historyCount env, le_rfl, ?_⟩,
      ?_, fun r hr => ?_⟩
    · rw [hnew] at hu
      cases hu
    · rw [hnone, show passwords u [] = [] from rfl, List.dropLast_nil, List.rtake_nil]
      exact .nil
    · rw [hnone]
      exact .nil
    · rw [hnone] at hr
      cases hr
  refine hrun.invariant_of_labels (I := fun calls s =>
    (∀ call ∈ calls, Op.setsPassword call.op = true) → Advancing calls →
      Remembered env u calls s) ?_
    (fun _ _ => hstart) hops hadvancing
  intro calls m call m' hm hs hops hadvancing
  have hrem := hm (fun c hc => hops c (List.mem_append_left _ hc)) hadvancing.init
  exact hrem.step hadvancing (password_step (hops call (by simp)) (hrem.clockAhead hadvancing) hs)

/-- The latest rows of the history are hashes of the last passwords before the one in force. -/
theorem Remembered.checked (h : Remembered env u calls s) (scan : Scan PasswordHistory) {q : Str}
    (hq : q ∈ (passwords u calls).dropLast.rtake (historyCount env)) :
    ∃ r ∈ latestHistory scan (fun r => r.user_id = u) (historyCount env) s,
      HashOf env r.password_hash q := by
  obtain ⟨m, hm, hrows⟩ := h.history
  have hlast := forall₂_rtake (n := historyCount env) hrows
  rw [rtake_rtake, Nat.min_eq_right hm] at hlast
  obtain ⟨r, hr, hhash⟩ := exists_of_mem_right hlast hq
  exact ⟨r, (latestHistory_perm (lastLatest_of_increasing h.increasing)).mem_iff.mpr hr, hhash⟩

/-- A password that does not verify against a hash is not the one that was hashed. -/
theorem ne_of_not_verified (hexact : ExactVerify env.crypto env.settings) {hash p q : Str}
    (hhash : HashOf env hash q) (h : verifyPassword env.crypto env.settings p hash = some false) :
      p ≠ q := by
  obtain ⟨salt, rfl⟩ := hhash
  rw [hexact salt p q] at h
  exact of_decide_eq_false (Option.some.inj h)

/-- **No recent password is accepted again.** -/
theorem recent_passwords_refused (hexact : ExactVerify env.crypto env.settings) {s₀ : Store}
    {clock : Clock} {scan : Scan PasswordHistory} {salt : Str} {historyId : Nat}
    {context : AuthContext}
    {current_password new_password : Str} {answer : Except AuthError Answer}
    (hforeign : ∀ r ∈ s₀.history.rows, s₀.hasAccount r.user_id = true)
    (hnew : s₀.hasAccount context.user_id = false) (hrun : Run (callStep env) s₀ calls s)
    (hops : ∀ call ∈ calls, Op.setsPassword call.op = true)
    (hstep : callStep env s ⟨.changePassword clock scan salt historyId context current_password
      new_password, answer⟩ s')
    (hadvancing : Advancing (calls ++ [⟨.changePassword clock scan salt historyId context
      current_password new_password, answer⟩])) :
    (∀ p ∈ (passwords context.user_id calls).getLast?, InForce env context.user_id p s) ∧
      (answer = .ok (.changed true) →
        new_password ∉ (passwords context.user_id calls).rtake (historyCount env + 1)) ∧
      (answer ≠ .ok (.changed true) → s' = s) := by
  have hrem := remembered_run hforeign hnew hrun hops hadvancing.init
  refine ⟨hrem.inForce, fun hanswer => ?_, fun hanswer => ?_⟩
  · rcases callStep_changed hstep with ⟨hne, -⟩ | ⟨user, -, haccepted, -, -⟩
    · exact absurd hanswer hne
    · obtain ⟨hmem, hid⟩ := find_byId haccepted.found
      have hborn := hrem.born (hid ▸ hasAccount_of_mem hmem)
      obtain ⟨a, ha, haid, hhash⟩ := hrem.inForce _ (List.getLast?_eq_getLast_of_ne_nil hborn)
      have hau : a = user := account_unique ha hmem (haid.trans hid.symm)
      rw [← List.dropLast_append_getLast hborn, List.rtake_concat_succ]
      intro hused
      rcases List.mem_append.mp hused with hbefore | hlast
      · obtain ⟨r, hr, hrhash⟩ := hrem.checked scan hbefore
        refine ne_of_not_verified hexact hrhash (haccepted.fresh _ ?_) rfl
        rw [hid]
        exact List.mem_cons_of_mem _ (List.mem_map.mpr ⟨r, hr, rfl⟩)
      · refine ne_of_not_verified hexact hhash (haccepted.fresh _ ?_) (List.mem_singleton.mp hlast)
        rw [hau]
        exact List.mem_cons_self ..
  · rcases callStep_changed hstep with ⟨-, hs'⟩ | ⟨user, hok, -, -, -⟩
    · exact hs'
    · exact absurd hok hanswer

end Runs

/-- A store with one administrator. -/
def administered : Store :=
  performAll .sample [.createAdmin ⟨0, 0, 0⟩ 1 [] (str "root") (str "root") none
    (str "correct horse battery") (str "correct horse battery")] .empty

/-- The administrator creates an account. -/
def createOperator (now : Time) : Op :=
  .createUser ⟨now, now, now⟩ 1 2 [] .sample

/-- The administrator resets the password of an account. -/
def resetOperator (now : Time) : Op :=
  .resetPassword ⟨now, now, now⟩ 1 2 [] now.toNat ⟨str "second long secret", by decide⟩

/-- The owner changes the password. -/
def changeTo (now : Time) (current_password new_password : Str) : Op :=
  .changePassword ⟨now, now, now⟩ .asInserted [] now.toNat
    ⟨2, 7, str "operator2", str "operator", .OPERATOR, true⟩ current_password new_password

/-- An account is created, reset and changed. -/
def threePasswords : List Op :=
  [createOperator 1, resetOperator 2,
    changeTo 3 (str "second long secret") (str "third long secret")]

/-- The general result on the first password of an account, two passwords later. -/
theorem first_password_refused :
    ((changeTo 4 (str "third long secret") (str "first long secret")).prog .sample).result
        (performAll .sample threePasswords administered) ≠ .ok (.changed true) ∧
      ((changeTo 4 (str "third long secret") (str "first long secret")).prog .sample).perform
        (performAll .sample threePasswords administered) =
          performAll .sample threePasswords administered := by
  have hgeneral :=
    recent_passwords_refused (plain_exactVerify _) (by decide +kernel) (by decide +kernel)
    (run_callsOf .sample threePasswords administered) (by decide +kernel)
    (callStep_on .sample (changeTo 4 (str "third long secret") (str "first long secret")) _)
    (by unfold Advancing; decide +kernel)
  have hused : str "first long secret" ∈
      (passwords 2 (callsOf .sample threePasswords administered)).rtake 6 := by decide +kernel
  have hrefused :
      ((changeTo 4 (str "third long secret") (str "first long secret")).prog .sample).result
      (performAll .sample threePasswords administered) ≠ .ok (.changed true) :=
    fun hchanged => hgeneral.2.1 hchanged hused
  exact ⟨hrefused, hgeneral.2.2 hrefused⟩

end NetProbePasswordHistory
