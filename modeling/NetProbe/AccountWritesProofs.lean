import NetProbe.AccountRunsProofs

/-!
# What the account operations write

`Change env op` lists the changes of the store that the statements of an operation can make,
whatever they find and see: rows of sessions are revoked, an account that is selected by its id
gets one of the new versions that `RowChange` lists, a row is inserted, and the other two tables
change.  `op_changes` reads this off the program of every operation.

A property of an operation that rests only on what it can write is derived from this list,
without its program: run alone by `callStep_related`, interleaved with others by
`Makes.always`.
-/

namespace NetProbeAccountRuns

open NetProbePyText NetProbeConfig NetProbeCoreAuth NetProbeAccountStore NetProbeAuthService
open NetProbeAdminUsers UniqueTable Transaction Transaction.Txn LabelledRun

/-- The new versions an operation gives to the account with an id. -/
inductive RowChange (env : Env) : Op → Uuid → (Account → Account) → Prop where
  | expireLock {clock : Clock} {draw : LoginDraw} {scan : Scan Session}
      {username password client_ip : Str} {user_agent : Option Str} (id : Uuid) :
      RowChange env (.authenticate clock draw scan username password client_ip user_agent) id
        expireLock
  | failure {clock : Clock} {draw : LoginDraw} {scan : Scan Session}
      {username password client_ip : Str} {user_agent : Option Str} (user : Account) :
      RowChange env (.authenticate clock draw scan username password client_ip user_agent) user.id
        (failureRow env.settings clock user)
  | login {clock : Clock} {draw : LoginDraw} {scan : Scan Session}
      {username password client_ip : Str} {user_agent : Option Str} (id : Uuid) (hash : Str) :
      RowChange env (.authenticate clock draw scan username password client_ip user_agent) id
        (recordLogin hash clock.utcnow clock.txNow)
  | change {clock : Clock} {scan : Scan PasswordHistory} {salt : Str} {historyId : Nat}
      {context : AuthContext} {current_password new_password : Str} (hash : Str) :
      RowChange env (.changePassword clock scan salt historyId context
        current_password new_password)
        context.user_id (setPassword hash false clock.txNow)
  | patch {clock : Clock} {actor user_id : Uuid} {payload : UserUpdateRequest} :
      RowChange env (.updateUser clock actor user_id payload) user_id (patched env.py clock payload)
  | unlock {clock : Clock} {actor user_id : Uuid} :
      RowChange env (.unlockUser clock actor user_id) user_id (unlocked clock.txNow)
  | reset {clock : Clock} {actor user_id : Uuid} {salt : Str} {historyId : Nat}
      {payload : AdminResetPasswordRequest} (hash : Str) :
      RowChange env (.resetPassword clock actor user_id salt historyId payload) user_id
        (setPassword hash true clock.txNow)

/-- The account an operation inserts. -/
inductive NewRow (env : Env) : Op → Account → Prop where
  | user {clock : Clock} {actor user_id : Uuid} {salt : Str} {payload : UserCreateRequest} :
      NewRow env (.createUser clock actor user_id salt payload)
        (createdAccount env.py env.settings env.crypto clock actor user_id salt payload)
  | admin {clock : Clock} {user_id : Uuid} {salt username display_name : Str} {email : Option Str}
      {password confirm : Str} (name : Str) :
      NewRow env (.createAdmin clock user_id salt username display_name email password confirm)
        (newAccount clock user_id name (keptEmail email) (strip env.py display_name)
          (hashPassword env.crypto env.settings salt password) .ADMIN .ACTIVE none)

/-- The changes of the store that the statements of an operation can make. -/
inductive Change (env : Env) : Op → (Store → Store) → Prop where
  | same (op : Op) : Change env op id
  | audit (op : Op) (event : AuthAuditEvent) : Change env op fun s => s.addAudit event
  | history (op : Op) (g : List PasswordHistory → List PasswordHistory) :
      Change env op fun s => s.alterHistory g
  | revoke (op : Op) (p : Session → Bool) (time : Time) (reason : Str) :
      Change env op fun s => s.setSessions p (revoke time reason)
  | account {op : Op} {id : Uuid} {f : Account → Account} (h : RowChange env op id f)
      (ks : List LockKey) :
      Change env op fun s => s.alterAccounts (updateWhere (foundAccount ks (byId id)) f)
  | insert {op : Op} {row : Account} (h : NewRow env op row) :
      Change env op fun s => s.alterAccounts (· ++ [row])
  | touch {clock : Clock} {token : Str} (p : Session → Bool) :
      Change env (.resolveSession clock token) fun s =>
        s.setSessions p (touch clock.utcnow
          (clock.utcnow + minutes env.settings.session_idle_minutes))
  | session {clock : Clock} {draw : LoginDraw} {scan : Scan Session}
      {username password client_ip : Str} {user_agent : Option Str} (user : Account) :
      Change env (.authenticate clock draw scan username password client_ip user_agent) fun s =>
        s.alterSessions (· ++ [newSession env.py env.settings env.crypto clock draw
          (hashClientIp env.crypto env.settings client_ip) user_agent user])

/-- The program makes only changes of the operation, and returns what satisfies `R`. -/
abbrev Changes (env : Env) (op : Op) {α : Type} (R : α → Prop) (p : AuthTxn α) : Prop :=
  Makes (Change env op) R p

section Statements

variable {env : Env} {op : Op}

-- ── The statements ────────────────────────────────────────────────────────────────

/-- A statement that only reads. -/
theorem changes_read {α : Type} {R : α → Prop} {found : Store → List LockKey}
    {f : List LockKey → Store → Except AuthError (α × (Store → Store))}
    (h : ∀ ks v r, f ks v = .ok r → r.2 = id ∧ R r.1) : Changes env op R (query found f) := by
  refine makes_query (.same op) fun ks v r hr => ?_
  obtain ⟨hid, hR⟩ := h ks v r hr
  rw [hid]
  exact ⟨.same op, hR⟩

theorem changes_selectAccountForUpdate (p : Account → Bool) :
    Changes env op (fun r => ∀ a ∈ r, p a = true) (selectAccountForUpdate p) := by
  refine changes_read fun ks v r hr => ?_
  cases hr
  refine ⟨rfl, fun a ha => ?_⟩
  have hfound := List.find?_some ha
  rw [foundAccount] at hfound
  exact (Bool.and_eq_true_iff.mp hfound).2

theorem changes_updateAccounts {keys : List LockKey} {id : Uuid} {f : Account → Account}
    (h : RowChange env op id f) :
    Changes env op (fun _ => True) (updateAccounts keys (byId id) f) := by
  refine makes_query (.same op) fun ks v r hr => ?_
  rw [changeAccounts] at hr
  split at hr
  · cases hr
    exact ⟨.account h ks, trivial⟩
  · cases hr

theorem changes_revoke {p : Session → Bool} {time : Time} {reason : Str} :
    Changes env op (fun _ => True) (updateSessions p (revoke time reason)) := by
  refine makes_query (.same op) fun ks v r hr => ?_
  cases hr
  exact ⟨.revoke op _ time reason, trivial⟩

theorem changes_insertHistory (row : PasswordHistory) :
    Changes env op (fun _ => True) (insertHistory row) := by
  refine makes_query (.same op) fun ks v r hr => ?_
  split at hr
  · cases hr
  · split at hr
    · cases hr
      exact ⟨.history op _, trivial⟩
    · cases hr

theorem changes_trimHistory (scan : Scan PasswordHistory)
    (p : PasswordHistory → Bool) (limit : Int) :
    Changes env op (fun _ => True) (trimHistory scan p limit) := by
  refine makes_query (.same op) fun ks v r hr => ?_
  split at hr
  · cases hr
  · cases hr
    exact ⟨.history op _, trivial⟩

theorem changes_addAuthEvent (clock : Clock) (fields : AuditFields) :
    Changes env op (fun _ => True) (addAuthEvent env.settings clock fields) := by
  refine Makes.bind (R := fun _ => True) (makes_tell _ trivial) fun _ _ =>
    makes_query (.same op) fun ks v r hr => ?_
  split at hr
  · cases hr
    exact ⟨.audit op _, trivial⟩
  · cases hr

theorem changes_verify (user_id : Option Uuid) (password hash : Str) :
    Changes env op (fun _ => True) (verify env.settings env.crypto user_id password hash) := by
  rw [verify]
  split
  · exact makes_raise _
  · exact (makes_ret trivial).emit _

theorem changes_verifiesAny (user_id : Uuid) (password : Str) (hashes : List Str) :
    Changes env op (fun _ => True)
      (verifiesAny env.settings env.crypto user_id password hashes) := by
  induction hashes with
  | nil => exact makes_ret trivial
  | cons hash hashes ih =>
      refine (changes_verify _ _ _).bind fun found _ => ?_
      cases found with
      | true => exact makes_ret trivial
      | false => exact ih

/-- A statement whose answer is not looked at. -/
theorem changes_do {α : Type} {R : α → Prop} {p : AuthTxn α} (h : Changes env op R p) :
    Changes env op (fun _ => True) (p.bind fun _ => .ret ()) := h.bind fun _ _ => makes_ret trivial

theorem changes_withPool {α : Type} {R : α → Prop} {p : AuthTxn α} (h : Changes env op R p) :
    Changes env op R (withPool env.settings p) :=
  withPool_rule h (makes_raise _)

theorem changes_answering {α : Type} {R : α → Prop} {p : AuthTxn α} {f : α → Answer}
    (h : Changes env op R p) : Changes env op (fun _ => True) (answering p f) :=
  h.bind fun _ _ => makes_ret trivial

end Statements

section Programs

variable {env : Env}

-- ── The programs ──────────────────────────────────────────────────────────────────

section Login

variable {clock : Clock} {draw : LoginDraw} {scan : Scan Session}
  {username password client_ip : Str}
  {user_agent client_key : Option Str}

theorem changes_autoUnlock (found : Account) :
    Changes env (.authenticate clock draw scan username password client_ip user_agent)
      (fun _ => True) (autoUnlock clock found) := by
  rw [autoUnlock]
  split
  · exact changes_do (changes_updateAccounts (.expireLock found.id))
  · exact makes_ret trivial

theorem changes_loginFails (user : Account) :
    Changes env (.authenticate clock draw scan username password client_ip user_agent)
      (fun _ => True) (loginFails env.settings clock client_key user) :=
  (changes_updateAccounts (.failure user)).bind fun _ _ =>
    (changes_addAuthEvent _ _).bind fun _ _ => makes_ret trivial

theorem changes_evictOldest (sessions : List Session) :
    Changes env (.authenticate clock draw scan username password client_ip user_agent)
      (fun _ => True) (evictOldest env.settings clock sessions) := by
  rw [evictOldest]
  split
  · exact makes_ret trivial
  · exact changes_do changes_revoke

theorem changes_insertSession (user : Account) :
    Changes env (.authenticate clock draw scan username password client_ip user_agent)
      (fun _ => True)
      (insertSession (newSession env.py env.settings env.crypto clock draw
        (hashClientIp env.crypto env.settings client_ip) user_agent user)) := by
  refine makes_query (.same _) fun ks v r hr => ?_
  split at hr
  · cases hr
  · split at hr
    · cases hr
      exact ⟨.session user, trivial⟩
    · cases hr

theorem changes_loginSucceeds (user : Account) :
    Changes env (.authenticate clock draw scan username password client_ip user_agent)
      (fun _ => True) (loginSucceeds env.py env.settings env.crypto clock draw scan
        (hashClientIp env.crypto env.settings client_ip) user_agent password user) := by
  refine (changes_updateAccounts (.login user.id _)).bind fun _ _ => ?_
  refine Makes.bind (R := fun _ => True) (changes_read fun ks v r hr => ?_) fun sessions _ => ?_
  · cases hr
    exact ⟨rfl, trivial⟩
  · exact (changes_evictOldest sessions).bind fun _ _ =>
      (changes_insertSession user).bind fun _ _ =>
      (changes_addAuthEvent _ _).bind fun _ _ => makes_ret trivial

theorem changes_loginKnown (found : Account) :
    Changes env (.authenticate clock draw scan username password client_ip user_agent)
      (fun _ => True) (loginKnown env.py env.settings env.crypto clock draw scan
        (hashClientIp env.crypto env.settings client_ip) user_agent password found) := by
  refine (changes_autoUnlock found).bind fun _ _ => ?_
  dsimp only
  split
  · exact (changes_addAuthEvent _ _).bind fun _ _ => makes_ret trivial
  · refine (changes_verify _ _ _).bind fun matched _ => ?_
    cases matched with
    | true => exact changes_loginSucceeds _
    | false => exact changes_loginFails _

theorem changes_loginUnknown :
    Changes env (.authenticate clock draw scan username password client_ip user_agent)
      (fun _ => True) (loginUnknown env.settings env.crypto clock draw client_key password) :=
  (changes_verify _ _ _).bind fun _ _ =>
    (changes_addAuthEvent _ _).bind fun _ _ => makes_ret trivial

theorem changes_authenticate :
    Changes env (.authenticate clock draw scan username password client_ip user_agent)
      (fun _ => True) (authenticate env.py env.settings env.crypto clock draw scan username password
        client_ip user_agent) := by
  refine changes_withPool ((changes_selectAccountForUpdate _).bind fun found _ => ?_)
  cases found with
  | none => exact changes_loginUnknown
  | some found => exact changes_loginKnown found

end Login

theorem changes_resolveSession {clock : Clock} {token : Str} :
    Changes env (.resolveSession clock token) (fun _ => True)
      (resolveSession env.settings env.crypto clock token) := by
  refine changes_withPool (Makes.bind (R := fun _ => True) (changes_read fun ks v r hr => ?_)
    fun row _ => ?_)
  · cases hr
    exact ⟨rfl, trivial⟩
  · cases row with
    | none => exact makes_ret trivial
    | some row =>
        obtain ⟨x, a⟩ := row
        dsimp only
        split
        · exact makes_ret trivial
        · split
          · exact changes_revoke.bind fun _ _ => makes_ret trivial
          · refine Makes.bind (R := fun _ => True) ?_ fun _ _ => makes_ret trivial
            rw [recordActivity]
            split
            · refine changes_do (R := fun _ => True) (makes_query (.same _) fun ks v r hr => ?_)
              cases hr
              exact ⟨.touch _, trivial⟩
            · exact makes_ret trivial

theorem changes_revokeSession {clock : Clock} {session_id user_id : Uuid} {reason : Str} {op : Op} :
    Changes env op (fun _ => True) (revokeSession env.settings clock session_id user_id reason) :=
  changes_withPool (changes_revoke.bind fun _ _ => changes_addAuthEvent _ _)

theorem changes_storePassword {clock : Clock} {scan : Scan PasswordHistory} {salt : Str}
    {historyId : Nat} {context : AuthContext} {current_password new_password : Str} {user : Account}
    (huser : user.id = context.user_id) :
    Changes env (.changePassword clock scan salt historyId context current_password new_password)
      (fun _ => True)
      (storePassword env.settings env.crypto clock scan salt historyId context user
        new_password) := by
  refine (changes_insertHistory _).bind fun _ _ => ?_
  rw [huser]
  exact (changes_updateAccounts (.change _)).bind fun _ _ =>
    (changes_trimHistory _ _ _).bind fun _ _ => changes_revoke.bind fun _ _ =>
      (changes_addAuthEvent _ _).bind fun _ _ => makes_ret trivial

theorem changes_changePassword {clock : Clock} {scan : Scan PasswordHistory} {salt : Str}
    {historyId : Nat} {context : AuthContext} {current_password new_password : Str} :
    Changes env (.changePassword clock scan salt historyId context current_password new_password)
      (fun _ => True)
      (changePassword env.py env.settings env.crypto clock scan salt historyId context
        current_password new_password) := by
  refine changes_withPool ((changes_selectAccountForUpdate _).bind fun found hfound => ?_)
  cases found with
  | none => exact makes_ret trivial
  | some user =>
      have huser : user.id = context.user_id := by simpa [byId] using hfound user rfl
      refine (changes_verify _ _ _).bind fun matched _ => ?_
      cases matched with
      | false => exact makes_ret trivial
      | true =>
          rw [if_pos rfl]
          split
          · exact makes_raise _
          · refine Makes.bind (R := fun _ => True) (changes_read fun ks v r hr => ?_)
              fun history _ => ?_
            · split at hr
              · cases hr
              · cases hr
                exact ⟨rfl, trivial⟩
            · refine (changes_verifiesAny _ _ _).bind fun used _ => ?_
              cases used with
              | true => exact makes_raise _
              | false => exact changes_storePassword huser

theorem changes_storeAccount {op : Op} {row : Account} (h : NewRow env op row) :
    Changes env op (fun _ => True) (storeAccount row) := by
  rw [storeAccount]
  split
  · refine makes_query (.same op) fun ks v r hr => ?_
    split at hr
    · cases hr
    · rw [changeAccounts] at hr
      split at hr
      · cases hr
        exact ⟨.insert h, trivial⟩
      · cases hr
  · exact makes_raise _

theorem changes_createUser {clock : Clock} {actor user_id : Uuid} {salt : Str}
    {payload : UserCreateRequest} :
    Changes env (.createUser clock actor user_id salt payload) (fun _ => True)
      (createUser env.py env.settings env.crypto clock actor user_id salt payload) := by
  rw [createUser]
  split
  · exact makes_raise _
  · exact changes_withPool (Makes.handle _ ((changes_storeAccount .user).bind fun _ _ =>
      (changes_addAuthEvent _ _).bind fun _ _ => makes_ret trivial))

theorem changes_createAdmin {clock : Clock} {user_id : Uuid} {salt username display_name : Str}
    {email : Option Str} {password confirm : Str} :
    Changes env (.createAdmin clock user_id salt username display_name email password confirm)
      (fun _ => True) (createAdmin env.py env.settings env.crypto clock user_id salt username
        display_name email password confirm) := by
  rw [createAdmin]
  split
  · exact makes_raise _
  · split
    · exact makes_raise _
    · split
      · exact makes_raise _
      · exact changes_withPool (Makes.handle _ (changes_storeAccount (.admin _)))

theorem changes_updateUser {clock : Clock} {actor user_id : Uuid} {payload : UserUpdateRequest} :
    Changes env (.updateUser clock actor user_id payload) (fun _ => True)
      (updateUser env.py env.settings clock actor user_id payload) := by
  refine changes_withPool ((changes_selectAccountForUpdate _).bind fun found _ => ?_)
  cases found with
  | none => exact makes_raise _
  | some user =>
      refine Makes.bind (R := fun _ => True) ?_ fun _ _ => ?_
      · rw [lastAdminGuard]
        split
        · refine Makes.bind (R := fun _ => True)
            (changes_read fun ks v r hr => ?_) fun count _ => ?_
          · cases hr
            exact ⟨rfl, trivial⟩
          · split
            · exact makes_raise _
            · exact makes_ret trivial
        · exact makes_ret trivial
      · rw [storePatch]
        split
        · refine (changes_updateAccounts .patch).bind fun _ _ => Makes.bind (R := fun _ => True) ?_
            fun _ _ => (changes_addAuthEvent _ _).bind fun _ _ => makes_ret trivial
          rw [revokeDisabled]
          split
          · exact changes_do changes_revoke
          · exact makes_ret trivial
        · exact makes_raise _

theorem changes_unlockUser {clock : Clock} {actor user_id : Uuid} :
    Changes env (.unlockUser clock actor user_id) (fun _ => True)
      (unlockUser env.settings clock actor user_id) := by
  refine changes_withPool ((changes_updateAccounts .unlock).bind fun rows _ => ?_)
  split
  · exact makes_raise _
  · exact changes_addAuthEvent _ _

theorem changes_resetPassword {clock : Clock} {actor user_id : Uuid} {salt : Str} {historyId : Nat}
    {payload : AdminResetPasswordRequest} :
    Changes env (.resetPassword clock actor user_id salt historyId payload) (fun _ => True)
      (resetPassword env.py env.settings env.crypto clock actor user_id salt
        historyId payload) := by
  refine changes_withPool ((changes_selectAccountForUpdate _).bind fun found _ => ?_)
  cases found with
  | none => exact makes_raise _
  | some user =>
      dsimp only
      split
      · exact makes_raise _
      · exact (changes_insertHistory _).bind fun _ _ => (changes_updateAccounts (.reset _)).bind
          fun _ _ => changes_revoke.bind fun _ _ => changes_addAuthEvent _ _

theorem changes_revokeUserSessions {clock : Clock} {actor user_id : Uuid} {op : Op} :
    Changes env op (fun _ => True) (revokeUserSessions env.settings clock actor user_id) :=
  changes_withPool (changes_revoke.bind fun _ _ =>
    (changes_addAuthEvent _ _).bind fun _ _ => makes_ret trivial)

/-- **What an operation writes.** -/
theorem op_changes (env : Env) (op : Op) : Changes env op (fun _ => True) (op.prog env) := by
  cases op with
  | authenticate => exact changes_answering changes_authenticate
  | resolveSession => exact changes_answering changes_resolveSession
  | revokeSession => exact changes_answering changes_revokeSession
  | changePassword => exact changes_answering changes_changePassword
  | createUser => exact changes_answering changes_createUser
  | createAdmin => exact changes_answering changes_createAdmin
  | updateUser => exact changes_answering changes_updateUser
  | unlockUser => exact changes_answering changes_unlockUser
  | resetPassword => exact changes_answering changes_resetPassword
  | revokeUserSessions => exact changes_answering changes_revokeUserSessions

/-- A relation that holds across every change of an operation holds across the operation. -/
theorem callStep_related {G : Store → Store → Prop} {s s' : Store} {call : Call}
    (h : callStep env s call s') (hrefl : ∀ s, G s s)
    (htrans : ∀ s s' s'', G s s' → G s' s'' → G s s'')
    (hG : ∀ g, Change env call.op g → ∀ s, G s (g s)) : G s s' := by
  rw [h.2]
  exact (op_changes env call.op).related hrefl htrans hG s

end Programs

-- ── What becomes of a session ─────────────────────────────────────────────────────

/-- The operation asks for the session whose token has this hash. -/
def Op.asksFor (env : Env) (hash : Str) : Op → Bool
  | .resolveSession _ token => hashToken env.crypto env.settings token = hash
  | _ => false

/-- A session and what it is later: the columns of its login stay, a revocation stays, and its
    activity and idle time stay unless it was asked for. -/
structure Later (asked : Prop) (x y : Session) : Prop where
  id : y.id = x.id
  user_id : y.user_id = x.user_id
  token_hash : y.token_hash = x.token_hash
  absolute : y.absolute_expires_at = x.absolute_expires_at
  revoked : x.revoked_at.isSome = true → y.revoked_at.isSome = true
  times : ¬ asked → y.last_seen_at = x.last_seen_at ∧ y.idle_expires_at = x.idle_expires_at

/-- Every session is still there later. -/
def SessionsLater (asked : Prop) (s s' : Store) : Prop :=
  ∀ x ∈ s.sessions.rows, ∃ y ∈ s'.sessions.rows, Later asked x y

section Later

variable {env : Env} {asked asked' : Prop} {x y z : Session} {s s' s'' : Store}
  {op : Op} {call : Call}

theorem Later.refl (x : Session) : Later asked x x :=
  ⟨rfl, rfl, rfl, rfl, fun h => h, fun _ => ⟨rfl, rfl⟩⟩

theorem Later.trans (h : Later asked x y) (h' : Later asked y z) : Later asked x z where
  id := h'.id.trans h.id
  user_id := h'.user_id.trans h.user_id
  token_hash := h'.token_hash.trans h.token_hash
  absolute := h'.absolute.trans h.absolute
  revoked := fun hx => h'.revoked (h.revoked hx)
  times := by
    intro hnot
    obtain ⟨hseen, hidle⟩ := h.times hnot
    obtain ⟨hseen', hidle'⟩ := h'.times hnot
    exact ⟨hseen'.trans hseen, hidle'.trans hidle⟩

theorem Later.mono (h : Later asked x y) (hasked : asked → asked') : Later asked' x y :=
  ⟨h.id, h.user_id, h.token_hash, h.absolute, h.revoked,
    fun hnot => h.times fun ha => hnot (hasked ha)⟩

theorem later_revoke {time : Time} {reason : Str} (x : Session) :
    Later asked x (revoke time reason x) :=
  ⟨rfl, rfl, rfl, rfl, fun _ => rfl, fun _ => ⟨rfl, rfl⟩⟩

theorem later_touch {now idle : Time} (x : Session) (hasked : asked) :
    Later asked x (touch now idle x) :=
  ⟨rfl, rfl, rfl, rfl, fun h => h, fun hnot => absurd hasked hnot⟩

theorem SessionsLater.refl (s : Store) : SessionsLater asked s s := fun x hx => ⟨x, hx, .refl x⟩

theorem SessionsLater.trans (h : SessionsLater asked s s') (h' : SessionsLater asked s' s'') :
    SessionsLater asked s s'' := by
  intro x hx
  obtain ⟨y, hy, hxy⟩ := h x hx
  obtain ⟨z, hz, hyz⟩ := h' y hy
  exact ⟨z, hz, hxy.trans hyz⟩

theorem sessionsLater_set {p : Session → Bool} {f : Session → Session} (hkeeps : KeepsSessionKeys f)
    (hf : ∀ x ∈ s.sessions.rows, p x = true → Later asked x (f x)) :
    SessionsLater asked s (s.setSessions p f) := by
  intro x hx
  refine ⟨_, (mem_setSessions hkeeps).mpr ⟨x, hx, rfl⟩, ?_⟩
  split
  · rename_i hp
    exact hf x hx hp
  · exact .refl x

/-- One change of an operation. -/
theorem Change.sessionsLater {g : Store → Store} (h : Change env op g) (s : Store) :
    SessionsLater (∃ clock token, op = .resolveSession clock token) s (g s) := by
  cases h with
  | same | audit | history | account | insert => exact .refl s
  | revoke p time reason => exact sessionsLater_set revoke_keeps fun x _ _ => later_revoke x
  | touch p => exact sessionsLater_set touch_keeps fun x _ _ => later_touch x ⟨_, _, rfl⟩
  | session user =>
      intro x hx
      refine ⟨x, ?_, .refl x⟩
      rw [Store.alterSessions_sessions]
      rcases alter_rows_cases s.sessions _ with hrows | hrows
      · rw [hrows]
        exact List.mem_append_left _ hx
      · rw [hrows]
        exact hx

/-- **What becomes of a session** in an operation. -/
theorem callStep_later (h : callStep env s call s') (hx : x ∈ s.sessions.rows) :
    ∃ y ∈ s'.sessions.rows, Later (call.op.asksFor env x.token_hash = true) x y := by
  by_cases hop : ∃ clock token, call.op = .resolveSession clock token
  · obtain ⟨op, answer⟩ := call
    obtain ⟨clock, token, rfl⟩ := hop
    obtain ⟨out, hres, hends⟩ := callStep_resolveSession h
    cases hres with
    | noPool | noSession | refused =>
        obtain ⟨-, rfl⟩ := hends
        exact ⟨x, hx, .refl x⟩
    | expired =>
        obtain ⟨-, rfl⟩ := hends
        exact sessionsLater_set revoke_keeps (fun x _ _ => later_revoke x) x hx
    | @resolved z a hdb hrow =>
        obtain ⟨-, rfl⟩ := hends
        obtain ⟨hz, -, -, hhash, -⟩ := sessionOf_some hrow
        rw [activityStore]
        split
        · -- the session that is touched is the one that was asked for
          refine ⟨_, (mem_setSessions touch_keeps).mpr ⟨x, hx, rfl⟩, ?_⟩
          split
          · rename_i hp
            obtain rfl : x = z := session_unique hx hz (by simpa [sessionById] using hp)
            exact later_touch x (decide_eq_true hhash.symm)
          · exact .refl x
        · exact ⟨x, hx, .refl x⟩
  · have hall : SessionsLater (∃ clock token, call.op = .resolveSession clock token) s s' :=
      callStep_related h .refl (fun _ _ _ => .trans) fun g hg => hg.sessionsLater
    obtain ⟨y, hy, hxy⟩ := hall x hx
    exact ⟨y, hy, hxy.mono fun hresolve => absurd hresolve hop⟩

end Later

-- ── What becomes of an account ────────────────────────────────────────────────────

/-- Every account is still there later, as something that `C` relates to it. -/
def AccountsLater (C : Account → Account → Prop) (s s' : Store) : Prop :=
  ∀ a ∈ s.accounts.rows, ∃ b ∈ s'.accounts.rows, C a b

section Accounts

variable {env : Env} {C : Account → Account → Prop} {s s' : Store} {op : Op} {call : Call}

/-- One change of an operation. -/
theorem Change.accountsLater {g : Store → Store} (h : Change env op g) (hrefl : ∀ a, C a a)
    (hrow : ∀ f a, RowChange env op a.id f → C a (f a)) (s : Store) : AccountsLater C s (g s) := by
  cases h with
  | same | audit | history | revoke | touch | session => exact fun a ha => ⟨a, ha, hrefl a⟩
  | @account _ id f hf ks =>
      intro a ha
      show ∃ b ∈ (s.accounts.alter _).rows, C a b
      rcases alter_rows_cases s.accounts (updateWhere (foundAccount ks (byId id)) f)
        with hrows | hrows
      · rw [hrows]
        refine ⟨_, mem_updateWhere.mpr ⟨a, ha, rfl⟩, ?_⟩
        split
        · rename_i hp
          have hid : a.id = id := of_decide_eq_true (Bool.and_eq_true_iff.mp hp).2
          exact hrow f a (hid ▸ hf)
        · exact hrefl a
      · rw [hrows]
        exact ⟨a, ha, hrefl a⟩
  | insert =>
      intro a ha
      refine ⟨a, ?_, hrefl a⟩
      rw [Store.alterAccounts_accounts]
      rcases alter_rows_cases s.accounts _ with hrows | hrows
      · rw [hrows]
        exact List.mem_append_left _ ha
      · rw [hrows]
        exact ha

/-- **What becomes of an account** in an operation. -/
theorem callStep_accounts (h : callStep env s call s') (hrefl : ∀ a, C a a)
    (htrans : ∀ a b c, C a b → C b c → C a c)
    (hrow : ∀ f a, RowChange env call.op a.id f → C a (f a)) : AccountsLater C s s' := by
  refine callStep_related h (fun _ a ha => ⟨a, ha, hrefl a⟩) (fun s s' s'' hs hs' a ha => ?_)
    fun g hg => hg.accountsLater hrefl hrow
  obtain ⟨b, hb, hab⟩ := hs a ha
  obtain ⟨c, hc, hbc⟩ := hs' b hb
  exact ⟨c, hc, htrans a b c hab hbc⟩

end Accounts

end NetProbeAccountRuns
