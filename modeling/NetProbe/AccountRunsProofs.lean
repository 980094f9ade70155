import NetProbe.AdminUsersProofs
import NetProbe.AuthOutcomeProofs
import NetProbe.RunProofs

/-!
# Runs of the account operations

All operations that write the account tables as one labelled system: a label (`Call`) is an
operation with everything it reads besides the store, and its answer; a step runs the
operation alone.

`Follows` says what any of them does to the rows that exist.  An account keeps its id, its
name and its deletion; its status becomes or stops being `DISABLED` in the ways `disables`
and `reenables` list, and in no other.  A session keeps its id, its owner and its two token
hashes, stays revoked, and keeps its times once they are up.  A row that is new is the
account a creation inserts, or the session a login returns.  `call_follows` proves this for
every operation; the claims about runs are inductions on the run with it as the step.
-/

namespace NetProbeAccountRuns

open NetProbePyText NetProbeConfig NetProbeCoreAuth NetProbeAccountStore NetProbeAuthService
open NetProbeAdminUsers UniqueTable Transaction Transaction.Txn LabelledRun

-- ── Operations ────────────────────────────────────────────────────────────────────

/-- What all operations of a deployment share. -/
structure Env where
  py : Python
  settings : Settings
  crypto : Crypto

/-- The operations that write accounts or sessions. -/
inductive Op where
  | authenticate (clock : Clock) (draw : LoginDraw) (scan : Scan Session)
      (username password client_ip : Str) (user_agent : Option Str)
  | resolveSession (clock : Clock) (token : Str)
  | revokeSession (clock : Clock) (session_id user_id : Uuid) (reason : Str)
  | changePassword (clock : Clock) (scan : Scan PasswordHistory) (salt : Str) (historyId : Nat)
      (context : AuthContext) (current_password new_password : Str)
  | createUser (clock : Clock) (actor user_id : Uuid) (salt : Str) (payload : UserCreateRequest)
  | createAdmin (clock : Clock) (user_id : Uuid) (salt username display_name : Str)
      (email : Option Str) (password confirm : Str)
  | updateUser (clock : Clock) (actor user_id : Uuid) (payload : UserUpdateRequest)
  | unlockUser (clock : Clock) (actor user_id : Uuid)
  | resetPassword (clock : Clock) (actor user_id : Uuid) (salt : Str) (historyId : Nat)
      (payload : AdminResetPasswordRequest)
  | revokeUserSessions (clock : Clock) (actor user_id : Uuid)

/-- What an operation answers. -/
inductive Answer where
  | login (result : Option LoginResult)
  | context (context : Option AuthContext)
  | changed (changed : Bool)
  | account (row : Option Account)
  | count (n : Nat)
  | done
  deriving DecidableEq, Repr

/-- A program with its result as an answer. -/
def answering {α : Type} (p : AuthTxn α) (f : α → Answer) : AuthTxn Answer :=
  p.bind fun a => .ret (f a)

/-- The program of an operation. -/
def Op.prog (env : Env) : Op → AuthTxn Answer
  | .authenticate clock draw scan username password client_ip user_agent =>
      answering (NetProbeAuthService.authenticate env.py env.settings env.crypto clock draw scan
        username password client_ip user_agent) .login
  | .resolveSession clock token =>
      answering (NetProbeAuthService.resolveSession env.settings env.crypto clock token) .context
  | .revokeSession clock session_id user_id reason =>
      answering (NetProbeAuthService.revokeSession env.settings clock session_id user_id reason)
        fun _ => .done
  | .changePassword clock scan salt historyId context current_password new_password =>
      answering (NetProbeAuthService.changePassword env.py env.settings env.crypto clock scan salt
        historyId context current_password new_password) .changed
  | .createUser clock actor user_id salt payload =>
      answering (NetProbeAdminUsers.createUser env.py env.settings env.crypto clock actor user_id
        salt payload) fun row => .account (some row)
  | .createAdmin clock user_id salt username display_name email password confirm =>
      answering (NetProbeAdminUsers.createAdmin env.py env.settings env.crypto clock user_id salt
        username display_name email password confirm) fun row => .account (some row)
  | .updateUser clock actor user_id payload =>
      answering (NetProbeAdminUsers.updateUser env.py env.settings clock actor user_id payload)
        .account
  | .unlockUser clock actor user_id =>
      answering (NetProbeAdminUsers.unlockUser env.settings clock actor user_id) fun _ => .done
  | .resetPassword clock actor user_id salt historyId payload =>
      answering (NetProbeAdminUsers.resetPassword env.py env.settings env.crypto clock actor user_id
        salt historyId payload) fun _ => .done
  | .revokeUserSessions clock actor user_id =>
      answering (NetProbeAdminUsers.revokeUserSessions env.settings clock actor user_id) .count

/-- The clock of an operation when it starts. -/
def Op.utcnow : Op → Time
  | .authenticate clock .. | .resolveSession clock .. | .revokeSession clock ..
  | .changePassword clock .. | .createUser clock .. | .createAdmin clock .. | .updateUser clock ..
  | .unlockUser clock .. | .resetPassword clock .. | .revokeUserSessions clock .. => clock.utcnow

/-- An operation of a run and its answer, or the exception that rolled it back. -/
structure Call where
  op : Op
  answer : Except AuthError Answer

/-- One operation, run alone. -/
def callStep (env : Env) (s : Store) (call : Call) (s' : Store) : Prop :=
  (call.op.prog env).result s = call.answer ∧ s' = (call.op.prog env).perform s

/-- Times that do not decrease from `start` over the operations of a run to `finish`. -/
def NonDecreasing (start : Time) (calls : List Call) (finish : Time) : Prop :=
  (start :: calls.map (·.op.utcnow) ++ [finish]).Pairwise (· ≤ ·)

/-- The operation committed a patch of the account that sets its status to `DISABLED`. -/
def Call.Disables (call : Call) (user_id : Uuid) : Prop :=
  ∃ clock actor payload row, call.op = .updateUser clock actor user_id payload ∧
    payload.status = some .DISABLED ∧ call.answer = .ok (.account row)

/-- The operation committed a patch of the account that sets its status to another value. -/
def Call.Restores (call : Call) (user_id : Uuid) : Prop :=
  ∃ clock actor payload status row, call.op = .updateUser clock actor user_id payload ∧
    payload.status = some status ∧ status ≠ .DISABLED ∧ call.answer = .ok (.account row)

/-- The operation committed an unlock of the account. -/
def Call.Unlocks (call : Call) (user_id : Uuid) : Prop :=
  ∃ clock actor, call.op = .unlockUser clock actor user_id ∧ call.answer = .ok .done

section Answering

variable {env : Env} {α : Type} {p : AuthTxn α} {f : α → Answer} {s : Store}

theorem eval_answering_ok {a : α} {s' : Store} (h : p.eval s = .ok (a, s')) :
    (answering p f).eval s = .ok (f a, s') := eval_bind_of_ok h

theorem eval_answering_error {e : AuthError} (h : p.eval s = .error e) :
    (answering p f).eval s = .error e := eval_bind_of_error h

end Answering

-- ── What happens to rows ──────────────────────────────────────────────────────────

/-- An account before and after a call. -/
structure AccountStep (call : Call) (a b : Account) : Prop where
  id : b.id = a.id
  username : b.username = a.username
  deleted_at : b.deleted_at = a.deleted_at
  disabled : a.status = .DISABLED → b.status = .DISABLED ∨ call.Restores a.id ∨ call.Unlocks a.id
  enabled : b.status = .DISABLED → a.status = .DISABLED ∨ call.Disables a.id

/-- A session before and after a call. -/
structure SessionStep (call : Call) (x y : Session) : Prop where
  id : y.id = x.id
  user_id : y.user_id = x.user_id
  token_hash : y.token_hash = x.token_hash
  csrf_token_hash : y.csrf_token_hash = x.csrf_token_hash
  revoked : x.revoked_at.isSome = true → y.revoked_at.isSome = true
  times : sessionExpired call.op.utcnow x = true →
    y.idle_expires_at = x.idle_expires_at ∧ y.absolute_expires_at = x.absolute_expires_at

/-- The session a login returns. -/
def NewSession (env : Env) (call : Call) (s : Store) (y : Session) : Prop :=
  ∃ clock draw scan username password client_ip user_agent found,
    call.op = .authenticate clock draw scan username password client_ip user_agent ∧
      found ∈ s.accounts.rows ∧ found.status ≠ .DISABLED ∧
      y = newSession env.py env.settings env.crypto clock draw
        (hashClientIp env.crypto env.settings client_ip) user_agent
          (currentUser clock.utcnow found) ∧
      call.answer = .ok (.login (some ⟨contextOf (currentUser clock.utcnow found) draw.session_id,
        draw.token, draw.csrf_token⟩))

/-- What a call does to the rows: every row is followed by one, and a row that follows none is
    new. -/
structure Follows (call : Call) (newAccount : Account → Prop) (newSession : Session → Prop)
    (s s' : Store) : Prop where
  account : ∀ a ∈ s.accounts.rows, ∃ b ∈ s'.accounts.rows, AccountStep call a b
  accountBack : ∀ b ∈ s'.accounts.rows,
    (∃ a ∈ s.accounts.rows, AccountStep call a b) ∨ newAccount b
  session : ∀ x ∈ s.sessions.rows, ∃ y ∈ s'.sessions.rows, SessionStep call x y
  sessionBack : ∀ y ∈ s'.sessions.rows,
    (∃ x ∈ s.sessions.rows, SessionStep call x y) ∨ newSession y

section Rows

variable {env : Env} {call : Call}

theorem AccountStep.refl (a : Account) : AccountStep call a a :=
  ⟨rfl, rfl, rfl, fun h => Or.inl h, fun h => Or.inl h⟩

theorem SessionStep.refl (x : Session) : SessionStep call x x :=
  ⟨rfl, rfl, rfl, rfl, fun h => h, fun _ => ⟨rfl, rfl⟩⟩

theorem AccountStep.trans {a b c : Account} (h : AccountStep call a b) (h' : AccountStep call b c) :
    AccountStep call a c where
  id := h'.id.trans h.id
  username := h'.username.trans h.username
  deleted_at := h'.deleted_at.trans h.deleted_at
  disabled := by
    intro ha
    rcases h.disabled ha with hb | hre
    · have := h'.disabled hb
      rwa [h.id] at this
    · exact Or.inr hre
  enabled := by
    intro hc
    rcases h'.enabled hc with hb | hdis
    · exact h.enabled hb
    · rw [h.id] at hdis
      exact Or.inr hdis

theorem sessionExpired_congr {now : Time} {x y : Session}
    (h : y.idle_expires_at = x.idle_expires_at ∧ y.absolute_expires_at = x.absolute_expires_at) :
    sessionExpired now y = sessionExpired now x := by
  unfold sessionExpired
  rw [h.1, h.2]

theorem SessionStep.trans {x y z : Session} (h : SessionStep call x y) (h' : SessionStep call y z) :
    SessionStep call x z where
  id := h'.id.trans h.id
  user_id := h'.user_id.trans h.user_id
  token_hash := h'.token_hash.trans h.token_hash
  csrf_token_hash := h'.csrf_token_hash.trans h.csrf_token_hash
  revoked := fun hx => h'.revoked (h.revoked hx)
  times := by
    intro hx
    have hy := h.times hx
    have hz := h'.times (by rw [sessionExpired_congr hy, hx])
    exact ⟨hz.1.trans hy.1, hz.2.trans hy.2⟩

/-- A revocation is a session step whatever the call. -/
theorem sessionStep_revoke {time : Time} {reason : Str} (x : Session) :
    SessionStep call x (revoke time reason x) :=
  ⟨rfl, rfl, rfl, rfl, fun _ => rfl, fun _ => ⟨rfl, rfl⟩⟩

variable {newAccount : Account → Prop} {newSession : Session → Prop} {s s' s'' : Store}

/-- A change of the other tables. -/
theorem Follows.of_same (haccounts : s'.accounts = s.accounts)
    (hsessions : s'.sessions = s.sessions) :
    Follows call newAccount newSession s s' where
  account := by
    intro a ha
    exact ⟨a, by rw [haccounts]; exact ha, .refl a⟩
  accountBack := by
    intro b hb
    rw [haccounts] at hb
    exact Or.inl ⟨b, hb, .refl b⟩
  session := by
    intro x hx
    exact ⟨x, by rw [hsessions]; exact hx, .refl x⟩
  sessionBack := by
    intro y hy
    rw [hsessions] at hy
    exact Or.inl ⟨y, hy, .refl y⟩

theorem Follows.refl (s : Store) : Follows call newAccount newSession s s := .of_same rfl rfl

/-- A change without new rows, and then another change. -/
theorem Follows.trans (h : Follows call (fun _ => False) (fun _ => False) s s')
    (h' : Follows call newAccount newSession s' s'') :
      Follows call newAccount newSession s s'' where
  account := by
    intro a ha
    obtain ⟨b, hb, hab⟩ := h.account a ha
    obtain ⟨c, hc, hbc⟩ := h'.account b hb
    exact ⟨c, hc, hab.trans hbc⟩
  accountBack := by
    intro c hc
    rcases h'.accountBack c hc with ⟨b, hb, hbc⟩ | hnew
    · rcases h.accountBack b hb with ⟨a, ha, hab⟩ | hf
      · exact Or.inl ⟨a, ha, hab.trans hbc⟩
      · exact hf.elim
    · exact Or.inr hnew
  session := by
    intro x hx
    obtain ⟨y, hy, hxy⟩ := h.session x hx
    obtain ⟨z, hz, hyz⟩ := h'.session y hy
    exact ⟨z, hz, hxy.trans hyz⟩
  sessionBack := by
    intro z hz
    rcases h'.sessionBack z hz with ⟨y, hy, hyz⟩ | hnew
    · rcases h.sessionBack y hy with ⟨x, hx, hxy⟩ | hf
      · exact Or.inl ⟨x, hx, hxy.trans hyz⟩
      · exact hf.elim
    · exact Or.inr hnew

/-- A change of one account. -/
theorem follows_setAccount {id : Uuid} {f : Account → Account}
    (hacc : s.accounts.Accepts (updateWhere (byId id) f))
    (hf : ∀ a ∈ s.accounts.rows, a.id = id → AccountStep call a (f a)) :
    Follows call newAccount newSession s (s.setAccount id f) where
  account := by
    intro a ha
    refine ⟨_, (mem_setAccount_of_accepts hacc).mpr ⟨a, ha, rfl⟩, ?_⟩
    split
    · rename_i hid
      exact hf a ha hid
    · exact .refl a
  accountBack := by
    intro b hb
    obtain ⟨a, ha, rfl⟩ := (mem_setAccount_of_accepts hacc).mp hb
    refine Or.inl ⟨a, ha, ?_⟩
    split
    · rename_i hid
      exact hf a ha hid
    · exact .refl a
  session := fun x hx => ⟨x, hx, .refl x⟩
  sessionBack := fun y hy => Or.inl ⟨y, hy, .refl y⟩

/-- A change of the sessions a WHERE clause selects. -/
theorem follows_setSessions {p : Session → Bool} {f : Session → Session}
    (hkeeps : KeepsSessionKeys f)
    (hf : ∀ x ∈ s.sessions.rows, p x = true → SessionStep call x (f x)) :
    Follows call newAccount newSession s (s.setSessions p f) where
  account := fun a ha => ⟨a, ha, .refl a⟩
  accountBack := fun b hb => Or.inl ⟨b, hb, .refl b⟩
  session := by
    intro x hx
    refine ⟨_, (mem_setSessions hkeeps).mpr ⟨x, hx, rfl⟩, ?_⟩
    split
    · rename_i hp
      exact hf x hx hp
    · exact .refl x
  sessionBack := by
    intro y hy
    obtain ⟨x, hx, rfl⟩ := (mem_setSessions hkeeps).mp hy
    refine Or.inl ⟨x, hx, ?_⟩
    split
    · rename_i hp
      exact hf x hx hp
    · exact .refl x

/-- A revocation of sessions. -/
theorem follows_revoke {p : Session → Bool} {time : Time} {reason : Str} :
    Follows call newAccount newSession s (s.setSessions p (revoke time reason)) :=
  follows_setSessions revoke_keeps fun x _ _ => sessionStep_revoke x

theorem follows_addSession {row : Session} (hacc : s.sessions.Accepts (· ++ [row]))
    (hrow : newSession row) :
    Follows call newAccount newSession s (s.alterSessions (· ++ [row])) where
  account := fun a ha => ⟨a, ha, .refl a⟩
  accountBack := fun b hb => Or.inl ⟨b, hb, .refl b⟩
  session := by
    intro x hx
    refine ⟨x, ?_, .refl x⟩
    rw [Store.alterSessions_sessions, alter_rows hacc]
    exact List.mem_append_left _ hx
  sessionBack := by
    intro y hy
    rw [Store.alterSessions_sessions, alter_rows hacc] at hy
    rcases List.mem_append.mp hy with hmem | hnew
    · exact Or.inl ⟨y, hmem, .refl y⟩
    · rw [List.mem_singleton.mp hnew]
      exact Or.inr hrow

theorem follows_addAccount {row : Account} (hacc : s.accounts.Accepts (· ++ [row]))
    (hrow : newAccount row) :
    Follows call newAccount newSession s (s.alterAccounts (· ++ [row])) where
  account := by
    intro a ha
    refine ⟨a, ?_, .refl a⟩
    rw [Store.alterAccounts_accounts, alter_rows hacc]
    exact List.mem_append_left _ ha
  accountBack := by
    intro b hb
    rw [Store.alterAccounts_accounts, alter_rows hacc] at hb
    rcases List.mem_append.mp hb with hmem | hnew
    · exact Or.inl ⟨b, hmem, .refl b⟩
    · rw [List.mem_singleton.mp hnew]
      exact Or.inr hrow
  session := fun x hx => ⟨x, hx, .refl x⟩
  sessionBack := fun y hy => Or.inl ⟨y, hy, .refl y⟩

/-- Changes of the rows, and then of the other tables. -/
theorem Follows.then_same (h : Follows call newAccount newSession s s')
    (haccounts : s''.accounts = s'.accounts) (hsessions : s''.sessions = s'.sessions) :
    Follows call newAccount newSession s s'' where
  account := by
    rw [haccounts]
    exact h.account
  accountBack := by
    rw [haccounts]
    exact h.accountBack
  session := by
    rw [hsessions]
    exact h.session
  sessionBack := by
    rw [hsessions]
    exact h.sessionBack

end Rows

-- ── How each operation ends ───────────────────────────────────────────────────────

/-- An account a creation inserts. -/
def FreshAccount (b : Account) : Prop := b.status ≠ .DISABLED ∧ b.deleted_at = none

section Operations

variable {env : Env} {s s' : Store} {op : Op} {answer : Except AuthError Answer} {call : Call}

theorem callStep_ok {ans : Answer} {s₁ : Store} (h : callStep env s ⟨op, answer⟩ s')
    (heval : (op.prog env).eval s = .ok (ans, s₁)) : answer = .ok ans ∧ s' = s₁ := by
  obtain ⟨hanswer, hs'⟩ := h
  rw [result_of_ok heval] at hanswer
  rw [perform_of_ok heval] at hs'
  exact ⟨hanswer.symm, hs'⟩

theorem callStep_error {e : AuthError} (h : callStep env s ⟨op, answer⟩ s')
    (heval : (op.prog env).eval s = .error e) : answer = .error e ∧ s' = s := by
  obtain ⟨hanswer, hs'⟩ := h
  rw [result_of_error heval] at hanswer
  rw [perform_of_error heval] at hs'
  exact ⟨hanswer.symm, hs'⟩

/-- The evaluation of a program with its result as an answer. -/
theorem ends_answering {α : Type} {p : AuthTxn α} {f : α → Answer}
    (h : callStep env s ⟨op, answer⟩ s') (hop : op.prog env = answering p f) :
    Ends s ((p.eval s).map fun r => (f r.1, r.2)) answer s' := by
  obtain ⟨hanswer, hs'⟩ := h
  have hends := ends_eval (answering p f) s
  dsimp only at hanswer hs'
  rw [hop] at hanswer hs'
  rw [hanswer, ← hs'] at hends
  cases heval : p.eval s with
  | ok r =>
      obtain ⟨a, t⟩ := r
      rwa [eval_answering_ok heval] at hends
  | error e => rwa [eval_answering_error heval] at hends

theorem callStep_authenticate {clock : Clock} {draw : LoginDraw} {scan : Scan Session}
    {username password client_ip : Str} {user_agent : Option Str}
    (h : callStep env s
      ⟨.authenticate clock draw scan username password client_ip user_agent, answer⟩ s') :
    ∃ events out, Login env.py env.settings env.crypto clock draw scan username password client_ip
      user_agent s events out ∧ Ends s (out.map fun r => (.login r.1, r.2)) answer s' :=
  ⟨_, _, authenticate_login env.py env.settings env.crypto clock draw scan username
    password client_ip
    user_agent s, ends_answering h rfl⟩

theorem callStep_resolveSession {clock : Clock} {token : Str}
    (h : callStep env s ⟨.resolveSession clock token, answer⟩ s') :
    ∃ out, Resolve env.settings env.crypto clock token s out ∧
      Ends s (out.map fun r => (.context r.1, r.2)) answer s' :=
  ⟨_, resolveSession_cases env.settings env.crypto clock token s, ends_answering h rfl⟩

theorem callStep_updateUser {clock : Clock} {actor user_id : Uuid} {payload : UserUpdateRequest}
    (h : callStep env s ⟨.updateUser clock actor user_id payload, answer⟩ s') :
    ∃ out, UpdateUser env.py env.settings clock actor user_id payload s out ∧
      Ends s (out.map fun r => (.account r.1, r.2)) answer s' :=
  ⟨_, updateUser_cases env.py env.settings clock actor user_id payload s, ends_answering h rfl⟩

theorem callStep_changePassword {clock : Clock} {scan : Scan PasswordHistory} {salt : Str}
    {historyId : Nat} {context : AuthContext} {current_password new_password : Str}
    (h : callStep env s ⟨.changePassword clock scan salt historyId context current_password
      new_password, answer⟩ s') :
    ((∃ e, answer = .error e) ∨ answer = .ok (.changed false)) ∧ s' = s ∨
      ∃ user, s.accounts.rows.find? (byId context.user_id) = some user ∧
        answer = .ok (.changed true) ∧
        s' = changedStore env.settings env.crypto clock scan salt historyId context user
          new_password s := by
  rcases changePassword_cases env.py env.settings env.crypto clock scan salt historyId context
    current_password new_password s with ⟨e, he⟩ | hfalse | ⟨user, ⟨-, hfind⟩, -, -, -, hok⟩
  · obtain ⟨hanswer, hs'⟩ := callStep_error h (eval_answering_error he)
    exact Or.inl ⟨Or.inl ⟨e, hanswer⟩, hs'⟩
  · obtain ⟨hanswer, hs'⟩ := callStep_ok h (eval_answering_ok hfalse)
    exact Or.inl ⟨Or.inr hanswer, hs'⟩
  · exact Or.inr ⟨user, hfind, callStep_ok h (eval_answering_ok hok)⟩

theorem callStep_unlockUser {clock : Clock} {actor user_id : Uuid}
    (h : callStep env s ⟨.unlockUser clock actor user_id, answer⟩ s') :
    (∃ e, answer = .error e ∧ s' = s) ∨
      answer = .ok .done ∧ s' = unlockedStore env.settings clock actor user_id s := by
  rcases unlockUser_cases env.settings clock actor user_id s with ⟨e, he⟩ | hok
  · exact Or.inl ⟨e, callStep_error h (eval_answering_error he)⟩
  · exact Or.inr (callStep_ok h (eval_answering_ok hok))

theorem callStep_resetPassword {clock : Clock} {actor user_id : Uuid} {salt : Str} {historyId : Nat}
    {payload : AdminResetPasswordRequest}
    (h : callStep env s ⟨.resetPassword clock actor user_id salt historyId payload, answer⟩ s') :
    (∃ e, answer = .error e ∧ s' = s) ∨
      ∃ user, s.accounts.rows.find? (byId user_id) = some user ∧ answer = .ok .done ∧
        s' = resetStore env.settings env.crypto clock actor user_id salt historyId
          payload user s := by
  rcases resetPassword_cases env.py env.settings env.crypto clock actor user_id
    salt historyId payload
    s with ⟨e, he⟩ | ⟨user, ⟨-, hfind⟩, -, -, hok⟩
  · exact Or.inl ⟨e, callStep_error h (eval_answering_error he)⟩
  · exact Or.inr ⟨user, hfind, callStep_ok h (eval_answering_ok hok)⟩

-- ── What each operation does to the rows ──────────────────────────────────────────

/-- A step between two states that are not `DISABLED`. -/
theorem accountStep_enabled {a b : Account} (hid : b.id = a.id) (hname : b.username = a.username)
    (hdeleted : b.deleted_at = a.deleted_at) (ha : a.status ≠ .DISABLED)
    (hb : b.status ≠ .DISABLED) :
    AccountStep call a b :=
  ⟨hid, hname, hdeleted, fun h => absurd h ha, fun h => absurd h hb⟩

/-- A step that leaves the status alone. -/
theorem accountStep_status {a b : Account} (hid : b.id = a.id) (hname : b.username = a.username)
    (hdeleted : b.deleted_at = a.deleted_at) (hstatus : b.status = a.status) :
    AccountStep call a b :=
  ⟨hid, hname, hdeleted, fun h => Or.inl (by rw [hstatus, h]),
    fun h => Or.inl (by rw [← hstatus, h])⟩

theorem not_disabled_of_usable {status : AccountStatus} (h : status.usable = true) :
    status ≠ .DISABLED := by
  rintro rfl
  cases h

/-- An account whose lock has expired is locked. -/
theorem locked_of_lockExpired {now : Time} {a : Account} (h : lockExpired now a = true) :
    a.status = .LOCKED := by
  rw [lockExpired] at h
  simp only [Bool.and_eq_true, decide_eq_true_eq] at h
  exact h.1

/-- An account that can log in after the automatic unlock was not disabled before it. -/
theorem not_disabled_of_currentUser {now : Time} {a : Account}
    (h : (currentUser now a).status.usable = true) : a.status ≠ .DISABLED := by
  cases hl : lockExpired now a with
  | true =>
      rw [locked_of_lockExpired hl]
      decide
  | false =>
      rw [currentUser_of_live hl] at h
      exact not_disabled_of_usable h

theorem follows_unlockStore {now : Time} {found : Account} (hmem : found ∈ s.accounts.rows)
    {NA : Account → Prop} {NB : Session → Prop} :
      Follows call NA NB s (unlockStore now found s) := by
  cases hl : lockExpired now found with
  | true =>
      rw [unlockStore_of_expired hl]
      refine follows_setAccount (accepts_update expireLock_keeps) fun a ha hid => ?_
      rw [account_unique ha hmem hid]
      refine accountStep_enabled rfl rfl rfl ?_ (by simp [expireLock])
      rw [locked_of_lockExpired hl]
      decide
  | false =>
      rw [unlockStore_of_live hl]
      exact .refl s

/-- The row of the account after the automatic unlock. -/
theorem eq_currentUser_of_mem {now : Time} {found a : Account} (hmem : found ∈ s.accounts.rows)
    (ha : a ∈ (unlockStore now found s).accounts.rows) (hid : a.id = (currentUser now found).id) :
    a = currentUser now found := by
  rw [currentUser_id] at hid
  cases hl : lockExpired now found with
  | true =>
      rw [unlockStore_of_expired hl] at ha
      rw [currentUser_of_expired hl]
      obtain ⟨b, hb, rfl⟩ := (mem_setAccount expireLock_keeps).mp ha
      split at hid
      · rename_i hbid
        rw [if_pos hbid, account_unique hb hmem hbid]
      · rename_i hbid
        exact absurd hid hbid
  | false =>
      rw [unlockStore_of_live hl] at ha
      rw [currentUser_of_live hl]
      exact account_unique ha hmem hid

theorem follows_authenticate {clock : Clock} {draw : LoginDraw} {scan : Scan Session}
    {username password client_ip : Str} {user_agent : Option Str}
    (h : callStep env s
      ⟨.authenticate clock draw scan username password client_ip user_agent, answer⟩ s') :
    Follows ⟨.authenticate clock draw scan username password client_ip user_agent, answer⟩
      FreshAccount
      (NewSession env ⟨.authenticate clock draw scan username password client_ip user_agent,
        answer⟩ s)
      s s' := by
  obtain ⟨events, out, hlogin, hends⟩ := callStep_authenticate h
  cases hlogin with
  | noPool | unknownRaised | raised | taken =>
      obtain ⟨-, rfl⟩ := hends
      exact .refl s'
  | unknown | refused =>
      obtain ⟨-, rfl⟩ := hends
      exact .of_same rfl rfl
  | @wrongPassword found hfind husable hverify =>
      obtain ⟨-, rfl⟩ := hends
      have hmem := List.mem_of_find?_eq_some hfind
      refine (follows_unlockStore hmem).trans (Follows.then_same (follows_setAccount
        (accepts_update failureRow_keeps) fun a ha hid => ?_) rfl rfl)
      rw [eq_currentUser_of_mem hmem ha hid]
      refine accountStep_enabled rfl rfl rfl (not_disabled_of_usable husable) ?_
      rw [failureRow, recordFailure]
      dsimp only
      split
      · decide
      · exact not_disabled_of_usable husable
  | @loggedIn found hfind husable hverify hfresh =>
      have hmem := List.mem_of_find?_eq_some hfind
      obtain ⟨hanswer, rfl⟩ := hends
      refine (follows_unlockStore hmem).trans ((follows_setAccount
        (accepts_update recordLogin_keeps) fun a ha hid => ?_).trans (follows_revoke.trans
          (Follows.then_same (follows_addSession hfresh ?_) rfl rfl)))
      · rw [eq_currentUser_of_mem hmem ha hid]
        refine accountStep_enabled rfl rfl rfl (not_disabled_of_usable husable) ?_
        rw [recordLogin]
        dsimp only
        split
        · decide
        · exact not_disabled_of_usable husable
      · exact ⟨clock, draw, scan, username, password, client_ip, user_agent, found, rfl, hmem,
          not_disabled_of_currentUser husable, rfl, hanswer⟩

theorem follows_resolveSession {clock : Clock} {token : Str} {NA : Account → Prop}
    {NB : Session → Prop} (h : callStep env s ⟨.resolveSession clock token, answer⟩ s') :
    Follows ⟨.resolveSession clock token, answer⟩ NA NB s s' := by
  obtain ⟨out, hres, hends⟩ := callStep_resolveSession h
  cases hres with
  | noPool | noSession | refused =>
      obtain ⟨-, rfl⟩ := hends
      exact .refl s'
  | expired =>
      obtain ⟨-, rfl⟩ := hends
      exact follows_revoke
  | @resolved x a hdb hrow husable hdeleted hlive =>
      obtain ⟨-, rfl⟩ := hends
      rw [activityStore]
      split
      · refine follows_setSessions touch_keeps fun y hy hid => ?_
        -- the session that is touched is the one whose times are not up
        have hyx : y = x :=
          session_unique hy (sessionOf_some hrow).1 (by simpa [sessionById] using hid)
        refine ⟨rfl, rfl, rfl, rfl, fun h => h, fun hexpired => ?_⟩
        rw [hyx] at hexpired
        exact absurd (hlive.symm.trans hexpired) (by decide)
      · exact .refl s

theorem follows_revokeSession {clock : Clock} {session_id user_id : Uuid} {reason : Str}
    {NA : Account → Prop} {NB : Session → Prop}
    (h : callStep env s ⟨.revokeSession clock session_id user_id reason, answer⟩ s') :
    Follows ⟨.revokeSession clock session_id user_id reason, answer⟩ NA NB s s' := by
  rcases revokeSession_cases env.settings clock session_id user_id reason s with ⟨e, he⟩ | hok
  · rw [(callStep_error h (eval_answering_error he)).2]
    exact .refl s
  · rw [(callStep_ok h (eval_answering_ok hok)).2]
    exact follows_revoke.then_same rfl rfl

theorem follows_changePassword {clock : Clock} {scan : Scan PasswordHistory} {salt : Str}
    {historyId : Nat} {context : AuthContext} {current_password new_password : Str}
    {NA : Account → Prop} {NB : Session → Prop}
    (h : callStep env s ⟨.changePassword clock scan salt historyId context current_password
      new_password, answer⟩ s') :
    Follows ⟨.changePassword clock scan salt historyId context current_password
      new_password, answer⟩
      NA NB s s' := by
  rcases callStep_changePassword h with ⟨-, rfl⟩ | ⟨user, -, -, rfl⟩
  · exact .refl s'
  · refine Follows.trans (Follows.trans ?_ (follows_setAccount (accepts_update setPassword_keeps)
      fun a _ _ => accountStep_status rfl rfl rfl rfl))
      (Follows.trans (.of_same rfl rfl) (follows_revoke.then_same rfl rfl))
    exact .of_same rfl rfl

theorem follows_createUser {clock : Clock} {actor user_id : Uuid} {salt : Str}
    {payload : UserCreateRequest} {NB : Session → Prop}
    (h : callStep env s ⟨.createUser clock actor user_id salt payload, answer⟩ s') :
    Follows ⟨.createUser clock actor user_id salt payload, answer⟩ FreshAccount NB s s' := by
  rcases createUser_cases env.py env.settings env.crypto clock actor user_id salt payload s with
    ⟨e, he⟩ | ⟨hacc, hok⟩
  · rw [(callStep_error h (eval_answering_error he)).2]
    exact .refl s
  · rw [(callStep_ok h (eval_answering_ok hok)).2]
    exact (follows_addAccount hacc ⟨by simp [createdAccount, newAccount], rfl⟩).then_same rfl rfl

theorem follows_createAdmin {clock : Clock} {user_id : Uuid} {salt username display_name : Str}
    {email : Option Str} {password confirm : Str} {NB : Session → Prop}
    (h : callStep env s
      ⟨.createAdmin clock user_id salt username display_name email password confirm,
      answer⟩ s') :
    Follows ⟨.createAdmin clock user_id salt username display_name email password confirm, answer⟩
      FreshAccount NB s s' := by
  rcases createAdmin_cases env.py env.settings env.crypto clock user_id salt username display_name
    email password confirm s with ⟨e, he⟩ | ⟨row, hrow, hacc, hok⟩
  · rw [(callStep_error h (eval_answering_error he)).2]
    exact .refl s
  · rw [(callStep_ok h (eval_answering_ok hok)).2]
    refine follows_addAccount hacc ⟨?_, ?_⟩
    · rw [hrow.1]
      decide
    · exact hrow.2

theorem follows_updateUser {clock : Clock} {actor user_id : Uuid} {payload : UserUpdateRequest}
    {NA : Account → Prop} {NB : Session → Prop}
    (h : callStep env s ⟨.updateUser clock actor user_id payload, answer⟩ s') :
    Follows ⟨.updateUser clock actor user_id payload, answer⟩ NA NB s s' := by
  obtain ⟨out, hupdate, hends⟩ := callStep_updateUser h
  cases hupdate with
  | noPool | notFound | guarded | raised =>
      obtain ⟨-, rfl⟩ := hends
      exact .refl s'
  | @updated user row hdb hfind hpass hacc =>
      obtain ⟨hanswer, rfl⟩ := hends
      refine Follows.trans (follows_setAccount hacc fun a ha hid => ?_) ?_
      · refine ⟨rfl, rfl, rfl, fun hdisabled => ?_, fun hdisabled => ?_⟩
        · cases hstatus : payload.status with
          | none => exact Or.inl (by simpa [patched, hstatus] using hdisabled)
          | some status =>
              by_cases hd : status = .DISABLED
              · exact Or.inl (by simp [patched, hstatus, hd])
              · exact Or.inr (Or.inl ⟨clock, actor, payload, status, row, by rw [hid], hstatus, hd,
                  hanswer⟩)
        · cases hstatus : payload.status with
          | none => exact Or.inl (by simpa [patched, hstatus] using hdisabled)
          | some status =>
              have hd : status = .DISABLED := by simpa [patched, hstatus] using hdisabled
              exact Or.inr ⟨clock, actor, payload, row, by rw [hid], by rw [hstatus, hd], hanswer⟩
      · rw [patchedStore, revokedStore]
        split
        · exact follows_revoke.then_same rfl rfl
        · exact .of_same rfl rfl

theorem follows_unlockUser {clock : Clock} {actor user_id : Uuid} {NA : Account → Prop}
    {NB : Session → Prop} (h : callStep env s ⟨.unlockUser clock actor user_id, answer⟩ s') :
    Follows ⟨.unlockUser clock actor user_id, answer⟩ NA NB s s' := by
  rcases callStep_unlockUser h with ⟨e, -, rfl⟩ | ⟨hanswer, rfl⟩
  · exact .refl s'
  · refine Follows.then_same
      (follows_setAccount (accepts_update unlocked_keeps) fun a _ hid => ?_) rfl rfl
    refine
      ⟨rfl, rfl, rfl, fun _ => Or.inr (Or.inr ⟨clock, actor, by rw [hid], hanswer⟩), fun hd => ?_⟩
    cases hd

theorem follows_resetPassword {clock : Clock} {actor user_id : Uuid} {salt : Str} {historyId : Nat}
    {payload : AdminResetPasswordRequest} {NA : Account → Prop} {NB : Session → Prop}
    (h : callStep env s ⟨.resetPassword clock actor user_id salt historyId payload, answer⟩ s') :
    Follows ⟨.resetPassword clock actor user_id salt historyId payload, answer⟩ NA NB s s' := by
  rcases callStep_resetPassword h with ⟨e, -, rfl⟩ | ⟨user, -, -, rfl⟩
  · exact .refl s'
  · refine Follows.trans (.of_same rfl rfl) ((follows_setAccount (accepts_update setPassword_keeps)
      fun a _ _ => accountStep_status rfl rfl rfl rfl).trans (follows_revoke.then_same rfl rfl))

theorem follows_revokeUserSessions {clock : Clock} {actor user_id : Uuid} {NA : Account → Prop}
    {NB : Session → Prop}
    (h : callStep env s ⟨.revokeUserSessions clock actor user_id, answer⟩ s') :
    Follows ⟨.revokeUserSessions clock actor user_id, answer⟩ NA NB s s' := by
  rcases revokeUserSessions_cases env.settings clock actor user_id s
    with ⟨e, he⟩ | ⟨n, details, hok⟩
  · rw [(callStep_error h (eval_answering_error he)).2]
    exact .refl s
  · rw [(callStep_ok h (eval_answering_ok hok)).2]
    exact follows_revoke.then_same rfl rfl

/-- **What any operation does to the rows.** -/
theorem call_follows (h : callStep env s call s') :
    Follows call FreshAccount (NewSession env call s) s s' := by
  obtain ⟨op, answer⟩ := call
  cases op with
  | authenticate clock draw scan username password client_ip user_agent =>
      exact follows_authenticate h
  | resolveSession clock token => exact follows_resolveSession h
  | revokeSession clock session_id user_id reason => exact follows_revokeSession h
  | changePassword clock scan salt historyId context current_password new_password =>
      exact follows_changePassword h
  | createUser clock actor user_id salt payload => exact follows_createUser h
  | createAdmin clock user_id salt username display_name email password confirm =>
      exact follows_createAdmin h
  | updateUser clock actor user_id payload => exact follows_updateUser h
  | unlockUser clock actor user_id => exact follows_unlockUser h
  | resetPassword clock actor user_id salt historyId payload => exact follows_resetPassword h
  | revokeUserSessions clock actor user_id => exact follows_revokeUserSessions h

end Operations

/-- A deployment for testing. -/
def Env.sample : Env := ⟨.asciiOnly, { database_enabled := true, auth_enabled := true }, .plain⟩

/-- A login for testing. -/
def sampleLogin (now : Time) (username password : Str) : Op :=
  .authenticate ⟨now, now, now⟩ ⟨str "token", str "csrf", 7, []⟩ .asInserted username password
    (str "192.0.2.7") none

/-- The call an operation makes on a store. -/
def Op.on (env : Env) (op : Op) (s : Store) : Call := ⟨op, (op.prog env).result s⟩

theorem callStep_on (env : Env) (op : Op) (s : Store) :
    callStep env s (op.on env s) ((op.prog env).perform s) := ⟨rfl, rfl⟩

/-- The store after operations, one after another. -/
def performAll (env : Env) : List Op → Store → Store
  | [], s => s
  | op :: ops, s => performAll env ops ((op.prog env).perform s)

/-- The calls of operations, one after another. -/
def callsOf (env : Env) : List Op → Store → List Call
  | [], _ => []
  | op :: ops, s => op.on env s :: callsOf env ops ((op.prog env).perform s)

/-- Operations carried out are a run. -/
theorem run_callsOf (env : Env) (ops : List Op) (s : Store) :
    Run (callStep env) s (callsOf env ops s) (performAll env ops s) := by
  induction ops generalizing s with
  | nil => exact .nil s
  | cons op ops ih => exact .cons (callStep_on env op s) (ih _)

end NetProbeAccountRuns
