import NetProbe.AttemptProofs
import NetProbe.AccountRunsProofs

/-!
# The two audit sinks

`add_auth_event` writes twice: a log line, which is out at once, and a row, which is there when
the transaction commits.  A database may fail at any statement and at the commit, so the two
can part.

What the line with the outcome `SUCCESS` is good for (`Reports`): when it comes, the operation has
been carried out but for the INSERT of its audit row and the COMMIT, and it was not refused; and
an operation that commits without it was refused, which only `authenticate` and
`change_password` do by answering instead of raising.  Each operation is shown to report
part by part; `success_reported` then says it of every try.
-/

namespace NetProbeAuditSinks

open NetProbePyText NetProbeConfig NetProbeCoreAuth NetProbeAccountStore NetProbeAuthService
open NetProbeAdminUsers NetProbeAccountRuns Transaction Transaction.Txn

-- ── The log line ──────────────────────────────────────────────────────────────────

/-- An `auth_audit` log event with the outcome `SUCCESS`. -/
def succeeded : AuthEvent → Bool
  | .log fields => fields.outcome = str "SUCCESS"
  | .verify _ _ => false

/-- What an operation has left to do after its log line: the INSERT of the audit row, and to
    answer. -/
def storeEvent {α : Type} (settings : Settings) (clock : Clock) (fields : AuditFields) (a : α) :
    AuthTxn α :=
  (insertAudit (auditRow settings clock fields)).bind fun _ => .ret a

/-- The log event, and what is left after it, of an operation that is being carried out. -/
def AuditLeft {α : Type} (settings : Settings) (clock : Clock)
    (carriedOut : α → Bool) (o : AuthEvent)
    (k : AuthTxn α) : Prop :=
  ∃ fields a, o = .log (logFields fields) ∧ carriedOut a = true ∧
    k = storeEvent settings clock fields a

/-- The program logs `SUCCESS` when only the audit row is left, and only if it is carried out; it
    returns without only if it is not. -/
def Reports {α : Type} (settings : Settings) (clock : Clock) (carriedOut : α → Bool)
    (p : AuthTxn α) : Prop :=
  Announces succeeded (AuditLeft settings clock carriedOut) (fun a => carriedOut a = false) p

/-- The operation calls `add_auth_event`. -/
def Op.audits : Op → Bool
  | .resolveSession .. | .createAdmin .. => false
  | _ => true

/-- The clock of an operation. -/
def Op.clock : Op → Clock
  | .authenticate clock .. | .resolveSession clock .. | .revokeSession clock ..
  | .changePassword clock .. | .createUser clock .. | .createAdmin clock .. | .updateUser clock ..
  | .unlockUser clock .. | .resetPassword clock .. | .revokeUserSessions clock .. => clock

/-- The operation was not refused: `authenticate` does not answer `None`, nor `change_password`
    `False`. -/
def Answer.carriedOut : Answer → Bool
  | .login result => result.isSome
  | .changed changed => changed
  | _ => true

section Parts

variable {settings : Settings} {crypto : Crypto} {py : Python} {clock : Clock} {α β : Type}
  {carriedOut : α → Bool} {p : AuthTxn α}

/-- The log line of an operation that is carried out. -/
theorem reports_success {fields : AuditFields} {a : α} (hout : fields.outcome = str "SUCCESS")
    (ha : carriedOut a = true) :
    Reports settings clock carriedOut ((addAuthEvent settings clock fields).bind fun _ => .ret a) :=
  Or.inl ⟨decide_eq_true hout, fields, a, rfl, ha, rfl⟩

/-- The same at the end of a program. -/
theorem reports_success_last {fields : AuditFields} {carriedOut : Unit → Bool}
    (hout : fields.outcome = str "SUCCESS") (ha : carriedOut () = true) :
    Reports settings clock carriedOut (addAuthEvent settings clock fields) := by
  rw [← bind_ret_right (addAuthEvent settings clock fields)]
  exact reports_success hout ha

theorem hushed_addAuthEvent {fields : AuditFields} (hout : fields.outcome ≠ str "SUCCESS") :
    Hushed succeeded (addAuthEvent settings clock fields) :=
  Hushed.bind (hushed_tell (decide_eq_false hout)) fun _ => hushed_query _ _

theorem reports_withPool (h : Reports settings clock carriedOut p) :
    Reports settings clock carriedOut (withPool settings p) :=
  withPool_rule h (announces_raise _)

theorem hushed_verify {user_id : Option Uuid} {password hash : Str} :
    Hushed succeeded (verify settings crypto user_id password hash) := by
  rw [verify]
  split
  · exact announces_raise _
  · exact Or.inr ⟨rfl, hushed_ret _⟩

theorem hushed_verifiesAny {user_id : Uuid} {password : Str} (hashes : List Str) :
    Hushed succeeded (verifiesAny settings crypto user_id password hashes) := by
  induction hashes with
  | nil => exact hushed_ret _
  | cons hash hashes ih =>
      rw [verifiesAny]
      refine hushed_verify.bind fun matched => ?_
      cases matched with
      | true => exact hushed_ret _
      | false => exact ih

/-- An answer made from what the program returns. -/
theorem reports_answering {f : α → Answer} {carriedOut' : Answer → Bool}
    (hf : ∀ a, carriedOut' (f a) = carriedOut a) (h : Reports settings clock carriedOut p) :
    Reports settings clock carriedOut' (answering p f) := by
  refine Announces.bind h (fun o k hk => ?_) fun a ha => (hf a).trans ha
  obtain ⟨fields, a, ho, ha, rfl⟩ := hk
  exact ⟨fields, f a, ho, (hf a).trans ha, bind_assoc _ _ _⟩

/-- The INSERT of an audit row does not raise what the routes translate. -/
theorem handle_storeEvent {fields : AuditFields} {a : α} :
    (storeEvent settings clock fields a).handle usernameExists =
      storeEvent settings clock fields a := by
  refine handle_query_bind_ret a fun ks v e he => ?_
  split at he
  · cases he
  · cases he
    rfl

theorem reports_handle (h : Reports settings clock carriedOut p) :
    Reports settings clock carriedOut (p.handle usernameExists) := by
  refine Announces.handle h fun o k hk => ?_
  obtain ⟨fields, a, ho, ha, rfl⟩ := hk
  exact ⟨fields, a, ho, ha, handle_storeEvent⟩

end Parts

-- ── The operations ────────────────────────────────────────────────────────────────

section Operations

variable {env : Env} {py : Python} {settings : Settings} {crypto : Crypto} {clock : Clock}

section Login

variable {draw : LoginDraw} {scan : Scan Session} {password : Str}
  {client_key user_agent : Option Str}

theorem hushed_autoUnlock (found : Account) : Hushed succeeded (autoUnlock clock found) := by
  rw [autoUnlock]
  split
  · exact Hushed.bind (hushed_query _ _) fun _ => hushed_ret _
  · exact hushed_ret _

theorem hushed_evictOldest (sessions : List Session) :
    Hushed succeeded (evictOldest settings clock sessions) := by
  rw [evictOldest]
  split
  · exact hushed_ret _
  · exact Hushed.bind (hushed_query _ _) fun _ => hushed_ret _

/-- A refused login logs `FAILURE`. -/
theorem reports_refused {target : Option Uuid} {reason : Str} :
    Reports settings clock Option.isSome
      ((addAuthEvent settings clock (loginFailed target reason client_key)).bind
        fun _ => .ret (none : Option LoginResult)) :=
  Hushed.bind (hushed_addAuthEvent (show str "FAILURE" ≠ str "SUCCESS" by decide))
    fun _ => announces_ret rfl

theorem reports_loginUnknown :
    Reports settings clock Option.isSome
      (loginUnknown settings crypto clock draw client_key password) :=
  Hushed.bind hushed_verify fun _ => reports_refused

theorem reports_loginFails (user : Account) :
    Reports settings clock Option.isSome (loginFails settings clock client_key user) :=
  Hushed.bind (hushed_query _ _) fun _ => reports_refused

theorem reports_loginSucceeds (user : Account) :
    Reports settings clock Option.isSome
      (loginSucceeds py settings crypto clock draw scan client_key user_agent password user) := by
  refine Hushed.bind (hushed_query _ _) fun _ => ?_
  refine Hushed.bind (hushed_query _ _) fun sessions => ?_
  refine Hushed.bind (hushed_evictOldest sessions) fun _ => ?_
  refine Hushed.bind (hushed_query _ _) fun _ => ?_
  exact reports_success rfl rfl

theorem reports_loginKnown (found : Account) :
    Reports settings clock Option.isSome
      (loginKnown py settings crypto clock draw scan client_key user_agent password found) := by
  refine Hushed.bind (hushed_autoUnlock found) fun _ => ?_
  dsimp only
  split
  · exact reports_refused
  · refine Hushed.bind hushed_verify fun matched => ?_
    cases matched with
    | true => exact reports_loginSucceeds _
    | false => exact reports_loginFails _

theorem reports_authenticate {username client_ip : Str} :
    Reports settings clock Option.isSome
      (authenticate py settings crypto clock draw scan username password client_ip user_agent) := by
  refine reports_withPool (Hushed.bind (hushed_query _ _) fun found => ?_)
  cases found with
  | none => exact reports_loginUnknown
  | some found => exact reports_loginKnown found

end Login

theorem reports_revokeSession {session_id user_id : Uuid} {reason : Str} :
    Reports settings clock (fun _ => true)
      (revokeSession settings clock session_id user_id reason) :=
  reports_withPool (Hushed.bind (hushed_query _ _) fun _ => reports_success_last rfl rfl)

theorem reports_storePassword {scan : Scan PasswordHistory} {salt : Str} {historyId : Nat}
    {context : AuthContext} {new_password : Str} (user : Account) :
    Reports settings clock (fun changed => changed)
      (storePassword settings crypto clock scan salt historyId context user new_password) := by
  refine Hushed.bind (hushed_query _ _) fun _ => ?_
  refine Hushed.bind (hushed_query _ _) fun _ => ?_
  refine Hushed.bind (hushed_query _ _) fun _ => ?_
  refine Hushed.bind (hushed_query _ _) fun _ => ?_
  exact reports_success rfl rfl

theorem reports_changePassword {scan : Scan PasswordHistory} {salt : Str} {historyId : Nat}
    {context : AuthContext} {current_password new_password : Str} :
    Reports settings clock (fun changed => changed)
      (changePassword py settings crypto clock scan salt historyId context current_password
        new_password) := by
  refine reports_withPool (Hushed.bind (hushed_query _ _) fun found => ?_)
  cases found with
  | none => exact announces_ret rfl
  | some user =>
      refine Hushed.bind hushed_verify fun matched => ?_
      cases matched with
      | false => exact announces_ret rfl
      | true =>
          rw [if_pos rfl]
          split
          · exact announces_raise _
          · refine Hushed.bind (hushed_query _ _) fun history => ?_
            refine Hushed.bind (hushed_verifiesAny _) fun used => ?_
            cases used with
            | true => exact announces_raise _
            | false => exact reports_storePassword user

theorem hushed_storeAccount (row : Account) : Hushed succeeded (storeAccount row) := by
  rw [storeAccount]
  split
  · exact hushed_query _ _
  · exact announces_raise _

theorem reports_createUser {actor user_id : Uuid} {salt : Str} {payload : UserCreateRequest} :
    Reports settings clock (fun _ => true)
      (createUser py settings crypto clock actor user_id salt payload) := by
  rw [createUser]
  split
  · exact announces_raise _
  · refine reports_withPool (reports_handle (Hushed.bind (hushed_storeAccount _) fun _ => ?_))
    exact reports_success rfl rfl

theorem hushed_lastAdminGuard {payload : UserUpdateRequest} (user : Account) :
    Hushed succeeded (lastAdminGuard payload user) := by
  rw [lastAdminGuard]
  split
  · refine Hushed.bind (hushed_query _ _) fun count => ?_
    split
    · exact announces_raise _
    · exact hushed_ret _
  · exact hushed_ret _

theorem hushed_revokeDisabled {user_id : Uuid} {payload : UserUpdateRequest} :
    Hushed succeeded (revokeDisabled clock user_id payload) := by
  rw [revokeDisabled]
  split
  · exact Hushed.bind (hushed_query _ _) fun _ => hushed_ret _
  · exact hushed_ret _

theorem reports_storePatch {actor user_id : Uuid} {payload : UserUpdateRequest} {user : Account} :
    Reports settings clock (fun _ => true)
      (storePatch py settings clock actor user_id payload user) := by
  rw [storePatch]
  split
  · refine Hushed.bind (hushed_query _ _) fun updated => ?_
    refine Hushed.bind hushed_revokeDisabled fun _ => ?_
    exact reports_success rfl rfl
  · exact announces_raise _

theorem reports_updateUser {actor user_id : Uuid} {payload : UserUpdateRequest} :
    Reports settings clock (fun _ => true)
      (updateUser py settings clock actor user_id payload) := by
  refine reports_withPool (Hushed.bind (hushed_query _ _) fun found => ?_)
  cases found with
  | none => exact announces_raise _
  | some user => exact Hushed.bind (hushed_lastAdminGuard user) fun _ => reports_storePatch

theorem reports_unlockUser {actor user_id : Uuid} :
    Reports settings clock (fun _ => true) (unlockUser settings clock actor user_id) := by
  refine reports_withPool (Hushed.bind (hushed_query _ _) fun rows => ?_)
  split
  · exact announces_raise _
  · exact reports_success_last rfl rfl

theorem reports_storeReset {actor user_id : Uuid} {salt : Str} {historyId : Nat}
    {payload : AdminResetPasswordRequest} (user : Account) :
    Reports settings clock (fun _ => true)
      (storeReset settings crypto clock actor user_id salt historyId payload user) := by
  refine Hushed.bind (hushed_query _ _) fun _ => ?_
  refine Hushed.bind (hushed_query _ _) fun _ => ?_
  refine Hushed.bind (hushed_query _ _) fun _ => ?_
  exact reports_success_last rfl rfl

theorem reports_resetPassword {actor user_id : Uuid} {salt : Str} {historyId : Nat}
    {payload : AdminResetPasswordRequest} :
    Reports settings clock (fun _ => true)
      (resetPassword py settings crypto clock actor user_id salt historyId payload) := by
  refine reports_withPool (Hushed.bind (hushed_query _ _) fun found => ?_)
  cases found with
  | none => exact announces_raise _
  | some user =>
      dsimp only
      split
      · exact announces_raise _
      · exact reports_storeReset user

theorem reports_revokeUserSessions {actor user_id : Uuid} :
    Reports settings clock (fun _ => true) (revokeUserSessions settings clock actor user_id) := by
  refine reports_withPool (Hushed.bind (hushed_query _ _) fun rows => ?_)
  exact reports_success rfl rfl

/-- **What the log line of an operation stands for.** -/
theorem op_reports (env : Env) {op : Op} (haudits : Op.audits op = true) :
    Reports env.settings (Op.clock op) Answer.carriedOut (op.prog env) := by
  cases op with
  | authenticate => exact reports_answering (fun _ => rfl) reports_authenticate
  | resolveSession => cases haudits
  | revokeSession => exact reports_answering (fun _ => rfl) reports_revokeSession
  | changePassword => exact reports_answering (fun _ => rfl) reports_changePassword
  | createUser => exact reports_answering (fun _ => rfl) reports_createUser
  | createAdmin => cases haudits
  | updateUser => exact reports_answering (fun _ => rfl) reports_updateUser
  | unlockUser => exact reports_answering (fun _ => rfl) reports_unlockUser
  | resetPassword => exact reports_answering (fun _ => rfl) reports_resetPassword
  | revokeUserSessions => exact reports_answering (fun _ => rfl) reports_revokeUserSessions

end Operations

-- ── The sinks together ────────────────────────────────────────────────────────────

section Tries

variable {others : Store → Store → Prop} {env : Env} {op : Op} {s s' : Store}
  {events : List AuthEvent}
  {ending : Except (Option AuthError) (Answer × Store)}

/-- A try that goes on from the log line logs nothing more; if it commits, it answers what was
    reported and has added the audit row. -/
theorem attempt_storeEvent {settings : Settings} {clock : Clock}
    {fields : AuditFields} {answer : Answer}
    (h : Attempt others (storeEvent settings clock fields answer) s events ending) :
    events = [] ∧ ∀ answer' s', ending = .ok (answer', s') →
      answer' = answer ∧ ∃ v, s' = Store.addAudit v (auditRow settings clock fields) := by
  obtain ⟨hevents, hcommits⟩ := attempt_query_bind h
  refine ⟨hevents, fun answer' s' hend => ?_⟩
  obtain ⟨hanswer, ks, v, q, hq, hs'⟩ := hcommits answer' s' hend
  refine ⟨hanswer, v, ?_⟩
  split at hq
  · cases hq
    exact hs'
  · cases hq

/-- A try with a `SUCCESS` event: the operation is carried out but for its audit row. -/
theorem left_of_succeeded (haudits : Op.audits op = true)
    (h : Attempt others (op.prog env) s events ending) {o : AuthEvent} (ho : o ∈ events)
    (hsucceeded : succeeded o = true) :
    ∃ fields answer before t, o = .log (logFields fields) ∧ Answer.carriedOut answer = true ∧
      Attempt others ((op.prog env).upTo succeeded) s before
        (.ok (.emit o (storeEvent env.settings (Op.clock op) fields answer), t)) ∧
      Attempt others (storeEvent env.settings (Op.clock op) fields answer) t [] ending := by
  rcases (op_reports env haudits).attempt h with
    ⟨hnone, -⟩ | ⟨o₁, k, t, os₁, os₂, hdone, -, ⟨fields, answer, hlog, hcarried, rfl⟩,
      rfl, hnone, hrest⟩
  · rw [hnone o ho] at hsucceeded
    cases hsucceeded
  · obtain ⟨rfl, -⟩ := attempt_storeEvent hrest
    rcases List.mem_append.mp ho with hbefore | hlast
    · rw [hnone o hbefore] at hsucceeded
      cases hsucceeded
    · obtain rfl := List.mem_singleton.mp hlast
      exact ⟨fields, answer, os₁, t, hlog, hcarried, hdone, hrest⟩

/-- A transaction that commits has logged `SUCCESS` exactly if it was not refused. -/
theorem succeeded_iff_carriedOut (haudits : Op.audits op = true) {answer : Answer}
    (h : Attempt others (op.prog env) s events (.ok (answer, s'))) :
    (∃ o ∈ events, succeeded o = true) ↔ Answer.carriedOut answer = true := by
  constructor
  · rintro ⟨o, ho, hsucceeded⟩
    obtain ⟨fields, reported, before, t, -, hcarried, -, hrest⟩ :=
      left_of_succeeded haudits h ho hsucceeded
    rw [((attempt_storeEvent hrest).2 answer s' rfl).1]
    exact hcarried
  · intro hcarried
    rcases (op_reports env haudits).attempt h with
      ⟨-, hend⟩ | ⟨o, k, t, os₁, os₂, -, hsucceeded, -, rfl, -, -⟩
    · rw [hend answer s' rfl] at hcarried
      cases hcarried
    · exact ⟨o, List.mem_append_right _ (List.mem_cons_self ..), hsucceeded⟩

/-- **What the log tells of a transaction**, whatever fails and whatever others do meanwhile.  If
    it commits, `SUCCESS` was logged exactly if the operation was not refused.  And `SUCCESS` is
    logged only when all statements before the INSERT of the audit row have succeeded: what is
    left then is this INSERT and the COMMIT. -/
theorem success_reported (haudits : Op.audits op = true)
    (h : Attempt others (op.prog env) s events ending) :
    (∀ answer s', ending = .ok (answer, s') →
      ((∃ o ∈ events, succeeded o = true) ↔ Answer.carriedOut answer = true)) ∧
    ∀ o ∈ events, succeeded o = true →
      ∃ fields answer before t, o = .log (logFields fields) ∧ Answer.carriedOut answer = true ∧
        Attempt others ((op.prog env).upTo succeeded) s before
          (.ok (.emit o (storeEvent env.settings (Op.clock op) fields answer), t)) ∧
        Attempt others (storeEvent env.settings (Op.clock op) fields answer) t [] ending := by
  refine
    ⟨fun answer s' hend => ?_, fun o ho hsucceeded => left_of_succeeded haudits h ho hsucceeded⟩
  subst hend
  exact succeeded_iff_carriedOut haudits h

/-- In a transaction that commits the log line is that of the last audit row. -/
theorem stored_of_succeeded (haudits : Op.audits op = true) {answer : Answer}
    (h : Attempt others (op.prog env) s events (.ok (answer, s'))) {o : AuthEvent} (ho : o ∈ events)
    (hsucceeded : succeeded o = true) :
    ∃ fields rows, o = .log (logFields fields) ∧
      s'.audit = rows ++ [auditRow env.settings (Op.clock op) fields] := by
  obtain ⟨fields, reported, before, t, hlog, -, -, hrest⟩ :=
    left_of_succeeded haudits h ho hsucceeded
  obtain ⟨-, v, rfl⟩ := (attempt_storeEvent hrest).2 answer s' rfl
  exact ⟨fields, v.audit, hlog, rfl⟩

end Tries

/-- The administrator that `create-admin` makes. -/
def rootStore : Store :=
  performAll .sample [.createAdmin ⟨0, 0, 0⟩ 1 [] (str "root") (str "root") none
    (str "correct horse battery") (str "correct horse battery")] .empty

/-- A login of the administrator. -/
def rootLogin (password : Str) : AuthTxn Answer :=
  (sampleLogin 0 (str "root") password).prog .sample

/-- The login with the right password runs through. -/
theorem rootLogin_eval :
    (rootLogin (str "correct horse battery")).eval rootStore =
      .ok (.login (some ⟨⟨1, 7, str "root", str "root", .ADMIN, true⟩, str "token", str "csrf"⟩),
        (rootLogin (str "correct horse battery")).perform rootStore) :=
  eval_of_result (by decide +kernel)

/-- A login that commits, and its report. -/
theorem login_reported :
    Attempt Eq (rootLogin (str "correct horse battery")) rootStore
        ((rootLogin (str "correct horse battery")).trace rootStore)
        (.ok (.login (some ⟨⟨1, 7, str "root", str "root", .ADMIN, true⟩, str "token", str "csrf"⟩),
          (rootLogin (str "correct horse battery")).perform rootStore)) ∧
      ∃ o ∈ (rootLogin (str "correct horse battery")).trace rootStore, succeeded o = true := by
  have hcommits : Attempt Eq (rootLogin (str "correct horse battery")) rootStore _ (.ok _) :=
    attempt_of_eval Eq.refl rootLogin_eval
  exact ⟨hcommits, ((success_reported rfl hcommits).1 _ _ rfl).mpr rfl⟩

theorem rootLogin_events :
    ∃ o ∈ (rootLogin (str "correct horse battery")).trace rootStore, succeeded o = true :=
  List.any_eq_true.mp (by decide +kernel)

/-- **The sinks part.** A login with a wrong password commits without `SUCCESS`; and a login whose
    COMMIT fails is rolled back after it was reported. -/
theorem sinks_disagree :
    (∃ events answer s', Attempt Eq (rootLogin (str "wrong")) rootStore events (.ok (answer, s')) ∧
      ∀ o ∈ events, succeeded o = false) ∧
    ∃ events, Attempt Eq (rootLogin (str "correct horse battery")) rootStore events (.error none) ∧
      ∃ o ∈ events, succeeded o = true := by
  constructor
  · have heval : (rootLogin (str "wrong")).eval rootStore =
        .ok (.login none, (rootLogin (str "wrong")).perform rootStore) :=
      eval_of_result (by decide +kernel)
    have hnone : ((rootLogin (str "wrong")).trace rootStore).all (fun o => !succeeded o) =
        true := by
      decide +kernel
    refine ⟨_, _, _, attempt_of_eval Eq.refl heval, fun o ho => ?_⟩
    simpa using List.all_eq_true.mp hnone o ho
  · exact ⟨_, attempt_commitFails Eq.refl rootLogin_eval, rootLogin_events⟩

end NetProbeAuditSinks
