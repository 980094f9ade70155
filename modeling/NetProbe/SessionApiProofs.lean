import NetProbe.AuthDepsProofs
import NetProbe.EventLoopProofs

/-!
# The session API and its browsers

`app/api/auth.py` with the dependencies it declares, and the browsers that call it.  A request
awaits its transactions one after another, and at each await other requests run; it also awaits
the network on its way in and out.  A browser sends the cookies it holds when it sends a request,
and takes those of a response when it receives it; it may have several requests under way.

The statements are about every interleaving of any number of requests of any number of browsers,
with other operations on the accounts and sessions (administration, the command line) among them.
-/

namespace NetProbeSessionApi

open NetProbePyText NetProbeConfig NetProbeCoreAuth NetProbeAccountStore NetProbeAuthService
open NetProbeAdminUsers NetProbeAccountRuns NetProbeDeps NetProbeAuthDeps UniqueTable
open LabelledRun EventLoop EventLoop.Coroutine

-- ── Responses ─────────────────────────────────────────────────────────────────────

/-- A `Set-Cookie` header.  A cookie is deleted by an empty value whose time is up. -/
structure SetCookie where
  name : Str
  value : Str
  max_age : Int
  httponly : Bool
  secure : Bool
  samesite : Str := str "lax"
  path : Str := str "/"
  deriving DecidableEq, Repr

/-- `"user"` -/
structure UserData where
  id : Uuid
  username : Str
  display_name : Str
  role : Role
  deriving DecidableEq, Repr

/-- `"data"` of the routes. -/
inductive AuthData where
  | login (user : UserData) (must_change_password : Bool)
  | anonymous
  | me (user : UserData) (must_change_password : Bool)
  | loggedOut
  | passwordChanged
  deriving DecidableEq, Repr

/-- The body: `success_response`, or `error_response`. -/
inductive AuthBody where
  | data (data : AuthData)
  | error (code message : Str)
  deriving DecidableEq, Repr

structure AuthResponse where
  status_code : Int
  body : AuthBody
  cookies : List SetCookie
  deriving DecidableEq, Repr

def userData (context : AuthContext) : UserData :=
  ⟨context.user_id, context.username, context.display_name, context.role⟩

/-- `_cookie_names()` -/
def cookieNames (settings : Settings) : Str × Str :=
  (sessionCookieName settings, settings.csrf_cookie_name)

/-- `max_age` of the cookies of a login, in seconds. -/
def cookieMaxAge (settings : Settings) (context : AuthContext) : Int :=
  (if context.role = .ADMIN then settings.admin_session_absolute_hours
    else settings.session_absolute_hours) * 3600

/-- The cookies of a login. -/
def loginCookies (settings : Settings) (result : LoginResult) : List SetCookie :=
  [{ name := (cookieNames settings).1, value := result.token
     max_age :=
       cookieMaxAge settings result.context, httponly := true, secure := settings.cookie_secure },
   { name := (cookieNames settings).2, value := result.csrf_token
     max_age :=
       cookieMaxAge settings result.context, httponly := false, secure := settings.cookie_secure }]

/-- The response to a login. -/
def loginResponse (settings : Settings) (result : LoginResult) : AuthResponse :=
  ⟨200, .data (.login (userData result.context) result.context.must_change_password),
    loginCookies settings result⟩

/-- `response.delete_cookie(name, path="/")` -/
def deleteCookie (name : Str) : SetCookie where
  name := name
  value := []
  max_age := 0
  httponly := false
  secure := false

-- ── What a request awaits ─────────────────────────────────────────────────────────

/-- A transaction of its own, or the network between the server and a browser. -/
inductive WebCall (β : Type) where
  | authenticate (clock : Clock) (draw : LoginDraw) (scan : Scan Session)
      (username password client_ip : Str) (user_agent : Option Str)
  | resolveSession (clock : Clock) (token : Str)
  | csrfMatches (session_id : Uuid) (token : Str)
  | revokeSession (clock : Clock) (session_id user_id : Uuid) (reason : Str)
  | changePassword (clock : Clock) (scan : Scan PasswordHistory) (salt : Str) (historyId : Nat)
      (context : AuthContext) (current_password new_password : Str)
  | operation (op : Op)
  | receive
  | send (browser : β) (response : AuthResponse)

section Calls

variable {β : Type}

/-- What it is answered. -/
abbrev WebCall.Result : WebCall β → Type
  | .authenticate .. => Option LoginResult
  | .resolveSession .. => Option AuthContext
  | .csrfMatches .. => Bool
  | .revokeSession .. => Unit
  | .changePassword .. => Bool
  | .operation _ => Answer
  | .receive | .send .. => Unit

/-- An exception of the program, or a connection that fails: to the database, or to the browser. -/
inductive WebError where
  | raised (e : AuthError)
  | lost
  deriving DecidableEq

/-- The transaction of a call. -/
def WebCall.prog (env : Env) : (c : WebCall β) → AuthTxn c.Result
  | .authenticate clock draw scan username password client_ip user_agent =>
      NetProbeAuthService.authenticate env.py env.settings env.crypto clock draw
        scan username password
        client_ip user_agent
  | .resolveSession clock token =>
      NetProbeAuthService.resolveSession env.settings env.crypto clock token
  | .csrfMatches session_id token =>
      NetProbeAuthService.csrfMatches env.settings env.crypto session_id token
  | .revokeSession clock session_id user_id reason =>
      NetProbeAuthService.revokeSession env.settings clock session_id user_id reason
  | .changePassword clock scan salt historyId context current_password new_password =>
      NetProbeAuthService.changePassword env.py env.settings env.crypto clock scan
        salt historyId context
        current_password new_password
  | .operation op => op.prog env
  | .receive | .send .. => .ret ()

/-- The database, and the responses that browsers have received. -/
structure World (β : Type) where
  store : Store
  delivered : List (β × AuthResponse)

/-- The responses that a call delivers. -/
def WebCall.delivers : WebCall β → List (β × AuthResponse)
  | .send browser response => [(browser, response)]
  | _ => []

/-- A transaction runs and is committed or rolled back, or a connection is lost before. -/
def service (env : Env) : Service (WebCall β) WebCall.Result Bool (World β) WebError where
  answer c connected w :=
    if connected then
      some (((c.prog env).result w.store).mapError .raised,
        ⟨(c.prog env).perform w.store, w.delivered ++ c.delivers⟩)
    else some (.error .lost, w)

end Calls

/-- The cookies of a browser, by name. -/
abbrev Jar : Type := Str → Option Str

/-- The cookies of the browsers are what the tasks share. -/
abbrev Task (β α : Type) : Type := Coroutine (β → Jar) (WebCall β) WebCall.Result WebError α

-- ── Dependencies ──────────────────────────────────────────────────────────────────

section Dependencies

variable {β : Type} (env : Env)

/-- `require_current_user(request)` with authentication switched on. -/
def currentContext (clock : Clock) (request : Request) : Task β AuthContext :=
  match request.cookie (sessionCookieName env.settings) with
  | none | some [] => raise (.raised authenticationRequired)
  | some token => do
      match ← await (WebCall.resolveSession clock token) with
      | none => raise (.raised sessionExpiredError)
      | some context => return context

/-- `require_current_user(request)` -/
def requireCurrentUser (clock : Clock) (request : Request) : Task β (Option AuthContext) :=
  if env.settings.auth_enabled = false then return none
  else do
    let context ← currentContext env clock request
    return some context

/-- `require_csrf(request)`, of a request that no dependency has identified yet. -/
def requireCsrf (clock : Clock) (request : Request) : Task β Unit :=
  if env.settings.auth_enabled = false then return ()
  else do
    let context ← currentContext env clock request
    match request.header (str "x-csrf-token"), request.cookie env.settings.csrf_cookie_name with
    | some (c :: cs), some cookie_token =>
        if cookie_token = c :: cs then
          if ← await (WebCall.csrfMatches context.session_id (c :: cs)) then return ()
          else raise (.raised csrfValidationFailed)
        else raise (.raised csrfValidationFailed)
    | _, _ => raise (.raised csrfValidationFailed)

end Dependencies

-- ── Routes ────────────────────────────────────────────────────────────────────────

/-- `LoginRequest`, its name normalised. -/
structure LoginRequest where
  username : Str
  password : Str

structure ChangePasswordRequest where
  current_password : Str
  new_password : Str

section Routes

variable {β : Type} (env : Env)

/-- `login(payload, request)` -/
def login (clock : Clock) (draw : LoginDraw) (scan : Scan Session) (payload : LoginRequest)
    (request : Request) : Task β AuthResponse :=
  if env.settings.auth_enabled = false then
    raise (.raised (.httpException 404 (str "AUTH_DISABLED") (str "로그인 기능이 비활성화되어 있습니다.")))
  else do
    match ← await (WebCall.authenticate clock draw scan payload.username payload.password
        (getRealClientIp env.py env.settings request) (request.header (str "user-agent"))) with
    | none =>
        return ⟨401, .error (str "AUTHENTICATION_FAILED") (str "아이디 또는 비밀번호를 확인해 주세요."), []⟩
    | some result => return loginResponse env.settings result

/-- `me(request, context)` -/
def me (clock : Clock) (request : Request) : Task β AuthResponse := do
  match ← requireCurrentUser env clock request with
  | none => return ⟨200, .data .anonymous, []⟩
  | some context => return ⟨200, .data (.me (userData context) context.must_change_password), []⟩

/-- `logout(request, context)`: `require_csrf` first, then `require_current_user`. -/
def logout (csrfClock userClock clock : Clock) (request : Request) : Task β AuthResponse := do
  requireCsrf env csrfClock request
  if let some context ← requireCurrentUser env userClock request then
    await (WebCall.revokeSession clock context.session_id context.user_id (str "LOGOUT"))
  return ⟨200, .data .loggedOut,
    [deleteCookie (cookieNames env.settings).1, deleteCookie (cookieNames env.settings).2]⟩

/-- `update_password(payload, context)`.  The detail of the first exception is a text, which the
    handler of such exceptions answers with a code of its own. -/
def updatePassword (csrfClock userClock clock : Clock) (scan : Scan PasswordHistory) (salt : Str)
    (historyId : Nat) (payload : ChangePasswordRequest) (request : Request) :
      Task β AuthResponse := do
  requireCsrf env csrfClock request
  match ← requireCurrentUser env userClock request with
  | none =>
      raise (.raised (.httpException 404 (str "VALIDATION_ERROR")
        (str "인증 기능이 비활성화되어 있습니다.")))
  | some context =>
      let changed ← tryCatch (await (WebCall.changePassword clock scan salt historyId context
          payload.current_password payload.new_password)) fun
        | .raised (.valueError message) =>
            raise (.raised (.httpException 422 (str "PASSWORD_POLICY_VIOLATION") message))
        | e => raise e
      if changed then return ⟨200, .data .passwordChanged, []⟩
      else
        raise (.raised (.httpException 401 (str "AUTHENTICATION_FAILED")
          (str "현재 비밀번호를 확인해 주세요.")))

/-- The four routes, with what each draws and reads of the clock. -/
inductive AuthRoute where
  | login (clock : Clock) (draw : LoginDraw) (scan : Scan Session) (payload : LoginRequest)
  | me (clock : Clock)
  | logout (csrfClock userClock clock : Clock)
  | updatePassword (csrfClock userClock clock : Clock) (scan : Scan PasswordHistory) (salt : Str)
      (historyId : Nat) (payload : ChangePasswordRequest)

def AuthRoute.handler (request : Request) : AuthRoute → Task β AuthResponse
  | .login clock draw scan payload => NetProbeSessionApi.login env clock draw scan payload request
  | .me clock => NetProbeSessionApi.me env clock request
  | .logout csrfClock userClock clock =>
      NetProbeSessionApi.logout env csrfClock userClock clock request
  | .updatePassword csrfClock userClock clock scan salt historyId payload =>
      NetProbeSessionApi.updatePassword env csrfClock userClock clock scan salt
        historyId payload request

/-- The exception handlers of the application. -/
def answered (handler : Task β AuthResponse) : Task β AuthResponse :=
  handler.tryCatch fun
    | .raised (.httpException status_code code message) =>
        return ⟨status_code, .error code message, []⟩
    | _ => return ⟨500, .error (str "INTERNAL_SERVER_ERROR") (str "서버 내부 오류가 발생했습니다."), []⟩

end Routes

-- ── Browsers ──────────────────────────────────────────────────────────────────────

/-- The cookies after those of a response, of which the browser may refuse some. -/
def receive (accepts : SetCookie → Bool) (jar : Jar) : List SetCookie → Jar
  | [] => jar
  | c :: cs =>
      receive accepts
        (if accepts c then Function.update jar c.name (if 0 < c.max_age then some c.value else none)
          else jar)
        cs

/-- A request of a browser.  Its headers may come from its cookies. -/
structure Visit (β : Type) where
  browser : β
  route : AuthRoute
  path : Str
  client_host : Option Str
  headers : Jar → Str → Option Str
  accepts : SetCookie → Bool

section Browsers

variable {β : Type} [DecidableEq β] (env : Env)

/-- The request as it is sent. -/
def Visit.request (v : Visit β) (jars : β → Jar) : Request :=
  ⟨v.path, v.client_host, v.headers (jars v.browser), jars v.browser⟩

/-- The browser sends the request, the server answers it, and the browser receives the response. -/
def Visit.task (v : Visit β) : Task β AuthResponse := do
  let jars ← read
  await WebCall.receive
  let response ← answered (v.route.handler env (v.request jars))
  await (WebCall.send v.browser response)
  let jars ← read
  write (Function.update jars v.browser (receive v.accepts (jars v.browser) response.cookies))
  return response

/-- What runs on the server: requests of browsers, and other operations. -/
inductive Activity (β : Type) where
  | visit (v : Visit β)
  | operation (op : Op)

def Activity.task : Activity β → Task β (Option AuthResponse)
  | .visit v => do return some (← v.task env)
  | .operation op => do
      let _ ← await (WebCall.operation op)
      return none

end Browsers

-- ── What stays true of the store ──────────────────────────────────────────────────

/-- The token has a session of the account of the context. -/
def Issued (env : Env) (token : Str) (context : AuthContext) (s : Store) : Prop :=
  ∃ x ∈ s.sessions.rows, ∃ a ∈ s.accounts.rows,
    x.token_hash = hashToken env.crypto env.settings token ∧ x.id = context.session_id ∧
      x.user_id = context.user_id ∧ a.id = context.user_id ∧ a.username = context.username

/-- The session of the token is revoked. -/
def Revoked (env : Env) (token : Str) (s : Store) : Prop :=
  ∃ x ∈ s.sessions.rows, x.token_hash = hashToken env.crypto env.settings token ∧
    x.revoked_at.isSome = true

/-- Every operation keeps it. -/
def Stable (env : Env) (P : Store → Prop) : Prop :=
  ∀ s call s', callStep env s call s' → P s → P s'

section Facts

variable {β : Type} {env : Env} {token : Str} {context context' : AuthContext} {s s' : Store}
  {w w' : World β} {call : Call} {c : WebCall β} {i : Bool} {o : Except WebError c.Result}
  {clock : Clock} {P : Store → Prop}

theorem stable_issued : Stable env (Issued env token context) := by
  rintro s call s' hstep ⟨x, hx, a, ha, hhash, hid, huser, haid, hname⟩
  obtain ⟨y, hy, hxy⟩ := (call_follows hstep).session x hx
  obtain ⟨b, hb, hab⟩ := (call_follows hstep).account a ha
  exact ⟨y, hy, b, hb, hxy.token_hash.trans hhash, hxy.id.trans hid, hxy.user_id.trans huser,
    hab.id.trans haid, hab.username.trans hname⟩

theorem stable_revoked : Stable env (Revoked env token) := by
  rintro s call s' hstep ⟨x, hx, hhash, hrevoked⟩
  obtain ⟨y, hy, hxy⟩ := (call_follows hstep).session x hx
  exact ⟨y, hy, hxy.token_hash.trans hhash, hxy.revoked hrevoked⟩

/-- A token has one session, and that has one account. -/
theorem Issued.unique (h : Issued env token context s) (h' : Issued env token context' s) :
    context.session_id = context'.session_id ∧ context.user_id = context'.user_id ∧
      context.username = context'.username := by
  obtain ⟨x, hx, a, ha, hhash, hid, huser, haid, hname⟩ := h
  obtain ⟨y, hy, b, hb, hhash', hid', huser', hbid, hname'⟩ := h'
  obtain rfl := token_unique hx hy (hhash.trans hhash'.symm)
  have huid : context.user_id = context'.user_id := huser.symm.trans huser'
  obtain rfl := account_unique ha hb ((haid.trans huid).trans hbid.symm)
  exact ⟨hid.symm.trans hid', huid, hname.symm.trans hname'⟩

theorem perform_answering {α : Type} {p : AuthTxn α} {f : α → Answer} :
    (answering p f).perform s = p.perform s := by
  cases heval : p.eval s with
  | ok r =>
      rw [Transaction.Txn.perform_of_ok heval,
        Transaction.Txn.perform_of_ok (eval_answering_ok heval)]
  | error e =>
      rw [Transaction.Txn.perform_of_error heval,
        Transaction.Txn.perform_of_error (eval_answering_error heval)]

theorem result_answering_of {α : Type} {p : AuthTxn α} {f : α → Answer} {a : α}
    (h : p.result s = .ok a) : (answering p f).result s = .ok (f a) := by
  cases heval : p.eval s with
  | ok r =>
      rw [Transaction.Txn.result_of_ok heval] at h
      cases h
      exact Transaction.Txn.result_of_ok (eval_answering_ok heval)
  | error e =>
      rw [Transaction.Txn.result_of_error heval] at h
      cases h

/-- A transaction changes nothing, or is an operation on accounts and sessions. -/
theorem perform_call (c : WebCall β) (s : Store) :
    (c.prog env).perform s = s ∨ ∃ call, callStep env s call ((c.prog env).perform s) := by
  have hop : ∀ op : Op, ∀ {α : Type} (p : AuthTxn α) (f : α → Answer), op.prog env = answering p f →
      ∃ call, callStep env s call (p.perform s) := by
    intro op α p f hprog
    refine ⟨op.on env s, rfl, ?_⟩
    show p.perform s = (op.prog env).perform s
    rw [hprog, perform_answering]
  cases c with
  | authenticate clock draw scan username password client_ip user_agent =>
      exact Or.inr (hop
        (.authenticate clock draw scan username password client_ip user_agent) _ _ rfl)
  | resolveSession clock token => exact Or.inr (hop (.resolveSession clock token) _ _ rfl)
  | csrfMatches session_id token =>
      refine Or.inl ?_
      show (NetProbeAuthService.csrfMatches env.settings env.crypto session_id token).perform s = s
      rw [NetProbeAuthService.csrfMatches, withPool]
      split
      · exact Transaction.Txn.perform_of_ok (eval_existsSession _)
      · rfl
  | revokeSession clock session_id user_id reason =>
      exact Or.inr (hop (.revokeSession clock session_id user_id reason) _ _ rfl)
  | changePassword clock scan salt historyId context current_password new_password =>
      exact Or.inr (hop
        (.changePassword clock scan salt historyId context current_password new_password)
        _ _ rfl)
  | operation op => exact Or.inr ⟨op.on env s, rfl, rfl⟩
  | receive | send => exact Or.inl rfl

/-- A call is answered by its transaction, or the connection is lost. -/
theorem answer_cases (h : (service env).answer c i w = some (o, w')) :
    o = ((c.prog env).result w.store).mapError .raised ∧
        w' = ⟨(c.prog env).perform w.store, w.delivered ++ c.delivers⟩ ∨
      o = .error .lost ∧ w' = w := by
  cases i with
  | true =>
      cases h
      exact Or.inl ⟨rfl, rfl⟩
  | false =>
      cases h
      exact Or.inr ⟨rfl, rfl⟩

theorem Stable.answer (hP : Stable env P) (h : (service env).answer c i w = some (o, w'))
    (hs : P w.store) : P w'.store := by
  rcases answer_cases h with ⟨-, rfl⟩ | ⟨-, rfl⟩
  · show P ((c.prog env).perform w.store)
    rcases perform_call c w.store with hsame | ⟨call, hcall⟩
    · rwa [hsame]
    · exact hP _ call _ hcall hs
  · exact hs

theorem Stable.later (hP : Stable env P) (h : Later (service env) w w') (hs : P w.store) :
    P w'.store := by
  induction h with
  | refl => exact hs
  | tail _ hanswer ih =>
      obtain ⟨c, i, o, hanswer⟩ := hanswer
      exact hP.answer hanswer ih

/-- What was answered is the result of the transaction. -/
theorem result_of_answer {a : c.Result} (h : (service env).answer c i w = some (.ok a, w')) :
    (c.prog env).result w.store = .ok a ∧
      w' = ⟨(c.prog env).perform w.store, w.delivered ++ c.delivers⟩ := by
  rcases answer_cases h with ⟨hresult, hw'⟩ | ⟨hlost, -⟩
  · cases hr : (c.prog env).result w.store with
    | ok b =>
        rw [hr] at hresult
        cases hresult
        exact ⟨rfl, hw'⟩
    | error e =>
        rw [hr] at hresult
        cases hresult
  · cases hlost

/-- A session that resolves was issued, and is not revoked. -/
theorem issued_of_resolved
    (h : (service env).answer (.resolveSession clock token) i w = some (.ok (some context), w')) :
    Issued env token context w'.store ∧ ¬ Revoked env token w.store := by
  have hafter : Issued env token context w.store → Issued env token context w'.store :=
    stable_issued.answer h
  obtain ⟨hresult, -⟩ := result_of_answer h
  change (NetProbeAuthService.resolveSession env.settings env.crypto clock token).result w.store = _
    at hresult
  have hres := resolveSession_cases env.settings env.crypto clock token w.store
  generalize heval : (NetProbeAuthService.resolveSession env.settings env.crypto clock token).eval
    w.store = out at hres
  cases hres with
  | noPool =>
      rw [Transaction.Txn.result_of_error heval] at hresult
      cases hresult
  | noSession | refused | expired =>
      rw [Transaction.Txn.result_of_ok heval] at hresult
      cases hresult
  | @resolved x a hdb hrow husable hdeleted hlive =>
      rw [Transaction.Txn.result_of_ok heval] at hresult
      cases hresult
      obtain ⟨hx, ha, hid, hhash, hunrevoked⟩ := sessionOf_some hrow
      refine ⟨hafter ⟨x, hx, a, ha, hhash, rfl, hid.symm, rfl, rfl⟩, ?_⟩
      rintro ⟨y, hy, hyhash, hrevoked⟩
      obtain rfl := token_unique hx hy (hhash.trans hyhash.symm)
      rw [hunrevoked] at hrevoked
      cases hrevoked

/-- A login issues its token. -/
theorem issued_of_login {draw : LoginDraw} {scan : Scan Session} {username password client_ip : Str}
    {user_agent : Option Str} {r : LoginResult}
    (h : (service env).answer
      (.authenticate clock draw scan username password client_ip user_agent) i w =
      some (.ok (some r), w')) : Issued env r.token r.context w'.store := by
  obtain ⟨hresult, rfl⟩ := result_of_answer h
  have hcall : callStep env w.store
      ⟨.authenticate clock draw scan username password client_ip user_agent, .ok (.login (some r))⟩
      ((NetProbeAuthService.authenticate env.py env.settings env.crypto clock draw
        scan username password
        client_ip user_agent).perform w.store) :=
    ⟨result_answering_of hresult, perform_answering.symm⟩
  obtain ⟨y, hy, hissued⟩ := login_stores hcall rfl
  obtain ⟨events, out, hlogin, hends⟩ := callStep_authenticate hcall
  cases hlogin with
  | noPool | unknownRaised | raised | taken | unknown | refused | wrongPassword => cases hends.1
  | @loggedIn found hfind husable hverify hfresh =>
      cases hends.1
      obtain ⟨b, hb, hab⟩ := (call_follows hcall).account found (List.mem_of_find?_eq_some hfind)
      exact ⟨y, hy, b, hb, hissued.token_hash, hissued.id, hissued.user_id,
        hab.id.trans (currentUser_id _ _).symm, hab.username.trans (currentUser_username _ _).symm⟩

/-- A session that is revoked by its id is revoked. -/
theorem revoked_of_revoke {session_id user_id : Uuid} {reason : Str} {u : Unit}
    (hissued : Issued env token context w.store) (hid : session_id = context.session_id)
    (h : (service env).answer (.revokeSession clock session_id user_id reason) i w =
      some (.ok u, w')) :
    Revoked env token w'.store := by
  obtain ⟨hresult, rfl⟩ := result_of_answer h
  change (NetProbeAuthService.revokeSession env.settings clock session_id user_id reason).result
    w.store = _ at hresult
  obtain ⟨x, hx, -, -, hhash, hxid, -, -⟩ := hissued
  rcases revokeSession_cases env.settings clock session_id user_id reason w.store with ⟨e, he⟩ | hok
  · rw [Transaction.Txn.result_of_error he] at hresult
    cases hresult
  · show Revoked env token ((NetProbeAuthService.revokeSession env.settings clock session_id user_id
      reason).perform w.store)
    rw [Transaction.Txn.perform_of_ok hok]
    refine ⟨_, (mem_setSessions revoke_keeps).mpr ⟨x, hx, rfl⟩, ?_, ?_⟩
    · split <;> exact hhash
    · cases hrevoked : x.revoked_at with
      | some time =>
          split
          · rfl
          · rw [hrevoked]
            rfl
      | none =>
          rw [if_pos (by simp [hid, hxid])]
          rfl

end Facts

-- ── What a request does ───────────────────────────────────────────────────────────

/-- What a response says is true of the store. -/
structure Answers (env : Env) (request : Request) (response : AuthResponse) (s : Store) : Prop where
  cookies : env.settings.csrf_cookie_name ≠ sessionCookieName env.settings →
    ∀ c ∈ response.cookies, c.name = sessionCookieName env.settings → 0 < c.max_age → ∃ r,
      response = loginResponse env.settings r ∧ c.value = r.token ∧ Issued env r.token r.context s
  me : ∀ user flag, response.body = .data (.me user flag) → ∃ token context,
    request.cookie (sessionCookieName env.settings) = some token ∧ user = userData context ∧
      Issued env token context s
  loggedOut : response.body = .data .loggedOut → env.settings.auth_enabled = true → ∃ token,
    request.cookie (sessionCookieName env.settings) = some token ∧ Revoked env token s

/-- The same of what a handler ends with. -/
def Answered {β : Type} (A : AuthResponse → Store → Prop) :
    Except WebError AuthResponse → World β → Prop
  | .ok response, w => A response w.store
  | .error _, _ => True

section Handlers

variable {β τ : Type} [DecidableEq τ] {env : Env} {t : τ} {w : World β} {request : Request}
  {clock csrfClock userClock : Clock}
  {C : (c : WebCall β) → Except WebError c.Result → (β → Jar) → World β → Prop}
  {I : (β → Jar) → World β → (τ → List (Event (WebCall β) WebCall.Result WebError)) → Prop}

/-- A response without cookies, that neither shows a user nor logs one out. -/
theorem answers_plain {status_code : Int} {body : AuthBody} {s : Store}
    (hme : ∀ user flag, body ≠ .data (.me user flag)) (hout : body ≠ .data .loggedOut) :
    Answers env request ⟨status_code, body, []⟩ s := by
  refine ⟨?_, ?_, ?_⟩
  · intro _ c hc
    cases hc
  · intro user flag hbody
    exact absurd hbody (hme user flag)
  · intro hbody
    exact absurd hbody hout

theorem answers_login {r : LoginResult} {s : Store} (hissued : Issued env r.token r.context s) :
    Answers env request (loginResponse env.settings r) s := by
  refine ⟨?_, ?_, ?_⟩
  · intro hname c hc hsession hage
    rcases List.mem_cons.mp hc with rfl | hc
    · exact ⟨r, rfl, rfl, hissued⟩
    · obtain rfl := List.mem_singleton.mp hc
      exact absurd hsession hname
  · intro user flag hbody
    cases hbody
  · intro hbody
    cases hbody

/-- The cookies of a logout are deletions. -/
theorem cookies_deleted {settings : Settings} {P : SetCookie → Prop} :
    ∀ c ∈ [deleteCookie (cookieNames settings).1, deleteCookie (cookieNames settings).2],
      c.name = sessionCookieName settings → 0 < c.max_age → P c := by
  intro c hc _ hage
  rcases List.mem_cons.mp hc with rfl | hc
  · cases hage
  · obtain rfl := List.mem_singleton.mp hc
    cases hage

theorem calls_currentContext (hI : Undisturbed (service env) I) :
    Calls (service env) C I t (currentContext env clock request) w fun r w =>
      ∀ context, r = .ok context →
      ∃ token, request.cookie (sessionCookieName env.settings) = some token ∧
        Issued env token context w.store := by
  rw [currentContext]
  split
  next => exact calls_raise fun context h => by cases h
  next => exact calls_raise fun context h => by cases h
  next token _ hcookie =>
    refine calls_bind (calls_await hI (Q := fun r w => ∀ context, r = .ok (some context) →
      Issued env token context w.store) ?_) ?_ ?_
    · rintro w' i o w'' - ho context rfl
      exact (issued_of_resolved ho).1
    · intro found w' hfound
      cases found with
      | none => exact calls_raise fun context h => by cases h
      | some context =>
          refine calls_pure fun context' h => ?_
          cases h
          exact ⟨token, hcookie, hfound context rfl⟩
    · intro e w' _ context h
      cases h

theorem calls_requireCurrentUser (hI : Undisturbed (service env) I) :
    Calls (service env) C I t (requireCurrentUser env clock request) w fun r w =>
      (r = .ok none → env.settings.auth_enabled = false) ∧ ∀ context, r = .ok (some context) →
        ∃ token, request.cookie (sessionCookieName env.settings) = some token ∧
          Issued env token context w.store := by
  rw [requireCurrentUser]
  split
  next hoff => exact calls_pure ⟨fun _ => hoff, fun context h => by cases h⟩
  next =>
    refine calls_bind (calls_currentContext hI) ?_ ?_
    · intro context w' hcontext
      refine calls_pure ⟨fun h => (by cases h), fun context' h => ?_⟩
      cases h
      exact hcontext context rfl
    · intro e w' _
      exact ⟨fun h => (by cases h), fun context h => by cases h⟩

theorem calls_requireCsrf (hI : Undisturbed (service env) I) :
    Calls (service env) C I t (requireCsrf env clock request) w fun _ _ => True := by
  rw [requireCsrf]
  split
  next => exact calls_pure trivial
  next =>
    refine calls_bind (calls_currentContext hI) ?_ fun _ _ _ => trivial
    intro context w' _
    split
    next =>
      split
      next =>
        refine calls_bind (Q := fun _ _ => True) (calls_await hI fun _ _ _ _ _ _ => trivial) ?_
          fun _ _ _ => trivial
        intro found w'' _
        cases found with
        | false => exact calls_raise trivial
        | true => exact calls_pure trivial
      next => exact calls_raise trivial
    next => exact calls_raise trivial

theorem calls_login {draw : LoginDraw} {scan : Scan Session} {payload : LoginRequest}
    (hI : Undisturbed (service env) I) :
    Calls (service env) C I t (login env clock draw scan payload request) w
      (Answered (Answers env request)) := by
  rw [login]
  split
  next => exact calls_raise trivial
  next =>
    refine calls_bind (calls_await hI (Q := fun r w => ∀ result, r = .ok (some result) →
      Issued env result.token result.context w.store) ?_) ?_ fun _ _ _ => trivial
    · rintro w' i o w'' - ho result rfl
      exact issued_of_login ho
    · intro found w' hfound
      cases found with
      | none => exact calls_pure (answers_plain (fun _ _ h => by cases h) fun h => by cases h)
      | some result => exact calls_pure (answers_login (hfound result rfl))

theorem calls_me (hI : Undisturbed (service env) I) :
    Calls (service env) C I t (me env clock request) w (Answered (Answers env request)) := by
  rw [me]
  refine calls_bind (calls_requireCurrentUser hI) ?_ fun _ _ _ => trivial
  intro found w' hfound
  cases found with
  | none => exact calls_pure (answers_plain (fun _ _ h => by cases h) fun h => by cases h)
  | some context =>
      obtain ⟨token, hcookie, hissued⟩ := hfound.2 context rfl
      refine calls_pure ⟨?_, ?_, ?_⟩
      · intro _ c hc
        cases hc
      · intro user flag hbody
        cases hbody
        exact ⟨token, context, hcookie, rfl, hissued⟩
      · intro hbody
        cases hbody

theorem calls_logout (hI : Undisturbed (service env) I) :
    Calls (service env) C I t (logout env csrfClock userClock clock request) w
      (Answered (Answers env request)) := by
  rw [logout]
  refine calls_bind (calls_requireCsrf hI) ?_ fun _ _ _ => trivial
  intro _ w₁ _
  refine calls_bind (calls_requireCurrentUser hI) ?_ fun _ _ _ => trivial
  intro found w₂ hfound
  cases found with
  | none =>
      refine calls_pure ⟨?_, ?_, ?_⟩
      · exact fun _ => cookies_deleted
      · intro user flag hbody
        cases hbody
      · intro _ hon
        rw [hfound.1 rfl] at hon
        cases hon
  | some context =>
      obtain ⟨token, hcookie, hissued⟩ := hfound.2 context rfl
      refine calls_bind (calls_await hI (Q := fun r w => ∀ u, r = .ok u →
        Revoked env token w.store) ?_) ?_ fun _ _ _ => trivial
      · rintro w' i o w'' hlater ho u rfl
        exact revoked_of_revoke (stable_issued.later hlater hissued) rfl ho
      · intro u w₃ hrevoked
        refine calls_pure ⟨?_, ?_, ?_⟩
        · exact fun _ => cookies_deleted
        · intro user flag hbody
          cases hbody
        · exact fun _ _ => ⟨token, hcookie, hrevoked u rfl⟩

theorem calls_updatePassword {scan : Scan PasswordHistory} {salt : Str} {historyId : Nat}
    {payload : ChangePasswordRequest} (hI : Undisturbed (service env) I) :
    Calls (service env) C I t
      (updatePassword env csrfClock userClock clock scan salt historyId payload request) w
      (Answered (Answers env request)) := by
  rw [updatePassword]
  refine calls_bind (calls_requireCsrf hI) ?_ fun _ _ _ => trivial
  intro _ w₁ _
  refine calls_bind (calls_requireCurrentUser hI) ?_ fun _ _ _ => trivial
  intro found w₂ _
  cases found with
  | none => exact calls_raise trivial
  | some context =>
      refine calls_bind (Q := fun _ _ => True) ?_ ?_ fun _ _ _ => trivial
      · refine calls_tryCatch (Q := fun _ _ => True) (calls_await hI fun _ _ _ _ _ _ => trivial)
          (fun _ _ _ => trivial) ?_
        intro e w₃ _
        split
        next => exact calls_raise trivial
        next => exact calls_raise trivial
      · intro changed w₃ _
        split
        next => exact calls_pure (answers_plain (fun _ _ h => by cases h) fun h => by cases h)
        next => exact calls_raise trivial

/-- **Every route answers what is true of the store.** -/
theorem calls_handler {route : AuthRoute} (hI : Undisturbed (service env) I) :
    Calls (service env) C I t (route.handler env request) w (Answered (Answers env request)) := by
  cases route with
  | login => exact calls_login hI
  | me => exact calls_me hI
  | logout => exact calls_logout hI
  | updatePassword => exact calls_updatePassword hI

theorem calls_answered {p : Task β AuthResponse}
    (hp : Calls (service env) C I t p w (Answered (Answers env request))) :
    Calls (service env) C I t (answered p) w (Answered (Answers env request)) := by
  rw [answered]
  refine calls_tryCatch hp (fun _ _ h => h) ?_
  intro e w' _
  split
  next => exact calls_pure (answers_plain (fun _ _ h => by cases h) fun h => by cases h)
  next => exact calls_pure (answers_plain (fun _ _ h => by cases h) fun h => by cases h)

end Handlers

-- ── Every interleaving ────────────────────────────────────────────────────────────

/-- The browser has received the login that issued the token. -/
def Delivered (env : Env) {β : Type} (b : β) (token : Str) (w : World β) : Prop :=
  ∃ r, (b, loginResponse env.settings r) ∈ w.delivered ∧ r.token = token ∧
    Issued env token r.context w.store

/-- Browsers hold the tokens of their own logins. -/
def Held (env : Env) {β τ : Type} (jars : β → Jar) (w : World β)
    (_ : τ → List (Event (WebCall β) WebCall.Result WebError)) : Prop :=
  ∀ b token, jars b (sessionCookieName env.settings) = some token → Delivered env b token w

/-- A user that a browser is shown is one that it has logged in. -/
def ShowsOwn (env : Env) {β : Type} (activity : Activity β)
    (r : Except WebError (Option AuthResponse))
    (w : World β) : Prop :=
  ∀ v response user flag, activity = .visit v → r = .ok (some response) →
    response.body = .data (.me user flag) → ∃ result,
      (v.browser, loginResponse env.settings result) ∈ w.delivered ∧
        user.id = result.context.user_id ∧ user.username = result.context.username

section Interleaving

variable {β τ : Type} {env : Env} {t : τ} {b : β} {token : Str} {c : WebCall β} {i : Bool}
  {o : Except WebError c.Result} {w w' : World β} {jars : β → Jar}
  {h : τ → List (Event (WebCall β) WebCall.Result WebError)} {v : Visit β} {activity : Activity β}
  {C : (c : WebCall β) → Except WebError c.Result → (β → Jar) → World β → Prop}
  {I : (β → Jar) → World β → (τ → List (Event (WebCall β) WebCall.Result WebError)) → Prop}

/-- A cookie was there, or the response has set it. -/
theorem receive_some {accepts : SetCookie → Bool} {jar : Jar} {cs : List SetCookie} {name : Str}
    (hcookie : receive accepts jar cs name = some token) :
    jar name = some token ∨ ∃ c ∈ cs, c.name = name ∧ 0 < c.max_age ∧ c.value = token := by
  induction cs generalizing jar with
  | nil => exact Or.inl hcookie
  | cons c cs ih =>
      rw [receive] at hcookie
      rcases ih hcookie with hjar | ⟨c', hc', hset⟩
      · split at hjar
        next =>
          rcases eq_or_ne name c.name with rfl | hne
          · rw [Function.update_self] at hjar
            split at hjar
            next hage => exact Or.inr ⟨c, List.mem_cons_self, rfl, hage, Option.some.inj hjar⟩
            next => cases hjar
          · rw [Function.update_of_ne hne] at hjar
            exact Or.inl hjar
        next => exact Or.inl hjar
      · exact Or.inr ⟨c', List.mem_cons_of_mem _ hc', hset⟩

theorem delivered_answer {x : β × AuthResponse} (ho : (service env).answer c i w = some (o, w'))
    (hx : x ∈ w.delivered) : x ∈ w'.delivered := by
  rcases answer_cases ho with ⟨-, rfl⟩ | ⟨-, rfl⟩
  · exact List.mem_append_left _ hx
  · exact hx

theorem delivered_later {x : β × AuthResponse} (hlater : Later (service env) w w')
    (hx : x ∈ w.delivered) : x ∈ w'.delivered := by
  induction hlater with
  | refl => exact hx
  | tail _ hanswer ih =>
      obtain ⟨c, i, o, hanswer⟩ := hanswer
      exact delivered_answer hanswer ih

theorem Delivered.answer (hd : Delivered env b token w)
    (ho : (service env).answer c i w = some (o, w')) : Delivered env b token w' := by
  obtain ⟨r, hr, htoken, hissued⟩ := hd
  exact ⟨r, delivered_answer ho hr, htoken, stable_issued.answer ho hissued⟩

theorem Delivered.later (hd : Delivered env b token w) (hlater : Later (service env) w w') :
    Delivered env b token w' := by
  obtain ⟨r, hr, htoken, hissued⟩ := hd
  exact ⟨r, delivered_later hlater hr, htoken, stable_issued.later hlater hissued⟩

theorem stable_answers {request : Request} {response : AuthResponse} :
    Stable env (Answers env request response) := by
  intro s call s' hstep hs
  refine ⟨?_, ?_, ?_⟩
  · intro hname c hc hsession hage
    obtain ⟨r, hr, hvalue, hissued⟩ := hs.cookies hname c hc hsession hage
    exact ⟨r, hr, hvalue, stable_issued s call s' hstep hissued⟩
  · intro user flag hbody
    obtain ⟨token, context, hcookie, huser, hissued⟩ := hs.me user flag hbody
    exact ⟨token, context, hcookie, huser, stable_issued s call s' hstep hissued⟩
  · intro hbody hon
    obtain ⟨token, hcookie, hrevoked⟩ := hs.loggedOut hbody hon
    exact ⟨token, hcookie, stable_revoked s call s' hstep hrevoked⟩

variable [DecidableEq τ]

theorem undisturbed_held : @Undisturbed τ _ _ _ _ _ _ _ (service env) (@Held env β τ) :=
  fun _ _ _ _ _ _ _ _ hheld ho b token hcookie => (hheld b token hcookie).answer ho

/-- Where nothing has to hold, nothing is disturbed. -/
theorem undisturbed_true : Undisturbed (service env)
    (fun (_ : β → Jar) _ (_ : τ → List (Event (WebCall β) WebCall.Result WebError)) => True) :=
  fun _ _ _ _ _ _ _ _ _ _ => trivial

variable [DecidableEq β]

/-- **A visit**: what was sent is answered, and the answer is received. -/
theorem keeps_visit
    {Q : Post τ (β → Jar) (WebCall β) WebCall.Result (World β) WebError AuthResponse}
    {A : AuthResponse → Store → Prop} (hI : Undisturbed (service env) I) (hg : I jars w h)
    (hA : ∀ response, Stable env (A response))
    (hanswered : ∀ w', Later (service env) w w' → Calls (service env) C I t
      (answered (v.route.handler env (v.request jars))) w' (Answered A))
    (hok : ∀ response jars' w' h', I jars' w' h' → Later (service env) w w' →
      A response w'.store → (v.browser, response) ∈ w'.delivered →
      Q (.ok response) (Function.update jars' v.browser
        (receive v.accepts (jars' v.browser) response.cookies)) w' h')
    (herror : ∀ e jars' w' h', I jars' w' h' → Q (.error e) jars' w' h') :
    Keeps (service env) C I t Q (v.task env) jars w h := by
  have hreceive : Calls (service env) C I t (.await WebCall.receive) w fun _ _ => True :=
    calls_await hI fun _ _ _ _ _ _ => trivial
  rw [Visit.task]
  refine keeps_bind.mpr (keeps_read.mpr ?_)
  refine keeps_bind.mpr ((hreceive.later jars h hg).mono fun r jars₁ w₁ h₁ hr => ?_)
  cases r with
  | error e => exact herror e _ _ _ hr.1
  | ok _ =>
      refine keeps_bind.mpr
        (((hanswered w₁ hr.2.1).later jars₁ h₁ hr.1).mono fun r jars₂ w₂ h₂ hr₂ => ?_)
      cases r with
      | error e => exact herror e _ _ _ hr₂.1
      | ok response =>
          have hsend : Calls (service env) C I t (.await (WebCall.send v.browser response)) w₂
              fun r w => r = .ok () → A response w.store ∧
                (v.browser, response) ∈ w.delivered := by
            refine calls_await hI ?_
            rintro w' i o w'' hlater ho rfl
            obtain ⟨-, rfl⟩ := result_of_answer ho
            exact ⟨(hA response).answer ho ((hA response).later hlater hr₂.2.2),
              List.mem_append_right _ (List.mem_singleton.mpr rfl)⟩
          refine keeps_bind.mpr ((hsend.later jars₂ h₂ hr₂.1).mono fun r jars₃ w₃ h₃ hr₃ => ?_)
          cases r with
          | error e => exact herror e _ _ _ hr₃.1
          | ok _ =>
              obtain ⟨hanswers, hdelivered⟩ := hr₃.2.2 rfl
              refine keeps_bind.mpr (keeps_read.mpr (keeps_bind.mpr (keeps_write.mpr ?_)))
              exact hok response jars₃ w₃ h₃ hr₃.1 ((hr.2.1.trans hr₂.2.1).trans hr₃.2.1)
                hanswers hdelivered

omit [DecidableEq τ] in
theorem held_update {response : AuthResponse} {accepts : SetCookie → Bool} {request : Request}
    (hname : env.settings.csrf_cookie_name ≠ sessionCookieName env.settings)
    (hheld : Held env jars w h)
    (hanswers : Answers env request response w.store)
    (hdelivered : (b, response) ∈ w.delivered) :
    Held env (Function.update jars b (receive accepts (jars b) response.cookies)) w h := by
  intro b' token hcookie
  rcases eq_or_ne b' b with rfl | hne
  · rw [Function.update_self] at hcookie
    rcases receive_some hcookie with hjar | ⟨c, hc, hsession, hage, rfl⟩
    · exact hheld b' token hjar
    · obtain ⟨r, rfl, hvalue, hissued⟩ := hanswers.cookies hname c hc hsession hage
      rw [hvalue]
      exact ⟨r, hdelivered, rfl, hissued⟩
  · rw [Function.update_of_ne hne] at hcookie
    exact hheld b' token hcookie

/-- **An activity leaves every browser with its own sessions**, and shows it its own user. -/
theorem keeps_held (hname : env.settings.csrf_cookie_name ≠ sessionCookieName env.settings)
    (hheld : Held env jars w h) :
    Keeps (service env) C (Held env) t
      (fun r jars w h => Held env jars w h ∧ ShowsOwn env activity r w)
      (activity.task env) jars w h := by
  cases activity with
  | operation op =>
      refine keeps_bind.mpr ((calls_await (c := WebCall.operation op) undisturbed_held
        (Q := fun _ _ => True) (fun _ _ _ _ _ _ => trivial) jars h hheld).mono fun r _ _ _ hr => ?_)
      have hnone : ∀ {r} {w : World β}, ShowsOwn env (.operation op) r w := by
        intro r w v response user flag hv
        cases hv
      cases r with
      | ok a => exact ⟨hr.1, hnone⟩
      | error e => exact ⟨hr.1, hnone⟩
  | visit v =>
      refine keeps_bind.mpr (keeps_visit undisturbed_held hheld (fun _ => stable_answers)
        (fun _ _ => calls_answered (calls_handler undisturbed_held)) ?_ ?_)
      · intro response jars' w' h' hheld' hlater hanswers hdelivered
        refine ⟨held_update hname hheld' hanswers hdelivered, ?_⟩
        intro v' response' user flag hv hr hbody
        cases hv
        cases hr
        obtain ⟨token, context, hcookie, rfl, hissued⟩ := hanswers.me user flag hbody
        obtain ⟨r, hr, -, hlogin⟩ := (hheld v.browser token hcookie).later hlater
        obtain ⟨-, huser, husername⟩ := hissued.unique hlogin
        exact ⟨r, hr, huser, husername⟩
      · intro e jars' w' h' hheld'
        refine ⟨hheld', ?_⟩
        intro v' response user flag _ hr
        cases hr

variable {activities : τ → Activity β}
  {s s₀ s₁ : State τ (β → Jar) (WebCall β) WebCall.Result (World β)
  WebError (Option AuthResponse)} {acts acts' : List (Act τ Bool)} {response : AuthResponse}
  {user : UserData} {flag : Bool}

/-- **A browser is only shown users that it has logged in**, whatever runs beside its requests. -/
theorem me_shows_own_login (hname : env.settings.csrf_cookie_name ≠ sessionCookieName env.settings)
    (hjars : ∀ b, jars b (sessionCookieName env.settings) = none)
    (hrun : Run (Step (service env)) (initial (fun t => (activities t).task env) jars w) acts s)
    (hvisit : activities t = .visit v) (hended : s.phase t = .ended (.ok (some response)))
    (hbody : response.body = .data (.me user flag)) : ∃ result,
      (v.browser, loginResponse env.settings result) ∈ s.world.delivered ∧
        user.id = result.context.user_id ∧ user.username = result.context.username := by
  have hkept₀ : Kept (service env) (fun _ _ _ _ => True) (Held env)
      (fun t r _ w _ => ShowsOwn env (activities t) r w)
      (initial (fun t => (activities t).task env) jars w) := by
    refine kept_initial ?_ fun t jars w h hheld _ => keeps_held hname hheld
    intro b token hcookie
    rw [hjars] at hcookie
    cases hcookie
  obtain ⟨before, act, after, m, m', -, hbefore, hstep, hends, hafter⟩ :=
    exists_ends hrun (fun r hr => by cases hr) hended
  have hkept := kept_run hkept₀ (hbefore.restrict_of_all fun _ _ => meets_trivial)
  obtain ⟨r, hr, hsame⟩ :=
    (hkept.step ⟨meets_trivial, hstep⟩).2 t _ hends v response user flag hvisit rfl hbody
  exact ⟨r, delivered_later (later_of_run hafter) hr, hsame⟩

/-- A visit that is told it has logged out has revoked the session it was sent with. -/
theorem keeps_revoked (hauth : env.settings.auth_enabled = true)
    (hsent : jars v.browser (sessionCookieName env.settings) = some token) :
    Keeps (service env) C (fun _ _ _ => True) t
      (fun r _ w _ => ∀ response, r = .ok (some response) →
      response.body = .data .loggedOut → Revoked env token w.store)
      ((Activity.visit v).task env) jars w h := by
  refine keeps_bind.mpr (keeps_visit undisturbed_true trivial (fun _ => stable_answers)
    (fun _ _ => calls_answered (calls_handler undisturbed_true)) ?_ ?_)
  · rintro response jars' w' h' - - hanswers - response' hr hbody
    cases hr
    obtain ⟨token', hcookie, hrevoked⟩ := hanswers.loggedOut hbody hauth
    have hsame : token = token' := Option.some.inj (hsent.symm.trans hcookie)
    rwa [hsame]
  · rintro e jars' w' h' - response hr
    cases hr

/-- **A logout is final.**  Once it has been answered, nobody is let in with the token it was sent
    with, whatever ran beside it and whatever comes after it. -/
theorem logout_is_final (hauth : env.settings.auth_enabled = true)
    (hvisit : activities t = .visit v)
    (hcreated : s₀.phase t = .created ((activities t).task env))
    (hsent : s₀.shared v.browser (sessionCookieName env.settings) = some token)
    (hrun : Run (Step (service env)) s₀ (.start t :: acts) s)
    (hended : s.phase t = .ended (.ok (some response))) (hbody : response.body = .data .loggedOut)
    (hlater : Run (Step (service env)) s acts' s₁) (clock : Clock) (context : AuthContext) :
    (service env).answer (.resolveSession clock token) i s₁.world ≠
      some (.ok (some context), w) := by
  intro hresolved
  rw [hvisit] at hcreated
  obtain ⟨w', hrevoked, hafter⟩ :=
    ended_of_start (P := fun r w => ∀ response, r = .ok (some response) →
    response.body = .data .loggedOut → Revoked env token w.store) hcreated
    (fun r hr => by cases hr) (keeps_revoked hauth hsent) hrun hended
  exact (issued_of_resolved hresolved).2 (stable_revoked.later (later_of_run hlater)
    (stable_revoked.later hafter (hrevoked response rfl hbody)))

end Interleaving

-- ── Two browsers ──────────────────────────────────────────────────────────────────

/-- A browser that takes every cookie and shows its CSRF cookie in the header. -/
def sampleVisit (browser : Bool) (route : AuthRoute) : Visit Bool where
  browser := browser
  route := route
  path := str "/api/v1/auth"
  client_host := none
  headers := fun jar name => if name = str "x-csrf-token" then jar (str "netprobe_csrf") else none
  accepts := fun _ => true

/-- One browser logs in, looks who it is, and logs out; the other looks who it is. -/
def sampleActivities : Fin 4 → Activity Bool
  | 0 => .visit (sampleVisit true (.login ⟨1, 1, 1⟩ ⟨str "token", str "csrf", 7, []⟩ .asInserted
      ⟨str "root", str "correct horse battery"⟩))
  | 1 => .visit (sampleVisit true (.me ⟨2, 2, 2⟩))
  | 2 => .visit (sampleVisit true (.logout ⟨2, 2, 2⟩ ⟨2, 2, 2⟩ ⟨2, 2, 2⟩))
  | 3 => .visit (sampleVisit false (.me ⟨2, 2, 2⟩))

/-- Browsers without cookies, and an administrator. -/
abbrev browsersStart :
    State (Fin 4) (Bool → Jar) (WebCall Bool) WebCall.Result (World Bool) WebError
    (Option AuthResponse) :=
  initial (fun t => (sampleActivities t).task .sample) (fun _ _ => none)
    ⟨performAll .sample (sampleStart.take 1) .empty, []⟩

/-- The login, beside a request of the other browser. -/
def sampleLoginActs : List (Act (Fin 4) Bool) :=
  [.start 0, .start 3, .resume 0 true, .resume 3 true, .resume 0 true,
    .resume 3 true, .resume 0 true]

def sampleMe : AuthResponse := ⟨200, .data (.me ⟨1, str "root", str "root", .ADMIN⟩ true), []⟩

/-- The general result on one browser that logs in and another that does not. -/
theorem sample_shows_own : ∃ s, Run (Step (service .sample)) browsersStart
      (sampleLoginActs ++ [.start 1, .resume 1 true, .resume 1 true, .resume 1 true]) s ∧
    s.phase 1 = .ended (.ok (some sampleMe)) ∧ ∃ result,
      (true, loginResponse Env.sample.settings result) ∈ s.world.delivered ∧
        1 = result.context.user_id ∧ str "root" = result.context.username := by
  have hexec : (exec (next (service .sample)) browsersStart
      (sampleLoginActs ++ [.start 1, .resume 1 true, .resume 1 true, .resume 1 true])).any (fun s =>
        decide ((s.phase 1).outcome = some (.ok (some sampleMe)))) = true := by
    decide +kernel
  obtain ⟨s, hs, hended⟩ := (Option.any_eq_true _ _).mp hexec
  have hended' := ended_of_outcome (of_decide_eq_true hended)
  exact ⟨s, run_of_exec hs, hended',
    me_shows_own_login (by decide) (fun _ => rfl) (run_of_exec hs) rfl hended' rfl⟩

/-- The logout, beside a request with the same cookies. -/
def sampleLogoutActs : List (Act (Fin 4) Bool) :=
  [.start 1, .resume 2 true, .resume 2 true, .resume 1 true, .resume 2 true,
    .resume 2 true, .resume 1 true, .resume 2 true, .resume 2 true]

def sampleLogout : AuthResponse :=
  ⟨200, .data .loggedOut,
    [deleteCookie (str "__Host-netprobe_session"), deleteCookie (str "netprobe_csrf")]⟩

/-- The general result on a logout, and the end of the request beside it. -/
theorem sample_logout_final :
    ∃ s₀ s s₁, Run (Step (service .sample)) browsersStart sampleLoginActs s₀ ∧
    Run (Step (service .sample)) s₀ (.start 2 :: sampleLogoutActs) s ∧
    s.phase 2 = .ended (.ok (some sampleLogout)) ∧
      Run (Step (service .sample)) s [.resume 1 true] s₁ ∧
    ∀ clock context i w, (service .sample).answer (.resolveSession clock (str "token")) i s₁.world ≠
      some (.ok (some context), w) := by
  have hexec : (exec (next (service .sample)) browsersStart sampleLoginActs).any (fun s₀ =>
      decide (s₀.shared true (sessionCookieName Env.sample.settings) = some (str "token")) &&
        (exec (next (service .sample)) s₀ (.start 2 :: sampleLogoutActs)).any fun s =>
          decide ((s.phase 2).outcome = some (.ok (some sampleLogout))) &&
            (exec (next (service .sample)) s [.resume 1 true]).isSome) = true := by
    decide +kernel
  obtain ⟨s₀, hs₀, h⟩ := (Option.any_eq_true _ _).mp hexec
  obtain ⟨hsent, h⟩ := Bool.and_eq_true_iff.mp h
  obtain ⟨s, hs, h⟩ := (Option.any_eq_true _ _).mp h
  obtain ⟨hended, h⟩ := Bool.and_eq_true_iff.mp h
  obtain ⟨s₁, hs₁⟩ := Option.isSome_iff_exists.mp h
  have hstart : Run (Step (service .sample)) browsersStart sampleLoginActs s₀ := run_of_exec hs₀
  have hcreated := created_of_run (t := 2) hstart rfl (by simp [sampleLoginActs])
  have hended' := ended_of_outcome (of_decide_eq_true hended)
  refine ⟨s₀, s, s₁, hstart, run_of_exec hs, hended', run_of_exec hs₁, fun clock context i w => ?_⟩
  have hvisit : sampleActivities 2 =
      .visit (sampleVisit true (.logout ⟨2, 2, 2⟩ ⟨2, 2, 2⟩ ⟨2, 2, 2⟩)) :=
    rfl
  exact logout_is_final rfl hvisit hcreated (of_decide_eq_true hsent) (run_of_exec hs) hended' rfl
    (run_of_exec hs₁) clock context

end NetProbeSessionApi
