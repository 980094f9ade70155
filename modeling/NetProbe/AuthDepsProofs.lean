import NetProbe.DepsProofs
import NetProbe.SessionRunsProofs

/-!
# Which requests reach a handler

`app/core/auth_deps.py` and the dependency lists of the routes.  A dependency is a computation
over the database, the `request.state` of the request and the rate limiter (`Web`); what it
has changed stays changed when it raises, since each of its transactions has committed.  The
framework runs the dependencies of a route in the order they are declared (router, decorator,
parameters) and calls the handler if all of them return (`HandlerRuns`).

`handler_runs_authorised` says what is known of every request whose handler runs: the session
cookie and the CSRF token belong to one session that is good at that time, of an account that
may use the route (`Authorised`); and in a store that a run of operations has reached, they
are the two tokens one login of the run returned.  `Returns` takes a computation apart at its
binds, so that no proof looks inside the monad.
-/

namespace NetProbeAuthDeps

open NetProbePyText NetProbeConfig NetProbeCoreAuth NetProbeAccountStore NetProbeAuthService
open NetProbeAdminUsers NetProbeAccountRuns NetProbeDeps UniqueTable Transaction Transaction.Txn
open LabelledRun

-- ── Computations of a request ─────────────────────────────────────────────────────

/-- What the dependencies of a request share. -/
structure WebState where
  store : Store
  current_user : Option AuthContext
  limiter : RateLimiter

/-- A computation that may raise; its changes stay. -/
abbrev Web (α : Type) : Type := ExceptT AuthError (StateM WebState) α

/-- The computation returns `a` from `st` and leaves `st'`. -/
def Returns {α : Type} (p : Web α) (st : WebState) (a : α) (st' : WebState) : Prop :=
  p.run.run st = (.ok a, st')

/-- A transaction of its own. -/
def transact {α : Type} (p : AuthTxn α) : Web α :=
  ExceptT.mk fun st => (p.result st.store, { st with store := p.perform st.store })

section Returns

variable {α β : Type} {st st' : WebState}

theorem returns_bind {p : Web α} {f : α → Web β} {b : β} :
    Returns (p >>= f) st b st' ↔ ∃ a m, Returns p st a m ∧ Returns (f a) m b st' := by
  unfold Returns
  rw [ExceptT.run_bind, StateT.run_bind]
  rcases hp : p.run.run st with ⟨out, m⟩
  cases out with
  | ok a =>
      constructor
      · intro h
        exact ⟨a, m, rfl, h⟩
      · rintro ⟨a', m', h, h'⟩
        cases h
        exact h'
  | error e =>
      constructor
      · intro h
        cases h
      · rintro ⟨a', m', h, -⟩
        cases h

theorem returns_pure {a b : α} : Returns (pure a) st b st' ↔ b = a ∧ st' = st := by
  constructor
  · intro h
    cases h
    exact ⟨rfl, rfl⟩
  · rintro ⟨rfl, rfl⟩
    rfl

theorem not_returns_throw {e : AuthError} {b : α} : ¬ Returns (throw e : Web α) st b st' := by
  intro h
  cases h

theorem returns_modify {g : WebState → WebState} {u : Unit} :
    Returns (modify g) st u st' ↔ st' = g st := by
  constructor
  · intro h
    cases h
    rfl
  · rintro rfl
    rfl

theorem returns_get {b : WebState} : Returns get st b st' ↔ b = st ∧ st' = st := by
  constructor
  · intro h
    cases h
    exact ⟨rfl, rfl⟩
  · rintro ⟨rfl, rfl⟩
    rfl

theorem returns_transact {p : AuthTxn α} {a : α} :
    Returns (transact p) st a st' ↔
      p.result st.store = .ok a ∧ st' = { st with store := p.perform st.store } := by
  constructor
  · intro h
    have h' := Prod.mk.inj (show (p.result st.store, { st with store := p.perform st.store }) =
      (.ok a, st') from h)
    exact ⟨h'.1, h'.2.symm⟩
  · rintro ⟨hresult, rfl⟩
    show (p.result st.store, _) = _
    rw [hresult]

end Returns

-- ── Dependencies ──────────────────────────────────────────────────────────────────

/-- The clocks a dependency reads. -/
structure Tick where
  clock : Clock
  monotonic : ℚ

def authenticationRequired : AuthError :=
  .httpException 401 (str "AUTHENTICATION_REQUIRED") (str "로그인이 필요합니다.")

def sessionExpiredError : AuthError :=
  .httpException 401 (str "SESSION_EXPIRED") (str "로그인 세션이 만료되었습니다.")

def csrfValidationFailed : AuthError :=
  .httpException 403 (str "CSRF_VALIDATION_FAILED") (str "요청 보안 검증에 실패했습니다.")

def passwordChangeRequired : AuthError :=
  .httpException 403 (str "PASSWORD_CHANGE_REQUIRED") (str "비밀번호 변경이 필요합니다.")

def permissionDenied : AuthError :=
  .httpException 403 (str "PERMISSION_DENIED") (str "요청 권한이 없습니다.")

def rateLimitExceeded : AuthError :=
  .httpException 429 (str "RATE_LIMIT_EXCEEDED")
    (str "요청 횟수 제한을 초과했습니다. 잠시 후 다시 시도해 주세요.")

/-- The name the session cookie has without TLS. -/
def sessionCookieName (settings : Settings) : Str :=
  if settings.cookie_secure = false ∧
    startswith (str "__Host-") settings.session_cookie_name = true then
    str "netprobe_session"
  else settings.session_cookie_name

section Dependencies

variable (env : Env)

/-- `require_current_user(request)` with authentication switched on. -/
def currentContext (clock : Clock) (request : Request) : Web AuthContext :=
  match request.cookie (sessionCookieName env.settings) with
  | none | some [] => throw authenticationRequired
  | some token => do
      match ← transact (resolveSession env.settings env.crypto clock token) with
      | none => throw sessionExpiredError
      | some context =>
          modify fun st => { st with current_user := some context }
          return context

/-- `require_current_user(request)` -/
def requireCurrentUser (clock : Clock) (request : Request) : Web (Option AuthContext) :=
  if env.settings.auth_enabled = false then do
    modify fun st => { st with current_user := none }
    return none
  else do
    let context ← currentContext env clock request
    return some context

/-- `getattr(request.state, "current_user", None) or await require_current_user(request)` -/
def knownContext (clock : Clock) (request : Request) : Web AuthContext := do
  match (← get).current_user with
  | some context => return context
  | none => currentContext env clock request

/-- `require_csrf(request)` -/
def requireCsrf (clock : Clock) (request : Request) : Web Unit :=
  if env.settings.auth_enabled = false then return ()
  else do
    let context ← knownContext env clock request
    match request.header (str "x-csrf-token"), request.cookie env.settings.csrf_cookie_name with
    | some (c :: cs), some cookie_token =>
        if cookie_token = c :: cs then
          if ← transact (csrfMatches env.settings env.crypto context.session_id (c :: cs)) then
            return ()
          else throw csrfValidationFailed
        else throw csrfValidationFailed
    | _, _ => throw csrfValidationFailed

/-- `require_roles(*roles)` -/
def requireRoles (roles : List Role) (clock : Clock) (request : Request) :
    Web (Option AuthContext) := do
  match ← requireCurrentUser env clock request with
  | none => return none
  | some context =>
      if context.must_change_password then throw passwordChangeRequired
      else if context.role ∉ roles then throw permissionDenied
      else return some context

/-- `enforce_rate_limit(request)` -/
def enforceRateLimit (monotonic : ℚ) (request : Request) : Web Unit := do
  let (admitted, limiter) :=
    (← get).limiter.check monotonic (getRealClientIp env.py env.settings request)
  modify fun st => { st with limiter := limiter }
  if admitted then return () else throw rateLimitExceeded

/-- The dependencies that routes declare. -/
inductive Dependency where
  | roles (roles : List Role)
  | csrf
  | rateLimit
  deriving DecidableEq, Repr

/-- A dependency with the context it hands to the handler. -/
def Dependency.run (tick : Tick) (request : Request) : Dependency → Web (Option AuthContext)
  | .roles allowed => requireRoles env allowed tick.clock request
  | .csrf => do
      requireCsrf env tick.clock request
      return none
  | .rateLimit => do
      enforceRateLimit env tick.monotonic request
      return none

/-- Dependencies in order; the last one returns the context of the handler. -/
def solve (request : Request) : List Dependency → (Nat → Tick) → Web (Option AuthContext)
  | [], _ => return none
  | [d], ticks => d.run env (ticks 0) request
  | d :: ds, ticks => do
      let _ ← d.run env (ticks 0) request
      solve request ds fun n => ticks (n + 1)

/-- The probes and the routes that change accounts. -/
inductive Route where
  | httpCheck
  | portCheck
  | dnsLookup
  | createUser
  | updateUser
  | unlockUser
  | resetPassword
  | revokeUserSessions
  deriving DecidableEq, Repr

/-- The roles a route is declared for. -/
def Route.roles : Route → List Role
  | .httpCheck | .portCheck | .dnsLookup => [.ADMIN, .OPERATOR]
  | .createUser | .updateUser | .unlockUser | .resetPassword | .revokeUserSessions => [.ADMIN]

/-- The dependencies of a route: those of its router, of its decorator and of its parameters. -/
def Route.dependencies : Route → List Dependency
  | .httpCheck | .portCheck | .dnsLookup => [.roles [.ADMIN, .OPERATOR], .csrf, .rateLimit]
  | .createUser | .updateUser | .unlockUser | .resetPassword | .revokeUserSessions =>
      [.roles [.ADMIN], .csrf, .roles [.ADMIN]]

/-- The handler of the route runs: all its dependencies have returned. -/
def HandlerRuns (route : Route) (ticks : Nat → Tick) (request : Request) (st : WebState) : Prop :=
  ∃ context st', Returns (solve env request route.dependencies ticks) st context st'

end Dependencies

-- ── What a dependency that returns has seen ───────────────────────────────────────

section Seen

variable {env : Env} {clock : Clock} {request : Request} {st st' : WebState}

/-- A session is good for a request at a time: the cookie names it, and it resolves. -/
structure GoodSession (env : Env) (request : Request) (now : Time) (s : Store) (token : Str)
    (x : Session) (a : Account) : Prop where
  cookie : request.cookie (sessionCookieName env.settings) = some token
  session : x ∈ s.sessions.rows
  token_hash : x.token_hash = hashToken env.crypto env.settings token
  unrevoked : x.revoked_at = none
  idle : now < x.idle_expires_at
  absolute : now < x.absolute_expires_at
  account : a ∈ s.accounts.rows
  owner : a.id = x.user_id
  undeleted : a.deleted_at = none
  usable : a.status = .ACTIVE ∨ a.status = .PENDING

theorem times_of_live {now : Time} {x : Session} (h : sessionExpired now x = false) :
    now < x.idle_expires_at ∧ now < x.absolute_expires_at := by
  rw [sessionExpired] at h
  simp only [Bool.or_eq_false_iff, decide_eq_false_iff_not] at h
  exact ⟨Int.not_le.mp h.1, Int.not_le.mp h.2⟩

theorem active_or_pending {status : AccountStatus} (h : status.usable = true) :
    status = .ACTIVE ∨ status = .PENDING := by
  cases status with
  | ACTIVE => exact Or.inl rfl
  | PENDING => exact Or.inr rfl
  | LOCKED | DISABLED => cases h

/-- A context comes from a good session; the request remembers it, and the session may have
    been touched. -/
theorem currentContext_returns {context : AuthContext}
    (h : Returns (currentContext env clock request) st context st') :
    ∃ token x a, GoodSession env request clock.utcnow st.store token x a ∧
      context = contextOf a x.id ∧ st'.current_user = some context ∧
      st'.store = activityStore env.settings clock x st.store := by
  rw [currentContext] at h
  cases hcookie : request.cookie (sessionCookieName env.settings) with
  | none =>
      rw [hcookie] at h
      exact absurd h not_returns_throw
  | some text =>
      rw [hcookie] at h
      cases text with
      | nil => exact absurd h not_returns_throw
      | cons c cs =>
          obtain ⟨found, m, hfound, h⟩ := returns_bind.mp h
          obtain ⟨hresult, hm⟩ := returns_transact.mp hfound
          have hres := resolveSession_cases env.settings env.crypto clock (c :: cs) st.store
          generalize heval :
            (resolveSession env.settings env.crypto clock (c :: cs)).eval st.store = out
            at hres
          cases hres with
          | noPool =>
              rw [result_of_error heval] at hresult
              cases hresult
          | noSession | refused | expired =>
              rw [result_of_ok heval] at hresult
              cases hresult
              exact absurd h not_returns_throw
          | @resolved x a hdb hrow husable hdeleted hlive =>
              rw [result_of_ok heval] at hresult
              cases hresult
              obtain ⟨_, m', hmodify, h⟩ := returns_bind.mp h
              obtain ⟨hcontext, hst⟩ := returns_pure.mp h
              have hm' := returns_modify.mp hmodify
              obtain ⟨hx, ha, hid, hhash, hunrevoked⟩ := sessionOf_some hrow
              obtain ⟨hidle, habsolute⟩ := times_of_live hlive
              refine ⟨c :: cs, x, a, ⟨hcookie, hx, hhash, hunrevoked, hidle, habsolute, ha, hid,
                hdeleted, active_or_pending husable⟩, hcontext, ?_, ?_⟩
              · rw [hst, hm', hcontext]
              · rw [hst, hm', hm]
                exact perform_of_ok heval

/-- The roles of a route are checked on the account of a good session, which the context is of. -/
theorem requireRoles_returns {roles : List Role} {out : Option AuthContext}
    (hauth : env.settings.auth_enabled = true)
    (h : Returns (requireRoles env roles clock request) st out st') :
    ∃ token x a, GoodSession env request clock.utcnow st.store token x a ∧
      a.must_change_password = false ∧ a.role ∈ roles ∧
      st'.current_user = some (contextOf a x.id) ∧
      st'.store = activityStore env.settings clock x st.store ∧ out = some (contextOf a x.id) := by
  obtain ⟨found, m, hfound, h⟩ := returns_bind.mp h
  rw [requireCurrentUser] at hfound
  rw [if_neg (by simp [hauth])] at hfound
  obtain ⟨context, m', hcontext, hsome⟩ := returns_bind.mp hfound
  obtain ⟨rfl, rfl⟩ := returns_pure.mp hsome
  obtain ⟨token, x, a, hgood, rfl, huser, hstore⟩ := currentContext_returns hcontext
  dsimp only at h
  by_cases hmust : a.must_change_password = true
  · rw [if_pos (show (contextOf a x.id).must_change_password = true from hmust)] at h
    exact absurd h not_returns_throw
  · rw [if_neg (show ¬ (contextOf a x.id).must_change_password = true from hmust)] at h
    by_cases hrole : a.role ∈ roles
    · rw [if_neg (show ¬ (contextOf a x.id).role ∉ roles from not_not.mpr hrole)] at h
      obtain ⟨hout, rfl⟩ := returns_pure.mp h
      exact ⟨token, x, a, hgood, by simpa using hmust, hrole, huser, hstore, hout⟩
    · rw [if_pos (show (contextOf a x.id).role ∉ roles from hrole)] at h
      exact absurd h not_returns_throw

/-- The CSRF token is in the header and in the cookie, and is that of the session of the
    request. -/
theorem requireCsrf_returns {context : AuthContext} {u : Unit}
    (hauth : env.settings.auth_enabled = true) (huser : st.current_user = some context)
    (h : Returns (requireCsrf env clock request) st u st') :
    ∃ header, request.header (str "x-csrf-token") = some header ∧ header ≠ [] ∧
      request.cookie env.settings.csrf_cookie_name = some header ∧
      ∃ y ∈ st.store.sessions.rows, y.id = context.session_id ∧
        y.csrf_token_hash = hashToken env.crypto env.settings header := by
  rw [requireCsrf] at h
  rw [if_neg (by simp [hauth])] at h
  obtain ⟨known, m, hknown, hrest⟩ := returns_bind.mp h
  obtain ⟨now, m', hget, hcontext⟩ := returns_bind.mp hknown
  obtain ⟨rfl, rfl⟩ := returns_get.mp hget
  rw [huser] at hcontext
  obtain ⟨rfl, rfl⟩ := returns_pure.mp hcontext
  split at hrest
  · rename_i c cs cookie_token hheader hcookie
    by_cases heq : cookie_token = c :: cs
    · rw [if_pos heq] at hrest
      obtain ⟨matched, m', hmatched, hanswer⟩ := returns_bind.mp hrest
      obtain ⟨hresult, -⟩ := returns_transact.mp hmatched
      cases matched with
      | false => exact absurd hanswer not_returns_throw
      | true =>
          refine ⟨c :: cs, hheader, by simp, heq ▸ hcookie, ?_⟩
          rw [csrfMatches, withPool] at hresult
          split at hresult
          · rw [result_of_ok (eval_existsSession _)] at hresult
            obtain ⟨y, hy, hp⟩ := List.any_eq_true.mp (Except.ok.inj hresult)
            simp only [Bool.and_eq_true, decide_eq_true_eq] at hp
            exact ⟨y, hy, hp.1.1, hp.1.2⟩
          · cases hresult
    · rw [if_neg heq] at hrest
      exact absurd hrest not_returns_throw
  · exact absurd hrest not_returns_throw

/-- The row of a session after its activity was recorded. -/
theorem csrf_of_activityStore {s : Store} {x y : Session} (hx : x ∈ s.sessions.rows)
    (hy : y ∈ (activityStore env.settings clock x s).sessions.rows) (hid : y.id = x.id) :
    y.csrf_token_hash = x.csrf_token_hash := by
  rw [activityStore] at hy
  split at hy
  · obtain ⟨z, hz, rfl⟩ := (mem_setSessions touch_keeps).mp hy
    split at hid
    · rename_i hp
      rw [if_pos hp, show z = x from session_unique hz hx (by simpa [sessionById] using hp)]
      rfl
    · rename_i hp
      rw [if_neg hp, show z = x from session_unique hz hx hid]
  · rw [session_unique hy hx hid]

end Seen

-- ── The handler ───────────────────────────────────────────────────────────────────

/-- A request may run the handler of a route: a good session of an account with the right role
    and no pending password change, and the CSRF token of the same session. -/
structure Authorised (env : Env) (route : Route) (request : Request) (now : Time) (s : Store)
    (token header : Str) (x : Session) (a : Account) : Prop where
  good : GoodSession env request now s token x a
  must_change_password : a.must_change_password = false
  role : a.role ∈ route.roles
  csrf_header : request.header (str "x-csrf-token") = some header
  header_nonempty : header ≠ []
  csrf_cookie : request.cookie env.settings.csrf_cookie_name = some header
  csrf_token_hash : x.csrf_token_hash = hashToken env.crypto env.settings header

/-- The tokens in question: those of the request and those the logins of a run returned. -/
def tokensOf (calls : List Call) (token header : Str) : Set Str :=
  fun t => t = token ∨ t = header ∨ ∃ r, LoggedIn calls r ∧ (t = r.token ∨ t = r.csrf_token)

/-- Every route checks roles, then the CSRF token, then a third dependency. -/
theorem dependencies_shape (route : Route) :
    ∃ third, route.dependencies = [.roles route.roles, .csrf, third] := by
  cases route <;> exact ⟨_, rfl⟩

/-- **Every request whose handler runs is authorised**, at the time its first dependency looks.
    In a store that a run has reached, with a hash that tells the tokens in question apart,
    session cookie and CSRF token are the two tokens that one login returned: those of
    different sessions do not go together. -/
theorem handler_runs_authorised {env : Env} {route : Route} {ticks : Nat → Tick} {request : Request}
    {st : WebState} (hauth : env.settings.auth_enabled = true)
    (hruns : HandlerRuns env route ticks request st) :
    ∃ token header x a, Authorised env route request
      (ticks 0).clock.utcnow st.store token header x a ∧
      ∀ calls, Run (callStep env) Store.empty calls st.store →
        Set.InjOn (hashToken env.crypto env.settings) (tokensOf calls token header) →
          ∃ r, LoggedIn calls r ∧ r.token = token ∧ r.csrf_token = header ∧
            r.context.session_id = x.id ∧ r.context.user_id = a.id := by
  obtain ⟨context, st', hsolve⟩ := hruns
  obtain ⟨third, hshape⟩ := dependencies_shape route
  rw [hshape] at hsolve
  obtain ⟨c₀, st₁, hroles, hrest⟩ := returns_bind.mp hsolve
  obtain ⟨c₁, st₂, hcsrf, -⟩ := returns_bind.mp hrest
  obtain ⟨u, m, hcsrf, -⟩ := returns_bind.mp hcsrf
  obtain ⟨token, x, a, hgood, hmust, hrole, huser, hstore, -⟩ := requireRoles_returns hauth hroles
  obtain ⟨header, hheader, hnonempty, hcookie, y, hy, hyid, hyhash⟩ :=
    requireCsrf_returns hauth huser hcsrf
  rw [hstore] at hy
  have hxhash : x.csrf_token_hash = hashToken env.crypto env.settings header := by
    rw [← csrf_of_activityStore hgood.session hy hyid, hyhash]
  refine ⟨token, header, x, a, ⟨hgood, hmust, hrole, hheader, hnonempty, hcookie, hxhash⟩, ?_⟩
  intro calls hrun hinj
  obtain ⟨r, hr, hissued⟩ := (reached_of_run hrun).issued x hgood.session
  refine ⟨r, hr, ?_, ?_, hissued.id.symm, ?_⟩
  · exact hinj (Or.inr (Or.inr ⟨r, hr, Or.inl rfl⟩)) (Or.inl rfl)
      (hissued.token_hash.symm.trans hgood.token_hash)
  · exact hinj (Or.inr (Or.inr ⟨r, hr, Or.inr rfl⟩)) (Or.inr (Or.inl rfl))
      (hissued.csrf_token_hash.symm.trans hxhash)
  · rw [← hissued.user_id, hgood.owner]

/-- The administrator of `sampleStart` has changed the first password. -/
def sampleOps : List Op :=
  sampleStart ++ [.changePassword ⟨2, 2, 2⟩ .asInserted [] 1 sampleResult.context
    (str "correct horse battery") (str "a second long secret")]

/-- A request with the cookies and the header of the login. -/
def sampleRequest : Request where
  path := str "/api/v1/http-check"
  client_host := none
  header := fun name => if name = str "x-csrf-token" then some (str "csrf") else none
  cookie := fun name =>
    if name = str "__Host-netprobe_session" then some (str "token")
    else if name = str "netprobe_csrf" then some (str "csrf") else none

/-- The state of the request before its dependencies. -/
def sampleState : WebState := ⟨performAll .sample sampleOps .empty, none, ⟨30, fun _ => []⟩⟩

/-- The general result on an HTTP check that is let through. -/
theorem sample_request_authorised :
    HandlerRuns .sample .httpCheck (fun _ => ⟨⟨3, 3, 3⟩, 0⟩) sampleRequest sampleState ∧
      ∃ token header x a,
        Authorised .sample .httpCheck sampleRequest 3 sampleState.store token header x a ∧
        ∃ r, LoggedIn (callsOf .sample sampleOps .empty) r ∧ r.token = token ∧
          r.csrf_token = header ∧
          r.context.session_id = x.id ∧ r.context.user_id = a.id := by
  have hok : ((solve .sample sampleRequest Route.httpCheck.dependencies
      (fun _ => ⟨⟨3, 3, 3⟩, 0⟩)).run.run sampleState).1 = .ok none := by decide +kernel
  have hruns : HandlerRuns .sample .httpCheck (fun _ => ⟨⟨3, 3, 3⟩, 0⟩) sampleRequest sampleState :=
    ⟨none, _, Prod.ext hok rfl⟩
  obtain ⟨token, header, x, a, hauthorised, hissued⟩ := handler_runs_authorised (by decide) hruns
  refine ⟨hruns, token, header, x, a, hauthorised, hissued _ (run_callsOf _ _ _) ?_⟩
  intro t _ t' _ heq
  exact List.append_cancel_right heq

end NetProbeAuthDeps
