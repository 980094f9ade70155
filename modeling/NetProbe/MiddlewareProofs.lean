import Mathlib.Data.Rat.Floor
import NetProbe.ProbeHandlersProofs

/-!
# The middleware around every request

`app/main.py`: what happens around a handler.  From the inside: the exception middleware turns
an `HTTPException` or a `RequestValidationError` into a response; `response_middleware` waits
for the response, adds headers to it and writes the audit of the request, to the log and to
the table `audit_events`; outside of both, the handler for all other exceptions makes a
response of what comes through.

An exception that only the outermost handler maps passes through `response_middleware` at its
`await call_next(request)`, and what stands behind that line does not happen:
`audited_once_iff`.  For the three probes this is decided by their own models
(`http_check_audited_iff`, `port_check_audited`, `dns_lookup_audited`).
-/

namespace NetProbeMiddleware

open NetProbePyText NetProbeConfig NetProbeUrlSplit NetProbeSecurity NetProbeCoreAuth
open NetProbePersistence NetProbeProbeHandlers TracedRun

-- ── Headers ───────────────────────────────────────────────────────────────────────

/-- The headers of a response, with their names in lower case. -/
abbrev Headers := List (Str × Str)

/-- `headers[key] = value` -/
def setHeader (key value : Str) : Headers → Headers
  | [] => [(key, value)]
  | (k, v) :: hs =>
      if k = key then (key, value) :: hs.filter (fun h => h.1 ≠ key)
        else (k, v) :: setHeader key value hs

/-- `headers.get(key)` -/
def getHeader (key : Str) : Headers → Option Str
  | [] => none
  | (k, v) :: hs => if k = key then some v else getHeader key hs

section Headers

variable {key key' value : Str} {hs : Headers}

@[simp] theorem getHeader_setHeader : getHeader key (setHeader key value hs) = some value := by
  induction hs with
  | nil => exact if_pos rfl
  | cons h hs ih =>
      obtain ⟨k, v⟩ := h
      rw [setHeader]
      by_cases hk : k = key
      · rw [if_pos hk]
        exact if_pos rfl
      · rw [if_neg hk, getHeader, if_neg hk, ih]

theorem getHeader_filter (hne : key' ≠ key) :
    getHeader key' (hs.filter fun h => h.1 ≠ key) = getHeader key' hs := by
  induction hs with
  | nil => rfl
  | cons h hs ih =>
      obtain ⟨k, v⟩ := h
      by_cases hk : k = key
      · rw [List.filter_cons_of_neg (by simpa using hk), ih, getHeader,
          if_neg fun h => hne (h.symm.trans hk)]
      · rw [List.filter_cons_of_pos (by simpa using hk), getHeader, getHeader, ih]

/-- The other headers stay. -/
theorem getHeader_setHeader_ne (hne : key' ≠ key) :
    getHeader key' (setHeader key value hs) = getHeader key' hs := by
  induction hs with
  | nil => exact if_neg (Ne.symm hne)
  | cons h hs ih =>
      obtain ⟨k, v⟩ := h
      rw [setHeader]
      by_cases hk : k = key
      · rw [if_pos hk, getHeader, getHeader, getHeader_filter hne, if_neg (Ne.symm hne),
          if_neg fun h => hne (h.symm.trans hk)]
      · rw [if_neg hk, getHeader, getHeader, ih]

end Headers

-- ── Requests and responses ────────────────────────────────────────────────────────

/-- What `main.py` reads of a request. -/
structure HttpRequest extends NetProbeDeps.Request where
  method : Str

/-- `request.state`: what the middleware, the dependencies and the handlers put there. -/
structure RequestState where
  start_time : Option ℚ := none
  request_id : Option Str := none
  current_user : Option AuthContext := none
  result_code : Option Str := none

/-- The body of a response: that of `error_response`, or another text. -/
inductive Body where
  | error (code message request_id timestamp : Str) (duration_ms : Int)
  | text (content : Str)
  deriving DecidableEq, Repr

/-- A response of the application. -/
structure Response where
  status_code : Int
  headers : Headers
  body : Body
  deriving DecidableEq, Repr

/-- `exc.detail` of an `HTTPException`: its `code` and `message` if it is a dictionary that has
    them, and `str(exc.detail)`. -/
structure Detail where
  code : Option Str
  message : Option Str
  text : Str

/-- How a handler or one of its dependencies raises. -/
inductive AppException where
  | httpException (status_code : Int) (detail : Detail)
  | validationError (errors : List (List Str × Str))
  | other (error_type : Str)

/-- The fields of the event `http_request`. -/
structure HttpAudit where
  level : Level
  request_id : Str
  http_method : Str
  api_path : Str
  route_template : Str
  http_status_code : Int
  success : Bool
  duration_ms : Int
  client_key : Option Str
  actor_user_id : Option Uuid
  actor_role : Option Role
  result_code : Option Str
  deriving DecidableEq, Repr

/-- `safe_fields` -/
structure SafeFields where
  request_id : Str
  http_method : Str
  api_path : Str
  route_template : Str
  http_status_code : Int
  success : Bool
  duration_ms : Int
  actor_role : Option Role
  result_code : Option Str
  deriving DecidableEq, Repr

/-- A row of `audit_events`; the JSON text of `details` is here the fields it is the text of. -/
structure AuditEventRow where
  actor_user_id : Option Uuid
  event_type : Str
  severity : Str
  client_key : Option Str
  details : SafeFields
  expires_at : Time
  deriving DecidableEq, Repr

/-- What a request leaves behind. -/
inductive AppEvent where
  | http_request (fields : HttpAudit)
  | unhandled_exception (request_id api_path error_type : Str)
  | database_write_failed (request_id operation error_type : Str)
  | auditRow (row : AuditEventRow)
  deriving DecidableEq, Repr

/-- The application, and what it is configured with besides `Settings`. -/
structure App where
  py : Python
  settings : Settings
  crypto : Crypto
  audit_retention_days : Int
  /-- What `CORSMiddleware`, inside `response_middleware`, makes of the headers of a response. -/
  cors : Headers → Headers

/-- One request with everything around it: the readings of the clocks, the id that is drawn,
    whether the database fails, and what the dependencies and the handler did: what they left
    on the request, and how they ended. -/
structure Exchange where
  request : HttpRequest
  uuid : Str
  started : ℚ
  handled : ℚ
  answered : ℚ
  finished : ℚ
  timestamp : Str
  utcnow : Time
  dbFailure : Option Str
  route : Option Str
  current_user : Option AuthContext
  result_code : Option Str
  outcome : Except AppException Response

-- ── The layers ────────────────────────────────────────────────────────────────────

/-- `int(seconds * 1000)`, which cuts off towards zero. -/
def milliseconds (seconds : ℚ) : Int :=
  if 0 ≤ seconds then (seconds * 1000).floor else (seconds * 1000).ceil

/-- `get_request_id(request)`, with the id it would draw -/
def getRequestId (drawn : Str) (st : RequestState) : Str × RequestState :=
  match st.request_id with
  | some request_id => (request_id, st)
  | none => (drawn, { st with request_id := some drawn })

/-- `_elapsed_ms(request)` at the monotonic time `now` -/
def elapsedMs (now : ℚ) (st : RequestState) : Int :=
  match st.start_time with
  | some start => milliseconds (now - start)
  | none => 0

section Layers

variable (app : App) (x : Exchange)

/-- The JSON response of an error. -/
def errorAnswer (status_code : Int) (code message : Str) (st : RequestState) :
    RequestState × Response :=
  let (request_id, st) := getRequestId x.uuid st
  ({ st with result_code := some code },
    ⟨status_code, [(str "content-type", str "application/json")],
      .error code message request_id x.timestamp (elapsedMs x.handled st)⟩)

/-- `validation_exception_handler(request, exc)` -/
def validationExceptionHandler (errors : List (List Str × Str)) (st : RequestState) :
    RequestState × Response :=
  errorAnswer x 422 (str "VALIDATION_ERROR")
    ((str "; ").intercalate (errors.map fun e => (str ".").intercalate e.1 ++ str ": " ++ e.2)) st

/-- `http_exception_handler(request, exc)` -/
def httpExceptionHandler (status_code : Int) (detail : Detail) (st : RequestState) :
    RequestState × Response :=
  errorAnswer x status_code
    (detail.code.getD (if 500 ≤ status_code then str "INTERNAL_SERVER_ERROR"
      else str "VALIDATION_ERROR"))
    (detail.message.getD detail.text) st

/-- `unhandled_exception_handler(request, exc)` -/
def unhandledExceptionHandler (error_type : Str) (st : RequestState) : List AppEvent × Response :=
  let answer := errorAnswer x 500 (str "INTERNAL_SERVER_ERROR") (str "서버 내부 오류가 발생했습니다.") st
  ([.unhandled_exception (getRequestId x.uuid st).1 x.request.path error_type], answer.2)

/-- `await call_next(request)`: the dependencies and the handler, inside the exception middleware,
    inside the CORS middleware.  The error is the type of an exception that none of them maps. -/
def callNext (st : RequestState) : RequestState × Except Str Response :=
  let st := { st with current_user := x.current_user, result_code := x.result_code }
  let cors := fun response : Response => { response with headers := app.cors response.headers }
  match x.outcome with
  | .ok response => (st, .ok (cors response))
  | .error (.validationError errors) =>
      let answer := validationExceptionHandler x errors st
      (answer.1, .ok (cors answer.2))
  | .error (.httpException status_code detail) =>
      let answer := httpExceptionHandler x status_code detail st
      (answer.1, .ok (cors answer.2))
  | .error (.other error_type) => (st, .error error_type)

/-- `level` of the event and, in the table, `severity`. -/
def levelOfStatus (status_code : Int) : Level :=
  if status_code < 400 then .info else if status_code < 500 then .warning else .error

/-- `severity` -/
def severityOf (status_code : Int) : Str :=
  match levelOfStatus status_code with
  | .info => str "INFO"
  | .warning => str "WARNING"
  | .error => str "ERROR"

/-- `audit_fields` -/
def auditFields (request_id : Str) (st : RequestState) (response : Response) : HttpAudit where
  level := levelOfStatus response.status_code
  request_id := request_id
  http_method := x.request.method
  api_path := x.request.path
  route_template := x.route.getD x.request.path
  http_status_code := response.status_code
  success := response.status_code < 400
  duration_ms := milliseconds (x.answered - x.started)
  client_key := hashClientIp app.crypto app.settings
    (NetProbeDeps.getRealClientIp app.py app.settings x.request.toRequest)
  actor_user_id := st.current_user.map (·.user_id)
  actor_role := st.current_user.map (·.role)
  result_code := st.result_code

/-- The fields that are kept in the table. -/
def safeFields (fields : HttpAudit) : SafeFields where
  request_id := fields.request_id
  http_method := fields.http_method
  api_path := fields.api_path
  route_template := fields.route_template
  http_status_code := fields.http_status_code
  success := fields.success
  duration_ms := fields.duration_ms
  actor_role := fields.actor_role
  result_code := fields.result_code

/-- `persist_http_audit(actor_user_id=..., client_key=..., fields=...)` -/
def persistHttpAudit (fields : HttpAudit) : List AppEvent :=
  if app.settings.database_enabled then
    match x.dbFailure with
    | some error_type =>
        [.database_write_failed fields.request_id (str "persist_http_audit") error_type]
    | none =>
        [.auditRow
          { actor_user_id := fields.actor_user_id
            event_type := str "HTTP_REQUEST"
            severity := severityOf fields.http_status_code
            client_key := fields.client_key
            details := safeFields fields
            expires_at := x.utcnow + days app.audit_retention_days }]
  else []

/-- The headers `response_middleware` sets. -/
def withHeaders (request_id : Str) (response : Response) : Response :=
  let time := (toString (milliseconds (x.finished - x.started))).toList
  { response with
    headers := setHeader (str "referrer-policy") (str "no-referrer")
      (setHeader (str "x-frame-options") (str "DENY")
        (setHeader (str "x-content-type-options") (str "nosniff")
          (setHeader (str "x-request-id") request_id
            (setHeader (str "x-response-time-ms") time response.headers)))) }

/-- `response_middleware(request, call_next)`: the state it leaves, and its run.  An exception that
    comes out of `call_next` ends it there. -/
def responseMiddleware (st : RequestState) : RequestState × Traced AppEvent Str Response :=
  let st := { st with start_time := some x.started, request_id := some x.uuid }
  match callNext app x st with
  | (st, .error error_type) => (st, .raise error_type)
  | (st, .ok response) =>
      let request_id := (getRequestId x.uuid st).1
      (st, do
        .tell [.http_request (auditFields app x request_id st response)]
        .tell (persistHttpAudit app x (auditFields app x request_id st response))
        .ret (withHeaders x request_id response))

/-- What the outermost middleware, with the handler for all exceptions, makes of a request: what is
    left behind, and the response that is sent. -/
def serve : List AppEvent × Response :=
  let run := responseMiddleware app x {}
  match run.2.outcome with
  | .ok response => (run.2.events, response)
  | .error error_type =>
      let answer := unhandledExceptionHandler x error_type run.1
      (run.2.events ++ answer.1, answer.2)

end Layers

-- ── The audit of a request ────────────────────────────────────────────────────────

/-- The `http_request` events. -/
def httpRequests (events : List AppEvent) : List HttpAudit :=
  events.filterMap fun
    | .http_request fields => some fields
    | _ => none

@[simp] theorem httpRequests_cons (fields : HttpAudit) (events : List AppEvent) :
    httpRequests (.http_request fields :: events) = fields :: httpRequests events := rfl

/-- One event with the id of the response, which carries the three headers. -/
structure AuditedOnce (served : List AppEvent × Response) : Prop where
  event : ∃ fields, httpRequests served.1 = [fields] ∧
    getHeader (str "x-request-id") served.2.headers = some fields.request_id
  nosniff : getHeader (str "x-content-type-options") served.2.headers = some (str "nosniff")
  frame : getHeader (str "x-frame-options") served.2.headers = some (str "DENY")
  referrer : getHeader (str "referrer-policy") served.2.headers = some (str "no-referrer")

/-- The handler or a dependency ends with an exception that is neither an `HTTPException` nor a
    `RequestValidationError`. -/
def Escapes (outcome : Except AppException Response) : Prop :=
  ∃ error_type, outcome = .error (.other error_type)

section Audit

variable (app : App) (x : Exchange)

/-- The headers that are set are there. -/
theorem withHeaders_headers (request_id : Str) (response : Response) :
    getHeader (str "x-request-id") (withHeaders x request_id response).headers = some request_id ∧
      getHeader (str "x-content-type-options") (withHeaders x request_id response).headers =
        some (str "nosniff") ∧
      getHeader (str "x-frame-options") (withHeaders x request_id response).headers = some
        (str "DENY") ∧
      getHeader (str "referrer-policy") (withHeaders x request_id response).headers =
        some (str "no-referrer") := by
  rw [withHeaders]
  dsimp only
  refine ⟨?_, ?_, ?_, getHeader_setHeader⟩
  · rw [getHeader_setHeader_ne (by decide), getHeader_setHeader_ne (by decide),
      getHeader_setHeader_ne (by decide), getHeader_setHeader]
  · rw [getHeader_setHeader_ne (by decide), getHeader_setHeader_ne (by decide), getHeader_setHeader]
  · rw [getHeader_setHeader_ne (by decide), getHeader_setHeader]

theorem httpRequests_persist (fields : HttpAudit) :
    httpRequests (persistHttpAudit app x fields) = [] := by
  rw [persistHttpAudit]
  split
  · split <;> rfl
  · rfl

/-- A request whose handler answers, or raises what is answered inside `call_next`. -/
theorem callNext_answers (st : RequestState) (h : ¬ Escapes x.outcome) :
    ∃ response, (callNext app x st).2 = .ok response := by
  rw [callNext]
  dsimp only
  cases houtcome : x.outcome with
  | ok response => exact ⟨_, rfl⟩
  | error e =>
      cases e with
      | httpException status_code detail => exact ⟨_, rfl⟩
      | validationError errors => exact ⟨_, rfl⟩
      | other error_type => exact absurd ⟨error_type, houtcome⟩ h

/-- A request that is answered inside `call_next` is audited. -/
theorem serve_answered (h : ¬ Escapes x.outcome) :
    ∃ fields response, serve app x =
      (.http_request fields :: persistHttpAudit app x fields,
        withHeaders x fields.request_id response) := by
  obtain ⟨response, hresponse⟩ := callNext_answers app x
    { start_time := some x.started, request_id := some x.uuid } h
  rw [serve, responseMiddleware]
  dsimp only
  generalize callNext app x { start_time := some x.started, request_id := some x.uuid } =
    next at hresponse ⊢
  obtain ⟨st, answer⟩ := next
  dsimp only at hresponse
  subst hresponse
  refine ⟨auditFields app x (getRequestId x.uuid st).1 st response, response, ?_⟩
  simp [Traced.ret, auditFields]

/-- A request whose exception escapes leaves one event of another name, and its response carries no
    header of the middleware. -/
theorem serve_escaped {error_type : Str} (h : x.outcome = .error (.other error_type)) :
    httpRequests (serve app x).1 = [] ∧
      (serve app x).2.headers = [(str "content-type", str "application/json")] := by
  rw [serve, responseMiddleware, callNext]
  dsimp only
  rw [h]
  exact ⟨rfl, rfl⟩

/-- Nothing is left of a request whose exception escapes. -/
theorem not_auditedOnce_of_escapes (h : Escapes x.outcome) : ¬ AuditedOnce (serve app x) := by
  intro haudited
  obtain ⟨error_type, hraised⟩ := h
  obtain ⟨fields, hone, -⟩ := haudited.event
  rw [(serve_escaped app x hraised).1] at hone
  cases hone

/-- A request that is answered is audited. -/
theorem auditedOnce_of_answered (h : ¬ Escapes x.outcome) : AuditedOnce (serve app x) := by
  obtain ⟨fields, response, hserve⟩ := serve_answered app x h
  obtain ⟨hid, hnosniff, hframe, hreferrer⟩ := withHeaders_headers x fields.request_id response
  rw [hserve]
  exact ⟨⟨fields, by rw [httpRequests_cons, httpRequests_persist], hid⟩, hnosniff,
    hframe, hreferrer⟩

/-- The row in the table has the fields of the event, the id of the response among them. -/
theorem auditRow_matches {row : AuditEventRow} (h : .auditRow row ∈ (serve app x).1) :
    ∃ fields, httpRequests (serve app x).1 = [fields] ∧ row.details = safeFields fields ∧
      row.actor_user_id = fields.actor_user_id ∧ row.client_key = fields.client_key := by
  by_cases hescapes : Escapes x.outcome
  · obtain ⟨error_type, hraised⟩ := hescapes
    rw [serve, responseMiddleware, callNext] at h
    dsimp only at h
    rw [hraised] at h
    simp [Traced.raise, unhandledExceptionHandler] at h
  · obtain ⟨fields, response, hserve⟩ := serve_answered app x hescapes
    rw [hserve] at h ⊢
    refine ⟨fields, by rw [httpRequests_cons, httpRequests_persist], ?_⟩
    rcases List.mem_cons.mp h with hevent | hrow
    · cases hevent
    · rw [persistHttpAudit] at hrow
      split at hrow
      · split at hrow
        · cases List.mem_singleton.mp hrow
        · cases List.mem_singleton.mp hrow
          exact ⟨rfl, rfl, rfl⟩
      · cases hrow

end Audit

-- ── The probes ────────────────────────────────────────────────────────────────────

/-- `type(exc).__name__` -/
def errorType : ProbeError → Str
  | .validationError _ => str "ValidationError"
  | .targetNotAllowedError _ => str "TargetNotAllowedError"
  | .dnsFailedError _ => str "DnsFailedError"
  | .timeoutError _ => str "TimeoutError"
  | .connectionRefusedError _ => str "ConnectionRefusedError"
  | .tlsOrTransportError _ => str "TlsOrTransportError"
  | .tooManyRedirectsError _ => str "TooManyRedirectsError"
  | .valueError => str "ValueError"
  | .otherException name => name

/-- How the handler of a probe ends, as the middleware sees it: `respondWith` makes the JSON
    response of an answer. -/
def probeOutcome (respondWith : Answer → Response) :
    Except ProbeError Answer → Except AppException Response
  | .ok answer => .ok (respondWith answer)
  | .error e => .error (.other (errorType e))

section Probes

variable (app : App) (x : Exchange) (respondWith : Answer → Response)

theorem escapes_probe {outcome : Except ProbeError Answer} :
    Escapes (probeOutcome respondWith outcome) ↔ ∃ e, outcome = .error e := by
  constructor
  · rintro ⟨error_type, h⟩
    cases outcome with
    | ok answer => cases h
    | error e => exact ⟨e, rfl⟩
  · rintro ⟨e, rfl⟩
    exact ⟨errorType e, rfl⟩

/-- The exception of a URL that `urlsplit` refuses is the one that leaves `http_check`. -/
theorem httpCheck_raises_iff (c : HttpCall) :
    (∃ e, (httpCheck app.py app.settings app.crypto c).outcome = .error e) ↔
      urlsplit app.py c.payload.url = none := by
  have hloggable : ∀ data, BuiltByHandler app.py app.settings (.http c.payload data) →
      (loggable app.py (.http c.payload data) = true ↔ urlsplit app.py c.payload.url ≠ none) := by
    intro data hbuilt
    rw [loggable_iff hbuilt]
    constructor
    · exact fun h => h c.payload data rfl
    · rintro h payload data' ⟨⟩
      exact h
  have hnone := hloggable none trivial
  rw [httpCheck_outcome]
  by_cases hurl : urlsplit app.py c.payload.url = none
  · have hrefused : ¬ loggable app.py (.http c.payload none) = true := fun h => hnone.mp h hurl
    refine iff_of_true ?_ hurl
    cases hcheck : checkOutcome app.py app.settings c with
    | error e =>
        dsimp only
        rw [if_neg hrefused]
        exact ⟨_, rfl⟩
    | ok result =>
        dsimp only
        have hbuilt : BuiltByHandler app.py app.settings (.http c.payload (some result)) :=
          ⟨c.net, hcheck⟩
        rw [if_neg fun h => (hloggable _ hbuilt).mp h hurl, if_neg hrefused]
        exact ⟨_, rfl⟩
  · refine iff_of_false ?_ hurl
    rintro ⟨e, h⟩
    cases hcheck : checkOutcome app.py app.settings c with
    | error e' =>
        rw [hcheck] at h
        dsimp only at h
        rw [if_pos (hnone.mpr hurl)] at h
        cases h
    | ok result =>
        rw [hcheck] at h
        dsimp only at h
        have hbuilt : BuiltByHandler app.py app.settings (.http c.payload (some result)) :=
          ⟨c.net, hcheck⟩
        rw [if_pos ((hloggable _ hbuilt).mpr hurl)] at h
        cases h

/-- **When an HTTP check is audited.** -/
theorem http_check_audited_iff (c : HttpCall) :
    AuditedOnce (serve app { x with
        outcome :=
          probeOutcome respondWith (httpCheck app.py app.settings app.crypto c).outcome }) ↔
      urlsplit app.py c.payload.url ≠ none := by
  constructor
  · intro haudited hurl
    refine not_auditedOnce_of_escapes app _ ?_ haudited
    exact (escapes_probe respondWith).mpr ((httpCheck_raises_iff app c).mpr hurl)
  · intro hurl
    refine auditedOnce_of_answered app _ fun hescapes => hurl ?_
    exact (httpCheck_raises_iff app c).mp ((escapes_probe respondWith).mp hescapes)

/-- A port check is always audited. -/
theorem port_check_audited (c : PortCall) :
    AuditedOnce (serve app { x with
      outcome :=
        probeOutcome respondWith (portCheck app.py app.settings app.crypto c).outcome }) := by
  refine auditedOnce_of_answered app _ ?_
  rw [escapes_probe, portCheck_outcome]
  rintro ⟨e, h⟩
  split at h <;> cases h

/-- A DNS lookup is always audited. -/
theorem dns_lookup_audited (c : DnsCall) :
    AuditedOnce (serve app { x with
      outcome :=
        probeOutcome respondWith (dnsLookup app.py app.settings app.crypto c).outcome }) := by
  refine auditedOnce_of_answered app _ ?_
  rw [escapes_probe, dnsLookup_outcome]
  rintro ⟨e, h⟩
  split at h <;> cases h

end Probes

/-- The application with the settings it has without a configuration. -/
def App.plain : App := ⟨.asciiOnly, {}, .plain, 180, fun headers => headers⟩

/-- A request for testing, with the way its handler ends. -/
def sampleExchange (outcome : Except AppException Response) : Exchange where
  request :=
    ⟨⟨str "/api/v1/http-check", some (str "192.0.2.7"), fun _ => none, fun _ => none⟩, str "POST"⟩
  uuid := str "0b6f1d91-20f4-4a34-8c56-951a15ce8bb1"
  started := 0
  handled := 1
  answered := 1
  finished := 1
  timestamp := []
  utcnow := 0
  dbFailure := none
  route := some (str "/api/v1/http-check")
  current_user := none
  result_code := none
  outcome := outcome

end NetProbeMiddleware
