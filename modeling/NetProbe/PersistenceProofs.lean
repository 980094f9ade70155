import NetProbe.DepsProofs
import NetProbe.DnsServiceProofs
import NetProbe.HttpServiceProofs

/-!
# What a diagnostic leaves behind

`persist_diagnostic` writes each diagnostic to two sinks: an event of the structured log, and,
if persistence is enabled, a row for the run with a row of details.  URLs pass through
`redact_url` on the way.  The handler `http_check` calls it once for every outcome of the
check, with the payload as it was submitted and, for a result, its fields on top.

The first half is the model.  The second half says what the two sinks keep of a URL: its
target (scheme, host and port, path) and also its userinfo, which `redact_url` copies along
with the network location.  So two URLs with one target leave the same record exactly if
their userinfo is the same (`recorded_eq_iff`), and a URL that `urlsplit` refuses is returned
with whatever follows its first `?` or `#` (`redactUrl_refused`).
-/

namespace NetProbePersistence

open NetProbePyText NetProbeConfig NetProbeUrlSplit NetProbeSecurity NetProbeCoreAuth NetProbeDeps
open NetProbeHttpService TracedRun

-- ── Requests, details, sinks ──────────────────────────────────────────────────────

/-- `HttpCheckRequest`; `timeout_ms` is `int(float(timeout_seconds) * 1000)`. -/
structure HttpCheckRequest where
  url : Str
  method : Str
  timeout_ms : Int
  follow_redirects : Bool
  url_le : url.length ≤ 2048

/-- `PortCheckRequest` -/
structure PortCheckRequest where
  host : Str
  port : Int
  timeout_ms : Int
  host_le : host.length ≤ 253
  port_range : 1 ≤ port ∧ port ≤ 65535

/-- `PortCheckData` -/
structure PortCheckData where
  host : Str
  resolved_ips : List Str
  port : Int
  isOpen : Bool
  result : Str
  connection_time_ms : Option Int
  message : Str
  deriving DecidableEq, Repr

/-- `DnsLookupRequest` -/
structure DnsLookupRequest where
  domain : Str
  record_type : Str
  domain_le : domain.length ≤ 253
  record_type_mem : record_type ∈ NetProbeDnsService.supportedTypes

/-- `DnsLookupData` -/
structure DnsLookupData where
  domain : Str
  record_type : Str
  records : List Str
  ttl : Option Int
  resolver : Option Str
  lookup_time_ms : Int
  deriving DecidableEq, Repr

/-- The `details` dictionary: a payload, with the data of a result on top if there is one. -/
inductive Details where
  | http (payload : HttpCheckRequest) (data : Option HttpCheckResult)
  | tcp (payload : PortCheckRequest) (data : Option PortCheckData)
  | dns (payload : DnsLookupRequest) (data : Option DnsLookupData)

/-- `diagnostic_type` -/
def Details.type : Details → Str
  | .http _ _ => str "HTTP"
  | .tcp _ _ => str "TCP"
  | .dns _ _ => str "DNS"

/-- The levels of the log that the program uses. -/
inductive Level where
  | info
  | warning
  | error
  deriving DecidableEq, Repr

/-- The fields common to the three events. -/
structure CommonFields where
  level : Level
  request_id : Str
  api_path : Str
  client_key : Option Str
  success : Bool
  duration_ms : Int
  result_code : Str
  deriving DecidableEq, Repr

/-- The events `persist_diagnostic` logs. -/
inductive LogEvent where
  | http_check (common : CommonFields) (target_host target_url : Option Str) (http_method : Str)
      (http_status_code http_response_time_ms : Option Int)
  | tcp_check (common : CommonFields) (target_host : Str) (target_port : Int) (tcp_success : Bool)
      (tcp_connect_time_ms : Option Int)
  | dns_lookup (common : CommonFields) (target_host record_type : Str) (resolved_ips : List Str)
      (dns_server : Option Str) (dns_response_time_ms : Option Int)
  | database_write_failed (request_id error_type : Str)
  deriving DecidableEq, Repr

/-- A row of `diagnostic_runs`. -/
structure DiagnosticRun where
  id : Str
  user_id : Option Uuid
  diagnostic_type : Str
  success : Bool
  result_code : Str
  api_status_code : Int
  error_message : Option Str
  duration_ms : Int
  client_key : Option Str
  client_ip : Option Str
  source : Str
  app_version : Str
  started_at : Time
  completed_at : Time
  expires_at : Time
  deriving DecidableEq, Repr

/-- A row of one of the three result tables. -/
inductive ResultRow where
  | http (run_id requested_url target_host method : Str) (timeout_ms : Int)
      (follow_redirects query_redacted : Bool) (final_url : Option Str) (reachable : Bool)
      (status_code : Option Int) (reason_phrase resolved_ip : Option Str)
      (response_time_ms content_length : Option Int) (content_type server_header : Option Str)
      (redirect_count : Nat)
  | tcp (run_id host : Str) (port timeout_ms : Int) (resolved_ips : List Str) (is_open : Bool)
      (connection_result : Str) (connection_time_ms : Option Int) (message : Str)
  | dns (run_id domain record_type : Str) (records : List Str) (record_count : Nat)
      (records_redacted : Bool) (ttl : Option Int) (resolver : Option Str)
      (lookup_time_ms : Option Int)
  deriving DecidableEq, Repr

/-- What leaves the request: an event of the log, or the rows of one committed transaction. -/
inductive Sink where
  | log (event : LogEvent)
  | rows (run : DiagnosticRun) (result : ResultRow)
  deriving DecidableEq, Repr

/-- The arguments of `persist_diagnostic` apart from `details`, and what it reads around it:
    the identity of the request, the clock, and whether the database carries the transaction
    out (`none`) or fails with an exception. -/
structure Call where
  request : Request
  request_id : Str
  current_user : Option AuthContext
  success : Bool
  result_code : Str
  api_status_code : Int
  duration_ms : Int
  started_at : Time
  error_message : Option Str
  completed_at : Time
  dbFailure : Option Str

-- ── The program ───────────────────────────────────────────────────────────────────

section Program

variable (py : Python) (settings : Settings) (crypto : Crypto)

/-- `redact_url(value)` -/
def redactUrl (value : Option Str) : Option Str × Bool :=
  match value with
  | none => (none, false)
  | some [] => (none, false)
  | some (c :: cs) =>
      match urlsplit py (c :: cs) with
      | some parts =>
          (some (urlunsplit parts.scheme parts.netloc parts.path [] []),
            parts.query ≠ [] || parts.fragment ≠ [])
      | none => (some ((c :: cs).take 2048), false)

/-- The level of the event. -/
def levelOf (success : Bool) (result_code : Str) : Level :=
  if success then .info
  else if result_code = str "INTERNAL_SERVER_ERROR" then .error
  else .warning

/-- `common`, with level and result code. -/
def commonFields (call : Call) : CommonFields where
  level := levelOf call.success call.result_code
  request_id := call.request_id
  api_path := call.request.path
  client_key := hashClientIp crypto settings (getRealClientIp py settings call.request)
  success := call.success
  duration_ms := max 0 call.duration_ms
  result_code := call.result_code

/-- `details.get("url")` -/
def detailUrl (payload : HttpCheckRequest) (data : Option HttpCheckResult) : Str :=
  match data with
  | some result => result.url
  | none => payload.url

/-- The event of the log; `none` is the `ValueError` of `urlsplit`. -/
def logEvent (call : Call) : Details → Option LogEvent
  | .http payload data =>
      let requested_url := (redactUrl py (some (detailUrl payload data))).1
      (urlsplit py (requested_url.getD [])).map fun parts =>
        .http_check (commonFields py settings crypto call) (hostname py parts) requested_url
          payload.method (data.map (·.status_code)) (data.map (·.response_time_ms))
  | .tcp payload data =>
      some (.tcp_check (commonFields py settings crypto call)
        (match data with | some result => result.host | none => payload.host)
        (match data with | some result => result.port | none => payload.port)
        (match data with | some result => result.isOpen | none => false)
        (data.bind (·.connection_time_ms)))
  | .dns payload data =>
      some (.dns_lookup (commonFields py settings crypto call)
        (match data with | some result => result.domain | none => payload.domain)
        (match data with | some result => result.record_type | none => payload.record_type)
        (match data with | some result => result.records | none => [])
        (data.bind (·.resolver)) (data.map (·.lookup_time_ms)))

/-- The row of the run. -/
def runRow (call : Call) (type : Str) : DiagnosticRun :=
  let client_ip := getRealClientIp py settings call.request
  { id := call.request_id
    user_id := call.current_user.map (·.user_id)
    diagnostic_type := type
    success := call.success
    result_code := call.result_code
    api_status_code := call.api_status_code
    error_message :=
      match (call.error_message.getD []).take 500 with
      | [] => none
      | c :: cs => some (c :: cs)
    duration_ms := max 0 call.duration_ms
    client_key := hashClientIp crypto settings client_ip
    client_ip := if settings.store_raw_client_ip ∧ client_ip ≠ str "unknown" then some client_ip
      else none
    source := str "WEB"
    app_version := settings.app_version
    started_at := call.started_at
    completed_at := call.completed_at
    expires_at := call.completed_at + days settings.diagnostic_retention_days }

/-- `value or default` on a text. -/
def orElse (value : Option Str) (default : Str) : Str :=
  match value with
  | none => default
  | some [] => default
  | some (c :: cs) => c :: cs

/-- The row of the details; `none` is the `ValueError` of `urlsplit`. -/
def resultRow (call : Call) : Details → Option ResultRow
  | .http payload data =>
      let requested := redactUrl py (some (detailUrl payload data))
      let final := redactUrl py (data.map (·.final_url))
      (urlsplit py (requested.1.getD [])).map fun parts =>
        .http call.request_id (orElse requested.1 (str "invalid"))
          ((orElse (hostname py parts) (str "invalid")).take 253) payload.method payload.timeout_ms
          payload.follow_redirects (requested.2 || final.2) final.1
          (match data with | some result => result.reachable | none => false)
          (data.map (·.status_code)) (data.map (·.reason_phrase)) (data.bind (·.resolved_ip))
          (data.map (·.response_time_ms)) (data.bind (·.content_length))
          (data.bind (·.content_type)) (data.bind (·.server))
          (match data with | some result => result.redirect_count | none => 0)
  | .tcp payload data =>
      some (.tcp call.request_id
        ((match data with | some result => result.host | none => payload.host).take 253)
        (match data with | some result => result.port | none => payload.port) payload.timeout_ms
        (match data with | some result => result.resolved_ips | none => [])
        (match data with | some result => result.isOpen | none => false)
        (match data with | some result => result.result | none => call.result_code)
        (data.bind (·.connection_time_ms))
        ((match data with
          | some result => result.message
          | none => orElse call.error_message call.result_code).take 500))
  | .dns payload data =>
      let record_type :=
        match data with | some result => result.record_type | none => payload.record_type
      let records := match data with | some result => result.records | none => []
      let redact := record_type = str "TXT"
      some (.dns call.request_id
        ((match data with | some result => result.domain | none => payload.domain).take 253)
        record_type (if redact then [] else records) records.length redact
        (data.bind (·.ttl)) (data.bind (·.resolver)) (data.map (·.lookup_time_ms)))

/-- `persist_diagnostic(request, ...)`.  Whatever fails in the transaction is logged and
    goes no further; the `ValueError` while the event is put together is not caught. -/
def persistDiagnostic (call : Call) (details : Details) : Traced Sink ProbeError Unit :=
  match logEvent py settings crypto call details with
  | none => .raise .valueError
  | some event => do
      .tell [.log event]
      if !(settings.database_enabled && settings.diagnostic_persistence_enabled) then .ret ()
      else
        match call.dbFailure, resultRow py call details with
        | some error_type, _ => .tell [.log (.database_write_failed call.request_id error_type)]
        | none, none => .tell [.log (.database_write_failed call.request_id (str "ValueError"))]
        | none, some row => .tell [.rows (runRow py settings crypto call details.type) row]

/-- The `data` of an answer. -/
inductive DiagnosticData where
  | http (data : HttpCheckResult)
  | tcp (data : PortCheckData)
  | dns (data : DnsLookupData)
  deriving DecidableEq, Repr

/-- The answer of a handler: the status, the result code (with the message of an error), and the
    data of a success. -/
structure Answer where
  status_code : Int
  code : Str
  message : Str
  data : Option DiagnosticData
  deriving DecidableEq, Repr

/-- The `except` clauses of `http_check`: code, message and status of the answer. -/
def failureOf : ProbeError → Answer
  | .validationError message => ⟨422, str "VALIDATION_ERROR", message, none⟩
  | .targetNotAllowedError message => ⟨403, str "TARGET_NOT_ALLOWED", message, none⟩
  | .dnsFailedError message => ⟨400, str "DNS_RESOLUTION_FAILED", message, none⟩
  | .timeoutError _ =>
      ⟨200, str "CONNECTION_TIMEOUT", str "대상 서버가 제한 시간 내에 응답하지 않았습니다.", none⟩
  | .connectionRefusedError _ => ⟨200, str "CONNECTION_REFUSED", str "대상 서버가 연결을 거부했습니다.", none⟩
  | .tlsOrTransportError _ =>
      ⟨200, str "TLS_ERROR", str "HTTPS 인증서 또는 TLS 연결에 실패했습니다.", none⟩
  | .tooManyRedirectsError _ => ⟨200, str "TOO_MANY_REDIRECTS", str "리다이렉트 횟수 제한을 초과했습니다.", none⟩
  | .valueError => ⟨500, str "INTERNAL_SERVER_ERROR", str "서버 내부 오류가 발생했습니다.", none⟩
  | .otherException _ => ⟨500, str "INTERNAL_SERVER_ERROR", str "서버 내부 오류가 발생했습니다.", none⟩

/-- One request to `http_check`: its payload, the world it runs in and what its recording
    reads (the fields about the outcome are filled in by the handler). -/
structure HttpCall where
  payload : HttpCheckRequest
  net : Net
  call : Call

/-- The call of `persist_diagnostic` for a failure. -/
def failedCall (c : HttpCall) (answer : Answer) : Call :=
  { c.call with
    success := false, result_code := answer.code, api_status_code := answer.status_code
    error_message := some answer.message }

/-- The call of `persist_diagnostic` for a result. -/
def okCall (c : HttpCall) : Call :=
  { c.call with
    success := true, result_code := str "OK", api_status_code := 200, error_message := none }

/-- `failure(code, message, status_code)` -/
def failure (c : HttpCall) (answer : Answer) : Traced Sink ProbeError Answer := do
  persistDiagnostic py settings crypto (failedCall c answer) (.http c.payload none)
  .ret answer

/-- `await perform_http_check(...)` with the fields of the payload. -/
def checkOutcome (c : HttpCall) : Except ProbeError HttpCheckResult :=
  (performHttpCheck py settings c.net c.payload.url c.payload.method
    c.payload.follow_redirects).outcome

/-- `http_check(payload, request)` -/
def httpCheck (c : HttpCall) : Traced Sink ProbeError Answer :=
  match checkOutcome py settings c with
  | .error e => failure py settings crypto c (failureOf e)
  | .ok result =>
      let recorded :=
        persistDiagnostic py settings crypto (okCall c) (.http c.payload (some result))
      match recorded.outcome with
      | .ok _ => ⟨recorded.events, .ok ⟨200, str "OK", [], some (.http result)⟩⟩
      | .error e =>
          ⟨recorded.events ++ (failure py settings crypto c (failureOf e)).events,
            (failure py settings crypto c (failureOf e)).outcome⟩

end Program

end NetProbePersistence
