import NetProbe.TcpServiceProofs
import NetProbe.UrlSecrecyProofs

/-!
# The three probe handlers

`port_check` and `dns_lookup`, beside `http_check`: a handler validates its payload, runs its
service, records the outcome with `persist_diagnostic` and answers.  What a service does on
the network and how it ends is a computation of its own (`portProbe`, `dnsProbe`); the handler
is its record and its answer.

An exception that leaves a handler becomes the answer of the handler for all exceptions of
the application (`respond`).

Recording never changes an answer, whatever the settings of the database say and however it
fails (`responses_independent`).  But `persist_diagnostic` itself does not always return: it
parses the URL a second time before its `try`, so that a URL which `urlsplit` refuses ends it
with an exception (`fail_open_iff`).
-/

namespace NetProbeProbeHandlers

open NetProbePyText NetProbeConfig NetProbeUrlSplit NetProbeSecurity NetProbeCoreAuth
open NetProbeHttpService NetProbeTcpService NetProbeDnsService NetProbePersistence TracedRun

-- ── Port check and DNS lookup ─────────────────────────────────────────────────────

section Program

variable (py : Python) (settings : Settings) (crypto : Crypto)

/-- The answer of an exception that no clause of a handler names. -/
def internalServerError : Answer :=
  ⟨500, str "INTERNAL_SERVER_ERROR", str "서버 내부 오류가 발생했습니다.", none⟩

/-- `failure(code, message, status_code)`; the details are those of the payload. -/
def recordFailure (call : Call) (details : Details) (answer : Answer) :
    Traced Sink ProbeError Answer := do
  persistDiagnostic py settings crypto
    { call with
      success := false, result_code := answer.code, api_status_code := answer.status_code
      error_message := some answer.message } details
  .ret answer

/-- The record of a result, and its answer. -/
def recordResult (call : Call) (success : Bool) (details : Details) (answer : Answer) :
    Traced Sink ProbeError Answer := do
  persistDiagnostic py settings crypto
    { call with
      success := success, result_code := answer.code, api_status_code := 200
      error_message := none } details
  .ret answer

/-- One request to `port_check`. -/
structure PortCall where
  payload : PortCheckRequest
  net : TcpNet
  call : Call

/-- `PortCheckData(...)` of a result. -/
def portCheckData (result : PortCheckResult) : PortCheckData :=
  ⟨result.host, result.resolved_ips, result.port, result.isOpen, result.result,
    result.connection_time_ms, result.message⟩

/-- What `port_check` does before it records anything. -/
def portProbe (c : PortCall) : Traced TcpEvent ProbeError PortCheckResult := do
  let validated_host ← .lift (validateHost py c.payload.host)
  let _ ← .lift (assertPortAllowed settings c.payload.port)
  performPortCheck py settings c.net validated_host c.payload.port

/-- The `except` clauses of `port_check`. -/
def portFailureOf : ProbeError → Answer
  | .validationError message => ⟨422, str "VALIDATION_ERROR", message, none⟩
  | .targetNotAllowedError message => ⟨403, str "TARGET_NOT_ALLOWED", message, none⟩
  | _ => internalServerError

/-- `port_check(payload, request)` -/
def portCheck (c : PortCall) : Traced Sink ProbeError Answer :=
  Traced.tryCatch
    (do
      let result ← .lift (portProbe py settings c).outcome
      recordResult py settings crypto c.call result.isOpen
        (.tcp c.payload (some (portCheckData result)))
        ⟨200, result.result, [], some (.tcp (portCheckData result))⟩)
    fun e => recordFailure py settings crypto c.call (.tcp c.payload none) (portFailureOf e)

/-- One request to `dns_lookup`. -/
structure DnsCall where
  payload : DnsLookupRequest
  net : DnsNet
  call : Call

/-- `DnsLookupData(...)` of a result. -/
def dnsLookupData (result : DnsLookupResult) : DnsLookupData :=
  ⟨result.domain, result.record_type, result.records, result.ttl, result.resolver,
    result.lookup_time_ms⟩

/-- `DnsLookupData(...)` of a domain without records of the type. -/
def noRecordsData (c : DnsCall) : DnsLookupData where
  domain :=
    match validateDomain py c.payload.domain with
    | .ok normalized_domain => normalized_domain
    | .error _ => c.payload.domain
  record_type := c.payload.record_type
  records := []
  ttl := none
  resolver := none
  lookup_time_ms := c.call.duration_ms

/-- The exceptions of `dns_lookup`: those of the validation and those of the lookup. -/
inductive DnsProbeError where
  | invalid (e : ProbeError)
  | lookup (e : DnsError)

/-- What `dns_lookup` does before it records anything. -/
def dnsProbe (c : DnsCall) : Traced DnsEvent DnsProbeError DnsLookupResult :=
  match validateDomain py c.payload.domain with
  | .error e => .raise (.invalid e)
  | .ok normalized_domain =>
      let looked := performDnsLookup c.net normalized_domain c.payload.record_type
      ⟨looked.events, looked.outcome.mapError .lookup⟩

/-- The `except` clauses of `dns_lookup` that end in a failure. -/
def dnsFailureOf : DnsProbeError → Answer
  | .invalid (.validationError message) => ⟨422, str "VALIDATION_ERROR", message, none⟩
  | .lookup (.domainNotFoundError message) => ⟨400, str "DNS_RESOLUTION_FAILED", message, none⟩
  | .lookup (.timeoutError _) =>
      ⟨200, str "CONNECTION_TIMEOUT", str "DNS 조회 시간이 초과되었습니다.", none⟩
  | _ => internalServerError

/-- `dns_lookup(payload, request)`.  A domain without records of the type is a success. -/
def dnsLookup (c : DnsCall) : Traced Sink ProbeError Answer :=
  match (dnsProbe py c).outcome with
  | .ok result =>
      (recordResult py settings crypto c.call true (.dns c.payload (some (dnsLookupData result)))
        ⟨200, str "OK", [], some (.dns (dnsLookupData result))⟩).tryCatch fun e =>
          recordFailure py settings crypto c.call (.dns c.payload none) (dnsFailureOf (.invalid e))
  | .error (.lookup (.noRecordsError _)) =>
      recordResult py settings crypto c.call true (.dns c.payload (some (noRecordsData py c)))
        ⟨200, str "OK_EMPTY", [], some (.dns (noRecordsData py c))⟩
  | .error e => recordFailure py settings crypto c.call (.dns c.payload none) (dnsFailureOf e)

/-- What the client gets: the answer of the handler, or that of the handler for all exceptions
    of the application. -/
def respond : Except ProbeError Answer → Answer
  | .ok answer => answer
  | .error _ => internalServerError

end Program

-- ── When a record is made ─────────────────────────────────────────────────────────

section Records

variable {py : Python} {settings : Settings} {crypto : Crypto} {call : Call} {details : Details}

/-- The text of the URL that `persist_diagnostic` parses outside its `try` can be parsed. -/
def loggable (py : Python) : Details → Bool
  | .http payload data =>
      (urlsplit py ((redactUrl py (some (detailUrl payload data))).1.getD [])).isSome
  | .tcp _ _ => true
  | .dns _ _ => true

theorem logEvent_isSome :
    (logEvent py settings crypto call details).isSome = loggable py details := by
  cases details with
  | http payload data => rw [logEvent, Option.isSome_map, loggable]
  | tcp payload data => rfl
  | dns payload data => rfl

/-- **Whether `persist_diagnostic` returns depends on the details alone.** -/
theorem persistDiagnostic_outcome :
    (persistDiagnostic py settings crypto call details).outcome =
      if loggable py details then .ok () else .error .valueError := by
  have hsome : (logEvent py settings crypto call details).isSome = loggable py details :=
    logEvent_isSome
  rw [persistDiagnostic]
  cases hlog : logEvent py settings crypto call details with
  | none =>
      rw [hlog] at hsome
      rw [← hsome]
      rfl
  | some event =>
      rw [hlog] at hsome
      rw [← hsome, Option.isSome_some, if_pos rfl]
      dsimp only
      rw [Traced.bind_eq, Traced.bind_tell]
      dsimp only
      split
      · rfl
      · split
        · rfl
        · rfl
        · rfl

/-- A record that is made leaves the answer as it is. -/
theorem recordFailure_outcome {answer : Answer} :
    (recordFailure py settings crypto call details answer).outcome =
      if loggable py details then .ok answer else .error .valueError := by
  rw [recordFailure]
  cases hlog : loggable py details with
  | true =>
      rw [Traced.bind_eq, Traced.bind_of_ok (by rw [persistDiagnostic_outcome, hlog, if_pos rfl])]
      rfl
  | false =>
      rw [Traced.bind_eq, Traced.bind_of_error
        (by rw [persistDiagnostic_outcome, hlog, if_neg Bool.false_ne_true])]
      rfl

theorem recordResult_outcome {success : Bool} {answer : Answer} :
    (recordResult py settings crypto call success details answer).outcome =
      if loggable py details then .ok answer else .error .valueError := by
  rw [recordResult]
  cases hlog : loggable py details with
  | true =>
      rw [Traced.bind_eq, Traced.bind_of_ok (by rw [persistDiagnostic_outcome, hlog, if_pos rfl])]
      rfl
  | false =>
      rw [Traced.bind_eq, Traced.bind_of_error
        (by rw [persistDiagnostic_outcome, hlog, if_neg Bool.false_ne_true])]
      rfl

end Records

-- ── The settings of the database ──────────────────────────────────────────────────

section Independence

variable (py : Python) (settings : Settings) (crypto : Crypto)

/-- The settings with other switches of the database. -/
def withPersistence (settings : Settings) (enabled persisted : Bool) : Settings :=
  { settings with database_enabled := enabled, diagnostic_persistence_enabled := persisted }

/-- The call with another behaviour of the database. -/
def withFailure (call : Call) (dbFailure : Option Str) : Call :=
  { call with dbFailure := dbFailure }

variable (enabled persisted : Bool)

theorem assertAllAllowed_withPersistence (hop : Nat) (ips : List Str) :
    assertAllAllowed py (withPersistence settings enabled persisted) hop ips =
      assertAllAllowed py settings hop ips := by
  induction ips with
  | nil => rfl
  | cons ip ips ih =>
      rw [assertAllAllowed, assertAllAllowed, ih]
      rfl

theorem sendHop_withPersistence (net : Net) (method : Str) (hop : Nat) (current_url : Str) :
    sendHop py (withPersistence settings enabled persisted) net method hop current_url =
      sendHop py settings net method hop current_url := by
  unfold sendHop resolveAndValidate
  simp only [assertAllAllowed_withPersistence]

theorem checkLoop_withPersistence (net : Net) (method : Str) (follow : Bool) (url : Str) (i : Nat)
    (u : Str) :
    checkLoop py (withPersistence settings enabled persisted) net method follow url i u =
      checkLoop py settings net method follow url i u := by
  -- the redirect budget that is left decreases with every followed redirect
  induction hn : (settings.max_redirects - i).toNat using Nat.strong_induction_on
    generalizing i u with
  | _ n ih =>
      rw [checkLoop_eq, checkLoop_eq, sendHop_withPersistence]
      refine congrArg (Traced.bind _) (funext fun sent => ?_)
      show (redirectTarget settings follow i sent.1).elim _ _ = _
      cases hloc : redirectTarget settings follow i sent.1 with
      | none => rfl
      | some location =>
          have hlt := lt_of_redirectTarget hloc
          refine congrArg (Traced.bind _) (funext fun next => ?_)
          rw [ih _ (by omega) (i + 1) next rfl]
          rfl

theorem performHttpCheck_withPersistence (net : Net) (url method : Str) (follow : Bool) :
    performHttpCheck py (withPersistence settings enabled persisted) net url method follow =
      performHttpCheck py settings net url method follow := by
  unfold performHttpCheck
  simp only [checkLoop_withPersistence]

-- ── The answers ───────────────────────────────────────────────────────────────────

/-- How `http_check` ends. -/
theorem httpCheck_outcome (c : HttpCall) :
    (httpCheck py settings crypto c).outcome =
      match checkOutcome py settings c with
      | .error e =>
          if loggable py (.http c.payload none) then .ok (failureOf e) else .error .valueError
      | .ok result =>
          if loggable py (.http c.payload (some result)) then
            .ok ⟨200, str "OK", [], some (.http result)⟩
          else if loggable py (.http c.payload none) then .ok (failureOf .valueError)
          else .error .valueError := by
  have hfailure : ∀ answer, (failure py settings crypto c answer).outcome =
      if loggable py (.http c.payload none) then .ok answer else .error .valueError :=
    fun answer => recordFailure_outcome
  rw [httpCheck]
  cases checkOutcome py settings c with
  | error e => exact hfailure _
  | ok result =>
      dsimp only
      have hrecorded : (persistDiagnostic py settings crypto (okCall c)
          (.http c.payload (some result))).outcome =
            if loggable py (.http c.payload (some result)) then .ok () else .error .valueError :=
        persistDiagnostic_outcome
      cases hlog : loggable py (.http c.payload (some result)) with
      | true =>
          rw [hlog, if_pos rfl] at hrecorded
          rw [hrecorded]
          rfl
      | false =>
          rw [hlog, if_neg Bool.false_ne_true] at hrecorded
          rw [hrecorded]
          exact hfailure _

/-- How `port_check` ends. -/
theorem portCheck_outcome (c : PortCall) :
    (portCheck py settings crypto c).outcome =
      match (portProbe py settings c).outcome with
      | .error e => .ok (portFailureOf e)
      | .ok result => .ok ⟨200, result.result, [], some (.tcp (portCheckData result))⟩ := by
  rw [portCheck]
  cases hprobe : (portProbe py settings c).outcome with
  | error e =>
      rw [Traced.tryCatch_of_error (e := e) rfl]
      exact recordFailure_outcome
  | ok result =>
      rw [Traced.tryCatch_of_ok (a := ⟨200, result.result, [], some (.tcp (portCheckData result))⟩)]
      · exact recordResult_outcome
      · exact recordResult_outcome

/-- How `dns_lookup` ends. -/
theorem dnsLookup_outcome (c : DnsCall) :
    (dnsLookup py settings crypto c).outcome =
      match (dnsProbe py c).outcome with
      | .ok result => .ok ⟨200, str "OK", [], some (.dns (dnsLookupData result))⟩
      | .error (.lookup (.noRecordsError _)) =>
          .ok ⟨200, str "OK_EMPTY", [], some (.dns (noRecordsData py c))⟩
      | .error e => .ok (dnsFailureOf e) := by
  rw [dnsLookup]
  cases hprobe : (dnsProbe py c).outcome with
  | ok result =>
      dsimp only
      rw [Traced.tryCatch_of_ok (a := ⟨200, str "OK", [], some (.dns (dnsLookupData result))⟩)]
      · exact recordResult_outcome
      · exact recordResult_outcome
  | error e =>
      rcases e with e | e
      · exact recordFailure_outcome
      · cases e with
        | noRecordsError message => exact recordResult_outcome
        | domainNotFoundError message | timeoutError message | otherException name =>
            exact recordFailure_outcome

end Independence

-- ── Fail-open ─────────────────────────────────────────────────────────────────────

section FailOpen

variable {py : Python} {settings : Settings}

/-- Details a handler builds: those of an HTTP result come from a check of the payload. -/
def BuiltByHandler (py : Python) (settings : Settings) : Details → Prop
  | .http payload (some result) => ∃ net,
      (performHttpCheck py settings net payload.url payload.method
        payload.follow_redirects).outcome =
        .ok result
  | _ => True

/-- The details are about the URL of the payload, with or without a result. -/
theorem detailUrl_of_built {payload : HttpCheckRequest} {data : Option HttpCheckResult}
    (h : BuiltByHandler py settings (.http payload data)) :
      detailUrl payload data = payload.url := by
  cases data with
  | none => rfl
  | some result =>
      obtain ⟨net, hok⟩ := h
      exact (performHttpCheck_result hok).1

/-- A URL of schema length that `urlsplit` refuses is refused again when the event is put
    together; one that it accepts is accepted again. -/
theorem loggable_iff {details : Details} (hbuilt : BuiltByHandler py settings details) :
    loggable py details = true ↔
      ∀ payload data, details = .http payload data → urlsplit py payload.url ≠ none := by
  cases details with
  | tcp payload data => exact iff_of_true rfl fun _ _ h => by cases h
  | dns payload data => exact iff_of_true rfl fun _ _ h => by cases h
  | http payload data =>
      rw [loggable, detailUrl_of_built hbuilt]
      have hsame : (∀ payload' data', Details.http payload data = .http payload' data' →
          urlsplit py payload'.url ≠ none) ↔ urlsplit py payload.url ≠ none := by
        constructor
        · exact fun h => h payload data rfl
        · rintro h payload' data' ⟨⟩
          exact h
      rw [hsame]
      cases hsplit : urlsplit py payload.url with
      | none =>
          rw [redactUrl_refused hsplit, Option.getD_some,
            List.take_of_length_le payload.url_le, hsplit]
          simp
      | some parts =>
          rw [redactUrl_split hsplit]
          simp

theorem respond_httpCheck (crypto : Crypto) (enabled persisted : Bool) (dbFailure : Option Str)
    (c : HttpCall) :
    respond (httpCheck py (withPersistence settings enabled persisted) crypto
        { c with call := withFailure c.call dbFailure }).outcome =
      respond (httpCheck py settings crypto c).outcome := by
  have hcheck : checkOutcome py (withPersistence settings enabled persisted)
      { c with call := withFailure c.call dbFailure } = checkOutcome py settings c := by
    unfold checkOutcome
    rw [performHttpCheck_withPersistence]
  rw [httpCheck_outcome, httpCheck_outcome, hcheck]

theorem respond_portCheck (crypto : Crypto) (enabled persisted : Bool) (dbFailure : Option Str)
    (c : PortCall) :
    respond (portCheck py (withPersistence settings enabled persisted) crypto
        { c with call := withFailure c.call dbFailure }).outcome =
      respond (portCheck py settings crypto c).outcome := by
  -- the port check reads neither switch
  have hprobe : portProbe py (withPersistence settings enabled persisted)
      { c with call := withFailure c.call dbFailure } = portProbe py settings c := rfl
  rw [portCheck_outcome, portCheck_outcome, hprobe]

theorem respond_dnsLookup (crypto : Crypto) (enabled persisted : Bool) (dbFailure : Option Str)
    (c : DnsCall) :
    respond (dnsLookup py (withPersistence settings enabled persisted) crypto
        { c with call := withFailure c.call dbFailure }).outcome =
      respond (dnsLookup py settings crypto c).outcome := by
  have hprobe : dnsProbe py { c with call := withFailure c.call dbFailure } = dnsProbe py c := rfl
  have hempty : noRecordsData py { c with call := withFailure c.call dbFailure } =
      noRecordsData py c := rfl
  rw [dnsLookup_outcome, dnsLookup_outcome, hprobe, hempty]

/-- **Recording is fail-open but for URLs that cannot be parsed.**  `persist_diagnostic` returns
    exactly if the details are not those of an HTTP check of a URL that `urlsplit` refuses,
    whatever the database does; and the answer of none of the three handlers depends on the
    switches of the database or on how it fails. -/
theorem fail_open_iff (py : Python) (crypto : Crypto) (settings : Settings) :
    (∀ call details, BuiltByHandler py settings details →
      ((persistDiagnostic py settings crypto call details).outcome = .ok () ↔
        ∀ payload data, details = .http payload data → urlsplit py payload.url ≠ none)) ∧
      ∀ enabled persisted dbFailure,
        (∀ c : HttpCall, respond (httpCheck py (withPersistence settings enabled persisted) crypto
            { c with call := withFailure c.call dbFailure }).outcome =
          respond (httpCheck py settings crypto c).outcome) ∧
        (∀ c : PortCall, respond (portCheck py (withPersistence settings enabled persisted) crypto
            { c with call := withFailure c.call dbFailure }).outcome =
          respond (portCheck py settings crypto c).outcome) ∧
        ∀ c : DnsCall, respond (dnsLookup py (withPersistence settings enabled persisted) crypto
            { c with call := withFailure c.call dbFailure }).outcome =
          respond (dnsLookup py settings crypto c).outcome := by
  constructor
  · intro call details hbuilt
    rw [← loggable_iff hbuilt, persistDiagnostic_outcome]
    cases loggable py details with
    | true => simp
    | false => simp
  · intro enabled persisted dbFailure
    exact ⟨respond_httpCheck crypto enabled persisted dbFailure,
      respond_portCheck crypto enabled persisted dbFailure,
      respond_dnsLookup crypto enabled persisted dbFailure⟩

/-- A request whose URL is an opening bracket after the scheme. -/
def bracketCall : HttpCall := plainCall (str "http://[") (by decide)

/-- The general result on that request, and on a port check: the one is not recorded, the other
    is. -/
theorem bracket_not_recorded :
    (persistDiagnostic .asciiOnly {} .plain bracketCall.call
      (.http bracketCall.payload none)).outcome ≠
        .ok () ∧
      (persistDiagnostic .asciiOnly {} .plain bracketCall.call
        (.tcp ⟨str "example.com", 443, 3000, by decide, by decide⟩ none)).outcome = .ok () := by
  have hreturns := (fail_open_iff .asciiOnly .plain {}).1
  constructor
  · rw [ne_eq, hreturns bracketCall.call (.http bracketCall.payload none) trivial]
    intro hall
    exact hall bracketCall.payload none rfl (by decide +kernel)
  · rw [hreturns bracketCall.call (.tcp _ none) trivial]
    rintro payload data ⟨⟩

/-- With persistence switched off, `persist_diagnostic` raises in the handler of `http://[`, and
    the exception leaves the handler. -/
theorem bracket_leaves_handler :
    (persistDiagnostic .asciiOnly {} .plain
        (failedCall bracketCall (failureOf .valueError)) (.http bracketCall.payload none)).outcome =
          .error .valueError ∧
      checkOutcome .asciiOnly {} bracketCall = .error .valueError ∧
        (httpCheck .asciiOnly {} .plain bracketCall).outcome = .error .valueError := by
  refine ⟨by decide +kernel, by decide +kernel, by decide +kernel⟩

end FailOpen

end NetProbeProbeHandlers
