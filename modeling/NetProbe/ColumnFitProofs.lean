import NetProbe.AllowListProofs
import NetProbe.FailureMessagesProofs
import NetProbe.TxtSecrecyProofs

/-!
# Rows and their columns

The columns of the four tables for diagnostics whose types do not take everything, as the
migration declares them, and the values `persist_diagnostic` puts into them.  Some texts are cut to
the size of their column on the way and some are not, and nothing takes a NUL out of a text.

For each of the three handlers the file says exactly when the rows it inserts fit
(`stored_fit_iff`).  What comes from outside does not always.  The reason phrase, two headers and
the content length of an HTTP response are inserted as they are, and so are the time to live and
the resolver of a lookup.  A NUL of the target is in its row, be the target valid or not.  And a
port check that ends in an exception inserts the code of its answer into a column that is one
character too short for it.
-/

namespace NetProbeColumnFit

open NetProbePyText NetProbeConfig NetProbeUrlSplit NetProbeIpAddress NetProbeSecurity
open NetProbeCoreAuth NetProbeDeps NetProbeHttpService NetProbeRedirectBudget NetProbeTcpService
open NetProbeDnsService NetProbePersistence NetProbeProbeHandlers NetProbeAllowList
open NetProbeTxtSecrecy NetProbeInet NetProbeColumnTypes NetProbeFailureMessages
open NetProbeValidatorGrammar TracedRun

-- ── Columns ───────────────────────────────────────────────────────────────────────

/-- The columns of `diagnostic_runs` that do not take every value. -/
def runColumns (run : DiagnosticRun) : List Column :=
  [⟨"diagnostic_type", .varchar 16, .text run.diagnostic_type⟩,
   ⟨"result_code", .varchar 40, .text run.result_code⟩,
   ⟨"api_status_code", .smallint, .int run.api_status_code⟩,
   ⟨"error_message", .varchar 500, textOrNull run.error_message⟩,
   ⟨"duration_ms", .integer, .int run.duration_ms⟩,
   ⟨"client_key", .varchar 64, textOrNull run.client_key⟩,
   ⟨"client_ip", .inet, textOrNull run.client_ip⟩,
   ⟨"source", .varchar 20, .text run.source⟩,
   ⟨"app_version", .varchar 40, .text run.app_version⟩]

/-- Those of the three result tables. -/
def resultColumns : ResultRow → List Column
  | .http _ requested_url target_host method timeout_ms _ _ final_url _ status_code reason_phrase
      resolved_ip response_time_ms content_length content_type server_header redirect_count =>
      [⟨"requested_url", .text, .text requested_url⟩,
       ⟨"target_host", .varchar 253, .text target_host⟩,
       ⟨"method", .varchar 8, .text method⟩,
       ⟨"timeout_ms", .integer, .int timeout_ms⟩,
       ⟨"final_url", .text, textOrNull final_url⟩,
       ⟨"status_code", .smallint, intOrNull status_code⟩,
       ⟨"reason_phrase", .varchar 120, textOrNull reason_phrase⟩,
       ⟨"resolved_ip", .inet, textOrNull resolved_ip⟩,
       ⟨"response_time_ms", .integer, intOrNull response_time_ms⟩,
       ⟨"content_length", .bigint, intOrNull content_length⟩,
       ⟨"content_type", .varchar 255, textOrNull content_type⟩,
       ⟨"server_header", .varchar 255, textOrNull server_header⟩,
       ⟨"redirect_count", .smallint, .int redirect_count⟩]
  | .tcp _ host port timeout_ms resolved_ips _ connection_result connection_time_ms message =>
      [⟨"host", .varchar 253, .text host⟩,
       ⟨"port", .integer, .int port⟩,
       ⟨"timeout_ms", .integer, .int timeout_ms⟩,
       ⟨"resolved_ips", .inets, .texts resolved_ips⟩,
       ⟨"connection_result", .varchar 20, .text connection_result⟩,
       ⟨"connection_time_ms", .integer, intOrNull connection_time_ms⟩,
       ⟨"message", .varchar 500, .text message⟩]
  | .dns _ domain record_type records record_count _ ttl resolver lookup_time_ms =>
      [⟨"domain", .varchar 253, .text domain⟩,
       ⟨"record_type", .varchar 10, .text record_type⟩,
       ⟨"records", .texts, .texts records⟩,
       ⟨"record_count", .integer, .int record_count⟩,
       ⟨"ttl", .integer, intOrNull ttl⟩,
       ⟨"resolver", .varchar 255, textOrNull resolver⟩,
       ⟨"lookup_time_ms", .integer, intOrNull lookup_time_ms⟩]

/-- The rows of every diagnostic fit. -/
def RowsFit (sinks : List Sink) : Prop :=
  ∀ row ∈ rowsOf sinks, Fit (runColumns row.1 ++ resultColumns row.2)

instance (sinks : List Sink) : Decidable (RowsFit sinks) :=
  inferInstanceAs (Decidable (∀ row ∈ rowsOf sinks, Fit (runColumns row.1 ++ resultColumns row.2)))

-- ── The row of the run ────────────────────────────────────────────────────────────

/-- `hexdigest()` of SHA-256. -/
def HexDigest (crypto : Crypto) : Prop :=
  ∀ secret text, (crypto.hmacSha256 secret text).length = 64 ∧
    ∀ c ∈ crypto.hmacSha256 secret text, isHexDigit c = true

/-- What the row of a run needs that the program does not see to. -/
structure RunFits (py : Python) (settings : Settings) (call : Call) : Prop where
  duration_ms : call.duration_ms ≤ 2147483647
  app_version : fits 40 settings.app_version = true
  client_ip : settings.store_raw_client_ip = true →
    getRealClientIp py settings call.request ≠ str "unknown" →
      isInet (getRealClientIp py settings call.request) = true

/-- The result codes and statuses of the handlers. -/
structure CodeFits (code : Str) (status : Int) : Prop where
  result_code : fits 40 code = true
  api_status_code : -32768 ≤ status ∧ status ≤ 32767

section Run

variable {py : Python} {settings : Settings} {crypto : Crypto} {call : Call} {details : Details}

theorem type_fits (details : Details) : fits 16 details.type = true := by
  cases details with
  | http payload data => exact (by decide : fits 16 (str "HTTP") = true)
  | tcp payload data => exact (by decide : fits 16 (str "TCP") = true)
  | dns payload data => exact (by decide : fits 16 (str "DNS") = true)

theorem error_message_takes :
    (ColumnType.varchar 500).takes
        (textOrNull (runRow py settings crypto call details.type).error_message) = true ↔
      nulFree ((call.error_message.getD []).take 500) = true := by
  have hcut : fits 500 ((call.error_message.getD []).take 500) =
      nulFree ((call.error_message.getD []).take 500) := fits_take
  rw [runRow]
  dsimp only
  split
  next hnil =>
    rw [hnil]
    exact iff_of_true rfl rfl
  next c cs hcons =>
    rw [hcons] at hcut ⊢
    exact Iff.of_eq (congrArg (· = true) hcut)

theorem client_key_takes (hkey : HexDigest crypto) (ip : Str) :
    (ColumnType.varchar 64).takes (textOrNull (hashClientIp crypto settings ip)) = true := by
  rw [hashClientIp]
  split
  · rfl
  · obtain ⟨hlength, hhex⟩ := hkey settings.client_hash_secret ip
    show fits 64 _ = true
    rw [fits_of_le hlength.le]
    refine nulFree_iff.mpr fun hmem => ?_
    have hnul := hhex _ hmem
    cases hnul

theorem client_ip_takes :
    ColumnType.inet.takes
      (textOrNull (runRow py settings crypto call details.type).client_ip) = true ↔
      (settings.store_raw_client_ip = true →
        getRealClientIp py settings call.request ≠ str "unknown" →
          isInet (getRealClientIp py settings call.request) = true) := by
  rw [runRow]
  dsimp only
  split
  next hboth => exact ⟨fun h _ _ => h, fun h => h hboth.1 hboth.2⟩
  next hnot => exact iff_of_true rfl fun hstore hknown => absurd ⟨hstore, hknown⟩ hnot

/-- **When the row of a run fits.** -/
theorem run_fit_iff (hkey : HexDigest crypto)
    (hcode : CodeFits call.result_code call.api_status_code) :
    Fit (runColumns (runRow py settings crypto call details.type)) ↔
      RunFits py settings call ∧ nulFree ((call.error_message.getD []).take 500) = true := by
  have hsource : fits 20 (str "WEB") = true := by decide
  have htype := type_fits details
  have hclient : (ColumnType.varchar 64).takes
      (textOrNull (runRow py settings crypto call details.type).client_key) = true :=
    client_key_takes hkey _
  simp only [runColumns, fit_cons, fit_nil, and_true, error_message_takes, client_ip_takes,
    takes_varchar, takes_smallint, takes_integer]
  constructor
  · rintro ⟨-, -, -, hmessage, hduration, -, hip, -, hversion⟩
    exact ⟨⟨(max_le_iff.mp hduration.2).2, hversion, hip⟩, hmessage⟩
  · rintro ⟨h, hmessage⟩
    refine ⟨htype, hcode.result_code, hcode.api_status_code, hmessage, ⟨?_, ?_⟩,
      hclient, h.client_ip, hsource, h.app_version⟩
    · exact le_trans (by decide) (le_max_left 0 call.duration_ms)
    · exact max_le (by decide) h.duration_ms

end Run

-- ── What a record inserts ─────────────────────────────────────────────────────────

/-- Diagnostics are stored. -/
structure Stores (settings : Settings) : Prop where
  database_enabled : settings.database_enabled = true
  diagnostic_persistence_enabled : settings.diagnostic_persistence_enabled = true

section Records

variable {py : Python} {settings : Settings} {crypto : Crypto} {call : Call} {details : Details}

/-- The rows of the two tables are put together from the details or neither is. -/
theorem resultRow_isSome : (resultRow py call details).isSome = loggable py details := by
  cases details with
  | http payload data =>
      show (Option.map _ (urlsplit py _)).isSome = _
      rw [Option.isSome_map, loggable]
  | tcp payload data => rfl
  | dns payload data => rfl

/-- **What one record inserts**, in a database that carries out what it is given.  Of the row of
    the run, only its message depends on the outcome that is recorded. -/
theorem record_fit_iff (hkey : HexDigest crypto) {origin : Call} (hdb : origin.dbFailure = none)
    {success : Bool} {code : Str} {status : Int} {message : Option Str}
    (hcode : CodeFits code status) :
    RowsFit (persistDiagnostic py settings crypto
        { origin with
          success := success, result_code := code, api_status_code := status
          error_message := message } details).events ↔
      (Stores settings → ∀ result, resultRow py
          { origin with
            success := success, result_code := code, api_status_code := status
            error_message := message } details = some result →
        (RunFits py settings origin ∧ nulFree ((message.getD []).take 500) = true) ∧
          Fit (resultColumns result)) := by
  generalize hcall : ({ origin with
    success := success, result_code := code, api_status_code := status
    error_message := message } : Call) = call
  have hfailure : call.dbFailure = none := hcall ▸ hdb
  have hrun : Fit (runColumns (runRow py settings crypto call details.type)) ↔
      RunFits py settings origin ∧ nulFree ((message.getD []).take 500) = true := by
    have hfits : CodeFits call.result_code call.api_status_code := hcall ▸ hcode
    rw [run_fit_iff hkey hfits, ← hcall]
    refine and_congr_left fun _ => ?_
    exact ⟨fun h => ⟨h.duration_ms, h.app_version, h.client_ip⟩,
      fun h => ⟨h.duration_ms, h.app_version, h.client_ip⟩⟩
  have hsame : (resultRow py call details).isSome =
      (logEvent py settings crypto call details).isSome :=
    resultRow_isSome.trans logEvent_isSome.symm
  cases hlog : logEvent py settings crypto call details with
  | none =>
      have hrow : resultRow py call details = none := by
        rw [hlog] at hsame
        exact Option.isSome_eq_false_iff.mp hsame |> Option.isNone_iff_eq_none.mp
      rw [persistDiagnostic, hlog, hrow]
      exact iff_of_true (fun _ h => by cases h) fun _ _ h => by cases h
  | some event =>
      rw [hlog] at hsame
      obtain ⟨result, hresult⟩ := Option.isSome_iff_exists.mp hsame
      rw [persistDiagnostic, hlog]
      dsimp only
      rw [Traced.bind_eq, Traced.bind_tell, hfailure, hresult]
      cases hon : settings.database_enabled && settings.diagnostic_persistence_enabled with
      | false =>
          refine iff_of_true (fun _ h => by cases h) fun hstores => ?_
          rw [hstores.database_enabled, hstores.diagnostic_persistence_enabled] at hon
          cases hon
      | true =>
          obtain ⟨henabled, hpersisted⟩ := Bool.and_eq_true_iff.mp hon
          have hrows : ∀ row, row ∈ rowsOf [.log event,
              .rows (runRow py settings crypto call details.type) result] ↔
                row = (runRow py settings crypto call details.type, result) :=
            fun row => List.mem_singleton
          constructor
          · rintro hfit - result' ⟨⟩
            obtain ⟨hfirst, hsecond⟩ := fit_append.mp (hfit _ ((hrows _).mpr rfl))
            exact ⟨hrun.mp hfirst, hsecond⟩
          · intro hfit row hrow
            obtain ⟨hfirst, hsecond⟩ := hfit ⟨henabled, hpersisted⟩ result rfl
            rw [(hrows row).mp hrow]
            exact fit_append.mpr ⟨hrun.mpr hfirst, hsecond⟩

theorem recordFailure_events {answer : Answer} :
    (recordFailure py settings crypto call details answer).events =
      (persistDiagnostic py settings crypto
        { call with
          success := false, result_code := answer.code, api_status_code := answer.status_code
          error_message := some answer.message } details).events := by
  rw [recordFailure, Traced.bind_eq, Traced.bind]
  split
  · exact List.append_nil _
  · rfl

theorem recordResult_events {success : Bool} {answer : Answer} :
    (recordResult py settings crypto call success details answer).events =
      (persistDiagnostic py settings crypto
        { call with
          success := success, result_code := answer.code, api_status_code := 200
          error_message := none } details).events := by
  rw [recordResult, Traced.bind_eq, Traced.bind]
  split
  · exact List.append_nil _
  · rfl

end Records

-- ── HTTP checks ───────────────────────────────────────────────────────────────────

/-- What the schema checks of an `HttpCheckRequest` besides the length of the URL. -/
structure HttpTyped (payload : HttpCheckRequest) : Prop where
  method : payload.method = str "GET" ∨ payload.method = str "HEAD"
  timeout_ms : 1000 ≤ payload.timeout_ms ∧ payload.timeout_ms ≤ 10000

/-- The response that the check ends with, where it came from, and the content length that is made
    of it. -/
structure FinalResponse (py : Python) (settings : Settings) (c : HttpCall) (u : Str)
    (answer : List Str) (response : Response) (length : Option Int) : Prop where
  valid : validateUrl py c.payload.url = .ok c.payload.url
  last : ∃ i,
    Reaches py settings c.net c.payload.method c.payload.follow_redirects 0 c.payload.url i u ∧
      HopAllowed py settings c.net c.payload.method i u answer ∧
        c.net.send i c.payload.method u = .ok response ∧
          redirectTarget settings c.payload.follow_redirects i response = none
  read : ∃ received, receive settings.max_response_bytes 0 response.chunks = .ok received ∧
    contentLength py response.content_length received = .ok length

/-- `requested_url` of a row. -/
def recordedUrl (py : Python) (url : Str) : Str :=
  orElse (redactUrl py (some url)).1 (str "invalid")

/-- `target_host` of a row. -/
def recordedHost (py : Python) (url : Str) : Str :=
  (orElse ((urlsplit py ((redactUrl py (some url)).1.getD [])).bind (hostname py))
    (str "invalid")).take 253

/-- What the columns need of the URL of a request. -/
structure UrlFits (py : Python) (url : Str) : Prop where
  requested_url : nulFree (recordedUrl py url) = true
  target_host : nulFree (recordedHost py url) = true

/-- What they need of the last URL, the first address of its host, the response and the clock. -/
structure ValuesFit (py : Python) (final_url : Str) (status_code : Int) (reason_phrase : Str)
    (resolved_ip : Option Str) (response_time_ms : Int) (content_length : Option Int)
    (content_type server : Option Str) : Prop where
  final_url : ∀ text, (redactUrl py (some final_url)).1 = some text → nulFree text = true
  status_code : -32768 ≤ status_code ∧ status_code ≤ 32767
  reason_phrase : fits 120 reason_phrase = true
  resolved_ip : ∀ ip, resolved_ip = some ip → isInet ip = true
  response_time_ms : -2147483648 ≤ response_time_ms ∧ response_time_ms ≤ 2147483647
  content_length : ∀ n, content_length = some n →
    -9223372036854775808 ≤ n ∧ n ≤ 9223372036854775807
  content_type : ∀ text, content_type = some text → fits 255 text = true
  server : ∀ text, server = some text → fits 255 text = true

/-- What a check needs so that its rows fit. -/
structure HttpFits (py : Python) (settings : Settings) (c : HttpCall) : Prop where
  run : RunFits py settings c.call
  url : UrlFits py c.payload.url
  stopped : ∀ message, Stopped py settings c.net c.payload.method c.payload.follow_redirects 0
    c.payload.url message → nulFree (message.take 500) = true
  response : ∀ u answer response length, FinalResponse py settings c u answer response length →
    ValuesFit py u response.status_code response.reason_phrase (sortedSet answer).head?
      c.net.elapsed_ms length response.content_type response.server

section Http

variable {py : Python} {settings : Settings} {net : Net} {method url u : Str} {follow : Bool}
  {i : Nat}

/-- What a result is made of. -/
theorem finish_iff {response : Response} {ip : Option Str} {result : HttpCheckResult} :
    finish py settings net url u i response ip = .ok result ↔
      ∃ received length, receive settings.max_response_bytes 0 response.chunks = .ok received ∧
        contentLength py response.content_length received = .ok length ∧
          result = ⟨url, u, true, response.status_code, response.reason_phrase, ip, net.elapsed_ms,
            length, response.content_type, response.server, i⟩ := by
  rw [finish]
  cases hreceive : receive settings.max_response_bytes 0 response.chunks with
  | error e =>
      refine iff_of_false (fun h => by cases h) ?_
      rintro ⟨received, length, h, -⟩
      cases h
  | ok received =>
      show (contentLength py response.content_length received >>= _) = _ ↔ _
      cases hlength : contentLength py response.content_length received with
      | error e =>
          refine iff_of_false (fun h => by cases h) ?_
          rintro ⟨received', length, hr, hl, -⟩
          rw [← Except.ok.inj hr, hlength] at hl
          cases hl
      | ok length =>
          constructor
          · intro h
            exact ⟨received, length, rfl, hlength, (Except.ok.inj h).symm⟩
          · rintro ⟨received', length', hr, hl, rfl⟩
            rw [← Except.ok.inj hr, hlength] at hl
            rw [← Except.ok.inj hl]
            rfl

/-- No hop lies beyond the budget. -/
theorem Reaches.hop_le {j : Nat} {v : Str} (h : Reaches py settings net method follow i u j v) :
    (j : Int) ≤ max (i : Int) settings.max_redirects := by
  induction h with
  | here hop url => exact le_max_left _ _
  | step hfollow _ ih =>
      obtain ⟨-, response, location, -, hloc, -⟩ := hfollow
      have hlt := lt_of_redirectTarget hloc
      have hnext := max_le_iff.mpr ⟨le_refl settings.max_redirects, Int.add_one_le_of_lt hlt⟩
      omega

/-- A result comes from the last hop. -/
theorem Loop.answered {events : List Event} {out : Except ProbeError HttpCheckResult}
    (h : Loop py settings net method follow url i u events out) {result : HttpCheckResult}
    (hok : out = .ok result) :
    ∃ j v answer response, Reaches py settings net method follow i u j v ∧
      HopAllowed py settings net method j v answer ∧ net.send j method v = .ok response ∧
        redirectTarget settings follow j response = none ∧
          finish py settings net url v j response (sortedSet answer).head? = .ok result := by
  induction h with
  | refused hno hev => cases hok
  | failed hop hsend => cases hok
  | unjoined hop hsend hloc hjoin => cases hok
  | invalid hfollow hop hbad => cases hok
  | finished hop hsend hlast => exact ⟨_, _, _, _, .here _ _, hop, hsend, hlast, hok⟩
  | followed hfollow hop hvalid hrest ih =>
      obtain ⟨j, v, answer, response, hreach, hlast⟩ := ih hok
      exact ⟨j, v, answer, response, .step hfollow hreach, hlast⟩

end Http

section HttpRows

variable {py : Python} {settings : Settings} {crypto : Crypto} {c : HttpCall}

/-- A result is that of the final response. -/
theorem final_of_checkOutcome {result : HttpCheckResult}
    (h : checkOutcome py settings c = .ok result) :
    ∃ u answer response length i, FinalResponse py settings c u answer response length ∧
      result = ⟨c.payload.url, u, true, response.status_code, response.reason_phrase,
        (sortedSet answer).head?, c.net.elapsed_ms, length, response.content_type, response.server,
        i⟩ ∧ (i : Int) ≤ max 0 settings.max_redirects := by
  rcases performHttpCheck_cases py settings c.net c.payload.url c.payload.method
    c.payload.follow_redirects with ⟨e, -, heq⟩ | ⟨hvalid, events, out, hloop, heq⟩
  · rw [checkOutcome, heq] at h
    cases h
  · rw [checkOutcome, heq] at h
    obtain ⟨j, v, answer, response, hreach, hop, hsend, hlast, hfinish⟩ := Loop.answered hloop h
    obtain ⟨received, length, hreceive, hlength, hresult⟩ := finish_iff.mp hfinish
    exact ⟨v, answer, response, length, j, ⟨hvalid, ⟨j, hreach, hop, hsend, hlast⟩,
      received, hreceive, hlength⟩, hresult, Reaches.hop_le hreach⟩

theorem checkOutcome_of_final {u : Str} {answer : List Str} {response : Response}
    {length : Option Int} (h : FinalResponse py settings c u answer response length) :
    ∃ i, checkOutcome py settings c = .ok ⟨c.payload.url, u, true, response.status_code,
      response.reason_phrase, (sortedSet answer).head?, c.net.elapsed_ms, length,
      response.content_type, response.server, i⟩ := by
  obtain ⟨i, hreach, hop, hsend, hlast⟩ := h.last
  obtain ⟨received, hreceive, hlength⟩ := h.read
  refine ⟨i, ?_⟩
  rw [checkOutcome, performHttpCheck_of_reaches hreach hop.valid,
    checkLoop_finished hop hsend hlast]
  exact finish_iff.mpr ⟨received, length, hreceive, hlength, rfl⟩

/-- **When the row of an HTTP check fits.** -/
theorem httpRow_fit_iff {call : Call} {payload : HttpCheckRequest} {data : Option HttpCheckResult}
    {row : ResultRow} (htyped : HttpTyped payload)
    (hrow : resultRow py call (.http payload data) = some row) :
    Fit (resultColumns row) ↔ UrlFits py (detailUrl payload data) ∧ ∀ result, data = some result →
      ValuesFit py result.final_url result.status_code result.reason_phrase result.resolved_ip
        result.response_time_ms result.content_length result.content_type result.server ∧
          (result.redirect_count : Int) ≤ 32767 := by
  have hmethod : fits 8 payload.method = true := by
    rcases htyped.method with h | h
    · rw [h]
      decide
    · rw [h]
      decide
  have htimeout := htyped.timeout_ms
  obtain ⟨parts, hparts, rfl⟩ := Option.map_eq_some_iff.mp
    (show Option.map _ (urlsplit py _) = some row from hrow)
  have hurl : UrlFits py (detailUrl payload data) ↔
      nulFree (orElse (redactUrl py (some (detailUrl payload data))).1 (str "invalid")) = true ∧
        fits 253 ((orElse (hostname py parts) (str "invalid")).take 253) = true := by
    have hhost : recordedHost py (detailUrl payload data) =
        (orElse (hostname py parts) (str "invalid")).take 253 := by
      rw [recordedHost, hparts]
      rfl
    rw [fits_take, ← hhost]
    exact ⟨fun h => ⟨h.requested_url, h.target_host⟩, fun h => ⟨h.1, h.2⟩⟩
  rw [hurl]
  simp only [resultColumns, fit_cons, fit_nil, and_true, takes_text, takes_varchar, takes_integer,
    takes_inet, textOrNull_takes, intOrNull_takes, takes_smallint, takes_bigint]
  cases data with
  | none =>
      constructor
      · rintro ⟨hrequested, hhost, -⟩
        exact ⟨⟨hrequested, hhost⟩, fun _ h => by cases h⟩
      · rintro ⟨⟨hrequested, hhost⟩, -⟩
        refine ⟨hrequested, hhost, hmethod, by omega, ?_⟩
        simp [redactUrl]
  | some result =>
      constructor
      · rintro ⟨hrequested, hhost, -, -, hfinal, hstatus, hreason, hip, htime, hlength, htype,
          hserver, -, hcount⟩
        refine ⟨⟨hrequested, hhost⟩, ?_⟩
        rintro _ ⟨⟩
        exact ⟨⟨hfinal, hstatus _ rfl, hreason _ rfl, hip, htime _ rfl, hlength, htype, hserver⟩,
          hcount⟩
      · rintro ⟨⟨hrequested, hhost⟩, h⟩
        obtain ⟨hvalues, hcount⟩ := h result rfl
        refine ⟨hrequested, hhost, hmethod, by omega, hvalues.final_url, fun _ hs => ?_,
          fun _ hs => ?_, hvalues.resolved_ip, fun _ hs => ?_, hvalues.content_length,
          hvalues.content_type, hvalues.server, ?_, hcount⟩
        · exact Option.some.inj hs ▸ hvalues.status_code
        · exact Option.some.inj hs ▸ hvalues.reason_phrase
        · exact Option.some.inj hs ▸ hvalues.response_time_ms
        · show -32768 ≤ (result.redirect_count : Int)
          omega

theorem failureOf_codeFits (e : ProbeError) :
    CodeFits (failureOf e).code (failureOf e).status_code := by
  cases e <;> (simp only [failureOf]; exact ⟨by decide, by decide⟩)

/-- The row of a failed check fits. -/
theorem failure_fit_iff (hkey : HexDigest crypto) (htyped : HttpTyped c.payload) (e : ProbeError)
    (hdb : c.call.dbFailure = none) :
    RowsFit (failure py settings crypto c (failureOf e)).events ↔
      (Stores settings → urlsplit py c.payload.url ≠ none →
        (RunFits py settings c.call ∧ nulFree ((failureOf e).message.take 500) = true) ∧
          UrlFits py c.payload.url) := by
  have hrecord : (failure py settings crypto c (failureOf e)).events =
      (persistDiagnostic py settings crypto (failedCall c (failureOf e))
        (.http c.payload none)).events :=
    recordFailure_events
  have hsome : (resultRow py (failedCall c (failureOf e)) (.http c.payload none)).isSome = true ↔
      urlsplit py c.payload.url ≠ none := by
    have hbuilt : BuiltByHandler py settings (.http c.payload none) := trivial
    rw [resultRow_isSome, loggable_iff hbuilt]
    constructor
    · exact fun hall => hall c.payload none rfl
    · rintro hne payload data ⟨⟩
      exact hne
  rw [hrecord]
  refine (record_fit_iff hkey hdb (failureOf_codeFits e)).trans (forall_congr' fun _ => ?_)
  constructor
  · intro h hsplit
    obtain ⟨row, hrow⟩ := Option.isSome_iff_exists.mp (hsome.mpr hsplit)
    obtain ⟨hrun, hfit⟩ := h row hrow
    exact ⟨hrun, ((httpRow_fit_iff htyped hrow).mp hfit).1⟩
  · intro h row hrow
    have hsplit := hsome.mp (Option.isSome_iff_exists.mpr ⟨row, hrow⟩)
    obtain ⟨hrun, hurl⟩ := h hsplit
    exact ⟨hrun, (httpRow_fit_iff htyped hrow).mpr ⟨hurl, fun _ h => by cases h⟩⟩

/-- **When the rows of an HTTP check fit.** -/
theorem http_fit_iff (hkey : HexDigest crypto) (hbudget : settings.max_redirects ≤ 32767)
    (htyped : HttpTyped c.payload) (hdb : c.call.dbFailure = none) :
    RowsFit (httpCheck py settings crypto c).events ↔
      (Stores settings → urlsplit py c.payload.url ≠ none → HttpFits py settings c) := by
  cases hout : checkOutcome py settings c with
  | error e =>
      have hnone : ∀ u answer response length,
          ¬ FinalResponse py settings c u answer response length := by
        intro u answer response length hfinal
        obtain ⟨i, hok⟩ := checkOutcome_of_final hfinal
        rw [hout] at hok
        cases hok
      rw [httpCheck, hout]
      dsimp only
      rw [failure_fit_iff hkey htyped e hdb]
      refine forall_congr' fun _ => forall_congr' fun _ => ?_
      constructor
      · rintro ⟨⟨hrun, hmessage⟩, hurl⟩
        refine ⟨hrun, hurl, ?_, fun u answer response length hfinal =>
          absurd hfinal (hnone u answer response length)⟩
        rintro _ hstopped
        obtain ⟨e', hout', rfl⟩ := performHttpCheck_stopped hstopped
        obtain rfl := Except.error.inj (hout.symm.trans hout')
        exact hmessage
      · intro hfits
        refine ⟨⟨hfits.run, ?_⟩, hfits.url⟩
        rcases performHttpCheck_message hout with hplain | hstopped
        · exact nulFree_take hplain
        · exact hfits.stopped _ hstopped
  | ok result =>
      obtain ⟨u, answer, response, length, i, hfinal, hresult, hcount⟩ := final_of_checkOutcome hout
      have hdetail : detailUrl c.payload (some result) = c.payload.url := by
        rw [hresult]
        rfl
      have hsplit : urlsplit py c.payload.url ≠ none := by
        obtain ⟨-, -, -, parts, host, hparts, -⟩ := validateUrl_ok hfinal.valid
        rw [hparts]
        exact Option.some_ne_none _
      have hbuilt : BuiltByHandler py settings (.http c.payload (some result)) := ⟨c.net, hout⟩
      have hlog : loggable py (.http c.payload (some result)) = true := by
        rw [loggable_iff hbuilt]
        rintro payload data ⟨⟩
        exact hsplit
      have hevents : (httpCheck py settings crypto c).events =
          (persistDiagnostic py settings crypto (okCall c)
            (.http c.payload (some result))).events := by
        have hreturned : (persistDiagnostic py settings crypto (okCall c)
            (.http c.payload (some result))).outcome = .ok () := by
          rw [persistDiagnostic_outcome, hlog, if_pos rfl]
        rw [httpCheck, hout]
        dsimp only
        rw [hreturned]
      have hsome : (resultRow py (okCall c) (.http c.payload (some result))).isSome = true :=
        resultRow_isSome.trans hlog
      obtain ⟨row, hrow⟩ := Option.isSome_iff_exists.mp hsome
      rw [hevents]
      refine (record_fit_iff hkey hdb ⟨by decide, by decide⟩).trans (forall_congr' fun _ => ?_)
      constructor
      · intro h _
        obtain ⟨⟨hrun, -⟩, hrowfit⟩ := h row hrow
        obtain ⟨hurl, hdata⟩ := (httpRow_fit_iff htyped hrow).mp hrowfit
        refine ⟨hrun, hdetail ▸ hurl, ?_, fun u' answer' response' length' hfinal' => ?_⟩
        · intro message hstopped
          obtain ⟨e, hfailed, -⟩ := performHttpCheck_stopped hstopped
          have hboth := hout.symm.trans hfailed
          cases hboth
        · obtain ⟨i', hok'⟩ := checkOutcome_of_final hfinal'
          have hsame := Except.ok.inj (hout.symm.trans hok')
          have hvalues := (hdata result rfl).1
          rw [hsame] at hvalues
          exact hvalues
      · intro h row' hrow'
        have hfits := h hsplit
        refine ⟨⟨hfits.run, rfl⟩, (httpRow_fit_iff htyped hrow').mpr ⟨hdetail.symm ▸ hfits.url, ?_⟩⟩
        rintro _ ⟨⟩
        have hvalues := hfits.response u answer response length hfinal
        rw [hresult]
        exact ⟨hvalues, hcount.trans (max_le (by decide) hbudget)⟩

end HttpRows

-- ── Port checks ───────────────────────────────────────────────────────────────────

/-- What the schema checks of the timeout of a `PortCheckRequest`. -/
def PortTyped (payload : PortCheckRequest) : Prop :=
  1000 ≤ payload.timeout_ms ∧ payload.timeout_ms ≤ 10000

/-- The check gets as far as resolving its host. -/
structure Admitted (py : Python) (settings : Settings) (c : PortCall) (host : Str) : Prop where
  valid : validateHost py c.payload.host = .ok host
  allowed : assertPortAllowed settings c.payload.port = .ok ()

/-- What the columns need of the host, its addresses and the attempt to connect: an answer that
    the check has a result for, and a time that fits if it takes one. -/
structure AttemptFits (host : Str) (ips : List Str) (answer : Except ConnectError Unit)
    (elapsed_ms : Int) : Prop where
  host : nulFree host = true
  ips : ∀ ip ∈ ips, isInet ip = true
  known : ∀ name, answer ≠ .error (.other name)
  connection_time_ms : answer ≠ .error .timeoutError →
    -2147483648 ≤ elapsed_ms ∧ elapsed_ms ≤ 2147483647

/-- The resolution gives no address to connect to. -/
def Unresolved (net : TcpNet) (host : Str) : Prop :=
  (resolve net host).outcome = .ok [] ∨
    ∃ message, (resolve net host).outcome = .error (.dnsFailedError message)

/-- What a port check needs so that its rows fit: no exception but the ones it has a code for, and
    no NUL in the host it records, which is the one of the request if the check is refused. -/
structure PortFits (py : Python) (settings : Settings) (c : PortCall) : Prop where
  run : RunFits py settings c.call
  refused : (∀ host, ¬ Admitted py settings c host) → nulFree c.payload.host = true
  resolved : ∀ host e, Admitted py settings c host → (resolve c.net host).outcome = .error e →
    ∃ message, e = .dnsFailedError message
  unresolved : ∀ host, Admitted py settings c host → Unresolved c.net host → nulFree host = true
  blocked : ∀ host ip ips, Admitted py settings c host →
    (resolve c.net host).outcome = .ok (ip :: ips) → assertIpAllowed py settings ip ≠ .ok () →
      nulFree c.payload.host = true ∧ nulFree ((notAllowedMessage ip).take 500) = true
  connected : ∀ host ip ips, Admitted py settings c host →
    (resolve c.net host).outcome = .ok (ip :: ips) → assertIpAllowed py settings ip = .ok () →
      AttemptFits host (ip :: ips) (c.net.open_connection ip c.payload.port) c.net.elapsed_ms

section Port

variable {py : Python} {settings : Settings} {crypto : Crypto} {c : PortCall}

/-- A message is cut like its column, and a row without one has the code instead. -/
theorem orElse_message {message code : Str} (hcode : nulFree code = true) :
    nulFree ((orElse (some message) code).take 500) = nulFree (message.take 500) := by
  cases message with
  | nil =>
      show nulFree (code.take 500) = nulFree (List.take 500 [])
      rw [nulFree_take hcode, List.take_nil]
      rfl
  | cons c cs => rfl

/-- The row of a failed port check: the code of the answer is the result of the connection. -/
theorem port_failed_fit_iff (hkey : HexDigest crypto) (htyped : PortTyped c.payload)
    (hdb : c.call.dbFailure = none) {e : ProbeError}
    (h : (portProbe py settings c).outcome = .error e) :
    RowsFit (portCheck py settings crypto c).events ↔
      (Stores settings → RunFits py settings c.call ∧ nulFree c.payload.host = true ∧
        nulFree ((portFailureOf e).message.take 500) = true ∧
          fits 20 (portFailureOf e).code = true) := by
  have hevents : (portCheck py settings crypto c).events =
      (recordFailure py settings crypto c.call (.tcp c.payload none) (portFailureOf e)).events := by
    rw [portCheck, h, Traced.tryCatch_of_error (e := e) rfl]
    rfl
  have hport := c.payload.port_range
  have htimeout : 1000 ≤ c.payload.timeout_ms ∧ c.payload.timeout_ms ≤ 10000 := htyped
  have hanswer : CodeFits (portFailureOf e).code (portFailureOf e).status_code := by
    cases e <;> (simp only [portFailureOf, internalServerError]; exact ⟨by decide, by decide⟩)
  have hnul : nulFree (portFailureOf e).code = true :=
    (Bool.and_eq_true_iff.mp hanswer.result_code).1
  rw [hevents, recordFailure_events]
  refine (record_fit_iff hkey hdb hanswer).trans (forall_congr' fun _ => ?_)
  constructor
  · intro hall
    obtain ⟨⟨hrun, hmessage⟩, hrow⟩ := hall _ rfl
    simp only [resultColumns, fit_cons, fit_nil, and_true, takes_varchar, fits_take] at hrow
    obtain ⟨hhost, -, -, -, hcode, -⟩ := hrow
    rw [List.take_of_length_le c.payload.host_le] at hhost
    exact ⟨hrun, hhost, hmessage, hcode⟩
  · rintro ⟨hrun, hhost, hmessage, hcode⟩ _ ⟨⟩
    refine ⟨⟨hrun, hmessage⟩, ?_⟩
    simp only [resultColumns, fit_cons, fit_nil, and_true, takes_varchar,
      takes_integer, takes_inets, fits_take]
    refine ⟨nulFree_take hhost, by omega, by omega, rfl, hcode, takes_null, ?_⟩
    exact (orElse_message hnul).trans hmessage

/-- The row of a port check that returns. -/
theorem port_returned_fit_iff (hkey : HexDigest crypto) (htyped : PortTyped c.payload)
    (hdb : c.call.dbFailure = none) {result : PortCheckResult}
    (h : (portProbe py settings c).outcome = .ok result) (hcode : fits 20 result.result = true)
    (hport : result.port = c.payload.port) :
    RowsFit (portCheck py settings crypto c).events ↔
      (Stores settings → RunFits py settings c.call ∧ nulFree (result.host.take 253) = true ∧
        (∀ ip ∈ result.resolved_ips, isInet ip = true) ∧
          (∀ n, result.connection_time_ms = some n → -2147483648 ≤ n ∧ n ≤ 2147483647) ∧
            nulFree (result.message.take 500) = true) := by
  have hrange := c.payload.port_range
  have htimeout : 1000 ≤ c.payload.timeout_ms ∧ c.payload.timeout_ms ≤ 10000 := htyped
  have hevents : (portCheck py settings crypto c).events =
      (recordResult py settings crypto c.call result.isOpen
        (.tcp c.payload (some (portCheckData result)))
        ⟨200, result.result, [], some (.tcp (portCheckData result))⟩).events := by
    rw [portCheck, h]
    rw [Traced.tryCatch_of_ok (a := ⟨200, result.result, [], some (.tcp (portCheckData result))⟩)
      recordResult_outcome]
    rfl
  have hanswer : CodeFits result.result 200 := ⟨fits_mono hcode (by decide), by decide⟩
  rw [hevents, recordResult_events]
  refine (record_fit_iff hkey hdb hanswer).trans (forall_congr' fun _ => ?_)
  constructor
  · intro hall
    obtain ⟨⟨hrun, -⟩, hrow⟩ := hall _ rfl
    simp only [resultColumns, fit_cons, fit_nil, and_true, intOrNull_takes, takes_integer,
      takes_varchar, takes_inets, List.all_eq_true, fits_take] at hrow
    obtain ⟨hhost, -, -, hips, -, htime, hmessage⟩ := hrow
    exact ⟨hrun, hhost, hips, htime, hmessage⟩
  · rintro ⟨hrun, hhost, hips, htime, hmessage⟩ _ ⟨⟩
    refine ⟨⟨hrun, rfl⟩, ?_⟩
    simp only [resultColumns, fit_cons, fit_nil, and_true, takes_varchar, takes_integer,
      takes_inets, List.all_eq_true, intOrNull_takes, fits_take]
    refine ⟨hhost, ?_, by omega, hips, hcode, htime, hmessage⟩
    show -2147483648 ≤ result.port ∧ result.port ≤ 2147483647
    omega

theorem Admitted.host_eq {host host' : Str} (h : Admitted py settings c host)
    (h' : Admitted py settings c host') : host' = host :=
  Except.ok.inj (h'.valid.symm.trans h.valid)

/-- The exceptions of the resolution. -/
theorem resolve_error {net : TcpNet} {host : Str} {e : ProbeError}
    (h : (resolve net host).outcome = .error e) :
    (∃ message, e = .dnsFailedError message) ∨ e = .valueError ∨
      ∃ name, e = .otherException name := by
  rw [resolve] at h
  split at h
  · rename_i e' hs
    rcases socketAddrOrNone_cases net host with hs' | hs' | hs'
    · rw [hs'] at hs
      cases hs
    · rw [hs'] at hs
      cases hs
    · rw [hs'] at hs
      cases hs
      exact Or.inr (Or.inl (Except.error.inj h).symm)
  · cases h
  · cases hanswer : net.getaddrinfo host with
    | ok infos =>
        rw [hanswer] at h
        cases h
    | error failure =>
        rw [hanswer] at h
        cases failure with
        | gaierror text => exact Or.inl ⟨text, (Except.error.inj h).symm⟩
        | other name => exact Or.inr (Or.inr ⟨name, (Except.error.inj h).symm⟩)

/-- A check that is refused before it resolves its host needs only the latter to hold no NUL. -/
theorem portFits_of_refused (hno : ∀ host, ¬ Admitted py settings c host) :
    PortFits py settings c ↔ RunFits py settings c.call ∧ nulFree c.payload.host = true :=
  ⟨fun h => ⟨h.run, h.refused hno⟩, fun h => ⟨h.1, fun _ => h.2,
    fun host _ hadmitted => absurd hadmitted (hno host),
    fun host hadmitted => absurd hadmitted (hno host),
    fun host _ _ hadmitted => absurd hadmitted (hno host),
    fun host _ _ hadmitted => absurd hadmitted (hno host)⟩⟩

/-- What is left to need of an admitted host that has no address. -/
theorem portFits_of_unresolved {host : Str} (hadmitted : Admitted py settings c host)
    (hno : Unresolved c.net host) :
    PortFits py settings c ↔ RunFits py settings c.call ∧ nulFree host = true := by
  have hips : ∀ ip ips, (resolve c.net host).outcome ≠ .ok (ip :: ips) := by
    intro ip ips hres
    rcases hno with h | ⟨message, h⟩
    · rw [h] at hres
      cases hres
    · rw [h] at hres
      cases hres
  refine ⟨fun h => ⟨h.run, h.unresolved host hadmitted hno⟩, fun h => ⟨h.1, fun hnone => ?_, ?_, ?_,
    ?_, ?_⟩⟩
  · exact absurd hadmitted (hnone host)
  · intro host' e hadmitted' he
    rw [hadmitted.host_eq hadmitted'] at he
    rcases hno with hres | ⟨message, hres⟩
    · rw [hres] at he
      cases he
    · exact ⟨message, Except.error.inj (he.symm.trans hres)⟩
  · intro host' hadmitted' _
    rw [hadmitted.host_eq hadmitted']
    exact h.2
  · intro host' ip ips hadmitted' hres
    rw [hadmitted.host_eq hadmitted'] at hres
    exact absurd hres (hips ip ips)
  · intro host' ip ips hadmitted' hres
    rw [hadmitted.host_eq hadmitted'] at hres
    exact absurd hres (hips ip ips)

/-- What is left to need of one that has addresses turns on the first of them. -/
theorem portFits_of_resolved {host ip : Str} {ips : List Str}
    (hadmitted : Admitted py settings c host)
    (hres : (resolve c.net host).outcome = .ok (ip :: ips)) :
    PortFits py settings c ↔ RunFits py settings c.call ∧
      (assertIpAllowed py settings ip ≠ .ok () →
        nulFree c.payload.host = true ∧ nulFree ((notAllowedMessage ip).take 500) = true) ∧
      (assertIpAllowed py settings ip = .ok () →
        AttemptFits host (ip :: ips) (c.net.open_connection ip c.payload.port)
          c.net.elapsed_ms) := by
  refine ⟨fun h => ⟨h.run, h.blocked host ip ips hadmitted hres,
    h.connected host ip ips hadmitted hres⟩, fun h => ⟨h.1, fun hnone => ?_, ?_, ?_, ?_, ?_⟩⟩
  · exact absurd hadmitted (hnone host)
  · intro host' e hadmitted' he
    rw [hadmitted.host_eq hadmitted', hres] at he
    cases he
  · intro host' hadmitted' hno
    rw [hadmitted.host_eq hadmitted', Unresolved, hres] at hno
    rcases hno with h | ⟨message, h⟩
    · cases h
    · cases h
  · intro host' ip' ips' hadmitted' hres' hblocked
    rw [hadmitted.host_eq hadmitted', hres] at hres'
    cases hres'
    exact h.2.1 hblocked
  · intro host' ip' ips' hadmitted' hres' hallowed
    rw [hadmitted.host_eq hadmitted', hres] at hres'
    cases hres'
    rw [hadmitted.host_eq hadmitted']
    exact h.2.2 hallowed

/-- The check of an admitted host that finds no address. -/
theorem port_unresolved_fit_iff (hkey : HexDigest crypto) (htyped : PortTyped c.payload)
    (hdb : c.call.dbFailure = none) {host : Str} (hadmitted : Admitted py settings c host)
    (hno : Unresolved c.net host) :
    RowsFit (portCheck py settings crypto c).events ↔
      (Stores settings → PortFits py settings c) := by
  have hprobe : (portProbe py settings c).outcome = .ok (dnsFailed host c.payload.port) := by
    rw [portProbe_of_valid hadmitted.valid hadmitted.allowed, performPortCheck]
    rcases hno with hres | ⟨message, hres⟩
    · rw [hres]
    · rw [hres]
  have hcode : fits 20 (str "DNS_FAILED") = true := by decide
  have hmessage : nulFree ((dnsFailed host c.payload.port).message.take 500) = true := by
    show nulFree (List.take 500 (str "도메인을 IP로 변환하지 못했습니다.")) = true
    decide
  rw [port_returned_fit_iff hkey htyped hdb hprobe hcode rfl, portFits_of_unresolved hadmitted hno]
  refine forall_congr' fun _ => and_congr_right fun _ => ?_
  have hhost : nulFree ((dnsFailed host c.payload.port).host.take 253) = nulFree host :=
    validateHost_nulFree hadmitted.valid
  rw [hhost]
  exact
    ⟨fun h => h.1, fun h => ⟨h, fun _ hip => (by cases hip), fun _ hn => (by cases hn), hmessage⟩⟩

/-- The message about an open port quotes the host and the port. -/
theorem openMessage_nulFree {host : Str} {port : Int} (hhost : nulFree host = true)
    (hport : 1 ≤ port ∧ port ≤ 65535) :
    nulFree (host ++ ':' :: (toString port).toList ++ str " 포트가 열려 있습니다.") = true := by
  have hcolon : nulFree (':' :: (toString port).toList) = true := by
    rw [← List.singleton_append, nulFree_append, port_nulFree hport]
    rfl
  rw [nulFree_append, nulFree_append, hhost, hcolon]
  decide

/-- The row of a check whose attempt to connect is answered: its message quotes at most the
    host. -/
theorem port_answered_fit_iff (hkey : HexDigest crypto) (htyped : PortTyped c.payload)
    (hdb : c.call.dbFailure = none) {host : Str} {ips : List Str}
    (hadmitted : Admitted py settings c host) {result : PortCheckResult}
    {answer : Except ConnectError Unit}
    (hresult : connectionResult c.net host c.payload.port ips answer = .ok result)
    (h : (portProbe py settings c).outcome = .ok result) :
    RowsFit (portCheck py settings crypto c).events ↔
      (Stores settings → RunFits py settings c.call ∧
        AttemptFits host ips answer c.net.elapsed_ms) := by
  obtain ⟨hhost, hips, hport⟩ : result.host = host ∧ result.resolved_ips = ips ∧
      result.port = c.payload.port := by
    rcases answer with (_ | _ | _ | name) | _
    all_goals cases hresult
    all_goals exact ⟨rfl, rfl, rfl⟩
  have hcode : fits 20 result.result = true := by
    rcases answer with (_ | _ | _ | name) | _
    all_goals cases hresult
    all_goals dsimp only
    all_goals decide
  have hmessage : nulFree host = true → nulFree (result.message.take 500) = true := by
    intro hnul
    refine nulFree_take ?_
    rcases answer with (_ | _ | _ | name) | _
    all_goals cases hresult
    all_goals dsimp only
    · decide
    · decide
    · decide
    · exact openMessage_nulFree hnul c.payload.port_range
  have htime : (∀ n, result.connection_time_ms = some n → -2147483648 ≤ n ∧ n ≤ 2147483647) ↔
      (answer ≠ .error .timeoutError → -2147483648 ≤ c.net.elapsed_ms ∧
        c.net.elapsed_ms ≤ 2147483647) := by
    rcases answer with (_ | _ | _ | name) | _
    all_goals cases hresult
    all_goals simp
  have hknown : ∀ name, answer ≠ .error (.other name) := by
    rintro name rfl
    cases hresult
  rw [port_returned_fit_iff hkey htyped hdb h hcode hport, hhost, hips, htime,
    validateHost_nulFree hadmitted.valid]
  refine forall_congr' fun _ => and_congr_right fun _ => ?_
  exact ⟨fun hfits => ⟨hfits.1, hfits.2.1, hknown, hfits.2.2.1⟩,
    fun hfits => ⟨hfits.host, hfits.ips, hfits.connection_time_ms, hmessage hfits.host⟩⟩

/-- The check of an admitted host that finds addresses. -/
theorem port_resolved_fit_iff (hkey : HexDigest crypto) (htyped : PortTyped c.payload)
    (hdb : c.call.dbFailure = none) {host ip : Str} {ips : List Str}
    (hadmitted : Admitted py settings c host)
    (hres : (resolve c.net host).outcome = .ok (ip :: ips)) :
    RowsFit (portCheck py settings crypto c).events ↔
      (Stores settings → PortFits py settings c) := by
  have hprobe : (portProbe py settings c).outcome =
      (connectFirst py settings c.net host c.payload.port ip (ip :: ips)).outcome := by
    rw [portProbe_of_valid hadmitted.valid hadmitted.allowed, performPortCheck_resolved hres]
  rw [portFits_of_resolved hadmitted hres]
  rw [connectFirst] at hprobe
  by_cases hip : assertIpAllowed py settings ip = .ok ()
  · rw [hip] at hprobe ⊢
    simp only [ne_eq, not_true_eq_false, false_imp_iff, true_imp_iff, true_and]
    cases hanswer : connectionResult c.net host c.payload.port (ip :: ips)
        (c.net.open_connection ip c.payload.port) with
    | ok result =>
        exact port_answered_fit_iff hkey htyped hdb hadmitted hanswer (hprobe.trans hanswer)
    | error e =>
        -- the only answer without a result
        obtain ⟨name, hother, rfl⟩ : ∃ name, c.net.open_connection ip c.payload.port =
            .error (.other name) ∧ e = .otherException name := by
          rcases hopen : c.net.open_connection ip c.payload.port with (_ | _ | _ | name) | _
          all_goals rw [hopen] at hanswer
          all_goals cases hanswer
          exact ⟨name, rfl, rfl⟩
        have hlong : ¬ fits 20 (str "INTERNAL_SERVER_ERROR") = true := by decide
        rw [port_failed_fit_iff hkey htyped hdb (hprobe.trans hanswer)]
        refine forall_congr' fun _ => iff_of_false (fun h => hlong h.2.2.2) fun h => ?_
        exact h.2.known name hother
  · rw [assertIpAllowed_error hip] at hprobe
    have hcode : fits 20 (str "TARGET_NOT_ALLOWED") = true := by decide
    rw [port_failed_fit_iff hkey htyped hdb hprobe]
    refine forall_congr' fun _ => and_congr_right fun _ => ?_
    exact ⟨fun h => ⟨fun _ => ⟨h.1, h.2.1⟩, fun hallowed => absurd hallowed hip⟩,
      fun h => ⟨(h.1 hip).1, (h.1 hip).2, hcode⟩⟩

/-- **When the rows of a port check fit.** -/
theorem port_fit_iff (hkey : HexDigest crypto) (htyped : PortTyped c.payload)
    (hdb : c.call.dbFailure = none) :
    RowsFit (portCheck py settings crypto c).events ↔
      (Stores settings → PortFits py settings c) := by
  cases hhost : validateHost py c.payload.host with
  | error e =>
      obtain ⟨message, rfl, hmessage⟩ := validateHost_message hhost
      have hprobe : (portProbe py settings c).outcome = .error (.validationError message) := by
        rw [portProbe, hhost]
        rfl
      have hcode : fits 20 (str "VALIDATION_ERROR") = true := by decide
      rw [port_failed_fit_iff hkey htyped hdb hprobe, portFits_of_refused]
      · exact forall_congr' fun _ => ⟨fun h => ⟨h.1, h.2.1⟩,
          fun h => ⟨h.1, h.2, nulFree_take hmessage, hcode⟩⟩
      · intro host hadmitted
        rw [hadmitted.valid] at hhost
        cases hhost
  | ok host =>
      cases hport : assertPortAllowed settings c.payload.port with
      | ok _ =>
          have hadmitted : Admitted py settings c host := ⟨hhost, hport⟩
          cases hres : (resolve c.net host).outcome with
          | error e =>
              rcases resolve_error hres with ⟨message, rfl⟩ | hinternal
              · exact port_unresolved_fit_iff hkey htyped hdb hadmitted (Or.inr ⟨message, hres⟩)
              · have hprobe : (portProbe py settings c).outcome = .error e := by
                  rw [portProbe_of_valid hhost hport, performPortCheck, hres]
                  rcases hinternal with rfl | ⟨name, rfl⟩
                  · rfl
                  · rfl
                have hlong : ¬ fits 20 (portFailureOf e).code = true := by
                  rcases hinternal with rfl | ⟨name, rfl⟩
                  · decide
                  · exact (by decide : ¬ fits 20 (str "INTERNAL_SERVER_ERROR") = true)
                rw [port_failed_fit_iff hkey htyped hdb hprobe]
                refine forall_congr' fun _ => iff_of_false (fun h => hlong h.2.2.2) fun hfits => ?_
                obtain ⟨message, rfl⟩ := hfits.resolved host e hadmitted hres
                rcases hinternal with h | ⟨name, h⟩
                · cases h
                · cases h
          | ok ips =>
              cases ips with
              | nil => exact port_unresolved_fit_iff hkey htyped hdb hadmitted (Or.inl hres)
              | cons ip ips => exact port_resolved_fit_iff hkey htyped hdb hadmitted hres
      | error e =>
          obtain ⟨message, rfl, hmessage⟩ := assertPortAllowed_message c.payload.port_range hport
          have hrefused : fits 20 (str "TARGET_NOT_ALLOWED") = true := by decide
          rw [port_failed_fit_iff hkey htyped hdb
            (congrArg Traced.outcome (portProbe_of_refusedPort hhost hport)), portFits_of_refused]
          · exact forall_congr' fun _ => ⟨fun h => ⟨h.1, h.2.1⟩,
              fun h => ⟨h.1, h.2, nulFree_take hmessage, hrefused⟩⟩
          · intro host' hadmitted
            rw [hadmitted.allowed] at hport
            cases hport

end Port

-- ── DNS lookups ───────────────────────────────────────────────────────────────────

/-- What the columns need of an answer, the resolver and the clock.  The records of a `TXT` lookup
    are counted but not stored. -/
structure LookupFits (record_type : Str) (records : List Str) (ttl : Option Int)
    (resolver : Option Str) (lookup_time_ms : Int) : Prop where
  texts : record_type ≠ str "TXT" → ∀ record ∈ records, nulFree record = true
  record_count : (records.length : Int) ≤ 2147483647
  ttl : ∀ n, ttl = some n → -2147483648 ≤ n ∧ n ≤ 2147483647
  resolver : ∀ text, resolver = some text → fits 255 text = true
  lookup_time_ms : -2147483648 ≤ lookup_time_ms ∧ lookup_time_ms ≤ 2147483647

/-- The domain has no records of the type. -/
structure Empty (py : Python) (c : DnsCall) (domain : Str) (nameservers : List Str) : Prop where
  valid : validateDomain py c.payload.domain = .ok domain
  asked : c.net.nameservers = .ok nameservers
  empty : c.net.resolve domain c.payload.record_type = .error .noAnswer

/-- Neither: the lookup fails. -/
structure Failed (py : Python) (c : DnsCall) : Prop where
  unanswered : ∀ domain nameservers answer, ¬ Answered py c domain nameservers answer
  not_empty : ∀ domain nameservers, ¬ Empty py c domain nameservers

/-- What a lookup needs so that its rows fit.  A domain that was looked up has no NUL in it. -/
structure DnsFits (py : Python) (settings : Settings) (c : DnsCall) : Prop where
  run : RunFits py settings c.call
  failed : Failed py c → nulFree c.payload.domain = true
  answer : ∀ domain nameservers answer, Answered py c domain nameservers answer →
    LookupFits c.payload.record_type (answer.rdatas.map (formatRecord c.payload.record_type))
      answer.ttl nameservers.head? c.net.elapsed_ms
  empty : ∀ domain nameservers, Empty py c domain nameservers → -2147483648 ≤ c.call.duration_ms

section Dns

variable {py : Python} {settings : Settings} {crypto : Crypto} {c : DnsCall}

/-- The domain that a row names. -/
def recordedDomain (payload : DnsLookupRequest) (data : Option DnsLookupData) : Str :=
  match data with
  | some result => result.domain
  | none => payload.domain

/-- **When the row of a lookup fits.** -/
theorem dnsRow_fit_iff (py : Python) {call : Call} {payload : DnsLookupRequest}
    {data : Option DnsLookupData}
    {row : ResultRow}
    (htype : ∀ result, data = some result → result.record_type = payload.record_type)
    (hrow : resultRow py call (.dns payload data) = some row) :
    Fit (resultColumns row) ↔ nulFree ((recordedDomain payload data).take 253) = true ∧
      ∀ result, data = some result →
        LookupFits result.record_type result.records result.ttl result.resolver
          result.lookup_time_ms := by
  have hshort : fits 10 payload.record_type = true := by
    have hall : ∀ t ∈ supportedTypes, fits 10 t = true := by decide
    exact hall _ payload.record_type_mem
  obtain rfl := (Option.some.inj hrow).symm
  simp only [resultColumns, fit_cons, fit_nil, and_true, takes_varchar, takes_texts, takes_integer,
    textOrNull_takes, intOrNull_takes, fits_take]
  cases data with
  | none =>
      refine and_congr_right fun _ => iff_of_true ⟨hshort, ?_⟩ fun _ h => by cases h
      simp
  | some result =>
      have hname : fits 10 result.record_type = true := htype result rfl ▸ hshort
      have hrecords :
          (if result.record_type = str "TXT" then [] else result.records).all nulFree = true ↔
          (result.record_type ≠ str "TXT" → ∀ record ∈ result.records, nulFree record = true) := by
        split
        next htxt => exact iff_of_true rfl fun hne => absurd htxt hne
        next hne => exact ⟨fun h _ => List.all_eq_true.mp h, fun h => List.all_eq_true.mpr (h hne)⟩
      refine and_congr_right fun _ => ?_
      constructor
      · rintro ⟨-, htexts, hcount, httl, hresolver, htime⟩ _ ⟨⟩
        exact ⟨hrecords.mp htexts, hcount.2, httl, hresolver, htime _ rfl⟩
      · intro h
        obtain ⟨htexts, hcount, httl, hresolver, htime⟩ := h result rfl
        refine ⟨hname, hrecords.mpr htexts, ⟨?_, hcount⟩, httl, hresolver, ?_⟩
        · exact le_trans (by decide) (Int.natCast_nonneg _)
        · exact fun _ hn => Option.some.inj hn ▸ htime

theorem dnsFailureOf_codeFits (e : DnsProbeError) :
    CodeFits (dnsFailureOf e).code (dnsFailureOf e).status_code := by
  rcases e with e | e
  · cases e <;> (simp only [dnsFailureOf, internalServerError]; exact ⟨by decide, by decide⟩)
  · cases e <;> (simp only [dnsFailureOf, internalServerError]; exact ⟨by decide, by decide⟩)

/-- A lookup that fails needs of its values only that its domain holds no NUL. -/
theorem dns_failed_fit_iff (hkey : HexDigest crypto) (hdb : c.call.dbFailure = none)
    {e : DnsProbeError} (hmessage : nulFree (dnsFailureOf e).message = true) :
    RowsFit
      (recordFailure py settings crypto c.call (.dns c.payload none) (dnsFailureOf e)).events ↔
      (Stores settings → RunFits py settings c.call ∧ nulFree c.payload.domain = true) := by
  have hdomain : (recordedDomain c.payload none).take 253 = c.payload.domain :=
    List.take_of_length_le c.payload.domain_le
  have hnone : ∀ result, (none : Option DnsLookupData) = some result →
      result.record_type = c.payload.record_type := fun _ h => by cases h
  rw [recordFailure_events]
  refine (record_fit_iff hkey hdb (dnsFailureOf_codeFits e)).trans (forall_congr' fun _ => ?_)
  constructor
  · intro h
    obtain ⟨⟨hrun, -⟩, hrow⟩ := h _ rfl
    have hnul := ((dnsRow_fit_iff py hnone rfl).mp hrow).1
    rw [hdomain] at hnul
    exact ⟨hrun, hnul⟩
  · rintro ⟨hrun, hnul⟩ row hrow
    refine ⟨⟨hrun, nulFree_take hmessage⟩, ?_⟩
    rw [dnsRow_fit_iff py hnone hrow, hdomain]
    exact ⟨hnul, fun _ h => by cases h⟩

theorem dnsFits_of_failed (h : Failed py c) :
    DnsFits py settings c ↔ RunFits py settings c.call ∧ nulFree c.payload.domain = true :=
  ⟨fun hfits => ⟨hfits.run, hfits.failed h⟩, fun hfits => ⟨hfits.1, fun _ => hfits.2,
    fun _ _ _ h' => absurd h' (h.unanswered _ _ _), fun _ _ h' => absurd h' (h.not_empty _ _)⟩⟩

/-- How a lookup ends that is neither answered nor without records: its message quotes at most
    the valid domain. -/
theorem dnsLookup_failed (h : Failed py c) :
    ∃ e, nulFree (dnsFailureOf e).message = true ∧ dnsLookup py settings crypto c =
      recordFailure py settings crypto c.call (.dns c.payload none) (dnsFailureOf e) := by
  have hinternal :
      ∀ name, nulFree (dnsFailureOf (.lookup (.otherException name))).message = true := by
    intro name
    show nulFree internalServerError.message = true
    decide
  rw [dnsLookup, dnsProbe]
  cases hdomain : validateDomain py c.payload.domain with
  | error e =>
      obtain ⟨m, rfl, hm⟩ := validateDomain_message hdomain
      exact ⟨.invalid (.validationError m), hm, rfl⟩
  | ok domain =>
      have hnul := validateDomain_nulFree hdomain
      dsimp only
      rw [performDnsLookup]
      cases hservers : c.net.nameservers with
      | error name => exact ⟨.lookup (.otherException name), hinternal name, rfl⟩
      | ok nameservers =>
          dsimp only
          rw [Traced.bind_eq, Traced.bind_tell]
          cases hresolve : c.net.resolve domain c.payload.record_type with
          | ok answer =>
              exact absurd ⟨hdomain, hservers, hresolve⟩ (h.unanswered domain nameservers answer)
          | error failure =>
              cases failure with
              | noAnswer =>
                  exact absurd ⟨hdomain, hservers, hresolve⟩ (h.not_empty domain nameservers)
              | nxdomain =>
                  refine ⟨.lookup (.domainNotFoundError _), ?_, rfl⟩
                  exact (nulFree_append.trans (congrArg _ hnul)).trans (by decide)
              | noNameservers =>
                  refine ⟨.lookup (.domainNotFoundError _), ?_, rfl⟩
                  exact (nulFree_append.trans (congrArg _ hnul)).trans (by decide)
              | timeout =>
                  refine ⟨.lookup (.timeoutError _), ?_, rfl⟩
                  show nulFree (str "DNS 조회 시간이 초과되었습니다.") = true
                  decide
              | other name => exact ⟨.lookup (.otherException name), hinternal name, rfl⟩

theorem dnsLookup_empty {domain : Str} {nameservers : List Str}
    (h : Empty py c domain nameservers) :
    dnsLookup py settings crypto c =
      recordResult py settings crypto c.call true (.dns c.payload (some (noRecordsData py c)))
        ⟨200, str "OK_EMPTY", [], some (.dns (noRecordsData py c))⟩ := by
  rw [dnsLookup, dnsProbe, h.valid]
  dsimp only
  rw [performDnsLookup, h.asked]
  dsimp only
  rw [Traced.bind_eq, Traced.bind_tell, h.empty]
  rfl

/-- The rows of an answered lookup. -/
theorem dns_answered_fit_iff (hkey : HexDigest crypto)
    (hdb : c.call.dbFailure = none) {domain : Str}
    {nameservers : List Str} {answer : DnsAnswer} (h : Answered py c domain nameservers answer) :
    RowsFit (dnsLookup py settings crypto c).events ↔
      (Stores settings → DnsFits py settings c) := by
  have htype : ∀ result, some (dnsLookupData (lookedUp c c.net domain nameservers answer)) =
      some result → result.record_type = c.payload.record_type := by
    rintro _ ⟨⟩
    rfl
  have hdomain : nulFree (domain.take 253) = true := nulFree_take (validateDomain_nulFree h.valid)
  rw [dnsLookup_answered h]
  refine (record_fit_iff hkey hdb ⟨by decide, by decide⟩).trans (forall_congr' fun _ => ?_)
  constructor
  · intro hall
    obtain ⟨⟨hrun, -⟩, hrow⟩ := hall _ rfl
    have hvalues := ((dnsRow_fit_iff py htype rfl).mp hrow).2 _ rfl
    refine ⟨hrun, fun hfailed => absurd h (hfailed.unanswered _ _ _),
      fun domain' nameservers' answer' h' => ?_, fun domain' nameservers' h' => ?_⟩
    · obtain rfl := Except.ok.inj (h.valid.symm.trans h'.valid)
      obtain rfl := Except.ok.inj (h.asked.symm.trans h'.asked)
      obtain rfl := Except.ok.inj (h.answered.symm.trans h'.answered)
      exact hvalues
    · obtain rfl := Except.ok.inj (h.valid.symm.trans h'.valid)
      have hboth := h.answered.symm.trans h'.empty
      cases hboth
  · intro hfits row hrow
    refine ⟨⟨hfits.run, rfl⟩, (dnsRow_fit_iff py htype hrow).mpr ⟨hdomain, ?_⟩⟩
    rintro _ ⟨⟩
    exact hfits.answer domain nameservers answer h

/-- The rows of a lookup without records. -/
theorem dns_empty_fit_iff (hkey : HexDigest crypto) (hdb : c.call.dbFailure = none) {domain : Str}
    {nameservers : List Str} (h : Empty py c domain nameservers) :
    RowsFit (dnsLookup py settings crypto c).events ↔
      (Stores settings → DnsFits py settings c) := by
  have htype : ∀ result, some (noRecordsData py c) = some result →
      result.record_type = c.payload.record_type := by
    rintro _ ⟨⟩
    rfl
  have hdomain : nulFree ((recordedDomain c.payload (some (noRecordsData py c))).take 253) =
      true := by
    have hname : recordedDomain c.payload (some (noRecordsData py c)) = domain := by
      rw [recordedDomain, noRecordsData, h.valid]
    rw [hname]
    exact nulFree_take (validateDomain_nulFree h.valid)
  rw [dnsLookup_empty h, recordResult_events]
  refine (record_fit_iff hkey hdb ⟨(by decide : fits 40 (str "OK_EMPTY") = true), by decide⟩).trans
    (forall_congr' fun _ => ?_)
  constructor
  · intro hall
    obtain ⟨⟨hrun, -⟩, hrow⟩ := hall _ rfl
    have hvalues := ((dnsRow_fit_iff py htype rfl).mp hrow).2 _ rfl
    refine ⟨hrun, fun hfailed => absurd h (hfailed.not_empty _ _),
      fun domain' nameservers' answer' h' => ?_, fun _ _ _ => hvalues.lookup_time_ms.1⟩
    obtain rfl := Except.ok.inj (h.valid.symm.trans h'.valid)
    have hboth := h.empty.symm.trans h'.answered
    cases hboth
  · intro hfits row hrow
    refine ⟨⟨hfits.run, rfl⟩, (dnsRow_fit_iff py htype hrow).mpr ⟨hdomain, ?_⟩⟩
    rintro _ ⟨⟩
    have hzero : ((0 : Nat) : Int) ≤ 2147483647 := by decide
    exact ⟨fun _ _ hr => (by cases hr), hzero, fun _ hn => (by cases hn), fun _ ht => (by cases ht),
      hfits.empty domain nameservers h, hfits.run.duration_ms⟩

/-- **When the rows of a lookup fit.** -/
theorem dns_fit_iff (hkey : HexDigest crypto) (hdb : c.call.dbFailure = none) :
    RowsFit (dnsLookup py settings crypto c).events ↔
      (Stores settings → DnsFits py settings c) := by
  by_cases hanswer : ∃ domain nameservers answer, Answered py c domain nameservers answer
  · obtain ⟨domain, nameservers, answer, h⟩ := hanswer
    exact dns_answered_fit_iff hkey hdb h
  · by_cases hempty : ∃ domain nameservers, Empty py c domain nameservers
    · obtain ⟨domain, nameservers, h⟩ := hempty
      exact dns_empty_fit_iff hkey hdb h
    · have hfailed : Failed py c :=
        ⟨fun domain nameservers answer h => hanswer ⟨domain, nameservers, answer, h⟩,
          fun domain nameservers h => hempty ⟨domain, nameservers, h⟩⟩
      have hends : ∃ e, nulFree (dnsFailureOf e).message = true ∧ dnsLookup py settings crypto c =
          recordFailure py settings crypto c.call (.dns c.payload none) (dnsFailureOf e) :=
        dnsLookup_failed hfailed
      obtain ⟨e, hmessage, he⟩ := hends
      rw [he, dns_failed_fit_iff hkey hdb hmessage, dnsFits_of_failed hfailed]

end Dns

-- ── The three handlers ────────────────────────────────────────────────────────────

/-- **When stored results fit their columns.**  For each handler, in a database that carries out
    what it is given: exactly if nothing is stored, or what comes from outside is within the sizes
    and free of NULs and a port check ends in no exception but the ones it has a code for. -/
theorem stored_fit_iff {settings : Settings} {crypto : Crypto} (hkey : HexDigest crypto)
    (hbudget : settings.max_redirects ≤ 32767) (py : Python) :
    (∀ c : HttpCall, HttpTyped c.payload → c.call.dbFailure = none →
      (RowsFit (httpCheck py settings crypto c).events ↔
        (Stores settings → urlsplit py c.payload.url ≠ none → HttpFits py settings c))) ∧
      (∀ c : PortCall, PortTyped c.payload → c.call.dbFailure = none →
        (RowsFit (portCheck py settings crypto c).events ↔
          (Stores settings → PortFits py settings c))) ∧
      ∀ c : DnsCall, c.call.dbFailure = none →
        (RowsFit (dnsLookup py settings crypto c).events ↔
          (Stores settings → DnsFits py settings c)) :=
  ⟨fun _ htyped hdb => http_fit_iff hkey hbudget htyped hdb,
    fun _ htyped hdb => port_fit_iff hkey htyped hdb, fun _ hdb => dns_fit_iff hkey hdb⟩

/-- Settings under which diagnostics are stored. -/
def storing : Settings := { database_enabled := true, diagnostic_persistence_enabled := true }

/-- A check that is answered with a `Server` header of 256 characters. -/
def longServerCall : HttpCall :=
  { plainCall (str "http://example.com/") (by decide) with
    net := steadyNet { okResponse with server := some (List.replicate 256 'x') } }

/-- A port check of an address whose scope is a null character, which `inet_pton` does not take. -/
def nullScopeCall : PortCall where
  payload := ⟨str "fe80::1%\x00", 443, 3000, by decide, by decide⟩
  net := { mixedNet with inet_pton := fun _ _ => .error .valueError }
  call := bracketCall.call

/-- A port check of a text that is no host and has a null character in it. -/
def nullHostCall : PortCall :=
  { nullScopeCall with payload := ⟨str "a\x00b.com", 443, 3000, by decide, by decide⟩ }

/-- The header does not fit, nor the code of the exception, nor the host. -/
theorem rows_do_not_fit :
    ¬ RowsFit (httpCheck .asciiOnly storing .plain longServerCall).events ∧
      ¬ RowsFit (portCheck .asciiOnly storing .plain nullScopeCall).events ∧
        ¬ RowsFit (portCheck .asciiOnly storing .plain nullHostCall).events := by
  refine ⟨by decide +kernel, by decide +kernel, by decide +kernel⟩

/-- A hash for testing with the digits of a real one. -/
def zeroDigest : Crypto := { Crypto.plain with hmacSha256 := fun _ _ => List.replicate 64 '0' }

theorem zeroDigest_hex : HexDigest zeroDigest := by
  intro secret text
  refine ⟨List.length_replicate, fun c hc => ?_⟩
  rw [List.eq_of_mem_replicate hc]
  rfl

/-- The general result on a lookup without records. -/
theorem empty_lookup_fits :
    RowsFit (dnsLookup .asciiOnly storing zeroDigest otherDomain).events := by
  refine ((stored_fit_iff zeroDigest_hex (by decide) .asciiOnly).2.2 otherDomain
    rfl).mpr fun _ =>
      ⟨⟨by decide, by decide, fun h => (by cases h)⟩, fun h => ?_, fun _ _ _ h => ?_,
      fun _ _ _ => by decide⟩
  · decide
  · have hnone := h.answered
    cases hnone

end NetProbeColumnFit
