import NetProbe.HistoryProofs

/-!
# What the history tells

A diagnostic as it goes through the program: the handler of the request records what it answers,
the record is committed with its details or not at all, and whoever may see it reads it back.
However many diagnostics follow, the history tells what the user was told
(`history_tells_answers`), and goes on telling it.
-/

namespace NetProbeHistoryRecords

open NetProbePyText NetProbeConfig NetProbeSecurity NetProbeCoreAuth NetProbeAccountStore
open NetProbeHttpService NetProbeTcpService NetProbePersistence
  NetProbeProbeHandlers NetProbeHistory
open NetProbeInet NetProbeColumnTypes UniqueTable TracedRun

-- ── Handlers ──────────────────────────────────────────────────────────────────────

/-- A request to one of the three handlers. -/
inductive ProbeCall where
  | http (c : HttpCall)
  | port (c : PortCall)
  | dns (c : DnsCall)

def ProbeCall.call : ProbeCall → Call
  | .http c => c.call
  | .port c => c.call
  | .dns c => c.call

section Handlers

variable (py : Python) (settings : Settings) (crypto : Crypto)

/-- The handler of the request. -/
def ProbeCall.handled : ProbeCall → Traced Sink ProbeError Answer
  | .http c => httpCheck py settings crypto c
  | .port c => portCheck py settings crypto c
  | .dns c => dnsLookup py settings crypto c

/-- The data of a result in the details. -/
def dataOf : Details → Option DiagnosticData
  | .http _ data => data.map .http
  | .tcp _ data => data.map .tcp
  | .dns _ data => data.map .dns

/-- Whether the diagnostic counts as a success: a port that is not open is an answer, but none. -/
def succeeded (answer : Answer) : Bool :=
  match answer.data with
  | none => false
  | some (.http _) => true
  | some (.tcp d) => d.isOpen
  | some (.dns _) => true

/-- The call of `persist_diagnostic` says of the request what the answer says. -/
structure Tells (request recorded : Call) (details : Details) (answer : Answer) : Prop where
  request_id : recorded.request_id = request.request_id
  current_user : recorded.current_user = request.current_user
  result_code : recorded.result_code = answer.code
  api_status_code : recorded.api_status_code = answer.status_code
  error_message : recorded.error_message = if answer.data = none then some answer.message else none
  success : recorded.success = succeeded answer
  data : dataOf details = answer.data

variable {py settings crypto} {call recorded : Call} {details : Details} {run : DiagnosticRun}
  {result : ResultRow} {answer : Answer}

/-- Rows that are written are those of the call, and `persist_diagnostic` returns. -/
theorem persisted_rows
    (h : .rows run result ∈ (persistDiagnostic py settings crypto call details).events) :
    (persistDiagnostic py settings crypto call details).outcome = .ok () ∧
      run = runRow py settings crypto call details.type ∧
        resultRow py call details = some result := by
  rw [persistDiagnostic] at h ⊢
  cases hlog : logEvent py settings crypto call details with
  | none =>
      rw [hlog] at h
      cases h
  | some event =>
      rw [hlog] at h
      dsimp only at h ⊢
      rw [Traced.bind_eq, Traced.bind_tell] at h ⊢
      rcases List.mem_append.mp h with hevent | hrest
      · cases List.mem_singleton.mp hevent
      · by_cases hoff :
          (!(settings.database_enabled && settings.diagnostic_persistence_enabled)) = true
        · rw [if_pos hoff] at hrest
          cases hrest
        · rw [if_neg hoff] at hrest ⊢
          cases hfailure : call.dbFailure with
          | some error_type =>
              rw [hfailure] at hrest
              cases List.mem_singleton.mp hrest
          | none =>
              rw [hfailure] at hrest
              cases hrow : resultRow py call details with
              | none =>
                  rw [hrow] at hrest
                  cases List.mem_singleton.mp hrest
              | some row =>
                  rw [hrow] at hrest
                  cases List.mem_singleton.mp hrest
                  exact ⟨rfl, rfl, rfl⟩

/-- What a handler has written, and answered. -/
def Written (py : Python) (settings : Settings) (crypto : Crypto) (request : Call)
    (handled : Traced Sink ProbeError Answer) : Prop :=
  ∀ run result, .rows run result ∈ handled.events → ∃ recorded details answer,
    handled.outcome = .ok answer ∧ Tells request recorded details answer ∧
      run = runRow py settings crypto recorded details.type ∧
        resultRow py recorded details = some result

/-- A record and its answer. -/
theorem written_of_tells (h : Tells call recorded details answer) :
    Written py settings crypto call
      ((persistDiagnostic py settings crypto recorded details).bind fun _ => .ret answer) := by
  intro run result hrows
  have hevents :
      .rows run result ∈ (persistDiagnostic py settings crypto recorded details).events := by
    cases hout : (persistDiagnostic py settings crypto recorded details).outcome with
    | ok u =>
        rw [Traced.bind_of_ok hout] at hrows
        exact (List.mem_append.mp hrows).resolve_right (List.not_mem_nil)
    | error e =>
        rw [Traced.bind_of_error hout] at hrows
        exact hrows
  obtain ⟨hout, hrun, hresult⟩ := persisted_rows hevents
  refine ⟨recorded, details, answer, ?_, h, hrun, hresult⟩
  rw [Traced.bind_of_ok hout]
  rfl

/-- Rows that are written before an exception would have had their answer. -/
theorem Written.tryCatch {p : Traced Sink ProbeError Answer}
    {handler : ProbeError → Traced Sink ProbeError Answer}
    (hp : Written py settings crypto call p)
    (hhandler : ∀ e, Written py settings crypto call (handler e)) :
    Written py settings crypto call (p.tryCatch handler) := by
  cases hout : p.outcome with
  | ok answer =>
      rw [Traced.tryCatch_of_ok hout]
      exact hp
  | error e =>
      rw [Traced.tryCatch_of_error hout]
      intro run result hrows
      rcases List.mem_append.mp hrows with hbefore | hafter
      · obtain ⟨_, _, _, hok, _⟩ := hp run result hbefore
        rw [hout] at hok
        cases hok
      · exact hhandler e run result hafter

/-- A computation with an answer, caught. -/
theorem tryCatch_bind_ret {p : Traced Sink ProbeError Unit}
    {handler : ProbeError → Traced Sink ProbeError Answer} :
    (p.bind fun _ => .ret answer).tryCatch handler =
      match p.outcome with
      | .ok _ => ⟨p.events, .ok answer⟩
      | .error e => ⟨p.events ++ (handler e).events, (handler e).outcome⟩ := by
  cases hout : p.outcome with
  | ok u =>
      rw [Traced.bind_of_ok hout, Traced.tryCatch_of_ok rfl]
      exact congrArg (Traced.mk · _) (List.append_nil _)
  | error e =>
      rw [Traced.bind_of_error hout]
      rfl

theorem written_recordFailure (hdetails : dataOf details = none) (hanswer : answer.data = none) :
    Written py settings crypto call (recordFailure py settings crypto call details answer) :=
  written_of_tells
    { request_id := rfl
      current_user := rfl
      result_code := rfl
      api_status_code := rfl
      error_message := (if_pos hanswer).symm
      success := by rw [succeeded, hanswer]
      data := hdetails.trans hanswer.symm }

theorem written_recordResult {success : Bool} (hstatus : answer.status_code = 200)
    (hdetails : dataOf details = answer.data) (hdata : answer.data ≠ none)
    (hsuccess : success = succeeded answer) :
    Written py settings crypto call (recordResult py settings crypto call success details answer) :=
  written_of_tells
    { request_id := rfl
      current_user := rfl
      result_code := rfl
      api_status_code := hstatus.symm
      error_message := (if_neg hdata).symm
      success := hsuccess
      data := hdetails }

theorem failureOf_data (e : ProbeError) : (failureOf e).data = none := by
  cases e <;> rfl

theorem portFailureOf_data (e : ProbeError) : (portFailureOf e).data = none := by
  cases e <;> rfl

theorem dnsFailureOf_data (e : DnsProbeError) : (dnsFailureOf e).data = none := by
  rcases e with e | e
  · cases e <;> rfl
  · cases e <;> rfl

theorem written_httpCheck (c : HttpCall) :
    Written py settings crypto c.call (httpCheck py settings crypto c) := by
  have hfailure :
      ∀ e, Written py settings crypto c.call (failure py settings crypto c (failureOf e)) :=
    fun e => written_recordFailure rfl (failureOf_data e)
  rw [httpCheck]
  cases checkOutcome py settings c with
  | error e => exact hfailure e
  | ok result =>
      have hresult : Written py settings crypto c.call
          (recordResult py settings crypto c.call true (.http c.payload (some result))
            ⟨200, str "OK", [], some (.http result)⟩) :=
        written_recordResult rfl rfl (Option.some_ne_none _) rfl
      have hcaught := hresult.tryCatch hfailure
      rw [recordResult, Traced.bind_eq, tryCatch_bind_ret] at hcaught
      exact hcaught

theorem written_portCheck (c : PortCall) :
    Written py settings crypto c.call (portCheck py settings crypto c) := by
  rw [portCheck]
  refine Written.tryCatch ?_ fun e => written_recordFailure rfl (portFailureOf_data e)
  cases (portProbe py settings c).outcome with
  | error e =>
      intro run result hrows
      cases hrows
  | ok result => exact written_recordResult rfl rfl (Option.some_ne_none _) rfl

theorem written_dnsLookup (c : DnsCall) :
    Written py settings crypto c.call (dnsLookup py settings crypto c) := by
  rw [dnsLookup]
  cases (dnsProbe py c).outcome with
  | ok result =>
      refine Written.tryCatch ?_ fun e => written_recordFailure rfl (dnsFailureOf_data _)
      exact written_recordResult rfl rfl (Option.some_ne_none _) rfl
  | error e =>
      rcases e with e | e
      · exact written_recordFailure rfl (dnsFailureOf_data _)
      · cases e with
        | noRecordsError message => exact written_recordResult rfl rfl (Option.some_ne_none _) rfl
        | domainNotFoundError message | timeoutError message | otherException name =>
            exact written_recordFailure rfl (dnsFailureOf_data _)

/-- **What a handler writes is what it answers.** -/
theorem written_handled (c : ProbeCall) :
    Written py settings crypto c.call (c.handled py settings crypto) := by
  cases c with
  | http c => exact written_httpCheck c
  | port c => exact written_portCheck c
  | dns c => exact written_dnsLookup c

end Handlers

-- ── Reports ───────────────────────────────────────────────────────────────────────

/-- The details say what the data of the answer say, as far as they are kept: a URL without its
    query, a text up to the width of its column, no records of type TXT.  An address comes back as
    its canonical text, which names the same address. -/
def Reported (py : Python) : DiagnosticData → DetailData → Prop
  | .http r, .http _ _ _ _ _ _ final_url reachable status_code reason_phrase resolved_ip
      response_time_ms content_length content_type server_header redirect_count =>
      final_url = (redactUrl py (some r.final_url)).1 ∧ reachable = r.reachable ∧
        status_code = some r.status_code ∧ reason_phrase = some (cut 120 r.reason_phrase) ∧
          resolved_ip = r.resolved_ip.map inetText ∧ response_time_ms = some r.response_time_ms ∧
            content_length = r.content_length ∧ content_type = r.content_type.map (cut 255) ∧
              server_header = r.server.map (cut 255) ∧ redirect_count = r.redirect_count
  | .tcp r, .tcp host port _ resolved_ips is_open connection_result connection_time_ms message =>
      host = r.host.take 253 ∧ port = r.port ∧ resolved_ips = r.resolved_ips.map inetText ∧
        is_open = r.isOpen ∧ connection_result = r.result ∧
          connection_time_ms = r.connection_time_ms ∧ message = r.message.take 500
  | .dns r, .dns domain record_type records record_count records_redacted ttl resolver
      lookup_time_ms =>
      domain = r.domain.take 253 ∧ record_type = r.record_type ∧
        records = (if r.record_type = str "TXT" then [] else r.records) ∧
          record_count = r.records.length ∧
            records_redacted = decide (r.record_type = str "TXT") ∧ ttl = r.ttl ∧
              resolver = r.resolver.map (cut 255) ∧ lookup_time_ms = some r.lookup_time_ms
  | _, _ => False

/-- The diagnostic says what the user was answered. -/
structure Reports (py : Python) (d : Diagnostic) (answer : Answer) : Prop where
  api_status_code : d.api_status_code = answer.status_code
  result_code : d.result_code = answer.code
  success : d.success = succeeded answer
  error_message : d.error_message =
    if answer.data = none ∧ answer.message ≠ [] then some (answer.message.take 500) else none
  details : d.details.isSome = true
  data : ∀ data ∈ answer.data, ∃ details ∈ d.details, Reported py data details

section Reporting

variable {py : Python} {settings : Settings} {crypto : Crypto} {request recorded : Call}
  {details : Details}
  {run : StoredRun} {result : ResultRow} {answer : Answer}

theorem reported_resultRow {data : DiagnosticData} (hdata : dataOf details = some data)
    (h : resultRow py recorded details = some result) : Reported py data (detailData result) := by
  cases details with
  | http payload d =>
      obtain ⟨r, rfl, rfl⟩ := Option.map_eq_some_iff.mp hdata
      obtain ⟨parts, -, rfl⟩ := Option.map_eq_some_iff.mp h
      exact ⟨rfl, rfl, rfl, rfl, rfl, rfl, rfl, rfl, rfl, rfl⟩
  | tcp payload d =>
      obtain ⟨r, rfl, rfl⟩ := Option.map_eq_some_iff.mp hdata
      cases h
      exact ⟨rfl, rfl, rfl, rfl, rfl, rfl, rfl⟩
  | dns payload d =>
      obtain ⟨r, rfl, rfl⟩ := Option.map_eq_some_iff.mp hdata
      cases h
      exact ⟨rfl, rfl, by simp, rfl, rfl, rfl, rfl, rfl⟩

/-- The message of a row: the first 500 characters, if there are any. -/
theorem error_message_runRow {type : Str} :
    (runRow py settings crypto recorded type).error_message =
    if recorded.error_message.getD [] = [] then none
      else some ((recorded.error_message.getD []).take 500) := by
  rw [runRow]
  cases recorded.error_message.getD [] with
  | nil => rfl
  | cons c cs => rfl

/-- The row and the details of an answer report it. -/
theorem reports_of_tells (h : Tells request recorded details answer)
    (hrun : run.toDiagnosticRun = runRow py settings crypto recorded details.type)
    (hresult : resultRow py recorded details = some result) :
    Reports py (diagnostic run (some result)) answer where
  api_status_code := (congrArg DiagnosticRun.api_status_code hrun).trans h.api_status_code
  result_code := (congrArg DiagnosticRun.result_code hrun).trans h.result_code
  success := (congrArg DiagnosticRun.success hrun).trans h.success
  error_message := by
    have hmessage : run.error_message = _ :=
      (congrArg DiagnosticRun.error_message hrun).trans error_message_runRow
    show run.error_message = _
    rw [hmessage, h.error_message]
    by_cases hdata : answer.data = none
    · rw [if_pos hdata, Option.getD_some]
      by_cases hempty : answer.message = []
      · rw [if_pos hempty, if_neg fun hboth => hboth.2 hempty]
      · rw [if_neg hempty, if_pos ⟨hdata, hempty⟩]
    · rw [if_neg hdata, Option.getD_none, if_pos rfl, if_neg fun hboth => hdata hboth.1]
  details := rfl
  data := by
    intro data hdata
    exact ⟨detailData result, rfl, reported_resultRow (h.data.trans hdata) hresult⟩

end Reporting

-- ── The store ─────────────────────────────────────────────────────────────────────

section Store

variable {s s' : HistoryStore} {r r' : Recorded}

/-- The run and its details are in the store. -/
structure Stored (r : Recorded) (s : HistoryStore) : Prop where
  run : r.run ∈ s.runs.rows
  result : ∀ table, tableOf r.run.diagnostic_type = some table → r.result ∈ (s.results table).rows

theorem stored_add (hfits : r.Fits s) : Stored r (s.add r) where
  run := by
    rw [HistoryStore.add, alter_rows hfits.1]
    exact List.mem_append_right _ (List.mem_singleton_self _)
  result := by
    intro table htable
    show r.result ∈ (if _ then _ else _ : Table ResultRow resultClash).rows
    rw [if_pos htable, alter_rows (hfits.2 table htable)]
    exact List.mem_append_right _ (List.mem_singleton_self _)

/-- The step lemma: another diagnostic leaves it there. -/
theorem Stored.add (h : Stored r s) (hfits : r'.Fits s) : Stored r (s.add r') where
  run := by
    rw [HistoryStore.add, alter_rows hfits.1]
    exact List.mem_append_left _ h.run
  result := by
    intro table htable
    show r.result ∈ (if _ then _ else _ : Table ResultRow resultClash).rows
    split
    next hother =>
      rw [alter_rows (hfits.2 table hother)]
      exact List.mem_append_left _ (h.result table htable)
    next => exact h.result table htable

/-- **What is stored is read back** by whoever sees the run. -/
theorem Stored.read (h : Stored r s) {settings : Settings} (hdb : settings.database_enabled = true)
    {user_id : Option Uuid} {is_admin : Bool} (hseen : seenBy is_admin user_id r.run = true) :
    getDiagnostic settings s r.run.id user_id is_admin =
      .ok (some (diagnostic r.run (some r.result))) := by
  have hfind : s.runs.rows.find? (fun run => run.id = r.run.id && seenBy is_admin user_id run) =
      some r.run :=
    find?_of_mem runClash_symm find_run_clash h.run (by simp [hseen])
  obtain ⟨table, htable⟩ := Option.isSome_iff_exists.mp r.typed
  have hresult : (s.results table).rows.find? (fun row => runId row = r.run.id) = some r.result :=
    find?_of_mem resultClash_symm find_result_clash (h.result table htable)
      (decide_eq_true r.run_id)
  rw [getDiagnostic, hdb]
  simp only [Bool.not_true, Bool.false_eq_true, if_false]
  rw [hfind]
  dsimp only
  rw [htable]
  dsimp only
  rw [hresult]

end Store

-- ── Over any history ──────────────────────────────────────────────────────────────

section Histories

variable {py : Python} {settings : Settings} {crypto : Crypto} {s s' : HistoryStore}
  {calls calls' before : List ProbeCall}

/-- Requests one after another, in the order of their commits: what a handler wrote is committed, or
    it wrote nothing. -/
inductive Handles (py : Python) (settings : Settings) (crypto : Crypto) :
    HistoryStore → List ProbeCall → HistoryStore → Prop where
  | nil (s : HistoryStore) : Handles py settings crypto s [] s
  | commit {s s' : HistoryStore} {c : ProbeCall} {calls : List ProbeCall} (r : Recorded)
      (hrows : .rows r.run.toDiagnosticRun r.result ∈ (c.handled py settings crypto).events)
      (hfits : r.Fits s) (h : Handles py settings crypto (s.add r) calls s') :
      Handles py settings crypto s (c :: calls) s'
  | nothing {s s' : HistoryStore} {c : ProbeCall} {calls : List ProbeCall}
      (hnone : ∀ run result, .rows run result ∉ (c.handled py settings crypto).events)
      (h : Handles py settings crypto s calls s') : Handles py settings crypto s (c :: calls) s'

/-- Every run is there with its details, as the handler of one of the requests wrote them. -/
def Sourced (py : Python) (settings : Settings) (crypto : Crypto) (calls : List ProbeCall)
    (s : HistoryStore) : Prop :=
  ∀ run ∈ s.runs.rows, ∃ r : Recorded, r.run = run ∧ Stored r s ∧
    ∃ c ∈ calls, .rows r.run.toDiagnosticRun r.result ∈ (c.handled py settings crypto).events

theorem Handles.stored (h : Handles py settings crypto s calls s') {r : Recorded}
    (hr : Stored r s) :
    Stored r s' := by
  induction h with
  | nil s => exact hr
  | commit r' hrows hfits _ ih => exact ih (hr.add hfits)
  | nothing hnone _ ih => exact ih hr

theorem Handles.sourced (h : Handles py settings crypto s calls s')
    (hs : Sourced py settings crypto before s) :
      Sourced py settings crypto (before ++ calls) s' := by
  induction h generalizing before with
  | nil s =>
      rw [List.append_nil]
      exact hs
  | @commit s s' c calls r hrows hfits _ ih =>
      have hadd : Sourced py settings crypto (before ++ [c]) (s.add r) := by
        intro run hrun
        rw [HistoryStore.add, alter_rows hfits.1] at hrun
        rcases List.mem_append.mp hrun with hold | hnew
        · obtain ⟨r', rfl, hstored, c', hc', hrows'⟩ := hs run hold
          exact ⟨r', rfl, hstored.add hfits, c', List.mem_append_left _ hc', hrows'⟩
        · rw [List.mem_singleton.mp hnew]
          exact ⟨r, rfl, stored_add hfits, c,
            List.mem_append_right _ (List.mem_singleton_self c), hrows⟩
      have hrest := ih hadd
      rwa [List.append_assoc, List.singleton_append] at hrest
  | @nothing s s' c calls hnone _ ih =>
      have hkeep : Sourced py settings crypto (before ++ [c]) s := by
        intro run hrun
        obtain ⟨r', hr', hstored, c', hc', hrows'⟩ := hs run hrun
        exact ⟨r', hr', hstored, c', List.mem_append_left _ hc', hrows'⟩
      have hrest := ih hkeep
      rwa [List.append_assoc, List.singleton_append] at hrest

/-- **The history tells what the user was told.**  Over any sequence of requests every run that a
    viewer sees is that of one of them, of the user who made it; the viewer reads a diagnostic that
    reports the answer the handler gave, with its details; and goes on reading it, whatever requests
    follow. -/
theorem history_tells_answers (h : Handles py settings crypto .empty calls s)
    (hdb : settings.database_enabled = true) {run : StoredRun} (hrun : run ∈ s.runs.rows)
    {user_id : Option Uuid} {is_admin : Bool} (hseen : seenBy is_admin user_id run = true) :
    ∃ c ∈ calls, ∃ answer d, (c.handled py settings crypto).outcome = .ok answer ∧
      run.id = c.call.request_id ∧ run.user_id = c.call.current_user.map (·.user_id) ∧
        Reports py d answer ∧
        ∀ calls' s', Handles py settings crypto s calls' s' →
          getDiagnostic settings s' run.id user_id is_admin = .ok (some d) := by
  have hstart : Sourced py settings crypto [] .empty := by
    intro run hrun
    cases hrun
  obtain ⟨r, rfl, hstored, c, hc, hrows⟩ := h.sourced hstart run hrun
  obtain ⟨recorded, details, answer, hanswer, htells, hrunrow, hresult⟩ :=
    written_handled c _ _ hrows
  refine ⟨c, hc, answer, diagnostic r.run (some r.result), hanswer, ?_, ?_,
    reports_of_tells htells hrunrow hresult, fun calls' s' hlater =>
      (hlater.stored hstored).read hdb hseen⟩
  · exact (congrArg DiagnosticRun.id hrunrow).trans htells.request_id
  · exact (congrArg DiagnosticRun.user_id hrunrow).trans
      (congrArg (Option.map _) htells.current_user)

end Histories

/-- A deployment that records, for testing. -/
def recording : Settings := { database_enabled := true, diagnostic_persistence_enabled := true }

/-- A network whose `inet_pton` takes texts of one family, with the port open. -/
def inet6Net : TcpNet where
  inet_pton := fun family _ => if family = .inet6 then .ok () else .error .osError
  getaddrinfo := fun _ => .error (.gaierror [])
  open_connection := fun _ _ => .ok ()
  elapsed_ms := 7

theorem upperCheck_host_le : (str "2606:4700:4700::ABCD").length ≤ 253 := by decide

theorem upperCheck_port_range : (1 : Int) ≤ 443 ∧ (443 : Int) ≤ 65535 := by decide

/-- A port check of an address in upper case, by the user 7. -/
def upperCheck : PortCall where
  payload := ⟨str "2606:4700:4700::ABCD", 443, 3000, upperCheck_host_le, upperCheck_port_range⟩
  net := inet6Net
  call := ⟨⟨str "/api/v1/port-check", none, fun _ => none, fun _ => none⟩, str "run-1",
    some ⟨7, 1, str "operator", str "Operator", .OPERATOR, false⟩, false, [], 0,
      12, 0, none, 5, none⟩

/-- What its handler writes. -/
def upperRecord : Recorded where
  run := ⟨runRow .asciiOnly recording .plain
    { upperCheck.call with success := true, result_code := str "OPEN", api_status_code := 200 }
    (str "TCP"), 5⟩
  result :=
    .tcp (str "run-1") (str "2606:4700:4700::ABCD") 443 3000 [str "2606:4700:4700::ABCD"] true
    (str "OPEN") (some 7) (str "2606:4700:4700::ABCD:443 포트가 열려 있습니다.")
  typed := rfl
  run_id := rfl

/-- The address is answered as it was asked for and read back in its canonical text. -/
theorem open_port_told : ∃ answer d,
    (portCheck .asciiOnly recording .plain upperCheck).outcome = .ok answer ∧
      Reports .asciiOnly d answer ∧
        getDiagnostic recording (HistoryStore.empty.add upperRecord) (str "run-1") (some 7) false =
          .ok (some d) ∧
        d.details = some
          (.tcp (str "2606:4700:4700::ABCD") 443 3000 [str "2606:4700:4700::abcd"] true
          (str "OPEN") (some 7) (str "2606:4700:4700::ABCD:443 포트가 열려 있습니다.")) := by
  have hrows : .rows upperRecord.run.toDiagnosticRun upperRecord.result ∈
      ((ProbeCall.port upperCheck).handled .asciiOnly recording .plain).events := by
    decide +kernel
  have hfits : upperRecord.Fits .empty := by
    exact ⟨List.pairwise_singleton .., fun _ _ => List.pairwise_singleton ..⟩
  have hhandles : Handles .asciiOnly recording .plain .empty [.port upperCheck]
      (HistoryStore.empty.add upperRecord) := .commit upperRecord hrows hfits (.nil _)
  have hrun : upperRecord.run ∈ (HistoryStore.empty.add upperRecord).runs.rows :=
    (stored_add hfits).run
  have hseen : seenBy false (some 7) upperRecord.run = true := rfl
  obtain ⟨c, hc, answer, d, hanswer, _, _, hreports, hread⟩ :=
    history_tells_answers hhandles rfl hrun hseen
  rw [List.mem_singleton.mp hc] at hanswer
  have hfound := hread [] _ (.nil _)
  have hstored : getDiagnostic recording (HistoryStore.empty.add upperRecord) (str "run-1") (some 7)
      false = .ok (some (diagnostic upperRecord.run (some upperRecord.result))) :=
    (stored_add hfits).read rfl hseen
  obtain rfl := Option.some.inj (Except.ok.inj (hfound.symm.trans hstored))
  refine ⟨answer, _, hanswer, hreports, hfound, ?_⟩
  decide +kernel

end NetProbeHistoryRecords
