import NetProbe.AccountStoreProofs
import NetProbe.DictProofs
import NetProbe.JsonTextProofs
import NetProbe.MiddlewareProofs

/-!
# The log file

`JsonLinesFormatter.format` and `log_event` of `app/core/logging.py`, with the events of the
whole program: the diagnostics, the requests, the audit of accounts.  The file is a line of JSON
for each record; a reader of the file finds the records (`log_file_read`), and in them exactly
the events that were logged (`events_read_back`).
-/

namespace NetProbeLogging

open NetProbePyText NetProbeConfig NetProbeCoreAuth NetProbeAccountStore NetProbePersistence
open NetProbeMiddleware JsonText Dictionary

-- ── Records ───────────────────────────────────────────────────────────────────────

/-- `levelname` -/
def levelname : Level → Str
  | .info => str "INFO"
  | .warning => str "WARNING"
  | .error => str "ERROR"

/-- A record: its time as it is written, its message and its traceback, and what `log_event` puts on
    it. -/
structure LogRecord where
  timestamp : Str
  level : Level
  message : Str
  event : Option Str
  event_fields : List (Str × Json)
  error_stacktrace : Option Str

/-- `log_event(logger, level, event, **fields)` -/
def logEvent (timestamp : Str) (level : Level) (event : Str) (fields : List (Str × Json)) :
    LogRecord :=
  ⟨timestamp, level, event, some event, fields, none⟩

/-- `data` -/
def LogRecord.data (environment : Str) (record : LogRecord) : Dict Str Json :=
  let data := Dict.ofList
    [(str "timestamp", .str record.timestamp), (str "level", .str (levelname record.level)),
     (str "service", .str (str "network-diagnostic")), (str "environment", .str environment),
     (str "event", .str (record.event.getD (str "application_log")))]
  let data := data.update record.event_fields
  let data := if record.message = [] then data
    else data.setdefault (str "message") (.str record.message)
  match record.error_stacktrace with
  | some error_stacktrace => data.set (str "error_stacktrace") (.str error_stacktrace)
  | none => data

/-- `json.dumps(data, ensure_ascii=False, separators=(",", ":"))` -/
def compact : Style where
  ensure_ascii := false
  item_separator := [',']
  key_separator := [':']
  item_comma := ⟨0, rfl⟩
  key_colon := ⟨0, rfl⟩

/-- `format(record)` -/
def format (environment : Str) (record : LogRecord) : Str :=
  dumps compact (.obj (record.data environment).entries)

/-- The file after the records. -/
def logFile (environment : Str) (records : List LogRecord) : Str :=
  records.flatMap fun record => format environment record ++ ['\n']

-- ── Events ────────────────────────────────────────────────────────────────────────

/-- `str(value)` of a UUID: 32 hexadecimal digits in five groups. -/
def hexText : Nat → Nat → Str
  | 0, _ => []
  | k + 1, n => hexText k (n / 16) ++ [(n % 16).digitChar]

def uuidText (id : Uuid) : Str :=
  hexText 8 (id / 16 ^ 24) ++ '-' ::
    (hexText 4 (id / 16 ^ 20) ++ '-' :: (hexText 4 (id / 16 ^ 16) ++
    '-' :: (hexText 4 (id / 16 ^ 12) ++ '-' :: hexText 12 id)))

/-- A value that may be `None`. -/
def optional {α : Type} (f : α → Json) : Option α → Json
  | none => .null
  | some a => f a

/-- `safe_details` -/
def detailsData (details : SafeDetails) : List (Str × Json) :=
  (details.role.map fun r => (str "role", Json.str r.text)).toList ++
    (details.status.map fun s => (str "status", Json.str s.text)).toList ++
      (details.count.map fun n => (str "count", Json.int n)).toList

/-- What the program logs. -/
inductive Event where
  | diagnostic (event : LogEvent)
  | http_request (fields : HttpAudit)
  | audit_write_failed (request_id error_type : Str)
  | unhandled_exception (request_id api_path error_type : Str)
  | auth_audit (fields : AuditFields)
  | service_started (version : Str)
  | service_stopped
  deriving DecidableEq, Repr

/-- `**common` -/
def commonData (common : CommonFields) : List (Str × Json) :=
  [(str "request_id", .str common.request_id), (str "api_path", .str common.api_path),
   (str "client_key", optional .str common.client_key), (str "success", .bool common.success),
   (str "duration_ms", .int common.duration_ms)]

/-- `audit_fields` -/
def requestData (fields : HttpAudit) : List (Str × Json) :=
  [(str "request_id", .str fields.request_id), (str "http_method", .str fields.http_method),
   (str "api_path", .str fields.api_path), (str "route_template", .str fields.route_template),
   (str "http_status_code", .int fields.http_status_code), (str "success", .bool fields.success),
   (str "duration_ms", .int fields.duration_ms),
     (str "client_key", optional .str fields.client_key),
   (str "actor_user_id", optional (fun id => .str (uuidText id)) fields.actor_user_id),
   (str "actor_role", optional (fun role => .str role.text) fields.actor_role),
   (str "result_code", optional .str fields.result_code)]

/-- The call of `log_event` for an event. -/
def Event.record (timestamp : Str) : Event → LogRecord
  | .diagnostic (.http_check common target_host target_url http_method http_status_code
      http_response_time_ms) =>
      logEvent timestamp common.level (str "http_check") (commonData common ++
        [(str "target_host", optional .str target_host),
          (str "target_url", optional .str target_url),
         (str "http_method", .str http_method),
           (str "http_status_code", optional .int http_status_code),
         (str "http_response_time_ms", optional .int http_response_time_ms),
         (str "result_code", .str common.result_code)])
  | .diagnostic (.tcp_check common target_host target_port tcp_success tcp_connect_time_ms) =>
      logEvent timestamp common.level (str "tcp_check") (commonData common ++
        [(str "target_host", .str target_host), (str "target_port", .int target_port),
         (str "tcp_success", .bool tcp_success),
           (str "tcp_connect_time_ms", optional .int tcp_connect_time_ms),
         (str "result_code", .str common.result_code)])
  | .diagnostic (.dns_lookup common target_host record_type resolved_ips dns_server
      dns_response_time_ms) =>
      logEvent timestamp common.level (str "dns_lookup") (commonData common ++
        [(str "target_host", .str target_host), (str "record_type", .str record_type),
         (str "resolved_ips", .arr (resolved_ips.map .str)),
           (str "dns_server", optional .str dns_server),
         (str "dns_response_time_ms", optional .int dns_response_time_ms),
         (str "result_code", .str common.result_code)])
  | .diagnostic (.database_write_failed request_id error_type) =>
      logEvent timestamp .error (str "database_write_failed")
        [(str "request_id", .str request_id), (str "operation", .str (str "persist_diagnostic")),
         (str "error_type", .str error_type)]
  | .http_request fields =>
      logEvent timestamp fields.level (str "http_request") (requestData fields)
  | .audit_write_failed request_id error_type =>
      logEvent timestamp .error (str "database_write_failed")
        [(str "request_id", .str request_id), (str "operation", .str (str "persist_http_audit")),
         (str "error_type", .str error_type)]
  | .unhandled_exception request_id api_path error_type =>
      logEvent timestamp .error (str "unhandled_exception")
        [(str "request_id", .str request_id), (str "api_path", .str api_path),
         (str "error_type", .str error_type)]
  | .auth_audit fields =>
      logEvent timestamp (if fields.outcome = str "SUCCESS" then .info else .warning)
        (str "auth_audit")
        [(str "event_type", .str fields.event_type), (str "outcome", .str fields.outcome),
         (str "actor_user_id", optional (fun id => .str (uuidText id)) fields.actor_user_id),
         (str "target_user_id", optional (fun id => .str (uuidText id)) fields.target_user_id),
         (str "reason_code", optional .str fields.reason_code),
         (str "client_key", optional .str fields.client_key),
         (str "details", .obj (detailsData fields.details))]
  | .service_started version =>
      logEvent timestamp .info (str "service_started")
        [(str "host", .str (str "0.0.0.0")), (str "version", .str version)]
  | .service_stopped =>
      logEvent timestamp .info (str "service_stopped") [(str "reason", .str (str "shutdown"))]

-- ── Reading ───────────────────────────────────────────────────────────────────────

def readStr : Json → Option Str
  | .str s => some s
  | _ => none

def readInt : Json → Option Int
  | .int n => some n
  | _ => none

def readBool : Json → Option Bool
  | .bool b => some b
  | _ => none

def readOptional {α : Type} (f : Json → Option α) : Json → Option (Option α)
  | .null => some none
  | v => (f v).map some

def readLevel (v : Json) : Option Level :=
  (readStr v).bind fun s =>
    if s = str "INFO" then some .info
    else if s = str "WARNING" then some .warning
    else if s = str "ERROR" then some .error
    else none

def readRole (v : Json) : Option Role :=
  (readStr v).bind fun s =>
    if s = str "ADMIN" then some .ADMIN
    else if s = str "OPERATOR" then some .OPERATOR
    else if s = str "VIEWER" then some .VIEWER
    else none

def readStatus (v : Json) : Option AccountStatus :=
  (readStr v).bind fun s =>
    if s = str "PENDING" then some .PENDING
    else if s = str "ACTIVE" then some .ACTIVE
    else if s = str "LOCKED" then some .LOCKED
    else if s = str "DISABLED" then some .DISABLED
    else none

def readHex (s : Str) : Option Nat :=
  s.foldl (fun n c => n.bind fun n => (hexValue c).map fun d => n * 16 + d) (some 0)

def readUuid (v : Json) : Option Uuid :=
  (readStr v).bind fun s => readHex (s.filter (· ≠ '-'))

def readStrs : Json → Option (List Str)
  | .arr vs => vs.mapM readStr
  | _ => none

/-- A key that is there only if it has a value. -/
def readPresent {α : Type} (f : Json → Option α) : Option Json → Option (Option α)
  | none => some none
  | some v => (f v).map some

def readDetails : Json → Option SafeDetails
  | .obj entries => do
      let role ← readPresent readRole (valueOf entries (str "role"))
      let status ← readPresent readStatus (valueOf entries (str "status"))
      let count ← readPresent readInt (valueOf entries (str "count"))
      return ⟨role, status, count.map Int.toNat⟩
  | _ => none

section Reading

variable (get : Str → Option Json)

/-- The value of a key. -/
def readKey {α : Type} (key : Str) (f : Json → Option α) : Option α := (get key).bind f

def readCommon : Option CommonFields := do
  let level ← readKey get (str "level") readLevel
  let request_id ← readKey get (str "request_id") readStr
  let api_path ← readKey get (str "api_path") readStr
  let client_key ← readKey get (str "client_key") (readOptional readStr)
  let success ← readKey get (str "success") readBool
  let duration_ms ← readKey get (str "duration_ms") readInt
  let result_code ← readKey get (str "result_code") readStr
  return ⟨level, request_id, api_path, client_key, success, duration_ms, result_code⟩

def readHttpCheck : Option Event := do
  let common ← readCommon get
  let target_host ← readKey get (str "target_host") (readOptional readStr)
  let target_url ← readKey get (str "target_url") (readOptional readStr)
  let http_method ← readKey get (str "http_method") readStr
  let http_status_code ← readKey get (str "http_status_code") (readOptional readInt)
  let http_response_time_ms ← readKey get (str "http_response_time_ms") (readOptional readInt)
  return .diagnostic
    (.http_check common target_host target_url http_method http_status_code http_response_time_ms)

def readTcpCheck : Option Event := do
  let common ← readCommon get
  let target_host ← readKey get (str "target_host") readStr
  let target_port ← readKey get (str "target_port") readInt
  let tcp_success ← readKey get (str "tcp_success") readBool
  let tcp_connect_time_ms ← readKey get (str "tcp_connect_time_ms") (readOptional readInt)
  return .diagnostic (.tcp_check common target_host target_port tcp_success tcp_connect_time_ms)

def readDnsLookup : Option Event := do
  let common ← readCommon get
  let target_host ← readKey get (str "target_host") readStr
  let record_type ← readKey get (str "record_type") readStr
  let resolved_ips ← readKey get (str "resolved_ips") readStrs
  let dns_server ← readKey get (str "dns_server") (readOptional readStr)
  let dns_response_time_ms ← readKey get (str "dns_response_time_ms") (readOptional readInt)
  return .diagnostic
    (.dns_lookup common target_host record_type resolved_ips dns_server dns_response_time_ms)

def readWriteFailed : Option Event := do
  let request_id ← readKey get (str "request_id") readStr
  let operation ← readKey get (str "operation") readStr
  let error_type ← readKey get (str "error_type") readStr
  if operation = str "persist_diagnostic" then
    return .diagnostic (.database_write_failed request_id error_type)
  else return .audit_write_failed request_id error_type

def readHttpRequest : Option Event := do
  let level ← readKey get (str "level") readLevel
  let request_id ← readKey get (str "request_id") readStr
  let http_method ← readKey get (str "http_method") readStr
  let api_path ← readKey get (str "api_path") readStr
  let route_template ← readKey get (str "route_template") readStr
  let http_status_code ← readKey get (str "http_status_code") readInt
  let success ← readKey get (str "success") readBool
  let duration_ms ← readKey get (str "duration_ms") readInt
  let client_key ← readKey get (str "client_key") (readOptional readStr)
  let actor_user_id ← readKey get (str "actor_user_id") (readOptional readUuid)
  let actor_role ← readKey get (str "actor_role") (readOptional readRole)
  let result_code ← readKey get (str "result_code") (readOptional readStr)
  return .http_request ⟨level, request_id, http_method, api_path, route_template, http_status_code,
    success, duration_ms, client_key, actor_user_id, actor_role, result_code⟩

def readUnhandledException : Option Event := do
  let request_id ← readKey get (str "request_id") readStr
  let api_path ← readKey get (str "api_path") readStr
  let error_type ← readKey get (str "error_type") readStr
  return .unhandled_exception request_id api_path error_type

def readAuthAudit : Option Event := do
  let event_type ← readKey get (str "event_type") readStr
  let outcome ← readKey get (str "outcome") readStr
  let actor_user_id ← readKey get (str "actor_user_id") (readOptional readUuid)
  let target_user_id ← readKey get (str "target_user_id") (readOptional readUuid)
  let reason_code ← readKey get (str "reason_code") (readOptional readStr)
  let client_key ← readKey get (str "client_key") (readOptional readStr)
  let details ← readKey get (str "details") readDetails
  return .auth_audit ⟨event_type, outcome, actor_user_id, target_user_id,
    reason_code, client_key, none, details⟩

def readServiceStarted : Option Event := do
  let version ← readKey get (str "version") readStr
  return .service_started version

/-- The event of a dictionary. -/
def readData : Option Event :=
  (readKey get (str "event") readStr).bind fun name =>
    if name = str "http_check" then readHttpCheck get
    else if name = str "tcp_check" then readTcpCheck get
    else if name = str "dns_lookup" then readDnsLookup get
    else if name = str "database_write_failed" then readWriteFailed get
    else if name = str "http_request" then readHttpRequest get
    else if name = str "unhandled_exception" then readUnhandledException get
    else if name = str "auth_audit" then readAuthAudit get
    else if name = str "service_started" then readServiceStarted get
    else if name = str "service_stopped" then some .service_stopped
    else none

end Reading

/-- The event of an object. -/
def readObject : Json → Option Event
  | .obj entries => readData (valueOf entries)
  | _ => none

/-- The event of a line. -/
def readLine (line : Str) : Option Event := (loads line).bind readObject

-- ── Values are read back ──────────────────────────────────────────────────────────

section Values

variable {α : Type} {f : Json → Option α} {g : α → Json}

@[simp] theorem str_inj {a b : String} : str a = str b ↔ a = b := String.toList_inj

@[simp] theorem str_eq_nil {a : String} : str a = [] ↔ a = "" := str_inj (b := "")

@[simp] theorem readLevel_levelname (level : Level) :
    readLevel (.str (levelname level)) = some level := by
  cases level <;> simp [readLevel, readStr, levelname]

@[simp] theorem readRole_text (role : Role) : readRole (.str role.text) = some role := by
  cases role <;> simp [readRole, readStr, Role.text]

@[simp] theorem readStatus_text (status : AccountStatus) :
    readStatus (.str status.text) = some status := by
  cases status <;> simp [readStatus, readStr, AccountStatus.text]

/-- `None` is read as such, if no value is written like it. -/
theorem readOptional_optional (hg : ∀ a, g a ≠ .null) {o : Option α}
    (hf : ∀ a ∈ o, f (g a) = some a) :
    readOptional f (optional g o) = some o := by
  cases o with
  | none => rfl
  | some a =>
      rw [optional]
      unfold readOptional
      split
      next hnull => exact absurd hnull (hg a)
      next => rw [hf a rfl]; rfl

@[simp] theorem readOptional_str (o : Option Str) :
    readOptional readStr (optional .str o) = some o :=
  readOptional_optional (fun a h => by cases h) fun _ _ => rfl

@[simp] theorem readOptional_int (o : Option Int) :
    readOptional readInt (optional .int o) = some o :=
  readOptional_optional (fun a h => by cases h) fun _ _ => rfl

@[simp] theorem readOptional_role (o : Option Role) :
    readOptional readRole (optional (fun role => .str role.text) o) = some o :=
  readOptional_optional (fun a h => by cases h) fun role _ => readRole_text role

@[simp] theorem readStrs_map (ss : List Str) : readStrs (.arr (ss.map .str)) = some ss := by
  show (ss.map Json.str).mapM readStr = some ss
  induction ss with
  | nil => rfl
  | cons s ss ih =>
      rw [List.map_cons, List.mapM_cons, ih]
      rfl

/-- Hexadecimal digits are not dashes. -/
theorem dash_not_mem_hexText {k n : Nat} : '-' ∉ hexText k n := by
  induction k generalizing n with
  | zero => exact List.not_mem_nil
  | succ k ih =>
      rw [hexText, List.mem_append, not_or]
      have hall : ∀ d < 16, '-' ∉ [d.digitChar] := by decide
      exact ⟨ih, hall _ (Nat.mod_lt _ (by decide))⟩

theorem hexText_split {k l n : Nat} : hexText (k + l) n =
    hexText k (n / 16 ^ l) ++ hexText l n := by
  induction l generalizing n with
  | zero => simp [hexText]
  | succ l ih =>
      rw [← Nat.add_assoc, hexText, hexText, ih, Nat.div_div_eq_div_mul, List.append_assoc]
      rw [Nat.pow_succ, Nat.mul_comm]

theorem readHex_hexText {k n : Nat} (h : n < 16 ^ k) : readHex (hexText k n) = some n := by
  induction k generalizing n with
  | zero =>
      rw [Nat.pow_zero, Nat.lt_one_iff] at h
      rw [h]
      rfl
  | succ k ih =>
      have hprefix : readHex (hexText k (n / 16)) = some (n / 16) :=
        ih (Nat.div_lt_of_lt_mul (by rwa [Nat.mul_comm, ← Nat.pow_succ]))
      rw [readHex] at hprefix ⊢
      rw [hexText, List.foldl_append, hprefix]
      show (hexValue (n % 16).digitChar).map _ = _
      rw [hexValue_digitChar _ (Nat.mod_lt _ (by decide)), Option.map_some, Nat.div_add_mod']

/-- **A UUID is read back.** -/
theorem readUuid_uuidText {id : Uuid} (h : id < 2 ^ 128) :
    readUuid (.str (uuidText id)) = some id := by
  have hdashes : (uuidText id).filter (· ≠ '-') = hexText 32 id := by
    have hdash : ∀ k n, (hexText k n).filter (· ≠ '-') = hexText k n := fun k n =>
      List.filter_eq_self.mpr fun c hc => decide_eq_true fun h => dash_not_mem_hexText (h ▸ hc)
    have hcons : ∀ s : Str, ('-' :: s).filter (· ≠ '-') = s.filter (· ≠ '-') := fun s =>
      List.filter_cons_of_neg (by decide)
    have hdiv : ∀ l m, id / 16 ^ l / 16 ^ m = id / 16 ^ (l + m) := fun l m => by
      rw [Nat.div_div_eq_div_mul, ← Nat.pow_add]
    have h₁ : hexText 32 id = hexText 20 (id / 16 ^ 12) ++ hexText 12 id :=
      hexText_split (k := 20) (l := 12)
    have h₂ : hexText 20 (id / 16 ^ 12) = hexText 16 (id / 16 ^ 16) ++
        hexText 4 (id / 16 ^ 12) := by
      rw [← hdiv 12 4]
      exact hexText_split (k := 16) (l := 4)
    have h₃ : hexText 16 (id / 16 ^ 16) = hexText 12 (id / 16 ^ 20) ++
        hexText 4 (id / 16 ^ 16) := by
      rw [← hdiv 16 4]
      exact hexText_split (k := 12) (l := 4)
    have h₄ : hexText 12 (id / 16 ^ 20) = hexText 8 (id / 16 ^ 24) ++ hexText 4 (id / 16 ^ 20) := by
      rw [← hdiv 20 4]
      exact hexText_split (k := 8) (l := 4)
    rw [uuidText, h₁, h₂, h₃, h₄]
    simp only [List.filter_append, hcons, hdash, List.append_assoc]
  show readHex ((uuidText id).filter (· ≠ '-')) = some id
  rw [hdashes]
  exact readHex_hexText (Nat.lt_of_lt_of_le h (by decide))

theorem readOptional_uuid {o : Option Uuid} (h : ∀ id ∈ o, id < 2 ^ 128) :
    readOptional readUuid (optional (fun id => .str (uuidText id)) o) = some o :=
  readOptional_optional (fun a h => by cases h) fun id hid => readUuid_uuidText (h id hid)

/-- **The allow-listed details are read back.** -/
@[simp] theorem readDetails_detailsData (details : SafeDetails) :
    readDetails (.obj (detailsData details)) = some details := by
  obtain ⟨role, status, count⟩ := details
  -- each of the three keys is there or not
  cases role with
  | none =>
      cases status with
      | none => cases count <;> simp [readDetails, detailsData, readPresent, readInt]
      | some status =>
          cases count <;> simp [readDetails, detailsData, readPresent, readInt]
  | some role =>
      cases status with
      | none => cases count <;> simp [readDetails, detailsData, readPresent, readInt]
      | some status =>
          cases count <;> simp [readDetails, detailsData, readPresent, readInt]

end Values

-- ── Events are read back ──────────────────────────────────────────────────────────

section Events

variable {environment timestamp : Str} {level : Level} {event : Str} {fields : List (Str × Json)}

/-- What a record of `log_event` holds: its fields, and below them what every record has. -/
theorem get_data {key : Str} (hevent : event ≠ []) (hkey : key ≠ str "message") :
    ((logEvent timestamp level event fields).data environment).get key =
      (valueOf fields.reverse key).or
        (if key = str "event" then some (.str event)
        else if key = str "environment" then some (.str environment)
        else if key = str "service" then some (.str (str "network-diagnostic"))
        else if key = str "level" then some (.str (levelname level))
        else if key = str "timestamp" then some (.str timestamp)
        else none) := by
  have hmessage : (logEvent timestamp level event fields).message ≠ [] := hevent
  rw [LogRecord.data, if_neg hmessage]
  show ((Dict.update (Dict.ofList
    [(str "timestamp", .str timestamp), (str "level", .str (levelname level)),
     (str "service", .str (str "network-diagnostic")), (str "environment", .str environment),
     (str "event", .str event)]) fields).setdefault (str "message") (.str event)).get key = _
  rw [Dict.get_setdefault, if_neg hkey, Dict.get_update, Dict.ofList, Dict.get_update]
  rw [Dict.get_empty, Option.or_none]
  simp only [List.reverse_cons, List.reverse_nil, List.nil_append, List.cons_append, valueOf_cons,
    valueOf_nil]

/-- The ids of an event are UUIDs, and the session of an audit event is not logged. -/
def Event.Logged : Event → Prop
  | .http_request fields => ∀ id ∈ fields.actor_user_id, id < 2 ^ 128
  | .auth_audit fields => (∀ id ∈ fields.actor_user_id, id < 2 ^ 128) ∧
      (∀ id ∈ fields.target_user_id, id < 2 ^ 128) ∧ fields.session_id = none
  | _ => True

/-- **An event is read back.** -/
theorem readData_record (e : Event) (h : e.Logged) :
    readData ((e.record timestamp).data environment).get = some e := by
  cases e with
  | diagnostic event =>
      cases event with
      | http_check common =>
          simp [Event.record, commonData, get_data, readData, readHttpCheck,
            readCommon, readKey, readStr, readInt, readBool]
      | tcp_check common =>
          simp [Event.record, commonData, get_data, readData, readTcpCheck,
            readCommon, readKey, readStr, readInt, readBool]
      | dns_lookup common =>
          simp [Event.record, commonData, get_data, readData, readDnsLookup,
            readCommon, readKey, readStr, readInt, readBool]
      | database_write_failed =>
          simp [Event.record, get_data, readData, readWriteFailed, readKey, readStr]
  | http_request fields =>
      have hactor := readOptional_uuid h
      simp [Event.record, requestData, get_data, readData, readHttpRequest,
        readKey, readStr, readInt, readBool, hactor]
  | audit_write_failed =>
      simp [Event.record, get_data, readData, readWriteFailed, readKey, readStr]
  | unhandled_exception =>
      simp [Event.record, get_data, readData, readUnhandledException, readKey, readStr]
  | auth_audit fields =>
      obtain ⟨hactor, htarget, hsession⟩ := h
      have hactor' := readOptional_uuid hactor
      have htarget' := readOptional_uuid htarget
      obtain ⟨event_type, outcome, actor_user_id, target_user_id, reason_code,
        client_key, session_id, details⟩ := fields
      dsimp only at hsession hactor' htarget'
      subst hsession
      simp [Event.record, get_data, readData, readAuthAudit, readKey, readStr, hactor', htarget']
  | service_started =>
      simp [Event.record, get_data, readData, readServiceStarted, readKey, readStr]
  | service_stopped => simp [Event.record, get_data, readData, readKey, readStr]

end Events

-- ── The file ──────────────────────────────────────────────────────────────────────

section File

variable {environment : Str} {records : List LogRecord}

theorem logFile_dumpsLines : logFile environment records =
    dumpsLines compact (records.map fun record => .obj (record.data environment).entries) := by
  rw [logFile, dumpsLines, List.flatMap_map]
  rfl

theorem loads_logFile : (lines (logFile environment records)).map loads =
    records.map fun record => some (.obj (record.data environment).entries) := by
  rw [logFile_dumpsLines, lines_dumpsLines, List.map_map]
  rfl

/-- **The file is read back**, whatever the records hold: its lines are the records in their order,
    and at any moment what has been written of it shows the first of them. -/
theorem log_file_read (environment : Str) (records : List LogRecord) :
    (lines (logFile environment records)).map loads =
        records.map (fun record => some (.obj (record.data environment).entries)) ∧
      ∀ seen, seen <+: logFile environment records → (lines seen).map loads <+:
        records.map fun record => some (.obj (record.data environment).entries) := by
  refine ⟨loads_logFile, ?_⟩
  intro seen hseen
  rw [logFile_dumpsLines] at hseen
  have hprefix := lines_of_prefix hseen
  rwa [List.map_map] at hprefix

/-- **The events are read back** from the file, of every kind and with every value. -/
theorem events_read_back (environment : Str) (events : List (Str × Event))
    (h : ∀ e ∈ events, e.2.Logged) :
    (lines (logFile environment (events.map fun e => e.2.record e.1))).map readLine =
      events.map fun e => some e.2 := by
  calc (lines (logFile environment (events.map fun e => e.2.record e.1))).map readLine
      = ((lines (logFile environment (events.map fun e => e.2.record e.1))).map loads).map
          (Option.bind · readObject) := by
        rw [List.map_map]
        rfl
    _ = events.map fun e => readObject (.obj ((e.2.record e.1).data environment).entries) := by
        rw [loads_logFile, List.map_map, List.map_map]
        rfl
    _ = events.map fun e => some e.2 :=
        List.map_congr_left fun e he => readData_record e.2 (h e he)

/-- A start, a request, a change of an account and a stop. -/
def sampleEvents : List (Str × Event) :=
  [(str "2026-01-01T00:00:00.000Z", .service_started (str "1.0.0")),
   (str "2026-01-01T00:00:01.000Z",
     .http_request ⟨.info, str "r1", str "GET", str "/a\nb", str "/a", 200, true,
     3, none, some 7, some .ADMIN, none⟩),
   (str "2026-01-01T00:00:02.000Z", .auth_audit
     { event_type := str "USER_CREATED", outcome := str "SUCCESS", actor_user_id := some 7
       details := { role := some .VIEWER } }),
   (str "2026-01-01T00:00:03.000Z", .service_stopped)]

theorem sampleEvents_logged : ∀ e ∈ sampleEvents, e.2.Logged := by
  simp [sampleEvents, Event.Logged]

/-- The general result on four events. -/
theorem sample_events_read :
    (lines (logFile (str "production") (sampleEvents.map fun e => e.2.record e.1))).map readLine =
      sampleEvents.map fun e => some e.2 :=
  events_read_back (str "production") sampleEvents sampleEvents_logged

end File

-- ── The columns of the audit tables ───────────────────────────────────────────────

/-- `json.dumps(value)` -/
def standard : Style where
  ensure_ascii := true
  item_separator := [',', ' ']
  key_separator := [':', ' ']
  item_comma := ⟨1, rfl⟩
  key_colon := ⟨1, rfl⟩

def detailKeys : List Str := [str "role", str "status", str "count"]

/-- `safe_details` of the details a caller passes -/
def safeDetails (details : Dict Str Json) : List (Str × Json) :=
  detailKeys.filterMap fun key => (details.get key).map fun value => (key, value)

def fieldKeys : List Str :=
  [str "request_id", str "http_method", str "api_path", str "route_template",
    str "http_status_code", str "success", str "duration_ms", str "actor_role", str "result_code"]

/-- `safe_fields` of the fields of a request -/
def safeFields (fields : Dict Str Json) : List (Str × Json) :=
  fieldKeys.map fun key => (key, (fields.get key).getD .null)

/-- `details` of `auth_audit_events` -/
def detailsColumn (details : Dict Str Json) : Str := dumps standard (.obj (safeDetails details))

/-- `details` of `audit_events` -/
def fieldsColumn (fields : Dict Str Json) : Str := dumps standard (.obj (safeFields fields))

def readSafeFields : Json → Option SafeFields
  | .obj entries => do
      let get := valueOf entries
      let request_id ← readKey get (str "request_id") readStr
      let http_method ← readKey get (str "http_method") readStr
      let api_path ← readKey get (str "api_path") readStr
      let route_template ← readKey get (str "route_template") readStr
      let http_status_code ← readKey get (str "http_status_code") readInt
      let success ← readKey get (str "success") readBool
      let duration_ms ← readKey get (str "duration_ms") readInt
      let actor_role ← readKey get (str "actor_role") (readOptional readRole)
      let result_code ← readKey get (str "result_code") (readOptional readStr)
      return ⟨request_id, http_method, api_path, route_template, http_status_code,
        success, duration_ms, actor_role, result_code⟩
  | _ => none

section Columns

variable {details fields : Dict Str Json} {key : Str} {value : Json}

theorem mem_safeDetails :
    (key, value) ∈ safeDetails details ↔ key ∈ detailKeys ∧ details.get key = some value := by
  rw [safeDetails, List.mem_filterMap]
  constructor
  · rintro ⟨k, hk, hmap⟩
    obtain ⟨v, hv, hpair⟩ := Option.map_eq_some_iff.mp hmap
    cases hpair
    exact ⟨hk, hv⟩
  · rintro ⟨hk, hv⟩
    exact ⟨key, hk, by rw [hv]; rfl⟩

theorem safeFields_keys : (safeFields fields).map Prod.fst = fieldKeys := by
  rw [safeFields, List.map_map]
  exact List.map_id _

theorem valueOf_safeFields (h : key ∈ fieldKeys) :
    valueOf (safeFields fields) key = some ((fields.get key).getD .null) := by
  rw [safeFields]
  generalize fieldKeys = keys at h
  induction keys with
  | nil => cases h
  | cons k keys ih =>
      rw [List.map_cons, valueOf_cons]
      split
      next hkey => rw [hkey]
      next hkey => exact ih ((List.mem_cons.mp h).resolve_left hkey)

/-- **The audit tables keep what the allow-lists name**, and nothing else, whatever is passed: this
    is what is read from the two columns. -/
theorem audit_columns_read_back (details fields : Dict Str Json) :
    (∃ entries, loads (detailsColumn details) = some (.obj entries) ∧
      ∀ key value, (key, value) ∈ entries ↔ key ∈ detailKeys ∧ details.get key = some value) ∧
    ∃ entries, loads (fieldsColumn fields) = some (.obj entries) ∧
      entries.map Prod.fst = fieldKeys ∧
      ∀ key ∈ fieldKeys, valueOf entries key = some ((fields.get key).getD .null) :=
  ⟨⟨_, loads_dumps _, fun _ _ => mem_safeDetails⟩,
    _, loads_dumps _, safeFields_keys, fun _ h => valueOf_safeFields h⟩

/-- The details of an audit event of an account are read from its row. -/
theorem detailsColumn_read (d : SafeDetails) :
    (loads (detailsColumn (Dict.ofList (detailsData d)))).bind readDetails = some d := by
  have hsame : safeDetails (Dict.ofList (detailsData d)) = detailsData d := by
    obtain ⟨role, status, count⟩ := d
    rw [safeDetails, detailKeys]
    simp only [Dict.ofList, Dict.get_update, Dict.get_empty, Option.or_none]
    cases role <;> cases status <;> cases count <;> simp [detailsData]
  rw [detailsColumn, hsame, loads_dumps]
  exact readDetails_detailsData d

/-- The fields of a request are read from its row. -/
theorem fieldsColumn_read (f : HttpAudit) :
    (loads (fieldsColumn (Dict.ofList (requestData f)))).bind readSafeFields =
      some (NetProbeMiddleware.safeFields f) := by
  rw [fieldsColumn, loads_dumps]
  simp [readSafeFields, readKey, safeFields, fieldKeys, Dict.ofList,
    Dict.get_update, Dict.get_empty,
    requestData, readStr, readInt, readBool, NetProbeMiddleware.safeFields]

end Columns

end NetProbeLogging
