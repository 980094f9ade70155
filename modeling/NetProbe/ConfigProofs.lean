import NetProbe.PyTextProofs

/-!
# Settings

The settings the modelled functions read, under their own names and with their own defaults.
Times are instants in microseconds, a `timedelta` is a number of microseconds.  The columns
`role` and `status` of the accounts table hold the two enumerations of this file; their texts
are what audit rows and error details record.

A count or a limit of the settings is a Python `int`, hence an integer here, also where a
negative value makes no sense.
-/

namespace NetProbeConfig

open NetProbePyText

/-- An instant, in microseconds. -/
abbrev Time := Int

/-- `timedelta(minutes=n)` -/
def minutes (n : Int) : Int := n * 60000000

/-- `timedelta(hours=n)` -/
def hours (n : Int) : Int := n * 3600000000

/-- `timedelta(days=n)` -/
def days (n : Int) : Int := n * 86400000000

/-- `Role` -/
inductive Role where
  | ADMIN
  | OPERATOR
  | VIEWER
  deriving DecidableEq, Repr

/-- `AccountStatus` -/
inductive AccountStatus where
  | PENDING
  | ACTIVE
  | LOCKED
  | DISABLED
  deriving DecidableEq, Repr

def Role.text : Role → Str
  | .ADMIN => str "ADMIN"
  | .OPERATOR => str "OPERATOR"
  | .VIEWER => str "VIEWER"

def AccountStatus.text : AccountStatus → Str
  | .PENDING => str "PENDING"
  | .ACTIVE => str "ACTIVE"
  | .LOCKED => str "LOCKED"
  | .DISABLED => str "DISABLED"

/-- `status in {"ACTIVE", "PENDING"}` -/
def AccountStatus.usable : AccountStatus → Bool
  | .ACTIVE | .PENDING => true
  | .LOCKED | .DISABLED => false

/-- `Settings` -/
structure Settings where
  trusted_proxy_ips : List Str := []
  max_redirects : Int := 5
  max_response_bytes : Int := 1000000
  rate_limit_per_minute : Int := 30
  allowed_tcp_ports : List Int := [22, 53, 80, 443, 5432, 3306, 6379, 8080]
  allow_private_targets : Bool := false
  allowed_target_domains : List Str := []
  database_enabled : Bool := false
  diagnostic_persistence_enabled : Bool := false
  diagnostic_retention_days : Int := 90
  auth_audit_retention_days : Int := 365
  store_raw_client_ip : Bool := false
  client_hash_secret : Str := []
  auth_enabled : Bool := false
  session_cookie_name : Str := str "__Host-netprobe_session"
  csrf_cookie_name : Str := str "netprobe_csrf"
  session_idle_minutes : Int := 30
  session_absolute_hours : Int := 8
  admin_session_absolute_hours : Int := 4
  max_sessions_per_user : Int := 5
  login_max_failures : Int := 5
  login_lock_minutes : Int := 15
  password_history_count : Int := 5
  session_token_pepper : Str := []
  password_pepper : Str := []
  cookie_secure : Bool := true
  app_version : Str := str "1.0.0"

end NetProbeConfig
