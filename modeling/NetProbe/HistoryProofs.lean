import Mathlib.Data.Set.Image
import NetProbe.AuthDepsProofs
import NetProbe.ProbeHandlersProofs

/-!
# The history of diagnostics

`list_diagnostics` and `get_diagnostic`: the queries behind the history pages, over the tables
that `persist_diagnostic` fills.  Both carry the condition `$1::boolean OR user_id=$2` in SQL's
three-valued logic, so a missing id on either side selects nothing.

A query may return rows with equal sort keys in any order; what it says is the set of answers it
may give (`listAnswers`).  `history_isolated` is a statement about two stores: if they agree on
the runs of a user and their details, no answer to that user tells them apart.  The rest
of it is about one store: what the user does not own is not found, a viewer without an id sees
nothing, and what can be read is what is listed.
-/

namespace NetProbeHistory

open NetProbePyText NetProbeConfig NetProbeCoreAuth NetProbeAccountStore NetProbePersistence
open NetProbeProbeHandlers NetProbeInet NetProbeColumnTypes UniqueTable TracedRun

-- ── Conditions of SQL ─────────────────────────────────────────────────────────────

/-- `x = y`: unknown if one side is NULL. -/
def sqlEq {α : Type} [DecidableEq α] : Option α → Option α → Option Bool
  | some a, some b => some (a = b)
  | _, _ => none

/-- `p OR q` -/
def sqlOr : Option Bool → Option Bool → Option Bool
  | some true, _ | _, some true => some true
  | some false, some false => some false
  | _, _ => none

/-- A WHERE clause selects a row only if it is true of it. -/
def selects (p : Option Bool) : Bool := p = some true

section Conditions

variable {α : Type} [DecidableEq α]

theorem selects_sqlEq {x y : Option α} : selects (sqlEq x y) = true ↔
    ∃ a, x = some a ∧ y = some a := by
  cases x with
  | none => simp [selects, sqlEq]
  | some a =>
      cases y with
      | none => simp [selects, sqlEq]
      | some b => simp [selects, sqlEq, eq_comm]

theorem selects_sqlOr {p q : Option Bool} :
    selects (sqlOr p q) = true ↔ selects p = true ∨ selects q = true := by
  rcases p with _ | p
  · rcases q with _ | q
    · decide
    · cases q <;> decide
  · rcases q with _ | q
    · cases p <;> decide
    · cases p <;> cases q <;> decide

end Conditions

-- ── The tables ────────────────────────────────────────────────────────────────────

/-- A row of `diagnostic_runs`, with the time the database gives it. -/
structure StoredRun extends DiagnosticRun where
  created_at : Time
  deriving DecidableEq, Repr

/-- `run_id` -/
def runId : ResultRow → Str
  | .http run_id .. | .tcp run_id .. | .dns run_id .. => run_id

def runClash (a b : StoredRun) : Bool := a.id = b.id

def resultClash (a b : ResultRow) : Bool := runId a = runId b

/-- The dictionary from `diagnostic_type` to its table. -/
def tableOf (diagnostic_type : Str) : Option Str :=
  if diagnostic_type = str "HTTP" then some (str "http_diagnostic_results")
  else if diagnostic_type = str "TCP" then some (str "tcp_diagnostic_results")
  else if diagnostic_type = str "DNS" then some (str "dns_diagnostic_results")
  else none

/-- The runs, and the tables of details by name.  Every run is of a type that has a table. -/
structure HistoryStore where
  runs : Table StoredRun runClash
  results : Str → Table ResultRow resultClash
  typed : ∀ run ∈ runs.rows, (tableOf run.diagnostic_type).isSome = true

/-- How the history fails: the exception of the dictionary, those of the database, and the two
    answers of the handlers. -/
inductive HistoryError where
  | runtimeError
  | keyError
  | dataError
  | invalidRowCount
  | http (status_code : Nat) (code message : Str)
  deriving DecidableEq, Repr

/-- An item of `list_diagnostics`. -/
structure ListItem where
  id : Str
  diagnostic_type : Str
  success : Bool
  result_code : Str
  api_status_code : Int
  duration_ms : Int
  started_at : Time
  completed_at : Time
  deriving DecidableEq, Repr

/-- The details of a run: the columns of its row without `run_id`. -/
inductive DetailData where
  | http (requested_url target_host method : Str) (timeout_ms : Int)
      (follow_redirects query_redacted : Bool) (final_url : Option Str) (reachable : Bool)
      (status_code : Option Int) (reason_phrase resolved_ip : Option Str)
      (response_time_ms content_length : Option Int) (content_type server_header : Option Str)
      (redirect_count : Nat)
  | tcp (host : Str) (port timeout_ms : Int) (resolved_ips : List Str) (is_open : Bool)
      (connection_result : Str) (connection_time_ms : Option Int) (message : Str)
  | dns (domain record_type : Str) (records : List Str) (record_count : Nat)
      (records_redacted : Bool) (ttl : Option Int) (resolver : Option Str)
      (lookup_time_ms : Option Int)
  deriving DecidableEq, Repr

/-- What `get_diagnostic` returns; `details` is `none` for `{}`. -/
structure Diagnostic where
  id : Str
  user_id : Option Uuid
  diagnostic_type : Str
  success : Bool
  result_code : Str
  api_status_code : Int
  error_message : Option Str
  duration_ms : Int
  started_at : Time
  completed_at : Time
  details : Option DetailData
  deriving DecidableEq, Repr

-- ── The program ───────────────────────────────────────────────────────────────────

/-- `detail_data`: the row without its `run_id`, as the columns give it back, and `str()` of its
    addresses. -/
def detailData : ResultRow → DetailData
  | .http _ requested_url target_host method timeout_ms follow_redirects query_redacted final_url
      reachable status_code reason_phrase resolved_ip response_time_ms content_length content_type
      server_header redirect_count =>
      .http requested_url target_host method timeout_ms follow_redirects query_redacted final_url
        reachable status_code (reason_phrase.map (cut 120)) (resolved_ip.map inetText)
        response_time_ms content_length (content_type.map (cut 255)) (server_header.map (cut 255))
        redirect_count
  | .tcp _ host port timeout_ms resolved_ips is_open connection_result connection_time_ms message =>
      .tcp host port timeout_ms (resolved_ips.map inetText) is_open connection_result
        connection_time_ms message
  | .dns _ domain record_type records record_count records_redacted ttl resolver lookup_time_ms =>
      .dns domain record_type records record_count records_redacted ttl (resolver.map (cut 255))
        lookup_time_ms

def listItem (run : StoredRun) : ListItem :=
  ⟨run.id, run.diagnostic_type, run.success, run.result_code, run.api_status_code, run.duration_ms,
    run.started_at, run.completed_at⟩

def diagnostic (run : StoredRun) (detail : Option ResultRow) : Diagnostic :=
  ⟨run.id, run.user_id, run.diagnostic_type, run.success, run.result_code, run.api_status_code,
    run.error_message, run.duration_ms, run.started_at, run.completed_at, detail.map detailData⟩

/-- `$1::boolean OR user_id=$2` -/
def seenBy (is_admin : Bool) (user_id : Option Uuid) (run : StoredRun) : Bool :=
  selects (sqlOr (some is_admin) (sqlEq run.user_id user_id))

/-- A number the driver sends as a `bigint`. -/
def isBigint (n : Int) : Bool := -2 ^ 63 ≤ n && n < 2 ^ 63

section Program

variable (settings : Settings) (s : HistoryStore)

/-- `list_diagnostics(user_id, is_admin, limit, offset)` -/
def listDiagnostics (scan : Scan StoredRun) (user_id : Option Uuid) (is_admin : Bool)
    (limit offset : Int) : Except HistoryError (List ListItem) :=
  if !settings.database_enabled then .error .runtimeError
  else if !(isBigint limit && isBigint offset) then .error .dataError
  else if limit < 0 ∨ offset < 0 then .error .invalidRowCount
  else
    .ok ((((orderByDesc scan (·.created_at) (s.runs.rows.filter (seenBy is_admin user_id))).drop
      offset.toNat).take limit.toNat).map listItem)

/-- `get_diagnostic(run_id, user_id, is_admin)` -/
def getDiagnostic (run_id : Str) (user_id : Option Uuid) (is_admin : Bool) :
    Except HistoryError (Option Diagnostic) :=
  if !settings.database_enabled then .error .runtimeError
  else
    match s.runs.rows.find? fun run => run.id = run_id && seenBy is_admin user_id run with
    | none => .ok none
    | some run =>
        match tableOf run.diagnostic_type with
        | none => .error .keyError
        | some table =>
            .ok (some (diagnostic run ((s.results table).rows.find? fun row => runId row = run_id)))

/-- `ensure_database()` -/
def ensureDatabase : Except HistoryError Unit :=
  if settings.database_enabled then .ok ()
  else .error (.http 503 (str "DATABASE_UNAVAILABLE") (str "진단 이력 DB가 비활성화되어 있습니다."))

/-- The query parameters of `recent_diagnostics`. -/
structure PageQuery where
  limit : Int := 20
  offset : Int := 0
  limit_bounds : 1 ≤ limit ∧ limit ≤ 200
  offset_bound : 0 ≤ offset

/-- `bool(context and context.role == "ADMIN")` -/
def isAdmin (context : Option AuthContext) : Bool := context.any fun c => c.role = .ADMIN

/-- `recent_diagnostics(limit, offset, context)`: the items of the page. -/
def recentDiagnostics (scan : Scan StoredRun) (q : PageQuery) (context : Option AuthContext) :
    Except HistoryError (List ListItem) := do
  ensureDatabase settings
  listDiagnostics settings s scan (context.map (·.user_id)) (isAdmin context) q.limit q.offset

/-- `diagnostic_detail(run_id, context)` -/
def diagnosticDetail (run_id : Str) (context : Option AuthContext) :
    Except HistoryError Diagnostic := do
  ensureDatabase settings
  match ← getDiagnostic settings s run_id (context.map (·.user_id)) (isAdmin context) with
  | none => throw (.http 404 (str "DIAGNOSTIC_NOT_FOUND") (str "진단 이력을 찾을 수 없습니다."))
  | some item => return item

end Program

-- ── What a viewer sees ────────────────────────────────────────────────────────────

section Viewers

variable {settings : Settings} {s : HistoryStore} {u : Uuid}
  {user_id : Option Uuid} {is_admin : Bool}
  {run : StoredRun} {run_id : Str}

theorem runClash_symm (a b : StoredRun) : runClash a b = runClash b a := by
  rw [runClash]
  exact decide_eq_decide.mpr eq_comm

theorem resultClash_symm (a b : ResultRow) : resultClash a b = resultClash b a := by
  rw [resultClash]
  exact decide_eq_decide.mpr eq_comm

/-- A viewer sees a run as an administrator, or as its owner. -/
theorem seenBy_iff : seenBy is_admin user_id run = true ↔
    is_admin = true ∨ ∃ u, run.user_id = some u ∧ user_id = some u := by
  rw [seenBy]
  rw [selects_sqlOr, selects_sqlEq]
  refine or_congr_left ?_
  rw [selects]
  rw [decide_eq_true_iff, Option.some_inj]

theorem seenBy_own : seenBy false (some u) run = true ↔ run.user_id = some u := by
  rw [seenBy_iff]
  simp

theorem seenBy_nobody : seenBy false none run = false := by
  rw [← Bool.not_eq_true, seenBy_iff]
  simp

/-- The run a viewer asks for. -/
theorem find_run_clash (a b : StoredRun) (ha : (a.id = run_id && seenBy is_admin user_id a) = true)
    (hb : (b.id = run_id && seenBy is_admin user_id b) = true) : runClash a b = true := by
  simp only [Bool.and_eq_true, decide_eq_true_eq] at ha hb
  exact decide_eq_true (ha.1.trans hb.1.symm)

theorem find_result_clash (a b : ResultRow) (ha : decide (runId a = run_id) = true)
    (hb : decide (runId b = run_id) = true) : resultClash a b = true :=
  decide_eq_true ((of_decide_eq_true ha).trans (of_decide_eq_true hb).symm)

/-- What `get_diagnostic` does with the run it finds: every run is of a type that has a table. -/
theorem getDiagnostic_found (hdb : settings.database_enabled = true) (hrun : run ∈ s.runs.rows)
    (hid : run.id = run_id) (hseen : seenBy is_admin user_id run = true) :
    ∃ detail, getDiagnostic settings s run_id user_id is_admin = .ok
      (some (diagnostic run detail)) := by
  rw [getDiagnostic]
  rw [hdb, Bool.not_true, if_neg Bool.false_ne_true,
    find?_of_mem runClash_symm find_run_clash hrun (by simp [hid, hseen])]
  dsimp only
  obtain ⟨table, htable⟩ := Option.isSome_iff_exists.mp (s.typed run hrun)
  rw [htable]
  exact ⟨_, rfl⟩

/-- What no row of the store answers is not found. -/
theorem getDiagnostic_none (hdb : settings.database_enabled = true)
    (hnone : ∀ run ∈ s.runs.rows, run.id = run_id → seenBy is_admin user_id run = false) :
    getDiagnostic settings s run_id user_id is_admin = .ok none := by
  rw [getDiagnostic]
  have hfind : (s.runs.rows.find? fun run => run.id = run_id && seenBy is_admin user_id run) =
      none := by
    refine List.find?_eq_none.mpr fun run hrun => ?_
    simp only [Bool.and_eq_true, decide_eq_true_eq, not_and, Bool.not_eq_true]
    exact hnone run hrun
  rw [hdb, Bool.not_true, if_neg Bool.false_ne_true, hfind]

/-- `get_diagnostic` returns a diagnostic exactly for the runs the viewer sees. -/
theorem getDiagnostic_iff (hdb : settings.database_enabled = true) :
    (∃ d, getDiagnostic settings s run_id user_id is_admin = .ok (some d)) ↔
      ∃ run ∈ s.runs.rows, run.id = run_id ∧ seenBy is_admin user_id run = true := by
  constructor
  · rintro ⟨d, h⟩
    by_contra hnone
    rw [getDiagnostic_none hdb fun run hrun hid => ?_] at h
    · cases h
    · rw [← Bool.not_eq_true]
      exact fun hseen => hnone ⟨run, hrun, hid, hseen⟩
  · rintro ⟨run, hrun, hid, hseen⟩
    obtain ⟨detail, h⟩ := getDiagnostic_found hdb hrun hid hseen
    exact ⟨_, h⟩

/-- The list without paging holds the items of the runs the viewer sees. -/
theorem listDiagnostics_all (hdb : settings.database_enabled = true)
    {scan : Scan StoredRun} {limit : Int}
    (hlimit : (s.runs.rows.length : Int) ≤ limit) (hbigint : limit < 2 ^ 63) :
    ∃ items, listDiagnostics settings s scan user_id is_admin limit 0 = .ok items ∧
      ∀ item, item ∈ items ↔ ∃ run ∈ s.runs.rows, seenBy is_admin user_id run = true ∧
        listItem run = item := by
  have hlimits : (isBigint limit && isBigint 0) = true := by
    unfold isBigint
    simp only [Bool.and_eq_true, decide_eq_true_eq]
    omega
  refine
    ⟨(orderByDesc scan (·.created_at) (s.runs.rows.filter (seenBy is_admin user_id))).map listItem,
    ?_, fun item => ?_⟩
  · rw [listDiagnostics]
    rw [hdb, hlimits, Bool.not_true, if_neg Bool.false_ne_true, if_neg Bool.false_ne_true,
      if_neg (by omega), Int.toNat_zero, List.drop_zero, List.take_of_length_le]
    rw [(orderByDesc_perm scan).length_eq]
    have hlength := List.length_filter_le (seenBy is_admin user_id) s.runs.rows
    omega
  · rw [List.mem_map]
    simp only [(orderByDesc_perm scan).mem_iff, List.mem_filter, and_assoc]

end Viewers

-- ── Two stores ────────────────────────────────────────────────────────────────────

/-- The answers SQL allows `list_diagnostics` to give. -/
def listAnswers (settings : Settings) (s : HistoryStore) (user_id : Option Uuid) (is_admin : Bool)
    (limit offset : Int) : Set (Except HistoryError (List ListItem)) :=
  Set.range fun scan => listDiagnostics settings s scan user_id is_admin limit offset

/-- The stores agree on the runs of the user and on the rows of their details. -/
structure AgreeOn (u : Uuid) (s s' : HistoryStore) : Prop where
  runs : ∀ run, run.user_id = some u → (run ∈ s.runs.rows ↔ run ∈ s'.runs.rows)
  details : ∀ run ∈ s.runs.rows, run.user_id = some u → ∀ table row, runId row = run.id →
    (row ∈ (s.results table).rows ↔ row ∈ (s'.results table).rows)

/-- No two runs of the user have the same time. -/
def DistinctTimes (u : Uuid) (s : HistoryStore) : Prop :=
  ∀ a ∈ s.runs.rows, ∀ b ∈ s.runs.rows, a.user_id = some u → b.user_id = some u →
    a.created_at = b.created_at → a = b

section TwoStores

variable {settings : Settings} {s s' : HistoryStore} {u : Uuid}

theorem AgreeOn.symm (h : AgreeOn u s s') : AgreeOn u s' s where
  runs := fun run hown => (h.runs run hown).symm
  details := fun run hrun hown table row hrow =>
    (h.details run ((h.runs run hown).mpr hrun) hown table row hrow).symm

/-- The rows of the user are the same ones. -/
theorem AgreeOn.perm (h : AgreeOn u s s') :
    (s.runs.rows.filter (seenBy false (some u))).Perm
    (s'.runs.rows.filter (seenBy false (some u))) := by
  have hnodup : ∀ s : HistoryStore, (s.runs.rows.filter (seenBy false (some u))).Nodup := by
    intro s
    refine (s.runs.distinct.imp fun hab heq => ?_).filter _
    rw [heq] at hab
    simp [runClash] at hab
  refine (List.perm_ext_iff_of_nodup (hnodup s) (hnodup s')).mpr fun run => ?_
  rw [List.mem_filter, List.mem_filter]
  exact and_congr_left fun hseen => h.runs run (seenBy_own.mp hseen)

/-- The lists of the two stores can be the same. -/
theorem AgreeOn.list (h : AgreeOn u s s') (limit offset : Int) :
    listAnswers settings s (some u) false limit offset ⊆ listAnswers settings s'
      (some u) false limit offset := by
  rintro answer ⟨scan, rfl⟩
  obtain ⟨scan', hscan⟩ := @orderByDesc_reorder _ (·.created_at) _ _ scan h.perm
  refine ⟨scan', ?_⟩
  dsimp only
  unfold listDiagnostics
  rw [hscan]

/-- The lists that may be answered are the same ones. -/
theorem AgreeOn.answers (h : AgreeOn u s s') (limit offset : Int) :
    listAnswers settings s (some u) false limit offset =
      listAnswers settings s' (some u) false limit offset :=
  Set.Subset.antisymm (h.list limit offset) (h.symm.list limit offset)

/-- The user gets the same diagnostic from both. -/
theorem AgreeOn.get (h : AgreeOn u s s') (run_id : Str) :
    getDiagnostic settings s run_id (some u) false =
      getDiagnostic settings s' run_id (some u) false := by
  have hfind : (s.runs.rows.find? fun run => run.id = run_id && seenBy false (some u) run) =
      s'.runs.rows.find? fun run => run.id = run_id && seenBy false (some u) run := by
    refine find?_congr runClash_symm find_run_clash fun run hp => h.runs run (seenBy_own.mp ?_)
    exact (Bool.and_eq_true_iff.mp hp).2
  unfold getDiagnostic
  rw [← hfind]
  cases hrun : s.runs.rows.find? fun run => run.id = run_id && seenBy false (some u) run with
  | none => rfl
  | some run =>
      have hp := List.find?_some hrun
      simp only [Bool.and_eq_true, decide_eq_true_eq] at hp
      have hdetail : ∀ table, ((s.results table).rows.find? fun row => runId row = run_id) =
          (s'.results table).rows.find? fun row => runId row = run_id := by
        intro table
        refine find?_congr resultClash_symm find_result_clash fun row hrow => ?_
        exact h.details run (List.mem_of_find?_eq_some hrun) (seenBy_own.mp hp.2) table row
          ((of_decide_eq_true hrow).trans hp.1.symm)
      dsimp only
      cases tableOf run.diagnostic_type with
      | none => rfl
      | some table =>
          dsimp only
          rw [hdetail table]

/-- Without ties in time the list does not depend on the order of the rows either. -/
theorem AgreeOn.same_list (h : AgreeOn u s s') (hdistinct : DistinctTimes u s) (limit offset : Int)
    (scan scan' : Scan StoredRun) :
    listDiagnostics settings s scan (some u) false limit offset =
      listDiagnostics settings s' scan' (some u) false limit offset := by
  have hsame := @orderByDesc_unique _ (·.created_at) _ _ scan scan' h.perm
    fun a ha b hb htime => by
      obtain ⟨ha, haown⟩ := List.mem_filter.mp ha
      obtain ⟨hb, hbown⟩ := List.mem_filter.mp hb
      exact hdistinct a ha b hb (seenBy_own.mp haown) (seenBy_own.mp hbown) htime
  unfold listDiagnostics
  rw [hsame]

/-- A viewer without an id is listed nothing. -/
theorem listDiagnostics_nobody {scan : Scan StoredRun} {limit offset : Int} {items : List ListItem}
    (h : listDiagnostics settings s scan none false limit offset = .ok items) : items = [] := by
  have hempty : s.runs.rows.filter (seenBy false none) = [] :=
    List.filter_eq_nil_iff.mpr fun run _ => by simp [seenBy_nobody]
  have hnone : ∀ scan : Scan StoredRun,
      orderByDesc scan (·.created_at) ([] : List StoredRun) = [] :=
    fun scan => (orderByDesc_perm scan).eq_nil
  rw [listDiagnostics] at h
  rw [hempty, hnone scan] at h
  split at h
  · cases h
  · split at h
    · cases h
    · split at h
      · cases h
      · simpa using (Except.ok.inj h).symm

/-- What a viewer can read is what a list without end shows. -/
theorem readable_iff_listed (hdb : settings.database_enabled = true) {user_id : Option Uuid}
    {is_admin : Bool} {run_id : Str} {scan : Scan StoredRun} {limit : Int}
    (hlimit : (s.runs.rows.length : Int) ≤ limit) (hbigint : limit < 2 ^ 63) :
    (∃ d, getDiagnostic settings s run_id user_id is_admin = .ok (some d)) ↔
      ∃ items, listDiagnostics settings s scan user_id is_admin limit 0 = .ok items ∧
        ∃ item ∈ items, item.id = run_id := by
  obtain ⟨items, hitems, hmem⟩ :=
    @listDiagnostics_all settings s user_id is_admin hdb scan limit hlimit
    hbigint
  rw [getDiagnostic_iff hdb]
  constructor
  · rintro ⟨run, hrun, hid, hseen⟩
    exact ⟨items, hitems, listItem run, (hmem _).mpr ⟨run, hrun, hseen, rfl⟩, hid⟩
  · rintro ⟨items', hitems', item, hitem, hid⟩
    obtain rfl := Except.ok.inj (hitems.symm.trans hitems')
    obtain ⟨run, hrun, hseen, rfl⟩ := (hmem item).mp hitem
    exact ⟨run, hrun, hid, hseen⟩

/-- **The history is isolated.**  A user who is no administrator gets the same answers from two
    stores that agree on the runs of the user, and only one where no two of these have the same
    time; the runs of others, those without an owner and unknown ids are not found; who has no id
    sees nothing; and every viewer can read exactly what is listed. -/
theorem history_isolated (hagree : AgreeOn u s s') :
    (∀ limit offset, listAnswers settings s (some u) false limit offset =
        listAnswers settings s' (some u) false limit offset) ∧
      (DistinctTimes u s → ∀ limit offset scan scan',
        listDiagnostics settings s scan (some u) false limit offset =
          listDiagnostics settings s' scan' (some u) false limit offset) ∧
      (∀ run_id, getDiagnostic settings s run_id (some u) false =
        getDiagnostic settings s' run_id (some u) false) ∧
      (∀ scan limit offset items,
        listDiagnostics settings s scan none false limit offset = .ok items →
        items = []) ∧
      (settings.database_enabled = true →
        (∀ run_id, (∀ run ∈ s.runs.rows, run.id = run_id → run.user_id ≠ some u) →
          getDiagnostic settings s run_id (some u) false = .ok none) ∧
        (∀ run_id, getDiagnostic settings s run_id none false = .ok none) ∧
        ∀ user_id is_admin run_id scan limit, (s.runs.rows.length : Int) ≤ limit → limit < 2 ^ 63 →
          ((∃ d, getDiagnostic settings s run_id user_id is_admin = .ok (some d)) ↔
            ∃ items, listDiagnostics settings s scan user_id is_admin limit 0 = .ok items ∧
              ∃ item ∈ items, item.id = run_id)) := by
  refine ⟨hagree.answers, hagree.same_list, hagree.get, fun scan limit offset items h => ?_,
    fun hdb => ⟨fun run_id hother => ?_, fun run_id => ?_,
      fun user_id is_admin run_id scan limit hlimit hbigint => ?_⟩⟩
  · exact listDiagnostics_nobody h
  · refine getDiagnostic_none hdb fun run hrun hid => ?_
    rw [← Bool.not_eq_true, seenBy_own]
    exact hother run hrun hid
  · exact getDiagnostic_none hdb fun run _ _ => seenBy_nobody
  · exact readable_iff_listed hdb hlimit hbigint

end TwoStores

-- ── The pages ─────────────────────────────────────────────────────────────────────

section Pages

variable {settings : Settings} {s s' : HistoryStore} {c : AuthContext}

theorem isAdmin_of_role (hrole : c.role ≠ .ADMIN) : isAdmin (some c) = false := by
  rw [isAdmin]
  rw [Option.any_some]
  exact decide_eq_false hrole

/-- A page of the list holds the runs of the viewer only. -/
theorem recentDiagnostics_isolated (hrole : c.role ≠ .ADMIN)
    (hagree : AgreeOn c.user_id s s') (q : PageQuery) :
    Set.range (fun scan => recentDiagnostics settings s scan q (some c)) =
      Set.range fun scan => recentDiagnostics settings s' scan q (some c) := by
  have hlist := @AgreeOn.answers settings s s' c.user_id hagree q.limit q.offset
  rw [listAnswers] at hlist
  unfold recentDiagnostics ensureDatabase
  rw [isAdmin_of_role hrole]
  by_cases hdb : settings.database_enabled = true
  · rw [if_pos hdb]
    exact hlist
  · rw [if_neg hdb]
    rfl

/-- The page of one diagnostic is the same, and one that is not the viewer's is answered like one
    that does not exist. -/
theorem diagnosticDetail_isolated (hrole : c.role ≠ .ADMIN)
    (hagree : AgreeOn c.user_id s s') (run_id : Str) :
    diagnosticDetail settings s run_id (some c) = diagnosticDetail settings s' run_id (some c) ∧
      (settings.database_enabled = true →
        (∀ run ∈ s.runs.rows, run.id = run_id → run.user_id ≠ some c.user_id) →
          diagnosticDetail settings s run_id (some c) =
            .error (.http 404 (str "DIAGNOSTIC_NOT_FOUND") (str "진단 이력을 찾을 수 없습니다."))) := by
  unfold diagnosticDetail ensureDatabase
  rw [isAdmin_of_role hrole]
  refine ⟨?_, fun hdb hother => ?_⟩
  · rw [Option.map_some, hagree.get run_id]
  · have hnone : getDiagnostic settings s run_id (some c.user_id) false = .ok none := by
      refine getDiagnostic_none hdb fun run hrun hid => ?_
      rw [← Bool.not_eq_true, seenBy_own]
      exact hother run hrun hid
    rw [if_pos hdb, Option.map_some, hnone]
    rfl

end Pages

-- ── What is recorded ──────────────────────────────────────────────────────────────

/-- The rows of one committed diagnostic: a run of a type that has a table, and its details. -/
structure Recorded where
  run : StoredRun
  result : ResultRow
  typed : (tableOf run.diagnostic_type).isSome = true
  run_id : runId result = run.id

/-- Both rows violate no constraint. -/
def Recorded.Fits (r : Recorded) (s : HistoryStore) : Prop :=
  s.runs.Accepts (· ++ [r.run]) ∧
    ∀ table, tableOf r.run.diagnostic_type = some table →
      (s.results table).Accepts (· ++ [r.result])

/-- The store after the two statements commit. -/
def HistoryStore.add (s : HistoryStore) (r : Recorded) : HistoryStore where
  runs := s.runs.alter (· ++ [r.run])
  results := fun table =>
    if tableOf r.run.diagnostic_type = some table then (s.results table).alter (· ++ [r.result])
    else s.results table
  typed := by
    intro run hrun
    rcases alter_rows_cases s.runs (· ++ [r.run]) with hrows | hrows
    · rw [hrows] at hrun
      rcases List.mem_append.mp hrun with hold | hnew
      · exact s.typed run hold
      · rw [List.mem_singleton.mp hnew]
        exact r.typed
    · rw [hrows] at hrun
      exact s.typed run hrun

/-- A history: each diagnostic is committed, or rolled back. -/
inductive Records : HistoryStore → List Recorded → HistoryStore → Prop where
  | nil (s : HistoryStore) : Records s [] s
  | commit {s s' : HistoryStore} {r : Recorded} {rs : List Recorded} (hfits : r.Fits s)
      (h : Records (s.add r) rs s') : Records s (r :: rs) s'
  | rollback {s s' : HistoryStore} {r : Recorded} {rs : List Recorded} (h : Records s rs s') :
      Records s (r :: rs) s'

section Recording

variable {s s' s'' : HistoryStore} {u : Uuid} {r : Recorded} {rs : List Recorded}

/-- Every kind of diagnostic has a table. -/
theorem tableOf_type (details : Details) : (tableOf details.type).isSome = true := by
  cases details with
  | http payload data => show (tableOf (str "HTTP")).isSome = true; decide
  | tcp payload data => show (tableOf (str "TCP")).isSome = true; decide
  | dns payload data => show (tableOf (str "DNS")).isSome = true; decide

/-- What `persist_diagnostic` writes is of a type that has a table, and its details are those of the
    run. -/
theorem persisted_typed {py : Python} {settings : Settings} {crypto : Crypto} {call : Call}
    {details : Details} {run : DiagnosticRun} {result : ResultRow}
    (h : .rows run result ∈ (persistDiagnostic py settings crypto call details).events) :
    (tableOf run.diagnostic_type).isSome = true ∧ runId result = run.id := by
  have hrows : .rows run result ∈ (persistDiagnostic py settings crypto call details).events →
      run = runRow py settings crypto call details.type ∧
        resultRow py call details = some result := by
    intro h
    rw [persistDiagnostic] at h
    cases hlog : logEvent py settings crypto call details with
    | none =>
        rw [hlog] at h
        cases h
    | some event =>
        rw [hlog] at h
        dsimp only at h
        rw [Traced.bind_eq, Traced.bind_tell] at h
        rcases List.mem_append.mp h with hevent | hrest
        · cases List.mem_singleton.mp hevent
        · split at hrest
          · cases hrest
          · split at hrest
            · cases List.mem_singleton.mp hrest
            · cases List.mem_singleton.mp hrest
            · rename_i row hfailure hrow
              cases List.mem_singleton.mp hrest
              exact ⟨rfl, hrow⟩
  obtain ⟨rfl, hresult⟩ := hrows h
  refine ⟨tableOf_type details, ?_⟩
  cases details with
  | http payload data =>
      obtain ⟨parts, -, rfl⟩ := Option.map_eq_some_iff.mp hresult
      rfl
  | tcp payload data | dns payload data =>
      cases hresult
      rfl

theorem AgreeOn.refl (s : HistoryStore) : AgreeOn u s s :=
  ⟨fun _ _ => Iff.rfl, fun _ _ _ _ _ _ => Iff.rfl⟩

theorem AgreeOn.trans (h : AgreeOn u s s') (h' : AgreeOn u s' s'') : AgreeOn u s s'' where
  runs := fun run hown => (h.runs run hown).trans (h'.runs run hown)
  details := fun run hrun hown table row hrow =>
    (h.details run hrun hown table row hrow).trans
      (h'.details run ((h.runs run hown).mp hrun) hown table row hrow)

/-- The step lemma: a diagnostic of somebody else leaves the rows of the user. -/
theorem agreeOn_add (hfits : r.Fits s) (hother : r.run.user_id ≠ some u) :
    AgreeOn u s (s.add r) := by
  have hruns : (s.add r).runs.rows = s.runs.rows ++ [r.run] := alter_rows hfits.1
  refine ⟨fun run hown => ?_, fun run hrun hown table row hrow => ?_⟩
  · rw [hruns, List.mem_append, List.mem_singleton]
    exact ⟨Or.inl, fun h => h.resolve_right fun heq => hother (heq ▸ hown)⟩
  · show row ∈ (s.results table).rows ↔
      row ∈ (if _ then _ else _ : Table ResultRow resultClash).rows
    split
    · rename_i htable
      rw [alter_rows (hfits.2 table htable), List.mem_append, List.mem_singleton]
      refine ⟨Or.inl, fun h => h.resolve_right fun heq => ?_⟩
      -- the new details have the id of the new run, which no run had
      have hdistinct := (accepts_append_iff.mp hfits.1) run hrun
      rw [heq, r.run_id] at hrow
      simp [runClash, hrow] at hdistinct
    · exact Iff.rfl

/-- **What others do does not show.** Over any history of diagnostics of others, the answers to the
    user stay those of `history_isolated`. -/
theorem agreeOn_records (h : Records s rs s') (hothers : ∀ r ∈ rs, r.run.user_id ≠ some u) :
    AgreeOn u s s' := by
  induction h with
  | nil s => exact .refl s
  | commit hfits _ ih =>
      exact (agreeOn_add hfits (hothers _ (List.mem_cons_self ..))).trans
        (ih fun r hr => hothers r (List.mem_cons_of_mem _ hr))
  | rollback _ ih => exact ih fun r hr => hothers r (List.mem_cons_of_mem _ hr)

end Recording

/-- A diagnostic of a user, for testing. -/
def sampleRecorded (id : Str) (user_id : Option Uuid) : Recorded where
  run :=
    ⟨⟨id, user_id, str "TCP", true, str "OPEN", 200, none, 3, none, none, str "WEB",
      str "1.0.0", 0, 0, 0⟩, 0⟩
  result := .tcp id (str "example.com") 443 3000 [str "93.184.216.34"] true (str "OPEN")
    (some 3) (str "OPEN")
  typed := by
    show (tableOf (str "TCP")).isSome = true
    decide
  run_id := rfl

/-- The history without rows. -/
def HistoryStore.empty : HistoryStore := ⟨.empty, fun _ => .empty, fun run hrun => by cases hrun⟩

/-- One diagnostic of the first user, and one of the second. -/
def twoOwners : HistoryStore :=
  (HistoryStore.empty.add (sampleRecorded (str "run-1") (some 1))).add
    (sampleRecorded (str "run-2") (some 2))

/-- The general result on the two: the first user does not see that there is a second. -/
theorem second_owner_unseen :
    (∀ limit offset, listAnswers { database_enabled := true } twoOwners
      (some 1) false limit offset =
        listAnswers { database_enabled := true }
          (HistoryStore.empty.add (sampleRecorded (str "run-1") (some 1)))
          (some 1) false limit offset) ∧
      getDiagnostic { database_enabled := true } twoOwners (str "run-2") (some 1) false =
        .ok none := by
  have hfits : (sampleRecorded (str "run-2") (some 2)).Fits
      (HistoryStore.empty.add (sampleRecorded (str "run-1") (some 1))) := by
    refine ⟨by decide +kernel, fun table htable => ?_⟩
    obtain rfl : str "tcp_diagnostic_results" = table := Option.some.inj htable
    decide +kernel
  have hagree := (agreeOn_add (u := 1) hfits (by decide)).symm
  obtain ⟨hlist, -, -, -, hfound⟩ := @history_isolated { database_enabled := true } _ _ _ hagree
  refine ⟨hlist, (hfound rfl).1 (str "run-2") ?_⟩
  decide +kernel

end NetProbeHistory
