import NetProbe.AdminRoutesProofs
import NetProbe.HistoryProofs
import NetProbe.PagedReadProofs

/-!
# Paging through runs and accounts

`list_diagnostics` and `list_users` order their rows by `created_at` alone and cut a page out with
`LIMIT` and `OFFSET`.  What a query answers is a page of some listing of the visible rows
(`listing_orderByDesc`, `exists_scan`), so the general result on readers applies: reading page by
page gives every row once, whatever the database does with rows of one time, exactly if no page
begins between two such rows (`paging_iff`).
-/

namespace NetProbePaging

open NetProbePyText NetProbeConfig NetProbeCoreAuth NetProbePersistence NetProbeAccountStore
open NetProbeAuthService NetProbeAccountRuns NetProbeAdminRoutes NetProbeHistory
open UniqueTable PagedRead

-- ── Queries and listings ──────────────────────────────────────────────────────────

section Queries

variable {ρ β ε : Type} {key : ρ → Time} {rows l : List ρ}

theorem listing_orderByDesc (scan : Scan ρ) : Listing key rows (orderByDesc scan key rows) :=
  ⟨orderByDesc_perm scan, orderByDesc_sorted scan⟩

/-- Every listing is what the database may answer. -/
theorem exists_scan (h : Listing key rows l) : ∃ scan : Scan ρ, orderByDesc scan key rows = l := by
  have hsame : ∃ scan : Scan ρ,
      orderByDesc scan key rows = orderByDesc ⟨id, fun _ => .refl _⟩ key l :=
    orderByDesc_reorder _ h.perm
  obtain ⟨scan, hscan⟩ := hsame
  refine ⟨scan, hscan.trans ?_⟩
  exact List.Pairwise.insertionSort_eq h.sorted

/-- Reading page by page gives every item once, whatever the database does with rows of one time. -/
def ReadsEachOnce (fetch : Scan ρ → Nat → Except ε (List β)) (size : Nat) (items : List β) : Prop :=
  ∀ scans : Nat → Scan ρ, ∃ out, Reads (fun k offset => fetch (scans k) offset) size 0 out ∧
    out.Perm items

/-- The general result, for a query that is sent or not by its offset. -/
theorem readsEachOnce_iff {size : Nat} {item : ρ → β} {sent : Nat → Prop}
    [DecidablePred sent] {e : ε}
    {fetch : Scan ρ → Nat → Except ε (List β)} (hsize : 1 ≤ size) (hitems : (rows.map item).Nodup)
    (hfetch : ∀ scan offset, fetch scan offset =
      if sent offset then .ok ((((orderByDesc scan key rows).drop offset).take size).map item)
      else .error e) :
    ReadsEachOnce fetch size (rows.map item) ↔
      (∀ j ≤ rows.length / size, sent (j * size)) ∧ Unsplit key rows size := by
  let page : (Nat → List ρ) → Nat → Nat → Except ε (List β) := fun listings k offset =>
    if sent offset then .ok (((listings k).drop offset).take size |>.map item) else .error e
  have hreads : (∀ listings, (∀ j, Listing key rows (listings j)) →
      ∃ out, Reads (page listings) size 0 out ∧ out.Perm (rows.map item)) ↔
        (∀ j ≤ rows.length / size, sent (j * size)) ∧ Unsplit key rows size :=
    reads_all_iff hsize hitems ⟨_, listing_orderByDesc .asInserted⟩ fun _ _ => rfl
  rw [← hreads]
  constructor
  · intro h listings hlistings
    choose scans hscans using fun j => exists_scan (hlistings j)
    obtain ⟨out, hout, hperm⟩ := h scans
    refine ⟨out, ?_, hperm⟩
    have hsame : (fun k offset => fetch (scans k) offset) = page listings := by
      funext k offset
      rw [hfetch, hscans]
    rw [← hsame]
    exact hout
  · intro h scans
    obtain ⟨out, hout, hperm⟩ := h (fun k => orderByDesc (scans k) key rows)
      fun k => listing_orderByDesc (scans k)
    refine ⟨out, ?_, hperm⟩
    have hsame : (fun k offset => fetch (scans k) offset) =
        page fun k => orderByDesc (scans k) key rows := by
      funext k offset
      rw [hfetch]
    rw [hsame]
    exact hout

end Queries

-- ── The two listings ──────────────────────────────────────────────────────────────

section Listings

variable {settings : Settings} {size : Nat}

/-- The runs a viewer sees. -/
def visibleRuns (s : HistoryStore) (user_id : Option Uuid) (is_admin : Bool) : List StoredRun :=
  s.runs.rows.filter (seenBy is_admin user_id)

/-- The accounts `list_users` selects. -/
def selectedAccounts (env : Env) (lower : Str → Str) (q : ListQuery) (s : Store) : List Account :=
  s.accounts.rows.filter (q.selects env.py lower)

/-- The answer to `list_users` with another offset. -/
def usersPage (env : Env) (lower : Str → Str) (q : ListQuery) (s : Store) (scan : Scan Account)
    (offset : Nat) : Except AuthError (List Account) :=
  ((listUsers env.py env.settings lower scan { q with offset := offset }).eval s).map Prod.fst

/-- The texts of the filters can be sent. -/
def ListQuery.textsEncode (py : Python) (q : ListQuery) : Bool :=
  ListQuery.encodes py { q with offset := 0 }

theorem items_nodup (s : HistoryStore) (user_id : Option Uuid) (is_admin : Bool) :
    ((visibleRuns s user_id is_admin).map listItem).Nodup := by
  refine List.Pairwise.map _ (fun a b hab heq => ?_) (s.runs.distinct.filter _)
  exact of_decide_eq_false hab (congrArg ListItem.id heq)

theorem accounts_nodup (env : Env) (lower : Str → Str) (q : ListQuery) (s : Store) :
    ((selectedAccounts env lower q s).map id).Nodup := by
  rw [List.map_id]
  refine (s.accounts.distinct.filter _).imp fun hab heq => ?_
  rw [heq] at hab
  simp [accountClash] at hab

/-- The offsets of all the pages are numbers the driver sends exactly if the last one is. -/
theorem offsets_sent_iff {P : Prop} {n : Nat} :
    (∀ j ≤ n / size, P ∧ j * size < 2 ^ 63) ↔ P ∧ n / size * size < 2 ^ 63 := by
  constructor
  · intro h
    exact h _ (le_refl _)
  · rintro ⟨hP, hlast⟩ j hj
    exact ⟨hP, (Nat.mul_le_mul_right size hj).trans_lt hlast⟩

/-- The answer of `list_diagnostics` to a query of a reader. -/
theorem listDiagnostics_eq (s : HistoryStore) (user_id : Option Uuid) (is_admin : Bool)
    (scan : Scan StoredRun) (offset : Nat) :
    listDiagnostics settings s scan user_id is_admin size offset =
      if (settings.database_enabled = true ∧ size < 2 ^ 63) ∧ offset < 2 ^ 63 then
        .ok ((((orderByDesc scan (·.created_at) (visibleRuns s user_id is_admin)).drop offset).take
          size).map listItem)
      else .error (if settings.database_enabled = true then .dataError else .runtimeError) := by
  have hsent : (isBigint size && isBigint offset) = decide (size < 2 ^ 63 ∧ offset < 2 ^ 63) := by
    rw [Bool.eq_iff_iff, isBigint, isBigint]
    simp only [Bool.and_eq_true, decide_eq_true_eq]
    omega
  rw [listDiagnostics, hsent]
  by_cases hdb : settings.database_enabled = true
  · rw [hdb, Bool.not_true, if_neg Bool.false_ne_true, if_pos rfl]
    by_cases hlimits : size < 2 ^ 63 ∧ offset < 2 ^ 63
    · rw [decide_eq_true hlimits, Bool.not_true, if_neg Bool.false_ne_true, if_neg (by omega),
        if_pos ⟨⟨rfl, hlimits.1⟩, hlimits.2⟩, Int.toNat_natCast, Int.toNat_natCast]
      rfl
    · rw [decide_eq_false hlimits, Bool.not_false, if_pos rfl,
        if_neg (fun h => hlimits ⟨h.1.2, h.2⟩)]
  · rw [Bool.eq_false_iff.mpr hdb, Bool.not_false, if_pos rfl,
      if_neg (fun h => Bool.false_ne_true h.1.1), if_neg Bool.false_ne_true]

/-- The answer of `list_users` to a query of a reader. -/
theorem usersPage_eq (env : Env) (lower : Str → Str) (q : ListQuery) (s : Store)
    (scan : Scan Account)
    (offset : Nat) :
    usersPage env lower q s scan offset =
      if (env.settings.database_enabled = true ∧ ListQuery.textsEncode env.py q = true) ∧
        offset < 2 ^ 63 then
        .ok ((((orderByDesc scan (·.created_at) (selectedAccounts env lower q s)).drop offset).take
          q.limit).map id)
      else .error (if env.settings.database_enabled = true then .dataError else .runtimeError) := by
  have hsent : ListQuery.encodes env.py { q with offset := offset } =
      (ListQuery.textsEncode env.py q && decide (offset < 2 ^ 63)) := by
    rw [ListQuery.textsEncode, ListQuery.encodes, ListQuery.encodes,
      decide_eq_true (by decide : 0 < 2 ^ 63), Bool.and_true]
  rw [usersPage]
  by_cases hdb : env.settings.database_enabled = true
  · rw [eval_listUsers hdb, hsent, if_pos hdb]
    by_cases hlimits : ListQuery.textsEncode env.py q = true ∧ offset < 2 ^ 63
    · have hsends : (ListQuery.textsEncode env.py q && decide (offset < 2 ^ 63)) = true := by
        rw [Bool.and_eq_true, decide_eq_true_eq]
        exact hlimits
      rw [if_pos hsends, if_pos ⟨⟨hdb, hlimits.1⟩, hlimits.2⟩, List.map_id]
      rfl
    · have hfails : ¬ (ListQuery.textsEncode env.py q && decide (offset < 2 ^ 63)) = true := by
        rw [Bool.and_eq_true, decide_eq_true_eq]
        exact hlimits
      rw [if_neg hfails, if_neg (fun h => hlimits ⟨h.1.2, h.2⟩)]
      rfl
  · rw [listUsers, withPool_of_disabled hdb, if_neg (fun h => hdb h.1.1), if_neg hdb]
    rfl

/-- **Paging is exact exactly if no page begins within a group of rows of one time**, and the
    queries can be sent. -/
theorem paging_iff (settings : Settings) (env : Env) (lower : Str → Str) :
    (∀ (s : HistoryStore) (user_id : Option Uuid) (is_admin : Bool) (size : Nat), 1 ≤ size →
      (ReadsEachOnce (fun scan offset => listDiagnostics settings s scan user_id
        is_admin size offset)
          size ((visibleRuns s user_id is_admin).map listItem) ↔
        ((settings.database_enabled = true ∧ size < 2 ^ 63) ∧
            (visibleRuns s user_id is_admin).length / size * size < 2 ^ 63) ∧
          Unsplit (·.created_at) (visibleRuns s user_id is_admin) size)) ∧
      ∀ (s : Store) (q : ListQuery),
        (ReadsEachOnce (usersPage env lower q s) q.limit (selectedAccounts env lower q s) ↔
          ((env.settings.database_enabled = true ∧ ListQuery.textsEncode env.py q = true) ∧
              (selectedAccounts env lower q s).length / q.limit * q.limit < 2 ^ 63) ∧
            Unsplit (·.created_at) (selectedAccounts env lower q s) q.limit) := by
  constructor
  · intro s user_id is_admin size hsize
    rw [readsEachOnce_iff hsize (items_nodup s user_id is_admin)
      (listDiagnostics_eq s user_id is_admin),
      offsets_sent_iff]
  · intro s q
    have h := readsEachOnce_iff q.limit_bounds.1 (accounts_nodup env lower q s)
      (usersPage_eq env lower q s)
    rw [List.map_id, offsets_sent_iff] at h
    exact h

end Listings

-- ── Two histories ─────────────────────────────────────────────────────────────────

/-- A run of the first user, with the time it was stored. -/
def sampleRun (id : Str) (created_at : Time) : StoredRun :=
  { (sampleRecorded id (some 1)).run with created_at := created_at }

/-- Two runs of the first user. -/
def twoRuns (first second : Time) : HistoryStore where
  runs := ⟨[sampleRun (str "run-1") first, sampleRun (str "run-2") second], by
    rw [List.pairwise_pair]
    show decide (str "run-1" = str "run-2") = false
    decide⟩
  results := fun _ => .empty
  typed := by
    intro run hrun
    rcases List.mem_pair.mp hrun with rfl | rfl
    · exact (sampleRecorded _ _).typed
    · exact (sampleRecorded _ _).typed

/-- Two runs of different times are read in pages of one. -/
theorem two_times_read :
    ReadsEachOnce
      (fun scan offset => listDiagnostics { database_enabled := true } (twoRuns 0 1) scan
      (some 1) false ((1 : Nat) : Int) offset) 1
        ((visibleRuns (twoRuns 0 1) (some 1) false).map listItem) :=
  ((paging_iff { database_enabled := true } .sample id).1 (twoRuns 0 1)
    (some 1) false 1 (le_refl 1)).mpr
    ⟨⟨⟨rfl, by decide⟩, by decide +kernel⟩, unsplit_of_distinct (by decide +kernel)⟩

/-- The order of the rows turned round. -/
def reversed : Scan StoredRun := ⟨List.reverse, List.reverse_perm⟩

/-- **A run read twice.** Two runs of one time, read one by one while the database changes its
    mind about their order: the first of them comes twice, and the second one never. -/
theorem tie_read_twice :
    ¬ ∀ (settings : Settings) (s : HistoryStore) (user_id : Option Uuid)
      (is_admin : Bool) (size : Nat),
      1 ≤ size → settings.database_enabled = true →
        ReadsEachOnce
          (fun scan offset => listDiagnostics settings s scan user_id is_admin size offset)
          size ((visibleRuns s user_id is_admin).map listItem) := by
  intro h
  obtain ⟨out, hout, hperm⟩ :=
    h { database_enabled := true } (twoRuns 0 0) (some 1) false 1 (le_refl 1) rfl
    fun k => if k = 1 then reversed else .asInserted
  have hread : Reads (fun k offset => listDiagnostics { database_enabled := true } (twoRuns 0 0)
      (if k = 1 then reversed else .asInserted) (some 1) false ((1 : Nat) : Int) offset) 1 0
      ([listItem (sampleRun (str "run-1") 0)] ++ ([listItem (sampleRun (str "run-1") 0)] ++ [])) :=
    .more (by decide +kernel) (by decide) (.more (by decide +kernel) (by decide)
      (.last (by decide +kernel) (by decide)))
  rw [hout.unique hread] at hperm
  exact absurd hperm (by decide +kernel)

end NetProbePaging
