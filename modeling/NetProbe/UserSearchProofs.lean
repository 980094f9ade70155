import Mathlib.Data.List.Infix
import NetProbe.AdminRoutesProofs

/-!
# The search for accounts

`list_users` puts its statement together from the filters that are given.  Each of them adds a
value and a clause that names it by its number; the numbers stay valid when more values follow
(the field of `Where`), so the clauses select what `ListQuery.selects` says
(`listUsersSql_selects`).

The text of the query goes into a `LIKE` pattern between two percent signs as it is.  A pattern
of plain characters is the search for a substring (`like_plain_iff`).  One with a percent sign,
an underscore or a backslash also matches a text in which it does not occur (`like_instanceOf`,
`not_infix_instanceOf`), so the search is one for a substring exactly if the query has none of
them, or no account meets the other filters (`search_exact_iff`).
-/

namespace NetProbeUserSearch

open NetProbePyText NetProbeConfig NetProbeAccountStore NetProbeAuthService NetProbeAccountRuns
open NetProbeAdminRoutes UniqueTable Transaction Transaction.Txn

-- ── The statement ─────────────────────────────────────────────────────────────────

/-- A value of the list `values`. -/
inductive SqlValue where
  | text (value : Str)
  | int (value : Nat)
  deriving DecidableEq, Repr

/-- The value of `$n`. -/
def parameter (values : List SqlValue) (n : Nat) : Option SqlValue := values[n - 1]?

/-- The columns that are filtered by equality. -/
inductive FilterColumn where
  | role
  | status
  deriving DecidableEq, Repr

/-- The text of the column in a row. -/
def FilterColumn.of : FilterColumn → Account → Str
  | .role, a => a.role.text
  | .status, a => a.status.text

/-- A member of the list `clauses`. -/
inductive Clause where
  | deletedIsNull
  | equals (column : FilterColumn) (n : Nat)
  | searches (n : Nat)
  deriving DecidableEq, Repr

/-- The clause names one of `count` values. -/
def Clause.InRange (count : Nat) : Clause → Prop
  | .deletedIsNull => True
  | .equals _ n => 1 ≤ n ∧ n ≤ count
  | .searches n => 1 ≤ n ∧ n ≤ count

/-- The clause holds of a row; `lower` is that of the database. -/
def Clause.holds (lower : Str → Str) (values : List SqlValue) (a : Account) : Clause → Bool
  | .deletedIsNull => a.deleted_at.isNone
  | .equals column n => parameter values n = some (.text (column.of a))
  | .searches n =>
      match parameter values n with
      | some (.text pattern) =>
          like pattern (lower a.username) || like pattern (lower a.display_name)
      | _ => false

/-- `clauses` and `values` while the statement is put together. -/
structure Where where
  clauses : List Clause
  values : List SqlValue
  inRange : ∀ clause ∈ clauses, clause.InRange values.length

/-- Before the first filter. -/
def Where.start : Where := ⟨[.deletedIsNull], [], fun _ h => List.mem_singleton.mp h ▸ trivial⟩

theorem Clause.InRange.mono {clause : Clause} {count count' : Nat} (h : clause.InRange count)
    (hle : count ≤ count') : clause.InRange count' := by
  cases clause with
  | deletedIsNull => exact trivial
  | equals column n => exact ⟨h.1, h.2.trans hle⟩
  | searches n => exact ⟨h.1, h.2.trans hle⟩

theorem Clause.equals_inRange (column : FilterColumn) (n : Nat) (hn : 1 ≤ n) :
    (Clause.equals column n).InRange n := ⟨hn, le_refl n⟩

theorem Clause.searches_inRange (n : Nat) (hn : 1 ≤ n) : (Clause.searches n).InRange n :=
  ⟨hn, le_refl n⟩

/-- `values.append(value)` and `clauses.append(...)` with the number of the value. -/
def Where.add (w : Where) (value : SqlValue) (clause : Nat → Clause)
    (hclause : ∀ n, 1 ≤ n → (clause n).InRange n) : Where where
  clauses := w.clauses ++ [clause (w.values ++ [value]).length]
  values := w.values ++ [value]
  inRange := by
    intro c hc
    rcases List.mem_append.mp hc with hc | hc
    · exact (w.inRange c hc).mono (by simp)
    · rw [List.mem_singleton.mp hc]
      exact hclause _ (by simp)

/-- One turn of the loop over `role` and `status`. -/
def Where.addFilter (w : Where) (column : FilterColumn) (value : Option Str) : Where :=
  match given value with
  | none => w
  | some text => w.add (.text text) (.equals column) (Clause.equals_inRange column)

/-- The search. -/
def Where.addQuery (py : Python) (w : Where) (query : Option Str) : Where :=
  match given query with
  | none => w
  | some text => w.add (.text (likePattern py text)) .searches Clause.searches_inRange

/-- The statement of `list_users`: its clauses, its values, and the numbers behind `LIMIT` and
    `OFFSET`. -/
structure Statement where
  clauses : List Clause
  values : List SqlValue
  limit_pos : Nat
  offset_pos : Nat

/-- The clauses of `list_users` and their values. -/
def listUsersWhere (py : Python) (q : ListQuery) : Where :=
  ((Where.start.addFilter .role q.role).addFilter .status q.status).addQuery py q.query

/-- The statement `list_users` sends. -/
def listUsersSql (py : Python) (q : ListQuery) : Statement :=
  let w := listUsersWhere py q
  let values := w.values ++ [.int q.limit, .int q.offset]
  ⟨w.clauses, values, values.length - 1, values.length⟩

-- ── The clauses and their numbers ─────────────────────────────────────────────────

section Clauses

variable {py : Python} {lower : Str → Str} {values more : List SqlValue} {a : Account} {w : Where}

theorem parameter_append {n : Nat} (hlow : 1 ≤ n) (hhigh : n ≤ values.length) :
    parameter (values ++ more) n = parameter values n :=
  List.getElem?_append_left (by omega)

/-- A clause does not see the values that follow. -/
theorem holds_append {clause : Clause} (h : clause.InRange values.length) :
    clause.holds lower (values ++ more) a = clause.holds lower values a := by
  cases clause with
  | deletedIsNull => rfl
  | equals column n => rw [Clause.holds, Clause.holds, parameter_append h.1 h.2]
  | searches n => rw [Clause.holds, Clause.holds, parameter_append h.1 h.2]

/-- The clauses hold of a row. -/
def Where.selects (lower : Str → Str) (w : Where) (a : Account) : Bool :=
  w.clauses.all fun clause => clause.holds lower w.values a

theorem all_holds_append : (w.clauses.all fun clause => clause.holds lower (w.values ++ more) a) =
    w.selects lower a := by
  rw [Where.selects, Bool.eq_iff_iff, List.all_eq_true, List.all_eq_true]
  exact forall₂_congr fun clause hclause => by rw [holds_append (w.inRange clause hclause)]

/-- The last value is the one its clause names. -/
theorem parameter_last {value : SqlValue} :
    parameter (values ++ [value]) (values ++ [value]).length = some value := by
  rw [parameter, List.length_append, List.length_singleton, Nat.add_sub_cancel,
    List.getElem?_concat_length]

theorem selects_add {value : SqlValue} {clause : Nat → Clause}
    {hclause : ∀ n, 1 ≤ n → (clause n).InRange n} :
    (w.add value clause hclause).selects lower a =
      (w.selects lower a &&
        (clause (w.values ++ [value]).length).holds lower (w.values ++ [value]) a) := by
  show ((w.clauses ++ [_]).all fun c => c.holds lower (w.values ++ [value]) a) = _
  rw [List.all_append, all_holds_append, List.all_cons, List.all_nil, Bool.and_true]

theorem selects_addFilter {column : FilterColumn} {value : Option Str} :
    (w.addFilter column value).selects lower a =
      (w.selects lower a && (given value).all fun text => column.of a = text) := by
  rw [Where.addFilter]
  cases given value with
  | none => exact (Bool.and_true _).symm
  | some text =>
      show (w.add _ _ _).selects lower a = _
      rw [selects_add, Clause.holds, parameter_last, Option.all_some]
      congr 1
      rw [decide_eq_decide, Option.some.injEq, SqlValue.text.injEq]
      exact eq_comm

theorem selects_addQuery {query : Option Str} :
    (w.addQuery py query).selects lower a =
      (w.selects lower a && (given query).all fun text =>
        like (likePattern py text) (lower a.username) ||
          like (likePattern py text) (lower a.display_name)) := by
  rw [Where.addQuery]
  cases given query with
  | none => exact (Bool.and_true _).symm
  | some text =>
      show (w.add _ _ _).selects lower a = _
      rw [selects_add, Clause.holds, parameter_last, Option.all_some]

/-- **The statement selects what the filters say**, and its last two numbers are those of the
    limit and the offset. -/
theorem listUsersSql_selects (py : Python) (lower : Str → Str) (q : ListQuery) (a : Account) :
    ((listUsersSql py q).clauses.all fun clause =>
        clause.holds lower (listUsersSql py q).values a) = q.selects py lower a ∧
      parameter (listUsersSql py q).values (listUsersSql py q).limit_pos = some (.int q.limit) ∧
        parameter (listUsersSql py q).values (listUsersSql py q).offset_pos =
          some (.int q.offset) := by
  refine ⟨?_, ?_, ?_⟩
  · show ((listUsersWhere py q).clauses.all fun clause =>
      clause.holds lower ((listUsersWhere py q).values ++ _) a) = _
    rw [all_holds_append, listUsersWhere, selects_addQuery, selects_addFilter, selects_addFilter]
    show ((a.deleted_at.isNone && true) && _ && _ && _) = _
    rw [Bool.and_true]
    rfl
  · show parameter ((listUsersWhere py q).values ++ [SqlValue.int q.limit, SqlValue.int q.offset])
      (((listUsersWhere py q).values ++ [SqlValue.int q.limit, SqlValue.int q.offset]).length - 1) =
        _
    simp [parameter]
  · show parameter ((listUsersWhere py q).values ++ [SqlValue.int q.limit, SqlValue.int q.offset])
      ((listUsersWhere py q).values ++ [SqlValue.int q.limit, SqlValue.int q.offset]).length = _
    simp [parameter]

end Clauses

-- ── Patterns ──────────────────────────────────────────────────────────────────────

/-- The characters that stand for something else in a pattern. -/
def isSpecial (c : Char) : Bool := c = '%' || c = '_' || c = '\\'

/-- A text without such characters. -/
def Plain (text : Str) : Prop := ∀ c ∈ text, isSpecial c = false

instance : DecidablePred Plain := fun text =>
  List.decidableBAll (fun c => isSpecial c = false) text

section Patterns

variable {p t : Str} {c : Char}

theorem not_special (h : isSpecial c = false) : c ≠ '%' ∧ c ≠ '_' ∧ c ≠ '\\' := by
  simpa [isSpecial, and_assoc] using h

theorem like_cons (h : isSpecial c = false) :
    like (c :: p) t = (decide (t.head? = some c) && like p t.tail) := by
  obtain ⟨hpercent, hunderscore, hbackslash⟩ := not_special h
  rw [like]
  · exact fun he => hpercent he
  · exact fun he => hunderscore he
  · exact fun _ _ he _ => hbackslash he

theorem like_percent : like ('%' :: p) t = true ↔ ∃ s, s <:+ t ∧ like p s = true := by
  rw [like, List.any_eq_true]
  exact exists_congr fun s => and_congr_left fun _ => List.mem_tails s t

/-- A percent sign at the end matches everything. -/
theorem like_any : like ['%'] t = true :=
  like_percent.mpr ⟨[], List.nil_suffix, rfl⟩

/-- A plain beginning of a pattern is taken as it is. -/
theorem like_begins (h : Plain p) : like (p ++ ['%']) t = true ↔ p <+: t := by
  induction p generalizing t with
  | nil => exact iff_of_true like_any List.nil_prefix
  | cons c p ih =>
      rw [List.cons_append, like_cons (h c (List.mem_cons_self ..)), Bool.and_eq_true,
        decide_eq_true_eq, ih fun d hd => h d (List.mem_cons_of_mem _ hd)]
      cases t with
      | nil => exact iff_of_false (fun hhead => by cases hhead.1) (by simp)
      | cons d t =>
          show some d = some c ∧ p <+: t ↔ c :: p <+: d :: t
          rw [List.cons_prefix_cons, Option.some.injEq]
          exact and_congr_left fun _ => eq_comm

/-- **A plain pattern is a substring.** -/
theorem like_plain_iff (h : Plain p) : like ('%' :: (p ++ ['%'])) t = true ↔ p <:+: t := by
  rw [like_percent, List.infix_iff_prefix_suffix]
  exact exists_congr fun s => by rw [like_begins h, and_comm]

/-- A text that a pattern with a percent sign behind it matches: no character for a percent sign,
    some character for an underscore. -/
def instanceOf : Str → Str
  | [] => []
  | '%' :: pattern => instanceOf pattern
  | '_' :: pattern => 'a' :: instanceOf pattern
  | ['\\'] => ['%']
  | '\\' :: c :: pattern => c :: instanceOf pattern
  | c :: pattern => c :: instanceOf pattern

theorem instanceOf_cons (h : isSpecial c = false) : instanceOf (c :: p) = c :: instanceOf p := by
  obtain ⟨hpercent, hunderscore, hbackslash⟩ := not_special h
  rw [instanceOf]
  · exact fun he => hpercent he
  · exact fun he => hunderscore he
  · exact fun he => absurd he hbackslash
  · exact fun _ _ he _ => hbackslash he

/-- What is left of a pattern's characters when the three special cases are ruled out. -/
theorem special_of_last (hpercent : c = '%' → False) (hunderscore : c = '_' → False)
    (hend : c = '\\' → p = [] → False) (hpair : ∀ d q, c = '\\' → p = d :: q → False) :
    isSpecial c = false := by
  have hbackslash : c ≠ '\\' := by
    intro he
    cases p with
    | nil => exact hend he rfl
    | cons d q => exact hpair d q he rfl
  rw [isSpecial, decide_eq_false hpercent, decide_eq_false hunderscore, decide_eq_false hbackslash]
  rfl

/-- The pattern matches its instance. -/
theorem like_instanceOf (p : Str) : like (p ++ ['%']) (instanceOf p) = true := by
  induction p using instanceOf.induct with
  | case1 => exact like_any
  | case2 p ih => exact like_percent.mpr ⟨_, List.suffix_rfl, ih⟩
  | case3 p ih => exact ih
  | case4 => decide
  | case5 c p ih =>
      show (decide ((c :: instanceOf p).head? = some c) && like (p ++ ['%']) (instanceOf p)) = true
      rw [ih, Bool.and_true]
      exact decide_eq_true rfl
  | case6 c p h1 h2 h3 h4 ih =>
      have hc := special_of_last h1 h2 h3 h4
      rw [instanceOf_cons hc, List.cons_append, like_cons hc]
      show (decide (some c = some c) && like (p ++ ['%']) (instanceOf p)) = true
      rw [ih, Bool.and_true]
      exact decide_eq_true rfl

/-- An instance is no longer than its pattern. -/
theorem length_instanceOf (p : Str) : (instanceOf p).length ≤ p.length := by
  induction p using instanceOf.induct with
  | case1 => exact le_refl _
  | case2 p ih => exact ih.trans (Nat.le_succ _)
  | case3 p ih => exact Nat.succ_le_succ ih
  | case4 => exact le_refl _
  | case5 c p ih => exact (Nat.succ_le_succ ih).trans (Nat.le_succ _)
  | case6 c p h1 h2 h3 h4 ih =>
      rw [instanceOf_cons (special_of_last h1 h2 h3 h4)]
      exact Nat.succ_le_succ ih

/-- The instance of a pattern that is not plain is another text. -/
theorem plain_of_instanceOf_eq (h : instanceOf p = p) : Plain p := by
  induction p using instanceOf.induct with
  | case1 => exact fun _ hc => absurd hc List.not_mem_nil
  | case2 p ih =>
      have hlen := length_instanceOf p
      have heq : instanceOf p = '%' :: p := h
      rw [heq, List.length_cons] at hlen
      omega
  | case3 p ih => exact absurd (List.cons.inj h).1 (by decide)
  | case4 => exact absurd h (by decide)
  | case5 c p ih =>
      have hlen := length_instanceOf p
      have heq : c :: instanceOf p = '\\' :: c :: p := h
      rw [(List.cons.inj heq).2, List.length_cons] at hlen
      omega
  | case6 c p h1 h2 h3 h4 ih =>
      have hc := special_of_last h1 h2 h3 h4
      rw [instanceOf_cons hc] at h
      intro d hd
      rcases List.mem_cons.mp hd with rfl | hd
      · exact hc
      · exact ih (List.cons.inj h).2 d hd

/-- The pattern does not occur in its instance unless it is plain. -/
theorem not_infix_instanceOf (h : ¬ Plain p) : ¬ p <:+: instanceOf p := by
  intro hpart
  exact h (plain_of_instanceOf_eq (hpart.eq_of_length_le (length_instanceOf p)).symm)

/-- The characters of an instance. -/
theorem mem_instanceOf (hc : c ∈ instanceOf p) : c ∈ p ∨ c = 'a' ∨ c = '%' := by
  induction p using instanceOf.induct with
  | case1 => exact absurd hc List.not_mem_nil
  | case2 p ih => exact (ih hc).imp_left (List.mem_cons_of_mem _)
  | case3 p ih =>
      rcases List.mem_cons.mp hc with rfl | hc
      · exact Or.inr (Or.inl rfl)
      · exact (ih hc).imp_left (List.mem_cons_of_mem _)
  | case4 => exact Or.inr (Or.inr (List.mem_singleton.mp hc))
  | case5 d p ih =>
      rcases List.mem_cons.mp hc with rfl | hc
      · exact Or.inl (List.mem_cons_of_mem _ (List.mem_cons_self ..))
      · exact (ih hc).imp_left fun h => List.mem_cons_of_mem _ (List.mem_cons_of_mem _ h)
  | case6 d p h1 h2 h3 h4 ih =>
      rw [instanceOf_cons (special_of_last h1 h2 h3 h4)] at hc
      rcases List.mem_cons.mp hc with rfl | hc
      · exact Or.inl (List.mem_cons_self ..)
      · exact (ih hc).imp_left (List.mem_cons_of_mem _)

end Patterns

-- ── What the search selects ───────────────────────────────────────────────────────

/-- A text without a NUL, or a number. -/
def SqlValue.encodes : SqlValue → Bool
  | .text value => value.all (· ≠ '\x00')
  | .int _ => true

/-- The rows that the statement selects before paging; `none` if a text cannot be sent. -/
def selectedRows (py : Python) (q : ListQuery) (s : Store) : Option (List Account) :=
  let sql := listUsersSql py q
  if sql.values.all SqlValue.encodes then
    some (s.accounts.rows.filter fun a => sql.clauses.all fun clause =>
      clause.holds py.lower sql.values a)
  else none

/-- The filters by role and status. -/
def filtersAdmit (q : ListQuery) (role : Role) (status : AccountStatus) : Bool :=
  (given q.role).all (fun text => role.text = text) &&
    (given q.status).all fun text => status.text = text

/-- The accounts a search for a substring finds. -/
def wanted (py : Python) (q : ListQuery) (query : Str) (a : Account) : Bool :=
  a.deleted_at.isNone && filtersAdmit q a.role a.status &&
    (contains (py.lower query) (py.lower a.username) ||
      contains (py.lower query) (py.lower a.display_name))

/-- What is used of `lower()`: it leaves texts of lower-cased characters as they are. -/
def LowerFixes (py : Python) : Prop :=
  ∀ text, (∀ c ∈ text, ∃ s, c ∈ py.lower s) → py.lower text = text

/-- No text of the request has a NUL. -/
def Sendable (py : Python) (q : ListQuery) (query : Str) : Prop :=
  ∀ text ∈ (given q.role).toList ++ (given q.status).toList ++ [py.lower query], '\x00' ∉ text

instance (py : Python) (q : ListQuery) (query : Str) : Decidable (Sendable py q query) :=
  inferInstanceAs (Decidable (∀ text ∈ _, _))

section Search

variable {py : Python} {q : ListQuery} {query : Str}

/-- The values of the statement. -/
theorem listUsersSql_values (py : Python) (q : ListQuery) :
    (listUsersSql py q).values =
      ((given q.role).toList ++ (given q.status).toList ++
        ((given q.query).map (likePattern py)).toList).map .text ++
          [.int q.limit, .int q.offset] := by
  rw [listUsersSql, listUsersWhere, Where.addQuery, Where.addFilter, Where.addFilter]
  cases given q.role <;> cases given q.status <;> cases given q.query <;> rfl

/-- **The listing is a page of the selected rows.** -/
theorem listUsers_eq_page {env : Env} (hdb : env.settings.database_enabled = true)
    (hoffset : q.offset < 2 ^ 63) (scan : Scan Account) (s : Store) :
    (listUsers env.py env.settings env.py.lower scan q).eval s =
      match selectedRows env.py q s with
      | some rows => .ok (((orderByDesc scan (·.created_at) rows).drop q.offset).take q.limit, s)
      | none => .error .dataError := by
  have hencodes : q.encodes env.py = (listUsersSql env.py q).values.all SqlValue.encodes := by
    rw [listUsersSql_values, List.all_append, List.all_map, ListQuery.encodes,
      decide_eq_true hoffset]
    rfl
  have hselects : (fun a => (listUsersSql env.py q).clauses.all fun clause =>
      clause.holds env.py.lower (listUsersSql env.py q).values a) = q.selects env.py env.py.lower :=
    funext fun a => (listUsersSql_selects env.py env.py.lower q a).1
  rw [eval_listUsers hdb, selectedRows, hencodes]
  show _ = match (if (listUsersSql env.py q).values.all SqlValue.encodes = true then
    some (s.accounts.rows.filter fun a => (listUsersSql env.py q).clauses.all fun clause =>
      clause.holds env.py.lower (listUsersSql env.py q).values a) else none) with
    | some rows => _
    | none => _
  rw [hselects]
  split
  · rfl
  · rfl

theorem all_ne_nul {text : Str} : (text.all fun c => decide (c ≠ '\x00')) = true ↔
    '\x00' ∉ text := by
  rw [List.all_eq_true]
  constructor
  · intro h hmem
    exact of_decide_eq_true (h _ hmem) rfl
  · intro h c hc
    exact decide_eq_true fun he => h (he ▸ hc)

/-- The percent signs around the query make no difference to a NUL. -/
theorem likePattern_nul : '\x00' ∈ likePattern py query ↔ '\x00' ∈ py.lower query := by
  rw [likePattern, List.mem_cons, List.mem_append, List.mem_singleton]
  constructor
  · rintro (h | h | h)
    · exact absurd h (by decide)
    · exact h
    · exact absurd h (by decide)
  · exact fun h => Or.inr (Or.inl h)

/-- The values can be sent exactly if no text of the request has a NUL. -/
theorem encodes_iff (hquery : given q.query = some query) :
    (listUsersSql py q).values.all SqlValue.encodes = true ↔ Sendable py q query := by
  have hvalues : (listUsersSql py q).values.all SqlValue.encodes =
      (((given q.role).toList ++ (given q.status).toList ++ [likePattern py query]).all
        fun text => text.all fun c => decide (c ≠ '\x00')) := by
    rw [listUsersSql_values, hquery, List.all_append, List.all_map]
    exact Bool.and_true _
  rw [hvalues, Sendable, List.all_eq_true]
  simp only [List.forall_mem_append, List.forall_mem_singleton, all_ne_nul, likePattern_nul]

/-- The rows selected: those of the filters whose name matches the pattern. -/
theorem selectedRows_eq (hquery : given q.query = some query) (s : Store) :
    selectedRows py q s =
      if (listUsersSql py q).values.all SqlValue.encodes = true then
        some (s.accounts.rows.filter fun a => a.deleted_at.isNone &&
          filtersAdmit q a.role a.status &&
          (like (likePattern py query) (py.lower a.username) ||
            like (likePattern py query) (py.lower a.display_name)))
      else none := by
  have hselects : (fun a => (listUsersSql py q).clauses.all fun clause =>
      clause.holds py.lower (listUsersSql py q).values a) = fun a =>
        a.deleted_at.isNone && filtersAdmit q a.role a.status &&
          (like (likePattern py query) (py.lower a.username) ||
            like (likePattern py query) (py.lower a.display_name)) := by
    funext a
    rw [(listUsersSql_selects py py.lower q a).1, ListQuery.selects, hquery, Option.all_some,
      filtersAdmit, Bool.and_assoc a.deleted_at.isNone]
  rw [← hselects]
  rfl

/-- A row with an instance of the pattern as its display name. -/
def matchingRow (py : Python) (query : Str) (role : Role) (status : AccountStatus) : Account :=
  { sampleAccount 1 ['a'] role status with display_name := instanceOf (py.lower query) }

/-- A text of one ASCII character that is no capital is its own lower case. -/
theorem lower_single {c : Char} (hc : isAscii c = true) (hlow : c.toLower = c) :
    py.lower [c] = [c] := by
  rw [py.lower_ascii [c] fun d hd => List.mem_singleton.mp hd ▸ hc, List.map_singleton, hlow]

/-- The display name of the row is in lower case. -/
theorem lower_instance (hlower : LowerFixes py) (query : Str) :
    py.lower (instanceOf (py.lower query)) = instanceOf (py.lower query) := by
  refine hlower _ fun c hc => ?_
  rcases mem_instanceOf hc with hc | rfl | rfl
  · exact ⟨query, hc⟩
  · exact ⟨['a'], by rw [lower_single (by decide) (by decide)]; exact List.mem_cons_self ..⟩
  · exact ⟨['%'], by rw [lower_single (by decide) (by decide)]; exact List.mem_cons_self ..⟩

/-- A text of the letter `a` is plain. -/
theorem plain_of_part {p : Str} (h : p <:+: ['a']) : Plain p := by
  intro c hc
  rw [List.mem_singleton.mp (h.subset hc)]
  rfl

/-- The statement selects the row, and the query is in neither of its names. -/
theorem matchingRow_differs (hlower : LowerFixes py) (role : Role) (status : AccountStatus)
    (hplain : ¬ Plain (py.lower query)) :
    contains (py.lower query) (py.lower (matchingRow py query role status).username) = false ∧
      contains (py.lower query) (py.lower (matchingRow py query role status).display_name) = false ∧
        like (likePattern py query) (py.lower (matchingRow py query role status).display_name) =
          true := by
  refine ⟨decide_eq_false fun h => ?_, decide_eq_false fun h => ?_, ?_⟩
  · have hname : py.lower (matchingRow py query role status).username = ['a'] :=
      lower_single (by decide) (by decide)
    rw [hname] at h
    exact hplain (plain_of_part h)
  · rw [matchingRow, lower_instance hlower] at h
    exact not_infix_instanceOf hplain h
  · rw [matchingRow, lower_instance hlower, likePattern, like_percent]
    exact ⟨_, List.suffix_rfl, like_instanceOf _⟩

/-- A table of one row. -/
def oneRow (a : Account) : Store :=
  { Store.empty with accounts := ⟨[a], List.pairwise_singleton ..⟩ }

/-- The search for a plain query is the search for a substring. -/
theorem like_eq_contains (hplain : Plain (py.lower query)) (t : Str) :
    like (likePattern py query) t = contains (py.lower query) t := by
  rw [Bool.eq_iff_iff, likePattern, like_plain_iff hplain, contains, decide_eq_true_eq]

/-- **The search is plain exactly for plain queries.** The statement selects the accounts whose
    name contains the query, from every table, exactly if the request can be sent and the
    lower-cased query has no character that a pattern treats specially, or the filters admit no
    role or no status. -/
theorem search_exact_iff {py : Python} (hlower : LowerFixes py) (q : ListQuery) {query : Str}
    (hquery : given q.query = some query) :
    (∀ s : Store, selectedRows py q s = some (s.accounts.rows.filter (wanted py q query))) ↔
      Sendable py q query ∧
        (Plain (py.lower query) ∨ ¬ ∃ role status, filtersAdmit q role status = true) := by
  constructor
  · intro h
    have hsent : (listUsersSql py q).values.all SqlValue.encodes = true := by
      have hempty := h Store.empty
      rw [selectedRows_eq hquery] at hempty
      by_contra hno
      rw [if_neg hno] at hempty
      cases hempty
    refine ⟨(encodes_iff hquery).mp hsent, ?_⟩
    by_contra hcon
    obtain ⟨hplain, hadmits⟩ := not_or.mp hcon
    obtain ⟨role, status, hadmits⟩ := not_not.mp hadmits
    -- the table of the one row that the pattern matches
    obtain ⟨husername, hdisplay, hlike⟩ := matchingRow_differs hlower role status hplain
    have hrow := h (oneRow (matchingRow py query role status))
    rw [selectedRows_eq hquery, if_pos hsent, Option.some.injEq] at hrow
    have hmem : matchingRow py query role status ∈
        (oneRow (matchingRow py query role status)).accounts.rows.filter (wanted py q query) := by
      rw [← hrow]
      refine List.mem_filter.mpr ⟨List.mem_singleton.mpr rfl, ?_⟩
      rw [hlike, Bool.or_true, Bool.and_true]
      exact hadmits
    have hwanted := (List.mem_filter.mp hmem).2
    rw [wanted, husername, hdisplay, Bool.or_false, Bool.and_false] at hwanted
    cases hwanted
  · rintro ⟨hsendable, hcases⟩ s
    rw [selectedRows_eq hquery, if_pos ((encodes_iff hquery).mpr hsendable)]
    refine congrArg some (List.filter_congr fun a _ => ?_)
    rw [wanted]
    rcases hcases with hplain | hnone
    · rw [like_eq_contains hplain, like_eq_contains hplain]
    · have hadmits : filtersAdmit q a.role a.status = false :=
        Bool.eq_false_iff.mpr fun h => hnone ⟨_, _, h⟩
      rw [hadmits, Bool.and_false, Bool.false_and, Bool.false_and]

end Search

-- ── Two searches ──────────────────────────────────────────────────────────────────

/-- The law holds of ASCII. -/
theorem asciiOnly_lowerFixes : LowerFixes .asciiOnly := by
  intro text h
  show text.map Char.toLower = text
  refine (List.map_congr_left fun c hc => ?_).trans (List.map_id text)
  obtain ⟨s, hs⟩ := h c hc
  obtain ⟨d, _, rfl⟩ := List.mem_map.mp hs
  exact toLower_toLower d

/-- A search with the given text and no filters. -/
def searchFor (query : Str) (h : query.length ≤ 100) : ListQuery where
  query := some query
  query_length := by
    intro text htext
    rw [← Option.some.inj htext]
    exact h
  limit_bounds := by omega

/-- A table of one account. -/
def oneUser (username : Str) : Store := oneRow (sampleAccount 1 username .OPERATOR .ACTIVE)

/-- A search for letters finds what it should. -/
theorem letters_found :
    selectedRows .asciiOnly (searchFor (str "Ope") (by decide)) (oneUser (str "operator")) =
      some ((oneUser (str "operator")).accounts.rows.filter
        (wanted .asciiOnly (searchFor (str "Ope") (by decide)) (str "Ope"))) :=
  (search_exact_iff asciiOnly_lowerFixes (searchFor (str "Ope") (by decide)) rfl).mpr
    ⟨by decide, Or.inl (by decide)⟩ (oneUser (str "operator"))

/-- **An underscore stands for any character.** The search for the user name `a_1` finds `ab1`. -/
theorem underscore_finds_other :
    ¬ ∀ (py : Python) (q : ListQuery) (query : Str) (s : Store), LowerFixes py →
      given q.query = some query →
        selectedRows py q s = some (s.accounts.rows.filter (wanted py q query)) := by
  intro h
  have hrows := h .asciiOnly (searchFor (str "a_1") (by decide)) (str "a_1")
    (oneUser (str "ab1")) asciiOnly_lowerFixes rfl
  exact absurd hrows (by decide +kernel)

end NetProbeUserSearch
