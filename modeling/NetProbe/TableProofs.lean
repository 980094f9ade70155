import Mathlib.Data.List.Basic
import Mathlib.Data.List.Pairwise

/-!
# Tables with uniqueness constraints

A table is a list of rows no two of which clash, where `clash` is the disjunction of the
declared uniqueness constraints (primary key, unique columns; a nullable unique column
clashes only on two values that are present).  The constraint is a field, so a table that
violates it cannot be built and no proof has to re-establish it.

Every change goes through `alter`: a statement that would leave two clashing rows is not
carried out (the database raises a unique violation and the statement has no effect).
`Accepts` is the decidable test the database makes.  The three statements of SQL are
instances: `updateWhere` for UPDATE, appending a row for INSERT, `List.filter` for DELETE.
An UPDATE that leaves the constrained columns alone is always accepted
(`accepts_updateWhere`).
-/

namespace UniqueTable

variable {ρ : Type} {clash : ρ → ρ → Bool}

/-- Rows no two of which clash. -/
structure Table (ρ : Type) (clash : ρ → ρ → Bool) where
  rows : List ρ
  distinct : rows.Pairwise fun a b => clash a b = false

/-- The statement-level test: the changed rows still satisfy the constraints. -/
def Table.Accepts (t : Table ρ clash) (g : List ρ → List ρ) : Prop :=
  (g t.rows).Pairwise fun a b => clash a b = false

instance (t : Table ρ clash) (g : List ρ → List ρ) : Decidable (t.Accepts g) :=
  inferInstanceAs (Decidable ((g t.rows).Pairwise fun a b => clash a b = false))

/-- Carry out a change if the constraints allow it, else change nothing. -/
def Table.alter (t : Table ρ clash) (g : List ρ → List ρ) : Table ρ clash :=
  if h : t.Accepts g then ⟨g t.rows, h⟩ else t

/-- The table without rows. -/
def Table.empty : Table ρ clash := ⟨[], .nil⟩

theorem alter_rows {t : Table ρ clash} {g : List ρ → List ρ} (h : t.Accepts g) :
    (t.alter g).rows = g t.rows := by
  rw [Table.alter]
  rw [dif_pos h]

/-- Whatever the database decides, the rows are the changed ones or the old ones. -/
theorem alter_rows_cases (t : Table ρ clash) (g : List ρ → List ρ) :
    (t.alter g).rows = g t.rows ∨ (t.alter g).rows = t.rows := by
  by_cases h : t.Accepts g
  · exact Or.inl (alter_rows h)
  · refine Or.inr ?_
    rw [Table.alter]
    rw [dif_neg h]

/-- A change that leaves the rows as they are changes nothing. -/
theorem alter_eq_self {t : Table ρ clash} {g : List ρ → List ρ} (h : g t.rows = t.rows) :
    t.alter g = t := by
  have hacc : t.Accepts g := by
    rw [Table.Accepts]
    rw [h]
    exact t.distinct
  rw [Table.alter]
  rw [dif_pos hacc]
  simp only [h]

/-- `UPDATE ... SET f WHERE p`, on the list of rows. -/
def updateWhere (p : ρ → Bool) (f : ρ → ρ) (rows : List ρ) : List ρ :=
  rows.map fun r => if p r then f r else r

theorem mem_updateWhere {p : ρ → Bool} {f : ρ → ρ} {rows : List ρ} {x : ρ} :
    x ∈ updateWhere p f rows ↔ ∃ r ∈ rows, (if p r then f r else r) = x := by
  simp [updateWhere]

/-- A row that the WHERE clause does not select survives the update. -/
theorem mem_updateWhere_of_not {p : ρ → Bool} {f : ρ → ρ} {rows : List ρ} {r : ρ}
    (hr : r ∈ rows) (hp : p r = false) : r ∈ updateWhere p f rows := by
  refine mem_updateWhere.mpr ⟨r, hr, ?_⟩
  simp [hp]

/-- Updates of no row change nothing. -/
theorem updateWhere_none {p : ρ → Bool} {f : ρ → ρ} {rows : List ρ}
    (h : ∀ r ∈ rows, p r = false) : updateWhere p f rows = rows := by
  induction rows with
  | nil => rfl
  | cons r rows ih =>
      have hr : p r = false := h r (by simp)
      have ht : updateWhere p f rows = rows := ih fun x hx => h x (List.mem_cons_of_mem _ hx)
      show (if p r then f r else r) :: updateWhere p f rows = r :: rows
      rw [ht, if_neg (by simp [hr])]

section Accepted

variable {t : Table ρ clash}

/-- An UPDATE that leaves the constrained columns alone violates nothing. -/
theorem accepts_updateWhere {p : ρ → Bool} {f : ρ → ρ}
    (h : ∀ a b, clash (f a) b = clash a b ∧ clash a (f b) = clash a b) :
    t.Accepts (updateWhere p f) := by
  have key : ∀ a b, clash (if p a then f a else a) (if p b then f b else b) = clash a b := by
    intro a b
    by_cases ha : p a = true <;> by_cases hb : p b = true <;> simp [ha, hb, (h _ _).1, (h _ _).2]
  refine List.pairwise_map.mpr (t.distinct.imp ?_)
  intro a b hab
  rw [key a b]
  exact hab

/-- A DELETE violates nothing. -/
theorem accepts_filter {p : ρ → Bool} : t.Accepts (List.filter p) :=
  t.distinct.filter p

/-- An INSERT is accepted exactly when no row present clashes with the new one. -/
theorem accepts_append_iff {r : ρ} :
    t.Accepts (· ++ [r]) ↔ ∀ x ∈ t.rows, clash x r = false := by
  constructor
  · intro h x hx
    exact (List.pairwise_append.mp h).2.2 x hx r (by simp)
  · intro h
    refine List.pairwise_append.mpr ⟨t.distinct, List.pairwise_singleton _ _, ?_⟩
    intro x hx y hy
    have hyr : y = r := by simpa using hy
    rw [hyr]
    exact h x hx

/-- Two rows of a table that clash are the same row. -/
theorem eq_of_clash (hsymm : ∀ a b, clash a b = clash b a) {a b : ρ}
    (ha : a ∈ t.rows) (hb : b ∈ t.rows) (hab : clash a b = true) : a = b := by
  by_contra hne
  have hfalse : clash a b = false := by
    have hs : Std.Symm fun a b => clash a b = false := by
      refine ⟨fun x y hxy => ?_⟩
      rw [hsymm]
      exact hxy
    exact t.distinct.forall ha hb hne
  rw [hfalse] at hab
  exact Bool.noConfusion hab

/-- An UPDATE of the one row a selection has is accepted exactly when the new row clashes with
    none of the others. -/
theorem accepts_updateOne_iff (hsymm : ∀ a b, clash a b = clash b a) {p : ρ → Bool}
    {f : ρ → ρ} {r : ρ}
    (hp : ∀ a b, p a = true → p b = true → clash a b = true) (hr : r ∈ t.rows) (hpr : p r = true) :
    t.Accepts (updateWhere p f) ↔ ∀ x ∈ t.rows, p x = false → clash x (f r) = false := by
  have hone : ∀ x ∈ t.rows, p x = true → x = r := fun x hx hpx =>
    eq_of_clash hsymm hx hr (hp x r hpx hpr)
  constructor
  · intro h x hx hpx
    have hs : Std.Symm fun a b => clash (if p a then f a else a) (if p b then f b else b) =
        false := by
      refine ⟨fun a b hab => ?_⟩
      rw [hsymm]
      exact hab
    have hne : x ≠ r := by
      rintro rfl
      rw [hpr] at hpx
      cases hpx
    have hclash := (List.pairwise_map.mp h).forall hx hr hne
    rw [if_neg (by simp [hpx]), if_pos hpr] at hclash
    exact hclash
  · intro h
    refine List.pairwise_map.mpr (t.distinct.imp_of_mem fun {a b} ha hb hab => ?_)
    by_cases hpa : p a = true
    · by_cases hpb : p b = true
      · rw [hp a b hpa hpb] at hab
        cases hab
      · rw [if_pos hpa, if_neg hpb, hone a ha hpa, hsymm]
        exact h b hb (by simpa using hpb)
    · rw [if_neg hpa]
      by_cases hpb : p b = true
      · rw [if_pos hpb, hone b hb hpb]
        exact h a ha (by simpa using hpa)
      · rw [if_neg hpb]
        exact hab

/-- A selection that only clashing rows can share returns the one row it has. -/
theorem find?_of_mem (hsymm : ∀ a b, clash a b = clash b a) {p : ρ → Bool} {r : ρ}
    (hp : ∀ a b, p a = true → p b = true → clash a b = true)
    (hr : r ∈ t.rows) (hpr : p r = true) : t.rows.find? p = some r := by
  cases hf : t.rows.find? p with
  | none =>
      have := List.find?_eq_none.mp hf r hr
      exact absurd hpr this
  | some x =>
      have hx : x ∈ t.rows := List.mem_of_find?_eq_some hf
      have hpx : p x = true := List.find?_some hf
      rw [eq_of_clash hsymm hx hr (hp x r hpx hpr)]

/-- Such a selection finds exactly the row it selects. -/
theorem find?_eq_some_iff_mem (hsymm : ∀ a b, clash a b = clash b a) {p : ρ → Bool} {r : ρ}
    (hp : ∀ a b, p a = true → p b = true → clash a b = true) :
    t.rows.find? p = some r ↔ r ∈ t.rows ∧ p r = true := by
  constructor
  · exact fun h => ⟨List.mem_of_find?_eq_some h, List.find?_some h⟩
  · exact fun h => find?_of_mem hsymm hp h.1 h.2

/-- Tables that agree on the rows it selects answer such a selection alike. -/
theorem find?_congr {t' : Table ρ clash} (hsymm : ∀ a b, clash a b = clash b a) {p : ρ → Bool}
    (hp : ∀ a b, p a = true → p b = true → clash a b = true)
    (h : ∀ r, p r = true → (r ∈ t.rows ↔ r ∈ t'.rows)) : t.rows.find? p = t'.rows.find? p := by
  refine Option.ext fun r => ?_
  rw [find?_eq_some_iff_mem hsymm hp, find?_eq_some_iff_mem hsymm hp]
  exact and_congr_left (h r)

/-- The rows of such a selection are the one row. -/
theorem filter_of_mem (hsymm : ∀ a b, clash a b = clash b a) {p : ρ → Bool} {r : ρ}
    (hp : ∀ a b, p a = true → p b = true → clash a b = true)
    (hr : r ∈ t.rows) (hpr : p r = true) : t.rows.filter p = [r] := by
  have hmem : ∀ x ∈ t.rows.filter p, x = r := by
    intro x hx
    obtain ⟨hxrow, hpx⟩ := List.mem_filter.mp hx
    exact eq_of_clash hsymm hxrow hr (hp x r hpx hpr)
  have hpair := t.distinct.filter p
  have hrmem : r ∈ t.rows.filter p := List.mem_filter.mpr ⟨hr, hpr⟩
  generalize t.rows.filter p = rows at hmem hpair hrmem
  match rows with
  | [] => cases hrmem
  | [x] => rw [hmem x (by simp)]
  | x :: y :: rest =>
      have hxy := (List.pairwise_cons.mp hpair).1 y (by simp)
      rw [hmem x (by simp), hmem y (by simp), hp r r hpr hpr] at hxy
      cases hxy

end Accepted

end UniqueTable
