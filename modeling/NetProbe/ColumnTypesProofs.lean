import NetProbe.InetProofs

/-!
# What columns take

The types of the columns that are not of one size, and the values that PostgreSQL takes into them.
A text is no value of any column if it holds a NUL.  A text that is too long for its `varchar(n)`
is refused as well, unless what is too much of it are blanks: then it is cut.  An address is a text
that the driver can read as one, an array a list of such values.
-/

namespace NetProbeColumnTypes

open NetProbePyText NetProbeInet

-- ── Texts ─────────────────────────────────────────────────────────────────────────

/-- A text without a NUL. -/
def nulFree (text : Str) : Bool := text.all (· ≠ '\x00')

/-- Whatever is too much of a text for `varchar(n)` are blanks. -/
def blankBehind (n : Nat) (text : Str) : Bool := (text.drop n).all (· = ' ')

/-- A text fits a `varchar(n)`. -/
def fits (n : Nat) (text : Str) : Bool := nulFree text && blankBehind n text

/-- What a `varchar(n)` keeps of a text that fits it. -/
def cut (n : Nat) (text : Str) : Str := if blankBehind n text then text.take n else text

section Texts

variable {n : Nat} {text a b : Str}

theorem nulFree_iff : nulFree text = true ↔ '\x00' ∉ text := by
  rw [nulFree, List.all_eq_true]
  constructor
  · intro h hmem
    exact of_decide_eq_true (h _ hmem) rfl
  · intro h c hc
    exact decide_eq_true fun heq => h (heq ▸ hc)

@[simp] theorem nulFree_append : nulFree (a ++ b) = (nulFree a && nulFree b) := List.all_append

theorem nulFree_of_subset (h : nulFree b = true) (hsub : a ⊆ b) : nulFree a = true :=
  nulFree_iff.mpr fun hmem => nulFree_iff.mp h (hsub hmem)

theorem nulFree_take (h : nulFree text = true) : nulFree (text.take n) = true :=
  nulFree_of_subset h (List.take_subset n text)

/-- What is no longer than its column leaves nothing behind. -/
theorem blankBehind_of_le (h : text.length ≤ n) : blankBehind n text = true := by
  rw [blankBehind, List.drop_of_length_le h]
  rfl

theorem fits_of_le (h : text.length ≤ n) : fits n text = nulFree text := by
  rw [fits, blankBehind_of_le h, Bool.and_true]

/-- A text that was cut on the way is short enough. -/
@[simp] theorem fits_take : fits n (text.take n) = nulFree (text.take n) :=
  fits_of_le (List.length_take_le _ _)

/-- A wider column takes as much. -/
theorem fits_mono {m : Nat} (h : fits n text = true) (hle : n ≤ m) : fits m text = true := by
  obtain ⟨hnul, hblank⟩ := Bool.and_eq_true_iff.mp h
  refine Bool.and_eq_true_iff.mpr ⟨hnul, ?_⟩
  rw [blankBehind, List.all_eq_true] at hblank ⊢
  exact fun c hc => hblank c ((List.drop_sublist_drop_left text hle).subset hc)

theorem cut_of_le (h : text.length ≤ n) : cut n text = text := by
  rw [cut, List.take_of_length_le h, ite_self]

@[simp] theorem cut_take : cut n (text.take n) = text.take n := cut_of_le (List.length_take_le _ _)

end Texts

-- ── Columns ───────────────────────────────────────────────────────────────────────

/-- The types of the columns. -/
inductive ColumnType where
  | varchar (n : Nat)
  | text
  | texts
  | inet
  | inets
  | smallint
  | integer
  | bigint
  deriving DecidableEq, Repr

/-- The values that go into them. -/
inductive ColumnValue where
  | null
  | text (value : Str)
  | texts (values : List Str)
  | int (value : Int)
  deriving DecidableEq, Repr

def textOrNull : Option Str → ColumnValue
  | none => .null
  | some value => .text value

def intOrNull : Option Int → ColumnValue
  | none => .null
  | some value => .int value

/-- A text that the driver sends as an address. -/
def isInet (text : Str) : Bool := (inetEncode text).isSome

/-- PostgreSQL takes the value into a column of the type. -/
def ColumnType.takes : ColumnType → ColumnValue → Bool
  | _, .null => true
  | .varchar n, .text value => fits n value
  | .text, .text value => nulFree value
  | .texts, .texts values => values.all nulFree
  | .inet, .text value => isInet value
  | .inets, .texts values => values.all isInet
  | .smallint, .int value => -32768 ≤ value && value ≤ 32767
  | .integer, .int value => -2147483648 ≤ value && value ≤ 2147483647
  | .bigint, .int value => -9223372036854775808 ≤ value && value ≤ 9223372036854775807
  | _, _ => false

/-- A column of a row with its value. -/
structure Column where
  name : String
  type : ColumnType
  value : ColumnValue

/-- Every value of a list of columns is taken. -/
def Fit (columns : List Column) : Prop := ∀ column ∈ columns, column.type.takes column.value = true

instance (columns : List Column) : Decidable (Fit columns) :=
  inferInstanceAs (Decidable (∀ column ∈ columns, column.type.takes column.value = true))

section Takes

variable {t : ColumnType} {n : Nat} {s : Str} {ss : List Str} {k : Int}

@[simp] theorem takes_null : t.takes .null = true := by cases t <;> rfl

@[simp] theorem takes_varchar : (ColumnType.varchar n).takes (.text s) = fits n s := rfl

@[simp] theorem takes_text : ColumnType.text.takes (.text s) = nulFree s := rfl

@[simp] theorem takes_texts : ColumnType.texts.takes (.texts ss) = ss.all nulFree := rfl

@[simp] theorem takes_inet : ColumnType.inet.takes (.text s) = isInet s := rfl

@[simp] theorem takes_inets : ColumnType.inets.takes (.texts ss) = ss.all isInet := rfl

@[simp] theorem takes_smallint :
    ColumnType.smallint.takes (.int k) = true ↔ -32768 ≤ k ∧ k ≤ 32767 := by
  simp [ColumnType.takes]

@[simp] theorem takes_integer :
    ColumnType.integer.takes (.int k) = true ↔ -2147483648 ≤ k ∧ k ≤ 2147483647 := by
  simp [ColumnType.takes]

@[simp] theorem takes_bigint : ColumnType.bigint.takes (.int k) = true ↔
    -9223372036854775808 ≤ k ∧ k ≤ 9223372036854775807 := by
  simp [ColumnType.takes]

theorem textOrNull_takes {value : Option Str} :
    t.takes (textOrNull value) = true ↔ ∀ text, value = some text →
      t.takes (.text text) = true := by
  cases value with
  | none => exact iff_of_true takes_null fun _ h => by cases h
  | some text => exact ⟨fun h _ ht => Option.some.inj ht ▸ h, fun h => h text rfl⟩

theorem intOrNull_takes {value : Option Int} :
    t.takes (intOrNull value) = true ↔ ∀ n, value = some n → t.takes (.int n) = true := by
  cases value with
  | none => exact iff_of_true takes_null fun _ h => by cases h
  | some n => exact ⟨fun h _ hn => Option.some.inj hn ▸ h, fun h => h n rfl⟩

@[simp] theorem fit_nil : Fit [] ↔ True := iff_of_true (fun _ h => by cases h) trivial

@[simp] theorem fit_cons {c : Column} {cs : List Column} :
    Fit (c :: cs) ↔ c.type.takes c.value = true ∧ Fit cs := List.forall_mem_cons

theorem fit_append {cs ds : List Column} : Fit (cs ++ ds) ↔ Fit cs ∧ Fit ds :=
  List.forall_mem_append

end Takes

end NetProbeColumnTypes
