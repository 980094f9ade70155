import Mathlib.Data.List.Basic
import Mathlib.Data.List.DropRight
import Mathlib.Data.List.Infix

/-!
# Python text

A Python `str` is a sequence of code points; here it is a list of characters (`Str`).  The
string methods the program calls are defined on it under their own names: `partition`,
`rpartition`, `split`, `strip`, `replace`, `startswith`, `endswith`.

What a method takes from the Unicode tables of the interpreter (`lower`, `isspace`,
`isdigit`, the value of a decimal digit, NFKC, the two steps of IDNA) is a field of
`Python`; on ASCII these fields are what the language documents, which is what the laws
of the structure say.  Everything proved later holds for every such table.
-/

namespace NetProbePyText

/-- A Python string: its code points in order. -/
abbrev Str := List Char

/-- A string literal. -/
def str (s : String) : Str := s.toList

/-- `str.isascii` for one character. -/
def isAscii (c : Char) : Bool := c.toNat < 128

/-- ASCII decimal digit. -/
def isAsciiDigit (c : Char) : Bool := '0' ≤ c && c ≤ '9'

/-- ASCII white space: what `str.isspace` accepts among the first 128 code points. -/
def isAsciiSpace (c : Char) : Bool :=
  (9 ≤ c.toNat && c.toNat ≤ 13) || (28 ≤ c.toNat && c.toNat ≤ 32)

/-- The tables of the interpreter. -/
structure Python where
  /-- `str.lower` -/
  lower : Str → Str
  /-- `str.isspace`, for one character -/
  isSpace : Char → Bool
  /-- `str.isdigit`, for one character -/
  isDigit : Char → Bool
  /-- the value of a character that `int()` accepts as a decimal digit -/
  decimal : Char → Option Nat
  /-- `unicodedata.normalize("NFKC", ·)` -/
  nfkc : Str → Str
  /-- `encodings.idna.nameprep`, or the `UnicodeError` it raises -/
  nameprep : Str → Option Str
  /-- the `punycode` codec -/
  punycode : Str → Str
  /-- whether the classification of an IPv4-mapped IPv6 address is that of the embedded
      IPv4 address (the later patch releases) or that of `::/8` -/
  mappedDelegates : Bool
  lower_ascii : ∀ s : Str, (∀ c ∈ s, isAscii c = true) → lower s = s.map Char.toLower
  isSpace_ascii : ∀ c, isAscii c = true → isSpace c = isAsciiSpace c
  isDigit_ascii : ∀ c, isAscii c = true → isDigit c = isAsciiDigit c
  decimal_ascii : ∀ c, isAscii c = true →
    decimal c = if isAsciiDigit c then some (c.toNat - '0'.toNat) else none

/-- An interpreter whose tables know ASCII only. -/
def Python.asciiOnly : Python where
  lower := fun s => s.map Char.toLower
  isSpace := isAsciiSpace
  isDigit := isAsciiDigit
  decimal := fun c => if isAsciiDigit c then some (c.toNat - '0'.toNat) else none
  nfkc := id
  nameprep := some
  punycode := id
  mappedDelegates := true
  lower_ascii := fun _ _ => rfl
  isSpace_ascii := fun _ _ => rfl
  isDigit_ascii := fun _ _ => rfl
  decimal_ascii := fun _ _ => rfl

-- ── The methods ───────────────────────────────────────────────────────────────────

/-- `s.partition(c)`: the text before the first `c`, whether there is one, the text after
    it. -/
def partition (c : Char) : Str → Str × Bool × Str
  | [] => ([], false, [])
  | x :: xs =>
      if x = c then ([], true, xs)
      else let r := partition c xs; (x :: r.1, r.2.1, r.2.2)

/-- `s.rpartition(c)`: the text before the last `c`, whether there is one, the text after
    it.  Without a `c` the whole string is the last component. -/
def rpartition (c : Char) (s : Str) : Str × Bool × Str :=
  match partition c s.reverse with
  | (after, true, before) => (before.reverse, true, after.reverse)
  | (_, false, _) => ([], false, s)

/-- `s.split(c)` -/
def split (c : Char) (s : Str) : List Str := s.splitOn c

/-- `s.lstrip(chars)` -/
def lstrip (p : Char → Bool) (s : Str) : Str := s.dropWhile p

/-- `s.rstrip(chars)` -/
def rstrip (p : Char → Bool) (s : Str) : Str := (s.reverse.dropWhile p).reverse

/-- `s.strip()` -/
def strip (py : Python) (s : Str) : Str := rstrip py.isSpace (lstrip py.isSpace s)

/-- `s.startswith(t)` -/
def startswith (t s : Str) : Bool := t.isPrefixOf s

/-- `s.endswith(t)` -/
def endswith (t s : Str) : Bool := t.isSuffixOf s

/-- `t in s` -/
def contains (t s : Str) : Bool := decide (t <:+: s)

/-- The earliest of several delimiters: the text before it and the text from it on. -/
def cutBefore (p : Char → Bool) (s : Str) : Str × Str :=
  (s.takeWhile fun c => !p c, s.dropWhile fun c => !p c)

-- ── ASCII ─────────────────────────────────────────────────────────────────────────

/-- A property of ASCII characters is decided on the first 128 code points. -/
theorem ascii_cases {P : Char → Prop} (h : ∀ n < 128, P (Char.ofNat n)) {c : Char}
    (hc : isAscii c = true) : P c := by
  have hlt : c.toNat < 128 := by simpa [isAscii] using hc
  have := h c.toNat hlt
  rwa [Char.ofNat_toNat] at this

/-- `Char.toLower` changes ASCII letters only. -/
theorem toLower_of_not_ascii {c : Char} (hc : ¬ isAscii c = true) : c.toLower = c := by
  refine dif_neg fun hupper => hc ?_
  have hle : c.toNat ≤ 90 := hupper.2
  exact decide_eq_true (by omega)

theorem toLower_toLower (c : Char) : c.toLower.toLower = c.toLower := by
  by_cases hc : isAscii c = true
  · exact ascii_cases (P := fun c => c.toLower.toLower = c.toLower) (by decide +kernel) hc
  · rw [toLower_of_not_ascii hc, toLower_of_not_ascii hc]

-- ── Strip ─────────────────────────────────────────────────────────────────────────

/-- What is stripped stays as it is. -/
theorem strip_strip (py : Python) (s : Str) : strip py (strip py s) = strip py s := by
  have hpre : strip py s <+: lstrip py.isSpace s := List.rdropWhile_prefix _ _
  have hleft : lstrip py.isSpace (strip py s) = strip py s := by
    refine List.dropWhile_eq_self_iff.mpr fun hpos => ?_
    have hlong : 0 < (lstrip py.isSpace s).length := lt_of_lt_of_le hpos hpre.length_le
    rw [hpre.getElem hpos]
    exact List.dropWhile_eq_self_iff.mp (List.dropWhile_idempotent _ s) hlong
  show rstrip py.isSpace (lstrip py.isSpace (strip py s)) = strip py s
  rw [hleft]
  exact List.rdropWhile_idempotent _ _

-- ── Partition ─────────────────────────────────────────────────────────────────────

/-- A partition at a delimiter that is found splits the string there, and the delimiter does
    not occur before. -/
theorem partition_found {c : Char} {s : Str} (h : (partition c s).2.1 = true) :
    s = (partition c s).1 ++ c :: (partition c s).2.2 ∧ c ∉ (partition c s).1 := by
  induction s with
  | nil => cases h
  | cons x xs ih =>
      by_cases hx : x = c
      · subst hx
        simp [partition]
      · simp only [partition, if_neg hx] at h ⊢
        obtain ⟨h1, h2⟩ := ih h
        constructor
        · rw [List.cons_append, ← h1]
        · intro hm
          rcases List.mem_cons.mp hm with he | hm
          · exact hx he.symm
          · exact h2 hm

/-- A partition at a delimiter that does not occur keeps the string. -/
theorem partition_notFound {c : Char} {s : Str} (h : (partition c s).2.1 = false) :
    (partition c s).1 = s ∧ c ∉ s := by
  induction s with
  | nil => exact ⟨rfl, by simp⟩
  | cons x xs ih =>
      by_cases hx : x = c
      · subst hx
        simp [partition] at h
      · simp only [partition, if_neg hx] at h ⊢
        obtain ⟨h1, h2⟩ := ih h
        refine ⟨by rw [h1], ?_⟩
        intro hm
        rcases List.mem_cons.mp hm with he | hm
        · exact hx he.symm
        · exact h2 hm

/-- The first delimiter is where a text without it ends. -/
theorem partition_append {c : Char} {a : Str} (h : c ∉ a) (b : Str) :
    partition c (a ++ c :: b) = (a, true, b) := by
  induction a with
  | nil => simp [partition]
  | cons x xs ih =>
      have hx : x ≠ c := fun he => h (by simp [he])
      have hxs : c ∉ xs := fun hm => h (List.mem_cons_of_mem _ hm)
      simp [partition, hx, ih hxs]

theorem partition_of_notMem {c : Char} {s : Str} (h : c ∉ s) : partition c s = (s, false, []) := by
  induction s with
  | nil => rfl
  | cons x xs ih =>
      have hx : x ≠ c := fun he => h (by simp [he])
      have hxs : c ∉ xs := fun hm => h (List.mem_cons_of_mem _ hm)
      simp [partition, hx, ih hxs]

/-- What stands before the first delimiter is a front part of the text without it. -/
theorem partition_fst_prefix (c : Char) (s : Str) : (partition c s).1 <+: s := by
  cases h : (partition c s).2.1 with
  | true => exact ⟨_, (partition_found h).1.symm⟩
  | false =>
      rw [(partition_notFound h).1]

theorem partition_fst_notMem (c : Char) (s : Str) : c ∉ (partition c s).1 := by
  cases h : (partition c s).2.1 with
  | true => exact (partition_found h).2
  | false =>
      rw [(partition_notFound h).1]
      exact (partition_notFound h).2

/-- The last delimiter splits the string into what stands before it and what stands after,
    and does not occur after. -/
theorem rpartition_found {c : Char} {s : Str} (h : (rpartition c s).2.1 = true) :
    s = (rpartition c s).1 ++ c :: (rpartition c s).2.2 ∧ c ∉ (rpartition c s).2.2 := by
  rw [rpartition] at h ⊢
  rcases hp : partition c s.reverse with ⟨after, found, before⟩
  rw [hp] at h
  cases found with
  | false => cases h
  | true =>
      obtain ⟨h1, h2⟩ := partition_found (c := c) (s := s.reverse) (by rw [hp])
      rw [hp] at h1 h2
      constructor
      · have := congrArg List.reverse h1
        simpa using this
      · simpa using h2

theorem rpartition_notFound {c : Char} {s : Str} (h : (rpartition c s).2.1 = false) :
    rpartition c s = ([], false, s) ∧ c ∉ s := by
  rw [rpartition] at h ⊢
  rcases hp : partition c s.reverse with ⟨after, found, before⟩
  rw [hp] at h
  cases found with
  | true => cases h
  | false =>
      obtain ⟨-, h2⟩ := partition_notFound (c := c) (s := s.reverse) (by rw [hp])
      exact ⟨rfl, by simpa using h2⟩

end NetProbePyText
