import Mathlib.Data.List.TakeWhile
import Mathlib.Data.Nat.Digits.Defs

/-!
# JSON text

`dumps` writes a value as Python's `json.dumps` does, on one line, with non-ASCII characters as
they are or escaped.  `loads` reads a value by the grammar of RFC 8259.  What is written is read
back (`loads_dumps`), and holds no control character (`dumps_printable`).

Numbers are integers; a fraction or an exponent is not read.
-/

namespace JsonText

-- ── Values ────────────────────────────────────────────────────────────────────────

/-- A value, its numbers without fractions.  The fields of an object are in the order in which they
    are written. -/
inductive Json where
  | null
  | bool (b : Bool)
  | int (n : Int)
  | str (s : List Char)
  | arr (items : List Json)
  | obj (fields : List (List Char × Json))

/-- How values are written. -/
structure Style where
  ensure_ascii : Bool
  item_separator : List Char
  key_separator : List Char
  item_comma : ∃ n, item_separator = ',' :: List.replicate n ' '
  key_colon : ∃ n, key_separator = ':' :: List.replicate n ' '

-- ── Writing ───────────────────────────────────────────────────────────────────────

/-- The characters with an escape of one letter. -/
def shortEscapes : List (Char × Char) :=
  [('"', '"'), ('\\', '\\'), ('\n', 'n'), ('\r', 'r'), ('\t', 't'), ('\x0c', 'f'), ('\x08', 'b')]

/-- `'{0:04x}'.format(n)` -/
def hex4 (n : Nat) : List Char :=
  [(n / 4096 % 16).digitChar, (n / 256 % 16).digitChar, (n / 16 % 16).digitChar, (n % 16).digitChar]

/-- A code unit of UTF-16. -/
def unit (n : Nat) : List Char := '\\' :: 'u' :: hex4 n

/-- A character in a string. -/
def escape (ensure_ascii : Bool) (c : Char) : List Char :=
  match shortEscapes.lookup c with
  | some d => ['\\', d]
  | none =>
      if c.toNat < 0x20 then unit c.toNat
      else if ensure_ascii = true ∧ 0x7e < c.toNat then
        if c.toNat < 0x10000 then unit c.toNat
        else unit (0xd800 + (c.toNat - 0x10000) / 0x400) ++
          unit (0xdc00 + (c.toNat - 0x10000) % 0x400)
      else [c]

/-- A string. -/
def quoted (ensure_ascii : Bool) (s : List Char) : List Char :=
  '"' :: s.flatMap (escape ensure_ascii) ++ ['"']

/-- `str(n)` of an integer. -/
def intText : Int → List Char
  | .ofNat n => Nat.toDigits 10 n
  | .negSucc n => '-' :: Nat.toDigits 10 (n + 1)

mutual

/-- `json.dumps(v)` -/
def dumps (style : Style) : Json → List Char
  | .null => ['n', 'u', 'l', 'l']
  | .bool true => ['t', 'r', 'u', 'e']
  | .bool false => ['f', 'a', 'l', 's', 'e']
  | .int n => intText n
  | .str s => quoted style.ensure_ascii s
  | .arr items => '[' :: dumpsItems style items ++ [']']
  | .obj fields => '\x7b' :: dumpsFields style fields ++ ['\x7d']

def dumpsItems (style : Style) : List Json → List Char
  | [] => []
  | v :: vs => dumps style v ++ dumpsMoreItems style vs

def dumpsMoreItems (style : Style) : List Json → List Char
  | [] => []
  | v :: vs => style.item_separator ++ dumps style v ++ dumpsMoreItems style vs

def dumpsFields (style : Style) : List (List Char × Json) → List Char
  | [] => []
  | (key, v) :: fields =>
      quoted style.ensure_ascii key ++ style.key_separator ++ dumps style v ++
        dumpsMoreFields style fields

def dumpsMoreFields (style : Style) : List (List Char × Json) → List Char
  | [] => []
  | (key, v) :: fields =>
      style.item_separator ++ quoted style.ensure_ascii key ++
        style.key_separator ++ dumps style v ++
        dumpsMoreFields style fields

end

-- ── Reading ───────────────────────────────────────────────────────────────────────

def isSpace (c : Char) : Bool := c = ' ' || c = '\t' || c = '\n' || c = '\r'

def skipSpace : List Char → List Char := List.dropWhile isSpace

def hexValue (c : Char) : Option Nat :=
  if '0' ≤ c ∧ c ≤ '9' then some (c.toNat - '0'.toNat)
  else if 'a' ≤ c ∧ c ≤ 'f' then some (c.toNat - 'a'.toNat + 10)
  else if 'A' ≤ c ∧ c ≤ 'F' then some (c.toNat - 'A'.toNat + 10)
  else none

/-- Four hexadecimal digits. -/
def codeUnit : List Char → Option (Nat × List Char)
  | a :: b :: c :: d :: cs => do
      let a ← hexValue a
      let b ← hexValue b
      let c ← hexValue c
      let d ← hexValue d
      return (a * 4096 + b * 256 + c * 16 + d, cs)
  | _ => none

/-- The letters after a backslash, and their characters. -/
def shortUnescapes : List (Char × Char) :=
  [('"', '"'), ('\\', '\\'), ('/', '/'), ('b', '\x08'), ('f', '\x0c'), ('n', '\n'),
    ('r', '\r'), ('t', '\t')]

/-- The second half of a surrogate pair. -/
def lowSurrogate (high : Nat) : List Char → Option (Char × List Char)
  | '\\' :: 'u' :: cs =>
      match codeUnit cs with
      | some (low, rest) =>
          if 0xdc00 ≤ low ∧ low < 0xe000 then
            some (Char.ofNat (0x10000 + (high - 0xd800) * 0x400 + (low - 0xdc00)), rest)
          else none
      | none => none
  | _ => none

/-- What follows a backslash. -/
def unescape : List Char → Option (Char × List Char)
  | [] => none
  | c :: cs =>
      if c = 'u' then
        match codeUnit cs with
        | some (n, rest) =>
            if 0xd800 ≤ n ∧ n < 0xdc00 then lowSurrogate n rest
            else if 0xdc00 ≤ n ∧ n < 0xe000 then none
            else some (Char.ofNat n, rest)
        | none => none
      else (shortUnescapes.lookup c).map fun d => (d, cs)

/-- What follows the opening quote of a string. -/
def stringBody : Nat → List Char → Option (List Char × List Char)
  | 0, _ => none
  | _ + 1, [] => none
  | n + 1, c :: cs =>
      if c = '"' then some ([], cs)
      else if c = '\\' then
        match unescape cs with
        | some (d, rest) => (stringBody n rest).map fun r => (d :: r.1, r.2)
        | none => none
      else if c.toNat < 0x20 then none
      else (stringBody n cs).map fun r => (c :: r.1, r.2)

/-- A natural number that is neither followed by a fraction nor by an exponent. -/
def natural (cs : List Char) : Option (Nat × List Char) :=
  match cs.takeWhile Char.isDigit, cs.dropWhile Char.isDigit with
  | [], _ => none
  | '0' :: _ :: _, _ => none
  | _, '.' :: _ => none
  | _, 'e' :: _ => none
  | _, 'E' :: _ => none
  | ds, rest => some (Nat.ofDigitChars 10 ds 0, rest)

def number : List Char → Option (Json × List Char)
  | '-' :: cs => (natural cs).map fun r => (.int (-r.1), r.2)
  | cs => (natural cs).map fun r => (.int r.1, r.2)

/-- What follows the character, if it comes first. -/
def expect (c : Char) : List Char → Option (List Char)
  | [] => none
  | d :: cs => if d = c then some cs else none

mutual

/-- A value and what follows it, to this depth and length. -/
def value : Nat → List Char → Option (Json × List Char)
  | 0, _ => none
  | n + 1, cs =>
      match skipSpace cs with
      | 'n' :: 'u' :: 'l' :: 'l' :: cs => some (.null, cs)
      | 't' :: 'r' :: 'u' :: 'e' :: cs => some (.bool true, cs)
      | 'f' :: 'a' :: 'l' :: 's' :: 'e' :: cs => some (.bool false, cs)
      | '"' :: cs => (stringBody n cs).map fun r => (.str r.1, r.2)
      | '[' :: cs =>
          (expect ']' (skipSpace cs)).elim ((items n cs).map fun r => (.arr r.1, r.2))
            fun cs => some (.arr [], cs)
      | '\x7b' :: cs =>
          (expect '\x7d' (skipSpace cs)).elim ((fields n cs).map fun r => (.obj r.1, r.2))
            fun cs => some (.obj [], cs)
      | cs => number cs

def items : Nat → List Char → Option (List Json × List Char)
  | 0, _ => none
  | n + 1, cs =>
      match value n cs with
      | none => none
      | some (v, cs) =>
          match expect ',' (skipSpace cs) with
          | some cs => (items n cs).map fun r => (v :: r.1, r.2)
          | none => (expect ']' (skipSpace cs)).map fun cs => ([v], cs)

def fields : Nat → List Char → Option (List (List Char × Json) × List Char)
  | 0, _ => none
  | n + 1, cs =>
      match (expect '"' (skipSpace cs)).bind (stringBody n) with
      | none => none
      | some (key, cs) =>
          match (expect ':' (skipSpace cs)).bind (value n) with
          | none => none
          | some (v, cs) =>
              match expect ',' (skipSpace cs) with
              | some cs => (fields n cs).map fun r => ((key, v) :: r.1, r.2)
              | none => (expect '\x7d' (skipSpace cs)).map fun cs => ([(key, v)], cs)

end

/-- `json.loads(text)` -/
def loads (text : List Char) : Option Json :=
  match value (text.length + 1) text with
  | some (v, rest) => if skipSpace rest = [] then some v else none
  | none => none

-- ── Strings ───────────────────────────────────────────────────────────────────────

section Strings

variable {a : Bool} {c : Char} {s rest : List Char} {n : Nat}

theorem hexValue_digitChar : ∀ n < 16, hexValue n.digitChar = some n := by decide

theorem codeUnit_hex4 (h : n < 65536) : codeUnit (hex4 n ++ rest) = some (n, rest) := by
  have hdigits : n / 4096 % 16 * 4096 + n / 256 % 16 * 256 + n / 16 % 16 * 16 + n % 16 = n := by
    omega
  show codeUnit (_ :: _ :: _ :: _ :: rest) = _
  rw [codeUnit]
  rw [hexValue_digitChar _ (Nat.mod_lt _ (by decide)),
    hexValue_digitChar _ (Nat.mod_lt _ (by decide)),
    hexValue_digitChar _ (Nat.mod_lt _ (by decide)),
      hexValue_digitChar _ (Nat.mod_lt _ (by decide))]
  show some (n / 4096 % 16 * 4096 + n / 256 % 16 * 256 + n / 16 % 16 * 16 + n % 16, rest) = _
  rw [hdigits]

/-- A code point is not a surrogate. -/
theorem not_surrogate (c : Char) : c.toNat < 0xd800 ∨ 0xe000 ≤ c.toNat ∧ c.toNat < 0x110000 := by
  rcases c.valid with h | ⟨h, h'⟩
  · exact Or.inl h
  · exact Or.inr ⟨h, h'⟩

theorem unescape_unit (h : c.toNat < 0x10000) :
    unescape ('u' :: (hex4 c.toNat ++ rest)) = some (c, rest) := by
  have hrange := not_surrogate c
  rw [unescape, if_pos rfl, codeUnit_hex4 h]
  dsimp only
  rw [if_neg (by omega), if_neg (by omega), Char.ofNat_toNat]

/-- A character beyond the first plane is a pair of surrogates. -/
theorem unescape_pair (h : 0x10000 ≤ c.toNat) :
    unescape ('u' :: (hex4 (0xd800 + (c.toNat - 0x10000) / 0x400) ++
      (unit (0xdc00 + (c.toNat - 0x10000) % 0x400) ++ rest))) = some (c, rest) := by
  have hrange := not_surrogate c
  have hsum : 0x10000 + (0xd800 + (c.toNat - 0x10000) / 0x400 - 0xd800) * 0x400 +
      (0xdc00 + (c.toNat - 0x10000) % 0x400 - 0xdc00) = c.toNat := by omega
  rw [unescape, if_pos rfl, codeUnit_hex4 (by omega)]
  dsimp only
  rw [if_pos (by omega)]
  show lowSurrogate _ ('\\' :: 'u' :: (hex4 _ ++ rest)) = _
  rw [lowSurrogate, codeUnit_hex4 (by omega)]
  dsimp only
  rw [if_pos (by omega), hsum, Char.ofNat_toNat]

theorem unescape_short {d : Char} (h : shortEscapes.lookup c = some d) :
    unescape (d :: rest) = some (c, rest) := by
  have hall : ∀ p ∈ shortEscapes, p.2 ≠ 'u' ∧ shortUnescapes.lookup p.2 = some p.1 := by decide
  obtain ⟨l, l', hl, -⟩ := List.lookup_eq_some_iff.mp h
  obtain ⟨hne, hlookup⟩ :=
    hall (c, d) (by rw [hl]; exact List.mem_append_right _ List.mem_cons_self)
  rw [unescape, if_neg hne, hlookup]
  rfl

/-- **A character of a string is read back.** -/
theorem stringBody_escape : stringBody (n + 1) (escape a c ++ rest) =
    (stringBody n rest).map fun r => (c :: r.1, r.2) := by
  rw [escape]
  split
  next d hd =>
    show stringBody (n + 1) ('\\' :: d :: rest) = _
    rw [stringBody, if_neg (by decide), if_pos rfl, unescape_short hd]
  next hnone =>
    have hunit : c.toNat < 0x10000 → stringBody (n + 1) (unit c.toNat ++ rest) =
        (stringBody n rest).map fun r => (c :: r.1, r.2) := by
      intro h
      show stringBody (n + 1) ('\\' :: 'u' :: (hex4 c.toNat ++ rest)) = _
      rw [stringBody, if_neg (by decide), if_pos rfl, unescape_unit h]
    split
    next hcontrol => exact hunit (by omega)
    next hcontrol =>
      split
      next =>
        split
        next hplane => exact hunit hplane
        next hplane =>
          rw [List.append_assoc]
          show stringBody (n + 1) ('\\' :: 'u' :: (hex4 _ ++ _)) = _
          rw [stringBody, if_neg (by decide), if_pos rfl, unescape_pair (by omega)]
      next =>
        show stringBody (n + 1) (c :: rest) = _
        rw [stringBody, if_neg, if_neg, if_neg hcontrol]
        · rintro rfl
          cases hnone
        · rintro rfl
          cases hnone

/-- **A string is read back.** -/
theorem stringBody_quoted (h : s.length < n) :
    stringBody n (s.flatMap (escape a) ++ '"' :: rest) = some (s, rest) := by
  induction s generalizing n with
  | nil =>
      obtain ⟨m, rfl⟩ := Nat.exists_eq_succ_of_ne_zero (Nat.ne_zero_of_lt h)
      rfl
  | cons c s ih =>
      obtain ⟨m, rfl⟩ := Nat.exists_eq_succ_of_ne_zero (Nat.ne_zero_of_lt h)
      rw [List.flatMap_cons, List.append_assoc]
      rw [stringBody_escape, ih (Nat.lt_of_succ_lt_succ h)]
      rfl

end Strings

-- ── Numbers ───────────────────────────────────────────────────────────────────────

/-- What follows a number does not go on with it. -/
def EndsNumber (rest : List Char) : Prop :=
  ∀ c ∈ rest.head?, c.isDigit = false ∧ c ≠ '.' ∧ c ≠ 'e' ∧ c ≠ 'E'

section Numbers

variable {rest : List Char}

theorem toDigits_cons (n : Nat) : ∃ c ds, Nat.toDigits 10 n = c :: ds ∧ c.isDigit = true := by
  obtain ⟨c, ds, hds⟩ := List.exists_cons_of_ne_nil (Nat.toDigits_ne_nil (b := 10) (n := n))
  have hmem : c ∈ Nat.toDigits 10 n := by
    rw [hds]
    exact List.mem_cons_self
  exact ⟨c, ds, hds, Nat.isDigit_of_mem_toDigits (by decide) (by decide) hmem⟩

/-- A positive number does not begin with a zero. -/
theorem head_toDigits {n : Nat} (h : 0 < n) : (Nat.toDigits 10 n).head? ≠ some '0' := by
  induction n using Nat.strongRecOn with
  | _ n ih =>
      by_cases hlt : n < 10
      · rw [Nat.toDigits_of_lt_base hlt]
        simp
        omega
      · rw [Nat.toDigits_of_base_le (by decide) (Nat.le_of_not_lt hlt), List.head?_append]
        have hdiv := ih (n / 10) (by omega) (by omega)
        cases hhead : (Nat.toDigits 10 (n / 10)).head? with
        | none => exact absurd (List.head?_eq_none_iff.mp hhead) Nat.toDigits_ne_nil
        | some c =>
            rw [hhead] at hdiv
            exact hdiv

theorem span_toDigits {n : Nat} (hrest : EndsNumber rest) :
    (Nat.toDigits 10 n ++ rest).takeWhile Char.isDigit = Nat.toDigits 10 n ∧
      (Nat.toDigits 10 n ++ rest).dropWhile Char.isDigit = rest := by
  have hdigits : ∀ c ∈ Nat.toDigits 10 n, c.isDigit = true :=
    fun c hc => Nat.isDigit_of_mem_toDigits (by decide) (by decide) hc
  rw [List.takeWhile_append_of_pos hdigits, List.dropWhile_append_of_pos hdigits]
  cases rest with
  | nil => exact ⟨List.append_nil _, rfl⟩
  | cons c cs =>
      have hc := (hrest c rfl).1
      rw [List.takeWhile_cons_of_neg (by simp [hc]),
        List.dropWhile_cons_of_neg (by simp [hc]), List.append_nil]
      exact ⟨rfl, rfl⟩

theorem natural_toDigits {n : Nat} (hrest : EndsNumber rest) :
    natural (Nat.toDigits 10 n ++ rest) = some (n, rest) := by
  obtain ⟨htake, hdrop⟩ := span_toDigits (n := n) hrest
  rw [natural, htake, hdrop]
  split
  next h => exact absurd h Nat.toDigits_ne_nil
  next c cs h =>
    rcases Nat.eq_zero_or_pos n with rfl | hpos
    · cases h
    · exact absurd (by rw [h]; rfl) (head_toDigits hpos)
  next => exact absurd rfl (hrest _ rfl).2.1
  next => exact absurd rfl (hrest _ rfl).2.2.1
  next => exact absurd rfl (hrest _ rfl).2.2.2
  next => rw [Nat.ofDigitChars_toDigits (by decide) (by decide)]

/-- **An integer is read back.** -/
theorem number_intText {n : Int} (hrest : EndsNumber rest) :
    number (intText n ++ rest) = some (.int n, rest) := by
  cases n with
  | ofNat n =>
      rw [intText, number, natural_toDigits hrest]
      · rfl
      · -- a minus sign is not a digit
        intro cs h
        obtain ⟨c, ds, hds, hdigit⟩ := toDigits_cons n
        rw [hds] at h
        cases h
        cases hdigit
  | negSucc n =>
      show (natural (Nat.toDigits 10 (n + 1) ++ rest)).map _ = _
      rw [natural_toDigits hrest]
      rfl

end Numbers

-- ── Values ────────────────────────────────────────────────────────────────────────

section Values

variable {style : Style} {rest : List Char}

theorem skipSpace_of_head {cs : List Char} (h : ∀ c ∈ cs.head?, isSpace c = false) :
    skipSpace cs = cs := by
  cases cs with
  | nil => rfl
  | cons c cs => exact List.dropWhile_cons_of_neg (by simp [h c rfl])

theorem skipSpace_replicate {n : Nat} : skipSpace (List.replicate n ' ' ++ rest) = skipSpace rest :=
  List.dropWhile_append_of_pos fun c hc => by rw [List.eq_of_mem_replicate hc]; rfl

/-- What may follow a value: nothing, a comma, or a bracket. -/
def Follows (rest : List Char) : Prop :=
  ∀ c ∈ rest.head?, c = ',' ∨ c = ']' ∨ c = '\x7d'

theorem Follows.ends (h : Follows rest) : EndsNumber rest := by
  intro c hc
  rcases h c hc with rfl | rfl | rfl <;> decide

theorem Follows.skipSpace (h : Follows rest) : skipSpace rest = rest := by
  refine skipSpace_of_head fun c hc => ?_
  rcases h c hc with rfl | rfl | rfl <;> decide

/-- How the text of a value begins. -/
def startsValue (c : Char) : Bool :=
  c.isDigit || c = '-' || c = 'n' || c = 't' || c = 'f' || c = '"' || c = '[' || c = '\x7b'

theorem dumps_head (v : Json) : ∃ c cs, dumps style v = c :: cs ∧ startsValue c = true := by
  cases v with
  | null => exact ⟨_, _, rfl, rfl⟩
  | bool b => cases b <;> exact ⟨_, _, rfl, rfl⟩
  | int n =>
      cases n with
      | ofNat n =>
          obtain ⟨c, ds, hds, hdigit⟩ := toDigits_cons n
          exact ⟨c, ds, by rw [dumps, intText, hds], by simp [startsValue, hdigit]⟩
      | negSucc n => exact ⟨_, _, rfl, rfl⟩
  | str s => exact ⟨_, _, rfl, rfl⟩
  | arr items => exact ⟨_, _, rfl, rfl⟩
  | obj fields => exact ⟨_, _, rfl, rfl⟩

theorem startsValue_not_space {c : Char} (h : startsValue c = true) : isSpace c = false := by
  cases hspace : isSpace c with
  | false => rfl
  | true =>
      simp only [isSpace, Bool.or_eq_true, decide_eq_true_eq] at hspace
      rcases hspace with ((rfl | rfl) | rfl) | rfl <;> cases h

/-- Space before a value, an item or a field is skipped. -/
theorem value_space {n k : Nat} : value n (List.replicate k ' ' ++ rest) = value n rest := by
  cases n with
  | zero => rfl
  | succ n => rw [value, skipSpace_replicate, value]

theorem items_space {n k : Nat} : items n (List.replicate k ' ' ++ rest) = items n rest := by
  cases n with
  | zero => rfl
  | succ n => rw [items, value_space, items]

theorem fields_space {n k : Nat} : fields n (List.replicate k ' ' ++ rest) = fields n rest := by
  cases n with
  | zero => rfl
  | succ n => rw [fields, skipSpace_replicate, fields]

theorem length_le_quoted {a : Bool} {s : List Char} : s.length + 2 ≤ (quoted a s).length := by
  have hescape : ∀ c, 1 ≤ (escape a c).length := by
    intro c
    rw [escape]
    split
    · exact Nat.le_add_left _ _
    · split
      · exact Nat.le_add_left _ _
      · split
        · split
          · exact Nat.le_add_left _ _
          · exact Nat.le_add_left _ _
        · exact Nat.le_refl _
  have hbody : s.length ≤ (s.flatMap (escape a)).length := by
    induction s with
    | nil => exact Nat.zero_le _
    | cons c s ih =>
        rw [List.flatMap_cons, List.length_append, List.length_cons, Nat.add_comm]
        exact Nat.add_le_add (hescape c) ih
  rw [quoted, List.length_append, List.length_cons, List.length_singleton]
  exact Nat.add_le_add_right hbody 2

theorem dumpsMoreItems_cons {v : Json} {vs : List Json} :
    dumpsMoreItems style (v :: vs) = style.item_separator ++ dumpsItems style (v :: vs) := by
  rw [dumpsMoreItems, dumpsItems, List.append_assoc]

theorem dumpsMoreFields_cons {f : List Char × Json} {fs : List (List Char × Json)} :
    dumpsMoreFields style (f :: fs) = style.item_separator ++ dumpsFields style (f :: fs) := by
  obtain ⟨key, v⟩ := f
  rw [dumpsMoreFields, dumpsFields]
  simp only [List.append_assoc]

theorem quoted_append {a : Bool} {s : List Char} :
    quoted a s ++ rest = '"' :: (s.flatMap (escape a) ++ '"' :: rest) := by
  simp [quoted]

theorem dumps_arr_append {vs : List Json} :
    dumps style (.arr vs) ++ rest = '[' :: (dumpsItems style vs ++ ']' :: rest) := by
  simp [dumps]

theorem dumps_obj_append {fs : List (List Char × Json)} :
    dumps style (.obj fs) ++ rest = '\x7b' :: (dumpsFields style fs ++ '\x7d' :: rest) := by
  simp [dumps]

theorem intText_cons (n : Int) : ∃ c ds, intText n = c :: ds ∧ (c.isDigit = true ∨ c = '-') := by
  cases n with
  | ofNat n =>
      obtain ⟨c, ds, hds, hdigit⟩ := toDigits_cons n
      exact ⟨c, ds, hds, Or.inl hdigit⟩
  | negSucc n => exact ⟨_, _, rfl, Or.inr rfl⟩

theorem value_int {m : Nat} {n : Int} (hrest : EndsNumber rest) :
    value (m + 1) (intText n ++ rest) = some (.int n, rest) := by
  obtain ⟨c, ds, hds, hc⟩ := intText_cons n
  have hnumber := number_intText (n := n) hrest
  rw [hds, List.cons_append] at hnumber ⊢
  have hstart : startsValue c = true := by
    rcases hc with hc | rfl
    · simp [startsValue, hc]
    · rfl
  rw [value, skipSpace_of_head (by simp [startsValue_not_space hstart])]
  -- no other value begins with a digit or a minus sign
  have hother : ∀ x cs, c :: (ds ++ rest) = x :: cs → x.isDigit = true ∨ x = '-' :=
    fun x cs h => (List.cons.inj h).1 ▸ hc
  split
  next h => exact absurd (hother _ _ h) (by decide)
  next h => exact absurd (hother _ _ h) (by decide)
  next h => exact absurd (hother _ _ h) (by decide)
  next h => exact absurd (hother _ _ h) (by decide)
  next h => exact absurd (hother _ _ h) (by decide)
  next h => exact absurd (hother _ _ h) (by decide)
  next => exact hnumber

theorem expect_self {c : Char} : expect c (c :: rest) = some rest := if_pos rfl

theorem value_bracket {n : Nat} : value (n + 1) ('[' :: rest) = (expect ']' (skipSpace rest)).elim
    ((items n rest).map fun r => (.arr r.1, r.2)) fun cs => some (.arr [], cs) := rfl

theorem value_brace {n : Nat} : value (n + 1) ('\x7b' :: rest) =
    (expect '\x7d' (skipSpace rest)).elim
    ((fields n rest).map fun r => (.obj r.1, r.2)) fun cs => some (.obj [], cs) := rfl

/-- Items are read as an array, if there are any. -/
theorem value_arr {m : Nat} {vs : List Json} (hne : vs ≠ [])
    (h : items m (dumpsItems style vs ++ ']' :: rest) = some (vs, rest)) :
    value (m + 1) (dumps style (.arr vs) ++ rest) = some (.arr vs, rest) := by
  obtain ⟨v, vs, rfl⟩ := List.exists_cons_of_ne_nil hne
  obtain ⟨c, cs, hcs, hc⟩ : ∃ c cs, dumps style v = c :: cs ∧ startsValue c = true := dumps_head v
  have hbracket : expect ']' (skipSpace (dumpsItems style (v :: vs) ++ ']' :: rest)) = none := by
    rw [dumpsItems, hcs, List.cons_append, List.cons_append]
    rw [skipSpace_of_head (by simp [startsValue_not_space hc]), expect, if_neg]
    rintro rfl
    cases hc
  rw [dumps_arr_append, value_bracket, hbracket, Option.elim_none, h]
  rfl

/-- Fields are read as an object, if there are any. -/
theorem value_obj {m : Nat} {fs : List (List Char × Json)} (hne : fs ≠ [])
    (h : fields m (dumpsFields style fs ++ '\x7d' :: rest) = some (fs, rest)) :
    value (m + 1) (dumps style (.obj fs) ++ rest) = some (.obj fs, rest) := by
  obtain ⟨⟨key, v⟩, fs, rfl⟩ := List.exists_cons_of_ne_nil hne
  have hbrace : expect '\x7d' (skipSpace (dumpsFields style ((key, v) :: fs) ++ '\x7d' :: rest)) =
      none := by
    rw [dumpsFields, List.append_assoc, List.append_assoc, List.append_assoc, quoted_append]
    rw [skipSpace_of_head (by simp [isSpace])]
    rfl
  rw [dumps_obj_append, value_brace, hbrace, Option.elim_none, h]
  rfl

theorem follows_bracket : Follows (']' :: rest) := by
  intro c hc
  cases hc
  exact Or.inr (Or.inl rfl)

theorem follows_brace : Follows ('\x7d' :: rest) := by
  intro c hc
  cases hc
  exact Or.inr (Or.inr rfl)

theorem follows_comma : Follows (',' :: rest) := by
  intro c hc
  cases hc
  exact Or.inl rfl

mutual

/-- **A value is read back**, whatever follows it. -/
theorem value_dumps (v : Json) {n : Nat} {rest : List Char} (hn : (dumps style v).length < n)
    (hrest : Follows rest) : value n (dumps style v ++ rest) = some (v, rest) := by
  obtain ⟨m, rfl⟩ := Nat.exists_eq_succ_of_ne_zero (Nat.ne_zero_of_lt hn)
  cases v with
  | null => rfl
  | bool b => cases b <;> rfl
  | int n => exact value_int hrest.ends
  | str s =>
      have hlen := (length_le_quoted (a := style.ensure_ascii) (s := s))
      rw [dumps] at hn ⊢
      rw [quoted_append]
      show (stringBody m (s.flatMap (escape style.ensure_ascii) ++ '"' :: rest)).map _ = _
      rw [stringBody_quoted (by omega)]
      rfl
  | arr vs =>
      rw [dumps, List.length_append, List.length_cons, List.length_singleton] at hn
      cases vs with
      | nil => rfl
      | cons v vs =>
          exact value_arr (List.cons_ne_nil v vs)
            (items_dumps (v :: vs) (List.cons_ne_nil v vs) (by omega))
  | obj fs =>
      rw [dumps, List.length_append, List.length_cons, List.length_singleton] at hn
      cases fs with
      | nil => rfl
      | cons f fs =>
          exact value_obj (List.cons_ne_nil f fs)
            (fields_dumps (f :: fs) (List.cons_ne_nil f fs) (by omega))

theorem items_dumps (vs : List Json) (hne : vs ≠ []) {n : Nat} {rest : List Char}
    (hn : (dumpsItems style vs).length + 1 < n) :
    items n (dumpsItems style vs ++ ']' :: rest) = some (vs, rest) := by
  obtain ⟨m, rfl⟩ := Nat.exists_eq_succ_of_ne_zero (Nat.ne_zero_of_lt hn)
  cases vs with
  | nil => exact absurd rfl hne
  | cons v vs =>
      rw [dumpsItems, List.length_append] at hn
      rw [dumpsItems, List.append_assoc, items]
      cases vs with
      | nil =>
          rw [dumpsMoreItems, List.nil_append, value_dumps v (by omega) follows_bracket]
          rfl
      | cons w ws =>
          obtain ⟨k, hk⟩ := style.item_comma
          rw [dumpsMoreItems_cons, hk] at hn ⊢
          rw [List.length_append, List.length_cons] at hn
          rw [List.cons_append, List.cons_append, List.append_assoc,
            value_dumps v (by omega) follows_comma]
          dsimp only
          rw [follows_comma.skipSpace, expect_self]
          dsimp only
          rw [items_space, items_dumps (w :: ws) (List.cons_ne_nil w ws) (by omega)]
          rfl

theorem fields_dumps (fs : List (List Char × Json)) (hne : fs ≠ []) {n : Nat} {rest : List Char}
    (hn : (dumpsFields style fs).length + 1 < n) :
    fields n (dumpsFields style fs ++ '\x7d' :: rest) = some (fs, rest) := by
  obtain ⟨m, rfl⟩ := Nat.exists_eq_succ_of_ne_zero (Nat.ne_zero_of_lt hn)
  cases fs with
  | nil => exact absurd rfl hne
  | cons f fs =>
      obtain ⟨key, v⟩ := f
      have hlen := (length_le_quoted (a := style.ensure_ascii) (s := key))
      obtain ⟨l, hl⟩ := style.key_colon
      rw [dumpsFields, hl] at hn ⊢
      simp only [List.length_append, List.length_cons, List.length_replicate] at hn
      simp only [List.append_assoc, quoted_append, List.cons_append]
      rw [fields, skipSpace_of_head (by simp [isSpace]), expect_self, Option.bind_some]
      rw [stringBody_quoted (by omega)]
      dsimp only
      rw [skipSpace_of_head (by simp [isSpace]), expect_self, Option.bind_some, value_space]
      cases fs with
      | nil =>
          rw [dumpsMoreFields, List.nil_append, value_dumps v (by omega) follows_brace]
          rfl
      | cons f fs =>
          obtain ⟨k, hk⟩ := style.item_comma
          rw [dumpsMoreFields_cons, hk] at hn ⊢
          simp only [List.length_append, List.length_cons] at hn
          rw [List.cons_append, List.cons_append, List.append_assoc,
            value_dumps v (by omega) follows_comma]
          dsimp only
          rw [follows_comma.skipSpace, expect_self]
          dsimp only
          rw [fields_space, fields_dumps (f :: fs) (List.cons_ne_nil f fs) (by omega)]
          rfl

end

/-- **The round trip.** -/
theorem loads_dumps (v : Json) : loads (dumps style v) = some v := by
  have hvalue : value ((dumps style v).length + 1) (dumps style v ++ []) = some (v, []) :=
    value_dumps v (Nat.lt_succ_self _) fun c hc => by cases hc
  rw [List.append_nil] at hvalue
  rw [loads, hvalue]
  rfl

end Values

-- ── Characters ────────────────────────────────────────────────────────────────────

/-- Not a control character of ASCII. -/
def Printable (c : Char) : Prop := 0x20 ≤ c.toNat

instance (c : Char) : Decidable (Printable c) := inferInstanceAs (Decidable (0x20 ≤ c.toNat))

theorem printable_of_all {s : List Char} (hall : s.all (0x20 ≤ ·.toNat) = true) :
    ∀ c ∈ s, Printable c :=
  fun c hc => of_decide_eq_true (List.all_eq_true.mp hall c hc)

section Printable

variable {style : Style} {c d : Char}

theorem printable_digitChar {n : Nat} : Printable n.digitChar := by
  by_cases h : n < 16
  · have hall : ∀ n < 16, Printable n.digitChar := by decide
    exact hall n h
  · rw [Nat.digitChar_eq_star.mpr (Nat.le_of_not_lt h)]
    decide

theorem printable_toDigits {n : Nat} (h : c ∈ Nat.toDigits 10 n) : Printable c := by
  have hdigit := Nat.isDigit_of_mem_toDigits (by decide) (by decide) h
  rw [Char.isDigit, Bool.and_eq_true, decide_eq_true_eq] at hdigit
  have hzero : ('0' : Char).val.toNat ≤ c.val.toNat := hdigit.1
  exact Nat.le_trans (by decide) hzero

theorem printable_unit {n : Nat} (h : c ∈ unit n) : Printable c := by
  rw [unit, hex4] at h
  simp only [List.mem_cons, List.not_mem_nil, or_false] at h
  rcases h with rfl | rfl | rfl | rfl | rfl | rfl
  · decide
  · decide
  · exact printable_digitChar
  · exact printable_digitChar
  · exact printable_digitChar
  · exact printable_digitChar

theorem printable_escape {a : Bool} (h : c ∈ escape a d) : Printable c := by
  rw [escape] at h
  split at h
  next e he =>
    have hshort : shortEscapes.all fun p => ['\\', p.2].all (0x20 ≤ ·.toNat) := by decide
    obtain ⟨l, l', hl, -⟩ := List.lookup_eq_some_iff.mp he
    have hmem : (d, e) ∈ shortEscapes := by
      rw [hl]
      exact List.mem_append_right _ List.mem_cons_self
    exact printable_of_all (List.all_eq_true.mp hshort (d, e) hmem) c h
  next =>
    split at h
    next => exact printable_unit h
    next hd =>
      split at h
      next =>
        split at h
        next => exact printable_unit h
        next => exact (List.mem_append.mp h).elim printable_unit printable_unit
      next =>
        rw [List.mem_singleton.mp h]
        exact Nat.le_of_not_lt hd

theorem printable_quoted {a : Bool} {s : List Char} (h : c ∈ quoted a s) : Printable c := by
  rw [quoted] at h
  rcases List.mem_append.mp h with h | h
  · rcases List.mem_cons.mp h with rfl | h
    · decide
    · obtain ⟨d, -, hd⟩ := List.mem_flatMap.mp h
      exact printable_escape hd
  · rw [List.mem_singleton.mp h]
    decide

theorem printable_separator {e : Char} {sep : List Char} (he : Printable e)
    (hsep : ∃ n, sep = e :: List.replicate n ' ') (h : c ∈ sep) : Printable c := by
  obtain ⟨n, rfl⟩ := hsep
  rcases List.mem_cons.mp h with rfl | h
  · exact he
  · rw [List.eq_of_mem_replicate h]
    decide

mutual

/-- **No control character is written**: the text is one line. -/
theorem dumps_printable (v : Json) (h : c ∈ dumps style v) : Printable c := by
  cases v with
  | null =>
      have hall : ∀ c ∈ dumps style .null, Printable c := printable_of_all (by rw [dumps]; rfl)
      exact hall c h
  | bool b =>
      have hall : ∀ c ∈ dumps style (.bool b), Printable c :=
        printable_of_all (by cases b <;> (rw [dumps]; rfl))
      exact hall c h
  | int n =>
      cases n with
      | ofNat n => exact printable_toDigits h
      | negSucc n =>
          rcases List.mem_cons.mp h with rfl | h
          · decide
          · exact printable_toDigits h
  | str s => exact printable_quoted h
  | arr vs =>
      rw [dumps, List.mem_append, List.mem_cons, List.mem_singleton] at h
      rcases h with (rfl | h) | rfl
      · decide
      · exact dumpsItems_printable vs h
      · decide
  | obj fs =>
      rw [dumps, List.mem_append, List.mem_cons, List.mem_singleton] at h
      rcases h with (rfl | h) | rfl
      · decide
      · exact dumpsFields_printable fs h
      · decide

theorem dumpsItems_printable (vs : List Json) (h : c ∈ dumpsItems style vs) : Printable c := by
  cases vs with
  | nil => cases h
  | cons v vs =>
      rw [dumpsItems, List.mem_append] at h
      rcases h with h | h
      · exact dumps_printable v h
      · cases vs with
        | nil => cases h
        | cons w ws =>
            rw [dumpsMoreItems_cons, List.mem_append] at h
            rcases h with h | h
            · exact printable_separator (by decide) style.item_comma h
            · exact dumpsItems_printable (w :: ws) h

theorem dumpsFields_printable (fs : List (List Char × Json)) (h : c ∈ dumpsFields style fs) :
    Printable c := by
  cases fs with
  | nil => cases h
  | cons f fs =>
      obtain ⟨key, v⟩ := f
      have hv : c ∈ dumps style v → Printable c := fun h => dumps_printable v h
      rw [dumpsFields, List.mem_append, List.mem_append, List.mem_append] at h
      rcases h with ((h | h) | h) | h
      · exact printable_quoted h
      · exact printable_separator (by decide) style.key_colon h
      · exact hv h
      · cases fs with
        | nil => cases h
        | cons f fs =>
            rw [dumpsMoreFields_cons, List.mem_append] at h
            rcases h with h | h
            · exact printable_separator (by decide) style.item_comma h
            · exact dumpsFields_printable (f :: fs) h

end

end Printable

-- ── Lines ─────────────────────────────────────────────────────────────────────────

/-- A value on each line. -/
def dumpsLines (style : Style) (vs : List Json) : List Char :=
  vs.flatMap fun v => dumps style v ++ ['\n']

/-- The lines that are complete, after the beginning of one. -/
def linesFrom (line : List Char) : List Char → List (List Char)
  | [] => []
  | c :: cs => if c = '\n' then line :: linesFrom [] cs else linesFrom (line ++ [c]) cs

/-- The lines of a text.  What follows the last line feed is not complete. -/
def lines : List Char → List (List Char) := linesFrom []

section Lines

variable {style : Style} {line cs : List Char}

theorem linesFrom_append {l : List Char} (h : '\n' ∉ l) :
    linesFrom line (l ++ '\n' :: cs) = (line ++ l) :: linesFrom [] cs := by
  induction l generalizing line with
  | nil => rw [List.nil_append, List.append_nil, linesFrom, if_pos rfl]
  | cons c l ih =>
      have hc : c ≠ '\n' := fun hc => h (hc ▸ List.mem_cons_self)
      rw [List.cons_append, linesFrom, if_neg hc, ih fun hmem => h (List.mem_cons_of_mem _ hmem)]
      rw [List.append_assoc, List.singleton_append]

theorem prefix_linesFrom {seen : List Char} (h : seen <+: cs) :
    linesFrom line seen <+: linesFrom line cs := by
  induction seen generalizing line cs with
  | nil => exact List.nil_prefix
  | cons c seen ih =>
      obtain ⟨more, rfl⟩ := h
      rw [List.cons_append, linesFrom, linesFrom]
      split
      next => exact (List.prefix_cons_inj line).mpr (ih (List.prefix_append seen more))
      next => exact ih (List.prefix_append seen more)

theorem lineFeed_not_mem_dumps (v : Json) : '\n' ∉ dumps style v := by
  intro h
  exact absurd (dumps_printable v h) (by decide)

/-- **Every line is read back.** -/
theorem lines_dumpsLines (vs : List Json) :
    (lines (dumpsLines style vs)).map loads = vs.map some := by
  have hlines : lines (dumpsLines style vs) = vs.map (dumps style) := by
    induction vs with
    | nil => rfl
    | cons v vs ih =>
        rw [dumpsLines, List.flatMap_cons, List.append_assoc, List.singleton_append]
        rw [lines, linesFrom_append (lineFeed_not_mem_dumps v), List.nil_append, List.map_cons]
        exact congrArg _ ih
  rw [hlines, List.map_map]
  exact List.map_congr_left fun v _ => loads_dumps v

/-- **A reader that comes early** finds the first lines. -/
theorem lines_of_prefix {vs : List Json} {seen : List Char} (h : seen <+: dumpsLines style vs) :
    (lines seen).map loads <+: vs.map some := by
  have hlines : (lines (dumpsLines style vs)).map loads = vs.map some := lines_dumpsLines vs
  rw [← hlines]
  exact List.IsPrefix.map loads (prefix_linesFrom h)

end Lines

end JsonText
