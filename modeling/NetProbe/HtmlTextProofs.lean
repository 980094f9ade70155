import Mathlib.Data.List.Basic

/-!
# HTML as it is tokenised

The tokenizer of HTML for markup without comments, declarations and raw text: the states from
data to the values of attributes, the references of the four characters that have to be escaped,
and the newlines of the input stream.  What it does not know it does not accept.

It reads text by text (`Reads`), so markup that is put together from pieces is read piece by
piece; an escaped text is read as its characters and nothing else (`reads_escape`), in the value
of an attribute as well (`feed_escape_value`).
-/

namespace HtmlText

-- ── Tokens ────────────────────────────────────────────────────────────────────────

inductive Token where
  | char (c : Char)
  | startTag (name : List Char) (attrs : List (List Char × List Char))
  | endTag (name : List Char)
  deriving DecidableEq, Repr

/-- A tag that is being read, its last attribute first. -/
structure Tag where
  close : Bool
  name : List Char
  attrs : List (List Char × List Char)
  deriving DecidableEq, Repr

inductive Quote where
  | double
  | single
  | bare
  deriving DecidableEq, Repr

inductive State where
  | data
  | tagOpen
  | endTagOpen
  | tagName (tag : Tag)
  | beforeAttr (tag : Tag)
  | attrName (tag : Tag)
  | afterAttrName (tag : Tag)
  | beforeValue (tag : Tag)
  | value (quote : Quote) (tag : Tag)
  | afterValue (tag : Tag)
  | selfClosing (tag : Tag)
  | reference (inside : Option (Quote × Tag)) (seen : List Char)
  | unsupported
  deriving DecidableEq, Repr

-- ── Steps ─────────────────────────────────────────────────────────────────────────

def isSpace (c : Char) : Bool := c = '\t' || c = '\n' || c = '\x0c' || c = ' '

/-- Null becomes the replacement character. -/
def visible (c : Char) : Char := if c = '\x00' then '\ufffd' else c

def named (c : Char) : Char := visible c.toLower

/-- A new attribute. -/
def Tag.attr (tag : Tag) (c : Char) : Tag := { tag with attrs := ([named c], []) :: tag.attrs }

/-- A character of the name of the attribute. -/
def Tag.nameAttr (tag : Tag) (c : Char) : Tag :=
  match tag.attrs with
  | [] => tag
  | (name, value) :: attrs => { tag with attrs := (name ++ [named c], value) :: attrs }

/-- A character of its value. -/
def Tag.put (tag : Tag) (c : Char) : Tag :=
  match tag.attrs with
  | [] => tag
  | (name, value) :: attrs => { tag with attrs := (name, value ++ [c]) :: attrs }

/-- Of two attributes of one name the first counts. -/
def distinct : List (List Char × List Char) → List (List Char × List Char)
  | [] => []
  | a :: attrs => a :: (distinct attrs).filter (·.1 ≠ a.1)

/-- The elements whose content is not tokenised like this. -/
def rawText : List (List Char) :=
  ["script", "style", "textarea", "title", "xmp", "iframe", "noembed", "noframes", "noscript",
    "plaintext"].map String.toList

/-- The tag is complete. -/
def emit (tag : Tag) : State × List Token :=
  if tag.close then (.data, [.endTag tag.name])
  else
    (if rawText.contains tag.name then .unsupported else .data,
      [.startTag tag.name (distinct tag.attrs.reverse)])

def stepData (c : Char) : State × List Token :=
  if c = '&' then (.reference none [], [])
  else if c = '<' then (.tagOpen, [])
  else (.data, [.char c])

def stepTagOpen (c : Char) : State × List Token :=
  if c = '/' then (.endTagOpen, [])
  else if c.isAlpha then (.tagName ⟨false, [named c], []⟩, [])
  else if c = '!' || c = '?' then (.unsupported, [])
  else ((stepData c).1, .char '<' :: (stepData c).2)

def stepEndTagOpen (c : Char) : State × List Token :=
  if c.isAlpha then (.tagName ⟨true, [named c], []⟩, [])
  else if c = '>' then (.data, [])
  else (.unsupported, [])

def stepTagName (tag : Tag) (c : Char) : State × List Token :=
  if isSpace c then (.beforeAttr tag, [])
  else if c = '/' then (.selfClosing tag, [])
  else if c = '>' then emit tag
  else (.tagName { tag with name := tag.name ++ [named c] }, [])

def stepBeforeAttr (tag : Tag) (c : Char) : State × List Token :=
  if isSpace c then (.beforeAttr tag, [])
  else if c = '/' then (.selfClosing tag, [])
  else if c = '>' then emit tag
  else (.attrName (tag.attr c), [])

def stepAttrName (tag : Tag) (c : Char) : State × List Token :=
  if isSpace c then (.afterAttrName tag, [])
  else if c = '/' then (.selfClosing tag, [])
  else if c = '>' then emit tag
  else if c = '=' then (.beforeValue tag, [])
  else (.attrName (tag.nameAttr c), [])

def stepAfterAttrName (tag : Tag) (c : Char) : State × List Token :=
  if c = '=' then (.beforeValue tag, [])
  else if isSpace c then (.afterAttrName tag, [])
  else stepBeforeAttr tag c

def stepValue (quote : Quote) (tag : Tag) (c : Char) : State × List Token :=
  if quote = .double ∧ c = '"' ∨ quote = .single ∧ c = '\'' then (.afterValue tag, [])
  else if quote = .bare ∧ isSpace c then (.beforeAttr tag, [])
  else if quote = .bare ∧ c = '>' then emit tag
  else if c = '&' then (.reference (some (quote, tag)) [], [])
  else (.value quote (tag.put (visible c)), [])

def stepBeforeValue (tag : Tag) (c : Char) : State × List Token :=
  if isSpace c then (.beforeValue tag, [])
  else if c = '"' then (.value .double tag, [])
  else if c = '\'' then (.value .single tag, [])
  else if c = '>' then emit tag
  else stepValue .bare tag c

def stepSelfClosing (tag : Tag) (c : Char) : State × List Token :=
  if c = '>' then emit tag else stepBeforeAttr tag c

/-- The references of the characters that mean something. -/
def references : List (List Char × Char) :=
  [(['a', 'm', 'p'], '&'), (['l', 't'], '<'), (['g', 't'], '>'), (['q', 'u', 'o', 't'], '"')]

/-- A character that was written as a reference. -/
def referred (inside : Option (Quote × Tag)) (c : Char) : State × List Token :=
  match inside with
  | none => (.data, [.char c])
  | some (quote, tag) => (.value quote (tag.put c), [])

def stepReference (inside : Option (Quote × Tag)) (seen : List Char) (c : Char) :
    State × List Token :=
  if c = ';' then
    match references.lookup seen with
    | some d => referred inside d
    | none => (.unsupported, [])
  else if c.isAlphanum ∨ c = '#' then (.reference inside (seen ++ [c]), [])
  else (.unsupported, [])

def step : State → Char → State × List Token
  | .data, c => stepData c
  | .tagOpen, c => stepTagOpen c
  | .endTagOpen, c => stepEndTagOpen c
  | .tagName tag, c => stepTagName tag c
  | .beforeAttr tag, c => stepBeforeAttr tag c
  | .attrName tag, c => stepAttrName tag c
  | .afterAttrName tag, c => stepAfterAttrName tag c
  | .beforeValue tag, c => stepBeforeValue tag c
  | .value quote tag, c => stepValue quote tag c
  | .afterValue tag, c => stepBeforeAttr tag c
  | .selfClosing tag, c => stepSelfClosing tag c
  | .reference inside seen, c => stepReference inside seen c
  | .unsupported, _ => (.unsupported, [])

-- ── Texts ─────────────────────────────────────────────────────────────────────────

/-- What is read of a text; `cr` after a carriage return.  A carriage return is read as a line feed,
    and a line feed after it is not read. -/
def feed : Bool → State → List Char → (Bool × State) × List Token
  | cr, s, [] => ((cr, s), [])
  | cr, s, c :: cs =>
      if cr && c = '\n' then feed false s cs
      else
        let r := step s (if c = '\r' then '\n' else c)
        let r' := feed (c = '\r') r.1 cs
        (r'.1, r.2 ++ r'.2)

/-- The tokens of a text that ends outside of tags. -/
def tokenize (s : List Char) : Option (List Token) :=
  match feed false .data s with
  | ((_, .data), ts) => some ts
  | _ => none

/-- The text without carriage returns. -/
def newlines : Bool → List Char → List Char
  | _, [] => []
  | cr, c :: cs =>
      if cr && c = '\n' then newlines false cs
      else (if c = '\r' then '\n' else c) :: newlines (c = '\r') cs

/-- The text ends with a carriage return. -/
def returns : Bool → List Char → Bool
  | cr, [] => cr
  | _, c :: cs => returns (c = '\r') cs

/-- The text is read from outside of tags to outside of tags. -/
def Reads (cr : Bool) (s : List Char) (cr' : Bool) (ts : List Token) : Prop :=
  feed cr .data s = ((cr', .data), ts)

instance (cr : Bool) (s : List Char) (cr' : Bool) (ts : List Token) :
    Decidable (Reads cr s cr' ts) :=
  inferInstanceAs (Decidable (_ = _))

/-- `& < > "` as references. -/
def escapeChar (c : Char) : List Char :=
  match c with
  | '&' => ['&', 'a', 'm', 'p', ';']
  | '<' => ['&', 'l', 't', ';']
  | '>' => ['&', 'g', 't', ';']
  | '"' => ['&', 'q', 'u', 'o', 't', ';']
  | c => [c]

def escape (s : List Char) : List Char := s.flatMap escapeChar

-- ── Trees ─────────────────────────────────────────────────────────────────────────

/-- What markup is meant to show. -/
inductive Node where
  | text (s : List Char)
  | element (name : List Char) (attrs : List (List Char × List Char)) (children : List Node)

mutual

/-- The tokens of a node. -/
def Node.tokens : Node → List Token
  | .text s => s.map .char
  | .element name attrs children => .startTag name attrs :: (tokensOf children ++ [.endTag name])

def tokensOf : List Node → List Token
  | [] => []
  | n :: ns => n.tokens ++ tokensOf ns

end

section Feed

variable {cr cr' cr'' : Bool} {s s' : List Char} {st : State} {ts ts' : List Token} {c : Char}

/-- **Pieces are read one after another.** -/
theorem feed_append : feed cr st (s ++ s') =
    ((feed (feed cr st s).1.1 (feed cr st s).1.2 s').1,
      (feed cr st s).2 ++ (feed (feed cr st s).1.1 (feed cr st s).1.2 s').2) := by
  induction s generalizing cr st with
  | nil => rfl
  | cons c cs ih =>
      rw [List.cons_append, feed, feed]
      split
      next => exact ih
      next =>
        dsimp only
        rw [ih, List.append_assoc]

theorem reads_nil : Reads cr [] cr [] := rfl

theorem Reads.append (h : Reads cr s cr' ts) (h' : Reads cr' s' cr'' ts') :
    Reads cr (s ++ s') cr'' (ts ++ ts') := by
  rw [Reads] at h h' ⊢
  rw [feed_append, h]
  dsimp only
  rw [h']

theorem Reads.tokenize (h : Reads false s cr ts) : tokenize s = some ts := by
  rw [HtmlText.tokenize, h]

/-- A character that is not escaped stands for itself. -/
theorem escapeChar_other (hamp : c ≠ '&') (hlt : c ≠ '<') (hgt : c ≠ '>') (hquot : c ≠ '"') :
    escapeChar c = [c] := by
  rw [escapeChar]
  · exact hamp
  · exact hlt
  · exact hgt
  · exact hquot

/-- Reading an escaped character does what `f` says, if reading a character that needs no escape
    does, and reading a reference does. -/
theorem feed_escapeChar {f : Char → State × List Token}
    (href : ∀ d ∈ ['&', '<', '>', '"'], feed false st (escapeChar d) = ((false, (f d).1), (f d).2))
    (hother : ∀ d, d ∉ ['&', '<', '>', '"'] → step st d = f d) :
    feed cr st (escapeChar c) =
      if cr && c = '\n' then ((false, st), [])
      else ((c = '\r', (f (if c = '\r' then '\n' else c)).1),
        (f (if c = '\r' then '\n' else c)).2) := by
  by_cases hc : c ∈ ['&', '<', '>', '"']
  · have hfeed := href c hc
    simp only [List.mem_cons, List.not_mem_nil, or_false] at hc
    rcases hc with rfl | rfl | rfl | rfl
    · cases cr <;> exact hfeed
    · cases cr <;> exact hfeed
    · cases cr <;> exact hfeed
    · cases cr <;> exact hfeed
  · have hescape : escapeChar c = [c] := by
      simp only [List.mem_cons, List.not_mem_nil, or_false, not_or] at hc
      exact escapeChar_other hc.1 hc.2.1 hc.2.2.1 hc.2.2.2
    have hstep : step st (if c = '\r' then '\n' else c) = f (if c = '\r' then '\n' else c) := by
      split
      next => exact hother _ (by decide)
      next => exact hother _ hc
    rw [hescape, feed, hstep]
    split
    next => rfl
    next =>
      show ((_, _), _ ++ []) = _
      rw [List.append_nil]

theorem feed_escapeChar_data : feed cr .data (escapeChar c) =
    if cr && c = '\n' then ((false, .data), [])
    else ((c = '\r', .data), [.char (if c = '\r' then '\n' else c)]) := by
  refine feed_escapeChar (f := fun d => (.data, [.char d])) ?_ ?_
  · intro d hd
    simp only [List.mem_cons, List.not_mem_nil, or_false] at hd
    rcases hd with rfl | rfl | rfl | rfl
    · rfl
    · rfl
    · rfl
    · rfl
  · intro d hd
    simp only [List.mem_cons, List.not_mem_nil, or_false, not_or] at hd
    show stepData d = _
    rw [stepData, if_neg hd.1, if_neg hd.2.1]

/-- **An escaped text is read as its characters.** -/
theorem reads_escape : Reads cr (escape s) (returns cr s) ((newlines cr s).map .char) := by
  induction s generalizing cr with
  | nil => rfl
  | cons c cs ih =>
      rw [escape, List.flatMap_cons, newlines, returns]
      have hc : feed cr .data (escapeChar c) = _ := feed_escapeChar_data
      by_cases hskip : (cr && decide (c = '\n')) = true
      · rw [if_pos hskip] at hc ⊢
        have hret : decide (c = '\r') = false := by
          rw [Bool.and_eq_true, decide_eq_true_eq] at hskip
          rw [hskip.2]
          rfl
        rw [hret]
        exact Reads.append hc ih
      · rw [if_neg hskip] at hc ⊢
        exact Reads.append hc ih

/-- What a text adds to the value of an attribute. -/
def Tag.puts (tag : Tag) (s : List Char) : Tag := s.foldl (fun tag c => tag.put (visible c)) tag

theorem feed_escapeChar_value {tag : Tag} : feed cr (.value .double tag) (escapeChar c) =
    if cr && c = '\n' then ((false, .value .double tag), [])
    else ((c = '\r', .value .double (tag.put (visible (if c = '\r' then '\n' else c)))), []) := by
  refine feed_escapeChar (f := fun d => (.value .double (tag.put (visible d)), [])) ?_ ?_
  · intro d hd
    simp only [List.mem_cons, List.not_mem_nil, or_false] at hd
    rcases hd with rfl | rfl | rfl | rfl
    · rfl
    · rfl
    · rfl
    · rfl
  · intro d hd
    simp only [List.mem_cons, List.not_mem_nil, or_false, not_or] at hd
    show stepValue .double tag d = _
    rw [stepValue, if_neg, if_neg, if_neg, if_neg hd.1]
    · rintro ⟨h, -⟩
      cases h
    · rintro ⟨h, -⟩
      cases h
    · rintro (⟨-, h⟩ | ⟨h, -⟩)
      · exact hd.2.2.2 h
      · cases h

/-- **An escaped text in the value of an attribute** stays in it. -/
theorem feed_escape_value {tag : Tag} : feed cr (.value .double tag) (escape s) =
    ((returns cr s, .value .double (tag.puts (newlines cr s))), []) := by
  induction s generalizing cr tag with
  | nil => rfl
  | cons c cs ih =>
      rw [escape, List.flatMap_cons, newlines, returns, feed_append, feed_escapeChar_value]
      by_cases hskip : (cr && decide (c = '\n')) = true
      · have hret : decide (c = '\r') = false := by
          rw [Bool.and_eq_true, decide_eq_true_eq] at hskip
          rw [hskip.2]
          rfl
        rw [if_pos hskip, if_pos hskip, hret]
        exact congrArg (fun r => (r.1, [] ++ r.2)) ih
      · rw [if_neg hskip, if_neg hskip]
        exact congrArg (fun r => (r.1, [] ++ r.2)) ih

theorem puts_value {close : Bool} {name key value : List Char}
    {attrs : List (List Char × List Char)} :
    Tag.puts ⟨close, name, (key, value) :: attrs⟩ s =
      ⟨close, name, (key, value ++ s.map visible) :: attrs⟩ := by
  induction s generalizing value with
  | nil => rw [List.map_nil, List.append_nil, Tag.puts, List.foldl_nil]
  | cons c cs ih =>
      rw [Tag.puts, List.foldl_cons]
      exact ih.trans (by rw [List.map_cons, List.append_assoc, List.singleton_append])

end Feed

end HtmlText
