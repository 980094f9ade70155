import Mathlib.Data.List.Basic
import NetProbe.PyTextProofs
import NetProbe.IpAddressProofs

/-!
# `urllib.parse`: splitting a URL and putting it back

`urlsplit` and `urlunsplit` as CPython 3.12 defines them, with the properties of the result
the program reads: `username`, `password`, `hostname`.  `none` is `ValueError`: unbalanced or
invalid square brackets, or a network location that contains a delimiter after NFKC.

The network location is `userinfo@host:port`; everything up to the last `@` is the userinfo
(`userinfo`), the rest the host and port text (`hostinfo`).  `Target` is what a URL says
about the place it points to: scheme, host and port text, path.  `urlunsplit` without query
and fragment is undone by `urlsplit` (`urlsplit_urlunsplit`), so it keeps exactly the userinfo
on top of the `Target` (`urlunsplit_eq_iff`).
-/

namespace NetProbeUrlSplit

open NetProbePyText NetProbeIpAddress

/-- `SplitResult` -/
structure SplitResult where
  scheme : Str
  netloc : Str
  path : Str
  query : Str
  fragment : Str
  deriving DecidableEq, Repr

/-- `_WHATWG_C0_CONTROL_OR_SPACE` -/
def isC0ControlOrSpace (c : Char) : Bool := c.toNat ≤ 32

/-- `_UNSAFE_URL_BYTES_TO_REMOVE` -/
def isUnsafeUrlByte (c : Char) : Bool := c = '\t' || c = '\r' || c = '\n'

def isAsciiAlpha (c : Char) : Bool := ('a' ≤ c && c ≤ 'z') || ('A' ≤ c && c ≤ 'Z')

/-- `scheme_chars` -/
def isSchemeChar (c : Char) : Bool :=
  isAsciiAlpha c || isAsciiDigit c || c = '+' || c = '-' || c = '.'

/-- `uses_netloc` -/
def usesNetloc : List Str :=
  ["", "ftp", "http", "gopher", "nntp", "telnet", "imap", "wais", "file", "mms", "https", "shttp",
   "snews", "prospero", "rtsp", "rtsps", "rtspu", "rsync", "svn", "svn+ssh", "sftp", "nfs", "git",
   "git+ssh", "ws", "wss"].map str

/-- `_splitnetloc(url, 2)`, on the text after `//`. -/
def splitnetloc (s : Str) : Str × Str :=
  cutBefore (fun c => c = '/' || c = '?' || c = '#') s

/-- `re.match(r"\Av[a-fA-F0-9]+\..+\z", hostname)` -/
def isIpvFuture (hostname : Str) : Bool :=
  match hostname with
  | 'v' :: rest =>
      match rest.takeWhile isHexDigit, rest.dropWhile isHexDigit with
      | _ :: _, '.' :: tail => tail ≠ [] && tail.all (· ≠ '\n')
      | _, _ => false
  | _ => false

/-- `_check_bracketed_host` -/
def checkBracketedHost (hostname : Str) : Bool :=
  if startswith ['v'] hostname then isIpvFuture hostname
  else
    match ipAddress hostname with
    | some (.v6 _ _) => true
    | _ => false

/-- `_check_bracketed_netloc` -/
def checkBracketedNetloc (netloc : Str) : Bool :=
  let hostnameAndPort := (rpartition '@' netloc).2.2
  match partition '[' hostnameAndPort with
  | (before, true, bracketed) =>
      if before ≠ [] then false
      else
        let (hostname, _, port) := partition ']' bracketed
        if port ≠ [] && !startswith [':'] port then false else checkBracketedHost hostname
  | (_, false, _) => checkBracketedHost (partition ':' hostnameAndPort).1

/-- `_checknetloc`: no delimiter may appear by NFKC normalisation. -/
def checknetloc (py : Python) (netloc : Str) : Bool :=
  if netloc = [] || netloc.all isAscii then true
  else
    let n := netloc.filter fun c => !(c = '@' || c = ':' || c = '#' || c = '?')
    let netloc2 := py.nfkc n
    n = netloc2 || !netloc2.any fun c => c = '/' || c = '?' || c = '#' || c = '@' || c = ':'

/-- The bracket checks of `urlsplit` on the network location. -/
def bracketsOk (netloc : Str) : Bool :=
  if '[' ∈ netloc && ']' ∉ netloc then false
  else if ']' ∈ netloc && '[' ∉ netloc then false
  else if '[' ∈ netloc && ']' ∈ netloc then checkBracketedNetloc netloc
  else true

/-- The scheme, lower-cased, and the rest of the URL. -/
def splitScheme (py : Python) (url : Str) : Str × Str :=
  match partition ':' url with
  | (before, true, after) =>
      if before ≠ [] && (url.head?.any fun c => isAscii c && isAsciiAlpha c) &&
        before.all isSchemeChar then
        (py.lower before, after)
      else ([], url)
  | (_, false, _) => ([], url)

/-- The path, the query and the fragment of what follows the network location. -/
def splitPath (url : Str) : Str × Str × Str :=
  let (noFragment, _, fragment) := partition '#' url
  let (path, _, query) := partition '?' noFragment
  (path, query, fragment)

/-- The network location behind `//`, if there is one, and what follows it. -/
def splitAuthority (rest : Str) : Str × Str :=
  if startswith ['/', '/'] rest then splitnetloc (rest.drop 2) else ([], rest)

/-- The text `urlsplit` works on: without leading blanks and without line breaks and tabs. -/
def cleaned (url : Str) : Str := (lstrip isC0ControlOrSpace url).filter fun c => !isUnsafeUrlByte c

/-- `urlsplit(url)`; `none` is `ValueError`. -/
def urlsplit (py : Python) (url : Str) : Option SplitResult :=
  let s := splitScheme py (cleaned url)
  let a := splitAuthority s.2
  if !bracketsOk a.1 then none
  else if !checknetloc py a.1 then none
  else
    let p := splitPath a.2
    some ⟨s.1, a.1, p.1, p.2.1, p.2.2⟩

/-- `urlunsplit((scheme, netloc, path, query, fragment))` -/
def urlunsplit (scheme netloc path query fragment : Str) : Str :=
  let url :=
    if netloc ≠ [] then
      let path := if path ≠ [] && path.head? ≠ some '/' then '/' :: path else path
      ['/', '/'] ++ netloc ++ path
    else if startswith ['/', '/'] path then ['/', '/'] ++ path
    else if scheme ≠ [] && usesNetloc.contains scheme && (path = [] || path.head? = some '/') then
      ['/', '/'] ++ path
    else path
  let url := if scheme ≠ [] then scheme ++ ':' :: url else url
  let url := if query ≠ [] then url ++ '?' :: query else url
  if fragment ≠ [] then url ++ '#' :: fragment else url

-- ── What the program reads from a split URL ───────────────────────────────────────

/-- The userinfo of a network location: the text before its last `@`, if it has one. -/
def userinfo (netloc : Str) : Option Str :=
  let r := rpartition '@' netloc
  if r.2.1 then some r.1 else none

/-- The host and port text of a network location. -/
def hostinfo (netloc : Str) : Str := (rpartition '@' netloc).2.2

/-- `parts.username` -/
def username (r : SplitResult) : Option Str :=
  (userinfo r.netloc).map fun u => (partition ':' u).1

/-- `parts.password` -/
def password (r : SplitResult) : Option Str :=
  (userinfo r.netloc).bind fun u =>
    match partition ':' u with
    | (_, true, password) => some password
    | (_, false, _) => none

/-- `parts.hostname`: the host in lower case, a zone behind `%` as it is. -/
def hostname (py : Python) (r : SplitResult) : Option Str :=
  let host :=
    match partition '[' (hostinfo r.netloc) with
    | (_, true, bracketed) => (partition ']' bracketed).1
    | (_, false, _) => (partition ':' (hostinfo r.netloc)).1
  if host = [] then none
  else
    match partition '%' host with
    | (name, true, zone) => some (py.lower name ++ '%' :: zone)
    | (name, false, _) => some (py.lower name)

/-- What a URL says about the place it points to. -/
structure Target where
  scheme : Str
  hostinfo : Str
  path : Str
  deriving DecidableEq, Repr

/-- The target of a split URL: everything but userinfo, query and fragment. -/
def target (r : SplitResult) : Target := ⟨r.scheme, hostinfo r.netloc, r.path⟩

-- ── Pieces ────────────────────────────────────────────────────────────────────────

/-- A network location is its userinfo and its host and port text. -/
theorem netloc_eq_iff {n n' : Str} (h : hostinfo n = hostinfo n') :
    n = n' ↔ userinfo n = userinfo n' := by
  constructor
  · intro he
    rw [he]
  · intro he
    unfold userinfo at he
    unfold hostinfo at h
    cases hf : (rpartition '@' n).2.1 with
    | true =>
        cases hf' : (rpartition '@' n').2.1 with
        | true =>
            simp only [hf, hf', if_true, Option.some.injEq] at he
            rw [(rpartition_found hf).1, (rpartition_found hf').1, he, h]
        | false => simp [hf, hf'] at he
    | false =>
        cases hf' : (rpartition '@' n').2.1 with
        | true => simp [hf, hf'] at he
        | false =>
            rw [(rpartition_notFound hf).1, (rpartition_notFound hf').1] at h
            exact h

/-- What follows a network location starts with a delimiter, if anything follows. -/
theorem splitnetloc_rest (s : Str) :
    (splitnetloc s).2 = [] ∨ ∃ c t, (splitnetloc s).2 = c :: t ∧ (c = '/' ∨ c = '?' ∨ c = '#') := by
  rw [splitnetloc, cutBefore]
  cases hd : s.dropWhile fun c => !(decide (c = '/') || decide (c = '?') || decide (c = '#')) with
  | nil => exact Or.inl rfl
  | cons c t =>
      refine Or.inr ⟨c, t, rfl, ?_⟩
      have hne : s.dropWhile
          (fun c => !(decide (c = '/') || decide (c = '?') || decide (c = '#'))) ≠ [] := by
        rw [hd]
        simp
      have :=
        List.head_dropWhile_not
          (fun c => !(decide (c = '/') || decide (c = '?') || decide (c = '#'))) hne
      simp only [hd, List.head_cons, Bool.not_eq_false', Bool.or_eq_true, decide_eq_true_eq] at this
      rcases this with (h | h) | h
      · exact Or.inl h
      · exact Or.inr (Or.inl h)
      · exact Or.inr (Or.inr h)

/-- So does what follows the authority of a URL that has one. -/
theorem splitAuthority_rest {rest : Str} (hn : (splitAuthority rest).1 ≠ []) :
    (splitAuthority rest).2 = [] ∨
      ∃ c t, (splitAuthority rest).2 = c :: t ∧ (c = '/' ∨ c = '?' ∨ c = '#') := by
  rw [splitAuthority] at hn ⊢
  by_cases hs : startswith ['/', '/'] rest = true
  · rw [if_pos hs]
    exact splitnetloc_rest _
  · rw [if_neg hs] at hn
    exact absurd rfl hn

/-- The path behind a network location is empty or starts with a slash. -/
theorem splitPath_of_rest {rest : Str}
    (h : rest = [] ∨ ∃ c t, rest = c :: t ∧ (c = '/' ∨ c = '?' ∨ c = '#')) :
    (splitPath rest).1 = [] ∨ (splitPath rest).1.head? = some '/' := by
  rcases h with rfl | ⟨c, t, rfl, rfl | rfl | rfl⟩
  · exact Or.inl rfl
  · refine Or.inr ?_
    simp [splitPath, partition]
  · refine Or.inl ?_
    simp [splitPath, partition]
  · refine Or.inl ?_
    simp [splitPath, partition]

/-- A URL with a network location has a path that is empty or starts with a slash. -/
theorem urlsplit_path {py : Python} {url : Str} {r : SplitResult} (h : urlsplit py url = some r)
    (hn : r.netloc ≠ []) : r.path = [] ∨ r.path.head? = some '/' := by
  simp only [urlsplit] at h
  split at h
  · cases h
  · split at h
    · cases h
    · rw [← Option.some.inj h] at hn ⊢
      exact splitPath_of_rest (splitAuthority_rest hn)

-- ── Schemes ───────────────────────────────────────────────────────────────────────

theorem isAscii_of_le {c d : Char} (h : c ≤ d) (hd : isAscii d = true) : isAscii c = true := by
  have hle : c.toNat ≤ d.toNat := h
  have hlt : d.toNat < 128 := by simpa [isAscii] using hd
  simp only [isAscii, decide_eq_true_eq]
  omega

theorem isAscii_of_schemeChar {c : Char} (h : isSchemeChar c = true) : isAscii c = true := by
  simp only [isSchemeChar, isAsciiAlpha, isAsciiDigit, Bool.or_eq_true, Bool.and_eq_true,
    decide_eq_true_eq] at h
  rcases h with ((((⟨-, h⟩ | ⟨-, h⟩) | ⟨-, h⟩) | rfl) | rfl) | rfl
  · exact isAscii_of_le h (by decide)
  · exact isAscii_of_le h (by decide)
  · exact isAscii_of_le h (by decide)
  · decide
  · decide
  · decide

/-- A scheme character is visible. -/
theorem isC0_of_schemeChar {c : Char} (h : isSchemeChar c = true) :
    isC0ControlOrSpace c = false := by
  have hall : ∀ n < 128, isSchemeChar (Char.ofNat n) = true →
      isC0ControlOrSpace (Char.ofNat n) = false := by decide +kernel
  exact ascii_cases (P := fun c => isSchemeChar c = true → isC0ControlOrSpace c = false) hall
    (isAscii_of_schemeChar h) h

/-- The lower case of a scheme character is a scheme character and its own lower case, and a
    letter stays a letter. -/
theorem schemeChar_toLower {c : Char} (h : isSchemeChar c = true) :
    isSchemeChar c.toLower = true ∧ c.toLower.toLower = c.toLower ∧
      (isAsciiAlpha c = true → isAsciiAlpha c.toLower = true) := by
  have hall : ∀ n < 128, isSchemeChar (Char.ofNat n) = true →
      isSchemeChar (Char.ofNat n).toLower = true ∧
        (Char.ofNat n).toLower.toLower = (Char.ofNat n).toLower ∧
          (isAsciiAlpha (Char.ofNat n) = true → isAsciiAlpha (Char.ofNat n).toLower = true) := by
    decide +kernel
  exact ascii_cases (P := fun c => isSchemeChar c = true → isSchemeChar c.toLower = true ∧
    c.toLower.toLower = c.toLower ∧ (isAsciiAlpha c = true → isAsciiAlpha c.toLower = true))
    hall (isAscii_of_schemeChar h) h

/-- A letter and scheme characters behind it. -/
structure IsScheme (scheme : Str) : Prop where
  letter : scheme.head?.any isAsciiAlpha = true
  chars : ∀ c ∈ scheme, isSchemeChar c = true

theorem IsScheme.ne_nil {scheme : Str} (h : IsScheme scheme) : scheme ≠ [] := by
  rintro rfl
  cases h.letter

theorem IsScheme.no_colon {scheme : Str} (h : IsScheme scheme) : ':' ∉ scheme := by
  intro hm
  have := h.chars _ hm
  revert this
  decide

/-- The lower case of a scheme is a scheme and its own lower case. -/
theorem IsScheme.lower {scheme : Str} (h : IsScheme scheme) (py : Python) :
    IsScheme (py.lower scheme) ∧ py.lower (py.lower scheme) = py.lower scheme := by
  have hmap : ∀ d ∈ scheme.map Char.toLower, isSchemeChar d = true ∧ d.toLower = d := by
    intro d hd
    obtain ⟨e, he, rfl⟩ := List.mem_map.mp hd
    have := schemeChar_toLower (h.chars e he)
    exact ⟨this.1, this.2.1⟩
  rw [py.lower_ascii scheme fun c hc => isAscii_of_schemeChar (h.chars c hc)]
  refine ⟨⟨?_, fun d hd => (hmap d hd).1⟩, ?_⟩
  · obtain ⟨c, cs, rfl⟩ := List.exists_cons_of_ne_nil h.ne_nil
    exact (schemeChar_toLower (h.chars c (by simp))).2.2 h.letter
  · rw [py.lower_ascii _ fun d hd => isAscii_of_schemeChar (hmap d hd).1]
    conv_rhs => rw [← List.map_id (scheme.map Char.toLower)]
    exact List.map_congr_left fun d hd => (hmap d hd).2

/-- A scheme in front of a colon is split off. -/
theorem splitScheme_scheme {scheme : Str} (h : IsScheme scheme) (py : Python) (rest : Str) :
    splitScheme py (scheme ++ ':' :: rest) = (py.lower scheme, rest) := by
  rw [splitScheme]
  rw [partition_append h.no_colon]
  obtain ⟨c, cs, rfl⟩ := List.exists_cons_of_ne_nil h.ne_nil
  have hc : isAscii c = true := isAscii_of_schemeChar (h.chars c (by simp))
  have hletter : isAsciiAlpha c = true := h.letter
  have hchars : (c :: cs).all isSchemeChar = true := List.all_eq_true.mpr h.chars
  simp only [hchars, hc, hletter, List.cons_append, List.head?_cons, Option.any_some, ne_eq,
    reduceCtorEq, not_false_eq_true, decide_true, Bool.and_self, if_true]

/-- What `splitScheme` does: it splits off a scheme, or nothing. -/
theorem splitScheme_cases (py : Python) (url : Str) :
    (∃ before after, url = before ++ ':' :: after ∧ IsScheme before ∧
      splitScheme py url = (py.lower before, after)) ∨ splitScheme py url = ([], url) := by
  rw [splitScheme]
  rcases hp : partition ':' url with ⟨before, found, after⟩
  cases found with
  | false => exact Or.inr rfl
  | true =>
      dsimp only
      split
      · rename_i hc
        have hurl := (partition_found (c := ':') (s := url) (by rw [hp])).1
        rw [hp] at hurl
        simp only [Bool.and_eq_true, decide_eq_true_eq, ne_eq] at hc
        obtain ⟨⟨hne, hletter⟩, hchars⟩ := hc
        obtain ⟨c, cs, rfl⟩ := List.exists_cons_of_ne_nil hne
        refine Or.inl ⟨c :: cs, after, hurl, ⟨?_, List.all_eq_true.mp hchars⟩, rfl⟩
        rw [hurl] at hletter
        simp only [List.cons_append, List.head?_cons, Option.any_some, Bool.and_eq_true] at hletter
        exact hletter.2
      · exact Or.inr rfl

/-- A text that starts with a slash has no scheme. -/
theorem splitScheme_slash (py : Python) (s : Str) : splitScheme py ('/' :: s) = ([], '/' :: s) := by
  rcases splitScheme_cases py ('/' :: s) with ⟨before, after, hurl, hscheme, -⟩ | heq
  · obtain ⟨c, cs, rfl⟩ := List.exists_cons_of_ne_nil hscheme.ne_nil
    have hc : isSchemeChar c = true := hscheme.chars c (by simp)
    rw [List.cons_append] at hurl
    rw [← (List.cons.inj hurl).1] at hc
    exact absurd hc (by decide)
  · exact heq

/-- The front part of a text without a scheme has none either. -/
theorem splitScheme_prefix {py : Python} {url p : Str} (hp : p <+: url)
    (h : splitScheme py url = ([], url)) : splitScheme py p = ([], p) := by
  rcases splitScheme_cases py p with ⟨before, after, rfl, hscheme, -⟩ | heq
  · obtain ⟨rest, rfl⟩ := hp
    rw [List.append_assoc, List.cons_append, splitScheme_scheme hscheme] at h
    exact absurd (congrArg Prod.fst h) (hscheme.lower py).1.ne_nil
  · exact heq

-- ── Round trip ────────────────────────────────────────────────────────────────────

/-- What `urlsplit` returns: a scheme or none, a network location without delimiters that
    passes its checks, and a path that fits behind it. -/
structure WellSplit (py : Python) (r : SplitResult) : Prop where
  scheme : r.scheme = [] ∨ (IsScheme r.scheme ∧ py.lower r.scheme = r.scheme)
  safe : ∀ c ∈ r.netloc ++ r.path, isUnsafeUrlByte c = false
  netloc : ∀ c ∈ r.netloc, c ≠ '/' ∧ c ≠ '?' ∧ c ≠ '#'
  brackets : bracketsOk r.netloc = true
  nfkc : checknetloc py r.netloc = true
  path_slash : r.netloc ≠ [] → r.path = [] ∨ r.path.head? = some '/'
  path : '?' ∉ r.path ∧ '#' ∉ r.path
  bare : r.scheme = [] → (∀ c, r.path.head? = some c → isC0ControlOrSpace c = false) ∧
    splitScheme py r.path = ([], r.path)

/-- The network location with the path behind it, as `urlunsplit` writes them. -/
def body (scheme netloc path : Str) : Str :=
  if netloc ≠ [] then
    ['/', '/'] ++ netloc ++ (if path ≠ [] && path.head? ≠ some '/' then '/' :: path else path)
  else if startswith ['/', '/'] path then ['/', '/'] ++ path
  else if scheme ≠ [] && usesNetloc.contains scheme && (path = [] || path.head? = some '/') then
    ['/', '/'] ++ path
  else path

/-- A URL without query and fragment, behind its scheme. -/
theorem urlunsplit_plain (scheme netloc path : Str) :
    urlunsplit scheme netloc path [] [] =
      (if scheme ≠ [] then scheme ++ [':'] else []) ++ body scheme netloc path := by
  rw [urlunsplit, body]
  by_cases hs : scheme = []
  · simp [hs]
  · simp [hs]

theorem splitnetloc_append {n p : Str} (hn : ∀ c ∈ n, c ≠ '/' ∧ c ≠ '?' ∧ c ≠ '#')
    (hp : p = [] ∨ p.head? = some '/') : splitnetloc (n ++ p) = (n, p) := by
  rw [splitnetloc, cutBefore]
  have hall : ∀ c ∈ n, (!(decide (c = '/') || decide (c = '?') || decide (c = '#'))) = true := by
    intro c hc
    simp [hn c hc]
  rw [List.takeWhile_append_of_pos hall, List.dropWhile_append_of_pos hall]
  rcases hp with rfl | hp
  · simp
  · cases p with
    | nil => cases hp
    | cons c cs =>
        rw [List.head?_cons] at hp
        rw [Option.some.inj hp]
        simp

/-- The network location is split off the body again. -/
theorem splitAuthority_body {py : Python} {r : SplitResult} (h : WellSplit py r) :
    splitAuthority (body r.scheme r.netloc r.path) = (r.netloc, r.path) := by
  have slashes : ∀ n p : Str, (∀ c ∈ n, c ≠ '/' ∧ c ≠ '?' ∧ c ≠ '#') →
      (p = [] ∨ p.head? = some '/') → splitAuthority (['/', '/'] ++ n ++ p) = (n, p) := by
    intro n p hn hp
    have hs : startswith ['/', '/'] (['/', '/'] ++ n ++ p) = true := by
      simp [startswith]
    rw [splitAuthority]
    rw [if_pos hs]
    exact splitnetloc_append hn hp
  rw [body]
  by_cases hn : r.netloc = []
  · rw [hn]
    simp only [ne_eq, not_true_eq_false, if_false]
    split
    · rename_i hs
      refine slashes [] r.path (by simp) (Or.inr ?_)
      cases hp : r.path with
      | nil => simp [hp, startswith] at hs
      | cons c cs =>
          simp only [hp, startswith, List.isPrefixOf, Bool.and_eq_true, beq_iff_eq] at hs
          rw [hs.1]
          rfl
    · split
      · rename_i hc
        simp only [Bool.and_eq_true, Bool.or_eq_true, decide_eq_true_eq] at hc
        exact slashes [] r.path (by simp) hc.2
      · rename_i hs _
        rw [splitAuthority]
        rw [if_neg hs]
  · have hp := h.path_slash hn
    have hif : (r.path ≠ [] && r.path.head? ≠ some '/') = false := by
      rcases hp with hp | hp <;> simp [hp]
    rw [if_pos hn, hif]
    exact slashes r.netloc r.path h.netloc hp

/-- The path of what follows an authority is a front part of it without `?` and `#`. -/
theorem splitPath_fst (rest : Str) :
    (splitPath rest).1 <+: rest ∧ '?' ∉ (splitPath rest).1 ∧ '#' ∉ (splitPath rest).1 := by
  have h1 := partition_fst_prefix '#' rest
  have h2 := partition_fst_prefix '?' (partition '#' rest).1
  refine ⟨h2.trans h1, partition_fst_notMem _ _, ?_⟩
  intro hm
  exact partition_fst_notMem '#' rest (h2.subset hm)

/-- A text without `?` and `#` is all path. -/
theorem splitPath_plain {p : Str} (h : '?' ∉ p ∧ '#' ∉ p) : splitPath p = (p, [], []) := by
  rw [splitPath]
  rw [partition_of_notMem h.2]
  dsimp only
  rw [partition_of_notMem h.1]

/-- The authority and what follows it are parts of the text, the authority without
    delimiters. -/
theorem splitAuthority_parts (rest : Str) :
    (∀ c ∈ (splitAuthority rest).1 ++ (splitAuthority rest).2, c ∈ rest) ∧
      ∀ c ∈ (splitAuthority rest).1, c ≠ '/' ∧ c ≠ '?' ∧ c ≠ '#' := by
  rw [splitAuthority]
  by_cases hs : startswith ['/', '/'] rest = true
  · rw [if_pos hs]
    rw [splitnetloc, cutBefore]
    constructor
    · intro c hc
      rw [List.takeWhile_append_dropWhile] at hc
      exact List.mem_of_mem_drop hc
    · intro c hc
      have := List.all_eq_true.mp List.all_takeWhile c hc
      simpa [not_or, and_assoc] using this
  · rw [if_neg hs]
    exact ⟨fun c hc => by simpa using hc, fun c hc => by cases hc⟩

theorem isC0_of_isUnsafeUrlByte {c : Char} (h : isUnsafeUrlByte c = true) :
    isC0ControlOrSpace c = true := by
  simp only [isUnsafeUrlByte, Bool.or_eq_true, decide_eq_true_eq] at h
  rcases h with (rfl | rfl) | rfl <;> decide

/-- The cleaned text starts with a visible character and has no unsafe one. -/
theorem cleaned_spec (url : Str) :
    (∀ c, (cleaned url).head? = some c → isC0ControlOrSpace c = false) ∧
      ∀ c ∈ cleaned url, isUnsafeUrlByte c = false := by
  refine ⟨?_, fun c hc => by simpa using (List.mem_filter.mp hc).2⟩
  intro c hc
  rw [cleaned, lstrip] at hc
  cases hd : url.dropWhile isC0ControlOrSpace with
  | nil =>
      rw [hd] at hc
      cases hc
  | cons d ds =>
      have hd0 : isC0ControlOrSpace d = false := by
        have := List.head?_dropWhile_not isC0ControlOrSpace url
        rw [hd] at this
        simpa using this
      have hds : isUnsafeUrlByte d = false := by
        by_contra hne
        rw [isC0_of_isUnsafeUrlByte (by simpa using hne)] at hd0
        cases hd0
      rw [hd, List.filter_cons_of_pos (by simp [hds])] at hc
      rw [← Option.some.inj hc]
      exact hd0

/-- A text that is clean already is not changed. -/
theorem cleaned_of_clean {s : Str} (hhead : ∀ c, s.head? = some c → isC0ControlOrSpace c = false)
    (hsafe : ∀ c ∈ s, isUnsafeUrlByte c = false) : cleaned s = s := by
  have hstrip : lstrip isC0ControlOrSpace s = s := by
    cases s with
    | nil => rfl
    | cons c cs =>
        rw [lstrip]
        rw [List.dropWhile_cons_of_neg]
        rw [hhead c rfl]
        simp
  rw [cleaned]
  rw [hstrip]
  refine List.filter_eq_self.mpr fun c hc => ?_
  simp [hsafe c hc]

/-- The path of a text without a scheme starts with a visible character and does not look like
    a scheme. -/
theorem splitPath_bare {py : Python} {s : Str}
    (hhead : ∀ c, s.head? = some c → isC0ControlOrSpace c = false)
    (hwhole : splitScheme py s = ([], s)) :
    (∀ c, (splitPath (splitAuthority s).2).1.head? = some c → isC0ControlOrSpace c = false) ∧
      splitScheme py (splitPath (splitAuthority s).2).1 =
        ([], (splitPath (splitAuthority s).2).1) := by
  obtain ⟨hinit, -⟩ := splitPath_fst (splitAuthority s).2
  by_cases hs : startswith ['/', '/'] s = true
  · have hslash : (splitPath (splitAuthority s).2).1 = [] ∨
        (splitPath (splitAuthority s).2).1.head? = some '/' := by
      refine splitPath_of_rest ?_
      rw [splitAuthority]
      rw [if_pos hs]
      exact splitnetloc_rest _
    cases hp : (splitPath (splitAuthority s).2).1 with
    | nil => exact ⟨fun c hc => (by cases hc), rfl⟩
    | cons d ds =>
        rw [hp] at hslash
        have hd : d = '/' := by simpa using hslash
        subst hd
        refine ⟨fun c hc => ?_, splitScheme_slash py ds⟩
        rw [← Option.some.inj hc]
        decide
  · have hself : splitAuthority s = ([], s) := by
      rw [splitAuthority]
      rw [if_neg hs]
    rw [hself] at hinit ⊢
    refine ⟨fun c hc => ?_, splitScheme_prefix hinit hwhole⟩
    obtain ⟨t, ht⟩ := hinit
    refine hhead c ?_
    dsimp only at ht hc
    rw [← ht]
    cases hp : (splitPath s).1 with
    | nil =>
        rw [hp] at hc
        cases hc
    | cons d ds =>
        rw [hp] at hc
        exact hc

/-- **What `urlsplit` returns is well split.** -/
theorem urlsplit_wellSplit {py : Python} {url : Str} {r : SplitResult}
    (h : urlsplit py url = some r) : WellSplit py r := by
  have hpath := urlsplit_path h
  obtain ⟨hhead, hsafe⟩ := cleaned_spec url
  simp only [urlsplit] at h
  split at h
  · cases h
  · rename_i hbrackets
    split at h
    · cases h
    · rename_i hnfkc
      have hr := (Option.some.inj h).symm
      subst hr
      have hrest : ∀ c ∈ (splitScheme py (cleaned url)).2, c ∈ cleaned url := by
        intro c hc
        rcases splitScheme_cases py (cleaned url) with ⟨before, after, hurl, -, heq⟩ | heq
        · rw [heq] at hc
          rw [hurl]
          simp [show c ∈ after from hc]
        · rw [heq] at hc
          exact hc
      obtain ⟨hparts, hnetloc⟩ := splitAuthority_parts (splitScheme py (cleaned url)).2
      obtain ⟨hinit, hplain⟩ := splitPath_fst (splitAuthority (splitScheme py (cleaned url)).2).2
      refine ⟨?_, ?_, hnetloc, by simpa using hbrackets, by simpa using hnfkc, hpath, hplain, ?_⟩
      · rcases splitScheme_cases py (cleaned url) with ⟨before, after, -, hscheme, heq⟩ | heq
        · rw [heq]
          exact Or.inr (hscheme.lower py)
        · rw [heq]
          exact Or.inl rfl
      · intro c hc
        refine hsafe c (hrest c (hparts c ?_))
        rcases List.mem_append.mp hc with hc | hc
        · exact List.mem_append_left _ hc
        · exact List.mem_append_right _ (hinit.subset hc)
      · intro hnil
        -- without a scheme the rest is the whole text
        have hwhole : splitScheme py (cleaned url) = ([], cleaned url) := by
          rcases splitScheme_cases py (cleaned url) with ⟨before, after, -, hscheme, heq⟩ | heq
          · rw [heq] at hnil
            exact absurd hnil (hscheme.lower py).1.ne_nil
          · exact heq
        rw [hwhole]
        exact splitPath_bare hhead hwhole

theorem mem_body {scheme netloc path : Str} {c : Char} (h : c ∈ body scheme netloc path) :
    c = '/' ∨ c ∈ netloc ++ path := by
  rw [body] at h
  split at h
  · split at h <;> simp at h <;> simp <;> tauto
  · split at h
    · simp at h
      simp
      tauto
    · split at h
      · simp at h
        simp
        tauto
      · simp [h]

/-- **Round trip.** The text `urlunsplit` makes of scheme, network location and path is split
    into the same three again. -/
theorem urlsplit_urlunsplit {py : Python} {r : SplitResult} (h : WellSplit py r) :
    urlsplit py (urlunsplit r.scheme r.netloc r.path [] []) =
      some ⟨r.scheme, r.netloc, r.path, [], []⟩ := by
  have htext : urlunsplit r.scheme r.netloc r.path [] [] =
      (if r.scheme ≠ [] then r.scheme ++ [':'] else []) ++ body r.scheme r.netloc r.path :=
    urlunsplit_plain r.scheme r.netloc r.path
  have hbodysafe : ∀ c ∈ body r.scheme r.netloc r.path, isUnsafeUrlByte c = false := by
    intro c hc
    rcases mem_body hc with rfl | hc
    · decide
    · exact h.safe c hc
  -- with or without a scheme, the text is clean and the scheme is split off
  have hsplit : cleaned (urlunsplit r.scheme r.netloc r.path [] []) =
      urlunsplit r.scheme r.netloc r.path [] [] ∧
        splitScheme py (urlunsplit r.scheme r.netloc r.path [] []) =
          (r.scheme, body r.scheme r.netloc r.path) := by
    rw [htext]
    rcases h.scheme with hnil | ⟨hscheme, hlower⟩
    · rw [hnil]
      simp only [ne_eq, not_true_eq_false, if_false, List.nil_append]
      obtain ⟨hhead, hbare⟩ := h.bare hnil
      rw [hnil] at hbodysafe
      have hbody : (∃ s, body [] r.netloc r.path = '/' :: s) ∨
          body [] r.netloc r.path = r.path := by
        rw [body]
        split
        · exact Or.inl ⟨_, rfl⟩
        · split
          · exact Or.inl ⟨_, rfl⟩
          · exact Or.inr rfl
      rcases hbody with ⟨s, hs⟩ | hs
      · rw [hs] at hbodysafe ⊢
        refine ⟨cleaned_of_clean (fun c hc => ?_) hbodysafe, splitScheme_slash py s⟩
        rw [← Option.some.inj hc]
        decide
      · rw [hs] at hbodysafe ⊢
        exact ⟨cleaned_of_clean hhead hbodysafe, hbare⟩
    · rw [if_pos hscheme.ne_nil, List.append_assoc, List.singleton_append]
      have hschemesafe : ∀ c ∈ r.scheme, isC0ControlOrSpace c = false :=
        fun c hc => isC0_of_schemeChar (hscheme.chars c hc)
      refine ⟨cleaned_of_clean ?_ ?_, ?_⟩
      · intro c hc
        obtain ⟨d, ds, hd⟩ := List.exists_cons_of_ne_nil hscheme.ne_nil
        rw [hd] at hc hschemesafe
        rw [← Option.some.inj hc]
        exact hschemesafe d (by simp)
      · intro c hc
        rcases List.mem_append.mp hc with hc | hc
        · by_contra hne
          have := isC0_of_isUnsafeUrlByte (by simpa using hne)
          rw [hschemesafe c hc] at this
          cases this
        · rcases List.mem_cons.mp hc with rfl | hc
          · decide
          · exact hbodysafe c hc
      · rw [splitScheme_scheme hscheme, hlower]
  simp only [urlsplit]
  rw [hsplit.1, hsplit.2]
  simp only [splitAuthority_body h, h.brackets, h.nfkc, splitPath_plain h.path]
  rfl

/-- **What the text without query and fragment keeps.** For two URLs with one target, it is
    the same text exactly if the userinfo is the same. -/
theorem urlunsplit_eq_iff {py : Python} {u u' : Str} {r r' : SplitResult}
    (hr : urlsplit py u = some r) (hr' : urlsplit py u' = some r') (ht : target r = target r') :
    urlunsplit r.scheme r.netloc r.path [] [] = urlunsplit r'.scheme r'.netloc r'.path [] [] ↔
      userinfo r.netloc = userinfo r'.netloc := by
  have hscheme : r.scheme = r'.scheme := congrArg Target.scheme ht
  have hpath : r.path = r'.path := congrArg Target.path ht
  have hhost : hostinfo r.netloc = hostinfo r'.netloc := congrArg Target.hostinfo ht
  rw [← netloc_eq_iff hhost]
  constructor
  · intro h
    have hsplit := congrArg (urlsplit py) h
    rw [urlsplit_urlunsplit (urlsplit_wellSplit hr),
      urlsplit_urlunsplit (urlsplit_wellSplit hr')] at hsplit
    have hresult := Option.some.inj hsplit
    exact (SplitResult.mk.inj hresult).2.1
  · intro h
    rw [hscheme, hpath, h]

end NetProbeUrlSplit
