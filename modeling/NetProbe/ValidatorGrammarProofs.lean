import Mathlib.Data.List.Basic
import NetProbe.AddressVerdictProofs
import NetProbe.RegexProofs

/-!
# The languages of the domain and host validators

What `validate_domain` and `validate_host` accept, as languages.  A domain is written down as
its labels: `Dotted` says that a text is a list of at least two of them with dots between and
perhaps one behind.  The label rule of the source is a regular expression, and its `$` also
holds before a final line feed, so the labels that pass are `LooseLabel`s: proper ones, and
proper ones with a line feed behind.  `validateDomain` accepts exactly the dotted texts of
loose labels (`validateDomain_accepts`, `validateDomain_accepted`).

A host is accepted as an IP literal, as a bracketed one, or as a domain.  What an IP literal
can hold is read off the parser: without its scope an IPv6 literal has hexadecimal digits,
colons and dots only and is short (`ipv6_text`), so a scope is all that can bring blanks,
control characters or length.  The last section compares both validators with their grammar.
-/

namespace NetProbeValidatorGrammar

open NetProbePyText NetProbeUrlSplit NetProbeIpAddress NetProbeSecurity NetProbeRegex
open NetProbeAddressVerdict

-- ── Labels ────────────────────────────────────────────────────────────────────────

/-- A label: 1 to 63 letters, digits or hyphens, no hyphen at an end. -/
def IsLabel (l : Str) : Prop :=
  1 ≤ l.length ∧ l.length ≤ 63 ∧ (∀ c ∈ l, isAsciiAlnum c = true ∨ c = '-') ∧
    l.head? ≠ some '-' ∧ l.getLast? ≠ some '-'

/-- A symbol between the ends of a label. -/
def isLabelChar (c : Char) : Bool := isAsciiAlnum c || c = '-'

/-- `_DOMAIN_LABEL_RE` between its anchors. -/
def domainLabelRe : Regex Char :=
  .seq (.cls isAsciiAlnum)
    (Regex.opt (.seq (.rep (.cls isLabelChar) 0 61) (.cls isAsciiAlnum)))

theorem isLabelChar_iff {c : Char} : isLabelChar c = true ↔ isAsciiAlnum c = true ∨ c = '-' := by
  rw [isLabelChar]
  rw [Bool.or_eq_true, decide_eq_true_eq]

/-- An end of a label that is no hyphen is a letter or a digit. -/
theorem alnum_end {o : Option Char} :
    o.any isAsciiAlnum = true ↔ ∃ c, o = some c ∧ isAsciiAlnum c = true := by
  cases o with
  | none => exact ⟨fun h => (nomatch h), fun ⟨c, hc, _⟩ => (nomatch hc)⟩
  | some c => simp

theorem not_alnum_hyphen : isAsciiAlnum '-' = false := by decide

theorem isDomainLabel_iff {l : Str} : isDomainLabel l = true ↔ IsLabel l := by
  rw [isDomainLabel, IsLabel]
  simp only [Bool.and_eq_true, decide_eq_true_eq, List.all_eq_true, Bool.or_eq_true]
  constructor
  · rintro ⟨⟨⟨⟨h1, h2⟩, hall⟩, hhead⟩, hlast⟩
    obtain ⟨c, hc, hca⟩ := alnum_end.mp hhead
    obtain ⟨d, hd, hda⟩ := alnum_end.mp hlast
    refine ⟨h1, h2, hall, ?_, ?_⟩
    · rw [hc]
      intro he
      rw [Option.some.inj he, not_alnum_hyphen] at hca
      cases hca
    · rw [hd]
      intro he
      rw [Option.some.inj he, not_alnum_hyphen] at hda
      cases hda
  · rintro ⟨h1, h2, hall, hhead, hlast⟩
    have hne : l ≠ [] := by
      rintro rfl
      simp at h1
    refine ⟨⟨⟨⟨h1, h2⟩, hall⟩, alnum_end.mpr ?_⟩, alnum_end.mpr ?_⟩
    · refine ⟨l.head hne, List.head?_eq_some_head hne, ?_⟩
      refine (hall _ (List.head_mem hne)).resolve_right fun he => hhead ?_
      rw [List.head?_eq_some_head hne, he]
    · refine ⟨l.getLast hne, List.getLast?_eq_some_getLast hne, ?_⟩
      refine (hall _ (List.getLast_mem hne)).resolve_right fun he => hlast ?_
      rw [List.getLast?_eq_some_getLast hne, he]

/-- **The expression of the source.** Its words are the labels. -/
theorem domainLabelRe_iff {l : Str} : Matches domainLabelRe l ↔ IsLabel l := by
  rw [← isDomainLabel_iff]
  rw [isDomainLabel]
  simp only [Bool.and_eq_true, decide_eq_true_eq, List.all_eq_true, Bool.or_eq_true, alnum_end]
  constructor
  · intro h
    obtain ⟨u, v, rfl, hu, hv⟩ := matches_seq.mp h
    obtain ⟨a, rfl, ha⟩ := matches_cls.mp hu
    rcases matches_opt.mp hv with rfl | hv
    · simp [ha]
    · obtain ⟨m, w, rfl, hm, hw⟩ := matches_seq.mp hv
      obtain ⟨b, rfl, hb⟩ := matches_cls.mp hw
      obtain ⟨hclass, -, hlen⟩ := matches_rep_cls.mp hm
      refine ⟨⟨⟨⟨by simp, ?_⟩, ?_⟩, a, rfl, ha⟩, b, ?_, hb⟩
      · simp only [List.length_append, List.length_singleton]
        omega
      · intro c hc
        simp only [List.mem_append, List.mem_singleton] at hc
        rcases hc with rfl | hc | rfl
        · exact Or.inl ha
        · exact isLabelChar_iff.mp (hclass c hc)
        · exact Or.inl hb
      · rw [← List.append_assoc, List.getLast?_concat]
  · rintro ⟨⟨⟨⟨-, hlen⟩, hall⟩, a, hhead, ha⟩, b, hlast, hb⟩
    cases l with
    | nil => cases hhead
    | cons x rest =>
        have hx : x = a := Option.some.inj hhead
        refine matches_seq.mpr ⟨[x], rest, rfl, .cls (hx ▸ ha), matches_opt.mpr ?_⟩
        rcases List.eq_nil_or_concat' rest with rfl | ⟨m, y, rfl⟩
        · exact Or.inl rfl
        · right
          have hy : y = b := by
            rw [← List.cons_append, List.getLast?_concat] at hlast
            exact Option.some.inj hlast
          refine matches_seq.mpr ⟨m, [y], rfl, matches_rep_cls.mpr ⟨?_, Nat.zero_le _, ?_⟩,
            .cls (hy ▸ hb)⟩
          · intro c hc
            exact isLabelChar_iff.mpr (hall c (by simp [hc]))
          · simp only [List.length_cons, List.length_append, List.length_nil] at hlen
            omega

/-- `_DOMAIN_LABEL_RE.match` is the match of the expression up to the anchor `$`. -/
theorem domainLabelMatches_iff {l : Str} :
    domainLabelMatches l = true ↔ MatchesToEnd '\n' domainLabelRe l := by
  rw [matchesToEnd_iff, domainLabelRe_iff]
  rw [domainLabelMatches]
  rw [Bool.or_eq_true, Bool.and_eq_true, decide_eq_true_eq, isDomainLabel_iff, isDomainLabel_iff]
  constructor
  · rintro (h | ⟨hlast, h⟩)
    · exact Or.inl h
    · refine Or.inr ⟨l.dropLast, ?_, domainLabelRe_iff.mpr h⟩
      exact (List.dropLast_append_getLast? _ hlast).symm
  · rintro (h | ⟨u, rfl, hu⟩)
    · exact Or.inl h
    · right
      rw [List.getLast?_concat, List.dropLast_concat]
      exact ⟨rfl, domainLabelRe_iff.mp hu⟩

/-- A label as the source lets it pass: a proper one, perhaps with a line feed behind. -/
def LooseLabel (l : Str) : Prop :=
  l.length ≤ 63 ∧ (IsLabel l ∨ ∃ body, l = body ++ ['\n'] ∧ IsLabel body)

theorem looseLabel_iff {l : Str} :
    LooseLabel l ↔ l.length ≤ 63 ∧ domainLabelMatches l = true := by
  rw [domainLabelMatches_iff, matchesToEnd_iff, domainLabelRe_iff]
  rw [LooseLabel]
  simp only [domainLabelRe_iff]

theorem IsLabel.loose {l : Str} (h : IsLabel l) : LooseLabel l := ⟨h.2.1, Or.inl h⟩

/-- The symbols of a loose label. -/
theorem LooseLabel.symbols {l : Str} (h : LooseLabel l) :
    l ≠ [] ∧ ∀ c ∈ l, isLabelChar c = true ∨ c = '\n' := by
  rcases h.2 with hl | ⟨body, rfl, hb⟩
  · refine ⟨?_, fun c hc => Or.inl (isLabelChar_iff.mpr (hl.2.2.1 c hc))⟩
    rintro rfl
    exact absurd hl.1 (by simp)
  · refine ⟨by simp, ?_⟩
    intro c hc
    rcases List.mem_append.mp hc with hc | hc
    · exact Or.inl (isLabelChar_iff.mpr (hb.2.2.1 c hc))
    · exact Or.inr (List.mem_singleton.mp hc)

/-- Without a line feed in it a loose label is a proper one. -/
theorem LooseLabel.isLabel {l : Str} (h : LooseLabel l) (hl : '\n' ∉ l) : IsLabel l := by
  rcases h.2 with h | ⟨body, rfl, -⟩
  · exact h
  · exact absurd (by simp) hl

-- ── Dotted texts ──────────────────────────────────────────────────────────────────

/-- A list of labels with dots between. -/
def joined (labels : List Str) : Str := ['.'].intercalate labels

/-- At least two labels of a kind with dots between, and at most one dot behind. -/
def Dotted (P : Str → Prop) (d : Str) : Prop :=
  ∃ labels : List Str, 2 ≤ labels.length ∧ (∀ l ∈ labels, P l) ∧
    (d = joined labels ∨ d = joined labels ++ ['.'])

/-- Labels that can be told apart again: not empty and without a dot. -/
def Separable (labels : List Str) : Prop := labels ≠ [] ∧ ∀ l ∈ labels, l ≠ [] ∧ '.' ∉ l

theorem joined_cons {l : Str} {ls : List Str} (h : ls ≠ []) :
    joined (l :: ls) = l ++ '.' :: joined ls := by
  rw [joined]
  rw [List.intercalate_cons_of_ne_nil h, List.append_assoc]
  rfl

/-- The symbols of a joined text. -/
theorem mem_intercalate {sep : Str} {ls : List Str} {c : Char} (h : c ∈ sep.intercalate ls) :
    c ∈ sep ∨ ∃ l ∈ ls, c ∈ l := by
  induction ls with
  | nil => cases h
  | cons l ls ih =>
      by_cases hls : ls = []
      · subst hls
        rw [List.intercalate_singleton] at h
        exact Or.inr ⟨l, List.mem_cons_self .., h⟩
      · rw [List.intercalate_cons_of_ne_nil hls, List.mem_append, List.mem_append] at h
        rcases h with (h | h) | h
        · exact Or.inr ⟨l, List.mem_cons_self .., h⟩
        · exact Or.inl h
        · rcases ih h with h | ⟨l', hl', hc⟩
          · exact Or.inl h
          · exact Or.inr ⟨l', List.mem_cons_of_mem _ hl', hc⟩

theorem mem_joined {labels : List Str} {c : Char} (h : c ∈ joined labels) :
    c = '.' ∨ ∃ l ∈ labels, c ∈ l := by
  rcases mem_intercalate h with hc | hl
  · exact Or.inl (List.mem_singleton.mp hc)
  · exact Or.inr hl

theorem mem_joined_of_mem {labels : List Str} {l : Str} {c : Char} (hl : l ∈ labels) (hc : c ∈ l) :
    c ∈ joined labels := by
  induction labels with
  | nil => cases hl
  | cons l' ls ih =>
      by_cases hls : ls = []
      · subst hls
        rw [List.mem_singleton.mp hl] at hc
        simpa [joined] using hc
      · rw [joined_cons hls]
        rcases List.mem_cons.mp hl with rfl | hl
        · exact List.mem_append.mpr (Or.inl hc)
        · exact List.mem_append.mpr (Or.inr (List.mem_cons_of_mem _ (ih hl)))

/-- The last symbol of separable labels is no dot. -/
theorem getLast?_joined {labels : List Str} (h : Separable labels) :
    ∃ c, (joined labels).getLast? = some c ∧ c ≠ '.' := by
  obtain ⟨hne, hall⟩ := h
  induction labels with
  | nil => exact absurd rfl hne
  | cons l ls ih =>
      by_cases hls : ls = []
      · subst hls
        obtain ⟨hl, hdot⟩ := hall l (List.mem_cons_self ..)
        refine ⟨l.getLast hl, ?_, fun he => hdot (he ▸ List.getLast_mem hl)⟩
        show (['.'].intercalate [l]).getLast? = _
        rw [List.intercalate_singleton, List.getLast?_eq_some_getLast hl]
      · obtain ⟨c, hc, hdot⟩ := ih hls fun l' hl' => hall l' (List.mem_cons_of_mem _ hl')
        refine ⟨c, ?_, hdot⟩
        rw [joined_cons hls, List.getLast?_append, List.getLast?_cons, hc]
        rfl

theorem split_joined {labels : List Str} (h : Separable labels) :
    split '.' (joined labels) = labels :=
  List.splitOn_intercalate _ (fun l hl => (h.2 l hl).2) h.1

theorem split_dot (s : Str) : split '.' (s ++ ['.']) = split '.' s ++ [[]] := by
  show (s ++ ['.']).splitOn '.' = s.splitOn '.' ++ [[]]
  rw [List.splitOn_append_cons_self, List.splitOn_nil]

theorem joined_split (s : Str) : joined (split '.' s) = s := List.intercalate_splitOn _

/-- No piece of a split holds the separator. -/
theorem separator_not_mem_split {sep : Char} {s l : Str} (h : l ∈ split sep s) : sep ∉ l := by
  induction s generalizing l with
  | nil =>
      have hl : l = [] := by simpa [split] using h
      rw [hl]
      exact List.not_mem_nil
  | cons x xs ih =>
      rw [split] at h ih
      rw [List.splitOn_cons_eq_if_modifyHead] at h
      obtain ⟨head, tail, hsplit⟩ := List.exists_cons_of_ne_nil (List.splitOn_ne_nil sep xs)
      rw [hsplit] at h ih
      by_cases hx : x = sep
      · rw [if_pos (by simpa using hx)] at h
        rcases List.mem_cons.mp h with rfl | h
        · exact List.not_mem_nil
        · exact ih h
      · rw [if_neg (by simpa using hx), List.modifyHead_cons] at h
        rcases List.mem_cons.mp h with rfl | h
        · intro hc
          rcases List.mem_cons.mp hc with he | hc
          · exact hx he.symm
          · exact ih (List.mem_cons_self ..) hc
        · exact ih (List.mem_cons_of_mem _ h)

theorem rstrip_of_last {s : Str} {c : Char} (h : s.getLast? = some c) (hc : c ≠ '.') :
    rstrip (· = '.') s = s := by
  obtain ⟨t, rfl⟩ := List.getLast?_eq_some_iff.mp h
  rw [rstrip]
  rw [List.reverse_append, List.reverse_singleton, List.singleton_append,
    List.dropWhile_cons_of_neg (by simpa using hc), List.reverse_cons, List.reverse_reverse]

/-- Dots at the end of a dotted text are stripped off. -/
theorem rstrip_joined {labels : List Str} (h : Separable labels) {d : Str}
    (hd : d = joined labels ∨ d = joined labels ++ ['.']) :
    rstrip (· = '.') d = joined labels := by
  obtain ⟨c, hc, hdot⟩ := getLast?_joined h
  have hbase := rstrip_of_last hc hdot
  rcases hd with rfl | rfl
  · exact hbase
  · rw [rstrip] at hbase ⊢
    rw [List.reverse_append, List.reverse_singleton, List.singleton_append,
      List.dropWhile_cons_of_pos (by simp)]
    exact hbase

-- ── validate_domain ───────────────────────────────────────────────────────────────

/-- The domain grammar of the validator. -/
def DomainGrammar (d : Str) : Prop := 1 ≤ d.length ∧ d.length ≤ 253 ∧ Dotted IsLabel d

/-- The domains that the validator lets pass. -/
def LooseDomain (d : Str) : Prop := 1 ≤ d.length ∧ d.length ≤ 253 ∧ Dotted LooseLabel d

def isAsciiText (s : Str) : Prop := ∀ c ∈ s, isAscii c = true

/-- The check of the codec on an ASCII name: no label but the last is empty, none is longer
    than 63. -/
def IdnaLengths (labels : List Str) : Prop :=
  (∀ l ∈ labels.dropLast, 0 < l.length ∧ l.length < 64) ∧ (labels.getLastD []).length < 64

theorem idnaEncode_ascii (py : Python) {d : Str} (hne : d ≠ []) (ha : isAsciiText d) :
    (IdnaLengths (split '.' d) → idnaEncode py d = some d) ∧
      (¬ IdnaLengths (split '.' d) → idnaEncode py d = none) := by
  have hall : d.all isAscii = true := List.all_eq_true.mpr ha
  have hiff : ((split '.' d).dropLast.all (fun l => 0 < l.length && l.length < 64) &&
      decide (((split '.' d).getLastD []).length < 64)) = true ↔ IdnaLengths (split '.' d) := by
    rw [IdnaLengths]
    simp only [Bool.and_eq_true, List.all_eq_true, decide_eq_true_eq]
  rw [idnaEncode]
  rw [if_neg hne, if_pos hall]
  dsimp only
  constructor
  · intro h
    rw [if_pos (hiff.mpr h)]
  · intro h
    rw [if_neg fun hc => h (hiff.mp hc)]

/-- Loose labels are separable. -/
theorem separable_of_loose {labels : List Str} (hne : labels ≠ [])
    (h : ∀ l ∈ labels, LooseLabel l) :
    Separable labels := by
  refine ⟨hne, fun l hl => ?_⟩
  obtain ⟨hnil, hsym⟩ := (h l hl).symbols
  refine ⟨hnil, fun hdot => ?_⟩
  rcases hsym _ hdot with h' | h'
  · exact absurd h' (by decide)
  · exact absurd h' (by decide)

/-- The symbols of a dotted text of loose labels. -/
theorem symbols_of_dotted {labels : List Str} (h : ∀ l ∈ labels, LooseLabel l) {d : Str}
    (hd : d = joined labels ∨ d = joined labels ++ ['.']) {c : Char} (hc : c ∈ d) :
    c = '.' ∨ isLabelChar c = true ∨ c = '\n' := by
  have hj : c = '.' ∨ c ∈ joined labels := by
    rcases hd with rfl | rfl
    · exact Or.inr hc
    · rcases List.mem_append.mp hc with hc | hc
      · exact Or.inr hc
      · exact Or.inl (List.mem_singleton.mp hc)
  rcases hj with rfl | hj
  · exact Or.inl rfl
  · rcases mem_joined hj with rfl | ⟨l, hl, hc⟩
    · exact Or.inl rfl
    · exact Or.inr ((h l hl).symbols.2 c hc)

theorem LooseDomain.symbols {d : Str} (h : LooseDomain d) {c : Char} (hc : c ∈ d) :
    c = '.' ∨ isLabelChar c = true ∨ c = '\n' := by
  obtain ⟨-, -, labels, -, hall, hd⟩ := h
  exact symbols_of_dotted hall hd hc

/-- The labels of a dotted text, as the codec sees them. -/
theorem idnaLengths_of_dotted {labels : List Str} (hlen : 2 ≤ labels.length)
    (h : ∀ l ∈ labels, LooseLabel l) {d : Str}
    (hd : d = joined labels ∨ d = joined labels ++ ['.']) : IdnaLengths (split '.' d) := by
  have hne : labels ≠ [] := by
    rintro rfl
    simp at hlen
  have hsep := separable_of_loose hne h
  have hsize : ∀ l ∈ labels, 0 < l.length ∧ l.length < 64 := fun l hl =>
    ⟨List.length_pos_of_ne_nil (hsep.2 l hl).1, Nat.lt_succ_of_le (h l hl).1⟩
  rcases hd with rfl | rfl
  · rw [split_joined hsep]
    refine ⟨fun l hl => hsize l (List.mem_of_mem_dropLast hl), ?_⟩
    rw [List.getLastD_eq_getLast?, List.getLast?_eq_some_getLast hne]
    exact (hsize _ (List.getLast_mem hne)).2
  · rw [split_dot, split_joined hsep]
    refine ⟨fun l hl => hsize l ?_, ?_⟩
    · rw [List.dropLast_concat] at hl
      exact hl
    · rw [List.getLastD_concat]
      exact Nat.zero_lt_succ _

/-- What the codec lets pass is separable labels with at most one dot behind. -/
theorem labels_of_idna {d : Str} (hne : d ≠ []) (h : IdnaLengths (split '.' d)) :
    ∃ labels, Separable labels ∧ (d = joined labels ∨ d = joined labels ++ ['.']) := by
  have hjoin := joined_split d
  have hdots : ∀ l ∈ split '.' d, '.' ∉ l := fun l hl => separator_not_mem_split hl
  obtain ⟨hpos, -⟩ := h
  rcases List.eq_nil_or_concat' (split '.' d) with hnil | ⟨init, last, hsplit⟩
  · exact absurd hnil (List.splitOn_ne_nil '.' d)
  · rw [hsplit] at hjoin hdots hpos
    rw [List.dropLast_concat] at hpos
    have hinit : ∀ l ∈ init, l ≠ [] ∧ '.' ∉ l := fun l hl =>
      ⟨List.ne_nil_of_length_pos (hpos l hl).1, hdots l (List.mem_append.mpr (Or.inl hl))⟩
    by_cases hlast : last = []
    · subst hlast
      have hin : init ≠ [] := by
        rintro rfl
        apply hne
        rw [← hjoin]
        rfl
      refine ⟨init, ⟨hin, hinit⟩, Or.inr ?_⟩
      have hd : split '.' d = split '.' (joined init ++ ['.']) := by
        rw [split_dot, split_joined ⟨hin, hinit⟩, hsplit]
      rw [← joined_split d, hd, joined_split]
    · refine ⟨init ++ [last], ⟨by simp, ?_⟩, Or.inl hjoin.symm⟩
      intro l hl
      rcases List.mem_append.mp hl with hl | hl
      · exact hinit l hl
      · rw [List.mem_singleton.mp hl]
        exact ⟨hlast, hdots last (by simp)⟩

/-- **Acceptance, one way.** A loose domain is returned as it is. -/
theorem validateDomain_accepts (py : Python) {d : Str} (ha : isAsciiText d) (h : LooseDomain d) :
    validateDomain py d = .ok d := by
  have hsym := fun {c : Char} (hc : c ∈ d) => h.symbols hc
  obtain ⟨hpos, hlen, labels, htwo, hall, hd⟩ := h
  have hne : d ≠ [] := List.ne_nil_of_length_pos hpos
  have hlabels : labels ≠ [] := by
    rintro rfl
    simp at htwo
  have hsep := separable_of_loose hlabels hall
  have hslash : '/' ∉ d := fun hc => absurd (hsym hc) (by decide)
  have hcolon : ':' ∉ d := fun hc => absurd (hsym hc) (by decide)
  have hscheme : contains (str "://") d = false := by
    apply decide_eq_false
    intro hin
    exact hcolon (hin.subset (by decide))
  rw [validateDomain]
  rw [if_neg (by simp [hne, hlen]), if_neg (by simp [hscheme, hslash, hcolon]),
    (idnaEncode_ascii py hne ha).1 (idnaLengths_of_dotted htwo hall hd)]
  dsimp only
  rw [rstrip_joined hsep hd, split_joined hsep, if_neg (by omega), if_neg]
  intro hany
  obtain ⟨l, hl, hbad⟩ := List.any_eq_true.mp hany
  obtain ⟨hshort, hmatch⟩ := looseLabel_iff.mp (hall l hl)
  rw [hmatch, Bool.not_true, Bool.or_false, decide_eq_true_eq] at hbad
  omega

/-- **Acceptance, the other way.** An ASCII text that is accepted is a loose domain and is
    returned as it is. -/
theorem validateDomain_accepted {py : Python} {d v : Str} (ha : isAsciiText d)
    (h : validateDomain py d = .ok v) : v = d ∧ LooseDomain d := by
  rw [validateDomain] at h
  split at h
  · cases h
  · rename_i hlen
    rw [Bool.or_eq_true, decide_eq_true_eq, decide_eq_true_eq, not_or, not_lt] at hlen
    split at h
    · cases h
    · by_cases hid : IdnaLengths (split '.' d)
      · rw [(idnaEncode_ascii py hlen.1 ha).1 hid] at h
        obtain ⟨labels, hsep, hd⟩ := labels_of_idna hlen.1 hid
        dsimp only at h
        rw [rstrip_joined hsep hd, split_joined hsep] at h
        split at h
        · cases h
        · rename_i htwo
          split at h
          · cases h
          · rename_i hany
            refine ⟨(Except.ok.inj h).symm, List.length_pos_of_ne_nil hlen.1, hlen.2, labels,
              by omega, ?_, hd⟩
            intro l hl
            apply looseLabel_iff.mpr
            by_contra hbad
            apply hany
            refine List.any_eq_true.mpr ⟨l, hl, ?_⟩
            rw [Bool.or_eq_true, decide_eq_true_eq, Bool.not_eq_true']
            by_cases hshort : l.length ≤ 63
            · right
              rw [← Bool.not_eq_true]
              exact fun hm => hbad ⟨hshort, hm⟩
            · left
              omega
      · rw [(idnaEncode_ascii py hlen.1 ha).2 hid] at h
        cases h

/-- The only exception of the validator. -/
theorem validateDomain_error {py : Python} {d : Str} {e : ProbeError}
    (h : validateDomain py d = .error e) : ∃ m, e = .validationError m := by
  rw [validateDomain] at h
  split at h
  · exact ⟨_, (Except.error.inj h).symm⟩
  · split at h
    · exact ⟨_, (Except.error.inj h).symm⟩
    · split at h
      · exact ⟨_, (Except.error.inj h).symm⟩
      · dsimp only at h
        split at h
        · exact ⟨_, (Except.error.inj h).symm⟩
        · split at h
          · exact ⟨_, (Except.error.inj h).symm⟩
          · cases h

/-- A line feed behind a label that passes all the same. -/
def StrayLineFeed (d : Str) : Prop := LooseDomain d ∧ '\n' ∈ d

/-- Dropping to a weaker kind of label. -/
theorem Dotted.mono {P Q : Str → Prop} (hPQ : ∀ l, P l → Q l) {d : Str} (h : Dotted P d) :
    Dotted Q d := by
  obtain ⟨labels, htwo, hall, hd⟩ := h
  exact ⟨labels, htwo, fun l hl => hPQ l (hall l hl), hd⟩

theorem DomainGrammar.loose {d : Str} (h : DomainGrammar d) : LooseDomain d :=
  ⟨h.1, h.2.1, h.2.2.mono fun _ hl => hl.loose⟩

/-- The symbols of a domain are letters, digits, hyphens and dots. -/
theorem DomainGrammar.symbols {d : Str} (h : DomainGrammar d) {c : Char} (hc : c ∈ d) :
    c = '.' ∨ isLabelChar c = true := by
  obtain ⟨-, -, labels, -, hall, hd⟩ := h
  rcases symbols_of_dotted (fun l hl => (hall l hl).loose) hd hc with h | h | rfl
  · exact Or.inl h
  · exact Or.inr h
  · have hj : '\n' ∈ joined labels := by
      rcases hd with rfl | rfl
      · exact hc
      · rcases List.mem_append.mp hc with hc | hc
        · exact hc
        · exact absurd (List.mem_singleton.mp hc) (by decide)
    rcases mem_joined hj with h | ⟨l, hl, hc⟩
    · exact absurd h (by decide)
    · exact Or.inr (isLabelChar_iff.mpr ((hall l hl).2.2.1 _ hc))

/-- Without a line feed a loose domain is a domain. -/
theorem LooseDomain.grammar {d : Str} (h : LooseDomain d) (hn : '\n' ∉ d) : DomainGrammar d := by
  obtain ⟨hpos, hlen, labels, htwo, hall, hd⟩ := h
  refine ⟨hpos, hlen, labels, htwo, fun l hl => (hall l hl).isLabel fun hc => hn ?_, hd⟩
  rcases hd with rfl | rfl
  · exact mem_joined_of_mem hl hc
  · exact List.mem_append.mpr (Or.inl (mem_joined_of_mem hl hc))

theorem DomainGrammar.no_lineFeed {d : Str} (h : DomainGrammar d) : '\n' ∉ d := by
  intro hc
  rcases h.symbols hc with h' | h'
  · exact absurd h' (by decide)
  · exact absurd h' (by decide)

/-- `validate_domain` is its grammar at `d`. -/
def DomainExact (py : Python) (d : Str) : Prop :=
  (DomainGrammar d → validateDomain py d = .ok d) ∧
    (¬ DomainGrammar d → ∃ m, validateDomain py d = .error (.validationError m))

/-- The domain validator is its grammar except where a line feed strays in. -/
theorem domainExact_iff (py : Python) {d : Str} (ha : isAsciiText d) :
    DomainExact py d ↔ ¬ StrayLineFeed d := by
  constructor
  · rintro ⟨-, hreject⟩ ⟨hloose, hn⟩
    obtain ⟨m, hm⟩ := hreject fun hg => hg.no_lineFeed hn
    rw [validateDomain_accepts py ha hloose] at hm
    cases hm
  · intro hstray
    refine ⟨fun hg => validateDomain_accepts py ha hg.loose, fun hg => ?_⟩
    cases hv : validateDomain py d with
    | error e =>
        obtain ⟨m, rfl⟩ := validateDomain_error hv
        exact ⟨m, rfl⟩
    | ok v =>
        have hloose := (validateDomain_accepted ha hv).2
        by_cases hn : '\n' ∈ d
        · exact absurd ⟨hloose, hn⟩ hstray
        · exact absurd (hloose.grammar hn) hg

-- ── The texts of IP literals ──────────────────────────────────────────────────────

/-- The symbols of an address without its scope. -/
def isAddressChar (c : Char) : Bool := isHexDigit c || c = ':' || c = '.'

theorem isHexDigit_of_isDigit {c : Char} (h : c.isDigit = true) : isHexDigit c = true := by
  have hd : isAsciiDigit c = true := by
    simp only [Char.isDigit, Bool.and_eq_true, decide_eq_true_eq] at h
    rw [isAsciiDigit]
    rw [Bool.and_eq_true, decide_eq_true_eq, decide_eq_true_eq]
    exact h
  rw [isHexDigit]
  rw [hd]
  rfl

/-- The text of a byte has at most three digits. -/
theorem byte_text (n : Nat) :
    (Nat.toDigits 10 (n % 256)).length ≤ 3 ∧ ∀ c ∈ Nat.toDigits 10 (n % 256),
      isHexDigit c = true := by
  have hlt : n % 256 < 256 := Nat.mod_lt _ (by omega)
  refine ⟨(Nat.length_toDigits_le_iff (by omega) (by omega)).mpr (by omega), fun c hc => ?_⟩
  exact isHexDigit_of_isDigit (Nat.isDigit_of_mem_toDigits (by omega) (by omega) hc)

/-- An IPv4 literal has digits and dots only, at most fifteen of them. -/
theorem ipv4_text {s : Str} {n : Nat} (h : ipv4Address s = some n) :
    s.length ≤ 15 ∧ ∀ c ∈ s, isHexDigit c = true ∨ c = '.' := by
  rw [(ipv4Address_text h).1]
  have h1 := byte_text (n / 16777216)
  have h2 := byte_text (n / 65536)
  have h3 := byte_text (n / 256)
  have h4 := byte_text n
  constructor
  · rw [ipv4Str]
    simp only [List.intercalate_cons_cons, List.intercalate_singleton, List.length_append,
      List.length_singleton]
    omega
  · intro c hc
    have hc' : c ∈ joined [Nat.toDigits 10 (n / 16777216 % 256), Nat.toDigits 10 (n / 65536 % 256),
      Nat.toDigits 10 (n / 256 % 256), Nat.toDigits 10 (n % 256)] := hc
    rcases mem_joined hc' with rfl | ⟨l, hl, hc⟩
    · exact Or.inr rfl
    · simp only [List.mem_cons, List.not_mem_nil, or_false] at hl
      left
      rcases hl with rfl | rfl | rfl | rfl
      · exact h1.2 c hc
      · exact h2.2 c hc
      · exact h3.2 c hc
      · exact h4.2 c hc

/-- A hextet has one to four hexadecimal digits. -/
theorem hextet_text {s : Str} {n : Nat} (h : parseHextet s = some n) :
    s.length ≤ 4 ∧ ∀ c ∈ s, isHexDigit c = true := by
  rw [parseHextet] at h
  split at h
  · cases h
  · rename_i hall
    split at h
    · cases h
    · rename_i hlen
      rw [Bool.not_eq_true, Bool.not_eq_false', List.all_eq_true] at hall
      exact ⟨by omega, hall⟩

theorem mapM_mem {α β : Type} {f : α → Option β} {xs : List α} {ys : List β}
    (h : xs.mapM f = some ys) {x : α} (hx : x ∈ xs) : ∃ y, f x = some y := by
  induction xs generalizing ys with
  | nil => cases hx
  | cons a as ih =>
      simp only [List.mapM_cons, Option.pure_def, Option.bind_eq_bind, Option.bind_eq_some_iff,
        Option.some.injEq] at h
      obtain ⟨b, hb, bs, hbs, -⟩ := h
      rcases List.mem_cons.mp hx with rfl | hx
      · exact ⟨b, hb⟩
      · exact ih hbs hx

/-- With one `::` at position `i` the hextets before it and behind it are taken; an empty part
    at an end stands next to it. -/
theorem layout_single {parts hi lo : List Str} {skipped i : Nat} (hskip : skipIndices parts = [i])
    (h : ipv6Layout parts = some (hi, skipped, lo)) :
    (hi = parts.take i ∨ parts.head? = some [] ∧ i ≤ 1) ∧
      (lo = parts.drop (i + 1) ∨ parts.getLast? = some [] ∧ parts.length ≤ i + 2) := by
  rw [ipv6Layout] at h
  rw [hskip] at h
  simp only [Option.ite_none_left_eq_some, Option.some.injEq, Prod.mk.injEq, Bool.and_eq_true,
    decide_eq_true_eq, not_and, ne_eq, not_not] at h
  obtain ⟨-, hfront, hback, -, rfl, -, rfl⟩ := h
  constructor
  · by_cases hhead : parts.head? = some []
    · have hi0 := hfront hhead
      rw [if_pos hhead] at hi0
      exact Or.inr ⟨hhead, by omega⟩
    · rw [if_neg hhead]
      exact Or.inl rfl
  · by_cases hlast : parts.getLast? = some []
    · have hlo0 := hback hlast
      rw [if_pos hlast] at hlo0
      exact Or.inr ⟨hlast, by omega⟩
    · rw [if_neg hlast]
      left
      by_cases hi : i + 1 ≤ parts.length
      · congr 1
        omega
      · rw [List.drop_eq_nil_of_le (by omega), List.drop_eq_nil_of_le (by omega)]

/-- Without a `::` all parts are taken. -/
theorem layout_none {parts hi lo : List Str} {skipped : Nat} (hskip : skipIndices parts = [])
    (h : ipv6Layout parts = some (hi, skipped, lo)) : hi = parts := by
  rw [ipv6Layout] at h
  rw [hskip] at h
  simp only [Option.ite_none_left_eq_some, Option.some.injEq, Prod.mk.injEq] at h
  obtain ⟨-, -, -, -, rfl, -⟩ := h
  rfl

/-- With one `::` the parts that are not taken are empty. -/
theorem taken_of_single {parts hi lo : List Str} {skipped i j : Nat}
    (hskip : skipIndices parts = [i])
    (h : ipv6Layout parts = some (hi, skipped, lo)) (hj : j < parts.length) :
    parts[j] ∈ hi ∨ parts[j] ∈ lo ∨ parts[j] = [] := by
  obtain ⟨hfront, hback⟩ := layout_single hskip h
  rcases Nat.lt_trichotomy j i with hlt | rfl | hlt
  · rcases hfront with rfl | ⟨hhead, hi1⟩
    · left
      refine List.mem_iff_getElem.mpr ⟨j, by rw [List.length_take]; omega, ?_⟩
      rw [List.getElem_take]
    · right; right
      have hj0 : j = 0 := by omega
      subst hj0
      rw [List.head?_eq_getElem?, List.getElem?_eq_getElem hj] at hhead
      exact Option.some.inj hhead
  · right; right
    have hmem : j ∈ skipIndices parts := by
      rw [hskip]
      exact List.mem_singleton.mpr rfl
    rw [skipIndices] at hmem
    simp only [List.mem_filter, List.mem_range, Bool.and_eq_true, decide_eq_true_eq] at hmem
    obtain ⟨-, -, hempty⟩ := hmem
    rw [List.getD_eq_getElem?_getD, List.getElem?_eq_getElem hj] at hempty
    exact hempty
  · right
    rcases hback with rfl | ⟨hlast, hi1⟩
    · left
      refine List.mem_iff_getElem.mpr ⟨j - (i + 1), by rw [List.length_drop]; omega, ?_⟩
      rw [List.getElem_drop]
      congr 1
      omega
    · right
      have hjl : parts.length - 1 = j := by omega
      rw [List.getLast?_eq_getElem?, hjl, List.getElem?_eq_getElem hj] at hlast
      exact Option.some.inj hlast

/-- The layout takes every part that is not empty. -/
theorem layout_parts {parts hi lo : List Str} {skipped : Nat}
    (h : ipv6Layout parts = some (hi, skipped, lo)) :
    parts.length ≤ 9 ∧ ∀ p ∈ parts, p ∈ hi ∨ p ∈ lo ∨ p = [] := by
  have hlen : parts.length ≤ 9 := by
    rw [ipv6Layout] at h
    split at h
    · cases h
    · omega
  refine ⟨hlen, ?_⟩
  intro p hp
  match hskip : skipIndices parts with
  | [] =>
      rw [layout_none hskip h]
      exact Or.inl hp
  | [i] =>
      obtain ⟨j, hj, rfl⟩ := List.mem_iff_getElem.mp hp
      exact taken_of_single hskip h hj
  | i :: i' :: rest =>
      rw [ipv6Layout] at h
      rw [if_neg (by omega), hskip] at h
      cases h

/-- Parts of bounded length make a text of bounded length. -/
theorem length_intercalate_le {k : Nat} {ls : List Str} (h : ∀ l ∈ ls, l.length ≤ k) :
    ([':'].intercalate ls).length ≤ ls.length * (k + 1) := by
  induction ls with
  | nil => simp
  | cons l ls ih =>
      have hl := h l (List.mem_cons_self ..)
      have hrest := ih fun l' hl' => h l' (List.mem_cons_of_mem _ hl')
      by_cases hls : ls = []
      · subst hls
        rw [List.intercalate_singleton, List.length_singleton]
        omega
      · rw [List.intercalate_cons_of_ne_nil hls, List.length_append, List.length_append,
          List.length_singleton, List.length_cons, Nat.succ_mul]
        omega

/-- The parts of an IPv6 literal between its colons: hextets, empty parts, perhaps an IPv4
    literal at the end. -/
theorem ipv6_parts {s : Str} {n : Nat} (h : ipv6IntFromString s = some n) :
    (split ':' s).length ≤ 9 ∧
      ∀ p ∈ split ':' s, p.length ≤ 15 ∧ ∀ c ∈ p, isHexDigit c = true ∨ c = '.' := by
  rw [ipv6IntFromString] at h
  simp only [Option.bind_eq_some_iff, Option.map_eq_some_iff] at h
  obtain ⟨parts, hparts, ⟨hi, skipped, lo⟩, hlayout, his, hhis, los, hlos, -⟩ := h
  obtain ⟨hlen, htaken⟩ := layout_parts hlayout
  have htext : ∀ p ∈ parts, p.length ≤ 15 ∧ ∀ c ∈ p, isHexDigit c = true ∨ c = '.' := by
    have hhextet : ∀ p, (∃ k, parseHextet p = some k) →
        p.length ≤ 15 ∧ ∀ c ∈ p, isHexDigit c = true ∨ c = '.' := by
      rintro p ⟨k, hk⟩
      obtain ⟨hl, hall⟩ := hextet_text hk
      exact ⟨by omega, fun c hc => Or.inl (hall c hc)⟩
    intro p hp
    rcases htaken p hp with hp | hp | rfl
    · exact hhextet p (mapM_mem hhis hp)
    · exact hhextet p (mapM_mem hlos hp)
    · exact ⟨by simp, fun c hc => (nomatch hc)⟩
  rw [ipv6Parts] at hparts
  split at hparts
  · cases hparts
  · dsimp only at hparts
    split at hparts
    · cases hparts
    · split at hparts
      · -- an IPv4 literal at the end
        obtain ⟨m, hm, rfl⟩ := Option.map_eq_some_iff.mp hparts
        have hne : split ':' s ≠ [] := List.splitOn_ne_nil ':' s
        have hlast : (split ':' s).getLastD [] = (split ':' s).getLast hne := by
          rw [List.getLastD_eq_getLast?, List.getLast?_eq_some_getLast hne]
          rfl
        rw [hlast] at hm
        refine ⟨?_, fun p hp => ?_⟩
        · simp only [List.length_append, List.length_dropLast, List.length_cons,
            List.length_nil] at hlen
          omega
        · rw [← List.dropLast_append_getLast hne] at hp
          rcases List.mem_append.mp hp with hp | hp
          · exact htext p (List.mem_append.mpr (Or.inl hp))
          · rw [List.mem_singleton.mp hp]
            exact ipv4_text hm
      · cases hparts
        exact ⟨hlen, htext⟩

theorem addressChar_of_part {c : Char} (h : isHexDigit c = true ∨ c = '.') :
    isAddressChar c = true := by
  rw [isAddressChar]
  rcases h with hx | rfl
  · rw [hx]
    rfl
  · decide

/-- **What an IPv6 address can hold.** Hexadecimal digits, colons and dots, fewer than 150 of
    them. -/
theorem ipv6_text {s : Str} {n : Nat} (h : ipv6IntFromString s = some n) :
    s.length < 150 ∧ ∀ c ∈ s, isAddressChar c = true := by
  obtain ⟨hcount, hparts⟩ := ipv6_parts h
  have hjoin : [':'].intercalate (split ':' s) = s := List.intercalate_splitOn _
  constructor
  · have hle := length_intercalate_le fun p hp => (hparts p hp).1
    rw [hjoin] at hle
    omega
  · intro c hc
    rw [← hjoin] at hc
    rcases mem_intercalate hc with hc | ⟨p, hp, hc⟩
    · rw [List.mem_singleton.mp hc]
      decide
    · exact addressChar_of_part ((hparts p hp).2 c hc)

/-- The scope of an address, if it has one. -/
def scopeOf : IpAddr → Option Str
  | .v4 _ => none
  | .v6 _ scope => scope

/-- The text of an IPv6 literal. -/
theorem ipv6_literal_text {s : Str} {n : Nat} {scope : Option Str}
    (h : ipv6Address s = some (n, scope)) :
    '/' ∉ s ∧ ∃ address : Str, address ≠ [] ∧ address.length < 150 ∧
      (∀ c ∈ address, isAddressChar c = true) ∧
        ((scope = none ∧ s = address) ∨ ∃ text, scope = some text ∧
          s = address ++ '%' :: text) := by
  rw [ipv6Address] at h
  split at h
  · cases h
  · rename_i hslash
    refine ⟨hslash, ?_⟩
    split at h
    · rename_i addr x hpart
      obtain ⟨m, hm, he⟩ := Option.map_eq_some_iff.mp h
      cases he
      have haddr : addr = s := by
        have hkeep := (partition_notFound (c := '%') (s := s) (by rw [hpart])).1
        rw [hpart] at hkeep
        exact hkeep
      obtain ⟨hlen, hsym⟩ := ipv6_text hm
      refine ⟨addr, ?_, hlen, hsym, Or.inl ⟨rfl, haddr.symm⟩⟩
      rintro rfl
      cases hm
    · rename_i addr text hpart
      split at h
      · cases h
      · obtain ⟨m, hm, he⟩ := Option.map_eq_some_iff.mp h
        cases he
        have hsplit := (partition_found (c := '%') (s := s) (by rw [hpart])).1
        rw [hpart] at hsplit
        obtain ⟨hlen, hsym⟩ := ipv6_text hm
        refine ⟨addr, ?_, hlen, hsym, Or.inr ⟨text, rfl, hsplit⟩⟩
        rintro rfl
        cases hm

/-- **The texts of IP literals.** An address, and behind a percent sign its scope. -/
theorem literal_text {s : Str} {a : IpAddr} (h : ipAddress s = some a) :
    '/' ∉ s ∧ ∃ address : Str, address ≠ [] ∧ address.length < 150 ∧
      (∀ c ∈ address, isAddressChar c = true) ∧
        ((scopeOf a = none ∧ s = address) ∨
          ∃ scope, scopeOf a = some scope ∧ s = address ++ '%' :: scope) := by
  rw [ipAddress] at h
  cases h4 : ipv4Address s with
  | some n =>
      rw [h4] at h
      cases h
      obtain ⟨hlen, hsym⟩ := ipv4_text h4
      refine ⟨fun hc => ?_, s, ?_, by
        omega, fun c hc => addressChar_of_part (hsym c hc), Or.inl ⟨rfl, rfl⟩⟩
      · exact absurd (hsym _ hc) (by decide)
      · rintro rfl
        cases h4
  | none =>
      rw [h4] at h
      obtain ⟨⟨n, scope⟩, h6, rfl⟩ := Option.map_eq_some_iff.mp h
      exact ipv6_literal_text h6

-- ── validate_host ─────────────────────────────────────────────────────────────────

/-- A text in brackets. -/
def bracketed (b : Str) : Str := '[' :: (b ++ [']'])

theorem bracketed_iff {h : Str} :
    (startswith ['['] h && endswith [']'] h) = true ↔ ∃ b, h = bracketed b := by
  unfold startswith endswith bracketed
  rw [Bool.and_eq_true, List.isPrefixOf_iff_prefix, List.isSuffixOf_iff_suffix]
  constructor
  · rintro ⟨⟨t, rfl⟩, u, hu⟩
    rcases List.eq_nil_or_concat' t with rfl | ⟨b, y, rfl⟩
    · have hlast := congrArg List.getLast? hu
      rw [List.getLast?_concat] at hlast
      cases hlast
    · have hlast := congrArg List.getLast? hu
      rw [List.getLast?_concat, ← List.append_assoc, List.getLast?_concat] at hlast
      rw [← Option.some.inj hlast]
      exact ⟨b, rfl⟩
  · rintro ⟨b, rfl⟩
    exact ⟨⟨b ++ [']'], rfl⟩, '[' :: b, rfl⟩

theorem unbracket (b : Str) : ((bracketed b).drop 1).dropLast = b := by
  rw [bracketed]
  rw [List.drop_one, List.tail_cons, List.dropLast_concat]

theorem bracketed_injective {b b' : Str} (h : bracketed b = bracketed b') : b = b' := by
  rw [← unbracket b, h, unbracket]

/-- An IP literal does not start with a bracket. -/
theorem literal_not_bracketed {b : Str} {a : IpAddr} : ipAddress (bracketed b) ≠ some a := by
  intro h
  obtain ⟨-, address, hne, -, hsym, hs⟩ := literal_text h
  have hhead : '[' ∈ address := by
    cases address with
    | nil => exact absurd rfl hne
    | cons x xs =>
        rcases hs with ⟨-, hs⟩ | ⟨scope, -, hs⟩
        · rw [show x = '[' from (List.cons.inj hs).1.symm]
          exact List.mem_cons_self ..
        · rw [show x = '[' from (List.cons.inj hs).1.symm]
          exact List.mem_cons_self ..
  exact absurd (hsym _ hhead) (by decide)

/-- A domain does not start with a bracket. -/
theorem domain_not_bracketed {py : Python} {b v : Str} (ha : isAsciiText (bracketed b)) :
    validateDomain py (bracketed b) ≠ .ok v := by
  intro h
  have hloose := (validateDomain_accepted ha h).2
  have hsym := hloose.symbols (c := '[') (List.mem_cons_self ..)
  exact absurd hsym (by decide)

/-- The three ways in which a host is accepted. -/
inductive Accepted (py : Python) (h : Str) : Str → Prop where
  | literal {a : IpAddr} : ipAddress h = some a → Accepted py h h
  | inBrackets {b : Str} {a : IpAddr} : h = bracketed b → ipAddress b = some a → Accepted py h b
  | domain {v : Str} : validateDomain py h = .ok v → Accepted py h v

theorem validateHost_accepted {py : Python} {h v : Str} (hv : validateHost py h = .ok v) :
    h.length ≤ 253 ∧ Accepted py h v := by
  rw [validateHost] at hv
  split at hv
  · cases hv
  · rename_i hlen
    rw [Bool.or_eq_true, decide_eq_true_eq, decide_eq_true_eq, not_or, not_lt] at hlen
    refine ⟨hlen.2, ?_⟩
    split at hv
    · cases hv
    · by_cases hb : (startswith ['['] h && endswith [']'] h) = true
      · rw [if_pos hb] at hv
        obtain ⟨b, rfl⟩ := bracketed_iff.mp hb
        dsimp only at hv
        rw [unbracket] at hv
        cases hip : ipAddress b with
        | some a =>
            rw [hip] at hv
            cases hv
            exact .inBrackets rfl hip
        | none =>
            rw [hip] at hv
            exact .domain hv
      · rw [if_neg hb] at hv
        dsimp only at hv
        cases hip : ipAddress h with
        | some a =>
            rw [hip] at hv
            cases hv
            exact .literal hip
        | none =>
            rw [hip] at hv
            exact .domain hv

/-- The only exception of the validator. -/
theorem validateHost_error {py : Python} {h : Str} {e : ProbeError}
    (hv : validateHost py h = .error e) : ∃ m, e = .validationError m := by
  rw [validateHost] at hv
  split at hv
  · exact ⟨_, (Except.error.inj hv).symm⟩
  · split at hv
    · exact ⟨_, (Except.error.inj hv).symm⟩
    · dsimp only at hv
      split at hv
      · cases hv
      · exact validateDomain_error hv

theorem slash_not_mem_of_accepted {py : Python} {h v : Str} (ha : isAsciiText h)
    (hv : Accepted py h v) : h ≠ [] ∧ '/' ∉ h := by
  cases hv with
  | literal hip =>
      refine ⟨?_, (literal_text hip).1⟩
      rintro rfl
      cases hip
  | inBrackets hb hip =>
      subst hb
      refine ⟨fun hnil => (nomatch hnil), fun hc => ?_⟩
      rcases List.mem_cons.mp hc with hc | hc
      · exact absurd hc (by decide)
      · rcases List.mem_append.mp hc with hc | hc
        · exact (literal_text hip).1 hc
        · exact absurd (List.mem_singleton.mp hc) (by decide)
  | domain hd =>
      have hloose := (validateDomain_accepted ha hd).2
      refine ⟨List.ne_nil_of_length_pos hloose.1, fun hc => ?_⟩
      exact absurd (hloose.symbols hc) (by decide)

theorem validateHost_accepts {py : Python} {h v : Str} (ha : isAsciiText h)
    (hlen : h.length ≤ 253) (hv : Accepted py h v) : validateHost py h = .ok v := by
  obtain ⟨hne, hslash⟩ := slash_not_mem_of_accepted ha hv
  have hscheme : contains (str "://") h = false := by
    apply decide_eq_false
    intro hin
    exact hslash (hin.subset (by decide))
  rw [validateHost]
  rw [if_neg (by simp [hne, hlen]), if_neg (by simp [hscheme, hslash])]
  by_cases hb : (startswith ['['] h && endswith [']'] h) = true
  · rw [if_pos hb]
    obtain ⟨b, rfl⟩ := bracketed_iff.mp hb
    dsimp only
    rw [unbracket]
    cases hv with
    | literal hip => exact absurd hip literal_not_bracketed
    | inBrackets hb' hip =>
        rw [bracketed_injective hb', hip]
    | domain hd => exact absurd hd (domain_not_bracketed ha)
  · rw [if_neg hb]
    dsimp only
    cases hv with
    | literal hip => rw [hip]
    | inBrackets hb' hip => exact absurd (bracketed_iff.mpr ⟨_, hb'⟩) hb
    | domain hd =>
        cases hip : ipAddress h with
        | none => exact hd
        | some a => rw [(validateDomain_accepted ha hd).1]

/-- White space and control characters among the ASCII symbols. -/
def isBlankOrControl (c : Char) : Bool := isAsciiSpace c || c.toNat < 32 || c.toNat = 127

/-- The host grammar of the validator: an IPv4 literal, an IPv6 literal with or without
    brackets, or a text that the domain validator accepts. -/
def HostGrammar (py : Python) (h : Str) : Prop :=
  (∃ n, ipAddress h = some (.v4 n)) ∨ (∃ n scope, ipAddress h = some (.v6 n scope)) ∨
    (∃ b n scope, h = bracketed b ∧ ipAddress b = some (.v6 n scope)) ∨
      ∃ v, validateDomain py h = .ok v

/-- `validate_host` is its grammar at `h`, and what it returns has no blanks or controls. -/
def HostExact (py : Python) (h : Str) : Prop :=
  ((∃ v, validateHost py h = .ok v) ↔ HostGrammar py h) ∧
    ∀ v, validateHost py h = .ok v → ∀ c ∈ v, isBlankOrControl c = false

/-- An IPv4 literal in brackets. -/
def BracketedIpv4 (h : Str) : Prop := ∃ b n, h = bracketed b ∧ ipAddress b = some (.v4 n)

/-- An IPv6 literal, with or without brackets, whose scope holds a blank or a control
    character or makes it longer than 253 characters. -/
def ScopeAstray (h : Str) : Prop :=
  ∃ b a scope, (h = b ∨ h = bracketed b) ∧ ipAddress b = some a ∧ scopeOf a = some scope ∧
    (253 < h.length ∨ ∃ c ∈ scope, isBlankOrControl c = true)

theorem isAscii_of_isHexDigit {c : Char} (h : isHexDigit c = true) : isAscii c = true := by
  rw [isHexDigit] at h
  rw [Bool.or_eq_true, Bool.or_eq_true, Bool.and_eq_true, Bool.and_eq_true] at h
  rcases h with (h | ⟨-, h⟩) | ⟨-, h⟩
  · exact isAscii_of_isAsciiDigit h
  · exact isAscii_of_le (of_decide_eq_true h) (by decide)
  · exact isAscii_of_le (of_decide_eq_true h) (by decide)

theorem isAscii_of_isAddressChar {c : Char} (h : isAddressChar c = true) : isAscii c = true := by
  rw [isAddressChar] at h
  rw [Bool.or_eq_true, Bool.or_eq_true, decide_eq_true_eq, decide_eq_true_eq] at h
  rcases h with (h | rfl) | rfl
  · exact isAscii_of_isHexDigit h
  · decide
  · decide

/-- The symbols of addresses and of labels are neither blanks nor controls. -/
theorem plain_symbol {c : Char} (ha : isAscii c = true)
    (h : isAddressChar c = true ∨ isLabelChar c = true) : isBlankOrControl c = false := by
  have hall : ∀ n < 128, isAddressChar (Char.ofNat n) = true ∨ isLabelChar (Char.ofNat n) = true →
      isBlankOrControl (Char.ofNat n) = false := by decide +kernel
  exact ascii_cases (P := fun c => isAddressChar c = true ∨ isLabelChar c = true →
    isBlankOrControl c = false) hall ha h

theorem addressChar_plain {c : Char} (h : isAddressChar c = true) : isBlankOrControl c = false :=
  plain_symbol (isAscii_of_isAddressChar h) (Or.inl h)

/-- A literal whose scope is plain is plain. -/
theorem literal_plain {b : Str} {a : IpAddr} (h : ipAddress b = some a)
    (hscope : ∀ scope, scopeOf a = some scope → ∀ c ∈ scope, isBlankOrControl c = false) :
    ∀ c ∈ b, isBlankOrControl c = false := by
  obtain ⟨-, address, -, -, hsym, hb⟩ := literal_text h
  intro c hc
  rcases hb with ⟨-, rfl⟩ | ⟨scope, hs, rfl⟩
  · exact addressChar_plain (hsym c hc)
  · rcases List.mem_append.mp hc with hc | hc
    · exact addressChar_plain (hsym c hc)
    · rcases List.mem_cons.mp hc with rfl | hc
      · decide
      · exact hscope scope hs c hc

/-- The symbols of the scope are symbols of the literal. -/
theorem mem_of_mem_scope {b scope : Str} {a : IpAddr} (h : ipAddress b = some a)
    (hs : scopeOf a = some scope) {c : Char} (hc : c ∈ scope) : c ∈ b := by
  obtain ⟨-, address, -, -, -, hb⟩ := literal_text h
  rcases hb with ⟨hnone, -⟩ | ⟨scope', hs', rfl⟩
  · rw [hs] at hnone
    cases hnone
  · rw [hs] at hs'
    rw [← Option.some.inj hs']
    exact List.mem_append.mpr (Or.inr (List.mem_cons_of_mem _ hc))

/-- A literal without a scope is short. -/
theorem literal_short {b : Str} {a : IpAddr} (h : ipAddress b = some a) (hs : scopeOf a = none) :
    (bracketed b).length ≤ 253 ∧ b.length ≤ 253 := by
  obtain ⟨-, address, -, hlen, -, hb⟩ := literal_text h
  rcases hb with ⟨-, rfl⟩ | ⟨scope, hs', -⟩
  · rw [bracketed]
    rw [List.length_cons, List.length_append, List.length_singleton]
    omega
  · rw [hs] at hs'
    cases hs'

/-- A literal that is not astray is short and plain. -/
theorem literal_of_not_astray {h b : Str} {a : IpAddr} (hb : h = b ∨ h = bracketed b)
    (hip : ipAddress b = some a) (hastray : ¬ ScopeAstray h) :
    h.length ≤ 253 ∧ ∀ c ∈ b, isBlankOrControl c = false := by
  constructor
  · cases hs : scopeOf a with
    | none =>
        obtain ⟨hl, hl'⟩ := literal_short hip hs
        rcases hb with rfl | rfl
        · exact hl'
        · exact hl
    | some scope =>
        by_contra hlong
        exact hastray ⟨b, a, scope, hb, hip, hs, Or.inl (by omega)⟩
  · apply literal_plain hip
    intro scope hs c hc
    rw [← Bool.not_eq_true]
    exact fun hbad => hastray ⟨b, a, scope, hb, hip, hs, Or.inr ⟨c, hc, hbad⟩⟩

/-- What a host of the grammar is accepted as. -/
theorem accepted_of_grammar {py : Python} {h : Str} (hg : HostGrammar py h) :
    ∃ v, Accepted py h v := by
  rcases hg with ⟨n, hip⟩ | ⟨n, scope, hip⟩ | ⟨b, n, scope, hb, hip⟩ | ⟨v, hv⟩
  · exact ⟨h, .literal hip⟩
  · exact ⟨h, .literal hip⟩
  · exact ⟨b, .inBrackets hb hip⟩
  · exact ⟨v, .domain hv⟩

/-- Outside the three kinds an accepted host is of the grammar, short and plain. -/
theorem Accepted.exact {py : Python} {h v : Str} (ha : isAsciiText h) (hv : Accepted py h v)
    (hbracket : ¬ BracketedIpv4 h) (hscope : ¬ ScopeAstray h) (hstray : ¬ StrayLineFeed h) :
    HostGrammar py h ∧ h.length ≤ 253 ∧ ∀ c ∈ v, isBlankOrControl c = false := by
  cases hv with
  | @literal a hip =>
      refine ⟨?_, literal_of_not_astray (Or.inl rfl) hip hscope⟩
      cases a with
      | v4 n => exact Or.inl ⟨n, hip⟩
      | v6 n scope => exact Or.inr (Or.inl ⟨n, scope, hip⟩)
  | @inBrackets b a hb hip =>
      refine ⟨?_, literal_of_not_astray (Or.inr hb) hip hscope⟩
      cases a with
      | v4 n => exact absurd ⟨v, n, hb, hip⟩ hbracket
      | v6 n scope => exact Or.inr (Or.inr (Or.inl ⟨v, n, scope, hb, hip⟩))
  | domain hd =>
      refine ⟨Or.inr (Or.inr (Or.inr ⟨v, hd⟩)), ?_⟩
      obtain ⟨rfl, hloose⟩ := validateDomain_accepted ha hd
      have hg : DomainGrammar v := hloose.grammar fun hn => hstray ⟨hloose, hn⟩
      refine ⟨hg.2.1, fun c hc => ?_⟩
      rcases hg.symbols hc with rfl | hl
      · decide
      · exact plain_symbol (ha c hc) (Or.inr hl)

/-- In brackets an IPv4 literal is outside the grammar. -/
theorem not_grammar_of_bracketedIpv4 {py : Python} {h : Str} (ha : isAsciiText h)
    (hb : BracketedIpv4 h) : ¬ HostGrammar py h := by
  obtain ⟨b, n, rfl, hip⟩ := hb
  rintro (⟨m, hm⟩ | ⟨m, scope, hm⟩ | ⟨b', m, scope, he, hm⟩ | ⟨v, hv⟩)
  · exact literal_not_bracketed hm
  · exact literal_not_bracketed hm
  · rw [← bracketed_injective he, hip] at hm
    cases hm
  · exact domain_not_bracketed ha hv

/-- A scope astray is where the validator and the grammar part. -/
theorem not_exact_of_scopeAstray {py : Python} {h : Str} (ha : isAsciiText h)
    (hs : ScopeAstray h) : ¬ HostExact py h := by
  rintro ⟨hiff, hplain⟩
  obtain ⟨b, a, scope, hb, hip, hsc, hbad⟩ := hs
  have hacc : Accepted py h b := by
    rcases hb with rfl | hb
    · exact .literal hip
    · exact .inBrackets hb hip
  have hgram : HostGrammar py h := by
    cases a with
    | v4 n => cases hsc
    | v6 n scope' =>
        rcases hb with rfl | hb
        · exact Or.inr (Or.inl ⟨n, scope', hip⟩)
        · exact Or.inr (Or.inr (Or.inl ⟨b, n, scope', hb, hip⟩))
  obtain ⟨v, hv⟩ := hiff.mpr hgram
  have hlen := (validateHost_accepted hv).1
  rcases hbad with hlong | ⟨c, hc, hbad⟩
  · omega
  · rw [hplain b (validateHost_accepts ha hlen hacc) c (mem_of_mem_scope hip hsc hc)] at hbad
    cases hbad

/-- The host validator is its grammar except for the three kinds. -/
theorem hostExact_iff (py : Python) {h : Str} (ha : isAsciiText h) :
    HostExact py h ↔ ¬ (BracketedIpv4 h ∨ ScopeAstray h ∨ StrayLineFeed h) := by
  constructor
  · rintro hexact (hb | hs | hstray)
    · obtain ⟨b, n, rfl, hip⟩ := id hb
      have hok : validateHost py (bracketed b) = .ok b :=
        validateHost_accepts ha (literal_short hip rfl).1 (.inBrackets rfl hip)
      exact not_grammar_of_bracketedIpv4 ha hb (hexact.1.mp ⟨b, hok⟩)
    · exact not_exact_of_scopeAstray ha hs hexact
    · have hd := validateDomain_accepts py ha hstray.1
      have hok : validateHost py h = .ok h :=
        validateHost_accepts ha hstray.1.2.1 (.domain hd)
      have hbad := hexact.2 h hok _ hstray.2
      revert hbad
      decide
  · intro hnone
    rw [not_or, not_or] at hnone
    obtain ⟨hb, hs, hstray⟩ := hnone
    refine ⟨⟨?_, ?_⟩, ?_⟩
    · rintro ⟨v, hv⟩
      exact ((validateHost_accepted hv).2.exact ha hb hs hstray).1
    · intro hg
      obtain ⟨v, hv⟩ := accepted_of_grammar hg
      exact ⟨v, validateHost_accepts ha (hv.exact ha hb hs hstray).2.1 hv⟩
    · intro v hv
      exact ((validateHost_accepted hv).2.exact ha hb hs hstray).2.2

/-- **The two validators and their grammars.** On ASCII texts `validate_domain` is its grammar
    exactly where no line feed strays in; `validate_host` is its grammar exactly outside
    bracketed IPv4 literals, scopes that are not plain or too long, and stray line feeds. -/
theorem validators_exact_iff (py : Python) :
    (∀ d, isAsciiText d → (DomainExact py d ↔ ¬ StrayLineFeed d)) ∧
      ∀ h, isAsciiText h →
        (HostExact py h ↔ ¬ (BracketedIpv4 h ∨ ScopeAstray h ∨ StrayLineFeed h)) :=
  ⟨fun _ ha => domainExact_iff py ha, fun _ ha => hostExact_iff py ha⟩

/-- A domain with a line feed behind is accepted. -/
theorem validators_not_exact :
    ¬ ∀ py : Python, (∀ d, isAsciiText d → DomainExact py d) ∧
      ∀ h, isAsciiText h → HostExact py h := by
  intro hclaim
  have ha : isAsciiText (str "example.com\n") := by
    have hall : (str "example.com\n").all isAscii = true := by decide
    exact List.all_eq_true.mp hall
  have hok : validateHost Python.asciiOnly (str "example.com\n") = .ok (str "example.com\n") := by
    decide +kernel
  have hplain := ((hclaim Python.asciiOnly).2 _ ha).2 _ hok '\n' (by decide)
  revert hplain
  decide

theorem validators_exact_plain :
    DomainExact Python.asciiOnly (str "example.com") ∧ HostExact Python.asciiOnly (str "::1") := by
  have hd : isAsciiText (str "example.com") := by
    have hall : (str "example.com").all isAscii = true := by decide
    exact List.all_eq_true.mp hall
  have hh : isAsciiText (str "::1") := by
    have hall : (str "::1").all isAscii = true := by decide
    exact List.all_eq_true.mp hall
  have hip : ipAddress (str "::1") = some (.v6 1 none) := by decide +kernel
  refine ⟨((validators_exact_iff Python.asciiOnly).1 _ hd).mpr fun hstray => ?_,
    ((validators_exact_iff Python.asciiOnly).2 _ hh).mpr ?_⟩
  · exact absurd hstray.2 (by decide)
  · rintro (⟨b, n, hb, -⟩ | ⟨b, a, scope, hb, hb', hs, -⟩ | ⟨-, hn⟩)
    · exact absurd (congrArg List.head? hb) (by unfold bracketed; simp [str])
    · rcases hb with rfl | hb
      · rw [hip] at hb'
        cases hb'
        cases hs
      · exact absurd (congrArg List.head? hb) (by unfold bracketed; simp [str])
    · exact absurd hn (by decide)

end NetProbeValidatorGrammar
