import Mathlib.Algebra.GroupWithZero.Nat
import NetProbe.ValidatorGrammarProofs

/-!
# Normalised domains

`validate_domain` returns the domain in its IDNA form.  On ASCII that form is the domain itself.
A name with other characters is cut into labels that are encoded one by one, so it grows, and
its length is measured before.  What the labels are checked for holds of the result, so the
result is a dotted text of labels again (`accepted_parts`); it is accepted as it is unless it
has outgrown the limit, or the encoding has left more than one dot behind it, which a label
whose normalisation ends in a dot can do (`normalised_iff`).
-/

namespace NetProbeDomainNormalForm

open NetProbePyText NetProbeUrlSplit NetProbeSecurity NetProbeAddressVerdict
open NetProbeValidatorGrammar

-- ── What is promised of the result ────────────────────────────────────────────────

/-- A name without the dot behind it. -/
def withoutDot (r : Str) : Str := if r.getLast? = some '.' then r.dropLast else r

/-- A domain within the limits that the validator returns as it is. -/
structure Normalised (py : Python) (r : Str) : Prop where
  length_le : (withoutDot r).length ≤ 253
  labels_le : ∀ l ∈ split '.' (withoutDot r), l.length ≤ 63
  stable : validateDomain py r = .ok r

-- ── What the codec makes of a name ────────────────────────────────────────────────

/-- The labels of a name that is not ASCII, as the codec cuts them; an empty last one is the dot
    behind the name. -/
def codecLabels (d : Str) : List Str :=
  let labels := d.splitOnP isIdnaDot
  if labels.getLastD [] = [] then labels.dropLast else labels

/-- The dot that the codec puts behind the name. -/
def dotBehind (d : Str) : Str := if (d.splitOnP isIdnaDot).getLastD [] = [] then ['.'] else []

/-- The ASCII form of a label. -/
def aceLabel (py : Python) (label : Str) : Str := (idnaToAscii py label).getD []

/-- The length of the labels in ASCII form with the dots between and behind them. -/
def encodedLength (py : Python) (d : Str) : Nat :=
  ((codecLabels d).map fun l => (aceLabel py l).length + 1).sum + (dotBehind d).length - 1

/-- The encoding takes the name beyond the limit. -/
def Outgrows (py : Python) (d : Str) : Prop := ¬ isAsciiText d ∧ 253 < encodedLength py d

/-- The encoding leaves two dots behind the name: the last label ends in one, or is one. -/
def DotsBehind (py : Python) (d : Str) : Prop :=
  ¬ isAsciiText d ∧
    ['.', '.'] <:+ '.' :: aceLabel py ((codecLabels d).getLastD []) ++ dotBehind d

-- ── Dotted texts ──────────────────────────────────────────────────────────────────

/-- What is stripped off the end of a name are dots. -/
theorem rstrip_dots (s : Str) : ∃ n, s = rstrip (· = '.') s ++ List.replicate n '.' := by
  induction s using List.reverseRecOn with
  | nil => exact ⟨0, rfl⟩
  | append_singleton s c ih =>
      by_cases hc : c = '.'
      · subst hc
        obtain ⟨n, hn⟩ := ih
        have hstrip : rstrip (· = '.') (s ++ ['.']) = rstrip (· = '.') s := by
          show ((s ++ ['.']).reverse.dropWhile _).reverse = _
          rw [List.reverse_append, List.reverse_singleton, List.singleton_append,
            List.dropWhile_cons_of_pos (by simp)]
          rfl
        refine ⟨n + 1, ?_⟩
        rw [hstrip, List.replicate_succ', ← List.append_assoc, ← hn]
      · refine ⟨0, ?_⟩
        rw [rstrip_of_last List.getLast?_concat hc]
        exact (List.append_nil _).symm

theorem length_joined {labels : List Str} (h : labels ≠ []) :
    (joined labels).length + 1 = (labels.map fun l => l.length + 1).sum := by
  induction labels with
  | nil => exact absurd rfl h
  | cons l ls ih =>
      by_cases hls : ls = []
      · subst hls
        simp [joined]
      · rw [joined_cons hls, List.length_append, List.length_cons, List.map_cons, List.sum_cons,
          ← ih hls]
        omega

/-- The end of a joined text. -/
theorem last_suffix_joined {labels : List Str} (h : 2 ≤ labels.length) :
    '.' :: labels.getLastD [] <:+ joined labels := by
  induction labels with
  | nil => simp at h
  | cons l ls ih =>
      have hls : ls ≠ [] := by
        rintro rfl
        simp at h
      rw [joined_cons hls]
      cases ls with
      | nil => exact absurd rfl hls
      | cons l' ls =>
          by_cases htwo : ls = []
          · subst htwo
            show '.' :: l' <:+ l ++ '.' :: joined [l']
            have hone : joined [l'] = l' := List.intercalate_singleton
            rw [hone]
            exact List.suffix_append _ _
          · have hlen : 2 ≤ (l' :: ls).length := by
              have hpos := List.length_pos_of_ne_nil htwo
              rw [List.length_cons]
              omega
            have hlast : (l :: l' :: ls).getLastD [] = (l' :: ls).getLastD [] := by
              simp
            rw [hlast]
            exact (ih hlen).trans ((List.suffix_cons _ _).trans (List.suffix_append _ _))

/-- A short end shows in every end that is long enough. -/
theorem suffix_iff_of_suffix {u s t : Str} (hst : s <:+ t) (hlen : u.length ≤ s.length) :
    u <:+ t ↔ u <:+ s :=
  ⟨fun h => List.suffix_of_suffix_length_le h hst hlen, fun h => h.trans hst⟩

-- ── What is accepted ──────────────────────────────────────────────────────────────

section Accepted

variable {py : Python} {d r : Str}

/-- **The result of an accepted domain**: the encoded name, which is a dotted text of at least
    two loose labels with dots behind. -/
theorem accepted_parts (h : validateDomain py d = .ok r) :
    d ≠ [] ∧ idnaEncode py d = some r ∧ ∃ labels n, 2 ≤ labels.length ∧
      (∀ l ∈ labels, LooseLabel l) ∧ r = joined labels ++ List.replicate n '.' := by
  rw [validateDomain] at h
  split at h
  · cases h
  · rename_i hlen
    rw [Bool.or_eq_true, decide_eq_true_eq, decide_eq_true_eq, not_or] at hlen
    split at h
    · cases h
    · split at h
      · cases h
      · rename_i encoded hencoded
        dsimp only at h
        split at h
        · cases h
        · rename_i htwo
          split at h
          · cases h
          · rename_i hany
            rw [Except.ok.inj h] at hencoded htwo hany
            obtain ⟨n, hn⟩ := rstrip_dots r
            refine ⟨hlen.1, hencoded, split '.' (rstrip (· = '.') r), n, by omega, ?_, ?_⟩
            · intro l hl
              refine looseLabel_iff.mpr ?_
              by_contra hbad
              refine hany (List.any_eq_true.mpr ⟨l, hl, ?_⟩)
              rw [Bool.or_eq_true, decide_eq_true_eq, Bool.not_eq_true', ← Bool.not_eq_true]
              by_cases hshort : l.length ≤ 63
              · exact Or.inr fun hm => hbad ⟨hshort, hm⟩
              · exact Or.inl (by omega)
            · rw [joined_split]
              exact hn

section Parts

variable {labels : List Str} {n : Nat}

theorem separable_parts (htwo : 2 ≤ labels.length) (hall : ∀ l ∈ labels, LooseLabel l) :
    Separable labels := by
  refine separable_of_loose ?_ hall
  rintro rfl
  simp at htwo

theorem isAscii_of_isAsciiAlnum {c : Char} (h : isAsciiAlnum c = true) : isAscii c = true := by
  simp only [isAsciiAlnum, isAsciiAlpha, Bool.or_eq_true, Bool.and_eq_true,
    decide_eq_true_eq] at h
  rcases h with (⟨-, h⟩ | ⟨-, h⟩) | h
  · exact isAscii_of_le h (by decide)
  · exact isAscii_of_le h (by decide)
  · exact isAscii_of_isAsciiDigit h

/-- Such a text is ASCII. -/
theorem ascii_parts (hall : ∀ l ∈ labels, LooseLabel l) :
    isAsciiText (joined labels ++ List.replicate n '.') := by
  intro c hc
  have hsym : c = '.' ∨ isLabelChar c = true ∨ c = '\n' := by
    rcases List.mem_append.mp hc with hc | hc
    · exact symbols_of_dotted hall (Or.inl rfl) hc
    · exact Or.inl (List.eq_of_mem_replicate hc)
  rcases hsym with rfl | hsym | rfl
  · decide
  · rcases isLabelChar_iff.mp hsym with h | rfl
    · exact isAscii_of_isAsciiAlnum h
    · decide
  · decide

/-- It ends in two dots exactly if there are two of them. -/
theorem two_dots_iff (hsep : Separable labels) :
    ['.', '.'] <:+ joined labels ++ List.replicate n '.' ↔ 2 ≤ n := by
  obtain ⟨c, hc, hdot⟩ := getLast?_joined hsep
  obtain ⟨init, hinit⟩ := List.getLast?_eq_some_iff.mp hc
  constructor
  · intro h
    by_contra hn
    have hcases : n = 0 ∨ n = 1 := by omega
    rcases hcases with rfl | rfl
    · rw [List.replicate_zero, List.append_nil, hinit] at h
      obtain ⟨x, hx⟩ := h
      have hlast := congrArg List.getLast? hx
      simp at hlast
      exact hdot hlast.symm
    · rw [List.replicate_one, hinit] at h
      obtain ⟨x, hx⟩ := h
      have hsame : x ++ ['.'] ++ ['.'] = init ++ [c] ++ ['.'] := by
        rw [List.append_assoc]
        exact hx
      have hpair : x ++ ['.'] = init ++ [c] := List.append_inj_left' hsame rfl
      have hlast := congrArg List.getLast? hpair
      simp at hlast
      exact hdot hlast.symm
  · intro h
    obtain ⟨k, rfl⟩ := Nat.exists_eq_add_of_le h
    refine ⟨joined labels ++ List.replicate k '.', ?_⟩
    rw [List.append_assoc]
    congr 1
    rw [Nat.add_comm, List.replicate_add]
    rfl

theorem not_two_dots (hsep : Separable labels)
    (hd : d = joined labels ∨ d = joined labels ++ ['.']) : ¬ ['.', '.'] <:+ d := by
  rcases hd with rfl | rfl
  · have hiff := two_dots_iff (n := 0) hsep
    rw [List.replicate_zero, List.append_nil] at hiff
    rw [hiff]
    omega
  · have hiff := two_dots_iff (n := 1) hsep
    rw [List.replicate_one] at hiff
    rw [hiff]
    omega

/-- **When such a text is normalised**: it is no longer than a domain may be and ends in one dot
    at most. -/
theorem normalised_parts_iff (htwo : 2 ≤ labels.length) (hall : ∀ l ∈ labels, LooseLabel l)
    (hr : r = joined labels ++ List.replicate n '.') :
    Normalised py r ↔ r.length ≤ 253 ∧ ¬ ['.', '.'] <:+ r := by
  have hsep := separable_parts htwo hall
  have hascii : isAsciiText r := hr ▸ ascii_parts hall
  constructor
  · intro h
    obtain ⟨-, -, hlen, labels', htwo', hall', hr'⟩ := validateDomain_accepted hascii h.stable
    exact ⟨hlen, not_two_dots (separable_parts htwo' hall') hr'⟩
  · rintro ⟨hlen, hdots⟩
    rw [hr, two_dots_iff hsep] at hdots
    have hcases : n = 0 ∨ n = 1 := by omega
    have hd : r = joined labels ∨ r = joined labels ++ ['.'] := by
      rcases hcases with rfl | rfl
      · exact Or.inl (hr.trans (List.append_nil _))
      · exact Or.inr hr
    have hwithout : withoutDot r = joined labels := by
      obtain ⟨c, hc, hdot⟩ := getLast?_joined hsep
      rcases hd with rfl | rfl
      · show (if _ then _ else _) = _
        rw [if_neg]
        rw [hc]
        exact fun he => hdot (Option.some.inj he)
      · show (if _ then _ else _) = _
        rw [if_pos List.getLast?_concat, List.dropLast_concat]
    have hpos : 1 ≤ r.length := by
      have hlast := last_suffix_joined htwo
      have hle := hlast.length_le
      rw [List.length_cons] at hle
      rw [hr, List.length_append]
      omega
    refine ⟨?_, ?_, validateDomain_accepts py hascii ⟨hpos, hlen, labels, htwo, hall, hd⟩⟩
    · rw [hwithout]
      rw [hr, List.length_append] at hlen
      omega
    · rw [hwithout, split_joined hsep]
      exact fun l hl => (hall l hl).1

end Parts

-- ── The result and the labels of the name ─────────────────────────────────────────

theorem mapM_getD {f : Str → Option Str} {xs ys : List Str} (h : xs.mapM f = some ys) :
    ys = xs.map fun x => (f x).getD [] := by
  induction xs generalizing ys with
  | nil => exact (Option.some.inj h).symm
  | cons x xs ih =>
      rw [List.mapM_cons] at h
      obtain ⟨y, hy, hrest⟩ := Option.bind_eq_some_iff.mp h
      obtain ⟨zs, hzs, hpure⟩ := Option.bind_eq_some_iff.mp hrest
      rw [List.map_cons, hy, ← ih hzs]
      exact (Option.some.inj hpure).symm

theorem idnaToAscii_ne_nil {l : Str} {a : Str} (h : idnaToAscii py l = some a) : a ≠ [] := by
  have hcheck : ∀ s : Str, (if 0 < s.length && s.length < 64 then some s else none) = some a →
      a ≠ [] := by
    intro s hs
    split at hs
    · rename_i hlen
      rw [Bool.and_eq_true, decide_eq_true_eq] at hlen
      rw [← Option.some.inj hs]
      exact List.ne_nil_of_length_pos hlen.1
    · cases hs
  simp only [idnaToAscii] at h
  split at h
  · exact hcheck l h
  · obtain ⟨p, -, hp⟩ := Option.bind_eq_some_iff.mp h
    split at hp
    · exact hcheck p hp
    · split at hp
      · cases hp
      · exact hcheck _ hp

/-- **The encoded name**: the ASCII forms of the labels with the dot behind, none of them
    empty. -/
theorem encoded_labels (hne : d ≠ []) (hna : ¬ isAsciiText d) (h : idnaEncode py d = some r) :
    r = joined ((codecLabels d).map (aceLabel py)) ++ dotBehind d ∧
      ∀ l ∈ codecLabels d, aceLabel py l ≠ [] := by
  have hall : ¬ d.all isAscii = true := fun hall => hna (List.all_eq_true.mp hall)
  simp only [idnaEncode] at h
  rw [if_neg hne, if_neg hall] at h
  obtain ⟨encoded, hencoded, hr⟩ := Option.map_eq_some_iff.mp h
  have hmap : encoded = (codecLabels d).map (aceLabel py) := mapM_getD hencoded
  refine ⟨?_, ?_⟩
  · rw [← hr, hmap]
    rfl
  · intro l hl
    obtain ⟨a, ha⟩ := mapM_mem hencoded hl
    show (idnaToAscii py l).getD [] ≠ []
    rw [ha]
    exact idnaToAscii_ne_nil ha

theorem codecLabels_ne_nil (hlen : 2 ≤ r.length)
    (hr : r = joined ((codecLabels d).map (aceLabel py)) ++ dotBehind d) : codecLabels d ≠ [] := by
  intro hnone
  rw [hnone] at hr
  have hshort : r.length ≤ 1 := by
    rw [hr]
    show ([] ++ dotBehind d).length ≤ 1
    rw [List.nil_append, dotBehind]
    split <;> simp
  omega

/-- The ends of the result are those of its last label. -/
theorem dots_behind_iff (hlen : 2 ≤ r.length) (hnil : ∀ l ∈ codecLabels d, aceLabel py l ≠ [])
    (hr : r = joined ((codecLabels d).map (aceLabel py)) ++ dotBehind d) :
    ['.', '.'] <:+ r ↔
      ['.', '.'] <:+ '.' :: aceLabel py ((codecLabels d).getLastD []) ++ dotBehind d := by
  have hne := codecLabels_ne_nil hlen hr
  by_cases hone : (codecLabels d).length = 1
  · obtain ⟨l, hl⟩ := List.length_eq_one_iff.mp hone
    have hrl : r = aceLabel py l ++ dotBehind d := by
      rw [hr, hl]
      exact congrArg (· ++ dotBehind d) List.intercalate_singleton
    rw [hl]
    show _ ↔ ['.', '.'] <:+ '.' :: (aceLabel py l ++ dotBehind d)
    rw [← hrl]
    exact (suffix_iff_of_suffix (u := ['.', '.']) (List.suffix_cons '.' r) hlen).symm
  · have htwo : 2 ≤ ((codecLabels d).map (aceLabel py)).length := by
      have hpos := List.length_pos_of_ne_nil hne
      rw [List.length_map]
      omega
    have hlast : ((codecLabels d).map (aceLabel py)).getLastD [] =
        aceLabel py ((codecLabels d).getLastD []) ∧
        aceLabel py ((codecLabels d).getLastD []) ≠ [] := by
      rw [List.getLastD_eq_getLast?, List.getLastD_eq_getLast?, List.getLast?_map,
        List.getLast?_eq_some_getLast hne]
      exact ⟨rfl, hnil _ (List.getLast_mem hne)⟩
    have hsuffix := last_suffix_joined htwo
    rw [hlast.1] at hsuffix
    have hpos := List.length_pos_of_ne_nil hlast.2
    rw [hr]
    refine suffix_iff_of_suffix ?_ ?_
    · obtain ⟨x, hx⟩ := hsuffix
      exact ⟨x, by rw [← hx, List.append_assoc, List.cons_append]⟩
    · show 2 ≤ (aceLabel py ((codecLabels d).getLastD []) ++ dotBehind d).length + 1
      rw [List.length_append]
      omega

/-- The length of the result is that of the encoded labels. -/
theorem length_encoded (hlabels : codecLabels d ≠ [])
    (hr : r = joined ((codecLabels d).map (aceLabel py)) ++ dotBehind d) :
    r.length = encodedLength py d := by
  have hne : (codecLabels d).map (aceLabel py) ≠ [] := fun h => hlabels (List.map_eq_nil_iff.mp h)
  have hlen := length_joined hne
  rw [List.map_map] at hlen
  show _ = ((codecLabels d).map fun l => (aceLabel py l).length + 1).sum + _ - 1
  have hfun : (fun l : Str => (aceLabel py l).length + 1) =
      (fun l : Str => l.length + 1) ∘ aceLabel py := rfl
  rw [hfun, ← hlen, hr, List.length_append]
  omega

/-- **When the result of an accepted domain is normalised**: the encoding has not taken it
    beyond the limit and has left one dot behind it at most. -/
theorem normalised_iff (h : validateDomain py d = .ok r) :
    Normalised py r ↔ ¬ Outgrows py d ∧ ¬ DotsBehind py d := by
  obtain ⟨hne, hencode, labels, n, htwo, hall, hr⟩ := accepted_parts h
  by_cases hascii : isAsciiText d
  · have hsame : d = r := by
      by_cases hid : IdnaLengths (split '.' d)
      · exact Option.some.inj (((idnaEncode_ascii py hne hascii).1 hid).symm.trans hencode)
      · rw [(idnaEncode_ascii py hne hascii).2 hid] at hencode
        cases hencode
    subst hsame
    obtain ⟨-, -, hlen, labels', htwo', hall', hd⟩ := validateDomain_accepted hascii h
    have hdots := not_two_dots (separable_parts htwo' hall') hd
    exact iff_of_true ((normalised_parts_iff htwo hall hr).mpr ⟨hlen, hdots⟩)
      ⟨fun hout => hout.1 hascii, fun hout => hout.1 hascii⟩
  · obtain ⟨hjoined, hnil⟩ := encoded_labels hne hascii hencode
    have hlong : 2 ≤ r.length := by
      have hle := (last_suffix_joined htwo).length_le
      have hsep := separable_parts htwo hall
      rw [List.length_cons] at hle
      have hpos : 0 < (labels.getLastD []).length := by
        rw [List.getLastD_eq_getLast?, List.getLast?_eq_some_getLast hsep.1]
        exact List.length_pos_of_ne_nil (hsep.2 _ (List.getLast_mem hsep.1)).1
      rw [hr, List.length_append]
      omega
    rw [normalised_parts_iff htwo hall hr, dots_behind_iff hlong hnil hjoined,
      length_encoded (codecLabels_ne_nil hlong hjoined) hjoined]
    exact and_congr ⟨fun hle hout => absurd hout.2 (by omega), fun hout => by
        by_contra hgt
        exact hout ⟨hascii, by omega⟩⟩
      ⟨fun hdots hout => hdots hout.2, fun hout hdots => hout ⟨hascii, hdots⟩⟩

end Accepted

-- ── A name of many short labels ───────────────────────────────────────────────────

/-- An interpreter that knows the punycode of one letter. -/
def umlautPython : Python :=
  { Python.asciiOnly with punycode := fun s => if s = ['ü'] then str "tda" else s }

/-- 32 labels of one letter, 63 characters in all. -/
def umlautName : Str := joined (List.replicate 32 ['ü'])

def umlautEncoded : Str := joined (List.replicate 32 (str "xn--tda"))

theorem umlautName_accepted : validateDomain umlautPython umlautName = .ok umlautEncoded := by
  decide +kernel

/-- The result has 255 characters and is refused when it is validated again. -/
theorem umlautName_outgrows :
    ¬ ∀ (py : Python) (d r : Str), validateDomain py d = .ok r → Normalised py r := by
  intro hclaim
  have hnorm := hclaim umlautPython umlautName umlautEncoded umlautName_accepted
  have hlong : ¬ (withoutDot umlautEncoded).length ≤ 253 := by decide +kernel
  exact hlong hnorm.length_le

/-- Two labels of one letter come back as they should. -/
theorem umlautPair_normalised : Normalised umlautPython (str "xn--tda.xn--tda") := by
  have haccepted : validateDomain umlautPython ['ü', '.', 'ü'] = .ok (str "xn--tda.xn--tda") := by
    decide +kernel
  exact (normalised_iff haccepted).mpr
    ⟨fun h => absurd h.2 (by decide +kernel), fun h => absurd h.2 (by decide +kernel)⟩

end NetProbeDomainNormalForm
