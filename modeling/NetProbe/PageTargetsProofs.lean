import Mathlib.Algebra.Order.Ring.Rat
import Mathlib.Data.Rat.Cast.Order
import NetProbe.PageRunProofs
import NetProbe.SecurityProofs

/-!
# The targets the page asks for

The forms of `app/static/js/app.js` check a target with expressions of their own before the
validators of `app/core/security.py` see it.  They are weaker than these: the page keeps back no
target that the API would take (`taken_target_is_sent`).  For a URL that needs a line without
control characters: `urlsplit` drops line breaks and tabs, and the expression of the page does
not.
-/

namespace NetProbePageTargets

open NetProbePyText NetProbeUrlSplit NetProbeSecurity NetProbePageView NetProbePageRun LabelledRun

-- ── URLs ──────────────────────────────────────────────────────────────────────────

section Urls

variable {py : Python} {u v : Str}

/-- What a line of text can hold. -/
def OneLine (text : Str) : Prop := ∀ c ∈ text, 32 ≤ c.toNat ∧ isLineEnd c = false

theorem trim_initial (text : Str) : trim text <+: lstrip isJsSpace text := by
  have hback := List.reverse_prefix.mpr
    (List.dropWhile_suffix isJsSpace (l := (lstrip isJsSpace text).reverse))
  rwa [List.reverse_reverse] at hback

theorem trim_subset (text : Str) : trim text ⊆ text :=
  fun _ hc => (List.dropWhile_suffix isJsSpace).subset ((trim_initial text).subset hc)

/-- What is trimmed does not start with white space. -/
theorem trim_head {text rest : Str} {c : Char} (h : trim text = c :: rest) :
    isJsSpace c = false := by
  obtain ⟨rest', hrest⟩ := trim_initial text
  have hdrop : text.dropWhile isJsSpace = c :: (rest ++ rest') := by
    rw [h] at hrest
    exact hrest.symm
  have hne : text.dropWhile isJsSpace ≠ [] := by
    rw [hdrop]
    exact List.cons_ne_nil _ _
  have hhead := List.head_dropWhile_not isJsSpace hne
  simpa only [hdrop, List.head_cons] using hhead

/-- `urlsplit` reads what was typed as it is. -/
theorem cleaned_trim {text : Str} (h : OneLine text) : cleaned (trim text) = trim text := by
  have hline : OneLine (trim text) := fun c hc => h c (trim_subset text hc)
  have hsafe : ∀ c ∈ trim text, isUnsafeUrlByte c = false := by
    intro c hc
    obtain ⟨hlow, _⟩ := hline c hc
    by_contra hunsafe
    simp only [isUnsafeUrlByte, Bool.not_eq_false, Bool.or_eq_true, decide_eq_true_eq] at hunsafe
    rcases hunsafe with (rfl | rfl) | rfl
    · exact absurd hlow (by decide)
    · exact absurd hlow (by decide)
    · exact absurd hlow (by decide)
  have hstrip : lstrip isC0ControlOrSpace (trim text) = trim text := by
    cases htrim : trim text with
    | nil => rfl
    | cons c rest =>
        have hspace := trim_head htrim
        have hlow := (hline c (by rw [htrim]; exact List.mem_cons_self)).1
        refine List.dropWhile_cons_of_neg fun hcontrol => ?_
        -- the one control character or blank that a line holds is the blank, and `trim` took it
        have hblank : c = Char.ofNat 32 := by
          rw [← Char.ofNat_toNat c]
          exact congrArg Char.ofNat (Nat.le_antisymm (of_decide_eq_true hcontrol) hlow)
        rw [hblank] at hspace
        exact absurd hspace (by decide)
  rw [cleaned, hstrip]
  exact List.filter_eq_self.mpr fun c hc => by rw [hsafe c hc]; rfl

theorem netloc_ne_nil_of_hostname {r : SplitResult} {host : Str} (h : hostname py r = some host) :
    r.netloc ≠ [] := by
  intro hnil
  have hnone : hostname py r = none := by
    rw [hostname, hnil]
    rfl
  rw [hnone] at h
  cases h

/-- A network location stands behind `//`. -/
theorem authority_shape {rest : Str} (h : (splitAuthority rest).1 ≠ []) :
    ∃ c tail, rest = '/' :: '/' :: c :: tail := by
  rw [splitAuthority] at h
  by_cases hslash : startswith ['/', '/'] rest = true
  · rw [if_pos hslash] at h
    obtain ⟨tail, rfl⟩ := List.isPrefixOf_iff_prefix.mp hslash
    cases tail with
    | nil => exact absurd rfl h
    | cons c tail => exact ⟨c, tail, rfl⟩
  · rw [if_neg hslash] at h
    exact absurd rfl h

/-- **The front of an accepted URL**: a scheme in any case, `://`, and a character. -/
theorem validUrl_shape (h : validateUrl py u = .ok v) (hclean : cleaned u = u) :
    ∃ scheme c tail, u = scheme ++ ':' :: '/' :: '/' :: c :: tail ∧
      (scheme.map Char.toLower = str "http" ∨ scheme.map Char.toLower = str "https") := by
  obtain ⟨-, -, -, parts, host, hparts, hscheme, -, -, hhost, -⟩ := validateUrl_ok h
  have hpieces : (splitScheme py u).1 = parts.scheme ∧
      (splitAuthority (splitScheme py u).2).1 = parts.netloc := by
    simp only [urlsplit, hclean] at hparts
    split at hparts
    · cases hparts
    · split at hparts
      · cases hparts
      · rw [← Option.some.inj hparts]
        exact ⟨rfl, rfl⟩
  have hnetloc := netloc_ne_nil_of_hostname hhost
  rw [← hpieces.2] at hnetloc
  rw [← hpieces.1] at hscheme
  rcases splitScheme_cases py u with ⟨scheme, after, hu, hletters, hsplit⟩ | hnone
  · rw [hsplit] at hnetloc hscheme
    obtain ⟨c, tail, rfl⟩ := authority_shape hnetloc
    have hlower : py.lower scheme = scheme.map Char.toLower :=
      py.lower_ascii scheme fun c hc => isAscii_of_schemeChar (hletters.chars c hc)
    rw [hlower] at hscheme
    exact ⟨scheme, c, tail, hu, hscheme⟩
  · rw [hnone] at hscheme
    rcases hscheme with hs | hs
    · cases hs
    · cases hs

theorem afterWord_append {word : String} {front : Str}
    (h : front.map Char.toLower = str word) (rest : Str) :
    afterWord word (front ++ rest) = some rest := by
  have hlength : front.length = word.length := by
    have hlengths := congrArg List.length h
    rwa [List.length_map, str, String.length_toList] at hlengths
  rw [afterWord, ← hlength, List.take_left, List.drop_left, if_pos h]

/-- An `http` URL is no `https` URL. -/
theorem afterWord_https_of_http {scheme rest : Str} (h : scheme.map Char.toLower = str "http") :
    afterWord "https://" (scheme ++ ':' :: rest) = none := by
  rw [afterWord, if_neg]
  intro heq
  have hlength : scheme.length = 4 := by
    have hlengths := congrArg List.length h
    rwa [List.length_map] at hlengths
  have hcolon : (scheme ++ ':' :: rest)[4]? = some ':' := by
    rw [← hlength, List.getElem?_append_right (Nat.le_refl _), Nat.sub_self]
    rfl
  have hfifth := congrArg (fun l => l[4]?) heq
  rw [List.getElem?_map, List.getElem?_take_of_lt (by decide), hcolon] at hfifth
  exact absurd hfifth (by decide)

/-- **An accepted URL passes the check of the form.** -/
theorem isHttpUrl_of_valid (h : validateUrl py u = .ok v) (hclean : cleaned u = u)
    (hline : ∀ c ∈ u, isLineEnd c = false) : isHttpUrl u = true := by
  obtain ⟨scheme, c, tail, rfl, hscheme⟩ := validUrl_shape h hclean
  have hc : isLineEnd c = false := hline c (by simp)
  have hfront : scheme ++ ':' :: '/' :: '/' :: c :: tail = (scheme ++ str "://") ++ c :: tail := by
    rw [List.append_assoc]
    rfl
  have hafter : afterScheme (scheme ++ ':' :: '/' :: '/' :: c :: tail) = some (c :: tail) := by
    rw [afterScheme]
    rcases hscheme with hs | hs
    · have hword : (scheme ++ str "://").map Char.toLower = str "http://" := by
        rw [List.map_append, hs]
        rfl
      rw [afterWord_https_of_http hs, hfront, afterWord_append hword, Option.none_or]
    · have hword : (scheme ++ str "://").map Char.toLower = str "https://" := by
        rw [List.map_append, hs]
        rfl
      rw [hfront, afterWord_append hword, Option.some_or]
  rw [isHttpUrl, hafter]
  dsimp only
  rw [hc]
  rfl

/-- `urlsplit` drops the tab before it looks for the host, the expression of the page does not. -/
example : (validateUrl .asciiOnly (str "http:\t//example.org")).isOk = true ∧
    isHttpUrl (str "http:\t//example.org") = false := by decide +kernel

end Urls

-- ── Forms ─────────────────────────────────────────────────────────────────────────

section Forms

variable {localTime : Str → Str} {py : Python} {form : Form} {b : Browser}
  {events : List (Nat × Action)}

/-- The validators of the API take the target of a form. -/
def Takes (py : Python) : Form → Prop
  | .http url _ _ _ => OneLine url ∧ ∃ v, validateUrl py (trim url) = .ok v
  | .port host number _ => (∃ v, validateHost py (trim host) = .ok v) ∧
      ∃ n : Int, (1 ≤ n ∧ n ≤ 65535) ∧ (toNumber number).value = n
  | .dns domain _ => ∃ v, validateDomain py (trim domain) = .ok v

theorem validateHost_ne_nil {host v : Str} (h : validateHost py host = .ok v) : host ≠ [] := by
  rintro rfl
  rw [validateHost] at h
  cases h

theorem validateDomain_plain {domain v : Str} (h : validateDomain py domain = .ok v) :
    domain ≠ [] ∧ '/' ∉ domain := by
  rw [validateDomain] at h
  split at h
  · cases h
  · rename_i hlen
    split at h
    · cases h
    · rename_i hplain
      simp only [Bool.or_eq_true, decide_eq_true_eq, not_or] at hlen hplain
      exact ⟨hlen.1, hplain.1.2⟩

theorem eq_slash_of_toLower {c : Char} (h : c.toLower = '/') : c = '/' := by
  by_cases hc : isAscii c = true
  · have hall : ∀ n < 128, (Char.ofNat n).toLower = '/' → Char.ofNat n = '/' := by decide +kernel
    exact ascii_cases (P := fun c => c.toLower = '/' → c = '/') hall hc h
  · rwa [toLower_of_not_ascii hc] at h

theorem slash_mem_of_afterWord {word : String} {text rest : Str} (hword : '/' ∈ str word)
    (h : afterWord word text = some rest) : '/' ∈ text := by
  rw [afterWord] at h
  split at h
  next heq =>
    rw [← heq] at hword
    obtain ⟨c, hc, hlower⟩ := List.mem_map.mp hword
    rw [← eq_slash_of_toLower hlower]
    exact List.mem_of_mem_take hc
  next => cases h

/-- **The form of a target that the API takes has no errors.** -/
theorem errors_of_takes (h : Takes py form) : form.errors = [] := by
  cases form with
  | http url method timeout follow =>
      obtain ⟨hline, v, hv⟩ := h
      have hne : trim url ≠ [] := (validateUrl_ok hv).2.1
      have hurl : isHttpUrl (trim url) = true :=
        isHttpUrl_of_valid hv (cleaned_trim hline) fun c hc => (hline c (trim_subset url hc)).2
      simp [Form.errors, hne, hurl]
  | port host number timeout =>
      obtain ⟨⟨v, hv⟩, n, ⟨hlow, hhigh⟩, hn⟩ := h
      have hne := validateHost_ne_nil hv
      have hlow' : (1 : Rat) ≤ n := by exact_mod_cast hlow
      have hhigh' : (n : Rat) ≤ 65535 := by exact_mod_cast hhigh
      have hrange : ¬ ((n : Rat) = 0 ∨ (n : Rat) < 1 ∨ 65535 < (n : Rat)) := by
        rintro (hzero | hless | hmore)
        · rw [hzero] at hlow'
          exact absurd hlow' (by decide)
        · exact absurd hless (not_lt.mpr hlow')
        · exact absurd hmore (not_lt.mpr hhigh')
      rw [Form.errors, hn, if_neg hne, if_neg hrange]
      rfl
  | dns domain recordType =>
      obtain ⟨v, hv⟩ := h
      obtain ⟨hne, hslash⟩ := validateDomain_plain hv
      have hno : ∀ word, '/' ∈ str word → afterWord word (trim domain) = none := fun word hword =>
        Option.eq_none_iff_forall_ne_some.mpr fun rest h => hslash (slash_mem_of_afterWord hword h)
      have hnone : afterScheme (trim domain) = none := by
        rw [afterScheme, hno _ (by decide), hno _ (by decide)]
        rfl
      simp [Form.errors, hne, hslash, hnone]

/-- **The page keeps back no target that the API would take.**  In every state that the tabs reach,
    a form whose target the validators accept is sent as soon as its tool is free. -/
theorem taken_target_is_sent (h : Run (Step localTime) .initial events b) (i : Nat)
    (hidle : (b.tab i).script = .idle) (hfree : (b.tab i).busy form.payload.tool = false)
    (htakes : Takes py form) :
    ∃ b', Step localTime b (i, .submit form) b' ∧
      (b'.tab i).pending = ⟨(b.tab i).sent, form.payload⟩ :: (b.tab i).pending ∧
        (b'.tab i).busy form.payload.tool = true := by
  have hsound := ((run_sound h).tabs i).requests
  have hreport : Sound localTime ((b.tab i).report form) := hsound.of_eq rfl rfl rfl rfl rfl rfl
  have hsubmit : (b.tab i).submit form =
      (((b.tab i).report form).control form.payload.tool).send form.payload := by
    rw [Page.submit, if_pos (errors_of_takes htakes), hreport.abort_eq hfree]
  refine ⟨b.setTab i ((b.tab i).submit form), ?_, ?_⟩
  · rw [Step, Browser.next]
    dsimp only
    rw [if_pos hidle, Page.handle, if_neg (by rw [hfree]; exact Bool.false_ne_true)]
    rfl
  · show (Function.update b.tab i _ i).pending = _ ∧ (Function.update b.tab i _ i).busy _ = true
    rw [Function.update_self, hsubmit]
    exact ⟨rfl, Function.update_self ..⟩

/-- A form as it is typed, with blanks around its URL. -/
def typedForm : Form := .http (str " HTTPS://example.org/a b ") (str "GET") none true

theorem typedForm_taken : Takes .asciiOnly typedForm := by
  refine ⟨fun c hc => ?_, str "HTTPS://example.org/a b", by decide +kernel⟩
  have hall : (str " HTTPS://example.org/a b ").all
      (fun c => decide (32 ≤ c.toNat) && !isLineEnd c) = true :=
    rfl
  obtain ⟨hlow, hline⟩ := Bool.and_eq_true_iff.mp (List.all_eq_true.mp hall c hc)
  exact ⟨of_decide_eq_true hlow, (Bool.not_eq_true' _).mp hline⟩

theorem typed_target_is_sent : ∃ b b', Run (Step id) .initial [(0, .access false)] b ∧
    Step id b (0, .submit typedForm) b' ∧
      (b'.tab 0).pending = ⟨(b.tab 0).sent, typedForm.payload⟩ :: (b.tab 0).pending := by
  have hexec : (exec (Browser.next id) .initial [(0, .access false)]).any (fun b =>
      decide ((b.tab 0).script = .idle) && decide ((b.tab 0).busy .http = false)) = true := by
    decide +kernel
  obtain ⟨b, hb, h⟩ := (Option.any_eq_true _ _).mp hexec
  obtain ⟨hidle, hfree⟩ := Bool.and_eq_true_iff.mp h
  have hrun : Run (Step id) .initial [(0, .access false)] b := .of_exec (fun _ _ _ h => h) hb
  have hfree' : (b.tab 0).busy typedForm.payload.tool = false := of_decide_eq_true hfree
  obtain ⟨b', hstep, hpending, _⟩ :=
    taken_target_is_sent hrun 0 (of_decide_eq_true hidle) hfree' typedForm_taken
  exact ⟨b, b', hrun, hstep, hpending⟩

end Forms

end NetProbePageTargets
