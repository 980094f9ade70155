import NetProbe.AllowListProofs
import NetProbe.ValidatorGrammarProofs

/-!
# The allow-list and its label boundaries

`assert_domain_allowlisted` compares texts: the host is an entry, or ends in a dot and an entry.
The policy is about lists of labels.  Splitting at the dots turns the one into the other, empty
labels and all (`split_suffix_iff`), so the match respects the boundaries of the labels, and its
answer depends on how the names are spelled only up to case and the dots behind them
(`match_respects_labels`).
-/

namespace NetProbeAllowListLabels

open NetProbePyText NetProbeConfig NetProbeSecurity NetProbeAllowList NetProbeValidatorGrammar

-- ── Suffixes and labels ───────────────────────────────────────────────────────────

theorem joined_append {ls ms : List Str} (hls : ls ≠ []) (hms : ms ≠ []) :
    joined (ls ++ ms) = joined ls ++ '.' :: joined ms := by
  induction ls with
  | nil => exact absurd rfl hls
  | cons l ls ih =>
      by_cases htail : ls = []
      · subst htail
        rw [List.singleton_append, joined_cons hms]
        exact congrArg (· ++ '.' :: joined ms) List.intercalate_singleton.symm
      · have hne : ls ++ ms ≠ [] := List.append_ne_nil_of_left_ne_nil htail ms
        rw [List.cons_append, joined_cons hne, joined_cons htail, ih htail, List.append_assoc,
          List.cons_append]

/-- **Suffixes of labels.** The labels of one text end in those of another exactly if the texts
    are equal or the one ends in a dot and the other. -/
theorem split_suffix_iff {s t : Str} :
    split '.' t <:+ split '.' s ↔ s = t ∨ '.' :: t <:+ s := by
  constructor
  · rintro ⟨ls, hls⟩
    have hs : joined (ls ++ split '.' t) = s := by
      rw [hls, joined_split]
    by_cases hnil : ls = []
    · subst hnil
      refine Or.inl ?_
      rw [← hs, List.nil_append, joined_split]
    · refine Or.inr ⟨joined ls, ?_⟩
      have hne : split '.' t ≠ [] := List.splitOn_ne_nil _ _
      rw [← hs, joined_append hnil hne, joined_split]
  · rintro (rfl | ⟨x, rfl⟩)
    · exact List.suffix_rfl
    · show t.splitOn '.' <:+ (x ++ '.' :: t).splitOn '.'
      rw [List.splitOn_append_cons_self]
      exact List.suffix_append _ _

-- ── Names ─────────────────────────────────────────────────────────────────────────

/-- The labels of a name without the dots behind it, in lower case. -/
def labelsOf (py : Python) (name : Str) : List Str :=
  split '.' (py.lower (rstrip (· = '.') name))

/-- What is used of `lower()`: it neither takes nor leaves dots at the end of a text. -/
def KeepsDots (py : Python) : Prop :=
  ∀ s, py.lower (rstrip (· = '.') s) = rstrip (· = '.') (py.lower s)

/-- One name with other letter case and another number of dots behind it. -/
def Respelled (py : Python) (name name' : Str) : Prop :=
  ∃ m n, py.lower (name ++ List.replicate m '.') = py.lower (name' ++ List.replicate n '.')

/-- Lists with the same entries in any order, each of them spelled in some way. -/
def SameEntries (py : Python) (entries entries' : List Str) : Prop :=
  ∃ ordered, entries.Perm ordered ∧ List.Forall₂ (Respelled py) ordered entries'

theorem rstrip_replicate (s : Str) (n : Nat) :
    rstrip (· = '.') (s ++ List.replicate n '.') = rstrip (· = '.') s := by
  show ((s ++ List.replicate n '.').reverse.dropWhile _).reverse = (s.reverse.dropWhile _).reverse
  rw [List.reverse_append, List.reverse_replicate, List.dropWhile_append_of_pos]
  intro c hc
  rw [List.eq_of_mem_replicate hc]
  decide

section Spelling

variable {py : Python}

/-- Respelling a name leaves its labels as they are. -/
theorem Respelled.labelsOf_eq (hlower : KeepsDots py) {name name' : Str}
    (h : Respelled py name name') : labelsOf py name = labelsOf py name' := by
  obtain ⟨m, n, h⟩ := h
  refine congrArg (split '.') ?_
  calc py.lower (rstrip (· = '.') name)
      = rstrip (· = '.') (py.lower (name ++ List.replicate m '.')) := by
        rw [← hlower, rstrip_replicate]
    _ = rstrip (· = '.') (py.lower (name' ++ List.replicate n '.')) := by rw [h]
    _ = py.lower (rstrip (· = '.') name') := by rw [← hlower, rstrip_replicate]

theorem map_labelsOf_eq (hlower : KeepsDots py) {entries entries' : List Str}
    (h : List.Forall₂ (Respelled py) entries entries') :
    entries.map (labelsOf py) = entries'.map (labelsOf py) := by
  induction h with
  | nil => rfl
  | cons hname _ ih => rw [List.map_cons, List.map_cons, hname.labelsOf_eq hlower, ih]

theorem SameEntries.map_perm (hlower : KeepsDots py) {entries entries' : List Str}
    (h : SameEntries py entries entries') :
    (entries.map (labelsOf py)).Perm (entries'.map (labelsOf py)) := by
  obtain ⟨ordered, hperm, hall⟩ := h
  rw [← map_labelsOf_eq hlower hall]
  exact hperm.map _

end Spelling

-- ── The match ─────────────────────────────────────────────────────────────────────

section Match

variable {py : Python} {settings settings' : Settings} {domain domain' : Str}

/-- Being listed, in terms of labels. -/
theorem listed_iff : Listed py settings domain ↔
    ∃ allowed ∈ settings.allowed_target_domains, labelsOf py allowed <:+ labelsOf py domain := by
  refine exists_congr fun allowed => and_congr_right fun _ => ?_
  rw [labelsOf, labelsOf, split_suffix_iff]
  show _ ∨ List.isSuffixOf _ _ = true ↔ _
  rw [List.isSuffixOf_iff_suffix]

/-- **The match respects the boundaries of labels.** -/
theorem allowlisted_iff (hlist : settings.allowed_target_domains ≠ []) :
    assertDomainAllowlisted py settings domain = .ok () ↔
      ∃ allowed ∈ settings.allowed_target_domains, labelsOf py allowed <:+ labelsOf py domain :=
  (assertDomainAllowlisted_ok_iff hlist).trans listed_iff

theorem allowlisted_of_empty (hlist : settings.allowed_target_domains = []) :
    assertDomainAllowlisted py settings domain = .ok () := by
  rw [assertDomainAllowlisted, if_pos hlist]

/-- The list of labels of some entry ends another list of labels. -/
theorem exists_labels_iff {entries : List Str} {labels : List Str} :
    (∃ allowed ∈ entries, labelsOf py allowed <:+ labels) ↔
      ∃ ls ∈ entries.map (labelsOf py), ls <:+ labels := by
  simp

/-- The order of the entries, letter case and dots behind a name make no difference. -/
theorem allowlisted_congr (hlower : KeepsDots py)
    (hentries : SameEntries py settings.allowed_target_domains settings'.allowed_target_domains)
    (hdomain : Respelled py domain domain') :
    assertDomainAllowlisted py settings domain = .ok () ↔
      assertDomainAllowlisted py settings' domain' = .ok () := by
  have hperm := hentries.map_perm hlower
  by_cases hlist : settings.allowed_target_domains = []
  · have hlist' : settings'.allowed_target_domains = [] := by
      rw [hlist, List.map_nil] at hperm
      exact List.map_eq_nil_iff.mp hperm.symm.eq_nil
    exact iff_of_true (allowlisted_of_empty hlist) (allowlisted_of_empty hlist')
  · have hlist' : settings'.allowed_target_domains ≠ [] := by
      intro hnil
      rw [hnil, List.map_nil] at hperm
      exact hlist (List.map_eq_nil_iff.mp hperm.eq_nil)
    rw [allowlisted_iff hlist, allowlisted_iff hlist', exists_labels_iff, exists_labels_iff,
      hdomain.labelsOf_eq hlower]
    exact exists_congr fun ls => and_congr_left fun _ => hperm.mem_iff

end Match

/-- **The allow-list match is about labels.**  A list that is not empty lets exactly the names
    through whose labels end in the labels of an entry; how the names are spelled, and the order
    of the entries, make no difference; and `evil-example.com` is no match for `example.com`. -/
theorem match_respects_labels (py : Python) :
    (∀ settings domain, settings.allowed_target_domains ≠ [] →
      (assertDomainAllowlisted py settings domain = .ok () ↔
        ∃ allowed ∈ settings.allowed_target_domains, labelsOf py allowed <:+ labelsOf py domain)) ∧
      (KeepsDots py → ∀ settings settings' domain domain',
        SameEntries py settings.allowed_target_domains settings'.allowed_target_domains →
          Respelled py domain domain' →
            (assertDomainAllowlisted py settings domain = .ok () ↔
              assertDomainAllowlisted py settings' domain' = .ok ())) ∧
      assertDomainAllowlisted py oneDomain (str "evil-example.com") ≠ .ok () := by
  refine ⟨fun settings domain hlist => allowlisted_iff hlist,
    fun hlower settings settings' domain domain' hentries hdomain =>
      allowlisted_congr hlower hentries hdomain, ?_⟩
  have hlower : ∀ s : Str, s.all isAscii = true → py.lower s = s.map Char.toLower :=
    fun s hs => py.lower_ascii s (List.all_eq_true.mp hs)
  rw [ne_eq, allowlisted_iff (by decide)]
  rintro ⟨allowed, hallowed, hsuffix⟩
  obtain rfl := List.mem_singleton.mp hallowed
  rw [labelsOf, labelsOf, hlower _ (by decide), hlower _ (by decide)] at hsuffix
  revert hsuffix
  decide

/-- The law holds of ASCII. -/
theorem asciiOnly_keepsDots : KeepsDots .asciiOnly := by
  intro s
  have hdot : (fun c : Char => decide (c = '.')) ∘ Char.toLower = fun c => decide (c = '.') := by
    funext c
    by_cases hc : isAscii c = true
    · exact ascii_cases (P := fun c => decide (c.toLower = '.') = decide (c = '.'))
        (by decide +kernel) hc
    · rw [Function.comp_apply, toLower_of_not_ascii hc]
  show (s.reverse.dropWhile _).reverse.map Char.toLower =
    ((s.map Char.toLower).reverse.dropWhile _).reverse
  rw [← List.map_reverse, List.dropWhile_map, hdot, List.map_reverse]

/-- The general result on an entry with capitals and a dot behind it. -/
theorem subdomain_matches :
    assertDomainAllowlisted .asciiOnly { allowed_target_domains := [str "Example.COM."] }
        (str "www.example.com") = .ok () ∧
      (assertDomainAllowlisted .asciiOnly { allowed_target_domains := [str "Example.COM."] }
          (str "evil-example.com") = .ok () ↔
        assertDomainAllowlisted .asciiOnly oneDomain (str "EVIL-example.com..") = .ok ()) := by
  refine ⟨((match_respects_labels .asciiOnly).1 _ _ (by decide)).mpr
      ⟨_, List.mem_singleton_self _, by decide +kernel⟩,
    (match_respects_labels .asciiOnly).2.1 asciiOnly_keepsDots _ _ _ _ ?_ ?_⟩
  · exact ⟨_, List.Perm.refl _, .cons ⟨0, 1, by decide +kernel⟩ .nil⟩
  · exact ⟨2, 0, by decide +kernel⟩

end NetProbeAllowListLabels
