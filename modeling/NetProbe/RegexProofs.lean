import Mathlib.Data.List.Basic

/-!
# Regular expressions with anchors

The regular expressions a validator needs: classes of symbols, sequences and bounded
repetition, over any alphabet.  `Matches` is their language; the lemmas give it connective by
connective.  A repetition of a class is what its length and its symbols say it is
(`matches_rep_cls`), so no run of the repetition has to be taken apart by hand.

`MatchesToEnd` is a match from the start of a text to an end anchor.  In the dialects where
this anchor also holds before a final line feed, two texts match for every word of the
language (`matchesToEnd_iff`): the word, and the word with a line feed behind it.
-/

namespace NetProbeRegex

variable {α : Type}

inductive Regex (α : Type) where
  | cls (p : α → Bool)
  | seq (r s : Regex α)
  | rep (r : Regex α) (lo hi : Nat)

/-- `r?` -/
def Regex.opt (r : Regex α) : Regex α := .rep r 0 1

/-- The language of an expression. -/
inductive Matches : Regex α → List α → Prop where
  | cls {p : α → Bool} {a : α} : p a = true → Matches (.cls p) [a]
  | seq {r s : Regex α} {u v : List α} : Matches r u → Matches s v → Matches (.seq r s) (u ++ v)
  | rep {r : Regex α} {lo hi : Nat} {us : List (List α)} : (∀ u ∈ us, Matches r u) →
      lo ≤ us.length → us.length ≤ hi → Matches (.rep r lo hi) us.flatten

theorem matches_cls {p : α → Bool} {w : List α} :
    Matches (.cls p) w ↔ ∃ a, w = [a] ∧ p a = true := by
  constructor
  · intro h
    cases h with
    | cls ha => exact ⟨_, rfl, ha⟩
  · rintro ⟨a, rfl, ha⟩
    exact .cls ha

theorem matches_seq {r s : Regex α} {w : List α} :
    Matches (.seq r s) w ↔ ∃ u v, w = u ++ v ∧ Matches r u ∧ Matches s v := by
  constructor
  · intro h
    cases h with
    | seq hu hv => exact ⟨_, _, rfl, hu, hv⟩
  · rintro ⟨u, v, rfl, hu, hv⟩
    exact .seq hu hv

theorem matches_rep {r : Regex α} {lo hi : Nat} {w : List α} :
    Matches (.rep r lo hi) w ↔
      ∃ us : List (List α), w = us.flatten ∧ (∀ u ∈ us, Matches r u) ∧ lo ≤ us.length ∧
        us.length ≤ hi := by
  constructor
  · intro h
    cases h with
    | rep hus hlo hhi => exact ⟨_, rfl, hus, hlo, hhi⟩
  · rintro ⟨us, rfl, hus, hlo, hhi⟩
    exact .rep hus hlo hhi

theorem matches_opt {r : Regex α} {w : List α} :
    Matches r.opt w ↔ w = [] ∨ Matches r w := by
  rw [Regex.opt]
  rw [matches_rep]
  constructor
  · rintro ⟨us, rfl, hus, -, hhi⟩
    match us, hhi with
    | [], _ => exact Or.inl rfl
    | [u], _ =>
        right
        have hflat : [u].flatten = u := by simp
        rw [hflat]
        exact hus u (List.mem_cons_self ..)
  · rintro (rfl | h)
    · exact ⟨[], rfl, fun u hu => (nomatch hu), by simp, by simp⟩
    · refine ⟨[w], by simp, ?_, by simp, by simp⟩
      intro u hu
      rw [List.mem_singleton.mp hu]
      exact h

/-- One symbol at a time: the words of a class are the symbols of the text. -/
theorem flatten_of_cls {p : α → Bool} {us : List (List α)}
    (h : ∀ u ∈ us, Matches (.cls p) u) :
    us.flatten.length = us.length ∧ ∀ a ∈ us.flatten, p a = true := by
  induction us with
  | nil => exact ⟨rfl, fun a ha => (nomatch ha)⟩
  | cons u us ih =>
      obtain ⟨a, rfl, ha⟩ := matches_cls.mp (h u (List.mem_cons_self ..))
      obtain ⟨hlen, hall⟩ := ih fun v hv => h v (List.mem_cons_of_mem _ hv)
      rw [List.flatten_cons]
      constructor
      · rw [List.length_append, hlen, List.length_singleton, List.length_cons]
        omega
      · intro b hb
        rcases List.mem_append.mp hb with hb | hb
        · rw [List.mem_singleton.mp hb]
          exact ha
        · exact hall b hb

/-- **Repetition of a class**: the length is within the bounds and every symbol is of the
    class. -/
theorem matches_rep_cls {p : α → Bool} {lo hi : Nat} {w : List α} :
    Matches (.rep (.cls p) lo hi) w ↔ (∀ a ∈ w, p a = true) ∧ lo ≤ w.length ∧ w.length ≤ hi := by
  rw [matches_rep]
  constructor
  · rintro ⟨us, rfl, hus, hlo, hhi⟩
    obtain ⟨hlen, hall⟩ := flatten_of_cls hus
    exact ⟨hall, by omega, by omega⟩
  · rintro ⟨hall, hlo, hhi⟩
    refine ⟨w.map fun a => [a], ?_, ?_, by simpa using hlo, by simpa using hhi⟩
    · show w = w.flatMap fun a => [a]
      exact (List.flatMap_singleton' w).symm
    · intro u hu
      obtain ⟨a, ha, rfl⟩ := List.mem_map.mp hu
      exact .cls (hall a ha)

/-- A match of the front of a text that stops at an end anchor: at the end, or before a final
    `newline`. -/
def MatchesToEnd (newline : α) (r : Regex α) (w : List α) : Prop :=
  ∃ u rest, w = u ++ rest ∧ Matches r u ∧ (rest = [] ∨ rest = [newline])

theorem matchesToEnd_iff {newline : α} {r : Regex α} {w : List α} :
    MatchesToEnd newline r w ↔ Matches r w ∨ ∃ u, w = u ++ [newline] ∧ Matches r u := by
  constructor
  · rintro ⟨u, rest, rfl, hu, rfl | rfl⟩
    · rw [List.append_nil]
      exact Or.inl hu
    · exact Or.inr ⟨u, rfl, hu⟩
  · rintro (h | ⟨u, rfl, hu⟩)
    · exact ⟨w, [], (List.append_nil w).symm, h, Or.inl rfl⟩
    · exact ⟨u, [newline], rfl, hu, Or.inr rfl⟩

end NetProbeRegex
