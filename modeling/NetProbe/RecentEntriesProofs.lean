import Mathlib.Data.List.DropRight
import Mathlib.Data.List.Forall2
import Mathlib.Order.Lattice

/-!
# The latest entries of a log

A log in the order in which its entries were made, and a query that sorts it by a key of the
entries, latest first, and takes the first `n`.  The two notions of "latest" agree where the
keys follow the order of the entries as far as it matters: `LastLatest` says that every entry
before the last `n` has a smaller key than these.  Then the query answers with the last `n`
entries (`latest_perm`), in whatever order it puts equal keys.

The last entries of a list are `List.rtake`; a log that is cut to its last `n` entries
remembers less of the past the more often it is cut, but never less than `n`
(`rtake_rtake`).
-/

namespace RecentEntries

variable {α β κ : Type}

-- ── The end of a list ─────────────────────────────────────────────────────────────

section Last

variable {l : List α} {l' : List β} {m n : Nat}

theorem rdrop_append_rtake (l : List α) (n : Nat) : l.rdrop n ++ l.rtake n = l :=
  List.take_append_drop _ _

theorem length_rtake : (l.rtake n).length = min n l.length := by
  rw [List.rtake]
  rw [List.length_drop]
  omega

theorem rtake_of_length_le (h : l.length ≤ n) : l.rtake n = l := by
  rw [List.rtake]
  rw [Nat.sub_eq_zero_of_le h, List.drop_zero]

theorem rdrop_of_length_le (h : l.length ≤ n) : l.rdrop n = [] := by
  rw [List.rdrop]
  rw [Nat.sub_eq_zero_of_le h, List.take_zero]

/-- The last entries of the last entries. -/
theorem rtake_rtake : (l.rtake m).rtake n = l.rtake (min m n) := by
  unfold List.rtake
  rw [List.drop_drop, List.length_drop]
  congr 1
  omega

/-- An entry after the last `n`, and the last `n` of these. -/
theorem rtake_rtake_concat {x : α} : (l.rtake n ++ [x]).rtake n = (l ++ [x]).rtake n := by
  rw [← List.rtake_concat_succ, rtake_rtake, Nat.min_eq_right (Nat.le_succ n)]

theorem map_rtake (f : α → β) : (l.rtake n).map f = (l.map f).rtake n := by
  unfold List.rtake
  rw [List.map_drop, List.length_map]

theorem mem_of_mem_rtake {x : α} (h : x ∈ l.rtake n) : x ∈ l :=
  List.mem_of_mem_drop h

theorem mem_of_mem_rdrop {x : α} (h : x ∈ l.rdrop n) : x ∈ l :=
  List.mem_of_mem_take h

/-- Lists that correspond entry by entry have ends that do. -/
theorem forall₂_rtake {R : α → β → Prop} (h : List.Forall₂ R l l') :
    List.Forall₂ R (l.rtake n) (l'.rtake n) := by
  rw [List.rtake]
  rw [h.length_eq]
  exact List.forall₂_drop _ h

/-- What stands in one of two corresponding lists has a counterpart in the other. -/
theorem exists_of_mem_right {R : α → β → Prop} {b : β} (h : List.Forall₂ R l l') (hb : b ∈ l') :
    ∃ a ∈ l, R a b := by
  induction h with
  | nil => cases hb
  | @cons a c l l' hac _ ih =>
      rcases List.mem_cons.mp hb with rfl | hmem
      · exact ⟨a, List.mem_cons_self .., hac⟩
      · obtain ⟨x, hx, hxb⟩ := ih hmem
        exact ⟨x, List.mem_cons_of_mem _ hx, hxb⟩

end Last

-- ── The latest by a key ───────────────────────────────────────────────────────────

section Latest

variable [LinearOrder κ] {key : α → κ} {log sorted : List α} {n : Nat}

/-- The last `n` entries are later than all before them. -/
def LastLatest (key : α → κ) (n : Nat) (log : List α) : Prop :=
  ∀ a ∈ log.rdrop n, ∀ b ∈ log.rtake n, key a < key b

/-- A log whose keys increase. -/
theorem lastLatest_of_increasing (h : log.Pairwise fun a b => key a < key b) :
    LastLatest key n log := by
  rw [← rdrop_append_rtake log n] at h
  exact (List.pairwise_append.mp h).2.2

theorem lastLatest_of_length_le (h : log.length ≤ n) : LastLatest key n log := by
  intro a ha
  rw [rdrop_of_length_le h] at ha
  cases ha

/-- What a test accepts stands in front where it accepts all that stands before. -/
theorem filter_append_filter_not {p : α → Bool} {l : List α}
    (h : l.Pairwise fun a b => p b = true → p a = true) :
    l.filter p ++ l.filter (fun a => !p a) = l := by
  induction l with
  | nil => rfl
  | cons a l ih =>
      obtain ⟨ha, hl⟩ := List.pairwise_cons.mp h
      cases hp : p a with
      | true =>
          rw [List.filter_cons_of_pos hp, List.filter_cons_of_neg (by simp [hp])]
          exact congrArg (a :: ·) (ih hl)
      | false =>
          have hnone : ∀ b ∈ l, p b = false := by
            intro b hb
            cases hpb : p b with
            | true => rw [ha b hb hpb] at hp; cases hp
            | false => rfl
          rw [List.filter_cons_of_neg (by simp [hp]), List.filter_cons_of_pos (by simp [hp]),
            List.filter_eq_nil_iff.mpr (by simpa using hnone),
            List.filter_eq_self.mpr (by simpa using hnone)]
          rfl

/-- **The latest entries are the last ones.** -/
theorem latest_perm (hperm : sorted.Perm log) (hsorted : sorted.Pairwise fun a b => key b ≤ key a)
    (hlast : LastLatest key n log) : (sorted.take n).Perm (log.rtake n) := by
  by_cases hshort : log.length ≤ n
  · rw [rtake_of_length_le hshort, List.take_of_length_le (by rw [hperm.length_eq]; exact hshort)]
    exact hperm
  · -- the test that tells the last entries from those before them
    let p : α → Bool := fun b => decide (∀ a ∈ log.rdrop n, key a < key b)
    have hfront : sorted.filter p ++ sorted.filter (fun a => !p a) = sorted := by
      refine filter_append_filter_not (hsorted.imp fun {a b} hba hb => ?_)
      have hall : ∀ c ∈ log.rdrop n, key c < key b := of_decide_eq_true hb
      exact decide_eq_true fun c hc => lt_of_lt_of_le (hall c hc) hba
    have hbefore : (log.rdrop n).filter p = [] := by
      refine List.filter_eq_nil_iff.mpr fun a ha hp => ?_
      have hall : ∀ c ∈ log.rdrop n, key c < key a := of_decide_eq_true hp
      exact lt_irrefl _ (hall a ha)
    have hafter : (log.rtake n).filter p = log.rtake n :=
      List.filter_eq_self.mpr fun b hb => decide_eq_true fun a ha => hlast a ha b hb
    have hlog : log.filter p = log.rtake n := by
      have hsplit := congrArg (List.filter p) (rdrop_append_rtake log n)
      rw [List.filter_append, hbefore, hafter, List.nil_append] at hsplit
      exact hsplit.symm
    have hfilter : (sorted.filter p).Perm (log.rtake n) := hlog ▸ hperm.filter p
    have hlength : (sorted.filter p).length = n := by
      rw [hfilter.length_eq, length_rtake]
      omega
    have htake : sorted.take n = sorted.filter p := by
      calc sorted.take n
          = (sorted.filter p ++ sorted.filter fun a => !p a).take (sorted.filter p).length := by
            rw [hfront, hlength]
        _ = sorted.filter p := List.take_left
    rw [htake]
    exact hfilter

end Latest

end RecentEntries
