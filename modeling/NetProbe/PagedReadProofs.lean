import Mathlib.Data.List.Sort

/-!
# Reading a listing page by page

Rows are listed in descending order of a key, and rows with one key come in any order
(`Listing`).  A reader asks for one page after the other until one is short (`Reads`), and each
of its queries may see another listing of the same rows.

How many rows a page begins behind does not depend on the listing, but which rows these are does:
they are the same in every listing exactly if no page begins between two rows with one key
(`Unsplit`, `Listing.take_eq`).  Then the pages put together are the rows (`pagesFrom_perm`);
otherwise two listings exist that differ by a swap at the boundary, and a reader that sees one
after the other gets a row twice (`pagesFrom_repeats`).  `reads_all_iff` puts this together.
-/

namespace PagedRead

-- ── Listings and readers ──────────────────────────────────────────────────────────

section Definitions

variable {ρ κ β ε : Type}

/-- The rows in descending order of their keys. -/
structure Listing [LE κ] (key : ρ → κ) (rows l : List ρ) : Prop where
  perm : l.Perm rows
  sorted : l.Pairwise fun a b => key b ≤ key a

/-- The page with number `k`. -/
def pageAt (size k : Nat) (l : List ρ) : List ρ := (l.drop (k * size)).take size

/-- A reader that starts with page `k` gets these rows: it asks for the pages in order, and stops
    at a short one.  `fetch k offset` is the answer to query `k`. -/
inductive Reads (fetch : Nat → Nat → Except ε (List β)) (size : Nat) : Nat → List β → Prop where
  | last {k : Nat} {page : List β} (answer : fetch k (k * size) = .ok page)
      (short : page.length < size) : Reads fetch size k page
  | more {k : Nat} {page rest : List β} (answer : fetch k (k * size) = .ok page)
      (full : ¬ page.length < size) (tail : Reads fetch size (k + 1) rest) :
      Reads fetch size k (page ++ rest)

/-- `count` pages from page `k` on, each from a listing of its own. -/
def pagesFrom (size : Nat) (listings : Nat → List ρ) : Nat → Nat → List ρ
  | _, 0 => []
  | k, count + 1 => pageAt size k (listings k) ++ pagesFrom size listings (k + 1) count

/-- How many rows have a greater key. -/
def ahead [LT κ] [DecidableLT κ] (key : ρ → κ) (rows : List ρ) (x : κ) : Nat :=
  rows.countP fun y => x < key y

/-- How many rows have this key or a greater one. -/
def upTo [LE κ] [DecidableLE κ] (key : ρ → κ) (rows : List ρ) (x : κ) : Nat :=
  rows.countP fun y => x ≤ key y

/-- No page begins between two rows with one key. -/
def Unsplit [LinearOrder κ] (key : ρ → κ) (rows : List ρ) (size : Nat) : Prop :=
  ∀ x ∈ rows, ∀ k, k * size ≤ ahead key rows (key x) ∨ upTo key rows (key x) ≤ k * size

end Definitions

-- ── The reader ────────────────────────────────────────────────────────────────────

section Reader

variable {ρ β ε : Type} {fetch : Nat → Nat → Except ε (List β)} {size n k : Nat} {out out' : List β}
  {listings : Nat → List ρ} {item : ρ → β} {sent : Nat → Prop} [DecidablePred sent] {e : ε}

/-- A reader gets one answer. -/
theorem Reads.unique (h : Reads fetch size k out) (h' : Reads fetch size k out') : out = out' := by
  induction h generalizing out' with
  | last answer short =>
      cases h' with
      | last answer' short' => exact Except.ok.inj (answer.symm.trans answer')
      | more answer' full' tail' =>
          exact absurd short (Except.ok.inj (answer.symm.trans answer') ▸ full')
  | more answer full tail ih =>
      cases h' with
      | last answer' short' =>
          exact absurd short' (Except.ok.inj (answer.symm.trans answer') ▸ full)
      | more answer' full' tail' =>
          rw [Except.ok.inj (answer.symm.trans answer'), ih tail']

theorem length_pageAt (l : List ρ) : (pageAt size k l).length = min size (l.length - k * size) := by
  rw [pageAt, List.length_take, List.length_drop]

theorem pageAt_getElem? {i : Nat} (hi : i < size) (l : List ρ) :
    (pageAt size k l)[i]? = l[k * size + i]? := by
  rw [pageAt, List.getElem?_take_of_lt hi, List.getElem?_drop]

/-- The pages before the last one are full. -/
theorem pageAt_full {l : List ρ} (hlength : l.length = n) (hk : k < n / size) :
    (pageAt size k l).length = size := by
  have hle : (k + 1) * size ≤ n := (Nat.mul_le_mul_right size hk).trans (Nat.div_mul_le_self n size)
  rw [length_pageAt, hlength]
  rw [Nat.add_mul, Nat.one_mul] at hle
  omega

/-- The last one is short. -/
theorem pageAt_short {l : List ρ} (hsize : 1 ≤ size) (hlength : l.length = n) :
    (pageAt size (n / size) l).length < size := by
  have hmod := Nat.mod_lt n hsize
  have hdiv := Nat.div_add_mod' n size
  rw [length_pageAt, hlength]
  omega

/-- One query of a reader. -/
theorem reads_step :
    Reads fetch size k out ↔ ∃ page, fetch k (k * size) = .ok page ∧
      (page.length < size ∧ out = page ∨
        ¬ page.length < size ∧ ∃ rest, Reads fetch size (k + 1) rest ∧ out = page ++ rest) := by
  constructor
  · intro h
    cases h with
    | last answer short => exact ⟨_, answer, Or.inl ⟨short, rfl⟩⟩
    | more answer full tail => exact ⟨_, answer, Or.inr ⟨full, _, tail, rfl⟩⟩
  · rintro ⟨page, answer, ⟨short, rfl⟩ | ⟨full, rest, tail, rfl⟩⟩
    · exact .last answer short
    · exact .more answer full tail

/-- **What a reader gets.** If the queries answer with the pages of listings of `n` rows, and
    fail exactly if they are not sent, a reader gets all the pages exactly if all its queries are
    sent. -/
theorem reads_iff_from (hsize : 1 ≤ size) (hlength : ∀ j, (listings j).length = n)
    (hfetch : ∀ j, fetch j (j * size) =
      if sent j then .ok ((pageAt size j (listings j)).map item) else .error e)
    (d : Nat) (hk : k + d = n / size) :
    Reads fetch size k out ↔
      (∀ j, k ≤ j → j ≤ n / size → sent j) ∧
        out = (pagesFrom size listings k (d + 1)).map item := by
  have hanswer : ∀ j page, fetch j (j * size) = .ok page ↔
      sent j ∧ page = (pageAt size j (listings j)).map item := by
    intro j page
    rw [hfetch]
    split
    next hsent => rw [Except.ok.injEq, and_iff_right hsent, eq_comm]
    next hsent => exact iff_of_false (fun h => by cases h) fun h => hsent h.1
  induction d generalizing k out with
  | zero =>
      have hshort : ((pageAt size k (listings k)).map item).length < size := by
        rw [List.length_map, show k = n / size from hk]
        exact pageAt_short hsize (hlength _)
      have hpages : (pagesFrom size listings k 1).map item =
          (pageAt size k (listings k)).map item := by
        rw [pagesFrom, pagesFrom, List.append_nil]
      rw [hpages, reads_step]
      constructor
      · rintro ⟨page, answer, ⟨short, rfl⟩ | ⟨full, _⟩⟩
        · obtain ⟨hsent, hpage⟩ := (hanswer k _).mp answer
          refine ⟨fun j hkj hj => ?_, hpage⟩
          rw [show j = k by omega]
          exact hsent
        · rw [((hanswer k _).mp answer).2] at full
          exact absurd hshort full
      · rintro ⟨hsent, rfl⟩
        exact ⟨_, (hanswer k _).mpr ⟨hsent k (le_refl k) (le_of_eq hk), rfl⟩, Or.inl ⟨hshort, rfl⟩⟩
  | succ d ih =>
      have hfull : ¬ ((pageAt size k (listings k)).map item).length < size := by
        rw [List.length_map, pageAt_full (hlength _) (by omega)]
        exact lt_irrefl size
      have hpages : (pagesFrom size listings k (d + 1 + 1)).map item =
          (pageAt size k (listings k)).map item ++
            (pagesFrom size listings (k + 1) (d + 1)).map item := by
        rw [← List.map_append, ← pagesFrom]
      rw [hpages, reads_step]
      constructor
      · rintro ⟨page, answer, ⟨short, _⟩ | ⟨_, rest, tail, rfl⟩⟩
        · rw [((hanswer k _).mp answer).2] at short
          exact absurd short hfull
        · obtain ⟨hsent, rfl⟩ := (hanswer k _).mp answer
          obtain ⟨hlater, rfl⟩ := (ih (by omega)).mp tail
          refine ⟨fun j hkj hj => ?_, rfl⟩
          rcases hkj.eq_or_lt with rfl | hlt
          · exact hsent
          · exact hlater j hlt hj
      · rintro ⟨hsent, rfl⟩
        have htail :
            Reads fetch size (k + 1) ((pagesFrom size listings (k + 1) (d + 1)).map item) :=
          (ih (by omega)).mpr ⟨fun j hkj hj => hsent j (by omega) hj, rfl⟩
        exact ⟨_, (hanswer k _).mpr ⟨hsent k (le_refl k) (by omega), rfl⟩,
          Or.inr ⟨hfull, _, htail, rfl⟩⟩

end Reader

-- ── Pages of listings ─────────────────────────────────────────────────────────────

section Pages

variable {ρ κ : Type} [LinearOrder κ] {key : ρ → κ} {rows l l' : List ρ} {size k m : Nat}
  {listings : Nat → List ρ}

theorem ahead_perm (h : l.Perm rows) (x : κ) : ahead key rows x = ahead key l x :=
  (h.countP_eq _).symm

theorem upTo_perm (h : l.Perm rows) (x : κ) : upTo key rows x = upTo key l x :=
  (h.countP_eq _).symm

/-- A row behind the first `m` has no greater key than one of them. -/
theorem Listing.key_le (h : Listing key rows l) {a b : ρ} (ha : a ∈ l.take m) (hb : b ∈ l.drop m) :
    key b ≤ key a := by
  have hsorted := h.sorted
  rw [← List.take_append_drop m l, List.pairwise_append] at hsorted
  exact hsorted.2.2 a ha b hb

/-- Fewer than `m` rows are ahead of one of the first `m`. -/
theorem Listing.ahead_lt (h : Listing key rows l) {a : ρ} (ha : a ∈ l.take m) :
    ahead key rows (key a) < m := by
  have hbehind : (l.drop m).countP (fun y => key a < key y) = 0 := by
    rw [List.countP_eq_zero]
    intro b hb hlt
    exact absurd (of_decide_eq_true hlt) (not_lt.mpr (h.key_le ha hb))
  have hfirst : (l.take m).countP (fun y => key a < key y) < (l.take m).length := by
    refine lt_of_le_of_ne List.countP_le_length fun heq => ?_
    exact lt_irrefl _ (of_decide_eq_true (List.countP_eq_length.mp heq a ha))
  have hsum : ahead key rows (key a) = (l.take m).countP (fun y => key a < key y) +
      (l.drop m).countP (fun y => key a < key y) := by
    rw [ahead_perm h.perm, ahead, ← List.countP_append, List.take_append_drop]
  have hlength := List.length_take_le m l
  omega

/-- More than `m` rows are up to one behind the first `m`. -/
theorem Listing.lt_upTo (h : Listing key rows l) {b : ρ} (hb : b ∈ l.drop m) :
    m < upTo key rows (key b) := by
  have hfirst : (l.take m).countP (fun y => key b ≤ key y) = (l.take m).length :=
    List.countP_eq_length.mpr fun a ha => decide_eq_true (h.key_le ha hb)
  have hbehind : 0 < (l.drop m).countP (fun y => key b ≤ key y) :=
    List.countP_pos_iff.mpr ⟨b, hb, decide_eq_true (le_refl _)⟩
  have hsum : upTo key rows (key b) = (l.take m).countP (fun y => key b ≤ key y) +
      (l.drop m).countP (fun y => key b ≤ key y) := by
    rw [upTo_perm h.perm, upTo, ← List.countP_append, List.take_append_drop]
  have hlength : (l.take m).length = m := by
    have hpos := List.length_pos_of_mem hb
    rw [List.length_drop] at hpos
    rw [List.length_take]
    omega
  omega

/-- **Where no group is split, every listing begins with the same rows.** -/
theorem Listing.take_eq (h : Listing key rows l)
    (hm : ∀ x ∈ rows, m ≤ ahead key rows (key x) ∨ upTo key rows (key x) ≤ m) :
    l.take m = l.filter fun x => upTo key rows (key x) ≤ m := by
  have hfirst : ((l.take m).filter fun x => upTo key rows (key x) ≤ m) = l.take m := by
    refine List.filter_eq_self.mpr fun a ha => decide_eq_true ?_
    rcases hm a (h.perm.mem_iff.mp (List.mem_of_mem_take ha)) with hahead | hupTo
    · exact absurd (h.ahead_lt ha) (not_lt.mpr hahead)
    · exact hupTo
  have hbehind : ((l.drop m).filter fun x => upTo key rows (key x) ≤ m) = [] := by
    refine List.filter_eq_nil_iff.mpr fun b hb hle => ?_
    exact absurd (h.lt_upTo hb) (not_lt.mpr (of_decide_eq_true hle))
  conv_rhs => rw [← List.take_append_drop m l, List.filter_append, hfirst, hbehind, List.append_nil]

/-- The first rows of two listings are the same but for their order. -/
theorem Listing.take_perm (h : Listing key rows l) (h' : Listing key rows l')
    (hm : ∀ x ∈ rows, m ≤ ahead key rows (key x) ∨ upTo key rows (key x) ≤ m) :
    (l.take m).Perm (l'.take m) := by
  rw [h.take_eq hm, h'.take_eq hm]
  exact (h.perm.trans h'.perm.symm).filter _

theorem take_pageAt (l : List ρ) : l.take (k * size) ++ pageAt size k l =
    l.take ((k + 1) * size) := by
  rw [pageAt, Nat.add_mul, Nat.one_mul, List.take_add]

/-- **The pages put together are the rows**, as far as they go. -/
theorem pagesFrom_perm (hunsplit : Unsplit key rows size) (h : Listing key rows l)
    (hlistings : ∀ j, Listing key rows (listings j)) (count : Nat) :
    (l.take (k * size) ++ pagesFrom size listings k count).Perm (l.take ((k + count) * size)) := by
  induction count generalizing k with
  | zero => rw [pagesFrom, List.append_nil, Nat.add_zero]
  | succ count ih =>
      have hbegin :
          (l.take (k * size) ++ pageAt size k (listings k)).Perm (l.take ((k + 1) * size)) :=
        calc l.take (k * size) ++ pageAt size k (listings k)
          _ |>.Perm ((listings k).take (k * size) ++ pageAt size k (listings k)) :=
            (h.take_perm (hlistings k) fun x hx => hunsplit x hx k).append_right _
          _ |>.Perm ((listings k).take ((k + 1) * size)) := by rw [take_pageAt]
          _ |>.Perm (l.take ((k + 1) * size)) :=
            (hlistings k).take_perm h fun x hx => hunsplit x hx (k + 1)
      rw [pagesFrom, ← List.append_assoc]
      refine (hbegin.append_right _).trans ?_
      rw [show k + (count + 1) = k + 1 + count by omega]
      exact ih

/-- Two rows with one key may change places. -/
theorem Listing.swap {A B : List ρ} {a b : ρ} (h : Listing key rows (A ++ a :: b :: B))
    (hkey : key a ≤ key b) : Listing key rows (A ++ b :: a :: B) := by
  refine ⟨(List.Perm.append_left A (.swap a b B)).trans h.perm, ?_⟩
  have hsorted := h.sorted
  rw [List.pairwise_append, List.pairwise_cons, List.pairwise_cons] at hsorted ⊢
  obtain ⟨hA, ⟨ha, hb, hB⟩, hcross⟩ := hsorted
  refine ⟨hA, ⟨?_, fun c hc => ha c (List.mem_cons_of_mem _ hc), hB⟩, fun c hc d hd => ?_⟩
  · intro c hc
    rcases List.mem_cons.mp hc with rfl | hc
    · exact hkey
    · exact hb c hc
  · refine hcross c hc d ?_
    rcases List.mem_cons.mp hd with rfl | hd
    · exact List.mem_cons_of_mem _ (List.mem_cons_self ..)
    · rcases List.mem_cons.mp hd with rfl | hd
      · exact List.mem_cons_self ..
      · exact List.mem_cons_of_mem _ (List.mem_cons_of_mem _ hd)

/-- As many rows as are ahead of `x` come first. -/
theorem Listing.le_of_ahead {A B : List ρ} {a : ρ} {x : κ} (h : Listing key rows (A ++ a :: B))
    (hahead : ahead key rows x ≤ A.length) : key a ≤ x := by
  by_contra hlt
  have hfirst : A.countP (fun y => x < key y) = A.length := by
    refine List.countP_eq_length.mpr fun c hc => decide_eq_true ?_
    have hsorted := (List.pairwise_append.mp h.sorted).2.2 c hc a (List.mem_cons_self ..)
    exact lt_of_lt_of_le (not_le.mp hlt) hsorted
  have hrest : 0 < (a :: B).countP (fun y => x < key y) :=
    List.countP_pos_iff.mpr ⟨a, List.mem_cons_self .., decide_eq_true (not_le.mp hlt)⟩
  rw [ahead_perm h.perm, ahead, List.countP_append] at hahead
  omega

/-- The rows from `x` on do not reach behind as many as are up to it. -/
theorem Listing.le_of_upTo {A B : List ρ} {b : ρ} {x : κ} (h : Listing key rows (A ++ b :: B))
    (hupTo : A.length < upTo key rows x) : x ≤ key b := by
  by_contra hlt
  have hrest : (b :: B).countP (fun y => x ≤ key y) = 0 := by
    refine List.countP_eq_zero.mpr fun c hc hle => ?_
    have hcb : key c ≤ key b := by
      rcases List.mem_cons.mp hc with rfl | hc
      · exact le_refl _
      · exact (List.pairwise_cons.mp (List.pairwise_append.mp h.sorted).2.1).1 c hc
    exact hlt ((of_decide_eq_true hle).trans hcb)
  have hfirst : A.countP (fun y => x ≤ key y) ≤ A.length := List.countP_le_length
  rw [upTo_perm h.perm, upTo, List.countP_append, hrest] at hupTo
  omega

/-- **Where a group is split, a row can be the last one of a page and the first one of the next.**
    -/
theorem Listing.exists_swapped (h : Listing key rows l) {x : κ} (hahead : ahead key rows x < m)
    (hupTo : m < upTo key rows x) :
    ∃ a l', Listing key rows l' ∧ l[m - 1]? = some a ∧ l'[m]? = some a := by
  have hlength : m < l.length := by
    rw [h.perm.length_eq]
    exact lt_of_lt_of_le hupTo List.countP_le_length
  obtain ⟨n, rfl⟩ : ∃ n, m = n + 1 := ⟨m - 1, by omega⟩
  obtain ⟨A, a, b, B, rfl, rfl⟩ : ∃ A a b B, l = A ++ a :: b :: B ∧ A.length = n := by
    refine ⟨l.take n, l[n], l[n + 1], l.drop (n + 2), ?_, by rw [List.length_take]; omega⟩
    rw [← List.drop_eq_getElem_cons, ← List.drop_eq_getElem_cons, List.take_append_drop]
  have hab : key a ≤ key b := (h.le_of_ahead (x := x) (by omega)).trans
    (Listing.le_of_upTo (A := A ++ [a]) (B := B) (by rw [List.append_assoc]; exact h)
      (by rw [List.length_append]; exact hupTo))
  refine ⟨a, A ++ b :: a :: B, h.swap hab, ?_, ?_⟩
  · rw [Nat.add_sub_cancel, List.getElem?_append_right (le_refl _), Nat.sub_self]
    rfl
  · rw [List.getElem?_append_right (Nat.le_succ _), show A.length + 1 - A.length = 1 by omega]
    rfl

/-- The pages from a later one on are the end of the pages. -/
theorem pagesFrom_suffix (j count : Nat) :
    pagesFrom size listings (k + j) count <:+ pagesFrom size listings k (j + count) := by
  induction j generalizing k with
  | zero => rw [Nat.zero_add]; exact List.suffix_rfl
  | succ j ih =>
      rw [show k + (j + 1) = k + 1 + j by omega, show j + 1 + count = (j + count) + 1 by omega,
        pagesFrom]
      exact ih.trans (List.suffix_append _ _)

/-- A row on two pages is twice among the rows read. -/
theorem not_nodup_pagesFrom {a : ρ} (hfirst : a ∈ pageAt size k (listings k))
    (hsecond : a ∈ pageAt size (k + 1) (listings (k + 1))) (count : Nat) :
    ¬ (pagesFrom size listings 0 (k + (count + 2))).Nodup := by
  intro h
  have hnodup := h.sublist (pagesFrom_suffix (k := 0) k (count + 2)).sublist
  rw [Nat.zero_add, pagesFrom, pagesFrom, List.nodup_append] at hnodup
  exact hnodup.2.2 a hfirst a (List.mem_append_left _ hsecond) rfl

/-- **Where a group is split, a reader can get a row twice.** -/
theorem pagesFrom_repeats (hsize : 1 ≤ size) (h : Listing key rows l)
    (hsplit : ¬ Unsplit key rows size) :
    ∃ listings : Nat → List ρ, (∀ j, Listing key rows (listings j)) ∧
      ¬ (pagesFrom size listings 0 (rows.length / size + 1)).Nodup := by
  obtain ⟨x, hx, k, hk⟩ : ∃ x ∈ rows, ∃ k,
      ¬ (k * size ≤ ahead key rows (key x) ∨ upTo key rows (key x) ≤ k * size) := by
    by_contra hnone
    exact hsplit fun x hx k => by_contra fun hk => hnone ⟨x, hx, k, hk⟩
  obtain ⟨hahead, hupTo⟩ := not_or.mp hk
  obtain ⟨a, l', hl', hfirst, hsecond⟩ :=
    h.exists_swapped (not_le.mp hahead) (not_le.mp hupTo)
  obtain ⟨j, rfl⟩ : ∃ j, k = j + 1 := by
    refine ⟨k - 1, (Nat.succ_pred_eq_of_pos (Nat.pos_of_ne_zero ?_)).symm⟩
    rintro rfl
    exact hahead (by rw [Nat.zero_mul]; exact Nat.zero_le _)
  have hlast : j + 1 ≤ rows.length / size := by
    rw [Nat.le_div_iff_mul_le hsize]
    exact (not_le.mp hupTo).le.trans List.countP_le_length
  have hne : j ≠ j + 1 := Nat.ne_of_lt (Nat.lt_succ_self j)
  refine ⟨fun i => if i = j + 1 then l' else l, fun i => ?_, ?_⟩
  · dsimp only
    split
    · exact hl'
    · exact h
  · rw [show rows.length / size + 1 = j + (rows.length / size - (j + 1) + 2) by omega]
    refine not_nodup_pagesFrom (a := a) ?_ ?_ _
    · rw [if_neg hne]
      refine List.mem_of_getElem? (i := size - 1) ?_
      rw [pageAt_getElem? (by omega), ← hfirst]
      congr 1
      rw [Nat.add_mul]
      omega
    · rw [if_pos rfl]
      refine List.mem_of_getElem? (i := 0) ?_
      rw [pageAt_getElem? hsize]
      exact hsecond

/-- The rows up to a key are those ahead of it and those that have it. -/
theorem upTo_eq (key : ρ → κ) (rows : List ρ) (x : κ) :
    upTo key rows x = ahead key rows x + (rows.map key).count x := by
  induction rows with
  | nil => rfl
  | cons y rows ih =>
      rw [upTo, ahead, List.countP_cons, List.countP_cons, List.map_cons, List.count_cons]
      rw [upTo, ahead] at ih
      rcases lt_trichotomy x (key y) with hlt | rfl | hgt
      · simp only [hlt, hlt.le, hlt.ne', decide_true, beq_iff_eq, if_true, if_false, ih]
        omega
      · simp only [le_refl, lt_irrefl, decide_true, decide_false, beq_self_eq_true, if_true,
          Bool.false_eq_true, if_false, ih]
        omega
      · simp only [not_le.mpr hgt, not_lt.mpr hgt.le, hgt.ne, decide_false, beq_iff_eq,
          Bool.false_eq_true, if_false, ih]
        omega

/-- Rows with distinct keys can be read in pages of any size. -/
theorem unsplit_of_distinct (hkeys : (rows.map key).Nodup) : Unsplit key rows size := by
  intro x hx k
  have hcount := List.nodup_iff_count_le_one.mp hkeys (key x)
  rw [upTo_eq]
  omega

end Pages

-- ── Readers and rows ──────────────────────────────────────────────────────────────

/-- **Paging is exact exactly if no group is split.** If the queries answer with the pages of
    listings of the rows, a reader gets every row once, whatever the listings, exactly if all its
    queries are sent and no page begins between two rows with one key. -/
theorem reads_all_iff {ρ κ β ε : Type} [LinearOrder κ] {key : ρ → κ} {rows : List ρ} {size : Nat}
    {item : ρ → β} {sent : Nat → Prop} [DecidablePred sent] {e : ε}
    {fetch : (Nat → List ρ) → Nat → Nat → Except ε (List β)} (hsize : 1 ≤ size)
    (hitems : (rows.map item).Nodup) (hsome : ∃ l, Listing key rows l)
    (hfetch : ∀ listings j, fetch listings j (j * size) =
      if sent j then .ok ((pageAt size j (listings j)).map item) else .error e) :
    (∀ listings, (∀ j, Listing key rows (listings j)) →
        ∃ out, Reads (fetch listings) size 0 out ∧ out.Perm (rows.map item)) ↔
      (∀ j ≤ rows.length / size, sent j) ∧ Unsplit key rows size := by
  have hreads : ∀ {listings out}, (∀ j, Listing key rows (listings j)) →
      (Reads (fetch listings) size 0 out ↔ (∀ j, 0 ≤ j → j ≤ rows.length / size → sent j) ∧
        out = (pagesFrom size listings 0 (rows.length / size + 1)).map item) :=
    fun hlistings => reads_iff_from hsize (fun j => (hlistings j).perm.length_eq) (hfetch _) _
      (Nat.zero_add _)
  obtain ⟨l, hl⟩ := hsome
  constructor
  · intro h
    constructor
    · obtain ⟨out, hout, _⟩ := h (fun _ => l) fun _ => hl
      exact fun j hj => ((hreads fun _ => hl).mp hout).1 j (Nat.zero_le j) hj
    · by_contra hsplit
      obtain ⟨listings, hlistings, hrepeat⟩ := pagesFrom_repeats hsize hl hsplit
      obtain ⟨out, hout, hperm⟩ := h listings hlistings
      rw [((hreads hlistings).mp hout).2] at hperm
      exact hrepeat (hperm.nodup_iff.mpr hitems).of_map
  · rintro ⟨hsent, hunsplit⟩ listings hlistings
    refine ⟨_, (hreads hlistings).mpr ⟨fun j _ hj => hsent j hj, rfl⟩, ?_⟩
    have hpages := pagesFrom_perm (k := 0) hunsplit hl hlistings (rows.length / size + 1)
    have hend : rows.length ≤ (0 + (rows.length / size + 1)) * size := by
      have hmod := Nat.mod_lt rows.length hsize
      have hdiv := Nat.div_add_mod' rows.length size
      rw [Nat.zero_add, Nat.add_mul, Nat.one_mul]
      omega
    rw [Nat.zero_mul, List.take_zero, List.nil_append,
      List.take_of_length_le (hl.perm.length_eq ▸ hend)] at hpages
    exact (hpages.trans hl.perm).map item

end PagedRead
