import Mathlib.Algebra.Order.Monoid.Unbundled.Basic
import Mathlib.Algebra.NeZero
import Mathlib.Algebra.GroupWithZero.Nat
import NetProbe.RunProofs

/-!
# A guard that counts failures and locks

A secret is guarded by a counter: the `K`-th failure in a row locks the guard for a period
`L`, a success sets the counter back, and a lock that has run out counts as no failure at
all.  Times are any linear order with an addition that respects it.

`window_le` is the law such a guard is there for: in a run without a success, with times that
do not decrease, every half-open window of length `L` holds at most `K` failures, wherever
the window lies and whatever lock periods it cuts.  The invariant (`Covers`) says of each
window how its failures relate to the guard: they are among those the guard counts, or the
window is over.
-/

namespace Lockout

open LabelledRun

variable {T : Type} {K : Nat}

/-- What the guard remembers: fewer than `K` failures, or a lock with the time it runs out. -/
inductive Guard (K : Nat) (T : Type) where
  | counting (failures : Fin K)
  | shut (expiry : T)

/-- How an attempt ends: the secret was wrong, it was right, or it was not looked at. -/
inductive Outcome where
  | idle
  | wrong
  | right
  deriving DecidableEq, Repr

section Guard

variable [LinearOrder T] [Add T]

/-- The failures that count at `now`, if the guard is not shut then. -/
def Guard.failures (now : T) : Guard K T → Option Nat
  | .counting n => some n
  | .shut expiry => if expiry ≤ now then some 0 else none

/-- The guard after one failure more than `n`. -/
def Guard.fail (L now : T) (n : Nat) : Guard K T :=
  if h : n + 1 < K then .counting ⟨n + 1, h⟩ else .shut (now + L)

/-- One attempt at a time, with its outcome. -/
inductive Attempt [NeZero K] (L : T) : Guard K T → T × Outcome → Guard K T → Prop where
  | idle (g : Guard K T) (now : T) : Attempt L g (now, .idle) g
  | wrong {g : Guard K T} {now : T} {n : Nat} (h : g.failures now = some n) :
      Attempt L g (now, .wrong) (.fail L now n)
  | right {g : Guard K T} {now : T} {n : Nat} (h : g.failures now = some n) :
      Attempt L g (now, .right) (.counting 0)

/-- The failures in the window of length `L` that starts at `t`. -/
def wrongsIn (L t : T) (ls : List (T × Outcome)) : Nat :=
  ls.countP fun l => l.2 = .wrong ∧ t ≤ l.1 ∧ l.1 < t + L

/-- The times of a run do not decrease. -/
def InOrder (ls : List (T × Outcome)) : Prop := ls.Pairwise fun l m => l.1 ≤ m.1

/-- The failures of the window at `t` are among those the guard counts, or the window ends
    before the guard opens again, or it is over. -/
def Guard.Covers (L t : T) (ls : List (T × Outcome)) : Guard K T → Prop
  | .counting n => wrongsIn L t ls ≤ n ∨ ∃ l ∈ ls, t + L ≤ l.1
  | .shut expiry => wrongsIn L t ls = 0 ∨ t + L ≤ expiry

end Guard

-- ── Windows ───────────────────────────────────────────────────────────────────────

section Windows

variable [LinearOrder T] {L t now : T} {ls : List (T × Outcome)} {g : Guard K T} {n : Nat}

theorem failures_shut {expiry : T} :
    (Guard.shut expiry : Guard K T).failures now = some n ↔ expiry ≤ now ∧ n = 0 := by
  unfold Guard.failures
  dsimp only
  by_cases h : expiry ≤ now
  · simp [h, eq_comm]
  · simp [h]

theorem InOrder.init {l : T × Outcome} (h : InOrder (ls ++ [l])) : InOrder ls :=
  (List.pairwise_append.mp h).1

/-- The last attempt of a run is the latest. -/
theorem InOrder.le_last {l m : T × Outcome} (h : InOrder (ls ++ [l])) (hm : m ∈ ls) : m.1 ≤ l.1 :=
  (List.pairwise_append.mp h).2.2 m hm l (List.mem_singleton.mpr rfl)

variable [Add T]

theorem wrongsIn_idle : wrongsIn L t (ls ++ [(now, .idle)]) = wrongsIn L t ls := by
  unfold wrongsIn
  rw [List.countP_append, List.countP_singleton]
  simp

/-- A failure inside the window counts. -/
theorem wrongsIn_inside (h : t ≤ now ∧ now < t + L) :
    wrongsIn L t (ls ++ [(now, .wrong)]) = wrongsIn L t ls + 1 := by
  unfold wrongsIn
  rw [List.countP_append, List.countP_singleton]
  simp [h.1, h.2]

theorem wrongsIn_outside (h : ¬ (t ≤ now ∧ now < t + L)) :
    wrongsIn L t (ls ++ [(now, .wrong)]) = wrongsIn L t ls := by
  rw [wrongsIn]
  rw [List.countP_append, List.countP_singleton, if_neg (by simpa using h)]
  rfl

/-- A window that starts after all attempts is empty. -/
theorem wrongsIn_of_lt (h : ∀ l ∈ ls, l.1 < t) : wrongsIn L t ls = 0 := by
  refine List.countP_eq_zero.mpr fun l hl hcount => ?_
  simp only [decide_eq_true_eq] at hcount
  exact absurd (h l hl) (not_lt.mpr hcount.2.1)

/-- When the guard is not shut, the failures of the window are among those that count, or the
    window is over. -/
theorem Guard.Covers.failures (hcovers : g.Covers L t ls) (h : g.failures now = some n)
    (hlast : ∀ l ∈ ls, l.1 ≤ now) : wrongsIn L t ls ≤ n ∨ t + L ≤ now := by
  cases g with
  | counting m =>
      obtain rfl : (m : Nat) = n := Option.some.inj h
      rcases hcovers with hle | ⟨l, hl, hover⟩
      · exact Or.inl hle
      · exact Or.inr (hover.trans (hlast l hl))
  | shut expiry =>
      obtain ⟨hexpired, rfl⟩ := failures_shut.mp h
      rcases hcovers with hzero | hover
      · exact Or.inl hzero.le
      · exact Or.inr (hover.trans hexpired)

/-- The guard after a failure covers a window, if the failures of the window are at most one
    more than those that counted, and there are none unless it has started. -/
theorem covers_fail [AddRightMono T]
    (hle : wrongsIn L t (ls ++ [(now, .wrong)]) ≤ n + 1 ∨ t + L ≤ now)
    (hstarted : wrongsIn L t (ls ++ [(now, .wrong)]) = 0 ∨ t ≤ now) :
    (Guard.fail (K := K) L now n).Covers L t (ls ++ [(now, .wrong)]) := by
  rw [Guard.fail]
  split
  · rcases hle with hle | hover
    · exact Or.inl hle
    · exact Or.inr ⟨_, List.mem_append_right _ (List.mem_singleton.mpr rfl), hover⟩
  · rcases hstarted with hzero | hstarted
    · exact Or.inl hzero
    · exact Or.inr (add_le_add_left hstarted L)

/-- The invariant: no window holds more than `K` failures, and the guard covers each. -/
structure Bounded (L : T) (ls : List (T × Outcome)) (g : Guard K T) : Prop where
  le : ∀ t, wrongsIn L t ls ≤ K
  covers : ∀ t, g.Covers L t ls

theorem bounded_nil (g : Guard K T) : Bounded L [] g where
  le := fun _ => Nat.zero_le K
  covers := by
    intro t
    cases g with
    | counting n => exact Or.inl (Nat.zero_le n)
    | shut expiry => exact Or.inl rfl

end Windows

-- ── The law ───────────────────────────────────────────────────────────────────────

section Law

variable [LinearOrder T] [NeZero K] {L t now : T} {ls : List (T × Outcome)}
  {g g' : Guard K T} {l : T × Outcome} {n : Nat}

theorem failures_lt (h : g.failures now = some n) : n < K := by
  cases g with
  | counting m =>
      obtain rfl : (m : Nat) = n := Option.some.inj h
      exact m.isLt
  | shut expiry =>
      obtain ⟨-, rfl⟩ := failures_shut.mp h
      exact Nat.pos_of_neZero K

variable [Add T] [AddRightMono T]

/-- **The step lemma.** -/
theorem Bounded.step (h : Bounded L ls g) (hstep : Attempt L g l g') (horder : InOrder (ls ++ [l]))
    (hright : l.2 ≠ .right) : Bounded L (ls ++ [l]) g' := by
  cases hstep with
  | idle now =>
      refine ⟨fun t => ?_, fun t => ?_⟩
      · rw [wrongsIn_idle]
        exact h.le t
      · have hcovers := h.covers t
        unfold Guard.Covers at hcovers ⊢
        rw [wrongsIn_idle]
        split
        · exact hcovers.imp_right fun ⟨m, hm, hover⟩ => ⟨m, List.mem_append_left _ hm, hover⟩
        · exact hcovers
  | right hn => exact absurd rfl hright
  | @wrong now n hn =>
      have hlast : ∀ m ∈ ls, m.1 ≤ now := fun m hm => horder.le_last hm
      have hlt := failures_lt hn
      refine ⟨fun t => ?_, fun t => ?_⟩
      · by_cases hwindow : t ≤ now ∧ now < t + L
        · rw [wrongsIn_inside hwindow]
          rcases (h.covers t).failures hn hlast with hle | hover
          · omega
          · exact absurd hwindow.2 (not_lt.mpr hover)
        · rw [wrongsIn_outside hwindow]
          exact h.le t
      · by_cases hwindow : t ≤ now ∧ now < t + L
        · refine covers_fail ?_ (Or.inr hwindow.1)
          rw [wrongsIn_inside hwindow]
          exact ((h.covers t).failures hn hlast).imp_left Nat.succ_le_succ
        · refine covers_fail ?_ ?_
          · rw [wrongsIn_outside hwindow]
            exact ((h.covers t).failures hn hlast).imp_left Nat.le_succ_of_le
          · rw [wrongsIn_outside hwindow]
            rcases le_or_gt t now with hstarted | hlater
            · exact Or.inr hstarted
            · exact Or.inl (wrongsIn_of_lt fun m hm => (hlast m hm).trans_lt hlater)

/-- **The law of the window.** Without a success, every half-open window of length `L` holds at
    most `K` failures. -/
theorem window_le (hrun : Run (Attempt L) g ls g') (horder : InOrder ls)
    (hright : ∀ l ∈ ls, l.2 ≠ .right) (t : T) : wrongsIn L t ls ≤ K := by
  refine (hrun.invariant_of_labels (I := fun ls g' => InOrder ls → (∀ l ∈ ls, l.2 ≠ .right) →
    Bounded L ls g') ?_ fun _ _ => bounded_nil g) horder hright |>.le t
  intro ls m l m' ih hstep horder hright
  have hbounded := ih horder.init fun l' hl' => hright l' (List.mem_append_left _ hl')
  exact hbounded.step hstep horder (hright l (List.mem_append_right _ (List.mem_singleton.mpr rfl)))

end Law

end Lockout
