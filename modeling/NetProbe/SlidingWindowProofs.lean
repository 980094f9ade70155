import Mathlib.Algebra.Order.Group.Defs
import Mathlib.Algebra.Order.Group.Unbundled.Basic
import Mathlib.Algebra.Order.Monoid.Defs
import Mathlib.Data.List.Basic
import Mathlib.Order.Basic

/-!
# Sliding windows

A limiter that keeps the times of what it has admitted in a queue.  Before it answers it
drops times from the head of the queue, as long as they lie strictly more than `span` back;
it admits while fewer than `limit` times are left.

Times form any ordered group.  `Tracks` links the queue with all the times admitted so far:
at every later time, dropping from the head leaves exactly the times of the closed interval
that ends there.  One arrival keeps it (`Tracks.arrive`), hence a run does, and from it
follow the bound on every closed interval (`window_bound`) and the exact condition of a
refusal (`refused_iff`).
-/

namespace SlidingWindow

variable {α : Type} [AddCommGroup α] [LinearOrder α]

/-- The queue at `now`: the head is dropped as long as it is out of date. -/
def current (span now : α) (queue : List α) : List α :=
  queue.dropWhile fun hit => decide (hit < now - span)

/-- One arrival: the answer, and the queue after it. -/
def arrive (limit : Int) (span : α) (queue : List α) (now : α) : Bool × List α :=
  if limit ≤ (current span now queue).length then (false, current span now queue)
  else (true, current span now queue ++ [now])

/-- Arrivals in order: the answers, and the queue after them. -/
def arrivals (limit : Int) (span : α) : List α → List α → List Bool × List α
  | queue, [] => ([], queue)
  | queue, now :: times =>
      let step := arrive limit span queue now
      let rest := arrivals limit span step.2 times
      (step.1 :: rest.1, rest.2)

/-- The times of the arrivals that are admitted. -/
def admitted (limit : Int) (span : α) : List α → List α → List α
  | _, [] => []
  | queue, now :: times =>
      let rest := admitted limit span (arrive limit span queue now).2 times
      if (arrive limit span queue now).1 then now :: rest else rest

/-- A time of the closed interval of length `span` that ends at `t`. -/
def within (span t hit : α) : Bool := decide (t - span ≤ hit ∧ hit ≤ t)

-- ── The queue and what was admitted ───────────────────────────────────────────────

/-- In an ordered queue, dropping the head as long as it lies below a bound leaves what does
    not lie below it. -/
theorem dropWhile_lt_eq_filter {β : Type} [LinearOrder β] {queue : List β}
    (h : queue.Pairwise (· ≤ ·)) (bound : β) :
    queue.dropWhile (fun hit => decide (hit < bound)) =
      queue.filter fun hit => decide (bound ≤ hit) := by
  induction queue with
  | nil => rfl
  | cons hit rest ih =>
      obtain ⟨hhit, hrest⟩ := List.pairwise_cons.mp h
      by_cases hlt : hit < bound
      · rw [List.dropWhile_cons_of_pos (by simpa using hlt),
          List.filter_cons_of_neg (by simpa using hlt), ih hrest]
      · rw [List.dropWhile_cons_of_neg (by simpa using hlt), List.filter_eq_self.mpr]
        intro x hx
        rw [decide_eq_true_eq]
        rcases List.mem_cons.mp hx with rfl | hx
        · exact not_lt.mp hlt
        · exact (not_lt.mp hlt).trans (hhit x hx)

/-- The queue holds what it must of the times admitted so far, the latest arrival being at
    `latest`: no closed interval has more than `limit` of them. -/
structure Tracks (limit : Int) (span latest : α) (past queue : List α) : Prop where
  ordered : queue.Pairwise (· ≤ ·)
  past_le : ∀ hit ∈ past, hit ≤ latest
  queue_le : ∀ hit ∈ queue, hit ≤ latest
  recent : ∀ now, latest ≤ now →
    queue.filter (fun hit => decide (now - span ≤ hit)) =
      past.filter fun hit => decide (now - span ≤ hit)
  bound : ∀ t, ((past.filter (within span t)).length : Int) ≤ limit

namespace Tracks

variable {limit : Int} {span latest now : α} {past queue : List α}

theorem start (latest : α) (hlimit : 0 ≤ limit) : Tracks limit span latest [] [] where
  ordered := List.Pairwise.nil
  past_le := fun _ h => absurd h List.not_mem_nil
  queue_le := fun _ h => absurd h List.not_mem_nil
  recent := fun _ _ => rfl
  bound := fun _ => hlimit

theorem later (h : Tracks limit span latest past queue) (hle : latest ≤ now) :
    Tracks limit span now past queue where
  ordered := h.ordered
  past_le := fun hit hmem => (h.past_le hit hmem).trans hle
  queue_le := fun hit hmem => (h.queue_le hit hmem).trans hle
  recent := fun t ht => h.recent t (hle.trans ht)
  bound := h.bound

/-- The queue at `now` is what was admitted in the closed interval that ends there. -/
theorem current_eq (h : Tracks limit span latest past queue) (hle : latest ≤ now) :
    current span now queue = past.filter (within span now) := by
  rw [current, dropWhile_lt_eq_filter h.ordered, h.recent now hle]
  apply List.filter_congr
  intro hit hmem
  rw [within, decide_eq_decide]
  exact ⟨fun hfrom => ⟨hfrom, (h.past_le hit hmem).trans hle⟩, fun hin => hin.1⟩

variable [IsOrderedAddMonoid α]

/-- An interval that ends at or after `now` has no more than the one that ends at `now`, of
    what was admitted before. -/
theorem within_le (hlt : ((past.filter (within span now)).length : Int) < limit)
    (h : ∀ hit ∈ past, hit ≤ now) {t : α} (ht : now ≤ t) :
    ((past.filter (within span t)).length : Int) < limit := by
  have hsub : (past.filter (within span t)).length ≤ (past.filter (within span now)).length := by
    rw [← List.countP_eq_length_filter, ← List.countP_eq_length_filter]
    apply List.countP_mono_left
    intro hit hmem hin
    rw [within, decide_eq_true_eq] at hin ⊢
    exact ⟨(sub_le_sub_right ht span).trans hin.1, h hit hmem⟩
  exact lt_of_le_of_lt (Int.ofNat_le.mpr hsub) hlt

/-- Filtering after filtering at an earlier time changes nothing. -/
theorem filter_current (hle : now ≤ latest) :
    (queue.filter fun hit => decide (now - span ≤ hit)).filter
        (fun hit => decide (latest - span ≤ hit)) =
      queue.filter fun hit => decide (latest - span ≤ hit) := by
  rw [List.filter_filter]
  apply List.filter_congr
  intro hit _
  rw [Bool.and_eq_left_iff_imp, decide_eq_true_eq, decide_eq_true_eq]
  exact fun hfrom => (sub_le_sub_right hle span).trans hfrom

/-- **One arrival**: the queue keeps track of what is admitted. -/
theorem arrive (h : Tracks limit span latest past queue) (hle : latest ≤ now) :
    Tracks limit span now
      (if (arrive limit span queue now).1 then past ++ [now] else past)
      (arrive limit span queue now).2 := by
  have hcurrent := h.current_eq hle
  have hordered : (current span now queue).Pairwise (· ≤ ·) :=
    h.ordered.sublist (List.dropWhile_sublist _)
  have hqueue : ∀ hit ∈ current span now queue, hit ≤ now := fun hit hmem =>
    (h.queue_le hit ((List.dropWhile_sublist _).subset hmem)).trans hle
  have hrecent : ∀ t, now ≤ t →
      (current span now queue).filter (fun hit => decide (t - span ≤ hit)) =
        past.filter fun hit => decide (t - span ≤ hit) := by
    intro t ht
    rw [current, dropWhile_lt_eq_filter h.ordered, filter_current ht, h.recent t (hle.trans ht)]
  rw [SlidingWindow.arrive]
  by_cases hfull : limit ≤ (current span now queue).length
  · rw [if_pos hfull, if_neg (by simp)]
    exact ⟨hordered, fun hit hmem => (h.past_le hit hmem).trans hle, hqueue, hrecent, h.bound⟩
  · rw [if_neg hfull, if_pos rfl]
    refine ⟨?_, ?_, ?_, ?_, ?_⟩
    · rw [List.pairwise_append]
      refine ⟨hordered, List.pairwise_singleton _ _, ?_⟩
      intro hit hmem last hlast
      rw [List.mem_singleton.mp hlast]
      exact hqueue hit hmem
    · intro hit hmem
      rcases List.mem_append.mp hmem with hmem | hmem
      · exact (h.past_le hit hmem).trans hle
      · exact (List.mem_singleton.mp hmem).le
    · intro hit hmem
      rcases List.mem_append.mp hmem with hmem | hmem
      · exact hqueue hit hmem
      · exact (List.mem_singleton.mp hmem).le
    · intro t ht
      rw [List.filter_append, List.filter_append, hrecent t ht]
    · intro t
      rw [List.filter_append, List.length_append]
      by_cases hin : within span t now = true
      · -- The new time counts at `t`: what counts there besides it counted at `now`.
        have hroom : ((past.filter (within span now)).length : Int) < limit := by
          rw [← hcurrent]
          exact Int.not_le.mp hfull
        have hle' : now ≤ t := by
          rw [within, decide_eq_true_eq] at hin
          exact hin.2
        have hlt := within_le hroom (fun hit hmem => (h.past_le hit hmem).trans hle) hle'
        rw [List.filter_cons_of_pos hin, List.filter_nil, List.length_singleton]
        omega
      · rw [List.filter_cons_of_neg hin, List.filter_nil, List.length_nil]
        exact h.bound t

/-- **A run**: arrivals in the order of their times. -/
theorem arrivals (h : Tracks limit span latest past queue) {times : List α}
    (hordered : times.Pairwise (· ≤ ·)) (hfrom : ∀ t ∈ times, latest ≤ t)
    (hle : latest ≤ now) (hto : ∀ t ∈ times, t ≤ now) :
    Tracks limit span now (past ++ admitted limit span queue times)
      (arrivals limit span queue times).2 := by
  induction times generalizing latest past queue with
  | nil =>
      rw [admitted, List.append_nil]
      exact h.later hle
  | cons t times ih =>
      obtain ⟨hfirst, hrest⟩ := List.pairwise_cons.mp hordered
      have hstep := ih (h.arrive (hfrom t List.mem_cons_self)) hrest hfirst
        (hto t List.mem_cons_self) fun t' ht' => hto t' (List.mem_cons_of_mem _ ht')
      rw [admitted, SlidingWindow.arrivals]
      by_cases hok : (SlidingWindow.arrive limit span queue t).1 = true
      · rw [if_pos hok, List.append_assoc] at hstep
        rw [if_pos hok]
        exact hstep
      · rw [if_neg hok] at hstep
        rw [if_neg hok]
        exact hstep

end Tracks

-- ── The two results ───────────────────────────────────────────────────────────────

section Results

variable [IsOrderedAddMonoid α] {limit : Int} {span : α} {times : List α}

/-- From an empty queue, at the time of any arrival that is not earlier than the others. -/
theorem tracks_of_ordered (hlimit : 0 ≤ limit) (hordered : times.Pairwise (· ≤ ·)) {now : α}
    (hto : ∀ t ∈ times, t ≤ now) :
    Tracks limit span now (admitted limit span [] times) (arrivals limit span [] times).2 := by
  cases times with
  | nil => exact Tracks.start now hlimit
  | cons first rest =>
      have hfrom : ∀ t ∈ first :: rest, first ≤ t := by
        intro t ht
        rcases List.mem_cons.mp ht with rfl | ht
        · exact le_rfl
        · exact (List.pairwise_cons.mp hordered).1 t ht
      exact (Tracks.start first hlimit).arrivals hordered hfrom (hto first List.mem_cons_self) hto

/-- **Every closed interval of length `span` has at most `limit` admitted arrivals.** -/
theorem window_bound (hlimit : 0 ≤ limit) (hordered : times.Pairwise (· ≤ ·)) (t : α) :
    (((admitted limit span [] times).filter (within span t)).length : Int) ≤ limit := by
  rcases times.eq_nil_or_concat with rfl | ⟨before, last, rfl⟩
  · exact hlimit
  · rw [List.concat_eq_append] at hordered ⊢
    have hto : ∀ t' ∈ before ++ [last], t' ≤ last := by
      intro t' ht'
      rcases List.mem_append.mp ht' with ht' | ht'
      · exact (List.pairwise_append.mp hordered).2.2 t' ht' last (List.mem_singleton_self _)
      · exact (List.mem_singleton.mp ht').le
    exact (tracks_of_ordered hlimit hordered hto).bound t

/-- **An arrival is refused iff the closed interval that ends there is full.** -/
theorem refused_iff (hlimit : 0 ≤ limit) (hordered : times.Pairwise (· ≤ ·)) {now : α}
    (hto : ∀ t ∈ times, t ≤ now) :
    (arrive limit span (arrivals limit span [] times).2 now).1 = false ↔
      limit ≤ ((admitted limit span [] times).filter (within span now)).length := by
  rw [← (tracks_of_ordered hlimit hordered hto).current_eq le_rfl]
  rw [arrive]
  by_cases hfull : limit ≤ (current span now (arrivals limit span [] times).2).length
  · rw [if_pos hfull]
    exact ⟨fun _ => hfull, fun _ => rfl⟩
  · rw [if_neg hfull]
    exact ⟨fun h => absurd h Bool.noConfusion, fun h => absurd h hfull⟩

end Results

end SlidingWindow
