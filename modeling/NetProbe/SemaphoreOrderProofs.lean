import Mathlib.Data.Nat.Find
import NetProbe.SemaphoreProofs

/-!
# The order of service of a semaphore

The tasks that wait for a permit form a queue: it grows at its end, it is served at its front,
and a task that is cancelled leaves it (`queue_step`).  So while a task waits no task that came
after it has a permit (`no_overtaking`), and no more tasks leave the body than were ahead of it
(`bounded_waiting`).  In an endless run in which the loop runs what can run and every body ends,
a task that is not cancelled gets in (`admitted_at_last`): its place in the queue does not grow,
and at a place where it stayed for ever the permits would all be free.
-/

namespace AsyncSemaphore

open LabelledRun

-- ── First come, first served ──────────────────────────────────────────────────────

/-- The tasks that wait for a permit, in the order in which they came. -/
def queue {τ : Type} (s : Semaphore τ) : List τ :=
  (s.waiters.filter fun w => w.2 = .pending).map Prod.fst

section Order

variable {τ : Type} {s s' : State τ} {act : Act τ} {acts : List (Act τ)} {t u : τ} {limit : Int}
  {sem : Semaphore τ} {a b : List (τ × Future)} {f : Future}

theorem mem_queue : t ∈ queue sem ↔ (t, .pending) ∈ sem.waiters := by
  simp [queue]

theorem queue_sublist : (queue sem).Sublist (sem.waiters.map Prod.fst) :=
  List.filter_sublist.map _

theorem Sound.nodup_queue (hs : Sound limit s) : (queue s.semaphore).Nodup :=
  queue_sublist.nodup hs.fair.queue.distinct

/-- A permit is handed to the first of the queue. -/
theorem queue_wakeUpNext : queue sem.wakeUpNext = (queue sem).tail := by
  rw [Semaphore.wakeUpNext]
  cases hwake : wakeFirst sem.waiters with
  | none =>
      have hnone : sem.waiters.filter (fun w => w.2 = .pending) = [] :=
        List.filter_eq_nil_iff.mpr fun w hw => by simpa using wakeFirst_none hwake w hw
      show queue sem = _
      rw [queue, hnone]
      rfl
  | some ws =>
      obtain ⟨a, t, b, hws, ha, rfl⟩ := wakeFirst_some hwake
      have hnone : a.filter (fun w => w.2 = .pending) = [] :=
        List.filter_eq_nil_iff.mpr fun w hw => by simpa using ha w hw
      rw [queue, queue, hws, List.filter_append, List.filter_append, hnone]
      rfl

theorem queue_release : queue sem.release = (queue sem).tail :=
  queue_wakeUpNext

theorem queue_enqueue :
    queue { sem with waiters := sem.waiters ++ [(t, .pending)] } = queue sem ++ [t] := by
  rw [queue, queue, List.filter_append, List.map_append]
  rfl

theorem idxOf_filter_le {α : Type} [DecidableEq α] {q : List α} {x : α} {p : α → Bool}
    (hx : p x = true) :
    (q.filter p).idxOf x ≤ q.idxOf x := by
  induction q with
  | nil => exact Nat.le_refl _
  | cons y q ih =>
      rcases eq_or_ne y x with rfl | hyx
      · rw [List.filter_cons_of_pos hx, List.idxOf_cons_self]
        exact Nat.zero_le _
      · rw [List.idxOf_cons_ne q hyx]
        by_cases hy : p y = true
        · rw [List.filter_cons_of_pos hy, List.idxOf_cons_ne _ hyx]
          exact Nat.succ_le_succ ih
        · rw [List.filter_cons_of_neg hy]
          exact Nat.le_succ_of_le ih

theorem queue_of_unlocked {n : Int} (h : sem.locked = false) : queue { sem with
    value := n } = [] := by
  rw [queue, List.map_eq_nil_iff, List.filter_eq_nil_iff]
  intro w hw
  rw [(unlocked h).2 w hw]
  simp

/-- A task has a permit, or one was handed to it. -/
def Granted (s : State τ) (t : τ) : Prop :=
  s.place t = .inside ∨ (t, .result) ∈ s.semaphore.waiters

/-- A task that came after `t` has no permit: it has not come yet or has left, or waits behind `t`,
    or was cancelled. -/
def Behind (s : State τ) (t u : τ) : Prop :=
  s.place u = .outside ∨ s.place u = .left ∨ [t, u].Sublist (queue s.semaphore) ∨
    (u, .cancelled) ∈ s.semaphore.waiters

theorem Sound.unique (hs : Sound limit s) {f g : Future} (hf : (u, f) ∈ s.semaphore.waiters)
    (hg : (u, g) ∈ s.semaphore.waiters) : f = g :=
  congrArg Prod.snd (List.inj_on_of_nodup_map hs.fair.queue.distinct hf hg rfl)

theorem Sound.waits (hs : Sound limit s) {f : Future} (hf : (u, f) ∈ s.semaphore.waiters) :
    s.place u = .waiting :=
  (hs.waiting u).mpr (List.mem_map_of_mem hf)

/-- A task that has a permit is not behind another. -/
theorem Behind.not_granted (hs : Sound limit s) (h : Behind s t u) : ¬ Granted s u := by
  have hwaits : ∀ f, (u, f) ∈ s.semaphore.waiters → f ≠ .result → ¬ Granted s u := by
    rintro f hf hne (hin | hresult)
    · rw [hs.waits hf] at hin
      cases hin
    · exact hne (hs.unique hf hresult)
  rcases h with hplace | hplace | hsub | hcancelled
  · rintro (hin | hresult)
    · rw [hplace] at hin
      cases hin
    · rw [hs.waits hresult] at hplace
      cases hplace
  · rintro (hin | hresult)
    · rw [hplace] at hin
      cases hin
    · rw [hs.waits hresult] at hplace
      cases hplace
  · exact hwaits _ (mem_queue.mp (hsub.subset (List.mem_cons_of_mem _ (List.mem_singleton_self u))))
      nofun
  · exact hwaits _ hcancelled nofun

theorem sublist_tail {α : Type} {q : List α} {x y : α} (hnodup : q.Nodup) (hx : x ∈ q.tail)
    (h : [x, y].Sublist q) : [x, y].Sublist q.tail := by
  cases q with
  | nil => exact h
  | cons z q =>
      rw [List.tail_cons] at hx ⊢
      cases h with
      | cons _ h => exact h
      | cons_cons _ h => exact absurd hx (List.nodup_cons.mp hnodup).1

theorem mem_wakeUpNext (h : (u, f) ∈ sem.waiters) (hf : f ≠ .pending) :
    (u, f) ∈ sem.wakeUpNext.waiters := by
  rw [Semaphore.wakeUpNext]
  cases hwake : wakeFirst sem.waiters with
  | none => exact h
  | some ws =>
      obtain ⟨a, t, b, hws, -, rfl⟩ := wakeFirst_some hwake
      rw [hws, List.mem_append, List.mem_cons] at h
      rcases h with h | h | h
      · exact List.mem_append_left _ h
      · cases h
        exact absurd rfl hf
      · exact List.mem_append_right _ (List.mem_cons_of_mem _ h)

theorem mem_of_wakeUpNext (h : (u, f) ∈ sem.wakeUpNext.waiters) (hf : f ≠ .result) :
    (u, f) ∈ sem.waiters := by
  rw [Semaphore.wakeUpNext] at h
  cases hwake : wakeFirst sem.waiters with
  | none =>
      rw [hwake] at h
      exact h
  | some ws =>
      obtain ⟨a, t, b, hws, -, rfl⟩ := wakeFirst_some hwake
      rw [hwake] at h
      rw [hws]
      rcases List.mem_append.mp h with h | h
      · exact List.mem_append_left _ h
      · rcases List.mem_cons.mp h with h | h
        · cases h
          exact absurd rfl hf
        · exact List.mem_append_right _ (List.mem_cons_of_mem _ h)

theorem mem_of_release (h : (u, f) ∈ sem.release.waiters) (hf : f ≠ .result) :
    (u, f) ∈ sem.waiters := by
  have hbefore : (u, f) ∈ Semaphore.waiters { sem with
      value := sem.value + 1 } := mem_of_wakeUpNext h hf
  exact hbefore

theorem mem_release (h : (u, f) ∈ sem.waiters) (hf : f ≠ .pending) :
    (u, f) ∈ sem.release.waiters := by
  have hbefore : (u, f) ∈ Semaphore.waiters { sem with value := sem.value + 1 } := h
  exact mem_wakeUpNext hbefore hf

variable [DecidableEq τ]

theorem queue_remove (hws : sem.waiters = a ++ (t, f) :: b)
    (hremove : (sem.remove t).waiters = a ++ b)
    (hf : f ≠ .pending) : queue (sem.remove t) = queue sem := by
  have hskip : ((t, f) :: b).filter (fun w => w.2 = .pending) = b.filter fun w => w.2 = .pending :=
    List.filter_cons_of_neg (by simpa using hf)
  rw [queue, queue, hremove, hws, List.filter_append, List.filter_append, hskip]

theorem queue_cancel : queue (sem.cancel t) = (queue sem).filter (· ≠ t) := by
  show List.map Prod.fst (List.filter _ (List.map _ sem.waiters)) = _
  rw [queue]
  induction sem.waiters with
  | nil => rfl
  | cons w ws ih =>
      obtain ⟨u, f⟩ := w
      cases f with
      | pending => by_cases hut : u = t <;> simp [hut, ih]
      | result => simpa using ih
      | cancelled => simpa using ih

/-- What a turn does to the queue: it grows at its end, it is served at its front, or a task that is
    cancelled leaves it.  A task that is not in it enters only when it is empty. -/
theorem queue_step (hs : Sound limit s) (h : Step s act s') :
    (act.isExit = false ∧ queue s'.semaphore = queue s.semaphore) ∨
    (∃ t, act = .enter t ∧ s.place t = .outside ∧ queue s'.semaphore = queue s.semaphore ++ [t]) ∨
    queue s'.semaphore = (queue s.semaphore).tail ∨
    ∃ t, act.isExit = false ∧ queue s'.semaphore = (queue s.semaphore).filter (· ≠ t) := by
  have hfair := hs.fair
  cases step_turn h with
  | entered t hout hfree =>
      refine Or.inl ⟨rfl, ?_⟩
      show queue { s.semaphore with value := s.semaphore.value - 1 } = _
      rw [queue_of_unlocked hfree]
      exact (queue_of_unlocked (n := s.semaphore.value) hfree).symm
  | queued t hout hlocked => exact Or.inr (Or.inl ⟨t, rfl, hout, queue_enqueue⟩)
  | skipped t hout => exact Or.inl ⟨rfl, rfl⟩
  | admitted t hwait hwoken =>
      obtain ⟨a, b, hws, hremove, -⟩ := removed hfair.queue hwoken
      by_cases hpos : 0 < s.semaphore.value
      · rw [if_pos hpos]
        refine Or.inr (Or.inr (Or.inl ?_))
        show queue (s.semaphore.remove t).wakeUpNext = _
        rw [queue_wakeUpNext, queue_remove hws hremove nofun]
      · rw [if_neg hpos]
        exact Or.inl ⟨rfl, queue_remove hws hremove nofun⟩
  | returned t hwait hwoken hmust =>
      obtain ⟨a, b, hws, hremove, -⟩ := removed hfair.queue hwoken
      refine Or.inr (Or.inr (Or.inl ?_))
      show queue (s.semaphore.remove t).release = _
      rw [queue_release, queue_remove hws hremove nofun]
  | abandoned t hwait hcancelled =>
      obtain ⟨a, b, hws, hremove, -⟩ := removed hfair.queue hcancelled
      exact Or.inl ⟨rfl, queue_remove hws hremove nofun⟩
  | exited t hin => exact Or.inr (Or.inr (Or.inl queue_release))
  | cancelled t m hwait hothers => exact Or.inr (Or.inr (Or.inr ⟨t, rfl, queue_cancel⟩))

/-- A task that is not outside does not come to the queue again. -/
theorem queue_before (hs : Sound limit s) (h : Step s act s') (hplace : s.place t ≠ .outside)
    (ht : t ∈ queue s'.semaphore) : t ∈ queue s.semaphore := by
  rcases queue_step hs h with ⟨-, hsame⟩ | ⟨u, -, hout, henqueue⟩ | htail | ⟨u, -, hfilter⟩
  · rwa [hsame] at ht
  · rw [henqueue, List.mem_append, List.mem_singleton] at ht
    exact ht.resolve_right fun htu => hplace (htu ▸ hout)
  · rw [htail] at ht
    exact List.mem_of_mem_tail ht
  · rw [hfilter] at ht
    exact List.mem_of_mem_filter ht

/-- A task that has come does not go back outside. -/
theorem not_outside (h : Step s act s') (hplace : s.place t ≠ .outside) :
    s'.place t ≠ .outside := by
  have hmoved : ∀ (u : τ) (p : Place) (sem : Semaphore τ), p ≠ .outside →
      (s.moved u p sem).place t ≠ .outside := by
    intro u p sem hp
    rcases eq_or_ne t u with rfl | htu
    · rwa [moved_self]
    · rwa [moved_of_ne htu]
  cases step_turn h with
  | entered u _ _ => exact hmoved u _ _ nofun
  | queued u _ _ => exact hmoved u _ _ nofun
  | skipped u _ => exact hmoved u _ _ nofun
  | admitted u _ _ => exact hmoved u _ _ nofun
  | returned u _ _ _ => exact hmoved u _ _ nofun
  | abandoned u _ _ => exact hmoved u _ _ nofun
  | exited u _ => exact hmoved u _ _ nofun
  | cancelled u m _ _ => exact hplace

/-- A task at the end of a run in the queue was in it all along. -/
theorem queue_before_run (hs : Sound limit s) (hrun : Run Step s acts s')
    (hplace : s.place t ≠ .outside) (ht : t ∈ queue s'.semaphore) : t ∈ queue s.semaphore := by
  induction hrun with
  | nil s => exact ht
  | cons hstep _ ih =>
      exact queue_before hs hstep hplace (ih (hs.step hstep) (not_outside hstep hplace) ht)

theorem idxOf_tail {α : Type} [DecidableEq α] {q : List α} {x : α} (hnodup : q.Nodup)
    (hx : x ∈ q.tail) :
    q.tail.idxOf x + 1 = q.idxOf x := by
  cases q with
  | nil => cases hx
  | cons y q =>
      have hyx : y ≠ x := fun hyx => (List.nodup_cons.mp hnodup).1 (hyx ▸ hx)
      rw [List.tail_cons, List.idxOf_cons_ne q hyx]

/-- A turn serves at most those ahead of a task that goes on waiting, and one of them if a task
    leaves the body. -/
theorem ahead_step (hs : Sound limit s) (h : Step s act s') (hplace : s.place t ≠ .outside)
    (ht : t ∈ queue s'.semaphore) :
    (if act.isExit then 1 else 0) + (queue s'.semaphore).idxOf t ≤ (queue s.semaphore).idxOf t := by
  have hbefore := queue_before hs h hplace ht
  rcases queue_step hs h with ⟨hact, hsame⟩ | ⟨u, rfl, hout, henqueue⟩ | htail | ⟨u, hact, hfilter⟩
  · rw [hact, hsame]
    exact Nat.le_of_eq (Nat.zero_add _)
  · rw [henqueue, List.idxOf_append_of_mem hbefore]
    exact Nat.le_of_eq (Nat.zero_add _)
  · rw [htail] at ht ⊢
    have hserved := idxOf_tail hs.nodup_queue ht
    split <;> omega
  · rw [hact, hfilter]
    rw [hfilter] at ht
    have htu : decide (t ≠ u) = true := (List.mem_filter.mp ht).2
    exact Nat.le_trans (Nat.le_of_eq (Nat.zero_add _)) (idxOf_filter_le htu)

/-- **Bounded waiting.** While a task waits, no more tasks leave the body than were ahead of it. -/
theorem bounded_waiting (hs : Sound limit s) (hrun : Run Step s acts s')
    (hplace : s.place t ≠ .outside) (ht : t ∈ queue s'.semaphore) :
    acts.countP Act.isExit + (queue s'.semaphore).idxOf t ≤ (queue s.semaphore).idxOf t := by
  induction hrun with
  | nil s => exact Nat.le_of_eq (Nat.zero_add _)
  | @cons s m s' act acts hstep hrest ih =>
      have hs' := hs.step hstep
      have hplace' := not_outside hstep hplace
      have hfirst := ahead_step hs hstep hplace (queue_before_run hs' hrest hplace' ht)
      have hrest' := ih hs' hplace' ht
      rw [List.countP_cons]
      omega

theorem mem_remove (h : (u, f) ∈ sem.waiters) (hut : u ≠ t) : (u, f) ∈ (sem.remove t).waiters :=
  (List.mem_eraseP_of_neg (by simpa using hut)).mpr h

/-- What is behind stays behind, as long as `t` waits. -/
theorem behind_step (hs : Sound limit s) (h : Step s act s') (hbehind : Behind s t u)
    (ht : t ∈ queue s.semaphore) (ht' : t ∈ queue s'.semaphore) : Behind s' t u := by
  have hfair := hs.fair
  have hserved : ∀ x p sem, u ≠ x → queue sem = (queue s.semaphore).tail → t ∈ queue sem →
      ((u, .cancelled) ∈ s.semaphore.waiters → (u, .cancelled) ∈ sem.waiters) →
      Behind (s.moved x p sem) t u := by
    intro x p sem hux hqueue htq hmem
    rw [Behind, moved_of_ne hux]
    refine hbehind.imp_right (Or.imp_right (Or.imp (fun hsub => ?_) hmem))
    rw [moved_semaphore, hqueue]
    exact sublist_tail hs.nodup_queue (hqueue ▸ htq) hsub
  cases step_turn h with
  | entered x hout hfree =>
      have hempty : queue s.semaphore = [] := queue_of_unlocked (n := s.semaphore.value) hfree
      rw [hempty] at ht
      cases ht
  | queued x hout hlocked =>
      rcases eq_or_ne u x with rfl | hux
      · refine Or.inr (Or.inr (Or.inl ?_))
        rw [moved_semaphore, queue_enqueue]
        exact (List.singleton_sublist.mpr ht).append_right [u]
      · rw [Behind, moved_of_ne hux]
        refine hbehind.imp_right (Or.imp_right (Or.imp (fun hsub => ?_) (List.mem_append_left _)))
        rw [moved_semaphore, queue_enqueue]
        exact hsub.trans (List.sublist_append_left ..)
  | skipped x hout =>
      rcases eq_or_ne u x with rfl | hux
      · exact Or.inr (Or.inl moved_self)
      · rw [Behind, moved_of_ne hux]
        exact hbehind
  | admitted x hwait hwoken =>
      obtain ⟨a, b, hws, hremove, -⟩ := removed hfair.queue hwoken
      have hmem : (x, .result) ∈ s.semaphore.waiters := by
        rw [hws]
        exact List.mem_append_right _ (List.mem_cons_self ..)
      rcases eq_or_ne u x with rfl | hux
      · exact absurd (Or.inr hmem) (hbehind.not_granted hs)
      · by_cases hpos : 0 < s.semaphore.value
        · rw [if_pos hpos] at ht' ⊢
          refine hserved x _ _ hux ?_ ht' fun hcancelled =>
            mem_wakeUpNext (mem_remove hcancelled hux) nofun
          rw [queue_wakeUpNext, queue_remove hws hremove nofun]
        · rw [if_neg hpos] at ht' ⊢
          rw [Behind, moved_of_ne hux, moved_semaphore, queue_remove hws hremove nofun]
          exact hbehind.imp_right
            (Or.imp_right (Or.imp_right fun hcancelled => mem_remove hcancelled hux))
  | returned x hwait hwoken hmust =>
      obtain ⟨a, b, hws, hremove, -⟩ := removed hfair.queue hwoken
      rcases eq_or_ne u x with rfl | hux
      · exact Or.inr (Or.inl moved_self)
      · refine hserved x _ _ hux ?_ ht' fun hcancelled =>
          mem_release (mem_remove hcancelled hux) nofun
        rw [queue_release, queue_remove hws hremove nofun]
  | abandoned x hwait hcancelled =>
      obtain ⟨a, b, hws, hremove, -⟩ := removed hfair.queue hcancelled
      rcases eq_or_ne u x with rfl | hux
      · exact Or.inr (Or.inl moved_self)
      · rw [Behind, moved_of_ne hux, moved_semaphore, queue_remove hws hremove nofun]
        exact hbehind.imp_right
          (Or.imp_right (Or.imp_right fun hcancelled => mem_remove hcancelled hux))
  | exited x hin =>
      rcases eq_or_ne u x with rfl | hux
      · exact Or.inr (Or.inl moved_self)
      · exact hserved x _ _ hux queue_release ht' fun hcancelled => mem_release hcancelled nofun
  | cancelled x m hwait hothers =>
      refine hbehind.imp_right (Or.imp_right ?_)
      rintro (hsub | hcancelled)
      · rcases eq_or_ne u x with rfl | hux
        · refine Or.inr (List.mem_map.mpr ⟨(u, .pending), mem_queue.mp (hsub.subset ?_),
            if_pos ⟨rfl, rfl⟩⟩)
          exact List.mem_cons_of_mem _ (List.mem_singleton_self u)
        · refine Or.inl ?_
          rw [queue_cancel] at ht'
          have hkept := hsub.filter (fun y => decide (y ≠ x))
          rw [List.filter_cons_of_pos (List.of_mem_filter ht'),
            List.filter_cons_of_pos (by simpa using hux)] at hkept
          rwa [queue_cancel]
      · refine Or.inr (List.mem_map.mpr ⟨(u, .cancelled), hcancelled, if_neg fun h => ?_⟩)
        cases h.2

/-- **First come, first served.** While a task waits, no task that came after it has a permit. -/
theorem no_overtaking (hs : Sound limit s) (hrun : Run Step s acts s') (ht : t ∈ queue s.semaphore)
    (hu : s.place u = .outside) (ht' : t ∈ queue s'.semaphore) : ¬ Granted s' u := by
  have hgen : Sound limit s' ∧ Behind s' t u := by
    have hplace : s.place t ≠ .outside := by
      rw [hs.waits (mem_queue.mp ht)]
      nofun
    have hbehind : Behind s t u := Or.inl hu
    clear hu
    induction hrun with
    | nil s => exact ⟨hs, hbehind⟩
    | cons hstep hrest ih =>
        have hs' := hs.step hstep
        have hplace' := not_outside hstep hplace
        have htm := queue_before_run hs' hrest hplace' ht'
        exact ih hs' htm ht' hplace' (behind_step hs hstep hbehind ht htm)
  exact hgen.2.not_granted hgen.1

end Order

-- ── Nobody waits for ever ─────────────────────────────────────────────────────────

/-- The loop runs every task whose future is done, and every task leaves the body at last. -/
structure Scheduled {τ : Type} [DecidableEq τ] (ρ : Nat → State τ) (l : Nat → Option (Act τ)) :
    Prop where
  resumes : ∀ n t, (next (ρ n) (.resume t)).isSome → ∃ m, n ≤ m ∧ l m = some (.resume t)
  exits : ∀ n t, (ρ n).place t = .inside → ∃ m, n ≤ m ∧ l m = some (.exit t)

/-- No cancellation of the task was asked for. -/
structure Uncancelled {τ : Type} (s : State τ) (t : τ) : Prop where
  not_asked : s.must_cancel t = false
  not_cancelled : (t, .cancelled) ∉ s.semaphore.waiters

section Liveness

variable {τ : Type} [DecidableEq τ] {s s' : State τ} {act : Act τ} {t u : τ} {limit : Int}
  {sem : Semaphore τ} {f : Future} {ρ : Nat → State τ} {l : Nat → Option (Act τ)} {n m : Nat}

theorem mem_of_remove {w : τ × Future} (h : w ∈ (sem.remove t).waiters) : w ∈ sem.waiters :=
  List.mem_of_mem_eraseP h

theorem uncancelled_step (h : Step s act s') (hact : act ≠ .cancel t) (ht : Uncancelled s t) :
    Uncancelled s' t := by
  cases step_turn h with
  | entered u hout hfree => exact ⟨ht.1, ht.2⟩
  | queued u hout hlocked =>
      refine ⟨ht.1, fun hmem => ?_⟩
      rcases List.mem_append.mp hmem with hmem | hmem
      · exact ht.2 hmem
      · cases List.mem_singleton.mp hmem
  | skipped u hout => exact ⟨ht.1, ht.2⟩
  | admitted u hwait hwoken =>
      refine ⟨ht.1, fun hmem => ht.2 ?_⟩
      by_cases hpos : 0 < s.semaphore.value
      · rw [if_pos hpos] at hmem
        exact mem_of_remove (mem_of_wakeUpNext hmem nofun)
      · rw [if_neg hpos] at hmem
        exact mem_of_remove hmem
  | returned u hwait hwoken hmust =>
      exact ⟨ht.1, fun hmem => ht.2 (mem_of_remove (mem_of_release hmem nofun))⟩
  | abandoned u hwait hcancelled => exact ⟨ht.1, fun hmem => ht.2 (mem_of_remove hmem)⟩
  | exited u hin => exact ⟨ht.1, fun hmem => ht.2 (mem_of_release hmem nofun)⟩
  | cancelled u m hwait hothers =>
      have htu : t ≠ u := fun htu => hact (htu ▸ rfl)
      refine ⟨(hothers t htu).trans ht.1, fun hmem => ?_⟩
      rcases mem_cancel hmem with hmem | hmem
      · exact ht.2 hmem
      · cases hmem
        exact htu rfl

theorem lookup_mem (h : sem.waiters.lookup t = some f) : (t, f) ∈ sem.waiters := by
  obtain ⟨a, b, hws, -⟩ := split_of_lookup h
  rw [hws]
  exact List.mem_append_right _ (List.mem_cons_self ..)

/-- A task that waits and is not cancelled goes on waiting, or enters. -/
theorem waiting_step (h : Step s act s') (ht : Uncancelled s t) (hwait : s.place t = .waiting) :
    s'.place t = .waiting ∨ s'.place t = .inside := by
  have hmoved : ∀ (u : τ) (p : Place) (sem : Semaphore τ), (u = t → p = .inside) →
      (s.moved u p sem).place t = .waiting ∨ (s.moved u p sem).place t = .inside := by
    intro u p sem hp
    rcases eq_or_ne t u with rfl | htu
    · rw [moved_self]
      exact Or.inr (hp rfl)
    · rw [moved_of_ne htu]
      exact Or.inl hwait
  have hcame : ∀ {u p}, s.place u = p → p ≠ .waiting → u ≠ t := by
    rintro u p hu hp rfl
    exact hp (hu.symm.trans hwait)
  cases step_turn h with
  | entered u hout hfree => exact hmoved u _ _ fun _ => rfl
  | queued u hout hlocked => exact hmoved u _ _ fun hut => absurd hut (hcame hout nofun)
  | skipped u hout => exact hmoved u _ _ fun hut => absurd hut (hcame hout nofun)
  | admitted u hwait' hwoken => exact hmoved u _ _ fun _ => rfl
  | returned u hwait' hwoken hmust =>
      refine hmoved u _ _ fun hut => ?_
      rw [hut, ht.not_asked] at hmust
      cases hmust
  | abandoned u hwait' hcancelled =>
      refine hmoved u _ _ fun hut => ?_
      rw [hut] at hcancelled
      exact absurd (lookup_mem hcancelled) ht.not_cancelled
  | exited u hin => exact hmoved u _ _ fun hut => absurd hut (hcame hin nofun)
  | cancelled u m hwait' hothers => exact Or.inl hwait

/-- A task whose future is done can run. -/
theorem Sound.can_resume (hs : Sound limit s) (ht : (t, .result) ∈ s.semaphore.waiters) :
    (next s (.resume t)).isSome := by
  simp only [next, hs.waits ht, if_true, Semaphore.resume, hs.lookup ht]
  cases s.must_cancel t with
  | true => rfl
  | false => rfl

/-- A task that was woken stays so until it runs. -/
theorem woken_step (h : Step s act s') (hact : act ≠ .resume u)
    (hu : (u, .result) ∈ s.semaphore.waiters) :
    (u, .result) ∈ s'.semaphore.waiters := by
  have hne : ∀ {x}, act = .resume x → u ≠ x := by
    rintro x rfl hux
    exact hact (hux ▸ rfl)
  cases step_turn h with
  | entered x hout hfree => exact hu
  | queued x hout hlocked => exact List.mem_append_left _ hu
  | skipped x hout => exact hu
  | admitted x hwait hwoken =>
      rw [moved_semaphore]
      split
      · exact mem_wakeUpNext (mem_remove hu (hne rfl)) nofun
      · exact mem_remove hu (hne rfl)
  | returned x hwait hwoken hmust => exact mem_release (mem_remove hu (hne rfl)) nofun
  | abandoned x hwait hcancelled => exact mem_remove hu (hne rfl)
  | exited x hin => exact mem_release hu nofun
  | cancelled x m hwait hothers => exact mem_cancel_result hu rfl

/-- Of a task that waits for a permit on and on, the place in the queue does not grow. -/
theorem ahead_endless (hs : ∀ n, Sound limit (ρ n)) (hrun : Endless Step ρ l)
    (ht : ∀ m, n ≤ m → t ∈ queue (ρ m).semaphore) (hnm : n ≤ m) :
    (queue (ρ m).semaphore).idxOf t ≤ (queue (ρ n).semaphore).idxOf t := by
  refine hrun.invariant_from (I := fun s => (queue s.semaphore).idxOf t ≤ _) (n := n)
    (fun k i hk _ hi hbefore hstep => ?_) (Nat.le_refl _) hnm
  have hplace : (ρ k).place t ≠ .outside := by
    rw [(hs k).waits (mem_queue.mp (ht k hk))]
    nofun
  have hahead := ahead_step (hs k) hstep hplace (ht (k + 1) (Nat.le_succ_of_le hk))
  omega

/-- A task that waits for a permit on and on is served nearer to the front at last: some task leaves
    the body, or gives back a permit that was handed to it. -/
theorem served_endless (hlimit : 1 ≤ limit) (hs : ∀ n, Sound limit (ρ n)) (hrun : Endless Step ρ l)
    (hsched : Scheduled ρ l) (ht : ∀ m, n ≤ m → t ∈ queue (ρ m).semaphore) :
    ∃ m, n ≤ m ∧ queue (ρ (m + 1)).semaphore = (queue (ρ m).semaphore).tail := by
  have hexit : ∀ k u, n ≤ k → (ρ k).place u = .inside →
      ∃ m, n ≤ m ∧ queue (ρ (m + 1)).semaphore = (queue (ρ m).semaphore).tail := by
    intro k u hk hin
    obtain ⟨m, hm, hl⟩ := hsched.exits k u hin
    refine ⟨m, Nat.le_trans hk hm, ?_⟩
    have hstep := hrun.at hl
    generalize ρ (m + 1) = s' at hstep
    cases step_turn hstep with
    | exited _ _ => exact queue_release
  obtain ⟨inside, hinside, hpermits⟩ := (hs n).permits
  cases inside with
  | cons u _ => exact hexit n u (Nat.le_refl n) ((hinside.mem u).mp (List.mem_cons_self ..))
  | nil =>
      -- all permits are free or handed on, and a free one would have been handed on
      have hwoken : ∃ v ∈ (ρ n).semaphore.waiters, v.2 = .result := by
        rcases Nat.eq_zero_or_pos (woken (ρ n).semaphore.waiters) with hzero | hpos
        · rw [hzero] at hpermits
          have hvalue : 0 < (ρ n).semaphore.value := by
            rw [List.length_nil] at hpermits
            omega
          exact (hs n).fair.handed hvalue _ (mem_queue.mp (ht n (Nat.le_refl n))) rfl
        · exact exists_result_of_woken hpos
      obtain ⟨⟨u, f⟩, hu, rfl⟩ := hwoken
      have hresumed := hsched.resumes n u ((hs n).can_resume hu)
      classical
      obtain ⟨hm, hl⟩ := Nat.find_spec hresumed
      have hbefore := fun k hk => Nat.find_min hresumed (m := k) hk
      generalize Nat.find hresumed = m at hm hl hbefore
      have hu' : (u, .result) ∈ (ρ m).semaphore.waiters := by
        refine hrun.invariant_from (I := fun s => (u, Future.result) ∈ s.semaphore.waiters)
          (fun k i hk hkm hi hmem hstep => woken_step hstep (fun hact => ?_) hmem) hu hm
        exact hbefore k hkm ⟨hk, by rw [hi, hact]⟩
      have hstep := hrun.at hl
      have hsame : ∀ s', ρ (m + 1) = s' → Turn (ρ m) (.resume u) s' →
          s'.place u = .inside ∨ queue s'.semaphore = (queue (ρ m).semaphore).tail := by
        intro s' _ hturn
        cases hturn with
        | admitted _ hwait _ => exact Or.inl moved_self
        | returned _ hwait hlookup hmust =>
            obtain ⟨a, b, hws, hremove, -⟩ := removed (hs m).fair.queue hlookup
            refine Or.inr ?_
            show queue ((ρ m).semaphore.remove u).release = _
            rw [queue_release, queue_remove hws hremove nofun]
        | abandoned _ hwait hcancelled =>
            rw [(hs m).lookup hu'] at hcancelled
            cases hcancelled
      rcases hsame _ rfl (step_turn hstep) with hin | htail
      · exact hexit (m + 1) u (Nat.le_succ_of_le hm) hin
      · exact ⟨m, hm, htail⟩

/-- **Every waiter gets in.** With a permit to give, a task that waits and is never cancelled enters
    the body, if the loop runs what can run and every body ends. -/
theorem admitted_at_last (hlimit : 1 ≤ limit) (hrun : Endless Step ρ l)
    (hstart : ρ 0 = initial limit)
    (hsched : Scheduled ρ l) (hnever : ∀ m, l m ≠ some (.cancel t))
    (hwait : (ρ n).place t = .waiting) :
    ∃ m, n ≤ m ∧ (ρ m).place t = .inside := by
  have hs : ∀ n, Sound limit (ρ n) := fun n => by
    refine hrun.invariant_from (fun _ _ _ _ _ hs hstep => hs.step hstep) ?_ (Nat.zero_le n)
    rw [hstart]
    exact sound_initial (Int.le_trans (by decide) hlimit)
  have hun : ∀ n, Uncancelled (ρ n) t := fun n => by
    refine hrun.invariant_from (I := fun s => Uncancelled s t) (fun k i _ _ hi ht hstep => ?_) ?_
      (Nat.zero_le n)
    · exact uncancelled_step hstep (fun hact => hnever k (by rw [hi, hact])) ht
    · rw [hstart]
      exact ⟨rfl, List.not_mem_nil⟩
  by_contra hnot
  have hout : ∀ m, n ≤ m → (ρ m).place t ≠ .inside := fun m hm hin => hnot ⟨m, hm, hin⟩
  have hwaits : ∀ m, n ≤ m → (ρ m).place t = .waiting := fun m hm => by
    refine hrun.invariant_from (I := fun s => s.place t = .waiting)
      (fun k i hk _ _ hw hstep => ?_) hwait hm
    exact (waiting_step hstep (hun k) hw).resolve_right (hout (k + 1) (Nat.le_succ_of_le hk))
  have hqueue : ∀ m, n ≤ m → t ∈ queue (ρ m).semaphore := by
    intro m hm
    obtain ⟨⟨u, f⟩, hw, rfl⟩ := List.mem_map.mp (((hs m).waiting t).mp (hwaits m hm))
    cases f with
    | pending => exact mem_queue.mpr hw
    | cancelled => exact absurd hw (hun m).not_cancelled
    | result =>
        obtain ⟨k, hk, hl⟩ := hsched.resumes m _ ((hs m).can_resume hw)
        have hk' := hwaits (k + 1) (Nat.le_succ_of_le (Nat.le_trans hm hk))
        have hstep := hrun.at hl
        have hin := hout (k + 1) (Nat.le_succ_of_le (Nat.le_trans hm hk))
        generalize ρ (k + 1) = s' at hstep hk' hin
        cases step_turn hstep with
        | admitted _ _ _ => exact absurd moved_self hin
        | returned _ _ _ _ =>
            rw [moved_self] at hk'
            cases hk'
        | abandoned _ _ _ =>
            rw [moved_self] at hk'
            cases hk'
  obtain ⟨k, hk, hleast⟩ := exists_least_from (fun m => (queue (ρ m).semaphore).idxOf t) n
  have hqueue' : ∀ m, k ≤ m → t ∈ queue (ρ m).semaphore := fun m hm => hqueue m (Nat.le_trans hk hm)
  obtain ⟨m, hm, htail⟩ := served_endless hlimit hs hrun hsched hqueue'
  have hserved := idxOf_tail (hs m).nodup_queue (htail ▸ hqueue' (m + 1) (Nat.le_succ_of_le hm))
  have hgrown := ahead_endless hs hrun hqueue' hm
  have hfloor := hleast (m + 1) (Nat.le_succ_of_le hm)
  rw [htail] at hfloor
  omega

end Liveness

end AsyncSemaphore
