import Mathlib.Data.List.Nodup
import Mathlib.Data.List.Perm.Subperm
import Mathlib.Logic.Function.Basic
import NetProbe.RunProofs

/-!
# A counting semaphore on an event loop

The `asyncio.Semaphore` of CPython 3.12, used as `async with semaphore:`.  It keeps a count and
a queue of futures, one for each task that waits in `acquire`.  `release` hands its permit to
the first future that is not done (`wakeUpNext`); the task behind it runs later, at a turn of
the loop of its own, and until then others may enter, leave or be cancelled.

The permits are accounted for at every turn: those that are free, those of the tasks inside, and
those that were handed to a waiter that has not run yet (`Sound.permits`).  A free permit is
never left beside a waiter without one that was woken and will pass it on (`Fair.handed`), and
the queue is served in order: what was woken stands before what was not (`Fair.ordered`).
-/

namespace AsyncSemaphore

open LabelledRun

-- ── The semaphore ─────────────────────────────────────────────────────────────────

/-- The future of a waiter. -/
inductive Future where
  | pending
  | result
  | cancelled
  deriving DecidableEq

/-- `_value`, and `_waiters` with the task of each. -/
structure Semaphore (τ : Type) where
  value : Int
  waiters : List (τ × Future)

/-- Sets the result of the first future that is not done. -/
def wakeFirst {τ : Type} : List (τ × Future) → Option (List (τ × Future))
  | [] => none
  | (t, .pending) :: ws => some ((t, .result) :: ws)
  | w :: ws => (wakeFirst ws).map (w :: ·)

namespace Semaphore

variable {τ : Type}

/-- `Semaphore(value)`; a negative value is refused. -/
def create (value : Int) : Option (Semaphore τ) :=
  if value < 0 then none else some ⟨value, []⟩

/-- `locked()` -/
def locked (s : Semaphore τ) : Bool :=
  s.value == 0 || s.waiters.any fun w => w.2 != .cancelled

/-- `_wake_up_next()` -/
def wakeUpNext (s : Semaphore τ) : Semaphore τ :=
  match wakeFirst s.waiters with
  | some waiters => ⟨s.value - 1, waiters⟩
  | none => s

/-- `release()` -/
def release (s : Semaphore τ) : Semaphore τ :=
  wakeUpNext { s with value := s.value + 1 }

/-- `acquire()` of the task `t` up to its await: whether it has the permit at once. -/
def acquire (s : Semaphore τ) (t : τ) : Bool × Semaphore τ :=
  if s.locked then (false, { s with waiters := s.waiters ++ [(t, .pending)] })
  else (true, { s with value := s.value - 1 })

variable [DecidableEq τ]

/-- `_waiters.remove(fut)` -/
def remove (s : Semaphore τ) (t : τ) : Semaphore τ :=
  { s with waiters := s.waiters.eraseP fun w => w.1 == t }

/-- `fut.cancel()`, which does nothing to a future that is done. -/
def cancel (s : Semaphore τ) (t : τ) : Semaphore τ :=
  { s with
    waiters := s.waiters.map fun w => if w.1 = t ∧ w.2 = .pending then (t, .cancelled) else w }

/-- `acquire()` of the task `t` after its await, which ends when its future is done: whether it has
    the permit, or ends with `CancelledError`.  That is raised also where the future has its result,
    if the task was cancelled since. -/
def resume (s : Semaphore τ) (t : τ) (must_cancel : Bool) : Option (Bool × Semaphore τ) :=
  match s.waiters.lookup t with
  | some .result =>
      if must_cancel then some (false, (s.remove t).release)
      else some (true, if 0 < s.value then (s.remove t).wakeUpNext else s.remove t)
  | some .cancelled => some (false, s.remove t)
  | _ => none

end Semaphore

-- ── The tasks ─────────────────────────────────────────────────────────────────────

/-- Where a task is. -/
inductive Place where
  | outside
  | waiting
  | inside
  | left
  deriving DecidableEq

/-- One turn of the loop: a task comes to the `async with`, or ends before it; goes on after its
    await, leaves the body however it ends, or is cancelled while it waits. -/
inductive Act (τ : Type) where
  | enter (t : τ)
  | skip (t : τ)
  | resume (t : τ)
  | exit (t : τ)
  | cancel (t : τ)

def Act.isExit {τ : Type} : Act τ → Bool
  | .exit _ => true
  | _ => false

structure State (τ : Type) where
  semaphore : Semaphore τ
  place : τ → Place
  must_cancel : τ → Bool

section System

variable {τ : Type} [DecidableEq τ]

/-- No task has come. -/
def initial (limit : Int) : State τ where
  semaphore := ⟨limit, []⟩
  place := fun _ => .outside
  must_cancel := fun _ => false

def State.moved (s : State τ) (t : τ) (p : Place) (semaphore : Semaphore τ) : State τ :=
  { s with place := Function.update s.place t p, semaphore := semaphore }

/-- One step. -/
def next (s : State τ) : Act τ → Option (State τ)
  | .enter t =>
      if s.place t = .outside then
        match s.semaphore.acquire t with
        | (true, semaphore) => some (s.moved t .inside semaphore)
        | (false, semaphore) => some (s.moved t .waiting semaphore)
      else none
  | .skip t => if s.place t = .outside then some (s.moved t .left s.semaphore) else none
  | .resume t =>
      if s.place t = .waiting then
        match s.semaphore.resume t (s.must_cancel t) with
        | some (true, semaphore) => some (s.moved t .inside semaphore)
        | some (false, semaphore) => some (s.moved t .left semaphore)
        | none => none
      else none
  | .exit t =>
      if s.place t = .inside then some (s.moved t .left s.semaphore.release) else none
  | .cancel t =>
      if s.place t = .waiting then
        some { s with
          semaphore := s.semaphore.cancel t
          must_cancel :=
            if s.semaphore.waiters.lookup t = some .pending then s.must_cancel
            else Function.update s.must_cancel t true }
      else none

def Step (s : State τ) (act : Act τ) (s' : State τ) : Prop :=
  next s act = some s'

/-- What a step can do. -/
inductive Turn (s : State τ) : Act τ → State τ → Prop where
  | entered (t : τ) (hout : s.place t = .outside) (hfree : s.semaphore.locked = false) :
      Turn s (.enter t) (s.moved t .inside { s.semaphore with value := s.semaphore.value - 1 })
  | queued (t : τ) (hout : s.place t = .outside) (hlocked : s.semaphore.locked = true) :
      Turn s (.enter t)
        (s.moved t .waiting { s.semaphore with waiters := s.semaphore.waiters ++ [(t, .pending)] })
  | skipped (t : τ) (hout : s.place t = .outside) : Turn s (.skip t) (s.moved t .left s.semaphore)
  | admitted (t : τ) (hwait : s.place t = .waiting)
      (hwoken : s.semaphore.waiters.lookup t = some .result) :
      Turn s (.resume t) (s.moved t .inside
        (if 0 < s.semaphore.value then (s.semaphore.remove t).wakeUpNext else s.semaphore.remove t))
  | returned (t : τ) (hwait : s.place t = .waiting)
      (hwoken : s.semaphore.waiters.lookup t = some .result) (hmust : s.must_cancel t = true) :
      Turn s (.resume t) (s.moved t .left (s.semaphore.remove t).release)
  | abandoned (t : τ) (hwait : s.place t = .waiting)
      (hcancelled : s.semaphore.waiters.lookup t = some .cancelled) :
      Turn s (.resume t) (s.moved t .left (s.semaphore.remove t))
  | exited (t : τ) (hin : s.place t = .inside) :
      Turn s (.exit t) (s.moved t .left s.semaphore.release)
  | cancelled (t : τ) (m : τ → Bool) (hwait : s.place t = .waiting)
      (hothers : ∀ u, u ≠ t → m u = s.must_cancel u) :
      Turn s (.cancel t) { s with semaphore := s.semaphore.cancel t, must_cancel := m }

theorem step_turn {s s' : State τ} {act : Act τ} (h : Step s act s') : Turn s act s' := by
  rw [Step] at h
  cases act with
  | enter t =>
      simp only [next] at h
      split at h
      next hout =>
        cases hlocked : s.semaphore.locked with
        | true =>
            simp only [Semaphore.acquire, hlocked, if_true] at h
            exact Option.some.inj h ▸ .queued t hout hlocked
        | false =>
            simp only [Semaphore.acquire, hlocked, Bool.false_eq_true, if_false] at h
            exact Option.some.inj h ▸ .entered t hout hlocked
      next => cases h
  | skip t =>
      simp only [next] at h
      split at h
      next hout => exact Option.some.inj h ▸ .skipped t hout
      next => cases h
  | resume t =>
      simp only [next] at h
      split at h
      next hwait =>
        cases hlookup : s.semaphore.waiters.lookup t with
        | none =>
            simp only [Semaphore.resume, hlookup] at h
            cases h
        | some future =>
            cases future with
            | pending =>
                simp only [Semaphore.resume, hlookup] at h
                cases h
            | cancelled =>
                simp only [Semaphore.resume, hlookup] at h
                exact Option.some.inj h ▸ .abandoned t hwait hlookup
            | result =>
                cases hmust : s.must_cancel t with
                | true =>
                    simp only [Semaphore.resume, hlookup, hmust, if_true] at h
                    exact Option.some.inj h ▸ .returned t hwait hlookup hmust
                | false =>
                    simp only [Semaphore.resume, hlookup, hmust, Bool.false_eq_true, if_false] at h
                    exact Option.some.inj h ▸ .admitted t hwait hlookup
      next => cases h
  | exit t =>
      simp only [next] at h
      split at h
      next hin => exact Option.some.inj h ▸ .exited t hin
      next => cases h
  | cancel t =>
      simp only [next] at h
      split at h
      next hwait =>
        refine Option.some.inj h ▸ .cancelled t _ hwait fun u hu => ?_
        split
        · rfl
        · exact Function.update_of_ne hu ..
      next => cases h

end System

-- ── The queue ─────────────────────────────────────────────────────────────────────

/-- How many waiters were woken and have not run yet. -/
def woken {τ : Type} (ws : List (τ × Future)) : Nat :=
  ws.countP fun w => w.2 = .result

/-- The waiters are of distinct tasks, and what was woken stands before what was not. -/
structure Queue {τ : Type} (ws : List (τ × Future)) : Prop where
  distinct : (ws.map Prod.fst).Nodup
  ordered : ws.Pairwise fun v w => v.2 = .pending → w.2 ≠ .result

/-- No free permit lies beside a waiter, unless another was woken. -/
structure Fair {τ : Type} (s : Semaphore τ) : Prop where
  nonneg : 0 ≤ s.value
  queue : Queue s.waiters
  handed : 0 < s.value → ∀ w ∈ s.waiters, w.2 = .pending → ∃ v ∈ s.waiters, v.2 = .result

section Waiters

variable {τ : Type} {ws ws' a b : List (τ × Future)} {t u : τ} {f f' : Future} {s : Semaphore τ}

theorem woken_append : woken (a ++ b) = woken a + woken b :=
  List.countP_append ..

theorem woken_result : woken (a ++ (t, .result) :: b) = woken (a ++ b) + 1 := by
  rw [woken_append, woken_append, Nat.add_assoc]
  exact congrArg (woken a + ·) (List.countP_cons_of_pos (by simp))

theorem woken_of_ne (hf : f ≠ .result) : woken (a ++ (t, f) :: b) = woken (a ++ b) := by
  rw [woken_append, woken_append]
  exact congrArg (woken a + ·) (List.countP_cons_of_neg (by simpa using hf))

theorem exists_result_of_woken (h : 0 < woken ws) : ∃ v ∈ ws, v.2 = .result := by
  obtain ⟨v, hv, hresult⟩ := List.countP_pos_iff.mp h
  exact ⟨v, hv, by simpa using hresult⟩

/-- The first future that is not done. -/
theorem wakeFirst_some (h : wakeFirst ws = some ws') :
    ∃ a t b, ws = a ++ (t, .pending) :: b ∧ (∀ w ∈ a, w.2 ≠ .pending) ∧
      ws' = a ++ (t, .result) :: b := by
  induction ws generalizing ws' with
  | nil => cases h
  | cons w ws ih =>
      obtain ⟨t, f⟩ := w
      have hskip : f ≠ .pending → (wakeFirst ws).map ((t, f) :: ·) = some ws' →
          ∃ a u b, (t, f) :: ws = a ++ (u, .pending) :: b ∧ (∀ w ∈ a, w.2 ≠ .pending) ∧
            ws' = a ++ (u, .result) :: b := by
        intro hf hmap
        obtain ⟨ws'', hrest, rfl⟩ := Option.map_eq_some_iff.mp hmap
        obtain ⟨a, u, b, rfl, ha, rfl⟩ := ih hrest
        exact ⟨(t, f) :: a, u, b, rfl, List.forall_mem_cons.mpr ⟨hf, ha⟩, rfl⟩
      cases f with
      | pending =>
          exact ⟨[], t, ws, rfl, fun w hw => (List.not_mem_nil hw).elim, (Option.some.inj h).symm⟩
      | result => exact hskip nofun h
      | cancelled => exact hskip nofun h

theorem wakeFirst_none (h : wakeFirst ws = none) : ∀ w ∈ ws, w.2 ≠ .pending := by
  induction ws with
  | nil => exact fun w hw => (List.not_mem_nil hw).elim
  | cons w ws ih =>
      obtain ⟨t, f⟩ := w
      cases f with
      | pending => cases h
      | result => exact List.forall_mem_cons.mpr ⟨nofun, ih (Option.map_eq_none_iff.mp h)⟩
      | cancelled => exact List.forall_mem_cons.mpr ⟨nofun, ih (Option.map_eq_none_iff.mp h)⟩

/-- A waiter in the middle of the queue. -/
theorem queue_middle :
    Queue (a ++ (t, f) :: b) ↔ Queue (a ++ b) ∧ t ∉ (a ++ b).map Prod.fst ∧
      (f = .result → ∀ w ∈ a, w.2 ≠ .pending) ∧ (f = .pending → ∀ w ∈ b, w.2 ≠ .result) := by
  constructor
  · rintro ⟨hdistinct, hordered⟩
    rw [List.map_append, List.map_cons, List.nodup_middle, List.nodup_cons] at hdistinct
    rw [List.pairwise_append, List.pairwise_cons] at hordered
    obtain ⟨ha, ⟨htb, hb⟩, hab⟩ := hordered
    rw [List.map_append]
    refine
      ⟨⟨by
        rw [List.map_append]; exact hdistinct.2, List.pairwise_append.mpr ⟨ha, hb, fun v hv w hw =>
      hab v hv w (List.mem_cons_of_mem _ hw)⟩⟩, hdistinct.1, fun hf w hw hpending => ?_,
        fun hf w hw => ?_⟩
    · exact hab w hw (t, f) (List.mem_cons_self ..) hpending hf
    · exact htb w hw hf
  · rintro ⟨⟨hdistinct, hordered⟩, hnew, hresult, hpending⟩
    rw [List.map_append] at hdistinct hnew
    obtain ⟨ha, hb, hab⟩ := List.pairwise_append.mp hordered
    refine ⟨?_, List.pairwise_append.mpr ⟨ha, List.pairwise_cons.mpr ⟨?_, hb⟩, ?_⟩⟩
    · rw [List.map_append, List.map_cons, List.nodup_middle, List.nodup_cons]
      exact ⟨hnew, hdistinct⟩
    · exact fun w hw hf => hpending hf w hw
    · intro v hv w hw hv' hw'
      rcases List.mem_cons.mp hw with rfl | hw
      · exact hresult hw' v hv hv'
      · exact hab v hv w hw hv' hw'

/-- **Handing a permit on.** Of a semaphore with a free permit the first waiter gets it; if there is
    none it stays free. -/
theorem wakeUpNext_fair (hqueue : Queue s.waiters) (hpos : 0 < s.value) :
    Fair s.wakeUpNext ∧
      s.wakeUpNext.value + woken s.wakeUpNext.waiters = s.value + woken s.waiters ∧
      s.wakeUpNext.waiters.map Prod.fst = s.waiters.map Prod.fst := by
  rw [Semaphore.wakeUpNext]
  cases hwake : wakeFirst s.waiters with
  | none =>
      refine ⟨⟨Int.le_of_lt hpos, hqueue, fun _ w hw hpending => ?_⟩, rfl, rfl⟩
      exact absurd hpending (wakeFirst_none hwake w hw)
  | some ws =>
      obtain ⟨a, t, b, hws, ha, rfl⟩ := wakeFirst_some hwake
      rw [hws] at hqueue
      obtain ⟨hrest, hnew, -, -⟩ := queue_middle.mp hqueue
      refine ⟨⟨?_, queue_middle.mpr ⟨hrest, hnew, fun _ => ha, nofun⟩, ?_⟩, ?_, ?_⟩
      · show 0 ≤ s.value - 1
        omega
      · exact fun _ _ _ _ => ⟨(t, .result), List.mem_append_right _ (List.mem_cons_self ..), rfl⟩
      · show s.value - 1 + (woken (a ++ (t, .result) :: b) : Int) = s.value + woken s.waiters
        have hpending : Future.pending ≠ .result := nofun
        rw [hws, woken_result, woken_of_ne hpending]
        omega
      · show (a ++ (t, Future.result) :: b).map Prod.fst = s.waiters.map Prod.fst
        rw [hws, List.map_append, List.map_append]
        rfl

theorem release_fair (hnonneg : 0 ≤ s.value) (hqueue : Queue s.waiters) :
    Fair s.release ∧ s.release.value + woken s.release.waiters = s.value + 1 + woken s.waiters ∧
      s.release.waiters.map Prod.fst = s.waiters.map Prod.fst :=
  wakeUpNext_fair (s := { s with value := s.value + 1 }) hqueue (Int.lt_add_one_of_le hnonneg)

/-- A task that finds the semaphore locked waits at the end of the queue. -/
theorem enqueue_fair (hfair : Fair s) (hlocked : s.locked = true)
    (hnew : t ∉ s.waiters.map Prod.fst) :
    Fair { s with waiters := s.waiters ++ [(t, .pending)] } := by
  refine ⟨hfair.nonneg, queue_middle.mpr ⟨?_, ?_, nofun, fun _ w hw => ?_⟩, ?_⟩
  · rw [List.append_nil]
    exact hfair.queue
  · rwa [List.append_nil]
  · exact (List.not_mem_nil hw).elim
  · -- a free permit is refused only beside a waiter, hence beside one that was woken
    intro hpos w _ _
    have hwaiter : ∃ v ∈ s.waiters, v.2 ≠ .cancelled := by
      rw [Semaphore.locked, Bool.or_eq_true, beq_iff_eq, List.any_eq_true] at hlocked
      obtain ⟨v, hv, hne⟩ := hlocked.resolve_left (Int.ne_of_gt hpos)
      exact ⟨v, hv, bne_iff_ne.mp hne⟩
    obtain ⟨⟨u, f⟩, hv, hne⟩ := hwaiter
    have hresult : ∃ v ∈ s.waiters, v.2 = .result := by
      cases f with
      | pending => exact hfair.handed hpos _ hv rfl
      | result => exact ⟨_, hv, rfl⟩
      | cancelled => exact absurd rfl hne
    obtain ⟨v, hv, hresult⟩ := hresult
    exact ⟨v, List.mem_append_left _ hv, hresult⟩

theorem unlocked (h : s.locked = false) : s.value ≠ 0 ∧ ∀ w ∈ s.waiters, w.2 = .cancelled := by
  rw [Semaphore.locked, Bool.or_eq_false_iff, List.any_eq_false] at h
  refine ⟨fun hzero => by simp [hzero] at h, fun w hw => ?_⟩
  have hw' := h.2 w hw
  simpa using hw'

variable [DecidableEq τ]

theorem split_of_lookup (h : ws.lookup t = some f) :
    ∃ a b, ws = a ++ (t, f) :: b ∧ ∀ w ∈ a, w.1 ≠ t := by
  induction ws with
  | nil => cases h
  | cons w ws ih =>
      obtain ⟨u, g⟩ := w
      rw [List.lookup_cons] at h
      split at h
      next htu =>
        obtain rfl := eq_of_beq htu
        cases h
        exact ⟨[], ws, rfl, fun w hw => (List.not_mem_nil hw).elim⟩
      next htu =>
        obtain ⟨a, b, rfl, ha⟩ := ih h
        refine ⟨(u, g) :: a, b, rfl, List.forall_mem_cons.mpr ⟨fun hut => ?_, ha⟩⟩
        exact absurd (beq_iff_eq.mpr hut.symm) (Bool.eq_false_iff.mp htu)

theorem remove_split (hws : s.waiters = a ++ (t, f) :: b) (ha : ∀ w ∈ a, w.1 ≠ t) :
    (s.remove t).waiters = a ++ b := by
  rw [Semaphore.remove, hws, List.eraseP_append_right _ fun w hw => by simpa using ha w hw,
    List.eraseP_cons_of_pos (by simp)]

theorem map_fst_cancel : (s.cancel t).waiters.map Prod.fst = s.waiters.map Prod.fst := by
  rw [Semaphore.cancel, List.map_map]
  refine List.map_congr_left fun w _ => ?_
  show (if w.1 = t ∧ w.2 = .pending then (t, Future.cancelled) else w).1 = w.1
  split
  next h => exact h.1.symm
  next => rfl

theorem removed (hqueue : Queue s.waiters) (h : s.waiters.lookup t = some f) :
    ∃ a b, s.waiters = a ++ (t, f) :: b ∧ (s.remove t).waiters = a ++ b ∧ Queue (a ++ b) ∧
      t ∉ (a ++ b).map Prod.fst := by
  obtain ⟨a, b, hws, ha⟩ := split_of_lookup h
  rw [hws] at hqueue
  obtain ⟨hrest, hnew, -, -⟩ := queue_middle.mp hqueue
  exact ⟨a, b, hws, remove_split hws ha, hrest, hnew⟩

/-- A waiter that was cancelled leaves the queue, and hands nothing on. -/
theorem remove_fair (hfair : Fair s) (h : s.waiters.lookup t = some .cancelled) :
    Fair (s.remove t) := by
  obtain ⟨a, b, hws, hremove, hqueue, -⟩ := removed hfair.queue h
  refine ⟨hfair.nonneg, hremove ▸ hqueue, fun hpos w hw hpending => ?_⟩
  rw [hremove] at hw ⊢
  have hbefore : w ∈ s.waiters := by
    rw [hws]
    exact List.mem_append.mpr ((List.mem_append.mp hw).imp_right (List.mem_cons_of_mem _))
  obtain ⟨v, hv, hresult⟩ := hfair.handed hpos w hbefore hpending
  rw [hws, List.mem_append, List.mem_cons] at hv
  rcases hv with hv | rfl | hv
  · exact ⟨v, List.mem_append_left _ hv, hresult⟩
  · cases hresult
  · exact ⟨v, List.mem_append_right _ hv, hresult⟩

/-- A waiter that is cancelled keeps its place, and was not woken. -/
theorem mem_cancel {w : τ × Future} (hw : w ∈ (s.cancel t).waiters) :
    w ∈ s.waiters ∨ w = (t, .cancelled) := by
  obtain ⟨v, hv, rfl⟩ := List.mem_map.mp hw
  by_cases h : v.1 = t ∧ v.2 = .pending
  · rw [if_pos h]
    exact Or.inr rfl
  · rw [if_neg h]
    exact Or.inl hv

theorem mem_cancel_result {w : τ × Future} (hw : w ∈ s.waiters) (hresult : w.2 = .result) :
    w ∈ (s.cancel t).waiters := by
  refine List.mem_map.mpr ⟨w, hw, if_neg fun h => ?_⟩
  rw [hresult] at h
  cases h.2

theorem woken_cancel : woken (s.cancel t).waiters = woken s.waiters := by
  rw [woken, woken, Semaphore.cancel, List.countP_map]
  refine List.countP_congr fun w _ => ?_
  show decide ((if w.1 = t ∧ w.2 = .pending then (t, Future.cancelled) else w).2 = .result) = true ↔
    _
  split
  next h => simp [h.2]
  next => exact Iff.rfl

theorem cancel_fair (hfair : Fair s) : Fair (s.cancel t) := by
  refine ⟨hfair.nonneg, ⟨?_, ?_⟩, fun hpos w hw hpending => ?_⟩
  · rw [map_fst_cancel]
    exact hfair.queue.distinct
  · refine List.Pairwise.map _ (fun v w hvw hv hw => ?_) hfair.queue.ordered
    split at hv
    · cases hv
    · split at hw
      · cases hw
      · exact hvw hv hw
  · have hbefore : w ∈ s.waiters :=
      (mem_cancel hw).resolve_right fun hw => by rw [hw] at hpending; cases hpending
    obtain ⟨v, hv, hresult⟩ := hfair.handed hpos w hbefore hpending
    exact ⟨v, mem_cancel_result hv hresult, hresult⟩

end Waiters

-- ── Every turn ────────────────────────────────────────────────────────────────────

section Invariant

variable {τ : Type} {s s' : State τ} {act : Act τ} {t u : τ} {l : List τ} {limit : Int}
  {sem : Semaphore τ} {p : Place}

/-- The tasks inside, each once. -/
structure Inside (s : State τ) (l : List τ) : Prop where
  nodup : l.Nodup
  mem : ∀ t, t ∈ l ↔ s.place t = .inside

/-- The queue holds the tasks that wait, and the permits are those that are free, those that were
    handed to a waiter, and those of the tasks inside. -/
structure Sound (limit : Int) (s : State τ) : Prop where
  fair : Fair s.semaphore
  waiting : ∀ t, s.place t = .waiting ↔ t ∈ s.semaphore.waiters.map Prod.fst
  permits : ∃ l, Inside s l ∧ s.semaphore.value + woken s.semaphore.waiters + l.length = limit

theorem Sound.not_queued (hs : Sound limit s) (ht : s.place t ≠ .waiting) :
    t ∉ s.semaphore.waiters.map Prod.fst :=
  fun hmem => ht ((hs.waiting t).mpr hmem)

/-- No more tasks are inside than there are permits. -/
theorem Sound.bounded (hs : Sound limit s) (hl : l.Nodup) (hin : ∀ t ∈ l, s.place t = .inside) :
    l.length ≤ limit := by
  obtain ⟨l', hl', hpermits⟩ := hs.permits
  have hlength : l.length ≤ l'.length :=
    (hl.subperm fun t ht => (hl'.mem t).mpr (hin t ht)).length_le
  have hnonneg := hs.fair.nonneg
  omega

theorem sound_initial (hlimit : 0 ≤ limit) : Sound limit (initial limit : State τ) := by
  refine
    ⟨⟨hlimit, ⟨List.nodup_nil, .nil⟩, fun _ w hw => (List.not_mem_nil hw).elim⟩, fun t => ?_, [],
    ⟨List.nodup_nil, fun t => ?_⟩, ?_⟩
  · exact iff_of_false nofun List.not_mem_nil
  · exact iff_of_false List.not_mem_nil nofun
  · exact (Int.add_zero _).trans (Int.add_zero _)

theorem mem_middle {a b : List (τ × Future)} {f : Future} (hu : u ≠ t) :
    u ∈ (a ++ b).map Prod.fst ↔ u ∈ (a ++ (t, f) :: b).map Prod.fst := by
  simp [hu]

variable [DecidableEq τ]

@[simp] theorem moved_semaphore : (s.moved t p sem).semaphore = sem := rfl

@[simp] theorem moved_self : (s.moved t p sem).place t = p := Function.update_self ..

@[simp] theorem moved_of_ne (h : u ≠ t) : (s.moved t p sem).place u = s.place u :=
  Function.update_of_ne h ..

theorem Inside.enter (hl : Inside s l) (ht : s.place t ≠ .inside) :
    Inside (s.moved t .inside sem) (t :: l) := by
  refine ⟨List.nodup_cons.mpr ⟨fun hmem => ht ((hl.mem t).mp hmem), hl.nodup⟩, fun u => ?_⟩
  rw [List.mem_cons]
  rcases eq_or_ne u t with rfl | hu
  · simp
  · rw [moved_of_ne hu, hl.mem u]
    exact or_iff_right hu

theorem Inside.keep (hl : Inside s l) (ht : s.place t ≠ .inside) (hp : p ≠ .inside) :
    Inside (s.moved t p sem) l := by
  refine ⟨hl.nodup, fun u => ?_⟩
  rcases eq_or_ne u t with rfl | hu
  · rw [moved_self, hl.mem u]
    exact iff_of_false ht hp
  · rw [moved_of_ne hu, hl.mem u]

theorem Inside.leave (hl : Inside s l) (hp : p ≠ .inside) :
    Inside (s.moved t p sem) (l.erase t) := by
  refine ⟨hl.nodup.erase t, fun u => ?_⟩
  rw [hl.nodup.mem_erase_iff]
  rcases eq_or_ne u t with rfl | hu
  · rw [moved_self]
    exact iff_of_false (fun h => h.1 rfl) hp
  · rw [moved_of_ne hu, hl.mem u]
    exact and_iff_right hu

/-- The tasks that wait, after one of them has come or gone. -/
theorem Sound.waiting_moved (hs : Sound limit s) (ht : p = .waiting ↔ t ∈ sem.waiters.map Prod.fst)
    (hothers : ∀ u, u ≠ t →
      (u ∈ sem.waiters.map Prod.fst ↔ u ∈ s.semaphore.waiters.map Prod.fst)) :
    ∀ u, (s.moved t p sem).place u = .waiting ↔ u ∈ sem.waiters.map Prod.fst := by
  intro u
  rcases eq_or_ne u t with rfl | hu
  · rw [moved_self]
    exact ht
  · rw [moved_of_ne hu, hothers u hu]
    exact hs.waiting u

/-- A waiter whose future is done goes on without the semaphore having changed otherwise than by
    handing permits on. -/
theorem Sound.resumed {a b : List (τ × Future)} {f : Future} (hs : Sound limit s)
    (hws : s.semaphore.waiters = a ++ (t, f) :: b) (hnew : t ∉ (a ++ b).map Prod.fst)
    (hkeys : sem.waiters.map Prod.fst = (a ++ b).map Prod.fst) (hp : p ≠ .waiting) :
    ∀ u, (s.moved t p sem).place u = .waiting ↔ u ∈ sem.waiters.map Prod.fst := by
  refine hs.waiting_moved ?_ fun u hu => ?_
  · rw [hkeys]
    exact iff_of_false hp hnew
  · rw [hkeys, hws]
    exact mem_middle hu

/-- **A turn of the loop keeps the account of the permits.** -/
theorem Sound.step (hs : Sound limit s) (h : Step s act s') : Sound limit s' := by
  obtain ⟨l, hl, hpermits⟩ := hs.permits
  have hfair := hs.fair
  cases step_turn h with
  | entered t hout hfree =>
      obtain ⟨hvalue, hnone⟩ := unlocked hfree
      have hnotin : s.place t ≠ .inside := by rw [hout]; nofun
      have hnotwait : s.place t ≠ .waiting := by rw [hout]; nofun
      refine ⟨⟨?_, hfair.queue, fun _ w hw hpending => ?_⟩, ?_, t :: l, hl.enter hnotin, ?_⟩
      · show 0 ≤ s.semaphore.value - 1
        have := hfair.nonneg
        omega
      · rw [hnone w hw] at hpending
        cases hpending
      · exact hs.waiting_moved (iff_of_false nofun (hs.not_queued hnotwait)) fun u _ => Iff.rfl
      · show s.semaphore.value - 1 + woken s.semaphore.waiters + ((t :: l).length : Int) = limit
        rw [List.length_cons]
        omega
  | queued t hout hlocked =>
      have hnotin : s.place t ≠ .inside := by rw [hout]; nofun
      have hnotwait : s.place t ≠ .waiting := by rw [hout]; nofun
      refine ⟨enqueue_fair hfair hlocked (hs.not_queued hnotwait), ?_, l, hl.keep hnotin nofun, ?_⟩
      · refine hs.waiting_moved (iff_of_true rfl (by simp)) fun u hu => ?_
        simp [hu]
      · have hpending : Future.pending ≠ .result := nofun
        show s.semaphore.value + woken (s.semaphore.waiters ++ [(t, .pending)]) +
          (l.length : Int) = limit
        rw [woken_of_ne hpending, List.append_nil]
        exact hpermits
  | skipped t hout =>
      have hnotin : s.place t ≠ .inside := by rw [hout]; nofun
      have hnotwait : s.place t ≠ .waiting := by rw [hout]; nofun
      refine ⟨hfair, ?_, l, hl.keep hnotin nofun, hpermits⟩
      exact hs.waiting_moved (iff_of_false nofun (hs.not_queued hnotwait)) fun u _ => Iff.rfl
  | admitted t hwait hwoken =>
      obtain ⟨a, b, hws, hremove, hqueue, hnew⟩ := removed hfair.queue hwoken
      have hnotin : s.place t ≠ .inside := by rw [hwait]; nofun
      have hcount : woken s.semaphore.waiters = woken (a ++ b) + 1 := by rw [hws, woken_result]
      by_cases hpos : 0 < s.semaphore.value
      · rw [if_pos hpos]
        obtain ⟨hfair', htotal, hkeys⟩ :=
          wakeUpNext_fair (s := s.semaphore.remove t) (hremove ▸ hqueue) hpos
        rw [hremove] at htotal hkeys
        refine ⟨hfair', hs.resumed hws hnew hkeys nofun, t :: l, hl.enter hnotin, ?_⟩
        show (s.semaphore.remove t).wakeUpNext.value +
          woken (s.semaphore.remove t).wakeUpNext.waiters +
          ((t :: l).length : Int) = limit
        rw [htotal, List.length_cons]
        show s.semaphore.value + (woken (a ++ b) : Int) + ((l.length + 1 : Nat) : Int) = limit
        omega
      · rw [if_neg hpos]
        refine ⟨⟨hfair.nonneg, hremove ▸ hqueue, fun h => absurd h hpos⟩,
          hs.resumed hws hnew (by rw [hremove]) nofun, t :: l, hl.enter hnotin, ?_⟩
        show s.semaphore.value + woken (s.semaphore.remove t).waiters +
          ((t :: l).length : Int) = limit
        rw [hremove, List.length_cons]
        omega
  | returned t hwait hwoken hmust =>
      obtain ⟨a, b, hws, hremove, hqueue, hnew⟩ := removed hfair.queue hwoken
      have hnotin : s.place t ≠ .inside := by rw [hwait]; nofun
      have hcount : woken s.semaphore.waiters = woken (a ++ b) + 1 := by rw [hws, woken_result]
      obtain ⟨hfair', htotal, hkeys⟩ :=
        release_fair (s := s.semaphore.remove t) hfair.nonneg (hremove ▸ hqueue)
      rw [hremove] at htotal hkeys
      refine ⟨hfair', hs.resumed hws hnew hkeys nofun, l, hl.keep hnotin nofun, ?_⟩
      show (s.semaphore.remove t).release.value + woken (s.semaphore.remove t).release.waiters +
        (l.length : Int) = limit
      rw [htotal]
      show s.semaphore.value + 1 + (woken (a ++ b) : Int) + l.length = limit
      omega
  | abandoned t hwait hcancelled =>
      obtain ⟨a, b, hws, hremove, hqueue, hnew⟩ := removed hfair.queue hcancelled
      have hnotin : s.place t ≠ .inside := by rw [hwait]; nofun
      have hcancelled' : Future.cancelled ≠ .result := nofun
      refine ⟨remove_fair hfair hcancelled, hs.resumed hws hnew (by rw [hremove]) nofun, l,
        hl.keep hnotin nofun, ?_⟩
      show s.semaphore.value + woken (s.semaphore.remove t).waiters + (l.length : Int) = limit
      rw [hremove, ← woken_of_ne hcancelled', ← hws]
      exact hpermits
  | exited t hin =>
      obtain ⟨hfair', htotal, hkeys⟩ := release_fair hfair.nonneg hfair.queue
      have hnotwait : s.place t ≠ .waiting := by rw [hin]; nofun
      refine ⟨hfair', ?_, l.erase t, hl.leave nofun, ?_⟩
      · refine hs.waiting_moved ?_ fun u _ => by rw [hkeys]
        rw [hkeys]
        exact iff_of_false nofun (hs.not_queued hnotwait)
      · have hlength := List.length_erase_add_one ((hl.mem t).mpr hin)
        show s.semaphore.release.value + woken s.semaphore.release.waiters +
          ((l.erase t).length : Int) = limit
        rw [htotal]
        omega
  | cancelled t m hwait hothers =>
      refine ⟨cancel_fair hfair, fun u => ?_, l, ⟨hl.nodup, hl.mem⟩, ?_⟩
      · show s.place u = .waiting ↔ u ∈ (s.semaphore.cancel t).waiters.map Prod.fst
        rw [map_fst_cancel]
        exact hs.waiting u
      · show s.semaphore.value + woken (s.semaphore.cancel t).waiters + (l.length : Int) = limit
        rw [woken_cancel]
        exact hpermits

theorem sound_run {acts : List (Act τ)} (hlimit : 0 ≤ limit)
    (hrun : Run Step (initial limit) acts s) : Sound limit s :=
  hrun.invariant (fun _ _ _ hs hstep => hs.step hstep) (sound_initial hlimit)

/-- Every task whose future is done has run. -/
def Settled (s : State τ) : Prop :=
  ∀ t, next s (.resume t) = none

theorem Sound.lookup (hs : Sound limit s) {f : Future} (hw : (t, f) ∈ s.semaphore.waiters) :
    s.semaphore.waiters.lookup t = some f := by
  obtain ⟨a, b, hws⟩ := List.append_of_mem hw
  have hqueue := hs.fair.queue
  rw [hws] at hqueue
  obtain ⟨-, hnew, -⟩ := queue_middle.mp hqueue
  rw [hws, List.lookup_append, List.lookup_eq_none_iff.mpr, Option.none_or, List.lookup_cons_self]
  intro w hw'
  have hmem : w.1 ∈ (a ++ b).map Prod.fst := List.mem_map_of_mem (List.mem_append_left _ hw')
  have hne : t ≠ w.1 := fun htw => hnew (htw ▸ hmem)
  exact bne_iff_ne.mpr hne

/-- In a settled state every waiter still waits for a permit. -/
theorem Sound.all_pending (hs : Sound limit s) (hsettled : Settled s) :
    ∀ w ∈ s.semaphore.waiters, w.2 = .pending := by
  rintro ⟨t, f⟩ hw
  have hplace : s.place t = .waiting := (hs.waiting t).mpr (List.mem_map_of_mem hw)
  have hlookup := hs.lookup hw
  have hnext := hsettled t
  simp only [next, hplace, if_true, Semaphore.resume, hlookup] at hnext
  cases f with
  | pending => rfl
  | result => cases hmust : s.must_cancel t <;> simp [hmust] at hnext
  | cancelled => cases hnext

/-- **No permit is lost.** In a settled state the permits that are not in use are free, and a task
    waits only if all are in use. -/
theorem Sound.settled (hs : Sound limit s) (hsettled : Settled s) :
    ∃ l, Inside s l ∧ s.semaphore.value = limit - l.length ∧
      ∀ t, s.place t = .waiting → (l.length : Int) = limit := by
  obtain ⟨l, hl, hpermits⟩ := hs.permits
  have hall := hs.all_pending hsettled
  have hwoken : woken s.semaphore.waiters = 0 := by
    refine List.countP_eq_zero.mpr fun w hw => ?_
    rw [hall w hw]
    simp
  refine ⟨l, hl, by omega, fun t ht => ?_⟩
  obtain ⟨w, hw, -⟩ := List.mem_map.mp ((hs.waiting t).mp ht)
  by_contra hne
  have hnonneg := hs.fair.nonneg
  obtain ⟨v, hv, hresult⟩ := hs.fair.handed (by omega) w hw (hall w hw)
  rw [hall v hv] at hresult
  cases hresult

end Invariant

end AsyncSemaphore
