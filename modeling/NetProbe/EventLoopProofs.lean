import Mathlib.Logic.Function.Basic
import Mathlib.Logic.Relation
import NetProbe.RunProofs

/-!
# Calls on a single event loop

A `Coroutine` reads and writes shared variables and awaits calls of a service.  Between two
awaits nothing else runs; at an await any other call may run, and the service answers when and
how it will (`Service.answer`).  `Step` is one turn of the loop: a call starts, or the service
answers the await of one, and it runs on to its next await or to its end.

The rule is that of a monitor.  An invariant of the shared variables, the state of the service
and the answers given so far is kept by a coroutine if it holds whenever it awaits or ends, given
that it held whenever it was resumed (`Keeps`).  If every call keeps it, every run does
(`kept_run`), and a call that ends has its postcondition at that moment (`Kept.step`).
-/

namespace EventLoop

open LabelledRun

-- ── Coroutines ────────────────────────────────────────────────────────────────────

section Coroutines

variable {γ κ ε α β : Type} {ans : κ → Type}

/-- A coroutine over shared variables `γ` that awaits calls `κ`, each with its type of answers. -/
inductive Coroutine (γ κ : Type) (ans : κ → Type) (ε α : Type) where
  | ret (a : α)
  | raise (e : ε)
  | reading (k : γ → Coroutine γ κ ans ε α)
  | writing (g : γ) (k : Coroutine γ κ ans ε α)
  | awaiting (c : κ) (k : Except ε (ans c) → Coroutine γ κ ans ε α)

namespace Coroutine

def bind : Coroutine γ κ ans ε α → (α → Coroutine γ κ ans ε β) → Coroutine γ κ ans ε β
  | ret a, f => f a
  | raise e, _ => raise e
  | reading k, f => reading fun g => (k g).bind f
  | writing g k, f => writing g (k.bind f)
  | awaiting c k, f => awaiting c fun o => (k o).bind f

instance : Monad (Coroutine γ κ ans ε) where
  pure := ret
  bind := bind

def read : Coroutine γ κ ans ε γ := reading ret

def write (g : γ) : Coroutine γ κ ans ε Unit := writing g (ret ())

/-- An exception of the call is raised at the await. -/
def await (c : κ) : Coroutine γ κ ans ε (ans c) :=
  awaiting c fun
    | .ok a => ret a
    | .error e => raise e

/-- `try: p` with `except` clauses. -/
def tryCatch : Coroutine γ κ ans ε α → (ε → Coroutine γ κ ans ε α) → Coroutine γ κ ans ε α
  | ret a, _ => ret a
  | raise e, f => f e
  | reading k, f => reading fun g => (k g).tryCatch f
  | writing g k, f => writing g (k.tryCatch f)
  | awaiting c k, f => awaiting c fun o => (k o).tryCatch f

end Coroutine

/-- The life of a call. -/
inductive Phase (γ κ : Type) (ans : κ → Type) (ε α : Type) where
  | created (p : Coroutine γ κ ans ε α)
  | suspended (c : κ) (k : Except ε (ans c) → Coroutine γ κ ans ε α)
  | ended (r : Except ε α)

/-- Run up to the next await or to the end. -/
def segment : Coroutine γ κ ans ε α → γ → Phase γ κ ans ε α × γ
  | .ret a, g => (.ended (.ok a), g)
  | .raise e, g => (.ended (.error e), g)
  | .reading k, g => segment (k g) g
  | .writing g k, _ => segment k g
  | .awaiting c k, g => (.suspended c k, g)

/-- How a call has ended, if it has. -/
def Phase.outcome : Phase γ κ ans ε α → Option (Except ε α)
  | .ended r => some r
  | _ => none

theorem ended_of_outcome {ph : Phase γ κ ans ε α} {r : Except ε α} (h : ph.outcome = some r) :
    ph = .ended r := by
  cases ph with
  | ended r' =>
      cases h
      rfl
  | created p => cases h
  | suspended c k => cases h

end Coroutines

-- ── The loop ──────────────────────────────────────────────────────────────────────

/-- A service answers the call `c` in one of the ways `ι`, if that way is open to it. -/
structure Service (κ : Type) (ans : κ → Type) (ι ω ε : Type) where
  answer : (c : κ) → ι → ω → Option (Except ε (ans c) × ω)

/-- A call that was awaited, and its answer. -/
abbrev Event (κ : Type) (ans : κ → Type) (ε : Type) : Type := (c : κ) × Except ε (ans c)

/-- One turn of the loop. -/
inductive Act (τ ι : Type) where
  | start (t : τ)
  | resume (t : τ) (i : ι)

/-- The shared variables, the service, the calls, and what each of them has awaited. -/
structure State (τ γ κ : Type) (ans : κ → Type) (ω ε α : Type) where
  shared : γ
  world : ω
  phase : τ → Phase γ κ ans ε α
  trace : τ → List (Event κ ans ε)

section Loop

variable {τ γ κ ι ω ε α : Type} {ans : κ → Type} [DecidableEq τ]

/-- No call has started. -/
def initial (prog : τ → Coroutine γ κ ans ε α) (g : γ) (w : ω) : State τ γ κ ans ω ε α where
  shared := g
  world := w
  phase := fun t => .created (prog t)
  trace := fun _ => []

/-- The call `t` goes on with `p`, over this state of the service. -/
def State.goOn (s : State τ γ κ ans ω ε α) (t : τ) (p : Coroutine γ κ ans ε α) (w : ω)
    (trace : τ → List (Event κ ans ε)) : State τ γ κ ans ω ε α where
  shared := (segment p s.shared).2
  world := w
  phase := Function.update s.phase t (segment p s.shared).1
  trace := trace

/-- The traces after one more answer. -/
def record (h : τ → List (Event κ ans ε)) (t : τ) (x : Event κ ans ε) : τ → List (Event κ ans ε) :=
  Function.update h t (h t ++ [x])

theorem mem_record {h : τ → List (Event κ ans ε)} {t u : τ} {x y : Event κ ans ε} :
    x ∈ record h t y u ↔ x ∈ h u ∨ u = t ∧ x = y := by
  rw [record]
  rcases eq_or_ne u t with rfl | hu
  · rw [Function.update_self, List.mem_append, List.mem_singleton, and_iff_right rfl]
  · rw [Function.update_of_ne hu]
    exact (or_iff_left fun hsame => hu hsame.1).symm

/-- One step. -/
def next (S : Service κ ans ι ω ε) (s : State τ γ κ ans ω ε α) :
    Act τ ι → Option (State τ γ κ ans ω ε α)
  | .start t =>
      match s.phase t with
      | .created p => some (s.goOn t p s.world s.trace)
      | _ => none
  | .resume t i =>
      match s.phase t with
      | .suspended c k =>
          (S.answer c i s.world).map fun r => s.goOn t (k r.1) r.2 (record s.trace t ⟨c, r.1⟩)
      | _ => none

def Step (S : Service κ ans ι ω ε) (s : State τ γ κ ans ω ε α) (act : Act τ ι)
    (s' : State τ γ κ ans ω ε α) : Prop :=
  next S s act = some s'

/-- A condition on the next answer to a call that awaits one. -/
def Phase.Meets (C : κ → Prop) : Phase γ κ ans ε α → Prop
  | .suspended c _ => C c
  | _ => True

/-- A condition on the answers: on the call, the answer, and the state before. -/
def Meets (S : Service κ ans ι ω ε) (C : (c : κ) → Except ε (ans c) → γ → ω → Prop)
    (s : State τ γ κ ans ω ε α) : Act τ ι → Prop
  | .start _ => True
  | .resume t i => (s.phase t).Meets fun c => ∀ r ∈ S.answer c i s.world, C c r.1 s.shared s.world

instance {C : κ → Prop} [DecidablePred C] : ∀ ph : Phase γ κ ans ε α, Decidable (ph.Meets C)
  | .created _ => isTrue trivial
  | .suspended c _ => inferInstanceAs (Decidable (C c))
  | .ended _ => isTrue trivial

instance {S : Service κ ans ι ω ε} {C : (c : κ) → Except ε (ans c) → γ → ω → Prop}
    [∀ c o g w, Decidable (C c o g w)] (s : State τ γ κ ans ω ε α) :
      ∀ act, Decidable (Meets S C s act)
  | .start _ => isTrue trivial
  | .resume t i => inferInstanceAs (Decidable ((s.phase t).Meets fun c =>
      ∀ r ∈ S.answer c i s.world, C c r.1 s.shared s.world))

/-- What the service may have become in the meantime. -/
def Later (S : Service κ ans ι ω ε) : ω → ω → Prop :=
  Relation.ReflTransGen fun w w' => ∃ c i o, S.answer c i w = some (o, w')

/-- A step starts a call or resumes one. -/
theorem step_cases {S : Service κ ans ι ω ε} {s s' : State τ γ κ ans ω ε α} {act : Act τ ι}
    (h : Step S s act s') :
    (∃ t p, act = .start t ∧ s.phase t = .created p ∧ s' = s.goOn t p s.world s.trace) ∨
      ∃ t i c k o w, act = .resume t i ∧ s.phase t = .suspended c k ∧
        S.answer c i s.world = some (o, w) ∧ s' = s.goOn t (k o) w (record s.trace t ⟨c, o⟩) := by
  rw [Step] at h
  cases act with
  | start t =>
      simp only [next] at h
      split at h
      next p hp => exact Or.inl ⟨t, p, rfl, hp, (Option.some.inj h).symm⟩
      next => cases h
  | resume t i =>
      simp only [next] at h
      split at h
      next c k hk =>
        obtain ⟨⟨o, w⟩, ho, rfl⟩ := Option.map_eq_some_iff.mp h
        exact Or.inr ⟨t, i, c, k, o, w, rfl, hk, ho, rfl⟩
      next => cases h

end Loop

-- ── The rule ──────────────────────────────────────────────────────────────────────

section Rule

variable {τ γ κ ι ω ε α β : Type} {ans : κ → Type} [DecidableEq τ] (S : Service κ ans ι ω ε)
  (C : (c : κ) → Except ε (ans c) → γ → ω → Prop) (I : γ → ω → (τ → List (Event κ ans ε)) → Prop)

/-- What holds of the shared variables, the service and the traces when a call ends. -/
abbrev Post (τ γ κ : Type) (ans : κ → Type) (ω ε α : Type) : Type :=
  Except ε α → γ → ω → (τ → List (Event κ ans ε)) → Prop

/-- The call `t` gives the shared variables up with the invariant at every await, if it finds the
    invariant whenever it is resumed, and ends with `Q`. -/
def Keeps (t : τ) (Q : Post τ γ κ ans ω ε α) :
    Coroutine γ κ ans ε α → γ → ω → (τ → List (Event κ ans ε)) → Prop
  | .ret a => Q (.ok a)
  | .raise e => Q (.error e)
  | .reading k => fun g w h => Keeps t Q (k g) g w h
  | .writing g k => fun _ w h => Keeps t Q k g w h
  | .awaiting c k => fun g w h => I g w h ∧
      ∀ g' w' h' i o w'', I g' w' h' → Later S w w' → h' t = h t → S.answer c i w' = some (o, w'') →
        C c o g' w' → Keeps t Q (k o) g' w'' (record h' t ⟨c, o⟩)

/-- The same after the await. -/
def Resumes (t : τ) (Q : Post τ γ κ ans ω ε α) (c : κ)
    (k : Except ε (ans c) → Coroutine γ κ ans ε α)
    (w : ω) (l : List (Event κ ans ε)) : Prop :=
  ∀ g' w' h' i o w'', I g' w' h' → Later S w w' → h' t = l → S.answer c i w' = some (o, w'') →
    C c o g' w' → Keeps S C I t Q (k o) g' w'' (record h' t ⟨c, o⟩)

/-- What is left of a call keeps the invariant, or it has ended with `Q`. -/
def PhaseKept (t : τ) (Q : Post τ γ κ ans ω ε α) (w : ω) (l : List (Event κ ans ε)) :
    Phase γ κ ans ε α → Prop
  | .created p => ∀ g' w' h', I g' w' h' → h' t = l → Keeps S C I t Q p g' w' h'
  | .suspended c k => Resumes S C I t Q c k w l
  | .ended r => ∃ g' w' h', h' t = l ∧ Q r g' w' h'

/-- The invariant of a state.  A call that ends leaves the invariant of the shared variables, and
    its postcondition. -/
structure Kept (Q : τ → Post τ γ κ ans ω ε α) (s : State τ γ κ ans ω ε α) : Prop where
  inv : I s.shared s.world s.trace
  phases : ∀ t, PhaseKept S C I t (fun r g w h => I g w h ∧ Q t r g w h) s.world
    (s.trace t) (s.phase t)

end Rule

-- ── Rules for coroutines ──────────────────────────────────────────────────────────

section Sequencing

variable {τ γ κ ι ω ε α β : Type} {ans : κ → Type} [DecidableEq τ] {S : Service κ ans ι ω ε}
  {C : (c : κ) → Except ε (ans c) → γ → ω → Prop}
  {I : γ → ω → (τ → List (Event κ ans ε)) → Prop} {t : τ}
  {Q : Post τ γ κ ans ω ε α} {p : Coroutine γ κ ans ε α} {g : γ} {w : ω}
  {h : τ → List (Event κ ans ε)}

@[simp] theorem keeps_pure {a : α} :
    Keeps S C I t Q (pure a : Coroutine γ κ ans ε α) g w h ↔ Q (.ok a) g w h := Iff.rfl

@[simp] theorem keeps_raise {e : ε} :
    Keeps S C I t Q (.raise e : Coroutine γ κ ans ε α) g w h ↔ Q (.error e) g w h := Iff.rfl

@[simp] theorem keeps_read {Q : Post τ γ κ ans ω ε γ} :
    Keeps S C I t Q (.read : Coroutine γ κ ans ε γ) g w h ↔ Q (.ok g) g w h := Iff.rfl

@[simp] theorem keeps_write {Q : Post τ γ κ ans ω ε Unit} {g' : γ} :
    Keeps S C I t Q (.write g' : Coroutine γ κ ans ε Unit) g w h ↔ Q (.ok ()) g' w h := Iff.rfl

/-- The rule of the await. -/
theorem keeps_await {c : κ} {Q : Post τ γ κ ans ω ε (ans c)} (hI : I g w h)
    (hresume : ∀ g' w' h' i o w'', I g' w' h' → Later S w w' → h' t = h t →
      S.answer c i w' = some (o, w'') → C c o g' w' → Q o g' w'' (record h' t ⟨c, o⟩)) :
    Keeps S C I t Q (.await c : Coroutine γ κ ans ε (ans c)) g w h := by
  refine ⟨hI, fun g' w' h' i o w'' hI' hlater hown hanswer hC => ?_⟩
  have hQ := hresume g' w' h' i o w'' hI' hlater hown hanswer hC
  cases o with
  | ok a => exact hQ
  | error e => exact hQ

/-- The rule of sequencing. -/
@[simp] theorem keeps_bind {Q : Post τ γ κ ans ω ε β} {f : α → Coroutine γ κ ans ε β} :
    Keeps S C I t Q (p >>= f) g w h ↔
      Keeps S C I t (fun r g w h => match r with
        | .ok a => Keeps S C I t Q (f a) g w h
        | .error e => Q (.error e) g w h) p g w h := by
  show Keeps S C I t Q (p.bind f) g w h ↔ _
  induction p generalizing g w h with
  | ret a => exact Iff.rfl
  | raise e => exact Iff.rfl
  | reading k ih => exact ih g
  | writing g k ih => exact ih
  | awaiting c k ih =>
      refine and_congr_right fun _ => ?_
      constructor
      · intro hresume g' w' h' i o w'' hI hlater hown hanswer hC
        exact (ih o).mp (hresume g' w' h' i o w'' hI hlater hown hanswer hC)
      · intro hresume g' w' h' i o w'' hI hlater hown hanswer hC
        exact (ih o).mpr (hresume g' w' h' i o w'' hI hlater hown hanswer hC)

/-- The rule of `try`. -/
@[simp] theorem keeps_tryCatch {f : ε → Coroutine γ κ ans ε α} :
    Keeps S C I t Q (p.tryCatch f) g w h ↔
      Keeps S C I t (fun r g w h => match r with
        | .ok a => Q (.ok a) g w h
        | .error e => Keeps S C I t Q (f e) g w h) p g w h := by
  induction p generalizing g w h with
  | ret a => exact Iff.rfl
  | raise e => exact Iff.rfl
  | reading k ih => exact ih g
  | writing g k ih => exact ih
  | awaiting c k ih =>
      refine and_congr_right fun _ => ?_
      constructor
      · intro hresume g' w' h' i o w'' hI hlater hown hanswer hC
        exact (ih o).mp (hresume g' w' h' i o w'' hI hlater hown hanswer hC)
      · intro hresume g' w' h' i o w'' hI hlater hown hanswer hC
        exact (ih o).mpr (hresume g' w' h' i o w'' hI hlater hown hanswer hC)

/-- A weaker postcondition is met as well. -/
theorem Keeps.mono {Q' : Post τ γ κ ans ω ε α} (hp : Keeps S C I t Q p g w h)
    (hQ : ∀ r g w h, Q r g w h → Q' r g w h) : Keeps S C I t Q' p g w h := by
  induction p generalizing g w h with
  | ret a => exact hQ _ _ _ _ hp
  | raise e => exact hQ _ _ _ _ hp
  | reading k ih => exact ih g hp
  | writing g k ih => exact ih hp
  | awaiting c k ih =>
      refine ⟨hp.1, fun g' w' h' i o w'' hI hlater hown hanswer hC => ?_⟩
      exact ih o (hp.2 g' w' h' i o w'' hI hlater hown hanswer hC)

/-- When a call ends, the service is what it has become in the meantime. -/
theorem Keeps.later (hp : Keeps S C I t Q p g w h) :
    Keeps S C I t (fun r g w' h => Later S w w' ∧ Q r g w' h) p g w h := by
  induction p generalizing g w h with
  | ret a => exact ⟨.refl, hp⟩
  | raise e => exact ⟨.refl, hp⟩
  | reading k ih => exact ih g hp
  | writing g k ih => exact ih hp
  | awaiting c k ih =>
      refine ⟨hp.1, fun g' w' h' i o w'' hI hlater hown hanswer hC => ?_⟩
      refine (ih o (hp.2 g' w' h' i o w'' hI hlater hown hanswer hC)).mono fun r g₁ w₁ h₁ hr => ?_
      exact ⟨(hlater.tail ⟨c, i, o, hanswer⟩).trans hr.1, hr.2⟩

/-- After a segment the call awaits with the invariant, or it has ended. -/
theorem keeps_segment (hp : Keeps S C I t (fun r g w h => I g w h ∧ Q r g w h) p g w h) :
    I (segment p g).2 w h ∧
      PhaseKept S C I t (fun r g w h => I g w h ∧ Q r g w h) w (h t) (segment p g).1 ∧
      ∀ r, (segment p g).1 = .ended r → Q r (segment p g).2 w h := by
  induction p generalizing g with
  | ret a =>
      obtain ⟨hI, hQ⟩ := hp
      refine ⟨hI, ⟨g, w, h, rfl, hI, hQ⟩, fun r hr => ?_⟩
      cases hr
      exact hQ
  | raise e =>
      obtain ⟨hI, hQ⟩ := hp
      refine ⟨hI, ⟨g, w, h, rfl, hI, hQ⟩, fun r hr => ?_⟩
      cases hr
      exact hQ
  | reading k ih => exact ih g hp
  | writing g k ih => exact ih hp
  | awaiting c k ih =>
      refine ⟨hp.1, hp.2, fun r hr => ?_⟩
      cases hr

/-- Any coroutine keeps what is always true. -/
theorem keeps_trivial :
    Keeps S C (fun _ _ _ => True) t (fun _ _ _ _ => True) p g w h := by
  induction p generalizing g w h with
  | ret a => exact trivial
  | raise e => exact trivial
  | reading k ih => exact ih g
  | writing g k ih => exact ih
  | awaiting c k ih => exact ⟨trivial, fun _ _ _ _ o _ _ _ _ _ _ => ih o⟩

end Sequencing

-- ── Coroutines that only call ─────────────────────────────────────────────────────

section Calling

variable {τ γ κ ι ω ε α β : Type} {ans : κ → Type} [DecidableEq τ] {S : Service κ ans ι ω ε}
  {C : (c : κ) → Except ε (ans c) → γ → ω → Prop}
  {I : γ → ω → (τ → List (Event κ ans ε)) → Prop} {t : τ}
  {p : Coroutine γ κ ans ε α} {g : γ} {w : ω} {h : τ → List (Event κ ans ε)}

/-- No answer of the service breaks the invariant. -/
def Undisturbed (S : Service κ ans ι ω ε) (I : γ → ω → (τ → List (Event κ ans ε)) → Prop) : Prop :=
  ∀ g w h t c i o w', I g w h → S.answer c i w = some (o, w') → I g w' (record h t ⟨c, o⟩)

/-- From `w` on the call keeps the invariant and ends with `Q`, which is about the service alone. -/
def Calls (S : Service κ ans ι ω ε) (C : (c : κ) → Except ε (ans c) → γ → ω → Prop)
    (I : γ → ω → (τ → List (Event κ ans ε)) → Prop) (t : τ) (p : Coroutine γ κ ans ε α) (w : ω)
    (Q : Except ε α → ω → Prop) : Prop :=
  ∀ g h, I g w h → Keeps S C I t (fun r g w h => I g w h ∧ Q r w) p g w h

variable {Q : Except ε α → ω → Prop} {R : Except ε β → ω → Prop}

theorem calls_pure {a : α} (hQ : Q (.ok a) w) :
    Calls S C I t (pure a : Coroutine γ κ ans ε α) w Q := fun _ _ hI => ⟨hI, hQ⟩

theorem calls_raise {e : ε} (hQ : Q (.error e) w) :
    Calls S C I t (.raise e : Coroutine γ κ ans ε α) w Q := fun _ _ hI => ⟨hI, hQ⟩

theorem calls_await {c : κ} {Q : Except ε (ans c) → ω → Prop} (hI : Undisturbed S I)
    (hanswer : ∀ w' i o w'', Later S w w' → S.answer c i w' = some (o, w'') → Q o w'') :
    Calls S C I t (.await c : Coroutine γ κ ans ε (ans c)) w Q := by
  intro g h hg
  refine keeps_await hg fun g' w' h' i o w'' hg' hlater _ ho _ => ?_
  exact ⟨hI g' w' h' t c i o w'' hg' ho, hanswer w' i o w'' hlater ho⟩

theorem calls_bind {f : α → Coroutine γ κ ans ε β} (hp : Calls S C I t p w Q)
    (hf : ∀ a w', Q (.ok a) w' → Calls S C I t (f a) w' R)
    (he : ∀ e w', Q (.error e) w' → R (.error e) w') : Calls S C I t (p >>= f) w R := by
  intro g h hg
  refine keeps_bind.mpr ((hp g h hg).mono fun r g' w' h' hr => ?_)
  cases r with
  | ok a => exact hf a w' hr.2 g' h' hr.1
  | error e => exact ⟨hr.1, he e w' hr.2⟩

theorem calls_tryCatch {f : ε → Coroutine γ κ ans ε α} {Q' : Except ε α → ω → Prop}
    (hp : Calls S C I t p w Q) (hok : ∀ a w', Q (.ok a) w' → Q' (.ok a) w')
    (hf : ∀ e w', Q (.error e) w' → Calls S C I t (f e) w' Q') :
      Calls S C I t (p.tryCatch f) w Q' := by
  intro g h hg
  refine keeps_tryCatch.mpr ((hp g h hg).mono fun r g' w' h' hr => ?_)
  cases r with
  | ok a => exact ⟨hr.1, hok a w' hr.2⟩
  | error e => exact hf e w' hr.2 g' h' hr.1

theorem Calls.mono {Q' : Except ε α → ω → Prop} (hp : Calls S C I t p w Q)
    (hQ : ∀ r w, Q r w → Q' r w) : Calls S C I t p w Q' :=
  fun g h hg => (hp g h hg).mono fun r _ w' _ hr => ⟨hr.1, hQ r w' hr.2⟩

theorem Calls.later (hp : Calls S C I t p w Q) :
    Calls S C I t p w fun r w' => Later S w w' ∧ Q r w' :=
  fun g h hg => (hp g h hg).later.mono fun _ _ _ _ hr => ⟨hr.2.1, hr.1, hr.2.2⟩

end Calling

-- ── Runs ──────────────────────────────────────────────────────────────────────────

/-- The step from `s` to `s'` ends the call `t` with `r`. -/
def Ends {τ γ κ ω ε α : Type} {ans : κ → Type} (s s' : State τ γ κ ans ω ε α) (t : τ)
    (r : Except ε α) : Prop :=
  (∀ r', s.phase t ≠ .ended r') ∧ s'.phase t = .ended r

section Runs

variable {τ γ κ ι ω ε α : Type} {ans : κ → Type} [DecidableEq τ] {S : Service κ ans ι ω ε}
  {C : (c : κ) → Except ε (ans c) → γ → ω → Prop} {I : γ → ω → (τ → List (Event κ ans ε)) → Prop}
  {Q : τ → Post τ γ κ ans ω ε α} {prog : τ → Coroutine γ κ ans ε α} {g : γ} {w w' : ω}
  {s s' : State τ γ κ ans ω ε α} {act : Act τ ι} {acts : List (Act τ ι)} {t : τ}
  {r : Except ε α}

omit [DecidableEq τ] in
/-- Every step meets a condition that is always true. -/
theorem meets_trivial : Meets S (fun _ _ _ _ => True) s act := by
  cases act with
  | start t => exact trivial
  | resume t i =>
      rw [Meets]
      cases s.phase t with
      | suspended c k => exact fun _ _ => trivial
      | created p => exact trivial
      | ended r => exact trivial

/-- What a call does after an await, it does after it at any later moment. -/
theorem PhaseKept.later {Q : Post τ γ κ ans ω ε α} {l : List (Event κ ans ε)}
    {ph : Phase γ κ ans ε α}
    (h : PhaseKept S C I t Q w l ph) (hlater : Later S w w') : PhaseKept S C I t Q w' l ph := by
  cases ph with
  | created p => exact h
  | suspended c k =>
      intro g₁ w₁ h₁ i o w₂ hI hmore
      exact h g₁ w₁ h₁ i o w₂ hI (hlater.trans hmore)
  | ended r => exact h

/-- A call that goes on with a coroutine that keeps the invariant. -/
theorem kept_goOn {p : Coroutine γ κ ans ε α} {h : τ → List (Event κ ans ε)} (hs : Kept S C I Q s)
    (hlater : Later S s.world w) (hothers : ∀ u, u ≠ t → h u = s.trace u)
    (hp : Keeps S C I t (fun r g w h => I g w h ∧ Q t r g w h) p s.shared w h) :
    Kept S C I Q (s.goOn t p w h) ∧
      ∀ u r, Ends s (s.goOn t p w h) u r → Q u r (s.goOn t p w h).shared w h := by
  obtain ⟨hI, hphase, hends⟩ := keeps_segment hp
  have hself : (s.goOn t p w h).phase t = (segment p s.shared).1 := Function.update_self ..
  have hother : ∀ u, u ≠ t → (s.goOn t p w h).phase u = s.phase u := fun u hu =>
    Function.update_of_ne hu ..
  refine ⟨⟨hI, fun u => ?_⟩, fun u r hr => ?_⟩
  · show PhaseKept S C I u _ w (h u) ((s.goOn t p w h).phase u)
    rcases eq_or_ne u t with rfl | hu
    · rw [hself]
      exact hphase
    · rw [hother u hu, hothers u hu]
      exact (hs.phases u).later hlater
  · rcases eq_or_ne u t with rfl | hu
    · exact hends r (hself.symm.trans hr.2)
    · exact absurd ((hother u hu).symm.trans hr.2) (hr.1 r)

/-- **A step keeps the invariant**, and a call that it ends has its postcondition then. -/
theorem Kept.step (hs : Kept S C I Q s) (h : Restrict (Step S) (Meets S C) s act s') :
    Kept S C I Q s' ∧ ∀ t r, Ends s s' t r → Q t r s'.shared s'.world s'.trace := by
  obtain ⟨hC, hstep⟩ := h
  rcases step_cases hstep with ⟨t, p, rfl, hp, rfl⟩ | ⟨t, i, c, k, o, w, rfl, hk, hanswer, rfl⟩
  · have hphase := hs.phases t
    rw [hp] at hphase
    exact kept_goOn hs .refl (fun _ _ => rfl) (hphase _ _ _ hs.inv rfl)
  · have hphase := hs.phases t
    rw [Meets, hk] at hC
    have hanswered : C c o s.shared s.world := hC (o, w) hanswer
    rw [hk] at hphase
    refine kept_goOn hs (.single ⟨c, i, o, hanswer⟩) (fun u hu => Function.update_of_ne hu ..) ?_
    exact hphase _ _ _ i o w hs.inv .refl rfl hanswer hanswered

/-- Calls that keep the invariant keep it from their start. -/
theorem kept_initial (hI : I g w fun _ => [])
    (hprog : ∀ t g w h, I g w h → h t = [] →
      Keeps S C I t (fun r g w h => I g w h ∧ Q t r g w h) (prog t) g w h) :
    Kept S C I Q (initial prog g w) :=
  ⟨hI, fun t g' w' h' hI' hown => hprog t g' w' h' hI' hown⟩

/-- From its start on a call has its postcondition, whatever runs beside it. -/
theorem kept_start {p : Coroutine γ κ ans ε α} (hothers : ∀ u, u ≠ t → ∀ r g w h, Q u r g w h)
    (hp : Keeps S C (fun _ _ _ => True) t (Q t) p s.shared s.world s.trace) :
    Kept S C (fun _ _ _ => True) Q (s.goOn t p s.world s.trace) := by
  refine ⟨trivial, fun u => ?_⟩
  rcases eq_or_ne u t with rfl | hu
  · have hself : (s.goOn u p s.world s.trace).phase u = (segment p s.shared).1 :=
      Function.update_self ..
    rw [hself]
    exact (keeps_segment (hp.mono fun _ _ _ _ hQ => ⟨trivial, hQ⟩)).2.1
  · have hQ : ∀ r g w h, True ∧ Q u r g w h := fun r g w h => ⟨trivial, hothers u hu r g w h⟩
    cases (s.goOn t p s.world s.trace).phase u with
    | created p => exact fun g w h _ _ => keeps_trivial.mono fun r g w h _ => hQ r g w h
    | suspended c k =>
        exact fun g w h i o w' _ _ _ _ _ => keeps_trivial.mono fun r g w h _ => hQ r g w h
    | ended r => exact ⟨s.shared, s.world, s.trace, rfl, hQ r _ _ _⟩

/-- **A run keeps the invariant.** -/
theorem kept_run (hs : Kept S C I Q s) (hrun : Run (Restrict (Step S) (Meets S C)) s acts s') :
    Kept S C I Q s' :=
  hrun.invariant (fun _ _ _ hkept hstep => (hkept.step hstep).1) hs

/-- What an ended call has left of its postcondition: what it says about the awaits of the call. -/
theorem Kept.ended (hs : Kept S C I Q s) (hr : s.phase t = .ended r) :
    ∃ g w h, h t = s.trace t ∧ Q t r g w h := by
  have hphase := hs.phases t
  rw [hr] at hphase
  obtain ⟨g, w, h, hown, -, hQ⟩ := hphase
  exact ⟨g, w, h, hown, hQ⟩

/-- A call that has ended stays so. -/
theorem ended_step (h : Step S s act s') (hr : s.phase t = .ended r) : s'.phase t = .ended r := by
  rcases step_cases h with ⟨u, p, rfl, hp, rfl⟩ | ⟨u, i, c, k, o, w, rfl, hk, -, rfl⟩
  · have htu : t ≠ u := by
      rintro rfl
      rw [hr] at hp
      cases hp
    exact (Function.update_of_ne htu ..).trans hr
  · have htu : t ≠ u := by
      rintro rfl
      rw [hr] at hk
      cases hk
    exact (Function.update_of_ne htu ..).trans hr

/-- A call that is not started stays as it is. -/
theorem created_of_run {p : Coroutine γ κ ans ε α} (hrun : Run (Step S) s acts s')
    (hp : s.phase t = .created p) (hnot : Act.start t ∉ acts) : s'.phase t = .created p := by
  induction hrun with
  | nil s => exact hp
  | cons hstep _ ih =>
      refine ih ?_ fun hmem => hnot (List.mem_cons_of_mem _ hmem)
      rcases step_cases hstep with ⟨u, q, rfl, -, rfl⟩ | ⟨u, i, c, k, o, w, rfl, hk, -, rfl⟩
      · have htu : t ≠ u := by
          rintro rfl
          exact hnot List.mem_cons_self
        exact (Function.update_of_ne htu ..).trans hp
      · have htu : t ≠ u := by
          rintro rfl
          rw [hp] at hk
          cases hk
        exact (Function.update_of_ne htu ..).trans hp

/-- A call that a run ends, a step of it ends. -/
theorem exists_ends (hrun : Run (Step S) s acts s') (hnot : ∀ r, s.phase t ≠ .ended r)
    (hr : s'.phase t = .ended r) : ∃ before act after m m', acts = before ++ act :: after ∧
      Run (Step S) s before m ∧ Step S m act m' ∧ Ends m m' t r ∧ Run (Step S) m' after s' := by
  induction hrun with
  | nil s => exact absurd hr (hnot r)
  | @cons s m s' act acts hstep hrest ih =>
      by_cases hended : ∃ r', m.phase t = .ended r'
      · obtain ⟨r', hr'⟩ := hended
        have hsame : s'.phase t = .ended r' :=
          hrest.invariant (I := fun m => m.phase t = .ended r')
            (fun _ _ _ hm h => ended_step h hm) hr'
        rw [hr] at hsame
        cases hsame
        exact ⟨[], act, acts, s, m, rfl, .nil s, hstep, ⟨hnot, hr'⟩, hrest⟩
      · obtain ⟨before, act', after, m₁, m₂, rfl, hbefore, hstep', hends, hafter⟩ :=
          ih (fun r' hr' => hended ⟨r', hr'⟩) hr
        exact ⟨act :: before, act', after, m₁, m₂, rfl, .cons hstep hbefore, hstep', hends, hafter⟩

/-- What a step has done to the service. -/
theorem later_of_step (h : Step S s act s') : Later S s.world s'.world := by
  rcases step_cases h with ⟨t, p, rfl, -, rfl⟩ | ⟨t, i, c, k, o, w, rfl, -, hanswer, rfl⟩
  · exact .refl
  · exact .single ⟨c, i, o, hanswer⟩

theorem later_of_run (hrun : Run (Step S) s acts s') : Later S s.world s'.world := by
  induction hrun with
  | nil s => exact .refl
  | cons hstep _ ih => exact Relation.ReflTransGen.trans (later_of_step hstep) ih

/-- **A call that is started and ends** has its postcondition at its end, whatever runs beside it
    and whatever comes after it. -/
theorem ended_of_start {p : Coroutine γ κ ans ε α} {P : Except ε α → ω → Prop} {r : Except ε α}
    (hcreated : s.phase t = .created p) (hsuspends : ∀ r, (segment p s.shared).1 ≠ .ended r)
    (hp : Keeps S (fun _ _ _ _ => True) (fun _ _ _ => True) t
      (fun r _ w _ => P r w) p s.shared s.world s.trace)
    (hrun : Run (Step S) s (.start t :: acts) s') (hended : s'.phase t = .ended r) :
    ∃ w, P r w ∧ Later S w s'.world := by
  cases hrun with
  | @cons _ m _ _ _ hstart hrest =>
      rcases step_cases hstart with ⟨u, p', hu, hp', rfl⟩ | ⟨u, i, c, k, o, w, hu, -⟩
      · cases hu
        rw [hcreated] at hp'
        cases hp'
        have hkept := kept_start (S := S) (C := fun _ _ _ _ => True)
          (Q := fun u r _ w _ => u = t → P r w) (s := s) (t := t)
            (fun u hu r g w h hut => absurd hut hu)
          (hp.mono fun r g w h hr _ => hr)
        have hself : (s.goOn t p s.world s.trace).phase t = (segment p s.shared).1 :=
          Function.update_self ..
        obtain ⟨before, act, after, m, m', -, hbefore, hstep, hends, hafter⟩ :=
          exists_ends hrest (fun r hr => hsuspends r (hself.symm.trans hr)) hended
        have hkept' := kept_run hkept (hbefore.restrict_of_all fun _ _ => meets_trivial)
        exact ⟨m'.world, (hkept'.step ⟨meets_trivial, hstep⟩).2 t r hends rfl, later_of_run hafter⟩
      · cases hu

/-- A computed run whose steps meet the condition. -/
theorem run_of_exec_meets [∀ c o g w, Decidable (C c o g w)]
    (h : exec (fun s act => if Meets S C s act then next S s act else none) s acts = some s') :
    Run (Restrict (Step S) (Meets S C)) s acts s' := by
  refine .of_exec (fun s act s' hnext => ?_) h
  split at hnext
  next hmeets => exact ⟨hmeets, hnext⟩
  next => cases hnext

/-- A computed run. -/
theorem run_of_exec (h : exec (next S) s acts = some s') : Run (Step S) s acts s' :=
  .of_exec (fun _ _ _ hnext => hnext) h

end Runs

end EventLoop
