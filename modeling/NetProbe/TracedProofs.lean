import Mathlib.Data.List.Basic

/-!
# Computations with a trace

A computation of `Traced ω ε α` does observable things (`ω`, in order) and ends in a result or
an exception.  What was observed before an exception stays observed.

`Guarded R hist tr` says that every event of the trace is one that `R` allows after what
happened before it, `hist` being what had happened before the trace began.  It splits along
the trace (`guarded_append`), so a composed computation satisfies it if its parts do, each
from the history the parts before it leave; and it gives back the statement about positions
(`Guarded.at`): in `pre ++ o :: post` the event `o` is allowed after `pre`.
-/

namespace TracedRun

variable {ω ε α β : Type}

/-- The events of a computation in order, and its result or the exception that ended it. -/
structure Traced (ω ε α : Type) where
  events : List ω
  outcome : Except ε α

namespace Traced

/-- Return without doing anything. -/
def ret (a : α) : Traced ω ε α := ⟨[], .ok a⟩

/-- `raise` -/
def raise (e : ε) : Traced ω ε α := ⟨[], .error e⟩

/-- Observable events, one after the other. -/
def tell (os : List ω) : Traced ω ε Unit := ⟨os, .ok ()⟩

/-- A call nobody observes. -/
def lift (x : Except ε α) : Traced ω ε α := ⟨[], x⟩

/-- Sequential composition. -/
def bind (p : Traced ω ε α) (f : α → Traced ω ε β) : Traced ω ε β :=
  match p.outcome with
  | .ok a => ⟨p.events ++ (f a).events, (f a).outcome⟩
  | .error e => ⟨p.events, .error e⟩

instance : Monad (Traced ω ε) where
  pure := ret
  bind := bind

@[simp] theorem pure_eq (a : α) : (pure a : Traced ω ε α) = ret a := rfl

@[simp] theorem bind_eq (p : Traced ω ε α) (f : α → Traced ω ε β) : (p >>= f) = p.bind f := rfl

@[simp] theorem bind_ret (a : α) (f : α → Traced ω ε β) : (ret a).bind f = f a := rfl

@[simp] theorem bind_raise (e : ε) (f : α → Traced ω ε β) :
    (raise e : Traced ω ε α).bind f = raise e := rfl

@[simp] theorem bind_tell (os : List ω) (f : Unit → Traced ω ε β) :
    (tell os).bind f = ⟨os ++ (f ()).events, (f ()).outcome⟩ := rfl

@[simp] theorem bind_lift_ok (a : α) (f : α → Traced ω ε β) :
    (lift (.ok a)).bind f = f a := rfl

@[simp] theorem bind_lift_error (e : ε) (f : α → Traced ω ε β) :
    (lift (.error e)).bind f = raise e := rfl

/-- A computation that returned goes on. -/
theorem bind_of_ok {p : Traced ω ε α} {a : α} (h : p.outcome = .ok a) (f : α → Traced ω ε β) :
    p.bind f = ⟨p.events ++ (f a).events, (f a).outcome⟩ := by
  unfold bind
  rw [h]

/-- A computation that raised does not go on. -/
theorem bind_of_error {p : Traced ω ε α} {e : ε} (h : p.outcome = .error e)
    (f : α → Traced ω ε β) : p.bind f = ⟨p.events, .error e⟩ := by
  unfold bind
  rw [h]

/-- `try: ... except: ...`: what was observed before the exception stays. -/
def tryCatch (p : Traced ω ε α) (handler : ε → Traced ω ε α) : Traced ω ε α :=
  match p.outcome with
  | .ok _ => p
  | .error e => ⟨p.events ++ (handler e).events, (handler e).outcome⟩

theorem tryCatch_of_ok {p : Traced ω ε α} {a : α} (h : p.outcome = .ok a)
    (handler : ε → Traced ω ε α) : p.tryCatch handler = p := by
  unfold tryCatch
  rw [h]

theorem tryCatch_of_error {p : Traced ω ε α} {e : ε} (h : p.outcome = .error e)
    (handler : ε → Traced ω ε α) :
    p.tryCatch handler = ⟨p.events ++ (handler e).events, (handler e).outcome⟩ := by
  unfold tryCatch
  rw [h]

end Traced

-- ── What may happen after what ────────────────────────────────────────────────────

/-- Every event of the trace is one that `R` allows after the events before it. -/
def Guarded (R : List ω → ω → Prop) : List ω → List ω → Prop
  | _, [] => True
  | hist, o :: tr => R hist o ∧ Guarded R (hist ++ [o]) tr

section Guarded

variable {R : List ω → ω → Prop} {hist tr tr' : List ω}

theorem guarded_append :
    Guarded R hist (tr ++ tr') ↔ Guarded R hist tr ∧ Guarded R (hist ++ tr) tr' := by
  induction tr generalizing hist with
  | nil => simp [Guarded]
  | cons o tr ih =>
      rw [List.cons_append]
      simp only [Guarded, ih, and_assoc, List.append_assoc, List.singleton_append]

/-- Events that are allowed after anything are allowed together. -/
theorem guarded_of_free (h : ∀ o ∈ tr, ∀ hist, R hist o) : Guarded R hist tr := by
  induction tr generalizing hist with
  | nil => trivial
  | cons o tr ih =>
      exact ⟨h o (by simp) hist, ih fun x hx => h x (List.mem_cons_of_mem _ hx)⟩

/-- The event at a position of the trace is allowed after what stands before it. -/
theorem Guarded.at {pre post : List ω} {o : ω} (h : Guarded R hist (pre ++ o :: post)) :
    R (hist ++ pre) o :=
  (guarded_append.mp h).2.1

end Guarded

end TracedRun
