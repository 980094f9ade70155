import Mathlib.Data.List.Basic

/-!
# Transaction programs

A transaction is a program over a store: a tree of SQL statements, of events emitted to the
outside (log lines, calls that are observed) and of two ends, a normal return (COMMIT) and an
exception (ROLLBACK).  The shape follows what a client of a row-locking database does:

* a **statement** first finds the rows it concerns (`found`, the keys of these rows in what
  the statement can see), and once it holds their locks it reads and writes them: `effect`
  is the change of the store, computed from the keys found and the view of the statement, and
  the continuation receives the same two;
* an **event** happens at once and is not undone by a later rollback;
* `ret` and `raise` end the transaction.

The writes of a statement are a function on stores, so they can be kept aside until the
transaction commits.  One program has two meanings: `eval` runs it alone on a store (this
file), and the interleaved meaning over many transactions is built on the same programs in
the read-committed file.

`Always Q p w` is the demonic precondition: whatever the statements find and see, if the
program commits then `Q` holds of its result and of everything it has written.  `Makes W R p`
lists the changes that the statements of a program can make (`W`), one by one; what each of
them keeps, the program keeps, run alone or interleaved.
-/

namespace Transaction

variable {κ σ ω ε α β : Type}

/-- Transaction programs with lock keys `κ`, stores `σ`, events `ω`, exceptions `ε` and
    results `α`. -/
inductive Txn (κ σ ω ε α : Type) : Type where
  | ret (a : α)
  | raise (e : ε)
  | emit (o : ω) (k : Txn κ σ ω ε α)
  | stmt (found : σ → List κ) (effect : List κ → σ → σ → σ) (k : List κ → σ → Txn κ σ ω ε α)

namespace Txn

/-- Sequential composition: the second program starts from the result of the first. -/
def bind : Txn κ σ ω ε α → (α → Txn κ σ ω ε β) → Txn κ σ ω ε β
  | .ret a, f => f a
  | .raise e, _ => .raise e
  | .emit o k, f => .emit o (bind k f)
  | .stmt found effect k, f => .stmt found effect fun ks v => bind (k ks v) f

instance : Monad (Txn κ σ ω ε) where
  pure := .ret
  bind := bind

/-- One statement that answers `ρ` or fails with a database error.  A failed statement has
    no effect. -/
def query (found : σ → List κ) (f : List κ → σ → Except ε (α × (σ → σ))) : Txn κ σ ω ε α :=
  .stmt found
    (fun ks v => match f ks v with
      | .ok r => r.2
      | .error _ => id)
    (fun ks v => match f ks v with
      | .ok r => .ret r.1
      | .error e => .raise e)

/-- The program with its exceptions translated: `except E as exc: raise F from exc` around the
    whole transaction. -/
def handle (g : ε → ε) : Txn κ σ ω ε α → Txn κ σ ω ε α
  | .ret a => .ret a
  | .raise e => .raise (g e)
  | .emit o k => .emit o (handle g k)
  | .stmt found effect k => .stmt found effect fun ks v => handle g (k ks v)

/-- Emit one event. -/
def tell (o : ω) : Txn κ σ ω ε Unit := .emit o (.ret ())

/-- Run the program alone: its result and the store it leaves, or the exception that ends
    it. -/
def eval : Txn κ σ ω ε α → σ → Except ε (α × σ)
  | .ret a, s => .ok (a, s)
  | .raise e, _ => .error e
  | .emit _ k, s => eval k s
  | .stmt found effect k, s => eval (k (found s) s) (effect (found s) s s)

/-- The events of the program run alone, in order. -/
def trace : Txn κ σ ω ε α → σ → List ω
  | .ret _, _ => []
  | .raise _, _ => []
  | .emit o k, s => o :: trace k s
  | .stmt found effect k, s => trace (k (found s) s) (effect (found s) s s)

/-- The store after the transaction: that of the program if it commits, the old one if it is
    rolled back. -/
def perform (p : Txn κ σ ω ε α) (s : σ) : σ :=
  match p.eval s with
  | .ok r => r.2
  | .error _ => s

/-- The result of the transaction, or the exception that rolled it back. -/
def result (p : Txn κ σ ω ε α) (s : σ) : Except ε α :=
  match p.eval s with
  | .ok r => .ok r.1
  | .error e => .error e

@[simp] theorem pure_eq (a : α) : (pure a : Txn κ σ ω ε α) = .ret a := rfl

@[simp] theorem bind_eq (p : Txn κ σ ω ε α) (f : α → Txn κ σ ω ε β) :
    (p >>= f) = p.bind f := rfl

@[simp] theorem bind_ret (a : α) (f : α → Txn κ σ ω ε β) : (Txn.ret a).bind f = f a := rfl

@[simp] theorem bind_raise (e : ε) (f : α → Txn κ σ ω ε β) :
    (Txn.raise e : Txn κ σ ω ε α).bind f = .raise e := rfl

@[simp] theorem bind_emit (o : ω) (k : Txn κ σ ω ε α) (f : α → Txn κ σ ω ε β) :
    (Txn.emit o k).bind f = .emit o (k.bind f) := rfl

@[simp] theorem bind_stmt (found : σ → List κ) (effect : List κ → σ → σ → σ)
    (k : List κ → σ → Txn κ σ ω ε α) (f : α → Txn κ σ ω ε β) :
    (Txn.stmt found effect k).bind f = .stmt found effect fun ks v => (k ks v).bind f := rfl

/-- The monad laws that are not computations. -/
theorem bind_ret_right (p : Txn κ σ ω ε α) : p.bind .ret = p := by
  induction p with
  | ret a => rfl
  | raise e => rfl
  | emit o k ih => rw [bind_emit, ih]
  | stmt found effect k ih =>
      show Txn.stmt found effect (fun ks v => (k ks v).bind .ret) = _
      simp only [ih]

theorem bind_assoc {γ : Type} (p : Txn κ σ ω ε α) (f : α → Txn κ σ ω ε β) (g : β → Txn κ σ ω ε γ) :
    (p.bind f).bind g = p.bind fun a => (f a).bind g := by
  induction p with
  | ret a => rfl
  | raise e => rfl
  | emit o k ih => rw [bind_emit, bind_emit, bind_emit, ih]
  | stmt found effect k ih =>
      show Txn.stmt found effect (fun ks v => ((k ks v).bind f).bind g) = _
      simp only [ih]
      rfl

@[simp] theorem eval_ret (a : α) (s : σ) :
    (Txn.ret a : Txn κ σ ω ε α).eval s = .ok (a, s) := rfl

@[simp] theorem eval_raise (e : ε) (s : σ) :
    (Txn.raise e : Txn κ σ ω ε α).eval s = .error e := rfl

@[simp] theorem eval_emit (o : ω) (k : Txn κ σ ω ε α) (s : σ) :
    (Txn.emit o k).eval s = k.eval s := rfl

theorem eval_stmt (found : σ → List κ) (effect : List κ → σ → σ → σ)
    (k : List κ → σ → Txn κ σ ω ε α) (s : σ) :
    (Txn.stmt found effect k).eval s = (k (found s) s).eval (effect (found s) s s) := rfl

@[simp] theorem eval_tell (o : ω) (s : σ) :
    (tell o : Txn κ σ ω ε Unit).eval s = .ok ((), s) := rfl

@[simp] theorem trace_tell (o : ω) (s : σ) :
    (tell o : Txn κ σ ω ε Unit).trace s = [o] := rfl

/-- **Sequencing.** Running `p` and then `f` is running the composed program. -/
@[simp] theorem eval_bind (p : Txn κ σ ω ε α) (f : α → Txn κ σ ω ε β) (s : σ) :
    (p.bind f).eval s = (p.eval s).bind fun r => (f r.1).eval r.2 := by
  induction p generalizing s with
  | ret a => rfl
  | raise e => rfl
  | emit o k ih => exact ih s
  | stmt found effect k ih => exact ih (found s) s (effect (found s) s s)

/-- The events of a composed program: those of the first part, then those of the second if
    the first returned. -/
theorem trace_bind (p : Txn κ σ ω ε α) (f : α → Txn κ σ ω ε β) (s : σ) :
    (p.bind f).trace s = p.trace s ++
      match p.eval s with
      | .ok r => (f r.1).trace r.2
      | .error _ => [] := by
  induction p generalizing s with
  | ret a => rfl
  | raise e => rfl
  | emit o k ih =>
      show o :: (k.bind f).trace s = o :: (k.trace s ++ _)
      rw [ih s]
      rfl
  | stmt found effect k ih => exact ih (found s) s (effect (found s) s s)

/-- Translating the exceptions changes nothing but the exception. -/
@[simp] theorem eval_handle (g : ε → ε) (p : Txn κ σ ω ε α) (s : σ) :
    (p.handle g).eval s = (p.eval s).mapError g := by
  induction p generalizing s with
  | ret a => rfl
  | raise e => rfl
  | emit o k ih => exact ih s
  | stmt found effect k ih => exact ih (found s) s (effect (found s) s s)

/-- A first part that returns. -/
theorem eval_bind_of_ok {p : Txn κ σ ω ε α} {f : α → Txn κ σ ω ε β} {s s' : σ} {a : α}
    (h : p.eval s = .ok (a, s')) : (p.bind f).eval s = (f a).eval s' := by
  rw [eval_bind, h]
  rfl

/-- A first part that raises. -/
theorem eval_bind_of_error {p : Txn κ σ ω ε α} {f : α → Txn κ σ ω ε β} {s : σ} {e : ε}
    (h : p.eval s = .error e) : (p.bind f).eval s = .error e := by
  rw [eval_bind, h]
  rfl

/-- A composed program that returns: its first part did, and the second went on from there. -/
theorem ok_of_eval_bind {p : Txn κ σ ω ε α} {f : α → Txn κ σ ω ε β} {s : σ} {r : β × σ}
    (h : (p.bind f).eval s = .ok r) : ∃ a s', p.eval s = .ok (a, s') ∧ (f a).eval s' = .ok r := by
  rw [eval_bind] at h
  cases hp : p.eval s with
  | ok r' =>
      rw [hp] at h
      exact ⟨r'.1, r'.2, rfl, h⟩
  | error e =>
      rw [hp] at h
      cases h

theorem trace_bind_of_ok {p : Txn κ σ ω ε α} {f : α → Txn κ σ ω ε β} {s s' : σ} {a : α}
    (h : p.eval s = .ok (a, s')) : (p.bind f).trace s = p.trace s ++ (f a).trace s' := by
  rw [trace_bind, h]

theorem trace_bind_of_error {p : Txn κ σ ω ε α} {f : α → Txn κ σ ω ε β} {s : σ} {e : ε}
    (h : p.eval s = .error e) : (p.bind f).trace s = p.trace s := by
  rw [trace_bind, h]
  exact List.append_nil _

/-- Returning a value after a program emits nothing more. -/
@[simp] theorem trace_bind_ret {p : Txn κ σ ω ε α} {g : α → β} {s : σ} :
    (p.bind fun a => .ret (g a)).trace s = p.trace s := by
  cases h : p.eval s with
  | ok r =>
      obtain ⟨a, t⟩ := r
      rw [trace_bind_of_ok h]
      exact List.append_nil _
  | error e => exact trace_bind_of_error h

/-- The program begins with a statement that finds its rows by `found`. -/
def FirstFinds (found : σ → List κ) (p : Txn κ σ ω ε α) : Prop :=
  ∃ effect k, p = .stmt found effect k

theorem firstFinds_query (found : σ → List κ) (f : List κ → σ → Except ε (α × (σ → σ))) :
    FirstFinds found (query found f : Txn κ σ ω ε α) := ⟨_, _, rfl⟩

theorem FirstFinds.bind {found : σ → List κ} {p : Txn κ σ ω ε α} (h : FirstFinds found p)
    (f : α → Txn κ σ ω ε β) : FirstFinds found (p.bind f) := by
  obtain ⟨effect, k, rfl⟩ := h
  exact ⟨_, _, rfl⟩

/-- A statement run alone: it finds its rows in the store and answers from it. -/
theorem eval_query (found : σ → List κ) (f : List κ → σ → Except ε (α × (σ → σ))) (s : σ) :
    (query found f : Txn κ σ ω ε α).eval s =
      (f (found s) s).bind fun r => .ok (r.1, r.2 s) := by
  rw [query]
  rw [eval_stmt]
  cases f (found s) s with
  | ok r => rfl
  | error e => rfl

@[simp] theorem trace_query (found : σ → List κ) (f : List κ → σ → Except ε (α × (σ → σ)))
    (s : σ) : (query found f : Txn κ σ ω ε α).trace s = [] := by
  rw [query]
  show Txn.trace (match f (found s) s with | .ok r => Txn.ret r.1 | .error e => .raise e) _ = []
  cases f (found s) s with
  | ok r => rfl
  | error e => rfl

theorem perform_of_ok {p : Txn κ σ ω ε α} {s s' : σ} {a : α} (h : p.eval s = .ok (a, s')) :
    p.perform s = s' := by
  rw [perform]
  rw [h]

theorem perform_of_error {p : Txn κ σ ω ε α} {s : σ} {e : ε} (h : p.eval s = .error e) :
    p.perform s = s := by
  rw [perform]
  rw [h]

theorem result_of_ok {p : Txn κ σ ω ε α} {s s' : σ} {a : α} (h : p.eval s = .ok (a, s')) :
    p.result s = .ok a := by
  rw [result]
  rw [h]

theorem result_of_error {p : Txn κ σ ω ε α} {s : σ} {e : ε} (h : p.eval s = .error e) :
    p.result s = .error e := by
  rw [result]
  rw [h]

/-- A result is that of an evaluation that leaves the store of the transaction. -/
theorem eval_of_result {p : Txn κ σ ω ε α} {s : σ} {a : α} (h : p.result s = .ok a) :
    p.eval s = .ok (a, p.perform s) := by
  rw [result] at h
  rw [perform]
  cases heval : p.eval s with
  | ok r =>
      rw [heval] at h
      cases h
      rfl
  | error e =>
      rw [heval] at h
      cases h

/-- The answer and the store an evaluation on `s` stands for: those of a commit, or the
    exception and the old store. -/
def Ends (s : σ) : Except ε (α × σ) → Except ε α → σ → Prop
  | .ok r, answer, s' => answer = .ok r.1 ∧ s' = r.2
  | .error e, answer, s' => answer = .error e ∧ s' = s

theorem ends_eval (p : Txn κ σ ω ε α) (s : σ) : Ends s (p.eval s) (p.result s) (p.perform s) := by
  rw [result, perform]
  cases p.eval s with
  | ok r => exact ⟨rfl, rfl⟩
  | error e => exact ⟨rfl, rfl⟩

/-- Whatever the remaining statements find and see, a commit of the program satisfies `Q`
    of its result and of all it has written, `w` being what it has written so far. -/
def Always (Q : α → (σ → σ) → Prop) : Txn κ σ ω ε α → (σ → σ) → Prop
  | .ret a, w => Q a w
  | .raise _, _ => True
  | .emit _ k, w => Always Q k w
  | .stmt _ effect k, w => ∀ ks v, Always Q (k ks v) (effect ks v ∘ w)

@[simp] theorem always_ret (Q : α → (σ → σ) → Prop) (a : α) (w : σ → σ) :
    Always Q (.ret a : Txn κ σ ω ε α) w ↔ Q a w := Iff.rfl

@[simp] theorem always_raise (Q : α → (σ → σ) → Prop) (e : ε) (w : σ → σ) :
    Always Q (.raise e : Txn κ σ ω ε α) w ↔ True := Iff.rfl

@[simp] theorem always_emit (Q : α → (σ → σ) → Prop) (o : ω) (k : Txn κ σ ω ε α) (w : σ → σ) :
    Always Q (.emit o k) w ↔ Always Q k w := Iff.rfl

theorem always_stmt (Q : α → (σ → σ) → Prop) (found : σ → List κ)
    (effect : List κ → σ → σ → σ) (k : List κ → σ → Txn κ σ ω ε α) (w : σ → σ) :
    Always Q (.stmt found effect k) w ↔ ∀ ks v, Always Q (k ks v) (effect ks v ∘ w) := Iff.rfl

/-- A weaker postcondition is met as well. -/
theorem Always.mono {Q Q' : α → (σ → σ) → Prop} (hQ : ∀ a w, Q a w → Q' a w)
    {p : Txn κ σ ω ε α} {w : σ → σ} (h : Always Q p w) : Always Q' p w := by
  induction p generalizing w with
  | ret a => exact hQ a w h
  | raise e => exact trivial
  | emit o k ih => exact ih h
  | stmt found effect k ih => exact fun ks v => ih ks v (h ks v)

/-- The program keeps a property of what has been written, whatever its statements find and
    see. -/
def Keeps (F : (σ → σ) → Prop) (p : Txn κ σ ω ε α) : Prop :=
  ∀ w, F w → Always (fun _ w' => F w') p w

/-- Every change a statement of the program can make is one of `W`, and every result it can
    return satisfies `R`, whatever the statements find and see. -/
def Makes (W : (σ → σ) → Prop) (R : α → Prop) : Txn κ σ ω ε α → Prop
  | .ret a => R a
  | .raise _ => True
  | .emit _ k => Makes W R k
  | .stmt _ effect k => ∀ ks v, W (effect ks v) ∧ Makes W R (k ks v)

section Makes

variable {W : (σ → σ) → Prop} {R : α → Prop} {R' : β → Prop} {p : Txn κ σ ω ε α}

theorem makes_ret {a : α} (h : R a) : Makes W R (.ret a : Txn κ σ ω ε α) := h

theorem makes_raise (e : ε) : Makes W R (.raise e : Txn κ σ ω ε α) := trivial

theorem Makes.emit (o : ω) (h : Makes W R p) : Makes W R (.emit o p) := h

theorem makes_tell {R : Unit → Prop} (o : ω) (h : R ()) : Makes W R (tell o : Txn κ σ ω ε Unit) := h

/-- A program that makes fewer changes. -/
theorem Makes.mono {W' : (σ → σ) → Prop} (h : Makes W R p) (hW : ∀ g, W g → W' g) :
    Makes W' R p := by
  induction p with
  | ret a => exact h
  | raise e => exact trivial
  | emit o k ih => exact ih h
  | stmt found effect k ih => exact fun ks v => ⟨hW _ (h ks v).1, ih ks v (h ks v).2⟩

/-- The rule of sequencing. -/
theorem Makes.bind {f : α → Txn κ σ ω ε β} (hp : Makes W R p) (hf : ∀ a, R a → Makes W R' (f a)) :
    Makes W R' (p.bind f) := by
  induction p with
  | ret a => exact hf a hp
  | raise e => exact trivial
  | emit o k ih => exact ih hp
  | stmt found effect k ih => exact fun ks v => ⟨(hp ks v).1, ih ks v (hp ks v).2⟩

/-- A statement makes what each of its answers makes; a failed one makes nothing. -/
theorem makes_query {found : σ → List κ} {f : List κ → σ → Except ε (α × (σ → σ))} (hid : W id)
    (h : ∀ ks v r, f ks v = .ok r → W r.2 ∧ R r.1) :
    Makes W R (query found f : Txn κ σ ω ε α) := by
  intro ks v
  cases hf : f ks v with
  | ok r =>
      simp only [hf]
      exact h ks v r hf
  | error e =>
      simp only [hf]
      exact ⟨hid, trivial⟩

theorem Makes.handle (g : ε → ε) (h : Makes W R p) : Makes W R (p.handle g) := by
  induction p with
  | ret a => exact h
  | raise e => exact trivial
  | emit o k ih => exact ih h
  | stmt found effect k ih => exact fun ks v => ⟨(h ks v).1, ih ks v (h ks v).2⟩

/-- What every change keeps holds at the end, with the postcondition of the result. -/
theorem Makes.always {F : (σ → σ) → Prop} (h : Makes W R p)
    (hF : ∀ g w, W g → F w → F (g ∘ w)) {w : σ → σ} (hw : F w) :
    Always (fun a w' => R a ∧ F w') p w := by
  induction p generalizing w with
  | ret a => exact ⟨h, hw⟩
  | raise e => exact trivial
  | emit o k ih => exact ih h hw
  | stmt found effect k ih => exact fun ks v => ih ks v (h ks v).2 (hF _ _ (h ks v).1 hw)

/-- What every change keeps, the program keeps. -/
theorem Makes.keeps {F : (σ → σ) → Prop} (h : Makes W R p)
    (hF : ∀ g w, W g → F w → F (g ∘ w)) : Keeps F p :=
  fun _ hw => (h.always hF hw).mono fun _ _ hend => hend.2

/-- A relation that holds across every change holds across the program run alone. -/
theorem Makes.related {G : σ → σ → Prop} (h : Makes W R p) (hrefl : ∀ s, G s s)
    (htrans : ∀ s s' s'', G s s' → G s' s'' → G s s'') (hW : ∀ g, W g → ∀ s, G s (g s)) (s : σ) :
    G s (p.perform s) := by
  have hgen : ∀ (q : Txn κ σ ω ε α) s' a t, Makes W R q → q.eval s' = .ok (a, t) → G s' t := by
    intro q
    induction q with
    | ret b =>
        intro s' a t _ heval
        cases heval
        exact hrefl _
    | raise e =>
        intro s' a t _ heval
        cases heval
    | emit o k ih => exact ih
    | stmt found effect k ih =>
        intro s' a t hmakes heval
        have hstep := hmakes (found s') s'
        exact htrans _ _ _ (hW _ hstep.1 s') (ih _ _ _ _ _ hstep.2 heval)
  cases heval : p.eval s with
  | ok r =>
      obtain ⟨a, t⟩ := r
      rw [perform_of_ok heval]
      exact hgen p s a t h heval
  | error e =>
      rw [perform_of_error heval]
      exact hrefl s

/-- What the program returns satisfies its postcondition. -/
theorem Makes.returns (h : Makes W R p) {s s' : σ} {a : α} (heval : p.eval s = .ok (a, s')) :
    R a := by
  induction p generalizing s with
  | ret b =>
      cases heval
      exact h
  | raise e => cases heval
  | emit o k ih => exact ih h heval
  | stmt found effect k ih => exact ih _ _ (h _ _).2 heval

/-- The program returns nothing, whatever its statements find and see: it never commits. -/
def Aborts (p : Txn κ σ ω ε α) : Prop := Makes (fun _ => True) (fun _ => False) p

theorem aborts_raise (e : ε) : Aborts (.raise e : Txn κ σ ω ε α) := trivial

/-- What comes before does not matter. -/
theorem aborts_bind {f : α → Txn κ σ ω ε β} (p : Txn κ σ ω ε α) (hf : ∀ a, Aborts (f a)) :
    Aborts (p.bind f) := by
  induction p with
  | ret a => exact hf a
  | raise e => exact trivial
  | emit o k ih => exact ih
  | stmt found effect k ih => exact fun ks v => ⟨trivial, ih ks v⟩

theorem Aborts.bind (hp : Aborts p) (f : α → Txn κ σ ω ε β) : Aborts (p.bind f) :=
  Makes.bind hp fun _ h => h.elim

theorem Aborts.eval (h : Aborts p) (s : σ) : ∃ e, p.eval s = .error e := by
  cases heval : p.eval s with
  | ok r =>
      obtain ⟨a, s'⟩ := r
      exact (Makes.returns h heval).elim
  | error e => exact ⟨e, rfl⟩

end Makes

/-- Every exception the program can raise is one of `E`, whatever its statements find and see. -/
def Raises (E : ε → Prop) : Txn κ σ ω ε α → Prop
  | .ret _ => True
  | .raise e => E e
  | .emit _ k => Raises E k
  | .stmt _ _ k => ∀ ks v, Raises E (k ks v)

section Raises

variable {E : ε → Prop} {p : Txn κ σ ω ε α}

theorem raises_ret (a : α) : Raises E (.ret a : Txn κ σ ω ε α) := trivial

theorem raises_raise {e : ε} (h : E e) : Raises E (.raise e : Txn κ σ ω ε α) := h

theorem raises_tell (o : ω) : Raises E (tell o : Txn κ σ ω ε Unit) := trivial

theorem Raises.bind {f : α → Txn κ σ ω ε β} (hp : Raises E p) (hf : ∀ a, Raises E (f a)) :
    Raises E (p.bind f) := by
  induction p with
  | ret a => exact hf a
  | raise e => exact hp
  | emit o k ih => exact ih hp
  | stmt found effect k ih => exact fun ks v => ih ks v (hp ks v)

/-- A statement raises what each of its answers raises. -/
theorem raises_query {found : σ → List κ} {f : List κ → σ → Except ε (α × (σ → σ))}
    (h : ∀ ks v e, f ks v = .error e → E e) : Raises E (query found f : Txn κ σ ω ε α) := by
  intro ks v
  cases hf : f ks v with
  | ok r =>
      simp only [hf]
      exact raises_ret _
  | error e =>
      simp only [hf]
      exact h ks v e hf

/-- A program that is run alone raises one of them. -/
theorem Raises.eval (h : Raises E p) {s : σ} {e : ε} (heval : p.eval s = .error e) : E e := by
  induction p generalizing s with
  | ret a => cases heval
  | raise e' =>
      cases heval
      exact h
  | emit o k ih => exact ih h heval
  | stmt found effect k ih => exact ih _ _ (h _ _) heval

theorem Raises.result (h : Raises E p) {s : σ} {e : ε} (hresult : p.result s = .error e) : E e := by
  cases heval : p.eval s with
  | ok r =>
      rw [result_of_ok heval] at hresult
      cases hresult
  | error e' =>
      rw [result_of_error heval] at hresult
      cases hresult
      exact h.eval heval

end Raises

end Txn

end Transaction
