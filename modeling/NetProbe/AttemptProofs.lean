import NetProbe.TransactionProofs

/-!
# Attempts

A transaction program tried against a database that may fail, while other transactions go on.
`Attempt others p s os r` says that one try of `p`, begun on the store `s`, can emit the events
`os` and end in `r`: a commit, an exception of the program, or a failure of the database
(`.error none`), which can strike at any statement and at the commit.  Events are not taken
back when a try fails.  `others` are the changes that others make to the store between two
statements and between the two halves of each.

If nothing fails and the others do nothing, a try is `eval` and `trace`.

`upTo S p` is the program up to its first event of the kind `S`; it returns what is left to
do, that event first.  `Announces S C R p` lists what can be left at that point (`C`) and what
the program can return without such an event (`R`), whatever its statements find and see.
`Announces.attempt` reads this off the events of a try: a try without an event of the kind,
or one that has done everything up to the event and goes on with what is left.
-/

namespace Transaction

variable {κ σ ω ε α β : Type}

/-- One try of a program: its events, and how it ends. -/
inductive Attempt (others : σ → σ → Prop) :
    Txn κ σ ω ε α → σ → List ω → Except (Option ε) (α × σ) → Prop where
  | commit (a : α) (s : σ) : Attempt others (.ret a) s [] (.ok (a, s))
  /-- COMMIT itself fails: the transaction is rolled back. -/
  | commitFails (a : α) (s : σ) : Attempt others (.ret a) s [] (.error none)
  | raise (e : ε) (s : σ) : Attempt others (.raise e) s [] (.error (some e))
  | emit (o : ω) {k : Txn κ σ ω ε α} {s : σ} {os : List ω} {r : Except (Option ε) (α × σ)}
      (h : Attempt others k s os r) : Attempt others (.emit o k) s (o :: os) r
  | stmt {found : σ → List κ} {effect : List κ → σ → σ → σ} {k : List κ → σ → Txn κ σ ω ε α}
      {s s₁ s₂ : σ} {os : List ω} {r : Except (Option ε) (α × σ)} (h₁ : others s s₁)
        (h₂ : others s₁ s₂)
      (h : Attempt others (k (found s₁) s₂) (effect (found s₁) s₂ s₂) os r) :
      Attempt others (.stmt found effect k) s os r
  | stmtFails (found : σ → List κ) (effect : List κ → σ → σ → σ) (k : List κ → σ → Txn κ σ ω ε α)
      (s : σ) : Attempt others (.stmt found effect k) s [] (.error none)

namespace Txn

variable {others : σ → σ → Prop} {p : Txn κ σ ω ε α} {s : σ} {os : List ω}
  {r : Except (Option ε) (α × σ)}

/-- The program run alone is a try. -/
theorem attempt_eval (hrefl : ∀ s, others s s) (p : Txn κ σ ω ε α) (s : σ) :
    Attempt others p s (p.trace s) ((p.eval s).mapError some) := by
  induction p generalizing s with
  | ret a => exact .commit a s
  | raise e => exact .raise e s
  | emit o k ih => exact .emit o (ih s)
  | stmt found effect k ih =>
      exact .stmt (hrefl s) (hrefl s) (ih (found s) s (effect (found s) s s))

/-- A program that returns commits if nothing fails. -/
theorem attempt_of_eval (hrefl : ∀ s, others s s) {a : α} {s' : σ} (h : p.eval s = .ok (a, s')) :
    Attempt others p s (p.trace s) (.ok (a, s')) := by
  have halone := attempt_eval hrefl p s
  rw [h] at halone
  exact halone

/-- A program that returns may still be rolled back at its end, with all its events out. -/
theorem attempt_commitFails (hrefl : ∀ s, others s s) {a : α} {s' : σ}
    (h : p.eval s = .ok (a, s')) :
    Attempt others p s (p.trace s) (.error none) := by
  induction p generalizing s with
  | ret b => exact .commitFails b s
  | raise e => cases h
  | emit o k ih => exact .emit o (ih h)
  | stmt found effect k ih => exact .stmt (hrefl s) (hrefl s) (ih (found s) s h)

/-- The program up to its first event of the kind: it returns what is left. -/
def upTo (S : ω → Bool) : Txn κ σ ω ε α → Txn κ σ ω ε (Txn κ σ ω ε α)
  | .ret a => .ret (.ret a)
  | .raise e => .raise e
  | .emit o k => if S o then .ret (.emit o k) else .emit o (upTo S k)
  | .stmt found effect k => .stmt found effect fun ks v => upTo S (k ks v)

/-- Whatever the statements find and see: at the first event of the kind `S`, that event and
    what follows it satisfy `C`, and a return without one satisfies `R`. -/
def Announces (S : ω → Bool) (C : ω → Txn κ σ ω ε α → Prop) (R : α → Prop) : Txn κ σ ω ε α → Prop
  | .ret a => R a
  | .raise _ => True
  | .emit o k => (S o = true ∧ C o k) ∨ (S o = false ∧ Announces S C R k)
  | .stmt _ _ k => ∀ ks v, Announces S C R (k ks v)

/-- The program has no event of the kind. -/
def Hushed (S : ω → Bool) (p : Txn κ σ ω ε α) : Prop :=
  Announces S (fun _ _ => False) (fun _ => True) p

section Announces

variable {S : ω → Bool} {C : ω → Txn κ σ ω ε α → Prop} {R : α → Prop}
  {C' : ω → Txn κ σ ω ε β → Prop} {R' : β → Prop}

theorem announces_ret {a : α} (h : R a) : Announces S C R (.ret a) := h

theorem announces_raise (e : ε) : Announces S C R (.raise e) := trivial

theorem hushed_ret (a : α) : Hushed S (.ret a : Txn κ σ ω ε α) := trivial

theorem hushed_tell {o : ω} (h : S o = false) : Hushed S (tell o : Txn κ σ ω ε Unit) :=
  Or.inr ⟨h, trivial⟩

/-- A statement emits nothing. -/
theorem hushed_query (found : σ → List κ) (f : List κ → σ → Except ε (α × (σ → σ))) :
    Hushed S (query found f : Txn κ σ ω ε α) := by
  intro ks v
  cases hf : f ks v with
  | ok r =>
      simp only [hf]
      exact trivial
  | error e =>
      simp only [hf]
      exact trivial

/-- The rule of sequencing. -/
theorem Announces.bind {f : α → Txn κ σ ω ε β} (hp : Announces S C R p)
    (hC : ∀ o k, C o k → C' o (k.bind f)) (hf : ∀ a, R a → Announces S C' R' (f a)) :
    Announces S C' R' (p.bind f) := by
  induction p with
  | ret a => exact hf a hp
  | raise e => exact trivial
  | emit o k ih =>
      rcases hp with ⟨ho, hk⟩ | ⟨ho, hk⟩
      · exact Or.inl ⟨ho, hC o k hk⟩
      · exact Or.inr ⟨ho, ih hk⟩
  | stmt found effect k ih => exact fun ks v => ih ks v (hp ks v)

/-- What comes after a part without such events. -/
theorem Hushed.bind {f : α → Txn κ σ ω ε β} (hp : Hushed S p)
    (hf : ∀ a, Announces S C' R' (f a)) : Announces S C' R' (p.bind f) :=
  Announces.bind hp (fun _ _ h => h.elim) fun a _ => hf a

theorem Announces.handle {g : ε → ε} (hp : Announces S C R p)
    (hC : ∀ o k, C o k → C o (k.handle g)) : Announces S C R (p.handle g) := by
  induction p with
  | ret a => exact hp
  | raise e => exact trivial
  | emit o k ih =>
      rcases hp with ⟨ho, hk⟩ | ⟨ho, hk⟩
      · exact Or.inl ⟨ho, hC o k hk⟩
      · exact Or.inr ⟨ho, ih hk⟩
  | stmt found effect k ih => exact fun ks v => ih ks v (hp ks v)

/-- **What the events of a try tell.** Either there is none of the kind, and a commit
    satisfies `R`; or all up to the first one was done, and the try goes on from there. -/
theorem Announces.attempt (h : Announces S C R p) (ha : Attempt others p s os r) :
    ((∀ o ∈ os, S o = false) ∧ ∀ a s', r = .ok (a, s') → R a) ∨
      ∃ o k t os₁ os₂, Attempt others (p.upTo S) s os₁ (.ok (.emit o k, t)) ∧ S o = true ∧ C o k ∧
        os = os₁ ++ o :: os₂ ∧ (∀ o' ∈ os₁, S o' = false) ∧ Attempt others k t os₂ r := by
  induction ha with
  | commit b t =>
      refine Or.inl ⟨fun o ho => (List.not_mem_nil ho).elim, ?_⟩
      intro a s' hr
      cases hr
      exact h
  | commitFails => exact Or.inl ⟨fun o ho => (List.not_mem_nil ho).elim, fun _ _ hr => nomatch hr⟩
  | raise => exact Or.inl ⟨fun o ho => (List.not_mem_nil ho).elim, fun _ _ hr => nomatch hr⟩
  | stmtFails => exact Or.inl ⟨fun o ho => (List.not_mem_nil ho).elim, fun _ _ hr => nomatch hr⟩
  | stmt h₁ h₂ _ ih =>
      rcases ih (h _ _) with hnone | ⟨o, k', t, os₁, os₂, hdone, hrest⟩
      · exact Or.inl hnone
      · exact Or.inr ⟨o, k', t, os₁, os₂, .stmt h₁ h₂ hdone, hrest⟩
  | @emit o k t os r hk ih =>
      rcases h with ⟨ho, hleft⟩ | ⟨ho, hrest⟩
      · -- this is the first event of the kind: everything before it has been done
        have hstop : (Txn.emit o k).upTo S = .ret (.emit o k) := if_pos ho
        refine Or.inr ⟨o, k, t, [], os, ?_, ho, hleft, rfl, ?_, hk⟩
        · rw [hstop]
          exact .commit _ t
        · exact fun o' ho' => (List.not_mem_nil ho').elim
      · have hon : (Txn.emit o k).upTo S = .emit o (k.upTo S) :=
          if_neg (by rw [ho]; exact Bool.false_ne_true)
        rcases ih hrest with ⟨hnone, hend⟩ | ⟨o₁, k₁, t₁, os₁, os₂, hdone, ho₁,
          hC, rfl, hnone, hrun⟩
        · refine Or.inl ⟨?_, hend⟩
          intro o' ho'
          rcases List.mem_cons.mp ho' with rfl | hmem
          · exact ho
          · exact hnone o' hmem
        · refine Or.inr ⟨o₁, k₁, t₁, o :: os₁, os₂, ?_, ho₁, hC, rfl, ?_, hrun⟩
          · rw [hon]
            exact .emit o hdone
          · intro o' ho'
            rcases List.mem_cons.mp ho' with rfl | hmem
            · exact ho
            · exact hnone o' hmem

end Announces

/-- A translation of exceptions that the statement does not raise, or that leaves them alone. -/
theorem handle_query_bind_ret {g : ε → ε} {found : σ → List κ}
    {f : List κ → σ → Except ε (α × (σ → σ))} (b : β) (h : ∀ ks v e, f ks v = .error e → g e = e) :
    ((query found f : Txn κ σ ω ε α).bind fun _ => .ret b).handle g =
      (query found f).bind fun _ => .ret b := by
  rw [query]
  rw [bind_stmt]
  refine congrArg (Txn.stmt _ _) (funext fun ks => funext fun v => ?_)
  dsimp only
  cases hf : f ks v with
  | ok r => rfl
  | error e => exact congrArg Txn.raise (h ks v e hf)

/-- A statement and an answer: nothing is emitted, and a commit has that answer, the statement
    having done what it does on the store it saw. -/
theorem attempt_query_bind {found : σ → List κ} {f : List κ → σ → Except ε (α × (σ → σ))} {b : β}
    {r : Except (Option ε) (β × σ)}
    (h : Attempt others ((query found f : Txn κ σ ω ε α).bind fun _ => .ret b) s os r) :
    os = [] ∧ ∀ b' s', r = .ok (b', s') →
      b' = b ∧ ∃ ks v q, f ks v = .ok q ∧ s' = q.2 v := by
  unfold query at h
  rw [bind_stmt] at h
  cases h with
  | stmtFails => exact ⟨rfl, fun _ _ hr => nomatch hr⟩
  | @stmt _ _ _ _ s₁ s₂ _ _ _ _ h =>
      cases hf : f (found s₁) s₂ with
      | ok q =>
          simp only [hf] at h
          cases h with
          | commit =>
              refine ⟨rfl, ?_⟩
              intro b' s' hr
              cases hr
              exact ⟨rfl, found s₁, s₂, q, hf, rfl⟩
          | commitFails => exact ⟨rfl, fun _ _ hr => nomatch hr⟩
      | error e =>
          simp only [hf] at h
          cases h
          exact ⟨rfl, fun _ _ hr => nomatch hr⟩

end Txn

end Transaction
