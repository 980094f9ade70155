import NetProbe.RelyGuaranteeProofs

/-!
# What statements have found

Two things are said about the rows a statement has found.

`MakesFrom W p` lists the changes of a program next to the rows each was made from: a change
that touches only what was found, and so only what is locked, is of use to the others
(`ensures_of_makesFrom`).

A condition on what the statements find and see, like "none of these rows has changed", is a
condition on the schedule.  A run that meets it throughout is a run of the programs with the
test written into them (`checked`): a statement that fails the test raises, so a commit comes
after tests that all succeeded, and a proof about the program may use them
(`ensures_checked_query`).  `related_within` is the rule: what the commits of the tested programs
guarantee holds between any two states of such a run.
-/

namespace ReadCommitted

open Transaction Transaction.Txn LabelledRun

variable {τ κ σ ω ε α β : Type}

-- ── Changes and the rows they were made from ──────────────────────────────────────

/-- Every change that a statement of the program can make is `W` of the rows it has found. -/
def MakesFrom (W : List κ → (σ → σ) → Prop) : Txn κ σ ω ε α → Prop
  | .ret _ => True
  | .raise _ => True
  | .emit _ k => MakesFrom W k
  | .stmt _ effect k => ∀ ks v, W ks (effect ks v) ∧ MakesFrom W (k ks v)

section Found

variable {W : List κ → (σ → σ) → Prop} {p : Txn κ σ ω ε α} {J : σ → Prop} {R : Rely κ σ}

theorem makesFrom_ret (a : α) : MakesFrom W (.ret a : Txn κ σ ω ε α) := trivial

theorem makesFrom_raise (e : ε) : MakesFrom W (.raise e : Txn κ σ ω ε α) := trivial

theorem MakesFrom.emit (o : ω) (h : MakesFrom W p) : MakesFrom W (.emit o p) := h

/-- The rule of sequencing. -/
theorem MakesFrom.bind {f : α → Txn κ σ ω ε β} (h : MakesFrom W p) (hf : ∀ a, MakesFrom W (f a)) :
    MakesFrom W (p.bind f) := by
  induction p with
  | ret a => exact hf a
  | raise e => exact trivial
  | emit o k ih => exact ih h
  | stmt found effect k ih => exact fun ks v => ⟨(h ks v).1, ih ks v (h ks v).2⟩

/-- A statement makes what each of its answers makes; a failed one makes nothing. -/
theorem makesFrom_query {found : σ → List κ} {f : List κ → σ → Except ε (α × (σ → σ))}
    (hid : ∀ ks, W ks id) (h : ∀ ks v r, f ks v = .ok r → W ks r.2) :
    MakesFrom W (query found f : Txn κ σ ω ε α) := by
  intro ks v
  cases hf : f ks v with
  | ok r =>
      simp only [hf]
      exact ⟨h ks v r hf, trivial⟩
  | error e =>
      simp only [hf]
      exact ⟨hid ks, trivial⟩

theorem MakesFrom.handle (g : ε → ε) (h : MakesFrom W p) : MakesFrom W (p.handle g) := by
  induction p with
  | ret a => exact trivial
  | raise e => exact trivial
  | emit o k ih => exact ih h
  | stmt found effect k ih => exact fun ks v => ⟨(h ks v).1, ih ks v (h ks v).2⟩

/-- Changes that do not depend on what was found. -/
theorem makesFrom_of_makes {W' : (σ → σ) → Prop} {P : α → Prop} (h : Makes W' P p)
    (hW : ∀ ks g, W' g → W ks g) : MakesFrom W p := by
  induction p with
  | ret a => exact trivial
  | raise e => exact trivial
  | emit o k ih => exact ih h
  | stmt found effect k ih => exact fun ks v => ⟨hW ks _ (h ks v).1, ih ks v (h ks v).2⟩

/-- **The frame rule for changes of what was found**: the rows found are locked when the change
    is made. -/
theorem ensures_of_makesFrom {F : List κ → (σ → σ) → Prop} {I : List κ → σ → Prop} {w : σ → σ}
    {L : List κ} {s : σ} (h : MakesFrom W p)
    (hF : ∀ ks L g w, W ks g → F L w → F (ks ++ L) (g ∘ w)) (hI : Stable R I) (hw : F L w)
    (hs : I L s) : Ensures J R (fun _ w' L' s' => F L' w' ∧ I L' s') p w L s := by
  induction p generalizing w L s with
  | ret a => exact ⟨hw, hs⟩
  | raise e => exact trivial
  | emit o k ih => exact ih h hw hs
  | stmt found effect k ih =>
      intro s₁ _ h₁ s₂ _ h₂
      exact ih _ _ (h _ _).2 (hF _ _ _ _ (h _ _).1 hw) (hI.lock _ (hI.rely (hI.rely hs h₁) h₂))

end Found

-- ── Programs with a test ──────────────────────────────────────────────────────────

/-- The program with a test of what each statement has found and sees: where it fails, the
    program raises. -/
def checked (G : List κ → σ → Bool) (e : ε) : Txn κ σ ω ε α → Txn κ σ ω ε α
  | .ret a => .ret a
  | .raise e' => .raise e'
  | .emit o k => .emit o (checked G e k)
  | .stmt found effect k =>
      .stmt found effect fun ks v => if G ks v = true then checked G e (k ks v) else .raise e

section Checked

variable {G : List κ → σ → Bool} {e : ε} {p : Txn κ σ ω ε α} {J : σ → Prop} {R : Rely κ σ}

theorem checked_bind (f : α → Txn κ σ ω ε β) :
    checked G e (p.bind f) = (checked G e p).bind fun a => checked G e (f a) := by
  induction p with
  | ret a => rfl
  | raise e' => rfl
  | emit o k ih => exact congrArg (Txn.emit o) ih
  | stmt found effect k ih =>
      refine congrArg (Txn.stmt found effect) (funext fun ks => funext fun v => ?_)
      show (if G ks v = true then checked G e ((k ks v).bind f) else .raise e) =
        Txn.bind (if G ks v = true then checked G e (k ks v) else .raise e)
          fun a => checked G e (f a)
      by_cases hG : G ks v = true
      · rw [if_pos hG, if_pos hG, ih]
      · rw [if_neg hG, if_neg hG, bind_raise]

/-- The tests change nothing of what the program writes. -/
theorem Makes.checked {W : (σ → σ) → Prop} {P : α → Prop} (h : Makes W P p) :
    Makes W P (checked G e p) := by
  induction p with
  | ret a => exact h
  | raise e' => exact trivial
  | emit o k ih => exact ih h
  | stmt found effect k ih =>
      intro ks v
      refine ⟨(h ks v).1, ?_⟩
      show Makes W P (if G ks v = true then ReadCommitted.checked G e (k ks v) else .raise e)
      split
      · exact ih ks v (h ks v).2
      · exact trivial

theorem MakesFrom.checked {W : List κ → (σ → σ) → Prop} (h : MakesFrom W p) :
    MakesFrom W (checked G e p) := by
  induction p with
  | ret a => exact trivial
  | raise e' => exact trivial
  | emit o k ih => exact ih h
  | stmt found effect k ih =>
      intro ks v
      refine ⟨(h ks v).1, ?_⟩
      show MakesFrom W (if G ks v = true then ReadCommitted.checked G e (k ks v) else .raise e)
      split
      · exact ih ks v (h ks v).2
      · exact trivial

/-- What a program ensures, it ensures with the tests. -/
theorem Ensures.checked {Q : α → (σ → σ) → List κ → σ → Prop} {w : σ → σ} {L : List κ} {s : σ}
    (h : Ensures J R Q p w L s) : Ensures J R Q (checked G e p) w L s := by
  induction p generalizing w L s with
  | ret a => exact h
  | raise e' => exact trivial
  | emit o k ih => exact ih h
  | stmt found effect k ih =>
      intro s₁ hs₁ h₁ s₂ hs₂ h₂
      show Ensures J R Q (if G (found (w s₁)) (w s₂) = true then
        ReadCommitted.checked G e (k (found (w s₁)) (w s₂)) else .raise e) _ _ _
      split
      · exact ih _ _ (h s₁ hs₁ h₁ s₂ hs₂ h₂)
      · exact trivial

/-- The rule of sequencing, for a program with tests. -/
theorem ensures_checked_bind {Q : α → (σ → σ) → List κ → σ → Prop}
    {Q' : β → (σ → σ) → List κ → σ → Prop} {f : α → Txn κ σ ω ε β} {w : σ → σ} {L : List κ} {s : σ}
    (h : Ensures J R Q (ReadCommitted.checked G e p) w L s)
    (hf : ∀ a w' L' s', Q a w' L' s' → Ensures J R Q' (ReadCommitted.checked G e (f a)) w' L' s') :
    Ensures J R Q' (ReadCommitted.checked G e (p.bind f)) w L s := by
  rw [checked_bind]
  exact h.bind hf

/-- One statement that has passed its test. -/
theorem ensures_checked_query {Q : α → (σ → σ) → List κ → σ → Prop} {w : σ → σ} {L : List κ} {s : σ}
    {found : σ → List κ} {f : List κ → σ → Except ε (α × (σ → σ))}
    (h : ∀ s₁, J s₁ → R.allows L s s₁ → ∀ s₂, J s₂ → R.allows L s₁ s₂ →
      G (found (w s₁)) (w s₂) = true → ∀ r, f (found (w s₁)) (w s₂) = .ok r →
        Q r.1 (r.2 ∘ w) (found (w s₁) ++ L) s₂) :
    Ensures J R Q (ReadCommitted.checked G e (query found f : Txn κ σ ω ε α)) w L s := by
  intro s₁ hs₁ h₁ s₂ hs₂ h₂
  by_cases hG : G (found (w s₁)) (w s₂) = true
  · simp only [hG, if_true]
    cases hf : f (found (w s₁)) (w s₂) with
    | ok r => exact h s₁ hs₁ h₁ s₂ hs₂ h₂ hG r hf
    | error e' => exact trivial
  · simp only [hG]
    exact trivial

/-- The tests bring in no other end. -/
theorem checked_eq_raise {e' : ε} (h : checked G e p = .raise e') : p = .raise e' := by
  cases p with
  | ret a => cases h
  | raise e'' => exact h
  | emit o k => cases h
  | stmt found effect k => cases h

end Checked

-- ── Schedules that pass the tests ─────────────────────────────────────────────────

/-- The statement that is to finish passes the test of its transaction. -/
def passes (G : τ → List κ → σ → Bool) (db : Db τ κ σ ω ε α) : Act τ → Bool
  | .finish t =>
      match db.phase t with
      | .active x => x.found.all fun ks => G t ks (x.write db.store)
      | _ => true
  | _ => true

/-- A transaction with the tests in what remains of its program. -/
def Phase.checked (G : List κ → σ → Bool) (e : ε) : Phase κ σ ω ε α → Phase κ σ ω ε α
  | .active x => .active { x with prog := ReadCommitted.checked G e x.prog }
  | .committed a => .committed a
  | .rolledBack e' => .rolledBack e'

/-- The database with the tests in all programs. -/
def Db.checked (G : τ → List κ → σ → Bool) (e : ε) (db : Db τ κ σ ω ε α) : Db τ κ σ ω ε α :=
  { db with phase := fun t => (db.phase t).checked (G t) e }

section Schedules

variable {G : τ → List κ → σ → Bool} {e : ε} {db db' : Db τ κ σ ω ε α} {acts acts' : List (Act τ)}
  {act : Act τ} {t : τ}

theorem phase_checked {x : Active κ σ ω ε α} (h : db.phase t = .active x) :
    (db.checked G e).phase t = .active { x with prog := checked (G t) e x.prog } := by
  show (db.phase t).checked (G t) e = _
  rw [h]
  rfl

variable [DecidableEq τ]

theorem checked_move (ph : Phase κ σ ω ε α) (st : σ) (ow : κ → Option τ) (lg : List ω) :
    (db.move t ph st ow lg).checked G e =
    (db.checked G e).move t (ph.checked (G t) e) st ow lg := by
  refine congrArg (fun phase => Db.mk st ow phase lg) (funext fun t' => ?_)
  show (Function.update db.phase t ph t').checked (G t') e =
    Function.update (db.checked G e).phase t (ph.checked (G t) e) t'
  by_cases ht : t' = t
  · subst ht
    rw [Function.update_self, Function.update_self]
  · rw [Function.update_of_ne ht, Function.update_of_ne ht]
    rfl

variable [DecidableEq κ]

/-- A step that passes is a step of the tested programs. -/
theorem step_checked (hpasses : passes G db act = true) (h : Step db act db') :
    Step (db.checked G e) act (db'.checked G e) := by
  cases h with
  | begin hx hf hp =>
      rw [checked_move]
      exact .begin (phase_checked hx) hf (by simp only [hp]; rfl)
  | @finish t x found effect k ks hx hf hp hfree =>
      have hG : G t ks (x.write db.store) = true := by
        simpa only [passes, hx, hf, Option.all_some] using hpasses
      rw [checked_move]
      have hstep : Step (db.checked G e) (.finish t) ((db.checked G e).move t (.active
          { prog := if G t ks (x.write db.store) = true then
            checked (G t) e (k ks (x.write db.store))
              else .raise e
            found := none
            write := effect ks (x.write db.store) ∘ x.write
            done := x.done + 1 }) db.store (lockAll db.owner t ks) db.log) :=
        .finish (phase_checked hx) hf (by simp only [hp]; rfl) hfree
      rw [if_pos hG] at hstep
      exact hstep
  | @emit t x o k hx hf hp =>
      have hprog : checked (G t) e x.prog = .emit o (checked (G t) e k) := by
        rw [hp]
        rfl
      rw [checked_move]
      have hstep := Step.emit (phase_checked (G := G) (e := e) hx) hf hprog
      exact hstep
  | @commit t x a hx hf hp =>
      have hprog : checked (G t) e x.prog = .ret a := by
        rw [hp]
        rfl
      rw [checked_move]
      have hstep := Step.commit (phase_checked (G := G) (e := e) hx) hf hprog
      exact hstep
  | rollback hx he =>
      rw [checked_move]
      exact .rollback (phase_checked hx) fun e' he' => he e' (checked_eq_raise he')

/-- **A run that passes is a run of the tested programs.** -/
theorem run_checked (h : Run (Restrict Step fun db act => passes G db act = true) db acts db') :
    Run Step (db.checked G e) acts (db'.checked G e) := by
  induction h with
  | nil s => exact .nil _
  | cons hstep _ ih => exact .cons (step_checked hstep.1 hstep.2) ih

end Schedules

-- ── Between two states of a run ───────────────────────────────────────────────────

section Related

variable [DecidableEq τ] [DecidableEq κ] {R : Rely κ σ} {Q : τ → α → List κ → σ → σ → Prop}
  {T : σ → σ → Prop} {db db' : Db τ κ σ ω ε α} {acts acts' : List (Act τ)}

/-- A relation that every commit keeps holds between two states of a run. -/
theorem Kept.related (hguar : Guarantees R Q) (hrefl : ∀ s, T s s)
    (htrans : ∀ s s' s'', T s s' → T s' s'' → T s s'') (hQ : ∀ t a L s s', Q t a L s s' → T s s')
    (h : Kept (fun _ _ => True) R Q db) (hrun : Run Step db acts db') : T db.store db'.store := by
  refine (hrun.invariant (I := fun m => Kept (fun _ _ => True) R Q m ∧ T db.store m.store) ?_
    ⟨h, hrefl _⟩).2
  rintro m act m' ⟨hkept, hT⟩ hs
  refine ⟨hkept.step hguar trivial hs, ?_⟩
  rcases hkept.step_store trivial hs with ⟨-, hstore⟩ | ⟨t, a, L, -, -, -, hcommit⟩
  · rw [hstore]
    exact hT
  · exact htrans _ _ _ hT (hQ t a L _ _ hcommit)

/-- **The rule for schedules that pass.** What the commits of the tested programs guarantee holds
    between any two states of a run whose steps pass. -/
theorem related_within {P : τ → Txn κ σ ω ε α} {s : σ} {G : τ → List κ → σ → Bool} (e : ε)
    (hguar : Guarantees R Q) (hrefl : ∀ s, T s s) (htrans : ∀ s s' s'', T s s' → T s' s'' → T s s'')
    (hQ : ∀ t a L s s', Q t a L s s' → T s s')
    (h : ∀ t, Ensures (fun _ => True) R (AtCommit (fun _ => True) R (Q t))
      (checked (G t) e (P t)) id [] s)
    (hrun : Run (Restrict Step fun db act => passes G db act = true) (initial P s) acts db)
    (hlater : Run (Restrict Step fun db act => passes G db act = true) db acts' db') :
    T db.store db'.store := by
  have hkept : Kept (fun _ _ => True) R Q (db.checked G e) :=
    kept_run hguar (kept_initial h) (run_checked hrun) fun _ _ _ => trivial
  have hT : T (db.checked G e).store (db'.checked G e).store :=
    hkept.related hguar hrefl htrans hQ (run_checked hlater)
  exact hT

end Related

end ReadCommitted
