import NetProbe.ReadCommittedProofs

/-!
# Rely and guarantee for interleaved transactions

Transactions that do not all start with one common lock are not serial: between two statements
of one of them the committed store moves.  What may move is limited by the locks that are held.
A `Rely` says how far: the changes that the others can make while this transaction holds a list
of locks.

`Ensures` is the precondition of a program under a rely: whatever the others do between its
statements and between the two halves of each, its commit meets a postcondition of its answer,
of what it has written, of the locks it holds and of the store it replaces (`AtCommit`).  It is
computed along the program (`ensures_bind`, `ensures_query`), so a proof about an interleaved
transaction reads like one about the transaction alone.

The rely of each is the guarantee of the others: if every commit that meets its postcondition
changes the store only as a transaction with other locks may rely on (`Guarantees`), then every
commit of every interleaving meets its postcondition (`commit_meets`).
-/

namespace ReadCommitted

open Transaction Transaction.Txn LabelledRun

variable {τ κ σ ω ε α β : Type}

/-- The changes of the committed store that the others can make while one transaction holds a
    list of locks. -/
structure Rely (κ σ : Type) where
  allows : List κ → σ → σ → Prop
  refl : ∀ L s, allows L s s
  trans : ∀ {L s s' s''}, allows L s s' → allows L s' s'' → allows L s s''

/-- The others can do anything. -/
def Rely.any : Rely κ σ where
  allows _ _ _ := True
  refl _ _ := trivial
  trans _ _ := trivial

/-- Every way through the program meets `Q` at its end: of its answer, of all it has written, of
    its locks and of the committed store at its last statement.  `w`, `L` and `s` are these three
    so far, and `J` holds of every committed store on which the transaction takes a step. -/
def Ensures (J : σ → Prop) (R : Rely κ σ) (Q : α → (σ → σ) → List κ → σ → Prop) :
    Txn κ σ ω ε α → (σ → σ) → List κ → σ → Prop
  | .ret a, w, L, s => Q a w L s
  | .raise _, _, _, _ => True
  | .emit _ k, w, L, s => Ensures J R Q k w L s
  | .stmt found effect k, w, L, s =>
      ∀ s₁, J s₁ → R.allows L s s₁ → ∀ s₂, J s₂ → R.allows L s₁ s₂ →
        Ensures J R Q (k (found (w s₁)) (w s₂)) (effect (found (w s₁)) (w s₂) ∘ w)
          (found (w s₁) ++ L) s₂

/-- The postcondition `Q` of the answer, the locks, the store a commit replaces and the store it
    leaves, as a postcondition of the program: the commit may come later. -/
def AtCommit (J : σ → Prop) (R : Rely κ σ) (Q : α → List κ → σ → σ → Prop) :
    α → (σ → σ) → List κ → σ → Prop :=
  fun a w L s => ∀ s', J s' → R.allows L s s' → Q a L s' (w s')

/-- An assertion about the locks held and the committed store that neither further locks nor the
    others invalidate. -/
structure Stable (R : Rely κ σ) (I : List κ → σ → Prop) : Prop where
  lock : ∀ {L s} (ks : List κ), I L s → I (ks ++ L) s
  rely : ∀ {L s s'}, I L s → R.allows L s s' → I L s'

section Rules

variable {J : σ → Prop} {R : Rely κ σ} {Q Q' : α → (σ → σ) → List κ → σ → Prop}
  {p : Txn κ σ ω ε α} {w : σ → σ} {L : List κ} {s s' : σ}

@[simp] theorem ensures_ret {a : α} :
    Ensures J R Q (.ret a : Txn κ σ ω ε α) w L s ↔ Q a w L s := Iff.rfl

@[simp] theorem ensures_raise {e : ε} :
    Ensures J R Q (.raise e : Txn κ σ ω ε α) w L s ↔ True := Iff.rfl

@[simp] theorem ensures_emit {o : ω} {k : Txn κ σ ω ε α} :
    Ensures J R Q (.emit o k) w L s ↔ Ensures J R Q k w L s := Iff.rfl

/-- The rule of sequencing. -/
@[simp] theorem ensures_bind {Q : β → (σ → σ) → List κ → σ → Prop} {f : α → Txn κ σ ω ε β} :
    Ensures J R Q (p.bind f) w L s ↔
      Ensures J R (fun a w' L' s' => Ensures J R Q (f a) w' L' s') p w L s := by
  induction p generalizing w L s with
  | ret a => exact Iff.rfl
  | raise e => exact Iff.rfl
  | emit o k ih => exact ih
  | stmt found effect k ih =>
      constructor
      · intro h s₁ hs₁ h₁ s₂ hs₂ h₂
        exact (ih _ _).mp (h s₁ hs₁ h₁ s₂ hs₂ h₂)
      · intro h s₁ hs₁ h₁ s₂ hs₂ h₂
        exact (ih _ _).mpr (h s₁ hs₁ h₁ s₂ hs₂ h₂)

/-- One statement: its rows are found on one store, its answer comes from a later one. -/
theorem ensures_query {found : σ → List κ} {f : List κ → σ → Except ε (α × (σ → σ))}
    (h : ∀ s₁, J s₁ → R.allows L s s₁ → ∀ s₂, J s₂ → R.allows L s₁ s₂ → ∀ r,
      f (found (w s₁)) (w s₂) = .ok r → Q r.1 (r.2 ∘ w) (found (w s₁) ++ L) s₂) :
    Ensures J R Q (query found f : Txn κ σ ω ε α) w L s := by
  intro s₁ hs₁ h₁ s₂ hs₂ h₂
  cases hf : f (found (w s₁)) (w s₂) with
  | ok r => simpa only [hf, ensures_ret] using h s₁ hs₁ h₁ s₂ hs₂ h₂ r hf
  | error e => simp only [hf, ensures_raise]

/-- A weaker postcondition is met as well. -/
theorem Ensures.mono (h : Ensures J R Q p w L s) (hQ : ∀ a w L s, Q a w L s → Q' a w L s) :
    Ensures J R Q' p w L s := by
  induction p generalizing w L s with
  | ret a => exact hQ _ _ _ _ h
  | raise e => exact trivial
  | emit o k ih => exact ih h
  | stmt found effect k ih =>
      exact fun s₁ hs₁ h₁ s₂ hs₂ h₂ => ih _ _ (h s₁ hs₁ h₁ s₂ hs₂ h₂)

/-- The rule of sequencing, with what holds in between. -/
theorem Ensures.bind {Q' : β → (σ → σ) → List κ → σ → Prop} {f : α → Txn κ σ ω ε β}
    (h : Ensures J R Q p w L s) (hf : ∀ a w' L' s', Q a w' L' s' → Ensures J R Q' (f a) w' L' s') :
    Ensures J R Q' (p.bind f) w L s := ensures_bind.mpr (h.mono hf)

/-- Two postconditions are met together. -/
theorem Ensures.and (h : Ensures J R Q p w L s) (h' : Ensures J R Q' p w L s) :
    Ensures J R (fun a w L s => Q a w L s ∧ Q' a w L s) p w L s := by
  induction p generalizing w L s with
  | ret a => exact ⟨h, h'⟩
  | raise e => exact trivial
  | emit o k ih => exact ih h h'
  | stmt found effect k ih =>
      exact fun s₁ hs₁ h₁ s₂ hs₂ h₂ => ih _ _ (h s₁ hs₁ h₁ s₂ hs₂ h₂) (h' s₁ hs₁ h₁ s₂ hs₂ h₂)

theorem ensures_true : Ensures J R (fun _ _ _ _ => True) p w L s := by
  induction p generalizing w L s with
  | ret a => exact trivial
  | raise e => exact trivial
  | emit o k ih => exact ih
  | stmt found effect k ih => exact fun s₁ _ _ s₂ _ _ => ih _ _

/-- Exceptions are of no concern. -/
theorem Ensures.handle (g : ε → ε) (h : Ensures J R Q p w L s) :
    Ensures J R Q (p.handle g) w L s := by
  induction p generalizing w L s with
  | ret a => exact h
  | raise e => exact trivial
  | emit o k ih => exact ih h
  | stmt found effect k ih =>
      exact fun s₁ hs₁ h₁ s₂ hs₂ h₂ => ih _ _ (h s₁ hs₁ h₁ s₂ hs₂ h₂)

/-- What a program commits to whatever it finds and sees, it ensures under any rely. -/
theorem ensures_of_always {Q : α → (σ → σ) → Prop} (h : Always Q p w) :
    Ensures J R (fun a w' _ _ => Q a w') p w L s := by
  induction p generalizing w L s with
  | ret a => exact h
  | raise e => exact trivial
  | emit o k ih => exact ih h
  | stmt found effect k ih => exact fun s₁ _ _ s₂ _ _ => ih _ _ (h _ _)

/-- **The frame rule.** What every change of the program keeps of the writes, and what others and
    further locks leave alone, still holds at its end. -/
theorem ensures_of_makes {W F : (σ → σ) → Prop} {I : List κ → σ → Prop} {P : α → Prop}
    (h : Makes W P p) (hF : ∀ g w, W g → F w → F (g ∘ w)) (hI : Stable R I) (hw : F w)
    (hs : I L s) : Ensures J R (fun a w' L' s' => P a ∧ F w' ∧ I L' s') p w L s := by
  induction p generalizing w L s with
  | ret a => exact ⟨h, hw, hs⟩
  | raise e => exact trivial
  | emit o k ih => exact ih h hw hs
  | stmt found effect k ih =>
      intro s₁ _ h₁ s₂ _ h₂
      exact ih _ _ (h _ _).2 (hF _ _ (h _ _).1 hw) (hI.lock _ (hI.rely (hI.rely hs h₁) h₂))

/-- Locks are kept. -/
theorem stable_lock {key : κ} : Stable R fun L _ => key ∈ L where
  lock := fun ks h => List.mem_append_right ks h
  rely := fun h _ => h

/-- Assertions that are stable are stable together. -/
theorem Stable.and {I I' : List κ → σ → Prop} (h : Stable R I) (h' : Stable R I') :
    Stable R fun L s => I L s ∧ I' L s where
  lock := fun ks hI => ⟨h.lock ks hI.1, h'.lock ks hI.2⟩
  rely := fun hI hs => ⟨h.rely hI.1 hs, h'.rely hI.2 hs⟩

/-- The start of the program may be put off. -/
theorem Ensures.later (hQ : ∀ a w L s s', Q a w L s → R.allows L s s' → Q a w L s')
    (h : Ensures J R Q p w L s) (hs : R.allows L s s') : Ensures J R Q p w L s' := by
  induction p generalizing w L s with
  | ret a => exact hQ _ _ _ _ _ h hs
  | raise e => exact trivial
  | emit o k ih => exact ih h hs
  | stmt found effect k ih =>
      exact fun s₁ hs₁ h₁ s₂ hs₂ h₂ => h s₁ hs₁ (R.trans hs h₁) s₂ hs₂ h₂

theorem AtCommit.later {Q : α → List κ → σ → σ → Prop} {a : α} (h : AtCommit J R Q a w L s)
    (hs : R.allows L s s') : AtCommit J R Q a w L s' :=
  fun t ht hst => h t ht (R.trans hs hst)

end Rules

-- ── Many transactions ─────────────────────────────────────────────────────────────

/-- What an active transaction with the locks `L` still has to meet over the committed store
    `s`: between two statements, or waiting in one that found its rows on an earlier store. -/
inductive Position (J : σ → Prop) (R : Rely κ σ) (Q : α → List κ → σ → σ → Prop) (L : List κ)
    (s : σ) : Active κ σ ω ε α → Prop where
  | ready {x : Active κ σ ω ε α} (hf : x.found = none)
      (h : Ensures J R (AtCommit J R Q) x.prog x.write L s) : Position J R Q L s x
  | waiting {x : Active κ σ ω ε α} {found : σ → List κ} {effect : List κ → σ → σ → σ}
      {k : List κ → σ → Txn κ σ ω ε α} {ks : List κ} {s₁ : σ} (hf : x.found = some ks)
      (hp : x.prog = .stmt found effect k) (hs : R.allows L s₁ s)
      (h : ∀ s₂, J s₂ → R.allows L s₁ s₂ →
        Ensures J R (AtCommit J R Q) (k ks (x.write s₂)) (effect ks (x.write s₂) ∘ x.write)
          (ks ++ L) s₂) : Position J R Q L s x

/-- Every active transaction owns the locks it has taken and will meet its postcondition. -/
def Kept (J : τ → σ → Prop) (R : Rely κ σ) (Q : τ → α → List κ → σ → σ → Prop)
    (db : Db τ κ σ ω ε α) : Prop :=
  ∀ t x, db.phase t = .active x →
    ∃ L, (∀ key ∈ L, db.owner key = some t) ∧ Position (J t) R (Q t) L db.store x

/-- A commit that meets its postcondition changes the store as the holder of other locks may
    rely on. -/
def Guarantees (R : Rely κ σ) (Q : τ → α → List κ → σ → σ → Prop) : Prop :=
  ∀ t a L s s', Q t a L s s' → ∀ L', (∀ key ∈ L', key ∉ L) → R.allows L' s s'

section Run

variable {R : Rely κ σ}

section Position

variable {J : σ → Prop}

/-- A transaction in any position may be overtaken by what it relies on. -/
theorem Position.later {Q : α → List κ → σ → σ → Prop} {L : List κ} {s s' : σ}
    {x : Active κ σ ω ε α} (h : Position J R Q L s x) (hs : R.allows L s s') :
    Position J R Q L s' x := by
  cases h with
  | ready hf h => exact .ready hf (h.later (fun a w L s s' hq => hq.later) hs)
  | waiting hf hp hs₁ h => exact .waiting hf hp (R.trans hs₁ hs) h

/-- The transaction moves, over the same store: it begins or finishes a statement, or emits. -/
theorem Position.moves {Q : α → List κ → σ → σ → Prop} {L ks : List κ} {s : σ} {act : Act τ}
    {x y : Active κ σ ω ε α} (h : Position J R Q L s x) (hJ : J s) (hm : Moves s act ks x y) :
    Position J R Q (ks ++ L) s y := by
  cases hm with
  | begin hf hp =>
      cases h with
      | ready _ hens =>
          rw [hp] at hens
          exact .waiting rfl hp (R.refl L s) fun s₂ hs₂ h₂ => hens s hJ (R.refl L s) s₂ hs₂ h₂
      | waiting hf' => simp [hf] at hf'
  | finish hf hp =>
      cases h with
      | ready hf' => simp [hf] at hf'
      | waiting hf' hp' hs₁ hens =>
          rw [hf] at hf'
          rw [hp] at hp'
          cases hf'
          cases hp'
          exact .ready rfl (hens s hJ hs₁)
  | emit hf hp =>
      cases h with
      | ready _ hens =>
          rw [hp, ensures_emit] at hens
          exact .ready hf hens
      | waiting hf' => simp [hf] at hf'

end Position

variable {J : τ → σ → Prop} {Q : τ → α → List κ → σ → σ → Prop} {db db' : Db τ κ σ ω ε α}

theorem kept_initial {P : τ → Txn κ σ ω ε α} {s : σ}
    (h : ∀ t, Ensures (J t) R (AtCommit (J t) R (Q t)) (P t) id [] s) :
      Kept J R Q (initial P s) := by
  intro t x hx
  have hxe : x = .start (P t) := (Phase.active.inj hx).symm
  subst hxe
  exact ⟨[], by simp, .ready rfl (h t)⟩

variable [DecidableEq τ] [DecidableEq κ]

/-- Every step but a commit leaves the store alone; a commit meets its postcondition. -/
theorem Kept.step_store (h : Kept J R Q db) {act : Act τ} (hJ : J act.tid db.store)
    (hs : Step db act db') :
    ((∀ t, act ≠ .commit t) ∧ db'.store = db.store) ∨
      ∃ t a L, act = .commit t ∧ db'.phase t = .committed a ∧
        (∀ key ∈ L, db.owner key = some t) ∧ Q t a L db.store db'.store := by
  cases hs with
  | begin hx hf hp => exact Or.inl ⟨fun _ => nofun, rfl⟩
  | finish hx hf hp hfree => exact Or.inl ⟨fun _ => nofun, rfl⟩
  | emit hx hf hp => exact Or.inl ⟨fun _ => nofun, rfl⟩
  | rollback hx he => exact Or.inl ⟨fun _ => nofun, rfl⟩
  | @commit t x a hx hf hp =>
      obtain ⟨L, hown, hpos⟩ := h t x hx
      refine Or.inr ⟨t, a, L, rfl, move_phase_self .., hown, ?_⟩
      cases hpos with
      | ready _ hens =>
          rw [hp, ensures_ret] at hens
          exact hens db.store hJ (R.refl L db.store)
      | waiting hf' => simp [hf] at hf'

/-- The step lemma. -/
theorem Kept.step (hguar : Guarantees R Q) (h : Kept J R Q db) {act : Act τ}
    (hJ : J act.tid db.store) (hs : Step db act db') : Kept J R Q db' := by
  intro t x hx
  by_cases ht : t = act.tid
  · subst ht
    obtain ⟨y, ks, hy, hstore, howner, hmoves⟩ := hs.moves hx
    obtain ⟨L, hown, hpos⟩ := h _ y hy
    have hown' : ∀ key ∈ ks ++ L, db'.owner key = some act.tid := by
      intro key hkey
      rw [howner]
      rcases List.mem_append.mp hkey with hks | hL
      · exact lockAll_mem hks
      · exact lockAll_self (hown key hL)
    rw [hstore]
    exact ⟨ks ++ L, hown', hpos.moves hJ hmoves⟩
  · -- another transaction moves: what it commits is what `t` relies on
    have hxdb : db.phase t = .active x := by
      rw [← hs.phase_other ht]
      exact hx
    obtain ⟨L, hown, hpos⟩ := h t x hxdb
    refine ⟨L, fun key hkey => hs.owner_of_active (hown key hkey) hx, hpos.later ?_⟩
    rcases h.step_store hJ hs with ⟨-, hsame⟩ | ⟨t', a, L', rfl, -, hown', hQ⟩
    · rw [hsame]
      exact R.refl L db.store
    · refine hguar t' a L' _ _ hQ L fun key hkey hkey' => ht ?_
      have hboth := (hown key hkey).symm.trans (hown' key hkey')
      exact Option.some.inj hboth

/-- In the run the transaction takes a step on a database with this store. -/
def StepsOn (start : Db τ κ σ ω ε α) (acts : List (Act τ)) (db : Db τ κ σ ω ε α) (t : τ) (s : σ) :
    Prop :=
  ∃ acts₁ act acts₂ m, acts = acts₁ ++ act :: acts₂ ∧ act.tid = t ∧ Run Step start acts₁ m ∧
    Run Step m (act :: acts₂) db ∧ m.store = s

/-- **Every reachable database keeps the promises**, if `J` holds of the stores that the
    transactions have met. -/
theorem kept_run (hguar : Guarantees R Q) {acts : List (Act τ)} (h : Kept J R Q db)
    (hrun : Run Step db acts db') (hJ : ∀ t s, StepsOn db acts db' t s → J t s) : Kept J R Q db' :=
  hrun.invariant_within (I := Kept J R Q) (fun acts₁ act acts₂ m _ hacts hbefore hI hs hafter =>
    hI.step hguar (hJ act.tid m.store
      ⟨acts₁, act, acts₂, m, hacts, rfl, hbefore, .cons hs hafter, rfl⟩) hs) h

section Steps

variable {start : Db τ κ σ ω ε α} {acts : List (Act τ)} {act : Act τ} {t : τ} {s : σ}

/-- The steps of a run are steps of the longer run. -/
theorem StepsOn.append (h : StepsOn start acts db t s) (hs : Step db act db') :
    StepsOn start (acts ++ [act]) db' t s := by
  obtain ⟨acts₁, act', acts₂, m, hacts, ht, hbefore, hafter, hstore⟩ := h
  refine ⟨acts₁, act', acts₂ ++ [act], m, ?_, ht, hbefore, hafter.append (.single hs), hstore⟩
  rw [hacts, List.append_assoc, List.cons_append]

theorem stepsOn_last (hrun : Run Step start acts db) (hs : Step db act db') :
    StepsOn start (acts ++ [act]) db' act.tid db.store :=
  ⟨acts, act, [], db, rfl, rfl, hrun, .single hs, rfl⟩

end Steps

section Initial

variable {P : τ → Txn κ σ ω ε α} {s : σ} {acts : List (Act τ)}

/-- **Every commit of every interleaving meets its postcondition.** -/
theorem commit_meets {t : τ} {a : α} (hguar : Guarantees R Q)
    (h : ∀ t, Ensures (J t) R (AtCommit (J t) R (Q t)) (P t) id [] s)
    (hrun : Run Step (initial P s) acts db) (hs : Step db (.commit t) db')
    (hJ : ∀ t' s', StepsOn (initial P s) (acts ++ [.commit t]) db' t' s' → J t' s')
    (hphase : db'.phase t = .committed a) : ∃ L, Q t a L db.store db'.store := by
  have hkept := kept_run hguar (kept_initial h) hrun fun t' s' hsteps => hJ t' s' (hsteps.append hs)
  have hmet : J (Act.commit t).tid db.store := hJ t db.store (stepsOn_last hrun hs)
  rcases hkept.step_store hmet hs with ⟨hother, -⟩ | ⟨t', a', L, hact, hphase', -, hQ⟩
  · exact absurd rfl (hother t)
  · cases hact
    rw [hphase] at hphase'
    cases hphase'
    exact ⟨L, hQ⟩

/-- **The invariant rule.** What every commit that meets its postcondition keeps of the store
    holds in every reachable database. -/
theorem store_invariant {I : σ → Prop} (hguar : Guarantees R Q)
    (h : ∀ t, Ensures (fun _ => True) R (AtCommit (fun _ => True) R (Q t)) (P t) id [] s)
    (hkeep : ∀ t a L s s', I s → Q t a L s s' → I s') (hrun : Run Step (initial P s) acts db)
    (h0 : I s) : I db.store := by
  refine (hrun.invariant (I := fun m => Kept (fun _ _ => True) R Q m ∧ I m.store) ?_
    ⟨kept_initial h, h0⟩).2
  rintro m act m' ⟨hkept, hI⟩ hs
  refine ⟨hkept.step hguar trivial hs, ?_⟩
  rcases hkept.step_store trivial hs with ⟨-, hstore⟩ | ⟨t, a, L, -, -, -, hQ⟩
  · rw [hstore]
    exact hI
  · exact hkeep t a L _ _ hI hQ

end Initial

end Run

-- ── The order of the commits ──────────────────────────────────────────────────────

/-- The transactions that a schedule commits, in this order, with their answers. -/
def commits (acts : List (Act τ)) (db : Db τ κ σ ω ε α) : List (τ × α) :=
  acts.filterMap fun
    | .commit t =>
        match db.phase t with
        | .committed a => some (t, a)
        | _ => none
    | _ => none

section Commits

variable {start db db' : Db τ κ σ ω ε α} {acts : List (Act τ)} {act : Act τ}

theorem commits_commit {t : τ} {a : α} (h : db.phase t = .committed a) :
    commits [.commit t] db = [(t, a)] := by
  simp only [commits, List.filterMap_cons, List.filterMap_nil, h]

theorem commits_other (h : ∀ t, act ≠ .commit t) : commits [act] db = [] := by
  cases act with
  | commit t => exact absurd rfl (h t)
  | begin t | finish t | emit t | rollback t => rfl

variable [DecidableEq τ] [DecidableEq κ]

/-- A transaction that the schedule commits has committed. -/
theorem Run.committed_of_mem {t : τ} (h : Run Step start acts db) (ht : .commit t ∈ acts) :
    ∃ a, db.phase t = .committed a := by
  induction h with
  | nil s => cases ht
  | cons hstep hrest ih =>
      rcases List.mem_cons.mp ht with heq | hmem
      · subst heq
        cases hstep with
        | commit hx hf hp => exact ⟨_, Run.committed_stays hrest (move_phase_self ..)⟩
      · exact ih hmem

/-- One more step adds its own commit to the end. -/
theorem commits_step (h : Run Step start acts db) (hs : Step db act db') :
    commits (acts ++ [act]) db' = commits acts db ++ commits [act] db' := by
  rw [commits]
  rw [List.filterMap_append]
  congr 1
  refine List.filterMap_congr fun act' hact => ?_
  cases act' with
  | commit t =>
      obtain ⟨a, ha⟩ := Run.committed_of_mem h hact
      dsimp only
      rw [ha, hs.committed_stays ha]
  | begin t | finish t | emit t | rollback t => rfl

end Commits

end ReadCommitted
