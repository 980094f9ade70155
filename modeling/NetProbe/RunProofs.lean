import Mathlib.Data.List.Basic

/-!
# Labelled runs

A system is a step relation `step : σ → ι → σ → Prop` over states `σ` and labels `ι`
(an operation with its arguments, a scheduling choice, a request).  A `Run` is a finite
sequence of steps with its labels.  Everything said about "every run" or "every reachable
state" of a system goes through the three rules of this file:

* `Run.invariant` — what every step preserves holds at the end of every run;
* `Run.simulate` — if every step is matched by a step of a second system between related
  states, every run is matched by a run of it;
* `Run.split` — a run through a list of labels passes through a state at every cut of that
  list, so a claim about "from here on" is a claim about the tail of a run.

A run "whose steps all meet a condition" is a run of the restricted system `Restrict`;
`Throughout` says that every step of a run has a property of the states around it.
A system given by a function has its runs computed by `exec`, so a concrete run can be
evaluated.
-/

namespace LabelledRun

variable {σ ι : Type}

/-- A finite run of a labelled system, with the labels of its steps in order. -/
inductive Run (step : σ → ι → σ → Prop) : σ → List ι → σ → Prop where
  | nil (s : σ) : Run step s [] s
  | cons {s s' s'' : σ} {l : ι} {ls : List ι} :
      step s l s' → Run step s' ls s'' → Run step s (l :: ls) s''

/-- The system whose steps are those of `step` that meet the condition `C` on the state
    before the step and the label. -/
def Restrict (step : σ → ι → σ → Prop) (C : σ → ι → Prop) : σ → ι → σ → Prop :=
  fun s l s' => C s l ∧ step s l s'

/-- Every step of a run along the labels satisfies `P`. -/
def Throughout (step P : σ → ι → σ → Prop) (s : σ) (ls : List ι) : Prop :=
  ∀ before l after m m', ls = before ++ l :: after → Run step s before m → step m l m' → P m l m'

/-- Run a computed system over a list of labels. -/
def exec (f : σ → ι → Option σ) : σ → List ι → Option σ
  | s, [] => some s
  | s, l :: ls => (f s l).bind fun s' => exec f s' ls

theorem exec_append {f : σ → ι → Option σ} {s : σ} {ls ls' : List ι} :
    exec f s (ls ++ ls') = (exec f s ls).bind fun s' => exec f s' ls' := by
  induction ls generalizing s with
  | nil => rfl
  | cons l ls ih =>
      show (f s l).bind (fun s' => exec f s' (ls ++ ls')) =
        ((f s l).bind fun s' => exec f s' ls).bind _
      rw [Option.bind_assoc]
      exact congrArg ((f s l).bind ·) (funext fun s' => ih)

namespace Run

variable {step : σ → ι → σ → Prop} {s s' s'' : σ} {l : ι} {ls ls' : List ι}

/-- A single step is a run. -/
theorem single (h : step s l s') : Run step s [l] s' :=
  .cons h (.nil s')

/-- A computed run is a run, if every computed step is a step. -/
theorem of_exec {f : σ → ι → Option σ} (hf : ∀ s l s', f s l = some s' → step s l s')
    (h : exec f s ls = some s') : Run step s ls s' := by
  induction ls generalizing s with
  | nil =>
      obtain rfl : s = s' := Option.some.inj h
      exact .nil s
  | cons l ls ih =>
      obtain ⟨m, hm, hrest⟩ := Option.bind_eq_some_iff.mp h
      exact .cons (hf s l m hm) (ih hrest)

/-- Runs compose. -/
theorem append (h : Run step s ls s') (h' : Run step s' ls' s'') :
    Run step s (ls ++ ls') s'' := by
  induction h with
  | nil s => exact h'
  | cons hstep _ ih => exact .cons hstep (ih h')

/-- **Cutting a run.** A run along `ls ++ ls'` passes through a state after `ls`. -/
theorem split (h : Run step s (ls ++ ls') s'') :
    ∃ s', Run step s ls s' ∧ Run step s' ls' s'' := by
  induction ls generalizing s with
  | nil => exact ⟨s, .nil s, h⟩
  | cons l ls ih =>
      cases h with
      | cons hstep hrest =>
          obtain ⟨m, h1, h2⟩ := ih hrest
          exact ⟨m, .cons hstep h1, h2⟩

/-- **The invariant rule.** What holds at the start and is kept by every step holds at the
    end of the run. -/
theorem invariant {I : σ → Prop} (hkeep : ∀ s l s', I s → step s l s' → I s')
    (h : Run step s ls s') (h0 : I s) : I s' := by
  induction h with
  | nil s => exact h0
  | cons hstep _ ih => exact ih (hkeep _ _ _ h0 hstep)

/-- The invariant rule for a property of the state and of all labels so far. -/
theorem invariant_of_labels {I : List ι → σ → Prop}
    (hkeep : ∀ ls s l s', I ls s → step s l s' → I (ls ++ [l]) s')
    (h : Run step s ls s') (h0 : I [] s) : I ls s' := by
  have hgen : ∀ {s s' ls pre}, Run step s ls s' → I pre s → I (pre ++ ls) s' := by
    intro s s' ls pre hrun
    induction hrun generalizing pre with
    | nil s =>
        intro hpre
        rwa [List.append_nil]
    | @cons s m s' l ls hstep _ ih =>
        intro hpre
        have := ih (hkeep pre s l m hpre hstep)
        rwa [List.append_assoc] at this
  exact hgen h h0

/-- The invariant rule where a step of the run is known with the run before and after it. -/
theorem invariant_within {I : σ → Prop} (h : Run step s ls s')
    (hkeep : ∀ ls₁ l ls₂ m m', ls = ls₁ ++ l :: ls₂ → Run step s ls₁ m → I m → step m l m' →
      Run step m' ls₂ s' → I m') (h0 : I s) : I s' := by
  have hgen : ∀ {m t ls₂}, Run step m ls₂ t → t = s' → ∀ ls₁, ls = ls₁ ++ ls₂ →
      Run step s ls₁ m → I m → I t := by
    intro m t ls₂ hrun
    induction hrun with
    | nil m =>
        intro _ ls₁ _ _ hm
        exact hm
    | @cons m m' t l ls₂ hstep hrest ih =>
        intro ht ls₁ hls hbefore hm
        refine ih ht (ls₁ ++ [l]) (by rw [hls, List.append_assoc]; rfl)
          (hbefore.append (single hstep)) ?_
        exact hkeep ls₁ l ls₂ m m' hls hbefore hm hstep (ht ▸ hrest)
  exact hgen h rfl [] rfl (.nil s) h0

/-- What holds of the label of every step holds of all labels of a run. -/
theorem all_labels {P : ι → Prop} (hP : ∀ s l s', step s l s' → P l) (h : Run step s ls s') :
    ∀ l ∈ ls, P l := by
  induction h with
  | nil s => simp
  | cons hstep _ ih =>
      intro l hl
      rcases List.mem_cons.mp hl with rfl | hl
      · exact hP _ _ _ hstep
      · exact ih l hl

/-- **The simulation rule.** If every step is matched by a step of another system between
    related states, with the image of its label, then so is every run. -/
theorem simulate {σ' ι' : Type} {step' : σ' → ι' → σ' → Prop} {R : σ → σ' → Prop} {f : ι → ι'}
    (hsim : ∀ s l s' a, R s a → step s l s' → ∃ a', step' a (f l) a' ∧ R s' a')
    (h : Run step s ls s') {a : σ'} (h0 : R s a) : ∃ a', Run step' a (ls.map f) a' ∧ R s' a' := by
  induction h generalizing a with
  | nil s => exact ⟨a, .nil a, h0⟩
  | cons hstep _ ih =>
      obtain ⟨m, hm, hR⟩ := hsim _ _ _ a h0 hstep
      obtain ⟨a', hrest, hR'⟩ := ih hR
      exact ⟨a', .cons hm hrest, hR'⟩

/-- A run of a system is a run of a system with more steps. -/
theorem mono {step' : σ → ι → σ → Prop} (hmore : ∀ s l s', step s l s' → step' s l s')
    (h : Run step s ls s') : Run step' s ls s' := by
  induction h with
  | nil s => exact .nil s
  | cons hstep _ ih => exact .cons (hmore _ _ _ hstep) ih

/-- A condition that every step meets is no restriction. -/
theorem restrict_of_all {C : σ → ι → Prop} (h : Run step s ls s') (hC : ∀ s l, C s l) :
    Run (Restrict step C) s ls s' := by
  induction h with
  | nil s => exact .nil s
  | cons hstep _ ih => exact .cons ⟨hC _ _, hstep⟩ ih

/-- A condition on the label alone may be checked on the list of labels. -/
theorem restrict_of_labels {C : ι → Prop} (h : Run step s ls s') (hC : ∀ l ∈ ls, C l) :
    Run (Restrict step fun _ l => C l) s ls s' := by
  induction h with
  | nil s => exact .nil s
  | @cons s s' s'' l ls hstep _ ih =>
      have hl : C l := hC l (by simp)
      exact .cons ⟨hl, hstep⟩ (ih fun m hm => hC m (List.mem_cons_of_mem _ hm))

end Run

section Endless

/-- An endless run: at every moment the system makes a step, or idles. -/
def Endless (step : σ → ι → σ → Prop) (ρ : Nat → σ) (l : Nat → Option ι) : Prop :=
  ∀ n, (∃ i, l n = some i ∧ step (ρ n) i (ρ (n + 1))) ∨ l n = none ∧ ρ (n + 1) = ρ n

variable {step : σ → ι → σ → Prop} {ρ : Nat → σ} {l : Nat → Option ι} {n m : Nat}

/-- What holds at a moment and is kept by the steps from there to another holds at the other. -/
theorem Endless.invariant_from {I : σ → Prop} (h : Endless step ρ l)
    (hkeep : ∀ k i, n ≤ k → k < m → l k = some i → I (ρ k) →
      step (ρ k) i (ρ (k + 1)) → I (ρ (k + 1)))
    (hn : I (ρ n)) (hnm : n ≤ m) : I (ρ m) := by
  induction hnm with
  | refl => exact hn
  | @step k hk ih =>
      have hbefore := ih fun j i hj hjk => hkeep j i hj (Nat.lt_succ_of_lt hjk)
      rcases h k with ⟨i, hi, hstep⟩ | ⟨-, hidle⟩
      · exact hkeep k i hk (Nat.lt_succ_self k) hi hbefore hstep
      · rwa [hidle]

/-- A label of an endless run is that of a step. -/
theorem Endless.at {i : ι} (h : Endless step ρ l) (hi : l n = some i) :
    step (ρ n) i (ρ (n + 1)) := by
  rcases h n with ⟨j, hj, hstep⟩ | ⟨hnone, -⟩
  · obtain rfl := Option.some.inj (hi.symm.trans hj)
    exact hstep
  · rw [hi] at hnone
    cases hnone

/-- A step of one system for every step of another makes an endless run of one of the other. -/
theorem Endless.map {σ' ι' : Type} {step' : σ' → ι' → σ' → Prop} {f : σ → σ'} {g : ι → ι'}
    (h : Endless step ρ l) (hstep : ∀ s i s', step s i s' → step' (f s) (g i) (f s')) :
    Endless step' (fun n => f (ρ n)) fun n => (l n).map g := by
  intro n
  rcases h n with ⟨i, hi, hs⟩ | ⟨hnone, hidle⟩
  · exact Or.inl ⟨g i, congrArg (Option.map g) hi, hstep _ _ _ hs⟩
  · exact Or.inr ⟨congrArg (Option.map g) hnone, congrArg f hidle⟩

/-- A computed run, and idling after it. -/
theorem endless_of_exec {f : σ → ι → Option σ} {s s' : σ} {ls : List ι}
    (h : exec f s ls = some s') :
    Endless (fun s i s' => f s i = some s') (fun n => (exec f s (ls.take n)).getD s)
      fun n => ls[n]? := by
  induction ls generalizing s with
  | nil =>
      intro n
      refine Or.inr ⟨rfl, ?_⟩
      dsimp only
      rw [List.take_nil, List.take_nil]
  | cons i ls ih =>
      obtain ⟨m, hm, hrest⟩ := Option.bind_eq_some_iff.mp h
      have hlater :
          ∀ n, (exec f s ((i :: ls).take (n + 1))).getD s = (exec f m (ls.take n)).getD m := by
        intro n
        obtain ⟨t, ht⟩ : ∃ t, exec f m (ls.take n) = some t := by
          rw [← List.take_append_drop n ls, exec_append] at hrest
          exact (Option.bind_eq_some_iff.mp hrest).imp fun t ht => ht.1
        show ((f s i).bind fun s' => exec f s' (ls.take n)).getD s = _
        rw [hm, Option.bind_some, ht]
        rfl
      intro n
      cases n with
      | zero =>
          refine Or.inl ⟨i, rfl, ?_⟩
          dsimp only
          rw [hlater]
          exact hm
      | succ n =>
          dsimp only
          rw [hlater, hlater]
          exact ih hrest n

/-- A number that changes along an endless run is least at some moment of all that follow. -/
theorem exists_least_from (r : Nat → Nat) (n : Nat) : ∃ k, n ≤ k ∧ ∀ m, k ≤ m → r k ≤ r m := by
  induction hv : r n using Nat.strongRecOn generalizing n with
  | ind v ih =>
      by_cases hless : ∃ m, n ≤ m ∧ r m < r n
      · obtain ⟨m, hnm, hlt⟩ := hless
        obtain ⟨k, hmk, hmin⟩ := ih (r m) (hv ▸ hlt) m rfl
        exact ⟨k, Nat.le_trans hnm hmk, hmin⟩
      · exact ⟨n, Nat.le_refl n, fun m hm => Nat.not_lt.mp fun hlt => hless ⟨m, hm, hlt⟩⟩

end Endless

section Throughout

variable {step P Q : σ → ι → σ → Prop} {s : σ} {l : ι} {ls : List ι}

theorem throughout_nil : Throughout step P s [] := by
  intro before l after m m' hls
  simp at hls

theorem throughout_cons :
    Throughout step P s (l :: ls) ↔ ∀ s', step s l s' → P s l s' ∧ Throughout step P s' ls := by
  constructor
  · intro h s' hstep
    refine ⟨h [] l ls s s' rfl (.nil s) hstep, ?_⟩
    intro before l' after m m' hls hrun hlast
    exact h (l :: before) l' after m m' (by rw [hls]; rfl) (.cons hstep hrun) hlast
  · intro h before l' after m m' hls hrun hlast
    cases hrun with
    | nil =>
        obtain ⟨rfl, rfl⟩ := List.cons.inj hls
        exact (h m' hlast).1
    | cons hstep hrest =>
        obtain ⟨rfl, htail⟩ := List.cons.inj hls
        exact (h _ hstep).2 _ l' after m m' htail hrest hlast

/-- Two properties of steps that agree as long as the first keeps an invariant hold of the same
    runs. -/
theorem throughout_iff {I : σ → Prop}
    (hstep : ∀ s l s', l ∈ ls → I s → step s l s' → (P s l s' ↔ Q s l s') ∧ (P s l s' → I s'))
    (hI : I s) : Throughout step P s ls ↔ Throughout step Q s ls := by
  induction ls generalizing s with
  | nil => exact ⟨fun _ => throughout_nil, fun _ => throughout_nil⟩
  | cons l ls ih =>
      have ih' := fun s' => ih (s := s') fun s l s' hl => hstep s l s' (List.mem_cons_of_mem _ hl)
      rw [throughout_cons, throughout_cons]
      constructor
      · intro h s' hs
        obtain ⟨hP, hrest⟩ := h s' hs
        obtain ⟨hiff, hkeep⟩ := hstep s l s' (List.mem_cons_self ..) hI hs
        exact ⟨hiff.mp hP, (ih' s' (hkeep hP)).mp hrest⟩
      · intro h s' hs
        obtain ⟨hQ, hrest⟩ := h s' hs
        obtain ⟨hiff, hkeep⟩ := hstep s l s' (List.mem_cons_self ..) hI hs
        exact ⟨hiff.mpr hQ, (ih' s' (hkeep (hiff.mpr hQ))).mpr hrest⟩

end Throughout

end LabelledRun
