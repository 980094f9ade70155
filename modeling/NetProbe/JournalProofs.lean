import Mathlib.Data.List.Nodup
import NetProbe.RunProofs

/-!
# Journals of tasks that are carried out once

A task is known by its name.  A journal lists the names of the tasks that have been carried out;
a batch of tasks is entered into it by carrying out those whose name is not there yet
(`pending`), in the order of the batch.

`Enters` is one batch as a step, so a history of batches is a run.  `run_covers` says that such
a run leaves every task of its batches in the journal and forgets none.
-/

namespace Journal

open LabelledRun

variable {ρ ν : Type} [DecidableEq ν] {key : ρ → ν} {done done' : List ν} {batch : List ρ}
  {batches : List (List ρ)} {n : ν}

/-- The tasks of a batch that have not been carried out. -/
def pending (key : ρ → ν) (done : List ν) (batch : List ρ) : List ρ :=
  batch.filter fun r => !done.contains (key r)

/-- A batch is entered: what is pending is carried out, in order. -/
def Enters (key : ρ → ν) (done : List ν) (batch : List ρ) (done' : List ν) : Prop :=
  done' = done ++ (pending key done batch).map key

theorem mem_pending {r : ρ} : r ∈ pending key done batch ↔ r ∈ batch ∧ key r ∉ done := by
  rw [pending]
  rw [List.mem_filter]
  simp

theorem pending_cons_of_mem {r : ρ} (h : key r ∈ done) :
    pending key done (r :: batch) = pending key done batch := by
  rw [pending]
  exact List.filter_cons_of_neg (by simp [h])

theorem pending_cons_of_not_mem {r : ρ} (h : key r ∉ done) :
    pending key done (r :: batch) = r :: pending key done batch := by
  rw [pending]
  exact List.filter_cons_of_pos (by simp [h])

/-- The journal after a batch: what was there, and the names of the batch. -/
theorem Enters.mem_iff (h : Enters key done batch done') :
    n ∈ done' ↔ n ∈ done ∨ n ∈ batch.map key := by
  rw [h, List.mem_append]
  constructor
  · rintro (hold | hnew)
    · exact Or.inl hold
    · obtain ⟨r, hr, rfl⟩ := List.mem_map.mp hnew
      exact Or.inr (List.mem_map_of_mem (mem_pending.mp hr).1)
  · rintro (hold | hbatch)
    · exact Or.inl hold
    · by_cases hdone : n ∈ done
      · exact Or.inl hdone
      · obtain ⟨r, hr, rfl⟩ := List.mem_map.mp hbatch
        exact Or.inr (List.mem_map_of_mem (mem_pending.mpr ⟨hr, hdone⟩))

/-- **What a history of batches leaves**: what was there, and the names of all batches. -/
theorem run_covers (h : Run (Enters key) done batches done') :
    n ∈ done' ↔ n ∈ done ∨ ∃ batch ∈ batches, n ∈ batch.map key := by
  induction h with
  | nil done => simp
  | cons hstep _ ih =>
      rw [ih, hstep.mem_iff, or_assoc]
      simp only [List.mem_cons, exists_eq_or_imp]

end Journal
