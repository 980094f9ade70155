import Mathlib.Data.List.Nodup

/-!
# Dictionaries

A dictionary lists its entries in the order in which their keys were first set; no key is there
twice (`Dict.nodup`).  Setting a key that is there changes its value in place.
-/

namespace Dictionary

variable {κ α : Type} [DecidableEq κ]

/-- The entries after `d[key] = value`. -/
def setEntry (key : κ) (value : α) : List (κ × α) → List (κ × α)
  | [] => [(key, value)]
  | e :: es => if e.1 = key then (key, value) :: es else e :: setEntry key value es

theorem keys_setEntry {key : κ} {value : α} {es : List (κ × α)} :
    (setEntry key value es).map Prod.fst =
      if key ∈ es.map Prod.fst then es.map Prod.fst else es.map Prod.fst ++ [key] := by
  induction es with
  | nil => rfl
  | cons e es ih =>
      rw [setEntry]
      by_cases hkey : e.1 = key
      · rw [if_pos hkey, if_pos (by simp [hkey])]
        rw [List.map_cons, List.map_cons, hkey]
      · rw [if_neg hkey, List.map_cons, ih, List.map_cons]
        by_cases hmem : key ∈ es.map Prod.fst
        · rw [if_pos hmem, if_pos (List.mem_cons_of_mem _ hmem)]
        · rw [if_neg hmem, if_neg (by rw [List.mem_cons]; exact not_or.mpr ⟨Ne.symm hkey, hmem⟩)]
          rfl

/-- The value of the first entry with the key. -/
def valueOf (es : List (κ × α)) (key : κ) : Option α := es.lookup key

@[simp] theorem valueOf_nil {key : κ} : valueOf ([] : List (κ × α)) key = none := rfl

@[simp] theorem valueOf_cons {key key' : κ} {value : α} {es : List (κ × α)} :
    valueOf ((key, value) :: es) key' = if key' = key then some value else valueOf es key' := by
  rw [valueOf, List.lookup_cons]
  by_cases h : key' = key
  · rw [if_pos h, h, beq_self_eq_true]
  · rw [if_neg h, beq_false_of_ne h]
    rfl

theorem valueOf_append {key : κ} {es es' : List (κ × α)} :
    valueOf (es ++ es') key = (valueOf es key).or (valueOf es' key) := List.lookup_append

/-- A dictionary. -/
structure Dict (κ α : Type) where
  entries : List (κ × α)
  nodup : (entries.map Prod.fst).Nodup

namespace Dict

def empty : Dict κ α := ⟨[], List.nodup_nil⟩

/-- `d.get(key)` -/
def get (d : Dict κ α) (key : κ) : Option α := valueOf d.entries key

/-- `d[key] = value` -/
def set (d : Dict κ α) (key : κ) (value : α) : Dict κ α where
  entries := setEntry key value d.entries
  nodup := by
    rw [keys_setEntry]
    split
    next => exact d.nodup
    next hmem =>
      exact List.nodup_append.mpr ⟨d.nodup, List.nodup_singleton key, fun a ha b hb hab =>
      hmem (List.mem_singleton.mp hb ▸ hab ▸ ha)⟩

/-- `d.setdefault(key, value)` -/
def setdefault (d : Dict κ α) (key : κ) (value : α) : Dict κ α :=
  if (d.get key).isSome then d else d.set key value

/-- `d.update(entries)` -/
def update (d : Dict κ α) (es : List (κ × α)) : Dict κ α :=
  es.foldl (fun d e => d.set e.1 e.2) d

/-- `dict(entries)` -/
def ofList (es : List (κ × α)) : Dict κ α := empty.update es

variable {d : Dict κ α} {key key' : κ} {value : α} {es : List (κ × α)}

theorem get_empty : (empty : Dict κ α).get key = none := rfl

theorem get_set : (d.set key value).get key' = if key' = key then some value else d.get key' := by
  show valueOf (setEntry key value d.entries) key' = if key' = key then _
    else valueOf d.entries key'
  generalize d.entries = es
  induction es with
  | nil => rw [setEntry, valueOf_cons]
  | cons e es ih =>
      obtain ⟨k, v⟩ := e
      rw [setEntry]
      by_cases hkey : k = key
      · subst hkey
        rw [if_pos rfl, valueOf_cons, valueOf_cons]
        by_cases h : key' = k
        · rw [if_pos h, if_pos h]
        · rw [if_neg h, if_neg h, if_neg h]
      · rw [if_neg hkey, valueOf_cons, valueOf_cons, ih]
        by_cases h : key' = k
        · subst h
          rw [if_pos rfl, if_neg hkey, if_pos rfl]
        · rw [if_neg h, if_neg h]

theorem get_setdefault :
    (d.setdefault key value).get key' = if key' = key then (d.get key).or (some value)
      else d.get key' := by
  rw [setdefault]
  cases hget : d.get key with
  | some v =>
      rw [if_pos (by rfl)]
      split
      next h => rw [h, hget]; rfl
      next => rfl
  | none => rw [if_neg (by simp), get_set, Option.none_or]

/-- The last of the new values counts, or else the old one. -/
theorem get_update : (d.update es).get key = (valueOf es.reverse key).or (d.get key) := by
  induction es generalizing d with
  | nil => rfl
  | cons e es ih =>
      obtain ⟨k, v⟩ := e
      show ((d.set k v).update es).get key = _
      rw [ih, get_set, List.reverse_cons, valueOf_append, valueOf_cons]
      cases valueOf es.reverse key with
      | some v => rfl
      | none =>
          rw [Option.none_or, Option.none_or]
          split
          next => rfl
          next => rfl

end Dict

end Dictionary
