import Mathlib

/-! Finite maps with at most one value per key, as association lists that can be listed. -/

abbrev Table (κ α : Type) := AList fun _ : κ => α

namespace Table
open Option AList
variable {κ α β : Type}

/-- The stored pairs. -/
def pairs (table : Table κ α) : List (κ × α) := table.entries.map fun entry => (entry.1, entry.2)

theorem pairs_pairwise (table : Table κ α) : table.pairs.Pairwise fun one two => one.1 ≠ two.1 := by
  have distinct : (table.entries.map Sigma.fst).Pairwise (· ≠ ·) := table.nodupKeys
  exact List.pairwise_map.mpr (List.pairwise_map.mp distinct)

variable [DecidableEq κ]

def get (table : Table κ α) (key : κ) : Option α := table.lookup key

/-- Updates the value of a key, if it has one. -/
def modify (table : Table κ α) (key : κ) (change : α → α) : Table κ α :=
  match table.get key with
  | some value => table.insert key (change value)
  | none => table

@[simp] theorem get_empty (key : κ) : get (∅ : Table κ α) key = none := lookup_empty key

@[simp] theorem get_insert (table : Table κ α) (key other : κ) (value : α) :
    get (table.insert key value) other = if other = key then some value else table.get other := by
  unfold get
  split
  · next same => rw [same, lookup_insert]
  · next different => rw [lookup_insert_ne different]

@[simp] theorem get_erase (table : Table κ α) (key other : κ) :
    get (table.erase key) other = if other = key then none else table.get other := by
  unfold get
  split
  · next same => rw [same, lookup_erase]
  · next different => rw [lookup_erase_ne different]

@[simp] theorem get_modify (table : Table κ α) (key other : κ) (change : α → α) :
    get (table.modify key change) other = if other = key then (table.get other).map change else table.get other := by
  unfold modify
  cases found : table.get key with
  | some value =>
    rw [get_insert]
    split
    · next same => rw [same, found, map_some]
    · rfl
  | none =>
    by_cases same : other = key
    · rw [if_pos same, same, found, map_none]
    · rw [if_neg same]

/-- A map inside the values of a table is changed in one place. -/
theorem bind_modify {ι : Type} [DecidableEq ι] (table : Table κ α) {inner : α → ι → Option β} {change} {place : ι}
    {value} (changed : ∀ a i, inner (change a) i = if i = place then value else inner a i) (key other : κ)
    (index : ι) : ((table.modify key change).get other).bind (inner · index) =
      if other = key ∧ index = place then (table.get other).bind fun _ => value else (table.get other).bind (inner · index) := by
  rw [get_modify]
  by_cases here : other = key
  · rw [if_pos here, bind_map]
    by_cases same : index = place
    · simp only [Function.comp_def, changed, here, same, and_self, if_true]
    · simp only [Function.comp_def, changed, same, and_false, if_false]
  · simp only [here, false_and, if_false]

theorem mem_pairs (table : Table κ α) (key : κ) (value : α) :
    (key, value) ∈ table.pairs ↔ table.get key = some value := by
  have stored := @AList.mem_lookup_iff κ (fun _ => α) _ key value table
  rw [mem_def] at stored
  rw [get, stored]
  simp only [pairs, List.mem_map, Prod.mk.injEq]
  constructor
  · intro ⟨entry, listed, sameKey, sameValue⟩
    subst sameKey sameValue
    exact listed
  · intro listed
    exact ⟨⟨key, value⟩, listed, rfl, rfl⟩

end Table
