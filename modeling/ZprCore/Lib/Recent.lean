import Mathlib

/-! A list that keeps the latest of a number of items. Items are counted from the first there
ever was. -/

namespace Recent
open List
variable {α : Type} {kept : List α} {n k : Nat}

/-- The item with the number `k` among `n`, if it is kept. -/
def get (kept : List α) (n k : Nat) : Option α := if n ≤ k + kept.length then kept[k + kept.length - n]? else none

theorem get_eq_none (old : k + kept.length < n) : get kept n k = none := if_neg (Nat.not_le.mpr old)

theorem get_of_index (index : Nat) (place : k + kept.length = n + index) : get kept n k = kept[index]? := by
  rw [get, if_pos (by omega), show k + kept.length - n = index by omega]

theorem get_cases (kept : List α) (below : k < n) :
    (k + kept.length < n ∧ get kept n k = none) ∨
      ∃ index item, k + kept.length = n + index ∧ kept[index]? = some item ∧ get kept n k = some item := by
  by_cases old : k + kept.length < n
  · exact .inl ⟨old, get_eq_none old⟩
  have inside : k + kept.length - n < kept.length := by omega
  have place : k + kept.length = n + (k + kept.length - n) := by omega
  refine .inr ⟨_, kept[k + kept.length - n], place, getElem?_eq_getElem inside, ?_⟩
  rw [get_of_index _ place, getElem?_eq_getElem inside]

/-- A new item leaves the others their numbers. -/
theorem get_push (below : k < n) (new : α) : get (kept ++ [new]) (n + 1) k = get kept n k := by
  have length : (kept ++ [new]).length = kept.length + 1 := by rw [length_append, length_singleton]
  obtain ⟨old, gone⟩ | ⟨index, item, place, present, same⟩ := get_cases kept below
  · rw [gone, get_eq_none (by omega)]
  · rw [same, get_of_index index (by omega), getElem?_append_left (List.getElem?_eq_some_iff.mp present).1, present]

theorem get_pushed (kept : List α) (n : Nat) (new : α) : get (kept ++ [new]) (n + 1) n = some new := by
  have length : (kept ++ [new]).length = kept.length + 1 := by rw [length_append, length_singleton]
  rw [get_of_index kept.length (by omega), getElem?_append_right (Nat.le_refl _), Nat.sub_self]
  rfl

/-- Dropping the oldest items changes no other one. -/
theorem get_suffix {front rest} (split : kept = front ++ rest) {item} (below : k < n)
    (found : get rest n k = some item) : get kept n k = some item := by
  have length : kept.length = front.length + rest.length := by rw [split, length_append]
  obtain ⟨_, gone⟩ | ⟨index, other, place, present, same⟩ := get_cases rest below
  · cases gone.symm.trans found
  rw [same] at found
  rw [get_of_index (front.length + index) (by omega), split, getElem?_append_right (Nat.le_add_right _ _),
    Nat.add_sub_cancel_left, present, found]

/-- An item that is not kept any more is one of those dropped. -/
theorem get_dropped {front rest} (split : kept = front ++ rest) (below : k < n) (gone : get rest n k = none) :
    get kept n k = none ∨ ∃ item ∈ front, get kept n k = some item := by
  have length : kept.length = front.length + rest.length := by rw [split, length_append]
  obtain ⟨_, gone'⟩ | ⟨index, item, place, present, same⟩ := get_cases kept below
  · exact .inl gone'
  refine .inr ⟨item, ?_, same⟩
  obtain ⟨old, _⟩ | ⟨_, _, _, _, kept'⟩ := get_cases rest below
  · rw [split, getElem?_append_left (by omega)] at present
    exact mem_of_getElem? present
  · cases kept'.symm.trans gone

/-- Replacing one item changes no other one. -/
theorem get_set (kept : List α) (below : k < n) (index : Nat) (new : α) :
    (k + kept.length = n + index ∧ get (kept.set index new) n k = some new) ∨
      (k + kept.length ≠ n + index ∧ get (kept.set index new) n k = get kept n k) := by
  have length : (kept.set index new).length = kept.length := length_set
  by_cases here : k + kept.length = n + index
  · refine .inl ⟨here, ?_⟩
    rw [get_of_index index (by omega), getElem?_set_self (by omega)]
  refine .inr ⟨here, ?_⟩
  obtain ⟨old, gone⟩ | ⟨place, item, at', present, same⟩ := get_cases kept below
  · rw [gone, get_eq_none (by omega)]
  · rw [same, get_of_index place (by omega), getElem?_set_ne (by omega), present]

end Recent
