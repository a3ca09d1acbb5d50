import Mathlib

/-! Parts of a sequence by position: reading a part, overwriting a part. -/

namespace Slices
open List
variable {α : Type}

def slice (items : List α) (start length : Nat) : List α := (items.drop start).take length

/-- The items from a position on are overwritten. -/
def patch (items : List α) (start : Nat) (data : List α) : List α :=
  items.take start ++ data ++ items.drop (start + data.length)

variable {items data : List α} {start length place : Nat}

theorem slice_length (fits : start + length ≤ items.length) : (slice items start length).length = length := by
  rw [slice, length_take, length_drop]
  omega

section
variable (fits : place + data.length ≤ items.length)
include fits

theorem patch_length : (patch items place data).length = items.length := by
  rw [patch, length_append, length_append, length_take, length_drop]
  omega

omit fits in
theorem getElem?_slice (index : Nat) : (slice items start length)[index]? = if index < length then items[start + index]? else none := by
  rw [slice, getElem?_take, getElem?_drop]

theorem getElem?_patch (index : Nat) :
    (patch items place data)[index]? =
      if place ≤ index ∧ index < place + data.length then data[index - place]? else items[index]? := by
  have front : (items.take place).length = place := by
    rw [length_take]
    omega
  rw [patch, append_assoc]
  by_cases before : index < place
  · rw [getElem?_append_left (by omega), getElem?_take, if_pos before, if_neg (by omega)]
  rw [getElem?_append_right (by omega), front]
  by_cases inside : index < place + data.length
  · rw [getElem?_append_left (by omega), if_pos (by omega)]
  rw [getElem?_append_right (by omega), getElem?_drop, if_neg (by omega)]
  congr 1
  omega

/-- What was written is read back. -/
theorem slice_patch_self : slice (patch items place data) place data.length = data := by
  refine ext_getElem? fun index => ?_
  rw [getElem?_slice, getElem?_patch fits]
  split
  · rw [if_pos (by omega), Nat.add_sub_cancel_left]
  · exact (getElem?_eq_none (by omega)).symm

/-- Parts that are not overwritten stay. -/
theorem slice_patch_apart (apart : start + length ≤ place ∨ place + data.length ≤ start) :
    slice (patch items place data) start length = slice items start length := by
  refine ext_getElem? fun index => ?_
  rw [getElem?_slice, getElem?_slice, getElem?_patch fits]
  split
  · rw [if_neg (by omega)]
  · rfl

end

theorem slice_add (items : List α) (start first second : Nat) :
    slice items start (first + second) = slice items start first ++ slice items (start + first) second := by
  rw [slice, slice, slice, take_add, drop_drop]

theorem take_slice (less : place ≤ length) : (slice items start length).take place = slice items start place := by
  rw [slice, slice, take_take, Nat.min_eq_left less]

end Slices
