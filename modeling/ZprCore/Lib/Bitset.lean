import Mathlib

/-! Fixed-width bitsets used as sliding windows: bit `i` stands for the item `i`
places behind the newest one. -/

namespace Bitset
open BitVec
variable {w : Nat} (bits : BitVec w)

/-- How many of the highest bits are set without a gap. -/
def leadingOnes : Nat := (~~~bits).clz.toNat

theorem leadingOnes_le : leadingOnes bits ≤ w := by
  have bound := le_def.mp (clz_le (x := ~~~bits))
  simpa [leadingOnes, Nat.mod_eq_of_lt Nat.lt_two_pow_self] using bound

theorem leading_set {i} (inside : i < leadingOnes bits) : bits.getLsbD (w - 1 - i) = true := by
  have width := leadingOnes_le bits
  have small : (~~~bits).toNat < 2 ^ (w - leadingOnes bits) := toNat_lt_two_pow_sub_clz
  have clear : (~~~bits).getLsbD (w - 1 - i) = false := by
    apply Nat.testBit_lt_two_pow
    exact Nat.lt_of_lt_of_le small (Nat.pow_le_pow_right (by omega) (by omega))
  rw [getLsbD_not] at clear
  have inWidth : w - 1 - i < w := by omega
  simpa [inWidth] using clear

theorem leading_clear (partly : leadingOnes bits < w) : bits.getLsbD (w - 1 - leadingOnes bits) = false := by
  have positive : 0 < w := by omega
  have nonzero : ~~~bits ≠ 0#w := by
    intro zero
    have full : (~~~bits).clz = (w : BitVec w) := clz_eq_iff_eq_zero.mpr zero
    simp [leadingOnes, full, Nat.mod_eq_of_lt Nat.lt_two_pow_self] at partly
  have found := getLsbD_true_clz_of_ne_zero positive nonzero
  rw [getLsbD_not] at found
  simp only [Bool.and_eq_true, Bool.not_eq_true'] at found
  exact found.2

/-- Testing one bit the way machine code does. -/
theorem test_zero (positive : 0 < w) (bits : BitVec w) (n : Nat) :
    (bits >>> n) &&& 1#w = 0#w ↔ bits.getLsbD n = false := by
  rw [and_one_eq_setWidth_ofBool_getLsbD]
  simp only [getLsbD_ushiftRight, Nat.add_zero]
  cases bits.getLsbD n with
  | false => simp
  | true =>
    simp only [Bool.true_eq_false, iff_false]
    intro zero
    have bit := congrArg (fun word => word.getLsbD 0) zero
    simp [positive] at bit

/-- Sliding the window by `n` and adding the new newest item. -/
theorem getLsbD_slide (n i : Nat) (inside : i < w) :
    (bits <<< n ||| 1#w).getLsbD i = (decide (i = 0) || (!decide (i < n) && bits.getLsbD (i - n))) := by
  simp only [getLsbD_or, getLsbD_shiftLeft, getLsbD_one, inside, decide_true, Bool.true_and]
  cases h : decide (i = 0) <;> simp_all

theorem getLsbD_shift (n i : Nat) (inside : i < w) :
    (bits <<< n).getLsbD i = (!decide (i < n) && bits.getLsbD (i - n)) := by
  simp only [getLsbD_shiftLeft, inside, decide_true, Bool.true_and]

/-- Adding the item `n` places behind the newest one. -/
theorem getLsbD_mark (n i : Nat) (inside : i < w) :
    (bits ||| 1#w <<< n).getLsbD i = (decide (i = n) || bits.getLsbD i) := by
  simp only [getLsbD_or, getLsbD_shiftLeft, getLsbD_one, inside, decide_true, Bool.true_and]
  by_cases same : i = n
  · subst same
    simp; omega
  · simp [same]
    omega

end Bitset
