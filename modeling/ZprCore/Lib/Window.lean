import ZprCore.Lib.Bitset

/-! Sliding-window acceptance of numbered items. The abstract log remembers what
was decided about every item; a bitset that tracks its newest part is enough to
find the oldest undecided item. -/

namespace Window
open Bitset
variable {ν : Type} {w : Nat}

structure Log (ν : Type) where
  highest : Int
  verdict : Int → Option ν

namespace Log
variable (log : Log ν)

def decided (item : Int) : Bool := (log.verdict item).isSome

def TooOld (size : Nat) (log : Log ν) (item : Int) : Prop := item ≤ log.highest - size

/-- An item is too new when the window, ending at the item, would leave an
undecided item behind. -/
def TooNew (size : Nat) (log : Log ν) (item : Int) : Prop := ∃ older ≤ item - size, log.verdict older = none

def record (item : Int) (value : ν) : Log ν where
  highest := max log.highest item
  verdict := Function.update log.verdict item (some value)

structure Valid (size : Nat) (log : Log ν) : Prop where
  above : ∀ item, log.highest < item → log.verdict item = none
  below : ∀ item, item ≤ log.highest - size → log.decided item

theorem record_same (item : Int) (value : ν) : (log.record item value).verdict item = some value := by
  simp [record]

theorem record_other {item other} (value : ν) (different : other ≠ item) :
    (log.record item value).verdict other = log.verdict other := by
  simp [record, different]

/-- Recording an undecided item never changes an earlier verdict. -/
theorem record_keeps {log : Log ν} {item other : Int} {value verdict : ν} (fresh : log.verdict item = none)
    (known : log.verdict other = some verdict) : (log.record item value).verdict other = some verdict := by
  rw [record_other]
  · exact known
  · rintro rfl
    simp [fresh] at known

theorem record_decided (item other : Int) (value : ν) :
    (log.record item value).decided other = (decide (other = item) || log.decided other) := by
  by_cases same : other = item
  · subst same
    simp [decided, record_same]
  · simp [decided, record_other _ _ same, same]

theorem Valid.record {size : Nat} {log : Log ν} (valid : log.Valid size) {item : Int} (value : ν)
    (inside : ¬ log.TooNew size item) : (log.record item value).Valid size where
  above other larger := by
    simp only [Log.record] at larger
    rw [record_other _ _ (by omega)]
    exact valid.above other (by omega)
  below other smaller := by
    rw [record_decided]
    simp only [Log.record] at smaller
    by_cases known : log.decided other
    · simp [known]
    have missing : log.verdict other = none := by simpa [decided] using known
    have recent : ¬ other ≤ log.highest - size := fun old => known (valid.below other old)
    exact absurd ⟨other, by omega, missing⟩ inside

end Log

/-- Bit `i` tells whether the property holds `i` places below `top`. -/
def Tracks (bits : BitVec w) (top : Int) (holds : Int → Bool) : Prop :=
  ∀ i, i < w → bits.getLsbD i = holds (top - i)

namespace Tracks
variable {bits : BitVec w} {top : Int} {holds later : Int → Bool}

section
variable (tracks : Tracks bits top holds)
include tracks

/-- The gap below the leading ones is the least item without the property. -/
theorem gap (below : ∀ item, item ≤ top - w → holds item) (above : holds (top + 1) = false) :
    (∀ item, item < top - w + leadingOnes bits + 1 → holds item) ∧
      holds (top - w + leadingOnes bits + 1) = false := by
  have width := leadingOnes_le bits
  refine ⟨fun item smaller => ?_, ?_⟩
  · by_cases old : item ≤ top - w
    · exact below item old
    have inside : (item - (top - w) - 1).toNat < leadingOnes bits := by omega
    have set := leading_set bits inside
    rw [tracks _ (by omega)] at set
    rwa [show top - ((w - 1 - (item - (top - w) - 1).toNat : Nat) : Int) = item by omega] at set
  · by_cases full : leadingOnes bits = w
    · rwa [full, show top - w + w + 1 = top + 1 by omega]
    have clear := leading_clear bits (by omega)
    rw [tracks _ (by omega)] at clear
    rwa [show top - ((w - 1 - leadingOnes bits : Nat) : Int) = top - w + leadingOnes bits + 1 by
      omega] at clear

/-- Items skipped by a slide must lack the property; the new top has it. -/
theorem slide {n : Nat} (forward : 0 < n) (newest : later (top + n))
    (skipped : ∀ item, top < item → item < top + n → later item = false) (older : ∀ item, item ≤ top → later item = holds item) :
    Tracks (bits <<< n ||| 1#w) (top + n) later := by
  intro i inside
  rw [getLsbD_slide _ _ _ inside]
  by_cases first : i = 0
  · subst first
    simp [newest]
  by_cases gap : i < n
  · simp only [first, gap, decide_false, decide_true, Bool.not_true, Bool.false_and, Bool.or_self]
    exact (skipped _ (by omega) (by omega)).symm
  rw [older _ (by omega), tracks _ (by omega)]
  simp only [first, gap, decide_false, Bool.not_false, Bool.true_and, Bool.false_or]
  congr 1
  omega

theorem shift {n : Nat} (skipped : ∀ item, top < item → item ≤ top + n → later item = false)
    (older : ∀ item, item ≤ top → later item = holds item) : Tracks (bits <<< n) (top + n) later := by
  intro i inside
  rw [getLsbD_shift _ _ _ inside]
  by_cases gap : i < n
  · simp only [gap, decide_true, Bool.not_true, Bool.false_and]
    exact (skipped _ (by omega) (by omega)).symm
  rw [older _ (by omega), tracks _ (by omega)]
  simp only [gap, decide_false, Bool.not_false, Bool.true_and]
  congr 1
  omega

theorem mark {n : Nat} (marked : later (top - n)) (same : ∀ item, item ≠ top - n → later item = holds item) :
    Tracks (bits ||| 1#w <<< n) top later := by
  intro i inside
  rw [getLsbD_mark _ _ _ inside]
  by_cases here : i = n
  · subst here
    simp [marked]
  · rw [tracks _ inside, same _ (by omega)]
    simp [here]

theorem congr (same : ∀ item, later item = holds item) : Tracks bits top later := by
  intro i inside
  rw [same, tracks i inside]

end

end Tracks
end Window
