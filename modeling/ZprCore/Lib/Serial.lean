import Mathlib

/-! Serial numbers: integers kept modulo a power of two and compared by the
signed value of their difference. As long as two integers are less than half the
modulus apart, the difference of their serial numbers is their difference. -/

namespace Serial

/-- The signed distance from one serial number to another. -/
def distance {w : Nat} (first second : BitVec w) : Int := (first - second).toInt

theorem ofInt_sub (w : Nat) (a b : Int) : BitVec.ofInt w a - BitVec.ofInt w b = BitVec.ofInt w (a - b) := by
  apply BitVec.eq_of_toInt_eq
  simp only [BitVec.toInt_sub, BitVec.toInt_ofInt, Int.bmod_sub_bmod, Int.sub_bmod_bmod]

theorem distance_bmod {w} (a b : Int) : distance (BitVec.ofInt w a) (BitVec.ofInt w b) = (a - b).bmod (2 ^ w) := by
  rw [distance, ofInt_sub, BitVec.toInt_ofInt]

/-- Nearby integers are never aliased. -/
theorem distance_ofInt {w} (positive : 0 < w) {a b}
    (lower : -2 ^ (w - 1) ≤ a - b) (upper : a - b < 2 ^ (w - 1)) :
    distance (BitVec.ofInt w a) (BitVec.ofInt w b) = a - b := by
  rw [distance, ofInt_sub, BitVec.toInt_ofInt_eq_self positive lower upper]

/-- Every serial number is reached from any other one by its distance. -/
theorem ofInt_add_distance {w} (first : BitVec w) (b : Int) :
    BitVec.ofInt w (b + distance first (BitVec.ofInt w b)) = first := by
  rw [distance, BitVec.ofInt_add, BitVec.ofInt_toInt, BitVec.add_comm, BitVec.sub_add_cancel]

theorem ofInt_inj {w} (positive : 0 < w) {a b}
    (lower : -2 ^ (w - 1) ≤ a - b) (upper : a - b < 2 ^ (w - 1))
    (same : BitVec.ofInt w a = BitVec.ofInt w b) : a = b := by
  have none : distance (BitVec.ofInt w a) (BitVec.ofInt w b) = 0 := by simp [distance, same]
  rw [distance_ofInt positive lower upper] at none
  omega

end Serial
