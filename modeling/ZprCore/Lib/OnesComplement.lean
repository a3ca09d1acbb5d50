import ZprCore.Lib.Layout

/-! The Internet checksum: the complement of the one's complement sum of the 16-bit
big-endian words of a byte string, an odd last byte being padded with zero. -/

namespace OnesComplement
open Layout List

/-- One's complement addition: a carry out of the top comes back in at the bottom. -/
def add (a b : Nat) : Nat := if a + b < 65536 then a + b else a + b - 65535

def words : List UInt8 → List Nat
  | high :: low :: rest => (high.toNat * 256 + low.toNat) :: words rest
  | [high] => [high.toNat * 256]
  | [] => []

variable (bytes : List UInt8)

def sum : Nat := (words bytes).foldl add 0

def checksum : UInt16 := UInt16.ofNat (65535 - sum bytes)

/-- The plain integer sum of the words. -/
def total : Nat := (words bytes).sum

/-- Reduction modulo 65535 that keeps zero apart from its multiples. -/
def reduce (n : Nat) : Nat := if n = 0 then 0 else (n - 1) % 65535 + 1

theorem words_lt : ∀ word ∈ words bytes, word < 65536 := by
  fun_induction words bytes with
  | case1 high low rest ih =>
    have := high.toNat_lt
    have := low.toNat_lt
    simp only [mem_cons, forall_eq_or_imp]
    exact ⟨by omega, ih⟩
  | case2 high =>
    have := high.toNat_lt
    simp only [mem_singleton, forall_eq]
    omega
  | case3 => simp

theorem reduce_le (n : Nat) : reduce n ≤ 65535 := by
  unfold reduce
  split <;> omega

theorem add_reduce (n : Nat) {word} (small : word < 65536) : add (reduce n) word = reduce (n + word) := by
  unfold add reduce
  split <;> split <;> split <;> omega

theorem sum_eq : sum bytes = reduce (total bytes) := by
  have gather (list : List Nat) (small : ∀ word ∈ list, word < 65536) n :
      list.foldl add (reduce n) = reduce (n + list.sum) := by
    induction list generalizing n with
    | nil => simp
    | cons word rest ih =>
      simp only [mem_cons, forall_eq_or_imp] at small
      rw [foldl_cons, add_reduce n small.1, ih small.2, sum_cons, Nat.add_assoc]
  have folded := gather (words bytes) (words_lt bytes) 0
  rwa [Nat.zero_add] at folded

theorem checksum_toNat : (checksum bytes).toNat = 65535 - reduce (total bytes) := by
  rw [checksum, sum_eq, UInt16.toNat_ofNat_of_lt' (by simp only [UInt16.size]; omega)]

/-- A string that includes its own checksum sums to zero. -/
theorem checksum_zero : checksum bytes = 0 ↔ reduce (total bytes) = 65535 := by
  have bound := reduce_le (total bytes)
  rw [← UInt16.toNat_inj, checksum_toNat]
  simp only [UInt16.toNat_zero]
  omega

@[simp]
theorem total_nil : total [] = 0 := rfl

@[simp]
theorem total_cons₂ (high low : UInt8) (rest : List UInt8) :
    total (high :: low :: rest) = high.toNat * 256 + low.toNat + total rest := by
  simp [total, words]

theorem total_append {front} (even : front.length % 2 = 0) (back : List UInt8) :
    total (front ++ back) = total front + total back := by
  fun_induction words front with
  | case1 high low rest ih =>
    simp only [length_cons] at even
    simp only [cons_append, total_cons₂, ih (by omega)]
    omega
  | case2 high => simp at even
  | case3 => simp

theorem total_bytes16 (value : UInt16) (rest : List UInt8) :
    total (bytes16 value ++ rest) = value.toNat + total rest := by
  have := value.toNat_lt
  simp only [bytes16, cons_append, nil_append, total_cons₂]
  rw [UInt8.toNat_ofNat_of_lt' (by simp only [UInt8.size]; omega),
    UInt8.toNat_ofNat_of_lt' (by simp only [UInt8.size]; omega)]
  omega

/-- A freshly computed checksum is accepted. -/
theorem fresh_valid {n} (nonzero : n ≠ 0) : reduce (n + (65535 - reduce n)) = 65535 := by
  unfold reduce
  rw [if_neg nonzero, if_neg (by omega)]
  omega

/-- An accepted checksum is the one that would be computed, unless it is the other
representation of zero. -/
theorem recompute {n field} (nonzero : n ≠ 0) (small : field < 65536) (valid : reduce (n + field) = 65535) :
    65535 - reduce n = field ↔ field ≠ 65535 := by
  unfold reduce at valid ⊢
  rw [if_neg nonzero]
  rw [if_neg (by omega)] at valid
  omega

/-- Filling in the checksum of a string that has room for it gives back a checksum
that was there before exactly when that one was accepted and not written as `0xFFFF`. -/
theorem checksum_restored {front back} (even : front.length % 2 = 0) {field}
    (nonzero : total (front ++ (bytes16 0 ++ back)) ≠ 0) :
    checksum (front ++ (bytes16 0 ++ back)) = field ↔
      checksum (front ++ (bytes16 field ++ back)) = 0 ∧ field ≠ 0xFFFF := by
  have small := field.toNat_lt
  rw [checksum_zero, ← UInt16.toNat_inj, checksum_toNat, ne_eq, ← UInt16.toNat_inj]
  simp only [total_append even, total_bytes16, UInt16.toNat_zero, UInt16.reduceToNat, Nat.zero_add] at nonzero ⊢
  rw [show total front + (field.toNat + total back) = total front + total back + field.toNat by omega]
  generalize total front + total back = n at nonzero ⊢
  constructor
  · intro fresh
    rw [← fresh]
    refine ⟨fresh_valid nonzero, ?_⟩
    rw [reduce, if_neg nonzero]
    omega
  · rintro ⟨valid, proper⟩
    exact (recompute nonzero small valid).mpr proper

/-- The checksum as it is put behind a string: with its bytes swapped where they are out of line
with the words. -/
def tag (bytes : List UInt8) : List UInt8 :=
  if bytes.length % 2 ≠ 0 then (bytes16 (checksum bytes)).reverse else bytes16 (checksum bytes)

theorem tag_length (bytes : List UInt8) : (tag bytes).length = 2 := by
  unfold tag
  split <;> rfl

theorem total_append_odd {front} (odd : front.length % 2 ≠ 0) (low high : UInt8) :
    total (front ++ [low, high]) = total front + (high.toNat * 256 + low.toNat) := by
  fun_induction words front with
  | case1 first second rest ih =>
    simp only [length_cons] at odd
    simp only [cons_append, total_cons₂, ih (by omega)]
    omega
  | case2 first =>
    simp only [total, words, cons_append, nil_append, sum_cons, sum_nil]
    omega
  | case3 => simp at odd

theorem checksum_tagged (bytes : List UInt8) : checksum (bytes ++ tag bytes) = 0 := by
  have tagged : total (bytes ++ tag bytes) = total bytes + (checksum bytes).toNat := by
    have word := total_bytes16 (checksum bytes) []
    unfold tag
    split
    · next odd =>
      simp only [bytes16, cons_append, nil_append, total_cons₂, total_nil, Nat.add_zero] at word
      simp only [bytes16, reverse_cons, reverse_nil, nil_append, cons_append, total_append_odd odd, word]
    next even =>
    rw [append_nil, total_nil] at word
    rw [total_append (not_not.mp even), word, Nat.add_zero]
  rw [checksum_zero, tagged, checksum_toNat]
  by_cases zero : total bytes = 0
  · rw [zero]
    rfl
  · exact fresh_valid zero

end OnesComplement
