import Mathlib

/-! Packed binary layouts. A layout reads a value from the front of a byte string
and writes it back; reading succeeds exactly on the strings that start with a
written value. Multi-byte integers are big-endian. -/

structure Layout (α : Type) where
  size : Nat
  encode : α → List UInt8
  decode : List UInt8 → Option (α × List UInt8)
  encode_length : ∀ value, (encode value).length = size
  decode_some : ∀ {bytes value rest}, decode bytes = some (value, rest) ↔ bytes = encode value ++ rest
  decode_long : ∀ {bytes}, size ≤ bytes.length → ∃ value rest, bytes = encode value ++ rest

namespace Layout
variable {α β : Type}

def be16 (high low : UInt8) : UInt16 := UInt16.ofNat (high.toNat * 256 + low.toNat)

def bytes16 (value : UInt16) : List UInt8 := [UInt8.ofNat (value.toNat / 256), UInt8.ofNat (value.toNat % 256)]

theorem be16_toNat (high low : UInt8) : (be16 high low).toNat = high.toNat * 256 + low.toNat := by
  have := high.toNat_lt
  have := low.toNat_lt
  rw [be16, UInt16.toNat_ofNat_of_lt' (by simp only [UInt16.size]; omega)]

theorem bytes16_be16 (high low : UInt8) : bytes16 (be16 high low) = [high, low] := by
  have := high.toNat_lt
  have := low.toNat_lt
  simp only [bytes16, be16_toNat, List.cons.injEq, and_true]
  constructor
  · rw [show (high.toNat * 256 + low.toNat) / 256 = high.toNat by omega, UInt8.ofNat_toNat]
  · rw [show (high.toNat * 256 + low.toNat) % 256 = low.toNat by omega, UInt8.ofNat_toNat]

theorem be16_bytes16 (value : UInt16) :
    be16 (UInt8.ofNat (value.toNat / 256)) (UInt8.ofNat (value.toNat % 256)) = value := by
  have := value.toNat_lt
  apply UInt16.toNat_inj.mp
  rw [be16_toNat, UInt8.toNat_ofNat_of_lt' (by simp only [UInt8.size]; omega),
    UInt8.toNat_ofNat_of_lt' (by simp only [UInt8.size]; omega)]
  omega

def u8 : Layout UInt8 where
  size := 1
  encode value := [value]
  decode
    | value :: rest => some (value, rest)
    | [] => none
  encode_length _ := rfl
  decode_some := by
    intro bytes value rest
    cases bytes with
    | nil => simp
    | cons head tail => simp
  decode_long := by
    intro bytes long
    cases bytes with
    | nil => simp at long
    | cons head tail => exact ⟨head, tail, rfl⟩

def u16 : Layout UInt16 where
  size := 2
  encode := bytes16
  decode
    | high :: low :: rest => some (be16 high low, rest)
    | _ => none
  encode_length _ := rfl
  decode_some := by
    intro bytes value rest
    match bytes with
    | [] | [_] => simp [bytes16]
    | high :: low :: tail =>
      simp only [Option.some.injEq, Prod.mk.injEq]
      constructor
      · rintro ⟨rfl, rfl⟩
        rw [bytes16_be16]
        rfl
      intro same
      obtain ⟨rfl, rfl, rfl⟩ : high = _ ∧ low = _ ∧ tail = rest := by simpa [bytes16] using same
      exact ⟨be16_bytes16 value, rfl⟩
  decode_long := by
    intro bytes long
    match bytes with
    | [] | [_] => simp at long
    | high :: low :: tail => exact ⟨be16 high low, tail, by rw [bytes16_be16]; rfl⟩

def vector (n : Nat) : Layout (Vector UInt8 n) where
  size := n
  encode value := value.toList
  decode bytes :=
    if long : n ≤ bytes.length then some (⟨(bytes.take n).toArray, by simp [long]⟩, bytes.drop n) else none
  encode_length value := value.length_toList
  decode_some := by
    intro bytes value rest
    constructor
    · intro read
      split at read
      · cases read
        simp
      · cases read
    · rintro rfl
      have size := value.length_toList
      rw [dif_pos (by simp)]
      simp only [Option.some.injEq, Prod.mk.injEq]
      exact ⟨by apply Vector.toList_inj.mp; simp, List.drop_left' size⟩
  decode_long := by
    intro bytes long
    exact ⟨⟨(bytes.take n).toArray, by simp [long]⟩, bytes.drop n, by simp⟩

/-- One layout directly after the other. -/
def pair (first : Layout α) (second : Layout β) : Layout (α × β) where
  size := first.size + second.size
  encode value := first.encode value.1 ++ second.encode value.2
  decode bytes :=
    match first.decode bytes with
    | none => none
    | some (a, rest) =>
      match second.decode rest with
      | none => none
      | some (b, rest) => some ((a, b), rest)
  encode_length value := by rw [List.length_append, first.encode_length, second.encode_length]
  decode_some := by
    rintro bytes ⟨a, b⟩ rest
    constructor
    · intro read
      split at read
      · cases read
      rename_i decoded
      split at read
      · cases read
      rename_i decoded'
      cases read
      rw [first.decode_some.mp decoded, second.decode_some.mp decoded', List.append_assoc]
    · rintro rfl
      rw [List.append_assoc, first.decode_some.mpr rfl]
      simp only [second.decode_some.mpr rfl]
  decode_long := by
    intro bytes long
    obtain ⟨a, rest, rfl⟩ := first.decode_long (show first.size ≤ bytes.length by omega)
    rw [List.length_append, first.encode_length] at long
    obtain ⟨b, tail, rfl⟩ := second.decode_long (show second.size ≤ rest.length by omega)
    exact ⟨(a, b), tail, by rw [List.append_assoc]⟩

/-- A structure laid out as the tuple of its fields. -/
def via (fields : Layout α) (view : α ≃ β) : Layout β where
  size := fields.size
  encode value := fields.encode (view.symm value)
  decode bytes := (fields.decode bytes).map fun (a, rest) => (view a, rest)
  encode_length value := fields.encode_length _
  decode_some := by
    intro bytes value rest
    simp only [Option.map_eq_some_iff, Prod.mk.injEq, Prod.exists]
    constructor
    · rintro ⟨a, tail, decoded, rfl, rfl⟩
      rw [fields.decode_some.mp decoded, Equiv.symm_apply_apply]
    · intro same
      exact ⟨view.symm value, rest, fields.decode_some.mpr same, by simp⟩
  decode_long := by
    intro bytes long
    obtain ⟨a, rest, rfl⟩ := fields.decode_long long
    exact ⟨view a, rest, by rw [Equiv.symm_apply_apply]⟩

/-- Nothing at all. -/
def empty : Layout (BitVec 0) where
  size := 0
  encode _ := []
  decode bytes := some (0#0, bytes)
  encode_length _ := rfl
  decode_some := by
    intro bytes value rest
    simp [BitVec.eq_nil value]
  decode_long := by
    intro bytes long
    exact ⟨0#0, bytes, rfl⟩

/-- A byte behind the bits before it. -/
def appendByte (n : Nat) : BitVec n × UInt8 ≃ BitVec (n + 8) where
  toFun := fun (high, low) => high ++ low.toBitVec
  invFun bits := (bits.extractLsb' 8 n, ⟨bits.extractLsb' 0 8⟩)
  left_inv := by
    intro (high, low)
    dsimp only
    rw [BitVec.extractLsb'_append_eq_of_le (by omega), BitVec.extractLsb'_append_eq_of_add_le (by omega)]
    simp
  right_inv := by
    intro bits
    simp

/-- Big-endian unsigned integers of a number of bytes. -/
def uint : (n : Nat) → Layout (BitVec (8 * n))
  | 0 => empty
  | n + 1 => (pair (uint n) u8).via (appendByte (8 * n))

theorem bytes16_exists {bytes} (length : bytes.length = 2) : ∃ value, bytes = bytes16 value := by
  match bytes with
  | [high, low] => exact ⟨be16 high low, (bytes16_be16 high low).symm⟩

section
variable (layout : Layout α)

theorem decode_encode (value : α) (rest : List UInt8) : layout.decode (layout.encode value ++ rest) = some (value, rest) :=
  layout.decode_some.mpr rfl

/-- Bytes are too few, or they start with a value. -/
theorem decode_cases (bytes : List UInt8) : (layout.decode bytes = none ∧ ¬ layout.size ≤ bytes.length) ∨
    ∃ value rest, layout.decode bytes = some (value, rest) ∧ bytes = layout.encode value ++ rest ∧
      layout.size ≤ bytes.length := by
  cases read : layout.decode bytes with
  | none =>
    refine .inl ⟨rfl, fun long => ?_⟩
    obtain ⟨value, rest, whole⟩ := layout.decode_long long
    rw [whole, layout.decode_encode] at read
    cases read
  | some found =>
    have whole := layout.decode_some.mp read
    refine .inr ⟨found.1, found.2, rfl, whole, ?_⟩
    rw [whole, List.length_append, layout.encode_length]
    exact Nat.le_add_right _ _

theorem encode_inj {value other rest tail}
    (same : layout.encode value ++ rest = layout.encode other ++ tail) : value = other ∧ rest = tail := by
  have read := layout.decode_encode value rest
  rw [same, layout.decode_encode other tail] at read
  simp only [Option.some.injEq, Prod.mk.injEq] at read
  exact ⟨read.1.symm, read.2.symm⟩

end
end Layout
