import ZprCore.Lib.Layout
import ZprCore.Lib.Panic
import ZprCore.Lib.Slices

/-! Packet buffers with their bytes (`packet.rs`). The metadata at the start of a buffer takes up
`minBodyOffset` bytes; of its fields only those that place the body are modelled. -/

namespace ZprCore.Datapath
open Slices

/-- A buffer whose body lies behind the metadata and inside the buffer. -/
structure Buffer (minBodyOffset : Nat) where
  buf : List UInt8
  offset : Nat
  len : Nat
  above : minBodyOffset ≤ offset
  inside : offset + len ≤ buf.length

namespace Buffer
variable {minBodyOffset : Nat} (b : Buffer minBodyOffset)

def body : List UInt8 := slice b.buf b.offset b.len

def headroomAvailable : Nat := b.offset - minBodyOffset

def tailroomAvailable : Nat := b.buf.length - (b.offset + b.len)

/-- The second part of `body_and_tailroom_mut`. -/
def tailroom : List UInt8 := b.buf.drop (b.offset + b.len)

/-- The tailroom after it was written to. -/
def setTailroom (tailroom : List UInt8) (same : tailroom.length = b.tailroom.length) : Buffer minBodyOffset :=
  { b with
    buf := patch b.buf (b.offset + b.len) tailroom
    inside := by
      have room := b.inside
      rw [Buffer.tailroom, List.length_drop] at same
      rw [patch_length (by omega)]
      exact room }

def setBodyExtent (offset len : Nat) : Except Panic (Buffer minBodyOffset) :=
  if above : minBodyOffset ≤ offset then
    if small : len ≤ b.buf.length then
      if inside : offset ≤ b.buf.length - len then .ok { b with offset, len, above, inside := by omega }
      else .error (.assertion "offset <= self.buf.len() - len")
    else .error (.assertion "len <= self.buf.len()")
  else .error (.assertion "offset >= Self::MIN_BODY_OFFSET")

/-- The bytes that are copied may overlap those that are overwritten. -/
def copyWithin (start stop dest : Nat) : Except Panic (Buffer minBodyOffset) :=
  if fits : start ≤ stop ∧ stop ≤ b.buf.length ∧ dest + (stop - start) ≤ b.buf.length then
    .ok { b with
      buf := patch b.buf dest (slice b.buf start (stop - start))
      inside := by
        rw [patch_length (by rw [slice_length (by omega)]; exact fits.2.2)]
        exact b.inside }
  else .error .bounds

/-- Output in the tailroom becomes the body, behind a header that is moved in front of it. -/
def adoptTailroomWithHeader (headerLen written : Nat) : Except Panic (Buffer minBodyOffset) := do
  Panic.check (headerLen ≤ b.len) "header_len <= self.metadata().len"
  Panic.check (written ≤ b.tailroomAvailable) "written <= self.tailroom_available()"
  let oldOffset := b.offset
  let outputOffset := oldOffset + b.len
  let newOffset := outputOffset - headerLen
  let b ← b.copyWithin oldOffset (oldOffset + headerLen) newOffset
  b.setBodyExtent newOffset (headerLen + written)

/-- A header is copied into the headroom and becomes the start of the body. -/
def pushHeader (header : List UInt8) : Except Panic (Buffer minBodyOffset) :=
  if fits : header.length ≤ b.headroomAvailable then
    .ok { b with
      buf := patch b.buf (b.offset - header.length) header
      offset := b.offset - header.length
      len := b.len + header.length
      above := by
        have above := b.above
        rw [headroomAvailable] at fits
        omega
      inside := by
        have room := b.inside
        rw [headroomAvailable] at fits
        rw [patch_length (by omega)]
        omega }
  else .error (.assertion "cnt <= self.headroom_available()")

def allocZeroedHeadroom (cnt : Nat) : Except Panic (Buffer minBodyOffset) := b.pushHeader (List.replicate cnt 0)

def advance (cnt : Nat) : Except Panic (Buffer minBodyOffset) :=
  if fits : cnt ≤ b.len then
    .ok { b with
      offset := b.offset + cnt
      len := b.len - cnt
      above := Nat.le_add_right_of_le b.above
      inside := by
        have room := b.inside
        omega }
  else .error (.assertion "cnt <= self.remaining()")

def shrinkBy (cnt : Nat) : Except Panic (Buffer minBodyOffset) :=
  if cnt ≤ b.len then
    .ok { b with
      len := b.len - cnt
      inside := by
        have room := b.inside
        omega }
  else .error (.assertion "cnt <= md.len")

/-- Bytes are copied into the tailroom and become the end of the body. -/
def put (data : List UInt8) : Except Panic (Buffer minBodyOffset) :=
  if fits : data.length ≤ b.tailroomAvailable then
    .ok { b with
      buf := patch b.buf (b.offset + b.len) data
      len := b.len + data.length
      inside := by
        have room := b.inside
        rw [tailroomAvailable] at fits
        rw [patch_length (by omega)]
        omega }
  else .error (.assertion "advance out of bounds")

/-- The body is filled from the front of the source. -/
def copyToBody (src : List UInt8) : Except Panic (Buffer minBodyOffset) :=
  if long : b.len ≤ src.length then
    .ok { b with
      buf := patch b.buf b.offset (src.take b.len)
      inside := by
        rw [patch_length (by rw [List.length_take_of_le long]; exact b.inside)]
        exact b.inside }
  else .error .bounds

section
variable (buf : List UInt8)

/-- The body is copied as a whole: slices of different lengths are not copied. -/
def clonePrefixIntoWithHeadroom (headroom len : Nat) : Except Panic (Buffer minBodyOffset) :=
  if len ≤ b.body.length then
    if small : len + minBodyOffset ≤ buf.length then
      if fits : headroom ≤ buf.length - len - minBodyOffset then
        if same : len = b.body.length then
          .ok {
            buf := patch (patch buf 0 (slice b.buf 0 minBodyOffset)) (minBodyOffset + headroom) b.body
            offset := minBodyOffset + headroom
            len
            above := Nat.le_add_right _ _
            inside := by
              have above := b.above
              have room := b.inside
              have size : (slice b.buf 0 minBodyOffset).length = minBodyOffset := slice_length (by omega)
              rw [patch_length (by rw [patch_length (by omega)]; omega), patch_length (by omega)]
              omega }
        else .error .bounds
      else .error (.assertion "headroom <= buf.len() - len - Self::MIN_BODY_OFFSET")
    else .error .overflow
  else .error (.assertion "len <= body.len()")

def cloneInto : Except Panic (Buffer minBodyOffset) :=
  b.clonePrefixIntoWithHeadroom buf b.headroomAvailable b.body.length

def clonePrefixInto (len : Nat) : Except Panic (Buffer minBodyOffset) :=
  b.clonePrefixIntoWithHeadroom buf b.headroomAvailable len

def cloneIntoWithHeadroom (headroom : Nat) : Except Panic (Buffer minBodyOffset) :=
  b.clonePrefixIntoWithHeadroom buf headroom b.body.length

end

inductive DeserializeError where
  | invalidSerialization
  | bufferTooSmall

section
-- The metadata starts with the place of the body, in two machine words; `rest` bytes follow.
variable (extent : Layout (BitVec 64 × BitVec 64)) (rest : Nat)

def serialize (b : Buffer (extent.size + rest)) (remaining : Nat) : Option (List UInt8) :=
  if extent.size + rest + b.len > remaining then none
  else some (extent.encode (.ofNat 64 b.offset, .ofNat 64 b.len) ++ slice b.buf extent.size rest ++ b.body)

def tryNewWithExistingMetadata (buf : List UInt8) : Except Panic (Option (Buffer (extent.size + rest))) :=
  match extent.decode buf with
  | none => .error .bounds
  | some ((offset, len), _) =>
    if valid : extent.size + rest ≤ offset.toNat ∧ len.toNat ≤ buf.length ∧ offset.toNat ≤ buf.length - len.toNat then
      .ok (some ⟨buf, offset.toNat, len.toNat, valid.1, by omega⟩)
    else .ok none

def deserializeInto (src buf : List UInt8) : Except Panic (Except DeserializeError (Buffer (extent.size + rest))) :=
  if src.length < extent.size + rest then .ok (.error .invalidSerialization)
  else if buf.length < extent.size + rest then .ok (.error .bufferTooSmall)
  else do
    match ← tryNewWithExistingMetadata extent rest (patch buf 0 (src.take (extent.size + rest))) with
    | none => return .error .bufferTooSmall
    | some pkt =>
      if (src.drop (extent.size + rest)).length < pkt.len then return .error .invalidSerialization
      else return .ok (← pkt.copyToBody (src.drop (extent.size + rest)))

end

end Buffer
end ZprCore.Datapath
