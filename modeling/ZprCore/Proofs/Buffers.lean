import ZprCore.Lib.Runs
import ZprCore.Proofs.LinkCrypto

/-! Packets in their buffers. The operations on a packet stay inside its buffer and away from its
metadata, and a packet that was serialized is restored. -/

namespace ZprCore.Datapath
open Slices Runs List

inductive BufferOp where
  | allocZeroedHeadroom (cnt : Nat)
  | pushHeader (header : List UInt8)
  | put (data : List UInt8)
  | advance (cnt : Nat)
  | shrinkBy (cnt : Nat)
  | setBodyExtent (offset len : Nat)
  | adoptTailroomWithHeader (headerLen written : Nat)

namespace Buffer
variable {minBodyOffset : Nat} {b c : Buffer minBodyOffset}

section
variable (b : Buffer minBodyOffset)

def step : BufferOp → Except Panic (Buffer minBodyOffset)
  | .allocZeroedHeadroom cnt => b.allocZeroedHeadroom cnt
  | .pushHeader header => b.pushHeader header
  | .put data => b.put data
  | .advance cnt => b.advance cnt
  | .shrinkBy cnt => b.shrinkBy cnt
  | .setBodyExtent offset len => b.setBodyExtent offset len
  | .adoptTailroomWithHeader headerLen written => b.adoptTailroomWithHeader headerLen written

/-- What the operations ask for. -/
def Permitted : BufferOp → Prop
  | .allocZeroedHeadroom cnt => cnt ≤ b.headroomAvailable
  | .pushHeader header => header.length ≤ b.headroomAvailable
  | .put data => data.length ≤ b.tailroomAvailable
  | .advance cnt | .shrinkBy cnt => cnt ≤ b.len
  | .setBodyExtent offset len => minBodyOffset ≤ offset ∧ len ≤ b.buf.length ∧ offset ≤ b.buf.length - len
  | .adoptTailroomWithHeader headerLen written => headerLen ≤ b.len ∧ written ≤ b.tailroomAvailable

/-- The metadata without the place of the body. -/
def metadata : List UInt8 := slice b.buf 0 minBodyOffset

/-- An operation returns with the same metadata in a buffer of the same size. -/
def Keeps (result : Except Panic (Buffer minBodyOffset)) : Prop :=
  ∃ c, result = .ok c ∧ c.metadata = b.metadata ∧ c.buf.length = b.buf.length

end

theorem pushHeader_keeps {header} (fits : header.length ≤ b.headroomAvailable) : b.Keeps (b.pushHeader header) := by
  have above := b.above
  have room := b.inside
  rw [pushHeader, dif_pos fits]
  rw [headroomAvailable] at fits
  exact ⟨_, rfl, slice_patch_apart (by omega) (.inl (by omega)), patch_length (by omega)⟩

/-- What is asked for suffices. -/
theorem step_keeps {op} (permitted : b.Permitted op) : b.Keeps (b.step op) := by
  have above := b.above
  have room := b.inside
  cases op with
  | allocZeroedHeadroom cnt => exact pushHeader_keeps (length_replicate.trans_le permitted)
  | pushHeader header => exact pushHeader_keeps permitted
  | put data =>
    have fits : b.offset + b.len + data.length ≤ b.buf.length := Nat.add_le_of_le_sub' room permitted
    rw [step, put, dif_pos (show data.length ≤ b.tailroomAvailable from permitted)]
    exact ⟨_, rfl, slice_patch_apart fits (.inl (by omega)), patch_length fits⟩
  | advance cnt | shrinkBy cnt => exact ⟨_, dif_pos permitted, rfl, rfl⟩
  | setBodyExtent offset len =>
    obtain ⟨first, second, third⟩ := permitted
    rw [step, setBodyExtent, dif_pos first, dif_pos second, dif_pos third]
    exact ⟨_, rfl, rfl, rfl⟩
  | adoptTailroomWithHeader headerLen written =>
    obtain ⟨whole, fits⟩ := permitted
    obtain ⟨c, adopted, buf, _, _⟩ := adoptTailroomWithHeader_ok whole fits
    obtain ⟨moved, inside⟩ := moved_inside whole
    refine ⟨c, adopted, ?_, buf ▸ patch_length inside⟩
    rw [metadata, buf]
    exact slice_patch_apart inside (.inl (by omega))

theorem pushHeader_advance {header} (fits : header.length ≤ b.headroomAvailable) :
    ∃ pushed restored, b.pushHeader header = .ok pushed ∧ pushed.body = header ++ b.body ∧
      pushed.advance header.length = .ok restored ∧ restored.body = b.body := by
  have above := b.above
  have room := b.inside
  have inside : b.offset - header.length + header.length = b.offset := Nat.sub_add_cancel (by rw [headroomAvailable] at fits; omega)
  have apart := @slice_patch_apart _ b.buf header b.offset b.len (b.offset - header.length) (by omega) (.inr (by omega))
  refine ⟨_, _, dif_pos fits, ?_, dif_pos (Nat.le_add_left _ _), ?_⟩
  · simp only [body]
    rw [Nat.add_comm, slice_add, slice_patch_self (by omega), inside, apart]
  · simp only [body]
    rw [inside, Nat.add_sub_cancel, apart]

/-- The extent of a packet is a field of the model; here it is written out. -/
theorem layout_kept {ops} (run : Run step Permitted b ops c) :
    minBodyOffset ≤ c.offset ∧ c.offset + c.len ≤ c.buf.length ∧ c.metadata = b.metadata ∧ c.buf.length = b.buf.length ∧
      (∀ op, c.Permitted op → ∃ d, c.step op = .ok d) ∧
      (∀ header, header.length ≤ c.headroomAvailable → ∃ pushed restored, c.pushHeader header = .ok pushed ∧
        pushed.body = header ++ c.body ∧ pushed.advance header.length = .ok restored ∧ restored.body = c.body) ∧
      ∀ headerLen written, headerLen ≤ c.len → written ≤ c.tailroomAvailable →
        ∃ d, c.adoptTailroomWithHeader headerLen written = .ok d ∧
          d.body = c.body.take headerLen ++ c.tailroom.take written := by
  have kept : c.metadata = b.metadata ∧ c.buf.length = b.buf.length := by
    refine run.invariant (fun c => c.metadata = b.metadata ∧ c.buf.length = b.buf.length) ?_ ⟨rfl, rfl⟩
    intro middle op next permitted ⟨metadata, length⟩ stepped
    obtain ⟨_, returned, same, size⟩ := step_keeps permitted
    cases stepped.symm.trans returned
    exact ⟨same.trans metadata, size.trans length⟩
  refine ⟨c.above, c.inside, kept.1, kept.2, ?_, fun header => pushHeader_advance, ?_⟩
  · intro op permitted
    obtain ⟨d, returned, _⟩ := step_keeps permitted
    exact ⟨d, returned⟩
  intro headerLen written whole fits
  have size : (c.tailroom.take written).length = written := by rw [length_take, tailroom_length, Nat.min_eq_left fits]
  obtain ⟨d, adopted, body⟩ := @adoptTailroomWithHeader_body _ c _ (c.tailroom.take written) whole (by rw [size])
  rw [size] at adopted
  exact ⟨d, adopted, body⟩

/-- One byte, with room for two in front of it and for one behind it. -/
def small : Buffer 1 := ⟨[7, 0, 0, 5, 0], 3, 1, by decide, by decide⟩

theorem layout_kept_small : ∃ c, Run step Permitted small [.pushHeader [9], .put [6], .shrinkBy 1] c ∧
    c.metadata = small.metadata ∧ c.buf.length = 5 :=
  Exists.imp (fun _ run => have ⟨_, _, metadata, length, _⟩ := layout_kept run; ⟨run, metadata, length⟩)
    ⟨_, .cons (show 1 ≤ 2 by decide) rfl (.cons (show 1 ≤ 1 by decide) rfl (.cons (show 1 ≤ 3 by decide) rfl (.nil _)))⟩

/-- A packet with the start of the body is returned. -/
def Clones (b : Buffer minBodyOffset) (headroom len : Nat) (result : Except Panic (Buffer minBodyOffset)) : Prop :=
  ∃ c, result = .ok c ∧ c.body = b.body.take len ∧ c.headroomAvailable = headroom ∧ c.metadata = b.metadata

section
variable {buf : List UInt8} {headroom : Nat}

theorem clones_whole (room : minBodyOffset + headroom + b.len ≤ buf.length) :
    b.Clones headroom b.len (b.cloneIntoWithHeadroom buf headroom) := by
  have above := b.above
  have inside := b.inside
  have size : (slice b.buf 0 minBodyOffset).length = minBodyOffset := slice_length (by omega)
  have stored := slice_patch_self (show 0 + (slice b.buf 0 minBodyOffset).length ≤ buf.length by omega)
  have fits : minBodyOffset + headroom + b.body.length ≤ (patch buf 0 (slice b.buf 0 minBodyOffset)).length := by
    rw [patch_length (by omega), body_length]
    exact room
  have whole : b.body.take b.len = b.body := take_of_length_le (by rw [body_length])
  rw [cloneIntoWithHeadroom, clonePrefixIntoWithHeadroom, if_pos (Nat.le_refl _)]
  simp only [body_length]
  rw [dif_pos (by omega), dif_pos (by omega), dif_pos trivial]
  refine ⟨_, rfl, ?_, Nat.add_sub_cancel_left _ _, ?_⟩
  · have body := slice_patch_self fits
    rw [body_length] at body
    exact body.trans whole.symm
  · rw [size] at stored
    exact (slice_patch_apart fits (.inl (by omega))).trans stored

theorem clonePrefix_stops {len} (less : len < b.len) (room : minBodyOffset + headroom + len ≤ buf.length) :
    b.clonePrefixIntoWithHeadroom buf headroom len = .error .bounds := by
  simp only [clonePrefixIntoWithHeadroom, body_length]
  rw [if_pos less.le, dif_pos (by omega), dif_pos (by omega), dif_neg less.ne]

end

/-- Where the assertions hold, what is cloned is right, but only the whole body can be cloned. -/
theorem clones_iff (b : Buffer minBodyOffset) (buf : List UInt8) :
    (∀ headroom len, len ≤ b.len → minBodyOffset + headroom + len ≤ buf.length →
      (b.Clones headroom len (b.clonePrefixIntoWithHeadroom buf headroom len) ↔ len = b.len)) ∧
    (∀ headroom, minBodyOffset + headroom + b.len ≤ buf.length →
      b.Clones headroom b.len (b.cloneIntoWithHeadroom buf headroom)) ∧
    (b.offset + b.len ≤ buf.length → b.Clones b.headroomAvailable b.len (b.cloneInto buf)) ∧
    ∀ len ≤ b.len, b.offset + len ≤ buf.length →
      (b.Clones b.headroomAvailable len (b.clonePrefixInto buf len) ↔ len = b.len) := by
  have headroom : minBodyOffset + b.headroomAvailable = b.offset := Nat.add_sub_of_le b.above
  have prefixes headroom len (less : len ≤ b.len) (room : minBodyOffset + headroom + len ≤ buf.length) :
      b.Clones headroom len (b.clonePrefixIntoWithHeadroom buf headroom len) ↔ len = b.len := by
    constructor
    · rintro ⟨c, cloned, _⟩
      by_contra different
      cases (clonePrefix_stops (Nat.lt_of_le_of_ne less different) room).symm.trans cloned
    · rintro rfl
      have cloned := clones_whole room
      rwa [cloneIntoWithHeadroom, body_length] at cloned
  refine ⟨prefixes, fun headroom => clones_whole, ?_, ?_⟩
  · intro room
    exact clones_whole (headroom.symm ▸ room)
  · intro len less room
    exact prefixes _ len less (headroom.symm ▸ room)

theorem clones_small : small.Clones 1 1 (small.cloneIntoWithHeadroom [1, 2, 3] 1) :=
  (clones_iff small [1, 2, 3]).2.1 1 (by decide)

/-- The empty prefix of a packet. -/
theorem clone_prefix_stops : 0 ≤ small.body.length ∧ 1 + 0 + 0 ≤ [1, 2, 3].length ∧
    small.clonePrefixIntoWithHeadroom [1, 2, 3] 0 0 = .error .bounds ∧ small.clonePrefixInto [1, 2, 3] 0 = .error .bounds :=
  ⟨by decide, by decide, rfl, rfl⟩

section
variable {extent} {rest : Nat}

theorem deserializeInto_returns (src buf : List UInt8) : Panic.Returns (deserializeInto extent rest src buf) := by
  unfold deserializeInto
  split
  · exact ⟨_, rfl⟩
  split
  · exact ⟨_, rfl⟩
  obtain ⟨⟨offset, len⟩, tail, whole⟩ := @extent.decode_long (patch buf 0 (src.take (extent.size + rest))) (by
    rw [patch_length (by rw [length_take]; omega)]
    omega)
  rw [tryNewWithExistingMetadata, extent.decode_some.mpr whole]
  dsimp only
  split
  · rw [Panic.ok_bind]
    dsimp only
    split
    · exact ⟨_, rfl⟩
    rename_i short
    rw [copyToBody, dif_pos (Nat.le_of_not_lt short)]
    exact ⟨_, rfl⟩
  · exact ⟨_, rfl⟩

end

end Buffer
end ZprCore.Datapath
