import ZprCore.Mgmt.Messages

/-! A message reaches the handler of its type with the body it was built from. -/

open Panic

namespace ZprCore.Datapath.Packet
open Layout
variable {pkt : Packet} {α : Type} {streamId} {packetType : ZdpPacketType}

theorem put_fits {data} (room : data.length ≤ pkt.tailroom) : ∃ next, pkt.put data = .ok next ∧
    next.headroom = pkt.headroom ∧ next.body = pkt.body ++ data ∧ next.tailroom = pkt.tailroom - data.length := by
  simp only [put, check, room, decide_true, if_true]
  exact ⟨_, rfl, rfl, rfl, rfl⟩

theorem readFromBuf_encode {layout} {value : α} {rest} (starts : pkt.body = layout.encode value ++ rest) :
    ∃ next, pkt.readFromBuf layout = some (value, next) ∧
      next.body = rest ∧ next.ingressLinkId = pkt.ingressLinkId := by
  rw [readFromBuf, starts, layout.decode_encode]
  exact ⟨_, rfl, rfl, rfl⟩

theorem newHeapPacket_fits {minBodyOffset} (small : minBodyOffset + defaultMessageHeadroom ≤ smallPacketBufferSize) :
    ∃ pkt, newHeapPacket minBodyOffset = .ok pkt ∧ pkt.headroom = defaultMessageHeadroom ∧ pkt.body = [] ∧
      pkt.tailroom = smallPacketBufferSize - (minBodyOffset + defaultMessageHeadroom) := by
  have whole : minBodyOffset ≤ smallPacketBufferSize := Nat.le_of_add_right_le small
  simp only [newHeapPacket, new, check, small, whole, decide_true, if_true]
  exact ⟨_, rfl, rfl, rfl, rfl⟩

theorem allocHeader_fits {layout} (header : α) (room : layout.size ≤ pkt.headroom) :
    ∃ next, pkt.allocHeader layout header = .ok next ∧ next.headroom = pkt.headroom - layout.size ∧
      next.body = layout.encode header ++ pkt.body ∧ next.tailroom = pkt.tailroom := by
  simp only [allocHeader, pushHeader, check, layout.encode_length, room, decide_true, if_true]
  exact ⟨_, rfl, rfl, rfl, rfl⟩

theorem allocSome_fits (layout : Layout α) (header : Option α) (left : Nat) (room : layout.size + left ≤ pkt.headroom) :
    ∃ next, pkt.allocSome layout header = .ok next ∧ left ≤ next.headroom ∧
      next.body = header.elim [] layout.encode ++ pkt.body := by
  cases header with
  | none => exact ⟨pkt, rfl, Nat.le_of_add_left_le room, rfl⟩
  | some header =>
    obtain ⟨next, pushed, headroom, body, _⟩ := allocHeader_fits header (Nat.le_of_add_right_le room)
    exact ⟨next, pushed, headroom ▸ Nat.le_sub_of_add_le' room, body⟩

/-- The headers of a message in front of its body. -/
def framed (packetType : ZdpPacketType) (seqNum : BitVec 64) (streamId : Option (BitVec 32)) (txnId : Option UInt16)
    (body : List UInt8) : List UInt8 :=
  ZdpBaseHeader.layout.encode ⟨packetType, 0⟩ ++ (ZdpMgmtHeader.layout.encode ⟨seqNum⟩ ++
    ((streamId.map ZdpPerFlowHeader.mk).elim [] ZdpPerFlowHeader.layout.encode ++
      ((txnId.map ZdpTransactionHeader.mk).elim [] ZdpTransactionHeader.layout.encode ++ body)))

theorem sendMgmtHelper_fits (txnId : Option UInt16) (notKeys : packetType ≠ .keyManagement)
    (flows : streamId.isSome = packetType.isPerFlow) (room : 16 ≤ pkt.headroom) :
    ∃ message, pkt.sendMgmtHelper packetType streamId txnId = .ok message ∧
      message.body = framed packetType 0 streamId txnId pkt.body := by
  obtain ⟨inner, opened, room, opening⟩ :=
    allocSome_fits ZdpTransactionHeader.layout (txnId.map ZdpTransactionHeader.mk) 14 room
  obtain ⟨outer, streamed, room, streaming⟩ :=
    allocSome_fits ZdpPerFlowHeader.layout (streamId.map ZdpPerFlowHeader.mk) 10 room
  obtain ⟨numbered, numbering, room, number⟩ := allocSome_fits ZdpMgmtHeader.layout (some ⟨0⟩) 2 room
  obtain ⟨message, basing, _, base⟩ := allocSome_fits ZdpBaseHeader.layout (some ⟨packetType, 0⟩) 0 room
  refine ⟨message, ?_, ?_⟩
  · simp only [sendMgmtHelper, check, notKeys, flows, ne_eq, not_false_eq_true, decide_true, if_true]
    simp only [allocSome] at numbering basing
    simp only [ok_bind, opened, streamed, numbering, basing]
  · rw [base, number, streaming, opening]
    rfl

theorem buildAndEgress_framed {txnId body} (frame : pkt.body = framed packetType 0 streamId txnId body) (seqNum : BitVec 64) :
    pkt.buildAndEgress seqNum = .ok { pkt with body := framed packetType seqNum streamId txnId body } := by
  have base : slicePrefix pkt.body ZdpBaseHeader.layout.size = .ok (ZdpBaseHeader.layout.encode ⟨packetType, 0⟩) := by
    rw [frame, framed, slicePrefix, if_pos (by simp [encode_length])]
    exact congrArg Except.ok (List.take_left' (encode_length _ _))
  rw [buildAndEgress, base, frame, framed, List.drop_left' (encode_length _ _), mutFromPrefix,
    decode_encode]
  rfl

end ZprCore.Datapath.Packet

namespace ZprCore.Mgmt
open Datapath

theorem handlePacket_framed {arrived packetType seqNum streamId} {txnId} {body}
    (frame : arrived.body = Packet.framed packetType seqNum streamId txnId body) :
    ∃ pkt, pkt.body = (streamId.map ZdpPerFlowHeader.mk).elim [] ZdpPerFlowHeader.layout.encode ++
        ((txnId.map ZdpTransactionHeader.mk).elim [] ZdpTransactionHeader.layout.encode ++ body) ∧
      pkt.ingressLinkId = arrived.ingressLinkId ∧ handlePacket arrived =
        if packetType.isPerFlow then handlePerFlow packetType pkt else handleNonFlow packetType pkt := by
  obtain ⟨middle, base, body, link⟩ := Packet.readFromBuf_encode frame
  obtain ⟨pkt, mgmt, rest, same⟩ := Packet.readFromBuf_encode body
  refine ⟨pkt, rest, same.trans link, ?_⟩
  simp only [handlePacket, base, mgmt]

theorem handlePacket_arrives {packet message arrived : Packet} {packetType txnId} (notKeys : packetType ≠ .keyManagement)
    (noFlow : packetType.isPerFlow = false) (room : 16 ≤ packet.headroom)
    (built : packet.sendMgmtHelper packetType none txnId = .ok message) (arrives : message.Arrives arrived) :
    ∃ pkt, pkt.body = (txnId.map ZdpTransactionHeader.mk).elim [] ZdpTransactionHeader.layout.encode ++ packet.body ∧
      pkt.ingressLinkId = arrived.ingressLinkId ∧ handlePacket arrived = handleNonFlow packetType pkt := by
  have flows : (none : Option (BitVec 32)).isSome = packetType.isPerFlow := noFlow.symm
  obtain ⟨framed, sent, frame⟩ := Packet.sendMgmtHelper_fits txnId notKeys flows room
  cases built.symm.trans sent
  obtain ⟨seqNum, egressed, filled, same⟩ := arrives
  cases filled.symm.trans (Packet.buildAndEgress_framed frame seqNum)
  obtain ⟨pkt, body, link, handled⟩ := handlePacket_framed same
  rw [noFlow] at handled
  exact ⟨pkt, body, link, handled⟩

end ZprCore.Mgmt
