import ZprCore.Proofs.Compress

/-! Expansion only returns on bytes that a compressed packet can consist of: everything
else runs out of bytes or of room and panics. -/

namespace ZprCore.Datapath
open Panic Layout List Segment

namespace Packet
variable {pkt out : Packet} {α : Type}

theorem get_ok {layout} {value : α} (read : pkt.get layout = .ok (value, out)) :
    ∃ rest, pkt.body = layout.encode value ++ rest ∧ out = pkt.holding (pkt.headroom + layout.size) rest := by
  unfold get at read
  split at read
  · rename_i rest decoded
    cases read
    exact ⟨_, layout.decode_some.mp decoded, rfl⟩
  · cases read

/-- What is read is given up as headroom. -/
theorem get_reads {layout} {value : α} (read : pkt.get layout = .ok (value, out)) :
    pkt.body = layout.encode value ++ out.body ∧ out.headroom + out.body.length = pkt.headroom + pkt.body.length := by
  obtain ⟨rest, whole, rfl⟩ := get_ok read
  rw [whole, length_append, layout.encode_length]
  exact ⟨rfl, Nat.add_assoc _ _ _⟩

theorem pushHeader_ok {header} (pushed : pkt.pushHeader header = .ok out) :
    header.length ≤ pkt.headroom ∧ out = pkt.holding (pkt.headroom - header.length) (header ++ pkt.body) := by
  obtain ⟨_, room, pushed⟩ := bind_ok.mp pushed
  cases pushed
  exact ⟨of_decide_eq_true (check_ok.mp room), rfl⟩

theorem pushU16_ok {data} (pushed : pkt.pushU16 data = .ok out) :
    2 ≤ pkt.headroom ∧ out = pkt.holding (pkt.headroom - 2) (bytes16 data ++ pkt.body) := pushHeader_ok pushed

theorem withBody_ok {body} (changed : pkt.withBody body = .ok out) :
    ∃ bytes, body = .ok bytes ∧ out = pkt.holding pkt.headroom bytes := by
  obtain ⟨bytes, same, changed⟩ := bind_ok.mp changed
  cases changed
  exact ⟨bytes, same, rfl⟩

end Packet

theorem copyWithin_ok {bytes moved start stop dest} (done : copyWithin bytes start stop dest = .ok moved) :
    stop ≤ bytes.length ∧ moved.length = bytes.length := by
  unfold copyWithin at done
  split at done
  · rename_i inside
    cases done
    simp only [length_append, length_take, length_drop]
    omega
  · cases done

theorem mutFromPrefix_long {α : Type} {layout} {update : α → α} {bytes changed}
    (done : mutFromPrefix layout update bytes = .ok changed) : layout.size ≤ bytes.length := by
  unfold mutFromPrefix at done
  split at done
  · rename_i value rest decoded
    rw [layout.decode_some.mp decoded, length_append, layout.encode_length]
    omega
  · cases done

namespace Compress
open Packet
variable {pkt out : Packet} {mode : CompressionMode} {ft : FiveTuple}

theorem getPorts_carried {srcPort dstPort : UInt16} (read : getPorts mode ft pkt = .ok (srcPort, dstPort, out)) :
    ∃ src dst rest, pkt.body = portBytes mode src dst ++ rest ∧
      out = pkt.holding (pkt.headroom + (portBytes mode src dst).length) rest := by
  unfold getPorts at read
  unfold portBytes
  cases hasSource : mode.hasSource <;> cases hasDestination : mode.hasDestination <;>
    simp only [hasSource, hasDestination, Bool.false_eq_true, if_false, if_true, pure_bind] at read ⊢
  · obtain ⟨⟨src, first⟩, getSource, read⟩ := bind_ok.mp read
    obtain ⟨⟨dst, second⟩, getDestination, read⟩ := bind_ok.mp read
    cases read
    obtain ⟨rest, whole, rfl⟩ := get_ok getSource
    obtain ⟨tail, whole', rfl⟩ := get_ok getDestination
    rw [holding_body] at whole'
    exact ⟨src, dst, tail, by rw [whole, whole', append_assoc]; rfl, rfl⟩
  · obtain ⟨⟨src, first⟩, getSource, read⟩ := bind_ok.mp read
    cases read
    obtain ⟨rest, whole, rfl⟩ := get_ok getSource
    exact ⟨src, 0, rest, by rw [whole, append_nil]; rfl, rfl⟩
  · obtain ⟨⟨dst, second⟩, getDestination, read⟩ := bind_ok.mp read
    cases read
    obtain ⟨rest, whole, rfl⟩ := get_ok getDestination
    exact ⟨0, dst, rest, whole, rfl⟩
  · cases read
    exact ⟨0, 0, pkt.body, rfl, rfl⟩

private theorem tcp_rest {rest} (long : 14 ≤ rest.length) (srcPort dstPort : UInt16) :
    ∃ header payload, rest = TcpCore.layout.encode (TcpHeader.core header) ++ (bytes16 header.urgentPointer ++ payload) ∧
      header.srcPort = srcPort ∧ header.dstPort = dstPort := by
  obtain ⟨core, tail, rfl⟩ := TcpCore.layout.decode_long (show TcpCore.layout.size ≤ rest.length from by
    have : TcpCore.layout.size = 12 := rfl
    omega)
  rw [length_append, TcpCore.layout.encode_length, show TcpCore.layout.size = 12 from rfl] at long
  obtain ⟨urgentPointer, payload, rfl⟩ := Layout.u16.decode_long (show Layout.u16.size ≤ tail.length from by
    have : Layout.u16.size = 2 := rfl
    omega)
  exact ⟨⟨srcPort, dstPort, core.sequenceNumber, core.acknowledgementNumber, core.dataOffsetAndReserved, core.flags,
    core.windowSize, 0, urgentPointer⟩, payload, rfl, rfl, rfl⟩

/-- Expansion of the transport part needs a compressed segment and room for the rest
of it. -/
theorem expandL4_carried (done : expandL4 mode ft pkt = .ok out) :
    ∃ segment : Segment, pkt.body = segment.compressed mode ∧ segment.Carries ft.l4Protocol ∧
      segment.bytes.length ≤ pkt.headroom + pkt.body.length := by
  unfold expandL4 at done
  split at done
  · rename_i protocol
    obtain ⟨⟨srcPort, dstPort, rest⟩, ports, done⟩ := bind_ok.mp done
    obtain ⟨src, dst, bytes, whole, rfl⟩ := getPorts_carried ports
    obtain ⟨_, alloc, done⟩ := bind_ok.mp done
    obtain ⟨_, rfl⟩ := pushHeader_ok alloc
    obtain ⟨_, copied, done⟩ := bind_ok.mp done
    obtain ⟨moved, copy, rfl⟩ := withBody_ok copied
    obtain ⟨_, length⟩ := copyWithin_ok copy
    obtain ⟨_, pushDst, done⟩ := bind_ok.mp done
    obtain ⟨_, rfl⟩ := pushU16_ok pushDst
    obtain ⟨_, pushSrc, done⟩ := bind_ok.mp done
    obtain ⟨room, rfl⟩ := pushU16_ok pushSrc
    obtain ⟨_, cleared, done⟩ := bind_ok.mp done
    obtain ⟨_, clear, rfl⟩ := withBody_ok cleared
    have long := mutFromPrefix_long clear
    simp only [holding_body, holding_headroom, length_append, length_replicate, bytes16, length_cons,
      length_nil, show TcpHeader.layout.size = 20 from rfl] at length room long
    obtain ⟨header, payload, rfl, rfl, rfl⟩ := tcp_rest (show 14 ≤ bytes.length by omega) src dst
    have body : pkt.body = (tcp header payload).compressed mode := by
      rw [whole, compressed]
      simp only [append_assoc]
    have saved := tcp_length mode payload header
    exact ⟨.tcp header payload, body, protocol, by rw [body]; omega⟩
  split at done
  · rename_i protocol
    obtain ⟨⟨srcPort, dstPort, rest⟩, ports, done⟩ := bind_ok.mp done
    obtain ⟨src, dst, bytes, whole, rfl⟩ := getPorts_carried ports
    simp only at done
    split at done
    · cases done
    rename_i long
    rw [holding_body] at long
    obtain ⟨_, pushLength, done⟩ := bind_ok.mp done
    obtain ⟨_, rfl⟩ := pushU16_ok pushLength
    obtain ⟨_, pushDst, done⟩ := bind_ok.mp done
    obtain ⟨_, rfl⟩ := pushU16_ok pushDst
    obtain ⟨room, rfl⟩ := pushU16_ok done
    simp only [holding_headroom] at room
    obtain ⟨checksum, payload, rfl⟩ := Layout.u16.decode_long (show Layout.u16.size ≤ bytes.length from Nat.not_lt.mp long)
    have body : pkt.body = (udp ⟨src, dst, 0, checksum⟩ payload).compressed mode := by
      rw [whole, compressed, append_assoc]
      rfl
    have saved : _ + (portBytes mode src dst).length = _ := udp_length mode payload ⟨src, dst, 0, checksum⟩
    exact ⟨_, body, protocol, by rw [body]; omega⟩
  · rename_i notTcp notUdp
    exact ⟨.raw pkt.body, rfl, ⟨notTcp, notUdp⟩, Nat.le_add_left _ _⟩

/-- The part of IPv4 expansion after the carried header was read. -/
private theorem finish_carried {carried : CarriedIpv4}
    (header : Packet → List UInt8) (size : ∀ pkt, (header pkt).length = 20)
    (done : (do
      let pkt ← expandL4 mode ft pkt
      let pkt ← pkt.pushHeader (header pkt)
      let csum := OnesComplement.checksum (← slicePrefix pkt.body ((carried.hlZdpflags >>> 4).toNat <<< 2))
      pkt.withBody (mutFromPrefix Ipv4Header.layout (fun header => { header with headerChecksum := csum }) pkt.body)) = .ok out) :
    ∃ segment : Segment, pkt.body = segment.compressed mode ∧ segment.Carries ft.l4Protocol ∧
      carried.headerWords * 4 ≤ 20 + segment.bytes.length ∧ 20 + segment.bytes.length ≤ pkt.headroom + pkt.body.length := by
  obtain ⟨expanded, expandL4, done⟩ := bind_ok.mp done
  obtain ⟨segment, body, carries, room⟩ := expandL4_carried expandL4
  have whole : pkt = pkt.holding pkt.headroom (segment.compressed mode) := by rw [← body, holding_self]
  rw [whole, expandL4_ok carries (by rwa [← body])] at expandL4
  obtain rfl := Except.ok.inj expandL4
  obtain ⟨_, push, done⟩ := bind_ok.mp done
  obtain ⟨more, rfl⟩ := pushHeader_ok push
  obtain ⟨_, sliced, _⟩ := bind_ok.mp done
  have rebuilt := @Segment.rebuild_length mode ft segment
  unfold slicePrefix at sliced
  split at sliced
  · rename_i inside
    rw [Nat.shiftLeft_eq, holding_body, length_append, size, holding_body, rebuilt] at inside
    rw [size, holding_headroom] at more
    rw [body] at room ⊢
    exact ⟨segment, rfl, carries, inside, by omega⟩
  · cases sliced

/-- Expansion of an IPv4 packet needs a compressed header and segment, and a declared
header length within the packet. -/
theorem expandIpv4_carried (done : expandIpv4 mode ft pkt = .ok out) :
    ∃ (carried : CarriedIpv4) (segment : Segment), pkt.body = carried.bytes ++ segment.compressed mode ∧
      segment.Carries ft.l4Protocol ∧ carried.headerWords * 4 ≤ 20 + segment.bytes.length ∧
      20 + segment.bytes.length ≤ pkt.headroom + pkt.body.length := by
  obtain ⟨⟨⟨hlZdpflags, tos⟩, pkt₁⟩, getFlags, done⟩ := bind_ok.mp done
  obtain ⟨whole₁, room₁⟩ := get_reads getFlags
  obtain ⟨⟨fragId, pkt₂⟩, getId, done⟩ := bind_ok.mp done
  obtain ⟨whole₂, room₂⟩ := get_reads getId
  by_cases present : hlZdpflags &&& zdpV4FragInfoPresent ≠ 0
  · simp only [if_pos present] at done
    obtain ⟨⟨fragOffset, pkt₃⟩, getOffset, done⟩ := bind_ok.mp done
    obtain ⟨whole₃, room₃⟩ := get_reads getOffset
    obtain ⟨⟨ttl, pkt₄⟩, getTtl, done⟩ := bind_ok.mp done
    obtain ⟨whole₄, room₄⟩ := @get_reads pkt₃ _ _ _ _ getTtl
    have shown : CarriedIpv4.fragInfoPresent ⟨hlZdpflags, tos, fragId, fragOffset, ttl⟩ := present
    obtain ⟨segment, body, carries, inside, room⟩ := @finish_carried pkt₄ _ mode ft ⟨hlZdpflags, tos, fragId, fragOffset, ttl⟩
      _ (fun _ => Ipv4Header.layout.encode_length _) done
    refine ⟨_, segment, ?_, carries, inside, by omega⟩
    rw [whole₁, whole₂, whole₃, whole₄, body, CarriedIpv4.bytes, if_pos shown]
    rfl
  · simp only [if_neg present, pure_bind] at done
    obtain ⟨⟨ttl, pkt₃⟩, getTtl, done⟩ := bind_ok.mp done
    obtain ⟨whole₃, room₃⟩ := get_reads getTtl
    have hidden : ¬ CarriedIpv4.fragInfoPresent ⟨hlZdpflags, tos, fragId, 0, ttl⟩ := present
    obtain ⟨segment, body, carries, inside, room⟩ := @finish_carried pkt₃ _ mode ft ⟨hlZdpflags, tos, fragId, 0, ttl⟩
      _ (fun _ => Ipv4Header.layout.encode_length _) done
    refine ⟨_, segment, ?_, carries, inside, by omega⟩
    rw [whole₁, whole₂, whole₃, body, CarriedIpv4.bytes, if_neg hidden]
    rfl

theorem expandIpv6_carried (done : expandIpv6 mode ft pkt = .ok out) :
    ∃ (carried : CompressedIpv6Header) (segment : Segment),
      pkt.body = CompressedIpv6Header.layout.encode carried ++ segment.compressed mode ∧
      segment.Carries ft.l4Protocol ∧ 40 + segment.bytes.length ≤ pkt.headroom + pkt.body.length := by
  obtain ⟨carried, read, done⟩ := bind_ok.mp done
  unfold refFromPrefix at read
  split at read
  · rename_i value rest decoded
    cases read
    have whole := CompressedIpv6Header.layout.decode_some.mp decoded
    have size := CompressedIpv6Header.layout.encode_length carried
    have front : pkt = pkt.holding pkt.headroom (CompressedIpv6Header.layout.encode carried ++ rest) := by
      rw [← whole, holding_self]
    rw [front, holding_advance (by rw [length_append, size]; omega), ok_bind, drop_left' size] at done
    obtain ⟨expanded, expandL4, done⟩ := bind_ok.mp done
    obtain ⟨segment, body, carries, room⟩ := expandL4_carried expandL4
    rw [holding_body] at body
    subst body
    rw [holding_body, holding_headroom] at room
    rw [expandL4_ok carries room] at expandL4
    obtain rfl := Except.ok.inj expandL4
    obtain ⟨more, _⟩ := pushHeader_ok done
    rw [encode_length, holding_headroom, show Ipv6Header.layout.size = 40 from rfl,
      show CompressedIpv6Header.layout.size = 5 from rfl] at more
    refine ⟨carried, segment, whole, carries, ?_⟩
    rw [whole, length_append, size, show CompressedIpv6Header.layout.size = 5 from rfl]
    rw [show CompressedIpv6Header.layout.size = 5 from rfl] at room
    omega
  · cases read

end Compress
end ZprCore.Datapath
