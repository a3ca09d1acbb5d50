import ZprCore.Datapath.Segment

/-! The compression code carries out the segment operations, whatever room the
packet buffer has to spare. -/

namespace ZprCore.Datapath
open Bool (false_eq_true)
open Panic Layout List Segment UInt8

namespace Packet
variable {pkt : Packet} {headroom : Nat} {body : List UInt8}

/-- The same buffer with its body elsewhere. -/
def holding (pkt : Packet) (headroom : Nat) (body : List UInt8) : Packet := { pkt with headroom, body }

@[simp]
theorem holding_body : (pkt.holding headroom body).body = body := rfl

@[simp]
theorem holding_headroom : (pkt.holding headroom body).headroom = headroom := rfl

theorem holding_self (pkt : Packet) : pkt.holding pkt.headroom pkt.body = pkt := rfl

theorem holding_withBody (other : List UInt8) :
    (pkt.holding headroom body).withBody (.ok other) = .ok (pkt.holding headroom other) := rfl

theorem holding_advance {cnt} (inside : cnt ≤ body.length) :
    (pkt.holding headroom body).advance cnt = .ok (pkt.holding (headroom + cnt) (body.drop cnt)) := by
  simp [advance, Panic.check, inside, bind, Except.bind, pure, Except.pure, holding]

theorem holding_push (header : List UInt8) (room : header.length ≤ headroom) :
    (pkt.holding headroom body).pushHeader header = .ok (pkt.holding (headroom - header.length) (header ++ body)) := by
  simp [pushHeader, Panic.check, room, bind, Except.bind, pure, Except.pure, holding]

theorem holding_pushU16 (data : UInt16) (room : 2 ≤ headroom) :
    (pkt.holding headroom body).pushU16 data = .ok (pkt.holding (headroom - 2) (bytes16 data ++ body)) :=
  holding_push (bytes16 data) room

variable (rest : List UInt8)

theorem holding_get {α} (layout : Layout α) (value : α) :
    (pkt.holding headroom (layout.encode value ++ rest)).get layout =
      .ok (value, pkt.holding (headroom + layout.size) rest) := by
  simp only [get, holding_body, layout.decode_encode]
  rfl

theorem holding_getU16 (value : UInt16) :
    (pkt.holding headroom (bytes16 value ++ rest)).getU16 = .ok (value, pkt.holding (headroom + 2) rest) :=
  holding_get rest .u16 value

theorem holding_getU8 (value : UInt8) :
    (pkt.holding headroom ([value] ++ rest)).getU8 = .ok (value, pkt.holding (headroom + 1) rest) :=
  holding_get rest .u8 value

theorem holding_getBytes2 (first second : UInt8) :
    (pkt.holding headroom ([first, second] ++ rest)).get (Layout.pair .u8 .u8) =
      .ok ((first, second), pkt.holding (headroom + 2) rest) :=
  holding_get rest (Layout.pair .u8 .u8) (first, second)

end Packet

theorem slicePrefix_ok {bytes length} (inside : length ≤ bytes.length) :
    slicePrefix bytes length = .ok (bytes.take length) := by
  rw [slicePrefix, if_pos inside]

theorem refFromPrefix_ok {α layout} (value : α) (rest : List UInt8) :
    refFromPrefix layout (layout.encode value ++ rest) = .ok value := by
  simp only [refFromPrefix, layout.decode_encode]

theorem mutFromPrefix_ok {α layout} (update : α → α) (value : α) (rest : List UInt8) :
    mutFromPrefix layout update (layout.encode value ++ rest) = .ok (layout.encode (update value) ++ rest) := by
  simp only [mutFromPrefix, layout.decode_encode]

/-- Closing a gap towards the end, as compression does. -/
theorem copyWithin_later (front gap rest : List UInt8) :
    copyWithin (front ++ (gap ++ rest)) 0 front.length gap.length =
      .ok ((front ++ (gap ++ rest)).take gap.length ++ (front ++ rest)) := by
  unfold copyWithin
  rw [if_pos (by simp only [length_append]; omega)]
  have tail : (front ++ (gap ++ rest)).drop (gap.length + (front.length - 0)) = rest := by
    rw [← append_assoc, drop_left' (by simp only [length_append]; omega)]
  rw [tail, drop_zero, Nat.sub_zero, take_left' rfl, append_assoc]

/-- Opening a gap towards the start, as expansion does; what is left in the gap is stale. -/
theorem copyWithin_earlier (gap front rest : List UInt8) :
    ∃ stale, stale.length = gap.length ∧
      copyWithin (gap ++ (front ++ rest)) gap.length (gap.length + front.length) 0 = .ok (front ++ (stale ++ rest)) := by
  refine ⟨(gap ++ front).drop front.length, by simp, ?_⟩
  unfold copyWithin
  rw [if_pos (by simp only [length_append]; omega)]
  have tail : (gap ++ (front ++ rest)).drop front.length = (gap ++ front).drop front.length ++ rest := by
    rw [← append_assoc, drop_append_of_le_length (by simp only [length_append]; omega)]
  rw [Nat.add_sub_cancel_left, drop_left' rfl, take_left' rfl, Nat.zero_add, tail]
  simp

/-- A TCP header is its ports, its carried part, its checksum and its urgent pointer. -/
theorem TcpHeader.encode_eq (header : TcpHeader) (payload : List UInt8) :
    TcpHeader.layout.encode header ++ payload = bytes16 header.srcPort ++ (bytes16 header.dstPort ++
      (TcpCore.layout.encode header.core ++ (bytes16 header.checksum ++
        (bytes16 header.urgentPointer ++ payload)))) := by
  simp only [TcpHeader.layout, TcpCore.layout, TcpHeader.core, Layout.via, Layout.pair, Layout.u16, Layout.u8,
    Layout.vector, Equiv.coe_fn_symm_mk, append_assoc]

theorem UdpHeader.encode_eq (header : UdpHeader) (payload : List UInt8) :
    UdpHeader.layout.encode header ++ payload = bytes16 header.srcPort ++ (bytes16 header.dstPort ++
      (bytes16 header.length ++ (bytes16 header.checksum ++ payload))) := by
  simp only [UdpHeader.layout, Layout.via, Layout.pair, Layout.u16, Equiv.coe_fn_symm_mk, append_assoc]

theorem portBytes_length_le (mode : CompressionMode) (srcPort dstPort : UInt16) :
    (portBytes mode srcPort dstPort).length ≤ 4 := by
  unfold portBytes
  cases mode.hasSource <;> cases mode.hasDestination <;> simp [bytes16]

namespace Ipv4Header

private theorem flags_byte (words : Fin 16) (flags : Fin 8) (frag : Bool) :
    (((ofNat words <<< 4) ||| (if frag then 8 else 0) ||| ofNat flags) >>> 4 = ofNat words) ∧
      (((ofNat words <<< 4) ||| (if frag then 8 else 0) ||| ofNat flags) &&& 7 = ofNat flags) ∧
      (((ofNat words <<< 4) ||| (if frag then 8 else 0) ||| ofNat flags) &&& 8 ≠ 0 ↔ frag = true) := by
  revert words flags frag
  decide

private theorem low_nibble (byte : UInt8) : ∃ words : Fin 16, byte &&& 0x0F = UInt8.ofNat words := by
  refine ⟨⟨byte.toNat % 16, Nat.mod_lt _ (by decide)⟩, ?_⟩
  have mask := Nat.and_two_pow_sub_one_eq_mod byte.toNat 4
  simp only [Nat.reducePow, Nat.add_one_sub_one] at mask
  apply UInt8.toNat_inj.mp
  simp only [UInt8.toNat_and, UInt8.reduceToNat, mask, UInt8.toNat_ofNat']
  omega

private theorem top_bits (word : UInt16) :
    ∃ flags : Fin 8, (flags : Nat) = word.toNat / 8192 ∧ (word >>> 13).toUInt8 = UInt8.ofNat flags := by
  refine ⟨⟨word.toNat / 8192, by have := word.toNat_lt; omega⟩, rfl, ?_⟩
  apply UInt8.toNat_inj.mp
  simp [Nat.shiftRight_eq_div_pow]

private theorem mask_zero (word : UInt16) : word &&& 0x1fff = 0 ↔ word.toNat % 8192 = 0 := by
  have mask := Nat.and_two_pow_sub_one_eq_mod word.toNat 13
  simp only [Nat.reducePow, Nat.add_one_sub_one] at mask
  rw [← UInt16.toNat_inj]
  simp [mask]

theorem carried_flags (header : Ipv4Header) :
    header.carried.hlZdpflags >>> 4 = header.vhl &&& (0x0F : UInt8) ∧
      header.carried.hlZdpflags &&& (0x07 : UInt8) = (header.fragOffset >>> 13).toUInt8 ∧
      (header.carried.fragInfoPresent ↔ header.fragOffset &&& 0x1fff ≠ 0) := by
  obtain ⟨words, low⟩ := low_nibble header.vhl
  obtain ⟨flags, _, top⟩ := top_bits header.fragOffset
  have byte := flags_byte words flags (decide (header.fragOffset &&& 0x1fff ≠ 0))
  simpa only [carried, CarriedIpv4.fragInfoPresent, Compress.zdpV4FragInfoPresent, Classifier.ipv4HeaderLengthMask,
    low, top, decide_eq_true_eq] using byte

/-- The flags of an unfragmented packet are all there is of its fragment field. -/
theorem flags_restored {header : Ipv4Header} (whole : header.fragOffset &&& 0x1fff = 0) :
    (header.fragOffset >>> 13).toUInt8.toUInt16 <<< 13 = header.fragOffset := by
  obtain ⟨flags, value, top⟩ := top_bits header.fragOffset
  have := (mask_zero _).mp whole
  have := flags.isLt
  have := header.fragOffset.toNat_lt
  rw [top]
  apply UInt16.toNat_inj.mp
  simp only [UInt16.toNat_shiftLeft, toNat_toUInt16, toNat_ofNat', Nat.shiftLeft_eq]
  simp
  omega

end Ipv4Header

namespace Segment
variable {mode : CompressionMode} {ft : FiveTuple}

section
variable (mode) (payload : List UInt8)

theorem tcp_length (header : TcpHeader) :
    (tcp header payload).bytes.length + (portBytes mode header.srcPort header.dstPort).length =
      ((tcp header payload).compressed mode).length + 6 := by
  have word value : (bytes16 value).length = 2 := rfl
  simp only [bytes, compressed, length_append, encode_length, word,
    show TcpHeader.layout.size = 20 from rfl, show TcpCore.layout.size = 12 from rfl]
  omega

theorem udp_length (header : UdpHeader) :
    (udp header payload).bytes.length + (portBytes mode header.srcPort header.dstPort).length =
      ((udp header payload).compressed mode).length + 6 := by
  have word value : (bytes16 value).length = 2 := rfl
  simp only [bytes, compressed, length_append, encode_length, word,
    show UdpHeader.layout.size = 8 from rfl]
  omega

theorem compressed_length_le (segment : Segment) : (segment.compressed mode).length ≤ segment.bytes.length := by
  cases segment with
  | tcp header payload =>
    have saved := tcp_length mode payload header
    have ports := portBytes_length_le mode header.srcPort header.dstPort
    omega
  | udp header payload =>
    have saved := udp_length mode payload header
    have ports := portBytes_length_le mode header.srcPort header.dstPort
    omega
  | raw bytes => exact Nat.le_refl _

end

theorem rebuild_length (segment : Segment) : (segment.rebuild mode ft).bytes.length = segment.bytes.length := by
  cases segment with
  | tcp | udp => simp only [rebuild, bytes, length_append, encode_length]
  | raw bytes => rfl

theorem exists_bytes {l4Protocol region} (tcp : l4Protocol = IpNumber.tcp → TcpHeader.layout.size ≤ region.length)
    (udp : l4Protocol = IpNumber.udp → UdpHeader.layout.size ≤ region.length) :
    ∃ segment : Segment, segment.Carries l4Protocol ∧ segment.bytes = region := by
  by_cases isTcp : l4Protocol = IpNumber.tcp
  · obtain ⟨header, payload, rfl⟩ := TcpHeader.layout.decode_long (tcp isTcp)
    exact ⟨.tcp header payload, isTcp, rfl⟩
  by_cases isUdp : l4Protocol = IpNumber.udp
  · obtain ⟨header, payload, rfl⟩ := UdpHeader.layout.decode_long (udp isUdp)
    exact ⟨.udp header payload, isUdp, rfl⟩
  · exact ⟨.raw region, ⟨isTcp, isUdp⟩, rfl⟩

end Segment

namespace Compress
open Packet
variable {pkt : Packet} {mode : CompressionMode} {ft : FiveTuple} {headroom : Nat} {segment : Segment}
  {l4Protocol : IpProtocol}

theorem pushPorts_ok (srcPort dstPort : UInt16) (room : 4 ≤ headroom) (body : List UInt8) :
    pushPorts mode srcPort dstPort (pkt.holding headroom body) =
      .ok (pkt.holding (headroom - (portBytes mode srcPort dstPort).length) (portBytes mode srcPort dstPort ++ body)) := by
  unfold pushPorts portBytes
  cases mode.hasSource <;> cases mode.hasDestination
  · simp only [false_eq_true, if_false, holding_pushU16 dstPort (show 2 ≤ headroom by omega), ok_bind]
    rw [holding_pushU16 srcPort (by omega), append_assoc]
    rfl
  · simp only [false_eq_true, if_false, if_true, pure_bind, append_nil]
    exact holding_pushU16 srcPort (by omega)
  · simp only [false_eq_true, if_false, if_true, holding_pushU16 dstPort (show 2 ≤ headroom by omega)]
    rfl
  · rfl

theorem getPorts_ok (srcPort dstPort : UInt16) (rest : List UInt8) :
    getPorts mode ft (pkt.holding headroom (portBytes mode srcPort dstPort ++ rest)) =
      .ok (if mode.hasSource then ft.srcPort else srcPort, if mode.hasDestination then ft.dstPort else dstPort,
        pkt.holding (headroom + (portBytes mode srcPort dstPort).length) rest) := by
  unfold getPorts portBytes
  cases mode.hasSource <;> cases mode.hasDestination
  · simp only [false_eq_true, if_false, append_assoc, holding_getU16, ok_bind]
    rfl
  · simp only [false_eq_true, if_false, if_true, append_nil, holding_getU16, ok_bind]
    rfl
  · simp only [false_eq_true, if_false, if_true, nil_append, pure_bind, holding_getU16, ok_bind]
    rfl
  · rfl

section
variable (payload : List UInt8)

theorem compressTcp_ok (header : TcpHeader) :
    compressTcp mode (pkt.holding headroom (TcpHeader.layout.encode header ++ payload)) =
      .ok (pkt.holding (headroom + 6 - (portBytes mode header.srcPort header.dstPort).length)
        ((tcp header payload).compressed mode)) := by
  have size : (TcpCore.layout.encode header.core).length = 12 := TcpCore.layout.encode_length _
  have moved := copyWithin_later (TcpCore.layout.encode header.core) (bytes16 header.checksum)
    (bytes16 header.urgentPointer ++ payload)
  rw [size, show (bytes16 header.checksum).length = 2 from rfl] at moved
  simp only [compressTcp, TcpHeader.encode_eq, holding_getU16, ok_bind, holding_body,
    show TcpHeader.checksumOffset - 4 = 12 from rfl, moved, holding_withBody]
  rw [holding_advance (by simp only [length_append, size]; omega), ok_bind, pushPorts_ok _ _ (by omega),
    drop_left' (by rw [length_take, length_append, size]; omega)]
  simp only [compressed, append_assoc, Nat.add_assoc]

theorem expandTcp_ok (header : TcpHeader) (room : 6 ≤ headroom + (portBytes mode header.srcPort header.dstPort).length) :
    expandTcp mode ft (pkt.holding headroom ((tcp header payload).compressed mode)) =
      .ok (pkt.holding (headroom + (portBytes mode header.srcPort header.dstPort).length - 6)
        ((tcp header payload).rebuild mode ft).bytes) := by
  have size : (TcpCore.layout.encode header.core).length = 12 := TcpCore.layout.encode_length _
  obtain ⟨gap, length, moved⟩ := copyWithin_earlier (replicate 2 0) (TcpCore.layout.encode header.core)
    (bytes16 header.urgentPointer ++ payload)
  obtain ⟨stale, rfl⟩ := bytes16_exists length
  rw [size] at moved
  simp only [expandTcp, compressed, append_assoc, getPorts_ok, ok_bind, allocZeroedHeadroom]
  rw [holding_push _ (by simp only [length_replicate]; omega), ok_bind, holding_body,
    show TcpHeader.checksumOffset = 16 from rfl]
  simp only [length_replicate] at moved ⊢
  rw [moved, holding_withBody, ok_bind, holding_pushU16 _ (by omega), ok_bind,
    holding_pushU16 _ (by omega), ok_bind]
  have whole := TcpHeader.encode_eq { header with
    srcPort := if mode.hasSource then ft.srcPort else header.srcPort
    dstPort := if mode.hasDestination then ft.dstPort else header.dstPort
    checksum := stale } payload
  simp only [TcpHeader.core] at whole ⊢
  simp only [holding_body, ← whole, mutFromPrefix_ok, holding_withBody, ok_bind]
  rfl

theorem compressUdp_ok (header : UdpHeader) :
    compressUdp mode (pkt.holding headroom (UdpHeader.layout.encode header ++ payload)) =
      .ok (pkt.holding (headroom + 6 - (portBytes mode header.srcPort header.dstPort).length)
        ((udp header payload).compressed mode)) := by
  simp only [compressUdp, UdpHeader.encode_eq, holding_getU16, ok_bind]
  rw [holding_advance (by simp [bytes16]), ok_bind, pushPorts_ok _ _ (by omega)]
  simp only [compressed, append_assoc, Nat.add_assoc]
  rfl

theorem expandUdp_ok (header : UdpHeader) (room : 6 ≤ headroom + (portBytes mode header.srcPort header.dstPort).length) :
    expandUdp mode ft (pkt.holding headroom ((udp header payload).compressed mode)) =
      .ok (pkt.holding (headroom + (portBytes mode header.srcPort header.dstPort).length - 6)
        ((udp header payload).rebuild mode ft).bytes) := by
  have long : ¬ (bytes16 header.checksum ++ payload).length < 2 := by simp [bytes16]
  simp only [expandUdp, compressed, append_assoc, getPorts_ok, ok_bind, holding_body, long, if_false]
  rw [holding_pushU16 _ (by omega), ok_bind, holding_pushU16 _ (by omega), ok_bind,
    holding_pushU16 _ (by omega)]
  simp only [rebuild, bytes, UdpHeader.encode_eq, rebuildUdp]
  rfl

end

section
variable (carries : segment.Carries l4Protocol)
include carries

theorem compressL4_ok :
    compressL4 mode l4Protocol (pkt.holding headroom segment.bytes) =
      .ok (pkt.holding (headroom + segment.bytes.length - (segment.compressed mode).length)
        (segment.compressed mode)) := by
  cases segment with
  | tcp header payload =>
    obtain rfl := carries
    have saved := Segment.tcp_length mode payload header
    refine (@compressTcp_ok pkt mode headroom payload header).trans ?_
    congr 2
    omega
  | udp header payload =>
    obtain rfl := carries
    have saved := Segment.udp_length mode payload header
    refine (@compressUdp_ok pkt mode headroom payload header).trans ?_
    congr 2
    omega
  | raw bytes =>
    obtain ⟨notTcp, notUdp⟩ := carries
    simp [compressL4, notTcp, notUdp, Segment.bytes, Segment.compressed]

theorem compressIpv4_ok (header : Ipv4Header) :
    compressIpv4 mode l4Protocol (pkt.holding headroom (Ipv4Header.layout.encode header ++ segment.bytes)) =
      .ok (pkt.holding (headroom + 20 + segment.bytes.length - (header.carried.bytes ++ segment.compressed mode).length)
        (header.carried.bytes ++ segment.compressed mode)) := by
  have size : (Ipv4Header.layout.encode header).length = 20 := Ipv4Header.layout.encode_length _
  have shorter := segment.compressed_length_le mode
  have present := header.carried_flags.2.2
  simp only [compressIpv4, holding_body, refFromPrefix_ok, ok_bind, show Ipv4Header.layout.size = 20 from rfl]
  rw [holding_advance (by rw [length_append, size]; omega), ok_bind, drop_left' size,
    compressL4_ok carries, ok_bind, holding_push _ (by simp only [length_singleton]; omega), ok_bind]
  simp only [length_singleton]
  have word value : (bytes16 value).length = 2 := rfl
  by_cases whole : header.fragOffset &&& 0x1fff = 0
  · simp only [whole, ne_eq, not_true_eq_false, iff_false] at present
    simp only [whole, ne_eq, not_true_eq_false, if_false, pure_bind]
    rw [holding_pushU16 _ (by omega), ok_bind,
      holding_push _ (by simp only [length_cons, length_nil]; omega)]
    simp only [CarriedIpv4.bytes, present, if_false, nil_append, append_assoc, length_append,
      length_cons, length_nil, word]
    simp only [Ipv4Header.carried, whole, ne_eq, not_true_eq_false, if_false]
    congr 2
    omega
  · simp only [whole, ne_eq, not_false_eq_true, iff_true] at present
    simp only [whole, ne_eq, not_false_eq_true, if_true]
    rw [holding_pushU16 _ (by omega), ok_bind, holding_pushU16 _ (by omega), ok_bind,
      holding_push _ (by simp only [length_cons, length_nil]; omega)]
    simp only [CarriedIpv4.bytes, present, if_true, append_assoc, length_append,
      length_cons, length_nil, word]
    simp only [Ipv4Header.carried, whole, ne_eq, not_false_eq_true, if_true]
    congr 2
    omega

theorem compressIpv6_ok (header : Ipv6Header) :
    compressIpv6 mode l4Protocol (pkt.holding headroom (Ipv6Header.layout.encode header ++ segment.bytes)) =
      .ok (pkt.holding (headroom + 35 + segment.bytes.length - (segment.compressed mode).length)
        (CompressedIpv6Header.layout.encode header.carried ++ segment.compressed mode)) := by
  have size : (Ipv6Header.layout.encode header).length = 40 := Ipv6Header.layout.encode_length _
  have shorter := segment.compressed_length_le mode
  simp only [compressIpv6, holding_body, refFromPrefix_ok, ok_bind, show Ipv6Header.layout.size = 40 from rfl]
  rw [holding_advance (by rw [length_append, size]; omega), ok_bind, drop_left' size,
    compressL4_ok carries, ok_bind]
  refine (holding_push _ (by rw [encode_length, show CompressedIpv6Header.layout.size = 5 from rfl]; omega)).trans ?_
  congr 2
  rw [encode_length, show CompressedIpv6Header.layout.size = 5 from rfl]
  omega

end

/-- The end of expansion: the header is pushed in front and its checksum filled in. -/
private theorem finishIpv4 (carried : CarriedIpv4) (segment : List UInt8) (room : 20 ≤ headroom)
    (inside : carried.headerWords * 4 ≤ 20 + segment.length) :
    (do
      let pkt ← (pkt.holding headroom segment).pushHeader (Ipv4Header.layout.encode (carried.header ft segment))
      let csum := OnesComplement.checksum (← slicePrefix pkt.body ((carried.hlZdpflags >>> 4).toNat <<< 2))
      pkt.withBody (mutFromPrefix Ipv4Header.layout (fun header => { header with headerChecksum := csum }) pkt.body)) =
      .ok (pkt.holding (headroom - 20) (Ipv4Header.layout.encode (carried.rebuild ft segment) ++ segment)) := by
  have size : (Ipv4Header.layout.encode (carried.header ft segment)).length = 20 := Ipv4Header.layout.encode_length _
  have words : (carried.hlZdpflags >>> 4).toNat <<< 2 = carried.headerWords * 4 := by
    rw [Nat.shiftLeft_eq]
    rfl
  rw [holding_push _ (by omega), ok_bind, words]
  simp only [holding_body]
  rw [slicePrefix_ok (by rw [length_append, size]; exact inside), ok_bind]
  simp only [mutFromPrefix_ok, holding_withBody, size]
  rfl

variable (carries : segment.Carries ft.l4Protocol)
include carries

theorem expandL4_ok (room : segment.bytes.length ≤ headroom + (segment.compressed mode).length) :
    expandL4 mode ft (pkt.holding headroom (segment.compressed mode)) =
      .ok (pkt.holding (headroom + (segment.compressed mode).length - segment.bytes.length)
        (segment.rebuild mode ft).bytes) := by
  cases segment with
  | tcp header payload =>
    have saved := Segment.tcp_length mode payload header
    rw [expandL4, if_pos (show ft.l4Protocol = IpNumber.tcp from carries), expandTcp_ok payload header (by omega)]
    congr 2
    omega
  | udp header payload =>
    have saved := Segment.udp_length mode payload header
    have udp : ft.l4Protocol = IpNumber.udp := carries
    rw [expandL4, if_neg (by rw [udp]; decide), if_pos udp, expandUdp_ok payload header (by omega)]
    congr 2
    omega
  | raw bytes =>
    obtain ⟨notTcp, notUdp⟩ := carries
    simp [expandL4, notTcp, notUdp, Segment.bytes, Segment.compressed, Segment.rebuild]

theorem expandIpv4_ok (carried : CarriedIpv4)
    (room : 20 + segment.bytes.length ≤ headroom + (carried.bytes ++ segment.compressed mode).length)
    (inside : carried.headerWords * 4 ≤ 20 + segment.bytes.length) :
    expandIpv4 mode ft (pkt.holding headroom (carried.bytes ++ segment.compressed mode)) =
      .ok (pkt.holding (headroom + (carried.bytes ++ segment.compressed mode).length - (20 + segment.bytes.length))
        (Ipv4Header.layout.encode (carried.rebuild ft (segment.rebuild mode ft).bytes) ++
          (segment.rebuild mode ft).bytes)) := by
  have word value : (bytes16 value).length = 2 := rfl
  have rebuilt := @Segment.rebuild_length mode ft segment
  rw [length_append] at room ⊢
  by_cases present : carried.fragInfoPresent
  · have length : carried.bytes.length = 7 := by simp [CarriedIpv4.bytes, present, word]
    have flag : carried.hlZdpflags &&& zdpV4FragInfoPresent ≠ 0 := present
    have finish := @finishIpv4 pkt ft (headroom + 7 + (segment.compressed mode).length - segment.bytes.length) carried
      (segment.rebuild mode ft).bytes (by omega) (by omega)
    simp only [CarriedIpv4.header, present, if_true] at finish
    simp only [expandIpv4, CarriedIpv4.bytes, present, if_true, append_assoc, holding_getBytes2, ok_bind,
      holding_getU16, holding_getU8]
    rw [if_pos flag, expandL4_ok carries (by omega), ok_bind]
    simp only [holding_body]
    refine finish.trans ?_
    congr 2
    simp only [length_append, length_cons, length_nil, word]
    omega
  · have length : carried.bytes.length = 5 := by simp [CarriedIpv4.bytes, present, word]
    have flag : ¬ carried.hlZdpflags &&& zdpV4FragInfoPresent ≠ 0 := present
    have finish := @finishIpv4 pkt ft (headroom + 5 + (segment.compressed mode).length - segment.bytes.length) carried
      (segment.rebuild mode ft).bytes (by omega) (by omega)
    simp only [CarriedIpv4.header, present, if_false] at finish
    simp only [expandIpv4, CarriedIpv4.bytes, present, if_false, append_assoc, nil_append, holding_getBytes2,
      ok_bind, holding_getU16, holding_getU8, pure_bind]
    rw [if_neg flag, expandL4_ok carries (by omega), ok_bind]
    simp only [holding_body]
    refine finish.trans ?_
    congr 2
    simp only [length_append, length_cons, length_nil, word]
    omega

theorem expandIpv6_ok (carried)
    (room : 35 + segment.bytes.length ≤ headroom + (segment.compressed mode).length) :
    expandIpv6 mode ft (pkt.holding headroom (CompressedIpv6Header.layout.encode carried ++ segment.compressed mode)) =
      .ok (pkt.holding (headroom + (segment.compressed mode).length - (35 + segment.bytes.length))
        (Ipv6Header.layout.encode (carried.rebuild ft (segment.rebuild mode ft).bytes) ++
          (segment.rebuild mode ft).bytes)) := by
  have size : (CompressedIpv6Header.layout.encode carried).length = 5 := CompressedIpv6Header.layout.encode_length _
  simp only [expandIpv6, holding_body, refFromPrefix_ok, ok_bind, show CompressedIpv6Header.layout.size = 5 from rfl]
  rw [holding_advance (by rw [length_append, size]; omega), ok_bind, drop_left' size,
    expandL4_ok carries (by omega), ok_bind]
  refine (holding_push _ (by rw [encode_length, show Ipv6Header.layout.size = 40 from rfl]; omega)).trans ?_
  simp only [holding_body]
  congr 2
  rw [encode_length, show Ipv6Header.layout.size = 40 from rfl]
  omega

end Compress
end ZprCore.Datapath
