import ZprCore.Proofs.Classifier

/-! When expansion gives back the packet that was compressed. Expansion knows the
protocol of the last header only, looks for ports right behind the base header and
never writes a checksum as `0xFFFF`. -/

namespace ZprCore.Datapath
open Classifier Layout OnesComplement List Segment IpAddress Packet
variable {ft : FiveTuple} {mode : CompressionMode} {segment : Segment} {header : Ipv4Header}

/-- The five-tuples agree on all that compression leaves out of a packet. -/
structure Determines (mode : CompressionMode) (ft other : FiveTuple) : Prop where
  l3Type : other.l3Type = ft.l3Type
  srcAddress : other.srcAddress = ft.srcAddress
  dstAddress : other.dstAddress = ft.dstAddress
  l4Protocol : other.l4Protocol = ft.l4Protocol
  srcPort : mode.hasSource → other.srcPort = ft.srcPort
  dstPort : mode.hasDestination → other.dstPort = ft.dstPort

namespace Segment
variable {mode : CompressionMode} {ft other : FiveTuple}

/-- What compression assumes of the bytes behind the base header: read as a transport
header, they have the ports of the five-tuple and the checksum or length that is
computed from the rest. -/
def Intact (mode : CompressionMode) (ft : FiveTuple) : Segment → Prop
  | .tcp header payload => (mode.hasSource → header.srcPort = ft.srcPort) ∧ (mode.hasDestination → header.dstPort = ft.dstPort) ∧
      validateInetL4Checksum ft.l3Type ft.srcAddress ft.dstAddress IpNumber.tcp (TcpHeader.layout.encode header ++ payload) ∧
      header.checksum ≠ 0xFFFF
  | .udp header payload => (mode.hasSource → header.srcPort = ft.srcPort) ∧ (mode.hasDestination → header.dstPort = ft.dstPort) ∧
      header.length.toNat = payload.length + UdpHeader.layout.size
  | .raw _ => True

private theorem pseudoHeader_even (l3Type : L3Type) (src dst : IpAddress) (protocol : IpProtocol) (length : Nat) :
    (pseudoHeader l3Type src dst protocol length).length % 2 = 0 := by
  have word value : (bytes16 value).length = 2 := rfl
  have address value : (layout.encode value).length = 16 := layout.encode_length _
  cases l3Type <;> simp [pseudoHeader, word, address, readAsV4]

private theorem pseudoHeader_nonzero (l3Type : L3Type) (src dst : IpAddress) {protocol} (length : Nat)
    (nonzero : protocol ≠ 0) : total (pseudoHeader l3Type src dst protocol length) ≠ 0 := by
  have positive : protocol.toNat ≠ 0 := fun zero => nonzero (UInt8.toNat_inj.mp zero)
  have address value : (layout.encode value).length = 16 := layout.encode_length _
  have four (address : IpAddress) : address.readAsV4.toList.length % 2 = 0 := by rw [Vector.length_toList]
  have wide high low : total (layout.encode src ++ (layout.encode dst ++
      (bytes16 high ++ (bytes16 low ++ [0, 0, 0, protocol])))) ≠ 0 := by
    rw [total_append (by rw [address]), total_append (by rw [address]),
      total_bytes16, total_bytes16, total_cons₂, total_cons₂]
    simp only [UInt8.toNat_zero]
    omega
  cases l3Type with
  | ipv4 =>
    simp only [pseudoHeader, append_assoc, cons_append, nil_append]
    rw [total_append (four _), total_append (four _), total_cons₂]
    omega
  | ipv6 | other => simpa only [pseudoHeader, append_assoc] using wide _ _

theorem checksum_rebuilt (l3Type : L3Type) (src dst : IpAddress) (header : TcpHeader) (payload : List UInt8) :
    inetL4Checksum l3Type src dst IpNumber.tcp (TcpHeader.layout.encode { header with checksum := 0 } ++ payload) =
        header.checksum ↔
      validateInetL4Checksum l3Type src dst IpNumber.tcp (TcpHeader.layout.encode header ++ payload) ∧
        header.checksum ≠ 0xFFFF := by
  have lengths : (TcpHeader.layout.encode { header with checksum := 0 } ++ payload).length =
      (TcpHeader.layout.encode header ++ payload).length := by
    simp only [length_append, encode_length]
  rw [validateInetL4Checksum, beq_iff_eq, inetL4Checksum, inetL4Checksum, lengths]
  generalize pseudo : pseudoHeader l3Type src dst IpNumber.tcp _ = front
  have even : front.length % 2 = 0 := by rw [← pseudo, pseudoHeader_even]
  have nonzero : total front ≠ 0 := by
    rw [← pseudo]
    exact pseudoHeader_nonzero l3Type src dst _ (by decide)
  have core : (TcpCore.layout.encode header.core).length = 12 := TcpCore.layout.encode_length _
  have restored := @OnesComplement.checksum_restored
    (front ++ (bytes16 header.srcPort ++ (bytes16 header.dstPort ++ TcpCore.layout.encode header.core)))
    (bytes16 header.urgentPointer ++ payload)
    (by simp only [length_append, core, bytes16, length_cons, length_nil]; omega) header.checksum
    (by rw [append_assoc, total_append even]; omega)
  simpa only [TcpHeader.encode_eq, TcpHeader.core, append_assoc] using restored

private theorem kept_iff {present : Bool} {port known : UInt16} :
    (if present then known else port) = port ↔ (present = true → port = known) := by
  cases present <;> simp [eq_comm]

theorem rebuild_eq_iff (determined : Determines mode ft other) (segment : Segment) (short : segment.bytes.length < 65536) :
    (segment.rebuild mode other).bytes = segment.bytes ↔ segment.Intact mode ft := by
  have source {port} : (mode.hasSource = true → port = other.srcPort) ↔ (mode.hasSource = true → port = ft.srcPort) :=
    forall_congr' fun present => by rw [determined.srcPort present]
  have destination {port} :
      (mode.hasDestination = true → port = other.dstPort) ↔ (mode.hasDestination = true → port = ft.dstPort) :=
    forall_congr' fun present => by rw [determined.dstPort present]
  cases segment with
  | tcp header payload =>
    have fields : rebuildTcp mode other header payload = header ↔
        (if mode.hasSource then other.srcPort else header.srcPort) = header.srcPort ∧
          (if mode.hasDestination then other.dstPort else header.dstPort) = header.dstPort ∧
          inetL4Checksum ft.l3Type ft.srcAddress ft.dstAddress IpNumber.tcp
            (TcpHeader.layout.encode { header with checksum := 0 } ++ payload) = header.checksum := by
      simp only [rebuildTcp, determined.l3Type, determined.srcAddress, determined.dstAddress]
      constructor
      · intro same
        have src := congrArg TcpHeader.srcPort same
        have dst := congrArg TcpHeader.dstPort same
        have checksum := congrArg TcpHeader.checksum same
        simp only at src dst checksum
        rw [src, dst] at checksum
        exact ⟨src, dst, checksum⟩
      · rintro ⟨src, dst, checksum⟩
        simp only [src, dst, checksum]
    have bytes : ((Segment.tcp header payload).rebuild mode other).bytes = (Segment.tcp header payload).bytes ↔
        rebuildTcp mode other header payload = header :=
      ⟨fun same => (TcpHeader.layout.encode_inj same).1, fun same => by simp only [rebuild, Segment.bytes, same]⟩
    rw [bytes, fields, kept_iff, kept_iff, source, destination, checksum_rebuilt]
    exact Iff.rfl
  | udp header payload =>
    have fields : rebuildUdp mode other header payload = header ↔
        (if mode.hasSource then other.srcPort else header.srcPort) = header.srcPort ∧
          (if mode.hasDestination then other.dstPort else header.dstPort) = header.dstPort ∧
          UInt16.ofNat (payload.length + UdpHeader.layout.size) = header.length := by
      cases header
      simp [rebuildUdp]
    have bytes : ((Segment.udp header payload).rebuild mode other).bytes = (Segment.udp header payload).bytes ↔
        rebuildUdp mode other header payload = header :=
      ⟨fun same => (UdpHeader.layout.encode_inj same).1, fun same => by simp only [rebuild, Segment.bytes, same]⟩
    have length : UInt16.ofNat (payload.length + UdpHeader.layout.size) = header.length ↔
        header.length.toNat = payload.length + UdpHeader.layout.size := by
      simp only [Segment.bytes, length_append, encode_length] at short
      rw [← UInt16.toNat_inj, UInt16.toNat_ofNat_of_lt' (by simp only [UInt16.size]; omega)]
      exact eq_comm
    rw [bytes, fields, kept_iff, kept_iff, source, destination, length]
    exact Iff.rfl
  | raw bytes => exact iff_of_true rfl trivial

end Segment

namespace Ipv4Header
variable {header : Ipv4Header} {ft : FiveTuple} {region : List UInt8}

/-- The part of an IPv4 header in front of its checksum. -/
def beforeChecksum (header : Ipv4Header) : List UInt8 :=
  [header.vhl, header.dscp] ++ (bytes16 header.totalLength ++ (bytes16 header.fragId ++
    (bytes16 header.fragOffset ++ [header.ttl, header.proto])))

theorem encode_eq (header : Ipv4Header) (rest : List UInt8) :
    layout.encode header ++ rest = header.beforeChecksum ++ (bytes16 header.headerChecksum ++
      (header.srcAddress.toList ++ (header.dstAddress.toList ++ rest))) := by
  simp only [layout, beforeChecksum, Layout.via, Layout.pair, Layout.u16, Layout.u8, Layout.vector, Equiv.coe_fn_symm_mk,
    append_assoc, cons_append, nil_append]

theorem beforeChecksum_even (header : Ipv4Header) : header.beforeChecksum.length % 2 = 0 := by
  simp [beforeChecksum, bytes16]

private theorem version_kept {byte} (version : (byte &&& ipVersionMask) >>> 4 = 4) :
    ((4 : UInt8) <<< 4) ||| (byte &&& (0x0F : UInt8)) = byte := by
  have key : ∀ n < 256, (n &&& 240) >>> 4 = 4 → 64 ||| (n &&& 15) = n := by decide +kernel
  have bits := congrArg UInt8.toNat version
  simp only [ipVersionMask, UInt8.toNat_shiftRight, UInt8.toNat_and, UInt8.reduceToNat, Nat.reduceMod] at bits
  apply UInt8.toNat_inj.mp
  simp only [show ((4 : UInt8) <<< 4) = 64 from rfl, UInt8.toNat_or, UInt8.toNat_and, UInt8.reduceToNat]
  exact key byte.toNat byte.toNat_lt bits

/-- The header with a newly computed checksum. -/
def refreshed (header : Ipv4Header) (region : List UInt8) : Ipv4Header :=
  { header with
    headerChecksum := checksum
      ((layout.encode { header with headerChecksum := 0 } ++ region).take header.headerLength) }

theorem refreshed_checksum_iff (base : 20 ≤ header.headerLength) {field} :
    (header.refreshed region).headerChecksum = field ↔
      checksum ((layout.encode { header with headerChecksum := field } ++ region).take header.headerLength) = 0 ∧
        field ≠ 0xFFFF := by
  have take other : (layout.encode other ++ region).take header.headerLength =
      other.beforeChecksum ++ (bytes16 other.headerChecksum ++ (other.srcAddress.toList ++ (other.dstAddress.toList ++
        region.take (header.headerLength - 20)))) := by
    rw [take_append, take_of_length_le (by rw [layout.encode_length]; exact base), layout.encode_length,
      encode_eq]
    rfl
  have vhl : header.vhl.toNat ≠ 0 := by
    intro zero
    rw [headerLength, UInt8.toNat_and, zero, Nat.zero_and] at base
    omega
  have nonzero : total header.beforeChecksum ≠ 0 := by
    rw [beforeChecksum, cons_append, singleton_append, total_cons₂]
    omega
  rw [refreshed, take, take]
  exact checksum_restored header.beforeChecksum_even
    (by rw [total_append header.beforeChecksum_even]; omega)

variable (version : (header.vhl &&& ipVersionMask) >>> 4 = 4)
include version

section
variable (offset : header.fragOffset &&& fragmentOffsetMask = 0) (length : header.totalLength.toNat = region.length + 20)
include offset length

theorem carried_header :
    header.carried.header ft region = { header with
      proto := ft.l4Protocol, headerChecksum := 0,
      srcAddress := ft.srcAddress.readAsV4, dstAddress := ft.dstAddress.readAsV4 } := by
  obtain ⟨words, flags, present⟩ := header.carried_flags
  have absent : ¬ header.carried.fragInfoPresent := fun some => present.mp some offset
  have total : UInt16.ofNat (region.length + 20) = header.totalLength := by
    rw [← length, UInt16.ofNat_toNat]
  rw [CarriedIpv4.header, words, flags, if_neg absent, version_kept version, show layout.size = 20 from rfl, total,
    flags_restored offset, UInt16.zero_or]
  rfl

theorem rebuild_refreshed (proto : header.proto = ft.l4Protocol) (src : ft.srcAddress.readAsV4 = header.srcAddress)
    (dst : ft.dstAddress.readAsV4 = header.dstAddress) : header.carried.rebuild ft region = header.refreshed region := by
  have words : header.carried.headerWords * 4 = header.headerLength := by
    rw [CarriedIpv4.headerWords, header.carried_flags.1]
    rfl
  rw [CarriedIpv4.rebuild, carried_header version offset length, words, src, dst, ← proto]
  rfl

end

/-- Expansion rebuilds the header of an accepted packet exactly when the header names
the protocol of the five-tuple and its checksum is not written as `0xFFFF`. -/
theorem rebuild_eq_iff (accepts : AcceptsIpv4 header (layout.encode header ++ region))
    (src : ft.srcAddress.readAsV4 = header.srcAddress) (dst : ft.dstAddress.readAsV4 = header.dstAddress) :
    header.carried.rebuild ft region = header ↔ header.proto = ft.l4Protocol ∧ header.headerChecksum ≠ 0xFFFF := by
  have length := accepts.length
  rw [length_append, layout.encode_length, show layout.size = 20 from rfl] at length
  by_cases proto : header.proto = ft.l4Protocol
  · rw [rebuild_refreshed version accepts.offset (by omega) proto src dst, and_iff_right proto]
    have same : header.refreshed region = header ↔ (header.refreshed region).headerChecksum = header.headerChecksum :=
      ⟨congrArg headerChecksum, fun field => congrArg (fun field => { header with headerChecksum := field }) field⟩
    rw [same, refreshed_checksum_iff accepts.base]
    exact and_iff_right accepts.checksum
  · exact iff_of_false (fun same => proto (congrArg Ipv4Header.proto same).symm) fun kept => proto kept.1

end Ipv4Header

/-- Expansion rebuilds the header of an accepted packet exactly when the header names
the protocol of the five-tuple. -/
theorem Ipv6Header.rebuild_eq_iff {header : Ipv6Header} {ft region} (length : header.payloadLength.toNat = region.length)
    (src : ft.srcAddress = header.srcAddress) (dst : ft.dstAddress = header.dstAddress) :
    header.carried.rebuild ft region = header ↔ header.nextHeader = ft.l4Protocol := by
  have total : UInt16.ofNat region.length = header.payloadLength := by rw [← length, UInt16.ofNat_toNat]
  rw [Compress.CompressedIpv6Header.rebuild, total, src, dst]
  exact ⟨fun same => (congrArg nextHeader same).symm,
    fun same => congrArg (fun protocol => { header with nextHeader := protocol }) same.symm⟩

/-- The packet has nothing that compression loses. -/
def Recoverable (mode : CompressionMode) (ft : FiveTuple) (body : List UInt8) : Prop :=
  match ft.l3Type with
  | .ipv4 => ∃ header segment, body = Ipv4Header.layout.encode header ++ Segment.bytes segment ∧
      segment.Carries ft.l4Protocol ∧ header.proto = ft.l4Protocol ∧ header.headerChecksum ≠ 0xFFFF ∧ segment.Intact mode ft
  | .ipv6 => ∃ header segment, body = Ipv6Header.layout.encode header ++ Segment.bytes segment ∧
      segment.Carries ft.l4Protocol ∧ header.nextHeader = ft.l4Protocol ∧ segment.Intact mode ft
  | .other _ => False

theorem Classifier.AcceptsL4.long {rest} (accepts : AcceptsL4 ft rest) :
    (ft.l4Protocol = IpNumber.tcp → TcpHeader.layout.size ≤ rest.length) ∧
      (ft.l4Protocol = IpNumber.udp → UdpHeader.layout.size ≤ rest.length) := by
  constructor
  · intro tcp
    rw [AcceptsL4, tcp] at accepts
    obtain ⟨header, payload, rfl, _⟩ := accepts
    rw [length_append, encode_length]
    omega
  · intro udp
    rw [AcceptsL4, udp] at accepts
    obtain ⟨header, payload, rfl, _⟩ := accepts
    rw [length_append, encode_length]
    omega

theorem Segment.eq_of_bytes {l4Protocol other} (carries : segment.Carries l4Protocol) (carries' : other.Carries l4Protocol)
    (same : segment.bytes = other.bytes) : segment = other := by
  cases segment <;> cases other <;> simp only [Carries] at carries carries'
  case tcp.tcp =>
    obtain ⟨rfl, rfl⟩ := TcpHeader.layout.encode_inj same
    rfl
  case udp.udp =>
    obtain ⟨rfl, rfl⟩ := UdpHeader.layout.encode_inj same
    rfl
  case raw.raw => exact congrArg raw same
  case tcp.udp | udp.tcp => exact absurd (carries.symm.trans carries') (by decide)
  case tcp.raw => exact absurd carries carries'.1
  case udp.raw => exact absurd carries carries'.2
  case raw.tcp => exact absurd carries' carries.1
  case raw.udp => exact absurd carries' carries.2

/-- An accepted IPv4 packet: its base header, and the rest as compression sees it. -/
structure AcceptedIpv4 (ft : FiveTuple) (header : Ipv4Header) (segment : Segment) : Prop where
  l3Type : ft.l3Type = .ipv4
  version : (header.vhl &&& ipVersionMask) >>> 4 = 4
  checked : AcceptsIpv4 header (Ipv4Header.layout.encode header ++ segment.bytes)
  srcAddress : ft.srcAddress = .newFromV4 header.srcAddress
  dstAddress : ft.dstAddress = .newFromV4 header.dstAddress
  carries : segment.Carries ft.l4Protocol

structure AcceptedIpv6 (ft : FiveTuple) (header : Ipv6Header) (segment : Segment) : Prop where
  l3Type : ft.l3Type = .ipv6
  checked : AcceptsIpv6 header segment.bytes
  srcAddress : ft.srcAddress = header.srcAddress
  dstAddress : ft.dstAddress = header.dstAddress
  carries : segment.Carries ft.l4Protocol

/-- Every accepted packet is long enough for compression to find a transport header
of the classified protocol behind the base header, be it one or not. -/
theorem Classifier.Accepts.cases {ft₀ body} (accepts : Accepts (classify ft₀ body) ft) :
    (∃ header segment, body = Ipv4Header.layout.encode header ++ bytes segment ∧ AcceptedIpv4 ft header segment) ∨
      ∃ header segment, body = Ipv6Header.layout.encode header ++ bytes segment ∧ AcceptedIpv6 ft header segment := by
  rcases classify_accepts.mp accepts with ⟨version, accepts⟩ | ⟨_, accepts⟩
  · obtain ⟨header, region, rfl, checked, accepts⟩ := classifyIpv4_accepts.mp accepts
    obtain ⟨network, front, rest, suffix, l4⟩ := classifyNextHeader_suffix accepts
    have base : 20 ≤ header.headerLength := checked.base
    have longer : rest.length ≤ region.length := by
      have lengths := congrArg length suffix
      simp only [length_drop, length_append, encode_length, show Ipv4Header.layout.size = 20 from rfl] at lengths
      omega
    obtain ⟨segment, carries, rfl⟩ := @Segment.exists_bytes ft.l4Protocol region
      (fun tcp => Nat.le_trans (l4.long.1 tcp) longer) (fun udp => Nat.le_trans (l4.long.2 udp) longer)
    have first : getIpVersion (Ipv4Header.layout.encode header ++ segment.bytes) =
      .ok ((header.vhl &&& ipVersionMask) >>> 4) := rfl
    rw [first, Except.ok.injEq] at version
    exact .inl ⟨header, segment, rfl, network.l3Type, version, checked, network.srcAddress, network.dstAddress, carries⟩
  · obtain ⟨header, region, rfl, checked, accepts⟩ := classifyIpv6_accepts.mp accepts
    obtain ⟨network, front, rest, suffix, l4⟩ := classifyNextHeader_suffix accepts
    have longer : rest.length ≤ region.length := by
      rw [suffix, length_append]
      omega
    obtain ⟨segment, carries, rfl⟩ := @Segment.exists_bytes ft.l4Protocol region
      (fun tcp => Nat.le_trans (l4.long.1 tcp) longer) (fun udp => Nat.le_trans (l4.long.2 udp) longer)
    exact .inr ⟨header, segment, rfl, network.l3Type, checked, network.srcAddress, network.dstAddress, carries⟩

theorem AcceptedIpv4.inside (accepted : AcceptedIpv4 ft header segment) :
    header.carried.headerWords * 4 ≤ 20 + segment.bytes.length := by
  have inside := accepted.checked.inside
  rwa [length_append, encode_length, Ipv4Header.headerLength, show ipv4HeaderLengthMask = 0x0F from rfl,
    ← header.carried_flags.1] at inside

theorem AcceptedIpv4.rebuilt_iff {other} (accepted : AcceptedIpv4 ft header segment) (determined : Determines mode ft other) :
    Ipv4Header.layout.encode (header.carried.rebuild other (segment.rebuild mode other).bytes) ++
        (segment.rebuild mode other).bytes = Ipv4Header.layout.encode header ++ segment.bytes ↔
      header.proto = ft.l4Protocol ∧ header.headerChecksum ≠ 0xFFFF ∧ segment.Intact mode ft := by
  have total := accepted.checked.length
  have bound := header.totalLength.toNat_lt
  rw [length_append] at total
  have rebuilt := rebuild_eq_iff determined segment (by omega)
  have restored := @Ipv4Header.rebuild_eq_iff header other segment.bytes accepted.version accepted.checked
    (by rw [determined.srcAddress, accepted.srcAddress]; rfl) (by rw [determined.dstAddress, accepted.dstAddress]; rfl)
  rw [determined.l4Protocol] at restored
  constructor
  · intro same
    obtain ⟨sameHeader, sameBytes⟩ := Ipv4Header.layout.encode_inj same
    rw [sameBytes] at sameHeader
    obtain ⟨proto, checksum⟩ := restored.mp sameHeader
    exact ⟨proto, checksum, rebuilt.mp sameBytes⟩
  · rintro ⟨proto, checksum, intact⟩
    rw [rebuilt.mpr intact, restored.mpr ⟨proto, checksum⟩]

theorem AcceptedIpv6.rebuilt_iff {other} {header} (accepted : AcceptedIpv6 ft header segment)
    (determined : Determines mode ft other) :
    Ipv6Header.layout.encode (header.carried.rebuild other (segment.rebuild mode other).bytes) ++
        (segment.rebuild mode other).bytes = Ipv6Header.layout.encode header ++ segment.bytes ↔
      header.nextHeader = ft.l4Protocol ∧ segment.Intact mode ft := by
  have total := accepted.checked.length
  have bound := header.payloadLength.toNat_lt
  have rebuilt := rebuild_eq_iff determined segment (by omega)
  have restored := @Ipv6Header.rebuild_eq_iff header other segment.bytes total
    (by rw [determined.srcAddress, accepted.srcAddress]) (by rw [determined.dstAddress, accepted.dstAddress])
  rw [determined.l4Protocol] at restored
  constructor
  · intro same
    obtain ⟨sameHeader, sameBytes⟩ := Ipv6Header.layout.encode_inj same
    rw [sameBytes] at sameHeader
    exact ⟨restored.mp sameHeader, rebuilt.mp sameBytes⟩
  · rintro ⟨proto, intact⟩
    rw [rebuilt.mpr intact, restored.mpr proto]

theorem AcceptedIpv4.recoverable_iff (accepted : AcceptedIpv4 ft header segment) :
    Recoverable mode ft (Ipv4Header.layout.encode header ++ segment.bytes) ↔
      header.proto = ft.l4Protocol ∧ header.headerChecksum ≠ 0xFFFF ∧ segment.Intact mode ft := by
  rw [Recoverable, accepted.l3Type]
  constructor
  · rintro ⟨header', segment', same, carries, kept⟩
    obtain ⟨rfl, bytes⟩ := Ipv4Header.layout.encode_inj same
    obtain rfl := eq_of_bytes accepted.carries carries bytes
    exact kept
  · exact fun kept => ⟨header, segment, rfl, accepted.carries, kept⟩

theorem AcceptedIpv6.recoverable_iff {header} (accepted : AcceptedIpv6 ft header segment) :
    Recoverable mode ft (Ipv6Header.layout.encode header ++ segment.bytes) ↔
      header.nextHeader = ft.l4Protocol ∧ segment.Intact mode ft := by
  rw [Recoverable, accepted.l3Type]
  constructor
  · rintro ⟨header', segment', same, carries, kept⟩
    obtain ⟨rfl, bytes⟩ := Ipv6Header.layout.encode_inj same
    obtain rfl := eq_of_bytes accepted.carries carries bytes
    exact kept
  · exact fun kept => ⟨header, segment, rfl, accepted.carries, kept⟩

namespace Compress
variable {pkt : Packet} {mode : CompressionMode} {ft₀ ft other : FiveTuple}

/-- Compressing and expanding an accepted packet never panics, and gives the packet
back exactly when it is recoverable. -/
theorem expand_compress_iff (accepts : Accepts (classify ft₀ pkt.body) ft) (determined : Determines mode ft other) :
    ∃ compressed expanded, compress mode ft.l3Type ft.l4Protocol pkt = .ok compressed ∧
      expand mode other compressed = .ok expanded ∧ (expanded.body = pkt.body ↔ Recoverable mode ft pkt.body) := by
  obtain ⟨header, segment, body, accepted⟩ | ⟨header, segment, body, accepted⟩ := accepts.cases
  all_goals have carries : segment.Carries other.l4Protocol := determined.l4Protocol ▸ accepted.carries
  · have compressed := @compressIpv4_ok pkt mode pkt.headroom _ _ accepted.carries header
    have route {pkt} : expand mode other pkt = expandIpv4 mode other pkt := by
      rw [expand, determined.l3Type, accepted.l3Type]
    have expanded := @expandIpv4_ok pkt mode other
      (pkt.headroom + 20 + segment.bytes.length - (header.carried.bytes ++ segment.compressed mode).length) segment
      carries header.carried (by omega) accepted.inside
    rw [← body, holding_self] at compressed
    rw [accepted.l3Type, compress, compressed]
    refine ⟨_, _, rfl, route.trans expanded, ?_⟩
    rw [holding_body, body, accepted.recoverable_iff]
    exact accepted.rebuilt_iff determined
  · have compressed := @compressIpv6_ok pkt mode pkt.headroom _ _ accepted.carries header
    have route {pkt} : expand mode other pkt = expandIpv6 mode other pkt := by
      rw [expand, determined.l3Type, accepted.l3Type]
    have expanded := @expandIpv6_ok pkt mode other (pkt.headroom + 35 + segment.bytes.length - (segment.compressed mode).length)
      segment carries header.carried (by omega)
    rw [← body, holding_self] at compressed
    rw [accepted.l3Type, compress, compressed]
    refine ⟨_, _, rfl, route.trans expanded, ?_⟩
    rw [holding_body, body, accepted.recoverable_iff]
    exact accepted.rebuilt_iff determined

/-- Compression of an accepted packet does not depend on its headroom, which it adds to. -/
theorem compress_shortens (mode : CompressionMode) (accepts : Accepts (classify ft₀ pkt.body) ft) :
    ∃ compressed, compress mode ft.l3Type ft.l4Protocol pkt = .ok compressed ∧
      compressed.body.length < pkt.body.length := by
  obtain ⟨header, segment, body, accepted⟩ | ⟨header, segment, body, accepted⟩ := accepts.cases
  on_goal 1 => have compressed := @compressIpv4_ok pkt mode pkt.headroom _ _ accepted.carries header
  on_goal 2 => have compressed := @compressIpv6_ok pkt mode pkt.headroom _ _ accepted.carries header
  all_goals
    rw [← body, Packet.holding_self] at compressed
    rw [accepted.l3Type, compress, compressed, body]
    refine ⟨_, rfl, ?_⟩
    have shorter := segment.compressed_length_le mode
  · have carried : header.carried.bytes.length ≤ 7 := by
      unfold CarriedIpv4.bytes
      split <;> simp [bytes16]
    simp only [Packet.holding_body, length_append, encode_length, show Ipv4Header.layout.size = 20 from rfl]
    omega
  · simp only [Packet.holding_body, length_append, encode_length, show CompressedIpv6Header.layout.size = 5 from rfl,
      show Ipv6Header.layout.size = 40 from rfl]
    omega

/-- The IP header of a DNS query from 10.0.0.1 to 10.0.0.2. -/
def queryHeader : Ipv4Header where
  vhl := 0x45
  dscp := 0
  totalLength := 28
  fragId := 0
  fragOffset := 0x4000
  ttl := 64
  proto := 17
  headerChecksum := 0x26cf
  srcAddress := #v[10, 0, 0, 1]
  dstAddress := #v[10, 0, 0, 2]

def queryUdp : UdpHeader where
  srcPort := 5000
  dstPort := 53
  length := 8
  checksum := 0

def query : FiveTuple where
  srcAddress := .newFromV4 #v[10, 0, 0, 1]
  dstAddress := .newFromV4 #v[10, 0, 0, 2]
  l3Type := .ipv4
  l4Protocol := 17
  srcPort := 5000
  dstPort := 53

def queryPacket : Packet where
  headroom := 0
  body := Ipv4Header.layout.encode queryHeader ++ UdpHeader.layout.encode queryUdp
  tailroom := 0
  fiveTuple := query
  ingressLaneId := 0
  ingressLinkId := 0
  ingressStreamId := 0

theorem queryPacket_accepted : Accepts (classify query queryPacket.body) query := by
  refine classify_accepts.mpr (.inl ⟨rfl, classifyIpv4_accepts.mpr ⟨queryHeader, UdpHeader.layout.encode queryUdp, rfl, ?_, ?_⟩⟩)
  · constructor <;> decide
  · exact (classifyNextHeader_accepts (by decide)).mpr
      ⟨⟨rfl, rfl, rfl⟩, rfl, queryUdp, [], rfl, .inl rfl, rfl, rfl, rfl⟩

theorem classify_anew_query : ∃ result, (result = .ok ∨ result = .unclassifiedL4) ∧
    classify query queryPacket.body = .ok (.ok result, query) ∧
    classify { query with srcPort := 0, dstPort := 0 } queryPacket.body = .ok (.ok result, query) :=
  queryPacket_accepted.imp fun _ held => ⟨held.1, held.2, classify_anew held.1 held.2⟩

theorem expand_compress_query : Accepts (classify query queryPacket.body) query ∧ Determines 2 query query ∧
    ∃ compressed expanded, compress 2 query.l3Type query.l4Protocol queryPacket = .ok compressed ∧
      expand 2 query compressed = .ok expanded ∧
      (expanded.body = queryPacket.body ↔ Recoverable 2 query queryPacket.body) :=
  ⟨queryPacket_accepted, ⟨rfl, rfl, rfl, rfl, fun _ => rfl, fun _ => rfl⟩,
    expand_compress_iff queryPacket_accepted ⟨rfl, rfl, rfl, rfl, fun _ => rfl, fun _ => rfl⟩⟩

theorem compress_shortens_query : Accepts (classify query queryPacket.body) query ∧
    ∃ compressed, compress 0 query.l3Type query.l4Protocol queryPacket = .ok compressed ∧
      compressed.body.length < queryPacket.body.length :=
  ⟨queryPacket_accepted, compress_shortens 0 queryPacket_accepted⟩

/-- The same query with a four-byte IP option. -/
def optionHeader : Ipv4Header := { queryHeader with vhl := 0x46, totalLength := 32, headerChecksum := 0x23ca }

def optionPacket : Packet :=
  { queryPacket with body := Ipv4Header.layout.encode optionHeader ++ ([1, 1, 1, 0] ++ UdpHeader.layout.encode queryUdp) }

theorem optionPacket_accepted : Accepts (classify query optionPacket.body) query := by
  refine classify_accepts.mpr (.inl ⟨rfl, classifyIpv4_accepts.mpr
    ⟨optionHeader, [1, 1, 1, 0] ++ UdpHeader.layout.encode queryUdp, rfl, ?_, ?_⟩⟩)
  · constructor <;> decide
  · exact (classifyNextHeader_accepts (by decide)).mpr
      ⟨⟨rfl, rfl, rfl⟩, rfl, queryUdp, [], rfl, .inl rfl, rfl, rfl, rfl⟩

/-- With an option in front of it, the source port is taken for the UDP length. -/
theorem expand_compress_option : Accepts (classify query optionPacket.body) query ∧ Determines 0 query query ∧
    ∃ compressed expanded, compress 0 query.l3Type query.l4Protocol optionPacket = .ok compressed ∧
      expand 0 query compressed = .ok expanded ∧ expanded.body ≠ optionPacket.body :=
  ⟨optionPacket_accepted, ⟨rfl, rfl, rfl, rfl, fun _ => rfl, fun _ => rfl⟩, _, _, rfl, rfl, by decide⟩

end Compress
end ZprCore.Datapath
