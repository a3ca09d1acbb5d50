import ZprCore.Proofs.Delivery
import ZprCore.Proofs.Expand

/-! Whether what an adapter hands to the actor is traffic of the tether it came in on.
Expansion writes the addresses and the protocol of the traffic classifier, but takes the
header length and the fragment field from the packet, so that the transport header the
actor sees need not be the one that was filled in. -/

namespace ZprCore.Datapath
open Compress Segment Packet Except
open Classifier Fastpath Panic Layout List Ip5TupleTc

def FiveTuple.withPorts (ft : FiveTuple) (srcPort dstPort : UInt16) : FiveTuple := { ft with srcPort, dstPort }

/-- The bytes are an acceptable transport part with the ports the classifier asks for. -/
def MatchesL4 (tc : Ip5TupleTc) (bytes : List UInt8) : Prop :=
  ∃ srcPort dstPort, AcceptsL4 (tc.fiveTuple.withPorts srcPort dstPort) bytes ∧
    (tc.fiveTuple.srcPort ≠ 0 → srcPort = tc.fiveTuple.srcPort) ∧ (tc.fiveTuple.dstPort ≠ 0 → dstPort = tc.fiveTuple.dstPort)

/-- What a compressed segment has to meet when nothing is between it and the base header:
ports, lengths and TCP checksums are filled in, everything else is as it came. -/
def Segment.Conforms (tc : Ip5TupleTc) : Segment → Prop
  | .tcp header payload => 20 ≤ ((header.dataOffsetAndReserved >>> 4) * (4 : UInt8)).toNat ∧
      ((header.dataOffsetAndReserved >>> 4) * (4 : UInt8)).toNat ≤ 20 + payload.length
  | .udp header payload => header.checksum = 0 ∨ validateInetL4ChecksumWith5t tc.fiveTuple
      (UdpHeader.layout.encode (Segment.rebuildUdp tc.compressionMode tc.fiveTuple header payload) ++ payload)
  | .raw bytes => MatchesL4 tc bytes

/-- The fragment field of the packet that expansion makes. -/
def CarriedIpv4.fragField (carried : CarriedIpv4) : UInt16 :=
  (if carried.fragInfoPresent then carried.fragOffset else 0) ||| ((carried.hlZdpflags &&& 0x07).toUInt16 <<< 13)

/-- What a compressed packet has to meet to become traffic of its classifier. With a
header length of more than five words, the first bytes of the segment become options. -/
def Conforming (tc : Ip5TupleTc) (compressed : List UInt8) : Prop :=
  match tc.fiveTuple.l3Type with
  | .ipv4 => ∃ (carried : CarriedIpv4) (segment : Segment),
      compressed = carried.bytes ++ segment.compressed tc.compressionMode ∧ segment.Carries tc.fiveTuple.l4Protocol ∧
      tc.fiveTuple.srcAddress.isV4 ∧ tc.fiveTuple.dstAddress.isV4 ∧
      carried.fragField &&& fragmentOffsetMask = 0 ∧ carried.fragField &&& moreFragmentsMask = 0 ∧
      (carried.headerWords = 5 ∧ segment.Conforms tc ∨ 5 < carried.headerWords ∧
        MatchesL4 tc ((segment.rebuild tc.compressionMode tc.fiveTuple).bytes.drop (carried.headerWords * 4 - 20)))
  | .ipv6 => ∃ (carried : Compress.CompressedIpv6Header) (segment : Segment),
      compressed = Compress.CompressedIpv6Header.layout.encode carried ++ segment.compressed tc.compressionMode ∧
      segment.Carries tc.fiveTuple.l4Protocol ∧ (carried.versionAndTcUpper &&& ipVersionMask) >>> 4 = 6 ∧
      tc.fiveTuple.srcAddress.isV4 = false ∧ tc.fiveTuple.dstAddress.isV4 = false ∧ segment.Conforms tc
  | .other _ => False

variable {tc : Ip5TupleTc} {ft ft₀ : FiveTuple} {segment : Segment} {mode : CompressionMode}

theorem Classifier.AcceptsL4.direct {bytes} (accepts : AcceptsL4 ft bytes) : ¬ isExtension ft.l4Protocol := by
  rintro (kind | kind | kind) <;> · rw [AcceptsL4, kind] at accepts; exact accepts

/-- Bytes behind an IP header are accepted for a five-tuple that matches the classifier
exactly when their addresses are the classifier's and they match as a transport part. -/
theorem nextHeader_matches_iff {bytes} :
    (∃ ft, Accepts (classifyNextHeader ft₀ bytes tc.fiveTuple.l4Protocol {}) ft ∧ tc.classify5t ft = true) ↔
      SameNetwork tc.fiveTuple ft₀ ∧ MatchesL4 tc bytes := by
  constructor
  · rintro ⟨ft, accepts, matched⟩
    have determined := classify5t_iff.mp matched
    obtain ⟨_, _, _, _, suffix⟩ := classifyNextHeader_suffix accepts
    have direct : ¬ isExtension tc.fiveTuple.l4Protocol := determined.l4Protocol ▸ suffix.direct
    obtain ⟨same, _, l4⟩ := (classifyNextHeader_accepts direct).mp accepts
    have whole : tc.fiveTuple.withPorts ft.srcPort ft.dstPort = ft := by
      simp only [FiveTuple.withPorts, determined.srcAddress, determined.dstAddress, determined.l3Type, determined.l4Protocol]
    refine ⟨⟨determined.l3Type.trans same.l3Type, determined.srcAddress.trans same.srcAddress,
      determined.dstAddress.trans same.dstAddress⟩, ft.srcPort, ft.dstPort, by rw [whole]; exact l4, ?_, ?_⟩
    · exact fun fixed => (determined.srcPort (hasSource_iff.mpr fixed)).symm
    · exact fun fixed => (determined.dstPort (hasDestination_iff.mpr fixed)).symm
  · rintro ⟨same, srcPort, dstPort, l4, source, destination⟩
    refine ⟨tc.fiveTuple.withPorts srcPort dstPort, (classifyNextHeader_accepts l4.direct).mpr
      ⟨⟨same.l3Type, same.srcAddress, same.dstAddress⟩, rfl, l4⟩, classify5t_iff.mpr ⟨rfl, rfl, rfl, rfl, ?_, ?_⟩⟩
    · exact fun present => (source (hasSource_iff.mp present)).symm
    · exact fun present => (destination (hasDestination_iff.mp present)).symm

private theorem withPorts_validate (srcPort dstPort : UInt16) (bytes : List UInt8) :
    validateInetL4ChecksumWith5t (ft.withPorts srcPort dstPort) bytes = validateInetL4ChecksumWith5t ft bytes := rfl

theorem matchesL4_tcp (protocol : tc.fiveTuple.l4Protocol = IpNumber.tcp) {header payload} :
    MatchesL4 tc (TcpHeader.layout.encode header ++ payload) ↔
      validateInetL4ChecksumWith5t tc.fiveTuple (TcpHeader.layout.encode header ++ payload) ∧
      (20 ≤ ((header.dataOffsetAndReserved >>> 4) * (4 : UInt8)).toNat ∧
        ((header.dataOffsetAndReserved >>> 4) * (4 : UInt8)).toNat ≤ 20 + payload.length) ∧
      (tc.fiveTuple.srcPort ≠ 0 → header.srcPort = tc.fiveTuple.srcPort) ∧
      (tc.fiveTuple.dstPort ≠ 0 → header.dstPort = tc.fiveTuple.dstPort) := by
  have l4 srcPort dstPort : AcceptsL4 (tc.fiveTuple.withPorts srcPort dstPort)
      (TcpHeader.layout.encode header ++ payload) ↔ ∃ header' payload', TcpHeader.layout.encode header ++ payload =
        TcpHeader.layout.encode header' ++ payload' ∧
      validateInetL4ChecksumWith5t tc.fiveTuple (TcpHeader.layout.encode header ++ payload) ∧
      AcceptsTcp (tc.fiveTuple.withPorts srcPort dstPort) header' (20 + payload.length) := by
    have kind : headerKind (tc.fiveTuple.withPorts srcPort dstPort).l4Protocol = .tcp := congrArg headerKind protocol
    simp only [AcceptsL4, kind, withPorts_validate, length_append, encode_length]
    exact Iff.rfl
  constructor
  · rintro ⟨srcPort, dstPort, accepts, source, destination⟩
    obtain ⟨header', payload', whole, valid, src, dst, offset⟩ := (l4 _ _).mp accepts
    obtain ⟨rfl, rfl⟩ := TcpHeader.layout.encode_inj whole
    exact ⟨valid, offset, fun fixed => src.symm.trans (source fixed), fun fixed => dst.symm.trans (destination fixed)⟩
  · rintro ⟨valid, offset, source, destination⟩
    exact ⟨header.srcPort, header.dstPort, (l4 _ _).mpr ⟨header, payload, rfl, valid, rfl, rfl, offset⟩, source, destination⟩

theorem matchesL4_udp (protocol : tc.fiveTuple.l4Protocol = IpNumber.udp) {header payload} :
    MatchesL4 tc (UdpHeader.layout.encode header ++ payload) ↔
      (header.checksum = 0 ∨ validateInetL4ChecksumWith5t tc.fiveTuple (UdpHeader.layout.encode header ++ payload)) ∧
      header.length.toNat = 8 + payload.length ∧
      (tc.fiveTuple.srcPort ≠ 0 → header.srcPort = tc.fiveTuple.srcPort) ∧
      (tc.fiveTuple.dstPort ≠ 0 → header.dstPort = tc.fiveTuple.dstPort) := by
  have l4 srcPort dstPort : AcceptsL4 (tc.fiveTuple.withPorts srcPort dstPort)
      (UdpHeader.layout.encode header ++ payload) ↔ ∃ header' payload', UdpHeader.layout.encode header ++ payload =
        UdpHeader.layout.encode header' ++ payload' ∧ (header'.checksum = 0 ∨
          validateInetL4ChecksumWith5t tc.fiveTuple (UdpHeader.layout.encode header ++ payload)) ∧
      AcceptsUdp (tc.fiveTuple.withPorts srcPort dstPort) header' (8 + payload.length) := by
    have kind : headerKind (tc.fiveTuple.withPorts srcPort dstPort).l4Protocol = .udp := congrArg headerKind protocol
    simp only [AcceptsL4, kind, withPorts_validate, length_append, encode_length]
    exact Iff.rfl
  constructor
  · rintro ⟨srcPort, dstPort, accepts, source, destination⟩
    obtain ⟨header', payload', whole, valid, src, dst, length⟩ := (l4 _ _).mp accepts
    obtain ⟨rfl, rfl⟩ := UdpHeader.layout.encode_inj whole
    exact ⟨valid, length, fun fixed => src.symm.trans (source fixed), fun fixed => dst.symm.trans (destination fixed)⟩
  · rintro ⟨valid, length, source, destination⟩
    exact ⟨header.srcPort, header.dstPort, (l4 _ _).mpr ⟨header, payload, rfl, valid, rfl, rfl, length⟩, source, destination⟩

theorem Segment.conforms_iff (carries : segment.Carries tc.fiveTuple.l4Protocol) (short : segment.bytes.length < 65536) :
    MatchesL4 tc (segment.rebuild tc.compressionMode tc.fiveTuple).bytes ↔ segment.Conforms tc := by
  have source {port} (fixed : tc.fiveTuple.srcPort ≠ 0) :
      (if tc.compressionMode.hasSource then tc.fiveTuple.srcPort else port) = tc.fiveTuple.srcPort :=
    if_pos (hasSource_iff.mpr fixed)
  have destination {port} (fixed : tc.fiveTuple.dstPort ≠ 0) :
      (if tc.compressionMode.hasDestination then tc.fiveTuple.dstPort else port) = tc.fiveTuple.dstPort :=
    if_pos (hasDestination_iff.mpr fixed)
  cases segment with
  | tcp header payload =>
    have protocol : tc.fiveTuple.l4Protocol = IpNumber.tcp := carries
    have valid : validateInetL4ChecksumWith5t tc.fiveTuple
        (TcpHeader.layout.encode (rebuildTcp tc.compressionMode tc.fiveTuple header payload) ++ payload) = true := by
      rw [validateInetL4ChecksumWith5t, protocol]
      exact ((checksum_rebuilt _ _ _ (rebuildTcp tc.compressionMode tc.fiveTuple header payload) payload).mp rfl).1
    rw [rebuild, bytes, matchesL4_tcp protocol]
    exact ⟨fun accepts => accepts.2.1, fun offset => ⟨valid, offset, source, destination⟩⟩
  | udp header payload =>
    rw [bytes, length_append, encode_length] at short
    have length : (rebuildUdp tc.compressionMode tc.fiveTuple header payload).length.toNat = 8 + payload.length := by
      rw [rebuildUdp, UInt16.toNat_ofNat_of_lt' (by simp only [UInt16.size]; omega), Nat.add_comm]
      rfl
    rw [rebuild, bytes, matchesL4_udp carries]
    exact ⟨fun accepts => accepts.1, fun valid => ⟨valid, length, source, destination⟩⟩
  | raw bytes => exact Iff.rfl

private theorem portBytes_inj {src dst src' dst' rest rest'}
    (same : portBytes mode src dst ++ rest = portBytes mode src' dst' ++ rest') :
    (∀ known, (if mode.hasSource then known else src) = if mode.hasSource then known else src') ∧
      (∀ known, (if mode.hasDestination then known else dst) = if mode.hasDestination then known else dst') ∧ rest = rest' := by
  unfold portBytes at same
  cases source : mode.hasSource <;> cases destination : mode.hasDestination <;>
    simp only [source, destination, Bool.false_eq_true, if_false, if_true, append_nil, nil_append,
      append_assoc] at same ⊢
  · obtain ⟨srcPort, same⟩ := Layout.u16.encode_inj same
    obtain ⟨dstPort, same⟩ := Layout.u16.encode_inj same
    exact ⟨fun _ => srcPort, fun _ => dstPort, same⟩
  · obtain ⟨srcPort, same⟩ := Layout.u16.encode_inj same
    exact ⟨fun _ => srcPort, fun _ => trivial, same⟩
  · obtain ⟨dstPort, same⟩ := Layout.u16.encode_inj same
    exact ⟨fun _ => trivial, fun _ => dstPort, same⟩
  · exact ⟨fun _ => trivial, fun _ => trivial, same⟩

theorem Segment.rebuild_congr {l4Protocol} {other : Segment} (carries : segment.Carries l4Protocol)
    (carries' : other.Carries l4Protocol) (same : segment.compressed mode = other.compressed mode) :
    segment.rebuild mode ft = other.rebuild mode ft := by
  cases segment <;> cases other <;> simp only [Carries] at carries carries'
  case tcp.tcp header payload header' payload' =>
    simp only [compressed, append_assoc] at same
    obtain ⟨src, dst, same⟩ := portBytes_inj same
    obtain ⟨core, same⟩ := TcpCore.layout.encode_inj same
    obtain ⟨urgent, rfl⟩ := Layout.u16.encode_inj same
    simp only [TcpHeader.core, TcpCore.mk.injEq] at core
    obtain ⟨sequence, acknowledgement, offset, flags, window⟩ := core
    simp only [rebuild, rebuildTcp, src, dst, sequence, acknowledgement, offset, flags, window, urgent]
  case udp.udp header payload header' payload' =>
    simp only [compressed, append_assoc] at same
    obtain ⟨src, dst, same⟩ := portBytes_inj same
    obtain ⟨checksum, rfl⟩ := Layout.u16.encode_inj same
    simp only [rebuild, rebuildUdp, src, dst, checksum]
  case raw.raw => exact congrArg raw same
  case tcp.udp | udp.tcp => exact absurd (carries.symm.trans carries') (by decide)
  case tcp.raw => exact absurd carries carries'.1
  case udp.raw => exact absurd carries carries'.2
  case raw.tcp => exact absurd carries' carries.1
  case raw.udp => exact absurd carries' carries.2

theorem Segment.conforms_congr {other : Segment} (carries : segment.Carries tc.fiveTuple.l4Protocol)
    (carries' : other.Carries tc.fiveTuple.l4Protocol)
    (same : segment.compressed tc.compressionMode = other.compressed tc.compressionMode)
    (short : segment.bytes.length < 65536) : segment.Conforms tc ↔ other.Conforms tc := by
  have rebuilt := @rebuild_congr tc.fiveTuple _ _ _ _ carries carries' same
  have lengths := congrArg (fun segment : Segment => segment.bytes.length) rebuilt
  simp only [rebuild_length] at lengths
  rw [← conforms_iff carries short, ← conforms_iff carries' (by omega), rebuilt]

theorem CarriedIpv4.bytes_congr {carried other : CarriedIpv4} {rest rest'}
    (same : carried.bytes ++ rest = other.bytes ++ rest') :
    carried.headerWords = other.headerWords ∧ carried.fragField = other.fragField ∧ rest = rest' := by
  simp only [bytes, append_assoc, cons_append, nil_append, cons.injEq] at same
  obtain ⟨flags, _, same⟩ := same
  obtain ⟨_, same⟩ := Layout.u16.encode_inj same
  have words : carried.headerWords = other.headerWords := by rw [headerWords, flags, headerWords]
  have present : carried.fragInfoPresent ↔ other.fragInfoPresent := by rw [fragInfoPresent, flags, fragInfoPresent]
  by_cases shown : other.fragInfoPresent
  · simp only [present.mpr shown, shown, if_true] at same
    obtain ⟨offset, same⟩ := Layout.u16.encode_inj same
    refine ⟨words, ?_, (cons.inj same).2⟩
    rw [fragField, fragField, if_pos (present.mpr shown), if_pos shown, offset, flags]
  · have hidden : ¬ carried.fragInfoPresent := fun some => shown (present.mp some)
    simp only [hidden, shown, if_false, nil_append] at same
    refine ⟨words, ?_, (cons.inj same).2⟩
    rw [fragField, fragField, if_neg hidden, if_neg shown, flags]

private theorem vhl_restored (byte : UInt8) :
    ((((4 : UInt8) <<< 4) ||| (byte >>> 4)) &&& ipVersionMask) >>> 4 = 4 ∧
      (((4 : UInt8) <<< 4) ||| (byte >>> 4)) &&& ipv4HeaderLengthMask = byte >>> 4 := by
  have key : ∀ n < 256, ((64 ||| (n >>> 4)) &&& 240) >>> 4 = 4 ∧ (64 ||| (n >>> 4)) &&& 15 = n >>> 4 := by decide +kernel
  obtain ⟨version, words⟩ := key byte.toNat byte.toNat_lt
  constructor
  · apply UInt8.toNat_inj.mp
    simpa [ipVersionMask] using version
  · apply UInt8.toNat_inj.mp
    simpa [ipv4HeaderLengthMask] using words

theorem IpAddress.isV4_iff (address : IpAddress) : address.isV4 = true ↔ address = .newFromV4 address.readAsV4 := by
  rw [isV4, beq_iff_eq]
  exact ⟨fun same => by rw [newFromV4, readAsV4, ← same], fun same => congrArg upper same⟩

namespace CarriedIpv4
variable {carried : CarriedIpv4} {region : List UInt8}

theorem header_length : (carried.header ft region).headerLength = carried.headerWords * 4 := by
  rw [Ipv4Header.headerLength, headerWords, ← (vhl_restored carried.hlZdpflags).2]
  rfl

theorem rebuild_valid (base : 5 ≤ carried.headerWords) : OnesComplement.checksum
    ((Ipv4Header.layout.encode (carried.rebuild ft region) ++ region).take (carried.headerWords * 4)) = 0 := by
  have long : 20 ≤ (carried.header ft region).headerLength := by
    rw [header_length]
    omega
  have fresh : carried.rebuild ft region = (carried.header ft region).refreshed region := by
    rw [rebuild, Ipv4Header.refreshed, header_length]
    rfl
  have valid := ((Ipv4Header.refreshed_checksum_iff long).mp (Eq.refl ((carried.header ft region).refreshed region).headerChecksum)).1
  rw [header_length] at valid
  rw [fresh]
  exact valid

theorem accepts_header_iff (inside : carried.headerWords * 4 ≤ 20 + region.length) (short : 20 + region.length < 65536) :
    AcceptsIpv4 (carried.rebuild ft region) (Ipv4Header.layout.encode (carried.rebuild ft region) ++ region) ↔
      5 ≤ carried.headerWords ∧ carried.fragField &&& fragmentOffsetMask = 0 ∧ carried.fragField &&& moreFragmentsMask = 0 := by
  have words : (carried.rebuild ft region).headerLength = carried.headerWords * 4 := @header_length ft carried region
  have length : (Ipv4Header.layout.encode (carried.rebuild ft region) ++ region).length = region.length + 20 := by
    rw [length_append, encode_length, Nat.add_comm]
    rfl
  constructor
  · intro accepts
    have base := accepts.base
    rw [words, show Ipv4Header.layout.size = 20 from rfl] at base
    exact ⟨by omega, accepts.offset, accepts.last⟩
  · rintro ⟨base, offset, last⟩
    refine ⟨?_, ?_, ?_, offset, last, ?_⟩
    · rw [words, show Ipv4Header.layout.size = 20 from rfl]
      omega
    · rw [words, length]
      omega
    · rw [words]
      exact rebuild_valid base
    · rw [length]
      exact UInt16.toNat_ofNat_of_lt' (show region.length + 20 < 65536 by omega)

theorem accepts_iff (l3Type : tc.fiveTuple.l3Type = .ipv4) (inside : carried.headerWords * 4 ≤ 20 + region.length)
    (short : 20 + region.length < 65536) :
    (∃ ft, Accepts (classify ft₀ (Ipv4Header.layout.encode (carried.rebuild tc.fiveTuple region) ++ region)) ft ∧
        tc.classify5t ft = true) ↔
      (5 ≤ carried.headerWords ∧ carried.fragField &&& fragmentOffsetMask = 0 ∧ carried.fragField &&& moreFragmentsMask = 0) ∧
      (tc.fiveTuple.srcAddress.isV4 ∧ tc.fiveTuple.dstAddress.isV4) ∧
      MatchesL4 tc (region.drop (carried.headerWords * 4 - 20)) := by
  have size : (Ipv4Header.layout.encode (carried.rebuild tc.fiveTuple region)).length = 20 := encode_length _ _
  have words : (carried.rebuild tc.fiveTuple region).headerLength = carried.headerWords * 4 :=
    @header_length tc.fiveTuple carried region
  have version : getIpVersion (Ipv4Header.layout.encode (carried.rebuild tc.fiveTuple region) ++ region) = .ok 4 :=
    congrArg ok (vhl_restored carried.hlZdpflags).1
  have network : SameNetwork tc.fiveTuple { ft₀ with
      l3Type := .ipv4
      srcAddress := .newFromV4 (carried.rebuild tc.fiveTuple region).srcAddress
      dstAddress := .newFromV4 (carried.rebuild tc.fiveTuple region).dstAddress } ↔
      tc.fiveTuple.srcAddress.isV4 ∧ tc.fiveTuple.dstAddress.isV4 := by
    rw [IpAddress.isV4_iff, IpAddress.isV4_iff]
    exact ⟨fun same => ⟨same.srcAddress, same.dstAddress⟩, fun same => ⟨l3Type, same.1, same.2⟩⟩
  have rest (base : 5 ≤ carried.headerWords) :
      (Ipv4Header.layout.encode (carried.rebuild tc.fiveTuple region) ++ region).drop
        (carried.rebuild tc.fiveTuple region).headerLength = region.drop (carried.headerWords * 4 - 20) := by
    rw [words, drop_append, drop_of_length_le (by omega), size, nil_append]
  simp only [classify_accepts, version, ok.injEq, show (4 : UInt8) ≠ 6 by decide, true_and, false_and, or_false]
  constructor
  · rintro ⟨ft, accepts, matched⟩
    obtain ⟨header, region', whole, checked, accepts⟩ := classifyIpv4_accepts.mp accepts
    obtain ⟨rfl, rfl⟩ := Ipv4Header.layout.encode_inj whole
    have header := (accepts_header_iff inside short).mp checked
    rw [rest header.1] at accepts
    obtain ⟨same, l4⟩ := nextHeader_matches_iff.mp ⟨ft, accepts, matched⟩
    exact ⟨header, network.mp same, l4⟩
  · rintro ⟨header, addresses, l4⟩
    obtain ⟨ft, accepts, matched⟩ := nextHeader_matches_iff.mpr ⟨network.mpr addresses, l4⟩
    rw [← rest header.1] at accepts
    exact ⟨ft, classifyIpv4_accepts.mpr ⟨_, region, rfl, (accepts_header_iff inside short).mpr header, accepts⟩, matched⟩

end CarriedIpv4

/-- A packet is accepted as what its version says. -/
theorem accepts_l3Type {body} (accepts : Accepts (classify ft₀ body) ft) :
    ft.l3Type = .ipv4 ∧ getIpVersion body = .ok 4 ∨ ft.l3Type = .ipv6 ∧ getIpVersion body = .ok 6 := by
  rcases classify_accepts.mp accepts with ⟨version, accepts⟩ | ⟨version, accepts⟩
  · obtain ⟨_, _, _, _, accepts⟩ := classifyIpv4_accepts.mp accepts
    exact .inl ⟨(classifyNextHeader_suffix accepts).1.l3Type, version⟩
  · obtain ⟨_, _, _, _, accepts⟩ := classifyIpv6_accepts.mp accepts
    exact .inr ⟨(classifyNextHeader_suffix accepts).1.l3Type, version⟩

theorem Compress.CompressedIpv6Header.accepts_iff {carried : CompressedIpv6Header} {region}
    (l3Type : tc.fiveTuple.l3Type = .ipv6) (short : region.length < 65536) :
    (∃ ft, Accepts (classify ft₀ (Ipv6Header.layout.encode (carried.rebuild tc.fiveTuple region) ++ region)) ft ∧
        tc.classify5t ft = true) ↔
      (carried.versionAndTcUpper &&& ipVersionMask) >>> 4 = 6 ∧ tc.fiveTuple.srcAddress.isV4 = false ∧
      tc.fiveTuple.dstAddress.isV4 = false ∧ MatchesL4 tc region := by
  have version : getIpVersion (Ipv6Header.layout.encode (carried.rebuild tc.fiveTuple region) ++ region) =
    .ok ((carried.versionAndTcUpper &&& ipVersionMask) >>> 4) := rfl
  have network : SameNetwork tc.fiveTuple { ft₀ with
      l3Type := .ipv6, srcAddress := tc.fiveTuple.srcAddress, dstAddress := tc.fiveTuple.dstAddress } := ⟨l3Type, rfl, rfl⟩
  have length : (carried.rebuild tc.fiveTuple region).payloadLength.toNat = region.length := UInt16.toNat_ofNat_of_lt' short
  constructor
  · rintro ⟨ft, accepts, matched⟩
    have determined := classify5t_iff.mp matched
    rcases classify_accepts.mp accepts with ⟨four, _⟩ | ⟨six, accepts⟩
    · rcases accepts_l3Type accepts with ⟨other, _⟩ | ⟨_, six⟩
      · rw [determined.l3Type, other] at l3Type
        cases l3Type
      · cases four.symm.trans six
    · obtain ⟨header, region', whole, checked, accepts⟩ := classifyIpv6_accepts.mp accepts
      obtain ⟨rfl, rfl⟩ := Ipv6Header.layout.encode_inj whole
      rw [version, ok.injEq] at six
      exact ⟨six, checked.srcAddress, checked.dstAddress, (nextHeader_matches_iff.mp ⟨ft, accepts, matched⟩).2⟩
  · rintro ⟨six, src, dst, l4⟩
    obtain ⟨ft, accepts, matched⟩ := nextHeader_matches_iff.mpr ⟨network, l4⟩
    have notJumbo : ¬ ((carried.rebuild tc.fiveTuple region).payloadLength = 0 ∧
        (carried.rebuild tc.fiveTuple region).nextHeader = 0) := by
      rintro ⟨_, (hopopt : tc.fiveTuple.l4Protocol = 0)⟩
      obtain ⟨_, _, transport, _⟩ := l4
      exact transport.direct (.inl (congrArg headerKind hopopt))
    refine ⟨ft, classify_accepts.mpr (.inr ⟨version.trans (congrArg ok six), ?_⟩), matched⟩
    exact classifyIpv6_accepts.mpr ⟨_, region, rfl, ⟨src, dst, notJumbo, length⟩, accepts⟩

namespace Fastpath
variable {blake3 : Blake3} {saidSize : Nat} {asm : Assembly} {received out : Packet} {key : Option MicvKey} {tetherId : StreamId}

theorem actorInput_queued (dlt : asm.dlt tetherId = some ⟨tc, key⟩)
    (queued : actorInput blake3 saidSize asm tetherId received = .ok (.actorInput out)) :
    ∃ compressed mac, received.body = replicate saidSize 0 ++ (compressed ++ mac) ∧ mac.length = zdpA2aMacSize ∧
      expand tc.compressionMode tc.fiveTuple (holding
        { received with tailroom := received.tailroom + zdpA2aMacSize } (received.headroom + saidSize) compressed) = .ok out := by
  unfold actorInput at queued
  split at queued
  · cases queued
  obtain ⟨⟨said, rest⟩, read, framed⟩ := bind_ok.mp queued
  clear queued
  obtain ⟨bytes, whole, rfl⟩ := get_ok read
  obtain ⟨_, zero, queued⟩ := bind_ok.mp framed
  clear framed
  obtain rfl : said = .replicate saidSize 0 := of_decide_eq_true (check_ok.mp zero)
  split at queued
  · cases queued
  rename_i long
  rw [holding_body, Nat.not_lt] at long
  obtain ⟨_, shrink, queued⟩ := bind_ok.mp queued
  obtain ⟨_, _, shrink⟩ := bind_ok.mp shrink
  cases shrink
  simp only [dlt] at queued
  split at queued
  · cases queued
  obtain ⟨expanded, expand, queued⟩ := bind_ok.mp queued
  split at queued
  · cases queued
  cases queued
  refine ⟨bytes.take (bytes.length - zdpA2aMacSize), bytes.drop (bytes.length - zdpA2aMacSize), ?_, ?_, expand⟩
  · rw [take_append_drop, whole]
    exact congrArg (· ++ bytes) Vector.toList_replicate
  · rw [length_drop]
    omega

/-- Whether a queued packet is traffic of its tether depends on the header length and
the fragment field that it came with, and on what it carries behind them. -/
theorem actorInput_conforms_iff (dlt : asm.dlt tetherId = some ⟨tc, key⟩)
    (fits : received.headroom + received.body.length < 65536)
    (queued : actorInput blake3 saidSize asm tetherId received = .ok (.actorInput out)) :
    (∃ ft, Accepts (classify ft₀ out.body) ft ∧ tc.classify5t ft = true) ↔
      ∃ compressed mac, received.body = List.replicate saidSize 0 ++ (compressed ++ mac) ∧ mac.length = zdpA2aMacSize ∧
        Conforming tc compressed := by
  obtain ⟨compressed, mac, body, length, expand⟩ := actorInput_queued dlt queued
  have unique : (∃ compressed mac, received.body = List.replicate saidSize 0 ++ (compressed ++ mac) ∧
      mac.length = zdpA2aMacSize ∧ Conforming tc compressed) ↔ Conforming tc compressed := by
    constructor
    · rintro ⟨compressed', mac', body', length', conforming⟩
      have same := List.append_cancel_left (body.symm.trans body')
      obtain ⟨rfl, _⟩ := List.append_inj' same (length.trans length'.symm)
      exact conforming
    · exact fun conforming => ⟨compressed, mac, body, length, conforming⟩
  rw [unique]
  have room := congrArg List.length body
  rw [List.length_append, List.length_append, List.length_replicate, length] at room
  cases l3Type : tc.fiveTuple.l3Type with
  | ipv4 =>
    rw [Compress.expand, l3Type] at expand
    obtain ⟨carried, segment, whole, carries, inside, fit⟩ := Compress.expandIpv4_carried expand
    simp only [holding_body, holding_headroom] at whole fit
    subst whole
    have rebuilt := @Segment.rebuild_length tc.compressionMode tc.fiveTuple segment
    rw [Compress.expandIpv4_ok carries carried (by omega) inside] at expand
    obtain rfl := ok.inj expand
    have split : (5 ≤ carried.headerWords ∧ MatchesL4 tc
        ((segment.rebuild tc.compressionMode tc.fiveTuple).bytes.drop (carried.headerWords * 4 - 20))) ↔
        carried.headerWords = 5 ∧ segment.Conforms tc ∨ 5 < carried.headerWords ∧ MatchesL4 tc
          ((segment.rebuild tc.compressionMode tc.fiveTuple).bytes.drop (carried.headerWords * 4 - 20)) := by
      rcases Nat.lt_trichotomy carried.headerWords 5 with few | five | many
      · exact iff_of_false (by omega) (by omega)
      · rw [five, ← conforms_iff carries (by omega)]
        simp
      · simp only [many, Nat.le_of_lt many, Nat.ne_of_gt many, true_and, false_and, false_or]
    rw [holding_body, CarriedIpv4.accepts_iff l3Type (by omega) (by omega), Conforming, l3Type]
    constructor
    · rintro ⟨⟨base, offset, last⟩, ⟨src, dst⟩, l4⟩
      exact ⟨carried, segment, rfl, carries, src, dst, offset, last, split.mp ⟨base, l4⟩⟩
    rintro ⟨carried', segment', same, carries', src, dst, offset, last, conforms⟩
    obtain ⟨words, field, bytes⟩ := CarriedIpv4.bytes_congr same
    rw [← words, ← conforms_congr carries carries' bytes (by omega),
      ← @Segment.rebuild_congr tc.fiveTuple _ _ _ _ carries carries' bytes] at conforms
    rw [← field] at offset last
    obtain ⟨base, l4⟩ := split.mpr conforms
    exact ⟨⟨base, offset, last⟩, ⟨src, dst⟩, l4⟩
  | ipv6 =>
    rw [Compress.expand, l3Type] at expand
    obtain ⟨carried, segment, whole, carries, fit⟩ := Compress.expandIpv6_carried expand
    simp only [holding_body, holding_headroom] at whole fit
    subst whole
    have rebuilt := @Segment.rebuild_length tc.compressionMode tc.fiveTuple segment
    rw [List.length_append, encode_length, show Compress.CompressedIpv6Header.layout.size = 5 from rfl] at fit room
    rw [Compress.expandIpv6_ok carries carried (by omega)] at expand
    obtain rfl := ok.inj expand
    rw [holding_body, Compress.CompressedIpv6Header.accepts_iff l3Type (by omega), conforms_iff carries (by omega),
      Conforming, l3Type]
    constructor
    · rintro ⟨version, src, dst, conforms⟩
      exact ⟨carried, segment, rfl, carries, version, src, dst, conforms⟩
    rintro ⟨carried', segment', same, carries', version, src, dst, conforms⟩
    obtain ⟨rfl, bytes⟩ := Compress.CompressedIpv6Header.layout.encode_inj same
    exact ⟨version, src, dst, (conforms_congr carries carries' bytes (by omega)).mpr conforms⟩
  | other code =>
    rw [Conforming, l3Type]
    refine iff_of_false ?_ id
    rintro ⟨ft, accepts, matched⟩
    have other := (classify5t_iff.mp matched).l3Type
    rw [l3Type] at other
    rcases accepts_l3Type accepts with ⟨four, _⟩ | ⟨six, _⟩
    · cases other.trans four
    · cases other.trans six

/-- A packet of the DNS tether that declares one word of IP options. -/
def craftedPacket : Packet := { sampleSent with
  body := [0, 0x60, 0, 0, 0, 64, 0x13, 0x88, 0, 22, 0, 8, 0, 0, 64, 17, 0x52, 0x0e, 10, 0, 0, 1] }

theorem craftedPacket_queued :
    ∃ out, actorInput sampleHash 1 sampleEgress 7 craftedPacket = .ok (.actorInput out) ∧
      out.body = Ipv4Header.layout.encode
          { queryHeader with vhl := 0x46, totalLength := 32, fragOffset := 0, headerChecksum := 0x520e } ++
        ([0x13, 0x88, 0, 53] ++ UdpHeader.layout.encode ⟨12, 22, 8, 0⟩) :=
  ⟨_, rfl, rfl⟩

theorem actorInput_conforms_crafted : ∃ out, sampleEgress.dlt 7 = some ⟨sampleTc, none⟩ ∧
    craftedPacket.headroom + craftedPacket.body.length < 65536 ∧
    actorInput sampleHash 1 sampleEgress 7 craftedPacket = .ok (.actorInput out) ∧
    ((∃ ft, Accepts (classify Compress.query out.body) ft ∧ sampleTc.classify5t ft = true) ↔
      ∃ compressed mac, craftedPacket.body = List.replicate 1 0 ++ (compressed ++ mac) ∧ mac.length = zdpA2aMacSize ∧
        Conforming sampleTc compressed) := by
  obtain ⟨out, queued, _⟩ := craftedPacket_queued
  exact ⟨out, rfl, by decide, queued, actorInput_conforms_iff rfl (by decide) queued⟩

/-- It reaches port 22, on a tether for port 53. -/
theorem actorInput_wrongPort : ∃ out ft, actorInput sampleHash 1 sampleEgress 7 craftedPacket = .ok (.actorInput out) ∧
    Accepts (classify Compress.query out.body) ft ∧ ft.dstPort = 22 ∧ sampleTc.fiveTuple.dstPort = 53 ∧
    sampleTc.classify5t ft = false := by
  obtain ⟨out, queued, body⟩ := craftedPacket_queued
  refine ⟨out, { query with srcPort := 12, dstPort := 22 }, queued, ?_, rfl, rfl, by decide⟩
  rw [body]
  refine classify_accepts.mpr (.inl ⟨rfl, classifyIpv4_accepts.mpr ⟨_, _, rfl, ?_, ?_⟩⟩)
  · constructor <;> decide
  · exact (classifyNextHeader_accepts (by decide)).mpr
      ⟨⟨rfl, rfl, rfl⟩, rfl, ⟨12, 22, 8, 0⟩, [], rfl, .inl rfl, rfl, rfl, rfl⟩

end Fastpath
end ZprCore.Datapath
