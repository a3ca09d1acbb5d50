import ZprCore.Datapath.Compress

/-! What header compression means for the part of a packet after the IP header. A
segment is the part seen as the transport protocol in charge sees it; compression
omits fields of a segment and expansion rebuilds it from a traffic classifier. -/

namespace ZprCore.Datapath

inductive Segment where
  | tcp (header : TcpHeader) (payload : List UInt8)
  | udp (header : UdpHeader) (payload : List UInt8)
  | raw (bytes : List UInt8)

/-- The part of a TCP header that is always carried. -/
structure TcpCore where
  sequenceNumber : Vector UInt8 4
  acknowledgementNumber : Vector UInt8 4
  dataOffsetAndReserved : UInt8
  flags : UInt8
  windowSize : UInt16

namespace TcpCore
open Layout

def layout : Layout TcpCore :=
  (pair (vector 4) (pair (vector 4) (pair u8 (pair u8 u16)))).via
    { toFun := fun (sequence, acknowledgement, offset, flags, window) =>
        ⟨sequence, acknowledgement, offset, flags, window⟩
      invFun := fun c => (c.sequenceNumber, c.acknowledgementNumber, c.dataOffsetAndReserved, c.flags, c.windowSize) }

end TcpCore

def TcpHeader.core (header : TcpHeader) : TcpCore where
  sequenceNumber := header.sequenceNumber
  acknowledgementNumber := header.acknowledgementNumber
  dataOffsetAndReserved := header.dataOffsetAndReserved
  flags := header.flags
  windowSize := header.windowSize

/-- The ports a compressed packet carries. -/
def portBytes (mode : CompressionMode) (srcPort dstPort : UInt16) : List UInt8 :=
  (if mode.hasSource then [] else Layout.bytes16 srcPort) ++
    (if mode.hasDestination then [] else Layout.bytes16 dstPort)

namespace Segment

def bytes : Segment → List UInt8
  | .tcp header payload => TcpHeader.layout.encode header ++ payload
  | .udp header payload => UdpHeader.layout.encode header ++ payload
  | .raw bytes => bytes

variable (mode : CompressionMode)

def compressed : Segment → List UInt8
  | .tcp header payload =>
    portBytes mode header.srcPort header.dstPort ++ TcpCore.layout.encode header.core ++
      Layout.bytes16 header.urgentPointer ++ payload
  | .udp header payload =>
    portBytes mode header.srcPort header.dstPort ++ Layout.bytes16 header.checksum ++ payload
  | .raw bytes => bytes

/-- The segment is of the kind that the protocol's compression expects. -/
def Carries (l4Protocol : IpProtocol) : Segment → Prop
  | .tcp .. => l4Protocol = IpNumber.tcp
  | .udp .. => l4Protocol = IpNumber.udp
  | .raw _ => l4Protocol ≠ IpNumber.tcp ∧ l4Protocol ≠ IpNumber.udp

def rebuildTcp (ft : FiveTuple) (header : TcpHeader) (payload : List UInt8) : TcpHeader :=
  let header := { header with
    srcPort := if mode.hasSource then ft.srcPort else header.srcPort
    dstPort := if mode.hasDestination then ft.dstPort else header.dstPort
    checksum := 0 }
  { header with
    checksum := inetL4Checksum ft.l3Type ft.srcAddress ft.dstAddress IpNumber.tcp
      (TcpHeader.layout.encode header ++ payload) }

def rebuildUdp (ft : FiveTuple) (header : UdpHeader) (payload : List UInt8) : UdpHeader :=
  { header with
    srcPort := if mode.hasSource then ft.srcPort else header.srcPort
    dstPort := if mode.hasDestination then ft.dstPort else header.dstPort
    length := .ofNat (payload.length + UdpHeader.layout.size) }

/-- The segment that expansion makes of a compressed one. -/
def rebuild (ft : FiveTuple) : Segment → Segment
  | .tcp header payload => .tcp (rebuildTcp mode ft header payload) payload
  | .udp header payload => .udp (rebuildUdp mode ft header payload) payload
  | .raw bytes => .raw bytes

end Segment

/-- What a compressed IPv4 packet carries of its IP header. -/
structure CarriedIpv4 where
  hlZdpflags : UInt8
  tos : UInt8
  fragId : UInt16
  fragOffset : UInt16
  ttl : UInt8

namespace CarriedIpv4
variable (carried : CarriedIpv4)

def fragInfoPresent : Prop := carried.hlZdpflags &&& Compress.zdpV4FragInfoPresent ≠ 0

instance (carried : CarriedIpv4) : Decidable carried.fragInfoPresent := inferInstanceAs (Decidable (_ ≠ _))

def bytes : List UInt8 :=
  [carried.hlZdpflags, carried.tos] ++ (Layout.bytes16 carried.fragId ++
    ((if carried.fragInfoPresent then Layout.bytes16 carried.fragOffset else []) ++ [carried.ttl]))

def headerWords : Nat := (carried.hlZdpflags >>> 4).toNat

variable (ft : FiveTuple) (segment : List UInt8)

/-- The header before its checksum is filled in. -/
def header : Ipv4Header where
  vhl := ((4 : UInt8) <<< 4) ||| (carried.hlZdpflags >>> 4)
  dscp := carried.tos
  totalLength := .ofNat (segment.length + Ipv4Header.layout.size)
  fragId := carried.fragId
  fragOffset := (if carried.fragInfoPresent then carried.fragOffset else 0) |||
    ((carried.hlZdpflags &&& 0x07).toUInt16 <<< 13)
  ttl := carried.ttl
  proto := ft.l4Protocol
  headerChecksum := 0
  srcAddress := ft.srcAddress.readAsV4
  dstAddress := ft.dstAddress.readAsV4

def rebuild : Ipv4Header :=
  { carried.header ft segment with
    headerChecksum := OnesComplement.checksum
      ((Ipv4Header.layout.encode (carried.header ft segment) ++ segment).take (carried.headerWords * 4)) }

end CarriedIpv4

/-- What compression keeps of an IPv4 header. -/
def Ipv4Header.carried (header : Ipv4Header) : CarriedIpv4 where
  hlZdpflags := ((header.vhl &&& Classifier.ipv4HeaderLengthMask) <<< 4) |||
    (if header.fragOffset &&& 0x1fff ≠ 0 then Compress.zdpV4FragInfoPresent else 0) |||
    (header.fragOffset >>> 13).toUInt8
  tos := header.dscp
  fragId := header.fragId
  fragOffset := header.fragOffset &&& 0x1fff
  ttl := header.ttl

def Ipv6Header.carried (header : Ipv6Header) : Compress.CompressedIpv6Header where
  versionAndTcUpper := header.versionAndTcUpper
  tcLowerAndFlUpper := header.tcLowerAndFlUpper
  flLower := header.flLower
  hopLimit := header.hopLimit

/-- The IPv6 header that expansion builds. -/
def Compress.CompressedIpv6Header.rebuild (carried : CompressedIpv6Header) (ft : FiveTuple) (segment : List UInt8) :
    Ipv6Header where
  versionAndTcUpper := carried.versionAndTcUpper
  tcLowerAndFlUpper := carried.tcLowerAndFlUpper
  flLower := carried.flLower
  payloadLength := .ofNat segment.length
  nextHeader := ft.l4Protocol
  hopLimit := carried.hopLimit
  srcAddress := ft.srcAddress
  dstAddress := ft.dstAddress

end ZprCore.Datapath
