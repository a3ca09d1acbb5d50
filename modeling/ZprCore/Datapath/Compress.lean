import ZprCore.Datapath.TrafficClassifier

/-! ZDP header compression (`compress.rs`). Compression drops the fields that the
traffic classifier or the packet length determine; expansion fills them in again. -/

namespace ZprCore.Datapath
namespace Compress

def zdpV4FragInfoPresent : UInt8 := 0b00001000

structure CompressedIpv6Header where
  versionAndTcUpper : UInt8
  tcLowerAndFlUpper : UInt8
  flLower : UInt16
  hopLimit : UInt8

namespace CompressedIpv6Header
open Layout

def layout : Layout CompressedIpv6Header :=
  (pair u8 (pair u8 (pair u16 u8))).via
    { toFun := fun (versionAndTcUpper, tcLowerAndFlUpper, flLower, hopLimit) =>
        ⟨versionAndTcUpper, tcLowerAndFlUpper, flLower, hopLimit⟩
      invFun := fun h => (h.versionAndTcUpper, h.tcLowerAndFlUpper, h.flLower, h.hopLimit) }

end CompressedIpv6Header

variable (mode : CompressionMode) (ft : FiveTuple) (l4Protocol : IpProtocol)

/-- The ports that the traffic classifier does not determine, pushed in front. -/
def pushPorts (srcPort dstPort : UInt16) (pkt : Packet) : Except Panic Packet := do
  let pkt ← if mode.hasDestination then pure pkt else pkt.pushU16 dstPort
  if mode.hasSource then pure pkt else pkt.pushU16 srcPort

section
variable (pkt : Packet)

/-- The ports, from the traffic classifier or from the packet. -/
def getPorts : Except Panic (UInt16 × UInt16 × Packet) := do
  let (srcPort, pkt) ← if mode.hasSource then pure (ft.srcPort, pkt) else pkt.getU16
  let (dstPort, pkt) ← if mode.hasDestination then pure (ft.dstPort, pkt) else pkt.getU16
  return (srcPort, dstPort, pkt)

def compressTcp : Except Panic Packet := do
  let (srcPort, pkt) ← pkt.getU16
  let (dstPort, pkt) ← pkt.getU16
  let pkt ← pkt.withBody (copyWithin pkt.body 0 (TcpHeader.checksumOffset - 4) 2)
  let pkt ← pkt.advance 2
  pushPorts mode srcPort dstPort pkt

def expandTcp : Except Panic Packet := do
  let (srcPort, dstPort, pkt) ← getPorts mode ft pkt
  let pkt ← pkt.allocZeroedHeadroom 2
  let pkt ← pkt.withBody (copyWithin pkt.body 2 (2 + TcpHeader.checksumOffset - 4) 0)
  let pkt ← pkt.pushU16 dstPort
  let pkt ← pkt.pushU16 srcPort
  let pkt ← pkt.withBody (mutFromPrefix TcpHeader.layout (fun header => { header with checksum := 0 }) pkt.body)
  let csum := inetL4Checksum ft.l3Type ft.srcAddress ft.dstAddress IpNumber.tcp pkt.body
  pkt.withBody (mutFromPrefix TcpHeader.layout (fun header => { header with checksum := csum }) pkt.body)

def compressUdp : Except Panic Packet := do
  let (srcPort, pkt) ← pkt.getU16
  let (dstPort, pkt) ← pkt.getU16
  let pkt ← pkt.advance 2
  pushPorts mode srcPort dstPort pkt

def expandUdp : Except Panic Packet := do
  let (srcPort, dstPort, pkt) ← getPorts mode ft pkt
  if pkt.body.length < 2 then throw .overflow
  let payloadLen := pkt.body.length - 2
  let pkt ← pkt.pushU16 (.ofNat (payloadLen + UdpHeader.layout.size))
  let pkt ← pkt.pushU16 dstPort
  pkt.pushU16 srcPort

def compressL4 : Except Panic Packet :=
  if l4Protocol = IpNumber.tcp then compressTcp mode pkt
  else if l4Protocol = IpNumber.udp then compressUdp mode pkt
  else .ok pkt

def expandL4 : Except Panic Packet :=
  if ft.l4Protocol = IpNumber.tcp then expandTcp mode ft pkt
  else if ft.l4Protocol = IpNumber.udp then expandUdp mode ft pkt
  else .ok pkt

def compressIpv4 : Except Panic Packet := do
  let header ← refFromPrefix Ipv4Header.layout pkt.body
  let hl := header.vhl &&& Classifier.ipv4HeaderLengthMask
  let fragFlags := header.fragOffset >>> 13
  let fragOffset := header.fragOffset &&& 0x1fff
  let pkt ← pkt.advance Ipv4Header.layout.size
  let pkt ← compressL4 mode l4Protocol pkt
  let pkt ← pkt.pushHeader [header.ttl]
  let pkt ← if fragOffset ≠ 0 then pkt.pushU16 fragOffset else pure pkt
  let pkt ← pkt.pushU16 header.fragId
  let hlZdpflags := (hl <<< 4) ||| (if fragOffset ≠ 0 then zdpV4FragInfoPresent else 0) ||| fragFlags.toUInt8
  pkt.pushHeader [hlZdpflags, header.dscp]

def expandIpv4 : Except Panic Packet := do
  let ((hlZdpflags, tos), pkt) ← pkt.get (Layout.pair .u8 .u8)
  let hl := hlZdpflags >>> 4
  let fragFlags := hlZdpflags &&& 0x07
  let (fragId, pkt) ← pkt.getU16
  let (fragOffset, pkt) ← if hlZdpflags &&& zdpV4FragInfoPresent ≠ 0 then pkt.getU16 else pure (0, pkt)
  let (ttl, pkt) ← pkt.getU8
  let pkt ← expandL4 mode ft pkt
  let pkt ← pkt.pushHeader (Ipv4Header.layout.encode {
    vhl := ((4 : UInt8) <<< 4) ||| hl
    dscp := tos
    totalLength := .ofNat (pkt.body.length + Ipv4Header.layout.size)
    fragId
    fragOffset := fragOffset ||| (fragFlags.toUInt16 <<< 13)
    ttl
    proto := ft.l4Protocol
    headerChecksum := 0
    srcAddress := ft.srcAddress.readAsV4
    dstAddress := ft.dstAddress.readAsV4 })
  let csum := OnesComplement.checksum (← slicePrefix pkt.body (hl.toNat <<< 2))
  pkt.withBody (mutFromPrefix Ipv4Header.layout (fun header => { header with headerChecksum := csum }) pkt.body)

def compressIpv6 : Except Panic Packet := do
  let header ← refFromPrefix Ipv6Header.layout pkt.body
  let pkt ← pkt.advance Ipv6Header.layout.size
  let pkt ← compressL4 mode l4Protocol pkt
  pkt.pushHeader (CompressedIpv6Header.layout.encode {
    versionAndTcUpper := header.versionAndTcUpper
    tcLowerAndFlUpper := header.tcLowerAndFlUpper
    flLower := header.flLower
    hopLimit := header.hopLimit })

def expandIpv6 : Except Panic Packet := do
  let header ← refFromPrefix CompressedIpv6Header.layout pkt.body
  let pkt ← pkt.advance CompressedIpv6Header.layout.size
  let pkt ← expandL4 mode ft pkt
  pkt.pushHeader (Ipv6Header.layout.encode {
    versionAndTcUpper := header.versionAndTcUpper
    tcLowerAndFlUpper := header.tcLowerAndFlUpper
    flLower := header.flLower
    payloadLength := .ofNat pkt.body.length
    nextHeader := ft.l4Protocol
    hopLimit := header.hopLimit
    srcAddress := ft.srcAddress
    dstAddress := ft.dstAddress })

end

def compress (l3Type : L3Type) (l4Protocol : IpProtocol) (pkt : Packet) : Except Panic Packet :=
  match l3Type with
  | .ipv4 => compressIpv4 mode l4Protocol pkt
  | .ipv6 => compressIpv6 mode l4Protocol pkt
  | .other _ => .ok pkt

def expand (pkt : Packet) : Except Panic Packet :=
  match ft.l3Type with
  | .ipv4 => expandIpv4 mode ft pkt
  | .ipv6 => expandIpv6 mode ft pkt
  | .other _ => .ok pkt

end Compress
end ZprCore.Datapath
