import ZprCore.Lib.OnesComplement

/-! Addresses, five-tuples and packet headers. Addresses and checksums come from the
network definitions the adapter is built on: an IPv4 address is kept as an
IPv4-mapped IPv6 address, and checksums are RFC 1071 sums. -/

namespace ZprCore.Datapath

inductive L3Type where
  | ipv4 | ipv6
  | other (code : UInt16)
  deriving DecidableEq, Repr

abbrev IpProtocol := UInt8

namespace IpNumber

def hopopt : IpProtocol := 0
def icmp : IpProtocol := 1
def ipinip : IpProtocol := 4
def tcp : IpProtocol := 6
def udp : IpProtocol := 17
def ipv6Route : IpProtocol := 43
def ipv6Frag : IpProtocol := 44
def ah : IpProtocol := 51
def ipv6Icmp : IpProtocol := 58
def ipv6Opts : IpProtocol := 60

end IpNumber

/-- Sixteen bytes, split where an embedded IPv4 address starts. -/
structure IpAddress where
  upper : Vector UInt8 12
  lower : Vector UInt8 4
  deriving DecidableEq, Repr

namespace IpAddress

def mapped : Vector UInt8 12 := #v[0, 0, 0, 0, 0, 0, 0, 0, 0, 0, 255, 255]

def newFromV4 (address : Vector UInt8 4) : IpAddress := ⟨mapped, address⟩

def isV4 (address : IpAddress) : Bool := address.upper == mapped

def readAsV4 (address : IpAddress) : Vector UInt8 4 := address.lower

def layout : Layout IpAddress :=
  (Layout.pair (.vector 12) (.vector 4)).via
    { toFun := fun (upper, lower) => ⟨upper, lower⟩
      invFun := fun address => (address.upper, address.lower) }

end IpAddress

/-- Addresses of sockets, as the standard library has them. -/
inductive SocketAddr where
  | v4 (ip : Vector UInt8 4) (port : UInt16)
  | v6 (ip : Vector UInt8 16) (port : UInt16) (flowinfo scopeId : UInt32)
  deriving DecidableEq

structure FiveTuple where
  srcAddress : IpAddress
  dstAddress : IpAddress
  l3Type : L3Type
  l4Protocol : IpProtocol
  srcPort : UInt16
  dstPort : UInt16
  deriving DecidableEq, Repr

structure Ipv4Header where
  vhl : UInt8
  dscp : UInt8
  totalLength : UInt16
  fragId : UInt16
  fragOffset : UInt16
  ttl : UInt8
  proto : UInt8
  headerChecksum : UInt16
  srcAddress : Vector UInt8 4
  dstAddress : Vector UInt8 4

namespace Ipv4Header
open Layout

def layout : Layout Ipv4Header :=
  (pair u8 (pair u8 (pair u16 (pair u16 (pair u16 (pair u8 (pair u8 (pair u16 (pair (vector 4) (vector 4)))))))))).via
    { toFun := fun (vhl, dscp, totalLength, fragId, fragOffset, ttl, proto, headerChecksum, srcAddress, dstAddress) =>
        ⟨vhl, dscp, totalLength, fragId, fragOffset, ttl, proto, headerChecksum, srcAddress, dstAddress⟩
      invFun := fun h => (h.vhl, h.dscp, h.totalLength, h.fragId, h.fragOffset, h.ttl, h.proto, h.headerChecksum,
        h.srcAddress, h.dstAddress) }

end Ipv4Header

structure Ipv6Header where
  versionAndTcUpper : UInt8
  tcLowerAndFlUpper : UInt8
  flLower : UInt16
  payloadLength : UInt16
  nextHeader : UInt8
  hopLimit : UInt8
  srcAddress : IpAddress
  dstAddress : IpAddress

namespace Ipv6Header
open Layout

def layout : Layout Ipv6Header :=
  (pair u8 (pair u8 (pair u16 (pair u16 (pair u8 (pair u8 (pair IpAddress.layout IpAddress.layout))))))).via
    { toFun := fun (versionAndTcUpper, tcLowerAndFlUpper, flLower, payloadLength, nextHeader, hopLimit, src, dst) =>
        ⟨versionAndTcUpper, tcLowerAndFlUpper, flLower, payloadLength, nextHeader, hopLimit, src, dst⟩
      invFun := fun h => (h.versionAndTcUpper, h.tcLowerAndFlUpper, h.flLower, h.payloadLength, h.nextHeader,
        h.hopLimit, h.srcAddress, h.dstAddress) }

end Ipv6Header

/-- The twelve bytes between the ports and the checksum are the sequence and
acknowledgement numbers, the data offset, the flags and the window. -/
structure TcpHeader where
  srcPort : UInt16
  dstPort : UInt16
  sequenceNumber : Vector UInt8 4
  acknowledgementNumber : Vector UInt8 4
  dataOffsetAndReserved : UInt8
  flags : UInt8
  windowSize : UInt16
  checksum : UInt16
  urgentPointer : UInt16

namespace TcpHeader
open Layout

def layout : Layout TcpHeader :=
  (pair u16 (pair u16 (pair (vector 4) (pair (vector 4) (pair u8 (pair u8 (pair u16 (pair u16 u16)))))))).via
    { toFun := fun (srcPort, dstPort, sequence, acknowledgement, offset, flags, window, checksum, urgent) =>
        ⟨srcPort, dstPort, sequence, acknowledgement, offset, flags, window, checksum, urgent⟩
      invFun := fun h => (h.srcPort, h.dstPort, h.sequenceNumber, h.acknowledgementNumber, h.dataOffsetAndReserved,
        h.flags, h.windowSize, h.checksum, h.urgentPointer) }

/-- The offset of the checksum field. -/
def checksumOffset : Nat := 16

end TcpHeader

structure UdpHeader where
  srcPort : UInt16
  dstPort : UInt16
  length : UInt16
  checksum : UInt16

namespace UdpHeader
open Layout

def layout : Layout UdpHeader :=
  (pair u16 (pair u16 (pair u16 u16))).via
    { toFun := fun (srcPort, dstPort, length, checksum) => ⟨srcPort, dstPort, length, checksum⟩
      invFun := fun h => (h.srcPort, h.dstPort, h.length, h.checksum) }

end UdpHeader

/-- ICMP and ICMPv6 share this header. -/
structure IcmpHeader where
  icmpType : UInt8
  icmpCode : UInt8
  checksum : UInt16

namespace IcmpHeader
open Layout

def layout : Layout IcmpHeader :=
  (pair u8 (pair u8 u16)).via
    { toFun := fun (icmpType, icmpCode, checksum) => ⟨icmpType, icmpCode, checksum⟩
      invFun := fun h => (h.icmpType, h.icmpCode, h.checksum) }

end IcmpHeader

variable (l3Type : L3Type) (src dst : IpAddress) (protocol : IpProtocol)

def pseudoHeader (length : Nat) : List UInt8 :=
  match l3Type with
  | .ipv4 => src.readAsV4.toList ++ dst.readAsV4.toList ++ [0, protocol] ++ Layout.bytes16 (.ofNat length)
  | .ipv6 | .other _ =>
    IpAddress.layout.encode src ++ IpAddress.layout.encode dst ++ Layout.bytes16 (.ofNat (length / 65536)) ++
      Layout.bytes16 (.ofNat length) ++ [0, 0, 0, protocol]

def inetL4Checksum (data : List UInt8) : UInt16 :=
  OnesComplement.checksum (pseudoHeader l3Type src dst protocol data.length ++ data)

def validateInetL4Checksum (data : List UInt8) : Bool :=
  inetL4Checksum l3Type src dst protocol data == 0

end ZprCore.Datapath
