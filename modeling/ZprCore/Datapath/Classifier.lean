import ZprCore.Datapath.Packet

/-! Packet classification (`classifier.rs`). A classifier fills in a five-tuple as far
as it gets and returns what it made of the packet or why it rejected it. -/

namespace ZprCore.Datapath
open Panic

inductive ClassifierResult where
  | ok | nonIp | unclassifiedL4 | firstFragment | subsequentFragment
  deriving DecidableEq, Repr

structure ClassifierOptions where
  ignoreTruncatedPackets : Bool := false
  ignoreBadChecksums : Bool := false

def ClassifierOptions.validateChecksums (options : ClassifierOptions) : Bool :=
  !options.ignoreBadChecksums && !options.ignoreTruncatedPackets

/-- Whether a length differs from the declared one in a way that is not allowed. -/
def ClassifierOptions.lengthError (options : ClassifierOptions) (actual declared : Nat) : Bool :=
  (!options.ignoreTruncatedPackets && actual < declared) || actual > declared

abbrev Classified := Except String ClassifierResult × FiveTuple

namespace Classifier
variable {body rest : List UInt8} {next : UInt8} (ft : FiveTuple)

def ipVersionMask : UInt8 := 0xF0
def ipv4HeaderLengthMask : UInt8 := 0x0F
def fragmentOffsetMask : UInt16 := 0x1FFF
def moreFragmentsMask : UInt16 := 0x2000
def v6FragOffsetMask : UInt16 := 0xFFF8
def noNextHeader : UInt8 := 59

def packetLengthError : Except String ClassifierResult := .error "Packet length error"
def badL4Checksum : Except String ClassifierResult := .error "Bad L4 checksum"

def getIpVersion (body : List UInt8) : Except Panic UInt8 := do
  return ((← Panic.get body 0) &&& ipVersionMask) >>> 4

def validateInetL4ChecksumWith5t (data : List UInt8) : Bool :=
  validateInetL4Checksum ft.l3Type ft.srcAddress ft.dstAddress ft.l4Protocol data

def classifyUnclassified : Classified :=
  (.ok .unclassifiedL4, { ft with srcPort := 0, dstPort := 0 })

section
variable (body : List UInt8) (options : ClassifierOptions)

def classifyIcmp : Except Panic Classified := do
  let header ← refFromPrefix IcmpHeader.layout (← slicePrefix body IcmpHeader.layout.size)
  let ft := { ft with srcPort := header.icmpType.toUInt16, dstPort := header.icmpCode.toUInt16 }
  if options.validateChecksums && OnesComplement.checksum body != 0 then return (badL4Checksum, ft)
  return (.ok .ok, ft)

def classifyIcmpv6 : Except Panic Classified := do
  let header ← refFromPrefix IcmpHeader.layout (← slicePrefix body IcmpHeader.layout.size)
  let ft := { ft with srcPort := header.icmpType.toUInt16, dstPort := header.icmpCode.toUInt16 }
  if options.validateChecksums && !validateInetL4ChecksumWith5t ft body then return (badL4Checksum, ft)
  return (.ok .ok, ft)

def classifyTcp : Except Panic Classified := do
  if TcpHeader.layout.size > body.length then return (packetLengthError, ft)
  if options.validateChecksums && !validateInetL4ChecksumWith5t ft body then return (badL4Checksum, ft)
  let header ← refFromPrefix TcpHeader.layout body
  let ft := { ft with srcPort := header.srcPort, dstPort := header.dstPort }
  let dataOffset := (header.dataOffsetAndReserved >>> 4) * 4
  if dataOffset.toNat < TcpHeader.layout.size || dataOffset.toNat > body.length then return (packetLengthError, ft)
  return (.ok .ok, ft)

def classifyUdp : Except Panic Classified := do
  if UdpHeader.layout.size > body.length then return (packetLengthError, ft)
  let header ← refFromPrefix UdpHeader.layout body
  if options.validateChecksums && header.checksum != 0 && !validateInetL4ChecksumWith5t ft body then
    return (badL4Checksum, ft)
  let ft := { ft with srcPort := header.srcPort, dstPort := header.dstPort }
  if options.lengthError body.length header.length.toNat then return (packetLengthError, ft)
  return (.ok .ok, ft)

end

def isOptionLengthError (remaining : Nat) (next : UInt8) (optionLength : Nat) : Bool :=
  optionLength > remaining || (next != noNextHeader && optionLength + 8 > remaining)

/-- An extension header: the next header it names and the bytes after it, unless
these do not fit. -/
def skipHeader (body : List UInt8) (optionLength : Nat) : Except Panic (Option (UInt8 × List UInt8)) := do
  let next ← Panic.get body 0
  if isOptionLengthError body.length next optionLength then return none
  return some (next, body.drop optionLength)

/-- The length counts multiples of 8 bytes, not including the first 8. -/
def skipV6Option (body : List UInt8) : Except Panic (Option (UInt8 × List UInt8)) := do
  skipHeader body (((← Panic.get body 1).toNat + 1) * 8)

/-- The legacy length counts multiples of 4 bytes. -/
def skipAuthHeader (body : List UInt8) : Except Panic (Option (UInt8 × List UInt8)) := do
  skipHeader body (((← Panic.get body 1).toNat + 2) * 4)

def fragOptionLength : Nat := 8

theorem skipHeader_shorter {optionLength : Nat} (positive : 0 < optionLength)
    (skipped : skipHeader body optionLength = .ok (some (next, rest))) : rest.length < body.length := by
  unfold skipHeader at skipped
  obtain ⟨first, found, skipped⟩ := bind_ok.mp skipped
  have nonempty := (List.getElem?_eq_some_iff.mp (get_ok.mp found)).1
  split at skipped
  · cases skipped
  cases skipped
  rw [List.length_drop]
  omega

theorem skipV6Option_shorter (skipped : skipV6Option body = .ok (some (next, rest))) : rest.length < body.length := by
  obtain ⟨length, _, skipped⟩ := bind_ok.mp skipped
  exact skipHeader_shorter (by omega) skipped

theorem skipAuthHeader_shorter (skipped : skipAuthHeader body = .ok (some (next, rest))) :
    rest.length < body.length := by
  obtain ⟨length, _, skipped⟩ := bind_ok.mp skipped
  exact skipHeader_shorter (by omega) skipped

inductive HeaderKind where
  | v6Option | icmp | tcp | udp | frag | auth | icmpv6 | unclassified
  deriving DecidableEq

def headerKind (protocol : IpProtocol) : HeaderKind :=
  if protocol = IpNumber.hopopt then .v6Option
  else if protocol = IpNumber.icmp then .icmp
  else if protocol = IpNumber.ipinip then .unclassified
  else if protocol = IpNumber.tcp then .tcp
  else if protocol = IpNumber.udp then .udp
  else if protocol = IpNumber.ipv6Route then .v6Option
  else if protocol = IpNumber.ipv6Frag then .frag
  else if protocol = IpNumber.ah then .auth
  else if protocol = IpNumber.ipv6Icmp then .icmpv6
  else if protocol = IpNumber.ipv6Opts then .v6Option
  else .unclassified

def classifyNextHeader (ft : FiveTuple) (body : List UInt8) (protocol : IpProtocol) (options : ClassifierOptions) :
    Except Panic Classified :=
  let ft := { ft with l4Protocol := protocol }
  match headerKind protocol with
  | .icmp => classifyIcmp ft body options
  | .tcp => classifyTcp ft body options
  | .udp => classifyUdp ft body options
  | .icmpv6 => classifyIcmpv6 ft body options
  | .unclassified => .ok (classifyUnclassified ft)
  | .v6Option =>
    match _skipped : skipV6Option body with
    | .error panic => .error panic
    | .ok none => .ok (packetLengthError, ft)
    | .ok (some (next, rest)) => classifyNextHeader ft rest next options
  | .auth =>
    match _skipped : skipAuthHeader body with
    | .error panic => .error panic
    | .ok none => .ok (packetLengthError, ft)
    | .ok (some (next, rest)) => classifyNextHeader ft rest next options
  | .frag =>
    match _skipped : skipHeader body fragOptionLength with
    | .error panic => .error panic
    | .ok none => .ok (packetLengthError, ft)
    | .ok (some (next, rest)) => do
      let (fragOffset, _) ← (Layout.u16.decode (body.drop 2)).elim (.error .bounds) .ok
      if fragOffset &&& v6FragOffsetMask ≠ 0 then return (.ok .subsequentFragment, ft)
      let (_, ft) ← classifyNextHeader ft rest next options
      return (.ok .firstFragment, ft)
termination_by body.length
decreasing_by
  · exact skipV6Option_shorter _skipped
  · exact skipAuthHeader_shorter _skipped
  · exact skipHeader_shorter (by decide) _skipped

section
variable (body : List UInt8) (options : ClassifierOptions)

def classifyIpv4 : Except Panic Classified := do
  let ft := { ft with l3Type := .ipv4 }
  if Ipv4Header.layout.size > body.length then return (packetLengthError, ft)
  let header ← refFromPrefix Ipv4Header.layout body
  let headerLength := (header.vhl &&& ipv4HeaderLengthMask).toNat * 4
  if headerLength < Ipv4Header.layout.size then return (packetLengthError, ft)
  if options.validateChecksums && headerLength > body.length then return (packetLengthError, ft)
  if options.validateChecksums && OnesComplement.checksum (body.take headerLength) != 0 then
    return (.error "Bad L3 checksum", ft)
  let ft := { ft with
    srcAddress := .newFromV4 header.srcAddress
    dstAddress := .newFromV4 header.dstAddress }
  if header.fragOffset &&& fragmentOffsetMask ≠ 0 then
    return (.ok .subsequentFragment, { ft with l4Protocol := header.proto })
  if options.lengthError body.length header.totalLength.toNat || headerLength > body.length then
    return (packetLengthError, ft)
  let (result, ft) ← classifyNextHeader ft (body.drop headerLength) header.proto options
  if header.fragOffset &&& moreFragmentsMask ≠ 0 then return (.ok .firstFragment, ft)
  return (result, ft)

def classifyIpv6 : Except Panic Classified := do
  let ft := { ft with l3Type := .ipv6 }
  if Ipv6Header.layout.size > body.length then return (packetLengthError, ft)
  let header ← refFromPrefix Ipv6Header.layout body
  if header.srcAddress.isV4 || header.dstAddress.isV4 then
    return (.error "IPv4-mapped IPv6 addresses not allowed", ft)
  let ft := { ft with srcAddress := header.srcAddress, dstAddress := header.dstAddress }
  if header.payloadLength = 0 ∧ header.nextHeader = 0 then return (.error "IPv6 jumbograms not supported", ft)
  if options.lengthError (body.length - Ipv6Header.layout.size) header.payloadLength.toNat then
    return (packetLengthError, ft)
  classifyNextHeader ft (body.drop Ipv6Header.layout.size) header.nextHeader options

def classifyL3 : Except Panic Classified := do
  if body.isEmpty then return (packetLengthError, ft)
  let version ← getIpVersion body
  if version = 4 then classifyIpv4 ft body options
  else if version = 6 then classifyIpv6 ft body options
  else return (.ok .nonIp, ft)

def classifyWithOptions :
    Except Panic Classified := classifyL3 ft body options

end

def classify (body : List UInt8) : Except Panic Classified := classifyWithOptions ft body {}

end Classifier
end ZprCore.Datapath
