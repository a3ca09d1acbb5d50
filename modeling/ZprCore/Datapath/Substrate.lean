import ZprCore.Datapath.Fastpath
import ZprCore.Mgmt.PeerTable

/-! The substrate side of the fastpath (`fastpath.rs`): datagrams from the substrate are
attributed to a link, decrypted and handed on; packets for a link are encrypted. Packet
capture leaves a packet as it is and is left out. -/

namespace ZprCore.Datapath
open Km Mgmt
variable {Transport Cert : Type}

def packetBufferSize : Nat := 4096 * 3

inductive DecryptError where
  | badStructure | unknownZpi | decryptionFailure | micvFailure | badChecksum

def DecryptError.counter : DecryptError → FastpathCounterType
  | .badStructure => .badStructure
  | .unknownZpi => .unknownZpi
  | .decryptionFailure => .decryptionFailure
  | .micvFailure => .micvFailure
  | .badChecksum => .badChecksum

namespace Substrate

def zpiHdrLen : Nat := ZdpZpiHeader.layout.size

variable (blake3 : Blake3) (snow : StatelessTransport Transport)

/-- The link MAC of a packet without its MAC. -/
def linkMac (key : HmacKey) (body : List UInt8) : List UInt8 :=
  (blake3.keyedHash key body).toList.take zdpPacketMacSize

def decryptNull (pkt : Packet) : Except Panic (Except DecryptError Packet) := do
  if pkt.body.length < zpiHdrLen + 2 then return .error .badStructure
  if OnesComplement.checksum (pkt.body.drop zpiHdrLen) ≠ 0 then return .error .badChecksum
  return .ok (← pkt.shrinkBy 2)

def decryptHmac (recvHmacKey : HmacKey) (pkt : Packet) : Except Panic (Except DecryptError Packet) := do
  if pkt.body.length < zdpPacketMacSize then return .error .badStructure
  let mac := pkt.body.drop (pkt.body.length - zdpPacketMacSize)
  let pkt ← pkt.shrinkBy zdpPacketMacSize
  if linkMac blake3 recvHmacKey pkt.body ≠ mac then return .error .micvFailure
  return .ok pkt

/-- The plaintext is written into the packet's own tailroom if it is sure to fit there. -/
def decryptFull (codec : Codec Transport) (padlen : Nat) (pkt : Packet) : Except Panic (Except DecryptError Packet) := do
  if pkt.body.length < zpiHdrLen then return .error .badStructure
  let encrLen := pkt.body.length - zpiHdrLen
  if encrLen < padlen then return .error .badStructure
  if pkt.tailroom ≥ encrLen then
    match codec.decryptTransportStateless snow (pkt.body.drop zpiHdrLen) pkt.tailroom with
    | .ok plaintext => return .ok (← pkt.adoptTailroomWithHeader zpiHdrLen plaintext)
    | .error _ => return .error .decryptionFailure
  else
    match codec.decryptTransportStateless snow (pkt.body.drop zpiHdrLen) packetBufferSize with
    | .ok plaintext => return .ok (← (← pkt.shrinkBy encrLen).put plaintext)
    | .error _ => return .error .decryptionFailure

def decryptWithSa (kmImpl : KmId) (zpiHdr : ZdpZpiHeader) (transportSa : KmTransportSA Transport Cert) (pkt : Packet) :
    Except Panic (Except DecryptError Packet) :=
  if zpiHdr.zpi = transportSa.recvZpis.hmac then decryptHmac blake3 transportSa.recvHmacKey pkt
  else if zpiHdr.zpi = transportSa.recvZpis.encr then
    decryptFull snow transportSa.codec (if kmImpl = .noise then noisePadlen else 0) pkt
  else .ok (.error .unknownZpi)

/-- The established association of the link a packet is attributed to. -/
def establishedSa (asm : Mgmt.Assembly Transport Cert) (link : LinkId) : Option (KmTransportSA Transport Cert) :=
  (asm.peerTable.get link).bind (·.transportSa)

def decrypt (asm : Mgmt.Assembly Transport Cert) (zpiHdr : ZdpZpiHeader) (pkt : Packet) :
    Except Panic (Except DecryptError Packet) :=
  match establishedSa asm pkt.ingressLinkId with
  | some transportSa => decryptWithSa blake3 snow asm.kmImpl zpiHdr transportSa pkt
  | none =>
    if zpiHdr.zpi ≠ zpi0 ∧ pkt.ingressLinkId ≠ linkIdUnknown then .ok (.error .unknownZpi)
    else decryptNull pkt

/-- What becomes of a datagram. -/
inductive Ingress where
  | dropped (counter : FastpathCounterType)
  | dispatchedWithAddr (peerSa : SubstrateAddr) (interfaceAddr : ScopedIpAddr) (pkt : Packet)
  | dispatchedWithLink (pkt : Packet)
  | forward (pkt : Packet)

/-- A packet that finds the management dispatch queue full is dropped. -/
def tryDispatch (queueFull : Bool) (dispatched : Ingress) : Ingress :=
  if queueFull then .dropped .queueBackpressure else dispatched

/-- What is done with a decrypted packet of a known link, by its type. -/
def ingressKnown (zpiHdr : ZdpZpiHeader) (pkt : Packet) (queueFull : Bool) : Except Panic Ingress := do
  let some (baseHdr, pkt) := pkt.readFromBuf ZdpBaseHeader.layout | return .dropped .badStructure
  -- In ZPI zero only key management messages are allowed.
  if zpiHdr.zpi = zpi0 ∧ baseHdr.packetType ≠ ZdpPacketType.keyManagement then return .dropped .otherError
  if baseHdr.packetType ≠ ZdpPacketType.transitPacket then
    let pkt ← pkt.pushHeader (ZdpBaseHeader.layout.encode baseHdr)
    return tryDispatch queueFull (.dispatchedWithLink pkt)
  let some (perFlowHdr, pkt) := pkt.readFromBuf ZdpPerFlowHeader.layout | return .dropped .badStructure
  return .forward { pkt with ingressStreamId := perFlowHdr.streamId.toNat }

section
variable (asm : Mgmt.Assembly Transport Cert) (peerSa : SubstrateAddr) (interfaceAddr : ScopedIpAddr) (pkt : Packet)
  (queueFull : Bool)

/-- The rest of ingress, once a datagram is attributed to a link. -/
def ingressAttributed : Except Panic Ingress := do
  let some (zpiHdr, _) := ZdpZpiHeader.layout.decode pkt.body | return .dropped .badStructure
  match ← decrypt blake3 snow asm zpiHdr pkt with
  | .error problem => return .dropped problem.counter
  | .ok pkt =>
    let some (_, pkt) := pkt.readFromBuf ZdpZpiHeader.layout | return .dropped .badStructure
    if pkt.ingressLinkId = linkIdUnknown then
      return tryDispatch queueFull (.dispatchedWithAddr peerSa interfaceAddr pkt)
    ingressKnown zpiHdr pkt queueFull

def substrateIngress : Except Panic Ingress :=
  ingressAttributed blake3 snow asm peerSa interfaceAddr
    { pkt with ingressLinkId := asm.peerTable.lookupPeer peerSa interfaceAddr } queueFull

end

def encapZpi (zpi : Zpi) (pkt : Packet) : Except Panic Packet := pkt.pushHeader [zpi]

/-- The two bytes of the checksum are swapped behind an odd number of bytes. -/
def encryptNull (pkt : Packet) : Except Panic Packet := do
  let csum := Layout.bytes16 (OnesComplement.checksum (pkt.body.drop zpiHdrLen))
  pkt.put (if (pkt.body.length - zpiHdrLen) % 2 ≠ 0 then csum.reverse else csum)

def encryptHmac (sendHmacKey : HmacKey) (pkt : Packet) : Except Panic Packet :=
  pkt.put (linkMac blake3 sendHmacKey pkt.body)

def encryptFull (codec : Codec Transport) (pkt : Packet) :
    Except Panic (Except EncryptionError Packet × Codec Transport) := do
  if pkt.body.length < zpiHdrLen then return (.error .parseError, codec)
  let encrLen := pkt.body.length - zpiHdrLen
  if pkt.tailroom ≥ encrLen + codec.maxOverhead then
    match ← codec.encryptTransportStateless snow (pkt.body.drop zpiHdrLen) pkt.tailroom with
    | (.ok ciphertext, codec) => return (.ok (← pkt.adoptTailroomWithHeader zpiHdrLen ciphertext), codec)
    | (.error problem, codec) => return (.error problem, codec)
  else
    match ← codec.encryptTransportStateless snow (pkt.body.drop zpiHdrLen) packetBufferSize with
    | (.ok ciphertext, codec) => return (.ok (← (← pkt.shrinkBy encrLen).put ciphertext), codec)
    | (.error problem, codec) => return (.error problem, codec)

/-- If substrate supports flow info, it is set from the flow hash of the packet. -/
def setFlowinfo (flowinfo : Nat) : SubstrateAddr → SubstrateAddr
  | .v4 ip port => .v4 ip port
  | .v6 ip port _ scopeId => .v6 ip port flowinfo scopeId

/-- Key management messages do not use transport security. -/
def egressSa (peer : PeerState Transport Cert) (packetType : ZdpPacketType) : Option (KmTransportSA Transport Cert) :=
  if packetType = ZdpPacketType.keyManagement then none else peer.transportSa

/-- The ZPI a packet is sent under. -/
def egressZpi (transportSa : Option (KmTransportSA Transport Cert)) (transit : Bool) : Except Panic Zpi :=
  match transportSa with
  | some sa => do
    let realZpi := if transit then sa.sendZpis.hmac else sa.sendZpis.encr
    Panic.check (realZpi ≠ zpi0) "real_zpi != ZPI_0"
    return realZpi
  | none => .ok zpi0

variable (asm : Mgmt.Assembly Transport Cert) (link : LinkId)

/-- Encrypts a packet with its ZPI header in place. -/
def egressEncrypt (transportSa : Option (KmTransportSA Transport Cert))
    (transit : Bool) (pkt : Packet) : Except Panic (Except EncryptionError Packet × Mgmt.Assembly Transport Cert) :=
  match transportSa with
  | none => do return (.ok (← encryptNull pkt), asm)
  | some sa =>
    if transit then do return (.ok (← encryptHmac blake3 sa.sendHmacKey pkt), asm)
    else do
      let (encrypted, codec) ← encryptFull snow sa.codec pkt
      return (encrypted, { asm with peerTable := asm.peerTable.setSecurityAssociation link (some { sa with codec }) })

/-- The packet to send and where to, `none` if the link has no peer. -/
def substrateEgressCommon (pkt : Packet) : Except Panic
      (Except EncryptionError (Option (Packet × SubstrateAddr × ScopedIpAddr)) × Mgmt.Assembly Transport Cert) := do
  let some (zdpHdr, _) := ZdpBaseHeader.layout.decode pkt.body | return (.error .parseError, asm)
  let transit := zdpHdr.packetType = ZdpPacketType.transitPacket
  let some peer := asm.peerTable.get link | return (.ok none, asm)
  let transportSa := egressSa peer zdpHdr.packetType
  let realZpi ← egressZpi transportSa transit
  let pkt ← encapZpi realZpi pkt
  match ← egressEncrypt blake3 snow asm link transportSa transit pkt with
  | (.error problem, asm) => return (.error problem, asm)
  | (.ok pkt, asm) =>
    return (.ok (some (pkt, setFlowinfo pkt.ingressStreamId peer.substrateAddr, peer.interfaceAddr)), asm)

end Substrate
end ZprCore.Datapath
