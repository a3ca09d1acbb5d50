import ZprCore.Km.Association
import ZprCore.Lib.Channel
import ZprCore.Lib.Table
import ZprCore.Zdpr.Receiver

/-! The peer table (`peer_table.rs`), with what the substrate side of the fastpath and the
dispatch of management packets read of a peer. The slab's choice of a vacant slot is an
input, and a session number tells apart the peers that occupy a link id one after the
other. -/

namespace ZprCore.Mgmt
open Datapath Zdpr Km

inductive SubstrateAddr where
  | v4 (ip : Vector UInt8 4) (port : UInt16)
  | v6 (ip : Vector UInt8 16) (port : UInt16) (flowinfo scopeId : Nat)
  deriving DecidableEq

def SubstrateAddr.isUnspecified : SubstrateAddr → Bool
  | .v4 ip _ => ip == Vector.replicate 4 0
  | .v6 ip _ _ _ => ip == Vector.replicate 16 0

inductive ScopedIpAddr where
  | v4 (ip : Vector UInt8 4)
  | v6 (ip : Vector UInt8 16) (scopeId : Nat)
  deriving DecidableEq

def defaultZdprReceiveWindowSize : Nat := 32
def mgmtProcessorQueueSize : Nat := 16

/-- A packet in a management queue, with the sequence number in its metadata. -/
structure MgmtPacket where
  seqNum : Zdpr.SeqNum
  packet : Packet

/-- `kmRx` holds the messages for the key manager of the link, if it has one. -/
structure PeerState (Transport Cert : Type) where
  session : Nat
  substrateAddr : SubstrateAddr
  interfaceAddr : ScopedIpAddr
  transportSa : Option (KmTransportSA Transport Cert)
  kmRx : Option (Channel (List UInt8))
  zdprSend : Sender Packet
  zdprRecv : Receiver
  mgmtProcessor : Channel MgmtPacket

variable {Transport Cert : Type}

def PeerState.new (session : Nat) (substrateAddr : SubstrateAddr) (interfaceAddr : ScopedIpAddr) :
    Except Panic (PeerState Transport Cert) := do
  return {
    session, substrateAddr, interfaceAddr
    transportSa := none
    kmRx := none
    zdprSend := .new
    zdprRecv := ← Receiver.new defaultZdprReceiveWindowSize
    mgmtProcessor := .new mgmtProcessorQueueSize }

/-- Peers by link id, and the link ids of the addresses they are reached at. A link id
found by address is never zero. -/
structure PeerTable (Transport Cert : Type) where
  peerSlab : Table LinkId (PeerState Transport Cert)
  saToLink : Table (SubstrateAddr × ScopedIpAddr) { link : LinkId // link ≠ linkIdUnknown }

namespace PeerTable
variable (table : PeerTable Transport Cert)

/-- Slots are counted from one, so there is no peer at link id zero. -/
def get (link : LinkId) : Option (PeerState Transport Cert) :=
  if link = linkIdUnknown then none else table.peerSlab.get link

/-- The link id of an address, zero if it is not known. -/
def lookupPeer (substrateAddr : SubstrateAddr) (interfaceAddr : ScopedIpAddr) : LinkId :=
  match table.saToLink.get (substrateAddr, interfaceAddr) with
  | some link => link.val
  | none => linkIdUnknown

def modify (link : LinkId) (change : PeerState Transport Cert → PeerState Transport Cert) : PeerTable Transport Cert :=
  { table with peerSlab := table.peerSlab.modify link change }

/-- Internal links have no address. An address that already leads to a peer is an error
of the caller. -/
def insert (link : { link : LinkId // link ≠ linkIdUnknown }) (peer : PeerState Transport Cert) :
    Except Panic (PeerTable Transport Cert) := do
  let peerSlab := table.peerSlab.insert link.val peer
  if peer.substrateAddr.isUnspecified then return { table with peerSlab }
  Panic.check (table.saToLink.get (peer.substrateAddr, peer.interfaceAddr)).isNone "duplicate peer substrate address"
  return { peerSlab, saToLink := table.saToLink.insert (peer.substrateAddr, peer.interfaceAddr) link }

def remove (link : LinkId) : PeerTable Transport Cert :=
  match table.get link with
  | none => table
  | some peer => {
    peerSlab := table.peerSlab.erase link
    saToLink := table.saToLink.erase (peer.substrateAddr, peer.interfaceAddr) }

def setSecurityAssociation (link : LinkId) (sa : Option (KmTransportSA Transport Cert)) : PeerTable Transport Cert :=
  table.modify link fun peer => { peer with transportSa := sa }

end PeerTable

/-- A packet handed to the substrate egress queue: one that is about another packet, or a
packet of the link's sender. -/
inductive Egress where
  | zdpr (link : LinkId) (packetType : ZdpPacketType) (seqNum : Zdpr.SeqNum)
  | packet (link : LinkId) (seqNum : Zdpr.SeqNum) (packet : Packet)

/-- `kmType` reads the key management type of a message. -/
structure Assembly (Transport Cert : Type) where
  peerTable : PeerTable Transport Cert
  kmImpl : KmId
  kmType : UInt16 → KmId
  kmLinkQueueSize : Nat
  mgmtSubstrateEgress : List Egress

end ZprCore.Mgmt
