import ZprCore.Km.LinkState
import ZprCore.Mgmt.PeerTable
import ZprCore.Node.Tables
import ZprCore.Zdpr.Session

/-! A docking link through all its sessions (`link_state.rs`, `peer_table.rs`, `zdpr.rs`): the
link of an adapter, which is closed and started again, and the peers that a node makes for it
one after the other. A packet travels under the association of the peer that sends it, or in
the clear if there is none, and is read under the same association only. The network remembers
every packet ever sent. -/

namespace ZprCore.Mgmt
open Zdpr Km

inductive Side where
  | adapter | node
  deriving DecidableEq

def Side.other : Side → Side
  | .adapter => .node
  | .node => .adapter

/-- A peer, as far as a restart of its link goes. Peers are numbered in the order they are made. -/
structure DockPeer (Transport Cert Pkt : Type) where
  number : Nat
  link : LinkPeer Transport Cert
  pft : Table Node.StreamId Node.PftPep
  zdprSend : Sender Pkt
  zdprRecv : Receiver

namespace DockPeer
variable {Transport Cert Pkt : Type} (peer : DockPeer Transport Cert Pkt)

def new (number : Nat) (linkType : LinkType) : Except Panic (DockPeer Transport Cert Pkt) := do
  return {
    number
    link := .new linkType
    pft := ∅
    zdprSend := .new
    zdprRecv := ← Receiver.new defaultZdprReceiveWindowSize }

def clearPeerState : DockPeer Transport Cert Pkt := { peer with pft := ∅ }

def keyed (association : Nat) (sa : KmTransportSA Transport Cert) : DockPeer Transport Cert Pkt :=
  { peer with link := { peer.link with transportSa := some (association, sa) } }

def association : Option Nat := peer.link.transportSa.map (·.1)

end DockPeer

/-- A packet on the way, with the number of the peer that sent it. -/
structure Envelope (Pkt : Type) where
  origin : Side
  number : Nat
  association : Option Nat
  message : Message Pkt

/-- The number that a data or cancel packet carries, and whether it is a cancel packet. -/
def sequenced {Pkt : Type} : Message Pkt → Option (SeqNum × Bool)
  | .data seqNum _ => some (seqNum, false)
  | .cancel seqNum => some (seqNum, true)
  | .ack _ | .canceled _ => none

structure Docking (Transport Cert Pkt : Type) where
  ends : Side → Option (DockPeer Transport Cert Pkt)
  peers : Nat
  associations : Nat
  network : List (Envelope Pkt)

inductive DockStep (Transport Cert Pkt : Type) where
  | link (side : Side) (event : LinkEvent)
  | startTether
  | establish (adapterSa nodeSa : KmTransportSA Transport Cert)
  | call (side : Side) (op : SenderOp Pkt)
  | deliver (index : Nat) (queueFull : Bool)

namespace Docking
variable {Transport Cert Pkt : Type} (d : Docking Transport Cert Pkt) (side : Side)

def put (peer : Option (DockPeer Transport Cert Pkt)) : Docking Transport Cert Pkt :=
  { d with ends := Function.update d.ends side peer }

/-- The adapter has its peer from the configuration; the node has none yet. -/
def new : Except Panic (Docking Transport Cert Pkt) := do
  let adapter ← DockPeer.new 0 .adapterToNode
  return { ends := Function.update (fun _ => none) .adapter (some adapter), peers := 1, associations := 0, network := [] }

/-- The task that ends with `CloseDone` has dropped the keys of the link by then. -/
def processLinkStateEvent (event : LinkEvent) : Docking Transport Cert Pkt :=
  match d.ends side with
  | none => d
  | some peer =>
    let link := if event = .closeDone then { peer.link with transportSa := none, handle := none } else peer.link
    match link.processEvent event with
    | (_, some .dropPeer) => d.put side none
    | (link, some .dropLink) => d.put side (some { peer with link }.clearPeerState)
    | (link, _) => d.put side (some { peer with link })

/-- The node makes a peer for an adapter whose address leads to none. -/
def startTether : Except Panic (Docking Transport Cert Pkt) := do
  if (d.ends .node).isSome then return d
  let peer ← DockPeer.new d.peers .nodeToAdapter
  return { d with peers := d.peers + 1 }.put .node (some peer)

/-- The key managers of the two peers agree on an association. -/
def establish (adapterSa nodeSa : KmTransportSA Transport Cert) : Docking Transport Cert Pkt :=
  match d.ends .adapter, d.ends .node with
  | some adapter, some node =>
    if adapter.link.state = .keying ∧ node.link.state = .keying then
      ({ d with associations := d.associations + 1 }.put .adapter (some (adapter.keyed d.associations adapterSa))).put .node
        (some (node.keyed d.associations nodeSa))
    else d
  | _, _ => d

/-- A peer changes and sends. -/
def send (peer : DockPeer Transport Cert Pkt) (messages : List (Message Pkt)) : Docking Transport Cert Pkt :=
  { d.put side (some peer) with network := d.network ++ messages.map (⟨side, peer.number, peer.association, ·⟩) }

def call (op : SenderOp Pkt) : Except Panic (Docking Transport Cert Pkt) :=
  match d.ends side with
  | none => .ok d
  | some peer => do
    let (messages, zdprSend) ← peer.zdprSend.perform op
    return d.send side { peer with zdprSend } messages

def receive (peer : DockPeer Transport Cert Pkt) (queueFull : Bool) :
    Message Pkt → Except Panic (Docking Transport Cert Pkt)
  | .data seqNum _ => do
    let (disposition, zdprRecv) ← peer.zdprRecv.dispatchPacket seqNum queueFull
    return d.send side { peer with zdprRecv } (disposition.reply seqNum)
  | .cancel seqNum => do
    let (disposition, zdprRecv) ← peer.zdprRecv.processCancel seqNum
    return d.send side { peer with zdprRecv } (disposition.reply seqNum)
  | .ack seqNum => do
    let (_, _, zdprSend) ← peer.zdprSend.processAck seqNum
    return d.send side { peer with zdprSend } []
  | .canceled seqNum => do
    let (_, zdprSend) ← peer.zdprSend.processCanceled seqNum
    return d.send side { peer with zdprSend } []

def deliver (index : Nat) (queueFull : Bool) : Except Panic (Docking Transport Cert Pkt) :=
  match d.network[index]? with
  | none => .ok d
  | some envelope =>
    match d.ends envelope.origin.other with
    | none => .ok d
    | some peer =>
      if peer.association = envelope.association then d.receive envelope.origin.other peer queueFull envelope.message
      else .ok d

def step : DockStep Transport Cert Pkt → Except Panic (Docking Transport Cert Pkt)
  | .link side event => .ok (d.processLinkStateEvent side event)
  | .startTether => d.startTether
  | .establish adapterSa nodeSa => .ok (d.establish adapterSa nodeSa)
  | .call side op => d.call side op
  | .deliver index queueFull => d.deliver index queueFull

/-- The window size that a peer is told is the default one of receivers, or less. -/
def Allowed (_ : Docking Transport Cert Pkt) : DockStep Transport Cert Pkt → Prop
  | .call _ (.adjustWindowSize windowSize) => windowSize ≤ defaultZdprReceiveWindowSize
  | _ => True

instance (d : Docking Transport Cert Pkt) (step : DockStep Transport Cert Pkt) : Decidable (d.Allowed step) := by
  unfold Allowed
  split <;> infer_instance

/-- The sequence numbers of the data and cancel packets of a peer, in the order they were sent. -/
def sentBy (number : Nat) : List (SeqNum × Bool) :=
  (d.network.filter fun envelope => envelope.origin = side ∧ envelope.number = number).filterMap (sequenced ·.message)

/-- A peer has accepted a packet or cancel packet with this number, and said so. -/
def Answered (number : Nat) (seqNum : SeqNum) : Prop :=
  ∃ association, ⟨side, number, association, .ack seqNum⟩ ∈ d.network ∨ ⟨side, number, association, .canceled seqNum⟩ ∈ d.network

end Docking
end ZprCore.Mgmt
