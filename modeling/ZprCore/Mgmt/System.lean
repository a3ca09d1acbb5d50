import ZprCore.Datapath.Substrate
import ZprCore.Mgmt.Dispatch
import ZprCore.Zdpr.Session

/-! Management packets on their way through the process. Fastpath workers attribute
datagrams to links, decrypt them and queue them; one worker dispatches the queue
(`mgmt_dispatch_worker.rs`). Between any two of these steps other tasks may change the peer
table. A queued packet carries only its link's id. -/

namespace ZprCore.Mgmt
open Datapath Zdpr Km
variable {Transport Cert : Type}

/-- What other tasks do at any time. A link's sender is used by many callers, and the
management processor of a link takes packets from its queue. -/
inductive TableEvent (Transport Cert : Type) where
  | startTether (adapterAddr : SubstrateAddr) (interfaceAddr : ScopedIpAddr) (vacancy : Assembly.Vacancy)
  | remove (link : LinkId)
  | setSecurityAssociation (link : LinkId) (sa : Option (KmTransportSA Transport Cert))
  | call (link : LinkId) (op : SenderOp Packet)
  | process (link : LinkId)

namespace Assembly

/-- What a caller of the sender sends for a message. -/
def egressOf (link : LinkId) : Message Packet → Option Egress
  | .data seqNum packet => some (.packet link seqNum packet)
  | .cancel seqNum => some (.zdpr link ZdpPacketType.cancel seqNum)
  | .ack _ | .canceled _ => none

variable (asm : Assembly Transport Cert)

def callSender (link : LinkId) (op : SenderOp Packet) : Except Panic (Assembly Transport Cert) := do
  let some peer := asm.peerTable.get link | return asm
  let (messages, zdprSend) ← peer.zdprSend.perform op
  let asm := asm.modifyPeer link fun peer => { peer with zdprSend }
  return asm.buildAndEgressPackets link (messages.filterMap (egressOf link))

def takeMgmtPacket (link : LinkId) : Assembly Transport Cert :=
  match (asm.peerTable.get link).bind (·.mgmtProcessor.tryRecv) with
  | none => asm
  | some (_, mgmtProcessor) => asm.modifyPeer link fun peer => { peer with mgmtProcessor }

def tableStep : TableEvent Transport Cert → Except Panic (Assembly Transport Cert)
  | .startTether adapterAddr interfaceAddr vacancy => do
    return (← asm.startTether adapterAddr interfaceAddr vacancy).2
  | .remove link => .ok { asm with peerTable := asm.peerTable.remove link }
  | .setSecurityAssociation link sa => .ok { asm with peerTable := asm.peerTable.setSecurityAssociation link sa }
  | .call link op => asm.callSender link op
  | .process link => .ok (asm.takeMgmtPacket link)

/-- The slab hands out slots that are vacant. -/
def Vacant (vacancy : Vacancy) : Prop :=
  ∀ link, vacancy.link = some link → asm.peerTable.get link.val = none

end Assembly

/-- What happens on the links, with any packet dispatched at any time. -/
inductive LinkEvent (Transport Cert : Type) where
  | dispatchWithLink (pkt : Packet)
  | dispatchWithAddr (peerSa : SubstrateAddr) (interfaceAddr : ScopedIpAddr) (pkt : Packet)
      (vacancy : Assembly.Vacancy)
  | table (event : TableEvent Transport Cert)

namespace LinkEvent

def step (asm : Assembly Transport Cert) : LinkEvent Transport Cert → Except Panic (Assembly Transport Cert)
  | .dispatchWithLink pkt => asm.dispatchMgmtPacketWithLink pkt
  | .dispatchWithAddr peerSa interfaceAddr pkt vacancy =>
    asm.dispatchMgmtPacketWithAddr peerSa interfaceAddr pkt vacancy
  | .table event => asm.tableStep event

/-- During the lifetime of the peer at a link. -/
def During (link : LinkId) (asm : Assembly Transport Cert) : LinkEvent Transport Cert → Prop
  | .dispatchWithAddr _ _ _ vacancy | .table (.startTether _ _ vacancy) => asm.Vacant vacancy
  | .table (.remove other) => other ≠ link
  | _ => True

/-- How many packets an event dispatches. -/
def packets : LinkEvent Transport Cert → Nat
  | .dispatchWithLink _ => 1
  | .dispatchWithAddr _ _ _ _ | .table _ => 0

end LinkEvent

/-- A message of the dispatch queue. The `origin` is the session whose association the
packet was decrypted under; the process itself keeps no trace of it. -/
inductive MgmtDispatchMessage where
  | withLink (pkt : Packet) (origin : Option Nat)
  | withAddr (peerSa : SubstrateAddr) (interfaceAddr : ScopedIpAddr) (pkt : Packet)

/-- A packet other than key management that reached a peer. -/
structure Applied where
  session : Nat
  origin : Option Nat

/-- `attributed` datagrams have been looked up, `inFlight` packets decrypted. `applied` is
the history of what dispatch handed to a peer. -/
structure System (Transport Cert : Type) where
  asm : Assembly Transport Cert
  attributed : List (SubstrateAddr × ScopedIpAddr × Packet)
  inFlight : List MgmtDispatchMessage
  mgmtDispatch : List MgmtDispatchMessage
  sessions : Nat
  applied : List Applied

/-- An index selects one of the things under way. -/
inductive SystemEvent (Transport Cert : Type) where
  | lookUp (peerSa : SubstrateAddr) (interfaceAddr : ScopedIpAddr) (pkt : Packet)
  | decrypt (index : Nat)
  | enqueue (index : Nat) (full : Bool)
  | dispatch (vacancy : Assembly.Vacancy)
  | table (event : TableEvent Transport Cert)

namespace System
variable (asm : Assembly Transport Cert)

/-- The session whose association decrypts the packets of a link. -/
def decryptingSession (link : LinkId) : Option Nat :=
  (asm.peerTable.get link).bind fun peer => peer.transportSa.map fun _ => peer.session

/-- What becomes of a decrypted packet. Forwarded packets leave the system. -/
def afterIngress : Substrate.Ingress → List MgmtDispatchMessage
  | .dropped _ | .forward _ => []
  | .dispatchedWithLink pkt => [.withLink pkt (decryptingSession asm pkt.ingressLinkId)]
  | .dispatchedWithAddr peerSa interfaceAddr pkt => [.withAddr peerSa interfaceAddr pkt]

/-- What the dispatch of a packet hands to a peer. -/
def appliedBy : MgmtDispatchMessage → List Applied
  | .withAddr _ _ _ => []
  | .withLink pkt origin =>
    match asm.peerTable.get pkt.ingressLinkId with
    | none => []
    | some peer => if pkt.body.head? = some ZdpPacketType.keyManagement then [] else [⟨peer.session, origin⟩]

def dispatchMessage (vacancy : Assembly.Vacancy) :
    MgmtDispatchMessage → Except Panic (Assembly Transport Cert)
  | .withLink pkt _ => asm.dispatchMgmtPacketWithLink pkt
  | .withAddr peerSa interfaceAddr pkt => asm.dispatchMgmtPacketWithAddr peerSa interfaceAddr pkt vacancy

def step (blake3 : Blake3) (snow : StatelessTransport Transport) (s : System Transport Cert) :
    SystemEvent Transport Cert → Except Panic (System Transport Cert)
  | .lookUp peerSa interfaceAddr pkt =>
    let pkt := { pkt with ingressLinkId := s.asm.peerTable.lookupPeer peerSa interfaceAddr }
    .ok { s with attributed := s.attributed ++ [(peerSa, interfaceAddr, pkt)] }
  | .decrypt index =>
    match s.attributed[index]? with
    | none => .ok s
    | some (peerSa, interfaceAddr, pkt) => do
      let outcome ← Substrate.ingressAttributed blake3 snow s.asm peerSa interfaceAddr pkt false
      return { s with
        attributed := s.attributed.eraseIdx index
        inFlight := s.inFlight ++ afterIngress s.asm outcome }
  | .enqueue index full =>
    match s.inFlight[index]? with
    | none => .ok s
    | some message =>
      .ok { s with
        inFlight := s.inFlight.eraseIdx index
        mgmtDispatch := if full then s.mgmtDispatch else s.mgmtDispatch ++ [message] }
  | .dispatch vacancy =>
    match s.mgmtDispatch with
    | [] => .ok s
    | message :: mgmtDispatch => do
      let asm ← dispatchMessage s.asm vacancy message
      return { s with
        asm, mgmtDispatch
        sessions := s.sessions + 1
        applied := s.applied ++ appliedBy s.asm message }
  | .table event => do return { s with asm := ← s.asm.tableStep event, sessions := s.sessions + 1 }

/-- The vacancies an event may fill. -/
def vacancyOf : SystemEvent Transport Cert → Option Assembly.Vacancy
  | .dispatch vacancy | .table (.startTether _ _ vacancy) => some vacancy
  | .lookUp _ _ _ | .decrypt _ | .enqueue _ _ | .table (.remove _) | .table (.setSecurityAssociation _ _)
  | .table (.call _ _) | .table (.process _) => none

/-- The slab hands out vacant slots, and every session has a number of its own. -/
def Allowed (s : System Transport Cert) (event : SystemEvent Transport Cert) : Prop :=
  ∀ vacancy, vacancyOf event = some vacancy → s.asm.Vacant vacancy ∧ vacancy.session = s.sessions

end System
end ZprCore.Mgmt
