import ZprCore.Node.Bind
import ZprCore.Lib.Runs

/-! The events a node handles one at a time (`mgmt/handlers.rs`, `vss_worker.rs`,
`assembly.rs`): messages from peers, answers and orders of the visa service, expirations,
and peers that come, go and change addresses. -/

namespace ZprCore.Node
open Datapath (IpAddress FiveTuple Ip5TupleTc)

inductive NextHopResponse where
  | success (streamId : StreamId)
  | other (reason : String)

/-- Stream id responses and bind egress stream responses are handled alike and are one event.
It carries the slot the slab offers for the forwarding entry. -/
inductive Event where
  | bindActorAddressRequest (link : LinkId) (txnId : TxnId) (packetBody : List UInt8)
  | streamIdRequest (link : LinkId) (txnId : TxnId) (visaId : VisaId)
  | visaReply (index : Nat) (reply : VisaReply)
  | nextHopResponse (link : LinkId) (txnId : TxnId) (response : NextHopResponse) (vacant : Option StreamId)
  | unbindIndication (link : LinkId) (streamId : StreamId)
  | visaGrant (visa : VsapiVisa)
  | visaRevocation (id : VisaId)
  | expirations (currentTime : Nat)
  | addPeer (link : LinkId) (linkType : LinkType)
  | dropPeer (link : LinkId)
  | setAddresses (link : LinkId) (addresses : List IpAddress) (aaaAddress : Option IpAddress)

namespace Assembly
section
variable (findMatch : List (VisaId × FiveTuple) → FiveTuple → Option VisaId) (asm : Assembly) (link : LinkId)

/-- Must come from an adapter. -/
def handleBindActorAddressRequest (txnId : TxnId) (packetBody : List UInt8) : Except Panic Assembly :=
  if (asm.peerTable.get link).any fun peer => peer.peerType link = .adapter then
    asm.bindActorAddress findMatch link txnId packetBody
  else .ok asm

/-- Must come from a node. -/
def handleStreamIdRequest (txnId : TxnId) (visaId : VisaId) : Except Panic Assembly :=
  if (asm.peerTable.get link).any fun peer => peer.peerType link = .node then asm.requestStream link txnId visaId
  else .ok asm

def completeTether (txn : TxnHandle) (response : NextHopResponse) (vacant : Option StreamId) : Except Panic Assembly :=
  match response with
  | .success streamId => asm.installTether link txn streamId vacant
  | .other reason => asm.denyTether link txn reason

/-- The handler holds a handle to the transaction until it is done. -/
def handleNextHopResponse (txnId : TxnId) (response : NextHopResponse) (vacant : Option StreamId) : Except Panic Assembly :=
  match asm.peerTable.get link with
  | none => .ok asm
  | some peer =>
    match peer.txnMgr.get txnId with
    | none => .ok asm
    | some txnMgr => do
      let txn : TxnHandle := ⟨link, peer.session, txnId⟩
      let asm := asm.modifyPeer link fun peer => { peer with txnMgr }
      let asm ← asm.completeTether link txn response vacant
      asm.dropHandle txn

/-- Adapters and the local actor may unbind; a dock's unbind is for the adapter side. -/
def handleUnbindIndication (streamId : StreamId) : Assembly :=
  match asm.peerTable.get link with
  | none => asm
  | some peer =>
    match peer.linkType with
    | .nodeToAdapter => asm.unbindStream link streamId
    | .internal => if link = localActorLinkId then asm.unbindStream link streamId else asm
    | .adapterToNode | .nodeToNode => asm

/-- A reply ends its task. The tasks are detached: they run whatever has become of the link. -/
def handleVisaReply (index : Nat) (reply : VisaReply) : Except Panic Assembly :=
  match asm.tasks[index]? with
  | none => .ok asm
  | some task =>
    let asm := { asm with tasks := asm.tasks.eraseIdx index }
    match task.query, reply with
    | .request _, .decision outcome => asm.visaRequestTask task.ingressLinkId task.txnId outcome
    | .byId id, .visas found => asm.visaPushRequestTask task.ingressLinkId task.txnId id found
    | _, _ => .ok asm

def processVisaGrant (visa : VsapiVisa) : Except Panic Assembly := do
  let (_, asm) ← asm.insertVisa visa
  return asm

def step : Event → Except Panic Assembly
  | .bindActorAddressRequest link txnId packetBody => asm.handleBindActorAddressRequest findMatch link txnId packetBody
  | .streamIdRequest link txnId visaId => asm.handleStreamIdRequest link txnId visaId
  | .visaReply index reply => asm.handleVisaReply index reply
  | .nextHopResponse link txnId response vacant => asm.handleNextHopResponse link txnId response vacant
  | .unbindIndication link streamId => .ok (asm.handleUnbindIndication link streamId)
  | .visaGrant visa => asm.processVisaGrant visa
  | .visaRevocation id => .ok (asm.handleRevocation id)
  | .expirations currentTime => .ok (asm.handleExpirations currentTime)
  | .addPeer link linkType => .ok (asm.addPeer link linkType)
  | .dropPeer link => asm.dropPeer link
  | .setAddresses link addresses aaaAddress =>
    .ok (asm.modifyPeer link fun peer => { peer with addresses, aaaAddress })

end

/-- The bind request that a transaction on a link was opened for. -/
def originator (asm : Assembly) (link : LinkId) (txnId : TxnId) : Option (LinkId × TxnId) :=
  (asm.peerTable.get link).bind fun peer => peer.awaitingNextHopBindTable.get ⟨link, peer.session, txnId⟩

end Assembly

/-- The forwarding entry of a live peer at a slot. -/
def Assembly.routeAt (asm : Assembly) (entry : ForwardingEntry) : Option PftPep :=
  (asm.peerTable.get entry.1).bind fun peer => peer.pft.get entry.2

/-- What a slab may offer: a vacant slot, or nothing if it is full. -/
def PeerState.Offers (peer : PeerState) : Option StreamId → Prop
  | some key => 0 < key ∧ key ≤ peerForwardingTableSize ∧ peer.pft.get key = none
  | none => peerForwardingTableSize ≤ peer.pft.entries.length

instance (peer : PeerState) (vacant : Option StreamId) : Decidable (peer.Offers vacant) :=
  match vacant with
  | some _ => inferInstanceAs (Decidable (_ ∧ _ ∧ _))
  | none => inferInstanceAs (Decidable (_ ≤ _))

/-- The reply is of the kind the query asked for. -/
def VisaReply.answers : VisaReply → VisaQuery → Bool
  | .decision _, .request _ | .visas _, .byId _ => true
  | .decision _, .byId _ | .visas _, .request _ => false

/-- Events that can occur: a new peer gets a vacant link id, slabs offer vacant slots, and a
task gets the kind of reply it asked for. -/
def Event.Possible (asm : Assembly) : Event → Prop
  | .addPeer link linkType => link ≠ 0 ∧ asm.peerTable.get link = none ∧ linkType ≠ .internal
  | .nextHopResponse link txnId _ vacant =>
    ∀ request ∈ asm.originator link txnId, ∀ peer ∈ asm.peerTable.get request.1, peer.Offers vacant
  | .visaReply index reply => ∀ task ∈ asm.tasks[index]?, reply.answers task.query = true
  | _ => True

instance (asm : Assembly) (event : Event) : Decidable (event.Possible asm) := by
  induction event using Event.casesOn <;> dsimp only [Event.Possible] <;> infer_instance

end ZprCore.Node
