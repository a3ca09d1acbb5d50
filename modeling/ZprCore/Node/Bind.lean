import ZprCore.Node.Tables

/-! The bind-request state machine of a node (`mgmt/node.rs`). A bind request gets a visa,
then a stream from the next hop, then an entry in the forwarding table of its link. The
steps are separate events, tied together by link and transaction ids only. -/

namespace ZprCore.Node
open Datapath (FiveTuple)

/-- The checks the state machine makes on itself. -/
def lingeringBind : Panic := .assertion "!awaiting_next_hop_bind_table.contains_key(&egress_bind_txn)"
def inactiveBind : Panic := .assertion "referenced by awaiting_next_hop_bind_table but is not an active bind request"
def wrongBindState : Panic :=
  .assertion "referenced by awaiting_next_hop_bind_table but not in AwaitingNextHopBind state"
def inconsistentDock : Panic := .assertion "dock state consistency error"

inductive InstallTetherError where
  | noSuchTransaction | linkClosed

inductive VisaDecision where
  | allowed (visa : VsapiVisa)
  | denied

/-- What the visa service answers; nothing if the request failed. -/
inductive VisaReply where
  | decision (outcome : Option VisaDecision)
  | visas (found : Option (List VsapiVisa))

namespace Assembly
variable (asm : Assembly) (ingressLinkId : LinkId) (egressLinkId : LinkId)

/-- The state awaits a next hop that has not answered yet. -/
def lingers : BindRequestState → Bool
  | .awaitingNextHopBind _ egressLinkId egressBindTxn =>
    (asm.peerTable.get egressLinkId).any fun peer => (peer.awaitingNextHopBindTable.get egressBindTxn).isSome
  | .awaitingVisaResponse | .awaitingVisaPush _ => false

/-- Enters a bind request; a state it replaces is dropped. -/
def insertBind (txnId : TxnId) (state : BindRequestState) : Except Panic Assembly :=
  let replaced := (asm.peerTable.get ingressLinkId).bind fun peer => peer.bindRequestState.get txnId
  let asm := asm.modifyPeer ingressLinkId fun peer =>
    { peer with bindRequestState := peer.bindRequestState.insert txnId state }
  match replaced with
  | some old => asm.dropState old
  | none => .ok asm

/-- Removes a bind request, which must not leave its next-hop request behind. -/
def removeBind (txnId : TxnId) : Except Panic Assembly :=
  match (asm.peerTable.get ingressLinkId).bind fun peer => peer.bindRequestState.get txnId with
  | none => .ok asm
  | some state =>
    if asm.lingers state then .error lingeringBind
    else (asm.modifyPeer ingressLinkId fun peer =>
      { peer with bindRequestState := peer.bindRequestState.erase txnId }).dropState state

def sendRejection (link : LinkId) (peerType : PeerType) (txnId : TxnId) (reason : String) : Assembly :=
  match peerType with
  | .adapter => asm.send link (.bindActorAddressErrorResponse txnId reason)
  | .node => asm.send link (.streamIdErrorResponse txnId reason)
  | .dock | .unknown => asm

def bindReject (txnId : TxnId) (reason : String) : Except Panic Assembly :=
  match asm.peerTable.get ingressLinkId with
  | none => .ok asm
  | some peer => do
    let asm ← asm.removeBind ingressLinkId txnId
    return asm.sendRejection ingressLinkId (peer.peerType ingressLinkId) txnId reason

def requestedVisaDenied (txnId : TxnId) : Except Panic Assembly :=
  asm.bindReject ingressLinkId txnId "policy error"

/-- The request to the next hop, if that is a peer which takes one. Adapters need the
traffic classifier; nodes need the visa id. -/
def nextHopRequest (peerType : PeerType) (visaId : VisaId) : Option (TxnId → Message) :=
  match peerType with
  | .node => some fun txnId => .streamIdRequest txnId visaId
  | .adapter => (asm.visaTable.table.get visaId).map fun visa txnId =>
      .bindEgressStreamRequest txnId visa.getTc visa.getIngressA2aDhPubkey
  | .dock | .unknown => none

/-- Moves a bind request to `AwaitingNextHopBind` and notes on the egress link how to route
the reply. The note is a new one, as its transaction has just been opened. -/
def awaitNextHop (txnId : TxnId) (visaId : VisaId) (handle : TxnHandle) (request : Message) : Except Panic Assembly :=
  match asm.peerTable.get ingressLinkId with
  | none => asm.dropHandle handle
  | some _ => do
    let asm ← asm.cloneHandle handle
    let asm ← asm.insertBind ingressLinkId txnId (.awaitingNextHopBind visaId handle.link handle)
    let asm := asm.modifyPeer handle.link fun peer =>
      { peer with awaitingNextHopBindTable := peer.awaitingNextHopBindTable.insert handle (ingressLinkId, txnId) }
    return asm.send handle.link request

def requestedVisaGranted (txnId : TxnId) (visaId : VisaId) : Except Panic Assembly :=
  match asm.getEgressLinkForVisa visaId with
  | .error _ => asm.requestedVisaDenied ingressLinkId txnId
  | .ok egressLinkId =>
    match asm.peerTable.get egressLinkId with
    | none => asm.requestedVisaDenied ingressLinkId txnId
    | some egressPeer =>
      match asm.nextHopRequest (egressPeer.peerType egressLinkId) visaId with
      | none => asm.requestedVisaDenied ingressLinkId txnId
      | some request =>
        match egressPeer.txnMgr.tryOpen with
        | none => .error (.assertion "FIXME TODO: bind backpressure #1176")
        | some (id, txnMgr) =>
          (asm.modifyPeer egressLinkId fun peer => { peer with txnMgr }).awaitNextHop ingressLinkId txnId visaId
            ⟨egressLinkId, egressPeer.session, id⟩ (request id)

/-- Launches a task that asks the visa service, for the peer that occupies the link. -/
def spawnVisaTask (txnId : TxnId) (peer : PeerState) (query : VisaQuery) (state : BindRequestState) :
    Except Panic Assembly :=
  let asm := { asm with tasks := asm.tasks ++ [VisaTask.mk ingressLinkId txnId query peer.session] }
  asm.insertBind ingressLinkId txnId state

def requestVisa (txnId : TxnId) (peer : PeerState) (fiveTuple : FiveTuple) : Except Panic Assembly :=
  let icmp := fiveTuple.l4Protocol = Datapath.IpNumber.icmp ∨ fiveTuple.l4Protocol = Datapath.IpNumber.ipv6Icmp
  let commFlags : CommFlag := if icmp then .uniDirectional else .biDirectional
  asm.spawnVisaTask ingressLinkId txnId peer (.request ⟨fiveTuple, commFlags⟩) .awaitingVisaResponse

section
variable (findMatch : List (VisaId × FiveTuple) → FiveTuple → Option VisaId)

/-- The part after classification. -/
def bindFlow (asm : Assembly) (ingressLinkId : LinkId) (txnId : TxnId) (fiveTuple : FiveTuple) :
    Except Panic Assembly :=
  match asm.peerTable.get ingressLinkId with
  | none => .ok asm
  | some peer =>
    if !peer.owns fiveTuple.srcAddress then asm.requestedVisaDenied ingressLinkId txnId
    else match findMatch asm.visaTable.lookupTable fiveTuple with
    | none => asm.requestVisa ingressLinkId txnId peer fiveTuple
    | some matched =>
      match asm.getEgressLinkForVisa matched with
      | .ok _ => asm.requestedVisaGranted ingressLinkId txnId matched
      | .error (.notFound _) => asm.requestVisa ingressLinkId txnId peer fiveTuple
      | .error (.destNotFound _) => asm.requestedVisaDenied ingressLinkId txnId
      | .error _ => .error (.assertion "Got unexpected error type")

/-- The five-tuple of the packet that triggered a bind request, if it is one the node
supports. -/
def boundFlow (packetBody : List UInt8) : Except Panic (Option FiveTuple) := do
  let (classification, fiveTuple) ← Datapath.Classifier.classifyWithOptions
    ⟨unspecified, unspecified, .other 0, 0, 0, 0⟩ packetBody { ignoreTruncatedPackets := true }
  match classification with
  | .ok .ok => return some fiveTuple
  | _ => return none

def bindActorAddress (asm : Assembly) (ingressLinkId : LinkId) (txnId : TxnId) (packetBody : List UInt8) :
    Except Panic Assembly := do
  match ← boundFlow packetBody with
  | none => asm.requestedVisaDenied ingressLinkId txnId
  | some fiveTuple => asm.bindFlow findMatch ingressLinkId txnId fiveTuple

end

/-- Enters a visa and continues the bind request it was fetched for. A visa fetched by its id
is entered under that id. -/
def grantInserted (txnId : TxnId) (visa : VsapiVisa) : Except Panic Assembly := do
  let (inserted, asm) ← asm.insertVisa visa
  match inserted with
  | .ok visaId => asm.requestedVisaGranted ingressLinkId txnId visaId
  | .error (.parseError _) => asm.requestedVisaDenied ingressLinkId txnId
  | .error _ => .error (.assertion "Got unexpected error type")

def visaRequestTask (txnId : TxnId) (outcome : Option VisaDecision) : Except Panic Assembly :=
  match outcome with
  | some (.allowed visa) => asm.grantInserted ingressLinkId txnId visa
  | some .denied => asm.requestedVisaDenied ingressLinkId txnId
  | none => asm.requestedVisaDenied ingressLinkId txnId

def visaPushRequestTask (txnId : TxnId) (reqVisaId : VisaId) (found : Option (List VsapiVisa)) : Except Panic Assembly :=
  match found with
  | some visas =>
    match visas.find? fun visa => visa.issuerId == reqVisaId with
    | some visa => asm.grantInserted ingressLinkId txnId visa
    | none => asm.requestedVisaDenied ingressLinkId txnId
  | none => asm.requestedVisaDenied ingressLinkId txnId

def requestStream (txnId : TxnId) (visaId : VisaId) : Except Panic Assembly :=
  match asm.peerTable.get ingressLinkId with
  | none => .ok asm
  | some peer =>
    if (asm.visaTable.table.get visaId).isSome then asm.requestedVisaGranted ingressLinkId txnId visaId
    else asm.spawnVisaTask ingressLinkId txnId peer (.byId visaId) (.awaitingVisaPush visaId)

/-- The response to a requestor, if that is a peer which gets one. Adapters need the traffic
classifier; nodes do not. -/
def successResponse (peerType : PeerType) (visa : Visa) (txnId : TxnId) (streamId : StreamId) : Option Message :=
  match peerType with
  | .node => some (.streamIdSuccessResponse txnId streamId)
  | .adapter => some (.bindActorAddressSuccessResponse txnId streamId visa.getTc visa.getEgressA2aDhPubkey)
  | .dock | .unknown => none

/-- Links the slot to its visa, then fills it. -/
def installRoute (peerType : PeerType) (txnId : TxnId) (key : StreamId) (pep : PftPep) : Except Panic Assembly :=
  match asm.visaTable.table.get pep.visaId with
  | none => asm.requestedVisaDenied ingressLinkId txnId
  | some visa =>
    let asm := { asm with visaTable := asm.visaTable.linkForwardingEntry pep.visaId (ingressLinkId, key) }
    match successResponse peerType visa txnId key with
    | none => asm.requestedVisaDenied ingressLinkId txnId
    | some response =>
      .ok ((asm.modifyPeer ingressLinkId fun peer => { peer with pft := peer.pft.insert key pep }).send
        ingressLinkId response)

/-- `vacant` is the slot the slab offers, if it is not full. -/
def requestedTetherGranted (txnId : TxnId) (egressTetherId : StreamId) (vacant : Option StreamId) : Except Panic Assembly :=
  match asm.peerTable.get ingressLinkId with
  | none => .ok asm
  | some peer =>
    match peer.bindRequestState.get txnId with
    | some (.awaitingNextHopBind visaId egressLinkId _) => do
      let asm ← asm.removeBind ingressLinkId txnId
      match vacant with
      | none => asm.bindReject ingressLinkId txnId "PFT full"
      | some key =>
        asm.installRoute ingressLinkId (peer.peerType ingressLinkId) txnId key ⟨(egressLinkId, egressTetherId), visaId⟩
    | _ => .ok asm

section
variable (egressTxn : TxnHandle)

/-- Whether a bind request refers back to the next-hop request made for it; a requestor that
is gone is not asked. -/
def checkOriginator (ingressLinkId : LinkId) (txnId : TxnId) : Except Panic Unit :=
  match asm.peerTable.get ingressLinkId with
  | none => .ok ()
  | some peer =>
    match peer.bindRequestState.get txnId with
    | none => .error inactiveBind
    | some (.awaitingNextHopBind _ expectedLinkId expectedTxn) =>
      if expectedLinkId = egressLinkId ∧ expectedTxn = egressTxn then .ok () else .error inconsistentDock
    | some _ => .error wrongBindState

def resolveNextHopBindOriginator :
    Except Panic (Except InstallTetherError (LinkId × TxnId) × Assembly) :=
  match asm.peerTable.get egressLinkId with
  | none => .ok (.error .linkClosed, asm)
  | some egressPeer =>
    match egressPeer.awaitingNextHopBindTable.get egressTxn with
    | none => .ok (.error .noSuchTransaction, asm)
    | some (ingressLinkId, txnId) => do
      let asm := asm.modifyPeer egressLinkId fun peer =>
        { peer with awaitingNextHopBindTable := peer.awaitingNextHopBindTable.erase egressTxn }
      asm.checkOriginator egressLinkId egressTxn ingressLinkId txnId
      let asm ← asm.dropHandle egressTxn
      return (.ok (ingressLinkId, txnId), asm)

def installTether (egressTetherId : StreamId) (vacant : Option StreamId) :
    Except Panic Assembly := do
  let (originator, asm) ← asm.resolveNextHopBindOriginator egressLinkId egressTxn
  match originator with
  | .error _ => return asm
  | .ok (ingressLinkId, txnId) => asm.requestedTetherGranted ingressLinkId txnId egressTetherId vacant

def denyTether (reason : String) : Except Panic Assembly := do
  let (originator, asm) ← asm.resolveNextHopBindOriginator egressLinkId egressTxn
  match originator with
  | .error _ => return asm
  | .ok (ingressLinkId, txnId) => asm.bindReject ingressLinkId txnId reason

end

/-- The forwarding entry unlinked from the visa is the next hop, and the stream named to the
next hop is the one of this link, as in the source. -/
def unbindStream (streamId : StreamId) : Assembly :=
  match (asm.peerTable.get ingressLinkId).bind fun peer => peer.pft.get streamId with
  | none => asm
  | some pep =>
    let asm := asm.removeRoute (ingressLinkId, streamId)
    let asm := { asm with visaTable := asm.visaTable.unlinkForwardingEntry pep.visaId pep.nextHop }
    asm.send pep.nextHop.1 (.unbindEgressStreamRequest streamId)

end Assembly
end ZprCore.Node
