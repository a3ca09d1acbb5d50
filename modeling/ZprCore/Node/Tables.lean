import ZprCore.Lib.BackRefs
import ZprCore.Node.TxnMgr
import ZprCore.Datapath.TrafficClassifier

/-! A node's peers, forwarding tables and visas (`peer_table.rs`, `forwarding_tables.rs`,
`visa_table.rs`, `visa_mgmt.rs`, `assembly.rs`). Visas, the five-tuple lookup table and the
slab allocator come from outside: a visa keeps what the node reads of it, the lookup table
keeps the pairs given to it, and the slab's choice of a vacant slot is an input. -/

namespace ZprCore.Node
open Datapath (IpAddress FiveTuple Ip5TupleTc)

abbrev LinkId := Nat
abbrev StreamId := Nat
abbrev VisaId := Nat

/-- A stream on a link. -/
abbrev ForwardingEntry := LinkId × StreamId

def localActorLinkId : LinkId := 1
def dockLinkId : LinkId := 2

/-- Visas below this id are the node's own. -/
def minVisaId : VisaId := 1000

def peerForwardingTableSize : Nat := 2 ^ 20

inductive LinkType where
  | internal | nodeToAdapter | adapterToNode | nodeToNode
  deriving DecidableEq

inductive PeerType where
  | node | adapter | dock | unknown
  deriving DecidableEq

/-- What type of peer is at the other end. Accounts for well-known internal links. -/
def LinkType.peerType (linkType : LinkType) (id : LinkId) : PeerType :=
  match linkType with
  | .internal => if id = localActorLinkId then .adapter else if id = dockLinkId then .dock else .unknown
  | .nodeToAdapter => .adapter
  | .adapterToNode => .dock
  | .nodeToNode => .node

structure PftPep where
  nextHop : ForwardingEntry
  visaId : VisaId
  deriving DecidableEq

/-- The manager of a transaction is named by the link and the session it belongs to; the
source points to it weakly. -/
structure TxnHandle where
  link : LinkId
  session : Nat
  id : TxnId
  deriving DecidableEq

inductive BindRequestState where
  | awaitingVisaResponse
  | awaitingVisaPush (visaId : VisaId)
  | awaitingNextHopBind (visaId : VisaId) (egressLinkId : LinkId) (egressBindTxn : TxnHandle)
  deriving DecidableEq

/-- `session` tells apart the peers that occupy a link id one after the other. -/
structure PeerState where
  session : Nat
  linkType : LinkType
  addresses : List IpAddress
  aaaAddress : Option IpAddress
  pft : Table StreamId PftPep
  bindRequestState : Table TxnId BindRequestState
  awaitingNextHopBindTable : Table TxnHandle (LinkId × TxnId)
  txnMgr : TxnMgr

namespace PeerState

def new (session : Nat) (linkType : LinkType) : PeerState :=
  ⟨session, linkType, [], none, ∅, ∅, ∅, .new⟩

def peerType (peer : PeerState) (id : LinkId) : PeerType := peer.linkType.peerType id

/-- A granted actor address, or the address given to the link for authentication. -/
def owns (peer : PeerState) (addr : IpAddress) : Bool :=
  peer.addresses.contains addr || peer.aaaAddress == some addr

end PeerState

abbrev PublicKey := Vector UInt8 32

structure KeySet where
  ingressKey : List UInt8
  egressKey : List UInt8

structure DockPep where
  fiveTuple : FiveTuple
  sessionKey : KeySet

inductive VisaType where
  | full | forwardOnly
  deriving DecidableEq

/-- A visa as the visa service sends it. Times are in milliseconds. -/
structure VsapiVisa where
  issuerId : VisaId
  expires : Nat
  visaType : VisaType
  dockPep : Option DockPep
  fwdPep : Option IpAddress

inductive VisaTableError where
  | notFound (id : VisaId)
  | parseError (field : String)
  | destNotFound (addr : IpAddress)
  | insertError

def unspecified : IpAddress := ⟨Vector.replicate 12 0, Vector.replicate 4 0⟩

/-- A full visa, with the forwarding entries that use it. -/
structure Visa where
  dockPep : DockPep
  streams : List ForwardingEntry
  ftuple : FiveTuple
  nextHop : IpAddress
  expires : Nat

namespace Visa

def new (visa : VsapiVisa) : Except Panic Visa :=
  if visa.visaType ≠ .full then .error (.assertion "Forward only visas not yet supported")
  else match visa.dockPep with
  | none => .error (.assertion "visa without a dock PEP")
  | some dockPep => .ok ⟨dockPep, [], dockPep.fiveTuple, visa.fwdPep.getD unspecified, visa.expires⟩

variable (visa : Visa)

def linkForwardingEntry (entry : ForwardingEntry) : Visa :=
  { visa with streams := visa.streams ++ [entry] }

def unlinkForwardingEntry (entry : ForwardingEntry) : Visa :=
  { visa with streams := BackRefs.without visa.streams entry }

def getTc : Ip5TupleTc := ⟨visa.dockPep.fiveTuple⟩

/-- A port that is zero in the visa matches every port. -/
def matchTraffic (ft : FiveTuple) : Bool := visa.getTc.classify5t ft

def publicKey (key : List UInt8) : Option PublicKey :=
  if sized : key.length = 32 then some ⟨key.toArray, sized⟩ else none

def getIngressA2aDhPubkey : Option PublicKey := publicKey visa.dockPep.sessionKey.ingressKey
def getEgressA2aDhPubkey : Option PublicKey := publicKey visa.dockPep.sessionKey.egressKey

end Visa

structure VisaTimeout where
  id : VisaId
  expiration : Nat

/-- Soonest expiration first. -/
def VisaTimeout.Before (one two : VisaTimeout) : Prop :=
  one.expiration < two.expiration ∨ one.expiration = two.expiration ∧ one.id ≤ two.id

theorem VisaTimeout.before_total (one two : VisaTimeout) : one.Before two ∨ two.Before one := by
  simp only [Before]
  grind

theorem VisaTimeout.before_trans {one two three : VisaTimeout} (first : one.Before two) (second : two.Before three) :
    one.Before three := by
  simp only [Before] at first second ⊢
  grind

instance (one two : VisaTimeout) : Decidable (one.Before two) := inferInstanceAs (Decidable (_ ∨ _))

/-- The heap of timeouts, in the order in which it gives them out. -/
structure TimeoutQueue where
  entries : List VisaTimeout
  sorted : entries.Pairwise VisaTimeout.Before

namespace TimeoutQueue

def empty : TimeoutQueue := ⟨[], .nil⟩

def push (queue : TimeoutQueue) (entry : VisaTimeout) : TimeoutQueue where
  entries := queue.entries.orderedInsert VisaTimeout.Before entry
  sorted := by
    have total : Std.Total VisaTimeout.Before := ⟨VisaTimeout.before_total⟩
    have trans : IsTrans VisaTimeout VisaTimeout.Before := ⟨fun _ _ _ => VisaTimeout.before_trans⟩
    exact queue.sorted.orderedInsert entry _

/-- The entries that have expired, in order, and the rest. -/
def popExpired (queue : TimeoutQueue) (currentTime : Nat) : List VisaTimeout × TimeoutQueue :=
  (queue.entries.takeWhile fun entry => entry.expiration < currentTime,
    ⟨queue.entries.dropWhile fun entry => entry.expiration < currentTime, queue.sorted.sublist (List.dropWhile_sublist _)⟩)

end TimeoutQueue

/-- `lookupTable` holds the pairs given to the five-tuple lookup table. -/
structure VisaTable where
  table : Table VisaId Visa
  timeoutQueue : TimeoutQueue
  lookupTable : List (VisaId × FiveTuple)

namespace VisaTable

def new : VisaTable := ⟨∅, .empty, []⟩

variable (visas : VisaTable)

/-- The lookup table built again from the visas. -/
def rebuild : VisaTable :=
  { visas with lookupTable := visas.table.pairs.map fun (id, visa) => (id, visa.ftuple) }

def insertVisa (visa : VsapiVisa) : Except Panic (VisaId × VisaTable) := do
  let stored ← Visa.new visa
  return (visa.issuerId,
    { table := visas.table.insert visa.issuerId stored
      timeoutQueue := visas.timeoutQueue.push ⟨visa.issuerId, visa.expires⟩
      lookupTable := visas.lookupTable ++ [(visa.issuerId, stored.ftuple)] })

def matchTraffic (findMatch : List (VisaId × FiveTuple) → FiveTuple → Option VisaId) (ft : FiveTuple) : Option VisaId :=
  findMatch visas.lookupTable ft

def getVisaNextHopAddr (id : VisaId) : Except VisaTableError IpAddress :=
  match visas.table.get id with
  | none => .error (.notFound id)
  | some visa => .ok (if visa.nextHop = unspecified then visa.ftuple.dstAddress else visa.nextHop)

def linkForwardingEntry (id : VisaId) (entry : ForwardingEntry) : VisaTable :=
  { visas with table := visas.table.modify id fun visa => visa.linkForwardingEntry entry }

def unlinkForwardingEntry (id : VisaId) (entry : ForwardingEntry) : VisaTable :=
  { visas with table := visas.table.modify id fun visa => visa.unlinkForwardingEntry entry }

def makeTcpVisa (id : VisaId) (source : IpAddress) (sourcePort : UInt16) (dest : IpAddress) (destPort : UInt16)
    (expirationMs : Nat) : VsapiVisa where
  issuerId := id
  expires := expirationMs
  visaType := .full
  dockPep := some ⟨⟨source, dest, .ipv6, Datapath.IpNumber.tcp, sourcePort, destPort⟩, ⟨[], []⟩⟩
  fwdPep := none

section
variable (nodeAddr visaServiceAddr : IpAddress) (visaServicePort : UInt16) (expiresMs : Nat)

def node2vs : VsapiVisa := makeTcpVisa 1 nodeAddr 0 visaServiceAddr visaServicePort expiresMs
def vs2node : VsapiVisa := makeTcpVisa 2 visaServiceAddr visaServicePort nodeAddr 0 expiresMs

/-- A table with the two visas that let a node and the visa service reach each other. -/
def newWithVsVisas : Except Panic VisaTable := do
  let (_, visas) ← new.insertVisa (node2vs nodeAddr visaServiceAddr visaServicePort expiresMs)
  let (_, visas) ← visas.insertVisa (vs2node nodeAddr visaServiceAddr visaServicePort expiresMs)
  return visas.rebuild

end

end VisaTable

inductive CommFlag where
  | uniDirectional | biDirectional

structure VisaRequest where
  fiveTuple : FiveTuple
  commFlags : CommFlag

inductive VisaQuery where
  | request (req : VisaRequest)
  | byId (id : VisaId)

/-- A task waiting for the visa service. It knows the link and transaction it works for;
`session` only records who issued the request. -/
structure VisaTask where
  ingressLinkId : LinkId
  txnId : TxnId
  query : VisaQuery
  session : Nat

inductive Message where
  | streamIdRequest (txnId : TxnId) (visaId : VisaId)
  | bindEgressStreamRequest (txnId : TxnId) (tc : Ip5TupleTc) (peerKey : Option PublicKey)
  | streamIdSuccessResponse (txnId : TxnId) (streamId : StreamId)
  | streamIdErrorResponse (txnId : TxnId) (reason : String)
  | bindActorAddressSuccessResponse (txnId : TxnId) (streamId : StreamId) (tc : Ip5TupleTc) (peerKey : Option PublicKey)
  | bindActorAddressErrorResponse (txnId : TxnId) (reason : String)
  | unbindEgressStreamRequest (streamId : StreamId)

/-- The state of a node: its own addresses, its peers, visas and pending tasks, the messages
it has queued for its links, and how many peers it has had. -/
structure Assembly where
  localZprAddrs : List IpAddress
  peerTable : Table LinkId PeerState
  visaTable : VisaTable
  tasks : List VisaTask
  outbox : List (LinkId × Message)
  sessions : Nat

namespace Assembly
variable (asm : Assembly) (link : LinkId) (handle : TxnHandle) (id : VisaId)

def modifyPeer (change : PeerState → PeerState) : Assembly :=
  { asm with peerTable := asm.peerTable.modify link change }

def send (message : Message) : Assembly :=
  { asm with outbox := asm.outbox ++ [(link, message)] }

/-- Remove a route from a peer forwarding table. -/
def removeRoute (route : ForwardingEntry) : Assembly :=
  asm.modifyPeer route.1 fun peer => { peer with pft := peer.pft.erase route.2 }

def revokeNoRebuild : Assembly :=
  match asm.visaTable.table.get id with
  | none => asm
  | some visa =>
    visa.streams.foldl removeRoute { asm with visaTable := { asm.visaTable with table := asm.visaTable.table.erase id } }

def rebuildLookup : Assembly := { asm with visaTable := asm.visaTable.rebuild }

def revoke : Assembly := (asm.revokeNoRebuild id).rebuildLookup

def handleRevocation : Assembly := asm.revoke id

/-- Remove every expired visa from the table. -/
def handleExpirations (currentTime : Nat) : Assembly :=
  let (expired, timeoutQueue) := asm.visaTable.timeoutQueue.popExpired currentTime
  let asm := { asm with visaTable := { asm.visaTable with timeoutQueue } }
  ((expired.map VisaTimeout.id).foldl revokeNoRebuild asm).rebuildLookup

/-- The visas with a forwarding entry on the link, except for the node's own. -/
def toRevoke : List VisaId :=
  (asm.visaTable.table.pairs.filter fun (id, visa) =>
    decide (minVisaId ≤ id) && visa.streams.any fun entry => entry.1 == link).map Prod.fst

def revokeForLink : Assembly :=
  if (asm.toRevoke link).isEmpty then asm else ((asm.toRevoke link).foldl revokeNoRebuild asm).rebuildLookup

/-- Counts a handle with its manager, unless that is gone. -/
def updateTxn (update : TxnMgr → TxnId → Except Panic TxnMgr) : Except Panic Assembly :=
  match asm.peerTable.get handle.link with
  | none => .ok asm
  | some peer =>
    if peer.session = handle.session then do
      let txnMgr ← update peer.txnMgr handle.id
      return asm.modifyPeer handle.link fun peer => { peer with txnMgr }
    else .ok asm

def cloneHandle : Except Panic Assembly := asm.updateTxn handle TxnMgr.refTxn
def dropHandle : Except Panic Assembly := asm.updateTxn handle TxnMgr.derefTxn

def dropState : BindRequestState → Except Panic Assembly
  | .awaitingNextHopBind _ _ egressBindTxn => asm.dropHandle egressBindTxn
  | .awaitingVisaResponse | .awaitingVisaPush _ => .ok asm

/-- Removes a peer with everything it holds. -/
def remove : Except Panic Assembly :=
  match asm.peerTable.get link with
  | none => .ok asm
  | some peer =>
    (peer.bindRequestState.pairs.map Prod.snd).foldlM dropState { asm with peerTable := asm.peerTable.erase link }

def dropPeer : Except Panic Assembly := (asm.revokeForLink link).remove link

/-- Adds a peer in the slot the slab has chosen for it. -/
def addPeer (linkType : LinkType) : Assembly :=
  { asm with
    peerTable := asm.peerTable.insert link (.new asm.sessions linkType)
    sessions := asm.sessions + 1 }

/-- The local actor, or the first peer that owns the address. -/
def findEgressLink (addr : IpAddress) : Option LinkId :=
  if asm.localZprAddrs.contains addr then some localActorLinkId
  else ((asm.peerTable.pairs.filter fun (_, peer) => peer.owns addr).map Prod.fst).min?

def insertVisa (visa : VsapiVisa) : Except Panic (Except VisaTableError VisaId × Assembly) :=
  if visa.visaType ≠ .full then .error (.assertion "Forward only visas not yet supported")
  else match visa.dockPep with
  | none => .error (.assertion "visa without a dock PEP")
  | some dockPep =>
    let nextHop := visa.fwdPep.getD dockPep.fiveTuple.dstAddress
    if (asm.findEgressLink nextHop).isNone then .ok (.error (.destNotFound nextHop), asm)
    else do
      let (id, visaTable) ← asm.visaTable.insertVisa visa
      return (.ok id, { asm with visaTable })

def getEgressLinkForVisa : Except VisaTableError LinkId :=
  match asm.visaTable.getVisaNextHopAddr id with
  | .error e => .error e
  | .ok addr =>
    match asm.findEgressLink addr with
    | none => .error (.destNotFound addr)
    | some link => .ok link

/-- A node with the links to its own actor and dock. -/
def start (localZprAddrs : List IpAddress) (visaTable : VisaTable) : Assembly :=
  ((⟨localZprAddrs, ∅, visaTable, [], [], 0⟩ : Assembly).addPeer localActorLinkId .internal).addPeer dockLinkId .internal

end Assembly
end ZprCore.Node
