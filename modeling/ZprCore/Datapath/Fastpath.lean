import ZprCore.Datapath.Compress

/-! The actor side of the fastpath (`fastpath.rs`, `adapter_tables.rs`): packets from the
actor are classified, compressed and sent into a tether; packets from a tether are
expanded, checked and queued for the actor. BLAKE3 and the width of an
adapter-to-adapter SAID are parameters. -/

namespace ZprCore.Datapath

abbrev StreamId := Nat
abbrev MicvKey := Vector UInt8 32

structure Blake3 where
  hash : List UInt8 → Vector UInt8 32
  keyedHash : MicvKey → List UInt8 → Vector UInt8 32

inductive PhMode where
  | adapter | node
  deriving DecidableEq

inductive FastpathCounterType where
  | inPacksDrop | ttlExpired | otherError | queueBackpressure | droppedAwaitingBind | badStructure
  | unknownStreamId | micvFailure | unknownZpi | decryptionFailure | badChecksum

structure EltPep where
  compressionMode : CompressionMode
  tetherId : StreamId
  a2aMicvKey : Option MicvKey

inductive EltEntry where
  | pending
  | active (pep : EltPep)

structure DltPep where
  tc : Ip5TupleTc
  a2aMicvKey : Option MicvKey

/-- What the adapter knows of its dock: whether the link is ready, and the addresses
granted over it. -/
structure Dock where
  ready : Bool
  addresses : List IpAddress
  aaaAddress : Option IpAddress

structure Assembly where
  phMode : PhMode
  dock : Option Dock
  elt : FiveTuple → Option EltEntry
  dlt : StreamId → Option DltPep

def Assembly.adapterOwnsAddress (asm : Assembly) (addr : IpAddress) : Bool :=
  asm.dock.any fun dock => dock.ready && (dock.addresses.contains addr || dock.aaaAddress == some addr)

/-- What becomes of a packet: it is dropped and counted, handed to the adapter manager
with a bind request, forwarded, or queued for the actor. -/
inductive Outcome where
  | dropped (counter : FastpathCounterType)
  | requestTetherId (pkt : Packet)
  | forward (pkt : Packet)
  | actorInput (pkt : Packet)

namespace Fastpath

def localActorLinkId : Nat := 1
def zdpA2aMacSize : Nat := 8

/-- The check value of a packet: its hash, keyed if there is a key, truncated. -/
def a2aMicv (blake3 : Blake3) (key : Option MicvKey) (body : List UInt8) : List UInt8 :=
  let micv := match key with
    | some micvKey => blake3.keyedHash micvKey body
    | none => blake3.hash body
  micv.toList.take zdpA2aMacSize

/-- Decrements the TTL or hop limit and says whether it reached zero. -/
def decrementTtl (pkt : Packet) : Except Panic (Bool × Packet) :=
  match pkt.fiveTuple.l3Type with
  | .ipv4 => do
    let header ← refFromPrefix Ipv4Header.layout (← slicePrefix pkt.body Ipv4Header.layout.size)
    let ttl := if header.ttl > 0 then header.ttl - 1 else header.ttl
    let pkt ← pkt.withBody (mutFromPrefix Ipv4Header.layout (fun header => { header with ttl }) pkt.body)
    return (ttl == 0, pkt)
  | .ipv6 => do
    let header ← refFromPrefix Ipv6Header.layout (← slicePrefix pkt.body Ipv6Header.layout.size)
    let hopLimit := if header.hopLimit > 0 then header.hopLimit - 1 else header.hopLimit
    let pkt ← pkt.withBody (mutFromPrefix Ipv6Header.layout (fun header => { header with hopLimit }) pkt.body)
    return (hopLimit == 0, pkt)
  | .other _ => return (false, pkt)

section
variable (blake3 : Blake3) (saidSize : Nat) (asm : Assembly)

/-- The part after classification. Whether the adapter manager has room for another
bind request is up to its queue. -/
def actorOutputPostClassify (managerFull allowBindRequest : Bool) (pkt : Packet) : Except Panic Outcome := do
  let fiveTuple := pkt.fiveTuple
  if asm.phMode = .adapter ∧ !asm.adapterOwnsAddress fiveTuple.srcAddress then return .dropped .otherError
  match asm.elt fiveTuple with
  | none =>
    if !allowBindRequest then return .dropped .otherError
    if managerFull then return .dropped .queueBackpressure
    return .requestTetherId pkt
  | some .pending => return .dropped .droppedAwaitingBind
  | some (.active pep) =>
    let a2aMac := a2aMicv blake3 pep.a2aMicvKey pkt.body
    let pkt ← Compress.compress pep.compressionMode fiveTuple.l3Type fiveTuple.l4Protocol pkt
    let pkt ← pkt.put a2aMac
    let pkt ← pkt.allocZeroedHeadroom saidSize
    return .forward { pkt with ingressStreamId := pep.tetherId }

/-- A packet from the actor. -/
def actorOutput (managerFull : Bool) (workerIndex : UInt8) (pkt : Packet) : Except Panic Outcome := do
  let pkt := { pkt with ingressLinkId := localActorLinkId, ingressLaneId := workerIndex }
  let (classification, fiveTuple) ← Classifier.classify pkt.fiveTuple pkt.body
  let pkt := { pkt with fiveTuple }
  match classification with
  | .error _ => return .dropped .inPacksDrop
  | .ok .firstFragment | .ok .subsequentFragment | .ok .nonIp => return .dropped .inPacksDrop
  | .ok .ok | .ok .unclassifiedL4 =>
    let (expired, pkt) ← decrementTtl pkt
    if expired then return .dropped .ttlExpired
    actorOutputPostClassify blake3 saidSize asm managerFull true pkt

/-- A compressed packet for the actor, from the tether of this stream. -/
def actorInput (tetherId : StreamId) (pkt : Packet) : Except Panic Outcome := do
  if pkt.body.length < saidSize then return .dropped .badStructure
  let (a2aSaid, pkt) ← pkt.get (Layout.vector saidSize)
  Panic.check (a2aSaid = .replicate saidSize 0) "not yet implemented: A2A SAID"
  if pkt.body.length < zdpA2aMacSize then return .dropped .badStructure
  let a2aMac := pkt.body.drop (pkt.body.length - zdpA2aMacSize)
  let pkt ← pkt.shrinkBy zdpA2aMacSize
  match asm.dlt tetherId with
  | none => return .dropped .unknownStreamId
  | some pep =>
    if asm.phMode = .adapter ∧ !asm.adapterOwnsAddress pep.tc.fiveTuple.dstAddress then return .dropped .otherError
    let pkt ← Compress.expand pep.tc.compressionMode pep.tc.fiveTuple pkt
    if a2aMicv blake3 pep.a2aMicvKey pkt.body ≠ a2aMac then return .dropped .micvFailure
    return .actorInput pkt

end
end Fastpath
end ZprCore.Datapath
