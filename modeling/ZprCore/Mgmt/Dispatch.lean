import ZprCore.Mgmt.PeerTable

/-! Dispatch of management packets from the fastpath (`mgmt/dispatch.rs`). A packet is
handed to the peer its link id leads to when it is dispatched. The event counted for a packet
is a function of its own; timers that are reset are left out, and so are internal links, whose
packets never reach the substrate. -/

namespace ZprCore.Mgmt
open Datapath Zdpr Km

section Statistics
variable {Pkt : Type} (sender : Sender Pkt)

def senderStats : List SenderStat := [.invalidAck, .tooOldAck, .duplicateAck, .tooNewAck]
def receiverStats : List ReceiverStat := [.tooOld, .duplicate, .tooNew, .outOfOrder]

/-- Every statistic is fetched into the counters and starts again at zero. -/
def countZdprSenderStats : Sender Pkt :=
  senderStats.foldl (fun sender stat => (sender.fetchResetStat stat).2) sender

def countZdprReceiverStats (receiver : Receiver) : Receiver :=
  receiverStats.foldl (fun receiver stat => (receiver.fetchResetStat stat).2) receiver

@[simp] theorem countZdprSenderStats_eq (sender : Sender Pkt) :
    countZdprSenderStats sender = { sender with stats := fun _ => 0 } := by
  simp only [countZdprSenderStats, senderStats, List.foldl, Sender.fetchResetStat, Sender.mk.injEq, true_and]
  funext stat
  cases stat <;> rfl

@[simp] theorem countZdprReceiverStats_eq (receiver : Receiver) :
    countZdprReceiverStats receiver = { receiver with stats := fun _ => 0 } := by
  simp only [countZdprReceiverStats, receiverStats, List.foldl, Receiver.fetchResetStat, Receiver.mk.injEq, true_and]
  funext stat
  cases stat <;> rfl

/-- The loop over blocked packets while the window has room. -/
def sendUnblocked : Nat → Sender Pkt → Except Panic (List (SeqNum × Pkt) × Sender Pkt)
  | 0, sender => .ok ([], sender)
  | rounds + 1, sender =>
    if sender.unblockNeeded then do
      let (first, _, sender) ← sender.enqueueNextBlockedPacket
      let (rest, sender) ← sendUnblocked rounds sender
      return (first :: rest, sender)
    else .ok ([], sender)

def processAcknowledgement (seqNum : SeqNum) : Bool → Except Panic (Sender Pkt)
  | true => do return (← sender.processCanceled seqNum).2
  | false => do return (← sender.processAck seqNum).2.2

/-- What an acknowledgement or cancellation does to the sender, with the packets that it
unblocks. Every round of the loop takes a packet from the blocked queue, so the length of
that queue bounds the rounds. -/
def acknowledge (seqNum : SeqNum) (isCanceled : Bool) : Except Panic (List (SeqNum × Pkt) × Sender Pkt) := do
  let sender := countZdprSenderStats (← processAcknowledgement sender seqNum isCanceled)
  sendUnblocked sender.blocked.length sender

end Statistics

variable {Transport Cert : Type}

inductive ManagementCounterType where
  | queueBackpressure | peerRemoved | badStructure | otherError

namespace Assembly
variable (asm : Assembly Transport Cert) (pkt : Packet) (link : LinkId)

/-- Packets handed to the substrate egress queue, which may still drop them. -/
def buildAndEgressPackets (packets : List Egress) : Assembly Transport Cert :=
  match asm.peerTable.get link with
  | none => asm
  | some _ => { asm with mgmtSubstrateEgress := asm.mgmtSubstrateEgress ++ packets }

section
variable (seqNum : SeqNum)

def sendZdprCommon (packetType : ZdpPacketType) : Assembly Transport Cert :=
  asm.buildAndEgressPackets link [.zdpr link packetType seqNum]

def sendAcknowledgement : Assembly Transport Cert :=
  asm.sendZdprCommon link seqNum ZdpPacketType.acknowledgement

def sendCanceled : Assembly Transport Cert :=
  asm.sendZdprCommon link seqNum ZdpPacketType.canceled

def sendDisposition (disp : Disposition) : Assembly Transport Cert :=
  if disp.shouldAck then
    if disp.ackIsCanceled then asm.sendCanceled link seqNum else asm.sendAcknowledgement link seqNum
  else asm

end

def modifyPeer (change : PeerState Transport Cert → PeerState Transport Cert) : Assembly Transport Cert :=
  { asm with peerTable := asm.peerTable.modify link change }

def handleCancel : Except Panic (Assembly Transport Cert) := do
  let some (mgmtHdr, pkt) := pkt.readFromBuf ZdpMgmtHeader.layout | return asm
  let some peer := asm.peerTable.get pkt.ingressLinkId | return asm
  let (disp, zdprRecv) ← peer.zdprRecv.processCancel mgmtHdr.sequenceNumber
  let asm := asm.modifyPeer pkt.ingressLinkId fun peer => { peer with zdprRecv := countZdprReceiverStats zdprRecv }
  return asm.sendDisposition pkt.ingressLinkId mgmtHdr.sequenceNumber disp

/-- An acknowledgement and a cancellation are the same to dispatch: the packet they refer
to is done with. -/
def handleAcknowledgementCanceledCommon (isCanceled : Bool) : Except Panic (Assembly Transport Cert) := do
  let some (mgmtHdr, pkt) := pkt.readFromBuf ZdpMgmtHeader.layout | return asm
  let some peer := asm.peerTable.get pkt.ingressLinkId | return asm
  let (unblocked, zdprSend) ← acknowledge peer.zdprSend mgmtHdr.sequenceNumber isCanceled
  let asm := asm.modifyPeer pkt.ingressLinkId fun peer => { peer with zdprSend }
  return asm.buildAndEgressPackets pkt.ingressLinkId
    (unblocked.map fun (seqNum, packet) => .packet pkt.ingressLinkId seqNum packet)

def handleAcknowledgement : Except Panic (Assembly Transport Cert) :=
  asm.handleAcknowledgementCanceledCommon pkt false

def handleCanceled : Except Panic (Assembly Transport Cert) :=
  asm.handleAcknowledgementCanceledCommon pkt true

/-- The message goes to the key manager of the link if there is one with room for it. -/
def handleInboundKmMsg (fromLink : LinkId) (kmPayload : List UInt8) : Assembly Transport Cert :=
  match ((asm.peerTable.get fromLink).bind (·.kmRx)).bind (·.trySend kmPayload) with
  | none => asm
  | some queue => asm.modifyPeer fromLink fun peer => { peer with kmRx := some queue }

def handleKeyManagement : Assembly Transport Cert :=
  match pkt.readFromBuf ZdpKeyManagementHeader.layout with
  | none => asm
  | some (kmHdr, pkt) =>
    let kmType := asm.kmType kmHdr.messageType
    if kmType = .noise ∧ asm.kmImpl ≠ .noise ∨ kmType = .null ∧ asm.kmImpl ≠ .null then asm
    else if pkt.body.length < kmHdr.messageLength.toNat then asm
    else asm.handleInboundKmMsg pkt.ingressLinkId (pkt.body.take kmHdr.messageLength.toNat)

/-- A packet that is not about other packets is queued for the peer's management processor
unless it was seen before. If that queue is full, it is as if the packet never arrived. -/
def dispatchSequenced (seqNum : SeqNum) : Except Panic (Assembly Transport Cert) := do
  let link := pkt.ingressLinkId
  let some peer := asm.peerTable.get link | return asm
  let enqueued :=
    if ← peer.zdprRecv.shouldProcessPacket seqNum then peer.mgmtProcessor.trySend ⟨seqNum, pkt⟩
    else some peer.mgmtProcessor
  let some mgmtProcessor := enqueued | return asm
  let (disp, zdprRecv) ← peer.zdprRecv.processPacket seqNum
  let asm := asm.modifyPeer link fun peer =>
    { peer with mgmtProcessor, zdprRecv := countZdprReceiverStats zdprRecv }
  return asm.sendDisposition link seqNum disp

def dispatchMgmtPacketWithLink : Except Panic (Assembly Transport Cert) := do
  let some (baseHdr, rest) := ZdpBaseHeader.layout.decode pkt.body | return asm
  if baseHdr.packetType = ZdpPacketType.keyManagement then
    return asm.handleKeyManagement (← pkt.advance ZdpBaseHeader.layout.size)
  if baseHdr.packetType = ZdpPacketType.acknowledgement then
    asm.handleAcknowledgement (← pkt.advance ZdpBaseHeader.layout.size)
  else if baseHdr.packetType = ZdpPacketType.cancel then
    asm.handleCancel (← pkt.advance ZdpBaseHeader.layout.size)
  else if baseHdr.packetType = ZdpPacketType.canceled then
    asm.handleCanceled (← pkt.advance ZdpBaseHeader.layout.size)
  else
    match ZdpMgmtHeader.layout.decode rest with
    | none => throw (.assertion "called `Result::unwrap()` on an `Err` value")
    | some (mgmtHdr, _) => asm.dispatchSequenced pkt mgmtHdr.sequenceNumber

/-- The event counted for a packet about another packet, if it is not handed to a peer. -/
def zdprEvent : Option ManagementCounterType :=
  match pkt.readFromBuf ZdpMgmtHeader.layout with
  | none => some .badStructure
  | some (_, pkt) => if (asm.peerTable.get pkt.ingressLinkId).isNone then some .peerRemoved else none

def keyManagementEvent : Option ManagementCounterType :=
  match pkt.readFromBuf ZdpKeyManagementHeader.layout with
  | none => some .badStructure
  | some (kmHdr, pkt) =>
    let kmType := asm.kmType kmHdr.messageType
    if kmType = .noise ∧ asm.kmImpl ≠ .noise ∨ kmType = .null ∧ asm.kmImpl ≠ .null then some .otherError
    else if pkt.body.length < kmHdr.messageLength.toNat then some .badStructure
    else
      match ((asm.peerTable.get pkt.ingressLinkId).bind (·.kmRx)).bind
        (·.trySend (pkt.body.take kmHdr.messageLength.toNat)) with
      | none => some .otherError
      | some _ => none

def sequencedEvent (seqNum : SeqNum) : Except Panic (Option ManagementCounterType) := do
  let some peer := asm.peerTable.get pkt.ingressLinkId | return some .peerRemoved
  if (← peer.zdprRecv.shouldProcessPacket seqNum) && peer.mgmtProcessor.isFull then return some .queueBackpressure
  return none

/-- The event counted when a packet is dispatched (`count_event`), statistics of the windows
apart. -/
def dispatchEvent : Except Panic (Option ManagementCounterType) := do
  let some (baseHdr, rest) := ZdpBaseHeader.layout.decode pkt.body | return some .badStructure
  if baseHdr.packetType = ZdpPacketType.keyManagement then
    return asm.keyManagementEvent (← pkt.advance ZdpBaseHeader.layout.size)
  if baseHdr.packetType = ZdpPacketType.acknowledgement ∨ baseHdr.packetType = ZdpPacketType.cancel ∨
      baseHdr.packetType = ZdpPacketType.canceled then
    return asm.zdprEvent (← pkt.advance ZdpBaseHeader.layout.size)
  match ZdpMgmtHeader.layout.decode rest with
  | none => throw (.assertion "called `Result::unwrap()` on an `Err` value")
  | some (mgmtHdr, _) => asm.sequencedEvent pkt mgmtHdr.sequenceNumber

/-- Where a new peer goes: the vacant slot of the slab, if there is one, the number of the
session that starts there, and whether its link starts. -/
structure Vacancy where
  link : Option { link : LinkId // link ≠ linkIdUnknown }
  session : Nat
  starts : Bool

/-- A tether is a new peer with a key manager. -/
def startTether (adapterAddr : SubstrateAddr) (interfaceAddr : ScopedIpAddr) (vacancy : Vacancy) :
    Except Panic (Option LinkId × Assembly Transport Cert) := do
  match vacancy.link with
  | none => return (none, asm)
  | some link =>
    let peer ← PeerState.new vacancy.session adapterAddr interfaceAddr
    if vacancy.starts then
      let peerTable ← asm.peerTable.insert link { peer with kmRx := some (.new asm.kmLinkQueueSize) }
      return (some link.val, { asm with peerTable })
    else
      let peerTable ← asm.peerTable.insert link peer
      return (none, { asm with peerTable })

def dispatchMgmtPacketWithAddr (peerSa : SubstrateAddr) (interfaceAddr : ScopedIpAddr) (pkt : Packet) (vacancy : Vacancy) :
    Except Panic (Assembly Transport Cert) := do
  let some (baseHdr, _) := ZdpBaseHeader.layout.decode pkt.body | return asm
  if baseHdr.packetType ≠ ZdpPacketType.keyManagement then return asm
  let pkt ← pkt.advance ZdpBaseHeader.layout.size
  -- Earlier messages of the queue may already have started a tether with this address.
  let known := asm.peerTable.lookupPeer peerSa interfaceAddr
  if known ≠ linkIdUnknown then return asm.handleKeyManagement { pkt with ingressLinkId := known }
  match ← asm.startTether peerSa interfaceAddr vacancy with
  | (none, asm) => return asm
  | (some link, asm) => return asm.handleKeyManagement { pkt with ingressLinkId := link }

end Assembly
end ZprCore.Mgmt
