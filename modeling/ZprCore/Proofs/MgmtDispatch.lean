import ZprCore.Mgmt.System

/-! What dispatch and the other tasks can do to the peers. Every one of them leaves a peer
alone, changes it in place, or inserts or removes it. -/

namespace ZprCore.Mgmt
open Datapath Zdpr Km Panic

variable {Transport Cert : Type}

namespace PeerTable
variable {table next : PeerTable Transport Cert}

@[simp] theorem get_modify (table : PeerTable Transport Cert) (link other : LinkId)
    (change) :
    (table.modify link change).get other = if other = link then (table.get other).map change else table.get other := by
  simp only [get, modify, Table.get_modify]
  by_cases unknown : other = linkIdUnknown
  · simp only [unknown, if_true, Option.map_none, ite_self]
  · simp only [unknown, if_false]

@[simp] theorem get_remove (table : PeerTable Transport Cert) (link other : LinkId) :
    (table.remove link).get other = if other = link then none else table.get other := by
  unfold remove
  cases found : table.get link with
  | none =>
    by_cases same : other = link
    · rw [if_pos same, same, found]
    · rw [if_neg same]
  | some peer =>
    simp only [get, Table.get_erase]
    by_cases unknown : other = linkIdUnknown
    · simp only [unknown, if_true, ite_self]
    · simp only [unknown, if_false]

theorem get_insert {link peer} (inserted : table.insert link peer = .ok next) (other : LinkId) :
    next.get other = if other = link.val then some peer else table.get other := by
  have slab : next.peerSlab = AList.insert link.val peer table.peerSlab := by
    unfold insert at inserted
    dsimp only at inserted
    split at inserted
    · cases inserted
      rfl
    obtain ⟨_, _, inserted⟩ := bind_ok.mp inserted
    cases inserted
    rfl
  unfold get
  by_cases unknown : other = linkIdUnknown
  · rw [if_pos unknown, if_pos unknown, if_neg (unknown ▸ link.property.symm)]
  · rw [if_neg unknown, if_neg unknown, slab]
    exact Table.get_insert _ _ _ _

end PeerTable

namespace Assembly
variable {asm next : Assembly Transport Cert}
variable {pkt rest : Packet} {interfaceAddr : ScopedIpAddr}

@[simp] theorem modifyPeer_get (asm : Assembly Transport Cert) (link other : LinkId)
    (change) :
    (asm.modifyPeer link change).peerTable.get other =
      if other = link then (asm.peerTable.get other).map change else asm.peerTable.get other :=
  PeerTable.get_modify asm.peerTable link other change

@[simp] theorem buildAndEgressPackets_peerTable (asm : Assembly Transport Cert) (link : LinkId) (packets : List Egress) :
    (asm.buildAndEgressPackets link packets).peerTable = asm.peerTable := by
  unfold buildAndEgressPackets
  split <;> rfl

theorem buildAndEgressPackets_egress (asm : Assembly Transport Cert) (link : LinkId) (packets : List Egress) :
    ∃ sent, (sent = [] ∨ sent = packets) ∧
      (asm.buildAndEgressPackets link packets).mgmtSubstrateEgress = asm.mgmtSubstrateEgress ++ sent := by
  unfold buildAndEgressPackets
  split
  · exact ⟨[], .inl rfl, by simp⟩
  · exact ⟨packets, .inr rfl, rfl⟩

@[simp] theorem sendDisposition_peerTable (asm : Assembly Transport Cert) (link : LinkId) (seqNum : SeqNum)
    (disp : Disposition) : (asm.sendDisposition link seqNum disp).peerTable = asm.peerTable := by
  unfold sendDisposition
  split
  · split <;> exact buildAndEgressPackets_peerTable _ _ _
  · rfl

theorem handleKeyManagement_cases (asm : Assembly Transport Cert) (pkt : Packet) :
    asm.handleKeyManagement pkt = asm ∨
      ∃ link queue, asm.handleKeyManagement pkt = asm.modifyPeer link fun peer => { peer with kmRx := some queue } := by
  unfold handleKeyManagement
  split
  · exact .inl rfl
  dsimp only
  split
  · exact .inl rfl
  split
  · exact .inl rfl
  unfold handleInboundKmMsg
  split
  · exact .inl rfl
  · exact .inr ⟨_, _, rfl⟩

/-- What the dispatch of a packet with a link can do. A packet that is not about key
management reaches the peer at its link id, if there is one. -/
inductive Dispatched (asm : Assembly Transport Cert) (pkt : Packet) : Assembly Transport Cert → Prop where
  | ignored : Dispatched asm pkt asm
  | keyed {link queue} (key : pkt.body.head? = some ZdpPacketType.keyManagement) :
      Dispatched asm pkt (asm.modifyPeer link fun peer => { peer with kmRx := some queue })
  | acknowledged {peer seqNum isCanceled unblocked zdprSend} (present : asm.peerTable.get pkt.ingressLinkId = some peer)
      (acknowledged : acknowledge peer.zdprSend seqNum isCanceled = .ok (unblocked, zdprSend)) :
      Dispatched asm pkt ((asm.modifyPeer pkt.ingressLinkId fun peer => { peer with zdprSend }).buildAndEgressPackets
        pkt.ingressLinkId (unblocked.map fun (seqNum, packet) => .packet pkt.ingressLinkId seqNum packet))
  | canceled {peer seqNum disp zdprRecv} (present : asm.peerTable.get pkt.ingressLinkId = some peer)
      (answered : peer.zdprRecv.processCancel seqNum = .ok (disp, zdprRecv)) :
      Dispatched asm pkt ((asm.modifyPeer pkt.ingressLinkId fun peer =>
        { peer with zdprRecv := countZdprReceiverStats zdprRecv }).sendDisposition pkt.ingressLinkId seqNum disp)
  | sequenced {peer seqNum wanted mgmtProcessor disp zdprRecv}
      (present : asm.peerTable.get pkt.ingressLinkId = some peer)
      (asked : peer.zdprRecv.shouldProcessPacket seqNum = .ok wanted)
      (queued : (if wanted then peer.mgmtProcessor.trySend ⟨seqNum, pkt⟩ else some peer.mgmtProcessor) =
        some mgmtProcessor)
      (answered : peer.zdprRecv.processPacket seqNum = .ok (disp, zdprRecv)) :
      Dispatched asm pkt ((asm.modifyPeer pkt.ingressLinkId fun peer =>
        { peer with mgmtProcessor, zdprRecv := countZdprReceiverStats zdprRecv }).sendDisposition
          pkt.ingressLinkId seqNum disp)

theorem advance_link {cnt} (advanced : pkt.advance cnt = .ok rest) : rest.ingressLinkId = pkt.ingressLinkId := by
  obtain ⟨_, _, advanced⟩ := bind_ok.mp advanced
  cases advanced
  rfl

theorem handleCancel_ok (link : rest.ingressLinkId = pkt.ingressLinkId) (handled : asm.handleCancel rest = .ok next) :
    Dispatched asm pkt next := by
  unfold handleCancel at handled
  cases read : rest.readFromBuf ZdpMgmtHeader.layout with
  | none =>
    simp only [read] at handled
    cases handled
    exact .ignored
  | some found =>
    obtain ⟨mgmtHdr, inner⟩ := found
    have same := (Packet.readFromBuf_some read).1.trans link
    simp only [read, same] at handled
    cases present : asm.peerTable.get pkt.ingressLinkId with
    | none =>
      simp only [present] at handled
      cases handled
      exact .ignored
    | some peer =>
      simp only [present] at handled
      obtain ⟨⟨disp, zdprRecv⟩, answered, handled⟩ := bind_ok.mp handled
      cases handled
      exact .canceled present answered

theorem handleAcknowledgementCanceledCommon_ok {isCanceled} (link : rest.ingressLinkId = pkt.ingressLinkId)
    (handled : asm.handleAcknowledgementCanceledCommon rest isCanceled = .ok next) : Dispatched asm pkt next := by
  unfold handleAcknowledgementCanceledCommon at handled
  cases read : rest.readFromBuf ZdpMgmtHeader.layout with
  | none =>
    simp only [read] at handled
    cases handled
    exact .ignored
  | some found =>
    obtain ⟨mgmtHdr, inner⟩ := found
    have same := (Packet.readFromBuf_some read).1.trans link
    simp only [read, same] at handled
    split at handled
    case h_2 =>
      cases handled
      exact .ignored
    rename_i peer present
    obtain ⟨⟨unblocked, zdprSend⟩, acknowledged, handled⟩ := bind_ok.mp handled
    cases handled
    exact .acknowledged present acknowledged

theorem dispatchSequenced_ok {seqNum} (dispatched : asm.dispatchSequenced pkt seqNum = .ok next) :
    Dispatched asm pkt next := by
  unfold dispatchSequenced at dispatched
  dsimp only at dispatched
  split at dispatched
  case h_2 =>
    cases dispatched
    exact .ignored
  rename_i peer present
  obtain ⟨wanted, asked, dispatched⟩ := bind_ok.mp dispatched
  split at dispatched
  case h_2 =>
    cases dispatched
    exact .ignored
  rename_i mgmtProcessor queued
  obtain ⟨⟨disp, zdprRecv⟩, answered, dispatched⟩ := bind_ok.mp dispatched
  cases dispatched
  exact .sequenced present asked queued answered

theorem dispatchMgmtPacketWithLink_ok (dispatched : asm.dispatchMgmtPacketWithLink pkt = .ok next) :
    Dispatched asm pkt next := by
  unfold dispatchMgmtPacketWithLink at dispatched
  cases headed : ZdpBaseHeader.layout.decode pkt.body with
  | none =>
    simp only [headed] at dispatched
    cases dispatched
    exact .ignored
  | some found =>
    obtain ⟨baseHdr, rest⟩ := found
    have first : pkt.body.head? = some baseHdr.packetType := by
      rw [ZdpBaseHeader.layout.decode_some.mp headed]
      rfl
    simp only [headed] at dispatched
    split at dispatched
    · rename_i key
      obtain ⟨inner, _, dispatched⟩ := bind_ok.mp dispatched
      cases dispatched
      obtain same | ⟨link, queue, same⟩ := asm.handleKeyManagement_cases inner
      · rw [same]
        exact .ignored
      · rw [same]
        exact .keyed (first.trans (congrArg some key))
    split at dispatched
    · obtain ⟨inner, advanced, dispatched⟩ := bind_ok.mp dispatched
      exact handleAcknowledgementCanceledCommon_ok (advance_link advanced) dispatched
    split at dispatched
    · obtain ⟨inner, advanced, dispatched⟩ := bind_ok.mp dispatched
      exact handleCancel_ok (advance_link advanced) dispatched
    split at dispatched
    · obtain ⟨inner, advanced, dispatched⟩ := bind_ok.mp dispatched
      exact handleAcknowledgementCanceledCommon_ok (advance_link advanced) dispatched
    split at dispatched
    · cases dispatched
    · exact dispatchSequenced_ok dispatched

/-- A tether is the peer of a link id that was free. -/
theorem startTether_ok {adapterAddr vacancy started}
    (done : asm.startTether adapterAddr interfaceAddr vacancy = .ok (started, next)) :
    next.mgmtSubstrateEgress = asm.mgmtSubstrateEgress ∧
    ((vacancy.link = none ∧ next = asm) ∨
      ∃ link peer, vacancy.link = some link ∧ peer.session = vacancy.session ∧ peer.zdprSend = .new ∧
        Receiver.new defaultZdprReceiveWindowSize = .ok peer.zdprRecv ∧
        peer.mgmtProcessor = .new mgmtProcessorQueueSize ∧ asm.peerTable.insert link peer = .ok next.peerTable) := by
  unfold startTether at done
  cases free : vacancy.link with
  | none =>
    simp only [free] at done
    cases done
    exact ⟨rfl, .inl ⟨rfl, rfl⟩⟩
  | some link =>
    simp only [free] at done
    obtain ⟨peer, made, done⟩ := bind_ok.mp done
    obtain ⟨zdprRecv, built, made⟩ := bind_ok.mp made
    cases made
    split at done
    all_goals
      obtain ⟨peerTable, inserted, done⟩ := bind_ok.mp done
      cases done
      exact ⟨rfl, .inr ⟨link, _, rfl, rfl, rfl, built, rfl, inserted⟩⟩

theorem dispatchMgmtPacketWithAddr_ok {peerSa vacancy}
    (dispatched : asm.dispatchMgmtPacketWithAddr peerSa interfaceAddr pkt vacancy = .ok next) :
    ∃ middle, (middle = asm ∨ ∃ started, asm.startTether peerSa interfaceAddr vacancy = .ok (started, middle)) ∧
      (next = middle ∨ ∃ link queue, next = middle.modifyPeer link fun peer => { peer with kmRx := some queue }) := by
  unfold dispatchMgmtPacketWithAddr at dispatched
  split at dispatched
  · split at dispatched
    · cases dispatched
      exact ⟨asm, .inl rfl, .inl rfl⟩
    obtain ⟨inner, _, dispatched⟩ := bind_ok.mp dispatched
    dsimp only at dispatched
    split at dispatched
    · cases dispatched
      exact ⟨asm, .inl rfl, asm.handleKeyManagement_cases _⟩
    obtain ⟨⟨started, middle⟩, tethered, dispatched⟩ := bind_ok.mp dispatched
    refine ⟨middle, .inr ⟨started, tethered⟩, ?_⟩
    cases started with
    | none =>
      cases dispatched
      exact .inl rfl
    | some link =>
      cases dispatched
      exact middle.handleKeyManagement_cases _
  · cases dispatched
    exact ⟨asm, .inl rfl, .inl rfl⟩

theorem callSender_ok {link op} (called : asm.callSender link op = .ok next) :
    next = asm ∨ ∃ peer zdprSend messages, asm.peerTable.get link = some peer ∧
      peer.zdprSend.perform op = .ok (messages, zdprSend) ∧ next = (asm.modifyPeer link fun peer =>
        { peer with zdprSend }).buildAndEgressPackets link (messages.filterMap (egressOf link)) := by
  unfold callSender at called
  split at called
  · rename_i peer present
    obtain ⟨⟨messages, zdprSend⟩, performed, called⟩ := bind_ok.mp called
    cases called
    exact .inr ⟨peer, zdprSend, messages, present, performed, rfl⟩
  · cases called
    exact .inl rfl

theorem takeMgmtPacket_cases (asm : Assembly Transport Cert) (link : LinkId) :
    asm.takeMgmtPacket link = asm ∨ ∃ peer taken, asm.peerTable.get link = some peer ∧
      taken.sent = peer.mgmtProcessor.sent ∧
      asm.takeMgmtPacket link = asm.modifyPeer link fun peer => { peer with mgmtProcessor := taken } := by
  unfold takeMgmtPacket
  split
  · exact .inl rfl
  rename_i item mgmtProcessor received
  obtain ⟨peer, present, received⟩ := Option.bind_eq_some_iff.mp received
  exact .inr ⟨peer, mgmtProcessor, present, Channel.tryRecv_some received, rfl⟩

end Assembly
end ZprCore.Mgmt
