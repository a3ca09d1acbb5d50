import ZprCore.Proofs.ExpandTotal
import ZprCore.Proofs.Ingress
import ZprCore.Proofs.MgmtDispatch
import ZprCore.Proofs.ZdprBlocked
import ZprCore.Proofs.ZdprReceiver

/-! Which packets the ingress of management packets can handle. Substrate ingress looks at the
base header only; dispatch takes the header with the sequence number for granted. The windows
of every peer stay in a state in which each operation on them returns, except for
the sender's arithmetic. -/

open Option

open Nat

namespace ZprCore.Mgmt
open Datapath Zdpr Km Panic

variable {Transport Cert : Type} {receiver : Receiver} {link : LinkId}

/-- The windows of a peer, as they are between two events. -/
structure PeerState.Sound (peer : PeerState Transport Cert) : Prop where
  settled : Traffic.Settled peer.zdprSend
  headed : peer.zdprSend.Headed
  represents : ∃ ledger, Represents peer.zdprRecv ledger

theorem PeerState.Sound.same {peer other : PeerState Transport Cert} (sound : peer.Sound)
    (send : other.zdprSend = peer.zdprSend) (recv : other.zdprRecv = peer.zdprRecv) : other.Sound := by
  obtain ⟨settled, headed, represents⟩ := sound
  exact ⟨send ▸ settled, send ▸ headed, recv ▸ represents⟩

namespace Assembly
variable {asm next : Assembly Transport Cert}

def Sound (asm : Assembly Transport Cert) : Prop :=
  ∀ link peer, asm.peerTable.get link = some peer → peer.Sound

theorem Sound.of_table (sound : asm.Sound) (same : next.peerTable = asm.peerTable) : next.Sound := by
  intro link peer present
  rw [same] at present
  exact sound link peer present

theorem Sound.modify (sound : asm.Sound) {change}
    (keeps : ∀ peer, asm.peerTable.get link = some peer → (change peer).Sound) : (asm.modifyPeer link change).Sound := by
  intro other peer present
  rw [modifyPeer_get] at present
  split at present
  · rename_i here
    subst here
    obtain ⟨old, found, rfl⟩ := map_eq_some_iff.mp present
    exact keeps old found
  · exact sound other peer present

theorem recount_represents (kept : ∃ ledger, Represents receiver ledger) :
    ∃ ledger, Represents (countZdprReceiverStats receiver) ledger := by
  obtain ⟨ledger, represents⟩ := kept
  rw [countZdprReceiverStats_eq]
  exact ⟨ledger, represents.recount _⟩

theorem answered_represents {later sn isCancel disp} (kept : ∃ ledger, Represents receiver ledger)
    (answered : receiver.processPacketOrCancel sn isCancel = .ok (disp, later)) :
    ∃ ledger, Represents (countZdprReceiverStats later) ledger := by
  obtain ⟨ledger, represents⟩ := kept
  obtain ⟨after, same, refined, _⟩ := represents.processPacketOrCancel_refines sn isCancel
  rw [same] at answered
  cases answered
  exact recount_represents ⟨_, refined⟩

theorem Sound.dispatched (sound : asm.Sound) {pkt : Packet} (dispatched : asm.Dispatched pkt next) : next.Sound := by
  cases dispatched with
  | ignored => exact sound
  | keyed => exact sound.modify fun peer present => (sound _ peer present).same rfl rfl
  | @acknowledged peer seqNum isCanceled unblocked zdprSend present acknowledged =>
    refine Sound.of_table (sound.modify fun old found => ?_) (buildAndEgressPackets_peerTable _ _ _)
    rw [present] at found
    cases found
    have known := sound _ peer present
    have exactly := Traffic.acknowledge_exactly known.settled known.headed seqNum isCanceled
    rw [acknowledged] at exactly
    exact ⟨exactly.2.1, exactly.2.2, known.represents⟩
  | @canceled peer seqNum disp zdprRecv present answered
  | @sequenced peer seqNum wanted mgmtProcessor disp zdprRecv present asked queued answered =>
    refine Sound.of_table (sound.modify fun old found => ?_) (sendDisposition_peerTable _ _ _ _)
    rw [present] at found
    cases found
    have known := sound _ peer present
    exact ⟨known.settled, known.headed, answered_represents known.represents answered⟩

theorem Sound.tether (sound : asm.Sound) {adapterAddr interfaceAddr vacancy started}
    (done : asm.startTether adapterAddr interfaceAddr vacancy = .ok (started, next)) : next.Sound := by
  obtain ⟨_, ⟨_, rfl⟩ | ⟨link, peer, _, _, send, made, _, inserted⟩⟩ := startTether_ok done
  · exact sound
  intro other found present
  rw [PeerTable.get_insert inserted] at present
  split at present
  · cases present
    refine ⟨?_, ?_, _, .new made (by decide)⟩
    · rw [send]
      exact ⟨.new, fun stat => rfl⟩
    · rw [send]
      exact .new
  · exact sound other found present

end Assembly

namespace LinkEvent
variable {asm next}

/-- Room for a window of 2^63 entries or more cannot be reserved. -/
def Regular (_ : Assembly Transport Cert) : LinkEvent Transport Cert → Prop
  | .table (.call _ (.adjustWindowSize windowSize)) => windowSize < 2 ^ 63
  | _ => True

theorem step_sound {event : LinkEvent Transport Cert} (regular : Regular asm event) (sound : asm.Sound)
    (stepped : step asm event = .ok next) : next.Sound := by
  cases event with
  | dispatchWithLink pkt => exact sound.dispatched (Assembly.dispatchMgmtPacketWithLink_ok stepped)
  | dispatchWithAddr peerSa interfaceAddr pkt vacancy =>
    obtain ⟨middle, started, reached⟩ := Assembly.dispatchMgmtPacketWithAddr_ok stepped
    have kept : middle.Sound := by
      rcases started with rfl | ⟨started, done⟩
      · exact sound
      · exact sound.tether done
    rcases reached with rfl | ⟨link, queue, rfl⟩
    · exact kept
    · exact kept.modify fun peer present => (kept _ peer present).same rfl rfl
  | table event =>
    cases event with
    | startTether adapterAddr interfaceAddr vacancy =>
      obtain ⟨⟨started, last⟩, done, stepped⟩ := bind_ok.mp stepped
      cases stepped
      exact sound.tether done
    | remove link =>
      cases stepped
      intro other peer present
      rw [PeerTable.get_remove] at present
      split at present
      · cases present
      · exact sound other peer present
    | setSecurityAssociation link sa =>
      cases stepped
      change (asm.modifyPeer link fun peer => { peer with transportSa := sa }).Sound
      exact sound.modify fun peer present => (sound _ peer present).same rfl rfl
    | call link op =>
      obtain rfl | ⟨peer, zdprSend, messages, present, performed, rfl⟩ := Assembly.callSender_ok stepped
      · exact sound
      refine Assembly.Sound.of_table (sound.modify fun old found => ?_) (Assembly.buildAndEgressPackets_peerTable _ _ _)
      rw [present] at found
      cases found
      have known := sound _ peer present
      have called : Traffic.step peer.zdprSend (.call op) = .ok zdprSend := by
        rw [Traffic.step, performed]
        rfl
      have allowed : Traffic.Allowed peer.zdprSend (.call op) := by
        cases op with
        | adjustWindowSize windowSize => exact regular
        | _ => trivial
      exact ⟨Traffic.step_settled allowed known.settled called, Sender.perform_headed known.headed performed,
        known.represents⟩
    | process link =>
      cases stepped
      obtain same | ⟨peer, taken, _, _, same⟩ := asm.takeMgmtPacket_cases link
      · rw [same]
        exact sound
      · rw [same]
        exact sound.modify fun peer present => (sound _ peer present).same rfl rfl

end LinkEvent

/-- The headers that dispatch reads are not all there, or the message of a key manager is cut off. -/
def Malformed (body : List UInt8) : Prop :=
  match ZdpBaseHeader.layout.decode body with
  | none => True
  | some (baseHdr, rest) =>
    if baseHdr.packetType = ZdpPacketType.keyManagement then
      match ZdpKeyManagementHeader.layout.decode rest with
      | none => True
      | some (kmHdr, payload) => payload.length < kmHdr.messageLength.toNat
    else rest.length < ZdpMgmtHeader.layout.size

namespace Assembly
variable {asm next : Assembly Transport Cert}
variable {pkt : Packet} {α : Type} {layout : Layout α} {rest : List UInt8} {packetType : ZdpPacketType}

/-- What can be handled after the base header: a sequence number, unless it acknowledges the one
opposite to the last one sent, and anything if the handler looks whether there is one. -/
def Sequenced (asm : Assembly Transport Cert) (link : LinkId) (packetType : ZdpPacketType) (rest : List UInt8) : Prop :=
  match ZdpMgmtHeader.layout.decode rest with
  | none => packetType = ZdpPacketType.keyManagement ∨ packetType = ZdpPacketType.acknowledgement ∨
      packetType = ZdpPacketType.cancel ∨ packetType = ZdpPacketType.canceled
  | some (mgmtHdr, _) => packetType = ZdpPacketType.acknowledgement ∨ packetType = ZdpPacketType.canceled →
      ∀ peer ∈ asm.peerTable.get link, ¬ peer.zdprSend.Antipode mgmtHdr.sequenceNumber

/-- The packets that dispatch can handle. -/
def Dispatchable (asm : Assembly Transport Cert) (pkt : Packet) : Prop :=
  match ZdpBaseHeader.layout.decode pkt.body with
  | none => True
  | some (baseHdr, rest) => asm.Sequenced pkt.ingressLinkId baseHdr.packetType rest

theorem processPacketOrCancel_exactly (kept : ∃ ledger, Represents receiver ledger) (sn : SeqNum) (isCancel : Bool) :
    Exactly True (fun _ => True) (receiver.processPacketOrCancel sn isCancel) := by
  obtain ⟨ledger, represents⟩ := kept
  obtain ⟨after, same, _⟩ := represents.processPacketOrCancel_refines sn isCancel
  rw [same]
  exact .ok trivial

theorem handleCancel_exactly (sound : asm.Sound) (pkt : Packet) : Exactly True (fun _ => True) (asm.handleCancel pkt) := by
  unfold handleCancel
  cases read : pkt.readFromBuf ZdpMgmtHeader.layout with
  | none => exact .ok trivial
  | some found =>
    obtain ⟨mgmtHdr, inner⟩ := found
    dsimp only
    cases present : asm.peerTable.get inner.ingressLinkId with
    | none => exact .ok trivial
    | some peer =>
      exact (processPacketOrCancel_exactly (sound _ peer present).represents _ _).bind_total fun _ _ => .ok trivial

theorem handleAcknowledgementCanceledCommon_exactly (sound : asm.Sound) (isCanceled : Bool) :
    Exactly (∀ mgmtHdr rest, ZdpMgmtHeader.layout.decode pkt.body = some (mgmtHdr, rest) →
      ∀ peer ∈ asm.peerTable.get pkt.ingressLinkId, ¬ peer.zdprSend.Antipode mgmtHdr.sequenceNumber)
      (fun _ => True) (asm.handleAcknowledgementCanceledCommon pkt isCanceled) := by
  unfold handleAcknowledgementCanceledCommon Packet.readFromBuf
  cases read : ZdpMgmtHeader.layout.decode pkt.body with
  | none => exact ⟨nofun, trivial⟩
  | some found =>
    obtain ⟨mgmtHdr, rest⟩ := found
    dsimp only [Option.map]
    cases present : asm.peerTable.get pkt.ingressLinkId with
    | none => exact ⟨nofun, trivial⟩
    | some peer =>
      have known := sound _ peer present
      have exactly := (Traffic.acknowledge_exactly known.settled known.headed mgmtHdr.sequenceNumber isCanceled)
      refine (exactly.bind_total fun done _ => .ok trivial).iff ?_
      simp

theorem dispatchSequenced_exactly (sound : asm.Sound) (pkt : Packet) (seqNum : SeqNum) :
    Exactly True (fun _ => True) (asm.dispatchSequenced pkt seqNum) := by
  unfold dispatchSequenced
  dsimp only
  cases present : asm.peerTable.get pkt.ingressLinkId with
  | none => exact .ok trivial
  | some peer =>
    obtain ⟨ledger, represents⟩ := (sound _ peer present).represents
    dsimp only
    rw [represents.shouldProcessPacket_refines seqNum, ok_bind]
    split
    · exact (processPacketOrCancel_exactly ⟨ledger, represents⟩ _ _).bind_total fun _ _ => .ok trivial
    · exact .ok trivial

theorem advance_decoded {value} (read : layout.decode pkt.body = some (value, rest)) :
    pkt.advance layout.size = .ok { pkt with headroom := pkt.headroom + layout.size, body := rest } := by
  have whole := layout.decode_some.mp read
  have size := layout.encode_length value
  have long : layout.size ≤ pkt.body.length := by
    rw [whole, List.length_append, size]
    exact le_add_right _ _
  rw [Packet.advance, check_bind long, whole, List.drop_left' size]
  rfl

theorem sequenced_acknowledges (kind : packetType = ZdpPacketType.acknowledgement ∨ packetType = ZdpPacketType.canceled) :
    (∀ mgmtHdr payload, ZdpMgmtHeader.layout.decode rest = some (mgmtHdr, payload) →
      ∀ peer ∈ asm.peerTable.get link, ¬ peer.zdprSend.Antipode mgmtHdr.sequenceNumber) ↔
        asm.Sequenced link packetType rest := by
  unfold Sequenced
  cases ZdpMgmtHeader.layout.decode rest with
  | none =>
    refine iff_of_true nofun ?_
    rcases kind with acknowledgement | canceled
    · exact .inr (.inl acknowledgement)
    · exact .inr (.inr (.inr canceled))
  | some found =>
    constructor
    · exact fun opposite _ => opposite _ _ rfl
    intro opposite mgmtHdr payload same
    cases same
    exact opposite kind

theorem sequenced_other (kind : packetType = ZdpPacketType.keyManagement ∨ packetType = ZdpPacketType.cancel) :
    asm.Sequenced link packetType rest := by
  unfold Sequenced
  split
  · rcases kind with key | cancel
    · exact .inl key
    · exact .inr (.inr (.inl cancel))
  · intro answer
    rcases kind with rfl | rfl <;> exact absurd answer (by decide)

theorem dispatchMgmtPacketWithLink_exactly (sound : asm.Sound) (pkt : Packet) :
    Exactly (asm.Dispatchable pkt) (fun _ => True) (asm.dispatchMgmtPacketWithLink pkt) := by
  unfold dispatchMgmtPacketWithLink Dispatchable
  cases read : ZdpBaseHeader.layout.decode pkt.body with
  | none => exact .ok trivial
  | some found =>
    obtain ⟨baseHdr, rest⟩ := found
    dsimp only
    rw [advance_decoded read]
    simp only [ok_bind]
    split
    · rename_i key
      exact ⟨sequenced_other (.inl key), trivial⟩
    split
    · rename_i acknowledgement
      exact (handleAcknowledgementCanceledCommon_exactly sound false).iff (sequenced_acknowledges (.inl acknowledgement))
    split
    · rename_i cancel
      exact (handleCancel_exactly sound _).iff (iff_of_true trivial (sequenced_other (.inr cancel)))
    split
    · rename_i canceled
      exact (handleAcknowledgementCanceledCommon_exactly sound true).iff (sequenced_acknowledges (.inr canceled))
    rename_i key acknowledgement cancel canceled
    unfold Sequenced
    cases ZdpMgmtHeader.layout.decode rest with
    | none =>
      refine Exactly.error.iff (iff_of_false id ?_)
      simp [key, acknowledgement, cancel, canceled]
    | some found =>
      refine (dispatchSequenced_exactly sound pkt _).iff (iff_of_true trivial ?_)
      simp [acknowledgement, canceled]

theorem short_decode {bytes} (short : bytes.length < layout.size) : layout.decode bytes = none := by
  obtain ⟨read, _⟩ | ⟨_, _, _, _, long⟩ := layout.decode_cases bytes
  · exact read
  · exact absurd long (not_le.mpr short)

theorem short_readFromBuf (short : pkt.body.length < layout.size) : pkt.readFromBuf layout = none := by
  rw [Packet.readFromBuf, short_decode short, map_none]

/-- Handlers that look for the sequence number leave a packet without one alone. -/
theorem handle_short (asm : Assembly Transport Cert) (pkt : Packet) (short : pkt.body.length < ZdpMgmtHeader.layout.size) :
    (∀ isCanceled, asm.handleAcknowledgementCanceledCommon pkt isCanceled = .ok asm) ∧
      asm.handleCancel pkt = .ok asm ∧ asm.zdprEvent pkt = some .badStructure := by
  have none := short_readFromBuf short
  refine ⟨fun isCanceled => ?_, ?_, ?_⟩
  · unfold handleAcknowledgementCanceledCommon
    rw [none]
    rfl
  · unfold handleCancel
    rw [none]
    rfl
  · unfold zdprEvent
    rw [none]

theorem handleKeyManagement_malformed (asm : Assembly Transport Cert) (pkt : Packet)
    (malformed : match ZdpKeyManagementHeader.layout.decode pkt.body with
      | none => True
      | some (kmHdr, payload) => payload.length < kmHdr.messageLength.toNat) :
    asm.handleKeyManagement pkt = asm ∧
      (asm.keyManagementEvent pkt = some .badStructure ∨ asm.keyManagementEvent pkt = some .otherError) := by
  unfold handleKeyManagement keyManagementEvent Packet.readFromBuf
  cases read : ZdpKeyManagementHeader.layout.decode pkt.body with
  | none => exact ⟨rfl, .inl rfl⟩
  | some found =>
    obtain ⟨kmHdr, payload⟩ := found
    rw [read] at malformed
    dsimp only [Option.map] at malformed ⊢
    by_cases mismatch : asm.kmType kmHdr.messageType = .noise ∧ asm.kmImpl ≠ .noise ∨
        asm.kmType kmHdr.messageType = .null ∧ asm.kmImpl ≠ .null
    · rw [if_pos mismatch, if_pos mismatch]
      exact ⟨rfl, .inr rfl⟩
    · rw [if_neg mismatch, if_neg mismatch, if_pos malformed, if_pos malformed]
      exact ⟨rfl, .inl rfl⟩

theorem malformed_counted (malformed : Malformed pkt.body) (dispatched : asm.dispatchMgmtPacketWithLink pkt = .ok next) :
    next = asm ∧ ∃ event, asm.dispatchEvent pkt = .ok (some event) ∧ (event = .badStructure ∨ event = .otherError) := by
  unfold Malformed at malformed
  unfold dispatchMgmtPacketWithLink at dispatched
  unfold dispatchEvent
  cases read : ZdpBaseHeader.layout.decode pkt.body with
  | none =>
    rw [read] at dispatched
    cases dispatched
    exact ⟨rfl, _, rfl, .inl rfl⟩
  | some found =>
    obtain ⟨baseHdr, rest⟩ := found
    simp only [read, advance_decoded read, ok_bind] at malformed dispatched ⊢
    by_cases key : baseHdr.packetType = ZdpPacketType.keyManagement
    · rw [if_pos key] at malformed dispatched ⊢
      cases dispatched
      obtain ⟨same, counted⟩ := asm.handleKeyManagement_malformed
        { pkt with headroom := pkt.headroom + ZdpBaseHeader.layout.size, body := rest } malformed
      rcases counted with counted | counted
      · exact ⟨same, _, congrArg Except.ok counted, .inl rfl⟩
      · exact ⟨same, _, congrArg Except.ok counted, .inr rfl⟩
    · rw [if_neg key] at malformed dispatched ⊢
      obtain ⟨answered, canceled, counted⟩ := asm.handle_short
        { pkt with headroom := pkt.headroom + ZdpBaseHeader.layout.size, body := rest } malformed
      rw [handleAcknowledgement, handleCanceled, answered, answered, canceled, short_decode malformed] at dispatched
      rw [counted, short_decode malformed]
      by_cases kind : baseHdr.packetType = ZdpPacketType.acknowledgement ∨ baseHdr.packetType = ZdpPacketType.cancel ∨
          baseHdr.packetType = ZdpPacketType.canceled
      · rw [if_pos kind]
        refine ⟨?_, _, rfl, .inl rfl⟩
        rcases kind with same | same | same <;> simp only [same] at dispatched <;> cases dispatched <;> rfl
      simp only [not_or] at kind
      rw [if_neg kind.1, if_neg kind.2.1, if_neg kind.2.2] at dispatched
      cases dispatched

end Assembly
end ZprCore.Mgmt

namespace ZprCore.Datapath.Substrate
open Km Mgmt Panic

variable {Transport Cert : Type} {blake3 : Blake3} {snow}

/-- A datagram decrypts to a packet whose ZPI has been read. -/
def Decrypts (blake3 : Blake3) (snow : StatelessTransport Transport) (asm : Mgmt.Assembly Transport Cert)
    (datagram inner : Packet) (zpiHdr : ZdpZpiHeader) : Prop :=
  ∃ rest plain again, ZdpZpiHeader.layout.decode datagram.body = some (zpiHdr, rest) ∧
    decrypt blake3 snow asm zpiHdr datagram = .ok (.ok plain) ∧
    plain.readFromBuf ZdpZpiHeader.layout = some (again, inner)

theorem pushHeader_readFromBuf {α : Type} {layout} {pkt rest : Packet} {value : α}
    (read : pkt.readFromBuf layout = some (value, rest)) : rest.pushHeader (layout.encode value) = .ok pkt := by
  obtain ⟨⟨found, bytes⟩, decoded, same⟩ := map_eq_some_iff.mp read
  cases same
  have size := layout.encode_length value
  rw [Packet.pushHeader, check_bind (size ▸ Nat.le_add_left _ _)]
  dsimp only
  rw [size, Nat.add_sub_cancel, ← layout.decode_some.mp decoded]
  rfl

/-- A packet of a known link that is not a transit packet is dispatched as it is, or dropped. -/
theorem ingressKnown_nontransit (zpiHdr : ZdpZpiHeader) (pkt : Packet) (queueFull : Bool)
    (nontransit : pkt.body.head? ≠ some ZdpPacketType.transitPacket) :
    ∃ outcome, ingressKnown zpiHdr pkt queueFull = .ok outcome ∧
      (outcome = .dispatchedWithLink pkt ∨ ∃ counter, outcome = .dropped counter) ∧
      (pkt.body.length < ZdpBaseHeader.layout.size → outcome = .dropped .badStructure) := by
  unfold ingressKnown
  cases read : pkt.readFromBuf ZdpBaseHeader.layout with
  | none => exact ⟨_, rfl, .inr ⟨_, rfl⟩, fun _ => rfl⟩
  | some found =>
    obtain ⟨baseHdr, rest⟩ := found
    have whole := (Packet.readFromBuf_some read).2
    have long : ¬ pkt.body.length < ZdpBaseHeader.layout.size := by
      rw [whole, List.length_append, ZdpBaseHeader.layout.encode_length]
      exact not_lt.mpr (le_add_right _ _)
    have other : baseHdr.packetType ≠ ZdpPacketType.transitPacket := by
      intro transit
      rw [whole] at nontransit
      exact nontransit (congrArg some transit)
    dsimp only
    split
    · exact ⟨_, rfl, .inr ⟨_, rfl⟩, fun short => absurd short long⟩
    rw [pushHeader_readFromBuf read, ok_bind]
    refine ⟨_, rfl, ?_, fun short => absurd short long⟩
    cases queueFull with
    | true => exact .inr ⟨_, rfl⟩
    | false => exact .inl rfl

end ZprCore.Datapath.Substrate

namespace ZprCore.Mgmt.LinkEvent
open Datapath Datapath.Substrate Zdpr Km Panic

variable {Transport Cert : Type} {blake3 : Blake3} {snow}
  {before start asm : Assembly Transport Cert}

/-- Ingress always returns for a packet of a known link other than a transit packet. What it
dispatches is handled exactly if it is dispatchable, in any state the links have reached by
then; if it is malformed, it is counted and changes nothing. -/
theorem ingress_dispatch_total_iff {peerSa : SubstrateAddr} {interfaceAddr : ScopedIpAddr} {datagram inner : Packet}
    {zpiHdr : ZdpZpiHeader} {events : List (LinkEvent Transport Cert)}
    (known : before.peerTable.lookupPeer peerSa interfaceAddr ≠ linkIdUnknown)
    (decrypts : Decrypts blake3 snow before
      { datagram with ingressLinkId := before.peerTable.lookupPeer peerSa interfaceAddr } inner zpiHdr)
    (nontransit : inner.body.head? ≠ some ZdpPacketType.transitPacket)
    (fresh : ∀ link, start.peerTable.get link = none) (run : Runs.Run step Regular start events asm) (queueFull : Bool) :
    (∃ outcome, substrateIngress blake3 snow before peerSa interfaceAddr datagram queueFull = .ok outcome ∧
      (outcome = .dispatchedWithLink inner ∨ ∃ counter, outcome = .dropped counter) ∧
      (inner.body.length < ZdpBaseHeader.layout.size → outcome = .dropped .badStructure)) ∧
    ((∃ next, asm.dispatchMgmtPacketWithLink inner = .ok next ∧ (Malformed inner.body → next = asm ∧
      ∃ event, asm.dispatchEvent inner = .ok (some event) ∧ (event = .badStructure ∨ event = .otherError))) ↔
        asm.Dispatchable inner) := by
  constructor
  · obtain ⟨rest, plain, again, first, decrypted, second⟩ := decrypts
    have link : inner.ingressLinkId ≠ linkIdUnknown := by
      rw [(Packet.readFromBuf_some second).1, decrypt_link decrypted]
      exact known
    unfold substrateIngress ingressAttributed
    simp only [first, decrypted, ok_bind, second, if_neg link]
    exact ingressKnown_nontransit zpiHdr inner queueFull nontransit
  · have sound := run.invariant Assembly.Sound (fun _ _ _ regular kept stepped => step_sound regular kept stepped) ?_
    · rw [← (Assembly.dispatchMgmtPacketWithLink_exactly sound inner).exists_iff]
      refine exists_congr fun next => and_congr_right fun dispatched => iff_of_true (fun malformed => ?_) trivial
      exact Assembly.malformed_counted malformed dispatched
    intro link peer present
    rw [fresh link] at present
    cases present

/-- The bytes of a packet under the HMAC ZPI of the sample association. -/
def sampleDatagram (body : List UInt8) : Packet := { sampleTransit with body := 3 :: body ++ List.replicate 8 0 }

/-- What is left of it once it is decrypted. -/
def sampleInner (body : List UInt8) : Packet :=
  { sampleTransit with headroom := 1, body, tailroom := 72, ingressLinkId := 1 }

def emptyPeers : Assembly Unit Unit := { samplePeers with peerTable := ⟨∅, ∅⟩ }

/-- A link comes up. -/
def bringUp : List (LinkEvent Unit Unit) :=
  [.table (.startTether sampleAddr sampleInterface ⟨some ⟨1, Nat.one_ne_zero⟩, 0, false⟩),
    .table (.setSecurityAssociation 1 (some sampleSa))]

theorem bringUp_runs : Runs.Run step Regular emptyPeers bringUp samplePeers :=
  .cons trivial rfl (.cons trivial rfl (.nil _))

/-- A discard packet with sequence number zero. -/
def discardBytes : List UInt8 := [130, 0, 0, 0, 0, 0, 0, 0, 0, 0]

theorem ingress_dispatch_total_sample :
    Decrypts zeroHash closedTransport samplePeers { sampleDatagram discardBytes with ingressLinkId := 1 }
      (sampleInner discardBytes) ⟨3⟩ ∧
    Runs.Run step Regular emptyPeers bringUp samplePeers ∧
    (∃ outcome, substrateIngress zeroHash closedTransport samplePeers sampleAddr sampleInterface
        (sampleDatagram discardBytes) false = .ok outcome ∧
      (outcome = .dispatchedWithLink (sampleInner discardBytes) ∨ ∃ counter, outcome = .dropped counter) ∧
      ((sampleInner discardBytes).body.length < ZdpBaseHeader.layout.size → outcome = .dropped .badStructure)) ∧
    ((∃ next, samplePeers.dispatchMgmtPacketWithLink (sampleInner discardBytes) = .ok next ∧
      (Malformed (sampleInner discardBytes).body → next = samplePeers ∧
        ∃ event, samplePeers.dispatchEvent (sampleInner discardBytes) = .ok (some event) ∧
          (event = .badStructure ∨ event = .otherError))) ↔
        samplePeers.Dispatchable (sampleInner discardBytes)) := by
  have decrypts : Decrypts zeroHash closedTransport samplePeers
      { sampleDatagram discardBytes with ingressLinkId := 1 } (sampleInner discardBytes) ⟨3⟩ :=
    ⟨_, _, _, rfl, rfl, rfl⟩
  have known : samplePeers.peerTable.lookupPeer sampleAddr sampleInterface ≠ linkIdUnknown :=
    show (1 : LinkId) ≠ linkIdUnknown by decide
  have fresh link : emptyPeers.peerTable.get link = none := by
    simp [PeerTable.get, emptyPeers, Table.get_empty]
  exact ⟨decrypts, bringUp_runs, ingress_dispatch_total_iff known decrypts (by decide) fresh bringUp_runs false⟩

/-- A packet without a sequence number gets past ingress and stops dispatch; so does an
acknowledgement of the number opposite to the last one sent. -/
theorem ingress_dispatch_stops : Runs.Run step Regular emptyPeers bringUp samplePeers ∧
    substrateIngress zeroHash closedTransport samplePeers sampleAddr sampleInterface (sampleDatagram [130, 0]) false =
      .ok (.dispatchedWithLink (sampleInner [130, 0])) ∧
    samplePeers.dispatchMgmtPacketWithLink (sampleInner [130, 0]) =
      .error (.assertion "called `Result::unwrap()` on an `Err` value") ∧
    substrateIngress zeroHash closedTransport samplePeers sampleAddr sampleInterface
      (sampleDatagram [254, 0, 127, 255, 255, 255, 255, 255, 255, 255]) false =
        .ok (.dispatchedWithLink (sampleInner [254, 0, 127, 255, 255, 255, 255, 255, 255, 255])) ∧
    samplePeers.dispatchMgmtPacketWithLink (sampleInner [254, 0, 127, 255, 255, 255, 255, 255, 255, 255]) =
      .error .overflow :=
  ⟨bringUp_runs, rfl, rfl, rfl, rfl⟩

end ZprCore.Mgmt.LinkEvent
