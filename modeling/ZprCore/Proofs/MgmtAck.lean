import ZprCore.Proofs.Ingress
import ZprCore.Proofs.MgmtDispatch
import ZprCore.Proofs.ZdprAgreement

/-! What an acknowledgement stands for. The receiver of a link refines the ledger of the
specification, and the queue of the management processor holds exactly the numbers the
ledger has as processed. Each packet moves the ledger on by less than 64, so fewer than 2^57
packets keep the numbers apart. -/

open List

namespace ZprCore.Zdpr
open Window Serial

/-- The receiver, the numbers queued for processing and the numbers acknowledged. -/
structure Accounts (bound : Int) (receiver : Receiver) (queued acked : List SeqNum) (ledger : Ledger) : Prop where
  represents : Represents receiver ledger
  start : ∀ item < 0, ledger.verdict item = some .canceled
  highest : -1 ≤ ledger.highest ∧ ledger.highest < bound
  nodup : queued.Nodup
  processed : ∀ sn, sn ∈ queued ↔ ∃ item ≥ 0, sn = BitVec.ofInt 64 item ∧ ledger.verdict item = some .processed
  acked : ∀ sn ∈ acked, sn ∈ queued

namespace Accounts
variable {bound : Int} {receiver next : Receiver} {queued acked : List SeqNum} {ledger : Ledger}

theorem new (made : Receiver.new 32 = .ok receiver) : Accounts 0 receiver [] [] Ledger.initial := by
  refine ⟨.new made (by decide), fun item below => Ledger.initial_below below, by decide, .nil, ?_, by simp⟩
  intro sn
  refine ⟨nofun, ?_⟩
  intro ⟨item, positive, _, processed⟩
  simp only [Ledger.initial] at processed
  rw [if_neg (by omega)] at processed
  cases processed

section
variable (accounts : Accounts bound receiver queued acked ledger) {disp : Disposition} {sn : SeqNum}
include accounts

theorem bounded {item verdict} (known : ledger.verdict item = some verdict) : item ≤ ledger.highest := by
  by_contra above
  rw [accounts.represents.valid.above item (by omega)] at known
  cases known

theorem item (sn : SeqNum) : sn = BitVec.ofInt 64 (ledger.itemOf receiver sn) := by
  rw [Ledger.itemOf, accounts.represents.highest]
  exact (ofInt_add_distance sn ledger.highest).symm

theorem widen {wider} (more : bound ≤ wider) : Accounts wider receiver queued acked ledger :=
  ⟨accounts.represents, accounts.start, ⟨accounts.highest.1, by have := accounts.highest.2; omega⟩, accounts.nodup,
    accounts.processed, accounts.acked⟩

theorem recount (stats : ReceiverStat → Nat) : Accounts bound { receiver with stats } queued acked ledger :=
  ⟨accounts.represents.recount stats, accounts.start, accounts.highest, accounts.nodup, accounts.processed, accounts.acked⟩

theorem repeats (represents : Represents next ledger) (more : List SeqNum) (known : ∀ sn ∈ more, sn ∈ queued) :
    Accounts (bound + 64) next queued (acked ++ more) ledger := by
  have highest := accounts.highest
  refine ⟨represents, accounts.start, ⟨highest.1, by omega⟩, accounts.nodup, accounts.processed, ?_⟩
  intro sn member
  rcases mem_append.mp member with before | new
  · exact accounts.acked sn before
  · exact known sn new

theorem records (small : bound + 64 ≤ 2 ^ 63) {item} (number : sn = BitVec.ofInt 64 item) (fresh : ledger.verdict item = none)
    (near : item < ledger.highest + 64) (verdict : Verdict) (represents : Represents next (ledger.record item verdict)) :
    Accounts (bound + 64) next (queued ++ if verdict = .processed then [sn] else [])
      (acked ++ if verdict = .processed then [sn] else []) (ledger.record item verdict) := by
  have highest := accounts.highest
  have positive : 0 ≤ item := by
    by_contra below
    rw [accounts.start item (by omega)] at fresh
    cases fresh
  have others : ∀ other verdict', (ledger.record item verdict).verdict other = some verdict' ↔
      ledger.verdict other = some verdict' ∨ other = item ∧ verdict = verdict' := by
    intro other verdict'
    by_cases here : other = item
    · rw [here, Log.record_same, fresh]
      simp
    · rw [Log.record_other _ _ here]
      simp [here]
  have absent : sn ∉ queued := by
    intro member
    obtain ⟨other, above, same, processed⟩ := (accounts.processed sn).mp member
    have low := accounts.bounded processed
    have equal := ofInt_inj (by decide) (by omega) (by omega) (number.symm.trans same)
    rw [← equal, fresh] at processed
    cases processed
  refine ⟨represents, ?_, ?_, ?_, ?_, ?_⟩
  · intro other below
    exact (others other _).mpr (.inl (accounts.start other below))
  · simp only [Log.record]
    omega
  · cases verdict with
    | canceled => simpa using accounts.nodup
    | processed =>
      refine nodup_append.mpr ⟨accounts.nodup, nodup_singleton sn, ?_⟩
      intro one member two last same
      rw [mem_singleton.mp last] at same
      exact absent (same ▸ member)
  · intro other
    rw [mem_append, accounts.processed other]
    constructor
    · rintro (⟨place, above, same, known⟩ | new)
      · exact ⟨place, above, same, (others place _).mpr (.inl known)⟩
      cases verdict with
      | canceled => cases new
      | processed =>
        cases mem_singleton.mp new
        exact ⟨item, positive, number, (others item _).mpr (.inr ⟨rfl, rfl⟩)⟩
    · rintro ⟨place, above, same, known⟩
      obtain before | ⟨rfl, rfl⟩ := (others place _).mp known
      · exact .inl ⟨place, above, same, before⟩
      · exact .inr (by simp [same, number])
  · intro other member
    rcases mem_append.mp member with before | new
    · exact mem_append_left _ (accounts.acked other before)
    · exact mem_append_right _ new

theorem wanted {wanted} (asked : receiver.shouldProcessPacket sn = .ok wanted)
    (answered : receiver.processPacket sn = .ok (disp, next)) : wanted = disp.shouldProcess := by
  obtain ⟨after, same, _⟩ := accounts.represents.processPacketOrCancel_refines sn false
  rw [Receiver.processPacket, same] at answered
  cases answered
  rw [accounts.represents.shouldProcessPacket_refines sn] at asked
  cases asked
  rfl

theorem canceled (answered : receiver.processCancel sn = .ok (disp, next)) : disp.shouldProcess = false := by
  obtain ⟨after, same, _⟩ := accounts.represents.processPacketOrCancel_refines sn true
  rw [Receiver.processCancel, same] at answered
  cases answered
  rcases ledger.receive_cases receiver.windowSize (ledger.itemOf receiver sn) true with
    ⟨same, _⟩ | ⟨verdict, _, same⟩ | ⟨_, _, same⟩ <;> rw [same]
  · rfl
  · cases verdict <;> rfl
  · rfl

theorem receive (small : bound + 64 ≤ 2 ^ 63) (sn : SeqNum) (isCancel : Bool)
    (answered : receiver.processPacketOrCancel sn isCancel = .ok (disp, next)) :
    ∃ later, Accounts (bound + 64) next (queued ++ if disp.shouldProcess then [sn] else [])
      (acked ++ if disp.shouldAck && !disp.ackIsCanceled then [sn] else []) later := by
  obtain ⟨after, same, represents, _⟩ := accounts.represents.processPacketOrCancel_refines sn isCancel
  rw [same] at answered
  cases answered
  have number := accounts.item sn
  have narrow := accounts.represents.narrow
  have oldest := receiver.oldestUnrecvdOffset_le
  have ahead := accounts.represents.tooNew_iff (distance sn receiver.highestSeen)
  rcases ledger.receive_cases receiver.windowSize (ledger.itemOf receiver sn) isCancel with
    ⟨same, _⟩ | ⟨verdict, known, same⟩ | ⟨fresh, near, same⟩ <;> rw [same] at represents ⊢
  · exact ⟨ledger, by simpa [Disposition.shouldProcess, Disposition.shouldAck] using
      accounts.repeats represents [] (by simp)⟩
  · cases verdict with
    | canceled =>
      exact ⟨ledger, by simpa [Ledger.answer, Disposition.shouldProcess, Disposition.ackIsCanceled] using
        accounts.repeats represents [] (by simp)⟩
    | processed =>
      have positive : 0 ≤ ledger.itemOf receiver sn := by
        by_contra below
        rw [accounts.start _ (by omega)] at known
        cases known
      have member : sn ∈ queued := (accounts.processed sn).mpr ⟨_, positive, number, known⟩
      exact ⟨ledger, by simpa [Ledger.answer, Disposition.shouldProcess, Disposition.shouldAck,
        Disposition.ackIsCanceled] using accounts.repeats represents [sn] (by simpa using member)⟩
  · have close : ledger.itemOf receiver sn < ledger.highest + 64 := by
      have := mt ahead.mpr near
      unfold Ledger.itemOf
      omega
    have decided := accounts.records small number fresh close _ represents
    cases isCancel with
    | true => exact ⟨_, by simpa [Ledger.verdictOf, Ledger.firstAnswer, Disposition.shouldProcess,
        Disposition.ackIsCanceled] using decided⟩
    | false => exact ⟨_, by simpa [Ledger.verdictOf, Ledger.firstAnswer, Disposition.shouldProcess,
        Disposition.shouldAck, Disposition.ackIsCanceled] using decided⟩

end

end Accounts
end ZprCore.Zdpr

namespace ZprCore.Mgmt
open Datapath Zdpr Km

variable {Transport Cert : Type}

/-- The numbers acknowledged on a link, among packets handed to egress. -/
def acknowledged (link : LinkId) (egress : List Egress) : List SeqNum :=
  egress.filterMap fun packet =>
    match packet with
    | .zdpr other packetType seqNum =>
      if other = link ∧ packetType = ZdpPacketType.acknowledgement then some seqNum else none
    | .packet _ _ _ => none

def PeerState.queued (peer : PeerState Transport Cert) : List SeqNum := peer.mgmtProcessor.sent.map (·.seqNum)

theorem mem_acknowledged {link egress seqNum} :
    seqNum ∈ acknowledged link egress ↔ .zdpr link ZdpPacketType.acknowledgement seqNum ∈ egress := by
  unfold acknowledged
  rw [mem_filterMap]
  constructor
  · rintro ⟨packet, member, selected⟩
    cases packet with
    | packet => cases selected
    | zdpr other packetType number =>
      dsimp only at selected
      split at selected
      · rename_i same
        cases selected
        rw [← same.1, ← same.2]
        exact member
      · cases selected
  · intro member
    exact ⟨_, member, by simp⟩

/-- The sender's callers acknowledge nothing. -/
theorem acknowledged_egressOf (link other : LinkId) (messages : List (Message Packet)) :
    acknowledged link (messages.filterMap (Assembly.egressOf other)) = [] := by
  apply eq_nil_iff_forall_not_mem.mpr
  intro seqNum member
  obtain ⟨message, _, sent⟩ := mem_filterMap.mp (mem_acknowledged.mp member)
  cases message with
  | data | ack | canceled => cases sent
  | cancel number =>
    have other : ZdpPacketType.cancel = ZdpPacketType.acknowledgement := by
      simp only [Assembly.egressOf, Option.some.injEq, Egress.zdpr.injEq] at sent
      exact sent.2.1
    exact absurd other (by decide)

theorem acknowledged_append (link : LinkId) (first second : List Egress) :
    acknowledged link (first ++ second) = acknowledged link first ++ acknowledged link second :=
  filterMap_append

/-- What a link's peer has received, queued and acknowledged since `base` was handed to
egress. -/
structure Serves (link : LinkId) (base : List Egress) (asm : Assembly Transport Cert) (receiver : Receiver)
    (queued acked : List SeqNum) : Prop where
  peer : ∃ peer, asm.peerTable.get link = some peer ∧ peer.zdprRecv = receiver ∧ peer.queued = queued
  egress : ∃ sent, asm.mgmtSubstrateEgress = base ++ sent ∧ acknowledged link sent = acked

namespace Serves
variable {link : LinkId} {base : List Egress} {asm next : Assembly Transport Cert} {receiver : Receiver}
  {queued acked : List SeqNum}

/-- The peer's receiver and queue are as they were. -/
def Spares (link : LinkId) (asm next : Assembly Transport Cert) : Prop :=
  ∀ peer, asm.peerTable.get link = some peer →
    ∃ after, next.peerTable.get link = some after ∧ after.zdprRecv = peer.zdprRecv ∧ after.queued = peer.queued

section
variable (serves : Serves link base asm receiver queued acked)
include serves

theorem grow (spares : Spares link asm next) {sent} (egress : next.mgmtSubstrateEgress = asm.mgmtSubstrateEgress ++ sent)
    (other : acknowledged link sent = []) : Serves link base next receiver queued acked := by
  obtain ⟨peer, present, same, holds⟩ := serves.peer
  obtain ⟨before, split, known⟩ := serves.egress
  obtain ⟨after, later, kept, queue⟩ := spares peer present
  refine ⟨⟨after, later, kept.trans same, queue.trans holds⟩, before ++ sent, ?_, ?_⟩
  · rw [egress, split, append_assoc]
  · rw [acknowledged_append, known, other, append_nil]

theorem keep (spares : Spares link asm next) (egress : next.mgmtSubstrateEgress = asm.mgmtSubstrateEgress) :
    Serves link base next receiver queued acked :=
  serves.grow spares (by rw [egress, append_nil]) rfl

theorem modify (other : LinkId) (change)
    (spares : ∀ peer, (change peer).zdprRecv = peer.zdprRecv ∧ (change peer).queued = peer.queued) :
    Serves link base (asm.modifyPeer other change) receiver queued acked := by
  refine serves.keep ?_ rfl
  intro peer present
  rw [Assembly.modifyPeer_get]
  split
  · exact ⟨change peer, by rw [present]; rfl, spares peer⟩
  · exact ⟨peer, present, rfl, rfl⟩

theorem elsewhere {other} (different : other ≠ link) (change) :
    Serves link base (asm.modifyPeer other change) receiver queued acked := by
  refine serves.keep ?_ rfl
  intro peer present
  rw [Assembly.modifyPeer_get, if_neg different.symm]
  exact ⟨peer, present, rfl, rfl⟩

theorem update (change) {peer}
    (present : asm.peerTable.get link = some peer) :
    Serves link base (asm.modifyPeer link change) (change peer).zdprRecv (change peer).queued acked :=
  ⟨⟨change peer, by rw [Assembly.modifyPeer_get, if_pos rfl, present]; rfl, rfl, rfl⟩, serves.egress⟩

theorem send (other : LinkId) {packets} (nothing : acknowledged link packets = []) :
    Serves link base (asm.buildAndEgressPackets other packets) receiver queued acked := by
  obtain ⟨sent, same, egress⟩ := asm.buildAndEgressPackets_egress other packets
  refine serves.grow (fun peer present => ⟨peer, by rw [Assembly.buildAndEgressPackets_peerTable, present], rfl, rfl⟩)
    egress ?_
  rcases same with rfl | rfl
  · rfl
  · exact nothing

theorem answer (other : LinkId) (seqNum : SeqNum) (disp : Disposition) :
    Serves link base (asm.sendDisposition other seqNum disp) receiver queued
      (acked ++ if other = link ∧ (disp.shouldAck && !disp.ackIsCanceled) = true then [seqNum] else []) := by
  have other_type : acknowledged link [.zdpr other ZdpPacketType.canceled seqNum] = [] := by
    simp [acknowledged, ZdpPacketType.canceled, ZdpPacketType.acknowledgement]
  cases disp with
  | ignore => simpa [Assembly.sendDisposition, Disposition.shouldAck] using serves
  | ackCancelDoNotProcess =>
    simpa [Assembly.sendDisposition, Disposition.shouldAck, Disposition.ackIsCanceled, Assembly.sendCanceled,
      Assembly.sendZdprCommon] using serves.send other other_type
  | ackAndProcess | ackDoNotProcess =>
    by_cases same : other = link
    · subst same
      obtain ⟨peer, present, holds⟩ := serves.peer
      obtain ⟨before, split, known⟩ := serves.egress
      refine ⟨⟨peer, by rw [Assembly.sendDisposition_peerTable, present], holds⟩,
        before ++ [.zdpr other ZdpPacketType.acknowledgement seqNum], ?_, ?_⟩
      · simp [Assembly.sendDisposition, Disposition.shouldAck, Disposition.ackIsCanceled, Assembly.sendAcknowledgement,
          Assembly.sendZdprCommon, Assembly.buildAndEgressPackets, present, split]
      · rw [acknowledged_append, known]
        simp [acknowledged, Disposition.shouldAck, Disposition.ackIsCanceled]
    · have elsewhere : acknowledged link [.zdpr other ZdpPacketType.acknowledgement seqNum] = [] := by
        simp [acknowledged, same]
      simpa [Assembly.sendDisposition, Disposition.shouldAck, Disposition.ackIsCanceled, same,
        Assembly.sendAcknowledgement, Assembly.sendZdprCommon] using serves.send other elsewhere

end

end Serves

namespace LinkEvent
variable {link : LinkId} {base : List Egress} {asm next : Assembly Transport Cert}

/-- The peer of a link after some packets. -/
def Accounted (link : LinkId) (base : List Egress) (packets : Nat) (asm : Assembly Transport Cert) : Prop :=
  ∃ receiver queued acked ledger, Serves link base asm receiver queued acked ∧
    Accounts (64 * packets) receiver queued acked ledger

section
variable {count : Nat} (accounted : Accounted link base count asm)
include accounted

/-- The account goes on if what it says of the assembly does. -/
theorem Accounted.keeps
    (keeps : ∀ {receiver queued acked}, Serves link base asm receiver queued acked → Serves link base next receiver queued acked) :
    Accounted link base count next := by
  obtain ⟨receiver, queued, acked, ledger, serves, accounts⟩ := accounted
  exact ⟨receiver, queued, acked, ledger, keeps serves, accounts⟩

theorem Accounted.more : Accounted link base (count + 1) asm := by
  obtain ⟨receiver, queued, acked, ledger, serves, accounts⟩ := accounted
  exact ⟨receiver, queued, acked, ledger, serves, accounts.widen (by omega)⟩

theorem dispatched_elsewhere {pkt} (other : pkt.ingressLinkId ≠ link) (dispatched : asm.Dispatched pkt next) :
    Accounted link base count next := by
  cases dispatched with
  | ignored => exact accounted
  | keyed => exact accounted.keeps fun serves => serves.modify _ _ fun _ => ⟨rfl, rfl⟩
  | acknowledged =>
    refine accounted.keeps fun serves => (serves.elsewhere other _).send _ ?_
    simp [Mgmt.acknowledged, filterMap_map]
  | canceled | sequenced =>
    refine accounted.keeps fun serves => ?_
    simpa [other] using (serves.elsewhere other _).answer pkt.ingressLinkId _ _

omit accounted in
/-- A packet of the link itself: the test whether to queue a packet and the receiver's
answer to it agree. -/
theorem dispatched_here (few : count < 2 ^ 57) {pkt} (accounted : Accounted pkt.ingressLinkId base count asm)
    (dispatched : asm.Dispatched pkt next) : Accounted pkt.ingressLinkId base (count + 1) next := by
  have more := accounted.more
  obtain ⟨receiver, queued, acked, ledger, serves, accounts⟩ := accounted
  obtain ⟨found, same, rfl, rfl⟩ := serves.peer
  cases dispatched with
  | ignored => exact more
  | keyed => exact more.keeps fun serves => serves.modify _ _ fun _ => ⟨rfl, rfl⟩
  | acknowledged =>
    refine more.keeps fun serves => Serves.send (serves.modify _ _ ?_) _ ?_
    · exact fun _ => ⟨rfl, rfl⟩
    · simp [Mgmt.acknowledged, filterMap_map]
  | @canceled peer seqNum disp zdprRecv present answered =>
    rw [present] at same
    cases same
    obtain ⟨later, kept⟩ := accounts.receive (by omega) seqNum true answered
    rw [accounts.canceled answered] at kept
    refine ⟨_, _, _, later, (serves.update _ present).answer _ seqNum disp, ?_⟩
    simpa [Int.mul_add, PeerState.queued] using kept.recount fun _ => 0
  | @sequenced peer seqNum wanted mgmtProcessor disp zdprRecv present asked enqueued answered =>
    rw [present] at same
    cases same
    obtain ⟨later, kept⟩ := accounts.receive (by omega) seqNum false answered
    rw [← accounts.wanted asked answered] at kept
    have sent : mgmtProcessor.sent.map (·.seqNum) = found.queued ++ if wanted then [seqNum] else [] := by
      cases wanted with
      | false =>
        cases enqueued
        simp [PeerState.queued]
      | true => simp [Channel.trySend_some enqueued, PeerState.queued]
    refine ⟨_, _, _, later, (serves.update _ present).answer _ seqNum disp, ?_⟩
    rw [← sent] at kept
    simpa [Int.mul_add, PeerState.queued] using kept.recount fun _ => 0

theorem tethered_accounted {adapterAddr interfaceAddr vacancy started} (vacant : asm.Vacant vacancy)
    (done : asm.startTether adapterAddr interfaceAddr vacancy = .ok (started, next)) : Accounted link base count next := by
  obtain ⟨egress, ⟨_, rfl⟩ | ⟨free, peer, found, _, _, _, _, inserted⟩⟩ := Assembly.startTether_ok done
  · exact accounted
  refine accounted.keeps fun serves => serves.keep ?_ egress
  intro old present
  refine ⟨old, ?_, rfl, rfl⟩
  rw [PeerTable.get_insert inserted, if_neg]
  · exact present
  intro same
  rw [same, vacant free found] at present
  cases present

theorem step_accounted {event} (few : count + event.packets ≤ 2 ^ 57) (during : During link asm event)
    (stepped : step asm event = .ok next) : Accounted link base (count + event.packets) next := by
  cases event with
  | dispatchWithLink pkt =>
    have dispatched := Assembly.dispatchMgmtPacketWithLink_ok stepped
    by_cases here : pkt.ingressLinkId = link
    · subst here
      exact dispatched_here few accounted dispatched
    · exact (dispatched_elsewhere accounted here dispatched).more
  | dispatchWithAddr peerSa interfaceAddr pkt vacancy =>
    obtain ⟨middle, started, keyed⟩ := Assembly.dispatchMgmtPacketWithAddr_ok stepped
    have kept : Accounted link base count middle := by
      obtain rfl | ⟨started, done⟩ := started
      · exact accounted
      · exact tethered_accounted accounted during done
    obtain rfl | ⟨other, queue, rfl⟩ := keyed
    · exact kept
    · exact kept.keeps fun serves => serves.modify _ _ fun _ => ⟨rfl, rfl⟩
  | table event =>
    cases event with
    | startTether adapterAddr interfaceAddr vacancy =>
      obtain ⟨⟨started, middle⟩, done, stepped⟩ := Panic.bind_ok.mp stepped
      cases stepped
      exact tethered_accounted accounted during done
    | remove other =>
      cases stepped
      refine accounted.keeps fun serves => serves.keep ?_ rfl
      intro peer present
      refine ⟨peer, ?_, rfl, rfl⟩
      rw [PeerTable.get_remove, if_neg (Ne.symm during)]
      exact present
    | setSecurityAssociation other sa =>
      cases stepped
      exact accounted.keeps fun serves => serves.modify other _ fun _ => ⟨rfl, rfl⟩
    | call other op =>
      obtain rfl | ⟨peer, zdprSend, messages, _, _, rfl⟩ := Assembly.callSender_ok stepped
      · exact accounted
      refine accounted.keeps fun serves => Serves.send (serves.modify _ _ ?_) _ ?_
      · exact fun _ => ⟨rfl, rfl⟩
      · exact acknowledged_egressOf link other messages
    | process other =>
      cases stepped
      obtain same | ⟨peer, taken, present, sent, same⟩ := asm.takeMgmtPacket_cases other
      · rw [same]
        exact accounted
      rw [same]
      by_cases here : other = link
      · subst here
        obtain ⟨receiver, queued, acked, ledger, serves, accounts⟩ := accounted
        obtain ⟨found, known, rfl, rfl⟩ := serves.peer
        rw [present] at known
        cases known
        refine ⟨_, _, _, ledger, serves.update _ present, ?_⟩
        simpa [PeerState.queued, sent, packets] using accounts
      · exact accounted.keeps fun serves => serves.elsewhere here _

end

/-- A peer as it is when it is inserted. -/
def Fresh (asm : Assembly Transport Cert) (link : LinkId) : Prop :=
  ∃ peer, asm.peerTable.get link = some peer ∧ Receiver.new defaultZdprReceiveWindowSize = .ok peer.zdprRecv ∧
    peer.mgmtProcessor = .new mgmtProcessorQueueSize

/-- Over the whole lifetime of a peer, whatever arrives on its link and however full its
queue is: no number is queued twice for its management processor, and a number is
acknowledged only if it has been queued. -/
theorem acknowledged_once_queued (fresh : Fresh asm link) {events : List (LinkEvent Transport Cert)}
    {final : Assembly Transport Cert} (run : Runs.Run step (During link) asm events final)
    (few : (events.map packets).sum < 2 ^ 57) :
    ∃ peer sent, final.peerTable.get link = some peer ∧ (peer.mgmtProcessor.sent.map (·.seqNum)).Nodup ∧
      final.mgmtSubstrateEgress = asm.mgmtSubstrateEgress ++ sent ∧
      ∀ seqNum, .zdpr link ZdpPacketType.acknowledgement seqNum ∈ sent → ∃ packet ∈ peer.mgmtProcessor.sent,
        packet.seqNum = seqNum := by
  obtain ⟨peer, present, built, empty⟩ := fresh
  have initial : Accounted link asm.mgmtSubstrateEgress 0 asm := by
    refine ⟨peer.zdprRecv, [], [], _, ⟨⟨peer, present, rfl, ?_⟩, [], by simp, rfl⟩, .new built⟩
    rw [PeerState.queued, empty]
    rfl
  have kept := run.weighted packets (2 ^ 57) (Accounted link asm.mgmtSubstrateEgress)
    (fun _ _ _ _ few during accounted => step_accounted accounted few during) (by omega) initial
  obtain ⟨receiver, queued, acked, ledger, ⟨⟨peer, present, rfl, rfl⟩, sent, egress, rfl⟩, accounts⟩ := kept
  refine ⟨peer, sent, present, accounts.nodup, egress, ?_⟩
  intro seqNum member
  exact mem_map.mp (accounts.acked seqNum (mem_acknowledged.mpr member))

/-- A packet of its own with sequence number zero. -/
def sampleDiscard : Packet :=
  { Substrate.sampleTransit with body := ZdpPacketType.discard :: List.replicate 9 0, ingressLinkId := 1 }

/-- The packet arrives, is taken by the management processor, and arrives again. -/
theorem acknowledged_once_queued_sample : ∃ final peer sent,
    Runs.Run step (During 1) Substrate.samplePeers
      [.dispatchWithLink sampleDiscard, .table (.process 1), .dispatchWithLink sampleDiscard] final ∧
    final.peerTable.get 1 = some peer ∧ (peer.mgmtProcessor.sent.map (·.seqNum)).Nodup ∧
    final.mgmtSubstrateEgress = Substrate.samplePeers.mgmtSubstrateEgress ++ sent ∧
    ∀ seqNum, .zdpr 1 ZdpPacketType.acknowledgement seqNum ∈ sent → ∃ packet ∈ peer.mgmtProcessor.sent,
      packet.seqNum = seqNum := by
  have fresh : Fresh Substrate.samplePeers 1 := ⟨_, rfl, rfl, rfl⟩
  simp only [exists_and_left]
  refine Exists.imp (fun final run => ⟨run, ?_⟩) ⟨_, .cons trivial rfl (.cons trivial rfl (.cons trivial rfl (.nil _)))⟩
  simpa only [exists_and_left] using acknowledged_once_queued fresh run (by decide)

end LinkEvent
end ZprCore.Mgmt
