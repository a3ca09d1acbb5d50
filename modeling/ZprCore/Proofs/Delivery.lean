import ZprCore.Datapath.Fastpath
import ZprCore.Proofs.Lossless

/-! What arrives of a packet that an adapter sends to another one. The check value is
taken over the packet as it is after the TTL was decremented, and compared with the
check value of what expansion makes of it. -/

namespace ZprCore.Datapath
open Classifier Fastpath Panic Layout OnesComplement List Compress Packet Except Ip5TupleTc

def Ipv4Header.decremented (header : Ipv4Header) : Ipv4Header := { header with ttl := header.ttl - 1 }

def Ipv6Header.decremented (header : Ipv6Header) : Ipv6Header := { header with hopLimit := header.hopLimit - 1 }

namespace Fastpath
variable {blake3 : Blake3} {saidSize : Nat} {asm ingress egress : Assembly} {managerFull : Bool} {workerIndex : UInt8}
variable {pkt transit received : Packet} {ft : FiveTuple} {tc : Ip5TupleTc} {key : Option MicvKey} {tetherId : StreamId}

/-- A packet as it is after classification. -/
def classified (workerIndex : UInt8) (ft : FiveTuple) (pkt : Packet) : Packet :=
  { pkt with ingressLinkId := localActorLinkId, ingressLaneId := workerIndex, fiveTuple := ft }

private theorem counter_positive {counter : UInt8} (alive : ((if counter > 0 then counter - 1 else counter) == 0) = false) :
    counter > 0 := by
  by_contra none
  rw [if_neg none] at alive
  have zero : counter = 0 := by
    apply UInt8.toNat_inj.mp
    rw [gt_iff_lt, UInt8.lt_iff_toNat_lt, UInt8.toNat_zero] at none
    rw [UInt8.toNat_zero]
    omega
  rw [zero] at alive
  cases alive

private theorem slicePrefix_header {α} (layout : Layout α) (header : α) (region : List UInt8) :
    slicePrefix (layout.encode header ++ region) layout.size = .ok (layout.encode header ++ []) := by
  have size := layout.encode_length header
  rw [slicePrefix_ok (by rw [length_append, size]; omega), take_left' size, append_nil]

theorem decrementTtl_ipv4 {header} {region} (l3Type : pkt.fiveTuple.l3Type = .ipv4)
    (body : pkt.body = Ipv4Header.layout.encode header ++ region) {decremented}
    (alive : decrementTtl pkt = .ok (false, decremented)) :
    decremented = pkt.holding pkt.headroom (Ipv4Header.layout.encode header.decremented ++ region) := by
  rw [decrementTtl, l3Type, body] at alive
  simp only [slicePrefix_header, ok_bind, refFromPrefix_ok, mutFromPrefix_ok, withBody] at alive
  obtain ⟨expired, rfl⟩ := Prod.mk.inj (ok.inj alive)
  rw [if_pos (counter_positive expired)]
  rfl

theorem decrementTtl_ipv6 {header} {region} (l3Type : pkt.fiveTuple.l3Type = .ipv6)
    (body : pkt.body = Ipv6Header.layout.encode header ++ region) {decremented}
    (alive : decrementTtl pkt = .ok (false, decremented)) :
    decremented = pkt.holding pkt.headroom (Ipv6Header.layout.encode header.decremented ++ region) := by
  rw [decrementTtl, l3Type, body] at alive
  simp only [slicePrefix_header, ok_bind, refFromPrefix_ok, mutFromPrefix_ok, withBody] at alive
  obtain ⟨expired, rfl⟩ := Prod.mk.inj (ok.inj alive)
  rw [if_pos (counter_positive expired)]
  rfl

theorem decrementTtl_fiveTuple {expired decremented} (done : decrementTtl pkt = .ok (expired, decremented)) :
    decremented.fiveTuple = pkt.fiveTuple := by
  unfold decrementTtl at done
  split at done
  case h_1 | h_2 =>
    obtain ⟨_, _, done⟩ := bind_ok.mp done
    obtain ⟨_, _, done⟩ := bind_ok.mp done
    obtain ⟨_, moved, done⟩ := bind_ok.mp done
    obtain ⟨_, _, moved⟩ := bind_ok.mp moved
    cases moved
    cases done
    rfl
  · cases done
    rfl

theorem actorOutput_accepted (accepts : Accepts (classify pkt.fiveTuple pkt.body) ft) :
    actorOutput blake3 saidSize asm managerFull workerIndex pkt = (do
      let (expired, pkt) ← decrementTtl (classified workerIndex ft pkt)
      if expired then return .dropped .ttlExpired
      actorOutputPostClassify blake3 saidSize asm managerFull true pkt) := by
  obtain ⟨result, accepted, classified⟩ := accepts
  unfold actorOutput
  simp only [classified, ok_bind]
  rcases accepted with rfl | rfl <;> rfl

theorem actorOutput_forward {pep} (accepts : Accepts (classify pkt.fiveTuple pkt.body) ft)
    (active : asm.elt ft = some (.active pep))
    (sent : actorOutput blake3 saidSize asm managerFull workerIndex pkt = .ok (.forward transit)) :
    ∃ decremented compressed, decrementTtl (classified workerIndex ft pkt) = .ok (false, decremented) ∧
      compress pep.compressionMode ft.l3Type ft.l4Protocol decremented = .ok compressed ∧
      transit.body = replicate saidSize 0 ++ (compressed.body ++ a2aMicv blake3 pep.a2aMicvKey decremented.body) := by
  rw [actorOutput_accepted accepts] at sent
  obtain ⟨⟨expired, decremented⟩, decrement, alive⟩ := bind_ok.mp sent
  cases expired with
  | true => cases alive
  | false =>
    have fiveTuple : decremented.fiveTuple = ft := decrementTtl_fiveTuple decrement
    simp only [Bool.false_eq_true, if_false, actorOutputPostClassify, fiveTuple, active] at alive
    split at alive
    · cases alive
    obtain ⟨compressed, compress, alive⟩ := bind_ok.mp alive
    obtain ⟨checked, put, alive⟩ := bind_ok.mp alive
    obtain ⟨framed, push, alive⟩ := bind_ok.mp alive
    obtain ⟨_, _, put⟩ := bind_ok.mp put
    obtain ⟨_, _, push⟩ := bind_ok.mp push
    cases put
    cases push
    cases alive
    exact ⟨decremented, compressed, decrement, compress, rfl⟩

theorem actorInput_transit {compressed mac} (dlt : asm.dlt tetherId = some ⟨tc, key⟩)
    (owns : asm.phMode = .adapter → asm.adapterOwnsAddress tc.fiveTuple.dstAddress = true)
    (length : mac.length = zdpA2aMacSize) (body : received.body = replicate saidSize 0 ++ (compressed ++ mac)) :
    actorInput blake3 saidSize asm tetherId received = (do
      let pkt ← expand tc.compressionMode tc.fiveTuple
        (holding { received with tailroom := received.tailroom + zdpA2aMacSize } (received.headroom + saidSize) compressed)
      if a2aMicv blake3 key pkt.body ≠ mac then return .dropped .micvFailure
      return .actorInput pkt) := by
  have said : (Layout.vector saidSize).encode (.replicate saidSize 0) = replicate saidSize 0 := Vector.toList_replicate
  have framed : received.body = (Layout.vector saidSize).encode (.replicate saidSize 0) ++ (compressed ++ mac) := by
    rw [body, said]
  have read : received.get (Layout.vector saidSize) =
      .ok (.replicate saidSize 0, received.holding (received.headroom + saidSize) (compressed ++ mac)) := by
    have get := @Packet.holding_get received received.headroom (compressed ++ mac) _ (Layout.vector saidSize)
      (.replicate saidSize 0)
    rwa [← framed, holding_self] at get
  have long : ¬ received.body.length < saidSize := by
    rw [body, length_append, length_replicate]
    omega
  have checked : ¬ (compressed ++ mac).length < zdpA2aMacSize := by
    rw [length_append, length]
    omega
  have split : (compressed ++ mac).length - zdpA2aMacSize = compressed.length := by
    rw [length_append, length, Nat.add_sub_cancel]
  have shrink : (received.holding (received.headroom + saidSize) (compressed ++ mac)).shrinkBy zdpA2aMacSize =
      .ok (holding { received with tailroom := received.tailroom + zdpA2aMacSize } (received.headroom + saidSize)
        compressed) := by
    rw [shrinkBy, holding_body, Panic.check, if_pos (by simpa using checked), split, take_left' rfl]
    rfl
  have owned : ¬ (asm.phMode = .adapter ∧ (!asm.adapterOwnsAddress tc.fiveTuple.dstAddress) = true) := by
    rintro ⟨mode, missing⟩
    rw [owns mode] at missing
    cases missing
  have check : Panic.check (decide True) "not yet implemented: A2A SAID" = .ok () := rfl
  simp only [actorInput, long, if_false, read, ok_bind, check, holding_body, checked, shrink, dlt, owned, split,
    drop_left' rfl]

theorem a2aMicv_length (body : List UInt8) : (a2aMicv blake3 key body).length = zdpA2aMacSize := by
  unfold a2aMicv
  cases key <;> simp [zdpA2aMacSize]

end Fastpath

namespace Ip5TupleTc
variable {tc : Ip5TupleTc} {ft : FiveTuple}

theorem hasSource_iff : tc.compressionMode.hasSource = true ↔ tc.fiveTuple.srcPort ≠ 0 := by
  unfold compressionMode
  by_cases src : tc.fiveTuple.srcPort = 0 <;> by_cases dst : tc.fiveTuple.dstPort = 0 <;>
    simp only [ne_eq, src, dst, not_true_eq_false, not_false_eq_true, if_true, if_false] <;> decide

theorem hasDestination_iff : tc.compressionMode.hasDestination = true ↔ tc.fiveTuple.dstPort ≠ 0 := by
  unfold compressionMode
  by_cases src : tc.fiveTuple.srcPort = 0 <;> by_cases dst : tc.fiveTuple.dstPort = 0 <;>
    simp only [ne_eq, src, dst, not_true_eq_false, not_false_eq_true, if_true, if_false] <;> decide

/-- The five-tuples that match are those that agree on all but the wildcards. -/
theorem classify5t_iff : tc.classify5t ft = true ↔ Determines tc.compressionMode ft tc.fiveTuple := by
  have ports : Determines tc.compressionMode ft tc.fiveTuple ↔ tc.fiveTuple.l3Type = ft.l3Type ∧
      tc.fiveTuple.srcAddress = ft.srcAddress ∧ tc.fiveTuple.dstAddress = ft.dstAddress ∧
      tc.fiveTuple.l4Protocol = ft.l4Protocol ∧ (tc.fiveTuple.srcPort ≠ 0 → tc.fiveTuple.srcPort = ft.srcPort) ∧
      (tc.fiveTuple.dstPort ≠ 0 → tc.fiveTuple.dstPort = ft.dstPort) := by
    rw [← hasSource_iff, ← hasDestination_iff]
    exact ⟨fun d => ⟨d.l3Type, d.srcAddress, d.dstAddress, d.l4Protocol, d.srcPort, d.dstPort⟩,
      fun ⟨l3, src, dst, l4, srcPort, dstPort⟩ => ⟨l3, src, dst, l4, srcPort, dstPort⟩⟩
  have step {p : Prop} [Decidable p] {rest : Bool} : (if p then false else rest) = true ↔ ¬ p ∧ rest = true := by
    by_cases p <;> simp [*]
  rw [ports, classify5t, step, step, step, step, step]
  simp only [not_or, not_and, not_not, ne_eq, and_true, eq_comm, and_assoc]

end Ip5TupleTc

/-- The original packet with its TTL or hop limit decremented and a valid header
checksum. -/
def Delivered (ft : FiveTuple) (body out : List UInt8) : Prop :=
  match ft.l3Type with
  | .ipv4 => ∃ header region field, body = Ipv4Header.layout.encode header ++ region ∧
      out = Ipv4Header.layout.encode { header.decremented with headerChecksum := field } ++ region ∧
      checksum (out.take header.headerLength) = 0
  | .ipv6 => ∃ header region, body = Ipv6Header.layout.encode header ++ region ∧
      out = Ipv6Header.layout.encode header.decremented ++ region
  | .other _ => False

/-- The packet has nothing that compression loses, and if it is an IPv4 packet, the
check value cannot tell the header checksum of before the TTL was decremented from the
one of after. -/
def Deliverable (blake3 : Blake3) (key : Option MicvKey) (mode : CompressionMode) (ft : FiveTuple) (body : List UInt8) : Prop :=
  match ft.l3Type with
  | .ipv4 => ∃ header segment, body = Ipv4Header.layout.encode header ++ Segment.bytes segment ∧
      segment.Carries ft.l4Protocol ∧ header.proto = ft.l4Protocol ∧ segment.Intact mode ft ∧
      a2aMicv blake3 key (Ipv4Header.layout.encode header.decremented ++ segment.bytes) =
        a2aMicv blake3 key (Ipv4Header.layout.encode (header.decremented.refreshed segment.bytes) ++ segment.bytes)
  | .ipv6 | .other _ => Recoverable mode ft body

/-- The two ends of a tether, set up from one traffic classifier and one key. -/
structure Tethered (ingress egress : Assembly) (tetherId : StreamId) (tc : Ip5TupleTc) (key : Option MicvKey)
    (ft : FiveTuple) : Prop where
  elt : ∃ ingressTetherId, ingress.elt ft = some (.active ⟨tc.compressionMode, ingressTetherId, key⟩)
  dlt : egress.dlt tetherId = some ⟨tc, key⟩
  classified : tc.classify5t ft = true
  owns : egress.phMode = .adapter → egress.adapterOwnsAddress tc.fiveTuple.dstAddress = true

theorem Segment.bytes_length_le (mode : CompressionMode) (segment : Segment) :
    segment.bytes.length ≤ (segment.compressed mode).length + 6 := by
  cases segment with
  | tcp header payload =>
    have saved := tcp_length mode payload header
    omega
  | udp header payload =>
    have saved := udp_length mode payload header
    omega
  | raw bytes => exact Nat.le_add_right _ _

namespace Fastpath
variable {blake3 : Blake3} {saidSize : Nat} {ingress egress : Assembly} {managerFull : Bool} {workerIndex : UInt8}
variable {pkt transit received : Packet} {ft : FiveTuple} {tc : Ip5TupleTc} {key : Option MicvKey} {tetherId : StreamId}
variable {header : Ipv4Header} {segment : Segment}

private theorem queued_iff {out mac} {good : List UInt8 → Prop} :
    (∃ delivered, (if a2aMicv blake3 key out.body ≠ mac then pure (.dropped .micvFailure) else pure (.actorInput out)) =
        (ok (.actorInput delivered) : Except Panic Outcome) ∧ good delivered.body) ↔
      a2aMicv blake3 key out.body = mac ∧ good out.body := by
  by_cases right : a2aMicv blake3 key out.body = mac
  · simp only [ne_eq, right, not_true_eq_false, if_false, true_and]
    exact ⟨fun ⟨_, same, holds⟩ => by cases same; exact holds, fun holds => ⟨out, rfl, holds⟩⟩
  simp only [ne_eq, right, not_false_eq_true, if_true, false_and, iff_false]
  rintro ⟨_, same, _⟩
  cases same

/-- What is queued for the actor is what expansion makes of the packet, if the check value holds. -/
theorem transit_iff {out} {sentBody carried} {headroom} (accepts : Accepts (classify pkt.fiveTuple pkt.body) ft)
    (tethered : Tethered ingress egress tetherId tc key ft)
    (sent : actorOutput blake3 saidSize ingress managerFull workerIndex pkt = .ok (.forward transit))
    (same : received.body = transit.body)
    (decrements : ∀ {decremented}, decrementTtl (classified workerIndex ft pkt) = .ok (false, decremented) →
      decremented = (classified workerIndex ft pkt).holding pkt.headroom sentBody)
    (compresses : compress tc.compressionMode ft.l3Type ft.l4Protocol
      ((classified workerIndex ft pkt).holding pkt.headroom sentBody) = .ok ((classified workerIndex ft pkt).holding headroom carried))
    (expands : expand tc.compressionMode tc.fiveTuple
      (holding { received with tailroom := received.tailroom + zdpA2aMacSize } (received.headroom + saidSize) carried) = .ok out)
    (good : List UInt8 → Prop) :
    (∃ delivered, actorInput blake3 saidSize egress tetherId received = .ok (.actorInput delivered) ∧ good delivered.body) ↔
      a2aMicv blake3 key out.body = a2aMicv blake3 key sentBody ∧ good out.body := by
  obtain ⟨ingressTetherId, active⟩ := tethered.elt
  obtain ⟨_, _, decrement, compress, transitBody⟩ := actorOutput_forward accepts active sent
  obtain rfl := decrements decrement
  rw [compresses] at compress
  obtain rfl := ok.inj compress
  rw [← same] at transitBody
  rw [actorInput_transit tethered.dlt tethered.owns (a2aMicv_length _) transitBody, holding_body, expands, ok_bind]
  exact queued_iff

private theorem delivered_ipv4_iff (accepted : AcceptedIpv4 ft header segment) {out} :
    Delivered ft (Ipv4Header.layout.encode header ++ segment.bytes) out ↔
      ∃ field, out = Ipv4Header.layout.encode { header.decremented with headerChecksum := field } ++ segment.bytes ∧
        checksum (out.take header.headerLength) = 0 := by
  rw [Delivered, accepted.l3Type]
  constructor
  · rintro ⟨header', region, field, whole, kept⟩
    obtain ⟨rfl, rfl⟩ := Ipv4Header.layout.encode_inj whole
    exact ⟨field, kept⟩
  · rintro ⟨field, kept⟩
    exact ⟨header, segment.bytes, field, rfl, kept⟩

private theorem delivered_ipv6_iff {header} (accepted : AcceptedIpv6 ft header segment) {out} :
    Delivered ft (Ipv6Header.layout.encode header ++ segment.bytes) out ↔
      out = Ipv6Header.layout.encode header.decremented ++ segment.bytes := by
  rw [Delivered, accepted.l3Type]
  constructor
  · rintro ⟨header', region, whole, kept⟩
    obtain ⟨rfl, rfl⟩ := Ipv6Header.layout.encode_inj whole
    exact kept
  · intro kept
    exact ⟨header, segment.bytes, rfl, kept⟩

private theorem deliverable_ipv4_iff {mode} (accepted : AcceptedIpv4 ft header segment) :
    Deliverable blake3 key mode ft (Ipv4Header.layout.encode header ++ segment.bytes) ↔
      header.proto = ft.l4Protocol ∧ segment.Intact mode ft ∧
      a2aMicv blake3 key (Ipv4Header.layout.encode header.decremented ++ segment.bytes) =
        a2aMicv blake3 key (Ipv4Header.layout.encode (header.decremented.refreshed segment.bytes) ++ segment.bytes) := by
  rw [Deliverable, accepted.l3Type]
  constructor
  · rintro ⟨header', segment', whole, carries, kept⟩
    obtain ⟨rfl, bytes⟩ := Ipv4Header.layout.encode_inj whole
    obtain rfl := Segment.eq_of_bytes accepted.carries carries bytes
    exact kept
  · exact fun kept => ⟨header, segment, rfl, accepted.carries, kept⟩

/-- A packet that is sent through a tether arrives, with its TTL or hop limit decremented
and a valid header checksum, exactly when it is deliverable. -/
theorem actorInput_delivers_iff (accepts : Accepts (classify pkt.fiveTuple pkt.body) ft)
    (tethered : Tethered ingress egress tetherId tc key ft)
    (sent : actorOutput blake3 saidSize ingress managerFull workerIndex pkt = .ok (.forward transit))
    (same : received.body = transit.body) (room : 41 ≤ received.headroom) :
    (∃ delivered, actorInput blake3 saidSize egress tetherId received = .ok (.actorInput delivered) ∧
        Delivered ft pkt.body delivered.body) ↔ Deliverable blake3 key tc.compressionMode ft pkt.body := by
  have determined := classify5t_iff.mp tethered.classified
  obtain ⟨header, segment, body, accepted⟩ | ⟨header, segment, body, accepted⟩ := accepts.cases
  all_goals
    have shorter := segment.bytes_length_le tc.compressionMode
    have carries : segment.Carries tc.fiveTuple.l4Protocol := determined.l4Protocol ▸ accepted.carries
  · rw [transit_iff accepts tethered sent same (fun {_} => @decrementTtl_ipv4 (classified _ ft pkt) header _ accepted.l3Type body _)
      (by rw [accepted.l3Type, compress, compressIpv4_ok accepted.carries])
      (by rw [expand, determined.l3Type, accepted.l3Type]
          exact expandIpv4_ok carries header.decremented.carried (by rw [length_append]; omega) accepted.inside),
      body, delivered_ipv4_iff accepted, deliverable_ipv4_iff accepted, holding_body]
    have length := accepted.checked.length
    have bound := header.totalLength.toNat_lt
    rw [length_append, encode_length, show Ipv4Header.layout.size = 20 from rfl] at length
    have rebuilt := Segment.rebuild_eq_iff determined segment (by omega)
    have restored (proto : header.proto = ft.l4Protocol) : header.decremented.carried.rebuild tc.fiveTuple segment.bytes =
        header.decremented.refreshed segment.bytes :=
      Ipv4Header.rebuild_refreshed accepted.version accepted.checked.offset
        (show header.totalLength.toNat = segment.bytes.length + 20 by omega) (proto.trans determined.l4Protocol.symm)
        (by rw [determined.srcAddress, accepted.srcAddress]; rfl) (by rw [determined.dstAddress, accepted.dstAddress]; rfl)
    constructor
    · rintro ⟨micv, field, whole, _⟩
      obtain ⟨sameHeader, sameBytes⟩ := Ipv4Header.layout.encode_inj whole
      have proto : header.proto = ft.l4Protocol :=
        (congrArg Ipv4Header.proto sameHeader).symm.trans determined.l4Protocol
      rw [sameBytes, restored proto] at micv
      exact ⟨proto, rebuilt.mp sameBytes, micv.symm⟩
    · rintro ⟨proto, intact, micv⟩
      rw [rebuilt.mpr intact, restored proto]
      exact ⟨micv.symm, _, rfl, ((header.decremented.refreshed_checksum_iff accepted.checked.base).mp rfl).1⟩
  · have checked := accepted.checked
    have accepted' : AcceptedIpv6 ft header.decremented segment :=
      ⟨accepted.l3Type, ⟨checked.srcAddress, checked.dstAddress, checked.notJumbo, checked.length⟩, accepted.srcAddress,
        accepted.dstAddress, accepted.carries⟩
    have route : Deliverable blake3 key tc.compressionMode ft (Ipv6Header.layout.encode header ++ segment.bytes) ↔
        Recoverable tc.compressionMode ft (Ipv6Header.layout.encode header ++ segment.bytes) := by
      rw [Deliverable, accepted.l3Type]
    rw [transit_iff accepts tethered sent same (fun {_} => @decrementTtl_ipv6 (classified _ ft pkt) header _ accepted.l3Type body _)
      (by rw [accepted.l3Type, compress, compressIpv6_ok accepted.carries])
      (by rw [expand, determined.l3Type, accepted.l3Type]; exact expandIpv6_ok carries header.decremented.carried (by omega)),
      body, delivered_ipv6_iff accepted, route, accepted.recoverable_iff, holding_body]
    refine Iff.trans ⟨And.right, fun whole => ⟨congrArg _ whole, whole⟩⟩ (accepted'.rebuilt_iff determined)

/-- A stand-in for the hash that shows the bytes from the TTL on. -/
def sampleHash : Blake3 where
  hash body := .ofFn fun index => body.getD (index + 8) 0
  keyedHash _ body := .ofFn fun index => body.getD (index + 8) 0

def sampleTc : Ip5TupleTc := ⟨{ Compress.query with srcPort := 0 }⟩

def sampleIngress : Assembly where
  phMode := .adapter
  dock := some ⟨true, [.newFromV4 #[10, 0, 0, 1].toVector], none⟩
  elt ft := if ft = Compress.query then some (.active ⟨sampleTc.compressionMode, 5, none⟩) else none
  dlt _ := none

def sampleEgress : Assembly where
  phMode := .adapter
  dock := some ⟨true, [.newFromV4 #[10, 0, 0, 2].toVector], none⟩
  elt _ := none
  dlt tetherId := if tetherId = 7 then some ⟨sampleTc, none⟩ else none

def sampleSent : Packet := { Compress.queryPacket with headroom := 64, tailroom := 64 }

theorem sample_tethered : Tethered sampleIngress sampleEgress 7 sampleTc none query :=
  ⟨⟨5, rfl⟩, rfl, by decide, by decide⟩

theorem sample_accepted : Accepts (classify sampleSent.fiveTuple sampleSent.body) query :=
  queryPacket_accepted

theorem actorInput_delivers_sample : ∃ transit,
    Accepts (classify sampleSent.fiveTuple sampleSent.body) Compress.query ∧
    Tethered sampleIngress sampleEgress 7 sampleTc none Compress.query ∧
    actorOutput sampleHash 1 sampleIngress false 0 sampleSent = .ok (.forward transit) ∧
    ((∃ delivered, actorInput sampleHash 1 sampleEgress 7 { transit with headroom := 64 } = .ok (.actorInput delivered) ∧
        Delivered Compress.query sampleSent.body delivered.body) ↔
      Deliverable sampleHash none sampleTc.compressionMode Compress.query sampleSent.body) := by
  have sent : ∃ transit, actorOutput sampleHash 1 sampleIngress false 0 sampleSent = .ok (.forward transit) := by
    rw [actorOutput_accepted sample_accepted]
    exact ⟨_, rfl⟩
  obtain ⟨transit, sent⟩ := sent
  exact ⟨transit, sample_accepted, sample_tethered, sent,
    actorInput_delivers_iff sample_accepted sample_tethered sent rfl (show 41 ≤ 64 by decide)⟩

/-- An ordinary packet does not arrive: its check value was taken over the header
checksum of before the TTL was decremented. -/
theorem actorInput_micvFailure : Accepts (classify sampleSent.fiveTuple sampleSent.body) Compress.query ∧
    Tethered sampleIngress sampleEgress 7 sampleTc none Compress.query ∧
    ∃ transit, actorOutput sampleHash 1 sampleIngress false 0 sampleSent = .ok (.forward transit) ∧
      actorInput sampleHash 1 sampleEgress 7 { transit with headroom := 64 } = .ok (.dropped .micvFailure) := by
  refine ⟨sample_accepted, sample_tethered, ?_⟩
  rw [actorOutput_accepted sample_accepted]
  exact ⟨_, rfl, rfl⟩

end Fastpath
end ZprCore.Datapath
