import ZprCore.Proofs.PacketRegister
import ZprCore.Proofs.SendQueue

/-! Futures and the register of their packets. Every future refers to its packet, and what is
done with it concerns no other one. -/

namespace ZprCore.Mgmt
open Zdpr Zdpr.Sender Panic List Nat
variable {Pkt : Type}

/-- The packet may still be canceled. -/
def PacketId.isOpen : PacketId → Bool
  | .queued _ | .sent _ => true
  | .acked | .canceled => false

/-- What a future may say of its packet. -/
def Tells (p : Peer) (r : Register Pkt) (s : Sender (Tagged Pkt)) (serial : Nat) : PacketStatus → Prop
  | .acked => r.Delivered p serial
  | .canceled => (∃ item, r.Carries item serial ∧ s.entryAt r.carried.length item = some .cancelAcked) ∨ r.Withholds s serial

section
variable {p : Peer} {r : Register Pkt} {s next middle} {sends serial : Nat} {packetId after : PacketId}
  {seqNum : SeqNum}
variable {waker : Waker}

/-- What is done with the future of a packet leaves other packets alone. -/
structure Spares (p : Peer) (r : Register Pkt) (s : Sender (Tagged Pkt)) (sends serial : Nat) (next : Sender (Tagged Pkt)) :
    Prop where
  registers : Registers r next sends
  advances : Advances p sends (· = serial) (fun other _ => other = serial) r s r next

/-- The future goes on with its packet. -/
structure Acts (p : Peer) (r : Register Pkt) (s : Sender (Tagged Pkt)) (sends serial : Nat) (next : Sender (Tagged Pkt))
    (after : PacketId) : Prop extends Spares p r s sends serial next where
  stands : Stands p r next serial after

namespace Acts

theorem refl (registers : Registers r s sends) (stands : Stands p r s serial after) : Acts p r s sends serial s after :=
  ⟨⟨registers, .refl _ _ _ _ _ _⟩, stands⟩

theorem touches (touches : Registers r next sends ∧ Advances p sends (· = serial) (fun _ _ => False) r s r next)
    (known : serial < sends) (stands : Stands p r s serial after) : Acts p r s sends serial next after :=
  ⟨⟨touches.1, touches.2.mono (fun _ => id) nofun⟩, touches.2.stands serial after known not_false stands⟩

end Acts

theorem Spares.continues (continues : Upholds p sends r s next) : Spares p r s sends serial next :=
  ⟨continues.1, continues.2.mono nofun nofun⟩

variable (registers : Registers r s sends) (few : sends ≤ 2 ^ 63) {messages}
  {poll}
include registers few

/-- A packet that is not given back has left the queue. -/
theorem Registers.tryCancel_left {id} (stands : Stands p r s serial (.queued id))
    (tried : Mgmt.tryCancelInternal s (.queued id) = .ok (none, after, next)) : s.isSent id = .ok true := by
  have small := le_trans registers.queued few
  cases stands with
  | @queued k below leads =>
    obtain ⟨⟨given, woken, last⟩, canceled, tried⟩ := bind_ok.mp tried
    cases given with
    | some => cases tried
    | none =>
      obtain ⟨found, looked, _⟩ := bind_ok.mp tried
      cases cancelQueuedPacket_none canceled
      rw [isSent_number registers.lastEnqueued small below]
      by_cases left : k + s.blocked.length < r.enqueued
      · rw [decide_eq_true left]
      · rw [lookupSeqNum_waiting registers.lastEnqueued small below (not_lt.mp left)] at looked
        cases looked

theorem Registers.cancelSent (known : serial < sends) (stands : Stands p r s serial (.sent seqNum))
    (canceled : cancelSent s seqNum = .ok (messages, after, next)) :
    Acts p r s sends serial next after ∧ after = .sent seqNum ∧ ∀ sn packet, .data sn packet ∉ messages := by
  obtain ⟨⟨given, middle⟩, canceled, done⟩ := bind_ok.mp canceled
  obtain ⟨item, rfl, carries⟩ := stands.number
  have touches := registers.edits (p := p) few carries (cancelSentPacket_edits canceled) UnackedState.cancel_proceeds
  cases given with
  | none =>
    cases done
    exact ⟨.touches touches known stands, rfl, nofun⟩
  | some packet =>
    cases done
    refine ⟨.touches touches known stands, rfl, ?_⟩
    intro sn packet member
    cases mem_singleton.mp member

theorem Registers.pollSend_found {id} (stands : Stands p r s serial (.queued id)) {poll}
    (polled : s.pollSend waker id = .ok (poll, next)) : Upholds p sends r s next ∧
      ∀ found, poll = .ready found → next = s ∧ Stands p r s serial (updateSentPacketId found) := by
  refine ⟨registers.pollSend few polled, ?_⟩
  rintro found rfl
  obtain ⟨_, looked, same, rfl⟩ | ⟨_, _, _, _, _, _, impossible, _⟩ := pollSend_cases polled
  · cases same
    exact ⟨rfl, registers.looked few stands looked⟩
  · cases impossible

theorem Registers.pollAckedSent {poll} (polled : pollAckedSent s waker seqNum = .ok (poll, after, next)) :
    Upholds p sends r s next ∧ after = .sent seqNum := by
  obtain ⟨⟨ready, last⟩, first, polled⟩ := bind_ok.mp polled
  cases polled
  exact ⟨registers.pollAck few first, rfl⟩

theorem Registers.pollAckedOrCanceledSent (stands : Stands p r s serial (.sent seqNum))
    (polled : pollAckedOrCanceledSent s waker seqNum = .ok (poll, after, next)) :
    Upholds p sends r s next ∧ after = .sent seqNum ∧
      (p.honest → ∀ status, poll = .ready status → Tells p r next serial status) := by
  obtain ⟨⟨ready, last⟩, first, polled⟩ := bind_ok.mp polled
  have continues := registers.pollAck (p := p) few first
  cases ready with
  | pending =>
    cases polled
    exact ⟨continues, rfl, nofun⟩
  | ready =>
    obtain ⟨canceled, looked, polled⟩ := bind_ok.mp polled
    cases stands with
    | @sent item carries tracked =>
      obtain ⟨rfl, _⟩ := pollAck_ready registers.lastSent (registers.small few) carries.below first
      have outcome := isCancelAcked_ok registers.lastSent (registers.small few) carries.below looked
      cases canceled with
      | true =>
        cases polled
        refine ⟨continues, rfl, ?_⟩
        rintro _ status ⟨⟩
        exact .inl ⟨item, carries, outcome⟩
      | false =>
        cases polled
        refine ⟨continues, rfl, ?_⟩
        rintro honest status ⟨⟩
        have tracks := tracked honest item carries
        refine ⟨item, carries, ?_⟩
        cases found : next.entryAt r.carried.length item with
        | none => rwa [found] at tracks
        | some entry =>
          rw [found] at tracks
          exact tracks.2 (outcome entry found)

variable (stands : Stands p r s serial packetId)
include stands

theorem Registers.tryCancelInternal {packet} (tried : tryCancelInternal s packetId = .ok (packet, after, next)) :
    (packet = none ∧ next = s ∧ Stands p r s serial after ∧ (after = .canceled → packetId = .canceled)) ∨
      packet.isSome = true ∧ after = packetId ∧ Spares p r s sends serial next ∧ r.Withholds next serial := by
  cases packetId with
  | queued id =>
    obtain ⟨⟨given, woken, middle⟩, canceled, tried⟩ := bind_ok.mp tried
    cases given with
    | some given =>
      cases tried
      obtain ⟨index, queues, queued, registers', advances, withholds⟩ := registers.cancelQueuedPacket (p := p) few canceled
      obtain ⟨other, present, rfl⟩ := registers.waiting few stands queues
      cases queued.symm.trans present
      exact .inr ⟨rfl, rfl, ⟨registers', advances.mono nofun fun _ _ same => same⟩, withholds⟩
    | none =>
      obtain ⟨found, looked, tried⟩ := bind_ok.mp tried
      cases tried
      cases cancelQueuedPacket_none canceled
      exact .inl ⟨rfl, rfl, registers.looked few stands looked, by cases found <;> exact nofun⟩
  | sent | acked | canceled =>
    cases tried
    exact .inl ⟨rfl, rfl, stands, id⟩

/-- A packet that was given back cannot be taken again, and it cannot be looked up as long as its
place in the queue is kept. -/
theorem Registers.tryCancel_again {packet} (tried : Mgmt.tryCancelInternal s packetId = .ok (some packet, after, middle)) :
    ∃ id index, packetId = .queued id ∧ s.Queues id index ∧
      (index = 0 → ∃ last, Mgmt.tryCancelInternal middle after = .ok (none, last, middle)) ∧
      (index ≠ 0 → Mgmt.tryCancelInternal middle after = .error (.assertion "lookup of packet which has not yet been sent")) := by
  have small := le_trans registers.queued few
  cases stands with
  | @queued k below leads =>
    obtain ⟨⟨given, woken, last⟩, canceled, tried⟩ := bind_ok.mp tried
    cases given with
    | none =>
      obtain ⟨found, _, tried⟩ := bind_ok.mp tried
      cases tried
    | some given =>
      cases tried
      obtain ⟨impossible, _⟩ | ⟨index, same, waker, limit, queues, found, _⟩ := cancelQueuedPacket_cases canceled
      · cases impossible
      have place := ((queues_iff registers.lastEnqueued small below).mp queues).2
      obtain ⟨lastEnqueued, again, left⟩ := cancelQueuedPacket_again registers.lastEnqueued small below place found canceled
      have number := lastEnqueued.trans registers.lastEnqueued
      refine ⟨_, index, rfl, queues, ?_, ?_⟩
      · intro head
        refine ⟨updateSentPacketId ((middle.noteAt r.enqueued k).bind Note.seqNum?), ?_⟩
        rw [Mgmt.tryCancelInternal, again, ok_bind]
        dsimp only
        rw [lookupSeqNum_left number small below (left.mpr head)]
        rfl
      · intro later
        have waits := not_lt.mp fun gone => later (left.mp gone)
        rw [Mgmt.tryCancelInternal, again, ok_bind]
        dsimp only
        rw [lookupSeqNum_waiting number small below waits]
        rfl
  | sent | acked | canceled => cases tried

theorem Registers.pollSent {poll} (polled : pollSent s waker packetId = .ok (poll, next)) : Upholds p sends r s next ∧
      ∀ found, poll = .ready found → Stands p r next serial found ∧ (found = .canceled → packetId = .canceled) := by
  cases packetId with
  | queued id =>
    obtain ⟨⟨result, middle⟩, first, polled⟩ := bind_ok.mp polled
    obtain ⟨continues, ready⟩ := registers.pollSend_found few stands first
    cases result with
    | pending =>
      cases polled
      exact ⟨continues, nofun⟩
    | ready seqNum =>
      cases polled
      refine ⟨continues, ?_⟩
      rintro found ⟨⟩
      obtain ⟨rfl, found⟩ := ready seqNum rfl
      refine ⟨found, ?_⟩
      cases seqNum <;> exact nofun
  | sent | acked | canceled =>
    cases polled
    refine ⟨⟨registers, .refl _ _ _ _ _ _⟩, ?_⟩
    rintro found ⟨⟩
    exact ⟨stands, id⟩

variable (known : serial < sends)
include known

theorem Registers.requestCancelInternal (requested : requestCancelInternal s packetId = .ok (messages, after, next)) :
    Acts p r s sends serial next after ∧ (∀ sn packet, .data sn packet ∉ messages) ∧
      (r.Lingers next serial → after.isOpen = true ∨ packetId = after ∧ r.Lingers s serial) := by
  cases packetId with
  | queued id =>
    obtain ⟨⟨given, found, middle⟩, tried, requested⟩ := bind_ok.mp requested
    obtain ⟨rfl, rfl, stands', _⟩ | ⟨given', rfl, spares, withholds⟩ := registers.tryCancelInternal few stands tried
    · cases found with
      | sent seqNum =>
        obtain ⟨acts, rfl, wire⟩ := registers.cancelSent few known stands' requested
        exact ⟨acts, wire, fun _ => .inl rfl⟩
      | queued | acked | canceled => cases requested
    · obtain ⟨packet, rfl⟩ := Option.isSome_iff_exists.mp given'
      cases requested
      exact ⟨⟨spares, .canceled withholds⟩, nofun, fun lingers => absurd lingers withholds.silent⟩
  | sent seqNum =>
    obtain ⟨acts, rfl, wire⟩ := registers.cancelSent few known stands requested
    exact ⟨acts, wire, fun _ => .inl rfl⟩
  | acked | canceled =>
    cases requested
    exact ⟨.refl registers stands, nofun, fun lingers => .inr ⟨rfl, lingers⟩⟩

theorem Registers.limitRetriesInternal {retryLimit} (limited : limitRetriesInternal s retryLimit packetId = .ok next) :
    Acts p r s sends serial next packetId ∧ (packetId = .acked ∨ packetId = .canceled → next = s) := by
  cases packetId with
  | queued id => exact ⟨.touches (registers.limitRetriesById few stands limited) known stands, nofun⟩
  | sent seqNum =>
    obtain ⟨item, rfl, carries⟩ := stands.number
    exact ⟨.touches (registers.edits few carries (limitRetriesBySeqNum_edits limited)
      (UnackedState.limitRetries_proceeds · retryLimit)) known stands, nofun⟩
  | acked | canceled =>
    cases limited
    exact ⟨.refl registers stands, fun _ => rfl⟩

theorem Registers.pollAcked {poll} (polled : pollAcked s waker packetId = .ok (poll, after, next)) :
    Upholds p sends r s next ∧ Stands p r next serial after ∧
      (after = .canceled → packetId = .canceled) := by
  cases packetId with
  | acked =>
    cases polled
    exact ⟨⟨registers, .refl _ _ _ _ _ _⟩, stands, nofun⟩
  | canceled => cases polled
  | sent seqNum =>
    obtain ⟨continues, rfl⟩ := registers.pollAckedSent few polled
    exact ⟨continues, continues.2.stands _ _ known not_false stands, nofun⟩
  | queued id =>
    obtain ⟨⟨found, middle⟩, first, rest⟩ := bind_ok.mp polled
    obtain ⟨continues, ready⟩ := registers.pollSend_found few stands first
    match found with
    | .pending | .ready none =>
      cases rest
      exact ⟨continues, continues.2.stands _ _ known not_false stands, nofun⟩
    | .ready (some seqNum) =>
      obtain ⟨rfl, sent⟩ := ready _ rfl
      obtain ⟨continues, rfl⟩ := registers.pollAckedSent few rest
      exact ⟨continues, continues.2.stands _ _ known not_false sent, nofun⟩

theorem Registers.pollAckedOrCanceled (polled : pollAckedOrCanceled s waker packetId = .ok (poll, after, next)) :
    Upholds p sends r s next ∧ Stands p r next serial after ∧
      (packetId.isOpen = true → after.isOpen = true) ∧
      (p.honest → ∀ status, poll = .ready status → Tells p r next serial status) := by
  cases packetId with
  | acked =>
    cases polled
    refine ⟨⟨registers, .refl _ _ _ _ _ _⟩, stands, nofun, ?_⟩
    rintro honest status ⟨⟩
    cases stands with
    | acked delivered => exact delivered honest
  | canceled =>
    cases polled
    refine ⟨⟨registers, .refl _ _ _ _ _ _⟩, stands, nofun, ?_⟩
    rintro _ status ⟨⟩
    cases stands with
    | canceled withholds => exact .inr withholds
  | sent seqNum =>
    obtain ⟨continues, rfl, tells⟩ := registers.pollAckedOrCanceledSent few stands polled
    exact ⟨continues, continues.2.stands _ _ known not_false stands, fun _ => rfl, tells⟩
  | queued id =>
    obtain ⟨⟨found, middle⟩, first, rest⟩ := bind_ok.mp polled
    obtain ⟨continues, ready⟩ := registers.pollSend_found few stands first
    match found with
    | .pending =>
      cases rest
      exact ⟨continues, continues.2.stands _ _ known not_false stands, fun _ => rfl, nofun⟩
    | .ready none =>
      cases rest
      refine ⟨continues, continues.2.stands _ _ known not_false stands, fun _ => rfl, ?_⟩
      rintro honest status ⟨⟩
      obtain ⟨rfl, acked⟩ := ready none rfl
      cases acked with
      | acked delivered => exact delivered honest
    | .ready (some seqNum) =>
      obtain ⟨rfl, sent⟩ := ready _ rfl
      obtain ⟨continues, rfl, tells⟩ := registers.pollAckedOrCanceledSent few sent rest
      exact ⟨continues, continues.2.stands _ _ known not_false sent, fun _ => rfl, tells⟩

end

/-- A future that will forget its packet when it is given up. -/
def Handle.Minds (handle : Handle) : Prop := handle.kind = .ackedOrCanceled ∧ handle.packetId.isOpen = true

namespace Driver
variable {p : Peer} {d next : Driver Pkt} {r r' : Register Pkt} {index : Nat} {handle new : Handle} {sender}
  {resolved} {wire} {safe : Prop}

/-- Every future stands for its packet, no two for the same one. -/
structure Registered (p : Peer) (d : Driver Pkt) (r : Register Pkt) : Prop where
  registers : Registers r d.sender d.sends
  stands : ∀ handle ∈ d.handles, Stands p r d.sender handle.serial handle.packetId
  ordered : (d.handles.map Handle.serial).Pairwise (· < ·)
  known : ∀ handle ∈ d.handles, handle.serial < d.sends
  whole : ∀ handle ∈ d.handles, handle.packetId = .canceled → handle.kind = .ackedOrCanceled

/-- A packet that lingers has a future that minds it. -/
def Minded (d : Driver Pkt) (r : Register Pkt) : Prop :=
  ∀ serial, r.Lingers d.sender serial → ∃ handle ∈ d.handles, handle.serial = serial ∧ handle.Minds

/-- A step keeps the register, and if it is safe, no packet is left to linger. No packet is sent
that was taken back, and futures tell what is so. -/
structure Keeps (p : Peer) (d : Driver Pkt) (r : Register Pkt) (safe : Prop) (next : Driver Pkt) (r' : Register Pkt) : Prop where
  registered : Registered p next r'
  minded : safe → d.Minded r → next.Minded r'
  sends : d.sends ≤ next.sends
  carried : r.carried <+: r'.carried
  line : ∀ packet, some packet ∈ r'.line next.sender → some packet ∈ r.line d.sender ∨ d.sends ≤ packet.serial
  tells : p.honest → ∀ record ∈ next.resolved, record ∈ d.resolved ∨ record.1 < d.sends ∧ Tells p r' next.sender record.1 record.2

theorem Keeps.refl (registered : Registered p d r) : Keeps p d r safe d r :=
  ⟨registered, fun _ => id, le_refl _, prefix_rfl, fun _ => .inl, fun _ _ => .inl⟩

section
variable (registered : Registered p d r) (found : d.handles[index]? = some handle)
include registered found

theorem Registered.standing : Stands p r d.sender handle.serial handle.packetId :=
  registered.stands handle (mem_of_getElem? found)

theorem Minded.own (minded : d.Minded r) (lingers : r.Lingers d.sender handle.serial) : handle.Minds := by
  obtain ⟨other, member, same, minds⟩ := minded _ lingers
  obtain ⟨place, present⟩ := mem_iff_getElem?.mp member
  by_cases here : place = index
  · subst here
    cases found.symm.trans present
    exact minds
  · exact absurd same (other_serial registered.ordered found present here)

omit found in
theorem Registered.others {serial} (spares : Spares p r d.sender d.sends serial sender) {other} (member : other ∈ d.handles)
    (different : other.serial ≠ serial) : Stands p r sender other.serial other.packetId :=
  spares.advances.stands _ _ (registered.known other member) different (registered.stands other member)

theorem Registered.set (acts : Acts p r d.sender d.sends handle.serial sender new.packetId) (same : new.serial = handle.serial)
    (whole : new.packetId = .canceled → new.kind = .ackedOrCanceled)
    (own : safe → (r.Lingers d.sender handle.serial → handle.Minds) → r.Lingers sender handle.serial → new.Minds)
    (tells : p.honest → ∀ record ∈ resolved, record ∈ d.resolved ∨ record.1 < d.sends ∧ Tells p r sender record.1 record.2) :
    Keeps p d r safe { d with sender, handles := d.handles.set index new, resolved } r := by
  refine ⟨⟨acts.registers, ?_, ?_, ?_, ?_⟩, ?_, le_refl _, prefix_rfl, acts.advances.line, tells⟩
  · intro other member
    obtain rfl | ⟨old, different⟩ := mem_set_handle registered.ordered found member
    · rw [same]
      exact acts.stands
    · exact registered.others acts.toSpares old different
  · obtain ⟨inside, rfl⟩ := List.getElem?_eq_some_iff.mp found
    have kept : (d.handles.set index new).map Handle.serial = d.handles.map Handle.serial := by
      rw [map_set, same, ← map_set, set_getElem_self]
    rw [kept]
    exact registered.ordered
  · intro other member
    obtain rfl | ⟨old, _⟩ := mem_set_handle registered.ordered found member
    · rw [same]
      exact registered.known handle (mem_of_getElem? found)
    · exact registered.known other old
  · intro other member
    obtain rfl | ⟨old, _⟩ := mem_set_handle registered.ordered found member
    · exact whole
    · exact registered.whole other old
  · intro safely minded serial lingers
    have inside := lt_length found
    by_cases mine : serial = handle.serial
    · subst mine
      have present : new ∈ d.handles.set index new := mem_of_getElem? (getElem?_set_self inside)
      exact ⟨new, present, same, own safely (minded.own registered found) lingers⟩
    obtain ⟨other, member, named, minds⟩ := minded serial (acts.advances.lingers serial mine lingers)
    obtain ⟨place, present⟩ := mem_iff_getElem?.mp member
    have elsewhere : index ≠ place := by
      rintro rfl
      cases found.symm.trans present
      exact mine named.symm
    exact ⟨other, mem_of_getElem? ((getElem?_set_ne elsewhere).trans present), named, minds⟩

theorem Registered.keep (acts : Acts p r d.sender d.sends handle.serial sender handle.packetId)
    (own : safe → (r.Lingers d.sender handle.serial → handle.Minds) → r.Lingers sender handle.serial → handle.Minds) :
    Keeps p d r safe { d with sender } r := by
  have whole := registered.whole handle (mem_of_getElem? found)
  have kept : Keeps p d r safe { d with sender, handles := d.handles.set index handle, resolved := d.resolved } r :=
    registered.set found acts rfl whole own fun _ _ => .inl
  obtain ⟨inside, rfl⟩ := List.getElem?_eq_some_iff.mp found
  rwa [set_getElem_self] at kept

theorem Registered.erase (spares : Spares p r d.sender d.sends handle.serial sender)
    (own : safe → (r.Lingers d.sender handle.serial → handle.Minds) → ¬ r.Lingers sender handle.serial) :
    Keeps p d r safe { d with sender, handles := d.handles.eraseIdx index } r := by
  refine ⟨⟨spares.registers, ?_, registered.ordered.sublist ((eraseIdx_sublist _ _).map _), ?_, ?_⟩, ?_, le_refl _, prefix_rfl,
    spares.advances.line, fun _ _ => .inl⟩
  · intro other member
    obtain ⟨old, different⟩ := mem_erase_handle registered.ordered found member
    exact registered.others spares old different
  · intro other member
    exact registered.known other (mem_erase_handle registered.ordered found member).1
  · intro other member
    exact registered.whole other (mem_erase_handle registered.ordered found member).1
  intro safely minded serial lingers
  by_cases mine : serial = handle.serial
  · subst mine
    exact absurd lingers (own safely (minded.own registered found))
  obtain ⟨other, member, named, minds⟩ := minded serial (spares.advances.lingers serial mine lingers)
  obtain ⟨place, present⟩ := mem_iff_getElem?.mp member
  have elsewhere : place ≠ index := by
    rintro rfl
    cases found.symm.trans present
    exact mine named.symm
  exact ⟨other, mem_eraseIdx_iff_getElem?.mpr ⟨place, elsewhere, present⟩, named, minds⟩

end

/-- A future is given up with the id of a queued packet although its packet was sent, or will be. -/
def Strays (s : Sender (Tagged Pkt)) : PacketId → HandleOp → Prop
  | .queued _, .enqueue => True
  | .queued id, .drop => s.isSent id = .ok true
  | _, _ => False

instance (s : Sender (Tagged Pkt)) (packetId : PacketId) (op : HandleOp) : Decidable (Strays s packetId op) := by
  unfold Strays
  split <;> infer_instance

def Abandons (d : Driver Pkt) : DriverStep Pkt → Prop
  | .handle index op => ∃ handle ∈ d.handles[index]?, handle.kind = .ackedOrCanceled ∧ Strays d.sender handle.packetId op
  | .sendMgmt _ | .acknowledgement _ _ | .windowSizeTlv _ | .retry => False

instance (d : Driver Pkt) (step : DriverStep Pkt) : Decidable (d.Abandons step) := by
  unfold Abandons
  split <;> infer_instance

section
variable (registered : Registered p d r) (few : d.sends ≤ 2 ^ 63) (found : d.handles[index]? = some handle)
include registered few found

theorem Registered.poll {waker} (polled : d.poll index handle waker = .ok next) : Keeps p d r safe next r := by
  have stands := registered.standing found
  have whole := registered.whole handle (mem_of_getElem? found)
  have known := registered.known handle (mem_of_getElem? found)
  have other (kind : handle.kind ≠ .ackedOrCanceled) : ¬ handle.Minds ∧ handle.packetId ≠ .canceled :=
    ⟨fun minds => kind minds.1, fun canceled => kind (whole canceled)⟩
  unfold Driver.poll at polled
  split at polled
  · next kind =>
    obtain ⟨idle, open'⟩ := other (by rw [kind]; nofun)
    obtain ⟨⟨poll, sender⟩, first, polled⟩ := bind_ok.mp polled
    obtain ⟨continues, ready⟩ := registered.registers.pollSent few stands first
    have silent (own : r.Lingers d.sender handle.serial → handle.Minds) : ¬ r.Lingers sender handle.serial :=
      fun lingers => idle (own (continues.2.lingers _ not_false lingers))
    cases poll with
    | pending =>
      cases polled
      exact registered.keep found ⟨.continues continues, continues.2.stands _ _ known not_false stands⟩
        fun _ own lingers => absurd lingers (silent own)
    | ready packetId =>
      cases polled
      obtain ⟨stands', same⟩ := ready packetId rfl
      exact registered.set found ⟨.continues continues, stands'⟩ rfl (fun canceled => absurd (same canceled) open')
        (fun _ own lingers => absurd lingers (silent own)) fun _ _ => .inl
  · next kind =>
    obtain ⟨idle, open'⟩ := other (by rw [kind]; nofun)
    obtain ⟨⟨poll, packetId, sender⟩, first, polled⟩ := bind_ok.mp polled
    cases polled
    obtain ⟨continues, stands', same⟩ := registered.registers.pollAcked few stands known first
    exact registered.set found ⟨.continues continues, stands'⟩ rfl (fun canceled => absurd (same canceled) open')
      (fun _ own lingers => absurd (own (continues.2.lingers _ not_false lingers)) idle) fun _ _ => .inl
  · next kind =>
    obtain ⟨⟨poll, packetId, sender⟩, first, polled⟩ := bind_ok.mp polled
    cases polled
    obtain ⟨continues, stands', opens, tells⟩ := registered.registers.pollAckedOrCanceled few stands known first
    refine registered.set found ⟨.continues continues, stands'⟩ rfl (fun _ => kind)
      (fun _ own lingers => ⟨kind, opens (own (continues.2.lingers _ not_false lingers)).2⟩) ?_
    intro honest record member
    cases poll with
    | pending => exact .inl member
    | ready status =>
      obtain old | new := mem_append.mp member
      · exact .inl old
      · cases mem_singleton.mp new
        exact .inr ⟨known, tells honest status rfl⟩

theorem Registered.requestCancel (requested : d.requestCancel index handle = .ok (wire, next)) :
    Keeps p d r safe next r ∧ ∀ sn packet, .data sn packet ∉ wire := by
  have stands := registered.standing found
  obtain ⟨⟨messages, packetId, sender⟩, first, done⟩ := bind_ok.mp requested
  cases done
  have known := registered.known handle (mem_of_getElem? found)
  obtain ⟨acts, silent, lingers⟩ := registered.registers.requestCancelInternal few stands known first
  refine ⟨registered.set found acts rfl (fun _ => rfl) ?_ fun _ _ => .inl, silent⟩
  intro _ own lingering
  obtain opens | ⟨same, before⟩ := lingers lingering
  · exact ⟨rfl, opens⟩
  · exact ⟨rfl, same ▸ (own before).2⟩

theorem Registered.limitRetries {retryLimit} (limited : d.limitRetries index handle retryLimit = .ok next) :
    Keeps p d r safe next r := by
  have stands := registered.standing found
  obtain ⟨sender, first, done⟩ := bind_ok.mp limited
  cases done
  have known := registered.known handle (mem_of_getElem? found)
  obtain ⟨acts, closed⟩ := registered.registers.limitRetriesInternal few stands known first
  refine registered.set found acts rfl (fun _ => rfl) ?_ fun _ _ => .inl
  intro _ own lingers
  refine ⟨rfl, ?_⟩
  cases named : handle.packetId with
  | queued | sent => rfl
  | acked =>
    rw [closed (.inl named)] at lingers
    exact named ▸ (own lingers).2
  | canceled =>
    rw [closed (.inr named)] at lingers
    exact named ▸ (own lingers).2

theorem Registered.tryCancel (kind : handle.kind = .sent) (tried : d.tryCancel index handle = .ok next) :
    Keeps p d r safe next r := by
  have stands := registered.standing found
  have whole := registered.whole handle (mem_of_getElem? found)
  have idle : ¬ handle.Minds := by
    intro minds
    cases kind.symm.trans minds.1
  obtain ⟨⟨given, packetId, sender⟩, first, tried⟩ := bind_ok.mp tried
  cases given with
  | none =>
    cases tried
    obtain ⟨_, rfl, stands', same⟩ | ⟨impossible, _⟩ := registered.registers.tryCancelInternal few stands first
    · refine registered.set found (.refl registered.registers stands') rfl ?_ (fun _ own lingers => absurd (own lingers) idle)
        fun _ _ => .inl
      intro canceled
      cases kind.symm.trans (whole (same canceled))
    · cases impossible
  | some packet =>
    obtain ⟨⟨again, last, dropped⟩, second, tried⟩ := bind_ok.mp tried
    cases tried
    obtain ⟨impossible, _⟩ | ⟨_, rfl, spares, withholds⟩ := registered.registers.tryCancelInternal few stands first
    · cases impossible
    obtain ⟨id, place, named, queues, head, later⟩ := registered.registers.tryCancel_again few stands first
    by_cases zero : place = 0
    · obtain ⟨last, same⟩ := head zero
      cases same.symm.trans second
      exact registered.erase found spares fun _ _ => withholds.silent
    · cases (later zero).symm.trans second

theorem Registered.forget (forgot : d.forget handle = .ok sender) :
    (sender = d.sender ∧ ((r.Lingers d.sender handle.serial → handle.Minds) → r.Lingers d.sender handle.serial →
        handle.kind = .ackedOrCanceled ∧ ∃ id, handle.packetId = .queued id)) ∨
      ∃ seqNum, handle.packetId = .sent seqNum ∧ Spares p r d.sender d.sends handle.serial sender ∧
        ¬ r.Lingers sender handle.serial := by
  have stands := registered.standing found
  unfold Driver.forget at forgot
  split at forgot
  · next kind =>
    cases named : handle.packetId with
    | queued id =>
      rw [named] at forgot
      cases forgot
      exact .inl ⟨rfl, fun _ _ => ⟨kind, id, rfl⟩⟩
    | sent seqNum =>
      rw [named] at forgot stands
      obtain ⟨item, rfl, carries⟩ := stands.number
      obtain ⟨⟨registers, advances⟩, silent⟩ := registered.registers.forget (p := p) few carries forgot
      exact .inr ⟨_, rfl, ⟨registers, advances.mono nofun fun _ _ same => same⟩, silent⟩
    | acked | canceled =>
      rw [named] at forgot
      cases forgot
      refine .inl ⟨rfl, fun own lingers => ?_⟩
      have minds := (own lingers).2
      rw [named] at minds
      cases minds
  · next kind =>
    cases forgot
    exact .inl ⟨rfl, fun own lingers => absurd (own lingers).1 kind⟩

theorem Registered.drop (dropped : d.drop index handle = .ok next) :
    Keeps p d r (¬ d.Abandons (.handle index .drop)) next r := by
  have stands := registered.standing found
  obtain ⟨sender, forgot, dropped⟩ := bind_ok.mp dropped
  obtain ⟨⟨given, packetId, last⟩, tried, dropped⟩ := bind_ok.mp dropped
  cases dropped
  obtain ⟨rfl, lingering⟩ | ⟨seqNum, named, spares, silent⟩ := registered.forget few found forgot
  · obtain ⟨rfl, rfl, _⟩ | ⟨_, _, spares, withholds⟩ := registered.registers.tryCancelInternal few stands tried
    · refine registered.erase found ⟨registered.registers, .refl _ _ _ _ _ _⟩ fun safely own lingers => ?_
      obtain ⟨kind, id, named⟩ := lingering own lingers
      rw [named] at stands tried
      refine safely ⟨handle, found, kind, ?_⟩
      rw [named]
      exact registered.registers.tryCancel_left few stands tried
    · exact registered.erase found spares fun _ _ => withholds.silent
  · rw [named] at tried
    cases tried
    exact registered.erase found spares fun _ _ => silent

theorem Registered.enqueue (enqueued : d.enqueue index handle = .ok next) :
    Keeps p d r (¬ d.Abandons (.handle index .enqueue)) next r := by
  obtain ⟨sender, forgot, done⟩ := bind_ok.mp enqueued
  cases done
  obtain ⟨rfl, lingering⟩ | ⟨seqNum, named, spares, silent⟩ := registered.forget few found forgot
  · refine registered.erase found ⟨registered.registers, .refl _ _ _ _ _ _⟩ fun safely own lingers => ?_
    obtain ⟨kind, id, named⟩ := lingering own lingers
    refine safely ⟨handle, found, kind, ?_⟩
    rw [named]
    trivial
  · exact registered.erase found spares fun _ _ => silent

omit few in
theorem Registered.rename {kind} (before : handle.kind ≠ .ackedOrCanceled) :
    Keeps p d r safe { d with handles := d.handles.set index { handle with kind } } r := by
  have stands := registered.standing found
  refine registered.set found (.refl registered.registers stands) rfl ?_ ?_ fun _ _ => .inl
  · intro canceled
    exact absurd (registered.whole handle (mem_of_getElem? found) canceled) before
  · intro _ own lingers
    exact absurd (own lingers).1 before

theorem Registered.handleStep {op} (stepped : d.handleStep index handle op = .ok (wire, next)) :
    Keeps p d r (¬ d.Abandons (.handle index op)) next r ∧ ∀ sn packet, .data sn packet ∉ wire := by
  have silent {act : Except Panic (Driver Pkt)} {safe : Prop} (keeps : ∀ next, act = .ok next → Keeps p d r safe next r)
      (done : Driver.silent act = .ok (wire, next)) : Keeps p d r safe next r ∧ ∀ sn packet, .data sn packet ∉ wire := by
    obtain ⟨rfl, acted⟩ := silent_ok done
    exact ⟨keeps _ acted, nofun⟩
  have same {safe : Prop} : Keeps p d r safe d r ∧ ∀ sn packet, (.data sn packet : Message (Tagged Pkt)) ∉ [] :=
    ⟨.refl registered, nofun⟩
  cases op with
  | poll waker => exact silent (fun _ => registered.poll few found) stepped
  | requestCancel => exact registered.requestCancel few found stepped
  | limitRetries limit => exact silent (fun _ => registered.limitRetries few found) stepped
  | drop => exact silent (fun _ => registered.drop few found) stepped
  | enqueue => exact silent (fun _ => registered.enqueue few found) stepped
  | tryCancel =>
    dsimp only [Driver.handleStep] at stepped
    split at stepped
    · next kind => exact silent (fun _ => registered.tryCancel few found kind) stepped
    · cases stepped
      exact same
  | acked | ackedOrCanceled =>
    dsimp only [Driver.handleStep] at stepped
    split at stepped
    · next kind =>
      cases stepped
      exact ⟨registered.rename found (by rw [kind]; nofun), nofun⟩
    · cases stepped
      exact same

end

theorem Registered.advance {but} (registered : Registered p d r) (registers : Registers r' sender d.sends)
    (advances : Advances p d.sends (fun _ => False) but r d.sender r' sender)
    (others : ∀ handle ∈ d.handles, ¬ but handle.serial handle.packetId) : Keeps p d r safe { d with sender } r' := by
  refine ⟨⟨registers, ?_, registered.ordered, registered.known, registered.whole⟩, ?_, le_refl _, advances.carried, advances.line,
    fun _ _ => .inl⟩
  · intro handle member
    exact advances.stands _ _ (registered.known handle member) (others handle member) (registered.stands handle member)
  · intro _ minded serial lingers
    exact minded serial (advances.lingers serial id lingers)

theorem Registered.append {packetId} (registered : Registered p d r) (registers : Registers r' sender (d.sends + 1))
    (continues : Continues p d.sends r d.sender r' sender) (stands : Stands p r' sender d.sends packetId)
    (named : packetId ≠ .canceled) :
    Keeps p d r safe { d with sender, handles := d.handles ++ [⟨.sent, packetId, d.sends⟩], sends := d.sends + 1 } r' := by
  refine ⟨⟨registers, ?_, ?_, ?_, ?_⟩, ?_, le_succ _, continues.carried, continues.line, fun _ _ => .inl⟩
  · intro handle member
    obtain old | new := mem_append.mp member
    · exact continues.stands _ _ (registered.known handle old) not_false (registered.stands handle old)
    · cases mem_singleton.mp new
      exact stands
  · rw [map_append, pairwise_append]
    refine ⟨registered.ordered, pairwise_singleton _ _, ?_⟩
    intro before member after last
    obtain ⟨handle, old, rfl⟩ := mem_map.mp member
    cases mem_singleton.mp last
    exact registered.known handle old
  · intro handle member
    obtain old | new := mem_append.mp member
    · exact lt_succ_of_lt (registered.known handle old)
    · cases mem_singleton.mp new
      exact lt_succ_self _
  · intro handle member canceled
    obtain old | new := mem_append.mp member
    · exact registered.whole handle old canceled
    · cases mem_singleton.mp new
      exact absurd canceled named
  · intro _ minded serial lingers
    obtain ⟨handle, member, minds⟩ := minded serial (continues.lingers serial id lingers)
    exact ⟨handle, mem_append_left _ member, minds⟩

/-- The messages carry packets under the numbers of the register. -/
def Labels (r : Register Pkt) (wire : List (Message (Tagged Pkt))) : Prop :=
  ∀ sn packet, .data sn packet ∈ wire → ∃ item : Nat, sn = BitVec.ofInt 64 item ∧ r.carried[item]? = some packet

theorem labels_data {sent : List (SeqNum × Tagged Pkt)}
    (numbered : ∀ sn packet, (sn, packet) ∈ sent → ∃ item : Nat, sn = BitVec.ofInt 64 item ∧ r.carried[item]? = some packet) :
    Labels r (sent.map fun (seqNum, packet) => .data seqNum packet) := by
  intro sn packet member
  obtain ⟨pair, present, same⟩ := mem_map.mp member
  cases same
  exact numbered _ _ present

/-- The peer answers truthfully, and no future misses that its packet was canceled. -/
def Trusts (p : Peer) (d : Driver Pkt) (r : Register Pkt) : DriverStep Pkt → Prop
  | .acknowledgement seqNum false => ∀ item : Nat, item < r.carried.length → seqNum = BitVec.ofInt 64 item → p.heard item
  | .acknowledgement seqNum true => ∀ handle ∈ d.handles, ∀ id, handle.packetId = .queued id →
      d.sender.lookupSeqNum id ≠ .ok (some seqNum)
  | .sendMgmt _ | .windowSizeTlv _ | .retry | .handle _ _ => True

theorem Registered.step {step} (registered : Registered p d r) (few : d.sends < 2 ^ 63)
    (trusts : p.honest → d.Trusts p r step) (stepped : d.step step = .ok (wire, next)) :
    ∃ r', Keeps p d r (¬ d.Abandons step) next r' ∧ Labels r' wire := by
  have few' := le_of_lt few
  cases step with
  | sendMgmt packet =>
    obtain ⟨result, sender, enqueued⟩ : ∃ result sender, d.sender.enqueuePacket ⟨d.sends, packet⟩ = (result, sender) := ⟨_, _, rfl⟩
    dsimp only [Driver.step, Driver.sendMgmtHelper] at stepped
    rw [enqueued] at stepped
    cases result with
    | sent seqNum given =>
      cases stepped
      obtain ⟨r', registers, continues, stands, item, rfl, carried⟩ := registered.registers.enqueue_sent few enqueued
      refine ⟨r', registered.append registers continues stands nofun, ?_⟩
      intro sn packet member
      cases mem_singleton.mp member
      exact ⟨item, rfl, carried⟩
    | queued id =>
      cases stepped
      obtain ⟨r', registers, continues, stands⟩ := registered.registers.enqueue_queued few enqueued
      exact ⟨r', registered.append registers continues stands nofun, nofun⟩
  | acknowledgement seqNum isCanceled =>
    obtain ⟨⟨sent, sender⟩, acknowledged, stepped⟩ := bind_ok.mp stepped
    cases stepped
    obtain ⟨r', registers, advances, numbered⟩ := registered.registers.acknowledge (p := p) few' (by
      rintro honest rfl
      exact trusts honest) acknowledged
    refine ⟨r', registered.advance registers advances ?_, labels_data numbered⟩
    rintro handle member ⟨honest, rfl, id, named, looked⟩
    exact trusts honest handle member id named looked
  | windowSizeTlv windowSize =>
    obtain ⟨rfl, processed⟩ := silent_ok stepped
    obtain ⟨_, rfl⟩ | ⟨_, rfl⟩ := processWindowSizeTlv_cases processed
    · exact ⟨r, .refl registered, nofun⟩
    · obtain ⟨registers, continues⟩ := registered.registers.reset windowSize.toNat d.sender.stats
      exact ⟨r, registered.advance registers continues fun _ _ => id, nofun⟩
  | retry =>
    cases stepped
    obtain ⟨registers, continues⟩ := registered.registers.age (p := p) few'
    refine ⟨r, registered.advance registers continues fun _ _ => id, ?_⟩
    intro sn packet member
    obtain data | cancel := mem_append.mp member
    · exact labels_data (fun _ _ => registers.resends) sn packet data
    · obtain ⟨_, _, impossible⟩ := mem_map.mp cancel
      cases impossible
  | handle index op =>
    dsimp only [Driver.step] at stepped
    split at stepped
    · cases stepped
      exact ⟨r, .refl registered, nofun⟩
    next handle found =>
    obtain ⟨keeps, silent⟩ := registered.handleStep few' found stepped
    exact ⟨r, keeps, fun sn packet member => absurd member (silent sn packet)⟩

theorem registered_new : Registered p (Driver.new : Driver Pkt) ⟨[], 0⟩ where
  registers := {
    lastSent := rfl
    window := le_refl 0
    lastEnqueued := rfl
    trail := le_refl 0
    ordered := .nil
    counted := nofun
    few := le_refl 0
    queued := le_refl 0
    entries := nofun }
  stands := nofun
  ordered := .nil
  known := nofun
  whole := nofun

/-- What was put on the wire. -/
def emitted (past : List (Driver Pkt × DriverStep Pkt)) : List (Message (Tagged Pkt)) :=
  past.flatMap fun (d, step) =>
    match d.step step with
    | .ok (wire, _) => wire
    | .error _ => []

/-- Every run has a register. The packets on the wire have the numbers it gives them, and unless
a future was abandoned, no packet is left to linger. -/
theorem trace_registered {past} {final : Driver Pkt} (trace : Runs.Trace advance (fun _ _ => True) Driver.new past final)
    (short : past.length ≤ 2 ^ 63) :
    final.sends ≤ past.length ∧ ∃ r, Registered ⟨False, fun _ => False⟩ final r ∧
      Labels r (emitted past) ∧
      ((∀ moment ∈ past, ¬ moment.1.Abandons moment.2) → final.Minded r) := by
  induction trace with
  | nil =>
    refine ⟨le_refl 0, ⟨[], 0⟩, registered_new, ?_, ?_⟩
    · intro sn packet member
      cases member
    rintro _ serial (⟨item, entry, ⟨_, carries⟩, _⟩ | ⟨packet, waker, limit, member, _⟩)
    · cases carries
    · cases member
  | @snoc past state next label before enabled stepped ih =>
    rw [length_cons] at short ⊢
    obtain ⟨few, r, registered, labeled, minded⟩ := ih (by omega)
    obtain ⟨⟨wire, after⟩, took, same⟩ := bind_ok.mp stepped
    cases same
    obtain ⟨r', keeps, labels⟩ := registered.step (by omega) False.elim took
    refine ⟨le_trans (step_grows took).sends (by omega), r', keeps.registered, ?_, ?_⟩
    · intro sn packet member
      rw [emitted, flatMap_cons] at member
      dsimp only at member
      rw [took] at member
      obtain here | earlier := mem_append.mp member
      · exact labels sn packet here
      obtain ⟨item, number, carried⟩ := labeled sn packet earlier
      obtain ⟨more, same⟩ := keeps.carried
      refine ⟨item, number, ?_⟩
      rw [← same, getElem?_append_left (lt_length carried), carried]
    · intro careful
      obtain ⟨here, earlier⟩ := forall_mem_cons.mp careful
      exact keeps.minded here (minded earlier)

end Driver
end ZprCore.Mgmt
