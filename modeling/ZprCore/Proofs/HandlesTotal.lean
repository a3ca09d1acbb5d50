import ZprCore.Proofs.HandleRegister

/-! Which operations of packet futures panic. Each of them is called with a number or an id that
the sender gave out, but two of them do not allow for everything that may have become of it. -/

open List

namespace ZprCore.Zdpr.Sender
open Panic
variable {Pkt : Type} {s : Sender Pkt} {n : Nat}

section
variable {item : Nat} (last : s.lastSent = BitVec.ofInt 64 (n - 1)) (small : n ≤ 2 ^ 63) (below : item < n)
include last small below

/-- A number that was given out is in the window, or no longer. -/
theorem sentIndex_returns {β : Type} {rest : Option Nat → Except Panic β} (outside : Panic.Returns (rest none))
    (inside : ∀ index < s.unacked.length, Panic.Returns (rest (some index))) :
    Panic.Returns (s.sentIndex (BitVec.ofInt 64 item) >>= rest) := by
  refine returns_bind.mpr ⟨_, sentIndex_number last small below, ?_⟩
  split
  · exact outside
  · exact inside _ (by omega)

theorem cancelSentPacket_returns : Panic.Returns (s.cancelSentPacket (BitVec.ofInt 64 item)) := by
  refine sentIndex_returns last small below (returns_ok _) fun index inside => ?_
  exact (returns_bind_iff fun _ => returns_ok _).mpr (returns_get.mpr inside)

theorem limitRetriesBySeqNum_returns (limit : UInt8) : Panic.Returns (s.limitRetriesBySeqNum (BitVec.ofInt 64 item) limit) := by
  refine sentIndex_returns last small below (returns_ok _) fun index inside => ?_
  exact (returns_bind_iff fun _ => returns_ok _).mpr (returns_get.mpr inside)

theorem forgetCanceledPacket_returns (tidy : s.Tidy) : Panic.Returns (s.forgetCanceledPacket (BitVec.ofInt 64 item)) := by
  refine sentIndex_returns last small below (returns_ok _) fun index inside => ?_
  refine (returns_bind_iff fun entry => ?_).mpr (returns_get.mpr inside)
  obtain ⟨next, cleaned, _⟩ := tidy.replaces index entry.forget
  exact ⟨next, cleaned⟩

theorem pollAck_returns (waker : Waker) : ∃ poll next, s.pollAck waker (BitVec.ofInt 64 item) = .ok (poll, next) ∧
    (poll = .ready () → next = s ∧ Panic.Returns (s.isCancelAcked (BitVec.ofInt 64 item))) := by
  unfold pollAck isCancelAcked
  dsimp only
  rw [item_distance last small below, check_bind (by omega),
    check_bind (by omega), neg64_returns (by omega), ok_bind,
    ok_bind]
  obtain ⟨old, _⟩ | ⟨index, entry, place, present, _⟩ := s.entryAt_cases below
  · rw [if_pos (by omega), if_pos (by omega)]
    exact ⟨_, _, rfl, fun _ => ⟨rfl, returns_ok _⟩⟩
  rw [if_neg (by omega), if_neg (by omega), show ((s.unacked.length : Int) + (item - (n - 1)) - 1).toNat = index by omega,
    get_ok.mpr present, ok_bind, ok_bind]
  cases entry with
  | unacked | cancelRequested => exact ⟨_, _, rfl, nofun⟩
  | acked | cancelAcked => exact ⟨_, _, rfl, fun _ => ⟨rfl, returns_ok _⟩⟩

end

section
variable {k : Nat} (last : s.lastEnqueued = BitVec.ofInt 64 (n - 1)) (small : n ≤ 2 ^ 63) (below : k < n)
include last small below

theorem pollSend_number (waker : Waker) : s.pollSend waker (BitVec.ofInt 64 k) =
    if k + s.blocked.length < n then s.lookupSeqNum (BitVec.ofInt 64 k) >>= fun found => .ok (.ready found, s)
    else Panic.get s.blocked (k + s.blocked.length - n) >>= fun
      | .canceled => .error (.assertion "poll of cancelled packet")
      | .blocked packet _ limit => .ok (.pending,
          { s with blocked := s.blocked.set (k + s.blocked.length - n) (.blocked packet waker limit) }) := by
  unfold pollSend
  dsimp only
  rw [id_distance last small below, check_bind (by omega), neg64_returns (by omega), ok_bind]
  split
  · rw [if_pos (by omega)]
    rfl
  · rw [if_neg (by omega), show ((s.blocked.length : Int) + (k - (n - 1)) - 1).toNat = k + s.blocked.length - n by omega]
    rfl

theorem limitRetriesById_number (limit : UInt8) : s.limitRetriesById (BitVec.ofInt 64 k) limit =
    if k + s.blocked.length < n then s.lookupSeqNum (BitVec.ofInt 64 k) >>= fun
      | some sn => s.limitRetriesBySeqNum sn limit
      | none => .ok s
    else Panic.get s.blocked (k + s.blocked.length - n) >>= fun entry =>
      .ok { s with blocked := s.blocked.set (k + s.blocked.length - n) (entry.limitRetries limit) } := by
  unfold limitRetriesById
  dsimp only
  rw [id_distance last small below, check_bind (by omega), neg64_returns (by omega), ok_bind]
  split
  · rw [if_pos (by omega)]
    rfl
  · rw [if_neg (by omega), show ((s.blocked.length : Int) + (k - (n - 1)) - 1).toNat = k + s.blocked.length - n by omega]
    rfl

end

end ZprCore.Zdpr.Sender

namespace ZprCore.Mgmt
open Zdpr Zdpr.Sender Panic Runs
variable {Pkt : Type}

/-- The packet of an id is in the queue, or it has left it. -/
inductive Located (s : Sender (Tagged Pkt)) (id : QueuedPacketId) : Prop where
  | left (found : Option SeqNum) (sent : s.isSent id = .ok true) (gone : ∀ index, ¬ s.Queues id index) (looked : s.lookupSeqNum id = .ok found)
      (kept : s.cancelQueuedPacket id = .ok (none, [], s)) (polled : ∀ waker, s.pollSend waker id = .ok (.ready found, s))
  | waiting (index : Nat) (packet : Tagged Pkt) (unsent : s.isSent id = .ok false) (queues : s.Queues id index)
      (looked : s.lookupSeqNum id = .error (.assertion "lookup of packet which has not yet been sent"))
      (canceled : ∃ woken next, s.cancelQueuedPacket id = .ok (some packet, woken, next))
      (polled : ∀ waker, ∃ next, s.pollSend waker id = .ok (.pending, next))

section
variable {p : Peer} {r : Register Pkt} {s next} {sends serial : Nat} {packetId : PacketId} {seqNum : SeqNum}
  {id : QueuedPacketId} (registers : Registers r s sends) (few : sends ≤ 2 ^ 63)
include registers few

theorem Registers.located (stands : Stands p r s serial (.queued id)) :
    Located s id ∧ ∀ limit, Panic.Returns (s.limitRetriesById id limit) := by
  have small := Nat.le_trans registers.queued few
  have last := registers.lastEnqueued
  have looks found (looked : s.lookupSeqNum id = .ok found) := registers.looked few stands looked
  cases stands with
  | @queued k below leads =>
    have sent := isSent_number last small below
    by_cases left : k + s.blocked.length < r.enqueued
    · have looked := lookupSeqNum_left last small below left
      rw [decide_eq_true left] at sent
      have gone index : ¬ s.Queues (BitVec.ofInt 64 k) index := by
        rw [queues_iff last small below]
        omega
      refine ⟨.left _ sent gone looked (cancelQueuedPacket_left last small below left) ?_, ?_⟩
      · intro waker
        rw [pollSend_number last small below, if_pos left, looked]
        rfl
      intro limit
      rw [limitRetriesById_number last small below, if_pos left, looked]
      have stands := looks _ looked
      revert stands
      cases (s.noteAt r.enqueued k).bind Note.seqNum? with
      | none =>
        intro _
        exact returns_ok _
      | some sn =>
        intro stands
        obtain ⟨item, rfl, carries⟩ := stands.number
        exact limitRetriesBySeqNum_returns registers.lastSent (registers.small few) carries.below limit
    · have waits := Nat.not_lt.mp left
      rw [decide_eq_false left] at sent
      obtain ⟨index, place, found, present, noted⟩ := noteAt_waiting below waits
      have leads := leads _ noted
      rw [queue, getElem?_map] at present
      obtain ⟨entry, held, same⟩ := Option.map_eq_some_iff.mp present
      have inside := lt_length held
      have here : k + s.blocked.length - r.enqueued = index := by omega
      cases entry with
      | canceled =>
        cases same
        exact leads.elim
      | blocked packet waker limit =>
        refine ⟨.waiting index packet sent ((queues_iff last small below).mpr ⟨inside, place⟩)
          (lookupSeqNum_waiting last small below waits) ⟨_, _, cancelQueuedPacket_entry last small below place held⟩ ?_, ?_⟩
        · intro waker'
          rw [pollSend_number last small below, if_neg left, here, get_ok.mpr held]
          exact ⟨_, rfl⟩
        intro limit'
        rw [limitRetriesById_number last small below, if_neg left, here, get_ok.mpr held]
        exact returns_ok _

section
variable (stands : Stands p r s serial packetId)
include stands

theorem Registers.tryCancel_returns : ∃ given after next, Mgmt.tryCancelInternal s packetId = .ok (given, after, next) := by
  cases packetId with
  | sent | acked | canceled => exact ⟨_, _, _, rfl⟩
  | queued id =>
    unfold Mgmt.tryCancelInternal
    dsimp only
    cases (registers.located few stands).1 with
    | left found sent gone looked kept polled =>
      rw [kept, ok_bind]
      dsimp only
      rw [looked]
      exact ⟨_, _, _, rfl⟩
    | waiting index packet unsent queues looked canceled polled =>
      obtain ⟨woken, next, canceled⟩ := canceled
      rw [canceled]
      exact ⟨_, _, _, rfl⟩

omit stands in
theorem Registers.cancelSent_returns (stands : Stands p r s serial (.sent seqNum)) : Panic.Returns (Mgmt.cancelSent s seqNum) := by
  obtain ⟨item, rfl, carries⟩ := stands.number
  refine (returns_bind_iff ?_).mpr (cancelSentPacket_returns registers.lastSent (registers.small few) carries.below)
  rintro ⟨_ | packet, next⟩ <;> exact returns_ok _

/-- A cancellation of a packet that has been acknowledged cannot be requested by the id it was
queued with. -/
theorem Registers.requestCancel_returns_iff :
    Panic.Returns (Mgmt.requestCancelInternal s packetId) ↔ ∀ id, packetId = .queued id → s.lookupSeqNum id ≠ .ok none := by
  cases packetId with
  | acked | canceled => exact iff_of_true (returns_ok _) nofun
  | sent seqNum => exact iff_of_true (registers.cancelSent_returns few stands) nofun
  | queued id =>
    unfold Mgmt.requestCancelInternal Mgmt.tryCancelInternal
    dsimp only
    cases (registers.located few stands).1 with
    | left found sent gone looked kept polled =>
      rw [kept, ok_bind]
      dsimp only
      rw [looked]
      cases found with
      | none => exact iff_of_false not_returns_error fun other => other id rfl looked
      | some seqNum =>
        refine iff_of_true (registers.cancelSent_returns few (registers.looked few stands looked)) ?_
        rintro _ ⟨⟩
        rw [looked]
        exact nofun
    | waiting index packet unsent queues looked canceled polled =>
      obtain ⟨woken, next, canceled⟩ := canceled
      rw [canceled]
      refine iff_of_true (returns_ok _) ?_
      rintro _ ⟨⟩
      rw [looked]
      exact nofun

theorem Registers.limitRetries_returns (limit : UInt8) : Panic.Returns (Mgmt.limitRetriesInternal s limit packetId) := by
  cases packetId with
  | acked | canceled => exact returns_ok _
  | queued id => exact (registers.located few stands).2 limit
  | sent seqNum =>
    obtain ⟨item, rfl, carries⟩ := stands.number
    exact limitRetriesBySeqNum_returns registers.lastSent (registers.small few) carries.below limit

theorem Registers.pollSent_returns (waker : Waker) : Panic.Returns (Mgmt.pollSent s waker packetId) := by
  cases packetId with
  | sent | acked | canceled => exact returns_ok _
  | queued id =>
    unfold Mgmt.pollSent
    dsimp only
    cases (registers.located few stands).1 with
    | left found sent gone looked kept polled =>
      rw [polled]
      exact returns_ok _
    | waiting index packet unsent queues looked canceled polled =>
      obtain ⟨next, polled⟩ := polled waker
      rw [polled]
      exact returns_ok _

end

theorem Registers.pollAckedSent_returns (stands : Stands p r s serial (.sent seqNum)) (waker : Waker) :
    Panic.Returns (Mgmt.pollAckedSent s waker seqNum) ∧ Panic.Returns (Mgmt.pollAckedOrCanceledSent s waker seqNum) := by
  obtain ⟨item, rfl, carries⟩ := stands.number
  obtain ⟨poll, next, polled, ready⟩ := pollAck_returns registers.lastSent (registers.small few) carries.below waker
  unfold Mgmt.pollAckedSent Mgmt.pollAckedOrCanceledSent
  rw [polled]
  refine ⟨returns_ok _, ?_⟩
  rw [ok_bind]
  cases poll with
  | pending => exact returns_ok _
  | ready =>
    obtain ⟨rfl, known⟩ := ready rfl
    refine (returns_bind_iff ?_).mpr known
    rintro (_ | _) <;> exact returns_ok _

theorem Registers.pollAcked_returns (stands : Stands p r s serial packetId) (waker : Waker) :
    (packetId ≠ .canceled → Panic.Returns (Mgmt.pollAcked s waker packetId)) ∧
      Panic.Returns (Mgmt.pollAckedOrCanceled s waker packetId) := by
  cases packetId with
  | acked => exact ⟨fun _ => returns_ok _, returns_ok _⟩
  | canceled => exact ⟨fun other => absurd rfl other, returns_ok _⟩
  | sent seqNum =>
    obtain ⟨acked, canceled⟩ := registers.pollAckedSent_returns few stands waker
    exact ⟨fun _ => acked, canceled⟩
  | queued id =>
    unfold Mgmt.pollAcked Mgmt.pollAckedOrCanceled
    dsimp only
    cases (registers.located few stands).1 with
    | left found sent gone looked kept polled =>
      rw [polled]
      cases found with
      | none => exact ⟨fun _ => returns_ok _, returns_ok _⟩
      | some seqNum =>
        obtain ⟨acked, canceled⟩ := registers.pollAckedSent_returns few (registers.looked few stands looked) waker
        exact ⟨fun _ => acked, canceled⟩
    | waiting index packet unsent queues looked canceled polled =>
      obtain ⟨next, polled⟩ := polled waker
      rw [polled]
      exact ⟨fun _ => returns_ok _, returns_ok _⟩

end

namespace Driver
variable {p : Peer} {d next : Driver Pkt} {r : Register Pkt} {index : Nat} {handle : Handle} {wire}

/-- A cancellation is requested for a packet that was queued and is acknowledged by now, or a
packet that is not the first in the queue is taken back. -/
def Stops (s : Sender (Tagged Pkt)) (handle : Handle) : HandleOp → Prop
  | .requestCancel => ∃ id, handle.packetId = .queued id ∧ s.lookupSeqNum id = .ok none
  | .tryCancel => handle.kind = .sent ∧ ∃ id place, handle.packetId = .queued id ∧ s.Queues id place ∧ place ≠ 0
  | .poll _ | .limitRetries _ | .acked | .ackedOrCanceled | .drop | .enqueue => False

section
variable (registered : Registered p d r) (few : d.sends ≤ 2 ^ 63) (found : d.handles[index]? = some handle)
include registered few found

theorem Registered.isSent_returns : Panic.Returns (handle.isSent d.sender) := by
  have stands := registered.standing found
  unfold Handle.isSent
  split
  · next id named =>
    rw [named] at stands
    cases (registered.registers.located few stands).1 with
    | left _ sent => exact ⟨_, sent⟩
    | waiting _ _ unsent => exact ⟨_, unsent⟩
  · exact returns_ok _
  · exact returns_ok _
  · exact returns_ok _

theorem Registered.poll_returns (waker : Waker) : Panic.Returns (d.poll index handle waker) := by
  have stands := registered.standing found
  have whole := registered.whole handle (mem_of_getElem? found)
  unfold Driver.poll
  split
  · refine (returns_bind_iff ?_).mpr (registered.registers.pollSent_returns few stands waker)
    rintro ⟨_ | _, _⟩ <;> exact returns_ok _
  · next kind =>
    refine (returns_bind_iff fun _ => returns_ok _).mpr ((registered.registers.pollAcked_returns few stands waker).1 ?_)
    intro canceled
    cases kind.symm.trans (whole canceled)
  · exact (returns_bind_iff fun _ => returns_ok _).mpr (registered.registers.pollAcked_returns few stands waker).2

/-- The destructor of a future tries to take back the packet that was just given to the caller. -/
theorem Registered.tryCancel_returns_iff : Panic.Returns (d.tryCancel index handle) ↔
    ¬ ∃ id place, handle.packetId = .queued id ∧ d.sender.Queues id place ∧ place ≠ 0 := by
  have stands := registered.standing found
  have registers := registered.registers
  obtain ⟨given, after, sender, tried⟩ := registers.tryCancel_returns few stands
  unfold Driver.tryCancel
  rw [tried, ok_bind]
  cases given with
  | none =>
    refine iff_of_true (returns_ok _) ?_
    intro ⟨id, place, named, queues, _⟩
    rw [named] at stands tried
    cases (registers.located few stands).1 with
    | left found sent gone => exact gone place queues
    | waiting _ _ unsent => cases (registers.tryCancel_left few stands tried).symm.trans unsent
  | some packet =>
    obtain ⟨id, place, named, queues, head, later⟩ := registers.tryCancel_again few stands tried
    dsimp only
    by_cases zero : place = 0
    · obtain ⟨last, again⟩ := head zero
      rw [again]
      refine iff_of_true (returns_ok _) ?_
      intro ⟨other, place', named', queues', behind⟩
      cases named.symm.trans named'
      have here := queues.2
      have there := queues'.2
      omega
    · rw [later zero]
      exact iff_of_false not_returns_error fun none => none ⟨id, place, named, queues, zero⟩

variable (tidy : d.sender.Tidy)
include tidy

theorem Registered.forget_returns : Panic.Returns (d.forget handle) := by
  have stands := registered.standing found
  unfold Driver.forget
  split
  · cases named : handle.packetId with
    | queued | acked | canceled => exact returns_ok _
    | sent seqNum =>
      rw [named] at stands
      obtain ⟨item, rfl, carries⟩ := stands.number
      exact forgetCanceledPacket_returns registered.registers.lastSent (registered.registers.small few) carries.below tidy
  · exact returns_ok _

theorem Registered.drop_returns : Panic.Returns (d.drop index handle) := by
  have stands := registered.standing found
  obtain ⟨sender, forgot⟩ := registered.forget_returns few found tidy
  unfold Driver.drop
  rw [forgot, ok_bind]
  obtain ⟨rfl, _⟩ | ⟨seqNum, named, _⟩ := registered.forget few found forgot
  · obtain ⟨given, after, next, tried⟩ := registered.registers.tryCancel_returns few stands
    rw [tried]
    exact returns_ok _
  · rw [named]
    exact returns_ok _

theorem Registered.handleStep_returns_iff (op : HandleOp) :
    Panic.Returns (d.handleStep index handle op) ↔ ¬ Stops d.sender handle op := by
  have stands := registered.standing found
  have silent (act : Except Panic (Driver Pkt)) : Panic.Returns (Driver.silent act) ↔ Panic.Returns act :=
    returns_bind_iff fun _ => returns_ok _
  cases op with
  | poll waker => exact iff_of_true ((silent _).mpr (registered.poll_returns few found waker)) not_false
  | limitRetries limit =>
    refine iff_of_true ((silent _).mpr ?_) not_false
    exact (returns_bind_iff fun _ => returns_ok _).mpr (registered.registers.limitRetries_returns few stands limit)
  | drop => exact iff_of_true ((silent _).mpr (registered.drop_returns few found tidy)) not_false
  | enqueue =>
    refine iff_of_true ((silent _).mpr ?_) not_false
    exact (returns_bind_iff fun _ => returns_ok _).mpr (registered.forget_returns few found tidy)
  | requestCancel =>
    refine ((returns_bind_iff fun _ => returns_ok _).trans
      (registered.registers.requestCancel_returns_iff few stands)).trans ?_
    rw [Stops, not_exists]
    exact forall_congr' fun _ => not_and.symm
  | tryCancel =>
    dsimp only [Driver.handleStep]
    split
    · next kind =>
      rw [silent, registered.tryCancel_returns_iff few found, Stops]
      exact not_congr (and_iff_right kind).symm
    · next kind => exact iff_of_true (returns_ok _) fun stops => kind stops.1
  | acked | ackedOrCanceled =>
    dsimp only [Driver.handleStep]
    split <;> exact iff_of_true (returns_ok _) not_false

end

theorem step_settled (settled : Traffic.Settled d.sender) {step} (stepped : d.step step = .ok (wire, next)) :
    Traffic.Settled next.sender := by
  have performs {op : SenderOp (Tagged Pkt)} {messages : List (Message (Tagged Pkt))}
      (performed : d.sender.perform op = .ok (messages, next.sender)) (other : ∀ windowSize, op ≠ .adjustWindowSize windowSize) :
      Traffic.Settled next.sender := settled.perform (fun _ same => absurd same (other _)) performed
  cases step with
  | sendMgmt packet => exact performs (sendMgmtHelper_performs (Except.ok.inj stepped)) (by simp)
  | acknowledgement seqNum isCanceled =>
    obtain ⟨⟨unblocked, sender⟩, acknowledged, stepped⟩ := bind_ok.mp stepped
    cases stepped
    exact Traffic.acknowledge_settled settled acknowledged
  | windowSizeTlv windowSize =>
    obtain ⟨rfl, processed⟩ := silent_ok stepped
    have bound := windowSize.toNat_lt
    obtain ⟨_, rfl⟩ | ⟨_, rfl⟩ := processWindowSizeTlv_cases processed
    · exact settled
    · exact ⟨⟨by dsimp only; omega, settled.tidy.unacked, settled.tidy.held, settled.tidy.ordered⟩, settled.zero⟩
  | retry =>
    cases stepped
    have performed : d.sender.perform (.ageRetries d.sender.unacked.length) = .ok ([], (Mgmt.retry d.sender).2) := rfl
    exact performs performed (by simp)
  | handle index op =>
    dsimp only [Driver.step] at stepped
    split at stepped
    · cases stepped
      exact settled
    obtain ⟨seqNum, _, forgotten, _⟩ | ⟨_, calls⟩ := (handleStep_calls stepped).2
    · have performed : d.sender.perform (.forgetCanceledPacket seqNum) = .ok ([], next.sender) := by
        rw [perform, forgotten]
        rfl
      exact performs performed (by simp)
    · refine calls.keeps Traffic.Settled ?_ settled
      intro s op messages last minor kept performed
      refine kept.perform ?_ performed
      rintro windowSize rfl
      exact minor.elim

/-- In every history of a link, an operation of a future panics exactly if it is one of those. -/
theorem handle_returns_iff {past : List (Driver Pkt × DriverStep Pkt)} {final : Driver Pkt}
    (trace : Trace advance (fun _ _ => True) Driver.new past final) (short : past.length ≤ 2 ^ 63) :
    (∀ index op, Panic.Returns (final.step (.handle index op)) ↔ ∀ handle ∈ final.handles[index]?, ¬ Stops final.sender handle op) ∧
      ∀ handle ∈ final.handles, Panic.Returns (handle.isSent final.sender) := by
  obtain ⟨sent, r, registered, _⟩ := trace_registered trace short
  have few := Nat.le_trans sent short
  have settled : Traffic.Settled final.sender := by
    refine trace.invariant (fun _ d => Traffic.Settled d.sender) ?_ ⟨.new, fun _ => rfl⟩
    intro past d step next _ settled advanced
    obtain ⟨⟨wire, last⟩, stepped, done⟩ := bind_ok.mp advanced
    cases done
    exact step_settled settled stepped
  constructor
  · intro index op
    cases found : final.handles[index]? with
    | none =>
      dsimp only [Driver.step]
      rw [found]
      exact iff_of_true (returns_ok _) nofun
    | some handle =>
      dsimp only [Driver.step]
      rw [found]
      refine (registered.handleStep_returns_iff few found settled.tidy op).trans ?_
      exact ⟨fun none other same => Option.some.inj same ▸ none, fun none => none handle rfl⟩
  · intro handle member
    obtain ⟨index, found⟩ := mem_iff_getElem?.mp member
    exact registered.isSent_returns few found

/-- A packet is sent and a second one waits for it. -/
def samplePair : List (DriverStep Nat) := [.sendMgmt 10, .sendMgmt 11]

/-- Both packets are acknowledged, the second one when it is sent in its turn. -/
def sampleAnswered : List (DriverStep Nat) := samplePair ++ [.acknowledgement 0 false, .acknowledgement 1 false]

/-- A third packet waits behind the second. -/
def sampleBehind : List (DriverStep Nat) := samplePair ++ [.sendMgmt 12]

theorem handle_returns_sample : ∃ past final,
    Trace advance (fun _ _ => True) Driver.new past final ∧ past.map Prod.snd = samplePair.reverse ∧
    (∀ index op, Panic.Returns (final.step (.handle index op)) ↔ ∀ handle ∈ final.handles[index]?, ¬ Stops final.sender handle op) ∧
    ∀ handle ∈ final.handles, Panic.Returns (handle.isSent final.sender) := by
  have trace := Trace.of_record .nil
    (rfl : record advance (fun _ _ => True) [] (Driver.new : Driver Nat) samplePair = some _)
  exact ⟨_, _, trace, rfl, handle_returns_iff trace (by decide)⟩

theorem handle_panics :
    (∃ past final, Trace advance (fun _ _ => True) Driver.new past final ∧ past.map Prod.snd = sampleAnswered.reverse ∧
      final.step (.handle 1 .requestCancel) = .error (.assertion "internal error: entered unreachable code")) ∧
    ∃ past final, Trace advance (fun _ _ => True) Driver.new past final ∧ past.map Prod.snd = sampleBehind.reverse ∧
      final.step (.handle 2 .tryCancel) = .error (.assertion "lookup of packet which has not yet been sent") := by
  have trace (labels) {reached} (recorded : record advance (fun _ _ => True) [] (Driver.new : Driver Nat) labels = some reached) :=
    Trace.of_record .nil recorded
  exact ⟨⟨_, _, trace sampleAnswered rfl, rfl, rfl⟩, _, _, trace sampleBehind rfl, rfl, rfl⟩

end Driver
end ZprCore.Mgmt
