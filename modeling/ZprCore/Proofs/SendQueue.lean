import ZprCore.Proofs.HandleOps

/-! When the send queue of a link stalls. Blocked packets are sent when an acknowledgement
makes room, and at no other time: room that is made in another way is not used, and a window
full of acknowledged cancellations waits for nothing. -/

open List

open Nat

namespace ZprCore.Zdpr
open Panic
variable {Pkt : Type} {sn : SeqNum}

namespace Sender
variable {s middle next : Sender Pkt} {messages}

/-- If a packet is blocked, the window is full and one of its packets waits for an answer. -/
def Lively (s : Sender Pkt) : Prop :=
  (∃ packet waker limit, .blocked packet waker limit ∈ s.blocked) → s.isBlocked = true ∧ s.retryNeeded = true

/-- What the source asks of the queue instead, without looking into it. -/
def Flows (s : Sender Pkt) : Prop := s.hasBlockedPackets = true → s.isBlocked = true ∧ s.retryNeeded = true

/-- Nothing was added to the queue, and the window is as full and as expectant as before. -/
structure Steady (s next : Sender Pkt) : Prop where
  shorter : next.blocked.length ≤ s.blocked.length
  isBlocked : next.isBlocked = s.isBlocked
  retryNeeded : next.retryNeeded = s.retryNeeded

theorem hasBlockedPackets_iff : s.hasBlockedPackets = true ↔ 0 < s.blocked.length := by
  rw [hasBlockedPackets, Bool.not_eq_true', isEmpty_eq_false_iff, length_pos_iff]

theorem isBlocked_iff : s.isBlocked = true ↔ s.windowSize ≤ s.unacked.length := decide_eq_true_iff

/-- The two agree since the packet at the head was not canceled. -/
theorem Headed.lively_iff (headed : s.Headed) : s.Lively ↔ s.Flows := by
  have waiting : (∃ packet waker limit, .blocked packet waker limit ∈ s.blocked) ↔ s.hasBlockedPackets = true := by
    rw [hasBlockedPackets_iff]
    constructor
    · intro ⟨packet, waker, limit, member⟩
      exact length_pos_of_mem member
    intro some
    unfold Headed at headed
    cases found : s.blocked with
    | nil =>
      rw [found] at some
      cases some
    | cons entry rest =>
      rw [found] at headed
      cases entry with
      | canceled => exact absurd rfl headed
      | blocked packet waker limit => exact ⟨packet, waker, limit, mem_cons_self⟩
  rw [Lively, Flows, waiting]

namespace Steady

theorem refl (s : Sender Pkt) : Steady s s := ⟨le_refl _, rfl, rfl⟩

theorem trans (first : Steady s middle) (second : Steady middle next) : Steady s next :=
  ⟨le_trans second.shorter first.shorter, second.isBlocked.trans first.isBlocked, second.retryNeeded.trans first.retryNeeded⟩

theorem flows (steady : Steady s next) (flows : s.Flows) : next.Flows := by
  intro blocked
  rw [steady.isBlocked, steady.retryNeeded]
  apply flows
  rw [hasBlockedPackets_iff] at blocked ⊢
  exact lt_of_lt_of_le blocked steady.shorter

end Steady

/-- The entries that wait for an answer are those that did so before: what leaves the window
was acknowledged. -/
theorem Idle.awaits (idle : Idle s next) : next.retryNeeded = s.retryNeeded := by
  obtain ⟨whole, front, split, acked, size, each⟩ := idle.moves
  have same : whole.map UnackedState.isAcked = s.unacked.map UnackedState.isAcked := by
    apply ext_getElem
    · rw [length_map, length_map, size]
    intro index inside before
    rw [length_map] at inside before
    rw [getElem_map, getElem_map]
    exact (each index _ _ (getElem?_eq_getElem before) (getElem?_eq_getElem inside)).isAcked
  have awaited : whole.any (fun entry => !entry.isAcked) = s.retryNeeded := by
    have mapped := congrArg (any · (!·)) same
    rw [any_map, any_map] at mapped
    exact mapped
  have settled : front.any (fun entry => !entry.isAcked) = false := by
    rw [any_eq_false]
    intro entry member
    rw [acked entry member]
    exact Bool.false_ne_true
  rw [← awaited, split, any_append, settled, Bool.false_or, Sender.retryNeeded]

theorem Retains.steady (retains : Retains s next) (shorter : next.blocked.length ≤ s.blocked.length) : Steady s next := by
  refine ⟨shorter, ?_, retains.idle.awaits⟩
  rw [isBlocked, isBlocked, retains.length, retains.windowSize]

theorem perform_steady {op} (minor : op.Minor) (performed : s.perform op = .ok (messages, next)) : Steady s next := by
  obtain ⟨_, _, turns⟩ := perform_turns performed
  cases turns with
  | same => exact .refl _
  | count => exact ⟨le_refl _, rfl, rfl⟩
  | adjust | push | queue | next | age | forget => exact minor.elim
  | @cancelQueued _ index =>
    split
    · have shorter := Traffic.cleanBlocked_shorter (s.blocked.set index .canceled) s.sent
      rw [length_set] at shorter
      exact ⟨shorter, rfl, rfl⟩
    · exact ⟨le_of_eq length_set, rfl, rfl⟩
  | limitQueued | pollQueued => exact ⟨le_of_eq length_set, rfl, rfl⟩
  | cancelSent _ found => exact (Retains.set found (UnackedState.cancel_proceeds _).evolves).steady (le_refl _)
  | limitSent _ _ found => exact (Retains.set found (UnackedState.limitRetries_proceeds _ _).evolves).steady (le_refl _)
  | pollSent _ _ found => exact (Retains.set found (UnackedState.setWaker_proceeds _ _).evolves).steady (le_refl _)

theorem Calls.steady {count} (calls : Calls SenderOp.Minor count s messages next) : Steady s next := by
  refine calls.keeps (Steady s) ?_ (.refl s)
  intro middle op messages last minor steady performed
  exact steady.trans (perform_steady minor performed)

theorem Calls.headed {count permits} (calls : Calls permits count s messages next) (headed : s.Headed) :
    next.Headed := by
  refine calls.keeps Headed ?_ headed
  intro middle op messages last _ headed performed
  exact perform_headed headed performed

theorem enqueuePacket_flows_iff (flows : s.Flows) (packet : Pkt) :
    (s.enqueuePacket packet).2.Flows ↔ ¬ (s.isBlocked = true ∧ s.retryNeeded = false) := by
  have queues : ∀ id, Sender.Flows { s with lastEnqueued := id, blocked := s.blocked ++ [.blocked packet .noop none] } ↔
      s.isBlocked = true ∧ s.retryNeeded = true := by
    intro id
    have waits : Sender.hasBlockedPackets { s with
        lastEnqueued := id, blocked := s.blocked ++ [.blocked packet .noop none] } = true := by
      rw [hasBlockedPackets_iff, length_append]
      exact succ_pos _
    exact ⟨fun flows => flows waits, fun full _ => full⟩
  by_cases full : s.isBlocked = true
  · rw [enqueuePacket, full, Bool.true_or, if_pos rfl]
    rw [queues]
    simp only [full, true_and, Bool.not_eq_false]
  by_cases waits : s.hasBlockedPackets = true
  · exact absurd (flows waits).1 full
  · rw [enqueuePacket, if_neg (by rw [Bool.or_eq_true]; exact fun some => some.elim full waits)]
    refine ⟨fun _ blocked => full blocked.1, fun _ waiting => absurd waiting waits⟩

theorem adjusted_flows_iff (flows : s.Flows) (windowSize : Nat) :
    Sender.Flows { s with windowSize } ↔ ¬ (s.hasBlockedPackets = true ∧ s.unacked.length < windowSize) := by
  constructor
  · intro kept ⟨waits, room⟩
    exact absurd (isBlocked_iff.mp (kept waits).1) (not_le.mpr room)
  intro full waits
  refine ⟨isBlocked_iff.mpr ?_, (flows waits).2⟩
  exact not_lt.mp fun room => full ⟨waits, room⟩

/-- Forgetting may make room, but sends nothing. -/
theorem forgetCanceledPacket_flows_iff (flows : s.Flows) (forgotten : s.forgetCanceledPacket sn = .ok next) :
    next.Flows ↔ ¬ (s.hasBlockedPackets = true ∧ next.isBlocked = false) := by
  have same : next.hasBlockedPackets = s.hasBlockedPackets := by
    rw [hasBlockedPackets, forgetCanceledPacket_blocked forgotten, hasBlockedPackets]
  rw [Flows, same, (forgetCanceledPacket_idle forgotten).awaits]
  constructor
  · rintro kept ⟨waits, room⟩
    rw [(kept waits).1] at room
    cases room
  intro full waits
  refine ⟨?_, (flows waits).2⟩
  rw [← Bool.not_eq_false]
  exact fun room => full ⟨waits, room⟩

theorem Pushes.awaits {packet} (pushes : Pushes s next packet) : next.retryNeeded = true := by
  obtain ⟨waker, limit, entry⟩ := pushes.entry
  rw [retryNeeded, entry, any_append, Bool.or_eq_true]
  exact .inr rfl

theorem unblockNeeded_iff : s.unblockNeeded = true ↔ s.isBlocked = false ∧ s.hasBlockedPackets = true := by
  rw [unblockNeeded, Bool.and_eq_true, Bool.not_eq_true']

end Sender

namespace Traffic
variable {s next : Sender Pkt}
variable {sent}

/-- The loop leaves a queue that flows, unless it found a full window that waits for nothing. -/
theorem sendUnblocked_flows_iff (unblocked : Mgmt.sendUnblocked s.blocked.length s = .ok (sent, next)) :
    next.Flows ↔ ¬ (s.hasBlockedPackets = true ∧ s.isBlocked = true ∧ s.retryNeeded = false) := by
  have done := sendUnblocked_done (le_refl _) unblocked
  have full : next.hasBlockedPackets = true → next.isBlocked = true := by
    intro waits
    rw [← Bool.not_eq_false]
    intro room
    rw [Sender.unblockNeeded_iff.mpr ⟨room, waits⟩] at done
    cases done
  by_cases needed : s.unblockNeeded = true
  · obtain ⟨room, waits⟩ := Sender.unblockNeeded_iff.mp needed
    obtain ⟨rounds, some⟩ : ∃ rounds, s.blocked.length = rounds + 1 :=
      ⟨s.blocked.length - 1, by have := Sender.hasBlockedPackets_iff.mp waits; omega⟩
    rw [some] at unblocked
    simp only [Mgmt.sendUnblocked, if_pos needed] at unblocked
    obtain ⟨⟨⟨sn, packet⟩, woken, middle⟩, enqueued, unblocked⟩ := bind_ok.mp unblocked
    obtain ⟨⟨rest, last⟩, remaining, unblocked⟩ := bind_ok.mp unblocked
    cases unblocked
    have awaits := sendUnblocked_keeps (fun enqueued _ => (Sender.enqueueNextBlockedPacket_pushes enqueued).1.awaits) remaining
      (Sender.enqueueNextBlockedPacket_pushes enqueued).1.awaits
    rw [room]
    exact iff_of_true (fun waits => ⟨full waits, awaits⟩) fun blocked => Bool.false_ne_true blocked.2.1
  · have same : next = s := by
      cases rounds : s.blocked.length with
      | zero =>
        rw [rounds] at unblocked
        cases unblocked
        rfl
      | succ rounds' =>
        rw [rounds] at unblocked
        simp only [Mgmt.sendUnblocked, if_neg needed] at unblocked
        cases unblocked
        rfl
    subst same
    constructor
    · rintro flows ⟨waits, _, silent⟩
      rw [(flows waits).2] at silent
      cases silent
    intro awaits waits
    refine ⟨full waits, ?_⟩
    rw [← Bool.not_eq_false]
    exact fun silent => awaits ⟨waits, full waits, silent⟩

theorem acknowledge_flows_iff {isCanceled} (acknowledged : Mgmt.acknowledge s sn isCanceled = .ok (sent, next)) :
    next.Flows ↔ ¬ (s.hasBlockedPackets = true ∧ ∃ answered, Mgmt.processAcknowledgement s sn isCanceled = .ok answered ∧
      answered.isBlocked = true ∧ answered.retryNeeded = false) := by
  obtain ⟨answered, processed, unblocked⟩ := bind_ok.mp acknowledged
  have same : answered.hasBlockedPackets = s.hasBlockedPackets := by
    rw [Sender.hasBlockedPackets, processAcknowledgement_blocked processed, Sender.hasBlockedPackets]
  rw [Mgmt.countZdprSenderStats_eq] at unblocked
  rw [sendUnblocked_flows_iff unblocked, ← same]
  apply not_congr
  constructor
  · rintro ⟨waits, full, silent⟩
    exact ⟨waits, answered, processed, full, silent⟩
  rintro ⟨waits, other, again, full, silent⟩
  cases processed.symm.trans again
  exact ⟨waits, full, silent⟩

theorem acknowledge_headed (headed : s.Headed) {isCanceled}
    (acknowledged : Mgmt.acknowledge s sn isCanceled = .ok (sent, next)) : next.Headed := by
  obtain ⟨answered, processed, unblocked⟩ := bind_ok.mp acknowledged
  rw [Mgmt.countZdprSenderStats_eq] at unblocked
  have kept : Sender.Headed { answered with stats := fun _ => 0 } :=
    Sender.Headed.of_blocked (headed.of_blocked (processAcknowledgement_blocked processed)) rfl
  obtain ⟨more, last, again, final⟩ := sendUnblocked_returns answered.blocked.length kept
  cases unblocked.symm.trans again
  exact final

end Traffic
end ZprCore.Zdpr

namespace ZprCore.Mgmt.Driver
open Zdpr Zdpr.Sender Panic Runs
variable {Pkt : Type} {d next : Driver Pkt} {wire} {step : DriverStep Pkt}

def advance (d : Driver Pkt) (step : DriverStep Pkt) : Except Panic (Driver Pkt) := do
  return (← d.step step).2

/-- The steps that stall the queue. Sending does if the window is full of packets whose
cancellation was acknowledged; an answer does if it leaves such a window; a larger window and
forgetting a canceled packet do if they make room. -/
def Stalls (d : Driver Pkt) : DriverStep Pkt → Prop
  | .sendMgmt _ => d.sender.isBlocked = true ∧ d.sender.retryNeeded = false
  | .acknowledgement seqNum isCanceled =>
    d.sender.hasBlockedPackets = true ∧ ∃ answered, processAcknowledgement d.sender seqNum isCanceled = .ok answered ∧
      answered.isBlocked = true ∧ answered.retryNeeded = false
  | .windowSizeTlv windowSize => d.sender.hasBlockedPackets = true ∧ d.sender.unacked.length < windowSize.toNat
  | .retry => False
  | .handle index op =>
    d.sender.hasBlockedPackets = true ∧ ∃ handle seqNum forgotten, d.handles[index]? = some handle ∧
      handle.Forgets op seqNum ∧ d.sender.forgetCanceledPacket seqNum = .ok forgotten ∧ forgotten.isBlocked = false

theorem retry_steady (s : Sender Pkt) : Steady s (retry s).2 :=
  (Retains.age s s.unacked.length).steady (le_refl _)

theorem step_flows_iff (flows : d.sender.Flows) (stepped : d.step step = .ok (wire, next)) :
    next.sender.Flows ↔ ¬ d.Stalls step := by
  cases step with
  | sendMgmt packet =>
    have sent := sendMgmtHelper_sender d packet
    rw [Except.ok.inj stepped] at sent
    rw [sent]
    exact enqueuePacket_flows_iff flows ⟨d.sends, packet⟩
  | acknowledgement seqNum isCanceled =>
    obtain ⟨⟨unblocked, sender⟩, acknowledged, stepped⟩ := bind_ok.mp stepped
    cases stepped
    exact Traffic.acknowledge_flows_iff acknowledged
  | windowSizeTlv windowSize =>
    obtain ⟨rfl, processed⟩ := silent_ok stepped
    obtain ⟨zero, rfl⟩ | ⟨positive, rfl⟩ := processWindowSizeTlv_cases processed
    · refine iff_of_true flows ?_
      rintro ⟨_, room⟩
      rw [zero] at room
      exact not_lt_zero _ room
    · exact adjusted_flows_iff flows windowSize.toNat
  | retry =>
    cases stepped
    exact iff_of_true ((retry_steady d.sender).flows flows) not_false
  | handle index op =>
    rw [Driver.step] at stepped
    cases found : d.handles[index]? with
    | none =>
      rw [found] at stepped
      cases stepped
      refine iff_of_true flows ?_
      rintro ⟨_, handle, _, _, present, _⟩
      cases found.symm.trans present
    | some handle =>
      rw [found] at stepped
      obtain ⟨seqNum, forgets, forgotten, _⟩ | ⟨keeps, calls⟩ := (handleStep_calls stepped).2
      · rw [forgetCanceledPacket_flows_iff flows forgotten]
        apply not_congr
        constructor
        · rintro ⟨waits, room⟩
          exact ⟨waits, handle, seqNum, _, found, forgets, forgotten, room⟩
        rintro ⟨waits, other, named, last, present, forgets', again, room⟩
        cases found.symm.trans present
        cases forgets.2.1.symm.trans forgets'.2.1
        cases forgotten.symm.trans again
        exact ⟨waits, room⟩
      · refine iff_of_true (calls.steady.flows flows) ?_
        rintro ⟨_, other, seqNum, _, present, forgets, _⟩
        cases found.symm.trans present
        exact keeps seqNum forgets

theorem step_headed (headed : d.sender.Headed) (stepped : d.step step = .ok (wire, next)) : next.sender.Headed := by
  cases step with
  | sendMgmt packet =>
    exact perform_headed headed (sendMgmtHelper_performs (Except.ok.inj stepped))
  | acknowledgement seqNum isCanceled =>
    obtain ⟨⟨unblocked, sender⟩, acknowledged, stepped⟩ := bind_ok.mp stepped
    cases stepped
    exact Traffic.acknowledge_headed headed acknowledged
  | windowSizeTlv windowSize =>
    obtain ⟨rfl, processed⟩ := silent_ok stepped
    obtain ⟨_, rfl⟩ | ⟨_, rfl⟩ := processWindowSizeTlv_cases processed <;> exact headed
  | retry =>
    cases stepped
    exact headed
  | handle index op =>
    rw [Driver.step] at stepped
    split at stepped
    · cases stepped
      exact headed
    rename_i handle _
    obtain ⟨seqNum, _, forgotten, _⟩ | ⟨_, calls⟩ := (handleStep_calls stepped).2
    · exact headed.of_blocked (forgetCanceledPacket_blocked forgotten)
    · exact calls.headed headed

/-- A packet is sent and acknowledged while a second one waits for it. -/
def sampleFlow : List (DriverStep Nat) := [.sendMgmt 0, .sendMgmt 1, .acknowledgement 0 false]

/-- A packet is canceled, a second one is sent behind it, and the future of the first is
dropped: the window is empty and the second packet stays where it is. -/
def sampleStall : List (DriverStep Nat) :=
  [.sendMgmt 0, .handle 0 .requestCancel, .acknowledgement 0 true, .sendMgmt 1, .handle 0 .drop]

end ZprCore.Mgmt.Driver
