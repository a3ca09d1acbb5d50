import ZprCore.Mgmt.Handles
import ZprCore.Proofs.ZdprBlocked

/-! What is done with the future of a packet is done to the sender in a few calls. As long as
the future is kept, none of them sends a packet, forgets a cancellation or adjusts the window. -/

open List

open Nat

namespace ZprCore.Zdpr
open Panic
variable {Pkt : Type}

/-- The calls made on behalf of a future that is kept. -/
def SenderOp.Minor : SenderOp Pkt → Prop
  | .cancelQueuedPacket _ | .cancelSentPacket _ | .limitRetriesById _ _ | .limitRetriesBySeqNum _ _
  | .pollSend _ _ | .pollAck _ _ => True
  | .enqueuePacket _ | .enqueueNextBlockedPacket | .forgetCanceledPacket _ | .adjustWindowSize _ | .ageRetries _
  | .retryPackets | .retryCancels | .pollSendAndAck _ _ | .fetchResetStat _ => False

namespace Sender

/-- A call, after the messages that are on the wire already. -/
def performing (state : Sender Pkt × List (Message Pkt)) (op : SenderOp Pkt) :
    Except Panic (Sender Pkt × List (Message Pkt)) := do
  let (messages, s) ← state.1.perform op
  return (s, state.2 ++ messages)

/-- A number of permitted calls, with the messages they put on the wire. -/
def Calls (permits : SenderOp Pkt → Prop) (count : Nat) (s : Sender Pkt) (messages : List (Message Pkt))
    (next : Sender Pkt) : Prop :=
  ∃ ops : List (SenderOp Pkt), ops.length ≤ count ∧
    ∀ sent, Runs.Run performing (fun _ => permits) (s, sent) ops (next, sent ++ messages)

namespace Calls
variable {permits} {count further : Nat} {s middle next : Sender Pkt}
  {messages more}

theorem refl (s : Sender Pkt) : Calls permits count s [] s := by
  refine ⟨[], zero_le _, fun sent => ?_⟩
  rw [append_nil]
  exact .nil _

theorem one (op : SenderOp Pkt) (permitted : permits op) (performed : s.perform op = .ok (messages, next)) :
    Calls permits 1 s messages next := by
  refine ⟨[op], le_refl _, fun sent => .cons permitted ?_ (.nil _)⟩
  rw [performing, performed]
  rfl

theorem trans (first : Calls permits count s messages middle) (second : Calls permits further middle more next) :
    Calls permits (count + further) s (messages ++ more) next := by
  obtain ⟨ops, few, runs⟩ := first
  obtain ⟨later, fewer, continues⟩ := second
  refine ⟨ops ++ later, ?_, fun sent => ?_⟩
  · rw [length_append]
    exact Nat.add_le_add few fewer
  · rw [← append_assoc]
    exact (runs sent).append (continues _)

theorem mono (calls : Calls permits count s messages next) (more : count ≤ further) :
    Calls permits further s messages next := by
  obtain ⟨ops, few, runs⟩ := calls
  exact ⟨ops, le_trans few more, runs⟩

theorem keeps (holds : Sender Pkt → Prop)
    (step : ∀ s op messages next, permits op → holds s → s.perform op = .ok (messages, next) → holds next)
    (calls : Calls permits count s messages next) (initial : holds s) : holds next := by
  obtain ⟨ops, _, runs⟩ := calls
  refine (runs []).invariant (fun state => holds state.1) (fun state op after permitted kept stepped => ?_) initial
  obtain ⟨⟨messages, last⟩, performed, done⟩ := bind_ok.mp stepped
  cases done
  exact step _ op messages last permitted kept performed

end Calls
end Sender
end ZprCore.Zdpr

namespace ZprCore.Mgmt
open Zdpr Zdpr.Sender Panic
variable {Pkt : Type} {s next : Sender Pkt} {messages} {packetId after : PacketId}
variable {id : QueuedPacketId} {waker : Waker} {poll : Poll Unit} {seqNum : SeqNum}

theorem cancelQueuedPacket_calls {packet woken} (canceled : s.cancelQueuedPacket id = .ok (packet, woken, next)) :
    Calls SenderOp.Minor 1 s [] next := by
  refine .one (.cancelQueuedPacket id) trivial ?_
  rw [perform, canceled]
  rfl

theorem cancelQueuedPacket_none {woken} (canceled : s.cancelQueuedPacket id = .ok (none, woken, next)) : next = s := by
  obtain ⟨_, _, same⟩ | ⟨_, _, _, _, _, _, impossible, _⟩ := cancelQueuedPacket_cases canceled
  · exact same
  · cases impossible

theorem pollSend_calls {poll} (polled : s.pollSend waker id = .ok (poll, next)) : Calls SenderOp.Minor 1 s [] next := by
  refine .one (.pollSend waker id) trivial ?_
  rw [perform, polled]
  rfl

theorem pollAck_calls {sn} (polled : s.pollAck waker sn = .ok (poll, next)) : Calls SenderOp.Minor 1 s [] next := by
  refine .one (.pollAck waker sn) trivial ?_
  rw [perform, polled]
  rfl

theorem tryCancelInternal_calls {packet} (tried : tryCancelInternal s packetId = .ok (packet, after, next)) :
    Calls SenderOp.Minor 1 s [] next := by
  cases packetId with
  | queued id =>
    obtain ⟨⟨given, woken, middle⟩, canceled, tried⟩ := bind_ok.mp tried
    have calls := cancelQueuedPacket_calls canceled
    cases given with
    | some given =>
      cases tried
      exact calls
    | none =>
      obtain ⟨found, _, tried⟩ := bind_ok.mp tried
      cases tried
      exact calls
  | sent | acked | canceled =>
    cases tried
    exact .refl s

theorem cancelSent_calls (canceled : cancelSent s seqNum = .ok (messages, after, next)) :
    Calls SenderOp.Minor 1 s messages next := by
  obtain ⟨⟨given, middle⟩, canceled, done⟩ := bind_ok.mp canceled
  refine .one (.cancelSentPacket seqNum) trivial ?_
  rw [perform, canceled]
  cases given <;> cases done <;> rfl

theorem requestCancelInternal_calls (requested : requestCancelInternal s packetId = .ok (messages, after, next)) :
    Calls SenderOp.Minor 2 s messages next := by
  cases packetId with
  | queued id =>
    obtain ⟨⟨given, found, middle⟩, tried, requested⟩ := bind_ok.mp requested
    have calls := tryCancelInternal_calls tried
    cases given with
    | some given =>
      cases requested
      exact calls.mono (by decide)
    | none =>
      cases found with
      | sent seqNum => exact calls.trans (cancelSent_calls requested)
      | queued | acked | canceled => cases requested
  | sent seqNum => exact (cancelSent_calls requested).mono (by decide)
  | acked | canceled =>
    cases requested
    exact .refl s

theorem limitRetriesInternal_calls {retryLimit} (limited : limitRetriesInternal s retryLimit packetId = .ok next) :
    Calls SenderOp.Minor 1 s [] next := by
  cases packetId with
  | queued id =>
    refine .one (.limitRetriesById id retryLimit) trivial ?_
    rw [perform, show s.limitRetriesById id retryLimit = .ok next from limited]
    rfl
  | sent seqNum =>
    refine .one (.limitRetriesBySeqNum seqNum retryLimit) trivial ?_
    rw [perform, show s.limitRetriesBySeqNum seqNum retryLimit = .ok next from limited]
    rfl
  | acked | canceled =>
    cases limited
    exact .refl s

theorem pollSent_calls {poll} (polled : pollSent s waker packetId = .ok (poll, next)) : Calls SenderOp.Minor 1 s [] next := by
  cases packetId with
  | queued id =>
    obtain ⟨⟨found, middle⟩, first, polled⟩ := bind_ok.mp polled
    have calls := pollSend_calls first
    cases found <;> cases polled <;> exact calls
  | sent | acked | canceled =>
    cases polled
    exact .refl s

theorem pollAckedSent_calls (polled : pollAckedSent s waker seqNum = .ok (poll, after, next)) :
    Calls SenderOp.Minor 1 s [] next := by
  obtain ⟨⟨ready, last⟩, first, polled⟩ := bind_ok.mp polled
  cases polled
  exact pollAck_calls first

theorem pollAcked_calls (polled : pollAcked s waker packetId = .ok (poll, after, next)) :
    Calls SenderOp.Minor 2 s [] next := by
  cases packetId with
  | acked =>
    cases polled
    exact .refl s
  | canceled => cases polled
  | sent seqNum => exact (pollAckedSent_calls polled).mono (by decide)
  | queued id =>
    obtain ⟨⟨found, middle⟩, first, polled⟩ := bind_ok.mp polled
    have calls := pollSend_calls first
    match found with
    | .pending | .ready none =>
      cases polled
      exact calls.mono (by decide)
    | .ready (some seqNum) => exact calls.trans (pollAckedSent_calls polled)

theorem pollAckedOrCanceledSent_calls {poll} (polled : pollAckedOrCanceledSent s waker seqNum = .ok (poll, after, next)) :
    Calls SenderOp.Minor 1 s [] next := by
  obtain ⟨⟨ready, last⟩, first, polled⟩ := bind_ok.mp polled
  have calls := pollAck_calls first
  cases ready with
  | pending =>
    cases polled
    exact calls
  | ready =>
    obtain ⟨canceled, _, polled⟩ := bind_ok.mp polled
    cases canceled <;> cases polled <;> exact calls

theorem pollAckedOrCanceled_calls {poll} (polled : pollAckedOrCanceled s waker packetId = .ok (poll, after, next)) :
    Calls SenderOp.Minor 2 s [] next := by
  cases packetId with
  | acked | canceled =>
    cases polled
    exact .refl s
  | sent seqNum => exact (pollAckedOrCanceledSent_calls polled).mono (by decide)
  | queued id =>
    obtain ⟨⟨found, middle⟩, first, polled⟩ := bind_ok.mp polled
    have calls := pollSend_calls first
    match found with
    | .pending | .ready none =>
      cases polled
      exact calls.mono (by decide)
    | .ready (some seqNum) => exact calls.trans (pollAckedOrCanceledSent_calls polled)

namespace Handle

/-- A future that is given up after a cancellation was asked for forgets its packet. -/
def Forgets (handle : Handle) (op : HandleOp) (seqNum : SeqNum) : Prop :=
  handle.kind = .ackedOrCanceled ∧ handle.packetId = .sent seqNum ∧ (op = .drop ∨ op = .enqueue)

theorem keeps {handle : Handle} {op} (kept : op ≠ .drop ∧ op ≠ .enqueue) (seqNum : SeqNum) : ¬ handle.Forgets op seqNum := by
  intro forgets
  exact forgets.2.2.elim kept.1 kept.2

end Handle

section
variable {handles : List Handle} {index : Nat} {handle new : Handle}

section
variable (ordered : (handles.map Handle.serial).Pairwise (· < ·)) (found : handles[index]? = some handle) {other : Handle}
include ordered found

/-- Another future belongs to another packet. -/
theorem other_serial {place} (present : handles[place]? = some other) (different : place ≠ index) :
    other.serial ≠ handle.serial := by
  have sorted := pairwise_iff_getElem.mp ordered
  obtain ⟨inside, rfl⟩ := List.getElem?_eq_some_iff.mp found
  obtain ⟨inside', rfl⟩ := List.getElem?_eq_some_iff.mp present
  simp only [length_map, getElem_map] at sorted
  obtain less | more := Nat.lt_or_gt_of_ne different
  · exact Nat.ne_of_lt (sorted place index inside' inside less)
  · exact Nat.ne_of_gt (sorted index place inside inside' more)

theorem mem_set_handle (member : other ∈ handles.set index new) :
    other = new ∨ other ∈ handles ∧ other.serial ≠ handle.serial := by
  obtain ⟨place, present⟩ := mem_iff_getElem?.mp member
  by_cases here : place = index
  · subst here
    rw [getElem?_set_self (lt_length found)] at present
    exact .inl (Option.some.inj present).symm
  · rw [getElem?_set_ne (Ne.symm here)] at present
    exact .inr ⟨mem_of_getElem? present, other_serial ordered found present here⟩

theorem mem_erase_handle (member : other ∈ handles.eraseIdx index) : other ∈ handles ∧ other.serial ≠ handle.serial := by
  obtain ⟨place, different, present⟩ := mem_eraseIdx_iff_getElem?.mp member
  exact ⟨mem_of_getElem? present, other_serial ordered found present different⟩

end

end

namespace Driver
variable {d after : Driver Pkt} {index : Nat} {handle : Handle} {wire}

/-- Packets are counted, and what futures said stays on record. -/
structure Grows (d next : Driver Pkt) : Prop where
  sends : next.sends ≤ d.sends + 1
  resolved : d.resolved <+: next.resolved

theorem Grows.kept (d : Driver Pkt) (sender) (handles : List Handle) : Grows d { d with sender, handles } :=
  ⟨le_succ _, prefix_rfl⟩

theorem Grows.refl (d : Driver Pkt) : Grows d d := .kept d d.sender d.handles

theorem forget_cases {sender} (forgotten : d.forget handle = .ok sender) :
    (∃ seqNum, handle.kind = .ackedOrCanceled ∧ handle.packetId = .sent seqNum ∧
      d.sender.forgetCanceledPacket seqNum = .ok sender) ∨
    (∀ op seqNum, ¬ handle.Forgets op seqNum) ∧ sender = d.sender := by
  unfold forget at forgotten
  split at forgotten
  · rename_i waits
    cases named : handle.packetId with
    | sent seqNum =>
      rw [named] at forgotten
      exact .inl ⟨seqNum, waits, rfl, forgotten⟩
    | queued | acked | canceled =>
      rw [named] at forgotten
      cases forgotten
      refine .inr ⟨fun op seqNum forgets => ?_, rfl⟩
      cases named.symm.trans forgets.2.1
  · rename_i other
    cases forgotten
    exact .inr ⟨fun op seqNum forgets => other forgets.1, rfl⟩

theorem poll_calls {waker} (polled : d.poll index handle waker = .ok after) :
    Grows d after ∧ Calls SenderOp.Minor 2 d.sender [] after.sender := by
  unfold poll at polled
  split at polled
  · obtain ⟨⟨poll, sender⟩, first, polled⟩ := bind_ok.mp polled
    have calls := (pollSent_calls first).mono (by decide : 1 ≤ 2)
    cases poll <;> cases polled <;> exact ⟨.kept _ _ _, calls⟩
  · obtain ⟨⟨poll, packetId, sender⟩, first, polled⟩ := bind_ok.mp polled
    cases polled
    exact ⟨.kept _ _ _, pollAcked_calls first⟩
  obtain ⟨⟨poll, packetId, sender⟩, first, polled⟩ := bind_ok.mp polled
  cases polled
  refine ⟨⟨le_succ _, ?_⟩, pollAckedOrCanceled_calls first⟩
  cases poll with
  | pending => exact prefix_rfl
  | ready status => exact prefix_append _ _

theorem tryCancel_calls (tried : d.tryCancel index handle = .ok after) :
    Grows d after ∧ Calls SenderOp.Minor 2 d.sender [] after.sender := by
  obtain ⟨⟨given, packetId, sender⟩, first, tried⟩ := bind_ok.mp tried
  have calls := tryCancelInternal_calls first
  cases given with
  | some given =>
    obtain ⟨⟨again, last, dropped⟩, second, tried⟩ := bind_ok.mp tried
    cases tried
    exact ⟨.kept _ _ _, calls.trans (tryCancelInternal_calls second)⟩
  | none =>
    cases tried
    exact ⟨.kept _ _ _, calls.mono (by decide)⟩

/-- A future that is given up forgets its packet, and takes it back if it is still queued. -/
theorem drop_calls (dropped : d.drop index handle = .ok after) :
    Grows d after ∧ ((∃ seqNum, handle.Forgets .drop seqNum ∧ d.sender.forgetCanceledPacket seqNum = .ok after.sender) ∨
    (∀ seqNum, ¬ handle.Forgets .drop seqNum) ∧ Calls SenderOp.Minor 2 d.sender [] after.sender) := by
  obtain ⟨sender, forgotten, dropped⟩ := bind_ok.mp dropped
  obtain ⟨⟨given, packetId, last⟩, tried, dropped⟩ := bind_ok.mp dropped
  cases dropped
  obtain ⟨seqNum, waits, named, forgotten⟩ | ⟨other, rfl⟩ := forget_cases forgotten
  · rw [named] at tried
    cases tried
    exact ⟨.kept _ _ _, .inl ⟨seqNum, ⟨waits, named, .inl rfl⟩, forgotten⟩⟩
  · exact ⟨.kept _ _ _, .inr ⟨other .drop, (tryCancelInternal_calls tried).mono (by decide)⟩⟩

theorem enqueue_calls (enqueued : d.enqueue index handle = .ok after) :
    Grows d after ∧ ((∃ seqNum, handle.Forgets .enqueue seqNum ∧ d.sender.forgetCanceledPacket seqNum = .ok after.sender) ∨
    (∀ seqNum, ¬ handle.Forgets .enqueue seqNum) ∧ Calls SenderOp.Minor 2 d.sender [] after.sender) := by
  obtain ⟨sender, forgotten, enqueued⟩ := bind_ok.mp enqueued
  cases enqueued
  obtain ⟨seqNum, waits, named, forgotten⟩ | ⟨other, rfl⟩ := forget_cases forgotten
  · exact ⟨.kept _ _ _, .inl ⟨seqNum, ⟨waits, named, .inr rfl⟩, forgotten⟩⟩
  · exact ⟨.kept _ _ _, .inr ⟨other .enqueue, .refl _⟩⟩

theorem silent_ok {result} (stepped : silent result = .ok (wire, after)) : wire = [] ∧ result = .ok after := by
  obtain ⟨last, done, stepped⟩ := bind_ok.mp stepped
  cases stepped
  exact ⟨rfl, done⟩

/-- What is done with a future is one forgetting, or a few calls that forget nothing. -/
theorem handleStep_calls {op} (stepped : d.handleStep index handle op = .ok (wire, after)) :
    Grows d after ∧
    ((∃ seqNum, handle.Forgets op seqNum ∧ d.sender.forgetCanceledPacket seqNum = .ok after.sender ∧ wire = []) ∨
      (∀ seqNum, ¬ handle.Forgets op seqNum) ∧ Calls SenderOp.Minor 2 d.sender wire after.sender) := by
  cases op with
  | poll waker =>
    obtain ⟨rfl, polled⟩ := silent_ok stepped
    exact (poll_calls polled).imp_right fun calls => .inr ⟨Handle.keeps ⟨nofun, nofun⟩, calls⟩
  | requestCancel =>
    obtain ⟨⟨messages, packetId, sender⟩, requested, stepped⟩ := bind_ok.mp stepped
    cases stepped
    exact ⟨.kept _ _ _, .inr ⟨Handle.keeps ⟨nofun, nofun⟩, requestCancelInternal_calls requested⟩⟩
  | limitRetries retryLimit =>
    obtain ⟨rfl, changed⟩ := silent_ok stepped
    obtain ⟨sender, limited, done⟩ := bind_ok.mp changed
    cases done
    exact ⟨.kept _ _ _, .inr ⟨Handle.keeps ⟨nofun, nofun⟩, (limitRetriesInternal_calls limited).mono (by decide)⟩⟩
  | tryCancel =>
    simp only [handleStep] at stepped
    split at stepped
    · obtain ⟨rfl, tried⟩ := silent_ok stepped
      exact (tryCancel_calls tried).imp_right fun calls => .inr ⟨Handle.keeps ⟨nofun, nofun⟩, calls⟩
    · cases stepped
      exact ⟨.refl d, .inr ⟨Handle.keeps ⟨nofun, nofun⟩, .refl _⟩⟩
  | acked | ackedOrCanceled =>
    simp only [handleStep] at stepped
    split at stepped <;> cases stepped <;> exact ⟨.kept _ _ _, .inr ⟨Handle.keeps ⟨nofun, nofun⟩, .refl _⟩⟩
  | drop =>
    obtain ⟨rfl, dropped⟩ := silent_ok stepped
    exact (drop_calls dropped).imp_right (.imp_left fun ⟨seqNum, forgets, forgotten⟩ => ⟨seqNum, forgets, forgotten, rfl⟩)
  | enqueue =>
    obtain ⟨rfl, enqueued⟩ := silent_ok stepped
    exact (enqueue_calls enqueued).imp_right (.imp_left fun ⟨seqNum, forgets, forgotten⟩ => ⟨seqNum, forgets, forgotten, rfl⟩)

theorem sendMgmtHelper_performs {packet} (sent : d.sendMgmtHelper packet = (wire, after)) :
    d.sender.perform (.enqueuePacket ⟨d.sends, packet⟩) = .ok (wire, after.sender) := by
  rw [sendMgmtHelper] at sent
  rw [perform]
  cases enqueued : d.sender.enqueuePacket ⟨d.sends, packet⟩ with
  | mk result sender =>
    rw [enqueued] at sent
    cases result <;> cases sent <;> rfl

theorem sendMgmtHelper_sender (d : Driver Pkt) (packet : Pkt) :
    (d.sendMgmtHelper packet).2.sender = (d.sender.enqueuePacket ⟨d.sends, packet⟩).2 := by
  rw [sendMgmtHelper]
  cases d.sender.enqueuePacket ⟨d.sends, packet⟩ with
  | mk result sender => cases result <;> rfl

/-- A window size of zero is ignored. -/
theorem processWindowSizeTlv_cases {windowSize} (processed : d.processWindowSizeTlv windowSize = .ok after) :
    (windowSize.toNat = 0 ∧ after = d) ∨
      (0 < windowSize.toNat ∧ after = { d with sender := { d.sender with windowSize := windowSize.toNat } }) := by
  have bound := windowSize.toNat_lt
  unfold processWindowSizeTlv at processed
  split at processed
  · rename_i small
    cases processed
    have least : windowSize.toNat < 1 := UInt16.lt_iff_toNat_lt.mp small
    exact .inl ⟨by omega, rfl⟩
  · rename_i large
    obtain ⟨sender, adjusted, processed⟩ := bind_ok.mp processed
    cases processed
    obtain ⟨_, _, adjusted⟩ := bind_ok.mp adjusted
    cases adjusted
    have least : ¬ windowSize.toNat < 1 := fun small => large (UInt16.lt_iff_toNat_lt.mpr small)
    refine .inr ⟨by omega, ?_⟩
    rw [min_eq_right (by omega)]

theorem step_grows {step} (stepped : d.step step = .ok (wire, after)) : Grows d after := by
  cases step with
  | sendMgmt packet =>
    have sent := Except.ok.inj stepped
    rw [sendMgmtHelper] at sent
    split at sent <;> cases sent <;> exact ⟨le_refl _, prefix_rfl⟩
  | acknowledgement seqNum isCanceled =>
    obtain ⟨⟨unblocked, sender⟩, _, stepped⟩ := bind_ok.mp stepped
    cases stepped
    exact ⟨le_succ _, prefix_rfl⟩
  | windowSizeTlv windowSize =>
    obtain ⟨rfl, processed⟩ := silent_ok stepped
    obtain ⟨_, rfl⟩ | ⟨_, rfl⟩ := processWindowSizeTlv_cases processed <;> exact ⟨le_succ _, prefix_rfl⟩
  | retry =>
    cases stepped
    exact ⟨le_succ _, prefix_rfl⟩
  | handle index op =>
    rw [step] at stepped
    split at stepped
    · cases stepped
      exact .refl d
    rename_i handle _
    exact (handleStep_calls stepped).1

end Driver
end ZprCore.Mgmt
