import ZprCore.Proofs.SenderTotal

/-! The queue of blocked packets. Canceled packets never stand at its head, so whenever the
window has room the next packet can be sent, and the loop that does so returns. -/

namespace ZprCore.Zdpr
open Panic Option Sender
variable {Pkt : Type} {sn : SeqNum}

namespace BlockedState

theorem limitRetries_canceled {limit} {entry : BlockedState Pkt} (canceled : entry.limitRetries limit = .canceled) :
    entry = .canceled := by
  cases entry with
  | blocked => cases canceled
  | canceled => rfl

end BlockedState

namespace Sender
variable {s next : Sender Pkt}
variable {id : QueuedPacketId} {woken : List Waker}

/-- The oldest blocked packet is not a canceled one. -/
def Headed (s : Sender Pkt) : Prop := s.blocked.head? ≠ some .canceled

theorem Headed.new : (new : Sender Pkt).Headed := by
  intro impossible
  cases impossible

theorem Headed.of_blocked (headed : s.Headed) (same : next.blocked = s.blocked) : next.Headed := by
  rw [Headed, same]
  exact headed

theorem cleanBlocked_headed (blocked : List (BlockedState Pkt)) (sent : List (Option SeqNum)) :
    (cleanBlocked blocked sent).1.head? ≠ some .canceled := by
  fun_induction cleanBlocked blocked sent with
  | case1 rest sent ih => exact ih
  | case2 blocked sent other =>
    cases blocked with
    | nil => simp
    | cons entry rest =>
      intro canceled
      exact other rest (by rw [some.inj canceled])

section
variable {α : Type} {items : List α} {bad : α}

/-- Replacing an item keeps the head unless it is the head itself. -/
theorem head_set (head : items.head? ≠ some bad) {index old new} (found : items[index]? = some old)
    (kept : index = 0 → new = bad → old = bad) : (items.set index new).head? ≠ some bad := by
  rw [List.head?_eq_getElem?] at head ⊢
  by_cases first : index = 0
  · subst first
    rw [List.getElem?_set_self (lt_length found)]
    intro same
    exact head (found.trans (congrArg some (kept rfl (some.inj same))))
  · rwa [List.getElem?_set_ne first]

theorem head_append (head : items.head? ≠ some bad) {new} (good : new ≠ bad) : (items ++ [new]).head? ≠ some bad := by
  cases items with
  | nil => exact fun same => good (some.inj same)
  | cons => exact head

end

/-- No call leaves a canceled packet at the head. -/
theorem Turns.headed {call} {answer} (turns : Turns s call answer next) (headed : s.Headed) : next.Headed := by
  cases turns with
  | same | count | adjust | push | cancelSent | limitSent | pollSent | age => exact headed
  | queue => exact head_append headed nofun
  | next => exact cleanBlocked_headed _ _
  | cancelQueued _ found =>
    split
    · exact cleanBlocked_headed _ _
    · next other => exact head_set headed found fun first => absurd first other
  | limitQueued _ found => exact head_set headed found fun _ => BlockedState.limitRetries_canceled
  | pollQueued _ _ found => exact head_set headed found fun _ => nofun
  | forget replaces | acked replaces | canceled replaces => exact headed.of_blocked replaces.blocked

theorem perform_headed (headed : s.Headed) {op messages} (performed : s.perform op = .ok (messages, next)) : next.Headed := by
  obtain ⟨_, _, turns⟩ := perform_turns performed
  exact turns.headed headed

theorem processAck_blocked {packet} (acked : s.processAck sn = .ok (packet, woken, next)) : next.blocked = s.blocked := by
  obtain ⟨_, _, stats, rfl⟩ | ⟨_, _, replaces⟩ := processAck_cases acked
  · rfl
  · exact replaces.blocked

theorem processCanceled_blocked (canceled : s.processCanceled sn = .ok (woken, next)) : next.blocked = s.blocked := by
  obtain ⟨_, stats, rfl⟩ | ⟨_, _, replaces⟩ := processCanceled_cases canceled
  · rfl
  · exact replaces.blocked

theorem enqueueNextBlockedPacket_returns (headed : s.Headed) (needed : s.unblockNeeded = true) :
    ∃ sent woken next, s.enqueueNextBlockedPacket = .ok (sent, woken, next) ∧ next.Headed := by
  rw [unblockNeeded, Bool.and_eq_true] at needed
  unfold enqueueNextBlockedPacket
  rw [show Panic.check (!s.isBlocked) "sender is blocked" = .ok () from check_ok.mpr needed.1, ok_bind]
  unfold Headed at headed
  cases found : s.blocked with
  | nil =>
    rw [hasBlockedPackets, found] at needed
    cases needed.2
  | cons entry rest =>
    rw [found] at headed
    cases entry with
    | canceled => exact absurd rfl headed
    | blocked packet waker limit => exact ⟨_, _, _, rfl, cleanBlocked_headed _ _⟩

end Sender

namespace Traffic
variable {s next : Sender Pkt}

theorem sendUnblocked_returns (rounds : Nat) (headed : s.Headed) :
    ∃ sent next, Mgmt.sendUnblocked rounds s = .ok (sent, next) ∧ next.Headed := by
  induction rounds generalizing s with
  | zero => exact ⟨[], s, rfl, headed⟩
  | succ rounds ih =>
    unfold Mgmt.sendUnblocked
    split
    · rename_i needed
      obtain ⟨first, woken, middle, enqueued, kept⟩ := enqueueNextBlockedPacket_returns headed needed
      obtain ⟨rest, last, unblocked, final⟩ := ih kept
      rw [enqueued, ok_bind]
      dsimp only
      rw [unblocked, ok_bind]
      exact ⟨first :: rest, last, rfl, final⟩
    · exact ⟨[], s, rfl, headed⟩

theorem processAcknowledgement_blocked {isCanceled} (processed : Mgmt.processAcknowledgement s sn isCanceled = .ok next) :
    next.blocked = s.blocked := by
  cases isCanceled with
  | true =>
    obtain ⟨⟨woken, last⟩, canceled, processed⟩ := bind_ok.mp processed
    cases processed
    exact processCanceled_blocked canceled
  | false =>
    obtain ⟨⟨packet, woken, last⟩, acked, processed⟩ := bind_ok.mp processed
    cases processed
    exact processAck_blocked acked

/-- The whole handling of an acknowledgement returns, for every number but the opposite one. -/
theorem acknowledge_exactly (settled : Settled s) (headed : s.Headed) (sn : SeqNum) (isCanceled : Bool) :
    Panic.Exactly (¬ s.Antipode sn) (fun done => Settled done.2 ∧ done.2.Headed) (Mgmt.acknowledge s sn isCanceled) := by
  unfold Mgmt.acknowledge
  have processed := processAcknowledgement_exactly settled sn isCanceled
  cases reached : Mgmt.processAcknowledgement s sn isCanceled with
  | error problem =>
    rw [reached] at processed
    exact processed
  | ok middle =>
    rw [reached] at processed
    have same := processAcknowledgement_blocked reached
    have kept : (Mgmt.countZdprSenderStats middle).Headed := by
      rw [Mgmt.countZdprSenderStats_eq]
      exact headed.of_blocked same
    obtain ⟨sent, next, unblocked, final⟩ :=
      sendUnblocked_returns (Mgmt.countZdprSenderStats middle).blocked.length kept
    have whole : Mgmt.acknowledge s sn isCanceled = .ok (sent, next) := by
      rw [Mgmt.acknowledge, reached, ok_bind]
      exact unblocked
    rw [ok_bind]
    dsimp only
    rw [unblocked]
    exact ⟨processed.1, acknowledge_settled settled whole, final⟩

end Traffic
end ZprCore.Zdpr
