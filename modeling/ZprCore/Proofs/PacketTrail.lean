import ZprCore.Proofs.ZdprItems

/-! The way of a queued packet through its sender. It waits in the queue of blocked packets
first and is in the queue of sent packets then. Its id finds it in both. -/

namespace ZprCore.Zdpr
open Panic List Recent
variable {Pkt : Type}

/-- What became of a queued packet. -/
inductive Note (Pkt : Type) where
  | canceled
  | sent (seqNum : SeqNum)
  | waiting (packet : Pkt)

namespace Note

def ofSent : Option SeqNum → Note Pkt
  | none => .canceled
  | some sn => .sent sn

def ofQueue : Option Pkt → Note Pkt
  | none => .canceled
  | some packet => .waiting packet

/-- The number of a packet that was sent. -/
def seqNum? : Note Pkt → Option SeqNum
  | .sent sn => some sn
  | .canceled | .waiting _ => none

theorem seqNum?_ofSent (found : Option SeqNum) : (ofSent found : Note Pkt).seqNum? = found := by
  cases found <;> rfl

end Note

namespace Sender
variable {s next : Sender Pkt} {n k index : Nat} {change} {packet : Pkt}

/-- Both queues, the one of sent packets first. -/
def trail (s : Sender Pkt) : List (Note Pkt) := s.sent.map .ofSent ++ s.queue.map .ofQueue

/-- What the queues say of a packet, by the number of its id among the `n` that were given out. -/
def noteAt (s : Sender Pkt) (n k : Nat) : Option (Note Pkt) := Recent.get s.trail n k

theorem trail_length (s : Sender Pkt) : s.trail.length = s.sent.length + s.blocked.length := by
  rw [trail, length_append, length_map, length_map, queue_length]

theorem trail_sent (inside : index < s.sent.length) : s.trail[index]? = s.sent[index]?.map .ofSent := by
  rw [trail, getElem?_append_left (by rwa [length_map]), getElem?_map]

theorem trail_queue (s : Sender Pkt) (index : Nat) : s.trail[s.sent.length + index]? = s.queue[index]?.map .ofQueue := by
  rw [trail, getElem?_append_right (by rw [length_map]; exact Nat.le_add_right _ _), length_map,
    Nat.add_sub_cancel_left, getElem?_map]

theorem Cleans.trail (cleans : Cleans change s next) : ∃ front, s.trail = front ++ next.trail := by
  obtain ⟨front, split, _⟩ := cleans.sent
  refine ⟨front.map .ofSent, ?_⟩
  rw [Sender.trail, split, map_append, append_assoc, ← cleans.queue, Sender.trail]

theorem enqueuePacket_trail {id} (enqueued : s.enqueuePacket packet = (.queued id, next)) :
    next.trail = s.trail ++ [.waiting packet] := by
  obtain ⟨_, queue, sent, _⟩ := enqueuePacket_queued enqueued
  rw [trail, queue, sent, map_append, ← append_assoc, trail]
  rfl

theorem Cleans.dropped (cleans : Cleans change s next) (below : k < n) (gone : next.noteAt n k = none) :
    s.noteAt n k = none ∨ s.noteAt n k = some .canceled ∨
      ∃ sn, s.noteAt n k = some (.sent sn) ∧ next.isAcked sn = .ok true := by
  obtain ⟨front, split, acked⟩ := cleans.sent
  have trail : s.trail = front.map .ofSent ++ next.trail := by
    rw [Sender.trail, split, map_append, append_assoc, ← cleans.queue, Sender.trail]
  obtain before | ⟨note, member, noted⟩ := get_dropped trail below gone
  · exact .inl before
  obtain ⟨found, present, rfl⟩ := mem_map.mp member
  cases found with
  | none => exact .inr (.inl noted)
  | some sn => exact .inr (.inr ⟨sn, noted, acked sn present⟩)

theorem cleanBlockedQueue_trail (s : Sender Pkt) : s.cleanBlockedQueue.trail = s.trail := by
  obtain ⟨_, _, count, queue, sent⟩ := cleanBlockedQueue_requeues s
  rw [trail, trail, sent, queue, map_append, map_append, map_replicate, map_replicate,
    append_assoc]
  rfl

theorem cleanBlockedQueue_shorter (head : s.blocked[0]? = some .canceled) :
    s.cleanBlockedQueue.blocked.length < s.blocked.length := by
  obtain ⟨windowSize, lastSent, unacked, lastEnqueued, blocked, sent, stats⟩ := s
  cases blocked with
  | nil => cases head
  | cons first rest =>
    cases head
    obtain ⟨_, _, count, queue, _⟩ :=
      cleanBlockedQueue_requeues (⟨windowSize, lastSent, unacked, lastEnqueued, rest, sent ++ [none], stats⟩ : Sender Pkt)
    have split := congrArg length queue
    rw [length_append, queue_length, queue_length] at split
    exact Nat.lt_succ_of_le (Nat.le.intro ((Nat.add_comm _ _).trans split.symm))

theorem enqueueNextBlockedPacket_trail {sn woken} (enqueued : s.enqueueNextBlockedPacket = .ok ((sn, packet), woken, next)) :
    s.trail[s.sent.length]? = some (.waiting packet) ∧ next.trail = s.trail.set s.sent.length (.sent sn) := by
  obtain ⟨middle, rfl, _, rfl, queue, sent, _⟩ := enqueueNextBlockedPacket_head enqueued
  have length : s.sent.length = (s.sent.map (Note.ofSent : Option SeqNum → Note Pkt)).length := length_map _ |>.symm
  constructor
  · have head := s.trail_queue 0
    rw [queue] at head
    exact head
  rw [cleanBlockedQueue_trail, trail, trail, sent, queue, map_append, map_cons, length,
    set_append_right _ _ (Nat.le_refl _), Nat.sub_self, append_assoc]
  rfl

theorem cancel_trail (s : Sender Pkt) (index : Nat) :
    (s.cancelAt index).trail = s.trail.set (s.sent.length + index) .canceled := by
  rw [trail, trail, queue, queue, map_set, map_set, set_append_right _ _ (by
    rw [length_map]
    exact Nat.le_add_right _ _), length_map, Nat.add_sub_cancel_left]
  rfl

theorem noteAt_left (below : k < n) (left : k + s.blocked.length < n) :
    (k + s.trail.length < n ∧ s.noteAt n k = none) ∨ ∃ index found, k + s.trail.length = n + index ∧
      s.sent[index]? = some found ∧ s.noteAt n k = some (.ofSent found) := by
  have length := s.trail_length
  obtain gone | ⟨index, note, place, present, same⟩ := get_cases s.trail below
  · exact .inl gone
  have inside : index < s.sent.length := by omega
  rw [trail_sent inside, getElem?_eq_getElem inside] at present
  cases present
  exact .inr ⟨index, _, place, getElem?_eq_getElem inside, same⟩

section
variable (last : s.lastEnqueued = BitVec.ofInt 64 (n - 1)) (small : n ≤ 2 ^ 63) (below : k < n)
include last small below

theorem id_distance : Serial.distance (BitVec.ofInt 64 k) s.lastEnqueued = k - (n - 1) := by
  rw [last, Serial.distance_ofInt (by decide) (by omega) (by omega)]

theorem queues_iff : s.Queues (BitVec.ofInt 64 k) index ↔ index < s.blocked.length ∧ k + s.blocked.length = n + index := by
  rw [Queues, id_distance last small below]
  omega

theorem isSent_number : s.isSent (BitVec.ofInt 64 k) = .ok (decide (k + s.blocked.length < n)) := by
  unfold isSent
  rw [id_distance last small below, neg64_returns (by omega), ok_bind]
  congr 2
  rw [ge_iff_le, eq_iff_iff]
  omega

theorem cancelQueuedPacket_left (left : k + s.blocked.length < n) :
    s.cancelQueuedPacket (BitVec.ofInt 64 k) = .ok (none, [], s) := by
  unfold cancelQueuedPacket
  dsimp only
  rw [id_distance last small below, check_bind (by omega), neg64_returns (by omega), ok_bind, if_pos (by omega)]
  rfl

theorem cancelQueuedPacket_entry (place : k + s.blocked.length = n + index) {entry} (found : s.blocked[index]? = some entry) :
    s.cancelQueuedPacket (BitVec.ofInt 64 k) = .ok (match entry with
      | .canceled => (none, [], s)
      | .blocked packet waker _ => (some packet, [waker],
          if index = 0 then (s.cancelAt index).cleanBlockedQueue
          else s.cancelAt index)) := by
  unfold cancelQueuedPacket
  dsimp only
  rw [id_distance last small below, check_bind (by omega), neg64_returns (by omega), ok_bind, if_neg (by omega),
    show ((s.blocked.length : Int) + (k - (n - 1)) - 1).toNat = index by omega, get_ok.mpr found, ok_bind]
  cases entry with
  | blocked packet waker limit => rfl
  | canceled =>
    obtain ⟨_, same⟩ := List.getElem?_eq_some_iff.mp found
    simp only [BlockedState.cancel, ← same, set_getElem_self]
    rfl

/-- A packet that was taken back is not found again. Its entry stays unless it is at the head. -/
theorem cancelQueuedPacket_again (place : k + s.blocked.length = n + index) {waker limit}
    (found : s.blocked[index]? = some (.blocked packet waker limit)) {given woken}
    (canceled : s.cancelQueuedPacket (BitVec.ofInt 64 k) = .ok (given, woken, next)) :
    next.lastEnqueued = s.lastEnqueued ∧ next.cancelQueuedPacket (BitVec.ofInt 64 k) = .ok (none, [], next) ∧
      (k + next.blocked.length < n ↔ index = 0) := by
  have inside := lt_length found
  have gone : (s.blocked.set index .canceled)[index]? = some .canceled := getElem?_set_self inside
  rw [cancelQueuedPacket_entry last small below place found] at canceled
  cases canceled
  split
  · next head =>
    subst head
    have shorter := cleanBlockedQueue_shorter (s := { s with blocked := s.blocked.set 0 .canceled }) gone
    have same := (cleanBlockedQueue_requeues { s with blocked := s.blocked.set 0 .canceled }).2.1
    dsimp only at shorter same
    rw [length_set] at shorter
    have left : k + (cleanBlockedQueue { s with blocked := s.blocked.set 0 .canceled }).blocked.length < n := by omega
    exact ⟨same, cancelQueuedPacket_left (same.trans last) small below left, iff_of_true left rfl⟩
  · next later =>
    have place' : k + (s.blocked.set index .canceled).length = n + index := by rwa [length_set]
    refine ⟨rfl, cancelQueuedPacket_entry (s := s.cancelAt index) last small below place' gone, ?_⟩
    exact iff_of_false (by dsimp only; omega) later

theorem lookupSeqNum_left (left : k + s.blocked.length < n) :
    s.lookupSeqNum (BitVec.ofInt 64 k) = .ok ((s.noteAt n k).bind Note.seqNum?) := by
  have length := s.trail_length
  unfold lookupSeqNum
  dsimp only
  rw [id_distance last small below, check_bind (by omega), neg64_returns (by omega), ok_bind]
  obtain ⟨old, gone⟩ | ⟨index, found, place, present, same⟩ := noteAt_left below left
  · rw [if_pos (by omega), gone]
    rfl
  · rw [if_neg (by omega), show ((s.sent.length : Int) + (k - (n - 1) + s.blocked.length) - 1).toNat = index by omega,
      get_ok.mpr present, same, Option.bind_some, Note.seqNum?_ofSent]

theorem lookupSeqNum_waiting (waits : n ≤ k + s.blocked.length) :
    s.lookupSeqNum (BitVec.ofInt 64 k) = .error (.assertion "lookup of packet which has not yet been sent") := by
  unfold lookupSeqNum
  dsimp only
  rw [id_distance last small below, Panic.check, decide_eq_false (by omega)]
  rfl

end

theorem noteAt_queue (place : k + s.blocked.length = n + index) {found} (present : s.queue[index]? = some found) :
    s.noteAt n k = some (.ofQueue found) := by
  have length := s.trail_length
  rw [noteAt, get_of_index (s.sent.length + index) (by omega), trail_queue, present]
  rfl

theorem noteAt_waiting (below : k < n) (waits : n ≤ k + s.blocked.length) :
    ∃ index, k + s.blocked.length = n + index ∧ ∃ found, s.queue[index]? = some found ∧
      s.noteAt n k = some (.ofQueue found) := by
  have inside : k + s.blocked.length - n < s.queue.length := by
    rw [queue_length]
    omega
  have place : k + s.blocked.length = n + (k + s.blocked.length - n) := by omega
  exact ⟨_, place, _, getElem?_eq_getElem inside, noteAt_queue place (getElem?_eq_getElem inside)⟩

end Sender
end ZprCore.Zdpr
