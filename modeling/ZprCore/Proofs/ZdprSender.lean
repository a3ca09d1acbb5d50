import ZprCore.Zdpr.Session

/-! What each sender operation can do to the window. Either one new entry is
appended under the next sequence number, or entries change in place and a prefix
of acknowledged entries is dropped. -/

namespace ZprCore.Zdpr
open Panic Serial List Option UnackedState
variable {Pkt : Type} {change : Nat → UnackedState Pkt → UnackedState Pkt → Prop} {new old : UnackedState Pkt}

/-- How a caller's operation may change an entry: cancellation of an outstanding
packet, and forgetting of an acknowledged cancellation. -/
inductive Evolves : UnackedState Pkt → UnackedState Pkt → Prop where
  | same (entry) : Evolves entry entry
  | outstanding {packet waker retryLimit retryCount forgotten packet' waker' retryLimit' retryCount' forgotten'} :
      Evolves (.unacked packet waker retryLimit retryCount forgotten)
        (.unacked packet' waker' retryLimit' retryCount' forgotten')
  | cancel {packet waker retryLimit retryCount forgotten waker' forgotten'} :
      Evolves (.unacked packet waker retryLimit retryCount forgotten) (.cancelRequested waker' forgotten')
  | canceling {waker forgotten waker' forgotten'} :
      Evolves (.cancelRequested waker forgotten) (.cancelRequested waker' forgotten')
  | forget : Evolves .cancelAcked .acked

/-- How a call changes an entry if it forgets nothing. -/
inductive Proceeds : UnackedState Pkt → UnackedState Pkt → Prop where
  | same (entry) : Proceeds entry entry
  | outstanding {packet waker retryLimit retryCount waker' retryLimit' retryCount' forgotten} :
      Proceeds (.unacked packet waker retryLimit retryCount forgotten)
        (.unacked packet waker' retryLimit' retryCount' forgotten)
  | cancel {packet waker retryLimit retryCount waker' forgotten} :
      Proceeds (.unacked packet waker retryLimit retryCount forgotten) (.cancelRequested waker' forgotten)
  | canceling {waker waker' forgotten} : Proceeds (.cancelRequested waker forgotten) (.cancelRequested waker' forgotten)

theorem Proceeds.evolves (proceeds : Proceeds old new) : Evolves old new := by
  cases proceeds <;> constructor

theorem Evolves.isAcked (evolves : Evolves old new) : new.isAcked = old.isAcked := by
  cases evolves <;> rfl

/-- Entries change in place, then a prefix of acknowledged entries is dropped. -/
def Moves (change : Nat → UnackedState Pkt → UnackedState Pkt → Prop)
    (before after : List (UnackedState Pkt)) : Prop :=
  ∃ middle front, middle = front ++ after ∧ (∀ entry ∈ front, entry = .acked) ∧
    middle.length = before.length ∧
    ∀ index old new, before[index]? = some old → middle[index]? = some new → change index old new

theorem set_each {before : List (UnackedState Pkt)} (reflexive : ∀ index entry, change index entry entry) {index : Nat}
    (found : before[index]? = some old) (changed : change index old new) :
    ∀ (other : Nat) one two, before[other]? = some one → (before.set index new)[other]? = some two → change other one two := by
  intro other one two found' same
  rw [getElem?_set] at same
  by_cases here : index = other
  · subst here
    rw [found] at found'
    obtain ⟨inside, _⟩ := List.getElem?_eq_some_iff.mp found
    simp only [if_true, inside, some.injEq] at same
    cases same
    cases found'
    exact changed
  · rw [if_neg here, found'] at same
    cases same
    exact reflexive other one

namespace UnackedState

/-- Sent, and not canceled or acknowledged since. -/
def isOutstanding : UnackedState Pkt → Bool
  | .unacked .. => true
  | .cancelRequested .. | .acked | .cancelAcked => false

section
variable (entry : UnackedState Pkt)

theorem cancel_outstanding : entry.cancel.2.isOutstanding = false := by
  cases entry <;> rfl

theorem cancel_proceeds : Proceeds entry entry.cancel.2 := by
  cases entry <;> constructor

theorem limitRetries_proceeds (limit : UInt8) : Proceeds entry (entry.limitRetries limit) := by
  cases entry <;> constructor

theorem ageRetries_proceeds : Proceeds entry entry.ageRetries.2 := by
  cases entry with
  | unacked packet waker retryLimit retryCount forgotten =>
    cases retryLimit with
    | none => exact .outstanding
    | some limit =>
      simp only [ageRetries]
      split <;> constructor
  | cancelRequested | acked | cancelAcked => exact .same _

theorem setWaker_proceeds (waker : Waker) : Proceeds entry (entry.setWaker waker) := by
  cases entry <;> constructor

theorem forget_evolves : Evolves entry entry.forget := by
  cases entry with
  | unacked packet waker retryLimit retryCount forgotten => cases retryLimit <;> constructor
  | cancelRequested waker forgotten => exact .canceling
  | acked => exact .same _
  | cancelAcked => exact .forget

end

end UnackedState

namespace Sender

theorem cleanUnacked_drops (entries : List (UnackedState Pkt)) :
    ∃ front, entries = front ++ cleanUnacked entries ∧ ∀ entry ∈ front, entry = .acked := by
  fun_induction cleanUnacked entries with
  | case1 rest ih =>
    obtain ⟨front, same, acked⟩ := ih
    exact ⟨.acked :: front, by simpa using same, by simpa using acked⟩
  | case2 entries other => exact ⟨[], rfl, by simp⟩

end Sender

namespace Moves
variable {change : Nat → UnackedState Pkt → UnackedState Pkt → Prop} {before after : List (UnackedState Pkt)}
variable {index : Nat} {old new : UnackedState Pkt}

section
variable (reflexive : ∀ index entry, change index entry entry) (found : before[index]? = some old)
  (changed : change index old new)
include reflexive found changed

omit found changed in
theorem refl : Moves change before before := by
  refine ⟨before, [], rfl, by simp, rfl, ?_⟩
  intro index old new found same
  rw [found] at same
  cases same
  exact reflexive index old

private theorem of_set (drops : ∃ front, before.set index new = front ++ after ∧ ∀ entry ∈ front, entry = .acked) :
    Moves change before after := by
  obtain ⟨front, split, acked⟩ := drops
  exact ⟨before.set index new, front, split, acked, by simp, set_each reflexive found changed⟩

theorem set : Moves change before (before.set index new) :=
  of_set reflexive found changed ⟨[], rfl, by simp⟩

theorem set_clean : Moves change before (Sender.cleanUnacked (before.set index new)) :=
  of_set reflexive found changed (Sender.cleanUnacked_drops _)

end

end Moves

namespace Sender
variable {s next : Sender Pkt}
variable {sn : SeqNum} {index : Nat} {packet : Option Pkt} {limit : UInt8} {waker : Waker} {id : QueuedPacketId}
  {woken : List Waker} {outcome}

/-- An operation that assigns no sequence number. -/
structure Settles (change : Nat → UnackedState Pkt → UnackedState Pkt → Prop) (s next : Sender Pkt) : Prop where
  lastSent : next.lastSent = s.lastSent
  windowSize : next.windowSize = s.windowSize
  moves : Moves change s.unacked next.unacked

theorem Settles.shorter (settles : Settles change s next) : next.unacked.length ≤ s.unacked.length := by
  obtain ⟨middle, front, split, _, size, _⟩ := settles.moves
  rw [← size, split, length_append]
  exact Nat.le_add_left _ _

abbrev Idle (s next : Sender Pkt) : Prop := Settles (fun _ => Evolves) s next

theorem Idle.unchanged (lastSent : next.lastSent = s.lastSent) (windowSize : next.windowSize = s.windowSize)
    (unacked : next.unacked = s.unacked) : Idle s next :=
  ⟨lastSent, windowSize, unacked ▸ Moves.refl (fun _ => .same)⟩

theorem Idle.refl (s : Sender Pkt) : Idle s s := .unchanged rfl rfl rfl

/-- Aging reaches the entries visited, and no other ones. -/
theorem age_each (s : Sender Pkt) (visited : Nat) :
    (s.ageRetries visited).2.unacked.length = s.unacked.length ∧
      ∀ (index : Nat) old new, s.unacked[index]? = some old → (s.ageRetries visited).2.unacked[index]? = some new →
        new = if index < visited then old.ageRetries.2 else old := by
  constructor
  · simp only [ageRetries, length_append, length_map, length_take, length_drop]
    omega
  intro index old new found same
  have size : index < s.unacked.length := lt_length found
  simp only [ageRetries] at same
  split
  · rename_i young
    rw [getElem?_append_left (by simp; omega)] at same
    simp only [getElem?_map, getElem?_take, young, if_true, found, map_some, some.injEq] at same
    exact same.symm
  · rw [getElem?_append_right (by simp; omega), getElem?_drop] at same
    have place : visited + (index - (map (fun entry => entry.ageRetries.2) (s.unacked.take visited)).length) =
        index := by
      simp only [length_map, length_take]
      omega
    rw [place, found] at same
    exact (some.inj same).symm

/-- Nothing was sent or acknowledged and nothing left the window. Canceled blocked packets
may have reached the sent queue. -/
structure Retains (s next : Sender Pkt) : Prop where
  windowSize : next.windowSize = s.windowSize
  lastSent : next.lastSent = s.lastSent
  length : next.unacked.length = s.unacked.length
  evolves : ∀ (index : Nat) old new, s.unacked[index]? = some old → next.unacked[index]? = some new → Evolves old new
  sent : ∃ count, next.sent = s.sent ++ List.replicate count none
  stats : ∀ stat, next.stats stat ≤ s.stats stat

namespace Retains

theorem idle (retains : Retains s next) : Idle s next :=
  ⟨retains.lastSent, retains.windowSize, next.unacked, [], rfl, by simp, retains.length, retains.evolves⟩

theorem unchanged (windowSize : next.windowSize = s.windowSize) (lastSent : next.lastSent = s.lastSent)
    (unacked : next.unacked = s.unacked) (sent : ∃ count, next.sent = s.sent ++ replicate count none)
    (stats : ∀ stat, next.stats stat ≤ s.stats stat) : Retains s next := by
  refine ⟨windowSize, lastSent, by rw [unacked], ?_, sent, stats⟩
  intro index old new found same
  rw [unacked, found] at same
  cases same
  exact .same old

theorem set {index : Nat} (found : s.unacked[index]? = some old) (changed : Evolves old new) :
    Retains s { s with unacked := s.unacked.set index new } := by
  refine ⟨rfl, rfl, length_set, ?_, ⟨0, by simp⟩, fun _ => Nat.le_refl _⟩
  exact set_each (fun _ => .same) found changed

variable (s)

theorem blocked (lastEnqueued : QueuedPacketId) (blocked) :
    Retains s { s with lastEnqueued, blocked } :=
  .unchanged rfl rfl rfl ⟨0, by simp⟩ fun _ => Nat.le_refl _

theorem refl : Retains s s := .blocked s s.lastEnqueued s.blocked

theorem age (visited : Nat) : Retains s (s.ageRetries visited).2 := by
  refine ⟨rfl, rfl, (age_each s visited).1, ?_, ⟨0, by simp [ageRetries]⟩, fun _ => Nat.le_refl _⟩
  intro index old new found same
  rw [(age_each s visited).2 index old new found same]
  split
  · exact old.ageRetries_proceeds.evolves
  · exact .same _

end Retains

theorem cleanSentQueue_ok (cleaned : s.cleanSentQueue = .ok next) : ∃ sent, next = { s with sent } := by
  unfold cleanSentQueue at cleaned
  obtain ⟨sent, _, cleaned⟩ := bind_ok.mp cleaned
  cases cleaned
  exact ⟨sent, rfl⟩

/-- A sequence number in the window, counted from its oldest entry. -/
def Holds (s : Sender Pkt) (sn : SeqNum) (index : Nat) : Prop :=
  index < s.unacked.length ∧ distance sn s.lastSent = index + 1 - s.unacked.length

theorem seqNumAt_ofInt {last} (sent : s.lastSent = BitVec.ofInt 64 last) (index : Nat) :
    s.seqNumAt index = BitVec.ofInt 64 (last + (index + 1 - s.unacked.length)) := by
  have one : BitVec.ofInt 64 1 = 1 := by decide
  simp only [seqNumAt, seqNumBase, sent, BitVec.ofInt_add, Int.sub_eq_add_neg, BitVec.ofInt_neg,
    BitVec.ofInt_natCast, one, BitVec.sub_eq_add_neg]
  ac_rfl

theorem Holds.sn_eq (holds : s.Holds sn index) : sn = s.seqNumAt index := by
  have reached := ofInt_add_distance sn s.lastSent.toInt
  rw [BitVec.ofInt_toInt, holds.2] at reached
  rw [← reached, seqNumAt_ofInt (BitVec.ofInt_toInt).symm]

/-- The index of an offset that is back from the newest entry by less than the length. -/
theorem window_index {offset back : Int} {length : Nat} (inside : ¬ offset > 0)
    (negated : Panic.neg64 offset = .ok back) (recent : ¬ back ≥ length) :
    (length + offset - 1).toNat < length ∧ offset = (length + offset - 1).toNat + 1 - length := by
  have same := neg64_ok negated
  omega

theorem sentIndex_ok {found} (looked : s.sentIndex sn = .ok found) :
    (∀ index, found = some index → s.Holds sn index) ∧ (found = none → ∀ index, ¬ s.Holds sn index) := by
  simp only [sentIndex] at looked
  split at looked
  · cases looked
    refine ⟨nofun, fun _ index holds => ?_⟩
    have := holds.2
    have := holds.1
    omega
  · rename_i inside
    obtain ⟨back, negated, looked⟩ := bind_ok.mp looked
    split at looked
    · cases looked
      refine ⟨nofun, fun _ index holds => ?_⟩
      have := neg64_ok negated
      have := holds.2
      omega
    · rename_i recent
      cases looked
      refine ⟨?_, nofun⟩
      intro index same
      cases same
      exact window_index inside negated recent

theorem lookupAckIndex_ok {found} (looked : s.lookupAckIndex sn = .ok (found, next)) :
    (∃ stats, next = { s with stats }) ∧ ∀ index, found = some index → next = s ∧ s.Holds sn index := by
  simp only [lookupAckIndex] at looked
  split at looked
  · cases looked
    exact ⟨⟨_, rfl⟩, by simp⟩
  rename_i inside
  obtain ⟨back, negated, looked⟩ := bind_ok.mp looked
  split at looked
  · cases looked
    exact ⟨⟨_, rfl⟩, by simp⟩
  rename_i recent
  cases looked
  refine ⟨⟨_, rfl⟩, ?_⟩
  intro index same
  cases same
  exact ⟨rfl, window_index inside negated recent⟩

/-- A change of the entry with the number, and of no other one. -/
def Edits (edit : UnackedState Pkt → UnackedState Pkt) (sn : SeqNum) (s next : Sender Pkt) : Prop :=
  next = s ∨ ∃ index entry, s.Holds sn index ∧ s.unacked[index]? = some entry ∧
    next = { s with unacked := s.unacked.set index (edit entry) }

theorem cancelSentPacket_cases (canceled : s.cancelSentPacket sn = .ok (packet, next)) :
    (packet = none ∧ next = s) ∨ ∃ index entry, s.Holds sn index ∧ s.unacked[index]? = some entry ∧
      packet = entry.cancel.1 ∧ next = { s with unacked := s.unacked.set index entry.cancel.2 } := by
  obtain ⟨found, looked, canceled⟩ := bind_ok.mp canceled
  cases found with
  | none =>
    cases canceled
    exact .inl ⟨rfl, rfl⟩
  | some index =>
    obtain ⟨entry, present, canceled⟩ := bind_ok.mp canceled
    cases canceled
    exact .inr ⟨index, entry, (sentIndex_ok looked).1 index rfl, get_ok.mp present, rfl, rfl⟩

theorem cancelSentPacket_edits (canceled : s.cancelSentPacket sn = .ok (packet, next)) :
    Edits (fun entry => entry.cancel.2) sn s next :=
  (cancelSentPacket_cases canceled).imp And.right fun ⟨index, entry, holds, found, _, same⟩ => ⟨index, entry, holds, found, same⟩

theorem limitRetriesBySeqNum_cases (limited : s.limitRetriesBySeqNum sn limit = .ok next) :
    (next = s ∧ ∀ index, ¬ s.Holds sn index) ∨ ∃ index entry, s.Holds sn index ∧ s.unacked[index]? = some entry ∧
      next = { s with unacked := s.unacked.set index (entry.limitRetries limit) } := by
  obtain ⟨found, looked, limited⟩ := bind_ok.mp limited
  cases found with
  | none =>
    cases limited
    exact .inl ⟨rfl, (sentIndex_ok looked).2 rfl⟩
  | some index =>
    obtain ⟨entry, present, limited⟩ := bind_ok.mp limited
    cases limited
    exact .inr ⟨index, entry, (sentIndex_ok looked).1 index rfl, get_ok.mp present, rfl⟩

theorem limitRetriesBySeqNum_edits (limited : s.limitRetriesBySeqNum sn limit = .ok next) :
    Edits (fun entry => entry.limitRetries limit) sn s next :=
  (limitRetriesBySeqNum_cases limited).imp_left And.left

theorem pollAck_cases {poll} (polled : s.pollAck waker sn = .ok (poll, next)) :
    (poll = .ready () ∧ next = s) ∨ ∃ index entry, s.Holds sn index ∧ s.unacked[index]? = some entry ∧ entry.isAcked = false ∧
      next = { s with unacked := s.unacked.set index (entry.setWaker waker) } := by
  unfold pollAck at polled
  obtain ⟨_, sent, polled⟩ := bind_ok.mp polled
  obtain ⟨back, negated, polled⟩ := bind_ok.mp polled
  split at polled
  · cases polled
    exact .inl ⟨rfl, rfl⟩
  next recent =>
  obtain ⟨entry, present, polled⟩ := bind_ok.mp polled
  have holds := window_index (Int.not_lt.mpr (of_decide_eq_true (check_ok.mp sent))) negated recent
  split at polled
  · cases polled
    exact .inl ⟨rfl, rfl⟩
  next unacked =>
  cases polled
  exact .inr ⟨_, entry, holds, get_ok.mp present, Bool.eq_false_iff.mpr unacked, rfl⟩

theorem pollAck_edits {poll} (polled : s.pollAck waker sn = .ok (poll, next)) :
    Edits (fun entry => entry.setWaker waker) sn s next :=
  (pollAck_cases polled).imp And.right fun ⟨index, entry, holds, found, _, same⟩ => ⟨index, entry, holds, found, same⟩

/-- A packet id in the queue, counted from its oldest entry. -/
def Queues (s : Sender Pkt) (id : QueuedPacketId) (index : Nat) : Prop :=
  index < s.blocked.length ∧ distance id s.lastEnqueued = index + 1 - s.blocked.length

/-- A packet is taken out of the queue unless it has left it or was canceled before. -/
abbrev cancelAt (s : Sender Pkt) (index : Nat) : Sender Pkt := { s with blocked := s.blocked.set index .canceled }

theorem cancelQueuedPacket_cases (canceled : s.cancelQueuedPacket id = .ok (packet, woken, next)) :
    (packet = none ∧ woken = [] ∧ next = s) ∨
      ∃ index given waker limit, s.Queues id index ∧ s.blocked[index]? = some (.blocked given waker limit) ∧
        packet = some given ∧ woken = [waker] ∧
        next = if index = 0 then (s.cancelAt index).cleanBlockedQueue
          else s.cancelAt index := by
  unfold cancelQueuedPacket at canceled
  obtain ⟨_, enqueued, canceled⟩ := bind_ok.mp canceled
  obtain ⟨back, negated, canceled⟩ := bind_ok.mp canceled
  split at canceled
  · cases canceled
    exact .inl ⟨rfl, rfl, rfl⟩
  rename_i recent
  obtain ⟨entry, present, canceled⟩ := bind_ok.mp canceled
  have found := get_ok.mp present
  have queues := window_index (Int.not_lt.mpr (of_decide_eq_true (check_ok.mp enqueued))) negated recent
  dsimp only at canceled
  cases entry with
  | canceled =>
    cases canceled
    refine .inl ⟨rfl, rfl, ?_⟩
    obtain ⟨inside, same⟩ := List.getElem?_eq_some_iff.mp found
    rw [BlockedState.cancel, ← same, set_getElem_self]
  | blocked given waker limit =>
    cases canceled
    exact .inr ⟨_, given, waker, limit, queues, found, rfl, rfl, rfl⟩

theorem limitRetriesById_cases (limited : s.limitRetriesById id limit = .ok next) :
    (∃ found, s.lookupSeqNum id = .ok found ∧ (∀ index, ¬ s.Queues id index) ∧
      match found with
      | some sn => s.limitRetriesBySeqNum sn limit = .ok next
      | none => next = s) ∨
      ∃ index entry, s.Queues id index ∧ s.blocked[index]? = some entry ∧
        next = { s with blocked := s.blocked.set index (entry.limitRetries limit) } := by
  unfold limitRetriesById at limited
  obtain ⟨_, enqueued, limited⟩ := bind_ok.mp limited
  obtain ⟨back, negated, limited⟩ := bind_ok.mp limited
  split at limited
  · obtain ⟨found, looked, limited⟩ := bind_ok.mp limited
    refine .inl ⟨found, looked, fun index queues => ?_, ?_⟩
    · have := neg64_ok negated
      have := queues.2
      omega
    cases found with
    | none =>
      cases limited
      rfl
    | some sn => exact limited
  · rename_i recent
    obtain ⟨entry, present, limited⟩ := bind_ok.mp limited
    have queues := window_index (Int.not_lt.mpr (of_decide_eq_true (check_ok.mp enqueued))) negated recent
    cases limited
    exact .inr ⟨_, entry, queues, get_ok.mp present, rfl⟩

theorem pollSend_cases {poll} (polled : s.pollSend waker id = .ok (poll, next)) :
    (∃ found, s.lookupSeqNum id = .ok found ∧ poll = .ready found ∧ next = s) ∨
      ∃ index packet old limit, s.Queues id index ∧ s.blocked[index]? = some (.blocked packet old limit) ∧
        poll = .pending ∧ next = { s with blocked := s.blocked.set index (.blocked packet waker limit) } := by
  unfold pollSend at polled
  obtain ⟨_, enqueued, polled⟩ := bind_ok.mp polled
  obtain ⟨back, negated, polled⟩ := bind_ok.mp polled
  split at polled
  · obtain ⟨found, looked, polled⟩ := bind_ok.mp polled
    cases polled
    exact .inl ⟨found, looked, rfl, rfl⟩
  rename_i recent
  obtain ⟨entry, present, polled⟩ := bind_ok.mp polled
  have queues := window_index (Int.not_lt.mpr (of_decide_eq_true (check_ok.mp enqueued))) negated recent
  cases entry with
  | canceled => cases polled
  | blocked packet old limit =>
    cases polled
    exact .inr ⟨_, packet, old, limit, queues, get_ok.mp present, rfl, rfl⟩

theorem cleanBlocked_split (blocked : List (BlockedState Pkt)) (sent : List (Option SeqNum)) :
    ∃ count, blocked = replicate count .canceled ++ (cleanBlocked blocked sent).1 ∧
      (cleanBlocked blocked sent).2 = sent ++ replicate count none := by
  fun_induction cleanBlocked blocked sent with
  | case1 rest sent ih =>
    obtain ⟨count, split, same⟩ := ih
    refine ⟨count + 1, ?_, by rw [same, append_assoc, replicate_succ, singleton_append]⟩
    rw [replicate_succ, cons_append, ← split]
  | case2 blocked sent other => exact ⟨0, rfl, by rw [replicate_zero, append_nil]⟩

section
variable
  (cleaned : cleanSentQueue (if index = 0 then { s with unacked := s.unacked.set index new }.cleanUnackedQueue else
    { s with unacked := s.unacked.set index new }) = .ok next)
include cleaned

/-- One entry changes; the front of the window is cleaned if it was the oldest. -/
theorem replace_settles (reflexive : ∀ index entry, change index entry entry) (found : s.unacked[index]? = some old)
    (changed : change index old new) : Settles change s next := by
  obtain ⟨sent, rfl⟩ := cleanSentQueue_ok cleaned
  split
  · exact ⟨rfl, rfl, Moves.set_clean reflexive found changed⟩
  · exact ⟨rfl, rfl, Moves.set reflexive found changed⟩

theorem replace_stats : next.stats = s.stats := by
  obtain ⟨sent, rfl⟩ := cleanSentQueue_ok cleaned
  split <;> rfl

end

/-- The entry with the number is replaced, and what is no longer needed is cleaned up. -/
def Replaces (outcome : UnackedState Pkt → UnackedState Pkt → Prop) (sn : SeqNum) (s next : Sender Pkt) : Prop :=
  ∃ index old new, s.Holds sn index ∧ s.unacked[index]? = some old ∧ outcome old new ∧
    cleanSentQueue (if index = 0 then { s with unacked := s.unacked.set index new }.cleanUnackedQueue
      else { s with unacked := s.unacked.set index new }) = .ok next

theorem Replaces.blocked (replaces : Replaces outcome sn s next) : next.blocked = s.blocked := by
  obtain ⟨index, old, new, _, _, _, cleaned⟩ := replaces
  obtain ⟨sent, rfl⟩ := cleanSentQueue_ok cleaned
  split <;> rfl

section
variable (forgotten : s.forgetCanceledPacket sn = .ok next)
include forgotten

theorem forgetCanceledPacket_cases : next = s ∨ Replaces (fun old new => new = old.forget) sn s next := by
  obtain ⟨found, looked, forgotten⟩ := bind_ok.mp forgotten
  cases found with
  | none =>
    cases forgotten
    exact .inl rfl
  | some index =>
    obtain ⟨entry, present, forgotten⟩ := bind_ok.mp forgotten
    exact .inr ⟨index, entry, _, (sentIndex_ok looked).1 index rfl, get_ok.mp present, rfl, forgotten⟩

theorem forgetCanceledPacket_blocked : next.blocked = s.blocked := by
  obtain rfl | replaces := forgetCanceledPacket_cases forgotten
  · rfl
  · exact replaces.blocked

theorem forgetCanceledPacket_idle : Idle s next := by
  obtain rfl | ⟨index, entry, _, _, found, rfl, cleaned⟩ := forgetCanceledPacket_cases forgotten
  · exact .refl _
  · exact replace_settles cleaned (fun _ => .same) found entry.forget_evolves

theorem forgetCanceledPacket_stats : next.stats = s.stats := by
  obtain rfl | ⟨_, _, _, _, _, _, cleaned⟩ := forgetCanceledPacket_cases forgotten
  · rfl
  · exact replace_stats cleaned

end

/-- The one number whose distance cannot be negated. -/
def Antipode (s : Sender Pkt) (sn : SeqNum) : Prop := sn = s.lastSent + BitVec.ofNat 64 (2 ^ 63)

theorem antipode_iff (s : Sender Pkt) (sn : SeqNum) : s.Antipode sn ↔ distance sn s.lastSent = -2 ^ 63 := by
  have least : ∀ word, word = BitVec.ofNat 64 (2 ^ 63) ↔ word.toInt = -2 ^ 63 := by
    intro word
    constructor
    · intro same
      rw [same]
      decide
    intro same
    apply BitVec.eq_of_toInt_eq
    rw [same]
    decide
  rw [distance, ← least, Antipode, BitVec.sub_eq_iff_eq_add, BitVec.add_comm]

/-- What is known of an acknowledgement once its number has been looked up. -/
inductive Looks (s : Sender Pkt) (sn : SeqNum) : Except Panic (Option Nat × Sender Pkt) → Prop where
  | antipode (least : s.Antipode sn) : Looks s sn (.error .overflow)
  | tooNew (new : distance sn s.lastSent > 0) (other : ¬ s.Antipode sn) (outside : ∀ index, ¬ s.Holds sn index) :
      Looks s sn (.ok (none, s.count .tooNewAck))
  | tooOld (other : ¬ s.Antipode sn) (outside : ∀ index, ¬ s.Holds sn index) :
      Looks s sn (.ok (none, s.count .tooOldAck))
  | holds {index entry} (other : ¬ s.Antipode sn) (holds : s.Holds sn index) (found : s.unacked[index]? = some entry) :
      Looks s sn (.ok (some index, s))

theorem lookupAckIndex_cases (s : Sender Pkt) (sn : SeqNum) : s.Looks sn (s.lookupAckIndex sn) := by
  have antipode := s.antipode_iff sn
  unfold lookupAckIndex
  dsimp only
  by_cases new : distance sn s.lastSent > 0
  · rw [if_pos new]
    refine .tooNew new (by rw [antipode]; omega) ?_
    intro index holds
    have := holds.1
    have := holds.2
    omega
  rw [if_neg new]
  by_cases least : distance sn s.lastSent = -2 ^ 63
  · have stopped : Panic.neg64 (distance sn s.lastSent) = .error .overflow := by rw [least]; rfl
    rw [stopped]
    exact .antipode (antipode.mpr least)
  rw [neg64_returns least, ok_bind]
  by_cases old : -distance sn s.lastSent ≥ s.unacked.length
  · rw [if_pos old]
    refine .tooOld (mt antipode.mp least) ?_
    intro index holds
    have := holds.2
    omega
  · rw [if_neg old]
    have holds : s.Holds sn (s.unacked.length + distance sn s.lastSent - 1).toNat := by
      constructor <;> omega
    exact .holds (mt antipode.mp least) holds (getElem?_eq_getElem holds.1)

theorem Holds.unique {other} (first : s.Holds sn index) (second : s.Holds sn other) : index = other := by
  have := first.2
  have := second.2
  omega

/-- An acknowledgement that moves the entry it refers to. -/
def Accepts (s : Sender Pkt) (sn : SeqNum) (index : Nat) (next : Sender Pkt) (outcome : UnackedState Pkt → Prop) : Prop :=
  s.Holds sn index ∧ Settles (fun i old new => (i = index ∧ outcome new) ∨ old = new) s next

theorem Replaces.accepts {reached} (replaces : Replaces outcome sn s next)
    (reaches : ∀ old new, outcome old new → reached new) : ∃ index, s.Accepts sn index next reached := by
  obtain ⟨index, old, new, holds, found, changed, cleaned⟩ := replaces
  exact ⟨index, holds, replace_settles cleaned (fun _ _ => .inr rfl) found (.inl ⟨rfl, reaches old new changed⟩)⟩

/-- The waker of an entry is woken exactly when the acknowledgement is heeded. -/
theorem processAck_cases (processed : s.processAck sn = .ok (packet, woken, next)) :
    (packet = none ∧ woken = [] ∧ ∃ stats, next = { s with stats }) ∨ ∃ waker, woken = [waker] ∧
      Replaces (fun old new => old.processAck = .ok (packet, waker) ∧ new = .acked) sn s next := by
  obtain ⟨⟨found, middle⟩, looked, remaining⟩ := bind_ok.mp processed
  obtain ⟨counted, inside⟩ := lookupAckIndex_ok looked
  cases found with
  | none =>
    cases remaining
    exact .inl ⟨rfl, rfl, counted⟩
  | some index =>
    obtain ⟨rfl, holds⟩ := inside index rfl
    obtain ⟨entry, present, remaining⟩ := bind_ok.mp remaining
    split at remaining
    · cases remaining
      exact .inl ⟨rfl, rfl, _, rfl⟩
    rename_i given outcome
    obtain ⟨cleaned, clean, remaining⟩ := bind_ok.mp remaining
    cases remaining
    exact .inr ⟨_, rfl, index, entry, _, holds, get_ok.mp present, ⟨outcome, rfl⟩, clean⟩

/-- A cancellation that was forgotten is dropped as soon as it is acknowledged. -/
theorem processCanceled_cases (processed : s.processCanceled sn = .ok (woken, next)) :
    (woken = [] ∧ ∃ stats, next = { s with stats }) ∨ ∃ waker, woken = [waker] ∧
      Replaces (fun old new => ∃ forgotten, old = .cancelRequested waker forgotten ∧
        new = if forgotten then .acked else .cancelAcked) sn s next := by
  obtain ⟨⟨found, middle⟩, looked, remaining⟩ := bind_ok.mp processed
  obtain ⟨counted, inside⟩ := lookupAckIndex_ok looked
  cases found with
  | none =>
    cases remaining
    exact .inl ⟨rfl, counted⟩
  | some index =>
    obtain ⟨rfl, holds⟩ := inside index rfl
    obtain ⟨entry, present, remaining⟩ := bind_ok.mp remaining
    cases entry with
    | cancelRequested waker forgotten =>
      obtain ⟨cleaned, clean, remaining⟩ := bind_ok.mp remaining
      cases remaining
      exact .inr ⟨waker, rfl, index, _, _, holds, get_ok.mp present, ⟨forgotten, rfl, rfl⟩, clean⟩
    | unacked | acked | cancelAcked =>
      cases remaining
      exact .inl ⟨rfl, _, rfl⟩

theorem processAck_ok (processed : s.processAck sn = .ok (packet, woken, next)) :
    (woken = [] ∧ Idle s next) ∨ (woken ≠ [] ∧ ∃ index, s.Accepts sn index next (· = .acked)) := by
  obtain ⟨_, silent, stats, rfl⟩ | ⟨waker, rfl, replaces⟩ := processAck_cases processed
  · exact .inl ⟨silent, .unchanged rfl rfl rfl⟩
  · exact .inr ⟨nofun, replaces.accepts fun _ _ => And.right⟩

theorem processCanceled_ok (processed : s.processCanceled sn = .ok (woken, next)) :
    (woken = [] ∧ Idle s next) ∨
      (woken ≠ [] ∧ ∃ index, s.Accepts sn index next (fun new => new = .acked ∨ new = .cancelAcked)) := by
  obtain ⟨silent, stats, rfl⟩ | ⟨waker, rfl, replaces⟩ := processCanceled_cases processed
  · exact .inl ⟨silent, .unchanged rfl rfl rfl⟩
  refine .inr ⟨nofun, replaces.accepts ?_⟩
  rintro old new ⟨forgotten, rfl, rfl⟩
  cases forgotten
  · exact .inr rfl
  · exact .inl rfl

/-- The next sequence number goes to a new entry of a window with room for it. A packet
that was blocked before is noted in the sent queue. -/
structure Pushes (s next : Sender Pkt) (packet : Pkt) : Prop where
  room : s.unacked.length < s.windowSize
  lastSent : next.lastSent = s.lastSent + 1
  windowSize : next.windowSize = s.windowSize
  entry : ∃ waker limit, next.unacked = s.unacked ++ [.unacked packet waker limit 0 false]
  sent : ∃ count noted, (noted = [] ∨ noted = [some next.lastSent]) ∧
    next.sent = s.sent ++ noted ++ List.replicate count none
  stats : next.stats = s.stats

theorem enqueueNextBlockedPacket_ok {packet}
    (enqueued : s.enqueueNextBlockedPacket = .ok ((sn, packet), woken, next)) :
    ∃ waker limit rest, s.unacked.length < s.windowSize ∧ s.blocked = .blocked packet waker limit :: rest ∧
      sn = s.lastSent + 1 ∧ woken = [waker] ∧ next =
        { s with blocked := rest, unacked := s.unacked ++ [.unacked packet .noop limit 0 false],
                 lastSent := s.lastSent + 1, sent := s.sent ++ [some (s.lastSent + 1)] : Sender Pkt }.cleanBlockedQueue := by
  unfold enqueueNextBlockedPacket at enqueued
  obtain ⟨_, room, enqueued⟩ := bind_ok.mp enqueued
  have room := check_ok.mp room
  simp only [isBlocked, ge_iff_le, Bool.not_eq_true', decide_eq_false_iff_not, Nat.not_le] at room
  split at enqueued
  · cases enqueued
  · cases enqueued
  next head =>
  cases enqueued
  exact ⟨_, _, _, room, head, rfl, rfl, rfl⟩

theorem enqueueNextBlockedPacket_pushes {packet}
    (enqueued : s.enqueueNextBlockedPacket = .ok ((sn, packet), woken, next)) :
    Pushes s next packet ∧ sn = next.lastSent := by
  obtain ⟨waker, limit, rest, room, _, rfl, _, rfl⟩ := enqueueNextBlockedPacket_ok enqueued
  obtain ⟨count, _, sent⟩ := cleanBlocked_split rest (s.sent ++ [some (s.lastSent + 1)])
  exact ⟨⟨room, rfl, rfl, ⟨_, _, rfl⟩, ⟨count, _, .inr rfl, sent⟩, rfl⟩, rfl⟩

theorem enqueuePacket_cases (s : Sender Pkt) (packet : Pkt) :
    s.enqueuePacket packet = (.queued (s.lastEnqueued + 1),
        { s with lastEnqueued := s.lastEnqueued + 1, blocked := s.blocked ++ [.blocked packet .noop none] }) ∨
      s.unacked.length < s.windowSize ∧ s.blocked = [] ∧ s.enqueuePacket packet = (.sent (s.lastSent + 1) packet,
        { s with lastSent := s.lastSent + 1, unacked := s.unacked ++ [.unacked packet .noop none 0 false] }) := by
  unfold enqueuePacket
  split
  · exact .inl rfl
  next free =>
  simp only [isBlocked, hasBlockedPackets, ge_iff_le, Bool.or_eq_true, decide_eq_true_eq, Bool.not_eq_true', not_or,
    Nat.not_le, Bool.not_eq_false, List.isEmpty_iff] at free
  exact .inr ⟨free.1, free.2, rfl⟩

/-- A data or cancel message for an entry of the window. The entry of a cancel message is
no longer outstanding. -/
def Repeats (s next : Sender Pkt) (message : Message Pkt) : Prop :=
  ∃ index, index < s.unacked.length ∧
    ((∃ packet, message = .data (s.seqNumAt index) packet) ∨
      message = .cancel (s.seqNumAt index) ∧ ∃ entry, next.unacked[index]? = some entry ∧ entry.isOutstanding = false)

theorem retryPackets_entry {packet} (member : (sn, packet) ∈ s.retryPackets) :
    ∃ index waker limit count forgotten, s.unacked[index]? = some (.unacked packet waker limit count forgotten) ∧
      sn = s.seqNumAt index := by
  obtain ⟨⟨entry, index⟩, present, selected⟩ := mem_filterMap.mp member
  have found := mk_mem_zipIdx_iff_getElem?.mp present
  cases entry with
  | unacked =>
    cases selected
    exact ⟨index, _, _, _, _, found, rfl⟩
  | cancelRequested | acked | cancelAcked => cases selected

theorem retryPackets_repeats (s : Sender Pkt) {packet} (member : (sn, packet) ∈ s.retryPackets) :
    s.Repeats s (.data sn packet) := by
  obtain ⟨index, _, _, _, _, found, rfl⟩ := retryPackets_entry member
  exact ⟨index, (lt_length found), .inl ⟨packet, rfl⟩⟩

theorem retryCancels_repeats (s : Sender Pkt) (member : sn ∈ s.retryCancels) : s.Repeats s (.cancel sn) := by
  obtain ⟨⟨entry, index⟩, present, selected⟩ := mem_filterMap.mp member
  have inside := (mem_zipIdx present).2.1
  have found := mk_mem_zipIdx_iff_getElem?.mp present
  cases entry with
  | cancelRequested => cases selected; exact ⟨index, by simpa using inside, .inr ⟨rfl, _, found, rfl⟩⟩
  | unacked | acked | cancelAcked => cases selected

/-- The number of a packet that was queued, as long as it is known. -/
def sentAs (s : Sender Pkt) (id : QueuedPacketId) : Option SeqNum :=
  match s.lookupSeqNum id with
  | .ok found => found
  | .error _ => none

/-- The number whose retries a call limits, and the limit. -/
def limits (s : Sender Pkt) : SenderCall Pkt → Option (SeqNum × UInt8)
  | .op (.limitRetriesBySeqNum sn limit) => some (sn, limit)
  | .op (.limitRetriesById id limit) => (s.sentAs id).map (·, limit)
  | _ => none

/-- The number a call waits for, and the waker it leaves. -/
def polls (s : Sender Pkt) : SenderCall Pkt → Option (SeqNum × Waker)
  | .op (.pollAck waker sn) => some (sn, waker)
  | .op (.pollSendAndAck waker id) => (s.sentAs id).map (·, waker)
  | _ => none

/-- The call neither sends or ages anything nor limits the retries of a packet the sender has. -/
def Misses (s : Sender Pkt) : SenderCall Pkt → Prop
  | .op (.enqueuePacket _) | .op .enqueueNextBlockedPacket | .op (.ageRetries _) => False
  | .op (.limitRetriesBySeqNum sn _) => ∀ index, ¬ s.Holds sn index
  | .op (.limitRetriesById id _) => (∀ index, ¬ s.Queues id index) ∧ ∀ sn ∈ s.sentAs id, ∀ index, ¬ s.Holds sn index
  | _ => True

/-- What each call of a sender does. -/
inductive Turns (s : Sender Pkt) : SenderCall Pkt → Answer Pkt → Sender Pkt → Prop where
  | same {call messages} (misses : s.Misses call) (repeats : ∀ message ∈ messages, s.Repeats s message) :
      Turns s call ⟨messages, [], []⟩ s
  | count {call stats} (misses : s.Misses call) (fewer : ∀ op, call = .op op → ∀ stat, stats stat ≤ s.stats stat) :
      Turns s call ⟨[], [], []⟩ { s with stats }
  | adjust {windowSize} : Turns s (.op (.adjustWindowSize windowSize)) ⟨[], [], []⟩
      { s with windowSize := min (2 ^ 64 - 1) windowSize }
  | push {packet : Pkt} (room : s.unacked.length < s.windowSize) (empty : s.blocked = []) :
      Turns s (.op (.enqueuePacket packet)) ⟨[.data (s.lastSent + 1) packet], [], []⟩
        { s with lastSent := s.lastSent + 1, unacked := s.unacked ++ [.unacked packet .noop none 0 false] }
  | queue {packet : Pkt} : Turns s (.op (.enqueuePacket packet)) ⟨[], [], []⟩
      { s with lastEnqueued := s.lastEnqueued + 1, blocked := s.blocked ++ [.blocked packet .noop none] }
  | next {packet : Pkt} {waker limit rest} (room : s.unacked.length < s.windowSize)
      (head : s.blocked = .blocked packet waker limit :: rest) :
      Turns s (.op .enqueueNextBlockedPacket) ⟨[.data (s.lastSent + 1) packet], [], [waker]⟩
        { s with blocked := rest, unacked := s.unacked ++ [.unacked packet .noop limit 0 false],
                 lastSent := s.lastSent + 1, sent := s.sent ++ [some (s.lastSent + 1)] : Sender Pkt }.cleanBlockedQueue
  | cancelQueued {id : QueuedPacketId} {index packet waker limit} (queues : s.Queues id index)
      (found : s.blocked[index]? = some (.blocked packet waker limit)) :
      Turns s (.op (.cancelQueuedPacket id)) ⟨[], [packet], [waker]⟩
        (if index = 0 then { s with blocked := s.blocked.set index .canceled }.cleanBlockedQueue
          else { s with blocked := s.blocked.set index .canceled })
  | limitQueued {id : QueuedPacketId} {limit index entry} (queues : s.Queues id index) (found : s.blocked[index]? = some entry) :
      Turns s (.op (.limitRetriesById id limit)) ⟨[], [], []⟩
        { s with blocked := s.blocked.set index (entry.limitRetries limit) }
  | pollQueued {op waker id index packet old limit}
      (polls : op = .pollSend waker id ∨ op = .pollSendAndAck waker id) (queues : s.Queues id index)
      (found : s.blocked[index]? = some (.blocked packet old limit)) :
      Turns s (.op op) ⟨[], [], []⟩ { s with blocked := s.blocked.set index (.blocked packet waker limit) }
  | cancelSent {sn : SeqNum} {index entry} (holds : s.Holds sn index) (found : s.unacked[index]? = some entry) :
      Turns s (.op (.cancelSentPacket sn)) ⟨entry.cancel.1.toList.map fun _ => .cancel sn, entry.cancel.1.toList, []⟩
        { s with unacked := s.unacked.set index entry.cancel.2 }
  | limitSent {call limit sn index entry} (limits : s.limits call = some (sn, limit)) (holds : s.Holds sn index)
      (found : s.unacked[index]? = some entry) :
      Turns s call ⟨[], [], []⟩ { s with unacked := s.unacked.set index (entry.limitRetries limit) }
  | pollSent {call waker sn index entry} (polls : s.polls call = some (sn, waker)) (holds : s.Holds sn index)
      (found : s.unacked[index]? = some entry) :
      Turns s call ⟨[], [], []⟩ { s with unacked := s.unacked.set index (entry.setWaker waker) }
  | age {visited} :
      Turns s (.op (.ageRetries visited)) ⟨[], (s.ageRetries visited).1, []⟩ (s.ageRetries visited).2
  | forget {sn : SeqNum} {next} (replaces : Replaces (fun old new => new = old.forget) sn s next) :
      Turns s (.op (.forgetCanceledPacket sn)) ⟨[], [], []⟩ next
  | acked {sn : SeqNum} {packet waker next}
      (replaces : Replaces (fun old new => old.processAck = .ok (packet, waker) ∧ new = .acked) sn s next) :
      Turns s (.processAck sn) ⟨[], packet.toList, [waker]⟩ next
  | canceled {sn : SeqNum} {waker next}
      (replaces : Replaces (fun old new => ∃ forgotten, old = .cancelRequested waker forgotten ∧
        new = if forgotten then .acked else .cancelAcked) sn s next) :
      Turns s (.processCanceled sn) ⟨[], [], [waker]⟩ next

theorem perform_released {op messages} (performed : s.perform op = .ok (messages, next)) :
    Turns s (.op op) ⟨messages, (s.released op).1, (s.released op).2⟩ next := by
  cases op with
  | enqueuePacket packet =>
    rw [perform] at performed
    obtain queued | ⟨room, empty, sent⟩ := s.enqueuePacket_cases packet
    · rw [queued] at performed
      cases performed
      exact .queue
    rw [sent] at performed
    cases performed
    exact .push room empty
  | enqueueNextBlockedPacket =>
    obtain ⟨⟨⟨sn, packet⟩, woken, s⟩, enqueued, performed⟩ := bind_ok.mp performed
    cases performed
    simp only [released, enqueued]
    obtain ⟨waker, limit, rest, room, head, rfl, rfl, rfl⟩ := enqueueNextBlockedPacket_ok enqueued
    exact .next room head
  | cancelQueuedPacket id =>
    obtain ⟨⟨packet, woken, s⟩, canceled, performed⟩ := bind_ok.mp performed
    cases performed
    simp only [released, canceled]
    obtain ⟨rfl, rfl, rfl⟩ | ⟨index, given, waker, limit, queues, found, rfl, rfl, rfl⟩ := cancelQueuedPacket_cases canceled
    · exact .same trivial nofun
    · exact .cancelQueued queues found
  | cancelSentPacket sn =>
    obtain ⟨⟨packet, s⟩, canceled, done⟩ := bind_ok.mp performed
    simp only [released, canceled]
    obtain ⟨rfl, rfl⟩ | ⟨index, entry, holds, found, rfl, rfl⟩ := cancelSentPacket_cases canceled
    · cases done
      exact .same trivial nofun
    have turns := Turns.cancelSent holds found
    cases given : entry.cancel.1 with
    | none | some packet =>
      rw [given] at done turns
      cases done
      exact turns
  | limitRetriesById id limit =>
    obtain ⟨s, limited, performed⟩ := bind_ok.mp performed
    cases performed
    obtain ⟨number, looked, left, limited⟩ | ⟨index, entry, queues, found, rfl⟩ := limitRetriesById_cases limited
    · have known : s.sentAs id = number := by rw [sentAs, looked]
      cases number with
      | none =>
        subst limited
        exact .same ⟨left, by rw [known]; exact nofun⟩ nofun
      | some sn =>
        obtain ⟨rfl, outside⟩ | ⟨index, entry, holds, found, rfl⟩ := limitRetriesBySeqNum_cases limited
        · refine .same ⟨left, ?_⟩ nofun
          rw [known]
          rintro _ ⟨⟩
          exact outside
        · exact .limitSent (by rw [limits, known]; rfl) holds found
    · exact .limitQueued queues found
  | limitRetriesBySeqNum sn limit =>
    obtain ⟨s, limited, performed⟩ := bind_ok.mp performed
    cases performed
    obtain ⟨rfl, outside⟩ | ⟨index, entry, holds, found, rfl⟩ := limitRetriesBySeqNum_cases limited
    · exact .same outside nofun
    · exact .limitSent rfl holds found
  | forgetCanceledPacket sn =>
    obtain ⟨s, forgotten, performed⟩ := bind_ok.mp performed
    cases performed
    obtain rfl | replaces := forgetCanceledPacket_cases forgotten
    · exact .same trivial nofun
    · exact .forget replaces
  | adjustWindowSize windowSize =>
    obtain ⟨s, adjusted, performed⟩ := bind_ok.mp performed
    cases performed
    obtain ⟨_, _, adjusted⟩ := bind_ok.mp adjusted
    cases adjusted
    exact .adjust
  | ageRetries visited =>
    cases performed
    exact .age
  | retryPackets =>
    cases performed
    refine .same trivial fun message member => ?_
    obtain ⟨⟨sn, packet⟩, retried, rfl⟩ := List.mem_map.mp member
    exact s.retryPackets_repeats retried
  | retryCancels =>
    cases performed
    refine .same trivial fun message member => ?_
    obtain ⟨sn, retried, rfl⟩ := List.mem_map.mp member
    exact s.retryCancels_repeats retried
  | pollSend waker id =>
    obtain ⟨⟨poll, s⟩, polled, performed⟩ := bind_ok.mp performed
    cases performed
    obtain ⟨_, _, _, rfl⟩ | ⟨index, packet, old, limit, queues, found, _, rfl⟩ := pollSend_cases polled
    · exact .same trivial nofun
    · exact .pollQueued (.inl rfl) queues found
  | pollAck waker sn =>
    obtain ⟨⟨poll, s⟩, polled, performed⟩ := bind_ok.mp performed
    cases performed
    obtain rfl | ⟨index, entry, holds, found, rfl⟩ := pollAck_edits polled
    · exact .same trivial nofun
    · exact .pollSent rfl holds found
  | pollSendAndAck waker id =>
    obtain ⟨⟨poll, s⟩, polled, performed⟩ := bind_ok.mp performed
    cases performed
    obtain ⟨⟨sent, middle⟩, first, polled⟩ := bind_ok.mp polled
    obtain ⟨found, looked, rfl, rfl⟩ | ⟨index, packet, old, limit, queues, found, rfl, rfl⟩ := pollSend_cases first
    · cases found with
      | none =>
        cases polled
        exact .same trivial nofun
      | some sn =>
        obtain rfl | ⟨index, entry, holds, found, rfl⟩ := pollAck_edits polled
        · exact .same trivial nofun
        · exact .pollSent (by rw [polls, sentAs, looked]; rfl) holds found
    · cases polled
      exact .pollQueued (.inr rfl) queues found
  | fetchResetStat stat =>
    cases performed
    refine .count trivial fun _ _ other => ?_
    split <;> omega

theorem call_turns {call answer} (called : s.call call = .ok (answer, next)) :
    Turns s call answer next := by
  cases call with
  | op op =>
    obtain ⟨⟨messages, last⟩, performed, called⟩ := bind_ok.mp called
    cases called
    exact perform_released performed
  | processAck sn =>
    obtain ⟨⟨packet, woken, last⟩, processed, called⟩ := bind_ok.mp called
    cases called
    obtain ⟨rfl, rfl, stats, rfl⟩ | ⟨waker, rfl, replaces⟩ := processAck_cases processed
    · exact .count trivial nofun
    · exact .acked replaces
  | processCanceled sn =>
    obtain ⟨⟨woken, last⟩, processed, called⟩ := bind_ok.mp called
    cases called
    obtain ⟨rfl, stats, rfl⟩ | ⟨waker, rfl, replaces⟩ := processCanceled_cases processed
    · exact .count trivial nofun
    · exact .canceled replaces

/-- What a caller's operation does to the window, the sent queue and the wire. -/
inductive Performs (s next : Sender Pkt) : SenderOp Pkt → List (Message Pkt) → Prop where
  | pushes {op packet} (pushes : Pushes s next packet) : Performs s next op [.data next.lastSent packet]
  | retains {op messages} (retains : Retains s next) (repeats : ∀ message ∈ messages, s.Repeats next message) :
      Performs s next op messages
  | forgets {sn : SeqNum} (forgotten : s.forgetCanceledPacket sn = .ok next) : Performs s next (.forgetCanceledPacket sn) []
  | adjusts {windowSize} (adjusted : next = { s with windowSize := min (2 ^ 64 - 1) windowSize }) :
      Performs s next (.adjustWindowSize windowSize) []

section
variable {messages} {op : SenderOp Pkt} (performed : s.perform op = .ok (messages, next))
include performed

theorem perform_turns : ∃ back woken, Turns s (.op op) ⟨messages, back, woken⟩ next := ⟨_, _, perform_released performed⟩

theorem perform_ok : Performs s next op messages := by
  obtain ⟨back, woken, turns⟩ := perform_turns performed
  cases turns with
  | same _ repeats => exact .retains (.refl s) repeats
  | count _ fewer => exact .retains (.unchanged rfl rfl rfl ⟨0, by simp⟩ (fewer op rfl)) nofun
  | adjust => exact .adjusts rfl
  | push room empty => exact .pushes ⟨room, rfl, rfl, ⟨_, _, rfl⟩, ⟨0, [], .inl rfl, by simp⟩, rfl⟩
  | queue | limitQueued | pollQueued => exact .retains (.blocked s _ _) nofun
  | next room head =>
    obtain ⟨count, _, sent⟩ := cleanBlocked_split _ (s.sent ++ [some (s.lastSent + 1)])
    exact .pushes ⟨room, rfl, rfl, ⟨_, _, rfl⟩, ⟨count, _, .inr rfl, sent⟩, rfl⟩
  | @cancelQueued _ index =>
    split
    · obtain ⟨count, _, sent⟩ := cleanBlocked_split (s.blocked.set index .canceled) s.sent
      exact .retains (.unchanged rfl rfl rfl ⟨count, sent⟩ fun _ => Nat.le_refl _) nofun
    · exact .retains (.blocked s _ _) nofun
  | @cancelSent sn index entry holds found =>
    refine .retains (.set found entry.cancel_proceeds.evolves) fun message member => ?_
    obtain ⟨_, _, rfl⟩ := List.mem_map.mp member
    rw [holds.sn_eq]
    exact ⟨index, holds.1, .inr ⟨rfl, _, getElem?_set_self holds.1, entry.cancel_outstanding⟩⟩
  | limitSent _ _ found => exact .retains (.set found (limitRetries_proceeds _ _).evolves) nofun
  | pollSent _ _ found => exact .retains (.set found (setWaker_proceeds _ _).evolves) nofun
  | age => exact .retains (.age s _) nofun
  | forget =>
    obtain ⟨last, forgotten, done⟩ := bind_ok.mp performed
    cases done
    exact .forgets forgotten

theorem perform_stats (stat : SenderStat) : next.stats stat ≤ s.stats stat := by
  cases perform_ok performed with
  | pushes pushes => exact Nat.le_of_eq (congrFun pushes.stats stat)
  | retains retains _ => exact retains.stats stat
  | forgets forgotten => exact Nat.le_of_eq (congrFun (forgetCanceledPacket_stats forgotten) stat)
  | adjusts adjusted =>
    subst adjusted
    exact Nat.le_refl _

end

end Sender
end ZprCore.Zdpr
