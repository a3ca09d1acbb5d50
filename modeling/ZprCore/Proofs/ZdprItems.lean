import ZprCore.Lib.Recent
import ZprCore.Proofs.ZdprBlocked

/-! The window and the queues of a sender in terms of the packets themselves: the entry of the
packet with a given number, what is still queued, and what was cleaned up. -/

namespace ZprCore.Zdpr
open Panic List Recent
variable {Pkt : Type} {waker : Waker}

namespace UnackedState

/-- Whoever would learn of a cancellation has given up. -/
def forgotten : UnackedState Pkt → Bool
  | .unacked _ _ _ _ forgotten => forgotten
  | .cancelRequested _ forgotten => forgotten
  | .acked | .cancelAcked => false

end UnackedState

namespace BlockedState

def packet : BlockedState Pkt → Option Pkt
  | .blocked packet _ _ => some packet
  | .canceled => none

theorem limitRetries_packet (limit : UInt8) (entry : BlockedState Pkt) :
    (entry.limitRetries limit).packet = entry.packet := by
  cases entry <;> rfl

end BlockedState

namespace Proceeds
variable {old new : UnackedState Pkt}

variable (proceeds : Proceeds old new)
include proceeds

theorem forgotten : new.forgotten = old.forgotten := by
  cases proceeds <;> rfl

theorem isAcked (acked : new.isAcked = true) : old = new := by
  cases proceeds with
  | same => rfl
  | outstanding | cancel | canceling => cases acked

theorem unacked {packet limit count forgotten} (outstanding : new = .unacked packet waker limit count forgotten) :
    ∃ waker limit count forgotten, old = .unacked packet waker limit count forgotten := by
  cases proceeds with
  | same => exact ⟨waker, limit, count, forgotten, outstanding⟩
  | outstanding =>
    cases outstanding
    exact ⟨_, _, _, _, rfl⟩
  | cancel | canceling => cases outstanding

end Proceeds

namespace UnackedState

theorem forget_ne_cancelAcked (entry : UnackedState Pkt) : entry.forget ≠ .cancelAcked := by
  cases entry with
  | unacked packet waker retryLimit retryCount forgotten => cases retryLimit <;> exact nofun
  | cancelRequested | acked | cancelAcked => exact nofun

theorem forget_unacked {entry : UnackedState Pkt} {packet limit count forgotten}
    (same : entry.forget = .unacked packet waker limit count forgotten) :
    ∃ waker limit count forgotten, entry = .unacked packet waker limit count forgotten := by
  cases entry with
  | unacked packet waker retryLimit retryCount forgotten =>
    cases retryLimit <;> cases same <;> exact ⟨_, _, _, _, rfl⟩
  | cancelRequested | acked | cancelAcked => cases same

end UnackedState

namespace Sender
variable {s next : Sender Pkt} {change} {packet : Pkt} {index : Nat}
  {sn : SeqNum} {old new : UnackedState Pkt}

/-- The packets in the queue. -/
def queue (s : Sender Pkt) : List (Option Pkt) := s.blocked.map BlockedState.packet

/-- Nothing enters or leaves the queues, and no packet is forgotten. -/
structure Tends (s next : Sender Pkt) : Prop where
  settles : Settles (fun _ => Proceeds) s next
  queue : next.queue = s.queue
  sent : next.sent = s.sent
  lastEnqueued : next.lastEnqueued = s.lastEnqueued

namespace Tends

theorem refl (s : Sender Pkt) : Tends s s := ⟨⟨rfl, rfl, .refl fun _ => .same⟩, rfl, rfl, rfl⟩

theorem set (found : s.unacked[index]? = some old) (proceeds : Proceeds old new) :
    Tends s { s with unacked := s.unacked.set index new } :=
  ⟨⟨rfl, rfl, .set (fun _ => .same) found proceeds⟩, rfl, rfl, rfl⟩

theorem replace {old new} (found : s.blocked[index]? = some old) (same : new.packet = old.packet) :
    Tends s { s with blocked := s.blocked.set index new } := by
  refine ⟨⟨rfl, rfl, .refl fun _ => .same⟩, ?_, rfl, rfl⟩
  rw [Sender.queue, Sender.queue]
  obtain ⟨inside, rfl⟩ := List.getElem?_eq_some_iff.mp found
  rw [map_set, same, ← map_set, set_getElem_self]

theorem age (s : Sender Pkt) : Tends s (s.ageRetries s.unacked.length).2 := by
  refine ⟨⟨rfl, rfl, _, [], rfl, nofun, (age_each s _).1, ?_⟩, rfl, rfl, rfl⟩
  intro index old new found same
  rw [(age_each s _).2 index old new found same]
  split
  · exact old.ageRetries_proceeds
  · exact .same _

end Tends

theorem Edits.tends {edit} (edits : Edits edit sn s next)
    (proceeds : ∀ entry, Proceeds entry (edit entry)) : Tends s next := by
  obtain rfl | ⟨index, entry, _, found, rfl⟩ := edits
  · exact .refl _
  · exact .set found (proceeds entry)

theorem pollSend_tends {id poll} (polled : s.pollSend waker id = .ok (poll, next)) : Tends s next := by
  obtain ⟨found, _, _, rfl⟩ | ⟨index, packet, old, limit, _, found, _, rfl⟩ := pollSend_cases polled
  · exact .refl _
  · exact .replace found rfl

/-- What leaves the front of the sent queue was canceled before it was sent, or acknowledged. -/
theorem cleanSent_split {entries rest} (cleaned : s.cleanSent entries = .ok rest) :
    ∃ front, entries = front ++ rest ∧ ∀ sn, some sn ∈ front → s.isAcked sn = .ok true := by
  induction entries with
  | nil =>
    cases cleaned
    exact ⟨[], rfl, nofun⟩
  | cons entry entries ih =>
    cases entry with
    | none =>
      obtain ⟨front, split, acked⟩ := ih cleaned
      refine ⟨none :: front, by rw [split, cons_append], ?_⟩
      intro sn member
      cases mem_cons.mp member with
      | inl impossible => cases impossible
      | inr later => exact acked sn later
    | some sn =>
      obtain ⟨acknowledged, looked, cleaned⟩ := bind_ok.mp cleaned
      cases acknowledged with
      | false =>
        cases cleaned
        exact ⟨[], rfl, nofun⟩
      | true =>
        obtain ⟨front, split, acked⟩ := ih cleaned
        refine ⟨some sn :: front, by rw [split, cons_append], ?_⟩
        intro other member
        cases mem_cons.mp member with
        | inl same =>
          cases same
          exact looked
        | inr later => exact acked other later

/-- Entries of the window change, and what they no longer need is cleaned up. -/
structure Cleans (change : Nat → UnackedState Pkt → UnackedState Pkt → Prop) (s next : Sender Pkt) : Prop where
  settles : Settles change s next
  queue : next.queue = s.queue
  lastEnqueued : next.lastEnqueued = s.lastEnqueued
  sent : ∃ front, s.sent = front ++ next.sent ∧ ∀ sn, some sn ∈ front → next.isAcked sn = .ok true

theorem replace_cleans (reflexive : ∀ index entry, change index entry entry) (found : s.unacked[index]? = some old)
    (changed : change index old new)
    (cleaned : cleanSentQueue (if index = 0 then { s with unacked := s.unacked.set index new }.cleanUnackedQueue else
      { s with unacked := s.unacked.set index new }) = .ok next) :
    Cleans change s next := by
  have settles := replace_settles cleaned reflexive found changed
  obtain ⟨sent, clean, done⟩ := bind_ok.mp cleaned
  have split := cleanSent_split clean
  cases done
  refine ⟨settles, ?_, ?_, ?_⟩
  · split <;> rfl
  · split <;> rfl
  obtain ⟨front, same, acked⟩ := split
  refine ⟨front, ?_, acked⟩
  rw [← same]
  split <;> rfl

theorem Replaces.cleans {outcome} (replaces : Replaces outcome sn s next) :
    ∃ index, s.Holds sn index ∧ Cleans (fun i old new => (i = index ∧ outcome old new) ∨ old = new) s next := by
  obtain ⟨index, old, new, holds, found, changed, cleaned⟩ := replaces
  exact ⟨index, holds, replace_cleans (fun _ _ => .inr rfl) found (.inl ⟨rfl, changed⟩) cleaned⟩

theorem queue_length (s : Sender Pkt) : s.queue.length = s.blocked.length := length_map _

/-- Only the queue of packets and the notes about it change. -/
structure Requeues (s next : Sender Pkt) : Prop where
  retains : Retains s next
  unacked : next.unacked = s.unacked

theorem enqueuePacket_queued {id} (enqueued : s.enqueuePacket packet = (.queued id, next)) :
    Requeues s next ∧ next.queue = s.queue ++ [some packet] ∧ next.sent = s.sent ∧
      next.lastEnqueued = s.lastEnqueued + 1 ∧ id = s.lastEnqueued + 1 := by
  obtain queued | ⟨_, _, sent⟩ := s.enqueuePacket_cases packet
  · cases queued.symm.trans enqueued
    refine ⟨⟨.blocked s _ _, rfl⟩, ?_, rfl, rfl, rfl⟩
    rw [queue, map_append]
    rfl
  · cases sent.symm.trans enqueued

/-- A packet is sent at once if nothing is queued. -/
theorem enqueuePacket_sent {given} (enqueued : s.enqueuePacket packet = (.sent sn given, next)) :
    given = packet ∧ sn = next.lastSent ∧ Pushes s next packet ∧ s.queue = [] ∧ next.queue = [] ∧ next.sent = s.sent ∧
      next.lastEnqueued = s.lastEnqueued := by
  obtain queued | ⟨room, none, sent⟩ := s.enqueuePacket_cases packet
  · cases queued.symm.trans enqueued
  cases sent.symm.trans enqueued
  have empty : s.queue = [] := by rw [queue, none, map_nil]
  exact ⟨rfl, rfl, ⟨room, rfl, rfl, ⟨_, _, rfl⟩, ⟨0, [], .inl rfl, by simp⟩, rfl⟩, empty, empty, rfl, rfl⟩

theorem cleanBlockedQueue_requeues (s : Sender Pkt) :
    Requeues s s.cleanBlockedQueue ∧ s.cleanBlockedQueue.lastEnqueued = s.lastEnqueued ∧
      ∃ count, s.queue = replicate count none ++ s.cleanBlockedQueue.queue ∧
        s.cleanBlockedQueue.sent = s.sent ++ replicate count none := by
  obtain ⟨count, split, sent⟩ := cleanBlocked_split s.blocked s.sent
  refine ⟨⟨.unchanged rfl rfl rfl ⟨count, sent⟩ fun _ => Nat.le_refl _, rfl⟩, rfl, count, ?_, sent⟩
  have mapped := congrArg (map BlockedState.packet) split
  rw [map_append, map_replicate] at mapped
  exact mapped

theorem enqueueNextBlockedPacket_head {woken} (enqueued : s.enqueueNextBlockedPacket = .ok ((sn, packet), woken, next)) :
    ∃ middle, next = middle.cleanBlockedQueue ∧ Pushes s middle packet ∧ sn = middle.lastSent ∧
      s.queue = some packet :: middle.queue ∧ middle.sent = s.sent ++ [some middle.lastSent] ∧
      middle.lastEnqueued = s.lastEnqueued := by
  obtain ⟨waker, limit, rest, room, found, rfl, _, rfl⟩ := enqueueNextBlockedPacket_ok enqueued
  refine ⟨_, rfl, ⟨room, rfl, rfl, ⟨_, _, rfl⟩, ⟨0, _, .inr rfl, ?_⟩, rfl⟩, rfl, ?_, rfl, rfl⟩
  · rw [replicate_zero, append_nil]
  · rw [queue, found, map_cons]
    rfl

/-- The entry of a packet, by its number among the `n` packets sent so far. -/
def entryAt (s : Sender Pkt) (n item : Nat) : Option (UnackedState Pkt) :=
  if n ≤ item + s.unacked.length then s.unacked[item + s.unacked.length - n]? else none

section
variable {n item : Nat}

theorem entryAt_eq_none (old : item + s.unacked.length < n) : s.entryAt n item = none := get_eq_none old

theorem entryAt_of_index (index : Nat) (place : item + s.unacked.length = n + index) : s.entryAt n item = s.unacked[index]? :=
  get_of_index index place

theorem entryAt_cases (s : Sender Pkt) (below : item < n) :
    (item + s.unacked.length < n ∧ s.entryAt n item = none) ∨
      ∃ index entry, item + s.unacked.length = n + index ∧ s.unacked[index]? = some entry ∧ s.entryAt n item = some entry :=
  get_cases s.unacked below

theorem Settles.entryAt (settles : Settles change s next) (below : item < n) :
    (s.entryAt n item = none ∧ next.entryAt n item = none) ∨
      ∃ index old new, item + s.unacked.length = n + index ∧ s.entryAt n item = some old ∧ change index old new ∧
        (next.entryAt n item = some new ∨ next.entryAt n item = none ∧ new = .acked) := by
  obtain ⟨middle, front, split, acked, size, each⟩ := settles.moves
  have total : front.length + next.unacked.length = s.unacked.length := by
    rw [← size, split, length_append]
  obtain ⟨old, gone⟩ | ⟨index, entry, place, found, same⟩ := s.entryAt_cases below
  · exact .inl ⟨gone, entryAt_eq_none (by omega)⟩
  have inside : index < middle.length := size ▸ (lt_length found)
  refine .inr ⟨index, entry, middle[index], place, same, each index _ _ found (getElem?_eq_getElem inside), ?_⟩
  subst split
  by_cases dropped : index < front.length
  · rw [getElem_append_left dropped]
    exact .inr ⟨entryAt_eq_none (by omega), acked _ (getElem_mem dropped)⟩
  left
  rw [entryAt_of_index (index - front.length) (by omega), ← getElem?_append_right (Nat.not_lt.mp dropped)]
  exact getElem?_eq_getElem inside

theorem Pushes.entryAt (pushes : Pushes s next packet) :
    (∀ item < n, next.entryAt (n + 1) item = s.entryAt n item) ∧
      ∃ waker limit, next.entryAt (n + 1) n = some (.unacked packet waker limit 0 false) := by
  obtain ⟨waker, limit, entry⟩ := pushes.entry
  have same n item : next.entryAt n item = get (s.unacked ++ [.unacked packet waker limit 0 false]) n item := by
    rw [← entry]
    rfl
  constructor
  · intro item below
    rw [same]
    exact get_push below _
  refine ⟨waker, limit, ?_⟩
  rw [same]
  exact get_pushed _ _ _

variable (last : s.lastSent = BitVec.ofInt 64 (n - 1)) (small : n ≤ 2 ^ 63)
include last small

variable (below : item < n)
include below

theorem item_distance : Serial.distance (BitVec.ofInt 64 item) s.lastSent = item - (n - 1) := by
  rw [last, Serial.distance_ofInt (by decide) (by omega) (by omega)]

theorem holds_iff : s.Holds (BitVec.ofInt 64 item) index ↔ index < s.unacked.length ∧ item + s.unacked.length = n + index := by
  rw [Holds, item_distance last small below]
  omega

theorem sentIndex_number :
    s.sentIndex (BitVec.ofInt 64 item) =
      .ok (if item + s.unacked.length < n then none else some (item + s.unacked.length - n)) := by
  unfold sentIndex
  dsimp only
  rw [item_distance last small below, if_neg (by omega), neg64_returns (by omega), ok_bind]
  split
  · rw [if_pos (by omega)]
    rfl
  rw [if_neg (by omega)]
  congr 2
  omega

theorem isAcked_iff :
    s.isAcked (BitVec.ofInt 64 item) = .ok true ↔ ∀ entry, s.entryAt n item = some entry → entry.isAcked = true := by
  unfold isAcked
  dsimp only
  rw [item_distance last small below, if_neg (by omega), neg64_returns (by omega), ok_bind]
  obtain ⟨old, gone⟩ | ⟨index, entry, place, present, same⟩ := s.entryAt_cases below
  · rw [if_pos (by omega), gone]
    exact iff_of_true rfl nofun
  rw [if_neg (by omega), show ((s.unacked.length : Int) + (item - (n - 1)) - 1).toNat = index by omega,
    get_ok.mpr present, ok_bind, same]
  constructor
  · intro acked other found
    cases found
    exact Except.ok.inj acked
  · intro acked
    exact congrArg Except.ok (acked entry rfl)

theorem pollAck_ready (polled : s.pollAck waker (BitVec.ofInt 64 item) = .ok (.ready (), next)) :
    next = s ∧ ∀ entry, s.entryAt n item = some entry → entry.isAcked = true := by
  unfold pollAck at polled
  dsimp only at polled
  rw [item_distance last small below] at polled
  obtain ⟨_, _, polled⟩ := bind_ok.mp polled
  rw [neg64_returns (by omega), ok_bind] at polled
  obtain ⟨old, gone⟩ | ⟨index, entry, place, present, same⟩ := s.entryAt_cases below
  · rw [if_pos (by omega)] at polled
    cases polled
    rw [gone]
    exact ⟨rfl, nofun⟩
  · rw [if_neg (by omega), show ((s.unacked.length : Int) + (item - (n - 1)) - 1).toNat = index by omega,
      get_ok.mpr present, ok_bind] at polled
    rw [same]
    split at polled
    · rename_i acked
      cases polled
      refine ⟨rfl, ?_⟩
      intro other found
      cases found
      exact acked
    · cases polled

theorem isCancelAcked_ok {canceled} (looked : s.isCancelAcked (BitVec.ofInt 64 item) = .ok canceled) :
    if canceled then s.entryAt n item = some .cancelAcked
    else ∀ entry, s.entryAt n item = some entry → entry = .acked := by
  unfold isCancelAcked at looked
  dsimp only at looked
  rw [item_distance last small below] at looked
  obtain ⟨_, _, looked⟩ := bind_ok.mp looked
  rw [neg64_returns (by omega), ok_bind] at looked
  obtain ⟨old, gone⟩ | ⟨index, entry, place, present, same⟩ := s.entryAt_cases below
  · rw [if_pos (by omega)] at looked
    cases looked
    rw [gone]
    exact nofun
  · rw [if_neg (by omega), show ((s.unacked.length : Int) + (item - (n - 1)) - 1).toNat = index by omega,
      get_ok.mpr present, ok_bind] at looked
    rw [same]
    cases entry with
    | unacked | cancelRequested => cases looked
    | cancelAcked =>
      cases looked
      rfl
    | acked =>
      cases looked
      intro other found
      cases found
      rfl

end
end Sender
end ZprCore.Zdpr
