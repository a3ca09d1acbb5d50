import ZprCore.Mgmt.Handles
import ZprCore.Proofs.PacketTrail

/-! A register of the packets of a link, kept beside its sender whatever the peer answers. It
tells which packet a sequence number or the id of a queued packet belongs to, and which packets
linger: their entries stay in the window, once they are canceled, until they are forgotten. If
the peer can be relied on, the entry of a packet also tells whether the peer has processed it. -/

open List

open Nat

open Recent

namespace ZprCore.Zdpr
variable {Pkt : Type} {new : UnackedState Pkt}

namespace UnackedState

/-- A cancellation of the packet stays until it is forgotten. -/
def lingers : UnackedState Pkt → Bool
  | .unacked _ _ retryLimit _ forgotten => retryLimit.isSome && !forgotten
  | .cancelRequested _ forgotten => !forgotten
  | .acked => false
  | .cancelAcked => true

theorem forget_lingers (entry : UnackedState Pkt) : entry.forget.lingers = false := by
  cases entry with
  | unacked packet waker retryLimit retryCount forgotten => cases retryLimit <;> rfl
  | cancelRequested | acked | cancelAcked => rfl

theorem setWaker_lingers (waker : Waker) (entry : UnackedState Pkt) : (entry.setWaker waker).lingers = entry.lingers := by
  cases entry <;> rfl

theorem ageRetries_lingers (entry : UnackedState Pkt) : entry.ageRetries.2.lingers = entry.lingers := by
  cases entry with
  | unacked packet waker retryLimit retryCount forgotten =>
    cases retryLimit with
    | none => rfl
    | some limit =>
      simp only [ageRetries]
      split <;> rfl
  | cancelRequested | acked | cancelAcked => rfl

end UnackedState

/-- The entry of a packet tells whether the peer has heard of it. -/
def Tracks (heard : Prop) : Option (UnackedState Pkt) → Prop
  | none => heard
  | some entry => entry.forgotten = false ∧ (entry = .acked → heard)

theorem Proceeds.tracks {old} (proceeds : Proceeds old new) (heard : Prop) (unforgotten : old.forgotten = false) :
    new.forgotten = false ∧ (new = .acked → old = .acked ∨ heard) := by
  refine ⟨proceeds.forgotten.trans unforgotten, ?_⟩
  rintro rfl
  exact .inl (proceeds.isAcked rfl)

namespace Sender
variable {s next : Sender Pkt}

theorem age_settles (s : Sender Pkt) :
    Settles (fun _ old new => new = old.ageRetries.2) s (s.ageRetries s.unacked.length).2 := by
  refine ⟨rfl, rfl, _, [], rfl, nofun, (age_each s _).1, ?_⟩
  intro index old new found same
  rw [(age_each s _).2 index old new found same, if_pos (Panic.lt_length found)]

section
variable {change} (settles : Settles change s next) {n item : Nat}
  (below : item < n)
include settles below

theorem Settles.tracks {heard} (tracks : Tracks heard (s.entryAt n item))
    (keeps : ∀ index old new, item + s.unacked.length = n + index → change index old new → old.forgotten = false →
      new.forgotten = false ∧ (new = .acked → old = .acked ∨ heard)) : Tracks heard (next.entryAt n item) := by
  obtain ⟨gone, gone'⟩ | ⟨index, old, new, place, found, changed, stays⟩ := settles.entryAt below
  · rw [gone] at tracks
    rwa [gone']
  rw [found] at tracks
  obtain ⟨unforgotten, acked⟩ := tracks
  obtain ⟨kept, ends⟩ := keeps index old new place changed unforgotten
  have processed (same : new = .acked) : heard := (ends same).elim acked id
  obtain stays | ⟨leaves, same⟩ := stays
  · rw [stays]
    exact ⟨kept, processed⟩
  · rw [leaves]
    exact processed same

/-- A cancellation is noticed through the entry it changes. -/
theorem Settles.uncanceled (uncanceled : s.entryAt n item ≠ some .cancelAcked)
    (keeps : ∀ index old, item + s.unacked.length = n + index → change index old .cancelAcked → old = .cancelAcked) :
    next.entryAt n item ≠ some .cancelAcked := by
  intro canceled
  obtain ⟨_, gone⟩ | ⟨index, old, new, place, found, changed, stays | ⟨leaves, _⟩⟩ := settles.entryAt below
  · cases gone.symm.trans canceled
  · cases stays.symm.trans canceled
    exact uncanceled (found.trans (congrArg some (keeps index old place changed)))
  · cases leaves.symm.trans canceled

end

theorem Tends.cleans (tends : Tends s next) : Cleans (fun _ => Proceeds) s next :=
  ⟨tends.settles, tends.queue, tends.lastEnqueued, [], tends.sent.symm, nofun⟩

theorem replace_suffix {index}
    (cleaned : cleanSentQueue (if index = 0 then { s with unacked := s.unacked.set index new }.cleanUnackedQueue else { s with unacked := s.unacked.set index new }) = .ok next) :
    ∃ front, s.unacked.set index new = front ++ next.unacked := by
  obtain ⟨sent, rfl⟩ := cleanSentQueue_ok cleaned
  split
  · obtain ⟨front, split, _⟩ := cleanUnacked_drops (s.unacked.set index new)
    exact ⟨front, split⟩
  · exact ⟨[], rfl⟩

theorem enqueuePacket_entry {packet given sn} (enqueued : s.enqueuePacket packet = (.sent sn given, next)) :
    next.unacked = s.unacked ++ [.unacked packet .noop none 0 false] ∧ next.blocked = s.blocked := by
  obtain queued | ⟨_, _, sent⟩ := s.enqueuePacket_cases packet
  · cases queued.symm.trans enqueued
  · cases sent.symm.trans enqueued
    exact ⟨rfl, rfl⟩

theorem enqueueNextBlockedPacket_entry {sn packet woken}
    (enqueued : s.enqueueNextBlockedPacket = .ok ((sn, packet), woken, next)) :
    ∃ waker limit, .blocked packet waker limit ∈ s.blocked ∧
      next.unacked = s.unacked ++ [.unacked packet .noop limit 0 false] ∧ ∀ entry ∈ next.blocked, entry ∈ s.blocked := by
  obtain ⟨waker, limit, rest, _, found, _, _, rfl⟩ := enqueueNextBlockedPacket_ok enqueued
  refine ⟨waker, limit, found ▸ mem_cons_self, rfl, ?_⟩
  intro entry member
  obtain ⟨count, split, _⟩ := cleanBlocked_split rest (s.sent ++ [some (s.lastSent + 1)])
  rw [found, split]
  exact mem_cons_of_mem _ (mem_append_right _ member)

end Sender
end ZprCore.Zdpr

namespace ZprCore.Mgmt
open Zdpr Zdpr.Sender Panic
variable {Pkt : Type}
variable {packets : List (Option (Tagged Pkt))}

def Precedes (one two : Option (Tagged Pkt)) : Prop :=
  ∀ first second, one = some first → two = some second → first.serial < second.serial

theorem same_place (ordered : packets.Pairwise Precedes) {i j : Nat} {one two} (first : packets[i]? = some (some one))
    (second : packets[j]? = some (some two)) (same : one.serial = two.serial) : i = j := by
  obtain ⟨inside, left⟩ := List.getElem?_eq_some_iff.mp first
  obtain ⟨inside', right⟩ := List.getElem?_eq_some_iff.mp second
  have ordered := pairwise_iff_getElem.mp ordered
  obtain less | equal | more := lt_trichotomy i j
  · have := ordered i j inside inside' less _ _ left right
    omega
  · exact equal
  · have := ordered j i inside' inside more _ _ right left
    omega

theorem ordered_set_none (ordered : packets.Pairwise Precedes) (index : Nat) :
    (packets.set index none).Pairwise Precedes := by
  rw [pairwise_iff_getElem] at ordered ⊢
  intro i j inside inside' less one two first second
  rw [length_set] at inside inside'
  rw [getElem_set] at first second
  split at first
  · cases first
  split at second
  · cases second
  · exact ordered i j inside inside' less one two first second

/-- What is known of the peer: the numbers it has heard of, if it can be relied on. -/
structure Peer where
  honest : Prop
  heard : Nat → Prop

/-- Packets by the numbers they were sent with, and how many were ever queued. -/
structure Register (Pkt : Type) where
  carried : List (Tagged Pkt)
  enqueued : Nat

namespace Register
variable {r r' : Register Pkt} {item serial : Nat}

section
variable (r : Register Pkt)

def Carries (item serial : Nat) : Prop := ∃ packet, r.carried[item]? = some ⟨serial, packet⟩

/-- A note about the packet. -/
def Leads (serial : Nat) : Note (Tagged Pkt) → Prop
  | .canceled => False
  | .sent sn => ∃ item : Nat, sn = BitVec.ofInt 64 item ∧ r.Carries item serial
  | .waiting packet => packet.serial = serial

/-- The packets in the order they were sent in, those in the queue last. -/
def line (s : Sender (Tagged Pkt)) : List (Option (Tagged Pkt)) := r.carried.map some ++ s.queue

def send (packet : Tagged Pkt) : Register Pkt := { r with carried := r.carried ++ [packet] }

/-- The packet was never sent and is not queued. -/
def Withholds (s : Sender (Tagged Pkt)) (serial : Nat) : Prop :=
  ∀ packet, some packet ∈ r.line s → packet.serial ≠ serial

def Delivered (p : Peer) (serial : Nat) : Prop := ∃ item, r.Carries item serial ∧ p.heard item

/-- The entries of the packet tell what the peer has heard of. -/
def Tracked (p : Peer) (s : Sender (Tagged Pkt)) (serial : Nat) : Prop :=
  ∀ item, r.Carries item serial → Tracks (p.heard item) (s.entryAt r.carried.length item)

end

/-- The id of a queued packet has not missed a cancellation. -/
structure Clear (r : Register Pkt) (p : Peer) (s : Sender (Tagged Pkt)) (serial k : Nat) : Prop where
  pruned : s.noteAt r.enqueued k = none → r.Delivered p serial
  uncanceled : ∀ item : Nat, s.noteAt r.enqueued k = some (.sent (BitVec.ofInt 64 item)) → r.Carries item serial →
    s.entryAt r.carried.length item ≠ some .cancelAcked

theorem line_queue (r : Register Pkt) (s : Sender (Tagged Pkt)) (index : Nat) :
    (r.line s)[r.carried.length + index]? = s.queue[index]? := by
  rw [line, getElem?_append_right (by rw [length_map]; exact Nat.le_add_right _ _), length_map,
    Nat.add_sub_cancel_left]

theorem send_length (r : Register Pkt) (packet : Tagged Pkt) : (r.send packet).carried.length = r.carried.length + 1 := by
  rw [send, length_append, length_singleton]

theorem send_prefix (r : Register Pkt) (packet : Tagged Pkt) : r.carried <+: (r.send packet).carried :=
  prefix_append _ _

theorem carried_new (r : Register Pkt) (packet : Tagged Pkt) : (r.send packet).carried[r.carried.length]? = some packet := by
  rw [send, getElem?_append_right (Nat.le_refl _), Nat.sub_self]
  rfl

theorem Carries.below (carries : r.Carries item serial) : item < r.carried.length := by
  obtain ⟨packet, found⟩ := carries
  exact lt_length found

section
variable (grows : r.carried <+: r'.carried)
include grows

theorem Carries.mono (carries : r.Carries item serial) : r'.Carries item serial := by
  obtain ⟨more, same⟩ := grows
  obtain ⟨packet, found⟩ := carries
  exact ⟨packet, by rw [← same, getElem?_append_left (lt_length found), found]⟩

theorem Carries.old (below : item < r.carried.length) (carries : r'.Carries item serial) : r.Carries item serial := by
  obtain ⟨more, same⟩ := grows
  obtain ⟨packet, found⟩ := carries
  exact ⟨packet, by rwa [← same, getElem?_append_left below] at found⟩

theorem Delivered.mono {p} (delivered : r.Delivered p serial) : r'.Delivered p serial := by
  obtain ⟨item, carries, heard⟩ := delivered
  exact ⟨item, carries.mono grows, heard⟩

theorem Leads.mono {note} (leads : r.Leads serial note) : r'.Leads serial note := by
  cases note with
  | canceled | waiting => exact leads
  | sent sn =>
    obtain ⟨item, same, carries⟩ := leads
    exact ⟨item, same, carries.mono grows⟩

end

/-- The serial number of a packet that lingers, or will if it is sent. -/
def Lingers (r : Register Pkt) (s : Sender (Tagged Pkt)) (serial : Nat) : Prop :=
  (∃ item entry, r.Carries item serial ∧ s.entryAt r.carried.length item = some entry ∧ entry.lingers = true) ∨
    ∃ packet waker limit, .blocked packet waker (some limit) ∈ s.blocked ∧ packet.serial = serial

end Register

/-- The register agrees with the sender. -/
structure Registers (r : Register Pkt) (s : Sender (Tagged Pkt)) (sends : Nat) : Prop where
  lastSent : s.lastSent = BitVec.ofInt 64 (r.carried.length - 1)
  window : s.unacked.length ≤ r.carried.length
  lastEnqueued : s.lastEnqueued = BitVec.ofInt 64 (r.enqueued - 1)
  trail : s.trail.length ≤ r.enqueued
  ordered : (r.line s).Pairwise Precedes
  counted : ∀ packet, some packet ∈ r.line s → packet.serial < sends
  few : r.carried.length + s.queue.length ≤ sends
  queued : r.enqueued ≤ sends
  entries : ∀ item packet waker limit count forgotten, item < r.carried.length →
    s.entryAt r.carried.length item = some (.unacked packet waker limit count forgotten) → r.carried[item]? = some packet

/-- The id of a future leads to its packet, as far as the queues still have it. -/
inductive Stands (p : Peer) (r : Register Pkt) (s : Sender (Tagged Pkt)) (serial : Nat) : PacketId → Prop where
  | queued {k} (below : k < r.enqueued) (leads : ∀ note, s.noteAt r.enqueued k = some note → r.Leads serial note)
      (tracked : p.honest → r.Tracked p s serial) (clear : p.honest → r.Clear p s serial k) :
      Stands p r s serial (.queued (BitVec.ofInt 64 k))
  | sent {item} (carries : r.Carries item serial) (tracked : p.honest → r.Tracked p s serial) :
      Stands p r s serial (.sent (BitVec.ofInt 64 item))
  | acked (delivered : p.honest → r.Delivered p serial) : Stands p r s serial .acked
  | canceled (withholds : r.Withholds s serial) : Stands p r s serial .canceled

/-- The register grows. Futures of the packets known so far keep them, except for some, and no
packet lingers that did not before, except for some. -/
structure Advances (p : Peer) (sends : Nat) (touched : Nat → Prop) (but : Nat → PacketId → Prop) (r : Register Pkt)
    (s : Sender (Tagged Pkt)) (r' : Register Pkt) (s' : Sender (Tagged Pkt)) : Prop where
  carried : r.carried <+: r'.carried
  line : ∀ packet, some packet ∈ r'.line s' → some packet ∈ r.line s ∨ sends ≤ packet.serial
  lingers : ∀ serial, ¬ touched serial → r'.Lingers s' serial → r.Lingers s serial
  stands : ∀ serial packetId, serial < sends → ¬ but serial packetId → Stands p r s serial packetId →
    Stands p r' s' serial packetId

/-- Futures keep their packets, and no packet begins to linger. -/
abbrev Continues (p : Peer) (sends : Nat) (r : Register Pkt) (s : Sender (Tagged Pkt)) (r' : Register Pkt)
    (s' : Sender (Tagged Pkt)) : Prop :=
  Advances p sends (fun _ => False) (fun _ _ => False) r s r' s'

abbrev Upholds (p : Peer) (sends : Nat) (r : Register Pkt) (s next : Sender (Tagged Pkt)) : Prop :=
  Registers r next sends ∧ Continues p sends r s r next

section
variable {p : Peer} {r r' r'' : Register Pkt} {s next s' s''} {sends sends' serial : Nat}
  {touched : Nat → Prop} {but} {packet : Tagged Pkt} {packetId : PacketId}
variable {sn : SeqNum} {id : QueuedPacketId}

namespace Advances

theorem refl (p : Peer) (sends : Nat) (touched : Nat → Prop) (but) (r : Register Pkt)
    (s : Sender (Tagged Pkt)) : Advances p sends touched but r s r s :=
  ⟨prefix_rfl, fun _ => .inl, fun _ _ => id, fun _ _ _ _ => id⟩

theorem trans (first : Advances p sends touched but r s r' s') (second : Advances p sends touched but r' s' r'' s'') :
    Advances p sends touched but r s r'' s'' := by
  refine ⟨first.carried.trans second.carried, ?_, ?_, ?_⟩
  · intro packet member
    obtain before | fresh := second.line packet member
    · exact first.line packet before
    · exact .inr fresh
  · intro serial other lingers
    exact first.lingers serial other (second.lingers serial other lingers)
  · intro serial packetId known other stands
    exact second.stands serial packetId known other (first.stands serial packetId known other stands)

theorem mono {touched' but'} (advances : Advances p sends touched but r s r' s')
    (wider : ∀ serial, touched serial → touched' serial) (more : ∀ serial packetId, but serial packetId → but' serial packetId) :
    Advances p sends touched' but' r s r' s' :=
  ⟨advances.carried, advances.line, fun serial other => advances.lingers serial fun excused => other (wider serial excused),
    fun serial packetId known other => advances.stands serial packetId known fun excused => other (more serial packetId excused)⟩

end Advances

theorem Registers.small (registers : Registers r s sends) (few : sends ≤ 2 ^ 63) : r.carried.length ≤ 2 ^ 63 :=
  le_trans (le_trans (le_add_right _ _) registers.few) few

theorem Stands.number (stands : Stands p r s serial (.sent sn)) :
    ∃ item : Nat, sn = BitVec.ofInt 64 item ∧ r.Carries item serial := by
  cases stands with
  | sent carries => exact ⟨_, rfl, carries⟩

theorem Stands.hears (stands : Stands p r s serial packetId) {heard} (more : ∀ item, p.heard item → heard item) :
    Stands ⟨p.honest, heard⟩ r s serial packetId := by
  have tracked (tracked : r.Tracked p s serial) : r.Tracked ⟨p.honest, heard⟩ s serial := by
    intro item carries
    have tracks := tracked item carries
    cases found : s.entryAt r.carried.length item with
    | none =>
      rw [found] at tracks
      exact more item tracks
    | some entry =>
      rw [found] at tracks
      exact ⟨tracks.1, fun acked => more item (tracks.2 acked)⟩
  have delivered (delivered : r.Delivered p serial) : r.Delivered ⟨p.honest, heard⟩ serial := by
    obtain ⟨item, carries, known⟩ := delivered
    exact ⟨item, carries, more item known⟩
  cases stands with
  | queued below leads tracks clear =>
    exact .queued below leads (fun honest => tracked (tracks honest)) fun honest =>
      ⟨fun gone => delivered ((clear honest).pruned gone), (clear honest).uncanceled⟩
  | sent carries tracks => exact .sent carries fun honest => tracked (tracks honest)
  | acked known => exact .acked fun honest => delivered (known honest)
  | canceled withholds => exact .canceled withholds

section
variable {change}

theorem Register.Lingers.settles (settles : Settles change s next)
    (blocked : ∀ packet waker limit, .blocked packet waker (some limit) ∈ next.blocked → packet.serial = serial →
      ∃ waker limit, .blocked packet waker (some limit) ∈ s.blocked)
    (quiet : ∀ item index old new, item + s.unacked.length = r.carried.length + index → r.Carries item serial →
      change index old new → new.lingers = true → old.lingers = true)
    (lingers : r.Lingers next serial) : r.Lingers s serial := by
  obtain ⟨item, entry, carries, found, lingers⟩ | ⟨packet, waker, limit, member, same⟩ := lingers
  · obtain ⟨_, gone⟩ | ⟨index, old, new, place, present, changed, stays | ⟨leaves, _⟩⟩ := settles.entryAt carries.below
    · cases gone.symm.trans found
    · cases stays.symm.trans found
      exact .inl ⟨item, old, carries, present, quiet item index old entry place carries changed lingers⟩
    · cases leaves.symm.trans found
  · obtain ⟨waker, limit, before⟩ := blocked packet waker limit member same
    exact .inr ⟨packet, waker, limit, before, same⟩

/-- A change of entries that keeps packets. A future's packet is not forgotten by it, and the future
notices a cancellation. -/
structure Benign (p : Peer) (but : Nat → PacketId → Prop) (r : Register Pkt) (s : Sender (Tagged Pkt))
    (change : Nat → UnackedState (Tagged Pkt) → UnackedState (Tagged Pkt) → Prop) : Prop where
  keeps : ∀ index old packet waker limit count forgotten, change index old (.unacked packet waker limit count forgotten) →
    ∃ waker limit count forgotten, old = .unacked packet waker limit count forgotten
  tracks : p.honest → ∀ serial packetId, ¬ but serial packetId → ∀ item index old new, r.Carries item serial →
    item + s.unacked.length = r.carried.length + index → change index old new → old.forgotten = false →
      new.forgotten = false ∧ (new = .acked → old = .acked ∨ p.heard item)
  notices : p.honest → ∀ serial (k item : Nat) index old, ¬ but serial (.queued (BitVec.ofInt 64 k)) → k < r.enqueued →
    s.noteAt r.enqueued k = some (.sent (BitVec.ofInt 64 item)) → item < r.carried.length →
    item + s.unacked.length = r.carried.length + index → change index old .cancelAcked → old = .cancelAcked

variable (registers : Registers r s sends) (few : sends ≤ 2 ^ 63) (cleaned : Cleans change s next)
  (benign : Benign p but r s change)
include registers few cleaned benign

omit few in
/-- Entries of the window change, and the oldest of what the queues know is forgotten. -/
theorem Registers.cleans : Registers r next sends where
  lastSent := cleaned.settles.lastSent.trans registers.lastSent
  window := le_trans cleaned.settles.shorter registers.window
  lastEnqueued := cleaned.lastEnqueued.trans registers.lastEnqueued
  trail := by
    obtain ⟨front, split⟩ := cleaned.trail
    have fits := registers.trail
    rw [split, length_append] at fits
    omega
  ordered := by
    rw [Register.line, cleaned.queue]
    exact registers.ordered
  counted := by
    rw [Register.line, cleaned.queue]
    exact registers.counted
  few := by
    rw [cleaned.queue]
    exact registers.few
  queued := registers.queued
  entries item packet waker limit count forgotten below found := by
    obtain ⟨_, gone⟩ | ⟨index, old, new, _, present, changed, stays | ⟨leaves, _⟩⟩ := cleaned.settles.entryAt below
    · cases gone.symm.trans found
    · cases stays.symm.trans found
      obtain ⟨_, _, _, _, rfl⟩ := benign.keeps _ _ _ _ _ _ _ changed
      exact registers.entries item packet _ _ _ _ below present
    · cases leaves.symm.trans found

theorem Stands.cleans (stands : Stands p r s serial packetId) (other : ¬ but serial packetId) :
    Stands p r next serial packetId := by
  have tracks honest (tracked : r.Tracked p s serial) : r.Tracked p next serial := fun item carries =>
    cleaned.settles.tracks carries.below (tracked item carries) fun index old new =>
      benign.tracks honest serial packetId other item index old new carries
  cases stands with
  | @queued k below leads tracked clear =>
    obtain ⟨front, split⟩ := cleaned.trail
    have noted {note} (found : next.noteAt r.enqueued k = some note) : s.noteAt r.enqueued k = some note :=
      get_suffix split below found
    have unseen (honest : p.honest) {item : Nat} (found : s.noteAt r.enqueued k = some (.sent (BitVec.ofInt 64 item)))
        (carries : r.Carries item serial) : next.entryAt r.carried.length item ≠ some .cancelAcked :=
      cleaned.settles.uncanceled carries.below ((clear honest).uncanceled item found carries) fun index old =>
        benign.notices honest serial k item index old other below found carries.below
    refine .queued below (fun note found => leads note (noted found)) (fun honest => tracks honest (tracked honest))
      fun honest => ⟨?_, fun item found => unseen honest (noted found)⟩
    intro gone
    obtain before | canceled | ⟨sn, sent, acked⟩ := cleaned.dropped below gone
    · exact (clear honest).pruned before
    · exact (leads _ canceled).elim
    -- The sent queue has just dropped this packet, so its entry is acknowledged.
    obtain ⟨item, rfl, carries⟩ := leads _ sent
    have kept := tracks honest (tracked honest) item carries
    have last := cleaned.settles.lastSent.trans registers.lastSent
    have settled := (isAcked_iff last (registers.small few) carries.below).mp acked
    refine ⟨item, carries, ?_⟩
    cases found : next.entryAt r.carried.length item with
    | none => rwa [found] at kept
    | some entry =>
      rw [found] at kept
      cases entry with
      | acked => exact kept.2 rfl
      | cancelAcked => exact absurd found (unseen honest sent carries)
      | unacked | cancelRequested => cases settled _ found
  | sent carries tracked => exact .sent carries fun honest => tracks honest (tracked honest)
  | acked delivered => exact .acked delivered
  | canceled withholds =>
    refine .canceled ?_
    rw [Register.Withholds, Register.line, cleaned.queue]
    exact withholds

theorem Registers.advance (lingers : ∀ serial, ¬ touched serial → r.Lingers next serial → r.Lingers s serial) :
    Registers r next sends ∧ Advances p sends touched but r s r next := by
  refine ⟨registers.cleans cleaned benign, prefix_rfl, ?_, lingers, ?_⟩
  · intro packet member
    rw [Register.line, cleaned.queue] at member
    exact .inl member
  · intro serial packetId _ other stands
    exact stands.cleans registers few cleaned benign other

theorem Registers.answer (blocked : next.blocked = s.blocked)
    (quiet : ∀ index old new, change index old new → new.lingers = true → old.lingers = true) :
    Registers r next sends ∧ Advances p sends (fun _ => False) but r s r next := by
  refine registers.advance few cleaned benign fun serial _ lingers => ?_
  exact lingers.settles cleaned.settles (fun _ _ _ member _ => ⟨_, _, blocked ▸ member⟩)
    fun _ index old new _ _ => quiet index old new

end

/-- Neither the window size nor the statistics matter. -/
theorem Registers.reset (registers : Registers r s sends) (windowSize : Nat) (stats : SenderStat → Nat) :
    Upholds p sends r s { s with windowSize, stats } := by
  refine ⟨⟨registers.lastSent, registers.window, registers.lastEnqueued, registers.trail, registers.ordered, registers.counted,
    registers.few, registers.queued, registers.entries⟩, prefix_rfl, fun _ => .inl, fun _ _ => id, ?_⟩
  intro serial packetId _ _ stands
  cases stands with
  | queued below leads tracked clear =>
    exact .queued below leads tracked fun honest => ⟨(clear honest).pruned, (clear honest).uncanceled⟩
  | sent carries tracked => exact .sent carries tracked
  | acked delivered => exact .acked delivered
  | canceled withholds => exact .canceled withholds

section
variable (registers : Registers r s sends) (few : sends ≤ 2 ^ 63) {waker : Waker} {item : Nat}
include registers few

theorem Registers.tends (tends : Tends s next)
    (lingers : ∀ serial, ¬ touched serial → r.Lingers next serial → r.Lingers s serial) :
    Registers r next sends ∧ Advances p sends touched but r s r next := by
  refine registers.advance few tends.cleans ⟨?_, ?_, ?_⟩ lingers
  · intro _ _ _ _ _ _ _ proceeds
    exact proceeds.unacked rfl
  · intro _ _ _ _ item _ _ _ _ _ proceeds
    exact proceeds.tracks (p.heard item)
  · intro _ _ _ _ _ _ _ _ _ _ _ proceeds
    exact proceeds.isAcked rfl

theorem Registers.age : Upholds p sends r s (s.ageRetries s.unacked.length).2 := by
  refine registers.tends few (.age s) fun serial _ lingers => lingers.settles s.age_settles (fun _ _ _ member _ => ⟨_, _, member⟩) ?_
  intro item index old new _ _ same lingers
  rwa [same, old.ageRetries_lingers] at lingers

theorem Registers.pollAck {sn poll} (polled : s.pollAck waker sn = .ok (poll, next)) : Upholds p sends r s next := by
  refine registers.tends few ((pollAck_edits polled).tends (UnackedState.setWaker_proceeds · waker)) fun serial _ lingers => ?_
  obtain rfl | ⟨index, entry, _, found, rfl⟩ := pollAck_edits polled
  · exact lingers
  have settles : Settles (fun _ old new => new = old.setWaker waker ∨ old = new) s
      { s with unacked := s.unacked.set index (entry.setWaker waker) } :=
    ⟨rfl, rfl, .set (fun _ _ => .inr rfl) found (.inl rfl)⟩
  refine lingers.settles settles (fun _ _ _ member _ => ⟨_, _, member⟩) ?_
  rintro item i old new _ _ (rfl | rfl) lingers
  · rwa [old.setWaker_lingers] at lingers
  · exact lingers

theorem Registers.pollSend {id poll} (polled : s.pollSend waker id = .ok (poll, next)) : Upholds p sends r s next := by
  refine registers.tends few (pollSend_tends polled) fun serial _ lingers => ?_
  obtain ⟨_, _, _, rfl⟩ | ⟨index, given, old, limit', _, found, _, rfl⟩ := pollSend_cases polled
  · exact lingers
  have settles : Settles (fun _ => Eq) s { s with blocked := s.blocked.set index (.blocked given waker limit') } :=
    ⟨rfl, rfl, .refl fun _ _ => rfl⟩
  refine lingers.settles settles ?_ ?_
  · intro packet waker' limit member _
    obtain before | same := mem_or_eq_of_mem_set member
    · exact ⟨_, _, before⟩
    · cases same
      exact ⟨_, _, mem_of_getElem? found⟩
  · rintro item index old new _ _ rfl lingers
    exact lingers

theorem Registers.edits {edit} (carries : r.Carries item serial)
    (edits : Edits edit (BitVec.ofInt 64 item) s next) (proceeds : ∀ entry, Proceeds entry (edit entry)) :
    Registers r next sends ∧ Advances p sends (· = serial) (fun _ _ => False) r s r next := by
  obtain rfl | ⟨index, entry, holds, found, rfl⟩ := edits
  · exact ⟨registers, .refl _ _ _ _ _ _⟩
  have settles : Settles (fun i old new => (i = index ∧ new = edit old) ∨ old = new) s
      { s with unacked := s.unacked.set index (edit entry) } :=
    ⟨rfl, rfl, .set (fun _ _ => .inr rfl) found (.inl ⟨rfl, rfl⟩)⟩
  refine registers.tends few (.set found (proceeds entry)) fun serial' other lingers => ?_
  refine lingers.settles settles (fun _ _ _ member _ => ⟨_, _, member⟩) ?_
  rintro place i old new at' carries' (⟨rfl, rfl⟩ | rfl) lingers
  · have here := ((holds_iff registers.lastSent (registers.small few) carries.below).mp holds).2
    obtain rfl : place = item := by omega
    obtain ⟨_, one⟩ := carries
    obtain ⟨_, two⟩ := carries'
    cases one.symm.trans two
    exact absurd rfl other
  · exact lingers

/-- A cancellation is not noticed by a future that still has the id of a queued packet. -/
theorem Registers.processAcknowledgement {sn isCanceled}
    (genuine : p.honest → isCanceled = false → ∀ item, item < r.carried.length → sn = BitVec.ofInt 64 item → p.heard item)
    (processed : processAcknowledgement s sn isCanceled = .ok next) :
    Registers r next sends ∧ Advances p sends (fun _ => False) (fun _ packetId => p.honest ∧ isCanceled = true ∧
      ∃ id, packetId = .queued id ∧ s.lookupSeqNum id = .ok (some sn)) r s r next := by
  have numbered {item index} (holds : s.Holds sn index) (place : item + s.unacked.length = r.carried.length + index) :
      sn = BitVec.ofInt 64 item := by
    rw [holds.sn_eq, seqNumAt_ofInt registers.lastSent]
    congr 1
    omega
  cases isCanceled with
  | false =>
    obtain ⟨⟨packet, woken, last⟩, acked, done⟩ := bind_ok.mp processed
    cases done
    obtain ⟨_, _, stats, rfl⟩ | ⟨_, _, replaces⟩ := processAck_cases acked
    · exact (registers.reset s.windowSize stats).imp_right (·.mono nofun nofun)
    obtain ⟨index, holds, cleans⟩ := replaces.cleans
    refine registers.answer few cleans ⟨?_, ?_, ?_⟩ replaces.blocked ?_
    · rintro i old packet waker limit count forgotten (⟨_, _, impossible⟩ | rfl)
      · cases impossible
      · exact ⟨_, _, _, _, rfl⟩
    · rintro honest serial packetId _ item i old new carries place (⟨rfl, _, rfl⟩ | rfl) unforgotten
      · exact ⟨rfl, fun _ => .inr (genuine honest rfl item carries.below (numbered holds place))⟩
      · exact ⟨unforgotten, .inl⟩
    · rintro honest serial k item i old _ _ _ _ _ (⟨_, _, impossible⟩ | same)
      · cases impossible
      · exact same
    rintro i old new (⟨_, _, rfl⟩ | rfl) lingers
    · cases lingers
    · exact lingers
  | true =>
    obtain ⟨⟨woken, last⟩, canceled, done⟩ := bind_ok.mp processed
    cases done
    obtain ⟨_, stats, rfl⟩ | ⟨_, _, replaces⟩ := processCanceled_cases canceled
    · exact (registers.reset s.windowSize stats).imp_right (·.mono nofun nofun)
    obtain ⟨index, holds, cleans⟩ := replaces.cleans
    refine registers.answer few cleans ⟨?_, ?_, ?_⟩ replaces.blocked ?_
    · rintro i old packet waker limit count forgotten (⟨_, _, _, impossible⟩ | rfl)
      · split at impossible <;> cases impossible
      · exact ⟨_, _, _, _, rfl⟩
    · rintro honest serial packetId _ item i old new carries place (⟨rfl, forgotten, rfl, rfl⟩ | rfl) unforgotten
      · obtain rfl : forgotten = false := unforgotten
        exact ⟨rfl, nofun⟩
      · exact ⟨unforgotten, .inl⟩
    · rintro honest serial k item i old other below noted below' place (⟨rfl, _⟩ | same)
      · refine absurd ⟨honest, rfl, _, rfl, ?_⟩ other
        have small := le_trans registers.queued few
        have left : k + s.blocked.length < r.enqueued := by
          refine not_le.mp fun waits => ?_
          obtain ⟨_, _, found, _, noted'⟩ := noteAt_waiting below waits
          cases found <;> cases noted.symm.trans noted'
        rw [lookupSeqNum_left registers.lastEnqueued small below left, noted, numbered holds place]
        rfl
      · exact same
    · rintro i old new (⟨_, forgotten, rfl, rfl⟩ | rfl) lingers
      · cases forgotten <;> exact lingers
      · exact lingers

omit few in
theorem Registers.unique (carries : r.Carries item serial) :
    (∀ other, r.Carries other serial → other = item) ∧ ∀ packet, some packet ∈ s.queue → packet.serial ≠ serial := by
  have place {other : Nat} {packet} (found : r.carried[other]? = some packet) :
      (r.line s)[other]? = some (some packet) := by
    have inside := lt_length found
    rw [Register.line, getElem?_append_left (by rwa [length_map]), getElem?_map, found]
    rfl
  obtain ⟨given, found⟩ := carries
  constructor
  · intro other ⟨packet, present⟩
    exact same_place registers.ordered (place present) (place found) rfl
  intro packet member same
  obtain ⟨index, queued⟩ := mem_iff_getElem?.mp member
  have equal := same_place registers.ordered (place found) ((r.line_queue s index).trans queued) same.symm
  have inside := lt_length found
  omega

omit registers few in
theorem mem_queue {packet limit} (member : .blocked packet waker limit ∈ s.blocked) :
    some packet ∈ s.queue := mem_map.mpr ⟨_, member, rfl⟩

theorem Registers.forget (carries : r.Carries item serial)
    (forgotten : s.forgetCanceledPacket (BitVec.ofInt 64 item) = .ok next) :
    (Registers r next sends ∧ Advances p sends (fun _ => False) (fun other _ => other = serial) r s r next) ∧
      ¬ r.Lingers next serial := by
  have small := registers.small few
  obtain ⟨others, unqueued⟩ := registers.unique carries
  have silent {after : Sender (Tagged Pkt)} (queue : after.queue = s.queue)
      (entry : ∀ entry, after.entryAt r.carried.length item = some entry → entry.lingers = false) : ¬ r.Lingers after serial := by
    rintro (⟨other, entry', carries', found, lingers⟩ | ⟨packet, waker, limit, member, same⟩)
    · cases others other carries'
      cases (entry _ found).symm.trans lingers
    · exact unqueued packet (queue ▸ mem_queue member) same
  have blocked := forgetCanceledPacket_blocked forgotten
  obtain ⟨found, looked, done⟩ := bind_ok.mp forgotten
  rw [sentIndex_number registers.lastSent small carries.below] at looked
  split at looked
  · next old =>
    cases looked
    cases done
    refine ⟨⟨registers, .refl _ _ _ _ _ _⟩, silent rfl ?_⟩
    rw [entryAt_eq_none old]
    exact nofun
  · cases looked
    obtain ⟨entry, present, cleaned⟩ := bind_ok.mp done
    have cleans : Cleans (fun i old new => (i = item + s.unacked.length - r.carried.length ∧ new = old.forget) ∨ old = new) s next :=
      replace_cleans (fun _ _ => .inr rfl) (get_ok.mp present) (.inl ⟨rfl, rfl⟩) cleaned
    refine ⟨registers.answer few cleans ⟨?_, ?_, ?_⟩ blocked ?_, silent cleans.queue ?_⟩
    · rintro i old packet waker limit count forgotten (⟨_, same⟩ | rfl)
      · exact UnackedState.forget_unacked same.symm
      · exact ⟨_, _, _, _, rfl⟩
    · rintro honest serial' packetId other place i old new carries' at' (⟨rfl, _⟩ | rfl) unforgotten
      · obtain rfl : place = item := by omega
        obtain ⟨_, one⟩ := carries
        obtain ⟨_, two⟩ := carries'
        cases one.symm.trans two
        exact absurd rfl other
      · exact ⟨unforgotten, .inl⟩
    · rintro honest serial' k place i old _ _ _ _ _ (⟨_, canceled⟩ | same)
      · exact absurd canceled.symm (UnackedState.forget_ne_cancelAcked old)
      · exact same
    · rintro i old new (⟨_, rfl⟩ | rfl) lingers
      · cases old.forget_lingers.symm.trans lingers
      · exact lingers
    · intro entry' found
      obtain ⟨front, split⟩ := replace_suffix cleaned
      have before := get_suffix split carries.below found
      obtain ⟨_, same⟩ | ⟨elsewhere, _⟩ := get_set s.unacked carries.below _ entry.forget
      · cases same.symm.trans before
        exact entry.forget_lingers
      · omega

end

theorem Stands.carry (stands : Stands p r s serial packetId) (grows : r.carried <+: r'.carried)
    (enqueued : r.enqueued ≤ r'.enqueued) (small : r'.carried.length ≤ 2 ^ 63)
    (entries : ∀ item < r.carried.length, next.entryAt r'.carried.length item = s.entryAt r.carried.length item)
    (fresh : ∀ item packet, r.carried.length ≤ item → r'.carried[item]? = some packet →
      ∃ waker limit, next.entryAt r'.carried.length item = some (.unacked packet waker limit 0 false))
    (withholds : r.Withholds s serial → r'.Withholds next serial)
    (notes : ∀ k < r.enqueued, packetId = .queued (BitVec.ofInt 64 k) →
      (∀ note, s.noteAt r.enqueued k = some note → r.Leads serial note) →
      next.noteAt r'.enqueued k = s.noteAt r.enqueued k ∨ ∃ packet, ∃ item : Nat, s.noteAt r.enqueued k = some (.waiting packet) ∧
        next.noteAt r'.enqueued k = some (.sent (BitVec.ofInt 64 item)) ∧ r.carried.length ≤ item ∧ r'.carried[item]? = some packet) :
    Stands p r' next serial packetId := by
  have tracks (tracked : r.Tracked p s serial) : r'.Tracked p next serial := by
    intro item carries
    by_cases old : item < r.carried.length
    · rw [entries item old]
      exact tracked item (carries.old grows old)
    obtain ⟨packet, found⟩ := carries
    obtain ⟨waker, limit, entry⟩ := fresh item _ (not_lt.mp old) found
    rw [entry]
    exact ⟨rfl, nofun⟩
  have inside := grows.length_le
  cases stands with
  | @queued k below leads tracked clear =>
    obtain same | ⟨packet, item, waited, sent, new, carried⟩ := notes k below rfl leads
    · refine .queued (lt_of_lt_of_le below enqueued) ?_ (fun honest => tracks (tracked honest)) fun honest => ⟨?_, ?_⟩
      · intro note found
        exact (leads note (same ▸ found)).mono grows
      · intro gone
        exact ((clear honest).pruned (same ▸ gone)).mono grows
      intro item noted carries
      rw [same] at noted
      obtain ⟨other, number, carries'⟩ := leads _ noted
      have below := carries.below
      have below' := carries'.below
      have equal := Serial.ofInt_inj (by decide) (by omega) (by omega) number
      obtain rfl : item = other := by omega
      rw [entries item below']
      exact (clear honest).uncanceled item noted carries'
    · have same : packet.serial = serial := leads _ waited
      refine .queued (lt_of_lt_of_le below enqueued) ?_ (fun honest => tracks (tracked honest)) fun honest => ⟨?_, ?_⟩
      · intro note found
        cases sent.symm.trans found
        exact ⟨item, rfl, packet.packet, same ▸ carried⟩
      · intro gone
        cases sent.symm.trans gone
      intro other noted carries
      have below := carries.below
      have below' := lt_length carried
      injection Option.some.inj (sent.symm.trans noted) with number
      have equal := Serial.ofInt_inj (by decide) (by omega) (by omega) number
      obtain rfl : item = other := by omega
      obtain ⟨waker, limit, entry⟩ := fresh item packet new carried
      rw [entry]
      exact nofun
  | sent carries tracked => exact .sent (carries.mono grows) fun honest => tracks (tracked honest)
  | acked delivered => exact .acked fun honest => (delivered honest).mono grows
  | canceled kept => exact .canceled (withholds kept)

theorem Stands.send (stands : Stands p r s serial packetId) (pushes : Pushes s next packet) (small : r.carried.length < 2 ^ 63)
    (withholds : r.Withholds s serial → (r.send packet).Withholds next serial)
    (notes : ∀ k < r.enqueued, next.noteAt r.enqueued k = s.noteAt r.enqueued k ∨ s.noteAt r.enqueued k = some (.waiting packet) ∧
      next.noteAt r.enqueued k = some (.sent (BitVec.ofInt 64 r.carried.length))) :
    Stands p (r.send packet) next serial packetId := by
  have length := r.send_length packet
  refine stands.carry (r.send_prefix packet) (le_refl _) (by omega) ?_ ?_ withholds ?_
  · intro item below
    rw [length]
    exact pushes.entryAt.1 item below
  · intro item given above found
    have inside := lt_length found
    obtain rfl : item = r.carried.length := by omega
    cases (r.carried_new packet).symm.trans found
    rw [length]
    exact pushes.entryAt.2
  · intro k below _ _
    obtain same | ⟨waited, sent⟩ := notes k below
    · exact .inl same
    · exact .inr ⟨packet, _, waited, sent, le_refl _, r.carried_new packet⟩

theorem Register.Lingers.of_send (lingers : (r.send packet).Lingers next serial) {limit}
    (entry : next.unacked = s.unacked ++ [.unacked packet .noop limit 0 false])
    (blocked : ∀ entry ∈ next.blocked, entry ∈ s.blocked) :
    r.Lingers s serial ∨ limit.isSome = true ∧ packet.serial = serial := by
  have at_ item : next.entryAt (r.send packet).carried.length item =
      get (s.unacked ++ [.unacked packet .noop limit 0 false]) (r.carried.length + 1) item := by
    rw [← entry, r.send_length]
    rfl
  obtain ⟨item, entry', carries, found, lingers⟩ | ⟨packet', waker, limit, member, same⟩ := lingers
  · rw [at_] at found
    by_cases old : item < r.carried.length
    · rw [get_push old] at found
      exact .inl (.inl ⟨item, entry', carries.old (r.send_prefix packet) old, found, lingers⟩)
    have inside := carries.below
    rw [r.send_length] at inside
    obtain rfl : item = r.carried.length := by omega
    rw [get_pushed] at found
    cases found
    obtain ⟨given, carried⟩ := carries
    cases (r.carried_new packet).symm.trans carried
    simp only [UnackedState.lingers, Bool.not_false, Bool.and_true] at lingers
    exact .inr ⟨lingers, rfl⟩
  · exact .inl (.inr ⟨packet', waker, limit, blocked _ member, same⟩)

section
variable (registers : Registers r s sends)
include registers

theorem Registers.pushes (pushes : Pushes s next packet) (lastEnqueued : next.lastEnqueued = s.lastEnqueued)
    (trail : next.trail.length = s.trail.length) (ordered : ((r.send packet).line next).Pairwise Precedes)
    (counted : ∀ packet', some packet' ∈ (r.send packet).line next → packet'.serial < sends')
    (few : r.carried.length + 1 + next.queue.length ≤ sends') (queued : r.enqueued ≤ sends') :
    Registers (r.send packet) next sends' ∧ next.lastSent = BitVec.ofInt 64 r.carried.length := by
  have number : next.lastSent = BitVec.ofInt 64 r.carried.length := by
    have one : (1 : BitVec 64) = BitVec.ofInt 64 1 := by decide
    rw [pushes.lastSent, registers.lastSent, one, ← BitVec.ofInt_add, Int.sub_add_cancel]
  obtain ⟨waker, limit, entry⟩ := pushes.entry
  refine ⟨⟨?_, ?_, lastEnqueued.trans registers.lastEnqueued, trail ▸ registers.trail, ordered, counted, ?_, queued, ?_⟩, number⟩
  · rw [number, r.send_length]
    congr 1
    omega
  · rw [entry, length_append, length_singleton, r.send_length]
    exact succ_le_succ registers.window
  · rw [r.send_length]
    exact few
  intro item packet' waker limit count forgotten below found
  rw [r.send_length] at below found
  by_cases old : item < r.carried.length
  · rw [pushes.entryAt.1 item old] at found
    rw [Register.send, getElem?_append_left old]
    exact registers.entries item packet' _ _ _ _ old found
  obtain rfl : item = r.carried.length := by omega
  obtain ⟨_, _, new⟩ := (pushes.entryAt (n := r.carried.length)).2
  cases new.symm.trans found
  exact r.carried_new packet

/-- A new packet comes last. -/
theorem Registers.appends {given} (lined : r'.line next = r.line s ++ [some ⟨sends, given⟩]) :
    (r'.line next).Pairwise Precedes ∧ (∀ packet, some packet ∈ r'.line next → packet.serial < sends + 1) ∧
      (∀ packet, some packet ∈ r'.line next → some packet ∈ r.line s ∨ sends ≤ packet.serial) ∧
      ∀ serial < sends, r.Withholds s serial → r'.Withholds next serial := by
  have line packet (member : some packet ∈ r'.line next) : some packet ∈ r.line s ∨ packet.serial = sends := by
    rw [lined] at member
    refine (mem_append.mp member).imp_right fun new => ?_
    cases mem_singleton.mp new
    rfl
  refine ⟨?_, ?_, fun packet member => (line packet member).imp_right fun new => Nat.le_of_eq new.symm, ?_⟩
  · rw [lined]
    refine pairwise_append.mpr ⟨registers.ordered, pairwise_singleton _ _, ?_⟩
    intro one member two last first second same other
    subst same
    cases mem_singleton.mp last
    cases other
    exact registers.counted first member
  · intro packet member
    obtain old | new := line packet member
    · exact Nat.lt_succ_of_lt (registers.counted packet old)
    · exact Nat.lt_succ_of_le (Nat.le_of_eq new)
  · intro serial known withholds packet member
    obtain old | new := line packet member
    · exact withholds packet old
    · exact fun same => Nat.ne_of_lt known (same.symm.trans new)

theorem Registers.enqueue_sent (few : sends < 2 ^ 63) {given}
    (enqueued : s.enqueuePacket ⟨sends, given⟩ = (.sent sn packet, next)) :
    ∃ r', Registers r' next (sends + 1) ∧ Continues p sends r s r' next ∧ Stands p r' next sends (.sent sn) ∧
      ∃ item : Nat, sn = BitVec.ofInt 64 item ∧ r'.carried[item]? = some packet := by
  obtain ⟨unacked, blocked⟩ := enqueuePacket_entry enqueued
  obtain ⟨rfl, rfl, pushes, empty, empty', sent, lastEnqueued⟩ := enqueuePacket_sent enqueued
  have trail : next.trail = s.trail := by rw [Sender.trail, Sender.trail, sent, empty, empty']
  have room := registers.few
  have lined : (r.send ⟨sends, given⟩).line next = r.line s ++ [some ⟨sends, given⟩] := by
    rw [Register.line, Register.line, empty, empty', append_nil, append_nil, Register.send, map_append]
    rfl
  obtain ⟨ordered, counted, line, withholds⟩ := registers.appends lined
  have few' : r.carried.length + 1 + next.queue.length ≤ sends + 1 := by
    rw [empty', length_nil]
    omega
  obtain ⟨registers', number⟩ := registers.pushes pushes lastEnqueued (congrArg _ trail) ordered counted few'
    (le_succ_of_le registers.queued)
  have carried := r.carried_new ⟨sends, given⟩
  refine ⟨_, registers', ⟨r.send_prefix _, line, ?_, ?_⟩, ?_, _, number, carried⟩
  · intro serial _ lingers
    obtain before | ⟨impossible, _⟩ := lingers.of_send unacked fun _ => blocked ▸ id
    · exact before
    · cases impossible
  · intro serial packetId known _ stands
    refine stands.send pushes (by omega) (withholds serial known) fun k below => .inl ?_
    rw [noteAt, trail, noteAt]
  · rw [number]
    refine .sent ⟨given, carried⟩ fun _ item carries => ?_
    have inside := carries.below
    cases ((registers'.unique ⟨given, carried⟩).1 item carries)
    obtain ⟨waker, limit, entry⟩ := (pushes.entryAt (n := r.carried.length)).2
    rw [r.send_length, entry]
    exact ⟨rfl, by simp⟩

theorem Registers.enqueue_queued (few : sends < 2 ^ 63) {given} (enqueued : s.enqueuePacket ⟨sends, given⟩ = (.queued id, next)) :
    ∃ r', Registers r' next (sends + 1) ∧ Continues p sends r s r' next ∧ Stands p r' next sends (.queued id) := by
  obtain ⟨requeues, queue, _, lastEnqueued, rfl⟩ := enqueuePacket_queued enqueued
  have trail := enqueuePacket_trail enqueued
  have room := registers.few
  have number : s.lastEnqueued + 1 = BitVec.ofInt 64 r.enqueued := by
    have one : (1 : BitVec 64) = BitVec.ofInt 64 1 := by decide
    rw [registers.lastEnqueued, one, ← BitVec.ofInt_add, Int.sub_add_cancel]
  have lined : Register.line { r with enqueued := r.enqueued + 1 } next = r.line s ++ [some ⟨sends, given⟩] := by
    rw [Register.line, queue, ← append_assoc, Register.line]
  obtain ⟨ordered, counted, line, withholds⟩ := registers.appends lined
  have unacked := requeues.unacked
  have same item : next.entryAt r.carried.length item = s.entryAt r.carried.length item := by
    rw [entryAt, unacked, entryAt]
  refine ⟨{ r with enqueued := r.enqueued + 1 }, ⟨?_, ?_, ?_, ?_, ordered, counted, ?_, ?_, ?_⟩, ⟨prefix_rfl, line,
    ?_, ?_⟩, ?_⟩
  · exact requeues.retains.lastSent.trans registers.lastSent
  · rw [unacked]
    exact registers.window
  · rw [lastEnqueued, number]
    congr 1
    dsimp only
    omega
  · rw [trail, length_append]
    exact succ_le_succ registers.trail
  · rw [queue, length_append, length_singleton]
    dsimp only
    omega
  · exact succ_le_succ registers.queued
  · intro item packet waker limit count forgotten below found
    exact registers.entries item packet waker limit count forgotten below ((same item).symm.trans found)
  · rintro serial _ (⟨item, entry, carries, found, lingers⟩ | ⟨packet, waker, limit, member, named⟩)
    · exact .inl ⟨item, entry, carries, (same item).symm.trans found, lingers⟩
    obtain queued | ⟨_, _, sent⟩ := s.enqueuePacket_cases ⟨sends, given⟩
    · cases queued.symm.trans enqueued
      obtain before | new := mem_append.mp member
      · exact .inr ⟨packet, waker, limit, before, named⟩
      · cases mem_singleton.mp new
    · cases sent.symm.trans enqueued
  · intro serial packetId known _ stands
    refine stands.carry prefix_rfl (le_succ _) (registers.small (le_of_lt few)) (fun item _ => same item) ?_
      (withholds serial known) ?_
    · intro item packet above found
      exact absurd (lt_length found) (not_lt.mpr above)
    · intro k below _ _
      exact .inl (by rw [noteAt, trail, get_push below, noteAt])
  · have noted : next.noteAt (r.enqueued + 1) r.enqueued = some (.waiting ⟨sends, given⟩) := by
      rw [noteAt, trail, get_pushed]
    rw [number]
    refine .queued (lt_succ_self _) ?_ (fun _ item carries => ?_) fun _ => ⟨?_, ?_⟩
    · intro note found
      cases noted.symm.trans found
      rfl
    · obtain ⟨packet, found⟩ := carries
      have member : some ⟨sends, packet⟩ ∈ r.line s :=
        mem_append_left _ (mem_map.mpr ⟨_, mem_of_getElem? found, rfl⟩)
      exact absurd (registers.counted _ member) (lt_irrefl _)
    · intro gone
      cases noted.symm.trans gone
    · intro item found
      cases noted.symm.trans found

variable (few : sends ≤ 2 ^ 63) {sent}
include few

theorem Advances.requeue (unacked : next.unacked = s.unacked)
    (line : ∀ packet, some packet ∈ r.line next → some packet ∈ r.line s)
    (blocked : ∀ packet waker limit, .blocked packet waker limit ∈ next.blocked → .blocked packet waker limit ∈ s.blocked)
    (notes : ∀ serial, ∀ k < r.enqueued, ¬ but serial (.queued (BitVec.ofInt 64 k)) →
      (∀ note, s.noteAt r.enqueued k = some note → r.Leads serial note) → next.noteAt r.enqueued k = s.noteAt r.enqueued k) :
    Advances p sends (fun _ => False) but r s r next := by
  have same item : next.entryAt r.carried.length item = s.entryAt r.carried.length item := by
    rw [entryAt, unacked, entryAt]
  refine ⟨prefix_rfl, fun packet member => .inl (line packet member), ?_, ?_⟩
  · rintro serial _ (⟨item, entry, carries, found, lingers⟩ | ⟨packet, waker, limit, member, named⟩)
    · exact .inl ⟨item, entry, carries, same item ▸ found, lingers⟩
    · exact .inr ⟨packet, waker, limit, blocked packet waker _ member, named⟩
  intro serial packetId _ other stands
  refine stands.carry prefix_rfl (le_refl _) (registers.small few) (fun item _ => same item) ?_ ?_ ?_
  · intro item packet above found
    exact absurd (lt_length found) (not_lt.mpr above)
  · intro withholds packet member
    exact withholds packet (line packet member)
  · rintro k below rfl leads
    exact .inl (notes serial k below other leads)

theorem Registers.cleanBlockedQueue : Upholds p sends r s s.cleanBlockedQueue := by
  obtain ⟨requeues, lastEnqueued, count, queue, _⟩ := cleanBlockedQueue_requeues s
  have trail := s.cleanBlockedQueue_trail
  have shorter : (r.line s.cleanBlockedQueue).Sublist (r.line s) := by
    rw [Register.line, Register.line, queue]
    exact (List.Sublist.refl _).append (sublist_append_right _ _)
  refine ⟨⟨requeues.retains.lastSent.trans registers.lastSent, registers.window, lastEnqueued.trans registers.lastEnqueued,
    trail ▸ registers.trail, registers.ordered.sublist shorter, fun packet member => registers.counted packet
    (shorter.subset member), ?_, registers.queued, registers.entries⟩,
    .requeue registers few rfl (fun packet member => shorter.subset member) ?_ ?_⟩
  · have room := registers.few
    rw [queue, length_append] at room
    omega
  · intro packet waker limit member
    obtain ⟨count, split, _⟩ := cleanBlocked_split s.blocked s.sent
    rw [split]
    exact mem_append_right _ member
  · intro serial k _ _ _
    rw [noteAt, trail, noteAt]

theorem Registers.enqueueNext {woken} (enqueued : s.enqueueNextBlockedPacket = .ok ((sn, packet), woken, next)) :
    ∃ r', Registers r' next sends ∧ Continues p sends r s r' next ∧
      ∃ item : Nat, sn = BitVec.ofInt 64 item ∧ r'.carried[item]? = some packet := by
  obtain ⟨head, trail⟩ := enqueueNextBlockedPacket_trail enqueued
  obtain ⟨waker, limit, member, unacked, blocked⟩ := enqueueNextBlockedPacket_entry enqueued
  obtain ⟨middle, rfl, pushes, rfl, queue, _, lastEnqueued⟩ := enqueueNextBlockedPacket_head enqueued
  have room := registers.few
  rw [queue, length_cons] at room
  have lined : (r.send packet).line middle = r.line s := by
    rw [Register.line, Register.line, queue, Register.send, map_append, append_assoc]
    rfl
  have trail' : middle.trail = s.trail.set s.sent.length (.sent middle.lastSent) := middle.cleanBlockedQueue_trail ▸ trail
  obtain ⟨registers', number⟩ := registers.pushes pushes lastEnqueued (by rw [trail', length_set])
    (lined ▸ registers.ordered) (lined ▸ registers.counted) (by omega) registers.queued
  obtain ⟨registers'', cleaned⟩ := registers'.cleanBlockedQueue (p := p) few
  have sent : Advances p sends (fun serial => ¬ r.Lingers s serial) (fun _ _ => False) r s (r.send packet) middle := by
    refine ⟨r.send_prefix _, fun packet member => .inl (lined ▸ member), fun serial other _ => not_not.mp other, ?_⟩
    intro serial packetId _ _ stands
    refine stands.send pushes (by omega) ?_ ?_
    · intro withholds
      rw [Register.Withholds, lined]
      exact withholds
    intro k below
    rw [noteAt, trail']
    obtain ⟨here, same⟩ | ⟨_, same⟩ := get_set s.trail below s.sent.length (.sent middle.lastSent)
    · refine .inr ⟨?_, same.trans (by rw [number])⟩
      rw [noteAt, get_of_index _ here, head]
    · exact .inl same
  refine ⟨_, registers'', ⟨sent.carried, ?_, ?_, ?_⟩, _, number, r.carried_new packet⟩
  · intro packet member
    exact (cleaned.line packet member).elim (sent.line packet) .inr
  · intro serial _ lingers
    obtain before | ⟨limited, same⟩ := lingers.of_send unacked blocked
    · exact before
    · obtain ⟨value, rfl⟩ := Option.isSome_iff_exists.mp limited
      exact .inr ⟨packet, waker, value, member, same⟩
  · intro serial packetId known _ stands
    exact cleaned.stands serial packetId known not_false (sent.stands serial packetId known not_false stands)

theorem Registers.sendUnblocked {rounds} (unblocked : sendUnblocked rounds s = .ok (sent, next)) :
    ∃ r', Registers r' next sends ∧ Continues p sends r s r' next ∧
      ∀ sn packet, (sn, packet) ∈ sent → ∃ item : Nat, sn = BitVec.ofInt 64 item ∧ r'.carried[item]? = some packet := by
  induction rounds generalizing r s sent with
  | zero =>
    cases unblocked
    exact ⟨r, registers, .refl _ _ _ _ _ _, nofun⟩
  | succ rounds ih =>
    simp only [Mgmt.sendUnblocked] at unblocked
    split at unblocked
    · obtain ⟨⟨⟨number, first⟩, woken, middle⟩, enqueued, unblocked⟩ := bind_ok.mp unblocked
      obtain ⟨⟨rest, last⟩, remaining, unblocked⟩ := bind_ok.mp unblocked
      cases unblocked
      obtain ⟨r', registers', advances, item, named, carried⟩ := registers.enqueueNext few enqueued
      obtain ⟨r'', registers'', advances', wire⟩ := ih registers' remaining
      refine ⟨r'', registers'', advances.trans advances', ?_⟩
      intro sn packet member
      obtain same | later := mem_cons.mp member
      · cases same
        obtain ⟨more, grown⟩ := advances'.carried
        refine ⟨item, named, ?_⟩
        rw [← grown, getElem?_append_left (lt_length carried), carried]
      · exact wire sn packet later
    · cases unblocked
      exact ⟨r, registers, .refl _ _ _ _ _ _, nofun⟩

theorem Registers.acknowledge {seqNum isCanceled}
    (genuine : p.honest → isCanceled = false → ∀ item, item < r.carried.length → seqNum = BitVec.ofInt 64 item → p.heard item)
    (acknowledged : acknowledge s seqNum isCanceled = .ok (sent, next)) :
    ∃ r', Registers r' next sends ∧ Advances p sends (fun _ => False) (fun _ packetId => p.honest ∧ isCanceled = true ∧
        ∃ id, packetId = .queued id ∧ s.lookupSeqNum id = .ok (some seqNum)) r s r' next ∧
      ∀ sn packet, (sn, packet) ∈ sent → ∃ item : Nat, sn = BitVec.ofInt 64 item ∧ r'.carried[item]? = some packet := by
  obtain ⟨answered, processed, unblocked⟩ := bind_ok.mp acknowledged
  rw [countZdprSenderStats_eq] at unblocked
  obtain ⟨registers', advances⟩ := registers.processAcknowledgement few genuine processed
  obtain ⟨registers'', advances'⟩ := registers'.reset answered.windowSize fun _ => 0
  obtain ⟨r', final, advances'', wire⟩ := registers''.sendUnblocked few unblocked
  exact ⟨r', final, advances.trans ((advances'.trans advances'').mono nofun nofun), wire⟩

omit few in
theorem Registers.resends (member : (sn, packet) ∈ s.retryPackets) :
    ∃ item : Nat, sn = BitVec.ofInt 64 item ∧ r.carried[item]? = some packet := by
  obtain ⟨index, waker, limit, count, forgotten, found, rfl⟩ := retryPackets_entry member
  have inside := lt_length found
  have window := registers.window
  refine ⟨r.carried.length + index - s.unacked.length, ?_, ?_⟩
  · rw [seqNumAt_ofInt registers.lastSent]
    congr 1
    omega
  · refine registers.entries _ _ waker limit count forgotten (by omega) ?_
    rw [entryAt_of_index index (by omega), found]

theorem Registers.cancel_entry {index : Nat} (queued : s.queue[index]? = some (some packet)) :
    Registers r (s.cancelAt index) sends ∧
      Advances p sends (fun _ => False) (fun serial _ => serial = packet.serial) r s r
        (s.cancelAt index) ∧
      r.Withholds (s.cancelAt index) packet.serial := by
  have queue : (s.cancelAt index).queue = s.queue.set index none := by
    rw [Sender.queue, Sender.queue, map_set]
    rfl
  have lined : r.line (s.cancelAt index) = (r.line s).set (r.carried.length + index) none := by
    rw [Register.line, Register.line, queue, set_append_right _ _ (by
      rw [length_map]
      exact Nat.le_add_right _ _), length_map, Nat.add_sub_cancel_left]
  have line (packet : Tagged Pkt) (member : some packet ∈ r.line (s.cancelAt index)) :
      some packet ∈ r.line s := by
    rw [lined] at member
    obtain before | impossible := mem_or_eq_of_mem_set member
    · exact before
    · cases impossible
  have trail := s.cancel_trail index
  refine ⟨⟨registers.lastSent, registers.window, registers.lastEnqueued, ?_, lined ▸ ordered_set_none registers.ordered _,
    fun packet member => registers.counted packet (line packet member), ?_, registers.queued, registers.entries⟩,
    .requeue registers few rfl line ?_ ?_, ?_⟩
  · rw [trail, length_set]
    exact registers.trail
  · rw [queue, length_set]
    exact registers.few
  · intro packet waker limit member
    obtain before | impossible := mem_or_eq_of_mem_set member
    · exact before
    · cases impossible
  · intro serial k below other leads
    have length := s.trail_length
    rw [noteAt, trail]
    obtain ⟨here, _⟩ | ⟨_, same⟩ := get_set s.trail below (s.sent.length + index) .canceled
    · exact absurd (leads _ (noteAt_queue (by omega) queued)).symm other
    · exact same
  · intro given member same
    obtain ⟨place, present⟩ := mem_iff_getElem?.mp member
    rw [lined, getElem?_set] at present
    split at present
    · split at present <;> cases present
    · next elsewhere =>
      exact elsewhere (same_place registers.ordered present ((r.line_queue s index).trans queued) same).symm

omit registers few in
theorem Register.Withholds.silent (withholds : r.Withholds s serial) : ¬ r.Lingers s serial := by
  rintro (⟨item, entry, ⟨packet, carried⟩, _⟩ | ⟨packet, waker, limit, member, same⟩)
  · exact withholds _ (mem_append_left _ (mem_map.mpr ⟨_, mem_of_getElem? carried, rfl⟩)) rfl
  · exact withholds packet (mem_append_right _ (mem_queue member)) same

theorem Registers.cancelQueuedPacket {woken} (canceled : s.cancelQueuedPacket id = .ok (some packet, woken, next)) :
    ∃ index, s.Queues id index ∧ s.queue[index]? = some (some packet) ∧ Registers r next sends ∧
      Advances p sends (fun _ => False) (fun serial _ => serial = packet.serial) r s r next ∧ r.Withholds next packet.serial := by
  obtain ⟨impossible, _⟩ | ⟨index, given, waker, limit, queues, found, same, _, rfl⟩ := cancelQueuedPacket_cases canceled
  · cases impossible
  cases same
  have queued : s.queue[index]? = some (some packet) := by
    rw [queue, getElem?_map, found]
    rfl
  obtain ⟨registers', advances, withholds⟩ := registers.cancel_entry (p := p) few queued
  refine ⟨index, queues, queued, ?_⟩
  split
  · obtain ⟨registers'', advances'⟩ := registers'.cleanBlockedQueue (p := p) few
    refine ⟨registers'', advances.trans (advances'.mono (by simp) (by simp)), ?_⟩
    intro other member
    have known := registers.counted packet (mem_append_right _ (mem_of_getElem? queued))
    obtain before | fresh := advances'.line other member
    · exact withholds other before
    · exact fun same => absurd (same ▸ fresh) (not_le.mpr known)
  · exact ⟨registers', advances, withholds⟩

variable (stands : Stands p r s serial (.queued id))
include stands

theorem Registers.waiting {index} (queues : s.Queues id index) :
    ∃ packet, s.queue[index]? = some (some packet) ∧ packet.serial = serial := by
  cases stands with
  | @queued k below leads =>
    have place := ((queues_iff registers.lastEnqueued (le_trans registers.queued few) below).mp queues).2
    obtain ⟨other, place', found, present, noted⟩ := noteAt_waiting below (show r.enqueued ≤ k + s.blocked.length by omega)
    obtain rfl : other = index := by omega
    have leads := leads _ noted
    cases found with
    | none => exact leads.elim
    | some packet => exact ⟨packet, present, leads⟩

theorem Registers.looked {found} (looked : s.lookupSeqNum id = .ok found) : Stands p r s serial (updateSentPacketId found) := by
  have small := le_trans registers.queued few
  cases stands with
  | @queued k below leads tracked clear =>
    by_cases left : k + s.blocked.length < r.enqueued
    · rw [lookupSeqNum_left registers.lastEnqueued small below left] at looked
      cases looked
      obtain ⟨_, gone⟩ | ⟨_, found, _, _, noted⟩ := noteAt_left below left
      · rw [gone]
        exact .acked fun honest => (clear honest).pruned gone
      have leads := leads _ noted
      rw [noted]
      cases found with
      | none => exact leads.elim
      | some sn =>
        obtain ⟨item, rfl, carries⟩ := leads
        exact .sent carries tracked
    · rw [lookupSeqNum_waiting registers.lastEnqueued small below (not_lt.mp left)] at looked
      cases looked

theorem Registers.limitRetriesById {limit} (limited : s.limitRetriesById id limit = .ok next) :
    Registers r next sends ∧ Advances p sends (· = serial) (fun _ _ => False) r s r next := by
  obtain ⟨number, looked, _, limited⟩ | ⟨index, entry, queues, found, rfl⟩ := limitRetriesById_cases limited
  · cases number with
    | none =>
      subst limited
      exact ⟨registers, .refl _ _ _ _ _ _⟩
    | some sn =>
      have sent : Stands p r s serial (.sent sn) := registers.looked few stands looked
      obtain ⟨item, rfl, carries⟩ := sent.number
      exact registers.edits few carries (limitRetriesBySeqNum_edits limited) (UnackedState.limitRetries_proceeds · limit)
  · obtain ⟨packet, waiting, rfl⟩ := registers.waiting few stands queues
    have settles : Settles (fun _ => Eq) s { s with blocked := s.blocked.set index (entry.limitRetries limit) } :=
      ⟨rfl, rfl, .refl fun _ _ => rfl⟩
    refine registers.tends few (.replace found (entry.limitRetries_packet limit)) fun serial other lingers => ?_
    refine lingers.settles settles ?_ ?_
    · intro given waker limit' member same
      obtain old | new := mem_or_eq_of_mem_set member
      · exact ⟨_, _, old⟩
      rw [queue, getElem?_map, found] at waiting
      have packet' := entry.limitRetries_packet limit
      rw [← new] at packet'
      cases (congrArg some packet').trans waiting
      exact absurd same.symm other
    · rintro item index old new _ _ rfl lingers
      exact lingers

end

end
end ZprCore.Mgmt
