import ZprCore.Mgmt.Docking
import ZprCore.Proofs.ZdprAgreement

/-! What survives when a docking link is started again. The adapter keeps its peer, and with it
the numbers it has sent and received; the node meets it with a new one. -/

namespace ZprCore.Mgmt
open Zdpr Km Window Panic Runs Serial List Option Function Nat Disposition Ledger Int Sender
variable {Transport Cert Pkt : Type} {old}

/-- A sender that has assigned `count` numbers. -/
structure Numbering (count : Nat) (s : Sender Pkt) : Prop where
  lastSent : s.lastSent = BitVec.ofInt 64 (count - 1)
  limit : s.windowSize ≤ defaultZdprReceiveWindowSize
  length : s.unacked.length ≤ defaultZdprReceiveWindowSize
  started : s.unacked.length ≤ count

namespace Numbering
variable {count : Nat} {s next : Sender Pkt}

theorem new : Numbering 0 (.new : Sender Pkt) where
  lastSent := rfl
  limit := succ_le_of_lt (by decide)
  length := zero_le _
  started := le_refl _

section
variable (numbering : Numbering count s)
include numbering

theorem settles {change} (settles : Sender.Settles change s next) :
    Numbering count next := by
  exact ⟨settles.lastSent.trans numbering.lastSent, settles.windowSize ▸ numbering.limit,
    le_trans settles.shorter numbering.length, le_trans settles.shorter numbering.started⟩

theorem pushes {packet} (pushes : Sender.Pushes s next packet) :
    Numbering (count + 1) next ∧ next.lastSent = BitVec.ofInt 64 count := by
  obtain ⟨waker, limit, entry⟩ := pushes.entry
  have length : next.unacked.length = s.unacked.length + 1 := by
    rw [entry, length_append, length_singleton]
  have sent : next.lastSent = BitVec.ofInt 64 count := by
    rw [pushes.lastSent, numbering.lastSent, show (count : Int) = count - 1 + 1 by omega, BitVec.ofInt_add]
    simp
  have room := pushes.room
  have bound := numbering.limit
  have started := numbering.started
  refine ⟨⟨?_, pushes.windowSize ▸ bound, by omega, by omega⟩, sent⟩
  rw [sent]
  congr 1
  omega

theorem numbered {index} (inside : index < s.unacked.length) :
    Numbered count (s.seqNumAt index) (count - s.unacked.length + index) := by
  have started := numbering.started
  refine ⟨by omega, by omega, ?_⟩
  rw [seqNumAt_ofInt numbering.lastSent]
  congr 1
  omega

/-- The first packet of a sender has number zero. -/
theorem perform {op messages} (performed : s.perform op = .ok (messages, next))
    (allowed : ∀ windowSize, op = .adjustWindowSize windowSize → windowSize ≤ defaultZdprReceiveWindowSize) :
    ∃ more, count ≤ more ∧ more ≤ count + 1 ∧ Numbering more next ∧
      (∀ message ∈ messages, ∃ first item, sequenced message = some first ∧ Numbered more first.1 item) ∧
      (count = 0 → more = 0 ∧ messages = [] ∨ more = 1 ∧ ∃ packet, messages = [.data 0 packet]) := by
  cases perform_ok performed with
  | pushes pushes =>
    obtain ⟨pushed, last⟩ := numbering.pushes pushes
    refine ⟨count + 1, by omega, by omega, pushed, ?_, ?_⟩
    · intro message member
      cases mem_singleton.mp member
      exact ⟨_, count, rfl, by omega, by omega, last⟩
    intro none
    subst none
    exact .inr ⟨rfl, _, by rw [last]; rfl⟩
  | retains retains repeats =>
    refine ⟨count, by omega, by omega, numbering.settles retains.idle, ?_, ?_⟩
    · intro message member
      obtain ⟨index, inside, ⟨packet, rfl⟩ | ⟨rfl, _⟩⟩ := repeats message member
      · exact ⟨_, _, rfl, numbering.numbered inside⟩
      · exact ⟨_, _, rfl, numbering.numbered inside⟩
    · intro none
      have started := numbering.started
      refine .inl ⟨none, eq_nil_iff_forall_not_mem.mpr ?_⟩
      intro message member
      obtain ⟨index, inside, _⟩ := repeats message member
      omega
  | forgets forgotten =>
    exact ⟨count, by omega, by omega, numbering.settles (forgetCanceledPacket_idle forgotten), nofun,
      fun none => .inl ⟨none, rfl⟩⟩
  | adjusts adjusted =>
    subst adjusted
    have narrow := allowed _ rfl
    exact ⟨count, by omega, by omega, ⟨numbering.lastSent, le_trans (min_le_right _ _) narrow,
      numbering.length, numbering.started⟩, nofun, fun none => .inl ⟨none, rfl⟩⟩

theorem processAck {seqNum packet woken} (processed : s.processAck seqNum = .ok (packet, woken, next)) :
    Numbering count next := by
  obtain ⟨_, idle⟩ | ⟨_, index, accepts⟩ := processAck_ok processed
  · exact numbering.settles idle
  · exact numbering.settles accepts.2

theorem processCanceled {seqNum woken} (processed : s.processCanceled seqNum = .ok (woken, next)) : Numbering count next := by
  obtain ⟨_, idle⟩ | ⟨_, index, accepts⟩ := processCanceled_ok processed
  · exact numbering.settles idle
  · exact numbering.settles accepts.2

end

end Numbering

/-- A number in the window of a sender: it was sent, and it is kept at least until it is answered. -/
def Awaits (s : Sender Pkt) (seqNum : SeqNum) : Prop := ∃ index < s.unacked.length, seqNum = s.seqNumAt index

/-- A packet or cancel packet with this number would not be ignored. -/
def Admits (r : Receiver) (seqNum : SeqNum) (isCancel : Bool) : Prop :=
  ∃ disposition next, r.processPacketOrCancel seqNum isCancel = .ok (disposition, next) ∧ disposition ≠ .ignore

/-- A receiver of numbers below `bound` has decided what its peer has answered. -/
structure Hears (bound : Nat) (answered : SeqNum → Prop) (r : Receiver) (ledger : Ledger) : Prop where
  represents : Represents r ledger
  size : r.windowSize = defaultZdprReceiveWindowSize
  highest : -1 ≤ ledger.highest ∧ ledger.highest < bound
  below : ∀ item < 0, ledger.decided item = true
  decided : ∀ item : Nat, item < 2 ^ 57 → (ledger.decided item = true ↔ answered (BitVec.ofInt 64 item))

namespace Hears
variable {bound : Nat} {answered : SeqNum → Prop} {r next : Receiver} {ledger : Ledger} {seqNum : SeqNum}
  {disposition : Disposition}

theorem new (made : Receiver.new defaultZdprReceiveWindowSize = .ok r) (silent : ∀ seqNum, ¬ answered seqNum) :
    Hears bound answered r .initial where
  represents := .new made (by decide)
  size := (Receiver.new_ok made).2.2.1
  highest := ⟨le_refl _, by simp only [initial]; omega⟩
  below item negative := by rw [Log.decided, initial_below negative]; rfl
  decided item _ := by
    refine ⟨fun known => ?_, fun said => absurd said (silent _)⟩
    simp only [Log.decided, initial, if_neg (not_lt.mpr (natCast_nonneg item))] at known
    cases known

section
variable (hears : Hears bound answered r ledger) (small : bound ≤ 2 ^ 57)
include hears small

omit small in
theorem widen {wider} (more : bound ≤ wider) {said} (same : ∀ seqNum, said seqNum ↔ answered seqNum) :
    Hears wider said r ledger where
  represents := hears.represents
  size := hears.size
  highest := ⟨hears.highest.1, by have := hears.highest.2; omega⟩
  below := hears.below
  decided item small := (hears.decided item small).trans (same _).symm

theorem item {item} (known : Numbered bound seqNum item) : ledger.itemOf r seqNum = item := by
  obtain ⟨positive, upper, rfl⟩ := known
  have highest := hears.highest
  rw [itemOf, hears.represents.highest, distance_ofInt (by decide) (by omega) (by omega)]
  omega

theorem receive {item} (known : Numbered bound seqNum item) {isCancel}
    (received : r.processPacketOrCancel seqNum isCancel = .ok (disposition, next)) :
    ∃ later, Hears bound (fun other => answered other ∨ disposition.shouldAck = true ∧ other = seqNum) next later := by
  obtain ⟨reached, same, represents, size⟩ := hears.represents.processPacketOrCancel_refines seqNum isCancel
  rw [hears.item small known] at same represents
  rw [same] at received
  cases received
  obtain ⟨lower, upper, number⟩ := known
  refine ⟨_, represents, size.trans hears.size, ?_, ?_, ?_⟩
  · have highest := hears.highest
    have bounds := ledger.receive_highest r.windowSize item isCancel
    exact ⟨by omega, by omega⟩
  · intro other negative
    exact (ledger.receive_extends r.windowSize item isCancel).decided (hears.below other negative)
  intro other inside
  have decided := hears.decided other inside
  obtain ⟨same, _⟩ | ⟨verdict, stored, same⟩ | ⟨_, _, same⟩ := ledger.receive_cases r.windowSize item isCancel
  all_goals rw [same]
  · simpa [shouldAck] using decided
  · refine ⟨fun held => .inl (decided.mp held), fun held => held.elim decided.mpr ?_⟩
    rintro ⟨_, equal⟩
    have place := ofInt_inj (w := 64) (by decide) (by omega) (by omega) (equal.trans number)
    rw [place, Log.decided, stored]
    rfl
  · have acks : (firstAnswer (verdictOf isCancel)).shouldAck = true := by cases isCancel <;> rfl
    have injective : BitVec.ofInt 64 (other : Int) = seqNum ↔ (other : Int) = item := by
      rw [number]
      exact ⟨ofInt_inj (w := 64) (by decide) (by omega) (by omega), congrArg _⟩
    rw [Log.record_decided, Bool.or_eq_true, decide_eq_true_eq, acks, injective, decided, or_comm]
    simp

theorem dispatch {item} (known : Numbered bound seqNum item) {queueFull}
    (dispatched : r.dispatchPacket seqNum queueFull = .ok (disposition, next)) :
    ∃ later, Hears bound (fun other => answered other ∨ disposition.shouldAck = true ∧ other = seqNum) next later := by
  unfold Receiver.dispatchPacket at dispatched
  obtain ⟨wanted, _, dispatched⟩ := bind_ok.mp dispatched
  split at dispatched
  · cases dispatched
    exact ⟨ledger, hears.widen (le_refl _) fun other => by simp [shouldAck]⟩
  · exact hears.receive small known dispatched

/-- A number inside the sender's window is admitted unless a number a whole window below it has not
been answered yet. -/
theorem admits_iff {item : Nat} (known : Numbered bound seqNum item) (recent : bound ≤ item + defaultZdprReceiveWindowSize)
    (isCancel : Bool) :
    Admits r seqNum isCancel ↔
      ∀ older, older + defaultZdprReceiveWindowSize ≤ item → answered (BitVec.ofInt 64 older) := by
  obtain ⟨reached, same, _⟩ := hears.represents.processPacketOrCancel_refines seqNum isCancel
  rw [hears.item small known, hears.size] at same
  have upper := known.2.1
  have young : ¬ ledger.TooOld defaultZdprReceiveWindowSize item := by
    have highest := hears.highest
    unfold Log.TooOld
    omega
  have near : ¬ ledger.TooNew defaultZdprReceiveWindowSize item ↔
      ∀ older, older + defaultZdprReceiveWindowSize ≤ item → answered (BitVec.ofInt 64 older) := by
    constructor
    · intro near older far
      rw [← hears.decided older (by omega), Log.decided, isSome_iff_ne_none]
      exact fun missing => near ⟨older, by omega, missing⟩
    rintro all ⟨older, far, missing⟩
    have undecided : ledger.decided older = false := by rw [Log.decided, missing]; rfl
    by_cases negative : older < 0
    · rw [hears.below older negative] at undecided
      cases undecided
    obtain ⟨older, rfl⟩ := eq_ofNat_of_zero_le (not_lt.mp negative)
    rw [(hears.decided older (by omega)).mpr (all older (by omega))] at undecided
    cases undecided
  rw [← near]
  constructor
  · rintro ⟨disposition, next, gives, heeded⟩ far
    rw [gives] at same
    cases same
    exact heeded (by rw [Ledger.receive, if_pos (.inr far)])
  · intro near
    refine ⟨_, _, same, ?_⟩
    obtain ⟨_, outside⟩ | ⟨verdict, _, same⟩ | ⟨_, _, same⟩ := ledger.receive_cases defaultZdprReceiveWindowSize item isCancel
    · exact absurd outside (not_or.mpr ⟨young, near⟩)
    · rw [same]
      cases verdict <;> rintro ⟨⟩
    · rw [same]
      cases isCancel <;> rintro ⟨⟩

theorem processes_zero_iff (positive : 0 < bound) :
    (∃ next, r.processPacketOrCancel 0 false = .ok (.ackAndProcess, next)) ↔ ¬ answered 0 := by
  obtain ⟨reached, same, _⟩ := hears.represents.processPacketOrCancel_refines 0 false
  have first : Numbered bound 0 0 := ⟨Int.le_refl 0, by omega, rfl⟩
  rw [hears.item small first, hears.size] at same
  have decided := hears.decided 0 (by decide)
  rw [Int.natCast_zero, show BitVec.ofInt 64 0 = 0 from rfl] at decided
  rw [← decided, same]
  constructor
  · intro ⟨next, gives⟩ known
    obtain ⟨verdict, stored⟩ := isSome_iff_exists.mp known
    obtain ⟨same, _⟩ | ⟨_, _, same⟩ | ⟨missing, _⟩ := ledger.receive_cases defaultZdprReceiveWindowSize 0 false
    · rw [same] at gives
      cases gives
    · rw [same] at gives
      rename_i verdict _
      cases verdict <;> cases gives
    · rw [stored] at missing
      cases missing
  · intro undecided
    refine ⟨reached, ?_⟩
    obtain ⟨_, old | new⟩ | ⟨verdict, stored, _⟩ | ⟨_, _, same⟩ :=
      ledger.receive_cases defaultZdprReceiveWindowSize 0 false
    · exact absurd (hears.represents.valid.below 0 (hears.size ▸ old)) undecided
    · obtain ⟨older, far, missing⟩ := new
      have known := hears.below older (by simp only [defaultZdprReceiveWindowSize] at far; omega)
      rw [Log.decided, missing] at known
      cases known
    · exact absurd (by rw [Log.decided, stored]; rfl) undecided
    · rw [same]
      rfl

end

end Hears

theorem mem_reply (disposition : Disposition) (seqNum other : SeqNum) :
    (.ack other : Message Pkt) ∈ disposition.reply seqNum ∨ (.canceled other : Message Pkt) ∈ disposition.reply seqNum ↔
      disposition.shouldAck = true ∧ other = seqNum := by
  cases disposition <;> simp [reply, shouldAck, ackIsCanceled]

theorem reply_unsequenced (disposition : Disposition) (seqNum : SeqNum) :
    ∀ message ∈ (disposition.reply seqNum : List (Message Pkt)), sequenced message = none := by
  cases disposition <;> simp [reply, shouldAck, ackIsCanceled, sequenced]

/-- What a sender puts on the wire starts with packet zero. -/
def Opens (sent : List (SeqNum × Bool)) (count : Nat) : Prop :=
  count = 0 ∧ sent = [] ∨ 0 < count ∧ sent.head? = some (0, false)

theorem Opens.append {sent more count} (opens : Opens sent count) (started : 0 < count) :
    0 < count ∧ (sent ++ more).head? = some (0, false) := by
  obtain ⟨none, _⟩ | ⟨_, first⟩ := opens
  · omega
  · exact ⟨started, by rw [head?_append, first]; rfl⟩

/-- A peer in a docking link, where numbers below `limit` are in use at either side. -/
structure PeerFits (limit : Side → Nat) (d : Docking Transport Cert Pkt) (side : Side)
    (peer : DockPeer Transport Cert Pkt) : Prop where
  known : peer.number < d.peers
  sends : ∃ count ≤ limit side, (side = .adapter → count = limit side) ∧ Numbering count peer.zdprSend ∧
    Opens (d.sentBy side peer.number) count
  hears : ∃ ledger, Hears (limit side.other) (d.Answered side peer.number) peer.zdprRecv ledger

/-- The adapter never makes a new peer, so it has sent every number below its limit. -/
structure Docked (limit : Side → Nat) (d : Docking Transport Cert Pkt) : Prop where
  fits : ∀ side peer, d.ends side = some peer → PeerFits limit d side peer
  known : ∀ envelope ∈ d.network, envelope.number < d.peers
  wire : ∀ envelope ∈ d.network, ∀ first, sequenced envelope.message = some first →
    ∃ item, Numbered (limit envelope.origin) first.1 item

namespace Docking
variable {d : Docking Transport Cert Pkt} {side other : Side} {peer}
  {messages} {limit : Side → Nat} {number : Nat}

@[simp] theorem ends_put_self {changed} : (d.put side changed).ends side = changed :=
  update_self ..

theorem ends_put_other {changed} (different : other ≠ side) : (d.put side changed).ends other = d.ends other :=
  update_of_ne different ..

theorem sentBy_send : (d.send side peer messages).sentBy other number =
    d.sentBy other number ++ if side = other ∧ peer.number = number then messages.filterMap sequenced else [] := by
  rw [sentBy, sentBy, send, filter_append, filterMap_append, List.filter_map]
  split
  · next own => simp [comp_def, own]
  · next foreign => simp [comp_def, foreign]

theorem answered_send {seqNum} : (d.send side peer messages).Answered other number seqNum ↔
    d.Answered other number seqNum ∨
      (other = side ∧ number = peer.number ∧ (.ack seqNum ∈ messages ∨ .canceled seqNum ∈ messages)) := by
  unfold Answered send
  simp only [mem_append, List.mem_map, Envelope.mk.injEq]
  constructor
  · intro ⟨association, found⟩
    obtain (old | ⟨message, member, rfl, rfl, _, rfl⟩) | old | ⟨message, member, rfl, rfl, _, rfl⟩ := found
    · exact .inl ⟨association, .inl old⟩
    · exact .inr ⟨rfl, rfl, .inl member⟩
    · exact .inl ⟨association, .inr old⟩
    · exact .inr ⟨rfl, rfl, .inr member⟩
  · intro found
    obtain ⟨association, old | old⟩ | ⟨rfl, rfl, new | new⟩ := found
    · exact ⟨association, .inl (.inl old)⟩
    · exact ⟨association, .inr (.inl old)⟩
    · exact ⟨peer.association, .inl (.inr ⟨_, new, rfl, rfl, rfl, rfl⟩)⟩
    · exact ⟨peer.association, .inr (.inr ⟨_, new, rfl, rfl, rfl, rfl⟩)⟩

/-- The old link of a peer and its new one share the numbers. -/
theorem processLinkStateEvent_cases (d : Docking Transport Cert Pkt) (side : Side) (event : Km.LinkEvent) :
    d.processLinkStateEvent side event = d ∨ d.processLinkStateEvent side event = d.put side none ∨
      ∃ peer link pft, d.ends side = some peer ∧ d.processLinkStateEvent side event = d.put side (some { peer with link, pft }) := by
  unfold processLinkStateEvent
  split
  · exact .inl rfl
  next peer present =>
  dsimp only
  split
  · exact .inr (.inl rfl)
  · exact .inr (.inr ⟨peer, _, _, present, rfl⟩)
  · exact .inr (.inr ⟨peer, _, _, present, rfl⟩)

end Docking

namespace Docked
open Docking
variable {d next : Docking Transport Cert Pkt} {side : Side} {peer : DockPeer Transport Cert Pkt}
  {messages : List (Message Pkt)} {limit : Side → Nat}

section
variable (docked : Docked limit d)
include docked

theorem put {changed}
    (same : ∀ peer, changed = some peer → ∃ old, d.ends side = some old ∧ peer.number = old.number ∧ peer.zdprSend = old.zdprSend ∧ peer.zdprRecv = old.zdprRecv) :
    Docked limit (d.put side changed) where
  fits other peer present := by
    by_cases here : other = side
    · subst here
      rw [ends_put_self] at present
      obtain ⟨old, stored, number, sends, hears⟩ := same peer present
      have fits := docked.fits other old stored
      refine ⟨number ▸ fits.known, ?_, ?_⟩
      · rw [number, sends]
        exact fits.sends
      · rw [number, hears]
        exact fits.hears
    · rw [ends_put_other here] at present
      have fits := docked.fits other peer present
      exact ⟨fits.known, fits.sends, fits.hears⟩
  known := docked.known
  wire := docked.wire

section
variable (present : d.ends side = some old) (number : peer.number = old.number)
  (hears : ∃ ledger, Hears (limit side.other) (fun seqNum => d.Answered side peer.number seqNum ∨
    (.ack seqNum ∈ messages ∨ .canceled seqNum ∈ messages)) peer.zdprRecv ledger)
include present number hears

theorem send {more} (grows : limit side ≤ more)
    (sends : ∃ count ≤ more, (side = .adapter → count = more) ∧ Numbering count peer.zdprSend ∧ Opens (d.sentBy side peer.number ++ messages.filterMap sequenced) count)
    (wire : ∀ message ∈ messages, ∀ first, sequenced message = some first → ∃ item, Numbered more first.1 item) :
    Docked (update limit side more) (d.send side peer messages) where
  fits other found stored := by
    by_cases here : other = side
    · subst here
      have across : other.other ≠ other := by cases other <;> nofun
      cases ends_put_self.symm.trans stored
      obtain ⟨ledger, heard⟩ := hears
      refine ⟨number ▸ (docked.fits other old present).known, ?_, ledger, ?_⟩
      · rw [update_self, sentBy_send, if_pos ⟨rfl, rfl⟩]
        exact sends
      rw [update_of_ne across]
      refine heard.widen (le_refl _) fun seqNum => answered_send.trans ?_
      exact ⟨Or.imp_right fun ⟨_, _, said⟩ => said, Or.imp_right fun said => ⟨rfl, rfl, said⟩⟩
    · have across : other.other = side := by cases other <;> cases side <;> first | rfl | exact absurd rfl here
      obtain ⟨known, ⟨count, few, all, numbering, opens⟩, ledger, heard⟩ :=
        docked.fits other found ((ends_put_other here).symm.trans stored)
      rw [across] at heard
      refine ⟨known, ?_, ledger, ?_⟩
      · rw [update_of_ne here, sentBy_send, if_neg fun own => here own.1.symm, append_nil]
        exact ⟨count, few, all, numbering, opens⟩
      rw [across, update_self]
      refine heard.widen grows fun seqNum => answered_send.trans ⟨?_, .inl⟩
      exact fun found => found.elim id fun ⟨same, _⟩ => absurd same here
  known envelope member := by
    obtain earlier | new := mem_append.mp member
    · exact docked.known envelope earlier
    · obtain ⟨message, _, rfl⟩ := List.mem_map.mp new
      exact number ▸ (docked.fits side old present).known
  wire envelope member first same := by
    obtain earlier | new := mem_append.mp member
    · obtain ⟨item, positive, below, number⟩ := docked.wire envelope earlier first same
      refine ⟨item, positive, lt_of_lt_of_le below ?_, number⟩
      by_cases here : envelope.origin = side
      · rw [here, update_self]
        exact Int.ofNat_le.mpr grows
      · rw [update_of_ne here]
    · obtain ⟨message, sent, rfl⟩ := List.mem_map.mp new
      exact (update_self side more limit).symm ▸ wire message sent first same

theorem quiet (sends : ∀ count, Numbering count old.zdprSend → Numbering count peer.zdprSend)
    (unsequenced : ∀ message ∈ messages, sequenced message = none) : Docked limit (d.send side peer messages) := by
  obtain ⟨_, ⟨count, few, all, numbering, opens⟩, _⟩ := docked.fits side old present
  have kept := docked.send present number hears (le_refl _) ⟨count, few, all, sends count numbering, ?_⟩ ?_
  · rwa [update_eq_self] at kept
  · rwa [filterMap_eq_nil_iff.mpr unsequenced, append_nil, number]
  intro message member first same
  rw [unsequenced message member] at same
  cases same

end

theorem call {op} (allowed : ∀ windowSize, op = .adjustWindowSize windowSize → windowSize ≤ defaultZdprReceiveWindowSize)
    (called : d.call side op = .ok next) : ∃ more, more ≤ limit side + 1 ∧ Docked (update limit side more) next := by
  rw [Docking.call] at called
  split at called
  · cases called
    exact ⟨limit side, Nat.le_succ _, by rwa [update_eq_self]⟩
  next peer present =>
  obtain ⟨⟨messages, zdprSend⟩, performed, remaining⟩ := bind_ok.mp called
  cases remaining
  obtain ⟨known, ⟨count, few, all, numbering, opens⟩, ledger, hears⟩ := docked.fits side peer present
  obtain ⟨more, grows, most, numbered, sent, opening⟩ := numbering.perform performed allowed
  have unanswered seqNum : ¬ (.ack seqNum ∈ messages ∨ .canceled seqNum ∈ messages) := by
    intro said
    obtain said | said := said
    · obtain ⟨_, _, impossible, _⟩ := sent _ said
      cases impossible
    · obtain ⟨_, _, impossible, _⟩ := sent _ said
      cases impossible
  have number : { peer with zdprSend }.number = peer.number := rfl
  have kept := docked.send present number
    ⟨ledger, hears.widen (Nat.le_refl _) fun seqNum => or_iff_left (unanswered seqNum)⟩ (Nat.le_max_left (limit side) more)
    ⟨more, Nat.le_max_right _ _, fun adapter => by have := all adapter; omega, numbered, ?_⟩ ?_
  · exact ⟨_, by omega, kept⟩
  · by_cases fresh : count = 0
    · obtain ⟨_, silent⟩ | ⟨started, _⟩ := opens
      · rw [silent, nil_append]
        obtain ⟨none, rfl⟩ | ⟨one, packet, rfl⟩ := opening fresh
        · exact .inl ⟨none, rfl⟩
        · exact .inr ⟨by omega, rfl⟩
      · omega
    · obtain ⟨_, first⟩ := opens.append (Nat.pos_of_ne_zero fresh)
      exact .inr ⟨by omega, first⟩
  · intro message member first same
    obtain ⟨other, item, stored, number⟩ := sent message member
    rw [stored] at same
    cases same
    obtain ⟨positive, below, number⟩ := number
    exact ⟨item, positive, by omega, number⟩

section
variable (present : d.ends side = some peer)
include present

theorem answer {disposition : Disposition} {seqNum zdprRecv}
    (hears : ∃ ledger, Hears (limit side.other) (fun other => d.Answered side peer.number other ∨ disposition.shouldAck = true ∧ other = seqNum) zdprRecv ledger) :
    Docked limit (d.send side { peer with zdprRecv } (disposition.reply seqNum)) := by
  obtain ⟨ledger, heard⟩ := hears
  refine docked.quiet present rfl ⟨ledger, heard.widen (le_refl _) ?_⟩ (fun _ => id) (reply_unsequenced _ _)
  intro other
  rw [mem_reply]

theorem heed {zdprSend} (sends : ∀ count, Numbering count peer.zdprSend → Numbering count zdprSend) :
    Docked limit (d.send side { peer with zdprSend } []) := by
  obtain ⟨_, _, ledger, heard⟩ := docked.fits side peer present
  exact docked.quiet present rfl ⟨ledger, heard.widen (le_refl _) fun _ => by simp⟩ sends nofun

theorem receive (small : limit side.other ≤ 2 ^ 57) {message}
    (known : ∀ first, sequenced message = some first → ∃ item, Numbered (limit side.other) first.1 item) {queueFull}
    (received : d.receive side peer queueFull message = .ok next) : Docked limit next := by
  obtain ⟨_, _, ledger, heard⟩ := docked.fits side peer present
  cases message with
  | data seqNum packet =>
    obtain ⟨item, numbered⟩ := known _ rfl
    obtain ⟨⟨disposition, zdprRecv⟩, dispatched, remaining⟩ := bind_ok.mp received
    cases remaining
    exact docked.answer present (heard.dispatch small numbered dispatched)
  | cancel seqNum =>
    obtain ⟨item, numbered⟩ := known _ rfl
    obtain ⟨⟨disposition, zdprRecv⟩, processed, remaining⟩ := bind_ok.mp received
    cases remaining
    exact docked.answer present (heard.receive small numbered processed)
  | ack seqNum =>
    obtain ⟨⟨packet, woken, zdprSend⟩, processed, remaining⟩ := bind_ok.mp received
    cases remaining
    exact docked.heed present fun _ numbering => numbering.processAck processed
  | canceled seqNum =>
    obtain ⟨⟨woken, zdprSend⟩, processed, remaining⟩ := bind_ok.mp received
    cases remaining
    exact docked.heed present fun _ numbering => numbering.processCanceled processed

end

theorem deliver (small : ∀ side, limit side ≤ 2 ^ 57) {index queueFull} (delivered : d.deliver index queueFull = .ok next) :
    Docked limit next := by
  rw [Docking.deliver] at delivered
  split at delivered
  · cases delivered
    exact docked
  next envelope found =>
  split at delivered
  · cases delivered
    exact docked
  next peer present =>
  split at delivered
  · have back : envelope.origin.other.other = envelope.origin := by cases envelope.origin <;> rfl
    refine docked.receive present (small _) ?_ delivered
    rw [back]
    exact docked.wire envelope (mem_of_getElem? found)
  · cases delivered
    exact docked

theorem processLinkStateEvent (event : Km.LinkEvent) : Docked limit (d.processLinkStateEvent side event) := by
  obtain same | same | ⟨peer, link, pft, present, same⟩ := d.processLinkStateEvent_cases side event
  · rwa [same]
  · rw [same]
    exact docked.put fun _ impossible => nomatch impossible
  rw [same]
  apply docked.put
  intro changed equal
  cases equal
  exact ⟨peer, present, rfl, rfl, rfl⟩

theorem recount {peers} (more : d.peers ≤ peers) (associations : Nat) :
    Docked limit { d with peers, associations } where
  fits side peer present := by
    obtain ⟨known, sends, hears⟩ := docked.fits side peer present
    exact ⟨lt_of_lt_of_le known more, sends, hears⟩
  known envelope member := lt_of_lt_of_le (docked.known envelope member) more
  wire := docked.wire

theorem establish (adapterSa nodeSa) : Docked limit (d.establish adapterSa nodeSa) := by
  rw [Docking.establish]
  split
  · next adapter node adapterPresent nodePresent =>
    split
    · have keyed : Docked limit
          ({ d with associations := d.associations + 1 }.put .adapter (some (adapter.keyed d.associations adapterSa))) := by
        apply (docked.recount (le_refl _) _).put
        intro changed equal
        cases equal
        exact ⟨adapter, adapterPresent, rfl, rfl, rfl⟩
      apply keyed.put
      intro changed equal
      cases equal
      have different : Side.node ≠ Side.adapter := nofun
      exact ⟨node, (ends_put_other different).trans nodePresent, rfl, rfl, rfl⟩
    · exact docked
  · exact docked

omit docked in
theorem fresh {number linkType} (made : DockPeer.new number linkType = .ok peer) (known : number < d.peers)
    (unused : ∀ envelope ∈ d.network, envelope.origin = side → envelope.number ≠ number)
    (none : side = .adapter → limit side = 0) : PeerFits limit d side peer := by
  obtain ⟨zdprRecv, received, remaining⟩ := bind_ok.mp made
  cases remaining
  refine ⟨known, ⟨0, zero_le _, fun adapter => (none adapter).symm, .new, .inl ⟨rfl, ?_⟩⟩, _, .new received ?_⟩
  · rw [sentBy, filter_eq_nil_iff.mpr]
    · rfl
    · intro envelope member
      exact mt of_decide_eq_true fun ⟨origin, same⟩ => unused envelope member origin same
  · intro seqNum ⟨association, said⟩
    obtain said | said := said <;> exact unused _ said rfl rfl

theorem startTether (started : d.startTether = .ok next) : Docked limit next := by
  rw [Docking.startTether] at started
  split at started
  · cases started
    exact docked
  obtain ⟨peer, made, remaining⟩ := bind_ok.mp started
  cases remaining
  have counted := docked.recount (le_succ _) d.associations
  refine ⟨?_, counted.known, counted.wire⟩
  intro other found stored
  by_cases here : other = .node
  · subst here
    cases ends_put_self.symm.trans stored
    refine fresh made (lt_succ_self _) (fun envelope member _ same => ?_) nofun
    have below := docked.known envelope member
    omega
  · obtain ⟨known, sends, hears⟩ := counted.fits other found ((ends_put_other here).symm.trans stored)
    exact ⟨known, sends, hears⟩

omit docked in
theorem new {start : Docking Transport Cert Pkt} (made : Docking.new = .ok start) : Docked (fun _ => 0) start := by
  obtain ⟨adapter, created, remaining⟩ := bind_ok.mp made
  cases remaining
  refine ⟨?_, nofun, nofun⟩
  intro side peer present
  cases side with
  | adapter =>
    cases present
    exact fresh created (lt_succ_self _) nofun fun _ => rfl
  | node => cases present

theorem step (small : ∀ side, limit side ≤ 2 ^ 57) {label} (allowed : d.Allowed label) (stepped : d.step label = .ok next) :
    ∃ more : Side → Nat, (∀ side, more side ≤ limit side + 1) ∧ Docked more next := by
  have same {after : Docking Transport Cert Pkt} kept :
      ∃ more : Side → Nat, (∀ side, more side ≤ limit side + 1) ∧ Docked more after :=
    ⟨limit, fun _ => le_succ _, kept⟩
  cases label with
  | link side event =>
    cases stepped
    exact same (docked.processLinkStateEvent event)
  | startTether => exact same (docked.startTether stepped)
  | establish adapterSa nodeSa =>
    cases stepped
    exact same (docked.establish adapterSa nodeSa)
  | call side op =>
    obtain ⟨more, few, kept⟩ := docked.call (fun windowSize equal => by subst equal; exact allowed) stepped
    refine ⟨_, fun other => ?_, kept⟩
    by_cases here : other = side
    · rw [here, update_self]
      exact few
    · rw [update_of_ne here]
      exact le_succ _
  | deliver index queueFull => exact same (docked.deliver small stepped)

end

end Docked

namespace Docking
variable {start d : Docking Transport Cert Pkt} {labels}

theorem run_docked (made : Docking.new = .ok start) (run : Run step Allowed start labels d)
    (few : labels.length < 2 ^ 57) : ∃ limit : Side → Nat, (∀ side, limit side ≤ labels.length) ∧ Docked limit d := by
  have kept := run.indexed (2 ^ 57)
    (fun taken state => ∃ limit : Side → Nat, (∀ side, limit side ≤ taken) ∧ Docked limit state) ?_
    (by omega : 0 + labels.length ≤ 2 ^ 57) ⟨_, fun _ => le_refl 0, .new made⟩
  · rwa [zero_add] at kept
  intro taken state label next inside allowed ⟨limit, bounded, docked⟩ stepped
  obtain ⟨more, grows, kept⟩ := docked.step (fun side => by have := bounded side; omega) allowed stepped
  exact ⟨more, fun side => le_trans (grows side) (succ_le_succ (bounded side)), kept⟩

/-- A restart in both directions. The node's new receiver admits the numbers that the adapter goes
on with if they are below its window size, and while it has answered nothing, only those. The
first packet of the node's new sender has number zero, and it is processed exactly if the
adapter's peer, which is the one of all earlier sessions, has never answered that number. -/
theorem restart_resyncs_iff (made : Docking.new = .ok start) (run : Run step Allowed start labels d)
    (few : labels.length < 2 ^ 57) {adapter node : DockPeer Transport Cert Pkt} (here : d.ends .adapter = some adapter)
    (there : d.ends .node = some node) :
    (∀ seqNum isCancel, Awaits adapter.zdprSend seqNum →
      (seqNum.toNat < defaultZdprReceiveWindowSize → Admits node.zdprRecv seqNum isCancel) ∧
        ((∀ other, ¬ d.Answered .node node.number other) →
          (Admits node.zdprRecv seqNum isCancel ↔ seqNum.toNat < defaultZdprReceiveWindowSize))) ∧
    (∀ first, (d.sentBy .node node.number).head? = some first → first = (0, false) ∧
      ((∃ next, adapter.zdprRecv.processPacketOrCancel 0 false = .ok (.ackAndProcess, next)) ↔
        ¬ d.Answered .adapter adapter.number 0)) := by
  obtain ⟨limit, bounded, docked⟩ := run_docked made run few
  obtain ⟨_, ⟨count, _, all, numbering, _⟩, heardLedger, heard⟩ := docked.fits .adapter adapter here
  obtain ⟨_, ⟨sent, within, _, _, opens⟩, ledger, hears⟩ := docked.fits .node node there
  have small side : limit side ≤ 2 ^ 57 := le_trans (bounded side) (le_of_lt few)
  refine ⟨?_, ?_⟩
  · intro seqNum isCancel ⟨index, inside, place⟩
    obtain rfl := all rfl
    have started := numbering.started
    have length := numbering.length
    obtain ⟨item, same⟩ : ∃ item : Nat, (limit .adapter - adapter.zdprSend.unacked.length + index : Int) = item :=
      ⟨limit .adapter - adapter.zdprSend.unacked.length + index, by omega⟩
    have numbered : Numbered (limit .adapter) seqNum item := by
      rw [place, ← same]
      exact numbering.numbered inside
    have bound := small .adapter
    have number : seqNum.toNat = item := by
      rw [numbered.2.2, BitVec.ofInt_natCast, BitVec.toNat_ofNat, mod_eq_of_lt (by omega)]
    have admits := hears.admits_iff bound numbered (by dsimp only [Side.other]; omega) isCancel
    rw [number]
    constructor
    · intro young
      exact admits.mpr fun older far => absurd far (by omega)
    intro silent
    refine admits.trans ⟨fun all => ?_, fun young older far => absurd far (by omega)⟩
    by_contra old
    exact silent _ (all 0 (by omega))
  · intro first found
    obtain ⟨_, silent⟩ | ⟨started, opening⟩ := opens
    · rw [silent] at found
      cases found
    rw [opening] at found
    cases found
    exact ⟨rfl, heard.processes_zero_iff (small _) (lt_of_lt_of_le started within)⟩

def sampleSa : KmTransportSA Unit Unit := ⟨1, ⟨1, 2⟩, ⟨3, 4⟩, .replicate 32 0, .replicate 32 0, .null, none⟩

/-- A session begins and its keys are agreed on. -/
def bringUp : List (DockStep Unit Unit Nat) :=
  [.link .adapter .start, .startTether, .link .node .start, .establish sampleSa sampleSa,
    .link .adapter .keyingDone, .link .node .keyingDone]

/-- A session is ended by the adapter: the node drops its peer, the adapter's link is inactive again. -/
def takeDown : List (DockStep Unit Unit Nat) :=
  [.link .adapter (.close ⟨false, false⟩), .link .node .receivedTerminateLink, .link .node .closeDone,
    .link .adapter .receivedTerminateAck, .link .adapter .closeDone]

/-- The first session ends before the node has sent anything. -/
def sampleEarly : List (DockStep Unit Unit Nat) :=
  bringUp ++ [.call .adapter (.enqueuePacket 10)] ++ takeDown ++ bringUp ++ [.call .node (.enqueuePacket 20)]

theorem restart_resyncs_sample : ∃ (start d : Docking Unit Unit Nat) (adapter node : DockPeer Unit Unit Nat),
    Docking.new = .ok start ∧ Run step Allowed start sampleEarly d ∧ d.ends .adapter = some adapter ∧
    d.ends .node = some node ∧ node.number = 2 ∧
    (∀ first, (d.sentBy .node node.number).head? = some first → first = (0, false) ∧
      ((∃ next, adapter.zdprRecv.processPacketOrCancel 0 false = .ok (.ackAndProcess, next)) ↔
        ¬ d.Answered .adapter adapter.number 0)) := by
  obtain ⟨start, made⟩ : ∃ start, Docking.new = .ok start := ⟨_, rfl⟩
  obtain ⟨d, run, here, there⟩ := @Runs.Run.exists_of_execWhere _ _ _ step Allowed sampleEarly start _
    (fun d => (d.ends .adapter).isSome ∧ (d.ends .node).map (·.number) = some 2) _ (by cases made; decide +kernel)
  obtain ⟨adapter, here⟩ := isSome_iff_exists.mp here
  obtain ⟨node, there, number⟩ := map_eq_some_iff.mp there
  exact ⟨start, d, adapter, node, made, run, here, there, number, (restart_resyncs_iff made run (by decide) here there).2⟩

/-- Both sides exchange a packet in the first session. -/
def sampleLate : List (DockStep Unit Unit Nat) :=
  bringUp ++ [.call .adapter (.enqueuePacket 10), .deliver 0 false, .deliver 1 false,
    .link .node (.receivedHelloRequest false true ⟨false, false⟩), .call .node (.enqueuePacket 20), .deliver 2 false,
    .deliver 3 false, .link .adapter (.receivedHelloResponse true true false true ⟨false, false⟩)] ++ takeDown ++
  bringUp ++ [.call .adapter (.enqueuePacket 11), .deliver 4 false, .deliver 5 false,
    .link .node (.receivedHelloRequest false true ⟨false, false⟩), .call .node (.enqueuePacket 21)]

/-- The node's first packet of the second session is taken for a duplicate. -/
theorem restart_repeats : ∃ start d : Docking Unit Unit Nat, Docking.new = .ok start ∧
    Run step Allowed start sampleLate d ∧
    (d.ends .node).map (fun node => (node.number, (d.sentBy .node node.number).head?)) = some (2, some (0, false)) ∧
    (d.ends .adapter).map (fun adapter => (adapter.zdprRecv.processPacketOrCancel 0 false).toOption.map (·.1)) =
      some (some .ackDoNotProcess) := by
  obtain ⟨start, made⟩ : ∃ start, Docking.new = .ok start := ⟨_, rfl⟩
  exact ⟨start, exists_and_left.mpr ⟨made, Run.exists_of_execWhere (by cases made; decide +kernel)⟩⟩

end Docking
end ZprCore.Mgmt
