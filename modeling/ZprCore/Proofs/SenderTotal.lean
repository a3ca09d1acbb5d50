import ZprCore.Mgmt.Dispatch
import ZprCore.Proofs.ZdprSender

/-! Which acknowledgements a sender can handle. The queue of sent packets never refers to a
packet that has left the window, so cleaning it up never leaves the range of the window
arithmetic. What is left is the distance of the acknowledged number itself. -/

namespace ZprCore.Zdpr
open Panic Serial List Sender Mgmt Nat
variable {Pkt : Type} {messages}

/-- Numbers of the sent queue in the order they were sent. -/
def Precedes (last : SeqNum) (older newer : Option SeqNum) : Prop :=
  ∀ one two, older = some one → newer = some two → distance one last < distance two last

namespace Sender
variable {s next : Sender Pkt}
variable {sn : SeqNum}

/-- The sent queue names packets of the window only, the oldest first. -/
structure Tidy (s : Sender Pkt) : Prop where
  windowSize : s.windowSize < 2 ^ 63
  unacked : s.unacked.length < 2 ^ 63
  held : ∀ sn, some sn ∈ s.sent →
    -(s.unacked.length : Int) < distance sn s.lastSent ∧ distance sn s.lastSent ≤ 0
  ordered : s.sent.Pairwise (Precedes s.lastSent)

theorem Tidy.new : (Sender.new : Sender Pkt).Tidy := by
  refine ⟨by simp [Sender.new], by simp [Sender.new], ?_, .nil⟩
  intro sn member
  cases member

theorem ordered_append {last sent} (ordered : sent.Pairwise (Precedes last)) (count : Nat) :
    (sent ++ replicate count none).Pairwise (Precedes last) := by
  refine pairwise_append.mpr ⟨ordered, ?_, ?_⟩
  · refine pairwise_replicate.mpr (.inr ?_)
    intro one two impossible
    cases impossible
  intro older member newer blank one two _ named
  rw [eq_of_mem_replicate blank] at named
  cases named

theorem Tidy.retains (tidy : s.Tidy) (retains : Retains s next) : next.Tidy := by
  obtain ⟨count, sent⟩ := retains.sent
  refine ⟨retains.windowSize ▸ tidy.windowSize, retains.length ▸ tidy.unacked, ?_, ?_⟩
  · intro sn member
    rw [sent, mem_append] at member
    rw [retains.length, retains.lastSent]
    rcases member with member | blank
    · exact tidy.held sn member
    · cases eq_of_mem_replicate blank
  · rw [sent, retains.lastSent]
    exact ordered_append tidy.ordered count

theorem distance_succ {last} (inside : -2 ^ 63 < distance sn last) :
    distance sn (last + 1) = distance sn last - 1 := by
  have upper : distance sn last < 2 ^ 63 := BitVec.toInt_lt
  have first := ofInt_add_distance sn last.toInt
  have second : BitVec.ofInt 64 (last.toInt + 1) = last + 1 := by
    rw [BitVec.ofInt_add, BitVec.ofInt_toInt]
    rfl
  rw [BitVec.ofInt_toInt] at first
  rw [← second]
  nth_rewrite 1 [← first]
  rw [distance_ofInt (by decide) (by omega) (by omega)]
  omega

theorem distance_self (last : SeqNum) : distance last last = 0 := by
  rw [distance, BitVec.sub_self]
  rfl

theorem Tidy.pushes (tidy : s.Tidy) {packet} (pushes : Pushes s next packet) : next.Tidy := by
  obtain ⟨count, noted, fresh, queued⟩ := pushes.sent
  obtain ⟨waker, limit, entry⟩ := pushes.entry
  have length : next.unacked.length = s.unacked.length + 1 := by simp [entry]
  have room := pushes.room
  have small := tidy.windowSize
  have moved : ∀ sn, some sn ∈ s.sent → distance sn next.lastSent = distance sn s.lastSent - 1 := by
    intro sn member
    rw [pushes.lastSent]
    have low := (tidy.held sn member).1
    exact distance_succ (by omega)
  refine ⟨pushes.windowSize ▸ small, by omega, ?_, ?_⟩
  · intro sn member
    rw [queued, mem_append, mem_append] at member
    rcases member with (member | new) | blank
    · have old := tidy.held sn member
      rw [moved sn member, length]
      omega
    · rcases fresh with rfl | rfl
      · cases new
      cases mem_singleton.mp new
      rw [distance_self, length]
      omega
    · cases eq_of_mem_replicate blank
  · rw [queued]
    refine ordered_append (pairwise_append.mpr ⟨?_, ?_, ?_⟩) count
    · refine tidy.ordered.imp_of_mem ?_
      intro older newer olderIn newerIn precedes one two first second
      have behind := precedes one two first second
      subst first
      subst second
      rw [moved one olderIn, moved two newerIn]
      omega
    · rcases fresh with rfl | rfl
      · exact .nil
      · exact pairwise_singleton _ _
    · intro older olderIn newer newerIn one two first second
      rcases fresh with rfl | rfl
      · cases newerIn
      cases mem_singleton.mp newerIn
      cases second
      subst first
      have old := (tidy.held one olderIn).2
      rw [moved one olderIn, distance_self]
      omega

/-- The number is in the window, and its entry was not acknowledged. -/
def Awaits (s : Sender Pkt) (sn : SeqNum) : Prop :=
  ∃ index : Nat, distance sn s.lastSent = index + 1 - s.unacked.length ∧
    ∃ entry, s.unacked[index]? = some entry ∧ entry.isAcked = false

/-- If the sent queue is not empty, it begins with a number that is to be acknowledged. -/
def Fronts (s : Sender Pkt) (sent : List (Option SeqNum)) : Prop := ∀ entry ∈ sent.head?, ∃ sn, entry = some sn ∧ s.Awaits sn

theorem isAcked_returns (lower : -2 ^ 63 < distance sn s.lastSent) (upper : distance sn s.lastSent ≤ 0) :
    ∃ acked, s.isAcked sn = .ok acked ∧ (acked = false → s.Awaits sn) := by
  unfold isAcked
  dsimp only
  rw [if_neg (by omega), neg64_returns (by omega), ok_bind]
  by_cases old : -distance sn s.lastSent ≥ s.unacked.length
  · rw [if_pos old]
    exact ⟨true, rfl, fun impossible => by cases impossible⟩
  rw [if_neg old]
  have inside : (s.unacked.length + distance sn s.lastSent - 1).toNat < s.unacked.length := by omega
  rw [get_ok.mpr (getElem?_eq_getElem inside), ok_bind]
  exact ⟨_, rfl, fun waits => ⟨_, by omega, _, getElem?_eq_getElem inside, waits⟩⟩

/-- Cleaning stops at a number that is still in the window, and so are all that follow it. -/
theorem cleanSent_returns {entries} (ordered : entries.Pairwise (Precedes s.lastSent))
    (near : ∀ sn, some sn ∈ entries → -2 ^ 63 < distance sn s.lastSent ∧ distance sn s.lastSent ≤ 0) :
    ∃ rest, s.cleanSent entries = .ok rest ∧ rest <:+ entries ∧ s.Fronts rest ∧
      ∀ sn, some sn ∈ rest → -(s.unacked.length : Int) < distance sn s.lastSent := by
  induction entries with
  | nil => exact ⟨[], rfl, suffix_rfl, nofun, nofun⟩
  | cons entry entries ih =>
    obtain ⟨behind, remaining⟩ := pairwise_cons.mp ordered
    obtain ⟨rest, cleaned, suffix, held⟩ := ih remaining fun sn member => near sn (mem_cons_of_mem _ member)
    cases entry with
    | none => exact ⟨rest, cleaned, suffix.trans (suffix_cons _ _), held⟩
    | some sn =>
      obtain ⟨lower, upper⟩ := near sn mem_cons_self
      obtain ⟨acked, returned, waits⟩ := isAcked_returns lower upper
      simp only [cleanSent, returned, ok_bind]
      cases acked with
      | true => exact ⟨rest, cleaned, suffix.trans (suffix_cons _ _), held⟩
      | false =>
        refine ⟨some sn :: entries, rfl, suffix_rfl, fun _ first => ⟨sn, (Option.some.inj first).symm, waits rfl⟩, ?_⟩
        intro other member
        have first : -(s.unacked.length : Int) < distance sn s.lastSent := by
          obtain ⟨index, offset, _⟩ := waits rfl
          omega
        rcases mem_cons.mp member with same | later
        · cases same
          exact first
        · have further := behind (some other) later sn other rfl rfl
          omega

theorem Tidy.cleans (tidy : s.Tidy) {middle : Sender Pkt} (windowSize : middle.windowSize = s.windowSize)
    (lastSent : middle.lastSent = s.lastSent) (shorter : middle.unacked.length ≤ s.unacked.length)
    (sent : middle.sent = s.sent) :
    ∃ next, middle.cleanSentQueue = .ok next ∧ next.Tidy ∧ next.stats = middle.stats ∧ next.Fronts next.sent := by
  have small := tidy.unacked
  have near : ∀ sn, some sn ∈ s.sent →
      -2 ^ 63 < distance sn middle.lastSent ∧ distance sn middle.lastSent ≤ 0 := by
    intro sn member
    have held := tidy.held sn member
    rw [lastSent]
    omega
  have ordered : s.sent.Pairwise (Precedes middle.lastSent) := lastSent ▸ tidy.ordered
  obtain ⟨rest, cleaned, suffix, fronts, held⟩ := cleanSent_returns ordered near
  refine ⟨{ middle with sent := rest }, by rw [cleanSentQueue, sent, cleaned]; rfl, ?_, rfl, fronts⟩
  refine ⟨windowSize ▸ tidy.windowSize, by dsimp only; omega, ?_, ordered.sublist suffix.sublist⟩
  intro sn member
  exact ⟨held sn member, (near sn (suffix.subset member)).2⟩

theorem cleanUnacked_length (entries : List (UnackedState Pkt)) : (cleanUnacked entries).length ≤ entries.length := by
  obtain ⟨front, same, _⟩ := cleanUnacked_drops entries
  have := congrArg length same
  rw [length_append] at this
  omega

/-- One entry changes, the front of the window is cleaned if it was the oldest, and then
the sent queue. -/
theorem Tidy.replaces (tidy : s.Tidy) (index : Nat) (entry : UnackedState Pkt) :
    ∃ next, cleanSentQueue (if index = 0 then { s with unacked := s.unacked.set index entry }.cleanUnackedQueue
      else { s with unacked := s.unacked.set index entry }) = .ok next ∧
      next.Tidy ∧ next.stats = s.stats ∧ next.Fronts next.sent := by
  split
  · refine tidy.cleans rfl rfl ?_ rfl
    have := cleanUnacked_length (s.unacked.set index entry)
    rwa [length_set] at this
  · exact tidy.cleans rfl rfl (by simp) rfl

theorem Replaces.tidy {outcome} (replaces : Replaces outcome sn s next) (tidy : s.Tidy) :
    next.Tidy ∧ next.Fronts next.sent := by
  obtain ⟨index, old, new, _, _, _, cleaned⟩ := replaces
  obtain ⟨after, same, kept, _, fronts⟩ := tidy.replaces index new
  cases same.symm.trans cleaned
  exact ⟨kept, fronts⟩

theorem forgetCanceledPacket_tidy (tidy : s.Tidy) (forgotten : s.forgetCanceledPacket sn = .ok next) : next.Tidy := by
  obtain rfl | replaces := forgetCanceledPacket_cases forgotten
  · exact tidy
  · exact (replaces.tidy tidy).1

/-- No caller's operation untidies the sent queue. A window of half the address space or
more cannot be allocated. -/
theorem perform_tidy (tidy : s.Tidy) {op} (small : ∀ windowSize, op = .adjustWindowSize windowSize → windowSize < 2 ^ 63)
    (performed : s.perform op = .ok (messages, next)) : next.Tidy := by
  cases perform_ok performed with
  | pushes pushes => exact tidy.pushes pushes
  | retains retains _ => exact tidy.retains retains
  | forgets forgotten => exact forgetCanceledPacket_tidy tidy forgotten
  | adjusts adjusted =>
    subst adjusted
    have bound := small _ rfl
    exact ⟨by dsimp only; omega, tidy.unacked, tidy.held, tidy.ordered⟩

/-- What handling an acknowledgement may leave: every statistic still fits its counter, and
a number outside the window changed nothing else, gave nothing back and woke no one. -/
structure Heeds (s : Sender Pkt) (sn : SeqNum) (packet : Option Pkt) (woken : List Waker) (next : Sender Pkt) :
    Prop where
  stats : ∀ stat, next.stats stat < 2 ^ 64
  outside : (∀ index, ¬ s.Holds sn index) → packet = none ∧ woken = [] ∧ ∃ stats, next = { s with stats }

/-- Both kinds of acknowledgement of the number are handled without a panic. -/
def AcksTotal (s : Sender Pkt) (sn : SeqNum) : Prop :=
  (∃ packet woken next, s.processAck sn = .ok (packet, woken, next) ∧ s.Heeds sn packet woken next) ∧
    ∃ woken next, s.processCanceled sn = .ok (woken, next) ∧ s.Heeds sn none woken next

theorem Tidy.counts (tidy : s.Tidy) (stat : SenderStat) : (s.count stat).Tidy :=
  ⟨tidy.windowSize, tidy.unacked, tidy.held, tidy.ordered⟩

theorem antipode_overflows (least : s.Antipode sn) :
    s.processAck sn = .error .overflow ∧ s.processCanceled sn = .error .overflow := by
  unfold processAck processCanceled
  have looks := s.lookupAckIndex_cases sn
  generalize s.lookupAckIndex sn = looked at looks
  cases looks with
  | antipode => exact ⟨rfl, rfl⟩
  | tooNew _ other | tooOld other | holds other => exact absurd least other

variable (zero : ∀ stat, s.stats stat = 0)
include zero

theorem Heeds.counted (sn : SeqNum) (stat : SenderStat) : s.Heeds sn none [] (s.count stat) := by
  refine ⟨?_, fun _ => ⟨rfl, rfl, _, rfl⟩⟩
  intro other
  simp only [count, zero]
  split <;> omega

theorem Heeds.settled {index} (holds : s.Holds sn index) (packet : Option Pkt) (woken : List Waker)
    (stats : next.stats = s.stats) : s.Heeds sn packet woken next := by
  refine ⟨?_, fun outside => absurd holds (outside index)⟩
  intro stat
  rw [stats, zero]
  omega

variable (tidy : s.Tidy)
include tidy

theorem processAck_returns (other : ¬ s.Antipode sn) :
    ∃ packet woken next, s.processAck sn = .ok (packet, woken, next) ∧ s.Heeds sn packet woken next ∧ next.Tidy := by
  unfold processAck
  have looks := s.lookupAckIndex_cases sn
  generalize s.lookupAckIndex sn = looked at looks
  cases looks with
  | antipode least => exact absurd least other
  | tooNew | tooOld => exact ⟨_, _, _, rfl, .counted zero sn _, tidy.counts _⟩
  | @holds index entry _ holds found =>
    rw [ok_bind]
    dsimp only
    rw [get_ok.mpr found, ok_bind]
    cases entry.processAck with
    | error stat => exact ⟨_, _, _, rfl, .counted zero sn stat, tidy.counts stat⟩
    | ok given =>
      obtain ⟨packet, waker⟩ := given
      obtain ⟨next, cleaned, kept, stats, _⟩ := tidy.replaces index .acked
      dsimp only
      rw [cleaned, ok_bind]
      exact ⟨_, _, _, rfl, .settled zero holds _ _ stats, kept⟩

theorem processCanceled_returns (other : ¬ s.Antipode sn) :
    ∃ woken next, s.processCanceled sn = .ok (woken, next) ∧ s.Heeds sn none woken next ∧ next.Tidy := by
  unfold processCanceled
  have looks := s.lookupAckIndex_cases sn
  generalize s.lookupAckIndex sn = looked at looks
  cases looks with
  | antipode least => exact absurd least other
  | tooNew | tooOld => exact ⟨_, _, rfl, .counted zero sn _, tidy.counts _⟩
  | @holds index entry _ holds found =>
    rw [ok_bind]
    dsimp only
    rw [get_ok.mpr found, ok_bind]
    cases entry.processCanceled with
    | error stat => exact ⟨_, _, rfl, .counted zero sn stat, tidy.counts stat⟩
    | ok given =>
      obtain ⟨waker, reached⟩ := given
      obtain ⟨next, cleaned, kept, stats, _⟩ := tidy.replaces index reached
      dsimp only
      rw [cleaned, ok_bind]
      exact ⟨_, _, rfl, .settled zero holds _ _ stats, kept⟩

theorem acksTotal_iff (sn : SeqNum) : s.AcksTotal sn ↔ ¬ s.Antipode sn := by
  constructor
  · intro total least
    obtain ⟨⟨packet, woken, next, returned, _⟩, _⟩ := total
    rw [(antipode_overflows least).1] at returned
    cases returned
  · intro other
    obtain ⟨packet, woken, next, acked, heeds, _⟩ := processAck_returns zero tidy other
    obtain ⟨woken', next', canceled, heeds', _⟩ := processCanceled_returns zero tidy other
    exact ⟨⟨packet, woken, next, acked, heeds⟩, woken', next', canceled, heeds'⟩

end Sender

/-- What happens to the sender of a link: its callers' operations, and acknowledgements and
cancellations with any number a peer may have put in them. -/
inductive Traffic (Pkt : Type) where
  | call (op : SenderOp Pkt)
  | acknowledge (seqNum : SeqNum) (isCanceled : Bool)

namespace Traffic
variable {s next : Sender Pkt} {sent}

def step (s : Sender Pkt) : Traffic Pkt → Except Panic (Sender Pkt)
  | .call op => do return (← s.perform op).2
  | .acknowledge seqNum isCanceled => do return (← Mgmt.acknowledge s seqNum isCanceled).2

/-- Room for a window of 2^63 entries or more cannot be reserved. -/
def Allowed (_ : Sender Pkt) : Traffic Pkt → Prop
  | .call (.adjustWindowSize windowSize) => windowSize < 2 ^ 63
  | _ => True

instance (s : Sender Pkt) (event : Traffic Pkt) : Decidable (Allowed s event) := by
  unfold Allowed
  split <;> infer_instance

/-- Between two events the sent queue is tidy and every statistic has been fetched. -/
structure Settled (s : Sender Pkt) : Prop where
  tidy : s.Tidy
  zero : ∀ stat, s.stats stat = 0

theorem cleanBlocked_shorter (blocked : List (BlockedState Pkt)) (sent : List (Option SeqNum)) :
    (cleanBlocked blocked sent).1.length ≤ blocked.length := by
  fun_induction cleanBlocked blocked sent with
  | case1 rest sent ih =>
    rw [length_cons]
    omega
  | case2 blocked sent other => exact le_refl _

theorem enqueueNextBlockedPacket_shorter {sn packet woken}
    (enqueued : s.enqueueNextBlockedPacket = .ok ((sn, packet), woken, next)) : next.blocked.length < s.blocked.length := by
  obtain ⟨waker, limit, rest, _, found, _, _, rfl⟩ := enqueueNextBlockedPacket_ok enqueued
  rw [found, length_cons]
  exact lt_succ_of_le (cleanBlocked_shorter rest _)

/-- As many rounds as there are blocked packets end the loop as the source does. -/
theorem sendUnblocked_done {rounds} (enough : s.blocked.length ≤ rounds)
    (unblocked : sendUnblocked rounds s = .ok (sent, next)) : next.unblockNeeded = false := by
  induction rounds generalizing s sent with
  | zero =>
    cases unblocked
    have empty := eq_nil_of_length_eq_zero (le_zero.mp enough)
    simp [unblockNeeded, hasBlockedPackets, empty]
  | succ rounds ih =>
    simp only [sendUnblocked] at unblocked
    split at unblocked
    · obtain ⟨⟨first, woken, middle⟩, enqueued, unblocked⟩ := bind_ok.mp unblocked
      obtain ⟨⟨rest, last⟩, remaining, unblocked⟩ := bind_ok.mp unblocked
      cases unblocked
      have shorter := enqueueNextBlockedPacket_shorter enqueued
      exact ih (le_of_lt_succ (lt_of_lt_of_le shorter enough)) remaining
    · rename_i finished
      cases unblocked
      exact Bool.eq_false_iff.mpr finished

/-- The loop keeps what each of its rounds keeps. -/
theorem sendUnblocked_keeps {holds : Sender Pkt → Prop} {rounds s next sent}
    (keeps : ∀ {s sn packet woken next}, s.enqueueNextBlockedPacket = .ok ((sn, packet), woken, next) → holds s → holds next)
    (unblocked : sendUnblocked rounds s = .ok (sent, next)) (kept : holds s) : holds next := by
  induction rounds generalizing s sent with
  | zero =>
    cases unblocked
    exact kept
  | succ rounds ih =>
    simp only [sendUnblocked] at unblocked
    split at unblocked
    · obtain ⟨⟨⟨sn, packet⟩, woken, middle⟩, enqueued, unblocked⟩ := bind_ok.mp unblocked
      obtain ⟨⟨rest, last⟩, remaining, unblocked⟩ := bind_ok.mp unblocked
      cases unblocked
      exact ih remaining (keeps enqueued kept)
    · cases unblocked
      exact kept

/-- Either kind of acknowledgement is handled, for every number but the opposite one. -/
theorem processAcknowledgement_exactly (settled : Settled s) (sn : SeqNum) (isCanceled : Bool) :
    Panic.Exactly (¬ s.Antipode sn) Sender.Tidy (processAcknowledgement s sn isCanceled) := by
  by_cases least : s.Antipode sn
  · obtain ⟨acked, canceled⟩ := antipode_overflows least
    cases isCanceled with
    | true =>
      rw [processAcknowledgement, canceled]
      exact not_not_intro least
    | false =>
      rw [processAcknowledgement, acked]
      exact not_not_intro least
  · cases isCanceled with
    | true =>
      obtain ⟨woken, next, canceled, _, tidy⟩ := processCanceled_returns settled.zero settled.tidy least
      rw [processAcknowledgement, canceled]
      exact ⟨least, tidy⟩
    | false =>
      obtain ⟨packet, woken, next, acked, _, tidy⟩ := processAck_returns settled.zero settled.tidy least
      rw [processAcknowledgement, acked]
      exact ⟨least, tidy⟩

theorem acknowledge_settled {seqNum isCanceled} (settled : Settled s)
    (acknowledged : Mgmt.acknowledge s seqNum isCanceled = .ok (sent, next)) : Settled next := by
  obtain ⟨middle, processed, unblocked⟩ := bind_ok.mp acknowledged
  have exactly := processAcknowledgement_exactly settled seqNum isCanceled
  rw [processed] at exactly
  have tidy := exactly.2
  refine sendUnblocked_keeps (fun enqueued settled => ?_) unblocked ?_
  · obtain ⟨pushes, _⟩ := enqueueNextBlockedPacket_pushes enqueued
    exact ⟨settled.tidy.pushes pushes, pushes.stats ▸ settled.zero⟩
  · rw [Mgmt.countZdprSenderStats_eq]
    exact ⟨⟨tidy.windowSize, tidy.unacked, tidy.held, tidy.ordered⟩, fun stat => rfl⟩

theorem Settled.perform (settled : Settled s) {op}
    (small : ∀ windowSize, op = .adjustWindowSize windowSize → windowSize < 2 ^ 63)
    (performed : s.perform op = .ok (messages, next)) : Settled next :=
  ⟨perform_tidy settled.tidy small performed,
    fun stat => le_zero.mp (settled.zero stat ▸ perform_stats performed stat)⟩

theorem step_settled {event} (allowed : Allowed s event) (settled : Settled s) (stepped : step s event = .ok next) :
    Settled next := by
  cases event with
  | call op =>
    obtain ⟨⟨messages, sender⟩, performed, stepped⟩ := bind_ok.mp stepped
    cases stepped
    exact settled.perform (fun windowSize same => by subst same; exact allowed) performed
  | acknowledge seqNum isCanceled =>
    obtain ⟨⟨sent, sender⟩, acknowledged, stepped⟩ := bind_ok.mp stepped
    cases stepped
    exact acknowledge_settled settled acknowledged

/-- A sender handles every number but the one opposite to the last it sent. -/
theorem acknowledgement_total_iff {s : Sender Pkt} {events : List (Traffic Pkt)}
    (run : Runs.Run step Allowed Sender.new events s) (sn : SeqNum) : s.AcksTotal sn ↔ ¬ s.Antipode sn := by
  have settled := run.invariant Settled (fun _ _ _ allowed kept stepped => step_settled allowed kept stepped)
    ⟨.new, fun stat => rfl⟩
  exact acksTotal_iff settled.zero settled.tidy sn

/-- One packet is sent and acknowledged. -/
theorem acknowledgement_total_sample : ∃ s : Sender Unit,
    Runs.Run step Allowed Sender.new [.call (.enqueuePacket ()), .acknowledge 0 false] s ∧
      (s.AcksTotal 0 ↔ ¬ s.Antipode 0) :=
  have run := Runs.Run.of_execWhere rfl
  ⟨_, run, acknowledgement_total_iff run 0⟩

/-- An acknowledgement of 2^63 - 1 stops a sender that has sent nothing yet. -/
theorem acknowledgement_overflows : ∃ s : Sender Unit, Runs.Run step Allowed Sender.new [] s ∧
    s.processAck (BitVec.ofNat 64 (2 ^ 63 - 1)) = .error .overflow ∧
    s.processCanceled (BitVec.ofNat 64 (2 ^ 63 - 1)) = .error .overflow :=
  ⟨_, .nil _, rfl, rfl⟩

end Traffic
end ZprCore.Zdpr
