import ZprCore.Proofs.ZdprReceiver
import ZprCore.Proofs.ZdprSender

/-! Agreement of the two ends of a reliable session. The ledger numbers packets by
unbounded integers; fewer than 2^57 steps keep every serial number in use within
half the modulus of every other. -/

namespace ZprCore.Zdpr
open Window Panic Serial List Disposition Sender Log Event Ledger Int Nat
variable {Pkt : Type} {messages} {sender next : Sender Pkt} {index : Nat}

def Numbered (n : Nat) (sn : SeqNum) (item : Int) : Prop := 0 ≤ item ∧ item < n ∧ sn = BitVec.ofInt 64 item

/-- Every answer on the wire repeats a verdict of the ledger. -/
def Genuine (ledger : Ledger) (n : Nat) : Message Pkt → Prop
  | .data sn _ | .cancel sn => ∃ item, Numbered n sn item
  | .ack sn => ∃ item, Numbered n sn item ∧ ledger.verdict item = some .processed
  | .canceled sn => ∃ item, Numbered n sn item ∧ ledger.verdict item = some .canceled

structure Justified (ledger : Ledger) (item : Int) (entry : UnackedState Pkt) : Prop where
  acked : entry = .acked → ledger.decided item
  cancelAcked : entry = .cancelAcked → ledger.verdict item = some .canceled

/-- An outstanding packet has not been canceled, at either end or on the way. -/
structure Uncanceled (n : Nat) (network : List (Message Pkt)) (ledger : Ledger) (item : Int) : Prop where
  verdict : ledger.verdict item ≠ some .canceled
  wire : ∀ sn, .cancel sn ∈ network → ¬ Numbered n sn item

/-- The two windows, when `n` sequence numbers have been assigned. -/
structure Windows (n : Nat) (s : Session Pkt) (ledger : Ledger) : Prop where
  represents : Represents s.receiver ledger
  lastSent : s.sender.lastSent = BitVec.ofInt 64 (n - 1)
  limit : s.sender.windowSize ≤ s.receiver.windowSize
  length : s.sender.unacked.length ≤ s.receiver.windowSize
  started : s.sender.unacked.length ≤ n
  highest : -1 ≤ ledger.highest ∧ ledger.highest < n
  settled : ∀ item : Int, item < n - s.sender.unacked.length → ledger.decided item
  entries : ∀ (index : Nat) entry, s.sender.unacked[index]? = some entry →
    Justified ledger (n - s.sender.unacked.length + index) entry
  outstanding : ∀ (index : Nat) entry, s.sender.unacked[index]? = some entry → entry.isOutstanding = true →
    Uncanceled n s.network ledger (n - s.sender.unacked.length + index)
  wire : ∀ message ∈ s.network, Genuine ledger n message

/-- The history in terms of the ledger. -/
structure Recorded (n : Nat) (history : List Event) (ledger : Ledger) : Prop where
  counted : ∀ sn item, Numbered n sn item →
    history.count (.processed sn) = if ledger.verdict item = some .processed then 1 else 0
  numbered : ∀ sn, Event.processed sn ∈ history → ∃ item, Numbered n sn item
  ordered : ∀ before after sn, history = before ++ .acked sn :: after → .processed sn ∈ before
  canceled : ∀ sn, Event.cancelAccepted sn ∈ history →
    ∃ item, Numbered n sn item ∧ ledger.verdict item = some .canceled

structure Agrees (n : Nat) (s : Session Pkt) (ledger : Ledger) : Prop where
  windows : Windows n s ledger
  recorded : Recorded n s.history ledger

/-- Verdicts are only ever added. -/
def Extends (ledger later : Ledger) : Prop :=
  ∀ item verdict, ledger.verdict item = some verdict → later.verdict item = some verdict

namespace Extends
variable {ledger later : Ledger}

theorem refl (ledger : Ledger) : Extends ledger ledger := fun _ _ known => known

variable (extends' : Extends ledger later)
include extends'

theorem decided {item : Int} (known : ledger.decided item) : later.decided item := by
  obtain ⟨verdict, same⟩ := Option.isSome_iff_exists.mp known
  simp [Log.decided, extends' item verdict same]

theorem justified {item : Int} {entry : UnackedState Pkt} (justified : Justified ledger item entry) :
    Justified later item entry :=
  ⟨fun acked => extends'.decided (justified.acked acked), fun acked => extends' _ _ (justified.cancelAcked acked)⟩

theorem genuine {n m : Nat} (more : n ≤ m) {message : Message Pkt} (genuine : Genuine ledger n message) :
    Genuine later m message := by
  cases message with
  | data sn packet | cancel sn =>
    obtain ⟨item, positive, small, same⟩ := genuine
    exact ⟨item, positive, by omega, same⟩
  | ack sn | canceled sn =>
    obtain ⟨item, ⟨positive, small, same⟩, known⟩ := genuine
    exact ⟨item, ⟨positive, by omega, same⟩, extends' _ _ known⟩

end Extends

namespace Numbered
variable {n : Nat} {sn : SeqNum} {item other : Int}

theorem unique (small : n ≤ 2 ^ 57) (first : Numbered n sn item) (second : Numbered n sn other) : item = other := by
  obtain ⟨_, _, same⟩ := first
  obtain ⟨_, _, same'⟩ := second
  exact ofInt_inj (w := 64) (by omega) (by omega) (by omega) (same.symm.trans same')

end Numbered

theorem Disposition.reply_no_cancel (disposition : Disposition) (sn other : SeqNum) :
    (Message.cancel other : Message Pkt) ∉ disposition.reply sn := by
  cases disposition <;> simp [reply, shouldAck, ackIsCanceled]

namespace Ledger
variable {ledger : Ledger} {size : Nat} {item : Int} {isCancel : Bool}

def verdictOf (isCancel : Bool) : Verdict := if isCancel then .canceled else .processed

def firstAnswer : Verdict → Disposition
  | .processed => .ackAndProcess
  | .canceled => .ackCancelDoNotProcess

section
variable (ledger : Ledger) (size : Nat) (item : Int) (isCancel : Bool)

theorem receive_cases :
    (ledger.receive size item isCancel = (.ignore, ledger) ∧ (ledger.TooOld size item ∨ ledger.TooNew size item)) ∨
    (∃ verdict, ledger.verdict item = some verdict ∧ ledger.receive size item isCancel = (answer verdict, ledger)) ∨
    (ledger.verdict item = none ∧ ¬ ledger.TooNew size item ∧ ledger.receive size item isCancel =
      (firstAnswer (verdictOf isCancel), ledger.record item (verdictOf isCancel))) := by
  unfold receive
  split
  · rename_i outside
    exact .inl ⟨rfl, outside⟩
  rename_i inside
  cases known : ledger.verdict item with
  | some verdict => exact .inr (.inl ⟨verdict, rfl, rfl⟩)
  | none => cases isCancel <;> exact .inr (.inr ⟨rfl, (not_or.mp inside).2, rfl⟩)

theorem receive_extends : Extends ledger (ledger.receive size item isCancel).2 := by
  rcases ledger.receive_cases size item isCancel with ⟨same, _⟩ | ⟨verdict, _, same⟩ | ⟨fresh, _, same⟩ <;> rw [same]
  · exact .refl ledger
  · exact .refl ledger
  · intro other verdict known
    exact record_keeps fresh known

theorem receive_highest :
    ledger.highest ≤ (ledger.receive size item isCancel).2.highest ∧
      (ledger.receive size item isCancel).2.highest ≤ max ledger.highest item := by
  rcases ledger.receive_cases size item isCancel with ⟨same, _⟩ | ⟨verdict, _, same⟩ | ⟨_, _, same⟩ <;> rw [same]
  · exact ⟨le_refl _, le_max_left _ _⟩
  · exact ⟨le_refl _, le_max_left _ _⟩
  · exact ⟨le_max_left _ _, le_refl _⟩

end

theorem receive_canceled {other} (canceled : (ledger.receive size item isCancel).2.verdict other = some .canceled) :
    ledger.verdict other = some .canceled ∨ isCancel = true ∧ other = item := by
  rcases ledger.receive_cases size item isCancel with ⟨same, _⟩ | ⟨verdict, _, same⟩ | ⟨_, _, same⟩ <;>
    rw [same] at canceled
  · exact .inl canceled
  · exact .inl canceled
  by_cases here : other = item
  · subst here
    rw [record_same] at canceled
    cases isCancel with
    | true => exact .inr ⟨rfl, rfl⟩
    | false => cases canceled
  · rw [record_other _ _ here] at canceled
    exact .inl canceled

theorem receive_reply {n sn} (numbered : Numbered n sn item) (message : Message Pkt)
    (sent : message ∈ (ledger.receive size item isCancel).1.reply sn) :
    Genuine (ledger.receive size item isCancel).2 n message := by
  rcases ledger.receive_cases size item isCancel with ⟨same, _⟩ | ⟨verdict, known, same⟩ | ⟨_, _, same⟩ <;>
    rw [same] at sent ⊢
  · simp [reply, shouldAck] at sent
  · cases verdict <;> simp [answer, reply, shouldAck, ackIsCanceled] at sent <;> subst sent
    all_goals exact ⟨item, numbered, known⟩
  · cases isCancel <;> simp [verdictOf, firstAnswer, reply, shouldAck, ackIsCanceled] at sent <;> subst sent
    all_goals exact ⟨item, numbered, record_same _ _ _⟩

end Ledger

theorem Evolves.justified {ledger : Ledger} {item : Int} {old new : UnackedState Pkt} (evolves : Evolves old new)
    (known : Justified ledger item old) : Justified ledger item new := by
  cases evolves with
  | same => exact known
  | outstanding | cancel | canceling => exact ⟨nofun, nofun⟩
  | forget => exact ⟨fun _ => by simp [decided, known.cancelAcked rfl], nofun⟩

theorem Evolves.outstanding_before {old new : UnackedState Pkt} (evolves : Evolves old new)
    (outstanding : new.isOutstanding = true) : old.isOutstanding = true := by
  cases evolves with
  | same => exact outstanding
  | outstanding => rfl
  | cancel | canceling | forget => cases outstanding

namespace Windows
variable {n : Nat} {s : Session Pkt} {ledger later : Ledger} {sn : SeqNum}

section
variable (windows : Windows n s ledger) (history : List Event)
include windows

theorem settle {change} (settles : Sender.Settles change s.sender next)
    (keeps : ∀ (index : Nat) old new, change index old new → Justified ledger (n - s.sender.unacked.length + index) old →
      Justified ledger (n - s.sender.unacked.length + index) new)
    (stays : ∀ index old new, change index old new → new.isOutstanding = true → old.isOutstanding = true) :
    Windows n { s with sender := next, history } ledger := by
  obtain ⟨middle, front, split, acked, size, each⟩ := settles.moves
  have total : front.length + next.unacked.length = s.sender.unacked.length := by
    rw [← size, split, length_append]
  have justified (index : Nat) new (found : middle[index]? = some new) :
      Justified ledger (n - s.sender.unacked.length + index) new := by
    have inside : index < s.sender.unacked.length := size ▸ (lt_length found)
    have present := getElem?_eq_getElem inside
    exact keeps index _ new (each index _ new present found) (windows.entries index _ present)
  have place (index : Nat) entry (found : next.unacked[index]? = some entry) :
      middle[front.length + index]? = some entry ∧ (n : Int) - s.sender.unacked.length + (front.length + index : Nat) =
        n - next.unacked.length + index := by
    refine ⟨?_, by omega⟩
    rw [split, getElem?_append_right (by omega), Nat.add_sub_cancel_left]
    exact found
  have length := windows.length
  have started := windows.started
  refine ⟨windows.represents, settles.lastSent.trans windows.lastSent, settles.windowSize ▸ windows.limit,
    by simp only; omega, by simp only; omega, windows.highest, ?_, ?_, ?_, windows.wire⟩
  · intro item small
    simp only at small
    by_cases old : item < n - s.sender.unacked.length
    · exact windows.settled item old
    have inside : (item - (n - s.sender.unacked.length)).toNat < front.length := by omega
    have found : middle[(item - (n - s.sender.unacked.length)).toNat]? = some .acked := by
      rw [split, getElem?_append_left inside, getElem?_eq_getElem inside]
      rw [acked _ (getElem_mem inside)]
    have decided := (justified _ _ found).acked rfl
    rwa [show (n : Int) - s.sender.unacked.length + (item - (n - s.sender.unacked.length)).toNat = item by
      omega] at decided
  · intro index entry found
    obtain ⟨found, same⟩ := place index entry found
    exact same ▸ justified _ _ found
  · intro index entry found outstanding
    obtain ⟨found, same⟩ := place index entry found
    have inside : front.length + index < s.sender.unacked.length := size ▸ (lt_length found)
    have present := getElem?_eq_getElem inside
    exact same ▸ windows.outstanding _ _ present (stays _ _ _ (each _ _ _ present found) outstanding)

theorem idle (idle : Sender.Idle s.sender next) : Windows n { s with sender := next, history } ledger :=
  windows.settle history idle (fun _ _ _ => Evolves.justified) (fun _ _ _ => Evolves.outstanding_before)

theorem numbered (inside : index < s.sender.unacked.length) :
    Numbered n (s.sender.seqNumAt index) (n - s.sender.unacked.length + index) := by
  have started := windows.started
  refine ⟨by omega, by omega, ?_⟩
  rw [seqNumAt_ofInt windows.lastSent]
  congr 1
  omega

theorem push (small : n < 2 ^ 57) {packet : Pkt} (pushes : Sender.Pushes s.sender next packet) :
    Windows (n + 1) { s with sender := next, network := s.network ++ [.data next.lastSent packet] } ledger := by
  obtain ⟨room, last, size, ⟨waker, limit, unacked⟩, _, _⟩ := pushes
  have length : next.unacked.length = s.sender.unacked.length + 1 := by rw [unacked]; simp
  have sent : next.lastSent = BitVec.ofInt 64 n := by
    rw [last, windows.lastSent, show (n : Int) = n - 1 + 1 by omega, BitVec.ofInt_add]
    simp
  have started := windows.started
  have bound := windows.limit
  have highest := windows.highest
  -- A cancel message on the wire is for one of the earlier packets.
  have earlier (sn : SeqNum) (item : Int) (sent : .cancel sn ∈ s.network ++ [.data next.lastSent packet])
      (known : Numbered (n + 1) sn item) : .cancel sn ∈ s.network ∧ Numbered n sn item := by
    have member : .cancel sn ∈ s.network := by simpa using sent
    obtain ⟨other, positive, below, same⟩ := windows.wire _ member
    have equal := Numbered.unique (by omega) known ⟨positive, by omega, same⟩
    exact ⟨member, known.1, by omega, known.2.2⟩
  refine ⟨windows.represents, ?_, size ▸ bound, by simp only [length]; omega, by simp only [length]; omega,
    by omega, ?_, ?_, ?_, ?_⟩
  · simpa using sent
  · intro item small
    exact windows.settled item (by simp only [length] at small; omega)
  · intro index entry found
    simp only [unacked] at found
    simp only [length]
    by_cases old : index < s.sender.unacked.length
    · rw [getElem?_append_left old] at found
      have known := windows.entries index entry found
      rwa [show (n : Int) - s.sender.unacked.length + index =
        (n + 1 : Nat) - (s.sender.unacked.length + 1 : Nat) + index by omega] at known
    · rw [getElem?_append_right (by omega)] at found
      rw [mem_singleton.mp (mem_of_getElem? found)]
      exact ⟨nofun, nofun⟩
  · intro index entry found outstanding
    simp only [unacked] at found
    simp only [length]
    by_cases old : index < s.sender.unacked.length
    · rw [getElem?_append_left old] at found
      have known := windows.outstanding index entry found outstanding
      rw [show ((n + 1 : Nat) : Int) - (s.sender.unacked.length + 1 : Nat) + index =
        n - s.sender.unacked.length + index by omega]
      refine ⟨known.verdict, fun sn member numbered => ?_⟩
      obtain ⟨member, numbered⟩ := earlier sn _ member numbered
      exact known.wire sn member numbered
    · have inside := lt_length found
      simp only [length_append, length_singleton] at inside
      refine ⟨?_, fun sn member numbered => ?_⟩
      · rw [windows.represents.valid.above _ (by omega)]
        simp
      · have below := (earlier sn _ member numbered).2.2.1
        omega
  · intro message member
    rcases mem_append.mp member with before | new
    · exact (Extends.refl ledger).genuine (by omega) (windows.wire message before)
    · rw [mem_singleton.mp new]
      exact ⟨n, by omega, by omega, sent⟩

theorem send (genuine : ∀ message ∈ messages, Genuine ledger n message)
    (withdrawn : ∀ (index : Nat) entry sn, s.sender.unacked[index]? = some entry → entry.isOutstanding = true →
      .cancel sn ∈ messages → ¬ Numbered n sn (n - s.sender.unacked.length + index)) :
    Windows n { s with network := s.network ++ messages } ledger := by
  refine ⟨windows.represents, windows.lastSent, windows.limit, windows.length, windows.started, windows.highest,
    windows.settled, windows.entries, ?_, ?_⟩
  · intro index entry found outstanding
    have known := windows.outstanding index entry found outstanding
    refine ⟨known.verdict, fun sn member => ?_⟩
    rcases mem_append.mp member with before | new
    · exact known.wire sn before
    · exact withdrawn index entry sn found outstanding new
  · intro message member
    rcases mem_append.mp member with before | new
    · exact windows.wire message before
    · exact genuine message new

theorem decide (extends' : Extends ledger later) {receiver} (represents : Represents receiver later)
    (size : receiver.windowSize = s.receiver.windowSize) (highest : -1 ≤ later.highest ∧ later.highest < n)
    (asked : ∀ item, later.verdict item = some .canceled →
      ledger.verdict item = some .canceled ∨ ∃ sn, .cancel sn ∈ s.network ∧ Numbered n sn item) :
    Windows n { s with receiver, history } later where
  represents := represents
  lastSent := windows.lastSent
  limit := size ▸ windows.limit
  length := size ▸ windows.length
  started := windows.started
  highest := highest
  settled item small := extends'.decided (windows.settled item small)
  entries index entry found := extends'.justified (windows.entries index entry found)
  outstanding index entry found outstanding := by
    have known := windows.outstanding index entry found outstanding
    refine ⟨fun canceled => ?_, known.wire⟩
    obtain before | ⟨sn, member, numbered⟩ := asked _ canceled
    · exact known.verdict before
    · exact known.wire sn member numbered
  wire message member := extends'.genuine (le_refl n) (windows.wire message member)

/-- Nothing that was sent is ahead of the receiver's window. -/
theorem not_tooNew {item : Int} (upper : item < n) : ¬ ledger.TooNew s.receiver.windowSize item := by
  intro ⟨older, far, missing⟩
  have length := windows.length
  have known := windows.settled older (by omega)
  simp [decided, missing] at known

/-- No item of the sender's window is outside the receiver's. -/
theorem inside {item : Int} (lower : n - s.sender.unacked.length ≤ item) (upper : item < n) :
    ¬ (ledger.TooOld s.receiver.windowSize item ∨ ledger.TooNew s.receiver.windowSize item) := by
  have length := windows.length
  have highest := windows.highest
  rintro (old | new)
  · unfold Log.TooOld at old
    omega
  · exact windows.not_tooNew upper new

theorem adjust {windowSize} (allowed : windowSize ≤ s.receiver.windowSize) :
    Windows n { s with sender := { s.sender with windowSize } } ledger :=
  ⟨windows.represents, windows.lastSent, allowed, windows.length, windows.started, windows.highest, windows.settled,
    windows.entries, windows.outstanding, windows.wire⟩

/-- Nothing is decided about numbers that were not assigned. -/
theorem undecided {item : Int} (far : n ≤ item) : ledger.verdict item = none := by
  have highest := windows.highest
  exact windows.represents.valid.above item (by omega)

section
variable (small : n ≤ 2 ^ 57)
include small

theorem holds {item} (known : Numbered n sn item) (holds : s.sender.Holds sn index) :
    n - s.sender.unacked.length + (index : Int) = item := by
  obtain ⟨positive, below, same⟩ := known
  have distance := holds.2
  rw [same, windows.lastSent, distance_ofInt (by omega) (by omega) (by omega)] at distance
  omega

theorem item {item : Int} (known : Numbered n sn item) : ledger.itemOf s.receiver sn = item := by
  obtain ⟨positive, below, same⟩ := known
  have highest := windows.highest
  rw [itemOf, same, windows.represents.highest, distance_ofInt (by omega) (by omega) (by omega)]
  omega

/-- Nothing is sent for the first time. -/
theorem retain (retains : Sender.Retains s.sender next) (repeats : ∀ message ∈ messages, s.sender.Repeats next message) :
    Windows n { s with sender := next, network := s.network ++ messages } ledger := by
  refine (windows.idle s.history retains.idle).send ?_ ?_
  · intro message member
    obtain ⟨index, inside, ⟨packet, rfl⟩ | ⟨rfl, _⟩⟩ := repeats message member <;> exact ⟨_, windows.numbered inside⟩
  · intro index entry sn found outstanding member numbered
    obtain ⟨other, inside, ⟨packet, impossible⟩ | ⟨same, withdrawn, found', ended⟩⟩ := repeats _ member
    · cases impossible
    cases same
    have length := retains.length
    have equal := Numbered.unique small (windows.numbered inside) numbered
    simp only [length] at equal
    obtain rfl : index = other := by omega
    rw [found] at found'
    cases found'
    rw [ended] at outstanding
    cases outstanding

theorem heed {item outcome} (known : Numbered n sn item) (accepts : s.sender.Accepts sn index sender outcome)
    (justifies : ∀ new, outcome new → Justified ledger item new ∧ new.isOutstanding = false) :
    Windows n { s with sender, history } ledger := by
  obtain ⟨holds, settles⟩ := accepts
  have place := windows.holds small known holds
  refine windows.settle history settles ?_ ?_
  · rintro i old new (⟨rfl, reached⟩ | rfl) justified
    · rw [place]
      exact (justifies new reached).1
    · exact justified
  · rintro i old new (⟨rfl, reached⟩ | rfl) outstanding
    · rw [(justifies new reached).2] at outstanding
      cases outstanding
    · exact outstanding

theorem processAck (genuine : Genuine ledger n (.ack sn : Message Pkt)) {packet} {woken}
    (heeded : s.sender.processAck sn = .ok (packet, woken, sender)) : Windows n { s with sender, history } ledger := by
  obtain ⟨item, known, processed⟩ := genuine
  obtain ⟨_, idle⟩ | ⟨_, index, accepts⟩ := processAck_ok heeded
  · exact windows.idle history idle
  refine windows.heed history small known accepts ?_
  rintro new rfl
  exact ⟨⟨fun _ => by simp [decided, processed], nofun⟩, rfl⟩

theorem processCanceled (genuine : Genuine ledger n (.canceled sn : Message Pkt)) {woken}
    (heeded : s.sender.processCanceled sn = .ok (woken, sender)) : Windows n { s with sender, history } ledger := by
  obtain ⟨item, known, canceled⟩ := genuine
  obtain ⟨_, idle⟩ | ⟨_, index, accepts⟩ := processCanceled_ok heeded
  · exact windows.idle history idle
  refine windows.heed history small known accepts ?_
  intro new reached
  refine ⟨⟨fun _ => by simp [decided, canceled], fun _ => canceled⟩, ?_⟩
  obtain rfl | rfl := reached <;> rfl

theorem receive {item : Int} (known : Numbered n sn item) {isCancel : Bool} {disposition} {receiver}
    (answered : s.receiver.processPacketOrCancel sn isCancel = .ok (disposition, receiver))
    (asked : isCancel = true → .cancel sn ∈ s.network) :
    disposition = (ledger.receive s.receiver.windowSize item isCancel).1 ∧
      receiver.windowSize = s.receiver.windowSize ∧
      Windows n { s with receiver, network := s.network ++ disposition.reply sn, history }
        (ledger.receive s.receiver.windowSize item isCancel).2 := by
  obtain ⟨next, same, represents, size⟩ := windows.represents.processPacketOrCancel_refines sn isCancel
  rw [windows.item small known] at same represents
  rw [same] at answered
  cases answered
  have highest := windows.highest
  have bounds := ledger.receive_highest s.receiver.windowSize item isCancel
  have below := known.2.1
  have decided := windows.decide history (ledger.receive_extends _ _ _) represents size ⟨by omega, by omega⟩
    fun other canceled => (receive_canceled canceled).imp_right fun ⟨cancel, same⟩ => ⟨sn, asked cancel, same ▸ known⟩
  refine ⟨rfl, size, decided.send (receive_reply known) ?_⟩
  intro _ _ _ _ _ sent
  exact absurd sent (reply_no_cancel _ _ _)

end

/-- A call assigns at most one sequence number. -/
theorem perform (small : n < 2 ^ 57) {op} (allowed : s.Allowed (.call op))
    (performed : s.sender.perform op = .ok (messages, sender)) :
    Windows n { s with sender, network := s.network ++ messages } ledger ∨
      Windows (n + 1) { s with sender, network := s.network ++ messages } ledger := by
  cases perform_ok performed with
  | pushes pushes => exact .inr (windows.push small pushes)
  | retains retains repeats => exact .inl (windows.retain (by omega) retains repeats)
  | forgets forgotten => exact .inl ((windows.idle s.history (forgetCanceledPacket_idle forgotten)).send nofun nofun)
  | adjusts adjusted =>
    subst adjusted
    exact .inl ((windows.adjust (le_trans (min_le_right (2 ^ 64 - 1) _) allowed)).send nofun nofun)

end

end Windows

namespace Recorded
variable {n : Nat} {history : List Event} {ledger : Ledger}

private theorem ordered_append {event}
    (ordered : ∀ before after sn, history = before ++ .acked sn :: after → processed sn ∈ before)
    (last : ∀ sn, event = .acked sn → processed sn ∈ history) {before after sn}
    (split : history ++ [event] = before ++ .acked sn :: after) : processed sn ∈ before := by
  rcases eq_nil_or_concat after with rfl | ⟨front, final, rfl⟩
  · obtain ⟨rfl, same⟩ := append_inj' split rfl
    simp only [cons.injEq, and_true] at same
    exact last sn same
  rw [concat_eq_append, ← cons_append, ← append_assoc] at split
  obtain ⟨same, _⟩ := append_inj' split rfl
  exact ordered before front sn same

theorem grow (recorded : Recorded n history ledger) (small : n < 2 ^ 57) (highest : ∀ item : Int, n ≤ item →
    ledger.verdict item = none) : Recorded (n + 1) history ledger where
  counted sn item known := by
    by_cases old : item < n
    · exact recorded.counted sn item ⟨known.1, old, known.2.2⟩
    have undecided := highest item (by omega)
    simp only [undecided, reduceCtorEq, if_false, count_eq_zero]
    intro member
    obtain ⟨other, positive, below, same⟩ := recorded.numbered sn member
    have equal := Numbered.unique (by omega) known ⟨positive, by omega, same⟩
    omega
  numbered sn member := by
    obtain ⟨item, positive, below, same⟩ := recorded.numbered sn member
    exact ⟨item, positive, by omega, same⟩
  ordered := recorded.ordered
  canceled sn member := by
    obtain ⟨item, ⟨positive, below, same⟩, known⟩ := recorded.canceled sn member
    exact ⟨item, ⟨positive, by omega, same⟩, known⟩

section
variable {item : Int} {sn : SeqNum} (recorded : Recorded n history ledger) (known : Numbered n sn item)
include recorded known

theorem ack (processed : ledger.verdict item = some .processed) : Recorded n (history ++ [.acked sn]) ledger where
  counted other item' known' := by
    simpa [count_append] using recorded.counted other item' known'
  numbered other member := recorded.numbered other (by simpa using member)
  ordered before after other split := by
    refine ordered_append recorded.ordered ?_ split
    intro sn' same
    cases same
    have once := recorded.counted sn item known
    rw [if_pos processed] at once
    exact count_pos_iff.mp (by omega)
  canceled other member := recorded.canceled other (by simpa using member)

theorem cancel (canceled : ledger.verdict item = some .canceled) : Recorded n (history ++ [.cancelAccepted sn]) ledger where
  counted other item' known' := by
    simpa [count_append] using recorded.counted other item' known'
  numbered other member := recorded.numbered other (by simpa using member)
  ordered before after other split := ordered_append recorded.ordered (fun _ impossible => by cases impossible) split
  canceled other member := by
    rcases mem_append.mp member with before | new
    · exact recorded.canceled other before
    · cases mem_singleton.mp new
      exact ⟨item, known, canceled⟩

private theorem first (small : n ≤ 2 ^ 57) (fresh : ledger.verdict item = none) (verdict : Verdict) :
    Recorded n (history ++ if verdict = .processed then [.processed sn] else []) (ledger.record item verdict) where
  counted other item' known' := by
    have before := recorded.counted other item' known'
    by_cases here : item' = item
    · subst here
      obtain rfl : other = sn := known'.2.2.trans known.2.2.symm
      rw [fresh] at before
      cases verdict <;> simp_all [record_same]
    · have different : sn ≠ other := by
        rintro rfl
        exact here (Numbered.unique small known' known)
      rw [record_other _ _ here, ← before]
      cases verdict <;> simp [count_append, different]
  numbered other member := by
    rcases mem_append.mp member with before | new
    · exact recorded.numbered other before
    cases verdict with
    | canceled => simp at new
    | processed =>
      cases mem_singleton.mp new
      exact ⟨item, known⟩
  ordered before after other split := by
    cases verdict with
    | canceled => exact recorded.ordered before after other (by simpa using split)
    | processed => exact ordered_append recorded.ordered (fun _ impossible => by cases impossible) split
  canceled other member := by
    have before : cancelAccepted other ∈ history := by cases verdict <;> simpa using member
    obtain ⟨item', known', canceled⟩ := recorded.canceled other before
    exact ⟨item', known', record_keeps fresh canceled⟩

theorem receive (small : n ≤ 2 ^ 57) (size : Nat) (isCancel : Bool) :
    Recorded n (history ++ if (ledger.receive size item isCancel).1.shouldProcess then [.processed sn] else [])
      (ledger.receive size item isCancel).2 := by
  rcases ledger.receive_cases size item isCancel with ⟨same, _⟩ | ⟨verdict, _, same⟩ | ⟨fresh, _, same⟩
  · simpa [same, shouldProcess] using recorded
  · cases verdict <;> simpa [same, Ledger.answer, shouldProcess] using recorded
  rw [same]
  cases isCancel with
  | true => exact recorded.first known small fresh .canceled
  | false => exact recorded.first known small fresh .processed

end

end Recorded

namespace Agrees
variable {n : Nat} {s next : Session Pkt} {ledger : Ledger}

theorem new {windowSize : Nat} (made : Session.new windowSize = .ok s) (narrow : windowSize ≤ 63) :
    Agrees 0 s initial := by
  unfold Session.new at made
  obtain ⟨receiver, built, made⟩ := bind_ok.mp made
  cases made
  have represents := Represents.new built narrow
  obtain ⟨positive, _, size, _⟩ := Receiver.new_ok built
  refine ⟨⟨represents, ?_, ?_, ?_, ?_, ?_, ?_, ?_, ?_, ?_⟩, ⟨?_, ?_, ?_, ?_⟩⟩
  · change BitVec.allOnes 64 = BitVec.ofInt 64 ((0 : Nat) - 1)
    decide
  · simp only [new]
    omega
  · simp [new]
  · simp [new]
  · decide
  · intro item below
    simp [decided, initial_below (show item < 0 by simpa [new] using below)]
  · simp [new]
  · simp [new]
  · simp
  · rintro sn item ⟨positive, below, _⟩
    omega
  · simp
  · simp
  · simp

variable (agrees : Agrees n s ledger)
include agrees

theorem receive (small : n ≤ 2 ^ 57) {sn : SeqNum} {item : Int} (known : Numbered n sn item) {isCancel : Bool}
    {disposition} {receiver}
    (answered : s.receiver.processPacketOrCancel sn isCancel = .ok (disposition, receiver))
    (asked : isCancel = true → .cancel sn ∈ s.network) :
    ∃ later, Agrees n { s with
      receiver
      network := s.network ++ disposition.reply sn
      history := s.history ++ if disposition.shouldProcess then [.processed sn] else [] } later := by
  obtain ⟨rfl, _, windows⟩ := agrees.windows.receive
    (s.history ++ if disposition.shouldProcess then [.processed sn] else []) small known answered asked
  exact ⟨_, windows, agrees.recorded.receive known small _ _⟩

theorem deliver (small : n ≤ 2 ^ 57) {message} (present : message ∈ s.network) {queueFull : Bool}
    (delivered : s.deliver queueFull message = .ok next) : ∃ later, Agrees n next later := by
  have genuine := agrees.windows.wire message present
  cases message with
  | data sn packet =>
    obtain ⟨item, known⟩ := genuine
    obtain ⟨⟨disposition, receiver⟩, dispatched, delivered⟩ := bind_ok.mp delivered
    cases delivered
    unfold Receiver.dispatchPacket at dispatched
    obtain ⟨wanted, _, dispatched⟩ := bind_ok.mp dispatched
    split at dispatched
    · cases dispatched
      exact ⟨ledger, by simpa [reply, shouldAck, shouldProcess] using agrees⟩
    · exact agrees.receive small known dispatched nofun
  | cancel sn =>
    obtain ⟨item, known⟩ := genuine
    obtain ⟨⟨disposition, receiver⟩, dispatched, delivered⟩ := bind_ok.mp delivered
    cases delivered
    exact agrees.receive small known dispatched fun _ => present
  | ack sn =>
    obtain ⟨⟨packet, woken, sender⟩, heeded, delivered⟩ := bind_ok.mp delivered
    cases delivered
    refine ⟨ledger, agrees.windows.processAck _ small genuine heeded, ?_⟩
    obtain ⟨item, known, processed⟩ := genuine
    obtain ⟨rfl, _⟩ | ⟨woke, _⟩ := processAck_ok heeded
    · simpa using agrees.recorded
    · simpa [woke] using agrees.recorded.ack known processed
  | canceled sn =>
    obtain ⟨⟨woken, sender⟩, heeded, delivered⟩ := bind_ok.mp delivered
    cases delivered
    refine ⟨ledger, agrees.windows.processCanceled _ small genuine heeded, ?_⟩
    obtain ⟨item, known, canceled⟩ := genuine
    obtain ⟨rfl, _⟩ | ⟨woke, _⟩ := processCanceled_ok heeded
    · simpa using agrees.recorded
    · simpa [woke] using agrees.recorded.cancel known canceled

/-- One step assigns at most one sequence number and keeps the two ends in agreement. -/
theorem step (small : n < 2 ^ 57) {action} (allowed : s.Allowed action) (stepped : s.step action = .ok next) :
    ∃ m ≤ n + 1, ∃ later, Agrees m next later := by
  cases action with
  | deliver index queueFull =>
    simp only [Session.step] at stepped
    split at stepped
    · cases stepped
      exact ⟨n, by omega, ledger, agrees⟩
    rename_i message found
    exact ⟨n, by omega, agrees.deliver (by omega) (mem_of_getElem? found) stepped⟩
  | call op =>
    obtain ⟨⟨messages, sender⟩, performed, stepped⟩ := bind_ok.mp stepped
    cases stepped
    obtain ⟨windows, recorded⟩ := agrees
    obtain kept | pushed := windows.perform small allowed performed
    · exact ⟨n, by omega, ledger, kept, recorded⟩
    refine ⟨n + 1, by omega, ledger, pushed, recorded.grow (by omega) ?_⟩
    intro item far
    exact windows.undecided far

end Agrees

namespace Session
open Runs
variable {windowSize : Nat} {start s : Session Pkt} {actions}

theorem run_agrees (made : Session.new windowSize = .ok start) (narrow : windowSize ≤ 63)
    (run : Run step Allowed start actions s) (short : actions.length < 2 ^ 57) :
    ∃ n ≤ actions.length, ∃ ledger, Agrees n s ledger := by
  have kept := run.indexed (2 ^ 57) (fun taken state => ∃ n ≤ taken, ∃ ledger, Agrees n state ledger) ?_
    (by omega : 0 + actions.length ≤ 2 ^ 57) ⟨0, le_refl 0, _, Agrees.new made narrow⟩
  · rwa [zero_add] at kept
  rintro taken state action next inside allowed ⟨n, few, ledger, agrees⟩ stepped
  obtain ⟨m, more, later, agreed⟩ := agrees.step (by omega) allowed stepped
  exact ⟨m, by omega, later, agreed⟩

/-- Exactly-once processing and agreement on cancellation, over every run of the
two ends and every behaviour of the network: a sequence number is processed at most
once, it is moved to acknowledged only after it was processed, and one whose
cancellation was accepted is never processed, before or after. -/
theorem run_exactly_once (made : Session.new windowSize = .ok start) (narrow : windowSize ≤ 63)
    (run : Run step Allowed start actions s) (short : actions.length < 2 ^ 57) :
    (∀ sn, s.history.count (.processed sn) ≤ 1) ∧
      (∀ before after sn, s.history = before ++ .acked sn :: after → .processed sn ∈ before) ∧
      (∀ sn, .cancelAccepted sn ∈ s.history → .processed sn ∉ s.history) := by
  obtain ⟨n, few, ledger, agrees⟩ := run_agrees made narrow run short
  have recorded := agrees.recorded
  refine ⟨?_, recorded.ordered, ?_⟩
  · intro sn
    by_cases member : processed sn ∈ s.history
    · obtain ⟨item, known⟩ := recorded.numbered sn member
      rw [recorded.counted sn item known]
      split <;> omega
    · rw [count_eq_zero.mpr member]
      omega
  · intro sn canceled processed
    obtain ⟨item, known, verdict⟩ := recorded.canceled sn canceled
    have never := recorded.counted sn item known
    rw [verdict, if_neg (by simp)] at never
    exact count_eq_zero.mp never processed

/-- One packet sent, received, acknowledged, and received again. -/
private def roundTrip : List (Action Unit) :=
  [.call (.enqueuePacket ()), .deliver 0 false, .deliver 1 false, .deliver 0 false]

private theorem roundTrip_allowed (s : Session Unit) : ∀ action ∈ roundTrip, s.Allowed action := by
  simp [roundTrip, Allowed]

theorem run_exactly_once_roundTrip : ∃ start s : Session Unit, Session.new 2 = .ok start ∧
    exec step start roundTrip = .ok s ∧ s.history = [.processed 0, .acked 0] ∧
    (∀ sn, s.history.count (.processed sn) ≤ 1) ∧
    (∀ before after sn, s.history = before ++ .acked sn :: after → .processed sn ∈ before) ∧
    (∀ sn, .cancelAccepted sn ∈ s.history → .processed sn ∉ s.history) := by
  refine ⟨_, _, rfl, rfl, rfl, ?_⟩
  exact run_exactly_once rfl (by decide : 2 ≤ 63) (.of_exec roundTrip_allowed rfl) (by decide)

/-- A retransmission of anything in the sender's window, in whatever state its entry
is, reaches a receiver that acknowledges it in some form and does not panic. -/
theorem run_never_starved (made : Session.new windowSize = .ok start) (narrow : windowSize ≤ 63)
    (run : Run step Allowed start actions s) (short : actions.length < 2 ^ 57) {index : Nat}
    (inside : index < s.sender.unacked.length) :
    (∃ disposition receiver, s.receiver.processPacket (s.sender.seqNumAt index) = .ok (disposition, receiver) ∧
      disposition ≠ .ignore ∧ disposition.shouldAck) ∧
    (∃ disposition receiver, s.receiver.processCancel (s.sender.seqNumAt index) = .ok (disposition, receiver) ∧
      disposition ≠ .ignore ∧ disposition.shouldAck) := by
  obtain ⟨n, few, ledger, agrees⟩ := run_agrees made narrow run short
  have answered isCancel : ∃ disposition receiver,
      s.receiver.processPacketOrCancel (s.sender.seqNumAt index) isCancel = .ok (disposition, receiver) ∧
      disposition ≠ .ignore ∧ disposition.shouldAck := by
    have known := agrees.windows.numbered inside
    obtain ⟨next, same, _⟩ := agrees.windows.represents.processPacketOrCancel_refines (s.sender.seqNumAt index) isCancel
    rw [agrees.windows.item (by omega) known] at same
    have window := agrees.windows.inside (by omega) known.2.1
    refine ⟨_, next, same, ?_⟩
    rcases ledger.receive_cases s.receiver.windowSize (n - s.sender.unacked.length + index) isCancel with
      ⟨_, outside⟩ | ⟨verdict, _, same⟩ | ⟨_, _, same⟩
    · exact absurd outside window
    · rw [same]
      cases verdict <;> exact ⟨nofun, rfl⟩
    · rw [same]
      cases isCancel <;> exact ⟨nofun, rfl⟩
  exact ⟨answered false, answered true⟩

private theorem lostAck_allowed (s : Session Unit) : ∀ action ∈ roundTrip.take 2, s.Allowed action :=
  fun action member => roundTrip_allowed s action (mem_of_mem_take member)

theorem run_never_starved_lostAck : ∃ start s : Session Unit, Session.new 2 = .ok start ∧
    exec step start (roundTrip.take 2) = .ok s ∧ s.history = [.processed 0] ∧ s.sender.seqNumAt 0 = 0 ∧
    (∃ disposition receiver, s.receiver.processPacket (s.sender.seqNumAt 0) = .ok (disposition, receiver) ∧
      disposition ≠ .ignore ∧ disposition.shouldAck) ∧
    (∃ disposition receiver, s.receiver.processCancel (s.sender.seqNumAt 0) = .ok (disposition, receiver) ∧
      disposition ≠ .ignore ∧ disposition.shouldAck) := by
  refine ⟨_, _, rfl, rfl, rfl, rfl, ?_⟩
  exact run_never_starved rfl (by decide : 2 ≤ 63) (.of_exec lostAck_allowed rfl) (by decide) (by decide)

end Session
end ZprCore.Zdpr
