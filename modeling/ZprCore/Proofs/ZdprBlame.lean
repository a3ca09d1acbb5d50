import ZprCore.Proofs.ZdprAgreement

/-! When an honest peer is blamed. Everything on the wire is about a packet that was sent,
so nothing is ever too new. A processed packet is never one whose cancellation was
acknowledged, and a canceled one was never left outstanding. One kind of answer remains: a
repeated cancellation of a packet that was forgotten, and so is taken for acknowledged. -/

namespace ZprCore.Zdpr
open Panic Serial Sender Nat
variable {Pkt : Type} {sn : SeqNum}

namespace Sender
variable {s next : Sender Pkt}

/-- A statistic that accuses the peer was counted. -/
def Accuses (s next : Sender Pkt) : Prop := ∃ stat : SenderStat, stat.isProtocolError = true ∧ s.stats stat < next.stats stat

theorem accuses_count (s : Sender Pkt) (stat : SenderStat) : s.Accuses (s.count stat) ↔ stat.isProtocolError = true := by
  constructor
  · intro ⟨other, wrong, more⟩
    simp only [count] at more
    split at more
    · rename_i same
      exact same ▸ wrong
    · omega
  · intro wrong
    exact ⟨stat, wrong, by simp [count]⟩

theorem not_accuses (stats : next.stats = s.stats) : ¬ s.Accuses next := by
  intro ⟨stat, _, more⟩
  rw [stats] at more
  omega

/-- An acknowledgement accuses only if the packet's cancellation was acknowledged before. -/
theorem processAck_accuses {packet woken} (sent : ¬ distance sn s.lastSent > 0)
    (processed : s.processAck sn = .ok (packet, woken, next)) (accuses : s.Accuses next) :
    ∃ index, s.Holds sn index ∧ s.unacked[index]? = some .cancelAcked := by
  unfold processAck at processed
  have looks := s.lookupAckIndex_cases sn
  generalize s.lookupAckIndex sn = looked at looks processed
  cases looks with
  | antipode => cases processed
  | tooNew new => exact absurd new sent
  | tooOld =>
    cases processed
    cases (s.accuses_count _).mp accuses
  | @holds index entry _ holds found =>
    rw [ok_bind] at processed
    dsimp only at processed
    rw [get_ok.mpr found, ok_bind] at processed
    cases entry with
    | cancelAcked => exact ⟨index, holds, found⟩
    | acked =>
      cases processed
      cases (s.accuses_count _).mp accuses
    | unacked | cancelRequested =>
      obtain ⟨cleaned, clean, processed⟩ := bind_ok.mp processed
      cases processed
      exact absurd accuses (not_accuses (replace_stats clean))

/-- A cancellation accuses only if the packet was not being canceled. -/
theorem processCanceled_accuses {woken} (sent : ¬ distance sn s.lastSent > 0)
    (processed : s.processCanceled sn = .ok (woken, next)) :
    s.Accuses next ↔ ∃ index entry, s.Holds sn index ∧ s.unacked[index]? = some entry ∧
      (entry = .acked ∨ entry.isOutstanding = true) := by
  unfold processCanceled at processed
  have looks := s.lookupAckIndex_cases sn
  generalize s.lookupAckIndex sn = looked at looks processed
  cases looks with
  | antipode => cases processed
  | tooNew new => exact absurd new sent
  | tooOld _ outside =>
    cases processed
    rw [accuses_count]
    exact ⟨nofun, fun ⟨index, _, holds, _⟩ => absurd holds (outside index)⟩
  | @holds index entry _ holds found =>
    rw [ok_bind] at processed
    dsimp only at processed
    rw [get_ok.mpr found, ok_bind] at processed
    have only (calm : ¬ (entry = .acked ∨ entry.isOutstanding = true)) : ¬ ∃ index entry, s.Holds sn index ∧
        s.unacked[index]? = some entry ∧ (entry = .acked ∨ entry.isOutstanding = true) := by
      intro ⟨place, other, holds', found', wrong⟩
      rw [holds'.unique holds, found] at found'
      cases found'
      exact calm wrong
    cases entry with
    | unacked =>
      cases processed
      rw [accuses_count]
      exact ⟨fun _ => ⟨index, _, holds, found, .inr rfl⟩, fun _ => rfl⟩
    | acked =>
      cases processed
      rw [accuses_count]
      exact ⟨fun _ => ⟨index, _, holds, found, .inl rfl⟩, fun _ => rfl⟩
    | cancelAcked =>
      cases processed
      rw [accuses_count]
      exact ⟨nofun, fun wrong => absurd wrong (only (by rintro (wrong | wrong) <;> cases wrong))⟩
    | cancelRequested waker forgotten =>
      obtain ⟨cleaned, clean, processed⟩ := bind_ok.mp processed
      cases processed
      exact iff_of_false (not_accuses (replace_stats clean)) (only (by rintro (wrong | wrong) <;> cases wrong))

end Sender

namespace Session
open Runs
variable {windowSize n : Nat} {start s next : Session Pkt} {ledger : Ledger} {actions}

/-- One end counted a protocol error of the other. -/
def Blames (s next : Session Pkt) : Prop :=
  s.sender.Accuses next.sender ∨
    ∃ stat : ReceiverStat, stat.isProtocolError = true ∧ s.receiver.stats stat < next.receiver.stats stat

/-- A cancellation is delivered of a packet that is acknowledged and still in the window. -/
def StaleCanceled (s : Session Pkt) (action : Action Pkt) : Prop :=
  ∃ place queueFull sn index, action = .deliver place queueFull ∧ s.network[place]? = some (.canceled sn) ∧
    s.sender.Holds sn index ∧ s.sender.unacked[index]? = some .acked

theorem not_blames (sender : next.sender.stats = s.sender.stats) (receiver : next.receiver.stats = s.receiver.stats) :
    ¬ s.Blames next := by
  rintro (accuses | ⟨stat, _, more⟩)
  · exact not_accuses sender accuses
  · rw [receiver] at more
    omega

section
variable (agrees : Agrees n s ledger) (small : n ≤ 2 ^ 57)
include agrees small

theorem receive_blameless {item} (known : Numbered n sn item) {isCancel disposition receiver}
    (answered : s.receiver.processPacketOrCancel sn isCancel = .ok (disposition, receiver)) (stat : ReceiverStat)
    (wrong : stat.isProtocolError = true) : receiver.stats stat = s.receiver.stats stat := by
  have place := agrees.windows.item small known
  have near := mt (agrees.windows.represents.tooNew_iff _).mpr (place ▸ agrees.windows.not_tooNew known.2.1)
  cases stat with
  | tooNew => exact Receiver.processPacketOrCancel_tooNew near answered
  | tooOld | duplicate | outOfOrder => cases wrong

theorem numbered_sent {item} (known : Numbered n sn item) : ¬ distance sn s.sender.lastSent > 0 := by
  obtain ⟨positive, below, same⟩ := known
  rw [same, agrees.windows.lastSent, distance_ofInt (by omega) (by omega) (by omega)]
  omega

theorem deliver_blames_iff {message} (present : message ∈ s.network) {queueFull}
    (delivered : s.deliver queueFull message = .ok next) :
    s.Blames next ↔ ∃ sn index, message = .canceled sn ∧ s.sender.Holds sn index ∧
      s.sender.unacked[index]? = some .acked := by
  have genuine := agrees.windows.wire message present
  cases message with
  | data sn packet =>
    obtain ⟨item, known⟩ := genuine
    obtain ⟨⟨disposition, receiver⟩, dispatched, delivered⟩ := bind_ok.mp delivered
    cases delivered
    refine ⟨fun blames => ?_, fun ⟨_, _, impossible, _⟩ => by cases impossible⟩
    rcases blames with accuses | ⟨stat, wrong, more⟩
    · exact absurd accuses (not_accuses rfl)
    obtain ⟨wanted, _, dispatched⟩ := bind_ok.mp dispatched
    split at dispatched
    · cases dispatched
      exact absurd more (lt_irrefl _)
    · have same := receive_blameless agrees small known dispatched stat wrong
      simp only [same, lt_irrefl] at more
  | cancel sn =>
    obtain ⟨item, known⟩ := genuine
    obtain ⟨⟨disposition, receiver⟩, dispatched, delivered⟩ := bind_ok.mp delivered
    cases delivered
    refine ⟨fun blames => ?_, fun ⟨_, _, impossible, _⟩ => by cases impossible⟩
    rcases blames with accuses | ⟨stat, wrong, more⟩
    · exact absurd accuses (not_accuses rfl)
    · have same := receive_blameless agrees small known dispatched stat wrong
      simp only [same, lt_irrefl] at more
  | ack sn =>
    obtain ⟨item, known, processed⟩ := genuine
    obtain ⟨⟨packet, woken, sender⟩, heeded, delivered⟩ := bind_ok.mp delivered
    cases delivered
    refine ⟨fun blames => ?_, fun ⟨_, _, impossible, _⟩ => by cases impossible⟩
    rcases blames with accuses | ⟨stat, _, more⟩
    · obtain ⟨index, holds, found⟩ := processAck_accuses (numbered_sent agrees small known) heeded accuses
      have canceled := (agrees.windows.entries index _ found).cancelAcked rfl
      rw [agrees.windows.holds small known holds, processed] at canceled
      cases canceled
    · exact absurd more (lt_irrefl _)
  | canceled sn =>
    obtain ⟨item, known, canceled⟩ := genuine
    obtain ⟨⟨woken, sender⟩, heeded, delivered⟩ := bind_ok.mp delivered
    cases delivered
    have accuses := processCanceled_accuses (numbered_sent agrees small known) heeded
    constructor
    · rintro (blamed | ⟨stat, _, more⟩)
      · obtain ⟨index, entry, holds, found, rfl | outstanding⟩ := accuses.mp blamed
        · exact ⟨sn, index, rfl, holds, found⟩
        have never := (agrees.windows.outstanding index entry found outstanding).verdict
        rw [agrees.windows.holds small known holds] at never
        exact absurd canceled never
      · exact absurd more (lt_irrefl _)
    · rintro ⟨other, index, same, holds, found⟩
      cases same
      exact .inl (accuses.mpr ⟨index, _, holds, found, .inl rfl⟩)

theorem step_blames_iff {action} (stepped : s.step action = .ok next) : s.Blames next ↔ s.StaleCanceled action := by
  cases action with
  | call op =>
    obtain ⟨⟨messages, sender⟩, performed, stepped⟩ := bind_ok.mp stepped
    cases stepped
    refine ⟨fun blames => ?_, fun ⟨_, _, _, _, impossible, _⟩ => by cases impossible⟩
    rcases blames with ⟨stat, _, more⟩ | ⟨stat, _, more⟩
    · exact absurd more (not_lt.mpr (perform_stats performed stat))
    · exact absurd more (lt_irrefl _)
  | deliver place queueFull =>
    simp only [step] at stepped
    cases found : s.network[place]? with
    | none =>
      rw [found] at stepped
      cases stepped
      refine ⟨fun blames => absurd blames (not_blames rfl rfl), ?_⟩
      rintro ⟨_, _, _, _, same, present, _⟩
      cases same
      rw [found] at present
      cases present
    | some message =>
      rw [found] at stepped
      rw [deliver_blames_iff agrees small (List.mem_of_getElem? found) stepped]
      constructor
      · rintro ⟨sn, index, rfl, holds, acked⟩
        exact ⟨place, queueFull, sn, index, rfl, found, holds, acked⟩
      rintro ⟨_, _, sn, index, same, present, holds, acked⟩
      cases same
      rw [found] at present
      cases present
      exact ⟨sn, index, rfl, holds, acked⟩

end

/-- In a session of two honest ends a protocol error is counted by those steps, and only
those, that deliver a cancellation of a packet the sender has in its window as
acknowledged. -/
theorem run_blames_iff (made : Session.new windowSize = .ok start) (narrow : windowSize ≤ 63)
    (run : Run step Allowed start actions s) (short : actions.length < 2 ^ 57) {action : Action Pkt}
    (stepped : s.step action = .ok next) : s.Blames next ↔ s.StaleCanceled action := by
  obtain ⟨n, few, ledger, agrees⟩ := run_agrees made narrow run short
  exact step_blames_iff agrees (by omega) stepped

instance (s : Session Pkt) (action : Action Pkt) : Decidable (s.Allowed action) := by
  unfold Allowed
  split <;> infer_instance

/-- The second of two packets is canceled and forgotten while the first is outstanding, and
the cancellation is acknowledged. -/
private def forgetful : List (Action Unit) :=
  [.call (.adjustWindowSize 2), .call (.enqueuePacket ()), .call (.enqueuePacket ()), .call (.cancelSentPacket 1),
    .call (.forgetCanceledPacket 1), .deliver 2 false, .deliver 3 false]

theorem run_blames_sample : ∃ start s next : Session Unit, Session.new 2 = .ok start ∧
    Run step Allowed start forgetful s ∧ s.step (.deliver 3 false) = .ok next ∧
    (s.Blames next ↔ s.StaleCanceled (.deliver 3 false)) :=
  have run := Run.of_execWhere rfl
  ⟨_, _, _, rfl, run, rfl, run_blames_iff rfl (by decide : 2 ≤ 63) run (by decide) rfl⟩

/-- When the network repeats the acknowledgement, the peer is blamed for it. -/
theorem run_blames_forgetful : ∃ start s next : Session Unit, Session.new 2 = .ok start ∧
    Run step Allowed start forgetful s ∧ s.step (.deliver 3 false) = .ok next ∧
    s.sender.stats .invalidAck = 0 ∧ next.sender.stats .invalidAck = 1 :=
  ⟨_, _, _, rfl, .of_execWhere rfl, rfl, rfl, rfl⟩

end Session
end ZprCore.Zdpr
