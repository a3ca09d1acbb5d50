import ZprCore.Mgmt.Exchange
import ZprCore.Proofs.HandleRegister
import ZprCore.Proofs.ZdprAgreement

/-! What the futures of a link say about their packets. -/

open List

open Nat

namespace ZprCore.Zdpr.Windows
open Panic
variable {Pkt : Type} {n : Nat} {s : Session Pkt} {ledger : Ledger}

theorem calls {permits count} (windows : Windows n s ledger) (small : n + count ≤ 2 ^ 57)
    (fixed : ∀ windowSize, ¬ permits (.adjustWindowSize windowSize)) {messages next}
    (calls : Sender.Calls permits count s.sender messages next) :
    ∃ m ≤ n + count, Windows m { s with sender := next, network := s.network ++ messages } ledger := by
  obtain ⟨ops, few, runs⟩ := calls
  have kept := (runs s.network).indexed count
    (fun taken state => ∃ m ≤ n + taken, Windows m { s with sender := state.1, network := state.2 } ledger) ?_
    (by omega : 0 + ops.length ≤ count) ⟨n, le_refl _, windows⟩
  · obtain ⟨m, more, windows'⟩ := kept
    exact ⟨m, by omega, windows'⟩
  rintro taken state op after inside permitted ⟨m, more, windows'⟩ stepped
  obtain ⟨⟨messages, sender⟩, performed, done⟩ := bind_ok.mp stepped
  cases done
  have allowed : s.Allowed (.call op) := by
    cases op with
    | adjustWindowSize windowSize => exact absurd permitted (fixed windowSize)
    | _ => trivial
  obtain kept | pushed := windows'.perform (by omega) allowed performed
  · exact ⟨m, by omega, kept⟩
  · exact ⟨m + 1, by omega, pushed⟩

end ZprCore.Zdpr.Windows

namespace ZprCore.Mgmt
open Zdpr Zdpr.Sender Panic Runs
variable {Pkt : Type}

theorem sendUnblocked_calls {rounds s next} {sent : List (SeqNum × Pkt)}
    (unblocked : sendUnblocked rounds s = .ok (sent, next)) :
    Calls (· = .enqueueNextBlockedPacket) rounds s (sent.map fun (seqNum, packet) => .data seqNum packet) next := by
  induction rounds generalizing s sent with
  | zero =>
    cases unblocked
    exact .refl _
  | succ rounds ih =>
    simp only [sendUnblocked] at unblocked
    split at unblocked
    · obtain ⟨⟨⟨seqNum, packet⟩, woken, middle⟩, enqueued, unblocked⟩ := bind_ok.mp unblocked
      obtain ⟨⟨rest, last⟩, remaining, unblocked⟩ := bind_ok.mp unblocked
      cases unblocked
      have first : Calls (· = .enqueueNextBlockedPacket) 1 s [.data seqNum packet] middle := .one _ rfl (by
        rw [perform, enqueued]
        rfl)
      rw [add_comm]
      exact first.trans (ih remaining)
    · cases unblocked
      exact .refl _

namespace Exchange
variable {e next : Exchange Pkt} {r : Register Pkt} {ledger later : Ledger} {n : Nat}
variable {receiver : Receiver} {disposition : Disposition} {sn : SeqNum}

section
variable (e : Exchange Pkt)

/-- The two ends as a session. -/
def session : Session (Tagged Pkt) := ⟨e.driver.sender, e.receiver, e.network, []⟩

/-- A cancellation is acknowledged while the future of its packet still has the id of a queued
packet. -/
def Unseen : ExchangeStep Pkt → Prop
  | .drive _ => False
  | .deliver index _ =>
    match e.network[index]? with
    | some (.canceled seqNum) => ∃ handle ∈ e.driver.handles, ∃ id, handle.packetId = .queued id ∧
        e.driver.sender.lookupSeqNum id = .ok (some seqNum)
    | _ => False

/-- What the futures may rely on. -/
def Attentive (step : ExchangeStep Pkt) : Prop := e.Allowed step ∧ ¬ e.Unseen step

/-- Answers were sent by the peer. -/
def Heeds : DriverStep Pkt → Prop
  | .acknowledgement seqNum isCanceled => (if isCanceled then .canceled seqNum else .ack seqNum) ∈ e.network
  | .windowSizeTlv windowSize => windowSize.toNat ≤ e.receiver.windowSize
  | .sendMgmt _ | .retry | .handle _ _ => True

end

theorem processAcknowledgement_windows (windows : Windows n e.session ledger) (small : n ≤ 2 ^ 57) {seqNum}
    {isCanceled} (sent : (if isCanceled then .canceled seqNum else .ack seqNum) ∈ e.network)
    {sender} (processed : processAcknowledgement e.driver.sender seqNum isCanceled = .ok sender) :
    Windows n { e.session with sender } ledger := by
  cases isCanceled with
  | false =>
    obtain ⟨⟨packet, woken, last⟩, heeded, done⟩ := bind_ok.mp processed
    cases done
    exact windows.processAck [] small (windows.wire _ sent) heeded
  | true =>
    obtain ⟨⟨woken, last⟩, heeded, done⟩ := bind_ok.mp processed
    cases done
    exact windows.processCanceled [] small (windows.wire _ sent) heeded

theorem drive_windows (windows : Windows n e.session ledger) (small : n + 2 ≤ 2 ^ 57)
    (room : n + e.driver.sender.blocked.length ≤ 2 ^ 57) {step} (heeds : e.Heeds step) {wire} {driver}
    (stepped : e.driver.step step = .ok (wire, driver)) :
    ∃ m ≤ 2 ^ 57, Windows m ⟨driver.sender, e.receiver, e.network ++ wire, []⟩ ledger := by
  have called {permits : SenderOp (Tagged Pkt) → Prop} (fixed : ∀ windowSize, ¬ permits (.adjustWindowSize windowSize))
      (calls : Calls permits 2 e.driver.sender wire driver.sender) :
      ∃ m ≤ 2 ^ 57, Windows m ⟨driver.sender, e.receiver, e.network ++ wire, []⟩ ledger := by
    obtain ⟨m, few, windows'⟩ := windows.calls (by omega) fixed calls
    exact ⟨m, by omega, windows'⟩
  cases step with
  | sendMgmt packet =>
    have calls : Calls (· = .enqueuePacket ⟨e.driver.sends, packet⟩) 1 e.driver.sender wire driver.sender :=
      .one _ rfl (Driver.sendMgmtHelper_performs (Except.ok.inj stepped))
    exact called (by simp) (calls.mono (by decide))
  | acknowledgement seqNum isCanceled =>
    obtain ⟨⟨sent, sender⟩, acknowledged, stepped⟩ := bind_ok.mp stepped
    cases stepped
    obtain ⟨answered, processed, unblocked⟩ := bind_ok.mp acknowledged
    rw [countZdprSenderStats_eq] at unblocked
    have reset : Idle answered { answered with stats := fun _ => 0 } := .unchanged rfl rfl rfl
    have windows' := (processAcknowledgement_windows windows (by omega) heeds processed).idle [] reset
    have blocked := Traffic.processAcknowledgement_blocked processed
    obtain ⟨m, few, windows''⟩ := windows'.calls (by rw [blocked]; exact room) (by simp) (sendUnblocked_calls unblocked)
    rw [blocked] at few
    exact ⟨m, by omega, windows''⟩
  | windowSizeTlv windowSize =>
    obtain ⟨rfl, processed⟩ := Driver.silent_ok stepped
    rw [append_nil]
    obtain ⟨_, rfl⟩ | ⟨_, rfl⟩ := Driver.processWindowSizeTlv_cases processed
    · exact ⟨n, by omega, windows⟩
    · exact ⟨n, by omega, windows.adjust heeds⟩
  | retry =>
    cases stepped
    refine ⟨n, by omega, (windows.idle [] (Retains.age _ _).idle).retain (by omega) (.refl _) ?_⟩
    intro message member
    obtain data | cancel := mem_append.mp member
    · obtain ⟨⟨seqNum, packet⟩, retried, rfl⟩ := mem_map.mp data
      exact retryPackets_repeats _ retried
    · obtain ⟨seqNum, retried, rfl⟩ := mem_map.mp cancel
      exact retryCancels_repeats _ retried
  | handle index op =>
    rw [Driver.step] at stepped
    split at stepped
    · cases stepped
      have calls : Calls (fun _ => False) 2 e.driver.sender [] e.driver.sender := .refl _
      exact called (fun _ => id) calls
    rename_i handle _
    obtain ⟨seqNum, _, forgotten, rfl⟩ | ⟨_, calls⟩ := (Driver.handleStep_calls stepped).2
    · have calls : Calls (· = .forgetCanceledPacket seqNum) 1 e.driver.sender [] driver.sender := .one _ rfl (by
        rw [perform, forgotten]
        rfl)
      exact called (by simp) (calls.mono (by decide))
    · exact called (fun _ => id) calls

/-- What the ledger of a peer makes known. -/
def peer (ledger : Ledger) : Peer := ⟨True, fun item => ledger.verdict item = some .processed⟩

/-- What a future said of its packet. -/
def Told (r : Register Pkt) (ledger : Ledger) (d : Driver Pkt) (serial : Nat) : PacketStatus → Prop
  | .acked => r.Delivered (peer ledger) serial
  | .canceled => (∃ item : Nat, r.Carries item serial ∧ ledger.verdict item = some .canceled) ∨
      serial < d.sends ∧ r.Withholds d.sender serial

/-- Every future stands for its packet, and what futures said is true. -/
structure Faithful (e : Exchange Pkt) (r : Register Pkt) (ledger : Ledger) : Prop where
  registered : Driver.Registered (peer ledger) e.driver r
  windows : Windows r.carried.length e.session ledger
  labels : Driver.Labels r e.network
  processed : ∀ packet, packet ∈ e.processed ↔
    ∃ item : Nat, r.carried[item]? = some packet ∧ ledger.verdict item = some .processed
  told : ∀ record ∈ e.driver.resolved, Told r ledger e.driver record.1 record.2

namespace Faithful

variable (faithful : Faithful e r ledger)
include faithful

theorem small (few : e.driver.sends ≤ 2 ^ 57) : r.carried.length ≤ 2 ^ 57 := by
  have := faithful.registered.registers.few
  omega

variable {step : DriverStep Pkt} (heeds : e.Heeds step) (noticed : ∀ seqNum, step = .acknowledgement seqNum true →
  ∀ handle ∈ e.driver.handles, ∀ id, handle.packetId = .queued id → e.driver.sender.lookupSeqNum id ≠ .ok (some seqNum))
include heeds noticed

/-- Answers of the peer are true. -/
theorem trusts (few : e.driver.sends ≤ 2 ^ 57) : e.driver.Trusts (peer ledger) r step := by
  cases step with
  | acknowledgement seqNum isCanceled =>
    cases isCanceled with
    | false =>
      intro item below same
      obtain ⟨other, known, verdict⟩ := faithful.windows.wire _ heeds
      cases Numbered.unique (faithful.small few) ⟨by omega, by omega, same⟩ known
      exact verdict
    | true => exact noticed seqNum rfl
  | sendMgmt | windowSizeTlv | retry | handle => trivial

theorem drive (few : e.driver.sends + 2 ≤ 2 ^ 57) (driven : e.drive step = .ok next) :
    ∃ r', Faithful next r' ledger := by
  obtain ⟨⟨wire, driver⟩, stepped, driven⟩ := bind_ok.mp driven
  cases driven
  have room := faithful.registered.registers.few
  rw [queue_length] at room
  obtain ⟨m, bound, windows⟩ := drive_windows faithful.windows (by omega) (by omega) heeds stepped
  obtain ⟨r', keeps, labels⟩ := faithful.registered.step (by omega)
    (fun _ => faithful.trusts heeds noticed (by omega)) stepped
  obtain rfl : m = r'.carried.length := by
    have grown := (Driver.step_grows stepped).sends
    have fits := keeps.registered.registers.few
    have same := windows.lastSent.symm.trans keeps.registered.registers.lastSent
    have equal := Serial.ofInt_inj (by decide) (by omega) (by omega) same
    omega
  obtain ⟨more, grown⟩ := keeps.carried
  refine ⟨r', keeps.registered, windows, ?_, ?_, ?_⟩
  · intro sn packet member
    obtain old | new := mem_append.mp member
    · obtain ⟨item, same, carried⟩ := faithful.labels sn packet old
      exact ⟨item, same, by rw [← grown, getElem?_append_left (lt_length carried), carried]⟩
    · exact labels sn packet new
  · intro packet
    rw [faithful.processed]
    refine exists_congr fun item => and_congr_left fun verdict => ?_
    have old : item < r.carried.length := by
      refine not_le.mp fun far => ?_
      cases (faithful.windows.undecided (by omega)).symm.trans verdict
    rw [← grown, getElem?_append_left old]
  · intro record member
    obtain old | ⟨known, tells⟩ := keeps.tells trivial record member
    · have told := faithful.told record old
      generalize record.2 = status at told ⊢
      cases status with
      | acked => exact told.mono keeps.carried
      | canceled =>
        obtain ⟨item, carries, verdict⟩ | ⟨known, withholds⟩ := told
        · exact .inl ⟨item, carries.mono keeps.carried, verdict⟩
        refine .inr ⟨lt_of_lt_of_le known keeps.sends, fun packet member => ?_⟩
        obtain before | fresh := keeps.line packet member
        · exact withholds packet before
        · exact fun same => absurd (same ▸ fresh) (not_le.mpr known)
    · generalize record.2 = status at tells ⊢
      cases status with
      | acked => exact tells
      | canceled =>
        obtain ⟨item, carries, canceled⟩ | withholds := tells
        · refine .inl ⟨item, carries, ?_⟩
          obtain ⟨_, gone⟩ | ⟨index, entry, place, present, same⟩ := driver.sender.entryAt_cases carries.below
          · cases gone.symm.trans canceled
          cases same.symm.trans canceled
          have justified := (windows.entries index _ present).cancelAcked rfl
          rw [show (item : Int) = r'.carried.length - driver.sender.unacked.length + index by omega]
          exact justified
        · exact .inr ⟨lt_of_lt_of_le known keeps.sends, withholds⟩

end Faithful

theorem reply_no_data {Pkt} (disposition : Disposition) (sn other : SeqNum) (packet : Pkt) :
    (Message.data other packet : Message Pkt) ∉ disposition.reply sn := by
  cases disposition <;> simp [Disposition.reply, Disposition.shouldAck, Disposition.ackIsCanceled]

section
variable (faithful : Faithful e r ledger)
include faithful

/-- The peer decides more, and takes nothing back. -/
theorem Faithful.hear {processed} (extends' : Extends ledger later)
    (windows : Windows r.carried.length { e.session with receiver, network := e.network ++ disposition.reply sn } later)
    (recorded : ∀ packet, packet ∈ processed ↔ ∃ item : Nat, r.carried[item]? = some packet ∧ later.verdict item = some .processed) :
    Faithful { e with receiver, network := e.network ++ disposition.reply sn, processed } r later := by
  have registered := faithful.registered
  refine ⟨⟨registered.registers, ?_, registered.ordered, registered.known, registered.whole⟩, windows, ?_, recorded, ?_⟩
  · intro handle member
    exact (registered.stands handle member).hears fun item => extends' _ _
  · intro sn' packet member
    obtain old | new := mem_append.mp member
    · exact faithful.labels sn' packet old
    · exact absurd new (reply_no_data disposition sn _ packet)
  · intro record member
    have told := faithful.told record member
    generalize record.2 = status at told ⊢
    cases status with
    | acked =>
      obtain ⟨item, carries, verdict⟩ := told
      exact ⟨item, carries, extends' _ _ verdict⟩
    | canceled =>
      obtain ⟨item, carries, verdict⟩ | withholds := told
      · exact .inl ⟨item, carries, extends' _ _ verdict⟩
      · exact .inr withholds

omit faithful in
/-- Verdicts about other packets stay, and the packet's own is the first one about it. -/
theorem record_processed {ledger : Ledger} {item : Nat} (fresh : ledger.verdict item = none) (verdict : Verdict)
    {carried : List (Tagged Pkt)} {packet given} (found : carried[item]? = some given) :
    (∃ other : Nat, carried[other]? = some packet ∧ (ledger.record item verdict).verdict other = some .processed) ↔
      (∃ other : Nat, carried[other]? = some packet ∧ ledger.verdict other = some .processed) ∨
        (verdict = .processed ∧ packet = given) := by
  constructor
  · intro ⟨other, present, processed⟩
    by_cases here : (other : Int) = item
    · obtain rfl : other = item := by omega
      rw [Window.Log.record_same] at processed
      cases found.symm.trans present
      exact .inr ⟨Option.some.inj processed, rfl⟩
    · rw [Window.Log.record_other _ _ here] at processed
      exact .inl ⟨other, present, processed⟩
  · rintro (⟨other, present, processed⟩ | ⟨rfl, rfl⟩)
    · exact ⟨other, present, Window.Log.record_keeps fresh processed⟩
    · exact ⟨item, found, Window.Log.record_same _ _ _⟩

theorem Faithful.receive (few : e.driver.sends ≤ 2 ^ 57) {packet} (sent : .data sn packet ∈ e.network)
    (answered : e.receiver.processPacket sn = .ok (disposition, receiver)) :
    ∃ later, Faithful { e with
      receiver
      network := e.network ++ disposition.reply sn
      processed := e.processed ++ if disposition.shouldProcess then [packet] else [] } r later := by
  obtain ⟨item, rfl, found⟩ := faithful.labels sn packet sent
  have below := lt_length found
  obtain ⟨rfl, _, windows⟩ := faithful.windows.receive [] (faithful.small few) ⟨by omega, by omega, rfl⟩ answered nofun
  refine ⟨_, faithful.hear (ledger.receive_extends _ _ _) windows ?_⟩
  intro packet'
  obtain ⟨same, _⟩ | ⟨verdict, _, same⟩ | ⟨fresh, _, same⟩ := ledger.receive_cases e.session.receiver.windowSize item false
  · rw [same, show Disposition.ignore.shouldProcess = false from rfl, if_neg Bool.false_ne_true, append_nil]
    exact faithful.processed packet'
  · rw [same, show (Ledger.answer verdict).shouldProcess = false by cases verdict <;> rfl, if_neg Bool.false_ne_true,
      append_nil]
    exact faithful.processed packet'
  rw [same, show (Ledger.firstAnswer (Ledger.verdictOf false)).shouldProcess = true from rfl, if_pos rfl, mem_append,
    mem_singleton, faithful.processed, record_processed fresh _ found]
  exact or_congr_right ⟨fun given => ⟨rfl, given⟩, fun given => given.2⟩

theorem Faithful.receive_cancel (few : e.driver.sends ≤ 2 ^ 57) (sent : .cancel sn ∈ e.network)
    (answered : e.receiver.processCancel sn = .ok (disposition, receiver)) :
    ∃ later, Faithful { e with receiver, network := e.network ++ disposition.reply sn } r later := by
  obtain ⟨item, known⟩ := faithful.windows.wire _ sent
  obtain ⟨rfl, _, windows⟩ := faithful.windows.receive [] (faithful.small few) known answered fun _ => sent
  refine ⟨_, faithful.hear (ledger.receive_extends _ _ _) windows ?_⟩
  intro packet
  obtain ⟨item, rfl⟩ := Int.eq_ofNat_of_zero_le known.1
  have below : item < r.carried.length := by have := known.2.1; omega
  rw [faithful.processed]
  obtain ⟨same, _⟩ | ⟨verdict, _, same⟩ | ⟨fresh, _, same⟩ := ledger.receive_cases e.session.receiver.windowSize item true
  · rw [same]
  · rw [same]
  · rw [same, record_processed fresh _ (getElem?_eq_getElem below)]
    exact ⟨.inl, fun either => either.elim id fun impossible => nomatch impossible.1⟩

theorem deliver_faithful (few : e.driver.sends + 2 ≤ 2 ^ 57) {message} (sent : message ∈ e.network) {queueFull}
    (noticed : ∀ seqNum, message = .canceled seqNum → ∀ handle ∈ e.driver.handles, ∀ id, handle.packetId = .queued id → e.driver.sender.lookupSeqNum id ≠ .ok (some seqNum))
    (delivered : e.deliver queueFull message = .ok next) : ∃ r' later, Faithful next r' later := by
  cases message with
  | data seqNum packet =>
    obtain ⟨⟨disposition, receiver⟩, dispatched, delivered⟩ := bind_ok.mp delivered
    cases delivered
    unfold Receiver.dispatchPacket at dispatched
    obtain ⟨wanted, _, dispatched⟩ := bind_ok.mp dispatched
    split at dispatched
    · cases dispatched
      exact ⟨r, ledger, by simpa [Disposition.reply, Disposition.shouldAck, Disposition.shouldProcess] using faithful⟩
    · exact ⟨r, faithful.receive (by omega) sent dispatched⟩
  | cancel seqNum =>
    obtain ⟨⟨disposition, receiver⟩, answered, delivered⟩ := bind_ok.mp delivered
    cases delivered
    exact ⟨r, faithful.receive_cancel (by omega) sent answered⟩
  | ack seqNum =>
    have heeds : e.Heeds (.acknowledgement seqNum false) := sent
    obtain ⟨r', faithful'⟩ := faithful.drive heeds (by simp) few delivered
    exact ⟨r', ledger, faithful'⟩
  | canceled seqNum =>
    have heeds : e.Heeds (.acknowledgement seqNum true) := sent
    obtain ⟨r', faithful'⟩ := faithful.drive heeds (by
      rintro seqNum ⟨⟩
      exact noticed seqNum rfl) few delivered
    exact ⟨r', ledger, faithful'⟩

theorem step_faithful (few : e.driver.sends + 2 ≤ 2 ^ 57) {step} (attentive : e.Attentive step)
    (stepped : e.step step = .ok next) : ∃ r' later, Faithful next r' later := by
  cases step with
  | drive step =>
    have heeds : e.Heeds step := by
      cases step with
      | acknowledgement => exact attentive.1.elim
      | windowSizeTlv => exact attentive.1
      | sendMgmt | retry | handle => trivial
    obtain ⟨r', faithful'⟩ := faithful.drive heeds (by
      rintro seqNum rfl
      exact attentive.1.elim) few stepped
    exact ⟨r', ledger, faithful'⟩
  | deliver index queueFull =>
    rw [Exchange.step] at stepped
    cases found : e.network[index]? with
    | none =>
      rw [found] at stepped
      cases stepped
      exact ⟨r, ledger, faithful⟩
    | some message =>
      rw [found] at stepped
      refine deliver_faithful faithful few (mem_of_getElem? found) ?_ stepped
      intro seqNum same handle member id queued looked
      apply attentive.2
      rw [Unseen, found, same]
      exact ⟨handle, member, id, queued, looked⟩

end

theorem step_grows {step} (stepped : e.step step = .ok next) : e.driver.Grows next.driver := by
  have drives {step} (driven : e.drive step = .ok next) : e.driver.Grows next.driver := by
    obtain ⟨⟨wire, driver⟩, inner, driven⟩ := bind_ok.mp driven
    cases driven
    exact Driver.step_grows inner
  cases step with
  | drive step => exact drives stepped
  | deliver index queueFull =>
    rw [Exchange.step] at stepped
    split at stepped
    · cases stepped
      exact .refl _
    rename_i message _
    cases message with
    | data | cancel =>
      obtain ⟨⟨disposition, receiver⟩, _, stepped⟩ := bind_ok.mp stepped
      cases stepped
      exact .refl _
    | ack | canceled => exact drives stepped

theorem new_faithful {windowSize} (made : Exchange.new windowSize = .ok e) (narrow : windowSize ≤ 63) :
    Faithful e ⟨[], 0⟩ Ledger.initial := by
  obtain ⟨receiver, built, made⟩ := bind_ok.mp made
  cases made
  have session : Session.new windowSize = .ok (⟨.new, receiver, [], []⟩ : Session (Tagged Pkt)) := by
    rw [Session.new, built]
    rfl
  refine ⟨Driver.registered_new, (Agrees.new session narrow).windows, nofun, ?_, nofun⟩
  intro packet
  refine iff_of_false nofun ?_
  intro ⟨_, impossible, _⟩
  cases impossible

/-- A run keeps its futures faithful as long as no cancellation goes unseen. -/
theorem run_faithful {windowSize start labels} (made : Exchange.new windowSize = .ok start) (narrow : windowSize ≤ 63)
    (run : Run step Attentive start labels e) (short : labels.length < 2 ^ 57) : ∃ r ledger, Faithful e r ledger := by
  have none : start.driver.sends ≤ 0 := by
    obtain ⟨receiver, _, made⟩ := bind_ok.mp made
    cases made
    exact le_refl _
  have kept := run.indexed (2 ^ 57 - 1) (fun taken e => e.driver.sends ≤ taken ∧ ∃ r ledger, Faithful e r ledger) ?_
    (by omega : 0 + labels.length ≤ 2 ^ 57 - 1) ⟨none, _, _, new_faithful made narrow⟩
  · exact kept.2
  intro taken e step next inside attentive ⟨few, r, ledger, faithful⟩ stepped
  refine ⟨?_, step_faithful faithful (by omega) attentive stepped⟩
  have := (step_grows stepped).sends
  omega

theorem run_resolved {labels} (run : Run step Attentive e labels next) : e.driver.resolved <+: next.driver.resolved := by
  refine run.invariant (fun later => e.driver.resolved <+: later.driver.resolved) ?_ prefix_rfl
  intro middle step later _ grown stepped
  exact grown.trans (step_grows stepped).resolved

/-- As long as no cancellation is acknowledged unseen, a future that resolves says what
happened: the peer processed the packet, or it did not and never will. -/
theorem futures_tell_truth {windowSize : Nat} {start middle final : Exchange Pkt} {labels more : List (ExchangeStep Pkt)}
    (made : Exchange.new windowSize = .ok start) (narrow : windowSize ≤ 63)
    (run : Run step Attentive start labels middle) (later : Run step Attentive middle more final)
    (short : labels.length + more.length < 2 ^ 57) (serial : Nat) :
    ((serial, .acked) ∈ middle.driver.resolved → ∃ packet, ⟨serial, packet⟩ ∈ middle.processed) ∧
      ((serial, .canceled) ∈ middle.driver.resolved → ∀ packet, ⟨serial, packet⟩ ∉ final.processed) := by
  constructor
  · intro said
    obtain ⟨r, ledger, faithful⟩ := run_faithful made narrow run (by omega)
    obtain ⟨item, ⟨packet, found⟩, verdict⟩ := faithful.told _ said
    exact ⟨packet, (faithful.processed _).mpr ⟨item, found, verdict⟩⟩
  · intro said packet processed
    have whole := run.append later
    obtain ⟨r, ledger, faithful⟩ := run_faithful made narrow whole (by rw [length_append]; omega)
    obtain ⟨item, found, verdict⟩ := (faithful.processed _).mp processed
    obtain ⟨other, carries, canceled⟩ | ⟨_, withholds⟩ := faithful.told _ ((run_resolved later).subset said)
    · cases (faithful.registered.registers.unique carries).1 item ⟨packet, found⟩
      cases canceled.symm.trans verdict
    · exact withholds _ (mem_append_left _ (mem_map.mpr ⟨_, mem_of_getElem? found, rfl⟩)) rfl

/-- A packet is sent, processed and acknowledged, and its future resolves. -/
def sampleAcked : List (ExchangeStep Nat) :=
  [.drive (.sendMgmt 10), .drive (.handle 0 .acked), .drive (.handle 0 .ackedOrCanceled), .deliver 0 false,
    .deliver 1 false, .drive (.handle 0 (.poll .noop))]

/-- The second packet is queued and given a retry limit. It is sent when the first one is
acknowledged, gives up at the next timer tick, and is canceled by the peer before its future
is polled. -/
def sampleUnseen : List (ExchangeStep Nat) :=
  [.drive (.sendMgmt 10), .drive (.sendMgmt 11), .drive (.handle 1 (.limitRetries 0)), .deliver 0 false,
    .deliver 1 false, .drive .retry, .deliver 3 false, .deliver 4 false, .drive (.handle 1 (.poll .noop))]

theorem futures_tell_truth_sample : ∃ start middle : Exchange Nat, Exchange.new 2 = .ok start ∧
    Run step Attentive start sampleAcked middle ∧ middle.driver.resolved = [(0, .acked)] ∧
    ((0, .acked) ∈ middle.driver.resolved → ∃ packet, ⟨0, packet⟩ ∈ middle.processed) ∧
    ((0, .canceled) ∈ middle.driver.resolved → ∀ packet, ⟨0, packet⟩ ∉ middle.processed) := by
  have attentive {e : Exchange Nat} {op} allowed : e.Attentive (.drive op) :=
    ⟨allowed, id⟩
  obtain ⟨start, made⟩ : ∃ start, Exchange.new 2 = .ok start := ⟨_, rfl⟩
  obtain ⟨middle, run, resolved⟩ : ∃ middle : Exchange Nat,
      Run step Attentive start sampleAcked middle ∧ middle.driver.resolved = [(0, .acked)] := by
    cases made
    exact ⟨_, .cons (attentive trivial) rfl (.cons (attentive trivial) rfl (.cons (attentive trivial) rfl
      (.cons ⟨trivial, id⟩ rfl (.cons ⟨trivial, id⟩ rfl (.cons (attentive trivial) rfl (.nil _)))))), rfl⟩
  exact ⟨start, middle, made, run, resolved, futures_tell_truth made (by decide) run (.nil middle) (by decide) 0⟩

/-- The future says that the packet was acknowledged, and the peer has not processed it. -/
theorem future_tells_untruth : ∃ start final : Exchange Nat, Exchange.new 2 = .ok start ∧
    Run step Allowed start sampleUnseen final ∧ (1, .acked) ∈ final.driver.resolved ∧
    ∀ packet, ⟨1, packet⟩ ∉ final.processed := by
  refine ⟨_, exists_and_left.mpr ⟨rfl, Run.exists_imp
    (fun final => final.driver.resolved = [(1, .acked)] ∧ final.processed = [⟨0, 10⟩]) (by decide +kernel) ?_⟩⟩
  intro final _ ⟨resolved, processed⟩
  constructor
  · rw [resolved]
    exact mem_singleton_self _
  intro packet member
  rw [processed] at member
  cases mem_singleton.mp member

end Exchange
end ZprCore.Mgmt
