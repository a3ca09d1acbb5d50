import ZprCore.Proofs.HandleRegister

/-! Canceled packets and the slots of the window. A slot is freed when the future that minds its
packet is given up. -/

namespace ZprCore.Mgmt.Driver
open Zdpr Zdpr.Sender
variable {Pkt : Type}

/-- Unless a future was abandoned, a packet without futures has no slot that only a future frees. -/
theorem slot_released {past : List (Driver Pkt × DriverStep Pkt)} {final : Driver Pkt}
    (trace : Runs.Trace advance (fun _ _ => True) Driver.new past final) (short : past.length ≤ 2 ^ 63)
    (careful : ∀ moment ∈ past, ¬ moment.1.Abandons moment.2) {sn : SeqNum} {packet : Tagged Pkt}
    (sent : .data sn packet ∈ emitted past) (alone : ∀ handle ∈ final.handles, handle.serial ≠ packet.serial) {index : Nat}
    (holds : final.sender.Holds sn index) : final.sender.unacked[index]? ≠ some .cancelAcked := by
  intro found
  obtain ⟨few, r, registered, labeled, minded⟩ := trace_registered trace short
  obtain ⟨item, rfl, carried⟩ := labeled sn packet sent
  have carries : r.Carries item packet.serial := ⟨packet.packet, carried⟩
  have small := registered.registers.small (Nat.le_trans few short)
  have place := ((holds_iff registered.registers.lastSent small carries.below).mp holds).2
  have entry : final.sender.entryAt r.carried.length item = some .cancelAcked := by
    rw [entryAt_of_index index place, found]
  obtain ⟨handle, member, same, _⟩ := minded careful packet.serial (.inl ⟨item, _, carries, entry, rfl⟩)
  exact alone handle member same

/-- The second of two packets in the window is canceled, and its future is dropped. -/
def sampleRelease : List (DriverStep Nat) :=
  [.windowSizeTlv 2, .sendMgmt 10, .sendMgmt 11, .handle 1 .requestCancel, .acknowledgement 1 true, .handle 1 .drop]

/-- The retries of a queued packet are limited. It is sent, canceled when it was not acknowledged
in time, and its future, which was never polled, is dropped. -/
def sampleLeak : List (DriverStep Nat) :=
  [.sendMgmt 10, .sendMgmt 11, .handle 1 (.limitRetries 0), .acknowledgement 0 false, .retry, .acknowledgement 1 true,
    .handle 1 .drop]

theorem slot_released_sample : ∃ past final,
    Runs.Trace advance (fun _ _ => True) Driver.new past final ∧ past.map Prod.snd = sampleRelease.reverse ∧
    .data 1 ⟨1, 11⟩ ∈ emitted past ∧ final.sender.Holds 1 1 ∧ final.sender.unacked[1]? ≠ some .cancelAcked := by
  obtain ⟨past, final, trace, steps, careful, sent, alone, index, place⟩ :=
    @Runs.Trace.exists_of_record _ _ _ advance (fun _ _ => True) sampleRelease Driver.new _
      (fun past final => (∀ moment ∈ past, ¬ moment.1.Abandons moment.2) ∧ .data 1 ⟨1, 11⟩ ∈ emitted past ∧
        (∀ handle ∈ final.handles, handle.serial ≠ 1) ∧ 1 < final.sender.unacked.length ∧
        Serial.distance 1 final.sender.lastSent = 1 + 1 - final.sender.unacked.length)
      (by infer_instance) (by decide +kernel)
  have short : past.length ≤ 2 ^ 63 := by
    have length := congrArg List.length steps
    rw [List.length_map] at length
    rw [length]
    decide
  exact ⟨past, final, trace, steps, sent, ⟨index, place⟩, slot_released trace short careful sent alone ⟨index, place⟩⟩

theorem slot_leaks : ∃ past final,
    Runs.Trace advance (fun _ _ => True) Driver.new past final ∧ past.map Prod.snd = sampleLeak.reverse ∧
    .data 1 ⟨1, 11⟩ ∈ emitted past ∧ (∀ handle ∈ final.handles, handle.serial ≠ 1) ∧ final.sender.Holds 1 0 ∧
    final.sender.unacked[0]? = some .cancelAcked := by
  refine Runs.Trace.exists_imp (fun past final => .data 1 ⟨1, 11⟩ ∈ emitted past ∧
    (∀ handle ∈ final.handles, handle.serial ≠ 1) ∧ 0 < final.sender.unacked.length ∧
    Serial.distance 1 final.sender.lastSent = 0 + 1 - final.sender.unacked.length ∧
    final.sender.unacked[0]? = some .cancelAcked) (by decide +kernel) ?_
  exact fun past final _ ⟨sent, alone, index, place, found⟩ => ⟨sent, alone, ⟨index, place⟩, found⟩

end ZprCore.Mgmt.Driver
