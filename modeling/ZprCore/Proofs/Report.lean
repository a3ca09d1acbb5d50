import ZprCore.Proofs.Messages

/-! Reports. The handler skips two bytes more than the header has: what it logs is the text of a
message with two bytes between header and text, and of no other. -/

namespace ZprCore.Mgmt
open Nat
open Datapath Panic Layout List Packet UInt16

theorem fromUtf8_utf8 (text : String) : fromUtf8 (utf8 text) = some text := by
  rw [fromUtf8, utf8, Array.toArray_toList, String.fromUTF8?]
  exact dif_pos text.isValidUTF8

theorem utf8_fromUtf8 {bytes text} (read : fromUtf8 bytes = some text) : bytes = utf8 text := by
  rw [fromUtf8, String.fromUTF8?] at read
  split at read
  · cases read
    rfl
  · cases read

/-- The report can be read to its end: behind the length there are at least two bytes, and if
the log takes the text that follows them, it is one. -/
def Readable (logged : Bool) (body : List UInt8) : Prop :=
  ∀ length rest, body = bytes16 length ++ rest → 2 ≤ rest.length ∧
    (logged = true → length.toNat + 2 ≤ rest.length → (fromUtf8 ((rest.drop 2).take length.toNat)).isSome = true)

section
variable {logged : Bool} {pkt : Packet}

theorem handleReport_short (short : pkt.body.length < 2) : handleReport logged pkt = .ok (.error .badStructure) := by
  have unread : pkt.readFromBuf ZdpReportHeader.layout = none := by
    rcases ZdpReportHeader.layout.decode_cases pkt.body with ⟨none, _⟩ | ⟨_, _, _, _, long⟩
    · rw [readFromBuf, none]
      rfl
    · exact absurd long (not_le.mpr short)
  rw [handleReport, unread]

theorem handleReport_body {length rest} (starts : pkt.body = bytes16 length ++ rest) :
    handleReport logged pkt =
      if 2 ≤ rest.length then
        if length.toNat + 2 ≤ rest.length ∧ logged = true then
          match fromUtf8 ((rest.drop 2).take length.toNat) with
          | some text => .ok (.ok (some text))
          | none => .error (.assertion "called Result::unwrap() on an Err value")
        else .ok (.ok none)
      else .error (.assertion "cnt <= self.remaining()") := by
  obtain ⟨next, read, rfl, _⟩ : ∃ next, pkt.readFromBuf ZdpReportHeader.layout = some (⟨length⟩, next) ∧
    next.body = rest ∧ next.ingressLinkId = pkt.ingressLinkId := readFromBuf_encode starts
  have size : ZdpReportHeader.layout.size = 2 := rfl
  simp only [handleReport, read, advance, Panic.check, size, decide_eq_true_eq]
  by_cases room : 2 ≤ next.body.length
  · simp only [if_pos room, ok_bind, pure_bind, length_drop, Nat.le_sub_iff_add_le room, ge_iff_le]
    split
    · next fits =>
      have whole : length.toNat ≤ (next.body.drop 2).length := by
        rw [length_drop]
        exact Nat.le_sub_of_add_le fits.1
      rw [slicePrefix, if_pos whole]
      rfl
    · rfl
  · simp only [if_neg room]
    rfl

theorem handleReport_text_iff {text} : handleReport true pkt = .ok (.ok (some text)) ↔
    ∃ gap rest, gap.length = 2 ∧ (utf8 text).length < 2 ^ 16 ∧
      pkt.body = bytes16 (UInt16.ofNat (utf8 text).length) ++ (gap ++ (utf8 text ++ rest)) := by
  constructor
  · intro handled
    rcases Layout.u16.decode_cases pkt.body with ⟨_, short⟩ | ⟨length, rest, _, starts, _⟩
    · rw [handleReport_short (not_le.mp short)] at handled
      cases handled
    rw [handleReport_body starts] at handled
    split at handled
    · next room =>
      split at handled
      · next fits =>
        split at handled
        case h_2 => cases handled
        rename_i found read
        cases handled
        have taken := utf8_fromUtf8 read
        have size : (utf8 text).length = length.toNat := by
          rw [← taken, length_take, length_drop]
          exact min_eq_left (le_sub_of_add_le fits.1)
        refine ⟨rest.take 2, (rest.drop 2).drop length.toNat, length_take_of_le room, ?_, ?_⟩
        · exact size ▸ length.toNat_lt
        · rw [size, UInt16.ofNat_toNat, ← taken, take_append_drop, take_append_drop]
          exact starts
      · cases handled
    · cases handled
  · intro ⟨gap, rest, two, small, starts⟩
    have size : (UInt16.ofNat (utf8 text).length).toNat = (utf8 text).length := UInt16.toNat_ofNat_of_lt' small
    rw [handleReport_body starts, size, if_pos (by simp only [length_append]; omega),
      if_pos ⟨by simp only [length_append]; omega, rfl⟩, drop_left' two, take_left' rfl, fromUtf8_utf8]

theorem handleReport_returns_iff : Panic.Returns (handleReport logged pkt) ↔ Readable logged pkt.body := by
  rcases Layout.u16.decode_cases pkt.body with ⟨_, short⟩ | ⟨length, rest, _, starts, _⟩
  · rw [handleReport_short (not_le.mp short)]
    refine iff_of_true (returns_ok _) ?_
    intro length rest starts
    refine absurd ?_ short
    rw [starts, length_append]
    exact le_add_right _ _
  · rw [handleReport_body starts]
    have unique : Readable logged pkt.body ↔ 2 ≤ rest.length ∧ (logged = true → length.toNat + 2 ≤ rest.length →
        (fromUtf8 ((rest.drop 2).take length.toNat)).isSome = true) := by
      constructor
      · intro readable
        exact readable length rest starts
      intro readable other tail same
      obtain ⟨rfl, rfl⟩ := Layout.u16.encode_inj (starts.symm.trans same)
      exact readable
    rw [unique]
    split
    · next room =>
      split
      · next fits =>
        cases fromUtf8 ((rest.drop 2).take length.toNat) with
        | none => exact iff_of_false not_returns_error fun readable => nomatch readable.2 fits.2 fits.1
        | some text => exact iff_of_true (returns_ok _) ⟨room, fun _ _ => rfl⟩
      · next silent => exact iff_of_true (returns_ok _) ⟨room, fun taken fits => absurd ⟨fits, taken⟩ silent⟩
    · next short => exact iff_of_false not_returns_error fun readable => short readable.1

end

theorem sendReport_body {minBodyOffset report}
    (fits : minBodyOffset + defaultMessageHeadroom + (utf8 report).length ≤ smallPacketBufferSize) :
    ∃ packet : Packet, sendReport minBodyOffset report = packet.sendNonFlowMgmt .report ∧ 16 ≤ packet.headroom ∧
      packet.body = bytes16 (ofNat (utf8 report).length) ++ utf8 report := by
  obtain ⟨pkt, new, headroom, empty, tailroom⟩ := newHeapPacket_fits (Nat.le_of_add_right_le fits)
  have wide : ZdpReportHeader.layout.size ≤ pkt.headroom := by
    rw [headroom]
    decide
  obtain ⟨started, header, less, start, tail⟩ :=
    allocHeader_fits (⟨ofNat (utf8 report).length⟩ : ZdpReportHeader) wide
  have long : (utf8 report).length ≤ started.tailroom := by
    rw [tail, tailroom]
    exact Nat.le_sub_of_add_le' fits
  obtain ⟨packet, written, same, body, _⟩ := put_fits long
  refine ⟨packet, ?_, ?_, ?_⟩
  · simp only [sendReport, new, header, written, ok_bind]
  · rw [same, less, headroom]
    decide
  · rw [body, start, empty, append_nil]
    rfl

/-- The handler returns on readable messages and no others, and it logs the text behind two more
bytes. A report that is sent does not have these bytes: a text of less than two bytes makes the
handler panic, and a longer one is not logged. -/
theorem report_handled (minBodyOffset : Nat) (logged : Bool) :
    (∀ pkt, Panic.Returns (handleReport logged pkt) ↔ Readable logged pkt.body) ∧
    (∀ pkt text, handleReport true pkt = .ok (.ok (some text)) ↔ ∃ gap rest, gap.length = 2 ∧
      (utf8 text).length < 2 ^ 16 ∧
      pkt.body = bytes16 (UInt16.ofNat (utf8 text).length) ++ (gap ++ (utf8 text ++ rest))) ∧
    ∀ report, minBodyOffset + Packet.defaultMessageHeadroom + (utf8 report).length ≤ Packet.smallPacketBufferSize →
      ∃ message, sendReport minBodyOffset report = .ok message ∧ ∀ arrived, message.Arrives arrived →
        ∃ pkt, handlePacket arrived = .ok (.ok (.report, pkt)) ∧
          pkt.body = bytes16 (UInt16.ofNat (utf8 report).length) ++ utf8 report ∧
          handleReport logged pkt =
            if 2 ≤ (utf8 report).length then .ok (.ok none) else .error (.assertion "cnt <= self.remaining()") := by
  refine ⟨fun _ => handleReport_returns_iff, fun _ _ => handleReport_text_iff, ?_⟩
  intro report fits
  obtain ⟨packet, sent, room, body⟩ := sendReport_body fits
  have noFlow : ZdpPacketType.report.isPerFlow = false := rfl
  have flows : (none : Option (BitVec 32)).isSome = ZdpPacketType.report.isPerFlow := noFlow.symm
  obtain ⟨message, built, _⟩ := sendMgmtHelper_fits none (by decide) flows room
  refine ⟨message, sent.trans built, ?_⟩
  intro arrived arrives
  obtain ⟨pkt, inner, _, handled⟩ := handlePacket_arrives (by decide) noFlow room built arrives
  have whole : pkt.body = bytes16 (ofNat (utf8 report).length) ++ utf8 report := inner.trans body
  refine ⟨pkt, handled, whole, ?_⟩
  have small : (utf8 report).length < 2 ^ 16 := by
    simp only [smallPacketBufferSize] at fits
    omega
  rw [handleReport_body whole, toNat_ofNat_of_lt' small]
  split
  · rw [if_neg]
    intro ⟨more, _⟩
    exact not_succ_le_self _ (le_of_succ_le more)
  · rfl

theorem report_handled_sample :
    104 + Packet.defaultMessageHeadroom + (utf8 "link up").length ≤ Packet.smallPacketBufferSize ∧
    ∃ message, sendReport 104 "link up" = .ok message ∧ ∀ arrived, message.Arrives arrived →
      ∃ pkt, handlePacket arrived = .ok (.ok (.report, pkt)) ∧
        pkt.body = bytes16 (UInt16.ofNat (utf8 "link up").length) ++ utf8 "link up" ∧
        handleReport true pkt =
          if 2 ≤ (utf8 "link up").length then .ok (.ok none) else .error (.assertion "cnt <= self.remaining()") :=
  ⟨by decide, (report_handled 104 true).2.2 "link up" (by decide)⟩

/-- An empty report makes the receiver panic, and a longer one is not logged. -/
theorem report_lost :
    (∃ message sent pkt, sendReport 104 "" = .ok message ∧ message.buildAndEgress 7 = .ok sent ∧
      handlePacket sent = .ok (.ok (.report, pkt)) ∧
      handleReport true pkt = .error (.assertion "cnt <= self.remaining()")) ∧
    ∃ message sent pkt, sendReport 104 "link up" = .ok message ∧ message.buildAndEgress 7 = .ok sent ∧
      handlePacket sent = .ok (.ok (.report, pkt)) ∧ handleReport true pkt = .ok (.ok none) :=
  ⟨⟨_, _, _, rfl, rfl, rfl, rfl⟩, ⟨_, _, _, rfl, rfl, rfl, rfl⟩⟩

end ZprCore.Mgmt
