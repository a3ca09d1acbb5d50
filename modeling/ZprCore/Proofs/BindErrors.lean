import ZprCore.Proofs.Report

/-! The reasons of bind errors (`mgmt/requests.rs`, `mgmt/handlers.rs`). -/

namespace ZprCore.Mgmt
open Datapath Packet Panic List
variable {packetType : ZdpPacketType} {minBodyOffset} (txnId) {reason}

theorem fromUtf8_cut (cuts : Cuts reason) : ∃ text, fromUtf8 ((utf8 reason).take 255) = some text := by
  rw [fromUtf8]
  refine ⟨_, dif_pos ?_⟩
  convert cuts.isValidUTF8_extract_zero
  apply Array.ext'
  simp [utf8, ByteArray.data_extract, take_eq_take_iff, Nat.min_comm]

theorem sendErrorResponse_returns (returns : Returns (sendErrorResponse packetType minBodyOffset txnId reason)) :
    Cuts reason := by
  obtain ⟨message, sent⟩ := returns
  obtain ⟨_, _, sent⟩ := bind_ok.mp sent
  obtain ⟨_, checked, _⟩ := bind_ok.mp sent
  exact of_decide_eq_true (check_ok.mp checked)

section
variable (small : minBodyOffset + defaultMessageHeadroom + 257 ≤ smallPacketBufferSize)
include small

theorem sendErrorResponse_fits (notKeys : packetType ≠ .keyManagement) (flows : packetType.isPerFlow = true)
    (cuts : Cuts reason) :
    ∃ message, sendErrorResponse packetType minBodyOffset txnId reason = .ok message ∧
      message.body = framed packetType 0 (some 0) (some txnId)
        (ZdpResponseHeader.layout.encode ⟨1, .ofNat ((utf8 reason).take 255).length⟩ ++ (utf8 reason).take 255) := by
  have short : ((utf8 reason).take 255).length ≤ 255 := length_take_le _ _
  generalize header : (⟨1, .ofNat ((utf8 reason).take 255).length⟩ : ZdpResponseHeader) = hdr
  have two : (ZdpResponseHeader.layout.encode hdr).length = 2 := Layout.encode_length _ _
  obtain ⟨pkt, fresh, headroom, empty, tailroom⟩ := newHeapPacket_fits (Nat.le_of_add_right_le small)
  have room : 16 ≤ pkt.headroom := headroom ▸ by decide
  obtain ⟨titled, headed, headroom, title, tailroom⟩ := @put_fits pkt (ZdpResponseHeader.layout.encode hdr) (by omega)
  obtain ⟨filled, ended, headroom, body, _⟩ := @put_fits titled ((utf8 reason).take 255) (by omega)
  obtain ⟨message, sent, frame⟩ := @sendMgmtHelper_fits filled (some 0) _ (some txnId) notKeys flows.symm (by omega)
  rw [body, title, empty, nil_append] at frame
  refine ⟨message, ?_, frame⟩
  simp only [sendErrorResponse, fresh, check_bind cuts, ok_bind, header, headed, ended, sent]

/-- The builders return on a reason that is not cut inside a character, and on no other. What is
read then is as much of it as fits. -/
theorem error_reason_relayed {send handler} (member : (send, handler) ∈ [
      (sendBindActorAddressErrorResponse, MgmtHandler.bindActorAddressResponse),
      (sendStreamIdErrorResponse, .streamIdResponse), (sendBindEgressStreamErrorResponse, .bindEgressStreamResponse)]) :
    (Returns (send minBodyOffset txnId reason) ↔ Cuts reason) ∧
    ∀ message arrived, send minBodyOffset txnId reason = .ok message → message.Arrives arrived →
      ∃ pkt text, handlePacket arrived = .ok (.ok (handler txnId, pkt)) ∧ readReason pkt = .ok (some text) ∧
        utf8 text <+: utf8 reason ∧ ((utf8 reason).length ≤ 255 → text = reason) := by
  obtain ⟨packetType, rfl, found, flows, notTransit, notKeys⟩ : ∃ packetType, send = sendErrorResponse packetType ∧
      perFlowTxnHandler packetType = some handler ∧ packetType.isPerFlow = true ∧ packetType ≠ .transitPacket ∧
      packetType ≠ .keyManagement := by
    simp only [mem_cons, Prod.mk.injEq, not_mem_nil, or_false] at member
    obtain ⟨rfl, rfl⟩ | ⟨rfl, rfl⟩ | ⟨rfl, rfl⟩ := member <;> exact ⟨_, rfl, rfl, rfl, by decide, by decide⟩
  refine ⟨⟨sendErrorResponse_returns txnId, ?_⟩, ?_⟩
  · intro cuts
    exact (sendErrorResponse_fits txnId small notKeys flows cuts).imp fun _ => And.left
  intro message arrived sent ⟨seqNum, egressed, numbered, bytes⟩
  have cuts := sendErrorResponse_returns txnId ⟨message, sent⟩
  obtain ⟨_, built, frame⟩ := sendErrorResponse_fits txnId small notKeys flows cuts
  cases built.symm.trans sent
  cases numbered.symm.trans (buildAndEgress_framed frame seqNum)
  obtain ⟨pkt, body, _, handled⟩ := handlePacket_framed bytes
  obtain ⟨flow, streamed, body, _⟩ := readFromBuf_encode body
  obtain ⟨last, txn, body, _⟩ :=
    readFromBuf_encode (body : { flow with ingressStreamId := (0 : BitVec 32).toNat }.body = _)
  obtain ⟨text, cut⟩ := fromUtf8_cut cuts
  refine ⟨last, text, ?_, ?_, utf8_fromUtf8 cut ▸ take_prefix _ _, ?_⟩
  · rw [handled, if_pos flows, handlePerFlow, streamed]
    simp only [if_neg notTransit, found, withTxn, txn]
  · obtain ⟨_, read, body, _⟩ := readFromBuf_encode body
    have size : (UInt8.ofNat ((utf8 reason).take 255).length).toNat = ((utf8 reason).take 255).length :=
      UInt8.toNat_ofNat_of_lt' (Nat.lt_succ_of_le (length_take_le _ _))
    simp only [readReason, read, body, size, take_length, cut, Nat.le_refl]
    rfl
  · intro whole
    rw [take_of_length_le whole, fromUtf8_utf8] at cut
    exact (Option.some.inj cut).symm

end

theorem error_reason_relayed_sample : Returns (sendStreamIdErrorResponse 104 1 "no visa") :=
  (error_reason_relayed 1 (by decide) (.tail _ (.head _))).1.mpr (by decide +kernel)

theorem reason_cut_panics : ¬ Returns (sendStreamIdErrorResponse 104 1 (.ofList (.replicate 254 'a' ++ ['é']))) := by
  have inside : ¬ Cuts (.ofList (.replicate 254 'a' ++ ['é'])) := by decide +kernel
  exact fun returns => inside (sendErrorResponse_returns 1 returns)

end ZprCore.Mgmt
