import ZprCore.Node.Bind
import ZprCore.Proofs.Classifier

/-! Which packets the classifier can handle. Extension headers leave room for the header they
name, so only the header right behind the IP header may be read past the end of the packet. -/

namespace ZprCore.Datapath
open List Nat Layout

/-- How much of a header is read before the length of the packet is looked at. -/
def Classifier.HeaderKind.unchecked : Classifier.HeaderKind → Nat
  | .icmp | .icmpv6 => IcmpHeader.layout.size
  | .v6Option | .auth => 2
  | .frag => 1
  | .tcp | .udp | .unclassified => 0

namespace Classifier
open Panic

variable {ft : FiveTuple} {body rest : List UInt8} {options} {protocol : IpProtocol} {next : UInt8}

/-- What it takes to look behind an IPv4 header. -/
structure LeadsIpv4 (options : ClassifierOptions) (header : Ipv4Header) (body : List UInt8) : Prop where
  base : Ipv4Header.layout.size ≤ header.headerLength
  inside : header.headerLength ≤ body.length
  checksum : options.validateChecksums = true → OnesComplement.checksum (body.take header.headerLength) = 0
  offset : header.fragOffset &&& fragmentOffsetMask = 0
  length : options.lengthError body.length header.totalLength.toNat = false

structure LeadsIpv6 (options : ClassifierOptions) (header : Ipv6Header) (region : List UInt8) : Prop where
  srcAddress : header.srcAddress.isV4 = false
  dstAddress : header.dstAddress.isV4 = false
  notJumbo : ¬ (header.payloadLength = 0 ∧ header.nextHeader = 0)
  length : options.lengthError region.length header.payloadLength.toNat = false

/-- The protocol and the bytes right behind the IP header, if the classifier gets there. -/
inductive Behind (options : ClassifierOptions) (body : List UInt8) : IpProtocol → List UInt8 → Prop where
  | ipv4 {header region} (version : getIpVersion body = .ok 4)
      (whole : body = Ipv4Header.layout.encode header ++ region) (leads : LeadsIpv4 options header body) :
      Behind options body header.proto (body.drop header.headerLength)
  | ipv6 {header region} (version : getIpVersion body = .ok 6)
      (whole : body = Ipv6Header.layout.encode header ++ region) (leads : LeadsIpv6 options header region) :
      Behind options body header.nextHeader region

/-- What is read of the header right behind the IP header is there. -/
def Legible (options : ClassifierOptions) (body : List UInt8) : Prop :=
  ∀ protocol region, Behind options body protocol region → (headerKind protocol).unchecked ≤ region.length

theorem refFromPrefix_returns {α : Type} {layout : Layout α} (long : layout.size ≤ body.length) :
    ∃ header region, body = layout.encode header ++ region ∧ refFromPrefix layout body = .ok header := by
  obtain ⟨header, region, rfl⟩ := layout.decode_long long
  exact ⟨header, region, rfl, refFromPrefix_ok header region⟩

theorem slicePrefix_returns {length} : Returns (slicePrefix body length) ↔ length ≤ body.length := by
  unfold slicePrefix
  split
  · rename_i inside
    exact iff_of_true (returns_ok _) inside
  · rename_i outside
    exact iff_of_false not_returns_error outside

private theorem icmp_returns {rest : IcmpHeader → Except Panic Classified} (later : ∀ header, Returns (rest header)) :
    Returns (do
      let bytes ← slicePrefix body IcmpHeader.layout.size
      let header ← refFromPrefix IcmpHeader.layout bytes
      rest header) ↔ IcmpHeader.layout.size ≤ body.length := by
  by_cases long : IcmpHeader.layout.size ≤ body.length
  · refine iff_of_true ?_ long
    have whole : IcmpHeader.layout.size ≤ (body.take IcmpHeader.layout.size).length := by
      rw [length_take]
      omega
    obtain ⟨header, region, _, read⟩ := refFromPrefix_returns whole
    rw [slicePrefix_ok long, ok_bind, read]
    exact later header
  · refine iff_of_false ?_ long
    rw [returns_bind]
    rintro ⟨bytes, sliced, _⟩
    exact long (slicePrefix_returns.mp ⟨bytes, sliced⟩)

theorem classifyIcmp_returns : Returns (classifyIcmp ft body options) ↔ IcmpHeader.layout.size ≤ body.length :=
  icmp_returns fun _ => returns_unless.mpr fun _ => returns_ok _

theorem classifyIcmpv6_returns : Returns (classifyIcmpv6 ft body options) ↔ IcmpHeader.layout.size ≤ body.length :=
  icmp_returns fun _ => returns_unless.mpr fun _ => returns_ok _

theorem classifyTcp_returns : Returns (classifyTcp ft body options) := by
  refine returns_unless.mpr fun long => returns_unless.mpr fun _ => ?_
  obtain ⟨header, region, _, read⟩ := refFromPrefix_returns (not_lt.mp long)
  rw [read, ok_bind]
  exact returns_unless.mpr fun _ => returns_ok _

theorem returns_header {α : Type} {layout value} {rest : α → Except Panic Classified} :
    Returns (if layout.size > body.length then .ok value else refFromPrefix layout body >>= rest) ↔
      ∀ header region, body = layout.encode header ++ region → Returns (rest header) := by
  rw [returns_unless]
  constructor
  · rintro returns header region rfl
    rw [refFromPrefix_ok, ok_bind, length_append, layout.encode_length] at returns
    exact returns (not_lt.mpr (le_add_right _ _))
  intro returns long
  obtain ⟨header, region, rfl⟩ := layout.decode_long (not_lt.mp long)
  rw [refFromPrefix_ok, ok_bind]
  exact returns header region rfl

theorem classifyUdp_returns : Returns (classifyUdp ft body options) :=
  returns_header.mpr fun _ _ _ => returns_unless.mpr fun _ => returns_unless.mpr fun _ => returns_ok _

theorem unchecked_le (kind : HeaderKind) : kind.unchecked ≤ 8 := by
  cases kind <;> decide

theorem skipHeader_room {optionLength} (skipped : skipHeader body optionLength = .ok (some (next, rest))) :
    (headerKind next).unchecked ≤ rest.length ∧ optionLength ≤ body.length := by
  obtain ⟨first, _, skipped⟩ := bind_ok.mp skipped
  split at skipped
  · cases skipped
  rename_i fits
  cases skipped
  simp only [isOptionLengthError, Bool.or_eq_true, Bool.and_eq_true, decide_eq_true_eq, bne_iff_ne, not_or, not_and,
    not_lt] at fits
  refine ⟨?_, fits.1⟩
  rw [length_drop]
  by_cases last : next = noNextHeader
  · subst last
    exact zero_le _
  have room := fits.2 last
  have small := unchecked_le (headerKind next)
  omega

theorem skipHeader_returns {optionLength} : Returns (skipHeader body optionLength) ↔ 1 ≤ body.length := by
  unfold skipHeader
  rw [returns_bind_iff, returns_get]
  · exact Iff.rfl
  · exact fun first => returns_unless.mpr fun _ => returns_ok _

private theorem skipLength_returns {optionLength : UInt8 → Nat} :
    Returns (do skipHeader body (optionLength (← Panic.get body 1))) ↔ 2 ≤ body.length := by
  rw [returns_bind]
  constructor
  · rintro ⟨length, found, _⟩
    exact returns_get.mp ⟨length, found⟩
  intro long
  obtain ⟨length, found⟩ := returns_get.mpr (show 1 < body.length from long)
  exact ⟨length, found, skipHeader_returns.mpr (by omega)⟩

theorem skipV6Option_returns : Returns (skipV6Option body) ↔ 2 ≤ body.length := skipLength_returns

theorem skipAuthHeader_returns : Returns (skipAuthHeader body) ↔ 2 ≤ body.length := skipLength_returns

theorem skipV6Option_room (skipped : skipV6Option body = .ok (some (next, rest))) :
    (headerKind next).unchecked ≤ rest.length := by
  obtain ⟨length, _, skipped⟩ := bind_ok.mp skipped
  exact (skipHeader_room skipped).1

theorem skipAuthHeader_room (skipped : skipAuthHeader body = .ok (some (next, rest))) :
    (headerKind next).unchecked ≤ rest.length := by
  obtain ⟨length, _, skipped⟩ := bind_ok.mp skipped
  exact (skipHeader_room skipped).1

/-- The fragment offset of an extension header that fits is there. -/
theorem fragOffset_returns (skipped : skipHeader body fragOptionLength = .ok (some (next, rest))) :
    Returns ((u16.decode (body.drop 2)).elim (.error .bounds) .ok : Except Panic (UInt16 × List UInt8)) := by
  have fits : 8 ≤ body.length := (skipHeader_room skipped).2
  have long : u16.size ≤ (body.drop 2).length := by
    rw [length_drop]
    exact le_sub_of_add_le (le_trans (by decide) fits)
  obtain ⟨offset, region, whole⟩ := u16.decode_long long
  rw [whole, decode_encode]
  exact returns_ok _

/-- The first header decides; every header behind an extension header has been measured. -/
theorem classifyNextHeader_returns :
    Returns (classifyNextHeader ft body protocol options) ↔ (headerKind protocol).unchecked ≤ body.length := by
  induction length : body.length using Nat.strongRecOn generalizing body protocol ft with
  | _ count ih =>
    subst length
    rw [classifyNextHeader]
    cases kind : headerKind protocol with
    | icmp => exact classifyIcmp_returns
    | icmpv6 => exact classifyIcmpv6_returns
    | tcp => exact iff_of_true classifyTcp_returns (Nat.zero_le _)
    | udp => exact iff_of_true classifyUdp_returns (Nat.zero_le _)
    | unclassified => exact iff_of_true (returns_ok _) (Nat.zero_le _)
    | v6Option =>
      refine Iff.trans ?_ skipV6Option_returns
      dsimp only
      split <;> rename_i skipped <;> rw [skipped]
      · exact iff_of_false not_returns_error not_returns_error
      · exact iff_of_true (returns_ok _) (returns_ok _)
      · exact iff_of_true ((ih _ (skipV6Option_shorter skipped) rfl).mpr (skipV6Option_room skipped)) (returns_ok _)
    | auth =>
      refine Iff.trans ?_ skipAuthHeader_returns
      dsimp only
      split <;> rename_i skipped <;> rw [skipped]
      · exact iff_of_false not_returns_error not_returns_error
      · exact iff_of_true (returns_ok _) (returns_ok _)
      · exact iff_of_true ((ih _ (skipAuthHeader_shorter skipped) rfl).mpr (skipAuthHeader_room skipped)) (returns_ok _)
    | frag =>
      refine Iff.trans ?_ (@skipHeader_returns body fragOptionLength)
      dsimp only
      split <;> rename_i skipped <;> rw [skipped]
      · exact iff_of_false not_returns_error not_returns_error
      · exact iff_of_true (returns_ok _) (returns_ok _)
      refine iff_of_true ?_ (returns_ok _)
      obtain ⟨⟨offset, region⟩, read⟩ := fragOffset_returns skipped
      rw [read, ok_bind]
      dsimp only
      split
      · exact returns_ok _
      · refine (returns_bind_iff fun _ => returns_ok _).mpr ?_
        exact (ih _ (skipHeader_shorter (by decide) skipped) rfl).mpr (skipHeader_room skipped).1

theorem classifyIpv4_returns (version : getIpVersion body = .ok 4) :
    Returns (classifyIpv4 ft body options) ↔ Legible options body := by
  have legible : Legible options body ↔ ∀ header region, body = Ipv4Header.layout.encode header ++ region →
      LeadsIpv4 options header body → (headerKind header.proto).unchecked ≤ (body.drop header.headerLength).length := by
    constructor
    · intro rooms header region whole leads
      exact rooms _ _ (.ipv4 version whole leads)
    intro rooms protocol region behind
    cases behind with
    | ipv4 _ whole leads => exact rooms _ _ whole leads
    | ipv6 other => rw [version] at other; cases other
  rw [legible]
  unfold classifyIpv4
  refine returns_header.trans (forall_congr' fun header => forall₂_congr fun region whole => ?_)
  refine (returns_unless.trans (forall_congr' fun _ => returns_unless.trans (forall_congr' fun _ => returns_unless.trans
    (forall_congr' fun _ => returns_unless.trans (forall_congr' fun _ => returns_unless.trans (forall_congr' fun _ =>
      (returns_bind_iff fun _ => returns_unless.mpr fun _ => returns_ok _).trans classifyNextHeader_returns)))))).trans ?_
  rw [Bool.and_eq_true, decide_eq_true_eq, Bool.and_eq_true, bne_iff_ne, Bool.or_eq_true, decide_eq_true_eq]
  constructor
  · intro room leads
    refine room (not_lt.mpr leads.base) (fun outside => absurd leads.inside (not_le.mpr outside.2))
      (fun wrong => wrong.2 (leads.checksum wrong.1)) (not_not.mpr leads.offset) ?_
    rw [leads.length]
    exact not_or.mpr ⟨Bool.false_ne_true, not_lt.mpr leads.inside⟩
  · intro room base _ checksum offset fits
    rw [not_or, Bool.not_eq_true] at fits
    exact room ⟨not_lt.mp base, not_lt.mp fits.2, fun valid => not_not.mp (not_and.mp checksum valid), not_not.mp offset,
      fits.1⟩

theorem classifyIpv6_returns (version : getIpVersion body = .ok 6) :
    Returns (classifyIpv6 ft body options) ↔ Legible options body := by
  have legible : Legible options body ↔ ∀ header region, body = Ipv6Header.layout.encode header ++ region →
      LeadsIpv6 options header region → (headerKind header.nextHeader).unchecked ≤ region.length := by
    constructor
    · intro rooms header region whole leads
      exact rooms _ _ (.ipv6 version whole leads)
    intro rooms protocol region behind
    cases behind with
    | ipv4 other => rw [version] at other; cases other
    | ipv6 _ whole leads => exact rooms _ _ whole leads
  rw [legible]
  unfold classifyIpv6
  refine returns_header.trans (forall_congr' fun header => forall₂_congr fun region whole => ?_)
  refine (returns_unless.trans (forall_congr' fun _ => returns_unless.trans (forall_congr' fun _ => returns_unless.trans
    (forall_congr' fun _ => classifyNextHeader_returns)))).trans ?_
  have size := Ipv6Header.layout.encode_length header
  rw [whole, length_append, size, Nat.add_sub_cancel_left, drop_left' size, Bool.or_eq_true, not_or,
    Bool.not_eq_true, Bool.not_eq_true, Bool.not_eq_true]
  constructor
  · intro room leads
    exact room ⟨leads.srcAddress, leads.dstAddress⟩ leads.notJumbo leads.length
  · intro room unmapped notJumbo fits
    exact room ⟨unmapped.1, unmapped.2, notJumbo, fits⟩

theorem classifyWithOptions_returns : Returns (classifyWithOptions ft body options) ↔ Legible options body := by
  unfold classifyWithOptions classifyL3
  cases body with
  | nil =>
    refine iff_of_true (returns_ok _) fun protocol region behind => ?_
    cases behind with
    | ipv4 version => cases version
    | ipv6 version => cases version
  | cons first rest =>
    have version : getIpVersion (first :: rest) = .ok ((first &&& ipVersionMask) >>> 4) := rfl
    rw [isEmpty_cons, if_neg Bool.false_ne_true, version, ok_bind]
    split
    · rename_i four
      exact classifyIpv4_returns (four ▸ version)
    split
    · rename_i six
      exact classifyIpv6_returns (six ▸ version)
    rename_i notFour notSix
    refine iff_of_true (returns_ok _) fun protocol region behind => ?_
    cases behind with
    | ipv4 four =>
      rw [version] at four
      exact absurd (Except.ok.inj four) notFour
    | ipv6 six =>
      rw [version] at six
      exact absurd (Except.ok.inj six) notSix

/-- The classifier returns unless the header right behind the IP header is cut off: fewer than
four bytes of ICMP, fewer than two of an option or an authentication header, or none of a
fragment header. The same holds of the packet in a bind request. -/
theorem classify_returns_iff (ft body options packetBody) :
    (Returns (classifyWithOptions ft body options) ↔ Legible options body) ∧
    (Returns (Node.Assembly.boundFlow packetBody) ↔ Legible { ignoreTruncatedPackets := true } packetBody) := by
  refine ⟨classifyWithOptions_returns, ?_⟩
  refine Iff.trans ?_ (@classifyWithOptions_returns ⟨Node.unspecified, Node.unspecified, .other 0, 0, 0, 0⟩ _ _)
  refine returns_bind_iff fun ⟨classification, fiveTuple⟩ => ?_
  dsimp only
  split <;> exact returns_ok _

/-- An IPv4 header for ICMP and nothing behind it. -/
def bareIcmp : List UInt8 := [0x45, 0, 0, 20, 0, 0, 0, 0, 64, 1, 102, 231, 10, 0, 0, 1, 10, 0, 0, 2]

/-- Twenty bytes stop the classifier, with or without validation of checksums, and a node that
gets them in a bind request. -/
theorem classify_stops : (∀ ft options, classifyWithOptions ft bareIcmp options = .error .bounds) ∧
    ∀ findMatch (asm : Node.Assembly) link txnId,
      asm.bindActorAddress findMatch link txnId bareIcmp = .error .bounds := by
  have cut ft options :
      classifyNextHeader ft [] IpNumber.icmp options = .error .bounds := by
    rw [classifyNextHeader]
    rfl
  have stops ft options :
      classifyWithOptions ft bareIcmp options = .error .bounds := by
    obtain ⟨truncated, checksums⟩ := options
    cases truncated <;> cases checksums <;>
      exact congrArg (fun x : Except Panic Classified => x >>= fun found => .ok (found.1, found.2)) (cut _ _)
  refine ⟨stops, fun findMatch asm link txnId => ?_⟩
  rw [Node.Assembly.bindActorAddress, Node.Assembly.boundFlow, stops]
  rfl

end Classifier
end ZprCore.Datapath
