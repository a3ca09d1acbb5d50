import ZprCore.Proofs.Compress

/-! What it takes for the classifier to accept a packet. The transport header is
reached by skipping extension headers, and only the last header's protocol ends up
in the five-tuple. -/

namespace ZprCore.Datapath
open Panic OnesComplement List ClassifierOptions

def ClassifierResult.accepted (result : ClassifierResult) : Prop := result = .ok ∨ result = .unclassifiedL4

/-- The length of the header with its options. -/
def Ipv4Header.headerLength (header : Ipv4Header) : Nat := (header.vhl &&& Classifier.ipv4HeaderLengthMask).toNat * 4

namespace Classifier
variable {ft other : FiveTuple} {inner : Except Panic Classified}

/-- Protocol numbers that stand for an extension header. -/
def isExtension (protocol : IpProtocol) : Prop :=
  headerKind protocol = .v6Option ∨ headerKind protocol = .auth ∨ headerKind protocol = .frag

instance (protocol : IpProtocol) : Decidable (isExtension protocol) := inferInstanceAs (Decidable (_ ∨ _ ∨ _))

structure AcceptsTcp (ft : FiveTuple) (header : TcpHeader) (length : Nat) : Prop where
  srcPort : ft.srcPort = header.srcPort
  dstPort : ft.dstPort = header.dstPort
  dataOffset : 20 ≤ ((header.dataOffsetAndReserved >>> 4) * (4 : UInt8)).toNat ∧
    ((header.dataOffsetAndReserved >>> 4) * (4 : UInt8)).toNat ≤ length

structure AcceptsUdp (ft : FiveTuple) (header : UdpHeader) (length : Nat) : Prop where
  srcPort : ft.srcPort = header.srcPort
  dstPort : ft.dstPort = header.dstPort
  length : header.length.toNat = length

structure AcceptsIcmp (ft : FiveTuple) (header : IcmpHeader) : Prop where
  srcPort : ft.srcPort = header.icmpType.toUInt16
  dstPort : ft.dstPort = header.icmpCode.toUInt16

/-- The transport part of an accepted packet, given the five-tuple it is accepted for. -/
def AcceptsL4 (ft : FiveTuple) (body : List UInt8) : Prop :=
  match headerKind ft.l4Protocol with
  | .tcp => ∃ header payload, body = TcpHeader.layout.encode header ++ payload ∧
      validateInetL4ChecksumWith5t ft body ∧ AcceptsTcp ft header body.length
  | .udp => ∃ header payload, body = UdpHeader.layout.encode header ++ payload ∧
      (header.checksum = 0 ∨ validateInetL4ChecksumWith5t ft body) ∧ AcceptsUdp ft header body.length
  | .icmp => ∃ header payload, body = IcmpHeader.layout.encode header ++ payload ∧
      checksum body = 0 ∧ AcceptsIcmp ft header
  | .icmpv6 => ∃ header payload, body = IcmpHeader.layout.encode header ++ payload ∧
      validateInetL4ChecksumWith5t ft body ∧ AcceptsIcmp ft header
  | .unclassified => ft.srcPort = 0 ∧ ft.dstPort = 0
  | .v6Option | .auth | .frag => False

/-- What is checked of an IPv4 header before the transport header is looked at. -/
structure AcceptsIpv4 (header : Ipv4Header) (body : List UInt8) : Prop where
  base : Ipv4Header.layout.size ≤ header.headerLength
  inside : header.headerLength ≤ body.length
  checksum : checksum (body.take header.headerLength) = 0
  offset : header.fragOffset &&& fragmentOffsetMask = 0
  last : header.fragOffset &&& moreFragmentsMask = 0
  length : header.totalLength.toNat = body.length

structure AcceptsIpv6 (header : Ipv6Header) (region : List UInt8) : Prop where
  srcAddress : header.srcAddress.isV4 = false
  dstAddress : header.dstAddress.isV4 = false
  notJumbo : ¬ (header.payloadLength = 0 ∧ header.nextHeader = 0)
  length : header.payloadLength.toNat = region.length

/-- The two five-tuples differ at most in protocol and ports. -/
structure SameNetwork (ft other : FiveTuple) : Prop where
  l3Type : ft.l3Type = other.l3Type
  srcAddress : ft.srcAddress = other.srcAddress
  dstAddress : ft.dstAddress = other.dstAddress

section
variable (same : SameNetwork ft other) (l4Protocol : ft.l4Protocol = other.l4Protocol)
include same l4Protocol

theorem SameNetwork.eq {srcPort dstPort} (src : ft.srcPort = srcPort) (dst : ft.dstPort = dstPort) :
    ft = { other with srcPort, dstPort } := by
  obtain ⟨l3Type, srcAddress, dstAddress⟩ := same
  cases ft
  simp_all

theorem validate_congr (body : List UInt8) :
    validateInetL4ChecksumWith5t ft body = validateInetL4ChecksumWith5t other body := by
  simp only [validateInetL4ChecksumWith5t, same.l3Type, same.srcAddress, same.dstAddress, l4Protocol]

end

/-- A classifier of one transport protocol accepts the packet for this five-tuple. -/
def Accepts (classified : Except Panic Classified) (ft : FiveTuple) : Prop :=
  ∃ result, result.accepted ∧ classified = .ok (.ok result, ft)

theorem accepts_error {text} : ¬ Accepts (.ok (.error text, other)) ft := by
  rintro ⟨result, _, same⟩
  cases same

theorem accepts_panic {panic} : ¬ Accepts (.error panic) ft := by
  rintro ⟨result, _, same⟩
  cases same

theorem accepts_ok {result} (accepted : result.accepted) : Accepts (.ok (.ok result, other)) ft ↔ ft = other := by
  constructor
  · rintro ⟨_, _, same⟩
    cases same
    rfl
  · rintro rfl
    exact ⟨result, accepted, rfl⟩

theorem accepts_refused {result} (refused : ¬ (result = .ok ∨ result = .unclassifiedL4)) :
    ¬ Accepts (.ok (.ok result, other)) ft := by
  rintro ⟨_, accepted, same⟩
  cases same
  exact refused accepted

theorem frag_rejected {offset : Except Panic (UInt16 × List UInt8)} :
    ¬ Accepts (do
      let (fragOffset, _) ← offset
      if fragOffset &&& v6FragOffsetMask ≠ 0 then return (.ok .subsequentFragment, other)
      let (_, ft) ← inner
      return (.ok .firstFragment, ft)) ft := by
  rintro ⟨result, accepted, same⟩
  obtain ⟨⟨fragOffset, _⟩, _, same⟩ := bind_ok.mp same
  simp only at same
  split at same
  · exact accepts_refused (by decide) ⟨_, accepted, same⟩
  obtain ⟨_, _, same⟩ := bind_ok.mp same
  exact accepts_refused (by decide) ⟨_, accepted, same⟩

variable {ft ft₀ : FiveTuple} {body : List UInt8} {protocol : IpProtocol}

theorem accepts_ite {condition} [Decidable condition] {refused rest} (refuses : ¬ Accepts refused ft) :
    Accepts (if condition then refused else rest) ft ↔ ¬ condition ∧ Accepts rest ft := by
  split
  · next refused => exact iff_of_false refuses fun accepts => accepts.1 refused
  · next passes => exact (and_iff_right passes).symm

theorem accepts_header {α : Type} {layout} {rest : α → Except Panic Classified} :
    ¬ layout.size > body.length ∧ Accepts (refFromPrefix layout body >>= rest) ft ↔
      ∃ header payload, body = layout.encode header ++ payload ∧ Accepts (rest header) ft := by
  constructor
  · rintro ⟨long, accepts⟩
    obtain ⟨header, payload, rfl⟩ := layout.decode_long (Nat.not_lt.mp long)
    rw [refFromPrefix_ok, ok_bind] at accepts
    exact ⟨header, payload, rfl, accepts⟩
  · rintro ⟨header, payload, rfl, accepts⟩
    rw [refFromPrefix_ok, ok_bind, length_append, layout.encode_length]
    exact ⟨Nat.not_lt.mpr (Nat.le_add_right _ _), accepts⟩

theorem classifyTcp_accepts : Accepts (classifyTcp ft₀ body {}) ft ↔ SameNetwork ft ft₀ ∧
    ft.l4Protocol = ft₀.l4Protocol ∧ ∃ header payload, body = TcpHeader.layout.encode header ++ payload ∧
      validateInetL4ChecksumWith5t ft body ∧ AcceptsTcp ft header body.length := by
  unfold classifyTcp
  refine ((accepts_ite accepts_error).trans (and_congr_right fun _ => accepts_ite accepts_error)).trans ?_
  rw [and_left_comm, accepts_header]
  constructor
  · rintro ⟨valid, header, payload, whole, accepts⟩
    obtain ⟨offset, accepts⟩ := (accepts_ite accepts_error).mp accepts
    obtain rfl := (accepts_ok (.inl rfl)).mp accepts
    simp only [validateChecksums, Bool.not_false, Bool.and_self, Bool.true_and, Bool.not_eq_true,
      Bool.not_eq_false', gt_iff_lt, Bool.or_eq_true, decide_eq_true_eq, not_or, Nat.not_lt] at valid offset
    exact ⟨⟨rfl, rfl, rfl⟩, rfl, header, payload, whole, valid, rfl, rfl, offset⟩
  · rintro ⟨same, protocol, header, payload, whole, valid, srcPort, dstPort, offset⟩
    rw [validate_congr same protocol] at valid
    refine ⟨by simp [valid], header, payload, whole, (accepts_ite accepts_error).mpr ⟨?_, ?_⟩⟩
    · simp only [gt_iff_lt, Bool.or_eq_true, decide_eq_true_eq, not_or, Nat.not_lt]
      exact offset
    · exact (accepts_ok (.inl rfl)).mpr (same.eq protocol srcPort dstPort)

theorem classifyUdp_accepts : Accepts (classifyUdp ft₀ body {}) ft ↔ SameNetwork ft ft₀ ∧
    ft.l4Protocol = ft₀.l4Protocol ∧ ∃ header payload, body = UdpHeader.layout.encode header ++ payload ∧
      (header.checksum = 0 ∨ validateInetL4ChecksumWith5t ft body) ∧ AcceptsUdp ft header body.length := by
  unfold classifyUdp
  refine ((accepts_ite accepts_error).trans accepts_header).trans ?_
  constructor
  · rintro ⟨header, payload, whole, accepts⟩
    obtain ⟨valid, accepts⟩ := (accepts_ite accepts_error).mp accepts
    obtain ⟨length, accepts⟩ := (accepts_ite accepts_error).mp accepts
    obtain rfl := (accepts_ok (.inl rfl)).mp accepts
    simp only [validateChecksums, lengthError, Bool.not_false, Bool.and_self,
      Bool.true_and, Bool.and_eq_true, bne_iff_ne, Bool.not_eq_true', not_and_or, not_not, Bool.not_eq_false,
      Bool.or_eq_true, decide_eq_true_eq, not_or, Nat.not_lt] at valid length
    exact ⟨⟨rfl, rfl, rfl⟩, rfl, header, payload, whole, valid, rfl, rfl, by omega⟩
  · rintro ⟨same, protocol, header, payload, whole, valid, srcPort, dstPort, length⟩
    rw [validate_congr same protocol] at valid
    refine ⟨header, payload, whole, (accepts_ite accepts_error).mpr ⟨?_, (accepts_ite accepts_error).mpr ⟨?_, ?_⟩⟩⟩
    · obtain zero | checked := valid
      · simp [zero]
      · simp [checked]
    · simp [lengthError, length]
    · exact (accepts_ok (.inl rfl)).mpr (same.eq protocol srcPort dstPort)

/-- Both ICMP classifiers, which differ in the checksum they validate. -/
private theorem icmp_accepts {valid : FiveTuple → Bool} (congr : ∀ srcPort dstPort,
    valid { ft₀ with srcPort, dstPort } = valid ft₀) {classified}
    (shape : classified = (do
      let header ← refFromPrefix IcmpHeader.layout (← slicePrefix body IcmpHeader.layout.size)
      let ft := { ft₀ with srcPort := header.icmpType.toUInt16, dstPort := header.icmpCode.toUInt16 }
      if !valid ft then return (badL4Checksum, ft)
      return (.ok .ok, ft))) :
    Accepts classified ft ↔ SameNetwork ft ft₀ ∧ ft.l4Protocol = ft₀.l4Protocol ∧
      ∃ header payload, body = IcmpHeader.layout.encode header ++ payload ∧ valid ft₀ ∧ AcceptsIcmp ft header := by
  subst shape
  by_cases short : body.length < IcmpHeader.layout.size
  · have rejected : slicePrefix body IcmpHeader.layout.size = .error .bounds := by
      rw [slicePrefix, if_neg (by omega)]
    rw [rejected]
    refine iff_of_false accepts_panic ?_
    rintro ⟨_, _, header, payload, rfl, _⟩
    simp only [length_append, Layout.encode_length] at short
    omega
  · obtain ⟨header, payload, rfl⟩ := IcmpHeader.layout.decode_long (Nat.not_lt.mp short)
    have front : (IcmpHeader.layout.encode header ++ payload).take IcmpHeader.layout.size =
        IcmpHeader.layout.encode header ++ [] := by
      rw [take_left' (IcmpHeader.layout.encode_length header), append_nil]
    rw [slicePrefix_ok (Nat.not_lt.mp short), front]
    simp only [ok_bind, refFromPrefix_ok, congr]
    refine ((accepts_ite accepts_error).trans (and_congr_right fun _ => accepts_ok (.inl rfl))).trans ?_
    constructor
    · rintro ⟨checked, rfl⟩
      exact ⟨⟨rfl, rfl, rfl⟩, rfl, header, payload, rfl, by simpa using checked, rfl, rfl⟩
    rintro ⟨same, protocol, header', payload', whole, checked, srcPort, dstPort⟩
    obtain ⟨rfl, rfl⟩ := IcmpHeader.layout.encode_inj whole
    exact ⟨by simp [checked], same.eq protocol srcPort dstPort⟩

theorem classifyIcmp_accepts : Accepts (classifyIcmp ft₀ body {}) ft ↔ SameNetwork ft ft₀ ∧
    ft.l4Protocol = ft₀.l4Protocol ∧ ∃ header payload, body = IcmpHeader.layout.encode header ++ payload ∧
      checksum body = 0 ∧ AcceptsIcmp ft header := by
  have accepts := @icmp_accepts ft ft₀ body (fun _ => checksum body == 0) (fun _ _ => rfl)
    (classifyIcmp ft₀ body {}) rfl
  simpa only [beq_iff_eq] using accepts

theorem classifyIcmpv6_accepts : Accepts (classifyIcmpv6 ft₀ body {}) ft ↔ SameNetwork ft ft₀ ∧
    ft.l4Protocol = ft₀.l4Protocol ∧ ∃ header payload, body = IcmpHeader.layout.encode header ++ payload ∧
      validateInetL4ChecksumWith5t ft body ∧ AcceptsIcmp ft header := by
  rw [@icmp_accepts ft ft₀ body (fun ft => validateInetL4ChecksumWith5t ft body) (fun _ _ => rfl)
    (classifyIcmpv6 ft₀ body {}) rfl]
  refine and_congr_right fun same => and_congr_right fun protocol => ?_
  simp only [validate_congr same protocol]

/-- A protocol that is no extension header is accepted exactly when its own header is. -/
theorem classifyNextHeader_accepts (direct : ¬ isExtension protocol) :
    Accepts (classifyNextHeader ft₀ body protocol {}) ft ↔
      SameNetwork ft ft₀ ∧ ft.l4Protocol = protocol ∧ AcceptsL4 ft body := by
  have network : SameNetwork ft { ft₀ with l4Protocol := protocol } ↔ SameNetwork ft ft₀ :=
    ⟨fun same => ⟨same.1, same.2, same.3⟩, fun same => ⟨same.1, same.2, same.3⟩⟩
  rw [classifyNextHeader]
  cases kind : headerKind protocol with
  | tcp | udp | icmp | icmpv6 =>
    simp only [classifyTcp_accepts, classifyUdp_accepts, classifyIcmp_accepts, classifyIcmpv6_accepts, network]
    refine and_congr_right fun _ => and_congr_right fun same => ?_
    simp only [AcceptsL4, same, kind]
  | unclassified =>
    simp only [classifyUnclassified, accepts_ok (.inr rfl)]
    constructor
    · rintro rfl
      exact ⟨⟨rfl, rfl, rfl⟩, rfl, by simp [AcceptsL4, kind]⟩
    rintro ⟨same, l4Protocol, accepts⟩
    simp only [AcceptsL4, l4Protocol, kind] at accepts
    exact (network.mpr same).eq l4Protocol accepts.1 accepts.2
  | v6Option | auth | frag => exact absurd (by simp [isExtension, kind]) direct

private theorem skipHeader_suffix {rest next optionLength} (skipped : skipHeader body optionLength = .ok (some (next, rest))) :
    ∃ front, body = front ++ rest := by
  unfold skipHeader at skipped
  obtain ⟨first, _, skipped⟩ := bind_ok.mp skipped
  split at skipped
  · cases skipped
  · cases skipped
    exact ⟨body.take optionLength, (take_append_drop _ _).symm⟩

/-- However many extension headers are skipped, what is left is a suffix of the body
with a transport header of its own. -/
theorem classifyNextHeader_suffix (accepts : Accepts (classifyNextHeader ft₀ body protocol {}) ft) :
    SameNetwork ft ft₀ ∧ ∃ front rest, body = front ++ rest ∧ AcceptsL4 ft rest := by
  induction length : body.length using Nat.strongRecOn generalizing body protocol ft₀ with
  | _ count ih =>
    subst length
    by_cases extension : isExtension protocol
    · have beyond {next rest optionLength} (header : skipHeader body optionLength = .ok (some (next, rest)))
          (shorter : rest.length < body.length)
          (accepts : Accepts (classifyNextHeader { ft₀ with l4Protocol := protocol } rest next {}) ft) :
          SameNetwork ft ft₀ ∧ ∃ front rest, body = front ++ rest ∧ AcceptsL4 ft rest := by
        obtain ⟨front, whole⟩ := skipHeader_suffix header
        obtain ⟨⟨l3Type, srcAddress, dstAddress⟩, inner, last, rfl, l4⟩ := ih rest.length shorter accepts rfl
        exact ⟨⟨l3Type, srcAddress, dstAddress⟩, front ++ inner, last, by rw [whole, append_assoc], l4⟩
      rw [classifyNextHeader] at accepts
      rcases extension with kind | kind | kind
      all_goals
        simp only [kind] at accepts
        split at accepts
        · exact absurd accepts accepts_panic
        · exact absurd accepts accepts_error
        rename_i skipped
      · obtain ⟨_, _, header⟩ := bind_ok.mp skipped
        exact beyond header (skipV6Option_shorter skipped) accepts
      · obtain ⟨_, _, header⟩ := bind_ok.mp skipped
        exact beyond header (skipAuthHeader_shorter skipped) accepts
      · exact absurd accepts frag_rejected
    · obtain ⟨same, _, l4⟩ := (classifyNextHeader_accepts extension).mp accepts
      exact ⟨same, [], body, rfl, l4⟩

private theorem moreFragments_accepts {more} [Decidable more] :
    Accepts (do
      let (result, ft) ← inner
      if more then return (.ok .firstFragment, ft)
      return (result, ft)) ft ↔ ¬ more ∧ Accepts inner ft := by
  by_cases fragment : more
  · refine iff_of_false ?_ fun accepts => accepts.1 fragment
    rintro ⟨result, accepted, same⟩
    obtain ⟨_, _, same⟩ := bind_ok.mp same
    simp only [fragment, if_true] at same
    exact accepts_refused (by decide) ⟨_, accepted, same⟩
  · simp only [fragment, if_false, not_false_eq_true, true_and]
    exact iff_of_eq (congrArg (Accepts · ft) (bind_pure inner))

theorem classifyIpv4_accepts : Accepts (classifyIpv4 ft₀ body {}) ft ↔
    ∃ header region, body = Ipv4Header.layout.encode header ++ region ∧ AcceptsIpv4 header body ∧
      Accepts (classifyNextHeader { ft₀ with
        l3Type := .ipv4, srcAddress := .newFromV4 header.srcAddress, dstAddress := .newFromV4 header.dstAddress }
        (body.drop header.headerLength) header.proto {}) ft := by
  unfold classifyIpv4
  refine ((accepts_ite accepts_error).trans accepts_header).trans ?_
  refine exists_congr fun header => exists_congr fun region => and_congr_right fun whole => ?_
  refine ((accepts_ite accepts_error).trans (and_congr_right fun _ => (accepts_ite accepts_error).trans
    (and_congr_right fun _ => (accepts_ite accepts_error).trans (and_congr_right fun _ =>
      (accepts_ite (accepts_refused (by decide))).trans (and_congr_right fun _ => (accepts_ite accepts_error).trans
        (and_congr_right fun _ => moreFragments_accepts)))))).trans ?_
  simp only [validateChecksums, lengthError, Bool.not_false, Bool.and_self, Bool.true_and,
    decide_eq_true_eq, gt_iff_lt, Nat.not_lt, bne_iff_ne, ne_eq, not_not, Bool.or_eq_true, not_or]
  constructor
  · rintro ⟨base, inside, checksum, offset, length, last, accepts⟩
    exact ⟨⟨base, inside, checksum, offset, last, by omega⟩, accepts⟩
  · rintro ⟨⟨base, inside, checksum, offset, last, length⟩, accepts⟩
    exact ⟨base, inside, checksum, offset, ⟨by omega, inside⟩, last, accepts⟩

theorem classifyIpv6_accepts : Accepts (classifyIpv6 ft₀ body {}) ft ↔
    ∃ header region, body = Ipv6Header.layout.encode header ++ region ∧ AcceptsIpv6 header region ∧
      Accepts (classifyNextHeader { ft₀ with
        l3Type := .ipv6, srcAddress := header.srcAddress, dstAddress := header.dstAddress } region header.nextHeader {}) ft := by
  unfold classifyIpv6
  refine ((accepts_ite accepts_error).trans accepts_header).trans ?_
  refine exists_congr fun header => exists_congr fun region => and_congr_right fun whole => ?_
  refine ((accepts_ite accepts_error).trans (and_congr_right fun _ => (accepts_ite accepts_error).trans
    (and_congr_right fun _ => accepts_ite accepts_error))).trans ?_
  have size := Ipv6Header.layout.encode_length header
  simp only [whole, drop_left' size, length_append, size, Nat.add_sub_cancel_left, lengthError,
    Bool.not_false, Bool.true_and, Bool.or_eq_true, decide_eq_true_eq, not_or, Bool.not_eq_true]
  constructor
  · rintro ⟨mapped, jumbo, length, accepts⟩
    exact ⟨⟨mapped.1, mapped.2, jumbo, by omega⟩, accepts⟩
  · rintro ⟨⟨src, dst, jumbo, length⟩, accepts⟩
    exact ⟨⟨src, dst⟩, jumbo, by omega, accepts⟩

private theorem first_version {version rest} :
    getIpVersion (version :: rest) = .ok ((version &&& ipVersionMask) >>> 4) := rfl

/-- The version nibble decides which of the two headers has to be acceptable. -/
theorem classify_accepts : Accepts (classify ft₀ body) ft ↔
    (getIpVersion body = .ok 4 ∧ Accepts (classifyIpv4 ft₀ body {}) ft) ∨
      (getIpVersion body = .ok 6 ∧ Accepts (classifyIpv6 ft₀ body {}) ft) := by
  cases body with
  | nil =>
    refine iff_of_false accepts_error ?_
    rintro (⟨version, _⟩ | ⟨version, _⟩) <;> cases version
  | cons version rest =>
    simp only [classify, classifyWithOptions, classifyL3, isEmpty_cons, Bool.false_eq_true, if_false, first_version,
      ok_bind, Except.ok.injEq]
    by_cases four : (version &&& ipVersionMask) >>> 4 = 4
    · simp [four]
    by_cases six : (version &&& ipVersionMask) >>> 4 = 6
    · simp [six]
    simp only [four, six, if_false, false_and, or_self, iff_false]
    exact accepts_refused (by decide)

/-- Where the first run accepts the packet, the second has the same result and five-tuple. -/
def Yields (first second : Except Panic Classified) : Prop :=
  ∀ result ft, result.accepted → first = .ok (.ok result, ft) → second = .ok (.ok result, ft)

namespace Yields
variable {first second third fourth} {condition : Prop} [Decidable condition]

theorem refused (refuses : ∀ {ft}, ¬ Accepts first ft) : Yields first second :=
  fun result _ accepted same => absurd ⟨result, accepted, same⟩ refuses

theorem failed {text} : Yields (.ok (.error text, other)) second := refused accepts_error

theorem ite (one : Yields first second) (two : Yields third fourth) :
    Yields (if condition then first else third) (if condition then second else fourth) := by
  split
  · exact one
  · exact two

theorem bind {α : Type} {x} {f g : α → Except Panic Classified} (each : ∀ value, Yields (f value) (g value)) :
    Yields (x >>= f) (x >>= g) := by
  intro result ft accepted same
  obtain ⟨value, found, same⟩ := bind_ok.mp same
  exact bind_ok.mpr ⟨value, found, each value result ft accepted same⟩

theorem moreFragments (inner : Yields first second) : Yields
    (first >>= fun (result, ft) => if condition then .ok (.ok .firstFragment, ft) else .ok (result, ft))
    (second >>= fun (result, ft) => if condition then .ok (.ok .firstFragment, ft) else .ok (result, ft)) := by
  intro result ft accepted same
  obtain ⟨last, accepts⟩ := moreFragments_accepts.mp ⟨result, accepted, same⟩
  obtain ⟨⟨_, _⟩, found, same⟩ := bind_ok.mp same
  simp only [last, if_false] at same ⊢
  cases same
  exact bind_ok.mpr ⟨_, inner _ _ accepted found, rfl⟩

end Yields

section
variable (ft other : FiveTuple) (options : ClassifierOptions)

/-- Of the five-tuple it is given, a transport classifier reads the network part only. -/
theorem classifyNextHeader_yields (l4Protocol : IpProtocol) (srcPort dstPort : UInt16) :
    Yields (classifyNextHeader ft body protocol options)
      (classifyNextHeader { ft with l4Protocol, srcPort, dstPort } body protocol options) := by
  induction length : body.length using Nat.strongRecOn generalizing body protocol ft l4Protocol with
  | _ count ih =>
    subst length
    rw [classifyNextHeader, classifyNextHeader]
    cases headerKind protocol with
    | icmp | icmpv6 => exact .bind fun _ => .bind fun _ => .ite .failed fun _ _ _ => id
    | tcp => exact .ite .failed (.ite .failed (.bind fun _ => .ite .failed fun _ _ _ => id))
    | udp => exact .ite .failed (.bind fun _ => .ite .failed (.ite .failed fun _ _ _ => id))
    | unclassified => exact fun _ _ _ => id
    | v6Option | auth | frag =>
      dsimp only
      split
      · exact .refused accepts_panic
      · exact .failed
      next skipped =>
        first
        | exact ih _ (skipV6Option_shorter skipped) _ _ rfl
        | exact ih _ (skipAuthHeader_shorter skipped) _ _ rfl
        | exact .refused frag_rejected

theorem classifyIpv4_yields : Yields (classifyIpv4 ft body options) (classifyIpv4 other body options) :=
  .ite .failed (.bind fun _ => .ite .failed (.ite .failed (.ite .failed (.ite (.refused (accepts_refused (by decide)))
    (.ite .failed (.moreFragments (classifyNextHeader_yields _ options _ _ _)))))))

theorem classifyIpv6_yields : Yields (classifyIpv6 ft body options) (classifyIpv6 other body options) :=
  .ite .failed (.bind fun _ => .ite .failed (.ite .failed (.ite .failed (classifyNextHeader_yields _ options _ _ _))))

end

/-- What a packet is taken for does not depend on the five-tuple that is left from before. -/
theorem classify_anew {ft other final : FiveTuple} {body : List UInt8} {options : ClassifierOptions} {result : ClassifierResult}
    (accepted : result = .ok ∨ result = .unclassifiedL4)
    (classified : classifyWithOptions ft body options = .ok (.ok result, final)) :
    classifyWithOptions other body options = .ok (.ok result, final) := by
  have yields : Yields (classifyWithOptions ft body options) (classifyWithOptions other body options) := by
    exact .ite .failed (.bind fun _ => .ite (classifyIpv4_yields ft other options)
      (.ite (classifyIpv6_yields ft other options) (.refused (accepts_refused (by decide)))))
  exact yields _ _ accepted classified

end Classifier
end ZprCore.Datapath
