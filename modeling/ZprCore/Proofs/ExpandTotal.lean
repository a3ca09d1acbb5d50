import ZprCore.Proofs.Delivery

/-! Which transit bodies the actor side can handle. Expansion reads a compressed header before
anything is known about its length, so a body that is too short for the header its traffic
classifier promises stops the process. -/

namespace ZprCore.Datapath
open Packet Layout Nat
open Panic (Exactly)

theorem refFromPrefix_exactly {α} (layout : Layout α) (bytes : List UInt8) :
    Exactly (layout.size ≤ bytes.length) (fun _ => True) (refFromPrefix layout bytes) := by
  unfold refFromPrefix
  obtain ⟨read, short⟩ | ⟨value, rest, read, _, long⟩ := layout.decode_cases bytes
  · rw [read]
    exact short
  · rw [read]
    exact ⟨long, trivial⟩

theorem mutFromPrefix_exactly {α} (layout : Layout α) (update : α → α) (bytes : List UInt8) :
    Exactly (layout.size ≤ bytes.length) (fun changed => changed.length = bytes.length)
      (mutFromPrefix layout update bytes) := by
  unfold mutFromPrefix
  obtain ⟨read, short⟩ | ⟨value, rest, read, whole, long⟩ := layout.decode_cases bytes
  · rw [read]
    exact short
  rw [read]
  refine ⟨long, ?_⟩
  change (layout.encode (update value) ++ rest).length = bytes.length
  rw [whole, List.length_append, List.length_append, layout.encode_length, layout.encode_length]

theorem slicePrefix_exactly (bytes : List UInt8) (length : Nat) :
    Exactly (length ≤ bytes.length) (fun _ => True) (slicePrefix bytes length) := by
  unfold slicePrefix
  split
  · rename_i inside
    exact ⟨inside, trivial⟩
  · rename_i outside
    exact outside

theorem copyWithin_exactly (bytes : List UInt8) (start stop dest : Nat) :
    Exactly (start ≤ stop ∧ stop ≤ bytes.length ∧ dest + (stop - start) ≤ bytes.length)
      (fun moved => moved.length = bytes.length) (copyWithin bytes start stop dest) := by
  unfold copyWithin
  split
  · rename_i inside
    refine ⟨inside, ?_⟩
    simp only [List.length_append, List.length_take, List.length_drop]
    omega
  · rename_i outside
    exact outside

namespace Packet
variable {pkt : Packet}

theorem get_exactly {α} (layout : Layout α) : Exactly (layout.size ≤ pkt.body.length)
    (fun found => pkt.body = layout.encode found.1 ++ found.2.body ∧
      found.2.body.length + layout.size = pkt.body.length ∧ found.2.headroom = pkt.headroom + layout.size)
    (pkt.get layout) := by
  unfold get
  obtain ⟨read, short⟩ | ⟨value, rest, read, whole, long⟩ := layout.decode_cases pkt.body
  · rw [read]
    exact short
  rw [read]
  refine ⟨long, whole, ?_, rfl⟩
  change rest.length + layout.size = pkt.body.length
  rw [whole, List.length_append, layout.encode_length, Nat.add_comm]

theorem pushHeader_exactly {header} (room : header.length ≤ pkt.headroom) :
    Exactly True (fun next => next.body.length = pkt.body.length + header.length ∧
      next.headroom = pkt.headroom - header.length) (pkt.pushHeader header) := by
  rw [pushHeader, Panic.check_bind room]
  exact .ok ⟨by rw [List.length_append, Nat.add_comm], rfl⟩

theorem advance_exactly (cnt : Nat) : Exactly (cnt ≤ pkt.body.length)
    (fun next => next.body.length + cnt = pkt.body.length ∧ next.headroom = pkt.headroom + cnt) (pkt.advance cnt) := by
  refine (Exactly.check.bind_total fun _ long => ?_).iff decide_eq_true_iff
  exact .ok ⟨by rw [List.length_drop, Nat.sub_add_cancel (of_decide_eq_true long)], rfl⟩

theorem shrinkBy_exactly (cnt : Nat) : Exactly (cnt ≤ pkt.body.length)
    (fun next => next.body = pkt.body.take (pkt.body.length - cnt) ∧ next.headroom = pkt.headroom)
    (pkt.shrinkBy cnt) := by
  refine (Exactly.check.bind_total fun _ _ => ?_).iff decide_eq_true_iff
  exact .ok ⟨rfl, rfl⟩

theorem withBody_exactly {condition wanted body} (exact : Exactly condition wanted body) :
    Exactly condition (fun next => wanted next.body ∧ next.headroom = pkt.headroom) (pkt.withBody body) := by
  exact exact.bind_total fun bytes meets => .ok ⟨meets, rfl⟩

end Packet

namespace Compress
variable {mode : CompressionMode} {ft : FiveTuple} {pkt : Packet}

/-- The ports that a compressed packet carries. -/
def portSize (mode : CompressionMode) : Nat :=
  (if mode.hasSource then 0 else 2) + (if mode.hasDestination then 0 else 2)

/-- The least size of a compressed transport header. -/
def l4Size (mode : CompressionMode) (l4Protocol : IpProtocol) : Nat :=
  if l4Protocol = IpNumber.tcp then portSize mode + 14
  else if l4Protocol = IpNumber.udp then portSize mode + 2
  else 0

/-- What expansion adds to the transport part. -/
def l4Growth (mode : CompressionMode) (l4Protocol : IpProtocol) : Nat :=
  if l4Protocol = IpNumber.tcp ∨ l4Protocol = IpNumber.udp then 6 - portSize mode else 0

theorem portSize_le (mode : CompressionMode) : portSize mode ≤ 4 := by
  unfold portSize
  cases mode.hasSource <;> cases mode.hasDestination <;> decide

theorem pushU16_exactly {port} (room : 2 ≤ pkt.headroom) : Exactly True
    (fun next => next.body.length = pkt.body.length + 2 ∧ next.headroom = pkt.headroom - 2) (pkt.pushU16 port) :=
  pushHeader_exactly room

theorem getU16_exactly : Exactly (2 ≤ pkt.body.length)
    (fun found => found.2.body.length + 2 = pkt.body.length ∧ found.2.headroom = pkt.headroom + 2) pkt.getU16 :=
  (get_exactly u16).mono fun _ => And.right

theorem getPorts_exactly : Exactly (portSize mode ≤ pkt.body.length)
    (fun found => found.2.2.body.length + portSize mode = pkt.body.length ∧
      found.2.2.headroom = pkt.headroom + portSize mode) (getPorts mode ft pkt) := by
  unfold getPorts portSize
  cases mode.hasSource <;> cases mode.hasDestination <;>
    simp only [Bool.false_eq_true, if_false, if_true, pure_bind]
  · refine getU16_exactly.bind_of_imp (by omega) fun source ⟨length, headroom⟩ => ?_
    refine (getU16_exactly.bind_total fun destination ⟨length', headroom'⟩ => ?_).iff (by omega)
    exact .ok ⟨by dsimp only; omega, by dsimp only; omega⟩
  · exact getU16_exactly.bind_total fun source first => .ok first
  · exact getU16_exactly.bind_total fun destination first => .ok first
  · exact ⟨zero_le _, rfl, rfl⟩

/-- After the ports the checksum is moved out of the way, and the whole header has to be there. -/
theorem expandTcp_exactly (room : 6 ≤ pkt.headroom) : Exactly (portSize mode + 14 ≤ pkt.body.length)
    (fun next => next.body.length + portSize mode = pkt.body.length + 6 ∧
      next.headroom + 6 = pkt.headroom + portSize mode) (expandTcp mode ft pkt) := by
  have ports := portSize_le mode
  refine getPorts_exactly.bind_of_imp (by omega) fun (src, dst, read) ⟨length, headroom⟩ => ?_
  dsimp only at length headroom ⊢
  refine (pushHeader_exactly ?_).total_bind fun zeroed ⟨zeroedLength, zeroedRoom⟩ => ?_
  · rw [List.length_replicate]
    omega
  rw [List.length_replicate] at zeroedLength zeroedRoom
  have offset : TcpHeader.checksumOffset = 16 := rfl
  have size : TcpHeader.layout.size = 20 := rfl
  refine (withBody_exactly (copyWithin_exactly _ _ _ _)).bind_of_imp (by omega)
    fun moved ⟨movedLength, movedRoom⟩ => ?_
  refine (pushU16_exactly (by omega)).total_bind fun half ⟨halfLength, halfRoom⟩ => ?_
  refine (pushU16_exactly (by omega)).total_bind fun headed ⟨headedLength, headedRoom⟩ => ?_
  refine (withBody_exactly (mutFromPrefix_exactly TcpHeader.layout _ _)).bind_of_imp (by omega)
    fun cleared ⟨clearedLength, clearedRoom⟩ => ?_
  refine ((withBody_exactly (mutFromPrefix_exactly TcpHeader.layout _ _)).mono ?_).iff (by omega)
  exact fun next ⟨nextLength, nextRoom⟩ => ⟨by omega, by omega⟩

/-- The length is computed from what follows the ports, which has to include the checksum. -/
theorem expandUdp_exactly (room : 6 ≤ pkt.headroom) : Exactly (portSize mode + 2 ≤ pkt.body.length)
    (fun next => next.body.length + portSize mode = pkt.body.length + 6 ∧
      next.headroom + 6 = pkt.headroom + portSize mode) (expandUdp mode ft pkt) := by
  have ports := portSize_le mode
  refine getPorts_exactly.bind_of_imp (by omega) fun (src, dst, read) ⟨length, headroom⟩ => ?_
  dsimp only at length headroom ⊢
  split
  · exact Exactly.error.iff (iff_of_false id (by omega))
  refine (pushU16_exactly (by omega)).total_bind fun sized ⟨sizedLength, sizedRoom⟩ => ?_
  refine (pushU16_exactly (by omega)).total_bind fun half ⟨halfLength, halfRoom⟩ => ?_
  refine ((pushU16_exactly (by omega)).mono ?_).iff (iff_of_true trivial (by omega))
  exact fun next ⟨nextLength, nextRoom⟩ => ⟨by omega, by omega⟩

theorem expandL4_exactly (room : 6 ≤ pkt.headroom) : Exactly (l4Size mode ft.l4Protocol ≤ pkt.body.length)
    (fun next => next.body.length = pkt.body.length + l4Growth mode ft.l4Protocol ∧
      pkt.headroom ≤ next.headroom + 6) (expandL4 mode ft pkt) := by
  unfold expandL4 l4Size l4Growth
  split
  · rename_i tcp
    rw [if_pos (.inl tcp)]
    have ports := portSize_le mode
    exact (expandTcp_exactly room).mono fun next ⟨length, headroom⟩ => ⟨by omega, by omega⟩
  split
  · rename_i udp
    rw [if_pos (.inr udp)]
    have ports := portSize_le mode
    exact (expandUdp_exactly room).mono fun next ⟨length, headroom⟩ => ⟨by omega, by omega⟩
  · rename_i tcp udp
    rw [if_neg (not_or.mpr ⟨tcp, udp⟩)]
    exact ⟨zero_le _, rfl, le_add_right _ _⟩

/-- The size of the compressed IPv4 header, by its first byte. -/
def ipv4Front (hlZdpflags : UInt8) : Nat := if hlZdpflags &&& zdpV4FragInfoPresent ≠ 0 then 7 else 5

theorem ipv4Front_ge (hlZdpflags : UInt8) : 5 ≤ ipv4Front hlZdpflags := by
  unfold ipv4Front
  split <;> decide

/-- The compressed headers are there, and the IPv4 header is no longer than the packet that is made. -/
def FitsIpv4 (mode : CompressionMode) (l4Protocol : IpProtocol) (hlZdpflags : UInt8) (length : Nat) : Prop :=
  ipv4Front hlZdpflags + l4Size mode l4Protocol ≤ length ∧
    (hlZdpflags >>> 4).toNat <<< 2 + ipv4Front hlZdpflags ≤ 20 + length + l4Growth mode l4Protocol

/-- The bodies that can be expanded. -/
def Expandable (mode : CompressionMode) (ft : FiveTuple) (body : List UInt8) : Prop :=
  match ft.l3Type with
  | .ipv4 => ∃ hlZdpflags ∈ body.head?, FitsIpv4 mode ft.l4Protocol hlZdpflags body.length
  | .ipv6 => 5 + l4Size mode ft.l4Protocol ≤ body.length
  | .other _ => True

theorem expandIpv6_exactly (room : 41 ≤ pkt.headroom) : Exactly (5 + l4Size mode ft.l4Protocol ≤ pkt.body.length)
    (fun _ => True) (expandIpv6 mode ft pkt) := by
  have size : CompressedIpv6Header.layout.size = 5 := rfl
  refine (refFromPrefix_exactly CompressedIpv6Header.layout _).bind_of_imp (by omega) fun header _ => ?_
  refine (advance_exactly CompressedIpv6Header.layout.size).bind_of_imp (by omega)
    fun rest ⟨restLength, restRoom⟩ => ?_
  refine ((expandL4_exactly (by omega)).bind_total fun next ⟨nextLength, nextRoom⟩ => ?_).iff (by omega)
  refine (pushHeader_exactly ?_).mono fun _ _ => trivial
  rw [Ipv6Header.layout.encode_length, show Ipv6Header.layout.size = 40 from rfl]
  omega

theorem getFragOffset_exactly {hlZdpflags} : Exactly (ipv4Front hlZdpflags ≤ pkt.body.length + 5)
    (fun found => found.2.body.length + ipv4Front hlZdpflags = pkt.body.length + 5 ∧ pkt.headroom ≤ found.2.headroom)
    (if hlZdpflags &&& zdpV4FragInfoPresent ≠ 0 then pkt.getU16 else pure (0, pkt) : Except Panic (UInt16 × Packet)) := by
  unfold ipv4Front
  split
  · exact (getU16_exactly.mono fun found ⟨length, headroom⟩ => ⟨by omega, by omega⟩).iff (by omega)
  · exact ⟨Nat.le_add_left _ _, rfl, Nat.le_refl _⟩

theorem expandIpv4_exactly (room : 41 ≤ pkt.headroom) :
    Exactly (∃ hlZdpflags ∈ pkt.body.head?, FitsIpv4 mode ft.l4Protocol hlZdpflags pkt.body.length) (fun _ => True)
      (expandIpv4 mode ft pkt) := by
  have two : (pair u8 u8).size = 2 := rfl
  have one : u8.size = 1 := rfl
  refine (get_exactly (pair .u8 .u8)).bind_of_imp ?_ ?_
  · rintro ⟨hlZdpflags, _, fits, _⟩
    have front := ipv4Front_ge hlZdpflags
    omega
  rintro ⟨⟨hlZdpflags, tos⟩, rest⟩ ⟨whole, restLength, restRoom⟩
  have first : FitsIpv4 mode ft.l4Protocol hlZdpflags pkt.body.length ↔
      ∃ hlZdpflags ∈ pkt.body.head?, FitsIpv4 mode ft.l4Protocol hlZdpflags pkt.body.length := by
    rw [whole]
    simp [Layout.pair, u8]
  refine Exactly.iff ?_ first
  have front := ipv4Front_ge hlZdpflags
  dsimp only at whole restLength restRoom ⊢
  refine getU16_exactly.bind_of_imp (by rintro ⟨fits, _⟩; omega) ?_
  rintro ⟨fragId, next⟩ ⟨idLength, idRoom⟩
  dsimp only at idLength idRoom ⊢
  refine Exactly.ite_bind (getFragOffset_exactly.bind_of_imp (by rintro ⟨fits, _⟩; omega) ?_)
  rintro ⟨fragOffset, next⟩ ⟨offsetLength, offsetRoom⟩
  dsimp only at offsetLength offsetRoom ⊢
  refine (get_exactly u8).bind_of_imp (by rintro ⟨fits, _⟩; omega) ?_
  rintro ⟨ttl, next⟩ ⟨_, ttlLength, ttlRoom⟩
  dsimp only at ttlLength ttlRoom ⊢
  refine ((expandL4_exactly (by omega)).bind _ ?_).iff (and_congr (by omega) Iff.rfl)
  rintro segment ⟨segmentLength, segmentRoom⟩
  have size : Ipv4Header.layout.size = 20 := rfl
  refine (pushHeader_exactly ?_).total_bind ?_
  · rw [Ipv4Header.layout.encode_length]
    omega
  rintro made ⟨madeLength, _⟩
  rw [Ipv4Header.layout.encode_length] at madeLength
  refine ((slicePrefix_exactly _ _).bind_total fun header _ => ?_).iff (by omega)
  refine ((withBody_exactly (mutFromPrefix_exactly Ipv4Header.layout _ _)).mono fun _ _ => trivial).iff ?_
  exact iff_of_true (by omega) trivial

theorem expand_exactly (room : 41 ≤ pkt.headroom) :
    Exactly (Expandable mode ft pkt.body) (fun _ => True) (expand mode ft pkt) := by
  unfold expand
  split
  · rename_i l3Type
    rw [Expandable, l3Type]
    exact expandIpv4_exactly room
  · rename_i l3Type
    rw [Expandable, l3Type]
    exact expandIpv6_exactly room
  rename_i l3Type
  rw [Expandable, l3Type]
  exact .ok trivial

end Compress

namespace Fastpath
open Compress
variable {blake3 : Blake3} {saidSize : Nat} {asm : Assembly} {tetherId : StreamId} {pkt : Packet}

/-- What follows the SAID can be handled: what is too short for the check value is dropped, and so
is what is for no known tether or not for this adapter; the rest is expanded. -/
def ManageablePayload (asm : Assembly) (tetherId : StreamId) (payload : List UInt8) : Prop :=
  zdpA2aMacSize ≤ payload.length → ∀ pep ∈ asm.dlt tetherId,
    (asm.phMode = .adapter → asm.adapterOwnsAddress pep.tc.fiveTuple.dstAddress = true) →
      Expandable pep.tc.compressionMode pep.tc.fiveTuple (payload.take (payload.length - zdpA2aMacSize))

/-- The transit bodies that the actor side can handle. SAIDs other than zero are not implemented. -/
def Manageable (saidSize : Nat) (asm : Assembly) (tetherId : StreamId) (body : List UInt8) : Prop :=
  saidSize ≤ body.length →
    body.take saidSize = List.replicate saidSize 0 ∧ ManageablePayload asm tetherId (body.drop saidSize)

theorem manageable_said (said : Vector UInt8 saidSize) (payload : List UInt8) :
    Manageable saidSize asm tetherId (said.toList ++ payload) ↔
      said = .replicate saidSize 0 ∧ ManageablePayload asm tetherId payload := by
  have size := said.length_toList
  rw [Manageable, List.take_left' size, List.drop_left' size, ← Vector.toList_replicate, Vector.toList_inj,
    List.length_append, size]
  exact ⟨fun manageable => manageable (le_add_right _ _), fun both _ => both⟩

/-- The outcomes of a packet that came over a tether. -/
def Concluded (outcome : Outcome) : Prop := (∃ counter, outcome = .dropped counter) ∨ ∃ out, outcome = .actorInput out

private theorem dropped_exactly {condition} (holds : condition) (counter) :
    Exactly condition Concluded (return .dropped counter : Except Panic Outcome) :=
  ⟨holds, .inl ⟨counter, rfl⟩⟩

theorem actorInput_exactly (room : 41 ≤ pkt.headroom) : Exactly (Manageable saidSize asm tetherId pkt.body) Concluded
    (actorInput blake3 saidSize asm tetherId pkt) := by
  unfold actorInput
  split
  · rename_i short
    exact dropped_exactly (fun long => absurd long (Nat.not_le.mpr short)) _
  rename_i long
  refine (get_exactly (vector saidSize)).bind_of_imp (fun _ => Nat.not_lt.mp long)
    fun (said, rest) ⟨whole, _, headroom⟩ => ?_
  dsimp only at whole headroom ⊢
  rw [whole]
  refine Exactly.iff ?_ (manageable_said said rest.body).symm
  refine (Exactly.check.bind (ManageablePayload asm tetherId rest.body) fun _ _ => ?_).iff
    (and_congr_left' decide_eq_true_iff)
  split
  · rename_i short
    exact dropped_exactly (fun enough => absurd enough (Nat.not_le.mpr short)) _
  rename_i enough
  refine (shrinkBy_exactly zdpA2aMacSize).bind_of_imp (fun _ => Nat.not_lt.mp enough)
    fun inner ⟨innerBody, innerRoom⟩ => ?_
  split
  · rename_i unknown
    exact dropped_exactly (fun _ pep found => absurd (unknown.symm.trans found) (by simp)) _
  rename_i pep found
  split
  · rename_i foreign
    refine dropped_exactly (fun _ other same owned => ?_) _
    cases found.symm.trans same
    rw [owned foreign.1] at foreign
    exact absurd foreign.2 (by decide)
  rename_i owned
  have expands : ManageablePayload asm tetherId rest.body ↔
      Expandable pep.tc.compressionMode pep.tc.fiveTuple inner.body := by
    rw [innerBody]
    refine ⟨fun manageable => manageable (Nat.not_lt.mp enough) pep found fun adapter => ?_, fun expandable _ other same _ => ?_⟩
    · rw [not_and, Bool.not_eq_true', Bool.not_eq_false] at owned
      exact owned adapter
    · cases found.symm.trans same
      exact expandable
  refine ((expand_exactly (by omega)).bind_total fun out _ => ?_).iff expands.symm
  split
  · exact dropped_exactly trivial _
  · exact .ok (.inr ⟨out, rfl⟩)

/-- In a buffer with enough headroom, input for the actor returns exactly for the bodies that can
be handled, and then the packet is counted as dropped or queued. -/
theorem actorInput_returns_iff (room : 41 ≤ pkt.headroom) :
    (∃ outcome, actorInput blake3 saidSize asm tetherId pkt = .ok outcome ∧ Concluded outcome) ↔
      Manageable saidSize asm tetherId pkt.body :=
  (actorInput_exactly room).exists_iff

/-- A transit body as it arrives in a buffer with the default headroom. -/
def arriving (body : List UInt8) : Packet := { sampleSent with headroom := 256, body }

theorem actorInput_returns_sample : 41 ≤ (arriving (List.replicate 32 0)).headroom ∧
    ((∃ outcome, actorInput sampleHash 1 sampleEgress 7 (arriving (List.replicate 32 0)) = .ok outcome ∧
      Concluded outcome) ↔ Manageable 1 sampleEgress 7 (List.replicate 32 0)) :=
  ⟨by decide, actorInput_returns_iff (show 41 ≤ 256 by decide)⟩

/-- Nothing but a zero SAID and a check value, on a tether that is known, stops the adapter before
the check value is looked at; so does any other SAID, on whatever tether. -/
theorem actorInput_stops :
    (∀ blake3 saidSize (mac : Vector UInt8 8), ¬ Panic.Returns (actorInput blake3 saidSize sampleEgress 7
      (arriving (List.replicate saidSize 0 ++ mac.toList)))) ∧
    ∀ blake3 saidSize (said : Vector UInt8 saidSize) (payload : List UInt8), said ≠ .replicate saidSize 0 → ∀ asm tetherId,
      ¬ Panic.Returns (actorInput blake3 saidSize asm tetherId (arriving (said.toList ++ payload))) := by
  have room body : 41 ≤ (arriving body).headroom := show 41 ≤ 256 by decide
  refine ⟨fun _ saidSize mac => (actorInput_exactly (room _)).not_returns ?_,
    fun _ saidSize said payload other asm tetherId => (actorInput_exactly (room _)).not_returns ?_⟩
  · change ¬ Manageable saidSize sampleEgress 7 (List.replicate saidSize 0 ++ mac.toList)
    rw [← Vector.toList_replicate, manageable_said, not_and]
    intro _ manageable
    have size := mac.length_toList
    have empty := manageable (Nat.le_of_eq size.symm) ⟨sampleTc, none⟩ rfl (fun _ => by decide)
    rw [size] at empty
    obtain ⟨hlZdpflags, first, _⟩ := empty
    cases first
  · change ¬ Manageable saidSize asm tetherId (said.toList ++ payload)
    rw [manageable_said, not_and_or]
    exact .inl other

end Fastpath
end ZprCore.Datapath
