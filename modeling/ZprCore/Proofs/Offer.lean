import ZprCore.Proofs.Messages

/-! Offers of authentication on the wire. The challenge is always sent, but it is only accepted
under the bootstrap flag; of an IPv6 socket address, flow information and scope are not sent. -/

namespace ZprCore.Mgmt
open Datapath Panic Layout List InitAuthenticationFlags DataType Packet Nat TlvEncoding Table UInt16
open Auth (AuthenticationStatus AuthenticationOffer ZdpInitAuthenticationPayload ActorAuthorization)
variable {Visa : Type} {p : TlvPrimitives Visa} {pkt : Packet} {addrs : List SocketAddr}

/-- The value of an address on the wire. -/
def addressBytes : SocketAddr → List UInt8
  | .v4 ip port => ip.toList ++ bytes16 port
  | .v6 ip port _ _ => ip.toList ++ bytes16 port

def asaBytes (addr : SocketAddr) : List UInt8 :=
  DataType.asa :: UInt8.ofNat (addressBytes addr).length :: addressBytes addr

/-- What is left of an address on the wire. -/
def plain : SocketAddr → SocketAddr
  | .v4 ip port => .v4 ip port
  | .v6 ip port _ _ => .v6 ip port 0 0

theorem newAsa_put_fits {addr} (room : (asaBytes addr).length ≤ pkt.tailroom) :
    ∃ next, (newAsa addr).put p pkt = .ok next ∧ next.headroom = pkt.headroom ∧
      next.body = pkt.body ++ asaBytes addr ∧ next.tailroom = pkt.tailroom - (asaBytes addr).length := by
  have same : (newAsa addr).put p pkt = putTlv pkt asa (addressBytes addr) := by
    cases addr with
    | v4 ip port => rfl
    | v6 ip port flowinfo scopeId => rfl
  have shorter : (addressBytes addr).length + 2 ≤ pkt.tailroom := room
  obtain ⟨middle, header, headroom, start, tailroom⟩ :=
    @Packet.put_fits pkt [asa, UInt8.ofNat (addressBytes addr).length] (Nat.le_of_add_left_le shorter)
  obtain ⟨next, value, still, body, left⟩ := @Packet.put_fits middle (addressBytes addr) (by
    rw [tailroom]
    exact Nat.le_sub_of_add_le shorter)
  refine ⟨next, ?_, still.trans headroom, ?_, ?_⟩
  · rw [same, putTlv, header, ok_bind, value]
  · rw [body, start, append_assoc]
    rfl
  · rw [left, tailroom, Nat.sub_sub, Nat.add_comm]
    rfl

theorem newAsas_put_fits (room : (addrs.flatMap asaBytes).length ≤ pkt.tailroom) :
    ∃ next, addrs.foldlM (fun pkt addr => (newAsa addr).put p pkt) pkt = .ok next ∧
      next.headroom = pkt.headroom ∧ next.body = pkt.body ++ addrs.flatMap asaBytes := by
  induction addrs generalizing pkt with
  | nil => exact ⟨pkt, rfl, rfl, (append_nil _).symm⟩
  | cons addr rest ih =>
    rw [flatMap_cons, length_append] at room
    obtain ⟨middle, put, headroom, body, tailroom⟩ := @newAsa_put_fits _ p pkt addr (Nat.le_of_add_right_le room)
    obtain ⟨next, written, same, whole⟩ := ih (tailroom ▸ Nat.le_sub_of_add_le' room)
    refine ⟨next, ?_, same.trans headroom, ?_⟩
    · rw [foldlM_cons, put, ok_bind, written]
    · rw [whole, body, append_assoc, flatMap_cons]

theorem parseTlv_asa (addr : SocketAddr) (rest : List UInt8) :
    parseTlv p asa (UInt8.ofNat (addressBytes addr).length :: addressBytes addr ++ rest) =
      .ok (.ok (some (.socketAddr (plain addr)), rest)) := by
  have parse (len : UInt8) (buf : List UInt8) (long : len.toNat ≤ buf.length) :
      parseTlv p asa (len :: buf) = parseSocketaddr buf len.toNat := if_neg (not_lt.mpr long)
  cases addr with
  | v4 ip port =>
    have value : addressBytes (.v4 ip port) = (Layout.pair (.vector 4) .u16).encode (ip, port) := rfl
    have length : (addressBytes (.v4 ip port)).length = 6 := value ▸ encode_length _ _
    rw [length, cons_append, parse _ _ (by rw [length_append, length]; exact le_add_right _ _), value]
    show parseSocketaddr _ 6 = _
    rw [parseSocketaddr, getBuf, decode_encode]
    rfl
  | v6 ip port flowinfo scopeId =>
    have value : addressBytes (.v6 ip port flowinfo scopeId) = (Layout.pair (.vector 16) .u16).encode (ip, port) := rfl
    have length : (addressBytes (.v6 ip port flowinfo scopeId)).length = 18 := value ▸ encode_length _ _
    rw [length, cons_append, parse _ _ (by rw [length_append, length]; exact le_add_right _ _), value]
    show parseSocketaddr _ 18 = _
    rw [parseSocketaddr, getBuf, decode_encode]
    rfl

/-- Addresses among the values, in order. -/
def pushAsas (addrs : List SocketAddr) (tlvMap : TlvMap Visa) : TlvMap Visa :=
  addrs.foldl (fun tlvMap addr => TlvMap.push tlvMap DataType.asa (some (.socketAddr (plain addr)))) tlvMap

theorem parseTurns_asa (addrs : List SocketAddr) {turns} (enough : (addrs.flatMap asaBytes).length ≤ turns)
    (tlvMap : TlvMap Visa) : parseTurns p turns tlvMap (addrs.flatMap asaBytes) = .ok (.ok (pushAsas addrs tlvMap)) := by
  induction addrs generalizing turns tlvMap with
  | nil =>
    cases turns with
    | zero => rfl
    | succ turns => rfl
  | cons addr rest ih =>
    rw [flatMap_cons, length_append] at enough
    cases turns with
    | zero => cases le_zero.mp (le_of_add_right_le enough)
    | succ turns =>
      have left : (rest.flatMap asaBytes).length ≤ turns := by
        rw [asaBytes, length_cons, length_cons] at enough
        omega
      rw [flatMap_cons, asaBytes, cons_append, parseTurns, parseTlv_asa]
      exact ih left _

theorem get_pushAsas (addrs : List SocketAddr) (tlvMap : TlvMap Visa) :
    (get (pushAsas addrs tlvMap) asa).getD [] =
      (get tlvMap asa).getD [] ++ addrs.map fun addr => .socketAddr (plain addr) := by
  induction addrs generalizing tlvMap with
  | nil => exact (append_nil _).symm
  | cons addr rest ih =>
    have pushed : (get (TlvMap.push tlvMap asa (some (.socketAddr (plain addr)))) asa).getD [] =
        (get tlvMap asa).getD [] ++ [.socketAddr (plain addr)] := by
      simp only [TlvMap.push, get_insert, if_true, Option.getD_some]
    rw [map_cons, append_cons, ← pushed]
    exact ih _

theorem socketAddresses_plain (addrs : List SocketAddr) :
    socketAddresses (addrs.map fun addr => (.socketAddr (plain addr) : TlvValue Visa)) = .ok (addrs.map plain) := by
  induction addrs with
  | nil => rfl
  | cons addr rest ih =>
    rw [map_cons, socketAddresses, ih]
    rfl

theorem readAsaAddresses_asa (body : pkt.body = addrs.flatMap asaBytes) :
    readAsaAddresses p pkt = .ok (.ok (addrs.map plain)) := by
  rw [readAsaAddresses, parseFromBuf, body, parseTurns_asa addrs (le_refl _)]
  show Except.ok (socketAddresses _) = _
  rw [get_pushAsas, get_empty, Option.getD_none, nil_append, socketAddresses_plain]

/-- The bootstrap flag goes with success only. -/
def Permitted (status : AuthenticationStatus) (flags : UInt8) : Prop :=
  flags = 0 ∨ flags = InitAuthenticationFlags.bootstrapSupport ∧ status = .success

/-- The body of an offer. -/
def offerBytes (status : AuthenticationStatus) (flags : UInt8) (payload : ZdpInitAuthenticationPayload)
    (addrs : List SocketAddr) : List UInt8 :=
  ZdpInitAuthenticationRequestHeader.layout.encode
    ⟨status.code, flags, UInt16.ofNat ZdpInitAuthenticationPayload.layout.size⟩ ++
    (payload.asBytes ++ addrs.flatMap asaBytes)

section
variable {status} {flags : UInt8} {payload}
  {addrs : List SocketAddr}

theorem validAuthStatus_code (status : AuthenticationStatus) : validAuthStatus status.code = some status := by
  cases status with
  | success => rfl
  | rejected => rfl
  | retryable => rfl

theorem readOffer_sent (permitted : Permitted status flags) (body : pkt.body = offerBytes status flags payload addrs) :
    readOffer p pkt = .ok (if flags = bootstrapSupport then
      .ok ⟨status, some payload, addrs.map plain⟩ else .error .badStructure) := by
  obtain ⟨middle, header, rest, _⟩ := readFromBuf_encode body
  simp only [readOffer, header, validAuthStatus_code]
  rcases permitted with rfl | ⟨rfl, rfl⟩
  · have refused : readChallenge ⟨status.code, 0, ofNat ZdpInitAuthenticationPayload.layout.size⟩ middle =
        .error .badStructure := by
      have flag : ¬ (0 : UInt8) &&& bootstrapSupport ≠ 0 := by decide
      have length : ofNat ZdpInitAuthenticationPayload.layout.size ≠ 0 := by decide
      exact (if_neg flag).trans (if_pos length)
    simp only [refused]
    split <;> rfl
  · obtain ⟨last, challenge, addresses, _⟩ := readFromBuf_encode rest
    have accepted : readChallenge ⟨AuthenticationStatus.success.code, bootstrapSupport,
        ofNat ZdpInitAuthenticationPayload.layout.size⟩ middle = .ok (some payload, last) := by
      simp only [readChallenge, challenge]
      rfl
    simp only [accepted, readAsaAddresses_asa addresses]
    rfl

theorem sendInitAuthenticationRequest_body {minBodyOffset txn}
    (fits : minBodyOffset + defaultMessageHeadroom + (offerBytes status flags payload addrs).length ≤ smallPacketBufferSize) :
    ∃ packet : Packet, sendInitAuthenticationRequest p minBodyOffset txn status flags payload addrs =
        packet.sendNonFlowTxnMgmt .initAuthenticationRequest txn ∧ 16 ≤ packet.headroom ∧
      packet.body = offerBytes status flags payload addrs := by
  obtain ⟨pkt, new, headroom, empty, tailroom⟩ := newHeapPacket_fits (Nat.le_of_add_right_le fits)
  have room := Nat.le_sub_of_add_le' fits
  rw [← tailroom, offerBytes, length_append, length_append] at room
  obtain ⟨headed, header, one, start, left⟩ := put_fits (Nat.le_of_add_right_le room)
  have room : _ ≤ headed.tailroom := left ▸ Nat.le_sub_of_add_le' room
  obtain ⟨challenged, challenge, two, more, left⟩ := put_fits (Nat.le_of_add_right_le room)
  have room : _ ≤ challenged.tailroom := left ▸ Nat.le_sub_of_add_le' room
  obtain ⟨packet, addresses, three, body⟩ := @newAsas_put_fits _ p _ _ room
  refine ⟨packet, ?_, ?_, ?_⟩
  · simp only [sendInitAuthenticationRequest, new, header, challenge, addresses, ok_bind]
  · rw [three, two, one, headroom]
    decide
  · rw [body, more, start, empty, nil_append, append_assoc]
    rfl

end

theorem handleInitAuthenticationRequest_offer {offer} (read : readOffer p pkt = .ok (.ok offer)) (actor : ActorAuthorization)
    (txn : UInt16) :
    handleInitAuthenticationRequest p (some actor) txn pkt =
      .ok ((actor.receiveOffer txn offer).1, some (actor.receiveOffer txn offer).2) := by
  rw [handleInitAuthenticationRequest, read]
  rfl

/-- An offer with a permitted flag arrives at the handler for it. It is read as it was sent if and only if
it has the bootstrap flag and its IPv6 addresses have neither flow information nor scope; then the
actor is given it. -/
theorem offer_delivered_iff (p : TlvPrimitives Visa) {minBodyOffset : Nat} {txn : UInt16}
    {status : AuthenticationStatus} {flags : UInt8} {payload : ZdpInitAuthenticationPayload} {addrs : List SocketAddr}
    (permitted : Permitted status flags)
    (fits : minBodyOffset + Packet.defaultMessageHeadroom + (offerBytes status flags payload addrs).length ≤
      Packet.smallPacketBufferSize) :
    ∃ message, sendInitAuthenticationRequest p minBodyOffset txn status flags payload addrs = .ok message ∧
      ∀ arrived, message.Arrives arrived → ∃ pkt, handlePacket arrived = .ok (.ok (.initAuthenticationRequest txn, pkt)) ∧
        (readOffer p pkt = .ok (.ok ⟨status, if flags = InitAuthenticationFlags.bootstrapSupport then some payload
            else none, addrs⟩) ↔
          flags = InitAuthenticationFlags.bootstrapSupport ∧ ∀ addr ∈ addrs, plain addr = addr) ∧
        ∀ offer actor, readOffer p pkt = .ok (.ok offer) → handleInitAuthenticationRequest p (some actor) txn pkt =
          .ok ((actor.receiveOffer txn offer).1, some (actor.receiveOffer txn offer).2) := by
  obtain ⟨packet, sent, room, body⟩ := @sendInitAuthenticationRequest_body _ p _ _ _ _ _ txn fits
  have noFlow : ZdpPacketType.initAuthenticationRequest.isPerFlow = false := rfl
  have flows : (none : Option (BitVec 32)).isSome = ZdpPacketType.initAuthenticationRequest.isPerFlow := noFlow.symm
  obtain ⟨message, built, _⟩ := sendMgmtHelper_fits (some txn) (by decide) flows room
  refine ⟨message, sent.trans built, ?_⟩
  intro arrived arrives
  obtain ⟨framed, inner, _, handled⟩ := handlePacket_arrives (by decide) noFlow room built arrives
  obtain ⟨pkt, transaction, whole, _⟩ := readFromBuf_encode inner
  refine ⟨pkt, ?_, ?_, fun _ actor read => handleInitAuthenticationRequest_offer read actor txn⟩
  · have found : nonFlowTxnHandler .initAuthenticationRequest = some .initAuthenticationRequest := rfl
    rw [handled, handleNonFlow, found]
    simp only [withTxn, transaction]
  rw [readOffer_sent permitted (whole.trans body)]
  split
  · next bootstrap =>
    simp only [bootstrap, true_and, Except.ok.injEq, AuthenticationOffer.mk.injEq]
    have same := @List.map_inj_left _ _ addrs plain id
    rwa [map_id] at same
  · next plain =>
    exact iff_of_false nofun fun delivered => plain delivered.1

def samplePrimitives : TlvPrimitives Unit := ⟨fun _ => "", fun _ => [], fun _ => none⟩

def samplePayload : ZdpInitAuthenticationPayload := ⟨.replicate 8 1, 1700000000, .replicate 32 2⟩

def sampleService : SocketAddr := .v4 #v[10, 0, 0, 9] 8443

theorem offer_delivered_sample : Permitted .success InitAuthenticationFlags.bootstrapSupport ∧
    104 + Packet.defaultMessageHeadroom +
      (offerBytes .success InitAuthenticationFlags.bootstrapSupport samplePayload [sampleService]).length ≤
      Packet.smallPacketBufferSize ∧
    ∃ message, sendInitAuthenticationRequest samplePrimitives 104 7 .success InitAuthenticationFlags.bootstrapSupport
        samplePayload [sampleService] = .ok message ∧
      ∀ arrived, message.Arrives arrived → ∃ pkt, handlePacket arrived = .ok (.ok (.initAuthenticationRequest 7, pkt)) ∧
        (readOffer samplePrimitives pkt = .ok (.ok ⟨.success, some samplePayload, [sampleService]⟩) ↔
          InitAuthenticationFlags.bootstrapSupport = InitAuthenticationFlags.bootstrapSupport ∧
            ∀ addr ∈ [sampleService], plain addr = addr) ∧
        ∀ offer actor, readOffer samplePrimitives pkt = .ok (.ok offer) →
          handleInitAuthenticationRequest samplePrimitives (some actor) 7 pkt =
            .ok ((actor.receiveOffer 7 offer).1, some (actor.receiveOffer 7 offer).2) :=
  ⟨.inr ⟨rfl, rfl⟩, by decide, offer_delivered_iff samplePrimitives (.inr ⟨rfl, rfl⟩) (by decide)⟩

/-- An offer without the bootstrap flag is refused, and a scope is lost. -/
theorem offer_changed :
    (∃ message sent pkt, sendInitAuthenticationRequest samplePrimitives 104 7 .success 0 samplePayload [sampleService] =
        .ok message ∧ message.buildAndEgress 0 = .ok sent ∧
      handlePacket sent = .ok (.ok (.initAuthenticationRequest 7, pkt)) ∧
      readOffer samplePrimitives pkt = .ok (.error .badStructure)) ∧
    ∃ message sent pkt, sendInitAuthenticationRequest samplePrimitives 104 7 .success
        InitAuthenticationFlags.bootstrapSupport samplePayload [.v6 (.replicate 16 1) 8443 0 3] = .ok message ∧
      message.buildAndEgress 0 = .ok sent ∧ handlePacket sent = .ok (.ok (.initAuthenticationRequest 7, pkt)) ∧
      readOffer samplePrimitives pkt =
        .ok (.ok ⟨.success, some samplePayload, [.v6 (.replicate 16 1) 8443 0 0]⟩) :=
  ⟨⟨_, _, _, rfl, rfl, rfl, rfl⟩, ⟨_, _, _, rfl, rfl, rfl, rfl⟩⟩

end ZprCore.Mgmt
