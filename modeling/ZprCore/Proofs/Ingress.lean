import ZprCore.Datapath.Substrate

/-! What passes substrate ingress. A datagram gets past decryption of an established link
only if its MAC or its AEAD tag verifies; on any other link only ZPI zero gets past it, and
in ZPI zero only key management is let through. -/

namespace ZprCore.Datapath.Substrate
open Km Mgmt Panic Except
variable {pkt next : Packet} {peerSa : SubstrateAddr} {interfaceAddr : ScopedIpAddr} {zpiHdr : ZdpZpiHeader}
  {queueFull : Bool} {outcome : Ingress}

variable {Transport Cert : Type} {blake3 : Blake3} {snow : StatelessTransport Transport}
  {asm : Mgmt.Assembly Transport Cert}

/-- The datagram ends in the keyed MAC of what is before it. -/
structure MacVerifies (blake3 : Blake3) (sa : KmTransportSA Transport Cert) (datagram : List UInt8) : Prop where
  zpi : datagram.head? = some sa.recvZpis.hmac
  long : zdpPacketMacSize ≤ datagram.length
  mac : datagram.drop (datagram.length - zdpPacketMacSize) =
    linkMac blake3 sa.recvHmacKey (datagram.take (datagram.length - zdpPacketMacSize))

/-- The ciphertext behind the ZPI opens under the association's receive key. -/
structure TagVerifies (snow : StatelessTransport Transport) (sa : KmTransportSA Transport Cert)
    (datagram : List UInt8) : Prop where
  zpi : datagram.head? = some sa.recvZpis.encr
  opened : ∃ state encrNonce nonce message plaintext, sa.codec = .noise state encrNonce ∧
    splitNonce (datagram.drop zpiHdrLen) = some (nonce, message) ∧ snow.readMessage state nonce message = .ok plaintext

/-- The Noise key manager makes associations with the Noise codec only. -/
structure NoiseConfigured (asm : Mgmt.Assembly Transport Cert) : Prop where
  kmImpl : asm.kmImpl = .noise
  codec : ∀ link sa, establishedSa asm link = some sa → ∃ state encrNonce, sa.codec = .noise state encrNonce

/-- A packet handed to `forward()`, or dispatched with a link as anything other than key
management. -/
def Ingress.Passes (outcome : Ingress) (pkt : Packet) : Prop :=
  outcome = .forward pkt ∨
    (outcome = .dispatchedWithLink pkt ∧ pkt.body.head? ≠ some ZdpPacketType.keyManagement)

theorem Ingress.Passes.not_dropped {counter} : ¬ (Ingress.dropped counter).Passes pkt := by
  intro passes
  rcases passes with impossible | ⟨impossible, _⟩ <;> cases impossible

theorem Ingress.Passes.not_withAddr {dispatched} :
    ¬ (Ingress.dispatchedWithAddr peerSa interfaceAddr dispatched).Passes pkt := by
  intro passes
  rcases passes with impossible | ⟨impossible, _⟩ <;> cases impossible

theorem shrinkBy_ok {cnt} (shrunk : pkt.shrinkBy cnt = .ok next) :
    next.ingressLinkId = pkt.ingressLinkId ∧ next.body = pkt.body.take (pkt.body.length - cnt) := by
  obtain ⟨_, _, shrunk⟩ := bind_ok.mp shrunk
  cases shrunk
  exact ⟨rfl, rfl⟩

theorem put_link {data} (written : pkt.put data = .ok next) : next.ingressLinkId = pkt.ingressLinkId := by
  obtain ⟨_, _, written⟩ := bind_ok.mp written
  cases written
  rfl

theorem adopt_link {headerLen written} (adopted : pkt.adoptTailroomWithHeader headerLen written = .ok next) :
    next.ingressLinkId = pkt.ingressLinkId := by
  obtain ⟨_, _, adopted⟩ := bind_ok.mp adopted
  obtain ⟨_, _, adopted⟩ := bind_ok.mp adopted
  cases adopted
  rfl

theorem decryptNull_link (decrypted : decryptNull pkt = .ok (.ok next)) : next.ingressLinkId = pkt.ingressLinkId := by
  unfold decryptNull at decrypted
  split at decrypted
  · cases decrypted
  split at decrypted
  · cases decrypted
  obtain ⟨shrunk, done, decrypted⟩ := bind_ok.mp decrypted
  cases decrypted
  exact (shrinkBy_ok done).1

theorem decryptHmac_verifies {key} (decrypted : decryptHmac blake3 key pkt = .ok (.ok next)) :
    next.ingressLinkId = pkt.ingressLinkId ∧ zdpPacketMacSize ≤ pkt.body.length ∧
      pkt.body.drop (pkt.body.length - zdpPacketMacSize) =
        linkMac blake3 key (pkt.body.take (pkt.body.length - zdpPacketMacSize)) := by
  unfold decryptHmac at decrypted
  split at decrypted
  · cases decrypted
  rename_i long
  obtain ⟨shrunk, done, decrypted⟩ := bind_ok.mp decrypted
  obtain ⟨link, body⟩ := shrinkBy_ok done
  split at decrypted
  · cases decrypted
  rename_i same
  cases decrypted
  rw [body] at same
  exact ⟨link, by omega, (Decidable.not_not.mp same).symm⟩

theorem decryptFull_opens {codec padlen} (decrypted : decryptFull snow codec padlen pkt = .ok (.ok next)) :
    next.ingressLinkId = pkt.ingressLinkId ∧ ∃ room plaintext,
      codec.decryptTransportStateless snow (pkt.body.drop zpiHdrLen) room = .ok plaintext := by
  unfold decryptFull at decrypted
  dsimp only at decrypted
  iterate 2
    split at decrypted
    · cases decrypted
  split at decrypted
  all_goals
    split at decrypted
    on_goal 2 => cases decrypted
    rename_i plaintext opened
  · obtain ⟨adopted, done, decrypted⟩ := bind_ok.mp decrypted
    cases decrypted
    exact ⟨adopt_link done, _, plaintext, opened⟩
  · obtain ⟨shrunk, done, decrypted⟩ := bind_ok.mp decrypted
    obtain ⟨filled, written, decrypted⟩ := bind_ok.mp decrypted
    cases decrypted
    exact ⟨(put_link written).trans (shrinkBy_ok done).1, _, plaintext, opened⟩

theorem noise_opened {state encrNonce payload plaintext room}
    (opened : (Codec.noise state encrNonce).decryptTransportStateless snow payload room = .ok plaintext) :
    ∃ nonce message, splitNonce payload = some (nonce, message) ∧
      snow.readMessage state nonce message = .ok plaintext := by
  simp only [Codec.decryptTransportStateless] at opened
  generalize splitNonce payload = halves at opened ⊢
  cases halves with
  | none => cases opened
  | some halves =>
    obtain ⟨nonce, message⟩ := halves
    refine ⟨nonce, message, rfl, ?_⟩
    cases read : snow.readMessage state nonce message with
    | ok text =>
      simp only [Codec.decryptSplit, read] at opened
      exact congrArg ok (ok.inj opened)
    | error problem =>
      cases problem <;> simp [Codec.decryptSplit, read] at opened

section
variable (decrypted : decrypt blake3 snow asm zpiHdr pkt = .ok (.ok next))
include decrypted

/-- Without an association only ZPI zero is read. -/
theorem decrypt_established :
    (∃ sa, establishedSa asm pkt.ingressLinkId = some sa) ∨ zpiHdr.zpi = zpi0 ∨ pkt.ingressLinkId = linkIdUnknown := by
  unfold decrypt at decrypted
  cases established : establishedSa asm pkt.ingressLinkId with
  | some sa => exact .inl ⟨sa, rfl⟩
  | none =>
    simp only [established] at decrypted
    split at decrypted
    · cases decrypted
    rename_i allowed
    refine .inr ?_
    by_contra other
    exact allowed (not_or.mp other)

theorem decrypt_verifies (noise : NoiseConfigured asm) {sa} (established : establishedSa asm pkt.ingressLinkId = some sa)
    (first : pkt.body.head? = some zpiHdr.zpi) : MacVerifies blake3 sa pkt.body ∨ TagVerifies snow sa pkt.body := by
  unfold decrypt at decrypted
  simp only [established, decryptWithSa] at decrypted
  split at decrypted
  · rename_i zpi
    obtain ⟨_, long, mac⟩ := decryptHmac_verifies decrypted
    exact .inl ⟨by rw [first, zpi], long, mac⟩
  split at decrypted
  · rename_i zpi
    obtain ⟨_, room, plaintext, opened⟩ := decryptFull_opens decrypted
    obtain ⟨state, encrNonce, codec⟩ := noise.codec _ sa established
    rw [codec] at opened
    obtain ⟨nonce, message, split, read⟩ := noise_opened opened
    exact .inr ⟨by rw [first, zpi], state, encrNonce, nonce, message, plaintext, codec, split, read⟩
  · cases decrypted

theorem decrypt_link : next.ingressLinkId = pkt.ingressLinkId := by
  unfold decrypt decryptWithSa at decrypted
  split at decrypted
  · split at decrypted
    · exact (decryptHmac_verifies decrypted).1
    split at decrypted
    · exact (decryptFull_opens decrypted).1
    · cases decrypted
  · split at decrypted
    · cases decrypted
    · exact decryptNull_link decrypted

end

theorem ingressKnown_passes {passed} (done : ingressKnown zpiHdr pkt queueFull = .ok outcome) (passes : outcome.Passes passed) :
    passed.ingressLinkId = pkt.ingressLinkId ∧ zpiHdr.zpi ≠ zpi0 := by
  unfold ingressKnown at done
  cases based : pkt.readFromBuf ZdpBaseHeader.layout with
  | none =>
    simp only [based] at done
    cases done
    exact absurd passes Ingress.Passes.not_dropped
  | some found =>
    obtain ⟨baseHdr, rest⟩ := found
    obtain ⟨link, _⟩ := Packet.readFromBuf_some based
    simp only [based] at done
    split at done
    · cases done
      exact absurd passes Ingress.Passes.not_dropped
    rename_i allowed
    split at done
    · obtain ⟨pushed, restored, done⟩ := bind_ok.mp done
      obtain ⟨_, _, restored⟩ := bind_ok.mp restored
      cases restored
      cases queueFull with
      | true =>
        cases done
        exact absurd passes Ingress.Passes.not_dropped
      | false =>
        cases done
        rcases passes with impossible | ⟨same, other⟩
        · cases impossible
        cases same
        refine ⟨link, fun zero => allowed ⟨zero, fun key => other ?_⟩⟩
        simp [ZdpBaseHeader.layout, Layout.pair, Layout.via, Layout.u8, key]
    · rename_i transit
      cases flow : rest.readFromBuf ZdpPerFlowHeader.layout with
      | none =>
        simp only [flow] at done
        cases done
        exact absurd passes Ingress.Passes.not_dropped
      | some found =>
        obtain ⟨perFlowHdr, body⟩ := found
        obtain ⟨innerLink, _⟩ := Packet.readFromBuf_some flow
        simp only [flow] at done
        cases done
        rcases passes with same | ⟨impossible, _⟩
        · cases same
          refine ⟨innerLink.trans link, fun zero => allowed ⟨zero, ?_⟩⟩
          rw [Decidable.not_not.mp transit]
          decide
        · cases impossible

section
variable (done : ingressAttributed blake3 snow asm peerSa interfaceAddr pkt queueFull = .ok outcome)
include done

/-- The three ways a datagram can go: dropped, dispatched by address because the address is
unknown, or decrypted on its link and handed on. -/
theorem ingressAttributed_cases :
    (∃ counter, outcome = .dropped counter) ∨
    ∃ zpiHdr plain inner, pkt.body.head? = some zpiHdr.zpi ∧ decrypt blake3 snow asm zpiHdr pkt = .ok (.ok plain) ∧
      inner.ingressLinkId = plain.ingressLinkId ∧
      (inner.ingressLinkId = linkIdUnknown ∧ outcome = .dispatchedWithAddr peerSa interfaceAddr inner ∨
        inner.ingressLinkId ≠ linkIdUnknown ∧ ingressKnown zpiHdr inner queueFull = .ok outcome) := by
  unfold ingressAttributed at done
  cases headed : ZdpZpiHeader.layout.decode pkt.body with
  | none =>
    simp only [headed] at done
    exact .inl ⟨_, (ok.inj done).symm⟩
  | some found =>
    obtain ⟨zpiHdr, rest⟩ := found
    simp only [headed] at done
    obtain ⟨decrypted, decryption, done⟩ := bind_ok.mp done
    cases decrypted with
    | error problem => exact .inl ⟨_, (ok.inj done).symm⟩
    | ok plain =>
      dsimp only at done
      cases stripped : plain.readFromBuf ZdpZpiHeader.layout with
      | none =>
        simp only [stripped] at done
        exact .inl ⟨_, (ok.inj done).symm⟩
      | some found =>
        obtain ⟨_, inner⟩ := found
        obtain ⟨link, _⟩ := Packet.readFromBuf_some stripped
        simp only [stripped] at done
        have first : pkt.body.head? = some zpiHdr.zpi := by
          rw [ZdpZpiHeader.layout.decode_some.mp headed]
          rfl
        by_cases unknown : inner.ingressLinkId = linkIdUnknown
        · rw [if_pos unknown] at done
          cases queueFull with
          | true => exact .inl ⟨_, (ok.inj done).symm⟩
          | false => exact .inr ⟨zpiHdr, plain, inner, first, decryption, link, .inl ⟨unknown, (ok.inj done).symm⟩⟩
        · rw [if_neg unknown] at done
          exact .inr ⟨zpiHdr, plain, inner, first, decryption, link, .inr ⟨unknown, done⟩⟩

/-- What passes was decrypted under the association of the link it is attributed to. -/
theorem ingressAttributed_passes {passed} (passes : outcome.Passes passed) : passed.ingressLinkId = pkt.ingressLinkId ∧
      ∃ zpiHdr plain sa, pkt.body.head? = some zpiHdr.zpi ∧ decrypt blake3 snow asm zpiHdr pkt = .ok (.ok plain) ∧
        establishedSa asm pkt.ingressLinkId = some sa := by
  obtain ⟨counter, rfl⟩ | ⟨zpiHdr, plain, inner, first, decryption, innerLink, handed⟩ := ingressAttributed_cases done
  · exact absurd passes Ingress.Passes.not_dropped
  rw [decrypt_link decryption] at innerLink
  obtain ⟨unknown, rfl⟩ | ⟨known, done⟩ := handed
  · exact absurd passes Ingress.Passes.not_withAddr
  rw [innerLink] at known
  obtain ⟨passedLink, keyed⟩ := ingressKnown_passes done passes
  obtain ⟨sa, established⟩ | zero | unknown := decrypt_established decryption
  · exact ⟨passedLink.trans innerLink, zpiHdr, plain, sa, first, decryption, established⟩
  · exact absurd zero keyed
  · exact absurd unknown known

theorem ingressAttributed_unknown (unknown : pkt.ingressLinkId = linkIdUnknown) :
    (∃ counter, outcome = .dropped counter) ∨
      ∃ dispatched, outcome = .dispatchedWithAddr peerSa interfaceAddr dispatched := by
  obtain dropped | ⟨zpiHdr, plain, inner, _, decryption, innerLink, handed⟩ := ingressAttributed_cases done
  · exact .inl dropped
  obtain ⟨_, same⟩ | ⟨known, _⟩ := handed
  · exact .inr ⟨inner, same⟩
  · rw [innerLink, decrypt_link decryption] at known
    exact absurd unknown known

end

/-- A datagram from an unknown address is only ever dispatched by its address. Any other
packet that passes was authenticated under the association of the link it is attributed to. -/
theorem substrateIngress_authenticated (noise : NoiseConfigured asm) {peerSa : SubstrateAddr}
    {interfaceAddr : ScopedIpAddr} {pkt : Packet} {queueFull : Bool} {outcome : Ingress}
    (done : substrateIngress blake3 snow asm peerSa interfaceAddr pkt queueFull = .ok outcome) :
    (∀ passed, outcome.Passes passed → ∃ peer sa,
      passed.ingressLinkId = asm.peerTable.lookupPeer peerSa interfaceAddr ∧
      asm.peerTable.get passed.ingressLinkId = some peer ∧ peer.transportSa = some sa ∧
      (MacVerifies blake3 sa pkt.body ∨ TagVerifies snow sa pkt.body)) ∧
    (asm.peerTable.lookupPeer peerSa interfaceAddr = linkIdUnknown → (∃ counter, outcome = .dropped counter) ∨
      ∃ dispatched, outcome = .dispatchedWithAddr peerSa interfaceAddr dispatched) := by
  refine ⟨fun passed passes => ?_, fun unknown => ingressAttributed_unknown done unknown⟩
  obtain ⟨link, zpiHdr, plain, sa, first, decryption, established⟩ := ingressAttributed_passes done passes
  obtain ⟨peer, present, holds⟩ := Option.bind_eq_some_iff.mp established
  have verified := decrypt_verifies decryption noise established first
  rw [← link] at present
  exact ⟨peer, sa, link, present, holds, verified⟩

/-- A stand-in for the hash whose MACs are all zero. -/
def zeroHash : Blake3 where
  hash _ := .replicate 32 0
  keyedHash _ _ := .replicate 32 0

/-- A stand-in for the Noise library that opens nothing. -/
def closedTransport : StatelessTransport Unit where
  writeMessage _ _ _ := .error .input
  readMessage _ _ _ := .error .decrypt

def sampleSa : KmTransportSA Unit Unit where
  saId := 1
  recvZpis := ⟨2, 3⟩
  sendZpis := ⟨4, 5⟩
  sendHmacKey := .replicate 32 1
  recvHmacKey := .replicate 32 2
  codec := .noise () 0
  peerCert := none

def sampleAddr : SubstrateAddr := .v4 #v[192, 0, 2, 1] 5000
def sampleInterface : ScopedIpAddr := .v4 #v[192, 0, 2, 2]

/-- One link with an established association. -/
def samplePeers : Mgmt.Assembly Unit Unit where
  peerTable := {
    peerSlab := AList.insert 1 {
      session := 0
      substrateAddr := sampleAddr
      interfaceAddr := sampleInterface
      transportSa := some sampleSa
      kmRx := none
      zdprSend := .new
      zdprRecv := ⟨32, BitVec.allOnes 64, BitVec.allOnes 64, BitVec.allOnes 64, fun _ => 0⟩
      mgmtProcessor := .new 16 } ∅
    saToLink := AList.insert (sampleAddr, sampleInterface) ⟨1, by decide⟩ ∅ }
  kmImpl := .noise
  kmType _ := .noise
  kmLinkQueueSize := 4
  mgmtSubstrateEgress := []

theorem samplePeers_noise : NoiseConfigured samplePeers := by
  refine ⟨rfl, fun link sa established => ?_⟩
  obtain ⟨peer, present, holds⟩ := Option.bind_eq_some_iff.mp established
  have only : peer.transportSa = some sampleSa := by
    simp only [PeerTable.get, samplePeers, Table.get_insert, Table.get_empty] at present
    grind
  rw [only] at holds
  cases holds
  exact ⟨(), 0, rfl⟩

/-- A transit packet of one byte in stream 7, under the HMAC ZPI. -/
def sampleTransit : Packet where
  headroom := 0
  body := [3, 0, 0, 0, 0, 0, 7, 9] ++ List.replicate 8 0
  tailroom := 64
  fiveTuple := ⟨.newFromV4 (.replicate 4 0), .newFromV4 (.replicate 4 0), .ipv4, 0, 0, 0⟩
  ingressLaneId := 0
  ingressLinkId := 0
  ingressStreamId := 0

theorem substrateIngress_sample : ∃ passed peer sa,
    substrateIngress zeroHash closedTransport samplePeers sampleAddr sampleInterface sampleTransit false =
      .ok (.forward passed) ∧
    NoiseConfigured samplePeers ∧ passed.ingressLinkId = 1 ∧ samplePeers.peerTable.get 1 = some peer ∧
    peer.transportSa = some sa ∧
    (MacVerifies zeroHash sa sampleTransit.body ∨ TagVerifies closedTransport sa sampleTransit.body) := by
  have done : substrateIngress zeroHash closedTransport samplePeers sampleAddr sampleInterface sampleTransit false =
      .ok (.forward { sampleTransit with
        headroom := 7, body := [9], tailroom := 72, ingressLinkId := 1, ingressStreamId := 7 }) := rfl
  obtain ⟨peer, sa, link, present, holds, verifies⟩ :=
    (substrateIngress_authenticated samplePeers_noise done).1 _ (.inl rfl)
  exact ⟨_, peer, sa, done, samplePeers_noise, rfl, present, holds, verifies⟩

end ZprCore.Datapath.Substrate
