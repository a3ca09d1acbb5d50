import ZprCore.Proofs.Ingress
import ZprCore.Proofs.KmNoise

/-! The ZPIs a packet is sent under are chosen by the peer. Egress asserts that they are not
zero; the key manager takes any. -/

namespace ZprCore.Datapath.Substrate
open Mgmt Km ZdpPacketType OpenState NoiseParty

variable {HandshakeState Transport Cert Key : Type} {blake3 : Blake3} {transport}
  {asm : Mgmt.Assembly Transport Cert} {link : LinkId} {sa}

/-- The assertion of egress about its ZPI. -/
def zpiPanic : Panic := .assertion "real_zpi != ZPI_0"

/-- A computation does not fail with the assertion of egress. -/
def Spares {α : Type} (x : Except Panic α) : Prop := Panic.Meets (· ≠ zpiPanic) (fun _ => True) x

namespace Spares
variable {α β : Type} {f : α → Except Panic β}

theorem bind {x} (first : Spares x) (rest : ∀ value, Spares (f value)) : Spares (x >>= f) :=
  Panic.Meets.bind first fun value _ => rest value

theorem ok (value : α) : Spares (Except.ok value) := trivial

theorem check {condition text} (other : text ≠ "real_zpi != ZPI_0") : Spares (Panic.check condition text) := by
  refine (Panic.Meets.check ?_).mono fun _ _ => trivial
  intro same
  exact other (Panic.assertion.inj same)

theorem pushHeader (pkt : Packet) (header : List UInt8) : Spares (pkt.pushHeader header) := by
  apply bind (check (by decide))
  exact fun _ => ok _

theorem put (pkt : Packet) (data : List UInt8) : Spares (pkt.put data) := by
  apply bind (check (by decide))
  exact fun _ => ok _

theorem shrinkBy (pkt : Packet) (cnt : Nat) : Spares (pkt.shrinkBy cnt) := by
  apply bind (check (by decide))
  exact fun _ => ok _

theorem adoptTailroomWithHeader (pkt : Packet) (headerLen : Nat) (written : List UInt8) :
    Spares (pkt.adoptTailroomWithHeader headerLen written) := by
  apply bind (check (by decide))
  intro _
  apply bind (check (by decide))
  exact fun _ => ok _

theorem encryptTransportStateless (codec : Codec Transport) (payload : List UInt8) (room : Nat) :
    Spares (codec.encryptTransportStateless transport payload room) := by
  cases codec with
  | noise state nonce =>
    simp only [Codec.encryptTransportStateless]
    split
    · exact ok _
    · exact ok _
    · intro same
      exact absurd (Panic.assertion.inj same) (by decide)
  | null => exact ok _
  | unimpl => exact ok _

theorem encryptFull (codec : Codec Transport) (pkt : Packet) : Spares (encryptFull transport codec pkt) := by
  unfold Substrate.encryptFull
  split
  · exact ok _
  dsimp only
  split
  all_goals
    apply bind (encryptTransportStateless _ _ _)
    rintro ⟨problem | ciphertext, codec⟩
    · exact ok _
  · exact bind (adoptTailroomWithHeader _ _ _) fun _ => ok _
  · exact bind (shrinkBy _ _) fun _ => bind (put _ _) fun _ => ok _

theorem egressEncrypt (transportSa) (transit : Bool) (pkt : Packet) :
    Spares (egressEncrypt blake3 transport asm link transportSa transit pkt) := by
  unfold Substrate.egressEncrypt
  split
  · exact bind (put _ _) fun _ => ok _
  split
  · exact bind (put _ _) fun _ => ok _
  · exact bind (encryptFull _ _) fun _ => ok _

/-- Only the first part can fail with the assertion. -/
theorem bind_iff {x} (rest : ∀ value, Spares (f value)) : (x >>= f) = .error zpiPanic ↔ x = .error zpiPanic := by
  cases x with
  | error problem => exact ⟨fun same => congrArg _ (Except.error.inj same), fun same => congrArg _ (Except.error.inj same)⟩
  | ok value => exact ⟨fun failed => absurd rfl ((rest value).of_error failed), nofun⟩

end Spares

theorem egressZpi_panics_iff {transportSa : Option (KmTransportSA Transport Cert)} {transit} :
    egressZpi transportSa transit = .error zpiPanic ↔
      ∃ sa, transportSa = some sa ∧ (if transit then sa.sendZpis.hmac else sa.sendZpis.encr) = zpi0 := by
  cases transportSa with
  | none => exact ⟨nofun, nofun⟩
  | some sa =>
    refine (Spares.bind_iff fun _ => Spares.ok _).trans ?_
    simp only [Option.some.injEq, exists_eq_left']
    generalize (if transit = true then sa.sendZpis.hmac else sa.sendZpis.encr) = zpi
    unfold Panic.check
    split
    · rename_i other
      exact ⟨nofun, fun zero => absurd zero (of_decide_eq_true other)⟩
    · rename_i zero
      exact ⟨fun _ => not_not.mp fun other => zero (decide_eq_true other), fun _ => rfl⟩

/-- The assertion fails for a packet of a link with an association, on account of the ZPI for
packets of its kind. Key management is sent without the association. -/
theorem egressCommon_panics_iff (pkt : Packet) :
    substrateEgressCommon blake3 transport asm link pkt = .error zpiPanic ↔ ∃ zdpHdr rest peer sa,
      ZdpBaseHeader.layout.decode pkt.body = some (zdpHdr, rest) ∧ asm.peerTable.get link = some peer ∧
      zdpHdr.packetType ≠ keyManagement ∧ peer.transportSa = some sa ∧
      (if zdpHdr.packetType = transitPacket then sa.sendZpis.hmac else sa.sendZpis.encr) = zpi0 := by
  unfold substrateEgressCommon
  cases decoded : ZdpBaseHeader.layout.decode pkt.body with
  | none =>
    refine ⟨nofun, fun panics => ?_⟩
    obtain ⟨_, _, _, _, impossible, _⟩ := panics
    cases impossible
  | some found =>
    obtain ⟨zdpHdr, rest⟩ := found
    dsimp only
    cases present : asm.peerTable.get link with
    | none =>
      refine ⟨nofun, fun panics => ?_⟩
      obtain ⟨_, _, _, _, _, impossible, _⟩ := panics
      cases impossible
    | some peer =>
      dsimp only
      refine (Spares.bind_iff fun zpi => ?_).trans (egressZpi_panics_iff.trans ?_)
      · apply Spares.bind (Spares.pushHeader _ _)
        intro pkt
        apply Spares.bind (Spares.egressEncrypt _ _ _)
        intro (encrypted, asm)
        cases encrypted <;> exact Spares.ok _
      · unfold egressSa
        constructor
        · intro panics
          obtain ⟨sa, chosen, zero⟩ := panics
          split at chosen
          · cases chosen
          · rename_i other
            exact ⟨zdpHdr, rest, peer, sa, rfl, rfl, other, chosen, by simpa using zero⟩
        · intro panics
          obtain ⟨hdr, tail, found, sa, same, same', other, chosen, zero⟩ := panics
          cases same
          cases same'
          rw [if_neg other]
          exact ⟨sa, chosen, by simpa using zero⟩

/-- The peer at a link has an association, up to its number and the nonces it has used. -/
def Installed (asm : Mgmt.Assembly Transport Cert) (link : LinkId) (sa : KmTransportSA Transport Cert) : Prop :=
  ∃ peer saId codec, asm.peerTable.get link = some peer ∧ peer.transportSa = some { sa with saId, codec }

/-- A packet with nothing but a base header. -/
def barePacket (packetType : ZdpPacketType) : Packet :=
  { sampleTransit with body := ZdpBaseHeader.layout.encode ⟨packetType, 0⟩ }

theorem barePacket_panics (installed : Installed asm link sa) (packetType : ZdpPacketType)
    (other : packetType ≠ keyManagement)
    (zero : (if packetType = transitPacket then sa.sendZpis.hmac else sa.sendZpis.encr) = zpi0) :
    substrateEgressCommon blake3 transport asm link (barePacket packetType) = .error zpiPanic := by
  obtain ⟨peer, saId, codec, present, holds⟩ := installed
  apply (egressCommon_panics_iff _).mpr
  exact ⟨⟨packetType, 0⟩, [], peer, _, ZdpBaseHeader.layout.decode_some.mpr (List.append_nil _).symm, present, other,
    holds, zero⟩

/-- Transit packets use one ZPI and everything else the other, so both have to be good. -/
theorem egress_spared_iff (installed : Installed asm link sa) :
    (∀ pkt, substrateEgressCommon blake3 transport asm link pkt ≠ .error zpiPanic) ↔
      sa.sendZpis.encr ≠ zpi0 ∧ sa.sendZpis.hmac ≠ zpi0 := by
  constructor
  · intro spared
    constructor
    · intro zero
      exact spared _ (barePacket_panics installed discard (by decide) zero)
    · intro zero
      exact spared _ (barePacket_panics installed transitPacket (by decide) zero)
  · intro good pkt panics
    obtain ⟨peer, saId, codec, present, holds⟩ := installed
    obtain ⟨zdpHdr, _, peer', sa', _, present', _, holds', zero⟩ := (egressCommon_panics_iff pkt).mp panics
    rw [present] at present'
    cases present'
    rw [holds] at holds'
    cases holds'
    split at zero
    · exact good.2 zero
    · exact good.1 zero

/-- The message that establishes a security association decides whether a packet can make
egress panic: none can if neither of its first two bytes is zero. -/
theorem established_egress_spared_iff {snow : Snow HandshakeState Transport} {pki : Pki Cert Key}
    (follows : snow.Follows 3) {initiate verifyCert : Bool} {localKeypair : NoiseKeypair} {zpis : ZPIPair}
    {certx : KmCertExchange Cert} {events : List NoiseEvent} {p : NoiseParty HandshakeState Transport Cert}
    (run : Runs.Run (NoiseParty.step snow pki) (fun _ _ => True) (.new initiate verifyCert localKeypair zpis certx)
      events p)
    {message payload : List UInt8} {hs read : HandshakeState} {kmImpl : KmId} {now : Nat}
    {reply : Option (List UInt8)} {machine : KmNoise HandshakeState Transport Cert} {sa : KmTransportSA Transport Cert}
    (configuring : p.machine.state = .configuring) (held : p.machine.hsState = some hs)
    (opened : snow.readMessage hs message = .ok (payload, read))
    (handled : p.machine.handleMessage snow pki message kmImpl now = .ok (.ok reply, machine))
    (established : machine.state = .transport sa) (installed : Installed asm link sa) :
    (∀ pkt, substrateEgressCommon blake3 transport asm link pkt ≠ .error zpiPanic) ↔
      payload[0]? ≠ some 0 ∧ payload[1]? ≠ some 0 := by
  have synced := run_synced follows run
  obtain ⟨km, rest, decoded, sendZpis⟩ :=
    established_carries synced follows configuring held opened handled established
  have bytes : payload = km.zpiFullEncr :: km.zpiTransitHmac :: (km.hmacKey.toList ++ rest) :=
    KeyMsg.layout.decode_some.mp decoded
  rw [egress_spared_iff installed, sendZpis, bytes]
  simp only [List.getElem?_cons_zero, List.getElem?_cons_succ, ne_eq, Option.some.injEq]
  rfl

/-- No certificates at all. -/
def noPki : Pki Unit Unit where
  fromDer _ := none
  toDer _ := none
  publicKey _ := ()
  rawBytes _ := []
  verify _ _ := none

/-- A responder without certificates. -/
def sampleResponder : NoiseParty OpenState Unit Unit :=
  .new false false (NoiseParty.sampleKeypair 9) ⟨5, 6⟩ ⟨none, none⟩

/-- The third message of a handshake, from a peer that asks for the given ZPIs. -/
def sampleThird (zpis : ZPIPair) : List UInt8 :=
  List.replicate 32 7 ++ KeyMsg.layout.encode ⟨zpis.encr, zpis.hmac, .replicate 32 1⟩ ++ [0, 0]

def sampleHandshake : List NoiseEvent := [.reset (.replicate 32 3) 0 0, .message (List.replicate 32 7) .noise 1]

/-- The association installed at link 1. -/
def withSa (sa : KmTransportSA Unit Unit) : Mgmt.Assembly Unit Unit :=
  { samplePeers with peerTable := samplePeers.peerTable.setSecurityAssociation 1 (some { sa with saId := 1 }) }

theorem established_egress_spared_sample : ∃ (p : NoiseParty OpenState Unit Unit)
    (machine : KmNoise OpenState Unit Unit) (sa : KmTransportSA Unit Unit),
    Runs.Run (NoiseParty.step OpenState.openSnow noPki) (fun _ _ => True) sampleResponder sampleHandshake p ∧
    p.machine.handleMessage OpenState.openSnow noPki (sampleThird ⟨3, 4⟩) .noise 2 = .ok (.ok none, machine) ∧
    machine.state = .transport sa ∧
    ∀ pkt, substrateEgressCommon zeroHash closedTransport (withSa sa) 1 pkt ≠ .error zpiPanic := by
  obtain ⟨p, hs, read, machine, sa, run, configuring, held, opened, handled, established, installed⟩ : ∃ p hs read machine sa,
      Runs.Run (step openSnow noPki) (fun _ _ => True) sampleResponder sampleHandshake p ∧
      p.machine.state = .configuring ∧ p.machine.hsState = some hs ∧
      openSnow.readMessage hs (sampleThird ⟨3, 4⟩) = .ok ((sampleThird ⟨3, 4⟩).drop 32, read) ∧
      p.machine.handleMessage openSnow noPki (sampleThird ⟨3, 4⟩) .noise 2 = .ok (.ok none, machine) ∧
      machine.state = .transport sa ∧ Installed (withSa sa) 1 sa :=
    ⟨_, _, _, _, _, .cons trivial rfl (.cons trivial rfl (.nil _)), rfl, rfl, rfl, rfl, rfl, _, 1, _, rfl, rfl⟩
  refine ⟨p, machine, sa, run, handled, established, ?_⟩
  exact (established_egress_spared_iff openSnow_follows run configuring held opened handled established
    installed).mpr (by decide)

/-- A peer asks for ZPI zero, and the next management packet panics. -/
theorem established_egress_panics : ∃ (p : NoiseParty OpenState Unit Unit) (machine : KmNoise OpenState Unit Unit)
    (sa : KmTransportSA Unit Unit),
    Runs.Run (NoiseParty.step OpenState.openSnow noPki) (fun _ _ => True) sampleResponder sampleHandshake p ∧
    p.machine.handleMessage OpenState.openSnow noPki (sampleThird ⟨0, 4⟩) .noise 2 = .ok (.ok none, machine) ∧
    machine.state = .transport sa ∧
    substrateEgressCommon zeroHash closedTransport (withSa sa) 1 (barePacket ZdpPacketType.discard) =
      .error (.assertion "real_zpi != ZPI_0") :=
  ⟨_, _, _, .cons trivial rfl (.cons trivial rfl (.nil _)), rfl, rfl, rfl⟩

end ZprCore.Datapath.Substrate
