import ZprCore.Datapath.LinkCrypto
import ZprCore.Proofs.Messages

/-! Encryption in the buffer of a packet and by way of a scratch buffer come to the same body,
and decryption restores the body. -/

namespace ZprCore.Datapath
open Slices Panic List Nat LinkCrypto NullCodec Except Buffer OnesComplement

namespace Packet
variable {pkt : Packet}

theorem shrinkBy_fits {cnt} (long : cnt ≤ pkt.body.length) : ∃ next, pkt.shrinkBy cnt = .ok next ∧
    next.body = pkt.body.take (pkt.body.length - cnt) ∧ next.tailroom = pkt.tailroom + cnt := by
  simp only [shrinkBy, Panic.check, long, decide_true, if_true]
  exact ⟨_, rfl, rfl, rfl⟩

theorem adoptTailroomWithHeader_fits {headerLen written} (long : headerLen ≤ pkt.body.length)
    (room : written.length ≤ pkt.tailroom) : ∃ next, pkt.adoptTailroomWithHeader headerLen written = .ok next ∧
      next.body = pkt.body.take headerLen ++ written := by
  simp only [adoptTailroomWithHeader, Panic.check, long, room, decide_true, if_true]
  exact ⟨_, rfl, rfl⟩

end Packet

namespace Buffer
variable {minBodyOffset : Nat} {b c : Buffer minBodyOffset} {md : Packet}

theorem body_length (b : Buffer minBodyOffset) : b.body.length = b.len := slice_length b.inside

theorem tailroom_length (b : Buffer minBodyOffset) : b.tailroom.length = b.tailroomAvailable := length_drop

/-- The packet in a buffer, with its further metadata. -/
def packet (md : Packet) (b : Buffer minBodyOffset) : Packet :=
  { md with headroom := b.headroomAvailable, body := b.body, tailroom := b.tailroomAvailable }

theorem packet_eq {pkt} (headroom : c.headroomAvailable = pkt.headroom) (body : c.body = pkt.body)
    (tailroom : c.tailroomAvailable = pkt.tailroom) (same : packet md c = packet pkt c) : packet md c = pkt := by
  rw [same, packet, headroom, body, tailroom]

theorem packet_shrinkBy (b : Buffer minBodyOffset) (cnt : Nat) :
    packet md <$> b.shrinkBy cnt = (b.packet md).shrinkBy cnt := by
  rw [shrinkBy, Packet.shrinkBy, show (b.packet md).body = b.body from rfl, body_length]
  by_cases less : cnt ≤ b.len
  · rw [if_pos less, check_bind less]
    refine congrArg ok (packet_eq rfl ?_ ?_ rfl)
    · exact (take_slice (sub_le _ _)).symm
    have room := b.inside
    simp only [packet, tailroomAvailable]
    omega
  · rw [if_neg less, Panic.check, if_neg (by simpa using less)]
    rfl

theorem packet_put (b : Buffer minBodyOffset) (data : List UInt8) : packet md <$> b.put data = (b.packet md).put data := by
  rw [put, Packet.put, show (b.packet md).tailroom = b.tailroomAvailable from rfl]
  by_cases fits : data.length ≤ b.tailroomAvailable
  · have room := b.inside
    have inside : b.offset + b.len + data.length ≤ b.buf.length := by
      rw [tailroomAvailable] at fits
      omega
    rw [dif_pos fits, check_bind fits]
    refine congrArg ok (packet_eq rfl ?_ ?_ rfl)
    · simp only [body, packet]
      rw [slice_add, slice_patch_apart inside (.inl (le_refl _)), slice_patch_self inside]
    simp only [tailroomAvailable]
    rw [patch_length inside]
    omega
  · rw [dif_neg fits, Panic.check, if_neg (by simpa using fits)]
    rfl

/-- The header fits where it is moved to. -/
theorem moved_inside {headerLen} (whole : headerLen ≤ b.len) : (slice b.buf b.offset headerLen).length = headerLen ∧
    b.offset + b.len - headerLen + (slice b.buf b.offset headerLen).length ≤ b.buf.length := by
  have room := b.inside
  have moved : (slice b.buf b.offset headerLen).length = headerLen := slice_length (by omega)
  exact ⟨moved, by omega⟩

/-- The header is moved as a whole, also where its old and its new place overlap. -/
theorem adoptTailroomWithHeader_ok {headerLen written} (whole : headerLen ≤ b.len) (fits : written ≤ b.tailroomAvailable) :
    ∃ c, b.adoptTailroomWithHeader headerLen written = .ok c ∧
      c.buf = patch b.buf (b.offset + b.len - headerLen) (slice b.buf b.offset headerLen) ∧
      c.offset = b.offset + b.len - headerLen ∧ c.len = headerLen + written := by
  have above := b.above
  have room := b.inside
  rw [adoptTailroomWithHeader, check_bind whole, check_bind fits]
  rw [tailroomAvailable] at fits
  obtain ⟨moved, inside⟩ := moved_inside whole
  simp only [copyWithin, Nat.add_sub_cancel_left]
  rw [dif_pos (by omega), ok_bind]
  simp only [setBodyExtent, patch_length inside]
  rw [dif_pos (by omega), dif_pos (by omega), dif_pos (by omega)]
  exact ⟨_, rfl, rfl, rfl, rfl⟩

/-- The output behind the new place of the header stays. -/
theorem packet_adoptTailroomWithHeader (headerLen : Nat) {output} (written : b.tailroom.take output.length = output) :
    packet md <$> b.adoptTailroomWithHeader headerLen output.length = (b.packet md).adoptTailroomWithHeader headerLen output := by
  have room := b.inside
  have fits : output.length ≤ b.tailroomAvailable := by
    have short := congrArg length written
    rw [length_take, tailroom_length] at short
    omega
  rw [Packet.adoptTailroomWithHeader, show (b.packet md).tailroom = b.tailroomAvailable from rfl,
    show (b.packet md).body = b.body from rfl, body_length]
  by_cases whole : headerLen ≤ b.len
  · obtain ⟨c, adopted, buf, offset, len⟩ := adoptTailroomWithHeader_ok whole fits
    rw [adopted, check_bind whole, check_bind fits]
    rw [tailroomAvailable] at fits
    obtain ⟨moved, inside⟩ := moved_inside whole
    refine congrArg ok (packet_eq ?_ ?_ ?_ rfl)
    · have above := b.above
      simp only [headroomAvailable, offset, packet]
      omega
    · have header := slice_patch_self inside
      rw [moved] at header
      rw [body, buf, offset, len, slice_add, header, slice_patch_apart inside (.inr (by omega)), Nat.sub_add_cancel (by omega)]
      exact congrArg₂ _ (take_slice whole).symm written
    · rw [tailroomAvailable, buf, offset, len, patch_length inside]
      simp only [tailroomAvailable]
      omega
  · rw [adoptTailroomWithHeader, Panic.check, if_neg (by simpa using whole)]
    rfl

instance : Inhabited Packet :=
  ⟨⟨0, [], 0, ⟨.newFromV4 (.replicate 4 0), .newFromV4 (.replicate 4 0), .ipv4, 0, 0, 0⟩, 0, 0, 0⟩⟩

theorem exists_of_packet {x : Except Panic (Buffer minBodyOffset)} {pkt} (same : packet md <$> x = .ok pkt) :
    ∃ c, x = .ok c ∧ packet md c = pkt := by
  cases x with
  | error reason => cases same
  | ok c => exact ⟨c, rfl, ok.inj same⟩

theorem adoptTailroomWithHeader_body {headerLen : Nat} {output} (long : headerLen ≤ b.len)
    (written : b.tailroom.take output.length = output) :
    ∃ c, b.adoptTailroomWithHeader headerLen output.length = .ok c ∧ c.body = b.body.take headerLen ++ output := by
  have fits : output.length ≤ b.tailroomAvailable := by
    rw [← tailroom_length, ← written, length_take]
    exact min_le_right _ _
  obtain ⟨pkt, returned, body⟩ := @Packet.adoptTailroomWithHeader_fits (b.packet default) _ _
    (long.trans_eq b.body_length.symm) fits
  obtain ⟨c, adopted, same⟩ := exists_of_packet ((packet_adoptTailroomWithHeader headerLen written).trans returned)
  exact ⟨c, adopted, (congrArg Packet.body same).trans body⟩

theorem shrinkBy_put_body {headerLen : Nat} {data} (long : headerLen ≤ b.len)
    (fits : data.length ≤ b.tailroomAvailable + (b.len - headerLen)) :
    ∃ shrunk c, b.shrinkBy (b.len - headerLen) = .ok shrunk ∧ shrunk.put data = .ok c ∧
      c.body = b.body.take headerLen ++ data := by
  obtain ⟨pkt, returned, front, room⟩ := @Packet.shrinkBy_fits (b.packet default) (b.len - headerLen)
    ((Nat.sub_le _ _).trans_eq b.body_length.symm)
  obtain ⟨shrunk, shrink, same⟩ := exists_of_packet ((packet_shrinkBy b _).trans returned)
  obtain ⟨next, put, _, body, _⟩ := @Packet.put_fits (shrunk.packet default) data (by rw [same, room]; exact fits)
  obtain ⟨c, copied, final⟩ := exists_of_packet ((packet_put shrunk data).trans put)
  refine ⟨shrunk, c, shrink, copied, (congrArg Packet.body final).trans ?_⟩
  rw [body, same, front, show (b.packet default).body = b.body from rfl, body_length, Nat.sub_sub_self long]

theorem setTailroom_body (tailroom : List UInt8) (same : tailroom.length = b.tailroom.length) :
    (b.setTailroom tailroom same).body = b.body := by
  refine slice_patch_apart ?_ (.inl (le_refl _))
  have room := b.inside
  rw [same, tailroom_length, tailroomAvailable]
  omega

theorem setTailroom_tailroom (tailroom : List UInt8) (same : tailroom.length = b.tailroom.length) :
    (b.setTailroom tailroom same).tailroom = tailroom := by
  have room := b.inside
  have front : (b.buf.take (b.offset + b.len)).length = b.offset + b.len := length_take_of_le room
  have rest : b.buf.length ≤ b.offset + b.len + tailroom.length := by
    rw [same, tailroom_length, tailroomAvailable]
    omega
  change (patch b.buf (b.offset + b.len) tailroom).drop (b.offset + b.len) = tailroom
  rw [patch, append_assoc, drop_left' front, drop_eq_nil_of_le rest, append_nil]

end Buffer

open Substrate (zpiHdrLen)

/-- A result fits if its output does or, where there is none, if the longest output would. -/
def Fits (limit room : Nat) : Option (List UInt8) → Prop
  | some out => out.length ≤ room
  | none => limit ≤ room

/-- A codec reports its result, and leaves its output at the start of the buffer. -/
def Writes {ε : Type} {message : List UInt8} (output : Output ε message) : Option (List UInt8) → Prop
  | some out => ∃ after, output = .ok (.ok out.length, after) ∧ after.1.take out.length = out
  | none => ∃ problem after, output = .ok (.error problem, after)

/-- The contract of a codec, whose receiver expects `padlen` bytes besides the payload. -/
structure DynCodec.Meets (codec : DynCodec) (padlen : Nat) (encrypted decrypted : List UInt8 → Option (List UInt8)) :
    Prop where
  encrypts : ∀ payload message, Fits (payload.length + codec.maxOverhead) message.length (encrypted payload) →
    Writes (codec.encryptTransportStateless payload message) (encrypted payload)
  decrypts : ∀ payload message, Fits payload.length message.length (decrypted payload) →
    Writes (codec.decryptTransportStateless payload message) (decrypted payload)
  overhead : ∀ payload cipher, encrypted payload = some cipher → cipher.length ≤ payload.length + codec.maxOverhead
  padded : ∀ payload cipher, encrypted payload = some cipher → padlen ≤ cipher.length
  inverts : ∀ payload cipher, encrypted payload = some cipher → decrypted cipher = some payload
  shrinks : ∀ cipher payload, decrypted cipher = some payload → payload.length ≤ cipher.length

namespace LinkCrypto
variable {minBodyOffset : Nat} {b : Buffer minBodyOffset} {ε : Type}

/-- The body is replaced up to its ZPI header, or stays as it is if there is no output. -/
def Carries (b : Buffer minBodyOffset) (outcome : Except Panic (Except ε Unit × Buffer minBodyOffset)) :
    Option (List UInt8) → Prop
  | some out => ∃ c, outcome = .ok (.ok (), c) ∧ c.body = b.body.take zpiHdrLen ++ out
  | none => ∃ problem c, outcome = .ok (.error problem, c) ∧ c.body = b.body

variable {transform : (payload message : List UInt8) → Output ε message} {result}

theorem inPlace_carries (zpi : zpiHdrLen ≤ b.len) (writes : Writes (transform (b.body.drop zpiHdrLen) b.tailroom) result) :
    Carries b (inPlace transform b) result := by
  unfold inPlace
  cases result with
  | none =>
    obtain ⟨problem, after, returned⟩ := writes
    rw [returned]
    exact ⟨problem, _, rfl, setTailroom_body _ _⟩
  | some out =>
    obtain ⟨after, returned, start⟩ := writes
    obtain ⟨c, adopted, body⟩ := @Buffer.adoptTailroomWithHeader_body _ (b.setTailroom after.1 after.2) zpiHdrLen out zpi (by
      rw [setTailroom_tailroom]
      exact start)
    rw [setTailroom_body] at body
    refine ⟨c, ?_, body⟩
    rw [returned, ok_bind]
    dsimp only
    rw [adopted, ok_bind]
    rfl

theorem viaScratch_carries (zpi : zpiHdrLen ≤ b.len)
    (writes : Writes (transform (b.body.drop zpiHdrLen) (replicate packetBufferSize 0)) result)
    (room : ∀ out, result = some out → out.length ≤ b.tailroomAvailable + (b.len - zpiHdrLen)) :
    Carries b (viaScratch transform b) result := by
  unfold viaScratch
  cases result with
  | none =>
    obtain ⟨problem, after, returned⟩ := writes
    rw [returned]
    exact ⟨problem, b, rfl, rfl⟩
  | some out =>
    obtain ⟨after, returned, start⟩ := writes
    obtain ⟨shrunk, c, shrink, put, body⟩ := shrinkBy_put_body zpi (room out rfl)
    have whole : out.length ≤ after.1.length := by
      rw [← start, length_take]
      exact min_le_right _ _
    refine ⟨c, ?_, body⟩
    rw [returned, ok_bind]
    dsimp only
    rw [shrink, ok_bind, slicePrefix, if_pos whole, ok_bind, start, put, ok_bind]
    rfl

theorem Carries.decryptionFailure {outcome} (carries : Carries b outcome result) :
    Carries b (do let (result, b) ← outcome; return (decryptionFailure result, b)) result := by
  cases result with
  | none =>
    obtain ⟨problem, c, rfl, body⟩ := carries
    exact ⟨.decryptionFailure, c, rfl, body⟩
  | some out =>
    obtain ⟨c, rfl, body⟩ := carries
    exact ⟨c, rfl, body⟩

/-- The body after encryption, which way ever it is done. -/
structure Encrypts (codec : DynCodec) (b : Buffer minBodyOffset) (result : Option (List UInt8)) : Prop where
  full : Carries b (encryptFull codec b) result
  inPlace : b.len - zpiHdrLen + codec.maxOverhead ≤ b.tailroomAvailable →
    Carries b (inPlace codec.encryptTransportStateless b) result
  viaScratch : Carries b (viaScratch codec.encryptTransportStateless b) result

/-- The body after decryption, which way ever it is done. -/
structure Decrypts (codec : DynCodec) (padlen : Nat) (b : Buffer minBodyOffset) (result : Option (List UInt8)) : Prop where
  full : padlen ≤ b.len - zpiHdrLen → Carries b (decryptFull codec padlen b) result
  inPlace : b.len - zpiHdrLen ≤ b.tailroomAvailable → Carries b (inPlace codec.decryptTransportStateless b) result
  viaScratch : Carries b (viaScratch codec.decryptTransportStateless b) result

section Contract
variable {codec : DynCodec} {padlen : Nat} {encrypted decrypted}

theorem payload_length (b : Buffer minBodyOffset) : (b.body.drop zpiHdrLen).length = b.len - zpiHdrLen := by
  rw [length_drop, b.body_length]

section
variable (meets : codec.Meets padlen encrypted decrypted) (zpi : zpiHdrLen ≤ b.len)
include meets zpi

theorem encrypts (room : codec.maxOverhead ≤ b.tailroomAvailable)
    (scratch : Fits (b.len - zpiHdrLen + codec.maxOverhead) packetBufferSize (encrypted (b.body.drop zpiHdrLen))) :
    Encrypts codec b (encrypted (b.body.drop zpiHdrLen)) := by
  have overhead cipher (same : encrypted (b.body.drop zpiHdrLen) = some cipher) :
      cipher.length ≤ b.len - zpiHdrLen + codec.maxOverhead := by
    rw [← payload_length]
    exact meets.overhead _ cipher same
  have near (fits : b.len - zpiHdrLen + codec.maxOverhead ≤ b.tailroomAvailable) :
      Carries b (inPlace codec.encryptTransportStateless b) (encrypted (b.body.drop zpiHdrLen)) := by
    apply inPlace_carries zpi
    apply meets.encrypts
    rw [payload_length, b.tailroom_length]
    cases same : encrypted (b.body.drop zpiHdrLen) with
    | none => exact fits
    | some cipher => exact (overhead cipher same).trans fits
  have far : Carries b (viaScratch codec.encryptTransportStateless b) (encrypted (b.body.drop zpiHdrLen)) := by
    apply viaScratch_carries zpi
    · apply meets.encrypts
      rw [payload_length, length_replicate]
      exact scratch
    intro cipher same
    have short := overhead cipher same
    omega
  refine ⟨?_, near, far⟩
  rw [encryptFull, if_neg (not_lt.mpr zpi)]
  split
  · next fits => exact near fits
  · exact far

theorem decrypts (scratch : b.len - zpiHdrLen ≤ packetBufferSize) :
    Decrypts codec padlen b (decrypted (b.body.drop zpiHdrLen)) := by
  have shrinks {room} (fits : b.len - zpiHdrLen ≤ room) : Fits (b.len - zpiHdrLen) room (decrypted (b.body.drop zpiHdrLen)) := by
    cases same : decrypted (b.body.drop zpiHdrLen) with
    | none => exact fits
    | some payload =>
      have short := meets.shrinks _ payload same
      rw [payload_length] at short
      exact short.trans fits
  have near (fits : b.len - zpiHdrLen ≤ b.tailroomAvailable) :
      Carries b (inPlace codec.decryptTransportStateless b) (decrypted (b.body.drop zpiHdrLen)) := by
    apply inPlace_carries zpi
    apply meets.decrypts
    rw [payload_length, b.tailroom_length]
    exact shrinks fits
  have far : Carries b (viaScratch codec.decryptTransportStateless b) (decrypted (b.body.drop zpiHdrLen)) := by
    apply viaScratch_carries zpi
    · apply meets.decrypts
      rw [payload_length, length_replicate]
      exact shrinks scratch
    intro payload same
    have short := meets.shrinks _ payload same
    rw [payload_length] at short
    omega
  refine ⟨fun padded => ?_, near, far⟩
  rw [decryptFull, if_neg (not_lt.mpr zpi)]
  dsimp only
  rw [if_neg (not_lt.mpr padded)]
  split
  · next fits => exact (near fits).decryptionFailure
  · exact far.decryptionFailure

end

/-- Either way of encryption, and either way of decryption, comes to the same body without a panic.
What was encrypted is restored from its ciphertext in any buffer. -/
theorem encryption_restores (meets : codec.Meets padlen encrypted decrypted) :
    (∀ b : Buffer minBodyOffset, zpiHdrLen ≤ b.len → codec.maxOverhead ≤ b.tailroomAvailable →
        Fits (b.len - zpiHdrLen + codec.maxOverhead) packetBufferSize (encrypted (b.body.drop zpiHdrLen)) →
      Encrypts codec b (encrypted (b.body.drop zpiHdrLen)) ∧
      ∀ sent, encryptFull codec b = .ok (.ok (), sent) → ∀ arrived : Buffer minBodyOffset, arrived.body = sent.body →
        ∃ received, decryptFull codec padlen arrived = .ok (.ok (), received) ∧ received.body = b.body) ∧
    ∀ b : Buffer minBodyOffset, zpiHdrLen ≤ b.len → b.len - zpiHdrLen ≤ packetBufferSize →
      Decrypts codec padlen b (decrypted (b.body.drop zpiHdrLen)) := by
  refine ⟨?_, fun b zpi scratch => decrypts meets zpi scratch⟩
  intro b zpi room scratch
  have result := encrypts meets zpi room scratch
  refine ⟨result, ?_⟩
  intro sent returned arrived same
  have carries := result.full
  cases encryption : encrypted (b.body.drop zpiHdrLen) with
  | none =>
    rw [encryption] at carries
    obtain ⟨problem, c, failed, _⟩ := carries
    cases returned.symm.trans failed
  | some cipher =>
    rw [encryption] at carries scratch
    obtain ⟨c, finished, body⟩ := carries
    cases returned.symm.trans finished
    have header : (b.body.take zpiHdrLen).length = zpiHdrLen := length_take_of_le (zpi.trans_eq b.body_length.symm)
    rw [body] at same
    have length : arrived.len = zpiHdrLen + cipher.length := by
      rw [← arrived.body_length, same, length_append, header]
    have restored := (decrypts meets (b := arrived) (by omega) (by rw [length, Nat.add_sub_cancel_left]; exact scratch)).full (by
      have padded := meets.padded _ cipher encryption
      omega)
    rw [same, drop_left' header, meets.inverts _ cipher encryption] at restored
    obtain ⟨received, done, whole⟩ := restored
    refine ⟨received, done, ?_⟩
    rw [whole, same, take_left' header, take_append_drop]

end Contract

theorem copy_writes {problem : ε} {payload message} (fits : payload.length ≤ message.length) :
    Writes (copy problem payload message) (some payload) := by
  rw [copy, dif_neg (not_lt.mpr fits)]
  exact ⟨_, rfl, take_left' rfl⟩

theorem nullCodec_meets : codec.Meets 0 some some where
  encrypts _ _ fits := copy_writes fits
  decrypts _ _ fits := copy_writes fits
  overhead _ _ same := by
    cases same
    exact le_refl _
  padded _ _ _ := zero_le _
  inverts _ _ same := same.symm ▸ rfl
  shrinks _ _ same := by
    cases same
    exact le_refl _

/-- A packet with too little tailroom for another copy of its payload. -/
def tight : Buffer 8 := ⟨[0, 0, 0, 0, 0, 0, 0, 0, 9, 9, 3, 1, 4, 1, 5, 9], 10, 5, by decide, by decide⟩

theorem encryption_restores_tight : ∃ sent received, encryptFull NullCodec.codec tight = .ok (.ok (), sent) ∧
    decryptFull NullCodec.codec 0 sent = .ok (.ok (), received) ∧ received.body = [3, 1, 4, 1, 5] := by
  obtain ⟨encrypts, restores⟩ := (encryption_restores nullCodec_meets).1 tight (by decide) (by decide)
    (by decide : (tight.body.drop zpiHdrLen).length ≤ packetBufferSize)
  obtain ⟨sent, encrypted, _⟩ := encrypts.full
  obtain ⟨received, decrypted, body⟩ := restores sent encrypted sent rfl
  exact ⟨sent, received, encrypted, decrypted, body⟩

end LinkCrypto

namespace Substrate

/-- A packet with a ZPI header and room for a checksum comes back as it was. -/
theorem null_encryption_restores {pkt : Packet} (headed : zpiHdrLen ≤ pkt.body.length) (room : 2 ≤ pkt.tailroom) :
    ∃ encrypted decrypted, encryptNull pkt = .ok encrypted ∧ decryptNull encrypted = .ok (.ok decrypted) ∧
      decrypted.body = pkt.body := by
  have size := tag_length (pkt.body.drop zpiHdrLen)
  obtain ⟨encrypted, put, _, body, _⟩ := Packet.put_fits (size.trans_le room)
  have valid : checksum (encrypted.body.drop zpiHdrLen) = 0 := by
    rw [body, drop_append_of_le_length headed, checksum_tagged]
  have length : encrypted.body.length = pkt.body.length + 2 := by rw [body, length_append, size]
  obtain ⟨decrypted, shrunk, restored, _⟩ := @Packet.shrinkBy_fits encrypted 2 (by omega)
  refine ⟨encrypted, decrypted, ?_, ?_, ?_⟩
  · rw [encryptNull, ← length_drop]
    exact put
  · rw [decryptNull, if_neg (by omega), if_neg (not_not_intro valid), shrunk]
    rfl
  · rw [restored, length, body, Nat.add_sub_cancel, take_left]

/-- A packet whose payload has an odd length. -/
def oddPacket : Packet where
  headroom := 0
  body := [0, 3, 1, 4]
  tailroom := 2
  fiveTuple := ⟨⟨.replicate 12 0, .replicate 4 0⟩, ⟨.replicate 12 0, .replicate 4 0⟩, .ipv4, 17, 0, 0⟩
  ingressLaneId := 0
  ingressLinkId := 0
  ingressStreamId := 0

theorem null_encryption_sample : ∃ encrypted decrypted, encryptNull oddPacket = .ok encrypted ∧
    decryptNull encrypted = .ok (.ok decrypted) ∧ decrypted.body = [0, 3, 1, 4] :=
  null_encryption_restores (by decide) (by decide)

end Substrate
end ZprCore.Datapath
