import ZprCore.Km.Noise

/-! What a Noise key manager knows when its handshake is finished. Between two resets it
takes part in one handshake; its message number is the number of messages of that handshake,
and what it keeps of the peer is replaced by what the handshake carried. -/

namespace ZprCore.Km
open Datapath Panic Runs List Option UInt16

variable {HandshakeState Transport Cert Key : Type} {snow : Snow HandshakeState Transport} {pki : Pki Cert Key}
  {sa} {payload message : List UInt8} {peerCert}
  {hsMsg} {recvHmacKey : HmacKey} {s : OpenState}

namespace KmCertExchange
variable {own other : KmCertExchange Cert}

/-- The certificate a payload carries, as it reads. -/
def carried (pki : Pki Cert Key) (self : KmCertExchange Cert) : Option Cert :=
  (self.localCert.bind pki.toDer).bind fun der => if der = [] then none else pki.fromDer der

/-- What a party makes of a certificate. -/
def judge (pki : Pki Cert Key) (self : KmCertExchange Cert) (cert : Cert) : PeerCertificate Cert :=
  if self.isVerified pki cert then .verified cert else .unverified cert

theorem writePayload_ok {bytes} (written : other.writePayload pki = .ok bytes) :
    ∃ der, other.certDer pki = .ok der ∧ der.length ≤ 65535 ∧
      bytes = Layout.u16.encode (ofNat der.length) ++ der := by
  obtain ⟨der, encoded, written⟩ := bind_ok.mp written
  dsimp only at written
  split at written
  · cases written
  rename_i short
  cases written
  exact ⟨der, encoded, by omega, rfl⟩

theorem carried_of_certDer {der} (encoded : other.certDer pki = .ok der) :
    other.carried pki = if der = [] then none else pki.fromDer der := by
  unfold certDer at encoded
  unfold carried
  cases localCert : other.localCert with
  | none =>
    simp only [localCert] at encoded
    cases encoded
    simp only [bind_none, if_true]
  | some cert =>
    simp only [localCert] at encoded
    split at encoded
    · cases encoded
    rename_i bytes found
    cases encoded
    simp only [bind_some, found]

theorem processPayload_writePayload {bytes known} (written : other.writePayload pki = .ok bytes)
    (processed : own.processPayload pki bytes known = .ok peerCert) :
    peerCert = (other.carried pki).map (own.judge pki) ∧
    ∀ cert, other.carried pki = some cert → pki.rawBytes (pki.publicKey cert) = known := by
  obtain ⟨der, encoded, short, rfl⟩ := writePayload_ok written
  rw [carried_of_certDer encoded]
  have length : (ofNat der.length).toNat = der.length := toNat_ofNat_of_lt' (by
    simp only [size]
    omega)
  unfold processPayload at processed
  simp only [Layout.decode_encode, length, Nat.lt_irrefl, if_false, take_length] at processed
  by_cases none : der = []
  · subst none
    have zero : ofNat ([] : List UInt8).length = 0 := rfl
    rw [if_pos zero] at processed
    rw [if_pos rfl]
    cases processed
    exact ⟨rfl, nofun⟩
  · have long : ¬ ofNat der.length = 0 := by
      intro zero
      rw [zero] at length
      exact none (length_eq_zero_iff.mp length.symm)
    rw [if_neg long] at processed
    rw [if_neg none]
    cases parsed : pki.fromDer der with
    | none =>
      simp only [parsed] at processed
      cases processed
    | some cert =>
      simp only [parsed] at processed
      split at processed
      · cases processed
      rename_i same
      cases processed
      refine ⟨rfl, fun found parsed => ?_⟩
      cases parsed
      exact not_not.mp same

/-- Only the authority makes a certificate verified. -/
theorem judge_verified {cert found} (judged : own.judge pki cert = .verified found) : found = cert ∧
    ∃ authority, own.authorityCert = some authority ∧ pki.verify cert (pki.publicKey authority) = some true := by
  unfold judge at judged
  split at judged
  · rename_i verified
    cases judged
    unfold isVerified at verified
    cases known : own.authorityCert with
    | none =>
      rw [known] at verified
      cases verified
    | some authority =>
      rw [known] at verified
      exact ⟨rfl, authority, rfl, of_decide_eq_true verified⟩
  · cases judged

end KmCertExchange

namespace KmNoise
variable {self next : KmNoise HandshakeState Transport Cert}
variable {msgNr now : Nat} {hs : HandshakeState} {kmImpl : KmId} {result}

/-- What a party was made with. -/
structure SameParty (party next : KmNoise HandshakeState Transport Cert) : Prop where
  initiate : next.initiate = party.initiate
  verifyCert : next.verifyCert = party.verifyCert
  localKeypair : next.localKeypair = party.localKeypair
  recvZpis : next.recvZpis = party.recvZpis
  certx : next.certx = party.certx

theorem SameParty.refl (self : KmNoise HandshakeState Transport Cert) : SameParty self self := ⟨rfl, rfl, rfl, rfl, rfl⟩

theorem SameParty.trans {middle} (first : SameParty self middle) (second : SameParty middle next) : SameParty self next where
  initiate := second.initiate.trans first.initiate
  verifyCert := second.verifyCert.trans first.verifyCert
  localKeypair := second.localKeypair.trans first.localKeypair
  recvZpis := second.recvZpis.trans first.recvZpis
  certx := second.certx.trans first.certx

theorem SameParty.update (same : SameParty self next) {state hsSentT hsState sendHmacKey sendZpis} :
    SameParty self { next with state, msgNr, hsSentT, hsState, recvHmacKey, sendHmacKey, sendZpis, peerCert } :=
  ⟨same.initiate, same.verifyCert, same.localKeypair, same.recvZpis, same.certx⟩

/-- No handshake goes on in these states. -/
def Halted (self : KmNoise HandshakeState Transport Cert) : Prop :=
  self.state = .error ∨ self.state = .configuring ∧ self.hsState = none

theorem Halted.not_transport (halted : self.Halted) : self.state ≠ .transport sa := by
  intro established
  obtain error | ⟨configuring, _⟩ := halted
  · rw [error] at established
    cases established
  · rw [configuring] at established
    cases established

/-- What a message carries of the party that writes it. -/
def Owns (pki : Pki Cert Key) (self : KmNoise HandshakeState Transport Cert) (payload : List UInt8) : Prop :=
  ∃ cert, self.certx.writePayload pki = .ok cert ∧
    payload = KeyMsg.layout.encode ⟨self.recvZpis.encr, self.recvZpis.hmac, self.recvHmacKey⟩ ++ cert

/-- What a party keeps of the payload it read last. -/
structure Accepts (snow : Snow HandshakeState Transport) (pki : Pki Cert Key) (hs : HandshakeState)
    (payload : List UInt8) (party : KmNoise HandshakeState Transport Cert) : Prop where
  parsed : ∃ km rest known, KeyMsg.layout.decode payload = some (km, rest) ∧ snow.getRemoteStatic hs = some known ∧
    party.certx.processPayload pki rest known = .ok party.peerCert ∧
    party.sendZpis = some ⟨km.zpiFullEncr, km.zpiTransitHmac⟩ ∧ party.sendHmacKey = some km.hmacKey
  verified : party.verifyCert = true → party.certx.requiresVerification = true →
    ∃ cert, party.peerCert = some (.verified cert)

theorem nextMsgNr_ok {number} (counted : nextMsgNr msgNr = .ok number) : number = msgNr + 1 := by
  unfold nextMsgNr at counted
  split at counted
  · cases counted
    rfl
  · cases counted

theorem createHsMessage_cases {result} (created : self.createHsMessage snow pki hs = .ok (result, next)) :
    (∃ problem, result = .error problem ∧ next = self) ∨
    ∃ payload message written, result = .ok (message, written) ∧ self.keyPayload pki = .ok payload ∧
      snow.writeMessage hs payload = .ok (message, written) ∧ next = { self with msgNr := self.msgNr + 1 } := by
  unfold createHsMessage at created
  cases own : self.keyPayload pki with
  | error problem =>
    simp only [own] at created
    cases created
    exact .inl ⟨problem, rfl, rfl⟩
  | ok payload =>
    simp only [own] at created
    split at created
    · cases created
      exact .inl ⟨_, rfl, rfl⟩
    rename_i written write
    obtain ⟨number, counted, created⟩ := bind_ok.mp created
    cases nextMsgNr_ok counted
    cases created
    exact .inr ⟨payload, written.1, written.2, rfl, rfl, write, rfl⟩

theorem keyPayload_owns (own : self.keyPayload pki = .ok payload) (carries : msgCarriesZpiPayload self.msgNr = true) :
    self.Owns pki payload := by
  unfold keyPayload at own
  rw [if_pos carries] at own
  split at own
  · cases own
  rename_i cert written
  cases own
  exact ⟨cert, written, rfl⟩

theorem acceptPayload_cases {result} (accepted : self.acceptPayload snow pki msgNr payload hs = (result, next)) :
    SameParty self next ∧ next.state = self.state ∧ next.hsState = self.hsState ∧ next.msgNr = self.msgNr ∧
      next.recvHmacKey = self.recvHmacKey ∧
      (result = .ok () → msgCarriesZpiPayload msgNr = true → Accepts snow pki hs payload next) := by
  unfold acceptPayload at accepted
  split at accepted
  · rename_i carries
    split at accepted
    · cases accepted
      exact ⟨.refl self, rfl, rfl, rfl, rfl, nofun⟩
    rename_i peerPubkey known
    unfold parseKmPayload at accepted
    cases decoded : KeyMsg.layout.decode payload with
    | none =>
      simp only [decoded] at accepted
      cases accepted
      exact ⟨.refl self, rfl, rfl, rfl, rfl, nofun⟩
    | some found =>
      obtain ⟨km, rest⟩ := found
      simp only [decoded] at accepted
      cases processed : self.certx.processPayload pki rest peerPubkey with
      | error problem =>
        simp only [processed] at accepted
        cases accepted
        exact ⟨⟨rfl, rfl, rfl, rfl, rfl⟩, rfl, rfl, rfl, rfl, nofun⟩
      | ok peerCert =>
        simp only [processed] at accepted
        split at accepted
        · cases accepted
          exact ⟨⟨rfl, rfl, rfl, rfl, rfl⟩, rfl, rfl, rfl, rfl, nofun⟩
        rename_i verified
        cases accepted
        refine ⟨⟨rfl, rfl, rfl, rfl, rfl⟩, rfl, rfl, rfl, rfl, fun _ _ => ⟨?_, fun wanted required => ?_⟩⟩
        · exact ⟨km, rest, peerPubkey, decoded, known, processed, rfl, rfl⟩
        have present : peerCert.any (·.isVerified) = true := not_not.mp fun absent => verified ⟨wanted, required, absent⟩
        obtain ⟨found, same, holds⟩ := Option.any_eq_true _ _ |>.mp present
        cases found with
        | verified cert => exact ⟨cert, same⟩
        | unverified cert => cases holds
  · rename_i silent
    cases accepted
    exact ⟨.refl self, rfl, rfl, rfl, rfl, fun _ carries => absurd carries silent⟩

/-- A finished handshake gives an association of what the party has and what it accepted. -/
theorem finish_cases (finished : self.finish snow kmImpl hs hsMsg = (result, next))
    (taken : self.state = .configuring ∧ self.hsState = none) :
    (SameParty self next ∧ next.Halted) ∨
    ∃ sendZpis sendHmacKey codec, self.sendZpis = some sendZpis ∧ self.sendHmacKey = some sendHmacKey ∧
      result = .ok hsMsg ∧ next = { self with
        state := .transport ⟨0, self.recvZpis, sendZpis, sendHmacKey, self.recvHmacKey, codec, self.peerCert⟩ } := by
  have failed problem (same : self.fail problem none = (result, next)) : SameParty self next ∧ next.Halted := by
    cases same
    exact ⟨⟨rfl, rfl, rfl, rfl, rfl⟩, .inl rfl⟩
  unfold finish at finished
  cases zpis : self.sendZpis with
  | none =>
    simp only [zpis] at finished
    exact .inl (failed _ finished)
  | some sendZpis =>
    cases key : self.sendHmacKey with
    | none =>
      simp only [zpis, key] at finished
      exact .inl (failed _ finished)
    | some sendHmacKey =>
      simp only [zpis, key] at finished
      cases session : snow.intoSession hs with
      | error problem =>
        simp only [session] at finished
        exact .inl (failed _ finished)
      | ok t =>
        simp only [session] at finished
        cases kmImpl with
        | noise | null =>
          cases finished
          exact .inr ⟨_, _, _, rfl, rfl, rfl, rfl⟩
        | other code =>
          cases finished
          exact .inl ⟨.refl self, .inr taken⟩

/-- What the handling of a message can do. It leaves the handshake, or reads the message and
then is finished, answers and is finished, or answers and waits. -/
theorem handleMessage_cases (handled : self.handleMessage snow pki message kmImpl now = .ok (result, next)) :
    (self.state ≠ .configuring ∧ result = .error .invalidState ∧ next = self) ∨ (SameParty self next ∧ next.Halted) ∨
    ∃ hs payload read middle, self.state = .configuring ∧ self.hsState = some hs ∧
      snow.readMessage hs message = .ok (payload, read) ∧ SameParty self middle ∧ middle.state = .configuring ∧
      middle.hsState = none ∧ middle.msgNr = self.msgNr + 1 ∧ middle.recvHmacKey = self.recvHmacKey ∧
      (msgCarriesZpiPayload self.msgNr = true → Accepts snow pki read payload middle) ∧
      middle.proceed snow pki kmImpl now read = .ok (result, next) := by
  unfold handleMessage at handled
  cases state : self.state with
  | transport ts | error =>
    simp only [state] at handled
    cases handled
    exact .inl ⟨nofun, rfl, rfl⟩
  | configuring =>
    cases held : self.hsState with
    | none =>
      simp only [state, held] at handled
      cases handled
    | some hs =>
      simp only [state, held] at handled
      cases opened : snow.readMessage hs message with
      | error problem =>
        simp only [opened] at handled
        cases handled
        exact .inr (.inl ⟨⟨rfl, rfl, rfl, rfl, rfl⟩, .inl rfl⟩)
      | ok found =>
        obtain ⟨payload, read⟩ := found
        simp only [opened] at handled
        obtain ⟨number, counted, handled⟩ := bind_ok.mp handled
        cases nextMsgNr_ok counted
        split at handled
        · rename_i problem middle accepted
          cases handled
          have same := (acceptPayload_cases accepted).1
          exact .inr (.inl ⟨(SameParty.refl self).update.trans same.update, .inl rfl⟩)
        · rename_i middle accepted
          obtain ⟨same, kept, taken, number, key, accepts⟩ := acceptPayload_cases accepted
          exact .inr (.inr ⟨hs, payload, read, middle, rfl, rfl, opened,
            (SameParty.refl self).update.trans same, kept, taken, number, key, accepts rfl, handled⟩)

theorem proceed_cases (proceeded : self.proceed snow pki kmImpl now hs = .ok (result, next)) :
    (snow.isHandshakeFinished hs = true ∧ self.finish snow kmImpl hs none = (result, next)) ∨
    (SameParty self next ∧ next.Halted) ∨
    ∃ payload message written, ¬ snow.isHandshakeFinished hs = true ∧ self.keyPayload pki = .ok payload ∧
      snow.writeMessage hs payload = .ok (message, written) ∧
      let after := { self with msgNr := self.msgNr + 1, hsSentT := some now }
      (snow.isHandshakeFinished written = true ∧ after.finish snow kmImpl written (some message) = (result, next)) ∨
      (¬ snow.isHandshakeFinished written = true ∧ result = .ok (some message) ∧
        next = { after with hsState := some written }) := by
  unfold proceed at proceeded
  by_cases finished : snow.isHandshakeFinished hs = true
  · rw [if_pos finished] at proceeded
    exact .inl ⟨finished, Except.ok.inj proceeded⟩
  rw [if_neg finished] at proceeded
  obtain ⟨⟨outcome, middle⟩, created, answered⟩ := bind_ok.mp proceeded
  obtain ⟨problem, rfl, same⟩ | ⟨payload, message, written, rfl, own, wrote, rfl⟩ := createHsMessage_cases created
  · cases answered
    rw [same]
    exact .inr (.inl ⟨⟨rfl, rfl, rfl, rfl, rfl⟩, .inl rfl⟩)
  refine .inr (.inr ⟨payload, message, written, finished, own, wrote, ?_⟩)
  dsimp only at answered
  split at answered
  · rename_i finished
    exact .inl ⟨finished, Except.ok.inj answered⟩
  rename_i unfinished
  cases answered
  exact .inr ⟨unfinished, rfl, rfl⟩

theorem proceed_transport (taken : self.state = .configuring ∧ self.hsState = none)
    (proceeded : self.proceed snow pki kmImpl now hs = .ok (result, next)) (established : next.state = .transport sa) :
    self.sendZpis = some sa.sendZpis ∧ ∃ final, snow.isHandshakeFinished final = true ∧
      (final = hs ∨ ∃ payload message, snow.writeMessage hs payload = .ok (message, final)) := by
  have finish {before : KmNoise HandshakeState Transport Cert} {final : HandshakeState} {hsMsg : Option (List UInt8)}
      (finished : before.finish snow kmImpl final hsMsg = (result, next))
      (taken : before.state = .configuring ∧ before.hsState = none) : before.sendZpis = some sa.sendZpis := by
    obtain ⟨_, halted⟩ | ⟨sendZpis, sendHmacKey, codec, zpis, _, _, rfl⟩ := finish_cases finished taken
    · exact absurd established halted.not_transport
    · cases established
      exact zpis
  obtain ⟨done, finished⟩ | ⟨_, halted⟩ | ⟨payload, message, written, _, _, wrote, rest⟩ := proceed_cases proceeded
  · exact ⟨finish finished taken, hs, done, .inl rfl⟩
  · exact absurd established halted.not_transport
  obtain ⟨done, finished⟩ | ⟨_, _, rfl⟩ := rest
  · have zpis := finish finished ⟨taken.1, taken.2⟩
    exact ⟨zpis, written, done, .inr ⟨payload, message, wrote⟩⟩
  · rw [taken.1] at established
    cases established

/-- The turns of a handshake that a party waits in. -/
def Underway (pki : Pki Cert Key) (self : KmNoise HandshakeState Transport Cert) (turns : List Handshake.Turn) : Prop :=
  if self.initiate then ∃ first, turns = [first]
  else turns = [] ∨ ∃ first second, turns = [first, second] ∧ self.Owns pki second.payload

/-- An association and the handshake it comes from: the party wrote one of the last two
messages and accepted the other. -/
structure Establishes (snow : Snow HandshakeState Transport) (pki : Pki Cert Key)
    (party : KmNoise HandshakeState Transport Cert) (sa : KmTransportSA Transport Cert)
    (transcript : List (List UInt8)) : Prop where
  conversed : ∃ first second third hs known km rest,
    snow.Conversed party.initiate party.localKeypair.privateKey [first, second, third] hs ∧
    transcript = [first.message, second.message, third.message] ∧
    party.Owns pki (if party.initiate then third else second).payload ∧ snow.getRemoteStatic hs = some known ∧
    KeyMsg.layout.decode (if party.initiate then second else third).payload = some (km, rest) ∧
    party.certx.processPayload pki rest known = .ok sa.peerCert ∧
    sa.sendZpis = ⟨km.zpiFullEncr, km.zpiTransitHmac⟩ ∧ sa.sendHmacKey = km.hmacKey
  recvZpis : sa.recvZpis = party.recvZpis
  recvHmacKey : sa.recvHmacKey = party.recvHmacKey
  verified : party.verifyCert = true → party.certx.requiresVerification = true →
    ∃ cert, sa.peerCert = some (.verified cert)

/-- A handshake that is under way has its state. -/
def Holding (self : KmNoise HandshakeState Transport Cert) : Prop := self.state = .configuring → self.hsState.isSome

theorem createHsMessage_meets : Meets (· = .overflow) (fun _ => True) (self.createHsMessage snow pki hs) := by
  unfold createHsMessage nextMsgNr
  split
  · trivial
  split
  · trivial
  · split <;> trivial

/-- Only an unknown key manager leaves a finished handshake without an outcome. -/
theorem finish_holding {hsMsg} (known : ∀ code, kmImpl ≠ .other code) : (self.finish snow kmImpl hs hsMsg).2.Holding := by
  unfold finish
  split
  · exact nofun
  · exact nofun
  split
  · exact nofun
  cases kmImpl with
  | noise | null => exact nofun
  | other code => exact absurd rfl (known code)

theorem reset_holding {seed} : Meets (· = .overflow) (·.2.Holding) (self.reset snow pki recvHmacKey seed now) := by
  unfold reset
  dsimp only
  split
  · exact nofun
  split
  · refine createHsMessage_meets.bind ?_
    rintro ⟨problem | ⟨hsMsg, hs⟩, next⟩ _
    · exact nofun
    · exact fun _ => rfl
  · exact fun _ => rfl

theorem handleMessage_holding (holding : self.Holding) :
    Meets (· = .overflow) (fun outcome => (∀ code, kmImpl ≠ .other code) → outcome.2.Holding)
      (self.handleMessage snow pki message kmImpl now) := by
  unfold handleMessage
  split
  · exact fun _ => holding
  · exact fun _ => holding
  · next state absent => exact absurd (holding state) (by simp [absent])
  dsimp only
  split
  · exact fun _ => nofun
  unfold nextMsgNr
  split
  · rw [ok_bind]
    split
    · exact fun _ => nofun
    unfold proceed
    split
    · exact finish_holding
    refine createHsMessage_meets.bind ?_
    rintro ⟨problem | ⟨hsMsg, hs⟩, next⟩ _
    · exact fun _ => nofun
    dsimp only
    split
    · exact finish_holding
    · exact fun _ _ => rfl
  · trivial

end KmNoise

namespace NoiseParty
open KmNoise
variable {p next}
variable {start machine self : KmNoise HandshakeState Transport Cert} {kmImpl : KmId} {hs : HandshakeState}
  {result} {message : List UInt8} {now : Nat}

/-- The handshake of a party, as far as it has come. -/
structure Synced (snow : Snow HandshakeState Transport) (pki : Pki Cert Key)
    (start : KmNoise HandshakeState Transport Cert) (p : NoiseParty HandshakeState Transport Cert) : Prop where
  same : SameParty start p.machine
  underway : p.machine.state = .configuring → ∀ hs, p.machine.hsState = some hs → ∃ turns,
    snow.Conversed p.machine.initiate p.machine.localKeypair.privateKey turns hs ∧
    p.transcript = turns.map Handshake.Turn.message ∧ p.machine.msgNr = turns.length ∧ p.machine.Underway pki turns
  established : ∀ sa, p.machine.state = .transport sa → p.machine.Establishes snow pki sa p.transcript

theorem Synced.halted (same : SameParty start p.machine) (halted : p.machine.Halted) : Synced snow pki start p := by
  refine ⟨same, fun configuring hs held => ?_, fun sa established => ?_⟩
  · obtain error | ⟨_, none⟩ := halted
    · rw [error] at configuring
      cases configuring
    · rw [none] at held
      cases held
  · exact absurd established halted.not_transport

theorem finish_synced {first second third before} (finished : self.finish snow kmImpl hs hsMsg = (result, machine))
    (same : SameParty start self) (taken : self.state = .configuring ∧ self.hsState = none)
    (conversed : snow.Conversed self.initiate self.localKeypair.privateKey [first, second, third] hs)
    (owns : self.Owns pki (if self.initiate then third else second).payload)
    (accepts : self.Accepts snow pki hs (if self.initiate then second else third).payload)
    (transcript : before ++ hsMsg.toList = [first.message, second.message, third.message]) :
    Synced snow pki start ⟨machine, before ++ sent result⟩ := by
  obtain ⟨kept, halted⟩ | ⟨sendZpis, sendHmacKey, codec, zpis, key, rfl, rfl⟩ := finish_cases finished taken
  · exact .halted (same.trans kept) halted
  refine ⟨same.update, nofun, fun sa established => ?_⟩
  cases established
  obtain ⟨⟨km, rest, known, decoded, remote, processed, sendZpis, sendHmacKey⟩, verified⟩ := accepts
  rw [zpis] at sendZpis
  rw [key] at sendHmacKey
  refine ⟨?_, rfl, rfl, verified⟩
  exact ⟨first, second, third, hs, known, km, rest, conversed, transcript, owns, remote, decoded, processed,
    some.inj sendZpis, some.inj sendHmacKey⟩

theorem received_idle (idle : machine.state ≠ .configuring) : received snow machine message = [] := by
  unfold received
  split
  · rename_i configuring _
    exact absurd configuring idle
  · rfl

theorem accepts_wrote (follows : snow.Follows 3) {written own reply} (accepts : self.Accepts snow pki hs payload)
    (wrote : snow.writeMessage hs own = .ok (reply, written)) : self.Accepts snow pki written payload := by
  obtain ⟨⟨km, rest, known, decoded, remote, kept⟩, verified⟩ := accepts
  rw [← follows.writes wrote] at remote
  exact ⟨⟨km, rest, known, decoded, remote, kept⟩, verified⟩

section
variable (synced : Synced snow pki start p)
include synced

/-- The three messages: an initiator reads the second and writes the third, a responder reads
the first and writes the second, then reads the third. -/
theorem message_synced (follows : snow.Follows 3)
    (handled : p.machine.handleMessage snow pki message kmImpl now = .ok (result, machine)) :
    Synced snow pki start ⟨machine, p.transcript ++ received snow p.machine message ++ sent result⟩ := by
  obtain ⟨idle, rfl, rfl⟩ | ⟨kept, halted⟩ | ⟨hs, payload, read, middle, configuring, held, opened, kept, state, taken,
    number, key, accepts, proceeded⟩ := handleMessage_cases handled
  · rw [received_idle idle, append_nil, sent, append_nil]
    exact synced
  · exact .halted (synced.same.trans kept) halted
  obtain ⟨turns, conversed, transcript, counted, underway⟩ := synced.underway configuring hs held
  have got : received snow p.machine message = [message] := by
    simp only [received, configuring, held, opened]
  rw [got, transcript]
  rw [← kept.initiate, ← kept.localKeypair] at conversed
  have after := conversed.read opened
  have same := synced.same.trans kept
  unfold Underway at underway
  rw [counted] at number accepts
  rw [← kept.initiate] at underway
  cases role : middle.initiate with
  | true =>
    rw [role, if_pos rfl] at underway
    obtain ⟨first, rfl⟩ := underway
    obtain ⟨finished, _⟩ | ⟨changed, halted⟩ | ⟨own, reply, written, _, owned, wrote, rest⟩ := proceed_cases proceeded
    · cases (follows.finished after).mp finished
    · exact .halted (same.trans changed) halted
    have last := after.wrote wrote
    obtain ⟨_, done⟩ | ⟨unfinished, _⟩ := rest
    · have third : middle.Owns pki own := keyPayload_owns owned (by rw [number]; rfl)
      have second := accepts_wrote follows (accepts rfl) wrote
      refine finish_synced done same.update ⟨state, taken⟩ last ?_ ?_ ?_
      · rw [if_pos role]
        exact third
      · rw [if_pos role]
        exact ⟨second.parsed, second.verified⟩
      · rfl
    · exact absurd ((follows.finished last).mpr rfl) unfinished
  | false =>
    have responds : ¬ middle.initiate = true := by
      rw [role]
      exact Bool.false_ne_true
    rw [if_neg responds] at underway
    obtain rfl | ⟨first, second, rfl, owns⟩ := underway
    · obtain ⟨finished, _⟩ | ⟨changed, halted⟩ | ⟨own, reply, written, _, owned, wrote, rest⟩ := proceed_cases proceeded
      · cases (follows.finished after).mp finished
      · exact .halted (same.trans changed) halted
      have last := after.wrote wrote
      obtain ⟨finished, _⟩ | ⟨_, rfl, rfl⟩ := rest
      · cases (follows.finished last).mp finished
      have second : middle.Owns pki own := keyPayload_owns owned (by rw [number]; rfl)
      refine ⟨same.update, fun _ hs held => ?_, fun sa established => ?_⟩
      · cases held
        refine ⟨_, last, rfl, congrArg (· + 1) number, ?_⟩
        unfold Underway
        rw [if_neg responds]
        exact .inr ⟨_, _, rfl, second⟩
      · rw [state] at established
        cases established
    · obtain ⟨_, done⟩ | ⟨changed, halted⟩ | ⟨own, reply, written, unfinished, _⟩ := proceed_cases proceeded
      · refine finish_synced done same ⟨state, taken⟩ after ?_ ?_ rfl
        · rw [if_neg responds, Owns, kept.certx, kept.recvZpis, key]
          exact owns
        · rw [if_neg responds]
          exact accepts rfl
      · exact .halted (same.trans changed) halted
      · exact absurd ((follows.finished after).mpr rfl) unfinished

theorem established_carries (follows : snow.Follows 3) {read} (configuring : p.machine.state = .configuring)
    (held : p.machine.hsState = some hs) (opened : snow.readMessage hs message = .ok (payload, read))
    (handled : p.machine.handleMessage snow pki message kmImpl now = .ok (result, machine))
    (established : machine.state = .transport sa) :
    ∃ km rest, KeyMsg.layout.decode payload = some (km, rest) ∧ sa.sendZpis = ⟨km.zpiFullEncr, km.zpiTransitHmac⟩ := by
  obtain ⟨turns, conversed, _, counted, underway⟩ := synced.underway configuring hs held
  obtain ⟨idle, _⟩ | ⟨_, halted⟩ | ⟨hs', payload', read', middle, _, held', opened', _, state, taken, _, _, accepts,
    proceeded⟩ := handleMessage_cases handled
  · exact absurd configuring idle
  · exact absurd established halted.not_transport
  rw [held] at held'
  cases held'
  rw [opened] at opened'
  cases opened'
  obtain ⟨zpis, final, finished, reached⟩ := proceed_transport ⟨state, taken⟩ proceeded established
  have carries : msgCarriesZpiPayload p.machine.msgNr = true := by
    rw [counted]
    unfold Underway at underway
    split at underway
    · obtain ⟨first, rfl⟩ := underway
      rfl
    obtain rfl | ⟨first, second, rfl, _⟩ := underway
    · -- The first message leaves the handshake unfinished.
      have after := conversed.read opened
      obtain rfl | ⟨own, reply, wrote⟩ := reached
      · cases (follows.finished after).mp finished
      · cases (follows.finished (after.wrote wrote)).mp finished
    · rfl
  obtain ⟨⟨km, rest, _, decoded, _, _, sendZpis, _⟩, _⟩ := accepts carries
  rw [zpis] at sendZpis
  exact ⟨km, rest, decoded, some.inj sendZpis⟩

theorem reset_synced {seed} (handled : p.machine.reset snow pki recvHmacKey seed now = .ok (result, machine)) :
    Synced snow pki start ⟨machine, sent result⟩ := by
  have same := synced.same
  unfold reset at handled
  dsimp only at handled
  split at handled
  · cases handled
    exact .halted same.update (.inl rfl)
  rename_i hs built
  cases role : p.machine.initiate with
  | true =>
    rw [if_pos role] at handled
    obtain ⟨⟨outcome, middle⟩, created, handled⟩ := bind_ok.mp handled
    obtain ⟨problem, rfl, rfl⟩ | ⟨payload, message, written, rfl, own, wrote, rfl⟩ := createHsMessage_cases created
    · cases handled
      exact .halted same.update (.inl rfl)
    cases handled
    refine ⟨same.update, fun _ hs held => ?_, nofun⟩
    cases held
    refine ⟨_, (Handshake.Conversed.built built).wrote wrote, rfl, rfl, ?_⟩
    unfold Underway
    rw [if_pos role]
    exact ⟨_, rfl⟩
  | false =>
    have responds : ¬ p.machine.initiate = true := by
      rw [role]
      exact Bool.false_ne_true
    rw [if_neg responds] at handled
    cases handled
    refine ⟨same.update, fun _ hs held => ?_, nofun⟩
    cases held
    refine ⟨_, .built built, rfl, rfl, ?_⟩
    unfold Underway
    rw [if_neg responds]
    exact .inl rfl

theorem tick_synced : Synced snow pki start { p with machine := (p.machine.tick now).2 } := by
  have same := synced.same
  unfold tick
  split
  · split
    · exact .halted same.update (.inl rfl)
    · exact synced
  · exact synced

theorem step_synced (follows : snow.Follows 3) {event} (done : step snow pki p event = .ok next) :
    Synced snow pki start next := by
  cases event with
  | reset recvHmacKey seed now =>
    obtain ⟨⟨result, machine⟩, handled, done⟩ := bind_ok.mp done
    cases done
    exact reset_synced synced handled
  | message bytes kmImpl now =>
    obtain ⟨⟨result, machine⟩, handled, done⟩ := bind_ok.mp done
    cases done
    exact message_synced synced follows handled
  | tick now =>
    cases done
    exact tick_synced synced

end

/-- A party that was just made. -/
def new (initiate verifyCert : Bool) (localKeypair : NoiseKeypair) (zpis : ZPIPair) (certx : KmCertExchange Cert) :
    NoiseParty HandshakeState Transport Cert := ⟨.new initiate verifyCert localKeypair zpis certx, []⟩

theorem run_synced (follows : snow.Follows 3) {initiate verifyCert localKeypair zpis certx events}
    (run : Run (step snow pki) (fun _ _ => True) (new initiate verifyCert localKeypair zpis certx) events p) :
    Synced snow pki (.new initiate verifyCert localKeypair zpis certx) p := by
  refine run.invariant (Synced snow pki _) (fun _ _ _ _ synced => step_synced synced follows) ?_
  exact .halted (.refl _) (.inr ⟨rfl, rfl⟩)

/-- What a party shares with its peer: the peer reads with what it sends with, the
certificate of the peer is the one the peer wrote into the handshake, and where it is to be
verified it is signed by the authority and names the static key of the peer. -/
structure Agrees (snow : Snow HandshakeState Transport) (pki : Pki Cert Key) (verifyCert : Bool)
    (own other : KmCertExchange Cert) (peerKey : NoiseKey) (sa peerSa : KmTransportSA Transport Cert) : Prop where
  sendZpis : sa.sendZpis = peerSa.recvZpis
  sendHmacKey : sa.sendHmacKey = peerSa.recvHmacKey
  peerCert : sa.peerCert = (other.carried pki).map (own.judge pki)
  verified : verifyCert = true → own.requiresVerification = true → ∃ cert authority,
    sa.peerCert = some (.verified cert) ∧ own.authorityCert = some authority ∧
    pki.verify cert (pki.publicKey authority) = some true ∧ pki.rawBytes (pki.publicKey cert) = snow.publicKey peerKey

theorem establishes_agrees (follows : snow.Follows 3) {own other : KmNoise HandshakeState Transport Cert} {peerSa transcript}
    (opposite : other.initiate = !own.initiate) (mine : own.Establishes snow pki sa transcript)
    (theirs : other.Establishes snow pki peerSa transcript) :
    Agrees snow pki own.verifyCert own.certx other.certx other.localKeypair.privateKey sa peerSa := by
  obtain ⟨⟨first, second, third, hs, known, km, rest, conversed, messages, _, remote, decoded, processed, sendZpis,
    sendHmacKey⟩, _, _, verified⟩ := mine
  obtain ⟨⟨first', second', third', hs', _, _, _, conversed', messages', ⟨cert, written, owned⟩, _⟩, recvZpis,
    recvHmacKey, _⟩ := theirs
  rw [opposite] at conversed' owned
  obtain ⟨payloads, key⟩ := follows.agrees conversed conversed' (messages.symm.trans messages')
  obtain ⟨_, secondSame, thirdSame⟩ : first.payload = first'.payload ∧ second.payload = second'.payload ∧
      third.payload = third'.payload := by simpa using payloads
  -- The message own accepted is the one other wrote.
  have same : (if own.initiate then second else third).payload =
      (if (!own.initiate) = true then third' else second').payload := by
    cases own.initiate with
    | true => exact secondSame
    | false => exact thirdSame
  rw [same, owned, Layout.decode_encode, some.injEq, Prod.mk.injEq] at decoded
  obtain ⟨rfl, rfl⟩ := decoded
  obtain ⟨carries, names⟩ := KmCertExchange.processPayload_writePayload written processed
  refine ⟨sendZpis.trans recvZpis.symm, sendHmacKey.trans recvHmacKey.symm, carries, fun wanted required => ?_⟩
  obtain ⟨found, holds⟩ := verified wanted required
  rw [holds] at carries
  obtain ⟨cert, carried, judged⟩ := map_eq_some_iff.mp carries.symm
  obtain ⟨rfl, authority, present, signed⟩ := KmCertExchange.judge_verified judged
  exact ⟨found, authority, holds, present, signed, (names found carried).trans (key known remote)⟩

/-- Two parties that finished the same handshake agree on the association, whatever they went
through before. -/
theorem transport_agrees (follows : snow.Follows 3) {verifyI verifyR : Bool} {keysI keysR : NoiseKeypair}
    {zpisI zpisR : ZPIPair} {certxI certxR : KmCertExchange Cert} {eventsI eventsR : List NoiseEvent}
    {initiator responder : NoiseParty HandshakeState Transport Cert} {saI saR : KmTransportSA Transport Cert}
    (ranI : Run (step snow pki) (fun _ _ => True) (new true verifyI keysI zpisI certxI) eventsI initiator)
    (ranR : Run (step snow pki) (fun _ _ => True) (new false verifyR keysR zpisR certxR) eventsR responder)
    (establishedI : initiator.machine.state = .transport saI) (establishedR : responder.machine.state = .transport saR)
    (same : initiator.transcript = responder.transcript) :
    Agrees snow pki verifyI certxI certxR keysR.privateKey saI saR ∧
      Agrees snow pki verifyR certxR certxI keysI.privateKey saR saI := by
  have syncedI := run_synced follows ranI
  have syncedR := run_synced follows ranR
  have mine := syncedI.established saI establishedI
  have theirs := syncedR.established saR establishedR
  rw [← same] at theirs
  have opposite : responder.machine.initiate = !initiator.machine.initiate := by
    rw [syncedI.same.initiate, syncedR.same.initiate]
    rfl
  have forth := establishes_agrees follows opposite mine theirs
  have back := establishes_agrees follows (by rw [opposite, Bool.not_not]) theirs mine
  rw [syncedI.same.verifyCert, syncedI.same.certx, syncedR.same.certx, syncedR.same.localKeypair] at forth
  rw [syncedR.same.verifyCert, syncedI.same.certx, syncedR.same.certx, syncedI.same.localKeypair] at back
  exact ⟨forth, back⟩

end NoiseParty

/-- A handshake in the clear: the parties take turns, and every message starts with the key
of the party that writes it. -/
structure OpenState where
  initiator : Bool
  key : NoiseKey
  turns : Nat
  remote : Option (List UInt8)

namespace OpenState

/-- The initiator writes the messages with even numbers. -/
def Writes (initiator : Bool) (turn : Nat) : Prop := turn % 2 = 0 ↔ initiator = true

instance (initiator : Bool) (turn : Nat) : Decidable (Writes initiator turn) := inferInstanceAs (Decidable (_ ↔ _))

def openSnow : Snow OpenState Unit where
  publicKey key := key.toList
  build initiator key _ := .ok ⟨initiator, key, 0, none⟩
  writeMessage s payload :=
    if Writes s.initiator s.turns then .ok (s.key.toList ++ payload, { s with turns := s.turns + 1 }) else .error .other
  readMessage s message :=
    if Writes s.initiator s.turns then .error .other
    else if message.length < 32 then .error .input
    else .ok (message.drop 32, { s with turns := s.turns + 1, remote := some (message.take 32) })
  getRemoteStatic s := s.remote
  isHandshakeFinished s := s.turns = 3
  intoSession _ := .ok ()

theorem writeMessage_ok {next} (written : openSnow.writeMessage s payload = .ok (message, next)) :
    Writes s.initiator s.turns ∧
      message = s.key.toList ++ payload ∧ next = { s with turns := s.turns + 1 } := by
  simp only [openSnow] at written
  split at written
  · rename_i turn
    cases written
    exact ⟨turn, rfl, rfl⟩
  · cases written

theorem readMessage_ok {next} (read : openSnow.readMessage s message = .ok (payload, next)) :
    ¬ Writes s.initiator s.turns ∧
      payload = message.drop 32 ∧ next = { s with turns := s.turns + 1, remote := some (message.take 32) } := by
  simp only [openSnow] at read
  split at read
  · cases read
  rename_i turn
  split at read
  · cases read
  · cases read
    exact ⟨turn, rfl, rfl⟩

/-- What a state knows of the turns that led to it. -/
structure Reflects (role : Bool) (key : NoiseKey) (turns : List Handshake.Turn) (s : OpenState) : Prop where
  initiator : s.initiator = role
  sameKey : s.key = key
  count : s.turns = turns.length
  payloads : ∀ turn ∈ turns, turn.payload = turn.message.drop 32
  own : ∀ (index : Nat) (turn : Handshake.Turn), turns[index]? = some turn → Writes role index →
    turn.message.take 32 = key.toList
  remote : ∀ known, s.remote = some known → ∃ (index : Nat) (turn : Handshake.Turn),
    turns[index]? = some turn ∧ ¬ Writes role index ∧ known = turn.message.take 32

theorem concat_cases {α : Type} {items} {item found : α} {index : Nat} (there : (items ++ [item])[index]? = some found) :
    items[index]? = some found ∨ index = items.length ∧ found = item := by
  by_cases old : index < items.length
  · rw [getElem?_append_left old] at there
    exact .inl there
  rw [getElem?_append_right (by omega), getElem?_singleton] at there
  split at there
  · cases there
    exact .inr ⟨by omega, rfl⟩
  · cases there

theorem conversed_reflects {role} {key} {turns}
    (conversed : openSnow.Conversed role key turns s) : Reflects role key turns s := by
  induction conversed with
  | built built =>
    cases built
    exact ⟨rfl, rfl, rfl, nofun, nofun, nofun⟩
  | @wrote turns state next payload message before written ih =>
    obtain ⟨writes, rfl, rfl⟩ := writeMessage_ok written
    refine ⟨ih.initiator, ih.sameKey, by simp [ih.count], fun turn member => ?_, fun index turn there writes => ?_,
      fun known remote => ?_⟩
    · obtain old | new := mem_append.mp member
      · exact ih.payloads turn old
      · cases mem_singleton.mp new
        exact (drop_left' state.key.length_toList).symm
    · obtain old | ⟨_, rfl⟩ := concat_cases there
      · exact ih.own index turn old writes
      · rw [← ih.sameKey]
        exact take_left' state.key.length_toList
    · obtain ⟨index, turn, there, reads, same⟩ := ih.remote known remote
      exact ⟨index, turn, (getElem?_append_left (lt_length there)).trans there, reads, same⟩
  | @read turns state next payload message before read ih =>
    obtain ⟨reads, rfl, rfl⟩ := readMessage_ok read
    rw [ih.initiator, ih.count] at reads
    refine ⟨ih.initiator, ih.sameKey, by simp [ih.count], fun turn member => ?_, fun index turn there writes => ?_,
      fun known remote => ?_⟩
    · obtain old | new := mem_append.mp member
      · exact ih.payloads turn old
      · cases mem_singleton.mp new
        rfl
    · obtain old | ⟨rfl, rfl⟩ := concat_cases there
      · exact ih.own index turn old writes
      · exact absurd writes reads
    · cases remote
      exact ⟨turns.length, _, getElem?_concat_length, reads, rfl⟩

theorem openSnow_follows : openSnow.Follows 3 where
  finished conversed := by
    rw [← (conversed_reflects conversed).count]
    exact decide_eq_true_iff
  writes written := by
    obtain ⟨_, _, rfl⟩ := writeMessage_ok written
    rfl
  agrees := by
    intro role key other turns others state peer conversed conversed' same
    have mine := conversed_reflects conversed
    have theirs := conversed_reflects conversed'
    have payloads {role : Bool} {key : NoiseKey} {turns : List Handshake.Turn} {s : OpenState}
        (reflects : Reflects role key turns s) :
        turns.map Handshake.Turn.payload = (turns.map Handshake.Turn.message).map (drop 32) := by
      rw [List.map_map]
      exact map_congr_left reflects.payloads
    refine ⟨by rw [payloads mine, payloads theirs, same], fun known remote => ?_⟩
    obtain ⟨index, turn, there, reads, rfl⟩ := mine.remote known remote
    have message : (others.map Handshake.Turn.message)[index]? = some turn.message := by
      rw [← same, getElem?_map, there]
      rfl
    rw [getElem?_map] at message
    obtain ⟨turn', there', message⟩ := map_eq_some_iff.mp message
    rw [← message]
    refine theirs.own index turn' there' ?_
    cases role <;> simp_all [Writes]

end OpenState

namespace NoiseParty
open KmNoise OpenState

/-- Certificates that say whether the authority signed them, and for which key. -/
def samplePki : Pki (Bool × NoiseKey) NoiseKey where
  fromDer
    | signed :: rest => ((Layout.vector 32).decode rest).map fun (key, _) => (signed = 1, key)
    | [] => none
  toDer cert := some ((if cert.1 then 1 else 0) :: cert.2.toList)
  publicKey cert := cert.2
  rawBytes key := key.toList
  verify cert _ := some cert.1

def sampleKeypair (byte : UInt8) : NoiseKeypair := ⟨.replicate 32 byte, .replicate 32 byte⟩

/-- A party with a signed certificate that knows the authority. -/
def sampleCertx (byte : UInt8) : KmCertExchange (Bool × NoiseKey) where
  localCert := some (true, .replicate 32 byte)
  authorityCert := some (false, .replicate 32 0)

def sampleKeyMsg (byte : UInt8) (zpis : ZPIPair) (key : HmacKey) : List UInt8 :=
  List.replicate 32 byte ++ KeyMsg.layout.encode ⟨zpis.encr, zpis.hmac, key⟩ ++ [0, 33, 1] ++ List.replicate 32 byte

/-- The initiator times out and starts again; the responder first gets a short message. -/
def sampleInitiator : List NoiseEvent :=
  [.reset (.replicate 32 1) 0 0, .tick 20000, .reset (.replicate 32 2) 1 20000,
    .message (sampleKeyMsg 9 ⟨5, 6⟩ (.replicate 32 4)) .noise 20010]

def sampleResponder : List NoiseEvent :=
  [.reset (.replicate 32 3) 0 0, .message [] .noise 1, .reset (.replicate 32 4) 1 2,
    .message (List.replicate 32 7) .noise 3, .message (sampleKeyMsg 7 ⟨3, 4⟩ (.replicate 32 2)) .noise 4]

theorem transport_agrees_sample : ∃ (initiator responder : NoiseParty OpenState Unit (Bool × NoiseKey))
    (saI saR : KmTransportSA Unit (Bool × NoiseKey)),
    initiator.machine.state = .transport saI ∧ responder.machine.state = .transport saR ∧
    Agrees openSnow samplePki true (sampleCertx 7) (sampleCertx 9) (.replicate 32 9) saI saR ∧
    Agrees openSnow samplePki true (sampleCertx 9) (sampleCertx 7) (.replicate 32 7) saR saI := by
  obtain ⟨initiator, ranI, transcriptI, saI, stateI⟩ : ∃ initiator,
      Run (step openSnow samplePki) (fun _ _ => True)
        (new true true (sampleKeypair 7) ⟨3, 4⟩ (sampleCertx 7)) sampleInitiator initiator ∧
      initiator.transcript = [replicate 32 7, sampleKeyMsg 9 ⟨5, 6⟩ (.replicate 32 4),
        sampleKeyMsg 7 ⟨3, 4⟩ (.replicate 32 2)] ∧ ∃ saI, initiator.machine.state = .transport saI :=
    ⟨_, .cons trivial rfl (.cons trivial rfl (.cons trivial rfl (.cons trivial rfl (.nil _)))), rfl, _, rfl⟩
  obtain ⟨responder, ranR, transcriptR, saR, stateR⟩ : ∃ responder,
      Run (step openSnow samplePki) (fun _ _ => True)
        (new false true (sampleKeypair 9) ⟨5, 6⟩ (sampleCertx 9)) sampleResponder responder ∧
      responder.transcript = [replicate 32 7, sampleKeyMsg 9 ⟨5, 6⟩ (.replicate 32 4),
        sampleKeyMsg 7 ⟨3, 4⟩ (.replicate 32 2)] ∧ ∃ saR, responder.machine.state = .transport saR :=
    ⟨_, .cons trivial rfl (.cons trivial rfl (.cons trivial rfl (.cons trivial rfl (.cons trivial rfl (.nil _))))), rfl,
      _, rfl⟩
  have same := transcriptI.trans transcriptR.symm
  obtain ⟨forth, back⟩ := transport_agrees openSnow_follows ranI ranR stateI stateR same
  exact ⟨initiator, responder, saI, saR, stateI, stateR, forth, back⟩

/-- The key manager of a message is one that there is. -/
def Known (_ : NoiseParty HandshakeState Transport Cert) : NoiseEvent → Prop
  | .message _ kmImpl _ => ∀ code, kmImpl ≠ .other code
  | _ => True

theorem step_holding {event next} (holding : p.machine.Holding) (known : p.Known event)
    (stepped : step snow pki p event = .ok next) : next.machine.Holding := by
  cases event with
  | reset recvHmacKey seed now =>
    obtain ⟨outcome, done, stepped⟩ := bind_ok.mp stepped
    cases stepped
    exact reset_holding.of_ok done
  | message bytes kmImpl now =>
    obtain ⟨outcome, done, stepped⟩ := bind_ok.mp stepped
    cases stepped
    exact (handleMessage_holding holding).of_ok done known
  | tick now =>
    cases stepped
    dsimp only [tick]
    split
    · split
      · exact nofun
      · exact holding
    · exact holding

end NoiseParty
end ZprCore.Km
