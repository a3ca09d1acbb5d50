import ZprCore.Km.CertExchange
import ZprCore.Lib.Handshake
import ZprCore.Lib.Runs

/-! The Noise key manager (`km_noise.rs`). The Noise library, the keys it derives and the
clock come from outside. Times are in milliseconds. -/

namespace ZprCore.Km
open Datapath

inductive KmError where
  | configurationError | invalidState | handshakeError | certExchangeError
  | machineError (text : String) (problem : SnowError)

inductive KmSMState (Transport Cert : Type) where
  | configuring
  | transport (ts : KmTransportSA Transport Cert)
  | error

abbrev NoiseKey := Vector UInt8 32

structure NoiseKeypair where
  privateKey : NoiseKey
  publicKey : NoiseKey

structure KeyMsg where
  zpiFullEncr : Zpi
  zpiTransitHmac : Zpi
  hmacKey : HmacKey

def KeyMsg.layout : Layout KeyMsg :=
  (Layout.pair Layout.u8 (Layout.pair Layout.u8 (Layout.vector 32))).via
    { toFun := fun (zpiFullEncr, zpiTransitHmac, hmacKey) => ⟨zpiFullEncr, zpiTransitHmac, hmacKey⟩
      invFun := fun msg => (msg.zpiFullEncr, msg.zpiTransitHmac, msg.hmacKey) }

def handshakeTimeout : Nat := 15000

/-- The first message of the three is not encrypted. -/
def msgCarriesZpiPayload (msgNr : Nat) : Bool := msgNr = 1 ∨ msgNr = 2

structure KmNoise (HandshakeState Transport Cert : Type) where
  state : KmSMState Transport Cert
  msgNr : Nat
  initiate : Bool
  verifyCert : Bool
  localKeypair : NoiseKeypair
  hsSentT : Option Nat
  hsState : Option HandshakeState
  recvHmacKey : HmacKey
  sendHmacKey : Option HmacKey
  recvZpis : ZPIPair
  sendZpis : Option ZPIPair
  certx : KmCertExchange Cert
  peerCert : Option (PeerCertificate Cert)

/-- The Noise library, in the pattern it is configured for. -/
abbrev Snow (HandshakeState Transport : Type) := Handshake SnowError NoiseKey HandshakeState Transport

namespace KmNoise
variable {HandshakeState Transport Cert Key : Type} (snow : Snow HandshakeState Transport) (pki : Pki Cert Key)

def new (initiate verifyCert : Bool) (localKeypair : NoiseKeypair) (zpis : ZPIPair) (certx : KmCertExchange Cert) :
    KmNoise HandshakeState Transport Cert where
  state := .configuring
  msgNr := 0
  initiate
  verifyCert
  localKeypair
  hsSentT := none
  hsState := none
  recvHmacKey := .replicate 32 0
  sendHmacKey := none
  recvZpis := zpis
  sendZpis := none
  certx
  peerCert := none

/-- The next message number, which is a byte. -/
def nextMsgNr (msgNr : Nat) : Except Panic Nat := if msgNr < 255 then .ok (msgNr + 1) else .error .overflow

/-- What a handshake message carries to the peer. -/
def keyPayload (self : KmNoise HandshakeState Transport Cert) : Except KmError (List UInt8) :=
  if msgCarriesZpiPayload self.msgNr then
    match self.certx.writePayload pki with
    | .error _ => .error .certExchangeError
    | .ok cert => .ok (KeyMsg.layout.encode ⟨self.recvZpis.encr, self.recvZpis.hmac, self.recvHmacKey⟩ ++ cert)
  else .ok []

/-- The message and the handshake after it. -/
def createHsMessage (hs : HandshakeState) (self : KmNoise HandshakeState Transport Cert) :
    Except Panic (Except KmError (List UInt8 × HandshakeState) × KmNoise HandshakeState Transport Cert) :=
  match self.keyPayload pki with
  | .error problem => .ok (.error problem, self)
  | .ok payload =>
    match snow.writeMessage hs payload with
    | .error _ => .ok (.error .handshakeError, self)
    | .ok written => do return (.ok written, { self with msgNr := ← nextMsgNr self.msgNr })

/-- The ZPIs and the HMAC key are taken even if the certificate is refused. -/
def parseKmPayload (payload peerPublicKey : List UInt8) (self : KmNoise HandshakeState Transport Cert) :
    Except KmError Unit × KmNoise HandshakeState Transport Cert :=
  match KeyMsg.layout.decode payload with
  | none => (.error .handshakeError, self)
  | some (km, rest) =>
    let self := { self with sendZpis := some ⟨km.zpiFullEncr, km.zpiTransitHmac⟩, sendHmacKey := some km.hmacKey }
    match self.certx.processPayload pki rest peerPublicKey with
    | .error _ => (.error .certExchangeError, self)
    | .ok peerCert => (.ok (), { self with peerCert })

def fail (problem : KmError) (hsState : Option HandshakeState) (self : KmNoise HandshakeState Transport Cert) :
    Except KmError (Option (List UInt8)) × KmNoise HandshakeState Transport Cert :=
  (.error problem, { self with state := .error, hsState })

/-- A new handshake with a new HMAC key. The ZPIs and the certificate of the peer are kept. -/
def reset (recvHmacKey : HmacKey) (seed now : Nat) (self : KmNoise HandshakeState Transport Cert) :
    Except Panic (Except KmError (Option (List UInt8)) × KmNoise HandshakeState Transport Cert) :=
  let self := { self with state := .configuring, msgNr := 0, recvHmacKey, sendHmacKey := none }
  match snow.build self.initiate self.localKeypair.privateKey seed with
  | .error problem =>
    let text := if self.initiate then "failed to build initiator: " else "failed to build responder: "
    .ok (self.fail (.machineError text problem) self.hsState)
  | .ok hs =>
    if self.initiate then do
      match ← self.createHsMessage snow pki hs with
      | (.error _, self) => return self.fail .handshakeError self.hsState
      | (.ok (hsMsg, hs), self) => return (.ok (some hsMsg), { self with hsState := some hs, hsSentT := some now })
    else .ok (.ok none, { self with hsState := some hs, hsSentT := none })

/-- The payload of a message that has been read. -/
def acceptPayload (msgNr : Nat) (payload : List UInt8) (hs : HandshakeState) (self : KmNoise HandshakeState Transport Cert) :
    Except KmError Unit × KmNoise HandshakeState Transport Cert :=
  if msgCarriesZpiPayload msgNr then
    match snow.getRemoteStatic hs with
    | none => (.error .certExchangeError, self)
    | some peerPubkey =>
      match self.parseKmPayload pki payload peerPubkey with
      | (.error _, self) => (.error .handshakeError, self)
      | (.ok (), self) =>
        if self.verifyCert ∧ self.certx.requiresVerification ∧ ¬ self.peerCert.any (·.isVerified) then
          (.error .certExchangeError, self)
        else (.ok (), self)
  else (.ok (), self)

/-- A finished handshake gives the security association. -/
def finish (kmImpl : KmId) (hs : HandshakeState) (hsMsg : Option (List UInt8))
    (self : KmNoise HandshakeState Transport Cert) :
    Except KmError (Option (List UInt8)) × KmNoise HandshakeState Transport Cert :=
  match self.sendZpis, self.sendHmacKey with
  | none, _ | _, none => self.fail .handshakeError none
  | some sendZpis, some sendHmacKey =>
    match snow.intoSession hs with
    | .error _ => self.fail .handshakeError none
    | .ok t =>
      let sa (codec : Codec Transport) : KmTransportSA Transport Cert :=
        ⟨0, self.recvZpis, sendZpis, sendHmacKey, self.recvHmacKey, codec, self.peerCert⟩
      match kmImpl with
      | .noise => (.ok hsMsg, { self with state := .transport (sa (.noise t 1)) })
      | .null => (.ok hsMsg, { self with state := .transport (sa .null) })
      | .other _ => (.error .handshakeError, self)

/-- After a message that has been read: a message in return, unless the handshake is
finished, and the association if it is finished then. -/
def proceed (kmImpl : KmId) (now : Nat) (hs : HandshakeState) (self : KmNoise HandshakeState Transport Cert) :
    Except Panic (Except KmError (Option (List UInt8)) × KmNoise HandshakeState Transport Cert) :=
  if snow.isHandshakeFinished hs then .ok (self.finish snow kmImpl hs none)
  else do
    match ← self.createHsMessage snow pki hs with
    | (.error _, self) => return self.fail .handshakeError (some hs)
    | (.ok (hsMsg, hs), self) =>
      let self := { self with hsSentT := some now }
      if snow.isHandshakeFinished hs then return self.finish snow kmImpl hs (some hsMsg)
      return (.ok (some hsMsg), { self with hsState := some hs })

/-- The handshake is out of its place while a message is handled. -/
def handleMessage (message : List UInt8) (kmImpl : KmId) (now : Nat) (self : KmNoise HandshakeState Transport Cert) :
    Except Panic (Except KmError (Option (List UInt8)) × KmNoise HandshakeState Transport Cert) :=
  match self.state, self.hsState with
  | .transport _, _ | .error, _ => .ok (.error .invalidState, self)
  | .configuring, none => .error (.assertion "self.hs_state.is_some()")
  | .configuring, some hs =>
    let self := { self with hsSentT := none, hsState := none }
    match snow.readMessage hs message with
    | .error _ => .ok (self.fail .handshakeError (some hs))
    | .ok (payload, hs) => do
      let msgNr := self.msgNr
      let self := { self with msgNr := ← nextMsgNr msgNr }
      match self.acceptPayload snow pki msgNr payload hs with
      | (.error problem, self) => return self.fail problem (some hs)
      | (.ok (), self) => self.proceed snow pki kmImpl now hs

def tick (now : Nat) (self : KmNoise HandshakeState Transport Cert) :
    Except KmError (Option (List UInt8)) × KmNoise HandshakeState Transport Cert :=
  match self.state, self.hsState, self.hsSentT with
  | .configuring, some _, some sent =>
    if now - sent > handshakeTimeout then
      (.error .handshakeError, { self with hsState := none, hsSentT := none, state := .error })
    else (.ok none, self)
  | _, _, _ => (.ok none, self)

end KmNoise

/-- What drives a key manager: resets, messages from anywhere and the clock. -/
inductive NoiseEvent where
  | reset (recvHmacKey : HmacKey) (seed now : Nat)
  | message (bytes : List UInt8) (kmImpl : KmId) (now : Nat)
  | tick (now : Nat)

/-- A key manager and the messages of its present handshake. -/
structure NoiseParty (HandshakeState Transport Cert : Type) where
  machine : KmNoise HandshakeState Transport Cert
  transcript : List (List UInt8)

namespace NoiseParty
variable {HandshakeState Transport Cert Key : Type}

/-- A message that is read becomes part of the handshake. -/
def received (snow : Snow HandshakeState Transport) (machine : KmNoise HandshakeState Transport Cert)
    (message : List UInt8) : List (List UInt8) :=
  match machine.state, machine.hsState with
  | .configuring, some hs =>
    match snow.readMessage hs message with
    | .ok _ => [message]
    | .error _ => []
  | _, _ => []

def sent : Except KmError (Option (List UInt8)) → List (List UInt8)
  | .ok message => message.toList
  | .error _ => []

def step (snow : Snow HandshakeState Transport) (pki : Pki Cert Key) (p : NoiseParty HandshakeState Transport Cert) :
    NoiseEvent → Except Panic (NoiseParty HandshakeState Transport Cert)
  | .reset recvHmacKey seed now => do
    let (result, machine) ← p.machine.reset snow pki recvHmacKey seed now
    return ⟨machine, sent result⟩
  | .message bytes kmImpl now => do
    let (result, machine) ← p.machine.handleMessage snow pki bytes kmImpl now
    return ⟨machine, p.transcript ++ received snow p.machine bytes ++ sent result⟩
  | .tick now => .ok { p with machine := (p.machine.tick now).2 }

end NoiseParty
end ZprCore.Km
