import ZprCore.Km.Association

/-! Certificates in the key exchange (`km_cert_exchange.rs`). Parsing, encoding and
verification come from outside; their errors are only logged. -/

namespace ZprCore.Km
open Datapath

structure Pki (Cert Key : Type) where
  fromDer : List UInt8 → Option Cert
  toDer : Cert → Option (List UInt8)
  publicKey : Cert → Key
  rawBytes : Key → List UInt8
  verify : Cert → Key → Option Bool

inductive CertExchangeError where
  | certificateFormatError | certificateParseError | invalidPayloadError | shortPayloadError | bufferSizeError
  | keyMismatchError

structure KmCertExchange (Cert : Type) where
  localCert : Option Cert
  authorityCert : Option Cert

namespace KmCertExchange
variable {Cert Key : Type} (pki : Pki Cert Key) (self : KmCertExchange Cert)

/-- The encoded local certificate, empty if there is none. -/
def certDer : Except CertExchangeError (List UInt8) :=
  match self.localCert with
  | none => .ok []
  | some cert =>
    match pki.toDer cert with
    | none => .error .certificateFormatError
    | some der => .ok der

/-- The buffer grows as needed, so it never is too short. -/
def writePayload : Except CertExchangeError (List UInt8) := do
  let certDer ← self.certDer pki
  if certDer.length > 65535 then throw .certificateFormatError
  return Layout.u16.encode (UInt16.ofNat certDer.length) ++ certDer

def isVerified (cert : Cert) : Bool :=
  match self.authorityCert with
  | none => false
  | some authorityCert => pki.verify cert (pki.publicKey authorityCert) = some true

def processPayload (payload expectedPeerPublicKey : List UInt8) :
    Except CertExchangeError (Option (PeerCertificate Cert)) :=
  match Layout.u16.decode payload with
  | none => .error .shortPayloadError
  | some (certLen, rest) =>
    if certLen = 0 then .ok none
    else if rest.length < certLen.toNat then .error .shortPayloadError
    else
      match pki.fromDer (rest.take certLen.toNat) with
      | none => .error .certificateParseError
      | some cert =>
        if pki.rawBytes (pki.publicKey cert) ≠ expectedPeerPublicKey then .error .keyMismatchError
        else .ok (some (if self.isVerified pki cert then .verified cert else .unverified cert))

def requiresVerification : Bool := self.authorityCert.isSome

end KmCertExchange
end ZprCore.Km
