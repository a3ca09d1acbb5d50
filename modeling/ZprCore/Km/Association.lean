import ZprCore.Datapath.Zdp

/-! The security association of a link (`km.rs`, `km_noise.rs`). Certificates and the
transport state of the Noise library come from outside and are type parameters. A codec
keeps the nonce of the next message it encrypts. -/

namespace ZprCore.Km
open Datapath

inductive KmId where
  | noise | null
  | other (code : UInt16)
  deriving DecidableEq

structure ZPIPair where
  encr : Zpi
  hmac : Zpi
  deriving DecidableEq

abbrev HmacKey := Vector UInt8 32

inductive PeerCertificate (Cert : Type) where
  | verified (cert : Cert)
  | unverified (cert : Cert)

namespace PeerCertificate
variable {Cert : Type}

def getCert : PeerCertificate Cert → Cert
  | .verified cert | .unverified cert => cert

def isVerified : PeerCertificate Cert → Bool
  | .verified _ => true
  | .unverified _ => false

end PeerCertificate

inductive Codec (Transport : Type) where
  | noise (snowState : Transport) (encrNonce : UInt64)
  | null
  | unimpl

structure KmTransportSA (Transport Cert : Type) where
  saId : Nat
  recvZpis : ZPIPair
  sendZpis : ZPIPair
  sendHmacKey : HmacKey
  recvHmacKey : HmacKey
  codec : Codec Transport
  peerCert : Option (PeerCertificate Cert)

inductive SnowError where
  | input | decrypt | other

/-- The messages of an established Noise session, each under its own nonce. -/
structure StatelessTransport (Transport : Type) where
  writeMessage : Transport → UInt64 → List UInt8 → Except SnowError (List UInt8)
  readMessage : Transport → UInt64 → List UInt8 → Except SnowError (List UInt8)

inductive EncryptionError where
  | internalError | messageTooLarge | parseError

inductive DecryptionError where
  | internalError | messageTooShort | parseError | decryptFailed

def noiseNonceLen : Nat := 8
def noisePadlen : Nat := 16 + noiseNonceLen

def nonceBytes (nonce : UInt64) : List UInt8 := (Layout.uint 8).encode nonce.toBitVec

/-- The nonce a message starts with, and the rest of the message. -/
def splitNonce (payload : List UInt8) : Option (UInt64 × List UInt8) :=
  ((Layout.uint 8).decode payload).map fun (nonce, rest) => (⟨nonce⟩, rest)

namespace Codec
variable {Transport : Type} (snow : StatelessTransport Transport)

def maxOverhead : Codec Transport → Nat
  | .noise _ _ => noisePadlen
  | .null | .unimpl => 0

/-- Encrypts into a buffer with the given room. The nonce is used up even if
encryption fails. -/
def encryptTransportStateless (payload : List UInt8) (room : Nat) :
    Codec Transport → Except Panic (Except EncryptionError (List UInt8) × Codec Transport)
  | .noise state nonce =>
    match snow.writeMessage state nonce payload with
    | .ok message => .ok (.ok (nonceBytes nonce ++ message), .noise state (nonce + 1))
    | .error .input => .ok (.error .messageTooLarge, .noise state (nonce + 1))
    | .error _ => .error (.assertion "noise encryption failed")
  | .null => .ok (if room < payload.length then .error .parseError else .ok payload, .null)
  | .unimpl => .ok (.error .internalError, .unimpl)

/-- Decrypts a message that has been split into its nonce and ciphertext. -/
def decryptSplit (state : Transport) :
    Option (UInt64 × List UInt8) → Except DecryptionError (List UInt8)
  | none => .error .messageTooShort
  | some (nonce, message) =>
    match snow.readMessage state nonce message with
    | .ok plaintext => .ok plaintext
    | .error .decrypt => .error .decryptFailed
    | .error _ => .error .internalError

def decryptTransportStateless (payload : List UInt8) (room : Nat) :
    Codec Transport → Except DecryptionError (List UInt8)
  | .noise state _ => decryptSplit snow state (splitNonce payload)
  | .null => if room < payload.length then .error .parseError else .ok payload
  | .unimpl => .error .internalError

end Codec
end ZprCore.Km
