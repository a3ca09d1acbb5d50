import ZprCore.Datapath.Buffer
import ZprCore.Datapath.Substrate

/-! Encryption of packets in their own buffers (`encrypt_full` and `decrypt_full` of `fastpath.rs`),
with any codec. -/

namespace ZprCore.Datapath
open Km

/-- What a codec does to the buffer it is given for its output: a result and the bytes of the
buffer, as many as before. -/
abbrev Output (ε : Type) (message : List UInt8) : Type :=
  Except Panic (Except ε Nat × { after : List UInt8 // after.length = message.length })

/-- An implementation of the `Codec` trait, in the state it is called in. -/
structure DynCodec where
  maxOverhead : Nat
  encryptTransportStateless : (payload message : List UInt8) → Output EncryptionError message
  decryptTransportStateless : (payload message : List UInt8) → Output DecryptionError message

namespace NullCodec

/-- The payload is the message. -/
def copy {ε : Type} (problem : ε) (payload message : List UInt8) : Output ε message :=
  if small : message.length < payload.length then .ok (.error problem, ⟨message, rfl⟩)
  else .ok (.ok payload.length,
    ⟨Slices.patch message 0 payload, Slices.patch_length (by rw [Nat.zero_add]; exact Nat.not_lt.mp small)⟩)

def codec : DynCodec where
  maxOverhead := 0
  encryptTransportStateless := copy .parseError
  decryptTransportStateless := copy .parseError

end NullCodec

namespace LinkCrypto
open Substrate (zpiHdrLen)
variable {minBodyOffset : Nat}

/-- A transform from the body into the tailroom of the same buffer. -/
def inPlace {ε : Type} (transform : (payload message : List UInt8) → Output ε message) (b : Buffer minBodyOffset) :
    Except Panic (Except ε Unit × Buffer minBodyOffset) := do
  let (result, tailroom) ← transform (b.body.drop zpiHdrLen) b.tailroom
  let b := b.setTailroom tailroom.1 tailroom.2
  match result with
  | .ok len => return (.ok (), ← b.adoptTailroomWithHeader zpiHdrLen len)
  | .error problem => return (.error problem, b)

/-- The same by way of a scratch buffer. -/
def viaScratch {ε : Type} (transform : (payload message : List UInt8) → Output ε message) (b : Buffer minBodyOffset) :
    Except Panic (Except ε Unit × Buffer minBodyOffset) := do
  let encrLen := b.len - zpiHdrLen
  let (result, scratch) ← transform (b.body.drop zpiHdrLen) (List.replicate packetBufferSize 0)
  match result with
  | .ok len =>
    let b ← b.shrinkBy encrLen
    return (.ok (), ← b.put (← slicePrefix scratch.1 len))
  | .error problem => return (.error problem, b)

def encryptFull (codec : DynCodec) (b : Buffer minBodyOffset) :
    Except Panic (Except EncryptionError Unit × Buffer minBodyOffset) :=
  if b.len < zpiHdrLen then .ok (.error .parseError, b)
  else if b.tailroomAvailable ≥ b.len - zpiHdrLen + codec.maxOverhead then inPlace codec.encryptTransportStateless b
  else viaScratch codec.encryptTransportStateless b

/-- Every failure of the codec is a decryption failure. -/
def decryptionFailure : Except DecryptionError Unit → Except DecryptError Unit
  | .ok done => .ok done
  | .error _ => .error .decryptionFailure

def decryptFull (codec : DynCodec) (padlen : Nat) (b : Buffer minBodyOffset) :
    Except Panic (Except DecryptError Unit × Buffer minBodyOffset) := do
  if b.len < zpiHdrLen then return (.error .badStructure, b)
  let encrLen := b.len - zpiHdrLen
  if encrLen < padlen then return (.error .badStructure, b)
  let (result, b) ← if b.tailroomAvailable ≥ encrLen then inPlace codec.decryptTransportStateless b
    else viaScratch codec.decryptTransportStateless b
  return (decryptionFailure result, b)

end LinkCrypto
end ZprCore.Datapath
