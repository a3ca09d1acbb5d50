import Mathlib

/-! Handshakes of two parties, as an implementation offers them. A party builds its state
from a private key, then writes and reads messages until the handshake is finished. What it
draws at random is fixed by a seed. -/

structure Handshake (ε Key State Session : Type) where
  publicKey : Key → List UInt8
  build : (initiator : Bool) → Key → (seed : Nat) → Except ε State
  writeMessage : State → (payload : List UInt8) → Except ε (List UInt8 × State)
  readMessage : State → (message : List UInt8) → Except ε (List UInt8 × State)
  getRemoteStatic : State → Option (List UInt8)
  isHandshakeFinished : State → Bool
  intoSession : State → Except ε Session

namespace Handshake
variable {ε Key State Session : Type}

/-- One message and what it carries. -/
structure Turn where
  payload : List UInt8
  message : List UInt8

/-- A party came to a state by some turns. -/
inductive Conversed (handshake : Handshake ε Key State Session) (initiator : Bool) (key : Key) :
    List Turn → State → Prop where
  | built {seed : Nat} {state : State} (built : handshake.build initiator key seed = .ok state) :
      Conversed handshake initiator key [] state
  | wrote {turns : List Turn} {state next : State} {payload message : List UInt8}
      (before : Conversed handshake initiator key turns state)
      (written : handshake.writeMessage state payload = .ok (message, next)) :
      Conversed handshake initiator key (turns ++ [⟨payload, message⟩]) next
  | read {turns : List Turn} {state next : State} {payload message : List UInt8}
      (before : Conversed handshake initiator key turns state)
      (read : handshake.readMessage state message = .ok (payload, next)) :
      Conversed handshake initiator key (turns ++ [⟨payload, message⟩]) next

/-- The handshake takes some number of messages. Two parties that saw the same messages agree
on what the messages carried, and each knows the other by its public key. -/
structure Follows (handshake : Handshake ε Key State Session) (count : Nat) : Prop where
  finished : ∀ {initiator key turns state}, handshake.Conversed initiator key turns state →
    (handshake.isHandshakeFinished state = true ↔ turns.length = count)
  writes : ∀ {state payload message next}, handshake.writeMessage state payload = .ok (message, next) →
    handshake.getRemoteStatic next = handshake.getRemoteStatic state
  agrees : ∀ {role key other turns others state peer}, handshake.Conversed role key turns state →
    handshake.Conversed (!role) other others peer → turns.map Turn.message = others.map Turn.message →
    turns.map Turn.payload = others.map Turn.payload ∧
    ∀ known, handshake.getRemoteStatic state = some known → known = handshake.publicKey other

end Handshake
