import ZprCore.Node.Tables

/-! The evidence with which an actor authenticates (`auth.rs`, `visa_mgmt.rs`). Base64, JSON and
the keyed hash come from outside. -/

namespace ZprCore.Auth
open Datapath (IpAddress)
open Node (unspecified)

abbrev AuthKey := Vector UInt8 32

/-- Seconds. -/
def maxBlobAgeSeconds : Nat := 120

/-- A challenge: eight random bytes, the time it was made at, and a hash over both. -/
structure ZdpInitAuthenticationPayload where
  nonce : Vector UInt8 8
  ctime : BitVec 64
  hmac : Vector UInt8 32
  deriving DecidableEq

namespace ZdpInitAuthenticationPayload

def layout : Layout ZdpInitAuthenticationPayload :=
  (Layout.pair (.vector 8) (.pair (.uint 8) (.vector 32))).via
    { toFun := fun (nonce, ctime, hmac) => ⟨nonce, ctime, hmac⟩
      invFun := fun payload => (payload.nonce, payload.ctime, payload.hmac) }

def asBytes (payload : ZdpInitAuthenticationPayload) : List UInt8 := layout.encode payload

def readFromBytes (bytes : List UInt8) : Option ZdpInitAuthenticationPayload := (layout.decode bytes).map (·.1)

end ZdpInitAuthenticationPayload

structure ZdpSelfSignedBlob where
  ts : UInt64
  cn : String
  challenge : String
  sig : String
  deriving DecidableEq

structure ZdpAuthCodeBlob where
  code : String
  pkce : String
  clientId : String
  asa : String
  deriving DecidableEq

inductive AuthBlob where
  | selfSigned (blob : ZdpSelfSignedBlob)
  | authCode (blob : ZdpAuthCodeBlob)
  deriving DecidableEq

def AuthBlob.isSelfSigned : AuthBlob → Bool
  | .selfSigned _ => true
  | .authCode _ => false

inductive AuthError where
  | decodeError
  | serializationError
  | formatError (message : String)
  | invalidHmac
  | challengeTooOld
  | authError (message : String)
  | rejected (message : String)
  | service
  deriving DecidableEq

/-- `blobType` reads the field of a JSON object that has one; it is nothing if the field is not a
string. -/
structure Primitives where
  encodeBase64 : List UInt8 → String
  decodeBase64 : String → Option (List UInt8)
  decode_encode : ∀ bytes, decodeBase64 (encodeBase64 bytes) = some bytes
  keyedHash : AuthKey → List UInt8 → Vector UInt8 32
  blobType : List UInt8 → Except AuthError (Option String)
  parseSelfSigned : List UInt8 → Except AuthError ZdpSelfSignedBlob
  parseAuthCode : List UInt8 → Except AuthError ZdpAuthCodeBlob
  parseAddr : String → Option IpAddress

section
variable (p : Primitives)

def ZdpInitAuthenticationPayload.new (key : AuthKey) (nonce : Vector UInt8 8) (now : BitVec 64) :
    ZdpInitAuthenticationPayload :=
  ⟨nonce, now, p.keyedHash key (nonce.toList ++ (Layout.uint 8).encode now)⟩

/-- The challenge is one that was made with this key, not too long ago. -/
def ZdpSelfSignedBlob.verifyBlobChallenge (blob : ZdpSelfSignedBlob) (key : AuthKey) (now : BitVec 64) :
    Except AuthError Unit := do
  let some payloadBytes := p.decodeBase64 blob.challenge | throw .decodeError
  if payloadBytes.length ≠ ZdpInitAuthenticationPayload.layout.size then
    throw (.formatError "challenge size is incorrect")
  let some zpayload := ZdpInitAuthenticationPayload.readFromBytes payloadBytes
    | throw (.formatError "failed to deserialize ZdpInitAuthenticationPayload")
  if p.keyedHash key (zpayload.nonce.toList ++ (Layout.uint 8).encode zpayload.ctime) ≠ zpayload.hmac then
    throw .invalidHmac
  if now.toNat > zpayload.ctime.toNat + maxBlobAgeSeconds then throw .challengeTooOld

def decodeBlob (text : String) : Except AuthError AuthBlob := do
  let some json := p.decodeBase64 text | throw .decodeError
  match ← p.blobType json with
  | some "SS" => return .selfSigned (← p.parseSelfSigned json)
  | some "AC" => return .authCode (← p.parseAuthCode json)
  | _ => throw (.formatError "unsupported authentication evidence type")

/-- Evidence as the visa service is given it. -/
inductive VsBlob where
  | ss (challenge : List UInt8) (cn : String) (timestamp : UInt64) (signature : List UInt8)
  | ac (asaAddr : IpAddress) (code pkce clientId : String)
  deriving DecidableEq

/-- The address claim is present if an address was asked for, the name claim with self-signed
evidence. -/
structure ConnectRequest where
  blob : VsBlob
  zprAddr : Option IpAddress
  cn : Option String
  a2aDhPublicKey : List UInt8
  deriving DecidableEq

def buildConnectRequest (addr : IpAddress) (a2aDhPublicKey : Option (List UInt8)) :
    AuthBlob → Except String ConnectRequest
  | .selfSigned blob => do
    let some challenge := p.decodeBase64 blob.challenge | throw "invalid actor challenge"
    let some signature := p.decodeBase64 blob.sig | throw "invalid actor signature"
    return {
      blob := .ss challenge blob.cn blob.ts signature
      zprAddr := if addr = unspecified then none else some addr
      cn := some blob.cn
      a2aDhPublicKey := a2aDhPublicKey.getD [] }
  | .authCode blob => do
    let some asaAddr := p.parseAddr blob.asa | throw "invalid authentication service address"
    return {
      blob := .ac asaAddr blob.code blob.pkce blob.clientId
      zprAddr := if addr = unspecified then none else some addr
      cn := none
      a2aDhPublicKey := a2aDhPublicKey.getD [] }

end
end ZprCore.Auth
