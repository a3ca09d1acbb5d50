import ZprCore.Datapath.Packet
import ZprCore.Lib.Table

/-! Type-length-value data (`tlv.rs`). Visas in Cap'n Proto form and the lossy reading of version
strings come from outside. -/

namespace ZprCore.Mgmt
open Datapath (Packet SocketAddr)

abbrev TlvType := UInt8

namespace DataType

def null : TlvType := 0
def policyId : TlvType := 1
def version : TlvType := 2
def aaa : TlvType := 3
def asa : TlvType := 4
def staticAddr : TlvType := 5
def windowSize : TlvType := 6
def a2aDhPubkey : TlvType := 7
def bootstrapVisa : TlvType := 8
def actorAuthProtocol : TlvType := 9
def vsBootstrapLink : TlvType := 10

end DataType

inductive TlvError where
  | badStructure

inductive TlvValue (Visa : Type) where
  | u16 (value : UInt16)
  | i64 (value : BitVec 64)
  | str (value : String)
  | ipv6Addr (value : Vector UInt8 16)
  | ipv4Addr (value : Vector UInt8 4)
  | socketAddr (value : SocketAddr)
  | x25519PubKey (value : Vector UInt8 32)
  | visa (value : Visa)

structure TlvPrimitives (Visa : Type) where
  fromUtf8Lossy : List UInt8 → String
  writeVisa : Visa → List UInt8
  readVisa : List UInt8 → Option Visa

structure TlvEncoding (Visa : Type) where
  tlvType : TlvType
  value : TlvValue Visa

section
variable {Visa : Type}

def TlvEncoding.newAsa (sockAddr : SocketAddr) : TlvEncoding Visa := ⟨DataType.asa, .socketAddr sockAddr⟩

section
variable (pkt : Packet) (tlvType : TlvType)

/-- A header with the length of the value, and the value. -/
def putTlv (value : List UInt8) : Except Panic Packet := do
  let pkt ← pkt.put [tlvType, UInt8.ofNat value.length]
  pkt.put value

def putU16 (value : UInt16) : Except Panic Packet :=
  putTlv pkt tlvType (Layout.bytes16 value)

def putI64 (value : BitVec 64) : Except Panic Packet :=
  putTlv pkt tlvType ((Layout.uint 8).encode value)

/-- Cut off after 255 bytes. -/
def putStr (value : String) : Except Panic Packet :=
  putTlv pkt tlvType (value.toUTF8.data.toList.take 255)

def putIpv6addr (value : Vector UInt8 16) : Except Panic Packet :=
  putTlv pkt tlvType value.toList

def putIpv4addr (value : Vector UInt8 4) : Except Panic Packet :=
  putTlv pkt tlvType value.toList

def putX25519Pubkey (value : Vector UInt8 32) : Except Panic Packet :=
  putTlv pkt tlvType value.toList

/-- Flow information and scope are left out. -/
def putSocketaddr : SocketAddr → Except Panic Packet
  | .v4 ip port => putTlv pkt tlvType (ip.toList ++ Layout.bytes16 port)
  | .v6 ip port _ _ => putTlv pkt tlvType (ip.toList ++ Layout.bytes16 port)

end

variable (p : TlvPrimitives Visa)

def putVisa (pkt : Packet) (tlvType : TlvType) (visa : Visa) : Except Panic Packet := do
  let msgBuf := p.writeVisa visa
  Panic.check (msgBuf.length ≤ 255) "msg_buf.len() <= u8::MAX as usize"
  putTlv pkt tlvType msgBuf

def TlvEncoding.put (encoding : TlvEncoding Visa) (pkt : Packet) : Except Panic Packet :=
  match encoding.value with
  | .u16 value => putU16 pkt encoding.tlvType value
  | .i64 value => putI64 pkt encoding.tlvType value
  | .str value => putStr pkt encoding.tlvType value
  | .ipv6Addr value => putIpv6addr pkt encoding.tlvType value
  | .ipv4Addr value => putIpv4addr pkt encoding.tlvType value
  | .socketAddr value => putSocketaddr pkt encoding.tlvType value
  | .x25519PubKey value => putX25519Pubkey pkt encoding.tlvType value
  | .visa value => putVisa p pkt encoding.tlvType value

end

/-- Reading from a buffer consumes what is read; reading past its end panics. -/
def getBuf {α : Type} (layout : Layout α) (buf : List UInt8) : Except Panic (α × List UInt8) :=
  match layout.decode buf with
  | some read => .ok read
  | none => .error (.assertion "advance out of bounds")

def copyToBytes (buf : List UInt8) (len : Nat) : Except Panic (List UInt8 × List UInt8) :=
  if len ≤ buf.length then .ok (buf.take len, buf.drop len) else .error (.assertion "advance out of bounds")

section
variable {Visa : Type} (p : TlvPrimitives Visa)

def parseAddressValue (buf : List UInt8) (tlvLength : Nat) :
    Except Panic (Except TlvError (Option (TlvValue Visa) × List UInt8)) :=
  if buf.length < tlvLength then .ok (.error .badStructure)
  else match tlvLength with
  | 4 => do
    let (value, buf) ← getBuf (.vector 4) buf
    return .ok (some (.ipv4Addr value), buf)
  | 16 => do
    let (value, buf) ← getBuf (.vector 16) buf
    return .ok (some (.ipv6Addr value), buf)
  | _ => .ok (.error .badStructure)

def parseSocketaddr (buf : List UInt8) (tlvLength : Nat) :
    Except Panic (Except TlvError (Option (TlvValue Visa) × List UInt8)) :=
  match tlvLength with
  | 6 => do
    let ((ip, port), buf) ← getBuf (.pair (.vector 4) .u16) buf
    return .ok (some (.socketAddr (.v4 ip port)), buf)
  | 18 => do
    let ((ip, port), buf) ← getBuf (.pair (.vector 16) .u16) buf
    return .ok (some (.socketAddr (.v6 ip port 0 0)), buf)
  | _ => .ok (.error .badStructure)

/-- Values of unknown types are skipped. -/
def parseValue (tlvType : TlvType) (buf : List UInt8) (tlvLength : Nat) :
    Except Panic (Except TlvError (Option (TlvValue Visa) × List UInt8)) :=
  if tlvType = DataType.policyId then
    if tlvLength ≠ 8 then .ok (.error .badStructure)
    else do
      let (value, buf) ← getBuf (.uint 8) buf
      return .ok (some (.i64 value), buf)
  else if tlvType = DataType.version then do
    let (strbuf, buf) ← copyToBytes buf tlvLength
    return .ok (some (.str (p.fromUtf8Lossy strbuf)), buf)
  else if tlvType = DataType.aaa ∨ tlvType = DataType.staticAddr then parseAddressValue buf tlvLength
  else if tlvType = DataType.asa then parseSocketaddr buf tlvLength
  else if tlvType = DataType.a2aDhPubkey then
    if tlvLength ≠ 32 then .ok (.error .badStructure)
    else do
      let (key, buf) ← getBuf (.vector 32) buf
      return .ok (some (.x25519PubKey key), buf)
  else if tlvType = DataType.windowSize ∨ tlvType = DataType.actorAuthProtocol ∨ tlvType = DataType.vsBootstrapLink then
    if tlvLength ≠ 2 then .ok (.error .badStructure)
    else do
      let (value, buf) ← getBuf .u16 buf
      return .ok (some (.u16 value), buf)
  else if tlvType = DataType.bootstrapVisa then do
    let (msgBuf, buf) ← copyToBytes buf tlvLength
    match p.readVisa msgBuf with
    | none => return .error .badStructure
    | some visa => return .ok (some (.visa visa), buf)
  else do
    let (_, buf) ← copyToBytes buf tlvLength
    return .ok (none, buf)

/-- What the loop does with a type byte and what follows it. -/
def parseTlv (tlvType : TlvType) (buf : List UInt8) :
    Except Panic (Except TlvError (Option (TlvValue Visa) × List UInt8)) :=
  if tlvType = DataType.null then .ok (.ok (none, buf))
  else match buf with
  | [] => .ok (.error .badStructure)
  | tlvLength :: buf =>
    if buf.length < tlvLength.toNat then .ok (.error .badStructure) else parseValue p tlvType buf tlvLength.toNat

abbrev TlvMap (Visa : Type) := Table TlvType (List (TlvValue Visa))

def TlvMap.push (tlvMap : TlvMap Visa) (tlvType : TlvType) (value : Option (TlvValue Visa)) : TlvMap Visa :=
  match value with
  | none => tlvMap
  | some value => tlvMap.insert tlvType ((Table.get tlvMap tlvType).getD [] ++ [value])

/-- Every turn consumes a byte, so there are no more turns than bytes. -/
def parseTurns : Nat → TlvMap Visa → List UInt8 → Except Panic (Except TlvError (TlvMap Visa))
  | turns + 1, tlvMap, tlvType :: buf => do
    match ← parseTlv p tlvType buf with
    | .error problem => return .error problem
    | .ok (value, buf) => parseTurns turns (tlvMap.push tlvType value) buf
  | _, tlvMap, _ => .ok (.ok tlvMap)

def parseFromBuf (buf : List UInt8) : Except Panic (Except TlvError (TlvMap Visa)) := parseTurns p buf.length ∅ buf

end
end ZprCore.Mgmt
