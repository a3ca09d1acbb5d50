import ZprCore.Datapath.Defs
import ZprCore.Lib.Panic

/-! Packet buffers (`packet.rs`). A packet body sits between headroom and tailroom;
taking more room than there is, or reading past the body, panics. What the room
holds is never read, so only its size is kept. -/

namespace ZprCore.Datapath

structure Packet where
  headroom : Nat
  body : List UInt8
  tailroom : Nat
  fiveTuple : FiveTuple
  ingressLaneId : UInt8
  ingressLinkId : Nat
  ingressStreamId : Nat

/-- Indexing into bytes, `copy_within` and the conversions of a prefix to a header. -/
def copyWithin (bytes : List UInt8) (start stop dest : Nat) : Except Panic (List UInt8) :=
  if start ≤ stop ∧ stop ≤ bytes.length ∧ dest + (stop - start) ≤ bytes.length then
    .ok (bytes.take dest ++ (bytes.drop start).take (stop - start) ++ bytes.drop (dest + (stop - start)))
  else .error .bounds

def refFromPrefix {α : Type} (layout : Layout α) (bytes : List UInt8) : Except Panic α :=
  match layout.decode bytes with
  | some (value, _) => .ok value
  | none => .error (.assertion "called Result::unwrap() on an Err value")

def mutFromPrefix {α : Type} (layout : Layout α) (update : α → α) (bytes : List UInt8) : Except Panic (List UInt8) :=
  match layout.decode bytes with
  | some (value, rest) => .ok (layout.encode (update value) ++ rest)
  | none => .error (.assertion "called Result::unwrap() on an Err value")

/-- The first bytes of a slice, as in `&body[..length]`. -/
def slicePrefix (bytes : List UInt8) (length : Nat) : Except Panic (List UInt8) :=
  if length ≤ bytes.length then .ok (bytes.take length) else .error .bounds

namespace Packet
variable (pkt : Packet)

def advance (cnt : Nat) : Except Panic Packet := do
  Panic.check (cnt ≤ pkt.body.length) "cnt <= self.remaining()"
  return { pkt with headroom := pkt.headroom + cnt, body := pkt.body.drop cnt }

def pushHeader (header : List UInt8) : Except Panic Packet := do
  Panic.check (header.length ≤ pkt.headroom) "cnt <= self.headroom_available()"
  return { pkt with headroom := pkt.headroom - header.length, body := header ++ pkt.body }

def pushU16 (data : UInt16) : Except Panic Packet := pkt.pushHeader (Layout.bytes16 data)

def allocZeroedHeadroom (cnt : Nat) : Except Panic Packet := pkt.pushHeader (List.replicate cnt 0)

/-- Reading through the buffer interface consumes the bytes read. -/
def get {α : Type} (pkt : Packet) (layout : Layout α) : Except Panic (α × Packet) :=
  match layout.decode pkt.body with
  | some (value, rest) => .ok (value, { pkt with headroom := pkt.headroom + layout.size, body := rest })
  | none => .error (.assertion "advance out of bounds")

def getU8 : Except Panic (UInt8 × Packet) := pkt.get .u8

def getU16 : Except Panic (UInt16 × Packet) := pkt.get .u16

def put (data : List UInt8) : Except Panic Packet := do
  Panic.check (data.length ≤ pkt.tailroom) "advance out of bounds"
  return { pkt with body := pkt.body ++ data, tailroom := pkt.tailroom - data.length }

def shrinkBy (cnt : Nat) : Except Panic Packet := do
  Panic.check (cnt ≤ pkt.body.length) "cnt <= md.len"
  return { pkt with body := pkt.body.take (pkt.body.length - cnt), tailroom := pkt.tailroom + cnt }

/-- Output written into the tailroom becomes the body, behind a header moved in front of it. -/
def adoptTailroomWithHeader (headerLen : Nat) (written : List UInt8) : Except Panic Packet := do
  Panic.check (headerLen ≤ pkt.body.length) "header_len <= self.metadata().len"
  Panic.check (written.length ≤ pkt.tailroom) "written <= self.tailroom_available()"
  return { pkt with
    headroom := pkt.headroom + pkt.body.length - headerLen
    body := pkt.body.take headerLen ++ written
    tailroom := pkt.tailroom - written.length }

def withBody (body : Except Panic (List UInt8)) : Except Panic Packet := do
  return { pkt with body := ← body }

end Packet
end ZprCore.Datapath
