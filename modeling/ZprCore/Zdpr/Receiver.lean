import ZprCore.Lib.Bitset
import ZprCore.Zdpr.Sender

/-! The receiving side of a reliable ZDP session (`zdpr.rs`). Two 64-bit sets
remember which of the numbers just behind the highest accepted one were accepted,
and which of those were accepted as canceled. -/

namespace ZprCore.Zdpr

inductive Disposition where
  | ackAndProcess | ackDoNotProcess | ackCancelDoNotProcess | ignore
  deriving DecidableEq, Repr

namespace Disposition

def shouldAck : Disposition → Bool
  | .ackAndProcess | .ackDoNotProcess | .ackCancelDoNotProcess => true
  | .ignore => false

def ackIsCanceled : Disposition → Bool
  | .ackCancelDoNotProcess => true
  | _ => false

def shouldProcess : Disposition → Bool
  | .ackAndProcess => true
  | _ => false

end Disposition

inductive ReceiverStat where
  | tooOld | duplicate | tooNew | outOfOrder
  deriving DecidableEq, Repr

def ReceiverStat.isProtocolError : ReceiverStat → Bool
  | .tooNew => true
  | .tooOld | .duplicate | .outOfOrder => false

abbrev WindowBitset := BitVec 64

structure Receiver where
  windowSize : Nat
  highestSeen : SeqNum
  recvd : WindowBitset
  canceled : WindowBitset
  stats : ReceiverStat → Nat

namespace Receiver

def maxWindowSize : Nat := 64

def new (windowSize : Nat) : Except Panic Receiver := do
  Panic.check (windowSize ≥ 1) "window_size >= 1"
  Panic.check (windowSize ≤ maxWindowSize) "window_size <= Self::MAX_WINDOW_SIZE"
  return {
    windowSize
    highestSeen := BitVec.allOnes 64
    recvd := BitVec.allOnes 64
    canceled := BitVec.allOnes 64
    stats := fun _ => 0 }

variable (r : Receiver) (sn : SeqNum)

def oldestUnrecvdOffset : Int := -64 + Bitset.leadingOnes r.recvd + 1

def count (stat : ReceiverStat) : Receiver :=
  { r with stats := fun other => if other = stat then r.stats other + 1 else r.stats other }

/-- Shifting a 64-bit word by its width or more overflows. -/
def shiftLeft (bits : WindowBitset) (amount : Int) : Except Panic WindowBitset :=
  if 0 ≤ amount ∧ amount < 64 then .ok (bits <<< amount.toNat) else .error .overflow

def processPacketOrCancel (isCancel : Bool) : Except Panic (Disposition × Receiver) := do
  let offset := Serial.distance sn r.highestSeen
  if offset ≤ -(r.windowSize : Int) then return (.ignore, r.count .tooOld)
  if offset ≥ r.oldestUnrecvdOffset + r.windowSize then return (.ignore, r.count .tooNew)
  if offset > 0 then
    let recvd ← shiftLeft r.recvd offset
    let canceled ← shiftLeft r.canceled offset
    let next := { r with highestSeen := r.highestSeen + BitVec.ofInt 64 offset, recvd := recvd ||| 1#64 }
    if isCancel then return (.ackCancelDoNotProcess, { next with canceled := canceled ||| 1#64 })
    return (.ackAndProcess, { next with canceled })
  let back ← Panic.neg64 offset
  if (r.recvd >>> back.toNat) &&& 1#64 = 0#64 then
    let bit ← shiftLeft 1#64 back
    let next := { r.count .outOfOrder with recvd := r.recvd ||| bit }
    if isCancel then return (.ackCancelDoNotProcess, { next with canceled := r.canceled ||| bit })
    return (.ackAndProcess, next)
  if (r.canceled >>> back.toNat) &&& 1#64 = 0#64 then return (.ackDoNotProcess, r.count .duplicate)
  return (.ackCancelDoNotProcess, r.count .duplicate)

def processPacket : Except Panic (Disposition × Receiver) :=
  r.processPacketOrCancel sn false

def processCancel : Except Panic (Disposition × Receiver) :=
  r.processPacketOrCancel sn true

def shouldProcessPacket : Except Panic Bool := do
  let offset := Serial.distance sn r.highestSeen
  if offset ≤ -(r.windowSize : Int) then return false
  if offset ≥ r.oldestUnrecvdOffset + r.windowSize then return false
  if offset > 0 then return true
  let back ← Panic.neg64 offset
  return (r.recvd >>> back.toNat) &&& 1#64 = 0#64

/-- Data and cancel messages, one after the other. -/
def processAll (r : Receiver) : List (SeqNum × Bool) → Except Panic (List Disposition × Receiver)
  | [] => .ok ([], r)
  | (sn, isCancel) :: rest => do
    let (disposition, next) ← r.processPacketOrCancel sn isCancel
    let (dispositions, last) ← next.processAll rest
    return (disposition :: dispositions, last)

def fetchResetStat (stat : ReceiverStat) : Nat × Receiver :=
  (r.stats stat, { r with stats := fun other => if other = stat then 0 else r.stats other })

end Receiver
end ZprCore.Zdpr
