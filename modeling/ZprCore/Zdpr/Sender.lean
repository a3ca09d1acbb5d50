import ZprCore.Lib.Panic
import ZprCore.Lib.Serial

/-! The sending side of a reliable ZDP session (`zdpr.rs`). Sequence numbers and
packet ids are 64-bit words compared by their signed difference. Deques are lists
with the oldest entry first. An operation that wakes wakers returns them. -/

namespace ZprCore.Zdpr
open Serial

abbrev SeqNum := BitVec 64
abbrev QueuedPacketId := BitVec 64

inductive Waker where
  | noop
  | task (id : Nat)
  deriving DecidableEq, Repr

inductive SenderStat where
  | invalidAck | tooOldAck | duplicateAck | tooNewAck
  deriving DecidableEq, Repr

def SenderStat.isProtocolError : SenderStat → Bool
  | .invalidAck | .tooNewAck => true
  | .tooOldAck | .duplicateAck => false

inductive UnackedState (Pkt : Type) where
  | unacked (packet : Pkt) (waker : Waker) (retryLimit : Option UInt8) (retryCount : UInt8) (forgotten : Bool)
  | cancelRequested (waker : Waker) (forgotten : Bool)
  | acked
  | cancelAcked
  deriving DecidableEq, Repr

/-- The lowest limit specified remains in effect. -/
def lowerLimit (current : Option UInt8) (limit : UInt8) : Option UInt8 :=
  some (min limit (current.getD 255))

namespace UnackedState
variable {Pkt : Type}

def isAcked : UnackedState Pkt → Bool
  | .acked | .cancelAcked => true
  | .unacked .. | .cancelRequested .. => false

def cancel : UnackedState Pkt → Option Pkt × UnackedState Pkt
  | .unacked packet waker _ _ forgotten => (some packet, .cancelRequested waker forgotten)
  | state => (none, state)

def limitRetries (limit : UInt8) : UnackedState Pkt → UnackedState Pkt
  | .unacked packet waker retryLimit retryCount forgotten =>
    .unacked packet waker (lowerLimit retryLimit limit) retryCount forgotten
  | state => state

def forget : UnackedState Pkt → UnackedState Pkt
  | .unacked packet waker (some limit) retryCount _ => .unacked packet waker (some limit) retryCount true
  | .cancelRequested waker _ => .cancelRequested waker true
  | .cancelAcked => .acked
  | state => state

def ageRetries : UnackedState Pkt → Option Pkt × UnackedState Pkt
  | .unacked packet waker (some limit) retryCount forgotten =>
    if retryCount ≥ limit then cancel (.unacked packet waker (some limit) retryCount forgotten)
    else (none, .unacked packet waker (some limit) (if retryCount = 255 then 255 else retryCount + 1) forgotten)
  | .unacked packet waker none retryCount forgotten =>
    (none, .unacked packet waker none (if retryCount = 255 then 255 else retryCount + 1) forgotten)
  | state => (none, state)

def destruct : UnackedState Pkt → Option Pkt × List Waker
  | .unacked packet waker _ _ _ => (some packet, [waker])
  | .cancelRequested waker _ => (none, [waker])
  | .acked | .cancelAcked => (none, [])

/-- What an acknowledgement does to one entry: the packet to give back and the
waker to wake, or the statistic that counts why it was not heeded. -/
def processAck : UnackedState Pkt → Except SenderStat (Option Pkt × Waker)
  | .unacked packet waker _ _ _ => .ok (some packet, waker)
  | .cancelRequested waker _ => .ok (none, waker)
  | .acked => .error .duplicateAck
  | .cancelAcked => .error .invalidAck

/-- What a cancellation acknowledgement does to one entry. -/
def processCanceled : UnackedState Pkt → Except SenderStat (Waker × UnackedState Pkt)
  | .cancelRequested waker forgotten => .ok (waker, if forgotten then .acked else .cancelAcked)
  | .unacked .. | .acked => .error .invalidAck
  | .cancelAcked => .error .duplicateAck

def setWaker (waker : Waker) : UnackedState Pkt → UnackedState Pkt
  | .unacked packet _ retryLimit retryCount forgotten => .unacked packet waker retryLimit retryCount forgotten
  | .cancelRequested _ forgotten => .cancelRequested waker forgotten
  | state => state

/-- The retries left are a checked difference of bytes. -/
def display : UnackedState Pkt → Except Panic String
  | .unacked _ _ none _ _ => .ok "u"
  | .unacked _ _ (some limit) retryCount _ =>
    if retryCount ≤ limit then .ok (toString (limit - retryCount)) else .error .overflow
  | .cancelRequested _ true => .ok "f"
  | .cancelRequested _ false => .ok "c"
  | .acked => .ok "A"
  | .cancelAcked => .ok "C"

end UnackedState

inductive BlockedState (Pkt : Type) where
  | blocked (packet : Pkt) (waker : Waker) (retryLimit : Option UInt8)
  | canceled
  deriving Repr

namespace BlockedState
variable {Pkt : Type}

def cancel : BlockedState Pkt → Option (Pkt × Waker) × BlockedState Pkt
  | .blocked packet waker _ => (some (packet, waker), .canceled)
  | .canceled => (none, .canceled)

def limitRetries (limit : UInt8) : BlockedState Pkt → BlockedState Pkt
  | .blocked packet waker retryLimit => .blocked packet waker (lowerLimit retryLimit limit)
  | .canceled => .canceled

def destruct : BlockedState Pkt → Option Pkt × List Waker
  | .blocked packet waker _ => (some packet, [waker])
  | .canceled => (none, [])

def display : BlockedState Pkt → String
  | .blocked _ _ none => "b"
  | .blocked _ _ (some limit) => toString limit
  | .canceled => "C"

end BlockedState

structure Sender (Pkt : Type) where
  windowSize : Nat
  lastSent : SeqNum
  unacked : List (UnackedState Pkt)
  lastEnqueued : QueuedPacketId
  blocked : List (BlockedState Pkt)
  sent : List (Option SeqNum)
  stats : SenderStat → Nat

inductive EnqueueResult (Pkt : Type) where
  | sent (seqNum : SeqNum) (packet : Pkt)
  | queued (id : QueuedPacketId)

inductive Poll (α : Type) where
  | ready (value : α)
  | pending
  deriving DecidableEq

namespace Sender
variable {Pkt : Type} (s : Sender Pkt) (id : QueuedPacketId) (sn : SeqNum)

def new : Sender Pkt where
  windowSize := 1
  lastSent := BitVec.allOnes 64
  unacked := []
  lastEnqueued := BitVec.allOnes 64
  blocked := []
  sent := []
  stats := fun _ => 0

/-- The clamp to the maximum window size of a 64-bit `usize` is kept. -/
def adjustWindowSize (windowSize : Nat) : Except Panic (Sender Pkt) := do
  Panic.check (windowSize ≥ 1) "window_size >= 1"
  return { s with windowSize := min (2 ^ 64 - 1) windowSize }

def isBlocked : Bool := s.unacked.length ≥ s.windowSize

def hasBlockedPackets : Bool := !s.blocked.isEmpty

def isSent : Except Panic Bool := do
  let back ← Panic.neg64 (distance id s.lastEnqueued)
  return back ≥ s.blocked.length

def isAcked (s : Sender Pkt) (sn : SeqNum) : Except Panic Bool := do
  let offset := distance sn s.lastSent
  if offset > 0 then return false
  let back ← Panic.neg64 offset
  if back ≥ s.unacked.length then return true
  let entry ← Panic.get s.unacked (s.unacked.length + offset - 1).toNat
  return entry.isAcked

def isCancelAcked : Except Panic Bool := do
  let offset := distance sn s.lastSent
  Panic.check (offset ≤ 0) "packet must have been acknowledged"
  let back ← Panic.neg64 offset
  if back ≥ s.unacked.length then return false
  let entry ← Panic.get s.unacked (s.unacked.length + offset - 1).toNat
  match entry with
  | .unacked .. | .cancelRequested .. => throw (.assertion "packet must have been acknowledged")
  | .cancelAcked => return true
  | .acked => return false

def lookupSeqNum : Except Panic (Option SeqNum) := do
  let offset := distance id s.lastEnqueued + s.blocked.length
  Panic.check (offset ≤ 0) "lookup of packet which has not yet been sent"
  let back ← Panic.neg64 offset
  if back ≥ s.sent.length then return none
  Panic.get s.sent (s.sent.length + offset - 1).toNat

def pollSend (waker : Waker) (id : QueuedPacketId) : Except Panic (Poll (Option SeqNum) × Sender Pkt) := do
  let offset := distance id s.lastEnqueued
  Panic.check (offset ≤ 0) "poll of packet which has not yet been enqueued"
  let back ← Panic.neg64 offset
  if back ≥ s.blocked.length then
    return (.ready (← s.lookupSeqNum id), s)
  let index := (s.blocked.length + offset - 1).toNat
  match ← Panic.get s.blocked index with
  | .canceled => throw (.assertion "poll of cancelled packet")
  | .blocked packet _ retryLimit =>
    return (.pending, { s with blocked := s.blocked.set index (.blocked packet waker retryLimit) })

def pollAck (waker : Waker) (sn : SeqNum) : Except Panic (Poll Unit × Sender Pkt) := do
  let offset := distance sn s.lastSent
  Panic.check (offset ≤ 0) "poll of packet which has not yet been sent"
  let back ← Panic.neg64 offset
  if back ≥ s.unacked.length then return (.ready (), s)
  let index := (s.unacked.length + offset - 1).toNat
  let entry ← Panic.get s.unacked index
  if entry.isAcked then return (.ready (), s)
  return (.pending, { s with unacked := s.unacked.set index (entry.setWaker waker) })

def pollSendAndAck (waker : Waker) (id : QueuedPacketId) : Except Panic (Poll Unit × Sender Pkt) := do
  match ← s.pollSend waker id with
  | (.pending, s) => return (.pending, s)
  | (.ready none, s) => return (.ready (), s)
  | (.ready (some sn), s) => s.pollAck waker sn

/-- Canceled entries at the front of the blocked queue move to the sent queue. -/
def cleanBlocked : List (BlockedState Pkt) → List (Option SeqNum) →
    List (BlockedState Pkt) × List (Option SeqNum)
  | .canceled :: rest, sent => cleanBlocked rest (sent ++ [none])
  | blocked, sent => (blocked, sent)

def cleanBlockedQueue : Sender Pkt :=
  let (blocked, sent) := cleanBlocked s.blocked s.sent
  { s with blocked, sent }

def cleanUnacked : List (UnackedState Pkt) → List (UnackedState Pkt)
  | .acked :: rest => cleanUnacked rest
  | unacked => unacked

def cleanUnackedQueue : Sender Pkt := { s with unacked := cleanUnacked s.unacked }

def cleanSent (s : Sender Pkt) : List (Option SeqNum) → Except Panic (List (Option SeqNum))
  | [] => .ok []
  | none :: rest => cleanSent s rest
  | some sn :: rest => do
    if !(← s.isAcked sn) then return some sn :: rest
    cleanSent s rest

def cleanSentQueue : Except Panic (Sender Pkt) := do
  return { s with sent := ← cleanSent s s.sent }

def enqueuePacket (packet : Pkt) : EnqueueResult Pkt × Sender Pkt :=
  if s.isBlocked || s.hasBlockedPackets then
    let id := s.lastEnqueued + 1
    (.queued id, { s with lastEnqueued := id, blocked := s.blocked ++ [.blocked packet .noop none] })
  else
    let sn := s.lastSent + 1
    (.sent sn packet, { s with lastSent := sn, unacked := s.unacked ++ [.unacked packet .noop none 0 false] })

def cancelQueuedPacket : Except Panic (Option Pkt × List Waker × Sender Pkt) := do
  let offset := distance id s.lastEnqueued
  Panic.check (offset ≤ 0) "cancel of packet which has not yet been enqueued"
  let back ← Panic.neg64 offset
  if back ≥ s.blocked.length then return (none, [], s)
  let index := (s.blocked.length + offset - 1).toNat
  let entry ← Panic.get s.blocked index
  let canceled := { s with blocked := s.blocked.set index entry.cancel.2 }
  match entry.cancel.1 with
  | none => return (none, [], canceled)
  | some (packet, waker) =>
    return (some packet, [waker], if index = 0 then canceled.cleanBlockedQueue else canceled)

/-- The window index of a sequence number, if it is in the window. -/
def sentIndex : Except Panic (Option Nat) := do
  let offset := distance sn s.lastSent
  if offset > 0 then return none
  let back ← Panic.neg64 offset
  if back ≥ s.unacked.length then return none
  return some (s.unacked.length + offset - 1).toNat

def cancelSentPacket : Except Panic (Option Pkt × Sender Pkt) := do
  match ← s.sentIndex sn with
  | none => return (none, s)
  | some index =>
    let entry ← Panic.get s.unacked index
    return (entry.cancel.1, { s with unacked := s.unacked.set index entry.cancel.2 })

def limitRetriesBySeqNum (limit : UInt8) : Except Panic (Sender Pkt) := do
  match ← s.sentIndex sn with
  | none => return s
  | some index =>
    let entry ← Panic.get s.unacked index
    return { s with unacked := s.unacked.set index (entry.limitRetries limit) }

def limitRetriesById (limit : UInt8) : Except Panic (Sender Pkt) := do
  let offset := distance id s.lastEnqueued
  Panic.check (offset ≤ 0) "retry-limiting of packet which has not yet been enqueued"
  let back ← Panic.neg64 offset
  if back ≥ s.blocked.length then
    match ← s.lookupSeqNum id with
    | some sn => s.limitRetriesBySeqNum sn limit
    | none => return s
  else
    let index := (s.blocked.length + offset - 1).toNat
    let entry ← Panic.get s.blocked index
    return { s with blocked := s.blocked.set index (entry.limitRetries limit) }

def forgetCanceledPacket : Except Panic (Sender Pkt) := do
  match ← s.sentIndex sn with
  | none => return s
  | some index =>
    let entry ← Panic.get s.unacked index
    let forgotten := { s with unacked := s.unacked.set index entry.forget }
    cleanSentQueue (if index = 0 then forgotten.cleanUnackedQueue else forgotten)

def count (stat : SenderStat) : Sender Pkt :=
  { s with stats := fun other => if other = stat then s.stats other + 1 else s.stats other }

/-- The window index an acknowledgement refers to. One outside the window is
counted and refers to nothing. -/
def lookupAckIndex : Except Panic (Option Nat × Sender Pkt) := do
  let offset := distance sn s.lastSent
  if offset > 0 then return (none, s.count .tooNewAck)
  let back ← Panic.neg64 offset
  if back ≥ s.unacked.length then return (none, s.count .tooOldAck)
  return (some (s.unacked.length + offset - 1).toNat, s)

def processAck (s : Sender Pkt) (sn : SeqNum) : Except Panic (Option Pkt × List Waker × Sender Pkt) := do
  match ← s.lookupAckIndex sn with
  | (none, s) => return (none, [], s)
  | (some index, s) =>
    match (← Panic.get s.unacked index).processAck with
    | .error stat => return (none, [], s.count stat)
    | .ok (packet, waker) =>
      let acked := { s with unacked := s.unacked.set index .acked }
      let cleaned ← cleanSentQueue (if index = 0 then acked.cleanUnackedQueue else acked)
      return (packet, [waker], cleaned)

def processCanceled (s : Sender Pkt) (sn : SeqNum) : Except Panic (List Waker × Sender Pkt) := do
  match ← s.lookupAckIndex sn with
  | (none, s) => return ([], s)
  | (some index, s) =>
    match (← Panic.get s.unacked index).processCanceled with
    | .error stat => return ([], s.count stat)
    | .ok (waker, entry) =>
      let canceled := { s with unacked := s.unacked.set index entry }
      let cleaned ← cleanSentQueue (if index = 0 then canceled.cleanUnackedQueue else canceled)
      return ([waker], cleaned)

def unblockNeeded : Bool := !s.isBlocked && s.hasBlockedPackets

def enqueueNextBlockedPacket : Except Panic ((SeqNum × Pkt) × List Waker × Sender Pkt) := do
  Panic.check (!s.isBlocked) "sender is blocked"
  match s.blocked with
  | [] => throw (.assertion "no blocked packets")
  | .canceled :: _ => throw (.assertion "sender is blocked")
  | .blocked packet waker retryLimit :: rest =>
    let sn := s.lastSent + 1
    let next : Sender Pkt := { s with
      blocked := rest
      unacked := s.unacked ++ [.unacked packet .noop retryLimit 0 false]
      lastSent := sn
      sent := s.sent ++ [some sn] }
    return ((sn, packet), [waker], next.cleanBlockedQueue)

def retryNeeded : Bool := s.unacked.any (fun entry => !entry.isAcked)

/-- The returned iterator ages an entry when it reaches it, so a caller that
stops early has aged only the entries it `visited`. -/
def ageRetries (s : Sender Pkt) (visited : Nat) : List Pkt × Sender Pkt :=
  ((s.unacked.take visited).filterMap (fun entry => entry.ageRetries.1),
    { s with unacked := (s.unacked.take visited).map (fun entry => entry.ageRetries.2) ++ s.unacked.drop visited })

/-- The sequence number of the oldest entry of the window. -/
def seqNumBase : SeqNum := s.lastSent - BitVec.ofNat 64 s.unacked.length + 1

def seqNumAt (index : Nat) : SeqNum := s.seqNumBase + BitVec.ofNat 64 index

def retryPackets : List (SeqNum × Pkt) :=
  s.unacked.zipIdx.filterMap fun (entry, index) =>
    match entry with
    | .unacked packet .. => some (s.seqNumAt index, packet)
    | _ => none

def retryCancels : List SeqNum :=
  s.unacked.zipIdx.filterMap fun (entry, index) =>
    match entry with
    | .cancelRequested .. => some (s.seqNumAt index)
    | _ => none

def destruct (s : Sender Pkt) : List Pkt × List Waker :=
  (s.unacked.filterMap (fun entry => entry.destruct.1) ++ s.blocked.filterMap (fun entry => entry.destruct.1),
    s.unacked.flatMap (fun entry => entry.destruct.2) ++ s.blocked.flatMap (fun entry => entry.destruct.2))

def fetchResetStat (stat : SenderStat) : Nat × Sender Pkt :=
  (s.stats stat, { s with stats := fun other => if other = stat then 0 else s.stats other })

def displayUnacked : List (UnackedState Pkt) → Except Panic String
  | [] => .ok ""
  | entry :: rest => do return (← entry.display) ++ (← displayUnacked rest)

def display (s : Sender Pkt) : Except Panic String := do
  let oldestSent := s.lastSent + 1 - BitVec.ofNat 64 s.unacked.length
  let unacked ← displayUnacked s.unacked
  let oldestEnqueued := s.lastEnqueued + 1 - BitVec.ofNat 64 s.blocked.length
  let blocked := String.join (s.blocked.map BlockedState.display)
  return "window size: " ++ toString s.windowSize ++
    "\nUnacked: " ++ toString oldestSent.toNat ++ " " ++ unacked ++ " " ++ toString s.lastSent.toNat ++
    "\nBlocked: " ++ toString oldestEnqueued.toNat ++ " " ++ blocked ++ " " ++ toString s.lastEnqueued.toNat ++ "\n"

end Sender
end ZprCore.Zdpr
