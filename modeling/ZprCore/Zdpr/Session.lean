import ZprCore.Lib.Runs
import ZprCore.Zdpr.Receiver

/-! One sender and one receiver joined by a network that may lose, duplicate, delay
and reorder. The network remembers every message ever sent, and the environment
delivers any of them at any time. The history records what the two ends decided. -/

namespace ZprCore.Zdpr

inductive Message (Pkt : Type) where
  | data (seqNum : SeqNum) (packet : Pkt)
  | cancel (seqNum : SeqNum)
  | ack (seqNum : SeqNum)
  | canceled (seqNum : SeqNum)
  deriving DecidableEq

/-- What the caller of a sender may do at any time. -/
inductive SenderOp (Pkt : Type) where
  | enqueuePacket (packet : Pkt)
  | enqueueNextBlockedPacket
  | cancelQueuedPacket (id : QueuedPacketId)
  | cancelSentPacket (sn : SeqNum)
  | limitRetriesById (id : QueuedPacketId) (limit : UInt8)
  | limitRetriesBySeqNum (sn : SeqNum) (limit : UInt8)
  | forgetCanceledPacket (sn : SeqNum)
  | adjustWindowSize (windowSize : Nat)
  | ageRetries (visited : Nat)
  | retryPackets
  | retryCancels
  | pollSend (waker : Waker) (id : QueuedPacketId)
  | pollAck (waker : Waker) (sn : SeqNum)
  | pollSendAndAck (waker : Waker) (id : QueuedPacketId)
  | fetchResetStat (stat : SenderStat)

/-- One caller operation, with the messages the caller then puts on the wire. -/
def Sender.perform {Pkt : Type} (s : Sender Pkt) :
    SenderOp Pkt → Except Panic (List (Message Pkt) × Sender Pkt)
  | .enqueuePacket packet =>
    match s.enqueuePacket packet with
    | (.sent sn packet, s) => .ok ([.data sn packet], s)
    | (.queued _, s) => .ok ([], s)
  | .enqueueNextBlockedPacket => do
    let ((sn, packet), _, s) ← s.enqueueNextBlockedPacket
    return ([.data sn packet], s)
  | .cancelQueuedPacket id => do return ([], (← s.cancelQueuedPacket id).2.2)
  | .cancelSentPacket sn => do
    match ← s.cancelSentPacket sn with
    | (some _, s) => return ([.cancel sn], s)
    | (none, s) => return ([], s)
  | .limitRetriesById id limit => do return ([], ← s.limitRetriesById id limit)
  | .limitRetriesBySeqNum sn limit => do return ([], ← s.limitRetriesBySeqNum sn limit)
  | .forgetCanceledPacket sn => do return ([], ← s.forgetCanceledPacket sn)
  | .adjustWindowSize windowSize => do return ([], ← s.adjustWindowSize windowSize)
  | .ageRetries visited => .ok ([], (s.ageRetries visited).2)
  | .retryPackets => .ok (s.retryPackets.map fun (sn, packet) => .data sn packet, s)
  | .retryCancels => .ok (s.retryCancels.map .cancel, s)
  | .pollSend waker id => do return ([], (← s.pollSend waker id).2)
  | .pollAck waker sn => do return ([], (← s.pollAck waker sn).2)
  | .pollSendAndAck waker id => do return ([], (← s.pollSendAndAck waker id).2)
  | .fetchResetStat stat => .ok ([], (s.fetchResetStat stat).2)

/-- Every call of a sender: its user's operations, and acknowledgements of any number. -/
inductive SenderCall (Pkt : Type) where
  | op (op : SenderOp Pkt)
  | processAck (sn : SeqNum)
  | processCanceled (sn : SeqNum)

/-- What a call gives out: messages for the wire, packets handed back, and wakers it has woken. -/
structure Answer (Pkt : Type) where
  messages : List (Message Pkt)
  back : List Pkt
  woken : List Waker

/-- The packets and wakers an operation lets go of. -/
def Sender.released {Pkt : Type} (s : Sender Pkt) : SenderOp Pkt → List Pkt × List Waker
  | .enqueueNextBlockedPacket =>
    match s.enqueueNextBlockedPacket with
    | .ok (_, woken, _) => ([], woken)
    | .error _ => ([], [])
  | .cancelQueuedPacket id =>
    match s.cancelQueuedPacket id with
    | .ok (packet, woken, _) => (packet.toList, woken)
    | .error _ => ([], [])
  | .cancelSentPacket sn =>
    match s.cancelSentPacket sn with
    | .ok (packet, _) => (packet.toList, [])
    | .error _ => ([], [])
  | .ageRetries visited => ((s.ageRetries visited).1, [])
  | _ => ([], [])

def Sender.call {Pkt : Type} (s : Sender Pkt) : SenderCall Pkt → Except Panic (Answer Pkt × Sender Pkt)
  | .op op => do
    let (messages, next) ← s.perform op
    return (⟨messages, (s.released op).1, (s.released op).2⟩, next)
  | .processAck sn => do
    let (packet, woken, next) ← s.processAck sn
    return (⟨[], packet.toList, woken⟩, next)
  | .processCanceled sn => do
    let (woken, next) ← s.processCanceled sn
    return (⟨[], [], woken⟩, next)

def Disposition.reply {Pkt : Type} (disposition : Disposition) (sn : SeqNum) : List (Message Pkt) :=
  if disposition.shouldAck then if disposition.ackIsCanceled then [.canceled sn] else [.ack sn] else []

/-- Dispatch of a received management packet (`dispatch.rs`). A packet to be
processed that finds the management queue full is treated as never received. -/
def Receiver.dispatchPacket (r : Receiver) (sn : SeqNum) (queueFull : Bool) :
    Except Panic (Disposition × Receiver) := do
  if (← r.shouldProcessPacket sn) && queueFull then return (.ignore, r)
  r.processPacket sn

inductive Event where
  | processed (seqNum : SeqNum)
  | acked (seqNum : SeqNum)
  | cancelAccepted (seqNum : SeqNum)
  deriving DecidableEq

structure Session (Pkt : Type) where
  sender : Sender Pkt
  receiver : Receiver
  network : List (Message Pkt)
  history : List Event

inductive Action (Pkt : Type) where
  | call (op : SenderOp Pkt)
  | deliver (index : Nat) (queueFull : Bool)

namespace Session
variable {Pkt : Type}

def new (windowSize : Nat) : Except Panic (Session Pkt) := do
  return { sender := .new, receiver := ← Receiver.new windowSize, network := [], history := [] }

/-- The sender wakes a waker exactly when it heeds an acknowledgement. -/
def deliver (s : Session Pkt) (queueFull : Bool) : Message Pkt → Except Panic (Session Pkt)
  | .data sn _ => do
    let (disposition, receiver) ← s.receiver.dispatchPacket sn queueFull
    return { s with
      receiver
      network := s.network ++ disposition.reply sn
      history := s.history ++ if disposition.shouldProcess then [.processed sn] else [] }
  | .cancel sn => do
    let (disposition, receiver) ← s.receiver.processCancel sn
    return { s with
      receiver
      network := s.network ++ disposition.reply sn
      history := s.history ++ if disposition.shouldProcess then [.processed sn] else [] }
  | .ack sn => do
    let (_, woken, sender) ← s.sender.processAck sn
    return { s with sender, history := s.history ++ if woken.isEmpty then [] else [.acked sn] }
  | .canceled sn => do
    let (woken, sender) ← s.sender.processCanceled sn
    return { s with sender, history := s.history ++ if woken.isEmpty then [] else [.cancelAccepted sn] }

def step (s : Session Pkt) : Action Pkt → Except Panic (Session Pkt)
  | .call op => do
    let (messages, sender) ← s.sender.perform op
    return { s with sender, network := s.network ++ messages }
  | .deliver index queueFull =>
    match s.network[index]? with
    | none => .ok s
    | some message => s.deliver queueFull message

/-- The sender's window is never adjusted beyond the receiver's. -/
def Allowed (s : Session Pkt) : Action Pkt → Prop
  | .call (.adjustWindowSize windowSize) => windowSize ≤ s.receiver.windowSize
  | _ => True

end Session
end ZprCore.Zdpr
