import ZprCore.Mgmt.Dispatch
import ZprCore.Zdpr.Session

/-! Packets of a link in the hands of their senders (`mgmt/core.rs`, `zdpr_worker.rs`). Sending
a management packet returns a future that stands for it; what is done with the future is done
to the link's ZDPR sender. The link is one that stays up, so its peer is always found. -/

namespace ZprCore.Mgmt
open Zdpr

inductive PacketId where
  | queued (id : QueuedPacketId)
  | sent (seqNum : SeqNum)
  | acked
  | canceled

inductive PacketStatus where
  | acked | canceled
  deriving DecidableEq

section
variable {Pkt : Type} (s : Sender Pkt) (waker : Waker)

def updateSentPacketId : Option SeqNum → PacketId
  | some seqNum => .sent seqNum
  | none => .acked

/-- Gives the packet back if it was still queued. -/
def tryCancelInternal : PacketId → Except Panic (Option Pkt × PacketId × Sender Pkt)
  | .queued id => do
    match ← s.cancelQueuedPacket id with
    | (some packet, _, s) => return (some packet, .queued id, s)
    | (none, _, s) => return (none, updateSentPacketId (← s.lookupSeqNum id), s)
  | packetId => .ok (none, packetId, s)

def cancelSent (seqNum : SeqNum) : Except Panic (List (Message Pkt) × PacketId × Sender Pkt) := do
  match ← s.cancelSentPacket seqNum with
  | (none, s) => return ([], .sent seqNum, s)
  | (some _, s) => return ([.cancel seqNum], .sent seqNum, s)

def requestCancelInternal : PacketId → Except Panic (List (Message Pkt) × PacketId × Sender Pkt)
  | .queued id => do
    match ← tryCancelInternal s (.queued id) with
    | (some _, _, s) => return ([], .canceled, s)
    | (none, .sent seqNum, s) => cancelSent s seqNum
    | (none, _, _) => throw (.assertion "internal error: entered unreachable code")
  | .sent seqNum => cancelSent s seqNum
  | packetId => .ok ([], packetId, s)

def limitRetriesInternal (retryLimit : UInt8) : PacketId → Except Panic (Sender Pkt)
  | .queued id => s.limitRetriesById id retryLimit
  | .sent seqNum => s.limitRetriesBySeqNum seqNum retryLimit
  | .acked | .canceled => .ok s

def forgetInternal : PacketId → Except Panic (Sender Pkt)
  | .sent seqNum => s.forgetCanceledPacket seqNum
  | .queued _ | .acked | .canceled => .ok s

/-- Waiting for a packet to be sent yields what its acknowledgement is waited for with. -/
def pollSent : PacketId → Except Panic (Poll PacketId × Sender Pkt)
  | .queued id => do
    match ← s.pollSend waker id with
    | (.pending, s) => return (.pending, s)
    | (.ready seqNum, s) => return (.ready (updateSentPacketId seqNum), s)
  | packetId => .ok (.ready packetId, s)

def pollAckedSent (seqNum : SeqNum) : Except Panic (Poll Unit × PacketId × Sender Pkt) := do
  let (poll, s) ← s.pollAck waker seqNum
  return (poll, .sent seqNum, s)

def pollAcked : PacketId → Except Panic (Poll Unit × PacketId × Sender Pkt)
  | .acked => .ok (.ready (), .acked, s)
  | .queued id => do
    match ← s.pollSend waker id with
    | (.pending, s) => return (.pending, .queued id, s)
    | (.ready none, s) => return (.ready (), .queued id, s)
    | (.ready (some seqNum), s) => pollAckedSent s waker seqNum
  | .sent seqNum => pollAckedSent s waker seqNum
  | .canceled => .error (.assertion "internal error: entered unreachable code")

def pollAckedOrCanceledSent (seqNum : SeqNum) : Except Panic (Poll PacketStatus × PacketId × Sender Pkt) := do
  match ← s.pollAck waker seqNum with
  | (.pending, s) => return (.pending, .sent seqNum, s)
  | (.ready (), s) =>
    if ← s.isCancelAcked seqNum then return (.ready .canceled, .sent seqNum, s)
    return (.ready .acked, .sent seqNum, s)

def pollAckedOrCanceled :
    PacketId → Except Panic (Poll PacketStatus × PacketId × Sender Pkt)
  | .acked => .ok (.ready .acked, .acked, s)
  | .canceled => .ok (.ready .canceled, .canceled, s)
  | .queued id => do
    match ← s.pollSend waker id with
    | (.pending, s) => return (.pending, .queued id, s)
    | (.ready none, s) => return (.ready .acked, .queued id, s)
    | (.ready (some seqNum), s) => pollAckedOrCanceledSent s waker seqNum
  | .sent seqNum => pollAckedOrCanceledSent s waker seqNum

/-- A retry timer tick. -/
def retry : List (Message Pkt) × Sender Pkt :=
  let s := (s.ageRetries s.unacked.length).2
  (s.retryPackets.map (fun (seqNum, packet) => .data seqNum packet) ++ s.retryCancels.map .cancel, s)

end

/-- `Sent`, `Acked` and `AckedOrCanceled`. -/
inductive HandleKind where
  | sent | acked | ackedOrCanceled
  deriving DecidableEq

/-- A future that was neither dropped nor left to the queue. The `serial` number of the packet
it stands for is not kept by the process. -/
structure Handle where
  kind : HandleKind
  packetId : PacketId
  serial : Nat

/-- A packet with its serial number among those sent on the link. -/
structure Tagged (Pkt : Type) where
  serial : Nat
  packet : Pkt
  deriving DecidableEq

/-- Has the packet been dequeued and sent? -/
def Handle.isSent {Pkt : Type} (handle : Handle) (s : Sender (Tagged Pkt)) : Except Panic Bool :=
  match handle.packetId with
  | .queued id => s.isSent id
  | .sent _ | .acked | .canceled => .ok true

/-- The sender of a link and the futures of its packets. `resolved` records what futures
resolved to. -/
structure Driver (Pkt : Type) where
  sender : Sender (Tagged Pkt)
  handles : List Handle
  sends : Nat
  resolved : List (Nat × PacketStatus)

/-- What is done with a future. -/
inductive HandleOp where
  | poll (waker : Waker)
  | requestCancel
  | limitRetries (retryLimit : UInt8)
  | tryCancel
  | acked
  | ackedOrCanceled
  | drop
  | enqueue

/-- A step of the tasks that use a link. An index selects a future. -/
inductive DriverStep (Pkt : Type) where
  | sendMgmt (packet : Pkt)
  | acknowledgement (seqNum : SeqNum) (isCanceled : Bool)
  | windowSizeTlv (windowSize : UInt16)
  | retry
  | handle (index : Nat) (op : HandleOp)

namespace Driver
variable {Pkt : Type} (d : Driver Pkt) (index : Nat)

def new : Driver Pkt := ⟨.new, [], 0, []⟩

def sendMgmtHelper (packet : Pkt) : List (Message (Tagged Pkt)) × Driver Pkt :=
  match d.sender.enqueuePacket ⟨d.sends, packet⟩ with
  | (.sent seqNum packet, sender) =>
    ([.data seqNum packet],
      { d with sender, handles := d.handles ++ [⟨.sent, .sent seqNum, d.sends⟩], sends := d.sends + 1 })
  | (.queued id, sender) =>
    ([], { d with sender, handles := d.handles ++ [⟨.sent, .queued id, d.sends⟩], sends := d.sends + 1 })

/-- The window size that a peer gives in a hello message. -/
def processWindowSizeTlv (windowSize : UInt16) : Except Panic (Driver Pkt) := do
  if windowSize < 1 then return d
  return { d with sender := ← d.sender.adjustWindowSize windowSize.toNat }

/-- A future that resolves with another future is replaced by it. -/
def poll (index : Nat) (handle : Handle) (waker : Waker) : Except Panic (Driver Pkt) :=
  match handle.kind with
  | .sent => do
    match ← pollSent d.sender waker handle.packetId with
    | (.pending, sender) => return { d with sender }
    | (.ready packetId, sender) =>
      return { d with sender, handles := d.handles.set index { handle with kind := .acked, packetId } }
  | .acked => do
    let (_, packetId, sender) ← pollAcked d.sender waker handle.packetId
    return { d with sender, handles := d.handles.set index { handle with packetId } }
  | .ackedOrCanceled => do
    let (poll, packetId, sender) ← pollAckedOrCanceled d.sender waker handle.packetId
    let resolved := match poll with
      | .pending => d.resolved
      | .ready status => d.resolved ++ [(handle.serial, status)]
    return { d with sender, handles := d.handles.set index { handle with packetId }, resolved }

section
variable (handle : Handle)

def requestCancel : Except Panic (List (Message (Tagged Pkt)) × Driver Pkt) := do
  let (messages, packetId, sender) ← requestCancelInternal d.sender handle.packetId
  return (messages, { d with
    sender, handles := d.handles.set index { handle with kind := .ackedOrCanceled, packetId } })

def limitRetries (retryLimit : UInt8) : Except Panic (Driver Pkt) := do
  let sender ← limitRetriesInternal d.sender retryLimit handle.packetId
  return { d with sender, handles := d.handles.set index { handle with kind := .ackedOrCanceled } }

/-- The future is dropped after its packet was given back. -/
def tryCancel : Except Panic (Driver Pkt) := do
  match ← tryCancelInternal d.sender handle.packetId with
  | (some _, packetId, sender) =>
    let (_, _, sender) ← tryCancelInternal sender packetId
    return { d with sender, handles := d.handles.eraseIdx index }
  | (none, packetId, sender) =>
    return { d with sender, handles := d.handles.set index { handle with kind := .acked, packetId } }

def forget : Except Panic (Sender (Tagged Pkt)) :=
  if handle.kind = .ackedOrCanceled then forgetInternal d.sender handle.packetId else .ok d.sender

def drop : Except Panic (Driver Pkt) := do
  let sender ← d.forget handle
  let (_, _, sender) ← tryCancelInternal sender handle.packetId
  return { d with sender, handles := d.handles.eraseIdx index }

def enqueue : Except Panic (Driver Pkt) := do
  let sender ← d.forget handle
  return { d with sender, handles := d.handles.eraseIdx index }

end

def silent (d : Except Panic (Driver Pkt)) : Except Panic (List (Message (Tagged Pkt)) × Driver Pkt) := do
  return ([], ← d)

/-- Operations that a future of another kind does not have do nothing. -/
def handleStep (handle : Handle) :
    HandleOp → Except Panic (List (Message (Tagged Pkt)) × Driver Pkt)
  | .poll waker => silent (d.poll index handle waker)
  | .requestCancel => d.requestCancel index handle
  | .limitRetries retryLimit => silent (d.limitRetries index handle retryLimit)
  | .tryCancel => if handle.kind = .sent then silent (d.tryCancel index handle) else .ok ([], d)
  | .acked =>
    if handle.kind = .sent then .ok ([], { d with handles := d.handles.set index { handle with kind := .acked } })
    else .ok ([], d)
  | .ackedOrCanceled =>
    if handle.kind = .acked then
      .ok ([], { d with handles := d.handles.set index { handle with kind := .ackedOrCanceled } })
    else .ok ([], d)
  | .drop => silent (d.drop index handle)
  | .enqueue => silent (d.enqueue index handle)

/-- One step, with the messages that are put on the wire. -/
def step : DriverStep Pkt → Except Panic (List (Message (Tagged Pkt)) × Driver Pkt)
  | .sendMgmt packet => .ok (d.sendMgmtHelper packet)
  | .acknowledgement seqNum isCanceled => do
    let (unblocked, sender) ← acknowledge d.sender seqNum isCanceled
    return (unblocked.map fun (seqNum, packet) => .data seqNum packet, { d with sender })
  | .windowSizeTlv windowSize => silent (d.processWindowSizeTlv windowSize)
  | .retry =>
    let (messages, sender) := Mgmt.retry d.sender
    .ok (messages, { d with sender })
  | .handle index op =>
    match d.handles[index]? with
    | none => .ok ([], d)
    | some handle => d.handleStep index handle op

end Driver
end ZprCore.Mgmt
