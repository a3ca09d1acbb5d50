import ZprCore.Auth.Actor
import ZprCore.Mgmt.Tlv

/-! Management messages as bytes: how they are put into packets (`mgmt/core.rs`, `mgmt/requests.rs`),
and how the processor of a link takes them apart (`mgmt_processor_worker.rs`, `mgmt/handlers.rs`). -/

namespace ZprCore.Datapath.Packet

def smallPacketBufferSize : Nat := 2048
def defaultMessageHeadroom : Nat := 256

/-- A packet in a buffer of zeros, behind its metadata and the headroom. -/
def new (minBodyOffset bufferSize headroom : Nat) : Except Panic Packet := do
  Panic.check (minBodyOffset ≤ bufferSize) "packet buffer must be large enough to contain metadata"
  Panic.check (minBodyOffset + headroom ≤ bufferSize) "offset <= buf.len() - len"
  return {
    headroom
    body := []
    tailroom := bufferSize - (minBodyOffset + headroom)
    fiveTuple := ⟨⟨.replicate 12 0, .replicate 4 0⟩, ⟨.replicate 12 0, .replicate 4 0⟩, .other 0, 0, 0, 0⟩
    ingressLaneId := 0
    ingressLinkId := 0
    ingressStreamId := 0 }

def newHeapPacket (minBodyOffset : Nat) : Except Panic Packet :=
  new minBodyOffset smallPacketBufferSize defaultMessageHeadroom

/-- `alloc_zeroed_header`, with the values that are then assigned to the header's fields. -/
def allocHeader {α : Type} (pkt : Packet) (layout : Layout α) (header : α) : Except Panic Packet :=
  pkt.pushHeader (layout.encode header)

/-- A header that not every message has. -/
def allocSome {α : Type} (pkt : Packet) (layout : Layout α) : Option α → Except Panic Packet
  | some header => pkt.allocHeader layout header
  | none => .ok pkt

variable (packet : Packet) (packetType : ZdpPacketType)

/-- The headers of a management message; the sequence number is filled in on egress. -/
def sendMgmtHelper (streamId : Option (BitVec 32)) (txnId : Option UInt16) : Except Panic Packet := do
  Panic.check (packetType ≠ .keyManagement) "packet_type != zdp::ZdpPacketType::KeyManagement"
  Panic.check (streamId.isSome = packetType.isPerFlow) "stream_id.is_some() == packet_type.is_per_flow()"
  let packet ← packet.allocSome ZdpTransactionHeader.layout (txnId.map ZdpTransactionHeader.mk)
  let packet ← packet.allocSome ZdpPerFlowHeader.layout (streamId.map ZdpPerFlowHeader.mk)
  let packet ← packet.allocHeader ZdpMgmtHeader.layout ⟨0⟩
  packet.allocHeader ZdpBaseHeader.layout ⟨packetType, 0⟩

def sendNonFlowMgmt : Except Panic Packet :=
  packet.sendMgmtHelper packetType none none

def sendNonFlowTxnMgmt (txnId : UInt16) : Except Panic Packet :=
  packet.sendMgmtHelper packetType none (some txnId)

/-- What `build_and_egress_packets` does to each packet. -/
def buildAndEgress (seqNum : BitVec 64) : Except Panic Packet := do
  let base ← slicePrefix packet.body ZdpBaseHeader.layout.size
  let rest ← mutFromPrefix ZdpMgmtHeader.layout (fun _ => ⟨seqNum⟩) (packet.body.drop ZdpBaseHeader.layout.size)
  return { packet with body := base ++ rest }

/-- A message as it is received: the bytes it was sent with, under some sequence number. -/
def Arrives (message arrived : Packet) : Prop :=
  ∃ seqNum sent, message.buildAndEgress seqNum = .ok sent ∧ arrived.body = sent.body

end ZprCore.Datapath.Packet

namespace ZprCore.Mgmt
open Datapath
open Auth (HandleMgmtError AuthenticationStatus AuthenticationOffer ZdpInitAuthenticationPayload ActorAuthorization)

/-- The handlers, with the transaction of those that have one. -/
inductive MgmtHandler where
  | bindActorAddressRequest (txn : UInt16)
  | bindActorAddressResponse (txn : UInt16)
  | streamIdRequest (txn : UInt16)
  | streamIdResponse (txn : UInt16)
  | bindEgressStreamRequest (txn : UInt16)
  | bindEgressStreamResponse (txn : UInt16)
  | unbindIndication
  | startAuthentication (txn : UInt16)
  | abandonAuthentication (txn : UInt16)
  | initAuthenticationRequest (txn : UInt16)
  | acquireZprAddressRequest (txn : UInt16)
  | grantZprAddressRequest (txn : UInt16)
  | report
  | discard
  | echoRequest
  | terminateLinkOrDockingSession
  | helloRequest
  | helloResponse

variable (packetType : ZdpPacketType) (pkt : Packet)

/-- Handlers that are given a transaction, by packet type. -/
def perFlowTxnHandler : Option (UInt16 → MgmtHandler) :=
  if packetType = .bindActorAddressRequest then some .bindActorAddressRequest
  else if packetType = .bindActorAddressResponse then some .bindActorAddressResponse
  else if packetType = .streamIdRequest then some .streamIdRequest
  else if packetType = .streamIdResponse then some .streamIdResponse
  else if packetType = .bindEgressStreamRequest then some .bindEgressStreamRequest
  else if packetType = .bindEgressStreamResponse then some .bindEgressStreamResponse
  else none

def nonFlowTxnHandler : Option (UInt16 → MgmtHandler) :=
  if packetType = .startAuthentication then some .startAuthentication
  else if packetType = .abandonAuthenticationAttempt then some .abandonAuthentication
  else if packetType = .initAuthenticationRequest then some .initAuthenticationRequest
  else if packetType = .acquireZprAddress then some .acquireZprAddressRequest
  else if packetType = .grantZprAddress then some .grantZprAddressRequest
  else none

def nonFlowHandler : Option MgmtHandler :=
  if packetType = .report then some .report
  else if packetType = .discard then some .discard
  else if packetType = .echo then some .echoRequest
  else if packetType = .terminateLinkOrDockingSession then some .terminateLinkOrDockingSession
  else if packetType = .helloRequest then some .helloRequest
  else if packetType = .helloResponse then some .helloResponse
  else none

def withTxn (handler : UInt16 → MgmtHandler) : Except HandleMgmtError (MgmtHandler × Packet) :=
  match pkt.readFromBuf ZdpTransactionHeader.layout with
  | none => .error .badStructure
  | some (hdr, pkt) => .ok (handler hdr.transactionId, pkt)

def handlePerFlow : Except Panic (Except HandleMgmtError (MgmtHandler × Packet)) :=
  match pkt.readFromBuf ZdpPerFlowHeader.layout with
  | none => .ok (.error .badStructure)
  | some (hdr, pkt) =>
    let pkt := { pkt with ingressStreamId := hdr.streamId.toNat }
    if packetType = .transitPacket then .error (.assertion "unexpected Transit Packet in management path")
    else match perFlowTxnHandler packetType with
    | some handler => .ok (withTxn pkt handler)
    | none =>
      if packetType = .unbindEgressStreamIndication then .ok (.ok (.unbindIndication, pkt))
      else .ok (.error (.unknownType packetType))

def handleNonFlow : Except Panic (Except HandleMgmtError (MgmtHandler × Packet)) :=
  match nonFlowTxnHandler packetType with
  | some handler => .ok (withTxn pkt handler)
  | none =>
    if packetType = .keyManagement then .error (.assertion "unexpected Key Management message in mgmt processor")
    else match nonFlowHandler packetType with
    | some handler => .ok (.ok (handler, pkt))
    | none => .ok (.error (.unknownType packetType))

/-- Reads the headers of a message and finds the handler for it. -/
def handlePacket : Except Panic (Except HandleMgmtError (MgmtHandler × Packet)) :=
  match pkt.readFromBuf ZdpBaseHeader.layout with
  | none => .ok (.error .badStructure)
  | some (baseHdr, pkt) =>
    match pkt.readFromBuf ZdpMgmtHeader.layout with
    | none => .ok (.error .badStructure)
    | some (_, pkt) =>
      if baseHdr.packetType.isPerFlow then handlePerFlow baseHdr.packetType pkt
      else handleNonFlow baseHdr.packetType pkt

def utf8 (text : String) : List UInt8 := text.toUTF8.data.toList

def fromUtf8 (bytes : List UInt8) : Option String := String.fromUTF8? ⟨bytes.toArray⟩

def sendReport (minBodyOffset : Nat) (report : String) : Except Panic Packet := do
  let pkt ← Packet.newHeapPacket minBodyOffset
  let pkt ← pkt.allocHeader ZdpReportHeader.layout ⟨UInt16.ofNat (utf8 report).length⟩
  let pkt ← pkt.put (utf8 report)
  pkt.sendNonFlowMgmt .report

/-- The text that goes to the log, if there is one. A record is only formatted if the log takes
it. -/
def handleReport (logged : Bool) (pkt : Packet) : Except Panic (Except HandleMgmtError (Option String)) :=
  match pkt.readFromBuf ZdpReportHeader.layout with
  | none => .ok (.error .badStructure)
  | some (hdr, pkt) => do
    let reportDataLength := hdr.reportDataLength.toNat
    let pkt ← pkt.advance ZdpReportHeader.layout.size
    if pkt.body.length ≥ reportDataLength ∧ logged = true then
      match fromUtf8 (← slicePrefix pkt.body reportDataLength) with
      | some text => return .ok (some text)
      | none => .error (.assertion "called Result::unwrap() on an Err value")
    else return .ok none

/-- A character ends where the reason is cut off. -/
abbrev Cuts (reason : String) : Prop := String.Pos.Raw.IsValid reason ⟨min (utf8 reason).length 255⟩

def sendErrorResponse (minBodyOffset : Nat) (txnId : UInt16) (reason : String) : Except Panic Packet := do
  let rspPkt ← Packet.newHeapPacket minBodyOffset
  Panic.check (decide (Cuts reason)) "byte index is not a char boundary"
  let reason := (utf8 reason).take 255
  let rspPkt ← rspPkt.put (ZdpResponseHeader.layout.encode ⟨1, UInt8.ofNat reason.length⟩)
  let rspPkt ← rspPkt.put reason
  rspPkt.sendMgmtHelper packetType (some 0) (some txnId)

def sendBindActorAddressErrorResponse := sendErrorResponse .bindActorAddressResponse
def sendStreamIdErrorResponse := sendErrorResponse .streamIdResponse
def sendBindEgressStreamErrorResponse := sendErrorResponse .bindEgressStreamResponse

/-- The reason that the handlers of the three responses read, if it is an error. -/
def readReason : Except HandleMgmtError (Option String) :=
  match pkt.readFromBuf ZdpResponseHeader.layout with
  | none => .error .badStructure
  | some (hdr, pkt) =>
    if hdr.statusCode = 0 then .ok none
    else if hdr.statusCode = 1 ∧ hdr.infoLen.toNat ≤ pkt.body.length then
      match fromUtf8 (pkt.body.take hdr.infoLen.toNat) with
      | some msg => .ok (some msg)
      | none => .error .badStructure
    else .error .badStructure

namespace InitAuthenticationFlags

def bootstrapSupport : UInt8 := 1

end InitAuthenticationFlags

/-- `valid_auth_status`: the statuses there are. -/
def validAuthStatus (code : UInt8) : Option AuthenticationStatus :=
  if code = 0 then some .success
  else if code = 1 then some .rejected
  else if code = 2 then some .retryable
  else none

section
variable {Visa : Type} (p : TlvPrimitives Visa)

/-- The length of the challenge does not depend on the flags. -/
def sendInitAuthenticationRequest (minBodyOffset : Nat) (txn : UInt16) (status : AuthenticationStatus) (flags : UInt8)
    (payload : ZdpInitAuthenticationPayload) (asaAddresses : List SocketAddr) : Except Panic Packet := do
  let req ← Packet.newHeapPacket minBodyOffset
  let hdr : ZdpInitAuthenticationRequestHeader :=
    ⟨status.code, flags, UInt16.ofNat ZdpInitAuthenticationPayload.layout.size⟩
  let req ← req.put (ZdpInitAuthenticationRequestHeader.layout.encode hdr)
  let req ← req.put payload.asBytes
  let req ← asaAddresses.foldlM (fun req asa => (TlvEncoding.newAsa asa).put p req) req
  req.sendNonFlowTxnMgmt .initAuthenticationRequest txn

/-- The challenge that follows a header. -/
def readChallenge (hdr : ZdpInitAuthenticationRequestHeader) (pkt : Packet) :
    Except HandleMgmtError (Option ZdpInitAuthenticationPayload × Packet) :=
  if hdr.flags &&& InitAuthenticationFlags.bootstrapSupport ≠ 0 then
    if hdr.dataLen.toNat ≠ ZdpInitAuthenticationPayload.layout.size then .error .badStructure
    else match pkt.readFromBuf ZdpInitAuthenticationPayload.layout with
    | none => .error .badStructure
    | some (payload, pkt) => .ok (some payload, pkt)
  else if hdr.dataLen ≠ 0 then .error .badStructure
  else .ok (none, pkt)

/-- The addresses among the values, if all of them are. -/
def socketAddresses : List (TlvValue Visa) → Except HandleMgmtError (List SocketAddr)
  | [] => .ok []
  | .socketAddr addr :: values => do return addr :: (← socketAddresses values)
  | _ :: _ => .error .badStructure

def readAsaAddresses (pkt : Packet) : Except Panic (Except HandleMgmtError (List SocketAddr)) := do
  match ← parseFromBuf p pkt.body with
  | .error _ => return .error .badStructure
  | .ok tlvs => return socketAddresses ((Table.get tlvs DataType.asa).getD [])

/-- The offer in a message, if it is well formed. -/
def readOffer (pkt : Packet) : Except Panic (Except HandleMgmtError AuthenticationOffer) :=
  match pkt.readFromBuf ZdpInitAuthenticationRequestHeader.layout with
  | none => .ok (.error .badStructure)
  | some (hdr, pkt) =>
    match validAuthStatus hdr.status with
    | none => .ok (.error .badStructure)
    | some status =>
      if hdr.flags &&& ~~~InitAuthenticationFlags.bootstrapSupport ≠ 0 ∨
          status ≠ .success ∧ (hdr.flags ≠ 0 ∨ hdr.dataLen ≠ 0) then .ok (.error .badStructure)
      else match readChallenge hdr pkt with
      | .error problem => .ok (.error problem)
      | .ok (challenge, pkt) => do
        return (← readAsaAddresses p pkt).map fun asaAddresses => ⟨status, challenge, asaAddresses⟩

/-- The actor is the one of the link that the message came in on, if there still is one. -/
def handleInitAuthenticationRequest (actor : Option ActorAuthorization) (txn : UInt16) (pkt : Packet) :
    Except Panic (Except HandleMgmtError Unit × Option ActorAuthorization) := do
  match ← readOffer p pkt with
  | .error problem => return (.error problem, actor)
  | .ok offer =>
    match actor with
    | none => return (.error .linkClosed, actor)
    | some found =>
      let (result, found) := found.receiveOffer txn offer
      return (result, some found)

end
end ZprCore.Mgmt
