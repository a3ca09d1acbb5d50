import ZprCore.Datapath.Packet

/-! ZDP headers (`zdp.rs`). Packet types are an open enumeration: every byte is one. -/

namespace ZprCore.Datapath
open Layout

abbrev LinkId := Nat
abbrev Zpi := UInt8
abbrev ZdpPacketType := UInt8

namespace ZdpPacketType

def transitPacket : ZdpPacketType := 0
def streamIdRequest : ZdpPacketType := 3
def streamIdResponse : ZdpPacketType := 4
def bindActorAddressRequest : ZdpPacketType := 6
def bindActorAddressResponse : ZdpPacketType := 7
def bindEgressStreamRequest : ZdpPacketType := 8
def bindEgressStreamResponse : ZdpPacketType := 9
def unbindEgressStreamIndication : ZdpPacketType := 13
def keyManagement : ZdpPacketType := 129
def discard : ZdpPacketType := 130
def echo : ZdpPacketType := 131
def report : ZdpPacketType := 132
def terminateLinkOrDockingSession : ZdpPacketType := 133
def helloRequest : ZdpPacketType := 134
def helloResponse : ZdpPacketType := 135
def acquireZprAddress : ZdpPacketType := 138
def grantZprAddress : ZdpPacketType := 139
def initAuthenticationRequest : ZdpPacketType := 141
def startAuthentication : ZdpPacketType := 142
def abandonAuthenticationAttempt : ZdpPacketType := 143
def canceled : ZdpPacketType := 252
def cancel : ZdpPacketType := 253
def acknowledgement : ZdpPacketType := 254

def isPerFlow (packetType : ZdpPacketType) : Bool := packetType &&& 128 == 0

end ZdpPacketType

def linkIdUnknown : LinkId := 0
def zpi0 : Zpi := 0
def zpiEncryptedHeaderFlag : Zpi := 128
def zdpPacketMacSize : Nat := 8

structure ZdpZpiHeader where
  zpi : Zpi

def ZdpZpiHeader.layout : Layout ZdpZpiHeader :=
  u8.via
    { toFun := fun zpi => ⟨zpi⟩
      invFun := fun h => h.zpi }

structure ZdpBaseHeader where
  packetType : ZdpPacketType
  excessLength : UInt8

def ZdpBaseHeader.layout : Layout ZdpBaseHeader :=
  (pair u8 u8).via
    { toFun := fun (packetType, excessLength) => ⟨packetType, excessLength⟩
      invFun := fun h => (h.packetType, h.excessLength) }

structure ZdpMgmtHeader where
  sequenceNumber : BitVec 64

def ZdpMgmtHeader.layout : Layout ZdpMgmtHeader :=
  (uint 8).via
    { toFun := fun sequenceNumber => ⟨sequenceNumber⟩
      invFun := fun h => h.sequenceNumber }

structure ZdpPerFlowHeader where
  streamId : BitVec 32

def ZdpPerFlowHeader.layout : Layout ZdpPerFlowHeader :=
  (uint 4).via
    { toFun := fun streamId => ⟨streamId⟩
      invFun := fun h => h.streamId }

/-- `U16` fields in network order. -/
structure ZdpKeyManagementHeader where
  messageType : UInt16
  messageLength : UInt16

def ZdpKeyManagementHeader.layout : Layout ZdpKeyManagementHeader :=
  (pair u16 u16).via
    { toFun := fun (messageType, messageLength) => ⟨messageType, messageLength⟩
      invFun := fun h => (h.messageType, h.messageLength) }

structure ZdpTransactionHeader where
  transactionId : UInt16

def ZdpTransactionHeader.layout : Layout ZdpTransactionHeader :=
  u16.via
    { toFun := fun transactionId => ⟨transactionId⟩
      invFun := fun h => h.transactionId }

structure ZdpReportHeader where
  reportDataLength : UInt16

def ZdpReportHeader.layout : Layout ZdpReportHeader :=
  u16.via
    { toFun := fun reportDataLength => ⟨reportDataLength⟩
      invFun := fun h => h.reportDataLength }

/-- The headers of the three responses to binds. -/
structure ZdpResponseHeader where
  statusCode : UInt8
  infoLen : UInt8

def ZdpResponseHeader.layout : Layout ZdpResponseHeader :=
  (pair u8 u8).via
    { toFun := fun (statusCode, infoLen) => ⟨statusCode, infoLen⟩
      invFun := fun h => (h.statusCode, h.infoLen) }

/-- The status is an open enumeration. -/
structure ZdpInitAuthenticationRequestHeader where
  status : UInt8
  flags : UInt8
  dataLen : UInt16

def ZdpInitAuthenticationRequestHeader.layout : Layout ZdpInitAuthenticationRequestHeader :=
  (pair u8 (pair u8 u16)).via
    { toFun := fun (status, flags, dataLen) => ⟨status, flags, dataLen⟩
      invFun := fun h => (h.status, h.flags, h.dataLen) }

namespace Packet

/-- `read_from_buf` consumes the header it reads; a short packet is left as it is. -/
def readFromBuf {α : Type} (pkt : Packet) (layout : Layout α) : Option (α × Packet) :=
  (layout.decode pkt.body).map fun (value, rest) =>
    (value, { pkt with headroom := pkt.headroom + layout.size, body := rest })

theorem readFromBuf_some {α : Type} {pkt next : Packet} {layout} {value : α}
    (read : pkt.readFromBuf layout = some (value, next)) :
    next.ingressLinkId = pkt.ingressLinkId ∧ pkt.body = layout.encode value ++ next.body := by
  obtain ⟨⟨found, rest⟩, decoded, same⟩ := Option.map_eq_some_iff.mp read
  cases same
  exact ⟨rfl, layout.decode_some.mp decoded⟩

end Packet
end ZprCore.Datapath
