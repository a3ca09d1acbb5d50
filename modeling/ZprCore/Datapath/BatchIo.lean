import ZprCore.Mgmt.PeerTable

/-! The messages that the io_uring and the POSIX engine of `batch_io.rs` hand to the kernel. -/

namespace ZprCore.Datapath.BatchIo
open Mgmt

/-- `in_pktinfo` and `in6_pktinfo`. -/
inductive Pktinfo where
  | ipv4 (ifindex : Nat) (specDst addr : Vector UInt8 4)
  | ipv6 (addr : Vector UInt8 16) (ifindex : Nat)

def pktinfoFromIpv4addr (addr : Vector UInt8 4) : Pktinfo := .ipv4 0 addr (.replicate 4 0)
def pktinfoFromScopedIpv6addr (addr : Vector UInt8 16) (scopeId : Nat) : Pktinfo := .ipv6 addr scopeId

/-- `IP_PKTINFO` and `IPV6_PKTINFO`, with their levels. -/
inductive CmsgKind where
  | ipPktinfo | ipv6Pktinfo

structure Item where
  buf : List UInt8
  dst : SocketAddr
  src : Option ScopedIpAddr
  flags : BitVec 32

structure Message where
  payload : List UInt8
  name : SocketAddr
  control : Option (CmsgKind × Pktinfo)
  flags : BitVec 32

def msgDontwait : BitVec 32 := 0x40

variable (item : Item)

/-- Marked as IPv4 in either family. -/
def scopedIpAddrToCmsg : ScopedIpAddr → CmsgKind × Pktinfo
  | .v4 addr => (.ipPktinfo, pktinfoFromIpv4addr addr)
  | .v6 addr scopeId => (.ipPktinfo, pktinfoFromScopedIpv6addr addr scopeId)

def buildOp : Message :=
  ⟨item.buf, item.dst, item.src.map scopedIpAddrToCmsg, item.flags ||| msgDontwait⟩

namespace Posix

def scopedIpAddrToCmsg : ScopedIpAddr → CmsgKind × Pktinfo
  | .v4 addr => (.ipPktinfo, pktinfoFromIpv4addr addr)
  | .v6 addr scopeId => (.ipv6Pktinfo, pktinfoFromScopedIpv6addr addr scopeId)

def trySendToFrom : Message := ⟨item.buf, item.dst, item.src.map scopedIpAddrToCmsg, item.flags⟩

end Posix

/-- The engines send the same message if it is not to wait and its source is no IPv6 address. -/
theorem engines_agree_iff : buildOp item = Posix.trySendToFrom item ↔
    item.flags ||| msgDontwait = item.flags ∧ ∀ ip scopeId, item.src ≠ some (.v6 ip scopeId) := by
  obtain ⟨buf, dst, src, flags⟩ := item
  rw [buildOp, Posix.trySendToFrom, Message.mk.injEq]
  match src with
  | none | some (.v4 _) | some (.v6 ..) => simp [scopedIpAddrToCmsg, Posix.scopedIpAddrToCmsg]

def ipv6Item : Item := ⟨[1], .v6 (.replicate 16 2) 5 0 0, some (.v6 (.replicate 16 1) 2), msgDontwait⟩

theorem ipv6_source_mismarked : (buildOp ipv6Item).control = some (.ipPktinfo, .ipv6 (.replicate 16 1) 2) ∧
    (Posix.trySendToFrom ipv6Item).control = some (.ipv6Pktinfo, .ipv6 (.replicate 16 1) 2) :=
  ⟨rfl, rfl⟩

end ZprCore.Datapath.BatchIo
