import ZprCore.Km.Multiplexor
import ZprCore.Node.AddressPool

/-! The links of a node and the AAA addresses they are given (`link_state.rs`). A Hello takes an
address from the pool, and the cleanup of the link gives it back. -/

namespace ZprCore.Km
open Datapath (LinkId IpAddress)
open Node (AddressPool Ipv6Net Param processConfiguration)
variable {Transport Cert : Type}

/-- The event that a link gets, and its effect. -/
def Multiplexor.linkEvent (s : Multiplexor Transport Cert) : MultiplexorEvent Transport Cert → Option (LinkId × LinkEvent)
  | .link link event => some (link, event)
  | .keyingDone => s.keyingDone.map fun link => (link, .keyingDone)
  | .drop index =>
    match s.drops[index]? with
    | some (link, .closeDone) => some (link, .closeDone)
    | _ => none
  | _ => none

def Multiplexor.linkEffect (s : Multiplexor Transport Cert) (event : MultiplexorEvent Transport Cert) :
    Option (LinkId × LinkEffect) := do
  let (link, event) ← s.linkEvent event
  let peer ← s.peers.get link
  let effect ← (peer.processEvent event).2
  return (link, effect)

/-- The addresses of the links that have one. -/
structure Reservations (Transport Cert : Type) where
  links : Multiplexor Transport Cert
  aaaAddress : Table LinkId IpAddress
  addressPool : Option AddressPool

/-- Hello requests come with the random number that an id is drawn from. -/
inductive ReservationEvent (Transport Cert : Type) where
  | links (event : MultiplexorEvent Transport Cert)
  | helloRequest (link : LinkId) (isVs : Bool) (request : CloseRequest) (random : UInt64)
  | configure (params : List Param)

namespace Reservations
variable (s : Reservations Transport Cert)

/-- The cleanup of a link gives its address back to the pool there is. -/
def release (link : LinkId) : Reservations Transport Cert :=
  match s.aaaAddress.get link with
  | none => s
  | some aaa => { s with
      aaaAddress := s.aaaAddress.erase link
      addressPool := s.addressPool.map fun pool => (pool.releaseAddress aaa).2 }

/-- A peer that is dropped takes its address along. -/
def settleEffect : Option (LinkId × LinkEffect) → Reservations Transport Cert
  | some (link, .dropLink) => s.release link
  | some (link, .dropPeer) => { s with aaaAddress := s.aaaAddress.erase link }
  | _ => s

/-- A new peer has no address. -/
def settle : MultiplexorEvent Transport Cert → Reservations Transport Cert
  | .insert link _ => { s with aaaAddress := s.aaaAddress.erase link }
  | event => s.settleEffect (s.links.linkEffect event)

def advance (event : MultiplexorEvent Transport Cert) : Except Panic (Reservations Transport Cert) := do
  return { s.settle event with links := ← s.links.step event }

/-- An address is taken for a link that expects a Hello. Without a pool, only the link to the
visa service goes on. -/
def processHelloRequest (link : LinkId) (isVs : Bool) (request : CloseRequest) (random : UInt64) :
    Except Panic (Reservations Transport Cert) :=
  match s.links.peers.get link with
  | none => .ok s
  | some peer =>
    if peer.linkType ≠ .nodeToAdapter ∨ peer.state ≠ .helloing then .ok s
    else match s.addressPool with
    | none => s.advance (.link link (.receivedHelloRequest isVs false request))
    | some pool =>
      match pool.getAaaAddress random with
      | none => .error (.assertion "get_aaa_address does not return")
      | some (aaa, pool) => do
        let s ← s.advance (.link link (.receivedHelloRequest isVs true request))
        return { s with aaaAddress := s.aaaAddress.insert link aaa, addressPool := some pool }

variable (parse : String → Option Ipv6Net)

def step (s : Reservations Transport Cert) : ReservationEvent Transport Cert → Except Panic (Reservations Transport Cert)
  | .links event => s.advance event
  | .helloRequest link isVs request random => s.processHelloRequest link isVs request random
  | .configure params => .ok { s with addressPool := (processConfiguration parse params s.addressPool).2 }

/-- The links of a node lead to adapters or to itself, and Hello requests are events of their
own. -/
def Allowed : ReservationEvent Transport Cert → Prop
  | .links (.insert link linkType) => s.links.peers.get link = none ∧ (linkType = .nodeToAdapter ∨ linkType = .internal)
  | .links (.link _ (.receivedHelloRequest _ _ _)) => False
  | _ => True

def start : Reservations Transport Cert := ⟨⟨∅, [], [], none, [], 0⟩, ∅, none⟩

end Reservations
end ZprCore.Km
