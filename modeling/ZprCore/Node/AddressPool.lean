import ZprCore.Datapath.Defs

/-! The pool of AAA addresses (`address_pool.rs`) and its configuration by the visa service
(`vss_worker.rs`). -/

namespace ZprCore.Node
open Datapath (IpAddress)

def maxAaaId : Nat := 0xffffffffff

inductive AddressPoolError where
  | invalidAddress | invalidPrefixLength
  deriving DecidableEq

structure Ipv6Net where
  addr : IpAddress
  prefixLen : Nat

structure AddressPool where
  ipnet : Ipv6Net
  active : Finset Nat

/-- Sets the lowest 40 bits of an address. -/
def aaaAddress (base : IpAddress) (id : Nat) : IpAddress :=
  ⟨base.upper.set 11 (UInt8.ofNat (id / 2 ^ 32)),
    #v[UInt8.ofNat (id / 2 ^ 24), UInt8.ofNat (id / 2 ^ 16), UInt8.ofNat (id / 2 ^ 8), UInt8.ofNat id]⟩

/-- The lowest 40 bits of an address. -/
def aaaId (address : IpAddress) : Nat :=
  address.upper[11].toNat * 2 ^ 32 + address.lower[0].toNat * 2 ^ 24 + address.lower[1].toNat * 2 ^ 16 +
    address.lower[2].toNat * 2 ^ 8 + address.lower[3].toNat

/-- An address has the mark of AAA addresses. -/
def hasAaaMark (address : IpAddress) : Bool := address.upper[6] == 0x0a && address.upper[7] == 0xaa

namespace AddressPool

def new (aaaNet : Ipv6Net) : Except AddressPoolError AddressPool :=
  if aaaNet.prefixLen > 88 then .error .invalidPrefixLength else .ok ⟨aaaNet, ∅⟩

/-- Tries one id after the other, at most as many as there are turns. -/
def probe (active : Finset Nat) : Nat → Nat → Option Nat
  | 0, _ => none
  | turns + 1, thisId => if thisId ∈ active then probe active turns ((thisId + 1) % 2 ^ 64 % maxAaaId) else some thisId

/-- The loop has no bound: without a free id among those it comes to, it does not return. -/
def getAaaAddress (pool : AddressPool) (random : UInt64) : Option (IpAddress × AddressPool) :=
  (probe pool.active (pool.active.card + 2) (random.toNat &&& maxAaaId)).map fun thisId =>
    (aaaAddress pool.ipnet.addr thisId, { pool with active := insert thisId pool.active })

def releaseAddress (pool : AddressPool) (address : IpAddress) : Except AddressPoolError Unit × AddressPool :=
  if ¬ hasAaaMark address then (.error .invalidAddress, pool)
  else (.ok (), { pool with active := pool.active.erase (aaaId address) })

end AddressPool

inductive ParamName where
  | aaaPrefix
  | other (name : String)

inductive ParamValue where
  | strParam (value : String)
  | other

structure Param where
  name : ParamName
  value : ParamValue

/-- The error code is always `ParamError`. -/
structure ConfigureError where
  message : String

/-- The one value of the AAA prefix among the parameters. -/
def findAaaPrefix : List Param → Option String → Except ConfigureError (Option String)
  | [], found => .ok found
  | ⟨.other _, _⟩ :: params, found => findAaaPrefix params found
  | ⟨.aaaPrefix, .other⟩ :: _, _ => .error ⟨"invalid type for AAA_PREFIX"⟩
  | ⟨.aaaPrefix, .strParam value⟩ :: params, found =>
    if found.isSome then .error ⟨"multiple AAA_PREFIX parameters"⟩ else findAaaPrefix params (some value)

/-- A pool takes the place of the one before, whatever addresses are out. -/
def processConfiguration (parse : String → Option Ipv6Net) (params : List Param) (addressPool : Option AddressPool) :
    Except ConfigureError Unit × Option AddressPool :=
  match findAaaPrefix params none with
  | .error problem => (.error problem, addressPool)
  | .ok none => (.ok (), addressPool)
  | .ok (some net) =>
    match parse net with
    | none => (.error ⟨"invalid AAA_PREFIX"⟩, addressPool)
    | some ipnet =>
      match AddressPool.new ipnet with
      | .error _ => (.error ⟨"AAA_PREFIX rejected"⟩, addressPool)
      | .ok pool => (.ok (), some pool)

end ZprCore.Node
