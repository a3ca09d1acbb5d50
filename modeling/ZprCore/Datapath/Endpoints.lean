import ZprCore.Datapath.Fastpath
import ZprCore.Lib.Table

/-! The endpoint lookup table of an adapter (`adapter_tables.rs`), with the packets that wait for a
tether. Transaction handles are names of any kind. -/

namespace ZprCore.Datapath

inductive Endpoint (Txn : Type) where
  | pending (packet : Packet) (txn : Txn)
  | active (pep : EltPep)

inductive InsertPendingError where
  | alreadyPending (packet : Packet)
  | duplicateTransaction (packet : Packet)

inductive SetActiveError where
  | notFound (pep : EltPep)
  | notPending (pep : EltPep)

inductive RemoveError where
  | notFound

inductive InstallTetherError where
  | noSuchTransaction

structure EndpointLookupTable (Txn : Type) where
  table : Table FiveTuple (Endpoint Txn)
  pending : Table Txn FiveTuple

namespace EndpointLookupTable
variable {Txn : Type} [DecidableEq Txn] (elt : EndpointLookupTable Txn) (fiveTuple : FiveTuple) (txn : Txn)

def new : EndpointLookupTable Txn := ⟨∅, ∅⟩

/-- The transaction is entered before it is known whether it was there. -/
def insertPending (initPacket : Packet) : Except InsertPendingError Unit × EndpointLookupTable Txn :=
  match elt.table.get fiveTuple with
  | some _ => (.error (.alreadyPending initPacket), elt)
  | none =>
    let pending := elt.pending.insert txn fiveTuple
    if (elt.pending.get txn).isSome then (.error (.duplicateTransaction initPacket), { elt with pending })
    else (.ok (), ⟨elt.table.insert fiveTuple (.pending initPacket txn), pending⟩)

/-- Removes a transaction, which has to be that of the five-tuple. -/
def removePending : Except Panic (EndpointLookupTable Txn) :=
  if elt.pending.get txn = some fiveTuple then .ok { elt with pending := elt.pending.erase txn }
  else .error (.assertion "ELT consistency error")

def setActive (pep : EltPep) : Except Panic (Except SetActiveError Packet × EndpointLookupTable Txn) :=
  match elt.table.get fiveTuple with
  | none => .ok (.error (.notFound pep), elt)
  | some (.active _) => .ok (.error (.notPending pep), elt)
  | some (.pending packet txn) => do
    return (.ok packet, ← { elt with table := elt.table.insert fiveTuple (.active pep) }.removePending fiveTuple txn)

def remove : Except Panic (Except RemoveError (Endpoint Txn) × EndpointLookupTable Txn) :=
  match elt.table.get fiveTuple with
  | none => .ok (.error .notFound, elt)
  | some (.active pep) => .ok (.ok (.active pep), { elt with table := elt.table.erase fiveTuple })
  | some (.pending packet txn) => do
    return (.ok (.pending packet txn), ← { elt with table := elt.table.erase fiveTuple }.removePending fiveTuple txn)

/-- `install_tether` of `mgmt/adapter.rs`, with the initial packet that is queued again. -/
def installTether (tetherId : StreamId) (tc : Ip5TupleTc) (a2aMicvKey : Option MicvKey) :
    Except Panic (Except InstallTetherError (Option Packet) × EndpointLookupTable Txn) :=
  match elt.pending.get txn with
  | none => .ok (.error .noSuchTransaction, elt)
  | some fiveTuple =>
    if tc.classify5t fiveTuple then do
      match ← elt.setActive fiveTuple ⟨tc.compressionMode, tetherId, a2aMicvKey⟩ with
      | (.ok packet, next) => return (.ok packet, next)
      | (.error _, next) => return (.error .noSuchTransaction, next)
    else do
      let (removed, next) ← elt.remove fiveTuple
      Panic.check removed.isOk "called unwrap() on an Err value"
      return (.ok none, next)

def denyTether : Except Panic (Except InstallTetherError Unit × EndpointLookupTable Txn) :=
  match elt.pending.get txn with
  | none => .ok (.error .noSuchTransaction, elt)
  | some fiveTuple => do
    match ← elt.remove fiveTuple with
    | (.ok _, next) => return (.ok (), next)
    | (.error _, next) => return (.error .noSuchTransaction, next)

end EndpointLookupTable
end ZprCore.Datapath
