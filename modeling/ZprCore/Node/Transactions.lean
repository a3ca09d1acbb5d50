import ZprCore.Node.TxnMgr

/-! The tasks that share a transaction manager (`txn_mgr.rs`). A task that finds the next id in
use registers for a notification under the lock and waits. A drop that frees the next id notifies
every registered task after it has released the lock. -/

namespace ZprCore.Node

/-- A handle, with the number of its transaction counted from the first one opened. -/
structure LiveHandle where
  number : Nat
  id : TxnId

/-- `waiting` are the tasks registered in `open_raw`, each with whether it has been notified, and
`notifying` counts the drops that are yet to notify. -/
structure Transactions where
  mgr : TxnMgr
  opens : Nat
  live : List LiveHandle
  waiting : List Bool
  notifying : Nat

inductive TxnStep where
  | tryOpen
  | openRaw
  | resume (waiter : Nat)
  | cancel (waiter : Nat)
  | get (id : TxnId)
  | clone (handle : Nat)
  | drop (handle : Nat)
  | notifyWaiters

namespace Transactions

def new : Transactions := ⟨.new, 0, [], [], 0⟩

variable (s : Transactions)

def tryOpen : Option Transactions :=
  s.mgr.tryOpen.map fun (id, mgr) => { s with mgr, opens := s.opens + 1, live := s.live ++ [⟨s.opens, id⟩] }

/-- One round of the loop in `open_raw`. -/
def openRaw : Transactions :=
  s.tryOpen.getD { s with waiting := s.waiting ++ [false] }

/-- The transaction that an id stands for. -/
def numberOf (id : TxnId) : Nat := ((s.live.find? (·.id = id)).map (·.number)).getD 0

def step : TxnStep → Except Panic Transactions
  | .tryOpen => .ok (s.tryOpen.getD s)
  | .openRaw => .ok s.openRaw
  | .resume waiter =>
    match s.waiting[waiter]? with
    | some true => .ok { s with waiting := s.waiting.eraseIdx waiter }.openRaw
    | _ => .ok s
  -- The future of `open_raw` is dropped.
  | .cancel waiter => .ok { s with waiting := s.waiting.eraseIdx waiter }
  | .get id =>
    match s.mgr.get id with
    | some mgr => .ok { s with mgr, live := s.live ++ [⟨s.numberOf id, id⟩] }
    | none => .ok s
  | .clone handle =>
    match s.live[handle]? with
    | some h => do return { s with mgr := ← s.mgr.refTxn h.id, live := s.live ++ [h] }
    | none => .ok s
  -- `deref_txn` up to the release of the lock.
  | .drop handle =>
    match s.live[handle]? with
    | some h => do
      let mgr ← s.mgr.derefTxn h.id
      let needNotify := mgr.opened.get h.id = none ∧ mgr.nextFree = h.id
      return { s with
        mgr
        live := s.live.eraseIdx handle
        notifying := if needNotify then s.notifying + 1 else s.notifying }
    | none => .ok s
  | .notifyWaiters =>
    .ok (if s.notifying = 0 then s
      else { s with waiting := s.waiting.map fun _ => true, notifying := s.notifying - 1 })

end Transactions
end ZprCore.Node
