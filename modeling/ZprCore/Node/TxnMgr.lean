import ZprCore.Lib.Panic
import ZprCore.Lib.Table

/-! Transaction ids of one link (`txn_mgr.rs`). Ids are handed out in sequence and stay
reserved while a handle to them exists. -/

namespace ZprCore.Node

abbrev TxnId := UInt16

/-- `opened` counts the handles of each open transaction beyond the first. -/
structure TxnMgr where
  nextFree : TxnId
  opened : Table TxnId Nat

namespace TxnMgr

def new : TxnMgr := ⟨0, ∅⟩

variable (mgr : TxnMgr)

def tryOpen : Option (TxnId × TxnMgr) :=
  match mgr.opened.get mgr.nextFree with
  | none => some (mgr.nextFree, ⟨mgr.nextFree + 1, mgr.opened.insert mgr.nextFree 0⟩)
  | some _ => none

/-- Another handle to an open transaction, as found by its id. -/
def get (id : TxnId) : Option TxnMgr :=
  (mgr.opened.get id).map fun refcnt => { mgr with opened := mgr.opened.insert id (refcnt + 1) }

def refTxn (id : TxnId) : Except Panic TxnMgr :=
  match mgr.opened.get id with
  | some refcnt => .ok { mgr with opened := mgr.opened.insert id (refcnt + 1) }
  | none => .error (.assertion "reference of closed transaction")

def derefTxn (id : TxnId) : Except Panic TxnMgr :=
  match mgr.opened.get id with
  | some 0 => .ok { mgr with opened := mgr.opened.erase id }
  | some (refcnt + 1) => .ok { mgr with opened := mgr.opened.insert id refcnt }
  | none => .error (.assertion "dereference of closed transaction")

end TxnMgr
end ZprCore.Node
