import ZprCore.Proofs.Bind
import ZprCore.Proofs.Transactions

/-! Handles to transactions. A handle keeps its id reserved with the manager of its link; the
manager of a peer that is gone is not asked. -/

namespace ZprCore.Node
open Option

/-- What counts for handles. -/
def PeerState.txns (peer : PeerState) : Nat × TxnMgr := (peer.session, peer.txnMgr)

namespace Assembly

/-- How many handles to a transaction exist beyond the first, if it is open. -/
def handles (asm : Assembly) (handle : TxnHandle) : Option Nat :=
  (asm.peerTable.get handle.link).bind fun peer =>
    if peer.session = handle.session then peer.txnMgr.opened.get handle.id else none

end Assembly

namespace Frame
variable {β : Type} {view : PeerState → β} {before after : Assembly}

theorem live (frame : Frame view before after) (link : LinkId) :
    (after.peerTable.get link).isSome = (before.peerTable.get link).isSome := by
  have same := congrArg isSome (frame.peers link)
  rwa [isSome_map, isSome_map] at same

theorem handles (frame : Frame PeerState.txns before after) (handle : TxnHandle) :
    after.handles handle = before.handles handle := by
  have same := congrArg (Option.bind · fun txns : Nat × TxnMgr =>
    if txns.1 = handle.session then txns.2.opened.get handle.id else none) (frame.peers handle.link)
  simp only [bind_map, Function.comp_def] at same
  exact same

end Frame

namespace Assembly
variable {asm next : Assembly} {handle : TxnHandle}

theorem handles_setMgr {link peer} (occupied : asm.peerTable.get link = some peer) (txnMgr : TxnMgr) (other : TxnHandle) :
    (asm.setMgr link txnMgr).handles other =
      if other.link = link ∧ other.session = peer.session then txnMgr.opened.get other.id else asm.handles other := by
  simp only [handles, modifyPeer, Table.get_modify]
  by_cases here : other.link = link
  · by_cases same : other.session = peer.session
    · simp only [here, same, and_self, if_true, occupied, map_some, bind_some]
    · have different : ¬ peer.session = other.session := fun equal => same equal.symm
      simp only [here, same, different, and_false, if_true, if_false, occupied, map_some, bind_some]
  · simp only [here, false_and, if_false]

theorem updateTxn_handles {update} (change : Option Nat → Option Nat)
    (absent : change none = none)
    (effect : ∀ {mgr after : TxnMgr}, update mgr handle.id = .ok after → ∀ id, after.opened.get id =
      if id = handle.id then change (mgr.opened.get handle.id) else mgr.opened.get id)
    (updated : asm.updateTxn handle update = .ok next) (other : TxnHandle) :
    next.handles other = if other = handle then change (asm.handles handle) else asm.handles other := by
  have unchanged : asm.handles handle = none → next = asm →
      next.handles other = if other = handle then change (asm.handles handle) else asm.handles other := by
    rintro closed rfl
    split
    · next same => rw [same, closed, absent]
    · rfl
  simp only [updateTxn] at updated
  split at updated
  · next vacant =>
    cases updated
    exact unchanged (by rw [handles, vacant, bind_none]) rfl
  next peer occupied =>
  split at updated
  · next session =>
    obtain ⟨txnMgr, counted, rest⟩ := Panic.bind_ok.mp updated
    cases rest
    have here one (link : one.link = handle.link) (same : one.session = peer.session) :
        asm.handles one = peer.txnMgr.opened.get one.id := by
      rw [handles, link, occupied, bind_some, if_pos same.symm]
    rw [handles_setMgr occupied, effect counted]
    split
    · next place =>
      have equal : other.id = handle.id ↔ other = handle := by
        obtain ⟨link, number, id⟩ := other
        obtain ⟨link', number', id'⟩ := handle
        simp only [TxnHandle.mk.injEq]
        exact ⟨fun same => ⟨place.1, place.2.trans session, same⟩, fun same => same.2.2⟩
      rw [here handle rfl session.symm, here other place.1 place.2]
      simp only [equal]
    · next elsewhere =>
      rw [if_neg]
      rintro rfl
      exact elsewhere ⟨rfl, session.symm⟩
  · next former =>
    cases updated
    exact unchanged (by rw [handles, occupied, bind_some, if_neg former]) rfl

theorem cloneHandle_handles (cloned : asm.cloneHandle handle = .ok next) (other : TxnHandle) :
    next.handles other = if other = handle then (asm.handles handle).map (· + 1) else asm.handles other :=
  updateTxn_handles (Option.map (· + 1)) rfl (fun counted id => TxnMgr.refTxn_opened counted id) cloned other

theorem dropHandle_handles (dropped : asm.dropHandle handle = .ok next) (other : TxnHandle) :
    next.handles other = if other = handle then (asm.handles handle).bind Nat.ppred else asm.handles other :=
  updateTxn_handles (Option.bind · Nat.ppred) rfl (fun counted id => TxnMgr.derefTxn_opened counted id)
    dropped other

end Assembly
end ZprCore.Node
