import ZprCore.Node.System

/-! What the bind-request state machine changes. Until a route is installed it touches only
transactions, bind requests and next-hop notes, and of the bind requests only its own. -/

namespace ZprCore.Node
open Panic Table Option Function PeerState

namespace PeerState

/-- A peer without its transactions. -/
def exceptTxns (peer : PeerState) : PeerState := { peer with txnMgr := .new }

/-- A peer without the state of its bind requests. -/
def exceptBinds (peer : PeerState) : PeerState :=
  { peer with txnMgr := .new, bindRequestState := ∅, awaitingNextHopBindTable := ∅ }

end PeerState

namespace Assembly

variable (asm : Assembly) (link : LinkId)

/-- Changes of one peer. -/
abbrev setMgr (txnMgr : TxnMgr) : Assembly :=
  asm.modifyPeer link fun peer => { peer with txnMgr }

abbrev setBind (txnId : TxnId) (state : BindRequestState) : Assembly :=
  asm.modifyPeer link fun peer => { peer with bindRequestState := peer.bindRequestState.insert txnId state }

abbrev endBind (txnId : TxnId) : Assembly :=
  asm.modifyPeer link fun peer => { peer with bindRequestState := peer.bindRequestState.erase txnId }

abbrev note (handle : TxnHandle) (request : LinkId × TxnId) : Assembly :=
  asm.modifyPeer link fun peer =>
    { peer with awaitingNextHopBindTable := peer.awaitingNextHopBindTable.insert handle request }

abbrev unnote (handle : TxnHandle) : Assembly :=
  asm.modifyPeer link fun peer => { peer with awaitingNextHopBindTable := peer.awaitingNextHopBindTable.erase handle }

def bindAt (txnId : TxnId) : Option BindRequestState :=
  (asm.peerTable.get link).bind fun peer => peer.bindRequestState.get txnId

def noteAt (handle : TxnHandle) : Option (LinkId × TxnId) :=
  (asm.peerTable.get link).bind fun peer => peer.awaitingNextHopBindTable.get handle

end Assembly

/-- The node is the same but for its messages and what a view of its peers hides. -/
structure Frame {β : Type} (view : PeerState → β) (before after : Assembly) : Prop where
  addrs : after.localZprAddrs = before.localZprAddrs
  visas : after.visaTable = before.visaTable
  tasks : after.tasks = before.tasks
  sessions : after.sessions = before.sessions
  peers : ∀ link, (after.peerTable.get link).map view = (before.peerTable.get link).map view

namespace Frame
variable {β γ : Type} {view : PeerState → β} {asm before middle after : Assembly}

theorem refl (asm : Assembly) : Frame view asm asm := ⟨rfl, rfl, rfl, rfl, fun _ => rfl⟩

theorem trans (first : Frame view before middle) (second : Frame view middle after) : Frame view before after :=
  ⟨second.addrs.trans first.addrs, second.visas.trans first.visas, second.tasks.trans first.tasks,
    second.sessions.trans first.sessions, fun link => (second.peers link).trans (first.peers link)⟩

theorem coarsen (frame : Frame view before after) (coarse) (hidden : β → γ)
    (through : ∀ peer, hidden (view peer) = coarse peer) : Frame coarse before after := by
  refine ⟨frame.addrs, frame.visas, frame.tasks, frame.sessions, ?_⟩
  intro link
  have same := congrArg (Option.map hidden) (frame.peers link)
  simpa only [map_map, comp_def, through] using same

theorem modifyPeer (asm : Assembly) (link : LinkId) {change}
    (kept : ∀ peer, view (change peer) = view peer) : Frame view asm (asm.modifyPeer link change) := by
  refine ⟨rfl, rfl, rfl, rfl, ?_⟩
  intro other
  simp only [Assembly.modifyPeer, get_modify]
  split
  · simp only [map_map, comp_def, kept]
  · rfl

theorem setMgr (asm : Assembly) (link : LinkId) (txnMgr : TxnMgr) : Frame exceptTxns asm (asm.setMgr link txnMgr) :=
  modifyPeer _ _ fun _ => rfl

theorem send (asm : Assembly) (link : LinkId) (message : Message) : Frame view asm (asm.send link message) :=
  ⟨rfl, rfl, rfl, rfl, fun _ => rfl⟩

theorem sendRejection (asm : Assembly) (link : LinkId) (peerType : PeerType) (txnId : TxnId) (reason : String) :
    Frame view asm (asm.sendRejection link peerType txnId reason) := by
  cases peerType with
  | adapter | node => exact send _ _ _
  | dock | unknown => exact refl _

variable (frame : Frame exceptTxns before after)
include frame

theorem binds (link : LinkId) (txnId : TxnId) : after.bindAt link txnId = before.bindAt link txnId := by
  have same := congrArg (Option.bind · fun peer => peer.bindRequestState.get txnId) (frame.peers link)
  simp only [bind_map, comp_def] at same
  exact same

theorem notes (link : LinkId) (handle : TxnHandle) : after.noteAt link handle = before.noteAt link handle := by
  have same := congrArg (Option.bind · fun peer => peer.awaitingNextHopBindTable.get handle) (frame.peers link)
  simp only [bind_map, comp_def] at same
  exact same

theorem hideBinds : Frame exceptBinds before after :=
  frame.coarsen _ exceptBinds fun _ => rfl

end Frame

namespace Assembly
variable {asm next : Assembly} {state : BindRequestState}

theorem occupied_of_bind {link txnId} (held : asm.bindAt link txnId = some state) : (asm.peerTable.get link).isSome := by
  obtain ⟨peer, occupied, _⟩ := bind_eq_some_iff.mp held
  rw [occupied]
  rfl

theorem updateTxn_frame {handle update}
    (updated : asm.updateTxn handle update = .ok next) : Frame exceptTxns asm next := by
  simp only [updateTxn] at updated
  split at updated
  · cases updated
    exact .refl _
  split at updated
  · obtain ⟨txnMgr, _, rest⟩ := bind_ok.mp updated
    cases rest
    exact .modifyPeer _ _ fun _ => rfl
  · cases updated
    exact .refl _

theorem dropState_frame (dropped : asm.dropState state = .ok next) : Frame exceptTxns asm next := by
  cases state with
  | awaitingVisaResponse | awaitingVisaPush visaId =>
    cases dropped
    exact .refl _
  | awaitingNextHopBind visaId egressLinkId handle => exact updateTxn_frame dropped

theorem dropStates_frame {states : List BindRequestState} (dropped : states.foldlM dropState asm = .ok next) :
    Frame exceptTxns asm next := by
  induction states generalizing asm with
  | nil =>
    cases dropped
    exact .refl _
  | cons state rest ih =>
    rw [List.foldlM_cons] at dropped
    obtain ⟨middle, first, later⟩ := bind_ok.mp dropped
    exact (dropState_frame first).trans (ih later)

/-- A removed peer takes all its tables along; its bind requests are dropped. -/
theorem remove_frame {link : LinkId} (removed : asm.remove link = .ok next) :
    Frame exceptTxns { asm with peerTable := asm.peerTable.erase link } next := by
  simp only [remove] at removed
  split at removed
  · next vacant =>
    cases removed
    refine ⟨rfl, rfl, rfl, rfl, ?_⟩
    intro other
    simp only [get_erase]
    split
    · next same => rw [same, vacant]
    · rfl
  · exact dropStates_frame removed

end Assembly

/-- Work on one bind request: only the state of that request may be a new one, and then it is
an expected one. -/
structure Progress (link : LinkId) (txnId : TxnId) (entered : BindRequestState → Prop) (before after : Assembly) :
    Prop extends Frame PeerState.exceptBinds before after where
  binds : ∀ other txn state, after.bindAt other txn = some state →
    before.bindAt other txn = some state ∨ other = link ∧ txn = txnId ∧ entered state

namespace Progress
variable {link : LinkId} {txnId : TxnId} {entered expected}
  {before middle after : Assembly}

theorem of_frame (frame : Frame exceptTxns before after) : Progress link txnId entered before after :=
  ⟨frame.hideBinds, fun other txn _ found => .inl ((frame.binds other txn).symm.trans found)⟩

theorem refl (asm : Assembly) : Progress link txnId entered asm asm := of_frame (.refl _)

theorem trans (first : Progress link txnId entered before middle) (second : Progress link txnId entered middle after) :
    Progress link txnId entered before after := by
  refine ⟨first.toFrame.trans second.toFrame, ?_⟩
  intro other txn state found
  rcases second.binds other txn state found with old | new
  · exact first.binds other txn state old
  · exact .inr new

theorem mono (progress : Progress link txnId entered before after) (implied : ∀ state, entered state → expected state) :
    Progress link txnId expected before after := by
  refine ⟨progress.toFrame, ?_⟩
  intro other txn state found
  exact (progress.binds other txn state found).imp_right fun ⟨sameLink, sameTxn, new⟩ =>
    ⟨sameLink, sameTxn, implied state new⟩

theorem note (asm : Assembly) (other : LinkId)
    (change : Table TxnHandle (LinkId × TxnId) → Table TxnHandle (LinkId × TxnId)) :
    Progress link txnId entered asm (asm.modifyPeer other fun peer =>
      { peer with awaitingNextHopBindTable := change peer.awaitingNextHopBindTable }) := by
  refine ⟨.modifyPeer _ _ fun _ => rfl, ?_⟩
  intro place txn state found
  simp only [Assembly.bindAt, Assembly.modifyPeer, get_modify] at found ⊢
  split at found
  · simp only [bind_map, comp_def] at found
    exact .inl found
  · exact .inl found

end Progress

namespace Assembly
variable {asm next : Assembly} {ingressLinkId : LinkId} {txnId : TxnId} {visaId : VisaId}
  {entered}

theorem bindAt_insert (asm : Assembly) (ingressLinkId : LinkId) (txnId : TxnId) (state)
    (link : LinkId) (txn : TxnId) :
    (asm.setBind ingressLinkId txnId state).bindAt link txn =
      if link = ingressLinkId ∧ txn = txnId then (asm.peerTable.get link).map fun _ => state
      else asm.bindAt link txn := by
  refine (bind_modify _ (fun _ _ => get_insert _ _ _ _) _ _ _).trans ?_
  rw [map_eq_bind]
  rfl

theorem bindAt_erase (asm : Assembly) (ingressLinkId : LinkId) (txnId : TxnId) (link : LinkId) (txn : TxnId) :
    (asm.endBind ingressLinkId txnId).bindAt link txn =
      if link = ingressLinkId ∧ txn = txnId then none else asm.bindAt link txn := by
  refine (bind_modify _ (fun peer _ => get_erase peer.bindRequestState _ _) _ _ _).trans ?_
  rw [bind_fun_none]
  rfl

theorem insertBind_progress {state} (inserted : asm.insertBind ingressLinkId txnId state = .ok next) :
    Progress ingressLinkId txnId (· = state) asm next := by
  have first : Progress ingressLinkId txnId (· = state) asm (asm.setBind ingressLinkId txnId state) := by
    refine ⟨.modifyPeer _ _ fun _ => rfl, ?_⟩
    intro link txn found
    rw [bindAt_insert]
    intro stored
    split at stored
    · next here =>
      obtain ⟨_, _, same⟩ := map_eq_some_iff.mp stored
      exact .inr ⟨here.1, here.2, same.symm⟩
    · exact .inl stored
  simp only [insertBind] at inserted
  split at inserted
  · exact first.trans (.of_frame (dropState_frame inserted))
  · cases inserted
    exact first

theorem removeBind_progress (removed : asm.removeBind ingressLinkId txnId = .ok next) :
    Progress ingressLinkId txnId entered asm next := by
  simp only [removeBind] at removed
  split at removed
  · cases removed
    exact .refl _
  split at removed
  · cases removed
  refine .trans ?_ (.of_frame (dropState_frame removed))
  refine ⟨.modifyPeer _ _ fun _ => rfl, ?_⟩
  intro link txn state found
  rw [bindAt_erase] at found
  split at found
  · cases found
  · exact .inl found

theorem bindReject_progress {reason} (rejected : asm.bindReject ingressLinkId txnId reason = .ok next) :
    Progress ingressLinkId txnId entered asm next := by
  simp only [bindReject] at rejected
  split at rejected
  · cases rejected
    exact .refl _
  obtain ⟨middle, removed, rest⟩ := bind_ok.mp rejected
  cases rest
  exact (removeBind_progress removed).trans (.of_frame (.sendRejection _ _ _ _ _))

theorem awaitNextHop_progress {handle request}
    (awaited : asm.awaitNextHop ingressLinkId txnId visaId handle request = .ok next) :
    Progress ingressLinkId txnId (· = .awaitingNextHopBind visaId handle.link handle) asm next := by
  simp only [awaitNextHop] at awaited
  split at awaited
  · exact .of_frame (updateTxn_frame awaited)
  obtain ⟨cloned, counted, rest⟩ := bind_ok.mp awaited
  obtain ⟨entered, inserted, done⟩ := bind_ok.mp rest
  cases done
  apply Progress.trans (.of_frame (updateTxn_frame counted))
  apply (insertBind_progress inserted).trans
  exact (Progress.note entered handle.link _).trans (.of_frame (.send _ _ _))

theorem requestedVisaGranted_progress (granted : asm.requestedVisaGranted ingressLinkId txnId visaId = .ok next) :
    Progress ingressLinkId txnId (fun state => ∃ link handle, state = .awaitingNextHopBind visaId link handle)
      asm next := by
  simp only [requestedVisaGranted] at granted
  split at granted
  · exact bindReject_progress granted
  split at granted
  · exact bindReject_progress granted
  split at granted
  · exact bindReject_progress granted
  split at granted
  · cases granted
  have awaited := awaitNextHop_progress granted
  refine .trans ?_ (awaited.mono fun state same => ⟨_, _, same⟩)
  exact .of_frame (.modifyPeer _ _ fun _ => rfl)

theorem resolve_progress {egressLinkId egressTxn originator}
    (resolved : asm.resolveNextHopBindOriginator egressLinkId egressTxn = .ok (originator, next)) :
    Progress ingressLinkId txnId entered asm next := by
  simp only [resolveNextHopBindOriginator] at resolved
  split at resolved
  · cases resolved
    exact .refl _
  split at resolved
  · cases resolved
    exact .refl _
  obtain ⟨_, _, rest⟩ := bind_ok.mp resolved
  obtain ⟨dropped, released, done⟩ := bind_ok.mp rest
  cases done
  exact (Progress.note asm egressLinkId _).trans (.of_frame (updateTxn_frame released))

end Assembly
end ZprCore.Node
