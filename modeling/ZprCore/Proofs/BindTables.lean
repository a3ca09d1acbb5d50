import ZprCore.Proofs.Effects
import ZprCore.Proofs.Handles

/-! Bind requests and next-hop notes. A bind request that awaits its next hop names the egress
link and the transaction there; the egress link notes for the transaction which request it is
for. The two tables are on different peers and each is read as if the other agreed with it. -/

namespace ZprCore.Node
open Datapath (IpAddress FiveTuple)
open Panic (Meets)
open Table Option Function PeerState BindRequestState Prod

/-- The reasons of the checks that the state machine makes on itself. -/
def Consistency (problem : Panic) : Prop :=
  problem = lingeringBind ∨ problem = inactiveBind ∨ problem = wrongBindState ∨ problem = inconsistentDock

instance (problem : Panic) : Decidable (Consistency problem) := inferInstanceAs (Decidable (_ ∨ _))

/-- Other reasons to stop: transactions run out, or a visa or a packet is not supported. -/
abbrev Unrelated (problem : Panic) : Prop := ¬ Consistency problem

/-- Where a bind request awaits its next hop. -/
def BindRequestState.hop : BindRequestState → Option (LinkId × TxnHandle)
  | .awaitingNextHopBind _ egressLinkId egressBindTxn => some (egressLinkId, egressBindTxn)
  | .awaitingVisaResponse | .awaitingVisaPush _ => none

namespace PeerState

/-- What the replies of next hops are routed by. -/
def replies (peer : PeerState) : (Nat × TxnMgr) × Table TxnHandle (LinkId × TxnId) :=
  (peer.txns, peer.awaitingNextHopBindTable)

/-- What bind requests go by. -/
def requests (peer : PeerState) : (Nat × TxnMgr) × Table TxnId BindRequestState := (peer.txns, peer.bindRequestState)

/-- The bind tables of a peer. -/
def binding (peer : PeerState) : (Nat × TxnMgr) × Table TxnId BindRequestState × Table TxnHandle (LinkId × TxnId) :=
  (peer.txns, peer.bindRequestState, peer.awaitingNextHopBindTable)

end PeerState

def Assembly.awaitsAt (asm : Assembly) (link : LinkId) (txnId : TxnId) : Option (LinkId × TxnHandle) :=
  (asm.bindAt link txnId).bind BindRequestState.hop

abbrev Assembly.Unnoted (asm : Assembly) (ingress : LinkId) (txnId : TxnId) : Prop :=
  ∀ link handle, asm.awaitsAt ingress txnId = some (link, handle) → asm.noteAt link handle = none

namespace Frame
variable {before after : Assembly}

theorem repliesNotes (frame : Frame replies before after) (link : LinkId) (handle : TxnHandle) :
    after.noteAt link handle = before.noteAt link handle := by
  have same := congrArg (Option.bind · fun replies => replies.2.get handle) (frame.peers link)
  simp only [bind_map, comp_def] at same
  exact same

theorem requestsBinds (frame : Frame requests before after) (link : LinkId) (txnId : TxnId) :
    after.bindAt link txnId = before.bindAt link txnId := by
  have same := congrArg (Option.bind · fun requests => requests.2.get txnId) (frame.peers link)
  simp only [bind_map, comp_def] at same
  exact same

theorem requestsAwait (frame : Frame requests before after) (link : LinkId) (txnId : TxnId) :
    after.awaitsAt link txnId = before.awaitsAt link txnId :=
  congrArg (Option.bind · hop) (frame.requestsBinds link txnId)

theorem hideReplies (frame : Frame binding before after) : Frame requests before after :=
  frame.coarsen requests (fun binding => (binding.1, binding.2.1)) fun _ => rfl

theorem fill (asm : Assembly) (link : LinkId) (key : StreamId) (pep : PftPep) :
    Frame binding asm (asm.modifyPeer link fun peer => { peer with pft := peer.pft.insert key pep }) :=
  .modifyPeer _ _ fun _ => rfl

end Frame

/-- The bind tables agree between live links, and a noted transaction is open. Of the bind
requests that await a next hop, `lone` is one that may have no note. The transaction of a
note whose request is live has a second handle, as have those of which one is spare. -/
structure Linked (lone : Option (LinkId × TxnId)) (spare : List TxnHandle) (asm : Assembly) : Prop where
  answered : ∀ link handle ingress txnId, asm.noteAt link handle = some (ingress, txnId) →
    (asm.peerTable.get ingress).isSome → asm.awaitsAt ingress txnId = some (link, handle)
  noted : ∀ ingress txnId link handle, asm.awaitsAt ingress txnId = some (link, handle) →
    lone ≠ some (ingress, txnId) → (asm.peerTable.get link).isSome → asm.noteAt link handle = some (ingress, txnId)
  own : ∀ ingress txnId link handle, asm.awaitsAt ingress txnId = some (link, handle) → handle.link = link
  counted : ∀ link handle ingress txnId, asm.noteAt link handle = some (ingress, txnId) → handle.link = link ∧
    ∃ count, asm.handles handle = some count ∧ ((asm.peerTable.get ingress).isSome ∨ handle ∈ spare → 1 ≤ count)

namespace Linked
variable {lone} {spare rest : List TxnHandle} {asm next : Assembly} {ingress : LinkId}
  {txnId : TxnId}

section
variable (linked : Linked lone spare asm)
include linked

theorem congr (same : ∀ link, (next.peerTable.get link).map binding = (asm.peerTable.get link).map binding) :
    Linked lone spare next := by
  have live link : (next.peerTable.get link).isSome = (asm.peerTable.get link).isSome := by
    have equal := congrArg isSome (same link)
    rwa [isSome_map, isSome_map] at equal
  have notes link handle : next.noteAt link handle = asm.noteAt link handle := by
    have equal := congrArg (Option.bind · fun binding => binding.2.2.get handle) (same link)
    simp only [bind_map, comp_def] at equal
    exact equal
  have awaits link txnId : next.awaitsAt link txnId = asm.awaitsAt link txnId := by
    have equal := congrArg (Option.bind · fun binding => binding.2.1.get txnId) (same link)
    simp only [bind_map, comp_def] at equal
    exact congrArg (Option.bind · hop) equal
  have handles handle : next.handles handle = asm.handles handle := by
    have equal := congrArg (Option.bind · fun binding =>
      if binding.1.1 = handle.session then binding.1.2.opened.get handle.id else none) (same handle.link)
    simp only [bind_map, comp_def] at equal
    exact equal
  refine ⟨?_, ?_, ?_, ?_⟩
  · simpa only [live, notes, awaits] using linked.answered
  · simpa only [live, notes, awaits] using linked.noted
  · simpa only [awaits] using linked.own
  · simpa only [live, notes, handles] using linked.counted

theorem of_peers (same : next.peerTable = asm.peerTable) : Linked lone spare next :=
  linked.congr fun place => by rw [same]

theorem recount (frame : Frame exceptTxns asm next)
    (counts : ∀ handle request count, asm.noteAt handle.link handle = some request → asm.handles handle = some count →
      ((asm.peerTable.get request.1).isSome ∨ handle ∈ spare → 1 ≤ count) →
      ∃ after, next.handles handle = some after ∧ ((asm.peerTable.get request.1).isSome ∨ handle ∈ rest → 1 ≤ after)) :
    Linked lone rest next := by
  have awaits link txnId : next.awaitsAt link txnId = asm.awaitsAt link txnId :=
    congrArg (Option.bind · hop) (frame.binds link txnId)
  refine ⟨?_, ?_, ?_, ?_⟩
  · simpa only [frame.live, frame.notes, awaits] using linked.answered
  · simpa only [frame.live, frame.notes, awaits] using linked.noted
  · simpa only [awaits] using linked.own
  intro link handle ingress txnId noted
  rw [frame.notes] at noted
  obtain ⟨rfl, count, opened, enough⟩ := linked.counted link handle ingress txnId noted
  rw [frame.live]
  exact ⟨rfl, counts handle (ingress, txnId) count noted opened enough⟩

theorem rebind (ingress : LinkId) (txnId : TxnId) {lone'} (frame : Frame replies asm next)
    (others : ∀ link txn, (link, txn) ≠ (ingress, txnId) → next.awaitsAt link txn = asm.awaitsAt link txn)
    (unnoted : ∀ link handle, asm.noteAt link handle = some (ingress, txnId) → ¬ (asm.peerTable.get ingress).isSome)
    (excepted : ∀ link handle, next.awaitsAt ingress txnId = some (link, handle) → handle.link = link ∧ lone' = some (ingress, txnId))
    (same : ∀ request, lone = some request → request ≠ (ingress, txnId) → lone' = some request) : Linked lone' spare next := by
  have handles := (frame.coarsen txns fst fun _ => rfl).handles
  refine ⟨?_, ?_, ?_, ?_⟩
  · intro link handle place txn noted live
    rw [frame.repliesNotes] at noted
    rw [frame.live] at live
    rw [others]
    · exact linked.answered link handle place txn noted live
    intro here
    cases here
    exact unnoted link handle noted live
  · intro place txn link handle waiting distinct live
    rw [frame.repliesNotes]
    rw [frame.live] at live
    by_cases here : (place, txn) = (ingress, txnId)
    · cases here
      exact absurd (excepted link handle waiting).2 distinct
    rw [others place txn here] at waiting
    refine linked.noted place txn link handle waiting ?_ live
    intro alone
    exact distinct (same _ alone here)
  · intro place txn link handle waiting
    by_cases here : (place, txn) = (ingress, txnId)
    · cases here
      exact (excepted link handle waiting).1
    · rw [others place txn here] at waiting
      exact linked.own place txn link handle waiting
  · simpa only [frame.live, frame.repliesNotes, handles] using linked.counted

end

theorem widen (linked : Linked none spare asm) : Linked lone spare asm :=
  ⟨linked.answered, fun ingress txnId link handle waiting _ => linked.noted ingress txnId link handle waiting nofun,
    linked.own, linked.counted⟩

theorem settle (linked : Linked (some (ingress, txnId)) spare asm) (free : asm.awaitsAt ingress txnId = none) :
    Linked none spare asm := by
  refine ⟨linked.answered, ?_, linked.own, linked.counted⟩
  intro place txn link handle waiting _ live
  refine linked.noted place txn link handle waiting ?_ live
  intro same
  cases same
  rw [free] at waiting
  cases waiting

end Linked

namespace Assembly
variable {lone} {spare : List TxnHandle} {asm next : Assembly} {ingress link : LinkId}
  {txnId : TxnId} {handle : TxnHandle} {state : BindRequestState}

theorem noteAt_insert (asm : Assembly) (link : LinkId) (handle : TxnHandle) (request : LinkId × TxnId) (place : LinkId)
    (other : TxnHandle) :
    (asm.note link handle request).noteAt place other =
      if place = link ∧ other = handle then (asm.peerTable.get place).map fun _ => request
      else asm.noteAt place other := by
  refine (bind_modify _ (fun _ _ => get_insert _ _ _ _) _ _ _).trans ?_
  rw [map_eq_bind]
  rfl

theorem noteAt_erase (asm : Assembly) (link : LinkId) (handle : TxnHandle) (place : LinkId) (other : TxnHandle) :
    (asm.unnote link handle).noteAt place other =
      if place = link ∧ other = handle then none else asm.noteAt place other := by
  refine (bind_modify _ (fun peer _ => get_erase peer.awaitingNextHopBindTable _ _) _ _ _).trans ?_
  rw [bind_fun_none]
  rfl

theorem awaitsAt_insert (asm : Assembly) (ingress : LinkId) (txnId : TxnId) (state)
    (place : LinkId) (txn : TxnId) :
    (asm.setBind ingress txnId state).awaitsAt place txn =
      if place = ingress ∧ txn = txnId then (asm.peerTable.get place).bind fun _ => state.hop
      else asm.awaitsAt place txn := by
  rw [awaitsAt, bindAt_insert]
  split
  · rw [bind_map]
    rfl
  · rfl

theorem awaitsAt_erase (asm : Assembly) (ingress : LinkId) (txnId : TxnId) (place : LinkId) (txn : TxnId) :
    (asm.endBind ingress txnId).awaitsAt place txn =
      if place = ingress ∧ txn = txnId then none else asm.awaitsAt place txn := by
  rw [awaitsAt, bindAt_erase]
  split <;> rfl

theorem inserted_linked (linked : Linked none spare asm) (free : asm.awaitsAt ingress txnId = none)
    (own : ∀ link handle, state.hop = some (link, handle) → handle.link = link) :
    Linked (some (ingress, txnId)) spare (asm.setBind ingress txnId state) := by
  refine linked.rebind ingress txnId ?_ ?_ ?_ ?_ fun _ => nofun
  · exact .modifyPeer _ _ fun _ => rfl
  · intro place txn elsewhere
    rw [awaitsAt_insert, if_neg]
    intro here
    exact elsewhere (Prod.ext here.1 here.2)
  · intro link handle noted live
    rw [linked.answered link handle ingress txnId noted live] at free
    cases free
  · intro link handle waiting
    rw [awaitsAt_insert, if_pos ⟨rfl, rfl⟩] at waiting
    obtain ⟨_, _, waits⟩ := bind_eq_some_iff.mp waiting
    exact ⟨own link handle waits, rfl⟩

theorem erased_linked (linked : Linked (some (ingress, txnId)) spare asm)
    (unnoted : asm.Unnoted ingress txnId) :
    Linked none spare (asm.endBind ingress txnId) := by
  refine linked.rebind ingress txnId ?_ ?_ ?_ ?_ ?_
  · exact .modifyPeer _ _ fun _ => rfl
  · intro place txn elsewhere
    rw [awaitsAt_erase, if_neg]
    intro here
    exact elsewhere (Prod.ext here.1 here.2)
  · intro link handle noted live
    rw [unnoted link handle (linked.answered link handle ingress txnId noted live)] at noted
    cases noted
  · intro link handle waiting
    rw [awaitsAt_erase, if_pos ⟨rfl, rfl⟩] at waiting
    cases waiting
  · intro request same different
    cases same
    exact absurd rfl different

theorem note_linked (linked : Linked (some (ingress, txnId)) spare asm)
    (waiting : asm.awaitsAt ingress txnId = some (handle.link, handle)) (fresh : asm.noteAt handle.link handle = none) {count}
    (opened : asm.handles handle = some (count + 1)) :
    Linked none spare (asm.note handle.link handle (ingress, txnId)) := by
  have frame : Frame requests asm (asm.note handle.link handle (ingress, txnId)) :=
    .modifyPeer _ _ fun _ => rfl
  have handles := (frame.coarsen txns fst fun _ => rfl).handles
  obtain ⟨peer, occupied, _⟩ := bind_eq_some_iff.mp opened
  refine ⟨?_, ?_, ?_, ?_⟩
  · intro place other request txn noted live
    rw [frame.requestsAwait]
    rw [frame.live] at live
    rw [noteAt_insert] at noted
    split at noted
    · next here =>
      obtain ⟨rfl, rfl⟩ := here
      rw [occupied] at noted
      cases noted
      exact waiting
    · exact linked.answered place other request txn noted live
  · intro request txn place other awaiting _ live
    rw [frame.requestsAwait] at awaiting
    rw [frame.live] at live
    rw [noteAt_insert]
    by_cases same : (request, txn) = (ingress, txnId)
    · cases same
      rw [waiting] at awaiting
      cases awaiting
      rw [if_pos ⟨rfl, rfl⟩, occupied, map_some]
    · have noted := linked.noted request txn place other awaiting (fun lone => same (some.inj lone).symm) live
      rw [if_neg, noted]
      rintro ⟨rfl, rfl⟩
      rw [fresh] at noted
      cases noted
  · simpa only [frame.requestsAwait] using linked.own
  · intro place other request txn noted
    rw [handles, frame.live]
    rw [noteAt_insert] at noted
    split at noted
    · next here =>
      obtain ⟨rfl, rfl⟩ := here
      exact ⟨rfl, count + 1, opened, fun _ => Nat.le_add_left 1 count⟩
    · exact linked.counted place other request txn noted

theorem unnote_linked (linked : Linked none spare asm) (noted : asm.noteAt link handle = some (ingress, txnId)) :
    Linked (some (ingress, txnId)) spare (asm.unnote link handle) := by
  have frame : Frame requests asm (asm.unnote link handle) := .modifyPeer _ _ fun _ => rfl
  have handles := (frame.coarsen txns fst fun _ => rfl).handles
  refine ⟨?_, ?_, ?_, ?_⟩
  · intro place other request txn still live
    rw [frame.requestsAwait]
    rw [frame.live] at live
    rw [noteAt_erase] at still
    split at still
    · cases still
    · exact linked.answered place other request txn still live
  · intro request txn place other awaiting distinct live
    rw [frame.requestsAwait] at awaiting
    rw [frame.live] at live
    have before := linked.noted request txn place other awaiting nofun live
    rw [noteAt_erase, if_neg, before]
    rintro ⟨rfl, rfl⟩
    rw [noted] at before
    exact distinct before
  · simpa only [frame.requestsAwait] using linked.own
  · intro place other request txn still
    rw [handles, frame.live]
    rw [noteAt_erase] at still
    split at still
    · cases still
    · exact linked.counted place other request txn still

theorem updateTxn_error {update problem}
    (stopped : asm.updateTxn handle update = .error problem) : ∃ mgr, update mgr handle.id = .error problem := by
  simp only [updateTxn] at stopped
  split at stopped
  · cases stopped
  next peer occupied =>
  split at stopped
  · cases counted : update peer.txnMgr handle.id with
    | ok txnMgr =>
      rw [counted] at stopped
      cases stopped
    | error reason =>
      rw [counted] at stopped
      cases stopped
      exact ⟨_, counted⟩
  · cases stopped

theorem dropHandle_meets {wanted} (kept : ∀ next, asm.dropHandle handle = .ok next → wanted next) :
    Meets Unrelated wanted (asm.dropHandle handle) := by
  refine .intro kept ?_
  intro problem stopped
  obtain ⟨mgr, closed⟩ := updateTxn_error stopped
  simp only [TxnMgr.derefTxn] at closed
  split at closed
  · cases closed
  · cases closed
  · cases closed
    decide

section
variable (linked : Linked lone spare asm)
include linked

theorem dropHandle_linked (unnoted : asm.noteAt handle.link handle = none) :
    Meets Unrelated (fun next => Linked lone spare next ∧ Frame exceptTxns asm next)
      (asm.dropHandle handle) := by
  refine dropHandle_meets fun next dropped => ?_
  have frame := updateTxn_frame dropped
  refine ⟨linked.recount frame ?_, frame⟩
  intro other request count noted opened enough
  refine ⟨count, ?_, enough⟩
  rw [dropHandle_handles dropped, if_neg, opened]
  rintro rfl
  rw [unnoted] at noted
  cases noted

theorem cloneHandle_linked :
    Meets Unrelated (fun next => Linked lone spare next ∧ Frame exceptTxns asm next ∧
      next.handles handle = (asm.handles handle).map (· + 1)) (asm.cloneHandle handle) := by
  refine .intro ?_ ?_
  · intro next cloned
    have frame := updateTxn_frame cloned
    refine ⟨linked.recount frame ?_, frame, by rw [cloneHandle_handles cloned, if_pos rfl]⟩
    intro other request count noted opened enough
    rw [cloneHandle_handles cloned]
    split
    · next same => exact ⟨count + 1, by rw [← same, opened, map_some], fun _ => Nat.le_add_left 1 count⟩
    · exact ⟨count, opened, enough⟩
  · intro problem stopped
    obtain ⟨mgr, closed⟩ := updateTxn_error stopped
    simp only [TxnMgr.refTxn] at closed
    split at closed
    · cases closed
    · cases closed
      decide

theorem dropState_linked (unnoted : ∀ link handle, state.hop = some (link, handle) → asm.noteAt handle.link handle = none) :
    Meets Unrelated (fun next => Linked lone spare next ∧ Frame exceptTxns asm next) (asm.dropState state) := by
  cases state with
  | awaitingVisaResponse | awaitingVisaPush visaId => exact ⟨linked, .refl _⟩
  | awaitingNextHopBind visaId link handle => exact dropHandle_linked linked (unnoted link handle rfl)

theorem opened_linked {peer id txnMgr} (occupied : asm.peerTable.get link = some peer)
    (opened : peer.txnMgr.tryOpen = some (id, txnMgr)) :
    Linked lone spare (asm.setMgr link txnMgr) ∧
      (asm.setMgr link txnMgr).handles ⟨link, peer.session, id⟩ = some 0 ∧
      (asm.setMgr link txnMgr).noteAt link ⟨link, peer.session, id⟩ = none := by
  obtain ⟨closed, effect⟩ := TxnMgr.tryOpen_opened opened
  have handles := handles_setMgr occupied txnMgr
  have before : asm.handles ⟨link, peer.session, id⟩ = none := by
    simp only [Assembly.handles, occupied, bind_some, if_true, closed]
  have frame := Frame.setMgr asm link txnMgr
  refine ⟨linked.recount frame ?_, ?_, ?_⟩
  · intro handle request count noted found enough
    refine ⟨count, ?_, enough⟩
    rw [handles]
    split
    · next here =>
      rw [Assembly.handles, here.1, occupied, bind_some, if_pos here.2.symm] at found
      rw [effect, if_neg, found]
      intro same
      rw [same, closed] at found
      cases found
    · exact found
  · rw [handles, if_pos ⟨rfl, rfl⟩, effect, if_pos rfl]
  · rw [frame.notes]
    cases noted : asm.noteAt link ⟨link, peer.session, id⟩ with
    | none => rfl
    | some request =>
      obtain ⟨_, count, found, _⟩ := linked.counted _ _ _ _ noted
      rw [before] at found
      cases found

end

theorem lingers_unnoted (unnoted : ∀ link handle, state.hop = some (link, handle) → asm.noteAt link handle = none) :
    asm.lingers state = false := by
  cases state with
  | awaitingVisaResponse => rfl
  | awaitingVisaPush visaId => rfl
  | awaitingNextHopBind visaId link handle =>
    have absent := unnoted link handle rfl
    simp only [noteAt, bind_eq_none_iff] at absent
    simp only [lingers, any_eq_false, isSome_eq_false_iff, isNone_iff_eq_none]
    exact absent

/-- A bind request has come to an end, and no note has changed. -/
structure Ended (asm : Assembly) (ingress : LinkId) (txnId : TxnId) (next : Assembly) : Prop where
  linked : Linked none [] next
  free : next.awaitsAt ingress txnId = none
  notes : ∀ link handle, next.noteAt link handle = asm.noteAt link handle

theorem Ended.of_frame (frame : Frame binding asm next) (linked : Linked none [] asm)
    (free : asm.awaitsAt ingress txnId = none) : Ended asm ingress txnId next where
  linked := linked.congr frame.peers
  free := (frame.hideReplies.requestsAwait _ _).trans free
  notes := (frame.coarsen replies (fun binding => (binding.1, binding.2.2)) fun _ => rfl).repliesNotes

theorem Ended.trans {middle} (first : Ended asm ingress txnId middle) (second : Ended middle ingress txnId next) :
    Ended asm ingress txnId next :=
  ⟨second.linked, second.free, fun link handle => (second.notes link handle).trans (first.notes link handle)⟩

section
variable (linked : Linked (some (ingress, txnId)) [] asm) (unnoted : asm.Unnoted ingress txnId)
include linked unnoted

theorem removeBind_ended : Meets Unrelated (Ended asm ingress txnId) (asm.removeBind ingress txnId) := by
  simp only [removeBind]
  split
  · next absent =>
    have free : asm.awaitsAt ingress txnId = none := by rw [awaitsAt, bindAt, absent, bind_none]
    exact ⟨linked.settle free, free, fun _ _ => rfl⟩
  next state held =>
  have waits : asm.awaitsAt ingress txnId = state.hop := by rw [awaitsAt, bindAt, held, bind_some]
  have erased := erased_linked linked unnoted
  rw [Unnoted, waits] at unnoted
  rw [lingers_unnoted unnoted]
  have frame : Frame replies asm (asm.endBind ingress txnId) := .modifyPeer _ _ fun _ => rfl
  refine (dropState_linked erased ?_).mono ?_
  · intro link handle waiting
    rw [frame.repliesNotes, linked.own ingress txnId link handle (waits.trans waiting)]
    exact unnoted link handle waiting
  rintro next ⟨done, dropped⟩
  refine ⟨done, ?_, fun link handle => (dropped.notes link handle).trans (frame.repliesNotes link handle)⟩
  rw [awaitsAt, dropped.binds]
  exact (awaitsAt_erase asm ingress txnId ingress txnId).trans (if_pos ⟨rfl, rfl⟩)

theorem bindReject_ended {reason} : Meets Unrelated (Ended asm ingress txnId) (asm.bindReject ingress txnId reason) := by
  simp only [bindReject]
  split
  · next vacant =>
    have free : asm.awaitsAt ingress txnId = none := by rw [awaitsAt, bindAt, vacant, bind_none, bind_none]
    exact ⟨linked.settle free, free, fun _ _ => rfl⟩
  next peer occupied =>
  refine (removeBind_ended linked unnoted).bind fun next ended => ended.trans ?_
  exact .of_frame (.sendRejection _ _ _ _ _) ended.linked ended.free

end

section
variable (linked : Linked none [] asm) (free : asm.awaitsAt ingress txnId = none)
include linked free

theorem rejected_linked {reason} : Meets Unrelated (Ended asm ingress txnId) (asm.bindReject ingress txnId reason) := by
  refine bindReject_ended linked.widen ?_
  intro link handle waiting
  rw [free] at waiting
  cases waiting

omit linked in
theorem insertBind_free :
    asm.insertBind ingress txnId state = .ok (asm.setBind ingress txnId state) := by
  simp only [insertBind]
  split
  · next old held =>
    rw [awaitsAt, bindAt, held, bind_some] at free
    cases old with
    | awaitingVisaResponse => rfl
    | awaitingVisaPush visaId => rfl
    | awaitingNextHopBind visaId link handle => cases free
  · rfl

theorem waiting_linked (waits : state.hop = none) : Meets Unrelated (Linked none []) (asm.insertBind ingress txnId state) := by
  rw [insertBind_free free]
  refine (inserted_linked linked free ?_).settle ?_
  · intro link handle waiting
    rw [waits] at waiting
    cases waiting
  · rw [awaitsAt_insert, if_pos ⟨rfl, rfl⟩, waits]
    cases asm.peerTable.get ingress <;> rfl

theorem awaitNextHop_linked {visaId request} (fresh : asm.noteAt handle.link handle = none)
    (opened : asm.handles handle = some 0) :
    Meets Unrelated (Linked none []) (asm.awaitNextHop ingress txnId visaId handle request) := by
  simp only [awaitNextHop]
  split
  · exact (dropHandle_linked linked fresh).mono fun next done => done.1
  next peer occupied =>
  refine (cloneHandle_linked linked).bind ?_
  rintro cloned ⟨counted, frame, second⟩
  rw [opened, map_some] at second
  have still : cloned.awaitsAt ingress txnId = none := by
    rw [awaitsAt, frame.binds]
    exact free
  rw [insertBind_free still]
  have entering : Frame replies cloned (cloned.setBind ingress txnId (.awaitingNextHopBind visaId handle.link handle)) :=
    .modifyPeer _ _ fun _ => rfl
  have entered := @inserted_linked _ _ _ _ (.awaitingNextHopBind visaId handle.link handle) counted still
    (by rintro link txn ⟨⟩; rfl)
  have waiting : (cloned.setBind ingress txnId (.awaitingNextHopBind visaId handle.link handle)).awaitsAt ingress txnId = some (handle.link, handle) := by
    have present := frame.live ingress
    rw [occupied] at present
    obtain ⟨peer, found⟩ := isSome_iff_exists.mp present
    rw [awaitsAt_insert, if_pos ⟨rfl, rfl⟩, found]
    rfl
  have both := @note_linked _ _ _ _ _ entered waiting
    ((entering.repliesNotes _ _).trans ((frame.notes _ _).trans fresh)) 0
    (((entering.coarsen txns fst fun _ => rfl).handles handle).trans second)
  exact both.of_peers rfl

theorem requestedVisaGranted_linked {visaId} :
    Meets Unrelated (Linked none []) (asm.requestedVisaGranted ingress txnId visaId) := by
  have denied : Meets Unrelated (Linked none []) (asm.requestedVisaDenied ingress txnId) :=
    (rejected_linked linked free).mono fun next ended => ended.linked
  simp only [requestedVisaGranted]
  split
  · exact denied
  next link found =>
  split
  · exact denied
  next peer occupied =>
  split
  · exact denied
  next request asked =>
  split
  · exact (by decide : Unrelated (.assertion "FIXME TODO: bind backpressure #1176"))
  next id txnMgr opened =>
  obtain ⟨counted, first, fresh⟩ := opened_linked linked occupied opened
  have opening := Frame.setMgr asm link txnMgr
  refine awaitNextHop_linked counted ?_ fresh first
  rw [awaitsAt, opening.binds]
  exact free

end

end Assembly
end ZprCore.Node
