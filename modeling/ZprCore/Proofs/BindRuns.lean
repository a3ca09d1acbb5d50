import ZprCore.Proofs.BindTables
import ZprCore.Proofs.ClassifierReads

/-! Runs of the bind-request state machine. The bind tables agree as long as transaction ids
and link ids are not used again while something still refers to their former use. -/

namespace ZprCore.Node
open Datapath (IpAddress FiveTuple)
open Panic Runs Table Sample Option List Assembly VisaTask PeerState

namespace Assembly
variable {asm next : Assembly} {ingress link : LinkId} {txnId : TxnId} {handle : TxnHandle} {vacant : Option StreamId}
  {response : NextHopResponse} {request : LinkId × TxnId} {spare : List TxnHandle}

theorem checkOriginator_agrees (waiting : (asm.peerTable.get ingress).isSome →
    asm.awaitsAt ingress txnId = some (link, handle)) : asm.checkOriginator link handle ingress txnId = .ok () := by
  simp only [checkOriginator]
  split
  · rfl
  next peer occupied =>
  obtain ⟨state, held, hop⟩ := bind_eq_some_iff.mp (waiting (by rw [occupied]; rfl))
  rw [bindAt, occupied, bind_some] at held
  rw [held]
  cases state with
  | awaitingVisaResponse => cases hop
  | awaitingVisaPush visaId => cases hop
  | awaitingNextHopBind visaId egress txn =>
    cases hop
    exact if_pos ⟨rfl, rfl⟩

/-- The note of a transaction is gone, and its request, if there is one, is a lone one. -/
def Resolved (link : LinkId) (handle : TxnHandle) (result : Except InstallTetherError (LinkId × TxnId) × Assembly) :
    Prop :=
  result.2.noteAt link handle = none ∧
    match result.1 with
    | .error _ => Linked none [] result.2
    | .ok (ingress, txnId) => Linked (some (ingress, txnId)) [] result.2 ∧ ∀ egress txn,
      result.2.awaitsAt ingress txnId = some (egress, txn) → result.2.noteAt egress txn = none

theorem installRoute_ended {peerType key pep} (linked : Linked none [] asm) (free : asm.awaitsAt ingress txnId = none) :
    Meets Unrelated (Ended asm ingress txnId) (asm.installRoute ingress peerType txnId key pep) := by
  simp only [installRoute]
  split
  · exact rejected_linked linked free
  next visa found =>
  -- the visa table does not matter to the bind tables
  have visas : Linked none []
      { asm with visaTable := asm.visaTable.linkForwardingEntry pep.visaId (ingress, key) } := linked.of_peers rfl
  split
  · exact (rejected_linked visas free).mono fun next ended => ⟨ended.linked, ended.free, ended.notes⟩
  next response sent =>
  have ended : Ended _ ingress txnId _ :=
    .of_frame ((Frame.fill _ ingress key pep).trans (.send _ ingress response)) visas free
  exact ⟨ended.linked, ended.free, ended.notes⟩

theorem requestedTetherGranted_ended {tether} (linked : Linked (some (ingress, txnId)) [] asm)
    (unnoted : asm.Unnoted ingress txnId) :
    Meets Unrelated (Ended asm ingress txnId) (asm.requestedTetherGranted ingress txnId tether vacant) := by
  simp only [requestedTetherGranted]
  split
  · next absent =>
    have free : asm.awaitsAt ingress txnId = none := by rw [awaitsAt, bindAt, absent, bind_none, bind_none]
    exact ⟨linked.settle free, free, fun _ _ => rfl⟩
  next peer occupied =>
  split
  · next visaId egress txn held =>
    refine (removeBind_ended linked unnoted).bind fun closed ended => ?_
    split
    · exact (rejected_linked ended.linked ended.free).mono fun next => ended.trans
    · exact (installRoute_ended ended.linked ended.free).mono fun next => ended.trans
  · next other =>
    have free : asm.awaitsAt ingress txnId = none := by
      rw [awaitsAt, bindAt, occupied, bind_some]
      cases held : peer.bindRequestState.get txnId with
      | none => rfl
      | some state =>
        cases state with
        | awaitingVisaResponse => rfl
        | awaitingVisaPush visaId => rfl
        | awaitingNextHopBind visaId egress txn => exact absurd held (other visaId egress txn)
    exact ⟨linked.settle free, free, fun _ _ => rfl⟩

/-- The handles of bind requests. -/
def handlesOf (states : List BindRequestState) : List TxnHandle :=
  states.filterMap fun state => state.hop.map Prod.snd

/-- Dropping the bind requests of a peer that is gone. The notes for them stay behind; each
lost handle is the second one of its transaction. -/
structure Leaving (states : List BindRequestState) (asm : Assembly) : Prop where
  linked : Linked none (handlesOf states) asm
  distinct : (handlesOf states).Pairwise fun one two => one = two → asm.noteAt one.link one = none
  gone : ∀ handle ∈ handlesOf states, ∀ request, asm.noteAt handle.link handle = some request →
    asm.peerTable.get request.1 = none

theorem Leaving.drop {state rest} (leaving : Leaving (state :: rest) asm) :
    Meets Unrelated (Leaving rest) (asm.dropState state) := by
  cases state with
  | awaitingVisaResponse | awaitingVisaPush visaId => exact ⟨leaving.linked, leaving.distinct, leaving.gone⟩
  | awaitingNextHopBind visaId link handle =>
    obtain ⟨linked, distinct, gone⟩ := leaving
    obtain ⟨single, others⟩ := pairwise_cons.mp distinct
    refine (dropHandle_meets fun next dropped => ?_)
    have frame := updateTxn_frame dropped
    refine ⟨linked.recount frame ?_, ?_, ?_⟩
    · intro other request count noted opened enough
      rw [dropHandle_handles dropped]
      by_cases same : other = handle
      · subst same
        obtain ⟨fewer, rfl⟩ := Nat.exists_eq_add_of_le' (enough (.inr (.head _)))
        refine ⟨fewer, by rw [if_pos rfl, opened]; rfl, ?_⟩
        rintro (live | later)
        · rw [gone other (.head _) request noted] at live
          cases live
        · rw [single other later rfl] at noted
          cases noted
      · rw [if_neg same]
        exact ⟨count, opened, fun needed => enough (needed.imp_right (.tail _))⟩
    · refine others.imp fun {one two} unnoted same => ?_
      rw [frame.notes]
      exact unnoted same
    · intro other later request noted
      rw [frame.notes] at noted
      have absent := frame.live request.1
      rw [gone other (.tail _ later) request noted] at absent
      simpa using absent

theorem Swept.linked {lone} (swept : Swept asm next) (linked : Linked lone spare asm) : Linked lone spare next := by
  refine linked.congr fun place => ?_
  have same := congrArg (Option.map binding) (swept.peers place)
  simp only [Option.map_map, Function.comp_def] at same
  exact same

section
variable (linked : Linked none [] asm)
include linked

theorem resolve_linked : Meets Unrelated (Resolved link handle) (asm.resolveNextHopBindOriginator link handle) := by
  simp only [resolveNextHopBindOriginator]
  split
  · next vacant => exact ⟨by rw [noteAt, vacant, bind_none], linked⟩
  next peer occupied =>
  split
  · next absent => exact ⟨by rw [noteAt, occupied, bind_some, absent], linked⟩
  next ingress txnId found =>
  have noted : asm.noteAt link handle = some (ingress, txnId) := by rw [noteAt, occupied, bind_some, found]
  have erasing : Frame requests asm (asm.unnote link handle) :=
    .modifyPeer _ _ fun _ => rfl
  have gone := (noteAt_erase asm link handle link handle).trans (if_pos ⟨rfl, rfl⟩)
  rw [checkOriginator_agrees]
  · refine (dropHandle_linked (unnote_linked linked noted) ?_).bind ?_
    · rw [(linked.counted _ _ _ _ noted).1]
      exact gone
    rintro next ⟨done, frame⟩
    refine ⟨(frame.notes link handle).trans gone, done, ?_⟩
    intro egress txn waiting
    rw [awaitsAt, frame.binds] at waiting
    have before := (erasing.requestsAwait ingress txnId).symm.trans waiting
    have live : (asm.peerTable.get ingress).isSome := by
      obtain ⟨state, held, _⟩ := bind_eq_some_iff.mp before
      exact occupied_of_bind held
    rw [linked.answered _ _ _ _ noted live] at before
    cases before
    exact (frame.notes link handle).trans gone
  · intro live
    rw [erasing.live] at live
    rw [erasing.requestsAwait]
    exact linked.answered _ _ _ _ noted live

theorem completeTether_linked :
    Meets Unrelated (fun next => Linked none [] next ∧ next.noteAt link handle = none)
      (asm.completeTether link handle response vacant) := by
  cases response
  all_goals
    refine (resolve_linked linked).bind ?_
    rintro ⟨problem | request, resolved⟩ ⟨gone, found⟩
    · exact ⟨found, gone⟩
  case success tether =>
    refine (requestedTetherGranted_ended found.1 found.2).mono fun next ended => ⟨ended.linked, ?_⟩
    exact (ended.notes link handle).trans gone
  case other reason =>
    refine (bindReject_ended found.1 found.2).mono fun next ended => ⟨ended.linked, ?_⟩
    exact (ended.notes link handle).trans gone

theorem handleNextHopResponse_linked :
    Meets Unrelated (Linked none []) (asm.handleNextHopResponse link txnId response vacant) := by
  simp only [handleNextHopResponse]
  split
  · exact linked
  next peer occupied =>
  split
  · exact linked
  next txnMgr found =>
  have cloned : asm.cloneHandle ⟨link, peer.session, txnId⟩ =
      .ok (asm.setMgr link txnMgr) := by
    simp only [cloneHandle, updateTxn, occupied, if_true, TxnMgr.refTxn_of_get found, ok_bind]
    rfl
  have counted := ((cloneHandle_linked linked).of_ok cloned).1
  refine (completeTether_linked counted).bind fun next kept => ?_
  exact (dropHandle_linked kept.1 kept.2).mono fun final kept => kept.1

theorem awaited_of_pair {peer} (occupied : asm.peerTable.get link = some peer) {pair}
    (listed : pair ∈ peer.bindRequestState.pairs) (waits : pair.2.hop.map Prod.snd = some handle) :
    asm.awaitsAt link pair.1 = some (handle.link, handle) := by
  obtain ⟨⟨egress, txn⟩, hop, rfl⟩ := map_eq_some_iff.mp waits
  have held := (mem_pairs _ _ _).mp listed
  have awaiting : asm.awaitsAt link pair.1 = some (egress, txn) := by
    rw [awaitsAt, bindAt, occupied, bind_some, held, bind_some, hop]
  rw [linked.own _ _ _ _ awaiting]
  exact awaiting

/-- A note that is left for a request of a removed peer. -/
theorem left_note {awaited} (waits : asm.awaitsAt link awaited = some (handle.link, handle))
    (noted : ({ asm with peerTable := asm.peerTable.erase link } : Assembly).noteAt handle.link handle = some request) :
    request = (link, awaited) := by
  simp only [noteAt, get_erase] at noted
  split at noted
  · cases noted
  have before : asm.noteAt handle.link handle = some request := noted
  obtain ⟨_, live, _⟩ := bind_eq_some_iff.mp before
  rw [linked.noted _ _ _ _ waits (by simp) (by rw [live]; rfl)] at before
  cases before
  rfl

theorem removed_linked (occupied : (asm.peerTable.get link).isSome)
    (last : ∀ handle ∈ spare, ∃ txnId, asm.awaitsAt link txnId = some (handle.link, handle)) :
    Linked none spare { asm with peerTable := asm.peerTable.erase link } := by
  refine ⟨?_, ?_, ?_, ?_⟩
  · intro place other ingress txn noted live
    simp only [noteAt, awaitsAt, bindAt, get_erase] at noted live ⊢
    split at noted
    · cases noted
    split at live
    · cases live
    next kept =>
    rw [if_neg kept]
    exact linked.answered place other ingress txn noted live
  · intro ingress txn place other waiting _ live
    simp only [noteAt, awaitsAt, bindAt, get_erase] at waiting live ⊢
    split at waiting
    · cases waiting
    split at live
    · cases live
    next kept =>
    rw [if_neg kept]
    exact linked.noted ingress txn place other waiting (by simp) live
  · intro ingress txn place other waiting
    simp only [awaitsAt, bindAt, get_erase] at waiting
    split at waiting
    · cases waiting
    · exact linked.own ingress txn place other waiting
  · intro place other ingress txn noted
    have still := noted
    simp only [noteAt, get_erase] at still
    split at still
    · cases still
    next kept =>
    obtain ⟨rfl, count, opened, enough⟩ := linked.counted place other ingress txn still
    refine ⟨rfl, count, ?_, ?_⟩
    · simp only [handles, get_erase, if_neg kept]
      exact opened
    intro needed
    apply enough
    rcases needed with live | held
    · simp only [get_erase] at live
      split at live
      · cases live
      · exact .inl live
    · obtain ⟨awaited, waits⟩ := last other held
      cases left_note linked waits noted
      exact .inl occupied

theorem leaving_of_removed {peer} (occupied : asm.peerTable.get link = some peer) :
    Leaving (peer.bindRequestState.pairs.map Prod.snd) { asm with peerTable := asm.peerTable.erase link } := by
  have waits : ∀ handle ∈ handlesOf (peer.bindRequestState.pairs.map Prod.snd),
      ∃ txnId, asm.awaitsAt link txnId = some (handle.link, handle) := by
    intro handle held
    obtain ⟨state, listed, hop⟩ := mem_filterMap.mp held
    obtain ⟨pair, inside, rfl⟩ := mem_map.mp listed
    exact ⟨pair.1, awaited_of_pair linked occupied inside hop⟩
  refine ⟨removed_linked linked (by rw [occupied]; rfl) waits, ?_, ?_⟩
  · rw [handlesOf, filterMap_map, pairwise_filterMap]
    refine (peer.bindRequestState.pairs_pairwise.imp_of_mem ?_)
    rintro one two firstIn secondIn distinct first firstHop _ secondHop rfl
    cases noted : ({ asm with peerTable := asm.peerTable.erase link } : Assembly).noteAt first.link first with
    | none => rfl
    | some request =>
      have firstNote := left_note linked (awaited_of_pair linked occupied firstIn firstHop) noted
      have secondNote := left_note linked (awaited_of_pair linked occupied secondIn secondHop) noted
      rw [firstNote] at secondNote
      exact absurd (Prod.mk.inj secondNote).2 distinct
  · intro handle held request noted
    obtain ⟨txnId, awaiting⟩ := waits handle held
    rw [left_note linked awaiting noted, get_erase, if_pos rfl]

theorem dropPeer_linked : Meets Unrelated (Linked none []) (asm.dropPeer link) := by
  have kept := Swept.linked (revokeForLink_swept asm link) linked
  simp only [dropPeer, remove]
  split
  · exact kept
  next peer occupied =>
  refine (Meets.foldlM Leaving (fun asm state rest leaving => leaving.drop) ?_).mono fun next done => done.linked
  exact leaving_of_removed kept occupied

end

/-- No bind request and no note refers to the link. -/
def Unreferenced (asm : Assembly) (link : LinkId) : Prop :=
  ∀ place ∈ asm.peerTable.pairs, (∀ note ∈ place.2.awaitingNextHopBindTable.pairs, note.2.1 ≠ link) ∧
    ∀ request ∈ place.2.bindRequestState.pairs, ∀ hop ∈ request.2.hop, hop.1 ≠ link

instance (asm : Assembly) (link : LinkId) : Decidable (asm.Unreferenced link) := by
  unfold Unreferenced
  infer_instance

theorem Unreferenced.note (unreferenced : asm.Unreferenced link) {place} (noted : asm.noteAt place handle = some request) :
    request.1 ≠ link := by
  obtain ⟨peer, occupied, stored⟩ := bind_eq_some_iff.mp noted
  have listed := (mem_pairs _ _ _).mpr stored
  exact (unreferenced (place, peer) ((mem_pairs _ _ _).mpr occupied)).1 (handle, request) listed

theorem Unreferenced.hop (unreferenced : asm.Unreferenced link) {hop} (waiting : asm.awaitsAt ingress txnId = some hop) :
    hop.1 ≠ link := by
  obtain ⟨state, held, waits⟩ := bind_eq_some_iff.mp waiting
  obtain ⟨peer, occupied, stored⟩ := bind_eq_some_iff.mp held
  have listed := (mem_pairs _ _ _).mpr stored
  exact (unreferenced (ingress, peer) ((mem_pairs _ _ _).mpr occupied)).2 (txnId, state) listed hop waits

theorem noteAt_addPeer (asm : Assembly) (link : LinkId) (linkType : LinkType) (place : LinkId) (handle : TxnHandle) :
    (asm.addPeer link linkType).noteAt place handle = if place = link then none else asm.noteAt place handle := by
  simp only [noteAt, addPeer, get_insert]
  split
  · simp only [new, bind_some, get_empty]
  · rfl

theorem awaitsAt_addPeer (asm : Assembly) (link : LinkId) (linkType : LinkType) (place : LinkId) (txn : TxnId) :
    (asm.addPeer link linkType).awaitsAt place txn = if place = link then none else asm.awaitsAt place txn := by
  rw [awaitsAt, bindAt_addPeer]
  split <;> rfl

theorem addPeer_linked (linked : Linked none [] asm) (unreferenced : asm.Unreferenced link) (linkType : LinkType) :
    Linked none [] (asm.addPeer link linkType) := by
  have others {place} (different : place ≠ link) :
      (asm.addPeer link linkType).peerTable.get place = asm.peerTable.get place := by
    simp only [addPeer, get_insert, if_neg different]
  refine ⟨?_, ?_, ?_, ?_⟩
  · intro place other request txn noted live
    rw [noteAt_addPeer] at noted
    split at noted
    · cases noted
    have elsewhere := unreferenced.note noted
    rw [others elsewhere] at live
    rw [awaitsAt_addPeer, if_neg elsewhere]
    exact linked.answered place other request txn noted live
  · intro request txn place other waiting _ live
    rw [awaitsAt_addPeer] at waiting
    split at waiting
    · cases waiting
    have elsewhere := unreferenced.hop waiting
    rw [others elsewhere] at live
    rw [noteAt_addPeer, if_neg elsewhere]
    exact linked.noted request txn place other waiting (by simp) live
  · intro request txn place other waiting
    rw [awaitsAt_addPeer] at waiting
    split at waiting
    · cases waiting
    · exact linked.own request txn place other waiting
  · intro place other request txn noted
    rw [noteAt_addPeer] at noted
    split at noted
    · cases noted
    next kept =>
    obtain ⟨rfl, counted⟩ := linked.counted place other request txn noted
    rw [handles, others kept, others (unreferenced.note noted)]
    exact ⟨rfl, counted⟩

end Assembly

/-- Transaction ids and link ids are used again only when nothing refers to their former use:
no task and no next-hop request for the transaction, and no note or request for the link. -/
def Event.KeepsBinds (asm : Assembly) : Event → Prop
  | .bindActorAddressRequest link txnId _ | .streamIdRequest link txnId _ =>
    asm.awaitsAt link txnId = none ∧ ∀ task ∈ asm.tasks, (task.ingressLinkId, task.txnId) ≠ (link, txnId)
  | .addPeer link _ => asm.Unreferenced link
  | _ => True

instance (asm : Assembly) (event : Event) : Decidable (event.KeepsBinds asm) := by
  induction event using Event.casesOn <;> dsimp only [Event.KeepsBinds] <;> infer_instance

def VisaTask.place (task : VisaTask) : LinkId × TxnId := (task.ingressLinkId, task.txnId)

namespace Assembly
variable {findMatch} {asm next : Assembly} {event : Event}
  {link : LinkId} {txnId : TxnId}

/-- The tasks are for different requests, none of which awaits a next hop yet. -/
structure Apart (asm : Assembly) : Prop where
  distinct : (asm.tasks.map VisaTask.place).Nodup
  idle : ∀ task ∈ asm.tasks, asm.awaitsAt task.ingressLinkId task.txnId = none

theorem awaits_before {hop} (waiting : next.awaitsAt link txnId = some hop) {other}
    (binds : ∀ visaId egress handle, next.bindAt link txnId = some (.awaitingNextHopBind visaId egress handle) → asm.bindAt link txnId = some (.awaitingNextHopBind visaId egress handle) ∨ other) :
    asm.awaitsAt link txnId = some hop ∨ other := by
  obtain ⟨state, held, waits⟩ := bind_eq_some_iff.mp waiting
  cases state with
  | awaitingVisaResponse => cases waits
  | awaitingVisaPush visaId => cases waits
  | awaitingNextHopBind visaId egress handle =>
    refine (binds visaId egress handle held).imp_left fun before => ?_
    rw [awaitsAt, before, bind_some, waits]

theorem keptTasks_sublist (asm : Assembly) (event : Event) : (asm.keptTasks event).Sublist asm.tasks := by
  cases event with
  | visaReply index reply => exact eraseIdx_sublist _ _
  | _ => exact .refl _

theorem place_ne_of_erased {tasks : List VisaTask} (distinct : (tasks.map place).Nodup) {index task other}
    (ended : tasks[index]? = some task) (held : other ∈ tasks.eraseIdx index) : other.place ≠ task.place := by
  obtain ⟨position, different, found⟩ := mem_eraseIdx_iff_getElem?.mp held
  intro same
  apply different
  have inside : position < (tasks.map place).length := by
    rw [length_map]
    exact lt_length found
  refine (getElem?_inj inside distinct).mp ?_
  rw [getElem?_map, getElem?_map, found, ended, map_some, map_some, same]

section
variable (careful : event.KeepsBinds asm)
include careful

theorem asks_fresh {task} (asks : Asks asm event task) :
    asm.awaitsAt task.ingressLinkId task.txnId = none ∧ task.place ∉ asm.tasks.map place := by
  cases asks with
  | flow occupied classified owns | stream occupied node =>
    refine ⟨careful.1, fun listed => ?_⟩
    obtain ⟨other, running, same⟩ := mem_map.mp listed
    exact careful.2 other running same

theorem awaits_apart {visaId : VisaId} (apart : asm.Apart) (awaits : Awaits findMatch asm event link txnId visaId) :
    ∀ task ∈ asm.keptTasks event, task.place ≠ (link, txnId) := by
  intro task running
  cases awaits with
  | flow occupied classified owns matched | stream occupied node => exact careful.2 task running
  | reply waiting brings => exact place_ne_of_erased apart.distinct waiting running

theorem apart_step (apart : asm.Apart) (stepped : asm.step findMatch event = .ok next) : next.Apart := by
  have effect := step_effect stepped
  rcases effect.tasks with kept | ⟨new, asks, added, old⟩
  · refine ⟨?_, ?_⟩
    · rw [kept]
      exact apart.distinct.sublist ((keptTasks_sublist asm event).map _)
    intro task running
    rw [kept] at running
    have before := apart.idle task ((keptTasks_sublist asm event).subset running)
    cases waiting : next.awaitsAt task.ingressLinkId task.txnId with
    | none => rfl
    | some hop =>
      have earlier : asm.awaitsAt task.ingressLinkId task.txnId = some hop ∨
          ∃ visaId, Awaits findMatch asm event task.ingressLinkId task.txnId visaId :=
        awaits_before waiting fun visaId egress handle held =>
          (effect.binds _ _ visaId egress handle held).imp_right fun awaits => ⟨visaId, awaits⟩
      rcases earlier with same | ⟨visaId, awaits⟩
      · rw [before] at same
        cases same
      · exact absurd rfl (awaits_apart careful apart awaits task running)
  · obtain ⟨free, fresh⟩ := asks_fresh careful asks
    have idle {place txn} (before : asm.awaitsAt place txn = none) : next.awaitsAt place txn = none := by
      cases waiting : next.awaitsAt place txn with
      | none => rfl
      | some hop =>
        have earlier : asm.awaitsAt place txn = some hop ∨ False :=
          awaits_before waiting fun visaId egress handle held => .inl (old _ _ visaId egress handle held)
        rw [before] at earlier
        exact absurd (earlier.resolve_right id) nofun
    refine ⟨?_, ?_⟩
    · rw [added, map_append, map_singleton]
      exact nodup_append.mpr ⟨apart.distinct, nodup_singleton _, by
        rintro one listed two single rfl
        exact fresh (mem_singleton.mp single ▸ listed)⟩
    · intro task running
      rw [added] at running
      rcases mem_append.mp running with before | last
      · exact idle (apart.idle task before)
      · rw [mem_singleton.mp last]
        exact idle free

end

theorem boundFlow_unrelated (packetBody : List UInt8) : Meets Unrelated (fun _ => True) (boundFlow packetBody) := by
  have reads := Datapath.Classifier.reads_classifyWithOptions ⟨unspecified, unspecified, .other 0, 0, 0, 0⟩ packetBody
    { ignoreTruncatedPackets := true }
  refine (reads.excuse ?_).bind ?_
  · rintro problem (rfl | rfl)
    · decide
    · decide
  intro ⟨classification, flow⟩ _
  simp only
  split <;> trivial

theorem insertVisa_unrelated (asm : Assembly) (visa : VsapiVisa) :
    Meets Unrelated (fun result => result.2.peerTable = asm.peerTable) (asm.insertVisa visa) := by
  refine .intro (fun result returned => (insertVisa_frame returned).2.2) ?_
  intro problem stopped
  simp only [insertVisa] at stopped
  split at stopped
  · cases stopped
    decide
  next full =>
  split at stopped
  · cases stopped
    decide
  next dockPep carried =>
  split at stopped
  · cases stopped
  · simp only [VisaTable.insertVisa, Visa.new, if_neg full, carried] at stopped
    cases stopped

section
variable (linked : Linked none [] asm) (free : asm.awaitsAt link txnId = none)
include linked free

theorem denied_linked : Meets Unrelated (Linked none []) (asm.requestedVisaDenied link txnId) :=
  (rejected_linked linked free).mono fun _ ended => ended.linked

theorem spawnVisaTask_linked (peer : PeerState) (query : VisaQuery) {state} (waits : state.hop = none) :
    Meets Unrelated (Linked none []) (asm.spawnVisaTask link txnId peer query state) := by
  have running : Linked none [] { asm with tasks := asm.tasks ++ [⟨link, txnId, query, peer.session⟩] } :=
    linked.of_peers rfl
  exact waiting_linked running free waits

theorem requestVisa_linked (peer : PeerState) (flow : FiveTuple) :
    Meets Unrelated (Linked none []) (asm.requestVisa link txnId peer flow) := spawnVisaTask_linked linked free _ _ rfl

theorem bindFlow_linked (flow : FiveTuple) :
    Meets Unrelated (Linked none []) (asm.bindFlow findMatch link txnId flow) := by
  simp only [bindFlow]
  split
  · exact linked
  next peer occupied =>
  split
  · exact denied_linked linked free
  split
  · exact requestVisa_linked linked free peer flow
  split
  · exact requestedVisaGranted_linked linked free
  · exact requestVisa_linked linked free peer flow
  · exact denied_linked linked free
  · exact (by decide : Unrelated (.assertion "Got unexpected error type"))

theorem bindActorAddress_linked (packetBody : List UInt8) :
    Meets Unrelated (Linked none []) (asm.bindActorAddress findMatch link txnId packetBody) := by
  refine (boundFlow_unrelated packetBody).bind fun flow _ => ?_
  cases flow with
  | none => exact denied_linked linked free
  | some flow => exact bindFlow_linked linked free flow

theorem requestStream_linked (visaId : VisaId) :
    Meets Unrelated (Linked none []) (asm.requestStream link txnId visaId) := by
  simp only [requestStream]
  split
  · exact linked
  split
  · exact requestedVisaGranted_linked linked free
  · exact spawnVisaTask_linked linked free _ _ rfl

theorem grantInserted_linked (visa : VsapiVisa) :
    Meets Unrelated (Linked none []) (asm.grantInserted link txnId visa) := by
  refine (insertVisa_unrelated asm visa).bind ?_
  intro ⟨inserted, entered⟩ same
  have still : Linked none [] entered := linked.of_peers same
  have awaits : entered.awaitsAt link txnId = none := by
    rw [awaitsAt, bindAt, same]
    exact free
  simp only
  split
  · exact requestedVisaGranted_linked still awaits
  · exact denied_linked still awaits
  · exact (by decide : Unrelated (.assertion "Got unexpected error type"))

end

theorem handleVisaReply_linked (linked : Linked none [] asm) (apart : asm.Apart) (index : Nat) (reply : VisaReply) :
    Meets Unrelated (Linked none []) (asm.handleVisaReply index reply) := by
  simp only [handleVisaReply]
  split
  · exact linked
  next task running =>
  have free := apart.idle task (mem_of_getElem? running)
  have ended : Linked none [] { asm with tasks := asm.tasks.eraseIdx index } := linked.of_peers rfl
  split
  · simp only [visaRequestTask]
    split
    · exact grantInserted_linked ended free _
    all_goals exact denied_linked ended free
  · simp only [visaPushRequestTask]
    split
    · split
      · exact grantInserted_linked ended free _
      · exact denied_linked ended free
    · exact denied_linked ended free
  · exact ended

theorem step_linked (careful : event.KeepsBinds asm) (linked : Linked none [] asm) (apart : asm.Apart) :
    Meets Unrelated (Linked none []) (asm.step findMatch event) := by
  cases event with
  | bindActorAddressRequest link txnId packetBody =>
    simp only [step, handleBindActorAddressRequest]
    split
    · exact bindActorAddress_linked linked careful.1 packetBody
    · exact linked
  | streamIdRequest link txnId visaId =>
    simp only [step, handleStreamIdRequest]
    split
    · exact requestStream_linked linked careful.1 visaId
    · exact linked
  | visaReply index reply => exact handleVisaReply_linked linked apart index reply
  | nextHopResponse link txnId response vacant => exact handleNextHopResponse_linked linked
  | unbindIndication link streamId =>
    rcases handleUnbindIndication_cases asm link streamId with same | ⟨pep, _, swept, _⟩
    · simp only [step, same]
      exact linked
    · exact Swept.linked swept linked
  | visaGrant visa =>
    exact (insertVisa_unrelated asm visa).bind fun result same => linked.of_peers same
  | visaRevocation id => exact Swept.linked (handleRevocation_swept asm id) linked
  | expirations currentTime => exact Swept.linked (handleExpirations_swept asm currentTime) linked
  | addPeer link linkType => exact addPeer_linked linked careful linkType
  | dropPeer link => exact dropPeer_linked linked
  | setAddresses link addresses aaaAddress =>
    have frame : Frame binding asm (asm.modifyPeer link fun peer => { peer with addresses, aaaAddress }) :=
      .modifyPeer _ _ fun _ => rfl
    exact linked.congr frame.peers

theorem start_linked (addrs : List IpAddress) (visas : VisaTable) : Linked none [] (start addrs visas) := by
  have notes place handle : (start addrs visas).noteAt place handle = none := by
    rw [start, noteAt_addPeer, noteAt_addPeer, noteAt, get_empty, bind_none, ite_self, ite_self]
  have awaits place txn : (start addrs visas).awaitsAt place txn = none := by
    rw [start, awaitsAt_addPeer, awaitsAt_addPeer, awaitsAt, bindAt, get_empty, bind_none, bind_none,
      ite_self, ite_self]
  refine ⟨?_, ?_, ?_, ?_⟩
  · intro place handle ingress txn noted
    rw [notes] at noted
    cases noted
  · intro ingress txn place handle waiting
    rw [awaits] at waiting
    cases waiting
  · intro ingress txn place handle waiting
    rw [awaits] at waiting
    cases waiting
  intro place handle ingress txn noted
  rw [notes] at noted
  cases noted

/-- Between live links the two tables are inverse to each other. -/
def Inverse (asm : Assembly) : Prop :=
  ∀ link handle ingress txnId, (asm.peerTable.get link).isSome → (asm.peerTable.get ingress).isSome →
    (asm.noteAt link handle = some (ingress, txnId) ↔
      ∃ visaId, asm.bindAt ingress txnId = some (.awaitingNextHopBind visaId link handle))

theorem awaitsAt_iff {handle ingress} : asm.awaitsAt ingress txnId = some (link, handle) ↔
    ∃ visaId, asm.bindAt ingress txnId = some (.awaitingNextHopBind visaId link handle) := by
  constructor
  · intro waiting
    obtain ⟨state, held, hop⟩ := bind_eq_some_iff.mp waiting
    cases state with
    | awaitingVisaResponse => cases hop
    | awaitingVisaPush visaId => cases hop
    | awaitingNextHopBind visaId egress txn =>
      cases hop
      exact ⟨visaId, held⟩
  · intro ⟨visaId, held⟩
    rw [awaitsAt, held, bind_some]
    rfl

theorem linked_step (careful : event.KeepsBinds asm) (holds : Linked none [] asm ∧ asm.Apart)
    (stepped : asm.step findMatch event = .ok next) : Linked none [] next ∧ next.Apart :=
  ⟨(step_linked careful holds.1 holds.2).of_ok stepped, apart_step careful holds.2 stepped⟩

theorem run_linked {addrs visas events final}
    (run : Run (step findMatch) (fun asm event => event.KeepsBinds asm) (start addrs visas) events final) :
    Linked none [] final ∧ final.Apart :=
  run.invariant _ (fun _ _ _ careful holds stepped => linked_step careful holds stepped)
    ⟨start_linked addrs visas, nodup_nil, fun _ => nofun⟩

/-- In every run in which transaction ids and link ids are used again only when nothing refers
to their former use, the tables are inverse to each other and no check on them can fail. -/
theorem run_keeps_inverse {addrs : List IpAddress} {visas : VisaTable} {events : List Event} {final : Assembly}
    (run : Run (Assembly.step findMatch) (fun asm event => event.KeepsBinds asm) (Assembly.start addrs visas)
      events final) :
    final.Inverse ∧ ∀ event problem, event.KeepsBinds final → final.step findMatch event = .error problem →
      ¬ Consistency problem := by
  obtain ⟨linked, apart⟩ := run_linked run
  refine ⟨?_, ?_⟩
  · intro link handle ingress txnId egressLive ingressLive
    rw [← awaitsAt_iff]
    constructor
    · intro noted
      exact linked.answered link handle ingress txnId noted ingressLive
    · intro waiting
      exact linked.noted ingress txnId link handle waiting nofun egressLive
  · intro event problem careful stopped
    exact (step_linked careful linked apart).of_error stopped

theorem run_keeps_inverse_pending : ∃ final : Assembly,
    Run (Assembly.step firstMatch) (fun asm event => event.KeepsBinds asm) node
      (adapters ++ [request, allowed]) final ∧
    final.noteAt 4 ⟨4, 3, 0⟩ = some (3, 9) ∧ final.Inverse ∧
    ∀ problem, final.step firstMatch answer = .error problem → ¬ Consistency problem := by
  refine Run.exists_imp (fun final => final.noteAt 4 ⟨4, 3, 0⟩ = some (3, 9)) (by decide +kernel) ?_
  intro final run noted
  have inverse := run_keeps_inverse run
  exact ⟨noted, inverse.1, fun problem => inverse.2 answer problem trivial⟩

/-- A peer that repeats a transaction id leaves the note of its first request behind, and the
answer to that one stops the node. So does the answer to a request of a peer whose link id has
gone to another. -/
theorem repeated_request_breaks_tables :
    (∃ final : Assembly, Run (Assembly.step firstMatch) (fun asm event => event.Possible asm) node
      (adapters ++ [request, allowed, request]) final ∧ ¬ final.Inverse ∧
      final.step firstMatch answer = .error inconsistentDock) ∧
    ∃ final : Assembly, Run (Assembly.step firstMatch) (fun asm event => event.Possible asm) node
      (adapters ++ [request, allowed, .dropPeer 3, .addPeer 3 .nodeToAdapter]) final ∧
      final.step firstMatch answer = .error inactiveBind := by
  constructor
  · refine Run.exists_imp (fun final => final.noteAt 4 ⟨4, 3, 0⟩ = some (3, 9) ∧
      final.bindAt 3 9 = some (.awaitingNextHopBind minVisaId 4 ⟨4, 3, 1⟩) ∧
      ((final.peerTable.get 4).isSome ∧ (final.peerTable.get 3).isSome) ∧
      Panic.reason (final.step firstMatch answer) = some inconsistentDock) (by decide +kernel) ?_
    intro final _ ⟨noted, waiting, live, stopped⟩
    refine ⟨fun inverse => ?_, of_reason stopped⟩
    obtain ⟨visaId, held⟩ := (inverse 4 ⟨4, 3, 0⟩ 3 9 live.1 live.2).mp noted
    rw [waiting] at held
    cases held
  · refine Run.exists_imp (fun final => Panic.reason (final.step firstMatch answer) = some inactiveBind)
      (by decide +kernel) ?_
    intro final _ stopped
    exact of_reason stopped

end Assembly
end ZprCore.Node
