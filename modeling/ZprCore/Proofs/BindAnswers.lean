import ZprCore.Proofs.Outbox

/-! Responses to bind requests. A bind request of an adapter is answered once, provided that the
visa it gets can be used and that its next hop stays until it has answered. -/

namespace ZprCore.Node
open Datapath (IpAddress FiveTuple)
open Panic Runs Sample List Option PeerState TxnMgr

/-- A computation that returns what is wanted. -/
abbrev Returns {α : Type} (wanted : α → Prop) (x : Except Panic α) : Prop := Meets (fun _ => False) wanted x

theorem Returns.exists {α : Type} {wanted : α → Prop} {x} (returns : Returns wanted x) :
    ∃ value, x = .ok value ∧ wanted value := by
  cases x with
  | ok value => exact ⟨value, rfl, returns⟩
  | error problem => exact returns.elim

namespace Assembly
variable {asm next : Assembly} {ingress link : LinkId} {txnId : TxnId} {handle : TxnHandle} {state : BindRequestState}
  {count : Nat} {visaId : VisaId} {vacant : Option StreamId} {response : NextHopResponse} {request : LinkId × TxnId}
  {reason : String}

section
variable (opened : asm.handles handle = some count)
include opened

theorem updateTxn_returns {update}
    (returns : ∀ mgr, mgr.opened.get handle.id = some count → Returns (fun _ => True) (update mgr handle.id)) :
    ∃ next, asm.updateTxn handle update = .ok next := by
  obtain ⟨peer, occupied, found⟩ := bind_eq_some_iff.mp opened
  split at found
  · next session =>
    obtain ⟨txnMgr, updated, _⟩ := (returns peer.txnMgr found).exists
    simp only [updateTxn, occupied, if_pos session, updated]
    exact ⟨_, rfl⟩
  · cases found

theorem dropHandle_returns : Returns (fun next => asm.dropHandle handle = .ok next) (asm.dropHandle handle) := by
  have returned : ∃ next, asm.dropHandle handle = .ok next := by
    refine updateTxn_returns opened fun mgr found => ?_
    simp only [derefTxn, found]
    cases count with
    | zero => trivial
    | succ count => trivial
  obtain ⟨next, done⟩ := returned
  rw [done]
  rfl

theorem cloneHandle_returns : Returns (fun next => asm.cloneHandle handle = .ok next) (asm.cloneHandle handle) := by
  have returned : ∃ next, asm.cloneHandle handle = .ok next := by
    refine updateTxn_returns opened fun mgr found => ?_
    simp only [refTxn, found]
    trivial
  obtain ⟨next, done⟩ := returned
  rw [done]
  rfl

end

theorem getEgressLinkForVisa_error {problem} (failed : asm.getEgressLinkForVisa visaId = .error problem) :
    (∃ id, problem = .notFound id) ∨ ∃ addr, problem = .destNotFound addr := by
  simp only [getEgressLinkForVisa, VisaTable.getVisaNextHopAddr] at failed
  split at failed
  · next missing =>
    cases failed
    split at missing
    · cases missing
      exact .inl ⟨_, rfl⟩
    · cases missing
  · split at failed
    · cases failed
      exact .inr ⟨_, rfl⟩
    · cases failed

section
variable (free : asm.awaitsAt ingress txnId = none)
include free

theorem removeBind_returns :
    Returns (fun next => ∀ handle, next.handles handle = asm.handles handle) (asm.removeBind ingress txnId) := by
  simp only [removeBind]
  split
  · exact fun _ => rfl
  next state held =>
  rw [awaitsAt, bindAt, held, bind_some] at free
  have erasing : Frame replies asm (asm.endBind ingress txnId) := .modifyPeer _ _ fun _ => rfl
  have handles := (erasing.coarsen txns Prod.fst fun _ => rfl).handles
  cases state with
  | awaitingVisaResponse => exact handles
  | awaitingVisaPush visaId => exact handles
  | awaitingNextHopBind visaId link handle => cases free

theorem bindReject_returns :
    Returns (fun next => ∀ handle, next.handles handle = asm.handles handle) (asm.bindReject ingress txnId reason) := by
  simp only [bindReject]
  split
  · exact fun _ => rfl
  next peer occupied =>
  refine (removeBind_returns free).bind fun next same handle => ?_
  have sending : Frame txns next (next.sendRejection ingress (peer.peerType ingress) txnId reason) :=
    .sendRejection _ _ _ _ _
  exact (sending.handles handle).trans (same handle)

theorem installRoute_returns {peerType key pep} :
    Returns (fun next => ∀ handle, next.handles handle = asm.handles handle)
      (asm.installRoute ingress peerType txnId key pep) := by
  simp only [installRoute]
  split
  · exact bindReject_returns free
  split
  · exact bindReject_returns free
  next visa found response chosen =>
  have filling := (Frame.fill { asm with visaTable := asm.visaTable.linkForwardingEntry pep.visaId (ingress, key) }
    ingress key pep).trans (.send _ ingress response)
  exact (filling.coarsen txns Prod.fst fun _ => rfl).handles

theorem denied_returns :
    Returns (fun _ => True) (asm.requestedVisaDenied ingress txnId) := (bindReject_returns free).mono fun _ _ => trivial

theorem awaitNextHop_returns {request} (opened : asm.handles handle = some count) :
    Returns (fun _ => True) (asm.awaitNextHop ingress txnId visaId handle request) := by
  simp only [awaitNextHop]
  split
  · exact (dropHandle_returns opened).mono fun _ _ => trivial
  refine (cloneHandle_returns opened).bind fun cloned counted => ?_
  rw [insertBind_free]
  · trivial
  · rw [awaitsAt, (updateTxn_frame counted).binds]
    exact free

theorem spawnVisaTask_returns {peer query} : Returns (fun _ => True) (asm.spawnVisaTask ingress txnId peer query state) := by
  simp only [spawnVisaTask]
  rw [insertBind_free (by exact free)]
  trivial

end

/-- The next hop of a visa, if it takes requests, has a transaction id to spare. -/
def Roomy (asm : Assembly) (visaId : VisaId) : Prop :=
  ∀ egress ∈ (asm.getEgressLinkForVisa visaId).toOption, ∀ peer ∈ asm.peerTable.get egress,
    (asm.nextHopRequest (peer.peerType egress) visaId).isSome → peer.txnMgr.tryOpen.isSome

instance (asm : Assembly) (visaId : VisaId) : Decidable (asm.Roomy visaId) :=
  inferInstanceAs (Decidable (∀ egress ∈ Except.toOption _, ∀ peer ∈ Table.get _ _, _ → _))

section
variable (linked : Linked none [] asm) (free : asm.awaitsAt ingress txnId = none)
include linked free

/-- A granted visa stops the node exactly if its next hop has no transaction id left. -/
theorem requestedVisaGranted_returns_iff :
    Returns (fun _ => True) (asm.requestedVisaGranted ingress txnId visaId) ↔ asm.Roomy visaId := by
  simp only [requestedVisaGranted, Roomy]
  cases found : asm.getEgressLinkForVisa visaId with
  | error problem => simp [Except.toOption, denied_returns free]
  | ok egress =>
    simp only [Except.toOption, mem_some, forall_eq']
    cases occupied : asm.peerTable.get egress with
    | none => simp [denied_returns free]
    | some peer =>
      simp only [mem_some, forall_eq']
      cases asked : asm.nextHopRequest (peer.peerType egress) visaId with
      | none => simp [denied_returns free]
      | some request =>
        cases opened : peer.txnMgr.tryOpen with
        | none => simp [Meets]
        | some pair =>
          obtain ⟨id, txnMgr⟩ := pair
          obtain ⟨_, first, _⟩ := opened_linked linked occupied opened
          have opening := Frame.setMgr asm egress txnMgr
          refine iff_of_true (awaitNextHop_returns ?_ first) fun _ => rfl
          rw [awaitsAt, opening.binds]
          exact free

/-- The packet can be classified, and a visa at hand for its flow can be used. -/
def Admits (findMatch : List (VisaId × FiveTuple) → FiveTuple → Option VisaId) (asm : Assembly) :
    Except Panic (Option FiveTuple) → Prop
  | .ok (some flow) => ∀ matched ∈ findMatch asm.visaTable.lookupTable flow, asm.Roomy matched
  | .ok none => True
  | .error _ => False

instance (findMatch : List (VisaId × FiveTuple) → FiveTuple → Option VisaId) (asm : Assembly)
    (flow : Except Panic (Option FiveTuple)) : Decidable (asm.Admits findMatch flow) := by
  unfold Admits
  split <;> infer_instance

/-- The visa has been entered and can be used, or it is refused for its form. -/
def Usable : Except Panic (Except VisaTableError VisaId × Assembly) → Prop
  | .ok (.ok visaId, entered) => entered.Roomy visaId
  | .ok (.error (.parseError _), _) => True
  | .ok (.error _, _) | .error _ => False

instance (result : Except Panic (Except VisaTableError VisaId × Assembly)) : Decidable (Usable result) := by
  unfold Usable
  split <;> infer_instance

theorem bindActorAddress_returns {findMatch packetBody} (admits : asm.Admits findMatch (boundFlow packetBody)) :
    Returns (fun _ => True) (asm.bindActorAddress findMatch ingress txnId packetBody) := by
  simp only [bindActorAddress]
  cases classified : boundFlow packetBody with
  | error problem =>
    rw [classified] at admits
    exact admits
  | ok flow =>
    rw [classified] at admits
    rw [ok_bind]
    cases flow with
    | none => exact denied_returns free
    | some flow =>
      simp only [bindFlow]
      split
      · trivial
      split
      · exact denied_returns free
      cases found : findMatch asm.visaTable.lookupTable flow with
      | none => exact spawnVisaTask_returns free
      | some matched =>
        cases egress : asm.getEgressLinkForVisa matched with
        | ok link =>
          simp only [egress]
          exact (requestedVisaGranted_returns_iff linked free).mpr (admits matched found)
        | error problem =>
          rcases getEgressLinkForVisa_error egress with ⟨id, rfl⟩ | ⟨addr, rfl⟩
          · simp only [egress]
            exact spawnVisaTask_returns free
          · simp only [egress]
            exact denied_returns free

theorem grantInserted_returns {visa} (usable : Usable (asm.insertVisa visa)) :
    Returns (fun _ => True) (asm.grantInserted ingress txnId visa) := by
  simp only [grantInserted]
  cases inserting : asm.insertVisa visa with
  | error problem =>
    rw [inserting] at usable
    exact usable
  | ok result =>
    rw [inserting] at usable
    obtain ⟨inserted, entered⟩ := result
    rcases insertVisa_cases inserting with ⟨rfl, addr, rfl⟩ | ⟨visas, _, rfl, rfl⟩
    · exact usable
    rw [ok_bind]
    have still : Linked none [] { asm with visaTable := visas } := linked.of_peers rfl
    exact (requestedVisaGranted_returns_iff still free).mpr usable

end

/-- A reply of the kind a task asked for is handled if the visa it brings can be used. -/
theorem handleVisaReply_returns {index reply task} (linked : Linked none [] asm) (apart : asm.Apart)
    (waiting : asm.tasks[index]? = some task) (answers : reply.answers task.query = true)
    (usable : ∀ visa ∈ reply.brings task.query, Usable (({ asm with tasks := asm.tasks.eraseIdx index } : Assembly).insertVisa visa)) :
    Returns (fun _ => True) (asm.handleVisaReply index reply) := by
  have free := apart.idle task (mem_of_getElem? waiting)
  have ended : Linked none [] { asm with tasks := asm.tasks.eraseIdx index } := linked.of_peers rfl
  rcases answers_cases answers with ⟨req, outcome, asked, rfl⟩ | ⟨id, found, asked, rfl⟩
  · simp only [handleVisaReply, waiting, asked, visaRequestTask]
    rw [asked] at usable
    split
    · exact grantInserted_returns ended free (usable _ rfl)
    · exact denied_returns free
    · exact denied_returns free
  · simp only [handleVisaReply, waiting, asked, visaPushRequestTask]
    rw [asked] at usable
    split
    · split
      · next visa chosen => exact grantInserted_returns ended free (usable visa chosen)
      · exact denied_returns free
    · exact denied_returns free

section
variable (held : asm.bindAt ingress txnId = some (.awaitingNextHopBind visaId link handle))
  (unnoted : asm.noteAt link handle = none) (opened : asm.handles handle = some (count + 1))
include held unnoted opened

theorem removeBind_answered : Returns (fun next => next.handles handle = some count ∧ next.bindAt ingress txnId = none)
    (asm.removeBind ingress txnId) := by
  have erasing : Frame replies asm (asm.endBind ingress txnId) := .modifyPeer _ _ fun _ => rfl
  have counted := ((erasing.coarsen txns Prod.fst fun _ => rfl).handles handle).trans opened
  have idle : asm.lingers (.awaitingNextHopBind visaId link handle) = false := by
    apply lingers_unnoted
    intro egress txn waits
    cases waits
    exact unnoted
  have dropped := dropHandle_returns counted
  simp only [bindAt] at held
  simp only [removeBind, held, idle, if_neg Bool.false_ne_true, dropState]
  refine dropped.mono fun next done => ⟨?_, ?_⟩
  · rw [dropHandle_handles done, if_pos rfl, counted]
    rfl
  · rw [(updateTxn_frame done).binds, bindAt_erase, if_pos ⟨rfl, rfl⟩]

theorem bindReject_answered (reason : String) :
    Returns (fun next => next.handles handle = some count) (asm.bindReject ingress txnId reason) := by
  simp only [bindReject]
  split
  · next vacant =>
    rw [bindAt, vacant] at held
    cases held
  next peer occupied =>
  refine (removeBind_answered held unnoted opened).bind fun next kept => ?_
  have sending : Frame txns next (next.sendRejection ingress (peer.peerType ingress) txnId reason) :=
    .sendRejection _ _ _ _ _
  exact (sending.handles handle).trans kept.1

/-- An answer for a request that has its visa, its route or its rejection to come. -/
theorem requestedTetherGranted_answered {tether} :
    Returns (fun next => next.handles handle = some count) (asm.requestedTetherGranted ingress txnId tether vacant) := by
  have removed := removeBind_answered held unnoted opened
  simp only [requestedTetherGranted]
  split
  · next vacant =>
    rw [bindAt, vacant] at held
    cases held
  next peer occupied =>
  rw [bindAt, occupied, bind_some] at held
  simp only [held]
  refine removed.bind ?_
  rintro closed ⟨counted, gone⟩
  have free : closed.awaitsAt ingress txnId = none := by rw [awaitsAt, gone, bind_none]
  split
  · exact (bindReject_returns free).mono fun next same => (same handle).trans counted
  · exact (installRoute_returns free).mono fun next same => (same handle).trans counted

end

section
variable (linked : Linked none [] asm) (noted : asm.noteAt link handle = some (ingress, txnId))
  (live : (asm.peerTable.get ingress).isSome)
include linked noted live

theorem resolve_answered (opened : asm.handles handle = some (count + 1)) :
    Returns (fun result => result.1 = .ok (ingress, txnId) ∧ result.2.handles handle = some count ∧
        result.2.noteAt link handle = none ∧
        ∃ visaId, result.2.bindAt ingress txnId = some (.awaitingNextHopBind visaId link handle))
      (asm.resolveNextHopBindOriginator link handle) := by
  obtain ⟨peer, occupied, found⟩ := bind_eq_some_iff.mp noted
  have erasing : Frame requests asm (asm.unnote link handle) := .modifyPeer _ _ fun _ => rfl
  have waiting := linked.answered link handle ingress txnId noted live
  have counted := ((erasing.coarsen txns Prod.fst fun _ => rfl).handles handle).trans opened
  simp only [resolveNextHopBindOriginator, occupied, found]
  rw [checkOriginator_agrees (fun _ => (erasing.requestsAwait ingress txnId).trans waiting), ok_bind]
  refine (dropHandle_returns counted).bind fun next dropped => ⟨rfl, ?_, ?_, ?_⟩
  · rw [dropHandle_handles dropped, if_pos rfl, counted]
    rfl
  · rw [(updateTxn_frame dropped).notes, noteAt_erase, if_pos ⟨rfl, rfl⟩]
  · rw [(updateTxn_frame dropped).binds]
    exact awaitsAt_iff.mp ((erasing.requestsAwait ingress txnId).trans waiting)

theorem completeTether_answered (opened : asm.handles handle = some (count + 2)) :
    Returns (fun next => next.handles handle = some count) (asm.completeTether link handle response vacant) := by
  have resolving := resolve_answered linked noted live opened
  cases response
  all_goals
    refine resolving.bind fun ⟨originator, resolved⟩ ⟨found, counted, unnoted, visaId, held⟩ => ?_
    cases found
  · exact requestedTetherGranted_answered held unnoted counted
  · exact bindReject_answered held unnoted counted _

end

section
variable (linked : Linked none [] asm) (origin : asm.originator link txnId = some request)
  (live : (asm.peerTable.get request.1).isSome)
include linked origin live

theorem open_of_noted :
    ∃ peer mgr count, asm.peerTable.get link = some peer ∧ peer.txnMgr.get txnId = some mgr ∧
      asm.noteAt link ⟨link, peer.session, txnId⟩ = some request ∧
      asm.handles ⟨link, peer.session, txnId⟩ = some (count + 1) := by
  obtain ⟨peer, occupied, found⟩ := bind_eq_some_iff.mp origin
  have noted := (originator_of_peer occupied txnId).symm.trans origin
  obtain ⟨_, count, opened, enough⟩ := linked.counted _ _ _ _ noted
  obtain ⟨fewer, rfl⟩ := Nat.exists_eq_add_of_le' (enough (.inl live))
  have stored := opened
  rw [handles, occupied, bind_some, if_pos rfl] at stored
  exact ⟨peer, _, fewer, occupied, by rw [TxnMgr.get, stored, map_some], noted, opened⟩

theorem handleNextHopResponse_returns : Returns (fun _ => True) (asm.handleNextHopResponse link txnId response vacant) := by
  obtain ⟨peer, mgr, count, occupied, found, noted, opened⟩ := open_of_noted linked origin live
  have cloned : asm.cloneHandle ⟨link, peer.session, txnId⟩ = .ok (asm.setMgr link mgr) := by
    simp only [cloneHandle, updateTxn, occupied, if_true, refTxn_of_get found, ok_bind]
    rfl
  obtain ⟨counted, frame, second⟩ := (cloneHandle_linked linked).of_ok cloned
  rw [opened, map_some] at second
  simp only [handleNextHopResponse, occupied, found]
  refine (completeTether_answered counted ((frame.notes _ _).trans noted) ?_ second).bind fun next left => ?_
  · rw [frame.live]
    exact live
  · exact (dropHandle_returns left).mono fun _ _ => trivial

end

end Assembly
/-- What a bind request depends on: its id is not used again, its requestor stays, and so does
its next hop while it awaits an answer, and the visa that a reply brings for it can be used. -/
def Event.Spares (link : LinkId) (txnId : TxnId) (asm : Assembly) : Event → Prop
  | .bindActorAddressRequest other txn _ => (other, txn) ≠ (link, txnId)
  | .visaReply index reply => ∀ task ∈ asm.tasks[index]?, task.place = (link, txnId) → ∀ visa ∈ reply.brings task.query,
    Assembly.Usable (({ asm with tasks := asm.tasks.eraseIdx index } : Assembly).insertVisa visa)
  | .dropPeer other => other ≠ link ∧ ∀ hop ∈ asm.awaitsAt link txnId, hop.1 ≠ other
  | .streamIdRequest .. | .nextHopResponse .. | .unbindIndication .. | .visaGrant _ | .visaRevocation _
  | .expirations _ | .addPeer .. | .setAddresses .. => True

instance (link : LinkId) (txnId : TxnId) (asm : Assembly) (event : Event) : Decidable (event.Spares link txnId asm) := by
  induction event using Event.casesOn <;> dsimp only [Event.Spares] <;> infer_instance

/-- Events of runs in which a bind request gets what it depends on. -/
def Event.Attends (link : LinkId) (txnId : TxnId) (asm : Assembly) (event : Event) : Prop :=
  event.Possible asm ∧ event.KeepsBinds asm ∧ event.Spares link txnId asm

instance (link : LinkId) (txnId : TxnId) (asm : Assembly) (event : Event) : Decidable (event.Attends link txnId asm) :=
  inferInstanceAs (Decidable (_ ∧ _ ∧ _))

/-- No task is for the request. -/
def Assembly.Unasked (asm : Assembly) (link : LinkId) (txnId : TxnId) : Prop :=
  ∀ task ∈ asm.tasks, task.place ≠ (link, txnId)

/-- Where a bind request has got. `before` is the number of responses that the same
transaction id has had for earlier requests. -/
inductive Served (link : LinkId) (txnId : TxnId) (before : Nat) (asm : Assembly) : Prop where
  | asking {task} (running : task ∈ asm.tasks) (about : task.place = (link, txnId))
      (unanswered : asm.responses link txnId = before)
  | waiting {hop} (awaits : asm.awaitsAt link txnId = some hop)
      (live : (asm.peerTable.get hop.1).isSome) (unasked : asm.Unasked link txnId)
      (unanswered : asm.responses link txnId = before)
  | answered (finished : asm.bindAt link txnId = none) (unasked : asm.Unasked link txnId)
      (once : asm.responses link txnId = before + 1)

namespace Assembly
variable {findMatch} {asm next : Assembly} {event : Event}
  {link : LinkId} {txnId : TxnId} {before : Nat} {task : VisaTask}

theorem asks_request (asks : Asks asm event task) : event.request asm = some task.place := by
  cases asks with
  | flow occupied classified owns => rfl
  | stream occupied node => rfl

section
variable (stepped : asm.step findMatch event = .ok next)
include stepped

theorem unasked_step (unasked : asm.Unasked link txnId) (other : event.request asm ≠ some (link, txnId)) :
    next.Unasked link txnId := by
  intro task running
  rcases (step_effect stepped).running task running with old | asks
  · exact unasked task old
  · intro same
    exact other ((asks_request asks).trans (congrArg some same))

theorem running_step (running : task ∈ asm.tasks) (other : event.request asm ≠ some task.place) : task ∈ next.tasks := by
  have kept : task ∈ asm.keptTasks event := by
    cases event with
    | visaReply index reply =>
      obtain ⟨position, found⟩ := mem_iff_getElem?.mp running
      refine mem_eraseIdx_iff_getElem?.mpr ⟨position, ?_, found⟩
      rintro rfl
      exact other (congrArg (Option.map VisaTask.place) found)
    | _ => exact running
  rcases (step_effect stepped).tasks with same | ⟨new, asks, added, _⟩
  · exact same ▸ kept
  · rw [added]
    exact mem_append_left _ running

theorem live_step {place} (live : (asm.peerTable.get place).isSome) (stays : event ≠ .dropPeer place) :
    (next.peerTable.get place).isSome := by
  have same := congrArg isSome (step_occupant stepped place)
  rw [occupant, isSome_map] at same
  rw [same]
  simp only [occupantAfter]
  split
  · split
    · rfl
    · rw [occupant, isSome_map]
      exact live
  · next dropped =>
    split
    · next here => exact absurd (here ▸ rfl) stays
    · rw [occupant, isSome_map]
      exact live
  · rw [occupant, isSome_map]
    exact live

end

section
variable (adapter : asm.isAdapter link = true)
include adapter

theorem Over.responses (finished : Over link txnId asm next) : next.responses link txnId = asm.responses link txnId + 1 := by
  rw [finished.1.responses, if_pos rfl, adapter]
  rfl

theorem Advances.served (advances : Advances link txnId asm next) (unasked : next.Unasked link txnId) :
    Served link txnId (asm.responses link txnId) next := by
  cases advances with
  | ended finished => exact .answered finished.2 unasked (finished.responses adapter)
  | awaits hop serves waiting live =>
    refine .waiting waiting live unasked ?_
    rw [serves.responses, if_pos rfl, Nat.add_zero]

theorem occupied_of_adapter : (asm.peerTable.get link).isSome := by
  rw [isAdapter] at adapter
  exact isSome_of_any adapter

/-- Only nodes ask for stream ids. -/
theorem streamIdRequest_ignored {visaId} : asm.step findMatch (.streamIdRequest link txnId visaId) = .ok asm := by
  obtain ⟨peer, occupied⟩ := isSome_iff_exists.mp (occupied_of_adapter adapter)
  rw [isAdapter_of_peer occupied, decide_eq_true_eq] at adapter
  simp only [step, handleStreamIdRequest]
  rw [occupied, any_some, adapter]
  rfl

theorem adapter_step (stays : ¬ event.moves link) (stepped : asm.step findMatch event = .ok next) :
    next.isAdapter link = true := by
  rw [isAdapter_occupant] at adapter ⊢
  rw [step_occupant stepped, ← adapter]
  simp only [occupantAfter]
  split
  · rw [if_neg (fun same => stays same.symm)]
  · rw [if_neg (fun same => stays same.symm)]
  · rfl

theorem stays_of_attends (attends : event.Attends link txnId asm) : ¬ event.moves link := by
  obtain ⟨possible, _, spares⟩ := attends
  intro moves
  cases event with
  | addPeer other linkType =>
    cases moves
    have live := occupied_of_adapter adapter
    rw [possible.2.1] at live
    cases live
  | dropPeer other => exact spares.1 moves
  | _ => exact moves

theorem served_returns (attends : event.Attends link txnId asm) (linked : Linked none [] asm) (apart : asm.Apart)
    (about : event.request asm = some (link, txnId)) : ∃ next, asm.step findMatch event = .ok next := by
  suffices returns : Returns (fun _ => True) (asm.step findMatch event) by
    obtain ⟨next, stepped, _⟩ := returns.exists
    exact ⟨next, stepped⟩
  cases event with
  | bindActorAddressRequest other txn packetBody => exact absurd (some.inj about) attends.2.2
  | streamIdRequest other txn visaId =>
    cases about
    rw [streamIdRequest_ignored adapter]
    trivial
  | visaReply index reply =>
    obtain ⟨task, waiting, place⟩ := map_eq_some_iff.mp about
    exact handleVisaReply_returns linked apart waiting (attends.1 task waiting) (attends.2.2 task waiting place)
  | nextHopResponse egress id response vacant =>
    exact handleNextHopResponse_returns linked about (occupied_of_adapter adapter)
  | _ => cases about

/-- The visa service or the next hop has still to answer. -/
def Pending (asm : Assembly) (link : LinkId) (txnId : TxnId) : Prop :=
  (∃ task ∈ asm.tasks, task.place = (link, txnId)) ∨ ∃ egress handle, asm.noteAt egress handle = some (link, txnId)

variable (served : Served link txnId before asm)
include served

theorem pending_iff (linked : Linked none [] asm) :
    (asm.Pending link txnId ∧ asm.responses link txnId = before) ∨
      (¬ asm.Pending link txnId ∧ asm.responses link txnId = before + 1 ∧ asm.bindAt link txnId = none) := by
  cases served with
  | asking running about unanswered => exact .inl ⟨.inl ⟨_, running, about⟩, unanswered⟩
  | waiting awaits live unasked unanswered =>
    exact .inl ⟨.inr ⟨_, _, linked.noted _ _ _ _ awaits nofun live⟩, unanswered⟩
  | answered finished unasked once =>
    refine .inr ⟨?_, once, finished⟩
    rintro (⟨task, running, about⟩ | ⟨egress, handle, noted⟩)
    · exact unasked task running about
    have awaits := linked.answered _ _ _ _ noted (occupied_of_adapter adapter)
    rw [awaitsAt, finished] at awaits
    cases awaits

theorem served_reply {index reply} (waiting : asm.tasks[index]? = some task) (about : task.place = (link, txnId))
    (answers : reply.answers task.query = true) (apart : asm.Apart)
    (stepped : asm.step findMatch (.visaReply index reply) = .ok next) : Served link txnId before next := by
  have running := mem_of_getElem? waiting
  have unasked : next.Unasked link txnId := by
    intro other held
    rw [← about]
    rcases (step_effect stepped).tasks with kept | ⟨_, asks, _⟩
    · rw [kept] at held
      exact place_ne_of_erased apart.distinct waiting held
    · cases asks
  cases about
  cases served with
  | asking _ _ unanswered =>
    rw [← unanswered]
    exact (handleVisaReply_advances waiting answers stepped).served adapter unasked
  | waiting _ _ idle _ | answered _ idle _ => exact absurd rfl (idle task running)

theorem served_answer {egress id response vacant} (origin : asm.originator egress id = some (link, txnId))
    (linked : Linked none [] asm) (apart : asm.Apart)
    (stepped : asm.step findMatch (.nextHopResponse egress id response vacant) = .ok next) : Served link txnId before next := by
  have live := occupied_of_adapter adapter
  obtain ⟨peer, mgr, count, occupied, opened, noted, _⟩ := open_of_noted linked origin live
  have awaits := linked.answered _ _ _ _ noted live
  cases served with
  | asking running about _ =>
    cases about
    rw [apart.idle _ running] at awaits
    cases awaits
  | waiting _ _ unasked unanswered =>
    rcases handleNextHopResponse_over stepped with ⟨_, closed | unnoted⟩ | ⟨request, found, finished⟩
    · rw [closed peer occupied] at opened
      cases opened
    · rw [unnoted] at origin
      cases origin
    rw [origin] at found
    cases found
    refine .answered finished.2 ?_ (unanswered ▸ finished.responses adapter)
    intro task running
    rcases (step_effect stepped).running task running with old | asks
    · exact unasked task old
    · cases asks
  | answered finished _ _ =>
    rw [awaitsAt, finished] at awaits
    cases awaits

variable (attends : event.Attends link txnId asm) (stepped : asm.step findMatch event = .ok next)
include attends stepped

theorem served_elsewhere (other : event.request asm ≠ some (link, txnId)) : Served link txnId before next := by
  obtain ⟨binds, responses⟩ := step_elsewhere stepped other (stays_of_attends adapter attends)
  cases served with
  | asking running about unanswered =>
    exact .asking (running_step stepped running (about ▸ other)) about (responses.trans unanswered)
  | @waiting hop awaits live unasked unanswered =>
    have still : next.awaitsAt link txnId = some hop := by
      rw [awaitsAt, binds]
      exact awaits
    refine .waiting still (live_step stepped live ?_) (unasked_step stepped unasked other) (responses.trans unanswered)
    rintro rfl
    exact attends.2.2.2 hop awaits rfl
  | answered finished unasked once =>
    exact .answered (binds.trans finished) (unasked_step stepped unasked other) (responses.trans once)

theorem served_step (linked : Linked none [] asm) (apart : asm.Apart) : Served link txnId before next := by
  by_cases about : event.request asm = some (link, txnId)
  · cases event with
    | bindActorAddressRequest other txn packetBody => exact absurd (some.inj about) attends.2.2
    | streamIdRequest other txn visaId =>
      cases about
      rw [streamIdRequest_ignored adapter] at stepped
      cases stepped
      exact served
    | visaReply index reply =>
      obtain ⟨task, waiting, place⟩ := map_eq_some_iff.mp about
      exact served_reply adapter served waiting place (attends.1 task waiting) apart stepped
    | nextHopResponse egress id response vacant => exact served_answer adapter served about linked apart stepped
    | _ => cases about
  · exact served_elsewhere adapter served attends stepped about

end

end Assembly
end ZprCore.Node
