import ZprCore.Proofs.BindRuns

/-! What a node sends. Work on a bind request responds to that request only, and only an unbind
sends unbinds. -/

namespace ZprCore.Node
open Datapath (FiveTuple)
open Panic List Option PeerState

/-- The bind request of an adapter that a message responds to. -/
def Message.respondsTo : Message → Option TxnId
  | .bindActorAddressSuccessResponse txnId .. | .bindActorAddressErrorResponse txnId _ => some txnId
  | .streamIdRequest .. | .bindEgressStreamRequest .. | .streamIdSuccessResponse .. | .streamIdErrorResponse ..
  | .unbindEgressStreamRequest _ => none

/-- The stream that a message unbinds. -/
def Message.unbinds : Message → Option StreamId
  | .unbindEgressStreamRequest streamId => some streamId
  | .streamIdRequest .. | .bindEgressStreamRequest .. | .streamIdSuccessResponse .. | .streamIdErrorResponse ..
  | .bindActorAddressSuccessResponse .. | .bindActorAddressErrorResponse .. => none

/-- How many of the messages are responses to a bind request. -/
def responsesIn (said : List (LinkId × Message)) (link : LinkId) (txnId : TxnId) : Nat :=
  said.countP fun sent => decide (sent.1 = link ∧ sent.2.respondsTo = some txnId)

namespace Assembly

def responses (asm : Assembly) (link : LinkId) (txnId : TxnId) : Nat := responsesIn asm.outbox link txnId

def isAdapter (asm : Assembly) (link : LinkId) : Bool :=
  (asm.peerTable.get link).any fun peer => peer.peerType link = .adapter

theorem isAdapter_of_peer {asm : Assembly} {link peer} (occupied : asm.peerTable.get link = some peer) :
    asm.isAdapter link = decide (peer.peerType link = .adapter) := by
  rw [isAdapter, occupied, any_some]

theorem isAdapter_occupant (asm : Assembly) (link : LinkId) :
    asm.isAdapter link = (asm.occupant link).any fun occupant => occupant.2.peerType link = .adapter := by
  rw [isAdapter, occupant, Option.any_map]
  rfl

end Assembly

/-- Work on one bind request, which gets a number of responses. No other request is touched or
responded to, and nothing is unbound. -/
structure Serves (link : LinkId) (txnId : TxnId) (count : Nat) (before after : Assembly) : Prop where
  binds : ∀ place txn, (place, txn) ≠ (link, txnId) → after.bindAt place txn = before.bindAt place txn
  outbox : ∃ said, after.outbox = before.outbox ++ said ∧ (∀ sent ∈ said, sent.2.unbinds = none) ∧
    ∀ place txn, responsesIn said place txn = if (place, txn) = (link, txnId) then count else 0

namespace Serves
variable {link : LinkId} {txnId : TxnId} {first second count : Nat} {asm before middle after : Assembly}

theorem quiet (binds : ∀ place txn, (place, txn) ≠ (link, txnId) → after.bindAt place txn = before.bindAt place txn)
    (silent : after.outbox = before.outbox) : Serves link txnId 0 before after :=
  ⟨binds, [], by rw [silent, append_nil], fun _ => nofun, fun _ _ => (ite_self 0).symm⟩

theorem refl (asm : Assembly) : Serves link txnId 0 asm asm := quiet (fun _ _ _ => rfl) rfl

theorem trans (one : Serves link txnId first before middle) (two : Serves link txnId second middle after) :
    Serves link txnId (first + second) before after := by
  obtain ⟨early, sent, unbound, counted⟩ := one.outbox
  obtain ⟨late, more, kept, further⟩ := two.outbox
  refine ⟨fun place txn other => (two.binds place txn other).trans (one.binds place txn other), early ++ late, ?_, ?_, ?_⟩
  · rw [more, sent, append_assoc]
  · intro message listed
    exact (mem_append.mp listed).elim (unbound message) (kept message)
  intro place txn
  rw [responsesIn, countP_append]
  have total := congrArg₂ (· + ·) (counted place txn) (further place txn)
  refine total.trans ?_
  split <;> rfl

theorem after_quiet (one : Serves link txnId 0 before middle) (two : Serves link txnId count middle after) :
    Serves link txnId count before after := by
  have both := one.trans two
  rwa [Nat.zero_add] at both

theorem before_quiet (one : Serves link txnId count before middle) (two : Serves link txnId 0 middle after) :
    Serves link txnId count before after := one.trans two

theorem of_frame (frame : Frame exceptTxns before after) (silent : after.outbox = before.outbox) :
    Serves link txnId 0 before after := quiet (fun place txn _ => frame.binds place txn) silent

theorem send (asm : Assembly) (place : LinkId) {message} (other : message.respondsTo = none) (keeps : message.unbinds = none) :
    Serves link txnId 0 asm (asm.send place message) := by
  refine ⟨fun _ _ _ => rfl, [(place, message)], rfl, ?_, ?_⟩
  · intro sent listed
    cases mem_singleton.mp listed
    exact keeps
  intro place txn
  rw [ite_self, responsesIn, countP_singleton, other]
  exact if_neg (by simp)

theorem respond (asm : Assembly) {message} (responds : message.respondsTo = some txnId) (keeps : message.unbinds = none) :
    Serves link txnId 1 asm (asm.send link message) := by
  refine ⟨fun _ _ _ => rfl, [(link, message)], rfl, ?_, ?_⟩
  · intro sent listed
    cases mem_singleton.mp listed
    exact keeps
  intro place txn
  rw [responsesIn, countP_singleton, responds]
  simp only [decide_eq_true_eq, some.injEq, Prod.mk.injEq, @eq_comm _ link, @eq_comm _ txnId]

theorem responses (serves : Serves link txnId count before after) (place : LinkId) (txn : TxnId) :
    after.responses place txn = before.responses place txn + if (place, txn) = (link, txnId) then count else 0 := by
  obtain ⟨said, sent, _, counted⟩ := serves.outbox
  rw [Assembly.responses, sent, responsesIn, countP_append]
  exact congrArg _ (counted place txn)

end Serves

namespace Assembly
variable {asm next : Assembly} {ingress : LinkId} {txnId : TxnId} {link : LinkId} {txn : TxnId}
variable {handle : TxnHandle} {update} {state : BindRequestState} {visaId : VisaId}
  {reply : VisaReply} {pep : PftPep} {vacant : Option StreamId} {response : NextHopResponse}

theorem updateTxn_outbox (updated : asm.updateTxn handle update = .ok next) : next.outbox = asm.outbox := by
  simp only [updateTxn] at updated
  split at updated
  · cases updated
    rfl
  split at updated
  · obtain ⟨txnMgr, _, rest⟩ := bind_ok.mp updated
    cases rest
    rfl
  · cases updated
    rfl

theorem updateTxn_serves (updated : asm.updateTxn handle update = .ok next) : Serves link txn 0 asm next :=
  .of_frame (updateTxn_frame updated) (updateTxn_outbox updated)

theorem dropState_outbox (dropped : asm.dropState state = .ok next) : next.outbox = asm.outbox := by
  cases state with
  | awaitingVisaResponse | awaitingVisaPush visaId =>
    cases dropped
    rfl
  | awaitingNextHopBind visaId egressLinkId handle => exact updateTxn_outbox dropped

theorem insertBind_serves (inserted : asm.insertBind ingress txnId state = .ok next) :
    Serves ingress txnId 0 asm next ∧ next.bindAt ingress txnId = (asm.peerTable.get ingress).map fun _ => state := by
  have first : Serves ingress txnId 0 asm (asm.setBind ingress txnId state) := by
    refine .quiet (fun place txn other => ?_) rfl
    rw [bindAt_insert, if_neg (fun same => other (Prod.ext same.1 same.2))]
  have entered := (bindAt_insert asm ingress txnId state ingress txnId).trans (if_pos ⟨rfl, rfl⟩)
  simp only [insertBind] at inserted
  split at inserted
  · have frame := dropState_frame inserted
    exact ⟨first.after_quiet (.of_frame frame (dropState_outbox inserted)), (frame.binds _ _).trans entered⟩
  · cases inserted
    exact ⟨first, entered⟩

theorem removeBind_serves (removed : asm.removeBind ingress txnId = .ok next) :
    Serves ingress txnId 0 asm next ∧ next.bindAt ingress txnId = none := by
  simp only [removeBind] at removed
  split at removed
  · next absent =>
    cases removed
    exact ⟨.refl _, absent⟩
  split at removed
  · cases removed
  have first : Serves ingress txnId 0 asm (asm.endBind ingress txnId) := by
    refine .quiet (fun place txn other => ?_) rfl
    rw [bindAt_erase, if_neg (fun same => other (Prod.ext same.1 same.2))]
  have frame := dropState_frame removed
  refine ⟨first.after_quiet (.of_frame frame (dropState_outbox removed)), (frame.binds _ _).trans ?_⟩
  exact (bindAt_erase asm ingress txnId ingress txnId).trans (if_pos ⟨rfl, rfl⟩)

/-- A bind request is over: an adapter has got its response. -/
def Over (link : LinkId) (txnId : TxnId) (before after : Assembly) : Prop :=
  Serves link txnId (before.isAdapter link).toNat before after ∧ after.bindAt link txnId = none

theorem sendRejection_serves (asm : Assembly) (link : LinkId) (peerType : PeerType) (txnId : TxnId) (reason : String) :
    Serves link txnId (decide (peerType = .adapter)).toNat asm (asm.sendRejection link peerType txnId reason) := by
  cases peerType with
  | adapter => exact .respond _ rfl rfl
  | node => exact .send _ _ rfl rfl
  | dock => exact .refl _
  | unknown => exact .refl _

theorem bindReject_over {reason} (rejected : asm.bindReject ingress txnId reason = .ok next) :
    Over ingress txnId asm next := by
  simp only [bindReject] at rejected
  split at rejected
  · next vacant =>
    cases rejected
    refine ⟨?_, by rw [bindAt, vacant, bind_none]⟩
    rw [isAdapter, vacant]
    exact .refl _
  · next peer occupied =>
    obtain ⟨middle, removed, rest⟩ := bind_ok.mp rejected
    cases rest
    obtain ⟨quiet, gone⟩ := removeBind_serves removed
    refine ⟨?_, ?_⟩
    · rw [isAdapter, occupied]
      exact quiet.after_quiet (sendRejection_serves _ _ _ _ _)
    · cases peer.peerType ingress <;> exact gone

/-- Work before the end of a request that sends nothing. -/
theorem Over.after_quiet {before middle after} (finished : Over ingress txnId middle after)
    (quiet : Serves ingress txnId 0 before middle) (same : middle.occupant ingress = before.occupant ingress) :
    Over ingress txnId before after := by
  refine ⟨?_, finished.2⟩
  rw [isAdapter_occupant, ← same, ← isAdapter_occupant]
  exact quiet.after_quiet finished.1

/-- Work on a bind request that has its visa: it is over, or it awaits a live next hop. -/
inductive Advances (link : LinkId) (txnId : TxnId) (before after : Assembly) : Prop where
  | ended (finished : Over link txnId before after)
  | awaits (hop : LinkId × TxnHandle) (serves : Serves link txnId 0 before after)
      (waiting : after.awaitsAt link txnId = some hop) (live : (after.peerTable.get hop.1).isSome)

namespace Advances
variable {before middle after : Assembly}

theorem after_quiet (advances : Advances ingress txnId middle after) (quiet : Serves ingress txnId 0 before middle)
    (same : middle.occupant ingress = before.occupant ingress) : Advances ingress txnId before after := by
  cases advances with
  | ended finished => exact .ended (finished.after_quiet quiet same)
  | awaits hop serves waiting live => exact .awaits hop (quiet.after_quiet serves) waiting live

theorem serves (advances : Advances ingress txnId before after) : ∃ count, Serves ingress txnId count before after := by
  cases advances with
  | ended finished => exact ⟨_, finished.1⟩
  | awaits hop serves waiting live => exact ⟨_, serves⟩

end Advances

theorem nextHopRequest_silent {peerType request}
    (asked : asm.nextHopRequest peerType visaId = some request) (id : TxnId) :
    (request id).respondsTo = none ∧ (request id).unbinds = none := by
  cases peerType with
  | node =>
    cases asked
    exact ⟨rfl, rfl⟩
  | adapter =>
    obtain ⟨visa, _, rfl⟩ := map_eq_some_iff.mp asked
    exact ⟨rfl, rfl⟩
  | dock => cases asked
  | unknown => cases asked

theorem awaitNextHop_advances {request} (live : (asm.peerTable.get handle.link).isSome)
    (silent : request.respondsTo = none ∧ request.unbinds = none)
    (awaited : asm.awaitNextHop ingress txnId visaId handle request = .ok next) : Advances ingress txnId asm next := by
  have progress := awaitNextHop_progress awaited
  simp only [awaitNextHop] at awaited
  split at awaited
  · next vacant =>
    refine .ended ⟨?_, ?_⟩
    · rw [isAdapter, vacant]
      exact updateTxn_serves awaited
    · rw [(updateTxn_frame awaited).binds, bindAt, vacant, bind_none]
  · next peer occupied =>
    obtain ⟨cloned, counted, rest⟩ := bind_ok.mp awaited
    obtain ⟨entered, inserted, done⟩ := bind_ok.mp rest
    cases done
    obtain ⟨entering, held⟩ := insertBind_serves inserted
    have noting : Frame requests entered (entered.note handle.link handle (ingress, txnId)) :=
      .modifyPeer _ _ fun _ => rfl
    refine .awaits (handle.link, handle) ?_ ?_ ?_
    · refine (updateTxn_serves counted).after_quiet (entering.after_quiet ?_)
      refine .after_quiet ?_ (.send _ _ silent.1 silent.2)
      exact .quiet (fun place txn _ => noting.requestsBinds place txn) rfl
    · refine (noting.requestsAwait ingress txnId).trans ?_
      have present := (updateTxn_frame counted).live ingress
      rw [occupied] at present
      obtain ⟨peer, found⟩ := isSome_iff_exists.mp present
      rw [awaitsAt, held, found]
      rfl
    · rw [progress.toFrame.live]
      exact live

theorem requestedVisaGranted_advances (granted : asm.requestedVisaGranted ingress txnId visaId = .ok next) :
    Advances ingress txnId asm next := by
  simp only [requestedVisaGranted] at granted
  split at granted
  · exact .ended (bindReject_over granted)
  next link found =>
  split at granted
  · exact .ended (bindReject_over granted)
  next peer occupied =>
  split at granted
  · exact .ended (bindReject_over granted)
  next request asked =>
  split at granted
  · cases granted
  next id txnMgr opened =>
  have opening := Frame.setMgr asm link txnMgr
  have first : Serves ingress txnId 0 asm (asm.setMgr link txnMgr) :=
    .of_frame opening rfl
  have live : ((asm.setMgr link txnMgr).peerTable.get link).isSome := by
    rw [opening.live, occupied]
    rfl
  exact (awaitNextHop_advances live (nextHopRequest_silent asked id) granted).after_quiet first
    (opening.hideBinds.routes.occupant ingress)

/-- A task has been started to get a visa for the request. -/
structure Asked (link : LinkId) (txnId : TxnId) (before after : Assembly) : Prop where
  serves : Serves link txnId 0 before after
  task : ∃ task, task.place = (link, txnId) ∧ after.tasks = before.tasks ++ [task]

theorem spawnVisaTask_asked {peer query} (spawned : asm.spawnVisaTask ingress txnId peer query state = .ok next) :
    Asked ingress txnId asm next := by
  have serves := (insertBind_serves spawned).1
  exact ⟨⟨serves.binds, serves.outbox⟩, ⟨ingress, txnId, query, peer.session⟩, rfl, (insertBind_progress spawned).tasks⟩

theorem bindActorAddress_outcome {findMatch packetBody}
    (bound : asm.bindActorAddress findMatch ingress txnId packetBody = .ok next) :
    (Advances ingress txnId asm next ∧ next.tasks = asm.tasks) ∨ Asked ingress txnId asm next := by
  have denied {reason} (rejected : asm.bindReject ingress txnId reason = .ok next) :
      Advances ingress txnId asm next ∧ next.tasks = asm.tasks :=
    ⟨.ended (bindReject_over rejected), (bindReject_steady rejected).1.tasks⟩
  obtain ⟨flow, _, rest⟩ := bind_ok.mp bound
  cases flow with
  | none => exact .inl (denied rest)
  | some flow =>
    simp only [bindFlow] at rest
    split at rest
    · next vacant =>
      cases rest
      refine .inl ⟨.ended ⟨?_, by rw [bindAt, vacant, bind_none]⟩, rfl⟩
      rw [isAdapter, vacant]
      exact .refl _
    · split at rest
      · exact .inl (denied rest)
      split at rest
      · exact .inr (spawnVisaTask_asked rest)
      split at rest
      · exact .inl ⟨requestedVisaGranted_advances rest, (requestedVisaGranted_progress rest).tasks⟩
      · exact .inr (spawnVisaTask_asked rest)
      · exact .inl (denied rest)
      · cases rest

theorem requestStream_serves (requested : asm.requestStream ingress txnId visaId = .ok next) :
    ∃ count, Serves ingress txnId count asm next := by
  simp only [requestStream] at requested
  split at requested
  · cases requested
    exact ⟨0, .refl _⟩
  split at requested
  · exact (requestedVisaGranted_advances requested).serves
  · exact ⟨0, (spawnVisaTask_asked requested).serves⟩

theorem grantInserted_advances {visa} (granted : asm.grantInserted ingress txnId visa = .ok next) :
    Advances ingress txnId asm next := by
  obtain ⟨⟨inserted, entered⟩, inserting, rest⟩ := bind_ok.mp granted
  rcases insertVisa_cases inserting with ⟨_, addr, rfl⟩ | ⟨visas, _, rfl, rfl⟩
  · cases rest
  · exact (requestedVisaGranted_advances rest).after_quiet (.quiet (fun _ _ _ => rfl) rfl) rfl

theorem answers_cases {query} (answers : reply.answers query = true) :
    (∃ req outcome, query = .request req ∧ reply = .decision outcome) ∨ ∃ id found, query = .byId id ∧ reply = .visas found := by
  cases reply with
  | decision outcome =>
    cases query with
    | request req => exact .inl ⟨req, outcome, rfl, rfl⟩
    | byId id => cases answers
  | visas found =>
    cases query with
    | request req => cases answers
    | byId id => exact .inr ⟨id, found, rfl, rfl⟩

theorem handleVisaReply_advances {index task} (waiting : asm.tasks[index]? = some task)
    (answers : reply.answers task.query = true) (handled : asm.handleVisaReply index reply = .ok next) :
    Advances task.ingressLinkId task.txnId asm next := by
  have ending : Serves task.ingressLinkId task.txnId 0 asm { asm with tasks := asm.tasks.eraseIdx index } :=
    .quiet (fun _ _ _ => rfl) rfl
  refine .after_quiet ?_ ending rfl
  rcases answers_cases answers with ⟨req, outcome, asked, rfl⟩ | ⟨id, found, asked, rfl⟩
  · simp only [handleVisaReply, waiting, asked, visaRequestTask] at handled
    split at handled
    · exact grantInserted_advances handled
    all_goals exact .ended (bindReject_over handled)
  · simp only [handleVisaReply, waiting, asked, visaPushRequestTask] at handled
    split at handled
    · split at handled
      · exact grantInserted_advances handled
      · exact .ended (bindReject_over handled)
    · exact .ended (bindReject_over handled)

theorem handleVisaReply_serves {index task} (waiting : asm.tasks[index]? = some task)
    (handled : asm.handleVisaReply index reply = .ok next) :
    ∃ count, Serves task.ingressLinkId task.txnId count asm next := by
  by_cases answers : reply.answers task.query = true
  · exact (handleVisaReply_advances waiting answers handled).serves
  simp only [handleVisaReply, waiting] at handled
  split at handled
  · next asked => exact absurd (by rw [asked]; rfl) answers
  · next asked => exact absurd (by rw [asked]; rfl) answers
  · cases handled
    exact ⟨0, .quiet (fun _ _ _ => rfl) rfl⟩

theorem installRoute_over {peerType key} (kind : asm.isAdapter ingress = decide (peerType = .adapter))
    (free : asm.bindAt ingress txnId = none) (installed : asm.installRoute ingress peerType txnId key pep = .ok next) :
    Over ingress txnId asm next := by
  simp only [installRoute] at installed
  split at installed
  · exact bindReject_over installed
  next visa found =>
  split at installed
  · exact (bindReject_over installed).after_quiet (.quiet (fun _ _ _ => rfl) rfl) rfl
  next response chosen =>
  cases installed
  have binds := (Frame.fill { asm with visaTable := asm.visaTable.linkForwardingEntry pep.visaId (ingress, key) }
    ingress key pep).hideReplies.requestsBinds
  have quiet : Serves ingress txnId 0 asm (({ asm with
      visaTable := asm.visaTable.linkForwardingEntry pep.visaId (ingress, key) } : Assembly).modifyPeer ingress fun peer =>
        { peer with pft := peer.pft.insert key pep }) := .quiet (fun place txn _ => binds place txn) rfl
  refine ⟨?_, (binds ingress txnId).trans free⟩
  rw [kind]
  cases peerType with
  | adapter =>
    cases chosen
    exact quiet.after_quiet (.respond _ rfl rfl)
  | node =>
    cases chosen
    exact quiet.after_quiet (.send _ _ rfl rfl)
  | dock => cases chosen
  | unknown => cases chosen

theorem requestedTetherGranted_over {tether}
    (waiting : (asm.peerTable.get ingress).isSome → ∃ visaId egress handle, asm.bindAt ingress txnId = some (.awaitingNextHopBind visaId egress handle))
    (granted : asm.requestedTetherGranted ingress txnId tether vacant = .ok next) : Over ingress txnId asm next := by
  simp only [requestedTetherGranted] at granted
  split at granted
  · next absent =>
    cases granted
    refine ⟨?_, by rw [bindAt, absent, bind_none]⟩
    rw [isAdapter, absent]
    exact .refl _
  · next peer occupied =>
    split at granted
    · next visaId egress handle held =>
      obtain ⟨closed, removed, rest⟩ := bind_ok.mp granted
      obtain ⟨quiet, gone⟩ := removeBind_serves removed
      have idle : Idle asm closed := (removeBind_progress removed).idle
      have same := idle.toFrame.routes.occupant ingress
      refine Over.after_quiet ?_ quiet same
      split at rest
      · exact bindReject_over rest
      · refine installRoute_over ?_ gone rest
        rw [isAdapter_occupant, same, ← isAdapter_occupant, isAdapter, occupied, any_some]
    · next other =>
      obtain ⟨visaId, egress, handle, held⟩ := waiting (by rw [occupied]; rfl)
      rw [bindAt, occupied, bind_some] at held
      exact absurd held (other visaId egress handle)

/-- No bind request is touched and nothing is sent. -/
structure Untouched (before after : Assembly) : Prop where
  outbox : after.outbox = before.outbox
  binds : ∀ place txn, after.bindAt place txn = before.bindAt place txn

namespace Untouched
variable {before middle after : Assembly}

theorem refl (asm : Assembly) : Untouched asm asm := ⟨rfl, fun _ _ => rfl⟩

theorem trans (one : Untouched before middle) (two : Untouched middle after) : Untouched before after :=
  ⟨two.outbox.trans one.outbox, fun place txn => (two.binds place txn).trans (one.binds place txn)⟩

theorem serves (untouched : Untouched before after) : Serves link txn 0 before after :=
  .quiet (fun place id _ => untouched.binds place id) untouched.outbox

end Untouched

theorem updateTxn_untouched (updated : asm.updateTxn handle update = .ok next) : Untouched asm next :=
  ⟨updateTxn_outbox updated, (updateTxn_frame updated).binds⟩

theorem resolve_untouched {originator} (resolved : asm.resolveNextHopBindOriginator link handle = .ok (originator, next)) :
    Untouched asm next := by
  simp only [resolveNextHopBindOriginator] at resolved
  split at resolved
  · cases resolved
    exact .refl _
  split at resolved
  · cases resolved
    exact .refl _
  obtain ⟨_, _, rest⟩ := bind_ok.mp resolved
  obtain ⟨dropped, released, done⟩ := bind_ok.mp rest
  cases done
  have erasing : Frame requests asm (asm.unnote link handle) :=
    .modifyPeer _ _ fun _ => rfl
  refine .trans ?_ (updateTxn_untouched released)
  exact ⟨rfl, erasing.requestsBinds⟩

theorem unresolved_unnoted {problem} (resolving : asm.resolveNextHopBindOriginator link handle = .ok (.error problem, next)) :
    asm.noteAt link handle = none := by
  simp only [resolveNextHopBindOriginator] at resolving
  split at resolving
  · next absent => rw [noteAt, absent, bind_none]
  next peer occupied =>
  split at resolving
  · next unnoted => rw [noteAt, occupied, bind_some, unnoted]
  obtain ⟨_, _, rest⟩ := bind_ok.mp resolving
  obtain ⟨_, _, done⟩ := bind_ok.mp rest
  cases done

theorem resolved_over {finish : Assembly → LinkId → TxnId → Except Panic Assembly}
    (finishes : ∀ {resolved ingress txnId}, ((resolved.peerTable.get ingress).isSome → ∃ visaId egress handle,
      resolved.bindAt ingress txnId = some (.awaitingNextHopBind visaId egress handle)) →
      finish resolved ingress txnId = .ok next → Over ingress txnId resolved next)
    (completed : (do
      let (originator, asm) ← asm.resolveNextHopBindOriginator link handle
      match originator with
      | .error _ => return asm
      | .ok (ingressLinkId, txnId) => finish asm ingressLinkId txnId) = .ok next) :
    (asm.noteAt link handle = none ∧ Untouched asm next) ∨
      ∃ request, asm.noteAt link handle = some request ∧ Over request.1 request.2 asm next := by
  obtain ⟨⟨originator, resolved⟩, resolving, rest⟩ := bind_ok.mp completed
  have quiet := resolve_untouched resolving
  obtain ⟨idle, found⟩ := resolve_cases resolving
  cases originator with
  | error problem =>
    cases rest
    exact .inl ⟨unresolved_unnoted resolving, quiet⟩
  | ok request =>
    obtain ⟨noted, waiting⟩ := found request.1 request.2 rfl
    refine .inr ⟨request, noted, Over.after_quiet ?_ quiet.serves (idle.toFrame.routes.occupant request.1)⟩
    refine finishes (fun live => ?_) rest
    rw [idle.toFrame.live] at live
    obtain ⟨visaId, held⟩ := waiting live
    exact ⟨visaId, link, handle, (quiet.binds _ _).trans held⟩

theorem completeTether_over (completed : asm.completeTether link handle response vacant = .ok next) :
    (asm.noteAt link handle = none ∧ Untouched asm next) ∨
      ∃ request, asm.noteAt link handle = some request ∧ Over request.1 request.2 asm next := by
  cases response with
  | success tether => exact resolved_over (fun waiting granted => requestedTetherGranted_over waiting granted) completed
  | other reason => exact resolved_over (fun _ rejected => bindReject_over rejected) completed

theorem originator_of_peer {peer} (occupied : asm.peerTable.get link = some peer) (txnId : TxnId) :
    asm.originator link txnId = asm.noteAt link ⟨link, peer.session, txnId⟩ := by
  rw [originator, noteAt, occupied, bind_some, bind_some]

/-- An answer for an open transaction ends the request it is noted for; others are ignored. -/
theorem handleNextHopResponse_over (handled : asm.handleNextHopResponse link txnId response vacant = .ok next) :
    (Untouched asm next ∧ ((∀ peer ∈ asm.peerTable.get link, peer.txnMgr.get txnId = none) ∨
      asm.originator link txnId = none)) ∨
      ∃ request, asm.originator link txnId = some request ∧ Over request.1 request.2 asm next := by
  simp only [handleNextHopResponse] at handled
  split at handled
  · next absent =>
    cases handled
    refine .inl ⟨.refl _, .inl fun peer occupied => ?_⟩
    rw [absent] at occupied
    cases occupied
  · next peer occupied =>
    split at handled
    · next closed =>
      cases handled
      refine .inl ⟨.refl _, .inl fun other same => ?_⟩
      rw [occupied] at same
      cases same
      exact closed
    · next txnMgr counted =>
      obtain ⟨answered, work, dropped⟩ := bind_ok.mp handled
      have opening := Frame.setMgr asm link txnMgr
      have noted := opening.notes link ⟨link, peer.session, txnId⟩
      rw [originator_of_peer occupied, ← noted]
      rcases completeTether_over work with ⟨unnoted, untouched⟩ | ⟨request, found, finished⟩
      · refine .inl ⟨?_, .inr unnoted⟩
        have first : Untouched asm (asm.setMgr link txnMgr) := ⟨rfl, opening.binds⟩
        exact first.trans (untouched.trans (updateTxn_untouched dropped))
      refine .inr ⟨request, found, ?_⟩
      refine Over.after_quiet ⟨finished.1.before_quiet (updateTxn_untouched dropped).serves, ?_⟩ (.of_frame opening rfl)
        (opening.hideBinds.routes.occupant request.1)
      exact ((updateTxn_frame dropped).binds _ _).trans finished.2

theorem foldl_outbox {α} (operation)
    (silent : ∀ asm item, (operation asm item).outbox = asm.outbox) (items : List α) (asm : Assembly) :
    (items.foldl operation asm).outbox = asm.outbox := by
  induction items generalizing asm with
  | nil => rfl
  | cons item rest ih => exact (ih _).trans (silent asm item)

theorem revokeNoRebuild_outbox (asm : Assembly) (id : VisaId) : (asm.revokeNoRebuild id).outbox = asm.outbox := by
  simp only [revokeNoRebuild]
  split
  · rfl
  · exact foldl_outbox removeRoute (fun _ _ => rfl) _ _

theorem dropStates_outbox {states : List BindRequestState} (dropped : states.foldlM dropState asm = .ok next) :
    next.outbox = asm.outbox := by
  induction states generalizing asm with
  | nil =>
    cases dropped
    rfl
  | cons state rest ih =>
    rw [foldlM_cons] at dropped
    obtain ⟨middle, first, later⟩ := bind_ok.mp dropped
    exact (ih later).trans (dropState_outbox first)

theorem dropPeer_outbox (dropped : asm.dropPeer link = .ok next) : next.outbox = asm.outbox := by
  have swept : (asm.revokeForLink link).outbox = asm.outbox := by
    simp only [revokeForLink]
    split
    · rfl
    · exact foldl_outbox _ revokeNoRebuild_outbox _ _
  simp only [dropPeer, remove] at dropped
  split at dropped
  · cases dropped
    exact swept
  · exact (dropStates_outbox dropped).trans swept

/-- Only adapters may unbind; the local actor counts as one. -/
theorem handleUnbindIndication_eq (asm : Assembly) (link : LinkId) (streamId : StreamId) :
    asm.handleUnbindIndication link streamId = if asm.isAdapter link then asm.unbindStream link streamId else asm := by
  cases occupied : asm.peerTable.get link with
  | none => simp only [handleUnbindIndication, isAdapter, occupied, any_none, if_neg Bool.false_ne_true]
  | some peer =>
    rw [isAdapter_of_peer occupied, peerType]
    simp only [handleUnbindIndication, occupied]
    cases peer.linkType with
    | nodeToAdapter => rfl
    | internal =>
      simp only [LinkType.peerType]
      by_cases actor : link = localActorLinkId
      · simp only [if_pos actor, decide_true, if_true]
      · simp only [if_neg actor]
        split <;> rfl
    | adapterToNode => rfl
    | nodeToNode => rfl

theorem unbindStream_outbox {streamId} (held : asm.routeAt (link, streamId) = some pep) :
    (asm.unbindStream link streamId).outbox =
      asm.outbox ++ [(pep.nextHop.1, .unbindEgressStreamRequest streamId)] := by
  simp only [routeAt] at held
  simp only [unbindStream, held]
  rfl

theorem unbindStream_gone {streamId} (held : asm.routeAt (link, streamId) = some pep) :
    (asm.unbindStream link streamId).routeAt (link, streamId) = none := by
  have freed := congrFun (congrArg BackRefs.slot (slot_removeRoute asm (link, streamId))) (link, streamId)
  simp only [routeAt] at held
  simp only [unbindStream, held]
  exact freed.trans (if_pos rfl)

end Assembly

/-- The bind request that an event is about. -/
def Event.request (asm : Assembly) : Event → Option (LinkId × TxnId)
  | .bindActorAddressRequest link txnId _ | .streamIdRequest link txnId _ => some (link, txnId)
  | .visaReply index _ => asm.tasks[index]?.map VisaTask.place
  | .nextHopResponse link txnId _ _ => asm.originator link txnId
  | .unbindIndication .. | .visaGrant _ | .visaRevocation _ | .expirations _ | .addPeer .. | .dropPeer _
  | .setAddresses .. => none

/-- The event brings a peer to the link or takes it away. -/
def Event.moves (link : LinkId) : Event → Prop
  | .addPeer other _ | .dropPeer other => other = link
  | .bindActorAddressRequest .. | .streamIdRequest .. | .visaReply .. | .nextHopResponse .. | .unbindIndication ..
  | .visaGrant _ | .visaRevocation _ | .expirations _ | .setAddresses .. => False

/-- What an event can do to bind requests and messages. -/
inductive Speech (asm : Assembly) (event : Event) (next : Assembly) : Prop where
  | serves {link txnId count} (about : event.request asm = some (link, txnId))
      (work : Serves link txnId count asm next)
  | silent (outbox : next.outbox = asm.outbox)
      (binds : ∀ link txnId, ¬ event.moves link → next.bindAt link txnId = asm.bindAt link txnId)
  | unbinds {link streamId pep} (indication : event = .unbindIndication link streamId)
      (held : asm.routeAt (link, streamId) = some pep) (gone : next.routeAt (link, streamId) = none)
      (outbox : next.outbox = asm.outbox ++ [(pep.nextHop.1, .unbindEgressStreamRequest streamId)])
      (binds : ∀ link txnId, next.bindAt link txnId = asm.bindAt link txnId)

namespace Assembly
variable {findMatch} {asm next : Assembly} {event : Event}

theorem Untouched.speech (untouched : Untouched asm next) : Speech asm event next :=
  .silent untouched.outbox fun link txnId _ => untouched.binds link txnId

variable (stepped : asm.step findMatch event = .ok next)
include stepped

theorem step_speech : Speech asm event next := by
  cases event with
  | bindActorAddressRequest link txnId packetBody =>
    simp only [step, handleBindActorAddressRequest] at stepped
    split at stepped
    · rcases bindActorAddress_outcome stepped with ⟨advances, _⟩ | asked
      · obtain ⟨count, work⟩ := advances.serves
        exact .serves rfl work
      · exact .serves rfl asked.serves
    · cases stepped
      exact (Untouched.refl _).speech
  | streamIdRequest link txnId visaId =>
    simp only [step, handleStreamIdRequest] at stepped
    split at stepped
    · obtain ⟨count, work⟩ := requestStream_serves stepped
      exact .serves rfl work
    · cases stepped
      exact (Untouched.refl _).speech
  | visaReply index reply =>
    cases waiting : asm.tasks[index]? with
    | none =>
      simp only [step, handleVisaReply, waiting] at stepped
      cases stepped
      exact (Untouched.refl _).speech
    | some task =>
      obtain ⟨count, work⟩ := handleVisaReply_serves waiting stepped
      exact .serves (by rw [Event.request, waiting]; rfl) work
  | nextHopResponse link txnId response vacant =>
    rcases handleNextHopResponse_over stepped with ⟨untouched, _⟩ | ⟨request, about, finished⟩
    · exact untouched.speech
    · exact .serves about finished.1
  | unbindIndication link streamId =>
    cases stepped
    have kept place txn :
        (asm.handleUnbindIndication link streamId).bindAt place txn = asm.bindAt place txn := by
      rcases handleUnbindIndication_cases asm link streamId with same | ⟨pep, _, swept, _⟩
      · rw [same]
      · exact swept.binds place txn
    by_cases adapter : asm.isAdapter link = true
    · rw [handleUnbindIndication_eq, if_pos adapter] at kept ⊢
      cases held : asm.routeAt (link, streamId) with
      | none =>
        simp only [routeAt] at held
        refine .silent ?_ fun place txn _ => kept place txn
        simp only [unbindStream, held]
      | some pep => exact .unbinds rfl held (unbindStream_gone held) (unbindStream_outbox held) kept
    · rw [handleUnbindIndication_eq, if_neg adapter]
      exact (Untouched.refl _).speech
  | visaGrant visa =>
    obtain ⟨⟨inserted, entered⟩, inserting, done⟩ := bind_ok.mp stepped
    cases done
    rcases insertVisa_cases inserting with ⟨rfl, _⟩ | ⟨visas, _, _, rfl⟩
    · exact (Untouched.refl _).speech
    · exact .silent rfl fun _ _ _ => rfl
  | visaRevocation id =>
    cases stepped
    exact .silent (revokeNoRebuild_outbox asm id) fun link txnId _ => (handleRevocation_swept asm id).binds link txnId
  | expirations currentTime =>
    cases stepped
    refine .silent ?_ fun link txnId _ => (handleExpirations_swept asm currentTime).binds link txnId
    exact foldl_outbox revokeNoRebuild revokeNoRebuild_outbox _ _
  | addPeer link linkType =>
    cases stepped
    refine .silent rfl fun place txn other => ?_
    rw [bindAt_addPeer, if_neg (fun same => other same.symm)]
  | dropPeer link =>
    refine .silent (dropPeer_outbox stepped) fun place txn other => ?_
    rw [bindAt_dropPeer stepped, if_neg (fun same => other same.symm)]
  | setAddresses link addresses aaaAddress =>
    cases stepped
    have frame : Frame requests asm (asm.modifyPeer link fun peer => { peer with addresses, aaaAddress }) :=
      .modifyPeer _ _ fun _ => rfl
    exact .silent rfl fun place txn _ => frame.requestsBinds place txn

theorem step_elsewhere {link txnId} (other : event.request asm ≠ some (link, txnId)) (stays : ¬ event.moves link) :
    next.bindAt link txnId = asm.bindAt link txnId ∧ next.responses link txnId = asm.responses link txnId := by
  cases step_speech stepped with
  | serves about work =>
    have elsewhere : (link, txnId) ≠ (_, _) := fun same => other (about.trans (congrArg some same.symm))
    refine ⟨work.binds link txnId elsewhere, ?_⟩
    rw [work.responses, if_neg elsewhere, Nat.add_zero]
  | silent outbox binds => exact ⟨binds link txnId stays, by rw [responses, outbox, responses]⟩
  | unbinds indication held gone outbox binds =>
    refine ⟨binds link txnId, ?_⟩
    rw [responses, outbox, responsesIn, countP_append, countP_singleton, if_neg (by simp [Message.respondsTo])]
    rfl

end Assembly
end ZprCore.Node
