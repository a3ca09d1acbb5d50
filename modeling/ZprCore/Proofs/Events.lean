import ZprCore.Proofs.Routing

/-! What the events of a node do to its routes, requests and visas. -/

namespace ZprCore.Node
open Datapath (IpAddress FiveTuple Ip5TupleTc)
open Panic Table Option Function PeerState

/-- When the visa under an id expires, and the timeouts that are queued. -/
structure Timeouts where
  expiry : VisaId → Option Nat
  queue : TimeoutQueue

namespace VisaTable

def timeouts (visas : VisaTable) : Timeouts := ⟨fun id => (visas.table.get id).map Visa.expires, visas.timeoutQueue⟩

theorem modify_timeouts (visas : VisaTable) (id : VisaId) {change}
    (kept : ∀ visa, (change visa).expires = visa.expires) :
    ({ visas with table := visas.table.modify id change } : VisaTable).timeouts = visas.timeouts := by
  simp only [timeouts, Timeouts.mk.injEq, and_true]
  funext other
  simp only [get_modify]
  split
  · simp only [map_map, comp_def, kept]
  · rfl

end VisaTable

/-- Nothing new: peers stay, and no bind request, task or visa comes up. -/
structure Steady (before after : Assembly) : Prop where
  tasks : after.tasks = before.tasks
  sessions : after.sessions = before.sessions
  occupant : ∀ link, after.occupant link = before.occupant link
  binds : ∀ link txnId state, after.bindAt link txnId = some state → before.bindAt link txnId = some state
  visas : before.visaTable.Grants after.visaTable
  timeouts : after.visaTable.timeouts = before.visaTable.timeouts

/-- Work on bind requests that enters no new state. -/
abbrev Idle := Progress 0 0 fun _ => False

namespace Steady
variable {before middle after : Assembly}

theorem trans (first : Steady before middle) (second : Steady middle after) : Steady before after :=
  ⟨second.tasks.trans first.tasks, second.sessions.trans first.sessions,
    fun link => (second.occupant link).trans (first.occupant link),
    fun link txnId state found => first.binds link txnId state (second.binds link txnId state found),
    first.visas.trans second.visas, second.timeouts.trans first.timeouts⟩

theorem of_idle (idle : Idle before after) : Steady before after :=
  ⟨idle.tasks, idle.sessions, idle.toFrame.routes.occupant,
    fun link txnId state found => (idle.binds link txnId state found).resolve_right fun new => new.2.2,
    idle.visas ▸ .refl _, by rw [idle.visas]⟩

end Steady

theorem Progress.idle {link txnId before after} (progress : Progress link txnId (fun _ => False) before after) :
    Idle before after :=
  ⟨progress.toFrame, fun other txn state found =>
    .inl ((progress.binds other txn state found).resolve_right fun new => new.2.2)⟩

/-- Peers that may issue bind or stream id requests. -/
def PeerType.requests : PeerType → Bool
  | .node | .adapter => true
  | .dock | .unknown => false

/-- A next hop's answer completes a bind request that still has its visa. -/
structure Completion (asm : Assembly) (link : LinkId) (handle : TxnHandle) (vacant : Option StreamId) (ingress : LinkId)
    (linkType : LinkType) (key : StreamId) (pep : PftPep) : Prop where
  origin : ∃ txnId, asm.noteAt link handle = some (ingress, txnId) ∧
    asm.bindAt ingress txnId = some (.awaitingNextHopBind pep.visaId link handle)
  occupied : ∃ session, asm.occupant ingress = some (session, linkType)
  offered : vacant = some key
  valid : (asm.routing.refs pep.visaId).isSome
  hop : pep.nextHop.1 = link

theorem Completion.of_frame {before after link handle vacant ingress linkType key pep} (frame : Frame exceptTxns before after)
    (completion : Completion after link handle vacant ingress linkType key pep) :
    Completion before link handle vacant ingress linkType key pep := by
  have routes := frame.hideBinds.routes
  obtain ⟨txnId, noted, asked⟩ := completion.origin
  obtain ⟨session, occupied⟩ := completion.occupied
  exact ⟨⟨txnId, (frame.notes _ _).symm.trans noted, (frame.binds _ _).symm.trans asked⟩,
    ⟨session, (routes.occupant _).symm.trans occupied⟩, completion.offered, routes.routing ▸ completion.valid,
    completion.hop⟩

/-- The visa that a reply brings for a query. -/
def VisaReply.brings : VisaReply → VisaQuery → Option VsapiVisa
  | .decision (some (.allowed visa)), .request _ => some visa
  | .visas (some found), .byId id => found.find? fun visa => visa.issuerId == id
  | _, _ => none

/-- The visa that comes with an event. -/
def Event.visa (asm : Assembly) : Event → Option VsapiVisa
  | .visaGrant granted => some granted
  | .visaReply index reply => asm.tasks[index]?.bind fun task => reply.brings task.query
  | _ => none

/-- What a task is started for. -/
inductive Asks (asm : Assembly) : Event → VisaTask → Prop where
  | flow {link txnId packetBody peer flow}
      {flags} (occupied : asm.peerTable.get link = some peer)
      (classified : Assembly.boundFlow packetBody = .ok (some flow)) (owns : peer.owns flow.srcAddress = true) :
      Asks asm (.bindActorAddressRequest link txnId packetBody) ⟨link, txnId, .request ⟨flow, flags⟩, peer.session⟩
  | stream {link txnId visaId peer}
      (occupied : asm.peerTable.get link = some peer) (node : peer.peerType link = .node) :
      Asks asm (.streamIdRequest link txnId visaId) ⟨link, txnId, .byId visaId, peer.session⟩

/-- What a bind request gets its visa by: a visa at hand, or the reply to a task. -/
inductive Awaits (findMatch : List (VisaId × FiveTuple) → FiveTuple → Option VisaId) (asm : Assembly) :
    Event → LinkId → TxnId → VisaId → Prop where
  | flow {link txnId packetBody peer flow}
      {visaId} (occupied : asm.peerTable.get link = some peer)
      (classified : Assembly.boundFlow packetBody = .ok (some flow)) (owns : peer.owns flow.srcAddress = true)
      (matched : findMatch asm.visaTable.lookupTable flow = some visaId) :
      Awaits findMatch asm (.bindActorAddressRequest link txnId packetBody) link txnId visaId
  | stream {link txnId visaId peer}
      (occupied : asm.peerTable.get link = some peer) (node : peer.peerType link = .node) :
      Awaits findMatch asm (.streamIdRequest link txnId visaId) link txnId visaId
  | reply {index reply task visa}
      (waiting : asm.tasks[index]? = some task) (brings : reply.brings task.query = some visa) :
      Awaits findMatch asm (.visaReply index reply) task.ingressLinkId task.txnId visa.issuerId

/-- The tasks that an event leaves running. -/
def Assembly.keptTasks (asm : Assembly) : Event → List VisaTask
  | .visaReply index _ => asm.tasks.eraseIdx index
  | _ => asm.tasks

namespace Assembly
variable {asm next : Assembly}
variable {link ingress : LinkId} {txnId : TxnId} {vacant : Option StreamId} {handle : TxnHandle}
  {findMatch} {event : Event} {response : NextHopResponse}

theorem linked_steady (asm : Assembly) (id : VisaId) (entry : ForwardingEntry) :
    Steady asm { asm with visaTable := asm.visaTable.linkForwardingEntry id entry } :=
  ⟨rfl, rfl, fun _ => rfl, fun _ _ _ found => found, .modify _ _ fun _ => rfl,
    asm.visaTable.modify_timeouts id fun _ => rfl⟩

theorem linked_routing (asm : Assembly) (id : VisaId) (entry : ForwardingEntry) :
    ({ asm with visaTable := asm.visaTable.linkForwardingEntry id entry } : Assembly).routing =
      asm.routing.link id entry := by
  simp only [routing, BackRefs.link, BackRefs.mk.injEq, true_and]
  funext other
  simp only [VisaTable.linkForwardingEntry, get_modify, update_apply]
  split
  · next same => simp only [same, map_map, comp_def, Visa.linkForwardingEntry]
  · rfl

theorem filled_routing (occupied : (asm.peerTable.get link).isSome) (key : StreamId) (pep : PftPep) {response} :
    ((asm.modifyPeer link fun peer => { peer with pft := peer.pft.insert key pep }).send link response).routing =
      asm.routing.put (link, key) pep := by
  simp only [routing, send, modifyPeer, BackRefs.put, BackRefs.mk.injEq, and_true]
  funext entry
  simp only [get_modify, update_apply, Prod.ext_iff]
  by_cases sameLink : entry.1 = link
  · obtain ⟨peer, found⟩ := isSome_iff_exists.mp occupied
    simp only [sameLink, if_true, true_and, found, map_some, bind_some, get_insert]
  · simp only [sameLink, if_false, false_and]

theorem bindReject_steady {reason} (rejected : asm.bindReject link txnId reason = .ok next) :
    Steady asm next ∧ next.routing = asm.routing := by
  have idle : Idle asm next := (bindReject_progress rejected).idle
  exact ⟨.of_idle idle, idle.toFrame.routes.routing⟩

theorem installRoute_cases {peerType key pep} (occupied : (asm.peerTable.get ingress).isSome)
    (installed : asm.installRoute ingress peerType txnId key pep = .ok next) :
    Steady asm next ∧ (next.routing = asm.routing ∨ (asm.routing.refs pep.visaId).isSome ∧
      (peerType.requests = true ∧ next.routing = (asm.routing.link pep.visaId (ingress, key)).put (ingress, key) pep ∨
        peerType.requests = false ∧ next.routing = asm.routing.link pep.visaId (ingress, key))) := by
  simp only [installRoute] at installed
  split at installed
  · obtain ⟨steady, same⟩ := bindReject_steady installed
    exact ⟨steady, .inl same⟩
  next visa found =>
  have valid : (asm.routing.refs pep.visaId).isSome := by simp only [routing, found, map_some, isSome_some]
  have linked := linked_steady asm pep.visaId (ingress, key)
  have routes := linked_routing asm pep.visaId (ingress, key)
  split at installed
  · next refused =>
    -- the peer gets no response, but the visa already lists the slot
    obtain ⟨steady, same⟩ := bindReject_steady installed
    refine ⟨linked.trans steady, .inr ⟨valid, .inr ⟨?_, same.trans routes⟩⟩⟩
    cases peerType with
    | node | adapter => cases refused
    | dock | unknown => rfl
  · next response sent =>
    cases installed
    refine ⟨linked.trans ⟨rfl, rfl, ?_, ?_, .refl _, rfl⟩, .inr ⟨valid, .inl ⟨?_, ?_⟩⟩⟩
    · intro link
      simp only [occupant, send, modifyPeer, get_modify]
      split
      · simp only [map_map, comp_def]
      · rfl
    · intro link txn state found
      simp only [bindAt, send, modifyPeer, get_modify] at found ⊢
      split at found
      · simpa only [bind_map, comp_def] using found
      · exact found
    · cases peerType with
      | node => rfl
      | adapter => rfl
      | dock => cases sent
      | unknown => cases sent
    · rw [← routes]
      apply filled_routing
      exact occupied

theorem requestedTetherGranted_cases {tether} (granted : asm.requestedTetherGranted ingress txnId tether vacant = .ok next) :
    Steady asm next ∧ (next.routing = asm.routing ∨ ∃ session linkType visaId egress handle key,
      asm.occupant ingress = some (session, linkType) ∧
      asm.bindAt ingress txnId = some (.awaitingNextHopBind visaId egress handle) ∧ vacant = some key ∧
      (asm.routing.refs visaId).isSome ∧
      ((linkType.peerType ingress).requests = true ∧ next.routing =
          (asm.routing.link visaId (ingress, key)).put (ingress, key) ⟨(egress, tether), visaId⟩ ∨
        (linkType.peerType ingress).requests = false ∧ next.routing = asm.routing.link visaId (ingress, key))) := by
  simp only [requestedTetherGranted] at granted
  split at granted
  · cases granted
    exact ⟨.of_idle (.refl _), .inl rfl⟩
  next peer occupied =>
  split at granted
  · next visaId egress handle waiting =>
    obtain ⟨closed, removed, rest⟩ := bind_ok.mp granted
    have idle : Idle asm closed := (removeBind_progress removed).idle
    have routes := idle.toFrame.routes.routing
    split at rest
    · obtain ⟨steady, same⟩ := bindReject_steady rest
      exact ⟨(Steady.of_idle idle).trans steady, .inl (same.trans routes)⟩
    next key =>
    have still : (closed.peerTable.get ingress).isSome := by
      have same := congrArg isSome (idle.peers ingress)
      rwa [isSome_map, isSome_map, occupied] at same
    obtain ⟨steady, effect⟩ := installRoute_cases still rest
    refine ⟨(Steady.of_idle idle).trans steady, ?_⟩
    rw [routes] at effect
    refine effect.imp_right fun done =>
      ⟨peer.session, peer.linkType, visaId, egress, handle, key, ?_, ?_, rfl, done⟩
    · simp only [occupant, occupied, map_some]
    · simp only [bindAt, occupied, bind_some, waiting]
  · cases granted
    exact ⟨.of_idle (.refl _), .inl rfl⟩

theorem checkOriginator_ok (checked : asm.checkOriginator link handle ingress txnId = .ok ())
    (present : (asm.peerTable.get ingress).isSome) :
    ∃ visaId, asm.bindAt ingress txnId = some (.awaitingNextHopBind visaId link handle) := by
  simp only [checkOriginator] at checked
  split at checked
  · next vacant =>
    rw [vacant] at present
    cases present
  next peer occupied =>
  split at checked
  · cases checked
  · next visaId _ _ waiting =>
    split at checked
    · next same =>
      obtain ⟨rfl, rfl⟩ := same
      exact ⟨visaId, by simp only [bindAt, occupied, bind_some, waiting]⟩
    · cases checked
  · cases checked

theorem resolve_cases {originator} (resolved : asm.resolveNextHopBindOriginator link handle = .ok (originator, next)) :
    Idle asm next ∧ ∀ ingress txnId, originator = .ok (ingress, txnId) →
      asm.noteAt link handle = some (ingress, txnId) ∧
      ((asm.peerTable.get ingress).isSome →
        ∃ visaId, asm.bindAt ingress txnId = some (.awaitingNextHopBind visaId link handle)) := by
  refine ⟨resolve_progress resolved, ?_⟩
  rintro ingress txnId rfl
  simp only [resolveNextHopBindOriginator] at resolved
  split at resolved
  · cases resolved
  next egressPeer occupied =>
  split at resolved
  · cases resolved
  next _ noted =>
  obtain ⟨_, checked, rest⟩ := bind_ok.mp resolved
  obtain ⟨_, _, done⟩ := bind_ok.mp rest
  cases done
  refine ⟨by simp only [noteAt, occupied, bind_some, noted], ?_⟩
  intro present
  have noting : Idle asm _ := .note asm link fun notes => notes.erase handle
  have still := congrArg isSome (noting.peers ingress)
  rw [isSome_map, isSome_map, present] at still
  obtain ⟨visaId, waiting⟩ := checkOriginator_ok checked still
  exact ⟨visaId, (noting.binds _ _ _ waiting).resolve_right fun new => new.2.2⟩

/-- The routes after an answer for a transaction: as they were, or with a slot linked and then
filled. A requestor that is neither a node nor an adapter gets a linked slot that stays empty. -/
def Answered (asm next : Assembly) (link : LinkId) (handle : TxnHandle) (vacant : Option StreamId) : Prop :=
  next.routing = asm.routing ∨ ∃ ingress linkType key pep, Completion asm link handle vacant ingress linkType key pep ∧
    ((linkType.peerType ingress).requests = true ∧
        next.routing = (asm.routing.link pep.visaId (ingress, key)).put (ingress, key) pep ∨
      (linkType.peerType ingress).requests = false ∧ next.routing = asm.routing.link pep.visaId (ingress, key))

theorem completeTether_cases (completed : asm.completeTether link handle response vacant = .ok next) :
    Steady asm next ∧ Answered asm next link handle vacant := by
  cases response
  all_goals
    obtain ⟨⟨originator, resolved⟩, resolving, rest⟩ := bind_ok.mp completed
    obtain ⟨idle, found⟩ := resolve_cases resolving
    have routes := idle.toFrame.routes.routing
    obtain problem | ⟨ingress, txnId⟩ := originator
    · cases rest
      exact ⟨.of_idle idle, .inl routes⟩
  case success tether =>
    obtain ⟨noted, waiting⟩ := found ingress txnId rfl
    obtain ⟨steady, effect⟩ := requestedTetherGranted_cases rest
    refine ⟨(Steady.of_idle idle).trans steady, ?_⟩
    rw [routes] at effect
    refine effect.imp_right ?_
    intro ⟨session, linkType, visaId, egress, txn, key, occupied, asked, offered, valid, outcome⟩
    rw [idle.toFrame.routes.occupant] at occupied
    have before := (idle.binds _ _ _ asked).resolve_right fun new => new.2.2
    have present : (asm.peerTable.get ingress).isSome := by
      have live := congrArg isSome occupied
      rwa [occupant, isSome_map] at live
    obtain ⟨expected, same⟩ := waiting present
    rw [before] at same
    cases same
    exact ⟨ingress, linkType, key, _, ⟨⟨txnId, noted, before⟩, ⟨session, occupied⟩, offered, valid, rfl⟩, outcome⟩
  case other reason =>
    obtain ⟨steady, same⟩ := bindReject_steady rest
    exact ⟨(Steady.of_idle idle).trans steady, .inl (same.trans routes)⟩

theorem handleNextHopResponse_cases (handled : asm.handleNextHopResponse link txnId response vacant = .ok next) :
    Steady asm next ∧ (next.routing = asm.routing ∨ ∃ peer, asm.peerTable.get link = some peer ∧
      Answered asm next link ⟨link, peer.session, txnId⟩ vacant) := by
  simp only [handleNextHopResponse] at handled
  split at handled
  · cases handled
    exact ⟨.of_idle (.refl _), .inl rfl⟩
  next peer occupied =>
  split at handled
  · cases handled
    exact ⟨.of_idle (.refl _), .inl rfl⟩
  next txnMgr counted =>
  obtain ⟨answered, work, dropped⟩ := bind_ok.mp handled
  have opening := Frame.setMgr asm link txnMgr
  have closing := updateTxn_frame dropped
  obtain ⟨steady, effect⟩ := completeTether_cases work
  refine ⟨(Steady.of_idle (.of_frame opening)).trans (steady.trans (.of_idle (.of_frame closing))), ?_⟩
  simp only [Answered, ← closing.hideBinds.routes.routing, opening.hideBinds.routes.routing] at effect
  refine effect.imp_right ?_
  rintro ⟨ingress, linkType, key, pep, completion, outcome⟩
  exact ⟨peer, occupied, .inr ⟨ingress, linkType, key, pep, completion.of_frame opening, outcome⟩⟩

/-- Who occupies a link after an event. -/
def occupantAfter (asm : Assembly) (event : Event) (link : LinkId) : Option (Nat × LinkType) :=
  match event with
  | .addPeer added linkType => if link = added then some (asm.sessions, linkType) else asm.occupant link
  | .dropPeer dropped => if link = dropped then none else asm.occupant link
  | _ => asm.occupant link

/-- What each event does. -/
inductive Turns (findMatch : List (VisaId × FiveTuple) → FiveTuple → Option VisaId) (asm : Assembly) :
    Event → Assembly → Prop where
  | answers {link : LinkId} {txnId response vacant next} (steady : Steady asm next)
      (routes : next.routing = asm.routing ∨ ∃ peer, asm.peerTable.get link = some peer ∧
        Answered asm next link ⟨link, peer.session, txnId⟩ vacant) :
      Turns findMatch asm (.nextHopResponse link txnId response vacant) next
  | unbinds (link : LinkId) (streamId : StreamId) :
      Turns findMatch asm (.unbindIndication link streamId) (asm.handleUnbindIndication link streamId)
  | revokes (id : VisaId) : Turns findMatch asm (.visaRevocation id) (asm.handleRevocation id)
  | expires (currentTime : Nat) : Turns findMatch asm (.expirations currentTime) (asm.handleExpirations currentTime)
  | adds (link : LinkId) (linkType : LinkType) : Turns findMatch asm (.addPeer link linkType) (asm.addPeer link linkType)
  | drops {link : LinkId} {next} (dropped : asm.dropPeer link = .ok next) : Turns findMatch asm (.dropPeer link) next
  | moves (link : LinkId) (addresses : List IpAddress) (aaaAddress : Option IpAddress) :
      Turns findMatch asm (.setAddresses link addresses aaaAddress)
        (asm.modifyPeer link fun peer => { peer with addresses, aaaAddress })
  | works {event : Event} {next tasks link txnId pending}
      (still : asm.occupantAfter event = asm.occupant) (brings : event.visa asm = none)
      (started : tasks = asm.keptTasks event ∨ ∃ task, Asks asm event task ∧ tasks = asm.tasks ++ [task] ∧
        ∀ visaId egress handle, ¬ pending (.awaitingNextHopBind visaId egress handle))
      (awaits : ∀ visaId egress handle, pending (.awaitingNextHopBind visaId egress handle) →
        Awaits findMatch asm event link txnId visaId)
      (progress : Progress link txnId pending { asm with tasks } next) : Turns findMatch asm event next
  | enters {event : Event} {visa inserted entered next link txnId pending}
      (still : asm.occupantAfter event = asm.occupant) (brings : event.visa asm = some visa)
      (inserted : Assembly.insertVisa { asm with tasks := asm.keptTasks event } visa = .ok (inserted, entered))
      (awaits : ∀ visaId egress handle, pending (.awaitingNextHopBind visaId egress handle) →
        Awaits findMatch asm event link txnId visaId)
      (progress : Progress link txnId pending entered next) : Turns findMatch asm event next

theorem Turns.idle (still : asm.occupantAfter event = asm.occupant) (brings : event.visa asm = none)
    (idle : Idle { asm with tasks := asm.keptTasks event } next) : Turns findMatch asm event next :=
  .works still brings (.inl rfl) (fun _ _ _ => False.elim) idle

theorem handleBindActorAddressRequest_turns {packetBody}
    (handled : asm.handleBindActorAddressRequest findMatch link txnId packetBody = .ok next) :
    Turns findMatch asm (.bindActorAddressRequest link txnId packetBody) next := by
  have idle idle : Turns findMatch asm (.bindActorAddressRequest link txnId packetBody) next :=
    .idle rfl rfl idle
  simp only [handleBindActorAddressRequest] at handled
  split at handled
  · obtain ⟨flow, classified, rest⟩ := bind_ok.mp handled
    cases flow with
    | none => exact idle (bindReject_progress rest).idle
    | some flow =>
      simp only [bindFlow] at rest
      split at rest
      · cases rest
        exact idle (.refl _)
      next peer occupied =>
      split at rest
      · exact idle (bindReject_progress rest).idle
      next owner =>
      have owns : peer.owns flow.srcAddress = true := by simpa using owner
      have asking (requested : asm.requestVisa link txnId peer flow = .ok next) :
          Turns findMatch asm (.bindActorAddressRequest link txnId packetBody) next :=
        .works rfl rfl (.inr ⟨_, .flow occupied classified owns, rfl, by simp⟩) (by simp) (insertBind_progress requested)
      split at rest
      · exact asking rest
      next matched found =>
      split at rest
      · refine .works rfl rfl (.inl rfl) ?_ (requestedVisaGranted_progress rest)
        rintro _ _ _ ⟨_, _, ⟨⟩⟩
        exact .flow occupied classified owns found
      · exact asking rest
      · exact idle (bindReject_progress rest).idle
      · cases rest
  · cases handled
    exact idle (.refl _)

theorem handleStreamIdRequest_turns {visaId} (handled : asm.handleStreamIdRequest link txnId visaId = .ok next) :
    Turns findMatch asm (.streamIdRequest link txnId visaId) next := by
  simp only [handleStreamIdRequest] at handled
  split at handled
  · next node =>
    simp only [requestStream] at handled
    split at handled
    · cases handled
      exact .idle rfl rfl (.refl _)
    next peer occupied =>
    have isNode : peer.peerType link = .node := by simpa [occupied] using node
    split at handled
    · refine .works rfl rfl (.inl rfl) ?_ (requestedVisaGranted_progress handled)
      rintro _ _ _ ⟨_, _, ⟨⟩⟩
      exact .stream occupied isNode
    · exact .works rfl rfl (.inr ⟨_, .stream occupied isNode, rfl, by simp⟩) (by simp) (insertBind_progress handled)
  · cases handled
    exact .idle rfl rfl (.refl _)

theorem grantInserted_cases {visa} (granted : asm.grantInserted link txnId visa = .ok next) :
    ∃ entered, asm.insertVisa visa = .ok (.ok visa.issuerId, entered) ∧
      Progress link txnId (fun state => ∃ egress handle, state = .awaitingNextHopBind visa.issuerId egress handle)
        entered next := by
  obtain ⟨⟨inserted, entered⟩, inserting, rest⟩ := bind_ok.mp granted
  rcases insertVisa_cases inserting with ⟨rfl, addr, rfl⟩ | ⟨visas, _, rfl, _⟩
  · cases rest
  · exact ⟨entered, inserting, requestedVisaGranted_progress rest⟩

/-- A reply ends a task without effect on visas, or it brings a visa that is entered and
used for the task's request. -/
theorem handleVisaReply_turns {index reply} (handled : asm.handleVisaReply index reply = .ok next) :
    Turns findMatch asm (.visaReply index reply) next := by
  cases waiting : asm.tasks[index]? with
  | none =>
    simp only [handleVisaReply, waiting] at handled
    cases handled
    refine .idle rfl (by rw [Event.visa, waiting]; rfl) ?_
    rw [keptTasks, List.eraseIdx_of_length_le (by simpa using waiting)]
    exact .refl _
  | some task =>
    have visa : (Event.visaReply index reply).visa asm = reply.brings task.query := by rw [Event.visa, waiting]; rfl
    have idle (none : reply.brings task.query = none) (idle : Idle { asm with tasks := asm.tasks.eraseIdx index } next) :
        Turns findMatch asm (.visaReply index reply) next := .idle rfl (visa.trans none) idle
    have enters {given : VsapiVisa} (brings : reply.brings task.query = some given)
        (granted : grantInserted { asm with tasks := asm.tasks.eraseIdx index } task.ingressLinkId task.txnId given = .ok next) :
        Turns findMatch asm (.visaReply index reply) next := by
      obtain ⟨entered, inserted, progress⟩ := grantInserted_cases granted
      refine .enters rfl (visa.trans brings) inserted ?_ progress
      rintro _ _ _ ⟨_, _, ⟨⟩⟩
      exact .reply waiting brings
    obtain ⟨link, txnId, query, session⟩ := task
    simp only [handleVisaReply, waiting] at handled
    cases query with
    | request =>
      cases reply with
      | decision outcome =>
        match outcome with
        | some (.allowed visa) => exact enters rfl handled
        | some .denied | none => exact idle rfl (bindReject_progress handled).idle
      | visas =>
        cases handled
        exact idle (by simp only [VisaReply.brings]) (.refl _)
    | byId id =>
      cases reply with
      | decision =>
        cases handled
        exact idle (by simp only [VisaReply.brings]) (.refl _)
      | visas found =>
        cases found with
        | none => exact idle rfl (bindReject_progress handled).idle
        | some visas =>
          simp only [visaPushRequestTask] at handled
          split at handled
          · next chosen => exact enters chosen handled
          · next missing => exact idle missing (bindReject_progress handled).idle

theorem step_turns (stepped : asm.step findMatch event = .ok next) : Turns findMatch asm event next := by
  cases event with
  | bindActorAddressRequest => exact handleBindActorAddressRequest_turns stepped
  | streamIdRequest => exact handleStreamIdRequest_turns stepped
  | visaReply => exact handleVisaReply_turns stepped
  | nextHopResponse =>
    obtain ⟨steady, routes⟩ := handleNextHopResponse_cases stepped
    exact .answers steady routes
  | visaGrant visa =>
    obtain ⟨⟨inserted, entered⟩, inserting, done⟩ := bind_ok.mp stepped
    cases done
    have progress : Progress 0 0 (fun _ => False) next next := .refl next
    exact .enters rfl rfl inserting nofun progress
  | dropPeer => exact .drops stepped
  | unbindIndication | visaRevocation | expirations | addPeer | setAddresses =>
    cases stepped
    constructor

theorem handleUnbindIndication_cases (asm : Assembly) (link : LinkId) (streamId : StreamId) :
    asm.handleUnbindIndication link streamId = asm ∨ ∃ pep, asm.routing.slot (link, streamId) = some pep ∧
      Swept asm (asm.handleUnbindIndication link streamId) ∧
      (asm.handleUnbindIndication link streamId).routing =
        (asm.routing.freeWhere (· = (link, streamId))).unlink pep.visaId pep.nextHop := by
  have unbinding := unbindStream_cases asm link streamId
  simp only [handleUnbindIndication]
  split
  · exact .inl rfl
  split
  · exact unbinding
  · split
    · exact unbinding
    · exact .inl rfl
  · exact .inl rfl
  · exact .inl rfl

/-- What an event can do to the routes. -/
inductive RouteChange (asm : Assembly) : Event → BackRefs ForwardingEntry PftPep VisaId → Prop where
  | kept {event : Event} : RouteChange asm event asm.routing
  | entered {event : Event} {visa} (brings : event.visa asm = some visa) :
      RouteChange asm event (asm.routing.renew visa.issuerId)
  | completed {link : LinkId} {txnId response vacant peer}
      {ingress linkType key pep}
      (occupied : asm.peerTable.get link = some peer)
      (completion : Completion asm link ⟨link, peer.session, txnId⟩ vacant ingress linkType key pep)
      (requests : (linkType.peerType ingress).requests = true) :
      RouteChange asm (.nextHopResponse link txnId response vacant)
        ((asm.routing.link pep.visaId (ingress, key)).put (ingress, key) pep)
  | refused {link : LinkId} {txnId response vacant peer}
      {ingress linkType key pep}
      (occupied : asm.peerTable.get link = some peer)
      (completion : Completion asm link ⟨link, peer.session, txnId⟩ vacant ingress linkType key pep)
      (requests : (linkType.peerType ingress).requests = false) :
      RouteChange asm (.nextHopResponse link txnId response vacant) (asm.routing.link pep.visaId (ingress, key))
  | unbound {link : LinkId} {streamId pep} (held : asm.routing.slot (link, streamId) = some pep) :
      RouteChange asm (.unbindIndication link streamId)
        ((asm.routing.freeWhere (· = (link, streamId))).unlink pep.visaId pep.nextHop)
  | revoked (id : VisaId) : RouteChange asm (.visaRevocation id) (asm.routing.revoke id)
  | expired (currentTime : Nat) : RouteChange asm (.expirations currentTime)
      (((asm.visaTable.timeoutQueue.popExpired currentTime).1.map VisaTimeout.id).foldl BackRefs.revoke asm.routing)
  | dropped (link : LinkId) : RouteChange asm (.dropPeer link)
      (((asm.toRevoke link).foldl BackRefs.revoke asm.routing).freeWhere (·.1 = link))

theorem setAddresses_frame (asm : Assembly) (link : LinkId) (addresses : List IpAddress) (aaaAddress) :
    Frame routes asm (asm.modifyPeer link fun peer => { peer with addresses, aaaAddress }) :=
  .modifyPeer _ _ fun _ => rfl

theorem step_routing (possible : event.Possible asm) (stepped : asm.step findMatch event = .ok next) :
    RouteChange asm event next.routing := by
  cases step_turns stepped with
  | works _ _ _ _ progress =>
    rw [progress.toFrame.routes.routing]
    exact .kept
  | enters _ brings inserted _ progress =>
    rw [progress.toFrame.routes.routing]
    rcases routing_insertVisa inserted with same | renewed
    · rw [same]
      exact .kept
    · rw [renewed]
      exact .entered brings
  | answers _ routes =>
    obtain same | ⟨peer, occupied, same | ⟨ingress, linkType, key, pep, completion, ⟨requests, same⟩ | ⟨refused, same⟩⟩⟩ :=
      routes <;> rw [same]
    · exact .kept
    · exact .kept
    · exact .completed occupied completion requests
    · exact .refused occupied completion refused
  | unbinds link streamId =>
    rcases handleUnbindIndication_cases asm link streamId with same | ⟨pep, held, _, routes⟩
    · rw [same]
      exact .kept
    · rw [routes]
      exact .unbound held
  | revokes id =>
    rw [routing_handleRevocation]
    exact .revoked id
  | expires currentTime =>
    rw [routing_handleExpirations]
    exact .expired currentTime
  | adds link linkType =>
    rw [addPeer_routing possible.2.1 linkType]
    exact .kept
  | drops dropped =>
    rw [dropPeer_routing dropped]
    exact .dropped _
  | moves link addresses aaaAddress =>
    rw [(setAddresses_frame asm link addresses aaaAddress).routing]
    exact .kept

theorem RouteChange.slot {routes} (change : RouteChange asm event routes) {entry pep} (held : routes.slot entry = some pep) :
    asm.routing.slot entry = some pep ∨ ∃ link handle vacant linkType, (asm.peerTable.get link).isSome ∧
      Completion asm link handle vacant entry.1 linkType entry.2 pep := by
  cases change with
  | kept | entered brings | refused occupied completion requests => exact .inl held
  | @completed link txnId response vacant peer ingress linkType key pep occupied completion requests =>
    simp only [BackRefs.put, BackRefs.link, update_apply] at held
    split at held
    · next same =>
      cases held
      subst same
      exact .inr ⟨link, _, vacant, linkType, by rw [occupied]; rfl, completion⟩
    · exact .inl held
  | unbound found =>
    simp only [BackRefs.unlink, BackRefs.freeWhere] at held
    split at held
    · cases held
    · exact .inl held
  | revoked id => exact .inl (BackRefs.slot_revoke.mp held).1
  | expired currentTime => exact .inl (BackRefs.slot_revokeAll.mp held).1
  | dropped link =>
    simp only [BackRefs.freeWhere] at held
    split at held
    · cases held
    · exact .inl (BackRefs.slot_revokeAll.mp held).1

theorem occupant_insertVisa {visa inserted} (returned : asm.insertVisa visa = .ok (inserted, next)) (link : LinkId) :
    next.occupant link = asm.occupant link := by
  rcases insertVisa_cases returned with ⟨rfl, _⟩ | ⟨visas, _, _, rfl⟩ <;> rfl

theorem step_occupant (stepped : asm.step findMatch event = .ok next) (link : LinkId) :
    next.occupant link = asm.occupantAfter event link := by
  cases step_turns stepped with
  | works still _ _ _ progress =>
    rw [still]
    exact progress.toFrame.routes.occupant link
  | enters still _ inserted _ progress =>
    rw [still]
    exact (progress.toFrame.routes.occupant link).trans (occupant_insertVisa inserted link)
  | answers steady => exact steady.occupant link
  | unbinds ingress streamId =>
    rcases handleUnbindIndication_cases asm ingress streamId with same | ⟨pep, _, swept, _⟩
    · exact congrArg (occupant · link) same
    · exact swept.occupant link
  | revokes id => exact (handleRevocation_swept asm id).occupant link
  | expires currentTime => exact (handleExpirations_swept asm currentTime).occupant link
  | adds added linkType => exact addPeer_occupant asm added linkType link
  | drops dropped => exact dropPeer_occupant dropped link
  | moves changed addresses aaaAddress => exact (setAddresses_frame asm changed addresses aaaAddress).occupant link

end Assembly

/-! A node with two adapters, one of which asks for a flow to the other. -/

namespace Sample

def firstMatch (pairs : List (VisaId × FiveTuple)) (flow : FiveTuple) : Option VisaId :=
  (pairs.find? fun pair => (Ip5TupleTc.mk pair.2).classify5t flow).map Prod.fst

def source : IpAddress := .newFromV4 #[10, 0, 0, 1].toVector
def dest : IpAddress := .newFromV4 #[10, 0, 0, 2].toVector
def nodeAddr : IpAddress := .newFromV4 #v[10, 0, 0, 8]
def visaServiceAddr : IpAddress := .newFromV4 #[10, 0, 0, 9].toVector

def ownVisas : VisaTable :=
  match VisaTable.newWithVsVisas nodeAddr visaServiceAddr 5002 86400000 with
  | .ok visas => visas
  | .error _ => .new

theorem ownVisas_created : VisaTable.newWithVsVisas nodeAddr visaServiceAddr 5002 86400000 = .ok ownVisas := rfl

def node : Assembly := .start [nodeAddr] ownVisas

/-- A UDP packet from port 5000. -/
def packet (port : UInt8) : List UInt8 :=
  [0x45, 0, 0, 28, 0, 0, 0x40, 0, 64, 17, 38, 207, 10, 0, 0, 1, 10, 0, 0, 2] ++ [0x13, 0x88, 0, port, 0, 8, 0, 0]

def visa (id : VisaId) (port : UInt16) : VsapiVisa where
  issuerId := id
  expires := 3600000
  visaType := .full
  dockPep := some ⟨⟨source, dest, .ipv4, Datapath.IpNumber.udp, 5000, port⟩, ⟨[], []⟩⟩
  fwdPep := none

def adapters : List Event :=
  [.addPeer 3 .nodeToAdapter, .setAddresses 3 [source] none, .addPeer 4 .nodeToAdapter, .setAddresses 4 [dest] none]

def request : Event := .bindActorAddressRequest 3 9 (packet 53)
def allowed : Event := .visaReply 0 (.decision (some (.allowed (visa minVisaId 53))))
def answer : Event := .nextHopResponse 4 0 (.success 7) (some 1)

/-- The second adapter answers, and the first has its route. -/
def bound : List Event := adapters ++ [request, allowed, answer]

def route : PftPep := ⟨(4, 7), minVisaId⟩

end Sample
end ZprCore.Node
