import ZprCore.Proofs.Effects

/-! Whom a route belongs to. An adapter gets a route under a visa because it asked for a flow
from an address of its own. The request and the route are two events apart, and in between
only the link id and the transaction id stand for the adapter. -/

namespace ZprCore.Node
open Option Sample VisaTable Assembly
open Datapath (IpAddress FiveTuple Ip5TupleTc)

/-- The visa is for the flow. -/
def VsapiVisa.permits (visa : VsapiVisa) (flow : FiveTuple) : Bool :=
  visa.dockPep.any fun dockPep => (Ip5TupleTc.mk dockPep.fiveTuple).classify5t flow

/-- The lookup table finds only entries that are for the flow. -/
def SoundLookup (findMatch : List (VisaId × FiveTuple) → FiveTuple → Option VisaId) : Prop :=
  ∀ pairs flow id, findMatch pairs flow = some id →
    ∃ tuple, (id, tuple) ∈ pairs ∧ (Ip5TupleTc.mk tuple).classify5t flow = true

/-- The steps a node has taken, each with the state it was taken in. -/
abbrev Past := List (Assembly × Event)

namespace Past

/-- The session has issued a bind request for the flow on the link, and it owned the flow's
source address when the request was checked. -/
def Issued (past : Past) (link : LinkId) (session : Nat) (flow : FiveTuple) : Prop :=
  ∃ asm txnId packetBody peer, (asm, .bindActorAddressRequest link txnId packetBody) ∈ past ∧
    asm.peerTable.get link = some peer ∧ peer.session = session ∧
    Assembly.boundFlow packetBody = .ok (some flow) ∧ peer.owns flow.srcAddress = true

section
variable (own : List VsapiVisa) (past : Past)

/-- The node has had the visa from the start, or from the visa service. -/
def Received (visa : VsapiVisa) : Prop :=
  visa ∈ own ∨ ∃ step ∈ past, step.2.visa step.1 = some visa

/-- The session has issued a bind request of its own that the visa is for. -/
def Entitled (link : LinkId) (session : Nat) (visaId : VisaId) : Prop :=
  ∃ flow visa, past.Issued link session flow ∧ Received own past visa ∧ visa.issuerId = visaId ∧
    visa.permits flow = true

/-- The flows of the visas the node has had. -/
def Knows (id : VisaId) (flow : FiveTuple) : Prop :=
  ∃ visa dockPep, Received own past visa ∧ visa.issuerId = id ∧ visa.dockPep = some dockPep ∧ dockPep.fiveTuple = flow

end

variable {own : List VsapiVisa} {past : Past} {link : LinkId} {session : Nat} {flow : FiveTuple} {visa : VsapiVisa}
  {id : VisaId} (step : Assembly × Event)

theorem Issued.later (issued : past.Issued link session flow) : Issued (step :: past) link session flow := by
  obtain ⟨asm, txnId, packetBody, peer, happened, rest⟩ := issued
  exact ⟨asm, txnId, packetBody, peer, .tail _ happened, rest⟩

theorem Received.later (received : Received own past visa) : Received own (step :: past) visa :=
  received.imp_right fun ⟨earlier, happened, brought⟩ => ⟨earlier, .tail _ happened, brought⟩

theorem Entitled.later (entitled : Entitled own past link session id) : Entitled own (step :: past) link session id := by
  obtain ⟨flow, visa, issued, received, rest⟩ := entitled
  exact ⟨flow, visa, issued.later step, received.later step, rest⟩

theorem Knows.later (known : Knows own past id flow) : Knows own (step :: past) id flow := by
  obtain ⟨visa, dockPep, received, rest⟩ := known
  exact ⟨visa, dockPep, received.later step, rest⟩

end Past

namespace Assembly

/-- If an adapter occupies the link, it is entitled to the visa. -/
def Holds (asm : Assembly) (own : List VsapiVisa) (past : Past) (link : LinkId) (visaId : VisaId) : Prop :=
  ∀ session linkType, asm.occupant link = some (session, linkType) → linkType.peerType link = .adapter →
    past.Entitled own link session visaId

end Assembly

/-- A task asks for a flow that its session was checked for, or for a visa by its id, which
only nodes do. -/
def VisaTask.Justified (task : VisaTask) (past : Past) (asm : Assembly) : Prop :=
  match task.query with
  | .request req => past.Issued task.ingressLinkId task.session req.fiveTuple
  | .byId _ => ∀ linkType, asm.occupant task.ingressLinkId = some (task.session, linkType) →
    linkType.peerType task.ingressLinkId = .node

/-- Tasks, bind requests and routes all go back to requests of the occupants of their links. -/
structure Provenance (own : List VsapiVisa) (past : Past) (asm : Assembly) : Prop where
  occupants : ∀ link session linkType, asm.occupant link = some (session, linkType) → session < asm.sessions
  sessions : ∀ task ∈ asm.tasks, task.session < asm.sessions
  tasks : ∀ task ∈ asm.tasks, task.Justified past asm
  binds : ∀ link txnId visaId egress handle,
    asm.bindAt link txnId = some (.awaitingNextHopBind visaId egress handle) → asm.Holds own past link visaId
  routes : ∀ entry pep, asm.routeAt entry = some pep → asm.Holds own past entry.1 pep.visaId
  visas : asm.visaTable.Known (past.Knows own)

/-- The visa is one the query may be answered with. -/
def VisaQuery.admits (visa : VsapiVisa) : VisaQuery → Bool
  | .request req => visa.permits req.fiveTuple
  | .byId _ => true

/-- The visa service allows a request only with a visa that is for its flow. -/
def Event.Fits (asm : Assembly) : Event → Prop
  | .visaReply index reply => ∀ task ∈ asm.tasks[index]?, ∀ visa ∈ reply.brings task.query,
    task.query.admits visa = true
  | _ => True

/-- A reply of the visa service arrives while the link of its task is vacant, is not an
adapter's, or still has the occupant that asked. -/
def Event.KeepsOwner (asm : Assembly) : Event → Prop
  | .visaReply index _ => ∀ task ∈ asm.tasks[index]?, ∀ peer ∈ asm.peerTable.get task.ingressLinkId,
    peer.peerType task.ingressLinkId = .adapter → peer.session = task.session
  | _ => True

namespace Assembly
variable {findMatch} {asm next : Assembly} {event : Event}
  {own : List VsapiVisa} {past : Past} {link : LinkId}

theorem Holds.later {visaId} (holds : asm.Holds own past link visaId) (possible : event.Possible asm)
    (stepped : asm.step findMatch event = .ok next) (live : (asm.peerTable.get link).isSome) :
    next.Holds own ((asm, event) :: past) link visaId := by
  intro session linkType occupied adapter
  rcases step_occupant_cases stepped occupied with old | ⟨rfl, _⟩
  · exact (holds session linkType old adapter).later _
  · rw [possible.2.1] at live
    cases live

theorem occupant_of_peer {peer} (found : asm.peerTable.get link = some peer) :
    asm.occupant link = some (peer.session, peer.linkType) := by
  rw [occupant, found, map_some]

theorem justified_step (stepped : asm.step findMatch event = .ok next) (provenance : Provenance own past asm) {task}
    (running : task ∈ next.tasks) : task.session < asm.sessions ∧ task.Justified ((asm, event) :: past) next := by
  rcases (step_effect stepped).running task running with old | asks
  · have fresh := provenance.sessions task old
    have justified := provenance.tasks task old
    refine ⟨fresh, ?_⟩
    simp only [VisaTask.Justified] at justified ⊢
    split at justified
    · exact justified.later _
    intro linkType occupied
    rcases step_occupant_cases stepped occupied with before | ⟨_, new⟩
    · exact justified linkType before
    · omega
  · cases asks with
    | @flow link txnId packetBody peer flow flags occupied classified owns =>
      refine ⟨provenance.occupants _ _ _ (occupant_of_peer occupied), ?_⟩
      exact ⟨asm, txnId, packetBody, peer, .head _, occupied, rfl, classified, owns⟩
    | @stream link txnId visaId peer occupied node =>
      refine ⟨provenance.occupants _ _ _ (occupant_of_peer occupied), ?_⟩
      intro linkType live
      rcases step_occupant_cases stepped live with before | ⟨impossible, _⟩
      · rw [occupant_of_peer occupied] at before
        cases before
        exact node
      · cases impossible

theorem permits_of_carried {visa : VsapiVisa} {dockPep flow} (carried : visa.dockPep = some dockPep)
    (classified : (Ip5TupleTc.mk dockPep.fiveTuple).classify5t flow = true) : visa.permits flow = true := by
  rw [VsapiVisa.permits, carried, any_some, classified]

theorem awaits_holds (sound : SoundLookup findMatch) (fits : event.Fits asm) (keeps : event.KeepsOwner asm)
    (stepped : asm.step findMatch event = .ok next) (provenance : Provenance own past asm) {txnId : TxnId} {visaId}
    (awaits : Awaits findMatch asm event link txnId visaId) : next.Holds own ((asm, event) :: past) link visaId := by
  intro session linkType occupied adapter
  have before : asm.occupant link = some (session, linkType) := by
    rcases step_occupant_cases stepped occupied with before | ⟨rfl, _⟩
    · exact before
    · cases awaits
  cases awaits with
  | @flow _ txnId packetBody peer flow _ found classified owns matched =>
    rw [occupant_of_peer found] at before
    cases before
    obtain ⟨tuple, listed, fitting⟩ := sound _ _ _ matched
    obtain ⟨visa, dockPep, received, named, carried, rfl⟩ := provenance.visas.lookups _ _ listed
    refine ⟨flow, visa, ?_, received.later _, named, permits_of_carried carried fitting⟩
    exact ⟨asm, txnId, packetBody, peer, .head _, found, rfl, classified, owns⟩
  | @stream _ txnId _ peer found node =>
    rw [occupant_of_peer found] at before
    cases before
    rw [← PeerState.peerType, node] at adapter
    cases adapter
  | @reply index reply task visa waiting brings =>
    obtain ⟨peer, found, same⟩ := map_eq_some_iff.mp before
    cases same
    have asked := keeps task waiting peer found adapter
    have justified := provenance.tasks task (List.mem_of_getElem? waiting)
    have fitting := fits task waiting visa brings
    simp only [VisaTask.Justified] at justified
    split at justified
    · next req wanted =>
      rw [wanted] at fitting
      refine ⟨req.fiveTuple, visa, asked ▸ justified.later _, .inr ⟨_, .head _, ?_⟩, rfl, fitting⟩
      simp only [Event.visa, waiting, bind_some, brings]
    · -- the visa was asked for by its id, so the link was a node's
      rw [← asked] at justified
      rw [justified _ before] at adapter
      cases adapter

theorem provenance_step (sound : SoundLookup findMatch) (possible : event.Possible asm) (fits : event.Fits asm)
    (keeps : event.KeepsOwner asm) (stepped : asm.step findMatch event = .ok next)
    (provenance : Provenance own past asm) : Provenance own ((asm, event) :: past) next := by
  have effect := step_effect stepped
  refine ⟨?_, ?_, ?_, ?_, ?_, ?_⟩
  · intro link session linkType occupied
    rcases step_occupant_cases stepped occupied with before | ⟨rfl, rfl⟩
    · exact Nat.lt_of_lt_of_le (provenance.occupants _ _ _ before) effect.sessions
    · cases stepped
      exact Nat.lt_succ_self _
  · intro task running
    exact Nat.lt_of_lt_of_le (justified_step stepped provenance running).1 effect.sessions
  · intro task running
    exact (justified_step stepped provenance running).2
  · intro link txnId visaId egress handle awaiting
    rcases effect.binds link txnId visaId egress handle awaiting with old | awaits
    · exact (provenance.binds _ _ _ _ _ old).later possible stepped (occupied_of_bind old)
    · exact awaits_holds sound fits keeps stepped provenance awaits
  · intro entry pep held
    rcases (step_routing possible stepped).slot held with old | ⟨link, handle, vacant, linkType, _, completion⟩
    · exact (provenance.routes entry pep old).later possible stepped (occupied_of_route old)
    · obtain ⟨txnId, _, waiting⟩ := completion.origin
      exact (provenance.binds _ _ _ _ _ waiting).later possible stepped (occupied_of_bind waiting)
  · refine effect.visas _ (provenance.visas.mono fun id flow known => known.later _) ?_
    intro visa dockPep brought carried
    exact ⟨visa, dockPep, .inr ⟨_, .head _, brought⟩, rfl, carried, rfl⟩

variable {addrs : List IpAddress} {nodeAddr vsAddr : IpAddress} {vsPort : UInt16} {expires : Nat} {visas : VisaTable}

section
variable (created : newWithVsVisas nodeAddr vsAddr vsPort expires = .ok visas)
include created

theorem newWithVsVisas_known {known}
    (own : ∀ visa ∈ [node2vs nodeAddr vsAddr vsPort expires, vs2node nodeAddr vsAddr vsPort expires],
      ∀ dockPep, visa.dockPep = some dockPep → known visa.issuerId dockPep.fiveTuple) : visas.Known known := by
  obtain ⟨⟨_, one⟩, first, rest⟩ := Panic.bind_ok.mp created
  obtain ⟨⟨_, two⟩, second, done⟩ := Panic.bind_ok.mp rest
  cases done
  have empty : new.Known known := by
    refine ⟨?_, fun _ _ => nofun⟩
    intro id visa stored
    rw [new, Table.get_empty] at stored
    cases stored
  have both := (empty.insertVisa first (own _ (.head _))).insertVisa second (own _ (.tail _ (.head _)))
  exact both.of_grants (.rebuild two)

theorem start_provenance :
    Provenance [node2vs nodeAddr vsAddr vsPort expires, vs2node nodeAddr vsAddr vsPort expires] []
      (start addrs visas) := by
  refine ⟨?_, fun _ => nofun, fun _ => nofun, ?_, ?_, ?_⟩
  · intro link session linkType occupied
    rw [start, addPeer_occupant, addPeer_occupant] at occupied
    split at occupied
    · cases occupied
      exact Nat.lt_succ_self _
    split at occupied
    · cases occupied
      exact Nat.zero_lt_succ _
    · rw [occupant, Table.get_empty] at occupied
      cases occupied
  · intro link txnId visaId egress handle awaiting
    rw [start, bindAt_addPeer, bindAt_addPeer, bindAt, Table.get_empty] at awaiting
    split at awaiting
    · cases awaiting
    split at awaiting <;> cases awaiting
  · intro entry pep held
    have empty := start_slot addrs visas entry
    rw [show (start addrs visas).routing.slot entry = some pep from held] at empty
    cases empty
  · refine newWithVsVisas_known created ?_
    intro visa own dockPep carried
    exact ⟨visa, dockPep, .inl own, rfl, carried, rfl⟩

end

/-- As long as replies of the visa service do not outlive the adapters that they are for, an
adapter has a route under a visa only if it has itself asked for a flow that the visa is for,
from an address it owned when it asked. -/
theorem adapter_routes_entitled (sound : SoundLookup findMatch)
    (created : VisaTable.newWithVsVisas nodeAddr vsAddr vsPort expires = .ok visas) {final : Assembly}
    (trace : Runs.Trace (Assembly.step findMatch)
      (fun asm event => event.Possible asm ∧ event.Fits asm ∧ event.KeepsOwner asm) (Assembly.start addrs visas) past final)
    {link : LinkId} {session : Nat} {linkType : LinkType} (occupied : final.occupant link = some (session, linkType))
    (adapter : linkType.peerType link = .adapter) {streamId : StreamId} {pep : PftPep}
    (held : final.routeAt (link, streamId) = some pep) :
    past.Entitled [VisaTable.node2vs nodeAddr vsAddr vsPort expires, VisaTable.vs2node nodeAddr vsAddr vsPort expires]
      link session pep.visaId := by
  have provenance := trace.invariant (Provenance _) (fun past asm event next allowed provenance stepped =>
    provenance_step sound allowed.1 allowed.2.1 allowed.2.2 stepped provenance) (start_provenance created)
  exact provenance.routes _ pep held session linkType occupied adapter

end Assembly

instance (asm : Assembly) (event : Event) : Decidable (event.Fits asm) := by
  induction event using Event.casesOn <;> dsimp only [Event.Fits] <;> infer_instance

instance (asm : Assembly) (event : Event) : Decidable (event.KeepsOwner asm) := by
  induction event using Event.casesOn <;> dsimp only [Event.KeepsOwner] <;> infer_instance

/-- The session that issues a bind request. -/
def Event.requestor (asm : Assembly) : Event → Option Nat
  | .bindActorAddressRequest link _ _ => (asm.peerTable.get link).map PeerState.session
  | _ => none

theorem Past.Issued.requestor {past : Past} {link session flow} (issued : past.Issued link session flow) :
    ∃ step ∈ past, step.2.requestor step.1 = some session := by
  obtain ⟨asm, txnId, packetBody, peer, happened, occupied, same, _⟩ := issued
  exact ⟨_, happened, by rw [Event.requestor, occupied, map_some, same]⟩

namespace Sample

theorem firstMatch_sound : SoundLookup firstMatch := by
  intro pairs flow id found
  obtain ⟨⟨_, tuple⟩, chosen, rfl⟩ := map_eq_some_iff.mp found
  have fitting := List.find?_some chosen
  exact ⟨tuple, List.mem_of_find?_eq_some chosen, fitting⟩

/-- The first adapter leaves before the visa service allows its flow, and another adapter
takes its link id. -/
def replaced : List Event := adapters ++ [request, .dropPeer 3, .addPeer 3 .nodeToAdapter, allowed, answer]

end Sample

namespace Assembly

theorem adapter_routes_entitled_bound : ∃ past final,
    Runs.Trace (Assembly.step Sample.firstMatch)
      (fun asm event => event.Possible asm ∧ event.Fits asm ∧ event.KeepsOwner asm) Sample.node past final ∧
    final.occupant 3 = some (2, .nodeToAdapter) ∧ final.routeAt (3, 1) = some Sample.route ∧
    Past.Entitled [VisaTable.node2vs Sample.nodeAddr Sample.visaServiceAddr 5002 86400000,
      VisaTable.vs2node Sample.nodeAddr Sample.visaServiceAddr 5002 86400000] past 3 2 minVisaId := by
  obtain ⟨past, final, trace, _, occupied, held⟩ := @Runs.Trace.exists_of_record _ _ _ (step firstMatch)
    (fun asm event => event.Possible asm ∧ event.Fits asm ∧ event.KeepsOwner asm) bound node _
    (fun _ final => final.occupant 3 = some (2, .nodeToAdapter) ∧ final.routeAt (3, 1) = some route) _
    (by decide +kernel)
  exact ⟨past, final, trace, occupied, held,
    adapter_routes_entitled firstMatch_sound ownVisas_created trace occupied rfl held⟩

/-- A task knows its requestor by the link id only, and the adapter that took over the link
gets a route although it has not asked for anything. -/
theorem successor_gets_route : ∃ past final,
    Runs.Trace (Assembly.step Sample.firstMatch) (fun asm event => event.Possible asm ∧ event.Fits asm) Sample.node
      past final ∧
    final.occupant 3 = some (4, .nodeToAdapter) ∧ final.routeAt (3, 1) = some Sample.route ∧
    ∀ link flow, ¬ Past.Issued past link 4 flow := by
  obtain ⟨past, final, trace, _, occupied, held, silent⟩ := @Runs.Trace.exists_of_record _ _ _
    (step firstMatch) (fun asm event => event.Possible asm ∧ event.Fits asm)
    replaced node _ (fun past final => final.occupant 3 = some (4, .nodeToAdapter) ∧
      final.routeAt (3, 1) = some route ∧ ∀ step ∈ past, step.2.requestor step.1 ≠ some 4) _
    (by decide +kernel)
  refine ⟨past, final, trace, occupied, held, ?_⟩
  intro link flow issued
  obtain ⟨step, happened, same⟩ := issued.requestor
  exact silent step happened same

end Assembly
end ZprCore.Node
