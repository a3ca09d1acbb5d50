import ZprCore.Proofs.Bind

/-! Forwarding entries and the visas that list them. The forwarding tables of all peers are
one set of slots, owned by visas, and each table operation is one of the operations on
slots with back references. -/

namespace ZprCore.Node
open Datapath (IpAddress)
open Table List Option Function PeerState

/-- What routing depends on in a peer. -/
def PeerState.routes (peer : PeerState) : (Nat × LinkType) × Table StreamId PftPep :=
  ((peer.session, peer.linkType), peer.pft)

/-- A peer without its forwarding table. -/
def PeerState.exceptRoutes (peer : PeerState) : PeerState := { peer with pft := ∅ }

namespace Assembly

/-- Which session occupies a link, and what kind of link it is. -/
def occupant (asm : Assembly) (link : LinkId) : Option (Nat × LinkType) :=
  (asm.peerTable.get link).map fun peer => (peer.session, peer.linkType)

def routing (asm : Assembly) : BackRefs ForwardingEntry PftPep VisaId where
  slot entry := (asm.peerTable.get entry.1).bind fun peer => peer.pft.get entry.2
  refs id := (asm.visaTable.table.get id).map Visa.streams

end Assembly

namespace Frame
variable {before after : Assembly}

section
variable (frame : Frame routes before after)
include frame

theorem slots : after.routing.slot = before.routing.slot := by
  funext entry
  have same := congrArg (Option.bind · fun routes => routes.2.get entry.2) (frame.peers entry.1)
  simp only [bind_map, comp_def] at same
  exact same

theorem routing : after.routing = before.routing := by
  simp only [Assembly.routing, frame.visas, BackRefs.mk.injEq, and_true]
  exact frame.slots

theorem occupant (link : LinkId) : after.occupant link = before.occupant link := by
  have same := congrArg (Option.map Prod.fst) (frame.peers link)
  simp only [Option.map_map, comp_def] at same
  exact same

end

theorem routes (frame : Frame PeerState.exceptBinds before after) : Frame PeerState.routes before after :=
  frame.coarsen _ PeerState.routes fun _ => rfl

end Frame

namespace Assembly
variable {asm next : Assembly}

theorem occupied_of_route {entry pep} (held : asm.routeAt entry = some pep) : (asm.peerTable.get entry.1).isSome := by
  obtain ⟨peer, occupied, _⟩ := bind_eq_some_iff.mp held
  rw [occupied]
  rfl

theorem slot_removeRoute (asm : Assembly) (route : ForwardingEntry) :
    (asm.removeRoute route).routing = asm.routing.freeWhere (· = route) := by
  simp only [routing, removeRoute, modifyPeer, BackRefs.freeWhere, BackRefs.mk.injEq, and_true]
  funext entry
  simp only [get_modify]
  by_cases sameLink : entry.1 = route.1
  · by_cases sameStream : entry.2 = route.2
    · simp only [sameLink, sameStream, Prod.ext_iff, and_self, if_true, bind_map, comp_def,
        get_erase]
      cases asm.peerTable.get route.1 <;> rfl
    · simp only [sameLink, sameStream, Prod.ext_iff, and_false, if_true, if_false, bind_map,
        comp_def, get_erase]
  · simp only [sameLink, Prod.ext_iff, false_and, if_false]

end Assembly

theorem VisaTable.insertVisa_ok {visas next : VisaTable} {visa id} (entered : visas.insertVisa visa = .ok (id, next)) :
    ∃ dockPep, visa.dockPep = some dockPep ∧ id = visa.issuerId ∧ next =
      { table := visas.table.insert visa.issuerId
          ⟨dockPep, [], dockPep.fiveTuple, visa.fwdPep.getD unspecified, visa.expires⟩
        timeoutQueue := visas.timeoutQueue.push ⟨visa.issuerId, visa.expires⟩
        lookupTable := visas.lookupTable ++ [(visa.issuerId, dockPep.fiveTuple)] } := by
  obtain ⟨stored, created, rest⟩ := Panic.bind_ok.mp entered
  cases rest
  simp only [Visa.new] at created
  split at created
  · cases created
  split at created
  · cases created
  next dockPep carried =>
  cases created
  exact ⟨dockPep, carried, rfl, rfl⟩

/-- No visa, and no flow to look one up by, that was not there before. -/
structure VisaTable.Grants (before after : VisaTable) : Prop where
  visas : ∀ id visa, after.table.get id = some visa → ∃ old, before.table.get id = some old ∧ visa.ftuple = old.ftuple
  lookups : ∀ id flow, (id, flow) ∈ after.lookupTable →
    (id, flow) ∈ before.lookupTable ∨ ∃ old, before.table.get id = some old ∧ flow = old.ftuple

namespace VisaTable.Grants
variable {before middle after : VisaTable}

theorem refl (visas : VisaTable) : visas.Grants visas := ⟨fun _ visa found => ⟨visa, found, rfl⟩, fun _ _ => .inl⟩

theorem trans (first : before.Grants middle) (second : middle.Grants after) : before.Grants after := by
  refine ⟨?_, ?_⟩
  · intro id visa found
    obtain ⟨between, kept, later⟩ := second.visas id visa found
    obtain ⟨old, stored, earlier⟩ := first.visas id between kept
    exact ⟨old, stored, later.trans earlier⟩
  · intro id flow listed
    rcases second.lookups id flow listed with kept | ⟨between, kept, same⟩
    · exact first.lookups id flow kept
    · obtain ⟨old, stored, earlier⟩ := first.visas id between kept
      exact .inr ⟨old, stored, same.trans earlier⟩

theorem modify (visas : VisaTable) (id : VisaId) {change} (kept : ∀ visa, (change visa).ftuple = visa.ftuple) :
    visas.Grants { visas with table := visas.table.modify id change } := by
  refine ⟨?_, fun _ _ => .inl⟩
  intro other visa found
  simp only [get_modify] at found
  split at found
  · obtain ⟨old, stored, rfl⟩ := map_eq_some_iff.mp found
    exact ⟨old, stored, kept old⟩
  · exact ⟨visa, found, rfl⟩

theorem rebuild (visas : VisaTable) : visas.Grants visas.rebuild := by
  refine ⟨fun _ visa found => ⟨visa, found, rfl⟩, ?_⟩
  intro id flow listed
  simp only [VisaTable.rebuild, List.mem_map, Prod.mk.injEq] at listed
  obtain ⟨⟨other, visa⟩, stored, rfl, rfl⟩ := listed
  exact .inr ⟨visa, (mem_pairs _ _ _).mp stored, rfl⟩

end VisaTable.Grants

/-- Clean-up: forwarding entries may go, and visas with them. -/
structure Swept (before after : Assembly) : Prop where
  tasks : after.tasks = before.tasks
  sessions : after.sessions = before.sessions
  peers : ∀ link, (after.peerTable.get link).map PeerState.exceptRoutes =
    (before.peerTable.get link).map PeerState.exceptRoutes
  visas : before.visaTable.Grants after.visaTable
  slots : ∀ entry pep, after.routing.slot entry = some pep → before.routing.slot entry = some pep

namespace Swept
variable {before middle after : Assembly}

theorem refl (asm : Assembly) : Swept asm asm := ⟨rfl, rfl, fun _ => rfl, .refl _, fun _ _ => id⟩

theorem trans (first : Swept before middle) (second : Swept middle after) : Swept before after :=
  ⟨second.tasks.trans first.tasks, second.sessions.trans first.sessions,
    fun link => (second.peers link).trans (first.peers link), first.visas.trans second.visas, fun entry pep found => first.slots entry pep (second.slots entry pep found)⟩

theorem binds (swept : Swept before after) (link : LinkId) (txnId : TxnId) :
    after.bindAt link txnId = before.bindAt link txnId := by
  have same := congrArg (Option.bind · fun peer => peer.bindRequestState.get txnId) (swept.peers link)
  simp only [bind_map, comp_def] at same
  exact same

theorem occupant (swept : Swept before after) (link : LinkId) : after.occupant link = before.occupant link := by
  have same := congrArg (Option.map fun peer => (peer.session, peer.linkType)) (swept.peers link)
  simp only [Option.map_map, comp_def] at same
  exact same

theorem removeRoute (asm : Assembly) (route : ForwardingEntry) : Swept asm (asm.removeRoute route) := by
  have frame : Frame exceptRoutes asm (asm.removeRoute route) := .modifyPeer _ _ fun _ => rfl
  refine ⟨rfl, rfl, frame.peers, .refl _, ?_⟩
  intro entry pep found
  rw [Assembly.slot_removeRoute] at found
  simp only [BackRefs.freeWhere] at found
  split at found
  · cases found
  · exact found

theorem foldl {α} (operation) (sweeps : ∀ asm item, Swept asm (operation asm item))
    (items : List α) (asm : Assembly) : Swept asm (items.foldl operation asm) := by
  induction items generalizing asm with
  | nil => exact refl asm
  | cons item rest ih => exact (sweeps asm item).trans (ih (operation asm item))

end Swept

namespace Assembly
variable {asm next : Assembly}
variable {link : LinkId} {inserted}

section
variable (asm : Assembly)

private theorem routing_removeRoutes (routes : List ForwardingEntry) :
    (routes.foldl removeRoute asm).routing = asm.routing.freeWhere (· ∈ routes) := by
  induction routes generalizing asm with
  | nil => simp only [foldl_nil, BackRefs.freeWhere, not_mem_nil, if_false]
  | cons route rest ih =>
    rw [foldl_cons, ih, slot_removeRoute]
    simp only [BackRefs.freeWhere, BackRefs.mk.injEq, and_true, mem_cons]
    funext entry
    by_cases same : entry = route <;> by_cases later : entry ∈ rest <;> simp [same, later]

theorem routing_revokeNoRebuild (id : VisaId) : (asm.revokeNoRebuild id).routing = asm.routing.revoke id := by
  simp only [revokeNoRebuild]
  cases found : asm.visaTable.table.get id with
  | none =>
    have absent : asm.routing.refs id = none := by simp only [routing, found, map_none]
    exact (BackRefs.revoke_absent absent).symm
  | some visa =>
    rw [routing_removeRoutes]
    simp only [routing, BackRefs.freeWhere, BackRefs.revoke, BackRefs.mk.injEq, found, map_some, getD_some]
    refine ⟨trivial, ?_⟩
    funext other
    simp only [get_erase, update_apply]
    split <;> rfl

theorem revokeNoRebuild_swept (id : VisaId) : Swept asm (asm.revokeNoRebuild id) := by
  simp only [revokeNoRebuild]
  split
  · exact .refl _
  next visa found =>
  refine .trans ?_ (.foldl _ Swept.removeRoute visa.streams _)
  refine ⟨rfl, rfl, fun _ => rfl, ⟨?_, fun _ _ => .inl⟩, fun _ _ held => held⟩
  intro other stored kept
  simp only [get_erase] at kept
  split at kept
  · cases kept
  · exact ⟨stored, kept, rfl⟩

theorem rebuildLookup_swept : Swept asm asm.rebuildLookup :=
  ⟨rfl, rfl, fun _ => rfl, .rebuild _, fun _ _ held => held⟩

private theorem routing_revokeAll (ids : List VisaId) :
    (ids.foldl revokeNoRebuild asm).routing = ids.foldl BackRefs.revoke asm.routing := by
  induction ids generalizing asm with
  | nil => rfl
  | cons id rest ih => rw [foldl_cons, foldl_cons, ih, routing_revokeNoRebuild]

theorem routing_handleRevocation (id : VisaId) :
    (asm.handleRevocation id).routing = asm.routing.revoke id := routing_revokeNoRebuild asm id

theorem routing_handleExpirations (currentTime : Nat) :
    (asm.handleExpirations currentTime).routing =
      ((asm.visaTable.timeoutQueue.popExpired currentTime).1.map VisaTimeout.id).foldl BackRefs.revoke asm.routing :=
  routing_revokeAll _ _

theorem routing_revokeForLink (link : LinkId) :
    (asm.revokeForLink link).routing = (asm.toRevoke link).foldl BackRefs.revoke asm.routing := by
  simp only [revokeForLink]
  split
  · next none =>
    rw [List.isEmpty_iff.mp none, foldl_nil]
  · exact routing_revokeAll _ _

theorem revokeForLink_swept (link : LinkId) : Swept asm (asm.revokeForLink link) := by
  simp only [revokeForLink]
  split
  · exact .refl _
  · exact (Swept.foldl _ revokeNoRebuild_swept _ asm).trans (rebuildLookup_swept _)

theorem handleRevocation_swept (id : VisaId) : Swept asm (asm.handleRevocation id) :=
  (revokeNoRebuild_swept asm id).trans (rebuildLookup_swept _)

theorem handleExpirations_swept (currentTime : Nat) : Swept asm (asm.handleExpirations currentTime) := by
  have queue : Swept asm { asm with visaTable := { asm.visaTable with
      timeoutQueue := (asm.visaTable.timeoutQueue.popExpired currentTime).2 } } :=
    ⟨rfl, rfl, fun _ => rfl, ⟨fun _ visa found => ⟨visa, found, rfl⟩, fun _ _ => .inl⟩, fun _ _ held => held⟩
  exact queue.trans ((Swept.foldl _ revokeNoRebuild_swept _ _).trans (rebuildLookup_swept _))

end

theorem lists_iff {asm : Assembly} {id entry} :
    asm.routing.Lists id entry ↔ ∃ visa, asm.visaTable.table.get id = some visa ∧ entry ∈ visa.streams := by
  simp only [BackRefs.Lists, routing, map_eq_some_iff]
  constructor
  · rintro ⟨_, ⟨visa, stored, rfl⟩, inside⟩
    exact ⟨visa, stored, inside⟩
  · rintro ⟨visa, stored, inside⟩
    exact ⟨_, ⟨visa, stored, rfl⟩, inside⟩

theorem mem_toRevoke {id} : id ∈ asm.toRevoke link ↔ minVisaId ≤ id ∧ ∃ stream, asm.routing.Lists id (link, stream) := by
  simp only [toRevoke, List.mem_map, mem_filter, Bool.and_eq_true, decide_eq_true_eq, List.any_eq_true,
    beq_iff_eq, BackRefs.Lists, routing, map_eq_some_iff]
  constructor
  · rintro ⟨⟨_, visa⟩, ⟨stored, large, entry, listed, same⟩, rfl⟩
    exact ⟨large, entry.2, visa.streams, ⟨visa, (mem_pairs _ _ _).mp stored, rfl⟩, same ▸ listed⟩
  · rintro ⟨large, stream, streams, ⟨visa, stored, same⟩, listed⟩
    exact ⟨(id, visa), ⟨(mem_pairs _ _ _).mpr stored, large, (link, stream), same ▸ listed, rfl⟩, rfl⟩

theorem remove_routing (removed : asm.remove link = .ok next) : next.routing = asm.routing.freeWhere (·.1 = link) := by
  rw [(remove_frame removed).hideBinds.routes.routing]
  simp only [routing, BackRefs.freeWhere, BackRefs.mk.injEq, and_true]
  funext entry
  simp only [get_erase]
  split <;> rfl

theorem remove_occupant (removed : asm.remove link = .ok next) (other : LinkId) :
    next.occupant other = if other = link then none else asm.occupant other := by
  rw [(remove_frame removed).hideBinds.routes.occupant]
  simp only [occupant, get_erase]
  split <;> rfl

theorem dropPeer_routing (dropped : asm.dropPeer link = .ok next) :
    next.routing = ((asm.toRevoke link).foldl BackRefs.revoke asm.routing).freeWhere (·.1 = link) := by
  rw [remove_routing dropped, routing_revokeForLink]

theorem dropPeer_occupant (dropped : asm.dropPeer link = .ok next) (other : LinkId) :
    next.occupant other = if other = link then none else asm.occupant other := by
  rw [remove_occupant dropped, (revokeForLink_swept asm link).occupant]

theorem addPeer_routing (vacant : asm.peerTable.get link = none) (linkType : LinkType) :
    (asm.addPeer link linkType).routing = asm.routing := by
  simp only [routing, addPeer, BackRefs.mk.injEq, and_true]
  funext entry
  simp only [get_insert]
  split
  · next same => simp only [same, vacant, new, bind_some, get_empty, bind_none]
  · rfl

theorem start_slot (addrs : List IpAddress) (visas : VisaTable) (entry : ForwardingEntry) :
    (Assembly.start addrs visas).routing.slot entry = none := by
  simp only [start]
  rw [addPeer_routing, addPeer_routing]
  · simp only [routing, get_empty, bind_none]
  · exact get_empty _
  · simp only [addPeer, get_insert, get_empty, localActorLinkId, dockLinkId]
    rfl

theorem addPeer_occupant (asm : Assembly) (link : LinkId) (linkType : LinkType) (other : LinkId) :
    (asm.addPeer link linkType).occupant other =
      if other = link then some (asm.sessions, linkType) else asm.occupant other := by
  simp only [occupant, addPeer, get_insert]
  split <;> rfl

theorem insertVisa_cases {visa} (returned : asm.insertVisa visa = .ok (inserted, next)) :
    (next = asm ∧ ∃ addr, inserted = .error (.destNotFound addr)) ∨
      ∃ visas, asm.visaTable.insertVisa visa = .ok (visa.issuerId, visas) ∧ inserted = .ok visa.issuerId ∧
        next = { asm with visaTable := visas } := by
  simp only [insertVisa] at returned
  split at returned
  · cases returned
  split at returned
  · cases returned
  split at returned
  · cases returned
    exact .inl ⟨rfl, _, rfl⟩
  obtain ⟨⟨id, visas⟩, entered, rest⟩ := Panic.bind_ok.mp returned
  cases rest
  obtain ⟨dockPep, _, rfl, _⟩ := VisaTable.insertVisa_ok entered
  exact .inr ⟨visas, entered, rfl, rfl⟩

theorem routing_insertVisa {visa} (returned : asm.insertVisa visa = .ok (inserted, next)) :
    next.routing = asm.routing ∨ next.routing = asm.routing.renew visa.issuerId := by
  rcases insertVisa_cases returned with ⟨rfl, _⟩ | ⟨visas, entered, _, rfl⟩
  · exact .inl rfl
  refine .inr ?_
  obtain ⟨dockPep, _, _, rfl⟩ := VisaTable.insertVisa_ok entered
  simp only [routing, BackRefs.renew, BackRefs.mk.injEq, true_and]
  funext other
  simp only [get_insert, update_apply]
  split <;> rfl

theorem unbindStream_cases (asm : Assembly) (link : LinkId) (streamId : StreamId) :
    asm.unbindStream link streamId = asm ∨ ∃ pep, asm.routing.slot (link, streamId) = some pep ∧
      Swept asm (asm.unbindStream link streamId) ∧
      (asm.unbindStream link streamId).routing =
        (asm.routing.freeWhere (· = (link, streamId))).unlink pep.visaId pep.nextHop := by
  cases held : asm.routing.slot (link, streamId) with
  | none =>
    simp only [routing] at held
    exact .inl (by simp only [unbindStream, held])
  | some pep =>
    refine .inr ⟨pep, rfl, ?_, ?_⟩
    · simp only [routing] at held
      simp only [unbindStream, held]
      refine (Swept.removeRoute asm (link, streamId)).trans ?_
      exact ⟨rfl, rfl, fun _ => rfl, .modify _ _ fun _ => rfl, fun _ _ kept => kept⟩
    · rw [← slot_removeRoute]
      simp only [routing] at held
      simp only [unbindStream, held, routing, BackRefs.unlink, BackRefs.mk.injEq]
      refine ⟨rfl, ?_⟩
      funext id
      simp only [send, VisaTable.unlinkForwardingEntry, get_modify, update_apply]
      split
      · next same =>
        simp only [same, Option.map_map, comp_def, Visa.unlinkForwardingEntry]
      · rfl

end Assembly
end ZprCore.Node
