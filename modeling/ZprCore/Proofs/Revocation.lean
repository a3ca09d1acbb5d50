import ZprCore.Proofs.Events

/-! Revocation. A visa lists the forwarding entries that use it so that they go when it goes.
Revocation is complete if every entry is listed and precise if nothing else is. -/

namespace ZprCore.Node
open Datapath (IpAddress FiveTuple)
open Runs Table List Option Sample Assembly PftPep VisaTable BackRefs TimeoutQueue

theorem TimeoutQueue.mem_popExpired {queue : TimeoutQueue} {currentTime entry} :
    entry ∈ (queue.popExpired currentTime).1 ↔ entry ∈ queue.entries ∧ entry.expiration < currentTime := by
  obtain ⟨entries, sorted⟩ := queue
  simp only [popExpired]
  induction entries with
  | nil => simp
  | cons first rest ih =>
    obtain ⟨before, remaining⟩ := pairwise_cons.mp sorted
    by_cases expired : first.expiration < currentTime
    · rw [takeWhile_cons_of_pos (by simpa using expired), mem_cons, mem_cons, ih remaining]
      constructor
      · rintro (rfl | ⟨inside, early⟩)
        · exact ⟨.inl rfl, expired⟩
        · exact ⟨.inr inside, early⟩
      · intro ⟨inside, early⟩
        exact inside.imp_right fun later => ⟨later, early⟩
    · rw [takeWhile_cons_of_neg (by simpa using expired)]
      simp only [not_mem_nil, mem_cons, false_iff, not_and]
      rintro (rfl | later)
      · exact expired
      have order := before entry later
      simp only [VisaTimeout.Before] at order
      omega

namespace Assembly

/-- No live forwarding entry carries the visa id. -/
def Unused (asm : Assembly) (id : VisaId) : Prop :=
  ∀ place ∈ asm.peerTable.pairs, ∀ route ∈ place.2.pft.pairs, route.2.visaId ≠ id

instance (asm : Assembly) (id : VisaId) : Decidable (asm.Unused id) :=
  inferInstanceAs (Decidable (∀ place ∈ _, ∀ route ∈ PeerState.pft (Prod.snd place) |>.pairs, _))

theorem unused_iff {asm : Assembly} {id} : asm.Unused id ↔ ∀ entry pep, asm.routeAt entry = some pep → pep.visaId ≠ id := by
  simp only [Unused, routeAt, bind_eq_some_iff, Prod.forall, mem_pairs]
  constructor
  · rintro unused link streamId pep ⟨peer, occupied, held⟩
    exact unused link peer occupied streamId pep held
  · intro unused link peer occupied streamId pep held
    exact unused link streamId pep ⟨peer, occupied, held⟩

/-- Every forwarding entry of a live peer is listed by the visa whose id it carries. -/
def Listed (asm : Assembly) : Prop :=
  ∀ entry pep, asm.routeAt entry = some pep → ∃ visa, asm.visaTable.table.get pep.visaId = some visa ∧ entry ∈ visa.streams

theorem listed_iff {asm : Assembly} : asm.Listed ↔ asm.routing.Complete visaId := by
  simp only [Listed, BackRefs.Complete, lists_iff]
  exact Iff.rfl

end Assembly

def Event.unbound : Event → Option ForwardingEntry
  | .unbindIndication link streamId => some (link, streamId)
  | _ => none

/-- A visa is entered only while no live entry carries its id, and an unbind does not take a
live slot of the same visa off the list in place of its own. -/
def Event.KeepsListed (asm : Assembly) (event : Event) : Prop :=
  (∀ visa ∈ event.visa asm, asm.Unused visa.issuerId) ∧
    ∀ entry ∈ event.unbound, ∀ pep ∈ asm.routeAt entry, ∀ other ∈ asm.routeAt pep.nextHop,
      other.visaId = pep.visaId → pep.nextHop = entry

instance (asm : Assembly) (event : Event) : Decidable (event.KeepsListed asm) := inferInstanceAs (Decidable (_ ∧ _))

namespace Assembly
variable {findMatch} {asm next : Assembly} {event : Event}

theorem complete_change {routes} (change : RouteChange asm event routes)
    (careful : event.KeepsListed asm) (complete : asm.routing.Complete visaId) :
    routes.Complete visaId := by
  cases change with
  | kept => exact complete
  | entered brings =>
    refine complete_renew.mpr fun entry pep held => ⟨?_, complete entry pep held⟩
    exact unused_iff.mp (careful.1 _ brings) entry pep held
  | completed occupied completion requests =>
    apply (complete.link _ _).put
    exact lists_link.mpr (.inr ⟨rfl, rfl, completion.valid⟩)
  | refused occupied completion requests => exact complete.link _ _
  | @unbound link streamId pep held =>
    apply (complete.freeWhere _).unlink
    intro other kept same
    simp only [freeWhere] at kept
    split at kept
    · cases kept
    · next elsewhere => exact elsewhere (careful.2 _ rfl pep held other kept same)
  | revoked id => exact complete.revoke id
  | expired currentTime => exact complete.revokeAll _
  | dropped link => exact (complete.revokeAll _).freeWhere _

theorem unused_of_complete (complete : next.routing.Complete visaId) {id} (gone : ∀ entry, ¬ next.routing.Lists id entry)
    (entry : ForwardingEntry) (pep : PftPep) (held : next.routeAt entry = some pep) : pep.visaId ≠ id := by
  intro same
  exact gone entry (same ▸ complete entry pep held)

/-- In every run in which no visa is entered while entries carry its id and no unbind takes
another live slot off the list, every live entry is listed by its visa, and a revoked or
expired visa leaves no entry behind. -/
theorem run_revokes_completely {addrs : List IpAddress} {visas : VisaTable} {events : List Event} {final : Assembly}
    (run : Run (Assembly.step findMatch) (fun asm event => event.Possible asm ∧ event.KeepsListed asm)
      (Assembly.start addrs visas) events final) :
    final.Listed ∧
      (∀ id next, final.step findMatch (.visaRevocation id) = .ok next → next.Unused id) ∧
      ∀ currentTime next, final.step findMatch (.expirations currentTime) = .ok next →
        ∀ timeout ∈ final.visaTable.timeoutQueue.entries, timeout.expiration < currentTime → next.Unused timeout.id := by
  have complete : final.routing.Complete visaId := by
    refine run.invariant (fun asm => asm.routing.Complete visaId) ?_ ?_
    · intro asm event next allowed complete stepped
      exact complete_change (step_routing allowed.1 stepped) allowed.2 complete
    intro entry pep held
    rw [start_slot] at held
    cases held
  refine ⟨listed_iff.mpr complete, ?_, ?_⟩
  · intro id next stepped
    cases stepped
    refine unused_iff.mpr (unused_of_complete ?_ ?_)
    · rw [routing_handleRevocation]
      exact complete.revoke id
    intro entry listed
    rw [routing_handleRevocation] at listed
    exact (lists_revoke.mp listed).1 rfl
  · intro currentTime next stepped timeout queued expired
    cases stepped
    refine unused_iff.mpr (unused_of_complete ?_ ?_)
    · rw [routing_handleExpirations]
      exact complete.revokeAll _
    intro entry listed
    rw [routing_handleExpirations] at listed
    apply (lists_revokeAll.mp listed).1
    exact List.mem_map_of_mem (mem_popExpired.mpr ⟨queued, expired⟩)

theorem run_revokes_completely_bound : ∃ final : Assembly,
    Run (Assembly.step Sample.firstMatch) (fun asm event => event.Possible asm ∧ event.KeepsListed asm) Sample.node
      Sample.bound final ∧ final.routeAt (3, 1) = some Sample.route ∧ final.Listed ∧
    ∀ id next, final.step Sample.firstMatch (.visaRevocation id) = .ok next → next.Unused id := by
  refine Run.exists_imp (fun final => final.routeAt (3, 1) = some route) (by decide +kernel) ?_
  intro final run held
  have complete := run_revokes_completely run
  exact ⟨held, complete.1, complete.2.1⟩

/-- The visa service sends the visa again after a route was made under it. The new visa lists
nothing, and its revocation leaves the route in place. -/
theorem revocation_misses_route : ∃ final : Assembly,
    Run (Assembly.step Sample.firstMatch) (fun asm event => event.Possible asm) Sample.node
      (Sample.bound ++ [.visaGrant (Sample.visa minVisaId 53)]) final ∧ ¬ final.Listed ∧
    ∃ next, final.step Sample.firstMatch (.visaRevocation minVisaId) = .ok next ∧ ¬ next.Unused minVisaId := by
  refine Run.exists_imp (fun final => final.routeAt (3, 1) = some route ∧
      (∀ visa ∈ final.visaTable.table.get minVisaId, (3, 1) ∉ visa.streams) ∧
      ¬ (final.handleRevocation minVisaId).Unused minVisaId) (by decide +kernel) ?_
  intro final _ ⟨held, unlisted, left⟩
  refine ⟨?_, _, rfl, left⟩
  intro listed
  obtain ⟨visa, stored, inside⟩ := listed (3, 1) route held
  exact unlisted visa stored inside

/-- Every entry a visa lists is a forwarding entry of a live peer that carries its id. -/
def Exact (asm : Assembly) : Prop :=
  ∀ id visa, asm.visaTable.table.get id = some visa → ∀ entry ∈ visa.streams,
    ∃ pep, asm.routeAt entry = some pep ∧ pep.visaId = id

end Assembly

/-- An unbind is of an entry that is its own next hop or that its visa does not list, an
answer of a next hop is for a node or an adapter, and a peer is dropped only when none of
the node's own visas lists an entry of it. -/
def Event.KeepsExact (asm : Assembly) : Event → Prop
  | .unbindIndication link streamId => ∀ pep ∈ asm.routeAt (link, streamId),
    pep.nextHop = (link, streamId) ∨ ∀ visa ∈ asm.visaTable.table.get pep.visaId, (link, streamId) ∉ visa.streams
  | .nextHopResponse link txnId _ _ => ∀ request ∈ asm.originator link txnId,
    ∀ peer ∈ asm.peerTable.get request.1, (peer.peerType request.1).requests = true
  | .dropPeer link => ∀ place ∈ asm.visaTable.table.pairs,
    (∃ entry ∈ place.2.streams, entry.1 = link) → minVisaId ≤ place.1
  | _ => True

instance (asm : Assembly) (event : Event) : Decidable (event.KeepsExact asm) := by
  induction event using Event.casesOn <;> dsimp only [Event.KeepsExact] <;> infer_instance

namespace Assembly
variable {findMatch} {asm next : Assembly} {event : Event}

theorem exact_of_precise (precise : asm.routing.Precise visaId) : asm.Exact := by
  intro id visa stored entry inside
  exact precise.owned id entry (lists_iff.mpr ⟨visa, stored, inside⟩)

theorem completion_originator {link txnId peer vacant ingress linkType key pep}
    (occupied : asm.peerTable.get link = some peer)
    (completion : Completion asm link ⟨link, peer.session, txnId⟩ vacant ingress linkType key pep) :
    ∃ ingressTxn requestor, asm.originator link txnId = some (ingress, ingressTxn) ∧
      asm.peerTable.get ingress = some requestor ∧ requestor.linkType = linkType := by
  obtain ⟨ingressTxn, noted, _⟩ := completion.origin
  obtain ⟨session, live⟩ := completion.occupied
  obtain ⟨requestor, found, same⟩ := map_eq_some_iff.mp live
  refine ⟨ingressTxn, requestor, ?_, found, congrArg Prod.snd same⟩
  simpa only [originator, noteAt, occupied, bind_some] using noted

theorem precise_change {routes} (change : RouteChange asm event routes) (possible : event.Possible asm)
    (careful : event.KeepsExact asm) (precise : asm.routing.Precise visaId) : routes.Precise visaId := by
  cases change with
  | kept => exact precise
  | entered brings => exact precise.renew _
  | @completed link txnId response vacant peer ingress linkType key pep occupied completion requests =>
    apply precise.put_link
    obtain ⟨ingressTxn, requestor, origin, found, _⟩ := completion_originator occupied completion
    have offer := possible _ origin requestor found
    rw [completion.offered] at offer
    simp only [routing, found, bind_some]
    exact offer.2.2
  | @refused link txnId response vacant peer ingress linkType key pep occupied completion requests =>
    obtain ⟨ingressTxn, requestor, origin, found, same⟩ := completion_originator occupied completion
    have answered := careful _ origin requestor found
    simp only [PeerState.peerType, same, requests] at answered
    cases answered
  | @unbound link streamId pep held =>
    -- the slot is freed and its next hop unlinked; what matters is who still lists the slot
    apply (precise.unlink pep.visaId pep.nextHop).freeWhere
    intro holder key listed here
    subst here
    have before := lists_of_unlink listed
    obtain ⟨found, stored, owned⟩ := precise.owned holder _ before
    rw [held] at stored
    cases stored
    subst owned
    rcases careful pep held with own | unlisted
    · rw [own] at listed
      exact precise.unlinked _ _ listed
    · obtain ⟨visa, stored, inside⟩ := lists_iff.mp before
      exact unlisted visa stored inside
  | revoked id => exact precise.revoke id
  | expired currentTime => exact precise.revokeAll _
  | dropped link =>
    apply (precise.revokeAll _).freeWhere
    intro id entry listed removed
    obtain ⟨kept, before⟩ := lists_revokeAll.mp listed
    obtain ⟨visa, stored, inside⟩ := lists_iff.mp before
    apply kept
    refine mem_toRevoke.mpr ⟨?_, entry.2, removed ▸ before⟩
    exact careful (id, visa) ((mem_pairs _ _ _).mpr stored) ⟨entry, inside, removed⟩

theorem newWithVsVisas_streams {nodeAddr vsAddr vsPort expires visas}
    (created : newWithVsVisas nodeAddr vsAddr vsPort expires = .ok visas) {id visa} (stored : visas.table.get id = some visa) :
    visa.streams = [] := by
  obtain ⟨⟨_, one⟩, first, rest⟩ := Panic.bind_ok.mp created
  obtain ⟨⟨_, two⟩, second, done⟩ := Panic.bind_ok.mp rest
  cases done
  obtain ⟨_, _, _, rfl⟩ := insertVisa_ok first
  obtain ⟨_, _, _, rfl⟩ := insertVisa_ok second
  simp only [rebuild, new, get_insert, get_empty] at stored
  split at stored
  · cases stored
    rfl
  split at stored
  · cases stored
    rfl
  · cases stored

theorem start_precise {addrs nodeAddr vsAddr vsPort expires visas}
    (created : newWithVsVisas nodeAddr vsAddr vsPort expires = .ok visas) : (start addrs visas).routing.Precise visaId := by
  have empty : ∀ id items, (start addrs visas).routing.refs id = some items → items = [] := by
    intro id items listed
    obtain ⟨visa, stored, rfl⟩ := map_eq_some_iff.mp listed
    exact newWithVsVisas_streams created stored
  refine ⟨?_, ?_⟩
  · intro id items listed
    rw [empty id items listed]
    exact nodup_nil
  intro id entry ⟨items, listed, inside⟩
  rw [empty id items listed] at inside
  cases inside

/-- In every run whose unbinds, answers and peer removals are of these kinds, every listed
entry is a live one of its visa, and revoking or expiring a visa takes no other visa's entry. -/
theorem run_revokes_precisely {addrs : List IpAddress} {nodeAddr vsAddr : IpAddress} {vsPort : UInt16} {expires : Nat}
    {visas : VisaTable} (created : VisaTable.newWithVsVisas nodeAddr vsAddr vsPort expires = .ok visas)
    {events : List Event} {final : Assembly}
    (run : Run (Assembly.step findMatch) (fun asm event => event.Possible asm ∧ event.KeepsExact asm)
      (Assembly.start addrs visas) events final) :
    final.Exact ∧
      (∀ id next, final.step findMatch (.visaRevocation id) = .ok next →
        ∀ entry pep, final.routeAt entry = some pep → pep.visaId ≠ id → next.routeAt entry = some pep) ∧
      ∀ currentTime next, final.step findMatch (.expirations currentTime) = .ok next →
        ∀ entry pep, final.routeAt entry = some pep →
          (∀ timeout ∈ final.visaTable.timeoutQueue.entries, timeout.expiration < currentTime →
            timeout.id ≠ pep.visaId) → next.routeAt entry = some pep := by
  have precise : final.routing.Precise visaId := by
    refine run.invariant (fun asm => asm.routing.Precise visaId) ?_ (start_precise created)
    intro asm event next allowed precise stepped
    exact precise_change (step_routing allowed.1 stepped) allowed.1 allowed.2 precise
  refine ⟨exact_of_precise precise, ?_, ?_⟩
  · intro id next stepped entry pep held other
    cases stepped
    have kept := precise.revoke_slot held other
    rw [← routing_handleRevocation] at kept
    exact kept
  · intro currentTime next stepped entry pep held unexpired
    cases stepped
    have kept := (@BackRefs.slot_revokeAll _ _ _ _ _ final.routing
      ((final.visaTable.timeoutQueue.popExpired currentTime).1.map VisaTimeout.id) entry pep).mpr ⟨held, ?_⟩
    · rw [← routing_handleExpirations] at kept
      exact kept
    intro id gone listed
    obtain ⟨timeout, popped, rfl⟩ := List.mem_map.mp gone
    obtain ⟨queued, expired⟩ := mem_popExpired.mp popped
    obtain ⟨found, same, owned⟩ := precise.owned _ _ listed
    rw [show final.routing.slot entry = some pep from held] at same
    cases same
    exact unexpired timeout queued expired owned.symm

theorem run_revokes_precisely_bound : ∃ final : Assembly,
    Run (Assembly.step Sample.firstMatch) (fun asm event => event.Possible asm ∧ event.KeepsExact asm) Sample.node
      Sample.bound final ∧ final.routeAt (3, 1) = some Sample.route ∧ final.Exact ∧
    ∀ id next, final.step Sample.firstMatch (.visaRevocation id) = .ok next →
      ∀ entry pep, final.routeAt entry = some pep → pep.visaId ≠ id → next.routeAt entry = some pep := by
  refine Run.exists_imp (fun final => final.routeAt (3, 1) = some route) (by decide +kernel) ?_
  intro final run held
  have precise := run_revokes_precisely ownVisas_created run
  exact ⟨held, precise.1, precise.2.1⟩

end Assembly

namespace Sample

/-- The route is unbound, and its slot goes to a second flow under a visa of its own. -/
def rebound : List Event := bound ++ [.unbindIndication 3 1, .bindActorAddressRequest 3 10 (packet 54),
  .visaReply 0 (.decision (some (.allowed (visa 1001 54)))), .nextHopResponse 4 1 (.success 8) (some 1)]

end Sample

namespace Assembly

/-- An unbind leaves its slot on the list of the visa, and revoking that visa takes the route
of whoever has the slot by then. -/
theorem revocation_takes_other_route : ∃ final : Assembly,
    Run (Assembly.step Sample.firstMatch) (fun asm event => event.Possible asm) Sample.node Sample.rebound final ∧
    ¬ final.Exact ∧ final.routeAt (3, 1) = some ⟨(4, 8), 1001⟩ ∧
    ∃ next, final.step Sample.firstMatch (.visaRevocation minVisaId) = .ok next ∧ next.routeAt (3, 1) = none := by
  refine Run.exists_imp (fun final => final.routeAt (3, 1) = some ⟨(4, 8), 1001⟩ ∧
      (¬ ∀ visa ∈ final.visaTable.table.get minVisaId, (3, 1) ∉ visa.streams) ∧
      (final.handleRevocation minVisaId).routeAt (3, 1) = none) (by decide +kernel) ?_
  intro final _ ⟨held, listed, taken⟩
  refine ⟨?_, held, _, rfl, taken⟩
  intro precise
  apply listed
  intro visa stored inside
  obtain ⟨pep, found, owned⟩ := precise minVisaId visa stored (3, 1) inside
  rw [held] at found
  cases found
  cases owned

end Assembly
end ZprCore.Node
