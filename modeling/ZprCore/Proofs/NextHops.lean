import ZprCore.Proofs.Events

/-! Routes to a removed link. Dropping a peer revokes the visas that list an entry of it. A
route that only leads to the peer is listed on another link, and goes only if its visa
happens to have an entry on this one too. -/

namespace ZprCore.Node
open Sample
open Datapath (IpAddress FiveTuple)

namespace Assembly

/-- Every other peer's route to the link is listed by a visa that is revoked with the link. -/
def Covered (asm : Assembly) (link : LinkId) : Prop :=
  ∀ entry pep, asm.routeAt entry = some pep → entry.1 ≠ link → pep.nextHop.1 = link →
    ∃ id visa, minVisaId ≤ id ∧ asm.visaTable.table.get id = some visa ∧ entry ∈ visa.streams ∧
      ∃ streamId, (link, streamId) ∈ visa.streams

theorem covered_iff {asm : Assembly} {link} :
    asm.Covered link ↔ ∀ place ∈ asm.peerTable.pairs, ∀ route ∈ place.2.pft.pairs, place.1 ≠ link →
      route.2.nextHop.1 = link → ∃ stored ∈ asm.visaTable.table.pairs, minVisaId ≤ stored.1 ∧
        (∃ listed ∈ stored.2.streams, listed = (place.1, route.1)) ∧ ∃ entry ∈ stored.2.streams, entry.1 = link := by
  simp only [Covered, routeAt, Option.bind_eq_some_iff, Prod.forall, Table.mem_pairs]
  constructor
  · intro covered place peer occupied streamId pep held elsewhere hop
    obtain ⟨id, visa, large, stored, inside, stream, touches⟩ :=
      covered place streamId pep ⟨peer, occupied, held⟩ elsewhere hop
    exact ⟨(id, visa), (Table.mem_pairs _ _ _).mpr stored, large, ⟨_, inside, rfl⟩, _, touches, rfl⟩
  · rintro covered place streamId pep ⟨peer, occupied, held⟩ elsewhere hop
    obtain ⟨⟨id, visa⟩, stored, large, ⟨_, inside, rfl⟩, ⟨_, stream⟩, touches, rfl⟩ :=
      covered place peer occupied streamId pep held elsewhere hop
    exact ⟨id, visa, large, (Table.mem_pairs _ _ _).mp stored, inside, stream, touches⟩

instance (asm : Assembly) (link : LinkId) : Decidable (asm.Covered link) := decidable_of_iff' _ covered_iff

variable {findMatch} {asm next : Assembly} {entry : ForwardingEntry}

theorem routeAt_dropPeer {link} (dropped : asm.dropPeer link = .ok next) {pep} :
    next.routeAt entry = some pep ↔
      asm.routeAt entry = some pep ∧ entry.1 ≠ link ∧ ∀ id ∈ asm.toRevoke link, ¬ asm.routing.Lists id entry := by
  change next.routing.slot entry = some pep ↔ _
  rw [dropPeer_routing dropped]
  simp only [BackRefs.freeWhere]
  split
  · next here =>
    simp only [here, ne_eq, not_true_eq_false, false_and, and_false, reduceCtorEq]
  next elsewhere =>
  rw [BackRefs.slot_revokeAll]
  simp only [ne_eq, elsewhere, not_false_eq_true, true_and]
  rfl

theorem revoked_lists {link} :
    (∃ id ∈ asm.toRevoke link, asm.routing.Lists id entry) ↔
      ∃ id visa, minVisaId ≤ id ∧ asm.visaTable.table.get id = some visa ∧ entry ∈ visa.streams ∧
        ∃ streamId, (link, streamId) ∈ visa.streams := by
  simp only [mem_toRevoke, lists_iff]
  constructor
  · rintro ⟨id, ⟨large, streamId, visa, stored, touches⟩, other, found, inside⟩
    rw [stored] at found
    cases found
    exact ⟨id, visa, large, stored, inside, streamId, touches⟩
  · rintro ⟨id, visa, large, stored, inside, streamId, touches⟩
    exact ⟨id, ⟨large, streamId, visa, stored, touches⟩, visa, stored, inside⟩

theorem dropPeer_covered {link} (dropped : asm.dropPeer link = .ok next) :
    (∀ entry pep, next.routeAt entry = some pep → pep.nextHop.1 ≠ link) ↔ asm.Covered link := by
  constructor
  · intro none entry pep held elsewhere hop
    apply revoked_lists.mp
    by_contra unlisted
    refine none entry pep ((routeAt_dropPeer dropped).mpr ⟨held, elsewhere, ?_⟩) hop
    intro id revoked listed
    exact unlisted ⟨id, revoked, listed⟩
  · intro covered entry pep held hop
    obtain ⟨before, elsewhere, kept⟩ := (routeAt_dropPeer dropped).mp held
    obtain ⟨id, revoked, listed⟩ := revoked_lists.mpr (covered entry pep before elsewhere hop)
    exact kept id revoked listed

/-- Every route leads to a link that is occupied. -/
def HopsLive (asm : Assembly) : Prop :=
  ∀ entry pep, asm.routeAt entry = some pep → (asm.occupant pep.nextHop.1).isSome

end Assembly

/-- Peers are dropped only when the routes to them are covered. -/
def Event.CoversDrop (asm : Assembly) : Event → Prop
  | .dropPeer link => asm.Covered link
  | _ => True

instance (asm : Assembly) (event : Event) : Decidable (event.CoversDrop asm) := by
  unfold Event.CoversDrop
  split <;> infer_instance

namespace Assembly
variable {findMatch} {asm next : Assembly} {event : Event}

theorem hopsLive_step (possible : event.Possible asm) (covers : event.CoversDrop asm) (live : asm.HopsLive)
    (stepped : asm.step findMatch event = .ok next) : next.HopsLive := by
  intro entry pep held
  have before : (asm.occupant pep.nextHop.1).isSome := by
    rcases (step_routing possible stepped).slot held with old | ⟨link, handle, vacant, linkType, present, completion⟩
    · exact live entry pep old
    · rw [completion.hop, occupant, Option.isSome_map]
      exact present
  rw [step_occupant stepped]
  cases event with
  | addPeer link linkType =>
    simp only [occupantAfter]
    split
    · rfl
    · exact before
  | dropPeer link =>
    have elsewhere := (dropPeer_covered stepped).mpr covers entry pep held
    simp only [occupantAfter]
    rw [if_neg elsewhere]
    exact before
  | bindActorAddressRequest ingress txnId packetBody | streamIdRequest ingress txnId visaId
  | visaReply index reply | nextHopResponse egress txnId response vacant | unbindIndication ingress streamId
  | visaGrant visa | visaRevocation id | expirations currentTime | setAddresses link addresses aaaAddress => exact before

/-- A dropped peer leaves no route to it exactly when the routes to it are covered. In a run
whose drops are all covered every route leads to an occupied link, and a peer that is given a
vacant link id finds no route to it. -/
theorem dropPeer_leaves_no_route :
    (∀ (asm next : Assembly) (link : LinkId), asm.step findMatch (.dropPeer link) = .ok next →
      ((∀ entry pep, next.routeAt entry = some pep → pep.nextHop.1 ≠ link) ↔ asm.Covered link)) ∧
    ∀ (addrs : List IpAddress) (visas : VisaTable) (events : List Event) (final : Assembly),
      Runs.Run (Assembly.step findMatch) (fun asm event => event.Possible asm ∧ event.CoversDrop asm)
        (Assembly.start addrs visas) events final →
      final.HopsLive ∧ ∀ link linkType next, (Event.addPeer link linkType).Possible final →
        final.step findMatch (.addPeer link linkType) = .ok next →
        ∀ entry pep, next.routeAt entry = some pep → pep.nextHop.1 ≠ link := by
  refine ⟨fun asm next link dropped => dropPeer_covered dropped, ?_⟩
  intro addrs visas events final run
  have live : final.HopsLive := by
    refine run.invariant HopsLive ?_ ?_
    · intro asm event next allowed live stepped
      exact hopsLive_step allowed.1 allowed.2 live stepped
    intro entry pep held
    have empty := start_slot addrs visas entry
    rw [show (Assembly.start addrs visas).routing.slot entry = some pep from held] at empty
    cases empty
  refine ⟨live, ?_⟩
  intro link linkType next possible stepped entry pep held hop
  cases stepped
  have before : final.routeAt entry = some pep := by
    have routes := addPeer_routing possible.2.1 linkType
    exact (congrArg (fun routes => routes.slot entry) routes).symm.trans held
  have occupied := live entry pep before
  rw [hop, occupant, possible.2.1] at occupied
  cases occupied

end Assembly

namespace Sample

/-- The second adapter gets the first one's address too, and a route to itself under the
visa of the first. -/
def looped : List Event := bound ++ [.setAddresses 4 [dest, source] none, .bindActorAddressRequest 4 5 (packet 53),
  .nextHopResponse 4 1 (.success 8) (some 1)]

end Sample

namespace Assembly

theorem dropPeer_leaves_no_route_looped : ∃ final next : Assembly,
    Runs.Run (Assembly.step Sample.firstMatch) (fun asm event => event.Possible asm ∧ event.CoversDrop asm) Sample.node
      Sample.looped final ∧ final.routeAt (3, 1) = some Sample.route ∧ final.Covered 4 ∧ final.HopsLive ∧
    final.step Sample.firstMatch (.dropPeer 4) = .ok next ∧
    ∀ entry pep, next.routeAt entry = some pep → pep.nextHop.1 ≠ 4 := by
  simp only [exists_and_left]
  refine Runs.Run.exists_imp (fun final => final.routeAt (3, 1) = some route ∧ final.Covered 4 ∧
    (final.dropPeer 4).toOption.isSome) (by decide +kernel) fun final run ⟨held, covered, works⟩ => ?_
  cases dropped : final.step firstMatch (.dropPeer 4) with
  | error problem =>
    rw [show final.dropPeer 4 = .error problem from dropped] at works
    cases works
  | ok next =>
    have live := (dropPeer_leaves_no_route.2 _ _ _ _ run).1
    have gone := (dropPeer_leaves_no_route.1 final next 4 dropped).mpr covered
    exact ⟨held, covered, live, next, rfl, gone⟩

/-- The egress peer of a route goes and another takes its link id. The visa of the route lists
only the ingress slot, so the route stays and now leads to the other peer. -/
theorem route_leads_to_next_occupant : ∃ final : Assembly,
    Runs.Run (Assembly.step Sample.firstMatch) (fun asm event => event.Possible asm) Sample.node
      (Sample.bound ++ [.dropPeer 4, .addPeer 4 .nodeToAdapter]) final ∧
    final.routeAt (3, 1) = some Sample.route ∧ Sample.route.nextHop.1 = 4 ∧
    final.occupant 4 = some (4, .nodeToAdapter) :=
  Runs.Run.exists_of_execWhere (by decide +kernel)

end Assembly
end ZprCore.Node
