import ZprCore.Node.Tether
import ZprCore.Proofs.Outbox

/-! Tethers through the egress adapter. The node names a stream to the adapter by the id that
the stream has on its ingress link, so an unbind finds the tether it is meant for only where
the two ids are the same. -/

namespace ZprCore.Node
open Datapath (IpAddress FiveTuple MicvKey)
open Panic Runs Table List Option Function BackRefs Assembly

namespace Assembly
variable {asm next : Assembly} {link : LinkId} {txnId : TxnId} {handle : TxnHandle} {response : NextHopResponse}
  {vacant : Option StreamId} {entry : ForwardingEntry} {pep : PftPep}

theorem completeTether_tether (completed : asm.completeTether link handle response vacant = .ok next)
    (held : next.routing.slot entry = some pep) (new : asm.routing.slot entry ≠ some pep) :
    response = .success pep.nextHop.2 := by
  cases response
  all_goals
    obtain ⟨⟨originator, resolved⟩, resolving, rest⟩ := bind_ok.mp completed
    have routes := (resolve_cases resolving).1.toFrame.routes.routing
    obtain problem | request := originator
    · cases rest
      rw [routes] at held
      exact absurd held new
  case success tether =>
    obtain ⟨_, same | ⟨session, linkType, visaId, egress, txn, key, _, _, _, _, filled | refused⟩⟩ :=
      requestedTetherGranted_cases rest
    · rw [same, routes] at held
      exact absurd held new
    · rw [filled.2, routes] at held
      simp only [BackRefs.put, BackRefs.link, update_apply] at held
      split at held
      · cases held
        rfl
      · exact absurd held new
    · rw [refused.2, routes] at held
      exact absurd held new
  case other reason =>
    rw [(bindReject_steady rest).2, routes] at held
    exact absurd held new

theorem handleNextHopResponse_route (handled : asm.handleNextHopResponse link txnId response vacant = .ok next)
    (held : next.routeAt entry = some pep) :
    asm.routeAt entry = some pep ∨ (response = .success pep.nextHop.2 ∧ pep.nextHop.1 = link ∧ vacant = some entry.2 ∧
      ∃ txn, asm.originator link txnId = some (entry.1, txn)) := by
  by_cases old : asm.routeAt entry = some pep
  · exact .inl old
  refine .inr ?_
  obtain ⟨_, same | ⟨peer, occupied, same | ⟨ingress, linkType, key, new, completion, outcome⟩⟩⟩ :=
    handleNextHopResponse_cases handled
  · exact absurd ((congrFun (congrArg BackRefs.slot same) entry).symm.trans held) old
  · exact absurd ((congrFun (congrArg BackRefs.slot same) entry).symm.trans held) old
  have filled : entry = (ingress, key) ∧ pep = new := by
    have slot : next.routing.slot entry = some pep := held
    rcases outcome with ⟨_, routes⟩ | ⟨_, routes⟩
    · rw [routes] at slot
      simp only [BackRefs.put, BackRefs.link, update_apply] at slot
      split at slot
      · next same =>
        cases slot
        exact ⟨same, rfl⟩
      · exact absurd slot old
    · rw [routes] at slot
      exact absurd slot old
  obtain ⟨rfl, rfl⟩ := filled
  obtain ⟨txn, noted, _⟩ := completion.origin
  refine ⟨?_, completion.hop, completion.offered, txn, (originator_of_peer occupied txnId).trans noted⟩
  simp only [handleNextHopResponse, occupied] at handled
  split at handled
  · cases handled
    exact absurd held old
  next txnMgr counted =>
  obtain ⟨answered, work, dropped⟩ := bind_ok.mp handled
  have opening := Frame.setMgr asm link txnMgr
  have closing := (updateTxn_frame dropped).hideBinds.routes.routing
  refine completeTether_tether work ((congrFun (congrArg BackRefs.slot closing) _).symm.trans held) ?_
  rw [opening.hideBinds.routes.routing]
  exact old

end Assembly

theorem RouteChange.answers {asm event routes entry pep} (change : Assembly.RouteChange asm event routes)
    (held : routes.slot entry = some pep) :
    asm.routing.slot entry = some pep ∨ ∃ link txnId response vacant, event = .nextHopResponse link txnId response vacant := by
  cases change with
  | kept | entered brings | refused occupied completion requests => exact .inl held
  | completed occupied completion requests => exact .inr ⟨_, _, _, _, rfl⟩
  | unbound found =>
    simp only [unlink, freeWhere] at held
    split at held
    · cases held
    · exact .inl held
  | revoked id => exact .inl (slot_revoke.mp held).1
  | expired currentTime => exact .inl (slot_revokeAll.mp held).1
  | dropped link =>
    simp only [freeWhere] at held
    split at held
    · cases held
    · exact .inl (slot_revokeAll.mp held).1

theorem Assembly.step_route {findMatch} {asm next} {event : Event}
    {entry} {pep : PftPep} (possible : event.Possible asm) (stepped : asm.step findMatch event = .ok next)
    (held : next.routeAt entry = some pep) :
    asm.routeAt entry = some pep ∨ ∃ txnId, event = .nextHopResponse pep.nextHop.1 txnId (.success pep.nextHop.2) (some entry.2) ∧
      ∃ txn, asm.originator pep.nextHop.1 txnId = some (entry.1, txn) := by
  rcases RouteChange.answers (step_routing possible stepped) held with old | ⟨link, txnId, response, vacant, rfl⟩
  · exact .inl old
  refine (handleNextHopResponse_route stepped held).imp_right ?_
  rintro ⟨rfl, rfl, rfl, origin⟩
  exact ⟨txnId, rfl, origin⟩

/-- Nothing refers to an entry of the dock lookup table. -/
def Tethering.Unused (link : LinkId) (sys : Tethering) : Prop :=
  sys.toAdapter.isEmpty ∧ sys.toNode.isEmpty ∧
    ∀ place ∈ sys.node.peerTable.pairs, ∀ route ∈ place.2.pft.pairs, route.2.nextHop.1 ≠ link

instance (link : LinkId) (sys : Tethering) : Decidable (sys.Unused link) :=
  inferInstanceAs (Decidable (_ ∧ _ ∧ ∀ place ∈ Table.pairs _, ∀ route ∈ Table.pairs _, _))

/-- A stream is unbound only if its id is also the id of its tether, and the adapter does not
lose entries that are in use. -/
def TetherEvent.Matching (link : LinkId) (sys : Tethering) : TetherEvent → Prop
  | .node (.unbindIndication ingress streamId) =>
    ∀ pep ∈ sys.node.routeAt (ingress, streamId), pep.nextHop.1 = link → pep.nextHop.2 = streamId
  | .clear => sys.Unused link
  | .node (.bindActorAddressRequest ..) | .node (.streamIdRequest ..) | .node (.visaReply ..)
  | .node (.nextHopResponse ..) | .node (.visaGrant _) | .node (.visaRevocation _) | .node (.expirations _)
  | .node (.addPeer ..) | .node (.dropPeer _) | .node (.setAddresses ..) | .deliver .. | .respond .. => True

instance (link : LinkId) (sys : Tethering) (event : TetherEvent) : Decidable (event.Matching link sys) := by
  unfold TetherEvent.Matching
  split <;> infer_instance

/-- How far the bind of a tether has come: its response is on the way, it has a route, or its
unbind is on the way. -/
inductive Stage where
  | answering
  | bound (entry : ForwardingEntry)
  | closing

def ToNode.tether (reply : ToNode) : Option StreamId :=
  match reply.response with
  | .success tid => some tid
  | .other _ => none

/-- What an item stands for, nothing else in the list stands for. -/
private theorem nodup_erased {α β : Type} {items : List α} {view : α → Option β} {index item value}
    (once : (items.filterMap view).Nodup) (taken : items[index]? = some item) (stands : view item = some value) :
    value ∉ (items.eraseIdx index).filterMap view ∧ ((items.eraseIdx index).filterMap view).Nodup := by
  obtain ⟨inside, rfl⟩ := List.getElem?_eq_some_iff.mp taken
  have whole : items = items.take index ++ items[index] :: items.drop (index + 1) := by
    rw [← drop_eq_getElem_cons inside, take_append_drop]
  rw [whole, filterMap_append, filterMap_cons_some stands, nodup_middle, nodup_cons] at once
  rw [eraseIdx_eq_take_drop_succ, filterMap_append]
  exact once

namespace Tethering
variable {link : LinkId} {stage} {sys : Tethering} {node : Assembly} {entry : ForwardingEntry}
  {index : Nat} {tid : StreamId}

/-- The bind that created the entry of a tether. -/
def bindOf (sys : Tethering) (tid : StreamId) : Option Nat := (sys.dlt.get tid).map DltEntry.bind

/-- Whatever refers to a tether finds the entry of its own bind, and nothing else refers to it. -/
structure Tied (link : LinkId) (stage : StreamId → Stage) (sys : Tethering) : Prop where
  replies : ∀ reply ∈ sys.toNode, ∀ tid, reply.tether = some tid →
    stage tid = .answering ∧ sys.bindOf tid = some reply.bind
  repliesOnce : (sys.toNode.filterMap ToNode.tether).Nodup
  routes : ∀ entry pep, sys.node.routeAt entry = some pep → pep.nextHop.1 = link →
    stage pep.nextHop.2 = .bound entry ∧ ∃ bind, sys.routed.get entry = some bind ∧ sys.bindOf pep.nextHop.2 = some bind
  unbinds : ∀ sent ∈ sys.toAdapter, ∀ tid, sent.message.unbinds = some tid →
    stage tid = .closing ∧ ∃ bind, sent.bind = some bind ∧ sys.bindOf tid = some bind
  unbindsOnce : (sys.toAdapter.filterMap fun sent => sent.message.unbinds).Nodup
  exact : ∀ removal ∈ sys.removed, ∃ bind, removal = (some bind, some bind)

namespace Tied
variable {node : Assembly} {entry : ForwardingEntry} {tid : StreamId}

section
variable (tied : Tied link stage sys)
include tied

theorem shrink {more}
    (routes : ∀ entry pep, node.routeAt entry = some pep → pep.nextHop.1 = link → sys.node.routeAt entry = some pep)
    (quiet : ∀ sent ∈ more, sent.message.unbinds = none) :
    Tied link stage { sys with node, toAdapter := sys.toAdapter ++ more } where
  replies := tied.replies
  repliesOnce := tied.repliesOnce
  routes entry pep held hop := tied.routes entry pep (routes entry pep held hop) hop
  unbinds sent listed tid unbinding := by
    rcases mem_append.mp listed with old | new
    · exact tied.unbinds sent old tid unbinding
    · rw [quiet sent new] at unbinding
      cases unbinding
  unbindsOnce := by
    have none : more.filterMap (fun sent => sent.message.unbinds) = [] := filterMap_eq_nil_iff.mpr quiet
    rw [filterMap_append, none, append_nil]
    exact tied.unbindsOnce
  exact := tied.exact

theorem unbind {pep} (held : sys.node.routeAt entry = some pep) (hop : pep.nextHop = (link, entry.2))
    (gone : node.routeAt entry = none)
    (routes : ∀ other pep, node.routeAt other = some pep → sys.node.routeAt other = some pep) :
    Tied link (update stage entry.2 .closing) { sys with
      node, toAdapter := sys.toAdapter ++ [⟨.unbindEgressStreamRequest entry.2, sys.routed.get entry⟩] } := by
  obtain ⟨bound, bind, recorded, created⟩ := tied.routes entry pep held (congrArg Prod.fst hop)
  rw [hop] at bound created
  have kept {tid} (differs : stage tid ≠ .bound entry) :
      update stage entry.2 .closing tid = stage tid := by
    apply update_of_ne
    intro same
    rw [same] at differs
    exact differs bound
  refine ⟨?_, tied.repliesOnce, ?_, ?_, ?_, tied.exact⟩
  · intro reply listed tid answers
    obtain ⟨answering, found⟩ := tied.replies reply listed tid answers
    rw [kept (by rw [answering]; nofun)]
    exact ⟨answering, found⟩
  · intro other route still leads
    obtain ⟨stays, found⟩ := tied.routes other route (routes other route still) leads
    rw [kept]
    · exact ⟨stays, found⟩
    intro same
    rw [stays] at same
    cases same
    rw [gone] at still
    cases still
  · intro sent listed tid unbinding
    rcases mem_append.mp listed with old | new
    · obtain ⟨closing, found⟩ := tied.unbinds sent old tid unbinding
      rw [kept (by rw [closing]; nofun)]
      exact ⟨closing, found⟩
    cases mem_singleton.mp new
    cases unbinding
    exact ⟨update_self _ _ _, bind, recorded, created⟩
  · rw [filterMap_append]
    refine nodup_append.mpr ⟨tied.unbindsOnce, nodup_singleton _, ?_⟩
    rintro tid old _ new rfl
    cases mem_singleton.mp new
    obtain ⟨sent, listed, unbinding⟩ := mem_filterMap.mp old
    have closing := (tied.unbinds sent listed _ unbinding).1
    rw [bound] at closing
    cases closing

theorem create (free : sys.dlt.get tid = none) (txnId : TxnId) (pep : Datapath.DltPep) :
    Tied link (update stage tid .answering) { sys with
      dlt := sys.dlt.insert tid ⟨pep, sys.binds⟩
      toNode := sys.toNode ++ [⟨txnId, .success tid, sys.binds⟩]
      binds := sys.binds + 1 } := by
  have unborn : sys.bindOf tid = none := by rw [bindOf, free, map_none]
  -- whatever refers to a tether finds an entry, so nothing refers to this one
  have kept {other bind} (found : sys.bindOf other = some bind) :
      update stage tid .answering other = stage other ∧
        (Table.get (sys.dlt.insert tid (DltEntry.mk pep sys.binds)) other).map DltEntry.bind = some bind := by
    have different : other ≠ tid := by
      rintro rfl
      rw [unborn] at found
      cases found
    refine ⟨update_of_ne different _ _, ?_⟩
    rw [get_insert, if_neg different]
    exact found
  refine ⟨?_, ?_, ?_, ?_, tied.unbindsOnce, tied.exact⟩
  · intro reply listed other answers
    rcases mem_append.mp listed with old | new
    · obtain ⟨answering, found⟩ := tied.replies reply old other answers
      rw [(kept found).1]
      exact ⟨answering, (kept found).2⟩
    cases mem_singleton.mp new
    cases answers
    refine ⟨update_self _ _ _, ?_⟩
    simp only [bindOf, get_insert, if_true, map_some]
  · rw [filterMap_append]
    refine nodup_append.mpr ⟨tied.repliesOnce, nodup_singleton _, ?_⟩
    rintro other old _ new rfl
    cases mem_singleton.mp new
    obtain ⟨reply, listed, answers⟩ := mem_filterMap.mp old
    have found := (tied.replies reply listed _ answers).2
    rw [unborn] at found
    cases found
  · intro entry route held leads
    obtain ⟨bound, bind, recorded, found⟩ := tied.routes entry route held leads
    rw [(kept found).1]
    exact ⟨bound, bind, recorded, (kept found).2⟩
  · intro sent listed other unbinding
    obtain ⟨closing, bind, meant, found⟩ := tied.unbinds sent listed other unbinding
    rw [(kept found).1]
    exact ⟨closing, bind, meant, (kept found).2⟩

/-- A message of another kind is handled, or a response that names no tether is on its way. -/
theorem pass {toAdapter} (fewer : toAdapter.Sublist sys.toAdapter) {more} (refused : ∀ reply ∈ more, reply.tether = none)
    (binds : Nat) :
    Tied link stage { sys with toAdapter, toNode := sys.toNode ++ more, binds } where
  replies reply listed tid answers := by
    rcases mem_append.mp listed with old | new
    · exact tied.replies reply old tid answers
    · rw [refused reply new] at answers
      cases answers
  repliesOnce := by
    have none : more.filterMap ToNode.tether = [] := filterMap_eq_nil_iff.mpr refused
    rw [filterMap_append, none, append_nil]
    exact tied.repliesOnce
  routes := tied.routes
  unbinds sent listed := tied.unbinds sent (fewer.subset listed)
  unbindsOnce := tied.unbindsOnce.sublist (fewer.filterMap _)
  exact := tied.exact

theorem remove {sent} (taken : sys.toAdapter[index]? = some sent) (unbinding : sent.message.unbinds = some tid) :
    Tied link stage ({ sys with toAdapter := sys.toAdapter.eraseIdx index }.unbindStream tid sent.bind) := by
  obtain ⟨closing, bind, meant, found⟩ := tied.unbinds sent (mem_of_getElem? taken) tid unbinding
  obtain ⟨single, once⟩ := nodup_erased tied.unbindsOnce taken unbinding
  have kept {other} (different : other ≠ tid) :
      ({ sys with toAdapter := sys.toAdapter.eraseIdx index }.unbindStream tid sent.bind).bindOf other = sys.bindOf other := by
    simp only [bindOf, unbindStream, get_erase, if_neg different]
  have differs {other} (elsewhere : stage other ≠ .closing) : other ≠ tid := by
    rintro rfl
    exact elsewhere closing
  refine ⟨?_, tied.repliesOnce, ?_, ?_, once, ?_⟩
  · intro reply listed other answers
    obtain ⟨answering, created⟩ := tied.replies reply listed other answers
    rw [kept (differs (by rw [answering]; simp))]
    exact ⟨answering, created⟩
  · intro entry pep held leads
    obtain ⟨bound, there⟩ := tied.routes entry pep held leads
    rw [kept (differs (by rw [bound]; simp))]
    exact ⟨bound, there⟩
  · intro other listed id also
    rw [kept]
    · exact tied.unbinds other (mem_of_mem_eraseIdx listed) id also
    · rintro rfl
      exact single (mem_filterMap.mpr ⟨other, listed, also⟩)
  · intro removal logged
    rcases mem_append.mp logged with old | new
    · exact tied.exact removal old
    refine ⟨bind, (mem_singleton.mp new).trans ?_⟩
    rw [meant]
    exact congrArg _ found

theorem record (free : sys.node.routeAt entry = none) (bind : Nat) :
    Tied link stage { sys with routed := sys.routed.insert entry bind } where
  replies := tied.replies
  repliesOnce := tied.repliesOnce
  routes other pep held leads := by
    have different : other ≠ entry := by
      rintro rfl
      rw [free] at held
      cases held
    simp only [get_insert, if_neg different]
    exact tied.routes other pep held leads
  unbinds := tied.unbinds
  unbindsOnce := tied.unbindsOnce
  exact := tied.exact

theorem dropReply {toNode} (fewer : toNode.Sublist sys.toNode) :
    Tied link stage { sys with toNode } where
  replies reply listed := tied.replies reply (fewer.subset listed)
  repliesOnce := tied.repliesOnce.sublist (fewer.filterMap _)
  routes := tied.routes
  unbinds := tied.unbinds
  unbindsOnce := tied.unbindsOnce
  exact := tied.exact

theorem install {reply : ToNode} (taken : sys.toNode[index]? = some reply) (answers : reply.tether = some tid)
    (recorded : sys.routed.get entry = some reply.bind) (free : sys.node.routeAt entry = none)
    (routes : ∀ other pep, node.routeAt other = some pep → pep.nextHop.1 = link →
      sys.node.routeAt other = some pep ∨ other = entry ∧ pep.nextHop.2 = tid) :
    Tied link (update stage tid (.bound entry)) { sys with node, toNode := sys.toNode.eraseIdx index } := by
  obtain ⟨answering, created⟩ := tied.replies reply (mem_of_getElem? taken) tid answers
  obtain ⟨single, once⟩ := nodup_erased tied.repliesOnce taken answers
  have kept {other} (differs : stage other ≠ .answering) :
      update stage tid (.bound entry) other = stage other := by
    apply update_of_ne
    rintro rfl
    exact differs answering
  refine ⟨?_, once, ?_, ?_, tied.unbindsOnce, tied.exact⟩
  · intro other listed id also
    rw [update_of_ne]
    · exact tied.replies other (mem_of_mem_eraseIdx listed) id also
    · rintro rfl
      exact single (mem_filterMap.mpr ⟨other, listed, also⟩)
  · intro other pep held leads
    rcases routes other pep held leads with old | ⟨rfl, rfl⟩
    · obtain ⟨bound, there⟩ := tied.routes other pep old leads
      rw [kept (by rw [bound]; nofun)]
      exact ⟨bound, there⟩
    · exact ⟨update_self _ _ _, reply.bind, recorded, created⟩
  · intro sent listed id unbinding
    obtain ⟨closing, there⟩ := tied.unbinds sent listed id unbinding
    rw [kept (by rw [closing]; nofun)]
    exact ⟨closing, there⟩

end

/-- Without references, any table will do. -/
theorem of_unused (unused : sys.Unused link) (exact : ∀ removal ∈ sys.removed, ∃ bind, removal = (some bind, some bind)) :
    Tied link stage sys := by
  obtain ⟨noMessage, noReply, unrouted⟩ := unused
  have noMessage := List.isEmpty_iff.mp noMessage
  have noReply := List.isEmpty_iff.mp noReply
  refine ⟨?_, by simp [noReply], ?_, ?_, by simp [noMessage], exact⟩
  · intro reply listed
    rw [noReply] at listed
    cases listed
  · intro entry pep held leads
    obtain ⟨peer, occupied, stored⟩ := bind_eq_some_iff.mp held
    exact absurd leads (unrouted (entry.1, peer) ((mem_pairs _ _ _).mpr occupied) (entry.2, pep)
      ((mem_pairs _ _ _).mpr stored))
  · intro sent listed
    rw [noMessage] at listed
    cases listed

end Tied
variable {findMatch} {micvKey}
  {said : List (LinkId × Message)} {vacant : Option StreamId}

theorem observe_appended (appended : node.outbox = sys.node.outbox ++ said) (bind : Option Nat) :
    sys.observe link node bind = { sys with
      node, toAdapter := sys.toAdapter ++ (said.filter fun sent => sent.1 == link).map fun sent => ⟨sent.2, bind⟩ } := by
  simp only [observe, appended, drop_left]

/-- What a node says in a step: it unbinds nothing, or it unbinds the stream of an indication. -/
theorem step_said {asm next : Assembly} {event} (stepped : asm.step findMatch event = .ok next) :
    ∃ said, next.outbox = asm.outbox ++ said ∧ ((∀ sent ∈ said, sent.2.unbinds = none) ∨ ∃ ingress streamId pep,
      event = .unbindIndication ingress streamId ∧ asm.routeAt (ingress, streamId) = some pep ∧
      next.routeAt (ingress, streamId) = none ∧ said = [(pep.nextHop.1, .unbindEgressStreamRequest streamId)]) := by
  cases step_speech stepped with
  | serves about work =>
    obtain ⟨said, appended, quiet, _⟩ := work.outbox
    exact ⟨said, appended, .inl quiet⟩
  | silent outbox binds => exact ⟨[], by rw [outbox, append_nil], .inl fun _ => nofun⟩
  | unbinds indication held gone outbox binds => exact ⟨_, outbox, .inr ⟨_, _, _, indication, held, gone, rfl⟩⟩

theorem quiet_sent (quiet : ∀ sent ∈ said, sent.2.unbinds = none) (bind : Option Nat) :
    ∀ sent ∈ (said.filter fun sent => sent.1 == link).map fun sent => ToAdapter.mk sent.2 bind, sent.message.unbinds = none := by
  intro sent listed
  obtain ⟨message, kept, rfl⟩ := List.mem_map.mp listed
  exact quiet message (mem_of_mem_filter kept)

theorem node_tied {event : Event} (possible : event.Possible sys.node) (apart : event.Apart link)
    (matching : (TetherEvent.node event).Matching link sys) (tied : Tied link stage sys)
    (stepped : sys.node.step findMatch event = .ok node) :
    ∃ stage, Tied link stage (sys.observe link node (sys.unbound event)) := by
  have routes : ∀ entry pep, node.routeAt entry = some pep → pep.nextHop.1 = link → sys.node.routeAt entry = some pep := by
    intro entry pep held leads
    rcases step_route possible stepped held with old | ⟨txnId, rfl, _⟩
    · exact old
    · exact absurd leads apart
  obtain ⟨said, appended, quiet | ⟨ingress, streamId, pep, rfl, held, gone, rfl⟩⟩ := step_said stepped
  · rw [observe_appended appended]
    exact ⟨stage, tied.shrink routes (quiet_sent quiet _)⟩
  rw [observe_appended appended]
  by_cases leads : pep.nextHop.1 = link
  · have hop : pep.nextHop = (link, streamId) := Prod.ext leads (matching pep held leads)
    refine ⟨update stage streamId .closing, ?_⟩
    rw [filter_singleton, beq_iff_eq.mpr leads]
    refine tied.unbind held hop gone fun other route still => ?_
    rcases step_route possible stepped still with old | ⟨txnId, other, _⟩
    · exact old
    · cases other
  · refine ⟨stage, ?_⟩
    rw [filter_singleton, beq_eq_false_iff_ne.mpr leads]
    exact tied.shrink routes nofun

theorem deliver_tied {sent} (offers : sys.Offers vacant) (taken : sys.toAdapter[index]? = some sent)
    (tied : Tied link stage sys) :
    ∃ stage, Tied link stage ({ sys with toAdapter := sys.toAdapter.eraseIdx index }.receive micvKey sent vacant) := by
  have fewer := eraseIdx_sublist sys.toAdapter index
  have passed : Tied link stage { sys with toAdapter := sys.toAdapter.eraseIdx index } := by
    have same : Tied link stage { sys with toAdapter := sys.toAdapter.eraseIdx index, toNode := sys.toNode ++ [] } :=
      tied.pass fewer (forall_mem_nil _) sys.binds
    rwa [append_nil] at same
  cases message : sent.message with
  | bindEgressStreamRequest txnId tc peerKey =>
    simp only [receive, message]
    cases vacant with
    | some tid => exact ⟨_, passed.create offers.2.2 txnId _⟩
    | none =>
      refine ⟨stage, tied.pass fewer (fun reply listed => ?_) _⟩
      cases mem_singleton.mp listed
      rfl
  | unbindEgressStreamRequest streamId =>
    simp only [receive, message]
    exact ⟨stage, tied.remove taken (by rw [message]; rfl)⟩
  | _ =>
    simp only [receive, message]
    exact ⟨stage, passed⟩

theorem respond_tied {reply : ToNode}
    (possible : (Event.nextHopResponse link reply.txnId reply.response vacant).Possible sys.node)
    (taken : sys.toNode[index]? = some reply) (tied : Tied link stage sys)
    (stepped : sys.node.step findMatch (.nextHopResponse link reply.txnId reply.response vacant) = .ok node) :
    ∃ stage, Tied link stage { sys.observe link node none with
      toNode := sys.toNode.eraseIdx index
      routed := sys.route (sys.node.originator link reply.txnId) vacant reply.bind } := by
  have fewer := eraseIdx_sublist sys.toNode index
  obtain ⟨said, appended, quiet | ⟨_, _, _, other, _⟩⟩ := step_said stepped
  case inr => cases other
  have quiet := @quiet_sent link _ quiet none
  have routes : ∀ {entry pep}, node.routeAt entry = some pep → sys.node.routeAt entry = some pep ∨
      reply.tether = some pep.nextHop.2 ∧ vacant = some entry.2 ∧
        ∃ txn, sys.node.originator link reply.txnId = some (entry.1, txn) := by
    intro entry pep held
    refine (handleNextHopResponse_route stepped held).imp_right fun ⟨success, _, rest⟩ => ⟨?_, rest⟩
    rw [ToNode.tether, success]
  rw [observe_appended appended]
  cases origin : sys.node.originator link reply.txnId with
  | none =>
    -- nobody waits for the answer, so it brings no route
    refine ⟨stage, (tied.shrink (fun entry pep held _ => (routes held).resolve_right ?_) quiet).dropReply fewer⟩
    rintro ⟨_, _, txn, found⟩
    rw [origin] at found
    cases found
  | some request =>
    cases vacant with
    | none =>
      refine ⟨stage, (tied.shrink (fun entry pep held _ => (routes held).resolve_right ?_) quiet).dropReply fewer⟩
      rintro ⟨_, offered, _⟩
      cases offered
    | some key =>
      have free : sys.node.routeAt (request.1, key) = none := by
        cases occupied : sys.node.peerTable.get request.1 with
        | none => simp only [routeAt, occupied, bind_none]
        | some peer =>
          simp only [routeAt, occupied, bind_some]
          exact (possible request origin peer occupied).2.2
      have recorded := tied.record free reply.bind
      cases answers : reply.tether with
      | none =>
        refine ⟨stage, (recorded.shrink (fun entry pep held _ => (routes held).resolve_right ?_) quiet).dropReply fewer⟩
        rintro ⟨found, _⟩
        rw [answers] at found
        cases found
      | some tid =>
        have saying := recorded.shrink (fun _ _ held _ => held) quiet
        refine ⟨_, saying.install taken answers ?_ free fun other pep held _ => (routes held).imp_right ?_⟩
        · rw [get_insert, if_pos rfl]
        rintro ⟨found, offered, txn, asked⟩
        rw [origin] at asked
        rw [answers] at found
        cases asked
        cases offered
        cases found
        exact ⟨rfl, rfl⟩

theorem step_tied {event next} (possible : event.Possible link sys) (matching : event.Matching link sys)
    (tied : Tied link stage sys) (stepped : sys.step findMatch micvKey link event = .ok next) :
    ∃ stage, Tied link stage next := by
  cases event with
  | node event =>
    obtain ⟨node, moved, done⟩ := bind_ok.mp stepped
    cases done
    exact node_tied possible.1 possible.2 matching tied moved
  | deliver index vacant =>
    simp only [step] at stepped
    split at stepped
    · cases stepped
      exact ⟨stage, tied⟩
    next sent taken =>
    cases stepped
    exact deliver_tied possible taken tied
  | respond index vacant =>
    simp only [step] at stepped
    split at stepped
    · cases stepped
      exact ⟨stage, tied⟩
    next reply taken =>
    obtain ⟨node, moved, done⟩ := bind_ok.mp stepped
    cases done
    exact respond_tied (possible reply taken) taken tied moved
  | clear =>
    cases stepped
    exact ⟨stage, .of_unused matching tied.exact⟩

/-- An unbind names the tether of its stream exactly where the stream and the tether have the
same id. In every run in which that is so for all streams that lead to the adapter, every
unbind removes the entry of its own bind. -/
theorem unbind_removes_own_tether (link : LinkId) {node : Assembly} (unused : (start node).Unused link)
    {events : List TetherEvent} {final : Tethering}
    (run : Run (step findMatch micvKey link) (fun sys event => event.Possible link sys ∧ event.Matching link sys)
      (start node) events final) :
    (∀ (asm : Assembly) (entry : ForwardingEntry) (pep : PftPep), asm.isAdapter entry.1 = true →
      asm.routeAt entry = some pep → ((asm.handleUnbindIndication entry.1 entry.2).outbox =
        asm.outbox ++ [(pep.nextHop.1, .unbindEgressStreamRequest pep.nextHop.2)] ↔ pep.nextHop.2 = entry.2)) ∧
    ∀ removal ∈ final.removed, ∃ bind, removal = (some bind, some bind) := by
  refine ⟨?_, ?_⟩
  · intro asm entry pep adapter held
    rw [handleUnbindIndication_eq, if_pos adapter, unbindStream_outbox held, append_cancel_left_eq]
    simp only [cons.injEq, Prod.mk.injEq, Message.unbindEgressStreamRequest.injEq, true_and, and_true]
    exact eq_comm
  · have holds : ∃ stage, Tied link stage final := by
      refine run.invariant (fun sys => ∃ stage, Tied link stage sys) ?_ ?_
      · intro sys event next ⟨possible, matching⟩ ⟨stage, tied⟩ stepped
        exact step_tied possible matching tied stepped
      · exact ⟨fun _ => .closing, .of_unused unused fun _ => nofun⟩
    obtain ⟨stage, tied⟩ := holds
    exact tied.exact

end Tethering

namespace Sample

def otherSource : IpAddress := .newFromV4 #v[10, 0, 0, 3]

/-- The node with three adapters. -/
def joined : Assembly :=
  match exec (Assembly.step firstMatch) node
    (adapters ++ [.addPeer 5 .nodeToAdapter, .setAddresses 5 [otherSource] none]) with
  | .ok asm => asm
  | .error _ => node

def otherRequest : Event := .bindActorAddressRequest 5 9
  ([0x45, 0, 0, 28, 0, 0, 0x40, 0, 64, 17, 38, 205, 10, 0, 0, 3, 10, 0, 0, 2] ++ [0x13, 0x88, 0, 53, 0, 8, 0, 0])

def otherAllowed : Event := .visaReply 0 (.decision (some (.allowed { visa (minVisaId + 1) 53 with
  dockPep := some ⟨⟨otherSource, dest, .ipv4, Datapath.IpNumber.udp, 5000, 53⟩, ⟨[], []⟩⟩ })))

/-- The first adapter has its first stream bound to the first tether of the second adapter. -/
def tethered : List TetherEvent := [.node request, .node allowed, .deliver 0 (some 1), .respond 0 (some 1)]

/-- The third adapter has its first stream bound to the second tether. -/
def crossed : List TetherEvent := [.node otherRequest, .node otherAllowed, .deliver 0 (some 2), .respond 0 (some 1)]

end Sample

theorem Tethering.unbind_removes_first_tether : ∃ final,
    Run (Tethering.step Sample.firstMatch (fun key => key) 4)
      (fun sys event => event.Possible 4 sys ∧ event.Matching 4 sys) (.start Sample.joined)
      (Sample.tethered ++ [.node (.unbindIndication 3 1), .deliver 0 (some 2)]) final ∧
    final.removed = [(some 0, some 0)] ∧ ∀ removal ∈ final.removed, ∃ bind, removal = (some bind, some bind) := by
  refine Run.exists_imp (fun final => final.removed = [(some 0, some 0)]) (by decide +kernel) ?_
  intro final run removed
  exact ⟨removed, (unbind_removes_own_tether 4 (by decide +kernel) run).2⟩

/-- The third adapter unbinds its stream, and the tether of the first adapter is removed. -/
theorem Tethering.unbind_removes_other_tether : ∃ final,
    Run (Tethering.step Sample.firstMatch (fun key => key) 4) (fun sys event => event.Possible 4 sys)
      (.start Sample.joined)
      (Sample.tethered ++ Sample.crossed ++ [.node (.unbindIndication 5 1), .deliver 0 (some 3)]) final ∧
    final.removed = [(some 1, some 0)] ∧
    final.node.routeAt (3, 1) = some ⟨(4, 1), minVisaId⟩ ∧ (final.dlt.get 1).map DltEntry.bind = none ∧
    (final.dlt.get 2).map DltEntry.bind = some 1 :=
  Run.exists_of_execWhere (by decide +kernel)

end ZprCore.Node
