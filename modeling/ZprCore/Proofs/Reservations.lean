import ZprCore.Km.Reservations
import ZprCore.Lib.Leases
import ZprCore.Proofs.AddressPool
import ZprCore.Proofs.Keying

/-! AAA addresses are conserved as long as the pool is not replaced while addresses are out, no
address without the mark of AAA addresses comes back, and no link is dropped with its address. -/

namespace ZprCore.Km
open Datapath (LinkId IpAddress)
open Node (AddressPool Ipv6Net Param aaaId findAaaPrefix hasAaaMark processConfiguration)
open Panic Table List Option Function Multiplexor Leases Reservations
variable {Transport Cert : Type} {request : CloseRequest}

namespace LinkPeer
variable {peer : LinkPeer Transport Cert}

/-- A link to an adapter that has got its Hello. -/
def Late (peer : LinkPeer Transport Cert) : Prop :=
  peer.linkType = .nodeToAdapter ∧ peer.state ≠ .inactive ∧ peer.state ≠ .keying ∧ peer.state ≠ .helloing

variable (late : peer.Late) (request)
include late

theorem Late.initiateClose : (peer.initiateClose request).Late := by
  have external : peer.linkType ≠ .internal := by
    rw [late.1]
    nofun
  rw [LinkPeer.initiateClose, if_neg external]
  dsimp only
  split <;> exact ⟨late.1, nofun, nofun, nofun⟩

theorem Late.processTimeout (echoOutstanding : Bool) : (peer.processTimeout echoOutstanding request).1.Late := by
  have failed : ({ peer with state := .error } : LinkPeer Transport Cert).Late := ⟨late.1, nofun, nofun, nofun⟩
  unfold LinkPeer.processTimeout
  split
  · exact failed.initiateClose request
  · split
    · exact failed.initiateClose request
    · exact late
  · exact late
  · exact late

theorem Late.processEvent (event : LinkEvent) : (peer.processEvent event).1.Late := by
  obtain ⟨adapter, started, keyed, greeted⟩ := id late
  cases event with
  | start =>
    have same : peer.processStart = (peer, none) := if_pos started
    rw [LinkPeer.processEvent, same]
    exact late
  | keyingDone =>
    have same : peer.processKeyingDone = peer := if_pos (.inl keyed)
    rw [LinkPeer.processEvent, same]
    exact late
  | receivedHelloRequest isVs aaa request =>
    have same : peer.processHelloRequest isVs aaa request = peer := if_pos (.inr greeted)
    rw [LinkPeer.processEvent, same]
    exact late
  | receivedHelloResponse success aaa vsBootstrap tunReady request =>
    simp only [LinkPeer.processEvent, LinkPeer.processHelloResponse]
    split
    · exact late.initiateClose request
    · rw [if_pos (.inr greeted)]
      exact late
  | receivedTerminateLink | reset => refine ⟨adapter, ?_, ?_, ?_⟩ <;> rintro ⟨⟩
  | receivedTerminateAck =>
    simp only [LinkPeer.processEvent]
    split <;> exact late
  | receivedDisconnectAck =>
    simp only [LinkPeer.processEvent]
    split
    · refine ⟨adapter, ?_, ?_, ?_⟩ <;> simp
    · exact late
  | close request | error request => exact late.initiateClose request
  | closeDone =>
    simp only [LinkPeer.processEvent, LinkPeer.completeClose]
    split
    · exact late
    · exact late
    · next other => exact absurd adapter other
    · exact late
  | timeout echoOutstanding request => exact late.processTimeout request echoOutstanding

end LinkPeer

namespace Multiplexor
variable {s next : Multiplexor Transport Cert} {link : LinkId}

/-- The link is late. -/
def LateAt (s : Multiplexor Transport Cert) (link : LinkId) : Prop := ∃ peer, s.peers.get link = some peer ∧ peer.Late

variable (late : s.LateAt link)
include late

theorem LateAt.modify (other : LinkId) {change}
    (keeps : ∀ peer, (change peer).linkType = peer.linkType ∧ (change peer).state = peer.state) :
    LateAt { s with peers := s.peers.modify other change } link := by
  obtain ⟨peer, present, adapter, late⟩ := late
  by_cases here : link = other
  · refine ⟨change peer, ?_, (keeps peer).1.trans adapter, ?_⟩
    · rw [get_modify, if_pos here, present, map_some]
    · rwa [(keeps peer).2]
  · exact ⟨peer, (get_modify _ _ _ _).trans ((if_neg here).trans present), adapter, late⟩

theorem LateAt.processLinkStateEvent {other event}
    (stays : ∀ peer, s.peers.get other = some peer → (peer.processEvent event).2 = some .dropPeer → other ≠ link) :
    (s.processLinkStateEvent other event).LateAt link := by
  unfold Multiplexor.processLinkStateEvent
  split
  · exact late
  next peer occupied =>
  have changed : LateAt { s with peers := s.peers.modify other fun _ => (peer.processEvent event).1 } link := by
    obtain ⟨found, present, before⟩ := late
    by_cases here : link = other
    · subst here
      cases present.symm.trans occupied
      exact ⟨_, (get_modify _ _ _ _).trans ((if_pos rfl).trans (by rw [present, map_some])),
        before.processEvent event⟩
    · exact ⟨found, (get_modify _ _ _ _).trans ((if_neg here).trans present), before⟩
  dsimp only
  split
  · exact changed
  · exact changed.modify other fun _ => ⟨rfl, rfl⟩
  · exact changed
  next dropped =>
  obtain ⟨found, present, before⟩ := changed
  have elsewhere := (stays peer occupied dropped).symm
  exact ⟨found, (get_erase _ _ _).trans ((if_neg elsewhere).trans present), before⟩

theorem LateAt.removeKmState (other : LinkId) : (s.removeKmState other).2.LateAt link := by
  have cleared : (s.clearSecurityAssociation other).LateAt link := late.modify other fun _ => ⟨rfl, rfl⟩
  simp only [Multiplexor.removeKmState]
  split
  · exact cleared
  · exact cleared.modify other fun _ => ⟨rfl, rfl⟩

theorem LateAt.step {event} (stepped : s.step event = .ok next)
    (free : ∀ other linkType, event = .insert other linkType → s.peers.get other = none)
    (stays : s.linkEffect event ≠ some (link, .dropPeer)) : next.LateAt link := by
  have handles {other : LinkId} {ev : LinkEvent} (found : s.linkEvent event = some (other, ev)) (peer : LinkPeer Transport Cert)
      (occupied : s.peers.get other = some peer) (dropped : (peer.processEvent ev).2 = some .dropPeer) : other ≠ link := by
    rintro rfl
    apply stays
    simp only [linkEffect, found, occupied, dropped, bind_eq_bind, bind_some]
    rfl
  cases event with
  | insert other linkType =>
    cases stepped
    obtain ⟨peer, present, before⟩ := late
    have elsewhere : link ≠ other := by
      rintro rfl
      cases present.symm.trans (free _ linkType rfl)
    exact ⟨peer, (get_insert _ _ _ _).trans ((if_neg elsewhere).trans present), before⟩
  | link other ev =>
    cases stepped
    exact late.processLinkStateEvent (handles rfl)
  | transition index state | fail index =>
    cases stepped
    exact late
  | send index | terminate index =>
    simp only [Multiplexor.step] at stepped
    split at stepped
    · split at stepped
      · cases stepped
        exact late
      · cases stepped
        exact late
    · cases stepped
      exact late
  | restart other =>
    simp only [Multiplexor.step] at stepped
    split at stepped
    · cases stepped
      exact late
    · cases stepped
      exact late
  | signal =>
    cases stepped
    unfold takeSignal
    split
    · exact late
    · exact late
    · exact LateAt.modify (s := { s with signals := _, keyingDone := _ }) late _ fun _ => ⟨rfl, rfl⟩
    · exact late
  | keyingDone =>
    simp only [Multiplexor.step] at stepped
    split at stepped
    · next other waiting =>
      cases stepped
      have found : s.linkEvent .keyingDone = some (other, .keyingDone) := by
        rw [linkEvent, waiting, map_some]
      exact LateAt.processLinkStateEvent (s := { s with keyingDone := none }) late (handles found)
    · cases stepped
      exact late
  | drop index =>
    cases stepped
    unfold dropLink
    split
    · exact late
    · exact late.modify _ fun _ => ⟨rfl, rfl⟩
    · exact late.removeKmState _
    · split
      · exact late
      · exact late
    next other found =>
    have closing : s.linkEvent (.drop index) = some (other, .closeDone) := by
      rw [linkEvent, found]
    exact LateAt.processLinkStateEvent (s := { s with drops := s.drops.eraseIdx index }) late (handles closing)

end Multiplexor

namespace Reservations
variable {s next : Reservations Transport Cert} {parse}
variable {link : LinkId} {event}

/-- Addresses as items that the pool leases to links. -/
def leases (s : Reservations Transport Cert) : Leases LinkId IpAddress Nat where
  held := s.aaaAddress.get
  active := { id | ∃ pool, s.addressPool = some pool ∧ id ∈ pool.active }

/-- Links with addresses are late. -/
def Placed (s : Reservations Transport Cert) : Prop :=
  ∀ link aaa, s.aaaAddress.get link = some aaa → s.links.LateAt link

/-- The pool that a configuration brings, if it is accepted. -/
def newPool (parse : String → Option Ipv6Net) (params : List Param) : Option AddressPool :=
  match findAaaPrefix params none with
  | .ok (some net) => (parse net).bind fun ipnet => (AddressPool.new ipnet).toOption
  | _ => none

/-- Events after which the pool and the links disagree. -/
def Leaks (parse : String → Option Ipv6Net) (s : Reservations Transport Cert) : ReservationEvent Transport Cert → Prop
  | .configure params => (newPool parse params).isSome = true ∧ ∃ link aaa, s.aaaAddress.get link = some aaa
  | .links event => ∃ link aaa, s.aaaAddress.get link = some aaa ∧ (s.links.linkEffect event = some (link, .dropPeer) ∨
      s.links.linkEffect event = some (link, .dropLink) ∧ hasAaaMark aaa = false)
  | .helloRequest _ _ _ _ => False

/-- The address an event reserves, with the link it is for. -/
def reserved (s : Reservations Transport Cert) : ReservationEvent Transport Cert → Option (LinkId × IpAddress)
  | .helloRequest link _ _ random =>
    match s.links.peers.get link, s.addressPool with
    | some peer, some pool =>
      if peer.linkType = .nodeToAdapter ∧ peer.state = .helloing then
        (pool.getAaaAddress random).map fun (aaa, _) => (link, aaa)
      else none
    | _, _ => none
  | _ => none

/-- The address the pool takes back in an event, with the link that is cleaned up. -/
def released (s : Reservations Transport Cert) : ReservationEvent Transport Cert → Option (LinkId × IpAddress)
  | .links event =>
    match s.links.linkEffect event with
    | some (link, .dropLink) =>
      match s.aaaAddress.get link, s.addressPool with
      | some aaa, some _ => if hasAaaMark aaa then some (link, aaa) else none
      | _, _ => none
    | _ => none
  | _ => none

theorem leases_erase (s : Reservations Transport Cert) (link : LinkId) :
    ({ s with aaaAddress := s.aaaAddress.erase link } : Reservations Transport Cert).leases = s.leases.lose link := by
  simp only [leases, Leases.lose, Leases.mk.injEq, and_true]
  funext other
  rw [get_erase, update_apply]

/-- What an event can do to the leases. -/
inductive Change (parse : String → Option Ipv6Net) (s : Reservations Transport Cert)
    (event : ReservationEvent Transport Cert) : Leases LinkId IpAddress Nat → Prop where
  | kept (safe : ¬ s.Leaks parse event) (idle : s.reserved event = none ∧ s.released event = none) :
      Change parse s event s.leases
  | leased {link : LinkId} {aaa} (safe : ¬ s.Leaks parse event) (vacant : s.aaaAddress.get link = none)
      (fresh : aaaId aaa ∉ s.leases.active) (taken : s.reserved event = some (link, aaa) ∧ s.released event = none) :
      Change parse s event (s.leases.lease aaaId link aaa)
  | released {link : LinkId} {aaa} (safe : ¬ s.Leaks parse event) (held : s.aaaAddress.get link = some aaa)
      (back : s.reserved event = none ∧ s.released event = some (link, aaa)) :
      Change parse s event (s.leases.release aaaId link aaa)
  | lost {link : LinkId} {aaa} (leaks : s.Leaks parse event) (held : s.aaaAddress.get link = some aaa) :
      Change parse s event (s.leases.lose link)
  | renewed (leaks : s.Leaks parse event ↔ ∃ link aaa, s.aaaAddress.get link = some aaa)
      (idle : s.reserved event = none ∧ s.released event = none) : Change parse s event s.leases.renew

theorem processConfiguration_pool (params : List Param) (addressPool : Option AddressPool) :
    (processConfiguration parse params addressPool).2 = (newPool parse params).or addressPool := by
  simp only [processConfiguration, newPool]
  cases findAaaPrefix params none with
  | error problem => rfl
  | ok found =>
    cases found with
    | none => rfl
    | some net =>
      simp only
      cases parse net with
      | none => rfl
      | some ipnet =>
        simp only [bind_some]
        cases AddressPool.new ipnet with
        | error problem => rfl
        | ok pool => rfl

theorem newPool_active {params pool} (new : newPool parse params = some pool) : pool.active = ∅ := by
  simp only [newPool] at new
  split at new
  · obtain ⟨ipnet, _, made⟩ := bind_eq_some_iff.mp new
    simp only [AddressPool.new] at made
    split at made
    · cases made
    · cases made
      rfl
  · cases new

theorem configure_change (params : List Param) : Change parse s (.configure params)
    ({ s with addressPool := (processConfiguration parse params s.addressPool).2 } : Reservations Transport Cert).leases := by
  rw [processConfiguration_pool]
  cases new : newPool parse params with
  | none =>
    refine .kept (fun ⟨accepted, _⟩ => ?_) ⟨rfl, rfl⟩
    rw [new] at accepted
    cases accepted
  | some pool =>
    have renewed : ({ s with addressPool := (some pool).or s.addressPool } : Reservations Transport Cert).leases =
        s.leases.renew := by
      simp only [leases, renew, some_or, some.injEq, exists_eq_left', newPool_active new,
        Finset.notMem_empty, Set.ofPred_false]
    rw [renewed]
    refine .renewed ⟨And.right, fun held => ⟨?_, held⟩⟩ ⟨rfl, rfl⟩
    rw [new]
    rfl

theorem lose_vacant (vacant : s.aaaAddress.get link = none) : s.leases.lose link = s.leases := by
  have same : update s.leases.held link none = s.leases.held := by
    rw [← vacant]
    exact update_eq_self link s.leases.held
  rw [lose, same]

theorem hello_effect (links : Multiplexor Transport Cert) (link : LinkId) (isVs aaa : Bool) (request : CloseRequest) :
    links.linkEffect (.link link (.receivedHelloRequest isVs aaa request)) = none := by
  simp only [linkEffect, linkEvent, bind_eq_bind, bind_some]
  cases links.peers.get link with
  | none => rfl
  | some peer => rfl

/-- A Hello of a link that does not expect one changes nothing; otherwise the link is given an
address, if there is a pool. -/
theorem processHelloRequest_cases {isVs random} (processed : s.processHelloRequest link isVs request random = .ok next) :
    next = s ∧ s.reserved (.helloRequest link isVs request random) = none ∨
    ∃ peer, s.links.peers.get link = some peer ∧ peer.linkType = .nodeToAdapter ∧ peer.state = .helloing ∧
      ((s.addressPool = none ∧ next.aaaAddress = s.aaaAddress ∧ next.addressPool = none ∧
        s.links.step (.link link (.receivedHelloRequest isVs false request)) = .ok next.links) ∨
      ∃ pool aaa left, s.addressPool = some pool ∧ pool.getAaaAddress random = some (aaa, left) ∧
        next.aaaAddress = s.aaaAddress.insert link aaa ∧ next.addressPool = some left ∧
        s.links.step (.link link (.receivedHelloRequest isVs true request)) = .ok next.links) := by
  have advance_hello {aaa : Bool} {after : Reservations Transport Cert}
      (advanced : s.advance (.link link (.receivedHelloRequest isVs aaa request)) = .ok after) :
      after.aaaAddress = s.aaaAddress ∧ after.addressPool = s.addressPool ∧
        s.links.step (.link link (.receivedHelloRequest isVs aaa request)) = .ok after.links := by
    obtain ⟨links, stepped, done⟩ := bind_ok.mp advanced
    cases done
    simp only [settle, hello_effect, settleEffect]
    exact ⟨trivial, trivial, stepped⟩
  simp only [processHelloRequest] at processed
  split at processed
  · next absent =>
    cases processed
    exact .inl ⟨rfl, by simp only [reserved, absent]⟩
  next peer present =>
  split at processed
  · next unexpected =>
    cases processed
    have other : ¬ (peer.linkType = .nodeToAdapter ∧ peer.state = .helloing) := not_and_or.mpr unexpected
    refine .inl ⟨rfl, ?_⟩
    cases pool : s.addressPool with
    | none => simp only [reserved, present, pool]
    | some pool => simp only [reserved, present, pool, if_neg other]
  · next expects =>
    obtain ⟨adapter, helloing⟩ := not_or.mp expects
    refine .inr ⟨peer, present, not_not.mp adapter, not_not.mp helloing, ?_⟩
    split at processed
    · next empty =>
      obtain ⟨addresses, pool, stepped⟩ := advance_hello processed
      exact .inl ⟨empty, addresses, pool.trans empty, stepped⟩
    next pool full =>
    split at processed
    · cases processed
    next aaa left given =>
    obtain ⟨after, advanced, done⟩ := bind_ok.mp processed
    cases done
    obtain ⟨addresses, _, stepped⟩ := advance_hello advanced
    exact .inr ⟨pool, aaa, left, full, given, by rw [addresses], rfl, stepped⟩

section
variable (exact : s.leases.Exact aaaId)
include exact

theorem release_change {event} (cleaned : s.links.linkEffect event = some (link, .dropLink)) :
    Change parse s (.links event) (s.release link).leases := by
  have here {other aaa} (leaks : s.links.linkEffect event = some (other, .dropPeer) ∨
      s.links.linkEffect event = some (other, .dropLink) ∧ hasAaaMark aaa = false) :
      link = other ∧ hasAaaMark aaa = false := by
    rw [cleaned] at leaks
    rcases leaks with dropped | ⟨same, plain⟩
    · cases dropped
    · cases same
      exact ⟨rfl, plain⟩
  cases held : s.aaaAddress.get link with
  | none =>
    rw [release, held]
    refine .kept (fun ⟨other, aaa, holds, leaks⟩ => ?_) ⟨rfl, by simp only [Reservations.released, cleaned, held]⟩
    obtain ⟨rfl, _⟩ := here leaks
    cases held.symm.trans holds
  | some aaa =>
    obtain ⟨pool, present, _⟩ := (exact (aaaId aaa)).mpr ⟨link, aaa, held, rfl⟩
    cases marked : hasAaaMark aaa with
    | false =>
      have lost : (s.release link).leases = s.leases.lose link := by
        simp only [release, held, AddressPool.releaseAddress, marked, Bool.false_eq_true, not_false_eq_true, if_true,
          Option.map_id']
        exact s.leases_erase link
      rw [lost]
      exact .lost ⟨link, aaa, held, .inr ⟨cleaned, marked⟩⟩ held
    | true =>
      have released : (s.release link).leases = s.leases.release aaaId link aaa := by
        have erased := congrArg Leases.held (s.leases_erase link)
        simp only [release, held, AddressPool.releaseAddress, marked, not_true_eq_false, if_false, present,
          map_some]
        simp only [leases, Leases.release, Leases.mk.injEq, present, some.injEq, exists_eq_left', Finset.mem_erase]
        refine ⟨erased, ?_⟩
        ext id
        exact and_comm
      rw [released]
      refine .released (fun ⟨other, found, holds, leaks⟩ => ?_) held
        ⟨rfl, by simp only [Reservations.released, cleaned, held, present, marked, if_true]⟩
      obtain ⟨rfl, plain⟩ := here leaks
      cases held.symm.trans holds
      cases marked.symm.trans plain

theorem settleEffect_change {event} : Change parse s (.links event) (s.settleEffect (s.links.linkEffect event)).leases := by
  have harmless (quiet : ∀ link kind, s.links.linkEffect event = some (link, kind) → kind = .startKm) :
      ¬ s.Leaks parse (.links event) := by
    intro ⟨link, _, _, leaks⟩
    rcases leaks with dropped | ⟨cleaned, _⟩
    · cases quiet link _ dropped
    · cases quiet link _ cleaned
  cases happens : s.links.linkEffect event with
  | none =>
    refine .kept (harmless fun _ _ other => ?_) ⟨rfl, by simp only [released, happens]⟩
    cases happens.symm.trans other
  | some found =>
    obtain ⟨link, kind⟩ := found
    cases kind with
    | startKm =>
      refine .kept (harmless fun _ _ other => ?_) ⟨rfl, by simp only [released, happens]⟩
      cases happens.symm.trans other
      rfl
    | dropLink => exact release_change exact happens
    | dropPeer =>
      rw [settleEffect, leases_erase]
      cases held : s.aaaAddress.get link with
      | none =>
        rw [lose_vacant held]
        refine .kept (fun ⟨other, aaa, holds, leaks⟩ => ?_) ⟨rfl, by simp only [released, happens]⟩
        rw [happens] at leaks
        rcases leaks with same | ⟨cleaned, _⟩
        · cases same
          cases held.symm.trans holds
        · cases cleaned
      | some aaa => exact .lost ⟨link, aaa, held, .inl happens⟩ held

theorem settle_change {event} (placed : s.Placed) (allowed : Allowed s (.links event)) :
    Change parse s (.links event) (s.settle event).leases := by
  have others (same : s.settle event = s.settleEffect (s.links.linkEffect event)) :
      Change parse s (.links event) (s.settle event).leases := same ▸ settleEffect_change exact
  cases event with
  | insert link linkType =>
    have vacant : s.aaaAddress.get link = none := by
      cases held : s.aaaAddress.get link with
      | none => rfl
      | some aaa =>
        obtain ⟨peer, present, _⟩ := placed link aaa held
        cases present.symm.trans allowed.1
    rw [settle, leases_erase, lose_vacant vacant]
    refine .kept (fun ⟨_, _, _, leaks⟩ => ?_) ⟨rfl, rfl⟩
    rcases leaks with dropped | ⟨cleaned, _⟩
    · cases dropped
    · cases cleaned
  | link other ev | transition index state | send index | terminate index | fail index | restart other
  | signal | keyingDone | drop index => exact others rfl

theorem step_change (placed : s.Placed) (allowed : Allowed s event) (stepped : s.step parse event = .ok next) :
    Change parse s event next.leases := by
  cases event with
  | links event =>
    obtain ⟨links, _, done⟩ := bind_ok.mp stepped
    cases done
    exact settle_change exact placed allowed
  | helloRequest link isVs request random =>
    rcases processHelloRequest_cases stepped with ⟨rfl, idle⟩ | ⟨peer, present, adapter, helloing, given⟩
    · exact .kept not_false ⟨idle, rfl⟩
    rcases given with ⟨empty, addresses, pool, _⟩ | ⟨pool, aaa, left, full, given, addresses, after, _⟩
    · have same : next.leases = s.leases := by rw [leases, leases, addresses, pool, empty]
      rw [same]
      exact .kept not_false ⟨by simp only [reserved, present, empty], rfl⟩
    obtain ⟨_, free, rfl⟩ := AddressPool.getAaaAddress_some given
    have leased : next.leases = s.leases.lease aaaId link aaa := by
      simp only [leases, Leases.lease, Leases.mk.injEq, addresses, after, full, some.injEq, exists_eq_left',
        Finset.mem_insert]
      refine ⟨?_, rfl⟩
      funext other
      rw [get_insert, update_apply]
    rw [leased]
    refine .leased not_false ?_ ?_ ⟨?_, rfl⟩
    · cases held : s.aaaAddress.get link with
      | none => rfl
      | some aaa =>
        -- A link that holds an address has had its Hello.
        obtain ⟨found, occupied, late⟩ := placed link aaa held
        cases present.symm.trans occupied
        exact absurd helloing late.2.2.2
    · rintro ⟨found, same, active⟩
      cases full.symm.trans same
      exact free active
    · simp only [reserved, present, full, adapter, helloing, and_self, if_true, given, map_some]
  | configure params =>
    cases stepped
    exact configure_change params

end

theorem settleEffect_held {effect aaa} (held : (s.settleEffect effect).aaaAddress.get link = some aaa) :
    s.aaaAddress.get link = some aaa ∧ effect ≠ some (link, .dropPeer) := by
  unfold settleEffect at held
  split at held
  · refine ⟨?_, by simp⟩
    unfold release at held
    split at held
    · exact held
    rw [get_erase] at held
    split at held
    · cases held
    · exact held
  · rw [get_erase] at held
    split at held
    · cases held
    next elsewhere =>
    refine ⟨held, ?_⟩
    intro same
    cases same
    exact elsewhere rfl
  · next kept =>
    refine ⟨held, ?_⟩
    rintro rfl
    exact kept link rfl

theorem settle_held {event aaa} (held : (s.settle event).aaaAddress.get link = some aaa) :
    s.aaaAddress.get link = some aaa ∧ s.links.linkEffect event ≠ some (link, .dropPeer) := by
  unfold settle at held
  split at held
  · rw [get_erase] at held
    split at held
    · cases held
    · exact ⟨held, by rintro ⟨⟩⟩
  · exact settleEffect_held held

theorem hello_late {isVs links peer} (present : s.links.peers.get link = some peer) (adapter : peer.linkType = .nodeToAdapter)
    (helloing : peer.state = .helloing)
    (stepped : s.links.step (.link link (.receivedHelloRequest isVs true request)) = .ok links) : links.LateAt link := by
  have active : peer.processHelloRequest isVs true request = { peer with state := .active } := by
    simp [LinkPeer.processHelloRequest, adapter, helloing]
  cases stepped
  refine ⟨{ peer with state := .active }, ?_, adapter, nofun, nofun, nofun⟩
  simp only [processLinkStateEvent, present, LinkPeer.processEvent, active, get_modify, if_true,
    map_some]

theorem step_placed (placed : s.Placed) (allowed : Allowed s event) (stepped : s.step parse event = .ok next) :
    next.Placed := by
  intro holder held holds
  cases event with
  | links event =>
    obtain ⟨links, advanced, done⟩ := bind_ok.mp stepped
    cases done
    obtain ⟨before, stays⟩ := settle_held holds
    refine (placed holder held before).step advanced ?_ stays
    rintro other linkType rfl
    exact allowed.1
  | helloRequest link isVs request random =>
    have stays {aaa : Bool} {links : Multiplexor Transport Cert} (before : s.aaaAddress.get holder = some held)
        (advanced : s.links.step (.link link (.receivedHelloRequest isVs aaa request)) = .ok links) :
        links.LateAt holder := by
      refine (placed holder held before).step advanced nofun ?_
      rw [hello_effect]
      nofun
    rcases processHelloRequest_cases stepped with ⟨rfl, _⟩ | ⟨peer, present, adapter, helloing, given⟩
    · exact placed holder held holds
    rcases given with ⟨_, addresses, _, advanced⟩ | ⟨pool, aaa, left, _, _, addresses, _, advanced⟩
    · rw [addresses] at holds
      exact stays holds advanced
    rw [addresses, get_insert] at holds
    split at holds
    · next here =>
      subst here
      exact hello_late present adapter helloing advanced
    · exact stays holds advanced
  | configure params =>
    cases stepped
    exact placed holder held holds

/-- No two links hold one address, and the pool's active ids are those of the addresses held. -/
def Conserved (s : Reservations Transport Cert) : Prop :=
  (∀ one two aaa, s.aaaAddress.get one = some aaa → s.aaaAddress.get two = some aaa → one = two) ∧
  ∀ id, (∃ pool, s.addressPool = some pool ∧ id ∈ pool.active) ↔
    ∃ link aaa, s.aaaAddress.get link = some aaa ∧ aaaId aaa = id

theorem conserved_of_exclusive (exclusive : s.leases.Exclusive aaaId) : s.Conserved ↔ s.leases.Exact aaaId := by
  constructor
  · exact And.right
  intro exact
  refine ⟨?_, exact⟩
  intro one two aaa first second
  exact exclusive one two aaa aaa first second rfl

theorem Change.exclusive {leases} (change : Change parse s event leases) (exclusive : s.leases.Exclusive aaaId)
    (exact : s.leases.Exact aaaId) : leases.Exclusive aaaId := by
  cases change with
  | kept | renewed => exact exclusive
  | leased _ _ fresh => exact exclusive.lease exact fresh
  | @released link | @lost link => exact exclusive.lose link

theorem Change.exact_iff {leases} (change : Change parse s event leases) (exclusive : s.leases.Exclusive aaaId)
    (exact : s.leases.Exact aaaId) : leases.Exact aaaId ↔ ¬ s.Leaks parse event := by
  cases change with
  | kept safe => exact iff_of_true exact safe
  | leased safe vacant => exact iff_of_true (exact.lease vacant) safe
  | released safe held => exact iff_of_true (exact.release exclusive held) safe
  | lost leaks held =>
    rw [exact.lose_iff exclusive]
    refine iff_of_false ?_ (not_not.mpr leaks)
    intro vacant
    cases held.symm.trans vacant
  | renewed leaks =>
    rw [renew_exact_iff, leaks]
    simp only [not_exists, eq_none_iff_forall_ne_some]
    rfl

theorem Change.count (change : Change parse s event next.leases) (safe : ¬ s.Leaks parse event) (link : LinkId)
    (aaa : IpAddress) :
    (s.reserved event).toList.count (link, aaa) + (if s.aaaAddress.get link = some aaa then 1 else 0) =
      (s.released event).toList.count (link, aaa) + if next.aaaAddress.get link = some aaa then 1 else 0 := by
  have before : s.aaaAddress.get link = s.leases.held link := rfl
  have after : next.aaaAddress.get link = next.leases.held link := rfl
  rw [before, after]
  generalize next.leases = leases at change
  cases change with
  | kept _ idle => rw [idle.1, idle.2]
  | @leased holder given _ vacant _ taken =>
    rw [taken.1, taken.2]
    simp only [Leases.lease, update_apply]
    by_cases here : link = holder
    · subst here
      have empty : s.leases.held link = none := vacant
      simp [empty, count_singleton]
    · simp [here, Ne.symm here]
  | @released holder given _ held back =>
    rw [back.1, back.2]
    simp only [Leases.release, Leases.lose, update_apply]
    by_cases here : link = holder
    · subst here
      have full : s.leases.held link = some given := held
      simp [full, count_singleton]
    · simp [here, Ne.symm here]
  | lost leaks => exact absurd leaks safe
  | renewed _ idle =>
    rw [idle.1, idle.2]
    rfl

variable {past} {final}

/-- A link has been given an address as often as its cleanup has returned it, and once more if
it holds it. -/
def Balanced (past : List (Reservations Transport Cert × ReservationEvent Transport Cert))
    (s : Reservations Transport Cert) : Prop :=
  ∀ link aaa, (past.filterMap fun moment => moment.1.reserved moment.2).count (link, aaa) =
    (past.filterMap fun moment => moment.1.released moment.2).count (link, aaa) +
      if s.aaaAddress.get link = some aaa then 1 else 0

theorem Balanced.step {event} (balanced : Balanced past s) (change : Change parse s event next.leases)
    (safe : ¬ s.Leaks parse event) : Balanced ((s, event) :: past) next := by
  intro link aaa
  have cons (f : Reservations Transport Cert × ReservationEvent Transport Cert → Option (LinkId × IpAddress)) :
      (((s, event) :: past).filterMap f).count (link, aaa) =
        (f (s, event)).toList.count (link, aaa) + (past.filterMap f).count (link, aaa) := by
    rw [← count_append, filterMap_cons]
    cases f (s, event) with
    | none => rfl
    | some pair => rfl
  rw [cons, cons, balanced link aaa]
  have step := change.count safe link aaa
  dsimp only
  omega

/-- What holds as long as nothing has leaked. -/
structure Sound (past : List (Reservations Transport Cert × ReservationEvent Transport Cert))
    (s : Reservations Transport Cert) : Prop where
  exclusive : s.leases.Exclusive aaaId
  exact : s.leases.Exact aaaId
  balanced : Balanced past s

theorem start_placed : (start : Reservations Transport Cert).Placed := by
  intro link aaa held
  cases (get_empty link).symm.trans held

theorem start_sound : Sound [] (start : Reservations Transport Cert) := by
  have vacant link : (start : Reservations Transport Cert).aaaAddress.get link = none := get_empty link
  refine ⟨?_, ?_, ?_⟩
  · intro one two item other held
    cases (vacant one).symm.trans held
  · intro id
    refine iff_of_false ?_ ?_
    · intro ⟨pool, present, _⟩
      cases present
    · intro ⟨link, aaa, held, _⟩
      cases (vacant link).symm.trans held
  · intro link aaa
    rw [vacant]
    rfl

/-- In whatever order Hellos, closes, resets, removals and configurations come, addresses are
conserved in each state if and only if no event leaks one, and then gifts and returns balance. -/
theorem conserved_iff (trace : Runs.Trace (step parse) Allowed (start : Reservations Transport Cert) past final) :
    ((final.Conserved ∧ ∀ moment ∈ past, moment.1.Conserved) ↔ ∀ moment ∈ past, ¬ moment.1.Leaks parse moment.2) ∧
    ((∀ moment ∈ past, ¬ moment.1.Leaks parse moment.2) → Balanced past final) := by
  have kept : final.Placed ∧ ((∀ moment ∈ past, ¬ moment.1.Leaks parse moment.2) → Sound past final) ∧
      ((final.Conserved ∧ ∀ moment ∈ past, moment.1.Conserved) ↔
        ∀ moment ∈ past, ¬ moment.1.Leaks parse moment.2) := by
    refine trace.invariant (fun past final => final.Placed ∧
      ((∀ moment ∈ past, ¬ moment.1.Leaks parse moment.2) → Sound past final) ∧
      ((final.Conserved ∧ ∀ moment ∈ past, moment.1.Conserved) ↔
        ∀ moment ∈ past, ¬ moment.1.Leaks parse moment.2)) ?_ ?_
    · intro past s event next allowed ⟨placed, sound, conserved⟩ stepped
      refine ⟨step_placed placed allowed stepped, ?_, ?_⟩
      · intro safe
        obtain ⟨here, before⟩ := forall_mem_cons.mp safe
        obtain ⟨exclusive, exact, balanced⟩ := sound before
        have change := step_change exact placed allowed stepped
        exact ⟨change.exclusive exclusive exact, (change.exact_iff exclusive exact).mpr here, balanced.step change here⟩
      · rw [forall_mem_cons, forall_mem_cons, ← conserved]
        apply and_congr_left
        intro before
        obtain ⟨exclusive, exact, _⟩ := sound (conserved.mp before)
        have change := step_change exact placed allowed stepped
        rw [conserved_of_exclusive (change.exclusive exclusive exact)]
        exact change.exact_iff exclusive exact
    · have started : (start : Reservations Transport Cert).Conserved :=
        (conserved_of_exclusive start_sound.exclusive).mpr start_sound.exact
      exact ⟨start_placed, fun _ => start_sound, iff_of_true ⟨started, nofun⟩ nofun⟩
  exact ⟨kept.2.2, fun safe => (kept.2.1 safe).balanced⟩

instance (s : Reservations Transport Cert) (event : ReservationEvent Transport Cert) : Decidable (Allowed s event) := by
  unfold Allowed
  split <;> infer_instance

def sampleNet : Ipv6Net := ⟨⟨#[0xfd, 0x5a, 0x50, 0x52, 0, 0, 0x0a, 0xaa, 0, 0, 0, 0].toVector, .replicate 4 0⟩, 64⟩

def sampleParse (text : String) : Option Ipv6Net := if text = "fd5a:5052:0:aaa::/64" then some sampleNet else none

def sampleConfigure : ReservationEvent Unit Unit := .configure [⟨.aaaPrefix, .strParam "fd5a:5052:0:aaa::/64"⟩]

/-- A link is keyed by the key manager at an index. -/
def sampleKeyed (link : LinkId) (index : Nat) : List (ReservationEvent Unit Unit) :=
  [.insert link .nodeToAdapter, .link link .start, .send index, .transition index (.transport Multiplexor.sampleTs),
    .send index, .send index, .signal, .signal, .signal, .keyingDone].map .links

def sampleHello (link : LinkId) : ReservationEvent Unit Unit := .helloRequest link false ⟨false, false⟩ 7

/-- A link gets an address, is terminated and dropped, and its id is used again. -/
def sampleSession : List (ReservationEvent Unit Unit) :=
  [sampleConfigure] ++ sampleKeyed 1 0 ++ [sampleHello 1] ++ Multiplexor.sampleDrop.map .links ++ [.links .signal] ++
    sampleKeyed 1 0 ++ [sampleHello 1]

/-- The network is configured again, without a change, between the Hellos of two links. -/
def sampleReconfigured : List (ReservationEvent Unit Unit) :=
  [sampleConfigure] ++ sampleKeyed 1 0 ++ [sampleHello 1, sampleConfigure] ++ sampleKeyed 2 1 ++ [sampleHello 2]

theorem conserved_session : ∃ past final,
    Runs.Trace (step sampleParse) Allowed (start : Reservations Unit Unit) past final ∧
    past.map Prod.snd = sampleSession.reverse ∧
    (past.filterMap fun moment => moment.1.reserved moment.2) = List.replicate 2 (1, Node.aaaAddress sampleNet.addr 7) ∧
    (past.filterMap fun moment => moment.1.released moment.2) = [(1, Node.aaaAddress sampleNet.addr 7)] ∧
    (((final.Conserved ∧ ∀ moment ∈ past, moment.1.Conserved) ↔
        ∀ moment ∈ past, ¬ moment.1.Leaks sampleParse moment.2) ∧
      ((∀ moment ∈ past, ¬ moment.1.Leaks sampleParse moment.2) → Balanced past final)) := by
  refine Runs.Trace.exists_imp (fun past _ => (past.filterMap fun moment => moment.1.reserved moment.2) =
      replicate 2 (1, Node.aaaAddress sampleNet.addr 7) ∧
    (past.filterMap fun moment => moment.1.released moment.2) = [(1, Node.aaaAddress sampleNet.addr 7)]) (by decide +kernel) ?_
  exact fun past final trace ⟨given, back⟩ => ⟨given, back, conserved_iff trace⟩

/-- Two links hold one address. -/
theorem conserved_fails : ∃ past final,
    Runs.Trace (step sampleParse) Allowed (start : Reservations Unit Unit) past final ∧
    past.map Prod.snd = sampleReconfigured.reverse ∧
    final.aaaAddress.get 1 = some (Node.aaaAddress sampleNet.addr 7) ∧
    final.aaaAddress.get 2 = some (Node.aaaAddress sampleNet.addr 7) ∧
    (final.links.peers.get 1).map (·.state) = some .active ∧ (final.links.peers.get 2).map (·.state) = some .active :=
  Runs.Trace.exists_of_record (by decide +kernel)

end Reservations
end ZprCore.Km
