import ZprCore.Km.Multiplexor

/-! Which key manager an association comes from. A link gets the associations that are
signaled under its link id. They come from its own key manager as long as the link starts
keying only after everything that was keyed before under its link id has died away. -/

namespace ZprCore.Km
open Datapath Table List Option KeyManager

variable {Transport Cert : Type}

namespace LinkPeer
variable {peer next : LinkPeer Transport Cert} {effect}

/-- Apart from its start, no event of a link has to do with keys. -/
structure Keeps (peer next : LinkPeer Transport Cert) : Prop where
  keyed : next.keyed = peer.keyed
  transportSa : next.transportSa = peer.transportSa

variable (peer) (request : CloseRequest)

theorem initiateClose_keeps : Keeps peer (peer.initiateClose request) := by
  unfold initiateClose
  split
  · exact ⟨rfl, rfl⟩
  · dsimp only
    split <;> exact ⟨rfl, rfl⟩

theorem processHelloRequest_keeps (isVs aaa : Bool) : Keeps peer (peer.processHelloRequest isVs aaa request) := by
  unfold processHelloRequest
  split
  · exact ⟨rfl, rfl⟩
  split
  · exact peer.initiateClose_keeps request
  · exact ⟨rfl, rfl⟩

theorem processHelloResponse_keeps (success aaa vsBootstrap tunReady : Bool) :
    Keeps peer (peer.processHelloResponse success aaa vsBootstrap tunReady request) := by
  unfold processHelloResponse
  split
  · exact peer.initiateClose_keeps request
  split
  · exact ⟨rfl, rfl⟩
  · split <;> exact ⟨rfl, rfl⟩

theorem processKeyingDone_keeps : Keeps peer peer.processKeyingDone := by
  unfold processKeyingDone
  split <;> exact ⟨rfl, rfl⟩

theorem cleanUpLinkState_effect : peer.cleanUpLinkState.2 ≠ some .startKm := by
  unfold cleanUpLinkState
  dsimp only
  split <;> nofun

theorem completeClose_keeps : Keeps peer peer.completeClose.1 ∧ peer.completeClose.2 ≠ some .startKm := by
  unfold completeClose
  split
  · exact ⟨⟨rfl, rfl⟩, nofun⟩
  · exact ⟨⟨rfl, rfl⟩, nofun⟩
  · refine ⟨⟨rfl, rfl⟩, ?_⟩
    dsimp only
    split <;> nofun
  · exact ⟨⟨rfl, rfl⟩, nofun⟩

theorem processTimeout_keeps (echoOutstanding : Bool) :
    Keeps peer (peer.processTimeout echoOutstanding request).1 ∧
      (peer.processTimeout echoOutstanding request).2 ≠ some .startKm := by
  have closed := { peer with state := .error }.initiateClose_keeps request
  unfold processTimeout
  split
  · exact ⟨⟨closed.keyed, closed.transportSa⟩, nofun⟩
  · split
    · exact ⟨⟨closed.keyed, closed.transportSa⟩, nofun⟩
    · exact ⟨⟨rfl, rfl⟩, nofun⟩
  · exact ⟨⟨rfl, rfl⟩, peer.cleanUpLinkState_effect⟩
  · exact ⟨⟨rfl, rfl⟩, nofun⟩

theorem processEvent_keeps {event} (other : event ≠ .start) :
    Keeps peer (peer.processEvent event).1 ∧ (peer.processEvent event).2 ≠ some .startKm := by
  cases event with
  | start => exact absurd rfl other
  | keyingDone => exact ⟨peer.processKeyingDone_keeps, nofun⟩
  | receivedHelloRequest isVs aaa request => exact ⟨peer.processHelloRequest_keeps request isVs aaa, nofun⟩
  | receivedHelloResponse success aaa vsBootstrap tunReady request =>
    exact ⟨peer.processHelloResponse_keeps request success aaa vsBootstrap tunReady, nofun⟩
  | receivedTerminateLink | reset => exact ⟨⟨rfl, rfl⟩, cleanUpLinkState_effect _⟩
  | receivedTerminateAck =>
    simp only [processEvent]
    split
    · exact ⟨⟨rfl, rfl⟩, cleanUpLinkState_effect _⟩
    · exact ⟨⟨rfl, rfl⟩, nofun⟩
  | receivedDisconnectAck =>
    simp only [processEvent]
    split <;> exact ⟨⟨rfl, rfl⟩, nofun⟩
  | close request | error request => exact ⟨peer.initiateClose_keeps request, nofun⟩
  | closeDone => exact peer.completeClose_keeps
  | timeout echoOutstanding request => exact peer.processTimeout_keeps request echoOutstanding

/-- A link that starts has no key manager yet, and starts one if it does anything. -/
theorem processStart_cases :
    (peer.state ≠ .inactive ∧ peer.processStart = (peer, none)) ∨
    (peer.state = .inactive ∧ peer.processStart.1.transportSa = peer.transportSa ∧ peer.processStart.1.keyed = none ∧
      (peer.processStart.2 = none ∨ peer.processStart.2 = some .startKm)) := by
  unfold processStart
  by_cases inactive : peer.state = .inactive
  · rw [if_neg (not_not.mpr inactive)]
    refine .inr ⟨inactive, ?_⟩
    dsimp only
    split
    · exact ⟨rfl, rfl, .inr rfl⟩
    · exact ⟨rfl, rfl, .inr rfl⟩
    · exact ⟨rfl, rfl, .inl rfl⟩
    · exact ⟨rfl, rfl, .inl rfl⟩
  · rw [if_pos inactive]
    exact .inl ⟨inactive, rfl⟩

end LinkPeer

namespace Multiplexor
variable {s next : Multiplexor Transport Cert} {event} {link : LinkId}

/-- Every association belongs to the key manager its link was last keyed with. -/
def Current (s : Multiplexor Transport Cert) : Prop :=
  ∀ link peer producer sa, s.peers.get link = some peer → peer.transportSa = some (producer, sa) →
    peer.keyed = some producer

/-- A key manager may still have its association installed at a link. -/
def Offers (s : Multiplexor Transport Cert) (link : LinkId) (producer : Nat) : Prop :=
  (∃ km ∈ s.managers, km.linkId = link ∧ km.id = producer) ∨ ∃ sa, ⟨link, producer, .saEstablished sa⟩ ∈ s.signals

/-- What an event that starts no link can do. -/
structure Moves (s next : Multiplexor Transport Cert) : Prop where
  peers : ∀ link after, next.peers.get link = some after → ∃ before, s.peers.get link = some before ∧
    after.keyed = before.keyed ∧ ∀ producer sa, after.transportSa = some (producer, sa) →
      before.transportSa = some (producer, sa) ∨ s.Offers link producer
  offers : ∀ link producer, next.Offers link producer → s.Offers link producer

namespace Moves

theorem trans {middle} (first : Moves s middle) (second : Moves middle next) :
    Moves s next where
  peers link after present := by
    obtain ⟨between, present, keyed, installed⟩ := second.peers link after present
    obtain ⟨before, present, keyed', installed'⟩ := first.peers link between present
    refine ⟨before, present, keyed.trans keyed', fun producer sa holds => ?_⟩
    obtain old | offered := installed producer sa holds
    · exact installed' producer sa old
    · exact .inr (first.offers link producer offered)
  offers link producer offered := first.offers link producer (second.offers link producer offered)

section
variable (s) (link)

theorem refl : Moves s s where
  peers _ after present := ⟨after, present, rfl, fun _ _ holds => .inl holds⟩
  offers _ _ offered := offered

theorem modify (change)
    (keeps : ∀ peer, s.peers.get link = some peer → (change peer).keyed = peer.keyed ∧
      ∀ producer sa, (change peer).transportSa = some (producer, sa) →
        peer.transportSa = some (producer, sa) ∨ s.Offers link producer) :
    Moves s { s with peers := s.peers.modify link change } where
  peers other after present := by
    rw [get_modify] at present
    split at present
    · rename_i same
      obtain ⟨before, found, rfl⟩ := map_eq_some_iff.mp present
      rw [same] at found ⊢
      exact ⟨before, found, keeps before found⟩
    · exact ⟨after, present, rfl, fun _ _ holds => .inl holds⟩
  offers _ _ offered := offered

theorem erase : Moves s { s with peers := s.peers.erase link } where
  peers other after present := by
    rw [get_erase] at present
    split at present
    · cases present
    · exact ⟨after, present, rfl, fun _ _ holds => .inl holds⟩
  offers _ _ offered := offered

end

theorem offered (peers : next.peers = s.peers)
    (managers : ∀ km ∈ next.managers, ∃ old ∈ s.managers, old.linkId = km.linkId ∧ old.id = km.id)
    (signals : ∀ link producer sa, ⟨link, producer, .saEstablished sa⟩ ∈ next.signals → s.Offers link producer) :
    Moves s next where
  peers link after present := by
    rw [peers] at present
    exact ⟨after, present, rfl, fun _ _ holds => .inl holds⟩
  offers link producer offered := by
    obtain ⟨km, member, rfl, rfl⟩ | ⟨sa, member⟩ := offered
    · obtain ⟨old, member, same⟩ := managers km member
      exact .inl ⟨old, member, same⟩
    · exact signals link producer sa member

theorem managers (managers)
    (kept : ∀ km ∈ managers, ∃ old ∈ s.managers, old.linkId = km.linkId ∧ old.id = km.id) :
    Moves s { s with managers } :=
  offered rfl kept fun _ _ sa member => .inr ⟨sa, member⟩

end Moves

theorem handleStateTransition_same (next) (km : KeyManager Transport Cert) :
    (km.handleStateTransition next).linkId = km.linkId ∧ (km.handleStateTransition next).id = km.id := by
  have left : km.leaveError.linkId = km.linkId ∧ km.leaveError.id = km.id := by
    unfold leaveError
    split <;> exact ⟨rfl, rfl⟩
  unfold handleStateTransition
  split
  · split
    · exact left
    · exact ⟨rfl, rfl⟩
  · exact left
  · exact ⟨rfl, rfl⟩
  · split <;> exact ⟨rfl, rfl⟩
  · exact ⟨rfl, rfl⟩

section
variable (s) (link)

theorem processLinkStateEvent_moves (event : LinkEvent) (other : event ≠ .start) :
    Moves s (s.processLinkStateEvent link event) := by
  unfold processLinkStateEvent
  cases present : s.peers.get link with
  | none => exact .refl s
  | some peer =>
    obtain ⟨keeps, effect⟩ := peer.processEvent_keeps other
    have changed : Moves s { s with peers := s.peers.modify link fun _ => (peer.processEvent event).1 } := by
      refine .modify s link _ fun found same => ?_
      rw [present] at same
      cases same
      exact ⟨keeps.keyed, fun producer sa holds => .inl (keeps.transportSa.symm.trans holds)⟩
    dsimp only
    split
    · exact changed
    · rename_i started
      exact absurd started effect
    · exact changed.trans (.offered rfl (fun km member => ⟨km, member, rfl, rfl⟩) fun _ _ sa member => .inr ⟨sa, member⟩)
    · exact changed.trans (.erase _ link)

theorem clearSecurityAssociation_moves : Moves s (s.clearSecurityAssociation link) :=
  .modify s link _ fun _ _ => ⟨rfl, nofun⟩

theorem removeKmState_moves : Moves s (s.removeKmState link).2 := by
  have cleared := s.clearSecurityAssociation_moves link
  unfold removeKmState
  dsimp only
  split
  · exact cleared
  refine cleared.trans (.trans (.modify _ link _ ?_) (.managers _ ?_))
  · exact fun _ _ => ⟨rfl, fun _ _ holds => .inl holds⟩
  intro km member
  obtain ⟨old, found, rfl⟩ := List.mem_map.mp member
  refine ⟨old, found, ?_⟩
  split <;> exact ⟨rfl, rfl⟩

theorem dropLink_moves (index : Nat) : Moves s (s.dropLink index) := by
  unfold dropLink
  split
  · exact .refl s
  · rename_i link _
    have moves := s.clearSecurityAssociation_moves link
    exact ⟨moves.peers, moves.offers⟩
  · rename_i link _
    have moves := s.removeKmState_moves link
    exact ⟨moves.peers, moves.offers⟩
  · split
    · exact .refl s
    · exact ⟨(Moves.refl s).peers, (Moves.refl s).offers⟩
  rename_i link _
  have moves := { s with drops := s.drops.eraseIdx index }.processLinkStateEvent_moves link .closeDone nofun
  exact ⟨moves.peers, moves.offers⟩

theorem takeSignal_moves : Moves s s.takeSignal := by
  unfold takeSignal
  split
  · exact .refl s
  · exact .refl s
  · rename_i link producer sa signals _ queue
    have offered : s.Offers link producer := .inr ⟨sa, by rw [queue]; exact mem_cons_self⟩
    have installed : Moves s (s.setSecurityAssociation link producer sa) := by
      refine .modify s link _ fun peer _ => ⟨rfl, fun found sa holds => ?_⟩
      cases holds
      exact .inr offered
    refine installed.trans (.offered rfl (fun km member => ⟨km, member, rfl, rfl⟩) fun _ _ sa member => .inr ⟨sa, ?_⟩)
    exact queue ▸ mem_cons_of_mem _ member
  · rename_i signals _ queue
    refine .offered rfl (fun km member => ⟨km, member, rfl, rfl⟩) fun _ _ sa member => .inr ⟨sa, ?_⟩
    rw [queue]
    exact mem_cons_of_mem _ member

theorem changeManager_moves (index : Nat) (change) :
    Moves s (s.changeManager index (·.handleStateTransition change)) := by
  refine .managers _ fun km member => ?_
  obtain ⟨place, inside, rfl⟩ := mem_iff_getElem.mp member
  rw [getElem_modify]
  rw [length_modify] at inside
  refine ⟨s.managers[place], getElem_mem inside, ?_⟩
  split
  · split
    · obtain ⟨link, id⟩ := handleStateTransition_same change s.managers[place]
      exact ⟨link.symm, id.symm⟩
    · exact ⟨rfl, rfl⟩
  · exact ⟨rfl, rfl⟩

end

/-- The events that give a link id to a peer, or start a link. -/
def Starts (link : LinkId) : MultiplexorEvent Transport Cert → Prop
  | .insert other _ => other = link
  | .link other .start => other = link
  | _ => False

theorem step_moves (other : ∀ link, ¬ Starts link event) (done : step s event = .ok next) : Moves s next := by
  cases event with
  | insert link linkType => exact absurd rfl (other link)
  | link link event =>
    cases done
    refine s.processLinkStateEvent_moves link event ?_
    intro same
    subst same
    exact other link rfl
  | transition index change =>
    cases done
    exact s.changeManager_moves index change
  | send index =>
    simp only [step] at done
    split at done
    · rename_i km found
      have member := mem_of_getElem? found
      split at done
      · cases done
        exact .refl s
      rename_i msg pending _
      cases done
      refine .offered rfl (fun other changed => ?_) fun link producer sa sent => ?_
      · obtain old | rfl := mem_or_eq_of_mem_set changed
        · exact ⟨other, old, rfl, rfl⟩
        · exact ⟨km, member, rfl, rfl⟩
      obtain old | new := mem_append.mp sent
      · exact .inr ⟨sa, old⟩
      · cases mem_singleton.mp new
        exact .inl ⟨km, member, rfl, rfl⟩
    · cases done
      exact .refl s
  | terminate index =>
    simp only [step] at done
    split at done
    · split at done
      · cases done
        refine .offered rfl (fun km member => ⟨km, mem_of_mem_eraseIdx member, rfl, rfl⟩) fun _ _ sa sent => ?_
        obtain old | new := mem_append.mp sent
        · exact .inr ⟨sa, old⟩
        · cases mem_singleton.mp new
      · cases done
        exact .refl s
    · cases done
      exact .refl s
  | fail index =>
    cases done
    exact .managers _ fun km member => ⟨km, mem_of_mem_eraseIdx member, rfl, rfl⟩
  | restart link =>
    simp only [step] at done
    split at done
    · cases done
      refine .managers _ fun km member => ?_
      obtain ⟨old, found, rfl⟩ := List.mem_map.mp member
      refine ⟨old, found, ?_⟩
      split
      · unfold restart
        split <;> exact ⟨rfl, rfl⟩
      · exact ⟨rfl, rfl⟩
    · cases done
      exact .refl s
  | signal =>
    cases done
    exact takeSignal_moves s
  | keyingDone =>
    simp only [step] at done
    split at done
    · rename_i link _
      cases done
      have moves := { s with keyingDone := none }.processLinkStateEvent_moves link .keyingDone (by simp)
      exact ⟨moves.peers, moves.offers⟩
    · cases done
      exact .refl s
  | drop index =>
    cases done
    exact s.dropLink_moves index

/-- Every association belongs to the current key manager of its link, and so does every one
that may still be installed. -/
structure Fresh (s : Multiplexor Transport Cert) : Prop where
  current : s.Current
  offered : ∀ link producer peer, s.Offers link producer → s.peers.get link = some peer → peer.keyed = some producer

theorem Moves.fresh (moves : Moves s next) (fresh : Fresh s) : Fresh next where
  current link after producer sa present holds := by
    obtain ⟨before, found, keyed, installed⟩ := moves.peers link after present
    rw [keyed]
    obtain old | offered := installed producer sa holds
    · exact fresh.current link before producer sa found old
    · exact fresh.offered link producer before offered found
  offered link producer after offered present := by
    obtain ⟨before, found, keyed, _⟩ := moves.peers link after present
    rw [keyed]
    exact fresh.offered link producer before (moves.offers link producer offered) found

/-- Nothing is left of what was keyed under a link id. -/
def Quiet (s : Multiplexor Transport Cert) (link : LinkId) : Prop := ∀ producer, ¬ s.Offers link producer

/-- A link id is given out, and a link is started, when nothing is left of what was keyed
under the link id before. -/
def Settled (s : Multiplexor Transport Cert) : MultiplexorEvent Transport Cert → Prop
  | .insert link _ => s.Quiet link
  | .link link .start => ∀ peer, s.peers.get link = some peer → peer.state = .inactive →
      s.Quiet link ∧ peer.transportSa = none
  | _ => True

theorem insert_fresh {linkType} (fresh : Fresh s) (quiet : s.Quiet link) :
    Fresh { s with peers := s.peers.insert link (.new linkType) } where
  current other peer producer sa present holds := by
    rw [get_insert] at present
    split at present
    · cases present
      cases holds
    · exact fresh.current other peer producer sa present holds
  offered other producer peer offered present := by
    rw [get_insert] at present
    split at present
    · rename_i same
      exact absurd (same ▸ offered) (quiet producer)
    · exact fresh.offered other producer peer offered present

theorem addNoiseLink_fresh (quiet : s.Quiet link) (fresh : Fresh s)
    (bare : ∀ peer, s.peers.get link = some peer → peer.transportSa = none) : Fresh (s.addNoiseLink link) where
  current other peer producer sa present holds := by
    simp only [addNoiseLink, get_modify] at present
    split at present
    · rename_i same
      obtain ⟨before, found, rfl⟩ := map_eq_some_iff.mp present
      have unset : before.transportSa = none := bare before (same ▸ found)
      rw [unset] at holds
      cases holds
    · exact fresh.current other peer producer sa present holds
  offered other producer peer offered present := by
    have old : s.Offers other producer ∨ other = link ∧ producer = s.started := by
      obtain ⟨km, member, rfl, rfl⟩ | signaled := offered
      · obtain member | new := mem_append.mp member
        · exact .inl (.inl ⟨km, member, rfl, rfl⟩)
        · cases mem_singleton.mp new
          exact .inr ⟨rfl, rfl⟩
      · exact .inl (.inr signaled)
    simp only [addNoiseLink, get_modify] at present
    split at present
    · rename_i same
      obtain ⟨before, found, rfl⟩ := map_eq_some_iff.mp present
      obtain old | ⟨_, rfl⟩ := old
      · exact absurd (same ▸ old) (quiet producer)
      · rfl
    · rename_i different
      obtain old | ⟨same, _⟩ := old
      · exact fresh.offered other producer peer old present
      · exact absurd same different

theorem start_fresh (fresh : Fresh s) (settled : s.Settled (.link link .start)) :
    Fresh (s.processLinkStateEvent link .start) := by
  unfold processLinkStateEvent
  cases present : s.peers.get link with
  | none => exact fresh
  | some peer =>
    simp only [LinkPeer.processEvent]
    obtain ⟨_, idle⟩ | ⟨inactive, kept, unkeyed, effect⟩ := peer.processStart_cases
    · rw [idle]
      refine Moves.fresh (.modify s link _ fun found same => ?_) fresh
      rw [present] at same
      cases same
      exact ⟨rfl, fun _ _ holds => .inl holds⟩
    obtain ⟨quiet, unset⟩ := settled peer present inactive
    have bare : peer.processStart.1.transportSa = none := kept.trans unset
    have started : Fresh { s with peers := s.peers.modify link fun _ => peer.processStart.1 } := by
      constructor
      · intro other after producer sa present holds
        rw [get_modify] at present
        split at present
        · obtain ⟨_, _, rfl⟩ := map_eq_some_iff.mp present
          rw [bare] at holds
          cases holds
        · exact fresh.current other after producer sa present holds
      · intro other producer after offered present
        rw [get_modify] at present
        split at present
        · rename_i same
          exact absurd (same ▸ offered) (quiet producer)
        · exact fresh.offered other producer after offered present
    obtain ended | keys := effect
    · rw [ended]
      exact started
    rw [keys]
    refine addNoiseLink_fresh quiet started fun after present => ?_
    rw [get_modify, if_pos rfl] at present
    obtain ⟨_, _, rfl⟩ := map_eq_some_iff.mp present
    exact bare

theorem step_fresh (fresh : Fresh s) (settled : s.Settled event) (done : step s event = .ok next) : Fresh next := by
  by_cases starts : ∃ link, Starts link event
  · obtain ⟨link, starts⟩ := starts
    cases event with
    | insert other linkType =>
      cases done
      exact insert_fresh fresh settled
    | link other event =>
      cases done
      cases event with
      | start => exact start_fresh fresh settled
      | _ => cases starts
    | _ => cases starts
  · exact (step_moves (not_exists.mp starts) done).fresh fresh

def empty : Multiplexor Transport Cert := ⟨∅, [], [], none, [], 0⟩

/-- An established association comes from the key manager its link was last keyed with, in
every run in which link ids are given out and links started only when nothing is left of
what was keyed under the link id before. -/
theorem established_current {events : List (MultiplexorEvent Transport Cert)} {final : Multiplexor Transport Cert}
    (run : Runs.Run step (fun s event => Allowed s event ∧ Settled s event) empty events final) :
    final.Current := by
  refine (run.invariant Fresh (fun _ _ _ allowed fresh => step_fresh fresh allowed.2) ?_).current
  constructor
  · intro link peer _ _ present
    cases present
  · intro link producer peer _ present
    cases present

def sampleTs : KmTransportSA Unit Unit := ⟨0, ⟨133, 6⟩, ⟨131, 4⟩, .replicate 32 1, .replicate 32 2, .null, none⟩

/-- A tether is added and started, and its key manager signals an association. -/
def sampleKeying : List (MultiplexorEvent Unit Unit) :=
  [.insert 1 .nodeToAdapter, .link 1 .start, .send 0, .transition 0 (.transport sampleTs), .send 0, .send 0]

/-- The worker takes the three signals. -/
def sampleSignals : List (MultiplexorEvent Unit Unit) := [.signal, .signal, .signal]

/-- The peer ends the link, and the link is dropped. -/
def sampleDrop : List (MultiplexorEvent Unit Unit) :=
  [.link 1 .receivedTerminateLink, .drop 0, .drop 0, .terminate 0, .drop 0, .drop 0]

theorem quiet_empty {s : Multiplexor Transport Cert} (managers : s.managers = []) (signals : s.signals = [])
    (link : LinkId) : s.Quiet link := by
  intro producer offered
  obtain ⟨km, member, _⟩ | ⟨sa, member⟩ := offered
  · rw [managers] at member
    cases member
  · rw [signals] at member
    cases member

theorem established_current_sample : ∃ final : Multiplexor Unit Unit,
    Runs.Run step (fun s event => Allowed s event ∧ Settled s event) empty (sampleKeying ++ sampleSignals) final ∧
    (final.peers.get 1).map (fun peer => (peer.transportSa.map Prod.fst, peer.keyed)) = some (some 0, some 0) ∧
    final.Current := by
  refine Exists.imp (fun final (⟨run, held⟩ : _ ∧ _) => ⟨run, held, established_current run⟩)
    ⟨_, .cons ⟨rfl, ?_⟩ rfl (.cons ⟨trivial, ?_⟩ rfl (.cons ⟨trivial, trivial⟩ rfl (.cons ⟨trivial, trivial⟩ rfl
      (.cons ⟨trivial, trivial⟩ rfl (.cons ⟨trivial, trivial⟩ rfl (.cons ⟨trivial, trivial⟩ rfl
      (.cons ⟨trivial, trivial⟩ rfl (.cons ⟨trivial, trivial⟩ rfl (.nil _))))))))), rfl⟩
  · exact quiet_empty rfl rfl 1
  · intro peer present _
    cases present
    exact ⟨quiet_empty rfl rfl 1, rfl⟩

/-- The link is dropped and its id given out again while the signals wait: the new link gets
the association of the key manager before its own. -/
theorem established_stale : ∃ final : Multiplexor Unit Unit,
    Runs.Run step Allowed empty
      (sampleKeying ++ sampleDrop ++ [.insert 1 .nodeToAdapter, .link 1 .start] ++ sampleSignals) final ∧
    (final.peers.get 1).map (fun peer => (peer.transportSa.map Prod.fst, peer.keyed)) = some (some 0, some 1) :=
  ⟨_, .cons rfl rfl (.cons trivial rfl (.cons trivial rfl (.cons trivial rfl (.cons trivial rfl (.cons trivial rfl
    (.cons trivial rfl (.cons trivial rfl (.cons trivial rfl (.cons trivial rfl (.cons trivial rfl (.cons trivial rfl
    (.cons rfl rfl (.cons trivial rfl (.cons trivial rfl (.cons trivial rfl (.cons trivial rfl
    (.nil _))))))))))))))))), rfl⟩

end Multiplexor
end ZprCore.Km
