import ZprCore.Proofs.Ingress
import ZprCore.Proofs.MgmtDispatch

/-! Which session a management packet reaches. It is decrypted under the association of the
peer that has the link id then, and handed to the peer that has the link id later. The two
are the same as long as no link id is given out again while packets for it are under way. -/

namespace ZprCore.Mgmt
open Datapath Zdpr Km Panic List Option Substrate Assembly

variable {Transport Cert : Type} {blake3 : Blake3} {snow} {interfaceAddr : ScopedIpAddr}
  {peerSa : SubstrateAddr} {pkt : Packet}

namespace Assembly
variable {asm next middle : Assembly Transport Cert} {changed : LinkId → Prop}

/-- Sessions are where they were, apart from the link ids an event frees or fills. -/
def SameSessions (changed : LinkId → Prop) (asm next : Assembly Transport Cert) : Prop :=
  ∀ link after, next.peerTable.get link = some after → ¬ changed link →
    ∃ before, asm.peerTable.get link = some before ∧ before.session = after.session

theorem SameSessions.refl (changed : LinkId → Prop) (asm : Assembly Transport Cert) : SameSessions changed asm asm :=
  fun _ after present _ => ⟨after, present, rfl⟩

theorem SameSessions.trans (first : SameSessions changed asm middle) (second : SameSessions changed middle next) :
    SameSessions changed asm next := by
  intro link after present same
  obtain ⟨between, found, equal⟩ := second link after present same
  obtain ⟨before, found, equal'⟩ := first link between found same
  exact ⟨before, found, equal'.trans equal⟩

theorem SameSessions.modify (changed : LinkId → Prop) (asm) (other : LinkId)
    (change : PeerState Transport Cert → PeerState Transport Cert)
    (session : ∀ peer, (change peer).session = peer.session) : SameSessions changed asm (asm.modifyPeer other change) := by
  intro link after present _
  rw [modifyPeer_get] at present
  split at present
  · obtain ⟨before, found, rfl⟩ := map_eq_some_iff.mp present
    exact ⟨before, found, (session before).symm⟩
  · exact ⟨after, present, rfl⟩

theorem SameSessions.congr (same : SameSessions changed asm middle) (table : next.peerTable = middle.peerTable) :
    SameSessions changed asm next := by
  intro link after present
  rw [table] at present
  exact same link after present

theorem dispatched_sessions (dispatched : asm.Dispatched pkt next) (changed : LinkId → Prop) :
    SameSessions changed asm next := by
  cases dispatched with
  | ignored => exact .refl changed asm
  | keyed => exact .modify changed asm _ _ fun _ => rfl
  | acknowledged =>
    refine .congr (.modify changed asm _ _ ?_) (buildAndEgressPackets_peerTable _ _ _)
    exact fun _ => rfl
  | canceled | sequenced =>
    refine .congr (.modify changed asm _ _ ?_) (sendDisposition_peerTable _ _ _ _)
    exact fun _ => rfl

/-- The link id a vacancy offers. -/
def Vacancy.Fills (vacancy : Vacancy) (link : LinkId) : Prop := ∃ free, vacancy.link = some free ∧ free.val = link

theorem startTether_sessions {adapterAddr vacancy started}
    (done : asm.startTether adapterAddr interfaceAddr vacancy = .ok (started, next)) :
    SameSessions vacancy.Fills asm next := by
  obtain ⟨_, ⟨_, rfl⟩ | ⟨free, peer, found, _, _, _, _, inserted⟩⟩ := startTether_ok done
  · exact .refl _ _
  intro link after present other
  rw [PeerTable.get_insert inserted, if_neg fun same => other ⟨free, found, same.symm⟩] at present
  exact ⟨after, present, rfl⟩

theorem dispatchMgmtPacketWithAddr_sessions {vacancy}
    (dispatched : asm.dispatchMgmtPacketWithAddr peerSa interfaceAddr pkt vacancy = .ok next) :
    SameSessions vacancy.Fills asm next := by
  obtain ⟨middle, started, keyed⟩ := dispatchMgmtPacketWithAddr_ok dispatched
  have first : SameSessions vacancy.Fills asm middle := by
    obtain rfl | ⟨started, done⟩ := started
    · exact .refl _ _
    · exact startTether_sessions done
  obtain rfl | ⟨link, queue, rfl⟩ := keyed
  · exact first
  · exact first.trans (.modify _ _ _ _ fun _ => rfl)

end Assembly

namespace System
variable {s next : System Transport Cert} {event} {asm : Assembly Transport Cert}
  {message}

/-- An event may give a link id to a new peer. -/
def Fills (event : SystemEvent Transport Cert) (link : LinkId) : Prop :=
  ∃ vacancy, vacancyOf event = some vacancy ∧ vacancy.Fills link

/-- A packet other than key management is under way on a link. -/
def Carries (s : System Transport Cert) (pkt : Packet) (origin : Option Nat) : Prop :=
  .withLink pkt origin ∈ s.inFlight ++ s.mgmtDispatch ∧ pkt.body.head? ≠ some ZdpPacketType.keyManagement

/-- A link id is given to a new peer only when no packet for it is under way. -/
def Drained (s : System Transport Cert) (event : SystemEvent Transport Cert) : Prop :=
  ∀ pkt origin, s.Carries pkt origin → ¬ Fills event pkt.ingressLinkId

/-- What an event can do to sessions, to the packets under way and to the history. -/
structure Moves (s : System Transport Cert) (event : SystemEvent Transport Cert) (next : System Transport Cert) :
    Prop where
  sessions : Assembly.SameSessions (Fills event) s.asm next.asm
  carries : ∀ pkt origin, next.Carries pkt origin → s.Carries pkt origin ∨
    next.asm = s.asm ∧ ∃ peer, s.asm.peerTable.get pkt.ingressLinkId = some peer ∧ origin = some peer.session
  applied : ∀ reached ∈ next.applied, reached ∈ s.applied ∨ ∃ pkt peer, s.Carries pkt reached.origin ∧
    s.asm.peerTable.get pkt.ingressLinkId = some peer ∧ reached.session = peer.session

theorem Moves.refl (s : System Transport Cert) (event) : Moves s event s where
  sessions := .refl _ _
  carries _ _ carried := .inl carried
  applied _ reached := .inl reached

theorem afterIngress_origin {passed outcome origin}
    (done : ingressAttributed blake3 snow asm peerSa interfaceAddr pkt false = .ok outcome)
    (under : .withLink passed origin ∈ afterIngress asm outcome)
    (other : passed.body.head? ≠ some ZdpPacketType.keyManagement) :
    ∃ peer, asm.peerTable.get passed.ingressLinkId = some peer ∧ origin = some peer.session := by
  cases outcome with
  | dropped counter => cases under
  | forward forwarded => cases under
  | dispatchedWithAddr peerSa interfaceAddr dispatched =>
    cases under with
    | tail _ absent => cases absent
  | dispatchedWithLink dispatched =>
    cases mem_singleton.mp under
    obtain ⟨link, _, _, sa, _, _, established⟩ := ingressAttributed_passes done (.inr ⟨rfl, other⟩)
    obtain ⟨peer, present, holds⟩ := bind_eq_some_iff.mp established
    rw [← link] at present
    refine ⟨peer, present, ?_⟩
    simp only [decryptingSession, present, bind_some, holds, map_some]

theorem tableStep_sessions {next event} (done : asm.tableStep event = .ok next) :
    Assembly.SameSessions (Fills (SystemEvent.table event)) asm next := by
  cases event with
  | startTether adapterAddr interfaceAddr vacancy =>
    obtain ⟨⟨started, tethered⟩, tether, same⟩ := bind_ok.mp done
    cases same
    refine fun link after present other => startTether_sessions tether link after present ?_
    exact fun fills => other ⟨vacancy, rfl, fills⟩
  | remove removed =>
    cases done
    intro link after present _
    rw [PeerTable.get_remove] at present
    split at present
    · cases present
    · exact ⟨after, present, rfl⟩
  | setSecurityAssociation link sa =>
    cases done
    exact .modify _ asm _ _ fun _ => rfl
  | call link op =>
    obtain rfl | ⟨peer, zdprSend, messages, _, _, rfl⟩ := callSender_ok done
    · exact .refl _ _
    · refine .congr (.modify _ asm _ _ ?_) (buildAndEgressPackets_peerTable _ _ _)
      exact fun _ => rfl
  | process link =>
    cases done
    obtain same | ⟨_, _, _, _, same⟩ := asm.takeMgmtPacket_cases link
    · rw [same]
      exact .refl _ _
    · rw [same]
      exact .modify _ asm _ _ fun _ => rfl

theorem dispatchMessage_sessions {next vacancy} (done : dispatchMessage asm vacancy message = .ok next) :
    Assembly.SameSessions (Fills (.dispatch vacancy : SystemEvent Transport Cert)) asm next := by
  cases message with
  | withLink pkt origin => exact dispatched_sessions (dispatchMgmtPacketWithLink_ok done) _
  | withAddr peerSa interfaceAddr pkt =>
    refine fun link after present other => dispatchMgmtPacketWithAddr_sessions done link after present ?_
    exact fun fills => other ⟨vacancy, rfl, fills⟩

theorem appliedBy_carried {reached} (under : message ∈ s.mgmtDispatch) (applied : reached ∈ appliedBy s.asm message) :
    ∃ pkt peer, s.Carries pkt reached.origin ∧
      s.asm.peerTable.get pkt.ingressLinkId = some peer ∧ reached.session = peer.session := by
  cases message with
  | withAddr peerSa interfaceAddr pkt => cases applied
  | withLink pkt origin =>
    unfold appliedBy at applied
    cases present : s.asm.peerTable.get pkt.ingressLinkId with
    | none =>
      simp only [present] at applied
      cases applied
    | some peer =>
      simp only [present] at applied
      split at applied
      · cases applied
      rename_i other
      cases mem_singleton.mp applied
      exact ⟨pkt, peer, ⟨mem_append_right _ under, other⟩, present, rfl⟩

theorem step_moves (done : step blake3 snow s event = .ok next) : Moves s event next := by
  cases event with
  | lookUp peerSa interfaceAddr pkt =>
    cases done
    exact { Moves.refl s _ with }
  | decrypt index =>
    unfold step at done
    cases found : s.attributed[index]? with
    | none =>
      simp only [found] at done
      cases done
      exact .refl s _
    | some entry =>
      obtain ⟨peerSa, interfaceAddr, pkt⟩ := entry
      simp only [found] at done
      obtain ⟨outcome, decrypted, done⟩ := bind_ok.mp done
      cases done
      refine { Moves.refl s _ with carries := ?_ }
      intro passed origin carried
      obtain ⟨under, other⟩ := carried
      rw [append_assoc, mem_append, mem_append] at under
      obtain flying | fresh | queued := under
      · exact .inl ⟨mem_append_left _ flying, other⟩
      · exact .inr ⟨rfl, afterIngress_origin decrypted fresh other⟩
      · exact .inl ⟨mem_append_right _ queued, other⟩
  | enqueue index full =>
    unfold step at done
    cases found : s.inFlight[index]? with
    | none =>
      simp only [found] at done
      cases done
      exact .refl s _
    | some message =>
      simp only [found] at done
      cases done
      refine { Moves.refl s _ with carries := ?_ }
      intro passed origin carried
      obtain ⟨under, other⟩ := carried
      refine .inl ⟨?_, other⟩
      have member := mem_of_getElem? found
      obtain flying | queued := mem_append.mp under
      · exact mem_append_left _ (mem_of_mem_eraseIdx flying)
      cases full with
      | true => exact mem_append_right _ queued
      | false =>
        obtain queued | same := mem_append.mp queued
        · exact mem_append_right _ queued
        · cases mem_singleton.mp same
          exact mem_append_left _ member
  | dispatch vacancy =>
    unfold step at done
    cases queue : s.mgmtDispatch with
    | nil =>
      simp only [queue] at done
      cases done
      exact .refl s _
    | cons message rest =>
      simp only [queue] at done
      obtain ⟨asm, dispatched, done⟩ := bind_ok.mp done
      cases done
      refine ⟨dispatchMessage_sessions dispatched, ?_, ?_⟩
      · intro pkt origin carried
        obtain ⟨under, other⟩ := carried
        refine .inl ⟨?_, other⟩
        rw [queue]
        obtain flying | queued := mem_append.mp under
        · exact mem_append_left _ flying
        · exact mem_append_right _ (mem_cons_of_mem _ queued)
      · intro reached member
        obtain before | fresh := mem_append.mp member
        · exact .inl before
        refine .inr (appliedBy_carried ?_ fresh)
        rw [queue]
        exact mem_cons_self
  | table event =>
    obtain ⟨asm, changed, done⟩ := bind_ok.mp done
    cases done
    exact ⟨tableStep_sessions changed, fun _ _ carried => .inl carried, fun _ member => .inl member⟩

/-- What is under way on a link was decrypted under the association of the link's peer, and
so was everything that reached a peer. -/
structure Attested (s : System Transport Cert) : Prop where
  carried : ∀ pkt origin peer, s.Carries pkt origin → s.asm.peerTable.get pkt.ingressLinkId = some peer →
    origin = some peer.session
  applied : ∀ reached ∈ s.applied, reached.origin = some reached.session

theorem step_attested (attested : Attested s) (drained : Drained s event)
    (done : step blake3 snow s event = .ok next) : Attested next := by
  have moves := step_moves done
  constructor
  · intro pkt origin after carried present
    obtain before | ⟨same, peer, found, origin⟩ := moves.carries pkt origin carried
    · obtain ⟨peer, found, session⟩ := moves.sessions _ after present (drained pkt origin before)
      rw [← session]
      exact attested.carried pkt origin peer before found
    rw [same, found] at present
    cases present
    exact origin
  · intro reached member
    obtain before | ⟨pkt, peer, carried, found, session⟩ := moves.applied reached member
    · exact attested.applied reached before
    · rw [session]
      exact attested.carried pkt _ peer carried found

/-- A management packet reaches the session it was decrypted in, in every run that gives a
link id out again only when no packet for it is under way. -/
theorem applied_to_origin {start final : System Transport Cert} {events : List (SystemEvent Transport Cert)}
    (idle : start.inFlight = [] ∧ start.mgmtDispatch = [] ∧ start.applied = [])
    (run : Runs.Run (step blake3 snow) (fun s event => Allowed s event ∧ Drained s event) start events final) :
    ∀ reached ∈ final.applied, reached.origin = some reached.session := by
  obtain ⟨flying, queued, applied⟩ := idle
  have fresh : Attested start := by
    constructor
    · intro pkt origin peer carried
      rw [Carries, flying, queued] at carried
      cases carried.1
    · rw [applied]
      exact fun _ absent => nomatch absent
  have attested := run.invariant Attested (fun _ _ _ allowed attested => step_attested attested allowed.2) fresh
  exact attested.applied

/-- One link, in session zero, and nothing under way. -/
def sampleSystem : System Unit Unit where
  asm := Substrate.samplePeers
  attributed := []
  inFlight := []
  mgmtDispatch := []
  sessions := 1
  applied := []

/-- A discard packet with sequence number zero, under the HMAC ZPI. -/
def sampleDatagram : Packet :=
  { Substrate.sampleTransit with body := [3, ZdpPacketType.discard] ++ List.replicate 17 0 }

/-- The datagram is looked up, decrypted and queued. -/
def sampleArrival : List (SystemEvent Unit Unit) :=
  [.lookUp Substrate.sampleAddr Substrate.sampleInterface sampleDatagram, .decrypt 0, .enqueue 0 false]

/-- The link is removed and its id given to the next session. -/
def sampleReuse (session : Nat) : List (SystemEvent Unit Unit) :=
  [.table (.remove 1),
    .table (.startTether (.v4 #v[192, 0, 2, 3] 5000) Substrate.sampleInterface ⟨some ⟨1, Nat.one_ne_zero⟩, session, false⟩)]

theorem quiet {s} {event : SystemEvent Transport Cert} (none : vacancyOf event = none) :
    Allowed s event ∧ Drained s event := by
  refine ⟨fun vacancy found => ?_, fun pkt origin _ fills => ?_⟩
  · rw [none] at found
    cases found
  obtain ⟨vacancy, found, _⟩ := fills
  rw [none] at found
  cases found

/-- The packet is dispatched before its link id is given out again. -/
theorem applied_to_origin_sample : ∃ final : System Unit Unit,
    Runs.Run (step Substrate.zeroHash Substrate.closedTransport) (fun s event => Allowed s event ∧ Drained s event)
      sampleSystem (sampleArrival ++ .dispatch ⟨none, 1, false⟩ :: sampleReuse 3) final ∧
    final.applied = [⟨0, some 0⟩] ∧ ∀ reached ∈ final.applied, reached.origin = some reached.session := by
  refine Exists.imp (fun final (⟨run, applied⟩ : _ ∧ _) => ⟨run, applied, applied_to_origin ⟨rfl, rfl, rfl⟩ run⟩)
    ⟨_, .cons (quiet rfl) rfl (.cons (quiet rfl) rfl (.cons (quiet rfl) rfl (.cons ⟨?_, ?_⟩ rfl
      (.cons (quiet rfl) rfl (.cons ⟨?_, ?_⟩ rfl (.nil _)))))), rfl⟩
  · intro vacancy same
    cases same
    exact ⟨nofun, rfl⟩
  · rintro pkt origin _ ⟨vacancy, same, free, absent, _⟩
    cases same
    cases absent
  · intro vacancy same
    cases same
    refine ⟨fun link free => ?_, rfl⟩
    cases free
    rfl
  · exact fun pkt origin carried => nomatch carried.1

/-- The link id is given out again while the packet waits: session two processes a packet
that was decrypted in session zero. -/
theorem applied_to_successor : ∃ final : System Unit Unit,
    Runs.Run (step Substrate.zeroHash Substrate.closedTransport) Allowed
      sampleSystem (sampleArrival ++ sampleReuse 2 ++ [.dispatch ⟨none, 3, false⟩]) final ∧
    (final.asm.peerTable.get 1).map (fun peer => (peer.session, peer.mgmtProcessor.sent.map (·.seqNum))) =
      some (2, [0]) ∧
    final.applied = [⟨2, some 0⟩] := by
  refine ⟨_, .cons (quiet rfl).1 rfl (.cons (quiet rfl).1 rfl (.cons (quiet rfl).1 rfl (.cons (quiet rfl).1 rfl
    (.cons ?_ rfl (.cons ?_ rfl (.nil _)))))), ?_, ?_⟩
  · intro vacancy same
    cases same
    refine ⟨fun link free => ?_, rfl⟩
    cases free
    rfl
  · intro vacancy same
    cases same
    exact ⟨nofun, rfl⟩
  all_goals rfl

end System
end ZprCore.Mgmt
