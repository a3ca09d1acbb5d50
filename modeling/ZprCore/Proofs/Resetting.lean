import ZprCore.Km.LinkState
import ZprCore.Lib.Runs

/-! Resetting. The handlers of a peer's terminate message, of closes and errors and of a failed Hello do not
look at the state of a link: they take it out of `Resetting`. -/

namespace ZprCore.Km.LinkPeer
variable {Transport Cert : Type} {peer : LinkPeer Transport Cert}

/-- The events that a link does not stay in `Resetting` after. -/
def Escapes (peer : LinkPeer Transport Cert) : LinkEvent → Prop
  | .receivedTerminateLink => True
  | .close _ | .error _ => peer.linkType ≠ .internal
  | .receivedHelloResponse success _ _ _ _ => success = false ∧ peer.linkType ≠ .internal
  | _ => False

/-- The link is resetting, or its peer has been dropped. -/
def Reset (peer : Option (LinkPeer Transport Cert)) : Prop := ∀ found, peer = some found → found.state = .resetting

theorem reset_none : Reset (none : Option (LinkPeer Transport Cert)) := by
  intro found same
  cases same

theorem initiateClose_resetting_iff {request} (resetting : peer.state = .resetting) :
    (peer.initiateClose request).state = .resetting ↔ peer.linkType = .internal := by
  unfold initiateClose
  split
  · next internal => exact iff_of_true resetting internal
  next external =>
  dsimp only
  split <;> exact iff_of_false nofun external

/-- A resetting link is dropped with its last event, and leaves with those that escape. -/
theorem processEvent_resetting {event} (resetting : peer.state = .resetting) :
    ((peer.processEvent event).2 = some .dropPeer ↔ event = .closeDone) ∧
      ((peer.processEvent event).1.state = .resetting ↔ ¬ peer.Escapes event) := by
  have same : peer.state = .resetting ↔ ¬ False := iff_of_true resetting not_false
  cases event with
  | start =>
    have stays : peer.processStart = (peer, none) := if_pos (by rw [resetting]; nofun)
    rw [processEvent, stays]
    exact ⟨iff_of_false nofun nofun, same⟩
  | keyingDone =>
    have stays : peer.processKeyingDone = peer := if_pos (.inl (by rw [resetting]; nofun))
    rw [processEvent, stays]
    exact ⟨iff_of_false nofun nofun, same⟩
  | receivedHelloRequest isVs aaa request =>
    have stays : peer.processHelloRequest isVs aaa request = peer := if_pos (.inr (by rw [resetting]; nofun))
    rw [processEvent, stays]
    exact ⟨iff_of_false nofun nofun, same⟩
  | receivedHelloResponse success aaa vsBootstrap tunReady request =>
    refine ⟨iff_of_false nofun nofun, ?_⟩
    cases success with
    | false =>
      have closes : (peer.initiateClose request).state = .resetting ↔ _ := initiateClose_resetting_iff resetting
      simp only [processEvent, processHelloResponse, Escapes, closes, Bool.false_eq_true, not_false_eq_true, if_true,
        true_and, ne_eq, not_not]
    | true =>
      have stays : peer.processHelloResponse true aaa vsBootstrap tunReady request = peer := by
        rw [processHelloResponse, if_neg nofun, if_pos (.inr (by rw [resetting]; nofun))]
      rw [processEvent, stays]
      exact iff_of_true resetting nofun
  | receivedTerminateLink =>
    have closing : peer.processEvent .receivedTerminateLink = ({ peer with state := .closing }, some .dropLink) := rfl
    rw [closing]
    exact ⟨iff_of_false nofun nofun, iff_of_false nofun (not_not.mpr trivial)⟩
  | receivedTerminateAck | receivedDisconnectAck =>
    rw [processEvent, if_neg (by rw [resetting]; nofun)]
    exact ⟨iff_of_false nofun nofun, same⟩
  | close request | error request =>
    refine ⟨iff_of_false nofun nofun, ?_⟩
    show (peer.initiateClose request).state = .resetting ↔ ¬ peer.linkType ≠ .internal
    rw [initiateClose_resetting_iff resetting, not_not]
  | closeDone =>
    have dropped : peer.completeClose = (peer, some .dropPeer) := by
      simp only [completeClose, resetting]
    rw [processEvent, dropped]
    exact ⟨iff_of_true rfl rfl, same⟩
  | timeout echoOutstanding request =>
    have ignored : peer.processTimeout echoOutstanding request = (peer, none) := by
      simp only [processTimeout, resetting]
      cases peer.linkType <;> rfl
    rw [processEvent, ignored]
    exact ⟨iff_of_false nofun nofun, same⟩
  | reset =>
    have again : peer.processEvent .reset = ({ peer with state := .resetting }, some .dropLink) := rfl
    rw [again]
    exact ⟨iff_of_false nofun nofun, iff_of_true rfl nofun⟩

/-- An event that takes a resetting link out of its state. -/
def Revives (peer : Option (LinkPeer Transport Cert)) (event : LinkEvent) : Prop :=
  ∃ found, peer = some found ∧ found.Escapes event

theorem advance_reset_iff {before after : Option (LinkPeer Transport Cert)} {event}
    (advanced : advance before event = .ok after) (reset : Reset before) : Reset after ↔ ¬ Revives before event := by
  cases before with
  | none =>
    cases advanced
    exact iff_of_true reset_none fun ⟨_, same, _⟩ => nomatch same
  | some peer =>
    obtain ⟨dropped, stays⟩ := @processEvent_resetting _ _ peer event (reset peer rfl)
    have revives : Revives (some peer) event ↔ peer.Escapes event := by
      simp only [Revives, Option.some.injEq, exists_eq_left']
    rw [revives]
    simp only [advance] at advanced
    split at advanced
    · next removed =>
      cases advanced
      cases dropped.mp (congrArg Prod.snd removed)
      exact iff_of_true reset_none not_false
    · next next effect kept =>
      cases advanced
      rw [← stays, kept]
      simp only [Reset, Option.some.injEq, forall_eq']

/-- Over a whole life of a link, a link that is resetting stays so until its peer is dropped,
if and only if none of the escaping events reaches it there. -/
theorem resetting_absorbing_iff {linkType : LinkType} {past : List (Option (LinkPeer Transport Cert) × LinkEvent)}
    {final : Option (LinkPeer Transport Cert)}
    (trace : Runs.Trace advance (fun _ _ => True) (some (.new linkType)) past final) :
    (final :: past.map Prod.fst).Pairwise (fun later earlier => Reset earlier → Reset later) ↔
      ∀ moment ∈ past, Reset moment.1 → ¬ Revives moment.1 moment.2 :=
  trace.absorbing_iff fun _ _ _ advanced reset => advance_reset_iff advanced reset

/-- A link that is reset, and dropped when its state is cleared. -/
def sampleReset : List LinkEvent := [.start, .reset, .receivedTerminateAck, .closeDone]

/-- The peer's terminate message arrives after the reset. -/
def sampleRevival : List LinkEvent := [.start, .reset, .receivedTerminateLink, .closeDone, .start]

theorem resetting_absorbing_sample : ∃ past final,
    Runs.Trace (@advance Nat Nat) (fun _ _ => True) (some (.new .adapterToNode)) past final ∧
    past.map (·.2) = sampleReset.reverse ∧
    ((final :: past.map Prod.fst).Pairwise (fun later earlier => Reset earlier → Reset later) ↔
      ∀ moment ∈ past, Reset moment.1 → ¬ Revives moment.1 moment.2) :=
  Runs.Trace.exists_imp (fun _ _ => True) (by decide +kernel) fun _ _ trace _ => resetting_absorbing_iff trace

/-- The link of an adapter is keying again after its reset. -/
theorem resetting_left : ∃ past final,
    Runs.Trace (@advance Nat Nat) (fun _ _ => True) (some (.new .adapterToNode)) past final ∧
    past.map (·.2) = sampleRevival.reverse ∧ final.map state = some .keying ∧
    some .resetting ∈ past.map fun moment => moment.1.map state :=
  Runs.Trace.exists_of_record (by decide +kernel)

end ZprCore.Km.LinkPeer
