import ZprCore.Proofs.ActorAuth

/-! The session state of a node is coherent, whatever its adapter sends. -/

namespace ZprCore.Auth
open Node (TxnId)
open Runs

/-- What happens to the session of a node with an adapter. Completions can belong to any attempt. -/
inductive SessionStep where
  | receive (context : Context) (message : AuthMessage)
  | complete (generation : UInt64) (txn : TxnId) (result : Except VsApiError StdIpAddr)
  | report (generation : UInt64) (txn : TxnId)
  | linkDown (isVs : Bool)

namespace ActorAuthorization
variable {p : Primitives}

def sessionStep (p : Primitives) (actor : ActorAuthorization) : SessionStep → Except Panic ActorAuthorization
  | .receive context message => .ok (actor.handle p context message).2
  | .complete generation txn result => .ok (actor.authorizationResult generation txn result).2.2
  | .report generation txn => .ok (actor.reportFinish generation txn .retryable none).2
  | .linkDown isVs => .ok (actor.linkDown isVs).2

/-- The state tells what is stored. -/
structure Coherent (actor : ActorAuthorization) : Prop where
  link : actor.linkType = .nodeToAdapter
  remoteTxn : actor.data.remoteTxn.isSome = true ↔ actor.data.state = .awaitingEvidence ∨ actor.data.state = .authorizing
  challenge : actor.data.challenge.isSome = true ↔ actor.data.state = .awaitingEvidence
  addresses : actor.addresses ≠ [] ↔ actor.data.state = .authorized

namespace Coherent
variable {actor : ActorAuthorization} (coherent : actor.Coherent)
include coherent

omit coherent in
theorem idle (link : actor.linkType = .nodeToAdapter) (remoteTxn : actor.data.remoteTxn = none)
    (challenge : actor.data.challenge = none) (addresses : actor.addresses = []) (state : actor.data.state = .waitingForLink) :
    actor.Coherent := by
  constructor <;> simp [link, remoteTxn, challenge, addresses, state]

theorem addresses_nil {txn} (current : actor.data.remoteTxn = some txn) : actor.addresses = [] := by
  apply not_not.mp
  intro assigned
  have := coherent.remoteTxn.mp (current ▸ rfl)
  rw [coherent.addresses.mp assigned] at this
  cases this <;> contradiction

theorem finished {txn} (current : actor.data.remoteTxn = some txn) {status} (failed : status ≠ .success) :
    (actor.finished status none).Coherent := by
  apply idle
  · exact coherent.link
  · rfl
  · rfl
  · exact coherent.addresses_nil current
  · exact if_neg failed

omit coherent in
theorem authorized (link : actor.linkType = .nodeToAdapter) (address) :
    (actor.finished .success (some address)).Coherent := by
  constructor <;> simp [ActorAuthorization.finished, link]

theorem taken (state : actor.data.state = .awaitingEvidence) : actor.taken.Coherent := by
  have open_ := coherent.remoteTxn.mpr (.inl state)
  have free := coherent.addresses
  rw [state] at free
  constructor <;> simp_all [ActorAuthorization.taken, coherent.link]

/-- A message that is refused changes nothing. -/
theorem handle (context : Context) (message : AuthMessage) : (actor.handle p context message).2.Coherent ∧
    ∀ problem, (actor.handle p context message).1 = .error problem → (actor.handle p context message).2 = actor := by
  have handled := handle_handled (p := p) coherent.link context message
  generalize actor.handle p context message = outcome at handled
  cases handled with
  | refused => exact ⟨coherent, fun _ _ => rfl⟩
  | started txn idle free made =>
    refine ⟨?_, nofun⟩
    constructor <;> simp [ActorAuthorization.started, coherent.link, free]
  | abandoned txn state current =>
    exact ⟨idle coherent.link rfl rfl (coherent.addresses_nil current) rfl, nofun⟩
  | unchallenged txn addresses text state none =>
    -- A session that waits for evidence has a challenge.
    have stored := coherent.challenge.mpr state
    rw [none] at stored
    cases stored
  | rejected txn addresses text awaits =>
    exact ⟨(coherent.taken awaits.state).finished awaits.remoteTxn nofun, nofun⟩
  | deferred txn addresses text requested awaits => exact ⟨authorized coherent.link requested, nofun⟩
  | forwarded txn addresses text requested awaits => exact ⟨coherent.taken awaits.state, nofun⟩

theorem complete (generation : UInt64) (txn : TxnId) (result) :
    (actor.authorizationResult generation txn result).2.2.Coherent := by
  have resulted := actor.authorizationResult_resulted generation txn result
  generalize actor.authorizationResult generation txn result = outcome at resulted
  cases resulted with
  | stale | unusable | ignored => exact coherent
  | installed address => exact authorized coherent.link _
  | failed problem current =>
    exact coherent.finished (isCurrent_iff.mp current).2.1 (authorizationErrorStatus_ne_success problem)

theorem report (generation : UInt64) (txn : TxnId) : (actor.reportFinish generation txn .retryable none).2.Coherent := by
  obtain same | ⟨current, finished⟩ := actor.reportFinish_cases generation txn .retryable
  · rw [same]
    exact coherent
  · rw [finished]
    exact coherent.finished current nofun

end Coherent

theorem session_coherent {events : List SessionStep} {final : ActorAuthorization}
    (run : Run (sessionStep p) (fun _ _ => True) (.new .nodeToAdapter) events final) : final.Coherent ∧
      ∀ context message problem, (final.handle p context message).1 = .error problem →
        (final.handle p context message).2 = final := by
  have coherent : final.Coherent := by
    apply run.invariant Coherent
    · intro actor event next _ coherent stepped
      cases event with
      | receive context message =>
        cases stepped
        exact (coherent.handle context message).1
      | complete generation txn result =>
        cases stepped
        exact coherent.complete generation txn result
      | report generation txn =>
        cases stepped
        exact coherent.report generation txn
      | linkDown isVs =>
        cases stepped
        exact .idle coherent.link rfl rfl rfl rfl
    · exact .idle rfl rfl rfl rfl rfl
  exact ⟨coherent, fun context message => (coherent.handle context message).2⟩

theorem session_coherent_sample : ∃ final, Run (sessionStep .plain) (fun _ _ => True) (.new .nodeToAdapter)
    [.receive (.plain 5 1) (.startAuthentication 3), .receive (.plain 6 2) (.startAuthentication 4)] final ∧ final.Coherent := by
  apply Run.exists_imp (fun _ => True)
  · decide +kernel
  · intro final run _
    exact (session_coherent run).1

end ActorAuthorization
end ZprCore.Auth
