import ZprCore.Auth.Worker
import ZprCore.Proofs.ActorAuth

/-! A denial is recorded by the worker that reads it, and only then for the whole process. -/

namespace ZprCore.Auth
open Datapath (IpAddress)
open Node (TxnId)
open Runs Adapter

/-- What a poll of the worker may do. -/
inductive Polled (adapter : Adapter) : Awaited → Adapter × List AdapterEffect → Prop where
  | idle (awaited : Awaited) : Polled adapter awaited (adapter, [])
  | opened (txn : TxnId) (worker : adapter.actor.data.worker = some .opening) :
      Polled adapter (.opened txn)
        ((adapter.prepareReply txn .requestingAuthentication).setWorker (.startSent txn none), [.send (.startAuthentication txn)])
  | startSent (txn : TxnId) (received : Option Reply) (worker : adapter.actor.data.worker = some (.startSent txn received)) :
      Polled adapter (.sent true) (adapter.setWorker (.awaitingOffer txn received), [])
  | acquireSent (txn : TxnId) (received : Option Reply)
      (worker : adapter.actor.data.worker = some (.acquireSent txn received)) :
      Polled adapter (.sent true) (adapter.setWorker (.awaitingGrant txn received), [])
  | offered (txn : TxnId) (offer : AuthenticationOffer) (install : Option Bool)
      (worker : adapter.actor.data.worker = some (.awaitingOffer txn (some (.offer offer))))
      (success : offer.status = .success) :
      Polled adapter (.replied install) ((adapter.setState .authenticating).setWorker (.authenticating txn offer), [])
  | refused (txn : TxnId) (offer : AuthenticationOffer) (install : Option Bool)
      (worker : adapter.actor.data.worker = some (.awaitingOffer txn (some (.offer offer))))
      (failed : offer.status ≠ .success) : Polled adapter (.replied install) (adapter.settle offer.status, [])
  | presented (config : AdapterConfig) (aaa : Option IpAddress) (outcome : Except AuthError String) (txn : TxnId)
      (offer : AuthenticationOffer) (worker : adapter.actor.data.worker = some (.authenticating txn offer)) :
      Polled adapter (.authenticated config aaa outcome) (adapter.present config txn (evidence config offer aaa outcome))
  | granted (txn : TxnId) (address : IpAddress) (rest : List IpAddress) (install : Option Bool)
      (worker : adapter.actor.data.worker = some (.awaitingGrant txn (some (.grant .success (address :: rest))))) :
      Polled adapter (.replied install) ((adapter.setWorker .finished).installAddress address install)
  | ungranted (txn : TxnId) (status : AuthenticationStatus) (addresses : List IpAddress) (install : Option Bool)
      (worker : adapter.actor.data.worker = some (.awaitingGrant txn (some (.grant status addresses))))
      (failed : status ≠ .success) : Polled adapter (.replied install) (adapter.settle status, [])
  | abandoned (txn : TxnId) (outcome : AuthenticationStatus)
      (worker : adapter.actor.data.worker = some (.abandoning txn outcome)) :
      Polled adapter (.acked true) (adapter.settle outcome, [])
  | woken (worker : adapter.actor.data.worker = some .backoff) : Polled adapter .slept (adapter.setWorker .opening, [])
  | closed (awaited : Awaited) (gone : awaited = .peerGone ∨ awaited = .sent false ∨ awaited = .acked false)
      (unread : awaited ≠ .sent false → adapter.holdsDenial = false) :
      Polled adapter awaited (adapter.setWorker .finished, [])
  | noOffer (txn : TxnId) (received : Option Reply) (install : Option Bool)
      (worker : adapter.actor.data.worker = some (.awaitingOffer txn received))
      (left : received = none → adapter.actor.data.reply = false) (other : ∀ offer, received ≠ some (.offer offer)) :
      Polled adapter (.replied install) (adapter.setWorker .finished, [])
  | noGrant (txn : TxnId) (received : Option Reply) (install : Option Bool)
      (worker : adapter.actor.data.worker = some (.awaitingGrant txn received))
      (left : received = none → adapter.actor.data.reply = false)
      (other : ∀ status addresses, received ≠ some (.grant status addresses)) :
      Polled adapter (.replied install) (adapter.setWorker .finished, [])

namespace Adapter
variable {adapter : Adapter} {awaited : Awaited} {result} {received : Option Reply}
  {install : Option Bool}

theorem offered_polled {txn} (worker : adapter.actor.data.worker = some (.awaitingOffer txn received))
    (ready : ¬ (received.isNone = true ∧ adapter.actor.data.reply = true)) :
    Polled adapter (.replied install) (adapter.offered txn received, []) := by
  cases received with
  | none =>
    refine .noOffer txn none install worker ?_ nofun
    intro _
    rw [← Bool.not_eq_true]
    intro there
    exact ready ⟨rfl, there⟩
  | some reply =>
    cases reply with
    | offer offer =>
      rw [offered]
      split
      · next success => exact .offered txn offer install worker success
      · next failed => exact .refused txn offer install worker failed
    | grant status addresses => exact .noOffer txn _ install worker nofun nofun

theorem granted_polled {txn} (worker : adapter.actor.data.worker = some (.awaitingGrant txn received))
    (ready : ¬ (received.isNone = true ∧ adapter.actor.data.reply = true))
    (polled : adapter.granted install received = .ok result) : Polled adapter (.replied install) result := by
  cases received with
  | none =>
    cases polled
    refine .noGrant txn none install worker ?_ nofun
    intro _
    rw [← Bool.not_eq_true]
    intro there
    exact ready ⟨rfl, there⟩
  | some reply =>
    cases reply with
    | offer offer =>
      cases polled
      exact .noGrant txn _ install worker nofun nofun
    | grant status addresses =>
      rw [granted] at polled
      split at polled
      · next success =>
        subst success
        cases addresses with
        | nil => cases polled
        | cons address rest =>
          cases polled
          exact .granted txn address rest install worker
      · next failed =>
        cases polled
        exact .ungranted txn status addresses install worker failed

theorem poll_polled (polled : adapter.poll awaited = .ok result) : Polled adapter awaited result := by
  unfold poll at polled
  split at polled
  · next worker =>
    cases polled
    exact .opened _ worker
  · next worker =>
    cases polled
    refine .closed _ (.inl rfl) ?_
    intro _
    rw [holdsDenial, worker]
    rfl
  · next txn received ok worker =>
    cases polled
    cases ok with
    | true => exact .startSent txn received worker
    | false => exact .closed _ (.inr (.inl rfl)) fun other => absurd rfl other
  · next txn received install worker =>
    split at polled
    · cases polled
      exact .idle _
    next ready =>
    cases polled
    exact offered_polled worker ready
  · next worker =>
    cases polled
    exact .presented _ _ _ _ _ worker
  · next txn received ok worker =>
    cases polled
    cases ok with
    | true => exact .acquireSent txn received worker
    | false => exact .closed _ (.inr (.inl rfl)) fun other => absurd rfl other
  · next txn received install worker =>
    split at polled
    · cases polled
      exact .idle _
    · next ready => exact granted_polled worker ready polled
  · next txn outcome ok worker =>
    split at polled
    · next acked =>
      subst acked
      cases polled
      exact .abandoned txn outcome worker
    · next unacked =>
      rw [Bool.not_eq_true] at unacked
      subst unacked
      cases polled
      refine .closed _ (.inr (.inr rfl)) ?_
      intro _
      rw [holdsDenial, worker]
      rfl
  · next worker =>
    cases polled
    exact .woken worker
  · cases polled
    exact .idle _

theorem deniesItself_cases (denies : adapter.deniesItself awaited = true) :
    ∃ txn offer config aaa outcome problem, adapter.actor.data.worker = some (.authenticating txn offer) ∧
      awaited = .authenticated config aaa outcome ∧ evidence config offer aaa outcome = .error problem ∧
      problem.isRejected = true := by
  unfold deniesItself at denies
  split at denies
  · next txn offer config aaa outcome worker =>
    split at denies
    · next problem failed => exact ⟨txn, offer, config, aaa, outcome, problem, worker, rfl, failed, denies⟩
    · cases denies
  · cases denies

end Adapter

/-- What becomes of a reply of the node. -/
inductive Delivered (actor : ActorAuthorization) (txn : TxnId) (state : ActorState) (reply : Reply) :
    Except HandleMgmtError Unit × ActorAuthorization → Prop where
  | refused (problem : HandleMgmtError) : Delivered actor txn state reply (.error problem, actor)
  | lost (problem : HandleMgmtError) :
      Delivered actor txn state reply (.error problem, { actor with data := { actor.data with reply := false } })
  | accepted {worker later} (expected : actor.data.state = state) (mine : actor.data.txn = some txn)
      (there : actor.data.reply = true) (running : actor.data.worker = some worker)
      (received : worker.receive reply = some later) :
      Delivered actor txn state reply (.ok (), { actor with data := { actor.data with reply := false, worker := some later } })

namespace ActorAuthorization
variable {actor}

theorem deliverReply_delivered (actor : ActorAuthorization) (txn : TxnId) (state : ActorState) (reply : Reply) :
    Delivered actor txn state reply (actor.deliverReply txn state reply) := by
  rw [deliverReply]
  split
  · exact .refused _
  next fits =>
  rw [not_or, not_or, not_or, not_not, not_not, not_not, not_not] at fits
  obtain ⟨_, expected, mine, there⟩ := fits
  dsimp only
  split
  · next later received =>
    obtain ⟨worker, running, received⟩ := Option.bind_eq_some_iff.mp received
    exact .accepted expected mine there running received
  · exact .lost _

/-- What an adapter may do with a message. -/
inductive Replied (actor : ActorAuthorization) : AuthMessage → Except HandleMgmtError (List Effect) × ActorAuthorization → Prop where
  | refused (message : AuthMessage) (problem : HandleMgmtError) : Replied actor message (.error problem, actor)
  | lost (message : AuthMessage) (problem : HandleMgmtError) :
      Replied actor message (.error problem, { actor with data := { actor.data with reply := false } })
  | offered (txn : TxnId) (offer : AuthenticationOffer) {worker later}
      (expected : actor.data.state = .requestingAuthentication) (mine : actor.data.txn = some txn)
      (there : actor.data.reply = true) (running : actor.data.worker = some worker)
      (received : worker.receive (.offer offer) = some later) :
      Replied actor (.initAuthentication txn offer)
        (.ok [], { actor with data := { actor.data with reply := false, worker := some later } })
  | granted (txn : TxnId) (status : AuthenticationStatus) (addresses : List IpAddress) {worker later}
      (expected : actor.data.state = .acquiringAddress) (mine : actor.data.txn = some txn)
      (there : actor.data.reply = true) (running : actor.data.worker = some worker)
      (received : worker.receive (.grant status addresses) = some later) :
      Replied actor (.grantZprAddress txn status addresses)
        (.ok [], { actor with data := { actor.data with reply := false, worker := some later } })

theorem handle_replied {p} (link : actor.linkType = .adapterToNode) (context : Context) (message : AuthMessage) :
    Replied actor message (actor.handle p context message) := by
  have denied : actor.requireNodeLink context.ready = .error .messageNotPermitted := by
    rw [requireNodeLink, if_pos (.inl (by rw [link]; nofun))]
  cases message with
  | startAuthentication txn | abandonAuthentication txn | acquireZprAddress txn addresses text =>
    simp only [handle, startRemote, abandonRemote, acquireRemote, denied]
    exact .refused _ _
  | initAuthentication txn offer =>
    rw [handle, receiveOffer]
    have delivered := actor.deliverReply_delivered txn .requestingAuthentication (.offer offer)
    generalize actor.deliverReply txn .requestingAuthentication (.offer offer) = outcome at delivered ⊢
    cases delivered with
    | refused problem => exact .refused _ _
    | lost problem => exact .lost _ _
    | accepted expected mine there running received => exact .offered txn offer expected mine there running received
  | grantZprAddress txn status addresses =>
    rw [handle, receiveGrant]
    by_cases malformed : (status = .success ∧ addresses.length ≠ 1) ∨ (status ≠ .success ∧ addresses ≠ [])
    · rw [if_pos malformed]
      exact .refused _ _
    rw [if_neg malformed]
    have delivered := actor.deliverReply_delivered txn .acquiringAddress (.grant status addresses)
    generalize actor.deliverReply txn .acquiringAddress (.grant status addresses) = outcome at delivered ⊢
    cases delivered with
    | refused problem => exact .refused _ _
    | lost problem => exact .lost _ _
    | accepted expected mine there running received =>
      exact .granted txn status addresses expected mine there running received

end ActorAuthorization

/-- The state in which a worker listens. -/
def Worker.expects : Worker → Option ActorState
  | .startSent _ _ | .awaitingOffer _ _ => some .requestingAuthentication
  | .acquireSent _ _ | .awaitingGrant _ _ => some .acquiringAddress
  | _ => none

def Reply.state : Reply → ActorState
  | .offer _ => .requestingAuthentication
  | .grant _ _ => .acquiringAddress

/-- A worker is over, or about to end with a denial. -/
def Worker.Closing (worker : Worker) : Prop := worker = .finished ∨ ∃ txn, worker = .abandoning txn .rejected

theorem Worker.receive_some {worker later : Worker} {reply} (received : worker.receive reply = some later) :
    worker.received = none ∧ later.received = some reply ∧ later.expects = worker.expects ∧ worker.expects ≠ none := by
  unfold receive at received
  split at received
  · cases received
    exact ⟨rfl, rfl, rfl, nofun⟩
  · cases received
    exact ⟨rfl, rfl, rfl, nofun⟩
  · cases received
    exact ⟨rfl, rfl, rfl, nofun⟩
  · cases received
    exact ⟨rfl, rfl, rfl, nofun⟩
  · cases received

/-- Invariant of an adapter: a worker listens in its state, and for its kind of reply; after a recorded
denial no worker goes on; and a denial has been recorded, or the worker has not looked at it yet. -/
structure Latched (adapter : Adapter) (denied : Bool) : Prop where
  link : adapter.actor.linkType = .adapterToNode
  listens : ∀ worker, adapter.actor.data.worker = some worker → ∀ state, worker.expects = some state →
    adapter.actor.data.state = state ∧ ∀ reply, worker.received = some reply → reply.state = state
  closing : adapter.actorRejected = true → ∀ worker, adapter.actor.data.worker = some worker → worker.Closing
  latched : denied = true → adapter.actorRejected = true ∨ adapter.holdsDenial = true

namespace Latched
variable {adapter : Adapter} {denied : Bool} {worker : Worker}
variable {awaited : Awaited} {result}

theorem undenied (kept : Latched adapter denied) (running : adapter.actor.data.worker = some worker)
    (goesOn : ¬ worker.Closing) (unread : adapter.holdsDenial = false) : denied = false ∧ adapter.actorRejected = false := by
  have unrecorded : adapter.actorRejected = false := by
    rw [← Bool.not_eq_true]
    intro recorded
    exact goesOn (kept.closing recorded worker running)
  refine ⟨?_, unrecorded⟩
  rw [← Bool.not_eq_true]
  intro denial
  obtain recorded | held := kept.latched denial
  · rw [unrecorded] at recorded
    cases recorded
  · rw [unread] at held
    cases held

theorem fresh {later} (link : later.actor.linkType = .adapterToNode)
    (listens : ∀ worker, later.actor.data.worker = some worker → ∀ state, worker.expects = some state → later.actor.data.state = state ∧ ∀ reply, worker.received = some reply → reply.state = state)
    (unrecorded : later.actorRejected = false) : Latched later false where
  link := link
  listens := listens
  closing recorded := by
    rw [unrecorded] at recorded
    cases recorded
  latched := nofun

theorem new : Latched AdapterProcess.new.adapter false := by
  refine fresh rfl ?_ rfl
  intro _ running
  cases running

section
variable (kept : Latched adapter denied) (unread : adapter.holdsDenial = false)
include kept unread

theorem finish : Latched (adapter.setWorker .finished) denied where
  link := kept.link
  listens _ running state expects := by
    cases running
    cases expects
  closing _ _ running := by
    cases running
    exact .inl rfl
  latched denial := by
    obtain recorded | held := kept.latched denial
    · exact .inl recorded
    · rw [unread] at held
      cases held

theorem stop {actor} (link : actor.linkType = .adapterToNode) (aborted : actor.data.worker = none) :
    Latched { adapter with actor } denied where
  link := link
  listens _ running := by
    rw [aborted] at running
    cases running
  closing _ _ running := by
    rw [aborted] at running
    cases running
  latched denial := by
    obtain recorded | held := kept.latched denial
    · exact .inl recorded
    · rw [unread] at held
      cases held

end

theorem unread_of_idle (idle : adapter.actor.data.worker.any (!·.isFinished) = false) :
    adapter.holdsDenial = false ∧ ∀ worker, adapter.actor.data.worker = some worker → worker = .finished := by
  rw [holdsDenial]
  cases running : adapter.actor.data.worker with
  | none => exact ⟨rfl, nofun⟩
  | some worker =>
    rw [running, Option.any_some, Bool.not_eq_false'] at idle
    cases worker with
    | finished => exact ⟨rfl, fun _ same => (Option.some.inj same).symm⟩
    | _ => cases idle

section
variable (running : adapter.actor.data.worker = some worker) (kept : Latched adapter denied)
include running kept

omit running in
theorem linkReady : Latched adapter.linkReady denied := by
  rw [Adapter.linkReady, ActorAuthorization.linkReady]
  split
  · exact kept
  next idle =>
  rw [not_or, not_not, Bool.not_eq_true] at idle
  obtain ⟨link, idle⟩ := idle
  obtain ⟨unread, gone⟩ := unread_of_idle idle
  dsimp only
  split
  · next recorded =>
    refine ⟨link, ?_, ?_, fun _ => .inl recorded⟩
    · intro worker running state expects
      obtain rfl := gone worker running
      cases expects
    · intro _ worker running
      exact .inl (gone worker running)
  · next unrecorded =>
    rw [Bool.not_eq_true] at unrecorded
    have undenied : denied = false := by
      rw [← Bool.not_eq_true]
      intro denial
      obtain recorded | held := kept.latched denial
      · rw [unrecorded] at recorded
        cases recorded
      · rw [unread] at held
        cases held
    subst undenied
    refine fresh link ?_ unrecorded
    intro worker running state expects
    cases running
    cases expects

omit kept in
theorem unread_of (read : ∀ reply, worker.received = some reply → reply.status ≠ .rejected) : adapter.holdsDenial = false := by
  rw [holdsDenial, running, Option.bind_some]
  cases received : worker.received with
  | none => rfl
  | some reply =>
    rw [Option.any_some, decide_eq_false_iff_not]
    exact read reply received

theorem settle {outcome} (read : ∀ reply, worker.received = some reply → reply.status = outcome)
    (denial : worker.Closing → outcome = .rejected) : Latched (adapter.settle outcome) denied := by
  rw [Adapter.settle]
  dsimp only
  split
  · refine ⟨kept.link, ?_, ?_, fun _ => .inl rfl⟩
    · intro _ running state expects
      cases running
      cases expects
    intro _ _ running
    cases running
    exact .inl rfl
  · next failed =>
    have unread : adapter.holdsDenial = false := by
      apply unread_of running
      intro reply received
      rw [read reply received]
      exact failed
    obtain ⟨rfl, unrecorded⟩ := kept.undenied running (fun closing => failed (denial closing)) unread
    refine fresh kept.link ?_ unrecorded
    intro _ running state expects
    cases running
    cases expects

theorem deliver {later : Worker} {reply} (received : worker.receive reply = some later)
    (expected : adapter.actor.data.state = reply.state) :
    Latched { adapter with actor := { adapter.actor with
      data := { adapter.actor.data with reply := false, worker := some later } } }
      (denied || decide (reply.status = .rejected)) := by
  obtain ⟨unread, stored, same, listening⟩ := Worker.receive_some received
  have silent : adapter.holdsDenial = false := by
    rw [holdsDenial, running, Option.bind_some, unread]
    rfl
  have goesOn : ¬ worker.Closing := by
    rintro (rfl | ⟨txn, rfl⟩) <;> exact listening rfl
  obtain ⟨rfl, unrecorded⟩ := kept.undenied running goesOn silent
  refine ⟨kept.link, ?_, ?_, ?_⟩
  · intro _ running' state expects
    cases running'
    rw [same] at expects
    obtain ⟨state', _⟩ := kept.listens worker running state expects
    refine ⟨state', ?_⟩
    intro reply' stored'
    cases stored.symm.trans stored'
    exact expected.symm.trans state'
  · intro recorded
    rw [unrecorded] at recorded
    cases recorded
  · intro denial
    rw [Bool.false_or] at denial
    refine .inr ?_
    rw [holdsDenial, Option.bind_some, stored, Option.any_some]
    exact denial

end

theorem poll_denial (kept : Latched adapter denied) (polled : adapter.poll awaited = .ok result)
    (denies : adapter.deniesItself awaited = true) :
    Latched result.1 true ∧ ∃ txn, result.2 = [.send (.abandonAuthentication txn)] := by
  obtain ⟨txn, offer, config, aaa, outcome, problem, worker, rfl, failed, rejected⟩ := deniesItself_cases denies
  unfold poll at polled
  simp only [worker, failed] at polled
  cases polled
  refine ⟨⟨kept.link, ?_, ?_, ?_⟩, txn, rfl⟩
  · intro _ running state expects
    cases running
    cases expects
  · intro _ _ running
    cases running
    exact .inr ⟨txn, by rw [if_pos rejected]⟩
  intro _
  refine .inl ?_
  exact (congrArg (adapter.actorRejected || ·) rejected).trans (Bool.or_true _)

theorem present (kept : Latched adapter false) (unrecorded : adapter.actorRejected = false) (config : AdapterConfig)
    (txn : TxnId) {outcome} (undenied : ∀ problem, outcome = .error problem → problem.isRejected = false) :
    Latched (adapter.present config txn outcome).1 false := by
  cases outcome with
  | ok blob =>
    refine fresh kept.link ?_ unrecorded
    intro _ running state expects
    cases running
    cases expects
    exact ⟨rfl, nofun⟩
  | error problem =>
    refine fresh kept.link ?_ ?_
    · intro _ running state expects
      cases running
      cases expects
    · exact (congr (congrArg or unrecorded) (undenied problem rfl)).trans rfl

/-- What the worker does next keeps the invariant, provided that a failing send does not end it before it
has looked at a denial. -/
theorem poll (kept : Latched adapter denied) (polled : Polled adapter awaited result)
    (itself : adapter.deniesItself awaited = false) (allowed : awaited = .sent false → adapter.holdsDenial = false) :
    Latched (if .linkError ∈ result.2 then result.1.linkDown else result.1) denied := by
  cases polled with
  | idle => exact kept
  | opened txn worker =>
    obtain ⟨rfl, unrecorded⟩ := kept.undenied worker nofun (unread_of worker nofun)
    refine fresh kept.link ?_ unrecorded
    intro _ running state expects
    cases running
    cases expects
    exact ⟨rfl, nofun⟩
  | startSent txn received worker | acquireSent txn received worker =>
    refine ⟨kept.link, ?_, ?_, ?_⟩
    · intro _ running state expects
      cases running
      exact kept.listens _ worker state expects
    · intro recorded
      obtain impossible | ⟨_, impossible⟩ := kept.closing recorded _ worker <;> cases impossible
    · intro denial
      refine (kept.latched denial).imp id ?_
      rw [holdsDenial, worker]
      exact id
  | offered txn offer install worker success =>
    obtain ⟨rfl, unrecorded⟩ := kept.undenied worker nofun (unread_of worker (by
      intro reply same
      cases same
      rw [Reply.status, success]
      nofun))
    refine fresh kept.link ?_ unrecorded
    intro _ running state expects
    cases running
    cases expects
  | refused txn offer install worker failed | ungranted txn status addresses install worker failed =>
    apply kept.settle worker
    · intro reply same
      cases same
      rfl
    · nofun
  | presented config aaa outcome txn offer worker =>
    obtain ⟨rfl, unrecorded⟩ := kept.undenied worker nofun (unread_of worker nofun)
    unfold deniesItself at itself
    simp only [worker] at itself
    generalize evidence config offer aaa outcome = found at itself ⊢
    cases found with
    | ok blob => exact kept.present unrecorded config txn nofun
    | error problem =>
      apply kept.present unrecorded config txn
      intro _ same
      cases same
      exact itself
  | granted txn address rest install worker =>
    obtain ⟨rfl, unrecorded⟩ := kept.undenied worker nofun (unread_of worker (by
      intro reply same
      cases same
      nofun))
    cases install with
    | none =>
      refine fresh kept.link ?_ unrecorded
      intro _ running
      cases running
    | some owned =>
      refine fresh kept.link ?_ unrecorded
      intro _ running state expects
      cases running
      cases expects
  | abandoned txn outcome worker =>
    apply kept.settle worker
    · nofun
    intro closing
    obtain impossible | ⟨_, same⟩ := closing
    · cases impossible
    · cases same
      rfl
  | woken worker =>
    obtain ⟨rfl, unrecorded⟩ := kept.undenied worker nofun (unread_of worker nofun)
    refine fresh kept.link ?_ unrecorded
    intro _ running state expects
    cases running
    cases expects
  | closed awaited gone unread =>
    apply kept.finish
    by_cases unsent : awaited = .sent false
    · exact allowed unsent
    · exact unread unsent
  | noOffer txn received install worker left other | noGrant txn received install worker left other =>
    apply kept.finish
    apply unread_of worker
    intro reply same
    obtain ⟨_, kind⟩ := kept.listens _ worker _ rfl
    have state := kind reply same
    cases reply <;> first | exact absurd same (other _) | exact absurd same (other _ _) | cases state

theorem starts (kept : Latched adapter true) (polled : Polled adapter awaited result) :
    (AdapterProcess.messages result.2).filter (·.isStart) = [] := by
  cases polled with
  | opened txn worker =>
    obtain ⟨impossible, _⟩ := kept.undenied worker nofun (unread_of worker nofun)
    cases impossible
  | presented config aaa outcome txn offer worker =>
    cases evidence config offer aaa outcome with
    | ok blob => rfl
    | error problem => rfl
  | granted txn address rest install worker =>
    cases install with
    | none => rfl
    | some owned => rfl
  | _ => rfl

end Latched

namespace AdapterProcess
variable {p : Primitives} {process next : AdapterProcess}

/-- No worker is stopped before it has looked at a denial: neither by a link-down or a reset nor by a
send that fails. -/
def Allowed (process : AdapterProcess) : AdapterStep → Prop
  | .linkDown | .reset | .poll (.sent false) => process.adapter.holdsDenial = false
  | _ => True

instance (process : AdapterProcess) (label : AdapterStep) : Decidable (process.Allowed label) := by
  unfold Allowed
  split <;> infer_instance

theorem step_latched (kept : Latched process.adapter process.denied) {label} (allowed : process.Allowed label)
    (stepped : process.step p label = .ok next) :
    Latched next.adapter next.denied ∧
      (process.denied = true → next.denied = true ∧ next.sent.filter (·.isStart) = process.sent.filter (·.isStart)) := by
  cases label with
  | linkReady =>
    cases stepped
    exact ⟨kept.linkReady, fun denied => ⟨denied, rfl⟩⟩
  | linkDown =>
    cases stepped
    exact ⟨kept.stop allowed kept.link rfl, fun denied => ⟨denied, rfl⟩⟩
  | reset =>
    cases stepped
    exact ⟨kept.stop allowed rfl rfl, fun denied => ⟨denied, rfl⟩⟩
  | receive context message =>
    have replied := ActorAuthorization.handle_replied (p := p) kept.link context message
    rw [step] at stepped
    generalize process.adapter.actor.handle p context message = outcome at replied stepped
    cases replied with
    | refused message problem | lost message problem =>
      cases stepped
      dsimp only [Except.isOk, Except.toBool]
      rw [Bool.false_and, Bool.or_false]
      exact ⟨⟨kept.link, kept.listens, kept.closing, kept.latched⟩, fun denied => ⟨denied, rfl⟩⟩
    | offered txn offer expected mine there running received
    | granted txn status addresses expected mine there running received =>
      cases stepped
      refine ⟨kept.deliver running received expected, fun denied => ⟨?_, rfl⟩⟩
      rw [denied]
      rfl
  | poll awaited =>
    obtain ⟨⟨later, effects⟩, polled, remaining⟩ := Panic.bind_ok.mp stepped
    cases remaining
    dsimp only [perform]
    rw [List.filter_append]
    cases itself : process.adapter.deniesItself awaited with
    | true =>
      obtain ⟨latched, txn, rfl⟩ := kept.poll_denial polled itself
      rw [Bool.or_true]
      exact ⟨latched, fun _ => ⟨rfl, List.append_nil _⟩⟩
    | false =>
      have inverted := poll_polled polled
      rw [Bool.or_false]
      refine ⟨kept.poll inverted itself ?_, fun denied => ⟨denied, ?_⟩⟩
      · rintro rfl
        exact allowed
      · rw [denied] at kept
        rw [kept.starts inverted, List.append_nil]

theorem run_latched {steps} (run : Run (step p) Allowed new steps process) : Latched process.adapter process.denied := by
  refine run.invariant (fun process => Latched process.adapter process.denied) ?_ .new
  intro process label next allowed kept stepped
  exact (step_latched kept allowed stepped).1

/-- Once a denial has been accepted, no later session of the process starts another attempt, provided
that no worker was stopped before it had looked at a denial. -/
theorem rejection_latched (p : Primitives) (steps more : List AdapterStep) (process final : AdapterProcess)
    (before : Run (step p) Allowed new steps process) (denied : process.denied = true)
    (after : Run (step p) Allowed process more final) :
    final.sent.filter (·.isStart) = process.sent.filter (·.isStart) := by
  have whole := after.invariant
    (fun later => Latched later.adapter later.denied ∧ later.denied = true ∧
      later.sent.filter (·.isStart) = process.sent.filter (·.isStart)) ?_ ⟨run_latched before, denied, rfl⟩
  · exact whole.2.2
  intro later label next allowed ⟨kept, denied, same⟩ stepped
  obtain ⟨kept', onward⟩ := step_latched kept allowed stepped
  obtain ⟨denied', same'⟩ := onward denied
  exact ⟨kept', denied', same'.trans same⟩

/-- The worker reads the denial before the link goes down. -/
theorem rejection_latched_sample : ∃ process final,
    Run (step .plain) Allowed new
      [.linkReady, .poll (.opened 1), .poll (.sent true),
        .receive (.plain 5 1) (.initAuthentication 1 ⟨.rejected, none, []⟩)] process ∧
    process.denied = true ∧
    Run (step .plain) Allowed process [.poll (.replied none), .linkDown, .linkReady, .poll (.opened 2)] final ∧
    final.sent.filter (·.isStart) = process.sent.filter (·.isStart) := by
  simp only [exists_and_left]
  refine Run.exists_imp (fun process => process.denied = true ∧ (execWhere (step .plain) Allowed process
    [.poll (.replied none), .linkDown, .linkReady, .poll (.opened 2)]).any (fun _ => decide True) = true)
    (by decide +kernel) ?_
  intro process before ⟨denied, executed⟩
  obtain ⟨final, after, _⟩ := Run.exists_of_execWhere executed
  exact ⟨denied, final, after, rejection_latched .plain _ _ process final before denied after⟩

/-- A denial is forgotten if the link goes down before the worker has looked at it. -/
theorem rejection_forgotten : ∃ process final,
    Run (step .plain) (fun _ _ => True) new
      [.linkReady, .poll (.opened 1), .poll (.sent true),
        .receive (.plain 5 1) (.initAuthentication 1 ⟨.success, some ⟨Vector.replicate 8 1, 5, Vector.replicate 32 0⟩, []⟩),
        .poll (.replied none), .poll (.authenticated ⟨true, false, [], 1000⟩ none (.ok "evidence")), .poll (.sent true),
        .receive (.plain 6 2) (.grantZprAddress 1 .rejected [])] process ∧
    process.denied = true ∧
    Run (step .plain) (fun _ _ => True) process [.linkDown, .linkReady, .poll (.opened 2)] final ∧
    process.sent.filter (·.isStart) = [.startAuthentication 1] ∧
    final.sent.filter (·.isStart) = [.startAuthentication 1, .startAuthentication 2] := by
  simp only [exists_and_left]
  refine Run.exists_imp (fun process => process.denied = true ∧ process.sent.filter (·.isStart) = [.startAuthentication 1] ∧
    (execWhere (step .plain) (fun _ _ => True) process [.linkDown, .linkReady, .poll (.opened 2)]).any
      (fun final => final.sent.filter (·.isStart) = [.startAuthentication 1, .startAuthentication 2]) = true)
    (by decide +kernel) ?_
  intro process _ ⟨denied, first, executed⟩
  obtain ⟨final, after, second⟩ := Run.exists_of_execWhere executed
  exact ⟨denied, final, after, first, second⟩

end AdapterProcess
end ZprCore.Auth
