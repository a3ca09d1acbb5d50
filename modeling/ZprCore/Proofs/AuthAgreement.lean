import ZprCore.Auth.Link
import ZprCore.Proofs.Rejection

/-! Adapter and node go through an authorization together. The invariant says in which stage the adapter's
attempt is, and lists the phases of the two with what is under way between them. -/

namespace ZprCore.Auth
open List Option ActorAuthorization Effect Nat
open Datapath (IpAddress)
open Node (TxnId)

/-- Where the adapter's attempt has come to. A reply is there from when it arrives. -/
inductive Stage where
  | resting
  | requesting (txn : TxnId) (offer : Option AuthenticationOffer)
  | authenticating (txn : TxnId) (offer : AuthenticationOffer)
  | acquiring (txn : TxnId) (grant : Option (AuthenticationStatus × List IpAddress))
  | abandoning (txn : TxnId) (outcome : AuthenticationStatus)
  | authorized (address : IpAddress)

/-- The worker waits for a reply in a transaction, and may have been given it. -/
structure Listens (adapter : Adapter) (state : ActorState) (sending waiting : Worker) (txn : TxnId)
    (received : Option Reply) : Prop where
  worker : adapter.actor.data.worker = some sending ∨ adapter.actor.data.worker = some waiting
  state : adapter.actor.data.state = state
  txn : adapter.actor.data.txn = some txn
  there : received = none → adapter.actor.data.reply = true

def Worker.sleeps : Worker → Bool
  | .opening | .backoff | .finished => true
  | _ => false

def InStage (adapter : Adapter) : Stage → Prop
  | .resting => adapter.actor.data.worker.all (·.sleeps) = true ∧ adapter.actor.data.state ≠ .authorized
  | .requesting txn offer =>
    Listens adapter .requestingAuthentication (.startSent txn (offer.map .offer)) (.awaitingOffer txn (offer.map .offer))
      txn (offer.map .offer)
  | .authenticating txn offer =>
    adapter.actor.data.worker = some (.authenticating txn offer) ∧ adapter.actor.data.state ≠ .authorized
  | .acquiring txn grant =>
    Listens adapter .acquiringAddress (.acquireSent txn (grant.map fun (status, addresses) => .grant status addresses))
      (.awaitingGrant txn (grant.map fun (status, addresses) => .grant status addresses)) txn
      (grant.map fun (status, addresses) => .grant status addresses)
  | .abandoning txn outcome =>
    adapter.actor.data.worker = some (.abandoning txn outcome) ∧ adapter.actor.data.state ≠ .authorized ∧ outcome ≠ .success
  | .authorized address => adapter.actor.data.worker = some .finished ∧ adapter.actor.addresses = [address]

/-- How the worker moves from stage to stage, and what it sends. -/
inductive Moves (awaited : Awaited) : Stage → Stage → List AuthMessage → Prop where
  | stay (stage : Stage) : Moves awaited stage stage []
  | start (txn : TxnId) : Moves awaited .resting (.requesting txn none) [.startAuthentication txn]
  | offered (txn : TxnId) (offer : AuthenticationOffer) :
      Moves awaited (.requesting txn (some offer)) (.authenticating txn offer) []
  | refused (txn : TxnId) (offer : AuthenticationOffer) (failed : offer.status ≠ .success) :
      Moves awaited (.requesting txn (some offer)) .resting []
  | acquire (txn : TxnId) (offer : AuthenticationOffer) (addresses : Option (List IpAddress)) (text : String)
      (short : addresses.any (·.length > 1) = false) :
      Moves awaited (.authenticating txn offer) (.acquiring txn none) [.acquireZprAddress txn addresses text]
  | abandon (txn : TxnId) (offer : AuthenticationOffer) (outcome : AuthenticationStatus) :
      Moves awaited (.authenticating txn offer) (.abandoning txn outcome) [.abandonAuthentication txn]
  | granted (txn : TxnId) (address : IpAddress) (rest : List IpAddress) :
      Moves awaited (.acquiring txn (some (.success, address :: rest))) (.authorized address) []
  | ungranted (txn : TxnId) (status : AuthenticationStatus) (addresses : List IpAddress) (failed : status ≠ .success) :
      Moves awaited (.acquiring txn (some (status, addresses))) .resting []
  | abandoned (txn : TxnId) (outcome : AuthenticationStatus) (acked : awaited = .acked true) :
      Moves awaited (.abandoning txn outcome) .resting []

namespace InStage
variable {adapter : Adapter} {stage : Stage} {txn : TxnId} {outcome} {effects}
  {offer} {config : AdapterConfig} {aaa : Option IpAddress}

theorem of_worker {worker} (inStage : InStage adapter stage) (running : adapter.actor.data.worker = some worker) :
    match worker with
    | .opening | .backoff => stage = .resting
    | .startSent txn received | .awaitingOffer txn received =>
      ∃ offer, stage = .requesting txn offer ∧ received = offer.map .offer
    | .authenticating txn offer => stage = .authenticating txn offer
    | .acquireSent txn received | .awaitingGrant txn received =>
      ∃ grant, stage = .acquiring txn grant ∧ received = grant.map fun (status, addresses) => .grant status addresses
    | .abandoning txn outcome => stage = .abandoning txn outcome ∧ outcome ≠ .success
    | .finished => True := by
  cases stage with
  | resting =>
    obtain ⟨sleeps, _⟩ := inStage
    rw [running, all_some] at sleeps
    cases worker with
    | opening | backoff => rfl
    | finished => trivial
    | _ => cases sleeps
  | requesting txn received | acquiring txn received =>
    obtain other | other := inStage.worker
    · cases running.symm.trans other
      exact ⟨received, rfl, rfl⟩
    · cases running.symm.trans other
      exact ⟨received, rfl, rfl⟩
  | authenticating txn offer =>
    cases running.symm.trans inStage.1
    rfl
  | abandoning txn outcome =>
    cases running.symm.trans inStage.1
    exact ⟨rfl, inStage.2.2⟩
  | authorized address =>
    cases running.symm.trans inStage.1
    trivial

theorem settle (adapter : Adapter) (outcome) : InStage (adapter.settle outcome) .resting := by
  rw [Adapter.settle]
  dsimp only
  split <;> exact ⟨rfl, by rintro ⟨⟩⟩

theorem evidence_short {blob} (found : evidence config offer aaa outcome = .ok blob) : config.zprAddr.length ≤ 1 := by
  by_contra long
  have refused : ∀ text, validateAcquireZprAddressRequest config.zprAddr config.capacity text =
      .error (.rejected "only one actor address can be requested") := by
    intro text
    exact if_pos (not_le.mp long)
  rw [evidence] at found
  cases authenticated : authenticate config offer aaa outcome with
  | error problem =>
    rw [authenticated] at found
    cases found
  | ok text =>
    rw [authenticated] at found
    simp only [refused, bind, Except.bind] at found
    cases found

theorem present {awaited later}
    (presented : adapter.present config txn (evidence config offer aaa outcome) = (later, effects)) :
    ∃ stage, Moves awaited (.authenticating txn offer) stage (AdapterProcess.messages effects) ∧ InStage later stage := by
  simp only [Adapter.present] at presented
  split at presented
  case h_2 =>
    cases presented
    refine ⟨_, .abandon txn offer _, rfl, nofun, ?_⟩
    split <;> nofun
  rename_i blob found
  cases presented
  refine ⟨_, .acquire txn offer _ blob ?_, .inl rfl, rfl, rfl, fun _ => rfl⟩
  have short := evidence_short found
  split
  · rfl
  · rw [any_some, length_map]
    exact decide_eq_false (not_lt.mpr short)

theorem poll {awaited later} (inStage : InStage adapter stage) (polled : Polled adapter awaited (later, effects))
    (lasting : awaited.isFailure = false) (whole : .linkError ∉ effects) :
    ∃ next, Moves awaited stage next (AdapterProcess.messages effects) ∧ InStage later next := by
  generalize result : (later, effects) = outcome at polled
  cases polled with
  | idle =>
    cases result
    exact ⟨stage, .stay stage, inStage⟩
  | opened txn worker =>
    cases result
    cases inStage.of_worker worker
    exact ⟨_, .start txn, .inl rfl, rfl, rfl, fun _ => rfl⟩
  | startSent txn received worker | acquireSent txn received worker =>
    cases result
    obtain ⟨_, rfl, rfl⟩ := inStage.of_worker worker
    exact ⟨_, .stay _, .inr rfl, inStage.state, inStage.txn, inStage.there⟩
  | offered txn offer install worker status | refused txn offer install worker status =>
    cases result
    obtain ⟨_ | received, rfl, same⟩ := inStage.of_worker worker <;> cases same
    first | exact ⟨_, .refused txn offer status, settle adapter _⟩ | exact ⟨_, .offered txn offer, rfl, nofun⟩
  | presented config aaa outcome txn offer worker =>
    cases inStage.of_worker worker
    exact present result.symm
  | granted txn address rest install worker =>
    obtain ⟨_ | ⟨status, addresses⟩, rfl, same⟩ := inStage.of_worker worker <;> cases same
    cases install with
    | none =>
      cases result
      exact absurd (mem_singleton_self _) whole
    | some owned =>
      cases result
      exact ⟨_, .granted txn address rest, rfl, rfl⟩
  | ungranted txn status addresses install worker failed =>
    cases result
    obtain ⟨_ | ⟨status, addresses⟩, rfl, same⟩ := inStage.of_worker worker <;> cases same
    exact ⟨_, .ungranted txn status addresses failed, settle adapter _⟩
  | abandoned txn outcome worker =>
    cases result
    obtain ⟨rfl, _⟩ := inStage.of_worker worker
    exact ⟨_, .abandoned txn outcome rfl, settle adapter _⟩
  | woken worker =>
    cases result
    cases inStage.of_worker worker
    exact ⟨_, .stay _, rfl, inStage.2⟩
  | closed awaited gone =>
    rcases gone with rfl | rfl | rfl <;> cases lasting
  | noOffer txn received install worker left other | noGrant txn received install worker left other =>
    obtain ⟨reply, rfl, rfl⟩ := inStage.of_worker worker
    cases reply with
    | none => cases (inStage.there rfl).symm.trans (left rfl)
    | some => first | exact absurd rfl (other _) | exact absurd rfl (other _ _)

end InStage

/-- The node takes a new attempt. -/
structure Free (node : ActorAuthorization) : Prop where
  idle : node.data.remoteTxn = none
  addresses : node.addresses = []

/-- The node waits for evidence. -/
structure Awaiting (node : ActorAuthorization) (txn : TxnId) : Prop where
  awaits : ∃ challenge, node.Awaits txn challenge
  addresses : node.addresses = []

structure Authorizing (node : ActorAuthorization) (txn : TxnId) : Prop where
  state : node.data.state = .authorizing
  remoteTxn : node.data.remoteTxn = some txn
  addresses : node.addresses = []

/-- The node has finished an attempt. -/
inductive Answered (node : ActorAuthorization) : AuthenticationStatus → List IpAddress → Prop where
  | success {address} (state : node.data.state = .authorized) (addresses : node.addresses = [address]) :
      Answered node .success [address]
  | failure {status} (failed : status ≠ .success) (free : Free node) : Answered node status []

/-- No task of the node is running. -/
def Quiet (tasks : List PendingTask) : Prop :=
  ∀ (number : Nat) (task : PendingTask), tasks[number]? = some task → task.stage = .done

/-- One task may be running. -/
def OnlyTask (tasks : List PendingTask) (number : Nat) : Prop :=
  ∀ (other : Nat) (task : PendingTask), tasks[other]? = some task → task.stage = .done ∨ other = number

/-- The phases of an attempt, with the messages under way to the node and to the adapter, and those that
were ever sent. -/
inductive Phase (node : ActorAuthorization) (tasks : List PendingTask) :
    Stage → List AuthMessage → List AuthMessage → List AuthMessage → List AuthMessage → Prop where
  | resting {adapterSent nodeSent} (free : Free node) (quiet : Quiet tasks) :
      Phase node tasks .resting [] [] adapterSent nodeSent
  | cleaning {adapterSent nodeSent old} (awaiting : Awaiting node old) (quiet : Quiet tasks) :
      Phase node tasks .resting [.abandonAuthentication old] [] adapterSent nodeSent
  | starting {adapterSent nodeSent txn} (free : Free node) (quiet : Quiet tasks) :
      Phase node tasks (.requesting txn none) [.startAuthentication txn] [] adapterSent nodeSent
  | restarting {adapterSent nodeSent txn old} (awaiting : Awaiting node old)
      (quiet : Quiet tasks) :
      Phase node tasks (.requesting txn none) [.abandonAuthentication old, .startAuthentication txn] []
        adapterSent nodeSent
  | offering {adapterSent nodeSent txn offer}
      (awaiting : Awaiting node txn) (quiet : Quiet tasks) (success : offer.status = .success) :
      Phase node tasks (.requesting txn none) [] [.initAuthentication txn offer] adapterSent nodeSent
  | offered {adapterSent nodeSent txn offer}
      (awaiting : Awaiting node txn) (quiet : Quiet tasks) (success : offer.status = .success) :
      Phase node tasks (.requesting txn (some offer)) [] [] adapterSent nodeSent
  | authenticating {adapterSent nodeSent txn offer}
      (awaiting : Awaiting node txn) (quiet : Quiet tasks) :
      Phase node tasks (.authenticating txn offer) [] [] adapterSent nodeSent
  | acquiring {adapterSent nodeSent txn addresses text}
      (awaiting : Awaiting node txn) (quiet : Quiet tasks) (short : addresses.any (·.length > 1) = false) :
      Phase node tasks (.acquiring txn none) [.acquireZprAddress txn addresses text] []
        (adapterSent ++ [.acquireZprAddress txn addresses text]) nodeSent
  | authorizing {adapterSent nodeSent txn addresses text}
      {number task} (authorizing : Authorizing node txn) (only : OnlyTask tasks number)
      (running : tasks[number]? = some task) (generation : task.generation = node.data.generation) (mine : task.txn = txn) :
      Phase node tasks (.acquiring txn none) [] [] (adapterSent ++ [.acquireZprAddress txn addresses text]) nodeSent
  | granting {adapterSent nodeSent txn addresses text}
      {status granted} (answered : Answered node status granted)
      (quiet : Quiet tasks) :
      Phase node tasks (.acquiring txn none) [] [.grantZprAddress txn status granted]
        (adapterSent ++ [.acquireZprAddress txn addresses text]) (nodeSent ++ [.grantZprAddress txn status granted])
  | granted {adapterSent nodeSent txn addresses text}
      {status granted} (answered : Answered node status granted)
      (quiet : Quiet tasks) :
      Phase node tasks (.acquiring txn (some (status, granted))) [] []
        (adapterSent ++ [.acquireZprAddress txn addresses text]) (nodeSent ++ [.grantZprAddress txn status granted])
  | authorized {adapterSent nodeSent txn addresses text}
      {address} (answered : Answered node .success [address]) (quiet : Quiet tasks) :
      Phase node tasks (.authorized address) [] [] (adapterSent ++ [.acquireZprAddress txn addresses text])
        (nodeSent ++ [.grantZprAddress txn .success [address]])
  | abandoning {adapterSent nodeSent txn outcome}
      (awaiting : Awaiting node txn) (quiet : Quiet tasks) :
      Phase node tasks (.abandoning txn outcome) [.abandonAuthentication txn] [] adapterSent nodeSent
  | abandoned {adapterSent nodeSent txn outcome}
      (free : Free node) (quiet : Quiet tasks) :
      Phase node tasks (.abandoning txn outcome) [] [] adapterSent nodeSent

namespace ActorAuthorization
variable {p : Primitives} {node : ActorAuthorization} {context : Context} {txn : TxnId}

section
variable (link : node.linkType = .nodeToAdapter) (ready : context.ready = true)
include link ready

theorem requireNodeLink_ready : node.requireNodeLink context.ready = .ok () := by
  rw [requireNodeLink, link, ready]
  rfl

theorem startRemote_free (free : Free node) (txn : TxnId) :
    ∃ challenge, node.startRemote p context txn =
      (.ok [.send (.initAuthentication txn ⟨.success, some challenge, context.asaAddresses⟩)], node.started txn challenge) := by
  refine ⟨.new p context.authKey context.nonce context.now, ?_⟩
  rw [startRemote, requireNodeLink_ready link ready]
  dsimp only
  rw [if_neg]
  · rfl
  rw [free.idle, free.addresses]
  rintro (impossible | impossible)
  · cases impossible
  · exact impossible rfl

omit link ready in
theorem Awaits.current {challenge} (awaits : node.Awaits txn challenge) :
    ¬ (node.data.state ≠ .awaitingEvidence ∨ node.data.remoteTxn ≠ some txn) := by
  rw [awaits.state, awaits.remoteTxn]
  rintro (different | different) <;> exact different rfl

theorem abandonRemote_awaiting (awaiting : Awaiting node txn) : node.abandonRemote context txn = (.ok [], node.abandoned) := by
  obtain ⟨challenge, awaits⟩ := awaiting.awaits
  rw [abandonRemote, requireNodeLink_ready link ready]
  dsimp only
  rw [if_neg awaits.current]
  rfl

theorem acquireRemote_awaiting (awaiting : Awaiting node txn) {addresses} (short : addresses.any (·.length > 1) = false)
    (text : String) :
    ∃ challenge requested, node.acquireRemote p context txn addresses text =
      node.taken.judgeEvidence p context txn requested text challenge := by
  obtain ⟨challenge, awaits⟩ := awaiting.awaits
  refine ⟨challenge, (addresses.bind (·.head?)).getD Node.unspecified, ?_⟩
  rw [acquireRemote, requireNodeLink_ready link ready]
  dsimp only
  rw [short, if_neg (by simp), if_neg awaits.current, awaits.challenge]
  rfl

end

end ActorAuthorization

theorem Quiet.concat {tasks} (quiet : Quiet tasks) (task : PendingTask) : OnlyTask (tasks ++ [task]) tasks.length := by
  intro other entry found
  by_cases inside : other < tasks.length
  · rw [getElem?_append_left inside] at found
    exact .inl (quiet other entry found)
  have bounded := Panic.lt_length found
  rw [length_append, length_singleton] at bounded
  exact .inr (le_antisymm (le_of_lt_succ bounded) (not_lt.mp inside))

namespace OnlyTask
variable {tasks : List PendingTask} {number other : Nat} {task : PendingTask}

variable (only : OnlyTask tasks number)
include only

theorem number_eq (found : tasks[other]? = some task) (running : task.stage ≠ .done) :
    other = number := (only other task found).resolve_left running

theorem set (task : PendingTask) : OnlyTask (tasks.set number task) number := by
  intro other entry found
  obtain ⟨rfl, _⟩ | ⟨_, kept⟩ := getElem?_set_cases found
  · exact .inr rfl
  · exact only other entry kept

theorem set_done (done : task.stage = .done) : Quiet (tasks.set number task) := by
  intro other entry found
  obtain ⟨_, rfl⟩ | ⟨different, kept⟩ := getElem?_set_cases found
  · exact done
  · exact (only other entry kept).resolve_right different

end OnlyTask

theorem Listens.deliver {adapter state sending waiting txn} (reply : Reply)
    (listens : Listens adapter state sending waiting txn none) (link : adapter.actor.linkType = .adapterToNode)
    {sending' waiting'} (sent : sending.receive reply = some sending') (awaited : waiting.receive reply = some waiting') :
    ∃ later, adapter.actor.deliverReply txn state reply = (.ok (), later) ∧ later.linkType = .adapterToNode ∧
      Listens { adapter with actor := later } state sending' waiting' txn (some reply) := by
  have accepted : ¬ (adapter.actor.linkType ≠ .adapterToNode ∨ adapter.actor.data.state ≠ state ∨
      adapter.actor.data.txn ≠ some txn ∨ ¬ adapter.actor.data.reply = true) := by
    rw [link, listens.state, listens.txn, listens.there rfl]
    rintro (different | different | different | different) <;> exact different rfl
  rw [deliverReply, if_neg accepted]
  dsimp only
  obtain running | running := listens.worker
  · rw [running, bind_some, sent]
    exact ⟨_, rfl, link, .inl rfl, listens.state, listens.txn, by simp⟩
  · rw [running, bind_some, awaited]
    exact ⟨_, rfl, link, .inr rfl, listens.state, listens.txn, by simp⟩

namespace Phase
variable {p : Primitives} {adapter : Adapter} {node} {tasks : List PendingTask} {stage next : Stage}
  {toNode toAdapter adapterSent nodeSent messages : List AuthMessage} {context : Context} {message : AuthMessage}
  {awaited : Awaited}
variable {number : Nat} {task : PendingTask}

theorem handleNode (phase : Phase node tasks stage (message :: toNode) toAdapter adapterSent nodeSent)
    (link : node.linkType = .nodeToAdapter) (ready : context.ready = true) :
    ∃ effects later, node.handle p context message = (.ok effects, later) ∧ later.linkType = .nodeToAdapter ∧
      Phase later (tasks ++ effects.filterMap (·.pending)) stage toNode (toAdapter ++ effects.filterMap (·.message))
        adapterSent (nodeSent ++ effects.filterMap (·.message)) := by
  cases phase with
  | cleaning awaiting quiet =>
    refine ⟨_, _, abandonRemote_awaiting link ready awaiting, link, ?_⟩
    rw [filterMap_nil, append_nil]
    exact .resting ⟨rfl, awaiting.addresses⟩ quiet
  | starting free quiet =>
    obtain ⟨challenge, accepted⟩ := startRemote_free (p := p) link ready free _
    refine ⟨_, _, accepted, link, ?_⟩
    simp only [filterMap_cons, filterMap_nil, pending, message, append_nil, nil_append]
    exact .offering ⟨⟨challenge, rfl, rfl, rfl⟩, free.addresses⟩ quiet rfl
  | restarting awaiting quiet =>
    refine ⟨_, _, abandonRemote_awaiting link ready awaiting, link, ?_⟩
    rw [filterMap_nil, append_nil]
    exact .starting ⟨rfl, awaiting.addresses⟩ quiet
  | acquiring awaiting quiet short =>
    obtain ⟨challenge, requested, judged⟩ :=
      acquireRemote_awaiting (p := p) link ready awaiting short _
    obtain ⟨_, awaits⟩ := awaiting.awaits
    have current : node.taken.data.remoteTxn = _ := awaits.remoteTxn
    obtain rejected | ⟨request, _, ⟨_, deferred⟩ | ⟨_, forwarded⟩⟩ :=
      judgeEvidence_cases (p := p) current context requested _ challenge
    · refine ⟨_, _, judged.trans rejected, link, ?_⟩
      simp only [filterMap_cons, filterMap_nil, pending, message, append_nil, nil_append]
      exact .granting (.failure nofun ⟨rfl, awaiting.addresses⟩) quiet
    · refine ⟨_, _, judged.trans deferred, link, ?_⟩
      simp only [filterMap_cons, filterMap_nil, pending, message, append_nil, nil_append]
      exact .granting (.success rfl rfl) quiet
    refine ⟨_, _, judged.trans forwarded, link, ?_⟩
    simp only [filterMap_cons, filterMap_nil, pending, message, append_nil]
    exact .authorizing ⟨rfl, current, awaiting.addresses⟩ (quiet.concat _) getElem?_concat_length rfl rfl
  | abandoning awaiting quiet =>
    refine ⟨_, _, abandonRemote_awaiting link ready awaiting, link, ?_⟩
    rw [filterMap_nil, append_nil]
    exact .abandoned ⟨rfl, awaiting.addresses⟩ quiet

theorem handleAdapter (phase : Phase node tasks stage toNode (message :: toAdapter) adapterSent nodeSent)
    (inStage : InStage adapter stage) (link : adapter.actor.linkType = .adapterToNode) (context : Context) :
    ∃ effects later next, adapter.actor.handle p context message = (.ok effects, later) ∧
      later.linkType = .adapterToNode ∧ InStage { adapter with actor := later } next ∧ next ≠ .resting ∧
      Phase node tasks next toNode toAdapter adapterSent nodeSent := by
  cases phase with
  | @offering _ _ txn offer awaiting quiet success =>
    obtain ⟨later, delivered, link, listens⟩ := Listens.deliver (.offer offer) inStage link rfl rfl
    refine ⟨[], later, .requesting txn (some offer), ?_, link, listens, by simp, .offered awaiting quiet success⟩
    rw [handle, receiveOffer, delivered]
    rfl
  | @granting _ _ txn _ _ status granted answered quiet =>
    obtain ⟨later, delivered, link, listens⟩ := Listens.deliver (.grant status granted) inStage link rfl rfl
    refine ⟨[], later, .acquiring txn (some (status, granted)), ?_, link, listens, by simp, .granted answered quiet⟩
    rw [handle, receiveGrant, if_neg, delivered]
    · rfl
    cases answered with
    | success state addresses =>
      rintro (⟨_, different⟩ | ⟨different, _⟩) <;> exact different rfl
    | failure failed free =>
      rintro (⟨success, _⟩ | ⟨_, different⟩)
      · exact failed success
      · exact different rfl

section
variable (phase : Phase node tasks stage toNode toAdapter adapterSent nodeSent) {later}
  {effects : List Effect}
include phase

theorem moves (moves : Moves awaited stage next messages) :
    Phase node tasks next (toNode ++ messages) toAdapter (adapterSent ++ messages) nodeSent := by
  cases moves with
  | stay =>
    rw [append_nil, append_nil]
    exact phase
  | start txn =>
    cases phase with
    | resting free quiet => exact .starting free quiet
    | cleaning awaiting quiet => exact .restarting awaiting quiet
  | offered txn offer =>
    cases phase with
    | offered awaiting quiet success => exact .authenticating awaiting quiet
  | refused txn offer failed =>
    cases phase with
    | offered awaiting quiet success => exact absurd success failed
  | acquire txn offer addresses text short =>
    cases phase with
    | authenticating awaiting quiet => exact .acquiring awaiting quiet short
  | abandon txn offer outcome =>
    cases phase with
    | authenticating awaiting quiet => exact .abandoning awaiting quiet
  | granted txn address rest =>
    rw [append_nil, append_nil]
    cases phase with
    | granted answered quiet =>
      cases answered with
      | success state addresses => exact .authorized (.success state addresses) quiet
  | ungranted txn status addresses failed =>
    rw [append_nil, append_nil]
    cases phase with
    | granted answered quiet =>
      cases answered with
      | success state addresses => exact absurd rfl failed
      | failure failed free => exact .resting free quiet
  | abandoned txn outcome acked =>
    rw [append_nil, append_nil]
    cases phase with
    | abandoning awaiting quiet => exact .cleaning awaiting quiet
    | abandoned free quiet => exact .resting free quiet

section
variable (found : tasks[number]? = some task)
include found

theorem of_running (running : task.stage ≠ .done) :
    ∃ sent addresses text, stage = .acquiring task.txn none ∧ toNode = [] ∧ toAdapter = [] ∧
      adapterSent = sent ++ [.acquireZprAddress task.txn addresses text] ∧ Authorizing node task.txn ∧
      OnlyTask tasks number ∧ task.generation = node.data.generation := by
  cases phase with
  | @authorizing sent _ txn addresses text other there authorizing only present generation mine =>
    obtain rfl := only.number_eq found running
    cases found.symm.trans present
    subst mine
    exact ⟨sent, addresses, text, rfl, rfl, rfl, rfl, authorizing, only, generation⟩
  | _ => exact absurd (‹Quiet tasks› number task found) running

/-- The answer of the visa service is passed on, or its task is left with something to do. -/
theorem complete {result remainder} (asking : task.stage = .asking)
    (resulted : ActorAuthorization.Resulted node task.generation task.txn result (effects, remainder, later)) :
    effects.filterMap (·.pending) = [] ∧ later.linkType = node.linkType ∧
      Phase later (tasks.set number { task with stage := remainder.stage }) stage toNode
        (toAdapter ++ effects.filterMap (·.message)) adapterSent (nodeSent ++ effects.filterMap (·.message)) := by
  have running : task.stage ≠ .done := by
    rw [asking]
    nofun
  obtain ⟨sent, addresses, text, rfl, rfl, rfl, rfl, authorizing, only, generation⟩ := phase.of_running found running
  have inside := Panic.lt_length found
  have current : node.isCurrent task.generation task.txn = true :=
    isCurrent_iff.mpr ⟨generation.symm, authorizing.remoteTxn, authorizing.state⟩
  cases resulted with
  | stale address stale | ignored problem stale => cases current.symm.trans stale
  | unusable address =>
    refine ⟨rfl, rfl, ?_⟩
    simp only [filterMap_cons, filterMap_nil, message, append_nil]
    exact .authorizing authorizing (only.set _) (getElem?_set_self inside) generation rfl
  | installed address => exact ⟨rfl, rfl, .granting (.success rfl rfl) (only.set_done rfl)⟩
  | failed problem =>
    refine ⟨rfl, rfl, .granting (.failure ?_ ⟨rfl, authorizing.addresses⟩) (only.set_done rfl)⟩
    exact authorizationErrorStatus_ne_success problem

theorem resume (disconnecting : task.stage = .disconnecting)
    (reported : node.reportFinish task.generation task.txn .retryable none = (effects, later)) :
    effects.filterMap (·.pending) = [] ∧ later.linkType = node.linkType ∧
      Phase later (tasks.set number { task with stage := .done }) stage toNode
        (toAdapter ++ effects.filterMap (·.message)) adapterSent (nodeSent ++ effects.filterMap (·.message)) := by
  have running : task.stage ≠ .done := by
    rw [disconnecting]
    nofun
  obtain ⟨sent, addresses, text, rfl, rfl, rfl, rfl, authorizing, only, generation⟩ := phase.of_running found running
  have inside := Panic.lt_length found
  obtain silent | ⟨_, told⟩ := node.reportFinish_cases task.generation task.txn .retryable
  · cases reported.symm.trans silent
    refine ⟨rfl, rfl, ?_⟩
    rw [filterMap_nil, append_nil, append_nil]
    exact .authorizing authorizing (only.set _) (getElem?_set_self inside) generation rfl
  · cases reported.symm.trans told
    exact ⟨rfl, rfl, .granting (.failure nofun ⟨rfl, authorizing.addresses⟩) (only.set_done rfl)⟩

end

omit phase in
/-- At most one message is in flight to the node, and none while the adapter is at rest. -/
theorem flight {arrived flying} (phase : Phase node tasks stage (arrived ++ flying) toAdapter adapterSent nodeSent)
    (moves : Moves awaited stage next messages) (few : flying.length ≤ 1) (calm : stage = .resting → flying = [])
    (acked : awaited = .acked true → ∀ txn outcome, stage = .abandoning txn outcome → .abandonAuthentication txn ∉ flying) :
    (flying ++ messages).length ≤ 1 ∧ (next = .resting → flying ++ messages = []) := by
  generalize whole : arrived ++ flying = toNode at phase
  cases moves with
  | stay =>
    rw [append_nil]
    exact ⟨few, calm⟩
  | start txn =>
    rw [calm rfl]
    exact ⟨le_refl 1, nofun⟩
  | offered txn offer | refused txn offer | granted txn address rest | ungranted txn status addresses failed =>
    cases phase
    rw [(append_eq_nil_iff.mp whole).2]
    exact ⟨zero_le 1, fun _ => rfl⟩
  | acquire txn offer addresses text | abandon txn offer outcome =>
    cases phase
    rw [(append_eq_nil_iff.mp whole).2]
    exact ⟨le_refl 1, nofun⟩
  | abandoned txn outcome reached =>
    have gone : flying = [] := by
      cases phase with
      | abandoning awaiting quiet =>
        obtain ⟨_, there⟩ | ⟨_, gone⟩ := append_eq_singleton_iff.mp whole
        · rw [there] at acked
          exact absurd (mem_singleton_self _) (acked reached txn outcome rfl)
        · exact gone
      | abandoned free quiet => exact (append_eq_nil_iff.mp whole).2
    rw [gone]
    exact ⟨zero_le 1, fun _ => rfl⟩

theorem toAdapter_short : toAdapter.length ≤ 1 := by
  cases phase with
  | offering | granting => exact le_refl 1
  | _ => exact zero_le 1

end

end Phase

theorem Polled.linkType {adapter later awaited effects} (polled : Polled adapter awaited (later, effects)) :
    later.actor.linkType = adapter.actor.linkType := by
  have settled outcome : (adapter.settle outcome).actor.linkType = adapter.actor.linkType := by
    rw [Adapter.settle]
    dsimp only
    split <;> rfl
  generalize result : (later, effects) = outcome at polled
  cases polled with
  | refused | ungranted | abandoned =>
    cases result
    exact settled _
  | presented config aaa outcome txn offer =>
    cases found : evidence config offer aaa outcome with
    | ok blob | error problem =>
      rw [found] at result
      cases result
      rfl
  | granted txn address rest install =>
    cases install with
    | none | some owned =>
      cases result
      rfl
  | _ =>
    cases result
    rfl

theorem getElem?_toList_append_eraseIdx {list : List α} (short : list.length ≤ 1) (index : Nat) :
    list[index]?.toList ++ list.eraseIdx index = list := by
  match list, index with
  | [], _ => rfl
  | [_], 0 => rfl
  | [_], _ + 1 => rfl

/-- Adapter and node are in the same phase of an attempt. -/
structure Agreement (link : AuthLink) : Prop where
  phase : ∃ stage, InStage link.adapter stage ∧ (stage = .resting → link.toNode = []) ∧
    Phase link.node link.tasks stage (link.atNode ++ link.toNode) (link.atAdapter ++ link.toAdapter) link.adapterSent
      link.nodeSent
  adapterLink : link.adapter.actor.linkType = .adapterToNode
  nodeLink : link.node.linkType = .nodeToAdapter
  few : link.toNode.length ≤ 1

namespace Agreement
variable {p : Primitives} {link later : AuthLink} {awaited : Awaited} {label : LinkStep}

theorem new (isVs : Bool) (generation : UInt64) (actorRejected : Bool) :
    Agreement (.new isVs generation actorRejected) where
  phase := by
    refine ⟨.resting, ?_, fun _ => rfl, .resting ⟨rfl, rfl⟩ nofun⟩
    cases actorRejected with
    | false | true => exact ⟨rfl, nofun⟩
  adapterLink := by
    cases actorRejected with
    | false => rfl
    | true => rfl
  nodeLink := rfl
  few := zero_le 1

section
variable (agreement : Agreement link)
include agreement

theorem poll (allowed : AuthLink.Allowed link (.poll awaited)) (polled : link.poll awaited = .ok later) (up : later.up = true) :
    Agreement later := by
  obtain ⟨stage, inStage, calm, phase⟩ := agreement.phase
  obtain ⟨⟨adapter, effects⟩, ran, done⟩ := Panic.bind_ok.mp polled
  cases done
  have went := Adapter.poll_polled ran
  simp only [Bool.and_eq_true, Bool.not_eq_true', decide_eq_false_iff_not] at up
  obtain ⟨⟨_, lasting⟩, whole⟩ := up
  obtain ⟨next, moves, inNext⟩ := inStage.poll went lasting whole
  have acked : awaited = .acked true → ∀ txn outcome, stage = .abandoning txn outcome →
      .abandonAuthentication txn ∉ link.toNode := by
    rintro rfl txn outcome rfl
    rw [AuthLink.Allowed, inStage.1] at allowed
    exact of_decide_eq_true allowed
  obtain ⟨few, calm⟩ := phase.flight moves agreement.few calm acked
  refine ⟨⟨next, inNext, calm, ?_⟩, went.linkType.trans agreement.adapterLink, agreement.nodeLink, few⟩
  rw [← append_assoc]
  exact phase.moves moves

theorem arriveNode (index : Nat) : Agreement (link.arriveNode index) := by
  obtain ⟨stage, inStage, calm, phase⟩ := agreement.phase
  refine ⟨⟨stage, inStage, ?_, ?_⟩, agreement.adapterLink, agreement.nodeLink, ?_⟩
  · intro resting
    rw [AuthLink.arriveNode, calm resting]
    rfl
  · rw [AuthLink.arriveNode, append_assoc, getElem?_toList_append_eraseIdx agreement.few]
    exact phase
  · exact le_trans (length_eraseIdx_le _ _) agreement.few

theorem arriveAdapter (index : Nat) : Agreement (link.arriveAdapter index) := by
  obtain ⟨stage, inStage, calm, phase⟩ := agreement.phase
  refine ⟨⟨stage, inStage, calm, ?_⟩, agreement.adapterLink, agreement.nodeLink, agreement.few⟩
  have short := phase.toAdapter_short
  rw [length_append] at short
  rw [AuthLink.arriveAdapter, append_assoc, getElem?_toList_append_eraseIdx (le_of_add_left_le short)]
  exact phase

theorem handleNode (up : link.up = true) (context : Context) : Agreement (link.handleNode p context) := by
  obtain ⟨stage, inStage, calm, phase⟩ := agreement.phase
  rw [AuthLink.handleNode]
  split
  · exact agreement
  next message atNode arrived =>
  rw [arrived] at phase
  have ready : (link.context context).ready = true := up
  obtain ⟨effects, node, handled, nodeLink, phase⟩ := Phase.handleNode (p := p) phase agreement.nodeLink ready
  rw [handled]
  dsimp only
  rw [append_assoc] at phase
  exact ⟨⟨stage, inStage, calm, phase⟩, agreement.adapterLink, nodeLink, agreement.few⟩

theorem handleAdapter (context : Context) : Agreement (link.handleAdapter p context) := by
  obtain ⟨stage, inStage, calm, phase⟩ := agreement.phase
  rw [AuthLink.handleAdapter]
  split
  · exact agreement
  next message atAdapter arrived =>
  rw [arrived] at phase
  obtain ⟨effects, actor, next, handled, adapterLink, inNext, awake, phase⟩ :=
    Phase.handleAdapter (p := p) phase inStage agreement.adapterLink (link.context context)
  rw [handled]
  exact ⟨⟨next, inNext, fun resting => absurd resting awake, phase⟩, adapterLink, agreement.nodeLink, agreement.few⟩

theorem complete (number : Nat) (result) : Agreement (link.complete number result) := by
  obtain ⟨stage, inStage, calm, phase⟩ := agreement.phase
  rw [AuthLink.complete]
  split
  · exact agreement
  next task found =>
  split
  · exact agreement
  next asking =>
  have resulted := link.node.authorizationResult_resulted task.generation task.txn result
  generalize link.node.authorizationResult task.generation task.txn result = outcome at resulted ⊢
  obtain ⟨effects, remainder, node⟩ := outcome
  obtain ⟨silent, nodeLink, phase⟩ := phase.complete found (Decidable.not_not.mp asking) resulted
  rw [append_assoc, ← append_nil (link.tasks.set _ _), ← silent] at phase
  exact ⟨⟨stage, inStage, calm, phase⟩, agreement.adapterLink, nodeLink.trans agreement.nodeLink, agreement.few⟩

theorem resume (number : Nat) : Agreement (link.resume number) := by
  obtain ⟨stage, inStage, calm, phase⟩ := agreement.phase
  rw [AuthLink.resume]
  split
  · exact agreement
  next task found =>
  split
  · exact agreement
  next disconnecting =>
  generalize reported : link.node.reportFinish task.generation task.txn .retryable none = outcome
  obtain ⟨effects, node⟩ := outcome
  obtain ⟨silent, nodeLink, phase⟩ := phase.resume found (Decidable.not_not.mp disconnecting) reported
  rw [append_assoc, ← append_nil (link.tasks.set _ _), ← silent] at phase
  exact ⟨⟨stage, inStage, calm, phase⟩, agreement.adapterLink, nodeLink.trans agreement.nodeLink, agreement.few⟩

end

theorem step (agreement : link.up = true → Agreement link) (allowed : AuthLink.Allowed link label)
    (stepped : link.step p label = .ok later) (up : later.up = true) : Agreement later := by
  unfold AuthLink.step at stepped
  split at stepped
  · next gone =>
    cases stepped
    exact absurd up gone
  next active =>
  have agreement := agreement (Decidable.not_not.mp active)
  cases label with
  | poll awaited => exact agreement.poll allowed stepped up
  | arriveNode index =>
    cases stepped
    exact agreement.arriveNode index
  | arriveAdapter index =>
    cases stepped
    exact agreement.arriveAdapter index
  | handleNode context =>
    cases stepped
    exact agreement.handleNode (Decidable.not_not.mp active) context
  | handleAdapter context =>
    cases stepped
    exact agreement.handleAdapter context
  | complete number result =>
    cases stepped
    exact agreement.complete number result
  | resume number =>
    cases stepped
    exact agreement.resume number
  | down =>
    cases stepped
    cases up

theorem of_run {isVs actorRejected generation steps}
    (run : Runs.Run (AuthLink.step p) AuthLink.Allowed (.new isVs generation actorRejected) steps link) :
    link.up = true → Agreement link := by
  apply Runs.Run.invariant (fun link => link.up = true → Agreement link) _ run
  · intro _
    exact new isVs generation actorRejected
  · intro link label later allowed agreement stepped up
    exact step agreement allowed stepped up

end Agreement

namespace AuthLink

/-- Whenever the adapter is authorized, the node has granted it this address in the transaction in which the
adapter asked for it. The node never refuses to start an authentication. -/
theorem adapter_node_agree (p : Primitives) (isVs : Bool) (generation : UInt64) (actorRejected : Bool)
    (steps : List LinkStep) (link : AuthLink) (run : Runs.Run (step p) Allowed (new isVs generation actorRejected) steps link)
    (up : link.up = true) :
    (link.adapter.actor.data.state = .authorized → ∃ address txn addresses text,
      link.adapter.actor.addresses = [address] ∧ link.node.data.state = .authorized ∧ link.node.addresses = [address] ∧
      link.adapterSent.getLast? = some (.acquireZprAddress txn addresses text) ∧
      link.nodeSent.getLast? = some (.grantZprAddress txn .success [address])) ∧
    ∀ txn rest context, link.atNode = .startAuthentication txn :: rest →
      (link.node.handle p (link.context context) (.startAuthentication txn)).1.isOk = true := by
  have agreement := Agreement.of_run run up
  obtain ⟨stage, inStage, _, phase⟩ := agreement.phase
  refine ⟨?_, ?_⟩
  · intro authorized
    cases stage with
    | resting | authenticating txn offer => exact absurd authorized inStage.2
    | requesting txn offer | acquiring txn grant => cases inStage.state.symm.trans authorized
    | abandoning txn outcome => exact absurd authorized inStage.2.1
    | authorized address =>
      generalize link.adapterSent = adapterSent at phase ⊢
      generalize link.nodeSent = nodeSent at phase ⊢
      generalize link.atNode ++ link.toNode = toNode at phase
      generalize link.atAdapter ++ link.toAdapter = toAdapter at phase
      cases phase with
      | authorized answered quiet =>
        cases answered with
        | success state addresses =>
          exact ⟨address, _, _, _, inStage.2, state, addresses, getLast?_concat, getLast?_concat⟩
  · intro txn rest context arrived
    rw [arrived] at phase
    have ready : (link.context context).ready = true := up
    obtain ⟨effects, later, handled, _⟩ := Phase.handleNode (p := p) phase agreement.nodeLink ready
    rw [handled]
    rfl

/-- The evidence that answers the challenge of `Context.plain 5 1`. -/
def plainEvidence : String :=
  Primitives.plain.encodeBase64
    (ZdpInitAuthenticationPayload.new .plain (Vector.replicate 32 0) (Vector.replicate 8 1) 5).asBytes

/-- An adapter abandons an attempt, tries again and is authorized. -/
theorem adapter_node_agree_sample : ∃ link : AuthLink,
    Runs.Run (step .plain) Allowed (new false 0 false)
      [.poll (.opened 1), .arriveNode 0, .handleNode (.plain 5 1), .arriveAdapter 0, .handleAdapter (.plain 5 1),
        .poll (.sent true), .poll (.replied none), .poll (.authenticated ⟨true, false, [], 1000⟩ none (.error (.authError "busy"))),
        .arriveNode 0, .poll (.acked true), .poll .slept, .poll (.opened 1), .handleNode (.plain 5 1), .arriveNode 0,
        .handleNode (.plain 5 1), .arriveAdapter 0, .handleAdapter (.plain 5 1), .poll (.sent true), .poll (.replied none),
        .poll (.authenticated ⟨true, false, [], 1000⟩ none (.ok plainEvidence)), .arriveNode 0, .handleNode (.plain 5 1),
        .complete 0 (.ok (.v6 ⟨Vector.replicate 12 0xfd, Vector.replicate 4 1⟩)), .arriveAdapter 0,
        .handleAdapter (.plain 5 1), .poll (.sent true), .poll (.replied (some true))] link ∧
    ∃ address, link.adapter.actor.addresses = [address] ∧ link.node.addresses = [address] := by
  refine Runs.Run.exists_imp (fun link => link.up = true ∧ link.adapter.actor.data.state = .authorized) (by decide +kernel) ?_
  intro link run ⟨up, authorized⟩
  obtain ⟨address, _, _, _, here, _, there, _⟩ := (adapter_node_agree .plain _ _ _ _ link run up).1 authorized
  exact ⟨address, here, there⟩

/-- Neither side refuses what arrives. -/
theorem messages_accepted {p isVs generation actorRejected steps link} (context)
    (run : Runs.Run (step p) Allowed (new isVs generation actorRejected) steps link) (up : link.up = true) :
    (link.handleNode p context).up = true ∧ (link.handleAdapter p context).up = true := by
  have agreement := Agreement.of_run run up
  obtain ⟨stage, inStage, _, phase⟩ := agreement.phase
  rw [handleNode, handleAdapter]
  constructor
  · split
    · exact up
    next arrived =>
    rw [arrived] at phase
    have ready : (link.context context).ready = true := up
    obtain ⟨_, _, handled, _⟩ := phase.handleNode (p := p) agreement.nodeLink ready
    rw [handled]
    exact up
  · split
    · exact up
    next arrived =>
    rw [arrived] at phase
    obtain ⟨_, _, _, handled, _⟩ := phase.handleAdapter inStage agreement.adapterLink (link.context context)
    rw [handled]
    rfl

theorem messages_accepted_sample : ∃ link,
    Runs.Run (step .plain) Allowed (new false 0 false) [.poll (.opened 1), .arriveNode 0] link ∧
    (link.handleNode .plain (.plain 5 1)).up = true :=
  have run := Runs.Run.of_execWhere rfl
  ⟨_, run, (messages_accepted _ run rfl).1⟩

end AuthLink
end ZprCore.Auth
