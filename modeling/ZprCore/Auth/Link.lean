import ZprCore.Auth.Node
import ZprCore.Auth.Worker

/-! One session of an adapter and a node. Every message arrives once; messages in flight may overtake each
other, and each side handles what has arrived in order. -/

namespace ZprCore.Auth
open Datapath (IpAddress)
open Node (TxnId)

structure PendingTask where
  generation : UInt64
  txn : TxnId
  stage : TaskStage

/-- `toNode` and `toAdapter` are in flight, `atNode` and `atAdapter` have arrived. The session is over as soon
as it is down on one side. -/
structure AuthLink where
  isVs : Bool
  up : Bool
  adapter : Adapter
  node : ActorAuthorization
  tasks : List PendingTask
  toNode : List AuthMessage
  atNode : List AuthMessage
  toAdapter : List AuthMessage
  atAdapter : List AuthMessage
  adapterSent : List AuthMessage
  nodeSent : List AuthMessage

inductive LinkStep where
  | poll (awaited : Awaited)
  | arriveNode (index : Nat)
  | arriveAdapter (index : Nat)
  | handleNode (context : Context)
  | handleAdapter (context : Context)
  | complete (task : Nat) (result : Except VsApiError StdIpAddr)
  | resume (task : Nat)
  | down

/-- The worker waited for something that only fails with the link. -/
def Awaited.isFailure : Awaited → Bool
  | .peerGone | .sent false | .acked false => true
  | _ => false

/-- The transaction whose end the worker waits to see acknowledged. -/
def Worker.abandons : Worker → Option TxnId
  | .abandoning txn _ => some txn
  | _ => none

def Effect.pending : Effect → Option PendingTask
  | .authorizeConnect generation txn _ => some ⟨generation, txn, .asking⟩
  | _ => none

namespace AuthLink

/-- The adapter has seen earlier sessions; the node has a new peer. -/
def new (isVs : Bool) (generation : UInt64) (actorRejected : Bool) : AuthLink where
  isVs
  up := true
  adapter := Adapter.linkReady
    ⟨{ ActorAuthorization.new .adapterToNode with
      data := { (ActorAuthorization.new .adapterToNode).data with generation } }, actorRejected⟩
  node := .new .nodeToAdapter
  tasks := []
  toNode := []
  atNode := []
  toAdapter := []
  atAdapter := []
  adapterSent := []
  nodeSent := []

variable (link : AuthLink)

/-- Carries out what the node asks for. -/
def perform (effects : List Effect) : AuthLink :=
  { link with
    tasks := link.tasks ++ effects.filterMap (·.pending)
    toAdapter := link.toAdapter ++ effects.filterMap (·.message)
    nodeSent := link.nodeSent ++ effects.filterMap (·.message) }

def poll (awaited : Awaited) : Except Panic AuthLink := do
  let (adapter, effects) ← link.adapter.poll awaited
  return { link with
    adapter
    up := link.up && !awaited.isFailure && !decide (.linkError ∈ effects)
    toNode := link.toNode ++ AdapterProcess.messages effects
    adapterSent := link.adapterSent ++ AdapterProcess.messages effects }

def arriveNode (index : Nat) : AuthLink :=
  { link with
    toNode := link.toNode.eraseIdx index
    atNode := link.atNode ++ link.toNode[index]?.toList }

def arriveAdapter (index : Nat) : AuthLink :=
  { link with
    toAdapter := link.toAdapter.eraseIdx index
    atAdapter := link.atAdapter ++ link.toAdapter[index]?.toList }

/-- Both ends of a session that is up are ready. -/
def context (context : Context) : Context := { context with ready := link.up, isVs := link.isVs }

section
variable (p : Primitives)

/-- A refused message closes the link. -/
def handleNode (link : AuthLink) (context : Context) : AuthLink :=
  match link.atNode with
  | [] => link
  | message :: atNode =>
    let (result, node) := link.node.handle p (link.context context) message
    match result with
    | .error _ => { link with node, atNode, up := false }
    | .ok effects => { link with node, atNode }.perform effects

def handleAdapter (link : AuthLink) (context : Context) : AuthLink :=
  match link.atAdapter with
  | [] => link
  | message :: atAdapter =>
    let (result, actor) := link.adapter.actor.handle p (link.context context) message
    { link with adapter := { link.adapter with actor }, atAdapter, up := result.isOk }

end

def complete (number : Nat) (result : Except VsApiError StdIpAddr) : AuthLink :=
  match link.tasks[number]? with
  | none => link
  | some task =>
    if task.stage ≠ .asking then link
    else
      let (effects, remainder, node) := link.node.authorizationResult task.generation task.txn result
      { link with node, tasks := link.tasks.set number { task with stage := remainder.stage } }.perform effects

def resume (number : Nat) : AuthLink :=
  match link.tasks[number]? with
  | none => link
  | some task =>
    if task.stage ≠ .disconnecting then link
    else
      let (effects, node) := link.node.reportFinish task.generation task.txn .retryable none
      { link with node, tasks := link.tasks.set number { task with stage := .done } }.perform effects

/-- Nothing is said about a session that is over. -/
def step (p : Primitives) (link : AuthLink) (label : LinkStep) : Except Panic AuthLink :=
  if ¬ link.up then .ok link
  else match label with
    | .poll awaited => link.poll awaited
    | .arriveNode index => .ok (link.arriveNode index)
    | .arriveAdapter index => .ok (link.arriveAdapter index)
    | .handleNode context => .ok (link.handleNode p context)
    | .handleAdapter context => .ok (link.handleAdapter p context)
    | .complete number result => .ok (link.complete number result)
    | .resume number => .ok (link.resume number)
    | .down => .ok { link with up := false }

/-- An acknowledged message has arrived. -/
def Allowed : LinkStep → Prop
  | .poll (.acked true) => (link.adapter.actor.data.worker.bind (·.abandons)).all (.abandonAuthentication · ∉ link.toNode) = true
  | _ => True

instance (link : AuthLink) (label : LinkStep) : Decidable (link.Allowed label) := by
  unfold Allowed
  split <;> infer_instance

end AuthLink
end ZprCore.Auth
