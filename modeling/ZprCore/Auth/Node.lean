import ZprCore.Auth.Actor
import ZprCore.Lib.Runs

/-! A node and its sessions with adapters. Messages arrive in any order, a task waits for the visa
service on its own and outlives its session, and a session can go down at any time. -/

namespace ZprCore.Auth
open Datapath (IpAddress)
open Node (TxnId)

inductive TaskStage where
  | asking | disconnecting | done
  deriving DecidableEq

def ActorAuthorization.Remainder.stage : ActorAuthorization.Remainder → TaskStage
  | .nothing => .done
  | .reportFinish => .disconnecting

/-- A task that asks the visa service. `epoch` and `authorized` are kept for the account only. -/
structure Task where
  session : Nat
  generation : UInt64
  txn : TxnId
  request : ConnectRequest
  stage : TaskStage
  epoch : Nat
  authorized : Option StdIpAddr

/-- For the account, `epoch` counts the generations without wrapping, and `holder` is the task that
brought the address. -/
structure Session where
  actor : ActorAuthorization
  authKey : AuthKey
  isVs : Bool
  epoch : Nat
  holder : Option Nat

/-- A disconnect notice to the visa service. It has the address only; the task is for the account. -/
structure Notice where
  authorization : Option Nat
  address : IpAddress

/-- The notices that end an authorization. -/
def noticesOf (notices : List Notice) (task : Nat) : List IpAddress :=
  (notices.filter (·.authorization = some task)).map (·.address)

/-- What happened in a session: messages that were not refused, and link-downs. -/
inductive SessionEvent where
  | handled (context : Context) (message : AuthMessage) (effects : List Effect)
  | wentDown
  deriving DecidableEq

/-- The latest event comes first. -/
structure AuthNode where
  sessions : List Session
  tasks : List Task
  sent : List (Nat × AuthMessage)
  notices : List Notice
  deferredVsConnect : Option (Nat × IpAddress × ConnectRequest)
  events : List (Nat × SessionEvent)

inductive NodeStep where
  | accept (authKey : AuthKey) (isVs : Bool)
  | receive (session : Nat) (context : Context) (message : AuthMessage)
  | complete (task : Nat) (result : Except VsApiError StdIpAddr)
  | resume (task : Nat)
  | linkDown (session : Nat)

namespace Effect

def message : Effect → Option AuthMessage
  | .send message => some message
  | _ => none

def task (session epoch : Nat) : Effect → Option Task
  | .authorizeConnect generation txn request => some ⟨session, generation, txn, request, .asking, epoch, none⟩
  | _ => none

def notice (authorization : Option Nat) : Effect → Option Notice
  | .actorDisconnect address => some ⟨authorization, address⟩
  | _ => none

def deferred : Effect → Option (IpAddress × ConnectRequest)
  | .deferVsConnect address request => some (address, request)
  | _ => none

/-- The effect of an attempt that has brought an address. -/
def installs : Effect → Bool
  | .send (.grantZprAddress _ .success _) => true
  | _ => false

/-- Evidence that is forwarded to the visa service, now or later. -/
def forwarded : Effect → Option ConnectRequest
  | .authorizeConnect _ _ request => some request
  | .deferVsConnect _ request => some request
  | _ => none

end Effect

namespace Session

def new (authKey : AuthKey) (isVs : Bool) : Session := ⟨.new .nodeToAdapter, authKey, isVs, 0, none⟩

variable (session : Session)

/-- The peer has the key, and the table of special peers tells about the visa service. -/
def context (context : Context) : Context :=
  { context with authKey := session.authKey, isVs := session.isVs }

def become (actor : ActorAuthorization) : Session :=
  { session with
    actor
    epoch := if actor.data.generation = session.actor.data.generation then session.epoch else session.epoch + 1 }

/-- The task holds the address if its attempt has brought one. -/
def hold (task : Nat) (effects : List Effect) : Session :=
  if effects.any (·.installs) then { session with holder := some task } else session

def release : Session := { session with holder := none }

end Session

namespace AuthNode

def new : AuthNode := ⟨[], [], [], [], none, []⟩

variable (node : AuthNode) (number : Nat)

def put (session : Session) : AuthNode :=
  { node with sessions := node.sessions.set number session }

def putTask (task : Task) : AuthNode :=
  { node with tasks := node.tasks.set number task }

/-- Carries out what a session asks for. -/
def perform (epoch : Nat) (authorization : Option Nat) (effects : List Effect) : AuthNode :=
  { node with
    tasks := node.tasks ++ effects.filterMap (·.task number epoch)
    sent := node.sent ++ effects.filterMap fun effect => effect.message.map (number, ·)
    notices := node.notices ++ effects.filterMap (·.notice authorization)
    deferredVsConnect := ((effects.filterMap (·.deferred)).getLast?.map (number, ·)).or node.deferredVsConnect }

def record (event : SessionEvent) : AuthNode :=
  { node with events := (number, event) :: node.events }

def linkDown (number : Nat) : AuthNode :=
  match node.sessions[number]? with
  | none => node
  | some session =>
    let (effects, actor) := session.actor.linkDown session.isVs
    ((node.put number (session.become actor).release).perform number session.epoch session.holder effects).record number
      .wentDown

/-- The visa service has answered a task. -/
def complete (result : Except VsApiError StdIpAddr) : AuthNode :=
  match node.tasks[number]? with
  | none => node
  | some task =>
    if task.stage ≠ .asking then node
    else
      match node.sessions[task.session]? with
      | none => node
      | some session =>
        let (effects, remainder, actor) := session.actor.authorizationResult task.generation task.txn result
        ((node.putTask number { task with stage := remainder.stage, authorized := result.toOption }).put task.session
          ((session.become actor).hold number effects)).perform task.session session.epoch (some number) effects

/-- The visa service has been told about an unusable address. -/
def resume : AuthNode :=
  match node.tasks[number]? with
  | none => node
  | some task =>
    if task.stage ≠ .disconnecting then node
    else
      match node.sessions[task.session]? with
      | none => node
      | some session =>
        let (effects, actor) := session.actor.reportFinish task.generation task.txn .retryable none
        ((node.putTask number { task with stage := .done }).put task.session (session.become actor)).perform task.session
          session.epoch (some number) effects

section
variable (p : Primitives)

/-- A refused message closes the link, which is a step of its own. -/
def receive (node : AuthNode) (number : Nat) (context : Context) (message : AuthMessage) : AuthNode :=
  match node.sessions[number]? with
  | none => node
  | some session =>
    let (result, actor) := session.actor.handle p (session.context context) message
    match result with
    | .error _ => node.put number (session.become actor)
    | .ok effects =>
      ((node.put number (session.become actor)).perform number (session.become actor).epoch none effects).record number
        (.handled (session.context context) message effects)

def act (node : AuthNode) : NodeStep → AuthNode
  | .accept authKey isVs => { node with sessions := node.sessions ++ [.new authKey isVs] }
  | .receive number context message => node.receive p number context message
  | .complete number result => node.complete number result
  | .resume number => node.resume number
  | .linkDown number => node.linkDown number

def step (node : AuthNode) (label : NodeStep) : Except Panic AuthNode := .ok (node.act p label)

end

end AuthNode
end ZprCore.Auth
