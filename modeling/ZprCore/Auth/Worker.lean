import ZprCore.Auth.Actor

/-! The adapter's worker (`ActorAuthorization::run`), one piece from each `await` to the next. -/

namespace ZprCore.Auth
open Datapath (IpAddress)
open Node (TxnId)

/-- `capacity` is what a message can hold. -/
structure AdapterConfig where
  bootstrap : Bool
  rsaoauth : Bool
  zprAddr : List StdIpAddr
  capacity : Nat

/-- Bytes. -/
def acquireZprAddressHeaderSize : Nat := 4

def validateAcquireZprAddressRequest (addresses : List StdIpAddr) (capacity : Nat) (blob : String) :
    Except AuthError Unit :=
  if addresses.length > 1 then .error (.rejected "only one actor address can be requested")
  else
    let addressLen := match addresses.head? with
      | some (.v4 _) => 4
      | some (.v6 _) => 16
      | none => 0
    let maxBlob := capacity - acquireZprAddressHeaderSize - addressLen
    if blob.utf8ByteSize = 0 ∨ blob.utf8ByteSize > maxBlob ∨ blob.utf8ByteSize > 65535 then
      .error (.formatError "actor authentication evidence does not fit an Acquire request")
    else .ok ()

section
variable (config : AdapterConfig) (offer : AuthenticationOffer) (aaa : Option IpAddress) (outcome : Except AuthError String)

/-- `outcome` is what the chosen method of authentication comes to. -/
def authenticate : Except AuthError String :=
  if config.bootstrap ∧ offer.challenge.isSome then outcome
  else if ¬ config.rsaoauth then .error (.rejected "no supported actor authentication method configured")
  else if offer.asaAddresses = [] then .error (.authError "no authentication service available")
  else if aaa.isNone then .error (.authError "external authentication requires AAA")
  else outcome

/-- Evidence that fits into a request. -/
def evidence : Except AuthError String := do
  let blob ← authenticate config offer aaa outcome
  validateAcquireZprAddressRequest config.zprAddr config.capacity blob
  return blob

end

def AuthError.isRejected : AuthError → Bool
  | .rejected _ => true
  | _ => false

/-- An adapter has one link to a node. -/
structure Adapter where
  actor : ActorAuthorization
  actorRejected : Bool

/-- What the worker has waited for. An address is installed as owned or as already there, or not at all. -/
inductive Awaited where
  | opened (txn : TxnId)
  | peerGone
  | sent (ok : Bool)
  | replied (install : Option Bool)
  | authenticated (config : AdapterConfig) (aaa : Option IpAddress) (outcome : Except AuthError String)
  | acked (ok : Bool)
  | slept

inductive AdapterEffect where
  | send (message : AuthMessage)
  | linkError
  deriving DecidableEq

namespace Adapter
variable (adapter : Adapter)

def setWorker (worker : Worker) : Adapter :=
  { adapter with actor := { adapter.actor with data := { adapter.actor.data with worker := some worker } } }

def setState (state : ActorState) : Adapter :=
  { adapter with actor := { adapter.actor with data := { adapter.actor.data with state } } }

/-- The worker gets the receiving end of a new channel. -/
def prepareReply (txn : TxnId) (state : ActorState) : Adapter :=
  { adapter with actor := { adapter.actor with
    data := { adapter.actor.data with state, txn := some txn, reply := true } } }

/-- An attempt is over without an address. -/
def settle (outcome : AuthenticationStatus) : Adapter :=
  let adapter := { adapter with actor := { adapter.actor with
    data := { adapter.actor.data with txn := none, reply := false } } }
  if outcome = .rejected then (({ adapter with actorRejected := true }).setState .rejected).setWorker .finished
  else (adapter.setState .retryBackoff).setWorker .backoff

/-- The link is closed if the address cannot be installed. -/
def installAddress (address : IpAddress) (install : Option Bool) : Adapter × List AdapterEffect :=
  let adapter := { adapter with actor := { adapter.actor with data := { adapter.actor.data with txn := none } } }
  match install with
  | none => (adapter, [.linkError])
  | some owned =>
    ({ adapter with actor := { adapter.actor with
      data := { adapter.actor.data with
        installedAddress := if owned then some address else none
        state := .authorized }
      addresses := [address] } }, [])

/-- The evidence is sent, or the attempt abandoned. An explicit denial is recorded at once. -/
def present (config : AdapterConfig) (txn : TxnId) :
    Except AuthError String → Adapter × List AdapterEffect
  | .ok blob =>
    let requested := config.zprAddr.map (·.toIpAddress)
    ((adapter.prepareReply txn .acquiringAddress).setWorker (.acquireSent txn none),
      [.send (.acquireZprAddress txn (if requested = [] then none else some requested) blob)])
  | .error problem =>
    let adapter := { adapter with actorRejected := adapter.actorRejected || problem.isRejected }
    ((adapter.setState .abandoningAuthentication).setWorker
      (.abandoning txn (if problem.isRejected then .rejected else .retryable)), [.send (.abandonAuthentication txn)])

def offered (txn : TxnId) : Option Reply → Adapter
  | some (.offer offer) =>
    if offer.status = .success then (adapter.setState .authenticating).setWorker (.authenticating txn offer)
    else adapter.settle offer.status
  | _ => adapter.setWorker .finished

def granted (install : Option Bool) :
    Option Reply → Except Panic (Adapter × List AdapterEffect)
  | some (.grant status addresses) =>
    if status = .success then do
      let address ← Panic.get addresses 0
      return (adapter.setWorker .finished).installAddress address install
    else return (adapter.settle status, [])
  | _ => return (adapter.setWorker .finished, [])

/-- A poll of the worker. It stays where it is if it has waited for something else. -/
def poll (awaited : Awaited) : Except Panic (Adapter × List AdapterEffect) :=
  match adapter.actor.data.worker, awaited with
  | some .opening, .opened txn =>
    return ((adapter.prepareReply txn .requestingAuthentication).setWorker (.startSent txn none),
      [.send (.startAuthentication txn)])
  | some .opening, .peerGone => return (adapter.setWorker .finished, [])
  | some (.startSent txn received), .sent ok =>
    return (adapter.setWorker (if ok then .awaitingOffer txn received else .finished), [])
  | some (.awaitingOffer txn received), .replied _ =>
    -- a channel without a sender is closed
    if received.isNone ∧ adapter.actor.data.reply then return (adapter, [])
    else return (adapter.offered txn received, [])
  | some (.authenticating txn offer), .authenticated config aaa outcome =>
    return adapter.present config txn (evidence config offer aaa outcome)
  | some (.acquireSent txn received), .sent ok =>
    return (adapter.setWorker (if ok then .awaitingGrant txn received else .finished), [])
  | some (.awaitingGrant _ received), .replied install =>
    if received.isNone ∧ adapter.actor.data.reply then return (adapter, [])
    else adapter.granted install received
  | some (.abandoning _ outcome), .acked ok =>
    if ok then return (adapter.settle outcome, []) else return (adapter.setWorker .finished, [])
  | some .backoff, .slept => return (adapter.setWorker .opening, [])
  | _, _ => return (adapter, [])

def linkReady : Adapter := { adapter with actor := adapter.actor.linkReady adapter.actorRejected }

def linkDown : Adapter := { adapter with actor := (adapter.actor.linkDown false).2 }

end Adapter

def Worker.received : Worker → Option Reply
  | .startSent _ received | .awaitingOffer _ received | .acquireSent _ received | .awaitingGrant _ received => received
  | _ => none

def Reply.status : Reply → AuthenticationStatus
  | .offer made => made.status
  | .grant status _ => status

def AuthMessage.isStart : AuthMessage → Bool
  | .startAuthentication _ => true
  | _ => false

/-- A node's denial. -/
def AuthMessage.denies : AuthMessage → Bool
  | .initAuthentication _ offer => offer.status = .rejected
  | .grantZprAddress _ status _ => status = .rejected
  | _ => false

namespace Adapter

/-- The worker has been handed a denial and has not looked at it yet. -/
def holdsDenial (adapter : Adapter) : Bool :=
  (adapter.actor.data.worker.bind (·.received)).any (·.status = .rejected)

/-- Local authentication comes to a denial. -/
def deniesItself (adapter : Adapter) (awaited : Awaited) : Bool :=
  match adapter.actor.data.worker, awaited with
  | some (.authenticating _ offer), .authenticated config aaa outcome =>
    match evidence config offer aaa outcome with
    | .error problem => problem.isRejected
    | .ok _ => false
  | _, _ => false

end Adapter

/-- The process of an adapter: what it has sent, and whether it has been denied. -/
structure AdapterProcess where
  adapter : Adapter
  sent : List AuthMessage
  denied : Bool

/-- A reset gives the process a new peer. -/
inductive AdapterStep where
  | linkReady
  | linkDown
  | reset
  | receive (context : Context) (message : AuthMessage)
  | poll (awaited : Awaited)

namespace AdapterProcess

def new : AdapterProcess := ⟨⟨.new .adapterToNode, false⟩, [], false⟩

def messages (effects : List AdapterEffect) : List AuthMessage :=
  effects.filterMap fun
    | .send message => some message
    | .linkError => none

/-- An error of the link takes it down. -/
def perform (process : AdapterProcess) (adapter : Adapter) (effects : List AdapterEffect) : AdapterProcess :=
  { process with
    adapter := if .linkError ∈ effects then adapter.linkDown else adapter
    sent := process.sent ++ messages effects }

def step (p : Primitives) (process : AdapterProcess) : AdapterStep → Except Panic AdapterProcess
  | .linkReady => .ok { process with adapter := process.adapter.linkReady }
  | .linkDown => .ok { process with adapter := process.adapter.linkDown }
  | .reset => .ok { process with adapter := { process.adapter with actor := .new .adapterToNode } }
  | .receive context message =>
    let (result, actor) := process.adapter.actor.handle p context message
    .ok { process with
      adapter := { process.adapter with actor }
      denied := process.denied || result.isOk && message.denies }
  | .poll awaited => do
    let (adapter, effects) ← process.adapter.poll awaited
    return { process with denied := process.denied || process.adapter.deniesItself awaited }.perform adapter effects

end AdapterProcess
end ZprCore.Auth
