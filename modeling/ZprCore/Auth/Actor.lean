import ZprCore.Auth.Evidence
import ZprCore.Km.LinkState

/-! Authorization of the actor behind a link (`actor_auth.rs`): the state that both ends keep, what
a node does with the messages of an adapter, and how replies reach the adapter's worker. What a
function asks of the rest of the process, it returns as effects. -/

namespace ZprCore.Auth
open Datapath (IpAddress SocketAddr)
open Node (TxnId unspecified)
open Km (LinkType)

inductive ActorState where
  | waitingForLink | requestingAuthentication | awaitingEvidence | authenticating | acquiringAddress
  | authorizing | abandoningAuthentication | retryBackoff | rejected | authorized
  deriving DecidableEq

inductive AuthenticationStatus where
  | success | rejected | retryable
  deriving DecidableEq

def AuthenticationStatus.code : AuthenticationStatus → UInt8
  | .success => 0
  | .rejected => 1
  | .retryable => 2

/-- The codes with which the visa service refuses for good, and all others. -/
inductive ErrorCode where
  | authRequired | invalidSignature | authError | paramError | invalidOperation | notFound
  | other (code : UInt16)

inductive VsApiError where
  | connClosed
  | commandFailed (message : String)
  | authFailed (message : String)
  | ioError
  | codedError (code : ErrorCode)
  | capnp
  | capnpNotInSchema
  | stringConversion
  | dtError
  | tlsError (message : String)
  | timeout (message : String)
  | vsapiTypeError

def authorizationErrorStatus : VsApiError → AuthenticationStatus
  | .authFailed _ => .rejected
  | .codedError (.other _) => .retryable
  | .codedError _ => .rejected
  | _ => .retryable

structure AuthenticationOffer where
  status : AuthenticationStatus
  challenge : Option ZdpInitAuthenticationPayload
  asaAddresses : List SocketAddr
  deriving DecidableEq

inductive Reply where
  | offer (offer : AuthenticationOffer)
  | grant (status : AuthenticationStatus) (addresses : List IpAddress)

inductive HandleMgmtError where
  | unknownType (code : UInt8)
  | messageNotPermitted
  | badStructure
  | unknownTransaction
  | linkStateError
  | linkClosed

/-- The management messages of an authorization. -/
inductive AuthMessage where
  | startAuthentication (txn : TxnId)
  | initAuthentication (txn : TxnId) (offer : AuthenticationOffer)
  | acquireZprAddress (txn : TxnId) (addresses : Option (List IpAddress)) (blob : String)
  | grantZprAddress (txn : TxnId) (status : AuthenticationStatus) (addresses : List IpAddress)
  | abandonAuthentication (txn : TxnId)
  deriving DecidableEq

/-- Where the adapter's worker has come to in `run`: what it waits for. The receiving end of
`reply` is held by the worker, with the reply that has been put into it. -/
inductive Worker where
  | opening
  | startSent (txn : TxnId) (received : Option Reply)
  | awaitingOffer (txn : TxnId) (received : Option Reply)
  | authenticating (txn : TxnId) (offer : AuthenticationOffer)
  | acquireSent (txn : TxnId) (received : Option Reply)
  | awaitingGrant (txn : TxnId) (received : Option Reply)
  | abandoning (txn : TxnId) (outcome : AuthenticationStatus)
  | backoff
  | finished

namespace Worker

def isFinished : Worker → Bool
  | .finished => true
  | _ => false

/-- Puts a reply into the channel that the worker listens to, if there is one. -/
def receive (reply : Reply) : Worker → Option Worker
  | .startSent txn none => some (.startSent txn (some reply))
  | .awaitingOffer txn none => some (.awaitingOffer txn (some reply))
  | .acquireSent txn none => some (.acquireSent txn (some reply))
  | .awaitingGrant txn none => some (.awaitingGrant txn (some reply))
  | _ => none

end Worker

/-- `reply` tells whether the sending end of the worker's reply channel is there. -/
structure ActorData where
  state : ActorState
  generation : UInt64
  txn : Option TxnId
  remoteTxn : Option TxnId
  challenge : Option ZdpInitAuthenticationPayload
  reply : Bool
  worker : Option Worker
  installedAddress : Option IpAddress

structure ActorAuthorization where
  linkType : LinkType
  data : ActorData
  addresses : List IpAddress

/-- What is asked of the rest of a node. -/
inductive Effect where
  | send (message : AuthMessage)
  | authorizeConnect (generation : UInt64) (txn : TxnId) (request : ConnectRequest)
  | deferVsConnect (address : IpAddress) (request : ConnectRequest)
  | actorDisconnect (address : IpAddress)
  deriving DecidableEq

/-- What a handler finds around it: whether the link is ready, the peer's keys, whether the link leads to
the visa service, the time, random bytes and the authentication services that can be reached. -/
structure Context where
  ready : Bool
  authKey : AuthKey
  a2aDhPubkey : Option (List UInt8)
  isVs : Bool
  now : BitVec 64
  nonce : Vector UInt8 8
  asaAddresses : List SocketAddr
  deriving DecidableEq

/-- An address as the visa service returns it. -/
inductive StdIpAddr where
  | v4 (address : Vector UInt8 4)
  | v6 (address : IpAddress)
  deriving DecidableEq

namespace StdIpAddr

def toIpAddress : StdIpAddr → IpAddress
  | .v4 address => .newFromV4 address
  | .v6 address => address

/-- A node installs only an IPv6 address that is specified. -/
def isUsable : StdIpAddr → Bool
  | .v4 _ => false
  | .v6 address => address ≠ unspecified

end StdIpAddr

namespace ActorAuthorization

def new (linkType : LinkType) : ActorAuthorization where
  linkType
  data := {
    state := .waitingForLink
    generation := 0
    txn := none
    remoteTxn := none
    challenge := none
    reply := false
    worker := none
    installedAddress := none }
  addresses := []

variable (actor : ActorAuthorization) (generation : UInt64)

def requireNodeLink (ready : Bool) : Except HandleMgmtError Unit :=
  if actor.linkType ≠ .nodeToAdapter ∨ ¬ ready then .error .messageNotPermitted else .ok ()

/-- An attempt is over; an address is set only if there is one. -/
def finished (status : AuthenticationStatus) (address : Option IpAddress) : ActorAuthorization :=
  { actor with
    data := { actor.data with
      remoteTxn := none
      challenge := none
      state := if status = .success then .authorized else .waitingForLink }
    addresses := match address with
      | some address => [address]
      | none => actor.addresses }

def finishRemote (txn : TxnId) (status : AuthenticationStatus) (address : Option IpAddress) :
    Except HandleMgmtError (List Effect) × ActorAuthorization :=
  if actor.data.generation ≠ generation ∨ actor.data.remoteTxn ≠ some txn then (.error .unknownTransaction, actor)
  else (.ok [.send (.grantZprAddress txn status address.toList)], actor.finished status address)

section
variable (p : Primitives)

section
variable (actor : ActorAuthorization) (context : Context) (txn : TxnId)

/-- The offer carries the challenge that is kept for the evidence. -/
def startRemote :
    Except HandleMgmtError (List Effect) × ActorAuthorization :=
  match actor.requireNodeLink context.ready with
  | .error problem => (.error problem, actor)
  | .ok () =>
    if actor.data.remoteTxn.isSome ∨ actor.addresses ≠ [] then (.error .messageNotPermitted, actor)
    else
      let challenge := ZdpInitAuthenticationPayload.new p context.authKey context.nonce context.now
      (.ok [.send (.initAuthentication txn ⟨.success, some challenge, context.asaAddresses⟩)],
        { actor with
          data := { actor.data with
            generation := actor.data.generation + 1
            state := .awaitingEvidence
            remoteTxn := some txn
            challenge := some challenge } })

def abandonRemote :
    Except HandleMgmtError (List Effect) × ActorAuthorization :=
  match actor.requireNodeLink context.ready with
  | .error problem => (.error problem, actor)
  | .ok () =>
    if actor.data.state ≠ .awaitingEvidence ∨ actor.data.remoteTxn ≠ some txn then (.error .unknownTransaction, actor)
    else (.ok [], { actor with
      data := { actor.data with remoteTxn := none, challenge := none, state := .waitingForLink } })

end

/-- Evidence of an actor against the challenge it was given. -/
def challengeFails (context : Context) (challenge : ZdpInitAuthenticationPayload) : AuthBlob → Bool
  | .selfSigned blob =>
    blob.challenge ≠ p.encodeBase64 challenge.asBytes ∨
      blob.verifyBlobChallenge p context.authKey context.now ≠ .ok ()
  | .authCode _ => false

variable (actor : ActorAuthorization) (context : Context) (txn : TxnId)

/-- The evidence is checked and passed on. The visa service's own adapter is granted the address
it asks for and registered later. -/
def judgeEvidence (requested : IpAddress)
    (text : String) (challenge : ZdpInitAuthenticationPayload) : Except HandleMgmtError (List Effect) × ActorAuthorization :=
  let generation := actor.data.generation
  let rejection := actor.finishRemote generation txn .rejected none
  match decodeBlob p text with
  | .error _ => rejection
  | .ok blob =>
    if challengeFails p context challenge blob then rejection
    else
      match buildConnectRequest p requested context.a2aDhPubkey blob with
      | .error _ => rejection
      | .ok request =>
        if context.isVs then
          if requested = unspecified ∨ ¬ blob.isSelfSigned then rejection
          else
            let (result, actor) := actor.finishRemote generation txn .success (some requested)
            (result.map (.deferVsConnect requested request :: ·), actor)
        else (.ok [.authorizeConnect generation txn request], actor)

/-- The challenge is used up whatever becomes of the evidence. -/
def acquireRemote (addresses : Option (List IpAddress))
    (text : String) : Except HandleMgmtError (List Effect) × ActorAuthorization :=
  match actor.requireNodeLink context.ready with
  | .error problem => (.error problem, actor)
  | .ok () =>
    if addresses.any (·.length > 1) then (.error .badStructure, actor)
    else if actor.data.state ≠ .awaitingEvidence ∨ actor.data.remoteTxn ≠ some txn then (.error .unknownTransaction, actor)
    else
      let taken : ActorAuthorization := { actor with data := { actor.data with state := .authorizing, challenge := none } }
      match actor.data.challenge with
      | none => (.error .messageNotPermitted, taken)
      | some challenge =>
        taken.judgeEvidence p context txn ((addresses.bind (·.head?)).getD unspecified) text challenge

end

/-- What is left to do for a task of the node after it has told the visa service to forget an
unusable address. -/
inductive Remainder where
  | nothing
  | reportFinish

def isCurrent (txn : TxnId) : Bool :=
  actor.data.generation = generation ∧ actor.data.remoteTxn = some txn ∧ actor.data.state = .authorizing

/-- A failure is only reported. -/
def reportFinish (txn : TxnId) (status : AuthenticationStatus) (address : Option IpAddress) :
    List Effect × ActorAuthorization :=
  match actor.finishRemote generation txn status address with
  | (.ok effects, actor) => (effects, actor)
  | (.error _, actor) => ([], actor)

def authorizationResult (txn : TxnId) :
    Except VsApiError StdIpAddr → List Effect × Remainder × ActorAuthorization
  | .ok address =>
    if ¬ actor.isCurrent generation txn then ([.actorDisconnect address.toIpAddress], .nothing, actor)
    else if ¬ address.isUsable then ([.actorDisconnect address.toIpAddress], .reportFinish, actor)
    else
      match actor.finishRemote generation txn .success (some address.toIpAddress) with
      | (.ok effects, actor) => (effects, .nothing, actor)
      | (.error _, actor) => ([.actorDisconnect address.toIpAddress], .nothing, actor)
  | .error problem =>
    if actor.isCurrent generation txn then
      let (effects, actor) := actor.reportFinish generation txn (authorizationErrorStatus problem) none
      (effects, .nothing, actor)
    else ([], .nothing, actor)

/-- The worker is aborted, and a node tells the visa service about the addresses of the actor. -/
def linkDown (isVs : Bool) : List Effect × ActorAuthorization :=
  (if actor.linkType = .nodeToAdapter ∧ ¬ isVs then actor.addresses.map .actorDisconnect else [],
    { actor with
      data := { actor.data with
        generation := actor.data.generation + 1
        worker := none
        reply := false
        txn := none
        remoteTxn := none
        challenge := none
        state := .waitingForLink
        installedAddress := none }
      addresses := [] })

/-- The new worker has not run yet. -/
def linkReady (actorRejected : Bool) : ActorAuthorization :=
  if actor.linkType ≠ .adapterToNode ∨ actor.data.worker.any (!·.isFinished) then actor
  else
    let data := { actor.data with generation := actor.data.generation + 1 }
    if actorRejected then { actor with data := { data with state := .rejected } }
    else { actor with data := { data with worker := some .opening } }

def deliverReply (txn : TxnId) (state : ActorState) (reply : Reply) : Except HandleMgmtError Unit × ActorAuthorization :=
  if actor.linkType ≠ .adapterToNode ∨ actor.data.state ≠ state ∨ actor.data.txn ≠ some txn ∨ ¬ actor.data.reply then
    (.error .unknownTransaction, actor)
  else
    let actor := { actor with data := { actor.data with reply := false } }
    match actor.data.worker.bind (·.receive reply) with
    | some worker => (.ok (), { actor with data := { actor.data with worker := some worker } })
    | none => (.error .unknownTransaction, actor)

def receiveOffer (txn : TxnId) (offer : AuthenticationOffer) : Except HandleMgmtError Unit × ActorAuthorization :=
  actor.deliverReply txn .requestingAuthentication (.offer offer)

/-- A grant has one address if it is successful, and none otherwise. -/
def receiveGrant (txn : TxnId) (status : AuthenticationStatus) (addresses : List IpAddress) :
    Except HandleMgmtError Unit × ActorAuthorization :=
  if (status = .success ∧ addresses.length ≠ 1) ∨ (status ≠ .success ∧ addresses ≠ []) then (.error .badStructure, actor)
  else actor.deliverReply txn .acquiringAddress (.grant status addresses)

/-- The handler of each message. -/
def handle (p : Primitives) (actor : ActorAuthorization) (context : Context) :
    AuthMessage → Except HandleMgmtError (List Effect) × ActorAuthorization
  | .startAuthentication txn => actor.startRemote p context txn
  | .abandonAuthentication txn => actor.abandonRemote context txn
  | .acquireZprAddress txn addresses text => actor.acquireRemote p context txn addresses text
  | .initAuthentication txn offer =>
    let (result, actor) := actor.receiveOffer txn offer
    (result.map fun _ => [], actor)
  | .grantZprAddress txn status addresses =>
    let (result, actor) := actor.receiveGrant txn status addresses
    (result.map fun _ => [], actor)

end ActorAuthorization
end ZprCore.Auth
