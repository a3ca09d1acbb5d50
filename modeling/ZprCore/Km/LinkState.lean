import ZprCore.Km.Association

/-! The state machine of a link (`link_state.rs`). What the rest of the process answers (is
this the link to the visa service, is there an address to assign) comes with the event. -/

namespace ZprCore.Km

inductive LinkState where
  | inactive | keying | helloing | disconnecting | closing | resetting | active | error
  deriving DecidableEq

inductive LinkType where
  | internal | adapterToNode | nodeToNode | nodeToAdapter
  deriving DecidableEq

/-- How a close is asked for: the link leads to the visa service and the node has a
connection to it, and whether the process is shutting down. -/
structure CloseRequest where
  visaService : Bool
  shutdown : Bool
  deriving DecidableEq

/-- Keep-alive responses and address assignments leave the state alone and are left out. -/
inductive LinkEvent where
  | start
  | keyingDone
  | receivedHelloRequest (isVs aaa : Bool) (request : CloseRequest)
  | receivedHelloResponse (success aaa vsBootstrap tunReady : Bool) (request : CloseRequest)
  | receivedTerminateLink
  | receivedTerminateAck
  | receivedDisconnectAck
  | close (request : CloseRequest)
  | closeDone
  | error (request : CloseRequest)
  | timeout (echoOutstanding : Bool) (request : CloseRequest)
  | reset
  deriving DecidableEq

/-- What an event asks of the rest of the process. -/
inductive LinkEffect where
  | startKm | dropLink | dropPeer

/-- A peer's link, as far as keying goes. The association remembers the key manager that
made it; `keyed` is the key manager started when the link last entered `Keying`. -/
structure LinkPeer (Transport Cert : Type) where
  linkType : LinkType
  state : LinkState
  shuttingDown : Bool
  transportSa : Option (Nat × KmTransportSA Transport Cert)
  handle : Option Nat
  keyed : Option Nat

namespace LinkPeer
variable {Transport Cert : Type} (peer : LinkPeer Transport Cert)

def new (linkType : LinkType) : LinkPeer Transport Cert where
  linkType
  state := if linkType = .internal then .active else .inactive
  shuttingDown := false
  transportSa := none
  handle := none
  keyed := none

/-- The link is keying before its key manager is started. -/
def processStart : LinkPeer Transport Cert × Option LinkEffect :=
  if peer.state ≠ .inactive then (peer, none)
  else
    let peer := { peer with state := .keying, keyed := none }
    match peer.linkType with
    | .adapterToNode | .nodeToAdapter => (peer, some .startKm)
    | .nodeToNode => ({ peer with state := .error }, none)
    | .internal => (peer, none)

def processKeyingDone : LinkPeer Transport Cert :=
  if peer.state ≠ .keying ∨ peer.transportSa.isNone then peer else { peer with state := .helloing }

def initiateClose (request : CloseRequest) (peer : LinkPeer Transport Cert) : LinkPeer Transport Cert :=
  if peer.linkType = .internal then peer
  else
    let peer := { peer with shuttingDown := peer.shuttingDown || request.shutdown }
    if peer.linkType = .nodeToAdapter ∧ request.visaService then { peer with state := .disconnecting }
    else { peer with state := .closing }

/-- Only a link that is closing or resetting is dropped. -/
def cleanUpLinkState : LinkPeer Transport Cert × Option LinkEffect :=
  (peer, if peer.state = .closing ∨ peer.state = .resetting then some .dropLink else none)

/-- An adapter starts its link again after a while, unless it is shutting down. -/
def completeClose : LinkPeer Transport Cert × Option LinkEffect :=
  match peer.state, peer.linkType with
  | .closing, .nodeToAdapter | .resetting, _ => (peer, some .dropPeer)
  | .closing, _ => ({ peer with state := .inactive }, if peer.shuttingDown then some .dropPeer else none)
  | _, _ => (peer, none)

def processHelloRequest (isVs aaa : Bool) (request : CloseRequest) (peer : LinkPeer Transport Cert) :
    LinkPeer Transport Cert :=
  if peer.linkType ≠ .nodeToAdapter ∨ peer.state ≠ .helloing then peer
  else if ¬ aaa ∧ ¬ isVs then peer.initiateClose request
  else { peer with state := .active }

def processHelloResponse (success aaa vsBootstrap tunReady : Bool) (request : CloseRequest)
    (peer : LinkPeer Transport Cert) : LinkPeer Transport Cert :=
  if ¬ success then peer.initiateClose request
  else if peer.linkType ≠ .adapterToNode ∨ peer.state ≠ .helloing then peer
  else if (¬ aaa ∧ ¬ vsBootstrap) ∨ ¬ tunReady then peer
  else { peer with state := .active }

def processTimeout (echoOutstanding : Bool) (request : CloseRequest) (peer : LinkPeer Transport Cert) :
    LinkPeer Transport Cert × Option LinkEffect :=
  match peer.linkType, peer.state with
  | .adapterToNode, .helloing => (({ peer with state := .error } : LinkPeer Transport Cert).initiateClose request, none)
  | _, .active =>
    if echoOutstanding then (({ peer with state := .error } : LinkPeer Transport Cert).initiateClose request, none)
    else (peer, none)
  | _, .closing => peer.cleanUpLinkState
  | _, _ => (peer, none)

def processEvent : LinkEvent → LinkPeer Transport Cert × Option LinkEffect
  | .start => peer.processStart
  | .keyingDone => (peer.processKeyingDone, none)
  | .receivedHelloRequest isVs aaa request => (peer.processHelloRequest isVs aaa request, none)
  | .receivedHelloResponse success aaa vsBootstrap tunReady request =>
    (peer.processHelloResponse success aaa vsBootstrap tunReady request, none)
  | .receivedTerminateLink => ({ peer with state := .closing } : LinkPeer Transport Cert).cleanUpLinkState
  | .receivedTerminateAck => if peer.state = .closing then peer.cleanUpLinkState else (peer, none)
  | .receivedDisconnectAck =>
    (if peer.linkType = .nodeToAdapter ∧ peer.state = .disconnecting then { peer with state := .closing } else peer, none)
  | .close request | .error request => (peer.initiateClose request, none)
  | .closeDone => peer.completeClose
  | .timeout echoOutstanding request => peer.processTimeout echoOutstanding request
  | .reset => ({ peer with state := .resetting } : LinkPeer Transport Cert).cleanUpLinkState

/-- A link until its peer is dropped. -/
def advance (peer : Option (LinkPeer Transport Cert)) (event : LinkEvent) :
    Except Panic (Option (LinkPeer Transport Cert)) :=
  match peer with
  | none => .ok none
  | some peer =>
    match peer.processEvent event with
    | (_, some .dropPeer) => .ok none
    | (peer, _) => .ok (some peer)

end LinkPeer
end ZprCore.Km
