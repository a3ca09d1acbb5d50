import ZprCore.Km.LinkState
import ZprCore.Km.Noise
import ZprCore.Lib.Table

/-! Key managers, the signals they send and the links they key (`km.rs`,
`km_multiplexor.rs`). Each key manager is a task of its own. One worker takes the signals
from their queue; a signal carries the link id of its key manager and nothing else of it.
Tasks that drop a link know only its link id. -/

namespace ZprCore.Km
open Datapath
variable {Transport Cert : Type}

inductive KmSignal (Transport Cert : Type) where
  | reset
  | error
  | saIdChange (old new : Nat)
  | saEstablished (sa : KmTransportSA Transport Cert)
  | termination

/-- A key manager at work: the state of its state machine and the signals it is about to send.
The `id` tells key managers apart; no signal carries it. -/
structure KeyManager (Transport Cert : Type) where
  id : Nat
  linkId : LinkId
  machine : KmSMState Transport Cert
  saId : Nat
  restartRequest : Bool
  errorSignaled : Bool
  cancelled : Bool
  pending : List (KmSignal Transport Cert)

namespace KeyManager

/-- The state machine is reset first, which is signaled. -/
def start (id : Nat) (linkId : LinkId) : KeyManager Transport Cert where
  id
  linkId
  machine := .configuring
  saId := 0
  restartRequest := false
  errorSignaled := false
  cancelled := false
  pending := [.reset]

def restart (km : KeyManager Transport Cert) : KeyManager Transport Cert :=
  match km.machine with
  | .error => { km with restartRequest := true }
  | .configuring | .transport _ => km

/-- After an error, what was noted about it is forgotten. -/
def leaveError (km : KeyManager Transport Cert) : KeyManager Transport Cert :=
  match km.machine with
  | .error => { km with errorSignaled := false, restartRequest := false }
  | .configuring | .transport _ => km

/-- The state machine changes its state. It leaves the error state only on request. -/
def handleStateTransition (next : KmSMState Transport Cert) (km : KeyManager Transport Cert) :
    KeyManager Transport Cert :=
  match km.machine, next with
  | .error, .configuring =>
    if km.restartRequest then { km.leaveError with machine := next, pending := [.reset] } else km
  | _, .transport ts =>
    let saId := km.saId + 1
    { km.leaveError with machine := next, saId
                         pending := [.saIdChange km.saId saId, .saEstablished { ts with saId }] }
  | .error, .error => km
  | _, .error =>
    if km.errorSignaled then { km with machine := next }
    else { km with machine := next, pending := [.error], errorSignaled := true }
  | _, .configuring => { km with machine := next }

end KeyManager

/-- Where a task that drops a link has come to. -/
inductive DropPhase where
  | clearSecurityAssociation
  | removeKmState
  | join (id : Nat)
  | closeDone

/-- The `producer` of a signal is the key manager that sent it. -/
structure KmLinkMsg (Transport Cert : Type) where
  linkId : LinkId
  producer : Nat
  msg : KmSignal Transport Cert

/-- The worker is between the two halves of `SaEstablished` while `keyingDone` holds a link. -/
structure Multiplexor (Transport Cert : Type) where
  peers : Table LinkId (LinkPeer Transport Cert)
  managers : List (KeyManager Transport Cert)
  signals : List (KmLinkMsg Transport Cert)
  keyingDone : Option LinkId
  drops : List (LinkId × DropPhase)
  started : Nat

/-- An index selects a key manager or a task that drops a link. -/
inductive MultiplexorEvent (Transport Cert : Type) where
  | insert (link : LinkId) (linkType : LinkType)
  | link (link : LinkId) (event : LinkEvent)
  | transition (index : Nat) (next : KmSMState Transport Cert)
  | send (index : Nat)
  | terminate (index : Nat)
  | fail (index : Nat)
  | restart (link : LinkId)
  | signal
  | keyingDone
  | drop (index : Nat)

namespace Multiplexor
variable (link : LinkId)

/-- A new key manager for a link, which takes the place of the one before. -/
def addNoiseLink (s : Multiplexor Transport Cert) : Multiplexor Transport Cert :=
  { s with
    peers := s.peers.modify link fun peer => { peer with handle := some s.started, keyed := some s.started }
    managers := s.managers ++ [.start s.started link]
    started := s.started + 1 }

def processLinkStateEvent (event : LinkEvent) (s : Multiplexor Transport Cert) : Multiplexor Transport Cert :=
  match s.peers.get link with
  | none => s
  | some peer =>
    let (peer, effect) := peer.processEvent event
    let s := { s with peers := s.peers.modify link fun _ => peer }
    match effect with
    | none => s
    | some .startKm => s.addNoiseLink link
    | some .dropLink => { s with drops := s.drops ++ [(link, .clearSecurityAssociation)] }
    | some .dropPeer => { s with peers := s.peers.erase link }

def clearSecurityAssociation (s : Multiplexor Transport Cert) : Multiplexor Transport Cert :=
  { s with peers := s.peers.modify link fun peer => { peer with transportSa := none } }

def setSecurityAssociation (producer : Nat) (sa : KmTransportSA Transport Cert) (s : Multiplexor Transport Cert) :
    Multiplexor Transport Cert :=
  { s with peers := s.peers.modify link fun peer => { peer with transportSa := some (producer, sa) } }

def cancel (id : Nat) (s : Multiplexor Transport Cert) : Multiplexor Transport Cert :=
  { s with managers := s.managers.map fun km => if km.id = id then { km with cancelled := true } else km }

/-- Takes the handle of a link's key manager and cancels it. The task then waits for it. -/
def removeKmState (s : Multiplexor Transport Cert) : DropPhase × Multiplexor Transport Cert :=
  let s := s.clearSecurityAssociation link
  match (s.peers.get link).bind (·.handle) with
  | none => (.closeDone, s)
  | some id =>
    let s := { s with peers := s.peers.modify link fun peer => { peer with handle := none } }
    (.join id, s.cancel id)

/-- One step of a task that drops a link; a task that waits stays where it is. -/
def dropLink (index : Nat) (s : Multiplexor Transport Cert) : Multiplexor Transport Cert :=
  match s.drops[index]? with
  | none => s
  | some (link, .clearSecurityAssociation) =>
    { s.clearSecurityAssociation link with drops := s.drops.set index (link, .removeKmState) }
  | some (link, .removeKmState) =>
    let (phase, next) := s.removeKmState link
    { next with drops := s.drops.set index (link, phase) }
  | some (link, .join id) =>
    if s.managers.any (·.id = id) then s else { s with drops := s.drops.set index (link, .closeDone) }
  | some (link, .closeDone) => { s with drops := s.drops.eraseIdx index }.processLinkStateEvent link .closeDone

variable (s : Multiplexor Transport Cert)

/-- The worker takes a signal. Signals other than `SaEstablished` only count errors. -/
def takeSignal : Multiplexor Transport Cert :=
  match s.keyingDone, s.signals with
  | some _, _ | none, [] => s
  | none, ⟨link, producer, .saEstablished sa⟩ :: signals =>
    { s with signals, keyingDone := some link }.setSecurityAssociation link producer sa
  | none, _ :: signals => { s with signals }

/-- Only a key manager without signals to send goes on. -/
def changeManager (index : Nat) (s : Multiplexor Transport Cert)
    (change : KeyManager Transport Cert → KeyManager Transport Cert) : Multiplexor Transport Cert :=
  { s with managers := s.managers.modify index fun km => if km.pending.isEmpty then change km else km }

def step : MultiplexorEvent Transport Cert → Except Panic (Multiplexor Transport Cert)
  | .insert link linkType => .ok { s with peers := s.peers.insert link (.new linkType) }
  | .link link event => .ok (s.processLinkStateEvent link event)
  | .transition index next => .ok (s.changeManager index (·.handleStateTransition next))
  | .send index =>
    match s.managers[index]? with
    | some km =>
      match km.pending with
      | [] => .ok s
      | msg :: pending =>
        .ok { s with
          managers := s.managers.set index { km with pending }
          signals := s.signals ++ [⟨km.linkId, km.id, msg⟩] }
    | none => .ok s
  | .terminate index =>
    match s.managers[index]? with
    | some km =>
      if km.cancelled ∧ km.pending.isEmpty then
        .ok { s with
          managers := s.managers.eraseIdx index
          signals := s.signals ++ [⟨km.linkId, km.id, .termination⟩] }
      else .ok s
    | none => .ok s
  | .fail index => .ok { s with managers := s.managers.eraseIdx index }
  | .restart link =>
    match (s.peers.get link).bind (·.handle) with
    | some id => .ok { s with managers := s.managers.map fun km => if km.id = id then km.restart else km }
    | none => .ok s
  | .signal => .ok s.takeSignal
  | .keyingDone =>
    match s.keyingDone with
    | some link => .ok ({ s with keyingDone := none }.processLinkStateEvent link .keyingDone)
    | none => .ok s
  | .drop index => .ok (s.dropLink index)

/-- The slab hands out vacant slots. -/
def Allowed : MultiplexorEvent Transport Cert → Prop
  | .insert link _ => s.peers.get link = none
  | _ => True

end Multiplexor
end ZprCore.Km
