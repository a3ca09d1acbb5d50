import ZprCore.Km.LinkState

/-! The timers of a link (`link_state.rs`). Setting the state, setting a timeout and canceling it tick
the logical clock once each. A timer task that was aborted may still run. -/

namespace ZprCore.Km

/-- The ticks of the clock are counted without wrapping, and a timer is known by the tick at which
it was armed. -/
structure LinkMachine where
  linkType : LinkType
  state : LinkState
  up : Bool
  ready : Bool
  ticks : Nat
  timeoutHandle : Option Nat
  /-- The timer tasks that have not run. -/
  tasks : Finset Nat
  echo : Bool
  shuttingDown : Bool

/-- Address assignments do not touch the machine. -/
inductive MachineEvent where
  | start
  | keyingDone (established : Bool)
  | receivedHelloRequest (isVs aaa : Bool) (request : CloseRequest)
  | receivedHelloResponse (success aaa vsBootstrap tunReady : Bool) (request : CloseRequest)
  | receivedKeepAliveResponse
  | receivedTerminateLink
  | receivedTerminateAck
  | receivedDisconnectAck
  | close (request : CloseRequest)
  | closeDone
  | error (request : CloseRequest)
  | timeout (clock : UInt64) (request : CloseRequest)
  | reset

namespace LinkMachine
variable (m : LinkMachine)

def logicalClock : UInt64 := .ofNat m.ticks

def cancelTimeout : LinkMachine := { m with timeoutHandle := none, ticks := m.ticks + 1 }

def setState (state : LinkState) : LinkMachine :=
  ({ m with state, ready := m.up ∧ state = .active } : LinkMachine).cancelTimeout

def setTimeout : LinkMachine :=
  let m := m.cancelTimeout
  { m with timeoutHandle := some m.ticks, tasks := insert m.ticks m.tasks }

def new (linkType : LinkType) : LinkMachine :=
  let m : LinkMachine := ⟨linkType, .inactive, false, false, 0, none, ∅, false, false⟩
  if linkType = .internal then ({ m with up := true } : LinkMachine).setState .active else m

def processStart : LinkMachine × Option LinkEffect :=
  if m.state ≠ .inactive then (m, none)
  else
    let m := ({ m with up := true } : LinkMachine).setState .keying
    match m.linkType with
    | .adapterToNode | .nodeToAdapter => (m, some .startKm)
    | .nodeToNode => (m.setState .error, none)
    | .internal => (m, none)

/-- An adapter waits for the answer to its Hello. -/
def processKeyingDone (established : Bool) : LinkMachine :=
  if m.state ≠ .keying ∨ ¬ established then m
  else
    let m := m.setState .helloing
    if m.linkType = .adapterToNode then m.setTimeout else m

def continueClose : LinkMachine := (m.setState .closing).setTimeout

def initiateClose (request : CloseRequest) (m : LinkMachine) : LinkMachine :=
  if m.linkType = .internal then m
  else
    let m := { m with shuttingDown := m.shuttingDown || request.shutdown }
    if m.linkType = .nodeToAdapter ∧ request.visaService then m.setState .disconnecting else m.continueClose

def runActive : LinkMachine := ({ m.setState .active with echo := false } : LinkMachine).setTimeout

def cleanUpLinkState : LinkMachine × Option LinkEffect :=
  (m, if m.state = .closing ∨ m.state = .resetting then some .dropLink else none)

def completeClose : LinkMachine × Option LinkEffect :=
  match m.state, m.linkType with
  | .closing, .nodeToAdapter | .resetting, _ => (m, some .dropPeer)
  | .closing, _ => (m.setState .inactive, if m.shuttingDown then some .dropPeer else none)
  | _, _ => (m, none)

def processHelloRequest (isVs aaa : Bool) (request : CloseRequest) (m : LinkMachine) : LinkMachine :=
  if m.linkType ≠ .nodeToAdapter ∨ m.state ≠ .helloing then m
  else if ¬ aaa ∧ ¬ isVs then m.initiateClose request
  else m.runActive

def processHelloResponse (success aaa vsBootstrap tunReady : Bool) (request : CloseRequest) (m : LinkMachine) : LinkMachine :=
  if ¬ success then m.initiateClose request
  else if m.linkType ≠ .adapterToNode ∨ m.state ≠ .helloing then m
  else if (¬ aaa ∧ ¬ vsBootstrap) ∨ ¬ tunReady then m
  else m.runActive

def processKeepAliveResponse : LinkMachine :=
  if m.state ≠ .active ∨ ¬ m.echo then m else ({ m with echo := false } : LinkMachine).setTimeout

/-- A link whose echo is outstanding has failed; one without sends an echo. -/
def processTimeout (clock : UInt64) (request : CloseRequest) (m : LinkMachine) : LinkMachine × Option LinkEffect :=
  if clock ≠ m.logicalClock then (m, none)
  else
    match m.linkType, m.state with
    | .adapterToNode, .helloing => ((m.setState .error).initiateClose request, none)
    | _, .active =>
      if m.echo then ((({ m with echo := false } : LinkMachine).setState .error).initiateClose request, none)
      else (({ m with echo := true } : LinkMachine).setTimeout, none)
    | _, .closing => m.cleanUpLinkState
    | _, _ => (m, none)

def processEvent : MachineEvent → LinkMachine × Option LinkEffect
  | .start => m.processStart
  | .keyingDone established => (m.processKeyingDone established, none)
  | .receivedHelloRequest isVs aaa request => (m.processHelloRequest isVs aaa request, none)
  | .receivedHelloResponse success aaa vsBootstrap tunReady request =>
    (m.processHelloResponse success aaa vsBootstrap tunReady request, none)
  | .receivedKeepAliveResponse => (m.processKeepAliveResponse, none)
  | .receivedTerminateLink => (m.setState .closing).cleanUpLinkState
  | .receivedTerminateAck => if m.state = .closing then m.cancelTimeout.cleanUpLinkState else (m, none)
  | .receivedDisconnectAck =>
    (if m.linkType = .nodeToAdapter ∧ m.state = .disconnecting then m.continueClose else m, none)
  | .close request | .error request => (m.initiateClose request, none)
  | .closeDone => m.completeClose
  | .timeout clock request => m.processTimeout clock request
  | .reset => (m.setState .resetting).cleanUpLinkState

end LinkMachine
end ZprCore.Km
