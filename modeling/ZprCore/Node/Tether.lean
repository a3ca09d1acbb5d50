import ZprCore.Node.System
import ZprCore.Datapath.Fastpath

/-! A node and the adapter at the end of one of its links (`mgmt/adapter.rs`,
`adapter_tables.rs`). The adapter gives the streams that egress from it ids of its own, and
the node learns them from its responses. Messages between the two may be delivered in any
order. Numbers of binds only record what an entry, a message or a route comes from. -/

namespace ZprCore.Node
open Datapath (FiveTuple Ip5TupleTc DltPep MicvKey)

def dockLookupTableSize : Nat := 2 ^ 20

/-- An entry of the dock lookup table, with the bind that created it. -/
structure DltEntry where
  pep : DltPep
  bind : Nat

/-- A message to the adapter. An unbind comes with the bind of the route that was unbound. -/
structure ToAdapter where
  message : Message
  bind : Option Nat

/-- A response of the adapter to a bind. -/
structure ToNode where
  txnId : TxnId
  response : NextHopResponse
  bind : Nat

/-- `routed` records the bind that a route was installed for; `removed` records, for each
unbind, the bind it was for and the bind of the entry that it removed. -/
structure Tethering where
  node : Assembly
  dlt : Table StreamId DltEntry
  toAdapter : List ToAdapter
  toNode : List ToNode
  binds : Nat
  routed : Table ForwardingEntry Nat
  removed : List (Option Nat × Option Nat)

/-- The slab offers a vacant slot of the dock lookup table to an insertion, or nothing if the
table is full. -/
inductive TetherEvent where
  | node (event : Event)
  | deliver (index : Nat) (vacant : Option StreamId)
  | respond (index : Nat) (vacant : Option StreamId)
  | clear

namespace Tethering

def start (node : Assembly) : Tethering := ⟨node, ∅, [], [], 0, ∅, []⟩

section
variable (micvKey : PublicKey → MicvKey)

/-- `micvKey` is derived from the secret shared with the owner of a public key. -/
def bindEgressStream (sys : Tethering) (txnId : TxnId) (tc : Ip5TupleTc) (peerKey : Option PublicKey)
    (vacant : Option StreamId) : Tethering :=
  let pep : DltPep := ⟨tc, peerKey.map micvKey⟩
  match vacant with
  | some tid =>
    { sys with
      dlt := sys.dlt.insert tid ⟨pep, sys.binds⟩
      toNode := sys.toNode ++ [⟨txnId, .success tid, sys.binds⟩]
      binds := sys.binds + 1 }
  | none =>
    { sys with
      toNode := sys.toNode ++ [⟨txnId, .other "DLT full", sys.binds⟩]
      binds := sys.binds + 1 }

def unbindStream (sys : Tethering) (streamId : StreamId) (bind : Option Nat) : Tethering :=
  { sys with
    dlt := sys.dlt.erase streamId
    removed := sys.removed ++ [(bind, (sys.dlt.get streamId).map DltEntry.bind)] }

/-- The adapter's handlers of messages about streams that egress from it. -/
def receive (sys : Tethering) (sent : ToAdapter) (vacant : Option StreamId) : Tethering :=
  match sent.message with
  | .bindEgressStreamRequest txnId tc peerKey => sys.bindEgressStream micvKey txnId tc peerKey vacant
  | .unbindEgressStreamRequest streamId => sys.unbindStream streamId sent.bind
  | .streamIdRequest .. | .streamIdSuccessResponse .. | .streamIdErrorResponse .. | .bindActorAddressSuccessResponse ..
  | .bindActorAddressErrorResponse .. => sys

end

/-- The bind of the route that an event unbinds. -/
def unbound (sys : Tethering) : Event → Option Nat
  | .unbindIndication link streamId => sys.routed.get (link, streamId)
  | _ => none

/-- Records the bind of the route that a response is going to install. -/
def route (sys : Tethering) (origin : Option (LinkId × TxnId)) (vacant : Option StreamId) (bind : Nat) :
    Table ForwardingEntry Nat :=
  match origin, vacant with
  | some (ingress, _), some key => sys.routed.insert (ingress, key) bind
  | _, _ => sys.routed

section
variable (findMatch : List (VisaId × FiveTuple) → FiveTuple → Option VisaId) (micvKey : PublicKey → MicvKey)
  (link : LinkId)

/-- The node has made a step; what it has sent to the link is on its way. -/
def observe (sys : Tethering) (node : Assembly) (bind : Option Nat) : Tethering :=
  let sent := (node.outbox.drop sys.node.outbox.length).filter fun sent => sent.1 == link
  { sys with node, toAdapter := sys.toAdapter ++ sent.map fun sent => ⟨sent.2, bind⟩ }

def step (sys : Tethering) : TetherEvent → Except Panic Tethering
  | .node event => do
    let node ← sys.node.step findMatch event
    return sys.observe link node (sys.unbound event)
  | .deliver index vacant =>
    match sys.toAdapter[index]? with
    | none => .ok sys
    | some sent => .ok ({ sys with toAdapter := sys.toAdapter.eraseIdx index }.receive micvKey sent vacant)
  | .respond index vacant =>
    match sys.toNode[index]? with
    | none => .ok sys
    | some reply => do
      let node ← sys.node.step findMatch (.nextHopResponse link reply.txnId reply.response vacant)
      return { sys.observe link node none with
        toNode := sys.toNode.eraseIdx index
        routed := sys.route (sys.node.originator link reply.txnId) vacant reply.bind }
  | .clear => .ok { sys with dlt := ∅ }

end

/-- What the slab of the dock lookup table may offer. -/
def Offers (sys : Tethering) : Option StreamId → Prop
  | some tid => 0 < tid ∧ tid ≤ dockLookupTableSize ∧ sys.dlt.get tid = none
  | none => dockLookupTableSize ≤ sys.dlt.entries.length

end Tethering

/-- The event is not for the adapter to cause, and does not give its link to another peer. -/
def Event.Apart (link : LinkId) : Event → Prop
  | .nextHopResponse other _ (.success _) _ => other ≠ link
  | .addPeer other _ => other ≠ link
  | _ => True

/-- Events that can occur while the adapter has its link. -/
def TetherEvent.Possible (link : LinkId) (sys : Tethering) : TetherEvent → Prop
  | .node event => event.Possible sys.node ∧ event.Apart link
  | .deliver _ vacant => sys.Offers vacant
  | .respond index vacant => ∀ reply ∈ sys.toNode[index]?,
    (Event.nextHopResponse link reply.txnId reply.response vacant).Possible sys.node
  | .clear => True

instance (link : LinkId) (event : Event) : Decidable (event.Apart link) := by
  unfold Event.Apart
  split <;> infer_instance

instance (sys : Tethering) (vacant : Option StreamId) : Decidable (sys.Offers vacant) :=
  match vacant with
  | some _ => inferInstanceAs (Decidable (_ ∧ _ ∧ _))
  | none => inferInstanceAs (Decidable (_ ≤ _))

instance (link : LinkId) (sys : Tethering) (event : TetherEvent) : Decidable (event.Possible link sys) := by
  induction event using TetherEvent.casesOn <;> dsimp only [TetherEvent.Possible] <;> infer_instance

end ZprCore.Node
