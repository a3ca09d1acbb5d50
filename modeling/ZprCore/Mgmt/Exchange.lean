import ZprCore.Mgmt.Handles

/-! A link as its two ends see it: the futures of one end, and the receiver of an honest peer
behind a network that may lose, duplicate, delay and reorder. The network remembers every
message ever sent. `processed` records the packets that the peer processed. -/

namespace ZprCore.Mgmt
open Zdpr

structure Exchange (Pkt : Type) where
  driver : Driver Pkt
  receiver : Receiver
  network : List (Message (Tagged Pkt))
  processed : List (Tagged Pkt)

inductive ExchangeStep (Pkt : Type) where
  | drive (step : DriverStep Pkt)
  | deliver (index : Nat) (queueFull : Bool)

namespace Exchange
variable {Pkt : Type} (e : Exchange Pkt)

def new (windowSize : Nat) : Except Panic (Exchange Pkt) := do
  return { driver := .new, receiver := ← Receiver.new windowSize, network := [], processed := [] }

def drive (step : DriverStep Pkt) : Except Panic (Exchange Pkt) := do
  let (messages, driver) ← e.driver.step step
  return { e with driver, network := e.network ++ messages }

def deliver (queueFull : Bool) : Message (Tagged Pkt) → Except Panic (Exchange Pkt)
  | .data seqNum packet => do
    let (disposition, receiver) ← e.receiver.dispatchPacket seqNum queueFull
    return { e with
      receiver
      network := e.network ++ disposition.reply seqNum
      processed := e.processed ++ if disposition.shouldProcess then [packet] else [] }
  | .cancel seqNum => do
    let (disposition, receiver) ← e.receiver.processCancel seqNum
    return { e with receiver, network := e.network ++ disposition.reply seqNum }
  | .ack seqNum => e.drive (.acknowledgement seqNum false)
  | .canceled seqNum => e.drive (.acknowledgement seqNum true)

def step : ExchangeStep Pkt → Except Panic (Exchange Pkt)
  | .drive step => e.drive step
  | .deliver index queueFull =>
    match e.network[index]? with
    | none => .ok e
    | some message => e.deliver queueFull message

/-- Answers come from the peer, and so does the window size, which is at most its own. -/
def Allowed : ExchangeStep Pkt → Prop
  | .drive (.acknowledgement _ _) => False
  | .drive (.windowSizeTlv windowSize) => windowSize.toNat ≤ e.receiver.windowSize
  | .drive (.sendMgmt _) | .drive .retry | .drive (.handle _ _) | .deliver _ _ => True

instance (e : Exchange Pkt) (step : ExchangeStep Pkt) : Decidable (e.Allowed step) := by
  unfold Allowed
  split <;> infer_instance

end Exchange
end ZprCore.Mgmt
