import ZprCore.Lib.Window
import ZprCore.Zdpr.Receiver

/-! The receiver a reliable session wants: it remembers for every sequence number,
as an unbounded integer, whether the packet was processed or canceled. Numbers
below the first count as canceled. -/

namespace ZprCore.Zdpr
open Window Serial

inductive Verdict where
  | processed | canceled
  deriving DecidableEq, Repr

abbrev Ledger := Log Verdict

namespace Ledger

def initial : Ledger where
  highest := -1
  verdict item := if item < 0 then some .canceled else none

def canceled (ledger : Ledger) (item : Int) : Bool := ledger.verdict item == some .canceled

def answer : Verdict → Disposition
  | .processed => .ackDoNotProcess
  | .canceled => .ackCancelDoNotProcess

open Classical in
/-- The specified answer to a data or cancel message for one item. -/
noncomputable def receive (size : Nat) (ledger : Ledger) (item : Int) (isCancel : Bool) : Disposition × Ledger :=
  if ledger.TooOld size item ∨ ledger.TooNew size item then (.ignore, ledger)
  else match ledger.verdict item with
    | some verdict => (answer verdict, ledger)
    | none =>
      if isCancel then (.ackCancelDoNotProcess, ledger.record item .canceled)
      else (.ackAndProcess, ledger.record item .processed)

/-- Messages with numbers as they are on the wire. -/
noncomputable def receiveAll (size : Nat) (ledger : Ledger) : List (SeqNum × Bool) → List Disposition × Ledger
  | [] => ([], ledger)
  | (sn, isCancel) :: rest =>
    let item := ledger.highest + distance sn (BitVec.ofInt 64 ledger.highest)
    let (disposition, next) := ledger.receive size item isCancel
    let (dispositions, last) := next.receiveAll size rest
    (disposition :: dispositions, last)

end Ledger

/-- The same receiver for the numbers on the wire, which are compared by their signed difference. -/
structure Memory where
  highest : SeqNum
  verdict : SeqNum → Option Verdict

namespace Memory

def initial : Memory where
  highest := -1
  verdict sn := if sn.toInt < 0 then some .canceled else none

noncomputable def oldestMissing (memory : Memory) : SeqNum :=
  BitVec.ofNat 64 (sInf { n : Nat | memory.verdict (BitVec.ofNat 64 n) = none })

def record (memory : Memory) (sn : SeqNum) (verdict : Verdict) : Memory where
  highest := if distance sn memory.highest > 0 then sn else memory.highest
  verdict := Function.update memory.verdict sn (some verdict)

noncomputable def receive (size : Nat) (memory : Memory) (sn : SeqNum) (isCancel : Bool) : Disposition × Memory :=
  if distance sn (memory.highest - BitVec.ofNat 64 size) ≤ 0 ∨
      0 ≤ distance sn (memory.oldestMissing + BitVec.ofNat 64 size) then (.ignore, memory)
  else match memory.verdict sn with
    | some verdict => (Ledger.answer verdict, memory)
    | none =>
      if isCancel then (.ackCancelDoNotProcess, memory.record sn .canceled)
      else (.ackAndProcess, memory.record sn .processed)

noncomputable def receiveAll (size : Nat) (memory : Memory) : List (SeqNum × Bool) → List Disposition × Memory
  | [] => ([], memory)
  | (sn, isCancel) :: rest =>
    let (disposition, next) := memory.receive size sn isCancel
    let (dispositions, last) := next.receiveAll size rest
    (disposition :: dispositions, last)

end Memory
end ZprCore.Zdpr
