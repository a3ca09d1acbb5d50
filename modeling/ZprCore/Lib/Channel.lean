import Mathlib

/-! Bounded queues between tasks, kept with their history: everything ever sent, and how
much of it was taken at the other end. -/

structure Channel (α : Type) where
  capacity : Nat
  sent : List α
  taken : Nat

namespace Channel
variable {α : Type} (channel : Channel α)

def new (capacity : Nat) : Channel α := ⟨capacity, [], 0⟩

/-- What was sent and not yet taken. -/
def pending : List α := channel.sent.drop channel.taken

def isFull : Bool := channel.pending.length ≥ channel.capacity

def trySend (item : α) : Option (Channel α) :=
  if channel.isFull then none else some { channel with sent := channel.sent ++ [item] }

def tryRecv : Option (α × Channel α) :=
  channel.pending.head?.map fun item => (item, { channel with taken := channel.taken + 1 })

theorem trySend_some {channel next : Channel α} {item : α} (enqueued : channel.trySend item = some next) :
    next.sent = channel.sent ++ [item] := by
  unfold trySend at enqueued
  split at enqueued
  · cases enqueued
  · cases enqueued
    rfl

theorem tryRecv_some {channel next : Channel α} {item : α} (received : channel.tryRecv = some (item, next)) :
    next.sent = channel.sent := by
  obtain ⟨_, _, same⟩ := Option.map_eq_some_iff.mp received
  cases same
  rfl

end Channel
