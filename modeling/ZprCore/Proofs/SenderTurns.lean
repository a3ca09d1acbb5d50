import ZprCore.Proofs.SenderTotal

/-! What becomes of the entries of the window in one call. -/

namespace ZprCore.Zdpr
open Runs List
variable {Pkt : Type}

/-- The number a call gives to a packet, by the messages it answers with. -/
def SenderCall.assigns (call : SenderCall Pkt) (messages : List (Message Pkt)) : List (SeqNum × Pkt) :=
  match call with
  | .op (.enqueuePacket _) | .op .enqueueNextBlockedPacket => messages.filterMap fun
    | .data sn packet => some (sn, packet)
    | _ => none
  | _ => []

namespace Sender

def step (s : Sender Pkt) (call : SenderCall Pkt) : Except Panic (Sender Pkt) := do return (← s.call call).2

/-- The answer to a call that returns. -/
def answer (s : Sender Pkt) (call : SenderCall Pkt) : Answer Pkt :=
  match s.call call with
  | .ok (answer, _) => answer
  | .error _ => ⟨[], [], []⟩

/-- The calls made on a sender since it was created, the latest first. -/
abbrev Lives (past : List (Sender Pkt × SenderCall Pkt)) (s : Sender Pkt) : Prop := Trace step (fun _ _ => True) .new past s

variable {s next : Sender Pkt} {call : SenderCall Pkt} {answer : Answer Pkt}
  {outcome} {sn : SeqNum} {index : Nat}

theorem step_turns (stepped : s.step call = .ok next) : Turns s call (s.answer call) next := by
  obtain ⟨⟨answer, last⟩, called, stepped⟩ := Panic.bind_ok.mp stepped
  cases stepped
  rw [Sender.answer, called]
  exact call_turns called

/-- What a call may do to the entry of the window with the index. -/
inductive Alters (s : Sender Pkt) (call : SenderCall Pkt) (woken : List Waker) (index : Nat) (old : UnackedState Pkt) :
    UnackedState Pkt → Prop where
  | same : Alters s call woken index old old
  | limit {sn : SeqNum} {limit} (limits : s.limits call = some (sn, limit)) (holds : s.Holds sn index) :
      Alters s call woken index old (old.limitRetries limit)
  | poll {sn : SeqNum} {waker} (polls : s.polls call = some (sn, waker)) (holds : s.Holds sn index) :
      Alters s call woken index old (old.setWaker waker)
  | cancel {sn : SeqNum} (made : call = .op (.cancelSentPacket sn)) (holds : s.Holds sn index) :
      Alters s call woken index old old.cancel.2
  | age {visited} (made : call = .op (.ageRetries visited)) : Alters s call woken index old old.ageRetries.2
  | forget {sn : SeqNum} (made : call = .op (.forgetCanceledPacket sn)) (holds : s.Holds sn index) :
      Alters s call woken index old old.forget
  | acked {sn : SeqNum} {packet waker} (made : call = .processAck sn) (holds : s.Holds sn index)
      (processed : old.processAck = .ok (packet, waker)) (wakes : waker ∈ woken) : Alters s call woken index old .acked
  | canceled {sn : SeqNum} {waker forgotten} (made : call = .processCanceled sn) (holds : s.Holds sn index)
      (requested : old = .cancelRequested waker forgotten) (wakes : waker ∈ woken) :
      Alters s call woken index old (if forgotten then .acked else .cancelAcked)

theorem Replaces.alters {woken} (replaces : Replaces outcome sn s next)
    (alters : ∀ index old new, s.Holds sn index → outcome old new → Alters s call woken index old new) :
    Settles (Alters s call woken) s { next with windowSize := s.windowSize } := by
  obtain ⟨index, old, new, holds, found, changed, cleaned⟩ := replaces
  have settles := replace_settles cleaned (fun _ _ => .same) found (alters index old new holds changed)
  exact ⟨settles.lastSent, rfl, settles.moves⟩

theorem Replaces.frame (replaces : Replaces outcome sn s next) :
    next.windowSize = s.windowSize ∧ next.lastEnqueued = s.lastEnqueued := by
  obtain ⟨index, old, new, _, _, _, cleaned⟩ := replaces
  obtain ⟨sent, rfl⟩ := cleanSentQueue_ok cleaned
  split <;> exact ⟨rfl, rfl⟩

theorem assigns_nil (call : SenderCall Pkt) : call.assigns [] = [] := by
  unfold SenderCall.assigns
  split <;> rfl

theorem Misses.assigns (misses : s.Misses call) (messages : List (Message Pkt)) : call.assigns messages = [] := by
  unfold SenderCall.assigns
  split
  · exact misses.elim
  · exact misses.elim
  · rfl

/-- A call appends one entry to the window, or alters entries in place. -/
theorem Turns.window (turns : Turns s call answer next) :
    (next.lastSent = s.lastSent + 1 ∧ s.unacked.length < s.windowSize ∧ next.windowSize = s.windowSize ∧
      ∃ packet limit, call.assigns answer.messages = [(s.lastSent + 1, packet)] ∧
        next.unacked = s.unacked ++ [.unacked packet .noop limit 0 false]) ∨
      call.assigns answer.messages = [] ∧
        Settles (Alters s call answer.woken) s { next with windowSize := s.windowSize } := by
  have still {next : Sender Pkt} (lastSent : next.lastSent = s.lastSent) (unacked : next.unacked = s.unacked) :
      Settles (Alters s call answer.woken) s { next with windowSize := s.windowSize } :=
    ⟨lastSent, rfl, unacked ▸ .refl fun _ _ => .same⟩
  cases turns with
  | same misses | count misses => exact .inr ⟨misses.assigns _, still rfl rfl⟩
  | adjust | queue | limitQueued | pollQueued => exact .inr ⟨assigns_nil _, still rfl rfl⟩
  | push room | next room => exact .inl ⟨rfl, room, rfl, _, _, rfl, rfl⟩
  | cancelQueued =>
    refine .inr ⟨rfl, still ?_ ?_⟩ <;> split <;> rfl
  | cancelSent holds found => exact .inr ⟨rfl, rfl, rfl, .set (fun _ _ => .same) found (.cancel rfl holds)⟩
  | limitSent limits holds found =>
    exact .inr ⟨assigns_nil _, rfl, rfl, .set (fun _ _ => .same) found (.limit limits holds)⟩
  | pollSent polls holds found =>
    exact .inr ⟨assigns_nil _, rfl, rfl, .set (fun _ _ => .same) found (.poll polls holds)⟩
  | @age visited =>
    refine .inr ⟨rfl, rfl, rfl, _, [], rfl, nofun, (age_each s visited).1, ?_⟩
    intro index old new found same
    rw [(age_each s visited).2 index old new found same]
    split
    · exact .age rfl
    · exact .same
  | forget replaces =>
    refine .inr ⟨rfl, replaces.alters ?_⟩
    rintro index old _ holds rfl
    exact .forget rfl holds
  | acked replaces =>
    refine .inr ⟨rfl, replaces.alters ?_⟩
    rintro index old _ holds ⟨processed, rfl⟩
    exact .acked rfl holds processed mem_cons_self
  | canceled replaces =>
    refine .inr ⟨rfl, replaces.alters ?_⟩
    rintro index old _ holds ⟨forgotten, requested, rfl⟩
    exact .canceled rfl holds requested mem_cons_self

/-- Entries of the window were there before the call, if it appends none. -/
theorem Settles.origin {change} (settles : Settles change s next) {new}
    (found : next.unacked[index]? = some new) :
    ∃ place old, place + next.unacked.length = index + s.unacked.length ∧ s.unacked[place]? = some old ∧ change place old new := by
  obtain ⟨middle, front, split, _, size, each⟩ := settles.moves
  have inside := Panic.lt_length found
  have total : front.length + next.unacked.length = s.unacked.length := by rw [← size, split, length_append]
  have present : s.unacked[front.length + index]? = some _ := getElem?_eq_getElem (by omega)
  refine ⟨front.length + index, _, by omega, present, each _ _ _ present ?_⟩
  rw [split, getElem?_append_right (Nat.le_add_right _ _), Nat.add_sub_cancel_left, found]

theorem Queues.unsent {id} (queues : s.Queues id index) : s.sentAs id = none := by
  have := queues.2
  rw [sentAs, lookupSeqNum, Panic.check, decide_eq_false (by omega)]
  rfl

/-- A limit reaches the packet it is for. -/
theorem Turns.limits_sent {limit entry} (turns : Turns s call answer next) (limits : s.limits call = some (sn, limit))
    (holds : s.Holds sn index) (found : s.unacked[index]? = some entry) :
    next = { s with unacked := s.unacked.set index (entry.limitRetries limit) } := by
  cases turns with
  | limitSent limits' holds' found' =>
    cases limits.symm.trans limits'
    cases holds.unique holds'
    cases found.symm.trans found'
    rfl
  | same misses | count misses =>
    unfold Sender.limits at limits
    split at limits
    · cases limits
      exact (misses index holds).elim
    · obtain ⟨sn, known, same⟩ := Option.map_eq_some_iff.mp limits
      cases same
      exact (misses.2 sn known index holds).elim
    · cases limits
  | limitQueued queues =>
    rw [Sender.limits, queues.unsent] at limits
    cases limits
  | pollQueued polls =>
    obtain rfl | rfl := polls <;> cases limits
  | pollSent polls =>
    unfold Sender.limits at limits
    split at limits <;> first | cases polls | cases limits
  | _ => cases limits

end Sender
end ZprCore.Zdpr
