import ZprCore.Proofs.SenderTurns

/-! The queue of the numbers that queued packets were sent with. It is cleaned when a packet is
answered, so it may hold the place of a canceled packet while it waits for none. -/

namespace ZprCore.Zdpr.Sender
open Panic Serial List Runs
variable {Pkt : Type} {s next : Sender Pkt} {sn : SeqNum} {call : SenderCall Pkt}

theorem Awaits.retains (awaits : s.Awaits sn) (retains : Retains s next) : next.Awaits sn := by
  obtain ⟨index, offset, entry, found, acked⟩ := awaits
  have changed := getElem?_eq_getElem (retains.length.symm ▸ lt_length found)
  refine ⟨index, ?_, _, changed, (retains.evolves index _ _ found changed).isAcked.trans acked⟩
  rw [retains.lastSent, retains.length, offset]

theorem Awaits.append (awaits : s.Awaits sn) (tidy : s.Tidy) {entry} (unacked : next.unacked = s.unacked ++ [entry])
    (lastSent : next.lastSent = s.lastSent + 1) : next.Awaits sn := by
  obtain ⟨index, offset, old, found, acked⟩ := awaits
  have small := tidy.unacked
  have inside := lt_length found
  refine ⟨index, ?_, old, by rw [unacked, getElem?_append_left inside, found], acked⟩
  rw [lastSent, distance_succ (by omega), unacked, length_append, length_singleton]
  omega

theorem Awaits.latest {entry} (unacked : next.unacked = s.unacked ++ [entry]) (waits : entry.isAcked = false) :
    next.Awaits next.lastSent := by
  refine ⟨s.unacked.length, ?_, entry, by rw [unacked, getElem?_concat_length], waits⟩
  rw [distance_self, unacked, length_append, length_singleton]
  omega

theorem Fronts.keeps {sent} (fronts : s.Fronts s.sent) (front : sent.head? = s.sent.head?)
    (keeps : ∀ sn, s.Awaits sn → next.Awaits sn) : next.Fronts sent := by
  rw [Fronts, front]
  exact fun entry first => (fronts entry first).imp fun sn found => ⟨found.1, keeps sn found.2⟩

theorem Fronts.cleanBlockedQueue (fronts : s.Fronts s.sent) (some : s.sent ≠ []) :
    s.cleanBlockedQueue.Fronts s.cleanBlockedQueue.sent := by
  obtain ⟨count, _, sent⟩ := cleanBlocked_split s.blocked s.sent
  show Fronts _ (cleanBlocked s.blocked s.sent).2
  rw [sent]
  exact fronts.keeps (head?_append_of_ne_nil _ some) fun _ => id

/-- No packet is canceled at the head of the blocked queue while the sent queue is empty. Room
for a window of 2^63 entries or more cannot be reserved. -/
def Orderly (s : Sender Pkt) : SenderCall Pkt → Prop
  | .op (.cancelQueuedPacket id) => s.sent = [] → ¬ s.Queues id 0
  | .op (.adjustWindowSize windowSize) => windowSize < 2 ^ 63
  | _ => True

theorem step_tidy (orderly : s.Orderly call) (tidy : s.Tidy) (stepped : s.step call = .ok next) : next.Tidy := by
  cases call with
  | op op =>
    obtain ⟨_, called, stepped⟩ := bind_ok.mp stepped
    obtain ⟨_, performed, called⟩ := bind_ok.mp called
    cases called
    cases stepped
    exact perform_tidy tidy (fun windowSize same => by subst same; exact orderly) performed
  | processAck sn | processCanceled sn =>
    have turns := step_turns stepped
    generalize s.answer _ = answer at turns
    cases turns with
    | same | count => exact ⟨tidy.windowSize, tidy.unacked, tidy.held, tidy.ordered⟩
    | limitSent limits | pollSent limits => cases limits
    | _ =>
      rename_i replaces
      exact (replaces.tidy tidy).1

theorem step_fronts (orderly : s.Orderly call) (tidy : s.Tidy) (fronts : s.Fronts s.sent) (stepped : s.step call = .ok next) :
    next.Fronts next.sent := by
  have turns := step_turns stepped
  generalize s.answer call = answer at turns
  cases turns with
  | same | count | adjust | queue | limitQueued | pollQueued => exact fronts
  | push => exact fronts.keeps rfl fun _ awaits => awaits.append tidy rfl rfl
  | next =>
    refine Fronts.cleanBlockedQueue ?_ (by simp)
    cases before : s.sent with
    | nil =>
      rintro _ ⟨⟩
      exact ⟨_, rfl, .latest rfl rfl⟩
    | cons first others => exact fronts.keeps (by rw [before]; rfl) fun _ awaits => awaits.append tidy rfl rfl
  | @cancelQueued _ index _ _ _ queues =>
    split
    · subst index
      exact Fronts.cleanBlockedQueue fronts fun empty => orderly empty queues
    · exact fronts
  | cancelSent _ found => exact fronts.keeps rfl fun _ awaits => awaits.retains (.set found (UnackedState.cancel_proceeds _).evolves)
  | limitSent _ _ found =>
    exact fronts.keeps rfl fun _ awaits => awaits.retains (.set found (UnackedState.limitRetries_proceeds _ _).evolves)
  | pollSent _ _ found =>
    exact fronts.keeps rfl fun _ awaits => awaits.retains (.set found (UnackedState.setWaker_proceeds _ _).evolves)
  | age => exact fronts.keeps rfl fun _ awaits => awaits.retains (.age s _)
  | forget replaces | acked replaces | canceled replaces => exact (replaces.tidy tidy).2

theorem sent_clean {calls} (run : Run step Orderly .new calls s) : s.Fronts s.sent :=
  (run.invariant (fun s => s.Tidy ∧ s.Fronts s.sent) (fun _ _ _ orderly ⟨tidy, fronts⟩ stepped =>
    ⟨step_tidy orderly tidy stepped, step_fronts orderly tidy fronts stepped⟩) ⟨.new, nofun⟩).2

theorem sent_clean_sample : ∃ s : Sender Nat,
    (Run step Orderly .new [.op (.enqueuePacket 0), .op (.enqueuePacket 1), .processAck 0, .op .enqueueNextBlockedPacket] s ∧
      s.sent = [some 1]) ∧ s.Fronts s.sent :=
  Exists.imp (fun _ held => ⟨held, sent_clean held.1⟩)
    ⟨_, .cons trivial rfl (.cons trivial rfl (.cons trivial rfl (.cons trivial rfl (.nil _)))), rfl⟩

/-- The only packet that was queued is canceled before it was sent. -/
theorem sent_unclean : ∃ s : Sender Nat, Run step (fun _ _ => True) .new
    [.op (.enqueuePacket 0), .op (.enqueuePacket 1), .op (.cancelQueuedPacket 0)] s ∧ s.sent = [none] :=
  ⟨_, .cons trivial rfl (.cons trivial rfl (.cons trivial rfl (.nil _))), rfl⟩

end ZprCore.Zdpr.Sender
