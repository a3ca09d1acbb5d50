import ZprCore.Proofs.SenderTurns
import ZprCore.Proofs.ZdprItems

/-! The account of all the calls made on a sender. Every packet it was given is held, or was
handed back. Packets are sent in the order they were given in, under consecutive numbers, and
are repeated under the numbers they were sent with. -/

namespace ZprCore.Zdpr
open Runs List Option Nat Prod
variable {Pkt : Type}

/-- A cancellation was asked for and is not acknowledged yet. -/
def UnackedState.isCanceling : UnackedState Pkt → Bool
  | .cancelRequested .. => true
  | .unacked .. | .acked | .cancelAcked => false

namespace SenderCall

/-- The packet a call gives to the sender. -/
def given : SenderCall Pkt → List Pkt
  | .op (.enqueuePacket packet) => [packet]
  | _ => []

/-- The packet a call takes out of the queue, by what it hands back. -/
def unqueues (call : SenderCall Pkt) (back : List Pkt) : List Pkt :=
  match call with
  | .op (.cancelQueuedPacket _) => back
  | _ => []

def windowSize : SenderCall Pkt → Nat
  | .op (.adjustWindowSize windowSize) => windowSize
  | _ => 0

end SenderCall

namespace Sender

section
variable (past : List (Sender Pkt × SenderCall Pkt))

/-- The packets given to the sender, in that order. -/
def enqueued : List Pkt := past.reverse.flatMap fun (_, call) => call.given

def handedBack : List Pkt := past.reverse.flatMap fun (s, call) => (s.answer call).back

/-- The packets sent, with their numbers. -/
def assigned : List (SeqNum × Pkt) := past.reverse.flatMap fun (s, call) => call.assigns (s.answer call).messages

/-- The packets canceled while they were queued. -/
def canceledQueued : List Pkt := past.reverse.flatMap fun (s, call) => call.unqueues (s.answer call).back

/-- The largest window size so far. A new sender has a window of one packet. -/
def widest : Nat := past.foldr (fun (_, call) size => max call.windowSize size) 1

end

/-- The entries of the window with what was sent. -/
def window (past : List (Sender Pkt × SenderCall Pkt)) (s : Sender Pkt) : List ((SeqNum × Pkt) × UnackedState Pkt) :=
  ((assigned past).drop ((assigned past).length - s.unacked.length)).zip s.unacked

/-- The packets in the queue. -/
def waiting (s : Sender Pkt) : List Pkt := s.blocked.filterMap fun entry => entry.destruct.1

variable {s next : Sender Pkt} {call : SenderCall Pkt} {past} {answer : Answer Pkt}
  {outcome} {sent}

theorem unqueues_nil (call : SenderCall Pkt) : call.unqueues [] = [] := by
  unfold SenderCall.unqueues
  split <;> rfl

/-- A call that gives no packet leaves an entry with its packet. -/
theorem Misses.given (misses : s.Misses call) : call.given = [] := by
  unfold SenderCall.given
  split
  · exact misses.elim
  · rfl

theorem given_of_limits {number} (limits : s.limits call = some number) : call.given = [] := by
  unfold Sender.limits at limits
  split at limits
  · rfl
  · rfl
  · cases limits

theorem given_of_polls {number} (polls : s.polls call = some number) : call.given = [] := by
  unfold Sender.polls at polls
  split at polls
  · rfl
  · rfl
  · cases polls

section
variable {α β : Type} (f : α → Option β) {items : List α} {index : Nat} {old : α}

theorem filterMap_split (item : α) (rest : List α) : (item :: rest).filterMap f = (f item).toList ++ rest.filterMap f := by
  rw [filterMap_cons]
  cases f item <;> rfl

variable (found : items[index]? = some old)
include found

/-- Replacing an item exchanges what it contributes. -/
theorem filterMap_set (new : α) :
    ∃ front rest, items.filterMap f = front ++ ((f old).toList ++ rest) ∧
      (items.set index new).filterMap f = front ++ ((f new).toList ++ rest) := by
  obtain ⟨inside, rfl⟩ := List.getElem?_eq_some_iff.mp found
  obtain ⟨front, rest, split, _, set⟩ := @List.exists_of_set _ _ new _ inside
  refine ⟨front.filterMap f, rest.filterMap f, ?_, by rw [set, filterMap_append, filterMap_split]⟩
  nth_rewrite 1 [split]
  rw [filterMap_append, filterMap_split]

theorem filterMap_set_perm (new : α) :
    ((items.set index new).filterMap f ++ (f old).toList).Perm (items.filterMap f ++ (f new).toList) := by
  obtain ⟨front, rest, before, after⟩ := filterMap_set f found new
  classical
  simp only [perm_iff_count, before, after, count_append]
  omega

theorem filterMap_set_same {new} (same : f new = f old) : (items.set index new).filterMap f = items.filterMap f := by
  obtain ⟨front, rest, before, after⟩ := filterMap_set f found new
  rw [before, after, same]

end

/-- Canceled packets and acknowledged entries are not held. -/
theorem cleanBlocked_held (blocked : List (BlockedState Pkt)) (sent : List (Option SeqNum)) :
    (cleanBlocked blocked sent).1.filterMap (fun entry => entry.destruct.1) =
      blocked.filterMap fun entry => entry.destruct.1 := by
  fun_induction cleanBlocked blocked sent with
  | case1 rest sent ih => exact ih
  | case2 => rfl

theorem cleanUnacked_held (entries : List (UnackedState Pkt)) :
    (cleanUnacked entries).filterMap (fun entry => entry.destruct.1) = entries.filterMap fun entry => entry.destruct.1 := by
  fun_induction cleanUnacked entries with
  | case1 rest ih => exact ih
  | case2 => rfl

theorem waiting_clean (s : Sender Pkt) : s.cleanBlockedQueue.waiting = s.waiting := cleanBlocked_held s.blocked s.sent

/-- Packets leave the queue when they are sent, in the order they entered it, or when they are canceled. -/
theorem Turns.line (turns : Turns s call answer next) :
    ((call.assigns answer.messages).map snd ++ next.waiting).Sublist (s.waiting ++ call.given) ∧
      ((call.assigns answer.messages).map snd ++ next.waiting ++ call.unqueues answer.back).Perm
        (s.waiting ++ call.given) := by
  have still {call : SenderCall Pkt} {answer : Answer Pkt} {next : Sender Pkt} (assigns : call.assigns answer.messages = [])
      (unqueues : call.unqueues answer.back = []) (given : call.given = []) (waiting : next.waiting = s.waiting) :
      ((call.assigns answer.messages).map snd ++ next.waiting).Sublist (s.waiting ++ call.given) ∧
        ((call.assigns answer.messages).map snd ++ next.waiting ++ call.unqueues answer.back).Perm
          (s.waiting ++ call.given) := by
    rw [assigns, unqueues, waiting, given, append_nil, append_nil]
    exact ⟨.refl _, .refl _⟩
  cases turns with
  | same misses | count misses => exact still (misses.assigns _) (unqueues_nil _) misses.given rfl
  | adjust | age | cancelSent => exact still rfl rfl rfl rfl
  | limitSent limits => exact still (assigns_nil _) (unqueues_nil _) (given_of_limits limits) rfl
  | pollSent polls => exact still (assigns_nil _) (unqueues_nil _) (given_of_polls polls) rfl
  | forget replaces | acked replaces | canceled replaces =>
    exact still rfl rfl rfl (by rw [waiting, waiting, replaces.blocked])
  | @limitQueued id limit index entry queues found =>
    refine still rfl rfl rfl (filterMap_set_same _ found ?_)
    cases entry <;> rfl
  | pollQueued polls queues found =>
    obtain rfl | rfl := polls <;> exact still rfl rfl rfl (filterMap_set_same _ found rfl)
  | push room empty =>
    have none : s.waiting = [] := by rw [waiting, empty, filterMap_nil]
    rw [none]
    exact ⟨by rw [waiting, empty]; exact .refl _, by rw [waiting, empty]; exact .refl _⟩
  | queue =>
    rw [waiting, filterMap_append]
    exact ⟨.refl _, .of_eq (append_nil _)⟩
  | next room head =>
    rw [waiting_clean, waiting, waiting, head, filterMap_split]
    exact ⟨sublist_append_left _ _, .refl _⟩
  | @cancelQueued _ index packet _ _ queues found =>
    have same : (if index = 0 then (s.cancelAt index).cleanBlockedQueue
        else s.cancelAt index).waiting =
        (s.blocked.set index .canceled).filterMap fun entry => entry.destruct.1 := by
      split
      · exact waiting_clean _
      · rfl
    obtain ⟨front, rest, before, after⟩ := filterMap_set (fun entry => entry.destruct.1) found .canceled
    rw [same]
    refine ⟨?_, (filterMap_set_perm _ found .canceled).trans (.refl _)⟩
    rw [after, waiting, before]
    exact ((sublist_append_right [packet] rest).append_left front).trans (sublist_append_left _ _)

/-- The packets in the window. -/
def outstanding (s : Sender Pkt) : List Pkt := s.unacked.filterMap fun entry => entry.destruct.1

theorem Replaces.outstanding {sn} (replaces : Replaces outcome sn s next) :
    ∃ old new, outcome old new ∧ (next.outstanding ++ old.destruct.1.toList).Perm (s.outstanding ++ new.destruct.1.toList) := by
  obtain ⟨index, old, new, _, found, changed, cleaned⟩ := replaces
  obtain ⟨sent, rfl⟩ := cleanSentQueue_ok cleaned
  refine ⟨old, new, changed, .trans (.append_right _ (.of_eq ?_)) (filterMap_set_perm (fun entry => entry.destruct.1) found new)⟩
  split
  · exact cleanUnacked_held _
  · rfl

/-- A packet of an entry that is aged stays in it or is handed back. -/
theorem age_outstanding (entries : List (UnackedState Pkt)) :
    ((entries.map fun entry => entry.ageRetries.2).filterMap (fun entry => entry.destruct.1) ++
      entries.filterMap (fun entry => entry.ageRetries.1)).Perm (entries.filterMap fun entry => entry.destruct.1) := by
  induction entries with
  | nil => exact .refl _
  | cons entry rest ih =>
    have here : entry.ageRetries.2.destruct.1.toList ++ entry.ageRetries.1.toList = entry.destruct.1.toList := by
      cases entry with
      | unacked packet waker retryLimit retryCount forgotten =>
        cases retryLimit with
        | none => rfl
        | some limit =>
          simp only [UnackedState.ageRetries]
          split <;> rfl
      | cancelRequested | acked | cancelAcked => rfl
    rw [filterMap_split, filterMap_split, map_cons, filterMap_split, ← here, append_assoc, append_assoc]
    exact ((perm_append_comm_assoc _ _ _).trans (ih.append_left _)).append_left _

/-- A packet sent stays in the window until it is handed back. -/
theorem Turns.outstanding (turns : Turns s call answer next) :
    ∃ taken, answer.back = taken ++ call.unqueues answer.back ∧
      (next.outstanding ++ taken).Perm (s.outstanding ++ (call.assigns answer.messages).map snd) := by
  have still {call : SenderCall Pkt} {answer : Answer Pkt} {next : Sender Pkt} (back : answer.back = call.unqueues answer.back)
      (assigns : call.assigns answer.messages = []) (outstanding : next.outstanding = s.outstanding) :
      ∃ taken, answer.back = taken ++ call.unqueues answer.back ∧
        (next.outstanding ++ taken).Perm (s.outstanding ++ (call.assigns answer.messages).map snd) := by
    refine ⟨[], back, ?_⟩
    rw [assigns, outstanding]
    exact .refl _
  cases turns with
  | same misses => exact still (unqueues_nil _).symm (misses.assigns _) rfl
  | count | adjust | queue | limitQueued | pollQueued => exact still (unqueues_nil _).symm (assigns_nil _) rfl
  | push | next => exact ⟨[], rfl, .of_eq ((append_nil _).trans filterMap_append)⟩
  | cancelQueued => exact still rfl rfl (by split <;> rfl)
  | @cancelSent _ _ entry _ found =>
    have set := filterMap_set_perm (fun entry => entry.destruct.1) found entry.cancel.2
    refine ⟨entry.cancel.1.toList, (append_nil _).symm, ?_⟩
    cases entry <;> exact set
  | @limitSent _ limit _ _ entry _ _ found | @pollSent _ waker _ _ entry _ _ found =>
    refine still (unqueues_nil _).symm (assigns_nil _) (filterMap_set_same _ found ?_)
    cases entry <;> rfl
  | @age visited =>
    have aged := (age_outstanding (s.unacked.take visited)).append_right
      ((s.unacked.drop visited).filterMap fun entry => entry.destruct.1)
    rw [← filterMap_append, take_append_drop, append_assoc] at aged
    refine ⟨_, (append_nil _).symm, .trans ?_ (aged.trans (.of_eq (append_nil _).symm))⟩
    rw [outstanding, ageRetries, filterMap_append, append_assoc]
    exact perm_append_comm.append_left _
  | forget replaces =>
    obtain ⟨old, _, rfl, same⟩ := replaces.outstanding
    have kept : old.forget.destruct.1 = old.destruct.1 := by
      cases old with
      | unacked packet waker limit count forgotten => cases limit <;> rfl
      | acked | cancelAcked | cancelRequested => rfl
    rw [kept, perm_append_right_iff] at same
    exact ⟨[], rfl, same.append_right []⟩
  | acked replaces =>
    obtain ⟨old, _, ⟨processed, rfl⟩, same⟩ := replaces.outstanding
    refine ⟨_, (append_nil _).symm, ?_⟩
    cases old with
    | unacked | cancelRequested =>
      cases processed
      exact same
    | acked | cancelAcked => cases processed
  | canceled replaces =>
    obtain ⟨_, _, ⟨forgotten, rfl, rfl⟩, same⟩ := replaces.outstanding
    refine ⟨[], rfl, ?_⟩
    cases forgotten <;> exact same

theorem Lives.held (lives : Lives past s) : (handedBack past ++ s.destruct.1).Perm (enqueued past) := by
  refine lives.invariant (fun past s => (handedBack past ++ s.destruct.1).Perm (enqueued past)) ?_ (.refl _)
  intro past s call next _ held stepped
  have ⟨_, line⟩ := (step_turns stepped).line
  obtain ⟨taken, back, outstanding⟩ := (step_turns stepped).outstanding
  classical
  change (_ ++ (s.outstanding ++ s.waiting)).Perm _ at held
  change (_ ++ (next.outstanding ++ next.waiting)).Perm _
  simp only [handedBack, enqueued, List.reverse_cons, List.flatMap_append, List.flatMap_singleton, List.perm_iff_count,
    List.count_append] at held line outstanding ⊢
  intro packet
  have counted := congrArg (List.count packet) back
  rw [List.count_append] at counted
  have := held packet
  have := line packet
  have := outstanding packet
  omega

/-- Every packet given to a sender is handed back at most once, and exactly once in the end. -/
theorem packets_conserved (lives : Lives past s) :
    (handedBack past).Subperm (enqueued past) ∧ (handedBack past ++ s.destruct.1).Perm (enqueued past) :=
  ⟨(List.sublist_append_left _ _).subperm.trans lives.held.subperm, lives.held⟩

/-- Three packets for a window of one. -/
def sampleAccount : List (SenderCall Nat) :=
  [.op (.enqueuePacket 7), .op (.enqueuePacket 8), .op (.enqueuePacket 9), .op (.cancelQueuedPacket 0), .processAck 0,
    .op .enqueueNextBlockedPacket]

theorem packets_conserved_sample : ∃ past final, Lives past final ∧ past.map Prod.snd = sampleAccount.reverse ∧
    handedBack past = [8, 7] ∧ final.destruct.1 = [9] ∧
    (handedBack past).Subperm (enqueued past) ∧ (handedBack past ++ final.destruct.1).Perm (enqueued past) :=
  Trace.exists_imp (fun past final => handedBack past = [8, 7] ∧ final.destruct.1 = [9]) (by decide +kernel)
    fun _ _ lives ⟨back, kept⟩ => ⟨back, kept, packets_conserved lives⟩

theorem Lives.ordered (lives : Lives past s) :
    ((assigned past).map snd ++ s.waiting).Sublist (enqueued past) ∧
      ((assigned past).map snd ++ s.waiting ++ canceledQueued past).Perm (enqueued past) := by
  refine lives.invariant (fun past s => ((assigned past).map snd ++ s.waiting).Sublist (enqueued past) ∧
    ((assigned past).map snd ++ s.waiting ++ canceledQueued past).Perm (enqueued past)) ?_ ⟨.refl _, .refl _⟩
  intro past s call next _ ⟨ordered, whole⟩ stepped
  have ⟨line, left⟩ := (step_turns stepped).line
  simp only [assigned, enqueued, canceledQueued, reverse_cons, flatMap_append, flatMap_singleton, map_append,
    append_assoc] at ordered whole left line ⊢
  constructor
  · refine (line.append_left _).trans ?_
    rw [← append_assoc]
    exact ordered.append_right _
  classical
  simp only [perm_iff_count, count_append] at whole left ⊢
  intro packet
  have := whole packet
  have := left packet
  omega

/-- No call puts a packet in the place of another one. -/
theorem Alters.packet {woken index old new packet} (alters : Alters s call woken index old new)
    (held : new.destruct.1 = some packet) : old.destruct.1 = some packet := by
  cases alters with
  | same => exact held
  | limit | poll => cases old <;> exact held
  | cancel => cases old <;> cases held
  | age =>
    cases old with
    | unacked _ _ limit =>
      cases limit with
      | none => exact held
      | some =>
        simp only [UnackedState.ageRetries] at held
        split at held
        · cases held
        · exact held
    | cancelRequested | acked | cancelAcked => exact held
  | forget =>
    cases old with
    | unacked _ _ limit => cases limit <;> exact held
    | cancelRequested | acked | cancelAcked => exact held
  | acked => cases held
  | @canceled _ _ forgotten => cases forgotten <;> cases held

/-- The packets sent so far, by their numbers, and the window. -/
structure Numbers (sent : List (SeqNum × Pkt)) (s : Sender Pkt) : Prop where
  numbers : sent.map Prod.fst = (List.range sent.length).map (BitVec.ofNat 64)
  lastSent : s.lastSent = BitVec.ofInt 64 (sent.length - 1)
  window : s.unacked.length ≤ sent.length
  entries : ∀ (index : Nat) entry packet, s.unacked[index]? = some entry → entry.destruct.1 = some packet →
    (sent.map Prod.snd)[sent.length - s.unacked.length + index]? = some packet

theorem Turns.numbers (turns : Turns s call answer next) (numbers : Numbers sent s) :
    Numbers (sent ++ call.assigns answer.messages) next := by
  have window := numbers.window
  obtain ⟨lastSent, _, _, packet, limit, assigns, unacked⟩ | ⟨assigns, settles⟩ := turns.window
  · have number : s.lastSent + 1 = BitVec.ofInt 64 sent.length := by
      rw [numbers.lastSent, show (sent.length : Int) = sent.length - 1 + 1 by omega, BitVec.ofInt_add]
      simp
    rw [assigns]
    refine ⟨?_, ?_, ?_, ?_⟩
    · rw [map_append, numbers.numbers, number, length_append, length_singleton, range_succ, map_append,
        BitVec.ofInt_natCast]
      rfl
    · rw [lastSent, number, length_append, length_singleton]
      congr 1
      omega
    · rw [unacked, length_append, length_append]
      exact Nat.add_le_add_right window 1
    intro index entry given found held
    rw [unacked] at found ⊢
    rw [map_append, length_append, length_append, length_singleton, length_singleton,
      Nat.add_sub_add_right]
    by_cases inside : index < s.unacked.length
    · rw [getElem?_append_left inside] at found
      rw [getElem?_append_left (by rw [length_map]; omega)]
      exact numbers.entries index entry given found held
    have place : index = s.unacked.length := by
      have := Panic.lt_length found
      rw [length_append, length_singleton] at this
      omega
    subst place
    rw [getElem?_append_right (Nat.le_refl _), Nat.sub_self] at found
    cases found
    cases held
    rw [Nat.sub_add_cancel window, getElem?_append_right (by rw [length_map]), length_map, Nat.sub_self]
    rfl
  · have shorter := settles.shorter
    rw [assigns, append_nil]
    refine ⟨numbers.numbers, settles.lastSent.trans numbers.lastSent, Nat.le_trans shorter window, ?_⟩
    intro index new packet found held
    obtain ⟨place, old, moved, found', alters⟩ := settles.origin found
    have same := numbers.entries place old packet found' (alters.packet held)
    dsimp only at moved shorter
    rwa [show sent.length - s.unacked.length + place = sent.length - next.unacked.length + index by omega] at same

/-- What is reported of the window, by the numbers its entries were sent with. -/
theorem Numbers.report (numbers : Numbers sent s) {α : Type} {report}
    {expected : (SeqNum × Pkt) × UnackedState Pkt → Option α}
    (same : ∀ index entry packet, (∀ held, entry.destruct.1 = some held → held = packet) →
      report (entry, index) = expected ((s.seqNumAt index, packet), entry)) :
    s.unacked.zipIdx.filterMap report = ((sent.drop (sent.length - s.unacked.length)).zip s.unacked).filterMap expected := by
  have window := numbers.window
  have mapped : s.unacked.zipIdx.map report = ((sent.drop (sent.length - s.unacked.length)).zip s.unacked).map expected := by
    apply ext_getElem
    · simp only [length_map, length_zipIdx, length_zip, length_drop]
      omega
    intro index inside _
    simp only [length_map, length_zipIdx] at inside
    simp only [getElem_map, getElem_zipIdx, getElem_zip, getElem_drop, Nat.zero_add]
    have place : sent.length - s.unacked.length + index < sent.length := by omega
    have number : sent[sent.length - s.unacked.length + index].1 = s.seqNumAt index := by
      have numbered := congrArg (·[sent.length - s.unacked.length + index]?) numbers.numbers
      simp only [getElem?_map, getElem?_eq_getElem place, getElem?_range place, map_some,
        some.injEq] at numbered
      rw [numbered, seqNumAt_ofInt numbers.lastSent, ← BitVec.ofInt_natCast]
      congr 1
      omega
    rw [same index _ sent[sent.length - s.unacked.length + index].2, ← number]
    intro held packet
    have found := numbers.entries index _ held (getElem?_eq_getElem inside) packet
    rw [getElem?_map, getElem?_eq_getElem place] at found
    exact (some.inj found).symm
  have listed := congrArg (filterMap id) mapped
  rwa [filterMap_map, filterMap_map] at listed

theorem Turns.windowSize (turns : Turns s call answer next) : next.windowSize ≤ max call.windowSize s.windowSize := by
  cases turns with
  | adjust => exact le_trans (min_le_right _ _) (le_max_left _ _)
  | forget replaces | acked replaces | canceled replaces => exact replaces.frame.1 ▸ le_max_right _ _
  | cancelQueued => split <;> exact le_max_right _ _
  | _ => exact le_max_right _ _

theorem cleanUnacked_fronted (entries : List (UnackedState Pkt)) : (cleanUnacked entries).head? ≠ some .acked := by
  fun_induction cleanUnacked entries with
  | case1 rest ih => exact ih
  | case2 entries other =>
    intro acked
    obtain ⟨rest, same⟩ := head?_eq_some_iff.mp acked
    exact other rest same

theorem Replaces.fronted {sn} (replaces : Replaces outcome sn s next) (front : s.unacked.head? ≠ some .acked) :
    next.unacked.head? ≠ some .acked := by
  obtain ⟨index, old, new, _, found, _, cleaned⟩ := replaces
  obtain ⟨sent, rfl⟩ := cleanSentQueue_ok cleaned
  split
  · exact cleanUnacked_fronted _
  · next later => exact head_set front found fun first => absurd first later

/-- Acknowledged entries leave the front of the window at once. -/
theorem Turns.fronted (turns : Turns s call answer next) (front : s.unacked.head? ≠ some .acked) :
    next.unacked.head? ≠ some .acked := by
  cases turns with
  | same | count | adjust | queue | limitQueued | pollQueued => exact front
  | cancelQueued => split <;> exact front
  | push | next => exact head_append front nofun
  | cancelSent _ found | limitSent _ _ found | pollSent _ _ found =>
    refine head_set front found fun _ acked => ?_
    rename UnackedState Pkt => entry
    cases entry <;> cases acked
    rfl
  | @age visited =>
    rw [head?_eq_getElem?] at front ⊢
    intro acked
    obtain ⟨inside, _⟩ := List.getElem?_eq_some_iff.mp acked
    obtain ⟨entry, found⟩ : ∃ entry, s.unacked[0]? = some entry := ⟨_, getElem?_eq_getElem ((age_each s visited).1 ▸ inside)⟩
    have same := (age_each s visited).2 0 entry _ found acked
    refine front (found.trans (congrArg some ?_))
    split at same
    · exact (entry.ageRetries_proceeds.isAcked (same ▸ rfl)).trans same.symm
    · exact same.symm
  | forget replaces | acked replaces | canceled replaces => exact replaces.fronted front

/-- Packets are numbered in the order they were given to the sender. The window is no larger
than it was ever set, does not start with an acknowledged packet, and is reported under the
numbers assigned. -/
theorem numbers_in_order (lives : Lives past s) :
    (assigned past).map Prod.fst = (List.range (assigned past).length).map (BitVec.ofNat 64) ∧
      ((assigned past).map Prod.snd ++ s.waiting).Sublist (enqueued past) ∧
      ((assigned past).map Prod.snd ++ s.waiting ++ canceledQueued past).Perm (enqueued past) ∧
      s.unacked.length ≤ widest past ∧ s.unacked.head? ≠ some .acked ∧ s.unacked.length ≤ (assigned past).length ∧
      s.retryPackets = ((window past s).filterMap fun (sent, entry) => if entry.isOutstanding then some sent else none) ∧
      s.retryCancels = (window past s).filterMap fun (sent, entry) => if entry.isCanceling then some sent.1 else none := by
  have ⟨numbers, fits, sized, front⟩ : Numbers (assigned past) s ∧ s.unacked.length ≤ widest past ∧ s.windowSize ≤ widest past ∧
      s.unacked.head? ≠ some .acked := by
    refine lives.invariant (fun past s => Numbers (assigned past) s ∧ s.unacked.length ≤ widest past ∧
      s.windowSize ≤ widest past ∧ s.unacked.head? ≠ some .acked) ?_
      ⟨⟨rfl, rfl, Nat.le_refl _, nofun⟩, Nat.zero_le _, Nat.le_refl _, nofun⟩
    intro past s call next _ ⟨numbers, fits, sized, front⟩ stepped
    have turns := step_turns stepped
    have grown : widest past ≤ widest ((s, call) :: past) := Nat.le_max_right _ _
    refine ⟨?_, ?_, ?_, turns.fronted front⟩
    · simp only [assigned, reverse_cons, flatMap_append, flatMap_singleton] at numbers ⊢
      exact turns.numbers numbers
    · obtain ⟨_, room, _, packet, limit, _, unacked⟩ | ⟨_, settles⟩ := turns.window
      · rw [unacked, length_append, length_singleton]
        omega
      · exact Nat.le_trans settles.shorter (Nat.le_trans fits grown)
    · exact Nat.le_trans turns.windowSize (Nat.max_le.mpr ⟨Nat.le_max_left _ _, Nat.le_trans sized grown⟩)
  refine ⟨numbers.numbers, lives.ordered.1, lives.ordered.2, fits, front, numbers.window, numbers.report ?_, numbers.report ?_⟩
  · intro index entry packet held
    cases entry with
    | unacked given => rw [← held given rfl]; rfl
    | cancelRequested | acked | cancelAcked => rfl
  · intro index entry packet _
    cases entry <;> rfl

theorem numbers_in_order_sample : ∃ past final, Lives past final ∧ past.map Prod.snd = sampleAccount.reverse ∧
    assigned past = [(0, 7), (1, 9)] ∧ canceledQueued past = [8] ∧ final.unacked.length ≤ widest past ∧
    final.retryPackets = (window past final).filterMap fun (sent, entry) => if entry.isOutstanding then some sent else none := by
  refine Trace.exists_imp (fun past _ => assigned past = [(0, 7), (1, 9)] ∧ canceledQueued past = [8]) (by decide +kernel) ?_
  intro past final lives ⟨numbers, left⟩
  obtain ⟨_, _, _, fits, _, _, packets, _⟩ := numbers_in_order lives
  exact ⟨numbers, left, fits, packets⟩

end Sender
end ZprCore.Zdpr
