import ZprCore.Proofs.SenderTurns

/-! What the retry limit of a packet means for the display of the sender. -/

namespace ZprCore.Zdpr
open Runs Panic List
variable {Pkt : Type}

namespace UnackedState

/-- The packet was retransmitted no more often than its limit says. -/
def Within : UnackedState Pkt → Prop
  | .unacked _ _ (some limit) retryCount _ => retryCount ≤ limit
  | _ => True

theorem display_returns_iff (entry : UnackedState Pkt) : Panic.Returns entry.display ↔ entry.Within := by
  cases entry with
  | unacked _ _ limit =>
    cases limit with
    | none => exact iff_of_true (returns_ok _) trivial
    | some limit =>
      unfold display Within
      dsimp only
      split
      · next within => exact iff_of_true (returns_ok _) within
      · next gone => exact iff_of_false not_returns_error gone
  | cancelRequested _ forgotten => cases forgotten <;> exact iff_of_true (returns_ok _) trivial
  | acked | cancelAcked => exact iff_of_true (returns_ok _) trivial

theorem ageRetries_within {entry : UnackedState Pkt} (within : entry.Within) : entry.ageRetries.2.Within := by
  cases entry with
  | unacked _ _ limit count =>
    cases limit with
    | none => trivial
    | some limit =>
      simp only [ageRetries]
      split
      · trivial
      next below =>
      show (if count = 255 then 255 else count + 1) ≤ limit
      grind
  | cancelRequested | acked | cancelAcked => trivial

end UnackedState

namespace Sender
variable {s next : Sender Pkt} {call : SenderCall Pkt} {past} {answer : Answer Pkt}

/-- No packet was retransmitted more often than its limit says. -/
def Within (s : Sender Pkt) : Prop := ∀ entry ∈ s.unacked, entry.Within

/-- The call sets no limit that the packet has exceeded already. -/
def Modest (s : Sender Pkt) (call : SenderCall Pkt) : Prop :=
  ∀ sn limit index packet waker retryLimit retryCount forgotten, s.limits call = some (sn, limit) → s.Holds sn index →
    s.unacked[index]? = some (.unacked packet waker retryLimit retryCount forgotten) → retryCount ≤ limit

theorem display_returns_iff (s : Sender Pkt) : Panic.Returns s.display ↔ s.Within := by
  have each (entries : List (UnackedState Pkt)) :
      Panic.Returns (displayUnacked entries) ↔ ∀ entry ∈ entries, entry.Within := by
    induction entries with
    | nil => exact iff_of_true (returns_ok _) nofun
    | cons entry rest ih =>
      rw [forall_mem_cons, ← ih, ← entry.display_returns_iff]
      have later text := returns_bind_iff (x := displayUnacked rest)
        fun others => returns_ok (ε := Panic) (text ++ others)
      refine returns_bind.trans ⟨?_, ?_⟩
      · intro ⟨text, shown, rest⟩
        exact ⟨⟨text, shown⟩, (later text).mp rest⟩
      · intro ⟨⟨text, shown⟩, rest⟩
        exact ⟨text, shown, (later text).mpr rest⟩
  exact (returns_bind_iff fun _ => returns_ok _).trans (each s.unacked)

/-- A sender that can be displayed still can be after a call, unless the call sets too low a limit. -/
theorem Turns.within_iff (turns : Turns s call answer next) (within : s.Within) : next.Within ↔ s.Modest call := by
  constructor
  · intro after sn limit index packet waker retryLimit retryCount forgotten limits holds found
    rw [turns.limits_sent limits holds found] at after
    have limited := after _ (mem_of_getElem? (getElem?_set_self holds.1))
    exact (Std.le_min_iff.mp limited).1
  · intro modest new member
    obtain ⟨_, _, _, packet, limit, _, unacked⟩ | ⟨_, settles⟩ := turns.window
    · rw [unacked] at member
      obtain old | fresh := mem_append.mp member
      · exact within new old
      cases mem_singleton.mp fresh
      cases limit with
      | none => trivial
      | some limit => exact UInt8.zero_le
    · obtain ⟨index, found⟩ := mem_iff_getElem?.mp member
      obtain ⟨place, old, _, present, alters⟩ := settles.origin found
      have before := within old (mem_of_getElem? present)
      cases alters with
      | same => exact before
      | @limit sn limit limits holds =>
        cases old with
        | unacked packet waker retryLimit retryCount forgotten =>
          refine Std.le_min_iff.mpr ⟨modest _ _ _ _ _ _ _ _ limits holds present, ?_⟩
          cases retryLimit with
          | none => exact UInt8.le_iff_toNat_le.mpr (Nat.le_of_lt_succ retryCount.toNat_lt)
          | some => exact before
        | cancelRequested | acked | cancelAcked => trivial
      | poll | forget =>
        cases old with
        | unacked _ _ limit => cases limit <;> exact before
        | cancelRequested | acked | cancelAcked => trivial
      | cancel => cases old <;> trivial
      | age => exact UnackedState.ageRetries_within before
      | acked => trivial
      | @canceled _ _ forgotten => cases forgotten <;> trivial

/-- A sender can be displayed at all times if and only if no limit is ever set that its packet has exceeded already. -/
theorem displays_iff (lives : Lives past s) :
    (∀ state ∈ s :: past.map Prod.fst, state.Within ∧ Panic.Returns state.display) ↔
      ∀ moment ∈ past, moment.1.Modest moment.2 := by
  induction lives with
  | nil => exact iff_of_true (by simp [Within, Sender.new, display_returns_iff]) (by simp)
  | @snoc past state next call before enabled stepped ih =>
    have turns := step_turns stepped
    rw [forall_mem_cons, map_cons, forall_mem_cons (l := past), ← ih]
    constructor
    · rintro ⟨⟨after, _⟩, earlier⟩
      exact ⟨(turns.within_iff (earlier _ mem_cons_self).1).mp after, earlier⟩
    rintro ⟨modest, earlier⟩
    have after := (turns.within_iff (earlier _ mem_cons_self).1).mpr modest
    exact ⟨⟨after, next.display_returns_iff.mpr after⟩, earlier⟩

/-- A packet is sent, retransmitted twice and then limited. -/
def sampleLimited (limit : UInt8) : List (SenderCall Nat) :=
  [.op (.enqueuePacket 7), .op (.ageRetries 1), .op (.ageRetries 1), .op (.limitRetriesBySeqNum 0 limit)]

theorem displays_iff_sample : ∃ past final, Lives past final ∧
    past.map Prod.snd = (sampleLimited 3).reverse ∧
    ((∀ state ∈ final :: past.map Prod.fst, state.Within ∧ Panic.Returns state.display) ↔
      ∀ moment ∈ past, moment.1.Modest moment.2) :=
  Trace.exists_imp (fun _ _ => True) (by decide +kernel) fun _ _ lives _ => displays_iff lives

/-- Limited to a single retry, the packet can no longer be displayed. -/
theorem display_overflows : ∃ past final, Lives past final ∧
    past.map Prod.snd = (sampleLimited 1).reverse ∧
    final.unacked = [.unacked 7 .noop (some 1) 2 false] ∧ Panic.reason final.display = some .overflow :=
  Trace.exists_of_record (by decide +kernel)

end Sender

end ZprCore.Zdpr
