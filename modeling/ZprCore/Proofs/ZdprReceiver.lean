import ZprCore.Zdpr.Session
import ZprCore.Zdpr.Spec

/-! The bitset receiver refines the ledger. A sequence number stands for the item
its signed distance from the highest accepted one designates. -/

namespace ZprCore.Zdpr
open Window Panic Serial Receiver Log

structure Covers (r : Receiver) (ledger : Ledger) : Prop where
  highest : r.highestSeen = BitVec.ofInt 64 ledger.highest
  recvd : Window.Tracks r.recvd ledger.highest ledger.decided
  canceled : Window.Tracks r.canceled ledger.highest ledger.canceled
  valid : ledger.Valid r.windowSize
  bounded : r.windowSize ≤ 64

/-- The bitsets have a bit more than the window. -/
structure Represents (r : Receiver) (ledger : Ledger) : Prop extends Covers r ledger where
  narrow : r.windowSize ≤ 63

namespace Receiver

theorem new_ok {windowSize r} (made : new windowSize = .ok r) :
    1 ≤ windowSize ∧ windowSize ≤ 64 ∧ r.windowSize = windowSize ∧ r.highestSeen = BitVec.allOnes 64 ∧
      r.recvd = BitVec.allOnes 64 ∧ r.canceled = BitVec.allOnes 64 := by
  unfold new at made
  obtain ⟨_, positive, made⟩ := bind_ok.mp made
  obtain ⟨_, bounded, made⟩ := bind_ok.mp made
  have positive := check_ok.mp positive
  have bounded := check_ok.mp bounded
  cases made
  simp only [decide_eq_true_eq] at positive bounded
  exact ⟨positive, bounded, rfl, rfl, rfl, rfl⟩

theorem oldestUnrecvdOffset_le (r : Receiver) : r.oldestUnrecvdOffset ≤ 1 := by
  have width := Bitset.leadingOnes_le r.recvd
  unfold oldestUnrecvdOffset
  omega

theorem shiftLeft_ok (bits : WindowBitset) {amount : Nat} (small : amount < 64) :
    shiftLeft bits amount = .ok (bits <<< amount) := by
  unfold shiftLeft
  rw [if_pos (by omega)]
  simp

/-- The one message that no bitset can be shifted by: it is ahead by all of its width. -/
def Overruns (r : Receiver) (sn : SeqNum) : Prop :=
  distance sn r.highestSeen = 64 ∧ 64 < r.oldestUnrecvdOffset + r.windowSize

instance (r : Receiver) (sn : SeqNum) : Decidable (r.Overruns sn) := inferInstanceAs (Decidable (_ ∧ _))

/-- A packet should be processed if it would be. -/
theorem shouldProcessPacket_eq {r next : Receiver} {sn disposition}
    (answered : r.processPacketOrCancel sn false = .ok (disposition, next)) :
    r.shouldProcessPacket sn = .ok disposition.shouldProcess := by
  unfold processPacketOrCancel at answered
  unfold shouldProcessPacket
  dsimp only at answered ⊢
  split at answered
  · next old =>
    cases answered
    rw [if_pos old]
    rfl
  next old =>
  rw [if_neg old]
  split at answered
  · next new =>
    cases answered
    rw [if_pos new]
    rfl
  next new =>
  rw [if_neg new]
  split at answered
  · next ahead =>
    obtain ⟨recvd, _, answered⟩ := bind_ok.mp answered
    obtain ⟨canceled, _, answered⟩ := bind_ok.mp answered
    cases answered
    rw [if_pos ahead]
    rfl
  next ahead =>
  obtain ⟨back, negated, answered⟩ := bind_ok.mp answered
  rw [if_neg ahead, negated, ok_bind]
  split at answered
  · next missing =>
    obtain ⟨bit, _, answered⟩ := bind_ok.mp answered
    cases answered
    rw [decide_eq_true missing]
    rfl
  · next known =>
    rw [decide_eq_false known]
    split at answered <;> cases answered <;> rfl

/-- At most one statistic is counted, and only a number ahead of the window is counted as such. -/
theorem processPacketOrCancel_stats {r next : Receiver} {sn isCancel disposition}
    (answered : r.processPacketOrCancel sn isCancel = .ok (disposition, next)) :
    next.stats = r.stats ∨ ∃ stat, next.stats = (r.count stat).stats ∧
      (stat = .tooNew → distance sn r.highestSeen ≥ r.oldestUnrecvdOffset + r.windowSize) := by
  unfold processPacketOrCancel at answered
  dsimp only at answered
  split at answered
  · cases answered
    exact .inr ⟨_, rfl, nofun⟩
  split at answered
  · next far =>
    cases answered
    exact .inr ⟨_, rfl, fun _ => far⟩
  split at answered
  · obtain ⟨recvd, _, answered⟩ := bind_ok.mp answered
    obtain ⟨canceled, _, answered⟩ := bind_ok.mp answered
    split at answered <;> cases answered <;> exact .inl rfl
  obtain ⟨back, _, answered⟩ := bind_ok.mp answered
  split at answered
  · obtain ⟨bit, _, answered⟩ := bind_ok.mp answered
    split at answered <;> cases answered <;> exact .inr ⟨_, rfl, nofun⟩
  · split at answered <;> cases answered <;> exact .inr ⟨_, rfl, nofun⟩

theorem processPacketOrCancel_tooNew {r next : Receiver} {sn : SeqNum} {isCancel : Bool} {disposition}
    (near : ¬ distance sn r.highestSeen ≥ r.oldestUnrecvdOffset + r.windowSize)
    (answered : r.processPacketOrCancel sn isCancel = .ok (disposition, next)) :
    next.stats .tooNew = r.stats .tooNew := by
  rcases processPacketOrCancel_stats answered with same | ⟨stat, counted, far⟩
  · rw [same]
  · rw [counted]
    exact if_neg fun here => near (far here.symm)

end Receiver

theorem Ledger.initial_below {item} (below : item < 0) : Ledger.initial.verdict item = some .canceled := by
  simp [Ledger.initial, below]

abbrev Ledger.itemOf (ledger : Ledger) (r : Receiver) (sn : SeqNum) : Int := ledger.highest + distance sn r.highestSeen

namespace Covers
variable {r : Receiver} {ledger : Ledger}

theorem new {windowSize} (made : new windowSize = .ok r) : Covers r Ledger.initial := by
  obtain ⟨_, _, size, top, recvd, canceled⟩ := new_ok made
  refine ⟨?_, ?_, ?_, ?_, by omega⟩
  · rw [top]
    decide
  · intro i inside
    rw [recvd, BitVec.getLsbD_allOnes, decided, Ledger.initial_below (by simp only [Ledger.initial]; omega)]
    simpa using inside
  · intro i inside
    rw [canceled, BitVec.getLsbD_allOnes, Ledger.canceled, Ledger.initial_below (by simp only [Ledger.initial]; omega)]
    simpa using inside
  constructor
  · intro item above
    simp only [Ledger.initial] at above ⊢
    rw [if_neg (by omega)]
  intro item below
  rw [decided, Ledger.initial_below (by simp only [Ledger.initial] at below; omega)]
  rfl

section
variable (covers : Covers r ledger)
include covers

theorem recount (stats : ReceiverStat → Nat) : Covers { r with stats } ledger :=
  ⟨covers.highest, covers.recvd, covers.canceled, covers.valid, covers.bounded⟩

theorem count (stat : ReceiverStat) : Covers (r.count stat) ledger := covers.recount _

theorem oldest :
    (∀ item, item < ledger.highest + r.oldestUnrecvdOffset → ledger.decided item) ∧
      ledger.decided (ledger.highest + r.oldestUnrecvdOffset) = false := by
  have bounded := covers.bounded
  have found := covers.recvd.gap
    (fun item old => covers.valid.below item (by push_cast at old; omega))
    (by simp [decided, covers.valid.above (ledger.highest + 1) (by omega)])
  have same : ledger.highest - (64 : Nat) + Bitset.leadingOnes r.recvd + 1 =
      ledger.highest + r.oldestUnrecvdOffset := by
    unfold oldestUnrecvdOffset
    omega
  rwa [same] at found

theorem tooNew_iff (offset : Int) :
    ledger.TooNew r.windowSize (ledger.highest + offset) ↔ offset ≥ r.oldestUnrecvdOffset + r.windowSize := by
  obtain ⟨before, missing⟩ := covers.oldest
  constructor
  · rintro ⟨older, far, undecided⟩
    by_contra near
    have known := before older (by omega)
    simp [decided, undecided] at known
  · intro far
    exact ⟨ledger.highest + r.oldestUnrecvdOffset, by omega, by simpa [decided] using missing⟩

omit covers in
theorem tooOld_iff (offset : Int) :
    ledger.TooOld r.windowSize (ledger.highest + offset) ↔ offset ≤ -(r.windowSize : Int) := by
  unfold Log.TooOld
  omega

theorem bits (back : Nat) (inside : back < r.windowSize) :
    r.recvd.getLsbD back = ledger.decided (ledger.highest - back) ∧
      r.canceled.getLsbD back = ledger.canceled (ledger.highest - back) := by
  have bounded := covers.bounded
  exact ⟨covers.recvd back (by omega), covers.canceled back (by omega)⟩

private theorem advance {n : Nat} (forward : 0 < n) (verdict : Verdict)
    (inside : ¬ ledger.TooNew r.windowSize (ledger.highest + n)) (canceled : WindowBitset)
    (marked : canceled = if verdict = .canceled then r.canceled <<< n ||| 1#64 else r.canceled <<< n) :
    Covers { r with highestSeen := r.highestSeen + BitVec.ofInt 64 n, recvd := r.recvd <<< n ||| 1#64, canceled }
      (ledger.record (ledger.highest + n) verdict) := by
  have top : (ledger.record (ledger.highest + n) verdict).highest = ledger.highest + n := by
    simp only [record]
    omega
  have older : ∀ item ≤ ledger.highest, (ledger.record (ledger.highest + n) verdict).verdict item =
      ledger.verdict item := fun item low => record_other _ _ (by omega)
  have skipped : ∀ item, ledger.highest < item → item < ledger.highest + n →
      (ledger.record (ledger.highest + n) verdict).verdict item = none := by
    intro item low high
    rw [record_other _ _ (by omega)]
    exact covers.valid.above item low
  refine ⟨?_, ?_, ?_, covers.valid.record verdict inside, covers.bounded⟩
  · rw [top, BitVec.ofInt_add, covers.highest]
  · rw [top]
    apply covers.recvd.slide forward
    · simp [decided, record_same]
    · intro item low high
      simp [decided, skipped item low high]
    · intro item low
      simp [decided, older item low]
  · rw [top, marked]
    cases verdict with
    | canceled =>
      apply covers.canceled.slide forward
      · simp [Ledger.canceled, record_same]
      · intro item low high
        simp [Ledger.canceled, skipped item low high]
      · intro item low
        simp [Ledger.canceled, older item low]
    | processed =>
      apply covers.canceled.shift
      · intro item low high
        by_cases newest : item = ledger.highest + n
        · subst newest
          simp [Ledger.canceled, record_same]
        · simp [Ledger.canceled, skipped item low (by omega)]
      · intro item low
        simp [Ledger.canceled, older item low]

private theorem fill {n : Nat} (verdict : Verdict) (missing : ledger.verdict (ledger.highest - n) = none)
    (inside : ¬ ledger.TooNew r.windowSize (ledger.highest - n)) (canceled : WindowBitset)
    (marked : canceled = if verdict = .canceled then r.canceled ||| 1#64 <<< n else r.canceled) :
    Covers { r with recvd := r.recvd ||| 1#64 <<< n, canceled }
      (ledger.record (ledger.highest - n) verdict) := by
  have top : (ledger.record (ledger.highest - n) verdict).highest = ledger.highest := by
    simp only [record]
    omega
  refine ⟨?_, ?_, ?_, covers.valid.record verdict inside, covers.bounded⟩
  · rw [top, covers.highest]
  · rw [top]
    apply covers.recvd.mark
    · simp [decided, record_same]
    · intro item other
      simp [decided, record_other _ _ other]
  · rw [top, marked]
    cases verdict with
    | canceled =>
      apply covers.canceled.mark
      · simp [Ledger.canceled, record_same]
      · intro item other
        simp [Ledger.canceled, record_other _ _ other]
    | processed =>
      apply covers.canceled.congr
      intro item
      by_cases here : item = ledger.highest - n
      · subst here
        simp [Ledger.canceled, record_same, missing]
      · simp [Ledger.canceled, record_other _ _ here]

/-- Every data or cancel message for which there is a bit is answered as the ledger answers it. -/
theorem processPacketOrCancel_refines {sn : SeqNum} (fits : ¬ r.Overruns sn) (isCancel : Bool) :
    ∃ next, r.processPacketOrCancel sn isCancel =
        .ok ((ledger.receive r.windowSize (ledger.itemOf r sn) isCancel).1, next) ∧
      Covers next (ledger.receive r.windowSize (ledger.itemOf r sn) isCancel).2 ∧
      next.windowSize = r.windowSize := by
  rw [Receiver.Overruns] at fits
  unfold Ledger.itemOf
  generalize found : distance sn r.highestSeen = offset at fits ⊢
  have bounded := covers.bounded
  have oldest := r.oldestUnrecvdOffset_le
  by_cases old : offset ≤ -(r.windowSize : Int)
  · refine ⟨r.count .tooOld, ?_, ?_, rfl⟩
    · simp [processPacketOrCancel, found, old, Ledger.receive, tooOld_iff, pure, Except.pure]
    · simpa [Ledger.receive, tooOld_iff, old] using covers.count .tooOld
  by_cases new : offset ≥ r.oldestUnrecvdOffset + r.windowSize
  · have far := (covers.tooNew_iff offset).mpr new
    refine ⟨r.count .tooNew, ?_, ?_, rfl⟩
    · simp only [processPacketOrCancel, found, old, new, Ledger.receive, far, or_true, if_true, if_false]
      rfl
    · simpa [Ledger.receive, far] using covers.count .tooNew
  have near := mt (covers.tooNew_iff offset).mp new
  have window : ¬ (ledger.TooOld r.windowSize (ledger.highest + offset) ∨
      ledger.TooNew r.windowSize (ledger.highest + offset)) := by
    simp only [tooOld_iff, old, near, or_self, not_false_iff]
  by_cases ahead : offset > 0
  · obtain ⟨n, rfl⟩ := Int.eq_ofNat_of_zero_le (by omega : 0 ≤ offset)
    have fresh := covers.valid.above (ledger.highest + n) (by omega)
    have small : n < 64 := by omega
    simp only [processPacketOrCancel, found, old, new, ahead, if_true, if_false, Ledger.receive, window,
      fresh, shiftLeft_ok _ small]
    cases isCancel with
    | false => exact ⟨_, rfl, covers.advance (by omega) .processed near _ (by simp), rfl⟩
    | true => exact ⟨_, rfl, covers.advance (by omega) .canceled near _ (by simp), rfl⟩
  · obtain ⟨n, back⟩ := Int.eq_ofNat_of_zero_le (by omega : 0 ≤ -offset)
    obtain rfl : offset = -(n : Int) := by omega
    obtain ⟨received, canceled⟩ := covers.bits n (by omega)
    have small : n < 64 := by omega
    have negated := neg64_back (show n < 2 ^ 63 by omega)
    have place : ledger.highest + -(n : Int) = ledger.highest - n := by omega
    rw [place] at window near
    simp only [processPacketOrCancel, found, old, new, ahead, if_false, negated, ok_bind, Int.toNat_natCast,
      Bitset.test_zero (by omega : 0 < 64), received, canceled, Ledger.receive, place, window]
    cases known : ledger.verdict (ledger.highest - n) with
    | none =>
      simp only [decided, known, Option.isSome_none, if_true, shiftLeft_ok _ small, ok_bind]
      cases isCancel with
      | false => exact ⟨_, rfl, (covers.count .outOfOrder).fill .processed known near _ (by simp), rfl⟩
      | true => exact ⟨_, rfl, (covers.count .outOfOrder).fill .canceled known near _ (by simp; rfl), rfl⟩
    | some verdict =>
      refine ⟨r.count .duplicate, ?_, covers.count .duplicate, rfl⟩
      cases verdict <;> simp [decided, Ledger.canceled, known, Ledger.answer, pure, Except.pure]

end

end Covers

namespace Represents
variable {r : Receiver} {ledger : Ledger}

theorem new {windowSize} (made : new windowSize = .ok r) (narrow : windowSize ≤ 63) : Represents r Ledger.initial := by
  obtain ⟨_, _, size, _⟩ := new_ok made
  exact ⟨.new made, by omega⟩

variable (represents : Represents r ledger)
include represents

theorem recount (stats : ReceiverStat → Nat) : Represents { r with stats } ledger :=
  ⟨represents.toCovers.recount stats, represents.narrow⟩

/-- Every data or cancel message is answered as the ledger answers it, without a
panic, whatever its sequence number. -/
theorem processPacketOrCancel_refines (sn : SeqNum) (isCancel : Bool) :
    ∃ next, r.processPacketOrCancel sn isCancel =
        .ok ((ledger.receive r.windowSize (ledger.itemOf r sn) isCancel).1, next) ∧
      Represents next (ledger.receive r.windowSize (ledger.itemOf r sn) isCancel).2 ∧
      next.windowSize = r.windowSize := by
  have narrow := represents.narrow
  have oldest := r.oldestUnrecvdOffset_le
  have fits : ¬ r.Overruns sn := fun gone => by
    have beyond := gone.2
    omega
  obtain ⟨next, answered, covers, size⟩ := represents.toCovers.processPacketOrCancel_refines fits isCancel
  exact ⟨next, answered, ⟨covers, by omega⟩, size⟩

theorem shouldProcessPacket_refines (sn : SeqNum) :
    r.shouldProcessPacket sn = .ok (ledger.receive r.windowSize
      (ledger.itemOf r sn) false).1.shouldProcess := by
  obtain ⟨next, answered, _⟩ := represents.processPacketOrCancel_refines sn false
  exact shouldProcessPacket_eq answered

end Represents
end ZprCore.Zdpr
