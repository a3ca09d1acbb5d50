import ZprCore.Proofs.ZdprReceiver

/-! The receiver and its window. Seen from the wire, where numbers are taken modulo 2^64, it answers
as if it remembered every number, and no message but one stops it. -/

namespace ZprCore.Zdpr
open Window Panic Serial BitVec Receiver Log Int
variable {r : Receiver} {ledger : Ledger} {memory : Memory} {bound : Int}

theorem Represents.oldest_recent (represents : Represents r ledger) : -(r.windowSize : Int) < r.oldestUnrecvdOffset := by
  by_contra far
  have known := represents.valid.below (ledger.highest + r.oldestUnrecvdOffset) (by omega)
  rw [represents.oldest.2] at known
  cases known

/-- The ledger's items, as far as messages reach, are the numbers of the memory. -/
structure Mirrors (bound : Int) (ledger : Ledger) (memory : Memory) : Prop where
  highest : memory.highest = BitVec.ofInt 64 ledger.highest
  verdict : ∀ item : Int, -2 ^ 63 ≤ item → item < 2 ^ 63 → memory.verdict (BitVec.ofInt 64 item) = ledger.verdict item
  start : ∀ item < 0, ledger.decided item
  low : -1 ≤ ledger.highest
  high : ledger.highest ≤ bound

namespace Mirrors

theorem initial : Mirrors (-1) Ledger.initial Memory.initial where
  highest := rfl
  verdict item low high := by
    simp only [Memory.initial, Ledger.initial]
    rw [toInt_ofInt_eq_self (by decide) low high]
  start item below := by
    rw [decided, Ledger.initial_below below]
    rfl
  low := le_refl _
  high := le_refl _

section
variable (represents : Represents r ledger) (mirrors : Mirrors bound ledger memory)
include represents mirrors

theorem oldestMissing (room : bound + 1 < 2 ^ 63) :
    memory.oldestMissing = BitVec.ofInt 64 (ledger.highest + r.oldestUnrecvdOffset) := by
  obtain ⟨before, missing⟩ := represents.oldest
  have oldest := r.oldestUnrecvdOffset_le
  have high := mirrors.high
  obtain ⟨n, place⟩ : ∃ n : Nat, ledger.highest + r.oldestUnrecvdOffset = n := by
    apply eq_ofNat_of_zero_le
    by_contra negative
    rw [mirrors.start _ (by omega)] at missing
    cases missing
  rw [place] at before missing ⊢
  have least : IsLeast { n : Nat | memory.verdict (BitVec.ofNat 64 n) = none } n := by
    refine ⟨?_, fun other free => ?_⟩
    · rw [Set.mem_ofPred_eq, ← BitVec.ofInt_natCast, mirrors.verdict _ (by omega) (by omega)]
      simpa [decided] using missing
    by_contra smaller
    have known := before other (by omega)
    rw [Set.mem_ofPred_eq, ← BitVec.ofInt_natCast, mirrors.verdict _ (by omega) (by omega)] at free
    rw [decided, free] at known
    cases known
  rw [Memory.oldestMissing, least.csInf_eq, BitVec.ofInt_natCast]

theorem ignores_iff (room : bound + 1 < 2 ^ 63) (sn : SeqNum) :
    (distance sn (memory.highest - BitVec.ofNat 64 r.windowSize) ≤ 0 ∨
        0 ≤ distance sn (memory.oldestMissing + BitVec.ofNat 64 r.windowSize)) ↔
      ledger.TooOld r.windowSize (ledger.itemOf r sn) ∨ ledger.TooNew r.windowSize (ledger.itemOf r sn) := by
  have narrow := represents.narrow
  have most := r.oldestUnrecvdOffset_le
  have least := represents.oldest_recent
  have low : -2 ^ 63 ≤ distance sn r.highestSeen := BitVec.le_toInt _
  have high : distance sn r.highestSeen < 2 ^ 63 := BitVec.toInt_lt
  rw [represents.tooNew_iff, Covers.tooOld_iff, mirrors.oldestMissing represents room, mirrors.highest,
    ← BitVec.ofInt_natCast, ofInt_sub, ← BitVec.ofInt_add]
  generalize found : distance sn r.highestSeen = offset at *
  have item : sn = BitVec.ofInt 64 (ledger.highest + offset) := by
    rw [← found, represents.highest, ofInt_add_distance]
  rw [item, distance_bmod, distance_bmod, bmod_def, bmod_def]
  omega

theorem receive (room : bound + 64 < 2 ^ 63) (sn : SeqNum) (isCancel : Bool) :
    (memory.receive r.windowSize sn isCancel).1 = (ledger.receive r.windowSize (ledger.itemOf r sn) isCancel).1 ∧
      Mirrors (bound + 63) (ledger.receive r.windowSize (ledger.itemOf r sn) isCancel).2
        (memory.receive r.windowSize sn isCancel).2 := by
  have narrow := represents.narrow
  have most := r.oldestUnrecvdOffset_le
  have wider : Mirrors (bound + 63) ledger memory := { mirrors with high := by have := mirrors.high; omega }
  have same := ignores_iff represents mirrors (by omega) sn
  have item : sn = BitVec.ofInt 64 (ledger.itemOf r sn) := by
    rw [Ledger.itemOf, represents.highest, ofInt_add_distance]
  simp only [Memory.receive, Ledger.receive]
  by_cases outside : ledger.TooOld r.windowSize (ledger.itemOf r sn) ∨ ledger.TooNew r.windowSize (ledger.itemOf r sn)
  · rw [if_pos outside, if_pos (same.mpr outside)]
    exact ⟨rfl, wider⟩
  rw [if_neg outside, if_neg (mt same.mp outside)]
  rw [represents.tooNew_iff, Covers.tooOld_iff] at outside
  have ahead : distance sn memory.highest = distance sn r.highestSeen := by
    rw [mirrors.highest, represents.highest]
  unfold Ledger.itemOf at *
  generalize distance sn r.highestSeen = offset at *
  have low := mirrors.low
  have high := mirrors.high
  have recorded verdict :
      Mirrors (bound + 63) (ledger.record (ledger.highest + offset) verdict) (memory.record sn verdict) := by
    refine ⟨?_, ?_, ?_, ?_, ?_⟩
    · simp only [Memory.record, record, ahead]
      split
      · rw [max_eq_right (by omega), item]
      · rw [max_eq_left (by omega), mirrors.highest]
    · intro other above below
      by_cases here : other = ledger.highest + offset
      · rw [here, ← item, record_same]
        exact Function.update_self ..
      rw [record_other _ _ here, ← mirrors.verdict other above below]
      apply Function.update_of_ne
      intro aliased
      have same := congrArg BitVec.toInt (aliased.trans item)
      rw [BitVec.toInt_ofInt_eq_self (by decide) above below,
        BitVec.toInt_ofInt_eq_self (by decide) (by omega) (by omega)] at same
      exact here same
    · intro other below
      rw [record_decided, mirrors.start other below, Bool.or_true]
    · exact le_trans low (le_max_left _ _)
    · exact max_le (by omega) (by omega)
  rw [show memory.verdict sn = ledger.verdict (ledger.highest + offset) by
    rw [item, mirrors.verdict _ (by omega) (by omega)]]
  cases ledger.verdict (ledger.highest + offset) with
  | some verdict => exact ⟨rfl, wider⟩
  | none =>
    cases isCancel with
    | false => exact ⟨rfl, recorded .processed⟩
    | true => exact ⟨rfl, recorded .canceled⟩

theorem receiveAll (messages : List (SeqNum × Bool)) (room : bound + 63 * messages.length + 64 < 2 ^ 63) :
    ∃ last ledger, r.processAll messages = .ok ((memory.receiveAll r.windowSize messages).1, last) ∧
      Represents last ledger := by
  induction messages generalizing r ledger memory bound with
  | nil => exact ⟨r, ledger, rfl, represents⟩
  | cons message rest ih =>
    obtain ⟨sn, isCancel⟩ := message
    rw [List.length_cons] at room
    obtain ⟨next, answered, represented, size⟩ := represents.processPacketOrCancel_refines sn isCancel
    obtain ⟨same, mirrored⟩ := mirrors.receive represents (by omega) sn isCancel
    obtain ⟨last, later, others, reached⟩ := ih represented mirrored (by omega)
    refine ⟨last, later, ?_, reached⟩
    rw [size] at others
    simp only [processAll, answered, ok_bind, others, ← same]
    rfl

end

end Mirrors

namespace Receiver

theorem new_returns {windowSize} (positive : 1 ≤ windowSize) (bounded : windowSize ≤ 64) :
    ∃ r, new windowSize = .ok r ∧ ∀ stat, r.stats stat = 0 := by
  simp only [new, maxWindowSize, Panic.check, positive, bounded, decide_true]
  exact ⟨_, rfl, fun _ => rfl⟩

/-- On the wire the bitsets answer as the memory of all numbers does. -/
theorem processAll_refines {windowSize : Nat} (positive : 1 ≤ windowSize) (narrow : windowSize ≤ 63)
    (messages : List (SeqNum × Bool)) (few : messages.length < 2 ^ 57) :
    ∃ fresh r, Receiver.new windowSize = .ok fresh ∧
      fresh.processAll messages = .ok ((Memory.initial.receiveAll windowSize messages).1, r) ∧
      ∀ sn, ∃ disposition next, r.processPacket sn = .ok (disposition, next) ∧
        r.shouldProcessPacket sn = .ok (decide (disposition = .ackAndProcess)) := by
  obtain ⟨fresh, made, _⟩ := new_returns positive (by omega : windowSize ≤ 64)
  obtain ⟨_, _, size, _⟩ := new_ok made
  obtain ⟨r, ledger, processed, represents⟩ := Mirrors.initial.receiveAll (.new made narrow) messages (by omega)
  rw [size] at processed
  refine ⟨fresh, r, made, processed, fun sn => ?_⟩
  obtain ⟨next, answered, _⟩ := represents.processPacketOrCancel_refines sn false
  refine ⟨_, next, answered, ?_⟩
  rw [represents.shouldProcessPacket_refines]
  congr 1
  cases (ledger.receive r.windowSize (ledger.itemOf r sn) false).1 <;> rfl

theorem processAll_refines_sample : ∃ fresh r, Receiver.new 2 = .ok fresh ∧
    fresh.processAll [(1, false), (0, true), (1, true), (4, false)] =
      .ok ((Memory.initial.receiveAll 2 [(1, false), (0, true), (1, true), (4, false)]).1, r) ∧
    ∀ sn, ∃ disposition next, r.processPacket sn = .ok (disposition, next) ∧
      r.shouldProcessPacket sn = .ok (decide (disposition = .ackAndProcess)) :=
  processAll_refines (by decide) (by decide) _ (by decide)

theorem processPacketOrCancel_returns_iff {r ledger} (covers : Covers r ledger) (sn : SeqNum) (isCancel : Bool) :
    (∃ answer, r.processPacketOrCancel sn isCancel = .ok answer) ↔ ¬ r.Overruns sn := by
  constructor
  · rintro ⟨answer, answered⟩ ⟨ahead, beyond⟩
    have bounded := covers.bounded
    simp only [processPacketOrCancel, ahead] at answered
    rw [if_neg (by omega), if_neg (by omega), if_pos (by decide)] at answered
    cases answered
  · intro fits
    obtain ⟨next, answered, _⟩ := covers.processPacketOrCancel_refines fits isCancel
    exact ⟨_, answered⟩

theorem processAll_covers {r last ledger} (covers : Covers r ledger) {messages dispositions}
    (processed : r.processAll messages = .ok (dispositions, last)) :
    dispositions = (ledger.receiveAll r.windowSize messages).1 ∧ last.windowSize = r.windowSize ∧
      Covers last (ledger.receiveAll r.windowSize messages).2 ∧ ∀ stat, last.stats stat ≤ r.stats stat + messages.length := by
  induction messages generalizing r ledger dispositions with
  | nil =>
    cases processed
    exact ⟨rfl, rfl, covers, fun _ => Nat.le_refl _⟩
  | cons message rest ih =>
    obtain ⟨sn, isCancel⟩ := message
    obtain ⟨⟨disposition, next⟩, answered, processed⟩ := bind_ok.mp processed
    obtain ⟨⟨later, reached⟩, others, result⟩ := bind_ok.mp processed
    cases result
    have fits := (processPacketOrCancel_returns_iff covers sn isCancel).mp ⟨_, answered⟩
    obtain ⟨_, refined, covered, size⟩ := covers.processPacketOrCancel_refines fits isCancel
    have counted := processPacketOrCancel_stats answered
    rw [refined] at answered
    cases answered
    obtain ⟨rest, sized, reaches, total⟩ := ih covered others
    rw [size] at rest sized reaches
    simp only [Ledger.receiveAll, ← covers.highest]
    refine ⟨congrArg _ rest, sized, reaches, fun stat => ?_⟩
    have all := total stat
    have one : next.stats stat ≤ r.stats stat + 1 := by
      rcases counted with still | ⟨counted, one, _⟩
      · exact still ▸ Nat.le_succ _
      rw [one, count]
      dsimp only
      split <;> omega
    rw [List.length_cons]
    omega

/-- Whatever the window size, in every state that messages lead to, only a message that overruns
the bitsets is not answered. Fewer than a window's numbers are missing below the highest one. -/
theorem window_safe {windowSize : Nat} {fresh r : Receiver} {messages : List (SeqNum × Bool)}
    {dispositions : List Disposition} (made : Receiver.new windowSize = .ok fresh)
    (processed : fresh.processAll messages = .ok (dispositions, r)) :
    (∀ sn isCancel, (∃ answer, r.processPacketOrCancel sn isCancel = .ok answer) ↔ ¬ r.Overruns sn) ∧
      (∀ sn, r.Overruns sn → windowSize = 64) ∧
      (∀ sn, ¬ distance sn r.highestSeen ≤ -(r.windowSize : Int) → -distance sn r.highestSeen < 64) ∧
      (∀ item, (Ledger.initial.receiveAll windowSize messages).2.verdict item = none →
        (Ledger.initial.receiveAll windowSize messages).2.highest - item < windowSize) ∧
      dispositions = (Ledger.initial.receiveAll windowSize messages).1 ∧ ∀ stat, r.stats stat ≤ messages.length := by
  obtain ⟨positive, bounded, size, _⟩ := new_ok made
  obtain ⟨same, sized, covers, counted⟩ := processAll_covers (.new made) processed
  rw [size] at same sized covers
  refine ⟨processPacketOrCancel_returns_iff covers, ?_, ?_, ?_, same, ?_⟩
  · intro sn gone
    have beyond := gone.2
    have most := r.oldestUnrecvdOffset_le
    omega
  · omega
  · intro item missing
    by_contra far
    have known := covers.valid.below item (by omega)
    rw [decided, missing] at known
    cases known
  · intro stat
    obtain ⟨built, again, unused⟩ := new_returns positive bounded
    have total := counted stat
    rw [made] at again
    cases again
    rwa [unused, Nat.zero_add] at total

theorem window_safe_sample : ∃ fresh r, Receiver.new 64 = .ok fresh ∧
    fresh.processAll [(62, false), (3, true)] = .ok ([.ackAndProcess, .ackCancelDoNotProcess], r) ∧
    ∀ sn isCancel, (∃ answer, r.processPacketOrCancel sn isCancel = .ok answer) ↔ ¬ r.Overruns sn := by
  have made : new 64 =
    .ok ⟨64, allOnes 64, allOnes 64, allOnes 64, fun _ => 0⟩ := rfl
  exact ⟨_, _, made, rfl, (window_safe made (show processAll _ [(62, false), (3, true)] = _ from rfl)).1⟩

/-- A fresh receiver with the largest window does not survive the last number it should accept. -/
theorem window_overrun : ∃ fresh, Receiver.new 64 = .ok fresh ∧ fresh.processPacket 63 = .error .overflow := ⟨_, rfl, rfl⟩

end Receiver
end ZprCore.Zdpr
