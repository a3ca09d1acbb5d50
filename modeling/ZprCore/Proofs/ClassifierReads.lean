import ZprCore.Datapath.Classifier

/-! What can stop the classifier. It indexes into packets and takes headers off their front,
and nothing else in it can panic. -/

namespace ZprCore.Datapath
open Panic (Meets)

/-- The reasons for which reading a packet can stop: an index or a slice beyond its end, or a
prefix that is too short for a header. -/
def ReadPanic (problem : Panic) : Prop :=
  problem = .bounds ∨ problem = .assertion "called Result::unwrap() on an Err value"

/-- A computation stops only for reasons of reading a packet. -/
abbrev Reads {α : Type} (x : Except Panic α) : Prop := Meets ReadPanic (fun _ => True) x

theorem reads_ok {α} (value : α) : Reads (.ok value) := trivial

theorem reads_refFromPrefix {α} (layout : Layout α) (bytes : List UInt8) : Reads (refFromPrefix layout bytes) := by
  simp only [refFromPrefix]
  split
  · exact reads_ok _
  · exact .inr rfl

theorem reads_slicePrefix (bytes : List UInt8) (length : Nat) : Reads (slicePrefix bytes length) := by
  simp only [slicePrefix]
  split
  · exact reads_ok _
  · exact .inl rfl

theorem reads_get {α} (items : List α) (index : Nat) : Reads (Panic.get items index) := by
  simp only [Panic.get]
  split
  · exact reads_ok _
  · exact .inl rfl

theorem reads_ite {α : Type} {condition : Prop} [Decidable condition] {x y : Except Panic α} (first : Reads x)
    (second : Reads y) : Reads (if condition then x else y) := by
  split
  · exact first
  · exact second

namespace Classifier
variable (ft : FiveTuple) (body : List UInt8) (options : ClassifierOptions)

theorem reads_classifyIcmp : Reads (classifyIcmp ft body options) :=
  (reads_slicePrefix _ _).bind fun _ _ => (reads_refFromPrefix _ _).bind fun _ _ => reads_ite (reads_ok _) (reads_ok _)

theorem reads_classifyIcmpv6 : Reads (classifyIcmpv6 ft body options) :=
  (reads_slicePrefix _ _).bind fun _ _ => (reads_refFromPrefix _ _).bind fun _ _ => reads_ite (reads_ok _) (reads_ok _)

theorem reads_classifyTcp : Reads (classifyTcp ft body options) := by
  apply reads_ite (reads_ok _)
  apply reads_ite (reads_ok _)
  exact (reads_refFromPrefix _ _).bind fun _ _ => reads_ite (reads_ok _) (reads_ok _)

theorem reads_classifyUdp : Reads (classifyUdp ft body options) := by
  apply reads_ite (reads_ok _)
  refine (reads_refFromPrefix _ _).bind fun _ _ => reads_ite (reads_ok _) ?_
  exact reads_ite (reads_ok _) (reads_ok _)

theorem reads_skipHeader (optionLength : Nat) : Reads (skipHeader body optionLength) :=
  (reads_get _ _).bind fun _ _ => reads_ite (reads_ok _) (reads_ok _)

theorem reads_classifyNextHeader (protocol : IpProtocol) : Reads (classifyNextHeader ft body protocol options) := by
  fun_induction classifyNextHeader ft body protocol options with
  | case1 => exact reads_classifyIcmp _ _ _
  | case2 => exact reads_classifyTcp _ _ _
  | case3 => exact reads_classifyUdp _ _ _
  | case4 => exact reads_classifyIcmpv6 _ _ _
  | case5 | case7 | case10 | case13 => exact reads_ok _
  | case6 _ _ _ _ _ skipped
  | case9 _ _ _ _ _ skipped => exact ((reads_get _ _).bind fun _ _ => reads_skipHeader _ _).of_error skipped
  | case8 _ _ _ _ _ _ _ _ ih | case11 _ _ _ _ _ _ _ _ ih => exact ih
  | case12 _ _ _ _ _ skipped => exact (reads_skipHeader _ _).of_error skipped
  | case14 _ body _ _ _ _ _ _ ih =>
    have offset : Reads ((Layout.u16.decode (body.drop 2)).elim (Except.error Panic.bounds) Except.ok) := by
      cases Layout.u16.decode (body.drop 2) with
      | none => exact .inl rfl
      | some value => exact reads_ok _
    exact offset.bind fun _ _ => reads_ite (reads_ok _) (ih.bind fun _ _ => reads_ok _)

theorem reads_classifyIpv4 : Reads (classifyIpv4 ft body options) := by
  apply reads_ite (reads_ok _)
  refine (reads_refFromPrefix _ _).bind fun header _ => ?_
  apply reads_ite (reads_ok _)
  apply reads_ite (reads_ok _)
  apply reads_ite (reads_ok _)
  apply reads_ite (reads_ok _)
  apply reads_ite (reads_ok _)
  exact (reads_classifyNextHeader _ _ _ _).bind fun _ _ => reads_ite (reads_ok _) (reads_ok _)

theorem reads_classifyIpv6 : Reads (classifyIpv6 ft body options) := by
  apply reads_ite (reads_ok _)
  refine (reads_refFromPrefix _ _).bind fun header _ => ?_
  apply reads_ite (reads_ok _)
  apply reads_ite (reads_ok _)
  apply reads_ite (reads_ok _)
  exact reads_classifyNextHeader _ _ _ _

theorem reads_classifyWithOptions : Reads (classifyWithOptions ft body options) := by
  apply reads_ite (reads_ok _)
  refine ((reads_get body 0).bind fun _ _ => reads_ok _).bind fun version _ => ?_
  apply reads_ite (reads_classifyIpv4 _ _ _)
  exact reads_ite (reads_classifyIpv6 _ _ _) (reads_ok _)

end Classifier
end ZprCore.Datapath
