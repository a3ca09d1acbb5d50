import ZprCore.Datapath.Classifier

/-! Five-tuple traffic classifiers (`tc.rs`). A zero port is a wildcard. -/

namespace ZprCore.Datapath

abbrev CompressionMode := UInt8

namespace CompressionMode

def sourcePortPresent : CompressionMode := 1
def destinationPortPresent : CompressionMode := 2

/-- The field is part of the traffic classifier, so packets do not carry it. -/
def hasSource (mode : CompressionMode) : Bool := mode &&& sourcePortPresent != 0
def hasDestination (mode : CompressionMode) : Bool := mode &&& destinationPortPresent != 0

end CompressionMode

structure Ip5TupleTc where
  fiveTuple : FiveTuple

namespace Ip5TupleTc

def compressionMode (tc : Ip5TupleTc) : CompressionMode :=
  (if tc.fiveTuple.srcPort ≠ 0 then CompressionMode.sourcePortPresent else 0) |||
    (if tc.fiveTuple.dstPort ≠ 0 then CompressionMode.destinationPortPresent else 0)

/-- Does a packet with the specified five-tuple match this classifier. -/
def classify5t (tc : Ip5TupleTc) (ft : FiveTuple) : Bool :=
  if ft.l3Type ≠ tc.fiveTuple.l3Type then false
  else if ft.srcAddress ≠ tc.fiveTuple.srcAddress ∨ ft.dstAddress ≠ tc.fiveTuple.dstAddress then false
  else if ft.l4Protocol ≠ tc.fiveTuple.l4Protocol then false
  else if tc.fiveTuple.srcPort ≠ 0 ∧ ft.srcPort ≠ tc.fiveTuple.srcPort then false
  else if tc.fiveTuple.dstPort ≠ 0 ∧ ft.dstPort ≠ tc.fiveTuple.dstPort then false
  else true

end Ip5TupleTc
end ZprCore.Datapath
