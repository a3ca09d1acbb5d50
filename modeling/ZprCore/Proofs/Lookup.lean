import ZprCore.Proofs.Events

/-! Traffic is matched by a lookup table beside the visas. It has the flows of the visas in the table
as long as no visa takes the place of one for another flow. -/

namespace ZprCore.Node
open Datapath (FiveTuple Ip5TupleTc)
open Panic Runs Option Table

/-- The calls that change a visa table. -/
inductive TableCall where
  | insertVisa (visa : VsapiVisa)
  | revoke (id : VisaId)
  | handleExpirations (currentTime : Nat)
  | revokeForLink (link : LinkId)

namespace Assembly
variable {asm next : Assembly}

def tableStep (asm : Assembly) : TableCall → Except Panic Assembly
  | .insertVisa visa => do return { asm with visaTable := (← asm.visaTable.insertVisa visa).2 }
  | .revoke id => .ok (asm.revoke id)
  | .handleExpirations currentTime => .ok (asm.handleExpirations currentTime)
  | .revokeForLink link => .ok (asm.revokeForLink link)

/-- A visa only takes the place of one for the same flow. -/
def Renews (asm : Assembly) : TableCall → Prop
  | .insertVisa visa => ∀ old ∈ asm.visaTable.table.get visa.issuerId, visa.dockPep.map DockPep.fiveTuple = some old.ftuple
  | .revoke _ | .handleExpirations _ | .revokeForLink _ => True

/-- The visas are for the flows that they match. -/
def Honest (asm : Assembly) : Prop :=
  ∀ id visa, asm.visaTable.table.get id = some visa → visa.dockPep.fiveTuple = visa.ftuple

/-- The lookup table has the flows of the visas and no others. -/
def Indexed (asm : Assembly) : Prop :=
  ∀ id flow, (id, flow) ∈ asm.visaTable.lookupTable ↔ (asm.visaTable.table.get id).map Visa.ftuple = some flow

theorem rebuildLookup_indexed (asm : Assembly) : asm.rebuildLookup.Indexed := by
  intro id flow
  simp only [rebuildLookup, VisaTable.rebuild, List.mem_map, Prod.exists, Prod.mk.injEq, mem_pairs, map_eq_some_iff]
  constructor
  · rintro ⟨_, visa, found, rfl, rfl⟩
    exact ⟨visa, found, rfl⟩
  · rintro ⟨visa, found, rfl⟩
    exact ⟨id, visa, found, rfl, rfl⟩

theorem Honest.removeRoutes (honest : asm.Honest) (routes : List ForwardingEntry) :
    (routes.foldl removeRoute asm).Honest := by
  induction routes generalizing asm with
  | nil => exact honest
  | cons route rest ih => exact @ih (asm.removeRoute route) honest

theorem Honest.revokeNoRebuild (honest : asm.Honest) (id : VisaId) : (asm.revokeNoRebuild id).Honest := by
  unfold Assembly.revokeNoRebuild
  split
  · exact honest
  refine removeRoutes (fun other visa found => ?_) _
  simp only [get_erase] at found
  split at found
  · cases found
  · exact honest other visa found

theorem Honest.revokeAll (honest : asm.Honest) (ids : List VisaId) :
    (ids.foldl Assembly.revokeNoRebuild asm).rebuildLookup.Honest := by
  induction ids generalizing asm with
  | nil => exact honest
  | cons id rest ih => exact ih (honest.revokeNoRebuild id)

theorem tableStep_indexed {call} (renews : asm.Renews call) (known : asm.Honest ∧ asm.Indexed)
    (stepped : asm.tableStep call = .ok next) : next.Honest ∧ next.Indexed := by
  obtain ⟨honest, indexed⟩ := known
  cases call with
  | insertVisa visa =>
    obtain ⟨⟨_, visas⟩, inserted, stepped⟩ := bind_ok.mp stepped
    cases stepped
    obtain ⟨dockPep, carried, rfl, rfl⟩ := VisaTable.insertVisa_ok inserted
    constructor
    · intro id found held
      simp only [get_insert] at held
      split at held
      · cases held
        rfl
      · exact honest id found held
    · intro id flow
      simp only [get_insert, List.mem_append, List.mem_singleton, Prod.mk.injEq, indexed id flow]
      split
      · next same =>
        subst same
        simp only [true_and, map_some, some.injEq, @eq_comm _ flow, or_iff_right_iff_imp, map_eq_some_iff]
        rintro ⟨old, found, rfl⟩
        have kept := renews old found
        rw [carried] at kept
        exact some.inj kept
      · next other => simp only [other, false_and, or_false]
  | revoke id =>
    cases stepped
    exact ⟨honest.revokeNoRebuild id, rebuildLookup_indexed _⟩
  | handleExpirations currentTime =>
    cases stepped
    refine ⟨?_, rebuildLookup_indexed _⟩
    apply Honest.revokeAll
    exact honest
  | revokeForLink link =>
    cases stepped
    unfold revokeForLink
    split
    · exact ⟨honest, indexed⟩
    · exact ⟨honest.revokeAll _, rebuildLookup_indexed _⟩

/-- A lookup gives the id of a pair whose flow matches. -/
def Faithful (findMatch : List (VisaId × FiveTuple) → FiveTuple → Option VisaId) : Prop :=
  ∀ pairs ft id, findMatch pairs ft = some id → ∃ flow, (id, flow) ∈ pairs ∧ (Ip5TupleTc.mk flow).classify5t ft = true

theorem lookup_agrees {asm final : Assembly} (fresh : asm.visaTable = .new) {calls : List TableCall}
    (run : Run tableStep Renews asm calls final) :
    (∀ id flow, (id, flow) ∈ final.visaTable.lookupTable ↔
        ∃ visa, final.visaTable.table.get id = some visa ∧ visa.ftuple = flow) ∧
      ∀ findMatch, Faithful findMatch → ∀ ft id, final.visaTable.matchTraffic findMatch ft = some id →
        ∃ visa, final.visaTable.table.get id = some visa ∧ visa.matchTraffic ft = true := by
  have known : final.Honest ∧ final.Indexed := by
    refine run.invariant (fun asm => asm.Honest ∧ asm.Indexed) (fun _ _ _ => tableStep_indexed) ?_
    simp [Honest, Indexed, fresh, VisaTable.new]
  refine ⟨fun id flow => (known.2 id flow).trans map_eq_some_iff, ?_⟩
  intro findMatch faithful ft id matched
  obtain ⟨flow, listed, classified⟩ := faithful _ _ _ matched
  obtain ⟨visa, found, rfl⟩ := map_eq_some_iff.mp ((known.2 id flow).mp listed)
  rw [← known.1 id visa found] at classified
  exact ⟨visa, found, classified⟩

end Assembly

namespace Sample
open Assembly

instance (asm : Assembly) (call : TableCall) : Decidable (asm.Renews call) := by
  unfold Renews
  split <;> infer_instance

def bare : Assembly := .start [nodeAddr] .new

theorem firstMatch_faithful : Faithful firstMatch := by
  intro pairs ft id matched
  obtain ⟨pair, found, rfl⟩ := map_eq_some_iff.mp matched
  have classified := List.find?_some found
  exact ⟨pair.2, List.mem_of_find?_eq_some found, classified⟩

theorem lookup_agrees_sample : ∃ final, Run tableStep Renews bare [.insertVisa (visa 1000 53), .revoke 7] final ∧
    ∀ ft id, final.visaTable.matchTraffic firstMatch ft = some id →
      ∃ visa, final.visaTable.table.get id = some visa ∧ visa.matchTraffic ft = true := by
  refine Run.exists_imp (fun _ => True) (by decide +kernel) fun final run _ => ?_
  exact (lookup_agrees rfl run).2 firstMatch firstMatch_faithful

/-- A visa for port 80 comes in the place of one for port 53, whose traffic still matches it. -/
theorem lookup_outdated : ∃ final, Run tableStep (fun _ _ => True) bare
    [.insertVisa (visa 1000 53), .insertVisa (visa 1000 80)] final ∧
    final.visaTable.matchTraffic firstMatch ⟨source, dest, .ipv4, Datapath.IpNumber.udp, 5000, 53⟩ = some 1000 ∧
    (final.visaTable.table.get 1000).map (·.matchTraffic ⟨source, dest, .ipv4, Datapath.IpNumber.udp, 5000, 53⟩) =
      some false := by
  apply Run.exists_of_execWhere
  decide +kernel

end Sample
end ZprCore.Node
