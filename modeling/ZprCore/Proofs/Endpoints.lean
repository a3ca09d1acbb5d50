import ZprCore.Datapath.Endpoints
import ZprCore.Lib.Runs
import ZprCore.Proofs.Lossless

/-! The two maps of the endpoint lookup table agree as long as no transaction is entered twice. The tether of
a cancelled bind request can be denied if nothing has taken the request out of the table before. -/

namespace ZprCore.Datapath
open Panic Runs Table

/-- The calls that change the table. -/
inductive EltCall (Txn : Type) where
  | insertPending (fiveTuple : FiveTuple) (txn : Txn) (initPacket : Packet)
  | setActive (fiveTuple : FiveTuple) (pep : EltPep)
  | remove (fiveTuple : FiveTuple)
  | clear

/-- The transaction an endpoint waits for. -/
def Endpoint.txn? {Txn : Type} : Endpoint Txn → Option Txn
  | .pending _ txn => some txn
  | .active _ => none

namespace EndpointLookupTable
variable {Txn : Type} [DecidableEq Txn] {elt : EndpointLookupTable Txn} {fiveTuple : FiveTuple} {txn : Txn}

section
variable (elt : EndpointLookupTable Txn)

/-- A call, and whether it succeeds. -/
def perform : EltCall Txn → Except Panic (Bool × EndpointLookupTable Txn)
  | .insertPending fiveTuple txn initPacket => .ok ((elt.insertPending fiveTuple txn initPacket).map Except.isOk id)
  | .setActive fiveTuple pep => Prod.map Except.isOk id <$> elt.setActive fiveTuple pep
  | .remove fiveTuple => Prod.map Except.isOk id <$> elt.remove fiveTuple
  | .clear => .ok (true, new)

def step (call : EltCall Txn) : Except Panic (EndpointLookupTable Txn) :=
  Prod.snd <$> elt.perform call

/-- No transaction is entered that is pending already. -/
def Fresh : EltCall Txn → Prop
  | .insertPending fiveTuple txn _ => elt.table.get fiveTuple = none → elt.pending.get txn = none
  | _ => True

def Agrees : Prop :=
  ∀ txn fiveTuple, elt.pending.get txn = some fiveTuple ↔ (elt.table.get fiveTuple).bind Endpoint.txn? = some txn

end

/-- An endpoint stops pending, whatever comes in its place. -/
theorem Agrees.settle (agrees : elt.Agrees) {packet} (found : elt.table.get fiveTuple = some (.pending packet txn))
    {table after} (settled : after.bind Endpoint.txn? = none)
    (changed : ∀ other, table.get other = if other = fiveTuple then after else elt.table.get other) :
    removePending ⟨table, elt.pending⟩ fiveTuple txn = .ok ⟨table, elt.pending.erase txn⟩ ∧
      Agrees ⟨table, elt.pending.erase txn⟩ := by
  have own := agrees txn
  refine ⟨if_pos ((own fiveTuple).mpr (by rw [found]; rfl)), fun other flow => ?_⟩
  have before := agrees other flow
  have here := own fiveTuple
  rw [found] at here
  simp only [get_erase, changed]
  grind [Endpoint.txn?]

theorem Agrees.enter (agrees : elt.Agrees) (absent : elt.table.get fiveTuple = none) (unused : elt.pending.get txn = none)
    (packet : Packet) : Agrees ⟨elt.table.insert fiveTuple (.pending packet txn), elt.pending.insert txn fiveTuple⟩ := by
  intro other flow
  have before := agrees other flow
  simp only [get_insert]
  grind [Endpoint.txn?]

theorem new_agrees : (new : EndpointLookupTable Txn).Agrees := fun _ _ => by simp [new]

/-- A call returns, changes nothing if it fails, and leaves the maps in agreement. -/
theorem Agrees.perform (agrees : elt.Agrees) {call} (fresh : elt.Fresh call) :
    ∃ done next, elt.perform call = .ok (done, next) ∧ (done = false → next = elt) ∧ next.Agrees := by
  cases call with
  | insertPending fiveTuple txn initPacket =>
    simp only [EndpointLookupTable.perform, insertPending]
    cases found : elt.table.get fiveTuple with
    | some endpoint => exact ⟨false, elt, rfl, fun _ => rfl, agrees⟩
    | none =>
      have unused := fresh found
      rw [unused]
      exact ⟨true, _, rfl, by simp, agrees.enter found unused initPacket⟩
  | setActive fiveTuple pep =>
    simp only [EndpointLookupTable.perform, setActive]
    rcases found : elt.table.get fiveTuple with _ | _ | _
    · exact ⟨false, elt, rfl, fun _ => rfl, agrees⟩
    · obtain ⟨removed, kept⟩ := agrees.settle found rfl fun other => get_insert elt.table fiveTuple other (.active pep)
      simp only [removed]
      exact ⟨true, _, rfl, by simp, kept⟩
    · exact ⟨false, elt, rfl, fun _ => rfl, agrees⟩
  | remove fiveTuple =>
    simp only [EndpointLookupTable.perform, remove]
    rcases found : elt.table.get fiveTuple with _ | _ | _
    · exact ⟨false, elt, rfl, fun _ => rfl, agrees⟩
    · obtain ⟨removed, kept⟩ := agrees.settle found rfl (get_erase elt.table fiveTuple)
      simp only [removed]
      exact ⟨true, _, rfl, by simp, kept⟩
    refine ⟨true, _, rfl, by simp, fun other flow => ?_⟩
    have before := agrees other flow
    simp only [id, get_erase]
    grind [Endpoint.txn?]
  | clear => exact ⟨true, new, rfl, by simp, new_agrees⟩

theorem endpoint_maps_agree {calls final} (run : Run step Fresh (new : EndpointLookupTable Txn) calls final) :
    final.Agrees ∧ ∀ call, final.Fresh call →
      ∃ done next, final.perform call = .ok (done, next) ∧ (done = false → next = final) := by
  have agrees : final.Agrees := by
    refine run.invariant Agrees (fun elt call next fresh agrees stepped => ?_) new_agrees
    obtain ⟨_, _, performed, _, kept⟩ := agrees.perform fresh
    rw [step, performed] at stepped
    cases stepped
    exact kept
  refine ⟨agrees, fun call fresh => ?_⟩
  obtain ⟨done, next, performed, unchanged, _⟩ := agrees.perform fresh
  exact ⟨done, next, performed, unchanged⟩

theorem endpoint_maps_sample : ∃ final, Run step Fresh (new : EndpointLookupTable Nat)
    [.insertPending Compress.query 1 Compress.queryPacket, .remove Compress.query] final ∧ final.Agrees :=
  Exists.imp (fun _ run => ⟨run, (endpoint_maps_agree run).1⟩) ⟨_, .cons (fun _ => rfl) rfl (.cons trivial rfl (.nil _))⟩

/-- A transaction that is entered again is entered in one map only, and the first endpoint can no longer be removed. -/
theorem endpoint_maps_disagree : ∃ first second : EndpointLookupTable Nat,
    new.insertPending Compress.query 1 Compress.queryPacket = (.ok (), first) ∧
    first.insertPending { Compress.query with srcPort := 1 } 1 Compress.queryPacket =
      (.error (.duplicateTransaction Compress.queryPacket), second) ∧
    first.pending.get 1 = some Compress.query ∧ second.pending.get 1 = some { Compress.query with srcPort := 1 } ∧
    second.remove Compress.query = .error (.assertion "ELT consistency error") :=
  ⟨_, _, rfl, rfl, rfl, rfl, rfl⟩

/-- What happens to the table. A tether is denied by a response, or by the task of its request. -/
inductive BindEvent (Txn : Type) where
  | request (fiveTuple : FiveTuple) (txn : Txn) (initPacket : Packet)
  | install (txn : Txn) (tetherId : StreamId) (tc : Ip5TupleTc) (a2aMicvKey : Option MicvKey)
  | deny (txn : Txn)
  | linkDown

def handle (elt : EndpointLookupTable Txn) : BindEvent Txn → Except Panic (EndpointLookupTable Txn)
  | .request fiveTuple txn initPacket =>
    match elt.insertPending fiveTuple txn initPacket with
    | (.error (.duplicateTransaction _), _) => .error (.assertion "duplicate transaction")
    | (_, next) => .ok next
  | .install txn tetherId tc a2aMicvKey => Prod.snd <$> elt.installTether txn tetherId tc a2aMicvKey
  | .deny txn => Prod.snd <$> elt.denyTether txn
  | .linkDown => .ok new

/-- A request opens a transaction that is not pending and that no task holds. -/
def Opens (held : Txn → Prop) (elt : EndpointLookupTable Txn) : BindEvent Txn → Prop
  | .request _ txn _ => ¬ held txn ∧ elt.pending.get txn = none
  | _ => True

/-- The event takes the transaction out of the table. -/
def Ends (txn : Txn) : BindEvent Txn → Prop
  | .install other _ _ _ | .deny other => other = txn
  | .request .. => False
  | .linkDown => True

section
variable (agrees : elt.Agrees)
include agrees

theorem Agrees.found (waiting : elt.pending.get txn = some fiveTuple) :
    ∃ packet, elt.table.get fiveTuple = some (.pending packet txn) := by
  obtain ⟨endpoint, found, same⟩ := Option.bind_eq_some_iff.mp ((agrees txn fiveTuple).mp waiting)
  cases endpoint <;> cases same
  exact ⟨_, found⟩

theorem Agrees.deny (waiting : elt.pending.get txn = some fiveTuple) :
    elt.denyTether txn = .ok (.ok (), ⟨elt.table.erase fiveTuple, elt.pending.erase txn⟩) ∧
      Agrees ⟨elt.table.erase fiveTuple, elt.pending.erase txn⟩ := by
  obtain ⟨packet, found⟩ := agrees.found waiting
  obtain ⟨removed, kept⟩ := agrees.settle found rfl (get_erase elt.table fiveTuple)
  simp only [denyTether, waiting, remove, found, removed]
  exact ⟨rfl, kept⟩

/-- An event is handled, and a held transaction stays pending unless the event ends it. -/
theorem Agrees.handle {held event} (opens : elt.Opens held event) :
    ∃ next, elt.handle event = .ok next ∧ next.Agrees ∧ ∀ txn flow, held txn →
      (next.pending.get txn = some flow ↔ ¬ Ends txn event ∧ elt.pending.get txn = some flow) := by
  have ended {other} txn flow (_ : held txn) :
      Table.get (elt.pending.erase other) txn = some flow ↔ ¬ other = txn ∧ elt.pending.get txn = some flow := by
    grind [get_erase]
  cases event with
  | request fiveTuple other packet =>
    obtain ⟨unheld, unused⟩ := opens
    simp only [EndpointLookupTable.handle, insertPending, unused]
    cases absent : elt.table.get fiveTuple with
    | some endpoint => exact ⟨elt, rfl, agrees, by simp [Ends]⟩
    | none =>
      refine ⟨_, rfl, agrees.enter absent unused packet, fun txn flow holds => ?_⟩
      have different : txn ≠ other := fun same => unheld (same ▸ holds)
      simp [Ends, different]
  | install other tetherId tc key =>
    simp only [EndpointLookupTable.handle, installTether]
    cases waiting : elt.pending.get other with
    | none => exact ⟨elt, rfl, agrees, fun _ _ _ => by grind [Ends]⟩
    | some fiveTuple =>
      obtain ⟨packet, found⟩ := agrees.found waiting
      dsimp only
      split
      · obtain ⟨removed, kept⟩ := agrees.settle found rfl fun flow => get_insert elt.table fiveTuple flow
          (.active ⟨tc.compressionMode, tetherId, key⟩)
        simp only [setActive, found, removed]
        exact ⟨_, rfl, kept, ended⟩
      · obtain ⟨removed, kept⟩ := agrees.settle found rfl (get_erase elt.table fiveTuple)
        simp only [remove, found, removed]
        exact ⟨_, rfl, kept, ended⟩
  | deny other =>
    simp only [EndpointLookupTable.handle]
    cases waiting : elt.pending.get other with
    | none =>
      simp only [denyTether, waiting]
      exact ⟨elt, rfl, agrees, fun _ _ _ => by grind [Ends]⟩
    | some fiveTuple =>
      obtain ⟨denied, kept⟩ := agrees.deny waiting
      rw [denied]
      exact ⟨_, rfl, kept, ended⟩
  | linkDown => exact ⟨new, rfl, new_agrees, by simp [new, Ends]⟩

theorem Agrees.run {held events final} (run : Run EndpointLookupTable.handle (Opens held) elt events final) :
    final.Agrees ∧ ∀ txn flow, held txn →
      (final.pending.get txn = some flow ↔ (∀ event ∈ events, ¬ Ends txn event) ∧ elt.pending.get txn = some flow) := by
  induction run with
  | nil elt => exact ⟨agrees, by simp⟩
  | cons opens handled _ ih =>
    obtain ⟨next, same, kept, stays⟩ := agrees.handle opens
    cases same.symm.trans handled
    obtain ⟨agrees, rest⟩ := ih kept
    refine ⟨agrees, fun txn flow holds => ?_⟩
    rw [rest txn flow holds, stays txn flow holds, List.forall_mem_cons, ← and_assoc, and_comm (a := ¬ _)]

end

/-- The tether of a request that is reported cancelled is denied by its task, which unwraps the result. -/
theorem canceled_denied_iff {past before started events final initPacket}
    (reached : Run handle (Opens fun _ => False) new past before)
    (requested : before.insertPending fiveTuple txn initPacket = (.ok (), started))
    (run : Run handle (Opens (· = txn)) started events final) :
    ((∃ next, final.denyTether txn = .ok (.ok (), next)) ↔ ∀ event ∈ events, ¬ Ends txn event) ∧
    ∀ next, final.denyTether txn = .ok (.ok (), next) → (∃ packet, final.table.get fiveTuple = some (.pending packet txn)) ∧
      next = ⟨final.table.erase fiveTuple, final.pending.erase txn⟩ := by
  have agrees := (new_agrees.run reached).1
  unfold insertPending at requested
  split at requested
  · cases requested
  next absent =>
  dsimp only at requested
  split at requested
  · cases requested
  next unused =>
  cases requested
  obtain ⟨kept, stays⟩ := (agrees.enter absent (by simpa using unused) initPacket).run run
  cases waiting : final.pending.get txn with
  | none =>
    simp only [denyTether, waiting]
    refine ⟨iff_of_false (by rintro ⟨_, ⟨⟩⟩) fun open' => ?_, by simp⟩
    cases waiting.symm.trans ((stays txn fiveTuple rfl).mpr ⟨open', by simp⟩)
  | some flow =>
    obtain ⟨open', same⟩ := (stays txn flow rfl).mp waiting
    obtain rfl : fiveTuple = flow := by simpa using same
    rw [(kept.deny waiting).1]
    refine ⟨iff_of_true ⟨_, rfl⟩ open', fun next done => ?_⟩
    cases done
    exact ⟨kept.found waiting, rfl⟩

theorem canceled_denied_sample : ∃ started final : EndpointLookupTable Nat,
    new.insertPending Compress.query 1 Compress.queryPacket = (.ok (), started) ∧
    Run handle (Opens (· = 1)) started [.deny 2] final ∧ ∃ next, final.denyTether 1 = .ok (.ok (), next) :=
  ⟨_, Exists.imp (fun _ run => ⟨rfl, run, (canceled_denied_iff (.nil _) rfl run).1.mpr (by simp [Ends])⟩)
    ⟨_, .cons trivial rfl (.nil _)⟩⟩

/-- The link goes down while the request is under way, and its task stops at the unwrap. -/
theorem canceled_undeniable : ∃ started final : EndpointLookupTable Nat,
    new.insertPending Compress.query 1 Compress.queryPacket = (.ok (), started) ∧
    Run handle (Opens (· = 1)) started [.linkDown] final ∧ final.denyTether 1 = .ok (.error .noSuchTransaction, final) :=
  ⟨_, _, rfl, .cons trivial rfl (.nil _), rfl⟩

end EndpointLookupTable
end ZprCore.Datapath
