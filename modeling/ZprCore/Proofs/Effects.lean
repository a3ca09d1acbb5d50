import ZprCore.Proofs.Events

/-! What the events of a node do to its tasks, bind requests and visas. -/

namespace ZprCore.Node
open Datapath (IpAddress FiveTuple)
open Table List

/-- Visas and lookup entries are all of known flows. -/
structure VisaTable.Known (known : VisaId → FiveTuple → Prop) (visas : VisaTable) : Prop where
  table : ∀ id visa, visas.table.get id = some visa → known id visa.ftuple
  lookups : ∀ id flow, (id, flow) ∈ visas.lookupTable → known id flow

namespace VisaTable.Known
variable {known wider} {visas next : VisaTable}

variable (all : visas.Known known)
include all

theorem mono (implied : ∀ id flow, known id flow → wider id flow) : visas.Known wider :=
  ⟨fun id visa stored => implied _ _ (all.table id visa stored),
    fun id flow listed => implied _ _ (all.lookups id flow listed)⟩

theorem of_grants (grants : visas.Grants next) : next.Known known := by
  refine ⟨?_, ?_⟩
  · intro id visa stored
    obtain ⟨old, found, same⟩ := grants.visas id visa stored
    exact same ▸ all.table id old found
  intro id flow listed
  rcases grants.lookups id flow listed with kept | ⟨old, found, rfl⟩
  · exact all.lookups id flow kept
  · exact all.table id old found

theorem insertVisa {visa id} (entered : visas.insertVisa visa = .ok (id, next))
    (new : ∀ dockPep, visa.dockPep = some dockPep → known visa.issuerId dockPep.fiveTuple) : next.Known known := by
  obtain ⟨dockPep, carried, _, rfl⟩ := VisaTable.insertVisa_ok entered
  refine ⟨?_, ?_⟩
  · intro other stored found
    simp only [get_insert] at found
    split at found
    · next same =>
      cases found
      exact same ▸ new dockPep carried
    · exact all.table other stored found
  · intro other flow listed
    rcases mem_append.mp listed with old | last
    · exact all.lookups other flow old
    · cases mem_singleton.mp last
      exact new dockPep carried

end VisaTable.Known

/-- What an event can do to tasks, bind requests and visas. -/
structure Effect (findMatch : List (VisaId × FiveTuple) → FiveTuple → Option VisaId) (asm : Assembly) (event : Event)
    (next : Assembly) : Prop where
  tasks : next.tasks = asm.keptTasks event ∨ ∃ task, Asks asm event task ∧ next.tasks = asm.tasks ++ [task] ∧
    ∀ link txnId visaId egress handle,
      next.bindAt link txnId = some (.awaitingNextHopBind visaId egress handle) →
      asm.bindAt link txnId = some (.awaitingNextHopBind visaId egress handle)
  sessions : asm.sessions ≤ next.sessions
  binds : ∀ link txnId visaId egress handle,
    next.bindAt link txnId = some (.awaitingNextHopBind visaId egress handle) →
    asm.bindAt link txnId = some (.awaitingNextHopBind visaId egress handle) ∨
      Awaits findMatch asm event link txnId visaId
  visas : ∀ known : VisaId → FiveTuple → Prop, asm.visaTable.Known known →
    (∀ visa dockPep, event.visa asm = some visa → visa.dockPep = some dockPep →
      known visa.issuerId dockPep.fiveTuple) → next.visaTable.Known known

namespace Effect
variable {findMatch} {asm next : Assembly} {event : Event}

theorem of_steady (steady : Steady { asm with tasks := asm.keptTasks event } next) :
    Effect findMatch asm event next where
  tasks := .inl steady.tasks
  sessions := steady.sessions.ge
  binds link txnId _ _ _ found := .inl (steady.binds link txnId _ found)
  visas _ all _ := all.of_grants steady.visas

theorem of_swept (swept : Swept asm next) (kept : asm.keptTasks event = asm.tasks) : Effect findMatch asm event next where
  tasks := .inl (swept.tasks.trans kept.symm)
  sessions := swept.sessions.ge
  binds link txnId _ _ _ found := .inl (swept.binds link txnId ▸ found)
  visas _ all _ := all.of_grants swept.visas

theorem running (effect : Effect findMatch asm event next) (task : VisaTask) (held : task ∈ next.tasks) :
    task ∈ asm.tasks ∨ Asks asm event task := by
  rcases effect.tasks with kept | ⟨new, asks, added, _⟩
  · rw [kept] at held
    cases event with
    | visaReply index reply => exact .inl (mem_of_mem_eraseIdx held)
    | _ => exact .inl held
  · rw [added] at held
    refine (mem_append.mp held).imp_right ?_
    intro last
    exact mem_singleton.mp last ▸ asks

end Effect

namespace Assembly
variable {findMatch} {asm next : Assembly} {event : Event}
  {inserted}

theorem bindAt_addPeer (asm : Assembly) (link : LinkId) (linkType : LinkType) (other : LinkId) (txnId : TxnId) :
    (asm.addPeer link linkType).bindAt other txnId = if other = link then none else asm.bindAt other txnId := by
  simp only [bindAt, addPeer, get_insert]
  split
  · simp only [PeerState.new, Option.bind_some, get_empty]
  · rfl

theorem bindAt_dropPeer {link} (dropped : asm.dropPeer link = .ok next) (other : LinkId) (txnId : TxnId) :
    next.bindAt other txnId = if other = link then none else asm.bindAt other txnId := by
  rw [(remove_frame dropped).binds, ← (revokeForLink_swept asm link).binds]
  simp only [bindAt, get_erase]
  split <;> rfl

theorem known_insertVisa {known visa} (returned : asm.insertVisa visa = .ok (inserted, next))
    (all : asm.visaTable.Known known) (new : ∀ dockPep, visa.dockPep = some dockPep → known visa.issuerId dockPep.fiveTuple) :
    next.visaTable.Known known := by
  rcases insertVisa_cases returned with ⟨rfl, _⟩ | ⟨visas, entered, _, rfl⟩
  · exact all
  · exact all.insertVisa entered new

theorem insertVisa_frame {visa} (returned : asm.insertVisa visa = .ok (inserted, next)) :
    next.tasks = asm.tasks ∧ next.sessions = asm.sessions ∧ next.peerTable = asm.peerTable := by
  rcases insertVisa_cases returned with ⟨rfl, _⟩ | ⟨visas, entered, _, rfl⟩ <;> exact ⟨rfl, rfl, rfl⟩

variable (stepped : asm.step findMatch event = .ok next)
include stepped

theorem step_effect : Effect findMatch asm event next := by
  cases step_turns stepped with
  | works _ _ started awaits progress =>
    refine ⟨?_, progress.sessions.ge, ?_, fun _ all _ => progress.visas ▸ all⟩
    · refine started.imp (progress.tasks.trans ·) ?_
      rintro ⟨task, asks, rfl, other⟩
      refine ⟨task, asks, progress.tasks, ?_⟩
      intro link txnId visaId egress handle awaiting
      exact (progress.binds link txnId _ awaiting).resolve_right fun new => other visaId egress handle new.2.2
    · intro link txnId visaId egress handle awaiting
      refine (progress.binds link txnId _ awaiting).imp_right ?_
      rintro ⟨rfl, rfl, new⟩
      exact awaits visaId egress handle new
  | enters _ brings inserted awaits progress =>
    obtain ⟨tasks, sessions, peers⟩ := insertVisa_frame inserted
    refine ⟨.inl (progress.tasks.trans tasks), (progress.sessions.trans sessions).ge, ?_, ?_⟩
    · intro link txnId visaId egress handle awaiting
      rcases progress.binds link txnId _ awaiting with old | ⟨rfl, rfl, new⟩
      · rw [bindAt, peers] at old
        exact .inl old
      · exact .inr (awaits visaId egress handle new)
    · intro known all new
      rw [progress.visas]
      exact known_insertVisa inserted all fun dockPep => new _ dockPep brings
  | answers steady => exact .of_steady steady
  | unbinds link streamId =>
    rcases handleUnbindIndication_cases asm link streamId with same | ⟨pep, _, swept, _⟩
    · rw [same]
      exact .of_steady (.of_idle (.refl _))
    · exact .of_swept swept rfl
  | revokes id => exact .of_swept (handleRevocation_swept asm id) rfl
  | expires currentTime => exact .of_swept (handleExpirations_swept asm currentTime) rfl
  | adds link linkType =>
    refine ⟨.inl rfl, Nat.le_succ _, ?_, fun _ all _ => all⟩
    intro other txnId visaId egress handle awaiting
    rw [bindAt_addPeer] at awaiting
    split at awaiting
    · cases awaiting
    · exact .inl awaiting
  | @drops link _ dropped =>
    have swept := revokeForLink_swept asm link
    have frame := remove_frame dropped
    refine ⟨.inl (frame.tasks.trans swept.tasks), (frame.sessions.trans swept.sessions).ge, ?_, ?_⟩
    · intro other txnId visaId egress handle awaiting
      rw [bindAt_dropPeer dropped] at awaiting
      split at awaiting
      · cases awaiting
      · exact .inl awaiting
    · intro known all _
      rw [frame.visas]
      exact all.of_grants swept.visas
  | moves link addresses aaaAddress =>
    refine ⟨.inl rfl, Nat.le_refl _, ?_, fun _ all _ => all⟩
    intro other txnId visaId egress handle awaiting
    simp only [bindAt, modifyPeer, get_modify] at awaiting ⊢
    split at awaiting
    · simp only [Option.bind_map, Function.comp_def] at awaiting
      exact .inl awaiting
    · exact .inl awaiting

theorem step_occupant_cases {link session linkType} (occupied : next.occupant link = some (session, linkType)) :
    asm.occupant link = some (session, linkType) ∨ event = .addPeer link linkType ∧ session = asm.sessions := by
  rw [step_occupant stepped] at occupied
  simp only [occupantAfter] at occupied
  split at occupied
  · split at occupied
    · next same =>
      cases occupied
      exact .inr ⟨same ▸ rfl, rfl⟩
    · exact .inl occupied
  · split at occupied
    · cases occupied
    · exact .inl occupied
  · exact .inl occupied

end Assembly

end ZprCore.Node
