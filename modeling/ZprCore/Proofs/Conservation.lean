import ZprCore.Proofs.Authorization

/-! Authorizations of the visa service over whole runs of a node. -/

namespace ZprCore.Auth
open List Session Nat
open Datapath (IpAddress)

namespace AuthNode
variable {node : AuthNode} {number epoch : Nat}
variable {session : Session} {holder : Nat}

/-- Sessions stay, and their generations are counted on. -/
def Grows (node next : AuthNode) : Prop :=
  ∀ (number : Nat) (session : Session), node.sessions[number]? = some session →
    ∃ later, next.sessions[number]? = some later ∧ session.epoch ≤ later.epoch

theorem Grows.refl (node : AuthNode) : Grows node node :=
  fun _ session present => ⟨session, present, le_refl _⟩

theorem Grows.put {next later} (present : node.sessions[number]? = some session)
    (sessions : next.sessions = node.sessions.set number later) (grows : session.epoch ≤ later.epoch) : Grows node next := by
  intro other session' present'
  rw [sessions]
  by_cases here : number = other
  · subst here
    cases present.symm.trans present'
    exact ⟨later, getElem?_set_self (Panic.lt_length present), grows⟩
  · exact ⟨session', by rw [getElem?_set_ne here, present'], le_refl _⟩

theorem Session.le_hold_epoch (session : Session) (task : Nat) (effects : List Effect) :
    session.epoch ≤ (session.hold task effects).epoch := by
  rw [hold]
  split <;> exact le_refl _

theorem act_grows (p : Primitives) (node : AuthNode) (label : NodeStep) : Grows node (node.act p label) := by
  cases label with
  | accept authKey isVs =>
    intro number session present
    refine ⟨session, ?_, le_refl _⟩
    rw [act, getElem?_append_left (Panic.lt_length present), present]
  | receive number context message =>
    rw [act, receive]
    split
    · exact .refl node
    next session present =>
    dsimp only
    split <;> exact .put present rfl (session.le_become_epoch _)
  | complete number result =>
    rw [act, complete]
    iterate 3
      split
      · exact .refl node
    next session present =>
    exact .put present rfl (le_trans (session.le_become_epoch _) (Session.le_hold_epoch _ _ _))
  | resume number =>
    rw [act, resume]
    iterate 3
      split
      · exact .refl node
    next session present =>
    exact .put present rfl (session.le_become_epoch _)
  | linkDown number =>
    rw [act, linkDown]
    split
    · exact .refl node
    next session present =>
    exact .put present rfl (session.le_become_epoch _)

/-- Fewer than 2^64 generations in every session. -/
def Few (node : AuthNode) : Prop := ∀ session ∈ node.sessions, session.epoch < 2 ^ 64

theorem Few.of_grows {next} (few : next.Few) (grows : Grows node next) : node.Few := by
  intro session member
  obtain ⟨number, present⟩ := mem_iff_getElem?.mp member
  obtain ⟨later, present', larger⟩ := grows number session present
  exact lt_of_le_of_lt larger (few later (mem_of_getElem? present'))

theorem InOrder.act (account : node.InOrder) (few : node.Few) (p : Primitives) (label : NodeStep) :
    (node.act p label).InOrder := by
  cases label with
  | accept authKey isVs => exact account.accept authKey isVs
  | receive number context message => exact account.receive number context message
  | complete number result => exact account.complete few number result
  | resume number => exact account.resume number
  | linkDown number => exact account.linkDown number

theorem run_inOrder {p steps} (run : Runs.Run (step p) (fun _ _ => True) new steps node) (few : node.Few) : node.InOrder := by
  refine run.invariant (fun node => node.Few → node.InOrder) ?_ (fun _ => .nil) few
  intro node label next _ account stepped few
  cases stepped
  have before := few.of_grows (node.act_grows p label)
  exact (account before).act before p label

/-- An authorization is the address of the session that asked for it, in the same generation, and was
granted in the transaction it was asked for in. -/
def Installed (node : AuthNode) (number : Nat) : Prop :=
  ∃ task address session, node.tasks[number]? = some task ∧ task.authorized = some address ∧
    node.sessions[task.session]? = some session ∧ session.holder = some number ∧
    session.actor.addresses = [address.toIpAddress] ∧ session.actor.data.state = .authorized ∧
    session.epoch = task.epoch ∧ (task.session, .grantZprAddress task.txn .success [address.toIpAddress]) ∈ node.sent

theorem InOrder.installed (account : node.InOrder) (present : node.sessions[epoch]? = some session)
    (held : session.holder = some number) : node.Installed number := by
  obtain ⟨task, address, found, authorized, rfl, generation, holds, granted⟩ :=
    (account.fits _ session present).holds number held
  exact ⟨task, address, session, found, authorized, present, held, holds.addresses, holds.state, generation.symm, granted⟩

theorem holder_set {sessions : List Session} {old new other} (present : sessions[number]? = some session)
    (held : session.holder = some holder) (present' : sessions[other]? = some old)
    (same : other = number → new.holder = old.holder) :
    ∃ later, (sessions.set other new)[number]? = some later ∧ later.holder = some holder := by
  by_cases here : other = number
  · subst here
    cases present.symm.trans present'
    exact ⟨new, getElem?_set_self (Panic.lt_length present), (same rfl).trans held⟩
  · exact ⟨session, by rw [getElem?_set_ne here, present], held⟩

section
variable (account : node.InOrder) (present : node.sessions[number]? = some session) (held : session.holder = some holder)
include account present held

theorem InOrder.complete_holder (task : Nat) (result) :
    ∃ later, (node.complete task result).sessions[number]? = some later ∧ later.holder = some holder := by
  unfold AuthNode.complete
  split
  · exact ⟨session, present, held⟩
  next asked _ =>
  split
  · exact ⟨session, present, held⟩
  split
  · exact ⟨session, present, held⟩
  next old present' =>
  have resulted := old.actor.authorizationResult_resulted asked.generation asked.txn result
  generalize old.actor.authorizationResult asked.generation asked.txn result = outcome at resulted ⊢
  refine holder_set present held present' ?_
  rintro rfl
  cases present.symm.trans present'
  obtain ⟨_, _, _, _, _, _, holds, _⟩ := (account.fits _ session present).holds holder held
  have idle : ¬ session.actor.isCurrent asked.generation asked.txn = true := by
    rw [ActorAuthorization.isCurrent_iff, holds.state]
    nofun
  cases resulted with
  | stale address _ | ignored problem _ => rfl
  | unusable address current | installed address current | failed problem current => exact absurd current idle

theorem InOrder.act_holder (p : Primitives) {label} (up : label ≠ .linkDown number) :
    ∃ later, (node.act p label).sessions[number]? = some later ∧ later.holder = some holder := by
  cases label with
  | accept authKey isVs =>
    refine ⟨session, ?_, held⟩
    rw [AuthNode.act, getElem?_append_left (Panic.lt_length present), present]
  | receive other context message =>
    rw [AuthNode.act, AuthNode.receive]
    split
    · exact ⟨session, present, held⟩
    next present' =>
    dsimp only
    split <;> exact holder_set present held present' fun _ => rfl
  | complete task result => exact account.complete_holder present held task result
  | resume task =>
    rw [AuthNode.act, AuthNode.resume]
    split
    · exact ⟨session, present, held⟩
    split
    · exact ⟨session, present, held⟩
    split
    · exact ⟨session, present, held⟩
    next present' => exact holder_set present held present' fun _ => rfl
  | linkDown other =>
    rw [AuthNode.act, AuthNode.linkDown]
    split
    · exact ⟨session, present, held⟩
    next present' =>
    refine holder_set present held present' ?_
    rintro rfl
    exact absurd rfl up

end

theorem InOrder.linkDown_installed (account : node.InOrder) {task address} (installed : node.Installed number)
    (found : node.tasks[number]? = some task) (authorized : task.authorized = some address) :
    (node.linkDown task.session).notices = node.notices ++ [⟨some number, address.toIpAddress⟩] ∧
      ¬ (node.linkDown task.session).Installed number := by
  obtain ⟨task', address', session, found', authorized', present, held, _⟩ := installed
  cases found.symm.trans found'
  cases authorized.symm.trans authorized'
  obtain ⟨unheld, _⟩ | ⟨holder, task', address', held', found', authorized', _, told⟩ := account.linkDown_effects present
  · exact absurd (held.symm.trans unheld) nofun
  cases held.symm.trans held'
  cases found.symm.trans found'
  cases authorized.symm.trans authorized'
  rw [AuthNode.linkDown, present]
  dsimp only
  rw [told, perform_actorDisconnect, held]
  refine ⟨rfl, ?_⟩
  rintro ⟨later, _, session', found', _, present', held', _⟩
  cases found.symm.trans found'
  obtain ⟨_, rfl⟩ | ⟨impossible, _⟩ := getElem?_set_cases present'
  · cases held'
  · exact impossible rfl

/-- The visa service's authorizations are conserved, whatever messages, answers and link-downs come in
whatever order. Each one is installed in the generation and the transaction that asked for it, or there
has been exactly one notice about it; the addresses of ordinary sessions are installed authorizations; an
installed one is given back by the link-down of its session and by nothing else; and an answer for an
earlier generation changes no session. -/
theorem authorization_conserved (p : Primitives) (steps : List NodeStep) (node : AuthNode)
    (run : Runs.Run (step p) (fun _ _ => True) new steps node) (few : ∀ session ∈ node.sessions, session.epoch < 2 ^ 64) :
    (∀ number task address, node.tasks[number]? = some task → task.authorized = some address →
      node.Installed number ∧ noticesOf node.notices number = [] ∨
      ¬ node.Installed number ∧ noticesOf node.notices number = [address.toIpAddress]) ∧
    (∀ notice ∈ node.notices, ∃ number task address, notice = ⟨some number, StdIpAddr.toIpAddress address⟩ ∧
      node.tasks[number]? = some task ∧ task.authorized = some address) ∧
    (∀ (number : Nat) (session : Session), node.sessions[number]? = some session → session.isVs = false →
      session.actor.addresses ≠ [] → ∃ holder, session.holder = some holder ∧ node.Installed holder) ∧
    (∀ number task address, node.tasks[number]? = some task → task.authorized = some address → node.Installed number →
      (node.linkDown task.session).notices = node.notices ++ [⟨some number, address.toIpAddress⟩] ∧
      ¬ (node.linkDown task.session).Installed number ∧
      ∀ label, label ≠ .linkDown task.session → (node.act p label).Installed number) ∧
    ∀ (number : Nat) (task : Task) (session : Session) (result : Except VsApiError StdIpAddr),
      node.tasks[number]? = some task → node.sessions[task.session]? = some session → task.epoch ≠ session.epoch →
      (node.complete number result).sessions = node.sessions := by
  have account := run_inOrder run few
  refine ⟨?_, account.told, ?_, ?_, ?_⟩
  · intro number task address found authorized
    obtain ⟨session, present, _, _, settled⟩ := (account.owed number task found).settled
    obtain ⟨held, silent⟩ | ⟨unheld, told⟩ := settled address authorized
    · exact .inl ⟨account.installed present held, silent⟩
    refine .inr ⟨?_, told⟩
    rintro ⟨task', _, session', found', _, present', held, _⟩
    cases found.symm.trans found'
    cases present.symm.trans present'
    exact unheld held
  · intro number session present ordinary addresses
    cases held : session.holder with
    | none => exact absurd ((account.fits number session present).free held ordinary) addresses
    | some holder => exact ⟨holder, rfl, account.installed present held⟩
  · intro number task address found authorized installed
    obtain ⟨told, gone⟩ := account.linkDown_installed installed found authorized
    refine ⟨told, gone, ?_⟩
    intro label up
    obtain ⟨task', _, session, found', _, present, held, _⟩ := installed
    cases found.symm.trans found'
    obtain ⟨later, present', held'⟩ := account.act_holder present held p up
    exact (account.act few p label).installed present' held'
  · intro number task session result found present stale
    have old : ¬ session.actor.isCurrent task.generation task.txn = true := by
      rw [ActorAuthorization.isCurrent_iff]
      rintro ⟨same, _⟩
      exact stale (account.epoch_eq found present (few session (mem_of_getElem? present)) same)
    rw [complete, found]
    dsimp only
    split
    · rfl
    rw [present]
    dsimp only
    have resulted := session.actor.authorizationResult_resulted task.generation task.txn result
    generalize session.actor.authorizationResult task.generation task.txn result = outcome at resulted ⊢
    cases resulted with
    | stale address _ | ignored problem _ =>
      dsimp only
      rw [hold, if_neg (by rintro ⟨⟩), session.become_self, putTask_put_self present]
      rfl
    | unusable address current | installed address current | failed problem current => exact absurd current old

/-- An adapter is authorized. -/
theorem authorization_conserved_sample : ∃ node,
    Runs.Run (step .plain) (fun _ _ => True) new
      [.accept (Vector.replicate 32 0) false, .receive 0 (.plain 5 1) (.startAuthentication 7),
        .receive 0 (.plain 6 2) (.acquireZprAddress 7 none ""),
        .complete 0 (.ok (.v6 ⟨Vector.replicate 12 0xfd, Vector.replicate 4 1⟩))] node ∧
    node.Installed 0 := by
  refine Runs.Run.exists_imp (fun node => (∀ session ∈ node.sessions, session.epoch < 2 ^ 64) ∧
      node.tasks.map (·.authorized) = [some (.v6 ⟨Vector.replicate 12 0xfd, Vector.replicate 4 1⟩)] ∧
      noticesOf node.notices 0 = []) (by decide +kernel) ?_
  intro node run ⟨few, authorized, silent⟩
  obtain ⟨task, rest, tasks, answer, _⟩ := map_eq_cons_iff.mp authorized
  have found : node.tasks[0]? = some task := by rw [tasks]; rfl
  obtain ⟨installed, _⟩ | ⟨_, told⟩ := (authorization_conserved .plain _ node run few).1 0 task _ found answer
  · exact installed
  · rw [silent] at told
    cases told

end AuthNode
end ZprCore.Auth
