import ZprCore.Proofs.ActorAuth

/-! The account of the visa service's authorizations: each one is the address of the session that asked
for it, or it has been given back, once. -/

namespace ZprCore.Auth
open List Option ActorAuthorization Session Effect Panic Nat
open Datapath (IpAddress)
open Node (TxnId)

theorem noticesOf_append (notices more : List Notice) (number : Nat) :
    noticesOf (notices ++ more) number = noticesOf notices number ++ noticesOf more number := by
  rw [noticesOf, filter_append, map_append]
  rfl

theorem noticesOf_own (number : Nat) (address : IpAddress) : noticesOf [⟨some number, address⟩] number = [address] := by
  rw [noticesOf, filter_cons_of_pos, filter_nil]
  · rfl
  · exact decide_eq_true rfl

theorem noticesOf_other {number other} (different : other ≠ number) (address : IpAddress) :
    noticesOf [⟨some other, address⟩] number = [] := by
  rw [noticesOf, filter_cons_of_neg, filter_nil]
  · rfl
  rw [decide_eq_true_eq]
  intro same
  exact different (some.inj same)

/-- The actor has an address and takes part in no exchange. -/
structure Holds (session : Session) (address : IpAddress) : Prop where
  addresses : session.actor.addresses = [address]
  state : session.actor.data.state = .authorized
  remoteTxn : session.actor.data.remoteTxn = none
  isVs : session.isVs = false

structure SessionFits (tasks : List Task) (sent : List (Nat × AuthMessage)) (number : Nat) (session : Session) : Prop where
  link : session.actor.linkType = .nodeToAdapter
  generation : session.actor.data.generation = UInt64.ofNat session.epoch
  holds : ∀ holder, session.holder = some holder → ∃ task address, tasks[holder]? = some task ∧
    task.authorized = some address ∧ task.session = number ∧ task.epoch = session.epoch ∧
    Holds session address.toIpAddress ∧ (number, .grantZprAddress task.txn .success [address.toIpAddress]) ∈ sent
  free : session.holder = none → session.isVs = false → session.actor.addresses = []

/-- An authorization is the address of its session, or there is one notice about it. -/
def Settled (session : Session) (notices : List Notice) (number : Nat) (address : IpAddress) : Prop :=
  session.holder = some number ∧ noticesOf notices number = [] ∨
  session.holder ≠ some number ∧ noticesOf notices number = [address]

structure TaskFits (sessions : List Session) (notices : List Notice) (number : Nat) (task : Task) : Prop where
  generation : task.generation = UInt64.ofNat task.epoch
  asking : task.stage = .asking → task.authorized = none
  unsettled : task.authorized = none → noticesOf notices number = []
  settled : ∃ session, sessions[task.session]? = some session ∧ session.isVs = false ∧ task.epoch ≤ session.epoch ∧
    ∀ address, task.authorized = some address → Settled session notices number address.toIpAddress

/-- Invariant of a node. -/
structure Accounted (sessions : List Session) (tasks : List Task) (sent : List (Nat × AuthMessage))
    (notices : List Notice) : Prop where
  fits : ∀ (number : Nat) (session : Session), sessions[number]? = some session → SessionFits tasks sent number session
  owed : ∀ (number : Nat) (task : Task), tasks[number]? = some task → TaskFits sessions notices number task
  told : ∀ notice ∈ notices, ∃ number task address, notice = ⟨some number, StdIpAddr.toIpAddress address⟩ ∧
    tasks[number]? = some task ∧ Task.authorized task = some address

/-- Tasks stay, and keep what they have been answered. -/
def TasksKeep (tasks more : List Task) : Prop :=
  ∀ (number : Nat) (task : Task), tasks[number]? = some task → ∃ later, more[number]? = some later ∧
    later.session = task.session ∧ later.txn = task.txn ∧ later.epoch = task.epoch ∧
    ∀ address, task.authorized = some address → later.authorized = some address

section
variable {sessions : List Session} {tasks more extra : List Task} {sent sent'}
  {notices : List Notice} {number : Nat} {session old new : Session} {task : Task}

theorem TasksKeep.append (tasks extra : List Task) : TasksKeep tasks (tasks ++ extra) := by
  intro number task found
  refine ⟨task, ?_, rfl, rfl, rfl, fun _ => id⟩
  rw [getElem?_append_left (lt_length found), found]

theorem TasksKeep.set (found : tasks[number]? = some task) {later} (session : later.session = task.session)
    (txn : later.txn = task.txn) (epoch : later.epoch = task.epoch)
    (authorized : ∀ address, task.authorized = some address → later.authorized = some address) :
    TasksKeep tasks (tasks.set number later) := by
  intro other task' found'
  by_cases here : number = other
  · subst here
    cases found.symm.trans found'
    exact ⟨later, getElem?_set_self (lt_length found), session, txn, epoch, authorized⟩
  · exact ⟨task', by rw [getElem?_set_ne here, found'], rfl, rfl, rfl, fun _ => id⟩

structure Idle (session : Session) : Prop where
  link : session.actor.linkType = .nodeToAdapter
  generation : session.actor.data.generation = UInt64.ofNat session.epoch
  holder : session.holder = none
  free : session.isVs = false → session.actor.addresses = []

theorem Idle.fits (idle : Idle new) : SessionFits tasks sent number new where
  link := idle.link
  generation := idle.generation
  holds _ held := absurd (idle.holder.symm.trans held) nofun
  free _ := idle.free

theorem SessionFits.keep (fits : SessionFits tasks sent number session) (keeps : TasksKeep tasks more)
    (grows : sent ⊆ sent') : SessionFits more sent' number session where
  link := fits.link
  generation := fits.generation
  free := fits.free
  holds holder held := by
    obtain ⟨task, address, found, authorized, mine, epoch, holds, granted⟩ := fits.holds holder held
    obtain ⟨later, found', session', txn', epoch', authorized'⟩ := keeps holder task found
    exact ⟨later, address, found', authorized' address authorized, session'.trans mine, epoch'.trans epoch, holds,
      txn' ▸ grows granted⟩

/-- What happens to the session of a task does not concern the task as long as it holds its address
before and after, or neither. -/
theorem TaskFits.put (fits : TaskFits sessions notices number task) {other} (present : sessions[other]? = some old)
    (isVs : new.isVs = old.isVs) (epoch : old.epoch ≤ new.epoch)
    (holder : new.holder = some number ↔ old.holder = some number) :
    TaskFits (sessions.set other new) notices number task where
  generation := fits.generation
  asking := fits.asking
  unsettled := fits.unsettled
  settled := by
    obtain ⟨session, found, ordinary, earlier, settled⟩ := fits.settled
    by_cases here : other = task.session
    · subst here
      cases present.symm.trans found
      refine ⟨new, getElem?_set_self (lt_length present), isVs.trans ordinary,
        le_trans earlier epoch, ?_⟩
      intro address authorized
      rw [Settled, ne_eq, holder]
      exact settled address authorized
    · exact ⟨session, by rw [getElem?_set_ne here, found], ordinary, earlier, settled⟩

theorem TaskFits.notify (fits : TaskFits sessions notices number task) {other} (different : other ≠ number)
    (address : IpAddress) : TaskFits sessions (notices ++ [⟨some other, address⟩]) number task where
  generation := fits.generation
  asking := fits.asking
  unsettled authorized := by
    rw [noticesOf_append, noticesOf_other different, append_nil]
    exact fits.unsettled authorized
  settled := by
    obtain ⟨session, found, ordinary, earlier, settled⟩ := fits.settled
    refine ⟨session, found, ordinary, earlier, ?_⟩
    intro address authorized
    rw [Settled, noticesOf_append, noticesOf_other different, append_nil]
    exact settled address authorized

namespace Accounted

theorem nil : Accounted [] [] [] [] where
  fits _ _ found := by
    rw [getElem?_nil] at found
    cases found
  owed _ _ found := by
    rw [getElem?_nil] at found
    cases found
  told _ member := by cases member

section
variable (account : Accounted sessions tasks sent notices)
include account

theorem keep_told (keeps : TasksKeep tasks more) :
    ∀ notice ∈ notices, ∃ number task address, notice = ⟨some number, StdIpAddr.toIpAddress address⟩ ∧
      more[number]? = some task ∧ Task.authorized task = some address := by
  intro notice member
  obtain ⟨number, task, address, same, found, authorized⟩ := account.told notice member
  obtain ⟨later, found', _, _, _, authorized'⟩ := keeps number task found
  exact ⟨number, later, address, same, found', authorized' address authorized⟩

theorem noticesOf_new (beyond : tasks.length ≤ number) : noticesOf notices number = [] := by
  rw [noticesOf, map_eq_nil_iff, filter_eq_nil_iff]
  intro notice member
  obtain ⟨other, task, address, rfl, found, _⟩ := account.told notice member
  rw [decide_eq_true_eq]
  intro same
  have inside := lt_length found
  have := some.inj same
  omega

theorem holder_authorized (present : sessions[number]? = some old) {holder} (held : old.holder = some holder)
    (found : tasks[holder]? = some task) : task.authorized ≠ none := by
  obtain ⟨task', address, found', authorized, _⟩ := (account.fits number old present).holds holder held
  cases found.symm.trans found'
  rw [authorized]
  nofun

theorem adapt (present : sessions[number]? = some old) (unheld : old.holder = none) (idle : Idle new)
    (isVs : new.isVs = old.isVs) (epoch : old.epoch ≤ new.epoch) (grows : sent ⊆ sent')
    (fresh : ∀ task ∈ extra, task.session = number ∧ task.generation = UInt64.ofNat task.epoch ∧
      task.epoch ≤ new.epoch ∧ task.authorized = none ∧ new.isVs = false) :
    Accounted (sessions.set number new) (tasks ++ extra) sent' notices where
  fits other session found := by
    obtain ⟨rfl, rfl⟩ | ⟨_, found⟩ := getElem?_set_cases found
    · exact idle.fits
    · exact (account.fits other session found).keep (.append tasks extra) grows
  owed other task found := by
    by_cases inside : other < tasks.length
    · rw [getElem?_append_left inside] at found
      refine (account.owed other task found).put present isVs epoch ?_
      rw [idle.holder, unheld]
    obtain ⟨session, generation, upper, unauthorized, ordinary⟩ := fresh task (by
      rw [getElem?_append_right (not_lt.mp inside)] at found
      exact mem_of_getElem? found)
    refine ⟨generation, fun _ => unauthorized, fun _ => account.noticesOf_new (not_lt.mp inside), new, ?_, ordinary,
      upper, ?_⟩
    · rw [session, getElem?_set_self (lt_length present)]
    intro address authorized
    rw [unauthorized] at authorized
    cases authorized
  told := account.keep_told (.append tasks extra)

section
variable (found : tasks[number]? = some task)
include found

theorem goOn {later} (session : later.session = task.session) (generation : later.generation = task.generation)
    (txn : later.txn = task.txn) (epoch : later.epoch = task.epoch) (authorized : later.authorized = task.authorized)
    (asked : later.stage ≠ .asking) : Accounted sessions (tasks.set number later) sent notices := by
  have keeps : TasksKeep tasks (tasks.set number later) := .set found session txn epoch fun _ => authorized.trans
  refine ⟨?_, ?_, account.keep_told keeps⟩
  · intro other session present
    exact (account.fits other session present).keep keeps (List.Subset.refl _)
  intro other task' found'
  obtain ⟨rfl, rfl⟩ | ⟨_, found'⟩ := getElem?_set_cases found'
  · have fits := account.owed other task found
    refine ⟨?_, fun impossible => absurd impossible asked, authorized ▸ fits.unsettled, ?_⟩
    · rw [generation, epoch]
      exact fits.generation
    · rw [session, epoch, authorized]
      exact fits.settled
  · exact account.owed other task' found'

theorem deregister (asking : task.stage = .asking) {stage} (asked : stage ≠ .asking) (address : StdIpAddr) :
    Accounted sessions (tasks.set number { task with stage, authorized := some address }) sent
      (notices ++ [⟨some number, address.toIpAddress⟩]) := by
  have fits := account.owed number task found
  have unauthorized := fits.asking asking
  have keeps : TasksKeep tasks (tasks.set number { task with stage, authorized := some address }) := by
    refine .set found rfl rfl rfl ?_
    intro _ authorized
    rw [unauthorized] at authorized
    cases authorized
  refine ⟨?_, ?_, ?_⟩
  · intro other session present
    exact (account.fits other session present).keep keeps (List.Subset.refl _)
  · intro other task' found'
    obtain ⟨rfl, rfl⟩ | ⟨different, found'⟩ := getElem?_set_cases found'
    · obtain ⟨session, present, ordinary, earlier, _⟩ := fits.settled
      refine ⟨fits.generation, fun impossible => absurd impossible asked, nofun, session, present, ordinary, earlier, ?_⟩
      intro address' authorized
      cases authorized
      refine .inr ⟨fun held => account.holder_authorized present held found unauthorized, ?_⟩
      rw [noticesOf_append, fits.unsettled unauthorized, noticesOf_own, nil_append]
    · exact (account.owed other task' found').notify (Ne.symm different) _
  · intro notice member
    obtain earlier | last := mem_append.mp member
    · exact account.keep_told keeps notice earlier
    · refine ⟨number, _, address, mem_singleton.mp last,
        getElem?_set_self (lt_length found), rfl⟩

theorem install (asking : task.stage = .asking) (present : sessions[task.session]? = some old) (unheld : old.holder = none)
    {address} (holder : new.holder = some number) (holds : Holds new address.toIpAddress)
    (link : new.actor.linkType = .nodeToAdapter) (generation : new.actor.data.generation = UInt64.ofNat new.epoch)
    (current : task.epoch = new.epoch) (epoch : new.epoch = old.epoch) (isVs : new.isVs = old.isVs) :
    Accounted (sessions.set task.session new)
      (tasks.set number { task with stage := .done, authorized := some address })
      (sent ++ [(task.session, .grantZprAddress task.txn .success [address.toIpAddress])]) notices := by
  have fits := account.owed number task found
  have unauthorized := fits.asking asking
  have keeps : TasksKeep tasks (tasks.set number { task with stage := .done, authorized := some address }) := by
    refine .set found rfl rfl rfl ?_
    intro _ authorized
    rw [unauthorized] at authorized
    cases authorized
  have stored : (tasks.set number { task with stage := .done, authorized := some address })[number]? =
      some { task with stage := .done, authorized := some address } :=
    getElem?_set_self (lt_length found)
  refine ⟨?_, ?_, account.keep_told keeps⟩
  · intro other session found'
    obtain ⟨rfl, rfl⟩ | ⟨_, found'⟩ := getElem?_set_cases found'
    · refine ⟨link, generation, ?_, fun none => absurd (holder.symm.trans none) nofun⟩
      intro other held
      cases holder.symm.trans held
      exact ⟨_, address, stored, rfl, rfl, current, holds, mem_append_right _ mem_cons_self⟩
    · exact (account.fits other session found').keep keeps (subset_append_left _ _)
  · intro other task' found'
    obtain ⟨rfl, rfl⟩ | ⟨different, found'⟩ := getElem?_set_cases found'
    · refine ⟨fits.generation, nofun, nofun, new, getElem?_set_self (lt_length present),
        holds.isVs, le_of_eq current, ?_⟩
      intro address' authorized
      cases authorized
      exact .inl ⟨holder, fits.unsettled unauthorized⟩
    · refine (account.owed other task' found').put present isVs (le_of_eq epoch.symm) ?_
      rw [holder, unheld]
      constructor
      · intro same
        exact absurd (some.inj same).symm different
      · nofun

end

theorem release (present : sessions[number]? = some old) {holder} (held : old.holder = some holder)
    (found : tasks[holder]? = some task) {address} (authorized : task.authorized = some address) (idle : Idle new)
    (isVs : new.isVs = old.isVs) (epoch : old.epoch ≤ new.epoch) :
    Accounted (sessions.set number new) tasks sent (notices ++ [⟨some holder, address.toIpAddress⟩]) where
  fits other session found := by
    obtain ⟨rfl, rfl⟩ | ⟨_, found⟩ := getElem?_set_cases found
    · exact idle.fits
    · exact account.fits other session found
  owed other task' found' := by
    by_cases here : other = holder
    · subst here
      cases found.symm.trans found'
      obtain ⟨generation, asking, _, session, stored, ordinary, earlier, settled⟩ := account.owed other task found
      obtain ⟨task', _, found'', _, mine, _⟩ := (account.fits number old present).holds other held
      cases found.symm.trans found''
      rw [mine] at stored
      cases present.symm.trans stored
      refine ⟨generation, asking, fun none => absurd (authorized.symm.trans none) nofun, new, ?_, isVs.trans ordinary,
        le_trans earlier epoch, ?_⟩
      · rw [mine, getElem?_set_self (lt_length present)]
      intro address' authorized'
      cases authorized.symm.trans authorized'
      refine .inr ⟨by rw [idle.holder]; nofun, ?_⟩
      obtain ⟨_, silent⟩ | ⟨impossible, _⟩ := settled address authorized
      · rw [noticesOf_append, silent, noticesOf_own, nil_append]
      · exact absurd held impossible
    · refine ((account.owed other task' found').notify (Ne.symm here) _).put present isVs epoch ?_
      rw [idle.holder, held]
      constructor
      · nofun
      · intro same
        exact absurd (some.inj same).symm here
  told notice member := by
    obtain earlier | last := mem_append.mp member
    · exact account.told notice earlier
    · exact ⟨holder, task, address, mem_singleton.mp last, found, authorized⟩

end

end Accounted
end

theorem ActorAuthorization.Remainder.stage_ne_asking (remainder : ActorAuthorization.Remainder) :
    remainder.stage ≠ .asking := by
  cases remainder <;> nofun

namespace Session

theorem become_self (session : Session) : session.become session.actor = session := by
  rw [become, if_pos rfl]

theorem become_epoch (session : Session) (actor)
    (same : actor.data.generation = session.actor.data.generation) : (session.become actor).epoch = session.epoch := by
  rw [become]
  dsimp only
  rw [if_pos same]

theorem hold_grant (session : Session) (task : Nat) (txn : TxnId) (addresses : List IpAddress) :
    session.hold task [.send (.grantZprAddress txn .success addresses)] = { session with holder := some task } :=
  if_pos rfl

theorem release_become {session : Session} (unheld : session.holder = none) (actor) :
    (session.become actor).release = session.become actor := by
  rw [release, ← unheld]
  rfl

theorem le_become_epoch (session : Session) (actor) :
    session.epoch ≤ (session.become actor).epoch := by
  rw [become]
  dsimp only
  split
  · exact le_refl _
  · exact le_succ _

theorem become_generation {session : Session} {actor}
    (generation : session.actor.data.generation = UInt64.ofNat session.epoch)
    (next : actor.data.generation = session.actor.data.generation ∨ actor.data.generation = session.actor.data.generation + 1) :
    actor.data.generation = UInt64.ofNat (session.become actor).epoch := by
  rw [become]
  dsimp only
  split
  · next same => rw [same, generation]
  next different =>
  rw [next.resolve_left different, generation, UInt64.ofNat_add]
  rfl

end Session

namespace AuthNode
variable {node : AuthNode} {number epoch : Nat} {authorization : Option Nat}

theorem perform_nil : node.perform number epoch authorization [] = node := by
  simp only [perform, filterMap_nil, append_nil, getLast?_nil, map_none, none_or]

theorem perform_send (message : AuthMessage) : node.perform number epoch authorization [.send message] =
    { node with sent := node.sent ++ [(number, message)] } := by
  simp only [perform, filterMap_cons, filterMap_nil, Effect.task, Effect.message, Effect.notice, Effect.deferred,
    append_nil, getLast?_nil, map_none, map_some, none_or]

theorem perform_actorDisconnect (address : IpAddress) :
    node.perform number epoch authorization [.actorDisconnect address] =
      { node with notices := node.notices ++ [⟨authorization, address⟩] } := by
  simp only [perform, filterMap_cons, filterMap_nil, task, message, notice, deferred,
    append_nil, getLast?_nil, map_none, none_or]

theorem put_self {session} (present : node.sessions[number]? = some session) : node.put number session = node := by
  obtain ⟨inside, rfl⟩ := List.getElem?_eq_some_iff.mp present
  rw [put, set_getElem_self]

theorem putTask_put_self {session} (present : node.sessions[number]? = some session) (other : Nat) (task : Task) :
    (node.putTask other task).put number session = node.putTask other task := put_self present

/-- The account of a node is in order. -/
def InOrder (node : AuthNode) : Prop := Accounted node.sessions node.tasks node.sent node.notices

namespace InOrder
variable {p : Primitives} {session : Session} {actor}

section
variable (account : node.InOrder)
include account

section
variable (present : node.sessions[number]? = some session)
include present

theorem adapt (unheld : session.holder = none) (link : actor.linkType = session.actor.linkType)
    (next : actor.data.generation = session.actor.data.generation ∨ actor.data.generation = session.actor.data.generation + 1)
    (free : session.isVs = false → actor.addresses = session.actor.addresses) {effects}
    (quiet : effects.filterMap (·.notice authorization) = [])
    (fresh : ∀ generation txn request, .authorizeConnect generation txn request ∈ effects →
      generation = actor.data.generation ∧ session.isVs = false) :
    ((node.put number (session.become actor)).perform number (session.become actor).epoch authorization effects).InOrder := by
  have fits := account.fits number session present
  have generation := become_generation fits.generation next
  rw [InOrder, perform]
  dsimp only
  rw [quiet, append_nil]
  have idle : Idle (session.become actor) := by
    refine ⟨link.trans fits.link, generation, unheld, ?_⟩
    intro ordinary
    exact (free ordinary).trans (fits.free unheld ordinary)
  refine Accounted.adapt account present unheld idle rfl (session.le_become_epoch actor) (subset_append_left _ _) ?_
  intro task member
  obtain ⟨effect, asked, same⟩ := mem_filterMap.mp member
  cases effect with
  | authorizeConnect generation' txn request =>
    cases same
    obtain ⟨rfl, ordinary⟩ := fresh _ _ _ asked
    exact ⟨rfl, generation, le_refl _, rfl, ordinary⟩
  | _ => cases same

theorem unheld_of_remoteTxn {txn} (opened : session.actor.data.remoteTxn = some txn) : session.holder = none := by
  cases held : session.holder with
  | none => rfl
  | some holder =>
    obtain ⟨_, _, _, _, _, _, holds, _⟩ := (account.fits number session present).holds holder held
    rw [holds.remoteTxn] at opened
    cases opened

theorem linkDown_effects :
    session.holder = none ∧ (session.actor.linkDown session.isVs).1 = [] ∨
    ∃ holder task address, session.holder = some holder ∧ node.tasks[holder]? = some task ∧
      task.authorized = some address ∧ task.session = number ∧
      (session.actor.linkDown session.isVs).1 = [.actorDisconnect address.toIpAddress] := by
  have fits := account.fits number session present
  cases held : session.holder with
  | none =>
    refine .inl ⟨rfl, ?_⟩
    rw [ActorAuthorization.linkDown]
    dsimp only
    split
    · next ordinary =>
      rw [fits.free held (Bool.not_eq_true _ ▸ ordinary.2)]
      rfl
    · rfl
  | some holder =>
    obtain ⟨task, address, found, authorized, mine, _, holds, _⟩ := fits.holds holder held
    refine .inr ⟨holder, task, address, rfl, found, authorized, mine, ?_⟩
    rw [ActorAuthorization.linkDown, holds.isVs, holds.addresses]
    exact if_pos ⟨fits.link, nofun⟩

theorem refuses {holder} (held : session.holder = some holder) {context message outcome}
    (handled : ActorAuthorization.Handled p session.actor context message outcome) :
    ∃ problem, outcome = (.error problem, session.actor) := by
  obtain ⟨_, _, _, _, _, _, holds, _⟩ := (account.fits number session present).holds holder held
  have settled : session.actor.data.state ≠ .awaitingEvidence := by
    rw [holds.state]
    nofun
  cases handled with
  | refused message problem => exact ⟨problem, rfl⟩
  | started txn idle free made =>
    rw [holds.addresses] at free
    cases free
  | abandoned txn state current | unchallenged txn addresses text state none => exact absurd state settled
  | rejected txn addresses text awaits
  | deferred txn addresses text requested awaits isVs convinces
  | forwarded txn addresses text requested awaits isVs convinces => exact absurd awaits.state settled

end

theorem receive (number : Nat) (context : Context) (message : AuthMessage) : (node.receive p number context message).InOrder := by
  unfold AuthNode.receive
  split
  · exact account
  next session present =>
  have handled := handle_handled (p := p) (account.fits number session present).link
    (session.context context) message
  generalize session.actor.handle p (session.context context) message = outcome at handled ⊢
  cases held : session.holder with
  | some holder =>
    obtain ⟨problem, rfl⟩ := account.refuses present held handled
    dsimp only
    rw [session.become_self, put_self present]
    exact account
  | none =>
    cases handled with
    | refused message problem =>
      dsimp only
      rw [session.become_self, put_self present]
      exact account
    | unchallenged txn addresses text state unissued =>
      have kept : ((node.put number (session.become session.actor.taken)).perform number
          (session.become session.actor.taken).epoch none []).InOrder := by
        apply account.adapt present held
        · rfl
        · exact .inl rfl
        · intro _
          rfl
        · rfl
        · nofun
      rwa [perform_nil] at kept
    | started txn idle free made =>
      apply account.adapt present held
      · rfl
      · exact .inr rfl
      · intro _
        rfl
      · rfl
      · nofun
    | abandoned txn state current | rejected txn addresses text awaits =>
      apply account.adapt present held
      · rfl
      · exact .inl rfl
      · intro _
        rfl
      · rfl
      · nofun
    | deferred txn addresses text requested awaits isVs convinces =>
      apply account.adapt present held
      · rfl
      · exact .inl rfl
      · intro ordinary
        exact absurd (isVs.symm.trans ordinary) nofun
      · rfl
      · nofun
    | forwarded txn addresses text requested awaits isVs convinces =>
      apply account.adapt present held
      · rfl
      · exact .inl rfl
      · intro _
        rfl
      · rfl
      intro generation txn request member
      cases mem_singleton.mp member
      exact ⟨rfl, isVs⟩

theorem accept (authKey : AuthKey) (isVs : Bool) :
    (node.act p (.accept authKey isVs)).InOrder where
  fits number session found := by
    obtain found | rfl := getElem?_concat_cases found
    · exact account.fits number session found
    · exact Idle.fits ⟨rfl, rfl, rfl, fun _ => rfl⟩
  owed number task found := by
    obtain ⟨generation, asking, unsettled, session, present, rest⟩ := account.owed number task found
    refine ⟨generation, asking, unsettled, session, ?_, rest⟩
    rw [act, getElem?_append_left (lt_length present), present]
  told := account.told

/-- Under 2^64 generations, equal generations are the same generation. -/
theorem epoch_eq {task} (found : node.tasks[number]? = some task) (present : node.sessions[task.session]? = some session)
    (few : session.epoch < 2 ^ 64) (same : session.actor.data.generation = task.generation) : task.epoch = session.epoch := by
  have fits := account.owed number task found
  obtain ⟨session', present', _, earlier, _⟩ := fits.settled
  cases present.symm.trans present'
  rw [(account.fits _ session present).generation, fits.generation] at same
  have equal := congrArg UInt64.toNat same
  rw [UInt64.toNat_ofNat_of_lt' few, UInt64.toNat_ofNat_of_lt' (lt_of_le_of_lt earlier few)] at equal
  exact equal.symm

theorem complete (few : ∀ session ∈ node.sessions, session.epoch < 2 ^ 64) (number : Nat) (result) :
    (node.complete number result).InOrder := by
  unfold AuthNode.complete
  split
  · exact account
  next task found =>
  split
  · exact account
  next asking =>
  rw [not_not] at asking
  split
  · exact account
  next session present =>
  have fits := account.fits _ session present
  have unauthorized := (account.owed number task found).asking asking
  have resulted := session.actor.authorizationResult_resulted task.generation task.txn result
  generalize session.actor.authorizationResult task.generation task.txn result = outcome at resulted ⊢
  cases resulted with
  | stale address _ | unusable address _ =>
    dsimp only
    rw [hold, if_neg (by rintro ⟨⟩), session.become_self, putTask_put_self present, perform_actorDisconnect]
    exact Accounted.deregister account found asking (ActorAuthorization.Remainder.stage_ne_asking _) address
  | ignored problem _ =>
    dsimp only
    rw [hold, if_neg (by simp), session.become_self, putTask_put_self present, perform_nil]
    apply Accounted.goOn account found
    · rfl
    · rfl
    · rfl
    · rfl
    · exact unauthorized.symm
    · intro impossible
      cases impossible
  | installed address current =>
    obtain ⟨generation, mine, _⟩ := isCurrent_iff.mp current
    obtain ⟨_, present', ordinary, _⟩ := (account.owed number task found).settled
    cases present.symm.trans present'
    dsimp only
    rw [hold_grant, perform_send]
    apply Accounted.install account found asking present (account.unheld_of_remoteTxn present mine)
    · rfl
    · exact ⟨rfl, rfl, rfl, ordinary⟩
    · exact fits.link
    · exact become_generation fits.generation (.inl rfl)
    · rw [account.epoch_eq found present (few session (mem_of_getElem? present)) generation]
      exact (session.become_epoch _ rfl).symm
    · exact session.become_epoch _ rfl
    · rfl
  | failed problem current =>
    obtain ⟨_, mine, _⟩ := isCurrent_iff.mp current
    have answered : (node.putTask number { task with stage := .done, authorized := none }).InOrder :=
      Accounted.goOn account found rfl rfl rfl rfl unauthorized.symm (by simp)
    have silent : ¬ [send (.grantZprAddress task.txn (authorizationErrorStatus problem) [])].any (·.installs) = true := by
      have failing := authorizationErrorStatus_ne_success problem
      generalize authorizationErrorStatus problem = status at failing ⊢
      cases status with
      | success => exact absurd rfl failing
      | rejected | retryable => rintro ⟨⟩
    dsimp only
    rw [hold, if_neg silent, ← session.become_epoch (session.actor.finished (authorizationErrorStatus problem) none) rfl]
    apply answered.adapt present (account.unheld_of_remoteTxn present mine)
    · rfl
    · exact .inl rfl
    · intro _
      rfl
    · rfl
    · simp

theorem resume (number : Nat) : (node.resume number).InOrder := by
  unfold AuthNode.resume
  split
  · exact account
  next task found =>
  split
  · exact account
  split
  · exact account
  next session present =>
  have goesOn : (node.putTask number { task with stage := .done }).InOrder :=
    Accounted.goOn account found rfl rfl rfl rfl rfl nofun
  obtain same | ⟨mine, finished⟩ := session.actor.reportFinish_cases task.generation task.txn .retryable
  · rw [same]
    dsimp only
    rw [session.become_self, putTask_put_self present, perform_nil]
    exact goesOn
  · rw [finished]
    dsimp only
    rw [← session.become_epoch (session.actor.finished .retryable none) rfl]
    apply goesOn.adapt present (account.unheld_of_remoteTxn present mine)
    · rfl
    · exact .inl rfl
    · intro _
      rfl
    · rfl
    · nofun

theorem linkDown (number : Nat) : (node.linkDown number).InOrder := by
  unfold AuthNode.linkDown
  split
  · exact account
  next session present =>
  have fits := account.fits number session present
  obtain ⟨unheld, silent⟩ | ⟨holder, task, address, held, found, authorized, _, told⟩ := account.linkDown_effects present
  · have kept : ((node.put number (session.become (session.actor.linkDown session.isVs).2)).perform number
        (session.become (session.actor.linkDown session.isVs).2).epoch none []).InOrder := by
      apply account.adapt present unheld
      · rfl
      · exact .inr rfl
      · intro ordinary
        exact (fits.free unheld ordinary).symm
      · rfl
      · nofun
    rw [perform_nil] at kept
    dsimp only
    rw [silent, perform_nil, release_become unheld]
    exact kept
  · dsimp only
    rw [told, perform_actorDisconnect, held]
    apply Accounted.release account present held found authorized
    · exact ⟨fits.link, become_generation fits.generation (.inr rfl), rfl, fun _ => rfl⟩
    · rfl
    · exact session.le_become_epoch _

end

end InOrder

end AuthNode
end ZprCore.Auth
