import ZprCore.Lib.Runs
import ZprCore.Node.Transactions

/-! The counts of a transaction manager are those of the handles that exist. -/

namespace ZprCore.Node
open Panic Table List Option TxnMgr Nat

namespace TxnMgr
variable {mgr next : TxnMgr} {id : TxnId}

theorem refTxn_opened (counted : mgr.refTxn id = .ok next) (other : TxnId) :
    next.opened.get other = if other = id then (mgr.opened.get id).map (· + 1) else mgr.opened.get other := by
  simp only [refTxn] at counted
  split at counted
  · next refcnt found =>
    cases counted
    simp only [get_insert, found, map_some]
  · cases counted

theorem derefTxn_opened (counted : mgr.derefTxn id = .ok next) (other : TxnId) :
    next.opened.get other = if other = id then (mgr.opened.get id).bind ppred else mgr.opened.get other := by
  simp only [derefTxn] at counted
  split at counted
  · next found =>
    cases counted
    simp only [get_erase, found, bind_some, ppred]
  · next refcnt found =>
    cases counted
    simp only [get_insert, found, bind_some, ppred]
  · cases counted

theorem tryOpen_opened (opened : mgr.tryOpen = some (id, next)) :
    mgr.opened.get id = none ∧
      ∀ other, next.opened.get other = if other = id then some 0 else mgr.opened.get other := by
  simp only [tryOpen] at opened
  split at opened
  · next free =>
    cases opened
    exact ⟨free, fun other => get_insert _ _ _ _⟩
  · cases opened

theorem tryOpen_next (opened : mgr.tryOpen = some (id, next)) : id = mgr.nextFree ∧ next.nextFree = mgr.nextFree + 1 := by
  simp only [tryOpen] at opened
  split at opened <;> cases opened
  exact ⟨rfl, rfl⟩

theorem derefTxn_next (counted : mgr.derefTxn id = .ok next) : next.nextFree = mgr.nextFree := by
  simp only [derefTxn] at counted
  split at counted <;> cases counted <;> rfl

theorem refTxn_of_get (found : mgr.get id = some next) : mgr.refTxn id = .ok next := by
  obtain ⟨refcnt, stored, rfl⟩ := map_eq_some_iff.mp found
  simp only [refTxn, stored]

end TxnMgr

namespace Transactions

/-- A transaction is open as long as it has a handle, and only the last 65536 of them can be. -/
structure Ledger (s : Transactions) : Prop where
  counts : ∀ id, s.mgr.opened.get id = (s.live.countP (·.id = id)).ppred
  next : s.mgr.nextFree = UInt16.ofNat s.opens
  ids : ∀ h ∈ s.live, h.id = UInt16.ofNat h.number
  recent : ∀ h ∈ s.live, h.number < s.opens ∧ s.opens ≤ h.number + 65536
  awake : s.mgr.opened.get s.mgr.nextFree = none → false ∈ s.waiting → 0 < s.notifying

namespace Ledger
variable {s next : Transactions} {h other : LiveHandle} {id : TxnId}

theorem initial : Ledger new := ⟨fun _ => rfl, rfl, nofun, nofun, nofun⟩

section
variable (ledger : Ledger s)
include ledger

theorem none_iff (id : TxnId) : s.mgr.opened.get id = none ↔ ∀ h ∈ s.live, h.id ≠ id := by
  rw [ledger.counts, ppred_eq_none, countP_eq_zero]
  simp only [decide_eq_true_eq, ne_eq]

theorem some_of_mem (member : h ∈ s.live) : ∃ refcnt, s.mgr.opened.get h.id = some refcnt := by
  cases found : s.mgr.opened.get h.id with
  | none => exact absurd rfl ((ledger.none_iff h.id).mp found h member)
  | some refcnt => exact ⟨refcnt, rfl⟩

theorem same_number (first : h ∈ s.live) (second : other ∈ s.live) (same : h.id = other.id) : h.number = other.number := by
  rw [ledger.ids h first, ledger.ids other second, ← UInt16.toNat_inj] at same
  simp only [UInt16.toNat_ofNat'] at same
  have := ledger.recent h first
  have := ledger.recent other second
  omega

theorem next_iff (member : h ∈ s.live) : h.id = s.mgr.nextFree ↔ h.number + 65536 = s.opens := by
  rw [ledger.ids h member, ledger.next, ← UInt16.toNat_inj]
  simp only [UInt16.toNat_ofNat']
  have := ledger.recent h member
  omega

theorem tryOpen (opened : s.tryOpen = some next) : Ledger next := by
  obtain ⟨⟨id, mgr⟩, found, rfl⟩ := map_eq_some_iff.mp opened
  obtain ⟨free, stored⟩ := tryOpen_opened found
  obtain ⟨rfl, advanced⟩ := tryOpen_next found
  refine ⟨?_, ?_, ?_, ?_, fun _ waits => ledger.awake free waits⟩
  · intro other
    rw [stored, countP_append, countP_singleton]
    split
    · next same =>
      rw [ledger.counts, ppred_eq_none] at free
      rw [same, free, decide_eq_true rfl]
      rfl
    · next different => rw [decide_eq_false fun same => different same.symm, ledger.counts]; rfl
  · rw [advanced, ledger.next, UInt16.ofNat_add]
    rfl
  · intro h member
    obtain old | new := mem_append.mp member
    · exact ledger.ids h old
    · cases mem_singleton.mp new
      exact ledger.next
  · intro h member
    obtain old | new := mem_append.mp member
    · have other := mt (ledger.next_iff old).mpr ((ledger.none_iff _).mp free h old)
      have := ledger.recent h old
      dsimp only
      omega
    · cases mem_singleton.mp new
      dsimp only
      omega

theorem register (used : s.tryOpen = none) : Ledger { s with waiting := s.waiting ++ [false] } := by
  refine ⟨ledger.counts, ledger.next, ledger.ids, ledger.recent, fun free => absurd used ?_⟩
  simp only [Transactions.tryOpen, TxnMgr.tryOpen, free, map_some, reduceCtorEq, not_false_iff]

theorem openRaw : Ledger s.openRaw := by
  unfold Transactions.openRaw
  cases opened : s.tryOpen with
  | none => exact ledger.register opened
  | some next => exact ledger.tryOpen opened

theorem leaves (waiter : Nat) : Ledger { s with waiting := s.waiting.eraseIdx waiter } :=
  ⟨ledger.counts, ledger.next, ledger.ids, ledger.recent, fun free waits =>
    ledger.awake free (mem_of_mem_eraseIdx waits)⟩

theorem refTxn (member : h ∈ s.live) : ∃ mgr, s.mgr.refTxn h.id = .ok mgr ∧ Ledger { s with mgr, live := s.live ++ [h] } := by
  obtain ⟨refcnt, found⟩ := ledger.some_of_mem member
  have counted : s.mgr.refTxn h.id = .ok { s.mgr with opened := s.mgr.opened.insert h.id (refcnt + 1) } := by
    simp only [TxnMgr.refTxn, found]
  have either {other} (listed : other ∈ s.live ++ [h]) : other ∈ s.live := by
    obtain old | rfl := mem_append.mp listed |>.imp_right mem_singleton.mp
    · exact old
    · exact member
  refine ⟨_, counted, ?_, ledger.next, fun other listed => ledger.ids other (either listed),
    fun other listed => ledger.recent other (either listed), ?_⟩
  · intro id
    rw [TxnMgr.refTxn_opened counted, countP_append, countP_singleton, ledger.counts, ledger.counts]
    split
    · next same =>
      rw [same, decide_eq_true rfl, ← ppred_eq_some.mp ((ledger.counts h.id).symm.trans found)]
      rfl
    · next different => rw [decide_eq_false fun same => different same.symm]; rfl

  · intro free waits
    refine ledger.awake ?_ waits
    rw [TxnMgr.refTxn_opened counted] at free
    split at free
    · next same => rw [same]; simpa using free
    · exact free

/-- The handle that is found by its id is one more of the transaction that has the id. -/
theorem get {mgr} (found : s.mgr.get id = some mgr) : Ledger { s with mgr, live := s.live ++ [⟨s.numberOf id, id⟩] } := by
  have stored : s.mgr.opened.get id ≠ none := by
    obtain ⟨refcnt, stored, _⟩ := map_eq_some_iff.mp found
    exact stored ▸ some_ne_none _
  cases first : s.live.find? (·.id = id) with
  | none =>
    refine absurd ((ledger.none_iff id).mpr ?_) stored
    intro h member
    simpa using find?_eq_none.mp first h member
  | some h =>
    obtain rfl : h.id = id := by simpa using find?_some first
    obtain ⟨mgr', counted, more⟩ := ledger.refTxn (mem_of_find?_eq_some first)
    cases (refTxn_of_get found).symm.trans counted
    rwa [numberOf, first]

theorem derefTxn {handle} (held : s.live[handle]? = some h) : ∃ next, s.step (.drop handle) = .ok next ∧ Ledger next := by
  obtain ⟨inside, rfl⟩ := List.getElem?_eq_some_iff.mp held
  obtain ⟨refcnt, found⟩ := ledger.some_of_mem (getElem_mem inside)
  obtain ⟨mgr, counted⟩ : ∃ mgr, s.mgr.derefTxn s.live[handle].id = .ok mgr := by
    cases refcnt <;> simp only [derefTxn, found] <;> exact ⟨_, rfl⟩
  have same : mgr.nextFree = s.mgr.nextFree := derefTxn_next counted
  have stays other (member : other ∈ s.live.eraseIdx handle) : other ∈ s.live := mem_of_mem_eraseIdx member
  simp only [Transactions.step, held, counted, ok_bind]
  refine ⟨_, rfl, ?_, same.trans ledger.next, fun other member => ledger.ids other (stays other member),
    fun other member => ledger.recent other (stays other member), ?_⟩
  · intro id
    have total := (getElem_cons_eraseIdx_perm inside).countP_eq (·.id = id)
    rw [countP_cons] at total
    rw [derefTxn_opened counted, ledger.counts, ledger.counts]
    split
    · next same =>
      subst same
      rw [← total, if_pos (decide_eq_true rfl)]
      rfl
    · next different =>
      rw [← total, if_neg (by simpa using fun same => different same.symm)]
      rfl
  · intro free waits
    dsimp only at free ⊢
    split
    · exact succ_pos _
    next quiet =>
    refine ledger.awake ?_ waits
    rw [same] at free quiet
    by_cases next : s.mgr.nextFree = s.live[handle].id
    · exact absurd ⟨next ▸ free, next⟩ quiet
    · rwa [derefTxn_opened counted, if_neg next] at free

theorem step (label : TxnStep) : ∃ next, s.step label = .ok next ∧ Ledger next := by
  cases label with
  | tryOpen =>
    refine ⟨_, rfl, ?_⟩
    cases opened : s.tryOpen with
    | none => exact ledger
    | some next => exact ledger.tryOpen opened
  | openRaw => exact ⟨_, rfl, ledger.openRaw⟩
  | resume waiter =>
    simp only [Transactions.step]
    split
    · exact ⟨_, rfl, (ledger.leaves waiter).openRaw⟩
    · exact ⟨s, rfl, ledger⟩
  | cancel waiter => exact ⟨_, rfl, ledger.leaves waiter⟩
  | get id =>
    simp only [Transactions.step]
    split
    · next mgr found => exact ⟨_, rfl, ledger.get found⟩
    · exact ⟨s, rfl, ledger⟩
  | clone handle =>
    cases held : s.live[handle]? with
    | none => exact ⟨s, by simp only [Transactions.step, held], ledger⟩
    | some h =>
      obtain ⟨mgr, counted, more⟩ := ledger.refTxn (mem_of_getElem? held)
      exact ⟨_, by simp only [Transactions.step, held, counted, ok_bind]; rfl, more⟩
  | drop handle =>
    cases held : s.live[handle]? with
    | none => exact ⟨s, by simp only [Transactions.step, held], ledger⟩
    | some h => exact ledger.derefTxn held
  | notifyWaiters =>
    refine ⟨_, rfl, ?_⟩
    split
    · exact ledger
    refine ⟨ledger.counts, ledger.next, ledger.ids, ledger.recent, fun _ waits => ?_⟩
    obtain ⟨_, _, impossible⟩ := List.mem_map.mp waits
    cases impossible

theorem exec (labels : List TxnStep) : ∃ final, Runs.exec Transactions.step s labels = .ok final ∧ Ledger final := by
  induction labels generalizing s with
  | nil => exact ⟨s, rfl, ledger⟩
  | cons label rest ih =>
    obtain ⟨next, stepped, ledger⟩ := ledger.step label
    obtain ⟨final, executed, reached⟩ := ih ledger
    exact ⟨final, by rw [Runs.exec, stepped, ok_bind, executed], reached⟩

theorem tryOpen_none_iff : s.mgr.tryOpen = none ↔ ∃ h ∈ s.live, h.number + 65536 = s.opens := by
  have used : s.mgr.tryOpen = none ↔ s.mgr.opened.get s.mgr.nextFree ≠ none := by
    unfold TxnMgr.tryOpen
    split <;> simp_all
  rw [used, ne_eq, ledger.none_iff]
  push Not
  constructor
  · rintro ⟨h, member, same⟩
    exact ⟨h, member, (ledger.next_iff member).mp same⟩
  · rintro ⟨h, member, same⟩
    exact ⟨h, member, (ledger.next_iff member).mpr same⟩

theorem all_open_iff (many : 65536 ≤ s.opens) :
    (∀ id, s.mgr.opened.get id ≠ none) ↔ ∀ back < 65536, ∃ h ∈ s.live, h.number + back + 1 = s.opens := by
  simp only [ne_eq, ledger.none_iff]
  push Not
  constructor
  · intro all back small
    obtain ⟨h, member, same⟩ := all (UInt16.ofNat (s.opens - 1 - back))
    refine ⟨h, member, ?_⟩
    rw [ledger.ids h member, ← UInt16.toNat_inj] at same
    simp only [UInt16.toNat_ofNat'] at same
    have := ledger.recent h member
    omega
  · intro all id
    have bound := id.toNat_lt
    obtain ⟨h, member, same⟩ := all ((s.opens - 1 - id.toNat) % 65536) (mod_lt _ (by decide))
    refine ⟨h, member, ?_⟩
    rw [ledger.ids h member, ← UInt16.toNat_inj]
    simp only [UInt16.toNat_ofNat']
    omega

/-- Transactions come and go while the first one stays open. -/
theorem exec_reopen (first : s.live = [⟨0, 0⟩]) {rounds} (fits : s.opens + rounds ≤ 65536) :
    ∃ final, Runs.exec Transactions.step s (replicate rounds [TxnStep.tryOpen, .drop 1]).flatten = .ok final ∧
      Ledger final ∧ final.live = [⟨0, 0⟩] ∧ final.opens = s.opens + rounds := by
  induction rounds generalizing s with
  | zero => exact ⟨s, rfl, ledger, first, rfl⟩
  | succ rounds ih =>
    obtain ⟨⟨id, mgr⟩, opened⟩ : ∃ found, s.mgr.tryOpen = some found := by
      rw [← ne_none_iff_exists', ne_eq, ledger.tryOpen_none_iff, first]
      simp only [mem_singleton, exists_eq_left]
      omega
    have more : s.tryOpen = some { s with mgr, opens := s.opens + 1, live := [⟨0, 0⟩, ⟨s.opens, id⟩] } := by
      rw [Transactions.tryOpen, opened, map_some, first]
      rfl
    obtain ⟨next, dropped, again⟩ := (ledger.tryOpen more).step (.drop 1)
    have left : next.live = [⟨0, 0⟩] ∧ next.opens = s.opens + 1 := by
      obtain ⟨_, _, same⟩ := bind_ok.mp dropped
      cases same
      exact ⟨rfl, rfl⟩
    obtain ⟨final, executed, reached, live, opens⟩ := ih again left.1 (by omega)
    refine ⟨final, ?_, reached, live, by omega⟩
    rw [replicate_succ, flatten_cons, cons_append, cons_append, nil_append, Runs.exec,
      Transactions.step, more, ok_bind, Runs.exec]
    exact (congrArg (· >>= _) dropped).trans executed

end

end Ledger

/-- Whatever the tasks do, nothing panics, the counts are those of the live handles, handles of
different transactions have different ids, and an id is opened only while no handle has it. -/
theorem handles_counted (labels : List TxnStep) : ∃ s, Runs.exec step new labels = .ok s ∧
    (∀ id, s.mgr.opened.get id = (s.live.countP (·.id = id)).ppred) ∧
    (∀ h ∈ s.live, ∀ other ∈ s.live, h.number ≠ other.number → h.id ≠ other.id) ∧
    (∀ id mgr, s.mgr.tryOpen = some (id, mgr) → ∀ h ∈ s.live, h.id ≠ id) ∧
    ∀ h ∈ s.live, Panic.Returns (s.mgr.refTxn h.id) ∧ Panic.Returns (s.mgr.derefTxn h.id) := by
  obtain ⟨s, executed, ledger⟩ := Ledger.initial.exec labels
  refine ⟨s, executed, ledger.counts, ?_, ?_, ?_⟩
  · intro h member other listed different same
    exact different (ledger.same_number member listed same)
  · intro id mgr opened
    exact (ledger.none_iff id).mp (tryOpen_opened opened).1
  intro h member
  obtain ⟨refcnt, found⟩ := ledger.some_of_mem member
  constructor
  · rw [refTxn, found]
    exact ⟨_, rfl⟩
  · cases refcnt <;> simp only [derefTxn, found] <;> exact ⟨_, rfl⟩

/-- A task that waits without a notification while the next id is free is notified by a drop
that is in progress. -/
theorem waiters_notified (labels : List TxnStep) : ∃ s, Runs.exec step new labels = .ok s ∧
    ∀ waiter : Nat, s.waiting[waiter]? = some false → s.mgr.opened.get s.mgr.nextFree = none →
      0 < s.notifying ∧ ∃ next, s.step .notifyWaiters = .ok next ∧ next.waiting[waiter]? = some true := by
  obtain ⟨s, executed, ledger⟩ := Ledger.initial.exec labels
  refine ⟨s, executed, ?_⟩
  intro waiter waits free
  have pending := ledger.awake free (mem_of_getElem? waits)
  refine ⟨pending, _, rfl, ?_⟩
  rw [if_neg (ne_of_gt pending), getElem?_map, waits]
  rfl

end Transactions
end ZprCore.Node
