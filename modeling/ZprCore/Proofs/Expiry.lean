import ZprCore.Proofs.Revocation

/-! Expiry. The queue of timeouts keeps an entry for every visa that was ever entered, whatever has become of
the visa. Expiry is exact as long as no visa is entered with an expiration later than a timeout that is
still queued under its id. -/

namespace ZprCore.Node
open Datapath (IpAddress FiveTuple)
open Panic Runs List Option Function Timeouts VisaTable Assembly Nat

namespace Timeouts
variable {timeouts : Timeouts} {entry : VisaTimeout} {currentTime : Nat}

section
variable (timeouts : Timeouts)

/-- Every visa has its timeout. -/
def Timed : Prop :=
  ∀ id time, timeouts.expiry id = some time → ⟨id, time⟩ ∈ timeouts.queue.entries

/-- No timeout of a visa comes before its expiration. -/
def Current : Prop :=
  ∀ id time, timeouts.expiry id = some time → ∀ entry ∈ timeouts.queue.entries, entry.id = id → time ≤ entry.expiration

def enter (id : VisaId) (time : Nat) : Timeouts :=
  ⟨Function.update timeouts.expiry id (some time), timeouts.queue.push ⟨id, time⟩⟩

def revoke (ids : List VisaId) : Timeouts :=
  { timeouts with expiry := fun id => if id ∈ ids then none else timeouts.expiry id }

/-- The ids whose timeouts are over. -/
def overdue (currentTime : Nat) : List VisaId :=
  (timeouts.queue.popExpired currentTime).1.map VisaTimeout.id

def expire (currentTime : Nat) : Timeouts :=
  { timeouts.revoke (timeouts.overdue currentTime) with queue := (timeouts.queue.popExpired currentTime).2 }

/-- A timeout from earlier comes before the expiration of a new visa. -/
def Outlives (id : VisaId) (time : Nat) : Prop :=
  ∃ entry ∈ timeouts.queue.entries, entry.id = id ∧ entry.expiration < time

end

theorem mem_push {queue : TimeoutQueue} {new} :
    entry ∈ (queue.push new).entries ↔ entry = new ∨ entry ∈ queue.entries := mem_orderedInsert _

theorem mem_overdue {id} :
    id ∈ timeouts.overdue currentTime ↔ ∃ entry ∈ timeouts.queue.entries, entry.id = id ∧ entry.expiration < currentTime := by
  rw [overdue, List.mem_map]
  constructor
  · intro ⟨entry, popped, same⟩
    obtain ⟨queued, expired⟩ := TimeoutQueue.mem_popExpired.mp popped
    exact ⟨entry, queued, same, expired⟩
  · intro ⟨entry, queued, same, expired⟩
    exact ⟨entry, TimeoutQueue.mem_popExpired.mpr ⟨queued, expired⟩, same⟩

/-- What is popped and what stays is what was there. -/
theorem mem_expire (queued : entry ∈ timeouts.queue.entries) :
    entry.id ∈ timeouts.overdue currentTime ∨ entry ∈ (timeouts.expire currentTime).queue.entries := by
  have split := takeWhile_append_dropWhile (p := fun entry => decide (VisaTimeout.expiration entry < currentTime))
    (l := timeouts.queue.entries)
  rw [← split] at queued
  exact (mem_append.mp queued).imp_left List.mem_map_of_mem

theorem expire_subset (left : entry ∈ (timeouts.expire currentTime).queue.entries) : entry ∈ timeouts.queue.entries :=
  (dropWhile_sublist _).subset left

theorem revoke_expiry {ids id time} (kept : (timeouts.revoke ids).expiry id = some time) :
    id ∉ ids ∧ timeouts.expiry id = some time := by
  simp only [revoke] at kept
  split at kept
  · cases kept
  · next outside => exact ⟨outside, kept⟩

namespace Timed

variable (timed : timeouts.Timed)
include timed

theorem enter (id : VisaId) (time : Nat) : (timeouts.enter id time).Timed := by
  intro other expires found
  simp only [Timeouts.enter, update_apply] at found
  apply mem_push.mpr
  split at found
  · next same =>
    cases found
    subst same
    exact .inl rfl
  · exact .inr (timed other expires found)

theorem revoke (ids : List VisaId) : (timeouts.revoke ids).Timed := by
  intro id time found
  exact timed id time (revoke_expiry found).2

theorem expire (currentTime : Nat) : (timeouts.expire currentTime).Timed := by
  intro id time found
  obtain ⟨kept, stored⟩ := revoke_expiry found
  exact (mem_expire (timed id time stored)).resolve_left kept

end Timed

namespace Current

variable (current : timeouts.Current)
include current

theorem enter_iff (id : VisaId) (time : Nat) : (timeouts.enter id time).Current ↔ ¬ timeouts.Outlives id time := by
  constructor
  · intro current ⟨entry, queued, same, early⟩
    have late := current id time (update_self _ _ _) entry (mem_push.mpr (.inr queued)) same
    exact not_lt.mpr late early
  intro fresh other expires found entry queued same
  simp only [enter, update_apply] at found
  obtain rfl | old := mem_push.mp queued
  · split at found
    · cases found
      exact le_refl _
    · next different => exact absurd same.symm different
  · split at found
    · next here =>
      cases found
      apply not_lt.mp
      intro early
      exact fresh ⟨entry, old, same.trans here, early⟩
    · exact current other expires found entry old same

theorem revoke (ids : List VisaId) : (timeouts.revoke ids).Current := by
  intro id time found
  exact current id time (revoke_expiry found).2

theorem expire (currentTime : Nat) : (timeouts.expire currentTime).Current := by
  intro id time found entry queued
  exact current id time (revoke_expiry found).2 entry (expire_subset queued)

end Current

/-- Exactly the visas that are over are removed, at any time, if and only if no timeout comes early. -/
theorem exact_iff_current (timed : timeouts.Timed) :
    (∀ currentTime id, ((timeouts.expiry id).isSome = true ∧ (timeouts.expire currentTime).expiry id = none ↔
      ∃ time, timeouts.expiry id = some time ∧ time < currentTime)) ↔ timeouts.Current := by
  have removed currentTime id time (stored : timeouts.expiry id = some time) :
      (timeouts.expire currentTime).expiry id = none ↔ id ∈ timeouts.overdue currentTime := by
    simp only [expire, revoke]
    split
    · next inside => exact iff_of_true rfl inside
    · next outside => exact iff_of_false (by rw [stored]; nofun) outside
  constructor
  · intro exact id time stored entry queued same
    apply not_lt.mp
    intro early
    have gone := (removed time id time stored).mpr (mem_overdue.mpr ⟨entry, queued, same, early⟩)
    obtain ⟨expires, found, late⟩ := (exact time id).mp ⟨by rw [stored]; rfl, gone⟩
    cases stored.symm.trans found
    exact lt_irrefl _ late
  · intro current currentTime id
    constructor
    · intro ⟨present, gone⟩
      obtain ⟨time, stored⟩ := isSome_iff_exists.mp present
      obtain ⟨entry, queued, same, early⟩ := mem_overdue.mp ((removed currentTime id time stored).mp gone)
      exact ⟨time, stored, lt_of_le_of_lt (current id time stored entry queued same) early⟩
    · intro ⟨time, stored, early⟩
      refine ⟨by rw [stored]; rfl, (removed currentTime id time stored).mpr ?_⟩
      exact mem_overdue.mpr ⟨_, timed id time stored, rfl, early⟩

end Timeouts

namespace VisaTable
variable {visas next : VisaTable}

theorem insertVisa_timeouts {visa id} (entered : visas.insertVisa visa = .ok (id, next)) :
    next.timeouts = visas.timeouts.enter visa.issuerId visa.expires := by
  obtain ⟨dockPep, _, _, rfl⟩ := insertVisa_ok entered
  simp only [timeouts, Timeouts.enter, Timeouts.mk.injEq, and_true]
  funext other
  simp only [Table.get_insert, update_apply]
  split <;> rfl

end VisaTable

namespace Assembly
variable {asm next : Assembly}
variable {txnId : TxnId} {link : LinkId} {event : Event}

section
variable (asm : Assembly)

theorem removeRoutes_visaTable (routes : List ForwardingEntry) : (routes.foldl removeRoute asm).visaTable = asm.visaTable := by
  induction routes generalizing asm with
  | nil => rfl
  | cons route rest ih => exact ih (asm.removeRoute route)

theorem revokeNoRebuild_timeouts (id : VisaId) :
    (asm.revokeNoRebuild id).visaTable.timeouts = asm.visaTable.timeouts.revoke [id] := by
  simp only [revokeNoRebuild]
  split
  · next absent =>
    simp only [timeouts, Timeouts.revoke, Timeouts.mk.injEq, and_true]
    funext other
    split
    · next same => rw [mem_singleton.mp same, absent, map_none]
    · rfl
  · rw [removeRoutes_visaTable]
    simp only [timeouts, Timeouts.revoke, Timeouts.mk.injEq, and_true, mem_singleton]
    funext other
    rw [Table.get_erase]
    split <;> rfl

theorem revokeAll_timeouts (ids : List VisaId) :
    (ids.foldl revokeNoRebuild asm).visaTable.timeouts = asm.visaTable.timeouts.revoke ids := by
  induction ids generalizing asm with
  | nil => simp only [foldl_nil, Timeouts.revoke, not_mem_nil, if_false]
  | cons id rest ih =>
    rw [foldl_cons, ih, revokeNoRebuild_timeouts]
    simp only [Timeouts.revoke, Timeouts.mk.injEq, and_true, mem_cons, not_mem_nil, or_false]
    funext other
    by_cases later : other ∈ rest
    · rw [if_pos later, if_pos (.inr later)]
    rw [if_neg later]
    by_cases here : other = id
    · rw [if_pos here, if_pos (.inl here)]
    · rw [if_neg here, if_neg (not_or.mpr ⟨here, later⟩)]

theorem handleRevocation_timeouts (id : VisaId) :
    (asm.handleRevocation id).visaTable.timeouts = asm.visaTable.timeouts.revoke [id] := revokeNoRebuild_timeouts asm id

theorem handleExpirations_timeouts (currentTime : Nat) :
    (asm.handleExpirations currentTime).visaTable.timeouts = asm.visaTable.timeouts.expire currentTime :=
  revokeAll_timeouts _ _

theorem revokeForLink_timeouts (link : LinkId) :
    (asm.revokeForLink link).visaTable.timeouts = asm.visaTable.timeouts.revoke (asm.toRevoke link) := by
  simp only [revokeForLink]
  split
  · next none =>
    rw [List.isEmpty_iff.mp none]
    simp only [Timeouts.revoke, not_mem_nil, if_false]
  · exact revokeAll_timeouts _ _

theorem handleUnbindIndication_timeouts (link : LinkId) (streamId : StreamId) :
    (asm.handleUnbindIndication link streamId).visaTable.timeouts = asm.visaTable.timeouts := by
  have unbound : (asm.unbindStream link streamId).visaTable.timeouts = asm.visaTable.timeouts := by
    simp only [unbindStream]
    split
    · rfl
    · exact asm.visaTable.modify_timeouts _ fun _ => rfl
  simp only [handleUnbindIndication]
  split
  · rfl
  split
  · exact unbound
  · split
    · exact unbound
    · rfl
  · rfl
  · rfl

end

/-- The visa that an event enters into the table, if it leads to a peer. -/
def enters (asm : Assembly) (event : Event) : Option VsapiVisa :=
  (event.visa asm).filter fun visa => visa.dockPep.any fun dockPep =>
    (asm.findEgressLink (visa.fwdPep.getD dockPep.fiveTuple.dstAddress)).isSome

/-- What an event can do to the timeouts. -/
inductive TimeoutChange (asm : Assembly) : Event → Timeouts → Prop where
  | kept {event : Event} (enters : asm.enters event = none) : TimeoutChange asm event asm.visaTable.timeouts
  | entered {event : Event} {visa} (enters : asm.enters event = some visa) :
      TimeoutChange asm event (asm.visaTable.timeouts.enter visa.issuerId visa.expires)
  | revoked {event : Event} (enters : asm.enters event = none) (ids : List VisaId) :
      TimeoutChange asm event (asm.visaTable.timeouts.revoke ids)
  | expired (currentTime : Nat) : TimeoutChange asm (.expirations currentTime) (asm.visaTable.timeouts.expire currentTime)

theorem insertVisa_change {visa inserted} (brings : event.visa asm = some visa) {tasks}
    (returned : ({ asm with tasks } : Assembly).insertVisa visa = .ok (inserted, next)) :
    TimeoutChange asm event next.visaTable.timeouts := by
  simp only [insertVisa] at returned
  split at returned
  · cases returned
  split at returned
  · cases returned
  next dockPep carried =>
  have enters : asm.enters event =
      if (asm.findEgressLink (visa.fwdPep.getD dockPep.fiveTuple.dstAddress)).isNone then none else some visa := by
    rw [enters, brings, filter_some, carried, any_some, ← not_isNone]
    cases (asm.findEgressLink _).isNone with
    | false => rfl
    | true => rfl
  split at returned
  · next unreachable =>
    cases returned
    exact .kept (enters.trans (if_pos unreachable))
  next reachable =>
  obtain ⟨⟨id, visas⟩, entered, done⟩ := bind_ok.mp returned
  cases done
  rw [insertVisa_timeouts entered]
  exact .entered (enters.trans (if_neg reachable))

theorem step_timeouts {findMatch}
    (stepped : asm.step findMatch event = .ok next) : TimeoutChange asm event next.visaTable.timeouts := by
  have kept (brings : event.visa asm = none) (same : next.visaTable.timeouts = asm.visaTable.timeouts) :
      TimeoutChange asm event next.visaTable.timeouts := by
    rw [same]
    apply TimeoutChange.kept
    rw [enters, brings, filter_none]
  have revoked (ids : List VisaId) (brings : event.visa asm = none)
      (same : next.visaTable.timeouts = asm.visaTable.timeouts.revoke ids) :
      TimeoutChange asm event next.visaTable.timeouts := by
    rw [same]
    apply TimeoutChange.revoked
    rw [enters, brings, filter_none]
  cases step_turns stepped with
  | works _ brings _ _ progress => exact kept brings (by rw [progress.visas])
  | enters _ brings inserted _ progress =>
    rw [progress.visas]
    exact insertVisa_change brings inserted
  | answers steady => exact kept rfl steady.timeouts
  | unbinds link streamId => exact kept rfl (handleUnbindIndication_timeouts asm link streamId)
  | revokes id => exact revoked [id] rfl (handleRevocation_timeouts asm id)
  | expires currentTime =>
    rw [handleExpirations_timeouts]
    exact .expired currentTime
  | adds | moves => exact kept rfl rfl
  | @drops link _ dropped =>
    apply revoked (asm.toRevoke link) rfl
    rw [(remove_frame dropped).visas]
    exact revokeForLink_timeouts asm link

/-- Whenever expirations are handled, the visas that go are those whose expiration is over. -/
def ExpiresExactly (asm : Assembly) : Prop :=
  ∀ currentTime id, ((asm.visaTable.table.get id).isSome = true ∧
      (asm.handleExpirations currentTime).visaTable.table.get id = none ↔
    ∃ visa, asm.visaTable.table.get id = some visa ∧ visa.expires < currentTime)

/-- An event that enters a visa under an id with an earlier timeout. -/
def Outlives (asm : Assembly) (event : Event) : Prop :=
  ∃ visa, asm.enters event = some visa ∧ asm.visaTable.timeouts.Outlives visa.issuerId visa.expires

theorem expiresExactly_iff (timed : asm.visaTable.timeouts.Timed) :
    asm.ExpiresExactly ↔ asm.visaTable.timeouts.Current := by
  have after currentTime id : (asm.handleExpirations currentTime).visaTable.table.get id = none ↔
      (asm.visaTable.timeouts.expire currentTime).expiry id = none := by
    rw [← handleExpirations_timeouts]
    exact map_eq_none_iff.symm
  have before id : (asm.visaTable.table.get id).isSome = (asm.visaTable.timeouts.expiry id).isSome :=
    isSome_map.symm
  have gone currentTime id :
      (∃ visa, asm.visaTable.table.get id = some visa ∧ visa.expires < currentTime) ↔
      ∃ time, asm.visaTable.timeouts.expiry id = some time ∧ time < currentTime := by
    simp only [timeouts, map_eq_some_iff, exists_exists_and_eq_and]
  rw [← exact_iff_current timed, ExpiresExactly]
  simp only [after, before, gone]

theorem TimeoutChange.timed {timeouts} (change : TimeoutChange asm event timeouts) (timed : asm.visaTable.timeouts.Timed) :
    timeouts.Timed := by
  cases change with
  | kept enters => exact timed
  | entered enters => exact timed.enter _ _
  | revoked enters ids => exact timed.revoke ids
  | expired currentTime => exact timed.expire currentTime

theorem TimeoutChange.current_iff {timeouts} (change : TimeoutChange asm event timeouts)
    (current : asm.visaTable.timeouts.Current) : timeouts.Current ↔ ¬ asm.Outlives event := by
  have harmless (enters : asm.enters event = none) : ¬ asm.Outlives event := by
    intro ⟨visa, entering, _⟩
    cases enters.symm.trans entering
  cases change with
  | kept enters => exact iff_of_true current (harmless enters)
  | entered enters =>
    rw [current.enter_iff]
    apply not_congr
    constructor
    · intro early
      exact ⟨_, enters, early⟩
    intro ⟨visa, entering, early⟩
    cases enters.symm.trans entering
    exact early
  | revoked enters ids => exact iff_of_true (current.revoke ids) (harmless enters)
  | expired currentTime => exact iff_of_true (current.expire currentTime) (harmless rfl)

theorem start_timeouts (addrs : List IpAddress) {nodeAddr vsAddr} {vsPort expires visas}
    (created : newWithVsVisas nodeAddr vsAddr vsPort expires = .ok visas) :
    (start addrs visas).visaTable.timeouts.Timed ∧ (start addrs visas).visaTable.timeouts.Current := by
  obtain ⟨⟨_, one⟩, first, rest⟩ := bind_ok.mp created
  obtain ⟨⟨_, two⟩, second, done⟩ := bind_ok.mp rest
  cases done
  have entered : two.timeouts = _ := insertVisa_timeouts second
  rw [insertVisa_timeouts first] at entered
  have timed : new.timeouts.Timed := nofun
  have current : new.timeouts.Current := nofun
  show two.timeouts.Timed ∧ two.timeouts.Current
  rw [entered]
  refine ⟨(timed.enter _ _).enter _ _, (((current.enter_iff _ _).mpr ?_).enter_iff _ _).mpr ?_⟩
  · intro ⟨entry, queued, _⟩
    cases queued
  intro ⟨entry, queued, _, early⟩
  obtain rfl | old := mem_push.mp queued
  · exact lt_irrefl _ early
  · cases old

/-- Whatever a node goes through, expiry is exact in each of its states if and only if no
event enters a visa that an earlier timeout of its id would end too soon. -/
theorem expires_exactly_iff {findMatch : List (VisaId × FiveTuple) → FiveTuple → Option VisaId} {addrs : List IpAddress}
    {nodeAddr vsAddr : IpAddress} {vsPort : UInt16} {expires : Nat} {visas : VisaTable}
    (created : VisaTable.newWithVsVisas nodeAddr vsAddr vsPort expires = .ok visas)
    {past : List (Assembly × Event)} {final : Assembly}
    (trace : Trace (Assembly.step findMatch) (fun _ _ => True) (start addrs visas) past final) :
    (final.ExpiresExactly ∧ ∀ moment ∈ past, moment.1.ExpiresExactly) ↔
      ∀ moment ∈ past, ¬ moment.1.Outlives moment.2 := by
  have kept : final.visaTable.timeouts.Timed ∧ ((final.ExpiresExactly ∧ ∀ moment ∈ past, moment.1.ExpiresExactly) ↔
      ∀ moment ∈ past, ¬ moment.1.Outlives moment.2) := by
    refine trace.invariant (fun past final => final.visaTable.timeouts.Timed ∧ ((final.ExpiresExactly ∧
      ∀ moment ∈ past, moment.1.ExpiresExactly) ↔ ∀ moment ∈ past, ¬ moment.1.Outlives moment.2)) ?_ ?_
    · intro past asm event next _ ⟨timed, kept⟩ stepped
      have change := step_timeouts stepped
      have timed' := change.timed timed
      refine ⟨timed', ?_⟩
      rw [forall_mem_cons, forall_mem_cons, ← kept, expiresExactly_iff timed']
      apply and_congr_left
      intro ⟨exact, _⟩
      exact change.current_iff ((expiresExactly_iff timed).mp exact)
    · obtain ⟨timed, current⟩ := start_timeouts addrs created
      exact ⟨timed, iff_of_true ⟨(expiresExactly_iff timed).mpr current, nofun⟩ nofun⟩
  exact kept.2

end Assembly

namespace Sample

def visaUntil (expires : Nat) : VsapiVisa := { visa 1000 80 with expires }

/-- A visa is granted, revoked and, with the same expiration, granted again. -/
def restored : List Event := adapters ++ [.visaGrant (visaUntil 20), .visaRevocation 1000, .visaGrant (visaUntil 20)]

/-- A visa is renewed before it expires. -/
def renewed : List Event := adapters ++ [.visaGrant (visaUntil 10), .visaGrant (visaUntil 20)]

theorem restored_expires_exactly : ∃ past final,
    Trace (Assembly.step firstMatch) (fun _ _ => True) node past final ∧ past.map (·.2) = restored.reverse ∧
    ((final.ExpiresExactly ∧ ∀ moment ∈ past, moment.1.ExpiresExactly) ↔
      ∀ moment ∈ past, ¬ moment.1.Outlives moment.2) := by
  have trace := Trace.of_record .nil
    (rfl : record (step firstMatch) (fun _ _ => True) [] node restored = some _)
  exact ⟨_, _, trace, rfl, expires_exactly_iff ownVisas_created trace⟩

/-- Renewed until 20, the visa is gone at 15. -/
theorem renewal_expires_early : ∃ past final,
    Trace (Assembly.step firstMatch) (fun _ _ => True) node past final ∧ past.map (·.2) = renewed.reverse ∧
    (final.visaTable.table.get 1000).map Visa.expires = some 20 ∧
    (final.handleExpirations 15).visaTable.table.get 1000 = none := by
  have trace := Trace.of_record .nil
    (rfl : record (step firstMatch) (fun _ _ => True) [] node renewed = some _)
  exact ⟨_, _, trace, rfl, rfl, rfl⟩

end Sample
end ZprCore.Node
