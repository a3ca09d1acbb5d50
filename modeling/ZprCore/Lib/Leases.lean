import Mathlib

/-! Items that are leased to holders. The lessor only remembers the identities of the items that
are out. -/

structure Leases (κ α ι : Type) where
  held : κ → Option α
  active : Set ι

namespace Leases
open Function
variable {κ α ι : Type} (ident : α → ι)

section
variable (leases : Leases κ α ι)

/-- No two holders have items of one identity. -/
def Exclusive : Prop :=
  ∀ one two item other, leases.held one = some item → leases.held two = some other → ident item = ident other → one = two

/-- The items that are out are those that are held. -/
def Exact : Prop :=
  ∀ id, id ∈ leases.active ↔ ∃ holder item, leases.held holder = some item ∧ ident item = id

/-- A lessor that does not know of any item. -/
def renew : Leases κ α ι := { leases with active := ∅ }

end

theorem renew_exact_iff {leases : Leases κ α ι} : leases.renew.Exact ident ↔ ∀ holder, leases.held holder = none := by
  constructor
  · intro exact holder
    cases held : leases.held holder with
    | none => rfl
    | some item => exact ((exact (ident item)).mpr ⟨holder, item, held, rfl⟩).elim
  · intro vacant id
    refine iff_of_false (Set.notMem_empty id) ?_
    intro ⟨holder, item, held, _⟩
    cases (vacant holder).symm.trans held

section
variable [DecidableEq κ]

section
variable (leases : Leases κ α ι) (holder : κ)

def lease (item : α) : Leases κ α ι :=
  ⟨Function.update leases.held holder (some item), insert (ident item) leases.active⟩

/-- A holder gives up what it holds. -/
def lose : Leases κ α ι :=
  { leases with held := Function.update leases.held holder none }

/-- The lessor takes an item back. -/
def release (item : α) : Leases κ α ι :=
  { leases.lose holder with active := leases.active \ {ident item} }

end

variable {ident} {leases : Leases κ α ι} {holder : κ} {item : α}

theorem lose_held {other found} (held : (leases.lose holder).held other = some found) :
    other ≠ holder ∧ leases.held other = some found := by
  simp only [lose, update_apply] at held
  split at held
  · cases held
  · next different => exact ⟨different, held⟩

section
variable (exclusive : leases.Exclusive ident) (exact : leases.Exact ident)
include exclusive exact

omit exact in
theorem Exclusive.lose (holder : κ) : (leases.lose holder).Exclusive ident := by
  intro one two item other first second same
  exact exclusive one two item other (lose_held first).2 (lose_held second).2 same

theorem Exclusive.lease (fresh : ident item ∉ leases.active) : (leases.lease ident holder item).Exclusive ident := by
  have unheld {other} {found} (held : leases.held other = some found) : ident found ≠ ident item := by
    intro same
    exact fresh ((exact _).mpr ⟨other, found, held, same⟩)
  intro one two first second heldFirst heldSecond same
  simp only [Leases.lease, update_apply] at heldFirst heldSecond
  split at heldFirst
  · next here =>
    cases heldFirst
    split at heldSecond
    · next there => exact here.trans there.symm
    · exact absurd same.symm (unheld heldSecond)
  · split at heldSecond
    · cases heldSecond
      exact absurd same (unheld heldFirst)
    · exact exclusive one two first second heldFirst heldSecond same

omit exclusive in
theorem Exact.lease (vacant : leases.held holder = none) : (leases.lease ident holder item).Exact ident := by
  intro id
  simp only [Leases.lease, Set.mem_insert_iff, exact id, update_apply]
  constructor
  · rintro (rfl | ⟨other, found, held, same⟩)
    · exact ⟨holder, item, if_pos rfl, rfl⟩
    have different : other ≠ holder := by
      rintro rfl
      cases vacant.symm.trans held
    exact ⟨other, found, (if_neg different).trans held, same⟩
  · intro ⟨other, found, held, same⟩
    split at held
    · cases held
      exact .inl same.symm
    · exact .inr ⟨other, found, held, same⟩

theorem Exact.release (held : leases.held holder = some item) : (leases.release ident holder item).Exact ident := by
  intro id
  constructor
  · intro ⟨active, different⟩
    obtain ⟨other, found, holds, same⟩ := (exact id).mp active
    have elsewhere : other ≠ holder := by
      rintro rfl
      cases held.symm.trans holds
      exact different same.symm
    exact ⟨other, found, (update_of_ne elsewhere _ _).trans holds, same⟩
  · intro ⟨other, found, remains, same⟩
    obtain ⟨elsewhere, holds⟩ := lose_held remains
    refine ⟨(exact id).mpr ⟨other, found, holds, same⟩, ?_⟩
    intro back
    exact elsewhere (exclusive other holder found item holds held (same.trans back))

/-- Nothing is lost without being missed. -/
theorem Exact.lose_iff : (leases.lose holder).Exact ident ↔ leases.held holder = none := by
  constructor
  · intro still
    cases held : leases.held holder with
    | none => rfl
    | some item =>
      obtain ⟨other, found, remains, same⟩ := (still (ident item)).mp ((exact _).mpr ⟨holder, item, held, rfl⟩)
      obtain ⟨elsewhere, holds⟩ := lose_held remains
      exact absurd (exclusive other holder found item holds held same) elsewhere
  · intro vacant
    have same : leases.lose holder = leases := by
      rw [lose, ← vacant, update_eq_self]
    rwa [same]

end

end
end Leases
