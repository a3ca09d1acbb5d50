import Mathlib

/-! Slots that hold owned values, and owners that list the slots they hold. The lists are
kept beside the slots rather than computed from them, so the two can drift apart. -/

set_option linter.unusedSectionVars false

structure BackRefs (κ α ω : Type) where
  slot : κ → Option α
  refs : ω → Option (List κ)

namespace BackRefs
open List Option Function BackRefs
variable {κ α ω : Type}
variable {items : List κ} {key slot : κ} {index : BackRefs κ α ω} {owner other holder : ω} {value : α}

/-- Removes an element in constant time: the last one takes its place. -/
def swapRemove (items : List κ) (index : Nat) : List κ :=
  match items.getLast? with
  | some last => (items.set index last).dropLast
  | none => items

theorem swapRemove_perm {index} (inside : index < items.length) :
    (swapRemove items index).Perm (items.eraseIdx index) := by
  obtain ⟨front, last, rfl⟩ : ∃ front last, items = front ++ [last] := by
    have nonempty : items ≠ [] := by intro empty; simp [empty] at inside
    exact ⟨items.dropLast, items.getLast nonempty, (dropLast_append_getLast nonempty).symm⟩
  simp only [swapRemove, getLast?_concat]
  rw [length_append, length_singleton] at inside
  by_cases before : index < front.length
  · rw [set_append_left _ _ before, dropLast_concat, eraseIdx_append_of_lt_length before]
    have split := set_eq_take_append_cons_drop (l := front) (i := index) (a := last)
    rw [if_pos before] at split
    rw [split, eraseIdx_eq_take_drop_succ, append_assoc]
    exact List.Perm.append_left _ (perm_append_singleton last _).symm
  · have atEnd : index = front.length := by omega
    subst atEnd
    rw [set_append_right _ _ (Nat.le_refl _), Nat.sub_self, eraseIdx_append_of_length_le (Nat.le_refl _),
      Nat.sub_self]
    simp

variable [DecidableEq κ] [DecidableEq ω]

/-- Removes the first occurrence of a key. -/
def without (items : List κ) (key : κ) : List κ :=
  match items.idxOf? key with
  | some index => swapRemove items index
  | none => items

section
variable (index : BackRefs κ α ω)

def put (key : κ) (value : α) : BackRefs κ α ω :=
  { index with slot := Function.update index.slot key (some value) }

def freeWhere (dead : κ → Prop) [DecidablePred dead] : BackRefs κ α ω :=
  { index with slot := fun key => if dead key then none else index.slot key }

variable (owner : ω)

/-- Gives an owner an empty list, whatever it had before. -/
def renew : BackRefs κ α ω :=
  { index with refs := Function.update index.refs owner (some []) }

def link (key : κ) : BackRefs κ α ω :=
  { index with refs := Function.update index.refs owner ((index.refs owner).map (· ++ [key])) }

def unlink (key : κ) : BackRefs κ α ω :=
  { index with refs := Function.update index.refs owner ((index.refs owner).map (without · key)) }

/-- The owner lists the slot. -/
def Lists (key : κ) : Prop :=
  ∃ items, index.refs owner = some items ∧ key ∈ items

/-- Forgets an owner and frees every slot it lists. -/
def revoke : BackRefs κ α ω where
  slot key := if key ∈ (index.refs owner).getD [] then none else index.slot key
  refs := Function.update index.refs owner none

end

theorem without_perm (items : List κ) (key : κ) : (without items key).Perm (items.erase key) := by
  unfold without
  rw [erase_eq_eraseIdx]
  cases found : items.idxOf? key with
  | none => exact .refl _
  | some index =>
    have inside : index < items.length := by
      have place := findIdx?_eq_some_iff_getElem.mp found
      exact place.1
    exact swapRemove_perm inside

theorem mem_without {other} (different : other ≠ key) : other ∈ without items key ↔ other ∈ items := by
  rw [(without_perm items key).mem_iff, mem_erase_of_ne different]

theorem mem_of_mem_without {other} (listed : other ∈ without items key) : other ∈ items :=
  mem_of_mem_erase ((without_perm items key).mem_iff.mp listed)

theorem lists_renew : (index.renew owner).Lists other key ↔ other ≠ owner ∧ index.Lists other key := by
  simp only [Lists, renew, update_apply]
  by_cases same : other = owner <;> simp [same]

theorem lists_link :
    (index.link owner key).Lists other slot ↔
      index.Lists other slot ∨ other = owner ∧ slot = key ∧ (index.refs owner).isSome := by
  simp only [Lists, link, update_apply]
  by_cases same : other = owner
  · subst same
    cases index.refs other <;> simp
  · simp [same]

theorem lists_of_unlink (listed : (index.unlink owner key).Lists other slot) : index.Lists other slot := by
  obtain ⟨items, found, inside⟩ := listed
  simp only [unlink, update_apply] at found
  split at found
  · next same =>
    obtain ⟨before, stored, rfl⟩ := map_eq_some_iff.mp found
    exact ⟨before, same ▸ stored, mem_of_mem_without inside⟩
  · exact ⟨items, found, inside⟩

theorem lists_unlink (kept : other ≠ owner ∨ slot ≠ key) (listed : index.Lists other slot) :
    (index.unlink owner key).Lists other slot := by
  obtain ⟨items, found, inside⟩ := listed
  by_cases same : other = owner
  · subst same
    have different := kept.resolve_left fun no => no rfl
    refine ⟨without items key, ?_, (mem_without different).mpr inside⟩
    simp [unlink, found]
  · exact ⟨items, by simpa [unlink, same] using found, inside⟩

theorem lists_revoke : (index.revoke owner).Lists other key ↔ other ≠ owner ∧ index.Lists other key := by
  simp only [Lists, revoke, update_apply]
  by_cases same : other = owner <;> simp [same]

theorem slot_revoke :
    (index.revoke owner).slot key = some value ↔ index.slot key = some value ∧ ¬ index.Lists owner key := by
  simp only [revoke, Lists]
  cases index.refs owner <;> simp [and_comm]

theorem revoke_absent (absent : index.refs owner = none) : index.revoke owner = index := by
  have same : update index.refs owner none = index.refs := by rw [← absent, update_eq_self]
  simp only [revoke, absent, getD_none, not_mem_nil, if_false, same]

theorem lists_revokeAll {owners : List ω} :
    (owners.foldl revoke index).Lists owner key ↔ owner ∉ owners ∧ index.Lists owner key := by
  induction owners generalizing index with
  | nil => simp
  | cons first rest ih =>
    rw [foldl_cons, ih, lists_revoke, mem_cons, not_or]
    tauto

theorem slot_revokeAll {index} {owners : List ω} {key : κ} {value : α} :
    (owners.foldl revoke index).slot key = some value ↔
      index.slot key = some value ∧ ∀ owner ∈ owners, ¬ index.Lists owner key := by
  induction owners generalizing index with
  | nil => simp
  | cons first rest ih =>
    rw [foldl_cons, ih, slot_revoke]
    simp only [lists_revoke, forall_mem_cons]
    constructor
    · intro ⟨⟨held, unlisted⟩, others⟩
      exact ⟨held, unlisted, fun owner later listed =>
        others owner later ⟨fun same => unlisted (same ▸ listed), listed⟩⟩
    · intro ⟨held, unlisted, others⟩
      exact ⟨⟨held, unlisted⟩, fun owner later both => others owner later both.2⟩

section
variable (owner : α → ω)

/-- Every value is listed by its owner. -/
def Complete (index : BackRefs κ α ω) : Prop :=
  ∀ key value, index.slot key = some value → index.Lists (owner value) key

/-- Every listed slot holds a value of the owner that lists it, once. -/
structure Precise (index : BackRefs κ α ω) : Prop where
  once : ∀ holder items, index.refs holder = some items → items.Nodup
  owned : ∀ holder key, index.Lists holder key → ∃ value, index.slot key = some value ∧ owner value = holder

end

variable {owner : α → ω} {index : BackRefs κ α ω}

section
variable (complete : index.Complete owner)
include complete

theorem Complete.link (holder : ω) (key : κ) : (index.link holder key).Complete owner := by
  intro slot value held
  exact lists_link.mpr (.inl (complete slot value held))

theorem Complete.put (listed : index.Lists (owner value) key) : (index.put key value).Complete owner := by
  intro slot other held
  simp only [BackRefs.put, update_apply] at held
  split at held
  · next same =>
    cases held
    exact same ▸ listed
  · exact complete slot other held

omit complete in
/-- An owner may start over only while nothing it owns is in place. -/
theorem complete_renew : (index.renew holder).Complete owner ↔
    ∀ key value, index.slot key = some value → owner value ≠ holder ∧ index.Lists (owner value) key := by
  constructor
  · intro complete key value held
    exact lists_renew.mp (complete key value held)
  · intro unused key value held
    exact lists_renew.mpr (unused key value held)

theorem Complete.freeWhere (dead : κ → Prop) [DecidablePred dead] : (index.freeWhere dead).Complete owner := by
  intro key value held
  simp only [BackRefs.freeWhere] at held
  split at held
  · cases held
  · exact complete key value held

theorem Complete.unlink (unused : ∀ value, index.slot key = some value → owner value ≠ holder) :
    (index.unlink holder key).Complete owner := by
  intro slot value held
  refine lists_unlink ?_ (complete slot value held)
  by_cases same : slot = key
  · exact .inl (unused value (same ▸ held))
  · exact .inr same

theorem Complete.revoke (holder : ω) : (index.revoke holder).Complete owner := by
  intro key value held
  obtain ⟨before, unlisted⟩ := slot_revoke.mp held
  have listed := complete key value before
  refine lists_revoke.mpr ⟨?_, listed⟩
  intro same
  exact unlisted (same ▸ listed)

theorem Complete.revokeAll (holders : List ω) : (holders.foldl BackRefs.revoke index).Complete owner := by
  induction holders generalizing index with
  | nil => exact complete
  | cons holder rest ih => exact ih (complete.revoke holder)

end

section
variable (precise : index.Precise owner)
include precise

theorem Precise.unlisted (vacant : index.slot key = none) (holder : ω) : ¬ index.Lists holder key := by
  intro listed
  obtain ⟨value, held, _⟩ := precise.owned holder key listed
  rw [vacant] at held
  cases held

/-- Filling a vacant slot right after linking it. -/
theorem Precise.put_link (vacant : index.slot key = none) (value : α) :
    ((index.link (owner value) key).put key value).Precise owner := by
  constructor
  · intro holder items found
    simp only [put, link, update_apply] at found
    split at found
    · obtain ⟨before, stored, rfl⟩ := map_eq_some_iff.mp found
      have unlisted : key ∉ before := fun inside => precise.unlisted vacant _ ⟨before, stored, inside⟩
      exact nodup_append.mpr ⟨precise.once _ _ stored, by simp, by
        intro one first two second same
        rw [mem_singleton] at second
        exact unlisted (second ▸ same ▸ first)⟩
    · exact precise.once _ _ found
  · intro holder slot listed
    simp only [put, update_apply]
    rcases lists_link.mp listed with before | ⟨rfl, rfl, _⟩
    · have different : slot ≠ key := by
        intro same
        exact precise.unlisted vacant holder (same ▸ before)
      rw [if_neg different]
      exact precise.owned holder slot before
    · exact ⟨value, by simp, rfl⟩

theorem Precise.renew (holder : ω) : (index.renew holder).Precise owner := by
  constructor
  · intro other items found
    simp only [BackRefs.renew, update_apply] at found
    split at found
    · cases found
      exact nodup_nil
    · exact precise.once _ _ found
  · intro other key listed
    exact precise.owned other key (lists_renew.mp listed).2

theorem Precise.freeWhere (dead : κ → Prop) [DecidablePred dead] (unlisted : ∀ holder key, index.Lists holder key → ¬ dead key) :
    (index.freeWhere dead).Precise owner := by
  constructor
  · exact precise.once
  intro holder key listed
  simp only [BackRefs.freeWhere]
  rw [if_neg (unlisted holder key listed)]
  exact precise.owned holder key listed

theorem Precise.unlink (holder : ω) (key : κ) : (index.unlink holder key).Precise owner := by
  constructor
  · intro other items found
    simp only [BackRefs.unlink, update_apply] at found
    split at found
    · obtain ⟨before, stored, rfl⟩ := map_eq_some_iff.mp found
      exact (without_perm before key).nodup_iff.mpr ((precise.once _ _ stored).erase key)
    · exact precise.once _ _ found
  · intro other slot listed
    exact precise.owned other slot (lists_of_unlink listed)

theorem Precise.unlinked (holder : ω) (key : κ) : ¬ (index.unlink holder key).Lists holder key := by
  rintro ⟨items, found, inside⟩
  simp only [BackRefs.unlink, update_self] at found
  obtain ⟨before, stored, rfl⟩ := map_eq_some_iff.mp found
  exact (precise.once _ _ stored).not_mem_erase ((without_perm before key).mem_iff.mp inside)

/-- Nothing but the owner's own values goes. -/
theorem Precise.revoke_slot (held : index.slot key = some value) (other : owner value ≠ holder) :
    (index.revoke holder).slot key = some value := by
  refine slot_revoke.mpr ⟨held, ?_⟩
  intro listed
  obtain ⟨found, same, owned⟩ := precise.owned holder key listed
  rw [held] at same
  cases same
  exact other owned

theorem Precise.revoke (holder : ω) : (index.revoke holder).Precise owner := by
  constructor
  · intro other items found
    simp only [BackRefs.revoke, update_apply] at found
    split at found
    · cases found
    · exact precise.once _ _ found
  · intro other key listed
    obtain ⟨different, before⟩ := lists_revoke.mp listed
    obtain ⟨value, held, owned⟩ := precise.owned other key before
    exact ⟨value, precise.revoke_slot held (owned ▸ different), owned⟩

theorem Precise.revokeAll (holders : List ω) : (holders.foldl BackRefs.revoke index).Precise owner := by
  induction holders generalizing index with
  | nil => exact precise
  | cons holder rest ih => exact ih (precise.revoke holder)

end

end BackRefs
