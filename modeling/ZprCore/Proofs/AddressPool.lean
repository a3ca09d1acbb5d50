import ZprCore.Lib.Panic
import ZprCore.Lib.Runs
import ZprCore.Node.AddressPool

/-! The laws of the pool of AAA addresses. An address comes back if it has the mark of AAA addresses,
which it can only have from its network. -/

namespace ZprCore.Node
open Nat
open Datapath (IpAddress)
open Runs List AddressPool UInt8

theorem aaaId_aaaAddress (base : IpAddress) {id} (small : id < 2 ^ 40) : aaaId (aaaAddress base id) = id := by
  have top : (aaaAddress base id).upper[11] = ofNat (id / 2 ^ 32) := Vector.getElem_set_self _
  have first : (aaaAddress base id).lower[0] = ofNat (id / 2 ^ 24) := rfl
  have second : (aaaAddress base id).lower[1] = ofNat (id / 2 ^ 16) := rfl
  have third : (aaaAddress base id).lower[2] = ofNat (id / 2 ^ 8) := rfl
  have last : (aaaAddress base id).lower[3] = ofNat id := rfl
  rw [aaaId, top, first, second, third, last]
  simp only [toNat_ofNat']
  omega

theorem hasAaaMark_aaaAddress (base : IpAddress) (id : Nat) : hasAaaMark (aaaAddress base id) = hasAaaMark base := by
  simp [hasAaaMark, aaaAddress, Vector.getElem_set_ne]

/-- The bits of an address from the left. -/
def bitAt (address : IpAddress) (index : Nat) : Bool :=
  ((address.upper.toList ++ address.lower.toList)[index / 8]?.getD 0).toNat.testBit (7 - index % 8)

def Ipv6Net.Contains (net : Ipv6Net) (address : IpAddress) : Prop :=
  ∀ index < net.prefixLen, bitAt address index = bitAt net.addr index

theorem contains_aaaAddress {net : Ipv6Net} (short : net.prefixLen ≤ 88) (id : Nat) :
    net.Contains (aaaAddress net.addr id) := by
  intro index inside
  have before : index / 8 < 11 := by omega
  have same : (net.addr.upper.set 11 (ofNat (id / 2 ^ 32))).toList[index / 8]? = net.addr.upper.toList[index / 8]? := by
    rw [Vector.toList_set, getElem?_set_ne (ne_of_gt before)]
  rw [bitAt, bitAt, aaaAddress, getElem?_append_left (by rw [Vector.length_toList]; omega), same,
    getElem?_append_left (by rw [Vector.length_toList]; omega)]

namespace AddressPool
variable {pool next : AddressPool} {aaa : IpAddress}

theorem probe_some {active turns start found} (probed : probe active turns start = some found) (small : start < 2 ^ 40) :
    found ∉ active ∧ found < 2 ^ 40 := by
  induction turns generalizing start with
  | zero => cases probed
  | succ turns ih =>
    rw [probe] at probed
    split at probed
    · exact ih probed (lt_trans (mod_lt _ (by decide)) (by decide))
    next free =>
    cases probed
    exact ⟨free, small⟩

theorem getAaaAddress_some {random} (given : pool.getAaaAddress random = some (aaa, next)) :
    (∃ id < 2 ^ 40, aaa = aaaAddress pool.ipnet.addr id) ∧ aaaId aaa ∉ pool.active ∧
      next = { pool with active := insert (aaaId aaa) pool.active } := by
  obtain ⟨id, probed, same⟩ := Option.map_eq_some_iff.mp given
  cases same
  obtain ⟨free, small⟩ := probe_some probed (lt_of_le_of_lt and_le_right (by decide))
  rw [aaaId_aaaAddress _ small]
  exact ⟨⟨id, small, rfl⟩, free, rfl⟩

/-- An id below the modulus is come to in as many turns as it is away. -/
theorem probe_reaches {active distance start} (small : start < maxAaaId) (free : (start + distance) % maxAaaId ∉ active) :
    ∃ turns id, probe active turns start = some id := by
  induction distance generalizing start with
  | zero =>
    rw [Nat.add_zero, mod_eq_of_lt small] at free
    exact ⟨1, start, if_neg free⟩
  | succ distance ih =>
    by_cases taken : start ∈ active
    · have next : (start + 1) % 2 ^ 64 = start + 1 := mod_eq_of_lt (lt_trans (succ_lt_succ small) (by decide))
      rw [Nat.add_comm distance, ← Nat.add_assoc, ← mod_add_mod] at free
      obtain ⟨turns, id, found⟩ := ih (mod_lt _ (by decide)) free
      exact ⟨turns + 1, id, by rw [probe, if_pos taken, next, found]⟩
    · exact ⟨1, start, if_neg taken⟩

theorem probe_stuck {active} (full : ∀ id < maxAaaId, id ∈ active) {start} (taken : start ∈ active) (turns : Nat) :
    probe active turns start = none := by
  induction turns generalizing start with
  | zero => rfl
  | succ turns ih => rw [probe, if_pos taken, ih (full _ (mod_lt _ (by decide)))]

/-- The loop of `get_aaa_address` ends if its first id is free or one that it can step to: the
highest id is only ever drawn. -/
theorem allocation_ends_iff (pool : AddressPool) (random : UInt64) :
    (∃ turns id, probe pool.active turns (random.toNat &&& maxAaaId) = some id ∧ id < 2 ^ 40 ∧ id ∉ pool.active) ↔
      random.toNat &&& maxAaaId ∉ pool.active ∨ ∃ id < maxAaaId, id ∉ pool.active := by
  have small : random.toNat &&& maxAaaId < 2 ^ 40 := lt_of_le_of_lt and_le_right (by decide)
  constructor
  · rintro ⟨turns, id, probed, _⟩
    by_contra full
    simp only [not_or, Classical.not_not, not_exists, not_and] at full
    rw [probe_stuck full.2 full.1] at probed
    cases probed
  · intro free
    have ends : ∃ turns id, probe pool.active turns (random.toNat &&& maxAaaId) = some id := by
      by_cases taken : random.toNat &&& maxAaaId ∈ pool.active
      · obtain ⟨id, below, unused⟩ := free.resolve_left (not_not_intro taken)
        have first : ((random.toNat &&& maxAaaId) + 1) % 2 ^ 64 % maxAaaId < maxAaaId := mod_lt _ (by decide)
        obtain ⟨turns, found, probed⟩ := @probe_reaches pool.active (id + maxAaaId - _) _ first (by
          rw [Nat.add_sub_cancel' (le_trans first.le (le_add_left _ _)), add_mod_right, mod_eq_of_lt below]
          exact unused)
        exact ⟨turns + 1, found, by rw [probe, if_pos taken, probed]⟩
      · exact ⟨1, _, if_neg taken⟩
    obtain ⟨turns, id, probed⟩ := ends
    obtain ⟨unused, below⟩ := probe_some probed small
    exact ⟨turns, id, probed, below, unused⟩

/-- With the highest id alone free, another draw never ends. -/
theorem allocation_hangs : maxAaaId < 2 ^ 40 ∧ maxAaaId ∉ Finset.range maxAaaId ∧
    ∀ turns, probe (Finset.range maxAaaId) turns ((7 : UInt64).toNat &&& maxAaaId) = none := by
  refine ⟨by decide, Finset.notMem_range_self, probe_stuck (fun _ => Finset.mem_range.mpr) ?_⟩
  exact Finset.mem_range.mpr (by decide)

end AddressPool

/-- A pool, the addresses it has given and those that are out. -/
structure Tenancy where
  pool : AddressPool
  given : List IpAddress
  outstanding : List IpAddress

inductive Lease where
  | allocate (random : UInt64)
  | release (address : IpAddress)

namespace Tenancy

def step (t : Tenancy) : Lease → Except Panic Tenancy
  | .allocate random =>
    match t.pool.getAaaAddress random with
    | none => .ok t
    | some (aaa, pool) => .ok ⟨pool, aaa :: t.given, aaa :: t.outstanding⟩
  | .release address =>
    match t.pool.releaseAddress address with
    | (.ok (), pool) => .ok ⟨pool, t.given, t.outstanding.erase address⟩
    | (.error _, pool) => .ok { t with pool }

/-- Allocations return, and what is released was given. -/
def Permitted (t : Tenancy) : Lease → Prop
  | .allocate random => (t.pool.getAaaAddress random).isSome = true
  | .release address => address ∈ t.given

instance (t : Tenancy) (lease : Lease) : Decidable (t.Permitted lease) := by
  unfold Permitted
  split <;> infer_instance

/-- The pool takes an address back, and that address alone is free again. -/
def TakesBack (t : Tenancy) (net : Ipv6Net) (aaa : IpAddress) : Prop :=
  ∃ pool, t.pool.releaseAddress aaa = (.ok (), pool) ∧
    ∀ id < 2 ^ 40, id ∈ pool.active ↔ id ∈ t.pool.active ∧ aaaAddress net.addr id ≠ aaa

/-- The addresses of a network that are out are those the pool knows of. -/
structure Lawful (net : Ipv6Net) (t : Tenancy) : Prop where
  ipnet : t.pool.ipnet = net
  made : ∀ aaa ∈ t.given, ∃ id < 2 ^ 40, aaa = aaaAddress net.addr id
  given : t.outstanding ⊆ t.given
  distinct : t.outstanding.Nodup
  active : t.pool.active = (t.outstanding.map aaaId).toFinset

variable {net : Ipv6Net} {t next : Tenancy}

namespace Lawful
variable (lawful : Lawful net t)
include lawful

theorem aaaId_inj {one two} (first : one ∈ t.given) (second : two ∈ t.given) (same : aaaId one = aaaId two) : one = two := by
  obtain ⟨id, small, rfl⟩ := lawful.made one first
  obtain ⟨other, small', rfl⟩ := lawful.made two second
  rw [aaaId_aaaAddress _ small, aaaId_aaaAddress _ small'] at same
  rw [same]

theorem mem_active_iff {aaa} (given : aaa ∈ t.given) : aaaId aaa ∈ t.pool.active ↔ aaa ∈ t.outstanding := by
  rw [lawful.active, mem_toFinset, mem_map]
  constructor
  · intro ⟨other, member, same⟩
    exact lawful.aaaId_inj (lawful.given member) given same ▸ member
  · intro member
    exact ⟨aaa, member, rfl⟩

theorem erase_active {address} (given : address ∈ t.given) :
    t.pool.active.erase (aaaId address) = ((t.outstanding.erase address).map aaaId).toFinset := by
  ext id
  rw [lawful.active, Finset.mem_erase, mem_toFinset, mem_toFinset, mem_map, mem_map]
  constructor
  · rintro ⟨different, aaa, member, rfl⟩
    exact ⟨aaa, (mem_erase_of_ne fun same => different (congrArg aaaId same)).mpr member, rfl⟩
  rintro ⟨aaa, member, rfl⟩
  obtain ⟨different, member⟩ := lawful.distinct.mem_erase_iff.mp member
  exact ⟨fun same => different (lawful.aaaId_inj (lawful.given member) given same), aaa, member, rfl⟩

theorem step {lease} (permitted : t.Permitted lease) (stepped : t.step lease = .ok next) : Lawful net next := by
  cases lease with
  | allocate random =>
    obtain ⟨⟨aaa, pool⟩, found⟩ := Option.isSome_iff_exists.mp permitted
    obtain ⟨made, free, rfl⟩ := getAaaAddress_some found
    rw [lawful.ipnet] at made
    simp only [Tenancy.step, found] at stepped
    cases stepped
    have fresh : aaa ∉ t.outstanding := fun member => free ((lawful.mem_active_iff (lawful.given member)).mpr member)
    refine ⟨lawful.ipnet, ?_, cons_subset_cons _ lawful.given, lawful.distinct.cons fresh, ?_⟩
    · exact forall_mem_cons.mpr ⟨made, lawful.made⟩
    · rw [lawful.active, map_cons, toFinset_cons]
  | release address =>
    simp only [Tenancy.step, releaseAddress] at stepped
    split at stepped
    · next released =>
      cases stepped
      split at released
      · cases released
      cases released
      exact ⟨lawful.ipnet, lawful.made, fun _ member => lawful.given (mem_of_mem_erase member),
        lawful.distinct.erase address, lawful.erase_active permitted⟩
    · next released =>
      cases stepped
      split at released
      · cases released
        exact lawful
      · cases released

/-- An address comes back exactly if the network has the mark. -/
theorem releases_iff {aaa} (member : aaa ∈ t.outstanding) : t.TakesBack net aaa ↔ hasAaaMark net.addr = true := by
  obtain ⟨id, small, rfl⟩ := lawful.made aaa (lawful.given member)
  rw [TakesBack, releaseAddress, hasAaaMark_aaaAddress]
  cases hasAaaMark net.addr with
  | false => simp
  | true =>
    refine iff_of_true ⟨_, rfl, ?_⟩ rfl
    intro other small'
    rw [Finset.mem_erase, aaaId_aaaAddress _ small, and_comm]
    refine and_congr_right fun _ => not_congr ⟨fun same => same ▸ rfl, ?_⟩
    intro same
    rw [← aaaId_aaaAddress net.addr small', same, aaaId_aaaAddress _ small]

end Lawful

theorem laws_hold_iff {pool : AddressPool} (accepted : AddressPool.new net = .ok pool) {leases : List Lease} {final : Tenancy}
    (run : Run step Permitted ⟨pool, [], []⟩ leases final) :
    (∀ aaa ∈ final.given, net.Contains aaa) ∧ final.outstanding.Nodup ∧
      final.pool.active = (final.outstanding.map aaaId).toFinset ∧ final.pool.active.card = final.outstanding.length ∧
      ∀ aaa ∈ final.outstanding, final.TakesBack net aaa ↔ hasAaaMark net.addr = true := by
  rw [new] at accepted
  split at accepted
  · cases accepted
  next short =>
  cases accepted
  have lawful : Lawful net final := run.invariant (Lawful net) (fun _ _ _ permitted lawful => lawful.step permitted)
    ⟨rfl, nofun, List.Subset.refl _, nodup_nil, rfl⟩
  refine ⟨?_, lawful.distinct, lawful.active, ?_, fun aaa => lawful.releases_iff⟩
  · intro aaa member
    obtain ⟨id, _, rfl⟩ := lawful.made aaa member
    exact contains_aaaAddress (not_lt.mp short) id
  have apart : (final.outstanding.map aaaId).Nodup := by
    refine lawful.distinct.map_on fun one first two second => ?_
    exact lawful.aaaId_inj (lawful.given first) (lawful.given second)
  rw [lawful.active, toFinset_card_of_nodup apart, length_map]

/-- A network with the mark, and one without. -/
def markedNet : Ipv6Net := ⟨⟨#v[0xfd, 0x5a, 0x50, 0x52, 0, 0, 0x0a, 0xaa, 0, 0, 0, 0], .replicate 4 0⟩, 64⟩

def plainNet : Ipv6Net := ⟨⟨#v[0xfd, 0x5a, 0x50, 0x52, 0, 0, 0, 0, 0, 0, 0, 0], .replicate 4 0⟩, 32⟩

theorem laws_hold_sample : ∃ final, Run step Permitted ⟨⟨markedNet, ∅⟩, [], []⟩ [.allocate 7, .allocate 7] final ∧
    ∀ aaa ∈ final.outstanding, final.TakesBack markedNet aaa := by
  apply Run.exists_imp (fun _ => True)
  · decide +kernel
  · intro final run _ aaa member
    exact ((laws_hold_iff rfl run).2.2.2.2 aaa member).mpr rfl

/-- The pool takes a network of addresses that it refuses to take back. -/
theorem address_kept : AddressPool.new plainNet = .ok ⟨plainNet, ∅⟩ ∧
    ∃ final, Run step Permitted ⟨⟨plainNet, ∅⟩, [], []⟩ [.allocate 7, .release (aaaAddress plainNet.addr 7)] final ∧
      final.outstanding = [aaaAddress plainNet.addr 7] ∧
      (final.pool.releaseAddress (aaaAddress plainNet.addr 7)).1 = .error .invalidAddress := by
  refine ⟨rfl, Run.exists_of_execWhere ?_⟩
  decide +kernel

end Tenancy
end ZprCore.Node
