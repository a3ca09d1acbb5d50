import Mathlib

/-! Partial operations of checked machine code. A computation either returns or
stops with a panic; nothing is observable after a panic. -/

/-- Why a computation stopped: a failed assertion or an explicit panic, checked
arithmetic that left its type, or an index outside a buffer. -/
inductive Panic where
  | assertion (text : String)
  | overflow
  | bounds
  deriving DecidableEq, Repr

namespace Panic
variable {x : Except ε α} {f : α → Except ε β} {problem : ε} {text : String} {value : α}

/-- An assertion returns nothing when it holds. -/
def check (condition : Bool) (text : String) : Except Panic Unit :=
  if condition then .ok () else .error (.assertion text)

/-- Checked negation of a signed 64-bit value. -/
def neg64 (value : Int) : Except Panic Int :=
  if value = -2 ^ 63 then .error .overflow else .ok (-value)

/-- Indexing into a sequence. -/
def get (items : List α) (index : Nat) : Except Panic α :=
  match items[index]? with
  | some item => .ok item
  | none => .error .bounds

/-- Why a computation stopped, if it did. -/
def reason : Except ε α → Option ε
  | .ok _ => none
  | .error problem => some problem

theorem of_reason (stopped : reason x = some problem) : x = .error problem := by
  cases x with
  | ok value => cases stopped
  | error reason =>
    cases stopped
    rfl

theorem bind_ok {b} : (x >>= f) = .ok b ↔ ∃ a, x = .ok a ∧ f a = .ok b := by
  cases x with
  | error e | ok a => simp [bind, Except.bind]

theorem ok_bind (a : α) (f : α → Except ε β) : ((Except.ok a : Except ε α) >>= f) = f a := rfl

theorem check_ok {condition u} : check condition text = .ok u ↔ condition = true := by
  unfold check
  split <;> simp_all

theorem check_bind {holds : Prop} [Decidable holds] {f : Unit → Except Panic β} (proof : holds) :
    (check (decide holds) text >>= f) = f () := by
  rw [check, if_pos (decide_eq_true proof), ok_bind]

theorem neg64_ok {value result} : neg64 value = .ok result → result = -value := by
  unfold neg64
  split
  · intro impossible; cases impossible
  · intro same; cases same; rfl

theorem neg64_returns {value} (other : value ≠ -2 ^ 63) : neg64 value = .ok (-value) := if_neg other

theorem neg64_back {n : Nat} (small : n < 2 ^ 63) : neg64 (-(n : Int)) = .ok (n : Int) := by
  rw [neg64_returns (by omega), Int.neg_neg]

theorem lt_length {items : List α} {index : Nat} {item : α} (found : items[index]? = some item) : index < items.length :=
  (List.getElem?_eq_some_iff.mp found).1

theorem get_ok {items : List α} {index : Nat} {item : α} :
    get items index = .ok item ↔ items[index]? = some item := by
  unfold get
  split <;> simp_all

/-- A computation returns. -/
def Returns (x : Except ε α) : Prop := ∃ value, x = .ok value

theorem returns_ok (value : α) : Returns (.ok value : Except ε α) := ⟨value, rfl⟩

theorem not_returns_error : ¬ Returns (.error problem : Except ε α) := by
  rintro ⟨value, same⟩
  cases same

theorem returns_bind : Returns (x >>= f) ↔ ∃ value, x = .ok value ∧ Returns (f value) := by
  cases x with
  | error problem => exact iff_of_false not_returns_error (by simp)
  | ok value => simp [ok_bind]

/-- What comes after a computation that returns may always return. -/
theorem returns_bind_iff (later : ∀ value, Returns (f value)) : Returns (x >>= f) ↔ Returns x := by
  rw [returns_bind]
  exact ⟨fun ⟨value, same, _⟩ => ⟨value, same⟩, fun ⟨value, same⟩ => ⟨value, same, later value⟩⟩

theorem returns_unless {condition} [Decidable condition] :
    Returns (if condition then .ok value else x) ↔ (¬ condition → Returns x) := by
  split
  · next refused => exact iff_of_true (returns_ok _) fun passes => absurd refused passes
  · next passes => exact ⟨fun returns _ => returns, fun returns => returns passes⟩

theorem returns_get {items : List α} {index : Nat} : Returns (get items index) ↔ index < items.length := by
  unfold get
  cases found : items[index]? with
  | none => exact iff_of_false not_returns_error (Nat.not_lt.mpr (List.getElem?_eq_none_iff.mp found))
  | some item => exact iff_of_true (returns_ok item) (List.getElem?_eq_some_iff.mp found).1

/-- A computation returns what is wanted, or it stops for a reason that is excused. -/
def Meets (excused : ε → Prop) (wanted : α → Prop) : Except ε α → Prop
  | .ok value => wanted value
  | .error problem => excused problem

namespace Meets
variable {excused : ε → Prop} {wanted : α → Prop}
variable {x : Except ε α}

theorem intro (returns : ∀ value, x = .ok value → wanted value)
    (stops : ∀ problem, x = .error problem → excused problem) : Meets excused wanted x := by
  cases x with
  | ok value => exact returns value rfl
  | error problem => exact stops problem rfl

theorem mono {expected} (meets : Meets excused wanted x) (implied : ∀ value, wanted value → expected value) :
    Meets excused expected x := by
  cases x with
  | ok value => exact implied value meets
  | error problem => exact meets

theorem excuse {wider} (meets : Meets excused wanted x)
    (implied : ∀ problem, excused problem → wider problem) : Meets wider wanted x := by
  cases x with
  | ok value => exact meets
  | error problem => exact implied problem meets

theorem bind {expected} {f : α → Except ε β} (first : Meets excused wanted x)
    (rest : ∀ value, wanted value → Meets excused expected (f value)) : Meets excused expected (x >>= f) := by
  cases x with
  | ok value => exact rest value first
  | error problem => exact first

theorem check {excused condition} (other : excused (.assertion text)) :
    Meets excused (fun _ => condition = true) (Panic.check condition text) := by
  cases condition with
  | true => rfl
  | false => exact other

theorem of_ok (meets : Meets excused wanted x) (returned : x = .ok value) : wanted value := by
  subst returned
  exact meets

theorem of_error (meets : Meets excused wanted x) (stopped : x = .error problem) : excused problem := by
  subst stopped
  exact meets

/-- The invariant of a loop speaks about the items that are left. -/
theorem foldlM (invariant : List β → α → Prop) {step}
    (keeps : ∀ state item rest, invariant (item :: rest) state → Meets excused (invariant rest) (step state item))
    {items : List β} {state : α} (initial : invariant items state) :
    Meets excused (invariant []) (items.foldlM step state) := by
  induction items generalizing state with
  | nil => exact initial
  | cons item rest ih => exact (keeps state item rest initial).bind fun next kept => ih kept

end Meets

/-- A computation returns exactly under a condition, and then what is wanted. -/
def Exactly (condition : Prop) (wanted : α → Prop) : Except ε α → Prop
  | .ok value => condition ∧ wanted value
  | .error _ => ¬ condition

namespace Exactly
variable {condition further : Prop} {wanted : α → Prop} {x : Except ε α}
variable {expected : β → Prop} {f : α → Except ε β}

theorem ok (meets : wanted value) : Exactly True wanted (.ok value : Except ε α) := ⟨trivial, meets⟩

theorem error : Exactly False wanted (.error problem : Except ε α) := id

theorem iff (exact : Exactly condition wanted x) (same : condition ↔ further) : Exactly further wanted x :=
  propext same ▸ exact

theorem mono {expected} (exact : Exactly condition wanted x)
    (implied : ∀ value, wanted value → expected value) : Exactly condition expected x := by
  cases x with
  | ok value => exact ⟨exact.1, implied value exact.2⟩
  | error problem => exact exact

section
variable (first : Exactly condition wanted x)
include first

theorem bind (further : Prop) (rest : ∀ value, wanted value → Exactly further expected (f value)) :
    Exactly (condition ∧ further) expected (x >>= f) := by
  cases x with
  | error problem => exact fun both => first both.1
  | ok value =>
    have later := rest value first.2
    rw [ok_bind]
    cases reached : f value with
    | ok result =>
      rw [reached] at later
      exact ⟨⟨first.1, later.1⟩, later.2⟩
    | error problem =>
      rw [reached] at later
      exact fun both => later both.2

/-- What the whole needs is enough for what comes first. -/
theorem bind_of_imp (enough : further → condition) (rest : ∀ value, wanted value → Exactly further expected (f value)) :
    Exactly further expected (x >>= f) :=
  (first.bind further rest).iff (and_iff_right_of_imp enough)

/-- What comes first decides. -/
theorem bind_total (rest : ∀ value, wanted value → Exactly True expected (f value)) : Exactly condition expected (x >>= f) :=
  (first.bind True rest).iff (and_true _).to_iff

end

/-- What comes later decides. -/
theorem total_bind (first : Exactly True wanted x) (rest : ∀ value, wanted value → Exactly condition expected (f value)) :
    Exactly condition expected (x >>= f) :=
  (first.bind condition rest).iff (true_and _).to_iff

/-- A step that is taken in one of two ways. -/
theorem ite_bind {chosen} [Decidable chosen] {y}
    (exact : Exactly condition expected ((if chosen then x else y) >>= f)) :
    Exactly condition expected (if chosen then x >>= f else y >>= f) := by
  by_cases way : chosen
  · rw [if_pos way] at exact ⊢
    exact exact
  · rw [if_neg way] at exact ⊢
    exact exact

theorem check {checked} : Exactly (checked = true) (fun _ => checked = true) (Panic.check checked text) := by
  cases checked with
  | true => exact ⟨rfl, rfl⟩
  | false => exact Bool.false_ne_true

theorem not_returns (exact : Exactly condition wanted x) (fails : ¬ condition) : ¬ Returns x := by
  rintro ⟨value, rfl⟩
  exact fails exact.1

theorem exists_iff (exact : Exactly condition wanted x) : (∃ value, x = .ok value ∧ wanted value) ↔ condition := by
  cases x with
  | ok value => exact iff_of_true ⟨value, rfl, exact.2⟩ exact.1
  | error problem => exact iff_of_false (by simp) exact

end Exactly

end Panic
