import Mathlib

/-! Finite runs of a deterministic machine whose steps may fail. The environment
chooses the labels, subject to a guard on the state it chooses them in. -/

namespace Runs
open List
variable {σ ℓ ε : Type}

inductive Run (step : σ → ℓ → Except ε σ) (allowed : σ → ℓ → Prop) : σ → List ℓ → σ → Prop where
  | nil (state : σ) : Run step allowed state [] state
  | cons {state middle final : σ} {label : ℓ} {rest : List ℓ} (enabled : allowed state label)
      (stepped : step state label = .ok middle) (remaining : Run step allowed middle rest final) :
      Run step allowed state (label :: rest) final

/-- Running the machine. -/
def exec (step : σ → ℓ → Except ε σ) : σ → List ℓ → Except ε σ
  | state, [] => .ok state
  | state, label :: rest => do exec step (← step state label) rest

/-- Running the machine as long as every label is allowed. -/
def execWhere (step : σ → ℓ → Except ε σ) (allowed : σ → ℓ → Prop) [∀ state label, Decidable (allowed state label)] :
    σ → List ℓ → Option σ
  | state, [] => some state
  | state, label :: rest =>
    if allowed state label then
      match step state label with
      | .ok next => execWhere step allowed next rest
      | .error _ => none
    else none

variable {step : σ → ℓ → Except ε σ} {allowed : σ → ℓ → Prop} {labels : List ℓ} {start final : σ} {past whole : List (σ × ℓ)}

theorem Run.append {middle more} (first : Run step allowed start labels middle)
    (second : Run step allowed middle more final) : Run step allowed start (labels ++ more) final := by
  induction first with
  | nil state => exact second
  | cons enabled stepped remaining ih => exact .cons enabled stepped (ih second)

/-- An indexed invariant advances its index by the weight of each label. Runs are cut off
at a total weight of `limit`, so a step may rely on its index being small. -/
theorem Run.weighted (weight : ℓ → Nat) (limit : Nat) (holds : Nat → σ → Prop)
    (keeps : ∀ index state label next, index + weight label ≤ limit → allowed state label → holds index state →
      step state label = .ok next → holds (index + weight label) next)
    {start final} {labels} (run : Run step allowed start labels final)
    {index} (short : index + (labels.map weight).sum ≤ limit) (initial : holds index start) :
    holds (index + (labels.map weight).sum) final := by
  induction run generalizing index with
  | nil state => simpa using initial
  | cons enabled stepped remaining ih =>
    simp only [map_cons, sum_cons] at short ⊢
    have next := keeps index _ _ _ (by omega) enabled initial stepped
    have rest := ih (by omega) next
    rwa [Nat.add_assoc] at rest

/-- An invariant indexed by the number of steps taken. -/
theorem Run.indexed (limit : Nat) (holds : Nat → σ → Prop)
    (keeps : ∀ index state label next, index < limit → allowed state label → holds index state →
      step state label = .ok next → holds (index + 1) next)
    {start final} {labels} (run : Run step allowed start labels final)
    {index} (short : index + labels.length ≤ limit) (initial : holds index start) :
    holds (index + labels.length) final := by
  have total : (labels.map fun _ => 1).sum = labels.length := by
    rw [map_const', sum_replicate_nat, Nat.mul_one]
  rw [← total] at short ⊢
  exact run.weighted (fun _ => 1) limit holds keeps short initial

theorem Run.of_exec (enabled : ∀ state, ∀ label ∈ labels, allowed state label) (executed : exec step start labels = .ok final) :
    Run step allowed start labels final := by
  induction labels generalizing start with
  | nil =>
    cases executed
    exact .nil _
  | cons label rest ih =>
    cases stepped : step start label with
    | error problem =>
      simp only [exec, stepped] at executed
      cases executed
    | ok middle =>
      simp only [exec, stepped] at executed
      exact .cons (enabled _ _ (by simp)) stepped (ih (fun state other later => enabled _ _ (by simp [later])) executed)

section
variable [∀ state label, Decidable (allowed state label)]

theorem Run.of_execWhere (executed : execWhere step allowed start labels = some final) : Run step allowed start labels final := by
  induction labels generalizing start with
  | nil =>
    cases executed
    exact .nil _
  | cons label rest ih =>
    simp only [execWhere] at executed
    split at executed
    · next enabled =>
      split at executed
      · next middle stepped => exact .cons enabled stepped (ih executed)
      · cases executed
    · cases executed

/-- A run exists if executing the labels ends in a state with the property. -/
theorem Run.exists_of_execWhere {holds} [DecidablePred holds]
    (executed : (execWhere step allowed start labels).any (holds ·) = true) :
    ∃ final, Run step allowed start labels final ∧ holds final := by
  cases reached : execWhere step allowed start labels with
  | none =>
    rw [reached] at executed
    cases executed
  | some final =>
    rw [reached, Option.any_some, decide_eq_true_eq] at executed
    exact ⟨final, .of_execWhere reached, executed⟩

/-- It ends in a state with all the properties that follow, too. -/
theorem Run.exists_imp {wanted : σ → Prop} (holds : σ → Prop) [DecidablePred holds]
    (executed : (execWhere step allowed start labels).any (holds ·) = true)
    (implies : ∀ final, Run step allowed start labels final → holds final → wanted final) :
    ∃ final, Run step allowed start labels final ∧ wanted final := by
  obtain ⟨final, run, held⟩ := Run.exists_of_execWhere executed
  exact ⟨final, run, implies final run held⟩

end

/-- A run together with its past: the steps taken so far, the latest first, each with the
state in which it was taken. -/
inductive Trace (step : σ → ℓ → Except ε σ) (allowed : σ → ℓ → Prop) (start : σ) : List (σ × ℓ) → σ → Prop where
  | nil : Trace step allowed start [] start
  | snoc {past : List (σ × ℓ)} {state next : σ} {label : ℓ} (before : Trace step allowed start past state)
      (enabled : allowed state label) (stepped : step state label = .ok next) :
      Trace step allowed start ((state, label) :: past) next

/-- Running the machine from a state with a past. -/
def record (step : σ → ℓ → Except ε σ) (allowed : σ → ℓ → Prop) [∀ state label, Decidable (allowed state label)] :
    List (σ × ℓ) → σ → List ℓ → Option (List (σ × ℓ) × σ)
  | past, state, [] => some (past, state)
  | past, state, label :: rest =>
    if allowed state label then
      match step state label with
      | .ok next => record step allowed ((state, label) :: past) next rest
      | .error _ => none
    else none

/-- An invariant may speak about the past. -/
theorem Trace.invariant (holds : List (σ × ℓ) → σ → Prop)
    (keeps : ∀ past state label next, allowed state label → holds past state → step state label = .ok next →
      holds ((state, label) :: past) next)
    {start final} {past} (trace : Trace step allowed start past final) (initial : holds [] start) :
    holds past final := by
  induction trace with
  | nil => exact initial
  | snoc before enabled stepped ih => exact keeps _ _ _ _ enabled ih stepped

/-- A set of states is never left again if and only if no step is taken that leaves it. -/
theorem Trace.absorbing_iff {inside : σ → Prop} {escapes : σ → ℓ → Prop}
    (leaves_iff : ∀ state label next, step state label = .ok next → inside state → (inside next ↔ ¬ escapes state label))
    (trace : Trace step allowed start past final) :
    (final :: past.map Prod.fst).Pairwise (fun later earlier => inside earlier → inside later) ↔
      ∀ moment ∈ past, inside moment.1 → ¬ escapes moment.1 moment.2 := by
  induction trace with
  | nil => exact iff_of_true (pairwise_singleton _ _) nofun
  | @snoc past state next label before enabled stepped ih =>
    rw [forall_mem_cons, map_cons, pairwise_cons, forall_mem_cons, ← ih]
    constructor
    · intro ⟨⟨here, _⟩, earlier⟩
      exact ⟨fun within => (leaves_iff state label next stepped within).mp (here within), earlier⟩
    intro ⟨stays, earlier⟩
    have here within : inside next := (leaves_iff state label next stepped within).mpr (stays within)
    refine ⟨⟨here, ?_⟩, earlier⟩
    intro visited listed within
    exact here ((pairwise_cons.mp earlier).1 visited listed within)

section
variable [∀ state label, Decidable (allowed state label)]

theorem Trace.of_record {state} (before : Trace step allowed start past state)
    (recorded : record step allowed past state labels = some (whole, final)) :
    Trace step allowed start whole final := by
  induction labels generalizing past state with
  | nil =>
    cases recorded
    exact before
  | cons label rest ih =>
    simp only [record] at recorded
    split at recorded
    · next enabled =>
      split at recorded
      · next next stepped => exact ih (before.snoc enabled stepped) recorded
      · cases recorded
    · cases recorded

theorem record_labels {state} (recorded : record step allowed past state labels = some (whole, final)) :
    whole.map Prod.snd = labels.reverse ++ past.map Prod.snd := by
  induction labels generalizing past state with
  | nil =>
    cases recorded
    rfl
  | cons label rest ih =>
    simp only [record] at recorded
    split at recorded
    · split at recorded
      · rw [ih recorded, map_cons, reverse_cons, append_assoc, singleton_append]
      · cases recorded
    · cases recorded

theorem Trace.exists_of_record {holds : List (σ × ℓ) → σ → Prop} [∀ past final, Decidable (holds past final)]
    (recorded : (record step allowed [] start labels).any (fun reached => holds reached.1 reached.2) = true) :
    ∃ past final, Trace step allowed start past final ∧ past.map Prod.snd = labels.reverse ∧ holds past final := by
  cases reached : record step allowed [] start labels with
  | none =>
    rw [reached] at recorded
    cases recorded
  | some whole =>
    rw [reached, Option.any_some, decide_eq_true_eq] at recorded
    have same := record_labels reached
    rw [map_nil, append_nil] at same
    exact ⟨whole.1, whole.2, .of_record .nil reached, same, recorded⟩

theorem Trace.exists_imp {wanted : List (σ × ℓ) → σ → Prop} (holds : List (σ × ℓ) → σ → Prop)
    [∀ past final, Decidable (holds past final)]
    (recorded : (record step allowed [] start labels).any (fun reached => holds reached.1 reached.2) = true)
    (implies : ∀ past final, Trace step allowed start past final → holds past final → wanted past final) :
    ∃ past final, Trace step allowed start past final ∧ past.map Prod.snd = labels.reverse ∧ wanted past final := by
  obtain ⟨past, final, trace, same, held⟩ := Trace.exists_of_record recorded
  exact ⟨past, final, trace, same, implies past final trace held⟩

end

theorem Run.invariant (holds : σ → Prop)
    (keeps : ∀ state label next, allowed state label → holds state → step state label = .ok next → holds next)
    {start final} {labels} (run : Run step allowed start labels final) (initial : holds start) :
    holds final := by
  induction run with
  | nil state => exact initial
  | cons enabled stepped remaining ih => exact ih (keeps _ _ _ enabled initial stepped)

end Runs
