import Bintrade.System.Machine

/-! How many steps a run can take. Where a rank of the state never grows and every counted
step lowers it, no run has more counted steps than the rank it starts with. -/

namespace Bintrade.System.Machine

universe u v w

variable {State : Type u} {Label : Type v} {Log : Type w} {machine : Machine State Label}
  {permitted : State → Label → Prop} {start state : State}

/-- A schedule restriction that ignores the log of an observed machine. -/
def unlogged (permitted : State → Label → Prop) (observed : State × Log) (label : Label) : Prop :=
  permitted observed.1 label

instance [∀ state label, Decidable (permitted state label)] (observed : State × Log)
    (label : Label) : Decidable (unlogged permitted observed label) :=
  inferInstanceAs (Decidable (permitted observed.1 label))

theorem Reachable.dropLog {note : State → Label → Log → Log} {initially observed : State × Log}
    (reached : (machine.observe note).Reachable (unlogged permitted) initially observed) :
    machine.Reachable permitted initially.1 observed.1 := by
  induction reached with
  | start => exact .start
  | next earlier allowed taken ih => exact .next ih allowed (observe_step taken).1

/-- The number of counted steps so far. -/
def countWhere (counted : State → Label → Bool) (state : State) (label : Label) (count : Nat) :
    Nat :=
  count + (counted state label).toNat

/-- Counted steps spend the rank that a run starts with. -/
theorem Reachable.count_le {rank : State → Nat} {counted : State → Label → Bool} {count : Nat}
    (reached : (machine.observe (countWhere counted)).Reachable (unlogged permitted) (start, 0)
      (state, count))
    (falls : ∀ {before after : State} {label : Label}, machine.Reachable permitted start before →
      permitted before label → machine.step before label = some after →
        rank after + (counted before label).toNat ≤ rank before) :
    count + rank state ≤ rank start := by
  generalize ending : (state, count) = observed at reached
  induction reached generalizing state count with
  | start =>
    cases ending
    exact Nat.le_of_eq (Nat.zero_add _)
  | next earlier allowed taken ih =>
    obtain ⟨moved, noted⟩ := observe_step taken
    subst ending
    have spent := ih rfl
    have lowered := falls earlier.dropLog allowed moved
    simp only [countWhere] at noted lowered
    omega

end Bintrade.System.Machine
