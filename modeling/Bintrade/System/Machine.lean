import Mathlib.Logic.Basic

/-! Labelled machines. Every choice of a scheduler or of the environment is a
label, so one step is a partial function and a schedule can be evaluated, while
statements about all interleavings quantify over reachable states. -/

namespace Bintrade.System

universe u v w

/-- A machine refuses a label by returning `none`. -/
structure Machine (State : Type u) (Label : Type v) where
  step : State → Label → Option State

namespace Machine

variable {State : Type u} {Label : Type v}

/-- The schedule restriction that permits every step. -/
def anyStep (_ : State) (_ : Label) : Prop := True

instance (state : State) (label : Label) : Decidable (anyStep state label) :=
  isTrue trivial

/-- Take the labels of a schedule in order, refusing as soon as one is refused
or not permitted. -/
def run (machine : Machine State Label) (permitted : State → Label → Prop)
    [∀ state label, Decidable (permitted state label)] : State → List Label → Option State
  | state, [] => some state
  | state, label :: rest =>
    if permitted state label then
      (machine.step state label).bind (fun after => machine.run permitted after rest)
    else none

/-- States reached by runs all of whose steps are permitted in the state they
start from. -/
inductive Reachable (machine : Machine State Label) (permitted : State → Label → Prop)
    (start : State) : State → Prop where
  | start : Reachable machine permitted start start
  | next {state after : State} {label : Label}
      (earlier : Reachable machine permitted start state)
      (allowed : permitted state label)
      (taken : machine.step state label = some after) :
      Reachable machine permitted start after

variable {machine : Machine State Label} {permitted : State → Label → Prop} {start : State}

/-- A property that holds at the start and survives every permitted step holds
in every state a permitted run reaches. -/
theorem Reachable.invariant {Holds : State → Prop} {state : State}
    (reached : machine.Reachable permitted start state) (initially : Holds start)
    (preserved : ∀ {before after : State} {label : Label}, Holds before →
      permitted before label → machine.step before label = some after → Holds after) :
    Holds state := by
  induction reached with
  | start => exact initially
  | next earlier allowed taken ih => exact preserved ih allowed taken

theorem Reachable.trans {middle state : State}
    (first : machine.Reachable permitted start middle)
    (second : machine.Reachable permitted middle state) :
    machine.Reachable permitted start state := by
  induction second with
  | start => exact first
  | next earlier allowed taken ih => exact .next ih allowed taken

theorem Reachable.relax {permissive : State → Label → Prop} {state : State}
    (reached : machine.Reachable permitted start state)
    (implied : ∀ {before : State} {label : Label}, permitted before label →
      permissive before label) :
    machine.Reachable permissive start state := by
  induction reached with
  | start => exact .start
  | next earlier allowed taken ih => exact .next ih (implied allowed) taken

theorem Reachable.free {state : State} (reached : machine.Reachable permitted start state) :
    machine.Reachable anyStep start state :=
  reached.relax (fun _ => trivial)

/-- Where a step ends in a bad state exactly if it starts in one or is not permitted, the
good states are those that permitted runs reach. -/
theorem Reachable.good_iff {Bad : State → Prop} {state : State}
    (reached : machine.Reachable anyStep start state) (initially : ¬ Bad start)
    (decided : ∀ {before after : State} {label : Label}, machine.Reachable anyStep start before →
      machine.step before label = some after →
        (Bad after ↔ Bad before ∨ ¬ permitted before label)) :
    ¬ Bad state ↔ machine.Reachable permitted start state := by
  constructor
  · intro good
    induction reached with
    | start => exact .start
    | next earlier _ taken ih =>
      have worse := decided earlier taken
      refine .next (ih fun bad => good (worse.mpr (.inl bad))) ?_ taken
      exact by_contra fun refused => good (worse.mpr (.inr refused))
  · intro restricted
    induction restricted with
    | start => exact initially
    | next earlier allowed taken ih =>
      intro bad
      rcases (decided earlier.free taken).mp bad with before | refused
      · exact ih earlier.free before
      · exact refused allowed

section Observation

variable {Log : Type w}

/-- The machine with a log beside its state, which every step extends and no step
reads. -/
def observe (machine : Machine State Label) (note : State → Label → Log → Log) :
    Machine (State × Log) Label where
  step observed label :=
    (machine.step observed.1 label).map fun after => (after, note observed.1 label observed.2)

variable {note : State → Label → Log → Log} {observed after : State × Log} {label : Label}

theorem observe_step (taken : (machine.observe note).step observed label = some after) :
    machine.step observed.1 label = some after.1 ∧ after.2 = note observed.1 label observed.2 := by
  obtain ⟨next, moved, rfl⟩ := Option.map_eq_some_iff.mp taken
  exact ⟨moved, rfl⟩

/-- Without its log, an observed run is a run. -/
theorem Reachable.unobserved {watched : State × Log → Label → Prop} {start : State × Log}
    (reached : (machine.observe note).Reachable watched start observed) :
    machine.Reachable anyStep start.1 observed.1 := by
  induction reached with
  | start => exact .start
  | next earlier allowed taken ih => exact .next ih trivial (observe_step taken).1

end Observation

section Evaluation

variable [∀ state label, Decidable (permitted state label)]

/-- Every evaluated schedule is a run. -/
theorem reachable_of_run {labels : List Label} {state : State}
    (evaluated : machine.run permitted start labels = some state) :
    machine.Reachable permitted start state := by
  induction labels generalizing start with
  | nil =>
    cases evaluated
    exact .start
  | cons label rest ih =>
    simp only [run] at evaluated
    split at evaluated
    · rename_i allowed
      obtain ⟨after, taken, remaining⟩ := Option.bind_eq_some_iff.mp evaluated
      exact Reachable.trans (.next .start allowed taken) (ih remaining)
    · cases evaluated

/-- A schedule that evaluates to a state with a decidable property shows that
such a state is reachable. -/
theorem exists_reachable_of_run (labels : List Label) {Holds : State → Prop}
    [DecidablePred Holds]
    (evaluated : (machine.run permitted start labels).any
      (fun state => decide (Holds state)) = true) :
    ∃ state, machine.Reachable permitted start state ∧ Holds state := by
  cases finished : machine.run permitted start labels with
  | none => simp [finished] at evaluated
  | some state =>
    refine ⟨state, reachable_of_run finished, ?_⟩
    simpa [finished] using evaluated

end Evaluation

end Machine

end Bintrade.System
