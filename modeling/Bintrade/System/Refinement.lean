import Bintrade.System.Machine

/-! Refinement between two machines. A step of the lower machine is one step of the
upper one, or none where it shows nothing, so a run of the lower machine is explained by
the run of the upper machine over what was shown. The upper machine may also be run beside the
lower one, where what a step shows depends on both. -/

namespace Bintrade.System.Machine

universe u v w x

variable {State : Type u} {Label : Type v} {Abstract : Type w} {Event : Type x}

/-- What each step of the lower machine shows, and a relation between the states that
every step keeps. -/
structure Refinement (machine : Machine State Label) (spec : Machine Abstract Event) where
  shows : State → Label → Option Event
  Relates : State → Abstract → Prop
  silent : ∀ {state after : State} {label : Label} {above : Abstract}, Relates state above →
    machine.step state label = some after → shows state label = none → Relates after above
  visible : ∀ {state after : State} {label : Label} {above : Abstract} {event : Event},
    Relates state above → machine.step state label = some after →
      shows state label = some event →
        ∃ next, spec.step above event = some next ∧ Relates after next

/-- The log of what the steps of a run have shown. -/
def noteShown (shows : State → Label → Option Event) (state : State) (label : Label)
    (trace : List Event) : List Event :=
  trace ++ (shows state label).toList

theorem run_append_singleton {machine : Machine State Label} {permitted : State → Label → Prop}
    [∀ state label, Decidable (permitted state label)] {start state after : State}
    {labels : List Label} {label : Label}
    (evaluated : machine.run permitted start labels = some state)
    (allowed : permitted state label) (taken : machine.step state label = some after) :
    machine.run permitted start (labels ++ [label]) = some after := by
  induction labels generalizing start with
  | nil =>
    cases evaluated
    simp [run, allowed, taken]
  | cons first rest ih =>
    simp only [run, List.cons_append] at evaluated ⊢
    split at evaluated
    · rename_i permittedFirst
      obtain ⟨next, moved, remaining⟩ := Option.bind_eq_some_iff.mp evaluated
      rw [if_pos permittedFirst, moved]
      exact ih remaining
    · cases evaluated

/-- Whatever the lower machine has shown along a run, the upper machine does. -/
theorem Refinement.run {machine : Machine State Label} {spec : Machine Abstract Event}
    (refines : machine.Refinement spec) {start state : State} {above : Abstract}
    {trace : List Event} {permitted : State × List Event → Label → Prop}
    (reached : (machine.observe (noteShown refines.shows)).Reachable permitted (start, [])
      (state, trace))
    (related : refines.Relates start above) :
    ∃ final, spec.run anyStep above trace = some final ∧ refines.Relates state final := by
  generalize ending : (state, trace) = observed at reached
  induction reached generalizing state trace with
  | start =>
    cases ending
    exact ⟨above, rfl, related⟩
  | @next before after label earlier allowed taken ih =>
    obtain ⟨moved, noted⟩ := observe_step taken
    obtain ⟨middle, explained, kept⟩ := ih rfl
    subst ending
    simp only [noteShown] at moved noted
    cases shown : refines.shows before.1 label with
    | none =>
      refine ⟨middle, ?_, refines.silent kept moved shown⟩
      rw [noted, shown, Option.toList_none, List.append_nil]
      exact explained
    | some event =>
      obtain ⟨final, stepped, keptAfter⟩ := refines.visible kept moved shown
      refine ⟨final, ?_, keptAfter⟩
      rw [noted, shown, Option.toList_some]
      exact run_append_singleton explained trivial stepped

section Following

variable {machine : Machine State Label} {spec : Machine Abstract Event}
  {shows : State → Abstract → Label → Option Event}

/-- The upper machine, run beside the lower one: it takes the step that is shown. -/
def follow (spec : Machine Abstract Event) (shows : State → Abstract → Label → Option Event)
    (state : State) (label : Label) (above : Abstract) : Abstract :=
  ((shows state above label).bind (spec.step above)).getD above

theorem follow_silent {state : State} {label : Label} {above : Abstract}
    (hidden : shows state above label = none) : follow spec shows state label above = above := by
  rw [follow, hidden]
  rfl

theorem follow_visible {state : State} {label : Label} {above next : Abstract} {event : Event}
    (shown : shows state above label = some event) (moved : spec.step above event = some next) :
    follow spec shows state label above = next := by
  rw [follow, shown, Option.bind_some, moved]
  rfl

/-- What follows a run is a run. -/
theorem Reachable.followed {permitted : State × Abstract → Label → Prop}
    {start observed : State × Abstract}
    (reached : (machine.observe (follow spec shows)).Reachable permitted start observed) :
    spec.Reachable anyStep start.2 observed.2 := by
  induction reached with
  | start => exact .start
  | @next before after label earlier allowed taken ih =>
    rw [(observe_step taken).2]
    cases moved : (shows before.1 before.2 label).bind (spec.step before.2) with
    | none =>
      rw [follow, moved]
      exact ih
    | some next =>
      obtain ⟨event, -, stepped⟩ := Option.bind_eq_some_iff.mp moved
      rw [follow, moved]
      exact .next ih trivial stepped

end Following

end Bintrade.System.Machine
