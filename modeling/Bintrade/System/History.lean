import Mathlib.Data.List.Induction

/-! Histories: lists of events in the order in which they happened, and laws about what
an event may follow. -/

namespace Bintrade.System

universe u

variable {Event : Type u}

/-- Every event of a history stands to the events before it as the law requires. -/
def Lawful (law : List Event → Event → Prop) (history : List Event) : Prop :=
  ∀ earlier event later, history = earlier ++ event :: later → law earlier event

theorem lawful_nil (law : List Event → Event → Prop) : Lawful law [] := by
  intro earlier event later split
  cases earlier <;> cases split

/-- The last event of a history, or one before it. -/
theorem append_singleton_eq_split {history earlier later : List Event} {last event : Event}
    (split : history ++ [last] = earlier ++ event :: later) :
    earlier = history ∧ event = last ∧ later = [] ∨
      ∃ between, later = between ++ [last] ∧ history = earlier ++ event :: between := by
  induction later using List.reverseRecOn with
  | nil =>
    obtain ⟨same, ends⟩ := List.append_inj' split rfl
    cases ends
    exact .inl ⟨same.symm, rfl, rfl⟩
  | append_singleton between final _ =>
    rw [← List.cons_append, ← List.append_assoc] at split
    obtain ⟨same, ends⟩ := List.append_inj' split rfl
    cases ends
    exact .inr ⟨between, rfl, same⟩

theorem Lawful.append {law : List Event → Event → Prop} {history : List Event} {event : Event}
    (lawful : Lawful law history) (next : law history event) :
    Lawful law (history ++ [event]) := by
  intro earlier other later split
  rcases append_singleton_eq_split split with ⟨rfl, rfl, -⟩ | ⟨between, -, inside⟩
  · exact next
  · exact lawful earlier other between inside

end Bintrade.System
