import Mathlib.Data.List.Forall2

/-! Computations that return, throw an exception, or run into undefined behaviour. A
computation is defined if it does not reach the last; a sequence of computations is
defined as long as each step is that follows only steps that returned. -/

namespace Bintrade.System

/-- How a computation can fail to return. -/
inductive Fault (ε : Type) where
  | thrown (error : ε)
  | undefined
  deriving DecidableEq

def Fault.map {ε ε' : Type} (function : ε → ε') : Fault ε → Fault ε'
  | .thrown error => .thrown (function error)
  | .undefined => .undefined

/-- A computation that can only return or throw. -/
def throws {ε α : Type} : Except ε α → Except (Fault ε) α := Except.mapError .thrown

/-- The computation returns or throws. -/
def Defined {ε α : Type} (outcome : Except (Fault ε) α) : Prop := outcome ≠ .error .undefined

/-- A loop is defined if each turn is that follows only turns that returned, and what
comes after the loop is, should every turn return. -/
def loopFits {Item : Type} (fits returns : Item → Prop) (later : Prop) : List Item → Prop
  | [] => later
  | item :: rest => fits item ∧ (returns item → loopFits fits returns later rest)

section Defined

variable {ε ε' α β : Type}

@[simp]
theorem defined_pure (value : α) : Defined (pure value : Except (Fault ε) α) := nofun

@[simp]
theorem defined_throws (outcome : Except ε α) : Defined (throws outcome) := by
  cases outcome with
  | ok value => exact nofun
  | error error => exact nofun

theorem mapError_eq_ok {function : ε → ε'} {outcome : Except ε α} {value : α} :
    outcome.mapError function = .ok value ↔ outcome = .ok value := by
  cases outcome with
  | ok found =>
    constructor
    · intro same
      cases same
      rfl
    · intro same
      cases same
      rfl
  | error error =>
    refine iff_of_false ?_ ?_
    · intro impossible
      cases impossible
    · intro impossible
      cases impossible

@[simp]
theorem throws_eq_ok {outcome : Except ε α} {value : α} :
    throws outcome = .ok value ↔ outcome = .ok value :=
  mapError_eq_ok

theorem throws_ok (value : α) : throws (.ok value : Except ε α) = .ok value := rfl

theorem defined_bind (outcome : Except (Fault ε) α) (next : α → Except (Fault ε) β) :
    Defined (outcome >>= next) ↔
      Defined outcome ∧ ∀ value, outcome = .ok value → Defined (next value) := by
  cases outcome with
  | ok value =>
    constructor
    · intro defined
      refine ⟨nofun, ?_⟩
      rintro same ⟨⟩
      exact defined
    · rintro ⟨-, following⟩
      exact following value rfl
  | error fault =>
    constructor
    · intro defined
      exact ⟨fun same => defined (by cases same; rfl), nofun⟩
    · rintro ⟨defined, -⟩ same
      exact defined (by cases same; rfl)

@[simp]
theorem defined_map (outcome : Except (Fault ε) α) (function : α → β) :
    Defined (function <$> outcome) ↔ Defined outcome := by
  cases outcome with
  | ok value => exact iff_of_true nofun nofun
  | error fault =>
    constructor
    · intro defined same
      exact defined (by cases same; rfl)
    · intro defined same
      exact defined (by cases same; rfl)

/-- A step that is always defined leaves the question to what follows it. -/
theorem defined_throws_bind (outcome : Except ε α) (next : α → Except (Fault ε) β) :
    Defined (throws outcome >>= next) ↔ ∀ value, outcome = .ok value → Defined (next value) := by
  simp [defined_bind]

theorem bind_eq_ok {outcome : Except ε α} {next : α → Except ε β} {result : β} :
    (outcome >>= next) = .ok result ↔ ∃ value, outcome = .ok value ∧ next value = .ok result := by
  cases outcome with
  | ok value =>
    constructor
    · intro finished
      exact ⟨value, rfl, finished⟩
    · rintro ⟨same, ⟨⟩, finished⟩
      exact finished
  | error error =>
    constructor
    · intro impossible
      cases impossible
    · rintro ⟨value, impossible, -⟩
      cases impossible

theorem ok_bind (value : α) (next : α → Except ε β) :
    (Except.ok value >>= next) = next value :=
  rfl

/-- A loop whose turns are known one by one. -/
theorem defined_mapM_bind {Item : Type} {body : Item → Except (Fault ε) α}
    {fits returns : Item → Prop} {later : Prop} (fitted : ∀ item, Defined (body item) ↔ fits item)
    (returned : ∀ item, (∃ value, body item = .ok value) ↔ returns item) (items : List Item)
    {next : List α → Except (Fault ε) β} (rest : ∀ values, Defined (next values) ↔ later) :
    Defined (items.mapM body >>= next) ↔ loopFits fits returns later items := by
  induction items generalizing next with
  | nil => exact rest []
  | cons item items ih =>
    rw [List.mapM_cons, bind_assoc, defined_bind, loopFits, fitted]
    apply and_congr_right
    intro _
    rw [← returned]
    constructor
    · rintro following ⟨value, finished⟩
      have tail := following value finished
      rw [bind_assoc] at tail
      exact (ih fun values => rest (value :: values)).mp tail
    · intro following value finished
      rw [bind_assoc]
      exact (ih fun values => rest (value :: values)).mpr (following ⟨value, finished⟩)

theorem defined_mapM {Source Item : Type} {encodes : Source → Item → Prop}
    {body : Item → Except (Fault ε) α} {sources : List Source} {items : List Item}
    (encoded : List.Forall₂ encodes sources items)
    (each : ∀ source item, encodes source item → Defined (body item)) :
    Defined (items.mapM body) := by
  induction encoded with
  | nil => exact defined_pure []
  | cons first rest ih =>
    rw [List.mapM_cons, defined_bind]
    refine ⟨each _ _ first, ?_⟩
    intro value _
    rw [bind_pure_comp, defined_map]
    exact ih

/-- A loop over encoded items decodes them one by one, in order. -/
theorem mapM_eq_ok {Source Item : Type} {encodes : Source → Item → Prop}
    {decodes : Source → α → Prop} {body : Item → Except ε α} {sources : List Source}
    {items : List Item} (encoded : List.Forall₂ encodes sources items)
    (each : ∀ source item, encodes source item →
      ∀ value, body item = .ok value ↔ decodes source value)
    (values : List α) : items.mapM body = .ok values ↔ List.Forall₂ decodes sources values := by
  induction encoded generalizing values with
  | nil =>
    rw [List.mapM_nil, List.forall₂_nil_left_iff]
    constructor
    · intro same
      cases same
      rfl
    · intro empty
      rw [empty]
      rfl
  | cons first rest ih =>
    rw [List.mapM_cons, bind_eq_ok, List.forall₂_cons_left_iff]
    constructor
    · rintro ⟨value, decoded, finished⟩
      obtain ⟨others, remaining, ⟨⟩⟩ := bind_eq_ok.mp finished
      exact ⟨value, others, (each _ _ first value).mp decoded, (ih others).mp remaining, rfl⟩
    · rintro ⟨value, others, decoded, remaining, rfl⟩
      refine ⟨value, (each _ _ first value).mpr decoded, ?_⟩
      rw [bind_eq_ok]
      exact ⟨others, (ih others).mpr remaining, rfl⟩

theorem exists_of_mem_mapM {Item : Type} {body : Item → Except ε α} {items : List Item}
    {values : List α} (returned : items.mapM body = .ok values) :
    ∀ value ∈ values, ∃ item ∈ items, body item = .ok value := by
  induction items generalizing values with
  | nil =>
    cases returned
    simp
  | cons item items ih =>
    rw [List.mapM_cons] at returned
    obtain ⟨first, read, returned⟩ := bind_eq_ok.mp returned
    obtain ⟨others, remaining, ⟨⟩⟩ := bind_eq_ok.mp returned
    intro value member
    rcases List.mem_cons.mp member with rfl | later
    · exact ⟨item, List.mem_cons_self, read⟩
    · obtain ⟨found, among, produced⟩ := ih remaining value later
      exact ⟨found, List.mem_cons_of_mem item among, produced⟩

end Defined

end Bintrade.System
