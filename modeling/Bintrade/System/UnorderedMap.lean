import Mathlib.Data.List.Nodup
import Mathlib.Logic.Function.Basic

/-! Maps with unique keys whose iteration order is left to the library. Nothing is
assumed of an order but that it visits every entry exactly once. -/

namespace Bintrade.System

variable {Key Value : Type*}

/-- One decision of the library: the order in which it iterates over keys that it
has just rehashed or copied. -/
structure Layout (Key : Type*) where
  arrange : List Key → List Key
  perm : ∀ keys, (arrange keys).Perm keys

/-- The library keeps the order it finds. -/
def Layout.keep : Layout Key where
  arrange keys := keys
  perm _ := .refl _

/-- The library turns the order round. -/
def Layout.reverse : Layout Key where
  arrange keys := keys.reverse
  perm keys := keys.reverse_perm

/-- A map as its iteration shows it: the keys in their present order, and the value
of each. -/
structure UnorderedMap (Key Value : Type*) where
  order : List Key
  distinct : order.Nodup
  value : Key → Value

namespace UnorderedMap

def entries (map : UnorderedMap Key Value) : List (Key × Value) :=
  map.order.map fun key => (key, map.value key)

def empty [Inhabited Value] : UnorderedMap Key Value where
  order := []
  distinct := .nil
  value _ := default

/-- A copy may be iterated in another order than its source. -/
def copy (map : UnorderedMap Key Value) (layout : Layout Key) : UnorderedMap Key Value where
  order := layout.arrange map.order
  distinct := (layout.perm map.order).nodup_iff.mpr map.distinct
  value := map.value

theorem entries_copy (map : UnorderedMap Key Value) (layout : Layout Key) :
    (map.copy layout).entries =
      (layout.arrange map.order).map fun key => (key, map.value key) :=
  rfl

theorem entries_copy_perm (map : UnorderedMap Key Value) (layout : Layout Key) :
    (map.copy layout).entries.Perm map.entries :=
  (layout.perm map.order).map _

theorem mem_order_copy {map : UnorderedMap Key Value} {layout : Layout Key} {key : Key} :
    key ∈ (map.copy layout).order ↔ key ∈ map.order :=
  (layout.perm _).mem_iff

variable [DecidableEq Key]

def find? (map : UnorderedMap Key Value) (key : Key) : Option Value :=
  if key ∈ map.order then some (map.value key) else none

/-- `map[key] = value`: an assignment to a present key keeps the order, an
insertion may rehash. -/
def assign (map : UnorderedMap Key Value) (layout : Layout Key) (key : Key) (value : Value) :
    UnorderedMap Key Value where
  order := if key ∈ map.order then map.order else layout.arrange (key :: map.order)
  distinct := by
    split
    · exact map.distinct
    · rename_i absent
      exact (layout.perm _).nodup_iff.mpr (List.nodup_cons.mpr ⟨absent, map.distinct⟩)
  value := Function.update map.value key value

variable {map : UnorderedMap Key Value} {layout : Layout Key} {key : Key} {value : Value}

theorem order_assign (absent : key ∉ map.order) :
    (map.assign layout key value).order = layout.arrange (key :: map.order) :=
  if_neg absent

@[simp]
theorem mem_order_assign {other : Key} :
    other ∈ (map.assign layout key value).order ↔ other = key ∨ other ∈ map.order := by
  simp only [assign]
  split
  · rename_i present
    constructor
    · exact .inr
    · rintro (rfl | member)
      · exact present
      · exact member
  · rw [(layout.perm _).mem_iff, List.mem_cons]

theorem value_assign {other : Key} :
    (map.assign layout key value).value other = if other = key then value else map.value other :=
  Function.update_apply ..

@[simp]
theorem find?_assign (other : Key) :
    (map.assign layout key value).find? other =
      if other = key then some value else map.find? other := by
  by_cases same : other = key
  · simp [find?, value_assign, same]
  · simp [find?, value_assign, same]

/-- Keys that are not assigned keep their entries. -/
theorem map_update_of_not_mem {keys : List Key} {values : Key → Value} (absent : key ∉ keys) :
    (keys.map fun other => (other, Function.update values key value other)) =
      keys.map fun other => (other, values other) := by
  apply List.map_congr_left
  intro other member
  have different : other ≠ key := fun same => absent (same ▸ member)
  rw [Function.update_of_ne different]

/-- An insertion adds one entry to the others. -/
theorem entries_assign_perm (absent : key ∉ map.order) :
    (map.assign layout key value).entries.Perm ((key, value) :: map.entries) := by
  rw [entries, order_assign absent]
  refine ((layout.perm _).map _).trans ?_
  rw [List.map_cons]
  simp only [assign, Function.update_self, map_update_of_not_mem absent]
  exact .refl _

theorem forall_entries_assign {property : Key × Value → Prop} (absent : key ∉ map.order) :
    (∀ entry ∈ (map.assign layout key value).entries, property entry) ↔
      property (key, value) ∧ ∀ entry ∈ map.entries, property entry := by
  simp only [(entries_assign_perm absent).mem_iff, List.forall_mem_cons]

/-- An assignment to a present key replaces its entry. -/
theorem entries_assign_of_mem (layout : Layout Key) (value : Value) (present : key ∈ map.order) :
    ∃ before after, map.entries = before ++ (key, map.value key) :: after ∧
      (map.assign layout key value).entries = before ++ (key, value) :: after := by
  obtain ⟨early, late, split⟩ := List.append_of_mem present
  have distinct := map.distinct
  rw [split] at distinct
  have absent := (List.nodup_cons.mp (List.nodup_middle.mp distinct)).1
  refine ⟨early.map fun other => (other, map.value other),
    late.map fun other => (other, map.value other), ?_, ?_⟩
  · rw [entries, split]
    simp
  · have order : (map.assign layout key value).order = early ++ key :: late :=
      (if_pos present).trans split
    rw [entries, order]
    simp only [assign, List.map_append, List.map_cons, Function.update_self]
    rw [map_update_of_not_mem fun member => absent (List.mem_append_left _ member),
      map_update_of_not_mem fun member => absent (List.mem_append_right _ member)]

end UnorderedMap

/-- Two different orders of the same keys: after a common part, one order comes to
a key that the other reaches only after some other key. -/
theorem exists_divergence {first second : List Key} (distinct : first.Nodup)
    (same : first.Perm second) (different : first ≠ second) :
    ∃ common key rest other between after, first = common ++ key :: rest ∧
      second = common ++ other :: (between ++ key :: after) ∧
        key ∉ common ∧ key ≠ other ∧ key ∉ between := by
  induction first generalizing second with
  | nil => exact absurd (List.nil_perm.mp same).symm different
  | cons key rest ih =>
    cases second with
    | nil => exact absurd (List.perm_nil.mp same) different
    | cons other others =>
      by_cases agree : key = other
      · subst agree
        obtain ⟨absent, tailDistinct⟩ := List.nodup_cons.mp distinct
        obtain ⟨common, later, beyond, skipped, between, after, split, found, fresh⟩ :=
          ih tailDistinct ((List.perm_cons key).mp same) (fun equal => different (by rw [equal]))
        refine ⟨key :: common, later, beyond, skipped, between, after, by rw [split]; rfl,
          by rw [found]; rfl, ?_, fresh.2⟩
        rintro (_ | ⟨_, member⟩)
        · rw [split] at absent
          exact absent (by simp)
        · exact fresh.1 member
      · have member : key ∈ others := by
          have somewhere := same.subset List.mem_cons_self
          exact (List.mem_cons.mp somewhere).resolve_left agree
        obtain ⟨between, after, rfl⟩ := List.append_of_mem member
        have fresh : key ∉ between := by
          have others := (List.nodup_cons.mp (same.nodup_iff.mp distinct)).2
          have absent := (List.nodup_cons.mp (List.nodup_middle.mp others)).1
          exact fun inside => absent (List.mem_append_left _ inside)
        exact ⟨[], key, rest, other, between, after, rfl, rfl, nofun, agree, fresh⟩

end Bintrade.System
