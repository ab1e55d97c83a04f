import Mathlib.Data.List.Nodup

/-! Lists of pairs read by key. Where the keys are distinct, it does not matter in which
order the pairs come. A list laid over a function replaces its values at the listed keys. -/

namespace Bintrade.System

universe u v

variable {Key : Type u} {Value : Type v} [DecidableEq Key]

/-- The first value under a key. -/
def valueOf (key : Key) (pairs : List (Key × Value)) : Option Value :=
  (pairs.find? fun pair => pair.1 = key).map Prod.snd

variable {key : Key} {value : Value} {pairs others : List (Key × Value)}

theorem mem_of_valueOf (found : valueOf key pairs = some value) : (key, value) ∈ pairs := by
  obtain ⟨⟨name, text⟩, first, rfl⟩ := Option.map_eq_some_iff.mp found
  have named : name = key := by simpa using List.find?_some first
  subst named
  exact List.mem_of_find?_eq_some first

theorem valueOf_eq_some_iff (distinct : (pairs.map Prod.fst).Nodup) :
    valueOf key pairs = some value ↔ (key, value) ∈ pairs := by
  refine ⟨mem_of_valueOf, ?_⟩
  intro member
  induction pairs with
  | nil => cases member
  | cons first rest ih =>
    obtain ⟨absent, remaining⟩ := List.nodup_cons.mp distinct
    rcases List.mem_cons.mp member with rfl | later
    · simp [valueOf]
    · have different : first.1 ≠ key := by
        rintro rfl
        exact absent (List.mem_map.mpr ⟨_, later, rfl⟩)
      simpa [valueOf, different] using ih remaining later

theorem valueOf_perm (distinct : (pairs.map Prod.fst).Nodup) (same : others.Perm pairs) :
    valueOf key others = valueOf key pairs := by
  have distinctOthers : (others.map Prod.fst).Nodup := (same.map Prod.fst).nodup_iff.mpr distinct
  apply Option.ext
  intro value
  rw [valueOf_eq_some_iff distinctOthers, valueOf_eq_some_iff distinct, same.mem_iff]

theorem valueOf_eq_none_iff : valueOf key pairs = none ↔ key ∉ pairs.map Prod.fst := by
  simp only [valueOf, Option.map_eq_none_iff, List.find?_eq_none, decide_eq_true_eq, List.mem_map,
    not_exists, not_and]

/-- The values of a list where it has them, and those of a function elsewhere. -/
def overlay (pairs : List (Key × Value)) (base : Key → Value) : Key → Value := fun key =>
  (valueOf key pairs).getD (base key)

/-- If a list agrees with the target, laying it over a base gives the target exactly if the
base agrees with it at the keys that are not listed. -/
theorem overlay_eq_iff {base target : Key → Value}
    (agrees : ∀ pair ∈ pairs, target pair.1 = pair.2) :
    overlay pairs base = target ↔ ∀ key ∉ pairs.map Prod.fst, base key = target key := by
  constructor
  · intro same key absent
    rw [← same, overlay, valueOf_eq_none_iff.mpr absent, Option.getD_none]
  · intro elsewhere
    funext key
    cases found : valueOf key pairs with
    | none =>
      rw [overlay, found, Option.getD_none]
      exact elsewhere key (valueOf_eq_none_iff.mp found)
    | some value =>
      rw [overlay, found, Option.getD_some]
      exact (agrees (key, value) (mem_of_valueOf found)).symm

end Bintrade.System
