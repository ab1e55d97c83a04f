import Bintrade.Rest.HttpClient
import Mathlib.Data.List.Nodup

/-! Connections are told apart by their identities. A step may take connections out of the
pool and may append one with an identity that was never used before; it never brings one
back. -/

namespace Bintrade.Rest.HttpClient

open Bintrade.System Bintrade.Core

/-- The connections of a pool are distinct, and the next identity is not in use. -/
structure Identified (next : Nat) (pool : List Slot) : Prop where
  distinct : (pool.map Slot.id).Nodup
  fresh : ∀ slot ∈ pool, slot.id < next

/-- What a step can do to the identities in the pool. -/
inductive Evolves (before after : State) : Prop where
  | kept (same : after.next = before.next)
      (ids : (after.pool.map Slot.id).Sublist (before.pool.map Slot.id))
  | grown (more : after.next = before.next + 1)
      (ids : (after.pool.map Slot.id).Sublist (before.pool.map Slot.id ++ [before.next]))

/-- A connection that was created and is not in the pool. -/
structure Gone (state : State) (id : Nat) : Prop where
  created : id < state.next
  absent : ∀ slot ∈ state.pool, slot.id ≠ id

theorem Identified.initial : Identified initial.next initial.pool where
  distinct := .nil
  fresh := by
    intro slot member
    cases member

section Pools

variable {next : Nat} {pool later : List Slot}

theorem Identified.of_ids (identified : Identified next pool)
    (ids : (later.map Slot.id).Sublist (pool.map Slot.id)) : Identified next later where
  distinct := identified.distinct.sublist ids
  fresh slot member := by
    have known := ids.subset (List.mem_map_of_mem member)
    obtain ⟨old, present, same⟩ := List.mem_map.mp known
    rw [← same]
    exact identified.fresh old present

theorem Identified.of_grown_ids (identified : Identified next pool)
    (ids : (later.map Slot.id).Sublist (pool.map Slot.id ++ [next])) :
    Identified (next + 1) later where
  distinct := by
    refine List.Nodup.sublist ids ?_
    apply List.Nodup.append identified.distinct (List.nodup_singleton _)
    intro id old new
    obtain ⟨slot, member, rfl⟩ := List.mem_map.mp old
    have below := identified.fresh slot member
    have same : slot.id = next := List.mem_singleton.mp new
    omega
  fresh slot member := by
    have known := ids.subset (List.mem_map_of_mem member)
    rcases List.mem_append.mp known with old | new
    · obtain ⟨other, present, same⟩ := List.mem_map.mp old
      have below := identified.fresh other present
      omega
    · have same : slot.id = next := List.mem_singleton.mp new
      omega

theorem map_id_onSlot (pool : List Slot) (id : Nat) (change : Slot → Slot)
    (same : ∀ slot, (change slot).id = slot.id) :
    (onSlot pool id change).map Slot.id = pool.map Slot.id := by
  rw [onSlot, List.map_map]
  apply List.map_congr_left
  intro slot _
  simp only [Function.comp]
  split
  · exact same slot
  · rfl

theorem getElem?_onSlot_id (pool : List Slot) (slot position : Nat) (change : Slot → Slot)
    (same : ∀ slot, (change slot).id = slot.id) :
    (onSlot pool slot change)[position]?.map Slot.id = pool[position]?.map Slot.id := by
  rw [← List.getElem?_map, ← List.getElem?_map, map_id_onSlot pool slot change same]

theorem onSlot_sublist (pool : List Slot) (id : Nat) (change : Slot → Slot)
    (same : ∀ slot, (change slot).id = slot.id) :
    ((onSlot pool id change).map Slot.id).Sublist (pool.map Slot.id) := by
  rw [map_id_onSlot pool id change same]

theorem release_sublist (poolSize : Nat) (pool : List Slot) (conn : Option Nat)
    (keepAlive : Bool) :
    ((releaseConnection poolSize pool conn keepAlive).map Slot.id).Sublist
      (pool.map Slot.id) := by
  unfold releaseConnection
  split
  · exact .refl _
  · split
    · exact List.eraseP_sublist.map _
    · exact onSlot_sublist _ _ _ fun _ => rfl

/-- Where connections are distinct, erasing one leaves none with its identity. -/
theorem not_mem_eraseP (distinct : (pool.map Slot.id).Nodup) {id : Nat} {chosen : Slot → Bool}
    (chooses : ∀ slot, chosen slot = true ↔ slot.id = id) :
    ∀ slot ∈ pool.eraseP chosen, slot.id ≠ id := by
  intro slot member same
  have present := List.mem_of_mem_eraseP member
  obtain ⟨erased, before, behind, others, picked, split, rest⟩ :=
    List.exists_of_eraseP present ((chooses slot).mpr same)
  rw [rest] at member
  rcases List.mem_append.mp member with early | late
  · exact others slot early ((chooses slot).mpr same)
  · rw [split, List.map_append, List.map_cons] at distinct
    have unique := (List.nodup_cons.mp (List.nodup_append.mp distinct).2.1).1
    rw [(chooses erased).mp picked, ← same] at unique
    exact unique (List.mem_map_of_mem late)

/-- A connection that was released without keep-alive is not in the pool any more. -/
theorem not_mem_release (distinct : (pool.map Slot.id).Nodup) (poolSize id : Nat) :
    ∀ slot ∈ releaseConnection poolSize pool (some id) false, slot.id ≠ id := by
  unfold releaseConnection
  split
  · rename_i missing
    intro slot member same
    have skipped := List.find?_eq_none.mp missing slot member
    simp [same] at skipped
  · rw [Bool.not_false, Bool.true_or, if_pos rfl]
    exact not_mem_eraseP distinct (by simp)

end Pools

section Steps

variable {settings : Settings} {state middle after : State} {task attempt : Nat} {label : Label}

theorem Evolves.of_sublist (evolves : Evolves middle after) (same : middle.next = state.next)
    (ids : (middle.pool.map Slot.id).Sublist (state.pool.map Slot.id)) :
    Evolves state after := by
  cases evolves with
  | kept next later => exact .kept (next.trans same) (later.trans ids)
  | grown more later =>
    rw [same] at more later
    exact .grown more (later.trans (ids.append_right _))

theorem Evolves.next_le (evolves : Evolves state after) : state.next ≤ after.next := by
  cases evolves with
  | kept same ids => omega
  | grown more ids => omega

theorem Acquired.evolves (acquired : Acquired state task attempt after) : Evolves state after := by
  cases acquired with
  | reused found idle alive => exact .kept rfl (onSlot_sublist _ _ _ fun _ => rfl)
  | reconnecting position found idle dead =>
    exact .kept rfl (onSlot_sublist _ _ _ fun _ => rfl)
  | abandoned found idle dead error => exact .kept rfl (onSlot_sublist _ _ _ fun _ => rfl)
  | created =>
    refine .grown rfl ?_
    rw [State.setPhase, List.map_append]
    exact .refl _
  | discarded error => exact .grown rfl (List.sublist_append_left _ _)

theorem Caught.evolves {wasPreconnected sni : Bool} {failure : Failure}
    (caught : Caught state task attempt wasPreconnected sni failure after) :
    Evolves state after := by
  cases caught with
  | ended message final => exact .kept rfl (.refl _)
  | retried again more => exact (acquired state task (attempt + 1) sni).evolves

theorem requestFails_evolves (poolSize : Nat) (conn : Option Nat) (wasPreconnected : Bool)
    (failure : Failure) (sni : Bool) :
    Evolves state
      (requestFails poolSize state task attempt conn wasPreconnected failure sni) :=
  (caught poolSize state task attempt conn wasPreconnected failure sni).evolves.of_sublist rfl
    (release_sublist poolSize state.pool conn false)

theorem evolves_of_step (taken : (machine settings).step state label = some after) :
    Evolves state after := by
  cases transition_of_step taken with
  | execute fresh acquired => exact acquired.evolves
  | @connectFails task attempt slot position created stage message waiting =>
    cases created with
    | false => exact .kept rfl (.refl _)
    | true => exact .kept rfl ((List.dropLast_sublist _).map _)
  | connectAdvances later waiting => exact .kept rfl (.refl _)
  | connectCompletes waiting => exact .kept rfl (onSlot_sublist _ _ _ fun _ => rfl)
  | writeCompletes waiting => exact .kept rfl (.refl _)
  | writeFails waiting => exact requestFails_evolves _ _ _ _ _
  | readCompletes waiting => exact .kept rfl (release_sublist _ _ _ _)
  | readFails waiting => exact requestFails_evolves _ _ _ _ _

theorem Identified.step (identified : Identified state.next state.pool)
    (taken : (machine settings).step state label = some after) :
    Identified after.next after.pool := by
  cases evolves_of_step taken with
  | kept same ids =>
    rw [same]
    exact identified.of_ids ids
  | grown more ids =>
    rw [more]
    exact identified.of_grown_ids ids

theorem Identified.reachable {start : State} (identified : Identified start.next start.pool)
    (reached : (machine settings).Reachable Machine.anyStep start state) :
    Identified state.next state.pool := by
  induction reached with
  | start => exact identified
  | next earlier allowed taken ih => exact ih.step taken

/-- A connection that has left the pool never comes back. -/
theorem Gone.evolve {id : Nat} (gone : Gone state id) (evolves : Evolves state after) :
    Gone after id := by
  have created := gone.created
  have elsewhere : id ∉ state.pool.map Slot.id := by
    intro known
    obtain ⟨old, present, same⟩ := List.mem_map.mp known
    exact gone.absent old present same
  cases evolves with
  | kept same ids =>
    refine ⟨by omega, ?_⟩
    rintro slot member rfl
    exact elsewhere (ids.subset (List.mem_map_of_mem member))
  | grown more ids =>
    refine ⟨by omega, ?_⟩
    rintro slot member rfl
    rcases List.mem_append.mp (ids.subset (List.mem_map_of_mem member)) with old | new
    · exact elsewhere old
    · have last : slot.id = state.next := List.mem_singleton.mp new
      omega

end Steps

end Bintrade.Rest.HttpClient
