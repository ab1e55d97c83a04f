import Bintrade.Rest.PoolIdentity

/-! How many connections the pool keeps. A connection is marked idle only after a
response, and only while the pool is within its size; a connection is appended only
while none is idle. -/

namespace Bintrade.Rest.HttpClient

open Bintrade.System

/-- What holds of a pool at any time: a pool beyond its size has no idle connection,
and an idle connection is connected. -/
structure Capacity (poolSize next : Nat) (pool : List Slot) : Prop where
  distinct : (pool.map Slot.id).Nodup
  fresh : ∀ slot ∈ pool, slot.id < next
  full : poolSize < pool.length → ∀ slot ∈ pool, slot.inUse = true
  ready : ∀ slot ∈ pool, slot.inUse = false → slot.connected = true

section Capacity

variable {poolSize next : Nat} {pool : List Slot}

theorem Capacity.empty : Capacity poolSize next [] where
  distinct := .nil
  fresh := nofun
  full := nofun
  ready := nofun

theorem Capacity.identified (capacity : Capacity poolSize next pool) : Identified next pool :=
  ⟨capacity.distinct, capacity.fresh⟩

/-- Connections may be removed from anywhere. -/
theorem Capacity.sublist {later : List Slot} (capacity : Capacity poolSize next pool)
    (removed : later.Sublist pool) : Capacity poolSize next later where
  distinct := capacity.distinct.sublist (removed.map _)
  fresh slot member := capacity.fresh slot (removed.subset member)
  full beyond slot member :=
    capacity.full (Nat.lt_of_lt_of_le beyond removed.length_le) slot (removed.subset member)
  ready slot member := capacity.ready slot (removed.subset member)

/-- A changed connection must fit the pool as it stands; the others stay. -/
theorem Capacity.onSlot {id : Nat} {change : Slot → Slot} (capacity : Capacity poolSize next pool)
    (same : ∀ slot, (change slot).id = slot.id)
    (fits : ∀ slot ∈ pool, slot.id = id → (change slot).inUse = true ∨
      pool.length ≤ poolSize ∧ (change slot).connected = true) :
    Capacity poolSize next (onSlot pool id change) := by
  have identified := capacity.identified.of_ids (onSlot_sublist pool id change same)
  refine ⟨identified.distinct, identified.fresh, ?_, ?_⟩
  · intro beyond slot member
    obtain ⟨old, present, rfl⟩ := List.mem_map.mp member
    have beyondBefore : poolSize < pool.length := by
      simpa [HttpClient.onSlot] using beyond
    by_cases changed : old.id = id
    · rw [if_pos changed]
      rcases fits old present changed with used | ⟨within, -⟩
      · exact used
      · omega
    · rw [if_neg changed]
      exact capacity.full beyondBefore old present
  · intro slot member idle
    obtain ⟨old, present, rfl⟩ := List.mem_map.mp member
    by_cases changed : old.id = id
    · rw [if_pos changed] at idle ⊢
      rcases fits old present changed with used | ⟨-, alive⟩
      · rw [used] at idle
        cases idle
      · exact alive
    · rw [if_neg changed] at idle ⊢
      exact capacity.ready old present idle

theorem Capacity.reserve (capacity : Capacity poolSize next pool) (id : Nat) :
    Capacity poolSize next (HttpClient.onSlot pool id Slot.reserve) :=
  capacity.onSlot (fun _ => rfl) (fun _ _ _ => .inl rfl)

/-- `connected` is set on the connection that a `do_connect` worked on. -/
theorem Capacity.connected (capacity : Capacity poolSize next pool) (id : Nat) :
    Capacity poolSize next
      (HttpClient.onSlot pool id fun slot => { slot with connected := true }) := by
  refine capacity.onSlot (fun _ => rfl) ?_
  intro slot member _
  by_cases used : slot.inUse = true
  · exact .inl used
  · right
    refine ⟨?_, rfl⟩
    by_contra beyond
    exact used (capacity.full (by omega) slot member)

/-- A connection is appended in use, where none is idle. -/
theorem Capacity.append (capacity : Capacity poolSize next pool)
    (busy : ∀ slot ∈ pool, slot.inUse = true) :
    Capacity poolSize (next + 1) (pool ++ [Slot.fresh next]) := by
  have used : ∀ slot ∈ pool ++ [Slot.fresh next], slot.inUse = true := by
    intro slot member
    rcases List.mem_append.mp member with old | new
    · exact busy slot old
    · rw [List.mem_singleton.mp new]
      rfl
  have grown : Identified (next + 1) (pool ++ [Slot.fresh next]) :=
    capacity.identified.of_grown_ids (by rw [List.map_append]; exact .refl _)
  refine ⟨grown.distinct, grown.fresh, fun _ => used, ?_⟩
  intro slot member idle
  rw [used slot member] at idle
  cases idle

/-- A connection may be released for reuse only if it is connected. -/
theorem Capacity.release {conn : Option Nat} {keepAlive : Bool}
    (capacity : Capacity poolSize next pool)
    (alive : keepAlive = true → isConnected pool conn = true) :
    Capacity poolSize next (releaseConnection poolSize pool conn keepAlive) := by
  unfold releaseConnection
  split
  · exact capacity
  · rename_i slot found
    have sameId : some slot.id = conn := by simpa using List.find?_some found
    split
    · exact capacity.sublist List.eraseP_sublist
    · rename_i kept
      simp only [Bool.or_eq_true, Bool.not_eq_true', decide_eq_true_eq, not_or, Nat.not_lt,
        Bool.not_eq_false] at kept
      refine capacity.onSlot (fun _ => rfl) ?_
      intro other member sameOther
      refine .inr ⟨kept.2, ?_⟩
      obtain ⟨held, present, connected⟩ := List.any_eq_true.mp (alive kept.1)
      simp only [Bool.and_eq_true, decide_eq_true_eq] at connected
      have one : held = other := by
        apply List.inj_on_of_nodup_map capacity.distinct present member
        rw [sameOther]
        exact Option.some.inj (connected.1.trans sameId.symm)
      rw [← one]
      exact connected.2

/-- Where the first scan of `acquire_connection` finds nothing, nothing is idle, so the
second finds nothing either. -/
theorem Capacity.busy (capacity : Capacity poolSize next pool)
    (none : pool.find? idleConnected = none) : ∀ slot ∈ pool, slot.inUse = true := by
  intro slot member
  by_contra unused
  have idle : slot.inUse = false := Bool.eq_false_iff.mpr unused
  have skipped := List.find?_eq_none.mp none slot member
  simp [idleConnected, idle, capacity.ready slot member idle] at skipped

theorem Capacity.second_scan (capacity : Capacity poolSize next pool) :
    pool.find? idleUnconnected = none := by
  apply List.find?_eq_none.mpr
  intro slot member idle
  simp only [idleUnconnected, Bool.and_eq_true, Bool.not_eq_true'] at idle
  have connected := capacity.ready slot member idle.1
  rw [idle.2] at connected
  cases connected

end Capacity

/-- The pool of a state within its capacity. -/
def Bounded (settings : Settings) (state : State) : Prop :=
  Capacity settings.poolSize state.next state.pool

/-- A response is received on a connected stream only. -/
def receivesConnected (state : State) : Label → Bool
  | .read task (.ok _) _ =>
    match state.phase task with
    | .reading _ conn _ _ => isConnected state.pool conn
    | _ => true
  | _ => true

def answeredConnected (state : State) (label : Label) : Prop :=
  receivesConnected state label = true

instance (state : State) (label : Label) : Decidable (answeredConnected state label) :=
  inferInstanceAs (Decidable (receivesConnected state label = true))

section Runs

variable {settings : Settings} {state after : State} {task attempt : Nat} {label : Label}

theorem Bounded.acquire (bounded : Bounded settings state) (sni : Bool) :
    Bounded settings (acquire state task attempt sni) := by
  have capacity : Capacity settings.poolSize state.next state.pool := bounded
  unfold HttpClient.acquire
  split
  · rename_i slot found
    exact capacity.reserve slot.id
  · rename_i none
    rw [capacity.second_scan]
    cases sni with
    | true => exact capacity.append (capacity.busy none)
    | false =>
      have failed : Bounded settings
          (connectFails { state with
            pool := state.pool ++ [Slot.fresh state.next]
            next := state.next + 1 } task true (.network "Failed to set SNI hostname")) :=
        (capacity.append (capacity.busy none)).sublist (List.dropLast_sublist _)
      exact failed

theorem Bounded.caught {wasPreconnected sni : Bool} {failure : Failure}
    (bounded : Bounded settings state)
    (caught : Caught state task attempt wasPreconnected sni failure after) :
    Bounded settings after := by
  cases caught with
  | ended message final => exact bounded
  | retried again more => exact bounded.acquire sni

theorem Bounded.requestFails (bounded : Bounded settings state) (conn : Option Nat)
    (wasPreconnected : Bool) (failure : Failure) (sni : Bool) :
    Bounded settings
      (requestFails settings.poolSize state task attempt conn wasPreconnected failure sni) := by
  have released : Bounded settings
      ((state.setPool (releaseConnection settings.poolSize state.pool conn false)).record task
        (.broke failure)) :=
    Capacity.release bounded nofun
  exact released.caught
    (HttpClient.caught settings.poolSize state task attempt conn wasPreconnected failure sni)

theorem Bounded.step (bounded : Bounded settings state) (connected : answeredConnected state label)
    (taken : (machine settings).step state label = some after) : Bounded settings after := by
  cases label with
  | execute task sni =>
    simp only [machine, HttpClient.step] at taken
    split at taken <;> cases taken
    exact bounded.acquire sni
  | connectStep task outcome =>
    cases transition_of_step taken with
    | @connectFails task attempt slot position created stage message waiting =>
      cases created with
      | false => exact bounded
      | true => exact Capacity.sublist bounded (List.dropLast_sublist _)
    | connectAdvances later waiting => exact bounded
    | connectCompletes waiting => exact Capacity.connected bounded _
  | write task outcome sni =>
    cases transition_of_step taken with
    | writeCompletes waiting => exact bounded
    | writeFails waiting => exact bounded.requestFails _ _ _ _
  | read task outcome sni =>
    cases transition_of_step taken with
    | readCompletes waiting =>
      simp only [answeredConnected, receivesConnected, waiting] at connected
      exact Capacity.release bounded fun _ => connected
    | readFails waiting => exact bounded.requestFails _ _ _ _

end Runs

/-- In every state of every run in which responses are received on connected streams
only: a pool beyond its size has no idle connection, at most as many connections are
idle as the pool is meant to hold, every idle connection is connected, and the second
scan of `acquire_connection` finds nothing. -/
theorem pool_within_capacity {settings : Settings} {state : State}
    (reached : (machine settings).Reachable answeredConnected initial state) :
    (settings.poolSize < state.pool.length → ∀ slot ∈ state.pool, slot.inUse = true) ∧
      state.pool.countP (fun slot => !slot.inUse) ≤ settings.poolSize ∧
        (∀ slot ∈ state.pool, slot.inUse = false → slot.connected = true) ∧
          state.pool.find? idleUnconnected = none := by
  have bounded : Bounded settings state :=
    reached.invariant Capacity.empty fun bounded connected taken => bounded.step connected taken
  refine ⟨bounded.full, ?_, bounded.ready, bounded.second_scan⟩
  by_cases beyond : settings.poolSize < state.pool.length
  · have none : state.pool.countP (fun slot => !slot.inUse) = 0 := by
      apply List.countP_eq_zero.mpr
      intro slot member
      simp [bounded.full beyond slot member]
    omega
  · have bound := List.countP_le_length (l := state.pool) (p := fun slot => !slot.inUse)
    omega

/-- Two calls connect, one of them is answered, and its connection is idle. -/
theorem answered_connection_idle :
    ∃ state, (machine orderClient).Reachable answeredConnected initial state ∧
      state.pool = [⟨0, false, true⟩, ⟨1, true, true⟩] ∧
        state.pool.countP (fun slot => !slot.inUse) ≤ orderClient.poolSize := by
  have answered : ∃ state, (machine orderClient).Reachable answeredConnected initial state ∧
      state.pool = [⟨0, false, true⟩, ⟨1, true, true⟩] :=
    Machine.exists_reachable_of_run
      ([.execute 0 true, .execute 1 true] ++ connect 0 ++ connect 1 ++
        [.write 0 (.ok ()) true, .read 0 (.ok ⟨11, 200, [], ""⟩) true]) (by decide)
  obtain ⟨state, reached, pool⟩ := answered
  exact ⟨state, reached, pool, (pool_within_capacity reached).2.1⟩

end Bintrade.Rest.HttpClient
