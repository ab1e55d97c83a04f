import Bintrade.Rest.PoolIdentity

/-! Who owns a pooled connection. A call that connects or runs a request owns the
connection it marked as used; no two calls own the same one. -/

namespace Bintrade.Rest.HttpClient

open Bintrade.System

/-- The connection that a call marked as used. -/
def Phase.slot? : Phase → Option Nat
  | .connecting _ slot _ _ _ => some slot
  | .writing _ _ reserved _ => some reserved
  | .reading _ _ reserved _ => some reserved
  | _ => none

/-- The pointer that `acquire_connection` returned to a call that has not released it
yet, with the connection that the call marked as used. -/
def Phase.held? : Phase → Option (Option Nat × Nat)
  | .writing _ conn reserved _ => some (conn, reserved)
  | .reading _ conn reserved _ => some (conn, reserved)
  | _ => none

/-- The connection a call owns is in the pool and in use, and connected once the call
runs its request on it. -/
def Phase.Sound (pool : List Slot) : Phase → Prop
  | .connecting _ slot _ _ _ => ∃ own ∈ pool, own.id = slot ∧ own.inUse = true
  | .writing _ conn reserved _ => conn = some reserved ∧
      ∃ own ∈ pool, own.id = reserved ∧ own.inUse = true ∧ own.connected = true
  | .reading _ conn reserved _ => conn = some reserved ∧
      ∃ own ∈ pool, own.id = reserved ∧ own.inUse = true ∧ own.connected = true
  | _ => True

theorem Phase.Sound.keep {phase : Phase} {pool later : List Slot} (sound : phase.Sound pool)
    (kept : ∀ slot ∈ pool, phase.slot? = some slot.id → slot ∈ later) : phase.Sound later := by
  cases phase with
  | connecting attempt slot position created stage =>
    obtain ⟨own, member, rfl, used⟩ := sound
    exact ⟨own, kept own member rfl, rfl, used⟩
  | writing attempt conn reserved wasPreconnected
  | reading attempt conn reserved wasPreconnected =>
    obtain ⟨same, own, member, rfl, used⟩ := sound
    exact ⟨same, own, kept own member rfl, rfl, used⟩
  | _ => trivial

theorem Phase.Sound.inUse {phase : Phase} {pool : List Slot} {id : Nat} (sound : phase.Sound pool)
    (owns : phase.slot? = some id) : ∃ own ∈ pool, own.id = id ∧ own.inUse = true := by
  cases phase with
  | connecting attempt slot position created stage =>
    cases owns
    exact sound
  | writing attempt conn reserved wasPreconnected
  | reading attempt conn reserved wasPreconnected =>
    cases owns
    obtain ⟨-, own, member, same, used, -⟩ := sound
    exact ⟨own, member, same, used⟩
  | _ => cases owns

/-- The invariant of all calls but one. -/
structure Others (task : Nat) (state : State) : Prop where
  distinct : (state.pool.map Slot.id).Nodup
  fresh : ∀ slot ∈ state.pool, slot.id < state.next
  sound : ∀ other ≠ task, (state.phase other).Sound state.pool
  apart : ∀ first second id, first ≠ task → second ≠ task →
    (state.phase first).slot? = some id → (state.phase second).slot? = some id → first = second

structure Invariant (state : State) : Prop where
  distinct : (state.pool.map Slot.id).Nodup
  fresh : ∀ slot ∈ state.pool, slot.id < state.next
  sound : ∀ task, (state.phase task).Sound state.pool
  apart : ∀ first second id, (state.phase first).slot? = some id →
    (state.phase second).slot? = some id → first = second

/-- No call but one owns the connection. -/
def Unclaimed (task : Nat) (state : State) (id : Nat) : Prop :=
  ∀ other ≠ task, (state.phase other).slot? ≠ some id

section Ownership

variable {state : State} {task : Nat}

theorem Invariant.initial : Invariant initial where
  distinct := .nil
  fresh := nofun
  sound _ := trivial
  apart := nofun

theorem Invariant.others (invariant : Invariant state) (task : Nat) : Others task state where
  distinct := invariant.distinct
  fresh := invariant.fresh
  sound other _ := invariant.sound other
  apart first second id _ _ := invariant.apart first second id

/-- A call in a phase that owns a connection is the only one to own it. -/
theorem Invariant.atPhase {phase : Phase} {id : Nat} (invariant : Invariant state)
    (current : state.phase task = phase) (owns : phase.slot? = some id) :
    phase.Sound state.pool ∧ Unclaimed task state id := by
  subst current
  refine ⟨invariant.sound task, ?_⟩
  intro other different claimed
  exact different (invariant.apart other task id claimed owns)

theorem eq_of_id {pool : List Slot} (distinct : (pool.map Slot.id).Nodup) {first second : Slot}
    (here : first ∈ pool) (there : second ∈ pool) (same : first.id = second.id) : first = second :=
  List.inj_on_of_nodup_map distinct here there same

/-- An idle connection is owned by nobody. -/
theorem Others.unclaimed_of_idle {slot : Slot} (others : Others task state)
    (found : slot ∈ state.pool) (idle : slot.inUse = false) : Unclaimed task state slot.id := by
  intro other different claimed
  obtain ⟨own, member, same, used⟩ := (others.sound other different).inUse claimed
  rw [eq_of_id others.distinct member found same, idle] at used
  cases used

/-- A connection not yet created is owned by nobody. -/
theorem Others.unclaimed_next (others : Others task state) : Unclaimed task state state.next := by
  intro other different claimed
  obtain ⟨own, member, same, -⟩ := (others.sound other different).inUse claimed
  have below := others.fresh own member
  omega

theorem Others.identified (others : Others task state) : Identified state.next state.pool :=
  ⟨others.distinct, others.fresh⟩

/-- The pool may change as long as no connection of another call is lost. -/
theorem Others.setPool {pool : List Slot} (others : Others task state)
    (identified : Identified state.next pool)
    (kept : ∀ slot ∈ state.pool, ¬ Unclaimed task state slot.id → slot ∈ pool) :
    Others task (state.setPool pool) where
  distinct := identified.distinct
  fresh := identified.fresh
  sound other different := (others.sound other different).keep fun slot member owns =>
    kept slot member fun unclaimed => unclaimed other different owns
  apart := others.apart

theorem Others.record (others : Others task state) (event : Event) :
    Others task (state.record task event) where
  distinct := others.distinct
  fresh := others.fresh
  sound := others.sound
  apart := others.apart

/-- The call comes back with a phase that is sound and owns nothing of another. -/
theorem Others.setPhase {phase : Phase} (others : Others task state)
    (sound : phase.Sound state.pool)
    (unclaimed : ∀ id, phase.slot? = some id → Unclaimed task state id) :
    Invariant (state.setPhase task phase) where
  distinct := others.distinct
  fresh := others.fresh
  sound other := by
    simp only [State.setPhase]
    by_cases same : other = task
    · rw [same, Function.update_self]
      exact sound
    · rw [Function.update_of_ne same]
      exact others.sound other same
  apart := by
    intro first second id
    simp only [State.setPhase]
    by_cases firstSame : first = task
    · by_cases secondSame : second = task
      · intro _ _
        rw [firstSame, secondSame]
      · rw [firstSame, Function.update_self, Function.update_of_ne secondSame]
        intro owns claimed
        exact absurd claimed (unclaimed id owns second secondSame)
    · by_cases secondSame : second = task
      · rw [secondSame, Function.update_self, Function.update_of_ne firstSame]
        intro claimed owns
        exact absurd claimed (unclaimed id owns first firstSame)
      · rw [Function.update_of_ne firstSame, Function.update_of_ne secondSame]
        exact others.apart first second id firstSame secondSame

theorem Others.occupy {phase : Phase} {id : Nat} (others : Others task state)
    (sound : phase.Sound state.pool) (owns : phase.slot? = some id)
    (unclaimed : Unclaimed task state id) : Invariant (state.setPhase task phase) := by
  apply others.setPhase sound
  intro other same
  rw [owns] at same
  cases same
  exact unclaimed

/-- A call that ends owns nothing any more. -/
theorem Others.finish {phase : Phase} (others : Others task state) (ended : phase.slot? = none)
    (sound : phase.Sound state.pool) : Invariant (state.setPhase task phase) := by
  apply others.setPhase sound
  intro id owns
  rw [ended] at owns
  cases owns

theorem mem_onSlot {pool : List Slot} (id : Nat) (change : Slot → Slot) {slot : Slot}
    (member : slot ∈ pool) :
    (if slot.id = id then change slot else slot) ∈ onSlot pool id change :=
  List.mem_map_of_mem member

/-- A change of a connection keeps its identity and the other connections. -/
theorem Others.onSlot {id : Nat} (others : Others task state) (change : Slot → Slot)
    (same : ∀ slot, (change slot).id = slot.id) (unclaimed : Unclaimed task state id) :
    Others task (state.setPool (onSlot state.pool id change)) := by
  apply others.setPool (others.identified.of_ids (onSlot_sublist state.pool id change same))
  intro slot member claimed
  have different : slot.id ≠ id := fun equal => claimed (equal ▸ unclaimed)
  have kept := mem_onSlot id change member
  rw [if_neg different] at kept
  exact kept

/-- Releasing a connection that no other call owns. -/
theorem Others.release {id : Nat} (others : Others task state) (unclaimed : Unclaimed task state id)
    (poolSize : Nat) (keepAlive : Bool) :
    Others task (state.setPool (releaseConnection poolSize state.pool (some id) keepAlive)) := by
  unfold releaseConnection
  split
  · exact others
  · rename_i slot found
    have sameId : slot.id = id := by simpa using List.find?_some found
    split
    · apply others.setPool (others.identified.of_ids (List.eraseP_sublist.map _))
      intro other member claimed
      have different : other.id ≠ id := fun equal => claimed (equal ▸ unclaimed)
      exact (List.mem_eraseP_of_neg (by simpa using different)).mpr member
    · rw [sameId]
      exact others.onSlot _ (fun _ => rfl) unclaimed

theorem Others.grow (others : Others task state) :
    Others task { state with next := state.next + 1 } where
  distinct := others.distinct
  fresh slot member := Nat.lt_succ_of_lt (others.fresh slot member)
  sound := others.sound
  apart := others.apart

theorem Others.append (others : Others task state) :
    Others task { state with
      pool := state.pool ++ [Slot.fresh state.next]
      next := state.next + 1 } := by
  have grown : Identified (state.next + 1) (state.pool ++ [Slot.fresh state.next]) :=
    others.identified.of_grown_ids (by rw [List.map_append]; exact .refl _)
  apply others.grow.setPool grown
  intro slot member _
  exact List.mem_append_left _ member

theorem Others.reserve {slot : Slot} (others : Others task state) (found : slot ∈ state.pool)
    (idle : slot.inUse = false) :
    Others task (state.setPool (HttpClient.onSlot state.pool slot.id Slot.reserve)) :=
  others.onSlot Slot.reserve (fun _ => rfl) (others.unclaimed_of_idle found idle)

theorem reserve_mem {pool : List Slot} {slot : Slot} (found : slot ∈ pool) :
    slot.reserve ∈ onSlot pool slot.id Slot.reserve := by
  have reserved := mem_onSlot slot.id Slot.reserve found
  rw [if_pos rfl] at reserved
  exact reserved

/-- `acquire_connection` gives the call a connection of its own. -/
theorem Others.acquire {attempt : Nat} {after : State} (others : Others task state)
    (acquired : Acquired state task attempt after) : Invariant after := by
  cases acquired with
  | @reused slot found idle alive =>
    refine (others.reserve found idle).occupy ?_ rfl (others.unclaimed_of_idle found idle)
    exact ⟨rfl, slot.reserve, reserve_mem found, rfl, rfl, alive⟩
  | @reconnecting slot position found idle dead =>
    refine (others.reserve found idle).occupy ?_ rfl (others.unclaimed_of_idle found idle)
    exact ⟨slot.reserve, reserve_mem found, rfl, rfl⟩
  | abandoned found idle dead error => exact (others.reserve found idle).finish rfl trivial
  | created =>
    refine others.append.occupy ?_ rfl others.unclaimed_next
    exact ⟨Slot.fresh state.next, List.mem_append_right _ (List.mem_singleton_self _), rfl, rfl⟩
  | discarded error => exact others.grow.finish rfl trivial

theorem Others.caught {attempt : Nat} {wasPreconnected sni : Bool} {failure : Failure}
    {after : State} (others : Others task state)
    (caught : Caught state task attempt wasPreconnected sni failure after) : Invariant after := by
  cases caught with
  | ended message final => exact others.finish rfl trivial
  | retried again more => exact others.acquire (acquired state task (attempt + 1) sni)

/-- A failed attempt gives up its connection and, if it is retried, gets a new one. -/
theorem Others.requestFails {id attempt : Nat} (others : Others task state)
    (unclaimed : Unclaimed task state id) (poolSize : Nat) (wasPreconnected : Bool)
    (failure : Failure) (sni : Bool) :
    Invariant (requestFails poolSize state task attempt (some id) wasPreconnected failure sni) := by
  have released := (others.release unclaimed poolSize false).record (.broke failure)
  exact released.caught
    (HttpClient.caught poolSize state task attempt (some id) wasPreconnected failure sni)

/-- `pop_back` removes the connection that the failing call appended. -/
theorem Others.popBack {id : Nat} (others : Others task state) (unclaimed : Unclaimed task state id)
    (last : state.pool.getLast?.map Slot.id = some id) :
    Others task (state.setPool state.pool.dropLast) := by
  obtain ⟨slot, found, rfl⟩ := Option.map_eq_some_iff.mp last
  obtain ⟨earlier, split⟩ := List.getLast?_eq_some_iff.mp found
  apply others.setPool (others.identified.of_ids ((List.dropLast_sublist _).map _))
  intro other member claimed
  rw [split, List.dropLast_concat]
  rw [split] at member
  rcases List.mem_append.mp member with before | final
  · exact before
  · rw [List.mem_singleton.mp final] at claimed
    exact absurd unclaimed claimed

/-- `do_connect` has finished on the connection that the call refers to. -/
theorem Invariant.connectCompletes {attempt slot position : Nat} {created : Bool}
    (invariant : Invariant state)
    (waiting : state.phase task = .connecting attempt slot position created .handshaking)
    (there : state.pool[position]?.map Slot.id = some slot) :
    Invariant (connectCompletes state task attempt slot position) := by
  obtain ⟨⟨own, member, same, used⟩, unclaimed⟩ := invariant.atPhase waiting rfl
  have connected := mem_onSlot slot (fun slot => { slot with connected := true }) member
  rw [if_pos same] at connected
  refine ((invariant.others task).onSlot (fun slot => { slot with connected := true })
    (fun _ => rfl) unclaimed).occupy ⟨?_, _, connected, same, used, rfl⟩ rfl unclaimed
  rw [getElem?_onSlot_id state.pool slot position (fun slot => { slot with connected := true })
    fun _ => rfl]
  exact there

end Ownership

/-- When `do_connect` returns, the connection it made stands where the call's
reference points; when it throws, a connection that the call appended is the last. -/
def connectsInPlace (state : State) : Label → Bool
  | .connectStep task (.ok _) =>
    match state.phase task with
    | .connecting _ slot position _ .handshaking => state.pool[position]?.map Slot.id = some slot
    | _ => true
  | .connectStep task (.error _) =>
    match state.phase task with
    | .connecting _ slot _ true _ => state.pool.getLast?.map Slot.id = some slot
    | _ => true
  | _ => true

def settledInPlace (state : State) (label : Label) : Prop := connectsInPlace state label = true

instance (state : State) (label : Label) : Decidable (settledInPlace state label) :=
  inferInstanceAs (Decidable (connectsInPlace state label = true))

theorem Invariant.step {settings : Settings} {state after : State} {label : Label}
    (invariant : Invariant state) (inPlace : settledInPlace state label)
    (taken : (machine settings).step state label = some after) : Invariant after := by
  cases transition_of_step taken with
  | @execute task sni after fresh acquired => exact (invariant.others task).acquire acquired
  | @connectFails task attempt slot position created stage message waiting =>
    have others := invariant.others task
    cases created with
    | false => exact others.finish rfl trivial
    | true =>
      obtain ⟨-, unclaimed⟩ := invariant.atPhase waiting rfl
      simp only [settledInPlace, connectsInPlace, waiting, decide_eq_true_eq] at inPlace
      exact (others.popBack unclaimed inPlace).finish rfl trivial
  | @connectAdvances task attempt slot position created stage later waiting =>
    obtain ⟨sound, unclaimed⟩ := invariant.atPhase waiting rfl
    exact (invariant.others task).occupy sound rfl unclaimed
  | connectCompletes waiting =>
    simp only [settledInPlace, connectsInPlace, waiting, decide_eq_true_eq] at inPlace
    exact invariant.connectCompletes waiting inPlace
  | @writeCompletes task attempt conn reserved wasPreconnected sni waiting =>
    obtain ⟨sound, unclaimed⟩ := invariant.atPhase waiting rfl
    exact ((invariant.others task).record _).occupy sound rfl unclaimed
  | @writeFails task attempt conn reserved wasPreconnected sni failure waiting
  | @readFails task attempt conn reserved wasPreconnected sni failure waiting =>
    obtain ⟨⟨same, -⟩, unclaimed⟩ := invariant.atPhase waiting rfl
    rw [same]
    exact (invariant.others task).requestFails unclaimed _ _ _ _
  | @readCompletes task attempt conn reserved wasPreconnected sni raw waiting =>
    obtain ⟨⟨same, -⟩, unclaimed⟩ := invariant.atPhase waiting rfl
    rw [same]
    exact (((invariant.others task).release unclaimed _ _).record _).finish rfl trivial

/-- Every call that holds a connection holds the one it marked as used, which is
connected and in the pool, and no other call holds it. -/
structure Exclusive (state : State) : Prop where
  own : ∀ task conn reserved, (state.phase task).held? = some (conn, reserved) →
    conn = some reserved ∧
      ∃ slot ∈ state.pool, slot.id = reserved ∧ slot.inUse = true ∧ slot.connected = true
  alone : ∀ first second conn reserved other, (state.phase first).held? = some (conn, reserved) →
    (state.phase second).held? = some (conn, other) → first = second

theorem Phase.Sound.held {phase : Phase} {pool : List Slot} {conn : Option Nat} {reserved : Nat}
    (sound : phase.Sound pool) (holds : phase.held? = some (conn, reserved)) :
    phase.slot? = some reserved ∧ conn = some reserved ∧
      ∃ slot ∈ pool, slot.id = reserved ∧ slot.inUse = true ∧ slot.connected = true := by
  cases phase with
  | writing attempt conn reserved wasPreconnected
  | reading attempt conn reserved wasPreconnected =>
    cases holds
    exact ⟨rfl, sound⟩
  | _ => cases holds

theorem Invariant.exclusive {state : State} (invariant : Invariant state) : Exclusive state where
  own task _ _ holds := ((invariant.sound task).held holds).2
  alone := by
    intro first second conn reserved other firstHolds secondHolds
    obtain ⟨firstOwns, firstConn, -⟩ := (invariant.sound first).held firstHolds
    obtain ⟨secondOwns, secondConn, -⟩ := (invariant.sound second).held secondHolds
    rw [firstConn] at secondConn
    cases secondConn
    exact invariant.apart first second reserved firstOwns secondOwns

/-- In every run in which each `do_connect` ends in place, a connection is used by at
most one request at a time. -/
theorem pooled_connection_exclusive {settings : Settings} {state : State}
    (reached : (machine settings).Reachable settledInPlace initial state) : Exclusive state := by
  have invariant : Invariant state :=
    reached.invariant Invariant.initial fun invariant inPlace taken => invariant.step inPlace taken
  exact invariant.exclusive

theorem two_connections_exclusive :
    ∃ state, (machine orderClient).Reachable settledInPlace initial state ∧
      (state.phase 0).held? = some (some 0, 0) ∧ (state.phase 1).held? = some (some 1, 1) ∧
        Exclusive state := by
  have running : ∃ state, (machine orderClient).Reachable settledInPlace initial state ∧
      ((state.phase 0).held? = some (some 0, 0) ∧ (state.phase 1).held? = some (some 1, 1)) :=
    Machine.exists_reachable_of_run
      ([.execute 0 true, .execute 1 true] ++ connect 0 ++ connect 1) (by decide)
  obtain ⟨state, reached, first, second⟩ := running
  exact ⟨state, reached, first, second, pooled_connection_exclusive reached⟩

/-- A response after which the server closes the connection. -/
def closing : RawResponse where
  version := 11
  statusCode := 200
  fields := [("Connection", "close")]
  body := ""

/-- Three calls: the first is answered and its connection erased while the second
still connects, whose reference then points to the connection of the third. -/
theorem connection_shared :
    ∃ state, (machine orderClient).Reachable Machine.anyStep initial state ∧
      ((state.phase 1).held? = some (some 2, 1) ∧ (state.phase 2).held? = some (some 2, 2)) :=
  Machine.exists_reachable_of_run
    ([.execute 0 true] ++ connect 0 ++ [.execute 1 true, .execute 2 true] ++ connect 2 ++
      [.write 0 (.ok ()) true, .read 0 (.ok closing) true] ++ connect 1) (by decide)

end Bintrade.Rest.HttpClient
