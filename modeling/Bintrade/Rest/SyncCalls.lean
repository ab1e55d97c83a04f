import Bintrade.Rest.CallTermination

/-! The blocking methods of `HttpClient`, and `sync_await`. They spawn a coroutine on the
executor of the client and wait on a future for its result; the coroutines make progress on
the I/O thread, which must not wait itself. -/

namespace Bintrade.Rest.SyncCalls

open Bintrade.System Bintrade.Core

/-- `waiting` lists the calls that other threads wait for. `blocked` is the call that the I/O
thread waits for, if code that runs on the executor made one. -/
structure State where
  client : HttpClient.State
  waiting : List Nat
  blocked : Option Nat

def initial : State := ⟨HttpClient.initial, [], none⟩

/-- A thread that waits is woken once its call has ended. -/
inductive Label where
  | coroutine (label : HttpClient.Label)
  | call (task : Nat)
  | callOnExecutor (task : Nat)
  | wake (task : Nat)
  | resume

def started : HttpClient.Phase → Bool
  | .notStarted => false
  | _ => true

/-- A coroutine that was not spawned yet. -/
def unused (state : State) (task : Nat) : Bool :=
  !started (state.client.phase task) && !state.waiting.contains task && state.blocked != some task

def step (settings : HttpClient.Settings) (state : State) : Label → Option State
  | .coroutine label =>
    if state.blocked = none then
      (HttpClient.step settings state.client label).map fun client => { state with client }
    else none
  | .call task =>
    if unused state task then some { state with waiting := task :: state.waiting } else none
  | .callOnExecutor task =>
    if state.blocked = none ∧ unused state task then some { state with blocked := some task }
    else none
  | .wake task =>
    if task ∈ state.waiting ∧ (state.client.phase task).ended then
      some { state with waiting := state.waiting.erase task }
    else none
  | .resume =>
    match state.blocked with
    | some task =>
      if (state.client.phase task).ended then some { state with blocked := none } else none
    | none => none

def machine (settings : HttpClient.Settings) : Machine State Label := ⟨step settings⟩

/-- Everything one step can do. -/
inductive Transition (settings : HttpClient.Settings) (state : State) : Label → State → Prop where
  | coroutine {label : HttpClient.Label} {client : HttpClient.State}
      (free : state.blocked = none)
      (moved : (HttpClient.machine settings).step state.client label = some client) :
      Transition settings state (.coroutine label) { state with client }
  | call {task : Nat} (fresh : unused state task = true) :
      Transition settings state (.call task) { state with waiting := task :: state.waiting }
  | callOnExecutor {task : Nat} (free : state.blocked = none) (fresh : unused state task = true) :
      Transition settings state (.callOnExecutor task) { state with blocked := some task }
  | wake {task : Nat} (waits : task ∈ state.waiting)
      (ended : (state.client.phase task).ended = true) :
      Transition settings state (.wake task)
        { state with waiting := state.waiting.erase task }
  | resume {task : Nat} (waits : state.blocked = some task)
      (ended : (state.client.phase task).ended = true) :
      Transition settings state .resume { state with blocked := none }

variable {settings : HttpClient.Settings} {state after : State} {label : Label} {task : Nat}

theorem transition_of_step (taken : (machine settings).step state label = some after) :
    Transition settings state label after := by
  cases label with
  | coroutine label =>
    obtain ⟨free, mapped⟩ := Option.ite_none_right_eq_some.mp taken
    obtain ⟨client, moved, rfl⟩ := Option.map_eq_some_iff.mp mapped
    exact .coroutine free moved
  | call task =>
    obtain ⟨fresh, moved⟩ := Option.ite_none_right_eq_some.mp taken
    rw [← Option.some.inj moved]
    exact .call fresh
  | callOnExecutor task =>
    obtain ⟨⟨free, fresh⟩, moved⟩ := Option.ite_none_right_eq_some.mp taken
    rw [← Option.some.inj moved]
    exact .callOnExecutor free fresh
  | wake task =>
    obtain ⟨⟨waits, ended⟩, moved⟩ := Option.ite_none_right_eq_some.mp taken
    rw [← Option.some.inj moved]
    exact .wake waits ended
  | resume =>
    simp only [machine, step] at taken
    split at taken
    · obtain ⟨ended, moved⟩ := Option.ite_none_right_eq_some.mp taken
      rw [← Option.some.inj moved]
      exact .resume ‹_› ended
    · cases taken

theorem client_reachable {permitted : State → Label → Prop}
    (reached : (machine settings).Reachable permitted initial state) :
    (HttpClient.machine settings).Reachable Machine.anyStep HttpClient.initial state.client := by
  induction reached with
  | start => exact .start
  | next earlier _ taken ih =>
    cases transition_of_step taken with
    | coroutine free moved => exact .next ih trivial moved
    | call | callOnExecutor | wake | resume => exact ih

theorem unused_not_ended (fresh : unused state task = true) :
    (state.client.phase task).ended = false ∧ task ∉ state.waiting := by
  simp only [unused, Bool.and_eq_true, Bool.not_eq_true', List.contains_eq_mem,
    decide_eq_false_iff_not] at fresh
  refine ⟨?_, fresh.1.2⟩
  cases place : state.client.phase task with
  | notStarted | connecting | writing | reading => rfl
  | returned | failed =>
    have unstarted := fresh.1.1
    rw [place] at unstarted
    cases unstarted

/-- A thread waits for a call of its own, and the I/O thread for one that has not ended. -/
structure Waits (state : State) : Prop where
  apart : state.waiting.Nodup
  stuck : ∀ task, state.blocked = some task → (state.client.phase task).ended = false

theorem Waits.step (waits : Waits state)
    (taken : (machine settings).step state label = some after) : Waits after := by
  cases transition_of_step taken with
  | coroutine free moved =>
    refine ⟨waits.apart, ?_⟩
    intro task blocked
    rw [show state.blocked = some task from blocked] at free
    cases free
  | call fresh => exact ⟨.cons (unused_not_ended fresh).2 waits.apart, waits.stuck⟩
  | callOnExecutor free fresh =>
    refine ⟨waits.apart, ?_⟩
    rintro _ ⟨⟩
    exact (unused_not_ended fresh).1
  | wake present ended => exact ⟨waits.apart.erase _, waits.stuck⟩
  | resume blocked ended => exact ⟨waits.apart, nofun⟩

theorem reachable_waits (reached : (machine settings).Reachable Machine.anyStep initial state) :
    Waits state :=
  reached.invariant ⟨.nil, nofun⟩ fun waits _ taken => waits.step taken

/-- No coroutine has gone on, the I/O thread waits as before, and so does every thread whose call
had not ended. -/
structure Frozen (before state : State) : Prop where
  client : state.client = before.client
  blocked : state.blocked = before.blocked
  waiting : ∀ task ∈ before.waiting, (before.client.phase task).ended = false →
    task ∈ state.waiting

theorem Frozen.step {before : State} {other : Nat} (frozen : Frozen before state)
    (blocked : before.blocked = some other)
    (stuck : (before.client.phase other).ended = false)
    (taken : (machine settings).step state label = some after) : Frozen before after := by
  have held : state.blocked = some other := frozen.blocked.trans blocked
  cases transition_of_step taken with
  | coroutine free moved =>
    rw [held] at free
    cases free
  | call fresh =>
    refine ⟨frozen.client, frozen.blocked, ?_⟩
    intro task waits running
    exact .tail _ (frozen.waiting task waits running)
  | callOnExecutor free fresh =>
    rw [held] at free
    cases free
  | @wake woken present ended =>
    refine ⟨frozen.client, frozen.blocked, ?_⟩
    intro task waits running
    refine (List.mem_erase_of_ne ?_).mpr (frozen.waiting task waits running)
    rintro rfl
    rw [frozen.client, running] at ended
    cases ended
  | resume waits ended =>
    obtain rfl : other = _ := Option.some.inj (held.symm.trans waits)
    rw [frozen.client, stuck] at ended
    cases ended

/-- Once the I/O thread waits for a call, nothing but further calls and the waking of threads
whose calls had ended can happen. -/
theorem frozen_of_blocked {later : State} {other : Nat}
    (reached : (machine settings).Reachable Machine.anyStep initial state)
    (blocked : state.blocked = some other)
    (onward : (machine settings).Reachable Machine.anyStep state later) : Frozen state later := by
  have stuck := (reachable_waits reached).stuck other blocked
  have start : Frozen state state := ⟨rfl, rfl, fun _ waits _ => waits⟩
  exact onward.invariant start fun held _ taken => held.step blocked stuck taken

/-- A free I/O thread can bring a call to its end. -/
theorem reaches_end (reached : (machine settings).Reachable Machine.anyStep initial state)
    (free : state.blocked = none) :
    ∃ later, (machine settings).Reachable Machine.anyStep state later ∧
      (later.client.phase task).ended = true ∧ later.waiting = state.waiting := by
  -- Every step of the call leaves it fewer steps.
  induction bound : (state.client.phase task).left using Nat.strong_induction_on
    generalizing state with
  | _ left ih =>
    subst bound
    rcases Bool.eq_false_or_eq_true (state.client.phase task).ended with ended | running
    · exact ⟨state, .start, ended, rfl⟩
    · have possible : ∃ inner : HttpClient.Label, inner.task = task ∧
          ((HttpClient.machine settings).step state.client inner).isSome :=
        HttpClient.enabled_of_not_ended running
      obtain ⟨inner, rfl, enabled⟩ := possible
      obtain ⟨client, moved⟩ := Option.isSome_iff_exists.mp enabled
      have taken : (machine settings).step state (.coroutine inner) =
          some { state with client } := by
        have evaluated : HttpClient.step settings state.client inner = some client := moved
        simp only [machine, step, free, if_true, evaluated, Option.map_some]
      have fewer := HttpClient.left_lt_of_step
        (HttpClient.reachable_log rfl rfl (client_reachable reached)) moved
      obtain ⟨later, onward, ended, same⟩ := ih _ fewer (reached.next trivial taken) free rfl
      exact ⟨later, Machine.Reachable.trans (.next .start trivial taken) onward, ended, same⟩

/-- In every state that any calls from any threads lead to: a thread that waits for a call
that has not ended yet can be woken exactly if the I/O thread does not wait for a call itself.
If it does, that call has not ended, and whatever happens later, no coroutine goes on, the I/O
thread waits on, and so does every thread whose call had not ended. -/
theorem sync_call_returns_iff
    (reached : (machine settings).Reachable Machine.anyStep initial state) :
    (∀ task ∈ state.waiting, (state.client.phase task).ended = false →
      ((∃ later, (machine settings).Reachable Machine.anyStep state later ∧
        task ∉ later.waiting) ↔ state.blocked = none)) ∧
      ∀ other, state.blocked = some other →
        (state.client.phase other).ended = false ∧
          ∀ later, (machine settings).Reachable Machine.anyStep state later →
            Frozen state later := by
  refine ⟨?_, ?_⟩
  · intro task waits running
    constructor
    · rintro ⟨later, onward, woken⟩
      cases blocked : state.blocked with
      | none => rfl
      | some other =>
        have frozen := frozen_of_blocked reached blocked onward
        exact absurd (frozen.waiting task waits running) woken
    · intro free
      obtain ⟨later, onward, ended, same⟩ := reaches_end reached free
      have present : task ∈ later.waiting := same ▸ waits
      have taken : (machine settings).step later (.wake task) =
          some { later with waiting := later.waiting.erase task } := if_pos ⟨present, ended⟩
      refine ⟨_, onward.next trivial taken, ?_⟩
      exact (reachable_waits (reached.trans onward)).apart.not_mem_erase
  · intro other blocked
    refine ⟨(reachable_waits reached).stuck other blocked, ?_⟩
    intro later onward
    exact frozen_of_blocked reached blocked onward

/-- A call from a thread of its own can return; the same call, and the one that code on the
executor made before it, never do. -/
theorem sync_call_returns_iff_executor :
    (∃ state, (machine HttpClient.orderClient).Reachable Machine.anyStep initial state ∧
      ∃ later, (machine HttpClient.orderClient).Reachable Machine.anyStep state later ∧
        0 ∈ state.waiting ∧ 0 ∉ later.waiting) ∧
      ∃ state, (machine HttpClient.orderClient).Reachable Machine.anyStep initial state ∧
        0 ∈ state.waiting ∧ state.blocked = some 1 ∧
          ∀ later, (machine HttpClient.orderClient).Reachable Machine.anyStep state later →
            0 ∈ later.waiting ∧ later.blocked = some 1 := by
  constructor
  · obtain ⟨state, evaluated, waits, running, free⟩ :
        ∃ state, (machine HttpClient.orderClient).run Machine.anyStep initial [.call 0] =
            some state ∧ 0 ∈ state.waiting ∧ (state.client.phase 0).ended = false ∧
          state.blocked = none := ⟨_, rfl, .head _, rfl, rfl⟩
    have reached := Machine.reachable_of_run evaluated
    obtain ⟨later, onward, woken⟩ :=
      ((sync_call_returns_iff reached).1 0 waits running).mpr free
    exact ⟨state, reached, later, onward, waits, woken⟩
  · obtain ⟨state, evaluated, waits, running, blocked⟩ :
        ∃ state, (machine HttpClient.orderClient).run Machine.anyStep initial
            [.callOnExecutor 1, .call 0] = some state ∧ 0 ∈ state.waiting ∧
          (state.client.phase 0).ended = false ∧ state.blocked = some 1 :=
      ⟨_, rfl, .head _, rfl, rfl⟩
    have reached := Machine.reachable_of_run evaluated
    refine ⟨state, reached, waits, blocked, ?_⟩
    intro later onward
    have frozen := ((sync_call_returns_iff reached).2 1 blocked).2 later onward
    exact ⟨frozen.waiting 0 waits running, frozen.blocked.trans blocked⟩

end Bintrade.Rest.SyncCalls
