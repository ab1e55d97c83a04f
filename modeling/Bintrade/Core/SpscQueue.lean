import Bintrade.System.Machine
import Bintrade.System.Counter
import Mathlib.Logic.Function.Basic

/-! The lock-free ring buffer of `spsc_queue.hpp`, as the interleaved steps of
one producer thread and one consumer thread. Each step is one access to shared
memory: a counter load, a slot access or a counter store. -/

namespace Bintrade.Core.SpscQueue

open Bintrade.System

universe u

variable {T : Type u}

/-- The width of `std::size_t`. -/
abbrev SizeT := BitVec 64

/-- What the queue uses of its element type: the value-initialised element that
fills `buffer_`, and what a move leaves behind in the slot it moved from. -/
structure Element (T : Type u) where
  initial : T
  movedFrom : T → T

/-- Where one `try_push` call stands. The full check belongs to the tail load,
and a call that passed it goes on to write its slot. -/
inductive Producer (T : Type u) where
  | idle
  | loadedHead (value : T) (head : SizeT)
  | checked (value : T) (head : SizeT)
  | written (value : T) (head : SizeT)

def Producer.isIdle : Producer T → Bool
  | .idle => true
  | _ => false

theorem Producer.isIdle_iff {producer : Producer T} :
    producer.isIdle = true ↔ producer = .idle := by
  cases producer <;> simp [Producer.isIdle]

/-- Where one `try_pop` call stands. The empty check belongs to the head load. -/
inductive Consumer (T : Type u) where
  | idle
  | loadedTail (tail : SizeT)
  | checked (tail : SizeT)
  | taken (tail : SizeT) (result : T)

/-- Shared memory, both program counters, and the results of all completed calls. -/
structure State (T : Type u) where
  head : SizeT
  tail : SizeT
  buffer : Nat → T
  producer : Producer T
  consumer : Consumer T
  pushes : List (T × Bool)
  pops : List (Option T)

/-- The values of those `try_push` calls that returned true. -/
def acceptedBy (pushes : List (T × Bool)) : List T :=
  (pushes.filter (fun call => call.2)).map Prod.fst

def State.accepted (state : State T) : List T := acceptedBy state.pushes

/-- The values of those `try_pop` calls that returned one. -/
def returnedBy (pops : List (Option T)) : List T := pops.filterMap id

def State.returned (state : State T) : List T := returnedBy state.pops

@[simp] theorem acceptedBy_append_true (pushes : List (T × Bool)) (value : T) :
    acceptedBy (pushes ++ [(value, true)]) = acceptedBy pushes ++ [value] := by
  simp [acceptedBy]

@[simp] theorem acceptedBy_append_false (pushes : List (T × Bool)) (value : T) :
    acceptedBy (pushes ++ [(value, false)]) = acceptedBy pushes := by
  simp [acceptedBy]

@[simp] theorem returnedBy_append_some (pops : List (Option T)) (value : T) :
    returnedBy (pops ++ [some value]) = returnedBy pops ++ [value] := by
  simp [returnedBy]

@[simp] theorem returnedBy_append_none (pops : List (Option T)) :
    returnedBy (pops ++ [none]) = returnedBy pops := by
  simp [returnedBy]

def initial (element : Element T) : State T where
  head := 0
  tail := 0
  buffer := fun _ => element.initial
  producer := .idle
  consumer := .idle
  pushes := []
  pops := []

/-- `Capacity`, a power of two of type `std::size_t`. -/
def capacity (exponent : Nat) : SizeT := BitVec.ofNat 64 (2 ^ exponent)

def kMask (exponent : Nat) : SizeT := capacity exponent - 1

/-- The index `counter & k_mask` into `buffer_`. -/
def slot (exponent : Nat) (counter : SizeT) : Nat := (counter &&& kMask exponent).toNat

inductive Label (T : Type u) where
  | pushLoadHead (value : T)
  | pushLoadTail
  | pushWriteSlot
  | pushStoreHead
  | popLoadTail
  | popLoadHead
  | popReadSlot
  | popStoreTail

/-- `try_push` (either overload) and `try_pop`, one shared access at a time. -/
def step (exponent : Nat) (element : Element T) (state : State T) :
    Label T → Option (State T)
  | .pushLoadHead value =>
    match state.producer with
    | .idle => some { state with producer := .loadedHead value state.head }
    | _ => none
  | .pushLoadTail =>
    match state.producer with
    | .loadedHead value head =>
      if head - state.tail ≥ capacity exponent then
        some { state with producer := .idle, pushes := state.pushes ++ [(value, false)] }
      else some { state with producer := .checked value head }
    | _ => none
  | .pushWriteSlot =>
    match state.producer with
    | .checked value head =>
      some { state with
        buffer := Function.update state.buffer (slot exponent head) value
        producer := .written value head }
    | _ => none
  | .pushStoreHead =>
    match state.producer with
    | .written value head =>
      some { state with
        head := head + 1, producer := .idle, pushes := state.pushes ++ [(value, true)] }
    | _ => none
  | .popLoadTail =>
    match state.consumer with
    | .idle => some { state with consumer := .loadedTail state.tail }
    | _ => none
  | .popLoadHead =>
    match state.consumer with
    | .loadedTail tail =>
      if tail = state.head then
        some { state with consumer := .idle, pops := state.pops ++ [none] }
      else some { state with consumer := .checked tail }
    | _ => none
  | .popReadSlot =>
    match state.consumer with
    | .checked tail =>
      let index := slot exponent tail
      some { state with
        buffer := Function.update state.buffer index (element.movedFrom (state.buffer index))
        consumer := .taken tail (state.buffer index) }
    | _ => none
  | .popStoreTail =>
    match state.consumer with
    | .taken tail result =>
      some { state with
        tail := tail + 1, consumer := .idle, pops := state.pops ++ [some result] }
    | _ => none

def machine (exponent : Nat) (element : Element T) : Machine (State T) (Label T) where
  step := step exponent element

/-- Everything one step can do, with the check it passed or failed. -/
inductive Transition (exponent : Nat) (element : Element T) (state : State T) :
    Label T → State T → Prop where
  | pushLoadHead (value : T) (idle : state.producer = .idle) :
      Transition exponent element state (.pushLoadHead value)
        { state with producer := .loadedHead value state.head }
  | pushFull {value : T} {head : SizeT} (loaded : state.producer = .loadedHead value head)
      (full : head - state.tail ≥ capacity exponent) :
      Transition exponent element state .pushLoadTail
        { state with producer := .idle, pushes := state.pushes ++ [(value, false)] }
  | pushChecked {value : T} {head : SizeT} (loaded : state.producer = .loadedHead value head)
      (room : ¬ head - state.tail ≥ capacity exponent) :
      Transition exponent element state .pushLoadTail
        { state with producer := .checked value head }
  | pushWriteSlot {value : T} {head : SizeT} (passed : state.producer = .checked value head) :
      Transition exponent element state .pushWriteSlot
        { state with
          buffer := Function.update state.buffer (slot exponent head) value
          producer := .written value head }
  | pushStoreHead {value : T} {head : SizeT} (filled : state.producer = .written value head) :
      Transition exponent element state .pushStoreHead
        { state with
          head := head + 1, producer := .idle, pushes := state.pushes ++ [(value, true)] }
  | popLoadTail (idle : state.consumer = .idle) :
      Transition exponent element state .popLoadTail
        { state with consumer := .loadedTail state.tail }
  | popEmpty {tail : SizeT} (loaded : state.consumer = .loadedTail tail)
      (empty : tail = state.head) :
      Transition exponent element state .popLoadHead
        { state with consumer := .idle, pops := state.pops ++ [none] }
  | popChecked {tail : SizeT} (loaded : state.consumer = .loadedTail tail)
      (nonempty : tail ≠ state.head) :
      Transition exponent element state .popLoadHead
        { state with consumer := .checked tail }
  | popReadSlot {tail : SizeT} (passed : state.consumer = .checked tail) :
      Transition exponent element state .popReadSlot
        { state with
          buffer := Function.update state.buffer (slot exponent tail)
            (element.movedFrom (state.buffer (slot exponent tail)))
          consumer := .taken tail (state.buffer (slot exponent tail)) }
  | popStoreTail {tail : SizeT} {result : T} (moved : state.consumer = .taken tail result) :
      Transition exponent element state .popStoreTail
        { state with
          tail := tail + 1, consumer := .idle, pops := state.pops ++ [some result] }

theorem transition_of_step {exponent : Nat} {element : Element T} {state after : State T}
    {label : Label T} (taken : (machine exponent element).step state label = some after) :
    Transition exponent element state label after := by
  cases label with
  | pushLoadHead value =>
    simp only [machine, step] at taken
    split at taken <;> cases taken
    exact .pushLoadHead value ‹_›
  | pushLoadTail =>
    simp only [machine, step] at taken
    split at taken
    · split at taken <;> cases taken
      · exact .pushFull ‹_› ‹_›
      · exact .pushChecked ‹_› ‹_›
    · cases taken
  | pushWriteSlot =>
    simp only [machine, step] at taken
    split at taken <;> cases taken
    exact .pushWriteSlot ‹_›
  | pushStoreHead =>
    simp only [machine, step] at taken
    split at taken <;> cases taken
    exact .pushStoreHead ‹_›
  | popLoadTail =>
    simp only [machine, step] at taken
    split at taken <;> cases taken
    exact .popLoadTail ‹_›
  | popLoadHead =>
    simp only [machine, step] at taken
    split at taken
    · split at taken <;> cases taken
      · exact .popEmpty ‹_› ‹_›
      · exact .popChecked ‹_› ‹_›
    · cases taken
  | popReadSlot =>
    simp only [machine, step] at taken
    split at taken <;> cases taken
    exact .popReadSlot ‹_›
  | popStoreTail =>
    simp only [machine, step] at taken
    split at taken <;> cases taken
    exact .popStoreTail ‹_›

end Bintrade.Core.SpscQueue
