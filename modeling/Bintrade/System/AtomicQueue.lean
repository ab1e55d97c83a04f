import Bintrade.System.Machine

/-! A bounded first-in first-out queue whose calls take effect one at a time: what a
queue shared between threads is for. -/

namespace Bintrade.System.AtomicQueue

universe u

variable {T : Type u}

/-- The values inside, and the results of all calls so far. -/
structure State (T : Type u) where
  contents : List T
  pushes : List (T × Bool)
  pops : List (Option T)

inductive Call (T : Type u) where
  | push (value : T)
  | pop

def initial : State T := ⟨[], [], []⟩

/-- A push is refused by a full queue, a pop returns nothing from an empty one. -/
def perform (capacity : Nat) (queue : State T) : Call T → State T
  | .push value =>
    if queue.contents.length < capacity then
      { queue with
        contents := queue.contents ++ [value], pushes := queue.pushes ++ [(value, true)] }
    else { queue with pushes := queue.pushes ++ [(value, false)] }
  | .pop =>
    match queue.contents with
    | [] => { queue with pops := queue.pops ++ [none] }
    | value :: rest => { queue with contents := rest, pops := queue.pops ++ [some value] }

def machine (capacity : Nat) : Machine (State T) (Call T) where
  step queue call := some (perform capacity queue call)

end Bintrade.System.AtomicQueue
