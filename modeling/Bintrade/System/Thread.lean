import Mathlib.Logic.Basic

/-! Thread handles, and how a call on an object ends. -/

namespace Bintrade.System

universe u v

/-- A `std::thread` object. -/
inductive Handle where
  | vacant
  | joinable
  deriving DecidableEq

/-- A call returns or throws, and leaves the object in some state either way, or it
ends the process through `std::terminate`. -/
inductive Completion (ε : Type u) (σ : Type v) where
  | returned (object : σ)
  | threw (error : ε) (object : σ)
  | terminated

namespace Completion

variable {ε : Type u} {σ τ : Type v}

/-- The object of which the call changed a part. -/
def map (change : σ → τ) : Completion ε σ → Completion ε τ
  | .returned part => .returned (change part)
  | .threw error part => .threw error (change part)
  | .terminated => .terminated

/-- One call after the other, unless the first throws. -/
def andThen (first : Completion ε σ) (next : σ → Completion ε σ) : Completion ε σ :=
  match first with
  | .returned object => next object
  | .threw error object => .threw error object
  | .terminated => .terminated

/-- The call is made where exceptions are caught, or on a thread that has no one to catch
them. -/
def onThread (caught : Bool) : Completion ε σ → Completion ε σ
  | .threw _ object => if caught then .returned object else .terminated
  | call => call

def isTerminated : Completion ε σ → Bool
  | .terminated => true
  | _ => false

/-- What the call leaves of the object. -/
def object? : Completion ε σ → Option σ
  | .returned object | .threw _ object => some object
  | .terminated => none

@[simp]
theorem isTerminated_map (change : σ → τ) (call : Completion ε σ) :
    (call.map change).isTerminated = call.isTerminated := by
  cases call <;> rfl

/-- A property that the first call establishes and the next keeps holds however the two
end. -/
theorem holds_andThen (Holds : σ → Prop) {first : Completion ε σ} {next : σ → Completion ε σ}
    (established : ∀ object, first.object? = some object → Holds object)
    (kept : ∀ object, Holds object → ∀ after, (next object).object? = some after → Holds after)
    (after : σ) (left : (first.andThen next).object? = some after) : Holds after := by
  cases first with
  | returned object => exact kept object (established object rfl) after left
  | threw error object => exact established after left
  | terminated => cases left

theorem object?_map {change : σ → τ} {call : Completion ε σ} {after : τ}
    (left : (call.map change).object? = some after) : ∃ part, change part = after := by
  cases call with
  | returned part => exact ⟨part, Option.some.inj left⟩
  | threw error part => exact ⟨part, Option.some.inj left⟩
  | terminated => cases left

theorem object?_eq_none {call : Completion ε σ} :
    call.object? = none ↔ call.isTerminated = true := by
  cases call <;> simp [object?, isTerminated]

end Completion

namespace Handle

variable {ε : Type u}

/-- A new thread is assigned to the handle. -/
def launch : Handle → Completion ε Handle
  | .vacant => .returned .joinable
  | .joinable => .terminated

/-- The thread of the handle is joined. A thread cannot join itself: that throws, and so does
joining none. -/
def join (bySelf : Bool) : Handle → Completion String Handle
  | .vacant => .threw "Invalid argument" .vacant
  | .joinable => if bySelf then .threw "Resource deadlock avoided" .joinable else .returned .vacant

def destroy : Handle → Completion ε Handle
  | .vacant => .returned .vacant
  | .joinable => .terminated

@[simp]
theorem isTerminated_destroy (handle : Handle) :
    (handle.destroy : Completion ε Handle).isTerminated = true ↔ handle = .joinable := by
  cases handle <;> simp [destroy, Completion.isTerminated]

end Handle

end Bintrade.System
