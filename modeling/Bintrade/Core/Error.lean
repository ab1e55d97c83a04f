import Bintrade.System.Json

/-! The exceptions that leave the library: its own hierarchy, and those of the
standard, Asio and JSON libraries that it lets through. -/

namespace Bintrade.Core

open Bintrade.System

inductive Exception where
  | network (message : String)
  | api (httpCode : Int) (message : String)
  | authentication (message : String)
  | validation (message : String)
  | invalidArgument (message : String)
  | outOfRange (message : String)
  | system (message : String)
  | json (error : JsonError)
  deriving DecidableEq

/-- The exception is an `ApiException`. -/
def Exception.isApi : Exception → Bool
  | .api _ _ => true
  | _ => false

/-- How `std::stod` and `std::stoi` fail. -/
inductive NumeralError where
  | invalidArgument
  | outOfRange
  deriving DecidableEq

/-- Let an exception of the JSON library through. -/
def throwJson {α : Type} : Except JsonError α → Except Exception α :=
  Except.mapError .json

@[simp]
theorem throwJson_eq_ok {α : Type} {outcome : Except JsonError α} {value : α} :
    throwJson outcome = .ok value ↔ outcome = .ok value :=
  mapError_eq_ok

/-- Let an exception of a numeral conversion through. -/
def throwNumeral {α : Type} (function : String) : Except NumeralError α → Except Exception α :=
  Except.mapError fun error =>
    match error with
    | .invalidArgument => .invalidArgument function
    | .outOfRange => .outOfRange function

/-- The computation ends with an `ApiException`. -/
def RaisesApi {α : Type} (outcome : Except Exception α) : Prop :=
  ∃ error, outcome = .error error ∧ error.isApi = true

section RaisesApi

variable {α β : Type}

@[simp]
theorem not_raisesApi_ok (value : α) : ¬ RaisesApi (.ok value) := by
  rintro ⟨error, impossible, -⟩
  cases impossible

@[simp]
theorem not_raisesApi_pure (value : α) : ¬ RaisesApi (pure value) := not_raisesApi_ok value

@[simp]
theorem raisesApi_error (error : Exception) :
    RaisesApi (.error error : Except Exception α) ↔ error.isApi = true := by
  constructor
  · rintro ⟨same, equal, raised⟩
    cases equal
    exact raised
  · intro raised
    exact ⟨error, rfl, raised⟩

@[simp]
theorem not_raisesApi_throwJson (outcome : Except JsonError α) :
    ¬ RaisesApi (throwJson outcome) := by
  cases outcome with
  | ok value => exact not_raisesApi_ok value
  | error error =>
    rintro ⟨same, equal, raised⟩
    cases equal
    cases raised

@[simp]
theorem not_raisesApi_throwNumeral (function : String) (outcome : Except NumeralError α) :
    ¬ RaisesApi (throwNumeral function outcome) := by
  cases outcome with
  | ok value => exact not_raisesApi_ok value
  | error error =>
    rintro ⟨same, equal, raised⟩
    cases error <;> cases equal <;> cases raised

@[simp]
theorem raisesApi_bind (outcome : Except Exception α) (next : α → Except Exception β) :
    RaisesApi (outcome >>= next) ↔
      RaisesApi outcome ∨ ∃ value, outcome = .ok value ∧ RaisesApi (next value) := by
  cases outcome with
  | ok value =>
    constructor
    · intro raised
      exact .inr ⟨value, rfl, raised⟩
    · rintro (raised | ⟨same, equal, raised⟩)
      · exact absurd raised (not_raisesApi_ok value)
      · cases equal
        exact raised
  | error error =>
    constructor
    · rintro ⟨same, equal, raised⟩
      cases equal
      exact .inl ⟨error, rfl, raised⟩
    · rintro (⟨same, equal, raised⟩ | ⟨value, impossible, -⟩)
      · cases equal
        exact ⟨error, rfl, raised⟩
      · cases impossible

@[simp]
theorem raisesApi_map (outcome : Except Exception α) (function : α → β) :
    RaisesApi (function <$> outcome) ↔ RaisesApi outcome := by
  cases outcome with
  | ok value =>
    exact iff_of_false (not_raisesApi_ok _) (not_raisesApi_ok _)
  | error error =>
    exact (raisesApi_error error).trans (raisesApi_error error).symm

end RaisesApi

end Bintrade.Core
