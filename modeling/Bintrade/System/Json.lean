import Bintrade.System.Fault
import Bintrade.System.Rounding
import Mathlib.Algebra.Ring.Int.Defs
import Mathlib.Algebra.Ring.Nat

/-! JSON values with the access of `nlohmann::json`, checked and unchecked. The parser
itself is left open: where a development needs one, it is a partial function on texts. -/

namespace Bintrade.System

/-- The value kinds of the library. A parser gives negative integers as `integer`
and the others as `unsigned`. -/
inductive Json where
  | null
  | boolean (value : Bool)
  | integer (value : Int)
  | unsigned (value : Nat)
  | float (value : Rat)
  | string (value : String)
  | array (elements : List Json)
  | object (members : List (String × Json))

/-- The exceptions of the library. -/
inductive JsonError where
  | parseError
  | typeError
  | outOfRange
  deriving DecidableEq

namespace Json

/-- The member of an object under a key. Every other kind has none. -/
def member? : Json → String → Option Json
  | .object members, key => (members.find? fun entry => entry.1 = key).map Prod.snd
  | _, _ => none

def contains (json : Json) (key : String) : Bool := (json.member? key).isSome

def isNumber : Json → Bool
  | .integer _ | .unsigned _ | .float _ => true
  | _ => false

def isBoolean : Json → Bool
  | .boolean _ => true
  | _ => false

def isString : Json → Bool
  | .string _ => true
  | _ => false

/-- An integer as a parser gives it. -/
def ofInt : Int → Json
  | .ofNat value => .unsigned value
  | value => .integer value

/-- `get` for an integer type accepts numbers only and casts them, as `reduce`
says, to the range of the type. -/
def getInteger (reduce : Int → Int) : Json → Except JsonError Int
  | .integer value => .ok (reduce value)
  | .unsigned value => .ok (reduce value)
  | .float value => .ok (reduce (truncate value))
  | _ => .error .typeError

def getInt64 : Json → Except JsonError Int := getInteger fun value => value.bmod (2 ^ 64)

def getUInt64 : Json → Except JsonError Int := getInteger fun value => value % 2 ^ 64

/-- `get<int>`: unlike the 64-bit types, it accepts a boolean too. -/
def getInt : Json → Except JsonError Int
  | .boolean value => .ok (if value then 1 else 0)
  | json => json.getInteger fun value => value.bmod (2 ^ 32)

def getString : Json → Except JsonError String
  | .string value => .ok value
  | _ => .error .typeError

def getBoolean : Json → Except JsonError Bool
  | .boolean value => .ok value
  | _ => .error .typeError

/-- `at(key)`. -/
def atKey (json : Json) (key : String) : Except JsonError Json :=
  match json with
  | .object _ =>
    match json.member? key with
    | some found => .ok found
    | none => .error .outOfRange
  | _ => .error .typeError

/-- The constant `operator[]` with a key, which must be present in an object. -/
def subscript (json : Json) (key : String) : Except (Fault JsonError) Json :=
  match json with
  | .object _ =>
    match json.member? key with
    | some found => .ok found
    | none => .error .undefined
  | _ => .error (.thrown .typeError)

/-- The constant `operator[]` with a position, which must be within an array. -/
def index (json : Json) (position : Nat) : Except (Fault JsonError) Json :=
  match json with
  | .array elements =>
    match elements[position]? with
    | some found => .ok found
    | none => .error .undefined
  | _ => .error (.thrown .typeError)

/-- What a range-based `for` visits: a value that is neither a container nor null is
visited itself. -/
def items : Json → List Json
  | .null => []
  | .array elements => elements
  | .object members => members.map Prod.snd
  | json => [json]

/-- `value(key, fallback)`: the fallback stands in for an absent key only; a present
value of another type, or a `json` that is not an object, is an error. -/
def value {α : Type*} (json : Json) (get : Json → Except JsonError α) (key : String)
    (fallback : α) : Except JsonError α :=
  match json with
  | .object _ =>
    match json.member? key with
    | some found => get found
    | none => .ok fallback
  | _ => .error .typeError

theorem getInt_isOk {json : Json} :
    (∃ value, json.getInt = .ok value) ↔ json.isNumber = true ∨ json.isBoolean = true := by
  cases json <;> simp [getInt, getInteger, isNumber, isBoolean]

theorem getString_isOk {json : Json} :
    (∃ value, json.getString = .ok value) ↔ json.isString = true := by
  cases json <;> simp [getString, isString]

theorem getBoolean_isOk {json : Json} :
    (∃ value, json.getBoolean = .ok value) ↔ json.isBoolean = true := by
  cases json <;> simp [getBoolean, isBoolean]

theorem getInteger_isOk {reduce : Int → Int} {json : Json} :
    (∃ value, json.getInteger reduce = .ok value) ↔ json.isNumber = true := by
  cases json <;> simp [getInteger, isNumber]

/-- A member that `value` reads must be absent or of the right kind. -/
def admits (accepts : Json → Bool) (json : Json) (key : String) : Bool :=
  match json with
  | .object _ =>
    match json.member? key with
    | some found => accepts found
    | none => true
  | _ => false

theorem value_isOk {α : Type} {json : Json} {get : Json → Except JsonError α} {key : String}
    {fallback : α} {accepts : Json → Bool}
    (accepted : ∀ found, (∃ value, get found = .ok value) ↔ accepts found = true) :
    (∃ value, json.value get key fallback = .ok value) ↔ json.admits accepts key = true := by
  unfold Json.value admits
  split
  · split
    · exact accepted _
    · simp
  · simp

end Json

end Bintrade.System
