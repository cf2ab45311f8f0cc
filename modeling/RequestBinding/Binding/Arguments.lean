import RequestBinding.Value
import RequestBinding.Request.Ulid

/-!
# Arguments

What binding a request gives: one argument for each declared parameter, in declaration order. An
optional parameter that the request does not supply is absent.
-/

namespace RequestBinding

inductive BoundValue where
  | absent
  | present (value : Value)
deriving Repr, BEq

namespace BoundValue

def isPresent : BoundValue → Bool
  | absent => false
  | present _ => true

def value? : BoundValue → Option Value
  | absent => none
  | present v => some v

end BoundValue

structure Argument where
  name : String
  location : Location
  value : BoundValue
deriving Repr, BEq

structure Arguments where
  requestId : Ulid
  operationId : String
  arguments : List Argument := []
deriving Repr, BEq

namespace Arguments

def push (a : Arguments) (name : String) (location : Location) (value : BoundValue) : Arguments :=
  { a with arguments := a.arguments ++ [⟨name, location, value⟩] }

def size (a : Arguments) : Nat := a.arguments.length

/-- The bound value of a declared parameter. -/
def get? (a : Arguments) (name : String) (location : Location) : Option BoundValue :=
  (a.arguments.find? fun b => b.name = name ∧ b.location = location).map Argument.value

/-- The value of a parameter that is present. -/
def value? (a : Arguments) (name : String) (location : Location) : Option Value :=
  (a.get? name location).bind BoundValue.value?

/-- The first body argument. -/
def bodyArgument? (a : Arguments) : Option Argument :=
  a.arguments.find? fun b => b.location = .body

/-- The value of the body, if it is present. -/
def body? (a : Arguments) : Option Json :=
  (a.bodyArgument?.bind (·.value.value?)).bind Value.toJson?

def argumentJson (b : Argument) : Json :=
  .ofMembers [("name", .string b.name), ("in", .string b.location.name),
    ("value", (b.value.value?.map Value.toJson).getD .null)]

/-- The arguments as a JSON array, in order. -/
def toJson (a : Arguments) : Json := .array (a.arguments.map argumentJson)

end Arguments
end RequestBinding
