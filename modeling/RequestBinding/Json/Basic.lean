import RequestBinding.Decimal.Layout
import RequestBinding.NameMap

/-!
# JSON values

An object keeps its members in ascending order of their names, one member a name.
-/

namespace RequestBinding

/-- A number as documents carry it: an integer within 64 bits, signed or unsigned, or a double. -/
inductive JsonNumber where
  | integer (n : Int)
  | double (x : Double)
deriving DecidableEq, Repr

inductive Json where
  | null
  | bool (b : Bool)
  | number (n : JsonNumber)
  | string (s : String)
  | array (items : List Json)
  | object (members : List (String × Json))
deriving Repr, Inhabited, BEq

namespace JsonNumber

/-- A double, with the numbers that documents cannot carry as null. -/
def ofDouble? (x : Double) : Option JsonNumber := if x.isFinite then some (.double x) else none

def toDouble : JsonNumber → Double
  | integer n => .ofInt n
  | double x => x

/-- The number as a signed 64-bit integer. -/
def toInt64? : JsonNumber → Option Int
  | integer n => if -9223372036854775808 ≤ n ∧ n ≤ 9223372036854775807 then some n else none
  | double _ => none

/-- The number as an unsigned 64-bit integer. -/
def toUInt64? : JsonNumber → Option Nat
  | integer n => if 0 ≤ n ∧ n ≤ 18446744073709551615 then some n.toNat else none
  | double _ => none

def text : JsonNumber → String
  | integer n => toString n
  | double x => x.jsonText

/-- The exact value as `numerator / denominator`. -/
def ratio : JsonNumber → Int × Nat
  | integer n => (n, 1)
  | double x => match x.ratio? with
    | some (n, d) => (if x.isNegative then -(n : Int) else n, d)
    | none => (0, 1)

/-- Compares exact values. -/
def lt (a b : JsonNumber) : Bool :=
  let (n, d) := a.ratio
  let (m, e) := b.ratio
  n * e < m * d

/-- Whether two numbers have one exact value. -/
def sameValue (a b : JsonNumber) : Bool :=
  let (n, d) := a.ratio
  let (m, e) := b.ratio
  n * e == m * d

end JsonNumber

namespace Json

/-- The object with the given members; the last member of a name counts. -/
def ofMembers (members : List (String × Json)) : Json :=
  .object (NameMap.ofList members)

mutual

/-- Puts the members of every object in order; the last member of a name counts. -/
def canonical : Json → Json
  | .array items => .array (canonicalItems items)
  | .object members => ofMembers (canonicalMembers members)
  | v => v

def canonicalItems : List Json → List Json
  | [] => []
  | v :: rest => canonical v :: canonicalItems rest

def canonicalMembers : List (String × Json) → List (String × Json)
  | [] => []
  | (n, v) :: rest => (n, canonical v) :: canonicalMembers rest

end

mutual

/-- Number of values in a value, itself included. -/
def size : Json → Nat
  | .array items => sizeOfItems items + 1
  | .object members => sizeOfMembers members + 1
  | _ => 1

def sizeOfItems : List Json → Nat
  | [] => 0
  | v :: rest => size v + sizeOfItems rest

def sizeOfMembers : List (String × Json) → Nat
  | [] => 0
  | (_, v) :: rest => size v + sizeOfMembers rest

end

def ofNat (n : Nat) : Json := .number (.integer n)

def ofDouble (x : Double) : Json := (JsonNumber.ofDouble? x).elim .null .number

def ofOption {α : Type} (f : α → Json) : Option α → Json
  | none => .null
  | some a => f a

/-- The member of an object with the given name. -/
def member? : Json → String → Option Json
  | .object ms, name => NameMap.get? ms name
  | _, _ => none

/-- The word for the kind of a value. -/
def kind : Json → String
  | .null => "null"
  | .bool _ => "boolean"
  | .number _ => "number"
  | .string _ => "string"
  | .array _ => "array"
  | .object _ => "object"

end Json
end RequestBinding
