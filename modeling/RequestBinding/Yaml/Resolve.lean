import RequestBinding.Decimal.Integer
import RequestBinding.Yaml.Node

/-!
# What scalars stand for

A plain scalar is null, a truth value, a number or a text by its spelling, and a tag of the core schema
asks for one of them.
-/

namespace RequestBinding
namespace Yaml

inductive ScalarValue where
  | null
  | bool (b : Bool)
  | integer (n : Int)
  | float (x : Double)
  | text (s : String)
deriving Repr

def coreTag (name : String) : String := "tag:yaml.org,2002:" ++ name

def isNullText (s : String) : Bool := ["null", "Null", "NULL", "~"].contains s

def bool? (s : String) : Option Bool :=
  if ["true", "True", "TRUE"].contains s then some true
  else if ["false", "False", "FALSE"].contains s then some false
  else none

def isSign (c : Char) : Bool := c = '+' || c = '-'

/-- A number with needless zeros in front, which is a text. -/
def hasLeadingZero (cs : List Char) : Bool :=
  let digits := if cs.head?.any isSign then cs.tail else cs
  1 < digits.length && digits.head? = some '0' && digits.all Char.isDigit

/-- A radix mark and the digits behind it. -/
def radixDigits? : List Char → Option (Nat × List Char)
  | '0' :: 'x' :: digits => some (16, digits)
  | '0' :: 'o' :: digits => some (8, digits)
  | '0' :: 'b' :: digits => some (2, digits)
  | _ => none

/-- Digits of a radix and nothing else, up to a bound. -/
def digits? (radix bound : Nat) (cs : List Char) : Option Nat :=
  if cs.head?.any isSign then none else (readNat radix bound cs).toOption

/-- An integer that is not negative, up to a bound: decimal or after a radix mark. -/
def natural? (bound : Nat) (cs : List Char) : Option Nat :=
  let digits := if cs.head? = some '+' then cs.tail else cs
  let marked := (radixDigits? digits).bind fun (radix, ds) => digits? radix bound ds
  marked.orElse fun _ => if hasLeadingZero cs then none else digits? 10 bound digits

/-- An integer after a minus sign, down to `-bound`. -/
def negative? (bound : Nat) (cs : List Char) : Option Int :=
  match cs with
  | '-' :: digits =>
    let marked := (radixDigits? digits).bind fun (radix, ds) => digits? radix bound ds
    (marked.orElse fun _ => if hasLeadingZero cs then none else digits? 10 bound digits).map
      fun n => -(n : Int)
  | _ => none

/-- An integer of 64 bits. One that needs up to 128 bits is none, though it is no other number. -/
def integer? (s : String) : Option (Option Int) :=
  let cs := s.toList
  let within (top low : Nat) : Option Int :=
    ((natural? top cs).map Int.ofNat).orElse fun _ => negative? low cs
  match within (twoTo 64 - 1) (twoTo 63) with
  | some n => some (some n)
  | none => (within (twoTo 128 - 1) (twoTo 127)).map fun _ => none

/-- A number with a point or an exponent, an infinity or not a number. -/
def float? (s : String) : Option Double :=
  let cs := s.toList
  let unsigned := if cs.head? = some '+' then cs.tail else cs
  if cs.head? = some '+' ∧ unsigned.head?.any isSign then none
  else if [".inf", ".Inf", ".INF"].contains (String.ofList unsigned) then some (.infinity false)
  else if ["-.inf", "-.Inf", "-.INF"].contains s then some (.infinity true)
  else if [".nan", ".NaN", ".NAN"].contains s then some .nan
  else ((NumberText.read? (String.ofList unsigned)).map NumberText.toBinary).filter Binary.isFinite

/-- What a plain scalar without a tag stands for; none for an integer that is too long. -/
def plainValue? (s : String) : Option ScalarValue :=
  if s = "" ∨ isNullText s then some .null
  else match bool? s with
    | some b => some (.bool b)
    | none => match integer? s with
      | some n => n.map .integer
      | none =>
        match if hasLeadingZero s.toList then none else float? s with
        | some x => some (.float x)
        | none => some (.text s)

/-- What a scalar stands for; none if it does not fit its tag, or its tag is not known. -/
def scalarValue? (tag : Option String) (style : ScalarStyle) (s : String) : Option ScalarValue :=
  match tag with
  | none => if style = .plain then plainValue? s else some (.text s)
  | some tag =>
    if tag.startsWith "!" then none
    else if tag = coreTag "bool" then (bool? s).map .bool
    else if tag = coreTag "int" then (integer? s).bind (·.map .integer)
    else if tag = coreTag "float" then (float? s).map .float
    else if tag = coreTag "null" then if isNullText s then some .null else none
    else some (.text s)

end Yaml
end RequestBinding
