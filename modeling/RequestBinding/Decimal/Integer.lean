import RequestBinding.Decimal.Literal

/-!
# Integer texts

An optional sign and at least one digit of a radix. The text is read from left to right; the first
character that is no digit, or that takes the number out of range, decides the fault.
-/

namespace RequestBinding

inductive IntegerFault where
  | empty
  | invalidDigit
  | tooLarge
  | tooSmall
deriving DecidableEq, Repr

def IntegerFault.text : IntegerFault → String
  | empty => "cannot parse integer from empty string"
  | invalidDigit => "invalid digit found in string"
  | tooLarge => "number too large to fit in target type"
  | tooSmall => "number too small to fit in target type"

/-- The value of a digit in radixes up to sixteen. -/
def digitOf? (radix : Nat) (c : Char) : Option Nat :=
  let d :=
    if c.isDigit then some (c.toNat - '0'.toNat)
    else if 'a' ≤ c ∧ c ≤ 'f' then some (c.toNat - 'a'.toNat + 10)
    else if 'A' ≤ c ∧ c ≤ 'F' then some (c.toNat - 'A'.toNat + 10)
    else none
  d.filter (· < radix)

/-- Appends digits to `n`; a number above `bound` is the fault `overflow`. -/
def readDigits (radix bound : Nat) (overflow : IntegerFault) :
    Nat → List Char → Except IntegerFault Nat
  | n, [] => .ok n
  | n, c :: cs =>
    match digitOf? radix c with
    | none => .error .invalidDigit
    | some d =>
      if bound < radix * n + d then .error overflow
      else readDigits radix bound overflow (radix * n + d) cs

/-- A natural number up to `bound`, with an optional plus sign. -/
def readNat (radix bound : Nat) (text : List Char) : Except IntegerFault Nat :=
  match text with
  | [] => .error .empty
  | ['+'] => .error .invalidDigit
  | '+' :: cs => readDigits radix bound .tooLarge 0 cs
  | cs => readDigits radix bound .tooLarge 0 cs

/-- An integer from `-2 ^ (bits - 1)` to `2 ^ (bits - 1) - 1`, with an optional sign. -/
def readInt (bits : Nat) (text : List Char) : Except IntegerFault Int :=
  match text with
  | [] => .error .empty
  | ['+'] | ['-'] => .error .invalidDigit
  | '+' :: cs => (readDigits 10 (twoTo (bits - 1) - 1) .tooLarge 0 cs).map Int.ofNat
  | '-' :: cs => (readDigits 10 (twoTo (bits - 1)) .tooSmall 0 cs).map fun n => -(n : Int)
  | cs => (readDigits 10 (twoTo (bits - 1) - 1) .tooLarge 0 cs).map Int.ofNat

/-- The greatest size that a limit or a length can name. -/
def maxSize : Nat := 18446744073709551615

end RequestBinding
