import RequestBinding.Decimal.Binary

/-!
# Decimal literals

A literal is an optional sign, digits with an optional point, and an optional exponent. It denotes
`± digits · 10 ^ exponent`, and rounds to a binary format from that exact value.
-/

namespace RequestBinding

/-- The exact value `± digits · 10 ^ exponent`. -/
structure DecimalLiteral where
  negative : Bool
  digits : Nat
  exponent : Int
deriving DecidableEq, Repr

/-- What a number text spells. -/
inductive NumberText where
  | nan
  | infinity (negative : Bool)
  | literal (l : DecimalLiteral)
deriving DecidableEq, Repr

/-- The value of one ASCII digit. -/
def digitValue (c : Char) : Nat := c.toNat - '0'.toNat

/-- The number that a digit string writes in base ten. -/
def natOfDigits (cs : List Char) : Nat := cs.foldl (fun n c => 10 * n + digitValue c) 0

namespace DecimalLiteral

/-- Splits off a leading sign; the flag says whether it was a minus. -/
def splitSign : List Char → Bool × List Char
  | '-' :: cs => (true, cs)
  | '+' :: cs => (false, cs)
  | cs => (false, cs)

/-- The exponent part: nothing, or `e` with an optionally signed non-empty digit string. -/
def readExponent? : List Char → Option Int
  | [] => some 0
  | c :: cs =>
    if c = 'e' ∨ c = 'E' then
      let (negative, ds) := splitSign cs
      if ds.isEmpty ∨ !ds.all Char.isDigit then none
      else some (if negative then -(natOfDigits ds : Int) else natOfDigits ds)
    else none

/-- An unsigned literal: at least one digit before or after the point. -/
def readMagnitude? (negative : Bool) (cs : List Char) : Option DecimalLiteral :=
  let whole := cs.takeWhile Char.isDigit
  let rest := cs.dropWhile Char.isDigit
  let (fraction, tail) := match rest with
    | '.' :: more => (more.takeWhile Char.isDigit, more.dropWhile Char.isDigit)
    | _ => ([], rest)
  if whole.isEmpty ∧ fraction.isEmpty then none
  else (readExponent? tail).map fun e =>
    ⟨negative, natOfDigits (whole ++ fraction), e - fraction.length⟩

/-- Number of decimal digits of `n`; none for zero. -/
def digitCount (n : Nat) : Nat := if n = 0 then 0 else (Nat.toDigits 10 n).length

/-- Rounds the exact value to the nearest number of the format. Values of `10 ^ 400` and more, and
those below `10 ^ (-400)`, lie outside both formats, so they need no power of ten. -/
def toBinary {f : BinaryFormat} (l : DecimalLiteral) : Binary f :=
  let top : Int := digitCount l.digits + l.exponent
  if l.digits = 0 then .zero l.negative
  else if 400 < top then .infinity l.negative
  else if top < -400 then .zero l.negative
  else if 0 ≤ l.exponent then .ofRatio l.negative (l.digits * tenTo l.exponent.toNat) 1
  else .ofRatio l.negative l.digits (tenTo (-l.exponent).toNat)

end DecimalLiteral

namespace NumberText

/-- Reads a whole text: a literal, or `inf`, `infinity` or `nan` in any letter case. -/
def read? (text : String) : Option NumberText :=
  let (negative, cs) := DecimalLiteral.splitSign text.toList
  let word := cs.map Char.toLower
  if word = "inf".toList ∨ word = "infinity".toList then some (.infinity negative)
  else if word = "nan".toList then some .nan
  else (DecimalLiteral.readMagnitude? negative cs).map .literal

def toBinary {f : BinaryFormat} : NumberText → Binary f
  | .nan => .nan
  | .infinity s => .infinity s
  | .literal l => l.toBinary

end NumberText
end RequestBinding
