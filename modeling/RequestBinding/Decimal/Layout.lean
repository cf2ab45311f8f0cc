import RequestBinding.Decimal.Shortest

/-!
# Written numbers

Two written forms of a binary number: the plain one, which never has an exponent, and the one of
JSON documents, which writes very large and very small magnitudes with an exponent.
-/

namespace RequestBinding

/-- How a finite number is written. -/
structure NumberLayout where
  /-- Least decimal exponent of the leading digit that is written without an exponent. -/
  positionalFrom : Option Int
  /-- Greatest such exponent. -/
  positionalTo : Option Int
  /-- Whether an integral value ends in `.0`. -/
  keepPoint : Bool
  /-- Which of two equally near shortest decimals is written. -/
  tie : Tie

namespace NumberLayout

/-- Plain text has no exponent, and integral values have no point. A tie goes up. -/
def plain : NumberLayout := ⟨none, none, false, .up⟩

/-- JSON writes leading digits from `10 ^ (-5)` to `10 ^ 15` by position in doubles, and from
`10 ^ (-6)` to `10 ^ 12` in singles. A tie goes to the even last digit. -/
def json (f : BinaryFormat) : NumberLayout :=
  if f = .single then ⟨some (-6), some 12, true, .even⟩ else ⟨some (-5), some 15, true, .even⟩

def isPositional (l : NumberLayout) (e : Int) : Bool :=
  l.positionalFrom.all (· ≤ e) && l.positionalTo.all (e ≤ ·)

/-- Digits with the point where the exponent puts it. -/
def positional (l : NumberLayout) (digits : List Char) (exponent : Int) : List Char :=
  if 0 ≤ exponent then
    digits ++ List.replicate exponent.toNat '0' ++ (if l.keepPoint then ['.', '0'] else [])
  else
    let places := (-exponent).toNat
    let whole := digits.take (digits.length - places)
    let fraction := digits.drop (digits.length - places)
    (if whole.isEmpty then ['0'] else whole) ++ '.' ::
      (List.replicate (places - digits.length) '0' ++ fraction)

/-- One digit before the point, and the exponent with its sign. -/
def scientific (digits : List Char) (leading : Int) : List Char :=
  let sign := if leading < 0 then '-' else '+'
  let mantissa := match digits with
    | [] => []
    | d :: [] => [d]
    | d :: ds => d :: '.' :: ds
  mantissa ++ 'e' :: sign :: Nat.toDigits 10 leading.natAbs

def magnitude (l : NumberLayout) (d : Decimal) : List Char :=
  let digits := Nat.toDigits 10 d.digits
  let leading := d.exponent + digits.length - 1
  if l.isPositional leading then l.positional digits d.exponent else scientific digits leading

end NumberLayout

namespace Binary

variable {f : BinaryFormat}

/-- A finite number as written in a layout. -/
def finiteText (l : NumberLayout) (negative : Bool) (mantissa : Nat) (exponent : Int) : String :=
  let text := l.magnitude (Decimal.ofFinite f l.tie mantissa exponent)
  String.ofList (if negative then '-' :: text else text)

/-- The plain text of any number. -/
def display : Binary f → String
  | nan => "NaN"
  | infinity s => if s then "-inf" else "inf"
  | finite s m e => finiteText (f := f) .plain s m e

/-- The JSON text of a number; JSON has no infinities. -/
def jsonText : Binary f → String
  | finite s m e => finiteText (f := f) (.json f) s m e
  | _ => "null"

end Binary
end RequestBinding
