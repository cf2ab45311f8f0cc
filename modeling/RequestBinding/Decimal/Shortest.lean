import RequestBinding.Decimal.Literal

/-!
# Shortest decimals

`Decimal.ofFinite` is the decimal with the fewest digits that rounds to a finite number; of several it
is the one nearest to it. Where two are equally near, the format decides.
-/

namespace RequestBinding

/-- The magnitude `digits · 10 ^ exponent`. -/
structure Decimal where
  digits : Nat
  exponent : Int
deriving DecidableEq, Repr

/-- Which of two equally near decimals is taken. -/
inductive Tie where
  | even
  /-- The one of greater magnitude. -/
  | up
deriving DecidableEq, Repr

namespace Decimal

/-- `(n, d)` with `n / d = num / den · 10 ^ (-e)`. -/
def scale (num den : Nat) (e : Int) : Nat × Nat :=
  if 0 ≤ e then (num, den * tenTo e.toNat) else (num * tenTo (-e).toNat, den)

/-- The greatest `e` with `10 ^ e ≤ num / den`, for a positive ratio. -/
def floorLog10 (num den : Nat) : Int :=
  let e : Int := (DecimalLiteral.digitCount num : Int) - DecimalLiteral.digitCount den
  let (n, d) := scale num den e
  if d ≤ n then e else e - 1

/-- The magnitudes that round to `mantissa · 2 ^ exponent` lie between `low / unit` and `high / unit`;
the ends belong to them iff `closed`. -/
structure Neighbourhood where
  value : Nat
  low : Nat
  high : Nat
  unit : Nat
  closed : Bool

/-- The neighbourhood of a finite nonzero number. Below a power of two the numbers lie twice as
dense. -/
def neighbourhood (f : BinaryFormat) (mantissa : Nat) (exponent : Int) : Neighbourhood :=
  let gapBelow := if mantissa = twoTo (f.precision - 1) ∧ f.minExponent < exponent then 1 else 2
  let up := if 0 ≤ exponent then twoTo exponent.toNat else 1
  let down := if 0 ≤ exponent then 1 else twoTo (-exponent).toNat
  { value := 4 * mantissa * up
    low := (4 * mantissa - gapBelow) * up
    high := (4 * mantissa + 2) * up
    unit := 4 * down
    closed := mantissa % 2 = 0 }

def Neighbourhood.contains (b : Neighbourhood) (n : Nat) (e : Int) : Bool :=
  -- compares `n · 10 ^ e` with the ends, both times `unit`
  let (x, s) := if 0 ≤ e then (n * tenTo e.toNat * b.unit, 1) else (n * b.unit, tenTo (-e).toNat)
  if b.closed then b.low * s ≤ x && x ≤ b.high * s else b.low * s < x && x < b.high * s

/-- The better one of the points of the grid `10 ^ e` next to the value that round to it. -/
def Neighbourhood.onGrid? (b : Neighbourhood) (tie : Tie) (e : Int) : Option Nat :=
  let (n, d) := scale b.value b.unit e
  let below := n / d
  let r := n % d
  let (first, second) :=
    if 2 * r < d ∨ (2 * r = d ∧ tie = .even ∧ below % 2 = 0) then (below, below + 1) else (below + 1, below)
  if b.contains first e then some first
  else if b.contains second e then some second
  else none

/-- Tries grids of one digit more each time. -/
def Neighbourhood.search (b : Neighbourhood) (tie : Tie) (top : Int) :
    (fuel : Nat) → (digits : Nat) → Decimal
  | 0, k => ⟨(b.onGrid? tie (top - k)).getD 0, top - k⟩
  | fuel + 1, k =>
    match b.onGrid? tie (top - k) with
    | some n => ⟨n, top - k⟩
    | none => b.search tie top fuel (k + 1)

/-- Moves trailing zeros of the digits into the exponent. -/
def strip : (fuel : Nat) → Decimal → Decimal
  | 0, d => d
  | fuel + 1, d => if d.digits ≠ 0 ∧ d.digits % 10 = 0 then strip fuel ⟨d.digits / 10, d.exponent + 1⟩ else d

/-- The shortest decimal of a finite number's magnitude; zero is `0 · 10 ^ 0`. -/
def ofFinite (f : BinaryFormat) (tie : Tie) (mantissa : Nat) (exponent : Int) : Decimal :=
  if mantissa = 0 then ⟨0, 0⟩
  else
    let b := neighbourhood f mantissa exponent
    strip 20 (b.search tie (floorLog10 b.value b.unit) 17 0)

end Decimal
end RequestBinding
