import RequestBinding.Decimal.Power

/-!
# Binary floating point numbers

A finite number of a binary format is `± mantissa · 2 ^ exponent`. `Binary.ofRatio` gives the number
of the format nearest to an exact ratio, a tie going to the even mantissa.
-/

namespace RequestBinding

/-- A binary interchange format. -/
structure BinaryFormat where
  /-- Bits of a full mantissa. -/
  precision : Nat
  /-- Exponent of the least positive number. -/
  minExponent : Int
  /-- Exponent of the greatest finite numbers. -/
  maxExponent : Int
deriving DecidableEq, Repr

def BinaryFormat.single : BinaryFormat := ⟨24, -149, 104⟩
def BinaryFormat.double : BinaryFormat := ⟨53, -1074, 971⟩

/-- A number of format `f`. A finite one is canonical: its mantissa has all `f.precision` bits, or its
exponent is the least one. -/
inductive Binary (f : BinaryFormat) where
  | nan
  | infinity (negative : Bool)
  | finite (negative : Bool) (mantissa : Nat) (exponent : Int)
deriving DecidableEq, Repr

abbrev Single := Binary .single
abbrev Double := Binary .double

instance (f : BinaryFormat) : Inhabited (Binary f) := ⟨.finite false 0 f.minExponent⟩

/-- `(n, d)` with `n / d = num / den · 2 ^ (-e)`. -/
def scaleRatio (num den : Nat) (e : Int) : Nat × Nat :=
  if 0 ≤ e then (num, den * twoTo e.toNat) else (num * twoTo (-e).toNat, den)

/-- The greatest `e` with `2 ^ e ≤ num / den`, for a positive ratio. -/
def floorLog2 (num den : Nat) : Int :=
  let e : Int := (num.log2 : Int) - den.log2
  let (n, d) := scaleRatio num den e
  if d ≤ n then e else e - 1

/-- The quotient rounded to the nearest integer, a tie to the even one. -/
def roundQuotient (n d : Nat) : Nat :=
  let q := n / d
  let r := n % d
  if d < 2 * r ∨ (2 * r = d ∧ q % 2 = 1) then q + 1 else q

namespace Binary

variable {f : BinaryFormat}

def zero (negative : Bool) : Binary f := .finite negative 0 f.minExponent

/-- Brings a mantissa of at most `2 ^ precision` to canonical form, or to infinity. -/
def ofRounded (negative : Bool) (mantissa : Nat) (exponent : Int) : Binary f :=
  if mantissa = twoTo f.precision then
    if f.maxExponent < exponent + 1 then .infinity negative
    else .finite negative (twoTo (f.precision - 1)) (exponent + 1)
  else if f.maxExponent < exponent then .infinity negative
  else .finite negative mantissa exponent

/-- The number nearest to `± num / den`. -/
def ofRatio (negative : Bool) (num den : Nat) : Binary f :=
  if num = 0 then zero negative
  else
    let e := max f.minExponent (floorLog2 num den - (f.precision - 1))
    let (n, d) := scaleRatio num den e
    ofRounded negative (roundQuotient n d) e

def isNegative : Binary f → Bool
  | nan => false
  | infinity s => s
  | finite s _ _ => s

def isFinite : Binary f → Bool
  | finite .. => true
  | _ => false

def isInfinite : Binary f → Bool
  | infinity _ => true
  | _ => false

def neg : Binary f → Binary f
  | nan => nan
  | infinity s => infinity !s
  | finite s m e => finite (!s) m e

/-- The magnitude of a finite number as a ratio. -/
def ratio? : Binary f → Option (Nat × Nat)
  | finite _ m e => some (if 0 ≤ e then (m * twoTo e.toNat, 1) else (m, twoTo (-e).toNat))
  | _ => none

/-- The number of format `g` nearest to a number of format `f`. -/
def convert (g : BinaryFormat) (x : Binary f) : Binary g :=
  match x with
  | nan => nan
  | infinity s => infinity s
  | finite s m e =>
    let (n, d) := if 0 ≤ e then (m * twoTo e.toNat, 1) else (m, twoTo (-e).toNat)
    ofRatio s n d

/-- The nearest number to an integer. -/
def ofInt (n : Int) : Binary f := ofRatio (n < 0) n.natAbs 1

/-- The product of two finite magnitudes, rounded once. -/
def mulAbs (x y : Binary f) : Binary f :=
  match x.ratio?, y.ratio? with
  | some (a, b), some (c, d) => ofRatio false (a * c) (b * d)
  | _, _ => infinity false

/-- The quotient of two finite magnitudes, rounded once. -/
def divAbs (x y : Binary f) : Binary f :=
  match x.ratio?, y.ratio? with
  | some (a, b), some (c, d) => ofRatio false (a * d) (b * c)
  | _, _ => infinity false

@[simp] theorem neg_neg (x : Binary f) : x.neg.neg = x := by
  cases x <;> simp [neg]

@[simp] theorem ofRatio_zero (s : Bool) (den : Nat) : (ofRatio s 0 den : Binary f) = zero s := rfl

end Binary
end RequestBinding
