/-!
# Tables of code points

A table lists code points as ascending ranges, each with a step. `CodeTable.contains` looks a code
point up by halving the table.
-/

namespace RequestBinding

/-- The code points from `first` to `last` in steps. -/
structure CodeRange where
  first : Nat
  last : Nat
  step : Nat
deriving DecidableEq, Repr

def CodeRange.contains (r : CodeRange) (n : Nat) : Bool :=
  r.first ≤ n && n ≤ r.last && (n - r.first) % r.step = 0

/-- Ranges in ascending order, none of which overlap. -/
abbrev CodeTable := Array CodeRange

namespace CodeTable

/-- Number of the ranges at places from `low` to `high` that start at or before `n`, and of those before
`low`, if those before `low` do and those from `high` on do not. -/
def started (t : CodeTable) (n : Nat) : (fuel low high : Nat) → Nat
  | 0, low, _ => low
  | fuel + 1, low, high =>
    if high ≤ low then low
    else
      let middle := (low + high) / 2
      if (t[middle]?).any (·.first ≤ n) then started t n fuel (middle + 1) high
      else started t n fuel low middle

/-- Whether a range of the table has the code point: the last one that starts at or before it. -/
def contains (t : CodeTable) (n : Nat) : Bool :=
  match started t n t.size 0 t.size with
  | 0 => false
  | k + 1 => (t[k]?).any (·.contains n)

end CodeTable
end RequestBinding
