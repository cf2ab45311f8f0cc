import RequestBinding.Decimal.Shortest
import RequestBinding.Json.Printer
import RequestBinding.Schema.Format

/-!
# Schemas and their violations

A schema is a list of keywords. `Schema.violations` lists what a value violates, keyword by keyword,
members in the order of their names and items in the order of their places. A guarded reference that
comes back to itself on the same value adds nothing.
-/

namespace RequestBinding

inductive TypeName where
  | array
  | boolean
  | integer
  | null
  | number
  | object
  | string
deriving DecidableEq, Repr

namespace TypeName

def name : TypeName → String
  | array => "array"
  | boolean => "boolean"
  | integer => "integer"
  | null => "null"
  | number => "number"
  | object => "object"
  | string => "string"

/-- All types, in the order in which they are listed. -/
def all : List TypeName := [array, boolean, integer, null, number, object, string]

def ofName? (name : String) : Option TypeName := all.find? (·.name = name)

/-- Whether a value is of a type. An integer is written without fraction and exponent. -/
def admits : TypeName → Json → Bool
  | array, .array _ => true
  | boolean, .bool _ => true
  | integer, .number (.integer _) => true
  | null, .null => true
  | number, .number _ => true
  | object, .object _ => true
  | string, .string _ => true
  | _, _ => false

end TypeName

/-- What is counted of a value. -/
inductive Measure where
  | characters
  | items
  | properties
deriving DecidableEq, Repr

namespace Measure

def count? : Measure → Json → Option Nat
  | characters, .string s => some s.length
  | items, .array vs => some vs.length
  | properties, .object ms => some ms.length
  | _, _ => none

def words (m : Measure) (n : Nat) : String :=
  let one := n = 1
  match m with
  | characters => if one then "character" else "characters"
  | items => if one then "item" else "items"
  | properties => if one then "property" else "properties"

def tooFew : Measure → String
  | characters => "is shorter than"
  | _ => "has less than"

def tooMany : Measure → String
  | characters => "is longer than"
  | _ => "has more than"

end Measure

mutual

inductive Schema where
  /-- Everything or nothing is allowed. -/
  | always (allowed : Bool)
  /-- The schema that a reference names. A guarded reference stands inside its own target. -/
  | reference (target : String) (guarded : Bool)
  | keywords (ks : List Keyword)

inductive Keyword where
  | type (names : List TypeName)
  | enum (values : List Json)
  | minimum (limit : JsonNumber) (exclusive : Bool)
  | maximum (limit : JsonNumber) (exclusive : Bool)
  | multipleOf (divisor : Double)
  | atLeast (m : Measure) (n : Nat)
  | atMost (m : Measure) (n : Nat)
  | required (names : List String)
  /-- A required property that has to be one of the known ones. -/
  | requiredAmong (name : String) (known : List String)
  | pattern (p : WrittenPattern)
  | format (f : TextFormat)
  | uniqueItems
  | properties (known : List (String × Schema))
  | patternProperties (patterns : List (Pattern × Schema))
  /-- Properties, by name, by pattern, and otherwise by the last schema. -/
  | allProperties (known : List (String × Schema)) (patterns : List (Pattern × Schema))
      (others : Schema)
  /-- Properties, by name or by pattern; others are not allowed. -/
  | closedProperties (known : List (String × Schema)) (patterns : List (Pattern × Schema))
  | noProperties
  | items (each : Schema)
  | itemsInTurn (schemas : List Schema)
  | noItemsAfter (n : Nat)
  | itemsAfter (n : Nat) (each : Schema)
  | dependentNames (name : String) (names : List String)
  | dependentSchema (name : String) (s : Schema)
  | allOf (schemas : List Schema)
  | anyOf (schemas : List Schema)
  | oneOf (schemas : List Schema)
  | not (shown : Json) (s : Schema)

end

/-! ## Equality and divisibility -/

mutual

/-- Equality of values, numbers by their exact value. -/
def Json.same : Json → Json → Bool
  | .null, .null => true
  | .bool a, .bool b => a == b
  | .number a, .number b => a.sameValue b
  | .string a, .string b => a == b
  | .array as, .array bs => Json.sameItems as bs
  | .object as, .object bs => Json.sameMembers as bs
  | _, _ => false

def Json.sameItems : List Json → List Json → Bool
  | [], [] => true
  | a :: as, b :: bs => Json.same a b && Json.sameItems as bs
  | _, _ => false

def Json.sameMembers : List (String × Json) → List (String × Json) → Bool
  | [], [] => true
  | (m, a) :: as, (n, b) :: bs => m == n && Json.same a b && Json.sameMembers as bs
  | _, _ => false

end

/-- Whether two items of a list are alike. -/
def hasAlike (alike : Json → Json → Bool) : List Json → Bool
  | [] => false
  | v :: rest => rest.any (alike v) || hasAlike alike rest

/-- How many items are compared by their exact values. -/
def comparedByValue : Nat := 15

/-- Whether an item occurs twice. Among many items an integer and a double are never the same. -/
def hasDuplicate (items : List Json) : Bool :=
  if items.length ≤ comparedByValue then hasAlike Json.same items else hasAlike (· == ·) items

namespace Binary

variable {f : BinaryFormat}

/-- The exact value as a numerator and a denominator; what is not finite counts as zero. -/
def exactRatio (x : Binary f) : Int × Nat :=
  let (n, d) := x.ratio?.getD (0, 1)
  (if x.isNegative then -(n : Int) else n, d)

/-- The value of the plain text as a numerator and a denominator. -/
def writtenRatio : Binary f → Int × Nat
  | finite negative m e =>
    let d := Decimal.ofFinite f NumberLayout.plain.tie m e
    let n : Int := if negative then -(d.digits : Int) else d.digits
    if 0 ≤ d.exponent then (n * tenTo d.exponent.toNat, 1) else (n, tenTo (-d.exponent).toNat)
  | _ => (0, 1)

/-- Whether the number has no fraction. -/
def isWhole (x : Binary f) : Bool :=
  let (n, d) := x.exactRatio
  n % d = 0

/-- Whether one ratio is a multiple of another. -/
def dividesRatio (divisor x : Int × Nat) : Bool := x.1 * divisor.2 % (divisor.1 * x.2) = 0

/-- Whether a number is a multiple of another. Whole divisors divide the exact value, others the value
as it is written. -/
def isMultipleOf (x divisor : Binary f) : Bool :=
  if divisor.isWhole then x.isWhole && dividesRatio divisor.exactRatio x.exactRatio
  else dividesRatio divisor.writtenRatio x.writtenRatio

end Binary

/-! ## Texts -/

/-- A list of values as alternatives. -/
def listed (values : List Json) : String :=
  match values.map Json.compact with
  | [] => ""
  | [a] => a
  | [a, b] => a ++ " or " ++ b
  | [a, b, c] => a ++ ", " ++ b ++ " or " ++ c
  | a :: b :: rest => a ++ ", " ++ b ++ s!" or {rest.length} other candidates"

/-- The end of a sentence on things that were not expected. -/
def unexpected (things : List String) : String :=
  "(" ++ ", ".intercalate things ++ (if things.length = 1 then " was" else " were") ++ " unexpected)"

def typeViolation (names : List TypeName) (v : Json) : String :=
  let shown := (TypeName.all.filter names.contains).map fun t => "\"" ++ t.name ++ "\""
  v.compact ++ (if names.length = 1 then " is not of type " else " is not of types ") ++
    ", ".intercalate shown

def requiredViolation (name : String) : String := jsonString name ++ " is a required property"

/-- The names that an object lacks. -/
def missingNames (names : List String) (members : List (String × Json)) : List String :=
  (names.filter fun n => (members.lookup n).isNone).map requiredViolation

/-! ## Violations -/

/-- The violations of one keyword. `here` judges the value itself by another schema, `inner` a part of
it. -/
def Keyword.violations (here inner : Schema → Json → List String) (v : Json) : Keyword → List String
  | .type names => if names.any (·.admits v) then [] else [typeViolation names v]
  | .enum values => if values.any v.same then [] else [v.compact ++ " is not one of " ++ listed values]
  | .minimum limit exclusive =>
    match v with
    | .number x =>
      if exclusive then
        if limit.lt x then []
        else [s!"{v.compact} is less than or equal to the minimum of {limit.text}"]
      else if x.lt limit then [s!"{v.compact} is less than the minimum of {limit.text}"]
      else []
    | _ => []
  | .maximum limit exclusive =>
    match v with
    | .number x =>
      if exclusive then
        if x.lt limit then []
        else [s!"{v.compact} is greater than or equal to the maximum of {limit.text}"]
      else if limit.lt x then [s!"{v.compact} is greater than the maximum of {limit.text}"]
      else []
    | _ => []
  | .multipleOf divisor =>
    match v with
    | .number x =>
      if x.toDouble.isMultipleOf divisor then []
      else [s!"{v.compact} is not a multiple of {divisor.display}"]
    | _ => []
  | .atLeast m n =>
    if (m.count? v).any (· < n) then [s!"{v.compact} {m.tooFew} {n} {m.words n}"] else []
  | .atMost m n =>
    if (m.count? v).any (n < ·) then [s!"{v.compact} {m.tooMany} {n} {m.words n}"] else []
  | .required names =>
    match v with
    | .object members => missingNames names members
    | _ => []
  | .requiredAmong name known =>
    match v with
    | .object members =>
      if known.contains name ∧ (members.lookup name).isSome then [] else [requiredViolation name]
    | _ => []
  | .pattern p =>
    match v with
    | .string s =>
      if p.pattern.occursIn s then [] else [v.compact ++ " does not match \"" ++ p.shown ++ "\""]
    | _ => []
  | .format f =>
    match v with
    | .string s => if f.accepts s then [] else [v.compact ++ " is not a \"" ++ f.name ++ "\""]
    | _ => []
  | .uniqueItems =>
    match v with
    | .array vs => if hasDuplicate vs then [v.compact ++ " has non-unique elements"] else []
    | _ => []
  | .properties known =>
    match v with
    | .object members =>
      known.flatMap fun (name, s) => ((members.lookup name).map (inner s)).getD []
    | _ => []
  | .patternProperties patterns =>
    match v with
    | .object members =>
      patterns.flatMap fun (p, s) =>
        members.flatMap fun (name, w) => if p.occursIn name then inner s w else []
    | _ => []
  | .allProperties known patterns others =>
    match v with
    | .object members =>
      members.flatMap fun (name, w) =>
        let matched := patterns.filter fun (p, _) => p.occursIn name
        match known.lookup name, matched with
        | none, [] => inner others w
        | s, _ => (s.map (inner · w)).getD [] ++ matched.flatMap fun (_, s) => inner s w
    | _ => []
  | .closedProperties known patterns =>
    match v with
    | .object members =>
      let matched (name : String) := patterns.filter fun (p, _) => p.occursIn name
      let strange := members.filter fun (name, _) =>
        (known.lookup name).isNone && (matched name).isEmpty
      (members.flatMap fun (name, w) =>
        ((known.lookup name).map (inner · w)).getD [] ++
          (matched name).flatMap fun (_, s) => inner s w) ++
      if strange.isEmpty then []
      else ["Additional properties are not allowed " ++
        unexpected (strange.map fun (name, _) => "'" ++ name ++ "'")]
    | _ => []
  | .noProperties =>
    match v with
    | .object ((_, w) :: _) => ["False schema does not allow " ++ w.compact]
    | _ => []
  | .items each =>
    match v with
    | .array vs => vs.flatMap (inner each)
    | _ => []
  | .itemsInTurn schemas =>
    match v with
    | .array vs => (schemas.zip vs).flatMap fun (s, w) => inner s w
    | _ => []
  | .noItemsAfter n =>
    match v with
    | .array vs =>
      let strange := vs.drop n
      if strange.isEmpty then []
      else ["Additional items are not allowed " ++ unexpected (strange.map Json.compact)]
    | _ => []
  | .itemsAfter n each =>
    match v with
    | .array vs => (vs.drop n).flatMap (inner each)
    | _ => []
  | .dependentNames name names =>
    match v with
    | .object members => if (members.lookup name).isSome then missingNames names members else []
    | _ => []
  | .dependentSchema name s =>
    match v with
    | .object members => if (members.lookup name).isSome then here s v else []
    | _ => []
  | .allOf schemas => schemas.flatMap (here · v)
  | .anyOf schemas =>
    if schemas.any fun s => (here s v).isEmpty then []
    else [v.compact ++ " is not valid under any of the schemas listed in the 'anyOf' keyword"]
  | .oneOf schemas =>
    match (schemas.filter fun s => (here s v).isEmpty).length with
    | 0 => [v.compact ++ " is not valid under any of the schemas listed in the 'oneOf' keyword"]
    | 1 => []
    | _ => [v.compact ++ " is valid under more than one of the schemas listed in the 'oneOf' keyword"]
  | .not shown s =>
    if (here s v).isEmpty then [shown.compact ++ " is not allowed for " ++ v.compact] else []

/-- The violations of a schema. `followed` holds the guarded references followed on the same value. -/
def Schema.violations (targets : NameMap Schema) :
    (fuel : Nat) → (followed : List String) → Schema → Json → List String
  | 0, _, _, _ => []
  | fuel + 1, followed, s, v =>
    match s with
    | .always allowed => if allowed then [] else ["False schema does not allow " ++ v.compact]
    | .reference target guarded =>
      if guarded ∧ followed.contains target then []
      else match targets.get? target with
        | some s => violations targets fuel (if guarded then target :: followed else followed) s v
        | none => []
    | .keywords ks =>
      ks.flatMap (Keyword.violations (violations targets fuel followed) (violations targets fuel []) v)

end RequestBinding
