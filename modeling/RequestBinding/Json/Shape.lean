import RequestBinding.Json.Skip
import RequestBinding.Text.Quoted

/-!
# JSON texts of an expected shape

Readers of values whose shape is known before: texts, flags, sizes, sequences, maps and records. What
does not fit is refused in terms of what was found and what was expected.
-/

namespace RequestBinding
namespace JsonReader

variable {α : Type}

/-- The words for a number in place of something else. -/
def foundNumber : JsonNumber → String
  | .integer n => s!"integer `{n}`"
  | .double x => s!"floating point `{x.jsonText}`"

/-- Reads what stands in place of something else, brackets aside; gives the words for it. -/
def found : JsonReader String := do
  match ← peek with
  | some 0x6e => skip; word [0x75, 0x6c, 0x6c]; return "null"
  | some 0x74 => skip; word [0x72, 0x75, 0x65]; return "boolean `true`"
  | some 0x66 => skip; word [0x61, 0x6c, 0x73, 0x65]; return "boolean `false`"
  | some 0x2d => skip; return foundNumber (← number false)
  | some 0x22 => skip; return "string " ++ quoteText (← string)
  | some 0x5b => return "sequence"
  | some 0x7b => return "map"
  | some b => if isDigit b then return foundNumber (← number true) else failAhead .expectedValue
  | none => failAhead .endInValue

/-- Refuses what comes next. -/
def misfit (expected : String) : JsonReader α := locating do
  mismatch s!"invalid type: {← found}, expected {expected}"

def text : JsonReader String := locating do
  match ← peekToken with
  | some 0x22 => skip; string
  | _ => misfit "a string"

def flag : JsonReader Bool := locating do
  match ← peekToken with
  | some 0x74 => skip; word [0x72, 0x75, 0x65]; return true
  | some 0x66 => skip; word [0x61, 0x6c, 0x73, 0x65]; return false
  | _ => misfit "a boolean"

/-- A number that has to be a size. -/
def sizeOf (n : JsonNumber) : JsonReader Nat :=
  match n, n.toUInt64? with
  | _, some size => pure size
  | .integer n, none => mismatch s!"invalid value: integer `{n}`, expected usize"
  | n, none => mismatch s!"invalid type: {foundNumber n}, expected usize"

def size : JsonReader Nat := locating do
  match ← peekToken with
  | some 0x2d => skip; sizeOf (← number false)
  | some b => if isDigit b then sizeOf (← number true) else misfit "usize"
  | none => failAhead .endInValue

/-- Null, or what `r` reads. -/
def optional (r : JsonReader α) : JsonReader (Option α) := do
  match ← peekToken with
  | some 0x6e => skip; word [0x75, 0x6c, 0x6c]; return none
  | _ => some <$> r

def unit : JsonReader Unit := locating do
  match ← peekToken with
  | some 0x6e => skip; word [0x75, 0x6c, 0x6c]
  | _ => misfit "unit"

/-! ## Sequences and maps -/

/-- The end of a sequence of which enough has been read. -/
def endItems : JsonReader Unit := do
  match ← peekToken with
  | some 0x5d => skip
  | some 0x2c =>
    skip
    match ← peekToken with
    | some 0x5d => failAhead .trailingComma
    | _ => failAhead .trailingCharacters
  | some _ => failAhead .trailingCharacters
  | none => failAhead .endInList

def endMembers : JsonReader Unit := do
  match ← peekToken with
  | some 0x7d => skip
  | some 0x2c => failAhead .trailingComma
  | some _ => failAhead .trailingCharacters
  | none => failAhead .endInObject

/-- Steps over an opening bracket, reads what is inside with one level less, and steps over the end. -/
def inside (depth : Nat) (inner : Nat → JsonReader α) (ending : JsonReader Unit) : JsonReader α :=
  if depth ≤ 1 then failAhead .tooDeep
  else do
    skip
    finally_ (inner (depth - 1)) ending

/-- The items of a sequence. -/
def itemsOf (r : JsonReader α) : (fuel : Nat) → (first : Bool) → JsonReader (List α)
  | 0, _ => return []
  | fuel + 1, first => do
    if ← anotherItem first then return (← r) :: (← itemsOf r fuel false)
    else return []

/-- Reads members into a record that is filled step by step; `step` reads a member after its name. -/
def membersInto (step : α → String → JsonReader α) : (fuel : Nat) → (first : Bool) → α → JsonReader α
  | 0, _, read => return read
  | fuel + 1, first, read => do
    if ← anotherMember first then
      skip
      membersInto step fuel false (← step read (← string))
    else return read

/-- Bound on the number of items and members that can follow. -/
def room : JsonReader Nat := return (← get).rest.length + 1

def sequence (depth : Nat) (r : Nat → JsonReader α) : JsonReader (List α) := locating do
  match ← peekToken with
  | none => failAhead .endInValue
  | some 0x5b => inside depth (fun depth => do itemsOf (r depth) (← room) true) endItems
  | some _ => misfit "a sequence"

/-- A map; the last entry of a name counts. -/
def mapOf (depth : Nat) (r : Nat → JsonReader α) : JsonReader (NameMap α) := locating do
  let step depth (m : NameMap α) name : JsonReader (NameMap α) := do
    colon
    return m.insert name (← r depth)
  match ← peekToken with
  | none => failAhead .endInValue
  | some 0x7b => inside depth (fun depth => do membersInto (step depth) (← room) true []) endMembers
  | some _ => misfit "a map"

/-! ## Records -/

/-- A record, written as a sequence of its fields or as a map. -/
def record (expected : String) (depth : Nat) (ofItems ofMembers : Nat → JsonReader α) :
    JsonReader α := locating do
  match ← peekToken with
  | none => failAhead .endInValue
  | some 0x5b => inside depth ofItems endItems
  | some 0x7b => inside depth ofMembers endMembers
  | some _ => misfit expected

/-- One more field of a record that is written as a sequence, if there is one. -/
def nextField (first : Bool) (r : JsonReader α) : JsonReader (Option α) := do
  if ← anotherItem first then some <$> r else return none

/-- A field that has to be there, with the words for a sequence that is too short. -/
def nextRequired (first : Bool) (index : Nat) (expected : String) (r : JsonReader α) :
    JsonReader α := do
  match ← nextField first r with
  | some a => return a
  | none => mismatch s!"invalid length {index}, expected {expected}"

/-- The value of a field that may occur once. -/
def field (name : String) (seen : Option α) (r : JsonReader α) : JsonReader (Option α) := do
  if seen.isSome then mismatch s!"duplicate field `{name}`"
  else
    colon
    some <$> r

/-- A field that has to occur. -/
def requiredField (name : String) : Option α → JsonReader α
  | some a => return a
  | none => mismatch s!"missing field `{name}`"

/-- Steps over a member of which only the name has been read. -/
def ignoreMember : JsonReader Unit := do
  colon
  ignore

end JsonReader
end RequestBinding
