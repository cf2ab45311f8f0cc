import RequestBinding.Manifest.Document

/-!
# Parameter entries

An entry of an operation's parameters is read as a value first and then understood: as a reference if
it can be one, otherwise as a declaration.
-/

namespace RequestBinding

/-- A value as a document writes it. Keys of maps may be of any kind, and may repeat. -/
inductive EntryValue where
  | null
  | bool (b : Bool)
  | number (n : JsonNumber)
  | string (s : String)
  | list (items : List EntryValue)
  | map (entries : List (EntryValue × EntryValue))
deriving Repr, Inhabited

namespace EntryValue

mutual

def ofJson : Json → EntryValue
  | .null => .null
  | .bool b => .bool b
  | .number n => .number n
  | .string s => .string s
  | .array items => .list (ofItems items)
  | .object members => .map (ofMembers members)

def ofItems : List Json → List EntryValue
  | [] => []
  | v :: rest => ofJson v :: ofItems rest

def ofMembers : List (String × Json) → List (EntryValue × EntryValue)
  | [] => []
  | (n, v) :: rest => (.string n, ofJson v) :: ofMembers rest

end

def text? : EntryValue → Option String
  | string s => some s
  | _ => none

def flag? : EntryValue → Option Bool
  | bool b => some b
  | _ => none

/-- A text that may be null. -/
def optionalText? : EntryValue → Option (Option String)
  | null => some none
  | string s => some (some s)
  | _ => none

/-- The place of a name in a list that a key gives, by the name itself or by its number; a key that
gives none but could is past the end. -/
def index? (names : List String) : EntryValue → Option Nat
  | string s => some (names.idxOf s)
  | number n => n.toUInt64?
  | _ => none

/-- A location is written as its name, or as a map from its name to null. -/
def location? : EntryValue → Option Location
  | string s => Location.ofName? s
  | map [(key, null)] => (key.index? (Location.all.map Location.name)).bind (Location.all[·]?)
  | _ => none

/-- The fields of a map by their places in `names`; none if a key cannot be one or a field repeats. -/
def fieldsOf? (names : List String) : List (EntryValue × EntryValue) →
    Option (List (Nat × EntryValue))
  | [] => some []
  | (key, v) :: rest => do
    let i ← key.index? names
    let fields ← fieldsOf? names rest
    if i < names.length then
      if (fields.lookup i).isSome then none else return (i, v) :: fields
    else return fields

/-- The fields of a record, by their places. -/
def record? (names : List String) : EntryValue → Option (List (Nat × EntryValue))
  | list items => if items.length ≤ names.length then some (items.zipIdx.map fun (v, i) => (i, v)) else none
  | map entries => fieldsOf? names entries
  | _ => none

end EntryValue

/-- The fields of a declaration, in the order of its written sequence. -/
def ParameterDeclaration.fields : List String :=
  ["name", "in", "required", "type", "format", "schema", "additional_properties"]

/-- The declaration that a record makes. -/
def ParameterDeclaration.ofValue? (v : EntryValue) : Option ParameterDeclaration := do
  let fields ← v.record? fields
  let name ← (← fields.lookup 0).text?
  let location ← (← fields.lookup 1).location?
  let required ← (fields.lookup 2).elim (some false) EntryValue.flag?
  let type ← (fields.lookup 3).elim (some none) EntryValue.optionalText?
  let format ← (fields.lookup 4).elim (some none) EntryValue.optionalText?
  let schema ← (fields.lookup 5).elim (some none) EntryValue.optionalText?
  let additionalProperties ← (fields.lookup 6).elim (some false) EntryValue.flag?
  return { name, location, required, type, format, schema, additionalProperties }

/-- The path of a reference, which is always a map. -/
def ParameterEntry.referenceOf? : EntryValue → Option String
  | .map entries => do
    let fields ← EntryValue.fieldsOf? ["$ref"] entries
    (← fields.lookup 0).text?
  | _ => none

/-- What an entry stands for. -/
def ParameterEntry.ofValue? (v : EntryValue) : Option ParameterEntry :=
  match referenceOf? v with
  | some path => some (.reference path)
  | none => (ParameterDeclaration.ofValue? v).map .inline

end RequestBinding
