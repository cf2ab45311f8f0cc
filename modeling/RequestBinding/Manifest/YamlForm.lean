import RequestBinding.Manifest.Entry
import RequestBinding.Yaml.Resolve
import RequestBinding.Yaml.Scan

/-!
# Manifest documents in YAML

A text field takes the text of any scalar. Schemas and the entries of an operation's parameters are read
as values, by the spelling of their scalars. An empty value is an empty record, map or sequence.

Collections lie within one another at most 128 deep, and aliases are followed at most a hundred times as
often as the document has nodes and ends of collections.
-/

namespace RequestBinding
namespace Yaml

/-- A step of reading a document, by its anchored nodes and how many aliases may still be followed. -/
abbrev ReadYaml := ReaderT (List (Nat × Node)) (StateT Nat Option)

namespace ReadYaml

variable {α : Type}

def failed : ReadYaml α := fun _ _ => none

def ofOption (a? : Option α) : ReadYaml α := fun _ s => a?.map (·, s)

/-- The node that an alias stands for: the last with its number. -/
def follow : Node → ReadYaml Node
  | .aliasTo i => do
    match (← get), (← read).reverse.lookup i with
    | left + 1, some n =>
      set left
      return n
    | _, _ => failed
  | n => return n

def maxDepth : Nat := 128

/-! ## Scalars -/

def text (n : Node) : ReadYaml String := do
  match ← follow n with
  | .scalar _ _ s => return s
  | _ => failed

/-- The text of a scalar that may be a number or a truth value: a plain one, or one in literal lines with
the tag of its kind. -/
def typedText (kind : String) (n : Node) : ReadYaml String := do
  match ← follow n with
  | .scalar p style s =>
    if style = .plain ∨ style = .literal ∧ p.tag = some (coreTag kind) then return s else failed
  | _ => failed

def flag (n : Node) : ReadYaml Bool := do ofOption (bool? (← typedText "bool" n))

def size (n : Node) : ReadYaml Nat := do
  ofOption (natural? maxSize (← typedText "int" n).toList)

/-- A value that may be null, which is written in plain style. -/
def optional (read : Node → ReadYaml α) (n : Node) : ReadYaml (Option α) := do
  let n ← follow n
  let isNull ← match n with
    | .scalar p .plain s =>
      if p.tag = some (coreTag "null") then (if isNullText s then pure true else failed)
      else pure (p.tag = none ∧ (s = "" ∨ isNullText s))
    | _ => pure false
  if isNull then return none else return some (← read n)

/-! ## Collections -/

/-- The items of a sequence, each read one level deeper. -/
def sequence (depth : Nat) (read : Nat → Node → ReadYaml α) (n : Node) : ReadYaml (List α) := do
  match ← follow n, depth with
  | .sequence _ items, depth + 1 => items.mapM (read depth)
  | .scalar _ .plain "", _ => return []
  | _, _ => failed

/-- The entries of a mapping, and the depth below it. -/
def entries (depth : Nat) (n : Node) : ReadYaml (List (Node × Node) × Nat) := do
  match ← follow n, depth with
  | .mapping _ entries, depth + 1 => return (entries, depth)
  | .scalar _ .plain "", _ => return ([], depth)
  | _, _ => failed

/-- A map with text names; the last entry of a name counts. -/
def mapOf (depth : Nat) (read : Nat → Node → ReadYaml α) (n : Node) : ReadYaml (NameMap α) := do
  let (entries, depth) ← entries depth n
  return NameMap.ofList (← entries.mapM fun (k, v) => return (← text k, ← read depth v))

/-- The known fields of a record, each given at most once. -/
def fieldsOf (known : List String) : List (Node × Node) → ReadYaml (List (String × Node))
  | [] => return []
  | (k, v) :: rest => do
    let name ← text k
    let fields ← fieldsOf known rest
    if !known.contains name then return fields
    if (fields.lookup name).isSome then failed
    return (name, v) :: fields

/-- The fields of a record, and the depth below it. -/
def record (depth : Nat) (known : List String) (n : Node) :
    ReadYaml (List (String × Node) × Nat) := do
  let (entries, depth) ← entries depth n
  return (← fieldsOf known entries, depth)

/-- A field that has to be there. -/
def required (fields : List (String × Node)) (name : String) (read : Node → ReadYaml α) :
    ReadYaml α := do
  read (← ofOption (fields.lookup name))

/-- A field that may be left out. -/
def field (fields : List (String × Node)) (name : String) (default : α) (read : Node → ReadYaml α) :
    ReadYaml α :=
  match fields.lookup name with
  | some n => read n
  | none => return default

/-! ## Values -/

/-- A collection in a value has no tag of its own. -/
def plainTag (p : Properties) : ReadYaml Unit :=
  if p.tag.any (·.startsWith "!") then failed else return ()

/-- A value of a schema. Keys are texts; numbers that are not finite are null. -/
def jsonValue (depth : Nat) (n : Node) : ReadYaml Json := do
  match ← follow n, depth with
  | .scalar p style s, _ =>
    match ← ofOption (scalarValue? p.tag style s) with
    | .null => return .null
    | .bool b => return .bool b
    | .integer i => return .number (.integer i)
    | .float x => return .ofDouble x
    | .text s => return .string s
  | .sequence p items, depth + 1 =>
    plainTag p
    return .array (← items.mapM (jsonValue depth))
  | .mapping p entries, depth + 1 =>
    plainTag p
    return .ofMembers (← entries.mapM fun (k, v) => return (← text k, ← jsonValue depth v))
  | _, _ => failed

/-- An entry of an operation's parameters. Keys are values as well. -/
def entryValue (depth : Nat) (n : Node) : ReadYaml EntryValue := do
  match ← follow n, depth with
  | .scalar p style s, _ =>
    match ← ofOption (scalarValue? p.tag style s) with
    | .null => return .null
    | .bool b => return .bool b
    | .integer i => return .number (.integer i)
    | .float x => return .number (.double x)
    | .text s => return .string s
  | .sequence p items, depth + 1 =>
    plainTag p
    return .list (← items.mapM (entryValue depth))
  | .mapping p entries, depth + 1 =>
    plainTag p
    return .map (← entries.mapM fun (k, v) => return (← entryValue depth k, ← entryValue depth v))
  | _, _ => failed

/-! ## Parts of a manifest -/

/-- A location: its name as a text, or as the tag of nothing or null. -/
def location (n : Node) : ReadYaml Location := do
  match ← follow n with
  | .scalar p style s =>
    match p.tag.filter (·.startsWith "!") with
    | none => ofOption (Location.ofName? s)
    | some tag =>
      if style = .plain ∧ (s = "" ∨ isNullText s) then
        ofOption (Location.ofName? (String.ofList tag.toList.tail))
      else failed
  | _ => failed

def declaration (depth : Nat) (n : Node) : ReadYaml ParameterDeclaration := do
  let (fields, _) ← record depth ParameterDeclaration.fields n
  return {
    name := ← required fields "name" text
    location := ← required fields "in" location
    required := ← field fields "required" false flag
    type := ← field fields "type" none (optional text)
    format := ← field fields "format" none (optional text)
    schema := ← field fields "schema" none (optional text)
    additionalProperties := ← field fields "additional_properties" false flag }

def entry (depth : Nat) (n : Node) : ReadYaml ParameterEntry := do
  ofOption (ParameterEntry.ofValue? (← entryValue depth n))

def operation (depth : Nat) (n : Node) : ReadYaml OperationDeclaration := do
  let (fields, depth) ← record depth ["operation_id", "method", "path", "parameters"] n
  return {
    id := ← required fields "operation_id" text
    method := ← required fields "method" text
    path := ← required fields "path" text
    parameters := ← field fields "parameters" [] (sequence depth entry) }

def manifestDocument (n : Node) : ReadYaml ManifestDocument := do
  let (fields, depth) ← record maxDepth ["max_body_bytes", "schemas", "parameters", "operations"] n
  return {
    maxBodyOctets := ← field fields "max_body_bytes" none (optional size)
    schemas := ← field fields "schemas" [] (mapOf depth jsonValue)
    parameters := ← field fields "parameters" [] (mapOf depth declaration)
    operations := ← field fields "operations" [] (sequence depth operation) }

end ReadYaml
end Yaml

/-- Reads a document that is written in YAML; none if it is no such document. A stream without any
document is an empty one. -/
def ManifestDocument.ofYamlText (text : String) : Option ManifestDocument := do
  match ← Yaml.Node.ofTokens? (← Yaml.Token.scan? text) with
  | none => return {}
  | some n =>
    let jumps := 100 * n.weight
    return (← ((Yaml.ReadYaml.manifestDocument n).run n.anchored).run jumps).1

end RequestBinding
