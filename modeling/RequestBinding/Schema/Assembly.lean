import RequestBinding.Schema.Registry

/-!
# Assembling schemas

`SchemaTable.ofDocument` turns a schema document into rules: the schema itself and the schemas that it
reaches by references, by their URIs. What a reference names is assembled where it is first met.
-/

namespace RequestBinding

inductive SchemaFault where
  /-- A rule for schemas that the document violates. -/
  | violated (text : String)
  | reference (fault : ReferenceFault)
deriving DecidableEq, Repr

def SchemaFault.text : SchemaFault → String
  | violated t => t
  | reference f => f.text

/-- What was assembled so far. -/
structure AssemblyState where
  targets : NameMap Schema := []
  /-- The targets being assembled around the present place. -/
  around : List String := []

abbrev Assembly := StateT AssemblyState (Except SchemaFault)

namespace Assembly

def violation {α : Type} (text : String) : Assembly α := throw (.violated text)

/-- Runs what may fail for a reference. -/
def referring {α : Type} (r : Except ReferenceFault α) : Assembly α :=
  match r with
  | .ok a => return a
  | .error f => throw (.reference f)

/-- Assembles a target unless that was done before; a target around the present place is guarded. -/
def reference (target : String) (assemble : Assembly Schema) : Assembly Schema := do
  let s ← get
  if s.around.contains target then return .reference target true
  else
    unless s.targets.contains target do
      set { s with around := target :: s.around }
      let part ← assemble
      modify fun t => { targets := t.targets.insert target part, around := s.around }
    return .reference target false

end Assembly

namespace Keyword

/-- The order in which keywords are judged. -/
def order : List String :=
  ["type", "enum", "minimum", "maximum", "multipleOf", "minLength", "maxLength", "minItems",
    "maxItems", "minProperties", "maxProperties", "required", "pattern", "format", "uniqueItems",
    "properties", "patternProperties", "additionalProperties", "items", "additionalItems",
    "dependencies", "allOf", "anyOf", "oneOf", "not"]

def rank (name : String) : Nat := order.idxOf name

/-- Whether the properties of a schema are judged together with those that it does not name. -/
def judgesTogether (members : List (String × Json)) : Bool :=
  match members.lookup "additionalProperties" with
  | some (.bool false) | some (.object _) => true
  | _ => false

/-- Whether a schema names properties, and has none by pattern. -/
def namesProperties (members : List (String × Json)) : Bool :=
  (members.lookup "properties").isSome && (members.lookup "patternProperties").isNone

def isClosed (members : List (String × Json)) : Bool :=
  match members.lookup "additionalProperties" with
  | some (.bool false) => true
  | _ => false

/-- Number of the required properties. -/
def requiredCount (members : List (String × Json)) : Nat :=
  match members.lookup "required" with
  | some (.array names) => names.length
  | _ => 0

/-- Whether the single required property is judged after the properties, which no others may join. -/
def requiresLast (members : List (String × Json)) : Bool :=
  isClosed members && namesProperties members && requiredCount members = 1

/-- Number of properties from which on they are not judged along with required ones. -/
def manyProperties : Nat := 15

/-- Whether required properties are not asked for. Two of them are left to the judge of the properties,
who asks for them only if it has few properties to judge and all others are left alone. -/
def ignoresRequired (members : List (String × Json)) : Bool :=
  !isClosed members && namesProperties members && requiredCount members = 2 &&
    (judgesTogether members ||
      match members.lookup "properties" with
      | some (.object known) => manyProperties ≤ known.length
      | _ => false)

def types (v : Json) : List TypeName :=
  match v with
  | .string s => (TypeName.ofName? s).toList
  | .array vs => vs.filterMap fun
    | .string s => TypeName.ofName? s
    | _ => none
  | _ => []

def texts : Json → List String
  | .array vs => vs.filterMap fun
    | .string s => some s
    | _ => none
  | _ => []

def isTrue : Option Json → Bool
  | some (.bool b) => b
  | _ => false

/-- Schemas under names. -/
def schemasOf (assemble : Json → Assembly Schema) : Option Json → Assembly (List (String × Schema))
  | some (.object members) => members.mapM fun (name, v) => return (name, ← assemble v)
  | _ => return []

/-- Schemas under patterns. -/
def patternsOf (assemble : Json → Assembly Schema) :
    Option Json → Assembly (List (Pattern × Schema))
  | some (.object members) => members.mapM fun (name, v) => do
    match WrittenPattern.read? name with
    | some p => return (p.pattern, ← assemble v)
    | none => Assembly.violation (v.compact ++ " is not a \"regex\"")
  | _ => return []

/-- A keyword with its number. -/
def counted (m : Measure) (least : Bool) : Json → List Keyword
  | .number (.integer n) => if n < 0 then [] else [if least then atLeast m n.toNat else atMost m n.toNat]
  | _ => []

/-- What the additional properties of a schema say, together with its properties and patterns. -/
def additional (assemble : Json → Assembly Schema) (members : List (String × Json)) (v : Json) :
    Assembly (List Keyword) := do
  let known := members.lookup "properties"
  let patterns := members.lookup "patternProperties"
  match v with
  | .bool false =>
    if known.isNone ∧ patterns.isNone then return [noProperties]
    else
      let patterns ← patternsOf assemble patterns
      return [closedProperties (← schemasOf assemble known) patterns]
  | .object _ =>
    if patterns.isNone then
      let known ← schemasOf assemble known
      return [allProperties known [] (← assemble v)]
    else
      let patterns ← patternsOf assemble patterns
      let others ← assemble v
      return [allProperties (← schemasOf assemble known) patterns others]
  | _ => return []

/-- What is said of required properties. -/
def requiredOf (members : List (String × Json)) (names : List String) : List Keyword :=
  if ignoresRequired members then []
  else if requiresLast members then
    let known := match members.lookup "properties" with
      | some (.object known) => known.map Prod.fst
      | _ => []
    names.map (requiredAmong · known)
  else [required names]

/-- What the additional items of a schema say, if its items are given in turn. -/
def furtherItems (assemble : Json → Assembly Schema) (members : List (String × Json)) (v : Json) :
    Assembly (List Keyword) := do
  match members.lookup "items", v with
  | some (.array schemas), .bool false => return [noItemsAfter schemas.length]
  | some (.array schemas), .object _ => return [itemsAfter schemas.length (← assemble v)]
  | _, _ => return []

/-- The keywords that a member of a schema stands for. -/
def ofMember (formats : Bool) (assemble : Json → Assembly Schema) (members : List (String × Json))
    (name : String) (v : Json) : Assembly (List Keyword) := do
  match name, v with
  | "type", v => return [type (types v)]
  | "enum", .array values => return [enum values]
  | "minimum", .number n => return [minimum n (isTrue (members.lookup "exclusiveMinimum"))]
  | "maximum", .number n => return [maximum n (isTrue (members.lookup "exclusiveMaximum"))]
  | "multipleOf", .number n => return [multipleOf n.toDouble]
  | "minLength", v => return counted .characters true v
  | "maxLength", v => return counted .characters false v
  | "minItems", v => return counted .items true v
  | "maxItems", v => return counted .items false v
  | "minProperties", v => return counted .properties true v
  | "maxProperties", v => return counted .properties false v
  | "required", v => return requiredOf members (texts v)
  | "pattern", .string s =>
    match WrittenPattern.read? s with
    | some p => return [pattern p]
    | none => Assembly.violation (v.compact ++ " is not a \"regex\"")
  | "format", .string s => return if formats then ((TextFormat.ofName? s).map format).toList else []
  | "uniqueItems", .bool true => return [uniqueItems]
  | "properties", v =>
    if judgesTogether members then return []
    else return [properties (← schemasOf assemble (some v))]
  | "patternProperties", v =>
    if judgesTogether members then return []
    else return [patternProperties (← patternsOf assemble (some v))]
  | "additionalProperties", v => additional assemble members v
  | "items", .array schemas => return [itemsInTurn (← schemas.mapM assemble)]
  | "items", v => return [items (← assemble v)]
  | "additionalItems", v => furtherItems assemble members v
  | "dependencies", .object dependencies =>
    dependencies.mapM fun (name, v) => do
      match v with
      | .array _ => return dependentNames name (texts v)
      | v => return dependentSchema name (← assemble v)
  | "allOf", .array schemas => return [allOf (← schemas.mapM assemble)]
  | "anyOf", .array schemas => return [anyOf (← schemas.mapM assemble)]
  | "oneOf", .array schemas => return [oneOf (← schemas.mapM assemble)]
  | "not", v => return [not v (← assemble v)]
  | _, _ => return []

/-- The place of a member's keywords among those of its schema. -/
def rankOf (members : List (String × Json)) (name : String) : Nat :=
  if name = "required" ∧ requiresLast members then rank "additionalProperties" else rank name

end Keyword

namespace Schema

/-- The schema that a value writes at a base. What stands beside a reference does not count. -/
def ofJson (formats : Bool) (registry : Registry) :
    (fuel : Nat) → (base : UriReference) → Json → Assembly Schema
  | 0, _, _ => return .always true
  | _, _, .bool b => return .always b
  | fuel + 1, base, .object members => do
    let base ← Assembly.referring (Registry.baseInside base (.object members))
    match members.lookup "$ref" with
    | some (.string text) =>
      let target ← Assembly.referring (Registry.resolve base text)
      let (there, part) ← Assembly.referring (registry.locate base text)
      Assembly.reference target.text (ofJson formats registry fuel there part)
    | some v => Assembly.violation (typeViolation [.string] v)
    | none =>
      let ranked ← members.mapM fun (name, v) => do
        return (Keyword.rankOf members name,
          ← Keyword.ofMember formats (ofJson formats registry fuel base) members name v)
      return .keywords ((ranked.mergeSort fun a b => a.1 ≤ b.1).flatMap Prod.snd)
  | _, _, v => Assembly.violation (typeViolation [.boolean, .object] v)

end Schema

/-- A schema with all that it refers to. -/
structure SchemaTable where
  schema : Schema
  targets : NameMap Schema

namespace SchemaTable

/-- The rules of a document with its resources. The fuel covers each part of the document along each
chain of references. -/
def ofDocument (formats : Bool) (registry : Registry) (document : Json) :
    Except SchemaFault SchemaTable := do
  let fuel := (document.size + 2) * (document.size + 2)
  let (schema, s) ← (Schema.ofJson formats registry fuel documentUri document).run {}
  return ⟨schema, s.targets⟩

/-- The violations of a value. The fuel covers each part of the value judged by each schema, along each
chain of references. -/
def violations (t : SchemaTable) (documentSize : Nat) (v : Json) : List String :=
  let chain := (t.targets.length + 2) * (t.targets.length + 2)
  t.schema.violations t.targets ((v.size + 1) * (documentSize + 1) * chain) [] v

end SchemaTable
end RequestBinding
