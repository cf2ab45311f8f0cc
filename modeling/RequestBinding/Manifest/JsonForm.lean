import RequestBinding.Json.Shape
import RequestBinding.Manifest.Entry

/-!
# Manifest documents in JSON

Records are maps, or sequences of their fields in order; fields after the last that has to be there may
be left out. Unknown members of maps are stepped over.
-/

namespace RequestBinding
namespace JsonReader

variable {α : Type}

/-- A location: its name, or a map from its name to null. -/
def locationName : JsonReader Location := locating do
  let name ← match ← peekToken with
    | some 0x22 => skip; string
    | _ => misfit "variant identifier"
  match Location.ofName? name with
  | some l => return l
  | none => mismatch (Location.unknownText name)

def location (depth : Nat) : JsonReader Location := do
  match ← peekToken with
  | some 0x22 => locationName
  | some 0x7b =>
    if depth ≤ 1 then failAhead .tooDeep
    else
      skip
      let l ← locationName
      colon
      unit
      match ← peekToken with
      | some 0x7d => skip; return l
      | some _ => fail .expectedValue
      | none => fail .endInObject
  | some _ => failAhead .expectedValue
  | none => failAhead .endInValue

/-! ## Shared parameters -/

def declarationWords : String := "struct RawParameter"

/-- The fields of a declaration read so far. -/
structure DeclarationFields where
  name : Option String := none
  location : Option Location := none
  required : Option Bool := none
  type : Option (Option String) := none
  format : Option (Option String) := none
  schema : Option (Option String) := none
  additionalProperties : Option Bool := none

def DeclarationFields.finish (f : DeclarationFields) : JsonReader ParameterDeclaration := do
  let name ← requiredField "name" f.name
  let location ← requiredField "in" f.location
  return {
    name, location
    required := f.required.getD false
    type := f.type.getD none
    format := f.format.getD none
    schema := f.schema.getD none
    additionalProperties := f.additionalProperties.getD false }

def declarationMember (depth : Nat) (f : DeclarationFields) :
    String → JsonReader DeclarationFields
  | "name" => return { f with name := ← field "name" f.name text }
  | "in" => return { f with location := ← field "in" f.location (location depth) }
  | "required" => return { f with required := ← field "required" f.required flag }
  | "type" => return { f with type := ← field "type" f.type (optional text) }
  | "format" => return { f with format := ← field "format" f.format (optional text) }
  | "schema" => return { f with schema := ← field "schema" f.schema (optional text) }
  | "additional_properties" => return { f with
      additionalProperties := ← field "additional_properties" f.additionalProperties flag }
  | _ => do
    ignoreMember
    return f

def declarationItems (depth : Nat) : JsonReader ParameterDeclaration := do
  let words := declarationWords ++ " with 7 elements"
  let name ← nextRequired true 0 words text
  let location ← nextRequired false 1 words (location depth)
  let required ← nextField false flag
  let type ← nextField false (optional text)
  let format ← nextField false (optional text)
  let schema ← nextField false (optional text)
  let additionalProperties ← nextField false flag
  DeclarationFields.finish
    { name, location, required, type, format, schema, additionalProperties }

def declaration (depth : Nat) : JsonReader ParameterDeclaration :=
  record declarationWords depth declarationItems fun depth => do
    let f ← membersInto (declarationMember depth) (← room) true {}
    f.finish

/-! ## Operations -/

/-- An entry; a value that is none has no position of its own. -/
def entry (depth : Nat) : JsonReader ParameterEntry := do
  let v ← written (budget (← get)) depth
  match ParameterEntry.ofValue? (.ofJson v) with
  | some e => return e
  | none => mismatch "data did not match any variant of untagged enum RawParameterOrRef"

def operationWords : String := "struct RawOperation"

structure OperationFields where
  id : Option String := none
  method : Option String := none
  path : Option String := none
  parameters : Option (List ParameterEntry) := none

def OperationFields.finish (f : OperationFields) : JsonReader OperationDeclaration := do
  let id ← requiredField "operation_id" f.id
  let method ← requiredField "method" f.method
  let path ← requiredField "path" f.path
  return { id, method, path, parameters := f.parameters.getD [] }

def operationMember (depth : Nat) (f : OperationFields) : String → JsonReader OperationFields
  | "operation_id" => return { f with id := ← field "operation_id" f.id text }
  | "method" => return { f with method := ← field "method" f.method text }
  | "path" => return { f with path := ← field "path" f.path text }
  | "parameters" => return { f with
      parameters := ← field "parameters" f.parameters (sequence depth entry) }
  | _ => do
    ignoreMember
    return f

def operationItems (depth : Nat) : JsonReader OperationDeclaration := do
  let words := operationWords ++ " with 4 elements"
  let id ← nextRequired true 0 words text
  let method ← nextRequired false 1 words text
  let path ← nextRequired false 2 words text
  let parameters ← nextField false (sequence depth entry)
  OperationFields.finish { id, method, path, parameters }

def operation (depth : Nat) : JsonReader OperationDeclaration :=
  record operationWords depth operationItems fun depth => do
    let f ← membersInto (operationMember depth) (← room) true {}
    f.finish

/-! ## Documents -/

structure DocumentFields where
  maxBodyOctets : Option (Option Nat) := none
  schemas : Option (NameMap Json) := none
  parameters : Option (NameMap ParameterDeclaration) := none
  operations : Option (List OperationDeclaration) := none

def DocumentFields.finish (f : DocumentFields) : ManifestDocument where
  maxBodyOctets := f.maxBodyOctets.getD none
  schemas := f.schemas.getD []
  parameters := f.parameters.getD []
  operations := f.operations.getD []

def schemaValue (depth : Nat) : JsonReader Json := do value (budget (← get)) depth

def documentMember (depth : Nat) (f : DocumentFields) : String → JsonReader DocumentFields
  | "max_body_bytes" => return { f with
      maxBodyOctets := ← field "max_body_bytes" f.maxBodyOctets (optional size) }
  | "schemas" => return { f with
      schemas := ← field "schemas" f.schemas (mapOf depth schemaValue) }
  | "parameters" => return { f with
      parameters := ← field "parameters" f.parameters (mapOf depth declaration) }
  | "operations" => return { f with
      operations := ← field "operations" f.operations (sequence depth operation) }
  | _ => do
    ignoreMember
    return f

def documentItems (depth : Nat) : JsonReader ManifestDocument := do
  let maxBodyOctets ← nextField true (optional size)
  let schemas ← nextField false (mapOf depth schemaValue)
  let parameters ← nextField false (mapOf depth declaration)
  let operations ← nextField false (sequence depth operation)
  return DocumentFields.finish { maxBodyOctets, schemas, parameters, operations }

def manifestDocument : JsonReader ManifestDocument :=
  record "struct ManifestDocument" maxDepth documentItems fun depth => do
    let f ← membersInto (documentMember depth) (← room) true {}
    return f.finish

end JsonReader

/-- Reads a document that is written in JSON. -/
def ManifestDocument.ofJsonText (text : String) : Except JsonError ManifestDocument :=
  JsonReader.run JsonReader.manifestDocument (encodeUtf8 text)

end RequestBinding
