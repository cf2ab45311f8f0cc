import RequestBinding.Manifest.Build
import RequestBinding.Schema.Assembly
import RequestBinding.Schema.Compiled

/-!
# Schema documents

A schema of a manifest is compiled from a document that carries all schemas of the manifest as its
definitions, so that schemas can refer to one another.
-/

namespace RequestBinding

def schemaDialect : String := "http://json-schema.org/draft-04/schema#"

/-- The document of the schema called `name`. -/
def schemaDocument (name : String) (all : NameMap Json) : Json :=
  .ofMembers [("$schema", .string schemaDialect), ("title", .string name),
    ("definitions", .object all), ("$ref", .string ("#/definitions/" ++ name))]

namespace CompiledSchema

/-- What keeps a document from being a schema. -/
def schemaViolations (document : Json) : List String :=
  let m := Metaschema.document
  match Registry.ofDocument m with
  | .error f => [f.text]
  | .ok registry =>
    match SchemaTable.ofDocument true registry m with
    | .ok t => t.violations m.size document
    | .error f => [f.text]

/-- Finds the resources of a document, checks that it is a schema, and assembles its rules. -/
def rulesOf (formats : Bool) (document : Json) : Except SchemaFault SchemaTable := do
  let registry ← (Registry.ofDocument document).mapError .reference
  match schemaViolations document with
  | text :: _ => .error (.violated text)
  | [] => SchemaTable.ofDocument formats registry document

/-- Compiles a document under a name. -/
def compile (formats : Bool) (name : String) (document : Json) :
    Except StartupError CompiledSchema :=
  match rulesOf formats document with
  | .ok t => .ok ⟨name, t.violations document.size⟩
  | .error f => .error (.schemaRejected name f.text)

end CompiledSchema

/-- How a document becomes a compiled schema under a name. -/
abbrev SchemaCompiler := String → Json → Except StartupError CompiledSchema

/-- Compiles the schemas called `names` in turn; the first failure counts. -/
def compileNamed (compiler : SchemaCompiler) (all : NameMap Json) :
    List String → Logged (Except StartupError (NameMap CompiledSchema))
  | [] => return .ok []
  | name :: rest =>
    match compiler name (schemaDocument name all) with
    | .error e => return .error e
    | .ok schema => do
      Logged.emit { level := .debug, message := "Schema compiled", fields := [("schema", name)] }
      let others ← compileNamed compiler all rest
      return others.map (NameMap.insert name schema)

/-- Compiles every schema that a manifest refers to. -/
def Manifest.compileSchemas (compiler : SchemaCompiler) (m : Manifest) :
    Logged (Except StartupError (NameMap CompiledSchema)) :=
  compileNamed compiler m.schemas m.referencedSchemas

end RequestBinding
