import RequestBinding.Manifest.Document
import RequestBinding.Manifest.Issue
import RequestBinding.Manifest.PathPattern
import RequestBinding.Request.Http
import RequestBinding.Text.Split

/-!
# Building manifests

`buildManifest` resolves references and types and checks each parameter against those before it. It
collects every issue before it fails.
-/

namespace RequestBinding

structure Manifest where
  operations : List Operation := []
  schemas : NameMap Json := []
  maxBodyOctets : Option Nat := none
deriving Repr

namespace Manifest

/-- The first operation of an id. -/
def operation? (m : Manifest) (id : String) : Option Operation := m.operations.find? (·.id = id)

/-- The names of the schemas that parameters refer to, in ascending order, each once. -/
def referencedSchemas (m : Manifest) : List String :=
  NameMap.names <| NameMap.ofList <|
    (m.operations.flatMap Operation.parameters).filterMap fun p => p.schema.map (·, ())

end Manifest

namespace ParameterDeclaration

/-- The resolved type; a body without a type is an object or a map. -/
def resolveType (d : ParameterDeclaration) : Except TypeFault ParameterType :=
  match d.type with
  | some type => ParameterType.resolve type d.format d.additionalProperties
  | none =>
    if d.location = .body then .ok (if d.additionalProperties then .map else .object)
    else .error .missingType

def resolve (d : ParameterDeclaration) : Except TypeFault Parameter :=
  d.resolveType.map fun type =>
    { name := d.name, location := d.location, required := d.required, type, format := d.format,
      schema := d.schema }

end ParameterDeclaration

/-- The shared parameter that a reference names. -/
def ManifestDocument.shared? (doc : ManifestDocument) (path : String) :
    Option ParameterDeclaration :=
  (stripStart? "#/parameters/" path).bind doc.parameters.get?

namespace ParameterEntry

/-- The declaration that an entry stands for. -/
def declaration (doc : ManifestDocument) : ParameterEntry → Except IssueCause ParameterDeclaration
  | inline d => .ok d
  | reference path =>
    match doc.shared? path with
    | some d => .ok d
    | none => .error (.unresolvedReference path)

def resolve (doc : ManifestDocument) (e : ParameterEntry) : Except IssueCause Parameter := do
  let d ← e.declaration doc
  d.resolve.mapError (.invalidParameter d.name)

end ParameterEntry

/-- The issues of a parameter of an operation that has the parameters `earlier` already. -/
def parameterIssues (schemas : NameMap Json) (path : String) (earlier : List Parameter)
    (p : Parameter) : List IssueCause :=
  (if earlier.any fun q => q.name = p.name ∧ q.location = p.location
    then [.duplicateParameter p.name p.location] else []) ++
  (if p.isBody ∧ earlier.any Parameter.isBody then [.secondBody p.name] else []) ++
  (if !p.isBody ∧ !p.type.isScalar then [.structuredType p.name p.location p.type] else []) ++
  (match p.schema with
    | none => []
    | some schema =>
      if !p.isBody then [.schemaWithoutBody p.name]
      else if schemas.contains schema then [] else [.unknownSchema p.name schema]) ++
  (if p.location = .path ∧ p.name ∉ pathVariables path then [.notInPath p.name path] else [])

/-- The parameters of an operation after `earlier`, and their issues. A parameter with issues still
counts for those after it, unless it could not be resolved. -/
def buildParameters (doc : ManifestDocument) (path : String) :
    (earlier : List Parameter) → List ParameterEntry → List Parameter × List IssueCause
  | earlier, [] => (earlier, [])
  | earlier, e :: es =>
    match e.resolve doc with
    | .error cause =>
      let (ps, causes) := buildParameters doc path earlier es
      (ps, cause :: causes)
    | .ok p =>
      let (ps, causes) := buildParameters doc path (earlier ++ [p]) es
      (ps, parameterIssues doc.schemas path earlier p ++ causes)

/-- An operation and its issues; there is none without a valid method. -/
def buildOperation (doc : ManifestDocument) (d : OperationDeclaration) :
    Option Operation × List IssueCause :=
  let method := Http.uppercase d.method
  if Http.isToken method then
    let (parameters, causes) := buildParameters doc d.path [] d.parameters
    (some { id := d.id, method, path := d.path, parameters }, causes)
  else (none, [.invalidMethod d.method])

def Operation.builtEvent (op : Operation) : LogEvent :=
  { level := .debug
    message := "Operation manifest built"
    fields := [("operation_id", op.id), ("method", op.method), ("path", op.path),
      ("parameters", toString op.parameters.length)] }

/-- The place of an operation in the words of its author. -/
def OperationDeclaration.place (d : OperationDeclaration) : String :=
  s!"{d.method} {d.path} ({d.id})"

/-- The operations of a document after those with the ids `seen`, and the issues of all of them. -/
def buildOperations (doc : ManifestDocument) :
    (seen : List String) → List OperationDeclaration → List Operation × List Issue
  | _, [] => ([], [])
  | seen, d :: ds =>
    let repeated := if d.id ∈ seen then [IssueCause.duplicateOperation d.id] else []
    let (op, causes) := buildOperation doc d
    let (ops, issues) := buildOperations doc (d.id :: seen) ds
    (op.toList ++ ops, (repeated ++ causes).map (Issue.of d.place) ++ issues)

/-- Resolves and checks a document. -/
def buildManifest (doc : ManifestDocument) : Logged (Except StartupError Manifest) :=
  let (operations, issues) := buildOperations doc [] doc.operations
  let refusal := refuseIssues issues
  { value := refusal.value.map fun () =>
      { operations, schemas := doc.schemas, maxBodyOctets := doc.maxBodyOctets }
    events := operations.map Operation.builtEvent ++ refusal.events }

end RequestBinding
