import RequestBinding.Parameter
import RequestBinding.Log.Event

/-!
# Manifest issues

What can be wrong with a manifest. All issues of a document are found before it is refused.
-/

namespace RequestBinding

inductive IssueCause where
  | duplicateOperation (id : String)
  | invalidMethod (method : String)
  | unresolvedReference (path : String)
  | invalidParameter (name : String) (fault : TypeFault)
  | duplicateParameter (name : String) (location : Location)
  | secondBody (name : String)
  | structuredType (name : String) (location : Location) (type : ParameterType)
  | unknownSchema (name schema : String)
  | schemaWithoutBody (name : String)
  | notInPath (name path : String)
deriving DecidableEq, Repr

namespace IssueCause

def kind : IssueCause → String
  | duplicateOperation _ => "DuplicateOperation"
  | invalidMethod _ => "InvalidMethod"
  | unresolvedReference _ => "UnresolvedReference"
  | invalidParameter .. => "InvalidParameter"
  | duplicateParameter .. => "DuplicateParameter"
  | secondBody _ => "MultipleBodyParameters"
  | structuredType .. => "StructuredNonBodyParameter"
  | unknownSchema .. => "UnknownSchema"
  | schemaWithoutBody _ => "SchemaOnNonBodyParameter"
  | notInPath .. => "PathParameterNotInPattern"

def message : IssueCause → String
  | duplicateOperation id => s!"operation id '{id}' is declared more than once"
  | invalidMethod method => s!"'{method}' is not an HTTP method"
  | unresolvedReference path => s!"cannot resolve parameter reference '{path}'"
  | invalidParameter name fault => s!"parameter '{name}': {fault.text}"
  | duplicateParameter name location => s!"parameter '{name}' declared twice in {location.name}"
  | secondBody name => s!"'{name}' is a second body parameter"
  | structuredType name location type =>
    s!"parameter '{name}' in {location.name} has structured type {type.name}"
  | unknownSchema name schema => s!"body parameter '{name}' references unknown schema '{schema}'"
  | schemaWithoutBody name => s!"only body parameters may declare a schema ('{name}')"
  | notInPath name path => s!"path parameter '{name}' does not appear in '{path}'"

end IssueCause

/-- An issue and the operation where it was found. -/
structure Issue where
  location : String
  kind : String
  message : String
deriving DecidableEq, Repr

namespace Issue

def of (location : String) (cause : IssueCause) : Issue := ⟨location, cause.kind, cause.message⟩

def text (i : Issue) : String := s!"[{i.kind}] {i.location}: {i.message}"

def event (i : Issue) : LogEvent :=
  { level := .error
    message := "Manifest issue"
    fields := [("kind", i.kind), ("location", i.location), ("message", i.message)] }

end Issue

/-- Why a service cannot start. -/
inductive StartupError where
  | manifestInvalid (issues : List Issue)
  | schemaRejected (schema cause : String)
deriving DecidableEq, Repr

def StartupError.message : StartupError → String
  | manifestInvalid issues =>
    s!"manifest validation failed, {issues.length} issue(s):" ++
      String.join (issues.map fun i => "\n  " ++ i.text)
  | schemaRejected schema cause => s!"failed to compile JSON Schema '{schema}': {cause}"

/-- Fails if there is an issue, after logging every one. -/
def refuseIssues (issues : List Issue) : Logged (Except StartupError Unit) :=
  ⟨if issues.isEmpty then .ok () else .error (.manifestInvalid issues), issues.map Issue.event⟩

end RequestBinding
