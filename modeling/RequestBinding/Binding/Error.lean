import RequestBinding.Parameter
import RequestBinding.Text.Quoted

/-!
# Binding errors

The first thing that goes wrong while a request is bound. All but one kind are the client's fault. What
no error tells of is a panic, which breaks binding off.
-/

namespace RequestBinding

inductive BindingError where
  | missing (name : String) (location : Location)
  | malformed (name : String) (location : Location) (cause : String)
  | bodyTooLarge (limit : Nat)
  | bodyUnreadable (cause : String)
  | schemaViolated (violations : List String)
  | bodyMisfit (name cause : String)
  | internal (cause : String)
deriving DecidableEq, Repr

namespace BindingError

/-- The violations as one text. -/
def renderViolations (violations : List String) : String := ", ".intercalate violations

def kind : BindingError → String
  | missing .. => "missing_required_parameter"
  | malformed .. => "malformed_parameter_value"
  | bodyTooLarge _ => "body_too_large"
  | bodyUnreadable _ => "body_unreadable"
  | schemaViolated _ => "schema_validation_failure"
  | bodyMisfit .. => "body_decode_failure"
  | internal _ => "internal"

/-- The text that the client receives. -/
def message : BindingError → String
  | missing name location => s!"Parameter '{name}' expected in {location.name}"
  | malformed name _ cause => s!"Parameter '{name}': {cause}"
  | bodyTooLarge limit => s!"Body unreadable: request body too large (limit {limit} bytes)"
  | bodyUnreadable cause => s!"Body unreadable: {cause}"
  | schemaViolated violations =>
    s!"Failed to validate against schema: {renderViolations violations}"
  | bodyMisfit name cause => s!"Error JSON-decoding body parameter '{name}': {cause}"
  | internal cause => s!"Internal error: {cause}"

def isClientError : BindingError → Bool
  | internal _ => false
  | _ => true

/-- The status of the response to the request. -/
def status (e : BindingError) : Nat := if e.isClientError then 400 else 500

/-- The parameter that the error is about, if it is about one. -/
def parameterName? : BindingError → Option String
  | missing name _ | malformed name _ _ | bodyMisfit name _ => some name
  | _ => none

/-- A record with named fields, as logs show it. -/
def record (title : String) (fields : List (String × String)) : String :=
  let inner := ", ".intercalate (fields.map fun (n, v) => s!"{n}: {v}")
  title ++ " \x7b " ++ inner ++ " \x7d"

/-- What a log says of the error. -/
def describe : BindingError → String
  | missing name location =>
    record "MissingRequiredParameter" [("name", quoteText name), ("location", location.title)]
  | malformed name location cause =>
    record "MalformedParameterValue"
      [("name", quoteText name), ("location", location.title), ("cause", quoteText cause)]
  | bodyTooLarge limit => record "BodyTooLarge" [("limit", toString limit)]
  | bodyUnreadable cause => record "BodyUnreadable" [("cause", quoteText cause)]
  | schemaViolated violations =>
    record "SchemaValidationFailure"
      [("violations", "[" ++ ", ".intercalate (violations.map quoteText) ++ "]")]
  | bodyMisfit name cause =>
    record "BodyDecodeFailure" [("name", quoteText name), ("cause", quoteText cause)]
  | internal cause => record "Internal" [("cause", quoteText cause)]

end BindingError

/-- How binding stops early: it fails with an error, or a panic breaks it off. -/
inductive Stop where
  | failed (error : BindingError)
  | panicked (text : String)
deriving DecidableEq, Repr

end RequestBinding
