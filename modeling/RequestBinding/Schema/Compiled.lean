import RequestBinding.Json.Reader
import RequestBinding.Text.Quoted

/-!
# Compiled schemas

A compiled schema lists the violations of a value. A validator judges the octets of a body by one.
-/

namespace RequestBinding

structure CompiledSchema where
  name : String
  /-- Every violation of a value, in order; none if the value satisfies the schema. -/
  violations : Json → List String

/-- What a log says of a compiled schema. -/
def CompiledSchema.describe (s : CompiledSchema) : String :=
  "CompiledSchema \x7b name: " ++ quoteText s.name ++ ", .. \x7d"

/-- Judges a body; a failure carries its violations. -/
abbrev Validator := CompiledSchema → Octets → Except (List String) Unit

/-- Reads the body as JSON and asks the schema. A body that is no JSON has that as its violation. -/
def Validator.standard : Validator := fun schema payload =>
  match Json.ofOctets payload with
  | .error e => .error [s!"invalid JSON: {e.message}"]
  | .ok instance_ =>
    match schema.violations instance_ with
    | [] => .ok ()
    | vs => .error vs

end RequestBinding
