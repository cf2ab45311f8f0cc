import RequestBinding.Parameter
import RequestBinding.Json.Basic

/-!
# Manifest documents

A manifest as its author writes it: named schemas, shared parameters and operations. The parameters of
an operation stand in line or refer to a shared one.
-/

namespace RequestBinding

/-- A parameter whose type is not resolved yet. -/
structure ParameterDeclaration where
  name : String
  location : Location
  required : Bool := false
  type : Option String := none
  format : Option String := none
  schema : Option String := none
  additionalProperties : Bool := false
deriving DecidableEq, Repr

inductive ParameterEntry where
  | reference (path : String)
  | inline (declaration : ParameterDeclaration)
deriving DecidableEq, Repr

structure OperationDeclaration where
  id : String
  method : String
  path : String
  parameters : List ParameterEntry := []
deriving DecidableEq, Repr

structure ManifestDocument where
  maxBodyOctets : Option Nat := none
  schemas : NameMap Json := []
  parameters : NameMap ParameterDeclaration := []
  operations : List OperationDeclaration := []
deriving Repr

end RequestBinding
