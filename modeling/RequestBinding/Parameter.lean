/-!
# Parameters and operations

An operation declares its parameters in order. A parameter is known by its name and its location.
-/

namespace RequestBinding

/-- Where in a request a parameter is read from. -/
inductive Location where
  | path
  | query
  | header
  | body
deriving DecidableEq, Repr, Inhabited

namespace Location

def name : Location → String
  | path => "path"
  | query => "query"
  | header => "header"
  | body => "body"

/-- The name as it stands in descriptions of values. -/
def title : Location → String
  | path => "Path"
  | query => "Query"
  | header => "Header"
  | body => "Body"

def all : List Location := [path, query, header, body]

/-- The location of a name. -/
def ofName? (name : String) : Option Location := all.find? (·.name = name)

/-- What is said of a text that names no location. -/
def unknownText (name : String) : String :=
  "unknown variant `" ++ name ++ "`, expected one of `path`, `query`, `header`, `body`"

end Location

/-- The declared type of a parameter. -/
inductive ParameterType where
  | string
  | int32
  | int64
  | float32
  | float64
  | boolean
  | object
  | array
  | map
deriving DecidableEq, Repr, Inhabited

/-- Why a type and a format name no parameter type. -/
inductive TypeFault where
  | unexpectedFormat (format type : String)
  | unsupportedType (type : String)
  | missingType
deriving DecidableEq, Repr

def TypeFault.text : TypeFault → String
  | unexpectedFormat format type => s!"unexpected format '{format}' for type '{type}'"
  | unsupportedType type => s!"unsupported parameter type '{type}'"
  | missingType => "missing 'type'"

namespace ParameterType

def name : ParameterType → String
  | string => "string"
  | int32 => "int32"
  | int64 => "int64"
  | float32 => "float32"
  | float64 => "float64"
  | boolean => "boolean"
  | object => "object"
  | array => "array"
  | map => "map"

def title : ParameterType → String
  | string => "String"
  | int32 => "Int32"
  | int64 => "Int64"
  | float32 => "Float32"
  | float64 => "Float64"
  | boolean => "Boolean"
  | object => "Object"
  | array => "Array"
  | map => "Map"

def all : List ParameterType :=
  [string, int32, int64, float32, float64, boolean, object, array, map]

def ofName? (name : String) : Option ParameterType := all.find? (·.name = name)

/-- Whether one text can hold a value of the type. -/
def isScalar : ParameterType → Bool
  | object | array | map => false
  | _ => true

/-- The type of a type name and a format. Integers and numbers without a format are the wide ones, and
an object with additional properties is a map. -/
def resolve (type : String) (format : Option String) (additionalProperties : Bool) :
    Except TypeFault ParameterType :=
  match type, format with
  | "string", _ => .ok string
  | "integer", none | "integer", some "int64" => .ok int64
  | "integer", some "int32" => .ok int32
  | "number", none | "number", some "double" => .ok float64
  | "number", some "float" => .ok float32
  | "integer", some f | "number", some f => .error (.unexpectedFormat f type)
  | "boolean", _ => .ok boolean
  | "object", _ => .ok (if additionalProperties then map else object)
  | "array", _ => .ok array
  | t, _ => .error (.unsupportedType t)

end ParameterType

structure Parameter where
  name : String
  location : Location
  required : Bool := false
  type : ParameterType
  format : Option String := none
  /-- Name of the schema that the body has to satisfy. -/
  schema : Option String := none
deriving DecidableEq, Repr

def Parameter.isBody (p : Parameter) : Bool := p.location = .body

structure Operation where
  id : String
  method : String
  path : String
  parameters : List Parameter
deriving DecidableEq, Repr

namespace Operation

/-- The first body parameter. -/
def bodyParameter? (op : Operation) : Option Parameter := op.parameters.find? Parameter.isBody

def parameter? (op : Operation) (name : String) (location : Location) : Option Parameter :=
  op.parameters.find? fun p => p.name = name ∧ p.location = location

end Operation
end RequestBinding
