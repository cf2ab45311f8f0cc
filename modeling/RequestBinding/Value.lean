import RequestBinding.Parameter
import RequestBinding.Decimal.Integer
import RequestBinding.Json.Printer
import RequestBinding.Text.Quoted

/-!
# Bound values

`Value.coerce` reads the text of a parameter as a value of its declared type. Bodies are JSON values.
-/

namespace RequestBinding

inductive Value where
  | string (s : String)
  | int32 (n : Int)
  | int64 (n : Int)
  | float32 (x : Single)
  | float64 (x : Double)
  | boolean (b : Bool)
  | json (v : Json)
deriving Repr, BEq

/-- Why a text is no value of a type. -/
inductive CoerceReason where
  | integer (fault : IntegerFault)
  | emptyFloat
  | invalidFloat
  | beyondFloat32
  | invalidBoolean
  | bodyOnly (type : ParameterType)
deriving DecidableEq, Repr

def CoerceReason.text : CoerceReason → String
  | integer fault => fault.text
  | emptyFloat => "cannot parse float from empty string"
  | invalidFloat => "invalid float literal"
  | beyondFloat32 => "value out of range for float32"
  | invalidBoolean => "invalid boolean literal"
  | bodyOnly type => s!"{type.name} values are only accepted in the body"

structure CoerceError where
  raw : String
  reason : CoerceReason
deriving DecidableEq, Repr

def CoerceError.message (e : CoerceError) : String :=
  "parsing " ++ quoteText e.raw ++ ": " ++ e.reason.text

namespace Value

/-- The words for booleans. -/
def readBoolean? : String → Option Bool
  | "1" | "t" | "T" | "true" | "TRUE" | "True" => some true
  | "0" | "f" | "F" | "false" | "FALSE" | "False" => some false
  | _ => none

def readFloat (raw : String) : Except CoerceReason NumberText :=
  match NumberText.read? raw with
  | some t => .ok t
  | none => .error (if raw.isEmpty then .emptyFloat else .invalidFloat)

/-- A single that is infinite although the text is finite as a double is out of range. -/
def readFloat32 (raw : String) : Except CoerceReason Value := do
  let t ← readFloat raw
  let x : Single := t.toBinary
  let wide : Double := t.toBinary
  if x.isInfinite && wide.isFinite then .error .beyondFloat32 else .ok (.float32 x)

def readReason (raw : String) : ParameterType → Except CoerceReason Value
  | .string => .ok (.string raw)
  | .int32 => ((readInt 32 raw.toList).mapError .integer).map .int32
  | .int64 => ((readInt 64 raw.toList).mapError .integer).map .int64
  | .float32 => readFloat32 raw
  | .float64 => (readFloat raw).map fun t => .float64 t.toBinary
  | .boolean => match readBoolean? raw with
    | some b => .ok (.boolean b)
    | none => .error .invalidBoolean
  | type => .error (.bodyOnly type)

/-- Reads a text as a value of a type; structured types have no text. -/
def coerce (raw : String) (type : ParameterType) : Except CoerceError Value :=
  (readReason raw type).mapError (⟨raw, ·⟩)

def kind : Value → String
  | string _ => "string"
  | int32 _ => "int32"
  | int64 _ => "int64"
  | float32 _ => "float32"
  | float64 _ => "float64"
  | boolean _ => "boolean"
  | json _ => "json"

def toString? : Value → Option String
  | string s => some s
  | _ => none

def toInt32? : Value → Option Int
  | int32 n => some n
  | _ => none

/-- Either integer width. -/
def toInt64? : Value → Option Int
  | int32 n | int64 n => some n
  | _ => none

def toSingle? : Value → Option Single
  | float32 x => some x
  | _ => none

/-- Either float width. -/
def toDouble? : Value → Option Double
  | float32 x => some (x.convert .double)
  | float64 x => some x
  | _ => none

def toBool? : Value → Option Bool
  | boolean b => some b
  | _ => none

def toJson? : Value → Option Json
  | json v => some v
  | _ => none

/-- The value as JSON; singles are widened, and what JSON cannot write is null. -/
def toJson : Value → Json
  | string s => .string s
  | int32 n | int64 n => .number (.integer n)
  | float32 x => .ofDouble (x.convert .double)
  | float64 x => .ofDouble x
  | boolean b => .bool b
  | json v => v

/-- The JSON text of the value at its own width. -/
def serialize : Value → String
  | float32 x => x.jsonText
  | float64 x => x.jsonText
  | v => v.toJson.compact

/-- The plain text of the value. -/
def display : Value → String
  | string s => s
  | int32 n | int64 n => toString n
  | float32 x => x.display
  | float64 x => x.display
  | boolean b => if b then "true" else "false"
  | json v => v.compact

end Value
end RequestBinding
