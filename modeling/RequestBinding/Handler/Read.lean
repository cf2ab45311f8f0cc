import RequestBinding.Binding.Arguments
import RequestBinding.Binding.Error
import RequestBinding.Json.Shape

/-!
# Reading arguments

Handlers read an argument as a type of their own. The declaration decides what fits; a handler that
reads what the operation does not declare is at fault, not the request.
-/

namespace RequestBinding

/-- The type that a handler reads an argument as. -/
inductive ArgumentType where
  | string
  | int32
  | int64
  | float32
  | float64
  | boolean
  | json
  /-- An argument that may be absent. -/
  | optional (t : ArgumentType)
deriving DecidableEq, Repr

namespace ArgumentType

/-- The kind of value that the type is made from. -/
def kind : ArgumentType → String
  | string => "string"
  | int32 => "int32"
  | int64 => "int64"
  | float32 => "float32"
  | float64 => "float64"
  | boolean => "boolean"
  | json => "json"
  | optional t => t.kind

/-- A present value as the type; narrow numbers fit wide types. -/
def convert? : ArgumentType → Value → Option Value
  | string, v => v.toString?.map .string
  | int32, v => v.toInt32?.map .int32
  | int64, v => v.toInt64?.map .int64
  | float32, v => v.toSingle?.map .float32
  | float64, v => v.toDouble?.map .float64
  | boolean, v => v.toBool?.map .boolean
  | json, v => v.toJson?.map .json
  | optional t, v => t.convert? v

def admitsAbsence : ArgumentType → Bool
  | optional _ => true
  | _ => false

end ArgumentType

/-- Reads an argument as a type; an absent one is none. -/
def Arguments.read (args : Arguments) (name : String) (location : Location) (t : ArgumentType) :
    Except BindingError (Option Value) :=
  match args.get? name location with
  | none => .error (.internal
      s!"operation '{args.operationId}' does not declare parameter '{name}' in {location.name}")
  | some .absent => if t.admitsAbsence then .ok none else .error (.missing name location)
  | some (.present v) =>
    match t.convert? v with
    | some w => .ok (some w)
    | none => .error (.internal
        s!"parameter '{name}' in {location.name} is {v.kind}, handler expects {t.kind}")

/-! ## Bodies -/

/-- What a handler decodes a body into. -/
inductive BodyShape where
  | any
  | flag
  | text
  /-- An integer type, by its name and its least and greatest values. -/
  | integer (name : String) (least greatest : Int)
  | nullable (s : BodyShape)
  | list (s : BodyShape)
  | map (s : BodyShape)
  /-- A record, by its name and its fields: name, whether it has to be there, and shape. -/
  | record (name : String) (fields : List (String × Bool × BodyShape))

namespace BodyShape

/-- The words for a value in place of something else. -/
def found : Json → String
  | .null => "null"
  | .bool b => s!"boolean `{b}`"
  | .number n => JsonReader.foundNumber n
  | .string s => "string " ++ quoteText s
  | .array _ => "sequence"
  | .object _ => "map"

def misfit {α : Type} (v : Json) (expected : String) : Except String α :=
  .error s!"invalid type: {found v}, expected {expected}"

def readInteger (name : String) (least greatest : Int) (v : Json) : Except String Json :=
  match v with
  | .number (.integer n) =>
    if least ≤ n ∧ n ≤ greatest then .ok v
    else .error s!"invalid value: integer `{n}`, expected {name}"
  | v => misfit v name

/-- How a field of a record is read. -/
structure FieldReader where
  name : String
  required : Bool
  read : Json → Except String Json

/-- The fields of a record that is written as a sequence. -/
def readItems (words : String) (index : Nat) :
    List FieldReader → List Json → Except String (List (String × Json))
  | [], _ => .ok []
  | f :: fs, [] =>
    if f.required then .error s!"invalid length {index}, expected {words}"
    else return (f.name, .null) :: (← readItems words (index + 1) fs [])
  | f :: fs, v :: vs => return (f.name, ← f.read v) :: (← readItems words (index + 1) fs vs)

/-- The members of a record that are fields, in the order of the members. -/
def readMembers (fields : List FieldReader) :
    List (String × Json) → Except String (List (String × Json))
  | [] => .ok []
  | (name, v) :: rest =>
    match fields.find? (·.name = name) with
    | some f => return (name, ← f.read v) :: (← readMembers fields rest)
    | none => readMembers fields rest

/-- Every field of a record, those left out as null. -/
def complete (read : List (String × Json)) : List FieldReader → Except String (List (String × Json))
  | [] => .ok []
  | f :: fs =>
    match read.lookup f.name with
    | some v => return (f.name, v) :: (← complete read fs)
    | none =>
      if f.required then .error s!"missing field `{f.name}`"
      else return (f.name, .null) :: (← complete read fs)

def readRecord (name : String) (fields : List FieldReader) (v : Json) : Except String Json :=
  match v with
  | .array vs => do
    let read ← readItems s!"struct {name} with {fields.length} elements" 0 fields vs
    if fields.length < vs.length then
      .error s!"invalid length {vs.length}, expected fewer elements in array"
    else return .ofMembers read
  | .object members => do return .ofMembers (← complete (← readMembers fields members) fields)
  | v => misfit v s!"struct {name}"

mutual

/-- Decodes a body; gives the decoded value. -/
def read : BodyShape → Json → Except String Json
  | any, v => .ok v
  | flag, v => match v with
    | .bool _ => .ok v
    | v => misfit v "a boolean"
  | text, v => match v with
    | .string _ => .ok v
    | v => misfit v "a string"
  | integer name least greatest, v => readInteger name least greatest v
  | nullable s, v => match v with
    | .null => .ok .null
    | v => read s v
  | list s, v => match v with
    | .array vs => (vs.mapM (read s)).map .array
    | v => misfit v "a sequence"
  | map s, v => match v with
    | .object members =>
      (members.mapM fun (m : String × Json) => (read s m.2).map (m.1, ·)).map .object
    | v => misfit v "a map"
  | record name fields, v => readRecord name (readers fields) v

def readers : List (String × Bool × BodyShape) → List FieldReader
  | [] => []
  | (name, required, s) :: rest => ⟨name, required, read s⟩ :: readers rest

end

end BodyShape

/-- Decodes the body into a shape; an absent body is none. -/
def Arguments.readBody (args : Arguments) (s : BodyShape) : Except BindingError (Option Json) :=
  match args.bodyArgument? with
  | none => .ok none
  | some a =>
    match a.value.value?.bind Value.toJson? with
    | none => .ok none
    | some v => ((s.read v).map some).mapError (.bodyMisfit a.name)

end RequestBinding
