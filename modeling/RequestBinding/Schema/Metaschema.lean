import RequestBinding.Schema.Rules

/-!
# The schema of schemas

What a document has to look like to be a schema.
-/

namespace RequestBinding
namespace Metaschema

def object (members : List (String × Json)) : Json := .ofMembers members

def ofType (t : TypeName) : Json := object [("type", .string t.name)]

def referTo (target : String) : Json := object [("$ref", .string target)]

def itself : Json := referTo "#"

def anyOf (schemas : List Json) : Json := object [("anyOf", .array schemas)]

/-- A schema for each member of an object. -/
def mapTo (s : Json) : Json := object [("additionalProperties", s), ("type", .string "object")]

/-- At least one item, none of them twice if `unique`. -/
def someOf (s : Json) (unique : Bool) : Json :=
  object ([("items", s), ("minItems", Json.ofNat 1), ("type", .string "array")] ++
    if unique then [("uniqueItems", .bool true)] else [])

def schemaArray : Json := referTo "#/definitions/schemaArray"
def stringArray : Json := referTo "#/definitions/stringArray"
def simpleTypes : Json := referTo "#/definitions/simpleTypes"
def positiveInteger : Json := referTo "#/definitions/positiveInteger"

def definitions : Json := object [
  ("positiveInteger", object [("minimum", Json.ofNat 0), ("type", .string "integer")]),
  ("schemaArray", someOf itself false),
  ("simpleTypes", object [("enum", .array (TypeName.all.map fun t => .string t.name))]),
  ("stringArray", someOf (ofType .string) true)]

def properties : Json := object [
  ("$schema", ofType .string),
  ("additionalItems", anyOf [ofType .boolean, itself]),
  ("additionalProperties", anyOf [ofType .boolean, itself]),
  ("allOf", schemaArray),
  ("anyOf", schemaArray),
  ("definitions", mapTo itself),
  ("dependencies", mapTo (anyOf [itself, stringArray])),
  ("description", ofType .string),
  ("enum", ofType .array),
  ("exclusiveMaximum", ofType .boolean),
  ("exclusiveMinimum", ofType .boolean),
  ("format", ofType .string),
  ("id", ofType .string),
  ("items", anyOf [itself, schemaArray]),
  ("maxItems", positiveInteger),
  ("maxLength", positiveInteger),
  ("maxProperties", positiveInteger),
  ("maximum", ofType .number),
  ("minItems", positiveInteger),
  ("minLength", positiveInteger),
  ("minProperties", positiveInteger),
  ("minimum", ofType .number),
  ("multipleOf", object [("exclusiveMinimum", .bool true), ("minimum", Json.ofNat 0),
    ("type", .string "number")]),
  ("not", itself),
  ("oneOf", schemaArray),
  ("pattern", object [("format", .string "regex"), ("type", .string "string")]),
  ("patternProperties", mapTo itself),
  ("properties", mapTo itself),
  ("required", stringArray),
  ("title", ofType .string),
  ("type", anyOf [simpleTypes, someOf simpleTypes true]),
  ("uniqueItems", ofType .boolean)]

def document : Json := object [
  ("definitions", definitions),
  ("dependencies", object [
    ("exclusiveMaximum", .array [.string "maximum"]),
    ("exclusiveMinimum", .array [.string "minimum"])]),
  ("properties", properties),
  ("type", .string "object")]

/-- The URI of the schema of schemas. -/
def uri : String := "http://json-schema.org/draft-04/schema"

end Metaschema
end RequestBinding
