import RequestBinding.Json.Basic

/-!
# JSON texts

`Json.compact` writes a value on one line without blanks, `Json.pretty` with one item a line and two
spaces for each level.
-/

namespace RequestBinding

/-- A character of a JSON string; controls and the two delimiters have a backslash. -/
def jsonChar (c : Char) : String :=
  if c = '"' then "\\\""
  else if c = '\\' then "\\\\"
  else if c.toNat = 8 then "\\b"
  else if c = '\t' then "\\t"
  else if c = '\n' then "\\n"
  else if c.toNat = 12 then "\\f"
  else if c = '\r' then "\\r"
  else if c.toNat < 16 then "\\u000" ++ String.ofList (Nat.toDigits 16 c.toNat)
  else if c.toNat < 32 then "\\u00" ++ String.ofList (Nat.toDigits 16 c.toNat)
  else c.toString

def jsonString (s : String) : String := "\"" ++ String.join (s.toList.map jsonChar) ++ "\""

namespace Json

mutual

/-- The text without blanks. -/
def compact : Json → String
  | .null => "null"
  | .bool b => if b then "true" else "false"
  | .number n => n.text
  | .string s => jsonString s
  | .array items => "[" ++ ",".intercalate (compactItems items) ++ "]"
  | .object members => "\x7b" ++ ",".intercalate (compactMembers members) ++ "\x7d"

def compactItems : List Json → List String
  | [] => []
  | v :: rest => compact v :: compactItems rest

def compactMembers : List (String × Json) → List String
  | [] => []
  | (n, v) :: rest => (jsonString n ++ ":" ++ compact v) :: compactMembers rest

end

/-- A new line at a level. -/
def indent (level : Nat) : String := "\n" ++ String.ofList (List.replicate (2 * level) ' ')

/-- Pieces between two brackets, each on a line one level below the brackets. -/
def enclosed (level : Nat) (first last : String) (pieces : List String) : String :=
  let start := indent (level + 1)
  first ++ start ++ ("," ++ start).intercalate pieces ++ indent level ++ last

mutual

def prettyAt (level : Nat) : Json → String
  | .array (v :: rest) => enclosed level "[" "]" (prettyItems (level + 1) (v :: rest))
  | .object (m :: rest) => enclosed level "\x7b" "\x7d" (prettyMembers (level + 1) (m :: rest))
  | .array [] => "[]"
  | .object [] => "\x7b\x7d"
  | .null => "null"
  | .bool b => if b then "true" else "false"
  | .number n => n.text
  | .string s => jsonString s

def prettyItems (level : Nat) : List Json → List String
  | [] => []
  | v :: rest => prettyAt level v :: prettyItems level rest

def prettyMembers (level : Nat) : List (String × Json) → List String
  | [] => []
  | (n, v) :: rest => (jsonString n ++ ": " ++ prettyAt level v) :: prettyMembers level rest

end

/-- The text with one item or member a line. -/
def pretty (v : Json) : String := prettyAt 0 v

end Json
end RequestBinding
