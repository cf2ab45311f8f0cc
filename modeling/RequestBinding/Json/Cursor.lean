import RequestBinding.Text.Utf8

/-!
# Positions in JSON texts

A cursor stands between the octets read and those to come. Lines count from one, columns count the
octets read on the line.
-/

namespace RequestBinding

structure TextPosition where
  line : Nat
  column : Nat
deriving DecidableEq, Repr

/-- Why a text is no JSON document, or not one of the expected shape. -/
inductive JsonFault where
  | endInList
  | endInObject
  | endInString
  | endInValue
  | expectedColon
  | expectedCommaOrBracket
  | expectedCommaOrBrace
  | expectedWord
  | expectedValue
  | invalidEscape
  | invalidNumber
  | numberOutOfRange
  | invalidCodePoint
  | controlCharacter
  | keyNotString
  | loneSurrogate
  | trailingComma
  | trailingCharacters
  | unfinishedSurrogate
  | tooDeep
  | shape (text : String)
deriving DecidableEq, Repr

def JsonFault.text : JsonFault → String
  | endInList => "EOF while parsing a list"
  | endInObject => "EOF while parsing an object"
  | endInString => "EOF while parsing a string"
  | endInValue => "EOF while parsing a value"
  | expectedColon => "expected `:`"
  | expectedCommaOrBracket => "expected `,` or `]`"
  | expectedCommaOrBrace => "expected `,` or `\x7d`"
  | expectedWord => "expected ident"
  | expectedValue => "expected value"
  | invalidEscape => "invalid escape"
  | invalidNumber => "invalid number"
  | numberOutOfRange => "number out of range"
  | invalidCodePoint => "invalid unicode code point"
  | controlCharacter => "control character (\\u0000-\\u001F) found while parsing a string"
  | keyNotString => "key must be a string"
  | loneSurrogate => "lone leading surrogate in hex escape"
  | trailingComma => "trailing comma"
  | trailingCharacters => "trailing characters"
  | unfinishedSurrogate => "unexpected end of hex escape"
  | tooDeep => "recursion limit exceeded"
  | shape t => t

/-- A fault, and where the reader noticed it. -/
structure JsonError where
  fault : JsonFault
  position : Option TextPosition
deriving DecidableEq, Repr

def JsonError.message (e : JsonError) : String :=
  match e.position with
  | none => e.fault.text
  | some p => s!"{e.fault.text} at line {p.line} column {p.column}"

structure Cursor where
  rest : Octets
  line : Nat
  column : Nat
deriving Repr

namespace Cursor

def ofOctets (bytes : Octets) : Cursor := ⟨bytes, 1, 0⟩

def position (c : Cursor) : TextPosition := ⟨c.line, c.column⟩

/-- Steps over one octet. -/
def advance (c : Cursor) : Cursor :=
  match c.rest with
  | [] => c
  | b :: rest => if b = 10 then ⟨rest, c.line + 1, 0⟩ else ⟨rest, c.line, c.column + 1⟩

/-- Steps over `n` octets. -/
def advanceBy : Nat → Cursor → Cursor
  | 0, c => c
  | n + 1, c => advanceBy n c.advance

/-- Whether the octet is a blank between JSON tokens. -/
def isGap (b : UInt8) : Bool := b = 0x20 || b = 0x0a || b = 0x09 || b = 0x0d

/-- Steps over blanks. -/
def skipGaps (c : Cursor) : Cursor := c.advanceBy (c.rest.takeWhile isGap).length

end Cursor

/-- A reader of JSON text. A failed reader leaves the cursor where it stopped. -/
abbrev JsonReader := EStateM JsonError Cursor

namespace JsonReader

/-- The next octet, if any. -/
def peek : JsonReader (Option UInt8) := do return (← get).rest.head?

def skip : JsonReader Unit := modify Cursor.advance

/-- The next octet after blanks, if any. -/
def peekToken : JsonReader (Option UInt8) := do
  modify Cursor.skipGaps
  peek

/-- Fails at the cursor. -/
def fail {α : Type} (fault : JsonFault) : JsonReader α := do
  throw ⟨fault, some (← get).position⟩

/-- Fails at the next octet, which counts as read. -/
def failAhead {α : Type} (fault : JsonFault) : JsonReader α := do
  throw ⟨fault, some (← get).advance.position⟩

/-- Fails `n` octets before the cursor, on its line. -/
def failBehind {α : Type} (n : Nat) (fault : JsonFault) : JsonReader α := do
  let p := (← get).position
  throw ⟨fault, some ⟨p.line, p.column - n⟩⟩

/-- Fails without a position; an enclosing reader adds one. -/
def mismatch {α : Type} (text : String) : JsonReader α := throw ⟨.shape text, none⟩

/-- Gives a failure that has no position the one where the cursor stopped. -/
def locating {α : Type} (r : JsonReader α) : JsonReader α := fun c =>
  match r c with
  | .ok a c => .ok a c
  | .error e c => .error (if e.position.isNone then ⟨e.fault, some c.position⟩ else e) c

/-- Runs `r`, then `after` even if `r` failed; the first failure counts. -/
def finally_ {α : Type} (r : JsonReader α) (after : JsonReader Unit) : JsonReader α := fun c =>
  match r c with
  | .ok a c =>
    match after c with
    | .ok _ c => .ok a c
    | .error e c => .error e c
  | .error e c =>
    match after c with
    | .ok _ c => .error e c
    | .error _ c => .error e c

end JsonReader
end RequestBinding
