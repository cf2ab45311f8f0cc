import RequestBinding.Decimal.Integer
import RequestBinding.Json.Cursor
import RequestBinding.Json.Basic

/-!
# Reading JSON values

`Json.ofOctets` reads a whole document. Arrays and objects may nest 127 deep. A number with a fraction
or an exponent is the integer made of its leading digits, as many as fit in 64 bits, scaled once by a
power of ten.
-/

namespace RequestBinding
namespace JsonReader

/-- Nesting that a document may use. -/
def maxDepth : Nat := 128

/-- Reads the remaining octets of a word. -/
def word : List UInt8 → JsonReader Unit
  | [] => pure ()
  | b :: rest => do
    match ← peek with
    | none => fail .endInValue
    | some a =>
      skip
      if a = b then word rest else fail .expectedWord

/-! ## Numbers -/

def isDigit (b : UInt8) : Bool := 0x30 ≤ b && b ≤ 0x39

/-- Reads a run of digits. -/
def digits : JsonReader (List Nat) := do
  let run := (← get).rest.takeWhile isDigit
  modify (Cursor.advanceBy run.length)
  return run.map fun b => b.toNat - 0x30

/-- Appends digits to a number as long as it is a size; also counts them. -/
def absorb (n : Nat) : List Nat → Nat × Nat
  | [] => (n, 0)
  | d :: ds =>
    if 10 * n + d ≤ maxSize then
      let (m, k) := absorb (10 * n + d) ds
      (m, k + 1)
    else (n, 0)

def powerOfTen (k : Nat) : Double := .ofRatio false (tenTo k) 1

/-- Divides by `10 ^ 308` until the exponent is at least `-308`; three times reach zero. -/
def scaleDown : (fuel : Nat) → Double → Int → Double
  | 0, x, _ => x
  | fuel + 1, x, e =>
    if -308 ≤ e then x.divAbs (powerOfTen (-e).toNat)
    else if x = .zero false then x
    else scaleDown fuel (x.divAbs (powerOfTen 308)) (e + 308)

/-- `significand · 10 ^ e` by one rounded operation, if it is finite. -/
def scaled? (significand : Nat) (e : Int) : Option Double :=
  let x : Double := .ofInt significand
  if e < 0 then some (scaleDown 4 x e)
  else if e ≤ 308 then
    let y := x.mulAbs (powerOfTen e.toNat)
    if y.isInfinite then none else some y
  else if significand = 0 then some x
  else none

def signed (positive : Bool) (x : Double) : JsonNumber := .double (if positive then x else x.neg)

def finish (positive : Bool) (significand : Nat) (e : Int) : JsonReader JsonNumber :=
  match scaled? significand e with
  | some x => pure (signed positive x)
  | none => fail .numberOutOfRange

/-- Number of digits after which an exponent leaves 32 bits. -/
def exponentLimit? (n : Nat) : List Nat → Option Nat
  | [] => none
  | d :: ds => if twoTo 31 ≤ 10 * n + d then some 1 else (exponentLimit? (10 * n + d) ds).map (· + 1)

/-- Reads from the exponent mark on. -/
def exponent (positive : Bool) (significand : Nat) (e : Int) : JsonReader JsonNumber := do
  skip
  let up ← match ← peek with
    | some 0x2b => skip; pure true
    | some 0x2d => skip; pure false
    | _ => pure true
  match ← peek with
  | none => fail .endInValue
  | some b =>
    if !isDigit b then
      skip
      fail .invalidNumber
    else
      let start ← get
      let ds ← digits
      match exponentLimit? 0 ds with
      | some k =>
        if significand ≠ 0 ∧ up then
          set (start.advanceBy k)
          fail .numberOutOfRange
        else return signed positive (.zero false)
      | none =>
        let n : Nat := ds.foldl (fun n d => 10 * n + d) 0
        finish positive significand (if up then e + n else e - n)

/-- Reads from the point on. -/
def fraction (positive : Bool) (significand : Nat) (e : Int) : JsonReader JsonNumber := do
  skip
  let ds ← digits
  if ds.isEmpty then
    match ← peek with
    | some _ => failAhead .invalidNumber
    | none => failAhead .endInValue
  else
    let (n, k) := absorb significand ds
    match ← peek with
    | some 0x65 | some 0x45 => exponent positive n (e - k)
    | _ => finish positive n (e - k)

/-- An integer text's number: within 64 bits an integer, otherwise a double; so is minus zero. -/
def ofInteger (positive : Bool) (n : Nat) : JsonNumber :=
  if positive then .integer n
  else if 0 < n ∧ n ≤ twoTo 63 then .integer (-n)
  else .double (Binary.ofInt n).neg

/-- Reads a number whose sign has been read. -/
def number (positive : Bool) : JsonReader JsonNumber := do
  match ← peek with
  | none => fail .endInValue
  | some b =>
    if !isDigit b then
      skip
      fail .invalidNumber
    else if b = 0x30 then
      skip
      match ← peek with
      | some c =>
        if isDigit c then failAhead .invalidNumber
        else if c = 0x2e then fraction positive 0 0
        else if c = 0x65 ∨ c = 0x45 then exponent positive 0 0
        else return ofInteger positive 0
      | none => return ofInteger positive 0
    else
      let ds ← digits
      let (n, k) := absorb 0 ds
      let dropped : Int := ds.length - k
      match ← peek with
      | some 0x2e => fraction positive n dropped
      | some 0x65 | some 0x45 => exponent positive n dropped
      | _ => if dropped = 0 then return ofInteger positive n else finish positive n dropped

/-! ## Strings -/

def hexValue? (b : UInt8) : Option Nat :=
  if 0x30 ≤ b ∧ b ≤ 0x39 then some (b.toNat - 0x30)
  else if 0x61 ≤ b ∧ b ≤ 0x66 then some (b.toNat - 0x61 + 10)
  else if 0x41 ≤ b ∧ b ≤ 0x46 then some (b.toNat - 0x41 + 10)
  else none

/-- Reads four hexadecimal digits. -/
def hexEscape : JsonReader Nat := do
  let c ← get
  match c.rest with
  | a :: b :: d :: e :: _ =>
    set (c.advanceBy 4)
    match hexValue? a, hexValue? b, hexValue? d, hexValue? e with
    | some a, some b, some d, some e => return ((a * 16 + b) * 16 + d) * 16 + e
    | _, _, _, _ => fail .invalidEscape
  | _ =>
    set (c.advanceBy c.rest.length)
    fail .endInString

/-- Reads the octet that the second half of a surrogate pair needs. -/
def expectInPair (b : UInt8) : JsonReader Unit := do
  match ← peek with
  | none => fail .endInString
  | some a =>
    skip
    if a = b then pure () else fail .unfinishedSurrogate

/-- Reads the rest of a `\u` escape. -/
def unicodeEscape : JsonReader Char := do
  let n ← hexEscape
  if 0xdc00 ≤ n ∧ n ≤ 0xdfff then fail .loneSurrogate
  else if 0xd800 ≤ n ∧ n ≤ 0xdbff then
    expectInPair 0x5c
    expectInPair 0x75
    let m ← hexEscape
    if m < 0xdc00 ∨ 0xdfff < m then fail .loneSurrogate
    else return Char.ofNat ((n - 0xd800) * 1024 + (m - 0xdc00) + 0x10000)
  else return Char.ofNat n

/-- Reads an escape after its backslash. -/
def escape : JsonReader Char := do
  match ← peek with
  | none => fail .endInString
  | some b =>
    skip
    if b = 0x22 then return '"'
    else if b = 0x5c then return '\\'
    else if b = 0x2f then return '/'
    else if b = 0x62 then return Char.ofNat 8
    else if b = 0x66 then return Char.ofNat 12
    else if b = 0x6e then return '\n'
    else if b = 0x72 then return '\r'
    else if b = 0x74 then return '\t'
    else if b = 0x75 then unicodeEscape
    else fail .invalidEscape

/-- Reads up to the closing quote; gives the octets of the text, last first. -/
def stringOctets : (fuel : Nat) → (read : Octets) → JsonReader Octets
  | 0, _ => fail .endInString
  | fuel + 1, read => do
    match ← peek with
    | none => fail .endInString
    | some b =>
      skip
      if b = 0x22 then return read
      else if b = 0x5c then
        let c ← escape
        stringOctets fuel ((encodeUtf8 c.toString).reverse ++ read)
      else if b < 0x20 then fail .controlCharacter
      else stringOctets fuel (b :: read)

/-- Reads a string after its opening quote. Octets that are no UTF-8 are noticed at the closing quote
and reported as many columns before its end as the text has octets from the malformed part on. -/
def string : JsonReader String := do
  let bytes := (← stringOctets ((← get).rest.length + 1) []).reverse
  match textOfUtf8? bytes with
  | some s => return s
  | none => failBehind (bytes.length - wellFormedSize bytes) .invalidCodePoint

/-! ## Values -/

/-- Whether another item follows; steps over the comma before it. -/
def anotherItem (first : Bool) : JsonReader Bool := do
  match ← peekToken with
  | none => failAhead .endInList
  | some 0x5d => return false
  | some b =>
    if first then return true
    else if b = 0x2c then
      skip
      match ← peekToken with
      | some 0x5d => failAhead .trailingComma
      | some _ => return true
      | none => failAhead .endInValue
    else failAhead .expectedCommaOrBracket

/-- Whether another member follows; steps over the comma before its name. -/
def anotherMember (first : Bool) : JsonReader Bool := do
  match ← peekToken with
  | none => failAhead .endInObject
  | some 0x7d => return false
  | some b =>
    if first then
      if b = 0x22 then return true else failAhead .keyNotString
    else if b = 0x2c then
      skip
      match ← peekToken with
      | some 0x22 => return true
      | some 0x7d => failAhead .trailingComma
      | some _ => failAhead .keyNotString
      | none => failAhead .endInValue
    else failAhead .expectedCommaOrBrace

def colon : JsonReader Unit := do
  match ← peekToken with
  | some 0x3a => skip
  | some _ => failAhead .expectedColon
  | none => failAhead .endInObject

mutual

/-- Reads a value that may nest `depth` levels less one. Members stay as the text has them. -/
def written : (fuel depth : Nat) → JsonReader Json
  | 0, _ => fail .expectedValue
  | fuel + 1, depth => do
    match ← peekToken with
    | none => failAhead .endInValue
    | some 0x6e => skip; word [0x75, 0x6c, 0x6c]; return .null
    | some 0x74 => skip; word [0x72, 0x75, 0x65]; return .bool true
    | some 0x66 => skip; word [0x61, 0x6c, 0x73, 0x65]; return .bool false
    | some 0x2d => skip; return .number (← number false)
    | some 0x22 => skip; return .string (← string)
    | some 0x5b =>
      if depth ≤ 1 then failAhead .tooDeep
      else
        skip
        let items ← items fuel (depth - 1) []
        skip
        return .array items
    | some 0x7b =>
      if depth ≤ 1 then failAhead .tooDeep
      else
        skip
        let members ← members fuel (depth - 1) []
        skip
        return .object members
    | some b => if isDigit b then return .number (← number true) else failAhead .expectedValue

def items : (fuel depth : Nat) → List Json → JsonReader (List Json)
  | 0, _, _ => fail .endInList
  | fuel + 1, depth, read => do
    if ← anotherItem read.isEmpty then
      let v ← written fuel depth
      items fuel depth (v :: read)
    else return read.reverse

def members : (fuel depth : Nat) → List (String × Json) → JsonReader (List (String × Json))
  | 0, _, _ => fail .endInObject
  | fuel + 1, depth, read => do
    if ← anotherMember read.isEmpty then
      skip
      let name ← string
      colon
      let v ← written fuel depth
      members fuel depth ((name, v) :: read)
    else return read.reverse

end

/-- Reads a value that may nest `depth` levels less one. -/
def value (fuel depth : Nat) : JsonReader Json := Json.canonical <$> written fuel depth

/-- Steps of reading that a text can need. -/
def budget (c : Cursor) : Nat := 2 * c.rest.length + 4

/-- Only blanks may follow. -/
def atEnd : JsonReader Unit := do
  match ← peekToken with
  | none => pure ()
  | some _ => failAhead .trailingCharacters

/-- Reads a whole text. -/
def document {α : Type} (r : JsonReader α) : JsonReader α := do
  let a ← r
  atEnd
  return a

def run {α : Type} (r : JsonReader α) (bytes : Octets) : Except JsonError α :=
  match document r (Cursor.ofOctets bytes) with
  | .ok a _ => .ok a
  | .error e _ => .error e

end JsonReader

/-- The value that a whole text writes. -/
def Json.ofOctets (bytes : Octets) : Except JsonError Json :=
  JsonReader.run (JsonReader.value (2 * bytes.length + 4) JsonReader.maxDepth) bytes

end RequestBinding
