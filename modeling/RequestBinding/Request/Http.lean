import RequestBinding.Text.Utf8

/-!
# HTTP names and targets

Which texts are methods, header names, header values and request URIs.
-/

namespace RequestBinding

inductive HttpFault where
  | invalidMethod
  | invalidHeaderName
  | invalidHeaderValue
  | invalidStatus
  | invalidUriCharacter
  | invalidUriFormat
  | invalidAuthority
  | schemeTooLong
  | uriTooLong
  | emptyUri
deriving DecidableEq, Repr

def HttpFault.text : HttpFault → String
  | invalidMethod => "invalid HTTP method"
  | invalidHeaderName => "invalid HTTP header name"
  | invalidHeaderValue => "failed to parse header value"
  | invalidStatus => "invalid status code"
  | invalidUriCharacter => "invalid uri character"
  | invalidUriFormat => "invalid format"
  | invalidAuthority => "invalid authority"
  | schemeTooLong => "scheme too long"
  | uriTooLong => "uri too long"
  | emptyUri => "empty string"

namespace Http

/-- The characters of tokens: ASCII letters, digits and some marks. -/
def isTokenChar (c : Char) : Bool :=
  c.isAlphanum || "!#$%&'*+-.^_`|~".toList.contains c

/-- Whether a text is a token; methods and header names are. -/
def isToken (text : String) : Bool := !text.isEmpty && text.toList.all isTokenChar

/-- Whether octets can be a header value: no controls but the tab. -/
def isHeaderValue (bytes : Octets) : Bool := bytes.all fun b => (0x20 ≤ b && b ≠ 0x7f) || b = 0x09

def isStatus (n : Nat) : Bool := 100 ≤ n && n ≤ 999

/-- A text with its ASCII letters in lower case. -/
def lowercase (text : String) : String := String.ofList (text.toList.map Char.toLower)

/-- A text with its ASCII letters in upper case. -/
def uppercase (text : String) : String := String.ofList (text.toList.map Char.toUpper)

/-- Whether two names differ in the case of ASCII letters at most. -/
def sameName (a b : String) : Bool := lowercase a = lowercase b

theorem sameName_iff {a b : String} : sameName a b = true ↔ lowercase a = lowercase b :=
  decide_eq_true_iff

/-- Brings the values of one name together, at the place of the first of them. -/
def groupByName {α : Type} (headers : List (String × α)) : List (String × α) :=
  (headers.map Prod.fst).eraseDups.flatMap fun name => headers.filter (·.1 = name)

/-! ## Request URIs -/

private def isLetter (b : UInt8) : Bool := (0x41 ≤ b && b ≤ 0x5a) || (0x61 ≤ b && b ≤ 0x7a)

private def isNumeral (b : UInt8) : Bool := 0x30 ≤ b && b ≤ 0x39

/-- The octets of a scheme. -/
def isSchemeOctet (b : UInt8) : Bool :=
  isLetter b || isNumeral b || b = 0x2b || b = 0x2d || b = 0x2e || b = 0x7e

/-- Length of the scheme before `://`, if there is one. -/
def schemeLength? (uri : Octets) : Option Nat :=
  let n := (uri.takeWhile isSchemeOctet).length
  if 3 < uri.length ∧ (uri.drop n).take 3 = [0x3a, 0x2f, 0x2f] then some n else none

/-- The octets of an authority other than those with a role in it. -/
def isAuthorityOctet (b : UInt8) : Bool :=
  isLetter b || isNumeral b || "!$&'()*+,-.;=_~".toUTF8.toList.contains b

structure AuthorityScan where
  colons : Nat := 0
  opened : Bool := false
  closed : Bool := false
  percent : Bool := false
  /-- Whether the last octet was an `@`. -/
  atEnd : Bool := false

/-- Reads an authority up to the path; gives the number of its octets. -/
def scanAuthority (s : AuthorityScan) (count : Nat) : Octets → Except HttpFault (AuthorityScan × Nat)
  | [] => .ok (s, count)
  | b :: rest =>
    if b = 0x2f ∨ b = 0x3f ∨ b = 0x23 then .ok (s, count)
    else if b = 0x3a then
      if 8 ≤ s.colons then .error .invalidAuthority
      else scanAuthority { s with colons := s.colons + 1, atEnd := false } (count + 1) rest
    else if b = 0x5b then
      if s.percent || s.opened then .error .invalidAuthority
      else scanAuthority { s with opened := true, atEnd := false } (count + 1) rest
    else if b = 0x5d then
      if !s.opened || s.closed then .error .invalidAuthority
      else scanAuthority
        { s with closed := true, colons := 0, percent := false, atEnd := false } (count + 1) rest
    else if b = 0x40 then
      scanAuthority { s with colons := 0, percent := false, atEnd := true } (count + 1) rest
    else if b = 0x25 then
      scanAuthority { s with percent := true, atEnd := false } (count + 1) rest
    else if isAuthorityOctet b then
      scanAuthority { s with atEnd := false } (count + 1) rest
    else .error .invalidUriCharacter

/-- Number of octets of the authority that a non-empty text starts with. -/
def authorityLength (bytes : Octets) : Except HttpFault Nat :=
  if bytes.isEmpty then .error .emptyUri
  else do
    let (s, n) ← scanAuthority {} 0 bytes
    if s.opened != s.closed || 1 < s.colons || s.atEnd || s.percent then .error .invalidAuthority
    else .ok n

/-- The octets that a path may hold as they are. -/
def isPathOctet (b : UInt8) : Bool :=
  b = 0x21 || b = 0x22 || (0x24 ≤ b && b ≤ 0x3b) || b = 0x3d || (0x40 ≤ b && b ≤ 0x5f) ||
    (0x61 ≤ b && b ≠ 0x7f)

/-- The octets that a query may hold as they are. -/
def isQueryOctet (b : UInt8) : Bool :=
  b = 0x21 || (0x24 ≤ b && b ≤ 0x3b) || b = 0x3d || (0x3f ≤ b && b ≠ 0x7f)

/-- Path and query without the fragment; an empty one is the root. -/
def pathAndQuery (bytes : Octets) : Except HttpFault String :=
  let whole := bytes.takeWhile (· ≠ 0x23)
  let path := whole.takeWhile (· ≠ 0x3f)
  let query := (whole.dropWhile (· ≠ 0x3f)).drop 1
  if path.all isPathOctet && query.all isQueryOctet then
    match textOfUtf8? whole with
    | some text => .ok (if text.isEmpty then "/" else text)
    | none => .error .invalidUriCharacter
  else .error .invalidUriCharacter

/-- The request target of a URI. A bare authority has the root as its target. -/
def targetOfUri (uri : String) : Except HttpFault String :=
  let bytes := encodeUtf8 uri
  if 65534 < bytes.length then .error .uriTooLong
  else if bytes.isEmpty then .error .emptyUri
  else if bytes = [0x2a] then .ok "*"
  else if bytes.head? = some 0x2f then pathAndQuery bytes
  else if bytes.length = 1 then do
    let n ← authorityLength bytes
    if n = 1 then .ok "/" else .error .invalidUriCharacter
  else
    match schemeLength? bytes with
    | none => do
      let n ← authorityLength bytes
      if n = bytes.length then .ok "/" else .error .invalidUriFormat
    | some n =>
      if 64 < n then .error .schemeTooLong
      else do
        let rest := bytes.drop (n + 3)
        let m ← authorityLength rest
        if m = 0 then .error .invalidUriFormat else pathAndQuery (rest.drop m)

end Http
end RequestBinding
