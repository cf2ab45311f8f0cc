import RequestBinding.Uri.Host

/-!
# References

A reference is a URI, or what stands for one relative to another. `UriReference.parse` reads a whole
text and says where it stops being a reference; `UriReference.text` writes one.
-/

namespace RequestBinding

inductive UriFault where
  | unexpectedCharacter (index : Nat)
  | invalidOctet (index : Nat)
deriving DecidableEq, Repr

def UriFault.text : UriFault → String
  | unexpectedCharacter index => s!"unexpected character at index {index}"
  | invalidOctet index => s!"invalid percent-encoded octet at index {index}"

structure UriReference where
  scheme : Option String := none
  authority : Option String := none
  path : String := ""
  query : Option String := none
  fragment : Option String := none
deriving DecidableEq, Repr

namespace UriReference

/-- The text of a reference. -/
def text (u : UriReference) : String :=
  u.scheme.elim "" (· ++ ":") ++ u.authority.elim "" ("//" ++ ·) ++ u.path ++
    u.query.elim "" ("?" ++ ·) ++ u.fragment.elim "" ("#" ++ ·)

/-! ## Characters -/

def isUnreserved (c : Char) : Bool := c.isAlphanum || "-._~".toList.contains c

def isSubDelimiter (c : Char) : Bool := "!$&'()*+,;=".toList.contains c

def isSchemeChar (c : Char) : Bool := c.isAlphanum || "+-.".toList.contains c

/-- The characters of a path's first segment if no scheme stands before it. -/
def isPlainChar (c : Char) : Bool := isUnreserved c || isSubDelimiter c || c = '@'

def isPathChar (c : Char) : Bool := isPlainChar c || c = ':' || c = '/'

/-- The characters of queries and fragments. -/
def isQueryChar (c : Char) : Bool := isPathChar c || c = '?'

def isUserChar (c : Char) : Bool := isUnreserved c || isSubDelimiter c || c = ':'

def isHostChar (c : Char) : Bool := isUnreserved c || isSubDelimiter c

/-! ## Reading -/

/-- A place in a text: the octets before it and the characters after it. -/
structure Place where
  index : Nat
  rest : List Char

/-- Reads characters of a kind and percent-encoded octets. -/
def scan (allowed : Char → Bool) (index : Nat) :
    List Char → Except UriFault (List Char × Place)
  | [] => .ok ([], ⟨index, []⟩)
  | '%' :: a :: b :: rest =>
    if (digitOf? 16 a).isSome ∧ (digitOf? 16 b).isSome then
      (scan allowed (index + 3) rest).map fun (read, place) => ('%' :: a :: b :: read, place)
    else .error (.invalidOctet index)
  | c :: rest =>
    if c = '%' then .error (.invalidOctet index)
    else if allowed c then
      (scan allowed (index + c.utf8Size) rest).map fun (read, place) => (c :: read, place)
    else .ok ([], ⟨index, c :: rest⟩)

/-- Reads query and fragment, which end a reference. -/
def parseTail (u : UriReference) (p : Place) : Except UriFault UriReference := do
  let (query, p) ← match p.rest with
    | '?' :: rest => (scan isQueryChar (p.index + 1) rest).map fun (q, p) => (some (String.ofList q), p)
    | _ => pure (none, p)
  let (fragment, p) ← match p.rest with
    | '#' :: rest => (scan isQueryChar (p.index + 1) rest).map fun (f, p) => (some (String.ofList f), p)
    | _ => pure (none, p)
  if p.rest.isEmpty then return { u with query, fragment }
  else throw (.unexpectedCharacter p.index)

/-- Reads from the path on. -/
def parsePath (u : UriReference) (p : Place) : Except UriFault UriReference := do
  let (path, p) ← scan isPathChar p.index p.rest
  parseTail { u with path := String.ofList path } p

/-- Whether a text in brackets is an address: one of version six, or of a later version. -/
def isAddress (inner : List Char) : Bool :=
  Host.isIpv6 (String.ofList inner) ||
    ((inner.head? = some 'v' || inner.head? = some 'V') &&
      let version := (inner.drop 1).takeWhile (· ≠ '.')
      let address := (inner.drop 1).dropWhile (· ≠ '.')
      !version.isEmpty && version.all (fun c => (digitOf? 16 c).isSome) && 1 < address.length &&
        (address.drop 1).all isUserChar)

/-- Reads a number after a colon, if there is one. -/
def scanPortNumber (p : Place) : List Char × Place :=
  match p.rest with
  | ':' :: rest =>
    let digits := rest.takeWhile Char.isDigit
    (':' :: digits, ⟨p.index + 1 + digits.length, rest.drop digits.length⟩)
  | _ => ([], p)

/-- Reads an address in brackets or a host's name, and the number after it. -/
def scanHost (p : Place) : Except UriFault (List Char × Place) := do
  let (host, after) ← match p.rest with
    | '[' :: rest =>
      let inner := rest.takeWhile (· ≠ ']')
      if inner.length < rest.length ∧ isAddress inner then
        let size := inner.length + 2
        pure ('[' :: inner ++ [']'], Place.mk (p.index + size) (rest.drop (inner.length + 1)))
      else throw (.unexpectedCharacter p.index)
    | rest => scan isHostChar p.index rest
  let (number, after) := scanPortNumber after
  return (host ++ number, after)

/-- Reads from the authority on: a user with an `@`, a host and a number. A path after it starts with a
slash. -/
def parseAuthority (u : UriReference) (p : Place) : Except UriFault UriReference := do
  let (user, afterUser) ← scan isUserChar p.index p.rest
  let (user, start) := match afterUser.rest with
    | '@' :: rest => (user ++ ['@'], Place.mk (afterUser.index + 1) rest)
    | _ => ([], p)
  let (host, after) ← scanHost start
  let u := { u with authority := some (String.ofList (user ++ host)) }
  match after.rest with
  | [] | '/' :: _ | '?' :: _ | '#' :: _ => parsePath u after
  | _ => throw (.unexpectedCharacter after.index)

/-- Reads the hierarchical part after a scheme, or after nothing. -/
def parseHierarchy (u : UriReference) (p : Place) : Except UriFault UriReference :=
  match p.rest with
  | '/' :: '/' :: rest => parseAuthority u ⟨p.index + 2, rest⟩
  | _ => parsePath u p

/-- The reference that a whole text writes. Without a scheme, no colon stands in the first segment. -/
def parse (text : String) : Except UriFault UriReference := do
  let cs := text.toList
  let name := cs.takeWhile isSchemeChar
  match cs.drop name.length with
  | ':' :: rest =>
    if (name.head?).any Char.isAlpha then
      parseHierarchy { scheme := some (String.ofList name) } ⟨name.length + 1, rest⟩
    else throw (.unexpectedCharacter 0)
  | _ =>
    if cs.take 2 = ['/', '/'] then parseHierarchy {} ⟨0, cs⟩
    else
      let (segment, p) ← scan isPlainChar 0 cs
      match p.rest with
      | ':' :: _ => throw (.unexpectedCharacter p.index)
      | rest =>
        let (path, p) ← scan isPathChar p.index rest
        parseTail { path := String.ofList (segment ++ path) } p

/-- Whether a text is a URI with a scheme. -/
def isUri (text : String) : Bool := (parse text).toOption.any (·.scheme.isSome)

end UriReference
end RequestBinding
