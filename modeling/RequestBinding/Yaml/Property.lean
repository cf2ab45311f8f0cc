import RequestBinding.Text.Utf8
import RequestBinding.Decimal.Integer
import RequestBinding.Yaml.Lexer

/-!
# Anchors, tags and directives

The tokens that say something about a node or a document, and hold no content.
-/

namespace RequestBinding
namespace Yaml
namespace Lex

/-! ## Anchors and aliases -/

/-- The name after `&` or `*`. -/
def anchorName : Lex String := do
  skip
  let name ← takeWhile isNameChar
  let c ← at? 0
  if name.isEmpty ∨ !(blankOrEnd c || c.any "?:,]\x7d%@\x60".toList.contains) then failed
  return String.ofList name

/-! ## Tags -/

/-- The characters of a tag; a tag that stands between delimiters may hold flow indicators too. -/
def isTagChar (delimited : Bool) (c : Char) : Bool :=
  isNameChar c || ";/?:@&=+$.%!~*'()".toList.contains c || delimited && ",[]".toList.contains c

/-- The octets that tag characters denote, where `%` and two digits stand for an octet. -/
def tagOctets? : List Char → Option Octets
  | [] => some []
  | '%' :: a :: b :: rest => do
    let high ← digitOf? 16 a
    let low ← digitOf? 16 b
    return UInt8.ofNat (16 * high + low) :: (← tagOctets? rest)
  | c :: rest => if c = '%' then none else do
    return UInt8.ofNat c.toNat :: (← tagOctets? rest)

/-- The tag characters that come next, decoded. -/
def tagText (delimited : Bool) : Lex String := do
  let cs ← takeWhile (isTagChar delimited)
  let some octets := tagOctets? cs | failed
  let some text := textOfUtf8? octets | failed
  return text

/-- A handle: `!`, `!!`, or a name between two marks; or the start of a tag that has none, where the second
mark is missing. -/
def tagHandle : Lex String := do
  skip
  let name ← takeWhile isNameChar
  if (← at? 0) = some '!' then
    skip
    return String.ofList ('!' :: name ++ ['!'])
  else return String.ofList ('!' :: name)

/-- The handle and the rest of a tag. The tag `!` has no handle. -/
def tag : Lex Token := do
  let (handle, suffix) ← if (← at? 1) = some '<' then do
    skip
    skip
    let suffix ← tagText true
    if suffix = "" ∨ (← at? 0) ≠ some '>' then failed
    skip
    pure ("", suffix)
  else do
    let handle ← tagHandle
    if 1 < handle.length ∧ handle.endsWith "!" then
      let suffix ← tagText false
      if suffix = "" then failed
      pure (handle, suffix)
    else
      let suffix := String.ofList handle.toList.tail ++ (← tagText false)
      pure (if suffix = "" then ("", "!") else ("!", suffix))
  let c ← at? 0
  if !(blankOrEnd c || (← get).inFlow && c = some ',') then failed
  return .tag handle suffix

/-! ## Directives -/

/-- A part of a version, of at most nine digits. -/
def versionPart : Lex Nat := do
  let digits ← takeWhile Char.isDigit
  if digits.isEmpty ∨ 9 < digits.length then failed
  return natOfDigits digits

def versionDirective : Lex Token := do
  let major ← versionPart
  if (← at? 0) ≠ some '.' then failed
  skip
  return .versionDirective major (← versionPart)

def tagDirective : Lex Token := do
  if (← at? 0) ≠ some '!' then failed
  let handle ← tagHandle
  if handle ≠ "!" ∧ !(1 < handle.length ∧ handle.endsWith "!") then failed
  if !(← at? 0).any isSpaceOrTab then failed
  skipWhile isSpaceOrTab
  let uri ← tagText true
  if uri = "" ∨ !blankOrEnd (← at? 0) then failed
  return .tagDirective handle uri

def directive : Lex Token := do
  skip
  let name ← takeWhile isNameChar
  if name.isEmpty ∨ !blankOrEnd (← at? 0) then failed
  skipWhile isSpaceOrTab
  let t ← match String.ofList name with
    | "YAML" => versionDirective
    | "TAG" => tagDirective
    | _ => failed
  skipLineEnd
  return t

end Lex
end Yaml
end RequestBinding
