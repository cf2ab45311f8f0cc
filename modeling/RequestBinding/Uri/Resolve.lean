import RequestBinding.Request.Form
import RequestBinding.Uri.Basic

/-!
# Resolving references

A reference is resolved against a base; the result is brought to a normal form, so that equal
resources have equal texts.
-/

namespace RequestBinding
namespace UriReference

/-- The segments of a path without those that stand for the place itself or for the one above. A final
one of these leaves an empty segment. -/
def withoutDots : (kept : List String) → List String → List String
  | kept, [] => kept.reverse
  | kept, "." :: rest => withoutDots (if rest.isEmpty then "" :: kept else kept) rest
  | kept, ".." :: rest =>
    let above := kept.drop 1
    withoutDots (if rest.isEmpty then "" :: above else above) rest
  | kept, s :: rest => withoutDots (s :: kept) rest

/-- A path from the root without dot segments; other paths stay. -/
def removeDots (path : String) : String :=
  match splitAt '/' path with
  | "" :: first :: rest => "/" ++ "/".intercalate (withoutDots [] (first :: rest))
  | _ => path

/-- A relative path in the place of what stands after the last slash of the base. -/
def mergedPath (base : UriReference) (path : String) : String :=
  if base.authority.isSome ∧ base.path.isEmpty then "/" ++ path
  else
    let upTo := base.path.toList.reverse.dropWhile (· ≠ '/')
    String.ofList upTo.reverse ++ path

/-- The target of a reference that stands at a base. -/
def against (u base : UriReference) : UriReference :=
  if u.scheme.isSome then { u with path := removeDots u.path }
  else if u.authority.isSome then { u with scheme := base.scheme, path := removeDots u.path }
  else
    let place := { u with scheme := base.scheme, authority := base.authority }
    if u.path.isEmpty then { place with path := base.path, query := u.query.or base.query }
    else if u.path.startsWith "/" then { place with path := removeDots u.path }
    else { place with path := removeDots (mergedPath base u.path) }

/-! ## Normal form -/

/-- Percent-encoded octets in upper case, and those of unreserved characters decoded. -/
def normalEscapes : List Char → List Char
  | '%' :: a :: b :: rest =>
    let code := (digitOf? 16 a).getD 0 * 16 + (digitOf? 16 b).getD 0
    let c := Char.ofNat code
    if isUnreserved c then c :: normalEscapes rest
    else '%' :: a.toUpper :: b.toUpper :: normalEscapes rest
  | c :: rest => c :: normalEscapes rest
  | [] => []

def normalText (s : String) : String := String.ofList (normalEscapes s.toList)

/-- The host in lower case; a number that is missing after its colon is left out. -/
def normalAuthority (s : String) : String :=
  let cs := normalEscapes s.toList
  let user := match cs.dropWhile (· ≠ '@') with
    | _ :: _ => cs.takeWhile (· ≠ '@') ++ ['@']
    | [] => []
  let host := (cs.drop user.length).map Char.toLower
  let host := if host.getLast? = some ':' then host.dropLast else host
  String.ofList (user ++ host)

/-- The normal form of a reference. -/
def normal (u : UriReference) : UriReference where
  scheme := u.scheme.map fun s => String.ofList (s.toList.map Char.toLower)
  authority := u.authority.map normalAuthority
  path := if u.scheme.isSome then removeDots (normalText u.path) else normalText u.path
  query := u.query.map normalText
  fragment := u.fragment.map normalText

/-- The normal form of what a text refers to at a base. -/
def resolve (base : UriReference) (text : String) : Except UriFault UriReference :=
  (parse text).map fun u => (u.against base).normal

/-- The resource that a reference is part of. -/
def withoutFragment (u : UriReference) : UriReference := { u with fragment := none }

end UriReference
end RequestBinding
