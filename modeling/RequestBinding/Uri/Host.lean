import RequestBinding.Decimal.Integer
import RequestBinding.Text.Split

/-!
# Hosts

Host names and numeric addresses.
-/

namespace RequestBinding
namespace Host

/-- Part of a host name: letters, digits and inner hyphens. -/
def isLabel (label : String) : Bool :=
  let cs := label.toList
  !cs.isEmpty && cs.length ≤ 63 && cs.all (fun c => c.isAlphanum || c = '-') &&
    cs.head? ≠ some '-' && cs.getLast? ≠ some '-'

/-- Labels between dots, at most 253 characters. -/
def isName (text : String) : Bool := text.length ≤ 253 && (splitAt '.' text).all isLabel

def isIpv4Part (part : String) : Bool :=
  let cs := part.toList
  !cs.isEmpty && cs.length ≤ 3 && cs.all Char.isDigit && natOfDigits cs ≤ 255 &&
    (cs.length = 1 || cs.head? ≠ some '0')

/-- Four numbers between dots. -/
def isIpv4 (text : String) : Bool :=
  let parts := splitAt '.' text
  parts.length = 4 && parts.all isIpv4Part

def isIpv6Group (group : String) : Bool :=
  let cs := group.toList
  !cs.isEmpty && cs.length ≤ 4 && cs.all fun c => (digitOf? 16 c).isSome

/-- Number of groups in a run between colons; an address of version four may end the last run. -/
def ipv6Groups? (last : Bool) (run : String) : Option Nat :=
  if run.isEmpty then some 0
  else
    let groups := splitAt ':' run
    let body := groups.dropLast
    let final := groups.getLast?.getD ""
    if !body.all isIpv6Group then none
    else if isIpv6Group final then some groups.length
    else if last ∧ isIpv4 final then some (groups.length + 1)
    else none

/-- The texts before and after the first double colon. -/
def cutAtDoubleColon? : (read : List Char) → List Char → Option (String × String)
  | _, [] => none
  | read, ':' :: ':' :: rest => some (String.ofList read.reverse, String.ofList rest)
  | read, c :: rest => cutAtDoubleColon? (c :: read) rest

/-- Eight groups, or fewer with one double colon for the rest. -/
def isIpv6 (text : String) : Bool :=
  match cutAtDoubleColon? [] text.toList with
  | none => ipv6Groups? true text = some 8
  | some (before, after) =>
    match ipv6Groups? false before, ipv6Groups? true after with
    | some m, some n => m + n ≤ 7
    | _, _ => false

end Host
end RequestBinding
