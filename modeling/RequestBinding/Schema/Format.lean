import RequestBinding.Pattern.Written
import RequestBinding.Uri.Basic

/-!
# Formats of texts

The named formats that schemas can ask of a text. A format without a rule here is not asserted.
-/

namespace RequestBinding

inductive TextFormat where
  | date
  | dateTime
  | time
  | email
  | hostname
  | ipv4
  | ipv6
  | uri
  | regex
deriving DecidableEq, Repr

namespace TextFormat

def name : TextFormat → String
  | date => "date"
  | dateTime => "date-time"
  | time => "time"
  | email => "email"
  | hostname => "hostname"
  | ipv4 => "ipv4"
  | ipv6 => "ipv6"
  | uri => "uri"
  | regex => "regex"

def all : List TextFormat := [date, dateTime, time, email, hostname, ipv4, ipv6, uri, regex]

def ofName? (name : String) : Option TextFormat := all.find? (·.name = name)

/-! ## Dates and times -/

/-- The number that a character stands for in a date: the low half of a code from `0x2a` to `0x39`, which
is the value of each digit. -/
def dateDigit? (c : Char) : Option Nat :=
  if 0x2a ≤ c.toNat ∧ c.toNat ≤ 0x39 then some (c.toNat % 16) else none

/-- The number of exactly `n` digits. -/
def fixedDigits? (n : Nat) (cs : List Char) : Option (Nat × List Char) :=
  let ds := cs.take n
  if ds.length = n then
    (ds.foldlM (fun m c => (dateDigit? c).map (10 * m + ·)) 0).map fun m => (m, cs.drop n)
  else none

/-- A character that has to come next. -/
def expect? (c : Char) : List Char → Option (List Char)
  | d :: rest => if d = c then some rest else none
  | [] => none

def isLeapYear (y : Nat) : Bool := y % 4 = 0 && (y % 100 ≠ 0 || y % 400 = 0)

def daysOfMonth (y m : Nat) : Nat :=
  if m = 2 then if isLeapYear y then 29 else 28
  else if m ∈ [4, 6, 9, 11] then 30 else 31

/-- Year, month and day. -/
def date? (cs : List Char) : Option (List Char) := do
  let (y, cs) ← fixedDigits? 4 cs
  let cs ← expect? '-' cs
  let (m, cs) ← fixedDigits? 2 cs
  let cs ← expect? '-' cs
  let (d, cs) ← fixedDigits? 2 cs
  if 1 ≤ m ∧ m ≤ 12 ∧ 1 ≤ d ∧ d ≤ daysOfMonth y m then some cs else none

/-- The digits after a point, if there is one. -/
def fraction? : List Char → Option (List Char)
  | '.' :: cs => if (cs.takeWhile Char.isDigit).isEmpty then none else some (cs.dropWhile Char.isDigit)
  | cs => some cs

/-- The minutes by which a local time is ahead of universal time. -/
def offset? : List Char → Option (Int × List Char)
  | 'Z' :: cs | 'z' :: cs => some (0, cs)
  | sign :: cs => do
    let (h, cs) ← fixedDigits? 2 cs
    let cs ← expect? ':' cs
    let (m, cs) ← fixedDigits? 2 cs
    if h ≤ 23 ∧ m ≤ 59 then
      let minutes : Int := h * 60 + m
      if sign = '+' then some (minutes, cs) else if sign = '-' then some (-minutes, cs) else none
    else none
  | [] => none

/-- Hours, minutes, seconds and offset. A sixtieth second ends a day of universal time only. -/
def time? (cs : List Char) : Option (List Char) := do
  let (h, cs) ← fixedDigits? 2 cs
  let cs ← expect? ':' cs
  let (m, cs) ← fixedDigits? 2 cs
  let cs ← expect? ':' cs
  let (s, cs) ← fixedDigits? 2 cs
  let cs ← fraction? cs
  let (offset, cs) ← offset? cs
  let universal := ((h * 60 + m : Nat) - offset) % 1440
  if h ≤ 23 ∧ m ≤ 59 ∧ (s ≤ 59 ∨ (s = 60 ∧ universal = 1439)) then some cs else none

def dateTime? (cs : List Char) : Option (List Char) := do
  match ← date? cs with
  | 'T' :: cs | 't' :: cs => time? cs
  | _ => none

/-! ## Addresses -/

def isMailboxChar (c : Char) : Bool :=
  isAlphanumeric c || "!#$%&'*+-/=?^_`\x7b|\x7d~".toList.contains c

/-- The inside of a quoted mailbox name: ASCII marks, letters and blanks; a backslash stands before a
mark or a letter. -/
def isQuotedMailbox : List Char → Bool
  | [] => true
  | '\\' :: c :: rest => 0x21 ≤ c.toNat && c.toNat ≤ 0x7e && isQuotedMailbox rest
  | c :: rest =>
    c ≠ '"' && c ≠ '\\' && ((0x20 ≤ c.toNat && c.toNat ≤ 0x7e) || c = '\t') && isQuotedMailbox rest

/-- The name before the `@`: pieces between dots, or one quoted piece that is not empty; at most 64
octets. -/
def isMailbox (text : String) : Bool :=
  text.utf8ByteSize ≤ 64 &&
    match text.toList, text.toList.getLast? with
    | '"' :: rest, some '"' => 1 < rest.length && isQuotedMailbox rest.dropLast
    | _, _ => (splitAt '.' text).all fun piece => !piece.isEmpty && piece.toList.all isMailboxChar

/-- The part after the `@`: a host name, or an address between brackets. -/
def isMailDomain (text : String) : Bool :=
  match text.toList with
  | '[' :: rest =>
    rest.getLast? = some ']' &&
      let inner := String.ofList rest.dropLast
      match stripStart? "IPv6:" inner with
      | some address => Host.isIpv6 address
      | none => Host.isIpv4 inner
  | _ => Host.isName text

/-- The texts before and after the last place where a blank stands before an angle bracket. -/
def cutAtBracket? (text : String) : Option (String × String) :=
  let rec go : (after : List Char) → List Char → Option (String × String)
    | _, [] => none
    | after, '<' :: ' ' :: before => some (String.ofList before.reverse, String.ofList after)
    | after, c :: before => go (c :: after) before
  go [] text.toList.reverse

/-- The address in a text: the whole text, or what stands in angle brackets after a name. -/
def mailAddress? (text : String) : Option String :=
  match cutAtBracket? text with
  | none => some text
  | some (_, bracketed) =>
    match (trimBlanks bracketed).toList.reverse with
    | '>' :: inner => some (String.ofList inner.reverse)
    | _ => none

/-- A mailbox and a domain around the last `@`. -/
def isAddress (text : String) : Bool :=
  let backwards := text.toList.reverse
  match backwards.dropWhile (· ≠ '@') with
  | [] => false
  | _ :: mailbox =>
    isMailbox (String.ofList mailbox.reverse) &&
      isMailDomain (String.ofList (backwards.takeWhile (· ≠ '@')).reverse)

def isEmail (text : String) : Bool := (mailAddress? text).any isAddress

/-- Whether a text has a format. -/
def accepts (f : TextFormat) (text : String) : Bool :=
  match f with
  | date => date? text.toList = some []
  | dateTime => dateTime? text.toList = some []
  | time => time? text.toList = some []
  | email => isEmail text
  | hostname => Host.isName text
  | ipv4 => Host.isIpv4 text
  | ipv6 => Host.isIpv6 text
  | uri => UriReference.isUri text
  | regex => Pattern.isExpression text

end TextFormat
end RequestBinding
