import RequestBinding.Pattern.Text
import RequestBinding.Text.Split

/-!
# Escapes and classes

What stands after a backslash or between brackets in a pattern. A class lists characters, ranges,
named sets and further classes; two sides of a class can be intersected or subtracted.
-/

namespace RequestBinding

inductive PatternEscape where
  | char (c : Char)
  | set (s : CharSet)
  | anchor (a : Anchor)
deriving DecidableEq, Repr

namespace PatternReader

/-! ## Escapes -/

def charOfCode (code : Nat) : PatternReader Char :=
  if code.isValidChar then pure (Char.ofNat code) else malformed

/-- The code of hexadecimal digits; there has to be one. -/
def codeOf (digits : List Char) : PatternReader Char :=
  match digits, digits.foldlM (fun n c => (digitOf? 16 c).map (16 * n + ·)) 0 with
  | _ :: _, some code => charOfCode code
  | _, _ => malformed

/-- Reads `n` characters, and the gap after each of them. -/
def spacedRun : (n : Nat) → PatternReader (List Char)
  | 0 => return []
  | n + 1 => do
    let c ← expectAny
    takeAndGap
    return c :: (← spacedRun n)

/-- Reads up to a closing brace, without gaps. -/
def untilBrace : (fuel : Nat) → PatternReader (List Char)
  | 0 => malformed
  | fuel + 1 => do
    let c ← expectAny
    if c = '\x7d' then return []
    else
      takeAndGap
      return c :: (← untilBrace fuel)

/-- Reads a name in braces from the opening one on, but not the closing one. -/
def braced : PatternReader (List Char) := do
  takeAndGap
  untilBrace ((← get).rest.length + 1)

/-- Reads a code of `n` hexadecimal digits, or one in braces, after its letter. -/
def hexCode (n : Nat) : PatternReader Char := do
  if (← peek) = some '\x7b' then
    let c ← codeOf (← braced)
    takeAndGap
    return c
  else codeOf (← spacedRun n)

/-- The set of a property, given what stands in the braces: a name, or a name and a value with `:`, `=`
or `!=` between. -/
def propertySet? (text : List Char) : Option CharSet :=
  let s := String.ofList text
  match (cutAt? ':' s).or (cutAt? '=' s) with
  | none => CharSet.ofName? s
  | some (name, value) =>
    match name.toList.reverse with
    | '!' :: name => (CharSet.ofNameAndValue? (String.ofList name.reverse) value).map .complement
    | _ => CharSet.ofNameAndValue? name value

/-- Reads the name of a property after its letter. -/
def property (negated : Bool) : PatternReader CharSet := do
  skipGap
  let c ← expectAny
  let found ←
    if c = '\x7b' then
      let text ← braced
      take
      pure (propertySet? text)
    else if c = '\\' then malformed
    else
      takeAndGap
      pure (CharSet.ofName? c.toString)
  match found with
  | some s => return s.negatedIf negated
  | none =>
    modify ({ · with strangeName := true })
    return .empty

/-- A class letter spelled out. -/
def spelledOut? : Char → Option String
  | 'd' => some "[0-9]"
  | 'D' => some "[^0-9]"
  | 'w' => some "[A-Za-z0-9_]"
  | 'W' => some "[^A-Za-z0-9_]"
  | 's' => some ("[" ++ blanks ++ "]")
  | 'S' => some ("[^" ++ blanks ++ "]")
  | _ => none
where
  /-- The blanks that a class letter stands for, in the order in which they are written. -/
  blanks : String := String.ofList
    [' ', '\t', '\n', Char.ofNat 0xd, Char.ofNat 0xb, Char.ofNat 0xc, Char.ofNat 0xa0,
      Char.ofNat 0xfeff, Char.ofNat 0x2003, Char.ofNat 0x2029]

/-- The ASCII marks that can follow a backslash and then stand for themselves. -/
def isEscapable (c : Char) : Bool := c.toNat < 0x80 && !c.isAlphanum && c ≠ '<' && c ≠ '>'

/-- The edge of a word that has a name. -/
def namedEdge? : String → Option Anchor
  | "start" => some .wordStart
  | "end" => some .wordEnd
  | "start-half" => some .wordStartHalf
  | "end-half" => some .wordEndHalf
  | _ => none

/-- Reads the name of an edge in braces after `\b`. Braces that start otherwise belong to a
repetition. -/
def edgeName : PatternReader Anchor := do
  let t ← get
  if (← peek) ≠ some '\x7b' then return .wordEdge true
  takeAndGap
  let isNameChar (c : Char) := c.isAlpha || c = '-'
  if !isNameChar (← expectAny) then
    set t
    return .wordEdge true
  let name ← untilBrace (t.rest.length + 1)
  take
  match namedEdge? (String.ofList name) with
  | some a => return a
  | none => malformed

/-- Reads an escape from its backslash on. -/
def escape : PatternReader PatternEscape := do
  let left := (← get).rest.length
  take
  let c ← expectAny
  if c.isDigit then throw .backreference
  take
  let edge (a : Anchor) : PatternReader PatternEscape := do
    modify ({ · with edges := true })
    return .anchor a
  match spelledOut? c, CharSet.ofClassLetter? c with
  | some text, some s =>
    modify fun t => { t with spelled := text.toList.reverse ++ t.spelled.drop 2 }
    return .set s
  | _, _ =>
    if isEscapable c then return .char c
    else match c with
      | 'x' => skipGap; return .char (← hexCode 2)
      | 'u' => skipGap; return .char (← hexCode 4)
      | 'U' => skipGap; return .char (← hexCode 8)
      | 'p' => return .set (← property false)
      | 'P' => return .set (← property true)
      | 'a' =>
        modify ({ · with bell := true })
        return .char (Char.ofNat 7)
      | 'f' => return .char (Char.ofNat 0xc)
      | 'n' => return .char '\n'
      | 'r' => return .char (Char.ofNat 0xd)
      | 't' => return .char '\t'
      | 'v' => return .char (Char.ofNat 0xb)
      | 'A' => return .anchor .textStart
      | 'z' => return .anchor .textEnd
      | 'b' => edge (← edgeName)
      | 'B' => edge (.wordEdge false)
      | '<' => edge .wordStart
      | '>' => edge .wordEnd
      | _ => throw (.unknownEscape left)

/-! ## Classes -/

/-- How two sides of a class are joined. -/
inductive ClassJoin where
  | intersect
  | subtract
  | differ

def ClassJoin.apply : ClassJoin → CharSet → CharSet → CharSet
  | intersect, a, b => .intersection a b
  | subtract, a, b => .difference a b
  | differ, a, b => .symmetricDifference a b

/-- What was read of a class: its items, and the side before the last join. The numbers tell how deep
parts nest. -/
structure ClassParts where
  items : List (CharSet × Nat) := []
  side : Option (ClassJoin × CharSet × Nat) := none

namespace ClassParts

def add (p : ClassParts) (s : CharSet) (depth : Nat) : ClassParts :=
  { p with items := p.items ++ [(s, depth)] }

/-- The set of all parts. -/
def whole (p : ClassParts) : CharSet × Nat :=
  let depths := (p.items.map Prod.snd).foldl max 0
  let items := (CharSet.ofList (p.items.map Prod.fst),
    if 1 < p.items.length then depths + 1 else depths)
  match p.side with
  | none => items
  | some (join, s, depth) => (join.apply s items.1, max depth items.2 + 1)

/-- Makes what was read the side before a join. -/
def joined (p : ClassParts) (join : ClassJoin) : ClassParts := { side := some (join, p.whole) }

end ClassParts

/-- The characters of a set, in any case if the settings say so. -/
def cased (s : CharSet) : PatternReader CharSet := do
  return if (← get).settings.anyCase then .anyCase s else s

/-- One end of a range, or a set. -/
def classAtom (esc : PatternReader PatternEscape) : PatternReader PatternEscape := do
  let c ← expectAny
  if c = '\\' then
    match ← esc with
    | .anchor _ => malformed
    | e => return e
  else
    take
    return .char c

def atomSet : PatternEscape → CharSet
  | .char c => .single c
  | .set s => s
  | .anchor _ => .empty

/-- A character, a range or a set in a class. A hyphen before a bracket or another hyphen makes no
range. -/
def classItem (esc : PatternReader PatternEscape) : PatternReader CharSet := do
  let first ← classAtom esc
  skipGap
  let c ← expectAny
  let t ← get
  let next := (t.rest.drop (1 + if t.settings.spaced then gapLength (t.rest.drop 1) else 0)).head?
  if c ≠ '-' ∨ next = some ']' ∨ next = some '-' then return atomSet first
  takeAndGap
  match first, ← classAtom esc with
  | .char a, .char b => if b < a then malformed else return .range a b
  | _, _ => malformed

/-- Reads a named set between `[:` and `:]` if there is one. -/
def asciiClass : PatternReader (Option CharSet) := do
  let t ← get
  match t.rest with
  | '[' :: ':' :: rest =>
    let (negated, rest) := match rest with
      | '^' :: rest => (true, rest)
      | _ => (false, rest)
    let name := rest.takeWhile (· ≠ ':')
    match rest.drop name.length, CharSet.asciiClass? (String.ofList name) with
    | ':' :: ']' :: after, some s =>
      takeMany (t.rest.length - after.length)
      return some (s.negatedIf negated)
    | _, _ => return none
  | _ => return none

/-- Reads the opening bracket of a class, with what has a meaning only there: the negation, hyphens,
and a closing bracket that comes first. -/
def classStart : PatternReader (Bool × ClassParts) := do
  takeAndGap
  let negated := (← expectAny) = '^'
  if negated then takeAndGap
  let hyphens ← countHyphens ((← get).rest.length + 1)
  let hyphen ← cased (.single '-')
  let parts : ClassParts := { items := List.replicate hyphens (hyphen, 0) }
  if hyphens = 0 ∧ (← expectAny) = ']' then
    takeAndGap
    return (negated, parts.add (.single ']') 0)
  else
    let _ ← expectAny
    return (negated, parts)
where
  countHyphens : (fuel : Nat) → PatternReader Nat
    | 0 => return 0
    | fuel + 1 => do
      if (← peek) = some '-' then
        takeAndGap
        return (← countHyphens fuel) + 1
      else return 0

mutual

/-- Reads a class from its opening bracket on; gives its set and how deep it nests. -/
def charClass (esc : PatternReader PatternEscape) : (fuel : Nat) → PatternReader (CharSet × Nat)
  | 0 => malformed
  | fuel + 1 => do
    let (negated, parts) ← classStart
    let (s, depth) ← classParts esc fuel parts
    return (s.negatedIf negated, depth + 1)

/-- Reads a class up to its closing bracket. -/
def classParts (esc : PatternReader PatternEscape) :
    (fuel : Nat) → ClassParts → PatternReader (CharSet × Nat)
  | 0, _ => malformed
  | fuel + 1, parts => do
    skipGap
    match ← peek with
    | none => malformed
    | some ']' =>
      take
      return parts.whole
    | some '[' =>
      match ← asciiClass with
      | some s => classParts esc fuel (parts.add (← cased s) 0)
      | none =>
        let (s, depth) ← charClass esc fuel
        classParts esc fuel (parts.add s depth)
    | some _ =>
      if ← takeIf ['&', '&'] then classParts esc fuel (parts.joined .intersect)
      else if ← takeIf ['-', '-'] then classParts esc fuel (parts.joined .subtract)
      else if ← takeIf ['~', '~'] then classParts esc fuel (parts.joined .differ)
      else
        let s ← classItem esc
        classParts esc fuel (parts.add (← cased s) 0)

end

end PatternReader
end RequestBinding
