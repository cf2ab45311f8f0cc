import RequestBinding.Pattern.Class

/-!
# The strict grammar of patterns

Whether a text is a regular expression without look-around and recalled groups, and how it reads with
its class letters spelled out.
-/

namespace RequestBinding
namespace PatternReader

/-- How deep parts of a pattern may nest. -/
def maxNesting : Nat := 250

/-- Whether a character can stand in a group's name. -/
def isNameChar (first : Bool) (c : Char) : Bool :=
  c = '_' || if first then isAlphabetic c else c = '.' || c = '[' || c = ']' || isAlphanumeric c

/-- Reads a group's name up to its closing angle bracket. No two groups have one name. -/
def groupName : PatternReader Unit := do
  let name ← takeWhile (· ≠ '>')
  let _ ← expectAny
  take
  match name with
  | [] => malformed
  | c :: cs =>
    let t ← get
    let s := String.ofList name
    if !isNameChar true c ∨ !cs.all (isNameChar false) ∨ (t.names.lookup s).isSome then malformed
    else set { t with names := (s, t.groups) :: t.names }

/-- Reads flags up to a colon or a closing parenthesis: letters, none of them twice, and a minus
before those that are turned off. -/
def flags : (fuel : Nat) → (read : List Char) → PatternReader (List Char)
  | 0, _ => malformed
  | fuel + 1, read => do
    let c ← expectAny
    if c = ':' ∨ c = ')' then
      if read.head? = some '-' then malformed else return read.reverse
    else if (c = '-' ∨ "imsUuRx".toList.contains c) ∧ !read.contains c then
      take
      flags fuel (c :: read)
    else malformed

/-- Whether the blanks of a text count no more, by flags that were read. -/
def spacedBy (read : List Char) (before : Bool) : Bool :=
  if !read.contains 'x' then before
  else !(read.takeWhile (· ≠ 'x')).contains '-'

/-- What opens with a parenthesis. -/
inductive Opening where
  | settings
  | group (spaced : Bool)

/-- Reads the opening of a group, or flags in parentheses. -/
def opening : PatternReader Opening := do
  take
  skipGap
  for mark in ["?=", "?!", "?<=", "?<!"] do
    if ← startsWith mark.toList then throw .lookAround
  let spaced := (← get).settings.spaced
  if (← takeIf "?P<".toList) || (← takeIf "?<".toList) then
    groupName
    return .group spaced
  else if ← takeIf ['?'] then
    let read ← flags ((← get).rest.length + 1) []
    let close ← expectAny
    take
    let spacedNow := spacedBy read spaced
    if close = ':' then return .group spacedNow
    else if read.isEmpty then malformed
    else
      modify fun t => { t with settings := { t.settings with spaced := spacedNow } }
      return .settings
  else return .group spaced

/-- A number; blanks may stand on both sides of it. -/
def count : PatternReader (Option Nat) := do
  let _ ← takeWhile isBlank
  let digits ← digitRun ((← get).rest.length + 1)
  let _ ← takeWhile isBlank
  if digits.isEmpty then return none
  else if maxCount < natOfDigits digits then malformed
  else return some (natOfDigits digits)
where
  /-- The greatest number of rounds. -/
  maxCount : Nat := 4294967295
  digitRun : (fuel : Nat) → PatternReader (List Char)
    | 0 => return []
    | fuel + 1 => do
      match ← peek with
      | some c =>
        if c.isDigit then
          takeAndGap
          return c :: (← digitRun fuel)
        else return []
      | none => return []

/-- Reads the bounds of a repetition from its opening brace on. -/
def bounds : PatternReader Unit := do
  takeAndGap
  let _ ← expectAny
  match ← count with
  | none => malformed
  | some least =>
    let c ← expectAny
    if c = ',' then
      takeAndGap
      if (← expectAny) ≠ '\x7d' then
        match ← count with
        | none => malformed
        | some most => if most < least then malformed
    if (← expectAny) ≠ '\x7d' then malformed
    takeAndGap

/-- Steps over the mark of a lazy repetition. -/
def lazyMark : PatternReader Unit := do let _ ← takeIf ['?']

/-- What a branch ends with, as far as a repetition cares. -/
inductive BranchEnd where
  | nothing
  | settings
  | part

/-- How deep the parts of a branch nest. -/
def branchDepth (parts : List Nat) : Nat :=
  let deepest := parts.foldl max 0
  if 1 < parts.length then deepest + 1 else deepest

mutual

/-- Reads alternatives up to the end of the text or a closing parenthesis; gives how deep they nest. -/
def alternatives : (fuel : Nat) → PatternReader Nat
  | 0 => malformed
  | fuel + 1 => do
    let depth ← branch fuel [] .nothing
    if (← peek) = some '|' then
      take
      return max depth (← further fuel) + 1
    else return depth

/-- Reads the alternatives after the first. -/
def further : (fuel : Nat) → PatternReader Nat
  | 0 => malformed
  | fuel + 1 => do
    let depth ← branch fuel [] .nothing
    if (← peek) = some '|' then
      take
      return max depth (← further fuel)
    else return depth

/-- Reads one alternative; `parts` tells how deep the parts read nest, last first. -/
def branch : (fuel : Nat) → (parts : List Nat) → BranchEnd → PatternReader Nat
  | 0, _, _ => malformed
  | fuel + 1, parts, last => do
    skipGap
    let repeated (parts : List Nat) : List Nat := match parts with
      | [] => []
      | depth :: parts => (depth + 1) :: parts
    match ← peek with
    | none => return branchDepth parts
    | some '|' => return branchDepth parts
    | some ')' => return branchDepth parts
    | some '(' =>
      let outer := (← get).settings
      match ← opening with
      | .settings => branch fuel (0 :: parts) .settings
      | .group spaced =>
        let depth ← withSettings { outer with spaced } do
          let depth ← alternatives fuel
          if (← peek) ≠ some ')' then malformed
          return depth
        take
        branch fuel ((depth + 1) :: parts) .part
    | some '[' =>
      let bell := (← get).bell
      let (_, depth) ← charClass escape ((← get).rest.length + 1)
      modify ({ · with bell })
      branch fuel (depth :: parts) .part
    | some '\\' =>
      let _ ← escape
      branch fuel (0 :: parts) .part
    | some c =>
      if c = '*' ∨ c = '+' ∨ c = '?' ∨ c = '\x7b' then
        match last with
        | .part =>
          if c = '\x7b' then bounds else take
          lazyMark
          branch fuel (repeated parts) .part
        | _ => malformed
      else
        take
        branch fuel (0 :: parts) .part

end

/-- Reads a whole text. -/
def wholeText : PatternReader Unit := do
  let depth ← alternatives (4 * (← get).rest.length + 4)
  if (← peek).isSome ∨ maxNesting < depth then malformed

end PatternReader

namespace Pattern

/-- What the strict grammar makes of a text. -/
def parse (text : List Char) : Except PatternFault PatternText :=
  match PatternReader.wholeText.run { rest := text } with
  | .ok _ t => .ok t
  | .error e _ => .error e

/-- The control character of a letter. -/
def controlOf (c : Char) : Char := Char.ofNat (c.toNat % 32)

/-- A text with its class letters spelled out and its control letters replaced. A text beyond the
strict grammar stays as it is; a malformed one has no such form. -/
def spelledOut? : (fuel : Nat) → List Char → Option (List Char)
  | 0, _ => none
  | fuel + 1, text =>
    match parse text with
    | .ok t => if t.bell then none else some t.spelled.reverse
    | .error .lookAround => some text
    | .error .backreference => some text
    | .error .malformed => none
    | .error (.unknownEscape left) =>
      match text.drop (text.length - left) with
      | '\\' :: 'c' :: c :: rest =>
        if c.isAlpha then
          spelledOut? fuel (text.take (text.length - left) ++ controlOf c :: rest)
        else none
      | _ => none

end Pattern
end RequestBinding
