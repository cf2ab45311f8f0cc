import RequestBinding.Pattern.Grammar

/-!
# Reading patterns

`Pattern.read?` reads the text of a pattern in the wide grammar, which has look-around, recalled groups
and repetitions that do not give back. A brace that starts no repetition stands for itself, and a part
is repeated once at most.
-/

namespace RequestBinding
namespace PatternReader

/-- How many groups may stand inside one another, and one more. -/
def maxGroups : Nat := 64

/-- What a part of a pattern is, as far as a repetition of it cares. -/
inductive PartKind where
  | nothing
  | look
  | other
deriving DecidableEq, Repr

abbrev Part := Pattern × PartKind

/-- The characters that an escape stands for which only the wide grammar has. -/
def wideEscape? (inClass : Bool) : Char → Option PatternEscape
  | 'h' => some (.set .hexDigits)
  | 'H' => some (.set (.complement .hexDigits))
  | 'e' => some (.char (Char.ofNat 0x1b))
  | 'b' => if inClass then some (.char (Char.ofNat 8)) else none
  | 'O' => if inClass then none else some (.set .full)
  | _ => none

/-- Reads an escape that stands for one character, or a place, from its backslash on. -/
def wideEscape (inClass : Bool) : PatternReader PatternEscape := do
  match (← get).rest with
  | '\\' :: c :: _ =>
    match wideEscape? inClass c with
    | some e =>
      takeMany 2
      return e
    | none =>
      if c = 'Z' ∧ !inClass then
        takeMany 2
        return .anchor .textEndButLines
      else if c = 'G' ∧ !inClass then
        takeMany 2
        return .anchor .textStart
      else if 0x80 ≤ c.toNat then
        takeMany 2
        return .char c
      else escape
  | _ => malformed

/-- Length of the blanks and comments that do not count in the wide grammar. -/
def wideGapLength (spaced : Bool) : (fuel : Nat) → List Char → Option Nat
  | 0, _ => none
  | _, [] => some 0
  | fuel + 1, c :: rest =>
    if spaced ∧ c = '#' then
      let comment := rest.takeWhile (· ≠ '\n')
      let length := min (comment.length + 2) (rest.length + 1)
      (wideGapLength spaced fuel ((c :: rest).drop length)).map (· + length)
    else if spaced ∧ [' ', '\r', '\n', '\t'].contains c then
      (wideGapLength spaced fuel rest).map (· + 1)
    else if ['(', '?', '#'].isPrefixOf (c :: rest) then
      match remarkLength (rest.drop 2) with
      | none => none
      | some length => (wideGapLength spaced fuel (rest.drop (length + 2))).map (· + (length + 3))
    else some 0
where
  /-- Length of a remark up to its closing parenthesis. -/
  remarkLength : List Char → Option Nat
    | [] => none
    | ')' :: _ => some 1
    | '\\' :: _ :: rest => (remarkLength rest).map (· + 2)
    | _ :: rest => (remarkLength rest).map (· + 1)

/-- Steps over blanks and comments that do not count. -/
def skipWideGap : PatternReader Unit := do
  let t ← get
  match wideGapLength t.settings.spaced (t.rest.length + 1) t.rest with
  | some n => takeMany n
  | none => malformed

/-- A number of a repetition. -/
def wideCount : PatternReader (Option Nat) := do
  let digits ← takeWhile Char.isDigit
  return if digits.isEmpty then none else some (natOfDigits digits)

/-- Reads the bounds of a repetition from its opening brace on, if they are some. -/
def wideBounds : PatternReader (Option (Nat × Option Nat)) := do
  let start ← get
  let none_ : PatternReader (Option (Nat × Option Nat)) := do
    set start
    return none
  take
  skipWideGap
  let least ← wideCount
  if least.isNone ∧ (← peek) ≠ some ',' then none_
  else
    skipWideGap
    let least := least.getD 0
    let most ← if ← takeIf [','] then do
        skipWideGap
        wideCount
      else pure (some least)
    skipWideGap
    if ← takeIf ['\x7d'] then return some (least, most) else none_

/-- Reads the flags of the wide grammar up to a colon or a closing parenthesis. -/
def wideFlags : (fuel : Nat) → (off : Bool) → (last : Option Char) → PatternReader Unit
  | 0, _, _ => malformed
  | fuel + 1, off, last => do
    skipWideGap
    let c ← expectAny
    if c = ')' ∨ c = ':' then
      if last = some '-' ∨ (c = ')' ∧ last.isNone) then malformed
    else
      let change (f : PatternSettings → PatternSettings) : PatternReader Unit := do
        modify fun t => { t with settings := f t.settings }
        take
        wideFlags fuel off (some c)
      match c with
      | 'i' => change ({ · with anyCase := !off })
      | 'm' => change ({ · with byLine := !off })
      | 's' => change ({ · with dotIsAll := !off })
      | 'U' => change ({ · with swapped := !off })
      | 'x' => change ({ · with spaced := !off })
      | 'u' => if off then malformed else change id
      | '-' =>
        if off then malformed
        else
          take
          wideFlags fuel true (some c)
      | _ => malformed

/-- Recalls a group. -/
def recallOf (number : Nat) : PatternReader Part := do
  return (.sameAs number (← get).settings.anyCase, .other)

/-- Reads a recalled group's number; it is less than half of the octets of the whole text. -/
def recallByNumber (size : Nat) : PatternReader Part := do
  take
  let number := natOfDigits (← takeWhile Char.isDigit)
  if size / 2 ≤ number then malformed
  modify ({ · with recallsByNumber := true })
  recallOf number

/-- Reads a name or a number of a group, up to its closing mark. -/
def groupReference (close : Char) : PatternReader Part := do
  let name ← takeWhile fun c => isAlphanumeric c || c = '_' || c = '-'
  if !(← takeIf [close]) then malformed
  let t ← get
  match t.names.lookup (String.ofList name), name with
  | some number, _ => recallOf number
  | none, '-' :: digits =>
    let back := natOfDigits digits
    if digits.isEmpty ∨ !digits.all Char.isDigit ∨ back = 0 ∨ t.groups < back then malformed
    else recallOf (t.groups + 1 - back)
  | none, digits =>
    if digits.isEmpty ∨ !digits.all Char.isDigit then malformed else recallOf (natOfDigits digits)

/-- Reads an escape outside of classes. -/
def escapedPart (size : Nat) : PatternReader Part := do
  match (← get).rest with
  | '\\' :: c :: _ =>
    if c.isDigit then recallByNumber size
    else if c = 'k' then
      takeMany 2
      if ← takeIf ['<'] then groupReference '>'
      else if ← takeIf [Char.ofNat 0x27] then groupReference (Char.ofNat 0x27)
      else malformed
    else if c = 'K' then
      takeMany 2
      return (.empty, .other)
    else
      match ← wideEscape false with
      | .char c => return (.set (← cased (.single c)), .other)
      | .set s => return (.set (← cased s), .other)
      | .anchor a => return (.anchor a, .other)
  | _ => malformed

/-- What opens a group. -/
inductive WideOpening where
  | ahead (matched : Bool)
  | behind (matched : Bool)
  | firstOnly
  | named
  | nameRecalled
  | settings
  | plain
deriving DecidableEq, Repr

/-- Reads the opening of a group. -/
def wideOpening : PatternReader WideOpening := do
  take
  skipWideGap
  if ← takeIf "?=".toList then return .ahead true
  else if ← takeIf "?!".toList then return .ahead false
  else if ← takeIf "?<=".toList then return .behind true
  else if ← takeIf "?<!".toList then return .behind false
  else if ← takeIf "?<".toList then return .named
  else if ← takeIf "?P<".toList then return .named
  else if ← takeIf "?P=".toList then return .nameRecalled
  else if ← takeIf "?>".toList then return .firstOnly
  else if ← takeIf "?".toList then return .settings
  else return .plain

/-- Opens a group with a number. -/
def nextGroup : PatternReader Nat := do
  modify fun t => { t with groups := t.groups + 1 }
  return (← get).groups

/-- Reads the name of a group. -/
def wideName (number : Nat) : PatternReader Unit := do
  let name ← takeWhile fun c => isAlphanumeric c || c = '_'
  if name.isEmpty ∨ !(← takeIf ['>']) then malformed
  modify fun t => { t with names := (String.ofList name, number) :: t.names }

/-- Parts one after the other; those that are nothing do not count. -/
def inSequence (parts : List Part) : Part :=
  match parts.filter (·.2 ≠ .nothing) with
  | [] => (.empty, .nothing)
  | [p] => p
  | p :: ps => (ps.foldl (fun a b => .sequence a b.1) p.1, .other)

/-- A part with a repetition that prefers more or fewer rounds, and that may not give back. -/
def repeatedPart (p : Part) (least : Nat) (most : Option Nat) : PatternReader Part := do
  if p.2 ≠ .other then malformed
  skipWideGap
  let marked ← takeIf ['?']
  let held ← takeIf ['+']
  let r := Pattern.times p.1 least most (marked == (← get).settings.swapped)
  return (if held then .firstOnly r else r, .other)

/-- Reads the repetition after a part, if there is one. -/
def withRepetition (p : Part) : PatternReader Part := do
  skipWideGap
  match ← peek with
  | some '?' =>
    take
    repeatedPart p 0 (some 1)
  | some '*' =>
    take
    repeatedPart p 0 none
  | some '+' =>
    take
    repeatedPart p 1 none
  | some '\x7b' =>
    match ← wideBounds with
    | some (least, most) => repeatedPart p least most
    | none => return p
  | _ => return p

/-- A part that needs no group: an anchor, a class or a character. -/
def simplePart (size : Nat) (c : Char) : PatternReader Part := do
  let settings := (← get).settings
  match c with
  | '.' =>
    take
    return (.set (if settings.dotIsAll then .full else .complement .lineFeed), .other)
  | '^' =>
    take
    return (.anchor (if settings.byLine then .lineStart else .textStart), .other)
  | '$' =>
    take
    return (.anchor (if settings.byLine then .lineEnd else .textEnd), .other)
  | '\\' => escapedPart size
  | '[' =>
    let (s, _) ← withSettings { settings with spaced := false } do
      charClass (wideEscape true) ((← get).rest.length + 1)
    return (.set s, .other)
  | c =>
    take
    return (.set (← cased (.single c)), .other)

mutual

/-- Reads alternatives. Groups are not recalled by number where they have names. -/
def wideAlternatives (size : Nat) : (fuel depth : Nat) → PatternReader Part
  | 0, _ => malformed
  | fuel + 1, depth => do
    let first ← wideBranch size fuel depth []
    skipWideGap
    if (← peek) = some '|' then
      let p ← wideFurther size fuel depth first.1
      return (p, .other)
    else
      let t ← get
      if t.recallsByNumber ∧ !t.names.isEmpty then malformed
      return first

/-- Reads the alternatives after the first. -/
def wideFurther (size : Nat) : (fuel depth : Nat) → Pattern → PatternReader Pattern
  | 0, _, _ => malformed
  | fuel + 1, depth, before => do
    take
    let (next, _) ← wideBranch size fuel depth []
    skipWideGap
    if (← peek) = some '|' then wideFurther size fuel depth (.either before next)
    else return .either before next

/-- Reads one alternative; `parts` holds what was read of it, last first. -/
def wideBranch (size : Nat) : (fuel depth : Nat) → List Part → PatternReader Part
  | 0, _, _ => malformed
  | fuel + 1, depth, parts => do
    let left := (← get).rest.length
    let p ← withRepetition (← part size fuel depth)
    if (← get).rest.length = left then return inSequence parts.reverse
    else wideBranch size fuel depth (p :: parts)

/-- Reads a part without its repetition; nothing, if a mark comes next that no part starts with. -/
def part (size : Nat) : (fuel depth : Nat) → PatternReader Part
  | 0, _ => malformed
  | fuel + 1, depth => do
    skipWideGap
    match ← peek with
    | none => return (.empty, .nothing)
    | some '(' => groupPart size fuel (depth + 1)
    | some c =>
      if ['+', '*', '?', '|', ')'].contains c then return (.empty, .nothing) else simplePart size c

/-- Reads a part in parentheses. -/
def groupPart (size : Nat) : (fuel depth : Nat) → PatternReader Part
  | 0, _ => malformed
  | fuel + 1, depth => do
    if maxGroups ≤ depth then malformed
    let outer := (← get).settings
    let inside : PatternReader Part := do
      let p ← wideAlternatives size fuel depth
      if !(← takeIf [')']) then malformed
      modify ({ · with settings := outer })
      return p
    match ← wideOpening with
    | .ahead matched => return (.ahead (← inside).1 matched, .look)
    | .behind matched => return (.behind (← inside).1 matched, .look)
    | .firstOnly => return (.firstOnly (← inside).1, .other)
    | .nameRecalled => groupReference ')'
    | .named =>
      let number ← nextGroup
      wideName number
      return (.group number (← inside).1, .other)
    | .plain =>
      let number ← nextGroup
      return (.group number (← inside).1, .other)
    | .settings =>
      wideFlags ((← get).rest.length + 1) false none
      if ← takeIf [')'] then return (.empty, .nothing)
      else
        take
        inside

end

/-- Reads a whole text of so many octets. -/
def wideText (size : Nat) : PatternReader Pattern := do
  let (p, _) ← wideAlternatives size (6 * (← get).rest.length + 6) 0
  let t ← get
  if !t.rest.isEmpty ∨ t.strangeName then malformed
  if p.recalls.any fun n => n = 0 || t.groups < n then malformed
  return p

end PatternReader

namespace Pattern

/-- The one number of characters that a pattern matches, if there is one. -/
def width? : Pattern → Option Nat
  | empty | anchor _ | ahead .. | behind .. => some 0
  | set _ => some 1
  | sequence a b => do return (← width? a) + (← width? b)
  | either a b => do
    let m ← width? a
    let n ← width? b
    if m = n then some m else none
  | times a least most _ => do
    let n ← width? a
    if n = 0 ∨ most = some least then some (n * least) else none
  | group _ a | firstOnly a => width? a
  | sameAs .. => none

/-- Whether a pattern needs more than a set of states to be matched. -/
def isWide : Pattern → Bool
  | empty | set _ | anchor _ => false
  | sequence a b | either a b => isWide a || isWide b
  | times a _ _ _ | group _ a => isWide a
  | _ => true

/-- Whether what comes before can be matched: a simple pattern, or one of a fixed width. -/
def canLookBack : Pattern → Bool
  | either a b => canLookBack a && canLookBack b
  | p => !p.isWide || p.width?.isSome

/-- Whether all that a pattern looks back for can be matched. -/
def looksBack : Pattern → Bool
  | behind a _ => canLookBack a && looksBack a
  | sequence a b | either a b => looksBack a && looksBack b
  | times a _ _ _ | group _ a | ahead a _ | firstOnly a => looksBack a
  | _ => true

/-- The pattern that a text writes in the wide grammar. -/
def read? (text : List Char) : Option Pattern :=
  match (PatternReader.wideText (String.ofList text).utf8ByteSize).run { rest := text } with
  | .ok p _ => if p.looksBack then some p.trimmed else none
  | .error _ _ => none

end Pattern
end RequestBinding
