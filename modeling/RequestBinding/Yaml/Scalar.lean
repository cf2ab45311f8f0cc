import RequestBinding.Decimal.Integer
import RequestBinding.Yaml.Lexer

/-!
# Scalars

Plain and quoted scalars are words with white space between them, which may run over lines; a single
line break counts as a space there. Block scalars are lines of an indentation of their own.
-/

namespace RequestBinding
namespace Yaml

/-- White space inside a scalar: on one line, or from a first line break over further ones. -/
inductive Gap where
  | blanks (cs : List Char)
  | breaks (first more : List Char)
deriving DecidableEq, Repr

/-- How white space counts: a first line break is a space, and nothing before further breaks. -/
def Gap.text : Gap → List Char
  | blanks cs => cs
  | breaks first more =>
    if first = ['\n'] then (if more.isEmpty then [' '] else more) else first ++ more

namespace Lex

/-- Continues a stretch of white space; a tab that indents a line may not stand before the column
`tabLimit`. -/
def gap (tabLimit : Int) : Nat → Gap → Lex Gap
  | 0, g => return g
  | n + 1, g => do
    match ← at? 0 with
    | none => return g
    | some c =>
      if isSpaceOrTab c then
        match g with
        | .blanks cs =>
          skip
          gap tabLimit n (.blanks (cs ++ [c]))
        | .breaks _ _ =>
          if c = '\t' ∧ (← get).column < tabLimit then failed
          skip
          gap tabLimit n g
      else if isBreak c then
        let b ← takeBreak
        match g with
        | .blanks _ => gap tabLimit n (.breaks b [])
        | .breaks first more => gap tabLimit n (.breaks first (more ++ b))
      else return g

/-! ## Plain scalars -/

/-- Length of the plain word that a text starts with. In a flow collection a colon right before an
indicator is malformed. -/
def plainLength? (flow : Bool) : List Char → Option Nat
  | [] => some 0
  | c :: rest =>
    if blankOrEnd (some c) then some 0
    else if flow && c = ':' && rest.head?.any ",?[]\x7b\x7d".toList.contains then none
    else if c = ':' && blankOrEnd rest.head? then some 0
    else if flow && ",[]\x7b\x7d".toList.contains c then some 0
    else (plainLength? flow rest).map (· + 1)

/-- Reads words and white space as long as they belong to the scalar. `read` holds what came before the
white space `g`, last piece first. -/
def plainWords (limit : Int) : Nat → List (List Char) → Gap → Lex (List (List Char) × Gap)
  | 0, read, g => return (read, g)
  | n + 1, read, g => do
    let l ← get
    if l.atIndicator ∨ (← at? 0) = some '#' then return (read, g)
    let some size := plainLength? l.inFlow l.rest | failed
    let word ← take size
    let (read, g) := if word.isEmpty then (read, g) else (word :: g.text :: read, .blanks [])
    if !blankOrEnd (← at? 0) ∨ (← at? 0).isNone then return (read, g)
    let g ← gap limit (← budget) g
    if !l.inFlow ∧ (← get).column < limit then return (read, g)
    plainWords limit n read g

def joined (pieces : List (List Char)) : String := String.ofList pieces.reverse.flatten

/-- A plain scalar. After one that ends with a line break a key may start. -/
def plainScalar : Lex Unit := do
  let limit := (← get).indent + 1
  let (pieces, g) ← plainWords limit (← budget) [] (.blanks [])
  match g with
  | .breaks _ _ => allowKey true
  | .blanks _ => pure ()
  emit (.scalar (joined pieces) .plain)

/-! ## Quoted scalars -/

/-- A character by its number, written in `n` hexadecimal digits. -/
def escapedNumber (n : Nat) : Lex Char := do
  let digits ← take n
  if digits.length < n ∨ !digits.all (fun c => (digitOf? 16 c).isSome) then failed
  let v := digits.foldl (fun v c => 16 * v + (digitOf? 16 c).getD 0) 0
  if 0xd800 ≤ v ∧ v ≤ 0xdfff ∨ 0x10ffff < v then failed
  return Char.ofNat v

/-- The character that an escape in double quotes stands for, after its backslash. -/
def escape : Lex Char := do
  let some c ← next? | failed
  match c with
  | '0' => return '\x00'
  | 'a' => return '\x07'
  | 'b' => return '\x08'
  | 't' | '\t' => return '\t'
  | 'n' => return '\n'
  | 'v' => return '\x0b'
  | 'f' => return '\x0c'
  | 'r' => return '\r'
  | 'e' => return '\x1b'
  | ' ' => return ' '
  | '"' => return '"'
  | '/' => return '/'
  | '\\' => return '\\'
  | 'N' => return '\u0085'
  | '_' => return '\u00a0'
  | 'L' => return '\u2028'
  | 'P' => return '\u2029'
  | 'x' => escapedNumber 2
  | 'u' => escapedNumber 4
  | 'U' => escapedNumber 8
  | _ => failed

/-- A word in quotes, its characters last first, and whether an escaped line break ends it. -/
def quotedWord (double : Bool) : Nat → List Char → Lex (List Char × Bool)
  | 0, word => return (word, false)
  | n + 1, word => do
    match ← at? 0 with
    | none => return (word, false)
    | some c =>
      if blankOrEnd (some c) then return (word, false)
      else if !double && c = '\'' then
        if (← at? 1) = some '\'' then
          skip
          skip
          quotedWord double n ('\'' :: word)
        else return (word, false)
      else if double && c = '"' then return (word, false)
      else if double && c = '\\' then
        skip
        if (← at? 0).any isBreak then
          skipBreak
          return (word, true)
        else quotedWord double n ((← escape) :: word)
      else
        skip
        quotedWord double n (c :: word)

/-- Words and white space up to the closing quote. -/
def quotedWords (double : Bool) : Nat → List (List Char) → Lex (List (List Char))
  | 0, _ => failed
  | n + 1, read => do
    if (← get).atIndicator ∨ (← at? 0).isNone then failed
    let (word, broken) ← quotedWord double (← budget) []
    let read := word.reverse :: read
    if (← at? 0) = some (if double then '"' else '\'') then return read
    let g ← gap 0 (← budget) (if broken then .breaks [] [] else .blanks [])
    quotedWords double n (g.text :: read)

def quotedScalar (double : Bool) : Lex Unit := do
  skip
  let pieces ← quotedWords double (← budget) []
  skip
  emit (.scalar (joined pieces) (if double then .doubleQuoted else .singleQuoted))

/-! ## Block scalars -/

/-- Which of the last line breaks of a block scalar count. -/
inductive Chomping where
  | strip
  | clip
  | keep
deriving DecidableEq, Repr

def chomping? : Lex (Option Chomping) := do
  match ← at? 0 with
  | some '-' => skip; return some .strip
  | some '+' => skip; return some .keep
  | _ => return none

/-- The depth that a header gives, from one to nine. -/
def depth? : Lex (Option Nat) := do
  match ← at? 0 with
  | some c =>
    if c = '0' then failed
    else if c.isDigit then
      skip
      return some (digitValue c)
    else return none
  | none => return none

/-- The marks of a header, in either order. -/
def blockHeader : Lex (Chomping × Option Nat) := do
  match ← chomping? with
  | some c => return (c, ← depth?)
  | none =>
    let depth ← depth?
    if depth.isNone then return (.clip, none)
    return ((← chomping?).getD .clip, depth)

/-- Empty lines, up to the indentation of a line that is not empty. Without an indentation, `deepest` is
the deepest line so far. Gives the line breaks and the deepest line. -/
def emptyLines (indent : Option Nat) : Nat → Nat → List Char → Lex (List Char × Nat)
  | 0, deepest, breaks => return (breaks, deepest)
  | n + 1, deepest, breaks => do
    let l ← get
    let spaces := (l.rest.takeWhile (· = ' ')).length
    let _ ← take (indent.elim spaces fun i => min spaces (i - l.column))
    let l ← get
    let deepest := max deepest l.column
    if indent.all (l.column < ·) ∧ (← at? 0) = some '\t' then failed
    if !(← at? 0).any isBreak then return (breaks, deepest)
    emptyLines indent n deepest (breaks ++ (← takeBreak))

/-- The lines of a block scalar. `read` holds the text so far, last piece first, `last` the break of the
line before, and `empty` the breaks of empty lines after it; `inset` says whether that line starts with
white space. -/
def blockLines (folded : Bool) (indent : Nat) : Nat → List (List Char) → Bool → List Char → List Char →
    Lex (List (List Char) × List Char × List Char)
  | 0, read, _, last, empty => return (read, last, empty)
  | n + 1, read, inset, last, empty => do
    let l ← get
    if l.column ≠ indent ∨ l.rest.isEmpty then return (read, last, empty)
    let insetHere := l.rest.head?.any isSpaceOrTab
    let last :=
      if folded ∧ last = ['\n'] ∧ !inset ∧ !insetHere then (if empty.isEmpty then [' '] else [])
      else last
    let line ← takeWhile (!isBreak ·)
    let ending ← takeBreak
    let (empty', _) ← emptyLines (some indent) (← budget) 0 []
    blockLines folded indent n (line :: empty :: last :: read) insetHere ending empty'

def blockScalar (folded : Bool) : Lex Unit := do
  skip
  let (chomping, depth) ← blockHeader
  skipLineEnd
  let outer := (← get).indent
  let given : Option Nat := depth.map fun d => if 0 ≤ outer then outer.toNat + d else d
  let (empty, deepest) ← emptyLines given (← budget) 0 []
  let indent := given.getD (max deepest (max (outer + 1).toNat 1))
  let (read, last, empty) ← blockLines folded indent (← budget) [] false [] empty
  let tail := match chomping with
    | .strip => []
    | .clip => last
    | .keep => last ++ empty
  emit (.scalar (joined (tail :: read)) (if folded then .folded else .literal))

end Lex
end Yaml
end RequestBinding
