import RequestBinding.Yaml.Token

/-!
# The state of reading tokens

A lexer stands at a place in a text, inside blocks of some indentation and flow collections. A token
that may turn out to be a key is pending: the key token goes before it once a value follows on the same
line, no more than 1024 characters later.
-/

namespace RequestBinding
namespace Yaml

structure PendingKey where
  /-- The number of the token that may be a key. -/
  token : Nat
  /-- Whether the token has to be a key, for it stands at the indentation of a mapping. -/
  required : Bool
  line : Nat
  column : Nat
  index : Nat
deriving DecidableEq, Repr

structure Lexer where
  rest : List Char
  index : Nat := 0
  line : Nat := 0
  column : Nat := 0
  /-- Column of the innermost block, `-1` outside all blocks. -/
  indent : Int := -1
  /-- Columns of the blocks around it. -/
  outer : List Int := []
  /-- Whether a key may start here. -/
  keyAllowed : Bool := true
  /-- The pending key of each flow level, innermost first; the last belongs to the blocks. -/
  keys : List (Option PendingKey) := [none]
  tokens : Array Token := #[]

/-- A step of reading; none if the text is malformed. -/
abbrev Lex := StateT Lexer Option

namespace Lexer

def inFlow (l : Lexer) : Bool := 1 < l.keys.length

/-- Whether a document indicator stands at the start of the line. -/
def atIndicator (l : Lexer) : Bool :=
  l.column = 0 && (l.rest.take 3 = ['-', '-', '-'] || l.rest.take 3 = ['.', '.', '.']) &&
    blankOrEnd l.rest[3]?

end Lexer

namespace Lex

def failed {α : Type} : Lex α := fun _ => none

/-- The `n`th of the characters to come. -/
def at? (n : Nat) : Lex (Option Char) := return (← get).rest[n]?

/-- The next character, stepped over. -/
def next? : Lex (Option Char) := do
  let c ← at? 0
  modify fun l => { l with rest := l.rest.tail, index := l.index + 1, column := l.column + 1 }
  return c

/-- How often a loop can step over a character, and once more. -/
def budget : Lex Nat := return (← get).rest.length + 1

/-- Steps over a character. -/
def skip : Lex Unit := modify fun l =>
  { l with rest := l.rest.tail, index := l.index + 1, column := l.column + 1 }

/-- Steps over a line break; gives the break as it counts in a scalar. -/
def takeBreak : Lex (List Char) := do
  let l ← get
  let stepOver (n : Nat) (rest : List Char) : Lex Unit :=
    set { l with rest, index := l.index + n, line := l.line + 1, column := 0 }
  match l.rest with
  | '\r' :: '\n' :: rest => stepOver 2 rest; return ['\n']
  | c :: rest =>
    if c = '\r' ∨ c = '\n' ∨ c.toNat = 0x85 then
      stepOver 1 rest
      return ['\n']
    else if isBreak c then
      stepOver 1 rest
      return [c]
    else return []
  | [] => return []

def skipBreak : Lex Unit := do let _ ← takeBreak

/-- Steps over the characters of a class that come next, none of them a break; gives them. -/
def takeWhile (p : Char → Bool) : Lex (List Char) := do
  let l ← get
  let cs := l.rest.takeWhile p
  let n := cs.length
  set { l with rest := l.rest.drop n, index := l.index + n, column := l.column + n }
  return cs

/-- Steps over `n` characters, none of them a break; gives them. -/
def take (n : Nat) : Lex (List Char) := do
  let l ← get
  set { l with rest := l.rest.drop n, index := l.index + n, column := l.column + n }
  return l.rest.take n

def skipWhile (p : Char → Bool) : Lex Unit := do let _ ← takeWhile p

def skipComment : Lex Unit := do
  if (← at? 0) = some '#' then skipWhile (!isBreak ·)

/-- The rest of a line after a directive or a block scalar's header. -/
def skipLineEnd : Lex Unit := do
  skipWhile isSpaceOrTab
  skipComment
  if breakOrEnd (← at? 0) then skipBreak else failed

def emit (t : Token) : Lex Unit := modify fun l => { l with tokens := l.tokens.push t }

def emitAt (i : Nat) (t : Token) : Lex Unit := modify fun l =>
  { l with tokens := l.tokens.insertIdxIfInBounds i t }

def allowKey (b : Bool) : Lex Unit := modify fun l => { l with keyAllowed := b }

/-! ## Blocks -/

/-- Opens a block at a column if it lies deeper; its start goes before token number `i`. -/
def roll (column : Nat) (i : Nat) (start : Token) : Lex Unit := do
  let l ← get
  if !l.inFlow ∧ l.indent < column then
    set { l with outer := l.indent :: l.outer, indent := column }
    emitAt i start

/-- Closes the blocks that lie deeper than a column. -/
def unroll (column : Int) : Lex Unit := modify fun l =>
  if l.inFlow then l
  else
    let rec close : List Int → Int → Array Token → Lexer
      | outer, indent, tokens =>
        if column < indent then
          match outer with
          | [] => { l with outer, indent := -1, tokens := tokens.push .blockEnd }
          | i :: outer => close outer i (tokens.push .blockEnd)
        else { l with outer, indent, tokens }
    close l.outer l.indent l.tokens

/-! ## Pending keys -/

/-- Gives up a pending key; a required one is missed. -/
def giveUp : Option PendingKey → Option (Option PendingKey)
  | some k => if k.required then none else some none
  | none => some none

/-- Gives up the pending key of the innermost level. -/
def removeKey : Lex Unit := do
  let l ← get
  match l.keys with
  | [] => pure ()
  | k :: outer => set { l with keys := (← giveUp k) :: outer }

/-- Gives up the pending keys that are out of reach. -/
def dropStaleKeys : Lex Unit := do
  let l ← get
  let keys ← l.keys.mapM fun k =>
    match k with
    | some p => if p.line < l.line ∨ p.index + 1024 < l.index then giveUp k else some k
    | none => some none
  set { l with keys }

/-- Notes that the next token may be a key. -/
def saveKey : Lex Unit := do
  let l ← get
  if l.keyAllowed then
    removeKey
    let key : PendingKey :=
      { token := l.tokens.size, required := !l.inFlow && l.indent = l.column, line := l.line,
        column := l.column, index := l.index }
    modify fun l => { l with keys := some key :: l.keys.tail }

def enterFlow : Lex Unit := modify fun l => { l with keys := none :: l.keys }

def leaveFlow : Lex Unit := modify fun l => if l.inFlow then { l with keys := l.keys.tail } else l

end Lex
end Yaml
end RequestBinding
