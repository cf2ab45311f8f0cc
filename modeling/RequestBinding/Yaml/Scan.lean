import RequestBinding.Yaml.Scalar
import RequestBinding.Yaml.Property

/-!
# From a text to its tokens

A mapping key in its short form is known by the colon after it, so its key token is put in front of it
then; indentation opens and closes the block collections.
-/

namespace RequestBinding
namespace Yaml
namespace Lex

/-- The mark that may start a text, and each line where a token may start. -/
def byteOrderMark : Char := '\ufeff'

/-- White space, comments and line breaks before a token. Tabs count only where no key may start. A byte
order mark at the start of a line counts as a space, and as a column. -/
def toNextToken : Nat → Lex Unit
  | 0 => pure ()
  | n + 1 => do
    if (← get).column = 0 ∧ (← at? 0) = some byteOrderMark then skip
    let l ← get
    skipWhile fun c => c = ' ' || c = '\t' && (l.inFlow || !l.keyAllowed)
    skipComment
    if (← at? 0).any isBreak then
      skipBreak
      if !l.inFlow then allowKey true
      toNextToken n

/-- A mark of one character. -/
def mark (t : Token) : Lex Unit := do
  skip
  emit t

/-- What ends all blocks: a directive, a document indicator or the end of the text. -/
def leaveBlocks : Lex Unit := do
  unroll (-1)
  removeKey
  allowKey false

def documentMark (t : Token) : Lex Unit := do
  leaveBlocks
  let _ ← take 3
  emit t

def flowStart (t : Token) : Lex Unit := do
  saveKey
  enterFlow
  allowKey true
  mark t

def flowEnd (t : Token) : Lex Unit := do
  removeKey
  leaveFlow
  allowKey false
  mark t

/-- Where a block collection may begin, one begins at this column. -/
def blockMark (start : Token) : Lex Unit := do
  let l ← get
  if !l.inFlow then
    if !l.keyAllowed then failed
    roll l.column l.tokens.size start

def blockEntry : Lex Unit := do
  blockMark .blockSequenceStart
  removeKey
  allowKey true
  mark .blockEntry

def keyMark : Lex Unit := do
  blockMark .blockMappingStart
  removeKey
  allowKey (!(← get).inFlow)
  mark .key

/-- A colon. What is pending becomes the key before it. -/
def valueMark : Lex Unit := do
  match (← get).keys with
  | some key :: outer =>
    emitAt key.token .key
    roll key.column key.token .blockMappingStart
    modify fun l => { l with keys := none :: outer }
    allowKey false
  | _ =>
    blockMark .blockMappingStart
    allowKey (!(← get).inFlow)
  mark .value

/-- A token with content, which may be a key. -/
def content (read : Lex Unit) : Lex Unit := do
  saveKey
  allowKey false
  read

def blockContent (folded : Bool) : Lex Unit := do
  removeKey
  allowKey true
  blockScalar folded

/-- Whether a plain scalar may start with `c`, which `after` follows. -/
def startsPlain (flow : Bool) (c : Char) (after : Option Char) : Bool :=
  !(blankOrEnd (some c) || "-?:,[]\x7b\x7d#&*!|>'\"%@\x60".toList.contains c) ||
    c = '-' && !after.any isSpaceOrTab ||
    !flow && (c = '?' || c = ':') && !blankOrEnd after

/-- The token that starts with `c`. -/
def token (c : Char) : Lex Unit := do
  let l ← get
  let after ← at? 1
  let marks := l.inFlow || blankOrEnd after
  if l.column = 0 ∧ c = '%' then
    leaveBlocks
    emit (← directive)
  else if l.atIndicator then documentMark (if c = '-' then .documentStart else .documentEnd)
  else if c = '[' then flowStart .flowSequenceStart
  else if c = '\x7b' then flowStart .flowMappingStart
  else if c = ']' then flowEnd .flowSequenceEnd
  else if c = '\x7d' then flowEnd .flowMappingEnd
  else if c = ',' then
    removeKey
    allowKey true
    mark .flowEntry
  else if c = '-' ∧ blankOrEnd after then blockEntry
  else if c = '?' ∧ marks then keyMark
  else if c = ':' ∧ marks then valueMark
  else if c = '*' then content do emit (.aliasTo (← anchorName))
  else if c = '&' then content do emit (.anchor (← anchorName))
  else if c = '!' then content do emit (← tag)
  else if c = '|' ∧ !l.inFlow then blockContent false
  else if c = '>' ∧ !l.inFlow then blockContent true
  else if c = '\'' then content (quotedScalar false)
  else if c = '"' then content (quotedScalar true)
  else if startsPlain l.inFlow c after then content plainScalar
  else failed

/-- The end of the text ends its last line. -/
def endOfText : Lex Unit := do
  modify fun l => if l.column = 0 then l else { l with column := 0, line := l.line + 1 }
  leaveBlocks

def tokensFrom : Nat → Lex Unit
  | 0 => failed
  | n + 1 => do
    toNextToken (← budget)
    dropStaleKeys
    unroll (← get).column
    match ← at? 0 with
    | none => endOfText
    | some c =>
      token c
      tokensFrom n

end Lex

/-- The tokens of a text; none if it is malformed. -/
def Token.scan? (text : String) : Option (List Token) := do
  let cs := text.toList
  if !cs.all isAllowed then none
  let (_, l) ← (Lex.tokensFrom (cs.length + 1)).run { rest := cs }
  return l.tokens.toList

end Yaml
end RequestBinding
