import RequestBinding.Decimal.Integer
import RequestBinding.Decimal.Literal
import RequestBinding.Log.Event
import RequestBinding.Pattern.Grammar
import RequestBinding.Request.Http
import RequestBinding.Text.Blank
import RequestBinding.Text.Property
import RequestBinding.Text.Split

/-!
# Log filters

A filter is a list of directives. A directive lets events through up to a level; it may name a target,
a span and a field of the span.
-/

namespace RequestBinding

/-- The most verbose level that passes; none passes nothing. -/
abbrev LevelBound := Option LogLevel

/-- A field of a span, and its value if one is asked for. -/
structure LogField where
  name : String
  value : Option String := none
deriving DecidableEq, Repr

structure LogDirective where
  level : LevelBound
  target : Option String := none
  span : Option String := none
  field : Option LogField := none
deriving DecidableEq, Repr

namespace LogDirective

/-- The level of a text: a number from zero to five or a name in any letter case. -/
def readLevel? (text : String) : Option LevelBound :=
  match (readNat 10 maxSize text.toList).toOption with
  | some n => [none, some .error, some .warn, some .info, some .debug, some .trace][n]?
  | none =>
    if text = "" then some (some .error)
    else if Http.sameName text "off" then some none
    else
      let level := [LogLevel.trace, .debug, .info, .warn, .error].find? (Http.sameName text ·.name)
      level.map some

/-- A text that is either a level or a target for which everything passes. -/
def ofLevelOrTarget (text : List Char) : LogDirective :=
  if text.isEmpty then { level := some .trace }
  else
    let s := String.ofList text
    match readLevel? s with
    | some level => { level }
    | none => { level := some .trace, target := some s }

/-- Reads the level at the end of a directive; nothing stands for all levels. -/
def withLevel? (d : LogDirective) (text : List Char) : Option LogDirective :=
  if text.isEmpty then some { d with level := some .trace }
  else (readLevel? (String.ofList text)).map fun level => { d with level }

/-- Whether a text is one that values of fields are compared with: a number or a pattern that asks for no
edges of words. -/
def isFieldValue (text : String) : Bool :=
  (NumberText.read? text).isSome ||
    match Pattern.parse text.toList with
    | .ok t => !t.edges && !t.strangeName
    | .error _ => false

/-- A field of a span: a name, and perhaps a value between the first `=` and the next. -/
def field? (text : List Char) : Option LogField :=
  match splitChars '=' text with
  | name :: value :: _ =>
    let value := String.ofList value
    if isFieldValue value then some { name := String.ofList name, value } else none
  | _ => if text.isEmpty then none else some { name := String.ofList text }

/-!
The parts of a directive are found in a text without blanks around it, and each is cut out of the text as
it stands at the same place. So blanks around a text spoil its level, and those in front of it shift its
names. The functions below take what is left of both texts.
-/

/-- Reads what follows a span. -/
def afterSpan? (d : LogDirective) (trimmed text : List Char) : Option LogDirective :=
  match trimmed with
  | [] => some d
  | '=' :: _ => withLevel? d text.tail
  | _ => none

/-- Reads the field of a span after the opening brace. -/
def withField? (d : LogDirective) (trimmed text : List Char) : Option LogDirective :=
  let size := (trimmed.takeWhile (· ≠ '\x7d')).length
  match trimmed.drop size with
  | _ :: ']' :: rest => do
    let field ← field? (text.take size)
    afterSpan? { d with field } rest (text.drop (size + 2))
  | _ => none

/-- Reads a span after its opening bracket. -/
def withSpan? (d : LogDirective) (trimmed text : List Char) : Option LogDirective :=
  let size := (trimmed.takeWhile fun c => c ≠ ']' && c ≠ '\x7b').length
  let name := String.ofList (text.take size)
  let text := text.drop (size + 1)
  match trimmed.drop size with
  | ']' :: rest => afterSpan? { d with span := some name } rest text
  | '\x7b' :: rest => withField? { d with span := if size = 0 then none else some name } rest text
  | _ => none

/-- Whether a directive without a span can start with the character. -/
def isStart (c : Char) : Bool := c = '-' || c = ':' || c = '_' || isAlphanumeric c

/-- Reads a directive. It holds no comma, so that a span has one field at most. -/
def read? (text : String) : Option LogDirective :=
  let trimmed := (trimBlanks text).toList
  let text := text.toList
  match trimmed with
  | [] => none
  | '[' :: rest => withSpan? { level := some .trace } rest text.tail
  | c :: _ =>
    if !isStart c then none
    else
      let size := (trimmed.takeWhile fun c => c ≠ '=' && c ≠ '[').length
      let d : LogDirective := { level := some .trace, target := some (String.ofList (text.take size)) }
      let after := text.drop (size + 1)
      match trimmed.drop size with
      | '=' :: _ => withLevel? d after
      | '[' :: rest => withSpan? d rest after
      | _ => some (ofLevelOrTarget text)

/-- Whether the directive asks for the value of a field; then all levels have to pass. -/
def asksForValue (d : LogDirective) : Bool := d.field.any (·.value.isSome)

end LogDirective

structure LogFilter where
  directives : List LogDirective
deriving DecidableEq, Repr

namespace LogFilter

/-- Reads directives between commas; one that cannot be read spoils all. No directive lets nothing
pass. -/
def read? (text : String) : Option LogFilter := do
  let pieces := (splitAt ',' text).filter (!·.isEmpty)
  let directives ← pieces.mapM LogDirective.read?
  return ⟨if directives.isEmpty then [{ level := none }] else directives⟩

/-- The most verbose level that some directive lets through. -/
def maxLevel (f : LogFilter) : LevelBound :=
  if f.directives.any LogDirective.asksForValue then some .trace
  else f.directives.foldl (fun bound d =>
    if bound.elim 0 LogLevel.rank < d.level.elim 0 LogLevel.rank then d.level else bound) none

end LogFilter
end RequestBinding
