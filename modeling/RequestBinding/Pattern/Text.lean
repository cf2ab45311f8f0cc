import RequestBinding.Decimal.Integer
import RequestBinding.Pattern.Basic

/-!
# Texts of patterns

A reader of pattern texts keeps what is left of the text, a spelled out form of what it has read, and
the settings that hold where it stands.
-/

namespace RequestBinding

/-- Why a text is not a pattern that the strict grammar can express. -/
inductive PatternFault where
  | malformed
  /-- What stands before or after is asked for. -/
  | lookAround
  | backreference
  /-- A letter that has no meaning after a backslash; so many characters are left from there on. -/
  | unknownEscape (left : Nat)
deriving DecidableEq, Repr

/-- What holds from a place in a pattern on. -/
structure PatternSettings where
  anyCase : Bool := false
  /-- Lines have starts and ends of their own. -/
  byLine : Bool := false
  dotIsAll : Bool := false
  /-- Repetitions prefer fewer rounds unless marked. -/
  swapped : Bool := false
  /-- Blanks and comments do not count. -/
  spaced : Bool := false
deriving DecidableEq, Repr

structure PatternText where
  rest : List Char
  /-- What was read, with class letters spelled out, last first. -/
  spelled : List Char := []
  settings : PatternSettings := {}
  /-- Number of groups opened so far. -/
  groups : Nat := 0
  names : List (String × Nat) := []
  /-- Whether a group is recalled by its number. -/
  recallsByNumber : Bool := false
  /-- Whether the bell is written as an escape outside of classes. -/
  bell : Bool := false
  /-- Whether edges of words are asked for. -/
  edges : Bool := false
  /-- Whether a property has a name that nothing has. -/
  strangeName : Bool := false
deriving Repr

abbrev PatternReader := EStateM PatternFault PatternText

namespace PatternReader

/-- The next character, if any. -/
def peek : PatternReader (Option Char) := do return (← get).rest.head?

/-- Steps over a character. -/
def take : PatternReader Unit := modify fun t =>
  match t.rest with
  | [] => t
  | c :: rest => { t with rest, spelled := c :: t.spelled }

/-- Steps over `n` characters. -/
def takeMany : (n : Nat) → PatternReader Unit
  | 0 => pure ()
  | n + 1 => do
    take
    takeMany n

def malformed {α : Type} : PatternReader α := throw .malformed

/-- Whether the text goes on with `cs`. -/
def startsWith (cs : List Char) : PatternReader Bool := do return cs.isPrefixOf (← get).rest

/-- Steps over `cs` if the text goes on with it. -/
def takeIf (cs : List Char) : PatternReader Bool := do
  if ← startsWith cs then
    takeMany cs.length
    return true
  else return false

/-- Steps over a run of characters, and gives it. -/
def takeWhile (p : Char → Bool) : PatternReader (List Char) := do
  let run := (← get).rest.takeWhile p
  takeMany run.length
  return run

/-- Length of the blanks and comments that a spaced text goes on with. -/
def gapLength : List Char → Nat
  | [] => 0
  | c :: rest => if isBlank c then gapLength rest + 1 else if c = '#' then comment rest + 1 else 0
where
  /-- Length of the rest of a comment, and of the gap after it. -/
  comment : List Char → Nat
    | [] => 0
    | '\n' :: rest => gapLength rest + 1
    | _ :: rest => comment rest + 1

/-- Steps over blanks and comments if they do not count. -/
def skipGap : PatternReader Unit := do
  let t ← get
  if t.settings.spaced then takeMany (gapLength t.rest)

/-- Steps over a character and the gap after it. -/
def takeAndGap : PatternReader Unit := do
  take
  skipGap

/-- The next character; there has to be one. -/
def expectAny : PatternReader Char := do
  match ← peek with
  | some c => return c
  | none => malformed

/-- Runs a reader under its own settings. -/
def withSettings {α : Type} (s : PatternSettings) (r : PatternReader α) : PatternReader α := do
  let outer := (← get).settings
  modify ({ · with settings := s })
  let a ← r
  modify ({ · with settings := outer })
  return a

end PatternReader
end RequestBinding
