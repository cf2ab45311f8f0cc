import RequestBinding.Json.Reader

/-!
# Stepping over JSON values

A value that nobody asks for is stepped over without limits on its depth, its numbers and its escapes.
-/

namespace RequestBinding
namespace JsonReader

/-- Steps over digits. -/
def skipDigits : JsonReader Unit := do
  let run := (← get).rest.takeWhile isDigit
  modify (Cursor.advanceBy run.length)

/-- Steps over one octet that has to be a digit. -/
def skipDigit : JsonReader Unit := do
  match ← peek with
  | none => fail .invalidNumber
  | some b =>
    skip
    if isDigit b then pure () else fail .invalidNumber

def skipExponent : JsonReader Unit := do
  skip
  match ← peek with
  | some 0x2b | some 0x2d => skip
  | _ => pure ()
  skipDigit
  skipDigits

def skipFraction : JsonReader Unit := do
  skip
  match ← peek with
  | some b =>
    if isDigit b then
      skipDigits
      match ← peek with
      | some 0x65 | some 0x45 => skipExponent
      | _ => pure ()
    else failAhead .invalidNumber
  | none => failAhead .invalidNumber

/-- Steps over a number after its sign. -/
def skipNumber : JsonReader Unit := do
  let first ← peek
  skipDigit
  if first = some 0x30 then
    if (← peek).any isDigit then failAhead .invalidNumber
  else skipDigits
  match ← peek with
  | some 0x2e => skipFraction
  | some 0x65 | some 0x45 => skipExponent
  | _ => pure ()

/-- Steps over an escape after its backslash. -/
def skipEscape : JsonReader Unit := do
  match ← peek with
  | none => fail .endInString
  | some b =>
    skip
    if b = 0x75 then let _ ← hexEscape
    else if [0x22, 0x5c, 0x2f, 0x62, 0x66, 0x6e, 0x72, 0x74].contains b then pure ()
    else fail .invalidEscape

/-- Steps over the rest of a string. -/
def skipString : (fuel : Nat) → JsonReader Unit
  | 0 => fail .endInString
  | fuel + 1 => do
    match ← peek with
    | none => fail .endInString
    | some b =>
      if b = 0x22 then skip
      else if b = 0x5c then
        skip
        skipEscape
        skipString fuel
      else if b < 0x20 then fail .controlCharacter
      else
        skip
        skipString fuel

/-- Steps over an object's name and its colon. -/
def skipName : JsonReader Unit := do
  match ← peekToken with
  | some 0x22 =>
    skip
    skipString ((← get).rest.length + 1)
    colon
  | some _ => failAhead .keyNotString
  | none => failAhead .endInObject

/-- Steps over closing brackets and the comma after them; gives the brackets that stay open. `after`
tells whether a value stands before. -/
def skipClosings : (fuel : Nat) → (after : Bool) → List UInt8 → JsonReader (List UInt8)
  | 0, _, _ => return []
  | _, _, [] => return []
  | fuel + 1, after, frame :: frames => do
    match ← peekToken with
    | none => failAhead (if frame = 0x5b then .endInList else .endInObject)
    | some b =>
      if b = 0x2c ∧ after then
        skip
        return frame :: frames
      else if b = frame + 2 then
        skip
        skipClosings fuel true frames
      else if after then
        failAhead (if frame = 0x5b then .expectedCommaOrBracket else .expectedCommaOrBrace)
      else return frame :: frames

/-- Steps over a value inside the brackets `frames`, and then over what closes them. -/
def skipValue : (fuel : Nat) → (frames : List UInt8) → JsonReader Unit
  | 0, _ => pure ()
  | fuel + 1, frames => do
    let opened ← match ← peekToken with
      | none => failAhead .endInValue
      | some 0x6e => skip; word [0x75, 0x6c, 0x6c]; pure none
      | some 0x74 => skip; word [0x72, 0x75, 0x65]; pure none
      | some 0x66 => skip; word [0x61, 0x6c, 0x73, 0x65]; pure none
      | some 0x2d => skip; skipNumber; pure none
      | some 0x22 => skip; skipString ((← get).rest.length + 1); pure none
      | some 0x5b => skip; pure (some 0x5b)
      | some 0x7b => skip; pure (some 0x7b)
      | some b =>
        if isDigit b then
          skipNumber
          pure none
        else failAhead .expectedValue
    let open_ ← skipClosings ((← get).rest.length + 1) opened.isNone (opened.toList ++ frames)
    match open_ with
    | [] => pure ()
    | frame :: _ =>
      if frame = 0x7b then skipName
      skipValue fuel open_

/-- Steps over one value. -/
def ignore : JsonReader Unit := do skipValue ((← get).rest.length + 1) []

end JsonReader
end RequestBinding
