import RequestBinding.Pattern.CharSet

/-!
# Patterns

A pattern is a regular expression over characters, with look-around and recalled groups.
`Pattern.occursIn` tells whether some part of a text matches it. The matches that start at a place are
found as the list of the states in which they end, preferred ones first, none of them twice.
-/

namespace RequestBinding

/-- What can be asked of a place in a text. -/
inductive Anchor where
  | textStart
  | textEnd
  /-- At the end, or where only line feeds follow. -/
  | textEndButLines
  | lineStart
  | lineEnd
  /-- Between a word character and another one, or not so. -/
  | wordEdge (isEdge : Bool)
  | wordStart
  | wordEnd
  /-- After something other than a word character. -/
  | wordStartHalf
  /-- Before something other than a word character. -/
  | wordEndHalf
deriving DecidableEq, Repr

inductive Pattern where
  | empty
  | set (s : CharSet)
  | anchor (a : Anchor)
  | sequence (a b : Pattern)
  | either (a b : Pattern)
  /-- At least `least` times, and at most `most` times if that is given; a greedy one prefers more. -/
  | times (a : Pattern) (least : Nat) (most : Option Nat) (greedy : Bool)
  /-- Remembers under a number what `a` matched. -/
  | group (number : Nat) (a : Pattern)
  /-- What a group matched, once more. -/
  | sameAs (number : Nat) (anyCase : Bool)
  /-- What follows matches, or does not. -/
  | ahead (a : Pattern) (matched : Bool)
  /-- What comes before matches, or does not. -/
  | behind (a : Pattern) (matched : Bool)
  /-- Only the preferred match of `a`. -/
  | firstOnly (a : Pattern)
deriving DecidableEq, Repr

/-- A place in a text, and first and last place of what the groups matched. -/
structure MatchState where
  place : Nat
  groups : List (Nat × Nat × Nat) := []
deriving DecidableEq, Repr

namespace MatchState

/-- Remembers what a group matched; it forgets what the group matched before. -/
def remember (s : MatchState) (number first : Nat) : MatchState :=
  { s with groups := (number, first, s.place) :: s.groups.filter (·.1 ≠ number) }

end MatchState

namespace Pattern

def isWordAt (text : Array Char) (i : Nat) : Bool := (text[i]?).any isWordCharacter

/-- Whether a word character stands before a place. -/
def isWordBefore (text : Array Char) (i : Nat) : Bool := i ≠ 0 && isWordAt text (i - 1)

end Pattern

/-- Whether a place of a text is as an anchor asks. -/
def Anchor.holds (text : Array Char) (i : Nat) : Anchor → Bool
  | textStart => i = 0
  | textEnd => i = text.size
  | textEndButLines => (text.toList.drop i).all (· = '\n')
  | lineStart => i = 0 || text[i - 1]? = some '\n'
  | lineEnd => i = text.size || text[i]? = some '\n'
  | wordEdge isEdge => (Pattern.isWordBefore text i != Pattern.isWordAt text i) = isEdge
  | wordStart => !Pattern.isWordBefore text i && Pattern.isWordAt text i
  | wordEnd => Pattern.isWordBefore text i && !Pattern.isWordAt text i
  | wordStartHalf => !Pattern.isWordBefore text i
  | wordEndHalf => !Pattern.isWordAt text i

namespace Pattern

/-- The states seen so far, each with a count, by their places. -/
abbrev Seen := Array (List (List (Nat × Nat × Nat) × Nat))

namespace Seen

/-- Nothing seen of a text. -/
def none_ (text : Array Char) : Seen := Array.replicate (text.size + 1) []

def has (seen : Seen) (s : MatchState) (count : Nat) : Bool :=
  (seen[s.place]?).any (·.contains (s.groups, count))

def add (seen : Seen) (s : MatchState) (count : Nat) : Seen :=
  seen.modify s.place ((s.groups, count) :: ·)

end Seen

/-- The states that were not seen before, without repetitions. -/
def unseen : Seen → List MatchState → List MatchState
  | _, [] => []
  | seen, s :: rest => if seen.has s 0 then unseen seen rest else s :: unseen (seen.add s 0) rest

/-- The states without repetitions. -/
def distinct (text : Array Char) : List MatchState → List MatchState
  | [] => []
  | [s] => [s]
  | states => unseen (Seen.none_ text) states

/-- What is still to be done in a repetition: go on from a state after so many rounds, or take the
state as an end. -/
inductive Round where
  | visit (s : MatchState) (done : Nat)
  | finish (s : MatchState)

/-- The ends of a repetition. Rounds count up to `most`, or up to `least` if there is no such bound; a
state is gone on from once for each count, and not after an empty round that was not needed. -/
def rounds (step : MatchState → List MatchState) (least : Nat) (most : Option Nat) (greedy : Bool) :
    (fuel : Nat) → List Round → Seen → List MatchState
  | 0, _, _ => []
  | _, [], _ => []
  | fuel + 1, .finish s :: rest, seen => s :: rounds step least most greedy fuel rest seen
  | fuel + 1, .visit s done :: rest, seen =>
    if seen.has s done then rounds step least most greedy fuel rest seen
    else
      let again := most.all (done < ·)
      let next := if most.isSome then done + 1 else min (done + 1) least
      let further := if again then
          (step s).filterMap fun t =>
            if least ≤ done ∧ t.place = s.place then none else some (.visit t next)
        else []
      let ending := if least ≤ done then [.finish s] else []
      let todo := if greedy then further ++ ending else ending ++ further
      rounds step least most greedy fuel (todo ++ rest) (seen.add s done)

/-- The ends of a repetition from a state. The fuel covers every count at every place, each reached
from every other. -/
def repeated (text : Array Char) (step : MatchState → List MatchState) (least : Nat)
    (most : Option Nat) (greedy : Bool) (s : MatchState) : List MatchState :=
  let states := (text.size + 1) * (most.getD least + 1)
  distinct text
    (rounds step least most greedy ((states + 1) * (states + 2)) [.visit s 0] (Seen.none_ text))

/-- What a group matched, if it has matched. -/
def recalled? (text : Array Char) (s : MatchState) (number : Nat) : Option (List Char) :=
  (s.groups.lookup number).map fun (first, last) => (text.toList.take last).drop first

/-- Whether the characters from place `i` on are the given ones. -/
def standsAt (text : Array Char) (i : Nat) (anyCase : Bool) (cs : List Char) : Bool :=
  let found := (text.toList.drop i).take cs.length
  if anyCase then found.map (foldedCode ·.toNat) = cs.map (foldedCode ·.toNat) else found = cs

/-- The states in which the matches end that start in a state. -/
def ends (text : Array Char) : Pattern → MatchState → List MatchState
  | empty, s => [s]
  | set chars, s =>
    if (text[s.place]?).any chars.contains then [{ s with place := s.place + 1 }] else []
  | anchor a, s => if a.holds text s.place then [s] else []
  | sequence a b, s => distinct text ((ends text a s).flatMap (ends text b))
  | either a b, s => distinct text (ends text a s ++ ends text b s)
  | times a least most greedy, s => repeated text (ends text a) least most greedy s
  | group number a, s => (ends text a s).map (·.remember number s.place)
  | sameAs number anyCase, s =>
    match recalled? text s number with
    | some cs =>
      if standsAt text s.place anyCase cs then [{ s with place := s.place + cs.length }] else []
    | none => []
  | ahead a matched, s =>
    match ends text a s with
    | [] => if matched then [] else [s]
    | t :: _ => if matched then [{ t with place := s.place }] else []
  | behind a matched, s =>
    let starts := (List.range (s.place + 1)).reverse
    let found := starts.flatMap fun i =>
      (ends text a { s with place := i }).filter (·.place = s.place)
    match found with
    | [] => if matched then [] else [s]
    | t :: _ => if matched then [t] else []
  | firstOnly a, s => (ends text a s).take 1

/-- Whether a part of the text matches. -/
def occursIn (p : Pattern) (text : String) : Bool :=
  let chars := text.toList.toArray
  (List.range (chars.size + 1)).any fun i => !(ends chars p { place := i }).isEmpty

/-- The groups that are recalled somewhere in a pattern. -/
def recalls : Pattern → List Nat
  | sameAs number _ => [number]
  | sequence a b | either a b => recalls a ++ recalls b
  | times a _ _ _ | group _ a | ahead a _ | behind a _ | firstOnly a => recalls a
  | _ => []

/-- A pattern that remembers only the groups of a list. -/
def remembering (numbers : List Nat) : Pattern → Pattern
  | group number a =>
    if numbers.contains number then group number (remembering numbers a) else remembering numbers a
  | sequence a b => sequence (remembering numbers a) (remembering numbers b)
  | either a b => either (remembering numbers a) (remembering numbers b)
  | times a least most greedy => times (remembering numbers a) least most greedy
  | ahead a matched => ahead (remembering numbers a) matched
  | behind a matched => behind (remembering numbers a) matched
  | firstOnly a => firstOnly (remembering numbers a)
  | p => p

/-- A pattern without the groups that nothing recalls, which match the same texts. -/
def trimmed (p : Pattern) : Pattern := p.remembering p.recalls

end Pattern
end RequestBinding
