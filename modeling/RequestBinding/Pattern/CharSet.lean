import RequestBinding.Text.Blank
import RequestBinding.Text.CaseFolding
import RequestBinding.Text.Property
import RequestBinding.Text.Script

/-!
# Sets of characters

The sets that patterns match one character against, and the sets that have names.
-/

namespace RequestBinding

/-- A property that characters have or lack. -/
inductive CharProperty where
  | categories (gs : List GeneralCategory)
  | script (s : Script)
  | alphabetic
  | lowercase
  | uppercase
  | blank
  | word
  | joiner
deriving DecidableEq, Repr

namespace CharProperty

def holds (c : Char) : CharProperty → Bool
  | categories gs => gs.contains (GeneralCategory.ofChar c)
  | script s => s.table.contains c.toNat
  | alphabetic => isAlphabetic c
  | lowercase => GeneralCategory.lowercaseLetter.lists c.toNat || CodeTable.otherLowercase.contains c.toNat
  | uppercase => GeneralCategory.uppercaseLetter.lists c.toNat || CodeTable.otherUppercase.contains c.toNat
  | blank => isBlank c
  | word => isWordCharacter c
  | joiner => c.toNat = 0x200c || c.toNat = 0x200d

end CharProperty

inductive CharSet where
  | empty
  | range (first last : Char)
  | property (p : CharProperty)
  /-- The characters that differ from one of the set in case at most. -/
  | anyCase (a : CharSet)
  | union (a b : CharSet)
  | intersection (a b : CharSet)
  | complement (a : CharSet)
deriving DecidableEq, Repr

namespace CharSet

def contains : CharSet → Char → Bool
  | empty, _ => false
  | range first last, c => first ≤ c && c ≤ last
  | property p, c => p.holds c
  | anyCase a, c => (caseVariants c).any a.contains
  | union a b, c => a.contains c || b.contains c
  | intersection a b, c => a.contains c && b.contains c
  | complement a, c => !a.contains c

def single (c : Char) : CharSet := range c c

def full : CharSet := complement empty

def ofList (sets : List CharSet) : CharSet := sets.foldl union empty

/-- The set, or its complement. -/
def negatedIf (negated : Bool) (a : CharSet) : CharSet := if negated then complement a else a

/-- What is in one set and not in the other. -/
def difference (a b : CharSet) : CharSet := intersection a (complement b)

/-- What is in exactly one of two sets. -/
def symmetricDifference (a b : CharSet) : CharSet := union (difference a b) (difference b a)

def lineFeed : CharSet := single '\n'

/-- Hexadecimal digits. -/
def hexDigits : CharSet := ofList [range '0' '9', range 'A' 'F', range 'a' 'f']

/-! ## Class letters -/

/-- The set of a class letter: digits, word characters or blanks, or what is none of these. -/
def ofClassLetter? : Char → Option CharSet
  | 'd' => some (property (.categories [.decimalNumber]))
  | 'D' => some (complement (property (.categories [.decimalNumber])))
  | 'w' => some (property .word)
  | 'W' => some (complement (property .word))
  | 's' => some (property .blank)
  | 'S' => some (complement (property .blank))
  | _ => none

/-! ## Named sets -/

/-- The sets of ASCII characters that can be named inside a class. -/
def asciiClass? : String → Option CharSet
  | "alnum" => some (ofList [range '0' '9', range 'A' 'Z', range 'a' 'z'])
  | "alpha" => some (ofList [range 'A' 'Z', range 'a' 'z'])
  | "ascii" => some (range (Char.ofNat 0) (Char.ofNat 0x7f))
  | "blank" => some (ofList [single '\t', single ' '])
  | "cntrl" => some (ofList [range (Char.ofNat 0) (Char.ofNat 0x1f), single (Char.ofNat 0x7f)])
  | "digit" => some (range '0' '9')
  | "graph" => some (range '!' '~')
  | "lower" => some (range 'a' 'z')
  | "print" => some (range ' ' '~')
  | "punct" => some (ofList [range '!' '/', range ':' '@', range '[' (Char.ofNat 0x60),
      range '\x7b' '~'])
  | "space" => some (ofList [range '\t' '\r', single ' '])
  | "upper" => some (range 'A' 'Z')
  | "word" => some (ofList [range '0' '9', range 'A' 'Z', single '_', range 'a' 'z'])
  | "xdigit" => some hexDigits
  | _ => none

/-- The form of a property's name that decides: lower case, without blanks, hyphens, underscores and a
leading `is`. -/
def looseName (name : String) : String :=
  let cs := (name.toList.filter fun c => c ≠ ' ' && c ≠ '_' && c ≠ '-').map Char.toLower
  match cs with
  | ['i', 's', 'c'] => "isc"
  | 'i' :: 's' :: rest => String.ofList rest
  | cs => String.ofList cs

/-- Whether a loose name is one of some names. -/
def isNamed (loose : String) (names : List String) : Bool := names.any (looseName · = loose)

/-- The groups of categories that have names. -/
def categoryGroups : List (List String × List GeneralCategory) :=
  [(["L", "Letter"], GeneralCategory.letters), (["LC", "Cased_Letter"], GeneralCategory.casedLetters),
    (["M", "Mark", "Combining_Mark"], GeneralCategory.marks),
    (["N", "Number"], GeneralCategory.numbers),
    (["P", "Punctuation", "punct"], GeneralCategory.punctuation),
    (["S", "Symbol"], GeneralCategory.symbols), (["Z", "Separator"], GeneralCategory.separators),
    (["C", "Other"], GeneralCategory.others), (["digit"], [.decimalNumber]), (["cntrl"], [.control])]

/-- The set of the characters of a general category, or of a group of categories. -/
def ofCategory? (name : String) : Option CharSet :=
  let loose := looseName name
  if loose = "any" then some full
  else if loose = "assigned" then some (complement (property (.categories [.unassigned])))
  else if loose = "ascii" then some (range (Char.ofNat 0) (Char.ofNat 0x7f))
  else
    match GeneralCategory.all.find? fun g => isNamed loose [g.names.1, g.names.2] with
    | some g => some (property (.categories [g]))
    | none =>
      (categoryGroups.find? fun (names, _) => isNamed loose names).map fun (_, gs) =>
        property (.categories gs)

def ofScript? (name : String) : Option CharSet :=
  (Script.all.find? fun s => isNamed (looseName name) [s.names.1, s.names.2]).map fun s =>
    property (.script s)

/-- The properties other than categories and scripts that have names. -/
def properties : List (List String × CharSet) :=
  [(["Alphabetic", "Alpha"], property .alphabetic), (["Lowercase", "Lower"], property .lowercase),
    (["Uppercase", "Upper"], property .uppercase),
    (["White_Space", "WSpace", "space"], property .blank),
    (["Join_Control", "Join_C"], property .joiner),
    (["ASCII_Hex_Digit", "AHex"], hexDigits)]

/-- The set of a property's name. -/
def ofName? (name : String) : Option CharSet :=
  match properties.find? fun (names, _) => isNamed (looseName name) names with
  | some (_, s) => some s
  | none => (ofCategory? name).or (ofScript? name)

/-- The set of the characters whose property has a value. -/
def ofNameAndValue? (name value : String) : Option CharSet :=
  let loose := looseName name
  if isNamed loose ["gc", "General_Category"] then ofCategory? value
  else if isNamed loose ["sc", "Script"] then ofScript? value
  else none

end CharSet
end RequestBinding
