import RequestBinding.Text.Category.Invisible
import RequestBinding.Text.Category.Letters
import RequestBinding.Text.Category.Marks
import RequestBinding.Text.Category.Signs

/-!
# General categories

Each character has one general category. A code point that no table lists is unassigned.
-/

namespace RequestBinding

inductive GeneralCategory where
  | uppercaseLetter
  | lowercaseLetter
  | titlecaseLetter
  | modifierLetter
  | otherLetter
  | nonspacingMark
  | spacingMark
  | enclosingMark
  | decimalNumber
  | letterNumber
  | otherNumber
  | connectorPunctuation
  | dashPunctuation
  | openPunctuation
  | closePunctuation
  | initialPunctuation
  | finalPunctuation
  | otherPunctuation
  | mathSymbol
  | currencySymbol
  | modifierSymbol
  | otherSymbol
  | spaceSeparator
  | lineSeparator
  | paragraphSeparator
  | control
  | format
  | surrogate
  | privateUse
  | unassigned
deriving DecidableEq, Repr

namespace GeneralCategory

def letters : List GeneralCategory :=
  [uppercaseLetter, lowercaseLetter, titlecaseLetter, modifierLetter, otherLetter]

def casedLetters : List GeneralCategory := [uppercaseLetter, lowercaseLetter, titlecaseLetter]

def marks : List GeneralCategory := [nonspacingMark, spacingMark, enclosingMark]

def numbers : List GeneralCategory := [decimalNumber, letterNumber, otherNumber]

def punctuation : List GeneralCategory :=
  [connectorPunctuation, dashPunctuation, openPunctuation, closePunctuation, initialPunctuation,
    finalPunctuation, otherPunctuation]

def symbols : List GeneralCategory := [mathSymbol, currencySymbol, modifierSymbol, otherSymbol]

def separators : List GeneralCategory := [spaceSeparator, lineSeparator, paragraphSeparator]

def others : List GeneralCategory := [control, format, surrogate, privateUse, unassigned]

def all : List GeneralCategory :=
  letters ++ marks ++ numbers ++ punctuation ++ symbols ++ separators ++ others

/-- The listed code points of a category. -/
def table : GeneralCategory → CodeTable
  | uppercaseLetter => .uppercaseLetters
  | lowercaseLetter => .lowercaseLetters
  | titlecaseLetter => .titlecaseLetters
  | modifierLetter => .modifierLetters
  | otherLetter => .otherLetters
  | nonspacingMark => .nonspacingMarks
  | spacingMark => .spacingMarks
  | enclosingMark => .enclosingMarks
  | decimalNumber => .decimalDigits
  | letterNumber => .letterNumbers
  | otherNumber => .otherNumbers
  | connectorPunctuation => .connectorPunctuation
  | dashPunctuation => .dashPunctuation
  | openPunctuation => .openPunctuation
  | closePunctuation => .closePunctuation
  | initialPunctuation => .initialPunctuation
  | finalPunctuation => .finalPunctuation
  | otherPunctuation => .otherPunctuation
  | mathSymbol => .mathSymbols
  | currencySymbol => .currencySymbols
  | modifierSymbol => .modifierSymbols
  | otherSymbol => .otherSymbols
  | spaceSeparator => .spaceSeparators
  | lineSeparator => .lineSeparators
  | paragraphSeparator => .paragraphSeparators
  | control => .controls
  | format => .formatCharacters
  | surrogate => .surrogates
  | privateUse => .privateUse
  | unassigned => #[]

/-- Whether a table lists the code point under the category. -/
def lists (g : GeneralCategory) (n : Nat) : Bool := g.table.contains n

/-- The category of a character. -/
def ofChar (c : Char) : GeneralCategory := (all.find? (·.lists c.toNat)).getD unassigned

/-- Short and long name of a category. -/
def names : GeneralCategory → String × String
  | uppercaseLetter => ("Lu", "Uppercase_Letter")
  | lowercaseLetter => ("Ll", "Lowercase_Letter")
  | titlecaseLetter => ("Lt", "Titlecase_Letter")
  | modifierLetter => ("Lm", "Modifier_Letter")
  | otherLetter => ("Lo", "Other_Letter")
  | nonspacingMark => ("Mn", "Nonspacing_Mark")
  | spacingMark => ("Mc", "Spacing_Mark")
  | enclosingMark => ("Me", "Enclosing_Mark")
  | decimalNumber => ("Nd", "Decimal_Number")
  | letterNumber => ("Nl", "Letter_Number")
  | otherNumber => ("No", "Other_Number")
  | connectorPunctuation => ("Pc", "Connector_Punctuation")
  | dashPunctuation => ("Pd", "Dash_Punctuation")
  | openPunctuation => ("Ps", "Open_Punctuation")
  | closePunctuation => ("Pe", "Close_Punctuation")
  | initialPunctuation => ("Pi", "Initial_Punctuation")
  | finalPunctuation => ("Pf", "Final_Punctuation")
  | otherPunctuation => ("Po", "Other_Punctuation")
  | mathSymbol => ("Sm", "Math_Symbol")
  | currencySymbol => ("Sc", "Currency_Symbol")
  | modifierSymbol => ("Sk", "Modifier_Symbol")
  | otherSymbol => ("So", "Other_Symbol")
  | spaceSeparator => ("Zs", "Space_Separator")
  | lineSeparator => ("Zl", "Line_Separator")
  | paragraphSeparator => ("Zp", "Paragraph_Separator")
  | control => ("Cc", "Control")
  | format => ("Cf", "Format")
  | surrogate => ("Cs", "Surrogate")
  | privateUse => ("Co", "Private_Use")
  | unassigned => ("Cn", "Unassigned")

end GeneralCategory
end RequestBinding
