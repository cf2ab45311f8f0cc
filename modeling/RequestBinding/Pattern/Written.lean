import RequestBinding.Pattern.Reader

/-!
# Written patterns

A text is a regular expression if the strict grammar has it, or would but for look-around and recalled
groups. Its class letters are those of ASCII and of a fixed list of blanks, and it is shown with these
spelled out; beyond the strict grammar it is shown as it is, and class letters have their wide sense.
-/

namespace RequestBinding

structure WrittenPattern where
  /-- The text that violations show. -/
  shown : String
  pattern : Pattern
deriving DecidableEq, Repr

namespace Pattern

/-- Whether a text is a regular expression. -/
def isExpression (text : String) : Bool := (spelledOut? (text.length + 1) text.toList).isSome

end Pattern

namespace WrittenPattern

/-- White space and the zero width no-break space, but not the next line control. -/
def blanks : CharSet :=
  .union (.difference (.property .blank) (.single (Char.ofNat 0x85))) (.single (Char.ofNat 0xfeff))

/-- Nothing but characters that are no blanks, which has a form of its own. -/
def blankless : WrittenPattern where
  shown := "^\\S*$"
  pattern :=
    .sequence (.sequence (.anchor .textStart) (.times (.set (.complement blanks)) 0 none true))
      (.anchor .textEnd)

/-- The pattern that a text writes. -/
def read? (text : String) : Option WrittenPattern :=
  if text = blankless.shown then some blankless
  else do
    let spelled ← Pattern.spelledOut? (text.length + 1) text.toList
    return ⟨String.ofList spelled, ← Pattern.read? spelled⟩

end WrittenPattern
end RequestBinding
