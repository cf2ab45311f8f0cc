import RequestBinding.Decimal.Power
import RequestBinding.Text.Blank

/-!
# Request ids

A request id has 128 bits and is written with 26 characters of the Crockford alphabet, five bits each.
The first character has two bits to spare; they are dropped when a text is read.
-/

namespace RequestBinding

structure Ulid where
  bits : Nat
deriving DecidableEq, Repr, Inhabited

inductive UlidFault where
  | invalidLength
  | invalidCharacter
deriving DecidableEq, Repr

def UlidFault.text : UlidFault → String
  | invalidLength => "invalid length"
  | invalidCharacter => "invalid character"

namespace Ulid

/-- The digits of the alphabet, which leaves out I, L, O and U. -/
def alphabet : List Char := "0123456789ABCDEFGHJKMNPQRSTVWXYZ".toList

def length : Nat := 26

/-- The value of a character, in either letter case. -/
def digit? (c : Char) : Option Nat := alphabet.findIdx? (· = c.toUpper)

/-- Appends five bits, keeping the low 128. -/
def push (n d : Nat) : Nat := (n * 32 + d) % twoTo 128

def readFrom (n : Nat) : List Char → Except UlidFault Nat
  | [] => .ok n
  | c :: cs =>
    match digit? c with
    | some d => readFrom (push n d) cs
    | none => .error .invalidCharacter

/-- Reads the written form. -/
def read (text : String) : Except UlidFault Ulid :=
  if text.utf8ByteSize = length then (readFrom 0 text.toList).map Ulid.mk
  else .error .invalidLength

/-- The last `k` characters of the written form. -/
def digits (bits : Nat) : Nat → List Char → List Char
  | 0, cs => cs
  | k + 1, cs => digits (bits / 32) k ((alphabet[bits % 32]?).getD '0' :: cs)

/-- The written form, in upper case. -/
def text (u : Ulid) : String := String.ofList (digits u.bits length [])

/-- The id that a header value carries between blanks, or the fresh one. -/
def ofHeader (fresh : Ulid) : Option String → Ulid
  | none => fresh
  | some value =>
    match read (trimBlanks value) with
    | .ok u => u
    | .error _ => fresh

end Ulid

/-- Name of the header that carries a caller's request id. -/
def requestIdHeader : String := "x-request-id"

end RequestBinding
