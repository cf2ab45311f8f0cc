import RequestBinding.Decimal.Integer
import RequestBinding.Request.Http
import RequestBinding.Text.Blank
import RequestBinding.Text.Split

/-!
# Settings from the environment

Two variables of the environment bear on every service: the greatest body and whether formats count.
-/

namespace RequestBinding

/-- The environment: the text of each variable that is set. -/
abbrev Environment := String → Option String

structure RuntimeConfig where
  maxBodyOctets : Nat := 1048576
  validateFormats : Bool := true
deriving DecidableEq, Repr

namespace RuntimeConfig

/-- A size in decimal, or in hexadecimal after `0x`; blanks around it do not count. -/
def readSize? (text : String) : Option Nat :=
  let text := trimBlanks text
  match (stripStart? "0x" text).or (stripStart? "0X" text) with
  | some digits => (readNat 16 maxSize digits.toList).toOption
  | none => (readNat 10 maxSize text.toList).toOption

/-- What cannot be read counts as not set. -/
def ofEnvironment (env : Environment) : RuntimeConfig where
  maxBodyOctets := ((env "BRRTB_MAX_BODY_BYTES").bind readSize?).getD ({} : RuntimeConfig).maxBodyOctets
  validateFormats := ((env "BRRTB_SCHEMA_FORMATS").map fun v => !Http.sameName v "off").getD true

end RuntimeConfig
end RequestBinding
