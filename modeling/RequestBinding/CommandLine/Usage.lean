import RequestBinding.Decimal.Integer
import RequestBinding.Text.Split

/-!
# Command lines

A command line names a command and gives options to it. `Command.read` reads the words of a command
line; what is not a command is answered with help or an error.

An option whose value stands in a word of its own is settled only when the next option or the end
comes.
-/

namespace RequestBinding

/-- What a command line that is no command is answered with. -/
inductive UsageAnswer where
  | help
  | helpForNothing
  | missingArgument
  | unknownCommand
  | missingValue
  | excessValue
  | unknownArgument
  | repeatedOption
  | invalidValue
deriving DecidableEq, Repr

namespace UsageAnswer

def kind : UsageAnswer → String
  | help => "DisplayHelp"
  | helpForNothing => "DisplayHelpOnMissingArgumentOrSubcommand"
  | missingArgument => "MissingRequiredArgument"
  | unknownCommand => "InvalidSubcommand"
  | missingValue => "InvalidValue"
  | excessValue => "TooManyValues"
  | unknownArgument => "UnknownArgument"
  | repeatedOption => "ArgumentConflict"
  | invalidValue => "ValueValidation"

/-- Only help that was asked for is a success. -/
def exitCode : UsageAnswer → Nat
  | help => 0
  | _ => 2

end UsageAnswer

/-- The options of the commands. -/
inductive CommandOption where
  | manifest
  | operation
  | path
  | query
  | header
  | body
  | maxBodyOctets
deriving DecidableEq, Repr

namespace CommandOption

def all : List CommandOption := [manifest, operation, path, query, header, body, maxBodyOctets]

def name : CommandOption → String
  | manifest => "manifest"
  | operation => "operation"
  | path => "path"
  | query => "query"
  | header => "header"
  | body => "body"
  | maxBodyOctets => "max-body-bytes"

/-- The name of one letter. -/
def letter? : CommandOption → Option Char
  | manifest => some 'm'
  | operation => some 'o'
  | query => some 'q'
  | header => some 'H'
  | body => some 'b'
  | path | maxBodyOctets => none

def isRepeatable : CommandOption → Bool
  | path | header => true
  | _ => false

/-- Checks a value: names of files are not empty, and a limit is a size. -/
def check (o : CommandOption) (value : String) : Except UsageAnswer Unit :=
  match o with
  | manifest | body => if value = "" then .error .missingValue else .ok ()
  | maxBodyOctets =>
    if (readNat 10 maxSize value.toList).toOption.isSome then .ok () else .error .invalidValue
  | _ => .ok ()

end CommandOption

/-- What the options of one command give, in the order of the command line. -/
abbrev OptionValues := List (CommandOption × String)

namespace OptionValues

def all (vs : OptionValues) (o : CommandOption) : List String :=
  (vs.filter (·.1 = o)).map Prod.snd

def first? (vs : OptionValues) (o : CommandOption) : Option String := vs.lookup o

/-- Takes in the value of an option; an option that is not repeatable is given once. -/
def put (vs : OptionValues) (o : CommandOption) (value : Option String) :
    Except UsageAnswer OptionValues := do
  let some value := value | .error .missingValue
  if !o.isRepeatable ∧ (vs.first? o).isSome then .error .repeatedOption
  o.check value
  return vs ++ [(o, value)]

end OptionValues

/-- An option that stands on the command line. -/
inductive Flag where
  | help
  | option (o : CommandOption)

/-- What one word of a command line is. -/
inductive CommandWord where
  /-- The mark after which nothing is an option. -/
  | mark
  /-- An option, with a value if one is attached. -/
  | flag (f : Flag) (attached : Option String)
  /-- What looks like an option and is none. -/
  | unknownFlag
  | plain (text : String)

namespace CommandWord

/-- The option of a long name. -/
def long? (known : List CommandOption) (name : String) : Option Flag :=
  if name = "help" then some .help else (known.find? (·.name = name)).map .option

def short? (known : List CommandOption) (c : Char) : Option Flag :=
  if c = 'h' then some .help else (known.find? (·.letter? = some c)).map .option

/-- The value that follows a letter in its word, perhaps after an equals sign. -/
def attachedToLetter : List Char → Option String
  | [] => none
  | '=' :: cs => some (String.ofList cs)
  | cs => some (String.ofList cs)

/-- Reads a word where the given options are known. -/
def read (known : List CommandOption) (word : String) : CommandWord :=
  match word.toList with
  | ['-', '-'] => mark
  | '-' :: '-' :: cs =>
    let text := String.ofList cs
    let (name, attached) := match cutAt? '=' text with
      | some (name, value) => (name, some value)
      | none => (text, none)
    (long? known name).elim unknownFlag fun f => flag f attached
  | '-' :: c :: cs => (short? known c).elim unknownFlag fun f => flag f (attachedToLetter cs)
  | _ => plain word

end CommandWord

/-- How far the options of a command have been read. -/
structure OptionReader where
  values : OptionValues := []
  /-- The last option, and its value if it has come, while it is not settled. -/
  pending : Option (CommandOption × Option String) := none

namespace OptionReader

/-- Settles the last option. -/
def settle (r : OptionReader) : Except UsageAnswer OptionValues :=
  match r.pending with
  | none => .ok r.values
  | some (o, value) => r.values.put o value

/-- Reads one word and goes on with the others by `rest`. -/
def step (known : List CommandOption) (r : OptionReader) (word : String) :
    Except UsageAnswer OptionReader :=
  match CommandWord.read known word with
  | .mark => .ok r
  | .unknownFlag => .error .unknownArgument
  | .flag .help attached => do
    if word.startsWith "--" ∧ attached.isSome then .error .excessValue
    let _ ← r.settle
    .error .help
  | .flag (.option o) (some value) => do return { values := ← (← r.settle).put o (some value) }
  | .flag (.option o) none => do return { values := ← r.settle, pending := some (o, none) }
  | .plain value =>
    match r.pending with
    | some (o, none) => .ok { r with pending := some (o, some value) }
    | _ => .error .unknownArgument

/-- Reads the words of a command; after the mark there is nothing that a command takes. -/
def readAll (known : List CommandOption) (r : OptionReader) :
    List String → Except UsageAnswer OptionValues
  | [] => r.settle
  | word :: rest =>
    match CommandWord.read known word with
    | .mark => if rest.isEmpty then r.settle else .error .unknownArgument
    | _ => do readAll known (← step known r word) rest

end OptionReader

/-- The request that a command line describes. -/
structure BindCommand where
  manifest : String
  operation : String
  pathParams : List String := []
  query : Option String := none
  headers : List String := []
  body : Option String := none
  maxBodyOctets : Option Nat := none
deriving DecidableEq, Repr

inductive Command where
  | check (manifest : String)
  | bind (c : BindCommand)
deriving DecidableEq, Repr

namespace Command

/-- The options of the command that checks a manifest. -/
def readCheck (words : List String) : Except UsageAnswer Command := do
  let vs ← OptionReader.readAll [.manifest] {} words
  let some manifest := vs.first? .manifest | .error .missingArgument
  return check manifest

def readBind (words : List String) : Except UsageAnswer Command := do
  let vs ← OptionReader.readAll CommandOption.all {} words
  let some manifest := vs.first? .manifest | .error .missingArgument
  let some operation := vs.first? .operation | .error .missingArgument
  return bind {
    manifest, operation
    pathParams := vs.all .path
    query := vs.first? .query
    headers := vs.all .header
    body := vs.first? .body
    maxBodyOctets := (vs.first? .maxBodyOctets).bind fun v =>
      (readNat 10 maxSize v.toList).toOption }

/-- The words that name commands. -/
def names : List String := ["check", "bind", "help"]

/-- Help for a command, which has no commands below it. -/
def readHelp : List String → UsageAnswer
  | [] => .help
  | [name] => if names.contains name then .help else .unknownCommand
  | _ => .unknownCommand

/-- The words after the mark: a command's name cannot stand there. -/
def afterMark : List String → UsageAnswer
  | [] => .helpForNothing
  | word :: _ => if names.contains word then .unknownArgument else .unknownCommand

/-- Reads the words of a command line. -/
def read : List String → Except UsageAnswer Command
  | [] => .error .helpForNothing
  | "check" :: words => readCheck words
  | "bind" :: words => readBind words
  | "help" :: words => .error (readHelp words)
  | word :: words =>
    match CommandWord.read [] word with
    | .mark => .error (afterMark words)
    | .flag .help attached =>
      .error (if word.startsWith "--" ∧ attached.isSome then .excessValue else .help)
    | .flag .. | .unknownFlag => .error .unknownArgument
    | .plain _ => .error .unknownCommand

end Command
end RequestBinding
