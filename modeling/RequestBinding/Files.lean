import RequestBinding.Text.Split
import RequestBinding.Text.Utf8

/-!
# Files

What opening a path gives. `Files.ofList` is a working directory with the given files in it.
-/

namespace RequestBinding

/-- Why a path cannot be opened or read. -/
inductive FileFault where
  | notFound
  | notDirectory
  | isDirectory
  | nameTooLong
  | zeroOctet
  | notUtf8
  | other (text : String)
deriving DecidableEq, Repr

def FileFault.text : FileFault → String
  | notFound => "No such file or directory (os error 2)"
  | notDirectory => "Not a directory (os error 20)"
  | isDirectory => "Is a directory (os error 21)"
  | nameTooLong => "File name too long (os error 36)"
  | zeroOctet => "file name contained an unexpected NUL byte"
  | notUtf8 => "stream did not contain valid UTF-8"
  | other text => text

/-- What stands at a path. -/
inductive FileNode where
  | file (content : Octets)
  | directory
deriving DecidableEq, Repr

/-- What opening each path gives. -/
abbrev Files := String → Except FileFault FileNode

namespace Files

/-- The text of a file. -/
def readText (files : Files) (path : String) : Except FileFault String := do
  match ← files path with
  | .directory => .error .isDirectory
  | .file content =>
    match textOfUtf8? content with
    | some text => .ok text
    | none => .error .notUtf8

/-! ## Working directories -/

/-- The names of a path. -/
def parts (path : String) : List String := splitAt '/' path

/-- Whether a part of a path stays where it is. -/
def isHere (part : String) : Bool := part = "" || part = "."

/-- Where a walk along a path stands. -/
inductive Place where
  /-- In a directory below the working directory, by its names. -/
  | within (names : List String)
  /-- Above the working directory. -/
  | above
  | atFile (content : Octets)
deriving Repr

/-- One part further. A name of more than 255 octets cannot be looked up. -/
def step (files : List (List String × Octets)) (place : Place) (part : String) :
    Except FileFault Place :=
  match place with
  | .atFile _ => .error .notDirectory
  | .above =>
    if isHere part ∨ part = ".." then .ok .above else .error .notFound
  | .within names =>
    if isHere part then .ok place
    else if part = ".." then .ok (if names.isEmpty then .above else .within names.dropLast)
    else if 255 < part.utf8ByteSize then .error .nameTooLong
    else
      let target := names ++ [part]
      match files.lookup target with
      | some content => .ok (.atFile content)
      | none =>
        if files.any fun f => target.isPrefixOf f.1 then .ok (.within target) else .error .notFound

/-- The working directory that holds files under the given paths, and nothing above it but
directories. -/
def ofList (files : List (String × Octets)) : Files := fun path =>
  if path.toList.contains '\x00' then .error .zeroOctet
  else if path = "" then .error .notFound
  else if 4095 < path.utf8ByteSize then .error .nameTooLong
  else do
    let table := files.map fun (name, content) => ((parts name).filter (!isHere ·), content)
    let start : Place := if path.startsWith "/" then .above else .within []
    let place ← (parts path).foldlM (step table) start
    match place with
    | .atFile content => return .file content
    | _ => return .directory

end Files
end RequestBinding
