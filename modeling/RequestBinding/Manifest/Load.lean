import RequestBinding.Files
import RequestBinding.Manifest.Build
import RequestBinding.Manifest.JsonForm
import RequestBinding.Manifest.YamlForm

/-!
# Loading manifests

A manifest is read from a file in the format that the file's name tells, and built.
-/

namespace RequestBinding

inductive DocumentFormat where
  | yaml
  | json
deriving DecidableEq, Repr

namespace DocumentFormat

def title : DocumentFormat → String
  | yaml => "Yaml"
  | json => "Json"

/-- The last name of a path; steps that stay in place do not count, and a step up is no name. -/
def fileName? (path : String) : Option String :=
  ((Files.parts path).filter (!Files.isHere ·)).getLast?.filter (· ≠ "..")

/-- What follows the last dot of a name, if anything stands before that dot. -/
def extension? (name : String) : Option String :=
  let pieces := splitAt '.' name
  if ".".intercalate pieces.dropLast = "" then none else pieces.getLast?

/-- The format of a file, JSON only by its extension. -/
def ofPath (path : String) : DocumentFormat :=
  if ((fileName? path).bind extension?).any (Http.sameName "json") then json else yaml

end DocumentFormat

/-- Why a manifest or the service for it cannot be had. -/
inductive LoadError where
  | unreadable (path : String) (fault : FileFault)
  | notJson (error : JsonError)
  | notYaml
  | startup (error : StartupError)
  /-- A failure inside some work, which the context names. -/
  | within (context : String) (error : LoadError)
deriving DecidableEq, Repr

namespace LoadError

/-- The message, from the outermost context inwards. -/
def message : LoadError → String
  | unreadable path fault => s!"failed to read manifest {path}: {fault.text}"
  | notJson e => s!"failed to parse JSON manifest: {e.message}"
  | notYaml => "failed to parse YAML manifest"
  | startup e => e.message
  | within context e => s!"{context}: {e.message}"

/-- The startup error inside all contexts. -/
def startup? : LoadError → Option StartupError
  | startup e => some e
  | within _ e => e.startup?
  | _ => none

end LoadError

/-- Reads a document in a format. -/
def ManifestDocument.ofText (format : DocumentFormat) (text : String) :
    Except LoadError ManifestDocument :=
  match format with
  | .json => (ManifestDocument.ofJsonText text).mapError .notJson
  | .yaml =>
    match ManifestDocument.ofYamlText text with
    | some doc => .ok doc
    | none => .error .notYaml

namespace Manifest

/-- Reads and builds a manifest. -/
def ofText (format : DocumentFormat) (text : String) : Logged (Except LoadError Manifest) :=
  match ManifestDocument.ofText format text with
  | .error e => return .error e
  | .ok doc => do
    let m ← buildManifest doc
    return m.mapError .startup

def loadedEvent (path : String) (m : Manifest) : LogEvent :=
  { level := .info
    message := "Manifest loaded"
    fields := [("manifest", path), ("operations", toString m.operations.length),
      ("schemas", toString m.schemas.length)] }

/-- Loads the manifest in a file. -/
def load (files : Files) (path : String) : Logged (Except LoadError Manifest) :=
  match files.readText path with
  | .error fault => return .error (.unreadable path fault)
  | .ok text => do
    match ← ofText (.ofPath path) text with
    | .error e => return .error (.within s!"invalid manifest {path}" e)
    | .ok m =>
      Logged.emit (m.loadedEvent path)
      return .ok m

end Manifest
end RequestBinding
