import RequestBinding.CommandLine.Run
import RequestBinding.Log.Config

/-!
# The program

Reads the arguments, the environment and the files that a command names, runs the command, and prints
what it gives.
-/

namespace RequestBinding
namespace Program

/-- The variables of the environment that bear on the program. -/
def environmentNames : List String :=
  ["BRRTB_MAX_BODY_BYTES", "BRRTB_SCHEMA_FORMATS", "BRRTB_LOG_LEVEL", "BRRTB_LOG_FORMAT",
    "BRRTB_LOG_ASYNC", "BRRTB_LOG_TARGET_FILTER", "BRRTB_LOG_INCLUDE_LOCATION", "RUST_LOG"]

def readEnvironment : IO Environment := do
  let values : List (String × Option String) ←
    environmentNames.mapM fun name => return (name, ← IO.getEnv name)
  return fun name => (values.lookup name).join

/-- What opening a path gives. -/
def openFile (path : String) : IO (Except FileFault FileNode) := do
  try
    let content ← IO.FS.readBinFile path
    return .ok (.file content.toList)
  catch e =>
    match e with
    | .noFileOrDirectory .. => return .error .notFound
    | .inappropriateType .. => return .ok .directory
    | e => return .error (.other (toString e))

/-- The paths that a command opens. -/
def pathsOf : Command → List String
  | .check manifest => [manifest]
  | .bind c => c.manifest :: (c.body.filter (· ≠ "-")).toList

partial def readAll (input : IO.FS.Stream) (read : ByteArray) : IO ByteArray := do
  let chunk ← input.read 65536
  if chunk.isEmpty then return read
  readAll input (read ++ chunk)

def readInput : Command → IO Octets
  | .bind { body := some "-", .. } => return (← readAll (← IO.getStdin) .empty).toList
  | _ => return []

/-- A request id from random octets. -/
def freshId : IO Ulid := do
  let bytes ← IO.getRandomBytes 16
  return ⟨bytes.toList.foldl (fun n b => n * 256 + b.toNat) 0⟩

/-- Runs a command; gives its exit code. -/
def run (environment : Environment) (c : Command) : IO UInt32 := do
  let opened : List (String × Except FileFault FileNode) ←
    (pathsOf c).mapM fun path => return (path, ← openFile path)
  let files : Files := fun path => (opened.lookup path).getD (.error .notFound)
  let ctx : CommandContext := { files, environment, input := ← readInput c, fresh := ← freshId }
  match (c.run ctx).value with
  | .ok o =>
    IO.print o.text
    return o.exitCode.toUInt32
  | .error e =>
    IO.eprintln ("Error: " ++ e.message)
    return e.exitCode.toUInt32

end Program
end RequestBinding

open RequestBinding in
def main (args : List String) : IO UInt32 := do
  let environment ← Program.readEnvironment
  for directive in ((LogConfig.ofEnvironment environment).filter environment).2 do
    IO.eprintln (LogConfig.warning directive)
  match Command.read args with
  | .error answer =>
    IO.eprintln ("usage: " ++ answer.kind)
    return answer.exitCode.toUInt32
  | .ok c => Program.run environment c
