import RequestBinding.CommandLine.Usage
import RequestBinding.Json.Printer
import RequestBinding.Service.Load

/-!
# Running commands

A command prints its output and ends with an exit code, or fails. A request that cannot be bound is no
failure of the command, but a panic that breaks binding off is.
-/

namespace RequestBinding

/-- What the process offers to a command. -/
structure CommandContext where
  files : Files
  environment : Environment := fun _ => none
  /-- What a body named `-` is read from. -/
  input : Octets := []
  /-- The id of a request that brings none. -/
  fresh : Ulid

inductive CommandError where
  | load (error : LoadError)
  | undeclaredOperation (id manifest : String)
  | pathParameter (text : String)
  | header (text : String)
  | bodyFile (path : String) (fault : FileFault)
  | binding (operation : String) (error : BindingError)
  | panicked (text : String)
deriving DecidableEq, Repr

def CommandError.message : CommandError → String
  | load e => e.message
  | undeclaredOperation id manifest => s!"operation '{id}' is not declared in {manifest}"
  | pathParameter text => s!"path parameter must look like name=value, got '{text}'"
  | header text => s!"header must look like 'Name: value', got '{text}'"
  | bodyFile path fault => s!"failed to open body file {path}: {fault.text}"
  | binding operation e => s!"failed to bind operation '{operation}': {e.message}"
  | panicked text => text

/-- The exit code of a command that fails. -/
def CommandError.exitCode : CommandError → Nat
  | panicked _ => 101
  | _ => 1

/-- What a command prints, and its exit code. -/
structure CommandOutput where
  text : String
  exitCode : Nat
deriving DecidableEq, Repr

/-- The exit code of a command whose request is rejected. -/
def rejectedExitCode : Nat := 2

/-! ## Checking a manifest -/

/-- The line about an operation. -/
def Operation.summary (op : Operation) : String :=
  let schema := op.bodyParameter?.bind Parameter.schema
  s!"{op.method} {op.path} ({op.id}): {op.parameters.length} parameter(s)" ++
    schema.elim "" (s!", body schema {·}") ++ "\n"

def Service.summary (s : Service) : String :=
  String.join (s.operations.map Operation.summary) ++
    s!"OK: {s.operations.length} operation(s), body limit {s.maxBodyOctets} bytes\n"

/-- Loads, builds and compiles a manifest. -/
def checkManifest (ctx : CommandContext) (manifest : String) :
    Logged (Except CommandError CommandOutput) := do
  match ← Manifest.load ctx.files manifest with
  | .error e => return .error (.load e)
  | .ok m =>
    let settings : ServiceSettings := { config := .ofEnvironment ctx.environment }
    let s ← Service.buildWithin s!"failed to compile schemas for {manifest}" settings m
    return (s.mapError .load).map fun s => ⟨s.summary, 0⟩

/-! ## Binding a request -/

/-- A path variable, written `name=value`. -/
def readPathParam (text : String) : Except CommandError (String × String) :=
  match (cutAt? '=' text).filter (·.1 ≠ "") with
  | some pair => .ok pair
  | none => .error (.pathParameter text)

/-- A header, written `Name: value`. -/
def readHeader (text : String) : Except CommandError (String × String) :=
  match ((cutAt? ':' text).map fun (n, v) => (trimBlanks n, trimBlanks v)).filter (·.1 ≠ "") with
  | some pair => .ok pair
  | none => .error (.header text)

/-- The size that a directory states. -/
def directorySize : Nat := 4096

/-- Whether a path names the input: a single hyphen, which slashes and dots may follow. -/
def namesInput (path : String) : Bool :=
  match splitAt '/' path with
  | [] => false
  | first :: rest => first = "-" && rest.all fun part => part = "" || part = "."

/-- The body at a path. That of the input declares no length. -/
def openBody (ctx : CommandContext) (path : String) : Except CommandError BodyStream :=
  if namesInput path then .ok { script := [.data ctx.input] }
  else match ctx.files path with
    | .error fault => .error (.bodyFile path fault)
    | .ok (.file content) =>
      .ok { script := [.data content], contentLength := some content.length }
    | .ok .directory =>
      .ok { script := [.failure FileFault.isDirectory.text], contentLength := some directorySize }

namespace BindCommand

/-- The target of the request, whose query may be written with question marks in front. -/
def target (c : BindCommand) (op : Operation) : String :=
  match c.query with
  | some q => op.path ++ "?" ++ String.ofList (q.toList.dropWhile (· = '?'))
  | none => op.path

/-- The request to an operation. -/
def request (c : BindCommand) (ctx : CommandContext) (op : Operation) :
    Except CommandError Request := do
  let pathParams ← c.pathParams.mapM readPathParam
  let headers ← c.headers.mapM readHeader
  let r := Request.new ctx.fresh op.method (c.target op)
  let r := pathParams.foldl (fun r (n, v) => r.withPathParam n v) r
  let r := headers.foldl (fun r (n, v) => r.withHeader ctx.fresh n v) r
  match c.body with
  | none => return r
  | some path => return r.withBody (← openBody ctx path)

/-- What is printed about bound arguments. -/
def report (args : Arguments) : String :=
  (Json.ofMembers [("operation_id", .string args.operationId),
    ("request_id", .string args.requestId.text), ("arguments", args.toJson)]).pretty ++ "\n"

/-- The outcome of a run. -/
def conclude (op : Operation) : Except Stop Arguments → Except CommandError CommandOutput
  | .ok args => .ok ⟨report args, 0⟩
  | .error (.failed e) =>
    if e.isClientError then .ok ⟨s!"{e.status} Bad Request: {e.message}\n", rejectedExitCode⟩
    else .error (.binding op.id e)
  | .error (.panicked text) => .error (.panicked text)

/-- Binds the request to an operation of a service. -/
def bindWith (c : BindCommand) (ctx : CommandContext) (s : Service) :
    Logged (Except CommandError CommandOutput) :=
  match s.operation? c.operation with
  | none => return .error (.undeclaredOperation c.operation c.manifest)
  | some op =>
    match c.request ctx op with
    | .error e => return .error e
    | .ok r =>
      let run := s.bind op r
      ⟨conclude op run.result, run.events⟩

def run (c : BindCommand) (ctx : CommandContext) : Logged (Except CommandError CommandOutput) := do
  match ← Manifest.load ctx.files c.manifest with
  | .error e => return .error (.load e)
  | .ok m =>
    let settings : ServiceSettings :=
      { config := .ofEnvironment ctx.environment, maxBodyOctets := c.maxBodyOctets }
    match ← Service.build settings m with
    | .error e => return .error (.load (.startup e))
    | .ok s => c.bindWith ctx s

end BindCommand

/-- Runs a command. -/
def Command.run (ctx : CommandContext) : Command → Logged (Except CommandError CommandOutput)
  | check manifest => checkManifest ctx manifest
  | bind c => c.run ctx

end RequestBinding
