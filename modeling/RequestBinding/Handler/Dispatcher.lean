import RequestBinding.Handler.Read
import RequestBinding.Handler.Response
import RequestBinding.Service.Basic

/-!
# Dispatching

A dispatcher holds one handler for an operation, the one registered last. A request reaches a handler
only if it is bound; all else is answered by the dispatcher. It catches the panics of handlers, but not
those of binding.
-/

namespace RequestBinding

/-- How a handler ends. A panic may carry a text. -/
inductive HandlerOutcome where
  | responded (r : Response)
  | panicked (text : Option String)

namespace HandlerOutcome

def panicText (text : Option String) : String := text.getD "unknown panic payload"

/-- The response that the caller receives. -/
def response : HandlerOutcome → Response
  | responded r => r
  | panicked text => .text 500 ("Handler panicked: " ++ panicText text)

end HandlerOutcome

abbrev Handler := Arguments → Logged HandlerOutcome

namespace Handler

/-- A handler that decodes its arguments first, and whose result may fail to become JSON. -/
def typed {α : Type} (decode : Arguments → Except BindingError α)
    (handle : Arguments → α → Except String Json) : Handler := fun args =>
  match decode args with
  | .error e => return .responded (.ofBindingError e)
  | .ok a =>
    match handle args a with
    | .ok v => return .responded (.json 200 v)
    | .error text => do
      Logged.emit
        { level := .error, message := "Failed to serialize handler response",
          fields := [("request_id", args.requestId.text), ("operation_id", args.operationId),
            ("error", text)] }
      return .responded (.text 500 "Failed to serialize response")

end Handler

/-- What became of a request. -/
inductive Dispatched where
  /-- Refused before binding, for a reason that the log names. -/
  | refused (message reason : String)
  | rejected (run : Run) (error : BindingError)
  /-- A panic broke binding off, and reaches the caller. -/
  | brokenOff (run : Run) (text : String)
  | handled (run : Run) (args : Arguments) (outcome : Logged HandlerOutcome)

namespace Dispatched

/-- The response, or the text of the panic that the caller receives in place of one. -/
def response : Dispatched → Except String Response
  | refused message _ => .ok (.text 500 message)
  | rejected _ e => .ok (.ofBindingError e)
  | brokenOff _ text => .error text
  | handled _ _ outcome => .ok outcome.value.response

/-- The states that an observer sees. -/
def states : Dispatched → List BindingState
  | refused .. => []
  | rejected run _ | brokenOff run _ => run.states
  | handled run .. => run.states ++ [.done]

/-- The event of the end of a handler. -/
def outcomeEvent (requestId : Ulid) (id : String) : HandlerOutcome → LogEvent
  | .responded r =>
    { level := .info, message := "Handler execution complete",
      fields := [("request_id", requestId.text), ("operation_id", id),
        ("status", toString r.status)] }
  | .panicked text =>
    { level := .error, message := "Handler panicked",
      fields := [("request_id", requestId.text), ("operation_id", id),
        ("panic_message", HandlerOutcome.panicText text)] }

/-- The events; `observed` gives those of each state that is seen. -/
def eventsWith (observed : BindingState → List LogEvent) (requestId : Ulid) (id : String) :
    Dispatched → List LogEvent
  | refused _ reason =>
    [{ level := .error, message := reason,
       fields := [("request_id", requestId.text), ("operation_id", id)] }]
  | rejected run _ | brokenOff run _ =>
    observed .pending ++ stepEvents observed .pending run.steps
  | handled run _ outcome =>
    observed .pending ++ stepEvents observed .pending run.steps ++ outcome.events ++
      [outcomeEvent requestId id outcome.value] ++ observed .done

end Dispatched

structure Dispatcher where
  service : Service
  handlers : NameMap Handler := []

namespace Dispatcher

def hasHandler (d : Dispatcher) (id : String) : Bool := d.handlers.contains id

/-- The declared operations without a handler, in the order of the manifest. -/
def unhandled (d : Dispatcher) : List String :=
  (d.service.operations.map Operation.id).filter fun id => !d.hasHandler id

def registrationEvents (d : Dispatcher) (id : String) (total : Nat) : List LogEvent :=
  (if (d.service.operation? id).isNone then
    [{ level := .warn
       message := "Registering handler for an operation the manifest does not declare"
       fields := [("operation_id", id)] }] else []) ++
  (if d.hasHandler id then
    [{ level := .warn, message := "Replaced existing handler",
       fields := [("operation_id", id)] }] else []) ++
  [{ level := .info, message := "Handler registered",
     fields := [("operation_id", id), ("total_handlers", toString total)] }]

/-- Registers a handler, in place of an earlier one of the same id. -/
def register (d : Dispatcher) (id : String) (h : Handler) : Logged Dispatcher :=
  let handlers := d.handlers.insert id h
  ⟨{ d with handlers }, d.registrationEvents id handlers.length⟩

/-- Binds a request and hands its arguments to the handler. -/
def run (d : Dispatcher) (id : String) (r : Request) : Dispatched :=
  match d.service.operation? id with
  | none => .refused s!"Unknown operation '{id}'" "Unknown operation"
  | some op =>
    match d.handlers.get? id with
    | none => .refused s!"No handler registered for operation '{id}'" "No handler registered"
    | some h =>
      let run := d.service.bind op r
      match run.result with
      | .error (.failed e) => .rejected run e
      | .error (.panicked text) => .brokenOff run text
      | .ok args => .handled run args (h args)

/-- Dispatches a request under the eyes of an observer. -/
def dispatchObserved (d : Dispatcher) (id : String) (r : Request) :
    Logged (Except String Response × List BindingState) :=
  let done := d.run id r
  ⟨(done.response, done.states), done.eventsWith (fun _ => []) r.id id⟩

/-- The event of a state in a log. -/
def stateEvent (requestId : Ulid) (s : BindingState) : LogEvent :=
  { level := .debug, message := "Binding state",
    fields := [("request_id", requestId.text), ("state", s.describe)] }

/-- Dispatches a request; the log is the observer. -/
def dispatch (d : Dispatcher) (id : String) (r : Request) : Logged (Except String Response) :=
  let done := d.run id r
  ⟨done.response, done.eventsWith (fun s => [stateEvent r.id s]) r.id id⟩

end Dispatcher
end RequestBinding
