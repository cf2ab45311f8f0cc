import RequestBinding.Binding.Arguments
import RequestBinding.Binding.Body
import RequestBinding.Binding.Trace
import RequestBinding.Request.Basic

/-!
# Binding

`bind` visits the parameters of an operation in declaration order, until one of them fails. A run
records the states it enters and the events it logs; `Run.states` and `Run.events` are read off that
record.
-/

namespace RequestBinding

/-- What all requests of a service share. -/
structure BindingContext where
  schemas : NameMap CompiledSchema
  validator : Validator
  maxBodyOctets : Nat

/-- What visiting one parameter gives. -/
structure Visit extends Traced BoundValue where
  /-- The request afterwards; a visited body has been taken out. -/
  request : Request
  /-- Octets taken from the body. -/
  consumed : Nat := 0

/-- A parameter that the request does not supply. -/
def unsupplied (p : Parameter) : Traced BoundValue :=
  if p.required then .fail (.missing p.name p.location) else pure .absent

/-- Looks up the text of a scalar parameter and reads it as the declared type. -/
def visitScalar (index : Nat) (p : Parameter) (r : Request) : Traced BoundValue :=
  match r.lookup? p.name p.location with
  | none => do
    unless p.required do
      Traced.log [{ level := .debug, message := "Optional parameter absent",
                    fields := [("parameter", p.name), ("location", p.location.name)] }]
    unsupplied p
  | some raw => do
    Traced.enter (.coercing index)
    Traced.log [{ level := .trace, message := "Coercing parameter",
                  fields := [("parameter", p.name), ("location", p.location.name), ("raw", raw)] }]
    Traced.settle <| ((Value.coerce raw p.type).map .present).mapError fun e =>
      .failed (.malformed p.name p.location e.message)

/-- Judges a body by the schema that the parameter names, if it names one. -/
def judgeBody (ctx : BindingContext) (p : Parameter) (payload : Octets) : Traced Unit :=
  match p.schema with
  | none => pure ()
  | some name => do
    Traced.enter .bodyValidating
    match ctx.schemas.get? name with
    | none =>
      Traced.log [{ level := .error, message := "Body schema is not compiled",
                    fields := [("schema", name), ("parameter", p.name)] }]
      Traced.fail (.internal s!"schema '{name}' is not compiled")
    | some schema =>
      let (result, events) := Body.checkSchema ctx.validator schema payload
      Traced.log events
      Traced.settle (result.mapError .failed)

/-- What becomes of a body that has been read; an empty one counts as none. -/
def settleBody (ctx : BindingContext) (p : Parameter) (payload : Octets) : Traced BoundValue :=
  if payload.isEmpty then unsupplied p
  else do
    judgeBody ctx p payload
    Traced.enter .bodyDecoding
    Traced.settle <|
      ((Body.decode p.name p.type payload).mapError .failed).map fun v => .present (.json v)

/-- Takes the body out of the request, and reads, judges and decodes it. -/
def visitBody (ctx : BindingContext) (p : Parameter) (r : Request) : Visit :=
  match r.body with
  | none => { unsupplied p with request := r }
  | some stream =>
    let reading := Body.readBounded ctx.maxBodyOctets stream
    let settled : Traced BoundValue := do
      Traced.enter .bodyReading
      Traced.log reading.events
      settleBody ctx p (← Traced.settle reading.result)
    { settled with request := { r with body := none }, consumed := reading.consumed }

def visit (ctx : BindingContext) (index : Nat) (p : Parameter) (r : Request) : Visit :=
  if p.isBody then visitBody ctx p r else { visitScalar index p r with request := r }

/-- A run that has come to its end. -/
structure Run where
  result : Except Stop Arguments
  /-- The record after the initial state. -/
  steps : List RunStep
  request : Request
  consumed : Nat

/-- Visits the parameters from the given index on. -/
def visitAll (ctx : BindingContext) : Nat → List Parameter → Request → Arguments → Nat → Run
  | _, [], r, args, consumed => { result := .ok args, steps := [], request := r, consumed }
  | index, p :: ps, r, args, consumed =>
    let v := visit ctx index p r
    let steps := .enter (.extracting index) :: v.steps
    let consumed := consumed + v.consumed
    match v.result with
    | .error e => { result := .error e, steps, request := v.request, consumed }
    | .ok value =>
      let run := visitAll ctx (index + 1) ps v.request (args.push p.name p.location value) consumed
      { run with steps := steps ++ run.steps }

/-- The last steps of a run; a failed one is in its last state already. One that a panic breaks off has
none. -/
def closing (op : Operation) (r : Request) : Except Stop Arguments → List RunStep
  | .ok args =>
    [.enter .dispatching,
      .log { level := .debug, message := "Request bound",
             fields := [("request_id", r.id.text), ("operation_id", op.id),
               ("arguments", toString args.size)] }]
  | .error (.failed e) =>
    [.log (if e.isClientError then
      { level := .info, message := "Request rejected",
        fields := [("request_id", r.id.text), ("operation_id", op.id), ("kind", e.kind),
          ("parameter", e.parameterName?.getD ""), ("error", e.message)] }
    else
      { level := .error, message := "Binding failed on server configuration",
        fields := [("request_id", r.id.text), ("operation_id", op.id), ("error", e.message)] })]
  | .error (.panicked _) => []

/-- Binds a request to the parameters of an operation. -/
def bind (ctx : BindingContext) (op : Operation) (r : Request) : Run :=
  let run := visitAll ctx 0 op.parameters r { requestId := r.id, operationId := op.id } 0
  { run with steps := run.steps ++ closing op r run.result }

namespace Run

/-- Every state of the run, the initial one first. -/
def states (run : Run) : List BindingState := .pending :: enteredStates run.steps

/-- Every event of the run. -/
def events (run : Run) : List LogEvent := stepEvents (fun _ => []) .pending run.steps

end Run
end RequestBinding
