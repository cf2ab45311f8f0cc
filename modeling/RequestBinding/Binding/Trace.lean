import RequestBinding.Binding.Error
import RequestBinding.Log.Event

/-!
# Traces

A run of binding goes from state to state and logs events. `Traced` is a part of a run with the record
of its steps. An error enters the failed state and ends the run; a panic ends it in the state that it is
in.
-/

namespace RequestBinding

/-- Where a run is. -/
inductive BindingState where
  | pending
  | extracting (index : Nat)
  | coercing (index : Nat)
  | bodyReading
  | bodyValidating
  | bodyDecoding
  | dispatching
  | done
  | failed (error : BindingError)
deriving DecidableEq, Repr

namespace BindingState

def isTerminal : BindingState → Bool
  | done | failed _ => true
  | _ => false

/-- The state without the details of an error. -/
def label : BindingState → String
  | pending => "Pending"
  | extracting i => s!"Extracting({i})"
  | coercing i => s!"Coercing({i})"
  | bodyReading => "BodyReading"
  | bodyValidating => "BodyValidating"
  | bodyDecoding => "BodyDecoding"
  | dispatching => "Dispatching"
  | done => "Done"
  | failed e => s!"Failed({e.kind})"

/-- What a log says of the state. -/
def describe : BindingState → String
  | failed e => s!"Failed({e.describe})"
  | s => s.label

end BindingState

/-- One entry of a run's record. -/
inductive RunStep where
  | enter (state : BindingState)
  | log (event : LogEvent)
deriving DecidableEq, Repr

/-- The states that a record enters. -/
def enteredStates (steps : List RunStep) : List BindingState :=
  steps.filterMap fun
    | .enter s => some s
    | .log _ => none

@[simp] theorem enteredStates_nil : enteredStates [] = [] := rfl

@[simp] theorem enteredStates_enter (s : BindingState) (steps : List RunStep) :
    enteredStates (.enter s :: steps) = s :: enteredStates steps := rfl

@[simp] theorem enteredStates_log (e : LogEvent) (steps : List RunStep) :
    enteredStates (.log e :: steps) = enteredStates steps := rfl

@[simp] theorem enteredStates_append (steps others : List RunStep) :
    enteredStates (steps ++ others) = enteredStates steps ++ enteredStates others :=
  List.filterMap_append

@[simp] theorem enteredStates_map_log (events : List LogEvent) :
    enteredStates (events.map .log) = [] := by
  induction events with
  | nil => rfl
  | cons e events ih => rw [List.map_cons, enteredStates_log, ih]

/-- The event of going from one state to the next. -/
def transition (source target : BindingState) : LogEvent :=
  { level := .trace, message := "Binding transition",
    fields := [("from", source.describe), ("to", target.describe)] }

/-- The events of a record that starts in a state. `observed` adds an event after each transition. -/
def stepEvents (observed : BindingState → List LogEvent) :
    BindingState → List RunStep → List LogEvent
  | _, [] => []
  | current, .enter next :: rest =>
    transition current next :: (observed next ++ stepEvents observed next rest)
  | current, .log e :: rest => e :: stepEvents observed current rest

/-- A part of a run: the steps it records and how it ends. -/
structure Traced (α : Type) where
  steps : List RunStep
  result : Except Stop α

namespace Traced

variable {α β : Type}

instance : Monad Traced where
  pure a := ⟨[], .ok a⟩
  bind x f :=
    match x.result with
    | .ok a => ⟨x.steps ++ (f a).steps, (f a).result⟩
    | .error e => ⟨x.steps, .error e⟩

def enter (s : BindingState) : Traced Unit := ⟨[.enter s], .ok ()⟩

def log (events : List LogEvent) : Traced Unit := ⟨events.map .log, .ok ()⟩

/-- Enters the failed state and ends the run. -/
def fail (e : BindingError) : Traced α := ⟨[.enter (.failed e)], .error (.failed e)⟩

/-- Ends the run without another state. -/
def breakOff (text : String) : Traced α := ⟨[], .error (.panicked text)⟩

/-- Goes on with the value of a result, or stops as it says. -/
def settle : Except Stop α → Traced α
  | .ok a => pure a
  | .error (.failed e) => fail e
  | .error (.panicked text) => breakOff text

@[simp] theorem result_pure (a : α) : (pure a : Traced α).result = .ok a := rfl
@[simp] theorem steps_pure (a : α) : (pure a : Traced α).steps = [] := rfl
@[simp] theorem result_enter (s : BindingState) : (enter s).result = .ok () := rfl
@[simp] theorem result_log (events : List LogEvent) : (log events).result = .ok () := rfl
@[simp] theorem result_fail (e : BindingError) :
    (fail e : Traced α).result = .error (.failed e) := rfl

@[simp] theorem result_settle (result : Except Stop α) : (settle result).result = result := by
  rcases result with (_ | _) | _ <;> rfl

@[simp] theorem result_bind (x : Traced α) (f : α → Traced β) :
    (x >>= f).result = x.result >>= fun a => (f a).result := by
  obtain ⟨steps, result⟩ := x
  cases result <;> rfl

end Traced
end RequestBinding
