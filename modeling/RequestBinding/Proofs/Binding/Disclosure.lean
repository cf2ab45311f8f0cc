import RequestBinding.Handler.Dispatcher
import RequestBinding.Proofs.Binding.Outcome

/-!
# What the log tells of texts

Two requests that differ in texts of scalar parameters leave the same log above trace, as long as these
texts are values in both. If they are malformed in both, the logs differ at most in their endings, which
quote the error.

1. `ReadAlike` relates the requests, `AgreeButCause` the records of their runs.
2. `agree_visit` follows one visit, `agree_visitAll` the loop.
3. `aboveTrace_stepEvents` reads the log above trace off a record.
4. `sameLog_bind` and `sameLog_dispatch` say what comes of it for binding and for dispatching.
-/

namespace RequestBinding

/-! ## Requests that are read alike -/

/-- Two texts of a parameter, or none: the same, or both values, or both malformed. Whether malformed
ones may differ is `malformed`. -/
inductive TextsAlike (malformed : Prop) (p : Parameter) : Option String → Option String → Prop
  | same (text : Option String) : TextsAlike malformed p text text
  | values {raw raw' : String} {v v' : Value} (h : Value.coerce raw p.type = .ok v)
      (h' : Value.coerce raw' p.type = .ok v') : TextsAlike malformed p (some raw) (some raw')
  | malformed {raw raw' : String} {e e' : CoerceError} (hm : malformed)
      (h : Value.coerce raw p.type = .error e) (h' : Value.coerce raw' p.type = .error e') :
      TextsAlike malformed p (some raw) (some raw')

/-- Requests with one id and body that parameters find alike texts in. -/
structure ReadAlike (malformed : Prop) (ps : List Parameter) (r r' : Request) : Prop where
  id : r.id = r'.id
  body : r.body = r'.body
  texts : ∀ p ∈ ps, p.isBody = false →
    TextsAlike malformed p (r.lookup? p.name p.location) (r'.lookup? p.name p.location)

/-- Requests that differ in the text of one parameter only. -/
theorem readAlike_of_text {malformed : Prop} {ps : List Parameter} {r r' : Request} {p : Parameter}
    (hid : r.id = r'.id) (hbody : r.body = r'.body)
    (htext : TextsAlike malformed p (r.lookup? p.name p.location) (r'.lookup? p.name p.location))
    (hothers : ∀ q ∈ ps, q ≠ p → r.lookup? q.name q.location = r'.lookup? q.name q.location) :
    ReadAlike malformed ps r r' := by
  refine ⟨hid, hbody, fun q hq _ => ?_⟩
  by_cases heq : q = p
  · rw [heq]
    exact htext
  · rw [hothers q hq heq]
    exact .same _

/-! ## Records that agree -/

/-- Whether a step can show above trace. -/
def RunStep.isVisible : RunStep → Bool
  | .enter _ => true
  | .log e => e.level ≠ .trace

/-- The steps of a record without what is logged at trace. -/
def visibleSteps (steps : List RunStep) : List RunStep := steps.filter RunStep.isVisible

@[simp] theorem visibleSteps_enter (s : BindingState) (steps : List RunStep) :
    visibleSteps (.enter s :: steps) = .enter s :: visibleSteps steps := rfl

@[simp] theorem visibleSteps_append (steps others : List RunStep) :
    visibleSteps (steps ++ others) = visibleSteps steps ++ visibleSteps others :=
  List.filter_append ..

/-- Two parts of runs whose steps above trace are the same, and their results as well if they stop early,
but for the cause of a malformed value. -/
inductive AgreeButCause {α : Type} (malformed : Prop) :
    List RunStep → Except Stop α → List RunStep → Except Stop α → Prop
  | ok {steps steps' : List RunStep} (a a' : α) (h : visibleSteps steps = visibleSteps steps') :
      AgreeButCause malformed steps (.ok a) steps' (.ok a')
  | error {steps steps' : List RunStep} (e : Stop)
      (h : visibleSteps steps = visibleSteps steps') :
      AgreeButCause malformed steps (.error e) steps' (.error e)
  | malformed {steps steps' : List RunStep} (hm : malformed) (name : String) (location : Location)
      (cause cause' : String) (common : List RunStep)
      (h : visibleSteps steps = common ++ [.enter (.failed (.malformed name location cause))])
      (h' : visibleSteps steps' = common ++ [.enter (.failed (.malformed name location cause'))]) :
      AgreeButCause malformed steps (.error (.failed (.malformed name location cause))) steps'
        (.error (.failed (.malformed name location cause')))

namespace AgreeButCause

variable {α : Type} {malformed : Prop} {steps steps' : List RunStep}
  {result result' : Except Stop α}

theorem refl (malformed : Prop) (steps : List RunStep) :
    ∀ result : Except Stop α, AgreeButCause malformed steps result steps result
  | .ok a => .ok a a rfl
  | .error e => .error e rfl

/-- The same steps in front. -/
theorem append (h : AgreeButCause malformed steps result steps' result') {front front' : List RunStep}
    (hfront : visibleSteps front = visibleSteps front') :
    AgreeButCause malformed (front ++ steps) result (front' ++ steps') result' := by
  cases h with
  | ok a a' h => exact .ok a a' (by rw [visibleSteps_append, hfront, h, visibleSteps_append])
  | error e h => exact .error e (by rw [visibleSteps_append, hfront, h, visibleSteps_append])
  | malformed hm name location cause cause' common h h' =>
    refine .malformed hm name location cause cause' (visibleSteps front ++ common) ?_ ?_
    · rw [visibleSteps_append, h, List.append_assoc]
    · rw [visibleSteps_append, ← hfront, h', List.append_assoc]

/-- The same state in front. -/
theorem enter (h : AgreeButCause malformed steps result steps' result') (s : BindingState) :
    AgreeButCause malformed (.enter s :: steps) result (.enter s :: steps') result' :=
  have hs : visibleSteps [.enter s] = visibleSteps [.enter s] := rfl
  h.append hs

end AgreeButCause

/-! ## Visits -/

theorem agree_visitScalar {malformed : Prop} {p : Parameter} {r r' : Request}
    (h : TextsAlike malformed p (r.lookup? p.name p.location) (r'.lookup? p.name p.location))
    (i : ℕ) :
    AgreeButCause malformed (visitScalar i p r).steps (visitScalar i p r).result
      (visitScalar i p r').steps (visitScalar i p r').result := by
  unfold visitScalar
  generalize r.lookup? p.name p.location = text at h ⊢
  generalize r'.lookup? p.name p.location = text' at h ⊢
  cases h with
  | same => exact .refl ..
  | values h h' =>
    -- the text itself is logged at trace only
    simp only [h, h', map_ok, mapError_ok]
    exact .ok _ _ rfl
  | malformed hm h h' =>
    simp only [h, h', map_error, mapError_error]
    exact .malformed hm p.name p.location _ _ [.enter (.coercing i)] rfl rfl

theorem agree_visitBody {r r' : Request} (h : r.body = r'.body) (malformed : Prop)
    (ctx : BindingContext) (p : Parameter) :
    AgreeButCause malformed (visitBody ctx p r).steps (visitBody ctx p r).result
      (visitBody ctx p r').steps (visitBody ctx p r').result := by
  unfold visitBody
  rw [h]
  cases r'.body with
  | none => exact .refl ..
  | some stream => exact .refl ..

theorem agree_visit {malformed : Prop} {ps : List Parameter} {r r' : Request}
    (h : ReadAlike malformed ps r r') {p : Parameter} (hp : p ∈ ps) (ctx : BindingContext) (i : ℕ) :
    AgreeButCause malformed (visit ctx i p r).steps (visit ctx i p r).result
      (visit ctx i p r').steps (visit ctx i p r').result := by
  unfold visit
  split_ifs with hbody
  · exact agree_visitBody h.body malformed ctx p
  · exact agree_visitScalar (h.texts p hp (by simpa using hbody)) i

/-- Requests that are read alike still are after a visit. -/
theorem ReadAlike.visit {malformed : Prop} {p : Parameter} {ps : List Parameter} {r r' : Request}
    (h : ReadAlike malformed (p :: ps) r r') (ctx : BindingContext) (i : ℕ) :
    ReadAlike malformed ps (visit ctx i p r).request (visit ctx i p r').request where
  id := by
    rw [request_visit, request_visit]
    exact h.id
  body := by
    rw [request_visit, request_visit, h.body]
  texts := by
    intro q hq hscalar
    rw [lookup?_request_visit, lookup?_request_visit]
    exact h.texts q (List.mem_cons_of_mem p hq) hscalar

/-- The loop keeps in step on requests that are read alike, until one of them has a malformed text. -/
theorem agree_visitAll (malformed : Prop) (ctx : BindingContext) (ps : List Parameter) :
    ∀ (i : ℕ) (r r' : Request) (args args' : Arguments) (consumed consumed' : ℕ),
      ReadAlike malformed ps r r' →
        AgreeButCause malformed (visitAll ctx i ps r args consumed).steps
          (visitAll ctx i ps r args consumed).result (visitAll ctx i ps r' args' consumed').steps
          (visitAll ctx i ps r' args' consumed').result := by
  -- the loop ends for both at the same visit, as visits agree on whether they fail
  induction ps with
  | nil =>
    intro i r r' args args' consumed consumed' _
    exact .ok args args' rfl
  | cons p ps ih =>
    intro i r r' args args' consumed consumed' h
    have hvisit := agree_visit h List.mem_cons_self ctx i
    generalize hv : (visit ctx i p r).result = v at hvisit
    generalize hv' : (visit ctx i p r').result = v' at hvisit
    cases hvisit with
    | ok a a' hsteps =>
      rw [visitAll_cons_of_ok hv, visitAll_cons_of_ok hv']
      refine (ih (i + 1) _ _ _ _ _ _ (h.visit ctx i)).append ?_
      rw [visibleSteps_enter, visibleSteps_enter, hsteps]
    | error e hsteps =>
      rw [visitAll_cons_of_error hv, visitAll_cons_of_error hv']
      exact (AgreeButCause.error e hsteps).enter (.extracting i)
    | malformed hm name location cause cause' common hsteps hsteps' =>
      rw [visitAll_cons_of_error hv, visitAll_cons_of_error hv']
      exact (AgreeButCause.malformed hm name location cause cause' common hsteps hsteps').enter
        (.extracting i)

/-! ## Logs -/

/-- The events above trace. -/
def aboveTrace (events : List LogEvent) : List LogEvent := events.filter (·.level ≠ .trace)

/-- The events above trace of one visible step. -/
def stepShows (observed : BindingState → List LogEvent) : RunStep → List LogEvent
  | .enter s => aboveTrace (observed s)
  | .log e => [e]

/-- Above trace, a log does not show where a run comes from, and nothing of what is logged at trace. -/
theorem aboveTrace_stepEvents (observed : BindingState → List LogEvent) (steps : List RunStep) :
    ∀ current : BindingState, aboveTrace (stepEvents observed current steps) =
      (visibleSteps steps).flatMap (stepShows observed) := by
  induction steps with
  | nil => exact fun _ => rfl
  | cons step steps ih =>
    intro current
    cases step with
    | enter next =>
      have htransition : (transition current next).level = .trace := rfl
      unfold aboveTrace at ih ⊢
      rw [stepEvents, List.filter_cons_of_neg (by simp [htransition]), List.filter_append, ih,
        visibleSteps_enter, List.flatMap_cons]
      rfl
    | log e =>
      unfold aboveTrace at ih ⊢
      rw [stepEvents]
      by_cases he : e.level = .trace
      · have hhidden : visibleSteps (.log e :: steps) = visibleSteps steps :=
          List.filter_cons_of_neg (by simp [RunStep.isVisible, he])
        rw [List.filter_cons_of_neg (by simp [he]), hhidden, ih]
      · have hvisible : visibleSteps (.log e :: steps) = .log e :: visibleSteps steps :=
          List.filter_cons_of_pos (by simp [RunStep.isVisible, he])
        rw [List.filter_cons_of_pos (by simp [he]), hvisible, List.flatMap_cons, ih]
        rfl

/-- What the log shows above trace of the end of a run that failed: its last state, and the error. -/
def shownFailure (observed : BindingState → List LogEvent) (op : Operation) (r : Request)
    (e : BindingError) : List LogEvent :=
  aboveTrace (observed (.failed e)) ++
    (closing op r (.error (.failed e))).flatMap (stepShows observed)

/-- Two logs, with the results of the runs that left them: the same logs of results that are both
arguments or the same stop. After malformed texts they are the same up to the end, which shows the error. -/
inductive SameLog (malformed : Prop) (ending : BindingError → List LogEvent) :
    Except Stop Arguments → List LogEvent → Except Stop Arguments → List LogEvent → Prop
  | ok (args args' : Arguments) (events : List LogEvent) :
      SameLog malformed ending (.ok args) events (.ok args') events
  | error (e : Stop) (events : List LogEvent) :
      SameLog malformed ending (.error e) events (.error e) events
  | malformed (hm : malformed) (name : String) (location : Location) (cause cause' : String)
      (common : List LogEvent) :
      SameLog malformed ending
        (.error (.failed (.malformed name location cause)))
        (common ++ ending (.malformed name location cause))
        (.error (.failed (.malformed name location cause')))
        (common ++ ending (.malformed name location cause'))

namespace SameLog

variable {malformed : Prop} {ending : BindingError → List LogEvent}
  {result result' : Except Stop Arguments} {events events' : List LogEvent}

theorem append (h : SameLog malformed ending result events result' events')
    (front : List LogEvent) :
    SameLog malformed ending result (front ++ events) result' (front ++ events') := by
  cases h with
  | ok args args' => exact .ok args args' _
  | error e => exact .error e _
  | malformed hm name location cause cause' common =>
    rw [← List.append_assoc, ← List.append_assoc]
    exact .malformed hm name location cause cause' _

/-- Where malformed texts may not differ, nothing does. -/
theorem eq (h : SameLog malformed ending result events result' events') (hm : ¬ malformed) :
    events = events' := by
  cases h with
  | ok => rfl
  | error => rfl
  | malformed h => exact absurd h hm

end SameLog

/-! ## Runs -/

theorem visibleSteps_closing (op : Operation) (r : Request)
    (result : Except Stop Arguments) :
    visibleSteps (closing op r result) = closing op r result := by
  rcases result with (e | text) | args
  · unfold closing
    dsimp only
    split_ifs <;> rfl
  · rfl
  · rfl

/-- The last steps of a run that bound depend on no more of the arguments than their number. -/
theorem closing_ok_of_size_eq (op : Operation) (r : Request) {args args' : Arguments}
    (hsize : args.size = args'.size) : closing op r (.ok args) = closing op r (.ok args') := by
  unfold closing
  dsimp only
  rw [hsize]

theorem size_of_bind_eq_ok {ctx : BindingContext} {op : Operation} {r : Request} {args : Arguments}
    (h : (bind ctx op r).result = .ok args) : args.size = op.parameters.length := by
  obtain ⟨-, -, hsize, -⟩ := result_bind_eq_ok_iff.mp h
  exact hsize

/-- The log of a run above trace: that of its visits, and that of its last steps. -/
theorem aboveTrace_stepEvents_bind (ctx : BindingContext) (op : Operation) (r : Request)
    (observed : BindingState → List LogEvent) :
    aboveTrace (stepEvents observed .pending (bind ctx op r).steps) =
      (visibleSteps (visitAll ctx 0 op.parameters r
        { requestId := r.id, operationId := op.id } 0).steps).flatMap (stepShows observed) ++
      (closing op r (bind ctx op r).result).flatMap (stepShows observed) := by
  rw [aboveTrace_stepEvents]
  unfold bind
  rw [visibleSteps_append, visibleSteps_closing, List.flatMap_append]

/-- Runs on requests that are read alike leave the same log above trace. -/
theorem sameLog_bind {malformed : Prop} {op : Operation} {r r' : Request}
    (h : ReadAlike malformed op.parameters r r') (ctx : BindingContext)
    (observed : BindingState → List LogEvent) :
    SameLog malformed (shownFailure observed op r)
      (bind ctx op r).result (aboveTrace (stepEvents observed .pending (bind ctx op r).steps))
      (bind ctx op r').result (aboveTrace (stepEvents observed .pending (bind ctx op r').steps)) := by
  have hagree := agree_visitAll malformed ctx op.parameters 0 r r'
    { requestId := r.id, operationId := op.id } { requestId := r'.id, operationId := op.id } 0 0 h
  have hfailed := fun e => closing_of_id_eq op h.id (.error e)
  have hbound : ∀ args args' : Arguments, args.size = args'.size →
      closing op r (.ok args) = closing op r' (.ok args') := by
    intro args args' hsize
    rw [closing_ok_of_size_eq op r hsize, closing_of_id_eq op h.id]
  rw [aboveTrace_stepEvents_bind, aboveTrace_stepEvents_bind]
  have hresult : ∀ q, (bind ctx op q).result = (visitAll ctx 0 op.parameters q
      { requestId := q.id, operationId := op.id } 0).result := fun _ => rfl
  rw [← hresult, ← hresult] at hagree
  have hsize := @size_of_bind_eq_ok ctx op r
  have hsize' := @size_of_bind_eq_ok ctx op r'
  generalize (bind ctx op r).result = result at hagree hsize ⊢
  generalize (bind ctx op r').result = result' at hagree hsize' ⊢
  cases hagree with
  | ok args args' hsteps =>
    rw [hsteps, hbound args args' ((hsize rfl).trans (hsize' rfl).symm)]
    exact .ok args args' _
  | error e hsteps =>
    rw [hsteps, hfailed e]
    exact .error e _
  | malformed hm name location cause cause' common hsteps hsteps' =>
    rw [hsteps, hsteps', ← hfailed, List.flatMap_append, List.flatMap_append, List.append_assoc,
      List.append_assoc, List.flatMap_singleton, List.flatMap_singleton]
    exact .malformed hm name location cause cause' _

/-! ## Dispatched requests -/

/-- The events before a handler is called, and all events of a request that reaches none. -/
def Dispatched.eventsBeforeHandler (observed : BindingState → List LogEvent) (requestId : Ulid)
    (id : String) : Dispatched → List LogEvent
  | .handled run _ _ => observed .pending ++ stepEvents observed .pending run.steps
  | done => done.eventsWith observed requestId id

/-- What dispatching a request logs before it calls the handler. -/
def Dispatcher.eventsBeforeHandler (d : Dispatcher) (id : String) (r : Request) : List LogEvent :=
  (d.run id r).eventsBeforeHandler (fun s => [Dispatcher.stateEvent r.id s]) r.id id

theorem eventsBeforeHandler_prefix_dispatch (d : Dispatcher) (id : String) (r : Request) :
    d.eventsBeforeHandler id r <+: (d.dispatch id r).events := by
  unfold Dispatcher.eventsBeforeHandler Dispatcher.dispatch
  cases d.run id r with
  | refused message reason => exact List.prefix_refl _
  | rejected run e => exact List.prefix_refl _
  | brokenOff run text => exact List.prefix_refl _
  | handled run args outcome =>
    unfold Dispatched.eventsBeforeHandler Dispatched.eventsWith
    dsimp only
    rw [List.append_assoc, List.append_assoc]
    exact List.prefix_append _ _

/-- A request that reaches no handler logs no more than its refusal. -/
theorem eventsBeforeHandler_of_refused {d : Dispatcher} {id : String}
    (h : d.service.operation? id = none ∨ d.handlers.get? id = none) {r r' : Request}
    (hid : r.id = r'.id) : d.eventsBeforeHandler id r = d.eventsBeforeHandler id r' := by
  unfold Dispatcher.eventsBeforeHandler Dispatcher.run
  rw [hid]
  cases hop : d.service.operation? id with
  | none => rfl
  | some op =>
    have hh : d.handlers.get? id = none := h.resolve_left (by simp [hop])
    simp only [hh]

theorem eventsBeforeHandler_of_handler {d : Dispatcher} {id : String} {op : Operation}
    {handler : Handler} (hop : d.service.operation? id = some op)
    (hh : d.handlers.get? id = some handler) (r : Request) :
    d.eventsBeforeHandler id r = Dispatcher.stateEvent r.id .pending ::
      stepEvents (fun s => [Dispatcher.stateEvent r.id s]) .pending
        (d.service.bind op r).steps := by
  unfold Dispatcher.eventsBeforeHandler Dispatcher.run
  simp only [hop, hh]
  rcases (d.service.bind op r).result with (e | text) | args <;> rfl

theorem sameLog_dispatch {malformed : Prop} {op : Operation} {r r' : Request}
    (h : ReadAlike malformed op.parameters r r') {d : Dispatcher} {id : String} {handler : Handler}
    (hop : d.service.operation? id = some op) (hh : d.handlers.get? id = some handler) :
    SameLog malformed (shownFailure (fun s => [Dispatcher.stateEvent r.id s]) op r)
      (d.service.bind op r).result (aboveTrace (d.eventsBeforeHandler id r))
      (d.service.bind op r').result (aboveTrace (d.eventsBeforeHandler id r')) := by
  rw [eventsBeforeHandler_of_handler hop hh, eventsBeforeHandler_of_handler hop hh, ← h.id]
  exact (sameLog_bind h d.service.context _).append [Dispatcher.stateEvent r.id .pending]

/-- The log of binding, and that of dispatching up to the handler, are above trace the same for
requests that are read alike. Only malformed texts show, in the error that ends the run. -/
theorem log_shows_malformed_texts_only {malformed : Prop} {op : Operation} {r r' : Request}
    (h : ReadAlike malformed op.parameters r r') :
    (∀ ctx, SameLog malformed (shownFailure (fun _ => []) op r)
        (bind ctx op r).result (aboveTrace (bind ctx op r).events)
        (bind ctx op r').result (aboveTrace (bind ctx op r').events) ∧
      (¬ malformed → aboveTrace (bind ctx op r).events = aboveTrace (bind ctx op r').events)) ∧
    (∀ (d : Dispatcher) (id : String), d.service.operation? id = some op →
      d.eventsBeforeHandler id r <+: (d.dispatch id r).events ∧
      (∀ handler, d.handlers.get? id = some handler →
        SameLog malformed (shownFailure (fun s => [Dispatcher.stateEvent r.id s]) op r)
          (d.service.bind op r).result (aboveTrace (d.eventsBeforeHandler id r))
          (d.service.bind op r').result (aboveTrace (d.eventsBeforeHandler id r'))) ∧
      (¬ malformed → aboveTrace (d.eventsBeforeHandler id r) =
        aboveTrace (d.eventsBeforeHandler id r'))) := by
  refine ⟨fun ctx => ⟨sameLog_bind h ctx _, (sameLog_bind h ctx fun _ => []).eq⟩,
    fun d id hop => ⟨eventsBeforeHandler_prefix_dispatch d id r,
      fun handler hh => sameLog_dispatch h hop hh, fun hm => ?_⟩⟩
  cases hh : d.handlers.get? id with
  | none => rw [eventsBeforeHandler_of_refused (.inr hh) h.id]
  | some handler => exact (sameLog_dispatch h hop hh).eq hm

/-- An operation that reads a number from the query. -/
def queryNumber : Parameter := { name := "n", location := .query, required := true, type := .int64 }

def queryOperation : Operation := ⟨"op", "GET", "/x", [queryNumber]⟩

/-- A request with a text in the place of that number. -/
def requestWith (raw : String) : Request :=
  { id := ⟨0⟩, method := "GET", path := "/x", queryParams := [("n", raw)] }

/-- Two numbers leave one log, and two words in their place the same log up to the rejection. -/
theorem log_of_numbers_and_words :
    let ctx : BindingContext := { schemas := [], validator := .standard, maxBodyOctets := 0 }
    let log raw := aboveTrace (bind ctx queryOperation (requestWith raw)).events
    ReadAlike False queryOperation.parameters (requestWith "1") (requestWith "2") ∧
      log "1" = log "2" ∧
      ReadAlike True queryOperation.parameters (requestWith "abc") (requestWith "xyz") ∧
      SameLog True (shownFailure (fun _ => []) queryOperation (requestWith "abc"))
        (bind ctx queryOperation (requestWith "abc")).result (log "abc")
        (bind ctx queryOperation (requestWith "xyz")).result (log "xyz") := by
  intro ctx log
  have hothers : ∀ q ∈ queryOperation.parameters, q ≠ queryNumber → ∀ r r' : Request,
      r.lookup? q.name q.location = r'.lookup? q.name q.location :=
    fun q hq hne => absurd (List.mem_singleton.mp hq) hne
  have hone : Value.coerce "1" .int64 = .ok (.int64 1) := rfl
  have htwo : Value.coerce "2" .int64 = .ok (.int64 2) := rfl
  have hnumbers : ReadAlike False queryOperation.parameters (requestWith "1") (requestWith "2") :=
    readAlike_of_text rfl rfl (.values hone htwo) fun q hq hne => hothers q hq hne _ _
  have habc : Value.coerce "abc" .int64 = .error ⟨"abc", .integer .invalidDigit⟩ := rfl
  have hxyz : Value.coerce "xyz" .int64 = .error ⟨"xyz", .integer .invalidDigit⟩ := rfl
  have hwords : ReadAlike True queryOperation.parameters (requestWith "abc") (requestWith "xyz") :=
    readAlike_of_text rfl rfl (.malformed trivial habc hxyz) fun q hq hne => hothers q hq hne _ _
  exact ⟨hnumbers, ((log_shows_malformed_texts_only hnumbers).1 ctx).2 not_false, hwords,
    ((log_shows_malformed_texts_only hwords).1 ctx).1⟩

/-- A malformed text stands in the log, where another one would leave another log. -/
theorem rejection_shows_malformed_text :
    let ctx : BindingContext := { schemas := [], validator := .standard, maxBodyOctets := 0 }
    Value.coerce "abc" queryNumber.type = .error ⟨"abc", .integer .invalidDigit⟩ ∧
      Value.coerce "xyz" queryNumber.type = .error ⟨"xyz", .integer .invalidDigit⟩ ∧
      aboveTrace (bind ctx queryOperation (requestWith "abc")).events ≠
        aboveTrace (bind ctx queryOperation (requestWith "xyz")).events := by
  intro ctx
  refine ⟨rfl, rfl, ?_⟩
  decide +kernel

end RequestBinding
