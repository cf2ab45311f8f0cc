import RequestBinding.Binding.Run
import RequestBinding.Proofs.Traversal

/-!
# What binding gives

Each parameter of an operation is resolved by itself: a scalar from the text at its location, a body
from the stream that the request carries. `bind_resolves_in_order` says that binding is no more than
that.

1. `result_visit` and `request_visit` say what one visit gives and which request it leaves.
2. `result_visitAll` follows the loop: what has been visited decides which body is left.
3. `result_bind_eq_mapM` states the whole run as one traversal of the parameters.
-/

namespace RequestBinding

/-! ## Parameters by themselves -/

namespace Parameter

/-- A parameter without a value is absent if it is optional. -/
def withoutValue (p : Parameter) : Except Stop BoundValue :=
  if p.required then .error (.failed (.missing p.name p.location)) else .ok .absent

/-- A scalar parameter is its text, read as the declared type. -/
def ofText (p : Parameter) (raw : String) : Except Stop BoundValue :=
  match Value.coerce raw p.type with
  | .ok v => .ok (.present v)
  | .error e => .error (.failed (.malformed p.name p.location e.message))

def resolveScalar (p : Parameter) (r : Request) : Except Stop BoundValue :=
  match r.lookup? p.name p.location with
  | none => p.withoutValue
  | some raw => p.ofText raw

/-- Asks the compiled schema that the parameter names, if it names one. -/
def judge (ctx : BindingContext) (p : Parameter) (payload : Octets) : Except Stop Unit :=
  match p.schema with
  | none => .ok ()
  | some name =>
    match ctx.schemas.get? name with
    | none => .error (.failed (.internal s!"schema '{name}' is not compiled"))
    | some schema => (ctx.validator schema payload).mapError fun violations =>
      .failed (.schemaViolated violations)

/-- A body parameter is its payload, judged and then decoded. No octets are no value. -/
def ofPayload (ctx : BindingContext) (p : Parameter) (payload : Octets) : Except Stop BoundValue :=
  if payload = [] then p.withoutValue
  else do
    p.judge ctx payload
    let v ← (Body.decode p.name p.type payload).mapError .failed
    return .present (.json v)

def resolveBody (ctx : BindingContext) (p : Parameter) : Option BodyStream → Except Stop BoundValue
  | none => p.withoutValue
  | some stream => (Body.readBounded ctx.maxBodyOctets stream).result >>= p.ofPayload ctx

end Parameter

/-- The body that is left when some parameters have been visited. -/
def Request.bodyAfter (r : Request) (visited : List Parameter) : Option BodyStream :=
  if visited.any Parameter.isBody then none else r.body

/-- Resolves parameter `i` of an operation by itself. Only the first body parameter finds a body. -/
def Operation.resolve (ctx : BindingContext) (op : Operation) (r : Request) (i : ℕ)
    (p : Parameter) : Except Stop BoundValue :=
  if p.isBody then p.resolveBody ctx (r.bodyAfter (op.parameters.take i)) else p.resolveScalar r

/-- The argument that a parameter at a place becomes. -/
def Operation.argument (ctx : BindingContext) (op : Operation) (r : Request) (q : Parameter × ℕ) :
    Except Stop Argument :=
  (op.resolve ctx r q.2 q.1).map (⟨q.1.name, q.1.location, ·⟩)

theorem Parameter.resolveBody_of_ok {ctx : BindingContext} {p : Parameter} {stream : BodyStream}
    {payload : Octets} (h : (Body.readBounded ctx.maxBodyOctets stream).result = .ok payload) :
    p.resolveBody ctx (some stream) = p.ofPayload ctx payload := by
  unfold Parameter.resolveBody
  simp only [h, ok_bind]

/-- The body is found behind scalar parameters, and behind no others. -/
theorem bodyAfter_eq_some_iff {r : Request} {visited : List Parameter} {stream : BodyStream} :
    r.bodyAfter visited = some stream ↔
      r.body = some stream ∧ ∀ p ∈ visited, p.isBody = false := by
  unfold Request.bodyAfter
  split_ifs with hany
  · obtain ⟨p, hp, hbody⟩ := List.any_eq_true.mp hany
    refine iff_of_false (by simp) fun h => ?_
    rw [h.2 p hp] at hbody
    cases hbody
  · refine (and_iff_left fun p hp => ?_).symm
    rw [Bool.eq_false_iff]
    exact fun hbody => hany (List.any_eq_true.mpr ⟨p, hp, hbody⟩)

/-- The same with the visited parameters told by their places. -/
theorem bodyAfter_take_eq_some_iff {ps : List Parameter} {r : Request} {i : ℕ} {stream : BodyStream} :
    r.bodyAfter (ps.take i) = some stream ↔
      r.body = some stream ∧ ∀ j < i, ∀ p, ps[j]? = some p → p.isBody = false := by
  rw [bodyAfter_eq_some_iff]
  refine and_congr_right fun _ => ⟨fun h j hj p hp => h p ?_, fun h p hp => ?_⟩
  · have htaken : (ps.take i)[j]? = some p := by rwa [List.getElem?_take_of_lt hj]
    exact List.mem_of_getElem? htaken
  · obtain ⟨j, hj, rfl⟩ := List.mem_take_iff_getElem.mp hp
    exact h j (by omega) _ (List.getElem?_eq_getElem (by omega))

theorem resolve_of_isBody {op : Operation} {p : Parameter} (hp : p.isBody = true)
    (ctx : BindingContext) (r : Request) (i : ℕ) :
    op.resolve ctx r i p = p.resolveBody ctx (r.bodyAfter (op.parameters.take i)) := if_pos hp

theorem resolve_of_not_isBody {op : Operation} {p : Parameter} (hp : p.isBody = false)
    (ctx : BindingContext) (r : Request) (i : ℕ) : op.resolve ctx r i p = p.resolveScalar r :=
  if_neg (by simp [hp])

/-- Parameters are resolved by what lookups find and by what the body is resolved to. -/
theorem resolve_of_lookup?_eq {ctx : BindingContext} {op : Operation} {r r' : Request}
    (hlookup : ∀ name l, r.lookup? name l = r'.lookup? name l)
    (hbody : ∀ p : Parameter, p.resolveBody ctx r.body = p.resolveBody ctx r'.body) (i : ℕ)
    (p : Parameter) : op.resolve ctx r i p = op.resolve ctx r' i p := by
  cases hp : p.isBody with
  | false =>
    rw [resolve_of_not_isBody hp, resolve_of_not_isBody hp]
    unfold Parameter.resolveScalar
    rw [hlookup]
  | true =>
    rw [resolve_of_isBody hp, resolve_of_isBody hp]
    unfold Request.bodyAfter
    split_ifs
    · rfl
    · exact hbody p

/-! ## One visit -/

@[simp] theorem result_unsupplied (p : Parameter) : (unsupplied p).result = p.withoutValue := by
  unfold unsupplied Parameter.withoutValue
  split_ifs <;> rfl

theorem result_visitScalar (i : ℕ) (p : Parameter) (r : Request) :
    (visitScalar i p r).result = p.resolveScalar r := by
  unfold visitScalar Parameter.resolveScalar
  cases r.lookup? p.name p.location with
  | none => by_cases hp : p.required <;> simp [hp]
  | some raw =>
    unfold Parameter.ofText
    cases h : Value.coerce raw p.type <;> simp [h]

theorem result_checkSchema (validator : Validator) (schema : CompiledSchema) (payload : Octets) :
    (Body.checkSchema validator schema payload).1.mapError .failed =
      (validator schema payload).mapError fun violations =>
        Stop.failed (.schemaViolated violations) := by
  unfold Body.checkSchema
  cases h : validator schema payload <;> rfl

theorem result_judgeBody (ctx : BindingContext) (p : Parameter) (payload : Octets) :
    (judgeBody ctx p payload).result = p.judge ctx payload := by
  unfold judgeBody Parameter.judge
  cases p.schema with
  | none => rfl
  | some name =>
    simp only [Traced.result_bind, Traced.result_enter, ok_bind]
    cases ctx.schemas.get? name with
    | none => simp
    | some schema =>
      simp only [Traced.result_bind, Traced.result_log, Traced.result_settle, ok_bind,
        result_checkSchema]

theorem result_settleBody (ctx : BindingContext) (p : Parameter) (payload : Octets) :
    (settleBody ctx p payload).result = p.ofPayload ctx payload := by
  unfold settleBody Parameter.ofPayload
  by_cases hp : payload = []
  · simp [hp]
  · rw [if_neg (by simpa using hp), if_neg hp]
    simp only [Traced.result_bind, result_judgeBody, Traced.result_enter, Traced.result_settle,
      ok_bind]
    rfl

theorem result_visitBody (ctx : BindingContext) (p : Parameter) (r : Request) :
    (visitBody ctx p r).result = p.resolveBody ctx r.body := by
  unfold visitBody
  cases r.body with
  | none => exact result_unsupplied p
  | some stream =>
    simp only [Traced.result_bind, Traced.result_enter, Traced.result_log, Traced.result_settle,
      ok_bind, result_settleBody]
    rfl

/-- A visit gives what the parameter is with the body that is there. -/
theorem result_visit (ctx : BindingContext) (i : ℕ) (p : Parameter) (r : Request) :
    (visit ctx i p r).result =
      if p.isBody then p.resolveBody ctx r.body else p.resolveScalar r := by
  unfold visit
  split_ifs
  · exact result_visitBody ctx p r
  · exact result_visitScalar i p r

/-- A visit takes the body if the parameter is one, and leaves all else. -/
theorem request_visit (ctx : BindingContext) (i : ℕ) (p : Parameter) (r : Request) :
    (visit ctx i p r).request = { r with body := if p.isBody then none else r.body } := by
  unfold visit visitBody
  split_ifs
  · cases h : r.body <;> simp [← h]
  · rfl

theorem lookup?_request_visit (ctx : BindingContext) (i : ℕ) (p : Parameter) (r : Request)
    (name : String) (l : Location) :
    (visit ctx i p r).request.lookup? name l = r.lookup? name l := by
  rw [request_visit]
  cases l <;> rfl

/-! ## The loop -/

/-- The request that is left when some parameters have been visited. -/
def Request.after (r : Request) (visited : List Parameter) : Request :=
  { r with body := r.bodyAfter visited }

@[simp] theorem Request.bodyAfter_nil (r : Request) : r.bodyAfter [] = r.body := rfl

@[simp] theorem Request.after_nil (r : Request) : r.after [] = r := rfl

@[simp] theorem Request.lookup?_after (r : Request) (visited : List Parameter) (name : String)
    (l : Location) : (r.after visited).lookup? name l = r.lookup? name l := by
  cases l <;> rfl

theorem Request.bodyAfter_concat (r : Request) (visited : List Parameter) (p : Parameter) :
    r.bodyAfter (visited ++ [p]) = if p.isBody then none else r.bodyAfter visited := by
  unfold Request.bodyAfter
  by_cases hp : p.isBody <;> simp [hp]

@[simp] theorem Parameter.resolveScalar_after (p : Parameter) (r : Request)
    (visited : List Parameter) : p.resolveScalar (r.after visited) = p.resolveScalar r := by
  unfold Parameter.resolveScalar
  rw [Request.lookup?_after]

/-- Visiting one more parameter. -/
theorem request_visit_after (ctx : BindingContext) (i : ℕ) (p : Parameter) (r : Request)
    (visited : List Parameter) :
    (visit ctx i p (r.after visited)).request = r.after (visited ++ [p]) := by
  rw [request_visit]
  unfold Request.after
  rw [Request.bodyAfter_concat]

/-- What a visit gives after those of the parameters before it. -/
theorem result_visit_after (ctx : BindingContext) (op : Operation) (r : Request)
    {visited rest : List Parameter} {p : Parameter} (hop : op.parameters = visited ++ p :: rest) :
    (visit ctx visited.length p (r.after visited)).result =
      op.resolve ctx r visited.length p := by
  rw [result_visit, Parameter.resolveScalar_after]
  unfold Operation.resolve
  rw [hop, List.take_left]
  rfl

theorem visitAll_cons_of_error {ctx : BindingContext} {i : ℕ} {p : Parameter} {r : Request}
    {e : Stop} (h : (visit ctx i p r).result = .error e) (ps : List Parameter)
    (args : Arguments) (consumed : ℕ) :
    visitAll ctx i (p :: ps) r args consumed =
      { result := .error e, steps := .enter (.extracting i) :: (visit ctx i p r).steps
        request := (visit ctx i p r).request
        consumed := consumed + (visit ctx i p r).consumed } := by
  rw [visitAll, h]

theorem visitAll_cons_of_ok {ctx : BindingContext} {i : ℕ} {p : Parameter} {r : Request}
    {v : BoundValue} (h : (visit ctx i p r).result = .ok v) (ps : List Parameter)
    (args : Arguments) (consumed : ℕ) :
    visitAll ctx i (p :: ps) r args consumed =
      let run := visitAll ctx (i + 1) ps (visit ctx i p r).request
        (args.push p.name p.location v) (consumed + (visit ctx i p r).consumed)
      { run with steps := .enter (.extracting i) :: (visit ctx i p r).steps ++ run.steps } := by
  rw [visitAll, h]

/-- The loop resolves the remaining parameters one after the other. -/
theorem result_visitAll (ctx : BindingContext) (op : Operation) (r : Request)
    (ps : List Parameter) : ∀ (visited : List Parameter) (args : Arguments) (consumed : ℕ),
      op.parameters = visited ++ ps →
        (visitAll ctx visited.length ps (r.after visited) args consumed).result =
          ((ps.zipIdx visited.length).mapM (op.argument ctx r)).map fun as =>
            { args with arguments := args.arguments ++ as } := by
  induction ps with
  | nil =>
    intro visited args consumed _
    simp [visitAll, pure, Except.pure]
  | cons p ps ih =>
    intro visited args consumed hop
    have hv := result_visit_after ctx op r hop
    rw [List.zipIdx_cons]
    cases h : op.resolve ctx r visited.length p with
    | error e =>
      rw [h] at hv
      have harg : op.argument ctx r (p, visited.length) = .error e := map_eq_error_iff.mpr h
      rw [visitAll_cons_of_error hv, mapM_cons_of_error harg, map_error]
    | ok v =>
      rw [h] at hv
      have harg : op.argument ctx r (p, visited.length) = .ok ⟨p.name, p.location, v⟩ :=
        map_eq_ok_iff.mpr ⟨v, h, rfl⟩
      have hrest := ih (visited ++ [p]) (args.push p.name p.location v)
        (consumed + (visit ctx visited.length p (r.after visited)).consumed) (by simp [hop])
      rw [List.length_append, List.length_singleton] at hrest
      rw [visitAll_cons_of_ok hv, mapM_cons_of_ok harg, request_visit_after]
      refine hrest.trans ?_
      cases (ps.zipIdx (visited.length + 1)).mapM (op.argument ctx r) with
      | error e => rfl
      | ok as => simp [Arguments.push]

/-- The last steps of a run depend on no more of the request than its id. -/
theorem closing_of_id_eq (op : Operation) {r r' : Request} (hid : r.id = r'.id)
    (result : Except Stop Arguments) : closing op r result = closing op r' result := by
  unfold closing
  rw [hid]

/-- A run is one traversal of the parameters. -/
theorem result_bind_eq_mapM (ctx : BindingContext) (op : Operation) (r : Request) :
    (bind ctx op r).result = (op.parameters.zipIdx.mapM (op.argument ctx r)).map fun as =>
      { requestId := r.id, operationId := op.id, arguments := as } := by
  have h := result_visitAll ctx op r op.parameters [] { requestId := r.id, operationId := op.id } 0
    rfl
  simp only [List.length_nil, Request.after_nil, List.nil_append] at h
  exact h

theorem argument_of_resolve_eq {ctx : BindingContext} {op : Operation} {r r' : Request}
    (h : ∀ i p, op.resolve ctx r i p = op.resolve ctx r' i p) :
    op.argument ctx r = op.argument ctx r' := by
  funext q
  unfold Operation.argument
  rw [h]

/-- Requests with one id whose parameters are resolved alike bind to the same result. -/
theorem result_bind_congr {ctx : BindingContext} {op : Operation} {r r' : Request}
    (hid : r.id = r'.id) (h : ∀ i p, op.resolve ctx r i p = op.resolve ctx r' i p) :
    (bind ctx op r).result = (bind ctx op r').result := by
  rw [result_bind_eq_mapM, result_bind_eq_mapM, argument_of_resolve_eq h, hid]

/-- Requests whose parameters are resolved alike bind to the same result, but for the request id. -/
theorem result_bind_of_resolve_eq {ctx : BindingContext} {op : Operation} {r r' : Request}
    (h : ∀ i p, op.resolve ctx r i p = op.resolve ctx r' i p) :
    (bind ctx op r').result =
      (bind ctx op r).result.map fun args => { args with requestId := r'.id } := by
  rw [result_bind_eq_mapM, result_bind_eq_mapM, argument_of_resolve_eq h]
  cases op.parameters.zipIdx.mapM (op.argument ctx r') with
  | error e => rfl
  | ok as => rfl

/-- Binding succeeds with exactly the arguments that the parameters become by themselves. -/
theorem result_bind_eq_ok_iff {ctx : BindingContext} {op : Operation} {r : Request}
    {args : Arguments} :
    (bind ctx op r).result = .ok args ↔
      args.requestId = r.id ∧ args.operationId = op.id ∧
      args.arguments.length = op.parameters.length ∧
      ∀ (i : ℕ) p, op.parameters[i]? = some p → ∃ v, op.resolve ctx r i p = .ok v ∧
        args.arguments[i]? = some ⟨p.name, p.location, v⟩ := by
  rw [result_bind_eq_mapM, map_eq_ok_iff]
  constructor
  · rintro ⟨as, has, rfl⟩
    obtain ⟨hlen, hall⟩ := mapM_eq_ok_iff.mp has
    refine ⟨rfl, rfl, by simpa using hlen, fun i p hp => ?_⟩
    obtain ⟨a, ha, hai⟩ := hall i (p, i) (getElem?_zipIdx_eq_some_iff.mpr ⟨hp, rfl⟩)
    obtain ⟨v, hv, rfl⟩ := map_eq_ok_iff.mp ha
    exact ⟨v, hv, hai⟩
  · rintro ⟨hr, hop, hlen, hall⟩
    refine ⟨args.arguments, mapM_eq_ok_iff.mpr ⟨by simpa using hlen, fun i q hq => ?_⟩, ?_⟩
    · obtain ⟨hp, hi⟩ := getElem?_zipIdx_eq_some_iff.mp hq
      obtain ⟨v, hv, hai⟩ := hall i q.1 hp
      exact ⟨_, map_eq_ok_iff.mpr ⟨v, by rw [hi, hv], rfl⟩, hai⟩
    · rw [← hr, ← hop]

/-- Binding fails with the error of the first parameter that cannot be resolved. -/
theorem result_bind_eq_error_iff {ctx : BindingContext} {op : Operation} {r : Request}
    {e : Stop} :
    (bind ctx op r).result = .error e ↔
      ∃ (i : ℕ) (p : Parameter), op.parameters[i]? = some p ∧ op.resolve ctx r i p = .error e ∧
        ∀ j < i, ∀ q, op.parameters[j]? = some q → ∃ v, op.resolve ctx r j q = .ok v := by
  rw [result_bind_eq_mapM, map_eq_error_iff, mapM_eq_error_iff]
  constructor
  · rintro ⟨i, q, hq, he, hbefore⟩
    obtain ⟨hp, rfl⟩ := getElem?_zipIdx_eq_some_iff.mp hq
    refine ⟨q.2, q.1, hp, map_eq_error_iff.mp he, fun j hj p hpj => ?_⟩
    obtain ⟨a, ha⟩ := hbefore j hj (p, j) (getElem?_zipIdx_eq_some_iff.mpr ⟨hpj, rfl⟩)
    obtain ⟨v, hv, -⟩ := map_eq_ok_iff.mp ha
    exact ⟨v, hv⟩
  · rintro ⟨i, p, hp, he, hbefore⟩
    refine ⟨i, (p, i), getElem?_zipIdx_eq_some_iff.mpr ⟨hp, rfl⟩, map_eq_error_iff.mpr he,
      fun j hj q hq => ?_⟩
    obtain ⟨hqj, hqi⟩ := getElem?_zipIdx_eq_some_iff.mp hq
    obtain ⟨v, hv⟩ := hbefore j hj q.1 hqj
    exact ⟨_, map_eq_ok_iff.mpr ⟨v, by rw [hqi, hv], rfl⟩⟩

/-- The run fails with the error of parameter `i` or of one before it. -/
theorem bind_eq_error_of_resolve {ctx : BindingContext} {op : Operation} {r : Request} {i : ℕ}
    {p : Parameter} {e : Stop} (hp : op.parameters[i]? = some p)
    (he : op.resolve ctx r i p = .error e) :
    (bind ctx op r).result = .error e ∨
      ∃ j < i, ∃ q e', op.parameters[j]? = some q ∧ op.resolve ctx r j q = .error e' ∧
        (bind ctx op r).result = .error e' := by
  cases h : (bind ctx op r).result with
  | ok args =>
    obtain ⟨-, -, -, hall⟩ := result_bind_eq_ok_iff.mp h
    obtain ⟨v, hv, -⟩ := hall i p hp
    rw [he] at hv
    cases hv
  | error e' =>
    obtain ⟨j, q, hq, he', hbefore⟩ := result_bind_eq_error_iff.mp h
    obtain hlt | rfl | hgt := Nat.lt_trichotomy j i
    · exact .inr ⟨j, hlt, q, e', hq, he', rfl⟩
    · obtain rfl : p = q := Option.some.inj (hp.symm.trans hq)
      obtain rfl : e' = e := Except.error.inj (he'.symm.trans he)
      exact .inl rfl
    · obtain ⟨v, hv⟩ := hbefore i hgt p hp
      rw [he] at hv
      cases hv

/-- Binding succeeds if every parameter can be resolved by itself, with the arguments that the
parameters become in declaration order. Otherwise it fails with the error of the first parameter that
cannot be resolved. -/
theorem bind_resolves_in_order (ctx : BindingContext) (op : Operation) (r : Request) :
    ((∃ args, (bind ctx op r).result = .ok args) ↔
      ∀ (i : ℕ) p, op.parameters[i]? = some p → ∃ v, op.resolve ctx r i p = .ok v) ∧
    (∀ args, (bind ctx op r).result = .ok args ↔
      args.requestId = r.id ∧ args.operationId = op.id ∧
      args.arguments.length = op.parameters.length ∧
      ∀ (i : ℕ) p, op.parameters[i]? = some p → ∃ v, op.resolve ctx r i p = .ok v ∧
        args.arguments[i]? = some ⟨p.name, p.location, v⟩) ∧
    ∀ e, (bind ctx op r).result = .error e ↔
      ∃ (i : ℕ) (p : Parameter), op.parameters[i]? = some p ∧ op.resolve ctx r i p = .error e ∧
        ∀ j < i, ∀ q, op.parameters[j]? = some q → ∃ v, op.resolve ctx r j q = .ok v := by
  refine ⟨⟨?_, ?_⟩, fun args => result_bind_eq_ok_iff, fun e => result_bind_eq_error_iff⟩
  · rintro ⟨args, h⟩ i p hp
    obtain ⟨-, -, -, hall⟩ := result_bind_eq_ok_iff.mp h
    obtain ⟨v, hv, -⟩ := hall i p hp
    exact ⟨v, hv⟩
  · intro hall
    cases h : (bind ctx op r).result with
    | ok args => exact ⟨args, rfl⟩
    | error e =>
      obtain ⟨i, p, hp, he, -⟩ := result_bind_eq_error_iff.mp h
      obtain ⟨v, hv⟩ := hall i p hp
      rw [hv] at he
      cases he

end RequestBinding
