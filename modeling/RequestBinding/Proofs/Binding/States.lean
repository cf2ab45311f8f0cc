import RequestBinding.Handler.Dispatcher
import RequestBinding.Proofs.Binding.Frame

/-!
# The states of a run

A run is pending, passes one block of states for each parameter that it visits, and comes to one final
state, unless a panic breaks it off while it reads the body. `observed_states` states this for runs and
for dispatched requests.

1. `Traced.Passes` says which states a part of a run enters before it may fail; parts in sequence pass
   their states in sequence.
2. Each pipeline passes its states (`passes_visitScalar`, `passes_visitBody`).
3. `visitAll_blocks` collects the blocks of the loop.
-/

namespace RequestBinding

/-! ## Parts of runs -/

/-- The failed state of a result that is an error; a panic has none. -/
def failure {α : Type} : Except Stop α → List BindingState
  | .ok _ => []
  | .error (.failed e) => [.failed e]
  | .error (.panicked _) => []

@[simp] theorem failure_ok {α : Type} (a : α) : failure (.ok a) = [] := rfl

@[simp] theorem failure_failed {α : Type} (e : BindingError) :
    failure (.error (.failed e) : Except Stop α) = [.failed e] := rfl

@[simp] theorem failure_panicked {α : Type} (text : String) :
    failure (.error (.panicked text) : Except Stop α) = [] := rfl

theorem failure_error {α β : Type} (e : Stop) :
    failure (.error e : Except Stop α) = failure (.error e : Except Stop β) := by
  cases e <;> rfl

namespace Traced

variable {α β : Type}

/-- Whether a part of a run enters the given states, and then the failed state just if it fails. -/
def Passes (x : Traced α) (states : List BindingState) : Prop :=
  enteredStates x.steps = states ++ failure x.result

theorem steps_bind_of_ok {x : Traced α} {a : α} (h : x.result = .ok a) (f : α → Traced β) :
    (x >>= f).steps = x.steps ++ (f a).steps := by
  obtain ⟨steps, result⟩ := x
  obtain rfl : result = .ok a := h
  rfl

theorem steps_bind_of_error {x : Traced α} {e : Stop} (h : x.result = .error e)
    (f : α → Traced β) : (x >>= f).steps = x.steps := by
  obtain ⟨steps, result⟩ := x
  obtain rfl : result = .error e := h
  rfl

theorem passes_pure (a : α) : (pure a : Traced α).Passes [] := rfl

theorem passes_enter (s : BindingState) : (enter s).Passes [s] := rfl

theorem passes_log (events : List LogEvent) : (log events).Passes [] := by
  unfold Passes log
  rw [enteredStates_map_log]
  rfl

theorem passes_fail (e : BindingError) : (fail e : Traced α).Passes [] := rfl

theorem passes_settle (result : Except Stop α) : (settle result).Passes [] := by
  rcases result with (_ | _) | _ <;> rfl

theorem Passes.bind_ok {x : Traced α} {f : α → Traced β} {a : α} {s t : List BindingState}
    (hx : x.Passes s) (h : x.result = .ok a) (hf : (f a).Passes t) : (x >>= f).Passes (s ++ t) := by
  unfold Passes at *
  rw [steps_bind_of_ok h, enteredStates_append, hx, hf, result_bind, h, ok_bind]
  simp [failure]

theorem Passes.bind_error {x : Traced α} {f : α → Traced β} {e : Stop}
    {s : List BindingState} (hx : x.Passes s) (h : x.result = .error e) : (x >>= f).Passes s := by
  unfold Passes at *
  rw [steps_bind_of_error h, hx, result_bind, h, error_bind, failure_error]

end Traced

/-! ## The pipelines -/

open Traced

theorem passes_unsupplied (p : Parameter) : (unsupplied p).Passes [] := by
  unfold unsupplied
  split_ifs
  · exact passes_fail _
  · exact passes_pure _

/-- The states of a scalar parameter after its extraction. -/
def scalarStates (i : ℕ) (p : Parameter) (r : Request) : List BindingState :=
  if (r.lookup? p.name p.location).isSome then [.coercing i] else []

theorem passes_visitScalar (i : ℕ) (p : Parameter) (r : Request) :
    (visitScalar i p r).Passes (scalarStates i p r) := by
  unfold visitScalar scalarStates
  cases r.lookup? p.name p.location with
  | none =>
    by_cases hp : p.required
    · simpa [hp] using passes_unsupplied p
    · simp only [hp]
      exact (passes_log _).bind_ok rfl (passes_unsupplied p)
  | some raw =>
    exact (passes_enter _).bind_ok rfl ((passes_log _).bind_ok rfl (passes_settle _))

/-- The states of the body pipeline in their order. -/
def bodyPipeline (p : Parameter) : List BindingState :=
  .bodyReading :: ((if p.schema.isSome then [.bodyValidating] else []) ++ [.bodyDecoding])

theorem passes_judgeBody (ctx : BindingContext) (p : Parameter) (payload : Octets) :
    (judgeBody ctx p payload).Passes (if p.schema.isSome then [.bodyValidating] else []) := by
  unfold judgeBody
  cases p.schema with
  | none => exact passes_pure ()
  | some name =>
    refine (passes_enter .bodyValidating).bind_ok rfl (t := []) ?_
    cases ctx.schemas.get? name with
    | none => exact (passes_log _).bind_ok rfl (passes_fail _)
    | some schema => exact (passes_log _).bind_ok rfl (passes_settle _)

theorem passes_settleBody_nil (ctx : BindingContext) (p : Parameter) :
    (settleBody ctx p []).Passes [] := passes_unsupplied p

theorem passes_settleBody_of_error {ctx : BindingContext} {p : Parameter} {payload : Octets}
    {e : Stop} (hp : payload ≠ []) (h : p.judge ctx payload = .error e) :
    (settleBody ctx p payload).Passes (if p.schema.isSome then [.bodyValidating] else []) := by
  unfold settleBody
  rw [if_neg (by simpa using hp)]
  exact (passes_judgeBody ctx p payload).bind_error ((result_judgeBody ctx p payload).trans h)

theorem passes_settleBody_of_ok {ctx : BindingContext} {p : Parameter} {payload : Octets}
    (hp : payload ≠ []) (h : p.judge ctx payload = .ok ()) :
    (settleBody ctx p payload).Passes
      ((if p.schema.isSome then [.bodyValidating] else []) ++ [.bodyDecoding]) := by
  unfold settleBody
  rw [if_neg (by simpa using hp)]
  exact (passes_judgeBody ctx p payload).bind_ok ((result_judgeBody ctx p payload).trans h)
    ((passes_enter _).bind_ok rfl (passes_settle _))

theorem passes_visitBody_of_error {ctx : BindingContext} {p : Parameter} {r : Request}
    {stream : BodyStream} {e : Stop} (hr : r.body = some stream)
    (h : (Body.readBounded ctx.maxBodyOctets stream).result = .error e) :
    (visitBody ctx p r).Passes [.bodyReading] := by
  unfold visitBody
  rw [hr]
  exact (passes_enter _).bind_ok rfl ((passes_log _).bind_ok rfl
    ((passes_settle _).bind_error (by rw [result_settle, h])))

theorem passes_visitBody_of_ok {ctx : BindingContext} {p : Parameter} {r : Request}
    {stream : BodyStream} {payload : Octets} {states : List BindingState}
    (hr : r.body = some stream)
    (h : (Body.readBounded ctx.maxBodyOctets stream).result = .ok payload)
    (hs : (settleBody ctx p payload).Passes states) :
    (visitBody ctx p r).Passes (.bodyReading :: states) := by
  unfold visitBody
  rw [hr]
  exact (passes_enter _).bind_ok rfl ((passes_log _).bind_ok rfl
    ((passes_settle _).bind_ok (by rw [result_settle, h]) hs))

/-- The states of a body parameter after its extraction: the pipeline as far as it goes. -/
structure BodyStates (ctx : BindingContext) (p : Parameter) (body : Option BodyStream)
    (states : List BindingState) : Prop where
  pipeline : states <+: bodyPipeline p
  reading : .bodyReading ∈ states ↔ body.isSome
  validating : .bodyValidating ∈ states ↔ p.schema.isSome ∧ ∃ payload, ReadsTo ctx body payload
  decoding : .bodyDecoding ∈ states ↔
    ∃ payload, ReadsTo ctx body payload ∧ p.judge ctx payload = .ok ()

theorem bodyStates_none (ctx : BindingContext) (p : Parameter) : BodyStates ctx p none [] where
  pipeline := List.nil_prefix
  reading := by simp
  validating := by simp [not_readsTo_none]
  decoding := by simp [not_readsTo_none]

/-- A body that cannot be read, or that holds nothing, comes no further than to be read. -/
theorem bodyStates_unread {ctx : BindingContext} {stream : BodyStream}
    (h : ∀ payload, ¬ ReadsTo ctx (some stream) payload) (p : Parameter) :
    BodyStates ctx p (some stream) [.bodyReading] where
  pipeline := List.prefix_append [BindingState.bodyReading] _
  reading := by simp
  validating := by simp [h]
  decoding := by simp [h]

theorem bodyStates_refused {ctx : BindingContext} {p : Parameter} {stream : BodyStream}
    {payload : Octets} {e : Stop} (h : ReadsTo ctx (some stream) payload)
    (hj : p.judge ctx payload = .error e) :
    BodyStates ctx p (some stream)
      (.bodyReading :: if p.schema.isSome then [.bodyValidating] else []) where
  pipeline := ⟨[.bodyDecoding], rfl⟩
  reading := by simp
  validating := by
    have hread : ∃ payload, ReadsTo ctx (some stream) payload := ⟨payload, h⟩
    cases p.schema <;> simp [hread]
  decoding := by
    have hnone : ¬ ∃ payload, ReadsTo ctx (some stream) payload ∧ p.judge ctx payload = .ok () := by
      rintro ⟨other, ho, hok⟩
      obtain rfl : payload = other :=
        Except.ok.inj ((readsTo_some_iff.mp h).1.symm.trans (readsTo_some_iff.mp ho).1)
      rw [hj] at hok
      cases hok
    cases p.schema <;> simp [hnone]

theorem bodyStates_decoded {ctx : BindingContext} {p : Parameter} {stream : BodyStream}
    {payload : Octets} (h : ReadsTo ctx (some stream) payload)
    (hj : p.judge ctx payload = .ok ()) : BodyStates ctx p (some stream) (bodyPipeline p) where
  pipeline := List.prefix_refl _
  reading := by simp [bodyPipeline]
  validating := by
    have hread : ∃ payload, ReadsTo ctx (some stream) payload := ⟨payload, h⟩
    unfold bodyPipeline
    cases p.schema <;> simp [hread]
  decoding := by
    have hread : ∃ payload, ReadsTo ctx (some stream) payload ∧ p.judge ctx payload = .ok () :=
      ⟨payload, h, hj⟩
    simp [bodyPipeline, hread]

/-- The pipeline of a body passes its states. -/
theorem passes_visitBody (ctx : BindingContext) (p : Parameter) (r : Request) :
    ∃ states, (visitBody ctx p r).Passes states ∧ BodyStates ctx p r.body states := by
  cases hr : r.body with
  | none =>
    refine ⟨[], ?_, bodyStates_none ctx p⟩
    unfold visitBody
    rw [hr]
    exact passes_unsupplied p
  | some stream =>
    cases h : (Body.readBounded ctx.maxBodyOctets stream).result with
    | error e =>
      refine ⟨_, passes_visitBody_of_error hr h, bodyStates_unread (fun payload hp => ?_) p⟩
      rw [readsTo_some_iff, h] at hp
      cases hp.1
    | ok payload =>
      by_cases hp : payload = []
      · subst hp
        refine ⟨_, passes_visitBody_of_ok hr h (passes_settleBody_nil ctx p),
          bodyStates_unread (fun payload hp => ?_) p⟩
        rw [readsTo_some_iff, h] at hp
        exact hp.2 (Except.ok.inj hp.1).symm
      · have hread : ReadsTo ctx (some stream) payload := readsTo_some_iff.mpr ⟨h, hp⟩
        cases hj : p.judge ctx payload with
        | error e =>
          exact ⟨_, passes_visitBody_of_ok hr h (passes_settleBody_of_error hp hj),
            bodyStates_refused hread hj⟩
        | ok u =>
          exact ⟨_, passes_visitBody_of_ok hr h (passes_settleBody_of_ok hp hj),
            bodyStates_decoded hread hj⟩

/-! ## Whole runs -/

/-- The block of states of parameter `i`. -/
inductive Block (ctx : BindingContext) (op : Operation) (r : Request) (i : ℕ) (p : Parameter) :
    List BindingState → Prop
  | scalar (hp : p.isBody = false) : Block ctx op r i p (.extracting i :: scalarStates i p r)
  | body {states : List BindingState} (hp : p.isBody = true)
      (h : BodyStates ctx p (r.bodyAfter (op.parameters.take i)) states) :
      Block ctx op r i p (.extracting i :: states)

/-- A visit adds a block, and the failed state just if it fails. -/
theorem visit_block (ctx : BindingContext) (op : Operation) (r : Request)
    {visited rest : List Parameter} {p : Parameter} (hop : op.parameters = visited ++ p :: rest) :
    ∃ states, (visit ctx visited.length p (r.after visited)).Passes states ∧
      Block ctx op r visited.length p (.extracting visited.length :: states) := by
  have htake : op.parameters.take visited.length = visited := by rw [hop, List.take_left]
  unfold visit
  cases hp : p.isBody with
  | true =>
    obtain ⟨states, hpass, hstates⟩ := passes_visitBody ctx p (r.after visited)
    exact ⟨states, hpass, .body hp (by rw [htake]; exact hstates)⟩
  | false =>
    refine ⟨_, passes_visitScalar visited.length p (r.after visited), ?_⟩
    have hs : scalarStates visited.length p (r.after visited) = scalarStates visited.length p r := by
      unfold scalarStates
      rw [Request.lookup?_after]
    rw [hs]
    exact .scalar hp

/-- Blocks for parameters from place `i` on, as far as a run with the given result visits them: all of
them if it succeeds, and else those up to the first that fails. -/
structure Blocks (ctx : BindingContext) (op : Operation) (r : Request) (i : ℕ)
    (ps : List Parameter) (blocks : List (List BindingState))
    (result : Except Stop Arguments) : Prop where
  block : ∀ (j : ℕ) b, blocks[j]? = some b → ∃ p, ps[j]? = some p ∧ Block ctx op r (i + j) p b
  complete : ∀ args, result = .ok args → blocks.length = ps.length
  last : ∀ e, result = .error e → ∃ j p, blocks.length = j + 1 ∧ ps[j]? = some p ∧
    op.resolve ctx r (i + j) p = .error e ∧
    ∀ k < j, ∀ q, ps[k]? = some q → ∃ v, op.resolve ctx r (i + k) q = .ok v

/-- The block of a parameter that fails is the last. -/
theorem Blocks.failed {ctx : BindingContext} {op : Operation} {r : Request} {i : ℕ} {p : Parameter}
    {b : List BindingState} {e : Stop} (hb : Block ctx op r i p b)
    (hp : op.resolve ctx r i p = .error e) (ps : List Parameter) :
    Blocks ctx op r i (p :: ps) [b] (.error e) where
  block := by
    intro j c hc
    obtain ⟨rfl, rfl⟩ : j = 0 ∧ b = c := by cases j <;> simp_all
    exact ⟨p, rfl, hb⟩
  complete := by
    intro args hargs
    cases hargs
  last := by
    rintro e' ⟨⟩
    exact ⟨0, p, rfl, rfl, hp, fun k hk => absurd hk (Nat.not_lt_zero k)⟩

/-- One more block in front. -/
theorem Blocks.cons {ctx : BindingContext} {op : Operation} {r : Request} {i : ℕ} {p : Parameter}
    {ps : List Parameter} {b : List BindingState} {blocks : List (List BindingState)}
    {result : Except Stop Arguments} {v : BoundValue} (hb : Block ctx op r i p b)
    (hp : op.resolve ctx r i p = .ok v) (h : Blocks ctx op r (i + 1) ps blocks result) :
    Blocks ctx op r i (p :: ps) (b :: blocks) result where
  block := by
    intro j c hc
    cases j with
    | zero =>
      obtain rfl : b = c := by simpa using hc
      exact ⟨p, rfl, hb⟩
    | succ j =>
      obtain ⟨q, hq, hblock⟩ := h.block j c (by simpa using hc)
      exact ⟨q, by simpa using hq, by rwa [Nat.add_right_comm] at hblock⟩
  complete := by
    intro args hargs
    rw [List.length_cons, List.length_cons, h.complete args hargs]
  last := by
    intro e he
    obtain ⟨j, q, hlen, hq, hfail, hbefore⟩ := h.last e he
    refine ⟨j + 1, q, by rw [List.length_cons, hlen], by simpa using hq,
      by rwa [Nat.add_right_comm] at hfail, fun k hk w hw => ?_⟩
    cases k with
    | zero =>
      obtain rfl : p = w := by simpa using hw
      exact ⟨v, hp⟩
    | succ k =>
      obtain ⟨u, hu⟩ := hbefore k (Nat.lt_of_succ_lt_succ hk) w (by simpa using hw)
      exact ⟨u, by rwa [Nat.add_right_comm] at hu⟩

/-- The loop adds the blocks of what it visits, and the failed state just if it fails. -/
theorem visitAll_blocks (ctx : BindingContext) (op : Operation) (r : Request)
    (ps : List Parameter) : ∀ (visited : List Parameter) (args : Arguments) (consumed : ℕ),
      op.parameters = visited ++ ps →
        ∃ blocks, enteredStates (visitAll ctx visited.length ps (r.after visited) args consumed).steps =
            blocks.flatten ++
              failure (visitAll ctx visited.length ps (r.after visited) args consumed).result ∧
          Blocks ctx op r visited.length ps blocks
            (visitAll ctx visited.length ps (r.after visited) args consumed).result := by
  induction ps with
  | nil =>
    intro visited args consumed _
    exact ⟨[], rfl, ⟨by simp, fun _ _ => rfl, fun e he => by cases he⟩⟩
  | cons p ps ih =>
    intro visited args consumed hop
    obtain ⟨states, hpass, hblock⟩ := visit_block ctx op r hop
    have hres := result_visit_after ctx op r hop
    unfold Traced.Passes at hpass
    cases hv : (visit ctx visited.length p (r.after visited)).result with
    | error e =>
      rw [hv] at hpass
      rw [visitAll_cons_of_error hv]
      refine ⟨[.extracting visited.length :: states], ?_, .failed hblock (hres.symm.trans hv) ps⟩
      rw [enteredStates_enter, hpass, failure_error e, List.flatten_singleton, List.cons_append]
    | ok v =>
      rw [hv] at hpass
      obtain ⟨blocks, hsteps, hblocks⟩ := ih (visited ++ [p]) (args.push p.name p.location v)
        (consumed + (visit ctx visited.length p (r.after visited)).consumed) (by simp [hop])
      rw [List.length_append, List.length_singleton] at hsteps hblocks
      rw [visitAll_cons_of_ok hv, request_visit_after]
      refine ⟨(.extracting visited.length :: states) :: blocks, ?_,
        hblocks.cons hblock (hres.symm.trans hv)⟩
      simp [hpass, hsteps]

/-- A body that is never read to its end has been in reading only. -/
theorem BodyStates.eq_reading {ctx : BindingContext} {p : Parameter} {stream : BodyStream}
    {states : List BindingState} (h : BodyStates ctx p (some stream) states)
    (hunread : ∀ payload, ¬ ReadsTo ctx (some stream) payload) : states = [.bodyReading] := by
  obtain ⟨rest, hrest⟩ := h.pipeline
  have hread : .bodyReading ∈ states := h.reading.mpr rfl
  have hvalidating : .bodyValidating ∉ states := fun hv =>
    hunread _ (h.validating.mp hv).2.choose_spec
  have hdecoding : .bodyDecoding ∉ states := fun hd =>
    hunread _ (h.decoding.mp hd).choose_spec.1
  rcases states with _ | ⟨first, _ | ⟨second, others⟩⟩
  · simp at hread
  · rw [bodyPipeline, List.singleton_append] at hrest
    rw [(List.cons.inj hrest).1]
  · -- a second state would come behind the reading in the pipeline
    exfalso
    have htail := (List.cons.inj hrest).2
    split_ifs at htail <;> obtain rfl := (List.cons.inj htail).1 <;>
      simp at hvalidating hdecoding

/-- The states of a run: pending, the blocks of the visited parameters, and one final state, which says
whether the run succeeded and how it failed. A run that a panic breaks off has none. -/
structure RunStates (ctx : BindingContext) (op : Operation) (r : Request)
    (blocks : List (List BindingState)) (final : Option BindingState) : Prop where
  states : (bind ctx op r).states = .pending :: (blocks.flatten ++ final.toList)
  visited : Blocks ctx op r 0 op.parameters blocks (bind ctx op r).result
  dispatching : final = some .dispatching ↔ ∃ args, (bind ctx op r).result = .ok args
  failed : ∀ e, final = some (.failed e) ↔ (bind ctx op r).result = .error (.failed e)
  brokenOff : final = none ↔ ∃ text, (bind ctx op r).result = .error (.panicked text)
  /-- This is where the run comes to a body that declares more octets than there is room for. -/
  overflow : final = none ↔ op.ReachesBody ctx r ∧
    ∃ stream, r.body = some stream ∧ Body.Overflows ctx.maxBodyOctets stream
  /-- Then the last thing that shows is that the body is read. -/
  unread : final = none → ∃ i, blocks.getLast? = some [.extracting i, .bodyReading]

/-- The last block of a run that a panic breaks off. -/
theorem Blocks.getLast?_of_panicked {ctx : BindingContext} {op : Operation} {r : Request}
    {blocks : List (List BindingState)} {text : String}
    (h : Blocks ctx op r 0 op.parameters blocks (.error (.panicked text))) :
    ∃ i, blocks.getLast? = some [.extracting i, .bodyReading] := by
  obtain ⟨j, p, hlength, hp, hpanic, -⟩ := h.last _ rfl
  have hlast : blocks.getLast? = blocks[j]? := by
    rw [List.getLast?_eq_getElem?, hlength, Nat.add_sub_cancel]
  obtain ⟨b, hb⟩ : ∃ b, blocks[j]? = some b := ⟨_, List.getElem?_eq_getElem (by omega)⟩
  obtain ⟨q, hq, hblock⟩ := h.block j b hb
  obtain rfl : p = q := Option.some.inj (hp.symm.trans hq)
  rw [Nat.zero_add] at hpanic hblock
  refine ⟨j, hlast.trans (hb.trans ?_)⟩
  cases hblock with
  | scalar hscalar =>
    rw [resolve_of_not_isBody hscalar] at hpanic
    cases scalarFailure_of_resolveScalar hpanic
  | body hbody hstates =>
    rw [resolve_of_isBody hbody] at hpanic
    generalize r.bodyAfter (op.parameters.take j) = body at hpanic hstates
    cases bodyFailure_of_resolveBody hpanic with
    | @overflowed stream hfound hover =>
      subst hfound
      rw [hstates.eq_reading fun payload hread => ?_]
      rw [readsTo_some_iff, Body.readBounded_of_overflows hover] at hread
      cases hread.1

theorem bind_runStates (ctx : BindingContext) (op : Operation) (r : Request) :
    ∃ blocks final, RunStates ctx op r blocks final := by
  obtain ⟨blocks, hsteps, hblocks⟩ := visitAll_blocks ctx op r op.parameters []
    { requestId := r.id, operationId := op.id } 0 rfl
  rw [List.length_nil, Request.after_nil] at hsteps hblocks
  have hstates : (bind ctx op r).states = .pending :: (blocks.flatten ++
      failure (bind ctx op r).result ++ enteredStates (closing op r (bind ctx op r).result)) := by
    unfold Run.states bind
    rw [enteredStates_append, hsteps]
  have hoverflow : (∃ text, (bind ctx op r).result = .error (.panicked text)) ↔
      op.ReachesBody ctx r ∧
        ∃ stream, r.body = some stream ∧ Body.Overflows ctx.maxBodyOctets stream := by
    simp only [result_bind_eq_panicked_iff, exists_eq_left]
  obtain ⟨final, hfinal, hdispatching, hfailed, hbroken⟩ : ∃ final : Option BindingState,
      failure (bind ctx op r).result ++ enteredStates (closing op r (bind ctx op r).result) =
        final.toList ∧
      (final = some .dispatching ↔ ∃ args, (bind ctx op r).result = .ok args) ∧
      (∀ e, final = some (.failed e) ↔ (bind ctx op r).result = .error (.failed e)) ∧
      (final = none ↔ ∃ text, (bind ctx op r).result = .error (.panicked text)) := by
    rcases h : (bind ctx op r).result with (e | text) | args
    · refine ⟨some (.failed e), ?_, ?_, ?_, ?_⟩ <;> simp [closing]
    · refine ⟨none, ?_, ?_, ?_, ?_⟩ <;> simp [closing]
    · refine ⟨some .dispatching, ?_, ?_, ?_, ?_⟩ <;> simp [closing]
  refine ⟨blocks, final, ?_, hblocks, hdispatching, hfailed, hbroken, hbroken.trans hoverflow,
    fun hnone => ?_⟩
  · rw [hstates, List.append_assoc, hfinal]
  · have hvisited : Blocks ctx op r 0 op.parameters blocks (bind ctx op r).result := hblocks
    obtain ⟨text, hpanic⟩ := hbroken.mp hnone
    rw [hpanic] at hvisited
    exact hvisited.getLast?_of_panicked

/-- Only the block of a scalar parameter that has a text coerces. -/
theorem Block.of_coercing {ctx : BindingContext} {op : Operation} {r : Request} {i j : ℕ}
    {p : Parameter} {b : List BindingState} (hb : Block ctx op r j p b) (h : .coercing i ∈ b) :
    i = j ∧ p.isBody = false ∧ ∃ raw, r.lookup? p.name p.location = some raw := by
  cases hb with
  | scalar hp =>
    unfold scalarStates at h
    split_ifs at h with hr
    · obtain rfl : i = j := by simpa using h
      exact ⟨rfl, hp, Option.isSome_iff_exists.mp hr⟩
    · simp at h
  | body hp hstates =>
    obtain h | h := List.mem_cons.mp h
    · cases h
    · have hmem := hstates.pipeline.subset h
      unfold bodyPipeline at hmem
      split_ifs at hmem <;> simp at hmem

/-- A run coerces only texts that the request has for scalar parameters. -/
theorem lookup?_of_coercing {ctx : BindingContext} {op : Operation} {r : Request} {i : ℕ}
    (h : .coercing i ∈ (bind ctx op r).states) :
    ∃ p raw, op.parameters[i]? = some p ∧ p.isBody = false ∧
      r.lookup? p.name p.location = some raw := by
  obtain ⟨blocks, final, hrun⟩ := bind_runStates ctx op r
  have hfinal : final ≠ some (.coercing i) := by
    rcases hres : (bind ctx op r).result with (e | text) | args
    · rw [(hrun.failed e).mpr hres]
      simp
    · rw [hrun.brokenOff.mpr ⟨text, hres⟩]
      simp
    · rw [hrun.dispatching.mpr ⟨args, hres⟩]
      simp
  rw [hrun.states] at h
  obtain ⟨b, hb, hmem⟩ : ∃ b ∈ blocks, .coercing i ∈ b := by simpa [hfinal] using h
  obtain ⟨j, hj⟩ := List.mem_iff_getElem?.mp hb
  obtain ⟨p, hp, hblock⟩ := hrun.visited.block j b hj
  rw [Nat.zero_add] at hblock
  obtain ⟨rfl, hscalar, raw, hraw⟩ := hblock.of_coercing hmem
  exact ⟨p, raw, hp, hscalar, hraw⟩

/-- What an observer of a dispatched request sees: nothing of a request that is refused, the run of one
that is not bound, and done after the dispatching of one that is. -/
structure DispatchedStates (d : Dispatcher) (id : String) (r : Request)
    (states : List BindingState) : Prop where
  unknown : d.service.operation? id = none → states = []
  unhandled : d.handlers.get? id = none → states = []
  rejected : ∀ op h e, d.service.operation? id = some op → d.handlers.get? id = some h →
    (d.service.bind op r).result = .error e → states = (d.service.bind op r).states
  handled : ∀ op h args, d.service.operation? id = some op → d.handlers.get? id = some h →
    (d.service.bind op r).result = .ok args →
      ∃ front, (d.service.bind op r).states = front ++ [.dispatching] ∧
        states = front ++ [.dispatching, .done]

theorem dispatchedStates_dispatchObserved (d : Dispatcher) (id : String) (r : Request) :
    DispatchedStates d id r (d.dispatchObserved id r).value.2 where
  unknown := by
    intro hop
    simp [Dispatcher.dispatchObserved, Dispatcher.run, hop, Dispatched.states]
  unhandled := by
    intro hh
    cases hop : d.service.operation? id <;>
      simp [Dispatcher.dispatchObserved, Dispatcher.run, hop, hh, Dispatched.states]
  rejected := by
    intro op h e hop hh he
    cases e <;> simp [Dispatcher.dispatchObserved, Dispatcher.run, hop, hh, he, Dispatched.states]
  handled := by
    intro op h args hop hh hargs
    obtain ⟨blocks, final, hrun⟩ := bind_runStates d.service.context op r
    obtain rfl : final = some .dispatching := hrun.dispatching.mpr ⟨args, hargs⟩
    refine ⟨.pending :: blocks.flatten, hrun.states, ?_⟩
    have hs : (d.service.bind op r).states = .pending :: (blocks.flatten ++ [.dispatching]) :=
      hrun.states
    simp [Dispatcher.dispatchObserved, Dispatcher.run, hop, hh, hargs, Dispatched.states, hs]

/-- Every run passes pending, one block for each visited parameter and one final state, unless a panic
breaks it off, which happens just if it comes to a body that declares more octets than there is room for.
A dispatched request shows its run, and done after it if it reached the handler. -/
theorem observed_states (ctx : BindingContext) (op : Operation) (d : Dispatcher) (id : String)
    (r : Request) :
    (∃ blocks final, RunStates ctx op r blocks final) ∧
      DispatchedStates d id r (d.dispatchObserved id r).value.2 :=
  ⟨bind_runStates ctx op r, dispatchedStates_dispatchObserved d id r⟩

/-- A run that reads a body of two octets, with a declared length that is within the limit and that there
is no room for, comes to no final state. -/
theorem overflowing_run_has_no_final_state :
    let limit := Body.maxCapacity + 1
    let ctx : BindingContext := { schemas := [], validator := .standard, maxBodyOctets := limit }
    let op : Operation :=
      ⟨"count", "POST", "/", [{ name := "n", location := .body, required := true, type := .int32 }]⟩
    let r : Request :=
      { id := ⟨0⟩, method := "POST", path := "/"
        body := some { script := [.data [0x31, 0x32]], contentLength := some limit } }
    (bind ctx op r).states = [.pending, .extracting 0, .bodyReading] ∧
      ¬ ∃ front final, (bind ctx op r).states = front ++ [final] ∧
        (final = .dispatching ∨ ∃ e, final = .failed e) := by
  intro limit ctx op r
  have hstates : (bind ctx op r).states = [.pending, .extracting 0, .bodyReading] := rfl
  refine ⟨hstates, ?_⟩
  rintro ⟨front, final, hfinal, hend⟩
  have hlast : final = .bodyReading := by
    have hlast := congrArg List.getLast? (hfinal.symm.trans hstates)
    rw [List.getLast?_concat] at hlast
    exact Option.some.inj hlast
  rcases hend with rfl | ⟨e, rfl⟩ <;> cases hlast

end RequestBinding
