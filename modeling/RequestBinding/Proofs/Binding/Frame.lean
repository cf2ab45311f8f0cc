import RequestBinding.Proofs.Binding.Failure

/-!
# What binding leaves of a request

Binding touches nothing of a request but its body, and the body only when it comes to a body parameter.
`bind_takes_only_body` says this of every run.

1. `Operation.ReachesBody` is that binding comes to a body parameter. `result_bind_eq_panicked_iff`: this
   is where binding may panic.
2. `visitAll_of_bodyless`: a loop that finds no body leaves the request and reads nothing.
3. `visitAll_of_reaches` and `visitAll_of_not_reaches` follow the loop up to its first body parameter, or
   up to where it stops before one.
-/

namespace RequestBinding

/-- Whether binding comes to a body parameter: the parameters before the first one bind without error. -/
def Operation.ReachesBody (ctx : BindingContext) (op : Operation) (r : Request) : Prop :=
  ∃ (i : ℕ) (p : Parameter), op.parameters[i]? = some p ∧ p.isBody = true ∧
    ∀ j < i, ∀ q, op.parameters[j]? = some q →
      q.isBody = false ∧ ∃ v, op.resolve ctx r j q = .ok v

/-- Whether parameters are scalars that bind without error. -/
def ScalarsBind (r : Request) (ps : List Parameter) : Prop :=
  ∀ p ∈ ps, p.isBody = false ∧ ∃ v, p.resolveScalar r = .ok v

theorem scalarsBind_nil (r : Request) : ScalarsBind r [] :=
  List.forall_mem_nil _

theorem scalarsBind_cons_iff {r : Request} {p : Parameter} {ps : List Parameter} :
    ScalarsBind r (p :: ps) ↔
      (p.isBody = false ∧ ∃ v, p.resolveScalar r = .ok v) ∧ ScalarsBind r ps :=
  List.forall_mem_cons

/-- The same with the list of parameters cut at the first body parameter. -/
theorem reachesBody_iff {ctx : BindingContext} {op : Operation} {r : Request} :
    op.ReachesBody ctx r ↔
      ∃ front p back, op.parameters = front ++ p :: back ∧ p.isBody = true ∧ ScalarsBind r front := by
  constructor
  · rintro ⟨i, p, hp, hbody, hbefore⟩
    obtain ⟨hi, rfl⟩ := List.getElem?_eq_some_iff.mp hp
    refine ⟨op.parameters.take i, _, op.parameters.drop (i + 1), ?_, hbody, fun q hq => ?_⟩
    · rw [List.getElem_cons_drop, List.take_append_drop]
    · obtain ⟨j, hj, rfl⟩ := List.mem_take_iff_getElem.mp hq
      have hlt : j < i := by omega
      obtain ⟨hscalar, v, hv⟩ := hbefore j hlt _ (List.getElem?_eq_getElem (by omega))
      rw [resolve_of_not_isBody hscalar] at hv
      exact ⟨hscalar, v, hv⟩
  · rintro ⟨front, p, back, hop, hbody, hfront⟩
    refine ⟨front.length, p, ?_, hbody, fun j hj q hq => ?_⟩
    · rw [hop, List.getElem?_append_right (Nat.le_refl _), Nat.sub_self]
      rfl
    · rw [hop, List.getElem?_append_left hj] at hq
      obtain ⟨hscalar, v, hv⟩ := hfront q (List.mem_of_getElem? hq)
      exact ⟨hscalar, v, (resolve_of_not_isBody hscalar ctx r j).trans hv⟩

/-- Binding panics where it comes to a body that declares more octets than there is room for, and for no
other request. -/
theorem result_bind_eq_panicked_iff {ctx : BindingContext} {op : Operation} {r : Request}
    {text : String} :
    (bind ctx op r).result = .error (.panicked text) ↔
      text = Body.capacityOverflow ∧ op.ReachesBody ctx r ∧
        ∃ stream, r.body = some stream ∧ Body.Overflows ctx.maxBodyOctets stream := by
  rw [result_bind_eq_error_iff]
  constructor
  · rintro ⟨i, p, hp, hpanic, hbefore⟩
    cases hbody : p.isBody with
    | false =>
      rw [resolve_of_not_isBody hbody] at hpanic
      cases scalarFailure_of_resolveScalar hpanic
    | true =>
      rw [resolve_of_isBody hbody] at hpanic
      cases bodyFailure_of_resolveBody hpanic with
      | @overflowed stream hfound hover =>
        obtain ⟨hr, hscalars⟩ := bodyAfter_take_eq_some_iff.mp hfound
        have hreaches : op.ReachesBody ctx r :=
          ⟨i, p, hp, hbody, fun j hj q hq => ⟨hscalars j hj q hq, hbefore j hj q hq⟩⟩
        exact ⟨rfl, hreaches, stream, hr, hover⟩
  · rintro ⟨rfl, ⟨i, p, hp, hbody, hbefore⟩, stream, hr, hover⟩
    refine ⟨i, p, hp, ?_, fun j hj q hq => (hbefore j hj q hq).2⟩
    have hfound : r.bodyAfter (op.parameters.take i) = some stream :=
      bodyAfter_take_eq_some_iff.mpr ⟨hr, fun j hj q hq => (hbefore j hj q hq).1⟩
    rw [resolve_of_isBody hbody, hfound, Parameter.resolveBody, Body.readBounded_of_overflows hover]
    rfl

/-! ## One visit -/

/-- Octets that a bounded reading takes from a body, if there is one. -/
def BindingContext.takenFrom (ctx : BindingContext) : Option BodyStream → ℕ
  | none => 0
  | some stream => (Body.readBounded ctx.maxBodyOctets stream).consumed

theorem consumed_visit (ctx : BindingContext) (i : ℕ) (p : Parameter) (r : Request) :
    (visit ctx i p r).consumed = if p.isBody then ctx.takenFrom r.body else 0 := by
  unfold visit visitBody
  split_ifs
  · cases r.body <;> rfl
  · rfl

/-- A scalar parameter leaves the request, and reads nothing of its body. -/
theorem visit_of_scalar {p : Parameter} (hp : p.isBody = false) (ctx : BindingContext) (i : ℕ)
    (r : Request) :
    (visit ctx i p r).result = p.resolveScalar r ∧ (visit ctx i p r).request = r ∧
      (visit ctx i p r).consumed = 0 := by
  refine ⟨?_, ?_, ?_⟩
  · rw [result_visit, hp, if_neg Bool.false_ne_true]
  · rw [request_visit, hp, if_neg Bool.false_ne_true]
  · rw [consumed_visit, hp, if_neg Bool.false_ne_true]

/-- A body parameter leaves the request without its body, and takes what a reading of it takes. -/
theorem visit_of_body {p : Parameter} (hp : p.isBody = true) (ctx : BindingContext) (i : ℕ)
    (r : Request) :
    (visit ctx i p r).request = { r with body := none } ∧
      (visit ctx i p r).consumed = ctx.takenFrom r.body := by
  constructor
  · rw [request_visit, if_pos hp]
  · rw [consumed_visit, if_pos hp]

/-- A visit of a request without a body leaves it as it is. -/
theorem visit_of_bodyless {r : Request} (hr : r.body = none) (ctx : BindingContext) (i : ℕ)
    (p : Parameter) : (visit ctx i p r).request = r ∧ (visit ctx i p r).consumed = 0 := by
  constructor
  · rw [request_visit]
    split_ifs
    · rw [← hr]
    · rfl
  · rw [consumed_visit, hr]
    split_ifs <;> rfl

/-! ## The loop -/

/-- Without a body, a loop leaves the request as it is. -/
theorem visitAll_of_bodyless {r : Request} (hr : r.body = none) (ctx : BindingContext)
    (ps : List Parameter) : ∀ (i : ℕ) (args : Arguments) (consumed : ℕ),
      (visitAll ctx i ps r args consumed).request = r ∧
        (visitAll ctx i ps r args consumed).consumed = consumed := by
  induction ps with
  | nil =>
    intro i args consumed
    exact ⟨rfl, rfl⟩
  | cons p ps ih =>
    intro i args consumed
    obtain ⟨hrequest, htaken⟩ := visit_of_bodyless hr ctx i p
    cases hv : (visit ctx i p r).result with
    | error e =>
      rw [visitAll_cons_of_error hv, htaken]
      exact ⟨hrequest, Nat.add_zero consumed⟩
    | ok v =>
      rw [visitAll_cons_of_ok hv, hrequest, htaken]
      exact ih (i + 1) (args.push p.name p.location v) consumed

/-- A loop that comes to a body parameter takes the body there, and reads nothing before or after. -/
theorem visitAll_of_reaches {p : Parameter} (hp : p.isBody = true) (ctx : BindingContext)
    (back : List Parameter) {r : Request} (front : List Parameter) :
    ∀ (i : ℕ) (args : Arguments) (consumed : ℕ), ScalarsBind r front →
      (visitAll ctx i (front ++ p :: back) r args consumed).request = { r with body := none } ∧
        (visitAll ctx i (front ++ p :: back) r args consumed).consumed =
          consumed + ctx.takenFrom r.body := by
  induction front with
  | nil =>
    intro i args consumed _
    obtain ⟨hrequest, htaken⟩ := visit_of_body hp ctx i r
    rw [List.nil_append]
    cases hv : (visit ctx i p r).result with
    | error e =>
      rw [visitAll_cons_of_error hv, htaken]
      exact ⟨hrequest, rfl⟩
    | ok v =>
      rw [visitAll_cons_of_ok hv, hrequest, htaken]
      exact visitAll_of_bodyless rfl ctx back (i + 1) _ _
  | cons q front ih =>
    intro i args consumed hbind
    obtain ⟨⟨hscalar, v, hv⟩, hfront⟩ := scalarsBind_cons_iff.mp hbind
    obtain ⟨hresult, hrequest, htaken⟩ := visit_of_scalar hscalar ctx i r
    rw [List.cons_append, visitAll_cons_of_ok (hresult.trans hv), hrequest, htaken]
    exact ih (i + 1) (args.push q.name q.location v) consumed hfront

/-- A loop that comes to no body parameter leaves the request as it is. -/
theorem visitAll_of_not_reaches (ctx : BindingContext) {r : Request} (ps : List Parameter) :
    ∀ (i : ℕ) (args : Arguments) (consumed : ℕ),
      (¬ ∃ front p back, ps = front ++ p :: back ∧ p.isBody = true ∧ ScalarsBind r front) →
        (visitAll ctx i ps r args consumed).request = r ∧
          (visitAll ctx i ps r args consumed).consumed = consumed := by
  induction ps with
  | nil =>
    intro i args consumed _
    exact ⟨rfl, rfl⟩
  | cons p ps ih =>
    intro i args consumed hno
    have hscalar : p.isBody = false := by
      rw [Bool.eq_false_iff]
      intro hbody
      exact hno ⟨[], p, ps, rfl, hbody, scalarsBind_nil r⟩
    obtain ⟨hresult, hrequest, htaken⟩ := visit_of_scalar hscalar ctx i r
    cases hv : p.resolveScalar r with
    | error e =>
      rw [visitAll_cons_of_error (hresult.trans hv), htaken]
      exact ⟨hrequest, Nat.add_zero consumed⟩
    | ok v =>
      rw [visitAll_cons_of_ok (hresult.trans hv), hrequest, htaken]
      refine ih (i + 1) (args.push p.name p.location v) consumed ?_
      rintro ⟨front, q, back, rfl, hbody, hfront⟩
      exact hno ⟨p :: front, q, back, rfl, hbody, scalarsBind_cons_iff.mpr ⟨⟨hscalar, v, hv⟩, hfront⟩⟩

/-! ## Runs -/

theorem bind_of_reachesBody {ctx : BindingContext} {op : Operation} {r : Request}
    (h : op.ReachesBody ctx r) :
    (bind ctx op r).request = { r with body := none } ∧
      (bind ctx op r).consumed = ctx.takenFrom r.body := by
  obtain ⟨front, p, back, hop, hbody, hfront⟩ := reachesBody_iff.mp h
  have hrun := visitAll_of_reaches hbody ctx back front 0
    { requestId := r.id, operationId := op.id } 0 hfront
  rw [← hop, Nat.zero_add] at hrun
  exact hrun

theorem bind_of_not_reachesBody {ctx : BindingContext} {op : Operation} {r : Request}
    (h : ¬ op.ReachesBody ctx r) :
    (bind ctx op r).request = r ∧ (bind ctx op r).consumed = 0 := by
  rw [reachesBody_iff] at h
  exact visitAll_of_not_reaches ctx op.parameters 0 { requestId := r.id, operationId := op.id } 0 h

/-- What a run leaves of a request, and takes from its body. -/
structure Leaves (ctx : BindingContext) (op : Operation) (r : Request) (run : Run) : Prop where
  /-- Everything but the body is as it was. -/
  rest : run.request = { r with body := run.request.body }
  gone : run.request.body = none ↔ r.body = none ∨ op.ReachesBody ctx r
  /-- A body that is left is the one that was there, with nothing read. -/
  kept : ∀ stream, run.request.body = some stream → r.body = some stream ∧ run.consumed = 0
  /-- What is taken from a body is what some reads of it hand out. -/
  taken : ∀ stream, r.body = some stream →
    ∃ octets left, stream.HandsOut octets left ∧ octets.length = run.consumed
  bodyless : r.body = none → run.consumed = 0
  bounded : run.consumed ≤ ctx.maxBodyOctets + 1
  declared : ∀ stream n, r.body = some stream → stream.contentLength = some n →
    ctx.maxBodyOctets < n → run.consumed = 0

theorem leaves_of_reachesBody {ctx : BindingContext} {op : Operation} {r : Request}
    (h : op.ReachesBody ctx r) : Leaves ctx op r (bind ctx op r) := by
  obtain ⟨hrequest, hconsumed⟩ := bind_of_reachesBody h
  refine ⟨?_, ?_, ?_, ?_, ?_, ?_, ?_⟩
  · rw [hrequest]
  · rw [hrequest]
    exact iff_of_true rfl (.inr h)
  · intro stream hleft
    rw [hrequest] at hleft
    cases hleft
  · intro stream hr
    rw [hconsumed, hr]
    exact (Body.readBounded_handsOut ctx.maxBodyOctets stream).1
  · intro hr
    rw [hconsumed, hr]
    rfl
  · rw [hconsumed]
    cases r.body with
    | none => exact Nat.zero_le _
    | some stream => exact (Body.readBounded_handsOut ctx.maxBodyOctets stream).2
  · intro stream n hr hn hlimit
    rw [hconsumed, hr]
    exact (Body.readBounded_of_declared hn hlimit).2

theorem leaves_of_not_reachesBody {ctx : BindingContext} {op : Operation} {r : Request}
    (h : ¬ op.ReachesBody ctx r) : Leaves ctx op r (bind ctx op r) := by
  obtain ⟨hrequest, hconsumed⟩ := bind_of_not_reachesBody h
  refine ⟨?_, ?_, ?_, ?_, ?_, ?_, ?_⟩
  · rw [hrequest]
  · rw [hrequest]
    exact (or_iff_left h).symm
  · intro stream hleft
    rw [hrequest] at hleft
    exact ⟨hleft, hconsumed⟩
  · intro stream hr
    exact ⟨[], stream, .nothing stream, hconsumed.symm⟩
  · intro hr
    exact hconsumed
  · rw [hconsumed]
    exact Nat.zero_le _
  · intro stream n hr hn hlimit
    exact hconsumed

/-- Whether it succeeds or fails, a run leaves everything of the request but the body. The body is gone
just if there was none, or the run came to a body parameter; then no more than one octet above the limit
has been taken from it. A body that is left has not been read. -/
theorem bind_takes_only_body (ctx : BindingContext) (op : Operation) (r : Request) :
    Leaves ctx op r (bind ctx op r) := by
  by_cases h : op.ReachesBody ctx r
  · exact leaves_of_reachesBody h
  · exact leaves_of_not_reachesBody h

end RequestBinding
