import RequestBinding.Proofs.Binding.Outcome
import RequestBinding.Proofs.Request.Lookup

/-!
# Leaving out a parameter

When the parameters of an operation read distinct things, a request can leave out what one of them reads
and all others are resolved as before. So only that parameter shows in the result: as missing, or as
absent.

1. `resolve_without_of_ne` and `resolve_without_self` resolve the parameters of such a request.
2. `omission_shows_parameter_only` says what comes of it for a request that bound.
-/

namespace RequestBinding

/-- Whether parameters read under different names, or at different locations. -/
def Parameter.Apart (p q : Parameter) : Prop :=
  p.location = q.location → p.location.key p.name ≠ p.location.key q.name

/-- Whether the parameters of an operation read distinct things. -/
structure Operation.Separate (op : Operation) : Prop where
  distinct : op.parameters.Pairwise Parameter.Apart
  oneBody : op.parameters.countP Parameter.isBody ≤ 1

variable {op : Operation} {p q : Parameter} {i j : ℕ} {r : Request} {ctx : BindingContext}

theorem Parameter.Apart.symm (h : p.Apart q) : q.Apart p := by
  intro hl hkey
  rw [hl] at hkey
  exact h hl.symm hkey.symm

theorem Operation.Separate.apart (hop : op.Separate) (hp : op.parameters[i]? = some p)
    (hq : op.parameters[j]? = some q) (hij : i ≠ j) : p.Apart q :=
  rel_of_pairwise (fun _ _ => Parameter.Apart.symm) hop.distinct hp hq hij

/-- What another parameter is resolved to stays the same. -/
theorem resolve_without_of_ne (hop : op.Separate) (hp : op.parameters[i]? = some p)
    (hq : op.parameters[j]? = some q) (hij : i ≠ j) (ctx : BindingContext) (r : Request) :
    op.resolve ctx (r.without p) j q = op.resolve ctx r j q := by
  cases hqbody : q.isBody with
  | true =>
    have hpbody : p.isBody ≠ true := fun hpbody =>
      hij (eq_of_countP_le_one hop.oneBody hp hq hpbody hqbody)
    rw [resolve_of_isBody hqbody, resolve_of_isBody hqbody]
    unfold Request.bodyAfter
    rw [Request.body_without, if_neg hpbody]
  | false =>
    rw [resolve_of_not_isBody hqbody, resolve_of_not_isBody hqbody]
    unfold Parameter.resolveScalar
    rw [Request.lookup?_without_of_ne (hop.apart hp hq hij)]

/-- The parameter itself is left without a value. -/
theorem resolve_without_self (ctx : BindingContext) (op : Operation) (r : Request) (i : ℕ)
    (p : Parameter) : op.resolve ctx (r.without p) i p = p.withoutValue := by
  cases hp : p.isBody with
  | true =>
    rw [resolve_of_isBody hp]
    unfold Request.bodyAfter
    rw [Request.body_without, if_pos hp, ite_self]
    rfl
  | false =>
    rw [resolve_of_not_isBody hp]
    unfold Parameter.resolveScalar
    rw [Request.lookup?_without_self hp]

theorem bind_without_of_required (hop : op.Separate) {args : Arguments}
    (hargs : (bind ctx op r).result = .ok args) (hp : op.parameters[i]? = some p)
    (hrequired : p.required = true) :
    (bind ctx op (r.without p)).result = .error (.failed (.missing p.name p.location)) := by
  obtain ⟨-, -, -, hall⟩ := result_bind_eq_ok_iff.mp hargs
  have hmissing : op.resolve ctx (r.without p) i p =
      .error (.failed (.missing p.name p.location)) := by
    rw [resolve_without_self]
    exact if_pos hrequired
  refine result_bind_eq_error_iff.mpr ⟨i, p, hp, hmissing, fun j hj q hq => ?_⟩
  obtain ⟨v, hv, -⟩ := hall j q hq
  exact ⟨v, (resolve_without_of_ne hop hp hq (Nat.ne_of_gt hj) ctx r).trans hv⟩

theorem bind_without_of_optional (hop : op.Separate) {args : Arguments}
    (hargs : (bind ctx op r).result = .ok args) (hp : op.parameters[i]? = some p)
    (hoptional : p.required = false) :
    (bind ctx op (r.without p)).result =
      .ok { args with arguments := args.arguments.set i ⟨p.name, p.location, .absent⟩ } := by
  obtain ⟨hid, hopid, hlength, hall⟩ := result_bind_eq_ok_iff.mp hargs
  have hi : i < args.arguments.length := by
    obtain ⟨hlt, -⟩ := List.getElem?_eq_some_iff.mp hp
    omega
  have habsent : op.resolve ctx (r.without p) i p = .ok .absent := by
    rw [resolve_without_self]
    exact if_neg (by simp [hoptional])
  refine result_bind_eq_ok_iff.mpr ⟨?_, hopid, ?_, fun j q hq => ?_⟩
  · rw [Request.id_without]
    exact hid
  · rw [List.length_set]
    exact hlength
  · by_cases hij : i = j
    · subst hij
      obtain rfl : p = q := Option.some.inj (hp.symm.trans hq)
      exact ⟨.absent, habsent, List.getElem?_set_self hi⟩
    · obtain ⟨v, hv, hj⟩ := hall j q hq
      refine ⟨v, (resolve_without_of_ne hop hp hq hij ctx r).trans hv, ?_⟩
      rw [List.getElem?_set_ne hij]
      exact hj

/-- When a request binds, the same request without what one parameter reads binds with that parameter
absent, or fails with that parameter missing if it is required. -/
theorem omission_shows_parameter_only (hop : op.Separate) {args : Arguments}
    (hargs : (bind ctx op r).result = .ok args) (hp : op.parameters[i]? = some p) :
    ¬ (r.without p).Supplies p ∧
    (bind ctx op (r.without p)).result =
      if p.required then .error (.failed (.missing p.name p.location))
      else .ok { args with arguments := args.arguments.set i ⟨p.name, p.location, .absent⟩ } := by
  refine ⟨Request.not_supplies_without r p, ?_⟩
  cases hrequired : p.required with
  | true =>
    rw [if_pos rfl]
    exact bind_without_of_required hop hargs hp hrequired
  | false =>
    rw [if_neg (by simp)]
    exact bind_without_of_optional hop hargs hp hrequired

def nameParameter : Parameter :=
  { name := "name", location := .path, required := true, type := .string }

def pageParameter : Parameter := { name := "page", location := .query, type := .int32 }

/-- An operation that needs a name from the path and may read a page number from the query. -/
def listOperation : Operation := ⟨"list", "GET", "/{name}", [nameParameter, pageParameter]⟩

def listRequest : Request :=
  { id := ⟨0⟩, method := "GET", path := "/a", pathParams := [("name", "a")]
    queryParams := [("page", "2"), ("page", "3")] }

/-- Without the name the request is rejected, without the page number it binds. -/
theorem omission_of_name_and_page :
    let ctx : BindingContext := { schemas := [], validator := .standard, maxBodyOctets := 0 }
    let name : Argument := ⟨"name", .path, .present (.string "a")⟩
    (bind ctx listOperation listRequest).result =
      .ok { requestId := ⟨0⟩, operationId := "list"
            arguments := [name, ⟨"page", .query, .present (.int32 2)⟩] } ∧
    (bind ctx listOperation (listRequest.without nameParameter)).result =
      .error (.failed (.missing "name" .path)) ∧
    (bind ctx listOperation (listRequest.without pageParameter)).result =
      .ok { requestId := ⟨0⟩, operationId := "list"
            arguments := [name, ⟨"page", .query, .absent⟩] } := by
  intro ctx name
  have hop : listOperation.Separate := by
    refine ⟨?_, by decide⟩
    simp [listOperation, Parameter.Apart, nameParameter, pageParameter]
  have hargs : (bind ctx listOperation listRequest).result =
      .ok { requestId := ⟨0⟩, operationId := "list"
            arguments := [name, ⟨"page", .query, .present (.int32 2)⟩] } := rfl
  refine ⟨hargs, ?_, ?_⟩
  · exact (omission_shows_parameter_only hop hargs (i := 0) (p := nameParameter) rfl).2
  · exact (omission_shows_parameter_only hop hargs (i := 1) (p := pageParameter) rfl).2

end RequestBinding
