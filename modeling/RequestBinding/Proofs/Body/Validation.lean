import RequestBinding.Proofs.Binding.Failure
import RequestBinding.Service.Basic

/-!
# The body that is bound is the body that was judged

The standard validator and the decoder each read the payload as JSON. `bound_body_is_validated` says
that for a service with this validator the value that is bound is the one that the schema was asked
about, and that a text that is no JSON is the schema's affair if there is a schema.
-/

namespace RequestBinding

/-! ## The standard validator -/

theorem standard_eq_ok {schema : CompiledSchema} {payload : Octets} {v : Json}
    (h : Validator.standard schema payload = .ok ()) (hv : Json.ofOctets payload = .ok v) :
    schema.violations v = [] := by
  unfold Validator.standard at h
  rw [hv] at h
  cases hs : schema.violations v with
  | nil => rfl
  | cons violation rest =>
    simp only [hs] at h
    cases h

/-- A payload that is no JSON has that as its only violation. -/
theorem standard_of_error {payload : Octets} {f : JsonError} (hf : Json.ofOctets payload = .error f)
    (schema : CompiledSchema) :
    Validator.standard schema payload = .error ["invalid JSON: " ++ f.message] := by
  unfold Validator.standard
  rw [hf]
  rfl

/-- A validated payload can be read as JSON. -/
theorem ofOctets_of_standard {schema : CompiledSchema} {payload : Octets}
    (h : Validator.standard schema payload = .ok ()) : ∃ v, Json.ofOctets payload = .ok v := by
  cases hf : Json.ofOctets payload with
  | ok v => exact ⟨v, rfl⟩
  | error f =>
    rw [standard_of_error hf] at h
    cases h

/-! ## Kinds of values -/

/-- The kind of the JSON values of a type. -/
def ParameterType.jsonKind : ParameterType → String
  | .object | .map => "object"
  | .array => "array"
  | .string => "string"
  | .boolean => "boolean"
  | .int32 | .int64 | .float32 | .float64 => "number"

theorem kind_of_fits {type : ParameterType} {v : Json} (h : Body.fits type v = true) :
    v.kind = type.jsonKind := by
  cases type <;> cases v <;> first | rfl | cases h

/-! ## Bound bodies -/

/-- What is true of a body `stream` that parameter `p` of a service binds as `v`. -/
structure Validated (s : Service) (p : Parameter) (stream : BodyStream) (payload : Octets)
    (v : Json) : Prop where
  read : (Body.readBounded s.maxBodyOctets stream).result = .ok payload
  nonempty : 1 ≤ payload.length
  bounded : payload.length ≤ s.maxBodyOctets
  /-- The payload is all that the stream had to give; nothing failed before its end. -/
  whole : payload = delivered stream.script ∧ failureOf? stream.script = none
  parsed : Json.ofOctets payload = .ok v
  fits : Body.fits p.type v = true
  kind : v.kind = p.type.jsonKind
  judged : ∀ name, p.schema = some name →
    ∃ schema, s.schema? name = some schema ∧ schema.violations v = []

theorem judge_eq_ok {ctx : BindingContext} {p : Parameter} {payload : Octets}
    (h : p.judge ctx payload = .ok ()) {name : String} (hp : p.schema = some name) :
    ∃ schema, ctx.schemas.get? name = some schema ∧ ctx.validator schema payload = .ok () := by
  unfold Parameter.judge at h
  simp only [hp] at h
  cases hs : ctx.schemas.get? name with
  | none =>
    rw [hs] at h
    cases h
  | some schema =>
    simp only [hs] at h
    cases hv : ctx.validator schema payload with
    | ok u => exact ⟨schema, rfl, hv⟩
    | error vs =>
      rw [hv] at h
      cases h

theorem standard_of_judge {s : Service} (hs : s.validator = .standard) {p : Parameter}
    {payload : Octets} (h : p.judge s.context payload = .ok ()) {name : String}
    (hp : p.schema = some name) :
    ∃ schema, s.schema? name = some schema ∧ Validator.standard schema payload = .ok () := by
  obtain ⟨schema, hschema, hvalid⟩ := judge_eq_ok h hp
  refine ⟨schema, hschema, ?_⟩
  rw [← hs]
  exact hvalid

/-- A parameter that no one supplies is never present. -/
theorem withoutValue_ne_present (p : Parameter) (v : Value) : p.withoutValue ≠ .ok (.present v) := by
  unfold Parameter.withoutValue
  split_ifs <;> simp

theorem resolveBody_eq_present {ctx : BindingContext} {p : Parameter} {body : Option BodyStream}
    {v : Value} (h : p.resolveBody ctx body = .ok (.present v)) :
    ∃ stream payload w, body = some stream ∧
      (Body.readBounded ctx.maxBodyOctets stream).result = .ok payload ∧ payload ≠ [] ∧
      p.judge ctx payload = .ok () ∧ Json.ofOctets payload = .ok w ∧
      Body.fits p.type w = true ∧ v = .json w := by
  cases body with
  | none => exact absurd h (withoutValue_ne_present p v)
  | some stream =>
    obtain ⟨payload, hread, h⟩ := bind_eq_ok_iff.mp h
    unfold Parameter.ofPayload at h
    split_ifs at h with hne
    · exact absurd h (withoutValue_ne_present p v)
    · obtain ⟨u, hj, h⟩ := bind_eq_ok_iff.mp h
      obtain ⟨w, hd, h⟩ := bind_eq_ok_iff.mp h
      obtain ⟨hw, hf⟩ := decode_eq_ok_iff.mp (mapError_eq_ok_iff.mp hd)
      cases h
      exact ⟨stream, payload, w, rfl, hread, hne, hj, hw, hf, rfl⟩

theorem validated_of_resolveBody {s : Service} (hs : s.validator = .standard) {p : Parameter}
    {body : Option BodyStream} {v : Value}
    (h : p.resolveBody s.context body = .ok (.present v)) :
    ∃ stream payload w, body = some stream ∧ v = .json w ∧ Validated s p stream payload w := by
  obtain ⟨stream, payload, w, hbody, hread, hne, hj, hw, hf, hv⟩ := resolveBody_eq_present h
  obtain ⟨hpayload, hfail, hlen⟩ := Body.readBounded_eq_ok hread
  refine ⟨stream, payload, w, hbody, hv, hread, List.length_pos_iff.mpr hne, hlen,
    ⟨hpayload, hfail⟩, hw, hf, kind_of_fits hf, fun name hp => ?_⟩
  obtain ⟨schema, hschema, hvalid⟩ := standard_of_judge hs hj hp
  exact ⟨schema, hschema, standard_eq_ok hvalid hw⟩

theorem validated_of_bind {s : Service} (hs : s.validator = .standard) {op : Operation}
    {r : Request} {args : Arguments} (h : (s.bind op r).result = .ok args) {i : ℕ} {p : Parameter}
    (hp : op.parameters[i]? = some p) (hbody : p.isBody = true) {v : Value}
    (hv : args.arguments[i]? = some ⟨p.name, p.location, .present v⟩) :
    ∃ stream payload w, r.body = some stream ∧ v = .json w ∧ Validated s p stream payload w := by
  obtain ⟨-, -, -, hall⟩ := result_bind_eq_ok_iff.mp h
  obtain ⟨b, hb, harg⟩ := hall i p hp
  obtain rfl : b = .present v := by simpa [hv] using harg.symm
  rw [resolve_of_isBody hbody] at hb
  obtain ⟨stream, payload, w, hstream, hw, hvalid⟩ := validated_of_resolveBody hs hb
  exact ⟨stream, payload, w, (bodyAfter_eq_some_iff.mp hstream).1, hw, hvalid⟩

/-- Under a schema, a payload that was judged well and is still no JSON cannot be. -/
theorem ofOctets_of_judge {s : Service} (hs : s.validator = .standard) {p : Parameter}
    {payload : Octets} (h : p.judge s.context payload = .ok ()) (hp : p.schema ≠ none) :
    ∃ v, Json.ofOctets payload = .ok v := by
  obtain ⟨name, hname⟩ := Option.ne_none_iff_exists'.mp hp
  obtain ⟨schema, -, hvalid⟩ := standard_of_judge hs h hname
  exact ofOctets_of_standard hvalid

/-- What parameter `i` reads is what the request has. -/
theorem ReadsTo.of_bodyAfter {ctx : BindingContext} {r : Request} {visited : List Parameter}
    {payload : Octets} (h : ReadsTo ctx (r.bodyAfter visited) payload) :
    ReadsTo ctx r.body payload := by
  obtain ⟨stream, hstream, hrest⟩ := h
  exact ⟨stream, (bodyAfter_eq_some_iff.mp hstream).1, hrest⟩

theorem misfit_of_bind {s : Service} (hs : s.validator = .standard) {op : Operation} {r : Request}
    {name cause : String} (h : (s.bind op r).result = .error (.failed (.bodyMisfit name cause))) :
    ∃ (i : ℕ) (p : Parameter), op.parameters[i]? = some p ∧ p.isBody = true ∧ p.name = name ∧
      op.resolve s.context r i p = .error (.failed (.bodyMisfit name cause)) ∧
      ∃ payload, ReadsTo s.context r.body payload ∧ (p.schema ≠ none →
        ∃ v, Json.ofOctets payload = .ok v ∧ Body.fits p.type v = false ∧
          cause = misfitText p.type v) := by
  obtain ⟨i, p, hp, he, -⟩ := result_bind_eq_error_iff.mp h
  cases hbody : p.isBody with
  | false =>
    have hscalar := he
    rw [resolve_of_not_isBody hbody] at hscalar
    cases scalarFailure_of_resolveScalar hscalar
  | true =>
    have hfail := he
    rw [resolve_of_isBody hbody] at hfail
    cases bodyFailure_of_resolveBody hfail with
    | noJson hr hj hv =>
      refine ⟨i, p, hp, hbody, rfl, he, _, hr.of_bodyAfter, fun hschema => ?_⟩
      obtain ⟨v, hok⟩ := ofOctets_of_judge hs hj hschema
      rw [hv] at hok
      cases hok
    | otherKind hr hj hv hf =>
      exact ⟨i, p, hp, hbody, rfl, he, _, hr.of_bodyAfter, fun _ => ⟨_, hv, hf, rfl⟩⟩

theorem violated_of_noJson {s : Service} (hs : s.validator = .standard) {p : Parameter}
    {name : String} {schema : CompiledSchema} (hp : p.schema = some name)
    (hschema : s.schema? name = some schema) {body : Option BodyStream} {payload : Octets}
    (hr : ReadsTo s.context body payload) {f : JsonError} (hf : Json.ofOctets payload = .error f) :
    p.resolveBody s.context body =
      .error (.failed (.schemaViolated ["invalid JSON: " ++ f.message])) := by
  obtain ⟨stream, rfl, hread, hne⟩ := hr
  have hget : s.context.schemas.get? name = some schema := hschema
  have hvalid : s.context.validator schema payload = .error ["invalid JSON: " ++ f.message] := by
    rw [← standard_of_error hf schema, ← hs]
    rfl
  have hj : p.judge s.context payload =
      .error (.failed (.schemaViolated ["invalid JSON: " ++ f.message])) := by
    unfold Parameter.judge
    simp only [hp, hget, hvalid]
    rfl
  rw [Parameter.resolveBody_of_ok hread]
  unfold Parameter.ofPayload
  rw [if_neg hne, hj, error_bind]

/-- A bound body is the JSON value of the whole payload, of its declared type and without violations of
its schema. A parameter with a schema fails to decode only for the kind of its value: a payload that is
no JSON is a violation, which the run reports unless an earlier parameter fails. -/
theorem bound_body_is_validated (s : Service) (hs : s.validator = .standard) (op : Operation)
    (r : Request) :
    (∀ args (i : ℕ) p v, (s.bind op r).result = .ok args → op.parameters[i]? = some p →
      p.isBody = true → args.arguments[i]? = some ⟨p.name, p.location, .present v⟩ →
        ∃ stream payload w, r.body = some stream ∧ v = .json w ∧
          Validated s p stream payload w) ∧
    (∀ name cause, (s.bind op r).result = .error (.failed (.bodyMisfit name cause)) →
      ∃ (i : ℕ) (p : Parameter), op.parameters[i]? = some p ∧ p.isBody = true ∧ p.name = name ∧
        op.resolve s.context r i p = .error (.failed (.bodyMisfit name cause)) ∧
        ∃ payload, ReadsTo s.context r.body payload ∧ (p.schema ≠ none →
          ∃ v, Json.ofOctets payload = .ok v ∧ Body.fits p.type v = false ∧
            cause = misfitText p.type v)) ∧
    ∀ (i : ℕ) p name schema payload f, op.parameters[i]? = some p → p.isBody = true →
      p.schema = some name → s.schema? name = some schema →
      ReadsTo s.context (r.bodyAfter (op.parameters.take i)) payload →
      Json.ofOctets payload = .error f →
        (s.bind op r).result = .error (.failed (.schemaViolated ["invalid JSON: " ++ f.message])) ∨
          ∃ j < i, ∃ q e, op.parameters[j]? = some q ∧ op.resolve s.context r j q = .error e ∧
            (s.bind op r).result = .error e := by
  refine ⟨fun args i p v hres hp hbody hv => validated_of_bind hs hres hp hbody hv,
    fun name cause h => misfit_of_bind hs h, fun i p name schema payload f hp hbody hname hschema hr hf => ?_⟩
  have he : op.resolve s.context r i p =
      .error (.failed (.schemaViolated ["invalid JSON: " ++ f.message])) := by
    rw [resolve_of_isBody hbody]
    exact violated_of_noJson hs hname hschema hr hf
  exact bind_eq_error_of_resolve hp he

/-- A body that comes in two parts, with an interruption between them, against a schema of objects. -/
theorem bound_body_of_parts :
    let schema : CompiledSchema := ⟨"Profile", fun v => if v.kind = "object" then [] else ["no object"]⟩
    let s : Service := { operations := [], schemas := [("Profile", schema)], maxBodyOctets := 8 }
    let p : Parameter :=
      { name := "profile", location := .body, type := .object, schema := some "Profile" }
    let op : Operation := ⟨"save", "PATCH", "/me", [p]⟩
    let r : Request :=
      { id := ⟨0⟩, method := "PATCH", path := "/me", body := some { script :=
          [.data [0x7b, 0x22, 0x61], .interrupted, .data [0x22, 0x3a, 0x31, 0x7d]] } }
    let v := Json.object [("a", .number (.integer 1))]
    s.validator = .standard ∧
      (s.bind op r).result = .ok ⟨⟨0⟩, "save", [⟨"profile", .body, .present (.json v)⟩]⟩ ∧
      ∃ stream payload w, r.body = some stream ∧ Value.json v = .json w ∧
        Validated s p stream payload w := by
  intro schema s p op r v
  have hread : (Body.readBounded 8 { script := [.data [0x7b, 0x22, 0x61], .interrupted,
      .data [0x22, 0x3a, 0x31, 0x7d]] }).result = .ok [0x7b, 0x22, 0x61, 0x22, 0x3a, 0x31, 0x7d] := by
    with_unfolding_all rfl
  have hresolved : op.resolve s.context r 0 p = .ok (.present (.json v)) :=
    (Parameter.resolveBody_of_ok hread).trans rfl
  have hres : (s.bind op r).result =
      .ok ⟨⟨0⟩, "save", [⟨"profile", .body, .present (.json v)⟩]⟩ := by
    refine result_bind_eq_ok_iff.mpr ⟨rfl, rfl, rfl, fun i q hq => ?_⟩
    cases i with
    | zero =>
      obtain rfl := Option.some.inj hq
      exact ⟨_, hresolved, rfl⟩
    | succ i => cases hq
  exact ⟨rfl, hres, (bound_body_is_validated s rfl op r).1 _ 0 p _ hres rfl rfl rfl⟩

end RequestBinding
