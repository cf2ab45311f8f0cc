import RequestBinding.Proofs.Binding.Outcome
import RequestBinding.Proofs.Body.Reading

/-!
# How parameters fail

Everything that resolving a parameter can stop at, with what the request and the context must be like for
it: `scalarFailure_of_resolveScalar` and `bodyFailure_of_resolveBody`.
-/

namespace RequestBinding

/-! ## Steps of the body pipeline -/

/-- Whether a body can be read within the limit, and what it holds is not nothing. -/
def ReadsTo (ctx : BindingContext) (body : Option BodyStream) (payload : Octets) : Prop :=
  ∃ stream, body = some stream ∧
    (Body.readBounded ctx.maxBodyOctets stream).result = .ok payload ∧ payload ≠ []

theorem ReadsTo.ne_nil {ctx : BindingContext} {body : Option BodyStream} {payload : Octets}
    (h : ReadsTo ctx body payload) : payload ≠ [] := by
  obtain ⟨-, -, -, hne⟩ := h
  exact hne

theorem not_readsTo_none (ctx : BindingContext) (payload : Octets) : ¬ ReadsTo ctx none payload := by
  rintro ⟨stream, h, -⟩
  cases h

theorem readsTo_some_iff {ctx : BindingContext} {stream : BodyStream} {payload : Octets} :
    ReadsTo ctx (some stream) payload ↔
      (Body.readBounded ctx.maxBodyOctets stream).result = .ok payload ∧ payload ≠ [] := by
  constructor
  · rintro ⟨s, hs, h⟩
    obtain rfl : stream = s := Option.some.inj hs
    exact h
  · exact fun h => ⟨stream, rfl, h⟩

theorem readBounded_eq_error {limit : ℕ} {s : BodyStream} {e : Stop}
    (h : (Body.readBounded limit s).result = .error e) :
    e = .failed (.bodyTooLarge limit) ∨ (∃ text, e = .failed (.bodyUnreadable text)) ∨
      e = .panicked Body.capacityOverflow ∧ Body.Overflows limit s := by
  obtain ⟨n, hn, hlimit⟩ | hover | hadmits := Body.declared_cases limit s
  · rw [(Body.readBounded_of_declared hn hlimit).1] at h
    exact .inl (Except.error.inj h).symm
  · rw [Body.readBounded_of_overflows hover] at h
    exact .inr (.inr ⟨(Except.error.inj h).symm, hover⟩)
  · rw [(Body.readBounded_of_admits hadmits).1] at h
    unfold Body.Reading.outcome at h
    cases hf : (Body.readAll limit [] s).failure with
    | some text =>
      rw [hf] at h
      exact .inr (.inl ⟨text, (Except.error.inj h).symm⟩)
    | none =>
      simp only [hf] at h
      split_ifs at h
      exact .inl (Except.error.inj h).symm

theorem decode_eq_ok_iff {name : String} {type : ParameterType} {payload : Octets} {v : Json} :
    Body.decode name type payload = .ok v ↔
      Json.ofOctets payload = .ok v ∧ Body.fits type v = true := by
  unfold Body.decode
  cases Json.ofOctets payload with
  | error f => simp
  | ok w =>
    simp only [Except.ok.injEq]
    split_ifs with hw
    · constructor
      · rintro ⟨⟩
        exact ⟨rfl, hw⟩
      · rintro ⟨rfl, -⟩
        rfl
    · constructor
      · rintro ⟨⟩
      · rintro ⟨rfl, hv⟩
        exact absurd hv hw

/-- What a declared type says against a value of another kind. -/
def misfitText (type : ParameterType) (v : Json) : String :=
  s!"expected {type.name}, found {v.kind}"

theorem decode_eq_error {name : String} {type : ParameterType} {payload : Octets}
    {e : BindingError} (h : Body.decode name type payload = .error e) :
    (∃ f, Json.ofOctets payload = .error f ∧ e = .bodyMisfit name f.message) ∨
      ∃ v, Json.ofOctets payload = .ok v ∧ Body.fits type v = false ∧
        e = .bodyMisfit name (misfitText type v) := by
  unfold Body.decode at h
  cases hj : Json.ofOctets payload with
  | error f =>
    rw [hj] at h
    exact .inl ⟨f, rfl, (Except.error.inj h).symm⟩
  | ok v =>
    rw [hj] at h
    simp only at h
    split_ifs at h with hv
    exact .inr ⟨v, rfl, by simpa using hv, (Except.error.inj h).symm⟩

/-! ## Parameters -/

theorem withoutValue_eq_error {p : Parameter} {e : Stop} (h : p.withoutValue = .error e) :
    p.required = true ∧ e = .failed (.missing p.name p.location) := by
  unfold Parameter.withoutValue at h
  split_ifs at h with hp
  exact ⟨hp, (Except.error.inj h).symm⟩

/-- What a scalar parameter stops at. -/
inductive ScalarFailure (p : Parameter) (r : Request) : Stop → Prop
  | missing (hp : p.required = true) (hr : r.lookup? p.name p.location = none) :
      ScalarFailure p r (.failed (.missing p.name p.location))
  | malformed {raw : String} {e : CoerceError} (hr : r.lookup? p.name p.location = some raw)
      (he : Value.coerce raw p.type = .error e) :
      ScalarFailure p r (.failed (.malformed p.name p.location e.message))

theorem scalarFailure_of_resolveScalar {p : Parameter} {r : Request} {e : Stop}
    (h : p.resolveScalar r = .error e) : ScalarFailure p r e := by
  unfold Parameter.resolveScalar at h
  cases hr : r.lookup? p.name p.location with
  | none =>
    rw [hr] at h
    obtain ⟨hp, rfl⟩ := withoutValue_eq_error h
    exact .missing hp hr
  | some raw =>
    rw [hr] at h
    simp only [Parameter.ofText] at h
    cases hc : Value.coerce raw p.type with
    | ok v =>
      rw [hc] at h
      cases h
    | error f =>
      rw [hc] at h
      obtain rfl := Except.error.inj h
      exact .malformed hr hc

/-- What a body parameter stops at that finds `body` in the request. -/
inductive BodyFailure (ctx : BindingContext) (p : Parameter) (body : Option BodyStream) :
    Stop → Prop
  | missing (hp : p.required = true) :
      BodyFailure ctx p body (.failed (.missing p.name p.location))
  | tooLarge : BodyFailure ctx p body (.failed (.bodyTooLarge ctx.maxBodyOctets))
  | unreadable (text : String) : BodyFailure ctx p body (.failed (.bodyUnreadable text))
  | overflowed {stream : BodyStream} (hbody : body = some stream)
      (hover : Body.Overflows ctx.maxBodyOctets stream) :
      BodyFailure ctx p body (.panicked Body.capacityOverflow)
  | uncompiled {payload : Octets} {name : String} (hr : ReadsTo ctx body payload)
      (hp : p.schema = some name) (hs : ctx.schemas.get? name = none) :
      BodyFailure ctx p body (.failed (.internal s!"schema '{name}' is not compiled"))
  | violated {payload : Octets} {name : String} {schema : CompiledSchema} {vs : List String}
      (hr : ReadsTo ctx body payload) (hp : p.schema = some name)
      (hs : ctx.schemas.get? name = some schema) (hv : ctx.validator schema payload = .error vs) :
      BodyFailure ctx p body (.failed (.schemaViolated vs))
  | noJson {payload : Octets} {f : JsonError} (hr : ReadsTo ctx body payload)
      (hj : p.judge ctx payload = .ok ()) (hv : Json.ofOctets payload = .error f) :
      BodyFailure ctx p body (.failed (.bodyMisfit p.name f.message))
  | otherKind {payload : Octets} {v : Json} (hr : ReadsTo ctx body payload)
      (hj : p.judge ctx payload = .ok ()) (hv : Json.ofOctets payload = .ok v)
      (hf : Body.fits p.type v = false) :
      BodyFailure ctx p body (.failed (.bodyMisfit p.name (misfitText p.type v)))

theorem bodyFailure_of_judge {ctx : BindingContext} {p : Parameter} {body : Option BodyStream}
    {payload : Octets} {e : Stop} (hr : ReadsTo ctx body payload)
    (h : p.judge ctx payload = .error e) : BodyFailure ctx p body e := by
  unfold Parameter.judge at h
  cases hp : p.schema with
  | none =>
    rw [hp] at h
    cases h
  | some name =>
    simp only [hp] at h
    cases hs : ctx.schemas.get? name with
    | none =>
      rw [hs] at h
      obtain rfl := Except.error.inj h
      exact .uncompiled hr hp hs
    | some schema =>
      rw [hs] at h
      cases hv : ctx.validator schema payload with
      | ok u =>
        simp only [hv] at h
        cases h
      | error vs =>
        simp only [hv] at h
        obtain rfl := Except.error.inj h
        exact .violated hr hp hs hv

theorem bodyFailure_of_ofPayload {ctx : BindingContext} {p : Parameter} {body : Option BodyStream}
    {payload : Octets} {e : Stop} (hr : ReadsTo ctx body payload)
    (h : p.ofPayload ctx payload = .error e) : BodyFailure ctx p body e := by
  unfold Parameter.ofPayload at h
  rw [if_neg hr.ne_nil] at h
  obtain hj | ⟨u, hj, h⟩ := bind_eq_error_iff.mp h
  · exact bodyFailure_of_judge hr hj
  · obtain hlifted | ⟨v, -, h⟩ := bind_eq_error_iff.mp h
    · obtain ⟨e, hd, rfl⟩ := mapError_eq_error_iff.mp hlifted
      obtain ⟨f, hv, rfl⟩ | ⟨v, hv, hf, rfl⟩ := decode_eq_error hd
      · exact .noJson hr hj hv
      · exact .otherKind hr hj hv hf
    · cases h

theorem bodyFailure_of_resolveBody {ctx : BindingContext} {p : Parameter}
    {body : Option BodyStream} {e : Stop} (h : p.resolveBody ctx body = .error e) :
    BodyFailure ctx p body e := by
  cases body with
  | none =>
    obtain ⟨hp, rfl⟩ := withoutValue_eq_error h
    exact .missing hp
  | some stream =>
    obtain hread | ⟨payload, hread, h⟩ := bind_eq_error_iff.mp h
    · obtain rfl | ⟨text, rfl⟩ | ⟨rfl, hover⟩ := readBounded_eq_error hread
      · exact .tooLarge
      · exact .unreadable text
      · exact .overflowed rfl hover
    · by_cases hne : payload = []
      · subst hne
        obtain ⟨hp, rfl⟩ := withoutValue_eq_error h
        exact .missing hp
      · exact bodyFailure_of_ofPayload (readsTo_some_iff.mpr ⟨hread, hne⟩) h

end RequestBinding
