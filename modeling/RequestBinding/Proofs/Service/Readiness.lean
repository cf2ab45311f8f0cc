import RequestBinding.Proofs.Binding.States
import RequestBinding.Proofs.Manifest.Checked
import RequestBinding.Service.Basic

/-!
# Services that start are ready

Whatever could make binding fail for a reason of the server's own is found while the service starts.

1. `mem_referencedSchemas_iff`: the schemas to compile are those that some parameter names.
2. `Ready` is what a started service knows of each of its parameters (`ready_of_start`).
3. `binding_is_never_internal` follows for every request.
-/

namespace RequestBinding

/-! ## Compiled schemas -/

theorem mem_referencedSchemas_iff {m : Manifest} {name : String} :
    name ∈ m.referencedSchemas ↔
      ∃ op ∈ m.operations, ∃ p ∈ op.parameters, p.schema = some name := by
  unfold Manifest.referencedSchemas
  rw [NameMap.mem_names_ofList]
  constructor
  · intro h
    obtain ⟨entry, hentry, rfl⟩ := List.mem_map.mp h
    obtain ⟨p, hp, hschema⟩ := List.mem_filterMap.mp hentry
    obtain ⟨op, hop, hp⟩ := List.mem_flatMap.mp hp
    obtain ⟨name, hname, rfl⟩ := Option.map_eq_some_iff.mp hschema
    exact ⟨op, hop, p, hp, hname⟩
  · rintro ⟨op, hop, p, hp, hname⟩
    refine List.mem_map.mpr ⟨(name, ()), List.mem_filterMap.mpr ⟨p, ?_, by rw [hname]; rfl⟩, rfl⟩
    exact List.mem_flatMap.mpr ⟨op, hop, hp⟩

theorem compileNamed_cons_of_error {compiler : SchemaCompiler} {all : NameMap Json} {name : String}
    {e : StartupError}
    (h : compiler name (schemaDocument name all) = .error e) (rest : List String) :
    (compileNamed compiler all (name :: rest)).value = .error e := by
  unfold compileNamed
  rw [h]
  rfl

theorem compileNamed_cons_of_ok {compiler : SchemaCompiler} {all : NameMap Json} {name : String}
    {schema : CompiledSchema}
    (h : compiler name (schemaDocument name all) = .ok schema) (rest : List String) :
    (compileNamed compiler all (name :: rest)).value =
      (compileNamed compiler all rest).value.map (NameMap.insert name schema) := by
  rw [compileNamed, h]
  rfl

/-- Under each of the names stands what the compiler made of its document. -/
theorem get?_of_compileNamed {compiler : SchemaCompiler} {all : NameMap Json} {names : List String}
    {compiled : NameMap CompiledSchema} (h : (compileNamed compiler all names).value = .ok compiled) :
    ∀ name ∈ names, ∃ schema, compiler name (schemaDocument name all) = .ok schema ∧
      compiled.get? name = some schema := by
  induction names generalizing compiled with
  | nil =>
    intro name hname
    cases hname
  | cons first rest ih =>
    cases hc : compiler first (schemaDocument first all) with
    | error e =>
      rw [compileNamed_cons_of_error hc] at h
      cases h
    | ok schema =>
      rw [compileNamed_cons_of_ok hc] at h
      obtain ⟨others, hothers, rfl⟩ := map_eq_ok_iff.mp h
      intro name hname
      by_cases heq : name = first
      · subst heq
        exact ⟨schema, hc, NameMap.get?_insert_self _ _ _⟩
      · obtain ⟨s, hs, hget⟩ := ih hothers name ((List.mem_cons.mp hname).resolve_left heq)
        exact ⟨s, hs, (NameMap.get?_insert_of_ne heq _ _).trans hget⟩

/-! ## Started services -/

theorem buildWith_eq_ok {compiler : SchemaCompiler} {settings : ServiceSettings} {m : Manifest}
    {s : Service} (h : (Service.buildWith compiler settings m).value = .ok s) :
    s.operations = m.operations ∧ (m.compileSchemas compiler).value = .ok s.schemas ∧
      s.validator = settings.validator ∧ s.maxBodyOctets = Service.limitOf settings m := by
  unfold Service.buildWith at h
  cases hc : (m.compileSchemas compiler).value with
  | error e =>
    simp only [Logged.value_bind, hc] at h
    cases h
  | ok schemas =>
    simp only [Logged.value_bind, hc] at h
    obtain rfl := Except.ok.inj h
    exact ⟨rfl, rfl, rfl, rfl⟩

/-- What a service has to know of a parameter to bind it: how to read its text, or its schema. -/
structure Ready (s : Service) (p : Parameter) : Prop where
  scalar : p.isBody = false → p.type.isScalar = true
  compiled : ∀ name, p.schema = some name → ∃ schema, s.schema? name = some schema

/-- A service that starts is ready for every parameter of its operations. -/
theorem ready_of_start {doc : ManifestDocument} {m : Manifest} {compiler : SchemaCompiler}
    {settings : ServiceSettings} {s : Service} (hm : (buildManifest doc).value = .ok m)
    (hs : (Service.buildWith compiler settings m).value = .ok s) {op : Operation}
    (hop : op ∈ s.operations) {p : Parameter} (hp : p ∈ op.parameters) : Ready s p := by
  obtain ⟨hops, hschemas, -, -⟩ := buildWith_eq_ok hs
  rw [hops] at hop
  refine ⟨?_, fun name hname => ?_⟩
  · obtain ⟨i, hi⟩ := List.mem_iff_getElem?.mp hp
    exact (checked_of_buildManifest hm hop i p hi).scalar
  · have href : name ∈ m.referencedSchemas := mem_referencedSchemas_iff.mpr ⟨op, hop, p, hp, hname⟩
    obtain ⟨schema, -, hget⟩ := get?_of_compileNamed hschemas name href
    exact ⟨schema, hget⟩

/-! ## Binding with them -/

theorem readFloat_ne_bodyOnly {raw : String} {reason : CoerceReason}
    (h : Value.readFloat raw = .error reason) (t : ParameterType) : reason ≠ .bodyOnly t := by
  unfold Value.readFloat at h
  rintro rfl
  cases hn : NumberText.read? raw with
  | some n =>
    rw [hn] at h
    cases h
  | none =>
    rw [hn] at h
    simp only at h
    split_ifs at h <;> cases h

/-- A text is refused for its type only if the type is structured. -/
theorem readReason_ne_bodyOnly {type : ParameterType} (h : type.isScalar = true) (raw : String)
    {reason : CoerceReason} (hr : Value.readReason raw type = .error reason) (t : ParameterType) :
    reason ≠ .bodyOnly t := by
  cases type with
  | string => cases hr
  | int32 | int64 =>
    obtain ⟨fault, -, rfl⟩ := mapError_eq_error_iff.mp (map_eq_error_iff.mp hr)
    simp
  | float32 =>
    obtain hf | ⟨n, -, hr⟩ := bind_eq_error_iff.mp hr
    · exact readFloat_ne_bodyOnly hf t
    · simp only at hr
      split_ifs at hr
      cases hr
      simp
  | float64 => exact readFloat_ne_bodyOnly (map_eq_error_iff.mp hr) t
  | boolean =>
    unfold Value.readReason at hr
    cases hb : Value.readBoolean? raw with
    | some b =>
      rw [hb] at hr
      cases hr
    | none =>
      rw [hb] at hr
      cases hr
      simp
  | object | array | map => cases h

theorem coerce_ne_bodyOnly {type : ParameterType} (h : type.isScalar = true) {raw : String}
    {e : CoerceError} (he : Value.coerce raw type = .error e) (t : ParameterType) :
    e.reason ≠ .bodyOnly t := by
  obtain ⟨reason, hr, rfl⟩ := mapError_eq_error_iff.mp he
  exact readReason_ne_bodyOnly h raw hr t

theorem resolve_ne_internal {s : Service} {op : Operation} {r : Request} {i : ℕ} {p : Parameter}
    (h : Ready s p) (cause : String) :
    op.resolve s.context r i p ≠ .error (.failed (.internal cause)) := by
  intro he
  cases hbody : p.isBody with
  | false =>
    rw [resolve_of_not_isBody hbody] at he
    cases scalarFailure_of_resolveScalar he
  | true =>
    rw [resolve_of_isBody hbody] at he
    cases bodyFailure_of_resolveBody he with
    | uncompiled hr hp hs =>
      obtain ⟨schema, hschema⟩ := h.compiled _ hp
      have hnone : s.schema? _ = none := hs
      rw [hschema] at hnone
      cases hnone

theorem status_of_ne_internal {e : BindingError} (h : ∀ cause, e ≠ .internal cause) :
    e.status = 400 := by
  cases e with
  | internal cause => exact absurd rfl (h cause)
  | _ => rfl

/-- No request to a service that started is answered as an error of the server: binding never fails for
an internal cause, and every text that is coerced has a scalar type to be read as. -/
theorem binding_is_never_internal {doc : ManifestDocument} {m : Manifest}
    {compiler : SchemaCompiler} {settings : ServiceSettings} {s : Service}
    (hm : (buildManifest doc).value = .ok m)
    (hs : (Service.buildWith compiler settings m).value = .ok s) {op : Operation}
    (hop : op ∈ s.operations) (r : Request) :
    (∀ e, (s.bind op r).result = .error (.failed e) →
      (∀ cause, e ≠ .internal cause) ∧ e.status = 400) ∧
    (∀ p ∈ op.parameters, p.isBody = false → ∀ raw e, Value.coerce raw p.type = .error e →
      ∀ t, e.reason ≠ .bodyOnly t) ∧
    ∀ (i : ℕ), .coercing i ∈ (s.bind op r).states → ∃ p raw, op.parameters[i]? = some p ∧
      p.isBody = false ∧ r.lookup? p.name p.location = some raw ∧
      ∀ e, Value.coerce raw p.type = .error e → ∀ t, e.reason ≠ .bodyOnly t := by
  have hready : ∀ p ∈ op.parameters, Ready s p := fun p hp => ready_of_start hm hs hop hp
  refine ⟨fun e he => ?_, fun p hp hscalar raw e he t => ?_, fun i hi => ?_⟩
  · obtain ⟨i, p, hp, hfail, -⟩ := result_bind_eq_error_iff.mp he
    have hne : ∀ cause, e ≠ .internal cause := by
      rintro cause rfl
      exact resolve_ne_internal (hready p (List.mem_of_getElem? hp)) cause hfail
    exact ⟨hne, status_of_ne_internal hne⟩
  · exact coerce_ne_bodyOnly ((hready p hp).scalar hscalar) he t
  · obtain ⟨p, raw, hp, hscalar, hraw⟩ := lookup?_of_coercing hi
    have htype := (hready p (List.mem_of_getElem? hp)).scalar hscalar
    exact ⟨p, raw, hp, hscalar, hraw, fun e he t => coerce_ne_bodyOnly htype he t⟩

/-- A service with a body under a schema of objects, which answers a list with its violation. -/
theorem violation_answered_by_started_service :
    let violations (v : Json) : List String := if v.kind = "object" then [] else ["no object"]
    let doc : ManifestDocument :=
      { schemas := [("Profile", .object [])]
        operations := [⟨"save", "patch", "/users/\x7bid\x7d",
          [.inline { name := "id", location := .path, required := true, type := some "string" },
            .inline { name := "profile", location := .body, schema := some "Profile" }]⟩] }
    let compiler : SchemaCompiler := fun name _ => .ok ⟨name, violations⟩
    let settings : ServiceSettings := { maxBodyOctets := some 8 }
    let op : Operation := ⟨"save", "PATCH", "/users/\x7bid\x7d",
      [{ name := "id", location := .path, required := true, type := .string },
        { name := "profile", location := .body, type := .object, schema := some "Profile" }]⟩
    let m : Manifest := { operations := [op], schemas := [("Profile", .object [])] }
    let s : Service :=
      { operations := [op], schemas := [("Profile", ⟨"Profile", violations⟩)], maxBodyOctets := 8 }
    let r : Request :=
      { id := ⟨0⟩, method := "PATCH", path := "/users/7", pathParams := [("id", "7")]
        body := some { script := [.data [0x5b, 0x5d]] } }
    (buildManifest doc).value = .ok m ∧ (Service.buildWith compiler settings m).value = .ok s ∧
      op ∈ s.operations ∧ ∃ e, (s.bind op r).result = .error (.failed e) ∧
        (∀ cause, e ≠ .internal cause) ∧ e.status = 400 := by
  intro violations doc compiler settings op m s r
  have hm : (buildManifest doc).value = .ok m := rfl
  have hs : (Service.buildWith compiler settings m).value = .ok s := rfl
  have hop : op ∈ s.operations := List.mem_singleton.mpr rfl
  have he : (s.bind op r).result = .error (.failed (.schemaViolated ["no object"])) := by
    unfold Service.bind
    -- without its steps, whose texts are long to evaluate
    rw [result_bind_eq_mapM]
    with_unfolding_all rfl
  exact ⟨hm, hs, hop, _, he, (binding_is_never_internal hm hs hop r).1 _ he⟩

end RequestBinding
