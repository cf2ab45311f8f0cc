import Mathlib.Data.List.Nodup
import Mathlib.Data.String.Basic
import RequestBinding.Proofs.Manifest.Validity
import RequestBinding.Proofs.Service.Readiness

/-!
# Services as they start

A service that starts has the operations of its manifest and the compiled schemas that their bodies name.
One that does not start names the first schema, in the order of octets, whose document does not compile.

1. `operation?_eq_of_nodup`: with distinct ids, looking up in the table and in the list is the same.
2. `get?_of_compileNamed` and `get?_compileNamed_of_notMem`: what has been compiled is what was asked for.
3. `compileNamed_eq_error`: a failure is that of the first name that fails; names come in order.
-/

namespace RequestBinding

variable {doc : ManifestDocument} {m : Manifest}

/-! ## Operations -/

/-- The operations of a manifest have distinct ids, as those of its document have. -/
theorem nodup_ids_of_buildManifest (hm : (buildManifest doc).value = .ok m) :
    (m.operations.map Operation.id).Nodup := by
  obtain ⟨hvalid, hbecomes⟩ := buildManifest_eq_ok_iff_becomes.mp hm
  have hids : List.Forall₂ (· = ·) (doc.operations.map OperationDeclaration.id)
      (m.operations.map Operation.id) := by
    rw [List.forall₂_map_left_iff, List.forall₂_map_right_iff]
    exact hbecomes.operations.imp fun d op hop => hop.id.symm
  rw [List.forall₂_eq_eq_eq] at hids
  rw [← hids]
  exact hvalid.distinct

/-- Looking up in the list finds the operation of an id. -/
theorem Manifest.operation?_eq_some_iff (hids : (m.operations.map Operation.id).Nodup) {id : String}
    {op : Operation} : m.operation? id = some op ↔ op ∈ m.operations ∧ op.id = id := by
  constructor
  · intro h
    exact ⟨List.mem_of_find?_eq_some h, by simpa using List.find?_some h⟩
  · rintro ⟨hop, hid⟩
    cases hfirst : m.operation? id with
    | none =>
      have hne := List.find?_eq_none.mp hfirst op hop
      simp [hid] at hne
    | some first =>
      have hmem : first ∈ m.operations := List.mem_of_find?_eq_some hfirst
      have hfirstId : first.id = id := by simpa using List.find?_some hfirst
      rw [List.inj_on_of_nodup_map hids hop hmem (hid.trans hfirstId.symm)]

/-- Looking up in the table finds the operation of an id. -/
theorem Service.operation?_eq_some_iff {s : Service} (hids : (s.operations.map Operation.id).Nodup)
    {id : String} {op : Operation} : s.operation? id = some op ↔ op ∈ s.operations ∧ op.id = id := by
  constructor
  · exact Service.mem_of_operation?_eq_some
  · rintro ⟨hop, hid⟩
    cases hfound : s.operation? id with
    | none => exact absurd hid (Service.operation?_eq_none_iff.mp hfound op hop)
    | some found =>
      obtain ⟨hmem, hfoundId⟩ := Service.mem_of_operation?_eq_some hfound
      rw [List.inj_on_of_nodup_map hids hop hmem (hid.trans hfoundId.symm)]

/-- With distinct ids, the table of a service finds what the list of the manifest finds. -/
theorem operation?_eq_of_nodup {s : Service} (hops : s.operations = m.operations)
    (hids : (m.operations.map Operation.id).Nodup) (id : String) :
    s.operation? id = m.operation? id := by
  refine Option.ext fun op => ?_
  rw [Manifest.operation?_eq_some_iff hids, Service.operation?_eq_some_iff (by rwa [hops]), hops]

/-! ## Schemas -/

/-- Whether the body of some operation is judged by the schema of a name. -/
def Manifest.References (m : Manifest) (name : String) : Prop :=
  ∃ op ∈ m.operations, ∃ p ∈ op.parameters, p.isBody = true ∧ p.schema = some name

/-- What comes of compiling the document of a name, which carries all schemas. -/
def Manifest.compileSchema (m : Manifest) (formats : Bool) (name : String) :
    Except StartupError CompiledSchema :=
  CompiledSchema.compile formats name (schemaDocument name m.schemas)

/-- In a manifest that has been checked, only bodies name schemas. -/
theorem references_iff (hm : (buildManifest doc).value = .ok m) {name : String} :
    m.References name ↔ name ∈ m.referencedSchemas := by
  rw [mem_referencedSchemas_iff]
  constructor
  · rintro ⟨op, hop, p, hp, -, hname⟩
    exact ⟨op, hop, p, hp, hname⟩
  · rintro ⟨op, hop, p, hp, hname⟩
    obtain ⟨i, hi⟩ := List.mem_iff_getElem?.mp hp
    have hchecked := checked_of_buildManifest hm hop i p hi
    exact ⟨op, hop, p, hp, (hchecked.known name hname).1, hname⟩

section Compiling

variable {compiler : SchemaCompiler} {all : NameMap Json}

/-- Nothing is compiled that was not asked for. -/
theorem get?_compileNamed_of_notMem {names : List String} {compiled : NameMap CompiledSchema}
    (h : (compileNamed compiler all names).value = .ok compiled) {name : String}
    (hname : name ∉ names) : compiled.get? name = none := by
  induction names generalizing compiled with
  | nil =>
    obtain rfl : [] = compiled := Except.ok.inj h
    rfl
  | cons first rest ih =>
    have hne : name ≠ first := List.ne_of_not_mem_cons hname
    have hrest : name ∉ rest := List.not_mem_of_not_mem_cons hname
    cases hc : compiler first (schemaDocument first all) with
    | error e =>
      rw [compileNamed_cons_of_error hc] at h
      cases h
    | ok schema =>
      rw [compileNamed_cons_of_ok hc] at h
      obtain ⟨others, hothers, rfl⟩ := map_eq_ok_iff.mp h
      rw [NameMap.get?_insert_of_ne hne]
      exact ih hothers hrest

/-- Compiling fails with the error of the first name that fails. -/
theorem compileNamed_eq_error {names : List String} {e : StartupError}
    (h : (compileNamed compiler all names).value = .error e) :
    ∃ front name back, names = front ++ name :: back ∧
      compiler name (schemaDocument name all) = .error e ∧
      ∀ other ∈ front, ∃ schema, compiler other (schemaDocument other all) = .ok schema := by
  induction names with
  | nil => cases h
  | cons first rest ih =>
    cases hc : compiler first (schemaDocument first all) with
    | error e' =>
      rw [compileNamed_cons_of_error hc] at h
      obtain rfl := Except.error.inj h
      exact ⟨[], first, rest, rfl, hc, List.forall_mem_nil _⟩
    | ok schema =>
      rw [compileNamed_cons_of_ok hc] at h
      obtain ⟨front, name, back, rfl, hname, hfront⟩ := ih (map_eq_error_iff.mp h)
      exact ⟨first :: front, name, back, rfl, hname, List.forall_mem_cons.mpr ⟨⟨schema, hc⟩, hfront⟩⟩

/-- If the names ascend, the name that compiling fails with is before all others that fail. -/
theorem le_of_compileNamed_eq_error {names : List String} (hnames : names.Pairwise (· < ·))
    {e : StartupError} (h : (compileNamed compiler all names).value = .error e) :
    ∃ name ∈ names, compiler name (schemaDocument name all) = .error e ∧
      ∀ other ∈ names, (∃ e', compiler other (schemaDocument other all) = .error e') →
        name ≤ other := by
  obtain ⟨front, name, back, rfl, hname, hfront⟩ := compileNamed_eq_error h
  obtain ⟨-, hback, -⟩ := List.pairwise_append.mp hnames
  obtain ⟨hafter, -⟩ := List.pairwise_cons.mp hback
  refine ⟨name, List.mem_append_right _ List.mem_cons_self, hname, fun other hother hfails => ?_⟩
  obtain hother | hother := List.mem_append.mp hother
  · obtain ⟨schema, hschema⟩ := hfront other hother
    obtain ⟨e', hfails⟩ := hfails
    rw [hschema] at hfails
    cases hfails
  · obtain rfl | hother := List.mem_cons.mp hother
    · exact le_refl other
    · exact le_of_lt (hafter other hother)

end Compiling

theorem compile_eq_error {formats : Bool} {name : String} {document : Json} {e : StartupError}
    (h : CompiledSchema.compile formats name document = .error e) :
    ∃ cause, e = .schemaRejected name cause := by
  unfold CompiledSchema.compile at h
  cases hrules : CompiledSchema.rulesOf formats document with
  | ok t =>
    rw [hrules] at h
    cases h
  | error f =>
    rw [hrules] at h
    exact ⟨f.text, (Except.error.inj h).symm⟩

/-! ## Building -/

theorem buildWith_eq_error_iff {compiler : SchemaCompiler} {settings : ServiceSettings}
    {e : StartupError} :
    (Service.buildWith compiler settings m).value = .error e ↔
      (m.compileSchemas compiler).value = .error e := by
  unfold Service.buildWith
  rw [Logged.value_bind]
  cases (m.compileSchemas compiler).value with
  | error e' =>
    dsimp only
    rw [Logged.value_pure, Except.error.injEq, Except.error.injEq]
  | ok schemas =>
    constructor
    · intro h
      cases h
    · intro h
      cases h

/-- Whether a service has the operations of a manifest and the compiled schemas that it references. -/
structure Service.Serves (s : Service) (m : Manifest) (formats : Bool) : Prop where
  operations : s.operations = m.operations
  operation : ∀ id, s.operation? id = m.operation? id
  referenced : ∀ name, (s.schema? name).isSome = true ↔ m.References name
  compiled : ∀ name schema, s.schema? name = some schema → m.compileSchema formats name = .ok schema

theorem serves_of_build (hm : (buildManifest doc).value = .ok m) {settings : ServiceSettings}
    {s : Service} (hs : (Service.build settings m).value = .ok s) :
    s.Serves m settings.config.validateFormats := by
  obtain ⟨hops, hschemas, -, -⟩ := buildWith_eq_ok hs
  have hmem : ∀ name ∈ m.referencedSchemas, ∃ schema,
      m.compileSchema settings.config.validateFormats name = .ok schema ∧
        s.schema? name = some schema := get?_of_compileNamed hschemas
  have hnotMem : ∀ name, name ∉ m.referencedSchemas → s.schema? name = none :=
    fun name hname => get?_compileNamed_of_notMem hschemas hname
  refine ⟨hops, operation?_eq_of_nodup hops (nodup_ids_of_buildManifest hm), fun name => ?_,
    fun name schema hschema => ?_⟩
  · rw [references_iff hm]
    constructor
    · intro hsome
      by_contra hname
      rw [hnotMem name hname] at hsome
      cases hsome
    · intro hname
      obtain ⟨schema, -, hget⟩ := hmem name hname
      rw [hget]
      rfl
  · by_cases hname : name ∈ m.referencedSchemas
    · obtain ⟨other, hcompiled, hget⟩ := hmem name hname
      obtain rfl : other = schema := Option.some.inj (hget.symm.trans hschema)
      exact hcompiled
    · rw [hnotMem name hname] at hschema
      cases hschema

/-- A build that fails names the first of the schemas that do not compile. -/
theorem first_of_build_eq_error (hm : (buildManifest doc).value = .ok m) {settings : ServiceSettings}
    {e : StartupError} (h : (Service.build settings m).value = .error e) :
    ∃ name cause, e = .schemaRejected name cause ∧ m.References name ∧
      m.compileSchema settings.config.validateFormats name = .error e ∧
      ∀ other, m.References other →
        (∃ e', m.compileSchema settings.config.validateFormats other = .error e') →
        encodeUtf8 name ≤ encodeUtf8 other := by
  obtain ⟨name, hname, hfails, hleast⟩ :=
    le_of_compileNamed_eq_error (NameMap.names_ofList_ascending _) (buildWith_eq_error_iff.mp h)
  obtain ⟨cause, hcause⟩ := compile_eq_error hfails
  refine ⟨name, cause, hcause, (references_iff hm).mpr hname, hfails, fun other hother hothers => ?_⟩
  exact encodeUtf8_le (hleast other ((references_iff hm).mp hother) hothers)

/-- A service built from a checked manifest finds the operations that the manifest finds and has the
compiled schemas that bodies name. Building fails just if one of them does not compile, and names the
first such one. -/
theorem build_serves_manifest {doc : ManifestDocument} {m : Manifest}
    (hm : (buildManifest doc).value = .ok m) (settings : ServiceSettings) :
    (∀ s, (Service.build settings m).value = .ok s → s.Serves m settings.config.validateFormats) ∧
    ((∃ e, (Service.build settings m).value = .error e) ↔
      ∃ name, m.References name ∧
        ∃ e, m.compileSchema settings.config.validateFormats name = .error e) ∧
    ∀ e, (Service.build settings m).value = .error e →
      ∃ name cause, e = .schemaRejected name cause ∧ m.References name ∧
        m.compileSchema settings.config.validateFormats name = .error e ∧
        ∀ other, m.References other →
          (∃ e', m.compileSchema settings.config.validateFormats other = .error e') →
          encodeUtf8 name ≤ encodeUtf8 other := by
  refine ⟨fun s hs => serves_of_build hm hs, ⟨?_, ?_⟩, fun e he => first_of_build_eq_error hm he⟩
  · rintro ⟨e, he⟩
    obtain ⟨name, -, -, href, hfails, -⟩ := first_of_build_eq_error hm he
    exact ⟨name, href, e, hfails⟩
  · rintro ⟨name, href, e, hfails⟩
    cases hbuilt : (Service.build settings m).value with
    | error e' => exact ⟨e', rfl⟩
    | ok s =>
      have hserves := serves_of_build hm hbuilt
      obtain ⟨schema, hschema⟩ := Option.isSome_iff_exists.mp ((hserves.referenced name).mpr href)
      rw [hserves.compiled name schema hschema] at hfails
      cases hfails

/-- With one schema under two names, of which a body names one, a service either starts with that one, or
fails with its name. -/
theorem save_served_or_profile_rejected :
    let save : Operation := ⟨"save", "PUT", "/profile",
      [{ name := "profile", location := .body, type := .object, schema := some "Profile" }]⟩
    let doc : ManifestDocument :=
      { schemas := [("Account", .object []), ("Profile", .object [])]
        operations := [⟨"save", "put", "/profile",
          [.inline { name := "profile", location := .body, schema := some "Profile" }]⟩] }
    let m : Manifest :=
      { operations := [save], schemas := [("Account", .object []), ("Profile", .object [])] }
    (buildManifest doc).value = .ok m ∧ ∀ settings,
      (∃ s, (Service.build settings m).value = .ok s ∧ s.operation? "save" = some save ∧
        (s.schema? "Profile").isSome = true ∧ s.schema? "Account" = none) ∨
      ∃ cause, (Service.build settings m).value = .error (.schemaRejected "Profile" cause) := by
  intro save doc m
  have hm : (buildManifest doc).value = .ok m := rfl
  have hreferences : ∀ name, m.References name ↔ name = "Profile" := by
    intro name
    rw [references_iff hm]
    exact List.mem_singleton
  refine ⟨hm, fun settings => ?_⟩
  obtain ⟨hok, -, herror⟩ := build_serves_manifest hm settings
  cases hbuilt : (Service.build settings m).value with
  | ok s =>
    have hserves := hok s hbuilt
    refine .inl ⟨s, rfl, (hserves.operation "save").trans (by rfl),
      (hserves.referenced "Profile").mpr ((hreferences "Profile").mpr rfl), ?_⟩
    cases hschema : s.schema? "Account" with
    | none => rfl
    | some schema =>
      have href := (hserves.referenced "Account").mp (Option.isSome_iff_exists.mpr ⟨schema, hschema⟩)
      exact absurd ((hreferences "Account").mp href) (by decide)
  | error e =>
    obtain ⟨name, cause, rfl, href, -, -⟩ := herror e hbuilt
    obtain rfl := (hreferences name).mp href
    exact .inr ⟨cause, rfl⟩

end RequestBinding
