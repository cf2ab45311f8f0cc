import Mathlib.Data.List.Induction
import RequestBinding.Proofs.Manifest.Checked
import RequestBinding.Proofs.Manifest.Resolution

/-!
# Valid documents

Building a manifest succeeds exactly for valid documents, and the manifest then lists what the document
declares: `buildManifest_accepts_valid`.

1. `WellDeclared` says what the parameters of one operation have to be like, whatever their order;
   `checked_iff_wellDeclared` is that the checks of each parameter against those before it amount to it.
2. `buildParameters_eq` and `buildOperations_eq` run the two loops on declarations without fault.
3. `forall₂_of_buildParameters` and `forall₂_of_buildOperations` read the declarations back off a run
   without issues.
-/

namespace RequestBinding

/-! ## The parameters of one operation -/

/-- What the parameters of an operation have to be like. -/
structure WellDeclared (schemas : NameMap Json) (path : String) (ps : List Parameter) : Prop where
  distinct : ps.Pairwise fun p q => p.name = q.name → p.location ≠ q.location
  oneBody : ps.countP Parameter.isBody ≤ 1
  /-- What is no body has a scalar type and no schema. -/
  plain : ∀ p ∈ ps, p.isBody = false → p.type.isScalar = true ∧ p.schema = none
  known : ∀ p ∈ ps, ∀ name, p.schema = some name → ∃ schema, schemas.get? name = some schema
  inPath : ∀ p ∈ ps, p.location = .path → p.name ∈ pathVariables path

variable {schemas : NameMap Json} {path : String}

theorem wellDeclared_nil (schemas : NameMap Json) (path : String) :
    WellDeclared schemas path [] := by
  constructor <;> simp

/-- One more parameter has to be admissible after the others. -/
theorem wellDeclared_concat_iff {ps : List Parameter} {p : Parameter} :
    WellDeclared schemas path (ps ++ [p]) ↔
      WellDeclared schemas path ps ∧ p.Admissible schemas path ps := by
  constructor
  · rintro ⟨hdistinct, hbody, hplain, hknown, hpath⟩
    obtain ⟨hps, -, hp⟩ := List.pairwise_append.mp hdistinct
    obtain ⟨hplain, hpplain⟩ := List.forall_mem_append.mp hplain
    obtain ⟨hknown, hpknown⟩ := List.forall_mem_append.mp hknown
    obtain ⟨hpath, hppath⟩ := List.forall_mem_append.mp hpath
    rw [List.countP_append, List.countP_singleton] at hbody
    have hp' := List.mem_singleton_self p
    refine ⟨⟨hps, by omega, hplain, hknown, hpath⟩, fun q hq => hp q hq p hp', ?_,
      fun h => (hpplain p hp' h).1, fun name hname => ⟨?_, ?_⟩, hppath p hp'⟩
    · intro h
      rw [if_pos h] at hbody
      have hnone : ps.countP Parameter.isBody = 0 := by omega
      simpa using List.countP_eq_zero.mp hnone
    · by_contra h
      rw [(hpplain p hp' (by simpa using h)).2] at hname
      cases hname
    · exact Option.isSome_iff_exists.mpr (hpknown p hp' name hname)
  · rintro ⟨⟨hps, hbody, hplain, hknown, hpath⟩, hp⟩
    refine ⟨?_, ?_, ?_, ?_, ?_⟩
    · refine List.pairwise_append.mpr ⟨hps, List.pairwise_singleton _ p, fun q hq r hr => ?_⟩
      rw [List.mem_singleton.mp hr]
      exact hp.fresh q hq
    · rw [List.countP_append, List.countP_singleton]
      split_ifs with h
      · have hnone : ps.countP Parameter.isBody = 0 := by
          rw [List.countP_eq_zero]
          simpa using hp.onlyBody h
        omega
      · omega
    · refine List.forall_mem_append.mpr ⟨hplain, List.forall_mem_singleton.mpr fun h => ?_⟩
      refine ⟨hp.scalar h, Option.eq_none_iff_forall_not_mem.mpr fun name hname => ?_⟩
      rw [(hp.known name hname).1] at h
      cases h
    · exact List.forall_mem_append.mpr ⟨hknown, List.forall_mem_singleton.mpr fun name hname =>
        Option.isSome_iff_exists.mp (hp.known name hname).2⟩
    · exact List.forall_mem_append.mpr ⟨hpath, List.forall_mem_singleton.mpr hp.inPath⟩

theorem Checked.of_append {ps qs : List Parameter} (h : Checked schemas path (ps ++ qs)) :
    Checked schemas path ps := by
  intro i p hp
  obtain ⟨hi, -⟩ := List.getElem?_eq_some_iff.mp hp
  have hadmissible := h i p (by rw [List.getElem?_append_left hi, hp])
  rwa [List.take_append_of_le_length (Nat.le_of_lt hi)] at hadmissible

theorem Checked.admissible {ps qs : List Parameter} {p : Parameter}
    (h : Checked schemas path (ps ++ p :: qs)) : p.Admissible schemas path ps := by
  have hadmissible := h ps.length p (by simp)
  rwa [List.take_left] at hadmissible

/-- Checking each parameter against those before it is checking all of them. -/
theorem checked_iff_wellDeclared {ps : List Parameter} :
    Checked schemas path ps ↔ WellDeclared schemas path ps := by
  induction ps using List.reverseRecOn with
  | nil => exact iff_of_true (checked_nil schemas path) (wellDeclared_nil schemas path)
  | append_singleton ps p ih =>
    rw [wellDeclared_concat_iff, ← ih]
    exact ⟨fun h => ⟨h.of_append, h.admissible⟩, fun h => h.1.concat h.2⟩

variable {doc : ManifestDocument}

theorem buildParameters_eq {es : List ParameterEntry} {ps : List Parameter}
    (hes : List.Forall₂ doc.Denotes es ps) : ∀ earlier : List Parameter,
      Checked doc.schemas path (earlier ++ ps) →
        buildParameters doc path earlier es = (earlier ++ ps, []) := by
  induction hes with
  | nil =>
    intro earlier _
    simp [buildParameters]
  | @cons e p es ps he _ ih =>
    intro earlier hchecked
    have hissues := parameterIssues_eq_nil_iff.mpr hchecked.admissible
    have hrest := ih (earlier ++ [p]) (by rwa [List.append_assoc])
    simp [buildParameters, ParameterEntry.resolve_eq_ok_iff.mpr he, hissues, hrest]

theorem forall₂_of_buildParameters (es : List ParameterEntry) : ∀ {earlier : List Parameter},
    (buildParameters doc path earlier es).2 = [] →
      ∃ ps, (buildParameters doc path earlier es).1 = earlier ++ ps ∧
        List.Forall₂ doc.Denotes es ps := by
  induction es with
  | nil =>
    intro earlier _
    exact ⟨[], (List.append_nil earlier).symm, .nil⟩
  | cons e es ih =>
    intro earlier h
    unfold buildParameters at h ⊢
    cases he : e.resolve doc with
    | error cause => simp [he] at h
    | ok p =>
      simp only [he, List.append_eq_nil_iff] at h ⊢
      obtain ⟨ps, hps, hes⟩ := ih h.2
      exact ⟨p :: ps, by simpa using hps, .cons (ParameterEntry.resolve_eq_ok_iff.mp he) hes⟩

/-! ## Operations -/

/-- What a declared operation becomes. -/
structure OperationDeclaration.Becomes (doc : ManifestDocument) (d : OperationDeclaration)
    (op : Operation) : Prop where
  id : op.id = d.id
  method : op.method = Http.uppercase d.method
  path : op.path = d.path
  parameters : List.Forall₂ doc.Denotes d.parameters op.parameters

/-- What a declared operation has to be like by itself. -/
structure OperationDeclaration.Valid (doc : ManifestDocument) (d : OperationDeclaration) :
    Prop where
  method : Http.isToken (Http.uppercase d.method) = true
  declared : ∀ e ∈ d.parameters, ∃ p, doc.Declares e p
  typed : ∀ e ∈ d.parameters, ∀ p, doc.Declares e p → ∃ type, p.HasType type
  parameters : ∀ ps, List.Forall₂ doc.Denotes d.parameters ps → WellDeclared doc.schemas d.path ps

/-- Entries that declare something of a known type denote parameters. -/
theorem OperationDeclaration.Valid.exists_becomes {d : OperationDeclaration} (h : d.Valid doc) :
    ∃ op, d.Becomes doc op := by
  have hdenotes : ∀ e ∈ d.parameters, ∃ p, doc.Denotes e p := by
    intro e he
    obtain ⟨p, hp⟩ := h.declared e he
    obtain ⟨type, htype⟩ := h.typed e he p hp
    exact ⟨{ name := p.name, location := p.location, required := p.required, type,
             format := p.format, schema := p.schema }, p, hp, rfl, rfl, rfl, htype, rfl, rfl⟩
  obtain ⟨ps, hps⟩ := exists_forall₂ hdenotes
  exact ⟨⟨d.id, Http.uppercase d.method, d.path, ps⟩, rfl, rfl, rfl, hps⟩

theorem buildOperation_of_valid {d : OperationDeclaration} {op : Operation} (h : d.Valid doc)
    (hop : d.Becomes doc op) : buildOperation doc d = (some op, []) := by
  have hps : buildParameters doc d.path [] d.parameters = (op.parameters, []) :=
    buildParameters_eq hop.parameters []
      (checked_iff_wellDeclared.mpr (h.parameters op.parameters hop.parameters))
  unfold buildOperation
  simp only [h.method, hps, if_true]
  rw [← hop.id, ← hop.method, ← hop.path]

theorem becomes_of_buildOperation {d : OperationDeclaration} {op : Operation}
    (h : buildOperation doc d = (some op, [])) : d.Becomes doc op := by
  obtain ⟨-, hid, hmethod, hpath, hps⟩ := buildOperation_eq h
  obtain ⟨ps, hbuilt, hes⟩ := forall₂_of_buildParameters d.parameters (congrArg Prod.snd hps)
  rw [hps] at hbuilt
  obtain rfl : op.parameters = ps := hbuilt
  exact ⟨hid, hmethod, hpath, hes⟩

theorem valid_of_buildOperation {d : OperationDeclaration} {op : Operation}
    (h : buildOperation doc d = (some op, [])) : d.Valid doc := by
  have hop := becomes_of_buildOperation h
  have hchecked := checked_of_buildOperation h
  rw [hop.path] at hchecked
  refine ⟨?_, fun e he => ?_, fun e he p hp => ?_, fun ps hps => ?_⟩
  · rw [← hop.method]
    exact (buildOperation_eq h).1
  · obtain ⟨p, -, d', hd', -⟩ := exists_mem_right_of_forall₂ hop.parameters e he
    exact ⟨d', hd'⟩
  · obtain ⟨q, -, d', hd', hq⟩ := exists_mem_right_of_forall₂ hop.parameters e he
    rw [hp.unique hd']
    exact ⟨q.type, hq.type⟩
  · rw [List.right_unique_forall₂' ManifestDocument.rightUnique_denotes hps hop.parameters]
    exact checked_iff_wellDeclared.mp hchecked

/-! ## Documents -/

namespace ManifestDocument

/-- What a document has to be like. -/
structure Valid (doc : ManifestDocument) : Prop where
  distinct : (doc.operations.map OperationDeclaration.id).Nodup
  operations : ∀ d ∈ doc.operations, d.Valid doc

/-- What a document becomes: its operations in their order, and all else is kept. -/
structure Becomes (doc : ManifestDocument) (m : Manifest) : Prop where
  operations : List.Forall₂ (OperationDeclaration.Becomes doc) doc.operations m.operations
  schemas : m.schemas = doc.schemas
  maxBodyOctets : m.maxBodyOctets = doc.maxBodyOctets

theorem Valid.exists_becomes (h : doc.Valid) : ∃ m, doc.Becomes m := by
  obtain ⟨ops, hops⟩ := exists_forall₂ fun d hd => (h.operations d hd).exists_becomes
  exact ⟨⟨ops, doc.schemas, doc.maxBodyOctets⟩, hops, rfl, rfl⟩

end ManifestDocument

theorem buildManifest_eq_ok_iff_becomes {m : Manifest} :
    (buildManifest doc).value = .ok m ↔ doc.Valid ∧ doc.Becomes m := by
  rw [buildManifest_eq_ok_iff, buildOperations_eq_iff]
  constructor
  · rintro ⟨⟨hbuilt, hids, -⟩, hschemas, hlimit⟩
    refine ⟨⟨hids, fun d hd => ?_⟩, hbuilt.imp fun _ _ h => becomes_of_buildOperation h, hschemas,
      hlimit⟩
    obtain ⟨op, -, hop⟩ := exists_mem_right_of_forall₂ hbuilt d hd
    exact valid_of_buildOperation hop
  · rintro ⟨⟨hids, hvalid⟩, hops, hschemas, hlimit⟩
    have hbuilt := ((List.forall₂_and_left _ _).mpr ⟨hvalid, hops⟩).imp fun _ _ h =>
      buildOperation_of_valid h.1 h.2
    exact ⟨⟨hbuilt, hids, fun d _ => List.not_mem_nil⟩, hschemas, hlimit⟩

/-- Building a manifest succeeds exactly for valid documents. The manifest lists what the document
declares, in its order, and a document that is refused has at least one issue. -/
theorem buildManifest_accepts_valid (doc : ManifestDocument) :
    ((∃ m, (buildManifest doc).value = .ok m) ↔ doc.Valid) ∧
    (∀ m, (buildManifest doc).value = .ok m ↔ doc.Valid ∧ doc.Becomes m) ∧
    ∀ e, (buildManifest doc).value = .error e →
      ∃ issues, e = .manifestInvalid issues ∧ issues ≠ [] := by
  refine ⟨⟨?_, fun h => ?_⟩, fun m => buildManifest_eq_ok_iff_becomes, fun e he => ?_⟩
  · rintro ⟨m, hm⟩
    exact (buildManifest_eq_ok_iff_becomes.mp hm).1
  · obtain ⟨m, hm⟩ := h.exists_becomes
    exact ⟨m, buildManifest_eq_ok_iff_becomes.mpr ⟨h, hm⟩⟩
  · obtain ⟨hissues, rfl⟩ := refuseIssues_eq_error_iff.mp (map_eq_error_iff.mp he)
    exact ⟨_, rfl, hissues⟩

end RequestBinding
