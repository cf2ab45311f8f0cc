import RequestBinding.Manifest.Build
import RequestBinding.Proofs.Traversal

/-!
# Checked manifests

What a manifest is known to be like once it was built:

1. `parameterIssues_eq_nil_iff` says what it takes for a parameter to be without issues.
2. `buildOperations_eq_iff` and `buildManifest_eq_ok_iff`: a manifest is built from declarations
   without issues whose ids are distinct.
3. `checked_of_buildManifest`: every parameter of them is admissible after those before it.
-/

namespace RequestBinding

/-! ## Parameters -/

/-- What a parameter has to be like in an operation that has the parameters `earlier` already. -/
structure Parameter.Admissible (schemas : NameMap Json) (path : String) (earlier : List Parameter)
    (p : Parameter) : Prop where
  fresh : ∀ q ∈ earlier, q.name = p.name → q.location ≠ p.location
  onlyBody : p.isBody = true → ∀ q ∈ earlier, q.isBody = false
  scalar : p.isBody = false → p.type.isScalar = true
  /-- Only bodies have a schema, and it is one of the manifest's. -/
  known : ∀ name, p.schema = some name → p.isBody = true ∧ schemas.contains name = true
  inPath : p.location = .path → p.name ∈ pathVariables path

theorem ite_singleton_eq_nil_iff {c : Prop} [Decidable c] (cause : IssueCause) :
    (if c then [cause] else []) = [] ↔ ¬ c := by
  split_ifs with h
  · simp [h]
  · simp [h]

theorem schemaIssues_eq_nil_iff {schemas : NameMap Json} {p : Parameter} :
    (match p.schema with
      | none => []
      | some schema =>
        if !p.isBody then [IssueCause.schemaWithoutBody p.name]
        else if schemas.contains schema then [] else [.unknownSchema p.name schema]) = [] ↔
      ∀ name, p.schema = some name → p.isBody = true ∧ schemas.contains name = true := by
  cases p.schema with
  | none => simp
  | some schema => cases hp : p.isBody <;> simp

/-- A parameter is without issues exactly if it is admissible. -/
theorem parameterIssues_eq_nil_iff {schemas : NameMap Json} {path : String}
    {earlier : List Parameter} {p : Parameter} :
    parameterIssues schemas path earlier p = [] ↔ p.Admissible schemas path earlier := by
  have hfresh : ¬ (earlier.any fun q => q.name = p.name ∧ q.location = p.location) = true ↔
      ∀ q ∈ earlier, q.name = p.name → q.location ≠ p.location := by simp
  have hbody : ¬ (p.isBody = true ∧ earlier.any Parameter.isBody = true) ↔
      (p.isBody = true → ∀ q ∈ earlier, q.isBody = false) := by simp
  have hscalar : ¬ ((!p.isBody) = true ∧ (!p.type.isScalar) = true) ↔
      (p.isBody = false → p.type.isScalar = true) := by simp
  have hpath : ¬ (p.location = .path ∧ p.name ∉ pathVariables path) ↔
      (p.location = .path → p.name ∈ pathVariables path) := by simp
  unfold parameterIssues
  simp only [List.append_eq_nil_iff, ite_singleton_eq_nil_iff, and_assoc]
  rw [hfresh, hbody, hscalar, hpath]
  constructor
  · rintro ⟨h₁, h₂, h₃, h₄, h₅⟩
    exact ⟨h₁, h₂, h₃, schemaIssues_eq_nil_iff.mp h₄, h₅⟩
  · rintro ⟨h₁, h₂, h₃, h₄, h₅⟩
    exact ⟨h₁, h₂, h₃, schemaIssues_eq_nil_iff.mpr h₄, h₅⟩

/-- Every parameter of a list is admissible after those before it. -/
def Checked (schemas : NameMap Json) (path : String) (ps : List Parameter) : Prop :=
  ∀ (i : ℕ) p, ps[i]? = some p → p.Admissible schemas path (ps.take i)

theorem checked_nil (schemas : NameMap Json) (path : String) : Checked schemas path [] := by
  intro i p hp
  simp at hp

theorem Checked.concat {schemas : NameMap Json} {path : String} {ps : List Parameter}
    {p : Parameter} (h : Checked schemas path ps) (hp : p.Admissible schemas path ps) :
    Checked schemas path (ps ++ [p]) := by
  intro i q hq
  by_cases hi : i < ps.length
  · rw [List.getElem?_append_left hi] at hq
    rw [List.take_append_of_le_length (Nat.le_of_lt hi)]
    exact h i q hq
  · obtain ⟨hlt, -⟩ := List.getElem?_eq_some_iff.mp hq
    obtain rfl : i = ps.length := by
      rw [List.length_append, List.length_singleton] at hlt
      omega
    obtain rfl : p = q := by simpa using hq
    rw [List.take_left]
    exact hp

/-- The parameters built after checked ones without an issue are checked with them. -/
theorem checked_buildParameters {doc : ManifestDocument} {path : String}
    (es : List ParameterEntry) {earlier : List Parameter}
    (hearlier : Checked doc.schemas path earlier)
    (h : (buildParameters doc path earlier es).2 = []) :
    Checked doc.schemas path (buildParameters doc path earlier es).1 := by
  induction es generalizing earlier with
  | nil => exact hearlier
  | cons e es ih =>
    unfold buildParameters at h ⊢
    cases he : e.resolve doc with
    | error cause =>
      rw [he] at h
      simp at h
    | ok p =>
      simp only [he, List.append_eq_nil_iff] at h ⊢
      obtain ⟨hp, hrest⟩ := h
      exact ih (hearlier.concat (parameterIssues_eq_nil_iff.mp hp)) hrest

/-! ## Operations -/

theorem buildOperation_eq {doc : ManifestDocument} {d : OperationDeclaration} {op : Operation}
    {causes : List IssueCause} (h : buildOperation doc d = (some op, causes)) :
    Http.isToken op.method = true ∧ op.id = d.id ∧ op.method = Http.uppercase d.method ∧
      op.path = d.path ∧ buildParameters doc d.path [] d.parameters = (op.parameters, causes) := by
  unfold buildOperation at h
  simp only at h
  split_ifs at h with hm
  · obtain ⟨hop, hcauses⟩ := Prod.mk.inj h
    obtain rfl := Option.some.inj hop
    exact ⟨hm, rfl, rfl, rfl, Prod.ext rfl hcauses⟩
  · cases h

theorem checked_of_buildOperation {doc : ManifestDocument} {d : OperationDeclaration}
    {op : Operation} (h : buildOperation doc d = (some op, [])) :
    Checked doc.schemas op.path op.parameters := by
  obtain ⟨-, -, -, hpath, hps⟩ := buildOperation_eq h
  have hchecked := checked_buildParameters d.parameters (checked_nil doc.schemas d.path)
    (congrArg Prod.snd hps)
  rw [hps] at hchecked
  rw [hpath]
  exact hchecked

theorem exists_of_buildOperation {doc : ManifestDocument} {d : OperationDeclaration}
    (h : (buildOperation doc d).2 = []) : ∃ op, buildOperation doc d = (some op, []) := by
  unfold buildOperation at h ⊢
  simp only at h ⊢
  split_ifs at h ⊢ with hm
  · exact ⟨_, Prod.ext rfl h⟩

theorem buildOperations_cons (doc : ManifestDocument) (seen : List String)
    (d : OperationDeclaration) (ds : List OperationDeclaration) :
    buildOperations doc seen (d :: ds) =
      ((buildOperation doc d).1.toList ++ (buildOperations doc (d.id :: seen) ds).1,
        ((if d.id ∈ seen then [IssueCause.duplicateOperation d.id] else []) ++
          (buildOperation doc d).2).map (Issue.of d.place) ++
        (buildOperations doc (d.id :: seen) ds).2) := rfl

/-- The loop finds no issue exactly if each operation has none and no id was seen before. -/
theorem buildOperations_eq_iff {doc : ManifestDocument} {ds : List OperationDeclaration} :
    ∀ {seen : List String} {ops : List Operation}, buildOperations doc seen ds = (ops, []) ↔
      List.Forall₂ (fun d op => buildOperation doc d = (some op, [])) ds ops ∧
        (ds.map OperationDeclaration.id).Nodup ∧ ∀ d ∈ ds, d.id ∉ seen := by
  induction ds with
  | nil =>
    intro seen ops
    simp [buildOperations, eq_comm]
  | cons d ds ih =>
    intro seen ops
    rw [buildOperations_cons]
    constructor
    · intro h
      obtain ⟨rfl, hissues⟩ := Prod.mk.inj h
      obtain ⟨hown, hrest⟩ := List.append_eq_nil_iff.mp hissues
      obtain ⟨hrepeated, hcauses⟩ := List.append_eq_nil_iff.mp (List.map_eq_nil_iff.mp hown)
      obtain ⟨op, hop⟩ := exists_of_buildOperation hcauses
      obtain ⟨hds, hids, hfresh⟩ := ih.mp (Prod.ext rfl hrest)
      refine ⟨?_, ?_, ?_⟩
      · rw [hop]
        exact .cons hop hds
      · refine List.nodup_cons.mpr ⟨fun hmem => ?_, hids⟩
        obtain ⟨d', hd', heq⟩ := List.mem_map.mp hmem
        exact hfresh d' hd' (heq ▸ List.mem_cons_self)
      · refine List.forall_mem_cons.mpr ⟨(ite_singleton_eq_nil_iff _).mp hrepeated, ?_⟩
        exact fun d' hd' hmem => hfresh d' hd' (List.mem_cons_of_mem _ hmem)
    · rintro ⟨hall, hids, hfresh⟩
      obtain ⟨op, ops, hop, hds, rfl⟩ := List.forall₂_cons_left_iff.mp hall
      obtain ⟨hid, hids⟩ := List.nodup_cons.mp hids
      obtain ⟨hseen, hfresh⟩ := List.forall_mem_cons.mp hfresh
      have hrest : buildOperations doc (d.id :: seen) ds = (ops, []) := by
        refine ih.mpr ⟨hds, hids, fun d' hd' hmem => ?_⟩
        obtain heq | hmem := List.mem_cons.mp hmem
        · exact hid (heq ▸ List.mem_map_of_mem hd')
        · exact hfresh d' hd' hmem
      simp [hop, hrest, hseen]

/-! ## Manifests -/

theorem refuseIssues_eq_ok_iff {issues : List Issue} {u : Unit} :
    (refuseIssues issues).value = .ok u ↔ issues = [] := by
  unfold refuseIssues
  cases issues <;> simp

theorem refuseIssues_eq_error_iff {issues : List Issue} {e : StartupError} :
    (refuseIssues issues).value = .error e ↔ issues ≠ [] ∧ e = .manifestInvalid issues := by
  unfold refuseIssues
  cases issues <;> simp [eq_comm]

/-- A manifest is built from a document without issues: its operations are those of the declarations,
and all else is kept. -/
theorem buildManifest_eq_ok_iff {doc : ManifestDocument} {m : Manifest} :
    (buildManifest doc).value = .ok m ↔
      buildOperations doc [] doc.operations = (m.operations, []) ∧ m.schemas = doc.schemas ∧
        m.maxBodyOctets = doc.maxBodyOctets := by
  unfold buildManifest
  rw [map_eq_ok_iff]
  constructor
  · rintro ⟨u, hissues, rfl⟩
    exact ⟨Prod.ext rfl (refuseIssues_eq_ok_iff.mp hissues), rfl, rfl⟩
  · rintro ⟨hops, hschemas, hlimit⟩
    refine ⟨(), refuseIssues_eq_ok_iff.mpr (congrArg Prod.snd hops), ?_⟩
    rw [hops, ← hschemas, ← hlimit]

theorem checked_of_buildManifest {doc : ManifestDocument} {m : Manifest}
    (h : (buildManifest doc).value = .ok m) {op : Operation} (hop : op ∈ m.operations) :
    Checked m.schemas op.path op.parameters := by
  obtain ⟨hops, hschemas, -⟩ := buildManifest_eq_ok_iff.mp h
  obtain ⟨d, -, hbuilt⟩ := exists_mem_left_of_forall₂ (buildOperations_eq_iff.mp hops).1 op hop
  rw [hschemas]
  exact checked_of_buildOperation hbuilt

end RequestBinding
