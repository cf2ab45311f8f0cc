import RequestBinding.Proofs.Service.Readiness

/-!
# The schema that a document refers to

The document of a schema carries all schemas as its definitions and refers to one of them. The name
stands in the reference as it is, where a slash, a tilde or a percent sign has a meaning of its own.

1. `Pointer.steps_definition`: the steps of the reference, for every name.
2. `resolve_schemaDocument`: where they lead inside the document. For a plain name this is its schema.
3. `locate_schemaDocument`, `ofJson_schemaDocument`: there the assembly of the document goes.
4. `refersTo_of_compile`: what a document is compiled to refers to the rules of that schema.
-/

namespace RequestBinding

/-! ## The members of a document -/

@[simp] theorem member?_dollarRef_schemaDocument (name : String) (all : NameMap Json) :
    (schemaDocument name all).member? "$ref" = some (.string ("#/definitions/" ++ name)) :=
  NameMap.get?_insert_self _ _ _

@[simp] theorem member?_definitions_schemaDocument (name : String) (all : NameMap Json) :
    (schemaDocument name all).member? "definitions" = some (.object all) :=
  (NameMap.get?_insert_of_ne (by decide) _ _).trans (NameMap.get?_insert_self _ _ _)

/-! ## Steps of a reference -/

namespace Pointer

/-- A name that says the same inside a pointer as it says outside. -/
structure IsPlain (name : String) : Prop where
  slash : '/' ∉ name.toList
  tilde : '~' ∉ name.toList
  percent : '%' ∉ name.toList

theorem percent_notMem_encodeUtf8 {text : String} (h : '%' ∉ text.toList) :
    0x25 ∉ encodeUtf8 text := by
  intro hb
  obtain ⟨c, hc, heq⟩ := exists_of_mem_encodeUtf8 hb (by decide)
  have hpercent : c = '%' := Char.toNat_inj.mp heq
  exact h (hpercent ▸ hc)

/-- The text that percent-decoding makes of a name, if it makes a text. -/
def decoded? (name : String) : Option String := textOfUtf8? (Form.unescape (encodeUtf8 name))

theorem decoded?_of_notMem {name : String} (h : '%' ∉ name.toList) : decoded? name = some name := by
  unfold decoded?
  rw [Form.unescape_of_notMem (percent_notMem_encodeUtf8 h), textOfUtf8?_encodeUtf8]

/-- A pointer into definitions goes on with the pieces of the decoded name. -/
theorem steps_definition (name : String) : steps ("/definitions/" ++ name) =
    (decoded? name).elim (.error (.notUtf8 ("/definitions/" ++ name)))
      fun text => .ok ("definitions" :: splitAt '/' text) := by
  have hinner : String.ofList (("/definitions/" ++ name).toList.drop 1) =
      "definitions" ++ String.singleton '/' ++ name := by
    rw [← String.toList_inj]
    simp
  have hpercent : 0x25 ∉ encodeUtf8 ("definitions" ++ String.singleton '/') :=
    percent_notMem_encodeUtf8 (by decide)
  unfold steps
  rw [hinner, encodeUtf8_append, Form.unescape_append_of_notMem hpercent,
    textOfUtf8?_encodeUtf8_append]
  unfold decoded?
  cases textOfUtf8? (Form.unescape (encodeUtf8 name)) with
  | none => rfl
  | some text =>
    rw [Option.map_some]
    simp only [Option.elim_some]
    rw [splitAt_append_mark (by decide)]

theorem steps_plain_definition {name : String} (h : IsPlain name) :
    steps ("/definitions/" ++ name) = .ok ["definitions", name] := by
  rw [steps_definition, decoded?_of_notMem h.percent, Option.elim_some, splitAt_of_notMem h.slash]

theorem step_object (pointer : String) (members : List (String × Json)) (text : String) :
    step pointer (.object members) text =
      ((NameMap.get? members (String.ofList (unescapeStep text.toList))).elim
        (.error (.noSuchPart pointer)) .ok) := rfl

theorem step_plain {name : String} (h : IsPlain name) (pointer : String)
    {all : NameMap Json} {v : Json} (hv : all.get? name = some v) :
    step pointer (.object all) name = .ok v := by
  rw [step_object, unescapeStep_of_notMem h.tilde, String.ofList_toList, hv, Option.elim_some]

end Pointer

theorem step_definitions (pointer name : String) (all : NameMap Json) :
    Pointer.step pointer (schemaDocument name all) "definitions" = .ok (.object all) := by
  have hname : String.ofList (Pointer.unescapeStep "definitions".toList) = "definitions" := by decide
  have hmember := member?_definitions_schemaDocument name all
  obtain ⟨members, hdocument⟩ : ∃ members, schemaDocument name all = .object members := ⟨_, rfl⟩
  rw [hdocument] at hmember ⊢
  rw [Pointer.step_object, hname, show NameMap.get? members "definitions" = _ from hmember,
    Option.elim_some]

/-- Inside its document a reference leads from schema to schema along the pieces of the name. -/
theorem resolve_schemaDocument {name text : String} (h : Pointer.decoded? name = some text)
    (all : NameMap Json) :
    Pointer.resolve (schemaDocument name all) ("/definitions/" ++ name) =
      (splitAt '/' text).foldlM (Pointer.step ("/definitions/" ++ name)) (.object all) := by
  unfold Pointer.resolve
  rw [Pointer.steps_definition, h, Option.elim_some, ok_bind, List.foldlM_cons, step_definitions,
    ok_bind]

theorem resolve_plain_schemaDocument {name : String} (h : Pointer.IsPlain name) {all : NameMap Json}
    {v : Json} (hv : all.get? name = some v) :
    Pointer.resolve (schemaDocument name all) ("/definitions/" ++ name) = .ok v := by
  rw [resolve_schemaDocument (Pointer.decoded?_of_notMem h.percent), splitAt_of_notMem h.slash,
    List.foldlM_cons, Pointer.step_plain h _ hv, ok_bind, List.foldlM_nil]
  rfl

/-! ## Where the assembly goes -/

/-- A step inside an object, and the base that the part states if it is a schema. -/
theorem go_of_step {pointer text : String} {base : UriReference} {part v : Json}
    {steps : List Registry.Step} (hstep : Pointer.step pointer part text = .ok v)
    (hobject : ∃ members, part = .object members) :
    Registry.Standing.go pointer ⟨base, part, steps⟩ text =
      let steps := steps ++ [.member (String.ofList (Pointer.unescapeStep text.toList))]
      (if Registry.leadsToSchema (Registry.isObject v) steps then Registry.baseInside base v
        else .ok base).map fun inside => ⟨inside, v, if inside = base then steps else []⟩ := by
  obtain ⟨members, rfl⟩ := hobject
  unfold Registry.Standing.go
  dsimp only
  rw [hstep, ok_bind]
  split
  · cases Registry.baseInside base v <;> rfl
  · rfl

/-- A reference to the document itself follows the pointer from the resource at the base. -/
theorem locate_of_pointer {r : Registry} {base : UriReference} {document : Json}
    (hr : r.resources.get? base.text = some document) (pointer : String) :
    r.locate base ("#/" ++ pointer) =
      (do
        let s ← (← Pointer.steps ("/" ++ pointer)).foldlM (Registry.Standing.go ("/" ++ pointer))
          ⟨base, document, []⟩
        return (s.base, s.part)) := by
  have htext : ("#/" ++ pointer).toList = '#' :: ("/" ++ pointer).toList := by simp
  have hempty : ("/" ++ pointer).isEmpty = false := by simp
  have hslash : ("/" ++ pointer).startsWith "/" = true := by
    rw [String.startsWith_string_iff, String.toList_append]
    exact List.prefix_append _ _
  unfold Registry.locate
  rw [htext]
  change (Except.ok (base, String.ofList ("/" ++ pointer).toList) >>= _) = _
  rw [ok_bind, String.ofList_toList]
  dsimp only
  rw [hr]
  dsimp only
  rw [hempty, if_neg Bool.false_ne_true, if_pos hslash]

/-- At the root of its document a reference to a plain name leads to the schema of that name. -/
theorem locate_schemaDocument {name : String} (h : Pointer.IsPlain name) {all : NameMap Json}
    {v : Json} (hv : all.get? name = some v) {r : Registry} {base : UriReference}
    (hr : r.resources.get? base.text = some (schemaDocument name all)) :
    r.locate base ("#/definitions/" ++ name) =
      (Registry.baseInside base v).map fun inside => (inside, v) := by
  have hdefinitions : Registry.Standing.go ("/definitions/" ++ name)
      ⟨base, schemaDocument name all, []⟩ "definitions" =
        .ok ⟨base, .object all, [.member "definitions"]⟩ := by
    have hname : String.ofList (Pointer.unescapeStep "definitions".toList) = "definitions" := by
      decide
    -- definitions are no schema, so the base stays
    have hpart : ¬ Registry.leadsToSchema (Registry.isObject (.object all))
        [.member "definitions"] := by
      change ¬ Registry.leadsToSchema true [.member "definitions"]
      decide
    rw [go_of_step (step_definitions _ name all) ⟨_, rfl⟩]
    dsimp only
    rw [hname, List.nil_append, if_neg hpart, map_ok, if_pos rfl]
  have hname : Registry.Standing.go ("/definitions/" ++ name)
      ⟨base, .object all, [.member "definitions"]⟩ name =
        (Registry.baseInside base v).map fun inside =>
          ⟨inside, v, if inside = base then [.member "definitions", .member name] else []⟩ := by
    have hschema : ∀ isObject, Registry.leadsToSchema isObject
        [.member "definitions", .member name] = true := by
      intro isObject
      rfl
    rw [go_of_step (Pointer.step_plain h _ hv) ⟨_, rfl⟩]
    dsimp only
    rw [Pointer.unescapeStep_of_notMem h.tilde, String.ofList_toList, List.singleton_append,
      if_pos (hschema _)]
  have hreference : "#/definitions/" ++ name = "#/" ++ ("definitions/" ++ name) := by
    rw [← String.toList_inj]
    simp
  have hpointer : "/" ++ ("definitions/" ++ name) = "/definitions/" ++ name := by
    rw [← String.toList_inj]
    simp
  rw [hreference, locate_of_pointer hr, hpointer, Pointer.steps_plain_definition h, ok_bind,
    List.foldlM_cons, hdefinitions, ok_bind, List.foldlM_cons, hname]
  cases Registry.baseInside base v <;> rfl

theorem referring_ok_bind {α β : Type} (a : α) (f : α → Assembly β) :
    (Assembly.referring (.ok a) >>= f) = f a := rfl

theorem referring_map_bind {α β γ : Type} (r : Except ReferenceFault α) (g : α → β)
    (f : β → Assembly γ) :
    (Assembly.referring (r.map g) >>= f) = (Assembly.referring r >>= fun a => f (g a)) := by
  cases r <;> rfl

/-- What stands beside the reference does not count: the rules of a document refer to those that the
schema of its name writes. -/
theorem ofJson_schemaDocument {name : String} (h : Pointer.IsPlain name) {all : NameMap Json}
    {v : Json} (hv : all.get? name = some v) {r : Registry}
    (hr : r.resources.get? documentUri.text = some (schemaDocument name all)) (formats : Bool)
    (fuel : ℕ) :
    Schema.ofJson formats r (fuel + 1) documentUri (schemaDocument name all) = (do
      let target ← Assembly.referring (Registry.resolve documentUri ("#/definitions/" ++ name))
      let inside ← Assembly.referring (Registry.baseInside documentUri v)
      Assembly.reference target.text (Schema.ofJson formats r fuel inside v)) := by
  have hreference := member?_dollarRef_schemaDocument name all
  have hid : Registry.idOf? (schemaDocument name all) = none := by
    unfold Registry.idOf?
    rw [hreference, if_pos Option.isSome_some]
  have hbase : Registry.baseInside documentUri (schemaDocument name all) = .ok documentUri := by
    unfold Registry.baseInside
    rw [hid, Option.elim_none]
  have hlocate := locate_schemaDocument h hv hr
  obtain ⟨members, hdocument⟩ : ∃ members, schemaDocument name all = .object members := ⟨_, rfl⟩
  rw [hdocument] at hreference hbase ⊢
  have hlookup : members.lookup "$ref" = some (.string ("#/definitions/" ++ name)) := hreference
  rw [Schema.ofJson, hbase, referring_ok_bind, hlookup]
  dsimp only
  simp only [hlocate, referring_map_bind]

/-! ## What a document is compiled to -/

/-- A compiled schema is a reference to the rules that `v` writes in its document. -/
def CompiledSchema.RefersTo (s : CompiledSchema) (formats : Bool) (registry : Registry)
    (document v : Json) : Prop :=
  ∃ target inside rules final,
    Registry.baseInside documentUri v = .ok inside ∧
    (Schema.ofJson formats registry ((document.size + 2) * (document.size + 2) - 1) inside v).run
      { around := [target] } = .ok (rules, final) ∧
    s.violations = SchemaTable.violations
      ⟨.reference target false, final.targets.insert target rules⟩ document.size

/-- The first reference of all is assembled where it stands, and it is not guarded. -/
theorem reference_run (target : String) (assemble : Assembly Schema) :
    (Assembly.reference target assemble).run {} =
      (assemble.run { around := [target] }).map fun (rules, inner) =>
        (.reference target false, { targets := inner.targets.insert target rules }) := by
  change (assemble.run { around := [target] } >>= fun _ => _) = _
  cases assemble.run { around := [target] } <;> rfl

theorem referring_bind_run_eq_ok {α β : Type} {r : Except ReferenceFault α} {f : α → Assembly β}
    {s : AssemblyState} {b : β × AssemblyState} (h : (Assembly.referring r >>= f).run s = .ok b) :
    ∃ a, r = .ok a ∧ (f a).run s = .ok b := by
  cases r with
  | error e => cases h
  | ok a => exact ⟨a, rfl, h⟩

/-- A schema under a plain name is compiled from the schema that is declared under that name, as long
as no schema takes the place of the document. -/
theorem refersTo_of_compile {name : String} (h : Pointer.IsPlain name) {all : NameMap Json}
    {v : Json} (hv : all.get? name = some v) {formats : Bool} {s : CompiledSchema}
    (hs : CompiledSchema.compile formats name (schemaDocument name all) = .ok s) :
    ∃ registry, Registry.ofDocument (schemaDocument name all) = .ok registry ∧
      (registry.resources.get? documentUri.text = some (schemaDocument name all) →
        s.RefersTo formats registry (schemaDocument name all) v) := by
  unfold CompiledSchema.compile at hs
  cases hrules : CompiledSchema.rulesOf formats (schemaDocument name all) with
  | error f =>
    rw [hrules] at hs
    cases hs
  | ok t =>
    rw [hrules] at hs
    cases hs
    unfold CompiledSchema.rulesOf at hrules
    obtain ⟨registry, hregistry, hrules⟩ := bind_eq_ok_iff.mp hrules
    refine ⟨registry, mapError_eq_ok_iff.mp hregistry, fun hr => ?_⟩
    cases hviolations : CompiledSchema.schemaViolations (schemaDocument name all) with
    | cons text rest =>
      rw [hviolations] at hrules
      cases hrules
    | nil =>
      rw [hviolations] at hrules
      unfold SchemaTable.ofDocument at hrules
      obtain ⟨⟨schema, state⟩, hroot, htable⟩ := bind_eq_ok_iff.mp hrules
      have hfuel : 0 < ((schemaDocument name all).size + 2) * ((schemaDocument name all).size + 2) :=
        Nat.mul_pos (Nat.succ_pos _) (Nat.succ_pos _)
      rw [← Nat.sub_add_cancel hfuel, ofJson_schemaDocument h hv hr] at hroot
      obtain ⟨target, -, hroot⟩ := referring_bind_run_eq_ok hroot
      obtain ⟨inside, hinside, hroot⟩ := referring_bind_run_eq_ok hroot
      rw [reference_run] at hroot
      obtain ⟨⟨rules, final⟩, hrun, hpair⟩ := map_eq_ok_iff.mp hroot
      cases hpair
      cases htable
      exact ⟨target.text, inside, rules, final, hinside, hrun, rfl⟩

/-- Where no schema states a URI, none takes the place of the document. -/
example :
    let document := schemaDocument "User" [("User", .object [("type", .string "string")])]
    ((Registry.ofDocument document).map fun r =>
      (r.resources.get? documentUri.text).map Json.compact).toOption =
        some (some document.compact) := by
  decide +kernel

/-- The reference of a document leads along the pieces of its name, read as a pointer. For a plain name
this is the schema declared under it, and the schema compiled under the name refers to that one. -/
theorem schema_reference_denotes (all : NameMap Json) (name : String) :
    (schemaDocument name all).member? "$ref" = some (.string ("#" ++ ("/definitions/" ++ name))) ∧
    Pointer.resolve (schemaDocument name all) ("/definitions/" ++ name) =
      (Pointer.decoded? name).elim (.error (.notUtf8 ("/definitions/" ++ name))) (fun text =>
        (splitAt '/' text).foldlM (Pointer.step ("/definitions/" ++ name)) (.object all)) ∧
    ∀ v, Pointer.IsPlain name → all.get? name = some v →
      Pointer.resolve (schemaDocument name all) ("/definitions/" ++ name) = .ok v ∧
      ∀ (m : Manifest) (formats : Bool) (compiled : NameMap CompiledSchema), m.schemas = all →
        (m.compileSchemas (CompiledSchema.compile formats)).value = .ok compiled →
        name ∈ m.referencedSchemas →
        ∃ s registry, compiled.get? name = some s ∧
          Registry.ofDocument (schemaDocument name all) = .ok registry ∧
          (registry.resources.get? documentUri.text = some (schemaDocument name all) →
            s.RefersTo formats registry (schemaDocument name all) v) := by
  refine ⟨?_, ?_, fun v h hv => ⟨resolve_plain_schemaDocument h hv, ?_⟩⟩
  · rw [member?_dollarRef_schemaDocument, ← String.append_assoc]
    rfl
  · cases hdecoded : Pointer.decoded? name with
    | none =>
      unfold Pointer.resolve
      rw [Pointer.steps_definition, hdecoded, Option.elim_none, error_bind, Option.elim_none]
    | some text => rw [resolve_schemaDocument hdecoded, Option.elim_some]
  · rintro m formats compiled rfl hcompiled hname
    obtain ⟨s, hs, hget⟩ := get?_of_compileNamed hcompiled name hname
    obtain ⟨registry, hregistry, hrefers⟩ := refersTo_of_compile h hv hs
    exact ⟨s, registry, hget, hregistry, hrefers⟩

/-- A name with a slash leads into another schema. -/
theorem slash_reference_denotes_another :
    let nested : Json := .object [("type", .string "string")]
    let declared : Json := .object [("type", .string "integer")]
    let all : NameMap Json := [("a", .object [("b", nested)]), ("a/b", declared)]
    all.get? "a/b" = some declared ∧
      Pointer.resolve (schemaDocument "a/b" all) "/definitions/a/b" = .ok nested ∧
      nested ≠ declared := by
  intro nested declared all
  have hdecoded : Pointer.decoded? "a/b" = some "a/b" := Pointer.decoded?_of_notMem (by decide)
  refine ⟨rfl, ?_, fun h => ?_⟩
  · exact (resolve_schemaDocument hdecoded all).trans rfl
  · simp [nested, declared] at h

end RequestBinding
