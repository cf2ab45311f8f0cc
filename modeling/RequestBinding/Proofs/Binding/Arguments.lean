import RequestBinding.Proofs.Body.Validation
import RequestBinding.Proofs.Manifest.Validity
import RequestBinding.Proofs.Request.Lookup

/-!
# Arguments by name

The arguments of a request that bound answer for the declaration, and for nothing else. They are looked
up by name and location, the first match counting; a checked manifest has one match at most.

1. `Operation.Unambiguous` is what lookups need of an operation, and what a manifest is checked for.
2. `get?_of_bind`, `bodyArgument?_of_bind`: a lookup finds what its parameter was bound to.
3. `isPresent_iff_supplies`: a parameter is bound to a value if the request holds something for it.
4. `arguments_answer_declaration` states all of it, for accepted manifests.
-/

namespace RequestBinding

/-- Whether a name and a location mean at most one parameter of an operation, and the body too. -/
structure Operation.Unambiguous (op : Operation) : Prop where
  distinct : op.parameters.Pairwise fun p q => p.name = q.name → p.location ≠ q.location
  oneBody : op.parameters.countP Parameter.isBody ≤ 1

theorem unambiguous_of_buildManifest {doc : ManifestDocument} {m : Manifest}
    (h : (buildManifest doc).value = .ok m) {op : Operation} (hop : op ∈ m.operations) :
    op.Unambiguous :=
  have hps := checked_iff_wellDeclared.mp (checked_of_buildManifest h hop)
  ⟨hps.distinct, hps.oneBody⟩

variable {op : Operation} {p q : Parameter} {i j : ℕ} {ctx : BindingContext} {r : Request}
  {args : Arguments} {b : BoundValue}

theorem Operation.Unambiguous.place_eq (hop : op.Unambiguous) (hp : op.parameters[i]? = some p)
    (hq : op.parameters[j]? = some q) (hname : p.name = q.name) (hloc : p.location = q.location) :
    i = j := by
  by_contra hij
  have hne : p.name = q.name → p.location ≠ q.location :=
    rel_of_pairwise (fun _ _ hs heq hl => hs heq.symm hl.symm) hop.distinct hp hq hij
  exact hne hname hloc

/-! ## The argument of a parameter -/

theorem argument_of_bind (h : (bind ctx op r).result = .ok args) (hp : op.parameters[i]? = some p) :
    ∃ b, op.resolve ctx r i p = .ok b ∧ args.arguments[i]? = some ⟨p.name, p.location, b⟩ := by
  obtain ⟨-, -, -, hall⟩ := result_bind_eq_ok_iff.mp h
  exact hall i p hp

theorem argument_of_resolve (h : (bind ctx op r).result = .ok args)
    (hp : op.parameters[i]? = some p) (hb : op.resolve ctx r i p = .ok b) :
    args.arguments[i]? = some ⟨p.name, p.location, b⟩ := by
  obtain ⟨c, hc, ha⟩ := argument_of_bind h hp
  rwa [Except.ok.inj (hb.symm.trans hc)]

/-- Every argument is that of the parameter at its place. -/
theorem parameter_of_argument (h : (bind ctx op r).result = .ok args) {a : Argument}
    (ha : args.arguments[i]? = some a) :
    ∃ p, op.parameters[i]? = some p ∧ a.name = p.name ∧ a.location = p.location := by
  obtain ⟨-, -, hlength, hall⟩ := result_bind_eq_ok_iff.mp h
  obtain ⟨hi, -⟩ := List.getElem?_eq_some_iff.mp ha
  obtain ⟨p, hp⟩ : ∃ p, op.parameters[i]? = some p :=
    ⟨_, List.getElem?_eq_getElem (hlength ▸ hi)⟩
  obtain ⟨b, -, hb⟩ := hall i p hp
  obtain rfl := Option.some.inj (ha.symm.trans hb)
  exact ⟨p, hp, rfl, rfl⟩

theorem get?_of_bind (hop : op.Unambiguous) (h : (bind ctx op r).result = .ok args)
    (hp : op.parameters[i]? = some p) (hb : op.resolve ctx r i p = .ok b) :
    args.get? p.name p.location = some b := by
  unfold Arguments.get?
  rw [find?_eq_some_of_place (argument_of_resolve h hp hb) (by simp), Option.map_some]
  intro j a ha hmatch
  obtain ⟨q, hq, hname, hloc⟩ := parameter_of_argument h ha
  obtain ⟨hn, hl⟩ := of_decide_eq_true hmatch
  exact hop.place_eq hq hp (hname.symm.trans hn) (hloc.symm.trans hl)

/-- A lookup finds nothing exactly under a name and a location that are not declared. -/
theorem get?_eq_none_iff (h : (bind ctx op r).result = .ok args) {name : String}
    {location : Location} : args.get? name location = none ↔
      ∀ p ∈ op.parameters, p.name = name → p.location ≠ location := by
  unfold Arguments.get?
  rw [Option.map_eq_none_iff, List.find?_eq_none]
  constructor
  · intro hnone p hp hname hloc
    obtain ⟨i, hi⟩ := List.mem_iff_getElem?.mp hp
    obtain ⟨b, -, ha⟩ := argument_of_bind h hi
    exact hnone _ (List.mem_of_getElem? ha) (decide_eq_true ⟨hname, hloc⟩)
  · intro hnone a ha hmatch
    obtain ⟨i, hi⟩ := List.mem_iff_getElem?.mp ha
    obtain ⟨p, hp, hname, hloc⟩ := parameter_of_argument h hi
    obtain ⟨hn, hl⟩ := of_decide_eq_true hmatch
    exact hnone p (List.mem_of_getElem? hp) (hname.symm.trans hn) (hloc.symm.trans hl)

theorem bodyArgument?_of_bind (hop : op.Unambiguous) (h : (bind ctx op r).result = .ok args)
    (hp : op.parameters[i]? = some p) (hbody : p.isBody = true)
    (hb : op.resolve ctx r i p = .ok b) :
    args.bodyArgument? = some ⟨p.name, p.location, b⟩ := by
  refine find?_eq_some_of_place (argument_of_resolve h hp hb) hbody fun j a ha hmatch => ?_
  obtain ⟨q, hq, -, hloc⟩ := parameter_of_argument h ha
  have hqbody : q.isBody = true := by
    unfold Parameter.isBody
    rw [← hloc]
    exact hmatch
  exact eq_of_countP_le_one hop.oneBody hq hp hqbody hbody

theorem bodyArgument?_eq_none_iff (h : (bind ctx op r).result = .ok args) :
    args.bodyArgument? = none ↔ ∀ p ∈ op.parameters, p.isBody = false := by
  unfold Arguments.bodyArgument?
  rw [List.find?_eq_none]
  constructor
  · intro hnone p hp
    obtain ⟨i, hi⟩ := List.mem_iff_getElem?.mp hp
    obtain ⟨b, -, ha⟩ := argument_of_bind h hi
    exact Bool.eq_false_iff.mpr (hnone _ (List.mem_of_getElem? ha))
  · intro hnone a ha hmatch
    obtain ⟨i, hi⟩ := List.mem_iff_getElem?.mp ha
    obtain ⟨p, hp, -, hloc⟩ := parameter_of_argument h hi
    have hpbody := hnone p (List.mem_of_getElem? hp)
    unfold Parameter.isBody at hpbody
    rw [← hloc] at hpbody
    rw [hpbody] at hmatch
    cases hmatch

/-! ## The value of a parameter -/

/-- The only body parameter finds the body of the request. -/
theorem bodyAfter_take (hop : op.Unambiguous) (hp : op.parameters[i]? = some p)
    (hbody : p.isBody = true) (r : Request) : r.bodyAfter (op.parameters.take i) = r.body := by
  refine if_neg fun hany => ?_
  obtain ⟨q, hq, hqbody⟩ := List.any_eq_true.mp hany
  obtain ⟨j, hj⟩ := List.mem_iff_getElem?.mp hq
  rw [List.getElem?_take] at hj
  split_ifs at hj with hlt
  exact Nat.ne_of_lt hlt (eq_of_countP_le_one hop.oneBody hj hp hqbody hbody)

/-- What a parameter can be bound to: the value of its text, that of the body, or nothing. -/
inductive BoundTo (p : Parameter) (r : Request) : BoundValue → Prop
  | absent (hp : p.required = false) (hr : ¬ r.Supplies p) : BoundTo p r .absent
  | text {raw : String} {v : Value} (hp : p.isBody = false)
      (hr : r.lookup? p.name p.location = some raw) (hv : Value.coerce raw p.type = .ok v) :
      BoundTo p r (.present v)
  | body {stream : BodyStream} {v : Json} (hp : p.isBody = true) (hr : r.body = some stream)
      (hne : delivered stream.script ≠ []) (hv : Json.ofOctets (delivered stream.script) = .ok v)
      (hf : Body.fits p.type v = true) : BoundTo p r (.present (.json v))

theorem withoutValue_eq_ok (h : p.withoutValue = .ok b) : p.required = false ∧ b = .absent := by
  unfold Parameter.withoutValue at h
  split_ifs at h with hp
  exact ⟨Bool.eq_false_iff.mpr hp, (Except.ok.inj h).symm⟩

theorem boundTo_of_resolveScalar (hp : p.isBody = false) (h : p.resolveScalar r = .ok b) :
    BoundTo p r b := by
  unfold Parameter.resolveScalar at h
  cases hr : r.lookup? p.name p.location with
  | none =>
    rw [hr] at h
    obtain ⟨hrequired, rfl⟩ := withoutValue_eq_ok h
    refine .absent hrequired ?_
    rw [Request.supplies_of_not_isBody hp, hr]
    exact Bool.false_ne_true
  | some raw =>
    rw [hr] at h
    simp only [Parameter.ofText] at h
    cases hv : Value.coerce raw p.type with
    | error e =>
      rw [hv] at h
      cases h
    | ok v =>
      rw [hv] at h
      obtain rfl := Except.ok.inj h
      exact .text hp hr hv

theorem boundTo_of_resolveBody (hp : p.isBody = true) (h : p.resolveBody ctx r.body = .ok b) :
    BoundTo p r b := by
  cases b with
  | present v =>
    obtain ⟨stream, payload, w, hr, hread, hne, -, hv, hf, rfl⟩ := resolveBody_eq_present h
    obtain ⟨rfl, -⟩ := Body.readBounded_eq_ok hread
    exact .body hp hr hne hv hf
  | absent =>
    cases hr : r.body with
    | none =>
      rw [hr] at h
      refine .absent (withoutValue_eq_ok h).1 ?_
      rw [Request.supplies_of_isBody hp, hr]
      rintro ⟨stream, hstream, -⟩
      cases hstream
    | some stream =>
      rw [hr] at h
      obtain ⟨payload, hread, hpayload⟩ := bind_eq_ok_iff.mp h
      obtain ⟨rfl, -⟩ := Body.readBounded_eq_ok hread
      unfold Parameter.ofPayload at hpayload
      split_ifs at hpayload with hempty
      · refine .absent (withoutValue_eq_ok hpayload).1 ?_
        rw [Request.supplies_of_isBody hp, hr]
        rintro ⟨stream', hstream, hne⟩
        obtain rfl := Option.some.inj hstream
        exact hne hempty
      · obtain ⟨u, -, hdecode⟩ := bind_eq_ok_iff.mp hpayload
        obtain ⟨v, -, hv⟩ := bind_eq_ok_iff.mp hdecode
        cases hv

theorem boundTo_of_resolve (hop : op.Unambiguous) (hp : op.parameters[i]? = some p)
    (h : op.resolve ctx r i p = .ok b) : BoundTo p r b := by
  cases hbody : p.isBody with
  | false =>
    rw [resolve_of_not_isBody hbody] at h
    exact boundTo_of_resolveScalar hbody h
  | true =>
    rw [resolve_of_isBody hbody, bodyAfter_take hop hp hbody] at h
    exact boundTo_of_resolveBody hbody h

/-- A parameter is bound to a value exactly if the request holds something for it. -/
theorem BoundTo.isPresent_iff_supplies (h : BoundTo p r b) : b.isPresent = true ↔ r.Supplies p := by
  cases h with
  | absent hp hr => exact iff_of_false Bool.false_ne_true hr
  | text hp hr hv =>
    rw [Request.supplies_of_not_isBody hp, hr]
    exact iff_of_true rfl rfl
  | body hp hr hne hv hf =>
    rw [Request.supplies_of_isBody hp]
    exact iff_of_true rfl ⟨_, hr, hne⟩

theorem BoundTo.isPresent_of_required (h : BoundTo p r b) (hp : p.required = true) :
    b.isPresent = true := by
  cases h with
  | absent hoptional => rw [hp] at hoptional; cases hoptional
  | text | body => rfl

/-- The value of the body is what the octets of the body say in JSON, if there are any. -/
theorem body?_eq_some_iff (hop : op.Unambiguous) (h : (bind ctx op r).result = .ok args)
    (hp : op.parameters[i]? = some p) (hbody : p.isBody = true) {v : Json} :
    args.body? = some v ↔ r.Supplies p ∧
      ∃ stream, r.body = some stream ∧ Json.ofOctets (delivered stream.script) = .ok v := by
  obtain ⟨b, hb, -⟩ := argument_of_bind h hp
  have hbody? : args.body? = b.value?.bind Value.toJson? := by
    unfold Arguments.body?
    rw [bodyArgument?_of_bind hop h hp hbody hb, Option.bind_some]
  rw [hbody?]
  cases boundTo_of_resolve hop hp hb with
  | absent hrequired hr => exact iff_of_false (by simp [BoundValue.value?]) fun hs => hr hs.1
  | text hscalar => rw [hbody] at hscalar; cases hscalar
  | @body stream w _ hr hne hv hf =>
    change some w = some v ↔ _
    constructor
    · rintro ⟨⟩
      exact ⟨(Request.supplies_of_isBody hbody r).mpr ⟨stream, hr, hne⟩, stream, hr, hv⟩
    · rintro ⟨-, stream', hstream, hv'⟩
      obtain rfl := Option.some.inj (hr.symm.trans hstream)
      rw [Except.ok.inj (hv.symm.trans hv')]

/-! ## Arguments as JSON -/

/-- Whether a JSON value describes what a parameter was bound to: an object of its name, its location and
the value as JSON, with null for no value. -/
structure Describes (p : Parameter) (b : BoundValue) (item : Json) : Prop where
  members : ∃ members, item = .object members ∧ NameMap.names members = ["in", "name", "value"]
  name : item.member? "name" = some (.string p.name)
  location : item.member? "in" = some (.string p.location.name)
  value : ∃ v, item.member? "value" = some v ∧ (∀ w, b = .present w → v = w.toJson) ∧
    (v = .null ↔ b = .absent ∨ ∃ w, b = .present w ∧ w.toJson = .null)

theorem describes_argumentJson (p : Parameter) (b : BoundValue) :
    Describes p b (Arguments.argumentJson ⟨p.name, p.location, b⟩) := by
  have hmembers : Arguments.argumentJson ⟨p.name, p.location, b⟩ =
      .object [("in", .string p.location.name), ("name", .string p.name),
        ("value", (b.value?.map Value.toJson).getD .null)] := by
    rfl
  rw [hmembers]
  refine ⟨⟨_, rfl, rfl⟩, rfl, rfl, _, rfl, ?_, ?_⟩
  · rintro w rfl
    rfl
  · cases b with
    | absent => exact iff_of_true rfl (.inl rfl)
    | present w => simp [BoundValue.value?]

/-- The arguments as JSON are an array with one description for each parameter, in order. -/
theorem toJson_of_bind (h : (bind ctx op r).result = .ok args) :
    ∃ items, args.toJson = .array items ∧ items.length = op.parameters.length ∧
      ∀ i p, op.parameters[i]? = some p → ∃ b item, op.resolve ctx r i p = .ok b ∧
        items[i]? = some item ∧ Describes p b item := by
  obtain ⟨-, -, hlength, hall⟩ := result_bind_eq_ok_iff.mp h
  refine ⟨args.arguments.map Arguments.argumentJson, rfl, ?_, fun i p hp => ?_⟩
  · rw [List.length_map, hlength]
  · obtain ⟨b, hb, ha⟩ := hall i p hp
    refine ⟨b, _, hb, ?_, describes_argumentJson p b⟩
    rw [List.getElem?_map, ha, Option.map_some]

/-! ## Accepted operations -/

/-- The arguments of a request to an accepted operation know its declared parameters and no others. Each
is found under its name and its location, which no other parameter has, as what it was bound to: nothing
if the request held nothing for it, else the value of its text or of the whole body. The body is found
wherever it was declared, and all of them are described in JSON in order. -/
theorem arguments_answer_declaration {doc : ManifestDocument} {m : Manifest}
    (hm : (buildManifest doc).value = .ok m) (hop : op ∈ m.operations)
    (h : (bind ctx op r).result = .ok args) :
    (∀ name location, (∃ b, args.get? name location = some b) ↔
      ∃ p ∈ op.parameters, p.name = name ∧ p.location = location) ∧
    (∀ i p, op.parameters[i]? = some p → ∃ b, op.resolve ctx r i p = .ok b ∧ BoundTo p r b ∧
      (b.isPresent = true ↔ r.Supplies p) ∧ args.get? p.name p.location = some b ∧
      (∀ j q, op.parameters[j]? = some q → q.name = p.name → q.location = p.location → j = i) ∧
      (p.isBody = true → args.bodyArgument? = some ⟨p.name, p.location, b⟩ ∧
        ∀ v, args.body? = some v ↔ r.Supplies p ∧
          ∃ stream, r.body = some stream ∧ Json.ofOctets (delivered stream.script) = .ok v)) ∧
    ((∀ p ∈ op.parameters, p.isBody = false) → args.bodyArgument? = none ∧ args.body? = none) ∧
    ∃ items, args.toJson = .array items ∧ items.length = op.parameters.length ∧
      ∀ i p, op.parameters[i]? = some p → ∃ b item, op.resolve ctx r i p = .ok b ∧
        items[i]? = some item ∧ Describes p b item := by
  have hone := unambiguous_of_buildManifest hm hop
  refine ⟨fun name location => ?_, fun i p hp => ?_, fun hnone => ?_, toJson_of_bind h⟩
  · rw [← Option.ne_none_iff_exists', ne_eq, get?_eq_none_iff h]
    simp
  · obtain ⟨b, hb, -⟩ := argument_of_bind h hp
    have hbound := boundTo_of_resolve hone hp hb
    refine ⟨b, hb, hbound, hbound.isPresent_iff_supplies, get?_of_bind hone h hp hb, ?_, ?_⟩
    · exact fun j q hq hname hloc => hone.place_eq hq hp hname hloc
    · exact fun hbody => ⟨bodyArgument?_of_bind hone h hp hbody hb,
        fun v => body?_eq_some_iff hone h hp hbody⟩
  · have hbody := (bodyArgument?_eq_none_iff h).mpr hnone
    refine ⟨hbody, ?_⟩
    unfold Arguments.body?
    rw [hbody]
    rfl

/-- A document with an operation that saves a profile. The body is declared before the others, two of
which have one name. -/
def saveDocument : ManifestDocument where
  operations := [⟨"save", "put", "/users/\x7bid\x7d",
    [.inline { name := "profile", location := .body },
      .inline { name := "id", location := .path, required := true, type := some "string" },
      .inline { name := "id", location := .query, type := some "integer", format := some "int32" }]⟩]

def saveOperation : Operation := ⟨"save", "PUT", "/users/\x7bid\x7d",
  [{ name := "profile", location := .body, type := .object },
    { name := "id", location := .path, required := true, type := .string },
    { name := "id", location := .query, type := .int32, format := some "int32" }]⟩

/-- A request with an empty object as its body, and an id in the path. -/
def saveRequest : Request :=
  { id := ⟨0⟩, method := "PUT", path := "/users/a", pathParams := [("id", "a")]
    body := some (.ofOctets [0x7b, 0x7d]) }

def saveArguments : Arguments :=
  { requestId := ⟨0⟩, operationId := "save"
    arguments := [⟨"profile", .body, .present (.json (.object []))⟩,
      ⟨"id", .path, .present (.string "a")⟩, ⟨"id", .query, .absent⟩] }

theorem buildManifest_saveDocument :
    (buildManifest saveDocument).value = .ok { operations := [saveOperation] } := rfl

/-- What a small service binds with. -/
def smallContext : BindingContext := { schemas := [], validator := .standard, maxBodyOctets := 8 }

theorem bind_saveRequest : (bind smallContext saveOperation saveRequest).result = .ok saveArguments := by
  -- without its steps, whose texts are long to evaluate
  rw [result_bind_eq_mapM]
  with_unfolding_all rfl

/-- The id in the path and the one in the query are told apart, an id in a header is not declared, and the
body is found as the first parameter. -/
theorem saveArguments_tell :
    (buildManifest saveDocument).value = .ok { operations := [saveOperation] } ∧
    (bind smallContext saveOperation saveRequest).result = .ok saveArguments ∧
    (∃ b, saveArguments.get? "id" .path = some b ∧ b.isPresent = true) ∧
    (∃ b, saveArguments.get? "id" .query = some b ∧ b.isPresent ≠ true) ∧
    (¬ ∃ b, saveArguments.get? "id" .header = some b) ∧
    (∃ b, saveArguments.bodyArgument? = some ⟨"profile", .body, b⟩) ∧
    saveArguments.body? = some (.object []) ∧
    ∃ items, saveArguments.toJson = .array items ∧ items.length = 3 := by
  obtain ⟨hnames, hparameters, -, items, hitems, hlength, -⟩ := arguments_answer_declaration
    buildManifest_saveDocument (List.mem_singleton_self saveOperation) bind_saveRequest
  obtain ⟨body, -, -, -, -, -, hbody⟩ := hparameters 0 _ rfl
  obtain ⟨inPath, -, -, hsupplied, hpath, -⟩ := hparameters 1 _ rfl
  obtain ⟨inQuery, -, -, hleft, hquery, -⟩ := hparameters 2 _ rfl
  refine ⟨buildManifest_saveDocument, bind_saveRequest, ⟨inPath, hpath, ?_⟩, ⟨inQuery, hquery, ?_⟩,
    ?_, ⟨body, (hbody rfl).1⟩, ?_, items, hitems, hlength⟩
  · exact hsupplied.mpr ⟨"a", rfl⟩
  · rw [Ne, hleft]
    rintro ⟨raw, hraw⟩
    cases hraw
  · rw [hnames]
    simp [saveOperation]
  · exact ((hbody rfl).2 _).mpr ⟨⟨_, rfl, by decide⟩, _, rfl, rfl⟩

end RequestBinding
