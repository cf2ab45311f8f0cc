import RequestBinding.Manifest.Build
import RequestBinding.Proofs.Traversal

/-!
# What the entries of an operation stand for

An entry declares a parameter in line or names a shared one, and the declaration becomes a parameter if
its type can be told.

1. `ParameterType.Named` and `ParameterDeclaration.HasType` say which type a declaration has.
2. `ManifestDocument.Declares` says which declaration an entry stands for.
3. `resolve_eq_ok_iff`: an entry resolves to the parameters that it denotes and to no others.
-/

namespace RequestBinding

/-! ## Types -/

namespace ParameterType

/-- The types that a type name and a format stand for; `more` is whether there are additional
properties. -/
inductive Named : String → Option String → Bool → ParameterType → Prop
  | string (format : Option String) (more : Bool) : Named "string" format more .string
  | integer (more : Bool) : Named "integer" none more .int64
  | int64 (more : Bool) : Named "integer" (some "int64") more .int64
  | int32 (more : Bool) : Named "integer" (some "int32") more .int32
  | number (more : Bool) : Named "number" none more .float64
  | double (more : Bool) : Named "number" (some "double") more .float64
  | float (more : Bool) : Named "number" (some "float") more .float32
  | boolean (format : Option String) (more : Bool) : Named "boolean" format more .boolean
  | object (format : Option String) : Named "object" format false .object
  | map (format : Option String) : Named "object" format true .map
  | array (format : Option String) (more : Bool) : Named "array" format more .array

theorem named_of_resolve {name : String} {format : Option String} {more : Bool}
    {type : ParameterType} (h : resolve name format more = .ok type) :
    Named name format more type := by
  unfold resolve at h
  split at h <;> cases h
  case h_11 => cases more <;> constructor
  all_goals constructor

theorem resolve_of_named {name : String} {format : Option String} {more : Bool}
    {type : ParameterType} (h : Named name format more type) :
    resolve name format more = .ok type := by
  cases h <;> rfl

end ParameterType

namespace ParameterDeclaration

/-- The type of a declaration: the one that it names, and of a body without a name an object or a
map. -/
inductive HasType (d : ParameterDeclaration) : ParameterType → Prop
  | named {name : String} {type : ParameterType} (hname : d.type = some name)
      (h : ParameterType.Named name d.format d.additionalProperties type) : HasType d type
  | object (hname : d.type = none) (hbody : d.location = .body)
      (h : d.additionalProperties = false) : HasType d .object
  | map (hname : d.type = none) (hbody : d.location = .body)
      (h : d.additionalProperties = true) : HasType d .map

theorem hasType_of_resolveType {d : ParameterDeclaration} {type : ParameterType}
    (h : d.resolveType = .ok type) : d.HasType type := by
  unfold resolveType at h
  cases hname : d.type with
  | some name =>
    rw [hname] at h
    exact .named hname (ParameterType.named_of_resolve h)
  | none =>
    simp only [hname] at h
    split_ifs at h with hbody hmore
    · obtain rfl := Except.ok.inj h
      exact .map hname hbody hmore
    · obtain rfl := Except.ok.inj h
      exact .object hname hbody (by simpa using hmore)

theorem resolveType_of_hasType {d : ParameterDeclaration} {type : ParameterType}
    (h : d.HasType type) : d.resolveType = .ok type := by
  unfold resolveType
  cases h with
  | named hname h =>
    rw [hname]
    exact ParameterType.resolve_of_named h
  | object hname hbody h => simp [hname, hbody, h]
  | map hname hbody h => simp [hname, hbody, h]

/-- What a declaration becomes: its type is told, and all else is kept. -/
structure Becomes (d : ParameterDeclaration) (p : Parameter) : Prop where
  name : p.name = d.name
  location : p.location = d.location
  required : p.required = d.required
  type : d.HasType p.type
  format : p.format = d.format
  schema : p.schema = d.schema

theorem resolve_eq_ok_iff_becomes {d : ParameterDeclaration} {p : Parameter} :
    d.resolve = .ok p ↔ d.Becomes p := by
  unfold resolve
  rw [map_eq_ok_iff]
  constructor
  · rintro ⟨type, htype, rfl⟩
    exact ⟨rfl, rfl, rfl, hasType_of_resolveType htype, rfl, rfl⟩
  · intro h
    refine ⟨p.type, resolveType_of_hasType h.type, ?_⟩
    cases p
    simp [← h.name, ← h.location, ← h.required, ← h.format, ← h.schema]

end ParameterDeclaration

/-! ## Entries -/

namespace ManifestDocument

/-- The declarations that an entry stands for: its own, or a shared one that it refers to. -/
inductive Declares (doc : ManifestDocument) : ParameterEntry → ParameterDeclaration → Prop
  | inline (d : ParameterDeclaration) : Declares doc (.inline d) d
  | shared {key : String} {d : ParameterDeclaration} (h : doc.parameters.get? key = some d) :
      Declares doc (.reference ("#/parameters/" ++ key)) d

theorem shared?_eq_some_iff {doc : ManifestDocument} {path : String} {d : ParameterDeclaration} :
    doc.shared? path = some d ↔
      ∃ key, path = "#/parameters/" ++ key ∧ doc.parameters.get? key = some d := by
  unfold shared?
  rw [Option.bind_eq_some_iff]
  simp only [stripStart?_eq_some_iff]

/-- The parameters that an entry denotes. -/
def Denotes (doc : ManifestDocument) (e : ParameterEntry) (p : Parameter) : Prop :=
  ∃ d, doc.Declares e d ∧ d.Becomes p

end ManifestDocument

namespace ParameterEntry

theorem declaration_eq_ok_iff {doc : ManifestDocument} {e : ParameterEntry}
    {d : ParameterDeclaration} : e.declaration doc = .ok d ↔ doc.Declares e d := by
  constructor
  · intro h
    cases e with
    | inline own =>
      obtain rfl : own = d := Except.ok.inj h
      exact .inline own
    | reference path =>
      unfold declaration at h
      cases hd : doc.shared? path with
      | none => simp [hd] at h
      | some found =>
        obtain rfl : found = d := by simpa [hd] using h
        obtain ⟨key, rfl, hkey⟩ := ManifestDocument.shared?_eq_some_iff.mp hd
        exact .shared hkey
  · intro h
    cases h with
    | inline => rfl
    | @shared key _ h =>
      have hd : doc.shared? ("#/parameters/" ++ key) = some d :=
        ManifestDocument.shared?_eq_some_iff.mpr ⟨key, rfl, h⟩
      simp [declaration, hd]

/-- An entry resolves to what it denotes. -/
theorem resolve_eq_ok_iff {doc : ManifestDocument} {e : ParameterEntry} {p : Parameter} :
    e.resolve doc = .ok p ↔ doc.Denotes e p := by
  unfold resolve
  rw [bind_eq_ok_iff]
  unfold ManifestDocument.Denotes
  refine exists_congr fun d => and_congr declaration_eq_ok_iff ?_
  rw [← ParameterDeclaration.resolve_eq_ok_iff_becomes]
  cases d.resolve <;> simp

end ParameterEntry

namespace ManifestDocument

variable {doc : ManifestDocument}

theorem Declares.unique {e : ParameterEntry} {d d' : ParameterDeclaration}
    (h : doc.Declares e d) (h' : doc.Declares e d') : d = d' :=
  Except.ok.inj ((ParameterEntry.declaration_eq_ok_iff.mpr h).symm.trans
    (ParameterEntry.declaration_eq_ok_iff.mpr h'))

theorem rightUnique_denotes : Relator.RightUnique doc.Denotes := fun _ _ _ h h' =>
  Except.ok.inj ((ParameterEntry.resolve_eq_ok_iff.mpr h).symm.trans
    (ParameterEntry.resolve_eq_ok_iff.mpr h'))

end ManifestDocument
end RequestBinding
