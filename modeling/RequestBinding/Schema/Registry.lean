import RequestBinding.Schema.Metaschema
import RequestBinding.Schema.Pointer
import RequestBinding.Uri.Resolve

/-!
# Resources of a schema document

An `id` makes a schema a resource with a URI of its own, which references inside it are relative to; an
`id` that starts with `#` gives it an anchor in the resource around it. `Registry.ofDocument` finds the
resources of a document and refuses references that leave it; `Registry.locate` finds what a reference
names.
-/

namespace RequestBinding

structure Registry where
  /-- The resources by their URIs. -/
  resources : NameMap Json
  /-- The schemas with an anchor, by the resource around them and their name. -/
  anchors : List ((String × String) × Json) := []

/-- The URI of a document that states none. -/
def documentUri : UriReference :=
  { scheme := some "json-schema", authority := some "", path := "/" }

namespace Registry

/-! ## Identifiers -/

/-- What the `id` of a schema says, if it says a text. -/
def statedId? (v : Json) : Option String :=
  match v.member? "id" with
  | some (.string s) => some s
  | _ => none

/-- The URI that a schema states for itself. A reference states none. -/
def idOf? (v : Json) : Option String :=
  if (v.member? "$ref").isSome then none
  else ((statedId? v).filter fun s => !s.startsWith "#").map fun s =>
    String.ofList (s.toList.reverse.dropWhile (· = '#')).reverse

def anchorOf? (v : Json) : Option String :=
  match (statedId? v).map String.toList with
  | some ('#' :: name) => some (String.ofList name)
  | _ => none

/-- What a reference names at a base, as a URI. -/
def resolve (base : UriReference) (reference : String) : Except ReferenceFault UriReference :=
  (UriReference.resolve base reference).mapError (.malformed reference)

/-- The base inside a schema. -/
def baseInside (base : UriReference) (v : Json) : Except ReferenceFault UriReference :=
  (idOf? v).elim (.ok base) (resolve base)

/-! ## Schemas inside a schema -/

def membersOf : Json → List Json
  | .object members => members.map Prod.snd
  | _ => []

def itemsOf : Json → List Json
  | .array items => items
  | _ => []

def isObject : Json → Bool
  | .object _ => true
  | _ => false

/-- The schemas that a member of a schema holds. -/
def schemasIn (name : String) (v : Json) : List Json :=
  if ["definitions", "patternProperties", "properties"].contains name then membersOf v
  else if ["allOf", "anyOf", "oneOf"].contains name then itemsOf v
  else if name = "items" then
    match v with
    | .array items => items
    | v => [v]
  else if name = "not" then [v]
  else if ["additionalItems", "additionalProperties"].contains name then [v].filter isObject
  else if name = "dependencies" then (membersOf v).filter isObject
  else []

def subschemas : Json → List Json
  | .object members => members.flatMap fun (name, v) => schemasIn name v
  | _ => []

/-! ## References that leave the document -/

/-- References to well-known schemas of schemas, which need no resource of the document. -/
def isWellKnown (reference : String) : Bool :=
  let site := "://json-schema.org/"
  (["draft/2020-12/", "draft/2019-09/"].any fun d => reference.startsWith ("https" ++ site ++ d)) ||
    ["draft-07/", "draft-06/", "draft-04/"].any fun d => reference.startsWith ("http" ++ site ++ d)

/-- A search through a document. -/
structure Search where
  registry : Registry
  /-- The references met, with their bases. -/
  met : List (String × String) := []
  /-- References to resources, as written and as URIs. -/
  outward : List (String × UriReference) := []

/-- The part of a document that a plain pointer names. -/
def partAt? (document : Json) (pointer : String) : Option Json :=
  match splitAt '/' pointer with
  | "" :: steps => steps.foldlM (fun v text =>
      match v with
      | .array items =>
        if text.startsWith "+" ∨ (text.startsWith "0" ∧ text ≠ "0") then none
        else (readNat 10 maxSize text.toList).toOption.bind (items[·]?)
      | v => v.member? (String.ofList (Pointer.unescapeStep text.toList))) document
  | _ => none

/-- Meets the reference of a schema; `follow` goes on with what a reference inside the document names. -/
def meet (document : Json) (follow : Search → UriReference → Json → Except ReferenceFault Search)
    (s : Search) (base : UriReference) (v : Json) : Except ReferenceFault Search :=
  match v.member? "$ref" with
  | some (.string reference) =>
    if isWellKnown reference ∨ reference = "#" ∨ s.met.contains (base.text, reference) then .ok s
    else
      let s := { s with met := (base.text, reference) :: s.met }
      if reference.startsWith "#" then
        let pointer := String.ofList (reference.toList.dropWhile (· = '#'))
        (partAt? document pointer).elim (.ok s) (follow s base)
      else (resolve base reference).map fun uri =>
        { s with outward := s.outward ++ [(reference, uri)] }
  | _ => .ok s

/-- Meets the references of a schema and of the schemas inside it. -/
def meetAll (document : Json) :
    (fuel : Nat) → Search → UriReference → Json → Except ReferenceFault Search
  | 0, s, _, _ => .ok s
  | fuel + 1, s, base, v => do
    let s ← meet document (meetAll document fuel) s base v
    (subschemas v).foldlM (fun s part => do
      meetAll document fuel s (← baseInside base part) part) s

/-- Visits schemas in turn, those nearer to the root first. -/
def visit (document : Json) :
    (fuel : Nat) → Search → List (UriReference × Json) → Except ReferenceFault Search
  | 0, s, _ => .ok s
  | _, s, [] => .ok s
  | fuel + 1, s, (base, v) :: rest => do
    let inside ← baseInside base v
    let resources :=
      if (idOf? v).isSome then s.registry.resources.insert inside.text v else s.registry.resources
    let anchors :=
      (anchorOf? v).elim s.registry.anchors fun name =>
        ((inside.text, name), v) :: s.registry.anchors
    let s := { s with registry := ⟨resources, anchors⟩ }
    let s ← meet document (meetAll document document.size) s inside v
    visit document fuel s (rest ++ (subschemas v).map fun part => (inside, part))

/-- Looks for the resources that references name, and gives what is still to be visited in them. -/
def bring (r : Registry) :
    List (String × UriReference) → Except ReferenceFault (List (UriReference × Json))
  | [] => .ok []
  | (reference, uri) :: rest =>
    let resource := uri.withoutFragment
    match r.resources.get? resource.text with
    | some v => do
      let part := (uri.fragment.bind (partAt? v)).toList.map fun part => (resource, part)
      return part ++ (← bring r rest)
    | none =>
      if uri.scheme = documentUri.scheme then .error (.noSuchResource reference .noBase)
      else .error (.noSuchResource resource.text (.unknownScheme (uri.scheme.getD "")))

/-- Visits schemas, and then those that references to resources name, as long as there are some. -/
def explore (document : Json) :
    (fuel : Nat) → Search → List (UriReference × Json) → Except ReferenceFault Search
  | 0, s, _ => .ok s
  | fuel + 1, s, todo => do
    let s ← visit document (document.size * (document.size + 1)) s todo
    match ← bring s.registry s.outward with
    | [] => return s
    | todo => explore document fuel { s with outward := [] } todo

/-- The resources of a document. -/
def ofDocument (document : Json) : Except ReferenceFault Registry := do
  let known : Registry :=
    ⟨NameMap.ofList [(Metaschema.uri, Metaschema.document), (documentUri.text, document)], []⟩
  let s ← explore document document.size { registry := known } [(documentUri, document)]
  return s.registry

/-! ## Following references -/

/-- A step on the way through a document. -/
inductive Step where
  | member (name : String)
  | item
deriving DecidableEq, Repr

/-- Whether steps lead from schema to schema. -/
def leadsToSchema (isObject : Bool) : List Step → Bool
  | [] => true
  | .item :: rest => leadsToSchema isObject rest
  | .member name :: rest =>
    if name = "items" ∧ isObject then true
    else if ["additionalItems", "additionalProperties", "not"].contains name then
      leadsToSchema isObject rest
    else if ["allOf", "anyOf", "definitions", "oneOf", "patternProperties", "properties"].contains name
    then
      match rest with
      | [] => false
      | _ :: rest => leadsToSchema isObject rest
    else false

/-- A part of a document, the base there, and the steps since the base changed. -/
structure Standing where
  base : UriReference
  part : Json
  steps : List Step := []

/-- Goes one step, into a new base if the step leads to a schema that states one. -/
def Standing.go (pointer : String) (s : Standing) (text : String) : Except ReferenceFault Standing := do
  let part ← Pointer.step pointer s.part text
  let step := match s.part with
    | .array _ => Step.item
    | _ => .member (String.ofList (Pointer.unescapeStep text.toList))
  let steps := s.steps ++ [step]
  let base ← if leadsToSchema (isObject part) steps then baseInside s.base part else .ok s.base
  return ⟨base, part, if base = s.base then steps else []⟩

/-- What a reference names at a base, and the base there. -/
def locate (r : Registry) (base : UriReference) (reference : String) :
    Except ReferenceFault (UriReference × Json) := do
  let (before, fragment) := match reference.toList.reverse.dropWhile (· ≠ '#') with
    | [] => (reference, "")
    | _ :: before =>
      (String.ofList before.reverse,
        String.ofList (reference.toList.reverse.takeWhile (· ≠ '#')).reverse)
  let (uri, fragment) ←
    match reference.toList with
    | '#' :: fragment => .ok (base, String.ofList fragment)
    | _ => (resolve base before).map fun uri => (uri, fragment)
  match r.resources.get? uri.text with
  | none => .error (.noSuchResource uri.text .tooLate)
  | some v =>
    if fragment.isEmpty then return (uri, v)
    else if fragment.startsWith "/" then
      let s ← (← Pointer.steps fragment).foldlM (Standing.go fragment) ⟨uri, v, []⟩
      return (s.base, s.part)
    else match r.anchors.lookup (uri.text, fragment) with
      | some v => return (uri, v)
      | none =>
        .error (if fragment.contains '/' then .invalidAnchor fragment else .noSuchAnchor fragment)

end Registry
end RequestBinding
