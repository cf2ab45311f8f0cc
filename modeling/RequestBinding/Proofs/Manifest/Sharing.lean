import RequestBinding.Proofs.Manifest.Alike
import RequestBinding.Proofs.Manifest.Resolution

/-!
# Shared parameters

A parameter that is referred to and a copy of it in line are the same to the building of a manifest.

1. `Inlines` relates a document to those in which some references are replaced by copies, and
   `standalone` is the one without shared parameters.
2. `Inlines.alike`, `alike_with_parameters`, `alike_standalone`: what an entry declares depends on the
   shared parameter that it refers to, and on no other.
3. `sharing_is_copying`: copies, and shared parameters without references, make no difference.
-/

namespace RequestBinding

/-! ## Copies of shared parameters -/

namespace ParameterEntry

variable {doc : ManifestDocument} {path : String}

theorem declaration_of_shared {d : ParameterDeclaration} (h : doc.shared? path = some d) :
    (reference path).declaration doc = .ok d := by
  simp only [declaration, h]

theorem declaration_of_not_shared (h : doc.shared? path = none) :
    (reference path).declaration doc = .error (.unresolvedReference path) := by
  simp only [declaration, h]

end ParameterEntry

namespace ManifestDocument

variable (doc : ManifestDocument)

/-- What may stand for an entry: itself, or a copy of the shared parameter that it refers to. -/
inductive InlinesEntry : ParameterEntry → ParameterEntry → Prop
  | keep (e : ParameterEntry) : InlinesEntry e e
  | copy {key : String} {d : ParameterDeclaration} (h : doc.parameters.get? key = some d) :
      InlinesEntry (.reference ("#/parameters/" ++ key)) (.inline d)

structure InlinesOperation (d d' : OperationDeclaration) : Prop where
  id : d.id = d'.id
  method : d.method = d'.method
  path : d.path = d'.path
  parameters : List.Forall₂ doc.InlinesEntry d.parameters d'.parameters

/-- The documents in which some of the references of a document are replaced by copies. -/
structure Inlines (doc' : ManifestDocument) : Prop where
  maxBodyOctets : doc.maxBodyOctets = doc'.maxBodyOctets
  schemas : doc.schemas = doc'.schemas
  shared : doc.parameters = doc'.parameters
  operations : List.Forall₂ doc.InlinesOperation doc.operations doc'.operations

/-- Whether an operation refers to the shared parameter of a name. -/
def RefersTo (key : String) : Prop :=
  ∃ d ∈ doc.operations, .reference ("#/parameters/" ++ key) ∈ d.parameters

/-- An entry as a copy of what it refers to, if that is there. -/
def copied (e : ParameterEntry) : ParameterEntry :=
  match e.declaration doc with
  | .ok d => .inline d
  | .error _ => e

/-- The document with copies for all references that lead anywhere, and without shared parameters. -/
def standalone : ManifestDocument :=
  { doc with
    parameters := []
    operations := doc.operations.map fun d => { d with parameters := d.parameters.map doc.copied } }

variable {doc} {doc' : ManifestDocument}

/-- What an entry declares depends on the shared parameter that it names, and on no other. -/
theorem declaration_eq_of_get? {e : ParameterEntry}
    (h : ∀ key, e = .reference ("#/parameters/" ++ key) →
      doc.parameters.get? key = doc'.parameters.get? key) :
    e.declaration doc = e.declaration doc' := by
  cases e with
  | inline d => rfl
  | reference path =>
    have hshared : doc.shared? path = doc'.shared? path := by
      unfold shared?
      cases hkey : stripStart? "#/parameters/" path with
      | none => rfl
      | some key => exact h key (by rw [stripStart?_eq_some_iff.mp hkey])
    cases hd : doc'.shared? path with
    | none =>
      rw [ParameterEntry.declaration_of_not_shared hd,
        ParameterEntry.declaration_of_not_shared (hshared.trans hd)]
    | some d =>
      rw [ParameterEntry.declaration_of_shared hd,
        ParameterEntry.declaration_of_shared (hshared.trans hd)]

theorem InlinesEntry.declaration_eq {e e' : ParameterEntry} (h : doc.InlinesEntry e e') :
    e.declaration doc = e'.declaration doc := by
  cases h with
  | keep => rfl
  | copy hkey => exact ParameterEntry.declaration_eq_ok_iff.mpr (.shared hkey)

theorem Inlines.alike (h : doc.Inlines doc') : doc.Alike doc' where
  maxBodyOctets := h.maxBodyOctets
  schemas := h.schemas
  operations := by
    refine h.operations.imp fun d d' hd => ⟨hd.id, hd.method, hd.path, ?_⟩
    refine hd.parameters.imp fun e e' he => he.declaration_eq.trans ?_
    exact declaration_eq_of_get? fun key _ => by rw [h.shared]

/-- Operations are alike in two documents if their references lead to the same. -/
theorem alike_with_parameters {shared : NameMap ParameterDeclaration}
    (h : ∀ key, doc.RefersTo key → shared.get? key = doc.parameters.get? key) :
    Alike { doc with parameters := shared } doc where
  maxBodyOctets := rfl
  schemas := rfl
  operations := by
    refine List.forall₂_same.mpr fun d hd => ⟨rfl, rfl, rfl, List.forall₂_same.mpr fun e he => ?_⟩
    exact declaration_eq_of_get? fun key hkey => h key ⟨d, hd, hkey ▸ he⟩

theorem declaration_copied (e : ParameterEntry) :
    (doc.copied e).declaration doc.standalone = e.declaration doc := by
  cases e with
  | inline d => rfl
  | reference path =>
    have hnone : doc.standalone.shared? path = none := by
      unfold shared?
      cases stripStart? "#/parameters/" path <;> rfl
    unfold copied
    cases hd : doc.shared? path with
    | none =>
      rw [ParameterEntry.declaration_of_not_shared hd]
      exact ParameterEntry.declaration_of_not_shared hnone
    | some d =>
      rw [ParameterEntry.declaration_of_shared hd]
      rfl

theorem alike_standalone (doc : ManifestDocument) : doc.standalone.Alike doc where
  maxBodyOctets := rfl
  schemas := rfl
  operations := by
    refine List.forall₂_map_left_iff.mpr (List.forall₂_same.mpr fun d _ => ⟨rfl, rfl, rfl, ?_⟩)
    exact List.forall₂_map_left_iff.mpr (List.forall₂_same.mpr fun e _ => declaration_copied e)

end ManifestDocument

/-- Replacing any of the references of a document by copies of what they refer to makes no difference to
what is built of it, be it a manifest or its issues. Neither do shared parameters that no operation
refers to, so a document can do without shared parameters. -/
theorem sharing_is_copying (doc : ManifestDocument) :
    (∀ doc', doc.Inlines doc' → buildManifest doc' = buildManifest doc) ∧
    (∀ shared : NameMap ParameterDeclaration,
      (∀ key, doc.RefersTo key → shared.get? key = doc.parameters.get? key) →
        buildManifest { doc with parameters := shared } = buildManifest doc) ∧
    buildManifest doc.standalone = buildManifest doc :=
  ⟨fun _ h => h.alike.buildManifest_eq.symm,
    fun _ h => (ManifestDocument.alike_with_parameters h).buildManifest_eq,
    doc.alike_standalone.buildManifest_eq⟩

def sharedPage : ParameterDeclaration :=
  { name := "page", location := .path, required := true, type := some "integer" }

/-- A document whose operations share a parameter, and one of them twice. -/
def pagedDocument : ManifestDocument :=
  { parameters := [("page", sharedPage), ("unused", { name := "q", location := .query })]
    operations :=
      [⟨"list", "GET", "/items",
        [.reference "#/parameters/page", .reference "#/parameters/page",
          .reference "#/parameters/gone"]⟩,
      ⟨"find", "GET", "/items/\x7bpage\x7d", [.reference "#/parameters/page"]⟩] }

/-- That document with copies for some of its references. -/
def copiedPages : ManifestDocument :=
  { pagedDocument with
    operations :=
      [⟨"list", "GET", "/items",
        [.reference "#/parameters/page", .inline sharedPage, .reference "#/parameters/gone"]⟩,
      ⟨"find", "GET", "/items/\x7bpage\x7d", [.inline sharedPage]⟩] }

/-- The copies make no difference to its issues, and neither does the shared parameter that it does not
use. -/
theorem issues_of_copiedPages :
    let shared : NameMap ParameterDeclaration := [("page", sharedPage)]
    pagedDocument.Inlines copiedPages ∧
      (∀ key, pagedDocument.RefersTo key → shared.get? key = pagedDocument.parameters.get? key) ∧
      buildManifest copiedPages = buildManifest pagedDocument ∧
      buildManifest { pagedDocument with parameters := shared } = buildManifest pagedDocument ∧
      (buildManifest pagedDocument).value = .error (.manifestInvalid
        [.of "GET /items (list)" (.notInPath "page" "/items"),
          .of "GET /items (list)" (.duplicateParameter "page" .path),
          .of "GET /items (list)" (.notInPath "page" "/items"),
          .of "GET /items (list)" (.unresolvedReference "#/parameters/gone")]) := by
  intro shared
  have hpage : pagedDocument.InlinesEntry (.reference "#/parameters/page") (.inline sharedPage) := by
    have hfound : pagedDocument.parameters.get? "page" = some sharedPage := rfl
    exact .copy hfound
  have hcopies : pagedDocument.Inlines copiedPages :=
    ⟨rfl, rfl, rfl, .cons ⟨rfl, rfl, rfl, .cons (.keep _) (.cons hpage (.cons (.keep _) .nil))⟩
      (.cons ⟨rfl, rfl, rfl, .cons hpage .nil⟩ .nil)⟩
  have hentries : ∀ d ∈ pagedDocument.operations, ∀ e ∈ d.parameters,
      e = .reference ("#/parameters/" ++ "page") ∨ e = .reference ("#/parameters/" ++ "gone") := by
    decide
  have hshared : ∀ key, pagedDocument.RefersTo key →
      shared.get? key = pagedDocument.parameters.get? key := by
    rintro key ⟨d, hd, he⟩
    obtain hkey | hkey := hentries d hd _ he
    · obtain rfl := (String.append_right_inj _).mp (ParameterEntry.reference.inj hkey)
      rfl
    · obtain rfl := (String.append_right_inj _).mp (ParameterEntry.reference.inj hkey)
      rfl
  obtain ⟨hinline, hunused, -⟩ := sharing_is_copying pagedDocument
  exact ⟨hcopies, hshared, hinline _ hcopies, hunused _ hshared, rfl⟩

end RequestBinding
