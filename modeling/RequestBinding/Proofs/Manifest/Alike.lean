import Mathlib.Data.List.Forall2
import RequestBinding.Proofs.Manifest.Checked

/-!
# Documents that declare the same

Two documents may differ in their shared parameters and in how the entries of their operations are
written. As long as the entries declare the same, the same is built of both.

1. `OperationDeclaration.Alike` and `ManifestDocument.Alike` say when that is so.
2. `buildParameters_alike`, `buildOperation_eq`, `buildOperations_alike` and `buildManifest_eq` carry it
   up from the entries to the manifest.
-/

namespace RequestBinding

/-- Operations whose entries declare the same, in two documents. -/
structure OperationDeclaration.Alike (doc doc' : ManifestDocument) (d d' : OperationDeclaration) :
    Prop where
  id : d.id = d'.id
  method : d.method = d'.method
  path : d.path = d'.path
  parameters : List.Forall₂ (fun e e' => e.declaration doc = e'.declaration doc')
    d.parameters d'.parameters

/-- Documents whose operations are alike. -/
structure ManifestDocument.Alike (doc doc' : ManifestDocument) : Prop where
  maxBodyOctets : doc.maxBodyOctets = doc'.maxBodyOctets
  schemas : doc.schemas = doc'.schemas
  operations : List.Forall₂ (OperationDeclaration.Alike doc doc') doc.operations doc'.operations

variable {doc doc' : ManifestDocument}

theorem ParameterEntry.resolve_alike {e e' : ParameterEntry}
    (h : e.declaration doc = e'.declaration doc') : e.resolve doc = e'.resolve doc' := by
  unfold resolve
  rw [h]

/-- An entry is checked against the parameters before it, so these are the same too. -/
theorem buildParameters_alike (hschemas : doc.schemas = doc'.schemas) (path : String)
    {es es' : List ParameterEntry}
    (h : List.Forall₂ (fun e e' => e.declaration doc = e'.declaration doc') es es') :
    ∀ earlier, buildParameters doc path earlier es = buildParameters doc' path earlier es' := by
  induction h with
  | nil => exact fun _ => rfl
  | @cons e e' _ _ he _ ih =>
    intro earlier
    rw [buildParameters, buildParameters, ParameterEntry.resolve_alike he, hschemas]
    cases e'.resolve doc' with
    | error cause =>
      dsimp only
      rw [ih earlier]
    | ok p =>
      dsimp only
      rw [ih (earlier ++ [p])]

namespace OperationDeclaration.Alike

variable {d d' : OperationDeclaration}

theorem place_eq (h : Alike doc doc' d d') : d.place = d'.place := by
  rw [place, place, h.id, h.method, h.path]

theorem buildOperation_eq (hschemas : doc.schemas = doc'.schemas) (h : Alike doc doc' d d') :
    buildOperation doc d = buildOperation doc' d' := by
  rw [buildOperation, buildOperation, h.method, h.path, h.id,
    buildParameters_alike hschemas d'.path h.parameters]

end OperationDeclaration.Alike

theorem buildOperations_alike (hschemas : doc.schemas = doc'.schemas)
    {ds ds' : List OperationDeclaration}
    (h : List.Forall₂ (OperationDeclaration.Alike doc doc') ds ds') :
    ∀ seen, buildOperations doc seen ds = buildOperations doc' seen ds' := by
  induction h with
  | nil => exact fun _ => rfl
  | cons hd _ ih =>
    intro seen
    rw [buildOperations_cons, buildOperations_cons, hd.buildOperation_eq hschemas, hd.place_eq, hd.id,
      ih]

/-- The same is built of documents that declare the same, with the same events. -/
theorem ManifestDocument.Alike.buildManifest_eq (h : Alike doc doc') :
    buildManifest doc = buildManifest doc' := by
  rw [buildManifest, buildManifest, buildOperations_alike h.schemas h.operations, h.schemas,
    h.maxBodyOctets]

end RequestBinding
