import Mathlib.Algebra.Order.Group.Multiset
import Mathlib.Tactic.Abel
import RequestBinding.Proofs.Manifest.Alike

/-!
# Reported issues

What building a document reports, and what a correction of the document does to it.

1. `issues_eq`: the issues that are reported are those that the loop over the operations finds.
2. `found_modify`: changing one operation, but not its id, changes its own issues only.
3. `findings_withMethod`: an operation without a valid method hides the issues of its parameters, which
   come to light when the method is corrected.
-/

namespace RequestBinding

/-! ## What is reported -/

/-- What an issue says, wherever it was found. -/
def IssueCause.finding (c : IssueCause) : String × String := (c.kind, c.message)

def Issue.finding (i : Issue) : String × String := (i.kind, i.message)

@[simp] theorem Issue.finding_of (place : String) (c : IssueCause) :
    (Issue.of place c).finding = c.finding := rfl

/-- What a list of causes says, in any order. -/
def findingsOf (causes : List IssueCause) : Multiset (String × String) :=
  causes.map IssueCause.finding

@[simp] theorem findingsOf_append (causes others : List IssueCause) :
    findingsOf (causes ++ others) = findingsOf causes + findingsOf others := by
  simp [findingsOf]

namespace ManifestDocument

/-- The issues that building a document reports. -/
def issues (doc : ManifestDocument) : List Issue :=
  match (buildManifest doc).value with
  | .error (.manifestInvalid issues) => issues
  | _ => []

def findings (doc : ManifestDocument) : Multiset (String × String) :=
  doc.issues.map Issue.finding

/-- The document with another method for operation `i`. -/
def withMethod (doc : ManifestDocument) (i : ℕ) (method : String) : ManifestDocument :=
  { doc with operations := doc.operations.modify i fun d => { d with method } }

theorem issues_eq (doc : ManifestDocument) :
    doc.issues = (buildOperations doc [] doc.operations).2 := by
  unfold issues
  cases h : (buildManifest doc).value with
  | ok m => exact (congrArg Prod.snd (buildManifest_eq_ok_iff.mp h).1).symm
  | error e =>
    obtain ⟨-, rfl⟩ := refuseIssues_eq_error_iff.mp (map_eq_error_iff.mp h)
    rfl

end ManifestDocument

/-! ## Changing one operation -/

/-- What is built of operations does not depend on which ones the document has. -/
theorem buildOperations_with_operations (doc : ManifestDocument) (ops ds : List OperationDeclaration)
    (seen : List String) :
    buildOperations { doc with operations := ops } seen ds = buildOperations doc seen ds := by
  have hentry (e : ParameterEntry) :
      e.declaration { doc with operations := ops } = e.declaration doc := by
    cases e <;> rfl
  have halike (d : OperationDeclaration) : d.Alike { doc with operations := ops } doc d :=
    ⟨rfl, rfl, rfl, List.forall₂_same.mpr fun e _ => hentry e⟩
  exact buildOperations_alike (by rfl) (List.forall₂_same.mpr fun d _ => halike d) seen

/-- What the loop finds. -/
def found (doc : ManifestDocument) (seen : List String) (ds : List OperationDeclaration) :
    Multiset (String × String) :=
  (buildOperations doc seen ds).2.map Issue.finding

theorem found_cons (doc : ManifestDocument) (seen : List String) (d : OperationDeclaration)
    (ds : List OperationDeclaration) :
    found doc seen (d :: ds) =
      findingsOf (if d.id ∈ seen then [.duplicateOperation d.id] else []) +
        findingsOf (buildOperation doc d).2 + found doc (d.id :: seen) ds := by
  unfold found findingsOf
  simp [buildOperations_cons, Function.comp_def]

/-- Changing an operation, but not its id, changes its own issues and no others. -/
theorem found_modify (doc : ManifestDocument) {f : OperationDeclaration → OperationDeclaration}
    {d : OperationDeclaration} (hid : (f d).id = d.id) (ds : List OperationDeclaration) :
    ∀ (seen : List String) (i : ℕ), ds[i]? = some d →
      found doc seen (ds.modify i f) + findingsOf (buildOperation doc d).2 =
        found doc seen ds + findingsOf (buildOperation doc (f d)).2 := by
  induction ds with
  | nil => simp
  | cons first rest ih =>
    intro seen i hi
    cases i with
    | zero =>
      obtain rfl : first = d := by simpa using hi
      rw [List.modify_zero_cons, found_cons, found_cons, hid]
      abel
    | succ i =>
      have hrest := ih (first.id :: seen) i (by simpa using hi)
      rw [List.modify_succ_cons, found_cons, found_cons, add_assoc, hrest]
      abel

/-- An operation without a valid method has that as its only issue. -/
theorem buildOperation_of_not_isToken {doc : ManifestDocument} {d : OperationDeclaration}
    (h : Http.isToken (Http.uppercase d.method) = false) :
    buildOperation doc d = (none, [.invalidMethod d.method]) := by
  simp [buildOperation, h]

/-- Correcting an invalid method takes back the issue of the method, and adds the issues that the
parameters of the operation have had all along. -/
theorem findings_withMethod {doc : ManifestDocument} {i : ℕ} {d : OperationDeclaration}
    (hd : doc.operations[i]? = some d) (hm : Http.isToken (Http.uppercase d.method) = false)
    (method : String) :
    (doc.withMethod i method).findings + {(IssueCause.invalidMethod d.method).finding} =
      doc.findings + findingsOf (buildOperation doc { d with method }).2 := by
  have h := found_modify doc (f := fun d => { d with method }) (d := d) rfl doc.operations [] i hd
  rw [buildOperation_of_not_isToken hm] at h
  unfold ManifestDocument.findings
  rw [ManifestDocument.issues_eq, ManifestDocument.issues_eq]
  unfold ManifestDocument.withMethod
  rw [buildOperations_with_operations]
  exact h

theorem findingsOf_le_found (doc : ManifestDocument) {d : OperationDeclaration}
    (ds : List OperationDeclaration) :
    ∀ (seen : List String) (i : ℕ), ds[i]? = some d →
      findingsOf (buildOperation doc d).2 ≤ found doc seen ds := by
  induction ds with
  | nil => simp
  | cons first rest ih =>
    intro seen i hi
    rw [found_cons]
    cases i with
    | zero =>
      obtain rfl : first = d := by simpa using hi
      exact (Multiset.le_add_left _ _).trans (Multiset.le_add_right _ _)
    | succ i => exact (ih (first.id :: seen) i (by simpa using hi)).trans (Multiset.le_add_left _ _)

/-- The issue of an invalid method is among those reported. -/
theorem singleton_le_findings {doc : ManifestDocument} {i : ℕ} {d : OperationDeclaration}
    (hd : doc.operations[i]? = some d) (hm : Http.isToken (Http.uppercase d.method) = false) :
    {(IssueCause.invalidMethod d.method).finding} ≤ doc.findings := by
  have h := findingsOf_le_found doc doc.operations [] i hd
  rw [buildOperation_of_not_isToken hm] at h
  unfold ManifestDocument.findings
  rw [ManifestDocument.issues_eq]
  exact h

/-- An operation without a valid method hides the issues of its parameters. Correcting the method takes
back one issue and uncovers these, so nothing new is reported exactly if there are none. -/
theorem correcting_method_uncovers_parameters {doc : ManifestDocument} {i : ℕ}
    {d : OperationDeclaration} {method : String} (hd : doc.operations[i]? = some d)
    (hm : Http.isToken (Http.uppercase d.method) = false)
    (hmethod : Http.isToken (Http.uppercase method) = true) :
    {(IssueCause.invalidMethod d.method).finding} ≤ doc.findings ∧
      (doc.withMethod i method).findings =
        doc.findings - {(IssueCause.invalidMethod d.method).finding} +
          findingsOf (buildParameters doc d.path [] d.parameters).2 ∧
      ((doc.withMethod i method).findings =
          doc.findings - {(IssueCause.invalidMethod d.method).finding} ↔
        (buildParameters doc d.path [] d.parameters).2 = []) := by
  have hle := singleton_le_findings hd hm
  have hparameters : (buildOperation doc { d with method }).2 =
      (buildParameters doc d.path [] d.parameters).2 := by
    simp [buildOperation, hmethod]
  have hcorrected : (doc.withMethod i method).findings =
      doc.findings - {(IssueCause.invalidMethod d.method).finding} +
        findingsOf (buildParameters doc d.path [] d.parameters).2 := by
    have h := findings_withMethod hd hm method
    rw [hparameters, ← Multiset.add_sub_cancel hle, add_right_comm] at h
    exact add_right_cancel h
  refine ⟨hle, hcorrected, ?_⟩
  rw [hcorrected, add_eq_left]
  simp [findingsOf]

/-- The issues of a document with one operation are those of the operation. -/
theorem findings_of_operations_eq {doc : ManifestDocument} {d : OperationDeclaration}
    (h : doc.operations = [d]) : doc.findings = findingsOf (buildOperation doc d).2 := by
  unfold ManifestDocument.findings
  rw [ManifestDocument.issues_eq, h]
  simp [buildOperations, findingsOf, Function.comp_def]

/-- A document whose only operation has no valid method and a parameter without a type. -/
def untypedUnderInvalidMethod : ManifestDocument :=
  { operations := [⟨"save", "NOT A METHOD", "/x", [.inline { name := "q", location := .query }]⟩] }

/-- Correcting the method makes the document report a parameter that it had before. -/
theorem untyped_parameter_uncovered :
    untypedUnderInvalidMethod.findings = {(IssueCause.invalidMethod "NOT A METHOD").finding} ∧
      (untypedUnderInvalidMethod.withMethod 0 "GET").findings =
        {(IssueCause.invalidParameter "q" .missingType).finding} ∧
      (untypedUnderInvalidMethod.withMethod 0 "GET").findings ≠
        untypedUnderInvalidMethod.findings -
          {(IssueCause.invalidMethod "NOT A METHOD").finding} := by
  have hbefore : untypedUnderInvalidMethod.findings =
      {(IssueCause.invalidMethod "NOT A METHOD").finding} := by
    rw [findings_of_operations_eq rfl, buildOperation_of_not_isToken (by decide)]
    rfl
  have hafter : (untypedUnderInvalidMethod.withMethod 0 "GET").findings =
      {(IssueCause.invalidParameter "q" .missingType).finding} := by
    rw [findings_of_operations_eq rfl]
    rfl
  refine ⟨hbefore, hafter, ?_⟩
  rw [hbefore, hafter]
  simp

/-- The method of that operation is invalid, and correcting it adds the issue of its parameter. -/
theorem correcting_untypedUnderInvalidMethod :
    let d : OperationDeclaration :=
      ⟨"save", "NOT A METHOD", "/x", [.inline { name := "q", location := .query }]⟩
    untypedUnderInvalidMethod.operations[0]? = some d ∧
      Http.isToken (Http.uppercase d.method) = false ∧
      Http.isToken (Http.uppercase "GET") = true ∧
      {(IssueCause.invalidMethod d.method).finding} ≤ untypedUnderInvalidMethod.findings ∧
      (untypedUnderInvalidMethod.withMethod 0 "GET").findings =
        untypedUnderInvalidMethod.findings - {(IssueCause.invalidMethod d.method).finding} +
          findingsOf [.invalidParameter "q" .missingType] := by
  intro d
  have hd : untypedUnderInvalidMethod.operations[0]? = some d := rfl
  have hm : Http.isToken (Http.uppercase d.method) = false := by decide
  have hget : Http.isToken (Http.uppercase "GET") = true := by decide
  obtain ⟨hle, hfindings, -⟩ := correcting_method_uncovers_parameters hd hm hget
  exact ⟨hd, hm, hget, hle, hfindings⟩

end RequestBinding
