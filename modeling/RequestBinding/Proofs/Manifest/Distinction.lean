import RequestBinding.Proofs.Manifest.Validity
import RequestBinding.Proofs.Request.Lookup

/-!
# Distinct parameters

What a manifest is checked for keeps the parameters of an operation apart: for two of them there is a
request that holds something for the one and nothing for the other. Headers escape the check. It compares
their names letter by letter, whereas a request finds headers in any letter case.

1. `WellDeclared.not_supplies_holding`: a request that holds something for one parameter only.
2. `Request.supplies_congr`: no request tells two spellings of one header apart.
-/

namespace RequestBinding

/-- Whether two parameters are headers whose names differ in letter case at most. -/
def Parameter.SameHeader (p q : Parameter) : Prop :=
  p.location = .header ∧ q.location = .header ∧ Http.sameName p.name q.name = true

variable {p q : Parameter}

theorem Parameter.SameHeader.key_eq (h : p.SameHeader q) :
    Location.header.key p.name = Location.header.key q.name := by
  obtain ⟨-, -, hname⟩ := h
  exact Http.sameName_iff.mp hname

/-- Every request holds something for both spellings of a header, or for none. -/
theorem Request.supplies_congr (h : p.SameHeader q) (r : Request) :
    r.Supplies p ↔ r.Supplies q := by
  have hkey := h.key_eq
  obtain ⟨hp, hq, -⟩ := h
  have hpbody : p.isBody = false := by rw [Parameter.isBody, hp]; rfl
  have hqbody : q.isBody = false := by rw [Parameter.isBody, hq]; rfl
  rw [supplies_of_not_isBody hpbody, supplies_of_not_isBody hqbody, hp, hq, lookup?_of_key_eq hkey]

/-- Names that are one name at a location are the same, unless they are names of headers. -/
theorem key_ne_of_not_sameHeader (hname : p.name = q.name → p.location ≠ q.location)
    (h : ¬ p.SameHeader q) (hl : p.location = q.location) :
    p.location.key p.name ≠ p.location.key q.name := by
  have hne : p.name ≠ q.name := fun heq => hname heq hl
  intro hkey
  cases hloc : p.location with
  | header =>
    rw [hloc] at hkey hl
    exact h ⟨hloc, hl.symm, Http.sameName_iff.mpr hkey⟩
  | path => rw [hloc] at hkey; exact hne hkey
  | query => rw [hloc] at hkey; exact hne hkey
  | body => rw [hloc] at hkey; exact hne hkey

theorem WellDeclared.not_supplies_holding {schemas : NameMap Json} {path : String}
    {ps : List Parameter} (hps : WellDeclared schemas path ps) {i j : ℕ} (hp : ps[i]? = some p)
    (hq : ps[j]? = some q) (hij : i ≠ j) (h : ¬ p.SameHeader q) :
    ¬ (Request.holding p).Supplies q := by
  rw [Request.supplies_holding_iff]
  rintro ⟨hl, hbody | hkey⟩
  · have hqbody : q.isBody = true := by rw [← Request.isBody_congr hl, hbody]
    exact hij (eq_of_countP_le_one hps.oneBody hp hq hbody hqbody)
  · have hname : p.name = q.name → p.location ≠ q.location :=
      rel_of_pairwise (fun _ _ hs heq hl => hs heq.symm hl.symm) hps.distinct hp hq hij
    exact key_ne_of_not_sameHeader hname h hl hkey

/-- For two parameters of an accepted operation there is a request that holds something for the first
and nothing for the second, unless they are one header in two spellings. -/
theorem accepted_parameters_read_apart {doc : ManifestDocument} {m : Manifest}
    (h : (buildManifest doc).value = .ok m) {op : Operation} (hop : op ∈ m.operations) {i j : ℕ}
    (hp : op.parameters[i]? = some p) (hq : op.parameters[j]? = some q) (hij : i ≠ j) :
    (∃ r : Request, r.Supplies p ∧ ¬ r.Supplies q) ↔ ¬ p.SameHeader q := by
  have hps := checked_iff_wellDeclared.mp (checked_of_buildManifest h hop)
  constructor
  · rintro ⟨r, hrp, hrq⟩ hsame
    exact hrq ((Request.supplies_congr hsame r).mp hrp)
  · intro hsame
    refine ⟨Request.holding p, ?_, hps.not_supplies_holding hp hq hij hsame⟩
    exact Request.supplies_holding_iff.mpr ⟨rfl, .inr rfl⟩

/-- A header parameter of type string, as an author declares it. -/
def headerDeclaration (name : String) : ParameterDeclaration :=
  { name, location := .header, type := some "string" }

/-- A document with an operation that declares two headers. -/
def twoHeaders (name other : String) : ManifestDocument :=
  { operations := [{ id := "op", method := "GET", path := "/x"
                     parameters := [.inline (headerDeclaration name),
                       .inline (headerDeclaration other)] }] }

/-- What such a declaration becomes. -/
def headerParameter (name : String) : Parameter := { name, location := .header, type := .string }

/-- Of two headers with different names, a request can carry the one and not the other. -/
theorem headers_apart :
    ∃ m op, (buildManifest (twoHeaders "X-A" "X-B")).value = .ok m ∧ op ∈ m.operations ∧
      op.parameters[0]? = some (headerParameter "X-A") ∧
      op.parameters[1]? = some (headerParameter "X-B") ∧
      ∃ r : Request, r.Supplies (headerParameter "X-A") ∧ ¬ r.Supplies (headerParameter "X-B") := by
  let op : Operation := ⟨"op", "GET", "/x", [headerParameter "X-A", headerParameter "X-B"]⟩
  have h : (buildManifest (twoHeaders "X-A" "X-B")).value = .ok { operations := [op] } := rfl
  have hop : op ∈ [op] := List.mem_singleton_self op
  have hsame : ¬ (headerParameter "X-A").SameHeader (headerParameter "X-B") := by
    rintro ⟨-, -, hname⟩
    revert hname
    decide
  refine ⟨_, op, h, hop, rfl, rfl, ?_⟩
  exact (accepted_parameters_read_apart h hop (i := 0) (j := 1) rfl rfl Nat.zero_ne_one).mpr hsame

/-- Two spellings of a header are accepted as two parameters, and no request tells them apart. -/
theorem header_spellings_accepted :
    ∃ m op, (buildManifest (twoHeaders "X-A" "x-a")).value = .ok m ∧ op ∈ m.operations ∧
      op.parameters[0]? = some (headerParameter "X-A") ∧
      op.parameters[1]? = some (headerParameter "x-a") ∧
      ∀ r : Request, r.Supplies (headerParameter "X-A") ↔ r.Supplies (headerParameter "x-a") := by
  let op : Operation := ⟨"op", "GET", "/x", [headerParameter "X-A", headerParameter "x-a"]⟩
  have h : (buildManifest (twoHeaders "X-A" "x-a")).value = .ok { operations := [op] } := rfl
  have hsame : (headerParameter "X-A").SameHeader (headerParameter "x-a") := ⟨rfl, rfl, by decide⟩
  exact ⟨_, op, h, List.mem_singleton_self op, rfl, rfl, Request.supplies_congr hsame⟩

end RequestBinding
