import Mathlib.Data.List.Basic
import RequestBinding.Proofs.Body.Reading
import RequestBinding.Request.Basic

/-!
# What a request holds for a parameter

A request keeps pairs of names and texts at three locations. At each of them a name finds the first pair
that has it; letter case does not count in the names of headers.

1. `lookup?_eq_firstOf?` states the three lookups as one, on the form under which names are compared.
2. `Request.Supplies` is that a request holds something for a parameter, `Request.without` takes all of
   it away, and `Request.holding` is a request that holds nothing else.
-/

namespace RequestBinding

namespace Location

/-- The form under which names are compared at a location. -/
def key : Location → String → String
  | header, name => Http.lowercase name
  | _, name => name

/-- The text of the first pair that has a name. -/
def firstOf? (l : Location) (pairs : Pairs) (name : String) : Option String :=
  (pairs.find? fun q => l.key q.1 = l.key name).map Prod.snd

variable (l : Location) (pairs others : Pairs)

theorem firstOf?_nil (name : String) : l.firstOf? [] name = none := rfl

theorem firstOf?_cons (q : String × String) (name : String) :
    l.firstOf? (q :: pairs) name =
      if l.key q.1 = l.key name then some q.2 else l.firstOf? pairs name := by
  unfold firstOf?
  by_cases h : l.key q.1 = l.key name
  · rw [List.find?_cons_of_pos (by simpa using h), if_pos h, Option.map_some]
  · rw [List.find?_cons_of_neg (by simpa using h), if_neg h]

theorem firstOf?_append (name : String) :
    l.firstOf? (pairs ++ others) name =
      (l.firstOf? pairs name).or (l.firstOf? others name) := by
  unfold firstOf?
  rw [List.find?_append, Option.map_or]

variable {l pairs others}

/-- Names that are one name at a location find the same text there. -/
theorem firstOf?_congr {name other : String} (h : l.key name = l.key other) (pairs : Pairs) :
    l.firstOf? pairs name = l.firstOf? pairs other := by
  unfold firstOf?
  rw [h]

theorem firstOf?_eq_none_iff {name : String} :
    l.firstOf? pairs name = none ↔ ∀ q ∈ pairs, l.key q.1 ≠ l.key name := by
  unfold firstOf?
  rw [Option.map_eq_none_iff, List.find?_eq_none]
  simp

theorem firstOf?_isSome_of_mem {name : String} {q : String × String} (hq : q ∈ pairs)
    (h : l.key q.1 = l.key name) : (l.firstOf? pairs name).isSome = true := by
  rw [Option.isSome_iff_ne_none]
  intro hnone
  exact firstOf?_eq_none_iff.mp hnone q hq h

theorem exists_mem_of_firstOf?_eq_some {name value : String} (h : l.firstOf? pairs name = some value) :
    ∃ q ∈ pairs, l.key q.1 = l.key name ∧ q.2 = value := by
  unfold firstOf? at h
  obtain ⟨q, hq, hvalue⟩ := Option.map_eq_some_iff.mp h
  exact ⟨q, List.mem_of_find?_eq_some hq, by simpa using List.find?_some hq, hvalue⟩

/-- Dropping pairs does not matter to a name whose own pairs are kept. -/
theorem firstOf?_filter {name : String} {kept : String × String → Bool}
    (h : ∀ q ∈ pairs, l.key q.1 = l.key name → kept q = true) :
    l.firstOf? (pairs.filter kept) name = l.firstOf? pairs name := by
  induction pairs with
  | nil => rfl
  | cons q pairs ih =>
    obtain ⟨hq, hpairs⟩ := List.forall_mem_cons.mp h
    rw [firstOf?_cons, ← ih hpairs]
    by_cases hkept : kept q = true
    · rw [List.filter_cons_of_pos hkept, firstOf?_cons]
    · rw [List.filter_cons_of_neg hkept, if_neg fun hname => hkept (hq hname)]

end Location

/-! ## Lookups -/

namespace Request

/-- The pairs of a location; a body is none. -/
def pairs (r : Request) : Location → Pairs
  | .path => r.pathParams
  | .query => r.queryParams
  | .header => r.headers
  | .body => []

/-- The request with other pairs at a location. -/
def withPairs (r : Request) : Location → Pairs → Request
  | .path, pairs => { r with pathParams := pairs }
  | .query, pairs => { r with queryParams := pairs }
  | .header, pairs => { r with headers := pairs }
  | .body, _ => r

@[simp] theorem id_withPairs (r : Request) (l : Location) (pairs : Pairs) :
    (r.withPairs l pairs).id = r.id := by cases l <;> rfl

@[simp] theorem body_withPairs (r : Request) (l : Location) (pairs : Pairs) :
    (r.withPairs l pairs).body = r.body := by cases l <;> rfl

theorem pairs_withPairs_self {l : Location} (hl : l ≠ .body) (r : Request) (pairs : Pairs) :
    (r.withPairs l pairs).pairs l = pairs := by
  cases l with
  | body => exact absurd rfl hl
  | path => rfl
  | query => rfl
  | header => rfl

theorem pairs_withPairs_of_ne {l other : Location} (h : other ≠ l) (r : Request) (pairs : Pairs) :
    (r.withPairs l pairs).pairs other = r.pairs other := by
  cases l <;> cases other <;> simp [withPairs, Request.pairs] at h ⊢

theorem lookup_eq_find? (pairs : Pairs) (name : String) :
    pairs.lookup name = (pairs.find? fun q => q.1 = name).map Prod.snd := by
  induction pairs with
  | nil => rfl
  | cons q pairs ih =>
    obtain ⟨n, v⟩ := q
    rw [List.lookup_cons]
    by_cases h : n = name
    · rw [List.find?_cons_of_pos (by simpa using h), beq_iff_eq.mpr h.symm, Option.map_some]
    · rw [List.find?_cons_of_neg (by simpa using h), beq_eq_false_iff_ne.mpr (Ne.symm h), ih]

/-- At every location a name finds its first pair. -/
theorem lookup?_eq_firstOf? (r : Request) (name : String) (l : Location) :
    r.lookup? name l = l.firstOf? (r.pairs l) name := by
  cases l with
  | path => exact lookup_eq_find? r.pathParams name
  | query => exact lookup_eq_find? r.queryParams name
  | header => rfl
  | body => rfl

/-- A lookup depends on the pairs of its location only. -/
theorem lookup?_congr {r r' : Request} {l : Location} (h : r.pairs l = r'.pairs l) (name : String) :
    r.lookup? name l = r'.lookup? name l := by
  rw [lookup?_eq_firstOf?, lookup?_eq_firstOf?, h]

/-- Names that are one name at a location are looked up alike. -/
theorem lookup?_of_key_eq {l : Location} {name other : String} (h : l.key name = l.key other)
    (r : Request) : r.lookup? name l = r.lookup? other l := by
  rw [lookup?_eq_firstOf?, lookup?_eq_firstOf?, Location.firstOf?_congr h]

/-! ## Supply -/

/-- Whether a request holds something for a parameter: a text, or a body that is not empty. -/
def Supplies (r : Request) (p : Parameter) : Prop :=
  if p.isBody then ∃ stream, r.body = some stream ∧ delivered stream.script ≠ []
  else ∃ raw, r.lookup? p.name p.location = some raw

/-- The request without all that it holds for a parameter. -/
def without (r : Request) (p : Parameter) : Request :=
  if p.isBody then { r with body := none }
  else r.withPairs p.location
    ((r.pairs p.location).filter fun q => p.location.key q.1 ≠ p.location.key p.name)

/-- A request that holds something for one parameter and nothing else: an empty text, or one octet. -/
def holding (p : Parameter) : Request :=
  let r : Request := { id := ⟨0⟩, method := "GET", path := "/" }
  if p.isBody then r.withBody (.ofOctets [0x30]) else r.withPairs p.location [(p.name, "")]

variable {p q : Parameter}

theorem supplies_of_isBody (hp : p.isBody = true) (r : Request) :
    r.Supplies p ↔ ∃ stream, r.body = some stream ∧ delivered stream.script ≠ [] := by
  unfold Supplies
  rw [if_pos hp]

theorem supplies_of_not_isBody (hp : p.isBody = false) (r : Request) :
    r.Supplies p ↔ (r.lookup? p.name p.location).isSome = true := by
  unfold Supplies
  rw [if_neg (by simp [hp]), Option.isSome_iff_exists]

theorem location_ne_body (hp : p.isBody = false) : p.location ≠ .body := by
  unfold Parameter.isBody at hp
  exact of_decide_eq_false hp

theorem isBody_congr (h : p.location = q.location) : p.isBody = q.isBody := by
  unfold Parameter.isBody
  rw [h]

theorem without_of_isBody (hp : p.isBody = true) (r : Request) :
    r.without p = { r with body := none } := if_pos hp

theorem without_of_not_isBody (hp : p.isBody = false) (r : Request) :
    r.without p = r.withPairs p.location
      ((r.pairs p.location).filter fun q => p.location.key q.1 ≠ p.location.key p.name) :=
  if_neg (by simp [hp])

theorem lookup?_without_self (hp : p.isBody = false) (r : Request) :
    (r.without p).lookup? p.name p.location = none := by
  rw [without_of_not_isBody hp, lookup?_eq_firstOf?, pairs_withPairs_self (location_ne_body hp),
    Location.firstOf?_eq_none_iff]
  intro pair hpair
  simpa using (List.mem_filter.mp hpair).2

/-- Taking away what one parameter reads leaves what a distinct one reads. -/
theorem lookup?_without_of_ne
    (h : p.location = q.location → p.location.key p.name ≠ p.location.key q.name) (r : Request) :
    (r.without p).lookup? q.name q.location = r.lookup? q.name q.location := by
  cases hp : p.isBody with
  | true =>
    rw [without_of_isBody hp]
    cases q.location <;> rfl
  | false =>
    rw [without_of_not_isBody hp, lookup?_eq_firstOf?, lookup?_eq_firstOf?]
    by_cases hl : p.location = q.location
    · rw [← hl, pairs_withPairs_self (location_ne_body hp)]
      apply Location.firstOf?_filter
      intro pair _ hkey
      rw [decide_eq_true_eq, hkey]
      exact Ne.symm (h hl)
    · rw [pairs_withPairs_of_ne (Ne.symm hl)]

@[simp] theorem id_without (r : Request) (p : Parameter) : (r.without p).id = r.id := by
  cases hp : p.isBody with
  | true => rw [without_of_isBody hp]
  | false => rw [without_of_not_isBody hp, id_withPairs]

theorem body_without (r : Request) (p : Parameter) :
    (r.without p).body = if p.isBody then none else r.body := by
  cases hp : p.isBody with
  | true => rw [without_of_isBody hp, if_pos rfl]
  | false => rw [without_of_not_isBody hp, body_withPairs, if_neg (by simp)]

theorem not_supplies_without (r : Request) (p : Parameter) : ¬ (r.without p).Supplies p := by
  cases hp : p.isBody with
  | true =>
    rw [supplies_of_isBody hp, body_without, hp]
    rintro ⟨stream, hstream, -⟩
    cases hstream
  | false =>
    rw [supplies_of_not_isBody hp, lookup?_without_self hp]
    simp

theorem holding_of_isBody (hp : p.isBody = true) :
    holding p = withBody { id := ⟨0⟩, method := "GET", path := "/" } (.ofOctets [0x30]) :=
  if_pos hp

theorem holding_of_not_isBody (hp : p.isBody = false) :
    holding p = withPairs { id := ⟨0⟩, method := "GET", path := "/" } p.location [(p.name, "")] :=
  if_neg (by simp [hp])

theorem lookup?_holding_of_not_isBody (hp : p.isBody = false) (q : Parameter) :
    (holding p).lookup? q.name q.location =
      if p.location = q.location ∧ p.location.key p.name = p.location.key q.name then some ""
      else none := by
  rw [holding_of_not_isBody hp, lookup?_eq_firstOf?]
  by_cases hl : p.location = q.location
  · rw [← hl, pairs_withPairs_self (location_ne_body hp), Location.firstOf?_cons,
      Location.firstOf?_nil]
    simp
  · have hnone : (withPairs { id := ⟨0⟩, method := "GET", path := "/" } p.location
        [(p.name, "")]).pairs q.location = [] := by
      rw [pairs_withPairs_of_ne (Ne.symm hl)]
      cases q.location <;> rfl
    rw [hnone, Location.firstOf?_nil, if_neg fun h => hl h.1]

/-- A request that holds something for `p` only holds something for `q` just if they read one thing. -/
theorem supplies_holding_iff : (holding p).Supplies q ↔
    p.location = q.location ∧ (p.isBody = true ∨ p.location.key p.name = p.location.key q.name) := by
  cases hp : p.isBody with
  | true =>
    have hbody : p.location = .body := of_decide_eq_true hp
    rw [holding_of_isBody hp, hbody]
    cases hq : q.isBody with
    | true =>
      have hqbody : q.location = .body := of_decide_eq_true hq
      rw [supplies_of_isBody hq, hqbody]
      refine iff_of_true ⟨_, rfl, by decide⟩ ⟨rfl, .inl rfl⟩
    | false =>
      have hnone : (withBody { id := ⟨0⟩, method := "GET", path := "/" }
          (.ofOctets [0x30])).lookup? q.name q.location = none := by
        cases q.location <;> rfl
      rw [supplies_of_not_isBody hq, hnone]
      refine iff_of_false (by simp) fun h => ?_
      exact location_ne_body hq h.1.symm
  | false =>
    cases hq : q.isBody with
    | true =>
      have hne : p.location ≠ q.location := fun h => by rw [isBody_congr h, hq] at hp; cases hp
      rw [supplies_of_isBody hq, holding_of_not_isBody hp, body_withPairs]
      exact iff_of_false (by simp) fun h => hne h.1
    | false =>
      rw [supplies_of_not_isBody hq, lookup?_holding_of_not_isBody hp]
      split_ifs with h
      · exact iff_of_true rfl ⟨h.1, .inr h.2⟩
      · exact iff_of_false (by simp) fun h' => h ⟨h'.1, h'.2.resolve_left (by simp)⟩

end Request
end RequestBinding
