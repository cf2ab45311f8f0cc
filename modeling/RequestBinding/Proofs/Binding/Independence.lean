import Mathlib.Logic.Relation
import RequestBinding.Proofs.Binding.Outcome
import RequestBinding.Proofs.Request.Lookup

/-!
# What binding does not depend on

A run sees of a request its id, its body, and the first text of each declared name at the location that
declares it. Edits of anything else leave the run as it is, and a parameter is resolved from what the
request holds at its own location.

1. `Operation.PairsEdit` and `Operation.Edit` are the edits; `firstOf?_of_pairsEdit` follows one of them.
2. `ReadSame` relates requests that a run cannot tell apart; each edit keeps them so.
3. `visitAll_congr` follows two runs that read the same.
-/

namespace RequestBinding

/-! ## Edits -/

namespace Operation

/-- Whether an operation declares a parameter of some name at a location. -/
def declares (op : Operation) (l : Location) (name : String) : Bool :=
  op.parameters.any fun p => p.location = l ∧ l.key p.name = l.key name

/-- An edit of the pairs at a location that leaves the first pair of each declared name in its place. -/
inductive PairsEdit (op : Operation) (l : Location) : Pairs → Pairs → Prop
  | inserted (front rest : Pairs) {q : String × String} (hq : op.declares l q.1 = false) :
      PairsEdit op l (front ++ rest) (front ++ q :: rest)
  | removed (front rest : Pairs) {q : String × String} (hq : op.declares l q.1 = false) :
      PairsEdit op l (front ++ q :: rest) (front ++ rest)
  | changed (front rest : Pairs) {q q' : String × String} (hq : op.declares l q.1 = false)
      (hq' : op.declares l q'.1 = false) : PairsEdit op l (front ++ q :: rest) (front ++ q' :: rest)
  | reordered {pairs pairs' : Pairs} (h : pairs.Perm pairs')
      (hdeclared : (pairs.filter fun q => op.declares l q.1) =
        pairs'.filter fun q => op.declares l q.1) : PairsEdit op l pairs pairs'
  | repeated (front rest : Pairs) {q q' : String × String} (hq : q ∈ front)
      (hname : l.key q.1 = l.key q'.1) : PairsEdit op l (front ++ rest) (front ++ q' :: rest)
  | recased (front rest : Pairs) {name name' value : String} (h : l.key name = l.key name') :
      PairsEdit op l (front ++ (name, value) :: rest) (front ++ (name', value) :: rest)

/-- An edit of a request that keeps its id and its body. -/
inductive Edit (op : Operation) : Request → Request → Prop
  | method (r : Request) (method : String) : Edit op r { r with method }
  | path (r : Request) (path : String) : Edit op r { r with path }
  | pairs (r : Request) (l : Location) {pairs : Pairs} (h : op.PairsEdit l (r.pairs l) pairs) :
      Edit op r (r.withPairs l pairs)

end Operation

variable {op : Operation} {l : Location} {p : Parameter}

theorem declares_of_key_eq (hp : p ∈ op.parameters) {name : String}
    (h : p.location.key p.name = p.location.key name) : op.declares p.location name = true := by
  unfold Operation.declares
  rw [List.any_eq_true]
  exact ⟨p, hp, decide_eq_true ⟨rfl, h⟩⟩

theorem key_ne_of_not_declares (hp : p ∈ op.parameters) {name : String}
    (h : op.declares p.location name = false) : p.location.key name ≠ p.location.key p.name := by
  intro hkey
  rw [declares_of_key_eq hp hkey.symm] at h
  cases h

/-- A pair of another name plays no part. -/
theorem Location.firstOf?_insert {name : String} {q : String × String} (h : l.key q.1 ≠ l.key name)
    (front rest : Pairs) :
    l.firstOf? (front ++ q :: rest) name = l.firstOf? (front ++ rest) name := by
  rw [firstOf?_append, firstOf?_append, firstOf?_cons, if_neg h]

/-- A parameter finds what it found before an edit. -/
theorem firstOf?_of_pairsEdit (hp : p ∈ op.parameters) {pairs pairs' : Pairs}
    (h : op.PairsEdit p.location pairs pairs') :
    p.location.firstOf? pairs p.name = p.location.firstOf? pairs' p.name := by
  cases h with
  | inserted front rest hq =>
    rw [Location.firstOf?_insert (key_ne_of_not_declares hp hq)]
  | removed front rest hq =>
    rw [Location.firstOf?_insert (key_ne_of_not_declares hp hq)]
  | changed front rest hq hq' =>
    rw [Location.firstOf?_insert (key_ne_of_not_declares hp hq),
      Location.firstOf?_insert (key_ne_of_not_declares hp hq')]
  | reordered h hdeclared =>
    -- both lists find what their declared pairs find
    have hkept : ∀ pairs : Pairs, ∀ q ∈ pairs, p.location.key q.1 = p.location.key p.name →
        op.declares p.location q.1 = true := fun _ _ _ hkey => declares_of_key_eq hp hkey.symm
    rw [← Location.firstOf?_filter (hkept pairs), hdeclared, Location.firstOf?_filter (hkept pairs')]
  | @repeated front rest q q' hq hname =>
    by_cases hkey : p.location.key q'.1 = p.location.key p.name
    · have hfound := Location.firstOf?_isSome_of_mem hq (hname.trans hkey)
      obtain ⟨value, hvalue⟩ := Option.isSome_iff_exists.mp hfound
      rw [Location.firstOf?_append, Location.firstOf?_append, hvalue, Option.some_or, Option.some_or]
    · rw [Location.firstOf?_insert hkey]
  | recased front rest h =>
    rw [Location.firstOf?_append, Location.firstOf?_append, Location.firstOf?_cons,
      Location.firstOf?_cons, h]

/-! ## Requests that read the same -/

/-- Requests with one id and body in which scalar parameters find the same texts. -/
structure ReadSame (ps : List Parameter) (r r' : Request) : Prop where
  id : r.id = r'.id
  body : r.body = r'.body
  texts : ∀ p ∈ ps, p.isBody = false →
    r.lookup? p.name p.location = r'.lookup? p.name p.location

variable {ps : List Parameter} {r r' : Request}

namespace ReadSame

theorem refl (ps : List Parameter) (r : Request) : ReadSame ps r r := ⟨rfl, rfl, fun _ _ _ => rfl⟩

theorem trans {r'' : Request} (h : ReadSame ps r r') (h' : ReadSame ps r' r'') :
    ReadSame ps r r'' where
  id := h.id.trans h'.id
  body := h.body.trans h'.body
  texts p hp hscalar := (h.texts p hp hscalar).trans (h'.texts p hp hscalar)

/-- Requests that read the same still do after a visit. -/
theorem visit (h : ReadSame (p :: ps) r r') (ctx : BindingContext) (i : ℕ) :
    ReadSame ps (visit ctx i p r).request (visit ctx i p r').request where
  id := by
    rw [request_visit, request_visit]
    exact h.id
  body := by
    rw [request_visit, request_visit, h.body]
  texts := by
    intro q hq hscalar
    rw [lookup?_request_visit, lookup?_request_visit]
    exact h.texts q (List.mem_cons_of_mem p hq) hscalar

end ReadSame

theorem readSame_of_edit (h : op.Edit r r') : ReadSame op.parameters r r' := by
  cases h with
  | method method => exact ⟨rfl, rfl, fun q _ _ => Request.lookup?_congr (by cases q.location <;> rfl) _⟩
  | path path => exact ⟨rfl, rfl, fun q _ _ => Request.lookup?_congr (by cases q.location <;> rfl) _⟩
  | @pairs l pairs h =>
    refine ⟨(r.id_withPairs l pairs).symm, (r.body_withPairs l pairs).symm, fun q hq hscalar => ?_⟩
    rw [Request.lookup?_eq_firstOf?, Request.lookup?_eq_firstOf?]
    by_cases hl : q.location = l
    · subst hl
      rw [Request.pairs_withPairs_self (Request.location_ne_body hscalar)]
      exact firstOf?_of_pairsEdit hq h
    · rw [Request.pairs_withPairs_of_ne hl]

theorem readSame_of_edits (h : Relation.ReflTransGen op.Edit r r') :
    ReadSame op.parameters r r' := by
  induction h with
  | refl => exact .refl _ _
  | tail _ hedit ih => exact ih.trans (readSame_of_edit hedit)

/-! ## Runs -/

theorem visit_congr (h : ReadSame (p :: ps) r r') (ctx : BindingContext) (i : ℕ) :
    (visit ctx i p r).toTraced = (visit ctx i p r').toTraced := by
  unfold visit
  split_ifs with hbody
  · unfold visitBody
    rw [h.body]
    cases r'.body <;> rfl
  · have htext := h.texts p List.mem_cons_self (by simpa using hbody)
    change visitScalar i p r = visitScalar i p r'
    unfold visitScalar
    rw [htext]

/-- The loop takes the same steps to the same result on requests that read the same. -/
theorem visitAll_congr (ctx : BindingContext) (ps : List Parameter) :
    ∀ (i : ℕ) (r r' : Request) (args : Arguments) (consumed consumed' : ℕ), ReadSame ps r r' →
      (visitAll ctx i ps r args consumed).result = (visitAll ctx i ps r' args consumed').result ∧
      (visitAll ctx i ps r args consumed).steps = (visitAll ctx i ps r' args consumed').steps := by
  induction ps with
  | nil => exact fun _ _ _ _ _ _ _ => ⟨rfl, rfl⟩
  | cons p ps ih =>
    intro i r r' args consumed consumed' h
    have hvisit := visit_congr h ctx i
    have hresult := congrArg Traced.result hvisit
    have hsteps := congrArg Traced.steps hvisit
    cases hv : (visit ctx i p r').result with
    | error e =>
      rw [visitAll_cons_of_error hv, visitAll_cons_of_error (hresult.trans hv)]
      exact ⟨rfl, by rw [hsteps]⟩
    | ok v =>
      rw [visitAll_cons_of_ok hv, visitAll_cons_of_ok (hresult.trans hv)]
      obtain ⟨hrest, hrestSteps⟩ := ih (i + 1) _ _ (args.push p.name p.location v)
        (consumed + (visit ctx i p r).consumed) (consumed' + (visit ctx i p r').consumed)
        (h.visit ctx i)
      dsimp only
      exact ⟨hrest, by rw [hsteps, hrestSteps]⟩

theorem bind_congr (h : ReadSame op.parameters r r') (ctx : BindingContext) :
    (bind ctx op r).result = (bind ctx op r').result ∧
      (bind ctx op r).steps = (bind ctx op r').steps := by
  obtain ⟨hresult, hsteps⟩ := visitAll_congr ctx op.parameters 0 r r'
    { requestId := r.id, operationId := op.id } 0 0 h
  unfold bind
  dsimp only
  rw [← h.id]
  exact ⟨hresult, by rw [hsteps, hresult, closing_of_id_eq op h.id]⟩

/-! ## Locations -/

/-- Whether requests hold the same at a location. -/
def Request.AgreeAt (l : Location) (r r' : Request) : Prop :=
  r.pairs l = r'.pairs l ∧ (l = .body → r.body = r'.body)

/-- A parameter is resolved from what the request holds at its location. -/
theorem resolve_congr (h : Request.AgreeAt p.location r r') (ctx : BindingContext) (i : ℕ) :
    op.resolve ctx r i p = op.resolve ctx r' i p := by
  obtain ⟨hpairs, hbody⟩ := h
  cases hp : p.isBody with
  | true =>
    have hl : p.location = .body := of_decide_eq_true hp
    rw [resolve_of_isBody hp, resolve_of_isBody hp]
    unfold Request.bodyAfter
    rw [hbody hl]
  | false =>
    rw [resolve_of_not_isBody hp, resolve_of_not_isBody hp]
    unfold Parameter.resolveScalar
    rw [Request.lookup?_congr hpairs]

theorem argument_congr {i : ℕ} (hp : op.parameters[i]? = some p)
    (h : Request.AgreeAt p.location r r') {ctx : BindingContext} {args args' : Arguments}
    (hargs : (bind ctx op r).result = .ok args) (hargs' : (bind ctx op r').result = .ok args') :
    args.arguments[i]? = args'.arguments[i]? := by
  obtain ⟨-, -, -, hall⟩ := result_bind_eq_ok_iff.mp hargs
  obtain ⟨-, -, -, hall'⟩ := result_bind_eq_ok_iff.mp hargs'
  obtain ⟨v, hv, hi⟩ := hall i p hp
  obtain ⟨v', hv', hi'⟩ := hall' i p hp
  rw [resolve_congr h, hv'] at hv
  rw [hi, hi', Except.ok.inj hv]

/-- Edits that leave the first pair of each declared name in its place, and the id and the body, do not
matter to a run: not to its result, nor to its states or its log. What a request holds at one location
does not matter to the parameters of another. -/
theorem bind_reads_declared_only (ctx : BindingContext) (op : Operation) :
    (∀ r r', Relation.ReflTransGen op.Edit r r' →
      (bind ctx op r).result = (bind ctx op r').result ∧
      (bind ctx op r).states = (bind ctx op r').states ∧
      (bind ctx op r).events = (bind ctx op r').events) ∧
    (∀ (i : ℕ) p, op.parameters[i]? = some p → ∀ r r', Request.AgreeAt p.location r r' →
      op.resolve ctx r i p = op.resolve ctx r' i p ∧
      ∀ args args', (bind ctx op r).result = .ok args → (bind ctx op r').result = .ok args' →
        args.arguments[i]? = args'.arguments[i]?) := by
  refine ⟨fun r r' hedits => ?_, fun i p hp r r' hagree => ⟨resolve_congr hagree ctx i, ?_⟩⟩
  · obtain ⟨hresult, hsteps⟩ := bind_congr (readSame_of_edits hedits) ctx
    unfold Run.states Run.events
    rw [hsteps]
    exact ⟨hresult, rfl, rfl⟩
  · intro args args' hargs hargs'
    exact argument_congr hp hagree hargs hargs'

/-- An operation that reads a text from the query and a number from a header. -/
def searchOperation : Operation :=
  ⟨"search", "GET", "/search",
    [{ name := "q", location := .query, required := true, type := .string },
     { name := "X-Page", location := .header, type := .int32 }]⟩

def searchRequest : Request :=
  { id := ⟨0⟩, method := "GET", path := "/search", queryParams := [("q", "a")]
    headers := [("x-page", "2")] }

/-- The same search with pairs that it does not read, and its header in another letter case. -/
def searchRequestEdited : Request :=
  { id := ⟨0⟩, method := "GET", path := "/search", pathParams := [("q", "c")]
    queryParams := [("lang", "en"), ("q", "a"), ("q", "b")], headers := [("X-PAGE", "2")] }

theorem search_reads_declared_only :
    let ctx : BindingContext := { schemas := [], validator := .standard, maxBodyOctets := 0 }
    Relation.ReflTransGen searchOperation.Edit searchRequest searchRequestEdited ∧
      (bind ctx searchOperation searchRequest).result =
        (bind ctx searchOperation searchRequestEdited).result ∧
      ∀ headers, searchOperation.resolve ctx searchRequest 0 searchOperation.parameters[0] =
        searchOperation.resolve ctx { searchRequest with headers } 0
          searchOperation.parameters[0] := by
  intro ctx
  have hlang : searchOperation.PairsEdit .query [("q", "a")] [("lang", "en"), ("q", "a")] :=
    .inserted [] [("q", "a")] (by decide)
  have hsecond : searchOperation.PairsEdit .query [("lang", "en"), ("q", "a")]
      [("lang", "en"), ("q", "a"), ("q", "b")] :=
    .repeated [("lang", "en"), ("q", "a")] [] (List.mem_cons_of_mem _ List.mem_cons_self) rfl
  have hpath : searchOperation.PairsEdit .path [] [("q", "c")] := .inserted [] [] (by decide)
  have hcase : searchOperation.PairsEdit .header [("x-page", "2")] [("X-PAGE", "2")] :=
    .recased [] [] (by decide)
  have hedits : Relation.ReflTransGen searchOperation.Edit searchRequest searchRequestEdited :=
    (((Relation.ReflTransGen.refl.tail (.pairs _ .query hlang)).tail (.pairs _ .query hsecond)).tail
      (.pairs _ .path hpath)).tail (.pairs _ .header hcase)
  obtain ⟨hrun, hlocation⟩ := bind_reads_declared_only ctx searchOperation
  refine ⟨hedits, (hrun _ _ hedits).1, fun headers => ?_⟩
  exact (hlocation 0 _ rfl searchRequest { searchRequest with headers } ⟨rfl, fun _ => rfl⟩).1

end RequestBinding
