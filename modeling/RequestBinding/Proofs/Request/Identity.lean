import RequestBinding.Proofs.Binding.Arguments
import RequestBinding.Proofs.Request.Building
import RequestBinding.Proofs.Request.Ulid

/-!
# The id of a request

The first request id header decides the id of a request, if an id can be read in it. What comes before
and after it plays no part, and neither does the way in which the request is made.

1. `RequestStep` is a step of building a request; `header?_follow` says which headers the steps leave.
2. `Request.Heeds` is what each step keeps true of the id (`Heeds.apply`, `Heeds.follow`).
3. `header?_ofHttp` says which headers a request from a server has, whatever their order was.
-/

namespace RequestBinding

/-! ## Steps -/

/-- A step of building a request. With a header comes the id that is minted if the header should give one
and cannot be read. -/
inductive RequestStep where
  | header (minted : Ulid) (name value : String)
  | pathParam (name value : String)
  | body (stream : BodyStream)

namespace RequestStep

def apply (r : Request) : RequestStep → Request
  | header minted name value => r.withHeader minted name value
  | pathParam name value => r.withPathParam name value
  | body stream => r.withBody stream

/-- The header that a step adds. -/
def header? : RequestStep → Option (String × String)
  | header _ name value => some (name, value)
  | pathParam _ _ => none
  | body _ => none

end RequestStep

def Request.follow (r : Request) (steps : List RequestStep) : Request :=
  steps.foldl RequestStep.apply r

/-- The headers that steps add, in order. -/
def headersOf (steps : List RequestStep) : Pairs := steps.filterMap RequestStep.header?

theorem header?_apply (r : Request) (step : RequestStep) (name : String) :
    (step.apply r).header? name =
      (r.header? name).or (Location.header.firstOf? (headersOf [step]) name) := by
  cases step with
  | header minted n value =>
    have hfirst := Location.firstOf?_cons .header [] (n, value) name
    rw [Location.firstOf?_nil] at hfirst
    exact (header?_withHeader minted r n value name).trans (congrArg _ hfirst.symm)
  | pathParam n value => exact (Option.or_none).symm
  | body stream => exact (Option.or_none).symm

/-- The first header of a name is one that was there, or the first one that a step adds. -/
theorem header?_follow (steps : List RequestStep) (name : String) : ∀ r : Request,
    (r.follow steps).header? name =
      (r.header? name).or (Location.header.firstOf? (headersOf steps) name) := by
  induction steps with
  | nil =>
    intro r
    exact (Option.or_none).symm
  | cons step steps ih =>
    intro r
    have happend : headersOf (step :: steps) = headersOf [step] ++ headersOf steps :=
      List.filterMap_append (l := [step])
    change ((step.apply r).follow steps).header? name = _
    rw [ih, header?_apply, happend, Location.firstOf?_append, Option.or_assoc]

/-! ## The invariant -/

/-- Whether a request has an id if that is what its first request id header is a written form of. -/
def Request.Heeds (r : Request) (u : Ulid) : Prop :=
  ∀ value, r.header? requestIdHeader = some value → u.Written value → r.id = u

variable {u : Ulid} {r : Request}

theorem heeds_new (u own : Ulid) (method target : String) : (Request.new own method target).Heeds u := by
  intro value hvalue
  cases hvalue

/-- A step keeps it so: a header sets the id only where there was none to decide it. -/
theorem Request.Heeds.apply (h : r.Heeds u) (hu : u.bits < 2 ^ 128) (step : RequestStep) :
    (step.apply r).Heeds u := by
  cases step with
  | pathParam name value => exact h
  | body stream => exact h
  | header minted name value =>
    intro first hfirst hwritten
    have hid : Http.lowercase requestIdHeader = requestIdHeader := by decide
    change (r.withHeader minted name value).header? requestIdHeader = some first at hfirst
    change (r.withHeader minted name value).id = u
    rw [header?_withHeader, hid] at hfirst
    cases hheader : r.header? requestIdHeader with
    | some earlier =>
      rw [hheader, Option.some_or] at hfirst
      obtain rfl := Option.some.inj hfirst
      simpa [Request.withHeader, hheader] using h earlier hheader hwritten
    | none =>
      rw [hheader, Option.none_or] at hfirst
      split_ifs at hfirst with hname
      obtain rfl := Option.some.inj hfirst
      simpa [Request.withHeader, hheader, hname] using Ulid.ofHeader_of_written hu hwritten minted

theorem Request.Heeds.follow (hu : u.bits < 2 ^ 128) (steps : List RequestStep) :
    ∀ {r : Request}, r.Heeds u → (r.follow steps).Heeds u := by
  induction steps with
  | nil => exact fun h => h
  | cons step steps ih => exact fun h => ih (h.apply hu step)

/-! ## Servers -/

/-- A header with its octets read as text. -/
def headerText (h : String × Octets) : String × String := (h.1, textOfUtf8Lossy h.2)

theorem checkHeader_eq_ok {h h' : String × Octets} (hh : HttpRequest.checkHeader h.1 h.2 = .ok h') :
    h' = lowercased h := by
  unfold HttpRequest.checkHeader at hh
  split_ifs at hh
  exact (Except.ok.inj hh).symm

/-- A server brings headers together by their names in lower case. -/
theorem headers_of_ofParts {method uri : String} {headers : List (String × Octets)}
    {http : HttpRequest} (h : HttpRequest.ofParts method uri headers = .ok http) :
    http.headers = Http.groupByName (headers.map lowercased) := by
  unfold HttpRequest.ofParts at h
  dsimp only at h
  split_ifs at h with htoken
  · rw [error_bind] at h
    cases h
  obtain ⟨target, -, h⟩ := bind_eq_ok_iff.mp h
  obtain ⟨checked, hchecked, h⟩ := bind_eq_ok_iff.mp h
  obtain rfl := Except.ok.inj h
  obtain ⟨hlength, hall⟩ := mapM_eq_ok_iff.mp hchecked
  have hlowercased : checked = headers.map lowercased := by
    refine List.ext_getElem? fun i => ?_
    rw [List.getElem?_map]
    cases hi : headers[i]? with
    | none =>
      rw [List.getElem?_eq_none_iff] at hi
      rw [Option.map_none, List.getElem?_eq_none_iff]
      omega
    | some header =>
      obtain ⟨found, hfound, hget⟩ := hall i header hi
      rw [hget, Option.map_some, checkHeader_eq_ok hfound]
  rw [hlowercased]

/-- A name finds the header that it finds in the list that the server was given. -/
theorem firstOf?_of_ofParts {method uri : String} {headers : List (String × Octets)}
    {http : HttpRequest} (h : HttpRequest.ofParts method uri headers = .ok http) (name : String) :
    Location.header.firstOf? (http.headers.map headerText) name =
      Location.header.firstOf? (headers.map headerText) name := by
  have hgrouped : http.headers.map headerText =
      Http.groupByName ((headers.map headerText).map lowercased) := by
    rw [headers_of_ofParts h]
    refine (map_groupByName textOfUtf8Lossy _).trans ?_
    rw [List.map_map, List.map_map]
    rfl
  rw [hgrouped, firstOf?_grouped]

/-! ## The first header decides -/

/-- Whether a request goes under an id, and all arguments that are bound from it. -/
def Request.GoesUnder (r : Request) (u : Ulid) : Prop :=
  r.id = u ∧ ∀ ctx op args, (bind ctx op r).result = .ok args → args.requestId = u

theorem Request.goesUnder_of_id (h : r.id = u) : r.GoesUnder u := by
  refine ⟨h, fun ctx op args hargs => ?_⟩
  rw [(result_bind_eq_ok_iff.mp hargs).1, h]

/-- If the first request id header of a request is a written form of an id, the request goes under that
id: a request that is built in any steps, a request taken from a server, and a request from the parts that
a server accepts. The last two ways agree with the first one on the same headers. -/
theorem first_header_decides_id {u : Ulid} (hu : u.bits < 2 ^ 128) {value : String}
    (hvalue : u.Written value) :
    (∀ (own : Ulid) (method target : String) (steps : List RequestStep),
      Location.header.firstOf? (headersOf steps) requestIdHeader = some value →
        ((Request.new own method target).follow steps).GoesUnder u) ∧
    (∀ (fresh : Ulid) (http : HttpRequest) (pathParams : Pairs) (script : List ReadEvent),
      Location.header.firstOf? (http.headers.map headerText) requestIdHeader = some value →
        (Request.ofHttp fresh http pathParams script).value.GoesUnder u) ∧
    ∀ (method uri : String) (headers : List (String × Octets)) (http : HttpRequest),
      HttpRequest.ofParts method uri headers = .ok http →
      Location.header.firstOf? (headers.map headerText) requestIdHeader = some value →
      ∀ (fresh own : Ulid) (pathParams : Pairs) (script : List ReadEvent) (steps : List RequestStep),
        headersOf steps = headers.map headerText →
        (Request.ofHttp fresh http pathParams script).value.GoesUnder u ∧
        ((Request.new own method uri).follow steps).GoesUnder u := by
  have hbuilt : ∀ (own : Ulid) (method target : String) (steps : List RequestStep),
      Location.header.firstOf? (headersOf steps) requestIdHeader = some value →
        ((Request.new own method target).follow steps).GoesUnder u := by
    intro own method target steps hfirst
    have hheeds := Request.Heeds.follow hu steps (heeds_new u own method target)
    have hheader : ((Request.new own method target).follow steps).header? requestIdHeader =
        some value := by
      rw [header?_follow, hfirst]
      rfl
    exact Request.goesUnder_of_id (hheeds value hheader hvalue)
  have hserved : ∀ (fresh : Ulid) (http : HttpRequest) (pathParams : Pairs)
      (script : List ReadEvent),
      Location.header.firstOf? (http.headers.map headerText) requestIdHeader = some value →
        (Request.ofHttp fresh http pathParams script).value.GoesUnder u := by
    intro fresh http pathParams script hfirst
    have hid : (Request.ofHttp fresh http pathParams script).value.id =
        .ofHeader fresh (Location.header.firstOf? (http.headers.map headerText) requestIdHeader) :=
      rfl
    rw [hfirst, Ulid.ofHeader_of_written hu hvalue] at hid
    exact Request.goesUnder_of_id hid
  refine ⟨hbuilt, hserved, ?_⟩
  intro method uri headers http hparts hfirst fresh own pathParams script steps hsteps
  have hhttp : Location.header.firstOf? (http.headers.map headerText) requestIdHeader = some value :=
    (firstOf?_of_ofParts hparts requestIdHeader).trans hfirst
  exact ⟨hserved fresh http pathParams script hhttp, hbuilt own method uri steps (hsteps ▸ hfirst)⟩

/-- Steps with an id in lower case between blanks, other headers around it, and a second id behind it. -/
def tracedSteps : List RequestStep :=
  [.header ⟨1⟩ "Accept" "*", .header ⟨2⟩ "X-Request-ID" " 01arz3ndektsv4rrffq69g5fav\t",
    .body (.ofOctets [0x30]), .pathParam "id" "7", .header ⟨3⟩ "x-request-id" "none"]

def tracedId : Ulid := ⟨0x01563e3ab5d3d6764c61efb99302bd5b⟩

theorem written_tracedId : tracedId.Written " 01arz3ndektsv4rrffq69g5fav\t" := by
  have hfront : ∀ c ∈ " ".toList, isBlank c = true := by
    intro c hc
    obtain rfl := List.mem_singleton.mp hc
    decide
  have hback : ∀ c ∈ "\t".toList, isBlank c = true := by
    intro c hc
    obtain rfl := List.mem_singleton.mp hc
    decide
  have hid : Http.sameName "01arz3ndektsv4rrffq69g5fav" tracedId.text = true := by decide
  exact ⟨" ", "01arz3ndektsv4rrffq69g5fav", "\t", by decide, hfront, hback, hid⟩

theorem tracedSteps_keep_id :
    tracedId.bits < 2 ^ 128 ∧ tracedId.Written " 01arz3ndektsv4rrffq69g5fav\t" ∧
    Location.header.firstOf? (headersOf tracedSteps) requestIdHeader =
      some " 01arz3ndektsv4rrffq69g5fav\t" ∧
    ((Request.new ⟨0⟩ "PUT" "/items/7").follow tracedSteps).GoesUnder tracedId := by
  have hu : tracedId.bits < 2 ^ 128 := by decide
  have hfirst : Location.header.firstOf? (headersOf tracedSteps) requestIdHeader =
      some " 01arz3ndektsv4rrffq69g5fav\t" := by decide
  obtain ⟨hbuilt, -, -⟩ := first_header_decides_id hu written_tracedId
  exact ⟨hu, written_tracedId, hfirst, hbuilt ⟨0⟩ "PUT" "/items/7" tracedSteps hfirst⟩

end RequestBinding
