import RequestBinding.Proofs.Binding.Outcome
import RequestBinding.Proofs.Request.Server

/-!
# Two ways to a request

A request is taken from a server, or built piece by piece. The server brings the headers of one name
together and always hands over a stream, with the length that a header states; a builder keeps the order
of the headers and leaves out an empty body. Both ways bind to the same result.

1. `Pieces.built` builds a request, `Pieces.built_eq` says what it holds.
2. `IdFromHeader` is what one header after the other keeps true of the request id.
3. `ofHttp_of_parts` says what the request from a server holds.
4. `resolveBody_of_carries_eq`: a stream without octets is no body, and any other is its octets.
-/

namespace RequestBinding

/-- What a caller makes a request of. -/
structure Pieces where
  method : String
  target : String
  headers : Pairs
  pathParams : Pairs
  body : Octets

/-- The length that a content length header states. -/
def statedLength? (value : String) : Option ℕ :=
  (readNat 10 maxSize (trimBlanks value).toList).toOption

namespace Pieces

/-- Pieces that a server accepts, with a target that starts at the root and without a wrong length. The
octets of the body are at hand, so there is room for them. -/
structure Valid (b : Pieces) : Prop where
  method : Http.isToken b.method = true
  rooted : b.target.toList.head? = some '/'
  noFragment : '#' ∉ b.target.toList
  target : ∃ target, Http.targetOfUri b.target = .ok target
  headers : ∀ h ∈ b.headers, Http.isToken h.1 = true ∧ Http.isHeaderValue (encodeUtf8 h.2) = true
  lengths : ∀ h ∈ b.headers, Http.sameName h.1 "content-length" = true →
    ∀ n, statedLength? h.2 = some n → n = b.body.length
  room : b.body.length ≤ Body.maxCapacity

/-- The request built piece by piece. A new request gets the id `own`, and a request id header that
cannot be read the id `minted`; an empty body is left out. -/
def built (own minted : Ulid) (b : Pieces) : Request :=
  let r := Request.new own b.method b.target
  let r := b.headers.foldl (fun r h => r.withHeader minted h.1 h.2) r
  let r := b.pathParams.foldl (fun r q => r.withPathParam q.1 q.2) r
  if b.body = [] then r else r.withBody (.ofOctets b.body)

/-- A request that holds the pieces, with some headers and some body in place of theirs. -/
def content (b : Pieces) (id : Ulid) (headers : Pairs) (body : Option BodyStream) : Request :=
  { id, method := b.method, path := Form.pathOf b.target, pathParams := b.pathParams
    queryParams := Form.queryOf b.target, headers, body }

/-- The pieces as a server checks them, with octets as values. -/
def parts (b : Pieces) : Except HttpFault HttpRequest :=
  HttpRequest.ofParts b.method b.target (b.headers.map fun h => (h.1, encodeUtf8 h.2))

/-- The id in the first request id header, if it can be read. -/
def requestId? (b : Pieces) : Option Ulid :=
  (Location.header.firstOf? b.headers requestIdHeader).bind fun value =>
    (Ulid.read (trimBlanks value)).toOption

/-- The length that the first content length header states. -/
def contentLength? (b : Pieces) : Option ℕ :=
  (Location.header.firstOf? b.headers "content-length").bind statedLength?

end Pieces

/-! ## Built requests -/

theorem withHeaders_eq (minted : Ulid) (headers : Pairs) : ∀ r : Request, ∃ id,
    headers.foldl (fun r h => r.withHeader minted h.1 h.2) r =
      { r with id, headers := r.headers ++ headers.map lowercased } := by
  induction headers with
  | nil =>
    intro r
    exact ⟨r.id, by rw [List.foldl_nil, List.map_nil, List.append_nil]⟩
  | cons h headers ih =>
    intro r
    obtain ⟨id, hrest⟩ := ih (r.withHeader minted h.1 h.2)
    refine ⟨id, ?_⟩
    rw [List.foldl_cons, hrest, List.map_cons, List.append_cons]
    rfl

theorem withPathParams_eq (pairs : Pairs) : ∀ r : Request,
    pairs.foldl (fun r q => r.withPathParam q.1 q.2) r =
      { r with pathParams := r.pathParams ++ pairs } := by
  induction pairs with
  | nil =>
    intro r
    rw [List.foldl_nil, List.append_nil]
  | cons q pairs ih =>
    intro r
    rw [List.foldl_cons, ih, List.append_cons]
    rfl

/-- Whether the id of a request is that in its first request id header, its own without such a header,
and a minted one when the header cannot be read. -/
def IdFromHeader (own minted : Ulid) (r : Request) : Prop :=
  r.id = match r.header? requestIdHeader with
    | none => own
    | some value => .ofHeader minted (some value)

variable {own minted : Ulid} {r : Request}

theorem header?_withHeader (minted : Ulid) (r : Request) (name value sought : String) :
    (r.withHeader minted name value).header? sought =
      (r.header? sought).or
        (if Http.lowercase name = Http.lowercase sought then some value else none) := by
  have hfirst := Location.firstOf?_append .header r.headers [(Http.lowercase name, value)] sought
  rw [Location.firstOf?_cons] at hfirst
  have hkey : Location.header.key (Http.lowercase name) = Http.lowercase name :=
    lowercase_lowercase name
  rw [hkey] at hfirst
  exact hfirst

theorem IdFromHeader.withHeader (h : IdFromHeader own minted r) (name value : String) :
    IdFromHeader own minted (r.withHeader minted name value) := by
  have hid : Http.lowercase requestIdHeader = requestIdHeader := by decide
  unfold IdFromHeader at h ⊢
  rw [header?_withHeader, hid]
  unfold Request.withHeader
  cases hheader : r.header? requestIdHeader with
  | some first =>
    rw [hheader] at h
    simpa [hheader] using h
  | none =>
    rw [hheader] at h
    by_cases hname : Http.lowercase name = requestIdHeader
    · simp [hname]
    · simpa [hname] using h

theorem IdFromHeader.withHeaders (headers : Pairs) : ∀ {r : Request}, IdFromHeader own minted r →
    IdFromHeader own minted (headers.foldl (fun r h => r.withHeader minted h.1 h.2) r) := by
  induction headers with
  | nil => exact fun h => h
  | cons h headers ih => exact fun hr => ih (hr.withHeader h.1 h.2)

/-- A header gives the id that can be read in it. -/
theorem ofHeader_eq_getD (fresh : Ulid) (value : Option String) :
    Ulid.ofHeader fresh value =
      (value.bind fun v => (Ulid.read (trimBlanks v)).toOption).getD fresh := by
  cases value with
  | none => rfl
  | some v =>
    unfold Ulid.ofHeader
    dsimp only [Option.bind_some]
    cases Ulid.read (trimBlanks v) <;> rfl

/-- What a request built piece by piece holds. -/
theorem Pieces.built_eq (own minted : Ulid) (b : Pieces) : ∃ id,
    b.built own minted = b.content id (b.headers.map lowercased)
      (if b.body = [] then none else some (.ofOctets b.body)) ∧
    (id = b.requestId?.getD own ∨ id = b.requestId?.getD minted) := by
  obtain ⟨id, hheaders⟩ := withHeaders_eq minted b.headers (.new own b.method b.target)
  have hid : IdFromHeader own minted
      (b.headers.foldl (fun r h => r.withHeader minted h.1 h.2) (.new own b.method b.target)) :=
    IdFromHeader.withHeaders b.headers rfl
  rw [hheaders] at hid
  refine ⟨id, ?_, ?_⟩
  · unfold Pieces.built
    dsimp only
    rw [hheaders, withPathParams_eq]
    split_ifs <;> rfl
  · have hfound : Request.header?
        { Request.new own b.method b.target with
          id, headers := (Request.new own b.method b.target).headers ++ b.headers.map lowercased }
        requestIdHeader = Location.header.firstOf? b.headers requestIdHeader :=
      firstOf?_lowercase b.headers requestIdHeader
    unfold IdFromHeader at hid
    rw [hfound] at hid
    unfold Pieces.requestId?
    cases hvalue : Location.header.firstOf? b.headers requestIdHeader with
    | none =>
      rw [hvalue] at hid
      exact .inl hid
    | some value =>
      rw [hvalue] at hid
      exact .inr (hid.trans (ofHeader_eq_getD minted (some value)))

/-! ## Requests from a server -/

variable {b : Pieces}

/-- The headers that a request holds when it is taken from a server. -/
theorem headers_of_parts (headers : Pairs) :
    (Http.groupByName ((headers.map fun h => (h.1, encodeUtf8 h.2)).map lowercased)).map
        (fun h => (h.1, textOfUtf8Lossy h.2)) =
      Http.groupByName (headers.map lowercased) := by
  rw [map_groupByName, List.map_map, List.map_map]
  congr 1
  apply List.map_congr_left
  intro h _
  exact Prod.ext rfl (textOfUtf8Lossy_encodeUtf8 h.2)

/-- A header is found as it was sent, whatever the order and the case of names a server gives it. -/
theorem firstOf?_grouped (headers : Pairs) (name : String) :
    Location.header.firstOf? (Http.groupByName (headers.map lowercased)) name =
      Location.header.firstOf? headers name := by
  have hkeys : ∀ q ∈ headers.map lowercased, Location.header.key q.1 = q.1 := by
    intro q hq
    obtain ⟨h, -, rfl⟩ := List.mem_map.mp hq
    exact lowercase_lowercase h.1
  rw [firstOf?_groupByName hkeys, firstOf?_lowercase]

/-- Valid pieces are accepted by a server; what the request taken from it holds. -/
theorem ofHttp_of_parts (hb : b.Valid) (fresh : Ulid) (script : List ReadEvent) : ∃ http,
    b.parts = .ok http ∧ (Request.ofHttp fresh http b.pathParams script).value =
      b.content (b.requestId?.getD fresh) (Http.groupByName (b.headers.map lowercased))
        (some { script, contentLength := b.contentLength? }) := by
  obtain ⟨target, htarget⟩ := hb.target
  obtain rfl := targetOfUri_of_rooted hb.rooted hb.noFragment htarget
  have hheaders : ∀ h ∈ b.headers.map (fun h => (h.1, encodeUtf8 h.2)),
      Http.isToken h.1 = true ∧ Http.isHeaderValue h.2 = true := by
    intro h hh
    obtain ⟨sent, hsent, rfl⟩ := List.mem_map.mp hh
    exact hb.headers sent hsent
  refine ⟨_, ofParts_eq_ok hb.method htarget hheaders, ?_⟩
  have hfound : ∀ name (r : Request), r.headers = Http.groupByName (b.headers.map lowercased) →
      r.header? name = Location.header.firstOf? b.headers name := by
    intro name r hr
    rw [← firstOf?_grouped, ← hr]
    rfl
  have hgrouped := headers_of_parts b.headers
  unfold Request.ofHttp
  dsimp only
  simp only [hgrouped]
  rw [hfound _ _ rfl, hfound _ _ rfl, ofHeader_eq_getD]
  rfl

/-- A content length header of valid pieces can only state the length of the body. -/
theorem Pieces.Valid.contentLength (hb : b.Valid) {n : ℕ} (h : b.contentLength? = some n) :
    n = b.body.length := by
  obtain ⟨value, hvalue, hn⟩ := Option.bind_eq_some_iff.mp h
  obtain ⟨header, hheader, hkey, rfl⟩ := Location.exists_mem_of_firstOf?_eq_some hvalue
  exact hb.lengths header hheader (Http.sameName_iff.mpr hkey) n hn

/-! ## Binding -/

/-- A body that a stream carries whole is resolved by its octets, if there is room for a length that the
stream declares. -/
theorem resolveBody_of_carries {stream : BodyStream} {octets : Octets} (hs : stream.Carries octets)
    (hroom : ∀ n, stream.contentLength = some n → n ≤ Body.maxCapacity) (ctx : BindingContext)
    (p : Parameter) :
    p.resolveBody ctx (some stream) =
      if ctx.maxBodyOctets < octets.length then .error (.failed (.bodyTooLarge ctx.maxBodyOctets))
      else p.ofPayload ctx octets := by
  have hdeclared : ¬ (stream.contentLength.isSome ∧ Body.maxCapacity < octets.length) := by
    rintro ⟨hsome, hover⟩
    obtain ⟨n, hn⟩ := Option.isSome_iff_exists.mp hsome
    exact Nat.not_lt.mpr (hroom n hn) (hs.length n hn ▸ hover)
  unfold Parameter.resolveBody
  dsimp only
  split_ifs with hlimit
  · rw [Body.result_of_carries_of_lt hs hlimit, error_bind]
  · rw [Body.result_of_carries_of_le hs (Nat.not_lt.mp hlimit), if_neg hdeclared, ok_bind]

/-- A stream without octets is resolved as no body, and any other as the octets at hand. -/
theorem resolveBody_of_carries_eq {stream : BodyStream} {octets : Octets}
    (hs : stream.Carries octets) (hroom : octets.length ≤ Body.maxCapacity) (ctx : BindingContext)
    (p : Parameter) :
    p.resolveBody ctx (some stream) =
      p.resolveBody ctx (if octets = [] then none else some (.ofOctets octets)) := by
  have hgiven := carries_ofOctets octets
  have hresolved := resolveBody_of_carries hgiven (fun n hn => (hgiven.length n hn).trans_le hroom) ctx p
  rw [resolveBody_of_carries hs fun n hn => (hs.length n hn).trans_le hroom]
  split_ifs with hlimit hempty hempty
  · subst hempty
    exact absurd hlimit (Nat.not_lt_zero _)
  · rw [hresolved, if_pos hlimit]
  · exact if_pos hempty
  · rw [hresolved, if_neg hlimit]

/-- Parameters are resolved by what headers find and what the body is resolved to. -/
theorem resolve_content_congr {op : Operation} {ctx : BindingContext} {id id' : Ulid}
    {headers headers' : Pairs} {body body' : Option BodyStream}
    (hheaders : ∀ name, Location.header.firstOf? headers name = Location.header.firstOf? headers' name)
    (hbody : ∀ p : Parameter, p.resolveBody ctx body = p.resolveBody ctx body') (i : ℕ)
    (p : Parameter) :
    op.resolve ctx (b.content id headers body) i p =
      op.resolve ctx (b.content id' headers' body') i p := by
  have hlookup : ∀ name l, (b.content id headers body).lookup? name l =
      (b.content id' headers' body').lookup? name l := by
    intro name l
    cases l with
    | path => rfl
    | query => rfl
    | body => rfl
    | header => exact hheaders name
  exact resolve_of_lookup?_eq hlookup hbody i p

/-- A request from a server, whatever its reader makes of the octets of the body, binds to the same
result as the request that is built from the same pieces. They have one id if the first request id header
can be read, and ids of their own if not. -/
theorem served_binds_as_built (hb : b.Valid) {script : List ReadEvent}
    (hbody : delivered script = b.body) (hfailure : failureOf? script = none)
    (fresh own minted : Ulid) :
    ∃ http, b.parts = .ok http ∧
      let served := (Request.ofHttp fresh http b.pathParams script).value
      let built := b.built own minted
      (∀ ctx op, (bind ctx op built).result =
        (bind ctx op served).result.map fun args => { args with requestId := built.id }) ∧
      served.id = b.requestId?.getD fresh ∧
      (built.id = b.requestId?.getD own ∨ built.id = b.requestId?.getD minted) := by
  obtain ⟨http, hparts, hserved⟩ := ofHttp_of_parts hb fresh script
  obtain ⟨id, hbuilt, hid⟩ := b.built_eq own minted
  have hcarries : ({ script, contentLength := b.contentLength? } : BodyStream).Carries b.body :=
    ⟨fun h => Bool.noConfusion h, hbody, hfailure, fun _ => hb.contentLength⟩
  have hheaders : ∀ name,
      Location.header.firstOf? (Http.groupByName (b.headers.map lowercased)) name =
        Location.header.firstOf? (b.headers.map lowercased) name :=
    fun name => (firstOf?_grouped b.headers name).trans (firstOf?_lowercase b.headers name).symm
  refine ⟨http, hparts, ?_⟩
  rw [hserved, hbuilt]
  refine ⟨fun ctx op => ?_, rfl, hid⟩
  apply result_bind_of_resolve_eq
  exact resolve_content_congr hheaders (resolveBody_of_carries_eq hcarries hb.room ctx)

/-- A request to post an object of two octets, with a length and an id. -/
def posted : Pieces :=
  { method := "POST", target := "/a?n=1", pathParams := [("id", "7")], body := [0x7b, 0x7d]
    headers := [("Content-Length", "2"), ("X-Request-Id", "01ARZ3NDEKTSV4RRFFQ69G5FAV")] }

theorem valid_posted : posted.Valid where
  method := by decide
  rooted := by decide
  noFragment := by decide
  target := by
    refine ⟨"/a?n=1", ?_⟩
    unfold Http.targetOfUri
    rw [encodeUtf8_eq]
    decide +kernel
  headers := by
    simp only [encodeUtf8_eq]
    decide +kernel
  lengths := by
    have hlength : statedLength? "2" = some 2 := by decide
    intro h hh hname n hn
    rcases List.mem_cons.mp hh with rfl | hh
    · exact (Option.some.inj (hlength.symm.trans hn)).symm
    · obtain rfl := List.mem_singleton.mp hh
      exact absurd hname (by decide)
  room := by decide

theorem posted_served_binds_as_built :
    ∃ http, posted.parts = .ok http ∧
      let script : List ReadEvent := [.data [0x7b], .interrupted, .data [0x7d]]
      let served := (Request.ofHttp ⟨1⟩ http posted.pathParams script).value
      let built := posted.built ⟨2⟩ ⟨3⟩
      (∀ ctx op, (bind ctx op built).result =
        (bind ctx op served).result.map fun args => { args with requestId := built.id }) ∧
      served.id = built.id := by
  have hid : posted.requestId?.isSome = true := by decide +kernel
  have hbody : delivered [.data [0x7b], .interrupted, .data [0x7d]] = posted.body := rfl
  obtain ⟨http, hparts, hresult, hserved, hbuilt⟩ :=
    served_binds_as_built valid_posted hbody rfl ⟨1⟩ ⟨2⟩ ⟨3⟩
  refine ⟨http, hparts, hresult, ?_⟩
  obtain ⟨u, hu⟩ := Option.isSome_iff_exists.mp hid
  rw [hu] at hserved hbuilt
  rcases hbuilt with hbuilt | hbuilt
  · exact hserved.trans hbuilt.symm
  · exact hserved.trans hbuilt.symm

end RequestBinding
