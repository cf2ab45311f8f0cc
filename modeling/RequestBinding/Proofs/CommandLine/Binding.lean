import RequestBinding.CommandLine.Run
import RequestBinding.Proofs.Request.Building
import RequestBinding.Proofs.Request.Encoding
import RequestBinding.Proofs.Service.Starting

/-!
# Binding from the command line

A command line that describes a request comes to what a service makes of that request. The one thing the
command line does not keep apart is the path pattern of the operation and the query: both go into one
target, which is cut at its first question mark.

1. `PathFlag` and `HeaderFlag` are how flags are written, `GivenBody` is which body the body option
   names.
2. `queryOf_target_of_plain` and `queryOf_target_of_marked` say which pairs the target has, with and
   without a question mark in the pattern.
3. `CommandContext.requestFor` is the request that a command line asks for; `request_eq` says that the
   command makes it, but for the query.
4. `outcome_run` follows a run from the manifest to its output.
-/

namespace RequestBinding

/-! ## Flags -/

/-- Whether a flag is written `name=value`. -/
def PathFlag (text : String) (pair : String × String) : Prop :=
  text = pair.1 ++ "=" ++ pair.2 ∧ '=' ∉ pair.1.toList ∧ pair.1 ≠ ""

/-- Whether a flag is written `name: value`, with blanks around the name and the value. -/
def HeaderFlag (text : String) (pair : String × String) : Prop :=
  ∃ name value, text = name ++ ":" ++ value ∧ ':' ∉ name.toList ∧
    pair = (trimBlanks name, trimBlanks value) ∧ pair.1 ≠ ""

theorem readPathParam_of_flag {text : String} {pair : String × String} (h : PathFlag text pair) :
    readPathParam text = .ok pair := by
  obtain ⟨htext, hname, hne⟩ := h
  have hcut : cutAt? '=' text = some pair := cutAt?_eq_some_iff.mpr ⟨htext, hname⟩
  unfold readPathParam
  rw [hcut, Option.filter_some_pos (by simpa using hne)]

theorem readHeader_of_flag {text : String} {pair : String × String} (h : HeaderFlag text pair) :
    readHeader text = .ok pair := by
  obtain ⟨name, value, htext, hname, rfl, hne⟩ := h
  have hcut : cutAt? ':' text = some (name, value) := cutAt?_eq_some_iff.mpr ⟨htext, hname⟩
  unfold readHeader
  rw [hcut, Option.map_some, Option.filter_some_pos (by simpa using hne)]

/-! ## Bodies -/

/-- The body that the body option of a command names: that of a file, which declares its length, or any
that carries the octets of the input. There is room for a length that the latter declares. -/
inductive GivenBody (ctx : CommandContext) : Option String → Option BodyStream → Prop
  | none : GivenBody ctx none none
  | input {path : String} {stream : BodyStream} (h : namesInput path = true)
      (hcarries : stream.Carries ctx.input)
      (hroom : ∀ n, stream.contentLength = some n → n ≤ Body.maxCapacity) :
      GivenBody ctx (some path) (some stream)
  | file {path : String} {content : Octets} (h : namesInput path = false)
      (hfile : ctx.files path = .ok (.file content)) :
      GivenBody ctx (some path) (some (.ofOctets content))

/-- What is read from the input carries all of it, though it declares no length. -/
theorem carries_input (octets : Octets) :
    ({ script := [.data octets] } : BodyStream).Carries octets where
  unrefused h := Bool.noConfusion h
  delivered := List.append_nil octets
  failure := rfl
  length _ hn := nomatch hn

/-- The body that a command opens is resolved as the one that its option names. -/
theorem openBody_of_givenBody {ctx : CommandContext} {path : String} {given : BodyStream}
    (h : GivenBody ctx (some path) (some given)) :
    ∃ stream, openBody ctx path = .ok stream ∧ ∀ (bctx : BindingContext) (p : Parameter),
      p.resolveBody bctx (some stream) = p.resolveBody bctx (some given) := by
  unfold openBody
  cases h with
  | input hpath hcarries hroom =>
    rw [if_pos hpath]
    refine ⟨_, rfl, fun bctx p => ?_⟩
    have hinput := carries_input ctx.input
    rw [resolveBody_of_carries hinput (fun n hn => nomatch hn), resolveBody_of_carries hcarries hroom]
  | file hpath hcontent =>
    rw [if_neg (by simp [hpath]), hcontent]
    exact ⟨_, rfl, fun bctx p => rfl⟩

/-! ## Queries -/

/-- The query option without the question marks in front. -/
def BindCommand.queryText? (c : BindCommand) : Option String :=
  c.query.map fun q => String.ofList (q.toList.dropWhile (· = '?'))

/-- The pairs of a query, and none without one. -/
def queryPairs (text? : Option String) : Pairs :=
  text?.elim [] fun text => Form.pairs (encodeUtf8 text)

theorem queryOf_of_notMem {path : String} (h : '?' ∉ path.toList) : Form.queryOf path = [] := by
  have hrest : path.toList.dropWhile (· ≠ '?') = [] :=
    List.dropWhile_eq_nil_iff.mpr (decide_ne_of_notMem h)
  unfold Form.queryOf
  rw [hrest, List.drop_nil, encodeUtf8_eq, String.toList_ofList]
  rfl

theorem target_eq (c : BindCommand) (op : Operation) :
    c.target op = c.queryText?.elim op.path fun text => op.path ++ "?" ++ text := by
  unfold BindCommand.target BindCommand.queryText?
  cases c.query <;> rfl

/-- With a pattern without question marks, the target has the pairs of the query. -/
theorem queryOf_target_of_plain {op : Operation} (h : '?' ∉ op.path.toList) (c : BindCommand) :
    Form.queryOf (c.target op) = queryPairs c.queryText? := by
  rw [target_eq]
  cases c.queryText? with
  | none => exact queryOf_of_notMem h
  | some text => exact queryOf_target h text

/-- A question mark in the pattern cuts the target: what follows there belongs to the query, and so does
the mark in front of the query option. -/
theorem queryOf_target_of_marked {op : Operation} {front back : String}
    (h : op.path = front ++ "?" ++ back) (hfront : '?' ∉ front.toList) (c : BindCommand) :
    Form.queryOf (c.target op) =
      queryPairs (some (c.queryText?.elim back fun text => back ++ "?" ++ text)) := by
  rw [target_eq]
  cases c.queryText? with
  | none =>
    rw [Option.elim_none, Option.elim_none, h]
    exact queryOf_target hfront back
  | some text =>
    have hjoined : op.path ++ "?" ++ text = front ++ "?" ++ (back ++ "?" ++ text) := by
      rw [h]
      simp only [String.append_assoc]
    rw [Option.elim_some, Option.elim_some, hjoined]
    exact queryOf_target hfront (back ++ "?" ++ text)

/-! ## Requests -/

/-- Headers in order on a request without headers, which goes under the fresh id. -/
theorem withHeaders_of_bare {fresh : Ulid} {r : Request} (hid : r.id = fresh) (hr : r.headers = [])
    (headers : Pairs) :
    headers.foldl (fun r h => r.withHeader fresh h.1 h.2) r =
      { r with
        id := .ofHeader fresh (Location.header.firstOf? headers requestIdHeader)
        headers := headers.map lowercased } := by
  obtain ⟨id, hfold⟩ := withHeaders_eq fresh headers r
  have hbare : IdFromHeader fresh fresh r := by
    have hnone : r.header? requestIdHeader = none := by
      unfold Request.header?
      rw [hr]
      rfl
    unfold IdFromHeader
    rw [hnone, hid]
  have hkept := hbare.withHeaders headers
  rw [hfold, hr, List.nil_append] at hkept
  rw [hfold, hr, List.nil_append]
  have hfound : Request.header? { r with id, headers := headers.map lowercased } requestIdHeader =
      Location.header.firstOf? headers requestIdHeader := firstOf?_lowercase headers requestIdHeader
  unfold IdFromHeader at hkept
  rw [hfound] at hkept
  have hread : id = .ofHeader fresh (Location.header.firstOf? headers requestIdHeader) := by
    refine Eq.trans hkept ?_
    cases Location.header.firstOf? headers requestIdHeader <;> rfl
  rw [hread]

/-- The request that a command line asks for: the given pairs in their order, under the id in the first
request id header or under a fresh one, with the given body. -/
def CommandContext.requestFor (ctx : CommandContext) (op : Operation)
    (pathParams headers query : Pairs) (body : Option BodyStream) : Request :=
  { id := .ofHeader ctx.fresh (Location.header.firstOf? headers requestIdHeader)
    method := op.method
    path := op.path
    pathParams
    queryParams := query
    headers := headers.map lowercased
    body }

/-- A new request for a target, with path variables and then headers added to it. -/
theorem requestFor_of_target (ctx : CommandContext) (op : Operation) (target : String)
    (pathParams headers : Pairs) :
    headers.foldl (fun r h => r.withHeader ctx.fresh h.1 h.2)
        (pathParams.foldl (fun r q => r.withPathParam q.1 q.2)
          (Request.new ctx.fresh op.method target)) =
      { ctx.requestFor op pathParams headers (Form.queryOf target) none with
        path := Form.pathOf target } := by
  rw [withPathParams_eq]
  refine (withHeaders_of_bare ?_ ?_ headers).trans ?_
  · rfl
  · rfl
  · rfl

section

variable {ctx : CommandContext} {c : BindCommand} {op : Operation} {pathParams headers : Pairs}
  {body : Option BodyStream}

/-- The command makes the request that is asked for, but for the path, and with some body that is
resolved as the given one. -/
theorem request_eq (hpath : List.Forall₂ PathFlag c.pathParams pathParams)
    (hheaders : List.Forall₂ HeaderFlag c.headers headers) (hbody : GivenBody ctx c.body body) :
    ∃ stream?, c.request ctx op = .ok
        { ctx.requestFor op pathParams headers (Form.queryOf (c.target op)) body with
          path := Form.pathOf (c.target op), body := stream? } ∧
      ∀ (bctx : BindingContext) (p : Parameter),
        p.resolveBody bctx stream? = p.resolveBody bctx body := by
  have hparams : c.pathParams.mapM readPathParam = .ok pathParams :=
    mapM_of_forall₂ (hpath.imp fun _ _ => readPathParam_of_flag)
  have hread : c.headers.mapM readHeader = .ok headers :=
    mapM_of_forall₂ (hheaders.imp fun _ _ => readHeader_of_flag)
  unfold BindCommand.request
  rw [hparams, ok_bind, hread, ok_bind]
  dsimp only
  rw [requestFor_of_target]
  generalize c.body = path at hbody
  cases path with
  | none =>
    cases hbody
    exact ⟨none, rfl, fun bctx p => rfl⟩
  | some path =>
    cases body with
    | none => cases hbody
    | some given =>
      obtain ⟨stream, hopen, hresolved⟩ := openBody_of_givenBody hbody
      dsimp only
      rw [hopen, ok_bind]
      exact ⟨some stream, rfl, hresolved⟩

/-- Requests that differ in path and body only bind to the same result, if the bodies are resolved to the
same. -/
theorem result_bind_of_body {bctx : BindingContext} {r : Request} {path : String}
    {stream? : Option BodyStream}
    (hbody : ∀ p : Parameter, p.resolveBody bctx stream? = p.resolveBody bctx r.body) :
    (bind bctx op { r with path, body := stream? }).result = (bind bctx op r).result := by
  refine result_bind_congr rfl (resolve_of_lookup?_eq ?_ hbody)
  intro name l
  cases l <;> rfl

/-! ## Runs -/

theorem exists_document_of_load {files : Files} {path : String} {m : Manifest}
    (h : (Manifest.load files path).value = .ok m) :
    ∃ doc, (buildManifest doc).value = .ok m := by
  unfold Manifest.load at h
  cases htext : files.readText path with
  | error fault =>
    rw [htext] at h
    cases h
  | ok text =>
    simp only [htext, Logged.value_bind] at h
    unfold Manifest.ofText at h
    cases hdoc : ManifestDocument.ofText (.ofPath path) text with
    | error e =>
      rw [hdoc] at h
      cases h
    | ok doc =>
      simp only [hdoc, Logged.value_bind, Logged.value_pure] at h
      cases hbuilt : (buildManifest doc).value with
      | error e =>
        rw [hbuilt] at h
        cases h
      | ok built =>
        rw [hbuilt] at h
        obtain rfl : built = m := Except.ok.inj h
        exact ⟨doc, hbuilt⟩

/-- Loading a file that holds a text is reading the text in the format that its name tells. -/
theorem load_of_text {files : Files} {path text : String} {format : DocumentFormat}
    (hformat : DocumentFormat.ofPath path = format)
    (hfile : files path = .ok (.file (encodeUtf8 text))) {m : Manifest}
    (hm : (Manifest.ofText format text).value = .ok m) :
    (Manifest.load files path).value = .ok m := by
  have hread : files.readText path = .ok text := by
    unfold Files.readText
    rw [hfile, ok_bind]
    dsimp only
    rw [textOfUtf8?_encodeUtf8]
  unfold Manifest.load
  rw [hread]
  dsimp only
  rw [Logged.value_bind, hformat, hm]
  rfl

/-- What a command comes to by what binding gives: the report and success, the client's error and the
exit code of a rejection, an error of the command, or the panic that broke binding off. -/
inductive Outcome (op : Operation) :
    Except Stop Arguments → Except CommandError CommandOutput → Prop
  | bound (args : Arguments) : Outcome op (.ok args) (.ok ⟨BindCommand.report args, 0⟩)
  | rejected {e : BindingError} (h : e.isClientError = true) :
      Outcome op (.error (.failed e)) (.ok ⟨"400 Bad Request: " ++ e.message ++ "\n", 2⟩)
  | failed {e : BindingError} (h : e.isClientError = false) :
      Outcome op (.error (.failed e)) (.error (.binding op.id e))
  | brokenOff (text : String) : Outcome op (.error (.panicked text)) (.error (.panicked text))

theorem outcome_conclude (op : Operation) (result : Except Stop Arguments) :
    Outcome op result (BindCommand.conclude op result) := by
  rcases result with (e | text) | args
  · unfold BindCommand.conclude
    cases he : e.isClientError with
    | true =>
      have hstatus : e.status = 400 := by
        cases e <;> first | rfl | cases he
      dsimp only
      rw [if_pos he, hstatus]
      exact .rejected he
    | false =>
      dsimp only
      rw [if_neg (by simp [he])]
      exact .failed he
  · exact .brokenOff text
  · exact .bound args

/-- The settings under which a command starts a service. -/
def BindCommand.settings (c : BindCommand) (ctx : CommandContext) : ServiceSettings :=
  { config := .ofEnvironment ctx.environment, maxBodyOctets := c.maxBodyOctets }

/-- A command whose manifest loads and whose service starts binds its request to its operation. -/
theorem value_run {m : Manifest} {s : Service} {r : Request}
    (hm : (Manifest.load ctx.files c.manifest).value = .ok m)
    (hs : (Service.build (c.settings ctx) m).value = .ok s)
    (hop : op ∈ m.operations) (hid : op.id = c.operation) (hr : c.request ctx op = .ok r) :
    (c.run ctx).value = BindCommand.conclude op (s.bind op r).result := by
  obtain ⟨doc, hdoc⟩ := exists_document_of_load hm
  have hids := nodup_ids_of_buildManifest hdoc
  have hfound : s.operation? c.operation = some op := by
    rw [operation?_eq_of_nodup (buildWith_eq_ok hs).1 hids, Manifest.operation?_eq_some_iff hids]
    exact ⟨hop, hid⟩
  unfold BindCommand.settings at hs
  unfold BindCommand.run
  simp only [Logged.value_bind, hm, hs]
  unfold BindCommand.bindWith
  simp only [hfound, hr]

/-- The outcome of a run is that of binding the request that is asked for, with the pairs that the target
has. -/
theorem outcome_run {m : Manifest} {s : Service}
    (hm : (Manifest.load ctx.files c.manifest).value = .ok m)
    (hs : (Service.build (c.settings ctx) m).value = .ok s)
    (hop : op ∈ m.operations) (hid : op.id = c.operation)
    (hpath : List.Forall₂ PathFlag c.pathParams pathParams)
    (hheaders : List.Forall₂ HeaderFlag c.headers headers) (hbody : GivenBody ctx c.body body)
    {query : Pairs} (hquery : Form.queryOf (c.target op) = query) :
    Outcome op (s.bind op (ctx.requestFor op pathParams headers query body)).result
      (c.run ctx).value := by
  obtain ⟨stream?, hrequest, hstream⟩ := request_eq hpath hheaders hbody
  rw [hquery] at hrequest
  have hsame : (s.bind op
        { ctx.requestFor op pathParams headers query body with
          path := Form.pathOf (c.target op), body := stream? }).result =
      (s.bind op (ctx.requestFor op pathParams headers query body)).result :=
    result_bind_of_body (hstream s.context)
  rw [value_run hm hs hop hid hrequest, hsame]
  exact outcome_conclude op _

end

/-- If its manifest loads, its service starts and its flags are well written, a command comes to what the
service makes of the request that holds the given pairs and the given body: its report on success, a
message and the exit code of a rejection on a client's error, and an error otherwise. The query pairs are
those of the query option, as long as the path pattern has no question mark. With one, the text behind it
comes in front of the query. -/
theorem run_binds_request {ctx : CommandContext} {c : BindCommand} {m : Manifest} {s : Service}
    {op : Operation} {pathParams headers : Pairs} {body : Option BodyStream}
    (hm : (Manifest.load ctx.files c.manifest).value = .ok m)
    (hs : (Service.build (c.settings ctx) m).value = .ok s)
    (hop : op ∈ m.operations) (hid : op.id = c.operation)
    (hpath : List.Forall₂ PathFlag c.pathParams pathParams)
    (hheaders : List.Forall₂ HeaderFlag c.headers headers) (hbody : GivenBody ctx c.body body) :
    s.maxBodyOctets = c.maxBodyOctets.getD
      (m.maxBodyOctets.getD (RuntimeConfig.ofEnvironment ctx.environment).maxBodyOctets) ∧
    ('?' ∉ op.path.toList →
      Outcome op
        (s.bind op (ctx.requestFor op pathParams headers (queryPairs c.queryText?) body)).result
        (c.run ctx).value) ∧
    ∀ front back, op.path = front ++ "?" ++ back → '?' ∉ front.toList →
      let query := queryPairs (some (c.queryText?.elim back fun text => back ++ "?" ++ text))
      Outcome op (s.bind op (ctx.requestFor op pathParams headers query body)).result
        (c.run ctx).value := by
  refine ⟨?_, fun hplain => ?_, fun front back hmarked hfront => ?_⟩
  · obtain ⟨-, -, -, hlimit⟩ := buildWith_eq_ok hs
    rw [hlimit]
    unfold Service.limitOf BindCommand.settings
    cases c.maxBodyOctets <;> rfl
  · exact outcome_run hm hs hop hid hpath hheaders hbody (queryOf_target_of_plain hplain c)
  · exact outcome_run hm hs hop hid hpath hheaders hbody (queryOf_target_of_marked hmarked hfront c)

/-! ## Two manifests -/

/-- How a manifest without schemas and without a limit is known by its parts. -/
theorem eq_ok_of_any {result : Except LoadError Manifest} {ops : List Operation}
    (h : result.toOption.any (fun m =>
      m.operations = ops && m.schemas.isEmpty && m.maxBodyOctets.isNone) = true) :
    result = .ok { operations := ops } := by
  cases result with
  | error e => cases h
  | ok m =>
    obtain ⟨operations, schemas, limit⟩ := m
    simp only [Except.toOption, Option.any_some, Bool.and_eq_true, decide_eq_true_eq,
      List.isEmpty_iff, Option.isNone_iff_eq_none] at h
    obtain ⟨⟨rfl, rfl⟩, rfl⟩ := h
    rfl

/-- An operation that reads a variable, the query and a body. -/
def storeOperation : Operation := ⟨"store", "PUT", "/items/\x7bid\x7d",
  [{ name := "id", location := .path, type := .int64 },
    { name := "tag", location := .query, type := .string },
    { name := "item", location := .body, type := .object }]⟩

def storeText : String :=
  "\x7b\"operations\":[\x7b\"operation_id\":\"store\",\"method\":\"put\",\"path\":\"/items/\x7bid\x7d\"," ++
  "\"parameters\":[\x7b\"name\":\"id\",\"in\":\"path\",\"type\":\"integer\"\x7d," ++
  "\x7b\"name\":\"tag\",\"in\":\"query\",\"type\":\"string\"\x7d,\x7b\"name\":\"item\",\"in\":\"body\"\x7d]\x7d]\x7d"

theorem ofText_storeText :
    (Manifest.ofText .json storeText).value = .ok { operations := [storeOperation] } :=
  eq_ok_of_any (by decide +kernel)

/-- A command that stores a body of two octets under a limit of eight. -/
theorem run_stores_item :
    let ctx : CommandContext :=
      { files := fun path => .ok (.file (if path = "m.json" then encodeUtf8 storeText else [0x7b, 0x7d]))
        fresh := ⟨0⟩ }
    let c : BindCommand :=
      { manifest := "m.json", operation := "store", pathParams := ["id=7"], query := some "??tag=a+b"
        headers := ["X-Trace : 1"], body := some "item.json", maxBodyOctets := some 8 }
    let m : Manifest := { operations := [storeOperation] }
    let s : Service := { operations := [storeOperation], schemas := [], maxBodyOctets := 8 }
    let r := ctx.requestFor storeOperation [("id", "7")] [("X-Trace", "1")] [("tag", "a b")]
      (some (.ofOctets [0x7b, 0x7d]))
    (Manifest.load ctx.files c.manifest).value = .ok m ∧
      (Service.build (c.settings ctx) m).value = .ok s ∧
      storeOperation ∈ m.operations ∧ storeOperation.id = c.operation ∧
      List.Forall₂ PathFlag c.pathParams [("id", "7")] ∧
      List.Forall₂ HeaderFlag c.headers [("X-Trace", "1")] ∧
      GivenBody ctx c.body (some (.ofOctets [0x7b, 0x7d])) ∧
      ∃ args, (s.bind storeOperation r).result = .ok args ∧
        (c.run ctx).value = .ok ⟨BindCommand.report args, 0⟩ := by
  intro ctx c m s r
  have hm : (Manifest.load ctx.files c.manifest).value = .ok m :=
    load_of_text (by decide +kernel) rfl ofText_storeText
  have hs : (Service.build (c.settings ctx) m).value = .ok s := by rfl
  have hop : storeOperation ∈ m.operations := List.mem_singleton.mpr rfl
  have hpath : List.Forall₂ PathFlag c.pathParams [("id", "7")] :=
    .cons ⟨by decide, by decide, by decide⟩ .nil
  have hheaders : List.Forall₂ HeaderFlag c.headers [("X-Trace", "1")] :=
    .cons ⟨"X-Trace ", " 1", by decide, by decide, by decide, by decide⟩ .nil
  have hbody : GivenBody ctx c.body (some (.ofOctets [0x7b, 0x7d])) :=
    .file (by decide +kernel) rfl
  have hquery : queryPairs c.queryText? = [("tag", "a b")] := by
    change Form.pairs (encodeUtf8 "tag=a+b") = _
    rw [encodeUtf8_eq]
    decide +kernel
  obtain ⟨-, hplain, -⟩ := run_binds_request hm hs hop rfl hpath hheaders hbody
  have hrun := hplain (by decide)
  rw [hquery] at hrun
  have hok : (s.bind storeOperation r).result.toOption.isSome = true := by
    unfold Service.bind
    rw [result_bind_eq_mapM]
    decide +kernel
  cases hbound : (s.bind storeOperation r).result with
  | ok args =>
    rw [hbound] at hrun
    generalize (c.run ctx).value = value at hrun
    cases hrun
    exact ⟨hm, hs, hop, rfl, hpath, hheaders, hbody, args, rfl, rfl⟩
  | error e =>
    rw [hbound] at hok
    cases hok

/-- An operation with a question mark in its path pattern. -/
def markedOperation : Operation := ⟨"search", "GET", "/items?kind=all",
  [{ name := "limit", location := .query, required := true, type := .int64 }]⟩

def markedText : String :=
  "\x7b\"operations\":[\x7b\"operation_id\":\"search\",\"method\":\"GET\",\"path\":\"/items?kind=all\"," ++
  "\"parameters\":[\x7b\"name\":\"limit\",\"in\":\"query\",\"required\":true,\"type\":\"integer\"\x7d]\x7d]\x7d"

theorem ofText_markedText :
    (Manifest.ofText .json markedText).value = .ok { operations := [markedOperation] } :=
  eq_ok_of_any (by decide +kernel)

/-- With a question mark in the pattern, a command misses a query that its own option gives. -/
theorem marked_pattern_hides_query :
    let ctx : CommandContext := { files := fun _ => .ok (.file (encodeUtf8 markedText)), fresh := ⟨0⟩ }
    let c : BindCommand := { manifest := "m.json", operation := "search", query := some "limit=5" }
    let m : Manifest := { operations := [markedOperation] }
    let s : Service := { operations := [markedOperation], schemas := [], maxBodyOctets := 1048576 }
    let r := ctx.requestFor markedOperation [] [] (queryPairs c.queryText?) none
    (Manifest.load ctx.files c.manifest).value = .ok m ∧
      (Service.build (c.settings ctx) m).value = .ok s ∧
      markedOperation ∈ m.operations ∧ markedOperation.id = c.operation ∧
      (∃ args, (s.bind markedOperation r).result = .ok args) ∧
      (c.run ctx).value = .ok ⟨"400 Bad Request: Parameter 'limit' expected in query\n", 2⟩ ∧
      ¬ Outcome markedOperation (s.bind markedOperation r).result (c.run ctx).value := by
  intro ctx c m s r
  have hm : (Manifest.load ctx.files c.manifest).value = .ok m :=
    load_of_text (by decide +kernel) rfl ofText_markedText
  have hs : (Service.build (c.settings ctx) m).value = .ok s := by rfl
  have hop : markedOperation ∈ m.operations := List.mem_singleton.mpr rfl
  have hgiven : queryPairs c.queryText? = [("limit", "5")] := by
    change Form.pairs (encodeUtf8 "limit=5") = _
    rw [encodeUtf8_eq]
    decide +kernel
  have hcarried : Form.queryOf (c.target markedOperation) = [("kind", "all?limit=5")] := by
    have hpattern : markedOperation.path = "/items" ++ "?" ++ "kind=all" := by decide
    rw [queryOf_target_of_marked hpattern (by decide)]
    change Form.pairs (encodeUtf8 "kind=all?limit=5") = _
    rw [encodeUtf8_eq]
    decide +kernel
  have hbound : ∃ args, (s.bind markedOperation r).result = .ok args := by
    unfold Service.bind r
    rw [result_bind_eq_mapM, hgiven]
    exact ⟨_, rfl⟩
  have hmissing : (s.bind markedOperation
      (ctx.requestFor markedOperation [] [] [("kind", "all?limit=5")] none)).result =
      .error (.failed (.missing "limit" .query)) := by
    unfold Service.bind
    rw [result_bind_eq_mapM]
    rfl
  have hrun := outcome_run hm hs hop rfl .nil .nil .none hcarried
  rw [hmissing] at hrun
  have hvalue : (c.run ctx).value =
      .ok ⟨"400 Bad Request: Parameter 'limit' expected in query\n", 2⟩ := by
    generalize (c.run ctx).value = value at hrun
    cases hrun with
    | rejected h => decide
    | failed h => cases h
  refine ⟨hm, hs, hop, rfl, hbound, hvalue, fun hclaim => ?_⟩
  obtain ⟨args, hargs⟩ := hbound
  rw [hargs, hvalue] at hclaim
  have hcode : ∀ out, Outcome markedOperation (.ok args) (.ok out) → out.exitCode = 0 := by
    intro out hout
    cases hout
    rfl
  exact absurd (hcode _ hclaim) (by decide)

end RequestBinding
