import RequestBinding.Parameter
import RequestBinding.Decimal.Integer
import RequestBinding.Log.Event
import RequestBinding.Request.Ulid
import RequestBinding.Request.Form
import RequestBinding.Request.Http
import RequestBinding.Request.BodyStream

/-!
# Requests

A request holds what parameters are read from: path variables, query pairs and headers in order, and
perhaps a body. The first pair of a name counts; header names are compared without letter case.
-/

namespace RequestBinding

abbrev Pairs := List (String × String)

structure Request where
  id : Ulid
  method : String
  path : String
  pathParams : Pairs := []
  queryParams : Pairs := []
  headers : Pairs := []
  body : Option BodyStream := none
deriving Repr

/-- A request as a server hands it over: method, target and headers with octets as values. -/
structure HttpRequest where
  method : String
  target : String
  headers : List (String × Octets)

namespace HttpRequest

def checkHeader (name : String) (value : Octets) : Except HttpFault (String × Octets) :=
  if !Http.isToken name then .error .invalidHeaderName
  else if !Http.isHeaderValue value then .error .invalidHeaderValue
  else .ok (Http.lowercase name, value)

/-- Checks method, URI and headers in this order; header names become lower case. -/
def ofParts (method uri : String) (headers : List (String × Octets)) :
    Except HttpFault HttpRequest := do
  if !Http.isToken method then .error .invalidMethod
  let target ← Http.targetOfUri uri
  let headers ← headers.mapM fun (name, value) => checkHeader name value
  return ⟨method, target, Http.groupByName headers⟩

end HttpRequest

namespace Request

def new (fresh : Ulid) (method target : String) : Request :=
  { id := fresh, method, path := Form.pathOf target, queryParams := Form.queryOf target }

def pathParam? (r : Request) (name : String) : Option String := r.pathParams.lookup name

def queryParam? (r : Request) (name : String) : Option String := r.queryParams.lookup name

/-- The first header of a name in any letter case. -/
def header? (r : Request) (name : String) : Option String :=
  (r.headers.find? fun (n, _) => Http.sameName n name).map Prod.snd

/-- The text of a parameter at a location; bodies have none. -/
def lookup? (r : Request) (name : String) : Location → Option String
  | .path => r.pathParam? name
  | .query => r.queryParam? name
  | .header => r.header? name
  | .body => none

def withPathParam (r : Request) (name value : String) : Request :=
  { r with pathParams := r.pathParams ++ [(name, value)] }

/-- Adds a header under its name in lower case. The first request id header sets the request id. -/
def withHeader (fresh : Ulid) (r : Request) (name value : String) : Request :=
  let name := Http.lowercase name
  let id :=
    if name = requestIdHeader ∧ (r.header? requestIdHeader).isNone then .ofHeader fresh (some value)
    else r.id
  { r with id, headers := r.headers ++ [(name, value)] }

def withBody (r : Request) (body : BodyStream) : Request := { r with body := some body }

/-- The event of a request taken from a server. -/
def assembled (r : Request) : LogEvent :=
  { level := .debug
    message := "Bind request assembled"
    fields := [("request_id", r.id.text), ("method", r.method), ("path", r.path),
      ("header_count", toString r.headers.length), ("query_count", toString r.queryParams.length),
      ("path_param_count", toString r.pathParams.length)] }

/-- Takes a request from a server, with the path variables that its router found. The body is always a
stream; its length is the one the content length header declares. -/
def ofHttp (fresh : Ulid) (http : HttpRequest) (pathParams : Pairs) (script : List ReadEvent) :
    Logged Request :=
  let headers := http.headers.map fun (name, value) => (name, textOfUtf8Lossy value)
  let r : Request := { new fresh http.method http.target with headers, pathParams }
  let contentLength := (r.header? "content-length").bind fun v =>
    (readNat 10 maxSize (trimBlanks v).toList).toOption
  let r : Request := { r with
    id := .ofHeader fresh (r.header? requestIdHeader)
    body := some { script, contentLength } }
  ⟨r, [r.assembled]⟩

end Request
end RequestBinding
