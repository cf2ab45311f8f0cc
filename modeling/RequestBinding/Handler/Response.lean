import RequestBinding.Binding.Error
import RequestBinding.Json.Printer
import RequestBinding.Request.Basic

/-!
# Responses

A response has a status, headers in order and a body. Header names are compared without letter case.
-/

namespace RequestBinding

inductive ResponseBody where
  | empty
  | text (s : String)
  | json (v : Json)
deriving Repr, BEq

structure Response where
  status : Nat
  headers : Pairs := []
  body : ResponseBody := .empty
deriving Repr, BEq

namespace ResponseBody

def kind : ResponseBody → String
  | empty => "empty"
  | text _ => "text"
  | json _ => "json"

/-- The text that is sent. -/
def content : ResponseBody → String
  | empty => ""
  | text s => s
  | json v => v.compact

end ResponseBody

namespace Response

/-- A plain text. -/
def text (status : Nat) (message : String) : Response :=
  ⟨status, [("content-type", "text/plain; charset=utf-8")], .text message⟩

def json (status : Nat) (v : Json) : Response := ⟨status, [("content-type", "application/json")], .json v⟩

def noContent : Response := ⟨204, [], .empty⟩

/-- The answer to a request that could not be bound. -/
def ofBindingError (e : BindingError) : Response := text e.status e.message

/-- The first header of a name. -/
def header? (r : Response) (name : String) : Option String :=
  (r.headers.find? fun (n, _) => Http.sameName n name).map Prod.snd

/-- Puts a header in place of all headers of its name. -/
def setHeader (r : Response) (name value : String) : Response :=
  { r with headers := (r.headers.filter fun (n, _) => !Http.sameName n name) ++ [(name, value)] }

/-- A response as a server sends it: names in lower case, values of one name together. -/
structure Sent where
  status : Nat
  headers : Pairs
  content : String

def checkHeader (name value : String) : Except HttpFault (String × String) :=
  if !Http.isToken name then .error .invalidHeaderName
  else if !Http.isHeaderValue (encodeUtf8 value) then .error .invalidHeaderValue
  else .ok (Http.lowercase name, value)

/-- Checks the status and then the headers in order. -/
def send (r : Response) : Except HttpFault Sent := do
  if !Http.isStatus r.status then .error .invalidStatus
  let headers ← r.headers.mapM fun (name, value) => checkHeader name value
  return ⟨r.status, Http.groupByName headers, r.body.content⟩

end Response
end RequestBinding
