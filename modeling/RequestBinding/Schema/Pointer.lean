import RequestBinding.Json.Basic
import RequestBinding.Request.Form
import RequestBinding.Uri.Basic

/-!
# Pointers into documents

A pointer is a fragment of a reference that names a part of a document: its steps stand behind slashes,
percent-encoded, with `~1` for a slash and `~0` for a tilde inside a step.
-/

namespace RequestBinding

/-- Why nobody can bring a resource. -/
inductive RetrievalFault where
  /-- The reference is relative, and there is nothing that it is relative to. -/
  | noBase
  | unknownScheme (scheme : String)
  /-- All resources have been brought before. -/
  | tooLate
deriving DecidableEq, Repr

def RetrievalFault.text : RetrievalFault → String
  | noBase => "No base URI is available"
  | unknownScheme scheme => s!"Unknown scheme {scheme}"
  | tooLate => "Retrieving external resources is not supported once the registry is populated"

inductive ReferenceFault where
  | malformed (reference : String) (fault : UriFault)
  | notUtf8 (pointer : String)
  | noSuchPart (pointer : String)
  | invalidIndex (pointer step : String)
  | invalidAnchor (anchor : String)
  | noSuchAnchor (anchor : String)
  | noSuchResource (reference : String) (fault : RetrievalFault)
deriving DecidableEq, Repr

def ReferenceFault.text : ReferenceFault → String
  | malformed reference fault => s!"Invalid URI reference '{reference}': {fault.text}"
  | notUtf8 pointer =>
    s!"Invalid percent encoding in pointer '{pointer}': the decoded bytes do not represent valid UTF-8"
  | noSuchPart pointer => s!"Pointer '{pointer}' does not exist"
  | invalidIndex pointer step => s!"Failed to parse array index '{step}' in pointer '{pointer}'"
  | invalidAnchor anchor => s!"Anchor '{anchor}' is invalid"
  | noSuchAnchor anchor => s!"Anchor '{anchor}' does not exist"
  | noSuchResource reference fault =>
    s!"Resource '{reference}' is not present in a registry and retrieving it failed: {fault.text}"

namespace Pointer

/-- Replaces `~1` and `~0` in a step. -/
def unescapeStep : List Char → List Char
  | '~' :: '1' :: rest => '/' :: unescapeStep rest
  | '~' :: '0' :: rest => '~' :: unescapeStep rest
  | c :: rest => c :: unescapeStep rest
  | [] => []

theorem unescapeStep_of_notMem {cs : List Char} (h : '~' ∉ cs) : unescapeStep cs = cs := by
  induction cs with
  | nil => rfl
  | cons c cs ih =>
    obtain ⟨hc, hcs⟩ := not_or.mp (mt List.mem_cons.mpr h)
    rw [unescapeStep, ih hcs]
    · rintro _ rfl -
      exact hc rfl
    · rintro _ rfl -
      exact hc rfl

/-- The part of a value that one step leads to. -/
def step (pointer : String) (v : Json) (text : String) : Except ReferenceFault Json :=
  match v with
  | .array items =>
    match readNat 10 maxSize text.toList with
    | .error _ => .error (.invalidIndex pointer text)
    | .ok i => (items[i]?).elim (.error (.noSuchPart pointer)) .ok
  | v =>
    let name := String.ofList (unescapeStep text.toList)
    (v.member? name).elim (.error (.noSuchPart pointer)) .ok

/-- The steps of a pointer that starts with a slash. -/
def steps (pointer : String) : Except ReferenceFault (List String) :=
  match textOfUtf8? (Form.unescape (encodeUtf8 (String.ofList (pointer.toList.drop 1)))) with
  | none => .error (.notUtf8 pointer)
  | some text => .ok (splitAt '/' text)

/-- The part of a value that a pointer names. -/
def resolve (document : Json) (pointer : String) : Except ReferenceFault Json := do
  (← steps pointer).foldlM (step pointer) document

end Pointer
end RequestBinding
