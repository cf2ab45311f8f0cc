import RequestBinding.Binding.Error
import RequestBinding.Log.Event
import RequestBinding.Request.BodyStream
import RequestBinding.Schema.Compiled
import RequestBinding.Value

/-!
# Bodies

A body is read up to a limit, judged by its schema, and decoded to a JSON value of its declared type.
To tell a body at the limit from one above it, one octet above the limit is read.
-/

namespace RequestBinding
namespace Body

/-- Octets that one read asks for at most. -/
def chunkSize : Nat := 8192

/-- How the reads of a body ended, and the octets read until then. -/
structure Reading where
  octets : Octets
  failure : Option String

theorem scriptSize_read_lt {want : Nat} (hw : 0 < want) {s : BodyStream} {result : ReadResult}
    {s' : BodyStream} (h : s.read want = (result, s')) (hend : result ≠ .data [])
    (hfail : ∀ text, result ≠ .failure text) : scriptSize s'.script < scriptSize s.script := by
  unfold BodyStream.read at h
  split at h
  · simp only [Prod.mk.injEq] at h
    exact absurd h.1.symm (hfail _)
  · simp only [Prod.mk.injEq] at h
    rw [← h.2]
    exact playRead_size_lt hw _ _ (h.1 ▸ hend)

/-- Reads until the end, a failure, or one octet above the limit. Interrupted reads are repeated. -/
def readAll (limit : Nat) (read : Octets) (s : BodyStream) : Reading :=
  if _hr : limit + 1 - read.length = 0 then ⟨read, none⟩
  else
    match _h : s.read (min (limit + 1 - read.length) chunkSize) with
    | (.data [], _) => ⟨read, none⟩
    | (.data (b :: bs), s') => readAll limit (read ++ b :: bs) s'
    | (.interrupted, s') => readAll limit read s'
    | (.failure text, _) => ⟨read, some text⟩
termination_by scriptSize s.script
decreasing_by
  · exact scriptSize_read_lt (by simp only [chunkSize]; omega) _h (by simp) (by simp)
  · exact scriptSize_read_lt (by simp only [chunkSize]; omega) _h (by simp) (by simp)

/-- The most octets that room can be made for, however much memory there is. -/
def maxCapacity : Nat := 9223372036854775807

/-- The text of the panic when there is no room for so many octets. -/
def capacityOverflow : String := "capacity overflow"

/-- The octets that room is made for before a body is read: as many as are declared, within the limit. -/
def capacity (limit : Nat) (s : BodyStream) : Nat := min (s.contentLength.getD 0) limit

/-- The outcome of reading a body, and the number of octets taken from its stream. -/
structure Bounded where
  result : Except Stop Octets
  consumed : Nat
  events : List LogEvent

/-- Reads a body of at most `limit` octets. A declared length above the limit is refused unread, and one
that there is no room for breaks the reading off before the first read. -/
def readBounded (limit : Nat) (s : BodyStream) : Bounded :=
  match s.contentLength.filter (limit < ·) with
  | some declared =>
    { result := .error (.failed (.bodyTooLarge limit))
      consumed := 0
      events := [{ level := .warn, message := "Declared body length exceeds limit",
                   fields := [("declared", toString declared), ("limit", toString limit)] }] }
  | none =>
    if maxCapacity < capacity limit s then
      { result := .error (.panicked capacityOverflow), consumed := 0, events := [] }
    else
      let r := readAll limit [] s
      let size := r.octets.length
      match r.failure with
      | some text =>
        { result := .error (.failed (.bodyUnreadable text))
          consumed := size
          events := [{ level := .debug, message := "Body read failed",
                       fields := [("error", text), ("bytes_read", toString size)] }] }
      | none =>
        if limit < size then
          { result := .error (.failed (.bodyTooLarge limit))
            consumed := size
            events := [{ level := .warn, message := "Body exceeds limit",
                         fields := [("limit", toString limit)] }] }
        else
          { result := .ok r.octets
            consumed := size
            events := [{ level := .debug, message := "Body read",
                         fields := [("bytes", toString size), ("limit", toString limit)] }] }

/-- Judges a body by its schema. -/
def checkSchema (validator : Validator) (schema : CompiledSchema) (payload : Octets) :
    Except BindingError Unit × List LogEvent :=
  match validator schema payload with
  | .ok () => (.ok (), [])
  | .error violations =>
    (.error (.schemaViolated violations),
      [{ level := .debug, message := "Body failed schema validation",
         fields := [("schema", schema.name), ("violations", toString violations.length)] }])

/-- Whether a JSON value is one of the declared type. -/
def fits : ParameterType → Json → Bool
  | .object, .object _ | .map, .object _ => true
  | .array, .array _ => true
  | .string, .string _ => true
  | .int32, .number n => n.toInt64?.any fun v => -2147483648 ≤ v && v ≤ 2147483647
  | .int64, .number n => n.toInt64?.isSome
  | .float32, .number _ | .float64, .number _ => true
  | .boolean, .bool _ => true
  | _, _ => false

/-- Decodes a body to a value of the declared type. -/
def decode (name : String) (type : ParameterType) (payload : Octets) : Except BindingError Json :=
  match Json.ofOctets payload with
  | .error e => .error (.bodyMisfit name e.message)
  | .ok v =>
    if fits type v then .ok v
    else .error (.bodyMisfit name s!"expected {type.name}, found {v.kind}")

end Body
end RequestBinding
