import RequestBinding.Text.Utf8

/-!
# Body streams

A body arrives through reads. What the reads meet is a script: data, interruptions, failures, and the
moment at which the client goes away. A stream with a cancellation flag refuses every read after the
flag is set.
-/

namespace RequestBinding

inductive ReadEvent where
  | data (bytes : Octets)
  | interrupted
  | failure (text : String)
  | cancel
deriving DecidableEq, Repr

/-- What one read gives; no data means the end of the body. -/
inductive ReadResult where
  | data (bytes : Octets)
  | interrupted
  | failure (text : String)
deriving DecidableEq, Repr

structure BodyStream where
  script : List ReadEvent
  contentLength : Option Nat := none
  /-- Whether a cancellation flag is attached. -/
  cancellable : Bool := false
  cancelled : Bool := false
deriving DecidableEq, Repr

def ReadEvent.size : ReadEvent → Nat
  | data bytes => bytes.length + 1
  | _ => 1

/-- Octets and events that are still to come. -/
def scriptSize (script : List ReadEvent) : Nat := script.foldr (fun e n => e.size + n) 0

/-- One read of at most `want` octets: its result, the script after it, and the flag after it. -/
def playRead (want : Nat) (cancelled : Bool) : List ReadEvent → ReadResult × List ReadEvent × Bool
  | [] => (.data [], [], cancelled)
  | .data [] :: rest => playRead want cancelled rest
  | .data (b :: bs) :: rest =>
    let left := (b :: bs).drop want
    (.data ((b :: bs).take want), if left.isEmpty then rest else .data left :: rest, cancelled)
  | .interrupted :: rest => (.interrupted, rest, cancelled)
  | .failure text :: rest => (.failure text, rest, cancelled)
  | .cancel :: rest => playRead want true rest

/-- Every read that does not report the end uses up some of the script. -/
theorem playRead_size_lt {want : Nat} (hw : 0 < want) (cancelled : Bool) (script : List ReadEvent)
    (h : (playRead want cancelled script).1 ≠ .data []) :
    scriptSize (playRead want cancelled script).2.1 < scriptSize script := by
  fun_induction playRead want cancelled script with
  | case1 => simp at h
  | case2 _ rest ih => have := ih h; simp [scriptSize] at *; omega
  | case3 _ b bs rest left =>
    simp only
    split
    · simp [scriptSize, ReadEvent.size]
    · simp [scriptSize, ReadEvent.size, left]; omega
  | case4 => simp [scriptSize, ReadEvent.size]
  | case5 => simp [scriptSize, ReadEvent.size]
  | case6 _ rest ih => have := ih h; simp [scriptSize] at *; omega

namespace BodyStream

/-- A body at hand, which declares its length. -/
def ofOctets (bytes : Octets) : BodyStream :=
  { script := [.data bytes], contentLength := some bytes.length }

/-- The text that a cancelled read fails with. -/
def cancelledText : String := "request cancelled"

/-- One read of at most `want` octets. -/
def read (want : Nat) (s : BodyStream) : ReadResult × BodyStream :=
  if s.cancellable && s.cancelled then (.failure cancelledText, s)
  else
    let (result, script, cancelled) := playRead want s.cancelled s.script
    (result, { s with script, cancelled })

/-- What a log says of a stream. -/
def describe (s : BodyStream) : String :=
  let length := match s.contentLength with
    | none => "None"
    | some n => s!"Some({n})"
  let cancellable := if s.cancellable then "true" else "false"
  "BodyStream \x7b content_length: " ++ length ++ ", cancellable: " ++ cancellable ++ ", .. \x7d"

end BodyStream
end RequestBinding
