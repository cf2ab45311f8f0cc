import RequestBinding.Proofs.Body.Reading

/-!
# The calls of a reading

A bounded reading calls its stream for one chunk after the other. What comes of the reading is decided
by what these calls give.

1. `Body.readCalls` lists the calls of the loop; `readCalls_of_goesOn` and `readAll_of_goesOn` are one
   step of it.
2. `readAll_eq_of_calls`: the loop has read what its calls hand out, and fails as the last one does.
3. `delivery_decides_reading`: when no call is refused, a reading depends on the data and the failure of
   the script and on the limit, and on nothing else.
-/

namespace RequestBinding

/-- A call of a stream for at most so many octets. -/
structure ReadCall where
  stream : BodyStream
  want : ℕ

namespace ReadCall

/-- What the call gives. -/
def result (c : ReadCall) : ReadResult := (c.stream.read c.want).1

/-- The stream as the call leaves it. -/
def left (c : ReadCall) : BodyStream := (c.stream.read c.want).2

end ReadCall

/-- Whether calls are made one after the other, from a stream on. -/
def Chained : BodyStream → List ReadCall → Prop
  | _, [] => True
  | s, c :: calls => c.stream = s ∧ Chained c.left calls

/-- The octets that calls hand out. -/
def handedOut (calls : List ReadCall) : Octets := calls.flatMap fun c => c.result.octets

@[simp] theorem handedOut_nil : handedOut [] = [] := rfl

@[simp] theorem handedOut_cons (c : ReadCall) (calls : List ReadCall) :
    handedOut (c :: calls) = c.result.octets ++ handedOut calls := List.flatMap_cons

@[simp] theorem handedOut_append (before after : List ReadCall) :
    handedOut (before ++ after) = handedOut before ++ handedOut after := List.flatMap_append

namespace ReadResult

/-- Whether a loop goes on behind a read: it gave data, or was interrupted. -/
def goesOn : ReadResult → Bool
  | data [] => false
  | data (_ :: _) => true
  | interrupted => true
  | failure _ => false

/-- The text that a read fails with. -/
def failure? : ReadResult → Option String
  | data _ => none
  | interrupted => none
  | failure text => some text

theorem octets_of_not_goesOn {r : ReadResult} (h : ¬ r.goesOn = true) : r.octets = [] := by
  rcases r with (_ | _) | _ | _
  · rfl
  · exact absurd rfl h
  · rfl
  · rfl

/-- Only the end and a failure end the loop. -/
theorem goesOn_of_ne {r : ReadResult} (hend : r ≠ .data []) (hfail : ∀ text, r ≠ .failure text) :
    r.goesOn = true := by
  rcases r with (_ | _) | _ | text
  · exact absurd rfl hend
  · rfl
  · rfl
  · exact absurd rfl (hfail text)

theorem failure?_of_goesOn {r : ReadResult} (h : r.goesOn = true) : r.failure? = none := by
  cases r with
  | data bytes => rfl
  | interrupted => rfl
  | failure text => cases h

end ReadResult

/-! ## One call -/

section Call

variable {c : ReadCall}

theorem ReadCall.scriptSize_left_lt (hw : 0 < c.want) (h : c.result.goesOn = true) :
    scriptSize c.left.script < scriptSize c.stream.script := by
  have hread : c.stream.read c.want = (c.result, c.left) := rfl
  refine Body.scriptSize_read_lt hw hread ?_ ?_
  · intro hend
    rw [hend] at h
    cases h
  · intro text hfail
    rw [hfail] at h
    cases h

/-- A call hands out no more octets than it asks for. -/
theorem ReadCall.length_octets_le (hw : 0 < c.want) : c.result.octets.length ≤ c.want := by
  have hread : c.stream.read c.want = (c.result, c.left) := rfl
  cases h : c.result with
  | data bytes =>
    rw [h] at hread
    exact length_read_le hw hread
  | interrupted => exact Nat.zero_le _
  | failure text => exact Nat.zero_le _

/-- Behind a call that a loop goes on from, the rest of the data is still to come. -/
theorem ReadCall.delivered_eq (hw : 0 < c.want) (h : c.result.goesOn = true) :
    delivered c.stream.script = c.result.octets ++ delivered c.left.script := by
  have hread : c.stream.read c.want = (c.result, c.left) := rfl
  rcases read_cases hw hread with hc | hlaw
  · rw [hc] at h
    cases h
  · rcases hr : c.result with (_ | ⟨b, bs⟩) | _ | _ <;> rw [hr] at h hlaw
    · cases h
    · exact hlaw.2.1
    · exact hlaw.1
    · cases h

/-- A call reports the end only where no data are left. -/
theorem ReadCall.delivered_of_end (hw : 0 < c.want) (h : c.result = .data []) :
    delivered c.stream.script = [] := by
  have hread : c.stream.read c.want = (c.result, c.left) := rfl
  rcases read_cases hw hread with hc | hlaw
  · rw [h] at hc
    cases hc
  · rw [h] at hlaw
    exact hlaw.1

/-- A flag stays attached. -/
theorem ReadCall.cancellable_left (c : ReadCall) : c.left.cancellable = c.stream.cancellable := by
  unfold ReadCall.left BodyStream.read
  split_ifs <;> rfl

end Call

/-! ## The loop -/

namespace Body

variable {limit : ℕ} {read : Octets} {s : BodyStream}

/-- The call that a loop makes next which has read some octets. -/
def nextCall (limit : ℕ) (read : Octets) (s : BodyStream) : ReadCall :=
  ⟨s, min (limit + 1 - read.length) chunkSize⟩

theorem nextCall_want_pos (h : ¬ limit < read.length) (s : BodyStream) :
    0 < (nextCall limit read s).want := want_pos (by omega)

/-- The calls of a loop that has read some octets. -/
def readCalls (limit : ℕ) (read : Octets) (s : BodyStream) : List ReadCall :=
  if _hfull : limit < read.length then []
  else if _hgoes : (nextCall limit read s).result.goesOn = true then
    nextCall limit read s ::
      readCalls limit (read ++ (nextCall limit read s).result.octets) (nextCall limit read s).left
  else [nextCall limit read s]
termination_by scriptSize s.script
decreasing_by exact ReadCall.scriptSize_left_lt (nextCall_want_pos _hfull s) _hgoes

theorem readCalls_of_full (h : limit < read.length) (s : BodyStream) : readCalls limit read s = [] := by
  rw [readCalls, dif_pos h]

theorem readCalls_of_goesOn (h : ¬ limit < read.length)
    (hc : (nextCall limit read s).result.goesOn = true) :
    readCalls limit read s = nextCall limit read s ::
      readCalls limit (read ++ (nextCall limit read s).result.octets) (nextCall limit read s).left := by
  rw [readCalls, dif_neg h, dif_pos hc]

theorem readCalls_of_not_goesOn (h : ¬ limit < read.length)
    (hc : ¬ (nextCall limit read s).result.goesOn = true) :
    readCalls limit read s = [nextCall limit read s] := by
  rw [readCalls, dif_neg h, dif_neg hc]

theorem readAll_of_full (h : limit < read.length) (s : BodyStream) :
    readAll limit read s = ⟨read, none⟩ := by
  rw [readAll, dif_pos (by omega)]

theorem readAll_of_goesOn (h : ¬ limit < read.length)
    (hc : (nextCall limit read s).result.goesOn = true) :
    readAll limit read s =
      readAll limit (read ++ (nextCall limit read s).result.octets) (nextCall limit read s).left := by
  have hread : s.read (min (limit + 1 - read.length) chunkSize) =
    ((nextCall limit read s).result, (nextCall limit read s).left) := rfl
  generalize (nextCall limit read s).result = result, (nextCall limit read s).left = left at *
  rw [readAll, dif_neg (by omega)]
  split <;> rename_i hmatch <;> rw [hread] at hmatch <;> cases hmatch
  · cases hc
  · rfl
  · rw [ReadResult.octets, List.append_nil]
  · cases hc

theorem readAll_of_not_goesOn (h : ¬ limit < read.length)
    (hc : ¬ (nextCall limit read s).result.goesOn = true) :
    readAll limit read s = ⟨read, (nextCall limit read s).result.failure?⟩ := by
  have hread : s.read (min (limit + 1 - read.length) chunkSize) =
    ((nextCall limit read s).result, (nextCall limit read s).left) := rfl
  generalize (nextCall limit read s).result = result, (nextCall limit read s).left = left at *
  rw [readAll, dif_neg (by omega)]
  split <;> rename_i hmatch <;> rw [hread] at hmatch <;> cases hmatch
  · rfl
  · exact absurd rfl hc
  · exact absurd rfl hc
  · rfl

/-- A loop has read what its calls hand out, and fails as the last of them does. -/
theorem readAll_eq_of_calls (limit : ℕ) (read : Octets) (s : BodyStream) :
    readAll limit read s =
      { octets := read ++ handedOut (readCalls limit read s)
        failure := (readCalls limit read s).getLast?.bind (·.result.failure?) } := by
  fun_induction readCalls limit read s with
  | case1 read s h =>
    rw [readAll_of_full h, handedOut_nil, List.append_nil]
    rfl
  | case2 read s h hc ih =>
    -- a call that the loop goes on from has no failure, so it may be the last but does not decide
    rw [readAll_of_goesOn h hc, ih, handedOut_cons, List.append_assoc, List.getLast?_cons]
    congr 1
    cases (readCalls limit _ _).getLast? with
    | none => exact (ReadResult.failure?_of_goesOn hc).symm
    | some last => rfl
  | case3 read s h hc =>
    rw [readAll_of_not_goesOn h hc, handedOut_cons, ReadResult.octets_of_not_goesOn hc, handedOut_nil,
      List.append_nil, List.append_nil]
    rfl

theorem chained_readCalls (limit : ℕ) (read : Octets) (s : BodyStream) :
    Chained s (readCalls limit read s) := by
  fun_induction readCalls limit read s with
  | case1 read s hfull => trivial
  | case2 read s hfull hgoes ih => exact ⟨rfl, ih⟩
  | case3 read s hfull hends => exact ⟨rfl, trivial⟩

/-- The first call of a loop, and what follows it. -/
theorem of_readCalls_eq_cons {c : ReadCall} {calls : List ReadCall}
    (h : readCalls limit read s = c :: calls) :
    ¬ limit < read.length ∧ c = nextCall limit read s ∧
      calls = if c.result.goesOn = true then readCalls limit (read ++ c.result.octets) c.left else [] := by
  by_cases hfull : limit < read.length
  · rw [readCalls_of_full hfull] at h
    cases h
  · by_cases hgoes : (nextCall limit read s).result.goesOn = true
    · rw [readCalls_of_goesOn hfull hgoes] at h
      obtain ⟨rfl, rfl⟩ := List.cons.inj h
      exact ⟨hfull, rfl, (if_pos hgoes).symm⟩
    · rw [readCalls_of_not_goesOn hfull hgoes] at h
      obtain ⟨rfl, rfl⟩ := List.cons.inj h
      exact ⟨hfull, rfl, (if_neg hgoes).symm⟩

/-- A loop that makes a call goes on there with what the calls before it have handed out, and the rest
of the data is still to come. -/
theorem readCalls_split (before : List ReadCall) {c : ReadCall} {after : List ReadCall} :
    ∀ {read : Octets} {s : BodyStream}, readCalls limit read s = before ++ c :: after →
      readCalls limit (read ++ handedOut before) c.stream = c :: after ∧
      readAll limit read s = readAll limit (read ++ handedOut before) c.stream ∧
      delivered s.script = handedOut before ++ delivered c.stream.script ∧
      c.stream.cancellable = s.cancellable := by
  induction before with
  | nil =>
    intro read s h
    have hstream : c.stream = s := congrArg ReadCall.stream (of_readCalls_eq_cons h).2.1
    rw [hstream, handedOut_nil, List.append_nil, List.nil_append]
    exact ⟨h, rfl, rfl, rfl⟩
  | cons b before ih =>
    intro read s h
    obtain ⟨hfull, rfl, hrest⟩ := of_readCalls_eq_cons h
    by_cases hgoes : (nextCall limit read s).result.goesOn = true
    · rw [if_pos hgoes] at hrest
      obtain ⟨hcalls, hall, hdata, hflag⟩ := ih hrest.symm
      rw [List.append_assoc, ← handedOut_cons] at hcalls hall
      refine ⟨hcalls, (readAll_of_goesOn hfull hgoes).trans hall, ?_, ?_⟩
      · rw [handedOut_cons, List.append_assoc, ← hdata]
        exact ReadCall.delivered_eq (nextCall_want_pos hfull s) hgoes
      · rw [hflag, ReadCall.cancellable_left]
        rfl
    · rw [if_neg hgoes] at hrest
      exact absurd hrest (by simp)

/-! ## Bounded readings -/

/-- The calls that a bounded reading makes: none if it does not come to its reads. -/
def callsOf (limit : ℕ) (s : BodyStream) : List ReadCall :=
  if Admits limit s then readCalls limit [] s else []

theorem chained_callsOf (limit : ℕ) (s : BodyStream) : Chained s (callsOf limit s) := by
  unfold callsOf
  split_ifs
  · exact chained_readCalls limit [] s
  · trivial

theorem callsOf_of_declared {n : ℕ} (hn : s.contentLength = some n) (hlimit : limit < n) :
    callsOf limit s = [] := if_neg fun h => absurd hlimit (Nat.not_lt.mpr (h n hn).1)

theorem callsOf_of_overflows (h : Overflows limit s) : callsOf limit s = [] :=
  if_neg (not_admits_of_overflows h)

/-- A reading that makes a call has come to its loop. -/
theorem of_callsOf_eq_append {before : List ReadCall} {c : ReadCall} {after : List ReadCall}
    (h : callsOf limit s = before ++ c :: after) :
    Admits limit s ∧ readCalls limit [] s = before ++ c :: after := by
  unfold callsOf at h
  split_ifs at h with hadmits
  · exact ⟨hadmits, h⟩
  · simp at h

theorem consumed_eq_length_handedOut (limit : ℕ) (s : BodyStream) :
    (readBounded limit s).consumed = (handedOut (callsOf limit s)).length := by
  obtain ⟨n, hn, hlimit⟩ | hroom | hadmits := declared_cases limit s
  · rw [(readBounded_of_declared hn hlimit).2, callsOf_of_declared hn hlimit]
    rfl
  · rw [readBounded_of_overflows hroom, callsOf_of_overflows hroom]
    rfl
  · rw [(readBounded_of_admits hadmits).2, callsOf, if_pos hadmits, readAll_eq_of_calls,
      List.nil_append]

/-- The data of the script up to one octet above the limit are handed out, when no call is refused. -/
theorem handedOut_callsOf (hs : s.Unrefused) (h : Admits limit s) :
    handedOut (callsOf limit s) = (delivered s.script).take (limit + 1) := by
  have hcalls := readAll_eq_of_calls limit [] s
  rw [readAll_eq limit [] s hs (Nat.zero_le _)] at hcalls
  rw [callsOf, if_pos h]
  simpa using (congrArg Reading.octets hcalls).symm

/-- A stream that refuses no call is read as its script says: a body above the limit is too large, else a
failure counts, else the body is all the data. No more than one octet above the limit is handed out. How
the data are cut into pieces, where reads are interrupted and which length is declared play no part, as
long as the declared length is within the limit and there is room for it. A length above the limit is
refused without a call, and one that there is no room for breaks the reading off. -/
theorem delivery_decides_reading (limit : ℕ) {s : BodyStream} (hs : s.Unrefused) :
    (∀ n, s.contentLength = some n → limit < n →
      (readBounded limit s).result = .error (.failed (.bodyTooLarge limit)) ∧ callsOf limit s = [] ∧
        (readBounded limit s).consumed = 0) ∧
    (∀ n, s.contentLength = some n → n ≤ limit → maxCapacity < n →
      (readBounded limit s).result = .error (.panicked capacityOverflow) ∧ callsOf limit s = [] ∧
        (readBounded limit s).consumed = 0) ∧
    (Admits limit s →
      (limit < (delivered s.script).length →
        (readBounded limit s).result = .error (.failed (.bodyTooLarge limit))) ∧
      ((delivered s.script).length ≤ limit → ∀ text, failureOf? s.script = some text →
        (readBounded limit s).result = .error (.failed (.bodyUnreadable text))) ∧
      ((delivered s.script).length ≤ limit → failureOf? s.script = none →
        (readBounded limit s).result = .ok (delivered s.script)) ∧
      handedOut (callsOf limit s) = (delivered s.script).take (limit + 1) ∧
      (readBounded limit s).consumed = min (delivered s.script).length (limit + 1)) ∧
    ∀ s' : BodyStream, s'.Unrefused → Admits limit s → Admits limit s' →
      delivered s'.script = delivered s.script → failureOf? s'.script = failureOf? s.script →
      (readBounded limit s').result = (readBounded limit s).result ∧
        handedOut (callsOf limit s') = handedOut (callsOf limit s) := by
  refine ⟨?_, ?_, ?_, ?_⟩
  · intro n hn hlimit
    obtain ⟨hresult, hconsumed⟩ := readBounded_of_declared hn hlimit
    exact ⟨hresult, callsOf_of_declared hn hlimit, hconsumed⟩
  · intro n hn hlimit hroom
    have hover : Overflows limit s := ⟨n, hn, hlimit, hroom⟩
    rw [readBounded_of_overflows hover]
    exact ⟨rfl, callsOf_of_overflows hover, rfl⟩
  · intro hadmits
    rw [result_of_admits hs hadmits, consumed_eq_length_handedOut, handedOut_callsOf hs hadmits,
      List.length_take, Nat.min_comm]
    refine ⟨fun hover => if_pos hover, fun hfits text htext => ?_, fun hfits hnone => ?_, rfl, rfl⟩
    · rw [if_neg (Nat.not_lt.mpr hfits), htext]
    · rw [if_neg (Nat.not_lt.mpr hfits), hnone]
  · intro s' hs' hadmits hadmits' hdata hfailure
    rw [result_of_admits hs hadmits, result_of_admits hs' hadmits', handedOut_callsOf hs hadmits,
      handedOut_callsOf hs' hadmits', hdata, hfailure]
    exact ⟨rfl, rfl⟩

/-- Four octets in two pieces, and a failure behind them. -/
def brokenUpload : BodyStream :=
  { script := [.data [1, 2], .interrupted, .data [3, 4], .failure "connection reset"]
    contentLength := some 3
    cancellable := true }

/-- The same octets in other pieces, of which no length is declared. -/
def recutUpload : BodyStream :=
  { script := [.interrupted, .data [1], .data [2, 3, 4], .failure "connection reset", .data [5]] }

theorem brokenUpload_reads_as_recut :
    brokenUpload.Unrefused ∧ Admits 4 brokenUpload ∧
    (readBounded 4 brokenUpload).result = .error (.failed (.bodyUnreadable "connection reset")) ∧
    (readBounded 4 brokenUpload).consumed = 4 ∧
    (readBounded 4 recutUpload).result = .error (.failed (.bodyUnreadable "connection reset")) ∧
    (readBounded 3 recutUpload).result = .error (.failed (.bodyTooLarge 3)) := by
  have hbroken : brokenUpload.Unrefused := fun _ => ⟨rfl, by decide⟩
  have hrecut : recutUpload.Unrefused := fun h => Bool.noConfusion h
  have hadmits : Admits 4 brokenUpload := by decide
  have hundeclared : ∀ limit, Admits limit recutUpload := fun limit n hn => by cases hn
  obtain ⟨-, -, hread, hsame⟩ := delivery_decides_reading 4 hbroken
  obtain ⟨-, hfails, -, -, hconsumed⟩ := hread hadmits
  have hresult := hfails (by decide) "connection reset" (by decide)
  obtain ⟨hrecut4, -⟩ := hsame recutUpload hrecut hadmits (hundeclared 4) (by decide) (by decide)
  obtain ⟨-, -, hread3, -⟩ := delivery_decides_reading 3 hrecut
  obtain ⟨hover, -⟩ := hread3 (hundeclared 3)
  exact ⟨hbroken, hadmits, hresult, hconsumed.trans (by decide), hrecut4.trans hresult,
    hover (by decide)⟩

/-- The text `12`, with a length that may be declared of it. -/
def shortUpload (declared : Option ℕ) : BodyStream :=
  { script := [.data [0x31, 0x32]], contentLength := declared }

/-- Without a declared length the two octets are read. With one that is within the limit, and that there
is no room for, they are not. -/
theorem declared_length_breaks_reading_off :
    let limit := maxCapacity + 1
    let s := shortUpload (some limit)
    s.Unrefused ∧ DeclaresWithin limit s ∧ (delivered s.script).length ≤ limit ∧
      failureOf? s.script = none ∧
      (readBounded limit (shortUpload none)).result = .ok (delivered s.script) ∧
      (readBounded limit s).result = .error (.panicked capacityOverflow) ∧
      (readBounded limit s).result ≠ .ok (delivered s.script) := by
  intro limit s
  have hundeclared : Admits limit (shortUpload none) := fun n hn => by cases hn
  have hover : Overflows limit s := ⟨limit, rfl, Nat.le_refl _, Nat.lt_succ_self _⟩
  have hstopped : (readBounded limit s).result = .error (.panicked capacityOverflow) := by
    rw [readBounded_of_overflows hover]
  refine ⟨fun h => Bool.noConfusion h, fun n hn => ?_, by decide, rfl, ?_, hstopped, ?_⟩
  · exact Nat.le_of_eq (Option.some.inj hn).symm
  · rw [result_of_admits (fun h => Bool.noConfusion h) hundeclared]
    exact if_neg (by decide)
  · rw [hstopped]
    simp

end Body
end RequestBinding
