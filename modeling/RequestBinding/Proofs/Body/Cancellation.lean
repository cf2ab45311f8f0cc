import RequestBinding.Proofs.Body.Calls

/-!
# Cancelled readings

Once the flag of a stream is set, its reader is not asked again. A reading ends at the next call at the
latest, and only the call in the course of which the flag was set can still decide what comes of it.

1. `refused_of_set`: a call is refused when the flag is set.
2. `readCalls_of_set` and `readAll_of_set` are what is left of a loop then.
3. `CutShort` is how a reading goes on from the call in the course of which the flag is set, and
   `cancelled_reading_stops` shows it.
-/

namespace RequestBinding

namespace ReadCall

/-- Whether a call is refused: it fails, and leaves the stream as it was. -/
structure Refused (c : ReadCall) : Prop where
  result : c.result = .failure BodyStream.cancelledText
  left : c.left = c.stream

/-- Whether the flag is set in the course of a call. -/
structure Sets (c : ReadCall) : Prop where
  before : c.stream.cancelled = false
  after : c.left.cancelled = true

/-- A call is refused when the flag is set. -/
theorem refused_of_set {c : ReadCall} (hc : c.stream.cancellable = true)
    (hset : c.stream.cancelled = true) : c.Refused := by
  have hread : c.stream.read c.want = (.failure BodyStream.cancelledText, c.stream) := by
    unfold BodyStream.read
    rw [hc, hset, Bool.and_self, if_pos rfl]
  exact ⟨congrArg Prod.fst hread, congrArg Prod.snd hread⟩

end ReadCall

theorem handedOut_of_refused {calls : List ReadCall} (h : ∀ c ∈ calls, c.Refused) :
    handedOut calls = [] := by
  induction calls with
  | nil => rfl
  | cons c calls ih =>
    obtain ⟨hc, hcalls⟩ := List.forall_mem_cons.mp h
    rw [handedOut_cons, hc.result, ih hcalls]
    rfl

/-- A flag that is set behind one of some calls was set before them, or in the course of one of them. -/
theorem exists_sets {c : ReadCall} {calls : List ReadCall} (hset : c.left.cancelled = true) :
    ∀ {s : BodyStream}, Chained s calls → c ∈ calls →
      s.cancelled = true ∨ ∃ before b after, calls = before ++ b :: after ∧ b.Sets := by
  induction calls with
  | nil =>
    intro s _ hc
    simp at hc
  | cons d calls ih =>
    intro s hchained hc
    obtain ⟨rfl, hrest⟩ := hchained
    by_cases hbefore : d.stream.cancelled = true
    · exact .inl hbefore
    · right
      by_cases hleft : d.left.cancelled = true
      · exact ⟨[], d, calls, rfl, by simpa using hbefore, hleft⟩
      · rcases List.mem_cons.mp hc with rfl | hc
        · exact absurd hset hleft
        · rcases ih hrest hc with h | ⟨before, b, after, rfl, hb⟩
          · exact absurd h hleft
          · exact ⟨d :: before, b, after, rfl, hb⟩

namespace Body

variable {limit : ℕ} {read : Octets} {s : BodyStream}

/-! ## Loops on a stream whose flag is set -/

/-- Once the flag is set, a loop makes one more call, unless it has read enough. -/
theorem readCalls_of_set (hs : s.cancellable = true) (hset : s.cancelled = true) :
    readCalls limit read s = if limit < read.length then [] else [nextCall limit read s] := by
  split_ifs with hfull
  · exact readCalls_of_full hfull s
  · have hrefused : (nextCall limit read s).Refused := ReadCall.refused_of_set hs hset
    refine readCalls_of_not_goesOn hfull ?_
    rw [hrefused.result]
    exact Bool.false_ne_true

theorem readAll_of_set (hs : s.cancellable = true) (hset : s.cancelled = true) :
    readAll limit read s =
      ⟨read, if limit < read.length then none else some BodyStream.cancelledText⟩ := by
  split_ifs with hfull
  · exact readAll_of_full hfull s
  · have hrefused : (nextCall limit read s).Refused := ReadCall.refused_of_set hs hset
    have hends : ¬ (nextCall limit read s).result.goesOn = true := by
      rw [hrefused.result]
      exact Bool.false_ne_true
    rw [readAll_of_not_goesOn hfull hends, hrefused.result]
    rfl

/-- What such a loop still calls is refused. -/
theorem refused_of_mem_readCalls (hs : s.cancellable = true) (hset : s.cancelled = true)
    {c : ReadCall} (hc : c ∈ readCalls limit read s) : c.Refused := by
  rw [readCalls_of_set hs hset] at hc
  split_ifs at hc
  · simp at hc
  · obtain rfl := List.mem_singleton.mp hc
    exact ReadCall.refused_of_set hs hset

/-! ## Bounded readings -/

/-- How a bounded reading goes on whose flag is set in the course of a call. -/
structure CutShort (limit : ℕ) (s : BodyStream) (before : List ReadCall) (c : ReadCall)
    (after : List ReadCall) : Prop where
  /-- No later call asks the reader for anything, and there is one later call at most. -/
  refused : ∀ later ∈ after, later.Refused
  once : after.length ≤ 1
  /-- From the call on, no more than one chunk is handed out. -/
  handed : (handedOut (c :: after)).length ≤ chunkSize
  /-- The end of the body, a failure and the octet above the limit count as they do without the flag. -/
  ended : c.result = .data [] → (readBounded limit s).result = .ok (delivered s.script)
  failed : ∀ text, c.result = .failure text →
    (readBounded limit s).result = .error (.failed (.bodyUnreadable text))
  filled : (handedOut (before ++ [c])).length = limit + 1 →
    (readBounded limit s).result = .error (.failed (.bodyTooLarge limit))
  /-- Else the reading fails for the flag, also behind an interruption. -/
  stopped : c.result ≠ .data [] → (∀ text, c.result ≠ .failure text) →
    (handedOut (before ++ [c])).length ≠ limit + 1 →
    (readBounded limit s).result = .error (.failed (.bodyUnreadable BodyStream.cancelledText))

section Cut

variable {before : List ReadCall} {c : ReadCall} {after : List ReadCall}

/-- What comes of a reading from a call in the course of which the flag is set. -/
theorem outcome_of_sets (hcalls : readCalls limit read s = c :: after) (hs : s.cancellable = true)
    (hsets : c.Sets) :
    readAll limit read s =
      if c.result.goesOn = true then
        ⟨read ++ c.result.octets,
          if limit < (read ++ c.result.octets).length then none else some BodyStream.cancelledText⟩
      else ⟨read, c.result.failure?⟩ := by
  obtain ⟨hfull, rfl, -⟩ := of_readCalls_eq_cons hcalls
  have hleft : (nextCall limit read s).left.cancellable = true :=
    (ReadCall.cancellable_left _).trans hs
  split_ifs with hgoes
  · rw [readAll_of_goesOn hfull hgoes, readAll_of_set hleft hsets.after, if_pos ‹_›]
  · rw [readAll_of_goesOn hfull hgoes, readAll_of_set hleft hsets.after, if_neg ‹_›]
  · exact readAll_of_not_goesOn hfull hgoes

/-- Behind such a call there is one call at most, which is refused. -/
theorem refused_of_sets (hcalls : readCalls limit read s = c :: after) (hs : s.cancellable = true)
    (hsets : c.Sets) : (∀ later ∈ after, later.Refused) ∧ after.length ≤ 1 := by
  obtain ⟨-, rfl, hafter⟩ := of_readCalls_eq_cons hcalls
  have hleft : (nextCall limit read s).left.cancellable = true :=
    (ReadCall.cancellable_left _).trans hs
  by_cases hgoes : (nextCall limit read s).result.goesOn = true
  · rw [if_pos hgoes] at hafter
    subst hafter
    refine ⟨fun later => refused_of_mem_readCalls hleft hsets.after, ?_⟩
    rw [readCalls_of_set hleft hsets.after]
    split_ifs <;> simp
  · rw [if_neg hgoes] at hafter
    subst hafter
    simp

theorem cutShort_of_sets (hs : s.cancellable = true) (h : callsOf limit s = before ++ c :: after)
    (hsets : c.Sets) : CutShort limit s before c after := by
  obtain ⟨hadmits, h⟩ := of_callsOf_eq_append h
  obtain ⟨hcalls, hall, hdata, hflag⟩ := readCalls_split before h
  rw [List.nil_append] at hcalls hall
  rw [hs] at hflag
  obtain ⟨hfull, hnext, -⟩ := of_readCalls_eq_cons hcalls
  obtain ⟨hrefused, honce⟩ := refused_of_sets hcalls hflag hsets
  have hwant : 0 < c.want := by
    rw [hnext]
    exact nextCall_want_pos hfull _
  have hasked : c.want ≤ limit + 1 - (handedOut before).length ∧ c.want ≤ chunkSize := by
    rw [hnext]
    exact ⟨Nat.min_le_left _ _, Nat.min_le_right _ _⟩
  have hoctets := c.length_octets_le hwant
  have hlength : (handedOut (before ++ [c])).length =
      (handedOut before).length + c.result.octets.length := by simp
  have hresult := (readBounded_of_admits hadmits).1
  rw [hall, outcome_of_sets hcalls hflag hsets] at hresult
  refine ⟨hrefused, honce, ?_, ?_, ?_, ?_, ?_⟩
  · rw [handedOut_cons, handedOut_of_refused hrefused, List.append_nil]
    omega
  · intro hend
    rw [hend] at hresult
    rw [hdata, c.delivered_of_end hwant hend, List.append_nil, hresult]
    exact if_neg hfull
  · intro text hfail
    rw [hfail] at hresult
    exact hresult
  · intro hfilled
    -- only data can fill the reading, so the loop goes on and finds it full
    have hgoes : c.result.goesOn = true := by
      by_contra hends
      rw [ReadResult.octets_of_not_goesOn hends, List.length_nil] at hlength
      omega
    have hover : limit < (handedOut before ++ c.result.octets).length := by
      rw [List.length_append]
      omega
    rw [if_pos hgoes, if_pos hover] at hresult
    exact hresult.trans (if_pos hover)
  · intro hend hfail hfilled
    have hgoes : c.result.goesOn = true := ReadResult.goesOn_of_ne hend hfail
    have hwithin' : ¬ limit < (handedOut before ++ c.result.octets).length := by
      rw [List.length_append]
      omega
    rw [if_pos hgoes, if_neg hwithin'] at hresult
    exact hresult

end Cut

/-- A bounded reading makes its calls one after the other. Once the flag is set, none of them asks the
reader for anything, and the next one is the last. If the flag was set before, nothing is read and the
reading fails for it; if it is set in the course of a call, what the call gives decides what comes of the
reading. A declared length that there is no room for breaks the reading off before any call, whether the
flag is set or not. -/
theorem cancelled_reading_stops (limit : ℕ) {s : BodyStream} (hs : s.cancellable = true)
    (hwithin : DeclaresWithin limit s) :
    Chained s (callsOf limit s) ∧
    (readBounded limit s).consumed = (handedOut (callsOf limit s)).length ∧
    (∀ before c after, callsOf limit s = before ++ c :: after → c.stream.cancelled = true →
      c.Refused ∧ after = []) ∧
    (s.cancelled = true → handedOut (callsOf limit s) = [] ∧
      (¬ Overflows limit s → (readBounded limit s).result =
        .error (.failed (.bodyUnreadable BodyStream.cancelledText)))) ∧
    (∀ before c after, callsOf limit s = before ++ c :: after → c.Sets →
      CutShort limit s before c after) ∧
    (∀ c ∈ callsOf limit s, c.left.cancelled = true →
      s.cancelled = true ∨ ∃ before b after, callsOf limit s = before ++ b :: after ∧ b.Sets) ∧
    (Overflows limit s → callsOf limit s = [] ∧
      (readBounded limit s).result = .error (.panicked capacityOverflow)) := by
  refine ⟨chained_callsOf limit s, consumed_eq_length_handedOut limit s, ?_, ?_, ?_, ?_, ?_⟩
  · intro before c after h hset
    obtain ⟨-, h⟩ := of_callsOf_eq_append h
    obtain ⟨hcalls, -, -, hflag⟩ := readCalls_split before h
    obtain ⟨hfull, -, -⟩ := of_readCalls_eq_cons hcalls
    rw [hs] at hflag
    rw [readCalls_of_set hflag hset, if_neg hfull] at hcalls
    exact ⟨ReadCall.refused_of_set hflag hset, (List.cons.inj hcalls).2.symm⟩
  · intro hset
    refine ⟨handedOut_of_refused fun c hc => ?_, fun hroom => ?_⟩
    · unfold callsOf at hc
      split_ifs at hc
      · exact refused_of_mem_readCalls hs hset hc
      · simp at hc
    · rw [(readBounded_of_admits (admits_of_not_overflows hwithin hroom)).1, readAll_of_set hs hset]
      rfl
  · intro before c after h hsets
    exact cutShort_of_sets hs h hsets
  · intro c hc hset
    exact exists_sets hset (chained_callsOf limit s) hc
  · intro hover
    rw [readBounded_of_overflows hover]
    exact ⟨callsOf_of_overflows hover, rfl⟩

/-- An upload whose client goes away in the course of the second read, which is interrupted then. -/
def abandonedUpload : BodyStream :=
  { script := [.data [1, 2, 3], .cancel, .interrupted, .data [4]], cancellable := true }

theorem abandonedUpload_stops :
    abandonedUpload.cancellable = true ∧ DeclaresWithin 9 abandonedUpload ∧
    (∃ c d e, callsOf 9 abandonedUpload = [c] ++ d :: [e] ∧ d.Sets ∧ d.result = .interrupted ∧
      e.Refused) ∧
    (readBounded 9 abandonedUpload).result =
      .error (.failed (.bodyUnreadable BodyStream.cancelledText)) ∧
    (readBounded 9 abandonedUpload).consumed = 3 := by
  have hs : abandonedUpload.cancellable = true := rfl
  have hwithin : DeclaresWithin 9 abandonedUpload := fun n hn => by cases hn
  have hadmits : Admits 9 abandonedUpload := by decide
  let c := nextCall 9 [] abandonedUpload
  let d := nextCall 9 [1, 2, 3] c.left
  let e := nextCall 9 [1, 2, 3] d.left
  have hcalls : callsOf 9 abandonedUpload = [c] ++ d :: [e] := by
    rw [callsOf, if_pos hadmits, readCalls_of_goesOn (by decide) (by decide),
      readCalls_of_goesOn (by decide) (by decide), readCalls_of_not_goesOn (by decide) (by decide)]
    rfl
  have hsets : d.Sets := ⟨by decide, by decide⟩
  obtain ⟨-, hconsumed, -, -, hcut, -⟩ := cancelled_reading_stops 9 hs hwithin
  obtain ⟨hrefused, -, -, -, -, -, hstopped⟩ := hcut [c] d [e] hcalls hsets
  have hresult := hstopped (by decide) (fun text h => by cases h) (by decide)
  rw [hcalls] at hconsumed
  exact ⟨hs, hwithin, ⟨c, d, e, hcalls, hsets, rfl, hrefused e (by simp)⟩, hresult,
    hconsumed.trans (by decide)⟩

/-- An upload whose client is gone before the first read, and which declares more octets than there can
be room for. -/
def goneUpload : BodyStream :=
  { script := [.data [0x31, 0x32]], contentLength := some (maxCapacity + 1), cancellable := true
    cancelled := true }

/-- Its flag is set and its length is within the limit, but the reading does not fail for the flag. -/
theorem goneUpload_breaks_reading_off :
    let limit := maxCapacity + 1
    goneUpload.cancellable = true ∧ goneUpload.cancelled = true ∧ DeclaresWithin limit goneUpload ∧
      (readBounded limit goneUpload).result = .error (.panicked capacityOverflow) ∧
      (readBounded limit goneUpload).result ≠
        .error (.failed (.bodyUnreadable BodyStream.cancelledText)) := by
  intro limit
  have hover : Overflows limit goneUpload := ⟨limit, rfl, Nat.le_refl _, Nat.lt_succ_self _⟩
  have hstopped : (readBounded limit goneUpload).result = .error (.panicked capacityOverflow) := by
    rw [readBounded_of_overflows hover]
  refine ⟨rfl, rfl, fun n hn => Nat.le_of_eq (Option.some.inj hn).symm, hstopped, ?_⟩
  rw [hstopped]
  simp

end Body
end RequestBinding
