import RequestBinding.Binding.Body
import Mathlib.Data.List.Basic

/-!
# Reading bodies

What a script of reads delivers, and how a bounded reading relates to it.

1. `readAll_eq` says what the loop reads when no read is refused.
2. `declared_cases` tells by the declared length whether a bounded reading comes to its loop at all.
   `readBounded_of_declared`, `readBounded_of_overflows` and `readBounded_of_admits` say what it comes
   to.
3. A reading that succeeds has seen the whole script: `readBounded_eq_ok` says that it gives all the
   data, within the limit. When no read is refused, `result_of_admits` says what comes of any reading.
4. `readBounded_handsOut` says of every reading how much its reads hand out.
-/

namespace RequestBinding

/-- The data of a script up to its first failure or its end. -/
def delivered : List ReadEvent → Octets
  | [] => []
  | .data bytes :: rest => bytes ++ delivered rest
  | .interrupted :: rest => delivered rest
  | .failure _ :: _ => []
  | .cancel :: rest => delivered rest

/-- The text of a script's first failure, if it has one. -/
def failureOf? : List ReadEvent → Option String
  | [] => none
  | .failure text :: _ => some text
  | _ :: rest => failureOf? rest

/-! ## One read -/

/-- What a read gives, and leaves, of what a script delivers. -/
def ReadLaw (want : ℕ) (script : List ReadEvent) : ReadResult → List ReadEvent → Prop
  | .data [], _ => delivered script = [] ∧ failureOf? script = none
  | .data bytes, rest => bytes.length ≤ want ∧ delivered script = bytes ++ delivered rest ∧
      failureOf? script = failureOf? rest
  | .interrupted, rest => delivered script = delivered rest ∧ failureOf? script = failureOf? rest
  | .failure text, _ => delivered script = [] ∧ failureOf? script = some text

/-- What is left of a piece of data stays in front of the script. -/
theorem delivered_left (left : Octets) (rest : List ReadEvent) :
    delivered (if left.isEmpty then rest else .data left :: rest) = left ++ delivered rest := by
  cases left <;> rfl

theorem failureOf?_left (left : Octets) (rest : List ReadEvent) :
    failureOf? (if left.isEmpty then rest else .data left :: rest) = failureOf? rest := by
  cases left <;> rfl

theorem readLaw_playRead {want : ℕ} (hw : 0 < want) (cancelled : Bool) (script : List ReadEvent) :
    ReadLaw want script (playRead want cancelled script).1 (playRead want cancelled script).2.1 := by
  fun_induction playRead want cancelled script with
  | case1 => exact ⟨rfl, rfl⟩
  | case2 cancelled rest ih => exact ih
  | case3 cancelled b bs rest left =>
    obtain ⟨w, rfl⟩ := Nat.exists_eq_succ_of_ne_zero (Nat.ne_of_gt hw)
    refine ⟨List.length_take_le _ (b :: bs), ?_, (failureOf?_left left rest).symm⟩
    have hsplit : (b :: bs).take (w + 1) ++ left = b :: bs := List.take_append_drop _ _
    calc delivered (.data (b :: bs) :: rest) = (b :: bs) ++ delivered rest := rfl
      _ = (b :: bs).take (w + 1) ++ (left ++ delivered rest) := by
        rw [← List.append_assoc, hsplit]
      _ = _ := by rw [← delivered_left left rest]
  | case4 cancelled rest => exact ⟨rfl, rfl⟩
  | case5 cancelled text rest => exact ⟨rfl, rfl⟩
  | case6 cancelled rest ih => exact ih

/-- A read is refused when the flag is set, and else plays the script. -/
theorem read_cases {want : ℕ} (hw : 0 < want) {s s' : BodyStream} {result : ReadResult}
    (h : s.read want = (result, s')) :
    result = .failure BodyStream.cancelledText ∨ ReadLaw want s.script result s'.script := by
  unfold BodyStream.read at h
  split_ifs at h with hc
  · exact .inl (Prod.ext_iff.mp h).1.symm
  · obtain ⟨rfl, rfl⟩ := Prod.ext_iff.mp h
    exact .inr (readLaw_playRead hw s.cancelled s.script)

/-- Whether no read of a stream is refused: it has no flag, or nothing sets the flag. -/
def BodyStream.Unrefused (s : BodyStream) : Prop :=
  s.cancellable = true → s.cancelled = false ∧ .cancel ∉ s.script

/-- Whether a stream carries octets whole: no read is refused or fails, and no other length is
declared. -/
structure BodyStream.Carries (s : BodyStream) (octets : Octets) : Prop where
  unrefused : s.Unrefused
  delivered : delivered s.script = octets
  failure : failureOf? s.script = none
  length : ∀ n, s.contentLength = some n → n = octets.length

theorem carries_ofOctets (octets : Octets) : (BodyStream.ofOctets octets).Carries octets where
  unrefused h := Bool.noConfusion h
  delivered := List.append_nil octets
  failure := rfl
  length _ hn := (Option.some.inj hn).symm

/-- Playing a script without cancellation sets no flag, and leaves such a script. -/
theorem playRead_of_notMem_cancel (want : ℕ) (cancelled : Bool) {script : List ReadEvent}
    (h : .cancel ∉ script) :
    (playRead want cancelled script).2.2 = cancelled ∧
      .cancel ∉ (playRead want cancelled script).2.1 := by
  fun_induction playRead want cancelled script with
  | case1 => exact ⟨rfl, h⟩
  | case2 cancelled rest ih => exact ih (List.not_mem_of_not_mem_cons h)
  | case3 cancelled b bs rest left =>
    refine ⟨rfl, ?_⟩
    have hrest := List.not_mem_of_not_mem_cons h
    dsimp only
    split_ifs
    · exact hrest
    · simpa using hrest
  | case4 cancelled rest => exact ⟨rfl, List.not_mem_of_not_mem_cons h⟩
  | case5 cancelled text rest => exact ⟨rfl, List.not_mem_of_not_mem_cons h⟩
  | case6 cancelled rest => exact absurd List.mem_cons_self h

/-- A read that is not refused plays the script, and none after it is refused. -/
theorem readLaw_of_unrefused {want : ℕ} (hw : 0 < want) {s s' : BodyStream} {result : ReadResult}
    (hs : s.Unrefused) (h : s.read want = (result, s')) :
    ReadLaw want s.script result s'.script ∧ s'.Unrefused := by
  unfold BodyStream.read at h
  have hflag : (s.cancellable && s.cancelled) = false := by
    cases hc : s.cancellable with
    | false => rfl
    | true => rw [(hs hc).1]; rfl
  rw [hflag, if_neg Bool.false_ne_true] at h
  obtain ⟨rfl, rfl⟩ := Prod.ext_iff.mp h
  refine ⟨readLaw_playRead hw s.cancelled s.script, fun hc => ?_⟩
  obtain ⟨hunset, hscript⟩ := hs hc
  obtain ⟨hkept, hrest⟩ := playRead_of_notMem_cancel want s.cancelled hscript
  exact ⟨hkept.trans hunset, hrest⟩

/-- The octets that a read gives. -/
def ReadResult.octets : ReadResult → Octets
  | .data bytes => bytes
  | .interrupted => []
  | .failure _ => []

/-- Whether some reads of a stream, one after the other, hand out the given octets and leave the given
stream. -/
inductive BodyStream.HandsOut : BodyStream → Octets → BodyStream → Prop
  | nothing (s : BodyStream) : s.HandsOut [] s
  | read (want : ℕ) {s left : BodyStream} {octets : Octets}
      (rest : (s.read want).2.HandsOut octets left) :
      s.HandsOut ((s.read want).1.octets ++ octets) left

/-- One read hands out what it gives. -/
theorem BodyStream.HandsOut.single {want : ℕ} {s s' : BodyStream} {result : ReadResult}
    (h : s.read want = (result, s')) : s.HandsOut result.octets s' := by
  have hread := HandsOut.read want (HandsOut.nothing (s.read want).2)
  rwa [h, List.append_nil] at hread

/-- A read in front of others. -/
theorem BodyStream.HandsOut.step {want : ℕ} {s s' left : BodyStream} {result : ReadResult}
    {octets : Octets} (h : s.read want = (result, s')) (rest : s'.HandsOut octets left) :
    s.HandsOut (result.octets ++ octets) left := by
  have hread : s.HandsOut ((s.read want).1.octets ++ octets) left := .read want (by rwa [h])
  rwa [h] at hread

/-- A read gives no more octets than it asks for. -/
theorem length_read_le {want : ℕ} (hw : 0 < want) {s s' : BodyStream} {bytes : Octets}
    (h : s.read want = (.data bytes, s')) : bytes.length ≤ want := by
  obtain hc | hlaw := read_cases hw h
  · cases hc
  · cases bytes with
    | nil => exact Nat.zero_le want
    | cons b bs => exact hlaw.1

/-! ## The loop -/

namespace Body

theorem want_pos {limit n : ℕ} (hn : limit + 1 - n ≠ 0) : 0 < min (limit + 1 - n) chunkSize := by
  unfold chunkSize
  omega

/-- What a loop reads that has read some octets, when no read is refused: all the data, but no more than
one octet above the limit. It meets a failure behind the data if they are within the limit. -/
theorem readAll_eq (limit : ℕ) (read : Octets) (s : BodyStream) (hs : s.Unrefused)
    (hread : read.length ≤ limit + 1) :
    readAll limit read s =
      { octets := read ++ (delivered s.script).take (limit + 1 - read.length)
        failure := if read.length + (delivered s.script).length ≤ limit then failureOf? s.script
          else none } := by
  fun_induction readAll limit read s with
  | case1 read s hr =>
    rw [hr, List.take_zero, List.append_nil, if_neg (by omega)]
  | case2 read s hr s' h =>
    obtain ⟨⟨hd, hn⟩, -⟩ := readLaw_of_unrefused (want_pos hr) hs h
    rw [hd, hn, List.take_nil, List.append_nil, ite_self]
  | case3 read s hr b bs s' h ih =>
    obtain ⟨⟨hlen, hd, hn⟩, hs'⟩ := readLaw_of_unrefused (want_pos hr) hs h
    have hfits : (b :: bs).length ≤ limit + 1 - read.length := Nat.le_trans hlen (Nat.min_le_left _ _)
    have hlength : (read ++ b :: bs).length = read.length + (b :: bs).length := List.length_append
    rw [ih hs' (by omega), hd, hn, List.take_append, List.take_of_length_le hfits, hlength,
      List.length_append, Nat.sub_sub, Nat.add_assoc, List.append_assoc]
  | case4 read s hr s' h ih =>
    obtain ⟨⟨hd, hn⟩, hs'⟩ := readLaw_of_unrefused (want_pos hr) hs h
    rw [ih hs' hread, hd, hn]
  | case5 read s hr text s' h =>
    obtain ⟨⟨hd, hn⟩, -⟩ := readLaw_of_unrefused (want_pos hr) hs h
    have hwithin : read.length + ([] : Octets).length ≤ limit := by
      rw [List.length_nil]
      omega
    rw [hd, hn, List.take_nil, List.append_nil, if_pos hwithin]

/-- A reading that ends without a failure and within the limit has all that the script delivers. -/
theorem octets_readAll_of_ok (limit : ℕ) (read : Octets) (s : BodyStream)
    (hf : (readAll limit read s).failure = none)
    (hl : (readAll limit read s).octets.length ≤ limit) :
    (readAll limit read s).octets = read ++ delivered s.script ∧ failureOf? s.script = none := by
  fun_induction readAll limit read s with
  | case1 read s hr =>
    have : read.length ≤ limit := hl
    omega
  | case2 read s hr s' h =>
    obtain hc | ⟨hd, hn⟩ := read_cases (want_pos hr) h
    · cases hc
    · exact ⟨by rw [hd, List.append_nil], hn⟩
  | case3 read s hr b bs s' h ih =>
    obtain hc | ⟨-, hd, hn⟩ := read_cases (want_pos hr) h
    · cases hc
    · obtain ⟨ho, hrest⟩ := ih hf hl
      refine ⟨?_, hn.trans hrest⟩
      rw [ho, hd, List.append_assoc]
  | case4 read s hr s' h ih =>
    obtain hc | ⟨hd, hn⟩ := read_cases (want_pos hr) h
    · cases hc
    · obtain ⟨ho, hrest⟩ := ih hf hl
      exact ⟨by rw [ho, hd], hn.trans hrest⟩
  | case5 read s hr text s' h => cases hf

/-- What a loop adds to the octets read so far is what its reads hand out, whatever they meet: no more
than one octet above the limit in all. -/
theorem readAll_handsOut (limit : ℕ) (read : Octets) (s : BodyStream)
    (hread : read.length ≤ limit + 1) :
    ∃ taken left, s.HandsOut taken left ∧ (readAll limit read s).octets = read ++ taken ∧
      read.length + taken.length ≤ limit + 1 := by
  fun_induction readAll limit read s with
  | case1 read s hr => exact ⟨[], s, .nothing s, (List.append_nil read).symm, hread⟩
  | case2 read s hr s' h => exact ⟨[], s', .single h, (List.append_nil read).symm, hread⟩
  | case3 read s hr b bs s' h ih =>
    have hwant : (b :: bs).length ≤ limit + 1 - read.length :=
      Nat.le_trans (length_read_le (want_pos hr) h) (Nat.min_le_left _ _)
    have hlength : (read ++ b :: bs).length = read.length + (b :: bs).length := List.length_append
    obtain ⟨taken, left, htaken, hoctets, hbound⟩ := ih (by omega)
    refine ⟨b :: bs ++ taken, left, .step h htaken, ?_, ?_⟩
    · rw [hoctets, List.append_assoc]
    · rw [List.length_append]
      omega
  | case4 read s hr s' h ih =>
    obtain ⟨taken, left, htaken, hoctets, hbound⟩ := ih hread
    exact ⟨taken, left, .step h htaken, hoctets, hbound⟩
  | case5 read s hr text s' h => exact ⟨[], s', .single h, (List.append_nil read).symm, hread⟩

/-! ## Bounded readings -/

/-- What comes of what a loop has read. -/
def Reading.outcome (limit : ℕ) (r : Reading) : Except Stop Octets :=
  match r.failure with
  | some text => .error (.failed (.bodyUnreadable text))
  | none =>
    if limit < r.octets.length then .error (.failed (.bodyTooLarge limit)) else .ok r.octets

theorem Reading.outcome_eq_ok {limit : ℕ} {r : Reading} {payload : Octets}
    (h : r.outcome limit = .ok payload) :
    r.failure = none ∧ r.octets = payload ∧ payload.length ≤ limit := by
  unfold Reading.outcome at h
  cases hf : r.failure with
  | some text =>
    rw [hf] at h
    cases h
  | none =>
    simp only [hf] at h
    split_ifs at h with hlimit
    obtain rfl := Except.ok.inj h
    exact ⟨rfl, rfl, Nat.not_lt.mp hlimit⟩

/-- Whether a stream declares no length above a limit. -/
def DeclaresWithin (limit : ℕ) (s : BodyStream) : Prop := ∀ n, s.contentLength = some n → n ≤ limit

/-- Whether there is no room for a length that a stream declares within a limit. -/
def Overflows (limit : ℕ) (s : BodyStream) : Prop :=
  ∃ n, s.contentLength = some n ∧ n ≤ limit ∧ maxCapacity < n

/-- Whether a reading comes to its reads: there is room for a declared length, within the limit. -/
def Admits (limit : ℕ) (s : BodyStream) : Prop :=
  ∀ n ∈ s.contentLength, n ≤ limit ∧ n ≤ maxCapacity

instance (limit : ℕ) (s : BodyStream) : Decidable (Admits limit s) :=
  inferInstanceAs (Decidable (∀ n ∈ s.contentLength, n ≤ limit ∧ n ≤ maxCapacity))

theorem admits_of_not_overflows {limit : ℕ} {s : BodyStream} (h : DeclaresWithin limit s)
    (hroom : ¬ Overflows limit s) : Admits limit s :=
  fun n hn => ⟨h n hn, Nat.not_lt.mp fun hn' => hroom ⟨n, hn, h n hn, hn'⟩⟩

theorem not_admits_of_overflows {limit : ℕ} {s : BodyStream} (h : Overflows limit s) :
    ¬ Admits limit s := by
  obtain ⟨n, hn, -, hroom⟩ := h
  exact fun hadmits => absurd hroom (Nat.not_lt.mpr (hadmits n hn).2)

/-- A reading refuses the declared length, finds no room for it, or comes to its reads. -/
theorem declared_cases (limit : ℕ) (s : BodyStream) :
    (∃ n, s.contentLength = some n ∧ limit < n) ∨ Overflows limit s ∨ Admits limit s := by
  cases hn : s.contentLength with
  | none =>
    refine .inr (.inr fun n hsome => ?_)
    rw [hn] at hsome
    cases hsome
  | some n =>
    by_cases hlimit : limit < n
    · exact .inl ⟨n, rfl, hlimit⟩
    · right
      by_cases hroom : maxCapacity < n
      · exact .inl ⟨n, hn, Nat.not_lt.mp hlimit, hroom⟩
      · refine .inr fun m hm => ?_
        obtain rfl : n = m := Option.some.inj (hn.symm.trans hm)
        exact ⟨Nat.not_lt.mp hlimit, Nat.not_lt.mp hroom⟩

/-- A body that declares a length above the limit is refused, and not read. -/
theorem readBounded_of_declared {limit n : ℕ} {s : BodyStream} (hn : s.contentLength = some n)
    (hlimit : limit < n) :
    (readBounded limit s).result = .error (.failed (.bodyTooLarge limit)) ∧
      (readBounded limit s).consumed = 0 := by
  have hrefused : s.contentLength.filter (limit < ·) = some n := by
    rw [hn]
    exact Option.filter_some_pos (decide_eq_true hlimit)
  unfold readBounded
  rw [hrefused]
  exact ⟨rfl, rfl⟩

theorem filter_contentLength {limit : ℕ} {s : BodyStream} (h : DeclaresWithin limit s) :
    s.contentLength.filter (limit < ·) = none := by
  rw [Option.filter_eq_none_iff]
  intro n hn
  have := h n hn
  simp
  omega

/-- A declared length that there is no room for breaks the reading off before the first read. -/
theorem readBounded_of_overflows {limit : ℕ} {s : BodyStream} (h : Overflows limit s) :
    readBounded limit s =
      { result := .error (.panicked capacityOverflow), consumed := 0, events := [] } := by
  obtain ⟨n, hn, hlimit, hroom⟩ := h
  have hwithin : DeclaresWithin limit s := fun m hm => by
    obtain rfl : n = m := Option.some.inj (hn.symm.trans hm)
    exact hlimit
  have hcapacity : capacity limit s = n := by
    rw [capacity, hn, Option.getD_some, Nat.min_eq_left hlimit]
  unfold readBounded
  rw [filter_contentLength hwithin, hcapacity]
  exact if_pos hroom

/-- Otherwise a bounded reading comes to what its loop has read. -/
theorem readBounded_of_admits {limit : ℕ} {s : BodyStream} (h : Admits limit s) :
    (readBounded limit s).result = (readAll limit [] s).outcome limit ∧
      (readBounded limit s).consumed = (readAll limit [] s).octets.length := by
  have hroom : ¬ maxCapacity < capacity limit s := by
    unfold capacity
    cases hn : s.contentLength with
    | none => simp
    | some n =>
      have := (h n hn).2
      rw [Option.getD_some]
      omega
  unfold readBounded Reading.outcome
  rw [filter_contentLength fun n hn => (h n hn).1]
  dsimp only
  rw [if_neg hroom]
  cases (readAll limit [] s).failure with
  | some text => exact ⟨rfl, rfl⟩
  | none =>
    dsimp only
    split_ifs <;> exact ⟨rfl, rfl⟩

/-- A bounded reading takes what its reads hand out, and no more than one octet above the limit. -/
theorem readBounded_handsOut (limit : ℕ) (s : BodyStream) :
    (∃ taken left, s.HandsOut taken left ∧ taken.length = (readBounded limit s).consumed) ∧
      (readBounded limit s).consumed ≤ limit + 1 := by
  obtain ⟨n, hn, hlimit⟩ | hroom | hadmits := declared_cases limit s
  · rw [(readBounded_of_declared hn hlimit).2]
    exact ⟨⟨[], s, .nothing s, rfl⟩, Nat.zero_le _⟩
  · rw [readBounded_of_overflows hroom]
    exact ⟨⟨[], s, .nothing s, rfl⟩, Nat.zero_le _⟩
  · obtain ⟨taken, left, htaken, hoctets, hbound⟩ := readAll_handsOut limit [] s (Nat.zero_le _)
    rw [List.nil_append] at hoctets
    rw [List.length_nil, Nat.zero_add] at hbound
    rw [(readBounded_of_admits hadmits).2, hoctets]
    exact ⟨⟨taken, left, htaken, rfl⟩, hbound⟩

/-- A bounded reading that succeeds gives all the data of a script without failures, within the
limit. -/
theorem readBounded_eq_ok {limit : ℕ} {s : BodyStream} {payload : Octets}
    (h : (readBounded limit s).result = .ok payload) :
    payload = delivered s.script ∧ failureOf? s.script = none ∧ payload.length ≤ limit := by
  obtain ⟨n, hn, hlimit⟩ | hroom | hadmits := declared_cases limit s
  · rw [(readBounded_of_declared hn hlimit).1] at h
    cases h
  · rw [readBounded_of_overflows hroom] at h
    cases h
  · rw [(readBounded_of_admits hadmits).1] at h
    obtain ⟨hf, rfl, hl⟩ := Reading.outcome_eq_ok h
    obtain ⟨ho, hn⟩ := octets_readAll_of_ok limit [] s hf hl
    exact ⟨ho, hn, hl⟩

/-- What comes of a bounded reading that comes to its reads, when none of them is refused. How the data
are cut into pieces plays no part. -/
theorem result_of_admits {limit : ℕ} {s : BodyStream} (hs : s.Unrefused) (h : Admits limit s) :
    (readBounded limit s).result =
      if limit < (delivered s.script).length then .error (.failed (.bodyTooLarge limit))
      else match failureOf? s.script with
        | some text => .error (.failed (.bodyUnreadable text))
        | none => .ok (delivered s.script) := by
  have hread := readAll_eq limit [] s hs (Nat.zero_le _)
  rw [List.nil_append, List.length_nil, Nat.sub_zero, Nat.zero_add] at hread
  rw [(readBounded_of_admits h).1, hread]
  unfold Reading.outcome
  by_cases hlimit : limit < (delivered s.script).length
  · have hover : limit < ((delivered s.script).take (limit + 1)).length := by
      rw [List.length_take]
      omega
    rw [if_neg (Nat.not_le.mpr hlimit), if_pos hlimit]
    exact if_pos hover
  · have hall : (delivered s.script).take (limit + 1) = delivered s.script :=
      List.take_of_length_le (by omega)
    rw [if_pos (Nat.not_lt.mp hlimit), if_neg hlimit, hall]
    cases failureOf? s.script with
    | some text => rfl
    | none => exact if_neg hlimit

/-! ## Bodies that are carried whole -/

/-- A body above the limit is refused, declared or not. -/
theorem result_of_carries_of_lt {limit : ℕ} {s : BodyStream} {octets : Octets}
    (hs : s.Carries octets) (hlimit : limit < octets.length) :
    (readBounded limit s).result = .error (.failed (.bodyTooLarge limit)) := by
  obtain ⟨n, hn, hdeclared⟩ | ⟨n, hn, hwithin, -⟩ | hadmits := declared_cases limit s
  · exact (readBounded_of_declared hn hdeclared).1
  · obtain rfl := hs.length n hn
    omega
  · rw [result_of_admits hs.unrefused hadmits, hs.delivered, if_pos hlimit]

/-- A body within the limit is read, unless it declares a length that there is no room for. -/
theorem result_of_carries_of_le {limit : ℕ} {s : BodyStream} {octets : Octets}
    (hs : s.Carries octets) (hlimit : octets.length ≤ limit) :
    (readBounded limit s).result =
      if s.contentLength.isSome ∧ maxCapacity < octets.length then .error (.panicked capacityOverflow)
      else .ok octets := by
  obtain ⟨n, hn, hdeclared⟩ | ⟨n, hn, hwithin, hroom⟩ | hadmits := declared_cases limit s
  · obtain rfl := hs.length n hn
    omega
  · have hover : Overflows limit s := ⟨n, hn, hwithin, hroom⟩
    obtain rfl := hs.length n hn
    rw [readBounded_of_overflows hover, hn, if_pos ⟨rfl, hroom⟩]
  · have hroom : ¬ (s.contentLength.isSome ∧ maxCapacity < octets.length) := by
      rintro ⟨hsome, hover⟩
      obtain ⟨n, hn⟩ := Option.isSome_iff_exists.mp hsome
      have := (hadmits n hn).2
      obtain rfl := hs.length n hn
      omega
    rw [result_of_admits hs.unrefused hadmits, hs.delivered, hs.failure, if_neg hroom,
      if_neg (Nat.not_lt.mpr hlimit)]

end Body
end RequestBinding
