import RequestBinding.Proofs.Decimal.Natural
import RequestBinding.Proofs.Request.Building
import RequestBinding.Proofs.Service.Readiness

/-!
# The limit of bodies

A service has one limit for the bodies that it reads: the one that it is built with, else that of
the manifest, else the one that the environment writes, else a mebibyte.

1. `SpellsSize` is that a text writes a size, with any blanks around it. `readSize?_eq_some_iff`: it
   is read iff the size has 64 bits, so that no greater one wraps around.
2. `Service.Enforces` is what a limit does to requests; `enforces_iff`: a service has one limit.
3. `LimitFrom` is where a limit comes from; `enforced_limit_by_precedence`.
-/

namespace RequestBinding

/-! ## Sizes -/

/-- A size as it is written, in decimal or in hexadecimal behind a mark. -/
inductive WrittenSize : String → ℕ → Prop
  | decimal {text : String} {n : ℕ} (h : SpellsNatural 10 text n) : WrittenSize text n
  | hexadecimal {mark digits : String} {n : ℕ} (hmark : mark = "0x" ∨ mark = "0X")
      (h : SpellsNatural 16 digits n) : WrittenSize (mark ++ digits) n

/-- Whether a text writes a size, with any blanks around it. -/
def SpellsSize (text : String) (n : ℕ) : Prop :=
  ∃ front size back, text = front ++ size ++ back ∧ (∀ c ∈ front.toList, isBlank c = true) ∧
    (∀ c ∈ back.toList, isBlank c = true) ∧ WrittenSize size n

theorem SpellsNatural.not_isBlank {radix n : ℕ} (hradix : radix ≤ 16) {text : String}
    (h : SpellsNatural radix text n) : ∀ c ∈ text.toList, isBlank c = false := by
  obtain ⟨cs, ds, htext, -, hds, -⟩ := h
  have hcs : ∀ c ∈ cs, isBlank c = false := by
    intro c hc
    obtain ⟨d, -, hd⟩ := exists_mem_right_of_forall₂ hds c hc
    obtain ⟨hlow, hhigh⟩ := toNat_of_digitOf? ((digitOf?_eq_some_iff hradix).mpr hd)
    rw [← Bool.not_eq_true]
    simp only [isBlank, Bool.or_eq_true, Bool.and_eq_true, decide_eq_true_eq]
    omega
  obtain htext | htext := htext
  · rw [htext]
    exact hcs
  · rw [htext]
    exact List.forall_mem_cons.mpr ⟨rfl, hcs⟩

theorem WrittenSize.not_isBlank {text : String} {n : ℕ} (h : WrittenSize text n) :
    ∀ c ∈ text.toList, isBlank c = false := by
  cases h with
  | decimal h => exact h.not_isBlank (by decide)
  | hexadecimal hmark h =>
    rw [String.toList_append]
    refine List.forall_mem_append.mpr ⟨?_, h.not_isBlank (by decide)⟩
    obtain rfl | rfl := hmark
    · exact List.forall_mem_cons.mpr ⟨rfl, List.forall_mem_singleton.mpr rfl⟩
    · exact List.forall_mem_cons.mpr ⟨rfl, List.forall_mem_singleton.mpr rfl⟩

/-- What a text writes is what is left of it without the blanks around. -/
theorem spellsSize_iff {text : String} {n : ℕ} :
    SpellsSize text n ↔ WrittenSize (trimBlanks text) n := by
  constructor
  · rintro ⟨front, size, back, rfl, hfront, hback, h⟩
    rw [trimBlanks_of_padded hfront h.not_isBlank hback]
    exact h
  · intro h
    obtain ⟨front, back, htext, hfront, hback⟩ := exists_blanks_around text
    exact ⟨front, trimBlanks text, back, htext, hfront, hback, h⟩

section Marks

variable {mark digits : String} {n : ℕ}

/-- A mark is no part of a decimal number: its letter is no digit. -/
theorem not_spellsNatural_ten (hmark : mark = "0x" ∨ mark = "0X") :
    ¬ SpellsNatural 10 (mark ++ digits) n := by
  rintro ⟨cs, ds, htext, -, hds, -⟩
  obtain ⟨x, hx, hcs⟩ : ∃ x, digitOf? 10 x = none ∧
      (mark ++ digits).toList = '0' :: x :: digits.toList := by
    rw [String.toList_append]
    obtain rfl | rfl := hmark
    · exact ⟨'x', rfl, rfl⟩
    · exact ⟨'X', rfl, rfl⟩
  rw [hcs] at htext
  obtain rfl | htext := htext
  · obtain ⟨_, _, _, hrest, _⟩ := List.forall₂_cons_left_iff.mp hds
    obtain ⟨d, -, hd, -⟩ := List.forall₂_cons_left_iff.mp hrest
    rw [(digitOf?_eq_some_iff (by decide)).mpr hd] at hx
    cases hx
  · exact absurd (List.cons.inj htext).1 (by decide)

theorem mark_append_inj {mark' digits' : String} (hmark : mark = "0x" ∨ mark = "0X")
    (hmark' : mark' = "0x" ∨ mark' = "0X") (h : mark ++ digits = mark' ++ digits') :
    mark = mark' ∧ digits = digits' := by
  have hlength : ∀ {m : String}, m = "0x" ∨ m = "0X" → m.toList.length = 2 := by
    rintro m (rfl | rfl) <;> rfl
  rw [← String.toList_inj, String.toList_append, String.toList_append] at h
  obtain ⟨hfront, hback⟩ := List.append_inj h ((hlength hmark).trans (hlength hmark').symm)
  exact ⟨String.toList_inj.mp hfront, String.toList_inj.mp hback⟩

/-- Behind a mark stands a hexadecimal number. -/
theorem writtenSize_mark_iff (hmark : mark = "0x" ∨ mark = "0X") :
    WrittenSize (mark ++ digits) n ↔ SpellsNatural 16 digits n := by
  refine ⟨fun h => ?_, .hexadecimal hmark⟩
  generalize htext : mark ++ digits = text at h
  cases h with
  | decimal h =>
    rw [← htext] at h
    exact absurd h (not_spellsNatural_ten hmark)
  | hexadecimal hmark' h =>
    obtain ⟨-, rfl⟩ := mark_append_inj hmark hmark' htext
    exact h

theorem strippedMark_eq_some_iff {text : String} :
    (stripStart? "0x" text).or (stripStart? "0X" text) = some digits ↔
      ∃ mark, (mark = "0x" ∨ mark = "0X") ∧ text = mark ++ digits := by
  rw [Option.or_eq_some_iff, stripStart?_eq_some_iff, stripStart?_eq_some_iff]
  constructor
  · rintro (rfl | ⟨-, rfl⟩)
    · exact ⟨"0x", .inl rfl, rfl⟩
    · exact ⟨"0X", .inr rfl, rfl⟩
  · rintro ⟨_, rfl | rfl, rfl⟩
    · exact .inl rfl
    · refine .inr ⟨?_, rfl⟩
      rw [Option.eq_none_iff_forall_ne_some]
      intro rest hrest
      obtain ⟨hmarks, -⟩ := mark_append_inj (.inr rfl) (.inl rfl) (stripStart?_eq_some_iff.mp hrest)
      exact absurd hmarks (by decide)

end Marks

namespace RuntimeConfig

/-- The texts that are read are those of sizes of 64 bits. -/
theorem readSize?_eq_some_iff {text : String} {n : ℕ} :
    readSize? text = some n ↔ SpellsSize text n ∧ n < 2 ^ 64 := by
  have hbound : n < 2 ^ 64 ↔ n ≤ maxSize := by
    rw [maxSize]
    omega
  rw [spellsSize_iff, hbound, readSize?]
  generalize trimBlanks text = size
  cases hstripped : (stripStart? "0x" size).or (stripStart? "0X" size) with
  | some digits =>
    obtain ⟨mark, hmark, htext⟩ := strippedMark_eq_some_iff.mp hstripped
    rw [htext, writtenSize_mark_iff hmark]
    dsimp only
    rw [toOption_eq_some_iff, readNat_eq_ok_iff (by decide) (by decide)]
  | none =>
    dsimp only
    rw [toOption_eq_some_iff, readNat_eq_ok_iff (by decide) (by decide)]
    refine and_congr_left fun _ => ⟨.decimal, fun h => ?_⟩
    cases h with
    | decimal h => exact h
    | hexadecimal hmark h =>
      rw [strippedMark_eq_some_iff.mpr ⟨_, hmark, rfl⟩] at hstripped
      cases hstripped

/-- One more than the greatest size does not wrap around to nothing. -/
example : readSize? "0x10000000000000000" = none := by decide +kernel

end RuntimeConfig

/-! ## What a limit does -/

theorem judge_ne_bodyTooLarge {ctx : BindingContext} {p : Parameter} {payload : Octets} (n : ℕ) :
    p.judge ctx payload ≠ .error (.failed (.bodyTooLarge n)) := by
  intro h
  unfold Parameter.judge at h
  split at h
  · cases h
  · split at h
    · cases h
    · obtain ⟨violations, -, he⟩ := mapError_eq_error_iff.mp h
      cases he

/-- What has been read is not refused for its length. -/
theorem ofPayload_ne_bodyTooLarge {ctx : BindingContext} {p : Parameter} {payload : Octets}
    (n : ℕ) : p.ofPayload ctx payload ≠ .error (.failed (.bodyTooLarge n)) := by
  intro h
  unfold Parameter.ofPayload at h
  split_ifs at h with hempty
  · obtain ⟨-, he⟩ := withoutValue_eq_error h
    cases he
  · obtain hjudge | ⟨-, -, h⟩ := bind_eq_error_iff.mp h
    · exact judge_ne_bodyTooLarge n hjudge
    · obtain hdecode | ⟨v, -, h⟩ := bind_eq_error_iff.mp h
      · obtain ⟨e, hdecode, he⟩ := mapError_eq_error_iff.mp hdecode
        obtain rfl := Stop.failed.inj he
        obtain ⟨f, -, he⟩ | ⟨v, -, -, he⟩ := decode_eq_error hdecode
        · cases he
        · cases he
      · cases h

namespace Service

/-- Whether a service takes bodies up to a limit and no longer ones. -/
structure Enforces (s : Service) (limit : ℕ) : Prop where
  /-- A body within the limit is not refused for its length. -/
  takes : ∀ (op : Operation) (r : Request) (stream : BodyStream) (octets : Octets),
    r.body = some stream → stream.Carries octets → octets.length ≤ limit →
      ∀ n, (s.bind op r).result ≠ .error (.failed (.bodyTooLarge n))
  /-- A longer one is, if an operation has a body and its other parameters are in order. -/
  refuses : ∀ (op : Operation) (r : Request) (stream : BodyStream) (octets : Octets),
    r.body = some stream → stream.Carries octets → limit < octets.length →
      (∃ p ∈ op.parameters, p.isBody = true) →
      (∀ p ∈ op.parameters, p.isBody = false → ∃ v, p.resolveScalar r = .ok v) →
        (s.bind op r).result = .error (.failed (.bodyTooLarge limit))

variable {s : Service} {op : Operation} {r : Request} {stream : BodyStream} {octets : Octets}

theorem bind_ne_bodyTooLarge (hbody : r.body = some stream) (hstream : stream.Carries octets)
    (hlength : octets.length ≤ s.maxBodyOctets) (n : ℕ) :
    (s.bind op r).result ≠ .error (.failed (.bodyTooLarge n)) := by
  intro h
  obtain ⟨i, p, hp, he, -⟩ := result_bind_eq_error_iff.mp h
  cases hkind : p.isBody with
  | false =>
    rw [resolve_of_not_isBody hkind] at he
    cases scalarFailure_of_resolveScalar he
  | true =>
    rw [resolve_of_isBody hkind] at he
    cases hafter : r.bodyAfter (op.parameters.take i) with
    | none =>
      rw [hafter] at he
      obtain ⟨-, hmissing⟩ := withoutValue_eq_error he
      cases hmissing
    | some found =>
      obtain ⟨hfound, -⟩ := bodyAfter_eq_some_iff.mp hafter
      obtain rfl : stream = found := Option.some.inj (hbody.symm.trans hfound)
      rw [hafter] at he
      obtain hread | ⟨payload, -, he⟩ := bind_eq_error_iff.mp he
      · -- if there is no room for the body, it is not its length that is refused
        have hresult := hread.symm.trans (Body.result_of_carries_of_le hstream hlength)
        split_ifs at hresult
        cases hresult
      · exact ofPayload_ne_bodyTooLarge n he

theorem bind_eq_bodyTooLarge (hbody : r.body = some stream) (hstream : stream.Carries octets)
    (hlength : s.maxBodyOctets < octets.length) (hop : ∃ p ∈ op.parameters, p.isBody = true)
    (hscalars : ∀ p ∈ op.parameters, p.isBody = false → ∃ v, p.resolveScalar r = .ok v) :
    (s.bind op r).result = .error (.failed (.bodyTooLarge s.maxBodyOctets)) := by
  -- the first body parameter is the one that reads the body
  obtain ⟨p, hp⟩ := Option.isSome_iff_exists.mp (List.find?_isSome.mpr hop)
  obtain ⟨hkind, front, back, hparameters, hfront⟩ := List.find?_eq_some_iff_append.mp hp
  have hfront : ∀ q ∈ front, q.isBody = false := by simpa using hfront
  have hat : op.parameters[front.length]? = some p := by
    rw [hparameters, List.getElem?_append_right (Nat.le_refl _), Nat.sub_self]
    rfl
  have hfound : r.bodyAfter (op.parameters.take front.length) = some stream := by
    rw [hparameters, List.take_left]
    exact bodyAfter_eq_some_iff.mpr ⟨hbody, hfront⟩
  refine result_bind_eq_error_iff.mpr ⟨front.length, p, hat, ?_, fun j hj q hq => ?_⟩
  · have hread : (Body.readBounded s.context.maxBodyOctets stream).result =
        .error (.failed (.bodyTooLarge s.maxBodyOctets)) :=
      Body.result_of_carries_of_lt hstream hlength
    rw [resolve_of_isBody hkind, hfound, Parameter.resolveBody, hread, error_bind]
  · rw [hparameters, List.getElem?_append_left hj] at hq
    have hmem : q ∈ front := List.mem_of_getElem? hq
    obtain ⟨v, hv⟩ := hscalars q (hparameters ▸ List.mem_append_left _ hmem) (hfront q hmem)
    exact ⟨v, (resolve_of_not_isBody (hfront q hmem) s.context r j).trans hv⟩

/-- A service enforces one limit, the one that it holds. -/
theorem enforces_iff {limit : ℕ} : s.Enforces limit ↔ s.maxBodyOctets = limit := by
  have hheld : s.Enforces s.maxBodyOctets :=
    ⟨fun _ _ _ _ hbody hstream hlength => bind_ne_bodyTooLarge hbody hstream hlength,
      fun _ _ _ _ hbody hstream hlength => bind_eq_bodyTooLarge hbody hstream hlength⟩
  refine ⟨fun h => ?_, fun h => h ▸ hheld⟩
  -- both limits refuse a body that is longer than either of them
  let p : Parameter := { name := "upload", location := .body, type := .string }
  let octets : Octets := List.replicate (max limit s.maxBodyOctets + 1) 0x30
  let r : Request := { id := ⟨0⟩, method := "POST", path := "/", body := some (.ofOctets octets) }
  have hlength : octets.length = max limit s.maxBodyOctets + 1 := List.length_replicate
  have hrefused : ∀ n, s.Enforces n → n < octets.length →
      (s.bind ⟨"upload", "POST", "/", [p]⟩ r).result = .error (.failed (.bodyTooLarge n)) := by
    intro n hn hlong
    refine hn.refuses _ r _ octets rfl (carries_ofOctets octets) hlong
      ⟨p, List.mem_singleton.mpr rfl, rfl⟩ ?_
    intro q hq hscalar
    rw [List.mem_singleton.mp hq] at hscalar
    cases hscalar
  have hresult := (hrefused limit h (by omega)).symm.trans (hrefused _ hheld (by omega))
  exact (BindingError.bodyTooLarge.inj (Stop.failed.inj (Except.error.inj hresult))).symm

end Service

/-! ## Where a limit comes from -/

/-- Where the limit of a service comes from, among the text of the environment, the limit of the
manifest, and the one that the service is built with. -/
inductive LimitFrom : Option String → Option ℕ → Option ℕ → ℕ → Prop
  | built (text : Option String) (declared : Option ℕ) (n : ℕ) : LimitFrom text declared (some n) n
  | declared (text : Option String) (n : ℕ) : LimitFrom text (some n) none n
  | environment {text : String} {n : ℕ} (h : SpellsSize text n) (hn : n < 2 ^ 64) :
      LimitFrom (some text) none none n
  | standard {text : Option String}
      (h : ∀ written n, text = some written → SpellsSize written n → 2 ^ 64 ≤ n) :
      LimitFrom text none none 1048576

theorem WrittenSize.unique {text : String} {m n : ℕ} (hm : WrittenSize text m)
    (hn : WrittenSize text n) : m = n := by
  cases hm with
  | decimal hm =>
    cases hn with
    | decimal hn => exact hm.unique (by decide) (by decide) hn
    | hexadecimal hmark _ => exact absurd hm (not_spellsNatural_ten hmark)
  | hexadecimal hmark hm =>
    exact hm.unique (by decide) (by decide) ((writtenSize_mark_iff hmark).mp hn)

theorem SpellsSize.unique {text : String} {m n : ℕ} (hm : SpellsSize text m)
    (hn : SpellsSize text n) : m = n :=
  (spellsSize_iff.mp hm).unique (spellsSize_iff.mp hn)

/-- The limit of a service is chosen as it says where limits come from. -/
theorem limitFrom_iff {text : Option String} {declared built : Option ℕ} {limit : ℕ} :
    LimitFrom text declared built limit ↔
      (built.or declared).getD ((text.bind RuntimeConfig.readSize?).getD 1048576) = limit := by
  cases built with
  | some n =>
    constructor
    · rintro ⟨⟩
      rfl
    · rintro rfl
      exact .built text declared n
  | none =>
    cases declared with
    | some n =>
      constructor
      · rintro ⟨⟩
        rfl
      · rintro rfl
        exact .declared text n
    | none =>
      rw [Option.or_none, Option.getD_none]
      cases hread : text.bind RuntimeConfig.readSize? with
      | some n =>
        obtain ⟨written, rfl, hwritten⟩ := Option.bind_eq_some_iff.mp hread
        obtain ⟨hsize, hn⟩ := RuntimeConfig.readSize?_eq_some_iff.mp hwritten
        constructor
        · intro h
          cases h with
          | environment h _ => exact hsize.unique h
          | standard h => exact absurd hn (Nat.not_lt.mpr (h written n rfl hsize))
        · rintro rfl
          exact .environment hsize hn
      | none =>
        constructor
        · intro h
          cases h with
          | environment h hn =>
            rw [Option.bind_some, RuntimeConfig.readSize?_eq_some_iff.mpr ⟨h, hn⟩] at hread
            cases hread
          | standard _ => rfl
        · rintro rfl
          refine .standard fun written n htext hsize => ?_
          by_contra hn
          rw [htext, Option.bind_some,
            RuntimeConfig.readSize?_eq_some_iff.mpr ⟨hsize, Nat.not_le.mp hn⟩] at hread
          cases hread

/-- A service that starts enforces the limit that it is built with, else that of its manifest, else
the size that the environment writes, else the standard one, and no other. A size of more than 64 bits
does not count, whatever its low bits are. -/
theorem enforced_limit_by_precedence (env : Environment) (built : Option ℕ) (validator : Validator)
    (m : Manifest) {s : Service}
    (hs : (Service.build
      { config := .ofEnvironment env, maxBodyOctets := built, validator } m).value = .ok s) :
    (∃ limit, s.Enforces limit) ∧
    (∀ limit, s.Enforces limit ↔
      LimitFrom (env "BRRTB_MAX_BODY_BYTES") m.maxBodyOctets built limit) ∧
    ∀ text n, env "BRRTB_MAX_BODY_BYTES" = some text → SpellsSize text n → 2 ^ 64 ≤ n →
      m.maxBodyOctets = none → built = none → s.Enforces 1048576 := by
  obtain ⟨-, -, -, hheld⟩ := buildWith_eq_ok hs
  have hiff : ∀ limit, s.Enforces limit ↔
      LimitFrom (env "BRRTB_MAX_BODY_BYTES") m.maxBodyOctets built limit := by
    intro limit
    rw [Service.enforces_iff, limitFrom_iff, hheld]
    rfl
  refine ⟨⟨s.maxBodyOctets, Service.enforces_iff.mpr rfl⟩, hiff, ?_⟩
  intro text n htext hsize hn hm hbuilt
  rw [hiff, hm, hbuilt]
  refine .standard fun written k hwritten hk => ?_
  obtain rfl : text = written := Option.some.inj (htext.symm.trans hwritten)
  rw [hk.unique hsize]
  exact hn

/-- A limit in hexadecimal between blanks, for a manifest that leaves it to the environment. -/
theorem hexadecimal_limit_is_enforced :
    let env : Environment := fun name =>
      if name = "BRRTB_MAX_BODY_BYTES" then some " 0X+1fE\t" else none
    let s : Service := { operations := [], schemas := [], maxBodyOctets := 510 }
    (Service.build { config := .ofEnvironment env } {}).value = .ok s ∧
      SpellsSize " 0X+1fE\t" 510 ∧ s.Enforces 510 := by
  intro env s
  have htext : env "BRRTB_MAX_BODY_BYTES" = some " 0X+1fE\t" := if_pos rfl
  have hformats : env "BRRTB_SCHEMA_FORMATS" = none := if_neg (by decide)
  have hread : RuntimeConfig.readSize? " 0X+1fE\t" = some 510 := by decide +kernel
  have hconfig : RuntimeConfig.ofEnvironment env = { maxBodyOctets := 510 } := by
    rw [RuntimeConfig.ofEnvironment, htext, hformats, Option.bind_some, hread]
    rfl
  have hs : (Service.build { config := .ofEnvironment env } {}).value = .ok s := by
    rw [hconfig]
    rfl
  obtain ⟨hsize, hbits⟩ := RuntimeConfig.readSize?_eq_some_iff.mp hread
  obtain ⟨-, hlimit, -⟩ := enforced_limit_by_precedence env none .standard {} hs
  exact ⟨hs, hsize, (hlimit 510).mpr (htext ▸ .environment hsize hbits)⟩

end RequestBinding
