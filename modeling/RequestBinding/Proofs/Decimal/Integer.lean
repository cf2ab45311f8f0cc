import RequestBinding.Proofs.Decimal.Written

/-!
# Integer texts

An integer is written with digits, and may have a sign. A text is read as an integer type if it writes
an integer that the type holds.

1. `readDigits_eq_ok_iff`: stopping at the first number above a bound is reading without a bound and
   comparing at the end.
2. `WrittenInteger` is an integer by the parts of its text; `readInt_eq_ok_iff` is what is read of it.
3. `integer_text_reads_as_written`: which texts are integers of a type, and which ones.
-/

namespace RequestBinding

/-! ## Digits with a bound -/

/-- The number that digits of a radix write behind `n`, if all characters are digits. -/
def numberOf? (radix : ℕ) : ℕ → List Char → Option ℕ
  | n, [] => some n
  | n, c :: cs => (digitOf? radix c).bind fun d => numberOf? radix (radix * n + d) cs

theorem le_of_numberOf? {radix m : ℕ} (hradix : 0 < radix) (cs : List Char) :
    ∀ {n}, numberOf? radix n cs = some m → n ≤ m := by
  induction cs with
  | nil =>
    intro n h
    exact Nat.le_of_eq (Option.some.inj h)
  | cons c cs ih =>
    intro n h
    obtain ⟨d, -, hrest⟩ := Option.bind_eq_some_iff.mp h
    have hle := ih hrest
    have hscaled := Nat.le_mul_of_pos_left n hradix
    omega

/-- A number only grows with its digits, so it is above the bound once a part of it is. -/
theorem readDigits_eq_ok_iff {radix bound m : ℕ} (hradix : 0 < radix) (overflow : IntegerFault)
    (cs : List Char) : ∀ {n}, n ≤ bound → (readDigits radix bound overflow n cs = .ok m ↔
      numberOf? radix n cs = some m ∧ m ≤ bound) := by
  induction cs with
  | nil =>
    intro n hn
    rw [readDigits, numberOf?, Except.ok.injEq, Option.some.injEq]
    exact ⟨fun h => ⟨h, h ▸ hn⟩, And.left⟩
  | cons c cs ih =>
    intro n hn
    rw [readDigits, numberOf?]
    cases digitOf? radix c with
    | none => simp
    | some d =>
      dsimp only [Option.bind_some]
      by_cases hover : bound < radix * n + d
      · rw [if_pos hover]
        constructor
        · intro h
          cases h
        · rintro ⟨hnumber, hle⟩
          have hgrows := le_of_numberOf? hradix cs hnumber
          omega
      · rw [if_neg hover]
        exact ih (Nat.not_lt.mp hover)

theorem digitOf?_ten_eq_some_iff {c : Char} {d : ℕ} :
    digitOf? 10 c = some d ↔ c.isDigit = true ∧ c.toNat - '0'.toNat = d := by
  unfold digitOf?
  dsimp only
  rw [Option.filter_eq_some_iff]
  by_cases hc : c.isDigit = true
  · have hlt : c.toNat - '0'.toNat < 10 := by
      obtain ⟨-, hle⟩ := Char.isDigit_iff_toNat.mp hc
      have hzero : '0'.toNat = 48 := rfl
      have hnine : '9'.toNat = 57 := rfl
      omega
    rw [if_pos hc, Option.some.injEq, decide_eq_true_eq]
    refine ⟨fun h => ⟨hc, h.1⟩, fun h => ⟨h.2, h.2 ▸ hlt⟩⟩
  · rw [if_neg hc]
    refine ⟨fun ⟨h, hlt⟩ => ?_, fun h => absurd h.1 hc⟩
    -- the letters among the digits of wider radixes stand for ten and more
    rw [decide_eq_true_eq] at hlt
    split_ifs at h <;> obtain rfl := Option.some.inj h <;> omega

theorem numberOf?_ten_eq_some_iff {m : ℕ} (cs : List Char) : ∀ {n},
    numberOf? 10 n cs = some m ↔ IsDigits cs ∧ Nat.ofDigitChars 10 cs n = m := by
  induction cs with
  | nil => simp [numberOf?, IsDigits]
  | cons c cs ih =>
    intro n
    rw [numberOf?, Option.bind_eq_some_iff, Nat.ofDigitChars_cons, IsDigits, List.forall_mem_cons]
    simp only [digitOf?_ten_eq_some_iff, ih]
    constructor
    · rintro ⟨d, ⟨hc, rfl⟩, hcs, hm⟩
      exact ⟨⟨hc, hcs⟩, hm⟩
    · rintro ⟨⟨hc, hcs⟩, hm⟩
      exact ⟨_, ⟨hc, rfl⟩, hcs, hm⟩

/-- Reading decimal digits up to a bound. -/
theorem readDigits_ten_eq_ok_iff {bound m : ℕ} {overflow : IntegerFault} {cs : List Char} :
    readDigits 10 bound overflow 0 cs = .ok m ↔
      IsDigits cs ∧ Nat.ofDigitChars 10 cs 0 = m ∧ m ≤ bound := by
  rw [readDigits_eq_ok_iff (by decide) overflow cs (Nat.zero_le bound), numberOf?_ten_eq_some_iff,
    and_assoc]

/-! ## Signs -/

namespace WrittenSign

/-- The greatest magnitude that can stand behind a sign; below zero there is one number more. -/
def greatest (s : WrittenSign) (bits : ℕ) : ℕ :=
  if s.isMinus then twoTo (bits - 1) else twoTo (bits - 1) - 1

def overflow (s : WrittenSign) : IntegerFault := if s.isMinus then .tooSmall else .tooLarge

def applyInt (s : WrittenSign) (m : ℕ) : ℤ := if s.isMinus then -(m : ℤ) else m

theorem le_greatest_iff (s : WrittenSign) {bits m : ℕ} :
    m ≤ s.greatest bits ↔ -2 ^ (bits - 1) ≤ s.applyInt m ∧ s.applyInt m < 2 ^ (bits - 1) := by
  have hpos := twoTo_pos (bits - 1)
  have hcast : (2 : ℤ) ^ (bits - 1) = (twoTo (bits - 1) : ℤ) := by
    rw [twoTo, Nat.pow_eq, Nat.cast_pow, Nat.cast_ofNat]
  rw [hcast, greatest, applyInt]
  split_ifs <;> omega

/-- What follows a sign is read up to the greatest magnitude behind it. Digits without a sign must not
begin with one. -/
theorem readInt_text (s : WrittenSign) (bits : ℕ) {ds : List Char} (hds : ds ≠ [])
    (hhead : s = .none → ∀ c ∈ ds.head?, c ≠ '-' ∧ c ≠ '+') :
    readInt bits (s.text ++ ds) =
      (readDigits 10 (s.greatest bits) s.overflow 0 ds).map s.applyInt := by
  obtain ⟨c, cs, rfl⟩ := List.exists_cons_of_ne_nil hds
  cases s with
  | plus => rfl
  | minus =>
    show Except.map _ (readDigits 10 (twoTo (bits - 1)) .tooSmall 0 (c :: cs) >>= _) =
      Except.map _ (readDigits 10 (twoTo (bits - 1)) .tooSmall 0 (c :: cs))
    cases readDigits 10 (twoTo (bits - 1)) .tooSmall 0 (c :: cs) <;> rfl
  | none =>
    obtain ⟨hminus, hplus⟩ := hhead rfl c rfl
    show readInt bits (c :: cs) = _
    unfold readInt
    split
    · next heq => cases heq
    · next heq => exact absurd (List.cons.inj heq).1 hplus
    · next heq => exact absurd (List.cons.inj heq).1 hminus
    · next heq => exact absurd (List.cons.inj heq).1 hplus
    · next heq => exact absurd (List.cons.inj heq).1 hminus
    · rfl

end WrittenSign

/-! ## Integers by their parts -/

/-- An integer as a text writes it. -/
structure WrittenInteger where
  sign : WrittenSign
  digits : List Char
  isDigits : IsDigits digits
  nonempty : digits ≠ []

namespace WrittenInteger

def text (w : WrittenInteger) : String := String.ofList (w.sign.text ++ w.digits)

def magnitude (w : WrittenInteger) : ℕ := Nat.ofDigitChars 10 w.digits 0

def value (w : WrittenInteger) : ℤ := w.sign.applyInt w.magnitude

/-- The same integer with zeros in front of its digits. -/
def padded (w : WrittenInteger) (zeros : ℕ) : WrittenInteger where
  sign := w.sign
  digits := List.replicate zeros '0' ++ w.digits
  isDigits c hc := (List.mem_append.mp hc).elim
    (fun h => by rw [List.eq_of_mem_replicate h]; decide) (w.isDigits c)
  nonempty := List.append_ne_nil_of_right_ne_nil _ w.nonempty

theorem value_padded (w : WrittenInteger) (zeros : ℕ) : (w.padded zeros).value = w.value := by
  have hmagnitude : (w.padded zeros).magnitude = w.magnitude := by
    rw [magnitude, padded, Nat.ofDigitChars_append, Nat.ofDigitChars_replicate_zero, Nat.mul_zero,
      magnitude]
  rw [value, value, hmagnitude]
  rfl

/-- The integer in the plain form of its digits. -/
def ofInt (n : ℤ) : WrittenInteger where
  sign := if n < 0 then .minus else .none
  digits := Nat.toDigits 10 n.natAbs
  isDigits _ hc := Nat.isDigit_of_mem_toDigits (by decide) (by decide) hc
  nonempty := Nat.toDigits_ne_nil

theorem value_ofInt (n : ℤ) : (ofInt n).value = n := by
  have hmagnitude : (ofInt n).magnitude = n.natAbs :=
    Nat.ofDigitChars_toDigits (by decide) (by decide)
  rw [value, hmagnitude, ofInt, WrittenSign.applyInt]
  by_cases hn : n < 0
  · simp only [if_pos hn, WrittenSign.isMinus, if_true]
    omega
  · simp only [if_neg hn, WrittenSign.isMinus, Bool.false_eq_true, if_false]
    omega

/-- An integer is displayed in its plain form. -/
theorem toString_eq (n : ℤ) : toString n = (ofInt n).text := by
  rw [Int.toString_eq_repr, Int.repr_eq_if, text, ofInt]
  by_cases hn : n < 0
  · rw [if_neg (Int.not_le.mpr hn), if_pos hn, Nat.repr_eq_ofList_toDigits,
      show (-n).toNat = n.natAbs by omega, String.ofList_append]
    rfl
  · rw [if_pos (Int.not_lt.mp hn), if_neg hn, Nat.repr_eq_ofList_toDigits,
      show n.toNat = n.natAbs by omega]
    rfl

end WrittenInteger

/-- Whether a text writes an integer. -/
def Spells (text : String) (n : ℤ) : Prop := ∃ w : WrittenInteger, w.text = text ∧ w.value = n

/-! ## Reading -/

/-- What is read has a digit behind its sign. -/
theorem exists_sign_of_readInt {bits : ℕ} {cs : List Char} {n : ℤ} (h : readInt bits cs = .ok n) :
    ∃ (s : WrittenSign) (ds : List Char), cs = s.text ++ ds ∧ ds ≠ [] ∧
      (s = .none → ∀ c ∈ ds.head?, c ≠ '-' ∧ c ≠ '+') := by
  unfold readInt at h
  split at h
  · cases h
  · cases h
  · cases h
  · next ds hds => exact ⟨.plus, ds, rfl, hds, fun h => by cases h⟩
  · next ds hds => exact ⟨.minus, ds, rfl, hds, fun h => by cases h⟩
  · next hempty _ _ hplus hminus =>
    refine ⟨.none, cs, rfl, hempty, fun _ c hc => ?_⟩
    obtain ⟨ds, rfl⟩ := List.head?_eq_some_iff.mp hc
    refine ⟨?_, ?_⟩
    · rintro rfl
      exact hminus ds rfl
    · rintro rfl
      exact hplus ds rfl

/-- The texts that are read are those of integers within the width. -/
theorem readInt_eq_ok_iff {bits : ℕ} {text : String} {n : ℤ} :
    readInt bits text.toList = .ok n ↔ Spells text n ∧ -2 ^ (bits - 1) ≤ n ∧ n < 2 ^ (bits - 1) := by
  constructor
  · intro h
    obtain ⟨s, ds, htext, hds, hhead⟩ := exists_sign_of_readInt h
    rw [htext, s.readInt_text bits hds hhead] at h
    obtain ⟨m, hm, rfl⟩ := map_eq_ok_iff.mp h
    obtain ⟨hdigits, rfl, hle⟩ := readDigits_ten_eq_ok_iff.mp hm
    refine ⟨⟨⟨s, ds, hdigits, hds⟩, ?_, rfl⟩, s.le_greatest_iff.mp hle⟩
    rw [WrittenInteger.text, ← htext, String.ofList_toList]
  · rintro ⟨⟨w, rfl, rfl⟩, hrange⟩
    have hhead : ∀ c ∈ w.digits.head?, c ≠ '-' ∧ c ≠ '+' := fun c hc =>
      WrittenDecimal.ne_sign_of_isDigit (w.isDigits c (List.mem_of_mem_head? hc))
    rw [WrittenInteger.text, String.toList_ofList, w.sign.readInt_text bits w.nonempty fun _ => hhead]
    have hread : readDigits 10 (w.sign.greatest bits) w.sign.overflow 0 w.digits = .ok w.magnitude :=
      readDigits_ten_eq_ok_iff.mpr ⟨w.isDigits, rfl, w.sign.le_greatest_iff.mpr hrange⟩
    rw [hread]
    rfl

/-- A text writes no two integers: at a great width, it is read as both of them. -/
theorem Spells.unique {text : String} {m n : ℤ} (hm : Spells text m) (hn : Spells text n) :
    m = n := by
  have hpow : m.natAbs + n.natAbs < 2 ^ (m.natAbs + n.natAbs) := Nat.lt_two_pow_self
  have hpow : (m.natAbs : ℤ) + n.natAbs < 2 ^ (m.natAbs + n.natAbs) := by exact_mod_cast hpow
  have hread : ∀ k, Spells text k → k.natAbs ≤ m.natAbs + n.natAbs →
      readInt (m.natAbs + n.natAbs + 1) text.toList = .ok k := by
    intro k hk hle
    refine readInt_eq_ok_iff.mpr ⟨hk, ?_, ?_⟩
    · rw [Nat.add_sub_cancel]
      omega
    · rw [Nat.add_sub_cancel]
      omega
  exact Except.ok.inj ((hread m hm (Nat.le_add_right _ _)).symm.trans
    (hread n hn (Nat.le_add_left _ _)))

theorem spells_text_iff {w : WrittenInteger} {n : ℤ} : Spells w.text n ↔ w.value = n :=
  ⟨fun h => Spells.unique ⟨w, rfl, rfl⟩ h, fun h => ⟨w, rfl, h⟩⟩

theorem spells_toString_iff {m n : ℤ} : Spells (toString m) n ↔ m = n := by
  rw [WrittenInteger.toString_eq, spells_text_iff, WrittenInteger.value_ofInt]

/-! ## Integer types -/

/-- The types that hold integers. -/
inductive IntegerType where
  | int32
  | int64
deriving DecidableEq, Repr

namespace IntegerType

def type : IntegerType → ParameterType
  | int32 => .int32
  | int64 => .int64

def bits : IntegerType → ℕ
  | int32 => 32
  | int64 => 64

def toValue : IntegerType → ℤ → Value
  | int32 => .int32
  | int64 => .int64

/-- Whether an integer is within the width of the type. -/
def Holds (t : IntegerType) (n : ℤ) : Prop := -2 ^ (t.bits - 1) ≤ n ∧ n < 2 ^ (t.bits - 1)

theorem toValue_inj {t : IntegerType} {m n : ℤ} : t.toValue m = t.toValue n ↔ m = n := by
  cases t <;> simp [toValue]

theorem display_toValue (t : IntegerType) (n : ℤ) : (t.toValue n).display = toString n := by
  cases t <;> rfl

variable {t : IntegerType} {raw : String} {n : ℤ}

theorem coerce_eq (t : IntegerType) (raw : String) : Value.coerce raw t.type =
    ((((readInt t.bits raw.toList).mapError .integer).map t.toValue).mapError (⟨raw, ·⟩)) := by
  cases t <;> rfl

/-- What a text is read as: the integer that it writes, if the type holds it. -/
theorem coerce_eq_ok_iff {v : Value} :
    Value.coerce raw t.type = .ok v ↔ ∃ n, Spells raw n ∧ t.Holds n ∧ v = t.toValue n := by
  rw [coerce_eq, mapError_eq_ok_iff, map_eq_ok_iff]
  refine exists_congr fun n => ?_
  rw [mapError_eq_ok_iff, readInt_eq_ok_iff, and_assoc, eq_comm (a := v)]
  rfl

theorem coerce_eq_ok_toValue_iff :
    Value.coerce raw t.type = .ok (t.toValue n) ↔ Spells raw n ∧ t.Holds n := by
  rw [coerce_eq_ok_iff]
  constructor
  · rintro ⟨m, hraw, hm, hvalue⟩
    obtain rfl := toValue_inj.mp hvalue
    exact ⟨hraw, hm⟩
  · rintro ⟨hraw, hn⟩
    exact ⟨n, hraw, hn, rfl⟩

/-- All other texts are refused for their integer. -/
theorem coerce_eq_error_iff : (∃ fault, Value.coerce raw t.type = .error ⟨raw, .integer fault⟩) ↔
    ∀ n, Spells raw n → ¬ t.Holds n := by
  constructor
  · rintro ⟨fault, h⟩ n hraw hn
    rw [coerce_eq_ok_toValue_iff.mpr ⟨hraw, hn⟩] at h
    cases h
  · intro h
    rw [coerce_eq]
    cases hread : readInt t.bits raw.toList with
    | error fault => exact ⟨fault, rfl⟩
    | ok n =>
      obtain ⟨hraw, hn⟩ := readInt_eq_ok_iff.mp hread
      exact absurd hn (h n hraw)

end IntegerType

/-- A text is read as an integer type exactly if it writes an integer that the type holds, and as that
integer. All other texts are errors. So zeros in front do not matter, the narrow type is the wide one
within its width, and what is displayed reads back. -/
theorem integer_text_reads_as_written :
    (∀ (t : IntegerType) (raw : String) (n : ℤ),
      Value.coerce raw t.type = .ok (t.toValue n) ↔ Spells raw n ∧ t.Holds n) ∧
    (∀ (t : IntegerType) (raw : String),
      (∃ fault, Value.coerce raw t.type = .error ⟨raw, .integer fault⟩) ↔
        ∀ n, Spells raw n → ¬ t.Holds n) ∧
    (∀ (t : IntegerType) (w : WrittenInteger) (zeros : ℕ) (v : Value),
      Value.coerce (w.padded zeros).text t.type = .ok v ↔ Value.coerce w.text t.type = .ok v) ∧
    (∀ (raw : String) (n : ℤ), Value.coerce raw .int32 = .ok (.int32 n) ↔
      Value.coerce raw .int64 = .ok (.int64 n) ∧ -2 ^ 31 ≤ n ∧ n < 2 ^ 31) ∧
    ∀ (t : IntegerType) (n : ℤ),
      Value.coerce (t.toValue n).display t.type = .ok (t.toValue n) ↔ t.Holds n := by
  refine ⟨fun t raw n => IntegerType.coerce_eq_ok_toValue_iff,
    fun t raw => IntegerType.coerce_eq_error_iff, fun t w zeros v => ?_, fun raw n => ?_,
    fun t n => ?_⟩
  · rw [IntegerType.coerce_eq_ok_iff, IntegerType.coerce_eq_ok_iff]
    simp only [spells_text_iff, WrittenInteger.value_padded]
  · have hnarrow : Value.coerce raw .int32 = .ok (.int32 n) ↔ _ :=
      IntegerType.coerce_eq_ok_toValue_iff (t := .int32)
    have hwide : Value.coerce raw .int64 = .ok (.int64 n) ↔ _ :=
      IntegerType.coerce_eq_ok_toValue_iff (t := .int64)
    rw [hnarrow, hwide]
    simp only [IntegerType.Holds, IntegerType.bits]
    constructor
    · rintro ⟨hraw, hlow, hhigh⟩
      exact ⟨⟨hraw, by omega, by omega⟩, hlow, hhigh⟩
    · rintro ⟨⟨hraw, -⟩, hrange⟩
      exact ⟨hraw, hrange⟩
  · rw [IntegerType.coerce_eq_ok_toValue_iff, IntegerType.display_toValue, spells_toString_iff]
    exact and_iff_right rfl

example : Value.coerce "-007" .int32 = .ok (.int32 (-7)) := rfl

end RequestBinding
