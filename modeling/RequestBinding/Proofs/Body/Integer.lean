import RequestBinding.Proofs.Binding.Failure
import RequestBinding.Proofs.Json.Integer

/-!
# Integer bodies

A body that is an integer is decoded to the integer that its text is read as in other locations. Minus
zero is the exception: it is zero in a text, and no integer in a body.

1. `fits_integer_iff`: an integer type takes the integers within its width, and no doubles.
2. `decode_eq_ok_iff`: what a body that is an integer is decoded to.
3. `integer_body_reads_as_text`: but for minus zero, a body is decoded as its text is read.
-/

namespace RequestBinding

namespace IntegerType

variable {t : IntegerType}

/-- Every integer that a type holds has 64 bits. -/
theorem Holds.bounds {n : ℤ} (h : t.Holds n) : -2 ^ 63 ≤ n ∧ n < 2 ^ 63 := by
  obtain ⟨hlow, hhigh⟩ := h
  cases t with
  | int32 =>
    simp only [bits] at hlow hhigh
    omega
  | int64 => exact ⟨hlow, hhigh⟩

theorem fits_integer_iff {n : ℤ} : Body.fits t.type (.number (.integer n)) = true ↔ t.Holds n := by
  cases t with
  | int32 =>
    simp only [type, Body.fits, JsonNumber.toInt64?, Holds, bits]
    split_ifs with hwide
    · rw [Option.any_some, Bool.and_eq_true, decide_eq_true_eq, decide_eq_true_eq]
      omega
    · rw [Option.any_none, Bool.false_eq_true, false_iff]
      omega
  | int64 =>
    simp only [type, Body.fits, JsonNumber.toInt64?, Holds, bits]
    split_ifs with hwide
    · rw [Option.isSome_some, eq_self, true_iff]
      omega
    · rw [Option.isSome_none, Bool.false_eq_true, false_iff]
      omega

theorem not_fits_double (x : Double) : ¬ Body.fits t.type (.number (.double x)) = true := by
  cases t <;> exact Bool.false_ne_true

end IntegerType

namespace JsonInteger

open JsonReader

variable {w : JsonInteger} {t : IntegerType}

/-- What is read behind a minus sign is an integer only above zero. -/
theorem ofInteger_minus {m : ℕ} (h : 0 < m ∧ m ≤ twoTo 63) :
    ofInteger false m = .integer (-m) := if_pos h

/-- An integer within 64 bits is read as such, unless it is minus zero. -/
theorem ofInteger_eq (h : t.Holds w.value) (hzero : w.text ≠ "-0") :
    ofInteger (!w.sign.isMinus) w.magnitude = .integer w.value := by
  obtain ⟨hlow, -⟩ := h.bounds
  rw [ne_eq, w.text_eq_minusZero_iff, not_and] at hzero
  rw [WrittenInteger.value] at hlow ⊢
  cases hsign : w.sign with
  | plus => exact absurd hsign w.unsigned
  | none => rfl
  | minus =>
    have hpos : 0 < w.magnitude := Nat.pos_of_ne_zero (hzero hsign)
    have hle : w.magnitude ≤ twoTo 63 := by
      have htwo : (twoTo 63 : ℤ) = 2 ^ 63 := rfl
      have hvalue : w.sign.applyInt w.magnitude = -(w.magnitude : ℤ) := by
        rw [hsign]
        rfl
      omega
    exact ofInteger_minus ⟨hpos, hle⟩

/-- What is read as an integer is the one that is written, and is not minus zero. -/
theorem eq_value_of_ofInteger {n : ℤ}
    (h : ofInteger (!w.sign.isMinus) w.magnitude = .integer n) : n = w.value ∧ w.text ≠ "-0" := by
  rw [ne_eq, w.text_eq_minusZero_iff, WrittenInteger.value]
  cases hsign : w.sign with
  | plus => exact absurd hsign w.unsigned
  | none =>
    rw [hsign] at h
    exact ⟨(JsonNumber.integer.inj h).symm, fun hminus => by cases hminus.1⟩
  | minus =>
    rw [hsign] at h
    by_cases hrange : 0 < w.magnitude ∧ w.magnitude ≤ twoTo 63
    · have hn := JsonNumber.integer.inj ((ofInteger_minus hrange).symm.trans h)
      exact ⟨hn.symm, fun hminus => hrange.1.ne' hminus.2⟩
    · have hdouble : ofInteger false w.magnitude = .double (Binary.ofInt w.magnitude).neg :=
        if_neg hrange
      cases hdouble.symm.trans h

/-- What a body that is an integer is decoded to. -/
theorem decode_eq_ok_iff {name : String} {v : Json} :
    Body.decode name t.type (encodeUtf8 w.text) = .ok v ↔
      t.Holds w.value ∧ w.text ≠ "-0" ∧ v = .number (.integer w.value) := by
  rw [RequestBinding.decode_eq_ok_iff]
  by_cases hmax : w.magnitude ≤ maxSize
  · rw [w.ofOctets_of_le hmax, Except.ok.injEq]
    constructor
    · rintro ⟨rfl, hfits⟩
      cases hnumber : ofInteger (!w.sign.isMinus) w.magnitude with
      | double x =>
        rw [hnumber] at hfits
        exact absurd hfits (IntegerType.not_fits_double x)
      | integer n =>
        rw [hnumber] at hfits
        obtain ⟨rfl, hzero⟩ := eq_value_of_ofInteger hnumber
        exact ⟨IntegerType.fits_integer_iff.mp hfits, hzero, rfl⟩
    · rintro ⟨hholds, hzero, rfl⟩
      rw [ofInteger_eq hholds hzero]
      exact ⟨rfl, IntegerType.fits_integer_iff.mpr hholds⟩
  · constructor
    · rintro ⟨hread, hfits⟩
      obtain ⟨x, rfl⟩ := w.ofOctets_of_lt (Nat.not_le.mp hmax) hread
      exact absurd hfits (IntegerType.not_fits_double x)
    · rintro ⟨hholds, -, -⟩
      refine absurd ?_ hmax
      obtain ⟨hlow, hhigh⟩ := hholds.bounds
      have hvalue : w.value = w.magnitude ∨ w.value = -w.magnitude := by
        rw [WrittenInteger.value]
        cases w.sign with
        | plus | none => exact .inl rfl
        | minus => exact .inr rfl
      have hsize : maxSize = 2 ^ 64 - 1 := rfl
      omega

end JsonInteger

/-- A body that is an integer is decoded exactly if its text is read as a value of the same type, and to
the integer of that value, unless it is minus zero. Its text is read exactly if the type holds it, and
as the integer that it writes. -/
theorem integer_body_reads_as_text (name : String) (t : IntegerType) (w : JsonInteger) :
    (∀ v, Body.decode name t.type (encodeUtf8 w.text) = .ok v ↔
      (∃ n, Value.coerce w.text t.type = .ok (t.toValue n) ∧ v = .number (.integer n)) ∧
        w.text ≠ "-0") ∧
    ∀ n, Value.coerce w.text t.type = .ok (t.toValue n) ↔ t.Holds n ∧ n = w.value := by
  have htext : ∀ n, Value.coerce w.text t.type = .ok (t.toValue n) ↔ t.Holds n ∧ n = w.value := by
    intro n
    rw [IntegerType.coerce_eq_ok_toValue_iff, spells_text_iff, and_comm, eq_comm]
  refine ⟨fun v => ?_, htext⟩
  rw [JsonInteger.decode_eq_ok_iff]
  constructor
  · rintro ⟨hholds, hzero, hv⟩
    exact ⟨⟨w.value, (htext _).mpr ⟨hholds, rfl⟩, hv⟩, hzero⟩
  · rintro ⟨⟨n, hn, hv⟩, hzero⟩
    obtain ⟨hholds, rfl⟩ := (htext n).mp hn
    exact ⟨hholds, hzero, hv⟩

/-- Minus zero is read as zero in a text and refused as a body, since a document keeps its sign. -/
theorem minus_zero_body_refused : (∃ w : JsonInteger, w.text = "-0") ∧
    Value.coerce "-0" .int32 = .ok (.int32 0) ∧
    Body.decode "n" .int32 (encodeUtf8 "-0") =
      .error (.bodyMisfit "n" "expected int32, found number") ∧
    Value.coerce "-0" .int64 = .ok (.int64 0) ∧
    Body.decode "n" .int64 (encodeUtf8 "-0") =
      .error (.bodyMisfit "n" "expected int64, found number") := by
  have hzero : IsDigits ['0'] := List.forall_mem_singleton.mpr rfl
  let minusZero : WrittenInteger := ⟨.minus, ['0'], hzero, List.cons_ne_nil _ _⟩
  rw [encodeUtf8_eq]
  exact ⟨⟨⟨minusZero, nofun, .inl rfl⟩, rfl⟩, rfl, rfl, rfl, rfl⟩

end RequestBinding
