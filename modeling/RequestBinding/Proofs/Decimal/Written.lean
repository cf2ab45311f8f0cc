import RequestBinding.Proofs.Decimal.Overflow
import RequestBinding.Proofs.Traversal
import RequestBinding.Text.LetterCase
import RequestBinding.Value

/-!
# Written decimals

A decimal is written with digits around a point, and may have a sign and an exponent.

1. `WrittenDecimal` is a decimal by the parts of its text, with its exact value.
2. `read?_text` and `exists_written`: the texts that are read as literals are those of written
   decimals.
3. `single_of_decimal`: which written decimals are read as singles.
-/

namespace RequestBinding

/-! ## Parts of a text -/

/-- A sign in front of digits, or none. -/
inductive WrittenSign where
  | none
  | plus
  | minus
deriving DecidableEq, Repr

namespace WrittenSign

def text : WrittenSign → List Char
  | none => []
  | plus => ['+']
  | minus => ['-']

def isMinus : WrittenSign → Bool
  | none => false
  | plus => false
  | minus => true

/-- The number of a magnitude behind the sign. -/
def apply (s : WrittenSign) (x : ℚ) : ℚ := if s.isMinus then -x else x

theorem abs_apply (s : WrittenSign) {x : ℚ} (hx : 0 ≤ x) : |s.apply x| = x := by
  unfold apply
  split_ifs
  · rw [abs_neg, abs_of_nonneg hx]
  · exact abs_of_nonneg hx

theorem abs_apply_sub (s : WrittenSign) (x y : ℚ) : |s.apply x - s.apply y| = |x - y| := by
  unfold apply
  split_ifs
  · rw [neg_sub_neg, abs_sub_comm]
  · rfl

end WrittenSign

def IsDigits (cs : List Char) : Prop := ∀ c ∈ cs, c.isDigit = true

/-- Whether a text does not go on with a digit. -/
def EndsDigits (cs : List Char) : Prop := ∀ c ∈ cs.head?, c.isDigit = false

/-- The mark of an exponent, and an integer behind it. -/
structure WrittenExponent where
  mark : Char
  sign : WrittenSign
  digits : List Char
  mark_eq : mark = 'e' ∨ mark = 'E'
  isDigits : IsDigits digits
  nonempty : digits ≠ []

namespace WrittenExponent

def text (e : WrittenExponent) : List Char := e.mark :: (e.sign.text ++ e.digits)

def value (e : WrittenExponent) : ℤ :=
  if e.sign.isMinus then -(Nat.ofDigitChars 10 e.digits 0 : ℤ) else Nat.ofDigitChars 10 e.digits 0

end WrittenExponent

/-- The digits of a decimal before the point, those behind it if there is a point, and its exponent if it
has one. There is a digit before the point or behind it. -/
structure WrittenDecimal where
  sign : WrittenSign
  whole : List Char
  fraction : Option (List Char)
  exponent : Option WrittenExponent
  whole_isDigits : IsDigits whole
  fraction_isDigits : ∀ ds ∈ fraction, IsDigits ds
  some_digit : whole ≠ [] ∨ ∃ ds ∈ fraction, ds ≠ []

namespace WrittenDecimal

def fractionText (w : WrittenDecimal) : List Char := (w.fraction.map ('.' :: ·)).getD []

def exponentText (w : WrittenDecimal) : List Char := (w.exponent.map WrittenExponent.text).getD []

def text (w : WrittenDecimal) : String :=
  String.ofList (w.sign.text ++ (w.whole ++ (w.fractionText ++ w.exponentText)))

/-- The digits behind the point. -/
def places (w : WrittenDecimal) : List Char := w.fraction.getD []

def scale (w : WrittenDecimal) : ℤ := (w.exponent.map WrittenExponent.value).getD 0

/-- The exact value. -/
def value (w : WrittenDecimal) : ℚ :=
  w.sign.apply ((Nat.ofDigitChars 10 w.whole 0 +
    Nat.ofDigitChars 10 w.places 0 / 10 ^ w.places.length) * 10 ^ w.scale)

/-- What is read of the text. -/
def literal (w : WrittenDecimal) : DecimalLiteral :=
  ⟨w.sign.isMinus, natOfDigits (w.whole ++ w.places), w.scale - w.places.length⟩

theorem natOfDigits_eq (cs : List Char) : natOfDigits cs = Nat.ofDigitChars 10 cs 0 := rfl

/-- The literal has the value of the text. -/
theorem value_eq (w : WrittenDecimal) : w.value = w.sign.apply w.literal.magnitude := by
  have hten : (10 : ℚ) ≠ 0 := by norm_num
  have hdigits : natOfDigits (w.whole ++ w.places) =
      10 ^ w.places.length * Nat.ofDigitChars 10 w.whole 0 + Nat.ofDigitChars 10 w.places 0 := by
    rw [natOfDigits_eq, Nat.ofDigitChars_append, Nat.ofDigitChars_eq_ofDigitChars_zero]
  rw [value, DecimalLiteral.magnitude, literal]
  dsimp only
  rw [hdigits, zpow_sub₀ hten, zpow_natCast]
  congr 1
  push_cast
  field_simp

theorem abs_value (w : WrittenDecimal) : |w.value| = w.literal.magnitude := by
  rw [w.value_eq, WrittenSign.abs_apply _ w.literal.magnitude_nonneg]

/-- A number of the same sign is as far away as its magnitude. -/
theorem abs_apply_sub_value (w : WrittenDecimal) (x : ℚ) :
    |w.sign.apply x - w.value| = |x - w.literal.magnitude| := by
  rw [w.value_eq, WrittenSign.abs_apply_sub]

/-! ## Reading -/

theorem takeWhile_digits {ds rest : List Char} (hds : IsDigits ds) (hrest : EndsDigits rest) :
    (ds ++ rest).takeWhile Char.isDigit = ds ∧ (ds ++ rest).dropWhile Char.isDigit = rest := by
  rw [List.takeWhile_append_of_pos hds, List.dropWhile_append_of_pos hds]
  cases rest with
  | nil => simp
  | cons c rest =>
    have hc : c.isDigit = false := hrest c rfl
    simp [hc]

/-- A sign is split off a text that does not begin with another one. -/
theorem splitSign_text (s : WrittenSign) {cs : List Char} (h : ∀ c ∈ cs.head?, c ≠ '-' ∧ c ≠ '+') :
    DecimalLiteral.splitSign (s.text ++ cs) = (s.isMinus, cs) := by
  cases s with
  | plus => rfl
  | minus => rfl
  | none =>
    cases cs with
    | nil => rfl
    | cons c cs =>
      obtain ⟨hminus, hplus⟩ := h c rfl
      unfold DecimalLiteral.splitSign
      split
      · next heq => exact absurd (List.cons.inj heq).1 hminus
      · next heq => exact absurd (List.cons.inj heq).1 hplus
      · rfl

theorem ne_sign_of_isDigit {c : Char} (h : c.isDigit = true) : c ≠ '-' ∧ c ≠ '+' := by
  constructor <;> rintro rfl <;> cases h

/-- An exponent is read from its text. -/
theorem readExponent?_text (e : WrittenExponent) :
    DecimalLiteral.readExponent? e.text = some e.value := by
  have hhead : ∀ c ∈ e.digits.head?, c ≠ '-' ∧ c ≠ '+' := fun c hc =>
    ne_sign_of_isDigit (e.isDigits c (List.mem_of_mem_head? hc))
  have hall : e.digits.all Char.isDigit = true := List.all_eq_true.mpr e.isDigits
  have hempty : e.digits.isEmpty = false := by simpa using e.nonempty
  unfold DecimalLiteral.readExponent? WrittenExponent.text
  dsimp only
  rw [if_pos e.mark_eq, splitSign_text e.sign hhead]
  dsimp only
  rw [hall, hempty, if_neg (by simp)]
  rfl

theorem readExponent?_exponentText (w : WrittenDecimal) :
    DecimalLiteral.readExponent? w.exponentText = some w.scale := by
  unfold exponentText scale
  cases w.exponent with
  | none => rfl
  | some e => exact readExponent?_text e

/-- The text of an exponent begins with its mark. -/
theorem mark_of_exponentText (w : WrittenDecimal) :
    ∀ c ∈ w.exponentText.head?, c.isDigit = false ∧ c ≠ '.' := by
  intro c hc
  unfold exponentText at hc
  cases he : w.exponent with
  | none =>
    rw [he] at hc
    cases hc
  | some e =>
    rw [he] at hc
    obtain rfl := Option.some.inj hc
    rcases e.mark_eq with hmark | hmark <;> rw [hmark] <;> decide

theorem endsDigits_exponentText (w : WrittenDecimal) : EndsDigits w.exponentText :=
  fun c hc => (w.mark_of_exponentText c hc).1

theorem endsDigits_fractionText (w : WrittenDecimal) :
    EndsDigits (w.fractionText ++ w.exponentText) := by
  unfold fractionText
  cases w.fraction with
  | none => exact w.endsDigits_exponentText
  | some ds =>
    intro c hc
    obtain rfl := Option.some.inj hc
    rfl

/-- The magnitude of a decimal is read from the text behind the sign. -/
theorem readMagnitude?_text (w : WrittenDecimal) :
    DecimalLiteral.readMagnitude? w.sign.isMinus (w.whole ++ (w.fractionText ++ w.exponentText)) =
      some w.literal := by
  obtain ⟨htake, hdrop⟩ := takeWhile_digits w.whole_isDigits w.endsDigits_fractionText
  have hdigit : ¬ (w.whole.isEmpty = true ∧ w.places.isEmpty = true) := by
    rintro ⟨hwhole, hplaces⟩
    rcases w.some_digit with h | ⟨ds, hds, h⟩
    · exact h (List.isEmpty_iff.mp hwhole)
    · rw [places, Option.mem_def.mp hds] at hplaces
      exact h (List.isEmpty_iff.mp hplaces)
  have hexponent := w.readExponent?_exponentText
  unfold DecimalLiteral.readMagnitude?
  dsimp only
  rw [htake, hdrop]
  cases hfraction : w.fraction with
  | none =>
    have hplaces : w.places = [] := by rw [places, hfraction]; rfl
    have hrest : w.fractionText ++ w.exponentText = w.exponentText := by
      rw [fractionText, hfraction]
      rfl
    rw [hrest]
    split
    · next more heq => exact absurd rfl (w.mark_of_exponentText '.' (by rw [heq]; rfl)).2
    · rw [hplaces] at hdigit
      rw [if_neg hdigit, hexponent, literal, hplaces]
      rfl
  | some ds =>
    have hplaces : w.places = ds := by rw [places, hfraction]; rfl
    have hrest : w.fractionText ++ w.exponentText = '.' :: (ds ++ w.exponentText) := by
      rw [fractionText, hfraction]
      rfl
    obtain ⟨htake', hdrop'⟩ := takeWhile_digits (w.fraction_isDigits ds hfraction)
      w.endsDigits_exponentText
    rw [hrest]
    split
    · next more heq =>
      obtain rfl := (List.cons.inj heq).2
      rw [htake', hdrop']
      dsimp only
      rw [← hplaces, if_neg hdigit, hexponent]
      rfl
    · next heq => exact absurd rfl (heq _)

/-- The text behind the sign begins with a digit or with the point. -/
theorem head_of_text (w : WrittenDecimal) :
    ∃ c rest, w.whole ++ (w.fractionText ++ w.exponentText) = c :: rest ∧
      (c.isDigit = true ∨ c = '.') := by
  cases hwhole : w.whole with
  | cons c cs => exact ⟨c, _, rfl, .inl (w.whole_isDigits c (by rw [hwhole]; exact List.mem_cons_self))⟩
  | nil =>
    rcases w.some_digit with h | ⟨ds, hds, -⟩
    · exact absurd hwhole h
    · rw [fractionText, Option.mem_def.mp hds]
      exact ⟨'.', _, rfl, .inr rfl⟩

/-- What begins so is no sign, and no word for a number either. -/
theorem head_ne {c : Char} (h : c.isDigit = true ∨ c = '.') :
    (c ≠ '-' ∧ c ≠ '+') ∧ c.toLower ≠ 'i' ∧ c.toLower ≠ 'n' := by
  rcases h with h | rfl
  · have hlower : c.isDigit = true → c.toLower = c :=
      forall_of_ascii (by decide) (fun _ hlower _ _ => hlower) c
    rw [hlower h]
    refine ⟨ne_sign_of_isDigit h, ?_, ?_⟩ <;> rintro rfl <;> cases h
  · decide

/-- A written decimal is read as the literal of its value. -/
theorem read?_text (w : WrittenDecimal) : NumberText.read? w.text = some (.literal w.literal) := by
  obtain ⟨c, rest, htext, hc⟩ := w.head_of_text
  obtain ⟨hsign, hi, hn⟩ := head_ne hc
  have hmagnitude := w.readMagnitude?_text
  have hhead : ∀ d ∈ (c :: rest).head?, d ≠ '-' ∧ d ≠ '+' := by
    intro d hd
    rwa [← Option.some.inj hd]
  -- the words for numbers begin with letters
  have hinf : ¬ ((c :: rest).map Char.toLower = "inf".toList ∨
      (c :: rest).map Char.toLower = "infinity".toList) := by
    rintro (h | h) <;> exact hi (List.cons.inj h).1
  have hnan : ¬ (c :: rest).map Char.toLower = "nan".toList := fun h => hn (List.cons.inj h).1
  unfold NumberText.read?
  rw [text, String.toList_ofList, htext, splitSign_text w.sign hhead]
  dsimp only
  rw [if_neg hinf, if_neg hnan, ← htext, hmagnitude]
  rfl

/-! ## Nothing else is read -/

/-- Every text has a sign in front, or none. -/
theorem exists_sign (cs : List Char) : ∃ s : WrittenSign,
    cs = s.text ++ (DecimalLiteral.splitSign cs).2 ∧ (DecimalLiteral.splitSign cs).1 = s.isMinus := by
  unfold DecimalLiteral.splitSign
  split
  · exact ⟨.minus, rfl, rfl⟩
  · exact ⟨.plus, rfl, rfl⟩
  · exact ⟨.none, rfl, rfl⟩

theorem isDigits_takeWhile (cs : List Char) : IsDigits (cs.takeWhile Char.isDigit) :=
  List.all_eq_true.mp List.all_takeWhile

/-- What is read as an exponent is the text of one, or nothing. -/
theorem exists_exponent {cs : List Char} {x : ℤ} (h : DecimalLiteral.readExponent? cs = some x) :
    ∃ e : Option WrittenExponent, cs = (e.map WrittenExponent.text).getD [] := by
  cases cs with
  | nil => exact ⟨none, rfl⟩
  | cons c cs =>
    obtain ⟨s, hs, -⟩ := exists_sign cs
    unfold DecimalLiteral.readExponent? at h
    dsimp only at h
    by_cases hmark : c = 'e' ∨ c = 'E'
    · rw [if_pos hmark] at h
      generalize hds : (DecimalLiteral.splitSign cs).2 = ds at h hs
      by_cases hbad : ds.isEmpty ∨ !ds.all Char.isDigit
      · rw [if_pos hbad] at h
        cases h
      · rw [not_or] at hbad
        refine ⟨some ⟨c, s, ds, hmark, ?_, ?_⟩, ?_⟩
        · exact List.all_eq_true.mp (by simpa using hbad.2)
        · simpa using hbad.1
        · exact congrArg (c :: ·) hs
    · rw [if_neg hmark] at h
      cases h

/-- What is read as a magnitude is the text of one behind its sign. -/
theorem exists_magnitude (s : WrittenSign) {cs : List Char} {negative : Bool} {l : DecimalLiteral}
    (h : DecimalLiteral.readMagnitude? negative cs = some l) :
    ∃ w : WrittenDecimal, w.text = String.ofList (s.text ++ cs) := by
  have hcs : cs.takeWhile Char.isDigit ++ cs.dropWhile Char.isDigit = cs :=
    List.takeWhile_append_dropWhile
  have hwhole := isDigits_takeWhile cs
  unfold DecimalLiteral.readMagnitude? at h
  dsimp only at h
  generalize cs.takeWhile Char.isDigit = whole at *
  generalize cs.dropWhile Char.isDigit = rest at *
  subst hcs
  split at h
  · next more =>
    have hmore : more.takeWhile Char.isDigit ++ more.dropWhile Char.isDigit = more :=
      List.takeWhile_append_dropWhile
    have hplaces := isDigits_takeWhile more
    dsimp only at h
    generalize more.takeWhile Char.isDigit = places at *
    generalize more.dropWhile Char.isDigit = tail at *
    subst hmore
    split_ifs at h with hempty
    obtain ⟨x, hx, -⟩ := Option.map_eq_some_iff.mp h
    obtain ⟨e, rfl⟩ := exists_exponent hx
    refine ⟨⟨s, whole, some places, e, hwhole, ?_, ?_⟩, rfl⟩
    · intro ds hds
      rwa [← Option.some.inj hds]
    · by_cases hnil : whole = []
      · exact .inr ⟨places, rfl, fun h => hempty ⟨List.isEmpty_iff.mpr hnil, List.isEmpty_iff.mpr h⟩⟩
      · exact .inl hnil
  · dsimp only at h
    split_ifs at h with hempty
    obtain ⟨x, hx, -⟩ := Option.map_eq_some_iff.mp h
    obtain ⟨e, rfl⟩ := exists_exponent hx
    refine ⟨⟨s, whole, none, e, hwhole, ?_, ?_⟩, rfl⟩
    · intro ds hds
      cases hds
    · exact .inl fun hnil => hempty ⟨List.isEmpty_iff.mpr hnil, rfl⟩

/-- A text that is read as a literal is a written decimal. -/
theorem exists_written {raw : String} {l : DecimalLiteral}
    (h : NumberText.read? raw = some (.literal l)) : ∃ w : WrittenDecimal, w.text = raw := by
  obtain ⟨s, hs, -⟩ := exists_sign raw.toList
  unfold NumberText.read? at h
  dsimp only at h
  split_ifs at h with hinf hnan
  · cases h
  · cases h
  obtain ⟨l, hl, -⟩ := Option.map_eq_some_iff.mp h
  obtain ⟨w, hw⟩ := exists_magnitude s hl
  exact ⟨w, by rw [hw, ← hs, String.ofList_toList]⟩

/-! ## Singles -/

/-- A single is read from a decimal by the rounding at both widths. -/
theorem coerce_text (w : WrittenDecimal) : Value.coerce w.text .float32 =
    if (w.literal.toBinary : Single).isInfinite && (w.literal.toBinary : Double).isFinite then
      .error ⟨w.text, .beyondFloat32⟩
    else .ok (.float32 w.literal.toBinary) := by
  have hread : Value.readFloat w.text = .ok (.literal w.literal) := by
    rw [Value.readFloat, w.read?_text]
  unfold Value.coerce Value.readReason Value.readFloat32
  dsimp only
  rw [hread]
  show Except.mapError _ (if (w.literal.toBinary : Single).isInfinite &&
    (w.literal.toBinary : Double).isFinite then _ else _) = _
  split_ifs <;> rfl

/-- The texts of literals are those of decimals, and a decimal is read as a single by its exact value: as
the finite one of its rounding below `2 ^ 128 - 2 ^ 103`, with an error from there on, and as infinity
once a double has no finite number for it either. -/
theorem single_of_decimal (raw : String) :
    ((∃ l, NumberText.read? raw = some (.literal l)) ↔ ∃ w : WrittenDecimal, w.text = raw) ∧
    ∀ w : WrittenDecimal, w.text = raw →
      (|w.value| < 2 ^ 128 - 2 ^ 103 → ∃ (m : ℕ) (e : ℤ),
        Value.coerce raw .float32 = .ok (.float32 (.finite w.sign.isMinus m e)) ∧
        (.finite w.sign.isMinus m e : Single).InRange ∧
        |w.sign.apply (m * 2 ^ e) - w.value| ≤ 2 ^ e / 2) ∧
      (2 ^ 128 - 2 ^ 103 ≤ |w.value| → |w.value| < 2 ^ 1024 - 2 ^ 970 →
        Value.coerce raw .float32 = .error ⟨raw, .beyondFloat32⟩) ∧
      (2 ^ 1024 - 2 ^ 970 ≤ |w.value| →
        Value.coerce raw .float32 = .ok (.float32 (.infinity w.sign.isMinus))) := by
  constructor
  · constructor
    · rintro ⟨l, hl⟩
      exact exists_written hl
    · rintro ⟨w, rfl⟩
      exact ⟨w.literal, w.read?_text⟩
  rintro w rfl
  have hsingle := w.literal.rounds_single
  have hdouble := w.literal.rounds_double
  rw [w.abs_value, w.coerce_text, ← overflowBound_single, ← overflowBound_double]
  refine ⟨fun hsmall => ?_, fun hlarge hwide => ?_, fun hhuge => ?_⟩
  · obtain ⟨m, e, hm, hnear⟩ := hsingle.eq_finite hsmall
    have hrange : (w.literal.toBinary : Single).InRange :=
      w.literal.inRange_toBinary (by decide) (by decide)
    rw [hm] at hrange ⊢
    refine ⟨m, e, rfl, hrange, ?_⟩
    rwa [w.abs_apply_sub_value]
  · obtain ⟨m, e, hm, -⟩ := hdouble.eq_finite hwide
    rw [hsingle.eq_infinity hlarge, hm]
    rfl
  · have hlarge : BinaryFormat.single.overflowBound ≤ w.literal.magnitude :=
      Binary.single_bound_lt_double.le.trans hhuge
    rw [hsingle.eq_infinity hlarge, hdouble.eq_infinity hhuge]
    rfl

/-- `0.1` -/
def tenth : WrittenDecimal where
  sign := .none
  whole := ['0']
  fraction := some ['1']
  exponent := none
  whole_isDigits := by simp [IsDigits]
  fraction_isDigits := by simp [IsDigits]
  some_digit := by simp

/-- `-3.5e38` -/
def aboveSingles : WrittenDecimal where
  sign := .minus
  whole := ['3']
  fraction := some ['5']
  exponent := some ⟨'e', .none, ['3', '8'], by decide, by simp [IsDigits], by decide⟩
  whole_isDigits := by simp [IsDigits]
  fraction_isDigits := by simp [IsDigits]
  some_digit := by simp

/-- `1e400` -/
def aboveDoubles : WrittenDecimal where
  sign := .none
  whole := ['1']
  fraction := none
  exponent := some ⟨'e', .none, ['4', '0', '0'], by decide, by simp [IsDigits], by decide⟩
  whole_isDigits := by simp [IsDigits]
  fraction_isDigits := by simp [IsDigits]
  some_digit := by simp

theorem abs_value_tenth : |tenth.value| = 1 / 10 := by
  rw [abs_value, DecimalLiteral.magnitude, show tenth.literal = ⟨false, 1, -1⟩ by decide]
  norm_num

theorem abs_value_aboveSingles : |aboveSingles.value| = 35 * 10 ^ 37 := by
  rw [abs_value, DecimalLiteral.magnitude, show aboveSingles.literal = ⟨true, 35, 37⟩ by decide]
  norm_num

theorem abs_value_aboveDoubles : |aboveDoubles.value| = 10 ^ (400 : ℤ) := by
  rw [abs_value, DecimalLiteral.magnitude, show aboveDoubles.literal = ⟨false, 1, 400⟩ by decide]
  dsimp only
  rw [Nat.cast_one, one_mul]

theorem single_of_decimal_at_each_size :
    (∃ (m : ℕ) (e : ℤ), Value.coerce "0.1" .float32 = .ok (.float32 (.finite false m e)) ∧
      (.finite false m e : Single).InRange ∧ |(m : ℚ) * 2 ^ e - 1 / 10| ≤ 2 ^ e / 2) ∧
    Value.coerce "-3.5e38" .float32 = .error ⟨"-3.5e38", .beyondFloat32⟩ ∧
    Value.coerce "1e400" .float32 = .ok (.float32 (.infinity false)) := by
  have hsmall : |tenth.value| < 2 ^ 128 - 2 ^ 103 := by
    rw [abs_value_tenth]
    norm_num
  have hsingle : 2 ^ 128 - 2 ^ 103 ≤ |aboveSingles.value| := by
    rw [abs_value_aboveSingles]
    norm_num
  have hdouble : |aboveSingles.value| < 2 ^ 1024 - 2 ^ 970 := by
    rw [← overflowBound_double, abs_value_aboveSingles]
    refine Binary.lt_bound_of_lt (e := 100) (by decide) (by decide) ?_
    norm_num [BinaryFormat.double]
  have hhuge : 2 ^ 1024 - 2 ^ 970 ≤ |aboveDoubles.value| := by
    rw [← overflowBound_double, abs_value_aboveDoubles]
    refine Binary.bound_le_of_le (e := 1000) (by decide) ?_
    refine le_trans (zpow_le_zpow_right₀ one_le_two ?_) DecimalLiteral.two_pow_le_ten_pow
    decide
  have hvalue : tenth.value = 1 / 10 := by
    rw [← abs_value_tenth, abs_value]
    exact tenth.value_eq
  have hfinite := ((single_of_decimal "0.1").2 tenth (by decide)).1 hsmall
  rw [hvalue] at hfinite
  exact ⟨hfinite, ((single_of_decimal "-3.5e38").2 aboveSingles (by decide)).2.1 hsingle hdouble,
    ((single_of_decimal "1e400").2 aboveDoubles (by decide)).2.2 hhuge⟩

/-- Not every decimal above the singles is an error. -/
theorem huge_decimal_is_infinite_single : aboveDoubles.text = "1e400" ∧
    2 ^ 128 - 2 ^ 103 ≤ |aboveDoubles.value| ∧
    Value.coerce "1e400" .float32 = .ok (.float32 (.infinity false)) := by
  refine ⟨by decide, ?_, by rfl⟩
  have hscale : (10 : ℚ) ^ (39 : ℤ) ≤ 10 ^ (400 : ℤ) :=
    zpow_le_zpow_right₀ (by norm_num) (by norm_num)
  rw [abs_value_aboveDoubles]
  refine le_trans ?_ hscale
  norm_num

end WrittenDecimal
end RequestBinding
