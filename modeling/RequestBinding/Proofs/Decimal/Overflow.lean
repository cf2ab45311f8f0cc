import Mathlib.Tactic.Ring
import RequestBinding.Proofs.Decimal.Rounding

/-!
# Rounding and overflow

Rounding gives the nearest number of a format, as long as there is one: magnitudes from half a unit
above the greatest finite number on come to infinity.

1. `Binary.Rounds` says that a number is what a magnitude rounds to.
2. `rounds_ofRatio`: a ratio is rounded to it.
3. `DecimalLiteral.rounds_toBinary`: so is a literal, also where it is too large or too small to be
   worked out.
-/

namespace RequestBinding

/-- The least magnitude that comes to infinity: half a unit above the greatest finite number. -/
def BinaryFormat.overflowBound (f : BinaryFormat) : ℚ :=
  2 ^ (f.maxExponent + f.precision) - 2 ^ (f.maxExponent - 1)

theorem overflowBound_single : BinaryFormat.single.overflowBound = 2 ^ 128 - 2 ^ 103 := by
  norm_num [BinaryFormat.overflowBound, BinaryFormat.single]

theorem overflowBound_double : BinaryFormat.double.overflowBound = 2 ^ 1024 - 2 ^ 970 := by
  norm_num [BinaryFormat.overflowBound, BinaryFormat.double]

/-! ## Quotients -/

/-- A quotient is rounded by no more than half. -/
theorem roundQuotient_near (n : ℕ) {d : ℕ} (hd : 0 < d) :
    |(roundQuotient n d : ℚ) - n / d| ≤ 1 / 2 := by
  have hdiv : d * (n / d) + n % d = n := Nat.div_add_mod n d
  have hmod : n % d < d := Nat.mod_lt n hd
  have hd' : (0 : ℚ) < d := Nat.cast_pos.mpr hd
  have hn : (n : ℚ) = d * (n / d : ℕ) + (n % d : ℕ) := by exact_mod_cast hdiv.symm
  have hquotient : (n : ℚ) / d = (n / d : ℕ) + (n % d : ℕ) / d := by
    rw [hn]
    field_simp
  rw [hquotient, abs_le]
  unfold roundQuotient
  dsimp only
  split_ifs with hup
  · have hhalf : (1 : ℚ) / 2 ≤ (n % d : ℕ) / d := by
      rw [div_le_div_iff₀ two_pos hd']
      exact_mod_cast (by omega : 1 * d ≤ n % d * 2)
    have hone : ((n % d : ℕ) : ℚ) / d ≤ 1 := by
      rw [div_le_one hd']
      exact_mod_cast hmod.le
    push_cast
    constructor <;> linarith
  · have hhalf : ((n % d : ℕ) : ℚ) / d ≤ 1 / 2 := by
      rw [div_le_div_iff₀ hd' two_pos]
      exact_mod_cast (by omega : n % d * 2 ≤ 1 * d)
    have hpos : (0 : ℚ) ≤ ((n % d : ℕ) : ℚ) / d := by positivity
    constructor <;> linarith

/-- A quotient below an even number is rounded up to it from half below it on. -/
theorem roundQuotient_eq_iff {n d k : ℕ} (hd : 0 < d) (hk : k % 2 = 0) (h : (n : ℚ) / d < k) :
    roundQuotient n d = k ↔ (k : ℚ) - 1 / 2 ≤ n / d := by
  have hd' : (0 : ℚ) < d := Nat.cast_pos.mpr hd
  constructor
  · intro heq
    have hnear := (abs_le.mp (roundQuotient_near n hd)).2
    rw [heq] at hnear
    linarith
  · intro hhalf
    have hn : n < k * d := by
      rw [div_lt_iff₀ hd'] at h
      exact_mod_cast h
    have htwice : 2 * (k * d) ≤ 2 * n + d := by
      rw [le_div_iff₀ hd'] at hhalf
      have : (2 : ℚ) * (k * d) ≤ 2 * n + d := by linarith
      exact_mod_cast this
    obtain ⟨j, rfl⟩ : ∃ j, k = j + 1 :=
      Nat.exists_eq_succ_of_ne_zero fun hzero => by simp [hzero] at hn
    rw [Nat.add_mul, Nat.one_mul] at htwice hn
    -- the quotient is the odd `j`, so that a tie goes up as well
    have hquotient : n / d = j :=
      Nat.div_eq_of_lt_le (by omega) (by rw [Nat.add_mul, Nat.one_mul]; exact hn)
    have hdiv : d * j + n % d = n := by
      rw [← hquotient]
      exact Nat.div_add_mod n d
    rw [Nat.mul_comm] at hdiv
    unfold roundQuotient
    dsimp only
    rw [hquotient, if_pos (by omega)]

/-! ## Ratios -/

namespace Binary

variable {f : BinaryFormat}

/-- Whether a number is what a magnitude with a sign rounds to: infinity from the bound on, and below it
a finite number that is no further away than half a unit in its last place. -/
def Rounds (s : Bool) (x : ℚ) : Binary f → Prop
  | nan => False
  | infinity t => t = s ∧ f.overflowBound ≤ x
  | finite t m e => t = s ∧ x < f.overflowBound ∧ |(m : ℚ) * 2 ^ e - x| ≤ 2 ^ e / 2

theorem Rounds.eq_infinity {s : Bool} {x : ℚ} {y : Binary f} (h : y.Rounds s x)
    (hx : f.overflowBound ≤ x) : y = infinity s := by
  cases y with
  | nan => cases h
  | infinity t => rw [h.1]
  | finite t m e => exact absurd h.2.1 (not_lt.mpr hx)

theorem Rounds.eq_finite {s : Bool} {x : ℚ} {y : Binary f} (h : y.Rounds s x)
    (hx : x < f.overflowBound) :
    ∃ (m : ℕ) (e : ℤ), y = finite s m e ∧ |(m : ℚ) * 2 ^ e - x| ≤ 2 ^ e / 2 := by
  cases y with
  | nan => cases h
  | infinity t => exact absurd hx (not_lt.mpr h.2)
  | finite t m e =>
    obtain ⟨rfl, -, hnear⟩ := h
    exact ⟨m, e, rfl, hnear⟩

/-- A magnitude of a scale below the greatest one is below the bound. -/
theorem lt_bound_of_lt {x : ℚ} {e : ℤ} (hf : 0 < f.precision) (he : e < f.maxExponent)
    (hx : x < 2 ^ (e + f.precision)) : x < f.overflowBound := by
  have hhalf : (2 : ℚ) ^ (e + f.precision) ≤ 2 ^ (f.maxExponent + f.precision - 1) :=
    zpow_le_zpow_right₀ one_le_two (by omega)
  have hrest : (2 : ℚ) ^ (f.maxExponent - 1) ≤ 2 ^ (f.maxExponent + f.precision - 1) :=
    zpow_le_zpow_right₀ one_le_two (by omega)
  have hdouble : (2 : ℚ) ^ (f.maxExponent + f.precision) =
      2 * 2 ^ (f.maxExponent + f.precision - 1) := by
    rw [← zpow_one_add₀ two_ne_zero]
    congr 1
    omega
  unfold BinaryFormat.overflowBound
  linarith

theorem single_bound_lt_double :
    BinaryFormat.single.overflowBound < BinaryFormat.double.overflowBound := by
  refine lt_bound_of_lt (e := 75) (by decide) (by decide) ?_
  rw [overflowBound_single]
  norm_num [BinaryFormat.double]

/-- A magnitude of a scale above the greatest one is above the bound. -/
theorem bound_le_of_le {x : ℚ} {e : ℤ} (he : f.maxExponent < e)
    (hx : 2 ^ (e + f.precision - 1) ≤ x) : f.overflowBound ≤ x := by
  have hscale : (2 : ℚ) ^ (f.maxExponent + f.precision) ≤ 2 ^ (e + f.precision - 1) :=
    zpow_le_zpow_right₀ one_le_two (by omega)
  have hpos : (0 : ℚ) < 2 ^ (f.maxExponent - 1) := by positivity
  unfold BinaryFormat.overflowBound
  linarith

/-- What is no more than half the least number comes to zero. -/
theorem rounds_zero (hf : 0 < f.precision) (hexp : f.minExponent ≤ f.maxExponent) (s : Bool) {x : ℚ}
    (hx : 0 ≤ x) (hnear : x ≤ 2 ^ f.minExponent / 2) : (zero s : Binary f).Rounds s x := by
  have hleast : (2 : ℚ) ^ f.minExponent ≤ 2 ^ (f.maxExponent - 1 + f.precision) :=
    zpow_le_zpow_right₀ one_le_two (by omega)
  have hpos : (0 : ℚ) < 2 ^ f.minExponent := by positivity
  refine ⟨rfl, lt_bound_of_lt (e := f.maxExponent - 1) hf (by omega) (by linarith), ?_⟩
  rw [Nat.cast_zero, zero_mul, zero_sub, abs_neg, abs_of_nonneg hx]
  exact hnear

/-- A rounded mantissa is brought to what its magnitude rounds to. At the greatest scale it is full from
the bound on. -/
theorem rounds_ofRounded (hf : 0 < f.precision) (s : Bool) {m : ℕ} {e : ℤ} {x : ℚ}
    (hnear : |(m : ℚ) * 2 ^ e - x| ≤ 2 ^ e / 2) (hunder : x < 2 ^ (e + f.precision))
    (hover : f.maxExponent < e → 2 ^ (e + f.precision - 1) ≤ x)
    (htop : e = f.maxExponent → (m = twoTo f.precision ↔ f.overflowBound ≤ x)) :
    (ofRounded s m e : Binary f).Rounds s x := by
  unfold ofRounded
  split_ifs with hfull hinf hinf
  · refine ⟨rfl, ?_⟩
    by_cases he : e = f.maxExponent
    · exact (htop he).mp hfull
    · exact bound_le_of_le (by omega) (hover (by omega))
  · refine ⟨rfl, lt_bound_of_lt hf (by omega) hunder, ?_⟩
    obtain ⟨p, hp⟩ := Nat.exists_eq_succ_of_ne_zero (Nat.ne_of_gt hf)
    -- a full mantissa is the least one of the next scale
    have hcarry : (twoTo (f.precision - 1) : ℚ) * 2 ^ (e + 1) = m * 2 ^ e := by
      rw [hfull, hp, Nat.succ_eq_add_one, Nat.add_sub_cancel, cast_twoTo, cast_twoTo,
        zpow_add_one₀ two_ne_zero, pow_succ]
      ring
    have hscale : (2 : ℚ) ^ e ≤ 2 ^ (e + 1) := zpow_le_zpow_right₀ one_le_two (by omega)
    rw [hcarry]
    linarith
  · exact ⟨rfl, bound_le_of_le hinf (hover hinf)⟩
  · refine ⟨rfl, ?_, hnear⟩
    by_cases he : e = f.maxExponent
    · exact not_le.mp fun hbound => hfull ((htop he).mpr hbound)
    · exact lt_bound_of_lt hf (by omega) hunder

/-- A ratio is rounded to the nearest number of the format. -/
theorem rounds_ofRatio (hf : 0 < f.precision) (hexp : f.minExponent ≤ f.maxExponent) (s : Bool)
    (num : ℕ) {den : ℕ} (hden : 0 < den) : (ofRatio s num den : Binary f).Rounds s (num / den) := by
  unfold ofRatio
  split_ifs with hnum
  · rw [hnum, Nat.cast_zero, zero_div]
    exact rounds_zero hf hexp s (le_refl 0) (by positivity)
  dsimp only
  have hnum : 0 < num := Nat.pos_of_ne_zero hnum
  set e := max f.minExponent (floorLog2 num den - (f.precision - 1)) with he
  obtain ⟨hpos, hscaled⟩ := scaleRatio_spec num hden e
  have hlt := scaled_lt hnum hden (f := f) (le_max_right f.minExponent _)
  rw [← he] at hlt
  have hunit : (0 : ℚ) < 2 ^ e := by positivity
  have hvalue : (num : ℚ) / den = (scaleRatio num den e).1 / (scaleRatio num den e).2 * 2 ^ e := by
    rw [hscaled, div_mul_cancel₀ _ hunit.ne']
  generalize (scaleRatio num den e).1 = n at *
  generalize (scaleRatio num den e).2 = d at *
  have hround := roundQuotient_near n hpos
  refine rounds_ofRounded hf s ?_ ?_ ?_ ?_
  · rw [hvalue, ← sub_mul, abs_mul, abs_of_pos hunit]
    linarith [mul_le_mul_of_nonneg_right hround hunit.le]
  · rw [hvalue, zpow_add₀ two_ne_zero, mul_comm, zpow_natCast, ← cast_twoTo]
    exact mul_lt_mul_of_pos_left hlt hunit
  · intro hover
    have hlog : e + f.precision - 1 = floorLog2 num den := by omega
    rw [hlog]
    exact (floorLog2_spec hnum hden).1
  · intro htop
    obtain ⟨p, hp⟩ := Nat.exists_eq_succ_of_ne_zero (Nat.ne_of_gt hf)
    have heven : twoTo f.precision % 2 = 0 := by
      rw [hp, Nat.succ_eq_add_one, twoTo_succ]
      omega
    have hbound : f.overflowBound = (twoTo f.precision - 1 / 2) * 2 ^ e := by
      rw [BinaryFormat.overflowBound, htop, zpow_add₀ two_ne_zero, zpow_sub_one₀ two_ne_zero,
        zpow_natCast, ← cast_twoTo]
      ring
    rw [roundQuotient_eq_iff hpos heven hlt, hbound, hvalue, mul_le_mul_iff_left₀ hunit]

end Binary

/-! ## Literals -/

namespace DecimalLiteral

theorem cast_tenTo (k : ℕ) : (tenTo k : ℚ) = 10 ^ k := by
  change ((10 ^ k : ℕ) : ℚ) = 10 ^ k
  push_cast
  rfl

/-- A positive number lies between the powers of ten that its digits count. -/
theorem digitCount_spec {n : ℕ} (hn : 0 < n) :
    (10 : ℚ) ^ ((digitCount n : ℤ) - 1) ≤ n ∧ (n : ℚ) < 10 ^ (digitCount n : ℤ) := by
  have hcount : digitCount n = (Nat.toDigits 10 n).length := if_neg (Nat.ne_of_gt hn)
  have hpos : 0 < digitCount n := by
    rw [hcount]
    exact Nat.length_toDigits_pos
  rw [zpow_natCast]
  refine ⟨?_, ?_⟩
  · rw [show (digitCount n : ℤ) - 1 = ((digitCount n - 1 : ℕ) : ℤ) by omega, zpow_natCast]
    by_cases hone : digitCount n = 1
    · rw [hone, Nat.sub_self, pow_zero]
      exact_mod_cast hn
    · have hlow : ¬ n < 10 ^ (digitCount n - 1) := by
        rw [← Nat.length_toDigits_le_iff (by decide) (by omega), ← hcount]
        omega
      exact_mod_cast Nat.not_lt.mp hlow
  · have hhigh : n < 10 ^ digitCount n :=
      (Nat.length_toDigits_le_iff (by decide) hpos).mp (by rw [hcount])
    exact_mod_cast hhigh

/-- The exact magnitude of a literal. -/
def magnitude (l : DecimalLiteral) : ℚ := l.digits * 10 ^ l.exponent

theorem magnitude_nonneg (l : DecimalLiteral) : 0 ≤ l.magnitude := by
  unfold magnitude
  positivity

/-- The magnitude of a literal lies between the powers of ten next to its leading digit. -/
theorem magnitude_spec {l : DecimalLiteral} (hl : 0 < l.digits) :
    (10 : ℚ) ^ ((digitCount l.digits : ℤ) + l.exponent - 1) ≤ l.magnitude ∧
      l.magnitude < 10 ^ ((digitCount l.digits : ℤ) + l.exponent) := by
  obtain ⟨hlow, hhigh⟩ := digitCount_spec hl
  have hpos : (0 : ℚ) < 10 ^ l.exponent := by positivity
  have hsplit : (digitCount l.digits : ℤ) + l.exponent - 1 = (digitCount l.digits : ℤ) - 1 + l.exponent := by
    omega
  have hten : (10 : ℚ) ≠ 0 := by norm_num
  unfold magnitude
  rw [hsplit, zpow_add₀ hten, zpow_add₀ hten]
  exact ⟨mul_le_mul_of_nonneg_right hlow hpos.le, mul_lt_mul_of_pos_right hhigh hpos⟩

variable {f : BinaryFormat}

theorem two_pow_le_ten_pow : (2 : ℚ) ^ (1200 : ℤ) ≤ 10 ^ (400 : ℤ) := by
  have hcube : (2 : ℚ) ^ (1200 : ℤ) = (2 ^ 3) ^ (400 : ℤ) := by
    rw [← zpow_natCast, ← zpow_mul]
    rfl
  rw [hcube]
  exact zpow_le_zpow_left₀ (by norm_num) (by norm_num) (by norm_num)

/-- A literal is rounded to the nearest number of a format whose magnitudes lie between `2 ^ (-1200)` and
`2 ^ 1200`. Those of `10 ^ 400` and more, and those below `10 ^ (-400)`, need not be worked out. -/
theorem rounds_toBinary (hf : 0 < f.precision) (hexp : f.minExponent ≤ f.maxExponent)
    (hmax : f.maxExponent + f.precision ≤ 1200) (hmin : -1200 < f.minExponent) (l : DecimalLiteral) :
    (l.toBinary : Binary f).Rounds l.negative l.magnitude := by
  have hlarge : f.overflowBound ≤ 10 ^ (400 : ℤ) := by
    have hscale : (2 : ℚ) ^ (f.maxExponent + f.precision) ≤ 2 ^ (1200 : ℤ) :=
      zpow_le_zpow_right₀ one_le_two hmax
    have hpos : (0 : ℚ) < 2 ^ (f.maxExponent - 1) := by positivity
    exact (sub_le_self _ hpos.le).trans (hscale.trans two_pow_le_ten_pow)
  have hsmall : (10 : ℚ) ^ (-400 : ℤ) ≤ 2 ^ f.minExponent / 2 := by
    have hten : (10 : ℚ) ^ (-400 : ℤ) ≤ 2 ^ (-1200 : ℤ) := by
      rw [zpow_neg, zpow_neg]
      exact inv_anti₀ (by positivity) two_pow_le_ten_pow
    refine hten.trans ?_
    rw [div_eq_mul_inv, ← zpow_sub_one₀ two_ne_zero]
    exact zpow_le_zpow_right₀ one_le_two (by omega)
  unfold toBinary
  dsimp only
  split_ifs with hzero htop hbottom hsign
  · refine Binary.rounds_zero hf hexp _ l.magnitude_nonneg ?_
    rw [magnitude, hzero, Nat.cast_zero, zero_mul]
    positivity
  · refine ⟨rfl, hlarge.trans (le_trans ?_ (magnitude_spec (Nat.pos_of_ne_zero hzero)).1)⟩
    exact zpow_le_zpow_right₀ (by norm_num) (by omega)
  · refine Binary.rounds_zero hf hexp _ l.magnitude_nonneg (le_trans ?_ hsmall)
    refine (magnitude_spec (Nat.pos_of_ne_zero hzero)).2.le.trans ?_
    exact zpow_le_zpow_right₀ (by norm_num) (by omega)
  · have hvalue : l.magnitude = (l.digits * tenTo l.exponent.toNat : ℕ) / (1 : ℕ) := by
      rw [magnitude, Nat.cast_mul, cast_tenTo, ← zpow_natCast, Int.toNat_of_nonneg hsign, Nat.cast_one,
        div_one]
    rw [hvalue]
    exact Binary.rounds_ofRatio hf hexp _ _ Nat.one_pos
  · have hvalue : l.magnitude = l.digits / (tenTo (-l.exponent).toNat : ℕ) := by
      rw [magnitude, cast_tenTo, ← zpow_natCast, Int.toNat_of_nonneg (by omega), zpow_neg, div_inv_eq_mul]
    rw [hvalue]
    exact Binary.rounds_ofRatio hf hexp _ _ (tenTo_pos _)

theorem rounds_single (l : DecimalLiteral) : (l.toBinary : Single).Rounds l.negative l.magnitude :=
  l.rounds_toBinary (by decide) (by decide) (by decide) (by decide)

theorem rounds_double (l : DecimalLiteral) : (l.toBinary : Double).Rounds l.negative l.magnitude :=
  l.rounds_toBinary (by decide) (by decide) (by decide) (by decide)

end DecimalLiteral
end RequestBinding
