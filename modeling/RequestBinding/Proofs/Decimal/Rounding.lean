import Mathlib.Algebra.Order.Field.Power
import Mathlib.Tactic.FieldSimp
import Mathlib.Tactic.Linarith
import Mathlib.Tactic.Positivity
import RequestBinding.Decimal.Literal

/-!
# Rounding to a binary format

Rounding an exact ratio gives a number of the format, and the ratio itself if the format has it.

1. `floorLog2_spec` brackets a ratio by powers of two; `scaleRatio_spec` divides it by one.
2. `inRange_ofRatio`: what is rounded has a mantissa and an exponent of the format.
3. `ofRatio_of_fits`: a ratio that fits the format is rounded to itself, so `convert_same`: a number
   stays the same in a wider format.
4. `NumberText.inRange_toBinary`: every text is read as a number of the format.
-/

namespace RequestBinding

/-! ## Powers of two -/

theorem cast_twoTo (k : ℕ) : (twoTo k : ℚ) = 2 ^ k := by
  change ((2 ^ k : ℕ) : ℚ) = 2 ^ k
  push_cast
  rfl

theorem cast_twoTo_toNat {e : ℤ} (he : 0 ≤ e) : (twoTo e.toNat : ℚ) = 2 ^ e := by
  rw [cast_twoTo, ← zpow_natCast, Int.toNat_of_nonneg he]

/-- The scaled pair is the ratio divided by a power of two. -/
theorem scaleRatio_spec (num : ℕ) {den : ℕ} (hden : 0 < den) (e : ℤ) :
    0 < (scaleRatio num den e).2 ∧
      ((scaleRatio num den e).1 : ℚ) / (scaleRatio num den e).2 = (num : ℚ) / den / 2 ^ e := by
  unfold scaleRatio
  split_ifs with he
  · refine ⟨Nat.mul_pos hden (twoTo_pos _), ?_⟩
    rw [Nat.cast_mul, cast_twoTo_toNat he, div_div]
  · refine ⟨hden, ?_⟩
    have hneg : (0 : ℤ) ≤ -e := by omega
    rw [Nat.cast_mul, cast_twoTo_toNat hneg, zpow_neg]
    field_simp

/-- A positive ratio lies between two powers of two next to each other. -/
theorem floorLog2_spec {num den : ℕ} (hnum : 0 < num) (hden : 0 < den) :
    (2 : ℚ) ^ floorLog2 num den ≤ (num : ℚ) / den ∧
      (num : ℚ) / den < 2 ^ (floorLog2 num den + 1) := by
  have hd : (0 : ℚ) < den := Nat.cast_pos.mpr hden
  have bracket : ∀ {n : ℕ}, 0 < n →
      (2 : ℚ) ^ (n.log2 : ℤ) ≤ n ∧ (n : ℚ) < 2 ^ ((n.log2 : ℤ) + 1) := by
    intro n hn
    refine ⟨?_, ?_⟩
    · rw [zpow_natCast]
      exact_mod_cast Nat.log2_self_le (Nat.ne_of_gt hn)
    · rw [show (n.log2 : ℤ) + 1 = ((n.log2 + 1 : ℕ) : ℤ) by push_cast; rfl, zpow_natCast]
      exact_mod_cast Nat.lt_log2_self
  obtain ⟨hnlow, hnhigh⟩ := bracket hnum
  obtain ⟨hdlow, hdhigh⟩ := bracket hden
  set a : ℤ := (num.log2 : ℤ)
  set b : ℤ := (den.log2 : ℤ)
  -- the logarithms of both sides leave two candidates
  have hlow : (2 : ℚ) ^ (a - b - 1) ≤ (num : ℚ) / den := by
    rw [le_div_iff₀ hd]
    calc (2 : ℚ) ^ (a - b - 1) * den ≤ 2 ^ (a - b - 1) * 2 ^ (b + 1) := by gcongr
      _ = 2 ^ a := by rw [← zpow_add₀ two_ne_zero]; congr 1; omega
      _ ≤ num := hnlow
  have hhigh : (num : ℚ) / den < 2 ^ (a - b + 1) := by
    rw [div_lt_iff₀ hd]
    calc (num : ℚ) < 2 ^ (a + 1) := hnhigh
      _ = 2 ^ (a - b + 1) * 2 ^ b := by rw [← zpow_add₀ two_ne_zero]; congr 1; omega
      _ ≤ 2 ^ (a - b + 1) * den := by gcongr
  obtain ⟨hpos, hscaled⟩ := scaleRatio_spec num hden (a - b)
  have hcompare : (scaleRatio num den (a - b)).2 ≤ (scaleRatio num den (a - b)).1 ↔
      (2 : ℚ) ^ (a - b) ≤ (num : ℚ) / den := by
    have hpow : (0 : ℚ) < 2 ^ (a - b) := by positivity
    rw [← one_le_div hpow, ← hscaled, one_le_div (Nat.cast_pos.mpr hpos), Nat.cast_le]
  have hfloor : floorLog2 num den =
      if (scaleRatio num den (a - b)).2 ≤ (scaleRatio num den (a - b)).1 then a - b
      else a - b - 1 := rfl
  rw [hfloor]
  split_ifs with h
  · exact ⟨hcompare.mp h, hhigh⟩
  · refine ⟨hlow, ?_⟩
    rw [sub_add_cancel]
    exact lt_of_not_ge fun hge => h (hcompare.mpr hge)

/-! ## Quotients -/

theorem roundQuotient_of_eq {n d k : ℕ} (hd : 0 < d) (h : (n : ℚ) / d = k) :
    roundQuotient n d = k := by
  have hn : n = k * d := by
    rw [div_eq_iff (Nat.cast_ne_zero.mpr (Nat.ne_of_gt hd))] at h
    exact_mod_cast h
  unfold roundQuotient
  rw [hn, Nat.mul_div_cancel k hd, Nat.mul_mod_left]
  dsimp only
  rw [if_neg (by omega)]

theorem roundQuotient_le {n d k : ℕ} (hd : 0 < d) (h : (n : ℚ) / d < k) :
    roundQuotient n d ≤ k := by
  have hn : n < k * d := by
    rw [div_lt_iff₀ (Nat.cast_pos.mpr hd)] at h
    exact_mod_cast h
  have hdiv : n / d < k := (Nat.div_lt_iff_lt_mul hd).mpr hn
  unfold roundQuotient
  dsimp only
  split_ifs
  · exact hdiv
  · exact Nat.le_of_lt hdiv

/-! ## Numbers of a format -/

namespace Binary

variable {f g : BinaryFormat}

/-- Whether a finite number has a mantissa and an exponent of its format. -/
def InRange : Binary f → Prop
  | finite _ m e => m < twoTo f.precision ∧ f.minExponent ≤ e ∧ e ≤ f.maxExponent
  | _ => True

/-- Whether numbers of two formats are the same: no numbers, one infinity, or one finite value with one
sign. -/
inductive Same : Binary f → Binary g → Prop
  | nan : Same nan nan
  | infinity (s : Bool) : Same (infinity s) (infinity s)
  | finite (s : Bool) {m m' : ℕ} {e e' : ℤ} (h : (m : ℚ) * 2 ^ e = m' * 2 ^ e') :
      Same (finite s m e) (finite s m' e')

theorem inRange_zero (hf : f.minExponent ≤ f.maxExponent) (s : Bool) : (zero s : Binary f).InRange :=
  ⟨twoTo_pos _, le_refl _, hf⟩

theorem inRange_ofRounded (hf : 0 < f.precision) {m : ℕ} (hm : m ≤ twoTo f.precision) {e : ℤ}
    (he : f.minExponent ≤ e) (s : Bool) : (ofRounded s m e : Binary f).InRange := by
  unfold ofRounded
  split_ifs with hfull hover hover
  · trivial
  · refine ⟨?_, by omega, by omega⟩
    obtain ⟨p, hp⟩ := Nat.exists_eq_succ_of_ne_zero (Nat.ne_of_gt hf)
    have hpos := twoTo_pos p
    rw [hp, Nat.succ_eq_add_one, Nat.add_sub_cancel, twoTo_succ]
    omega
  · trivial
  · exact ⟨Nat.lt_of_le_of_ne hm hfull, he, by omega⟩

/-- The exponent at which a positive ratio is rounded leaves it no more bits than a mantissa has. -/
theorem scaled_lt {num den : ℕ} (hnum : 0 < num) (hden : 0 < den) {e : ℤ}
    (he : floorLog2 num den - (f.precision - 1) ≤ e) :
    ((scaleRatio num den e).1 : ℚ) / (scaleRatio num den e).2 < twoTo f.precision := by
  rw [(scaleRatio_spec num hden e).2, div_lt_iff₀ (by positivity), cast_twoTo, ← zpow_natCast,
    ← zpow_add₀ two_ne_zero]
  refine (floorLog2_spec hnum hden).2.trans_le ?_
  exact zpow_le_zpow_right₀ one_le_two (by omega)

/-- A rounded ratio is a number of the format. -/
theorem inRange_ofRatio (hf : 0 < f.precision) (hexp : f.minExponent ≤ f.maxExponent) (s : Bool)
    (num : ℕ) {den : ℕ} (hden : 0 < den) : (ofRatio s num den : Binary f).InRange := by
  unfold ofRatio
  split_ifs with hnum
  · exact inRange_zero hexp s
  · refine inRange_ofRounded hf (roundQuotient_le (scaleRatio_spec num hden _).1 ?_) (le_max_left _ _) s
    exact scaled_lt (Nat.pos_of_ne_zero hnum) hden (le_max_right _ _)

/-- A ratio that fits the format is rounded to itself. -/
theorem ofRatio_of_fits {num den m : ℕ} {e : ℤ} (hden : 0 < den) (hm : 0 < m)
    (hvalue : (num : ℚ) / den = m * 2 ^ e) (hfits : m < twoTo f.precision)
    (hmin : f.minExponent ≤ e) (hmax : e ≤ f.maxExponent) (s : Bool) :
    ∃ (m' : ℕ) (e' : ℤ), (ofRatio s num den : Binary f) = finite s m' e' ∧
      (m' : ℚ) * 2 ^ e' = m * 2 ^ e := by
  have hnum : 0 < num := by
    refine Nat.pos_of_ne_zero fun hzero => ?_
    rw [hzero, Nat.cast_zero, zero_div] at hvalue
    have : (0 : ℚ) < m * 2 ^ e := by positivity
    linarith
  set e' := max f.minExponent (floorLog2 num den - (f.precision - 1)) with he'
  -- the value has at most `precision` bits above `e`, so it is rounded there or below
  have hbelow : e' ≤ e := by
    have hlt : (2 : ℚ) ^ floorLog2 num den < 2 ^ (f.precision + e) := by
      calc (2 : ℚ) ^ floorLog2 num den ≤ (num : ℚ) / den := (floorLog2_spec hnum hden).1
        _ = m * 2 ^ e := hvalue
        _ < twoTo f.precision * 2 ^ e := by
          have : (m : ℚ) < twoTo f.precision := Nat.cast_lt.mpr hfits
          gcongr
        _ = 2 ^ (f.precision + e) := by rw [cast_twoTo, ← zpow_natCast, ← zpow_add₀ two_ne_zero]
    have := (zpow_lt_zpow_iff_right₀ one_lt_two).mp hlt
    omega
  obtain ⟨hpos, hscaled⟩ := scaleRatio_spec num hden e'
  have hquotient : ((scaleRatio num den e').1 : ℚ) / (scaleRatio num den e').2 =
      (m * twoTo (e - e').toNat : ℕ) := by
    rw [hscaled, hvalue, Nat.cast_mul, cast_twoTo_toNat (by omega), zpow_sub₀ two_ne_zero,
      mul_div_assoc]
  have hround := roundQuotient_of_eq hpos hquotient
  refine ⟨m * twoTo (e - e').toNat, e', ?_, ?_⟩
  · have hlt : m * twoTo (e - e').toNat < twoTo f.precision := by
      have := scaled_lt hnum hden (f := f) (le_max_right f.minExponent _)
      rw [hquotient] at this
      exact_mod_cast this
    unfold ofRatio
    rw [if_neg (Nat.ne_of_gt hnum)]
    dsimp only
    rw [← he', hround]
    unfold ofRounded
    rw [if_neg (Nat.ne_of_lt hlt), if_neg (by omega)]
  · rw [Nat.cast_mul, cast_twoTo_toNat (by omega), mul_assoc, ← zpow_add₀ two_ne_zero]
    congr 2
    omega

/-- The ratio of a finite magnitude is the magnitude. -/
theorem ratio_value {m n d : ℕ} {e : ℤ}
    (h : (if 0 ≤ e then (m * twoTo e.toNat, 1) else (m, twoTo (-e).toNat)) = (n, d)) :
    0 < d ∧ (n : ℚ) / d = m * 2 ^ e := by
  split_ifs at h with he
  · cases h
    refine ⟨Nat.one_pos, ?_⟩
    rw [Nat.cast_mul, cast_twoTo_toNat he, Nat.cast_one, div_one]
  · cases h
    have hneg : (0 : ℤ) ≤ -e := by omega
    refine ⟨twoTo_pos _, ?_⟩
    rw [cast_twoTo_toNat hneg, zpow_neg, div_inv_eq_mul]

/-- A number of a format stays the same in a format that has more of every part. -/
theorem convert_same (hprecision : f.precision ≤ g.precision) (hmin : g.minExponent ≤ f.minExponent)
    (hmax : f.maxExponent ≤ g.maxExponent) {x : Binary f} (hx : x.InRange) :
    Same x (x.convert g) := by
  cases x with
  | nan => exact .nan
  | infinity s => exact .infinity s
  | finite s m e =>
    obtain ⟨hm, hlow, hhigh⟩ := hx
    unfold convert
    dsimp only
    cases hratio : (if 0 ≤ e then (m * twoTo e.toNat, 1) else (m, twoTo (-e).toNat)) with
    | mk n d =>
      obtain ⟨hd, hvalue⟩ := ratio_value hratio
      dsimp only
      obtain rfl | hpos := Nat.eq_zero_or_pos m
      · obtain rfl : n = 0 := by
          rw [Nat.cast_zero, zero_mul, div_eq_zero_iff] at hvalue
          rcases hvalue with hn | hd0
          · exact_mod_cast hn
          · exact absurd (Nat.cast_eq_zero.mp hd0) (Nat.ne_of_gt hd)
        rw [ofRatio_zero]
        exact .finite s (by rw [Nat.cast_zero, zero_mul, zero_mul])
      · have hfits : m < twoTo g.precision := by
          refine hm.trans_le ?_
          exact Nat.pow_le_pow_right Nat.two_pos hprecision
        obtain ⟨m', e', hrounded, hsame⟩ := ofRatio_of_fits (f := g) hd hpos hvalue hfits
          (hmin.trans hlow) (hhigh.trans hmax) s
        rw [hrounded]
        exact .finite s hsame.symm

end Binary

/-! ## Literals -/

variable {f : BinaryFormat}

theorem DecimalLiteral.inRange_toBinary (hf : 0 < f.precision) (hexp : f.minExponent ≤ f.maxExponent)
    (l : DecimalLiteral) : (l.toBinary : Binary f).InRange := by
  unfold DecimalLiteral.toBinary
  dsimp only
  split_ifs
  · exact Binary.inRange_zero hexp _
  · trivial
  · exact Binary.inRange_zero hexp _
  · exact Binary.inRange_ofRatio hf hexp _ _ Nat.one_pos
  · exact Binary.inRange_ofRatio hf hexp _ _ (tenTo_pos _)

/-- What a text spells is read as a number of the format. -/
theorem NumberText.inRange_toBinary (hf : 0 < f.precision) (hexp : f.minExponent ≤ f.maxExponent)
    (t : NumberText) : (t.toBinary : Binary f).InRange := by
  cases t with
  | nan => trivial
  | infinity s => trivial
  | literal l => exact l.inRange_toBinary hf hexp

end RequestBinding
