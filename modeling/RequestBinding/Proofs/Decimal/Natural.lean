import Mathlib.Data.Nat.Digits.Defs
import RequestBinding.Proofs.Decimal.Integer
import RequestBinding.Text.LetterCase

/-!
# Natural number texts

A natural number is written with digits of a radix up to sixteen, and may have a plus sign. Digits
above nine are letters, in either case.

1. `digitOf?_eq_some_iff` and `numberOf?_eq_some_iff` are digits and numbers as they are read.
2. `SpellsNatural` is that a text writes a number. `readNat_eq_ok_iff`: it is read iff the number is
   within the bound.
3. `SpellsNatural.unique`: a text writes one number at most.
-/

namespace RequestBinding

/-! ## Digits of a radix -/

/-- Whether a character stands for a digit of a radix, in either letter case. -/
def IsDigitOf (radix : ℕ) (c : Char) (d : ℕ) : Prop := d < radix ∧ c.toLower = Nat.digitChar d

theorem digitOf?_eq_filter {radix : ℕ} (hradix : radix ≤ 16) (c : Char) :
    digitOf? radix c = (digitOf? 16 c).filter (· < radix) := by
  unfold digitOf?
  dsimp only
  rw [Option.filter_filter]
  congr 1
  funext d
  rw [Bool.eq_iff_iff, Bool.and_eq_true, decide_eq_true_iff, decide_eq_true_iff]
  omega

theorem digitOf?_sixteen_ascii : ∀ n < 128, ∀ d < 16,
    digitOf? 16 (Char.ofNat n) = some d ↔ (Char.ofNat n).toLower = Nat.digitChar d := by
  decide +kernel

/-- A character that is read as a digit is one of those from the first digit to the last letter. -/
theorem toNat_of_digitOf? {radix : ℕ} {c : Char} {d : ℕ} (h : digitOf? radix c = some d) :
    48 ≤ c.toNat ∧ c.toNat ≤ 102 := by
  unfold digitOf? at h
  obtain ⟨h, -⟩ := Option.filter_eq_some_iff.mp h
  split_ifs at h with hdigit hlower hupper
  · obtain ⟨hzero, hnine⟩ := Char.isDigit_iff_toNat.mp hdigit
    exact ⟨hzero, Nat.le_trans hnine (by decide)⟩
  · exact ⟨Nat.le_trans (by decide) (Char.le_def.mp hlower.1), Char.le_def.mp hlower.2⟩
  · exact ⟨Nat.le_trans (by decide) (Char.le_def.mp hupper.1),
      Nat.le_trans (Char.le_def.mp hupper.2) (by decide)⟩

theorem toNat_lt_of_toLower {c : Char} {d : ℕ} (hd : d < 16) (h : c.toLower = Nat.digitChar d) :
    c.toNat < 128 := by
  have hascii : ∀ d < 16, (Nat.digitChar d).toNat < 128 := by decide
  by_contra hc
  rw [← (toLower_toUpper_of_not_ascii hc).1, h] at hc
  exact hc (hascii d hd)

/-- The digit of a character. -/
theorem digitOf?_eq_some_iff {radix : ℕ} (hradix : radix ≤ 16) {c : Char} {d : ℕ} :
    digitOf? radix c = some d ↔ IsDigitOf radix c d := by
  rw [digitOf?_eq_filter hradix, Option.filter_eq_some_iff, decide_eq_true_iff, and_comm, IsDigitOf]
  refine and_congr_right fun hd => ?_
  have hd : d < 16 := Nat.lt_of_lt_of_le hd hradix
  have hascii : c.toNat < 128 → (digitOf? 16 c = some d ↔ c.toLower = Nat.digitChar d) := by
    intro hc
    have hc := digitOf?_sixteen_ascii c.toNat hc d hd
    rwa [Char.ofNat_toNat] at hc
  constructor
  · intro h
    exact (hascii (Nat.lt_of_le_of_lt (toNat_of_digitOf? h).2 (by decide))).mp h
  · intro h
    exact (hascii (toNat_lt_of_toLower hd h)).mpr h

/-! ## Numbers -/

/-- Digits behind a number move it up by as many places. -/
theorem numberOf?_eq_some_iff {radix m : ℕ} (hradix : radix ≤ 16) (cs : List Char) : ∀ {n},
    numberOf? radix n cs = some m ↔ ∃ ds, List.Forall₂ (IsDigitOf radix) cs ds ∧
      m = Nat.ofDigits radix ds.reverse + radix ^ ds.length * n := by
  induction cs with
  | nil =>
    intro n
    simp only [numberOf?, List.forall₂_nil_left_iff, Option.some.injEq, exists_eq_left,
      List.reverse_nil, Nat.ofDigits_nil, List.length_nil, pow_zero, one_mul, zero_add]
    exact eq_comm
  | cons c cs ih =>
    intro n
    have hcons : ∀ (d : ℕ) (ds : List ℕ),
        Nat.ofDigits radix ds.reverse + radix ^ ds.length * (radix * n + d) =
          Nat.ofDigits radix (d :: ds).reverse + radix ^ (d :: ds).length * n := by
      intro d ds
      rw [List.reverse_cons, Nat.ofDigits_append, Nat.ofDigits_singleton, List.length_reverse,
        List.length_cons, pow_succ]
      ring
    rw [numberOf?, Option.bind_eq_some_iff]
    constructor
    · rintro ⟨d, hd, hrest⟩
      obtain ⟨ds, hds, hm⟩ := ih.mp hrest
      exact ⟨d :: ds, .cons ((digitOf?_eq_some_iff hradix).mp hd) hds, hm.trans (hcons d ds)⟩
    · rintro ⟨_, hall, hm⟩
      obtain ⟨d, ds, hd, hds, rfl⟩ := List.forall₂_cons_left_iff.mp hall
      exact ⟨d, (digitOf?_eq_some_iff hradix).mpr hd, ih.mpr ⟨ds, hds, hm.trans (hcons d ds).symm⟩⟩

/-- Whether a text writes a natural number in a radix: with at least one digit, the highest first,
and with a plus sign or without. -/
def SpellsNatural (radix : ℕ) (text : String) (n : ℕ) : Prop :=
  ∃ cs ds, (text.toList = cs ∨ text.toList = '+' :: cs) ∧ cs ≠ [] ∧
    List.Forall₂ (IsDigitOf radix) cs ds ∧ n = Nat.ofDigits radix ds.reverse

/-- Reading digits up to a bound. -/
theorem readDigits_eq_ok_iff_ofDigits {radix bound n : ℕ} {overflow : IntegerFault}
    (hpos : 0 < radix) (hradix : radix ≤ 16) {cs : List Char} :
    readDigits radix bound overflow 0 cs = .ok n ↔
      (∃ ds, List.Forall₂ (IsDigitOf radix) cs ds ∧ n = Nat.ofDigits radix ds.reverse) ∧
        n ≤ bound := by
  rw [readDigits_eq_ok_iff hpos overflow cs (Nat.zero_le bound), numberOf?_eq_some_iff hradix]
  simp only [Nat.mul_zero, Nat.add_zero]

theorem not_isDigitOf_plus {radix d : ℕ} (hradix : radix ≤ 16) : ¬ IsDigitOf radix '+' d := by
  intro h
  have hrange := toNat_of_digitOf? ((digitOf?_eq_some_iff hradix).mpr h)
  exact absurd hrange.1 (by decide)

/-- The texts that are read are those of numbers within the bound. -/
theorem readNat_eq_ok_iff {radix bound n : ℕ} (hpos : 0 < radix) (hradix : radix ≤ 16)
    {text : String} :
    readNat radix bound text.toList = .ok n ↔ SpellsNatural radix text n ∧ n ≤ bound := by
  constructor
  · intro h
    unfold readNat at h
    split at h
    · cases h
    · cases h
    · next cs hne htext =>
      obtain ⟨⟨ds, hds, hn⟩, hle⟩ := (readDigits_eq_ok_iff_ofDigits hpos hradix).mp h
      exact ⟨⟨cs, ds, .inr htext, hne, hds, hn⟩, hle⟩
    · next hne _ _ =>
      obtain ⟨⟨ds, hds, hn⟩, hle⟩ := (readDigits_eq_ok_iff_ofDigits hpos hradix).mp h
      exact ⟨⟨_, ds, .inl rfl, hne, hds, hn⟩, hle⟩
  · rintro ⟨⟨cs, ds, htext, hne, hds, hn⟩, hle⟩
    have hread : readDigits radix bound .tooLarge 0 cs = .ok n :=
      (readDigits_eq_ok_iff_ofDigits hpos hradix).mpr ⟨⟨ds, hds, hn⟩, hle⟩
    obtain ⟨c, cs, rfl⟩ := List.exists_cons_of_ne_nil hne
    obtain htext | htext := htext
    · have hplus : c ≠ '+' := by
        rintro rfl
        obtain ⟨d, -, hd, -⟩ := List.forall₂_cons_left_iff.mp hds
        exact not_isDigitOf_plus hradix hd
      rw [htext]
      unfold readNat
      split
      · next heq => cases heq
      · next heq => exact absurd (List.cons.inj heq).1 hplus
      · next heq => exact absurd (List.cons.inj heq).1 hplus
      · exact hread
    · rw [htext]
      exact hread

theorem SpellsNatural.unique {radix m n : ℕ} (hpos : 0 < radix) (hradix : radix ≤ 16)
    {text : String} (hm : SpellsNatural radix text m) (hn : SpellsNatural radix text n) :
    m = n := by
  have hread := (readNat_eq_ok_iff hpos hradix).mpr ⟨hm, Nat.le_max_left m n⟩
  rw [(readNat_eq_ok_iff hpos hradix).mpr ⟨hn, Nat.le_max_right m n⟩] at hread
  exact (Except.ok.inj hread).symm

end RequestBinding
