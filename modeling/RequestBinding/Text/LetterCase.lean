/-!
# Letter case

Only ASCII letters have another letter case. What is said of the letter case of all characters is
therefore settled by the ASCII ones.
-/

namespace RequestBinding

/-- Beyond the ASCII characters, letter case changes nothing. -/
theorem toLower_toUpper_of_not_ascii {c : Char} (h : ¬ c.toNat < 128) :
    c.toLower = c ∧ c.toUpper = c := by
  constructor
  · refine dif_neg fun ⟨_, hz⟩ => h ?_
    exact Nat.lt_of_le_of_lt (UInt32.le_iff_toNat_le.mp hz) (by decide)
  · refine dif_neg fun ⟨_, hz⟩ => h ?_
    exact Nat.lt_of_le_of_lt (UInt32.le_iff_toNat_le.mp hz) (by decide)

/-- What holds of the ASCII characters, and of all that letter case leaves as they are, holds of every
character. -/
@[elab_as_elim]
theorem forall_of_ascii {P : Char → Prop} (hascii : ∀ n < 128, P (Char.ofNat n))
    (hother : ∀ c : Char, c.toLower = c → c.toUpper = c → P c) (c : Char) : P c := by
  by_cases hc : c.toNat < 128
  · rw [← Char.ofNat_toNat c]
    exact hascii c.toNat hc
  · obtain ⟨hlower, hupper⟩ := toLower_toUpper_of_not_ascii hc
    exact hother c hlower hupper

end RequestBinding
