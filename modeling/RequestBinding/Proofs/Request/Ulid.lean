import Mathlib.Data.List.Nodup
import Mathlib.Data.String.Basic
import RequestBinding.Request.Http
import RequestBinding.Request.Ulid
import RequestBinding.Text.LetterCase

/-!
# Written request ids

An id is read from its written form, whatever the case of the letters and whatever blanks stand around
it.

1. `digit?_of_alphabet`: a character stands for its place in the alphabet, in either letter case.
2. `readFrom_digits`: the characters of a number are read as the number, five bits at a time.
3. `Ulid.Written` is that a value is the written form of an id, and `read_of_written` reads it.
-/

namespace RequestBinding

namespace Ulid

/-! ## Characters -/

theorem nodup_alphabet : alphabet.Nodup := by decide

theorem toUpper_of_mem_alphabet {c : Char} (h : c ∈ alphabet) : c.toUpper = c := by
  have hall : (alphabet.all fun c => c.toUpper = c) = true := by decide
  simpa using List.all_eq_true.mp hall c h

/-- A character stands for its place in the alphabet, in either letter case. -/
theorem digit?_of_alphabet {n : ℕ} {c : Char} (h : alphabet[n]? = some c.toUpper) :
    digit? c = some n := by
  obtain ⟨hn, hc⟩ := List.getElem?_eq_some_iff.mp h
  unfold digit?
  rw [List.findIdx?_eq_some_iff_getElem]
  refine ⟨hn, by simpa using hc, fun j hj => ?_⟩
  have hne : alphabet[j] ≠ alphabet[n] := by
    intro heq
    have := nodup_alphabet.getElem_inj_iff.mp heq
    omega
  simpa [← hc] using hne

/-- The character of five bits. -/
theorem exists_character (bits : ℕ) : ∃ c ∈ alphabet,
    (alphabet[bits % 32]?).getD '0' = c ∧ digit? c = some (bits % 32) := by
  have hlt : bits % 32 < alphabet.length := Nat.mod_lt bits (by decide)
  have hget : alphabet[bits % 32]? = some alphabet[bits % 32] := List.getElem?_eq_getElem hlt
  have hmem : alphabet[bits % 32] ∈ alphabet := List.getElem_mem hlt
  refine ⟨_, hmem, by rw [hget, Option.getD_some], digit?_of_alphabet ?_⟩
  rw [hget, toUpper_of_mem_alphabet hmem]

theorem eq_toUpper_or_toLower (c : Char) : c = c.toUpper ∨ c = c.toUpper.toLower :=
  forall_of_ascii (by decide) (fun _ _ hupper => .inl hupper.symm) c

/-- Whether a character is one octet and no blank. -/
def isPlain (c : Char) : Bool := c.utf8Size = 1 && !isBlank c

theorem isPlain_of_toUpper_mem {c : Char} (h : c.toUpper ∈ alphabet) : isPlain c = true := by
  have hall : (alphabet.all fun d => isPlain d && isPlain d.toLower) = true := by decide
  have hboth := List.all_eq_true.mp hall c.toUpper h
  rw [Bool.and_eq_true] at hboth
  obtain hc | hc := eq_toUpper_or_toLower c
  · rw [hc]
    exact hboth.1
  · rw [hc]
    exact hboth.2

/-! ## Digits -/

theorem length_digits (k : ℕ) : ∀ (bits : ℕ) (cs : List Char),
    (digits bits k cs).length = k + cs.length := by
  induction k with
  | zero =>
    intro bits cs
    exact (Nat.zero_add _).symm
  | succ k ih =>
    intro bits cs
    rw [digits, ih, List.length_cons]
    omega

theorem mem_alphabet_of_mem_digits (k : ℕ) : ∀ (bits : ℕ) (cs : List Char),
    (∀ c ∈ cs, c ∈ alphabet) → ∀ c ∈ digits bits k cs, c ∈ alphabet := by
  induction k with
  | zero =>
    intro bits cs hcs
    exact hcs
  | succ k ih =>
    intro bits cs hcs
    obtain ⟨d, hd, hchar, -⟩ := exists_character bits
    rw [digits, hchar]
    exact ih (bits / 32) (d :: cs) (List.forall_mem_cons.mpr ⟨hd, hcs⟩)

theorem readFrom_cons_of_digit {c : Char} {d : ℕ} (h : digit? c = some d) (n : ℕ) (cs : List Char) :
    readFrom n (c :: cs) = readFrom (push n d) cs := by
  rw [readFrom, h]

/-- The last characters of a number are read as its low bits, and reading goes on behind them. -/
theorem readFrom_digits (k : ℕ) : ∀ (bits : ℕ) (cs : List Char),
    readFrom 0 (digits bits k cs) = readFrom (bits % 32 ^ k % twoTo 128) cs := by
  induction k with
  | zero =>
    intro bits cs
    rw [digits, pow_zero, Nat.mod_one, Nat.zero_mod]
  | succ k ih =>
    intro bits cs
    obtain ⟨d, -, hchar, hdigit⟩ := exists_character bits
    have hlow : bits % 32 ^ (k + 1) = bits / 32 % 32 ^ k * 32 + bits % 32 := by
      rw [pow_succ', Nat.mod_mul]
      omega
    rw [digits, hchar, ih, readFrom_cons_of_digit hdigit, push, hlow]
    congr 1
    rw [Nat.add_mod, Nat.mod_mul_mod, ← Nat.add_mod]

/-- Letter case does not matter to reading. -/
theorem readFrom_map_toUpper (cs : List Char) : ∀ n : ℕ,
    readFrom n (cs.map Char.toUpper) = readFrom n cs := by
  induction cs with
  | nil =>
    intro n
    rfl
  | cons c cs ih =>
    intro n
    have hupper : c.toUpper.toUpper = c.toUpper :=
      forall_of_ascii (by decide) (fun c _ hupper => congrArg Char.toUpper hupper) c
    have hdigit : digit? c.toUpper = digit? c := by
      unfold digit?
      rw [hupper]
    rw [List.map_cons, readFrom, readFrom, hdigit]
    cases digit? c with
    | none => rfl
    | some d => exact ih (push n d)

/-! ## Written forms -/

theorem utf8Len_of_one {cs : List Char} (h : ∀ c ∈ cs, c.utf8Size = 1) :
    String.utf8Len cs = cs.length := by
  induction cs with
  | nil => rfl
  | cons c cs ih =>
    obtain ⟨hc, hcs⟩ := List.forall_mem_cons.mp h
    rw [String.utf8Len_cons, ih hcs, hc, List.length_cons]

/-- Whether a value is the written form of an id, in any letter case and between any blanks. -/
def Written (u : Ulid) (value : String) : Prop :=
  ∃ front text back, value = front ++ text ++ back ∧ (∀ c ∈ front.toList, isBlank c = true) ∧
    (∀ c ∈ back.toList, isBlank c = true) ∧ Http.sameName text u.text = true

/-- In upper case, a text that differs from a written form in letter case at most is that form. -/
theorem map_toUpper_of_sameName {u : Ulid} {text : String} (h : Http.sameName text u.text = true) :
    text.toList.map Char.toUpper = digits u.bits length [] := by
  have hlower : text.toList.map Char.toLower = u.text.toList.map Char.toLower :=
    String.ofList_injective (of_decide_eq_true h)
  have hcase : ∀ c : Char, c.toLower.toUpper = c.toUpper :=
    forall_of_ascii (by decide) fun c hlower _ => congrArg Char.toUpper hlower
  have hupper := congrArg (List.map Char.toUpper) hlower
  simp only [List.map_map, Function.comp_def, hcase] at hupper
  rw [hupper]
  unfold Ulid.text
  rw [String.toList_ofList]
  conv_rhs => rw [← List.map_id (digits u.bits length [])]
  refine List.map_congr_left fun c hc => toUpper_of_mem_alphabet ?_
  exact mem_alphabet_of_mem_digits length u.bits [] (by simp) c hc

theorem isPlain_of_sameName {u : Ulid} {text : String} (h : Http.sameName text u.text = true) :
    ∀ c ∈ text.toList, c.utf8Size = 1 ∧ isBlank c = false := by
  intro c hc
  have hmem : c.toUpper ∈ text.toList.map Char.toUpper := List.mem_map_of_mem hc
  rw [map_toUpper_of_sameName h] at hmem
  have hplain := isPlain_of_toUpper_mem (mem_alphabet_of_mem_digits length u.bits [] (by simp) _ hmem)
  unfold isPlain at hplain
  simpa using hplain

theorem utf8ByteSize_of_sameName {u : Ulid} {text : String} (h : Http.sameName text u.text = true) :
    text.utf8ByteSize = length := by
  have hlength := congrArg List.length (map_toUpper_of_sameName h)
  rw [List.length_map, length_digits, List.length_nil, Nat.add_zero] at hlength
  have hplain : ∀ c ∈ text.toList, c.utf8Size = 1 := fun c hc => (isPlain_of_sameName h c hc).1
  rw [← String.ofList_toList (s := text), String.utf8ByteSize_ofList, utf8Len_of_one hplain, hlength]

theorem read_of_sameName {u : Ulid} (hu : u.bits < 2 ^ 128) {text : String}
    (h : Http.sameName text u.text = true) : read text = .ok u := by
  have hbits : u.bits % 32 ^ length % twoTo 128 = u.bits := by
    have hlength : u.bits < 32 ^ length := lt_trans hu (by decide)
    have htwo : twoTo 128 = 2 ^ 128 := rfl
    rw [Nat.mod_eq_of_lt hlength, htwo, Nat.mod_eq_of_lt hu]
  unfold read
  rw [if_pos (utf8ByteSize_of_sameName h), ← readFrom_map_toUpper, map_toUpper_of_sameName h,
    readFrom_digits, hbits]
  rfl

/-- An id of 128 bits is read from whatever is its written form. -/
theorem read_of_written {u : Ulid} (hu : u.bits < 2 ^ 128) {value : String} (h : u.Written value) :
    read (trimBlanks value) = .ok u := by
  obtain ⟨front, text, back, rfl, hfront, hback, htext⟩ := h
  have hplain : ∀ c ∈ text.toList, isBlank c = false :=
    fun c hc => (isPlain_of_sameName htext c hc).2
  rw [trimBlanks_of_padded hfront hplain hback]
  exact read_of_sameName hu htext

theorem ofHeader_of_written {u : Ulid} (hu : u.bits < 2 ^ 128) {value : String} (h : u.Written value)
    (fresh : Ulid) : ofHeader fresh (some value) = u := by
  unfold ofHeader
  dsimp only
  rw [read_of_written hu h]

end Ulid
end RequestBinding
