import Mathlib.Data.List.Induction
import Mathlib.Tactic.Ring
import RequestBinding.Proofs.Request.Ulid
import RequestBinding.Proofs.Traversal

/-!
# Ids that callers send

A header value is taken for an id if it spells out 26 digits between blanks. The 26 digits have 130 bits
and the id has 128, so the first digit keeps its low three bits only.

1. `read_eq_ok_iff`: a text is read iff it spells out digits, and what is read is their number.
2. `text_of_digits`: the id of digits is written with the same digits, but for the first one.
3. `reused_id_keeps_digits`: which values are taken for an id, what that id shows, and which values are
   taken for the same one.
-/

namespace RequestBinding
namespace Ulid

/-! ## Digits -/

/-- The character of a digit. -/
def letter (d : ℕ) : Char := (alphabet[d]?).getD '0'

theorem alphabet_getElem? {d : ℕ} (h : d < 32) : alphabet[d]? = some (letter d) := by
  have hlength : alphabet.length = 32 := by decide
  rw [letter, List.getElem?_eq_getElem (by omega), Option.getD_some]

theorem letter_mem {d : ℕ} (h : d < 32) : letter d ∈ alphabet :=
  List.mem_of_getElem? (alphabet_getElem? h)

theorem letter_inj {d d' : ℕ} (h : d < 32) (h' : d' < 32) : letter d = letter d' ↔ d = d' := by
  constructor
  · intro heq
    have hlength : alphabet.length = 32 := by decide
    have hget : alphabet[d]? = alphabet[d']? := by
      rw [alphabet_getElem? h, alphabet_getElem? h', heq]
    exact (List.getElem?_inj (by omega) nodup_alphabet).mp hget
  · intro heq
    rw [heq]

theorem map_letter_inj {ds ds' : List ℕ} (h : ∀ d ∈ ds, d < 32) (h' : ∀ d ∈ ds', d < 32) :
    ds.map letter = ds'.map letter ↔ ds = ds' := by
  refine ⟨fun heq => ?_, fun heq => heq ▸ rfl⟩
  induction ds generalizing ds' with
  | nil => exact (List.map_eq_nil_iff.mp heq.symm).symm
  | cons d ds ih =>
    cases ds' with
    | nil => cases heq
    | cons d' ds' =>
      obtain ⟨hd, hds⟩ := List.forall_mem_cons.mp h
      obtain ⟨hd', hds'⟩ := List.forall_mem_cons.mp h'
      obtain ⟨hfirst, hrest⟩ := List.cons.inj heq
      rw [(letter_inj hd hd').mp hfirst, ih hds hds' hrest]

/-- The digit of a character, in either letter case. -/
theorem digit?_eq_some_iff {c : Char} {d : ℕ} : digit? c = some d ↔ d < 32 ∧ c.toUpper = letter d := by
  constructor
  · intro h
    unfold digit? at h
    rw [List.findIdx?_eq_some_iff_getElem] at h
    obtain ⟨hd, hc, -⟩ := h
    have hlt : d < 32 := hd
    refine ⟨hlt, ?_⟩
    have hget := alphabet_getElem? hlt
    rw [List.getElem?_eq_getElem hd, Option.some.injEq] at hget
    rw [← hget]
    exact (of_decide_eq_true hc).symm
  · rintro ⟨hd, hc⟩
    exact digit?_of_alphabet (by rw [hc, alphabet_getElem? hd])

/-- Digits are read from the characters that stand for them, and from no others. -/
theorem readFrom_eq_ok_iff {cs : List Char} : ∀ {n m : ℕ},
    readFrom n cs = .ok m ↔
      ∃ ds : List ℕ, (∀ d ∈ ds, d < 32) ∧ cs.map Char.toUpper = ds.map letter ∧ m = ds.foldl push n := by
  induction cs with
  | nil =>
    intro n m
    constructor
    · intro h
      exact ⟨[], by simp, rfl, (Except.ok.inj h).symm⟩
    · rintro ⟨ds, -, htext, rfl⟩
      rw [List.map_eq_nil_iff.mp htext.symm]
      rfl
  | cons c cs ih =>
    intro n m
    constructor
    · intro h
      cases hdigit : digit? c with
      | none =>
        rw [readFrom, hdigit] at h
        cases h
      | some d =>
        rw [readFrom_cons_of_digit hdigit, ih] at h
        obtain ⟨ds, hds, htext, rfl⟩ := h
        obtain ⟨hd, hc⟩ := digit?_eq_some_iff.mp hdigit
        exact ⟨d :: ds, List.forall_mem_cons.mpr ⟨hd, hds⟩, by rw [List.map_cons, hc, htext]; rfl, rfl⟩
    · rintro ⟨ds, hds, htext, rfl⟩
      cases ds with
      | nil => cases htext
      | cons d ds =>
        obtain ⟨hd, hds⟩ := List.forall_mem_cons.mp hds
        obtain ⟨hc, hcs⟩ := List.cons.inj htext
        rw [readFrom_cons_of_digit (digit?_eq_some_iff.mpr ⟨hd, hc⟩), ih]
        exact ⟨ds, hds, hcs, rfl⟩

/-- Whether a text spells out digits, as many as an id has. -/
structure SpellsOut (text : String) (ds : List ℕ) : Prop where
  text : text.toList.map Char.toUpper = ds.map letter
  lt : ∀ d ∈ ds, d < 32
  length : ds.length = length

theorem SpellsOut.utf8ByteSize {text : String} {ds : List ℕ} (htext : text.toList.map Char.toUpper =
    ds.map letter) (hlt : ∀ d ∈ ds, d < 32) : text.utf8ByteSize = ds.length := by
  have hplain : ∀ c ∈ text.toList, c.utf8Size = 1 := by
    intro c hc
    have hmem : c.toUpper ∈ ds.map letter := htext ▸ List.mem_map_of_mem hc
    obtain ⟨d, hd, hletter⟩ := List.mem_map.mp hmem
    have hone := isPlain_of_toUpper_mem (hletter ▸ letter_mem (hlt d hd))
    simp [isPlain] at hone
    exact hone.1
  have hlength := congrArg List.length htext
  rw [List.length_map, List.length_map] at hlength
  rw [← String.ofList_toList (s := text), String.utf8ByteSize_ofList, utf8Len_of_one hplain, hlength]

/-- A text is read iff it spells out digits, and what is read is their number, up to 128 bits. -/
theorem read_eq_ok_iff {text : String} {u : Ulid} :
    read text = .ok u ↔ ∃ ds, SpellsOut text ds ∧ u.bits = ds.foldl push 0 := by
  unfold read
  constructor
  · intro h
    split_ifs at h with hsize
    obtain ⟨n, hn, rfl⟩ := map_eq_ok_iff.mp h
    obtain ⟨ds, hlt, htext, rfl⟩ := readFrom_eq_ok_iff.mp hn
    exact ⟨ds, ⟨htext, hlt, (SpellsOut.utf8ByteSize htext hlt).symm.trans hsize⟩, rfl⟩
  · rintro ⟨ds, hds, hbits⟩
    rw [if_pos ((SpellsOut.utf8ByteSize hds.text hds.lt).trans hds.length),
      readFrom_eq_ok_iff.mpr ⟨ds, hds.lt, hds.text, hbits⟩]
    rfl

/-! ## Written digits -/

/-- The number that digits spell in base 32, without a bound. -/
def number (ds : List ℕ) : ℕ := ds.foldl (fun n d => n * 32 + d) 0

theorem foldl_push (ds : List ℕ) : ∀ n : ℕ,
    ds.foldl push (n % twoTo 128) = ds.foldl (fun n d => n * 32 + d) n % twoTo 128 := by
  induction ds with
  | nil => exact fun n => rfl
  | cons d ds ih =>
    intro n
    rw [List.foldl_cons, List.foldl_cons, ← ih, push]
    congr 1
    rw [Nat.add_mod, Nat.mod_mul_mod, ← Nat.add_mod]

theorem digits_succ (bits k : ℕ) (cs : List Char) :
    digits bits (k + 1) cs = digits (bits / 32) k (letter (bits % 32) :: cs) := rfl

/-- The last character of a number is that of its last digit. -/
theorem digits_push {e : ℕ} (he : e < 32) (m p k : ℕ) (cs : List Char) :
    digits ((m * 32 + e) % (p * 32)) (k + 1) cs = digits (m % p) k (letter e :: cs) := by
  have hlow : (m * 32 + e) % (p * 32) = m % p * 32 + e := by
    rw [Nat.mul_comm p, Nat.mod_mul]
    have hdiv : (m * 32 + e) / 32 = m := by omega
    rw [hdiv]
    omega
  have hrest : (m % p * 32 + e) / 32 = m % p := by omega
  have hlast : (m % p * 32 + e) % 32 = e := by omega
  rw [hlow, digits_succ, hrest, hlast]

/-- The low bits of a number are written with its last digits, and with three bits of the digit before
them. -/
theorem digits_number (d : ℕ) (ds : List ℕ) : (∀ e ∈ ds, e < 32) → ∀ cs : List Char,
    digits (number (d :: ds) % 2 ^ (5 * ds.length + 3)) (ds.length + 1) cs =
      letter (d % 8) :: ds.map letter ++ cs := by
  -- writing takes the digits off the end
  induction ds using List.reverseRecOn with
  | nil =>
    intro _ cs
    have hnumber : number [d] % 2 ^ (5 * ([] : List ℕ).length + 3) = d % 8 := by
      simp [number]
    have hlast : d % 8 % 32 = d % 8 := by omega
    rw [hnumber, digits_succ, hlast]
    rfl
  | append_singleton ds e ih =>
    intro hds cs
    obtain ⟨hinit, he⟩ := List.forall_mem_append.mp hds
    have hnumber : number (d :: (ds ++ [e])) = number (d :: ds) * 32 + e := by
      simp [number]
    have hpow : 2 ^ (5 * (ds ++ [e]).length + 3) = 2 ^ (5 * ds.length + 3) * 32 := by
      rw [List.length_append, List.length_singleton]
      ring
    rw [hnumber, hpow, List.length_append, List.length_singleton, digits_push (by simpa using he),
      ih hinit, List.map_append]
    simp

/-- The id of digits is written with the same digits, of which the first keeps three bits. -/
theorem text_of_digits {d : ℕ} {ds : List ℕ} (hds : ∀ e ∈ ds, e < 32) (hlength : ds.length = 25)
    {u : Ulid} (hu : u.bits = (d :: ds).foldl push 0) :
    u.text.toList = letter (d % 8) :: ds.map letter := by
  have hbits : u.bits = number (d :: ds) % 2 ^ (5 * ds.length + 3) := by
    rw [hu, hlength]
    exact foldl_push (d :: ds) 0
  have htext := digits_number d ds hds []
  rw [← hbits, hlength, List.append_nil] at htext
  rw [Ulid.text, String.toList_ofList]
  exact htext

theorem bits_lt_of_digits {ds : List ℕ} {u : Ulid} (hu : u.bits = ds.foldl push 0) :
    u.bits < 2 ^ 128 := by
  rw [hu, show (0 : ℕ) = 0 % twoTo 128 from rfl, foldl_push]
  exact Nat.mod_lt _ (twoTo_pos 128)

/-- An id of 128 bits is told by its written form. -/
theorem eq_of_text_eq {u v : Ulid} (hu : u.bits < 2 ^ 128) (hv : v.bits < 2 ^ 128)
    (h : u.text = v.text) : u = v := by
  have hsame : ∀ w : Ulid, Http.sameName w.text w.text = true := fun w => Http.sameName_iff.mpr rfl
  have hread := read_of_sameName hu (hsame u)
  rw [h, read_of_sameName hv (hsame v)] at hread
  exact (Except.ok.inj hread).symm

/-! ## Header values -/

variable {value : String} {d : ℕ} {ds : List ℕ}

theorem ofHeader_of_spellsOut (h : SpellsOut (trimBlanks value) ds) (fresh : Ulid) :
    ofHeader fresh (some value) = ⟨ds.foldl push 0⟩ := by
  have hread : read (trimBlanks value) = .ok ⟨ds.foldl push 0⟩ := read_eq_ok_iff.mpr ⟨ds, h, rfl⟩
  unfold ofHeader
  dsimp only
  rw [hread]

theorem ofHeader_of_not_spellsOut (h : ∀ ds, ¬ SpellsOut (trimBlanks value) ds) (fresh : Ulid) :
    ofHeader fresh (some value) = fresh := by
  unfold ofHeader
  dsimp only
  cases hread : read (trimBlanks value) with
  | error fault => rfl
  | ok u =>
    obtain ⟨ds, hds, -⟩ := read_eq_ok_iff.mp hread
    exact absurd hds (h ds)

/-- The id that spelled digits come to is written with them, but for the first one. -/
theorem text_of_spellsOut (h : SpellsOut (trimBlanks value) (d :: ds)) :
    (⟨(d :: ds).foldl push 0⟩ : Ulid).text.toList = letter (d % 8) :: ds.map letter :=
  text_of_digits (List.forall_mem_cons.mp h.lt).2 (Nat.succ.inj h.length) rfl

/-- Two values come to one id iff their digits agree, the first ones in their low three bits. -/
theorem foldl_push_eq_iff {value' : String} {d' : ℕ} {ds' : List ℕ}
    (h : SpellsOut (trimBlanks value) (d :: ds)) (h' : SpellsOut (trimBlanks value') (d' :: ds')) :
    (⟨(d' :: ds').foldl push 0⟩ : Ulid) = ⟨(d :: ds).foldl push 0⟩ ↔ d' % 8 = d % 8 ∧ ds' = ds := by
  have htext := text_of_spellsOut h
  have htext' := text_of_spellsOut h'
  constructor
  · intro heq
    rw [heq, htext] at htext'
    obtain ⟨hfirst, hrest⟩ := List.cons.inj htext'
    refine ⟨((letter_inj (by omega) (by omega)).mp hfirst).symm, ?_⟩
    exact ((map_letter_inj (List.forall_mem_cons.mp h.lt).2 (List.forall_mem_cons.mp h'.lt).2).mp
      hrest).symm
  · rintro ⟨hfirst, rfl⟩
    refine eq_of_text_eq (bits_lt_of_digits rfl) (bits_lt_of_digits rfl) ?_
    rw [← String.toList_inj, htext, htext', hfirst]

/-- A header value that does not spell out an id gives way to the fresh one. One that does is taken for
the id of its digits, of which the first keeps three bits: the id shows the value, without the blanks
around it and in upper case, iff the first digit is below eight, and two values are taken for one id iff
they differ in nothing but the higher bits of the first digit. -/
theorem reused_id_keeps_digits (value : String) :
    ((∀ ds, ¬ SpellsOut (trimBlanks value) ds) → ∀ fresh, ofHeader fresh (some value) = fresh) ∧
    ∀ d ds, SpellsOut (trimBlanks value) (d :: ds) → ∃ u : Ulid,
      (∀ fresh, ofHeader fresh (some value) = u) ∧
      u.text.toList = letter (d % 8) :: ds.map letter ∧
      (u.text.toList = (trimBlanks value).toList.map Char.toUpper ↔ d < 8) ∧
      ∀ value' d' ds', SpellsOut (trimBlanks value') (d' :: ds') →
        ((∀ fresh, ofHeader fresh (some value') = u) ↔ d' % 8 = d % 8 ∧ ds' = ds) := by
  refine ⟨ofHeader_of_not_spellsOut, ?_⟩
  intro d ds h
  have htext := text_of_spellsOut h
  refine ⟨_, ofHeader_of_spellsOut h, htext, ?_, ?_⟩
  · have hd : d < 32 := (List.forall_mem_cons.mp h.lt).1
    rw [htext, h.text, List.map_cons, List.cons.injEq, and_iff_left rfl, letter_inj (by omega) hd]
    omega
  · intro value' d' ds' h'
    rw [← foldl_push_eq_iff h h']
    constructor
    · intro hall
      exact (ofHeader_of_spellsOut h' ⟨0⟩).symm.trans (hall ⟨0⟩)
    · intro heq fresh
      rw [ofHeader_of_spellsOut h', heq]

/-- An id in lower case between blanks, whose first digit has four bits. -/
def wideValue : String := " 9zzzzzzzzzzzzzzzzzzzzzzzz0\t"

def wideDigits : List ℕ := List.replicate 24 31 ++ [0]

theorem spellsOut_wideValue : SpellsOut (trimBlanks wideValue) (9 :: wideDigits) where
  text := by decide
  lt := by decide
  length := rfl

theorem wideValue_loses_bit :
    SpellsOut (trimBlanks wideValue) (9 :: wideDigits) ∧
    ofHeader ⟨7⟩ (some wideValue) = ofHeader ⟨8⟩ (some wideValue) ∧
    (ofHeader ⟨7⟩ (some wideValue)).text = "1ZZZZZZZZZZZZZZZZZZZZZZZZ0" := by
  obtain ⟨-, hspelled⟩ := reused_id_keeps_digits wideValue
  obtain ⟨u, hu, htext, -, -⟩ := hspelled 9 wideDigits spellsOut_wideValue
  refine ⟨spellsOut_wideValue, (hu ⟨7⟩).trans (hu ⟨8⟩).symm, ?_⟩
  rw [hu, ← String.toList_inj, htext]
  decide

/-- Two values that spell out different ids, and are taken for the same one. -/
theorem high_bits_lost :
    read (trimBlanks "80000000000000000000000000") = .ok ⟨0⟩ ∧
    (⟨0⟩ : Ulid).text = "00000000000000000000000000" ∧
    (⟨0⟩ : Ulid).text.toList ≠ (trimBlanks "80000000000000000000000000").toList.map Char.toUpper ∧
    ofHeader ⟨1⟩ (some "80000000000000000000000000") =
      ofHeader ⟨1⟩ (some "00000000000000000000000000") := by
  decide

end Ulid
end RequestBinding
