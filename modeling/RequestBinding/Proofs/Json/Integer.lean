import Mathlib.Data.List.TakeWhile
import Mathlib.Tactic.IntervalCases
import RequestBinding.Json.Reader
import RequestBinding.Proofs.Decimal.Integer

/-!
# Integers in documents

An integer in a document has no plus sign and no zeros in front. It is read as an integer as far as 64
bits hold it, and as a double otherwise; minus zero is a double too.

1. `absorb_eq`, `absorb_lt`: the digits of an integer are all taken if it has 64 bits, and only then.
2. `JsonInteger` is an integer by the parts of its text.
3. `ofOctets_of_le`, `ofOctets_of_lt`: what the octets of an integer are read as.
-/

namespace RequestBinding

/-! ## Cursors -/

namespace Cursor

@[simp] theorem rest_advance (c : Cursor) : c.advance.rest = c.rest.tail := by
  unfold advance
  split
  · next h => rw [h, List.tail_nil]
  · next h =>
    rw [h, List.tail_cons]
    split_ifs <;> rfl

@[simp] theorem rest_advanceBy (n : ℕ) : ∀ c : Cursor, (c.advanceBy n).rest = c.rest.drop n := by
  induction n with
  | zero => exact fun c => rfl
  | succ n ih =>
    intro c
    rw [advanceBy, ih, rest_advance, ← List.drop_one, List.drop_drop, Nat.add_comm]

/-- Nothing is stepped over where no blank stands. -/
theorem skipGaps_of_head {c : Cursor} (h : ∀ b ∈ c.rest.head?, isGap b = false) : c.skipGaps = c := by
  have hnone : c.rest.takeWhile isGap = [] := by
    cases hrest : c.rest with
    | nil => rfl
    | cons b rest => rw [List.takeWhile_cons_of_neg (by simp [h b (by rw [hrest]; rfl)])]
  rw [skipGaps, hnone]
  rfl

end Cursor

namespace JsonReader

variable {α β : Type}

theorem bind_of_ok {r : JsonReader α} {a : α} {c c' : Cursor} (h : r c = .ok a c')
    (f : α → JsonReader β) : (r >>= f) c = f a c' := by
  show EStateM.bind r f c = _
  rw [EStateM.bind, h]

theorem bind_of_error {r : JsonReader α} {e : JsonError} {c c' : Cursor} (h : r c = .error e c')
    (f : α → JsonReader β) : (r >>= f) c = .error e c' := by
  show EStateM.bind r f c = _
  rw [EStateM.bind, h]

theorem pure_eq (a : α) (c : Cursor) : (pure a : JsonReader α) c = .ok a c := rfl

theorem peek_eq (c : Cursor) : peek c = .ok c.rest.head? c := rfl

theorem skip_eq (c : Cursor) : skip c = .ok () c.advance := rfl

theorem digits_eq (c : Cursor) : digits c =
    .ok ((c.rest.takeWhile isDigit).map fun b => b.toNat - 0x30)
      (c.advanceBy (c.rest.takeWhile isDigit).length) := rfl

theorem peekToken_eq {c : Cursor} (h : ∀ b ∈ c.rest.head?, Cursor.isGap b = false) :
    peekToken c = .ok c.rest.head? c := by
  show EStateM.Result.ok c.skipGaps.rest.head? c.skipGaps = _
  rw [Cursor.skipGaps_of_head h]

/-! ## Integers -/

theorem le_ofDigitChars (n : ℕ) (cs : List Char) : n ≤ Nat.ofDigitChars 10 cs n := by
  rw [Nat.ofDigitChars_eq_ofDigitChars_zero]
  have hscaled := Nat.le_mul_of_pos_left n (Nat.pow_pos (n := cs.length) (show 0 < 10 by decide))
  omega

/-- All digits are taken if they write a size. -/
theorem absorb_eq (cs : List Char) : ∀ {n}, Nat.ofDigitChars 10 cs n ≤ maxSize →
    absorb n (cs.map digitValue) = (Nat.ofDigitChars 10 cs n, cs.length) := by
  induction cs with
  | nil => exact fun _ => rfl
  | cons c cs ih =>
    intro n h
    rw [Nat.ofDigitChars_cons] at h ⊢
    have hfirst : 10 * n + digitValue c ≤ maxSize := (le_ofDigitChars _ cs).trans h
    have hrest : absorb (10 * n + digitValue c) (cs.map digitValue) =
        (Nat.ofDigitChars 10 cs (10 * n + digitValue c), cs.length) := ih h
    rw [List.map_cons, absorb, if_pos hfirst, hrest]
    rfl

/-- Some digits are left if they write more than a size. -/
theorem absorb_lt (cs : List Char) : ∀ {n}, n ≤ maxSize → maxSize < Nat.ofDigitChars 10 cs n →
    (absorb n (cs.map digitValue)).2 < cs.length := by
  induction cs with
  | nil =>
    intro n hn h
    exact absurd hn (Nat.not_le.mpr h)
  | cons c cs ih =>
    intro n hn h
    rw [Nat.ofDigitChars_cons] at h
    rw [List.map_cons, absorb]
    by_cases hfirst : 10 * n + digitValue c ≤ maxSize
    · rw [if_pos hfirst]
      exact Nat.succ_lt_succ (ih hfirst h)
    · rw [if_neg hfirst]
      exact Nat.succ_pos _

theorem lt_of_isDigit {c : Char} (h : c.isDigit = true) : c.toNat < 128 := by
  obtain ⟨-, hhigh⟩ := Char.isDigit_iff_toNat.mp h
  have hnine : '9'.toNat = 57 := rfl
  omega

theorem isDigit_octetOf {c : Char} (h : c.isDigit = true) : isDigit (octetOf c) = true := by
  rw [isDigit, Bool.and_eq_true, decide_eq_true_eq, decide_eq_true_eq, UInt8.le_iff_toNat_le,
    UInt8.le_iff_toNat_le, toNat_octetOf (lt_of_isDigit h)]
  exact Char.isDigit_iff_toNat.mp h

/-- The octets of digits, one for each value. -/
theorem exists_of_isDigit {b : UInt8} (h : isDigit b = true) :
    ∃ k < 10, b = UInt8.ofNat (0x30 + k) := by
  rw [isDigit, Bool.and_eq_true, decide_eq_true_eq, decide_eq_true_eq, UInt8.le_iff_toNat_le,
    UInt8.le_iff_toNat_le] at h
  obtain ⟨hlow, hhigh⟩ := h
  have hzero : (0x30 : UInt8).toNat = 48 := rfl
  have hnine : (0x39 : UInt8).toNat = 57 := rfl
  refine ⟨b.toNat - 0x30, by omega, ?_⟩
  rw [show 0x30 + (b.toNat - 0x30) = b.toNat by omega, UInt8.ofNat_toNat]

theorem takeWhile_isDigit {ds : List Char} (hds : IsDigits ds) :
    (ds.map octetOf).takeWhile isDigit = ds.map octetOf := by
  refine List.takeWhile_eq_self_iff.mpr fun b hb => ?_
  obtain ⟨c, hc, rfl⟩ := List.mem_map.mp hb
  exact isDigit_octetOf (hds c hc)

/-- A text of digits to its end is read as their values. -/
theorem digits_of_rest {ds : List Char} (hds : IsDigits ds) {c : Cursor}
    (hrest : c.rest = ds.map octetOf) :
    ∃ c', c'.rest = [] ∧ digits c = .ok (ds.map digitValue) c' := by
  refine ⟨c.advanceBy ds.length, ?_, ?_⟩
  · rw [Cursor.rest_advanceBy, hrest, List.drop_eq_nil_iff, List.length_map]
  · rw [digits_eq, hrest, takeWhile_isDigit hds, List.length_map, List.map_map]
    congr 1
    refine List.map_congr_left fun d hd => ?_
    rw [Function.comp_apply, toNat_octetOf (lt_of_isDigit (hds d hd))]
    rfl

theorem number_of_zero (positive : Bool) {c : Cursor} (hrest : c.rest = ['0'].map octetOf) :
    number positive c = .ok (ofInteger positive 0) c.advance := by
  have hend : c.advance.rest = [] := by
    rw [Cursor.rest_advance, hrest]
    rfl
  unfold number
  rw [bind_of_ok (peek_eq c), hrest]
  show (skip >>= _) c = _
  rw [bind_of_ok (skip_eq c), bind_of_ok (peek_eq c.advance), hend]
  rfl

/-- Digits to the end of a text are read as an integer if all of them are taken. -/
theorem number_of_digits (positive : Bool) {d : Char} {ds : List Char} (hds : IsDigits (d :: ds))
    (hd : d ≠ '0') {c : Cursor} (hrest : c.rest = (d :: ds).map octetOf) {n k : ℕ}
    (habsorb : absorb 0 ((d :: ds).map digitValue) = (n, k)) : ∃ c', c'.rest = [] ∧
      number positive c = if k = (d :: ds).length then .ok (ofInteger positive n) c'
        else finish positive n (((d :: ds).length : ℤ) - k) c' := by
  obtain ⟨c', hend, hdigits⟩ := digits_of_rest hds hrest
  have hdigit := hds d List.mem_cons_self
  have hfirst : octetOf d ≠ 0x30 := fun h =>
    hd ((octetOf_inj (lt_of_isDigit hdigit) (by decide)).mp h)
  refine ⟨c', hend, ?_⟩
  unfold number
  rw [bind_of_ok (peek_eq c), hrest, List.map_cons, List.head?_cons]
  dsimp only
  rw [isDigit_octetOf hdigit, if_neg (by decide), if_neg hfirst, bind_of_ok hdigits, habsorb]
  dsimp only
  rw [bind_of_ok (peek_eq c'), hend, List.length_map]
  by_cases hk : k = (d :: ds).length
  · rw [if_pos hk, hk, Int.sub_self]
    rfl
  · rw [if_neg hk]
    have hdropped : ((d :: ds).length : ℤ) - k ≠ 0 := by omega
    show (if ((d :: ds).length : ℤ) - k = 0 then _ else _ : JsonReader JsonNumber) c' = _
    rw [if_neg hdropped]

/-- What is left of too many digits is a double, if it is a number at all. -/
theorem double_of_finish {positive : Bool} {n : ℕ} {e : ℤ} {m : JsonNumber} {c c' : Cursor}
    (h : finish positive n e c = .ok m c') : ∃ x, m = .double x := by
  unfold finish at h
  cases hx : scaled? n e with
  | none =>
    rw [hx] at h
    cases h
  | some x =>
    rw [hx] at h
    obtain ⟨rfl, -⟩ := EStateM.Result.ok.inj h
    exact ⟨_, rfl⟩

end JsonReader

/-- An integer as JSON writes it: without a plus sign, and without zeros in front. -/
structure JsonInteger extends WrittenInteger where
  unsigned : sign ≠ .plus
  plain : digits = ['0'] ∨ digits.head? ≠ some '0'

namespace JsonInteger

open JsonReader

variable (w : JsonInteger)

theorem number_of_le (positive : Bool) (h : w.magnitude ≤ maxSize) {c : Cursor}
    (hrest : c.rest = w.digits.map octetOf) :
    ∃ c', c'.rest = [] ∧ number positive c = .ok (ofInteger positive w.magnitude) c' := by
  obtain ⟨d, ds, hdigits⟩ := List.exists_cons_of_ne_nil w.nonempty
  have habsorb := absorb_eq w.digits h
  rcases w.plain with hzero | hhead
  · rw [hzero] at hrest
    refine ⟨c.advance, ?_, ?_⟩
    · rw [Cursor.rest_advance, hrest]
      rfl
    · rw [number_of_zero positive hrest, WrittenInteger.magnitude, hzero]
      rfl
  · have hds := w.isDigits
    rw [hdigits] at hrest hhead hds habsorb
    obtain ⟨c', hend, hnumber⟩ := number_of_digits positive hds (fun h => hhead (by rw [h]; rfl))
      hrest habsorb
    refine ⟨c', hend, ?_⟩
    rw [hnumber, if_pos rfl, WrittenInteger.magnitude, hdigits]

theorem number_of_lt (positive : Bool) (h : maxSize < w.magnitude) {c c' : Cursor} {m : JsonNumber}
    (hrest : c.rest = w.digits.map octetOf) (hm : number positive c = .ok m c') :
    ∃ x, m = .double x := by
  obtain ⟨d, ds, hdigits⟩ := List.exists_cons_of_ne_nil w.nonempty
  cases habsorb : absorb 0 (w.digits.map digitValue) with | mk n k
  have hk : k < w.digits.length := by
    have hlt := absorb_lt w.digits (Nat.zero_le _) h
    rwa [habsorb] at hlt
  have hhead : d ≠ '0' := by
    rcases w.plain with hzero | hhead
    · rw [WrittenInteger.magnitude, hzero] at h
      exact absurd h (by decide)
    · rintro rfl
      exact hhead (by rw [hdigits]; rfl)
  have hds := w.isDigits
  rw [hdigits] at hrest hds habsorb hk
  obtain ⟨c'', -, hnumber⟩ := number_of_digits positive hds hhead hrest habsorb
  rw [hnumber, if_neg (Nat.ne_of_lt hk)] at hm
  exact double_of_finish hm

/-- The octets of the text of an integer. -/
theorem encodeUtf8_text :
    encodeUtf8 w.text = w.sign.text.map octetOf ++ w.digits.map octetOf := by
  have hsign : ∀ c ∈ w.sign.text, c.toNat < 128 := by
    cases w.sign <;> simp [WrittenSign.text]
  rw [WrittenInteger.text, encodeUtf8_ofList, List.map_append]
  exact List.forall_mem_append.mpr ⟨hsign, fun c hc => lt_of_isDigit (w.isDigits c hc)⟩

/-- A value that begins with a digit is a number. -/
theorem written_of_digit {b : UInt8} (hb : isDigit b = true) (fuel depth : ℕ) {c : Cursor}
    (hrest : c.rest.head? = some b) : written (fuel + 1) depth c =
      (number true >>= fun m => pure (.number m)) c := by
  obtain ⟨k, hk, rfl⟩ := exists_of_isDigit hb
  have hgap : ∀ a ∈ c.rest.head?, Cursor.isGap a = false := by
    intro a ha
    obtain rfl := Option.some.inj (hrest.symm.trans ha)
    interval_cases k <;> rfl
  -- only the first octet is looked at, and for all ten of them the number is read from it
  rw [written, bind_of_ok (peekToken_eq hgap), hrest]
  interval_cases k <;> rfl

/-- An integer is read as the number behind its sign. -/
theorem written_eq (fuel depth : ℕ) {c : Cursor} (hrest : c.rest = encodeUtf8 w.text) :
    ∃ c', c'.rest = w.digits.map octetOf ∧ written (fuel + 1) depth c =
      (number (!w.sign.isMinus) >>= fun m => pure (.number m)) c' := by
  rw [w.encodeUtf8_text] at hrest
  cases hsign : w.sign with
  | plus => exact absurd hsign w.unsigned
  | minus =>
    rw [hsign] at hrest
    have hhead : c.rest.head? = some 0x2d := by rw [hrest]; rfl
    have hgap : ∀ b ∈ c.rest.head?, Cursor.isGap b = false := by
      intro b hb
      obtain rfl : 0x2d = b := Option.some.inj (hhead.symm.trans hb)
      rfl
    refine ⟨c.advance, ?_, ?_⟩
    · rw [Cursor.rest_advance, hrest]
      rfl
    · rw [written, bind_of_ok (peekToken_eq hgap), hhead]
      show (skip >>= _) c = _
      rw [bind_of_ok (skip_eq c)]
      rfl
  | none =>
    rw [hsign] at hrest
    obtain ⟨d, ds, hdigits⟩ := List.exists_cons_of_ne_nil w.nonempty
    have hd := w.isDigits d (by rw [hdigits]; exact List.mem_cons_self)
    refine ⟨c, hrest, written_of_digit (isDigit_octetOf hd) fuel depth ?_⟩
    rw [hrest, hdigits]
    rfl

theorem value_eq (fuel depth : ℕ) {c : Cursor} (hrest : c.rest = encodeUtf8 w.text) :
    ∃ c', c'.rest = w.digits.map octetOf ∧ value (fuel + 1) depth c =
      (number (!w.sign.isMinus) >>= fun m => pure (.number m)) c' := by
  obtain ⟨c', hrest', hwritten⟩ := w.written_eq fuel depth hrest
  refine ⟨c', hrest', ?_⟩
  show EStateM.map Json.canonical (written (fuel + 1) depth) c = _
  rw [EStateM.map, hwritten]
  cases hnumber : number (!w.sign.isMinus) c' with
  | error e c'' => rw [bind_of_error hnumber]
  | ok m c'' =>
    rw [bind_of_ok hnumber]
    rfl

/-- An integer of at most 64 bits is read in full. -/
theorem ofOctets_of_le (h : w.magnitude ≤ maxSize) :
    Json.ofOctets (encodeUtf8 w.text) = .ok (.number (ofInteger (!w.sign.isMinus) w.magnitude)) := by
  obtain ⟨c, hrest, hvalue⟩ := w.value_eq (2 * (encodeUtf8 w.text).length + 3) maxDepth
    (c := .ofOctets (encodeUtf8 w.text)) rfl
  obtain ⟨c', hend, hnumber⟩ := w.number_of_le (!w.sign.isMinus) h hrest
  have hatEnd : atEnd c' = .ok () c' := by
    unfold atEnd
    rw [bind_of_ok (peekToken_eq (by rw [hend]; exact fun b hb => by cases hb)), hend]
    rfl
  rw [bind_of_ok hnumber, pure_eq] at hvalue
  unfold Json.ofOctets run document
  rw [bind_of_ok hvalue, bind_of_ok hatEnd]
  rfl

/-- An integer of more bits is read as a double, if at all. -/
theorem ofOctets_of_lt (h : maxSize < w.magnitude) {v : Json}
    (hv : Json.ofOctets (encodeUtf8 w.text) = .ok v) : ∃ x, v = .number (.double x) := by
  obtain ⟨c, hrest, hvalue⟩ := w.value_eq (2 * (encodeUtf8 w.text).length + 3) maxDepth
    (c := .ofOctets (encodeUtf8 w.text)) rfl
  unfold Json.ofOctets run document at hv
  cases hnumber : number (!w.sign.isMinus) c with
  | error e c' =>
    rw [bind_of_error hnumber] at hvalue
    rw [bind_of_error hvalue] at hv
    cases hv
  | ok m c' =>
    obtain ⟨x, rfl⟩ := w.number_of_lt _ h hrest hnumber
    rw [bind_of_ok hnumber, pure_eq] at hvalue
    rw [bind_of_ok hvalue] at hv
    cases hend : atEnd c' with
    | error e c'' =>
      rw [bind_of_error hend] at hv
      cases hv
    | ok u c'' =>
      rw [bind_of_ok hend] at hv
      obtain rfl := Except.ok.inj hv
      exact ⟨x, rfl⟩

/-! ## Zero -/

theorem magnitude_eq_zero_iff : w.magnitude = 0 ↔ w.digits = ['0'] := by
  constructor
  · intro h
    refine w.plain.resolve_right fun hhead => ?_
    obtain ⟨d, ds, hdigits⟩ := List.exists_cons_of_ne_nil w.nonempty
    have hdigit := w.isDigits d (by rw [hdigits]; exact List.mem_cons_self)
    obtain ⟨hlow, -⟩ := Char.isDigit_iff_toNat.mp hdigit
    have hzero : '0'.toNat ≠ d.toNat := fun heq => by
      rw [hdigits, List.head?_cons, ← Char.toNat_inj.mp heq] at hhead
      exact hhead rfl
    rw [WrittenInteger.magnitude, hdigits, Nat.ofDigitChars_cons] at h
    have hle := le_ofDigitChars (10 * 0 + (d.toNat - '0'.toNat)) ds
    omega
  · intro h
    rw [WrittenInteger.magnitude, h]
    rfl

theorem text_eq_minusZero_iff : w.text = "-0" ↔ w.sign = .minus ∧ w.magnitude = 0 := by
  rw [w.magnitude_eq_zero_iff, WrittenInteger.text, ← String.toList_inj, String.toList_ofList]
  constructor
  · intro h
    cases hsign : w.sign with
    | plus => exact absurd hsign w.unsigned
    | minus =>
      rw [hsign] at h
      exact ⟨rfl, (List.cons.inj h).2⟩
    | none =>
      rw [hsign] at h
      have hminus := w.isDigits '-' (by rw [show w.digits = _ from h]; exact List.mem_cons_self)
      cases hminus
  · rintro ⟨hsign, hdigits⟩
    rw [hsign, hdigits]
    rfl

end JsonInteger

end RequestBinding
