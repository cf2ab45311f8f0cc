/-!
# UTF-8

`decodeUtf8` reads octets into characters, with `none` for each malformed part. A malformed part is
the longest start of a well-formed sequence, or a single octet.
-/

namespace RequestBinding

abbrev Octets := List UInt8

/-- The octets of a text. -/
def encodeUtf8 (text : String) : Octets := text.toUTF8.toList

private def isTail (b : UInt8) : Bool := 0x80 ≤ b && b ≤ 0xbf

/-- The octets that may follow a first octet of a sequence of three. -/
private def isSecondOfThree (a b : UInt8) : Bool :=
  if a = 0xe0 then 0xa0 ≤ b && b ≤ 0xbf
  else if a = 0xed then 0x80 ≤ b && b ≤ 0x9f
  else isTail b

/-- The octets that may follow a first octet of a sequence of four. -/
private def isSecondOfFour (a b : UInt8) : Bool :=
  if a = 0xf0 then 0x90 ≤ b && b ≤ 0xbf
  else if a = 0xf4 then 0x80 ≤ b && b ≤ 0x8f
  else isTail b

private def low6 (b : UInt8) : Nat := b.toNat % 64

def decodeUtf8 : Octets → List (Option Char)
  | [] => []
  | a :: r =>
    if a < 0x80 then some (Char.ofNat a.toNat) :: decodeUtf8 r
    else if 0xc2 ≤ a && a ≤ 0xdf then
      match r with
      | [] => [none]
      | b :: r =>
        if isTail b then some (Char.ofNat (a.toNat % 32 * 64 + low6 b)) :: decodeUtf8 r
        else none :: decodeUtf8 (b :: r)
    else if 0xe0 ≤ a && a ≤ 0xef then
      match r with
      | [] => [none]
      | b :: r =>
        if isSecondOfThree a b then
          match r with
          | [] => [none]
          | c :: r =>
            if isTail c then
              some (Char.ofNat (a.toNat % 16 * 4096 + low6 b * 64 + low6 c)) :: decodeUtf8 r
            else none :: decodeUtf8 (c :: r)
        else none :: decodeUtf8 (b :: r)
    else if 0xf0 ≤ a && a ≤ 0xf4 then
      match r with
      | [] => [none]
      | b :: r =>
        if isSecondOfFour a b then
          match r with
          | [] => [none]
          | c :: r =>
            if isTail c then
              match r with
              | [] => [none]
              | d :: r =>
                if isTail d then
                  some (Char.ofNat (a.toNat % 8 * 262144 + low6 b * 4096 + low6 c * 64 + low6 d)) ::
                    decodeUtf8 r
                else none :: decodeUtf8 (d :: r)
            else none :: decodeUtf8 (c :: r)
        else none :: decodeUtf8 (b :: r)
    else none :: decodeUtf8 r

/-- The text that the octets encode, if they are well formed throughout. -/
def textOfUtf8? (bytes : Octets) : Option String :=
  ((decodeUtf8 bytes).mapM id).map String.ofList

/-- The text of the octets, each malformed part as the replacement character. -/
def textOfUtf8Lossy (bytes : Octets) : String :=
  String.ofList ((decodeUtf8 bytes).map (·.getD '\ufffd'))

/-- Number of octets before the first malformed part. -/
def wellFormedSize (bytes : Octets) : Nat :=
  ((decodeUtf8 bytes).takeWhile Option.isSome).foldl (fun n c => n + (c.elim 0 (·.utf8Size))) 0

/-! ## Reading what was written -/

private theorem toList_loop (bytes : ByteArray) (i : Nat) (read : Octets) :
    ByteArray.toList.loop bytes i read = read.reverse ++ bytes.data.toList.drop i := by
  fun_induction ByteArray.toList.loop bytes i read with
  | case1 i read h ih =>
    have hi : i < bytes.data.toList.length := by simpa using h
    rw [ih, List.drop_eq_getElem_cons hi]
    simp [ByteArray.get!, h]
  | case2 i read h =>
    rw [List.drop_eq_nil_of_le (by simpa using Nat.le_of_not_lt h)]
    simp

/-- A text is written character by character. -/
theorem encodeUtf8_eq (text : String) :
    encodeUtf8 text = text.toList.flatMap String.utf8EncodeChar := by
  have h : text.toByteArray = text.toList.utf8Encode := by
    rw [← String.toByteArray_ofList, String.ofList_toList]
  unfold encodeUtf8
  rw [ByteArray.toList, toList_loop, String.toUTF8_eq_toByteArray, h, List.utf8Encode,
    List.toList_data_toByteArray]
  rfl

private theorem isTail_of_toNat {b : UInt8} (hb : 0x80 ≤ b.toNat ∧ b.toNat ≤ 0xbf) :
    isTail b = true := by
  simpa [isTail, UInt8.le_iff_toNat_le] using hb

private theorem decodeUtf8_one {a : UInt8} (ha : a.toNat < 0x80) (rest : Octets) :
    decodeUtf8 (a :: rest) = some (Char.ofNat a.toNat) :: decodeUtf8 rest := by
  have h : a < 0x80 := UInt8.lt_iff_toNat_lt.mpr ha
  rw [decodeUtf8.eq_def]
  simp only [h, if_true]

private theorem decodeUtf8_two {a b : UInt8} (ha : 0xc2 ≤ a.toNat ∧ a.toNat ≤ 0xdf)
    (hb : 0x80 ≤ b.toNat ∧ b.toNat ≤ 0xbf) (rest : Octets) :
    decodeUtf8 (a :: b :: rest) =
      some (Char.ofNat (a.toNat % 32 * 64 + b.toNat % 64)) :: decodeUtf8 rest := by
  have h₁ : ¬ a < 0x80 := by simp [UInt8.lt_iff_toNat_lt]; omega
  have h₂ : (decide (0xc2 ≤ a) && decide (a ≤ 0xdf)) = true := by
    simpa [UInt8.le_iff_toNat_le] using ha
  rw [decodeUtf8.eq_def]
  dsimp only
  rw [if_neg h₁, if_pos h₂, if_pos (isTail_of_toNat hb)]
  rfl

private theorem decodeUtf8_three {a b c : UInt8} (ha : 0xe0 ≤ a.toNat ∧ a.toNat ≤ 0xef)
    (hb : 0x80 ≤ b.toNat ∧ b.toNat ≤ 0xbf) (hc : 0x80 ≤ c.toNat ∧ c.toNat ≤ 0xbf)
    (hlow : a.toNat = 0xe0 → 0xa0 ≤ b.toNat) (hhigh : a.toNat = 0xed → b.toNat ≤ 0x9f)
    (rest : Octets) :
    decodeUtf8 (a :: b :: c :: rest) =
      some (Char.ofNat (a.toNat % 16 * 4096 + b.toNat % 64 * 64 + c.toNat % 64)) ::
        decodeUtf8 rest := by
  have h₁ : ¬ a < 0x80 := by simp [UInt8.lt_iff_toNat_lt]; omega
  have h₂ : (decide (0xc2 ≤ a) && decide (a ≤ 0xdf)) = false := by
    simp [UInt8.le_iff_toNat_le]; omega
  have h₃ : (decide (0xe0 ≤ a) && decide (a ≤ 0xef)) = true := by
    simpa [UInt8.le_iff_toNat_le] using ha
  have h₄ : isSecondOfThree a b = true := by
    unfold isSecondOfThree
    split
    · next h => subst h; simpa [UInt8.le_iff_toNat_le] using ⟨hlow rfl, hb.2⟩
    · split
      · next h => subst h; simpa [UInt8.le_iff_toNat_le] using ⟨hb.1, hhigh rfl⟩
      · exact isTail_of_toNat hb
  rw [decodeUtf8.eq_def]
  dsimp only
  rw [if_neg h₁, if_neg (Bool.eq_false_iff.mp h₂), if_pos h₃, if_pos h₄, if_pos (isTail_of_toNat hc)]
  rfl

private theorem decodeUtf8_four {a b c d : UInt8} (ha : 0xf0 ≤ a.toNat ∧ a.toNat ≤ 0xf4)
    (hb : 0x80 ≤ b.toNat ∧ b.toNat ≤ 0xbf) (hc : 0x80 ≤ c.toNat ∧ c.toNat ≤ 0xbf)
    (hd : 0x80 ≤ d.toNat ∧ d.toNat ≤ 0xbf) (hlow : a.toNat = 0xf0 → 0x90 ≤ b.toNat)
    (hhigh : a.toNat = 0xf4 → b.toNat ≤ 0x8f) (rest : Octets) :
    decodeUtf8 (a :: b :: c :: d :: rest) =
      some (Char.ofNat (a.toNat % 8 * 262144 + b.toNat % 64 * 4096 + c.toNat % 64 * 64 +
        d.toNat % 64)) :: decodeUtf8 rest := by
  have h₁ : ¬ a < 0x80 := by simp [UInt8.lt_iff_toNat_lt]; omega
  have h₂ : (decide (0xc2 ≤ a) && decide (a ≤ 0xdf)) = false := by
    simp [UInt8.le_iff_toNat_le]; omega
  have h₃ : (decide (0xe0 ≤ a) && decide (a ≤ 0xef)) = false := by
    simp [UInt8.le_iff_toNat_le]; omega
  have h₄ : (decide (0xf0 ≤ a) && decide (a ≤ 0xf4)) = true := by
    simpa [UInt8.le_iff_toNat_le] using ha
  have h₅ : isSecondOfFour a b = true := by
    unfold isSecondOfFour
    split
    · next h => subst h; simpa [UInt8.le_iff_toNat_le] using ⟨hlow rfl, hb.2⟩
    · split
      · next h => subst h; simpa [UInt8.le_iff_toNat_le] using ⟨hb.1, hhigh rfl⟩
      · exact isTail_of_toNat hb
  rw [decodeUtf8.eq_def]
  dsimp only
  rw [if_neg h₁, if_neg (Bool.eq_false_iff.mp h₂), if_neg (Bool.eq_false_iff.mp h₃), if_pos h₄,
    if_pos h₅, if_pos (isTail_of_toNat hc), if_pos (isTail_of_toNat hd)]
  rfl

/-- What a character was written as reads back. -/
theorem decodeUtf8_encodeChar_append (c : Char) (rest : Octets) :
    decodeUtf8 (String.utf8EncodeChar c ++ rest) = some c :: decodeUtf8 rest := by
  have hvalid : c.val.toNat < 0xd800 ∨ 0xdfff < c.val.toNat ∧ c.val.toNat < 0x110000 := c.valid
  have hc : Char.ofNat c.val.toNat = c := Char.ofNat_toNat c
  have octet : ∀ n < 256, (UInt8.ofNat n).toNat = n := fun n => UInt8.toNat_ofNat_of_lt
  unfold String.utf8EncodeChar
  generalize c.val.toNat = v at *
  -- one case for each number of octets; the numbers in the octets put the code point together again
  dsimp only
  split
  · next h₁ =>
    have h := octet v (by omega)
    rw [List.singleton_append, decodeUtf8_one (by omega), h, hc]
  · split
    · next h₁ h₂ =>
      have ha := octet (v / 64 % 32 + 192) (by omega)
      have hb := octet (v % 64 + 128) (by omega)
      rw [List.cons_append, List.singleton_append, decodeUtf8_two (by omega) (by omega), ha, hb,
        ← hc]
      congr 3
      omega
    · split
      · next h₁ h₂ h₃ =>
        have ha := octet (v / 4096 % 16 + 224) (by omega)
        have hb := octet (v / 64 % 64 + 128) (by omega)
        have hd := octet (v % 64 + 128) (by omega)
        rw [List.cons_append, List.cons_append, List.singleton_append,
          decodeUtf8_three (by omega) (by omega) (by omega) (by omega) (by omega), ha, hb, hd, ← hc]
        congr 3
        omega
      · next h₁ h₂ h₃ =>
        have ha := octet (v / 262144 % 8 + 240) (by omega)
        have hb := octet (v / 4096 % 64 + 128) (by omega)
        have hd := octet (v / 64 % 64 + 128) (by omega)
        have he := octet (v % 64 + 128) (by omega)
        rw [List.cons_append, List.cons_append, List.cons_append, List.singleton_append,
          decodeUtf8_four (by omega) (by omega) (by omega) (by omega) (by omega) (by omega), ha, hb,
          hd, he, ← hc]
        congr 3
        omega

theorem encodeUtf8_append (text other : String) :
    encodeUtf8 (text ++ other) = encodeUtf8 text ++ encodeUtf8 other := by
  simp only [encodeUtf8_eq, String.toList_append, List.flatMap_append]

/-- The octet of a character below 128. -/
def octetOf (c : Char) : UInt8 := .ofNat c.toNat

theorem toNat_octetOf {c : Char} (h : c.toNat < 128) : (octetOf c).toNat = c.toNat :=
  UInt8.toNat_ofNat_of_lt (Nat.lt_trans h (by decide))

theorem octetOf_inj {c d : Char} (hc : c.toNat < 128) (hd : d.toNat < 128) :
    octetOf c = octetOf d ↔ c = d := by
  rw [← UInt8.toNat_inj, toNat_octetOf hc, toNat_octetOf hd, Char.toNat_inj]

/-- Characters below 128 are one octet each. -/
theorem encodeUtf8_ofList {cs : List Char} (h : ∀ c ∈ cs, c.toNat < 128) :
    encodeUtf8 (String.ofList cs) = cs.map octetOf := by
  rw [encodeUtf8_eq, String.toList_ofList]
  induction cs with
  | nil => rfl
  | cons c cs ih =>
    obtain ⟨hc, hcs⟩ := List.forall_mem_cons.mp h
    have hone : String.utf8EncodeChar c = [octetOf c] := by
      unfold String.utf8EncodeChar
      exact if_pos (Nat.le_of_lt_succ hc)
    rw [List.flatMap_cons, hone, ih hcs, List.map_cons, List.singleton_append]

theorem decodeUtf8_encodeUtf8_append (text : String) (rest : Octets) :
    decodeUtf8 (encodeUtf8 text ++ rest) = text.toList.map some ++ decodeUtf8 rest := by
  rw [encodeUtf8_eq]
  induction text.toList with
  | nil => rfl
  | cons c cs ih =>
    rw [List.flatMap_cons, List.append_assoc, decodeUtf8_encodeChar_append, ih, List.map_cons,
      List.cons_append]

private theorem mapM_id_map_some_append (cs : List Char) (rest : List (Option Char)) :
    (cs.map some ++ rest).mapM id = (rest.mapM id).map (cs ++ ·) := by
  induction cs with
  | nil => simp
  | cons c cs ih =>
    rw [List.map_cons, List.cons_append, List.mapM_cons, ih]
    cases rest.mapM id <;> rfl

theorem textOfUtf8?_encodeUtf8_append (text : String) (rest : Octets) :
    textOfUtf8? (encodeUtf8 text ++ rest) = (textOfUtf8? rest).map (text ++ ·) := by
  unfold textOfUtf8?
  rw [decodeUtf8_encodeUtf8_append, mapM_id_map_some_append, Option.map_map, Option.map_map]
  congr 1
  funext cs
  rw [Function.comp_apply, String.ofList_append, String.ofList_toList, Function.comp_apply]

/-- What a text was written as reads back. -/
theorem textOfUtf8?_encodeUtf8 (text : String) : textOfUtf8? (encodeUtf8 text) = some text := by
  have h := textOfUtf8?_encodeUtf8_append text []
  rw [List.append_nil] at h
  rw [h, show textOfUtf8? [] = some "" from rfl, Option.map_some, String.append_empty]

/-- Nothing of what a text was written as is malformed. -/
theorem textOfUtf8Lossy_encodeUtf8 (text : String) : textOfUtf8Lossy (encodeUtf8 text) = text := by
  have h := decodeUtf8_encodeUtf8_append text []
  rw [List.append_nil, show decodeUtf8 [] = [] from rfl, List.append_nil] at h
  unfold textOfUtf8Lossy
  rw [h, List.map_map]
  exact (congrArg String.ofList (List.map_id _)).trans String.ofList_toList

/-- An octet below 128 stands for a character of its own. -/
theorem exists_of_mem_encodeUtf8 {text : String} {b : UInt8} (h : b ∈ encodeUtf8 text)
    (hb : b.toNat < 128) : ∃ c ∈ text.toList, c.toNat = b.toNat := by
  rw [encodeUtf8_eq] at h
  obtain ⟨c, hc, h⟩ := List.mem_flatMap.mp h
  refine ⟨c, hc, ?_⟩
  have octet : ∀ n < 256, (UInt8.ofNat n).toNat = n := fun n => UInt8.toNat_ofNat_of_lt
  have hvalid : c.val.toNat < 0xd800 ∨ 0xdfff < c.val.toNat ∧ c.val.toNat < 0x110000 := c.valid
  unfold String.utf8EncodeChar at h
  change c.val.toNat = b.toNat
  generalize c.val.toNat = v at *
  dsimp only at h
  -- all octets of a longer sequence are at least 128
  have hlong : ∀ n, 128 ≤ n → n < 256 → b ≠ UInt8.ofNat n := by
    rintro n hn hlt rfl
    rw [octet n hlt] at hb
    omega
  split at h
  · rw [List.mem_singleton.mp h, octet v (by omega)]
  · exfalso
    split at h
    · simp only [List.mem_cons, List.not_mem_nil, or_false] at h
      rcases h with h | h <;> exact hlong _ (by omega) (by omega) h
    · split at h
      · simp only [List.mem_cons, List.not_mem_nil, or_false] at h
        rcases h with h | h | h <;> exact hlong _ (by omega) (by omega) h
      · simp only [List.mem_cons, List.not_mem_nil, or_false] at h
        rcases h with h | h | h | h <;> exact hlong _ (by omega) (by omega) h

/-! ## Order -/

theorem ofNat_cons_lt_iff {m n : Nat} (hm : m < 256) (hn : n < 256) {front back : Octets} :
    UInt8.ofNat m :: front < UInt8.ofNat n :: back ↔ m < n ∨ m = n ∧ front < back := by
  have hm : (UInt8.ofNat m).toNat = m := UInt8.toNat_ofNat_of_lt hm
  have hn : (UInt8.ofNat n).toNat = n := UInt8.toNat_ofNat_of_lt hn
  rw [List.cons_lt_cons_iff, UInt8.lt_iff_toNat_lt, ← UInt8.toNat_inj, hm, hn]

/-- Characters are written in their order, whatever follows them. -/
theorem encodeChar_append_lt {c d : Char} (h : c < d) (front back : Octets) :
    String.utf8EncodeChar c ++ front < String.utf8EncodeChar d ++ back := by
  have hlt : c.val.toNat < d.val.toNat := h
  have hd : d.val.toNat < 0x110000 := by
    have hvalid : d.val.toNat < 0xd800 ∨ 0xdfff < d.val.toNat ∧ d.val.toNat < 0x110000 := d.valid
    omega
  unfold String.utf8EncodeChar
  generalize c.val.toNat = v at *
  generalize d.val.toNat = w at *
  have hdigits : ∀ n : Nat, n / 4096 = n / 64 / 64 ∧ n / 262144 = n / 64 / 64 / 64 := by omega
  dsimp only
  rw [(hdigits v).1, (hdigits v).2, (hdigits w).1, (hdigits w).2]
  -- the first octets tell numbers of octets apart, and one octet after the other tells code points apart
  repeat' split
  all_goals
    simp (disch := omega) only [List.cons_append, List.nil_append, ofNat_cons_lt_iff]
    omega

theorem encodeChar_ne_nil (c : Char) : String.utf8EncodeChar c ≠ [] := by
  intro h
  have hlength := String.length_utf8EncodeChar c
  have hpos := Char.utf8Size_pos c
  rw [h, List.length_nil] at hlength
  omega

theorem flatMap_encodeChar_lt (cs : List Char) : ∀ ds : List Char, cs < ds →
    cs.flatMap String.utf8EncodeChar < ds.flatMap String.utf8EncodeChar := by
  induction cs with
  | nil =>
    intro ds h
    cases ds with
    | nil => exact absurd h (List.lt_irrefl [])
    | cons d ds =>
      rw [List.flatMap_nil, List.flatMap_cons]
      obtain ⟨b, bs, hb⟩ := List.exists_cons_of_ne_nil (encodeChar_ne_nil d)
      rw [hb]
      exact List.nil_lt_cons b _
  | cons c cs ih =>
    intro ds h
    cases ds with
    | nil => exact absurd h (List.not_lt_nil _)
    | cons d ds =>
      rw [List.flatMap_cons, List.flatMap_cons]
      obtain hlt | ⟨rfl, hrest⟩ := List.cons_lt_cons_iff.mp h
      · exact encodeChar_append_lt hlt _ _
      · exact List.append_left_lt (ih ds hrest)

/-- Texts have the order of their octets. -/
theorem encodeUtf8_lt {text other : String} (h : text < other) :
    encodeUtf8 text < encodeUtf8 other := by
  rw [encodeUtf8_eq, encodeUtf8_eq]
  exact flatMap_encodeChar_lt _ _ (String.lt_iff.mp h)

theorem encodeUtf8_le {text other : String} (h : text ≤ other) :
    encodeUtf8 text ≤ encodeUtf8 other := by
  by_cases heq : text = other
  · rw [heq]
    exact List.le_refl _
  · refine List.le_of_lt (encodeUtf8_lt ?_)
    apply Classical.byContradiction
    intro hlt
    exact heq (String.le_antisymm h (String.not_lt.mp hlt))

end RequestBinding
