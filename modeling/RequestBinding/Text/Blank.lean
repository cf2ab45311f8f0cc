/-!
# Blank characters

The characters of the Unicode property White_Space, and trimming of texts by it.
-/

namespace RequestBinding

/-- Whether a character is white space. -/
def isBlank (c : Char) : Bool :=
  let n := c.toNat
  (0x9 ≤ n && n ≤ 0xd) || n = 0x20 || n = 0x85 || n = 0xa0 || n = 0x1680 ||
    (0x2000 ≤ n && n ≤ 0x200a) || n = 0x2028 || n = 0x2029 || n = 0x202f || n = 0x205f || n = 0x3000

/-- A text without the blanks at both ends. -/
def trimBlanks (text : String) : String :=
  String.ofList ((text.toList.dropWhile isBlank).reverse.dropWhile isBlank).reverse

/-! ## Trimming -/

theorem dropWhile_append_of_blank {front : List Char} (hfront : ∀ c ∈ front, isBlank c = true)
    {text : List Char} (htext : ∀ c ∈ text, isBlank c = false) {back : List Char}
    (hback : ∀ c ∈ back, isBlank c = true) :
    (front ++ text ++ back).dropWhile isBlank = if text = [] then [] else text ++ back := by
  rw [List.append_assoc, List.dropWhile_append_of_pos hfront]
  cases text with
  | nil =>
    rw [if_pos rfl, List.nil_append, ← List.append_nil back, List.dropWhile_append_of_pos hback,
      List.dropWhile_nil]
  | cons c text =>
    have hc : isBlank c = false := htext c List.mem_cons_self
    rw [if_neg (List.cons_ne_nil c text), List.cons_append,
      List.dropWhile_cons_of_neg (by simp [hc])]

/-- Trimming takes the blanks around a text that has none. -/
theorem trimBlanks_of_padded {front text back : String} (hfront : ∀ c ∈ front.toList, isBlank c = true)
    (htext : ∀ c ∈ text.toList, isBlank c = false) (hback : ∀ c ∈ back.toList, isBlank c = true) :
    trimBlanks (front ++ text ++ back) = text := by
  have hstart := dropWhile_append_of_blank hfront htext hback
  have hback' : ∀ c ∈ back.toList.reverse, isBlank c = true := by simpa using hback
  have htext' : ∀ c ∈ text.toList.reverse, isBlank c = false := by simpa using htext
  have hend := dropWhile_append_of_blank hback' htext' (List.forall_mem_nil (isBlank · = true))
  unfold trimBlanks
  rw [String.toList_append, String.toList_append, hstart]
  by_cases hempty : text.toList = []
  · rw [if_pos hempty]
    exact (String.toList_eq_nil_iff.mp hempty).symm
  · rw [List.append_nil, if_neg (by simpa using hempty), List.append_nil] at hend
    rw [if_neg hempty, List.reverse_append, hend, List.reverse_reverse, String.ofList_toList]

/-- What trimming takes away stands around what it leaves. -/
theorem exists_blanks_around (text : String) : ∃ front back, text = front ++ trimBlanks text ++ back ∧
    (∀ c ∈ front.toList, isBlank c = true) ∧ ∀ c ∈ back.toList, isBlank c = true := by
  let inner := text.toList.dropWhile isBlank
  have hfront : text.toList.takeWhile isBlank ++ inner = text.toList :=
    List.takeWhile_append_dropWhile
  have hback : (inner.reverse.dropWhile isBlank).reverse ++ (inner.reverse.takeWhile isBlank).reverse =
      inner := by
    rw [← List.reverse_append, List.takeWhile_append_dropWhile, List.reverse_reverse]
  refine ⟨String.ofList (text.toList.takeWhile isBlank),
    String.ofList (inner.reverse.takeWhile isBlank).reverse, ?_, fun c hc => ?_, fun c hc => ?_⟩
  · rw [trimBlanks, ← String.ofList_append, ← String.ofList_append, List.append_assoc, hback, hfront,
      String.ofList_toList]
  · rw [String.toList_ofList] at hc
    exact List.all_eq_true.mp List.all_takeWhile c hc
  · rw [String.toList_ofList, List.mem_reverse] at hc
    exact List.all_eq_true.mp List.all_takeWhile c hc

end RequestBinding
