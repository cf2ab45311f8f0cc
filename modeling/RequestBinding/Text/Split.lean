/-!
# Cutting texts

Parts of a text before and after a mark.
-/

namespace RequestBinding

/-- What follows `start` in a text that begins with it. -/
def stripStart? (start text : String) : Option String :=
  if start.toList.isPrefixOf text.toList then some (String.ofList (text.toList.drop start.length))
  else none

theorem stripStart?_eq_some_iff {start text rest : String} :
    stripStart? start text = some rest ↔ text = start ++ rest := by
  unfold stripStart?
  by_cases h : start.toList.isPrefixOf text.toList
  · obtain ⟨tail, htail⟩ := List.isPrefixOf_iff_prefix.mp h
    rw [if_pos h, Option.some.injEq, ← htail, ← String.length_toList, List.drop_left,
      ← String.toList_inj, ← String.toList_inj, String.toList_ofList, String.toList_append, ← htail]
    exact ⟨fun h => h ▸ rfl, List.append_cancel_left⟩
  · rw [if_neg h]
    constructor
    · intro hnone
      cases hnone
    · rintro rfl
      rw [String.toList_append] at h
      exact absurd (List.isPrefixOf_iff_prefix.mpr (List.prefix_append _ _)) h

/-- Cuts at the first `mark`, which belongs to neither part. -/
def cutAt? (mark : Char) (text : String) : Option (String × String) :=
  match text.toList.dropWhile (· ≠ mark) with
  | [] => none
  | _ :: rest => some (String.ofList (text.toList.takeWhile (· ≠ mark)), String.ofList rest)

/-- Where a mark does not stand, every character is another one. -/
theorem decide_ne_of_notMem {mark : Char} {cs : List Char} (h : mark ∉ cs) :
    ∀ c ∈ cs, decide (c ≠ mark) = true := by
  intro c hc
  refine decide_eq_true fun heq => ?_
  subst heq
  exact h hc

/-- A text is cut where the mark stands first. -/
theorem cutAt?_eq_some_iff {mark : Char} {text front back : String} :
    cutAt? mark text = some (front, back) ↔
      text = front ++ String.singleton mark ++ back ∧ mark ∉ front.toList := by
  have hmark : ¬ decide (mark ≠ mark) = true := by simp
  constructor
  · intro h
    unfold cutAt? at h
    have hsplit := List.takeWhile_append_dropWhile (p := fun c => decide (c ≠ mark)) (l := text.toList)
    cases hrest : text.toList.dropWhile (· ≠ mark) with
    | nil =>
      rw [hrest] at h
      cases h
    | cons c rest =>
      rw [hrest] at h hsplit
      obtain ⟨rfl, rfl⟩ := Prod.mk.inj (Option.some.inj h)
      have hc : c = mark := by
        have hhead := List.head?_dropWhile_not (fun c => decide (c ≠ mark)) text.toList
        rw [hrest] at hhead
        simpa using hhead
      subst hc
      refine ⟨?_, ?_⟩
      · rw [← String.toList_inj, String.toList_append, String.toList_append, String.toList_ofList,
          String.toList_ofList, String.toList_singleton, List.append_assoc, List.singleton_append]
        exact hsplit.symm
      · rw [String.toList_ofList]
        intro hmem
        have hall := List.all_eq_true.mp List.all_takeWhile c hmem
        exact of_decide_eq_true hall rfl
  · rintro ⟨rfl, hfront⟩
    unfold cutAt?
    rw [String.toList_append, String.toList_append, String.toList_singleton, List.append_assoc,
      List.singleton_append, List.dropWhile_append_of_pos (decide_ne_of_notMem hfront),
      List.takeWhile_append_of_pos (decide_ne_of_notMem hfront),
      List.dropWhile_cons_of_neg (p := fun c => decide (c ≠ mark)) hmark,
      List.takeWhile_cons_of_neg (p := fun c => decide (c ≠ mark)) hmark]
    dsimp only
    rw [List.append_nil, String.ofList_toList, String.ofList_toList]

/-- The pieces between marks, empty ones included. -/
def splitChars (mark : Char) : List Char → List (List Char)
  | [] => [[]]
  | c :: cs =>
    if c = mark then [] :: splitChars mark cs
    else match splitChars mark cs with
      | [] => [[c]]
      | piece :: pieces => (c :: piece) :: pieces

theorem splitChars_of_notMem {mark : Char} {cs : List Char} (h : mark ∉ cs) :
    splitChars mark cs = [cs] := by
  induction cs with
  | nil => rfl
  | cons c cs ih =>
    obtain ⟨hc, hcs⟩ := not_or.mp (mt List.mem_cons.mpr h)
    rw [splitChars, if_neg (Ne.symm hc), ih hcs]

theorem splitChars_append_mark {mark : Char} {cs : List Char} (h : mark ∉ cs) (rest : List Char) :
    splitChars mark (cs ++ mark :: rest) = cs :: splitChars mark rest := by
  induction cs with
  | nil => rw [List.nil_append, splitChars, if_pos rfl]
  | cons c cs ih =>
    obtain ⟨hc, hcs⟩ := not_or.mp (mt List.mem_cons.mpr h)
    rw [List.cons_append, splitChars, if_neg (Ne.symm hc), ih hcs]

def splitAt (mark : Char) (text : String) : List String :=
  (splitChars mark text.toList).map String.ofList

/-- A text without marks is one piece. -/
theorem splitAt_of_notMem {mark : Char} {text : String} (h : mark ∉ text.toList) :
    splitAt mark text = [text] := by
  unfold splitAt
  rw [splitChars_of_notMem h, List.map_singleton, String.ofList_toList]

/-- The first piece ends at the first mark. -/
theorem splitAt_append_mark {mark : Char} {piece : String} (h : mark ∉ piece.toList)
    (rest : String) : splitAt mark (piece ++ String.singleton mark ++ rest) =
      piece :: splitAt mark rest := by
  unfold splitAt
  rw [String.toList_append, String.toList_append, String.toList_singleton, List.append_assoc,
    List.singleton_append, splitChars_append_mark h, List.map_cons, String.ofList_toList]

end RequestBinding
