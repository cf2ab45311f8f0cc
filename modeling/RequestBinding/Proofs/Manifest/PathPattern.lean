import Mathlib.Data.List.TakeWhile
import RequestBinding.Manifest.PathPattern

/-!
# Variables of path patterns

The variables of a pattern are the names that stand between braces in it, all of them and in order.

1. `VariableAt` says which name stands between braces at a position of a text.
2. `FoundNames` is a search from the left that goes on behind the closing brace of what it found; the
   variables of a pattern are what it finds (`foundNames_iff`).
3. `FoundNames.exists_positions`: nothing is lost by going on behind a closing brace, since no variable
   begins inside of another one.
4. `pathVariables_are_braced_names` puts them together, also for patterns that are built of literals and
   variables.
-/

namespace RequestBinding

/-! ## Names between braces -/

/-- The characters that names of variables consist of. -/
def IsNameChar (c : Char) : Prop := c ≠ '{' ∧ c ≠ '}' ∧ c ≠ '/'

instance : DecidablePred IsNameChar := fun c =>
  inferInstanceAs (Decidable (c ≠ '{' ∧ c ≠ '}' ∧ c ≠ '/'))

structure IsVariableName (name : List Char) : Prop where
  ne_nil : name ≠ []
  isNameChar : ∀ c ∈ name, IsNameChar c

def braced (name : List Char) : List Char := '{' :: (name ++ ['}'])

/-- Whether a name stands between braces in a text, with the opening one at a position. -/
structure VariableAt (cs : List Char) (i : ℕ) (name : List Char) : Prop where
  isName : IsVariableName name
  stands : braced name <+: cs.drop i

@[simp] theorem length_braced (name : List Char) : (braced name).length = name.length + 2 := by
  rw [braced, List.length_cons, List.length_append, List.length_singleton]

theorem braced_append (name cs : List Char) : braced name ++ cs = '{' :: (name ++ '}' :: cs) := by
  rw [braced, List.cons_append, List.append_assoc, List.singleton_append]

theorem takeWhile_append {name cs : List Char} (hname : ∀ c ∈ name, IsNameChar c)
    (hcs : ∀ c ∈ cs.head?, ¬ IsNameChar c) : (name ++ cs).takeWhile (IsNameChar ·) = name := by
  have hnone : cs.takeWhile (IsNameChar ·) = [] := by
    cases cs with
    | nil => rfl
    | cons c cs => exact List.takeWhile_cons_of_neg (by simpa using hcs c rfl)
  rw [List.takeWhile_append_of_pos (by simpa using hname), hnone, List.append_nil]

/-- The run of name characters at the start of a text is determined. -/
theorem eq_of_append_eq {m n cs ds : List Char} (hm : ∀ c ∈ m, IsNameChar c)
    (hn : ∀ c ∈ n, IsNameChar c) (hcs : ∀ c ∈ cs.head?, ¬ IsNameChar c)
    (hds : ∀ c ∈ ds.head?, ¬ IsNameChar c) (h : m ++ cs = n ++ ds) : m = n ∧ cs = ds := by
  obtain rfl : m = n := by rw [← takeWhile_append hm hcs, h, takeWhile_append hn hds]
  exact ⟨rfl, List.append_cancel_left h⟩

namespace VariableAt

variable {cs ds name name' : List Char} {i j : ℕ}

theorem head?_drop (h : VariableAt cs i name) : (cs.drop i).head? = some '{' := by
  obtain ⟨after, hafter⟩ := h.stands
  rw [← hafter]
  rfl

/-- No two variables begin at one position. -/
theorem unique (h : VariableAt cs i name) (h' : VariableAt cs i name') : name = name' := by
  obtain ⟨after, hafter⟩ := h.stands
  obtain ⟨after', hafter'⟩ := h'.stands
  have heq := hafter.trans hafter'.symm
  rw [braced_append, braced_append] at heq
  refine (eq_of_append_eq h.isName.isNameChar h'.isName.isNameChar ?_ ?_ (List.cons.inj heq).2).1
  · rintro c ⟨⟩
    decide
  · rintro c ⟨⟩
    decide

theorem drop_iff : VariableAt (cs.drop i) j name ↔ VariableAt cs (i + j) name := by
  constructor
  · rintro ⟨hname, hstands⟩
    rw [List.drop_drop] at hstands
    exact ⟨hname, hstands⟩
  · rintro ⟨hname, hstands⟩
    rw [← List.drop_drop] at hstands
    exact ⟨hname, hstands⟩

theorem append_iff : VariableAt (ds ++ cs) (ds.length + j) name ↔ VariableAt cs j name := by
  rw [← drop_iff, List.drop_left]

/-- A variable begins with an opening brace. -/
theorem getElem_of_lt (h : VariableAt (ds ++ cs) i name) (hi : i < ds.length) : ds[i] = '{' := by
  have hhead := h.head?_drop
  rw [List.drop_append_of_le_length (Nat.le_of_lt hi), List.drop_eq_getElem_cons hi] at hhead
  exact Option.some.inj hhead

/-- No variable begins inside of another one. -/
theorem not_inside (h : VariableAt cs i name) (hj : i < j) (hend : j < i + name.length + 2) :
    ¬ VariableAt cs j name' := by
  intro h'
  obtain ⟨after, hafter⟩ := h.stands
  obtain ⟨k, rfl⟩ := Nat.exists_eq_add_of_lt hj
  rw [Nat.add_assoc, ← drop_iff, ← hafter] at h'
  have hk : k < (name ++ ['}']).length := by
    rw [List.length_append, List.length_singleton]
    omega
  have hbrace : (name ++ ['}'])[k] = '{' := h'.getElem_of_lt (Nat.succ_lt_succ hk)
  have hmem := List.getElem_mem hk
  rw [hbrace, List.mem_append, List.mem_singleton] at hmem
  obtain hmem | hmem := hmem
  · exact (h.isName.isNameChar _ hmem).1 rfl
  · cases hmem

/-- The variables of a text are its first one and those behind the closing brace of it. -/
theorem first_or_behind (h : VariableAt cs i name)
    (hfirst : ∀ j < i, ∀ name', ¬ VariableAt cs j name') {k : ℕ} :
    VariableAt cs k name' ↔ (k = i ∧ name' = name) ∨
      ∃ j, i + name.length + 2 + j = k ∧ VariableAt (cs.drop (i + name.length + 2)) j name' := by
  constructor
  · intro hk
    obtain hlt | rfl | hgt := Nat.lt_trichotomy k i
    · exact absurd hk (hfirst k hlt name')
    · exact .inl ⟨rfl, hk.unique h⟩
    · have hbehind : i + name.length + 2 ≤ k := Nat.not_lt.mp fun hlt => h.not_inside hgt hlt hk
      obtain ⟨j, rfl⟩ := Nat.exists_eq_add_of_le hbehind
      exact .inr ⟨j, rfl, drop_iff.mpr hk⟩
  · rintro (⟨rfl, rfl⟩ | ⟨j, rfl, hj⟩)
    · exact h
    · exact drop_iff.mp hj

end VariableAt

/-! ## Searching from the left -/

/-- The names that a search finds which takes the leftmost variable, and goes on behind its closing
brace. -/
inductive FoundNames : List Char → List (List Char) → Prop where
  | done {cs : List Char} (h : ∀ i name, ¬ VariableAt cs i name) : FoundNames cs []
  | next {cs : List Char} {i : ℕ} {name : List Char} {names : List (List Char)}
      (hname : VariableAt cs i name) (hfirst : ∀ j < i, ∀ name', ¬ VariableAt cs j name')
      (hnames : FoundNames (cs.drop (i + name.length + 2)) names) : FoundNames cs (name :: names)

namespace FoundNames

variable {cs ds name : List Char} {names names' : List (List Char)}

theorem unique (h : FoundNames cs names) : ∀ {names'}, FoundNames cs names' → names = names' := by
  induction h with
  | done hnone =>
    intro names' h'
    cases h' with
    | done => rfl
    | next hname => exact absurd hname (hnone _ _)
  | @next cs i name names hname hfirst _ ih =>
    intro names' h'
    cases h' with
    | done hnone => exact absurd hname (hnone _ _)
    | @next _ j name' names' hname' hfirst' hnames' =>
      obtain rfl : i = j := by
        refine Nat.le_antisymm (Nat.not_lt.mp fun hlt => ?_) (Nat.not_lt.mp fun hlt => ?_)
        · exact hfirst j hlt _ hname'
        · exact hfirst' i hlt _ hname
      obtain rfl := hname.unique hname'
      rw [ih hnames']

/-- A part of a text in which no variable begins can be left out. -/
theorem skip (h : FoundNames cs names) (hds : ∀ i < ds.length, ∀ name, ¬ VariableAt (ds ++ cs) i name) :
    FoundNames (ds ++ cs) names := by
  have hlater : ∀ {i name}, VariableAt (ds ++ cs) i name →
      ∃ j, i = ds.length + j ∧ VariableAt cs j name := by
    intro i name hi
    obtain ⟨j, rfl⟩ := Nat.exists_eq_add_of_le (Nat.not_lt.mp fun hlt => hds i hlt name hi)
    exact ⟨j, rfl, VariableAt.append_iff.mp hi⟩
  cases h with
  | done hnone =>
    refine .done fun i name hi => ?_
    obtain ⟨j, -, hj⟩ := hlater hi
    exact hnone j name hj
  | @next _ i name names hname hfirst hnames =>
    refine .next (VariableAt.append_iff.mpr hname) (fun k hk name' hk' => ?_) ?_
    · obtain ⟨j, rfl, hj⟩ := hlater hk'
      exact hfirst j (Nat.lt_of_add_lt_add_left hk) name' hj
    · rwa [Nat.add_assoc, Nat.add_assoc, ← List.drop_drop, List.drop_left, ← Nat.add_assoc]

theorem cons_braced (hname : IsVariableName name) (h : FoundNames cs names) :
    FoundNames (braced name ++ cs) (name :: names) := by
  refine .next ⟨hname, List.prefix_append _ _⟩ (fun j hj => absurd hj (Nat.not_lt_zero j)) ?_
  rwa [Nat.zero_add, ← length_braced, List.drop_left]

/-- What is found, together with its positions, is all there is. -/
theorem exists_positions (h : FoundNames cs names) : ∃ vs : List (ℕ × List Char),
    vs.map Prod.snd = names ∧ (vs.map Prod.fst).Pairwise (· < ·) ∧
      ∀ i name, (i, name) ∈ vs ↔ VariableAt cs i name := by
  induction h with
  | done hnone => exact ⟨[], rfl, .nil, fun i name => by simp [hnone i name]⟩
  | @next cs i name names hname hfirst _ ih =>
    obtain ⟨vs, rfl, hsorted, hmem⟩ := ih
    let behind := i + name.length + 2
    refine ⟨(i, name) :: vs.map (Prod.map (behind + ·) id), ?_, ?_, fun k name' => ?_⟩
    · rw [List.map_cons, List.map_map]
      rfl
    · rw [List.map_cons, List.map_map, List.pairwise_cons]
      refine ⟨fun k hk => ?_, ?_⟩
      · obtain ⟨v, -, rfl⟩ := List.mem_map.mp hk
        show i < i + name.length + 2 + v.1
        omega
      · rw [List.pairwise_map] at hsorted ⊢
        exact hsorted.imp fun hlt => Nat.add_lt_add_left hlt behind
    · rw [List.mem_cons, Prod.mk.injEq, List.mem_map, hname.first_or_behind hfirst]
      refine or_congr_right ⟨?_, ?_⟩
      · rintro ⟨⟨j, _⟩, hv, heq⟩
        obtain ⟨rfl, rfl⟩ := Prod.mk.inj heq
        exact ⟨j, rfl, (hmem _ _).mp hv⟩
      · rintro ⟨j, rfl, hj⟩
        exact ⟨(j, name'), (hmem _ _).mpr hj, rfl⟩

end FoundNames

/-! ## Scanning -/

theorem scanVariables_open (read : Option (List Char)) (cs : List Char) :
    scanVariables read ('{' :: cs) = scanVariables (some []) cs := rfl

theorem scanVariables_slash (read : Option (List Char)) (cs : List Char) :
    scanVariables read ('/' :: cs) = scanVariables none cs := rfl

theorem scanVariables_cons {c : Char} (hc : IsNameChar c) (read : Option (List Char))
    (cs : List Char) : scanVariables read (c :: cs) = scanVariables (read.map (c :: ·)) cs := by
  obtain ⟨hopen, hclose, hslash⟩ := hc
  rw [scanVariables.eq_def]
  dsimp only
  rw [if_neg hopen, if_neg hclose, if_neg hslash]

/-- Outside of a variable, all but opening braces is passed over. -/
theorem scanVariables_none_cons {c : Char} (hc : c ≠ '{') (cs : List Char) :
    scanVariables none (c :: cs) = scanVariables none cs := by
  rw [scanVariables.eq_def]
  dsimp only
  rw [if_neg hc]
  split_ifs <;> rfl

theorem scanVariables_literal {literal : List Char} (h : ∀ c ∈ literal, c ≠ '{') (cs : List Char) :
    scanVariables none (literal ++ cs) = scanVariables none cs := by
  induction literal with
  | nil => rfl
  | cons c literal ih =>
    obtain ⟨hc, hrest⟩ := List.forall_mem_cons.mp h
    rw [List.cons_append, scanVariables_none_cons hc, ih hrest]

/-- Behind an opening brace, name characters are gathered. -/
theorem scanVariables_append {name : List Char} (hname : ∀ c ∈ name, IsNameChar c)
    (cs : List Char) : ∀ read, scanVariables (some read) (name ++ cs) =
      scanVariables (some (name.reverse ++ read)) cs := by
  induction name with
  | nil => exact fun read => rfl
  | cons c name ih =>
    intro read
    obtain ⟨hc, hrest⟩ := List.forall_mem_cons.mp hname
    rw [List.cons_append, scanVariables_cons hc, Option.map_some, ih hrest, List.reverse_cons,
      List.append_assoc, List.singleton_append]

theorem scanVariables_braced {name : List Char} (hname : IsVariableName name) (cs : List Char) :
    scanVariables none (braced name ++ cs) = String.ofList name :: scanVariables none cs := by
  rw [braced_append, scanVariables_open, scanVariables_append hname.isNameChar, List.append_nil]
  cases hreverse : name.reverse with
  | nil => exact absurd (List.reverse_eq_nil_iff.mp hreverse) hname.ne_nil
  | cons d ds =>
    rw [← List.reverse_reverse name, hreverse]
    rfl

/-- The name characters behind an opening brace, if they and what follows them make no variable: there
are none, or no closing brace follows. -/
structure Unclosed (name cs : List Char) : Prop where
  isNameChar : ∀ c ∈ name, IsNameChar c
  ends : ∀ c ∈ cs.head?, ¬ IsNameChar c
  eq_nil : cs.head? = some '}' → name = []

theorem scanVariables_skip {name cs : List Char} (h : Unclosed name cs) :
    scanVariables none ('{' :: name ++ cs) = scanVariables none cs := by
  rw [List.cons_append, scanVariables_open, scanVariables_append h.isNameChar, List.append_nil]
  cases cs with
  | nil => rfl
  | cons c cs =>
    have hc := h.ends c rfl
    by_cases hopen : c = '{'
    · rw [hopen, scanVariables_open, scanVariables_open]
    · by_cases hbrace : c = '}'
      · subst hbrace
        rw [h.eq_nil rfl]
        rfl
      · have hslash : c = '/' := by
          by_contra hslash
          exact hc ⟨hopen, hbrace, hslash⟩
        rw [hslash, scanVariables_slash, scanVariables_slash]

theorem not_variableAt_skip {name cs : List Char} (h : Unclosed name cs) {i : ℕ}
    (hi : i < ('{' :: name).length) (name' : List Char) :
    ¬ VariableAt ('{' :: name ++ cs) i name' := by
  intro hat
  cases i with
  | zero =>
    obtain ⟨after, hafter⟩ := hat.stands
    rw [List.drop_zero, braced_append] at hafter
    obtain ⟨rfl, rfl⟩ := eq_of_append_eq hat.isName.isNameChar h.isNameChar
      (by rintro c ⟨⟩; decide) h.ends (List.cons.inj hafter).2
    exact hat.isName.ne_nil (h.eq_nil rfl)
  | succ i =>
    have hi' : i < name.length := Nat.lt_of_succ_lt_succ hi
    have hbrace : name[i] = '{' := hat.getElem_of_lt hi
    exact (h.isNameChar _ (List.getElem_mem hi')).1 hbrace

/-- The text behind an opening brace begins with a run of name characters. -/
theorem exists_run (cs : List Char) : ∃ name after, cs = name ++ after ∧
    (∀ c ∈ name, IsNameChar c) ∧ ∀ c ∈ after.head?, ¬ IsNameChar c := by
  refine ⟨cs.takeWhile (IsNameChar ·), cs.dropWhile (IsNameChar ·),
    List.takeWhile_append_dropWhile.symm, fun c hc => ?_, fun c hc => ?_⟩
  · have hrun := List.mem_takeWhile_imp hc
    exact of_decide_eq_true hrun
  · have hnot := List.head?_dropWhile_not (IsNameChar ·) cs
    rw [hc] at hnot
    exact of_decide_eq_false hnot

/-- Scanning a text is searching it from the left. -/
theorem exists_foundNames (cs : List Char) :
    ∃ names, FoundNames cs names ∧ scanVariables none cs = names.map String.ofList := by
  match cs with
  | [] =>
    refine ⟨[], .done fun i name h => ?_, rfl⟩
    have hhead := h.head?_drop
    rw [List.drop_nil] at hhead
    cases hhead
  | c :: rest =>
    by_cases hc : c = '{'
    · -- the brace opens a variable if the run behind it is not empty and ends in a closing brace
      subst hc
      obtain ⟨name, after, rfl, hname, hafter⟩ := exists_run rest
      by_cases hvariable : after.head? = some '}' ∧ name ≠ []
      · obtain ⟨hclosed, hne⟩ := hvariable
        obtain ⟨behind, rfl⟩ := List.head?_eq_some_iff.mp hclosed
        obtain ⟨names, hfound, hscan⟩ := exists_foundNames behind
        have hisName : IsVariableName name := ⟨hne, hname⟩
        rw [← braced_append]
        refine ⟨name :: names, hfound.cons_braced hisName, ?_⟩
        rw [scanVariables_braced hisName, hscan, List.map_cons]
      · have hunclosed : Unclosed name after :=
          ⟨hname, hafter, fun hclosed => by_contra fun hne => hvariable ⟨hclosed, hne⟩⟩
        obtain ⟨names, hfound, hscan⟩ := exists_foundNames after
        have hskip := hfound.skip fun i hi name' => not_variableAt_skip hunclosed hi name'
        exact ⟨names, hskip, (scanVariables_skip hunclosed).trans hscan⟩
    · obtain ⟨names, hfound, hscan⟩ := exists_foundNames rest
      have hnone : ∀ i < [c].length, ∀ name, ¬ VariableAt ([c] ++ rest) i name := by
        intro i hi name h
        have hhead := h.getElem_of_lt hi
        rw [List.getElem_singleton] at hhead
        exact hc hhead
      refine ⟨names, hfound.skip hnone, ?_⟩
      rw [scanVariables_none_cons hc, hscan]
termination_by cs.length

/-- What the search from the left finds is what the scanner does. -/
theorem foundNames_iff {pattern : String} {names : List (List Char)} :
    FoundNames pattern.toList names ↔ names.map String.ofList = pathVariables pattern := by
  obtain ⟨names', hfound, hscan⟩ := exists_foundNames pattern.toList
  rw [pathVariables, hscan]
  constructor
  · intro h
    rw [h.unique hfound]
  · intro h
    rwa [(List.map_inj_right fun _ _ => String.ofList_inj.mp).mp h]

/-! ## Patterns by their parts -/

/-- A variable and the literal in front of it. -/
structure PatternPart where
  literal : List Char
  name : List Char
  noBraces : ∀ c ∈ literal, c ≠ '{' ∧ c ≠ '}'
  isName : IsVariableName name

/-- A pattern as literals and variables in turn, with a literal at its end. -/
structure PatternParts where
  parts : List PatternPart
  ending : List Char
  noBraces : ∀ c ∈ ending, c ≠ '{' ∧ c ≠ '}'

namespace PatternParts

def text (p : PatternParts) : String :=
  String.ofList (p.parts.flatMap (fun part => part.literal ++ braced part.name) ++ p.ending)

def names (p : PatternParts) : List String := p.parts.map fun part => String.ofList part.name

theorem pathVariables_text (p : PatternParts) : pathVariables p.text = p.names := by
  obtain ⟨parts, ending, hending⟩ := p
  rw [pathVariables, text, String.toList_ofList, names]
  dsimp only
  induction parts with
  | nil =>
    have hliteral := scanVariables_literal (fun c hc => (hending c hc).1) []
    rwa [List.append_nil] at hliteral
  | cons part parts ih =>
    rw [List.flatMap_cons, List.append_assoc, List.append_assoc,
      scanVariables_literal fun c hc => (part.noBraces c hc).1, scanVariables_braced part.isName, ih,
      List.map_cons]

end PatternParts

/-- The variables of a pattern are exactly the names that stand between braces in it, each occurrence
once and in order of position: what the search from the left finds, and for a pattern of literals and
variables the names of these variables. -/
theorem pathVariables_are_braced_names :
    (∀ pattern, ∃ vs : List (ℕ × List Char),
      vs.map (fun v => String.ofList v.2) = pathVariables pattern ∧
        (vs.map Prod.fst).Pairwise (· < ·) ∧
        ∀ i name, (i, name) ∈ vs ↔ VariableAt pattern.toList i name) ∧
    (∀ pattern names, FoundNames pattern.toList names ↔
      names.map String.ofList = pathVariables pattern) ∧
    ∀ p : PatternParts, pathVariables p.text = p.names := by
  refine ⟨fun pattern => ?_, fun pattern names => foundNames_iff, PatternParts.pathVariables_text⟩
  obtain ⟨names, hfound, hscan⟩ := exists_foundNames pattern.toList
  obtain ⟨vs, hnames, hsorted, hmem⟩ := hfound.exists_positions
  refine ⟨vs, ?_, hsorted, hmem⟩
  rw [pathVariables, hscan, ← hnames, List.map_map]
  rfl

example : scanVariables none
    ['{', '{', 'a', '}', '}', '{', '}', '{', 'b', '/', 'c', '}', '{', 'd', '}'] = ["a", "d"] := rfl

end RequestBinding
