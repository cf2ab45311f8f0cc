/-!
# Maps with text names

A map keeps its entries in ascending order of their names, one entry a name.
-/

namespace RequestBinding

abbrev NameMap (α : Type) := List (String × α)

namespace NameMap

variable {α β : Type}

/-- Puts an entry where its name belongs, in place of one that has the name already. -/
def insert (name : String) (a : α) : NameMap α → NameMap α
  | [] => [(name, a)]
  | (n, b) :: rest =>
    if name < n then (name, a) :: (n, b) :: rest
    else if name = n then (name, a) :: rest
    else (n, b) :: insert name a rest

/-- The map of a list of entries; the last entry of a name counts. -/
def ofList (entries : List (String × α)) : NameMap α :=
  entries.foldl (fun m (n, a) => insert n a m) []

def get? (m : NameMap α) (name : String) : Option α := m.lookup name

def contains (m : NameMap α) (name : String) : Bool := (m.get? name).isSome

def names (m : NameMap α) : List String := m.map Prod.fst

@[simp] theorem get?_nil (name : String) : get? ([] : NameMap α) name = none := rfl

@[simp] theorem get?_insert_self (name : String) (a : α) (m : NameMap α) :
    (insert name a m).get? name = some a := by
  induction m with
  | nil => simp [insert, get?]
  | cons e rest ih =>
    obtain ⟨n, b⟩ := e
    simp only [insert]
    split
    · simp [get?]
    · split
      · simp [get?]
      · next h =>
        simp only [get?] at ih
        simp [get?, List.lookup_cons, beq_eq_false_iff_ne.2 h, ih]

theorem get?_insert_of_ne {name other : String} (h : other ≠ name) (a : α) (m : NameMap α) :
    (insert name a m).get? other = m.get? other := by
  induction m with
  | nil => simp [insert, get?, List.lookup_cons, beq_eq_false_iff_ne.2 h]
  | cons e rest ih =>
    obtain ⟨n, b⟩ := e
    simp only [insert]
    split
    · simp [get?, List.lookup_cons, beq_eq_false_iff_ne.2 h]
    · split
      · next hn => subst hn; simp [get?, List.lookup_cons, beq_eq_false_iff_ne.2 h]
      · simp only [get?, List.lookup_cons] at *; split <;> simp_all

/-! ## Names -/

theorem mem_names_insert {name other : String} {a : α} {m : NameMap α} :
    other ∈ (insert name a m).names ↔ other = name ∨ other ∈ m.names := by
  induction m with
  | nil => simp [insert, names]
  | cons e rest ih =>
    obtain ⟨n, b⟩ := e
    simp only [names] at ih
    simp only [insert]
    split
    · simp [names]
    · split
      · next hn =>
        subst hn
        simp [names]
      · simp only [names, List.map_cons, List.mem_cons, ih]
        exact or_left_comm

theorem mem_names_foldl_insert {name : String} (entries : List (String × α)) (m : NameMap α) :
    name ∈ (entries.foldl (fun m (n, a) => insert n a m) m).names ↔
      name ∈ m.names ∨ name ∈ entries.map Prod.fst := by
  induction entries generalizing m with
  | nil => simp
  | cons e rest ih =>
    rw [List.foldl_cons, ih, mem_names_insert, List.map_cons, List.mem_cons]
    exact or_assoc.trans or_left_comm

/-- A list of entries makes a map with their names and no others. -/
theorem mem_names_ofList {name : String} {entries : List (String × α)} :
    name ∈ (ofList entries).names ↔ name ∈ entries.map Prod.fst := by
  unfold ofList
  rw [mem_names_foldl_insert]
  simp [names]

theorem get?_eq_none_iff {name : String} {m : NameMap α} : m.get? name = none ↔ name ∉ m.names := by
  unfold get? names
  rw [List.lookup_eq_none_iff, List.mem_map]
  simp only [bne_iff_ne, not_exists, not_and]
  exact ⟨fun h e he hname => h e he hname.symm, fun h e he hname => h e he hname.symm⟩

theorem mem_of_get?_foldl_insert {name : String} {a : α} (entries : List (String × α))
    (m : NameMap α) (h : (entries.foldl (fun m (n, b) => insert n b m) m).get? name = some a) :
    m.get? name = some a ∨ (name, a) ∈ entries := by
  induction entries generalizing m with
  | nil => exact .inl h
  | cons e rest ih =>
    obtain ⟨n, b⟩ := e
    obtain hm | hrest := ih (insert n b m) h
    · by_cases hn : name = n
      · subst hn
        rw [get?_insert_self] at hm
        exact .inr (Option.some.inj hm ▸ List.mem_cons_self)
      · rw [get?_insert_of_ne hn] at hm
        exact .inl hm
    · exact .inr (List.mem_cons_of_mem _ hrest)

/-- What a map finds is one of the entries that it was made of. -/
theorem mem_of_get?_ofList {name : String} {a : α} {entries : List (String × α)}
    (h : (ofList entries).get? name = some a) : (name, a) ∈ entries :=
  (mem_of_get?_foldl_insert entries [] h).resolve_left (by simp)

/-! ## Order -/

theorem lt_of_not_lt_of_ne {name other : String} (hlt : ¬ name < other) (hne : name ≠ other) :
    other < name := by
  apply Classical.byContradiction
  intro h
  exact hne (String.le_antisymm (String.not_lt.mp h) (String.not_lt.mp hlt))

theorem names_insert_ascending {m : NameMap α} (h : m.names.Pairwise (· < ·)) (name : String)
    (a : α) : (insert name a m).names.Pairwise (· < ·) := by
  induction m with
  | nil => exact List.pairwise_singleton _ name
  | cons e rest ih =>
    obtain ⟨n, b⟩ := e
    obtain ⟨hfirst, hrest⟩ := List.pairwise_cons.mp h
    simp only [insert]
    split
    · next hlt =>
      refine List.pairwise_cons.mpr ⟨fun other hother => ?_, h⟩
      obtain rfl | hother := List.mem_cons.mp hother
      · exact hlt
      · exact String.lt_trans hlt (hfirst other hother)
    · next hlt =>
      split
      · next heq =>
        subst heq
        exact h
      · next hne =>
        refine List.pairwise_cons.mpr ⟨fun other hother => ?_, ih hrest⟩
        obtain rfl | hother := mem_names_insert.mp hother
        · exact lt_of_not_lt_of_ne hlt hne
        · exact hfirst other hother

theorem names_foldl_insert_ascending (entries : List (String × α)) :
    ∀ {m : NameMap α}, m.names.Pairwise (· < ·) →
      (entries.foldl (fun m (n, a) => insert n a m) m).names.Pairwise (· < ·) := by
  induction entries with
  | nil => exact fun h => h
  | cons e rest ih => exact fun h => ih (names_insert_ascending h e.1 e.2)

/-- The names of a map are in ascending order, each once. -/
theorem names_ofList_ascending (entries : List (String × α)) :
    (ofList entries).names.Pairwise (· < ·) :=
  names_foldl_insert_ascending entries List.Pairwise.nil

end NameMap
end RequestBinding
