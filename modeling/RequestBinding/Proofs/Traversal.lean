import Mathlib.Data.List.Basic
import Mathlib.Data.List.Forall2

/-!
# Results and traversals

`Except` opened up: a result goes on or stops at its error. `mapM` succeeds if the function succeeds on
every item, and otherwise fails with the error of the first item on which it fails. Two lists that are
related item by item are followed from either side, and two places of one list are compared.
-/

namespace RequestBinding

variable {α β ε : Type}

@[simp] theorem ok_bind (a : α) (f : α → Except ε β) : (Except.ok a >>= f) = f a := rfl

@[simp] theorem error_bind (e : ε) (f : α → Except ε β) : (Except.error e >>= f) = .error e := rfl

@[simp] theorem map_ok (g : α → β) (a : α) : (Except.ok a : Except ε α).map g = .ok (g a) := rfl

@[simp] theorem map_error (g : α → β) (e : ε) : (Except.error e).map g = .error e := rfl

@[simp] theorem mapError_ok {δ : Type} (g : ε → δ) (a : α) :
    (Except.ok a : Except ε α).mapError g = .ok a := rfl

@[simp] theorem mapError_error {δ : Type} (g : ε → δ) (e : ε) :
    (Except.error e : Except ε α).mapError g = .error (g e) := rfl

theorem bind_eq_ok_iff {x : Except ε α} {f : α → Except ε β} {b : β} :
    (x >>= f) = .ok b ↔ ∃ a, x = .ok a ∧ f a = .ok b := by
  cases x <;> simp

theorem bind_eq_error_iff {x : Except ε α} {f : α → Except ε β} {e : ε} :
    (x >>= f) = .error e ↔ x = .error e ∨ ∃ a, x = .ok a ∧ f a = .error e := by
  cases x <;> simp

theorem map_eq_ok_iff {g : α → β} {x : Except ε α} {b : β} :
    x.map g = .ok b ↔ ∃ a, x = .ok a ∧ g a = b := by
  cases x with
  | error e => simp [Except.map]
  | ok a => simp [Except.map]

theorem map_eq_error_iff {g : α → β} {x : Except ε α} {e : ε} :
    x.map g = .error e ↔ x = .error e := by
  cases x with
  | error e => simp [Except.map]
  | ok a => simp [Except.map]

theorem mapError_eq_ok_iff {δ : Type} {g : ε → δ} {x : Except ε α} {a : α} :
    x.mapError g = .ok a ↔ x = .ok a := by
  cases x with
  | error e => simp
  | ok b => simp

theorem mapError_eq_error_iff {δ : Type} {g : ε → δ} {x : Except ε α} {d : δ} :
    x.mapError g = .error d ↔ ∃ e, x = .error e ∧ g e = d := by
  cases x with
  | error e => simp
  | ok a => simp

theorem toOption_eq_some_iff {x : Except ε α} {a : α} : x.toOption = some a ↔ x = .ok a := by
  cases x with
  | error e => simp [Except.toOption]
  | ok b => simp [Except.toOption]

theorem getElem?_zipIdx_eq_some_iff {xs : List α} {i : ℕ} {q : α × ℕ} :
    xs.zipIdx[i]? = some q ↔ xs[i]? = some q.1 ∧ q.2 = i := by
  rw [List.getElem?_zipIdx, Option.map_eq_some_iff]
  constructor
  · rintro ⟨x, hx, rfl⟩
    exact ⟨hx, Nat.zero_add i⟩
  · rintro ⟨hx, rfl⟩
    exact ⟨q.1, hx, by rw [Nat.zero_add]⟩

theorem mapM_cons_of_ok {f : α → Except ε β} {x : α} {y : β} (h : f x = .ok y) (xs : List α) :
    (x :: xs).mapM f = (xs.mapM f).map (y :: ·) := by
  rw [List.mapM_cons, h]
  cases xs.mapM f <;> rfl

theorem mapM_cons_of_error {f : α → Except ε β} {x : α} {e : ε} (h : f x = .error e)
    (xs : List α) : (x :: xs).mapM f = .error e := by
  rw [List.mapM_cons, h]
  rfl

theorem mapM_eq_ok_iff {f : α → Except ε β} {xs : List α} {ys : List β} :
    xs.mapM f = .ok ys ↔ ys.length = xs.length ∧
      ∀ (i : ℕ) x, xs[i]? = some x → ∃ y, f x = .ok y ∧ ys[i]? = some y := by
  induction xs generalizing ys with
  | nil =>
    rw [List.mapM_nil]
    constructor
    · intro h
      obtain rfl : [] = ys := Except.ok.inj h
      exact ⟨rfl, by simp⟩
    · rintro ⟨h, -⟩
      rw [List.length_eq_zero_iff.mp h]
      rfl
  | cons x xs ih =>
    cases hx : f x with
    | error e =>
      rw [mapM_cons_of_error hx]
      constructor
      · intro h
        cases h
      · rintro ⟨-, h⟩
        obtain ⟨y, hy, -⟩ := h 0 x rfl
        rw [hx] at hy
        cases hy
    | ok y =>
      rw [mapM_cons_of_ok hx, map_eq_ok_iff]
      constructor
      · rintro ⟨zs, hzs, rfl⟩
        obtain ⟨hlen, h⟩ := ih.mp hzs
        refine ⟨by simp [hlen], fun i w hw => ?_⟩
        cases i with
        | zero =>
          obtain rfl : x = w := by simpa using hw
          exact ⟨y, hx, rfl⟩
        | succ i => exact h i w (by simpa using hw)
      · rintro ⟨hlen, h⟩
        obtain ⟨z, hz, hz0⟩ := h 0 x rfl
        obtain rfl : y = z := Except.ok.inj (hx.symm.trans hz)
        cases ys with
        | nil => simp at hlen
        | cons w zs =>
          obtain rfl : w = y := by simpa using hz0
          exact ⟨zs, ih.mpr ⟨by simpa using hlen, fun i u hu => h (i + 1) u (by simpa using hu)⟩, rfl⟩

theorem mapM_eq_error_iff {f : α → Except ε β} {xs : List α} {e : ε} :
    xs.mapM f = .error e ↔ ∃ (i : ℕ) (x : α), xs[i]? = some x ∧ f x = .error e ∧
      ∀ j < i, ∀ y, xs[j]? = some y → ∃ b, f y = .ok b := by
  induction xs with
  | nil =>
    rw [List.mapM_nil]
    constructor
    · intro h
      cases h
    · rintro ⟨i, x, hx, -⟩
      simp at hx
  | cons x xs ih =>
    cases hx : f x with
    | error e' =>
      rw [mapM_cons_of_error hx]
      constructor
      · rintro ⟨⟩
        exact ⟨0, x, rfl, hx, fun j hj => absurd hj (Nat.not_lt_zero j)⟩
      · rintro ⟨i, w, hw, hfw, hbefore⟩
        cases i with
        | zero =>
          obtain rfl : x = w := by simpa using hw
          obtain rfl : e' = e := Except.error.inj (hx.symm.trans hfw)
          rfl
        | succ i =>
          obtain ⟨b, hb⟩ := hbefore 0 (Nat.succ_pos i) x rfl
          rw [hx] at hb
          cases hb
    | ok b =>
      rw [mapM_cons_of_ok hx, map_eq_error_iff, ih]
      constructor
      · rintro ⟨i, w, hw, hfw, hbefore⟩
        refine ⟨i + 1, w, by simpa using hw, hfw, fun j hj y hy => ?_⟩
        cases j with
        | zero =>
          obtain rfl : x = y := by simpa using hy
          exact ⟨b, hx⟩
        | succ j => exact hbefore j (Nat.lt_of_succ_lt_succ hj) y (by simpa using hy)
      · rintro ⟨i, w, hw, hfw, hbefore⟩
        cases i with
        | zero =>
          obtain rfl : x = w := by simpa using hw
          rw [hx] at hfw
          cases hfw
        | succ i =>
          exact ⟨i, w, by simpa using hw, hfw, fun j hj y hy =>
            hbefore (j + 1) (Nat.succ_lt_succ hj) y (by simpa using hy)⟩

/-! ## Lists related item by item -/

variable {R : α → β → Prop} {xs : List α} {ys : List β}

theorem exists_forall₂ (h : ∀ x ∈ xs, ∃ y, R x y) : ∃ ys, List.Forall₂ R xs ys := by
  induction xs with
  | nil => exact ⟨[], .nil⟩
  | cons x xs ih =>
    obtain ⟨hx, hxs⟩ := List.forall_mem_cons.mp h
    obtain ⟨y, hy⟩ := hx
    obtain ⟨ys, hys⟩ := ih hxs
    exact ⟨y :: ys, .cons hy hys⟩

/-- A function that gives the items of a list, one for each, gives the list. -/
theorem mapM_of_forall₂ {f : α → Except ε β} (h : List.Forall₂ (fun x y => f x = .ok y) xs ys) :
    xs.mapM f = .ok ys := by
  induction h with
  | nil => rfl
  | cons hxy _ ih => rw [mapM_cons_of_ok hxy, ih, map_ok]

theorem exists_mem_right_of_forall₂ (h : List.Forall₂ R xs ys) :
    ∀ x ∈ xs, ∃ y ∈ ys, R x y := by
  induction h with
  | nil => simp
  | cons hxy _ ih =>
    refine List.forall_mem_cons.mpr ⟨⟨_, List.mem_cons_self, hxy⟩, fun x hx => ?_⟩
    obtain ⟨y, hy, hR⟩ := ih x hx
    exact ⟨y, List.mem_cons_of_mem _ hy, hR⟩

theorem exists_mem_left_of_forall₂ (h : List.Forall₂ R xs ys) : ∀ y ∈ ys, ∃ x ∈ xs, R x y :=
  exists_mem_right_of_forall₂ h.flip

/-! ## Two places of a list -/

/-- What holds of each item with those after it holds of any two, if it does not matter which is
first. -/
theorem rel_of_pairwise {S : α → α → Prop} (hsymm : ∀ x y, S x y → S y x) (h : xs.Pairwise S)
    {i j : ℕ} {x y : α} (hi : xs[i]? = some x) (hj : xs[j]? = some y) (hij : i ≠ j) : S x y := by
  obtain ⟨hilt, rfl⟩ := List.getElem?_eq_some_iff.mp hi
  obtain ⟨hjlt, rfl⟩ := List.getElem?_eq_some_iff.mp hj
  rw [List.pairwise_iff_getElem] at h
  rcases Nat.lt_or_gt_of_ne hij with hlt | hgt
  · exact h i j hilt hjlt hlt
  · exact hsymm _ _ (h j i hjlt hilt hgt)

/-- What a list has at most once stands at one place. -/
theorem eq_of_countP_le_one {f : α → Bool} (h : xs.countP f ≤ 1) {i j : ℕ} {x y : α}
    (hi : xs[i]? = some x) (hj : xs[j]? = some y) (hx : f x = true) (hy : f y = true) : i = j := by
  induction xs generalizing i j with
  | nil => simp at hi
  | cons first rest ih =>
    rw [List.countP_cons] at h
    have hone : ∀ {k : ℕ} {z : α}, rest[k]? = some z → f z = true → 0 < rest.countP f :=
      fun hk hz => List.countP_pos_iff.mpr ⟨_, List.mem_of_getElem? hk, hz⟩
    cases i with
    | zero =>
      cases j with
      | zero => rfl
      | succ j =>
        obtain rfl : first = x := by simpa using hi
        have hrest := hone (by simpa using hj) hy
        rw [if_pos hx] at h
        omega
    | succ i =>
      cases j with
      | zero =>
        obtain rfl : first = y := by simpa using hj
        have hrest := hone (by simpa using hi) hx
        rw [if_pos hy] at h
        omega
      | succ j =>
        have hij : i = j := ih (by omega) (by simpa using hi) (by simpa using hj)
        rw [hij]

/-- What a list has at one place only is what it finds. -/
theorem find?_eq_some_of_place {f : α → Bool} {i : ℕ} {x : α} (hi : xs[i]? = some x)
    (hx : f x = true) (honly : ∀ j y, xs[j]? = some y → f y = true → j = i) :
    xs.find? f = some x := by
  cases hfind : xs.find? f with
  | none => exact absurd hx (List.find?_eq_none.mp hfind x (List.mem_of_getElem? hi))
  | some y =>
    obtain ⟨j, hj⟩ := List.mem_iff_getElem?.mp (List.mem_of_find?_eq_some hfind)
    obtain rfl : j = i := honly j y hj (List.find?_some hfind)
    exact hj.symm.trans hi

end RequestBinding
