import Mathlib.Data.List.TakeWhile
import RequestBinding.Proofs.Request.Lookup
import RequestBinding.Proofs.Traversal
import RequestBinding.Text.LetterCase

/-!
# What a server hands over

A server takes a request apart: header names become lower case, the headers of one name come together,
and the target of a URI is found. None of this matters to lookups.

1. `firstOf?_lowercase` and `firstOf?_groupByName`: a name finds the same header as before.
2. `targetOfUri_of_rooted`: a path with a query is its own target.
3. `ofParts_eq_ok`: valid parts make a request.
-/

namespace RequestBinding

/-! ## Header names -/

theorem lowercase_lowercase (name : String) :
    Http.lowercase (Http.lowercase name) = Http.lowercase name := by
  unfold Http.lowercase
  rw [String.toList_ofList, List.map_map]
  congr 2
  funext c
  exact forall_of_ascii (by decide) (fun c hlower _ => congrArg Char.toLower hlower) c

/-- The pair under its name in lower case. -/
def lowercased {α : Type} (h : String × α) : String × α := (Http.lowercase h.1, h.2)

/-- A header is found under its name in lower case. -/
theorem firstOf?_lowercase (headers : Pairs) (name : String) :
    Location.header.firstOf? (headers.map lowercased) name =
      Location.header.firstOf? headers name := by
  have hkey : ∀ h : String × String, Location.header.key (lowercased h).1 = Location.header.key h.1 :=
    fun h => lowercase_lowercase h.1
  induction headers with
  | nil => rfl
  | cons h headers ih =>
    rw [List.map_cons, Location.firstOf?_cons, Location.firstOf?_cons, hkey, ih]
    rfl

/-! ## Headers of one name -/

theorem findSome?_ite_eq {α β : Type} [DecidableEq α] (a : α) (b : Option β) (xs : List α) :
    (xs.findSome? fun x => if x = a then b else none) = if a ∈ xs then b else none := by
  induction xs with
  | nil => rfl
  | cons x xs ih =>
    rw [List.findSome?_cons, ih]
    by_cases hx : x = a
    · subst hx
      rw [if_pos rfl, if_pos List.mem_cons_self]
      cases b <;> simp
    · rw [if_neg hx]
      simp [Ne.symm hx]

/-- Bringing headers together leaves the first of each name first. -/
theorem find?_groupByName {α : Type} (headers : List (String × α)) (name : String) :
    ((Http.groupByName headers).find? fun h => h.1 = name) = headers.find? fun h => h.1 = name := by
  have hgroup : ∀ n, ((headers.filter (·.1 = n)).find? fun h => h.1 = name) =
      if n = name then headers.find? fun h => h.1 = name else none := by
    intro n
    rw [List.find?_filter]
    split_ifs with hn
    · subst hn
      simp
    · rw [List.find?_eq_none]
      rintro h - hboth
      simp only [decide_eq_true_eq] at hboth
      exact hn (hboth.1.symm.trans hboth.2)
  unfold Http.groupByName
  rw [List.find?_flatMap]
  simp only [hgroup]
  rw [findSome?_ite_eq]
  split_ifs with hmem
  · rfl
  · symm
    rw [List.find?_eq_none]
    intro h hh hname
    rw [List.mem_eraseDups] at hmem
    exact hmem (List.mem_map.mpr ⟨h, hh, of_decide_eq_true hname⟩)

theorem mem_of_mem_groupByName {α : Type} {headers : List (String × α)} {h : String × α}
    (hh : h ∈ Http.groupByName headers) : h ∈ headers := by
  unfold Http.groupByName at hh
  obtain ⟨name, -, hh⟩ := List.mem_flatMap.mp hh
  exact (List.mem_filter.mp hh).1

/-- Where names are in the form under which they are compared, they are compared as they are. -/
theorem firstOf?_eq_find? {l : Location} {pairs : Pairs} (h : ∀ q ∈ pairs, l.key q.1 = q.1)
    (name : String) :
    l.firstOf? pairs name = (pairs.find? fun q => q.1 = l.key name).map Prod.snd := by
  induction pairs with
  | nil => rfl
  | cons q pairs ih =>
    obtain ⟨hq, hpairs⟩ := List.forall_mem_cons.mp h
    rw [Location.firstOf?_cons, hq, ih hpairs, List.find?_cons]
    by_cases hname : q.1 = l.key name
    · rw [if_pos hname, decide_eq_true hname]
      rfl
    · rw [if_neg hname, decide_eq_false hname]

theorem firstOf?_groupByName {l : Location} {pairs : Pairs} (h : ∀ q ∈ pairs, l.key q.1 = q.1)
    (name : String) : l.firstOf? (Http.groupByName pairs) name = l.firstOf? pairs name := by
  have hgrouped : ∀ q ∈ Http.groupByName pairs, l.key q.1 = q.1 :=
    fun q hq => h q (mem_of_mem_groupByName hq)
  rw [firstOf?_eq_find? h, firstOf?_eq_find? hgrouped, find?_groupByName]

/-- Values can be read before headers are brought together. -/
theorem map_groupByName {α β : Type} (f : α → β) (headers : List (String × α)) :
    (Http.groupByName headers).map (fun h => (h.1, f h.2)) =
      Http.groupByName (headers.map fun h => (h.1, f h.2)) := by
  unfold Http.groupByName
  rw [List.map_flatMap, List.map_map]
  congr 1
  funext name
  rw [List.filter_map]
  rfl

/-! ## Targets -/

theorem head?_encodeUtf8_of_rooted {target : String} (h : target.toList.head? = some '/') :
    (encodeUtf8 target).head? = some 0x2f := by
  obtain ⟨rest, hrest⟩ := List.head?_eq_some_iff.mp h
  rw [encodeUtf8_eq, hrest, List.flatMap_cons]
  rfl

/-- Without a fragment, the octets of a target have no octet that would start one. -/
theorem takeWhile_encodeUtf8_of_notMem {target : String} (h : '#' ∉ target.toList) :
    (encodeUtf8 target).takeWhile (· ≠ 0x23) = encodeUtf8 target := by
  rw [List.takeWhile_eq_self_iff]
  intro b hb
  rw [decide_eq_true_eq]
  rintro rfl
  obtain ⟨c, hc, hcode⟩ := exists_of_mem_encodeUtf8 hb (by decide)
  have : c = '#' := Char.toNat_inj.mp hcode
  exact h (this ▸ hc)

theorem pathAndQuery_of_rooted {target t : String} (hroot : target.toList.head? = some '/')
    (hfragment : '#' ∉ target.toList) (h : Http.pathAndQuery (encodeUtf8 target) = .ok t) :
    t = target := by
  have hnonempty : target.isEmpty = false := by
    rw [Bool.eq_false_iff]
    intro hempty
    rw [String.isEmpty_iff.mp hempty] at hroot
    cases hroot
  unfold Http.pathAndQuery at h
  dsimp only at h
  rw [takeWhile_encodeUtf8_of_notMem hfragment, textOfUtf8?_encodeUtf8] at h
  split_ifs at h with hoctets
  dsimp only at h
  rw [if_neg (by simp [hnonempty])] at h
  exact (Except.ok.inj h).symm

/-- A target that starts at the root and has no fragment is taken as it is, if it is taken at all. -/
theorem targetOfUri_of_rooted {target t : String} (hroot : target.toList.head? = some '/')
    (hfragment : '#' ∉ target.toList) (h : Http.targetOfUri target = .ok t) : t = target := by
  have hhead := head?_encodeUtf8_of_rooted hroot
  unfold Http.targetOfUri at h
  dsimp only at h
  split_ifs at h with hlong hempty hstar
  · rw [hstar] at hhead
    exact absurd hhead (by decide)
  · exact pathAndQuery_of_rooted hroot hfragment h

/-! ## Requests -/

/-- Valid parts make a request, with headers in lower case that are brought together by name. -/
theorem ofParts_eq_ok {method uri target : String} {headers : List (String × Octets)}
    (hmethod : Http.isToken method = true) (htarget : Http.targetOfUri uri = .ok target)
    (hheaders : ∀ h ∈ headers, Http.isToken h.1 = true ∧ Http.isHeaderValue h.2 = true) :
    HttpRequest.ofParts method uri headers =
      .ok ⟨method, target, Http.groupByName (headers.map lowercased)⟩ := by
  have hchecked : headers.mapM (fun h => HttpRequest.checkHeader h.1 h.2) =
      .ok (headers.map lowercased) := by
    refine mapM_eq_ok_iff.mpr ⟨List.length_map _, fun i h hi => ?_⟩
    obtain ⟨hname, hvalue⟩ := hheaders h (List.mem_of_getElem? hi)
    refine ⟨lowercased h, ?_, by rw [List.getElem?_map, hi]; rfl⟩
    unfold HttpRequest.checkHeader
    rw [hname, hvalue]
    rfl
  unfold HttpRequest.ofParts
  rw [hmethod, htarget]
  simp only [Bool.not_true, ok_bind, hchecked]
  rfl

end RequestBinding
