import Mathlib.Data.List.Basic
import Mathlib.Data.List.Induction
import RequestBinding.Handler.Response

/-!
# Headers that are set

A response holds its headers in a list, which may begin with several headers of one name. Setting a
header takes all headers of its name away and puts the new one at the end, so that calls act on names
as writes act on the keys of a map.

1. `Http.named` is what a list holds under a name, `Http.without` what it holds under other names, and
   `Http.unset` what it holds under the names of no call.
2. `SetBy` is what calls leave of a response: `SetBy.setHeader` adds one call, and from it
   `setBy_setHeaders` takes all of them.
3. `headers_follow_last_calls`: the last call for a name decides, and headers of other names stay.
-/

namespace RequestBinding

/-! ## Names -/

namespace Http

theorem sameName_congr {a b : String} (h : sameName a b = true) (c : String) :
    sameName c a = sameName c b := by
  unfold sameName
  rw [sameName_iff.mp h]

/-- The headers that have a name, in order. -/
def named (name : String) (headers : Pairs) : Pairs := headers.filter fun h => sameName h.1 name

/-- The headers that do not have a name, in order. -/
def without (name : String) (headers : Pairs) : Pairs := headers.filter fun h => !sameName h.1 name

/-- The headers that have the name of no call, in order. -/
def unset (calls headers : Pairs) : Pairs :=
  headers.filter fun h => calls.all fun c => !sameName h.1 c.1

variable {name other : String}

theorem named_concat_of_sameName (h : sameName other name = true) (headers : Pairs)
    (value : String) :
    named name (headers ++ [(other, value)]) = named name headers ++ [(other, value)] := by
  unfold named
  rw [List.filter_append, List.filter_cons_of_pos (by exact h), List.filter_nil]

theorem named_concat_of_not (h : ¬ sameName other name = true) (headers : Pairs) (value : String) :
    named name (headers ++ [(other, value)]) = named name headers := by
  unfold named
  rw [List.filter_append, List.filter_cons_of_neg (by exact h), List.filter_nil, List.append_nil]

theorem named_without_of_sameName (h : sameName other name = true) (headers : Pairs) :
    named name (without other headers) = [] := by
  unfold named without
  rw [List.filter_filter, List.filter_eq_nil_iff]
  intro q _
  rw [sameName_congr h, Bool.and_not_self]
  exact Bool.false_ne_true

theorem named_without_of_not (h : ¬ sameName other name = true) (headers : Pairs) :
    named name (without other headers) = named name headers := by
  unfold named without
  rw [List.filter_filter]
  refine List.filter_congr fun q _ => ?_
  by_cases hq : sameName q.1 name = true
  · have hother : ¬ sameName q.1 other = true := fun hq' =>
      h (sameName_iff.mpr ((sameName_iff.mp hq').symm.trans (sameName_iff.mp hq)))
    rw [Bool.not_eq_true] at hother
    rw [hq, hother]
    rfl
  · rw [Bool.not_eq_true] at hq
    rw [hq, Bool.false_and]

/-- What a name is taken from does not get it back by a header that has it. -/
theorem without_concat_self (name : String) (headers : Pairs) (value : String) :
    without name (headers ++ [(name, value)]) = without name headers := by
  have hself : ¬ (!sameName name name) = true := by
    rw [sameName_iff.mpr rfl]
    exact Bool.false_ne_true
  unfold without
  rw [List.filter_append, List.filter_cons_of_neg (by exact hself), List.filter_nil,
    List.append_nil]

theorem without_without (name : String) (headers : Pairs) :
    without name (without name headers) = without name headers := by
  unfold without
  simp only [List.filter_filter, Bool.and_self]

/-- One more call takes the headers of its name out. -/
theorem unset_concat (calls headers : Pairs) (c : String × String) :
    unset (calls ++ [c]) headers = without c.1 (unset calls headers) := by
  unfold unset without
  rw [List.filter_filter]
  refine List.filter_congr fun h _ => ?_
  rw [List.all_append, List.all_cons, List.all_nil, Bool.and_true, Bool.and_comm]

theorem without_unset (name : String) (calls headers : Pairs) :
    without name (unset calls headers) = unset calls (without name headers) :=
  List.filter_comm _ _ headers

end Http

/-! ## Calls -/

namespace Response

open Http (named unset)

/-- Sets headers one after the other. -/
def setHeaders (r : Response) (calls : Pairs) : Response :=
  calls.foldl (fun r c => r.setHeader c.1 c.2) r

theorem setHeaders_concat (r : Response) (calls : Pairs) (c : String × String) :
    r.setHeaders (calls ++ [c]) = (r.setHeaders calls).setHeader c.1 c.2 := by
  unfold setHeaders
  rw [List.foldl_append]
  rfl

/-- A name finds the first of the headers that have it. -/
theorem header?_eq_head?_named (r : Response) (name : String) :
    r.header? name = (named name r.headers).head?.map Prod.snd := by
  unfold named
  rw [List.head?_filter]
  rfl

theorem headers_setHeader (r : Response) (name value : String) :
    (r.setHeader name value).headers = Http.without name r.headers ++ [(name, value)] := rfl

/-- What calls leave of a response. Under a name stands what the last call for it set, or else what
stood there. -/
structure SetBy (r : Response) (calls : Pairs) (after : Response) : Prop where
  status : after.status = r.status
  body : after.body = r.body
  entries : ∀ name, named name after.headers =
    (named name calls).getLast?.elim (named name r.headers) fun last => [last]
  others : unset calls after.headers = unset calls r.headers

variable {r after : Response} {calls : Pairs}

theorem SetBy.setHeader (h : SetBy r calls after) (c : String × String) :
    SetBy r (calls ++ [c]) (after.setHeader c.1 c.2) where
  status := h.status
  body := h.body
  entries name := by
    rw [headers_setHeader]
    by_cases hc : Http.sameName c.1 name = true
    · rw [Http.named_concat_of_sameName hc, Http.named_concat_of_sameName hc,
        Http.named_without_of_sameName hc, List.getLast?_concat, Option.elim_some, List.nil_append]
    · rw [Http.named_concat_of_not hc, Http.named_concat_of_not hc, Http.named_without_of_not hc]
      exact h.entries name
  others := by
    calc unset (calls ++ [c]) (after.setHeader c.1 c.2).headers
        = unset calls (Http.without c.1 (after.setHeader c.1 c.2).headers) := by
          rw [Http.unset_concat, Http.without_unset]
      _ = unset calls (Http.without c.1 after.headers) := by
          rw [headers_setHeader, Http.without_concat_self, Http.without_without]
      _ = Http.without c.1 (unset calls r.headers) := by rw [← Http.without_unset, h.others]
      _ = unset (calls ++ [c]) r.headers := (Http.unset_concat calls r.headers c).symm

theorem setBy_setHeaders (r : Response) (calls : Pairs) : SetBy r calls (r.setHeaders calls) := by
  induction calls using List.reverseRecOn with
  | nil => exact ⟨rfl, rfl, fun _ => rfl, rfl⟩
  | append_singleton calls c ih =>
    rw [setHeaders_concat]
    exact ih.setHeader c

/-- A lookup after some calls is answered by the last call for its name, or else by the response. -/
theorem SetBy.header?_eq (h : SetBy r calls after) (name : String) :
    after.header? name =
      ((named name calls).getLast?.or (named name r.headers).head?).map Prod.snd := by
  rw [header?_eq_head?_named, h.entries]
  cases (named name calls).getLast? with
  | none => rw [Option.elim_none, Option.none_or]
  | some last => rw [Option.elim_some, List.head?_singleton, Option.some_or]

/-- Whatever headers a response begins with and whatever is set, a name finds the last header set for
it, or else the first one that the response had. A name that is set has one header, spelled as it was
set last. Headers of other names stay, in order, and so do status and body. -/
theorem headers_follow_last_calls (r : Response) (calls : Pairs) :
    (∀ name, (r.setHeaders calls).header? name =
      ((named name calls).getLast?.or (named name r.headers).head?).map Prod.snd) ∧
    (∀ c ∈ calls, ∃ last, (named c.1 calls).getLast? = some last ∧
      named c.1 (r.setHeaders calls).headers = [last]) ∧
    unset calls (r.setHeaders calls).headers = unset calls r.headers ∧
    (r.setHeaders calls).status = r.status ∧ (r.setHeaders calls).body = r.body := by
  have h := setBy_setHeaders r calls
  refine ⟨h.header?_eq, fun c hc => ?_, h.others, h.status, h.body⟩
  have hmem : c ∈ named c.1 calls := List.mem_filter.mpr ⟨hc, Http.sameName_iff.mpr rfl⟩
  obtain ⟨last, hlast⟩ := Option.ne_none_iff_exists'.mp
    (mt List.getLast?_eq_none_iff.mp (List.ne_nil_of_mem hmem))
  refine ⟨last, hlast, ?_⟩
  rw [h.entries, hlast, Option.elim_some]

/-- A page with one header given twice, which is set twice in other spellings. -/
theorem varied_page_has_one_header :
    let page : Response :=
      { status := 200, headers := [("vary", "a"), ("Date", "x"), ("VARY", "b"), ("date", "y")] }
    let calls : Pairs := [("Vary", "c"), ("Via", "p"), ("vAry", "d")]
    ("Vary", "c") ∈ calls ∧ named "Vary" (page.setHeaders calls).headers = [("vAry", "d")] ∧
      (page.setHeaders calls).header? "VARY" = some "d" ∧
      (page.setHeaders calls).header? "DATE" = some "x" ∧
      unset calls (page.setHeaders calls).headers = [("Date", "x"), ("date", "y")] := by
  intro page calls
  obtain ⟨hheader, hset, hothers, -, -⟩ := headers_follow_last_calls page calls
  have hmem : ("Vary", "c") ∈ calls := List.mem_cons_self
  obtain ⟨last, hlast, hnamed⟩ := hset _ hmem
  obtain rfl : ("vAry", "d") = last := Option.some.inj hlast
  exact ⟨hmem, hnamed, hheader "VARY", hheader "DATE", hothers⟩

end Response
end RequestBinding
