import RequestBinding.Text.Utf8

/-!
# Form data

A query string is a list of pairs between `&`. A plus stands for a space, `%` and two hexadecimal
digits for an octet; the octets are read as UTF-8.
-/

namespace RequestBinding
namespace Form

def hexDigit? (b : UInt8) : Option UInt8 :=
  if 0x30 ≤ b ∧ b ≤ 0x39 then some (b - 0x30)
  else if 0x61 ≤ b ∧ b ≤ 0x66 then some (b - 0x61 + 10)
  else if 0x41 ≤ b ∧ b ≤ 0x46 then some (b - 0x41 + 10)
  else none

/-- Replaces escapes by their octets; a `%` without two digits stands for itself. -/
def unescape : Octets → Octets
  | [] => []
  | 0x25 :: a :: b :: rest =>
    match hexDigit? a, hexDigit? b with
    | some x, some y => (x * 16 + y) :: unescape rest
    | _, _ => 0x25 :: unescape (a :: b :: rest)
  | b :: rest => b :: unescape rest

theorem unescape_cons_of_ne {b : UInt8} (h : b ≠ 0x25) (rest : Octets) :
    unescape (b :: rest) = b :: unescape rest := by
  rw [unescape]
  rintro _ _ _ hb -
  exact h hb

/-- Octets without a `%` are left as they are. -/
theorem unescape_append_of_notMem {bytes : Octets} (h : 0x25 ∉ bytes) (rest : Octets) :
    unescape (bytes ++ rest) = bytes ++ unescape rest := by
  induction bytes with
  | nil => rfl
  | cons b bytes ih =>
    obtain ⟨hb, hbytes⟩ := not_or.mp (mt List.mem_cons.mpr h)
    rw [List.cons_append, unescape_cons_of_ne (Ne.symm hb), ih hbytes, List.cons_append]

theorem unescape_of_notMem {bytes : Octets} (h : 0x25 ∉ bytes) : unescape bytes = bytes := by
  have hself := unescape_append_of_notMem h []
  rwa [unescape, List.append_nil] at hself

/-- The text of one side of a pair. -/
def decode (bytes : Octets) : String :=
  textOfUtf8Lossy (unescape (bytes.map fun b => if b = 0x2b then 0x20 else b))

/-- Cuts at the first octet `sep`, which belongs to neither part. -/
def cut (sep : UInt8) (bytes : Octets) : Octets × Octets :=
  (bytes.takeWhile (· != sep), (bytes.dropWhile (· != sep)).drop 1)

theorem cut_append_sep {sep : UInt8} {front : Octets} (h : sep ∉ front) (back : Octets) :
    cut sep (front ++ sep :: back) = (front, back) := by
  have hfront : ∀ b ∈ front, (b != sep) = true := by
    intro b hb
    rw [bne_iff_ne]
    rintro rfl
    exact h hb
  unfold cut
  rw [List.takeWhile_append_of_pos hfront, List.dropWhile_append_of_pos hfront,
    List.takeWhile_cons_of_neg (by simp), List.dropWhile_cons_of_neg (by simp), List.append_nil]
  rfl

def splitAll (sep : UInt8) : Octets → List Octets
  | [] => [[]]
  | b :: rest =>
    if b = sep then [] :: splitAll sep rest
    else match splitAll sep rest with
      | [] => [[b]]
      | piece :: pieces => (b :: piece) :: pieces

theorem splitAll_eq_splitOn (sep : UInt8) (bytes : Octets) :
    splitAll sep bytes = bytes.splitOn sep := by
  induction bytes with
  | nil => rfl
  | cons b bytes ih =>
    rw [splitAll, ih, List.splitOn_cons_eq_if_modifyHead]
    by_cases hb : b = sep
    · rw [if_pos hb, if_pos (beq_iff_eq.mpr hb)]
    · rw [if_neg hb, if_neg (mt beq_iff_eq.mp hb)]
      cases hpieces : bytes.splitOn sep with
      | nil => exact absurd hpieces (List.splitOn_ne_nil sep bytes)
      | cons piece pieces => rfl

/-- The pairs of a query string; empty pieces are none. -/
def pairs (query : Octets) : List (String × String) :=
  ((splitAll 0x26 query).filter (!·.isEmpty)).map fun piece =>
    let (name, value) := cut 0x3d piece
    (decode name, decode value)

/-- The part of a request target before the first `?`. -/
def pathOf (target : String) : String :=
  String.ofList (target.toList.takeWhile (· ≠ '?'))

/-- The pairs after the first `?` of a request target. -/
def queryOf (target : String) : List (String × String) :=
  pairs (encodeUtf8 (String.ofList ((target.toList.dropWhile (· ≠ '?')).drop 1)))

end Form
end RequestBinding
