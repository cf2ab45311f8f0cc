import Mathlib.Tactic.IntervalCases
import RequestBinding.Proofs.Binding.Arguments

/-!
# Written query strings

A list of pairs can be written as a query string in many ways: octets as they are or escaped, escapes in
either letter case, a space as a plus, empty pieces anywhere. All of them are read as the same pairs.

1. `WrittenOctet`, `WrittenText`, `WrittenPair` and `WrittenQuery` are the ways to write; there is one
   for all pairs (`exists_writtenQuery`).
2. `unescape_of_writtenOctet`: an octet is read from what it was written as, whatever follows.
3. `pairs_of_written`: a query string gives its pairs, the marks in names and values notwithstanding.
4. `query_reads_back`: a request with a written query has these pairs, and a parameter is bound to the
   value of the first pair of its name.
-/

namespace RequestBinding

/-! ## Ways to write -/

/-- Whether a character can stand for its own octet: the unreserved ones, and the asterisk of forms. -/
def isUnreserved (c : Char) : Bool := c.isAlphanum || ['-', '.', '_', '~', '*'].contains c

/-- The hexadecimal digits in lower and in upper case, by value. -/
def hexDigits : List (Char × Char) :=
  [('0', '0'), ('1', '1'), ('2', '2'), ('3', '3'), ('4', '4'), ('5', '5'), ('6', '6'), ('7', '7'),
    ('8', '8'), ('9', '9'), ('a', 'A'), ('b', 'B'), ('c', 'C'), ('d', 'D'), ('e', 'E'), ('f', 'F')]

/-- Whether a character is the digit of a value, in either letter case. -/
def HexDigit (n : ℕ) (c : Char) : Prop := ∃ d, hexDigits[n]? = some d ∧ (c = d.1 ∨ c = d.2)

/-- How an octet is written. -/
inductive WrittenOctet : UInt8 → List Char → Prop
  | plain {c : Char} (hc : isUnreserved c = true) : WrittenOctet (octetOf c) [c]
  | plus : WrittenOctet 0x20 ['+']
  | escape {b : UInt8} {high low : Char} (hhigh : HexDigit (b.toNat / 16) high)
      (hlow : HexDigit (b.toNat % 16) low) : WrittenOctet b ['%', high, low]

/-- How a text is written: octet by octet of its UTF-8. -/
def WrittenText (text : String) (cs : List Char) : Prop :=
  ∃ parts, List.Forall₂ WrittenOctet (encodeUtf8 text) parts ∧ cs = parts.flatten

/-- How a pair is written: its name, the mark and its value. -/
def WrittenPair (pair : String × String) (cs : List Char) : Prop :=
  ∃ name value, WrittenText pair.1 name ∧ WrittenText pair.2 value ∧ cs = name ++ '=' :: value

/-- How pairs are written: as the pieces between `&` that are not empty, in order. -/
def WrittenQuery (pairs : Pairs) (query : String) : Prop :=
  ∃ pieces, List.Forall₂ WrittenPair pairs (pieces.filter (!·.isEmpty)) ∧
    query.toList = ['&'].intercalate pieces

/-! ## Characters of a query -/

theorem HexDigit.lt {n : ℕ} {c : Char} (h : HexDigit n c) : n < 16 := by
  obtain ⟨d, hd, -⟩ := h
  exact (List.getElem?_eq_some_iff.mp hd).1

/-- A digit of either case is read as its value, and is written as it is. -/
theorem HexDigit.spec {n : ℕ} {c : Char} (h : HexDigit n c) :
    Form.hexDigit? (octetOf c) = some (.ofNat n) ∧ isUnreserved c = true := by
  have hn := h.lt
  obtain ⟨d, hd, hc⟩ := h
  interval_cases n
  all_goals
    obtain rfl := Option.some.inj hd
    rcases hc with rfl | rfl <;> decide

theorem lt_of_isAlphanum {c : Char} (h : c.isAlphanum = true) : c.toNat < 128 := by
  rcases (Bool.or_eq_true _ _).mp h with halpha | hdigit
  · rcases (Bool.or_eq_true _ _).mp halpha with hupper | hlower
    · obtain ⟨-, hz⟩ := of_decide_eq_true hupper
      exact Nat.lt_of_le_of_lt (UInt32.le_iff_toNat_le.mp hz) (by decide)
    · obtain ⟨-, hz⟩ := (Bool.and_eq_true _ _).mp hlower
      exact Nat.lt_of_le_of_lt (UInt32.le_iff_toNat_le.mp (of_decide_eq_true hz)) (by decide)
  · obtain ⟨-, hnine⟩ := Char.isDigit_iff_toNat.mp hdigit
    exact Nat.lt_of_le_of_lt hnine (by decide)

theorem lt_of_isUnreserved {c : Char} (h : isUnreserved c = true) : c.toNat < 128 := by
  rcases (Bool.or_eq_true _ _).mp h with halnum | hmark
  · exact lt_of_isAlphanum halnum
  · have hmarks : c = '-' ∨ c = '.' ∨ c = '_' ∨ c = '~' ∨ c = '*' := by simpa using hmark
    rcases hmarks with rfl | rfl | rfl | rfl | rfl <;> decide

/-- Whether a character can stand in a written name or value. -/
def IsFormChar (c : Char) : Prop := isUnreserved c = true ∨ c = '+' ∨ c = '%'

theorem IsFormChar.lt {c : Char} (h : IsFormChar c) : c.toNat < 128 := by
  rcases h with h | rfl | rfl
  · exact lt_of_isUnreserved h
  · decide
  · decide

/-- The marks between pairs and between names and values do not stand in names and values. -/
theorem IsFormChar.ne {c d : Char} (h : IsFormChar c) (hd : d = '&' ∨ d = '=') : d ≠ c := by
  rintro rfl
  rcases hd with rfl | rfl
  all_goals rcases h with h | h | h <;> exact absurd h (by decide)

theorem isFormChar_of_writtenOctet {b : UInt8} {cs : List Char} (h : WrittenOctet b cs) :
    ∀ c ∈ cs, IsFormChar c := by
  cases h with
  | plain hc => simpa using .inl hc
  | plus => simpa using .inr (.inl rfl)
  | escape hhigh hlow =>
    simp only [List.forall_mem_cons]
    exact ⟨.inr (.inr rfl), .inl hhigh.spec.2, .inl hlow.spec.2, by simp⟩

theorem isFormChar_of_writtenText {text : String} {cs : List Char} (h : WrittenText text cs) :
    ∀ c ∈ cs, IsFormChar c := by
  obtain ⟨parts, hparts, rfl⟩ := h
  intro c hc
  obtain ⟨part, hpart, hc⟩ := List.mem_flatten.mp hc
  obtain ⟨b, -, hb⟩ := exists_mem_left_of_forall₂ hparts part hpart
  exact isFormChar_of_writtenOctet hb c hc

theorem octetOf_notMem {cs : List Char} (hcs : ∀ c ∈ cs, c.toNat < 128) {d : Char}
    (hd : d.toNat < 128) (h : d ∉ cs) : octetOf d ∉ cs.map octetOf := by
  intro hmem
  obtain ⟨c, hc, hcode⟩ := List.mem_map.mp hmem
  exact h ((octetOf_inj (hcs c hc) hd).mp hcode ▸ hc)

theorem octetOf_notMem_of_writtenText {text : String} {cs : List Char} (h : WrittenText text cs)
    {d : Char} (hd : d = '&' ∨ d = '=') : octetOf d ∉ cs.map octetOf := by
  have hchars := isFormChar_of_writtenText h
  refine octetOf_notMem (fun c hc => (hchars c hc).lt) (by rcases hd with rfl | rfl <;> decide) ?_
  exact fun hmem => (hchars d hmem).ne hd rfl

/-! ## Reading octets -/

namespace Form

/-- An octet of a form, where a plus is a space. -/
def plainOctet (b : UInt8) : UInt8 := if b = 0x2b then 0x20 else b

theorem plainOctet_of_isUnreserved {c : Char} (h : isUnreserved c = true) :
    plainOctet (octetOf c) = octetOf c ∧ octetOf c ≠ 0x25 := by
  have hne : ∀ d : Char, d.toNat < 128 → isUnreserved d = false → octetOf c ≠ octetOf d := by
    intro d hlt hd heq
    rw [(octetOf_inj (lt_of_isUnreserved h) hlt).mp heq, hd] at h
    cases h
  exact ⟨if_neg (hne '+' (by decide) (by decide)), hne '%' (by decide) (by decide)⟩

theorem unescape_escape {a b x y : UInt8} (hx : hexDigit? a = some x) (hy : hexDigit? b = some y)
    (rest : Octets) : unescape (0x25 :: a :: b :: rest) = (x * 16 + y) :: unescape rest := by
  rw [unescape, hx, hy]

/-- The two digits of an octet make up the octet. -/
theorem digits_octet (b : UInt8) :
    UInt8.ofNat (b.toNat / 16) * 16 + UInt8.ofNat (b.toNat % 16) = b := by
  rw [← UInt8.toNat_inj]
  have hb := UInt8.toNat_lt b
  simp only [UInt8.toNat_add, UInt8.toNat_mul, UInt8.toNat_ofNat', UInt8.reduceToNat]
  omega

/-- An octet is read from what it was written as, whatever follows. -/
theorem unescape_of_writtenOctet {b : UInt8} {cs : List Char} (h : WrittenOctet b cs)
    (rest : Octets) :
    unescape ((cs.map octetOf).map plainOctet ++ rest) = b :: unescape rest := by
  cases h with
  | @plain c hc =>
    obtain ⟨hplain, hpercent⟩ := plainOctet_of_isUnreserved hc
    change unescape (plainOctet (octetOf c) :: rest) = _
    rw [hplain, unescape_cons_of_ne hpercent]
  | plus => exact unescape_cons_of_ne (b := 0x20) (by decide) rest
  | @escape b high low hhigh hlow =>
    obtain ⟨hhighdigit, hhighplain⟩ := hhigh.spec
    obtain ⟨hlowdigit, hlowplain⟩ := hlow.spec
    change unescape (0x25 :: plainOctet (octetOf high) :: plainOctet (octetOf low) :: rest) = _
    -- digits are no plus, so they are left to the escape
    rw [(plainOctet_of_isUnreserved hhighplain).1, (plainOctet_of_isUnreserved hlowplain).1,
      unescape_escape hhighdigit hlowdigit]
    congr 1
    exact digits_octet b

theorem unescape_of_written {bytes : Octets} {parts : List (List Char)}
    (h : List.Forall₂ WrittenOctet bytes parts) :
    unescape ((parts.flatten.map octetOf).map plainOctet) = bytes := by
  induction h with
  | nil => rfl
  | cons hb _ ih =>
    rw [List.flatten_cons, List.map_append, List.map_append, unescape_of_writtenOctet hb, ih]

theorem decode_of_written {text : String} {cs : List Char} (h : WrittenText text cs) :
    decode (cs.map octetOf) = text := by
  obtain ⟨parts, hparts, rfl⟩ := h
  change textOfUtf8Lossy (unescape ((parts.flatten.map octetOf).map plainOctet)) = text
  rw [unescape_of_written hparts, textOfUtf8Lossy_encodeUtf8]

/-! ## Reading pairs -/

/-- The pair of a piece of a query string. -/
def pairOf (piece : Octets) : String × String :=
  (decode (cut 0x3d piece).1, decode (cut 0x3d piece).2)

theorem pairOf_of_written {pair : String × String} {cs : List Char} (h : WrittenPair pair cs) :
    pairOf (cs.map octetOf) = pair := by
  obtain ⟨name, value, hname, hvalue, rfl⟩ := h
  have hmark : (0x3d : UInt8) ∉ name.map octetOf := octetOf_notMem_of_writtenText hname (.inr rfl)
  unfold pairOf
  rw [List.map_append, List.map_cons, show octetOf '=' = 0x3d from rfl, cut_append_sep hmark,
    decode_of_written hname, decode_of_written hvalue]

/-- The pieces between marks are those that were put there, except empty ones. -/
theorem filter_splitAll {sep : UInt8} {pieces : List Octets} (h : ∀ piece ∈ pieces, sep ∉ piece) :
    (splitAll sep ([sep].intercalate pieces)).filter (!·.isEmpty) = pieces.filter (!·.isEmpty) := by
  rw [splitAll_eq_splitOn]
  by_cases hpieces : pieces = []
  · subst hpieces
    rfl
  · rw [List.splitOn_intercalate sep h hpieces]

theorem map_pairOf_of_written {pairs : Pairs} {pieces : List (List Char)}
    (h : List.Forall₂ WrittenPair pairs pieces) :
    (pieces.map (List.map octetOf)).map pairOf = pairs := by
  induction h with
  | nil => rfl
  | cons hpair _ ih => rw [List.map_cons, List.map_cons, ih, pairOf_of_written hpair]

end Form

/-- The mark that ends a piece does not stand in a written pair. -/
theorem WrittenPair.chars {pair : String × String} {cs : List Char} (h : WrittenPair pair cs) :
    ∀ c ∈ cs, c.toNat < 128 ∧ c ≠ '&' := by
  obtain ⟨name, value, hname, hvalue, rfl⟩ := h
  have hside : ∀ {text side}, WrittenText text side → ∀ c ∈ side, c.toNat < 128 ∧ c ≠ '&' :=
    fun hside c hc =>
      have hchar := isFormChar_of_writtenText hside c hc
      ⟨hchar.lt, (hchar.ne (.inl rfl)).symm⟩
  intro c hc
  rcases List.mem_append.mp hc with hc | hc
  · exact hside hname c hc
  · rcases List.mem_cons.mp hc with rfl | hc
    · decide
    · exact hside hvalue c hc

theorem encodeUtf8_intercalate {pieces : List (List Char)}
    (h : ∀ piece ∈ pieces, ∀ c ∈ piece, c.toNat < 128) :
    encodeUtf8 (String.ofList (['&'].intercalate pieces)) =
      [0x26].intercalate (pieces.map (List.map octetOf)) := by
  have hmark : encodeUtf8 (String.ofList ['&']) = [0x26] := encodeUtf8_ofList (by simp)
  induction pieces with
  | nil =>
    rw [List.map_nil, List.intercalate_nil, List.intercalate_nil]
    exact encodeUtf8_ofList (by simp)
  | cons piece pieces ih =>
    obtain ⟨hpiece, hpieces⟩ := List.forall_mem_cons.mp h
    cases pieces with
    | nil =>
      rw [List.intercalate_singleton, encodeUtf8_ofList hpiece, List.map_singleton,
        List.intercalate_singleton]
    | cons next pieces =>
      rw [List.intercalate_cons_cons, String.ofList_append, String.ofList_append, encodeUtf8_append,
        encodeUtf8_append, encodeUtf8_ofList hpiece, hmark, ih hpieces]
      exact List.intercalate_cons_cons.symm

/-- Pairs are read from what they were written as. -/
theorem pairs_of_written {pairs : Pairs} {query : String} (h : WrittenQuery pairs query) :
    Form.pairs (encodeUtf8 query) = pairs := by
  obtain ⟨pieces, hpairs, hquery⟩ := h
  have hchars : ∀ piece ∈ pieces, ∀ c ∈ piece, c.toNat < 128 ∧ c ≠ '&' := by
    intro piece hpiece c hc
    have hfilter : piece ∈ pieces.filter (!·.isEmpty) :=
      List.mem_filter.mpr ⟨hpiece, by cases piece with | nil => cases hc | cons => rfl⟩
    obtain ⟨pair, -, hpair⟩ := exists_mem_left_of_forall₂ hpairs piece hfilter
    exact hpair.chars c hc
  have hmarks : ∀ piece ∈ pieces.map (List.map octetOf), (0x26 : UInt8) ∉ piece := by
    intro piece hpiece
    obtain ⟨cs, hcs, rfl⟩ := List.mem_map.mp hpiece
    exact octetOf_notMem (d := '&') (fun c hc => (hchars cs hcs c hc).1) (by decide)
      fun hc => (hchars cs hcs _ hc).2 rfl
  rw [← String.ofList_toList (s := query), hquery,
    encodeUtf8_intercalate fun piece hpiece c hc => (hchars piece hpiece c hc).1]
  change ((Form.splitAll 0x26 _).filter (!·.isEmpty)).map Form.pairOf = pairs
  rw [Form.filter_splitAll hmarks, List.filter_map]
  have hempty : ((!·.isEmpty) ∘ List.map octetOf) = fun cs : List Char => !cs.isEmpty := by
    funext cs
    cases cs <;> rfl
  rw [hempty, Form.map_pairOf_of_written hpairs]

/-! ## Every list of pairs can be written -/

theorem exists_hexDigit {n : ℕ} (hn : n < 16) : ∃ c, HexDigit n c :=
  ⟨_, hexDigits[n], List.getElem?_eq_getElem hn, .inl rfl⟩

theorem exists_writtenText (text : String) : ∃ cs, WrittenText text cs := by
  have hoctet : ∀ b ∈ encodeUtf8 text, ∃ cs, WrittenOctet b cs := by
    intro b _
    have hb := UInt8.toNat_lt b
    obtain ⟨high, hhigh⟩ := exists_hexDigit (n := b.toNat / 16) (by omega)
    obtain ⟨low, hlow⟩ := exists_hexDigit (n := b.toNat % 16) (by omega)
    exact ⟨_, .escape hhigh hlow⟩
  obtain ⟨parts, hparts⟩ := exists_forall₂ hoctet
  exact ⟨_, parts, hparts, rfl⟩

theorem exists_writtenQuery (pairs : Pairs) : ∃ query, WrittenQuery pairs query := by
  have hpair : ∀ pair ∈ pairs, ∃ cs, WrittenPair pair cs := by
    intro pair _
    obtain ⟨name, hname⟩ := exists_writtenText pair.1
    obtain ⟨value, hvalue⟩ := exists_writtenText pair.2
    exact ⟨_, name, value, hname, hvalue, rfl⟩
  obtain ⟨pieces, hpieces⟩ := exists_forall₂ hpair
  have hfilter : pieces.filter (!·.isEmpty) = pieces := by
    refine List.filter_eq_self.mpr fun piece hpiece => ?_
    obtain ⟨pair, -, name, value, -, -, rfl⟩ := exists_mem_left_of_forall₂ hpieces piece hpiece
    simp
  exact ⟨String.ofList (['&'].intercalate pieces), pieces, hfilter.symm ▸ hpieces,
    String.toList_ofList⟩

/-! ## Requests -/

theorem toList_target (path query : String) :
    (path ++ "?" ++ query).toList = path.toList ++ '?' :: query.toList := by
  rw [String.toList_append, String.toList_append, List.append_assoc]
  rfl

theorem pathOf_target {path : String} (hpath : '?' ∉ path.toList) (query : String) :
    Form.pathOf (path ++ "?" ++ query) = path := by
  have hplain := decide_ne_of_notMem hpath
  unfold Form.pathOf
  rw [toList_target, List.takeWhile_append_of_pos hplain, List.takeWhile_cons_of_neg (by simp),
    List.append_nil, String.ofList_toList]

theorem queryOf_target {path : String} (hpath : '?' ∉ path.toList) (query : String) :
    Form.queryOf (path ++ "?" ++ query) = Form.pairs (encodeUtf8 query) := by
  have hplain := decide_ne_of_notMem hpath
  unfold Form.queryOf
  rw [toList_target, List.dropWhile_append_of_pos hplain, List.dropWhile_cons_of_neg (by simp),
    List.drop_one, List.tail_cons, String.ofList_toList]

/-- The text of a string parameter is its value. -/
theorem resolve_of_lookup? {op : Operation} {p : Parameter} {r : Request} {value : String}
    (hp : p.isBody = false) (htype : p.type = .string)
    (hvalue : r.lookup? p.name p.location = some value) (ctx : BindingContext) (i : ℕ) :
    op.resolve ctx r i p = .ok (.present (.string value)) := by
  rw [resolve_of_not_isBody hp]
  unfold Parameter.resolveScalar
  rw [hvalue]
  simp only [Parameter.ofText, htype]
  rfl

/-- However pairs are written as the query of a target, the request for the target has its path and
these pairs in order. A string parameter of the query is bound to the value of the first pair of its
name, unchanged: binding can only fail over another parameter. -/
theorem query_reads_back {path query : String} {pairs : Pairs} (hpath : '?' ∉ path.toList)
    (hquery : WrittenQuery pairs query) (fresh : Ulid) (method : String) :
    let r := Request.new fresh method (path ++ "?" ++ query)
    r.path = path ∧ r.queryParams = pairs ∧
    ∀ (ctx : BindingContext) (op : Operation) (i : ℕ) (p : Parameter) (value : String)
      (front back : Pairs), op.parameters[i]? = some p → p.location = .query → p.type = .string →
      pairs = front ++ (p.name, value) :: back → (∀ q ∈ front, q.1 ≠ p.name) →
      op.resolve ctx r i p = .ok (.present (.string value)) ∧
      (∀ args, (bind ctx op r).result = .ok args →
        args.arguments[i]? = some ⟨p.name, .query, .present (.string value)⟩ ∧
        (op.Unambiguous → args.get? p.name .query = some (.present (.string value)))) ∧
      ∀ e, (bind ctx op r).result = .error e →
        ∃ j q, j ≠ i ∧ op.parameters[j]? = some q ∧ op.resolve ctx r j q = .error e := by
  intro r
  have hpairs : r.queryParams = pairs := (queryOf_target hpath query).trans (pairs_of_written hquery)
  refine ⟨pathOf_target hpath query, hpairs, ?_⟩
  intro ctx op i p value front back hp hlocation htype hfirst hfront
  have hlookup : r.lookup? p.name p.location = some value := by
    rw [Request.lookup?_eq_firstOf?, hlocation]
    change Location.query.firstOf? r.queryParams p.name = some value
    rw [hpairs, hfirst, Location.firstOf?_append, Location.firstOf?_eq_none_iff.mpr hfront,
      Option.none_or, Location.firstOf?_cons, if_pos rfl]
  have hbody : p.isBody = false := by
    unfold Parameter.isBody
    rw [hlocation]
    rfl
  have hresolve : op.resolve ctx r i p = .ok (.present (.string value)) :=
    resolve_of_lookup? hbody htype hlookup ctx i
  refine ⟨hresolve, fun args h => ⟨?_, fun hop => ?_⟩, fun e he => ?_⟩
  · rw [← hlocation]
    exact argument_of_resolve h hp hresolve
  · rw [← hlocation]
    exact get?_of_bind hop h hp hresolve
  · obtain ⟨j, q, hq, hfail, -⟩ := result_bind_eq_error_iff.mp he
    refine ⟨j, q, ?_, hq, hfail⟩
    rintro rfl
    obtain rfl := Option.some.inj (hp.symm.trans hq)
    rw [hresolve] at hfail
    cases hfail

def phrasePairs : Pairs := [("q", "é &"), ("q", "")]

/-- The pairs with digits of both cases, a plus for the space, and empty pieces. -/
def phraseQuery : String := "&q=%c3%A9+%26&&q="

def phraseOperation : Operation := ⟨"phrases", "GET", "/phrases",
  [{ name := "q", location := .query, required := true, type := .string }]⟩

theorem writtenQuery_phraseQuery : WrittenQuery phrasePairs phraseQuery := by
  have hname : WrittenText "q" ['q'] := by
    refine ⟨[['q']], ?_, rfl⟩
    rw [show encodeUtf8 "q" = [octetOf 'q'] by rw [encodeUtf8_eq]; decide]
    exact .cons (.plain (by decide)) .nil
  have hvalue : WrittenText "é &" "%c3%A9+%26".toList := by
    refine ⟨[['%', 'c', '3'], ['%', 'A', '9'], ['+'], ['%', '2', '6']], ?_, by decide⟩
    rw [show encodeUtf8 "é &" = [0xc3, 0xa9, 0x20, 0x26] by rw [encodeUtf8_eq]; decide]
    exact .cons (.escape ⟨_, rfl, .inl rfl⟩ ⟨_, rfl, .inl rfl⟩)
      (.cons (.escape ⟨_, rfl, .inr rfl⟩ ⟨_, rfl, .inl rfl⟩)
        (.cons .plus (.cons (.escape ⟨_, rfl, .inl rfl⟩ ⟨_, rfl, .inl rfl⟩) .nil)))
  have hempty : WrittenText "" [] := by
    refine ⟨[], ?_, rfl⟩
    rw [encodeUtf8_eq]
    exact .nil
  exact ⟨[[], "q=%c3%A9+%26".toList, [], "q=".toList],
    .cons ⟨_, _, hname, hvalue, by decide⟩ (.cons ⟨_, _, hname, hempty, by decide⟩ .nil), by decide⟩

/-- The first of two values is bound, with its space and its mark. -/
theorem phraseQuery_reads_back :
    '?' ∉ "/phrases".toList ∧ WrittenQuery phrasePairs phraseQuery ∧
    (Request.new ⟨0⟩ "GET" ("/phrases" ++ "?" ++ phraseQuery)).path = "/phrases" ∧
    (Request.new ⟨0⟩ "GET" ("/phrases" ++ "?" ++ phraseQuery)).queryParams = phrasePairs ∧
    ∃ args, (bind smallContext phraseOperation
      (Request.new ⟨0⟩ "GET" ("/phrases" ++ "?" ++ phraseQuery))).result = .ok args ∧
      args.arguments[0]? = some ⟨"q", .query, .present (.string "é &")⟩ := by
  have hpath : '?' ∉ "/phrases".toList := by decide
  obtain ⟨hp, hpairs, hbound⟩ := query_reads_back hpath writtenQuery_phraseQuery ⟨0⟩ "GET"
  obtain ⟨-, hargs, herror⟩ := hbound smallContext phraseOperation 0 _ "é &" [] [("q", "")]
    rfl rfl rfl rfl (by simp)
  refine ⟨hpath, writtenQuery_phraseQuery, hp, hpairs, ?_⟩
  cases hresult : (bind smallContext phraseOperation
      (Request.new ⟨0⟩ "GET" ("/phrases" ++ "?" ++ phraseQuery))).result with
  | ok args => exact ⟨args, rfl, (hargs args hresult).1⟩
  | error e =>
    obtain ⟨j, q, hj, hq, -⟩ := herror e hresult
    obtain ⟨hlt, -⟩ := List.getElem?_eq_some_iff.mp hq
    exact absurd (Nat.lt_one_iff.mp hlt) hj

end RequestBinding
