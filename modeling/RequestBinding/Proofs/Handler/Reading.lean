import RequestBinding.Handler.Dispatcher
import RequestBinding.Proofs.Binding.Arguments
import RequestBinding.Proofs.Decimal.Rounding

/-!
# Reads of a handler

A handler reads the arguments as types of its own. What a read gives is decided by the declaration, and
by whether the request held something for the parameter; no text and no body makes a difference.

1. `hasType_of_coerce`: the text of a parameter gives a value of the declared type.
2. `converts_of_boundTo`: a type takes all values that a parameter can be bound to, or none of them.
3. `ReadAs` lists what a read can give, and `readAs_of_bind` is that it gives nothing else.
4. `ReadPlan.run_of_bind`: reads that the declaration admits fail only for what the request left out.
-/

namespace RequestBinding

variable {op : Operation} {p : Parameter} {i : ℕ} {ctx : BindingContext} {r : Request}
  {args : Arguments} {b : BoundValue} {v : Value}

/-! ## Values of a type -/

/-- Whether a value is one that a text of a declared type is read as. -/
inductive Value.HasType : ParameterType → Value → Prop
  | string (s : String) : HasType .string (.string s)
  | int32 (n : ℤ) : HasType .int32 (.int32 n)
  | int64 (n : ℤ) : HasType .int64 (.int64 n)
  | float32 {x : Single} (hx : x.InRange) : HasType .float32 (.float32 x)
  | float64 (x : Double) : HasType .float64 (.float64 x)
  | boolean (b : Bool) : HasType .boolean (.boolean b)

theorem hasType_of_readFloat32 {raw : String} (h : Value.readFloat32 raw = .ok v) :
    Value.HasType .float32 v := by
  obtain ⟨text, -, h⟩ := bind_eq_ok_iff.mp h
  dsimp only at h
  split_ifs at h
  rw [← Except.ok.inj h]
  exact .float32 (text.inRange_toBinary (by decide) (by decide))

/-- The text of a parameter is read as a value of the declared type, if it is read at all. -/
theorem hasType_of_coerce {raw : String} {type : ParameterType}
    (h : Value.coerce raw type = .ok v) : Value.HasType type v := by
  have h : Value.readReason raw type = .ok v := mapError_eq_ok_iff.mp h
  cases type with
  | string =>
    rw [← Except.ok.inj h]
    exact .string raw
  | int32 =>
    obtain ⟨n, -, rfl⟩ := map_eq_ok_iff.mp h
    exact .int32 n
  | int64 =>
    obtain ⟨n, -, rfl⟩ := map_eq_ok_iff.mp h
    exact .int64 n
  | float32 => exact hasType_of_readFloat32 h
  | float64 =>
    obtain ⟨text, -, rfl⟩ := map_eq_ok_iff.mp h
    exact .float64 _
  | boolean =>
    simp only [Value.readReason] at h
    split at h
    · rw [← Except.ok.inj h]
      exact .boolean _
    · cases h
  | object | array | map => cases h

/-! ## Types that admit a parameter -/

namespace ArgumentType

/-- Whether the texts of a declared type can be read as the type. Numbers can be read at twice their
width. -/
def takesText : ArgumentType → ParameterType → Bool
  | .optional t, type => t.takesText type
  | .string, .string => true
  | .int32, .int32 => true
  | .int64, .int32 | .int64, .int64 => true
  | .float32, .float32 => true
  | .float64, .float32 | .float64, .float64 => true
  | .boolean, .boolean => true
  | _, _ => false

/-- Whether a body can be read as the type. -/
def takesBody : ArgumentType → Bool
  | .optional t => t.takesBody
  | .json => true
  | _ => false

/-- Whether a parameter can be read as the type. -/
def admits (t : ArgumentType) (p : Parameter) : Bool :=
  if p.isBody then t.takesBody else t.takesText p.type

end ArgumentType

/-- Whether the second value is the first one, at its own width or at twice its width. -/
inductive Widened : Value → Value → Prop
  | same (v : Value) : Widened v v
  | integer (n : ℤ) : Widened (.int32 n) (.int64 n)
  | float {x : Single} {y : Double} (h : x.Same y) : Widened (.float32 x) (.float64 y)

/-- Whether a type takes a value, which it then gives exactly. -/
inductive Converts (t : ArgumentType) (v : Value) : Bool → Prop
  | taken {w : Value} (h : t.convert? v = some w) (hw : Widened v w) (hkind : w.kind = t.kind) :
      Converts t v true
  | refused (h : t.convert? v = none) : Converts t v false

theorem Converts.optional {t : ArgumentType} {taken : Bool} (h : Converts t v taken) :
    Converts (.optional t) v taken := by
  cases h with
  | taken h hw hkind => exact .taken h hw hkind
  | refused h => exact .refused h

theorem converts_of_hasType {type : ParameterType} (hv : Value.HasType type v) (t : ArgumentType) :
    Converts t v (t.takesText type) := by
  induction t with
  | optional t ih => exact ih.optional
  | string =>
    cases hv with
    | string s => exact .taken rfl (.same _) rfl
    | _ => exact .refused rfl
  | int32 =>
    cases hv with
    | int32 n => exact .taken rfl (.same _) rfl
    | _ => exact .refused rfl
  | int64 =>
    cases hv with
    | int32 n => exact .taken rfl (.integer n) rfl
    | int64 n => exact .taken rfl (.same _) rfl
    | _ => exact .refused rfl
  | float32 =>
    cases hv with
    | float32 hx => exact .taken rfl (.same _) rfl
    | _ => exact .refused rfl
  | float64 =>
    cases hv with
    | float32 hx =>
      -- a single that was read from a text is one of the format, so it is widened exactly
      have hsame := Binary.convert_same (g := .double) (by decide) (by decide) (by decide) hx
      exact .taken rfl (.float hsame) rfl
    | float64 x => exact .taken rfl (.same _) rfl
    | _ => exact .refused rfl
  | boolean =>
    cases hv with
    | boolean b => exact .taken rfl (.same _) rfl
    | _ => exact .refused rfl
  | json => cases hv <;> exact .refused rfl

theorem converts_json (v : Json) (t : ArgumentType) : Converts t (.json v) t.takesBody := by
  induction t with
  | optional t ih => exact ih.optional
  | json => exact .taken rfl (.same _) rfl
  | _ => exact .refused rfl

/-- A type takes all values that a parameter can be bound to, or none of them. -/
theorem converts_of_boundTo (h : BoundTo p r (.present v)) (t : ArgumentType) :
    Converts t v (t.admits p) := by
  unfold ArgumentType.admits
  cases h with
  | text hp hr hv =>
    rw [hp, if_neg Bool.false_ne_true]
    exact converts_of_hasType (hasType_of_coerce hv) t
  | body hp hr hne hv hf =>
    rw [if_pos hp]
    exact converts_json _ t

/-! ## Reads -/

/-- What a parameter that was bound to a value or to nothing is read as. -/
inductive ReadAs (p : Parameter) (t : ArgumentType) :
    BoundValue → Except BindingError (Option Value) → Prop
  | value {v w : Value} (ht : t.admits p = true) (hw : Widened v w) (hkind : w.kind = t.kind) :
      ReadAs p t (.present v) (.ok (some w))
  | misread {v : Value} (ht : t.admits p = false) (cause : String) :
      ReadAs p t (.present v) (.error (.internal cause))
  | nothing (ht : t.admitsAbsence = true) : ReadAs p t .absent (.ok none)
  | missing (ht : t.admitsAbsence = false) : ReadAs p t .absent (.error (.missing p.name p.location))

theorem ReadAs.of_admits {t : ArgumentType} {x : Except BindingError (Option Value)}
    (h : ReadAs p t (.present v) x) (ht : t.admits p = true) :
    ∃ w, x = .ok (some w) ∧ Widened v w ∧ w.kind = t.kind := by
  cases h with
  | value _ hw hkind => exact ⟨_, rfl, hw, hkind⟩
  | misread hunfit => rw [ht] at hunfit; cases hunfit

theorem ReadAs.of_not_admits {t : ArgumentType} {x : Except BindingError (Option Value)}
    (h : ReadAs p t (.present v) x) (ht : t.admits p = false) :
    ∃ cause, x = .error (.internal cause) := by
  cases h with
  | value hfit => rw [ht] at hfit; cases hfit
  | misread _ cause => exact ⟨cause, rfl⟩

theorem ReadAs.of_absent {t : ArgumentType} {x : Except BindingError (Option Value)}
    (h : ReadAs p t .absent x) :
    x = if t.admitsAbsence then .ok none else .error (.missing p.name p.location) := by
  cases h with
  | nothing ht => rw [if_pos ht]
  | missing ht => rw [if_neg (Bool.eq_false_iff.mp ht)]

theorem readAs_of_get? (hb : args.get? p.name p.location = some b) (hbound : BoundTo p r b)
    (t : ArgumentType) : ReadAs p t b (args.read p.name p.location t) := by
  unfold Arguments.read
  rw [hb]
  cases b with
  | absent =>
    cases ht : t.admitsAbsence with
    | true => exact .nothing ht
    | false => exact .missing ht
  | present v =>
    have hconverts := converts_of_boundTo hbound t
    generalize ht : t.admits p = admitted at hconverts
    cases hconverts with
    | taken h hw hkind =>
      simp only [h]
      exact .value ht hw hkind
    | refused h =>
      simp only [h]
      exact .misread ht _

/-- A declared parameter is read as what it was bound to. -/
theorem readAs_of_bind (hop : op.Unambiguous) (h : (bind ctx op r).result = .ok args)
    (hp : op.parameters[i]? = some p) :
    ∃ b, op.resolve ctx r i p = .ok b ∧ BoundTo p r b ∧
      ∀ t, ReadAs p t b (args.read p.name p.location t) := by
  obtain ⟨b, hb, -⟩ := argument_of_bind h hp
  have hbound := boundTo_of_resolve hop hp hb
  exact ⟨b, hb, hbound, readAs_of_get? (get?_of_bind hop h hp hb) hbound⟩

/-- What the operation does not declare is the handler's fault to read. -/
theorem read_of_undeclared (h : (bind ctx op r).result = .ok args) {name : String}
    {location : Location} (hnone : ∀ p ∈ op.parameters, p.name = name → p.location ≠ location)
    (t : ArgumentType) : ∃ cause, args.read name location t = .error (.internal cause) := by
  unfold Arguments.read
  rw [(get?_eq_none_iff h).mpr hnone]
  exact ⟨_, rfl⟩

/-- A read that the declaration admits gives a value or nothing, or says what the request left out. -/
theorem read_of_admits (hop : op.Unambiguous) (h : (bind ctx op r).result = .ok args)
    (hp : p ∈ op.parameters) {t : ArgumentType} (ht : t.admits p = true) :
    (∃ w, args.read p.name p.location t = .ok w) ∨ ¬ r.Supplies p ∧ p.required = false ∧
      args.read p.name p.location t = .error (.missing p.name p.location) := by
  obtain ⟨i, hi⟩ := List.mem_iff_getElem?.mp hp
  obtain ⟨b, -, hbound, hread⟩ := readAs_of_bind hop h hi
  cases b with
  | present v =>
    obtain ⟨w, hw, -⟩ := (hread t).of_admits ht
    exact .inl ⟨some w, hw⟩
  | absent =>
    have habsent := (hread t).of_absent
    split_ifs at habsent
    · exact .inl ⟨none, habsent⟩
    · cases hbound with
      | absent hrequired hr => exact .inr ⟨hr, hrequired, habsent⟩

/-! ## Handlers -/

/-- How a handler decodes its arguments: it reads them one by one, and what it reads next may depend on
what it has read. -/
inductive ReadPlan (α : Type) where
  | done (a : α)
  | read (name : String) (location : Location) (t : ArgumentType) (next : Option Value → ReadPlan α)

namespace ReadPlan

variable {α : Type}

def run (args : Arguments) : ReadPlan α → Except BindingError α
  | done a => .ok a
  | read name location t next => args.read name location t >>= fun v => (next v).run args

/-- Whether an operation declares all that is read, as types that admit it. -/
def AdmittedBy (op : Operation) : ReadPlan α → Prop
  | done _ => True
  | read name location t next =>
    (∃ p ∈ op.parameters, p.name = name ∧ p.location = location ∧ t.admits p = true) ∧
      ∀ v, (next v).AdmittedBy op

/-- Reads that are admitted fail only for an optional parameter that the request left out. -/
theorem run_of_bind (hop : op.Unambiguous) (h : (bind ctx op r).result = .ok args)
    (plan : ReadPlan α) (hplan : plan.AdmittedBy op) :
    (∃ a, plan.run args = .ok a) ∨ ∃ p ∈ op.parameters, ¬ r.Supplies p ∧ p.required = false ∧
      plan.run args = .error (.missing p.name p.location) := by
  induction plan with
  | done a => exact .inl ⟨a, rfl⟩
  | read name location t next ih =>
    obtain ⟨⟨p, hp, rfl, rfl, ht⟩, hnext⟩ := hplan
    rw [run]
    rcases read_of_admits hop h hp ht with ⟨v, hv⟩ | ⟨hr, hrequired, hmissing⟩
    · rw [hv]
      exact ih v (hnext v)
    · rw [hmissing]
      exact .inr ⟨p, hp, hr, hrequired, rfl⟩

/-- A handler whose reads are admitted answers 500 only if its own result does not become JSON. -/
theorem typed_of_bind (hop : op.Unambiguous) (h : (bind ctx op r).result = .ok args)
    (plan : ReadPlan α) (hplan : plan.AdmittedBy op)
    (handle : Arguments → α → Except String Json) :
    ∃ response, (Handler.typed plan.run handle args).value = .responded response ∧
      (response.status = 500 →
        ∃ a fault, plan.run args = .ok a ∧ handle args a = .error fault) := by
  unfold Handler.typed
  rcases run_of_bind hop h plan hplan with ⟨a, ha⟩ | ⟨p, -, -, -, hmissing⟩
  · simp only [ha]
    cases hresult : handle args a with
    | ok v => exact ⟨_, rfl, fun hstatus => absurd hstatus (show 200 ≠ 500 by decide)⟩
    | error fault => exact ⟨_, rfl, fun _ => ⟨a, fault, rfl, hresult⟩⟩
  · simp only [hmissing]
    exact ⟨_, rfl, fun hstatus => absurd hstatus (show 400 ≠ 500 by decide)⟩

end ReadPlan

/-- Whatever a request holds, what a handler reads is decided by the declaration and by what the request
supplies. A required parameter is there; a parameter that is there is read as its value by the types
that admit it, and by no others; one that is not there is read as nothing or is missing. Reading what is
not declared is the handler's fault, and so is any 500 of a handler that reads as declared. -/
theorem reads_follow_declaration (hop : op.Unambiguous) (h : (bind ctx op r).result = .ok args) :
    (∀ i p, op.parameters[i]? = some p → ∃ b, op.resolve ctx r i p = .ok b ∧ BoundTo p r b ∧
      (b.isPresent = true ↔ r.Supplies p) ∧ (p.required = true → b.isPresent = true) ∧
      ∀ t, ReadAs p t b (args.read p.name p.location t)) ∧
    (∀ name location, (∀ p ∈ op.parameters, p.name = name → p.location ≠ location) →
      ∀ t, ∃ cause, args.read name location t = .error (.internal cause)) ∧
    ∀ {α : Type} (plan : ReadPlan α), plan.AdmittedBy op →
      ((∃ a, plan.run args = .ok a) ∨ ∃ p ∈ op.parameters, ¬ r.Supplies p ∧ p.required = false ∧
        plan.run args = .error (.missing p.name p.location)) ∧
      ∀ handle, ∃ response, (Handler.typed plan.run handle args).value = .responded response ∧
        (response.status = 500 →
          ∃ a fault, plan.run args = .ok a ∧ handle args a = .error fault) := by
  refine ⟨fun i p hp => ?_, fun name location => read_of_undeclared h, fun plan hplan => ?_⟩
  · obtain ⟨b, hb, hbound, hread⟩ := readAs_of_bind hop h hp
    exact ⟨b, hb, hbound, hbound.isPresent_iff_supplies, hbound.isPresent_of_required, hread⟩
  · exact ⟨plan.run_of_bind hop h hplan, plan.typed_of_bind hop h hplan⟩

/-- An operation with numbers of both kinds at their smaller width, and a note that may be left out. -/
def measureOperation : Operation := ⟨"measure", "GET", "/measure",
  [{ name := "count", location := .query, required := true, type := .int32 },
    { name := "ratio", location := .query, type := .float32 },
    { name := "note", location := .header, type := .string }]⟩

def measureRequest : Request :=
  { id := ⟨0⟩, method := "GET", path := "/measure", queryParams := [("count", "7"), ("ratio", "0.5")] }

def measureArguments : Arguments :=
  { requestId := ⟨0⟩, operationId := "measure"
    arguments := [⟨"count", .query, .present (.int32 7)⟩,
      ⟨"ratio", .query, .present (.float32 (.finite false 8388608 (-24)))⟩,
      ⟨"note", .header, .absent⟩] }

/-- Reads the count, and the ratio only if the count is there. -/
def measurePlan : ReadPlan (Option Value) :=
  .read "count" .query .int64 fun count =>
    if count.isSome then .read "ratio" .query (.optional .float64) .done else .done none

theorem bind_measureRequest :
    (bind smallContext measureOperation measureRequest).result = .ok measureArguments := by
  rw [result_bind_eq_mapM]
  rfl

/-- The count and the ratio are read at twice their width, the note is nothing or missing. A count is no
boolean, and there is none in the path. -/
theorem measureArguments_read :
    measureOperation.Unambiguous ∧
    (bind smallContext measureOperation measureRequest).result = .ok measureArguments ∧
    measureArguments.read "count" .query .int64 = .ok (some (.int64 7)) ∧
    (∃ cause, measureArguments.read "count" .query .boolean = .error (.internal cause)) ∧
    (∃ x : Double, measureArguments.read "ratio" .query .float64 = .ok (some (.float64 x)) ∧
      Binary.Same (.finite false 8388608 (-24) : Single) x) ∧
    measureArguments.read "note" .header (.optional .string) = .ok none ∧
    measureArguments.read "note" .header .string = .error (.missing "note" .header) ∧
    (∃ cause, measureArguments.read "count" .path .int32 = .error (.internal cause)) ∧
    measurePlan.AdmittedBy measureOperation ∧
    ∃ response, (Handler.typed measurePlan.run (fun _ _ => .ok .null) measureArguments).value =
      .responded response ∧ response.status ≠ 500 := by
  have hop : measureOperation.Unambiguous := ⟨by decide, by decide⟩
  have hplan : measurePlan.AdmittedBy measureOperation := by
    refine ⟨by decide, fun count => ?_⟩
    dsimp only
    split_ifs
    · exact ⟨by decide, fun _ => trivial⟩
    · trivial
  obtain ⟨hdeclared, hundeclared, hplans⟩ := reads_follow_declaration hop bind_measureRequest
  obtain ⟨count, hcount, -, -, -, hreadCount⟩ := hdeclared 0 _ rfl
  obtain ⟨ratio, hratio, -, -, -, hreadRatio⟩ := hdeclared 1 _ rfl
  obtain ⟨note, hnote, -, -, -, hreadNote⟩ := hdeclared 2 _ rfl
  obtain rfl : BoundValue.present (.int32 7) = count := Except.ok.inj hcount
  obtain rfl : BoundValue.present (.float32 (.finite false 8388608 (-24))) = ratio :=
    Except.ok.inj hratio
  obtain rfl : BoundValue.absent = note := Except.ok.inj hnote
  obtain ⟨response, hresponse, hfault⟩ := (hplans measurePlan hplan).2 fun _ _ => .ok .null
  refine ⟨hop, bind_measureRequest, ?_, ?_, ?_, ?_, ?_, ?_, hplan, response, hresponse, ?_⟩
  · obtain ⟨w, hw, hwide, hkind⟩ := (hreadCount .int64).of_admits rfl
    cases hwide with
    | same => exact absurd hkind (by decide)
    | integer => exact hw
  · exact (hreadCount .boolean).of_not_admits rfl
  · obtain ⟨w, hw, hwide, hkind⟩ := (hreadRatio .float64).of_admits rfl
    cases hwide with
    | same => exact absurd hkind (by decide)
    | float hsame => exact ⟨_, hw, hsame⟩
  · exact (hreadNote (.optional .string)).of_absent
  · exact (hreadNote .string).of_absent
  · exact hundeclared "count" .path (by decide) .int32
  · intro hstatus
    obtain ⟨-, fault, -, hfault⟩ := hfault hstatus
    cases hfault

end RequestBinding
