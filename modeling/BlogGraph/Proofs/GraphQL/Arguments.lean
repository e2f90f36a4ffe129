import BlogGraph.GraphQL.Variables
import BlogGraph.Proofs.GraphQL.Coercion
import Mathlib.Logic.Basic

/-!
# Variables and arguments that were checked

What the rules for variables and arguments promise about their values.  A variable takes a value of
its own type, so it fits wherever the rules let it stand (`Usage.fits_of_allowed`); and it has one
where one is demanded, unless the client took it away by an explicit null
(`Usage.provided_of_allowed`).  Arguments that were checked therefore have values, and these are in
the form of their types.

Main statements:

* `Usage.fits_of_allowed`, `Usage.provided_of_allowed`: what an allowed use of a variable finds;
* `exists_argumentValues`: arguments that were checked have values;
* `fieldsConform_of_argumentValues`: the values of arguments have their types.
-/

namespace BlogGraph.GraphQL

variable {s : Schema} {vars : Variables}

/-! ## Arguments -/

/-- An argument passes the rules: it is given without a fault, and so that every variable in it is
used as `U` allows, or it need not be given. -/
def ArgumentChecked (s : Schema) (U : Usage → Prop) (spec : InputSpec) (args : List Argument) :
    Prop :=
  match args.reverse.find? fun a => a.name.value = spec.name with
  | none => spec.isRequired = false
  | some a =>
    s.faultsOfLiteral none spec.type a.value = [] ∧
      ∀ u ∈ literalUsages s (some spec.type) spec.defaultValue.isSome a.value, U u

theorem ArgumentChecked.mono {U U' : Usage → Prop} {spec : InputSpec} {args : List Argument}
    (h : ArgumentChecked s U spec args) (hU : ∀ u, U u → U' u) :
    ArgumentChecked s U' spec args := by
  rw [ArgumentChecked] at h ⊢
  split
  · next hnone => simpa [hnone] using h
  · next a hsome =>
    rw [hsome] at h
    exact ⟨h.1, fun u hu => hU u (h.2 u hu)⟩

/-- A literal without a value is a variable that was not given. -/
theorem absent_eq (vars : Variables) (spec : InputSpec) (l : Literal) :
    (match l with
      | .var _ n => (vars.get? n.value).isNone && !spec.isRequired
      | _ => false) = (!l.isPresent vars && !spec.isRequired) := by
  cases l with
  | var p n => simp [Literal.isPresent]
  | _ => rfl


/-- An argument has a value when its value can be brought into form, or when it is absent and need
not be there. -/
theorem argumentValue_eq {args : List Argument} {pos : Nat} {spec : InputSpec} :
    argumentValue s vars args pos spec =
      match args.reverse.find? fun a => a.name.value = spec.name with
      | none =>
        if spec.isRequired then
          .error (.atPlaces ("Argument '" ++ spec.name ++ "' of type '" ++ spec.type.text ++
            "' is required, but not provided.") [pos])
        else .ok spec.defaultValue
      | some a =>
        if !a.value.isPresent vars && !spec.isRequired then .ok spec.defaultValue
        else
          match s.ofLiteral? vars spec.type a.value with
          | some v => .ok (some v)
          | none =>
            match s.faultsOfLiteral (some vars) spec.type a.value with
            | f :: _ =>
              .error (.atPlaces ("Argument '" ++ spec.name ++ "' has invalid value" ++
                pathSuffix f.path ++ ": " ++ f.message) f.positions)
            | [] => .error (.atPlaces "Invalid argument" [a.value.pos]) := by
  rw [argumentValue]
  cases args.reverse.find? fun a => a.name.value = spec.name with
  | none => rfl
  | some a =>
    have habsent := absent_eq vars spec a.value
    exact if_congr (iff_of_eq (congrArg (· = true) habsent)) rfl rfl

/-- Arguments that were checked have values. -/
theorem exists_argumentValues {specs : List InputSpec} {args : List Argument}
    (h : ∀ spec ∈ specs, s.isFlat spec.type = true ∧
      ArgumentChecked s (Usage.Provided vars) spec args) (pos : Nat) :
    ∃ values, argumentValues s vars specs args pos = .ok values := by
  induction specs with
  | nil => exact ⟨[], rfl⟩
  | cons spec rest ih =>
    obtain ⟨⟨hflat, hchecked⟩, hrest⟩ := List.forall_mem_cons.1 h
    obtain ⟨others, hothers⟩ := ih hrest
    have hvalue : ∃ v, argumentValue s vars args pos spec = .ok v := by
      rw [argumentValue_eq]
      rw [ArgumentChecked] at hchecked
      split
      · next hnone =>
        rw [hnone] at hchecked
        exact ⟨spec.defaultValue, by rw [hchecked]; rfl⟩
      · next a hsome =>
        rw [hsome] at hchecked
        obtain ⟨hfaults, husages⟩ := hchecked
        cases hpresent : a.value.isPresent vars with
        | false =>
          rw [not_isRequired_of_absent husages hpresent]
          exact ⟨spec.defaultValue, rfl⟩
        | true =>
          obtain ⟨v, hv⟩ := exists_ofLiteral? hflat husages hpresent hfaults
          exact ⟨some v, by rw [hv]; rfl⟩
    obtain ⟨v, hv⟩ := hvalue
    exact ⟨_, by rw [argumentValues, hv, hothers]⟩

/-- The values of arguments that were checked are in the form of their types. -/
theorem fieldsConform_of_argumentValues {specs : List InputSpec} {args : List Argument} {pos : Nat}
    {values : Named Json}
    (h : ∀ spec ∈ specs, s.isFlat spec.type = true ∧
      ArgumentChecked s (Usage.Fits s vars) spec args)
    (hv : argumentValues s vars specs args pos = .ok values) : FieldsConform s specs values := by
  induction specs generalizing values with
  | nil =>
    obtain rfl := Except.ok.inj hv
    exact .nil
  | cons spec rest ih =>
    obtain ⟨⟨hflat, hchecked⟩, hrest⟩ := List.forall_mem_cons.1 h
    rw [argumentValues] at hv
    split at hv
    · exact absurd hv (by simp)
    · next v hvalue =>
      split at hv
      · exact absurd hv (by simp)
      · next others hothers =>
        obtain rfl := Except.ok.inj hv
        have hconform := ih hrest hothers
        have hdefault : spec.isRequired = false → v = spec.defaultValue →
            FieldsConform s (spec :: rest) (v.elim others fun a => (spec.name, a) :: others) := by
          rintro hreq rfl
          cases hd : spec.defaultValue with
          | none => exact .absent hreq hconform
          | some d => exact .default hd hconform
        rw [argumentValue_eq] at hvalue
        rw [ArgumentChecked] at hchecked
        split at hvalue
        · split at hvalue
          · exact absurd hvalue (by simp)
          · next hreq => exact hdefault (by simpa using hreq) (Except.ok.inj hvalue).symm
        · next a hsome =>
          rw [hsome] at hchecked
          split at hvalue
          · next habsent =>
            refine hdefault ?_ (Except.ok.inj hvalue).symm
            rw [Bool.and_eq_true, Bool.not_eq_true'] at habsent
            simpa using habsent.2
          · split at hvalue
            · next value hl =>
              obtain rfl := Except.ok.inj hvalue
              exact .given (conforms_of_ofLiteral? hflat hchecked.2 hl).1 hconform
            · split at hvalue <;> exact absurd hvalue (by simp)

/-! ## Variables -/

/-- A written value in which no variable stands. -/
def Literal.Closed (l : Literal) : Prop := ∀ s type hd, literalUsages s type hd l = []

/-- The declaration of a variable passes the rules: its type is known, and its default has no fault
and no variables. -/
structure VariableDefinition.Checked (s : Schema) (v : VariableDefinition) (type : Ty) : Prop where
  resolved : s.resolve? v.type = some type
  closed : ∀ l, v.defaultValue = some l → l.Closed
  faultless : ∀ l, v.defaultValue = some l → s.faultsOfLiteral none type l = []

variable {given : Named Json} {declarations : List VariableDefinition}

/-- The values that variables take, when none of them is wrong. -/
theorem variableValues_ok (h : variableValues s given declarations = .ok vars) :
    (∀ v ∈ declarations, ∃ x, variableValue s given v = .ok x) ∧
    (∀ n a, vars.get? n = some a →
      ∃ v ∈ declarations, v.name.value = n ∧ variableValue s given v = .ok (some a)) ∧
    ∀ v ∈ declarations, ∀ a, variableValue s given v = .ok (some a) →
      vars.get? v.name.value ≠ none := by
  rw [variableValues] at h
  split at h
  · next hall =>
    obtain rfl := Except.ok.inj h
    rw [List.all_map, List.all_eq_true] at hall
    refine ⟨?_, ?_, ?_⟩
    · intro v hv
      have hok := hall v hv
      cases hx : variableValue s given v with
      | ok x => exact ⟨x, rfl⟩
      | error es => exact absurd hok (by simp [hx, Except.isOk, Except.toBool])
    · intro n a hget
      rw [Named.get?, Option.map_eq_some_iff] at hget
      obtain ⟨⟨m, a'⟩, hfind, rfl⟩ := hget
      have hname : m = n := by simpa using List.find?_some hfind
      obtain ⟨x, hmem, hx⟩ := List.mem_filterMap.1 (List.mem_of_find?_eq_some hfind)
      obtain ⟨v, hv, rfl⟩ := List.mem_map.1 hmem
      split at hx
      · next value hvalue =>
        obtain ⟨rfl, rfl⟩ := Prod.mk.inj (Option.some.inj hx)
        exact ⟨v, hv, hname, hvalue⟩
      · exact absurd hx (by simp)
    · intro v hv a ha hnone
      rw [Named.get?, Option.map_eq_none_iff, List.find?_eq_none] at hnone
      refine hnone (v.name.value, a) (List.mem_filterMap.2 ?_) (by simp)
      exact ⟨(v.name.value, variableValue s given v), List.mem_map_of_mem hv, by rw [ha]⟩
  · split at h <;> exact absurd h (by simp)

/-- Where a value of a type can stand in the place of a flat one, the type is flat too. -/
theorem isFlat_of_fits {a b : Ty} (hfits : SelectionContext.fits a b = true)
    (hb : s.isFlat b = true) : s.isFlat a = true := by
  fun_induction SelectionContext.fits a b with
  | case1 a b ih => exact ih hfits hb
  | case2 a b _ ih => exact ih hfits hb
  | case3 => exact absurd hfits (by simp)
  | case4 a b _ => exact absurd hb (by simp [Schema.isFlat, Ty.isPlain])
  | case5 a b =>
    obtain rfl : a = b := by simpa using hfits
    exact hb
  | case6 => exact absurd hfits (by simp)

variable {v : VariableDefinition} {type : Ty} {a : Json}

/-- A variable's value is in the form of its type, and missing only when it was given or written
so. -/
theorem conforms_of_variableValue (hv : v.Checked s type) (hflat : s.isFlat type = true)
    (ha : variableValue s given v = .ok (some a)) :
    Conforms s type a ∧
    (given.get? v.name.value ≠ some .null → (∀ l, v.defaultValue = some l → l.isNull = false) →
      a ≠ .null) := by
  rw [variableValue, hv.resolved] at ha
  simp only at ha
  split at ha
  · next value hgiven =>
    split at ha
    · next b hb =>
      obtain rfl := Option.some.inj (Except.ok.inj ha)
      obtain ⟨hc, hn⟩ := conforms_of_ofValue? hb
      refine ⟨hc, fun hgive _ => hn ?_⟩
      rintro rfl
      exact hgive hgiven
    · exact absurd ha (by simp)
  · split at ha
    · next l hl =>
      have hnone : ∀ u ∈ literalUsages s (some type) false l, u.Fits s [] := by
        rw [hv.closed l hl]
        simp
      obtain ⟨hc, hn⟩ := conforms_of_ofLiteral? hflat hnone (Except.ok.inj ha)
      refine ⟨hc, fun _ hnull => hn ?_ (hnull l hl)⟩
      cases l with
      | var p n =>
        have hclosed := hv.closed _ hl s none false
        exact absurd hclosed (by simp [literalUsages])
      | _ => rfl
    · split at ha <;> exact absurd ha (by simp)

/-- A variable has a value when it was given one, when it has a default, or when it must have. -/
theorem exists_variableValue (hv : v.Checked s type) (hflat : s.isFlat type = true)
    (hok : ∃ x, variableValue s given v = .ok x)
    (hsome : type.isNonNull = true ∨ v.defaultValue.isSome = true) :
    ∃ a, variableValue s given v = .ok (some a) := by
  obtain ⟨x, hx⟩ := hok
  rw [variableValue, hv.resolved] at hx ⊢
  simp only at hx ⊢
  split
  · next value hgiven =>
    rw [hgiven] at hx
    simp only at hx
    split at hx
    · next b hb => exact ⟨b, rfl⟩
    · exact absurd hx (by simp)
  · next hgiven =>
    split
    · next l hl =>
      have hnone : ∀ u ∈ literalUsages s (some type) false l, u.Provided [] := by
        rw [hv.closed l hl]
        simp
      have hpresent : l.isPresent [] = true := by
        cases l with
        | var p n =>
          have hclosed := hv.closed _ hl s none false
          exact absurd hclosed (by simp [literalUsages])
        | _ => rfl
      obtain ⟨b, hb⟩ := exists_ofLiteral? hflat hnone hpresent (hv.faultless l hl)
      exact ⟨b, by rw [hb]⟩
    · next hdefault =>
      rw [hgiven, hdefault] at hx
      rcases hsome with hn | hd
      · simp [hn] at hx
      · exact absurd hd (by simp [hdefault])

namespace Usage

variable {u : Usage} {expected : Ty}

/-- A variable's type fits, or it would fit but for a missing value that a default takes the place
of. -/
theorem allowed_cases (h : SelectionContext.usageAllowed v type u expected = true) :
    SelectionContext.fits type expected = true ∨
    ∃ inner, expected = .nonNull inner ∧ SelectionContext.fits type inner = true ∧
      (u.hasDefault = true ∨ ∃ l, v.defaultValue = some l ∧ l.isNull = false) := by
  cases expected with
  | nonNull inner =>
    simp only [SelectionContext.usageAllowed] at h
    split at h
    · exact Or.inl h
    · rw [Bool.and_eq_true, Bool.or_eq_true] at h
      refine Or.inr ⟨inner, rfl, h.2, h.1.symm.imp_right fun hown => ?_⟩
      cases hd : v.defaultValue with
      | none => exact absurd hown (by simp [hd])
      | some l =>
        refine ⟨l, rfl, ?_⟩
        cases l with
        | null p => exact absurd hown (by simp [hd])
        | _ => rfl
  | _ => exact Or.inl (by simpa only [SelectionContext.usageAllowed] using h)

theorem isFlat_of_allowed (hallowed : SelectionContext.usageAllowed v type u expected = true)
    (hflat : s.isFlat expected = true) : s.isFlat type = true := by
  rcases allowed_cases hallowed with hfits | ⟨inner, rfl, hfits, -⟩
  · exact isFlat_of_fits hfits hflat
  · exact isFlat_of_fits hfits hflat

/-- The value of a variable fits where the rules let the variable stand. -/
theorem fits_of_allowed (hallowed : SelectionContext.usageAllowed v type u expected = true)
    (hflat : s.isFlat expected = true) (hv : v.Checked s type)
    (ha : variableValue s given v = .ok (some a)) : a = .null ∨ Conforms s expected a := by
  have hc := (conforms_of_variableValue hv (isFlat_of_allowed hallowed hflat) ha).1
  rcases allowed_cases hallowed with hfits | ⟨inner, rfl, hfits, -⟩
  · exact Or.inr (hc.of_fits hfits)
  · by_cases hn : a = .null
    · exact Or.inl hn
    · exact Or.inr (.nonNull (hc.of_fits hfits) hn)

theorem isNonNull_of_fits {inner : Ty}
    (h : SelectionContext.fits type (.nonNull inner) = true) : type.isNonNull = true := by
  cases type with
  | nonNull t => rfl
  | _ => exact absurd h (by simp [SelectionContext.fits])

/-- A variable has a value that is not missing where one is demanded, unless the client gave an
explicit null in the place of a default, or the place has a default of its own. -/
theorem provided_of_allowed (hallowed : SelectionContext.usageAllowed v type u expected = true)
    (hflat : s.isFlat expected = true) (hv : v.Checked s type)
    (hok : ∃ x, variableValue s given v = .ok x)
    (hgiven : v.defaultValue.isSome = true → given.get? v.name.value ≠ some .null)
    (hn : expected.isNonNull = true) (hd : u.hasDefault = false) :
    ∃ a, a ≠ .null ∧ variableValue s given v = .ok (some a) := by
  have htype := isFlat_of_allowed hallowed hflat
  rcases allowed_cases hallowed with hfits | ⟨inner, -, -, hdefault⟩
  · have hnn : type.isNonNull = true := by
      cases expected with
      | nonNull inner => exact isNonNull_of_fits hfits
      | _ => exact absurd hn (by simp [Ty.isNonNull])
    obtain ⟨a, ha⟩ := exists_variableValue hv htype hok (Or.inl hnn)
    refine ⟨a, ?_, ha⟩
    have hc := (conforms_of_variableValue hv htype ha).1
    rintro rfl
    cases hc with
    | null h => exact absurd hnn (by simp [h])
    | nonNull _ hne => exact hne rfl
    | leaf => exact absurd hnn (by simp [Ty.isNonNull])
  · rcases hdefault with hdefault | ⟨l, hl, hnull⟩
    · exact absurd hdefault (by simp [hd])
    · have hsome : v.defaultValue.isSome = true := by rw [hl]; rfl
      obtain ⟨a, ha⟩ := exists_variableValue hv htype hok (Or.inr hsome)
      refine ⟨a, (conforms_of_variableValue hv htype ha).2 (hgiven hsome) ?_, ha⟩
      intro l' hl'
      obtain rfl := Option.some.inj (hl.symm.trans hl')
      exact hnull

end Usage

end BlogGraph.GraphQL
