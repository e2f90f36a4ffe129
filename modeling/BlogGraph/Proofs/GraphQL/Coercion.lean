import BlogGraph.GraphQL.InputValue
import BlogGraph.GraphQL.Validation.Definitions

/-!
# Values in the form of their types

What brings values into form gives values of the type asked for (`Conforms`), and a variable of one
type can stand where another is expected when its type fits.

The arguments of the blog's schema are flat: simple values, or input objects of simple values.  A
written value of a flat type in which no fault is found can be brought into form, as long as the
variables in it have fitting values (`Usage.Fits`) where values are demanded (`Usage.Provided`).

Main statements:

* `conforms_of_coerceValue`, `conforms_of_ofLiteral?`: what comes out has its type;
* `Conforms.of_fits`: a value keeps its form where its type fits;
* `exists_ofLiteral?`: without faults, something comes out.
-/

namespace BlogGraph.GraphQL

/-! ## The form of a type -/

mutual

/-- A value is in the form of a type. A simple value is when bringing it into form leaves it. -/
inductive Conforms (s : Schema) : Ty → Json → Prop where
  | null {t : Ty} (h : t.isNonNull = false) : Conforms s t .null
  | nonNull {t : Ty} {v : Json} (h : Conforms s t v) (hv : v ≠ .null) : Conforms s (.nonNull t) v
  | list {t : Ty} {items : List Json} (h : ∀ v ∈ items, Conforms s t v) :
      Conforms s (.list t) (.list items)
  | leaf {n : String} {spec : TypeSpec} {v : Json} (hn : s.type? n = some spec)
      (hleaf : spec.isLeaf = true) (hv : spec.leafOfValue v = .ok v) : Conforms s (.named n) v
  | object {n : String} {spec : TypeSpec} {fields : List InputSpec} {given : Named Json}
      (hn : s.type? n = some spec) (hbody : spec.body = .input fields)
      (h : FieldsConform s fields given) : Conforms s (.named n) (.object given)

/-- Fields are there in the order of an input object, in the form of their types or as the defaults
that stand for them; only fields that need not be there are missing. -/
inductive FieldsConform (s : Schema) : List InputSpec → Named Json → Prop where
  | nil : FieldsConform s [] []
  | given {f : InputSpec} {rest : List InputSpec} {v : Json} {others : Named Json}
      (h : Conforms s f.type v) (hrest : FieldsConform s rest others) :
      FieldsConform s (f :: rest) ((f.name, v) :: others)
  | default {f : InputSpec} {rest : List InputSpec} {v : Json} {others : Named Json}
      (h : f.defaultValue = some v) (hrest : FieldsConform s rest others) :
      FieldsConform s (f :: rest) ((f.name, v) :: others)
  | absent {f : InputSpec} {rest : List InputSpec} {others : Named Json}
      (h : f.isRequired = false) (hrest : FieldsConform s rest others) :
      FieldsConform s (f :: rest) others

end

variable {s : Schema} {vars : Variables}

/-- A value keeps its form where its type fits. -/
theorem Conforms.of_fits {a b : Ty} {v : Json} (hfits : SelectionContext.fits a b = true)
    (h : Conforms s a v) : Conforms s b v := by
  fun_induction SelectionContext.fits a b generalizing v with
  | case1 a b ih =>
    cases h with
    | null h => exact absurd h (by simp [Ty.isNonNull])
    | nonNull h hv => exact .nonNull (ih hfits h) hv
  | case2 a b _ ih =>
    cases h with
    | null h => exact absurd h (by simp [Ty.isNonNull])
    | nonNull h _ => exact ih hfits h
  | case3 => exact absurd hfits (by simp)
  | case4 a b ih =>
    cases h with
    | null _ => exact .null rfl
    | list h => exact .list fun v hv => ih hfits (h v hv)
  | case5 a b =>
    obtain rfl : a = b := by simpa using hfits
    exact h
  | case6 => exact absurd hfits (by simp)

/-! ## Simple values -/

namespace Scalar

theorem ofValue_idem {x : Scalar} {v a : Json} (h : x.ofValue v = .ok a) :
    x.ofValue a = .ok a := by
  cases x with
  | int =>
    simp only [ofValue] at h
    split at h
    · exact absurd h (by simp)
    · next n _ =>
      split at h
      · next hn =>
        obtain rfl := Except.ok.inj h
        simp [ofValue, wholeNumber?, hn]
      · exact absurd h (by simp)
  | string =>
    cases v <;> simp_all [ofValue]
    subst h
    rfl
  | boolean =>
    cases v <;> simp_all [ofValue]
    subst h
    rfl
  | id =>
    simp only [ofValue] at h
    split at h
    · obtain rfl := Except.ok.inj h
      rfl
    · split at h
      · obtain rfl := Except.ok.inj h
        rfl
      · exact absurd h (by simp)

theorem ofValue_ne_null {x : Scalar} {v : Json} (h : x.ofValue v = .ok .null) : False := by
  have hnull := ofValue_idem h
  cases x <;> simp [ofValue, wholeNumber?] at hnull

theorem ofValue_ofLiteral {x : Scalar} {l : Literal} {a : Json} (h : x.ofLiteral l = .ok a) :
    x.ofValue a = .ok a := by
  cases x with
  | int =>
    cases l <;> simp only [ofLiteral] at h <;> try exact absurd h (by simp)
    split at h
    · next hn =>
      obtain rfl := Except.ok.inj h
      simp [ofValue, wholeNumber?, hn]
    · exact absurd h (by simp)
  | string =>
    cases l <;> simp_all [ofLiteral]
    subst h
    rfl
  | boolean =>
    cases l <;> simp_all [ofLiteral]
    subst h
    rfl
  | id =>
    cases l <;> simp_all [ofLiteral] <;> subst h <;> rfl

end Scalar

theorem enumOfValue_idem {type : String} {values : List String} {v a : Json}
    (h : enumOfValue type values v = .ok a) : enumOfValue type values a = .ok a ∧ a ≠ .null := by
  cases v with
  | text name =>
    simp only [enumOfValue] at h
    split at h
    · next hc =>
      obtain rfl := Except.ok.inj h
      exact ⟨by simp only [enumOfValue, hc, if_true], by simp⟩
    · exact absurd h (by simp)
  | _ => exact absurd h (by simp [enumOfValue])

theorem enumOfValue_enumOfLiteral {type : String} {values : List String} {l : Literal} {a : Json}
    (h : enumOfLiteral type values l = .ok a) :
    enumOfValue type values a = .ok a ∧ a ≠ .null := by
  cases l with
  | enum p name =>
    simp only [enumOfLiteral] at h
    split at h
    · next hc =>
      obtain rfl := Except.ok.inj h
      exact ⟨by simp only [enumOfValue, hc, if_true], by simp⟩
    · exact absurd h (by simp)
  | _ => exact absurd h (by simp [enumOfLiteral])

namespace TypeSpec

variable {t : TypeSpec} {v a : Json} {l : Literal}

theorem body_ne_input (t : TypeSpec) (h : t.isLeaf = true) (fields : List InputSpec) :
    t.body ≠ .input fields := by
  intro hb
  simp [isLeaf, hb] at h

theorem body_ne_object (t : TypeSpec) (h : t.isLeaf = true) (fields : List FieldSpec) :
    t.body ≠ .object fields := by
  intro hb
  simp [isLeaf, hb] at h

/-- A simple value is one of an enum, of a scalar that the schema knows, or of any other. -/
theorem leaf_cases (t : TypeSpec) :
    (∃ values, ∀ v l, t.leafOfValue v = enumOfValue t.name values v ∧
      t.leafOfLiteral l = enumOfLiteral t.name values l) ∨
    (∃ x : Scalar, ∀ v l, t.leafOfValue v = x.ofValue v ∧ t.leafOfLiteral l = x.ofLiteral l) ∨
    ∀ v l, t.leafOfValue v = .ok v ∧ t.leafOfLiteral l = .error l.text := by
  cases hb : t.body with
  | enum values =>
    refine Or.inl ⟨values.map (·.1), fun v l => ?_⟩
    simp only [leafOfValue, leafOfLiteral, hb, and_self]
  | _ =>
    refine Or.inr ?_
    cases hx : Scalar.ofName? t.name with
    | some x =>
      refine Or.inl ⟨x, fun v l => ?_⟩
      simp only [leafOfValue, leafOfLiteral, hb, hx, and_self]
    | none =>
      refine Or.inr fun v l => ?_
      simp only [leafOfValue, leafOfLiteral, hb, hx, and_self]

theorem leafOfValue_idem (h : t.leafOfValue v = .ok a) :
    t.leafOfValue a = .ok a ∧ (v ≠ .null → a ≠ .null) := by
  rcases leaf_cases t with ⟨values, ht⟩ | ⟨x, ht⟩ | ht
  · rw [(ht v (.null 0)).1] at h
    rw [(ht a (.null 0)).1]
    exact ⟨(enumOfValue_idem h).1, fun _ => (enumOfValue_idem h).2⟩
  · rw [(ht v (.null 0)).1] at h
    rw [(ht a (.null 0)).1]
    refine ⟨Scalar.ofValue_idem h, ?_⟩
    rintro - rfl
    exact Scalar.ofValue_ne_null h
  · rw [(ht v (.null 0)).1] at h
    obtain rfl := Except.ok.inj h
    exact ⟨(ht v (.null 0)).1, id⟩

theorem leafOfValue_leafOfLiteral (h : t.leafOfLiteral l = .ok a) :
    t.leafOfValue a = .ok a ∧ a ≠ .null := by
  rcases leaf_cases t with ⟨values, ht⟩ | ⟨x, ht⟩ | ht
  · rw [(ht a l).2] at h
    rw [(ht a l).1]
    exact enumOfValue_enumOfLiteral h
  · rw [(ht a l).2] at h
    rw [(ht a l).1]
    have ha := Scalar.ofValue_ofLiteral h
    refine ⟨ha, ?_⟩
    rintro rfl
    exact Scalar.ofValue_ne_null ha
  · rw [(ht a l).2] at h
    exact absurd h (by simp)

theorem leafOfLiteral_list {p : Nat} {items : List Literal} :
    t.leafOfLiteral (.list p items) ≠ .ok a := by
  rcases leaf_cases t with ⟨values, ht⟩ | ⟨x, ht⟩ | ht <;> rw [(ht a _).2]
  · simp [enumOfLiteral]
  · cases x <;> simp [Scalar.ofLiteral]
  · simp

theorem leafOfLiteral_object {p : Nat} {fields : List (Name × Literal)} :
    t.leafOfLiteral (.object p fields) ≠ .ok a := by
  rcases leaf_cases t with ⟨values, ht⟩ | ⟨x, ht⟩ | ht <;> rw [(ht a _).2]
  · simp [enumOfLiteral]
  · cases x <;> simp [Scalar.ofLiteral]
  · simp

/-- Values of variables do not matter to a simple value. -/
theorem leafOfLiteral_fill (hl : l.isVar = false)
    (h : t.leafOfLiteral (fillVariables [] l) = .ok a) :
    t.leafOfLiteral (fillVariables vars l) = .ok a := by
  cases l with
  | var p n => exact absurd hl (by simp [Literal.isVar])
  | list p items => exact absurd h leafOfLiteral_list
  | object p fields => exact absurd h leafOfLiteral_object
  | _ => simpa only [fillVariables] using h

end TypeSpec

/-! ## What comes out has its type -/

theorem toOption_eq_some_iff {ε α : Type} {e : Except ε α} {a : α} :
    e.toOption = some a ↔ e = .ok a := by
  cases e <;> simp [Except.toOption]

/-- Bringing a data value into form gives a value of the type, and no missing one unless it was
missing before. -/
theorem conforms_of_coerceValue (s : Schema) (fuel : Nat) :
    (∀ t v a, coerceValue s fuel t v = some a → Conforms s t a ∧ (v ≠ .null → a ≠ .null)) ∧
    (∀ t vs as, coerceItems s fuel t vs = some as → ∀ a ∈ as, Conforms s t a) ∧
    (∀ given fields as, coerceFields s fuel given fields = some as →
      FieldsConform s fields as) := by
  induction fuel with
  | zero => exact ⟨by simp [coerceValue], by simp [coerceItems], by simp [coerceFields]⟩
  | succ fuel ih =>
    obtain ⟨ihv, ihi, ihf⟩ := ih
    refine ⟨?_, ?_, ?_⟩
    · intro t v a h
      rw [coerceValue.eq_def] at h
      simp only at h
      split at h
      · exact absurd h (by simp)
      · next t hv =>
        obtain ⟨hc, hn⟩ := ihv t v a h
        exact ⟨.nonNull hc (hn hv), hn⟩
      · next ht =>
        obtain rfl := Option.some.inj h
        refine ⟨.null ?_, id⟩
        cases t with
        | nonNull t => exact absurd rfl (ht t)
        | _ => rfl
      · next t items =>
        obtain ⟨as, has, rfl⟩ := Option.map_eq_some_iff.1 h
        exact ⟨.list (ihi t items as has), by simp⟩
      · next t _ _ =>
        obtain ⟨b, hb, rfl⟩ := Option.map_eq_some_iff.1 h
        exact ⟨.list (by simpa using (ihv t v b hb).1), by simp⟩
      · next n hv =>
        split at h
        · exact absurd h (by simp)
        · next spec hspec =>
          split at h
          · next fields given hbody =>
            split at h
            · obtain ⟨as, has, rfl⟩ := Option.map_eq_some_iff.1 h
              exact ⟨.object hspec hbody (ihf given fields as has), by simp⟩
            · exact absurd h (by simp)
          · exact absurd h (by simp)
          · exact absurd h (by simp)
          · next hinput hobject _ =>
            have hleaf : spec.isLeaf = true := by
              cases hb : spec.body with
              | input fields => exact absurd hb (hinput fields)
              | object fields => exact absurd hb (hobject fields)
              | _ => simp only [TypeSpec.isLeaf, hb]
            obtain ⟨ha, hn⟩ := TypeSpec.leafOfValue_idem (toOption_eq_some_iff.1 h)
            exact ⟨.leaf hspec hleaf ha, hn⟩
    · intro t vs as h
      cases vs with
      | nil =>
        obtain rfl : [] = as := by simpa [coerceItems] using h
        simp
      | cons v rest =>
        simp only [coerceItems] at h
        split at h
        · next a as' ha has =>
          obtain rfl := Option.some.inj h
          exact List.forall_mem_cons.2 ⟨(ihv t v a ha).1, ihi t rest as' has⟩
        · exact absurd h (by simp)
    · intro given fields as h
      cases fields with
      | nil =>
        obtain rfl : [] = as := by simpa [coerceFields] using h
        exact .nil
      | cons f rest =>
        simp only [coerceFields] at h
        split at h
        · exact absurd h (by simp)
        · next others hothers =>
          have hrest := ihf given rest others hothers
          split at h
          · next v _ =>
            obtain ⟨a, ha, rfl⟩ := Option.map_eq_some_iff.1 h
            exact .given (ihv f.type v a ha).1 hrest
          · split at h
            · exact absurd h (by simp)
            · next hreq =>
              obtain rfl := Option.some.inj h
              cases hd : f.defaultValue with
              | none => exact .absent (by simpa using hreq) hrest
              | some d => exact .default hd hrest

theorem conforms_of_ofValue? {t : Ty} {v a : Json} (h : s.ofValue? t v = some a) :
    Conforms s t a ∧ (v ≠ .null → a ≠ .null) :=
  (conforms_of_coerceValue s _).1 t v a h

/-! ## Flat types -/

/-- A type without lists. -/
def Ty.isPlain : Ty → Bool
  | .named _ => true
  | .list _ => false
  | .nonNull t => t.isPlain

namespace Schema

/-- A type of simple values. -/
def isSimple (s : Schema) (t : Ty) : Bool :=
  t.isPlain && ((s.type? t.base).map TypeSpec.isLeaf).getD false

/-- An input object of simple values. Its field types are no deeper than the bound on the nesting
of calls allows for. -/
def hasSimpleFields (s : Schema) (spec : TypeSpec) : Bool :=
  match spec.body with
  | .input fields =>
    decide (fields.map InputSpec.name).Nodup &&
      fields.all fun f => s.isSimple f.type && decide (f.type.depth ≤ 3)
  | _ => false

/-- A type of simple values or of input objects of them. -/
def isFlat (s : Schema) (t : Ty) : Bool :=
  t.isPlain && ((s.type? t.base).map fun spec => spec.isLeaf || s.hasSimpleFields spec).getD false

end Schema

/-- The written missing value. -/
def Literal.isNull : Literal → Bool
  | .null _ => true
  | _ => false

theorem Schema.isSimple_iff {t : Ty} : s.isSimple t = true ↔
    t.isPlain = true ∧ ∃ spec, s.type? t.base = some spec ∧ spec.isLeaf = true := by
  rw [isSimple, Bool.and_eq_true]
  cases s.type? t.base <;> simp

theorem Schema.isFlat_iff {t : Ty} : s.isFlat t = true ↔ t.isPlain = true ∧
    ∃ spec, s.type? t.base = some spec ∧ (spec.isLeaf = true ∨ s.hasSimpleFields spec = true) := by
  rw [isFlat, Bool.and_eq_true]
  cases s.type? t.base <;> simp

theorem Schema.hasSimpleFields_iff {spec : TypeSpec} : s.hasSimpleFields spec = true ↔
    ∃ fields, spec.body = .input fields ∧ (fields.map InputSpec.name).Nodup ∧
      ∀ f ∈ fields, s.isSimple f.type = true ∧ f.type.depth ≤ 3 := by
  rw [hasSimpleFields]
  cases spec.body <;> simp

/-- Apart from the missing value, a type without lists says what the name inside it says. -/
theorem Conforms.of_base {t : Ty} {v : Json} (ht : t.isPlain = true)
    (h : Conforms s (.named t.base) v) (hv : t.isNonNull = true → v ≠ .null) : Conforms s t v := by
  induction t with
  | named n => exact h
  | list t => exact absurd ht (by simp [Ty.isPlain])
  | nonNull t ih => exact .nonNull (ih ht h fun _ => hv rfl) (hv rfl)

/-! ## Bringing written values into form -/

theorem coerceLiteral_var {fuel : Nat} {t : Ty} {p : Nat} {n : Name} :
    coerceLiteral s vars (fuel + 1) t (.var p n) =
      match vars.get? n.value with
      | none => none
      | some .null => if t.isNonNull then none else some .null
      | some v => some v := by
  cases t <;> rfl

theorem coerceLiteral_plain {fuel : Nat} {t : Ty} {l : Literal} (ht : t.isPlain = true)
    (hl : l.isVar = false) (hnull : t.isNonNull = true → l.isNull = false) :
    coerceLiteral s vars (fuel + t.depth) t l =
      coerceLiteral s vars (fuel + 1) (.named t.base) l := by
  induction t with
  | named n => rfl
  | list t => exact absurd ht (by simp [Ty.isPlain])
  | nonNull t ih =>
    have hl' := hnull rfl
    rw [Ty.base, ← ih ht fun _ => hl', Ty.depth, ← Nat.add_assoc]
    cases l with
    | var p n => exact absurd hl (by simp [Literal.isVar])
    | null p => exact absurd hl' (by simp [Literal.isNull])
    | _ => simp only [coerceLiteral]

theorem coerceLiteral_null {fuel : Nat} {t : Ty} {p : Nat} :
    coerceLiteral s vars (fuel + 1) t (.null p) = if t.isNonNull then none else some .null := by
  cases t <;> simp [coerceLiteral, Ty.isNonNull]

theorem coerceLiteral_leaf {fuel : Nat} {n : String} {spec : TypeSpec} {l : Literal}
    (hn : s.type? n = some spec) (hleaf : spec.isLeaf = true) (hl : l.isVar = false)
    (hnull : l.isNull = false) : coerceLiteral s vars (fuel + 1) (.named n) l =
      (spec.leafOfLiteral (fillVariables vars l)).toOption := by
  cases l with
  | var p n => exact absurd hl (by simp [Literal.isVar])
  | null p => exact absurd hnull (by simp [Literal.isNull])
  | _ =>
    simp only [coerceLiteral, hn]
    split
    · exact absurd ‹_› (spec.body_ne_input hleaf _)
    · exact absurd ‹_› (spec.body_ne_input hleaf _)
    · exact absurd ‹_› (spec.body_ne_object hleaf _)
    · rfl

theorem literalFaults_plain {fuel : Nat} {path : List PathKey} {t : Ty} {l : Literal}
    (ht : t.isPlain = true) (hl : l.isVar = false) (hnull : t.isNonNull = true → l.isNull = false) :
    literalFaults s none (fuel + t.depth) path t l =
      literalFaults s none (fuel + 1) path (.named t.base) l := by
  induction t with
  | named n => rfl
  | list t => exact absurd ht (by simp [Ty.isPlain])
  | nonNull t ih =>
    have hl' := hnull rfl
    rw [Ty.base, ← ih ht fun _ => hl', Ty.depth, ← Nat.add_assoc]
    cases l with
    | var p n => exact absurd hl (by simp [Literal.isVar])
    | null p => exact absurd hl' (by simp [Literal.isNull])
    | _ => simp only [literalFaults]

theorem isNull_of_literalFaults {fuel : Nat} {path : List PathKey} {t : Ty} {l : Literal}
    (h : literalFaults s none (fuel + t.depth) path t l = []) (ht : t.isNonNull = true) :
    l.isNull = false := by
  cases t with
  | nonNull t =>
    cases l with
    | null p => exact absurd h (by simp [Ty.depth, ← Nat.add_assoc, literalFaults])
    | _ => rfl
  | _ => exact absurd ht (by simp [Ty.isNonNull])

theorem literalFaults_leaf {fuel : Nat} {path : List PathKey} {n : String} {spec : TypeSpec}
    {l : Literal} (hn : s.type? n = some spec) (hleaf : spec.isLeaf = true) (hl : l.isVar = false)
    (hnull : l.isNull = false) (h : literalFaults s none (fuel + 1) path (.named n) l = []) :
    ∃ a, spec.leafOfLiteral (fillVariables [] l) = .ok a := by
  cases l with
  | var p n => exact absurd hl (by simp [Literal.isVar])
  | null p => exact absurd hnull (by simp [Literal.isNull])
  | _ =>
    simp only [literalFaults, hn, Option.getD_none] at h
    split at h
    · exact absurd ‹_› (spec.body_ne_input hleaf _)
    · exact absurd ‹_› (spec.body_ne_input hleaf _)
    · split at h
      · exact ⟨_, ‹_›⟩
      · exact absurd h (by simp)

/-! ## Variables in written values -/

namespace Usage

/-- The value of a variable, if it has one and it is not missing, fits where the variable stands. -/
def Fits (s : Schema) (vars : Variables) (u : Usage) : Prop :=
  ∀ t v, u.type = some t → vars.get? u.name = some v → v = .null ∨ Conforms s t v

/-- A variable has a value where one is demanded, unless the place falls back on its own. -/
def Provided (vars : Variables) (u : Usage) : Prop :=
  ∀ t, u.type = some t → t.isNonNull = true →
    vars.get? u.name ≠ some .null ∧ (u.hasDefault = false → vars.get? u.name ≠ none)

end Usage

/-- A written variable has a value, or else what is written is no variable. -/
def Literal.isPresent (vars : Variables) : Literal → Bool
  | .var _ n => (vars.get? n.value).isSome
  | _ => true

variable {fuel : Nat} {path : List PathKey} {t : Ty} {l : Literal} {a : Json} {hd : Bool}

theorem conforms_of_var {p : Nat} {n : Name}
    (hu : ∀ u ∈ literalUsages s (some t) hd (.var p n), u.Fits s vars)
    (h : coerceLiteral s vars (fuel + t.depth) t (.var p n) = some a) : Conforms s t a := by
  obtain ⟨d, hd⟩ : ∃ d, fuel + t.depth = d + 1 := by cases t <;> exact ⟨_, rfl⟩
  have hfits := hu _ (List.mem_singleton_self _) t
  rw [hd, coerceLiteral_var] at h
  split at h
  · exact absurd h (by simp)
  · split at h
    · exact absurd h (by simp)
    · next hn =>
      obtain rfl := Option.some.inj h
      exact .null (by simpa using hn)
  · next v hv hget =>
    obtain rfl := Option.some.inj h
    exact (hfits v rfl hget).resolve_left (hv ·)

theorem exists_of_var {p : Nat} {n : Name}
    (hu : ∀ u ∈ literalUsages s (some t) hd (.var p n), u.Provided vars)
    (hl : (Literal.var p n).isPresent vars = true) :
    ∃ a, coerceLiteral s vars (fuel + t.depth) t (.var p n) = some a := by
  obtain ⟨d, hd⟩ : ∃ d, fuel + t.depth = d + 1 := by cases t <;> exact ⟨_, rfl⟩
  have hprovided := hu _ (List.mem_singleton_self _) t rfl
  rw [hd, coerceLiteral_var]
  split
  · next hget => exact absurd hl (by simp [Literal.isPresent, hget])
  · next hget =>
    split
    · next hn => exact absurd hget (hprovided hn).1
    · exact ⟨_, rfl⟩
  · exact ⟨_, rfl⟩

theorem Literal.eq_var_of_isVar (h : l.isVar = true) : ∃ p n, l = .var p n := by
  cases l with
  | var p n => exact ⟨p, n, rfl⟩
  | _ => exact absurd h (by simp [isVar])

theorem Literal.eq_null_of_isNull (h : l.isNull = true) : ∃ p, l = .null p := by
  cases l with
  | null p => exact ⟨p, rfl⟩
  | _ => exact absurd h (by simp [isNull])

/-! ## Written values of flat types -/

/-- For a type without lists it is enough to look at values that are neither variables nor missing,
and at the name inside the type. -/
theorem conforms_of_coerceLiteral_of_base (ht : t.isPlain = true)
    (hu : ∀ u ∈ literalUsages s (some t) hd l, u.Fits s vars)
    (hbase : l.isVar = false → l.isNull = false →
      coerceLiteral s vars (fuel + 1) (.named t.base) l = some a →
      Conforms s (.named t.base) a ∧ a ≠ .null)
    (h : coerceLiteral s vars (fuel + t.depth) t l = some a) : Conforms s t a := by
  cases hvar : l.isVar with
  | true =>
    obtain ⟨p, n, rfl⟩ := l.eq_var_of_isVar hvar
    exact conforms_of_var hu h
  | false =>
    cases hnull : l.isNull with
    | true =>
      obtain ⟨p, rfl⟩ := l.eq_null_of_isNull hnull
      obtain ⟨d, hd⟩ : ∃ d, fuel + t.depth = d + 1 := by cases t <;> exact ⟨_, rfl⟩
      rw [hd, coerceLiteral_null] at h
      split at h
      · exact absurd h (by simp)
      · next hn =>
        obtain rfl := Option.some.inj h
        exact .null (by simpa using hn)
    | false =>
      rw [coerceLiteral_plain ht hvar fun _ => hnull] at h
      obtain ⟨hc, hn⟩ := hbase hvar hnull h
      exact hc.of_base ht fun _ => hn

theorem exists_coerceLiteral_of_base (ht : t.isPlain = true)
    (hu : ∀ u ∈ literalUsages s (some t) hd l, u.Provided vars) (hl : l.isPresent vars = true)
    (h : literalFaults s none (fuel + t.depth) path t l = [])
    (hbase : l.isVar = false → l.isNull = false →
      literalFaults s none (fuel + 1) path (.named t.base) l = [] →
      ∃ a, coerceLiteral s vars (fuel + 1) (.named t.base) l = some a) :
    ∃ a, coerceLiteral s vars (fuel + t.depth) t l = some a := by
  cases hvar : l.isVar with
  | true =>
    obtain ⟨p, n, rfl⟩ := l.eq_var_of_isVar hvar
    exact exists_of_var hu hl
  | false =>
    have hnn : t.isNonNull = true → l.isNull = false := isNull_of_literalFaults h
    rw [coerceLiteral_plain ht hvar hnn]
    rw [literalFaults_plain ht hvar hnn] at h
    cases hnull : l.isNull with
    | true =>
      obtain ⟨p, rfl⟩ := l.eq_null_of_isNull hnull
      exact ⟨.null, by simp [coerceLiteral_null, Ty.isNonNull]⟩
    | false => exact hbase hvar hnull h

theorem conforms_of_coerceLiteral_simple (ht : s.isSimple t = true)
    (hu : ∀ u ∈ literalUsages s (some t) hd l, u.Fits s vars)
    (h : coerceLiteral s vars (fuel + t.depth) t l = some a) : Conforms s t a := by
  obtain ⟨hplain, spec, hn, hleaf⟩ := Schema.isSimple_iff.1 ht
  refine conforms_of_coerceLiteral_of_base hplain hu ?_ h
  intro hvar hnull h
  rw [coerceLiteral_leaf hn hleaf hvar hnull, toOption_eq_some_iff] at h
  obtain ⟨ha, hne⟩ := TypeSpec.leafOfValue_leafOfLiteral h
  exact ⟨.leaf hn hleaf ha, hne⟩

theorem exists_coerceLiteral_simple (ht : s.isSimple t = true)
    (hu : ∀ u ∈ literalUsages s (some t) hd l, u.Provided vars) (hl : l.isPresent vars = true)
    (h : literalFaults s none (fuel + t.depth) path t l = []) :
    ∃ a, coerceLiteral s vars (fuel + t.depth) t l = some a := by
  obtain ⟨hplain, spec, hn, hleaf⟩ := Schema.isSimple_iff.1 ht
  refine exists_coerceLiteral_of_base hplain hu hl h ?_
  intro hvar hnull h
  obtain ⟨a, ha⟩ := literalFaults_leaf hn hleaf hvar hnull h
  refine ⟨a, ?_⟩
  rw [coerceLiteral_leaf hn hleaf hvar hnull, toOption_eq_some_iff]
  exact TypeSpec.leafOfLiteral_fill hvar ha

/-- A variable without a value stands only where none is demanded. -/
theorem not_isRequired_of_absent {f : InputSpec}
    (hu : ∀ u ∈ literalUsages s (some f.type) f.defaultValue.isSome l, u.Provided vars)
    (hl : l.isPresent vars = false) : f.isRequired = false := by
  cases l with
  | var p n =>
    have hprovided := hu _ (List.mem_singleton_self _) f.type rfl
    have hget : vars.get? n.value = none := by simpa [Literal.isPresent] using hl
    rw [InputSpec.isRequired, Bool.and_eq_false_iff]
    by_cases hn : f.type.isNonNull = true
    · refine Or.inr ?_
      cases hd : f.defaultValue with
      | some d => rfl
      | none => exact absurd hget ((hprovided hn).2 (by simp [hd]))
    · exact Or.inl (by simpa using hn)
  | _ => exact absurd hl (by simp [Literal.isPresent])

/-- What is written for a field of an object: the last value under its name. -/
def writtenField? (given : List (Name × Literal)) (name : String) : Option Literal :=
  (given.reverse.find? fun g => g.1.value = name).map (·.2)

variable {given : List (Name × Literal)} {fields : List InputSpec}

theorem coerceLiteralFields_cons {f : InputSpec} {rest : List InputSpec} :
    coerceLiteralFields s vars (fuel + 1) given (f :: rest) =
      match coerceLiteralFields s vars fuel given rest with
      | none => none
      | some others =>
        match (writtenField? given f.name).filter (Literal.isPresent vars) with
        | some l => (coerceLiteral s vars fuel f.type l).map fun a => (f.name, a) :: others
        | none =>
          if f.isRequired then none
          else some (f.defaultValue.elim others fun d => (f.name, d) :: others) := by
  rw [coerceLiteralFields]
  cases coerceLiteralFields s vars fuel given rest with
  | none => rfl
  | some others =>
    rw [writtenField?]
    cases hl : (given.reverse.find? fun g => g.1.value = f.name).map (·.2) with
    | none => rfl
    | some l =>
      cases l with
      | var p n =>
        cases hn : vars.get? n.value <;> simp [Option.filter, Literal.isPresent, hn]
      | _ => simp [Option.filter, Literal.isPresent]

theorem fieldsConform_of_coerceLiteralFields {as : Named Json}
    (hs : ∀ f ∈ fields, s.isSimple f.type = true ∧ f.type.depth ≤ 3)
    (hfuel : fields.length + 3 ≤ fuel)
    (hu : ∀ f ∈ fields, ∀ l, writtenField? given f.name = some l →
      ∀ u ∈ literalUsages s (some f.type) f.defaultValue.isSome l, u.Fits s vars)
    (h : coerceLiteralFields s vars fuel given fields = some as) : FieldsConform s fields as := by
  induction fields generalizing fuel as with
  | nil =>
    obtain rfl : as = [] := by cases fuel <;> simp_all [coerceLiteralFields]
    exact .nil
  | cons f rest ih =>
    obtain ⟨⟨hsimple, hdepth⟩, hsrest⟩ := List.forall_mem_cons.1 hs
    obtain ⟨huf, hurest⟩ := List.forall_mem_cons.1 hu
    rw [List.length_cons] at hfuel
    obtain ⟨fuel, rfl⟩ : ∃ k, fuel = k + 1 := ⟨fuel - 1, by omega⟩
    rw [coerceLiteralFields_cons] at h
    split at h
    · exact absurd h (by simp)
    · next others hothers =>
      have hrest := ih hsrest (by omega) hurest hothers
      split at h
      · next l hl =>
        obtain ⟨a, ha, rfl⟩ := Option.map_eq_some_iff.1 h
        rw [Option.filter_eq_some_iff] at hl
        rw [show fuel = fuel - f.type.depth + f.type.depth by omega] at ha
        exact .given (conforms_of_coerceLiteral_simple hsimple (huf l hl.1) ha) hrest
      · split at h
        · exact absurd h (by simp)
        · next hreq =>
          obtain rfl := Option.some.inj h
          cases hd : f.defaultValue with
          | none => exact .absent (by simpa using hreq) hrest
          | some d => exact .default hd hrest

theorem exists_coerceLiteralFields {type : String} {whole : Literal}
    (hs : ∀ f ∈ fields, s.isSimple f.type = true ∧ f.type.depth ≤ 3)
    (hfuel : fields.length + 3 ≤ fuel)
    (hu : ∀ f ∈ fields, ∀ l, writtenField? given f.name = some l →
      ∀ u ∈ literalUsages s (some f.type) f.defaultValue.isSome l, u.Provided vars)
    (h : literalFieldFaults s none fuel path type whole given fields = []) :
    ∃ as, coerceLiteralFields s vars fuel given fields = some as := by
  induction fields generalizing fuel with
  | nil => exact ⟨[], by cases fuel <;> simp_all [coerceLiteralFields]⟩
  | cons f rest ih =>
    obtain ⟨⟨hsimple, hdepth⟩, hsrest⟩ := List.forall_mem_cons.1 hs
    obtain ⟨huf, hurest⟩ := List.forall_mem_cons.1 hu
    rw [List.length_cons] at hfuel
    obtain ⟨fuel, rfl⟩ : ∃ k, fuel = k + 1 := ⟨fuel - 1, by omega⟩
    simp only [literalFieldFaults, List.append_eq_nil_iff] at h
    obtain ⟨hhere, hfaults⟩ := h
    obtain ⟨others, hothers⟩ := ih hsrest (by omega) hurest hfaults
    rw [coerceLiteralFields_cons, hothers]
    simp only
    split
    · next l hl =>
      rw [Option.filter_eq_some_iff] at hl
      rw [← writtenField?, hl.1] at hhere
      simp only [Bool.false_eq_true, if_false] at hhere
      rw [show fuel = fuel - f.type.depth + f.type.depth by omega] at hhere ⊢
      obtain ⟨a, ha⟩ := exists_coerceLiteral_simple hsimple (huf l hl.1) hl.2 hhere
      exact ⟨_, by rw [ha]; rfl⟩
    · next hl =>
      have hreq : f.isRequired = false := by
        rw [Option.filter_eq_none_iff] at hl
        cases hw : writtenField? given f.name with
        | none =>
          rw [← writtenField?, hw] at hhere
          simpa using hhere
        | some l => exact not_isRequired_of_absent (huf l hw) (by simpa using hl l hw)
      rw [hreq]
      exact ⟨_, rfl⟩

theorem mem_of_writtenField? {name : String} (h : writtenField? given name = some l) :
    ∃ n : Name, (n, l) ∈ given ∧ n.value = name := by
  obtain ⟨⟨n, l'⟩, hfind, rfl⟩ := Option.map_eq_some_iff.1 h
  refine ⟨n, List.mem_reverse.1 (List.mem_of_find?_eq_some hfind), ?_⟩
  simpa using List.find?_some hfind

theorem find?_of_mem {f : InputSpec} (hf : f ∈ fields)
    (hnodup : (fields.map InputSpec.name).Nodup) :
    fields.find? (fun i => i.name = f.name) = some f := by
  induction fields with
  | nil => exact absurd hf (by simp)
  | cons g rest ih =>
    rw [List.map_cons, List.nodup_cons] at hnodup
    rcases List.mem_cons.1 hf with rfl | hf
    · simp
    · have hne : g.name ≠ f.name := by
        intro hname
        exact hnodup.1 (hname ▸ List.mem_map_of_mem hf)
      rw [List.find?_cons_of_neg (by simpa using hne)]
      exact ih hf hnodup.2

/-- The uses of variables inside a field of a written object are uses inside the object. -/
theorem literalUsages_of_field {spec : TypeSpec} (hn : s.type? t.base = some spec)
    (hbody : spec.body = .input fields) (hnodup : (fields.map InputSpec.name).Nodup)
    {f : InputSpec} (hf : f ∈ fields) (hl : writtenField? given f.name = some l) :
    ∀ u ∈ literalUsages s (some f.type) f.defaultValue.isSome l,
      u ∈ fieldUsages s (some t) given := by
  obtain ⟨n, hmem, hname⟩ := mem_of_writtenField? hl
  have hfind : (spec.inputFields.find? fun i => i.name = n.value) = some f := by
    rw [TypeSpec.inputFields, hbody, hname]
    exact find?_of_mem hf hnodup
  clear hl
  intro u hu
  induction given with
  | nil => exact absurd hmem (by simp)
  | cons g rest ih =>
    obtain ⟨m, k⟩ := g
    rw [fieldUsages, List.mem_append]
    rcases List.mem_cons.1 hmem with heq | hmem
    · obtain ⟨rfl, rfl⟩ := Prod.mk.inj heq
      refine Or.inl ?_
      simpa [hn, hfind] using hu
    · exact Or.inr (ih hmem)

theorem le_foldl_add (ns : List Nat) (start : Nat) :
    start ≤ ns.foldl (· + ·) start ∧ ∀ n ∈ ns, n ≤ ns.foldl (· + ·) start := by
  induction ns generalizing start with
  | nil => exact ⟨Nat.le_refl _, by simp⟩
  | cons m rest ih =>
    obtain ⟨hstart, hmem⟩ := ih (start + m)
    refine ⟨Nat.le_trans (Nat.le_add_right start m) hstart, List.forall_mem_cons.2 ⟨?_, hmem⟩⟩
    exact Nat.le_trans (Nat.le_add_left m start) hstart

/-- The bound on the nesting of calls is above what the fields of an input object take. -/
theorem length_le_bound {n : String} {spec : TypeSpec} (hn : s.type? n = some spec)
    (hbody : spec.body = .input fields) (size : Nat) :
    fields.length + 3 ≤ (size + 1) * (s.inputCount + 4) := by
  have hmem : fields.length ∈ s.types.map fun t => t.inputFields.length := by
    refine List.mem_map.2 ⟨spec, List.mem_of_find?_eq_some hn, ?_⟩
    rw [TypeSpec.inputFields, hbody]
  have hcount : fields.length ≤ s.inputCount := (le_foldl_add _ 0).2 _ hmem
  have hbound : s.inputCount + 4 ≤ (size + 1) * (s.inputCount + 4) :=
    Nat.le_mul_of_pos_left _ (Nat.succ_pos size)
  omega

theorem coerceLiteral_object {n : String} {spec : TypeSpec} (hn : s.type? n = some spec)
    (hbody : spec.body = .input fields) (hvar : l.isVar = false) (hnull : l.isNull = false) :
    coerceLiteral s vars (fuel + 1) (.named n) l =
      match l with
      | .object _ given =>
        if given.all fun g => fields.any fun f => f.name = g.1.value then
          (coerceLiteralFields s vars fuel given fields).map .object
        else none
      | _ => none := by
  cases l with
  | var p n => exact absurd hvar (by simp [Literal.isVar])
  | null p => exact absurd hnull (by simp [Literal.isNull])
  | _ => simp only [coerceLiteral, hn, hbody]

/-- A written value of a flat type comes out in the form of the type, and missing only when it was
written so. -/
theorem conforms_of_ofLiteral? (ht : s.isFlat t = true)
    (hu : ∀ u ∈ literalUsages s (some t) hd l, u.Fits s vars)
    (h : s.ofLiteral? vars t l = some a) :
    Conforms s t a ∧ (l.isVar = false → l.isNull = false → a ≠ .null) := by
  obtain ⟨hplain, spec, hn, hspec⟩ := Schema.isFlat_iff.1 ht
  rw [Schema.ofLiteral?, Schema.coercionBound, Nat.add_comm] at h
  have hbase : l.isVar = false → l.isNull = false →
      coerceLiteral s vars ((literalSize l + 1) * (s.inputCount + 4) + 1) (.named t.base) l =
        some a → Conforms s (.named t.base) a ∧ a ≠ .null := by
    intro hvar hnull h
    rcases hspec with hleaf | hsimple
    · rw [coerceLiteral_leaf hn hleaf hvar hnull, toOption_eq_some_iff] at h
      obtain ⟨ha, hne⟩ := TypeSpec.leafOfValue_leafOfLiteral h
      exact ⟨.leaf hn hleaf ha, hne⟩
    · obtain ⟨fields, hbody, hnodup, hfields⟩ := Schema.hasSimpleFields_iff.1 hsimple
      rw [coerceLiteral_object hn hbody hvar hnull] at h
      split at h
      · next p given =>
        split at h
        · obtain ⟨as, has, rfl⟩ := Option.map_eq_some_iff.1 h
          refine ⟨.object hn hbody (fieldsConform_of_coerceLiteralFields hfields
            (length_le_bound hn hbody _) ?_ has), by simp⟩
          exact fun f hf l hl u hu' => hu u (literalUsages_of_field hn hbody hnodup hf hl u hu')
        · exact absurd h (by simp)
      · exact absurd h (by simp)
  refine ⟨conforms_of_coerceLiteral_of_base hplain hu hbase h, fun hvar hnull => ?_⟩
  rw [coerceLiteral_plain hplain hvar fun _ => hnull] at h
  exact (hbase hvar hnull h).2

/-- **No fault, some value.**  A written value of a flat type in which no fault is found comes out,
when its variables have values where they are demanded. -/
theorem exists_ofLiteral? (ht : s.isFlat t = true)
    (hu : ∀ u ∈ literalUsages s (some t) hd l, u.Provided vars) (hl : l.isPresent vars = true)
    (h : s.faultsOfLiteral none t l = []) : ∃ a, s.ofLiteral? vars t l = some a := by
  obtain ⟨hplain, spec, hn, hspec⟩ := Schema.isFlat_iff.1 ht
  rw [Schema.faultsOfLiteral, Schema.coercionBound, Nat.add_comm] at h
  rw [Schema.ofLiteral?, Schema.coercionBound, Nat.add_comm]
  refine exists_coerceLiteral_of_base hplain hu hl h ?_
  intro hvar hnull h
  rcases hspec with hleaf | hsimple
  · obtain ⟨a, ha⟩ := literalFaults_leaf hn hleaf hvar hnull h
    refine ⟨a, ?_⟩
    rw [coerceLiteral_leaf hn hleaf hvar hnull, toOption_eq_some_iff]
    exact TypeSpec.leafOfLiteral_fill hvar ha
  · obtain ⟨fields, hbody, hnodup, hfields⟩ := Schema.hasSimpleFields_iff.1 hsimple
    rw [coerceLiteral_object hn hbody hvar hnull]
    cases l with
    | object p given =>
      simp only [literalFaults, hn, hbody, List.append_eq_nil_iff, List.map_eq_nil_iff] at h
      obtain ⟨hfaults, hknown⟩ := h
      have hfields' : ∃ as, coerceLiteralFields s vars _ given fields = some as :=
        exists_coerceLiteralFields hfields (length_le_bound hn hbody _)
          (fun f hf l hl u hu' => hu u (literalUsages_of_field hn hbody hnodup hf hl u hu')) hfaults
      obtain ⟨as, has⟩ := hfields'
      have hall : (given.all fun g => fields.any fun f => f.name = g.1.value) = true := by
        simpa [List.filter_eq_nil_iff] using hknown
      exact ⟨.object as, by simp only [hall, if_true, has, Option.map_some]⟩
    | var p n => exact absurd hvar (by simp [Literal.isVar])
    | null p => exact absurd hnull (by simp [Literal.isNull])
    | _ => exact absurd h (by simp [literalFaults, hn, hbody])

end BlogGraph.GraphQL
