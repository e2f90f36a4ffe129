import BlogGraph.Proofs.GraphQL.Collected
import BlogGraph.Proofs.GraphQL.Parsed

/-!
# Uses of variables in valid documents

Every use of a variable in an operation of a valid document is of one that the operation declares,
at a place where the rules allow it.  So the values of variables fit wherever they are used, and
they are there where they are demanded, unless the client took them away by an explicit null.

Main statements:

* `Document.fits_of_validate`: variables fit where they are used;
* `Document.provided_of_validate`: variables have values where these are demanded.
-/

namespace BlogGraph.GraphQL

variable {s : Schema}

/-! ## Places where variables stand -/

/-- What is so of a place, given the type expected there and whether it has a default, is so of the
places inside: of the items of a list, and of the fields of an object. -/
structure Schema.Closes (s : Schema) (W : Option Ty → Bool → Prop) : Prop where
  none : W none false
  item : ∀ t hd, W (some t) hd → W (some t.nullable) false
  items : ∀ t inner hd, t.nullable = .list inner → W (some t) hd → W (some inner) false
  field : ∀ t hd, W (some t) hd → ∀ spec, s.type? t.base = some spec →
    ∀ f ∈ spec.inputFields, W (some f.type) f.defaultValue.isSome

variable {W : Option Ty → Bool → Prop}

mutual

theorem forall_literalUsages (hW : s.Closes W) : ∀ (l : Literal) (type : Option Ty) (hd : Bool),
    W type hd → ∀ u ∈ literalUsages s type hd l, W u.type u.hasDefault
  | .var p n, type, hd, h => by simpa [literalUsages] using h
  | .list p items, type, hd, h => by
    rw [literalUsages]
    refine forall_itemUsages hW items _ ?_
    cases type with
    | none => exact hW.none
    | some t =>
      simp only [Option.map_some]
      split
      · next inner hinner => exact hW.items t inner hd (Option.some.inj hinner) h
      · exact hW.item t hd h
  | .object p fields, type, hd, h => by
    rw [literalUsages]
    exact forall_fieldUsages hW fields type hd h
  | .int _ _, _, _, _ => by simp [literalUsages]
  | .float _ _, _, _, _ => by simp [literalUsages]
  | .string _ _ _, _, _, _ => by simp [literalUsages]
  | .boolean _ _, _, _, _ => by simp [literalUsages]
  | .null _, _, _, _ => by simp [literalUsages]
  | .enum _ _, _, _, _ => by simp [literalUsages]

theorem forall_itemUsages (hW : s.Closes W) : ∀ (items : List Literal) (type : Option Ty),
    W type false → ∀ u ∈ itemUsages s type items, W u.type u.hasDefault
  | [], _, _ => by simp [itemUsages]
  | l :: rest, type, h => by
    rw [itemUsages]
    intro u hu
    rcases List.mem_append.1 hu with hu | hu
    · exact forall_literalUsages hW l type false h u hu
    · exact forall_itemUsages hW rest type h u hu

theorem forall_fieldUsages (hW : s.Closes W) : ∀ (fields : List (Name × Literal))
    (type : Option Ty) (hd : Bool), W type hd →
    ∀ u ∈ fieldUsages s type fields, W u.type u.hasDefault
  | [], _, _, _ => by simp [fieldUsages]
  | (n, l) :: rest, type, hd, h => by
    rw [fieldUsages]
    intro u hu
    rcases List.mem_append.1 hu with hu | hu
    · refine forall_literalUsages hW l _ _ ?_ u hu
      cases type with
      | none => exact hW.none
      | some t =>
        cases hspec : s.type? t.base with
        | none => simpa [hspec] using hW.none
        | some spec =>
          cases hfind : spec.inputFields.find? fun f => f.name = n.value with
          | none => simpa [hspec, hfind] using hW.none
          | some f => simpa [hspec, hfind] using
              hW.field t hd h spec hspec f (List.mem_of_find?_eq_some hfind)
    · exact forall_fieldUsages hW rest type hd h u hu

end

theorem forall_argumentUsages (hW : s.Closes W) {specs : List InputSpec}
    (hspecs : ∀ i ∈ specs, W (some i.type) i.defaultValue.isSome) (args : List Argument) :
    ∀ u ∈ argumentUsages s specs args, W u.type u.hasDefault := by
  intro u hu
  obtain ⟨a, -, ha⟩ := List.mem_flatMap.1 hu
  refine forall_literalUsages hW a.value _ _ ?_ u ha
  cases hfind : specs.find? fun i => i.name = a.name.value with
  | none => exact hW.none
  | some i => exact hspecs i (List.mem_of_find?_eq_some hfind)

/-! ## Flat places -/

/-- The type expected at a place is flat, if there is one. -/
def FlatPlace (s : Schema) : Option Ty → Bool → Prop
  | some t, _ => s.isFlat t = true
  | none, _ => True

theorem closes_flatPlace (s : Schema) : s.Closes (FlatPlace s) where
  none := trivial
  item := by
    intro t hd h
    cases t <;> exact h
  items := by
    intro t inner hd hinner h
    have hflat := (Schema.isFlat_iff.1 h).1
    cases t with
    | named n => exact absurd hinner (by simp [Ty.nullable])
    | list t => exact absurd hflat (by simp [Ty.isPlain])
    | nonNull t =>
      simp only [Ty.nullable] at hinner
      rw [hinner] at hflat
      exact absurd hflat (by simp [Ty.isPlain])
  field := by
    intro t hd h spec hspec f hf
    obtain ⟨-, spec', hspec', hbody⟩ := Schema.isFlat_iff.1 h
    obtain rfl := Option.some.inj (hspec.symm.trans hspec')
    rcases hbody with hleaf | hsimple
    · rw [TypeSpec.inputFields] at hf
      split at hf
      · next fields hb => exact absurd hb (TypeSpec.body_ne_input spec hleaf fields)
      · exact absurd hf (by simp)
    · obtain ⟨fields, hb, -, hall⟩ := Schema.hasSimpleFields_iff.1 hsimple
      rw [TypeSpec.inputFields, hb] at hf
      obtain ⟨hplain, spec', hspec', hleaf⟩ := Schema.isSimple_iff.1 (hall f hf).1
      exact Schema.isFlat_iff.2 ⟨hplain, spec', hspec', Or.inl hleaf⟩

theorem flat_of_directiveUsages (hs : s.Regular) {field : Option FieldSpec}
    (hfield : ∀ f, field = some f → f ∈ s.fieldSpecs) (ds : List Directive) :
    ∀ u ∈ directiveUsages s field ds, FlatPlace s u.type u.hasDefault := by
  intro u hu
  obtain ⟨d, -, hd⟩ := List.mem_flatMap.1 hu
  refine forall_argumentUsages (closes_flatPlace s) ?_ d.arguments u hd
  intro i hi
  simp only [directiveArguments] at hi
  split at hi
  · next spec hspec => exact hs.directiveFlat spec (List.mem_of_find?_eq_some hspec) i hi
  · next f _ => exact hs.flat f (hfield f rfl) i hi
  · exact absurd hi (by simp)

theorem mem_fieldSpecs_of_parent {parent : Option String} {n : String} (f : FieldSpec)
    (h : (parent.bind fun p => s.selectedField? p n) = some f) : f ∈ s.fieldSpecs := by
  obtain ⟨p, -, hp⟩ := Option.bind_eq_some_iff.1 h
  exact (Schema.mem_fieldSpecs_of_selectedField? hp).1

mutual

theorem flat_of_usages (hs : s.Regular) : ∀ (x : Selection) (around : Option FieldSpec)
    (parent : Option String), (∀ f, around = some f → f ∈ s.fieldSpecs) →
    ∀ u ∈ x.usages s around parent, FlatPlace s u.type u.hasDefault
  | .field responseName n args ds brace selections, around, parent, haround => by
    rw [Selection.usages]
    intro u hu
    rcases List.mem_append.1 hu with hu | hu
    · rcases List.mem_append.1 hu with hu | hu
      · refine forall_argumentUsages (closes_flatPlace s) ?_ args u hu
        intro i hi
        cases hspec : parent.bind fun p => s.selectedField? p n.value with
        | none => exact absurd hi (by simp [hspec])
        | some f =>
          rw [hspec] at hi
          exact hs.flat f (mem_fieldSpecs_of_parent f hspec) i hi
      · exact flat_of_directiveUsages hs mem_fieldSpecs_of_parent ds u hu
    · exact flat_of_selectionUsages hs selections _ _ mem_fieldSpecs_of_parent u hu
  | .spread pos n ds, around, parent, haround => by
    rw [Selection.usages]
    exact flat_of_directiveUsages hs haround ds
  | .inline pos condition ds brace selections, around, parent, haround => by
    rw [Selection.usages]
    intro u hu
    rcases List.mem_append.1 hu with hu | hu
    · exact flat_of_directiveUsages hs haround ds u hu
    · exact flat_of_selectionUsages hs selections _ _ haround u hu

theorem flat_of_selectionUsages (hs : s.Regular) : ∀ (xs : List Selection)
    (around : Option FieldSpec) (parent : Option String),
    (∀ f, around = some f → f ∈ s.fieldSpecs) →
    ∀ u ∈ selectionUsages s around parent xs, FlatPlace s u.type u.hasDefault
  | [], _, _, _ => by simp [selectionUsages]
  | x :: rest, around, parent, haround => by
    rw [selectionUsages]
    intro u hu
    rcases List.mem_append.1 hu with hu | hu
    · exact flat_of_usages hs x around parent haround u hu
    · exact flat_of_selectionUsages hs rest around parent haround u hu

end

/-! ## Declarations -/

/-- Names without duplicates tell declarations apart. -/
theorem eq_of_duplicateNames {vs : List VariableDefinition}
    (h : duplicateNames (vs.map (·.name)) = []) {v v' : VariableDefinition} (hv : v ∈ vs)
    (hv' : v' ∈ vs) (hname : v.name.value = v'.name.value) : v = v' := by
  have hmem : v.name.value ∈ ((vs.map (·.name)).map (·.value)).eraseDups :=
    List.mem_eraseDups.2 (List.mem_map_of_mem (List.mem_map_of_mem hv))
  have hsingle := List.filterMap_eq_nil_iff.1 h _ hmem
  split at hsingle
  · next n hfilter =>
    rw [List.filter_map] at hfilter
    obtain ⟨w, hw, -⟩ := List.map_eq_singleton_iff.1 hfilter
    have hall : ∀ x ∈ vs, x.name.value = v.name.value → x = w := by
      intro x hx hxname
      have hxmem : x ∈ vs.filter ((fun n : Name => n.value = v.name.value) ∘ (·.name)) :=
        List.mem_filter.2 ⟨hx, by simpa using hxname⟩
      rw [hw] at hxmem
      exact List.mem_singleton.1 hxmem
    rw [hall v hv rfl, hall v' hv' hname.symm]
  · exact absurd hsingle (by simp)

theorem resolve?_of_base {t : TypeRef} {spec : TypeSpec} (h : s.type? t.base.value = some spec) :
    ∃ type, s.resolve? t = some type := by
  induction t with
  | named n =>
    rw [TypeRef.base] at h
    exact ⟨.named n.value, by simp [Schema.resolve?, h]⟩
  | list p t ih =>
    obtain ⟨type, htype⟩ := ih h
    exact ⟨.list type, by simp [Schema.resolve?, htype]⟩
  | nonNull p t ih =>
    obtain ⟨type, htype⟩ := ih h
    exact ⟨.nonNull type, by simp [Schema.resolve?, htype]⟩

/-- The declaration of a variable without errors is checked. -/
theorem checked_of_declarationErrors {c : SelectionContext} (hc : c.Closed)
    {v : VariableDefinition} (hclosed : ∀ l, v.defaultValue = some l → l.Closed)
    (h : c.declarationErrors v = []) : ∃ type, v.Checked c.schema type := by
  simp only [SelectionContext.declarationErrors, List.append_eq_nil_iff] at h
  obtain ⟨⟨⟨⟨hinput, -⟩, htype⟩, hvalue⟩, -⟩ := h
  rw [SelectionContext.typeErrors, hc.defined] at htype
  obtain ⟨spec, hspec⟩ := exists_type?_of_unknownType htype
  obtain ⟨type, hresolve⟩ := resolve?_of_base hspec
  refine ⟨type, hresolve, hclosed, fun l hl => ?_⟩
  rw [hresolve] at hinput hvalue
  rw [hl] at hvalue
  simp only at hinput hvalue
  split at hinput
  · next hin =>
    rw [Option.filter_some_pos (by exact hin)] at hvalue
    exact faultsOfLiteral_of_valueErrors hvalue
  · exact absurd hinput (by simp)

/-! ## Valid operations -/

/-- No variable that has a default is given an explicit null. -/
def Operation.DefaultsKept (o : Operation) (given : Named Json) : Prop :=
  ∀ v ∈ o.declarations, v.defaultValue.isSome = true → given.get? v.name.value ≠ some .null

/-- No variable has the missing value where a place that demands a value has a default. -/
def PlacesKept (usages : List Usage) (vars : Variables) : Prop :=
  ∀ u ∈ usages, u.hasDefault = true → ∀ t ∈ u.type, t.isNonNull = true →
    vars.get? u.name ≠ some .null

instance : ∀ v : Option Json, Decidable (v = some .null)
  | some .null => isTrue rfl
  | none => isFalse (by simp)
  | some (.bool _) | some (.int _) | some (.float _) | some (.text _) | some (.list _)
  | some (.object _) => isFalse (by simp)

instance (o : Operation) (given : Named Json) : Decidable (o.DefaultsKept given) :=
  inferInstanceAs (Decidable (∀ v ∈ o.declarations, v.defaultValue.isSome = true →
    ¬ given.get? v.name.value = some .null))

instance (usages : List Usage) (vars : Variables) : Decidable (PlacesKept usages vars) :=
  inferInstanceAs (Decidable (∀ u ∈ usages, u.hasDefault = true → ∀ t ∈ u.type,
    t.isNonNull = true → ¬ vars.get? u.name = some .null))

/-- What the rules find no error in when they find none in an operation. -/
structure SelectionContext.Passes (c : SelectionContext) (o : Operation) : Prop where
  root : (c.schema.rootType? o.kind).isSome = true
  names : c.variableErrors o = []
  declarations : ∀ v ∈ o.declarations, c.declarationErrors v = []
  directives : c.directiveErrors o.kind.word.toUpper none none o.directives = []
  selections : c.allSelectionErrors none (c.schema.rootType? o.kind) o.selections = []
  usages : c.usageErrors o = []

namespace Document

variable {d : Document} {o : Operation} {given : Named Json} {vars : Variables} {u : Usage}

theorem flat_of_operation (hs : s.Regular) (hu : u ∈ (d.context s).usages o) :
    FlatPlace s u.type u.hasDefault := by
  rcases List.mem_append.1 hu with hu | hu
  · rcases List.mem_append.1 hu with hu | hu
    · exact flat_of_directiveUsages hs (by simp) _ u hu
    · exact flat_of_selectionUsages hs _ _ _ (by simp) u hu
  · obtain ⟨f, -, hf⟩ := List.mem_flatMap.1 hu
    rcases List.mem_append.1 hf with hu | hu
    · exact flat_of_directiveUsages hs (by simp) _ u hu
    · exact flat_of_selectionUsages hs _ _ _ (by simp) u hu

variable (hs : s.Regular) (h : d.validate s = []) (hread : d.WellRead) (ho : o ∈ d.operations)

include h ho in
theorem passes_of_validate : (d.context s).Passes o := by
  obtain ⟨earlier, herrors⟩ := operation_of_validate h ho
  simp only [SelectionContext.operationErrors, List.append_eq_nil_iff] at herrors
  obtain ⟨⟨⟨⟨⟨⟨⟨⟨⟨hroot, -⟩, -⟩, hvariables⟩, -⟩, hdeclarations⟩, hdirectives⟩, -⟩, hselections⟩,
    husages⟩ := herrors
  refine ⟨?_, hvariables, List.flatMap_eq_nil_iff.1 hdeclarations, hdirectives, hselections,
    husages⟩
  split at hroot
  · assumption
  · exact absurd hroot (by simp)

include h ho in
/-- An operation of a valid document declares each variable once. -/
theorem declarations_unique {v v' : VariableDefinition} (hv : v ∈ o.declarations)
    (hv' : v' ∈ o.declarations) (hname : v.name.value = v'.name.value) : v = v' := by
  have herrors := (passes_of_validate h ho).names
  simp only [SelectionContext.variableErrors, List.append_eq_nil_iff,
    List.map_eq_nil_iff] at herrors
  exact eq_of_duplicateNames herrors.1.1 hv hv' hname

include hs h hread ho in
/-- A variable that is used is declared, and its type allows the use. -/
theorem declared_of_validate (hu : u ∈ (d.context s).usages o) :
    ∃ v ∈ o.declarations, v.name.value = u.name ∧ ∃ type, v.Checked s type ∧
      ∀ t, u.type = some t → SelectionContext.usageAllowed v type u t = true := by
  have hpasses := passes_of_validate h ho
  have hundeclared := hpasses.names
  simp only [SelectionContext.variableErrors, List.append_eq_nil_iff, List.map_eq_nil_iff,
    List.filter_eq_nil_iff] at hundeclared
  have hany : (o.declarations.any fun v => v.name.value = u.name) = true := by
    simpa using hundeclared.1.2 u hu
  cases hfind : o.declarations.reverse.find? fun v => v.name.value = u.name with
  | none =>
    obtain ⟨v, hv, hname⟩ := List.any_eq_true.1 hany
    exact absurd hname (List.find?_eq_none.1 hfind v (List.mem_reverse.2 hv))
  | some v =>
    have hv : v ∈ o.declarations := List.mem_reverse.1 (List.mem_of_find?_eq_some hfind)
    have hname : v.name.value = u.name := by simpa using List.find?_some hfind
    obtain ⟨type, htype⟩ := checked_of_declarationErrors (closed_of_validate hs h)
      (hread.defaults o ho v hv) (hpasses.declarations v hv)
    refine ⟨v, hv, hname, type, htype, fun t ht => ?_⟩
    have hallowed := List.filterMap_eq_nil_iff.1 hpasses.usages u hu
    have hresolved : (d.context s).schema.resolve? v.type = some type := htype.resolved
    simp only [hfind, ht, hresolved, Option.bind_eq_bind, Option.bind_some] at hallowed
    split at hallowed
    · assumption
    · exact absurd hallowed (by simp)

variable (hvars : variableValues s given o.declarations = .ok vars)

include hs h hread ho hvars

/-- **The values of variables fit where the variables are used.** -/
theorem fits_of_validate : ∀ u ∈ (d.context s).usages o, u.Fits s vars := by
  intro u hu t a ht ha
  obtain ⟨v, hv, hname, type, htype, hallowed⟩ := declared_of_validate hs h hread ho hu
  have hflat : FlatPlace s u.type u.hasDefault := flat_of_operation hs hu
  rw [ht] at hflat
  obtain ⟨w, hw, hwname, hvalue⟩ := (variableValues_ok hvars).2.1 u.name a ha
  obtain rfl := declarations_unique h ho hv hw (hname.trans hwname.symm)
  exact Usage.fits_of_allowed (hallowed t ht) hflat htype hvalue

/-- **Variables have values where these are demanded**, as long as the client takes away no default
by an explicit null, and no variable without a value stands in the way of a place's own default. -/
theorem provided_of_validate (hdefaults : o.DefaultsKept given)
    (hplaces : PlacesKept ((d.context s).usages o) vars) :
    ∀ u ∈ (d.context s).usages o, u.Provided vars := by
  intro u hu t ht hn
  obtain ⟨v, hv, hname, type, htype, hallowed⟩ := declared_of_validate hs h hread ho hu
  have hflat : FlatPlace s u.type u.hasDefault := flat_of_operation hs hu
  rw [ht] at hflat
  obtain ⟨hok, hget, hsome⟩ := variableValues_ok hvars
  cases hd : u.hasDefault with
  | true => exact ⟨hplaces u hu hd t ht hn, by simp⟩
  | false =>
    obtain ⟨a, hne, ha⟩ := Usage.provided_of_allowed (hallowed t ht) hflat htype (hok v hv)
      (hdefaults v hv) hn hd
    refine ⟨fun hnull => ?_, fun _ => hname ▸ hsome v hv a ha⟩
    obtain ⟨w, hw, hwname, hvalue⟩ := hget u.name .null hnull
    obtain rfl := declarations_unique h ho hv hw (hname.trans hwname.symm)
    exact hne (Option.some.inj (Except.ok.inj (ha.symm.trans hvalue)))

end Document

end BlogGraph.GraphQL
