import BlogGraph.GraphQL.BlogSchema
import BlogGraph.Proofs.GraphQL.Arguments

/-!
# What validation promises

A document without errors has only operations and fragments.  Each of their selections is checked on
the object type where it stands (`Selection.Checked`): the field exists there, its arguments and
those of directives are given as they are declared, and fragments are made for that type.

Main statements:

* `Document.operation_of_validate`, `Document.fragment_of_validate`: no rule finds an error in an
  operation or a fragment of a valid document;
* `checked_of_allSelectionErrors`: selections without errors are checked.
-/

namespace BlogGraph.GraphQL

/-- What is known of a directive of a schema. -/
def KnownDirective.ofSpec (x : DirectiveSpec) : KnownDirective :=
  ⟨x.name, x.arguments.map (·.name),
    (x.arguments.filter InputSpec.isRequired).map fun i => (i.name, i.type.text), x.locations,
    false⟩

/-! ## Documents without errors -/

namespace Document

variable {s : Schema} {d : Document}

/-- What the rules know of a document. -/
def context (s : Schema) (d : Document) : SelectionContext :=
  ⟨s, d, d.knownDirectives s, d.overlapErrors s⟩

@[simp] theorem context_schema : (d.context s).schema = s := rfl

theorem errors_of_validate (h : d.validate s = []) : (d.context s).errors = [] := by
  simp only [validate] at h
  split at h
  · exact absurd h (by simp)
  · exact h

/-- A valid document defines nothing of a type system. -/
theorem ne_system_of_validate (h : d.validate s = []) :
    ∀ x ∈ d.definitions, ∀ y, x ≠ .system y := by
  have herrors := errors_of_validate h
  rw [SelectionContext.errors, List.append_eq_nil_iff, List.append_eq_nil_iff] at herrors
  have hnone := List.filterMap_eq_nil_iff.1 herrors.1.1
  rintro x hx y rfl
  exact absurd (hnone _ hx) (by simp)

theorem definedTypes_of_validate (h : d.validate s = []) : d.definedTypes = [] := by
  refine List.filterMap_eq_nil_iff.2 fun x hx => ?_
  cases x with
  | system y => exact absurd rfl (ne_system_of_validate h _ hx y)
  | _ => rfl

/-- The directives of a valid document are those of the schema. -/
theorem knownDirectives_of_validate (h : d.validate s = []) :
    d.knownDirectives s = s.directives.map KnownDirective.ofSpec := by
  rw [knownDirectives, List.filterMap_eq_nil_iff.2]
  · rfl
  · intro x hx
    cases x with
    | system y => exact absurd rfl (ne_system_of_validate h _ hx y)
    | _ => rfl

theorem definitionErrors_of_mem {c : SelectionContext} {cycles : List (Nat × List GraphError)}
    {earlier definitions : List Definition}
    (h : c.definitionErrors cycles earlier definitions = []) {x : Definition}
    (hx : x ∈ definitions) : ∃ before : List Definition,
      c.definitionErrors cycles before [x] = [] := by
  induction definitions generalizing earlier with
  | nil => exact absurd hx (by simp)
  | cons y rest ih =>
    rw [SelectionContext.definitionErrors.eq_def] at h
    simp only [List.append_eq_nil_iff] at h
    rcases List.mem_cons.1 hx with rfl | hx
    · refine ⟨earlier, ?_⟩
      rw [SelectionContext.definitionErrors.eq_def]
      simp only [List.append_eq_nil_iff]
      exact ⟨h.1, rfl⟩
    · exact ih h.2 hx

theorem definition_of_validate (h : d.validate s = []) {x : Definition} (hx : x ∈ d.definitions) :
    ∃ cycles before, (d.context s).definitionErrors cycles before [x] = [] := by
  have herrors := errors_of_validate h
  rw [SelectionContext.errors, List.append_eq_nil_iff, List.append_eq_nil_iff] at herrors
  exact ⟨_, definitionErrors_of_mem herrors.1.2 hx⟩

/-- No rule finds an error in an operation of a valid document. -/
theorem operation_of_validate (h : d.validate s = []) {o : Operation} (ho : o ∈ d.operations) :
    ∃ earlier, (d.context s).operationErrors earlier o = [] := by
  obtain ⟨x, hx, hxo⟩ := List.mem_filterMap.1 ho
  cases x with
  | operation o' =>
    obtain rfl := Option.some.inj hxo
    obtain ⟨cycles, before, herrors⟩ := definition_of_validate h hx
    simp only [SelectionContext.definitionErrors, List.append_nil] at herrors
    exact ⟨_, herrors⟩
  | _ => exact absurd hxo (by simp)

/-- No rule finds an error in a fragment of a valid document. -/
theorem fragment_of_validate (h : d.validate s = []) {f : Fragment} (hf : f ∈ d.fragments) :
    ∃ cycles earlier, (d.context s).fragmentErrors cycles earlier f = [] := by
  obtain ⟨x, hx, hxf⟩ := List.mem_filterMap.1 hf
  cases x with
  | fragment f' =>
    obtain rfl := Option.some.inj hxf
    obtain ⟨cycles, before, herrors⟩ := definition_of_validate h hx
    simp only [SelectionContext.definitionErrors, List.append_nil] at herrors
    exact ⟨_, _, herrors⟩
  | _ => exact absurd hxf (by simp)

theorem mem_fragments_of_fragment? {n : String} {f : Fragment} (h : d.fragment? n = some f) :
    f ∈ d.fragments ∧ f.name.value = n := by
  refine ⟨List.mem_reverse.1 (List.mem_of_find?_eq_some h), ?_⟩
  simpa using List.find?_some h

end Document

/-! ## Arguments that are given as declared -/

/-- Known arguments without faults, and all that are required. -/
structure ArgumentsGiven (s : Schema) (specs : List InputSpec) (args : List Argument) : Prop where
  known : ∀ a ∈ args, ∃ i, (specs.find? fun i => i.name = a.name.value) = some i ∧
    s.faultsOfLiteral none i.type a.value = []
  required : ∀ i ∈ specs, i.isRequired = true → ∃ a ∈ args, a.name.value = i.name

/-- Arguments that are given as one list declares them serve another list. -/
def serves (specs others : List InputSpec) : Bool :=
  others.all fun i =>
    match specs.find? fun j => j.name = i.name with
    | some j => decide (j.type = i.type) && j.defaultValue.isSome == i.defaultValue.isSome
    | none => !i.isRequired

variable {s : Schema} {specs others : List InputSpec} {args : List Argument} {U : Usage → Prop}

/-- Arguments that are given as declared, with variables used as `U` allows, pass the rules, also
those of another list that they serve. -/
theorem ArgumentsGiven.checked (h : ArgumentsGiven s specs args)
    (hu : ∀ u ∈ argumentUsages s specs args, U u) (hs : serves specs others = true) :
    ∀ i ∈ others, ArgumentChecked s U i args := by
  intro i hi
  have hserve := List.all_eq_true.1 hs i hi
  rw [ArgumentChecked]
  split
  · next hnone =>
    split at hserve
    · next j hj =>
      rw [Bool.and_eq_true, decide_eq_true_iff, beq_iff_eq] at hserve
      cases hreq : i.isRequired with
      | false => rfl
      | true =>
        have hjreq : j.isRequired = true := by
          rw [InputSpec.isRequired, hserve.1, ← Option.not_isSome, hserve.2, Option.not_isSome]
          exact hreq
        obtain ⟨a, ha, hname⟩ := h.required j (List.mem_of_find?_eq_some hj) hjreq
        have hji : j.name = i.name := by simpa using List.find?_some hj
        rw [List.find?_eq_none] at hnone
        exact absurd (by simp [hname, hji]) (hnone a (List.mem_reverse.2 ha))
    · simpa using hserve
  · next a hsome =>
    have ha := List.mem_reverse.1 (List.mem_of_find?_eq_some hsome)
    have hname : a.name.value = i.name := by simpa using List.find?_some hsome
    obtain ⟨j, hj, hfaults⟩ := h.known a ha
    rw [hname] at hj
    rw [hj] at hserve
    simp only [Bool.and_eq_true, decide_eq_true_iff, beq_iff_eq] at hserve
    rw [← hserve.1, ← hserve.2]
    refine ⟨hfaults, fun u hu' => hu u (List.mem_flatMap.2 ⟨a, ha, ?_⟩)⟩
    simpa [hname, hj] using hu'

theorem faultsOfLiteral_of_valueErrors {t : Ty} {l : Literal}
    (h : valueErrors s (some t) l = []) : s.faultsOfLiteral none t l = [] := by
  simp only [valueErrors, List.append_eq_nil_iff, List.map_eq_nil_iff] at h
  exact h.1

theorem argumentsGiven_of_fieldErrors {parent : String} {f : FieldSpec} {pos : Nat}
    (h : fieldArgumentErrors s parent f args = [])
    (hmissing : missingFieldArguments parent f args pos = []) :
    ArgumentsGiven s f.arguments args where
  known := by
    intro a ha
    have hnone := List.flatMap_eq_nil_iff.1 h a ha
    simp only [List.append_eq_nil_iff] at hnone
    cases hfind : f.arguments.find? fun i => i.name = a.name.value with
    | none => exact absurd hnone.1 (by simp [hfind])
    | some i =>
      rw [hfind] at hnone
      exact ⟨i, rfl, faultsOfLiteral_of_valueErrors hnone.2⟩
  required := by
    intro i hi hreq
    rw [missingFieldArguments, List.map_eq_nil_iff, List.filter_eq_nil_iff] at hmissing
    have hany := hmissing i hi
    simpa [hreq] using hany

/-! ## Directives -/

/-- Directives that may stand at a place, with arguments given as declared. -/
def DirectivesGiven (s : Schema) (location : String) (ds : List Directive) : Prop :=
  ∀ d ∈ ds, ∃ spec, s.directive? d.name.value = some spec ∧
    spec.locations.contains location = true ∧ ArgumentsGiven s spec.arguments d.arguments

theorem directiveArguments_of_known {d : Directive} {spec : DirectiveSpec}
    (h : s.directive? d.name.value = some spec) (field : Option FieldSpec) :
    directiveArguments s field d = spec.arguments := by
  simp only [directiveArguments, h]

theorem directivesGiven_of_allErrors {location : String} {field : Option FieldSpec}
    {parent : Option String} {ds : List Directive}
    (h : DirectivePlace.allErrors
      ⟨s, s.directives.map KnownDirective.ofSpec, location, field, parent⟩ ds = []) :
    DirectivesGiven s location ds := by
  intro d hd
  have herrors := List.flatMap_eq_nil_iff.1 h d hd
  simp only [DirectivePlace.errors, DirectivePlace.placeErrors, List.append_eq_nil_iff,
    List.find?_map] at herrors
  cases hfind : s.directive? d.name.value with
  | none =>
    have hknown : List.find? ((fun k : KnownDirective => decide (k.name = d.name.value)) ∘
        KnownDirective.ofSpec) s.directives = none := hfind
    rw [hknown] at herrors
    exact absurd herrors.1 (by simp)
  | some spec =>
    have hknown : List.find? ((fun k : KnownDirective => decide (k.name = d.name.value)) ∘
        KnownDirective.ofSpec) s.directives = some spec := hfind
    rw [hknown] at herrors
    simp only [Option.map_some, KnownDirective.ofSpec, List.map_eq_nil_iff,
      List.filter_eq_nil_iff] at herrors
    obtain ⟨⟨⟨⟨hplace, hunknown⟩, -⟩, hvalues⟩, hmissing⟩ := herrors
    refine ⟨spec, rfl, ?_, ?_, ?_⟩
    · by_cases hlocation : spec.locations.contains location = true
      · exact hlocation
      · exact absurd hplace (by rw [if_neg hlocation]; simp)
    · intro a ha
      have hvalue := List.flatMap_eq_nil_iff.1 hvalues a ha
      rw [directiveArguments_of_known hfind] at hvalue
      cases hi : spec.arguments.find? fun i => i.name = a.name.value with
      | none =>
        refine absurd (hunknown a ha) ?_
        simpa [List.find?_eq_none] using hi
      | some i =>
        rw [hi] at hvalue
        exact ⟨i, rfl, faultsOfLiteral_of_valueErrors hvalue⟩
    · intro i hi hreq
      have hany := hmissing (i.name, i.type.text)
        (List.mem_map.2 ⟨i, List.mem_filter.2 ⟨hi, hreq⟩, rfl⟩)
      simpa using hany

/-! ## Selections without errors -/

namespace Schema

/-- All fields that can be selected on some type. -/
def fieldSpecs (s : Schema) : List FieldSpec :=
  MetaSchema.typenameField :: MetaSchema.schemaField :: MetaSchema.typeField ::
    s.types.flatMap TypeSpec.fields

/-- The fields that can be selected: the name of the type, the ways into the schema, and those that
the type declares. -/
theorem selectedField?_cases {type field : String} {f : FieldSpec}
    (h : s.selectedField? type field = some f) :
    (field = "__typename" ∧ f = MetaSchema.typenameField) ∨
    (field ≠ "__typename" ∧ type = s.queryType ∧ field = "__schema" ∧ f = MetaSchema.schemaField) ∨
    (field ≠ "__typename" ∧ type = s.queryType ∧ field = "__type" ∧ f = MetaSchema.typeField) ∨
    (field ≠ "__typename" ∧ ∃ t, s.type? type = some t ∧ f ∈ t.fields ∧ f.name = field) := by
  rw [selectedField?] at h
  split at h
  · next hname => exact Or.inl ⟨hname, (Option.some.inj h).symm⟩
  · next hname =>
    refine Or.inr ?_
    split at h
    · next hschema =>
      rw [Bool.and_eq_true, decide_eq_true_iff, decide_eq_true_iff] at hschema
      exact Or.inl ⟨hname, hschema.1, hschema.2, (Option.some.inj h).symm⟩
    · split at h
      · next htype =>
        rw [Bool.and_eq_true, decide_eq_true_iff, decide_eq_true_iff] at htype
        exact Or.inr (Or.inl ⟨hname, htype.1, htype.2, (Option.some.inj h).symm⟩)
      · obtain ⟨t, ht, hfind⟩ := Option.bind_eq_some_iff.1 h
        exact Or.inr (Or.inr ⟨hname, t, ht, List.mem_of_find?_eq_some hfind,
          by simpa using List.find?_some hfind⟩)

theorem mem_fieldSpecs_of_selectedField? {type field : String} {f : FieldSpec}
    (h : s.selectedField? type field = some f) : f ∈ s.fieldSpecs ∧ f.name = field := by
  rcases selectedField?_cases h with ⟨rfl, rfl⟩ | ⟨-, -, rfl, rfl⟩ | ⟨-, -, rfl, rfl⟩ |
    ⟨-, t, ht, hf, hname⟩
  · exact ⟨List.mem_cons_self, rfl⟩
  · exact ⟨List.mem_cons_of_mem _ List.mem_cons_self, rfl⟩
  · exact ⟨List.mem_cons_of_mem _ (List.mem_cons_of_mem _ List.mem_cons_self), rfl⟩
  · refine ⟨?_, hname⟩
    refine List.mem_cons_of_mem _ (List.mem_cons_of_mem _ (List.mem_cons_of_mem _ ?_))
    exact List.mem_flatMap.2 ⟨t, List.mem_of_find?_eq_some ht, hf⟩

/-- What a schema must be like for checked selections to have values: fields lead to simple values
or objects, all arguments are flat, and the arguments of fields of one name serve each other, so
that fields may be taken together. -/
structure Regular (s : Schema) : Prop where
  leads : ∀ f ∈ s.fieldSpecs,
    ((s.type? f.type.base).map fun t => t.isLeaf || t.isComposite).getD false = true
  flat : ∀ f ∈ s.fieldSpecs, ∀ i ∈ f.arguments, s.isFlat i.type = true
  serves : ∀ f ∈ s.fieldSpecs, ∀ g ∈ s.fieldSpecs, f.name = g.name →
    serves f.arguments g.arguments = true
  directiveFlat : ∀ d ∈ s.directives, ∀ i ∈ d.arguments, s.isFlat i.type = true
  directiveServes : ∀ d ∈ s.directives, GraphQL.serves d.arguments d.arguments = true

end Schema

theorem regular_blogSchema : blogSchema.Regular where
  leads := by decide +kernel
  flat := by decide +kernel
  serves := by decide +kernel
  directiveFlat := by decide +kernel
  directiveServes := by decide +kernel

/-- A selection as it is read: a field without braces has nothing inside. -/
inductive Selection.Braced : Selection → Prop where
  | field {responseName : Option Name} {n : Name} {args : List Argument} {ds : List Directive}
      {brace : Option Nat} {selections : List Selection} (hbrace : brace = none → selections = [])
      (hinner : ∀ x ∈ selections, Braced x) :
      Braced (.field responseName n args ds brace selections)
  | spread {pos : Nat} {n : Name} {ds : List Directive} : Braced (.spread pos n ds)
  | inline {pos : Nat} {condition : Option Name} {ds : List Directive} {brace : Nat}
      {selections : List Selection} (hinner : ∀ x ∈ selections, Braced x) :
      Braced (.inline pos condition ds brace selections)

/-- A selection that is checked on an object type. -/
inductive Selection.Checked (s : Schema) (d : Document) : String → Selection → Prop where
  | field {parent : String} {responseName : Option Name} {n : Name} {args : List Argument}
      {ds : List Directive} {brace : Option Nat} {selections : List Selection} {spec : FieldSpec}
      (hspec : s.selectedField? parent n.value = some spec)
      (hargs : ArgumentsGiven s spec.arguments args) (hds : DirectivesGiven s "FIELD" ds)
      (hinner : ∀ t, s.composite? spec.type.base = some t → ∀ x ∈ selections, Checked s d t x)
      (hleaf : s.composite? spec.type.base = none → selections = []) :
      Checked s d parent (.field responseName n args ds brace selections)
  | spread {parent : String} {pos : Nat} {n : Name} {ds : List Directive}
      (hds : DirectivesGiven s "FRAGMENT_SPREAD" ds)
      (hfor : ∀ f, d.fragment? n.value = some f → ∀ t, s.composite? f.condition.value = some t →
        t = parent) :
      Checked s d parent (.spread pos n ds)
  | inline {parent : String} {pos : Nat} {condition : Option Name} {ds : List Directive}
      {brace : Nat} {selections : List Selection} (hds : DirectivesGiven s "INLINE_FRAGMENT" ds)
      (htype : s.inlineType? (some parent) condition = some parent)
      (hinner : ∀ x ∈ selections, Checked s d parent x) :
      Checked s d parent (.inline pos condition ds brace selections)

/-- What the rules know of a valid document: a regular schema, whose directives and types are all
that there are. -/
structure SelectionContext.Closed (c : SelectionContext) : Prop where
  regular : c.schema.Regular
  known : c.known = c.schema.directives.map KnownDirective.ofSpec
  defined : c.document.definedTypes = []

theorem Document.closed_of_validate {d : Document} (hs : s.Regular) (h : d.validate s = []) :
    (d.context s).Closed :=
  ⟨hs, knownDirectives_of_validate h, definedTypes_of_validate h⟩

theorem composite?_eq_some_iff {n t : String} :
    s.composite? n = some t ↔ n = t ∧ ∃ spec, s.type? n = some spec ∧ spec.isComposite = true := by
  rw [Schema.composite?]
  cases s.type? n with
  | none => simp
  | some spec => cases hc : spec.isComposite <;> simp [hc]

theorem leaf_or_composite {f : FieldSpec} (hs : s.Regular) (hf : f ∈ s.fieldSpecs) :
    (∃ spec, s.type? f.type.base = some spec ∧ spec.isLeaf = true ∧
      s.composite? f.type.base = none) ∨
    (((s.type? f.type.base).map TypeSpec.isLeaf).getD false = false ∧
      s.composite? f.type.base = some f.type.base) := by
  have hleads := hs.leads f hf
  cases hspec : s.type? f.type.base with
  | none => exact absurd hleads (by simp [hspec])
  | some spec =>
    rw [Schema.composite?, hspec]
    rw [hspec] at hleads
    cases hb : spec.body <;>
      simp_all [TypeSpec.isLeaf, TypeSpec.isComposite]

variable {c : SelectionContext}

theorem exists_type?_of_unknownType {n : Name} (h : unknownType s [] false n = []) :
    ∃ spec, s.type? n.value = some spec := by
  rw [← Option.isSome_iff_exists, Schema.type?, List.find?_isSome]
  simp only [unknownType] at h
  split at h
  · next hname => simpa using hname
  · exact absurd h (by simp)

/-- A condition without errors names an object type. -/
theorem composite?_of_condition (hc : c.Closed) {n : Name} {which : String}
    (hcondition : c.conditionErrors which n = [])
    (hknown : unknownType c.schema c.document.definedTypes false n = []) :
    c.schema.composite? n.value = some n.value := by
  rw [composite?_eq_some_iff]
  refine ⟨rfl, ?_⟩
  rw [SelectionContext.conditionErrors] at hcondition
  cases hspec : c.schema.type? n.value with
  | none =>
    obtain ⟨spec, hknown⟩ := exists_type?_of_unknownType (hc.defined ▸ hknown)
    exact absurd hknown (by simp [hspec])
  | some spec =>
    rw [hspec] at hcondition
    simp only at hcondition
    split at hcondition
    · exact ⟨spec, rfl, ‹_›⟩
    · exact absurd hcondition (by simp)

mutual

/-- A selection without errors is checked. -/
theorem checked_of_selectionErrors (hc : c.Closed) : ∀ (x : Selection)
    (around : Option FieldSpec) (parent : String), x.Braced →
    c.selectionErrors around (some parent) x = [] → x.Checked c.schema c.document parent
  | .field responseName n args ds brace selections, around, parent, hbraced, h => by
    cases hbraced with
    | field hbrace hinner =>
      simp only [SelectionContext.selectionErrors, Option.bind_some, List.append_eq_nil_iff] at h
      obtain ⟨⟨⟨⟨⟨⟨⟨henter, -⟩, -⟩, -⟩, harguments⟩, hdirectives⟩, hset⟩, hleave⟩ := h
      cases hspec : c.schema.selectedField? parent n.value with
      | none =>
        rw [hspec] at henter
        exact absurd henter (by simp)
      | some spec =>
        rw [hspec] at henter harguments hset hleave
        simp only at henter harguments hleave
        rw [SelectionContext.directiveErrors, hc.known] at hdirectives
        have hmem := (Schema.mem_fieldSpecs_of_selectedField? hspec).1
        have hargs := argumentsGiven_of_fieldErrors harguments hleave
        have hds := directivesGiven_of_allErrors hdirectives
        rcases leaf_or_composite hc.regular hmem with ⟨ts, hts, hleaf, hnone⟩ | ⟨hleaf, hsome⟩
        · -- a simple value, which has no braces and so nothing inside
          have hempty : selections = [] := by
            cases brace with
            | none => exact hbrace rfl
            | some b => simp [SelectionContext.subfieldErrors, hts, hleaf] at henter
          refine .field hspec hargs hds ?_ fun _ => hempty
          rw [hempty]
          simp
        · cases brace with
          | none => simp [SelectionContext.subfieldErrors, hleaf] at henter
          | some b =>
            have hinnerType : c.schema.innerType? (some parent) n.value = some spec.type.base := by
              simp [Schema.innerType?, hspec, hsome]
            simp only [hinnerType, List.append_eq_nil_iff] at hset
            have hchecked := checked_of_allSelectionErrors hc selections _ _ hinner hset.2
            refine .field hspec hargs hds ?_ fun hnone => absurd hnone (by simp [hsome])
            intro t ht
            obtain rfl := Option.some.inj (hsome.symm.trans ht)
            exact hchecked
  | .spread pos n ds, around, parent, hbraced, h => by
    simp only [SelectionContext.selectionErrors, List.append_eq_nil_iff] at h
    obtain ⟨⟨⟨-, hplace⟩, -⟩, hdirectives⟩ := h
    rw [SelectionContext.directiveErrors, hc.known] at hdirectives
    refine .spread (directivesGiven_of_allErrors hdirectives) fun f hf t ht => ?_
    rw [hf] at hplace
    simp only [Option.bind_some, ht, SelectionContext.misplacedFragment] at hplace
    split at hplace
    · next heq => exact heq.symm
    · exact absurd hplace (by simp)
  | .inline pos condition ds brace selections, around, parent, hbraced, h => by
    cases hbraced with
    | inline hinner =>
      simp only [SelectionContext.selectionErrors, List.append_eq_nil_iff] at h
      obtain ⟨⟨⟨⟨⟨⟨hcondition, hplace⟩, -⟩, htypes⟩, hdirectives⟩, -⟩, hinside⟩ := h
      rw [SelectionContext.directiveErrors, hc.known] at hdirectives
      have hds := directivesGiven_of_allErrors hdirectives
      cases condition with
      | none =>
        exact .inline hds rfl
          (checked_of_allSelectionErrors hc selections around parent hinner hinside)
      | some m =>
        have hcomposite := composite?_of_condition hc hcondition htypes
        simp only [Schema.inlineType?, hcomposite,
          SelectionContext.misplacedFragment] at hplace hinside
        split at hplace
        · next heq =>
          subst heq
          exact .inline hds hcomposite
            (checked_of_allSelectionErrors hc selections around _ hinner hinside)
        · exact absurd hplace (by simp)

/-- Selections without errors are checked. -/
theorem checked_of_allSelectionErrors (hc : c.Closed) : ∀ (xs : List Selection)
    (around : Option FieldSpec) (parent : String), (∀ x ∈ xs, x.Braced) →
    c.allSelectionErrors around (some parent) xs = [] →
    ∀ x ∈ xs, x.Checked c.schema c.document parent
  | [], _, _, _, _ => by simp
  | x :: rest, around, parent, hbraced, h => by
    rw [SelectionContext.allSelectionErrors, List.append_eq_nil_iff] at h
    obtain ⟨hx, hrest⟩ := List.forall_mem_cons.1 hbraced
    exact List.forall_mem_cons.2 ⟨checked_of_selectionErrors hc x around parent hx h.1,
      checked_of_allSelectionErrors hc rest around parent hrest h.2⟩

end

end BlogGraph.GraphQL
