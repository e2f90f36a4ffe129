import BlogGraph.Proofs.GraphQL.Uses

/-!
# Plans of valid operations

A selection that is checked on an object type, with variables used as the rules allow, is sound: its
arguments serve whatever field of that name it is taken together with, and its fragments are sound
too (`Selection.Sound`).  Sound selections can be planned, on any type, and every planned field is
ready: it exists, has all its arguments in form, and so do the fields inside (`PlannedField.Ready`).

Main statements:

* `sound_of_checked`: checked selections are sound;
* `PlanContext.exists_plan_of_sound`: sound selections have plans of ready fields;
* `Document.groups_of_plan`: a plan has one field for each response name that is collected.
-/

namespace BlogGraph.GraphQL

variable {s : Schema} {d : Document} {U : Usage → Prop} {F : Fragment → Prop}

/-! ## Sound selections -/

/-- Arguments pass the rules for every field of a name. -/
def ArgumentsServe (s : Schema) (U : Usage → Prop) (name : String) (args : List Argument) : Prop :=
  ∀ g ∈ s.fieldSpecs, g.name = name → ∀ i ∈ g.arguments, ArgumentChecked s U i args

/-- The arguments of directives pass the rules. -/
def DirectivesServe (s : Schema) (U : Usage → Prop) (ds : List Directive) : Prop :=
  ∀ d ∈ ds, ∀ spec, s.directive? d.name.value = some spec →
    ∀ i ∈ spec.arguments, ArgumentChecked s U i d.arguments

/-- A selection that is sound on any type: all arguments pass the rules, with variables used as `U`
says, and all fragments are among those that `F` says. -/
inductive Selection.Sound (s : Schema) (d : Document) (U : Usage → Prop) (F : Fragment → Prop) :
    Selection → Prop where
  | field {responseName : Option Name} {n : Name} {args : List Argument} {ds : List Directive}
      {brace : Option Nat} {selections : List Selection} (hargs : ArgumentsServe s U n.value args)
      (hds : DirectivesServe s U ds) (hinner : ∀ x ∈ selections, Sound s d U F x) :
      Sound s d U F (.field responseName n args ds brace selections)
  | spread {pos : Nat} {n : Name} {ds : List Directive} (hds : DirectivesServe s U ds)
      (hreach : ∀ f, d.fragment? n.value = some f → F f) : Sound s d U F (.spread pos n ds)
  | inline {pos : Nat} {condition : Option Name} {ds : List Directive} {brace : Nat}
      {selections : List Selection} (hds : DirectivesServe s U ds)
      (hinner : ∀ x ∈ selections, Sound s d U F x) :
      Sound s d U F (.inline pos condition ds brace selections)

/-! ## Checked selections are sound -/

theorem mem_spreadsIn {r : Spread} {xs : List Selection} :
    r ∈ spreadsIn xs ↔ ∃ x ∈ xs, r ∈ spreadsIn [x] := by
  induction xs with
  | nil => simp [spreadsIn, directSpreads, innerSpreads]
  | cons y rest ih =>
    have hcons : r ∈ spreadsIn (y :: rest) ↔ r ∈ spreadsIn [y] ∨ r ∈ spreadsIn rest := by
      cases y <;> simp [spreadsIn, directSpreads, innerSpreads] <;> grind
    rw [hcons, ih]
    simp

theorem mem_selectionUsages {u : Usage} {xs : List Selection} {around : Option FieldSpec}
    {parent : Option String} :
    u ∈ selectionUsages s around parent xs ↔ ∃ x ∈ xs, u ∈ x.usages s around parent := by
  induction xs with
  | nil => simp [selectionUsages]
  | cons y rest ih =>
    rw [selectionUsages, List.mem_append, ih]
    simp

theorem directivesServe_of_given (hs : s.Regular) {location : String} {ds : List Directive}
    (h : DirectivesGiven s location ds) {field : Option FieldSpec}
    (hu : ∀ u ∈ directiveUsages s field ds, U u) : DirectivesServe s U ds := by
  intro d hd spec hspec
  obtain ⟨spec', hspec', -, hgiven⟩ := h d hd
  obtain rfl := Option.some.inj (hspec.symm.trans hspec')
  refine hgiven.checked (fun u hu' => hu u (List.mem_flatMap.2 ⟨d, hd, ?_⟩))
    (hs.directiveServes spec (List.mem_of_find?_eq_some hspec))
  rw [directiveArguments_of_known hspec]
  exact hu'

/-- A selection that is checked on an object type is sound on any. -/
theorem sound_of_checked (hs : s.Regular) {parent : String} {x : Selection}
    (h : x.Checked s d parent) (around : Option FieldSpec)
    (hu : ∀ u ∈ x.usages s around (some parent), U u)
    (hr : ∀ r ∈ spreadsIn [x], ∀ f, d.fragment? r.name = some f → F f) : x.Sound s d U F := by
  induction h generalizing around with
  | @field parent responseName n args ds brace selections spec hspec hargs hds hinner hleaf ih =>
    rw [Selection.usages] at hu
    simp only [Option.bind_some, hspec, Option.map_some, Option.getD_some, List.mem_append] at hu
    have hmem := Schema.mem_fieldSpecs_of_selectedField? hspec
    refine .field ?_ ?_ ?_
    · intro g hg hname
      refine hargs.checked (fun u hu' => hu u (Or.inl (Or.inl hu'))) ?_
      exact hs.serves spec hmem.1 g hg (hmem.2.trans hname.symm)
    · exact directivesServe_of_given hs hds fun u hu' => hu u (Or.inl (Or.inr hu'))
    · intro x hx
      cases ht : s.composite? spec.type.base with
      | none => exact absurd hx (by simp [hleaf ht])
      | some t =>
        have htype : s.innerType? (some parent) n.value = some t := by
          simp [Schema.innerType?, hspec, ht]
        rw [htype] at hu
        refine ih t ht x hx _ (fun u hu' => hu u (Or.inr (mem_selectionUsages.2 ⟨x, hx, hu'⟩)))
          fun r hr' => hr r ?_
        have hin := mem_spreadsIn.2 ⟨x, hx, hr'⟩
        simpa [spreadsIn, directSpreads, innerSpreads, Selection.spreads] using hin
  | @spread parent pos n ds hds hfor =>
    rw [Selection.usages] at hu
    refine .spread (directivesServe_of_given hs hds hu) fun f hf => hr ⟨pos, n.value⟩ ?_ f hf
    simp [spreadsIn, directSpreads]
  | @inline parent pos condition ds brace selections hds htype hinner ih =>
    rw [Selection.usages, htype] at hu
    simp only [List.mem_append] at hu
    refine .inline (directivesServe_of_given hs hds fun u hu' => hu u (Or.inl hu')) ?_
    intro x hx
    refine ih x hx _ (fun u hu' => hu u (Or.inr (mem_selectionUsages.2 ⟨x, hx, hu'⟩)))
      fun r hr' => hr r ?_
    have hin := mem_spreadsIn.2 ⟨x, hx, hr'⟩
    simpa [spreadsIn, directSpreads, innerSpreads, Selection.spreads] using hin

/-! ## Collecting sound selections -/

/-- A field that was selected soundly. -/
structure SelectedField.Sound (s : Schema) (d : Document) (U : Usage → Prop)
    (F : Fragment → Prop) (f : SelectedField) : Prop where
  arguments : ArgumentsServe s U f.name f.arguments
  selections : ∀ x ∈ f.selections, x.Sound s d U F

theorem Gathered.sound {parent : String} {xs : List Selection} {f : SelectedField}
    (h : Gathered d parent xs f) (hF : ∀ g, F g → ∀ x ∈ g.selections, x.Sound s d U F)
    (hxs : ∀ x ∈ xs, x.Sound s d U F) : f.Sound s d U F := by
  induction h with
  | field hx =>
    cases hxs _ hx with
    | field hargs hds hinner => exact ⟨hargs, hinner⟩
  | inline hx hfor hf ih =>
    cases hxs _ hx with
    | inline hds hinner => exact ih hinner
  | spread hx hg hfor hf ih =>
    cases hxs _ hx with
    | spread hds hreach => exact ih (hF _ (hreach _ hg))

namespace PlanContext

variable {c : PlanContext} {parent : String}

theorem exists_condition (hs : c.schema.Regular) (hU : ∀ u, U u → u.Provided c.values)
    {ds : List Directive} (h : DirectivesServe c.schema U ds) (name : String) :
    ∃ included, c.condition? name ds = .ok included := by
  rw [condition?]
  split
  · exact ⟨none, rfl⟩
  · next d hfind =>
    have hd : d ∈ ds := List.mem_of_find?_eq_some hfind
    have hname : d.name.value = name := by simpa using List.find?_some hfind
    have hchecked : ∀ i ∈ ((c.schema.directive? name).map (·.arguments)).getD [],
        c.schema.isFlat i.type = true ∧
        ArgumentChecked c.schema (Usage.Provided c.values) i d.arguments := by
      cases hspec : c.schema.directive? name with
      | none => simp
      | some spec =>
        intro i hi
        exact ⟨hs.directiveFlat spec (List.mem_of_find?_eq_some hspec) i hi,
          (h d hd spec (hname ▸ hspec) i hi).mono hU⟩
    obtain ⟨values, hvalues⟩ := exists_argumentValues hchecked d.pos
    simp only [hvalues]
    split
    · exact ⟨_, rfl⟩
    · exact ⟨_, rfl⟩

theorem exists_isIncluded (hs : c.schema.Regular) (hU : ∀ u, U u → u.Provided c.values)
    {ds : List Directive} (h : DirectivesServe c.schema U ds) :
    ∃ included, c.isIncluded ds = .ok included := by
  obtain ⟨skip, hskip⟩ := exists_condition hs hU h "skip"
  obtain ⟨kept, hkept⟩ := exists_condition hs hU h "include"
  rw [isIncluded, hskip, hkept]
  split
  · exact absurd ‹_› (by simp)
  · exact ⟨false, rfl⟩
  · split
    · exact absurd ‹_› (by simp)
    · exact ⟨false, rfl⟩
    · exact ⟨true, rfl⟩

variable {expanded : List String} {x : Selection}

theorem exists_step (hs : c.schema.Regular) (hU : ∀ u, U u → u.Provided c.values)
    (h : x.Sound c.schema c.document U F) (parent : String) (expanded : List String) :
    ∃ step, c.step parent expanded x = .ok step := by
  cases h with
  | field hargs hds hinner =>
    obtain ⟨included, hincluded⟩ := exists_isIncluded hs hU hds
    exact ⟨_, by rw [step, hincluded]; rfl⟩
  | spread hds hreach =>
    obtain ⟨included, hincluded⟩ := exists_isIncluded hs hU hds
    rw [step]
    split
    · exact ⟨_, rfl⟩
    · exact ⟨_, by rw [hincluded]; rfl⟩
  | inline hds hinner =>
    obtain ⟨included, hincluded⟩ := exists_isIncluded hs hU hds
    exact ⟨_, by rw [step, hincluded]; rfl⟩

theorem sound_of_step_into {expanded' : List String} {selections : List Selection}
    (hF : ∀ g, F g → ∀ x ∈ g.selections, x.Sound c.schema c.document U F)
    (h : x.Sound c.schema c.document U F)
    (hstep : c.step parent expanded x = .ok (.into selections expanded')) :
    ∀ y ∈ selections, y.Sound c.schema c.document U F := by
  rcases step_into hstep with ⟨_, _, _, _, rfl, -, -⟩ | ⟨_, _, _, g, rfl, -, hg, -, rfl, -⟩
  · cases h with
    | inline hds hinner => exact hinner
  · cases h with
    | spread hds hreach => exact hF g (hreach g hg)

/-- Sound selections can be collected. -/
theorem exists_collect (hs : c.schema.Regular) (hU : ∀ u, U u → u.Provided c.values)
    (hF : ∀ g, F g → ∀ x ∈ g.selections, x.Sound c.schema c.document U F) (fuel : Nat)
    {xs : List Selection} (h : ∀ x ∈ xs, x.Sound c.schema c.document U F) (parent : String)
    (acc : Collected) : ∃ acc', c.collect parent fuel xs acc = .ok acc' := by
  induction fuel generalizing xs acc with
  | zero => exact ⟨acc, rfl⟩
  | succ fuel ih =>
    cases xs with
    | nil => exact ⟨acc, collect_nil _⟩
    | cons x rest =>
      obtain ⟨hx, hrest⟩ := List.forall_mem_cons.1 h
      obtain ⟨step, hstep⟩ := exists_step hs hU hx parent acc.2
      rw [collect_cons, hstep]
      cases step with
      | pass => exact ih hrest acc
      | add key f => exact ih hrest _
      | into selections expanded =>
        obtain ⟨between, hbetween⟩ := ih (sound_of_step_into hF hx hstep) (acc.1, expanded)
        simp only [hbetween]
        exact ih hrest between

end PlanContext

/-! ## Ready fields -/

/-- A planned field of an object type that exists, with all its arguments in form, and with fields
inside that are ready on the type that it leads to. -/
inductive PlannedField.Ready (s : Schema) : String → PlannedField → Prop where
  | mk {parent key name : String} {spec : FieldSpec} {positions : List Nat} {args : Named Json}
      {inner : Plan} (hspec : s.selectedField? parent name = some spec)
      (hargs : FieldsConform s spec.arguments args)
      (hinner : ∀ t, s.composite? spec.type.base = some t → ∀ f ∈ inner, Ready s t f) :
      Ready s parent (.mk key name spec.type positions (.ok args) none inner)

namespace PlanContext

variable {c : PlanContext} {parent : String}

theorem planGroup_eq_some {inside : String → List (List Selection) → Except GraphError Plan}
    {group : String × List SelectedField} {p : PlannedField} :
    c.planGroup parent inside group = some p ↔ ∃ first rest spec, group.2 = first :: rest ∧
      c.schema.selectedField? parent first.name = some spec ∧
      p = c.planField inside group.1 group.2 first spec := by
  rw [planGroup]
  constructor
  · intro h
    split at h
    · exact absurd h (by simp)
    · next first rest hgroup =>
      obtain ⟨spec, hspec, rfl⟩ := Option.map_eq_some_iff.1 h
      exact ⟨first, rest, spec, hgroup, hspec, rfl⟩
  · rintro ⟨first, rest, spec, hgroup, hspec, rfl⟩
    simp only [hgroup, hspec, Option.map_some]

@[simp] theorem planField_name {inside : String → List (List Selection) → Except GraphError Plan}
    {key : String} {fields : List SelectedField} {first : SelectedField} {spec : FieldSpec} :
    (c.planField inside key fields first spec).name = first.name := by
  simp only [planField]
  split <;> rfl

@[simp] theorem planField_arguments
    {inside : String → List (List Selection) → Except GraphError Plan} {key : String}
    {fields : List SelectedField} {first : SelectedField} {spec : FieldSpec} :
    (c.planField inside key fields first spec).arguments =
      argumentValues c.schema c.values spec.arguments first.arguments first.pos := by
  simp only [planField]
  split <;> rfl

theorem sound_of_collect (hF : ∀ g, F g → ∀ x ∈ g.selections, x.Sound c.schema c.document U F)
    {fuel : Nat} {sets : List (List Selection)} {acc : Collected}
    (h : ∀ set ∈ sets, ∀ x ∈ set, x.Sound c.schema c.document U F)
    (hacc : c.collect parent fuel sets.flatten ([], []) = .ok acc) :
    ∀ group ∈ acc.1, ∀ f ∈ group.2, f.Sound c.schema c.document U F := by
  intro group hgroup f hf
  refine (gathered_of_groups hacc hgroup hf).sound hF fun x hx => ?_
  obtain ⟨set, hset, hx⟩ := List.mem_flatten.1 hx
  exact h set hset x hx

theorem conform_of_sound (hs : c.schema.Regular) (hfits : ∀ u, U u → u.Fits c.schema c.values)
    {f : SelectedField} {spec : FieldSpec}
    (hspec : c.schema.selectedField? parent f.name = some spec) (hf : f.Sound c.schema d U F)
    {args : Named Json}
    (hargs : argumentValues c.schema c.values spec.arguments f.arguments f.pos = .ok args) :
    FieldsConform c.schema spec.arguments args := by
  obtain ⟨hmem, hname⟩ := Schema.mem_fieldSpecs_of_selectedField? hspec
  exact fieldsConform_of_argumentValues
    (fun i hi => ⟨hs.flat spec hmem i hi, (hf.arguments spec hmem hname i hi).mono hfits⟩) hargs

theorem exists_arguments_of_sound (hs : c.schema.Regular)
    (hU : ∀ u, U u → u.Provided c.values) {f : SelectedField} {spec : FieldSpec}
    (hspec : c.schema.selectedField? parent f.name = some spec) (hf : f.Sound c.schema d U F) :
    ∃ args, argumentValues c.schema c.values spec.arguments f.arguments f.pos = .ok args := by
  obtain ⟨hmem, hname⟩ := Schema.mem_fieldSpecs_of_selectedField? hspec
  exact exists_argumentValues
    (fun i hi => ⟨hs.flat spec hmem i hi, (hf.arguments spec hmem hname i hi).mono hU⟩) f.pos

/-- A field that was selected soundly is ready, when what is inside could be planned so. -/
theorem ready_of_planField (hs : c.schema.Regular)
    (hfits : ∀ u, U u → u.Fits c.schema c.values) (hU : ∀ u, U u → u.Provided c.values)
    {inside : String → List (List Selection) → Except GraphError Plan} {key : String}
    {fields : List SelectedField} {first : SelectedField} {spec : FieldSpec}
    (hspec : c.schema.selectedField? parent first.name = some spec)
    (hfirst : first.Sound c.schema d U F)
    (hinside : ∀ t, ∃ plan, inside t (fields.map SelectedField.selections) = .ok plan ∧
      ∀ p ∈ plan, p.Ready c.schema t) :
    (c.planField inside key fields first spec).Ready c.schema parent := by
  obtain ⟨args, hargs⟩ := exists_arguments_of_sound hs hU hspec hfirst
  have hconform := conform_of_sound hs hfits hspec hfirst hargs
  cases ht : c.schema.composite? spec.type.base with
  | none =>
    simp only [planField, ht, hargs]
    exact .mk hspec hconform fun t ht' => absurd ht' (by simp [ht])
  | some t =>
    obtain ⟨plan, hplan, hready⟩ := hinside t
    simp only [planField, ht, hargs, hplan]
    refine .mk hspec hconform fun t' ht' => ?_
    obtain rfl := Option.some.inj (ht.symm.trans ht')
    exact hready

/-- **Sound selections have plans of ready fields**, on whatever object type. -/
theorem exists_plan_of_sound (hs : c.schema.Regular)
    (hfits : ∀ u, U u → u.Fits c.schema c.values) (hU : ∀ u, U u → u.Provided c.values)
    (hF : ∀ g, F g → ∀ x ∈ g.selections, x.Sound c.schema c.document U F) (fuel : Nat)
    (parent : String) {sets : List (List Selection)}
    (h : ∀ set ∈ sets, ∀ x ∈ set, x.Sound c.schema c.document U F) :
    ∃ plan, c.planSelections fuel parent sets = .ok plan ∧
      ∀ p ∈ plan, p.Ready c.schema parent := by
  induction fuel generalizing parent sets with
  | zero => exact ⟨[], rfl, by simp⟩
  | succ fuel ih =>
    have hflat : ∀ x ∈ sets.flatten, x.Sound c.schema c.document U F := by
      intro x hx
      obtain ⟨set, hset, hx⟩ := List.mem_flatten.1 hx
      exact h set hset x hx
    obtain ⟨acc, hacc⟩ := exists_collect hs hU hF c.document.walkBound hflat parent ([], [])
    refine ⟨acc.1.filterMap (c.planGroup parent (c.planSelections fuel)), ?_, ?_⟩
    · rw [planSelections, hacc]
    · intro p hp
      obtain ⟨group, hgroup, hp⟩ := List.mem_filterMap.1 hp
      obtain ⟨first, rest, spec, hfields, hspec, rfl⟩ := planGroup_eq_some.1 hp
      have hsound := sound_of_collect hF h hacc group hgroup
      refine ready_of_planField hs hfits hU hspec (hsound first (by simp [hfields])) fun t => ?_
      refine ih t fun set hset x hx => ?_
      obtain ⟨f, hf, rfl⟩ := List.mem_map.1 hset
      exact (hsound f hf).selections x hx

theorem conform_of_planSelections (hs : c.schema.Regular)
    (hfits : ∀ u, U u → u.Fits c.schema c.values)
    (hF : ∀ g, F g → ∀ x ∈ g.selections, x.Sound c.schema c.document U F) {fuel : Nat}
    {sets : List (List Selection)} (h : ∀ set ∈ sets, ∀ x ∈ set, x.Sound c.schema c.document U F)
    {plan : Plan} (hplan : c.planSelections fuel parent sets = .ok plan) :
    ∀ p ∈ plan, ∃ spec, c.schema.selectedField? parent p.name = some spec ∧
      ∀ args, p.arguments = .ok args → FieldsConform c.schema spec.arguments args := by
  cases fuel with
  | zero =>
    obtain rfl := Except.ok.inj hplan
    simp
  | succ fuel =>
    rw [planSelections] at hplan
    split at hplan
    · exact absurd hplan (by simp)
    · next groups expanded hacc =>
      obtain rfl := Except.ok.inj hplan
      intro p hp
      obtain ⟨group, hgroup, hp⟩ := List.mem_filterMap.1 hp
      obtain ⟨first, rest, spec, hfields, hspec, rfl⟩ := planGroup_eq_some.1 hp
      have hfirst := sound_of_collect hF h hacc group hgroup first (by simp [hfields])
      refine ⟨spec, by rw [planField_name]; exact hspec, fun args hargs => ?_⟩
      rw [planField_arguments] at hargs
      exact conform_of_sound hs hfits hspec hfirst hargs

end PlanContext

/-! ## Valid operations -/

namespace Document

variable {o : Operation} {root : String} {given : Named Json} {vars : Variables}

section

variable (hs : s.Regular) (h : d.validate s = []) (hread : d.WellRead)

include hs h hread

theorem checked_of_operation (ho : o ∈ d.operations) (hroot : s.rootType? o.kind = some root) :
    ∀ x ∈ o.selections, x.Checked s d root := by
  have hselections := (passes_of_validate h ho).selections
  rw [context_schema, hroot] at hselections
  exact checked_of_allSelectionErrors (closed_of_validate hs h) o.selections none root
    (hread.operations o ho) hselections

theorem checked_of_fragment {f : Fragment} (hf : f ∈ d.fragments) :
    s.composite? f.condition.value = some f.condition.value ∧
    ∀ x ∈ f.selections, x.Checked s d f.condition.value := by
  obtain ⟨cycles, earlier, herrors⟩ := fragment_of_validate h hf
  simp only [SelectionContext.fragmentErrors, List.append_eq_nil_iff] at herrors
  obtain ⟨⟨⟨⟨⟨⟨⟨hcondition, -⟩, -⟩, -⟩, hknown⟩, -⟩, -⟩, hselections⟩ := herrors
  have hcomposite := composite?_of_condition (closed_of_validate hs h) hcondition hknown
  rw [hcomposite] at hselections
  exact ⟨hcomposite, checked_of_allSelectionErrors (closed_of_validate hs h) f.selections none _
    (hread.fragments f hf) hselections⟩

/-- A field that is collected from checked selections on an object type exists there. -/
theorem exists_spec_of_gathered {xs : List Selection} {parent : String} {f : SelectedField}
    (hf : Gathered d parent xs f) (hxs : ∀ x ∈ xs, x.Checked s d parent) :
    ∃ spec, s.selectedField? parent f.name = some spec := by
  induction hf with
  | field hx =>
    cases hxs _ hx with
    | field hspec => exact ⟨_, hspec⟩
  | inline hx hfor hf ih =>
    cases hxs _ hx with
    | inline hds htype hinner => exact ih hinner
  | @spread xs pos n ds g f hx hg hfor hf ih =>
    have hinner := (checked_of_fragment hs h hread (mem_fragments_of_fragment? hg).1).2
    rw [hfor] at hinner
    exact ih hinner

/-- The selections of a valid operation, and of the fragments that it reaches, are sound. -/
theorem sound_of_validate (ho : o ∈ d.operations) (hroot : s.rootType? o.kind = some root) :
    (∀ x ∈ o.selections,
      x.Sound s d (· ∈ (d.context s).usages o) (· ∈ d.reached o.selections)) ∧
    ∀ f ∈ d.reached o.selections, ∀ x ∈ f.selections,
      x.Sound s d (· ∈ (d.context s).usages o) (· ∈ d.reached o.selections) := by
  have hclosed := reached_closed d o.selections
  refine ⟨fun x hx => ?_, fun f hf x hx => ?_⟩
  · have hchecked := checked_of_operation hs h hread ho hroot x hx
    refine sound_of_checked hs hchecked none ?_ ?_
    · intro u hu
      refine List.mem_append_left _ (List.mem_append_right _ ?_)
      rw [context_schema, hroot]
      exact mem_selectionUsages.2 ⟨x, hx, hu⟩
    · intro r hr
      exact hclosed _ List.mem_cons_self r (mem_spreadsIn.2 ⟨x, hx, hr⟩)
  · obtain ⟨hcomposite, hchecked⟩ := checked_of_fragment hs h hread (mem_fragments_of_reached hf)
    refine sound_of_checked hs (hchecked x hx) none ?_ ?_
    · intro u hu
      refine List.mem_append_right _ (List.mem_flatMap.2 ⟨f, hf, List.mem_append_right _ ?_⟩)
      rw [context_schema, hcomposite]
      exact mem_selectionUsages.2 ⟨x, hx, hu⟩
    · intro r hr
      exact hclosed _ (List.mem_cons_of_mem _ (List.mem_map_of_mem hf)) r
        (mem_spreadsIn.2 ⟨x, hx, hr⟩)

/-- The plan of a valid operation has one field for each response name that is collected. -/
theorem groups_of_plan (ho : o ∈ d.operations) (hroot : s.rootType? o.kind = some root)
    {plan : Plan} (hplan : PlanContext.plan ⟨s, d, vars⟩ o = .ok plan) :
    ∃ groups expanded,
      (∀ fuel, d.walkBound ≤ fuel →
        PlanContext.collect ⟨s, d, vars⟩ root fuel o.selections ([], []) = .ok (groups, expanded)) ∧
      groups.keys.Nodup ∧
      groups.map (PlanContext.planGroup ⟨s, d, vars⟩ root
        (PlanContext.planSelections ⟨s, d, vars⟩ (2 * d.walkBound - 1))) = plan.map some := by
  have hbound : 2 * d.walkBound = 2 * d.walkBound - 1 + 1 := by
    have hpos : 0 < d.walkBound := Nat.succ_pos _
    omega
  simp only [PlanContext.plan, hroot] at hplan
  rw [hbound, PlanContext.planSelections, List.flatten_singleton] at hplan
  split at hplan
  · exact absurd hplan (by simp)
  · next groups expanded hcollect =>
    obtain rfl := Except.ok.inj hplan
    obtain ⟨hnodup, hfilled⟩ := PlanContext.groups_of_collect hcollect
    refine ⟨groups, expanded, fun fuel hfuel => ?_, hnodup, ?_⟩
    · rw [← hcollect]
      exact PlanContext.collect_of_le (PlanContext.operation_size_le ho) hfuel
    · rw [List.map_filterMap_some_eq_filter_map_isSome, List.filter_eq_self.2]
      intro planned hplanned
      obtain ⟨group, hgroup, rfl⟩ := List.mem_map.1 hplanned
      obtain ⟨first, rest, hfields⟩ := List.exists_cons_of_ne_nil (hfilled group hgroup)
      have hgathered := PlanContext.gathered_of_groups hcollect hgroup (f := first)
        (by simp [hfields])
      obtain ⟨spec, hspec⟩ := exists_spec_of_gathered hs h hread hgathered
        (checked_of_operation hs h hread ho hroot)
      exact Option.isSome_iff_exists.2
        ⟨_, PlanContext.planGroup_eq_some.2 ⟨first, rest, spec, hfields, hspec, rfl⟩⟩

end

variable (hs : s.Regular) (h : d.validate s = []) (hread : d.WellRead) (ho : o ∈ d.operations)
  (hvars : variableValues s given o.declarations = .ok vars)

include hs h hread ho hvars

/-- **A valid operation has a plan of ready fields**, when its variables have values and no explicit
null stands in the way of a default. -/
theorem exists_plan_of_validate (hdefaults : o.DefaultsKept given)
    (hplaces : PlacesKept ((d.context s).usages o) vars) (hroot : s.rootType? o.kind = some root) :
    ∃ plan, PlanContext.plan ⟨s, d, vars⟩ o = .ok plan ∧ ∀ p ∈ plan, p.Ready s root := by
  obtain ⟨hsound, hreached⟩ := sound_of_validate hs h hread ho hroot
  have hready := PlanContext.exists_plan_of_sound (c := ⟨s, d, vars⟩) hs
    (fits_of_validate hs h hread ho hvars)
    (provided_of_validate hs h hread ho hvars hdefaults hplaces) hreached (2 * d.walkBound) root
    (List.forall_mem_singleton.2 hsound)
  simpa only [PlanContext.plan, hroot] using hready

/-- Whatever the client gives, the arguments of the planned fields of a valid operation are in the
form of their types. -/
theorem conform_of_plan (hroot : s.rootType? o.kind = some root) {plan : Plan}
    (hplan : PlanContext.plan ⟨s, d, vars⟩ o = .ok plan) :
    ∀ p ∈ plan, ∃ spec, s.selectedField? root p.name = some spec ∧
      ∀ args, p.arguments = .ok args → FieldsConform s spec.arguments args := by
  obtain ⟨hsound, hreached⟩ := sound_of_validate hs h hread ho hroot
  simp only [PlanContext.plan, hroot] at hplan
  exact PlanContext.conform_of_planSelections (c := ⟨s, d, vars⟩) hs
    (fits_of_validate hs h hread ho hvars) hreached (List.forall_mem_singleton.2 hsound) hplan

end Document

end BlogGraph.GraphQL
