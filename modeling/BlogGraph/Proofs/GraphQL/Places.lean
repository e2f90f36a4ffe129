import BlogGraph.Proofs.GraphQL.Planned

/-!
# Places that a mutation leads to

A mutation leads from its own type to those of the blog's records and to nothing else, whatever
fragments and directives there are on the way (`Schema.Confines`).  No argument there has a default
and demands a value as well, so no variable without a value stands in the way of a place's own
default.

Main statements:

* `Document.places_of_operation`: what is so of all places on some types is so of all places in an
  operation that starts on one of them;
* `Document.placesKept_of_mutation`: mutations keep the places' own defaults.
-/

namespace BlogGraph.GraphQL

/-! ## Types that lead to nothing else -/

/-- Where directives may stand in a document with a mutation. -/
def mutationLocations : List String :=
  ["MUTATION", "FRAGMENT_DEFINITION", "FIELD", "FRAGMENT_SPREAD", "INLINE_FRAGMENT"]

/-- `W` is so of all places for variables on some types, and selections on these types lead only to
these types. -/
structure Schema.Confines (s : Schema) (types : List String) (W : Option Ty → Bool → Prop) :
    Prop where
  closes : s.Closes W
  arguments : ∀ t ∈ types, ∀ name f, s.selectedField? t name = some f →
    ∀ i ∈ f.arguments, W (some i.type) i.defaultValue.isSome
  leads : ∀ t ∈ types, ∀ name f, s.selectedField? t name = some f →
    ∀ t', s.composite? f.type.base = some t' → t' ∈ types
  directives : ∀ d ∈ s.directives, ∀ l ∈ mutationLocations, l ∈ d.locations →
    ∀ i ∈ d.arguments, W (some i.type) i.defaultValue.isSome

variable {s : Schema} {d : Document} {types : List String} {W : Option Ty → Bool → Prop}
  {parent : String} {x : Selection}

theorem places_of_directives (hc : s.Confines types W) {location : String}
    (hlocation : location ∈ mutationLocations) {ds : List Directive}
    (h : DirectivesGiven s location ds) (field : Option FieldSpec) :
    ∀ u ∈ directiveUsages s field ds, W u.type u.hasDefault := by
  intro u hu
  obtain ⟨e, he, hu⟩ := List.mem_flatMap.1 hu
  obtain ⟨spec, hspec, hplace, -⟩ := h e he
  rw [directiveArguments_of_known hspec] at hu
  refine forall_argumentUsages hc.closes ?_ e.arguments u hu
  exact hc.directives spec (List.mem_of_find?_eq_some hspec) location hlocation
    (by simpa using hplace)

/-- Whatever stands in a checked selection on one of the types is a place on these types. -/
theorem places_of_checked (hc : s.Confines types W) (h : x.Checked s d parent)
    (hparent : parent ∈ types) (around : Option FieldSpec) :
    ∀ u ∈ x.usages s around (some parent), W u.type u.hasDefault := by
  induction h generalizing around with
  | @field parent responseName n args ds brace selections spec hspec hargs hds hinner hleaf ih =>
    intro u hu
    rw [Selection.usages] at hu
    simp only [Option.bind_some, hspec, Option.map_some, Option.getD_some, List.mem_append] at hu
    rcases hu with (hu | hu) | hu
    · exact forall_argumentUsages hc.closes (hc.arguments parent hparent _ _ hspec) args u hu
    · exact places_of_directives hc (by simp [mutationLocations]) hds _ u hu
    · obtain ⟨y, hy, hu⟩ := mem_selectionUsages.1 hu
      cases ht : s.composite? spec.type.base with
      | none => exact absurd hy (by simp [hleaf ht])
      | some t =>
        have htype : s.innerType? (some parent) n.value = some t := by
          simp [Schema.innerType?, hspec, ht]
        rw [htype] at hu
        exact ih t ht y hy (hc.leads parent hparent _ _ hspec t ht) _ u hu
  | @spread parent pos n ds hds hfor =>
    intro u hu
    rw [Selection.usages] at hu
    exact places_of_directives hc (by simp [mutationLocations]) hds _ u hu
  | @inline parent pos condition ds brace selections hds htype hinner ih =>
    intro u hu
    rw [Selection.usages, htype, List.mem_append] at hu
    rcases hu with hu | hu
    · exact places_of_directives hc (by simp [mutationLocations]) hds _ u hu
    · obtain ⟨y, hy, hu⟩ := mem_selectionUsages.1 hu
      exact ih y hy hparent _ u hu

/-- Whatever fragments a checked selection on one of the types spreads are on these types. -/
theorem types_of_checked (hc : s.Confines types W) (h : x.Checked s d parent)
    (hparent : parent ∈ types) : ∀ r ∈ spreadsIn [x], ∀ f, d.fragment? r.name = some f →
    ∀ t, s.composite? f.condition.value = some t → t ∈ types := by
  induction h with
  | @field parent responseName n args ds brace selections spec hspec hargs hds hinner hleaf ih =>
    intro r hr
    have hr : r ∈ spreadsIn selections := by
      simpa [spreadsIn, directSpreads, innerSpreads, Selection.spreads] using hr
    obtain ⟨y, hy, hr⟩ := mem_spreadsIn.1 hr
    cases ht : s.composite? spec.type.base with
    | none => exact absurd hy (by simp [hleaf ht])
    | some t => exact ih t ht y hy (hc.leads parent hparent _ _ hspec t ht) r hr
  | @spread parent pos n ds hds hfor =>
    intro r hr f hf t ht
    obtain rfl : r = ⟨pos, n.value⟩ := by
      simpa [spreadsIn, directSpreads, innerSpreads, Selection.spreads] using hr
    rw [hfor f hf t ht]
    exact hparent
  | @inline parent pos condition ds brace selections hds htype hinner ih =>
    intro r hr
    have hr : r ∈ spreadsIn selections := by
      simpa [spreadsIn, directSpreads, innerSpreads, Selection.spreads] using hr
    obtain ⟨y, hy, hr⟩ := mem_spreadsIn.1 hr
    exact ih y hy hparent r hr

/-! ## Operations on such types -/

namespace Document

variable {o : Operation} {root : String}

section

variable (hs : s.Regular) (h : d.validate s = []) (hread : d.WellRead)

include hs h hread

/-- Fragments that are reached from selections on some types that lead to nothing else are on these
types. -/
theorem types_of_reached (hc : s.Confines types W) {xs : List Selection} (hroot : root ∈ types)
    (hxs : ∀ x ∈ xs, x.Checked s d root) : ∀ f ∈ d.reached xs, f.condition.value ∈ types := by
  have hleads : ∀ {t : String} {ys : List Selection}, t ∈ types → (∀ y ∈ ys, y.Checked s d t) →
      LeadsTo d (fun g => g ∈ d.fragments ∧ g.condition.value ∈ types) ys := by
    intro t ys ht hys r hr g hg
    obtain ⟨y, hy, hr⟩ := mem_spreadsIn.1 hr
    have hmem := (mem_fragments_of_fragment? hg).1
    exact ⟨hmem, types_of_checked hc (hys y hy) ht r hr g hg _
      (checked_of_fragment hs h hread hmem).1⟩
  intro f hf
  refine (reached_induction (hleads hroot hxs) ?_ f hf).2
  rintro g ⟨hg, ht⟩
  exact hleads ht (checked_of_fragment hs h hread hg).2

/-- **What is so of all places on some types that lead to nothing else is so of all places in an
operation that starts on one of them.** -/
theorem places_of_operation (hc : s.Confines types W) (ho : o ∈ d.operations)
    (hlocation : o.kind.word.toUpper ∈ mutationLocations) (hkind : s.rootType? o.kind = some root)
    (hroot : root ∈ types) : ∀ u ∈ (d.context s).usages o, W u.type u.hasDefault := by
  have hclosed := closed_of_validate hs h
  have hgiven : ∀ {location : String} {ds : List Directive},
      (d.context s).directiveErrors location none none ds = [] → DirectivesGiven s location ds := by
    intro location ds herrors
    rw [SelectionContext.directiveErrors, hclosed.known] at herrors
    exact directivesGiven_of_allErrors herrors
  have hchecked := checked_of_operation hs h hread ho hkind
  intro u hu
  rcases List.mem_append.1 hu with hu | hu
  · rcases List.mem_append.1 hu with hu | hu
    · exact places_of_directives hc hlocation (hgiven (passes_of_validate h ho).directives) _ u hu
    · rw [context_schema, hkind] at hu
      obtain ⟨x, hx, hu⟩ := mem_selectionUsages.1 hu
      exact places_of_checked hc (hchecked x hx) hroot _ u hu
  · obtain ⟨f, hf, hu⟩ := List.mem_flatMap.1 hu
    have hmem := mem_fragments_of_reached hf
    have htype := types_of_reached hs h hread hc hroot hchecked f hf
    obtain ⟨hcomposite, hinner⟩ := checked_of_fragment hs h hread hmem
    rcases List.mem_append.1 hu with hu | hu
    · obtain ⟨cycles, earlier, herrors⟩ := fragment_of_validate h hmem
      simp only [SelectionContext.fragmentErrors, List.append_eq_nil_iff] at herrors
      exact places_of_directives hc (by simp [mutationLocations]) (hgiven herrors.1.1.2) _ u hu
    · rw [context_schema, hcomposite] at hu
      obtain ⟨x, hx, hu⟩ := mem_selectionUsages.1 hu
      exact places_of_checked hc (hinner x hx) htype _ u hu

end

end Document

/-! ## Mutations -/

/-- A place that has a default takes the missing value, too. -/
def LenientPlace (type : Option Ty) (hasDefault : Bool) : Prop :=
  hasDefault = true → ∀ t ∈ type, t.isNonNull = false

/-- The type of the mutations and those of the blog's records. -/
def recordTypes : List String := ["Mutation", "User", "Post", "Comment"]

theorem closes_lenientPlace : blogSchema.Closes LenientPlace where
  none := by simp [LenientPlace]
  item := by simp [LenientPlace]
  items := by simp [LenientPlace]
  field := by
    have hall : ∀ spec ∈ blogSchema.types, ∀ f ∈ spec.inputFields,
        f.defaultValue.isSome = true → f.type.isNonNull = false := by decide +kernel
    intro t hd h spec hspec f hf hdefault type htype
    obtain rfl := Option.some.inj htype
    exact hall spec (List.mem_of_find?_eq_some hspec) f hf hdefault

/-- A field of a mutation or of a record is one that its type declares or the name of the type. -/
theorem mem_fields_of_recordType {t name : String} {f : FieldSpec} (ht : t ∈ recordTypes)
    (h : blogSchema.selectedField? t name = some f) :
    f ∈ MetaSchema.typenameField :: ((blogSchema.type? t).map TypeSpec.fields).getD [] := by
  have hquery : t ≠ blogSchema.queryType := by
    rintro rfl
    exact absurd ht (by simp [recordTypes, blogSchema])
  rcases Schema.selectedField?_cases h with ⟨-, rfl⟩ | ⟨-, htype, -⟩ | ⟨-, htype, -⟩ |
    ⟨-, spec, hspec, hf, -⟩
  · exact List.mem_cons_self
  · exact absurd htype hquery
  · exact absurd htype hquery
  · rw [hspec]
    exact List.mem_cons_of_mem _ hf

theorem confines_recordTypes : blogSchema.Confines recordTypes LenientPlace where
  closes := closes_lenientPlace
  arguments := by
    have hall : ∀ t ∈ recordTypes,
        ∀ f ∈ MetaSchema.typenameField :: ((blogSchema.type? t).map TypeSpec.fields).getD [],
        ∀ i ∈ f.arguments, i.defaultValue.isSome = true → i.type.isNonNull = false := by
      decide +kernel
    intro t ht name f hf i hi hdefault type htype
    obtain rfl := Option.some.inj htype
    exact hall t ht f (mem_fields_of_recordType ht hf) i hi hdefault
  leads := by
    have hall : ∀ t ∈ recordTypes,
        ∀ f ∈ MetaSchema.typenameField :: ((blogSchema.type? t).map TypeSpec.fields).getD [],
        ∀ t' ∈ blogSchema.composite? f.type.base, t' ∈ recordTypes := by decide +kernel
    intro t ht name f hf t' ht'
    exact hall t ht f (mem_fields_of_recordType ht hf) t' ht'
  directives := by
    have hall : ∀ d ∈ blogSchema.directives, ∀ l ∈ mutationLocations, l ∈ d.locations →
        ∀ i ∈ d.arguments, i.defaultValue.isSome = true → i.type.isNonNull = false := by
      decide +kernel
    intro d hd l hl hplace i hi hdefault type htype
    obtain rfl := Option.some.inj htype
    exact hall d hd l hl hplace i hi hdefault

/-- **Mutations keep the places' own defaults**: no variable is used at a place that has a default
and demands a value. -/
theorem Document.placesKept_of_mutation {o : Operation} (h : d.validate blogSchema = [])
    (hread : d.WellRead) (ho : o ∈ d.operations) (hkind : o.kind = .mutation) (vars : Variables) :
    PlacesKept ((d.context blogSchema).usages o) vars := by
  have hlocation : o.kind.word.toUpper ∈ mutationLocations := by
    rw [hkind]
    decide +kernel
  have hroot : blogSchema.rootType? o.kind = some "Mutation" := by
    rw [hkind]
    rfl
  intro u hu hdefault t ht hn
  have hplace := places_of_operation regular_blogSchema h hread confines_recordTypes ho hlocation
    hroot (by simp [recordTypes]) u hu
  exact absurd (hplace hdefault t ht) (by simp [hn])

end BlogGraph.GraphQL
