import BlogGraph.GraphQL.Action
import BlogGraph.Proofs.GraphQL.Validity

/-!
# The arguments of the mutations

Arguments that are in the form of their types stand for a command, whichever mutation they are for,
and a new user among them has an age that the type `Int` can hold, if any.

Main statements:

* `Command.exists_ofField?`: a mutation with arguments in form stands for a command;
* `Command.hasAge_of_ofField?`: the age of a new user is in range.
-/

namespace BlogGraph
namespace GraphQL

variable {s : Schema} {specs : List InputSpec} {given : Named Json} {name : String} {v : Json}

/-! ## Fields in form -/

theorem get?_cons (n : String) (v : Json) (others : Named Json) (name : String) :
    Named.get? ((n, v) :: others) name = if n = name then some v else others.get? name := by
  by_cases h : n = name <;> simp [Named.get?, h]

/-- A field that is there is declared, and in form or the default. -/
theorem of_get?_of_conform (h : FieldsConform s specs given) (hv : given.get? name = some v) :
    ∃ f ∈ specs, f.name = name ∧ (Conforms s f.type v ∨ f.defaultValue = some v) := by
  induction specs generalizing given with
  | nil =>
    cases h
    exact absurd hv (by simp [Named.get?])
  | cons f rest ih =>
    cases h with
    | given hf hrest =>
      rw [get?_cons] at hv
      split at hv
      · next hname =>
        obtain rfl := Option.some.inj hv
        exact ⟨f, List.mem_cons_self, hname, Or.inl hf⟩
      · obtain ⟨g, hg, hgname⟩ := ih hrest hv
        exact ⟨g, List.mem_cons_of_mem _ hg, hgname⟩
    | default hf hrest =>
      rw [get?_cons] at hv
      split at hv
      · next hname =>
        obtain rfl := Option.some.inj hv
        exact ⟨f, List.mem_cons_self, hname, Or.inr hf⟩
      · obtain ⟨g, hg, hgname⟩ := ih hrest hv
        exact ⟨g, List.mem_cons_of_mem _ hg, hgname⟩
    | absent hf hrest =>
      obtain ⟨g, hg, hgname⟩ := ih hrest hv
      exact ⟨g, List.mem_cons_of_mem _ hg, hgname⟩

/-- A field that must be there is there. -/
theorem exists_get?_of_required (h : FieldsConform s specs given)
    (hnodup : (specs.map InputSpec.name).Nodup) {f : InputSpec} (hf : f ∈ specs)
    (hreq : f.isRequired = true) : ∃ v, given.get? f.name = some v ∧ Conforms s f.type v := by
  have hnone : f.defaultValue = none := by
    rw [InputSpec.isRequired, Bool.and_eq_true, Option.isNone_iff_eq_none] at hreq
    exact hreq.2
  induction specs generalizing given with
  | nil => exact absurd hf (by simp)
  | cons g rest ih =>
    rw [List.map_cons, List.nodup_cons] at hnodup
    rcases List.mem_cons.1 hf with rfl | hf
    · cases h with
      | given hv hrest => exact ⟨_, by rw [get?_cons, if_pos rfl], hv⟩
      | default hv hrest => exact absurd hv (by simp [hnone])
      | absent hv hrest => exact absurd hreq (by simp [hv])
    · have hne : g.name ≠ f.name := fun hname => hnodup.1 (hname ▸ List.mem_map_of_mem hf)
      cases h with
      | given hv hrest =>
        rw [get?_cons, if_neg hne]
        exact ih hrest hnodup.2 hf
      | default hv hrest =>
        rw [get?_cons, if_neg hne]
        exact ih hrest hnodup.2 hf
      | absent hv hrest => exact ih hrest hnodup.2 hf

/-! ## Values of the schema's types -/

theorem ofValue_of_conforms (spec : TypeSpec) (x : Scalar) {n : String}
    (hn : s.type? n = some spec) (hbody : spec.body = .scalar)
    (hx : Scalar.ofName? spec.name = some x) (h : Conforms s (.named n) v) (hv : v ≠ .null) :
    x.ofValue v = .ok v := by
  cases h with
  | null _ => exact absurd rfl hv
  | leaf hn' _ hleaf =>
    obtain rfl := Option.some.inj (hn.symm.trans hn')
    simpa only [TypeSpec.leafOfValue, hbody, hx] using hleaf
  | object hn' hbody' _ =>
    obtain rfl := Option.some.inj (hn.symm.trans hn')
    exact absurd hbody' (by simp [hbody])

theorem nonNull_inv {t : Ty} (h : Conforms s (.nonNull t) v) : Conforms s t v ∧ v ≠ .null := by
  cases h with
  | null h => exact absurd h (by simp [Ty.isNonNull])
  | nonNull h hv => exact ⟨h, hv⟩

theorem text_of_string (h : Conforms blogSchema (.required "String") v) : ∃ t, v = .text t := by
  obtain ⟨h, hv⟩ := nonNull_inv h
  have hvalue := ofValue_of_conforms MetaSchema.stringType .string rfl rfl rfl h hv
  cases v with
  | text t => exact ⟨t, rfl⟩
  | _ => exact absurd hvalue (by simp [Scalar.ofValue])

theorem text_of_id (h : Conforms blogSchema (.required "ID") v) : ∃ t, v = .text t := by
  obtain ⟨h, hv⟩ := nonNull_inv h
  have hvalue := ofValue_of_conforms MetaSchema.idType .id rfl rfl rfl h hv
  cases v with
  | text t => exact ⟨t, rfl⟩
  | _ =>
    simp only [Scalar.ofValue] at hvalue
    split at hvalue <;> exact absurd hvalue (by simp)

theorem bool_of_boolean (h : Conforms blogSchema (.required "Boolean") v) : ∃ b, v = .bool b := by
  obtain ⟨h, hv⟩ := nonNull_inv h
  have hvalue := ofValue_of_conforms MetaSchema.booleanType .boolean rfl rfl rfl h hv
  cases v with
  | bool b => exact ⟨b, rfl⟩
  | _ => exact absurd hvalue (by simp [Scalar.ofValue])

theorem isInt32_of_int {n : Int} (h : Conforms blogSchema (.named "Int") (.int n)) :
    Scalar.isInt32 n = true := by
  have hvalue := ofValue_of_conforms MetaSchema.intType .int rfl rfl rfl h (by simp)
  simp only [Scalar.ofValue, Scalar.wholeNumber?] at hvalue
  split at hvalue
  · assumption
  · exact absurd hvalue (by simp)

theorem object_of_input (spec : TypeSpec) {n : String} {fields : List InputSpec}
    (hn : s.type? n = some spec) (hbody : spec.body = .input fields)
    (h : Conforms s (.required n) v) :
    ∃ given, v = .object given ∧ FieldsConform s fields given := by
  obtain ⟨h, hv⟩ := nonNull_inv h
  cases h with
  | null _ => exact absurd rfl hv
  | leaf hn' hleaf _ =>
    obtain rfl := Option.some.inj (hn.symm.trans hn')
    exact absurd hbody (TypeSpec.body_ne_input spec hleaf fields)
  | object hn' hbody' hfields =>
    obtain rfl := Option.some.inj (hn.symm.trans hn')
    obtain rfl := TypeBody.input.inj (hbody.symm.trans hbody')
    exact ⟨_, rfl, hfields⟩

/-! ## New records -/

/-- An input object in form is a new user, whose age is in range. -/
theorem exists_newUser (h : Conforms blogSchema (.required "CreateUserInput") v) :
    ∃ u, NewUser.ofJson v = some u ∧ ∀ n, u.age = some n → Scalar.isInt32 n = true := by
  obtain ⟨given, rfl, hfields⟩ := object_of_input BlogSchema.createUserInput rfl rfl h
  obtain ⟨name, hname, hcname⟩ := exists_get?_of_required hfields (by decide) List.mem_cons_self rfl
  obtain ⟨email, hemail, hcemail⟩ := exists_get?_of_required hfields (by decide)
    (List.mem_cons_of_mem _ List.mem_cons_self) rfl
  obtain ⟨name, rfl⟩ := text_of_string hcname
  obtain ⟨email, rfl⟩ := text_of_string hcemail
  have hname' : (Json.object given).get? "name" = some (.text name) := hname
  have hemail' : (Json.object given).get? "email" = some (.text email) := hemail
  refine ⟨_, by simp only [NewUser.ofJson, hname', hemail', Option.bind_eq_bind, Option.bind_some,
    Option.pure_def]; rfl, ?_⟩
  intro n hn
  simp only at hn
  split at hn
  · next m hage =>
    obtain rfl := Option.some.inj hn
    obtain ⟨f, hf, hfname, hform⟩ := of_get?_of_conform hfields hage
    rcases List.mem_cons.1 hf with rfl | hf
    · exact absurd hfname (by decide)
    · rcases List.mem_cons.1 hf with rfl | hf
      · exact absurd hfname (by decide)
      · obtain rfl := List.mem_singleton.1 hf
        rcases hform with hform | hdefault
        · exact isInt32_of_int hform
        · exact absurd hdefault (by simp)
  · exact absurd hn (by simp)

theorem exists_newPost (h : Conforms blogSchema (.required "CreatePostInput") v) :
    ∃ p, NewPost.ofJson v = some p := by
  obtain ⟨given, rfl, hfields⟩ := object_of_input BlogSchema.createPostInput rfl rfl h
  obtain ⟨title, htitle, hctitle⟩ := exists_get?_of_required hfields (by decide)
    List.mem_cons_self rfl
  obtain ⟨body, hbody, hcbody⟩ := exists_get?_of_required hfields (by decide)
    (List.mem_cons_of_mem _ List.mem_cons_self) rfl
  obtain ⟨published, hpublished, hcpublished⟩ := exists_get?_of_required hfields (by decide)
    (List.mem_cons_of_mem _ (List.mem_cons_of_mem _ List.mem_cons_self)) rfl
  obtain ⟨author, hauthor, hcauthor⟩ := exists_get?_of_required hfields (by decide)
    (List.mem_cons_of_mem _ (List.mem_cons_of_mem _ (List.mem_cons_of_mem _ List.mem_cons_self)))
    rfl
  obtain ⟨title, rfl⟩ := text_of_string hctitle
  obtain ⟨body, rfl⟩ := text_of_string hcbody
  obtain ⟨published, rfl⟩ := bool_of_boolean hcpublished
  obtain ⟨author, rfl⟩ := text_of_id hcauthor
  have htitle' : (Json.object given).get? "title" = some (.text title) := htitle
  have hbody' : (Json.object given).get? "body" = some (.text body) := hbody
  have hpublished' : (Json.object given).get? "published" = some (.bool published) := hpublished
  have hauthor' : (Json.object given).get? "author" = some (.text author) := hauthor
  exact ⟨_, by simp only [NewPost.ofJson, htitle', hbody', hpublished', hauthor',
    Option.bind_eq_bind, Option.bind_some, Option.pure_def]; rfl⟩

theorem exists_newComment (h : Conforms blogSchema (.required "CreateCommentInput") v) :
    ∃ c, NewComment.ofJson v = some c := by
  obtain ⟨given, rfl, hfields⟩ := object_of_input BlogSchema.createCommentInput rfl rfl h
  obtain ⟨text, htext, hctext⟩ := exists_get?_of_required hfields (by decide)
    List.mem_cons_self rfl
  obtain ⟨author, hauthor, hcauthor⟩ := exists_get?_of_required hfields (by decide)
    (List.mem_cons_of_mem _ List.mem_cons_self) rfl
  obtain ⟨post, hpost, hcpost⟩ := exists_get?_of_required hfields (by decide)
    (List.mem_cons_of_mem _ (List.mem_cons_of_mem _ List.mem_cons_self)) rfl
  obtain ⟨text, rfl⟩ := text_of_string hctext
  obtain ⟨author, rfl⟩ := text_of_id hcauthor
  obtain ⟨post, rfl⟩ := text_of_id hcpost
  have htext' : (Json.object given).get? "text" = some (.text text) := htext
  have hauthor' : (Json.object given).get? "author" = some (.text author) := hauthor
  have hpost' : (Json.object given).get? "post" = some (.text post) := hpost
  exact ⟨_, by simp only [NewComment.ofJson, htext', hauthor', hpost', Option.bind_eq_bind,
    Option.bind_some, Option.pure_def]; rfl⟩

end GraphQL

/-! ## The commands of mutations -/

namespace Command

open GraphQL

/-- If a command makes a user, the age is one that the type `Int` can hold. -/
def HasAge (command : Command) : Prop :=
  ∀ input, command = .createUser input → ∀ n, input.age = some n → Scalar.isInt32 n = true

/-- The fields of a mutation: the name of its type, and the three commands. -/
theorem mutationField_cases {name : String} {spec : FieldSpec}
    (h : blogSchema.selectedField? "Mutation" name = some spec) :
    name = "__typename" ∧ spec = MetaSchema.typenameField ∨
    name = "createUser" ∧ spec = ⟨"createUser",
      [⟨"data", .required "CreateUserInput", none, none⟩], .required "User", none⟩ ∨
    name = "createPost" ∧ spec = ⟨"createPost",
      [⟨"data", .required "CreatePostInput", none, none⟩], .required "Post", none⟩ ∨
    name = "createComment" ∧ spec = ⟨"createComment",
      [⟨"data", .required "CreateCommentInput", none, none⟩], .required "Comment", none⟩ := by
  rcases Schema.selectedField?_cases h with ⟨hname, rfl⟩ | ⟨-, htype, -⟩ | ⟨-, htype, -⟩ |
    ⟨-, t, ht, hf, rfl⟩
  · exact Or.inl ⟨hname, rfl⟩
  · exact absurd htype (by simp [blogSchema])
  · exact absurd htype (by simp [blogSchema])
  · obtain rfl : BlogSchema.mutationType = t := Option.some.inj ht
    refine Or.inr ?_
    rcases List.mem_cons.1 hf with rfl | hf
    · exact Or.inl ⟨rfl, rfl⟩
    · rcases List.mem_cons.1 hf with rfl | hf
      · exact Or.inr (Or.inl ⟨rfl, rfl⟩)
      · obtain rfl := List.mem_singleton.1 hf
        exact Or.inr (Or.inr ⟨rfl, rfl⟩)

variable {name : String} {spec : FieldSpec} {args : Named Json}

/-- The name of the type is no command, whatever is given with it. -/
theorem ofField?_typename (args : Named Json) : ofField? "__typename" args = none := by
  rw [ofField?]
  cases args.get? "data" <;> rfl

/-- A mutation with arguments in form stands for a command, the new user's age is in range, and the
new record is of the type that the field is answered with. -/
theorem exists_ofField? (h : blogSchema.selectedField? "Mutation" name = some spec)
    (hname : name ≠ "__typename") (hargs : FieldsConform blogSchema spec.arguments args) :
    ∃ command, ofField? name args = some command ∧ command.HasAge ∧ ∀ id,
      blogSchema.composite? spec.type.base = some (Node.record (command.record id)).typeName := by
  rcases mutationField_cases h with ⟨htypename, -⟩ | ⟨rfl, rfl⟩ | ⟨rfl, rfl⟩ | ⟨rfl, rfl⟩
  · exact absurd htypename hname
  · obtain ⟨data, hdata, hform⟩ := exists_get?_of_required hargs (by simp) List.mem_cons_self rfl
    obtain ⟨u, hu, hage⟩ := exists_newUser hform
    refine ⟨.createUser u, ?_, ?_, fun id => rfl⟩
    · simp only [ofField?, hdata, hu, Option.bind_eq_bind, Option.bind_some, Option.pure_def]
    · rintro input heq
      obtain rfl := Command.createUser.inj heq
      exact hage
  · obtain ⟨data, hdata, hform⟩ := exists_get?_of_required hargs (by simp) List.mem_cons_self rfl
    obtain ⟨p, hp⟩ := exists_newPost hform
    refine ⟨.createPost p, ?_, fun input heq => absurd heq (by simp), fun id => rfl⟩
    simp only [ofField?, hdata, hp, Option.bind_eq_bind, Option.bind_some, Option.pure_def]
  · obtain ⟨data, hdata, hform⟩ := exists_get?_of_required hargs (by simp) List.mem_cons_self rfl
    obtain ⟨c, hc⟩ := exists_newComment hform
    refine ⟨.createComment c, ?_, fun input heq => absurd heq (by simp), fun id => rfl⟩
    simp only [ofField?, hdata, hc, Option.bind_eq_bind, Option.bind_some, Option.pure_def]

/-- Whatever command a field with arguments in form stands for, the new user's age is in range. -/
theorem hasAge_of_ofField? (h : blogSchema.selectedField? "Mutation" name = some spec)
    (hargs : FieldsConform blogSchema spec.arguments args) {command : Command}
    (hcommand : ofField? name args = some command) : command.HasAge := by
  by_cases hname : name = "__typename"
  · rw [hname, ofField?_typename] at hcommand
    exact absurd hcommand (by simp)
  · obtain ⟨command', hcommand', hage, -⟩ := exists_ofField? h hname hargs
    obtain rfl := Option.some.inj (hcommand.symm.trans hcommand')
    exact hage

end Command
end BlogGraph
