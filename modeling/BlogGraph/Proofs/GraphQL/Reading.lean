import BlogGraph.Proofs.GraphQL.Calm
import BlogGraph.Proofs.GraphQL.Planned
import BlogGraph.Proofs.Store.Integrity

/-!
# Reading the blog never fails

Fields lead from objects to objects: to records that are stored or are examples, and to parts of the
schema (`Node.Sound`).  On a store in which references find their records and all ages are 32-bit
numbers, every field of such an object has a value that suits its type (`Action.Suits`), so reading
fields that are ready comes to an object, with no error and no report, however deep they go.

Main statements:

* `suits_of_selectedField`: what answering a field of a sound object comes to suits its type;
* `calm_object`: reading ready fields of a sound object is calm.
-/

namespace BlogGraph

namespace Store

/-- All ages are in the range of the type `Int`. -/
def HasAges (s : Store) : Prop :=
  ∀ u ∈ s.users.toList, ∀ n, u.age = some n → GraphQL.Scalar.isInt32 n = true

/-- A store that can be read without failures: references find their records, and ages are in
range. -/
structure Sound (s : Store) : Prop where
  linked : s.Linked
  ages : s.HasAges

end Store

namespace Collection

variable {α : Type} [Identified α] {c : Collection α} {id : String}

theorem exists_get? (h : ∃ a ∈ c.toList, Identified.ident a = id) :
    ∃ a ∈ c.toList, c.get? id = some a := by
  have hsome : (c.get? id).isSome = true := has_eq_true_iff.2 h
  obtain ⟨a, ha⟩ := Option.isSome_iff_exists.1 hsome
  exact ⟨a, (mem_of_get? ha).1, ha⟩

end Collection

namespace Store

variable {s : Store}

theorem mem_of_mem_searchUsers {query : Option String} {u : User} (h : u ∈ s.searchUsers query) :
    u ∈ s.users.toList := by
  rw [searchUsers] at h
  split at h
  · exact h
  · exact (List.mem_filter.1 h).1

theorem mem_of_mem_searchPosts {query : Option String} {p : Post} (h : p ∈ s.searchPosts query) :
    p ∈ s.posts.toList := by
  rw [searchPosts] at h
  split at h
  · exact h
  · exact (List.mem_filter.1 h).1

/-- The author of a post is found: the example's beside the store, all others in it. -/
theorem Linked.exists_authorOf (hs : s.Linked) {p : Post}
    (h : p = examplePost ∨ p ∈ s.posts.toList) :
    ∃ u, (u = exampleUser ∨ u ∈ s.users.toList) ∧
      (Question.authorOf p).answer (some s) = .found (.one (.user u)) := by
  by_cases hid : p.id = examplePost.id
  · exact ⟨exampleUser, Or.inl rfl, by
      simp only [Question.answer, Question.aboutExamples, if_pos hid]⟩
  · have hp : p ∈ s.posts.toList := h.resolve_left fun heq => hid (congrArg Post.id heq)
    obtain ⟨u, hu, hget⟩ := Collection.exists_get? (hs.postAuthor p hp)
    refine ⟨u, Or.inr hu, ?_⟩
    simp only [Question.answer, Question.aboutExamples, if_neg hid, Question.answerFrom,
      Store.authorOf?, hget, Option.map_some, Answer.ofReference]

theorem Linked.exists_commenter (hs : s.Linked) {c : Comment} (h : c ∈ s.comments.toList) :
    ∃ u ∈ s.users.toList, (Question.commenter c).answer (some s) = .found (.one (.user u)) := by
  obtain ⟨u, hu, hget⟩ := Collection.exists_get? (hs.commentAuthor c h)
  refine ⟨u, hu, ?_⟩
  simp only [Question.answer, Question.aboutExamples, Question.answerFrom, Store.commenter?, hget,
    Option.map_some, Answer.ofReference]

theorem Linked.exists_postOf (hs : s.Linked) {c : Comment} (h : c ∈ s.comments.toList) :
    ∃ p ∈ s.posts.toList, (Question.postOf c).answer (some s) = .found (.one (.post p)) := by
  obtain ⟨p, hp, hget⟩ := Collection.exists_get? (hs.commentPost c h)
  refine ⟨p, hp, ?_⟩
  simp only [Question.answer, Question.aboutExamples, Question.answerFrom, Store.postOf?, hget,
    Option.map_some, Answer.ofReference]

end Store

namespace GraphQL

/-! ## Objects and their fields -/

/-- The objects that fields of the blog lead to. -/
def Node.Sound (s : Store) : Node → Prop
  | .query => True
  | .record (.user u) => u = exampleUser ∨ u ∈ s.users.toList
  | .record (.post p) => p = examplePost ∨ p ∈ s.posts.toList
  | .record (.comment c) => c ∈ s.comments.toList
  | .part _ => True

/-- The object is sound, and of the type that is expected. -/
def Node.Suits (s : Store) (type : Ty) (node : Node) : Prop :=
  node.Sound s ∧ blogSchema.composite? type.base = some node.typeName

/-- The value is missing only where it may be, and its numbers and objects are as expected. -/
def FieldValue.Suits (s : Store) (type : Ty) : FieldValue → Prop
  | .leaf v => (v = .null → type.isNonNull = false) ∧ ∀ n, v = .int n → Scalar.isInt32 n = true
  | .leaves _ => True
  | .one node => node.Suits s type
  | .many nodes => ∀ node ∈ nodes, node.Suits s type

/-- What answering a field comes to suits its type; a question is answered without a report. -/
def Action.Suits (s : Store) (type : Ty) : Action → Prop
  | .give v => v.Suits s type
  | .ask q => ∃ found, q.answer (some s) = .found found ∧ (FieldValue.ofFound found).Suits s type

/-- The fields of a named type, with their types. -/
def Schema.fieldTypes (s : Schema) (type : String) : List (String × Ty) :=
  (((s.type? type).map TypeSpec.fields).getD []).map fun f => (f.name, f.type)

theorem Schema.mem_fieldTypes {s : Schema} {type : String} {t : TypeSpec} {f : FieldSpec}
    (ht : s.type? type = some t) (hf : f ∈ t.fields) : (f.name, f.type) ∈ s.fieldTypes type := by
  rw [fieldTypes, ht]
  exact List.mem_map_of_mem hf

/-- The types of objects that fields lead to. -/
theorem composite?_blogSchema : ∀ n ∈ ["User", "Post", "Comment", "__Schema", "__Type", "__Field",
    "__InputValue", "__EnumValue", "__Directive"], blogSchema.composite? n = some n := by
  decide +kernel

/-! ## The answers of a sound store -/

variable {s : Store} {type : Ty} {field : String}

theorem suits_posts {ps : List Post} (h : ∀ p ∈ ps, p ∈ s.posts.toList) :
    (FieldValue.ofFound (.many (ps.map .post))).Suits s (.requiredList "Post") := by
  intro node hnode
  obtain ⟨r, hr, rfl⟩ := List.mem_map.1 hnode
  obtain ⟨p, hp, rfl⟩ := List.mem_map.1 hr
  exact ⟨Or.inr (h p hp), composite?_blogSchema "Post" (by simp)⟩

theorem suits_comments {cs : List Comment} (h : ∀ c ∈ cs, c ∈ s.comments.toList) :
    (FieldValue.ofFound (.many (cs.map .comment))).Suits s (.requiredList "Comment") := by
  intro node hnode
  obtain ⟨r, hr, rfl⟩ := List.mem_map.1 hnode
  obtain ⟨c, hc, rfl⟩ := List.mem_map.1 hr
  exact ⟨h c hc, composite?_blogSchema "Comment" (by simp)⟩

theorem suits_users {us : List User} (h : ∀ u ∈ us, u ∈ s.users.toList) :
    (FieldValue.ofFound (.many (us.map .user))).Suits s (.requiredList "User") := by
  intro node hnode
  obtain ⟨r, hr, rfl⟩ := List.mem_map.1 hnode
  obtain ⟨u, hu, rfl⟩ := List.mem_map.1 hr
  exact ⟨Or.inr (h u hu), composite?_blogSchema "User" (by simp)⟩

theorem suits_user {u : User} (h : u = exampleUser ∨ u ∈ s.users.toList) :
    (FieldValue.ofFound (.one (.user u))).Suits s (.required "User") :=
  ⟨h, composite?_blogSchema "User" (by simp)⟩

theorem suits_post {p : Post} (h : p = examplePost ∨ p ∈ s.posts.toList) :
    (FieldValue.ofFound (.one (.post p))).Suits s (.required "Post") :=
  ⟨h, composite?_blogSchema "Post" (by simp)⟩

theorem exists_authorOf (hs : s.Sound) {p : Post} (h : p = examplePost ∨ p ∈ s.posts.toList) :
    ∃ u, (u = exampleUser ∨ u ∈ s.users.toList) ∧
      (Question.authorOf p).answer (some s) = .found (.one (.user u)) :=
  hs.linked.exists_authorOf h

theorem exists_commenter (hs : s.Sound) {c : Comment} (h : c ∈ s.comments.toList) :
    ∃ u ∈ s.users.toList, (Question.commenter c).answer (some s) = .found (.one (.user u)) :=
  hs.linked.exists_commenter h

theorem exists_postOf (hs : s.Sound) {c : Comment} (h : c ∈ s.comments.toList) :
    ∃ p ∈ s.posts.toList, (Question.postOf c).answer (some s) = .found (.one (.post p)) :=
  hs.linked.exists_postOf h

/-! ## The fields of each kind of object -/

theorem suits_text (t : String) : (Action.give (.leaf (.text t))).Suits s type :=
  ⟨by simp, by simp⟩

theorem suits_bool (b : Bool) : (Action.give (.leaf (.bool b))).Suits s type :=
  ⟨by simp, by simp⟩

theorem suits_user_field (hs : s.Sound) {u : User} (hu : u = exampleUser ∨ u ∈ s.users.toList)
    (h : (field, type) ∈ blogSchema.fieldTypes "User") :
    (Action.ofRecord (.user u) field).Suits s type := by
  have hfields : blogSchema.fieldTypes "User" =
      [("id", .required "ID"), ("name", .required "String"), ("email", .required "String"),
       ("age", .named "Int"), ("posts", .requiredList "Post"),
       ("comments", .requiredList "Comment")] := rfl
  rw [hfields] at h
  simp only [List.mem_cons, Prod.mk.injEq, List.not_mem_nil, or_false] at h
  rcases h with ⟨rfl, rfl⟩ | ⟨rfl, rfl⟩ | ⟨rfl, rfl⟩ | ⟨rfl, rfl⟩ | ⟨rfl, rfl⟩ | ⟨rfl, rfl⟩
  · exact suits_text u.id
  · exact suits_text u.name
  · exact suits_text u.email
  · -- the one number that a field of the blog answers with
    refine ⟨fun _ => rfl, fun n hn => ?_⟩
    have hage : u.age = some n := by
      cases hu : u.age with
      | none => exact absurd hn (by simp [Action.ofAttribute, hu])
      | some m =>
        simp only [Action.ofAttribute, hu, Option.elim_some, Json.int.injEq] at hn
        rw [hn]
    rcases hu with rfl | hu
    · exact absurd hage (by simp [exampleUser])
    · exact hs.ages u hu n hage
  · exact ⟨_, rfl, suits_posts fun p hp => (List.mem_filter.1 hp).1⟩
  · exact ⟨_, rfl, suits_comments fun c hc => (List.mem_filter.1 hc).1⟩

theorem suits_post_field (hs : s.Sound) {p : Post} (hp : p = examplePost ∨ p ∈ s.posts.toList)
    (h : (field, type) ∈ blogSchema.fieldTypes "Post") :
    (Action.ofRecord (.post p) field).Suits s type := by
  have hfields : blogSchema.fieldTypes "Post" =
      [("id", .required "ID"), ("title", .required "String"), ("body", .required "String"),
       ("published", .required "Boolean"), ("author", .required "User"),
       ("comments", .requiredList "Comment")] := rfl
  rw [hfields] at h
  simp only [List.mem_cons, Prod.mk.injEq, List.not_mem_nil, or_false] at h
  rcases h with ⟨rfl, rfl⟩ | ⟨rfl, rfl⟩ | ⟨rfl, rfl⟩ | ⟨rfl, rfl⟩ | ⟨rfl, rfl⟩ | ⟨rfl, rfl⟩
  · exact suits_text p.id
  · exact suits_text p.title
  · exact suits_text p.body
  · exact suits_bool p.published
  · obtain ⟨u, hu, hanswer⟩ := exists_authorOf hs hp
    exact ⟨_, hanswer, suits_user hu⟩
  · exact ⟨_, rfl, suits_comments fun c hc => (List.mem_filter.1 hc).1⟩

theorem suits_comment_field (hs : s.Sound) {c : Comment} (hc : c ∈ s.comments.toList)
    (h : (field, type) ∈ blogSchema.fieldTypes "Comment") :
    (Action.ofRecord (.comment c) field).Suits s type := by
  have hfields : blogSchema.fieldTypes "Comment" =
      [("id", .required "ID"), ("text", .required "String"), ("author", .required "User"),
       ("post", .required "Post")] := rfl
  rw [hfields] at h
  simp only [List.mem_cons, Prod.mk.injEq, List.not_mem_nil, or_false] at h
  rcases h with ⟨rfl, rfl⟩ | ⟨rfl, rfl⟩ | ⟨rfl, rfl⟩ | ⟨rfl, rfl⟩
  · exact suits_text c.id
  · exact suits_text c.text
  · obtain ⟨u, hu, hanswer⟩ := exists_commenter hs hc
    exact ⟨_, hanswer, suits_user (Or.inr hu)⟩
  · obtain ⟨p, hp, hanswer⟩ := exists_postOf hs hc
    exact ⟨_, hanswer, suits_post (Or.inr hp)⟩

theorem suits_query_field {args : Named Json} (h : (field, type) ∈ blogSchema.fieldTypes "Query") :
    (Action.ofQuery blogSchema field args).Suits s type := by
  have hfields : blogSchema.fieldTypes "Query" =
      [("users", .requiredList "User"), ("posts", .requiredList "Post"),
       ("comments", .requiredList "Comment"), ("me", .required "User"),
       ("post", .required "Post")] := rfl
  rw [hfields] at h
  simp only [List.mem_cons, Prod.mk.injEq, List.not_mem_nil, or_false] at h
  rcases h with ⟨rfl, rfl⟩ | ⟨rfl, rfl⟩ | ⟨rfl, rfl⟩ | ⟨rfl, rfl⟩ | ⟨rfl, rfl⟩
  · exact ⟨_, rfl, suits_users fun _ hu => Store.mem_of_mem_searchUsers hu⟩
  · exact ⟨_, rfl, suits_posts fun _ hp => Store.mem_of_mem_searchPosts hp⟩
  · exact ⟨_, rfl, suits_comments fun _ hc => hc⟩
  · exact ⟨_, rfl, suits_user (Or.inl rfl)⟩
  · exact ⟨_, rfl, suits_post (Or.inl rfl)⟩

/-! ## Parts of the schema -/

/-- What a part of the schema says of itself suits a type. -/
abbrev MetaSuits (s : Store) (type : Ty) (v : MetaValue) : Prop :=
  (FieldValue.ofMeta v).Suits s type

theorem suits_part (part : Meta) (hbase : type.base = (Node.part part).typeName) :
    Node.Suits s type (.part part) := by
  refine ⟨trivial, ?_⟩
  rw [hbase]
  cases part <;> exact composite?_blogSchema _ (by simp [Node.typeName])

theorem suits_metaLeaf {v : Json} (hn : v ≠ .null) (hi : ∀ n, v ≠ .int n) :
    MetaSuits s type (.leaf v) :=
  ⟨fun h => absurd h hn, fun n h => absurd h (hi n)⟩

theorem suits_metaText (t : String) : MetaSuits s type (.text t) :=
  suits_metaLeaf (by simp) (by simp)

theorem suits_missing (h : type.isNonNull = false) : MetaSuits s type .missing :=
  ⟨fun _ => h, by simp⟩

theorem suits_optionalText (h : type.isNonNull = false) (t : Option String) :
    MetaSuits s type (.optionalText t) := by
  cases t with
  | none => exact suits_missing h
  | some t => exact suits_metaText t

theorem suits_one {part : Meta} (h : type.base = (Node.part part).typeName) :
    MetaSuits s type (.one part) :=
  suits_part part h

theorem suits_many {parts : List Meta} (h : ∀ part ∈ parts, type.base = (Node.part part).typeName) :
    MetaSuits s type (.many parts) := by
  intro node hnode
  obtain ⟨part, hpart, rfl⟩ := List.mem_map.1 hnode
  exact suits_part part (h part hpart)

theorem suits_many_map {α : Type} {f : α → Meta} (xs : List α)
    (h : ∀ x, type.base = (Node.part (f x)).typeName) : MetaSuits s type (.many (xs.map f)) := by
  refine suits_many fun part hpart => ?_
  obtain ⟨x, -, rfl⟩ := List.mem_map.1 hpart
  exact h x

theorem suits_schema_field (h : (field, type) ∈ blogSchema.fieldTypes "__Schema") :
    MetaSuits s type (Meta.schema.value blogSchema field) := by
  have hfields : blogSchema.fieldTypes "__Schema" =
      [("description", .named "String"), ("types", .requiredList "__Type"),
       ("queryType", .required "__Type"), ("mutationType", .named "__Type"),
       ("subscriptionType", .named "__Type"), ("directives", .requiredList "__Directive")] := rfl
  rw [hfields] at h
  simp only [List.mem_cons, Prod.mk.injEq, List.not_mem_nil, or_false] at h
  rcases h with ⟨rfl, rfl⟩ | ⟨rfl, rfl⟩ | ⟨rfl, rfl⟩ | ⟨rfl, rfl⟩ | ⟨rfl, rfl⟩ | ⟨rfl, rfl⟩
  · exact suits_missing rfl
  · exact suits_many_map _ fun _ => rfl
  · exact suits_one rfl
  · exact suits_one rfl
  · exact suits_missing rfl
  · exact suits_many_map _ fun _ => rfl

theorem suits_field_field (f : FieldSpec) (h : (field, type) ∈ blogSchema.fieldTypes "__Field") :
    MetaSuits s type ((Meta.field f).value blogSchema field) := by
  have hfields : blogSchema.fieldTypes "__Field" =
      [("name", .required "String"), ("description", .named "String"),
       ("args", .requiredList "__InputValue"), ("type", .required "__Type"),
       ("isDeprecated", .required "Boolean"), ("deprecationReason", .named "String")] := rfl
  rw [hfields] at h
  simp only [List.mem_cons, Prod.mk.injEq, List.not_mem_nil, or_false] at h
  rcases h with ⟨rfl, rfl⟩ | ⟨rfl, rfl⟩ | ⟨rfl, rfl⟩ | ⟨rfl, rfl⟩ | ⟨rfl, rfl⟩ | ⟨rfl, rfl⟩
  · exact suits_metaText f.name
  · exact suits_optionalText rfl f.description
  · exact suits_many_map _ fun _ => rfl
  · exact suits_one rfl
  · exact suits_metaLeaf (by simp) (by simp)
  · exact suits_missing rfl

theorem suits_input_field (i : InputSpec)
    (h : (field, type) ∈ blogSchema.fieldTypes "__InputValue") :
    MetaSuits s type ((Meta.input i).value blogSchema field) := by
  have hfields : blogSchema.fieldTypes "__InputValue" =
      [("name", .required "String"), ("description", .named "String"),
       ("type", .required "__Type"), ("defaultValue", .named "String"),
       ("isDeprecated", .required "Boolean"), ("deprecationReason", .named "String")] := rfl
  rw [hfields] at h
  simp only [List.mem_cons, Prod.mk.injEq, List.not_mem_nil, or_false] at h
  rcases h with ⟨rfl, rfl⟩ | ⟨rfl, rfl⟩ | ⟨rfl, rfl⟩ | ⟨rfl, rfl⟩ | ⟨rfl, rfl⟩ | ⟨rfl, rfl⟩
  · exact suits_metaText i.name
  · exact suits_optionalText rfl i.description
  · exact suits_one rfl
  · exact suits_optionalText rfl _
  · exact suits_metaLeaf (by simp) (by simp)
  · exact suits_missing rfl

theorem suits_enumValue_field (n description : String)
    (h : (field, type) ∈ blogSchema.fieldTypes "__EnumValue") :
    MetaSuits s type ((Meta.enumValue n description).value blogSchema field) := by
  have hfields : blogSchema.fieldTypes "__EnumValue" =
      [("name", .required "String"), ("description", .named "String"),
       ("isDeprecated", .required "Boolean"), ("deprecationReason", .named "String")] := rfl
  rw [hfields] at h
  simp only [List.mem_cons, Prod.mk.injEq, List.not_mem_nil, or_false] at h
  rcases h with ⟨rfl, rfl⟩ | ⟨rfl, rfl⟩ | ⟨rfl, rfl⟩ | ⟨rfl, rfl⟩
  · exact suits_metaText n
  · exact suits_metaText description
  · exact suits_metaLeaf (by simp) (by simp)
  · exact suits_missing rfl

theorem suits_directive_field (d : DirectiveSpec)
    (h : (field, type) ∈ blogSchema.fieldTypes "__Directive") :
    MetaSuits s type ((Meta.directive d).value blogSchema field) := by
  have hfields : blogSchema.fieldTypes "__Directive" =
      [("name", .required "String"), ("description", .named "String"),
       ("isRepeatable", .required "Boolean"), ("locations", .requiredList "__DirectiveLocation"),
       ("args", .requiredList "__InputValue")] := rfl
  rw [hfields] at h
  simp only [List.mem_cons, Prod.mk.injEq, List.not_mem_nil, or_false] at h
  rcases h with ⟨rfl, rfl⟩ | ⟨rfl, rfl⟩ | ⟨rfl, rfl⟩ | ⟨rfl, rfl⟩ | ⟨rfl, rfl⟩
  · exact suits_metaText d.name
  · exact suits_metaText d.description
  · exact suits_metaLeaf (by simp) (by simp)
  · exact trivial
  · exact suits_many_map _ fun _ => rfl

/-- A field of the type of types, but for the kind and the type inside, is missing unless the type
is a named one. -/
theorem suits_ofType (hkind : field ≠ "kind") (hinner : field ≠ "ofType")
    (hn : type.isNonNull = false) (h : ∀ spec, MetaSuits s type (Meta.ofNamed spec field))
    (t : Ty) : MetaSuits s type ((Meta.type t).value blogSchema field) := by
  change MetaSuits s type (Meta.ofType blogSchema t field)
  unfold Meta.ofType
  split
  · exact absurd rfl hkind
  · exact absurd rfl hinner
  · exact absurd rfl hinner
  · next n _ =>
    cases blogSchema.type? n with
    | none => exact suits_missing hn
    | some spec => exact h spec
  · exact suits_missing hn

theorem suits_type_field (t : Ty) (h : (field, type) ∈ blogSchema.fieldTypes "__Type") :
    MetaSuits s type ((Meta.type t).value blogSchema field) := by
  have hfields : blogSchema.fieldTypes "__Type" =
      [("kind", .required "__TypeKind"), ("name", .named "String"),
       ("description", .named "String"), ("specifiedByURL", .named "String"),
       ("fields", .list (.required "__Field")), ("interfaces", .list (.required "__Type")),
       ("possibleTypes", .list (.required "__Type")),
       ("enumValues", .list (.required "__EnumValue")),
       ("inputFields", .list (.required "__InputValue")), ("ofType", .named "__Type"),
       ("isOneOf", .named "Boolean")] := rfl
  rw [hfields] at h
  simp only [List.mem_cons, Prod.mk.injEq, List.not_mem_nil, or_false] at h
  rcases h with ⟨rfl, rfl⟩ | ⟨rfl, rfl⟩ | ⟨rfl, rfl⟩ | ⟨rfl, rfl⟩ | ⟨rfl, rfl⟩ | ⟨rfl, rfl⟩ |
    ⟨rfl, rfl⟩ | ⟨rfl, rfl⟩ | ⟨rfl, rfl⟩ | ⟨rfl, rfl⟩ | ⟨rfl, rfl⟩
  · exact suits_metaText _
  · exact suits_ofType (by simp) (by simp) rfl (fun spec => suits_metaText spec.name) t
  · exact suits_ofType (by simp) (by simp) rfl (fun spec => suits_optionalText rfl _) t
  · exact suits_ofType (by simp) (by simp) rfl (fun spec => suits_missing rfl) t
  · refine suits_ofType (by simp) (by simp) rfl (fun spec => ?_) t
    unfold Meta.ofNamed
    cases spec.body with
    | object fields => exact suits_many_map _ fun _ => rfl
    | _ => exact suits_missing rfl
  · refine suits_ofType (by simp) (by simp) rfl (fun spec => ?_) t
    unfold Meta.ofNamed
    cases spec.body with
    | object fields => exact suits_many (by simp)
    | _ => exact suits_missing rfl
  · exact suits_ofType (by simp) (by simp) rfl (fun spec => suits_missing rfl) t
  · refine suits_ofType (by simp) (by simp) rfl (fun spec => ?_) t
    unfold Meta.ofNamed
    cases spec.body with
    | enum values => exact suits_many_map _ fun _ => rfl
    | _ => exact suits_missing rfl
  · refine suits_ofType (by simp) (by simp) rfl (fun spec => ?_) t
    unfold Meta.ofNamed
    cases spec.body with
    | input fields => exact suits_many_map _ fun _ => rfl
    | _ => exact suits_missing rfl
  · cases t with
    | named n =>
      change MetaSuits s _
        ((blogSchema.type? n).elim .missing fun spec => Meta.ofNamed spec "ofType")
      cases blogSchema.type? n with
      | none => exact suits_missing rfl
      | some spec => exact suits_missing rfl
    | list inner => exact suits_one rfl
    | nonNull inner => exact suits_one rfl
  · refine suits_ofType (by simp) (by simp) rfl (fun spec => ?_) t
    unfold Meta.ofNamed
    cases spec.body with
    | input fields => exact suits_metaLeaf (by simp) (by simp)
    | _ => exact suits_missing rfl

theorem eq_query_of_typeName {node : Node} (h : node.typeName = "Query") : node = .query := by
  cases node with
  | query => rfl
  | record r => cases r <;> exact absurd h (by simp [Node.typeName])
  | part part => cases part <;> exact absurd h (by simp [Node.typeName])

/-- A type that is asked for by its name is missing if there is none. -/
theorem suits_named_type (hbase : type.base = "__Type") (hnull : type.isNonNull = false)
    (name : Option String) : Action.Suits s type (match name with
      | some n => .give (if (blogSchema.type? n).isSome then .one (.part (.type (.named n)))
          else .leaf .null)
      | none => .give (.leaf .null)) := by
  cases name with
  | none => exact suits_missing (s := s) hnull
  | some n =>
    dsimp only
    by_cases hn : (blogSchema.type? n).isSome = true
    · rw [if_pos hn]
      exact suits_part (.type _) hbase
    · rw [if_neg hn]
      exact suits_missing (s := s) hnull


/-- **What answering a field of a sound object comes to suits its type.** -/
theorem suits_of_selectedField (hs : s.Sound) {node : Node} (hn : node.Sound s) {f : FieldSpec}
    (h : blogSchema.selectedField? node.typeName field = some f) (args : Named Json) :
    (Action.of blogSchema node field args).Suits s f.type := by
  unfold Action.of
  rcases Schema.selectedField?_cases h with ⟨rfl, -⟩ | ⟨hne, hquery, rfl, rfl⟩ |
    ⟨hne, hquery, rfl, rfl⟩ | ⟨hne, t, ht, hf, rfl⟩
  · rw [if_pos rfl]
    exact suits_text _
  · obtain rfl := eq_query_of_typeName hquery
    rw [if_neg hne]
    exact suits_part .schema rfl
  · obtain rfl := eq_query_of_typeName hquery
    rw [if_neg hne]
    exact suits_named_type rfl rfl (textArgument args "name")
  · have hmem := Schema.mem_fieldTypes ht hf
    rw [if_neg hne]
    cases node with
    | query => exact suits_query_field hmem
    | record r =>
      cases r with
      | user u => exact suits_user_field hs hn hmem
      | post p => exact suits_post_field hs hn hmem
      | comment c => exact suits_comment_field hs hn hmem
    | part part =>
      cases part with
      | schema => exact suits_schema_field hmem
      | type t => exact suits_type_field t hmem
      | field f => exact suits_field_field f hmem
      | input i => exact suits_input_field i hmem
      | enumValue n description => exact suits_enumValue_field n description hmem
      | directive d => exact suits_directive_field d hmem

/-! ## Reading -/

open Completed

/-- A simple value that suits its type is answered. -/
theorem calm_completeLeaf {v : Json} (f : FieldPlace) (path : List PathKey)
    (h : (FieldValue.leaf v).Suits s f.type) : Calm (fun _ => True) (completeLeaf f path v) := by
  unfold completeLeaf
  split
  · rw [if_neg (by simp [h.1 rfl])]
    exact calm_value trivial
  · next n _ =>
    rw [if_pos (h.2 n rfl)]
    exact calm_value trivial
  · exact calm_value trivial

/-- A value that suits its type is completed calmly, when the objects in it are. -/
theorem calm_completeValue {f : FieldPlace} {inside : Answering} {v : FieldValue}
    (h : v.Suits s f.type)
    (hinside : ∀ path node, node.Suits s f.type → Calm (fun _ => True) (inside path node))
    (path : List PathKey) : Calm (fun _ => True) (completeValue f none inside path v) := by
  cases v with
  | leaf v => exact calm_completeLeaf f path h
  | leaves vs => exact calm_value trivial
  | one node => exact hinside path node h
  | many nodes =>
    refine calm_map (P := fun _ => True) (calm_gather (P := fun _ => True) fun c hc => ?_)
      fun _ _ => trivial
    obtain ⟨⟨node, i⟩, hnode, rfl⟩ := List.mem_map.1 hc
    exact hinside _ node (h node (List.fst_mem_of_mem_zipIdx hnode))

mutual

/-- Reading a ready field of a sound object is calm. -/
theorem calm_field (hs : s.Sound) : ∀ (p : PlannedField) {node : Node}, node.Sound s →
    p.Ready blogSchema node.typeName → ∀ path,
    Calm (fun _ => True) (Reading.field ⟨blogSchema, some s⟩ path node p)
  | .mk key name type positions arguments fault inner, node, hn, hp, path => by
    cases hp with
    | mk hspec hargs hinner =>
      rename_i spec args
      have hinside : ∀ path node, node.Suits s spec.type → Calm (fun _ => True)
          (gatherObject (inner.map PlannedField.key)
            (Reading.fields ⟨blogSchema, some s⟩ path node inner)) := by
        intro path node hnode
        exact (calm_gatherObject
          (calm_fields hs inner hnode.1 (hinner _ hnode.2) path) _).mono fun _ _ => trivial
      have hsuits := suits_of_selectedField hs hn hspec args
      rw [Reading.field]
      refine calm_settle ?_ _
      simp only
      split
      · next v hv =>
        rw [hv] at hsuits
        have hvalue : v.Suits s spec.type := hsuits
        exact calm_completeValue hvalue hinside _
      · next q hq =>
        rw [hq] at hsuits
        obtain ⟨found, hfound, hvalue⟩ := hsuits
        simp only [hfound]
        exact calm_completeAnswer (calm_completeValue hvalue hinside _)

/-- Reading ready fields of a sound object is calm. -/
theorem calm_fields (hs : s.Sound) : ∀ (plan : List PlannedField) {node : Node}, node.Sound s →
    (∀ p ∈ plan, p.Ready blogSchema node.typeName) → ∀ path,
    ∀ c ∈ Reading.fields ⟨blogSchema, some s⟩ path node plan, Calm (fun _ => True) c
  | [], _, _, _, _ => by simp [Reading.fields]
  | p :: rest, node, hn, hplan, path => by
    obtain ⟨hp, hrest⟩ := List.forall_mem_cons.1 hplan
    rw [Reading.fields]
    exact List.forall_mem_cons.2 ⟨calm_field hs p hn hp path, calm_fields hs rest hn hrest path⟩

end

/-- **Reading ready fields of a sound object comes to an object**, with no error and no report,
however deep the fields go. -/
theorem calm_object (hs : s.Sound) {plan : Plan} {node : Node} (hn : node.Sound s)
    (hplan : ∀ p ∈ plan, p.Ready blogSchema node.typeName) (path : List PathKey) :
    Calm (fun v => ∃ fields, v = .object fields)
      (Reading.object ⟨blogSchema, some s⟩ path node plan) :=
  calm_gatherObject (calm_fields hs plan hn hplan path) _

end GraphQL
end BlogGraph
