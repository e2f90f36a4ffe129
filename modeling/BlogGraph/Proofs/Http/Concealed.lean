import BlogGraph.Proofs.GraphQL.Outline
import BlogGraph.Proofs.Http.Declared

/-!
# Names and the contents of strings

The name of an operation is searched for in the text of a document as it stands, so the contents of
its strings and comments are searched too.  They leave the name alone if they are silent: none of
them has a sign of introspection, and no word for an operation in them has a name after it
(`Silent`).  Then the name is that of the outline of the document (`ofText_emptied`), and documents
of one outline have one name (`silent_contents_keep_the_name`).  A search text such as `query cats`
is not silent, and names an operation that has no name (`search_text_names_the_operation`).

Contents stand between marks, and no word that is searched for has a mark in it.  So a place with a
name lies in front of a mark or behind it, and contents can be taken out one after the other.

Main statements:

* `findName?_append_mark`: a search in front of a mark and behind it;
* `ofText_erase`: silent contents can be taken out;
* `silent_contents_keep_the_name`: documents that differ in silent contents only.
-/

namespace BlogGraph.OperationName

open Text GraphQL

variable {word needle name cs rest before after content : List Char} {c d : Char} {inWord : Bool}

/-! ## In front of a mark and behind it -/

/-- What begins a text and has no mark in it ends in front of the first mark. -/
theorem exists_of_append_eq {front left : List Char} (hd : d ∉ front)
    (h : front ++ left = cs ++ d :: rest) :
    ∃ middle, cs = front ++ middle ∧ left = middle ++ d :: rest := by
  rcases List.append_eq_append_iff.1 h with ⟨middle, hcs, hleft⟩ | ⟨middle, hfront, hrest⟩
  · exact ⟨middle, hcs, hleft⟩
  · cases middle with
    | nil => exact ⟨[], by simpa using hfront.symm, by simpa using hrest.symm⟩
    | cons c middle =>
      obtain ⟨rfl, -⟩ := List.cons.inj hrest
      exact absurd (by simp [hfront]) hd

theorem prefix_append_mark_iff (hd : d ∉ needle) (cs rest : List Char) :
    needle <+: cs ++ d :: rest ↔ needle <+: cs := by
  constructor
  · rintro ⟨left, hleft⟩
    obtain ⟨middle, rfl, -⟩ := exists_of_append_eq hd hleft
    exact List.prefix_append _ _
  · exact fun h => h.trans (List.prefix_append _ _)

theorem infix_append_mark_iff (hd : d ∉ needle) :
    needle <:+: cs ++ d :: rest ↔ needle <:+: cs ∨ needle <:+: rest := by
  induction cs with
  | nil =>
    have hhere : needle <+: d :: rest ↔ needle <+: [] := prefix_append_mark_iff hd [] rest
    rw [List.nil_append, List.infix_cons_iff, hhere, List.prefix_nil, List.infix_nil]
  | cons c cs ih =>
    have hhere : needle <+: c :: (cs ++ d :: rest) ↔ needle <+: c :: cs :=
      prefix_append_mark_iff hd (c :: cs) rest
    rw [List.cons_append, List.infix_cons_iff, hhere, ih, List.infix_cons_iff, or_assoc]

/-- A character that stands in no word that is searched for, and goes on none. -/
structure IsMark (d : Char) : Prop where
  word : isWordChar d = false
  query : d ∉ queryWord
  mutation : d ∉ mutationWord
  schema : d ∉ "__schema".toList
  introspection : d ∉ "IntrospectionQuery".toList

theorem isMark_of_mem {d : Char} (hd : d ∈ marks) : IsMark d := by
  simp only [marks, List.mem_cons, List.not_mem_nil, or_false] at hd
  rcases hd with rfl | rfl | rfl | rfl
  all_goals exact ⟨by decide +kernel, by decide, by decide, by decide, by decide⟩

theorem introspects_append_mark_iff (hd : IsMark d) (cs rest : List Char) :
    Introspects (cs ++ d :: rest) ↔ Introspects cs ∨ Introspects rest := by
  rw [Introspects, infix_append_mark_iff hd.schema, infix_append_mark_iff hd.introspection,
    Introspects, Introspects]
  exact or_or_or_comm

theorem goesOn_append_mark (hd : isWordChar d = false) (cs rest : List Char) :
    goesOn (cs ++ d :: rest) = goesOn cs := by
  cases cs with
  | nil => exact hd
  | cons c cs => rfl

/-- A name that begins in front of a mark, which is not blank, ends there too. -/
theorem startsNamed_append_mark_iff (hword : d ∉ word) (hblank : isBlank d = false)
    (hd : isWordChar d = false) (cs rest : List Char) :
    StartsNamed word name (cs ++ d :: rest) ↔ StartsNamed word name cs := by
  constructor
  · rintro ⟨blanks, after, hcs, hsome, hblanks, hne, hname, hafter⟩
    have hfront : d ∉ word ++ (blanks ++ name) := by
      rw [List.mem_append, List.mem_append]
      rintro (h | h | h)
      · exact hword h
      · rw [hblanks d h] at hblank
        exact absurd hblank (by decide)
      · rw [hname d h] at hd
        exact absurd hd (by decide)
    rw [← List.append_assoc blanks, ← List.append_assoc word] at hcs
    obtain ⟨middle, rfl, rfl⟩ := exists_of_append_eq hfront hcs.symm
    rw [goesOn_append_mark hd] at hafter
    exact ⟨blanks, middle, by simp only [List.append_assoc], hsome, hblanks, hne, hname, hafter⟩
  · rintro ⟨blanks, after, rfl, hsome, hblanks, hne, hname, hafter⟩
    refine ⟨blanks, after ++ d :: rest, by simp only [List.append_assoc], hsome, hblanks, hne,
      hname, ?_⟩
    rwa [goesOn_append_mark hd]

theorem nameAfter?_append_mark (hword : d ∉ word) (hblank : isBlank d = false)
    (hd : isWordChar d = false) (cs rest : List Char) :
    nameAfter? word (cs ++ d :: rest) = nameAfter? word cs := by
  refine Option.ext fun name => ?_
  rw [nameAfter?_eq_some_iff, nameAfter?_eq_some_iff]
  exact startsNamed_append_mark_iff hword hblank hd cs rest

/-- **A search goes to the mark**, and behind it if it found nothing in front. -/
theorem findName?_append_mark (hword : d ∉ word) (hblank : isBlank d = false)
    (hd : isWordChar d = false) (inWord : Bool) (cs rest : List Char) :
    findName? word inWord (cs ++ d :: rest) =
      (findName? word inWord cs).or (findName? word false rest) := by
  induction cs generalizing inWord with
  | nil =>
    have hnone : ∀ name, ¬ StartsNamed word name (d :: rest) := fun name h =>
      not_startsNamed_nil ((startsNamed_append_mark_iff hword hblank hd [] rest).1 h)
    rw [List.nil_append, findName?_cons_of_none fun _ => hnone, hd, findName?, Option.none_or]
  | cons c cs ih =>
    have hhere : nameAfter? word (c :: (cs ++ d :: rest)) = nameAfter? word (c :: cs) :=
      nameAfter?_append_mark hword hblank hd (c :: cs) rest
    rw [List.cons_append, findName?, findName?, hhere, ih]
    split
    · rfl
    · rfl

/-! ## Silent contents -/

/-- No name begins in the contents, however the text goes on after them. -/
def NamesNothing (word content after : List Char) : Prop :=
  ∀ i < content.length, endsInWord false (content.take i) = false →
    nameAfter? word (content.drop i ++ after) = none

/-- Contents that change nothing about the name of a document. -/
structure SilentBefore (content after : List Char) : Prop where
  introspection : ¬ Introspects content
  query : NamesNothing queryWord content after
  mutation : NamesNothing mutationWord content after

/-- All contents of a document are silent. -/
def Silent : List Segment → Prop
  | [] => True
  | s :: rest => SilentBefore s.content (s.closing ++ textOf rest) ∧ Silent rest

/-- The search passes over contents in which no name begins. -/
theorem findName?_append_of_none
    (h : ∀ i < content.length, endsInWord inWord (content.take i) = false →
      nameAfter? word (content.drop i ++ after) = none) :
    findName? word inWord (content ++ after) =
      findName? word (endsInWord inWord content) after := by
  induction content generalizing inWord with
  | nil => rfl
  | cons c content ih =>
    have hhere : inWord = false → ∀ name, ¬ StartsNamed word name (c :: (content ++ after)) := by
      intro hword name hname
      have hnone : nameAfter? word (c :: (content ++ after)) = none := h 0 (by simp) hword
      rw [nameAfter?_eq_some_iff.2 hname] at hnone
      exact absurd hnone (by simp)
    rw [List.cons_append, findName?_cons_of_none hhere, endsInWord_cons]
    refine ih fun i hi hends => ?_
    have hlater := h (i + 1) (by simpa using hi)
    rw [List.take_succ_cons, endsInWord_cons] at hlater
    exact hlater hends

/-- Whether a word goes on does not matter at a mark or at the end. -/
theorem findName?_of_marked (hmark : ∀ d ∈ after.head?, d ∉ word ∧ isWordChar d = false)
    (hword : word ≠ []) (inWord : Bool) :
    findName? word inWord after = findName? word false after := by
  cases after with
  | nil => rfl
  | cons d after =>
    obtain ⟨hd, hchar⟩ := hmark d rfl
    have hnone : ∀ name, ¬ StartsNamed word name (d :: after) := by
      rintro name ⟨blanks, left, hcs, -⟩
      obtain ⟨w, word, rfl⟩ := List.exists_cons_of_ne_nil hword
      obtain ⟨rfl, -⟩ := List.cons.inj hcs
      exact hd (List.mem_cons_self ..)
    rw [findName?_cons_of_none fun _ => hnone, findName?_cons_of_none fun _ => hnone]

/-- The search behind silent contents is the search behind none. -/
theorem NamesNothing.findName?_eq (h : NamesNothing word content after)
    (hmark : ∀ d ∈ after.head?, d ∉ word ∧ isWordChar d = false) (hword : word ≠ []) :
    findName? word false (content ++ after) = findName? word false after := by
  rw [findName?_append_of_none h, findName?_of_marked hmark hword]

theorem not_introspects_nil : ¬ Introspects [] := by
  rintro (h | h)
  · exact absurd (List.infix_nil.1 h) (by decide)
  · exact absurd (List.infix_nil.1 h) (by decide)

/-- In front of a mark or the end, contents show no sign of introspection of their own. -/
theorem introspects_append_iff (hquiet : ¬ Introspects content)
    (hmark : ∀ d ∈ after.head?, IsMark d) :
    Introspects (content ++ after) ↔ Introspects after := by
  cases after with
  | nil => simpa using iff_of_false hquiet not_introspects_nil
  | cons d after =>
    have hd := hmark d rfl
    have hafter : Introspects (d :: after) ↔ Introspects [] ∨ Introspects after :=
      introspects_append_mark_iff hd [] after
    rw [introspects_append_mark_iff hd, hafter, or_iff_right hquiet,
      or_iff_right not_introspects_nil]

/-- What stands behind a mark that is not blank does not open the document. -/
theorem isPrefixOf_dropBlanks_append_mark (hword : d ∉ word) (hblank : isBlank d = false)
    (cs rest : List Char) :
    word.isPrefixOf (dropBlanks (cs ++ d :: rest)) = word.isPrefixOf (dropBlanks cs) := by
  have hdrop : dropBlanks (cs ++ d :: rest) = dropBlanks cs ++ d :: rest := by
    rw [dropBlanks, List.dropWhile_append, dropBlanks]
    split
    · next hempty =>
      rw [List.isEmpty_iff.1 hempty, List.dropWhile_cons_of_neg (by simp [hblank]), List.nil_append]
    · rfl
  rw [hdrop, Bool.eq_iff_iff, List.isPrefixOf_iff_prefix, List.isPrefixOf_iff_prefix,
    prefix_append_mark_iff hword]

/-- What the name of a document depends on. -/
theorem ofText_congr {cs₁ cs₂ : List Char} (hquiet : Introspects cs₁ ↔ Introspects cs₂)
    (hquery : findName? queryWord false cs₁ = findName? queryWord false cs₂)
    (hmutation : findName? mutationWord false cs₁ = findName? mutationWord false cs₂)
    (hkind : mutationWord.isPrefixOf (dropBlanks cs₁) = mutationWord.isPrefixOf (dropBlanks cs₂)) :
    ofText cs₁ = ofText cs₂ := by
  have hsign : isIntrospection cs₁ = isIntrospection cs₂ := by
    rw [Bool.eq_iff_iff, isIntrospection_iff, isIntrospection_iff, hquiet]
  rw [ofText, ofText, hsign, hquery, hmutation, hkind]

/-- **Silent contents can be taken out** of a document where they stand between a mark that is not
blank and another mark or the end. -/
theorem ofText_erase (hsilent : SilentBefore content after) (hd : IsMark d)
    (hblank : isBlank d = false) (hmark : ∀ c ∈ after.head?, IsMark c) (before : List Char) :
    ofText (before ++ d :: (content ++ after)) = ofText (before ++ d :: after) := by
  refine ofText_congr ?_ ?_ ?_ ?_
  · rw [introspects_append_mark_iff hd, introspects_append_mark_iff hd,
      introspects_append_iff hsilent.introspection hmark]
  · rw [findName?_append_mark hd.query hblank hd.word,
      findName?_append_mark hd.query hblank hd.word,
      hsilent.query.findName?_eq (fun c hc => ⟨(hmark c hc).query, (hmark c hc).word⟩) (by decide)]
  · rw [findName?_append_mark hd.mutation hblank hd.word,
      findName?_append_mark hd.mutation hblank hd.word,
      hsilent.mutation.findName?_eq (fun c hc => ⟨(hmark c hc).mutation, (hmark c hc).word⟩)
        (by decide)]
  · rw [isPrefixOf_dropBlanks_append_mark hd.mutation hblank,
      isPrefixOf_dropBlanks_append_mark hd.mutation hblank]

/-! ## Documents of one outline -/

/-- The contents of the first segment can be taken out if they are silent. -/
theorem ofText_emptied_head {s : Segment} {ss : List Segment} (hmarked : s.Marked (textOf ss))
    (hsilent : SilentBefore s.content (s.closing ++ textOf ss)) (before : List Char) :
    ofText (before ++ textOf (s :: ss)) = ofText (before ++ (s.emptied.text ++ textOf ss)) := by
  obtain ⟨opening, content, closing⟩ := s
  obtain hnone | ⟨⟨front, d, rfl, hd⟩, hmarks⟩ := hmarked
  · subst hnone
    rfl
  · have hblank : isBlank d = false := by
      rcases hd with rfl | rfl
      · decide
      · decide
    have hmark : IsMark d := by
      rcases hd with rfl | rfl
      · exact isMark_of_mem (by decide)
      · exact isMark_of_mem (by decide)
    have herase := ofText_erase hsilent hmark hblank (fun c hc => isMark_of_mem (hmarks c hc))
      (before ++ front)
    simpa [textOf, Segment.text, Segment.emptied] using herase

/-- **The name of a document** with silent contents is that of its outline. -/
theorem ofText_emptied {ss : List Segment} (hmarked : Marked ss) (hsilent : Silent ss)
    (before : List Char) :
    ofText (before ++ textOf ss) = ofText (before ++ textOf (ss.map Segment.emptied)) := by
  induction ss generalizing before with
  | nil => rfl
  | cons s ss ih =>
    -- the contents go out from the front, so that the segments to come stay as they are
    rw [ofText_emptied_head hmarked.1 hsilent.1, ← List.append_assoc, ih hmarked.2 hsilent.2,
      List.append_assoc]
    rfl

/-- Documents of one outline with silent contents have one name. -/
theorem ofText_eq_of_outline {cs₁ cs₂ : List Char} (houtline : outline cs₁ = outline cs₂)
    (h₁ : Silent (segments cs₁)) (h₂ : Silent (segments cs₂)) : ofText cs₁ = ofText cs₂ := by
  have hname {cs : List Char} (h : Silent (segments cs)) :
      ofText cs = ofText (textOf (outline cs)) := by
    have hemptied := ofText_emptied (marked_segments cs) h []
    rwa [List.nil_append, textOf_segments] at hemptied
  rw [hname h₁, hname h₂, houtline]

/-! ## Payloads -/

instance (word content after : List Char) : Decidable (NamesNothing word content after) :=
  inferInstanceAs (Decidable (∀ i < content.length, endsInWord false (content.take i) = false →
    nameAfter? word (content.drop i ++ after) = none))

instance (cs : List Char) : Decidable (Introspects cs) :=
  decidable_of_iff (isIntrospection cs = true) isIntrospection_iff

instance (content after : List Char) : Decidable (SilentBefore content after) :=
  decidable_of_iff (¬ Introspects content ∧ NamesNothing queryWord content after ∧
      NamesNothing mutationWord content after)
    ⟨fun ⟨h₁, h₂, h₃⟩ => ⟨h₁, h₂, h₃⟩, fun h => ⟨h.introspection, h.query, h.mutation⟩⟩

instance decidableSilent : (ss : List Segment) → Decidable (Silent ss)
  | [] => inferInstanceAs (Decidable True)
  | s :: ss =>
    have := decidableSilent ss
    inferInstanceAs (Decidable (SilentBefore s.content (s.closing ++ textOf ss) ∧ Silent ss))

/-- Two payloads with the same name of the operation, and documents that differ in the contents of
strings and comments only. -/
structure AgreeButContents (p₁ p₂ : Named Json) (q₁ q₂ : String) : Prop where
  query₁ : p₁.get? "query" = some (.text q₁)
  query₂ : p₂.get? "query" = some (.text q₂)
  operationName : p₁.get? "operationName" = p₂.get? "operationName"
  outline : outline q₁.toList = outline q₂.toList

variable {p₁ p₂ : Named Json} {q₁ q₂ : String}

theorem ofPayload?_of_givesName {payload : Named Json} {name : String}
    (hname : payload.get? "operationName" = some (.text name)) (hne : name ≠ "") :
    ofPayload? payload = some name := by
  have hsome : name.isEmpty = false := by simpa using hne
  rw [ofPayload?, hname]
  simp only [hsome, Bool.false_eq_true, if_false]

theorem outline_eq_nil_iff {cs : List Char} : outline cs = [] ↔ cs = [] := by
  constructor
  · intro h
    rw [← textOf_segments cs, List.map_eq_nil_iff.1 h]
    rfl
  · rintro rfl
    rfl

/-- **Contents of strings and comments do not bear on the name** of the operation if the payload
gives that name, or if the contents are silent: two payloads that agree in all but such contents
are reported under one name. -/
theorem silent_contents_keep_the_name (h : AgreeButContents p₁ p₂ q₁ q₂)
    (hsilent : GivesName p₁ ∨ (Silent (segments q₁.toList) ∧ Silent (segments q₂.toList))) :
    ofPayload? p₁ = ofPayload? p₂ := by
  by_cases hgiven : GivesName p₁
  · obtain ⟨name, hname, hne⟩ := hgiven
    rw [ofPayload?_of_givesName hname hne,
      ofPayload?_of_givesName (h.operationName.symm.trans hname) hne]
  · obtain ⟨h₁, h₂⟩ := hsilent.resolve_left hgiven
    have hgiven₂ : ¬ GivesName p₂ := by
      rintro ⟨name, hname, hne⟩
      exact hgiven ⟨name, h.operationName.trans hname, hne⟩
    have hempty : q₁ = "" ↔ q₂ = "" := by
      rw [← String.toList_eq_nil_iff, ← String.toList_eq_nil_iff, ← outline_eq_nil_iff, h.outline,
        outline_eq_nil_iff]
    rw [ofPayload?_of_query hgiven h.query₁, ofPayload?_of_query hgiven₂ h.query₂,
      ofText_eq_of_outline h.outline h₁ h₂]
    simp only [hempty]

/-- A mutation with a title in plain words, and a comment at its end. -/
def postTitled (title comment : String) : String :=
  "mutation Post\x7bcreatePost(data:\x7btitle:\"" ++ title ++
    "\",body:\"\",published:true,author:\"1\"\x7d)\x7bid\x7d\x7d#" ++ comment

/-- A word for an operation at the end of a title or a comment has no name after it. -/
theorem silent_contents_keep_the_name_sample :
    outline (postTitled "cats" "").toList = outline (postTitled "my query" "a mutation").toList ∧
    ofPayload? [("query", .text (postTitled "cats" ""))] =
      ofPayload? [("variables", .null), ("query", .text (postTitled "my query" "a mutation"))] := by
  have houtline : outline (postTitled "cats" "").toList =
      outline (postTitled "my query" "a mutation").toList := by decide +kernel
  have h₁ : Silent (segments (postTitled "cats" "").toList) := by decide +kernel
  have h₂ : Silent (segments (postTitled "my query" "a mutation").toList) := by decide +kernel
  exact ⟨houtline, silent_contents_keep_the_name ⟨rfl, rfl, rfl, houtline⟩ (Or.inr ⟨h₁, h₂⟩)⟩

/-- A search without a name for its operation. -/
def searchFor (text : String) : String := "\x7bposts(query:\"" ++ text ++ "\")\x7bid\x7d\x7d"

/-- Two documents that can be read and differ in a search text only: the second is reported under a
word of that text. -/
theorem search_text_names_the_operation :
    (Document.parse (searchFor "cats")).toOption.isSome = true ∧
    (Document.parse (searchFor "query cats")).toOption.isSome = true ∧
    AgreeButContents [("query", .text (searchFor "cats"))]
      [("query", .text (searchFor "query cats"))] (searchFor "cats") (searchFor "query cats") ∧
    ofPayload? [("query", .text (searchFor "cats"))] = some "unnamed_operation" ∧
    ofPayload? [("query", .text (searchFor "query cats"))] = some "cats" :=
  ⟨by decide +kernel, by decide +kernel, ⟨rfl, rfl, rfl, by decide +kernel⟩, by decide +kernel,
    by decide +kernel⟩

end BlogGraph.OperationName
