import BlogGraph.GraphQL.Parser
import BlogGraph.Http.OperationName
import Mathlib.Data.List.TakeDrop
import Mathlib.Data.List.TakeWhile

/-!
# The name that a document declares

The name of an operation is searched for in the text of a document, as the name after one of two
words.  A place counts where no word goes on, where the word stands with blanks after it, and where
a name follows: a run of word characters that goes as far as it can (`NamedAfter`).  The search
finds the first such place of the whole text, wherever it stands (`findName?_eq_some_iff`).

A document that opens with the word for a query has its name there, so that is the name it gets.
For a document that opens with the word for a mutation this is not so: the whole text is searched
for the word for a query first, and any place that is found, be it in the text of a post, is taken
for the name of the mutation (`name_in_a_text_is_taken`).

Main statements:

* `nameAfter?_eq_some_iff`, `findName?_eq_some_iff`, `findName?_eq_none_iff`: what the search finds;
* `queries_keep_their_name`: documents that open with a query;
* `mutations_keep_or_borrow_a_name`: documents that open with a mutation.
-/

namespace BlogGraph

/-! ## Blanks are no word characters -/

namespace Text

/-- Ranges that lie apart have no code point in common. -/
theorem inRanges_eq_false_of_apart {rs ss : List (Nat × Nat)} {n : Nat}
    (hapart : ∀ r ∈ rs, ∀ s ∈ ss, r.2 < s.1 ∨ s.2 < r.1) (hn : inRanges rs n = true) :
    inRanges ss n = false := by
  obtain ⟨r, hr, hlow, hhigh⟩ := (inRanges_iff rs n).1 hn
  rw [← Bool.not_eq_true, inRanges_iff]
  rintro ⟨s, hs, hlow', hhigh'⟩
  rcases hapart r hr s hs with h | h
  · omega
  · omega

/-- The word characters in ASCII. -/
def asciiWordRanges : List (Nat × Nat) := [(48, 57), (65, 90), (95, 95), (97, 122)]

theorem inRanges_of_ascii_word {c : Char} (h : (c.isAlphanum || c == '_') = true) :
    inRanges asciiWordRanges c.toNat = true := by
  rw [inRanges_iff]
  delta Char.isAlphanum Char.isAlpha Char.isUpper Char.isLower Char.isDigit at h
  simp only [Bool.or_eq_true, Bool.and_eq_true, decide_eq_true_eq, beq_iff_eq] at h
  rcases h with ((h | h) | h) | h
  · exact ⟨(65, 90), by simp [asciiWordRanges], h.1, h.2⟩
  · exact ⟨(97, 122), by simp [asciiWordRanges], h.1, h.2⟩
  · exact ⟨(48, 57), by simp [asciiWordRanges], h.1, h.2⟩
  · subst h
    exact ⟨(95, 95), by simp [asciiWordRanges], by decide, by decide⟩

theorem isWordChar_eq_false_of_isBlank {c : Char} (h : isBlank c = true) :
    isWordChar c = false := by
  rw [isWordChar]
  split
  · rw [← Bool.not_eq_true]
    intro hword
    have hascii := inRanges_of_ascii_word hword
    rw [inRanges_eq_false_of_apart (by decide) h] at hascii
    exact absurd hascii (by decide)
  · exact inRanges_eq_false_of_apart (by decide +kernel) h

end Text

namespace OperationName

open Text

variable {word cs rest before other lead name name' : List Char} {c : Char} {inWord : Bool}

/-! ## Places with a name -/

/-- The text goes on with a word character. -/
def goesOn (cs : List Char) : Bool := (cs.head?.map isWordChar).getD false

/-- A word goes on at the end of the text; `inWord` tells of what stands before it. -/
def endsInWord (inWord : Bool) (cs : List Char) : Bool := (cs.getLast?.map isWordChar).getD inWord

/-- The text starts with the word, blanks and a name, which ends where no word character follows. -/
def StartsNamed (word name cs : List Char) : Prop :=
  ∃ blanks after, cs = word ++ (blanks ++ (name ++ after)) ∧
    blanks ≠ [] ∧ (∀ c ∈ blanks, isBlank c = true) ∧
    name ≠ [] ∧ (∀ c ∈ name, isWordChar c = true) ∧ goesOn after = false

/-- After this beginning the text has the word and the name, and no word goes on there. -/
def NamedFrom (inWord : Bool) (word before name cs : List Char) : Prop :=
  endsInWord inWord before = false ∧ ∃ rest, cs = before ++ rest ∧ StartsNamed word name rest

/-- After this beginning the whole text of a document has the word and the name. -/
def NamedAfter (word before name cs : List Char) : Prop := NamedFrom false word before name cs

/-- This is the first place where the text of a document has the word and a name. -/
structure FirstNamed (word before name cs : List Char) : Prop where
  named : NamedAfter word before name cs
  first : ∀ other name', NamedAfter word other name' cs → before.length ≤ other.length

theorem endsInWord_cons (inWord : Bool) (c : Char) (cs : List Char) :
    endsInWord inWord (c :: cs) = endsInWord (isWordChar c) cs := by
  cases cs with
  | nil => rfl
  | cons d ds => rw [endsInWord, endsInWord, List.getLast?_cons_cons, List.getLast?_cons]; rfl

/-- The blanks end where the name begins, and the name ends where no word character follows. -/
theorem nameAfter?_eq_some_iff : nameAfter? word cs = some name ↔ StartsNamed word name cs := by
  constructor
  · intro h
    rw [nameAfter?] at h
    split at h
    case isTrue hword =>
      obtain ⟨rest, rfl⟩ := List.isPrefixOf_iff_prefix.1 hword
      simp only [List.drop_left, Option.ite_none_right_eq_some, Bool.and_eq_true,
        Option.some.injEq] at h
      obtain ⟨⟨hblank, hname⟩, rfl⟩ := h
      refine ⟨rest.takeWhile isBlank, (dropBlanks rest).dropWhile isWordChar, ?_, ?_,
        fun c hc => List.mem_takeWhile_imp hc, ?_, fun c hc => List.mem_takeWhile_imp hc, ?_⟩
      · rw [List.takeWhile_append_dropWhile, dropBlanks, List.takeWhile_append_dropWhile]
      · cases rest with
        | nil => exact absurd hblank (by decide)
        | cons b rest =>
          have hb : isBlank b = true := hblank
          rw [List.takeWhile_cons_of_pos hb]
          exact List.cons_ne_nil _ _
      · simpa using hname
      · cases hleft : (dropBlanks rest).dropWhile isWordChar with
        | nil => rfl
        | cons c left =>
          have hc := List.head?_dropWhile_not isWordChar (dropBlanks rest)
          rw [hleft] at hc
          simpa [goesOn] using hc
    case isFalse => exact absurd h (by simp)
  · rintro ⟨blanks, after, rfl, hsome, hblanks, hne, hname, hafter⟩
    have hhead : ((blanks ++ (name ++ after)).head?.map isBlank).getD false = true := by
      obtain ⟨b, blanks, rfl⟩ := List.exists_cons_of_ne_nil hsome
      exact hblanks b (List.mem_cons_self ..)
    have hdrop : dropBlanks (blanks ++ (name ++ after)) = name ++ after := by
      rw [dropBlanks, List.dropWhile_append_of_pos hblanks]
      obtain ⟨c, name, rfl⟩ := List.exists_cons_of_ne_nil hne
      refine List.dropWhile_cons_of_neg ?_
      intro hblank
      have hword := hname c (List.mem_cons_self ..)
      rw [isWordChar_eq_false_of_isBlank hblank] at hword
      exact absurd hword (by decide)
    have htake : (name ++ after).takeWhile isWordChar = name := by
      rw [List.takeWhile_append_of_pos hname]
      cases after with
      | nil => simp
      | cons c after =>
        have hc : isWordChar c = false := hafter
        simp [hc]
    rw [nameAfter?, if_pos (List.isPrefixOf_iff_prefix.2 (List.prefix_append ..))]
    simp only [List.drop_left]
    rw [hhead, hdrop, htake]
    simpa using hne

theorem StartsNamed.name_eq (h : StartsNamed word name cs) (h' : StartsNamed word name' cs) :
    name = name' :=
  Option.some.inj ((nameAfter?_eq_some_iff.2 h).symm.trans (nameAfter?_eq_some_iff.2 h'))

theorem not_startsNamed_nil : ¬ StartsNamed word name [] := by
  rintro ⟨blanks, after, hcs, hsome, -⟩
  exact hsome (List.append_eq_nil_iff.1 (List.nil_eq_append_iff.1 hcs).2).1

/-- A place with a name is here, or it is a place of what follows. -/
theorem namedFrom_cons_iff : NamedFrom inWord word before name (c :: rest) ↔
    (before = [] ∧ inWord = false ∧ StartsNamed word name (c :: rest)) ∨
      ∃ later, before = c :: later ∧ NamedFrom (isWordChar c) word later name rest := by
  cases before with
  | nil => simp [NamedFrom, endsInWord]
  | cons d later =>
    rw [NamedFrom, endsInWord_cons]
    simp only [List.cons_append, List.cons.injEq, reduceCtorEq, false_and, false_or]
    constructor
    · rintro ⟨hends, left, ⟨rfl, rfl⟩, hnamed⟩
      exact ⟨later, ⟨rfl, rfl⟩, hends, left, rfl, hnamed⟩
    · rintro ⟨_, ⟨rfl, rfl⟩, hends, left, rfl, hnamed⟩
      exact ⟨hends, left, ⟨rfl, rfl⟩, hnamed⟩

/-! ## The search -/

/-- The search is over at a name that stands here, where no word goes on. -/
theorem findName?_of_startsNamed (h : StartsNamed word name cs) :
    findName? word false cs = some name := by
  cases cs with
  | nil => exact absurd h not_startsNamed_nil
  | cons c rest => simp only [findName?, Bool.false_eq_true, if_false, nameAfter?_eq_some_iff.2 h]

/-- Where no name stands, or a word goes on, the search goes on. -/
theorem findName?_cons_of_none (h : inWord = false → ∀ name, ¬ StartsNamed word name (c :: rest)) :
    findName? word inWord (c :: rest) = findName? word (isWordChar c) rest := by
  have hhere : (if inWord = true then none else nameAfter? word (c :: rest)) = none := by
    split
    · rfl
    · next hword =>
      refine Option.eq_none_iff_forall_ne_some.2 fun name hname => ?_
      exact h (by simpa using hword) name (nameAfter?_eq_some_iff.1 hname)
  rw [findName?, hhere]

/-- The search finds nothing and there is no place, or it finds the name at a place that no other
comes before. -/
theorem findName?_cases (word cs : List Char) (inWord : Bool) :
    (findName? word inWord cs = none ∧ ∀ before name, ¬ NamedFrom inWord word before name cs) ∨
      ∃ before name, findName? word inWord cs = some name ∧ NamedFrom inWord word before name cs ∧
        ∀ other name', NamedFrom inWord word other name' cs → before.length ≤ other.length := by
  induction cs generalizing inWord with
  | nil =>
    left
    refine ⟨rfl, ?_⟩
    rintro before name ⟨-, rest, hcs, hnamed⟩
    obtain ⟨-, rfl⟩ := List.nil_eq_append_iff.1 hcs
    exact not_startsNamed_nil hnamed
  | cons c rest ih =>
    by_cases hhere : inWord = false ∧ ∃ name, StartsNamed word name (c :: rest)
    · obtain ⟨rfl, name, hname⟩ := hhere
      right
      refine ⟨[], name, findName?_of_startsNamed hname, ?_, fun _ _ _ => Nat.zero_le _⟩
      exact namedFrom_cons_iff.2 (Or.inl ⟨rfl, rfl, hname⟩)
    · -- nothing here, so every place is one of the rest
      have hnone : inWord = false → ∀ name, ¬ StartsNamed word name (c :: rest) :=
        fun hword name hname => hhere ⟨hword, name, hname⟩
      have hlater {before name : List Char} (h : NamedFrom inWord word before name (c :: rest)) :
          ∃ later, before = c :: later ∧ NamedFrom (isWordChar c) word later name rest := by
        obtain ⟨-, hword, hname⟩ | hlater := namedFrom_cons_iff.1 h
        · exact absurd hname (hnone hword name)
        · exact hlater
      rw [findName?_cons_of_none hnone]
      obtain ⟨hfound, hno⟩ | ⟨before, name, hfound, hnamed, hfirst⟩ := ih (isWordChar c)
      · left
        refine ⟨hfound, fun before name h => ?_⟩
        obtain ⟨later, -, hrest⟩ := hlater h
        exact hno later name hrest
      · right
        refine ⟨c :: before, name, hfound, ?_, fun other name' h => ?_⟩
        · exact namedFrom_cons_iff.2 (Or.inr ⟨before, rfl, hnamed⟩)
        · obtain ⟨later, rfl, hrest⟩ := hlater h
          exact Nat.succ_le_succ (hfirst later name' hrest)

/-- **The search finds nothing** where the text has no place with a name. -/
theorem findName?_eq_none_iff :
    findName? word false cs = none ↔ ∀ before name, ¬ NamedAfter word before name cs := by
  obtain ⟨hfound, hno⟩ | ⟨before, name, hfound, hnamed, -⟩ := findName?_cases word cs false
  · exact iff_of_true hfound hno
  · exact iff_of_false (by simp [hfound]) fun hno => hno before name hnamed

/-- **The search finds the name at the first place** that the text has. -/
theorem findName?_eq_some_iff :
    findName? word false cs = some name ↔ ∃ before, FirstNamed word before name cs := by
  obtain ⟨hfound, hno⟩ | ⟨before, found, hfound, hnamed, hfirst⟩ := findName?_cases word cs false
  · refine iff_of_false (by simp [hfound]) ?_
    rintro ⟨before, hnamed, -⟩
    exact hno before name hnamed
  · rw [hfound, Option.some.injEq]
    constructor
    · rintro rfl
      exact ⟨before, hnamed, hfirst⟩
    · rintro ⟨other, hother, hleast⟩
      have hlength : before.length = other.length :=
        Nat.le_antisymm (hfirst other name hother) (hleast before found hnamed)
      obtain ⟨-, rest, rfl, hhere⟩ := hnamed
      obtain ⟨-, rest', hcs, hthere⟩ := hother
      obtain ⟨rfl, rfl⟩ := List.append_inj hcs hlength
      exact hhere.name_eq hthere

/-! ## Documents that open with an operation -/

/-- The text opens with the word and the name; blanks may stand before. -/
def OpensWith (word name cs : List Char) : Prop :=
  ∃ lead rest, cs = lead ++ rest ∧ (∀ c ∈ lead, isBlank c = true) ∧ StartsNamed word name rest

/-- A payload says by itself what the operation is called. -/
def GivesName (payload : Named Json) : Prop :=
  ∃ name, payload.get? "operationName" = some (.text name) ∧ name ≠ ""

/-- The text has one of the words by which documents that ask for the schema are told. -/
def Introspects (cs : List Char) : Prop :=
  "__schema".toList <:+: cs ∨ "IntrospectionQuery".toList <:+: cs

theorem isIntrospection_iff : isIntrospection cs = true ↔ Introspects cs := by
  rw [isIntrospection, Introspects, Bool.or_eq_true, occursIn_iff, occursIn_iff]

theorem isIntrospection_eq_false_iff : isIntrospection cs = false ↔ ¬ Introspects cs := by
  rw [← Bool.not_eq_true, isIntrospection_iff]

/-- Blanks before the text do not matter to the search for a word. -/
theorem findName?_blanks {w : Char} (hw : isBlank w = false) (hlead : ∀ c ∈ lead, isBlank c = true)
    (cs : List Char) :
    findName? (w :: word) false (lead ++ cs) = findName? (w :: word) false cs := by
  induction lead with
  | nil => rfl
  | cons b lead ih =>
    obtain ⟨hb, hlead⟩ := List.forall_mem_cons.1 hlead
    have hnone : ∀ name, ¬ StartsNamed (w :: word) name (b :: (lead ++ cs)) := by
      rintro name ⟨blanks, after, hcs, -⟩
      obtain ⟨rfl, -⟩ := List.cons.inj hcs
      rw [hb] at hw
      exact absurd hw (by decide)
    rw [List.cons_append, findName?_cons_of_none fun _ => hnone,
      isWordChar_eq_false_of_isBlank hb, ih hlead]

/-- The name with which a text opens is the one that is found after that word. -/
theorem OpensWith.findName? {w : Char} (h : OpensWith (w :: word) name cs)
    (hw : isBlank w = false) : findName? (w :: word) false cs = some name := by
  obtain ⟨lead, rest, rfl, hlead, hname⟩ := h
  rw [findName?_blanks hw hlead, findName?_of_startsNamed hname]

/-- Without its blanks the text begins with the word. -/
theorem OpensWith.exists_dropBlanks {w : Char} (h : OpensWith (w :: word) name cs)
    (hw : isBlank w = false) : ∃ left, dropBlanks cs = w :: word ++ left := by
  obtain ⟨lead, rest, rfl, hlead, blanks, after, rfl, -⟩ := h
  refine ⟨blanks ++ (name ++ after), ?_⟩
  rw [dropBlanks, List.dropWhile_append_of_pos hlead]
  exact List.dropWhile_cons_of_neg (by simp [hw])

/-- A payload that gives no name is named by its document, if that is not empty. -/
theorem ofPayload?_of_query {payload : Named Json} {q : String} (hgiven : ¬ GivesName payload)
    (hquery : payload.get? "query" = some (.text q)) :
    ofPayload? payload = if q = "" then none else some (String.ofList (ofText q.toList)) := by
  have hdocument : ofPayload?.ofQuery? payload =
      if q = "" then none else some (String.ofList (ofText q.toList)) := by
    rw [ofPayload?.ofQuery?, hquery]
    simp only [String.isEmpty_iff]
  rw [ofPayload?.eq_def]
  split
  · next name hname =>
    have hempty : name = "" := by
      by_contra hne
      exact hgiven ⟨name, hname, hne⟩
    subst hempty
    exact hdocument
  · exact hdocument

theorem OpensWith.ne_empty {q : String} (h : OpensWith word name q.toList) : q ≠ "" := by
  rintro rfl
  obtain ⟨lead, rest, hcs, -, hname⟩ := h
  obtain ⟨-, rfl⟩ := List.nil_eq_append_iff.1 hcs
  exact not_startsNamed_nil hname

variable {payload : Named Json} {q : String}

/-- **A document that opens with a query** and its name is reported under that name, whatever
follows in the document, if it shows no sign of introspection. -/
theorem queries_keep_their_name (hgiven : ¬ GivesName payload)
    (hquery : payload.get? "query" = some (.text q)) (hopens : OpensWith queryWord name q.toList)
    (hquiet : ¬ Introspects q.toList) : ofPayload? payload = some (String.ofList name) := by
  have hfound : findName? queryWord false q.toList = some name := hopens.findName? (by decide)
  have hkind : mutationWord.isPrefixOf (dropBlanks q.toList) = false := by
    obtain ⟨left, hleft⟩ := OpensWith.exists_dropBlanks hopens (by decide)
    rw [hleft]
    rfl
  rw [ofPayload?_of_query hgiven hquery, if_neg hopens.ne_empty, ofText,
    isIntrospection_eq_false_iff.2 hquiet]
  simp only [Bool.false_eq_true, if_false]
  rw [hfound, Option.some_or]
  simp only [hkind, Bool.false_eq_true, if_false]

/-- A query after blanks, with the word for a mutation in a comment. -/
def pageQuery : String := "\n query Page { me } # mutation Here"

/-- Its name stands after the blanks; the one in the comment does not count. -/
theorem queries_keep_their_name_sample :
    OpensWith queryWord "Page".toList pageQuery.toList ∧ ¬ Introspects pageQuery.toList ∧
    ofPayload? [("operationName", .text ""), ("query", .text pageQuery)] = some "Page" := by
  have hgiven : ¬ GivesName [("operationName", .text ""), ("query", .text pageQuery)] := by
    rintro ⟨name, hname, hne⟩
    exact hne (Json.text.inj (Option.some.inj hname)).symm
  have hopens : OpensWith queryWord "Page".toList pageQuery.toList :=
    ⟨"\n ".toList, "query Page { me } # mutation Here".toList, by decide +kernel,
      List.all_eq_true.1 (by decide +kernel), nameAfter?_eq_some_iff.1 (by decide +kernel)⟩
  have hquiet : ¬ Introspects pageQuery.toList :=
    isIntrospection_eq_false_iff.1 (by decide +kernel)
  exact ⟨hopens, hquiet, queries_keep_their_name hgiven rfl hopens hquiet⟩

/-- **A document that opens with a mutation** and its name is reported as a mutation.  Its own name
is given if no place in the document, whatever stands there, has the word for a query with a name;
else the name at the first such place is given. -/
theorem mutations_keep_or_borrow_a_name (hgiven : ¬ GivesName payload)
    (hquery : payload.get? "query" = some (.text q))
    (hopens : OpensWith mutationWord name q.toList) (hquiet : ¬ Introspects q.toList) :
    ((∀ before other, ¬ NamedAfter queryWord before other q.toList) →
      ofPayload? payload = some ("mutation:" ++ String.ofList name)) ∧
    ∀ before other, FirstNamed queryWord before other q.toList →
      ofPayload? payload = some ("mutation:" ++ String.ofList other) := by
  have hkind : mutationWord.isPrefixOf (dropBlanks q.toList) = true := by
    obtain ⟨left, hleft⟩ := OpensWith.exists_dropBlanks hopens (by decide)
    rw [hleft]
    exact List.isPrefixOf_iff_prefix.2 (List.prefix_append ..)
  have hname : findName? mutationWord false q.toList = some name := hopens.findName? (by decide)
  have hshown {found : List Char}
      (h : (findName? queryWord false q.toList).or (some name) = some found) :
      ofPayload? payload = some ("mutation:" ++ String.ofList found) := by
    rw [ofPayload?_of_query hgiven hquery, if_neg hopens.ne_empty, ofText,
      isIntrospection_eq_false_iff.2 hquiet, hname]
    simp only [Bool.false_eq_true, if_false]
    rw [h]
    simp only [hkind, if_true]
    rw [← String.ofList_append]
    rfl
  refine ⟨fun hno => hshown ?_, fun before other hfirst => hshown ?_⟩
  · rw [findName?_eq_none_iff.2 hno, Option.none_or]
  · rw [findName?_eq_some_iff.2 ⟨before, hfirst⟩, Option.some_or]

/-- A payload that holds nothing but a document gives no name. -/
theorem not_givesName_document (q : String) : ¬ GivesName [("query", .text q)] := by
  rintro ⟨name, hname, -⟩
  simp [Named.get?] at hname

/-- A mutation with the word for a query at the end of a word, and before a bracket. -/
def renameUser : String := "mutation Rename($subquery: ID!) { query(id: $subquery) { id } }"

/-- Neither place has a name after it, so the mutation keeps its own. -/
theorem mutations_keep_or_borrow_a_name_sample :
    OpensWith mutationWord "Rename".toList renameUser.toList ∧ ¬ Introspects renameUser.toList ∧
    (∀ before other, ¬ NamedAfter queryWord before other renameUser.toList) ∧
    ofPayload? [("query", .text renameUser)] = some "mutation:Rename" := by
  have hopens : OpensWith mutationWord "Rename".toList renameUser.toList :=
    ⟨[], renameUser.toList, (List.nil_append _).symm, by simp,
      nameAfter?_eq_some_iff.1 (by decide +kernel)⟩
  have hquiet : ¬ Introspects renameUser.toList :=
    isIntrospection_eq_false_iff.1 (by decide +kernel)
  have hno : ∀ before other, ¬ NamedAfter queryWord before other renameUser.toList :=
    findName?_eq_none_iff.1 (by decide +kernel)
  have hnamed := (mutations_keep_or_borrow_a_name (not_givesName_document renameUser) rfl hopens
    hquiet).1 hno
  exact ⟨hopens, hquiet, hno, hnamed⟩

/-- A mutation that stores a post with a title in plain words. -/
def postAboutCats : String :=
  "mutation CreatePost \x7b createPost(data: \x7b title: \"a query about cats\", body: \"\", " ++
    "published: true, author: \"1\" \x7d) \x7b id \x7d \x7d"

/-- The document can be read and opens with the name of its mutation, but a word of the title is
reported in its place. -/
theorem name_in_a_text_is_taken :
    (GraphQL.Document.parse postAboutCats).toOption.isSome = true ∧
    ¬ GivesName [("query", .text postAboutCats)] ∧
    OpensWith mutationWord "CreatePost".toList postAboutCats.toList ∧
    ¬ Introspects postAboutCats.toList ∧
    ofPayload? [("query", .text postAboutCats)] = some "mutation:about" := by
  have hopens : OpensWith mutationWord "CreatePost".toList postAboutCats.toList :=
    ⟨[], postAboutCats.toList, (List.nil_append _).symm, by simp,
      nameAfter?_eq_some_iff.1 (by decide +kernel)⟩
  have hquiet : ¬ Introspects postAboutCats.toList :=
    isIntrospection_eq_false_iff.1 (by decide +kernel)
  exact ⟨by decide +kernel, not_givesName_document _, hopens, hquiet, by decide +kernel⟩

end OperationName
end BlogGraph
