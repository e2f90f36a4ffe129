import BlogGraph.Blog.Question
import BlogGraph.Proofs.Text.CaseTable
import BlogGraph.Proofs.Text.Lowercase
import Mathlib.Data.List.Basic

/-!
# What a search finds

A search text is compared with names, titles and bodies in lower case.  What occurs literally in one
of them occurs in it in lower case too, unless a capital sigma near the edge of the search text
closes a word there and not in the middle of the value, or the other way round.  Then the beginning
of a name may fail to find the name (`beginning_of_name_is_missed`).

For the same reason a piece of a search text finds all that the whole finds, and maybe more, as long
as the piece has no capital sigma; the values that are searched may have any.  And because lower
case is final, it makes no difference whether a search text, or what is searched, was put into lower
case before.

Main statements:

* `matchesQuery_of_occursAlike`: what occurs alike matches;
* `Store.searchUsers_some`, `Store.searchPosts_some`: what a search text selects;
* `Question.literal_occurrences_are_found`: what the questions for users and posts bring;
* `Question.narrowing_never_adds`: what they bring for a piece of a search text;
* `Question.lower_case_is_searched_alike`: what they bring for a search text in lower case.
-/

namespace BlogGraph

open Text (OccursAlike)

/-- What occurs in a value, with its sigmas as they are alone, matches it. -/
theorem matchesQuery_of_occursAlike {value query : String}
    (h : OccursAlike query.toList value.toList) : matchesQuery value query = true :=
  Text.occursIn_iff.2 (Text.lower_infix h)

theorem matchesQuery_empty (value : String) : matchesQuery value "" = true :=
  Text.occursIn_nil _

/-- What a search text matches, a piece of it without a capital sigma matches. -/
theorem matchesQuery_of_piece {value query piece : String} (hsigma : 'Σ' ∉ piece.toList)
    (hpiece : piece.toList <:+: query.toList) (h : matchesQuery value query = true) :
    matchesQuery value piece = true := by
  have hlower : Text.lower piece.toList <:+: Text.lower query.toList :=
    Text.lower_infix (Text.occursAlike_of_not_mem hsigma hpiece)
  exact Text.occursIn_trans (Text.occursIn_iff.2 hlower) h

theorem matchesQuery_lower_value (value query : String) :
    matchesQuery (Text.lowerString value) query = matchesQuery value query := by
  rw [matchesQuery, Text.lowerString, String.toList_ofList, Text.lower_lower, matchesQuery]

theorem matchesQuery_lower_query (value query : String) :
    matchesQuery value (Text.lowerString query) = matchesQuery value query := by
  rw [matchesQuery, Text.lowerString, String.toList_ofList, Text.lower_lower, matchesQuery]

theorem searchText_some {query : String} (h : query ≠ "") :
    searchText (some query) = some query := by
  unfold searchText
  split
  · next heq => exact absurd (Option.some.inj heq) h
  · rfl

namespace Store

/-- A search text selects the users whose name it matches; the empty text matches all. -/
theorem searchUsers_some (s : Store) (query : String) :
    s.searchUsers (some query) = s.users.filter fun u => matchesQuery u.name query := by
  by_cases h : query = ""
  · subst h
    show s.users.toList = _
    exact (List.filter_eq_self.2 fun u _ => matchesQuery_empty u.name).symm
  · rw [searchUsers, searchText_some h]

/-- A search text selects the posts whose title or body it matches; the empty text matches all. -/
theorem searchPosts_some (s : Store) (query : String) :
    s.searchPosts (some query) =
      s.posts.filter fun p => matchesQuery p.title query || matchesQuery p.body query := by
  by_cases h : query = ""
  · subst h
    show s.posts.toList = _
    refine (List.filter_eq_self.2 fun p _ => ?_).symm
    rw [matchesQuery_empty, Bool.true_or]
  · rw [searchPosts, searchText_some h]

/-- No search text selects what the empty one selects. -/
theorem searchUsers_getD (s : Store) (query : Option String) :
    s.searchUsers query = s.searchUsers (some (query.getD "")) := by
  cases query <;> rfl

theorem searchPosts_getD (s : Store) (query : Option String) :
    s.searchPosts query = s.searchPosts (some (query.getD "")) := by
  cases query <;> rfl

section Pieces

variable {query piece : Option String}

/-- A search text selects no user that a piece of it does not select. -/
theorem searchUsers_sublist (s : Store) (hsigma : 'Σ' ∉ (piece.getD "").toList)
    (hpiece : (piece.getD "").toList <:+: (query.getD "").toList) :
    (s.searchUsers query).Sublist (s.searchUsers piece) := by
  rw [searchUsers_getD s query, searchUsers_getD s piece, searchUsers_some, searchUsers_some]
  refine List.monotone_filter_right _ fun u hu => ?_
  exact matchesQuery_of_piece hsigma hpiece hu

/-- A search text selects no post that a piece of it does not select. -/
theorem searchPosts_sublist (s : Store) (hsigma : 'Σ' ∉ (piece.getD "").toList)
    (hpiece : (piece.getD "").toList <:+: (query.getD "").toList) :
    (s.searchPosts query).Sublist (s.searchPosts piece) := by
  rw [searchPosts_getD s query, searchPosts_getD s piece, searchPosts_some, searchPosts_some]
  refine List.monotone_filter_right _ fun p hp => ?_
  rw [Bool.or_eq_true] at hp ⊢
  exact hp.imp (matchesQuery_of_piece hsigma hpiece) (matchesQuery_of_piece hsigma hpiece)

end Pieces

/-- A search text selects the same users in lower case; none and the empty one select all. -/
theorem searchUsers_lower (s : Store) (query : Option String) :
    s.searchUsers (query.map Text.lowerString) = s.searchUsers query := by
  cases query with
  | none => rfl
  | some q => simp only [Option.map_some, searchUsers_some, matchesQuery_lower_query]

/-- A search text selects the same posts in lower case; none and the empty one select all. -/
theorem searchPosts_lower (s : Store) (query : Option String) :
    s.searchPosts (query.map Text.lowerString) = s.searchPosts query := by
  cases query with
  | none => rfl
  | some q => simp only [Option.map_some, searchPosts_some, matchesQuery_lower_query]

variable {s : Store} {query : String}

theorem mem_searchUsers {u : User} (hu : u ∈ s.users.toList)
    (h : OccursAlike query.toList u.name.toList) : u ∈ s.searchUsers (some query) := by
  rw [searchUsers_some]
  exact List.mem_filter.2 ⟨hu, matchesQuery_of_occursAlike h⟩

theorem mem_searchPosts {p : Post} (hp : p ∈ s.posts.toList)
    (h : OccursAlike query.toList p.title.toList ∨ OccursAlike query.toList p.body.toList) :
    p ∈ s.searchPosts (some query) := by
  rw [searchPosts_some]
  refine List.mem_filter.2 ⟨hp, ?_⟩
  rw [Bool.or_eq_true]
  exact h.imp matchesQuery_of_occursAlike matchesQuery_of_occursAlike

end Store

namespace Question

/-- **Literal occurrences are found**, if the sigmas of the search text come out alike: such a text
matches the value, and the users and posts in whose name, title or body it so occurs are among the
answers of any store.  A search text without a capital sigma occurs so wherever it occurs. -/
theorem literal_occurrences_are_found (query : String) :
    (∀ value : String, OccursAlike query.toList value.toList → matchesQuery value query = true) ∧
    (∀ s : Store, ∃ us ps,
      ((users (some query)).answer (some s)).result = .ok (.many us) ∧
      ((posts (some query)).answer (some s)).result = .ok (.many ps) ∧
      (∀ u ∈ s.users.toList, OccursAlike query.toList u.name.toList → .user u ∈ us) ∧
      ∀ p ∈ s.posts.toList,
        OccursAlike query.toList p.title.toList ∨ OccursAlike query.toList p.body.toList →
        .post p ∈ ps) ∧
    ('Σ' ∉ query.toList → ∀ value : String, query.toList <:+: value.toList →
      OccursAlike query.toList value.toList) := by
  refine ⟨fun value => matchesQuery_of_occursAlike, ?_,
    fun hsigma value => Text.occursAlike_of_not_mem hsigma⟩
  intro s
  refine ⟨_, _, rfl, rfl, fun u hu h => ?_, fun p hp h => ?_⟩
  · exact List.mem_map_of_mem (Store.mem_searchUsers hu h)
  · exact List.mem_map_of_mem (Store.mem_searchPosts hp h)

/-- A store with one user. -/
def storeOfOdysseus : Store := ⟨⟨[⟨"7", "ΟΔΥΣΣΕΥΣ", "od@x.org", none⟩]⟩, .empty, .empty⟩

/-- The middle of a name, with two capital sigmas, is found in it. -/
theorem literal_occurrences_are_found_sample :
    OccursAlike "ΥΣΣΕ".toList "ΟΔΥΣΣΕΥΣ".toList ∧ matchesQuery "ΟΔΥΣΣΕΥΣ" "ΥΣΣΕ" = true ∧
    ∃ us, ((users (some "ΥΣΣΕ")).answer (some storeOfOdysseus)).result = .ok (.many us) ∧
      .user ⟨"7", "ΟΔΥΣΣΕΥΣ", "od@x.org", none⟩ ∈ us := by
  have halike : OccursAlike "ΥΣΣΕ".toList "ΟΔΥΣΣΕΥΣ".toList :=
    ⟨['Ο', 'Δ'], ['Υ', 'Σ'], by decide +kernel, by decide +kernel⟩
  obtain ⟨us, -, hus, -, hfound, -⟩ :=
    (literal_occurrences_are_found "ΥΣΣΕ").2.1 storeOfOdysseus
  refine ⟨halike, (literal_occurrences_are_found "ΥΣΣΕ").1 _ halike, us, hus, ?_⟩
  exact hfound _ (List.mem_singleton_self _) halike

/-- The beginning of a name, up to its first sigma, occurs in the name, but does not match it and
does not find its user. -/
theorem beginning_of_name_is_missed :
    "ΟΔΥΣ".toList <:+: "ΟΔΥΣΣΕΥΣ".toList ∧ matchesQuery "ΟΔΥΣΣΕΥΣ" "ΟΔΥΣ" = false ∧
      ((users (some "ΟΔΥΣ")).answer (some storeOfOdysseus)).result = .ok (.many []) := by
  refine ⟨⟨[], ['Σ', 'Ε', 'Υ', 'Σ'], by decide +kernel⟩, by decide +kernel, ?_⟩
  have hmissed : storeOfOdysseus.searchUsers (some "ΟΔΥΣ") = [] := by decide +kernel
  simp only [answer, aboutExamples, answerFrom, hmissed, List.map_nil, Answer.found]

/-- **Narrowing a search never adds results.**  Whatever a store holds, a search text brings some
of the users and posts, in their order, that any piece of it without a capital sigma brings.  No
search text counts as the empty one, which is a piece of every other. -/
theorem narrowing_never_adds {query piece : Option String}
    (hsigma : 'Σ' ∉ (piece.getD "").toList)
    (hpiece : (piece.getD "").toList <:+: (query.getD "").toList) (s : Store) :
    (∃ us us', ((users query).answer (some s)).result = .ok (.many us) ∧
      ((users piece).answer (some s)).result = .ok (.many us') ∧ us.Sublist us') ∧
    ∃ ps ps', ((posts query).answer (some s)).result = .ok (.many ps) ∧
      ((posts piece).answer (some s)).result = .ok (.many ps') ∧ ps.Sublist ps' :=
  ⟨⟨_, _, rfl, rfl, (s.searchUsers_sublist hsigma hpiece).map _⟩,
    ⟨_, _, rfl, rfl, (s.searchPosts_sublist hsigma hpiece).map _⟩⟩

/-- A store with two users whose names have capital sigmas. -/
def storeOfNames : Store :=
  ⟨⟨[⟨"7", "ΟΔΥΣΣΕΥΣ", "od@x.org", none⟩, ⟨"8", "ΣΕΜΕΛΗ", "se@x.org", none⟩]⟩, .empty, .empty⟩

/-- Two small sigmas and a vowel are in one of the names, the second sigma and the vowel in both. -/
theorem narrowing_never_adds_sample :
    'Σ' ∉ ((some "σε").getD "").toList ∧
    ((some "σε").getD "").toList <:+: ((some "σσε").getD "").toList ∧
    ∃ us us', ((users (some "σσε")).answer (some storeOfNames)).result = .ok (.many us) ∧
      ((users (some "σε")).answer (some storeOfNames)).result = .ok (.many us') ∧
      us.map Record.id = ["7"] ∧ us'.map Record.id = ["7", "8"] ∧ us.Sublist us' := by
  have hsigma : 'Σ' ∉ ((some "σε").getD "").toList := by decide +kernel
  have hpiece : ((some "σε").getD "").toList <:+: ((some "σσε").getD "").toList :=
    ⟨['σ'], [], by decide +kernel⟩
  obtain ⟨us, us', hus, hus', hsub⟩ := (narrowing_never_adds hsigma hpiece storeOfNames).1
  have hnarrow : ((users (some "σσε")).answer (some storeOfNames)).result =
      .ok (.many [.user ⟨"7", "ΟΔΥΣΣΕΥΣ", "od@x.org", none⟩]) := by decide +kernel
  have hwide : ((users (some "σε")).answer (some storeOfNames)).result =
      .ok (.many (storeOfNames.users.toList.map .user)) := by decide +kernel
  obtain rfl := Found.many.inj (Except.ok.inj (hnarrow.symm.trans hus))
  obtain rfl := Found.many.inj (Except.ok.inj (hwide.symm.trans hus'))
  exact ⟨hsigma, hpiece, _, _, hnarrow, hwide, rfl, rfl, hsub⟩

/-- **Lower case is searched alike.**  A search text matches a value just when it matches the lower
case of that value, and just when its own lower case matches the value.  So a search text brings the
same users and the same posts of every store when it is put into lower case, and this holds of none
and of the empty one, too. -/
theorem lower_case_is_searched_alike :
    (∀ value query : String,
      matchesQuery (Text.lowerString value) query = matchesQuery value query ∧
      matchesQuery value (Text.lowerString query) = matchesQuery value query) ∧
    ∀ (s : Store) (query : Option String),
      ((users (query.map Text.lowerString)).answer (some s)).result =
        ((users query).answer (some s)).result ∧
      ((posts (query.map Text.lowerString)).answer (some s)).result =
        ((posts query).answer (some s)).result := by
  refine ⟨fun value query => ⟨matchesQuery_lower_value value query,
    matchesQuery_lower_query value query⟩, fun s query => ?_⟩
  have husers := s.searchUsers_lower query
  have hposts := s.searchPosts_lower query
  simp only [answer, aboutExamples, answerFrom, husers, hposts, and_self]

end Question
end BlogGraph
