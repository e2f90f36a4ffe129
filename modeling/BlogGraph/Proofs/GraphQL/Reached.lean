import BlogGraph.Proofs.GraphQL.Validity

/-!
# The fragments that an operation reaches

The search for them keeps sets of selections that are still to be visited, the fragments found so
far, and the names met so far.  Every set is either still waiting or has all its spreads met
(`Search.Covers`), and each name puts at most one set on the list, so the search ends before its
fuel does.

Main statements:

* `Document.reached_closed`: what a reached fragment spreads is reached;
* `Document.reached_induction`: what holds of all that is spread holds of all that is reached.
-/

namespace BlogGraph.GraphQL
namespace Document

/-- The state of the search: the sets that wait, the fragments found, and the names met. -/
abbrev Search := List (List Selection) × List Fragment × List String

namespace Search

/-- The search after it meets a spread. -/
def meet (d : Document) (x : Search) (s : Spread) : Search :=
  let (waiting, found, names) := x
  if names.contains s.name then x
  else
    match d.fragment? s.name with
    | some f => (f.selections :: waiting, found ++ [f], names ++ [s.name])
    | none => (waiting, found, names ++ [s.name])

/-- All spreads of a set were met. -/
def Covers (names : List String) (set : List Selection) : Prop :=
  ∀ s ∈ spreadsIn set, s.name ∈ names

/-- The fragments whose names were not met. -/
def unmet (d : Document) (names : List String) : List Fragment :=
  d.fragments.filter fun f => !names.contains f.name.value

/-- What is so at every moment: names that were met lead to fragments that were found, and the sets
of these, as well as the one that the search began with, wait or are covered, but for those that are
being visited `now`. -/
structure Fair (d : Document) (root : List Selection) (now : List (List Selection)) (x : Search) :
    Prop where
  found : ∀ n ∈ x.2.2, ∀ f, d.fragment? n = some f → f ∈ x.2.1
  covered : ∀ set ∈ root :: x.2.1.map Fragment.selections,
    set ∈ now ++ x.1 ∨ Covers x.2.2 set

/-- The sets that wait and the fragments that were not met bound the steps ahead. -/
def ahead (d : Document) (x : Search) : Nat := x.1.length + (unmet d x.2.2).length

variable {d : Document} {root : List Selection} {now : List (List Selection)} {x : Search}

/-- The cases of meeting a spread: its name was met, leads to a fragment, or leads nowhere. -/
theorem meet_cases (d : Document) (x : Search) (s : Spread) :
    (s.name ∈ x.2.2 ∧ meet d x s = x) ∨
    (s.name ∉ x.2.2 ∧ ∃ f, d.fragment? s.name = some f ∧
      meet d x s = (f.selections :: x.1, x.2.1 ++ [f], x.2.2 ++ [s.name])) ∨
    (s.name ∉ x.2.2 ∧ d.fragment? s.name = none ∧
      meet d x s = (x.1, x.2.1, x.2.2 ++ [s.name])) := by
  obtain ⟨waiting, found, names⟩ := x
  by_cases hmem : s.name ∈ names
  · exact Or.inl ⟨hmem, by simp [meet, hmem]⟩
  · refine Or.inr ?_
    cases hf : d.fragment? s.name with
    | some f => exact Or.inl ⟨hmem, f, rfl, by simp [meet, hmem, hf]⟩
    | none => exact Or.inr ⟨hmem, rfl, by simp [meet, hmem, hf]⟩

theorem mem_names_meet (d : Document) (x : Search) (s : Spread) :
    s.name ∈ (meet d x s).2.2 ∧ ∀ n ∈ x.2.2, n ∈ (meet d x s).2.2 := by
  rcases meet_cases d x s with ⟨hmem, h⟩ | ⟨-, f, -, h⟩ | ⟨-, -, h⟩ <;> rw [h]
  · exact ⟨hmem, fun _ hn => hn⟩
  · exact ⟨List.mem_append_right _ (List.mem_singleton_self _),
      fun _ hn => List.mem_append_left _ hn⟩
  · exact ⟨List.mem_append_right _ (List.mem_singleton_self _),
      fun _ hn => List.mem_append_left _ hn⟩

theorem Covers.mono {names names' : List String} {set : List Selection} (h : Covers names set)
    (hsub : ∀ n ∈ names, n ∈ names') : Covers names' set :=
  fun s hs => hsub _ (h s hs)

theorem fair_meet (h : Fair d root now x) (s : Spread) : Fair d root now (meet d x s) := by
  have hnames := (mem_names_meet d x s).2
  rcases meet_cases d x s with ⟨-, heq⟩ | ⟨-, f, hf, heq⟩ | ⟨-, hf, heq⟩
  · rw [heq]
    exact h
  · rw [heq] at hnames ⊢
    refine ⟨?_, ?_⟩
    · intro n hn g hg
      rcases List.mem_append.1 hn with hn | hn
      · exact List.mem_append_left _ (h.found n hn g hg)
      · rw [List.mem_singleton.1 hn, hf] at hg
        rw [← Option.some.inj hg]
        exact List.mem_append_right _ (List.mem_singleton_self _)
    · intro set hset
      rw [List.map_append, ← List.cons_append] at hset
      rcases List.mem_append.1 hset with hset | hset
      · rcases h.covered set hset with hwait | hcover
        · refine Or.inl (List.mem_append.2 ?_)
          exact (List.mem_append.1 hwait).imp_right (List.mem_cons_of_mem _)
        · exact Or.inr (hcover.mono hnames)
      · rw [List.map_singleton, List.mem_singleton] at hset
        exact Or.inl (List.mem_append_right _ (hset ▸ List.mem_cons_self))
  · rw [heq] at hnames ⊢
    refine ⟨?_, ?_⟩
    · intro n hn g hg
      rcases List.mem_append.1 hn with hn | hn
      · exact h.found n hn g hg
      · rw [List.mem_singleton.1 hn, hf] at hg
        exact absurd hg (by simp)
    · intro set hset
      exact (h.covered set hset).imp_right fun hcover => hcover.mono hnames

theorem unmet_of_subset (d : Document) {names names' : List String}
    (hsub : ∀ n ∈ names, n ∈ names') :
    unmet d names' = (unmet d names).filter fun f => !names'.contains f.name.value := by
  rw [unmet, unmet, List.filter_filter]
  refine List.filter_congr fun f _ => ?_
  by_cases hf : f.name.value ∈ names
  · simp [hf, hsub _ hf]
  · simp [hf]

theorem length_unmet_le (d : Document) {names names' : List String}
    (hsub : ∀ n ∈ names, n ∈ names') : (unmet d names').length ≤ (unmet d names).length := by
  rw [unmet_of_subset d hsub]
  exact List.length_filter_le _ _

/-- One fragment less is unmet once its name was met. -/
theorem length_unmet_lt {names names' : List String} {f : Fragment} {n : String}
    (hf : d.fragment? n = some f) (hnew : n ∉ names) (hsub : ∀ m ∈ names, m ∈ names')
    (hmet : n ∈ names') : (unmet d names').length < (unmet d names).length := by
  obtain ⟨hmem, hname⟩ := mem_fragments_of_fragment? hf
  rw [unmet_of_subset d hsub, List.length_filter_lt_length_iff_exists]
  exact ⟨f, List.mem_filter.2 ⟨hmem, by simpa [hname] using hnew⟩, by simpa [hname] using hmet⟩

/-- Meeting a spread brings the search no further from its end. -/
theorem ahead_meet_le (d : Document) (x : Search) (s : Spread) :
    ahead d (meet d x s) ≤ ahead d x := by
  rcases meet_cases d x s with ⟨-, heq⟩ | ⟨hmem, f, hf, heq⟩ | ⟨-, -, heq⟩
  · exact Nat.le_of_eq (congrArg (ahead d) heq)
  · have hlt : (unmet d (x.2.2 ++ [s.name])).length < (unmet d x.2.2).length :=
      length_unmet_lt hf hmem (fun _ hn => List.mem_append_left _ hn)
        (List.mem_append_right _ (List.mem_singleton_self _))
    rw [heq]
    simp only [ahead, List.length_cons]
    omega
  · rw [heq]
    exact Nat.add_le_add_left
      (length_unmet_le d fun _ hn => List.mem_append_left _ hn) _

/-! ## Visiting a set -/

theorem fair_foldl (spreads : List Spread) (h : Fair d root now x) :
    Fair d root now (spreads.foldl (meet d) x) := by
  induction spreads generalizing x with
  | nil => exact h
  | cons s rest ih => exact ih (fair_meet h s)

theorem ahead_foldl_le (d : Document) (spreads : List Spread) (x : Search) :
    ahead d (spreads.foldl (meet d) x) ≤ ahead d x := by
  induction spreads generalizing x with
  | nil => exact Nat.le_refl _
  | cons s rest ih => exact Nat.le_trans (ih (meet d x s)) (ahead_meet_le d x s)

theorem names_foldl (d : Document) (spreads : List Spread) (x : Search) :
    (∀ n ∈ x.2.2, n ∈ (spreads.foldl (meet d) x).2.2) ∧
    ∀ s ∈ spreads, s.name ∈ (spreads.foldl (meet d) x).2.2 := by
  induction spreads generalizing x with
  | nil => exact ⟨fun _ h => h, by simp⟩
  | cons s rest ih =>
    obtain ⟨hmet, hkept⟩ := mem_names_meet d x s
    obtain ⟨hold, hnew⟩ := ih (meet d x s)
    refine ⟨fun n hn => hold n (hkept n hn), fun t ht => ?_⟩
    rcases List.mem_cons.1 ht with rfl | ht
    · exact hold _ hmet
    · exact hnew t ht

/-- After a set was visited it is covered, so nothing is left out any more. -/
theorem fair_visit {set : List Selection} (h : Fair d root [set] x) :
    Fair d root [] ((spreadsIn set).foldl (meet d) x) := by
  have hfair := fair_foldl (spreadsIn set) h
  refine ⟨hfair.found, fun set' hset' => ?_⟩
  rcases hfair.covered set' hset' with hmem | hcover
  · rcases List.mem_cons.1 hmem with rfl | hwait
    · exact Or.inr (names_foldl d (spreadsIn set') x).2
    · exact Or.inl hwait
  · exact Or.inr hcover

end Search

open Search

theorem reachedFrom_cons (d : Document) (fuel : Nat) (set : List Selection) (x : Search) :
    reachedFrom d (fuel + 1) (set :: x.1) x.2.1 x.2.2 =
      let y := (spreadsIn set).foldl (meet d) x
      reachedFrom d fuel y.1 y.2.1 y.2.2 := rfl

variable {d : Document} {root : List Selection}

/-- With fuel for all that is ahead the search ends with no set waiting. -/
theorem fair_reachedFrom (fuel : Nat) {x : Search} (h : Fair d root [] x)
    (hfuel : ahead d x ≤ fuel) :
    ∃ names, Fair d root [] ([], reachedFrom d fuel x.1 x.2.1 x.2.2, names) := by
  induction fuel generalizing x with
  | zero =>
    obtain ⟨waiting, found, names⟩ := x
    have hnone : waiting = [] := List.length_eq_zero_iff.1 (by simp only [ahead] at hfuel; omega)
    subst hnone
    exact ⟨names, h⟩
  | succ fuel ih =>
    obtain ⟨waiting, found, names⟩ := x
    cases waiting with
    | nil => exact ⟨names, by rw [reachedFrom]; exact h; simp⟩
    | cons set rest =>
      have hnow : Fair d root [set] (rest, found, names) := ⟨h.found, h.covered⟩
      rw [reachedFrom_cons d fuel set (rest, found, names)]
      refine ih (fair_visit hnow) ?_
      refine Nat.le_trans (ahead_foldl_le d _ _) ?_
      simp only [ahead, List.length_cons] at hfuel ⊢
      omega

/-- **What is spread in a set, or in a fragment that the set reaches, is reached.** -/
theorem reached_closed (d : Document) (root : List Selection) :
    ∀ set ∈ root :: (d.reached root).map Fragment.selections, ∀ s ∈ spreadsIn set,
      ∀ f, d.fragment? s.name = some f → f ∈ d.reached root := by
  have hstart : Fair d root [] ([root], [], []) :=
    ⟨by simp, fun set hset => Or.inl (by simpa using hset)⟩
  obtain ⟨names, hfair⟩ := fair_reachedFrom (d.fragments.length + 1) hstart
    (by simp only [ahead, unmet, List.length_singleton]
        have := List.length_filter_le (fun f => !([] : List String).contains f.name.value)
          d.fragments
        omega)
  intro set hset s hs f hf
  rcases hfair.covered set hset with hmem | hcover
  · exact absurd hmem (by simp)
  · exact hfair.found s.name (hcover s hs) f hf

/-! ## What is so of all that is reached -/

/-- The spreads of a set lead to fragments of which `Q` holds. -/
def LeadsTo (d : Document) (Q : Fragment → Prop) (set : List Selection) : Prop :=
  ∀ s ∈ spreadsIn set, ∀ f, d.fragment? s.name = some f → Q f

variable {Q : Fragment → Prop}

theorem leadsTo_foldl (hstep : ∀ f, Q f → LeadsTo d Q f.selections) {spreads : List Spread}
    (hspreads : ∀ s ∈ spreads, ∀ f, d.fragment? s.name = some f → Q f) {x : Search}
    (hwait : ∀ set ∈ x.1, LeadsTo d Q set) (hfound : ∀ f ∈ x.2.1, Q f) :
    (∀ set ∈ (spreads.foldl (meet d) x).1, LeadsTo d Q set) ∧
    ∀ f ∈ (spreads.foldl (meet d) x).2.1, Q f := by
  induction spreads generalizing x with
  | nil => exact ⟨hwait, hfound⟩
  | cons s rest ih =>
    obtain ⟨hs, hrest⟩ := List.forall_mem_cons.1 hspreads
    rw [List.foldl_cons]
    rcases meet_cases d x s with ⟨-, heq⟩ | ⟨-, f, hf, heq⟩ | ⟨-, -, heq⟩ <;> rw [heq]
    · exact ih hrest hwait hfound
    · refine ih hrest (List.forall_mem_cons.2 ⟨hstep f (hs f hf), hwait⟩) fun g hg => ?_
      rcases List.mem_append.1 hg with hg | hg
      · exact hfound g hg
      · rw [List.mem_singleton.1 hg]
        exact hs f hf
    · exact ih hrest hwait hfound

theorem leadsTo_reachedFrom (hstep : ∀ f, Q f → LeadsTo d Q f.selections) (fuel : Nat) {x : Search}
    (hwait : ∀ set ∈ x.1, LeadsTo d Q set) (hfound : ∀ f ∈ x.2.1, Q f) :
    ∀ f ∈ reachedFrom d fuel x.1 x.2.1 x.2.2, Q f := by
  induction fuel generalizing x with
  | zero => exact hfound
  | succ fuel ih =>
    obtain ⟨waiting, found, names⟩ := x
    cases waiting with
    | nil => rw [reachedFrom]; exact hfound; simp
    | cons set rest =>
      obtain ⟨hset, hrest⟩ := List.forall_mem_cons.1 hwait
      obtain ⟨hwait', hfound'⟩ := leadsTo_foldl hstep (x := (rest, found, names)) hset hrest hfound
      exact ih hwait' hfound'

/-- **What holds of all fragments spread in a set, and of those spread in one of which it holds,
holds of all that the set reaches.** -/
theorem reached_induction (hroot : LeadsTo d Q root)
    (hstep : ∀ f, Q f → LeadsTo d Q f.selections) : ∀ f ∈ d.reached root, Q f :=
  leadsTo_reachedFrom hstep _ (x := ([root], [], [])) (by simpa using hroot) (by simp)

theorem mem_fragments_of_reached {f : Fragment} (h : f ∈ d.reached root) : f ∈ d.fragments :=
  reached_induction (Q := (· ∈ d.fragments))
    (fun _ _ _ hf => (mem_fragments_of_fragment? hf).1)
    (fun _ _ _ _ _ hg => (mem_fragments_of_fragment? hg).1) f h

end Document
end BlogGraph.GraphQL
