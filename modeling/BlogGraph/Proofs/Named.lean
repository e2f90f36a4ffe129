import BlogGraph.Named

/-!
# Values by name, continued

Setting a name puts its value in the place that the name has, or at the end (`exists_set`).  So
names that do not repeat go on not to (`nodup_set`), and setting goes along with filtering.  A
list of pairs whose names do not repeat is made into itself (`ofList_eq_self`).
-/

namespace BlogGraph.Named

variable {α : Type}

/-! ## Setting one name -/

theorem exists_set (entries : Named α) (name : String) (value : α) :
    ∃ before after, entries.set name value = before ++ (name, value) :: after ∧
      (entries = before ∧ after = [] ∨ ∃ old, entries = before ++ (name, old) :: after) := by
  induction entries with
  | nil => exact ⟨[], [], rfl, Or.inl ⟨rfl, rfl⟩⟩
  | cons e rest ih =>
    by_cases h : e.1 = name
    · subst h
      exact ⟨[], rest, by simp [set], Or.inr ⟨e.2, rfl⟩⟩
    · obtain ⟨before, after, hset, hold⟩ := ih
      refine ⟨e :: before, after, by simp [set, h, hset], ?_⟩
      rcases hold with ⟨rfl, rfl⟩ | ⟨old, rfl⟩
      · exact Or.inl ⟨rfl, rfl⟩
      · exact Or.inr ⟨old, rfl⟩

theorem mem_set {entries : Named α} {name : String} {value : α} {e : String × α}
    (h : e ∈ entries.set name value) : e ∈ entries ∨ e = (name, value) := by
  obtain ⟨before, after, hset, hold⟩ := exists_set entries name value
  rw [hset] at h
  rcases hold with ⟨rfl, rfl⟩ | ⟨old, rfl⟩
  · simpa using h
  · rcases List.mem_append.1 h with h | h
    · exact Or.inl (List.mem_append_left _ h)
    · rcases List.mem_cons.1 h with h | h
      · exact Or.inr h
      · exact Or.inl (List.mem_append_right _ (List.mem_cons_of_mem _ h))

theorem map_fst_set (entries : Named α) (name : String) (value : α) :
    (entries.set name value).map (·.1) =
      if name ∈ entries.map (·.1) then entries.map (·.1) else entries.map (·.1) ++ [name] := by
  induction entries with
  | nil => rfl
  | cons e rest ih =>
    by_cases he : e.1 = name
    · simp [set, he]
    · by_cases hrest : name ∈ rest.map (·.1)
      · rw [if_pos hrest] at ih
        rw [set, if_neg he, List.map_cons, ih, List.map_cons, if_pos (List.mem_cons_of_mem _ hrest)]
      · rw [if_neg hrest] at ih
        rw [set, if_neg he, List.map_cons, ih, List.map_cons, if_neg (by simp [Ne.symm he, hrest])]
        rfl

theorem nodup_set {entries : Named α} (h : (entries.map (·.1)).Nodup) (name : String) (value : α) :
    ((entries.set name value).map (·.1)).Nodup := by
  rw [map_fst_set]
  split
  · exact h
  · rename_i hname
    refine List.nodup_append.2 ⟨h, by simp, fun a ha b hb => ?_⟩
    rw [List.mem_singleton.1 hb]
    rintro rfl
    exact hname ha

/-- A new name comes last. -/
theorem set_eq_append {entries : Named α} {name : String} (h : name ∉ entries.map (·.1))
    (value : α) : entries.set name value = entries ++ [(name, value)] := by
  induction entries with
  | nil => rfl
  | cons e rest ih =>
    rw [List.map_cons, List.mem_cons, not_or] at h
    rw [set, if_neg (Ne.symm h.1), ih h.2, List.cons_append]

/-- Setting a name to the value that it has changes nothing. -/
theorem set_eq_self {entries : Named α} {name : String} {value : α}
    (h : entries.get? name = some value) : entries.set name value = entries := by
  induction entries with
  | nil => cases h
  | cons e rest ih =>
    obtain ⟨other, held⟩ := e
    by_cases he : other = name
    · simp only [get?, he, List.find?_cons_of_pos, Option.map_some, decide_true,
        Option.some.injEq] at h
      rw [set, if_pos he, he, h]
    · rw [set, if_neg he, ih (by simpa [get?, he] using h)]

/-- Where names do not repeat, each is found with its value. -/
theorem get?_eq_some_iff {entries : Named α} (h : (entries.map (·.1)).Nodup) {name : String}
    {value : α} : entries.get? name = some value ↔ (name, value) ∈ entries := by
  induction entries with
  | nil => simp [get?]
  | cons e rest ih =>
    obtain ⟨other, held⟩ := e
    rw [List.map_cons, List.nodup_cons] at h
    by_cases he : other = name
    · subst he
      have hrest : (other, value) ∉ rest := fun hmem => h.1 (List.mem_map.2 ⟨_, hmem, rfl⟩)
      simp [get?, hrest, eq_comm]
    · simpa [get?, he, Ne.symm he] using ih h.2

/-- What is there is not replaced. -/
theorem get?_setIfMissing_of_some {entries : Named α} {name : String} {value : α}
    (h : entries.get? name = some value) (other : String) (new : α) :
    (entries.setIfMissing other new).get? name = some value := by
  by_cases hother : name = other
  · subst hother
    rw [setIfMissing, if_pos (by simp [h]), h]
  · rw [get?_setIfMissing_ne hother, h]

/-- Setting a name that is filtered out changes nothing. -/
theorem filter_set_of_false {p : String → Bool} {name : String} (h : p name = false)
    (entries : Named α) (value : α) :
    (entries.set name value).filter (fun e => p e.1) = entries.filter fun e => p e.1 := by
  obtain ⟨before, after, hset, hold⟩ := exists_set entries name value
  rw [hset]
  rcases hold with ⟨rfl, rfl⟩ | ⟨old, rfl⟩
  · simp [h]
  · simp [h]

/-- Setting a name that is let through goes along with filtering. -/
theorem filter_set_of_true {p : String → Bool} {name : String} (h : p name = true)
    (entries : Named α) (value : α) :
    (entries.set name value).filter (fun e => p e.1) =
      set (entries.filter fun e => p e.1) name value := by
  induction entries with
  | nil => simp [set, h]
  | cons e rest ih =>
    by_cases he : e.1 = name
    · subst he
      simp [set, h]
    · by_cases hp : p e.1 = true
      · simp [set, he, hp, ih]
      · simp [set, he, hp, ih]

/-! ## Setting names one after the other -/

/-- Names that do not repeat are all kept, in their order. -/
theorem ofList_eq_self {pairs : List (String × α)} (h : (pairs.map (·.1)).Nodup) :
    ofList pairs = pairs := by
  have general (known pairs : Named α) (h : ((known ++ pairs).map (·.1)).Nodup) :
      pairs.foldl (fun es p => es.set p.1 p.2) known = known ++ pairs := by
    induction pairs generalizing known with
    | nil => exact (List.append_nil known).symm
    | cons p rest ih =>
      have hnew : p.1 ∉ known.map (·.1) := by
        rw [List.map_append, List.map_cons] at h
        exact fun hmem => (List.nodup_append.1 h).2.2 _ hmem _ List.mem_cons_self rfl
      have hmoved : known ++ p :: rest = known ++ [p] ++ rest := by simp
      rw [hmoved] at h ⊢
      rw [List.foldl_cons, set_eq_append hnew]
      exact ih _ h
  exact general [] pairs h

theorem filter_ofList (p : String → Bool) (pairs : List (String × α)) :
    (ofList pairs).filter (fun e => p e.1) = ofList (pairs.filter fun e => p e.1) := by
  have general (known : Named α) :
      (pairs.foldl (fun es e => es.set e.1 e.2) known).filter (fun e => p e.1) =
        (pairs.filter fun e => p e.1).foldl (fun es e => set es e.1 e.2)
          (known.filter fun e => p e.1) := by
    induction pairs generalizing known with
    | nil => rfl
    | cons e rest ih =>
      rw [List.foldl_cons, ih]
      by_cases hp : p e.1 = true
      · rw [List.filter_cons_of_pos (by exact hp), List.foldl_cons, filter_set_of_true hp]
      · rw [List.filter_cons_of_neg (by exact hp), filter_set_of_false (by simpa using hp)]
  exact general []

theorem mem_ofList {pairs : List (String × α)} {e : String × α} :
    e ∈ ofList pairs → e ∈ pairs := by
  have general (known : Named α) (h : e ∈ pairs.foldl (fun es e => es.set e.1 e.2) known) :
      e ∈ known ∨ e ∈ pairs := by
    induction pairs generalizing known with
    | nil => exact Or.inl h
    | cons p rest ih =>
      rcases ih _ h with h | h
      · rcases mem_set h with h | rfl
        · exact Or.inl h
        · exact Or.inr List.mem_cons_self
      · exact Or.inr (List.mem_cons_of_mem _ h)
  exact fun h => (general [] h).resolve_left List.not_mem_nil

end BlogGraph.Named
