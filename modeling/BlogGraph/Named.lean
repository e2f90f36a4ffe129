/-!
# Values by name

A list of named values in the order in which their names first appeared. Setting a name that
is there replaces its value in place. Main statements: what was set is found again
(`get?_set`), and nothing else changes (`get?_set_ne`); of repeated names the last value counts
(`get?_ofList`).
-/

namespace BlogGraph

/-- Values by name. -/
abbrev Named (α : Type) := List (String × α)

namespace Named

/-- The value of a name. -/
def get? {α : Type} (entries : Named α) (name : String) : Option α :=
  (entries.find? fun e => e.1 = name).map (·.2)

/-- The entries with one name set. -/
def set {α : Type} : Named α → String → α → Named α
  | [], name, value => [(name, value)]
  | e :: rest, name, value =>
    if e.1 = name then (name, value) :: rest else e :: set rest name value

/-- The entries with one name set, unless it is there. -/
def setIfMissing {α : Type} (entries : Named α) (name : String) (value : α) : Named α :=
  if (entries.get? name).isSome then entries else entries.set name value

/-- Entries set one after the other. -/
def ofList {α : Type} (pairs : List (String × α)) : Named α :=
  pairs.foldl (fun entries p => entries.set p.1 p.2) []

theorem get?_set {α : Type} (entries : Named α) (name : String) (value : α) :
    (entries.set name value).get? name = some value := by
  induction entries with
  | nil => simp [set, get?]
  | cons e rest ih =>
    by_cases h : e.1 = name
    · simp [set, get?, h]
    · simpa [set, get?, h] using ih

theorem get?_set_ne {α : Type} {name other : String} (h : other ≠ name) (entries : Named α)
    (value : α) : (entries.set name value).get? other = entries.get? other := by
  induction entries with
  | nil => simp [set, get?, h.symm]
  | cons e rest ih =>
    by_cases he : e.1 = name
    · simp [set, get?, he, h.symm]
    · by_cases ho : e.1 = other
      · subst ho
        simp [set, get?, he]
      · simpa [set, get?, he, ho] using ih

theorem get?_setIfMissing_ne {α : Type} {name other : String} (h : other ≠ name)
    (entries : Named α) (value : α) :
    (entries.setIfMissing name value).get? other = entries.get? other := by
  rw [setIfMissing]
  split
  · rfl
  · exact get?_set_ne h entries value

/-- A name that is let through keeps its value. -/
theorem get?_filter {α : Type} {p : String → Bool} {name : String} (h : p name = true)
    (entries : Named α) : get? (entries.filter fun e => p e.1) name = entries.get? name := by
  induction entries with
  | nil => rfl
  | cons e rest ih =>
    by_cases he : e.1 = name
    · subst he
      simp [get?, h]
    · by_cases hp : p e.1 = true
      · simpa [get?, he, hp] using ih
      · simpa [get?, he, hp] using ih

theorem get?_map {α β : Type} (f : String → α → β) (entries : Named α) (name : String) :
    get? (entries.map fun e => (e.1, f e.1 e.2)) name = (entries.get? name).map (f name) := by
  induction entries with
  | nil => rfl
  | cons e rest ih =>
    by_cases h : e.1 = name
    · simp [get?, h]
    · simpa [get?, h] using ih

/-- Changing every value by its name goes along with setting one of them. -/
theorem map_set {α β : Type} (f : String → α → β) (entries : Named α) (name : String) (value : α) :
    (entries.set name value).map (fun e => (e.1, f e.1 e.2)) =
      set (entries.map fun e => (e.1, f e.1 e.2)) name (f name value) := by
  induction entries with
  | nil => rfl
  | cons e rest ih =>
    by_cases h : e.1 = name
    · simp [set, h]
    · simp [set, h, ih]

theorem map_ofList {α β : Type} (f : String → α → β) (pairs : List (String × α)) :
    (ofList pairs).map (fun e => (e.1, f e.1 e.2)) =
      ofList (pairs.map fun e => (e.1, f e.1 e.2)) := by
  have general (entries : Named α) :
      (pairs.foldl (fun es p => es.set p.1 p.2) entries).map (fun e => (e.1, f e.1 e.2)) =
        (pairs.map fun e => (e.1, f e.1 e.2)).foldl (fun es p => set es p.1 p.2)
          (entries.map fun e => (e.1, f e.1 e.2)) := by
    induction pairs generalizing entries with
    | nil => rfl
    | cons p rest ih => rw [List.foldl_cons, ih, map_set, List.map_cons, List.foldl_cons]
  exact general []

/-- Of repeated names the last value counts. -/
theorem get?_ofList {α : Type} (pairs : List (String × α)) (name : String) :
    (ofList pairs).get? name = (pairs.reverse.find? fun p => p.1 = name).map (·.2) := by
  have general (entries : Named α) :
      get? (pairs.foldl (fun es p => es.set p.1 p.2) entries) name =
        ((pairs.reverse.find? fun p => p.1 = name).map (·.2)).or (entries.get? name) := by
    induction pairs generalizing entries with
    | nil => rfl
    | cons p rest ih =>
      rw [List.foldl_cons, ih, List.reverse_cons, List.find?_append, Option.map_or]
      by_cases h : p.1 = name
      · subst h
        simp [get?_set]
      · simp [get?_set_ne (Ne.symm h), h]
  rw [ofList, general []]
  simp [get?]

end Named
end BlogGraph
