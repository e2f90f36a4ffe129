/-!
# Pieces between separators

A text cut at every place where a separator stands. The pieces may be empty, and there is
always one more of them than there are separators. Main statements: putting the separators back
gives the text again (`joined_pieces`), and pieces without separators are found again in the text
that joins them (`pieces_joined`).
-/

namespace BlogGraph.Text

/-- The pieces of a text between separators. -/
def pieces (separator : Char) : List Char → List (List Char)
  | [] => [[]]
  | c :: rest =>
    if c = separator then [] :: pieces separator rest
    else
      match pieces separator rest with
      | [] => [[c]]
      | p :: ps => (c :: p) :: ps

/-- The text of pieces with separators between them. -/
def joined (separator : Char) : List (List Char) → List Char
  | [] => []
  | [p] => p
  | p :: ps => p ++ separator :: joined separator ps

/-- A text up to the first separator, and what follows it, if there is one. -/
def cutAt (separator : Char) : List Char → List Char × Option (List Char)
  | [] => ([], none)
  | c :: rest =>
    if c = separator then ([], some rest)
    else
      let (before, after) := cutAt separator rest
      (c :: before, after)

theorem pieces_ne_nil (separator : Char) (cs : List Char) : pieces separator cs ≠ [] := by
  induction cs with
  | nil => simp [pieces]
  | cons c rest ih =>
    by_cases h : c = separator
    · simp [pieces, h]
    · unfold pieces
      rw [if_neg h]
      split <;> simp

theorem joined_cons_cons (separator c : Char) (p : List Char) (ps : List (List Char)) :
    joined separator ((c :: p) :: ps) = c :: joined separator (p :: ps) := by
  cases ps <;> simp [joined]

theorem joined_pieces (separator : Char) (cs : List Char) :
    joined separator (pieces separator cs) = cs := by
  induction cs with
  | nil => rfl
  | cons c rest ih =>
    have hne := pieces_ne_nil separator rest
    by_cases h : c = separator
    · cases hp : pieces separator rest with
      | nil => exact absurd hp hne
      | cons p ps =>
        have hj : joined separator (p :: ps) = rest := hp ▸ ih
        simp [pieces, h, hp, joined, hj]
    · cases hp : pieces separator rest with
      | nil => exact absurd hp hne
      | cons p ps => rw [pieces, if_neg h, hp]; simp only [joined_cons_cons]; rw [← hp, ih]

theorem joined_cons_next (separator : Char) (p q : List Char) (ps : List (List Char)) :
    joined separator (p :: q :: ps) = p ++ separator :: joined separator (q :: ps) := rfl

theorem joined_cons (separator : Char) (p : List Char) (ps : List (List Char)) :
    joined separator (p :: ps) = p ++ ps.flatMap (separator :: ·) := by
  induction ps generalizing p with
  | nil => simp [joined]
  | cons q ps ih => rw [joined_cons_next, ih, List.flatMap_cons, List.cons_append]

theorem mem_joined {separator c : Char} {ps : List (List Char)} (h : c ∈ joined separator ps) :
    c = separator ∨ ∃ p ∈ ps, c ∈ p := by
  cases ps with
  | nil => exact absurd h (by simp [joined])
  | cons p ps =>
    rw [joined_cons, List.mem_append, List.mem_flatMap] at h
    rcases h with h | ⟨q, hq, h⟩
    · exact Or.inr ⟨p, by simp, h⟩
    · rcases List.mem_cons.1 h with rfl | h
      · exact Or.inl rfl
      · exact Or.inr ⟨q, List.mem_cons_of_mem p hq, h⟩

theorem pieces_of_not_mem {separator : Char} {p : List Char} (h : separator ∉ p) :
    pieces separator p = [p] := by
  induction p with
  | nil => rfl
  | cons c p ih =>
    obtain ⟨hc, hp⟩ := List.ne_and_not_mem_of_not_mem_cons h
    simp [pieces, Ne.symm hc, ih hp]

theorem pieces_append {separator : Char} {p : List Char} (h : separator ∉ p) (rest : List Char) :
    pieces separator (p ++ separator :: rest) = p :: pieces separator rest := by
  induction p with
  | nil => simp [pieces]
  | cons c p ih =>
    obtain ⟨hc, hp⟩ := List.ne_and_not_mem_of_not_mem_cons h
    simp [pieces, Ne.symm hc, ih hp]

theorem pieces_joined {separator : Char} {ps : List (List Char)} (hne : ps ≠ [])
    (h : ∀ p ∈ ps, separator ∉ p) : pieces separator (joined separator ps) = ps := by
  induction ps with
  | nil => exact absurd rfl hne
  | cons p ps ih =>
    obtain ⟨hp, hps⟩ := List.forall_mem_cons.1 h
    cases ps with
    | nil => exact pieces_of_not_mem hp
    | cons q ps => rw [joined_cons_next, pieces_append hp, ih (List.cons_ne_nil q ps) hps]

theorem cutAt_of_not_mem {separator : Char} {p : List Char} (h : separator ∉ p) :
    cutAt separator p = (p, none) := by
  induction p with
  | nil => rfl
  | cons c p ih =>
    obtain ⟨hc, hp⟩ := List.ne_and_not_mem_of_not_mem_cons h
    simp [cutAt, Ne.symm hc, ih hp]

theorem cutAt_append {separator : Char} {p : List Char} (h : separator ∉ p) (rest : List Char) :
    cutAt separator (p ++ separator :: rest) = (p, some rest) := by
  induction p with
  | nil => simp [cutAt]
  | cons c p ih =>
    obtain ⟨hc, hp⟩ := List.ne_and_not_mem_of_not_mem_cons h
    simp [cutAt, Ne.symm hc, ih hp]

end BlogGraph.Text
