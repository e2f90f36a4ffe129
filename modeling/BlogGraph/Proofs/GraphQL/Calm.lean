import BlogGraph.GraphQL.Response

/-!
# Completing values without failures

A completed value is calm when it is there, now or after waiting, and nothing was left behind on the
way: no error and no report.  Whatever is put together from calm values is calm.

Main statements:

* `Completed.Calm.start`: a calm value comes to an answer without marks;
* `Completed.calm_gather`, `Completed.calm_gatherObject`: calm values make a calm list or object.
-/

namespace BlogGraph.GraphQL

namespace Course

variable {α : Type}

/-- A course that comes to a value and leaves nothing behind. -/
def Quiet (P : α → Prop) (c : Course α) : Prop := ∃ a, c = ⟨.ok a, []⟩ ∧ P a

theorem earliest_of_quiet {P : α → Prop} {cs : List (Course α)} (h : ∀ c ∈ cs, Quiet P c)
    (i : Nat) : earliest i cs = none := by
  induction cs generalizing i with
  | nil => rfl
  | cons c rest ih =>
    obtain ⟨hc, hrest⟩ := List.forall_mem_cons.1 h
    obtain ⟨a, rfl, -⟩ := hc
    rw [earliest, ih hrest]

theorem marks_of_quiet {P : α → Prop} {cs : List (Course α)} (h : ∀ c ∈ cs, Quiet P c) :
    cs.flatMap (·.marks) = [] := by
  refine List.flatMap_eq_nil_iff.2 fun c hc => ?_
  obtain ⟨a, rfl, -⟩ := h c hc
  rfl

/-- Quiet courses at the same time are quiet together. -/
theorem quiet_together {P : α → Prop} {cs : List (Course α)} (h : ∀ c ∈ cs, Quiet P c) :
    Quiet (fun _ => True) (together cs) := by
  refine ⟨values cs, ?_, trivial⟩
  rw [together, earliest_of_quiet h, marks_of_quiet h]
  simp [inOrder]

end Course

open Course

/-- Waiting courses that are quiet whenever they start. -/
def QuietWaits {α : Type} (P : α → Prop) (w : Waiting α) : Prop := ∀ round, Quiet P (w round)

theorem quiet_startAll {α : Type} {P : α → Prop} {ws : List (Waiting α)}
    (h : ∀ w ∈ ws, QuietWaits P w) (round : Nat) : Quiet (fun _ => True) (startAll ws round) := by
  unfold startAll
  split
  · next w =>
    obtain ⟨a, ha, -⟩ := h w (List.mem_singleton_self _) round
    simp only [ha]
    exact ⟨[a], rfl, trivial⟩
  · next ws _ =>
    refine quiet_together (P := P) fun c hc => ?_
    obtain ⟨w, hw, rfl⟩ := List.mem_map.1 hc
    exact h w hw (round + 1)

namespace Completed

variable {α β : Type} {P : α → Prop} {Q : β → Prop}

/-- A value that is there, now or after waiting, with nothing left behind. -/
def Calm (P : α → Prop) (c : Completed α) : Prop :=
  c.marks = [] ∧
    match c.ready with
    | .failed _ => False
    | .done a => P a
    | .waiting w => QuietWaits P w

theorem calm_value {a : α} (h : P a) : Calm P (value a) := ⟨rfl, h⟩

theorem Calm.mono {P' : α → Prop} {c : Completed α} (h : Calm P c) (hP : ∀ a, P a → P' a) :
    Calm P' c := by
  obtain ⟨hmarks, hready⟩ := h
  refine ⟨hmarks, ?_⟩
  split at hready
  · exact hready
  · exact hP _ hready
  · intro round
    obtain ⟨a, ha, hpa⟩ := hready round
    exact ⟨a, ha, hP a hpa⟩

/-- A calm value comes to an answer without marks, whenever it is started. -/
theorem Calm.start {c : Completed α} (h : Calm P c) : QuietWaits P c.start := by
  obtain ⟨ready, marks⟩ := c
  obtain ⟨rfl, hready⟩ := h
  intro round
  cases ready with
  | failed e => exact absurd hready id
  | done a => exact ⟨a, rfl, hready⟩
  | waiting w =>
    obtain ⟨a, ha, hpa⟩ := hready round
    refine ⟨a, ?_, hpa⟩
    simp only [Completed.start, ha]
    rfl

theorem calm_map {f : α → β} {c : Completed α} (h : Calm P c) (hf : ∀ a, P a → Q (f a)) :
    Calm Q (c.map f) := by
  obtain ⟨ready, marks⟩ := c
  obtain ⟨rfl, hready⟩ := h
  cases ready with
  | failed e => exact absurd hready id
  | done a => exact ⟨rfl, hf a hready⟩
  | waiting w =>
    refine ⟨rfl, fun round => ?_⟩
    obtain ⟨a, ha, hpa⟩ := hready round
    simp only [ha]
    exact ⟨f a, rfl, hf a hpa⟩

theorem calm_settle {P : Json → Prop} {c : Completed Json} (h : Calm P c) (type : Ty) :
    Calm P (settle type c) := by
  obtain ⟨ready, marks⟩ := c
  obtain ⟨rfl, hready⟩ := h
  rw [settle]
  split
  · exact ⟨rfl, hready⟩
  · cases ready with
    | failed e => exact absurd hready id
    | done a => exact ⟨rfl, hready⟩
    | waiting w =>
      refine ⟨rfl, fun round => ?_⟩
      obtain ⟨a, ha, hpa⟩ := hready round
      simp only [ha]
      exact ⟨a, rfl, hpa⟩

/-- Gathering goes on calmly when nothing has been left behind so far. -/
theorem calm_go {P : Json → Prop} {cs : List (Completed Json)} (h : ∀ c ∈ cs, Calm P c)
    (slots : List (Option Json)) {waits : List (Waiting Json)}
    (hwaits : ∀ w ∈ waits, QuietWaits P w) :
    Calm (fun _ => True) (gather.go cs slots waits []) := by
  induction cs generalizing slots waits with
  | nil =>
    rw [gather.go]
    simp only
    split
    · exact ⟨rfl, trivial⟩
    · refine ⟨rfl, fun round => ?_⟩
      obtain ⟨vs, hvs, -⟩ := quiet_startAll
        (fun w hw => hwaits w (List.mem_reverse.1 hw)) round
      simp only [hvs]
      exact ⟨_, rfl, trivial⟩
  | cons c rest ih =>
    obtain ⟨hc, hrest⟩ := List.forall_mem_cons.1 h
    obtain ⟨ready, marks⟩ := c
    obtain ⟨rfl, hready⟩ := hc
    rw [gather.go]
    cases ready with
    | failed e => exact absurd hready id
    | done v => exact ih hrest (some v :: slots) hwaits
    | waiting w =>
      exact ih hrest (none :: slots) (List.forall_mem_cons.2 ⟨hready, hwaits⟩)

/-- Calm values are calm as a list. -/
theorem calm_gather {P : Json → Prop} {cs : List (Completed Json)} (h : ∀ c ∈ cs, Calm P c) :
    Calm (fun _ => True) (gather cs) :=
  calm_go h [] (by simp)

/-- Calm answers to the fields of an object make a calm object. -/
theorem calm_gatherObject {P : Json → Prop} {answers : List (Completed Json)}
    (h : ∀ c ∈ answers, Calm P c) (keys : List String) :
    Calm (fun v => ∃ fields, v = .object fields) (gatherObject keys answers) :=
  calm_map (calm_gather h) fun _ _ => ⟨_, rfl⟩

/-- A question that is answered without a report is completed calmly. -/
theorem calm_completeAnswer {P : Json → Prop} {positions : List Nat} {path : List PathKey}
    {found : Found} {complete : FieldValue → Completed Json}
    (h : Calm P (complete (.ofFound found))) :
    Calm P (completeAnswer positions path (.found found) complete) := by
  refine ⟨rfl, fun round => ?_⟩
  obtain ⟨a, ha, hpa⟩ := h.start round
  refine ⟨a, ?_, hpa⟩
  simp only [Answer.found, ha]
  rfl

end Completed
end BlogGraph.GraphQL
