import BlogGraph.GraphQL.Plan
import BlogGraph.Proofs.GraphQL.Reached

/-!
# Collecting fields

Collecting goes through selections on one object type, into fragments in place and into each named
fragment once.  Every field that it finds stands in one of those (`Gathered`), and the bound on its
steps never shows: any greater one gives the same fields (`PlanContext.collect_of_le`).

Main statements:

* `PlanContext.groups_of_collect`: fields are in groups of different response names;
* `PlanContext.gathered_of_collect`: what is collected was gathered from the selections;
* `PlanContext.collect_of_le`: what is collected does not depend on the bound.
-/

namespace BlogGraph.GraphQL

/-! ## Groups of fields -/

namespace Groups

/-- All fields of groups. -/
def fields (gs : Groups) : List SelectedField := gs.flatMap (·.2)

theorem mem_fields_add {key : String} {f g : SelectedField} {gs : Groups} :
    g ∈ (add key f gs).fields ↔ g ∈ gs.fields ∨ g = f := by
  induction gs with
  | nil => simp [add, fields]
  | cons head rest ih =>
    obtain ⟨k, fs⟩ := head
    rw [add]
    split
    · simp only [fields, List.flatMap_cons, List.mem_append, List.mem_singleton]
      exact or_right_comm
    · simp only [fields, List.flatMap_cons, List.mem_append] at ih ⊢
      rw [ih, or_assoc]

/-- No group is without fields. -/
def Filled (gs : Groups) : Prop := ∀ g ∈ gs, g.2 ≠ []

theorem filled_add {gs : Groups} (h : gs.Filled) (key : String) (f : SelectedField) :
    (add key f gs).Filled := by
  induction gs with
  | nil => simp [add, Filled]
  | cons head rest ih =>
    obtain ⟨hhead, hrest⟩ := List.forall_mem_cons.1 h
    rw [add]
    split
    · exact List.forall_mem_cons.2 ⟨by simp, hrest⟩
    · exact List.forall_mem_cons.2 ⟨hhead, ih hrest⟩

/-- The response names of groups. -/
def keys (gs : Groups) : List String := gs.map (·.1)

/-- A field joins the group of its response name, or begins a new one at the end. -/
theorem keys_add (key : String) (f : SelectedField) (gs : Groups) :
    (add key f gs).keys = if key ∈ gs.keys then gs.keys else gs.keys ++ [key] := by
  induction gs with
  | nil => simp [add, keys]
  | cons head rest ih =>
    obtain ⟨k, fs⟩ := head
    rw [add]
    split
    · next hk => simp [keys, hk]
    · next hk =>
      have hne : key ≠ k := fun heq => hk heq.symm
      simp only [keys, List.map_cons, List.mem_cons, hne, false_or] at ih ⊢
      rw [ih]
      by_cases hmem : key ∈ rest.map (·.1) <;> simp [hmem]

theorem nodup_keys_add {gs : Groups} (h : gs.keys.Nodup) (key : String) (f : SelectedField) :
    (add key f gs).keys.Nodup := by
  rw [keys_add]
  split
  · exact h
  · next hnew =>
    refine List.nodup_append.2 ⟨h, by simp, fun k hk l hl heq => hnew ?_⟩
    rw [← List.mem_singleton.1 hl, ← heq]
    exact hk

end Groups

/-- A field stands in selections on an object type, or in fragments that they lead to. -/
inductive Gathered (d : Document) (parent : String) : List Selection → SelectedField → Prop where
  | field {xs : List Selection} {responseName : Option Name} {n : Name} {args : List Argument}
      {ds : List Directive} {brace : Option Nat} {selections : List Selection}
      (hx : .field responseName n args ds brace selections ∈ xs) :
      Gathered d parent xs ⟨n.value, (responseName.getD n).pos, args, selections⟩
  | inline {xs : List Selection} {pos : Nat} {condition : Option Name} {ds : List Directive}
      {brace : Nat} {selections : List Selection} {f : SelectedField}
      (hx : .inline pos condition ds brace selections ∈ xs)
      (hfor : (condition.map (·.value)).getD parent = parent)
      (hf : Gathered d parent selections f) : Gathered d parent xs f
  | spread {xs : List Selection} {pos : Nat} {n : Name} {ds : List Directive} {g : Fragment}
      {f : SelectedField} (hx : .spread pos n ds ∈ xs) (hg : d.fragment? n.value = some g)
      (hfor : g.condition.value = parent) (hf : Gathered d parent g.selections f) :
      Gathered d parent xs f

theorem Gathered.tail {d : Document} {parent : String} {x : Selection} {xs : List Selection}
    {f : SelectedField} (h : Gathered d parent xs f) : Gathered d parent (x :: xs) f := by
  cases h with
  | field hx => exact .field (List.mem_cons_of_mem _ hx)
  | inline hx hfor hf => exact .inline (List.mem_cons_of_mem _ hx) hfor hf
  | spread hx hg hfor hf => exact .spread (List.mem_cons_of_mem _ hx) hg hfor hf

namespace PlanContext

variable {c : PlanContext} {parent key : String} {expanded expanded' : List String} {x : Selection}
  {selections xs : List Selection} {f : SelectedField} {acc acc' : Collected} {fuel : Nat}

/-! ## The steps of collecting -/

theorem map_eq_ok_iff {ε α β : Type} {e : Except ε α} {g : α → β} {b : β} :
    e.map g = .ok b ↔ ∃ a, e = .ok a ∧ g a = b := by
  cases e <;> simp [Except.map]

/-- A field is added as it was found. -/
theorem step_add (h : c.step parent expanded x = .ok (.add key f)) :
    ∃ responseName n args ds brace inner, x = .field responseName n args ds brace inner ∧
      f = ⟨n.value, (responseName.getD n).pos, args, inner⟩ := by
  cases x with
  | field responseName n args ds brace inner =>
    obtain ⟨included, -, hstep⟩ := map_eq_ok_iff.1 h
    split at hstep
    · exact ⟨responseName, n, args, ds, brace, inner, rfl, (Step.add.inj hstep).2.symm⟩
    · exact absurd hstep (by simp)
  | spread pos n ds =>
    rw [step] at h
    split at h
    · exact absurd h (by simp)
    · obtain ⟨included, -, hstep⟩ := map_eq_ok_iff.1 h
      split at hstep
      · split at hstep <;> exact absurd hstep (by simp)
      · exact absurd hstep (by simp)
  | inline pos condition ds brace inner =>
    obtain ⟨included, -, hstep⟩ := map_eq_ok_iff.1 h
    split at hstep <;> exact absurd hstep (by simp)

/-- Collecting goes on inside a fragment in place, or inside a named one for the first time. -/
theorem step_into (h : c.step parent expanded x = .ok (.into selections expanded')) :
    (∃ pos condition ds brace, x = .inline pos condition ds brace selections ∧
      (condition.map (·.value)).getD parent = parent ∧ expanded' = expanded) ∨
    ∃ pos n ds g, x = .spread pos n ds ∧ n.value ∉ expanded ∧
      c.document.fragment? n.value = some g ∧ g.condition.value = parent ∧
      selections = g.selections ∧ expanded' = n.value :: expanded := by
  cases x with
  | field responseName n args ds brace inner =>
    obtain ⟨included, -, hstep⟩ := map_eq_ok_iff.1 h
    split at hstep <;> exact absurd hstep (by simp)
  | spread pos n ds =>
    rw [step] at h
    split at h
    · exact absurd h (by simp)
    · next hnew =>
      obtain ⟨included, -, hstep⟩ := map_eq_ok_iff.1 h
      split at hstep
      · next g hg =>
        split at hstep
        · next hfor =>
          obtain ⟨rfl, rfl⟩ := Step.into.inj hstep
          rw [Bool.and_eq_true, decide_eq_true_iff] at hfor
          exact Or.inr ⟨pos, n, ds, g, rfl, by simpa using hnew, hg, hfor.2, rfl, rfl⟩
        · exact absurd hstep (by simp)
      · exact absurd hstep (by simp)
  | inline pos condition ds brace inner =>
    obtain ⟨included, -, hstep⟩ := map_eq_ok_iff.1 h
    split at hstep
    · next hfor =>
      obtain ⟨rfl, rfl⟩ := Step.into.inj hstep
      rw [Bool.and_eq_true, decide_eq_true_iff] at hfor
      exact Or.inl ⟨pos, condition, ds, brace, rfl, hfor.2, rfl⟩
    · exact absurd hstep (by simp)

theorem collect_nil (fuel : Nat) : c.collect parent fuel [] acc = .ok acc := by
  cases fuel <;> rfl

theorem collect_cons (fuel : Nat) (x : Selection) (xs : List Selection) (acc : Collected) :
    c.collect parent (fuel + 1) (x :: xs) acc =
      match c.step parent acc.2 x with
      | .error e => .error e
      | .ok .pass => c.collect parent fuel xs acc
      | .ok (.add key f) => c.collect parent fuel xs (Groups.add key f acc.1, acc.2)
      | .ok (.into selections expanded) =>
        match c.collect parent fuel selections (acc.1, expanded) with
        | .error e => .error e
        | .ok acc' => c.collect parent fuel xs acc' := rfl

/-! ## What is collected -/

theorem gathered_of_step_add (h : c.step parent expanded x = .ok (.add key f)) :
    Gathered c.document parent (x :: xs) f := by
  obtain ⟨responseName, n, args, ds, brace, inner, rfl, rfl⟩ := step_add h
  exact .field List.mem_cons_self

theorem gathered_of_step_into (h : c.step parent expanded x = .ok (.into selections expanded'))
    (hf : Gathered c.document parent selections f) : Gathered c.document parent (x :: xs) f := by
  rcases step_into h with ⟨pos, condition, ds, brace, rfl, hfor, -⟩ |
    ⟨pos, n, ds, g, rfl, -, hg, hfor, rfl, -⟩
  · exact .inline List.mem_cons_self hfor hf
  · exact .spread List.mem_cons_self hg hfor hf

/-- What holds when collecting stops at once, and is carried back over each step, holds of all that
is collected. -/
theorem collect_induction {P : List Selection → Collected → Collected → Prop}
    (hstop : ∀ xs acc, P xs acc acc)
    (hpass : ∀ x xs acc acc', c.step parent acc.2 x = .ok .pass →
      P xs acc acc' → P (x :: xs) acc acc')
    (hadd : ∀ x xs acc acc' key f, c.step parent acc.2 x = .ok (.add key f) →
      P xs (Groups.add key f acc.1, acc.2) acc' → P (x :: xs) acc acc')
    (hinto : ∀ x xs acc between acc' selections expanded,
      c.step parent acc.2 x = .ok (.into selections expanded) →
      P selections (acc.1, expanded) between → P xs between acc' → P (x :: xs) acc acc')
    (h : c.collect parent fuel xs acc = .ok acc') : P xs acc acc' := by
  induction fuel generalizing xs acc acc' with
  | zero =>
    obtain rfl := Except.ok.inj h
    exact hstop xs acc
  | succ fuel ih =>
    cases xs with
    | nil =>
      rw [collect_nil] at h
      obtain rfl := Except.ok.inj h
      exact hstop [] acc
    | cons x rest =>
      rw [collect_cons] at h
      split at h
      · exact absurd h (by simp)
      · next hstep => exact hpass x rest acc acc' hstep (ih h)
      · next key f hstep => exact hadd x rest acc acc' key f hstep (ih h)
      · next selections expanded hstep =>
        split at h
        · exact absurd h (by simp)
        · next between hbetween =>
          exact hinto x rest acc between acc' selections expanded hstep (ih hbetween) (ih h)

/-- What adding fields to groups keeps, collecting keeps. -/
theorem collect_keeps {P : Groups → Prop} (hadd : ∀ gs key f, P gs → P (Groups.add key f gs))
    (h : c.collect parent fuel xs acc = .ok acc') : P acc.1 → P acc'.1 := by
  refine collect_induction (P := fun _ acc acc' => P acc.1 → P acc'.1) ?_ ?_ ?_ ?_ h
  · exact fun _ _ hacc => hacc
  · exact fun _ _ _ _ _ hrest => hrest
  · intro x rest acc acc' key f hstep hrest hacc
    exact hrest (hadd acc.1 key f hacc)
  · intro x rest acc between acc' selections expanded hstep hinside hrest hacc
    exact hrest (hinside hacc)

/-- What was collected is in groups of different response names, none of them without fields. -/
theorem groups_of_collect (h : c.collect parent fuel xs ([], []) = .ok acc') :
    acc'.1.keys.Nodup ∧ acc'.1.Filled := by
  constructor
  · exact collect_keeps (P := fun gs => gs.keys.Nodup)
      (fun _ key f hgs => Groups.nodup_keys_add hgs key f) h (by simp [Groups.keys])
  · exact collect_keeps (fun _ key f hgs => Groups.filled_add hgs key f) h (by simp [Groups.Filled])

/-- All fields that were collected were there before or stand in the selections. -/
theorem gathered_of_collect (h : c.collect parent fuel xs acc = .ok acc') :
    ∀ f ∈ acc'.1.fields, f ∈ acc.1.fields ∨ Gathered c.document parent xs f := by
  refine collect_induction (P := fun xs acc acc' => ∀ f ∈ acc'.1.fields,
    f ∈ acc.1.fields ∨ Gathered c.document parent xs f) ?_ ?_ ?_ ?_ h
  · exact fun _ _ f hf => Or.inl hf
  · exact fun _ _ _ _ _ hrest f hf => (hrest f hf).imp_right Gathered.tail
  · intro x rest acc acc' key g hstep hrest f hf
    rcases hrest f hf with hadded | hlater
    · rcases Groups.mem_fields_add.1 hadded with hold | rfl
      · exact Or.inl hold
      · exact Or.inr (gathered_of_step_add hstep)
    · exact Or.inr hlater.tail
  · intro x rest acc between acc' selections expanded hstep hinside hrest f hf
    rcases hrest f hf with hbetween | hlater
    · exact (hinside f hbetween).imp_right (gathered_of_step_into hstep)
    · exact Or.inr hlater.tail

/-- What was collected, in whatever group, stands in the selections. -/
theorem gathered_of_groups (h : c.collect parent fuel xs ([], []) = .ok acc')
    {group : String × List SelectedField} (hgroup : group ∈ acc'.1) (hf : f ∈ group.2) :
    Gathered c.document parent xs f := by
  rcases gathered_of_collect h f (List.mem_flatMap.2 ⟨group, hgroup, hf⟩) with hnone | hgathered
  · exact absurd hnone (by simp [Groups.fields])
  · exact hgathered

/-! ## The bound on collecting -/

theorem subset_of_step_into (h : c.step parent expanded x = .ok (.into selections expanded')) :
    ∀ n ∈ expanded, n ∈ expanded' := by
  rcases step_into h with ⟨_, _, _, _, -, -, rfl⟩ | ⟨_, _, _, _, -, -, -, -, -, rfl⟩
  · exact fun n hn => hn
  · exact fun n hn => List.mem_cons_of_mem _ hn

theorem subset_of_collect (h : c.collect parent fuel xs acc = .ok acc') :
    ∀ n ∈ acc.2, n ∈ acc'.2 := by
  refine collect_induction (P := fun _ acc acc' => ∀ n ∈ acc.2, n ∈ acc'.2) ?_ ?_ ?_ ?_ h
  · exact fun _ _ _ hn => hn
  · exact fun _ _ _ _ _ hrest => hrest
  · exact fun _ _ _ _ _ _ _ hrest => hrest
  · intro x rest acc between acc' selections expanded hstep hinside hrest n hn
    exact hrest n (hinside n (subset_of_step_into hstep n hn))

/-- A bound on the steps that are needed: the selections at hand, and those of each fragment that
has not been expanded. -/
def need (d : Document) (xs : List Selection) (expanded : List String) : Nat :=
  selectionsSize xs + 1 + (Document.Search.unmet d expanded).length * (d.size + 2)

theorem operation_size_le {d : Document} {o : Operation} (ho : o ∈ d.operations) :
    selectionsSize o.selections ≤ d.size := by
  obtain ⟨x, hx, hxo⟩ := List.mem_filterMap.1 ho
  cases x with
  | operation o' =>
    obtain rfl := Option.some.inj hxo
    exact (le_foldl_add _ 0).2 _ (List.mem_map.2 ⟨_, hx, rfl⟩)
  | _ => exact absurd hxo (by simp)

theorem fragment_size_le {d : Document} {g : Fragment} (hg : g ∈ d.fragments) :
    selectionsSize g.selections ≤ d.size := by
  obtain ⟨x, hx, hxg⟩ := List.mem_filterMap.1 hg
  cases x with
  | fragment g' =>
    obtain rfl := Option.some.inj hxg
    exact (le_foldl_add _ 0).2 _ (List.mem_map.2 ⟨_, hx, rfl⟩)
  | _ => exact absurd hxg (by simp)

theorem need_tail (d : Document) (x : Selection) (xs : List Selection) (expanded : List String) :
    need d xs expanded < need d (x :: xs) expanded := by
  simp only [need, selectionsSize]
  omega

theorem need_mono (d : Document) (xs : List Selection) (h : ∀ n ∈ expanded, n ∈ expanded') :
    need d xs expanded' ≤ need d xs expanded :=
  Nat.add_le_add_left (Nat.mul_le_mul_right _ (Document.Search.length_unmet_le d h)) _

/-- Going on inside needs less. -/
theorem need_into (h : c.step parent expanded x = .ok (.into selections expanded')) :
    need c.document selections expanded' < need c.document (x :: xs) expanded := by
  rcases step_into h with ⟨pos, condition, ds, brace, rfl, -, rfl⟩ |
    ⟨pos, n, ds, g, rfl, hnew, hg, -, rfl, rfl⟩
  · simp only [need, selectionsSize, Selection.size]
    omega
  · have hsize := fragment_size_le (Document.mem_fragments_of_fragment? hg).1
    have hless := Document.Search.length_unmet_lt hg hnew
      (fun m hm => List.mem_cons_of_mem n.value hm) List.mem_cons_self
    have hmul := Nat.mul_le_mul_right (c.document.size + 2) (Nat.succ_le_of_lt hless)
    rw [Nat.succ_mul] at hmul
    simp only [need, selectionsSize, Selection.size]
    omega

/-- Two bounds that are both enough give the same fields. -/
theorem collect_eq_of_need {fuel' : Nat} (hfuel : need c.document xs acc.2 ≤ fuel)
    (hfuel' : need c.document xs acc.2 ≤ fuel') :
    c.collect parent fuel xs acc = c.collect parent fuel' xs acc := by
  induction fuel generalizing fuel' xs acc with
  | zero => exact absurd hfuel (by simp only [need]; omega)
  | succ fuel ih =>
    cases fuel' with
    | zero => exact absurd hfuel' (by simp only [need]; omega)
    | succ fuel' =>
      cases xs with
      | nil => rw [collect_nil, collect_nil]
      | cons x rest =>
        have hrest := need_tail c.document x rest acc.2
        rw [collect_cons, collect_cons]
        split
        · rfl
        · exact ih (by omega) (by omega)
        · exact ih (by simpa using by omega) (by simpa using by omega)
        · next selections expanded hstep =>
          have hinto : need c.document selections expanded < need c.document (x :: rest) acc.2 :=
            need_into hstep
          have hinside : c.collect parent fuel selections (acc.1, expanded) =
              c.collect parent fuel' selections (acc.1, expanded) :=
            ih (Nat.le_of_lt_succ (Nat.lt_of_lt_of_le hinto hfuel))
              (Nat.le_of_lt_succ (Nat.lt_of_lt_of_le hinto hfuel'))
          rw [hinside]
          cases hbetween : c.collect parent fuel' selections (acc.1, expanded) with
          | error e => rfl
          | ok between =>
            have hkept : ∀ n ∈ acc.2, n ∈ between.2 := fun n hn =>
              subset_of_collect hbetween n (subset_of_step_into hstep n hn)
            have hmono := need_mono c.document rest hkept
            exact ih (by omega) (by omega)

/-- **The bound on collecting never shows.**  For selections of a document, every bound above that
of the document gives the same fields. -/
theorem collect_of_le (hsize : selectionsSize xs ≤ c.document.size)
    (hfuel : c.document.walkBound ≤ fuel) :
    c.collect parent fuel xs ([], []) = c.collect parent c.document.walkBound xs ([], []) := by
  have hneed : need c.document xs [] ≤ c.document.walkBound := by
    have hall : (Document.Search.unmet c.document []).length = c.document.fragments.length := by
      simp [Document.Search.unmet]
    have hmul : c.document.fragments.length * (c.document.size + 2) ≤
        (c.document.size + 2) * (c.document.fragments.length + 2) := by
      rw [Nat.mul_comm]
      exact Nat.mul_le_mul_left _ (Nat.le_add_right _ 2)
    have hself : c.document.size + 2 ≤
        (c.document.size + 2) * (c.document.fragments.length + 2) :=
      Nat.le_mul_of_pos_right _ (Nat.succ_pos _)
    rw [need, hall, Document.walkBound]
    omega
  exact collect_eq_of_need (Nat.le_trans hneed hfuel) hneed

end PlanContext
end BlogGraph.GraphQL
