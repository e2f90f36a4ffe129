import BlogGraph.Proofs.Named
import BlogGraph.Settings.Load
import Mathlib.Data.List.Basic

/-!
# What the sources of settings come to

A source is read under names in small letters, and of several spellings of one name the value of
the one that stands last counts (`get?_folded`).  So setting a variable decides what is read only
if no other spelling stands after it (`SpelledLast`, `get?_folded_set`).

A value of a file is taken as it stands unless it refers to other variables, and then it depends
on the environment through these alone (`EnvFile.entries_congr`).

Settings are loaded exactly if both sources can be read, no given value has a fault and the file
holds no unknown name (`ofVariables_eq_ok_iff`).
-/

namespace BlogGraph

namespace EnvFile

/-! ## References -/

/-- A value refers to a variable of this name. -/
def RefersTo (value : List Char) (name : String) : Prop :=
  ∃ part r, part <:+ value ∧ readReference? part = some r ∧ String.ofList r.name = name

theorem RefersTo.of_suffix {part value : List Char} {name : String} (h : RefersTo part name)
    (hpart : part <:+ value) : RefersTo value name := by
  obtain ⟨inner, r, hinner, hr, hname⟩ := h
  exact ⟨inner, r, hinner.trans hpart, hr, hname⟩

theorem suffix_of_drop_eq_cons {n : Nat} {cs rest : List Char} {c : Char}
    (h : cs.drop n = c :: rest) : rest <:+ cs :=
  (List.suffix_cons c rest).trans (h ▸ List.drop_suffix n cs)

/-- What follows a reference stands behind it. -/
theorem readReference?_rest {cs : List Char} {r : Reference} (h : readReference? cs = some r) :
    r.rest <:+ cs := by
  unfold readReference? at h
  split at h
  · rename_i cs
    have hcs : cs <:+ '$' :: '\x7b' :: cs := (List.suffix_cons _ _).trans (List.suffix_cons _ _)
    simp only at h
    split at h
    · rename_i rest hrest
      cases h
      exact (suffix_of_drop_eq_cons hrest).trans hcs
    · rename_i inner hinner
      have hdefault : inner <:+ cs := (List.suffix_cons _ _).trans (suffix_of_drop_eq_cons hinner)
      split at h
      · rename_i rest hrest
        cases h
        exact (suffix_of_drop_eq_cons hrest).trans (hdefault.trans hcs)
      · cases h
    · cases h
  · cases h

section

variable {environment environment' : Named String}

/-- Replacing references uses the environment for the names that are referred to, and for nothing
else. -/
theorem resolveWithin_congr (known : Named (Option String)) {value : List Char}
    (h : ∀ name, RefersTo value name → environment.get? name = environment'.get? name)
    (fuel : Nat) :
    resolveWithin environment known fuel value = resolveWithin environment' known fuel value := by
  induction fuel generalizing value with
  | zero => simp [resolveWithin]
  | succ fuel ih =>
    cases value with
    | nil => simp [resolveWithin]
    | cons c rest =>
      have hbehind {part : List Char} (hpart : part <:+ c :: rest) :
          resolveWithin environment known fuel part = resolveWithin environment' known fuel part :=
        ih fun name hname => h name (hname.of_suffix hpart)
      rw [resolveWithin, resolveWithin]
      cases hr : readReference? (c :: rest) with
      | none => simp only [hbehind (List.suffix_cons c rest)]
      | some r =>
        have hname := h _ ⟨_, r, List.suffix_refl _, hr, rfl⟩
        simp only [lookUp, hname, hbehind (readReference?_rest hr)]

theorem entries_congr {text : String}
    (h : ∀ a ∈ assignments text, ∀ value, a.value = some value → ∀ name, RefersTo value name →
      environment.get? name = environment'.get? name) :
    entries environment text = entries environment' text := by
  unfold entries
  refine List.foldl_ext _ _ _ fun known a ha => ?_
  cases hvalue : a.value with
  | none => rfl
  | some value =>
    have hresolve : resolve environment known value = resolve environment' known value := by
      rw [resolve, resolve, resolveWithin_congr known (h a ha value hvalue)]
    simp only [Option.map_some, hresolve]

end

/-- A value without any reference. -/
def IsPlain (value : List Char) : Prop := ∀ part, part <:+ value → readReference? part = none

theorem resolveWithin_of_isPlain (environment : Named String) (known : Named (Option String))
    {value : List Char} (h : IsPlain value) {fuel : Nat} (hfuel : value.length < fuel) :
    resolveWithin environment known fuel value = value := by
  induction fuel generalizing value with
  | zero => simp at hfuel
  | succ fuel ih =>
    cases value with
    | nil => rfl
    | cons c rest =>
      have hrest : IsPlain rest := fun part hpart => h part (hpart.trans (List.suffix_cons c rest))
      have hlength : rest.length < fuel := by simpa using hfuel
      simp only [resolveWithin, h _ (List.suffix_refl _), ih hrest hlength]

theorem resolve_of_isPlain (environment : Named String) (known : Named (Option String))
    {value : List Char} (h : IsPlain value) :
    resolve environment known value = String.ofList value := by
  rw [resolve, resolveWithin_of_isPlain environment known h (Nat.lt_succ_self _)]

theorem isPlain_of_not_mem {value : List Char} (h : '$' ∉ value) : IsPlain value := by
  intro part hpart
  cases part with
  | nil => rfl
  | cons c rest =>
    have hc : c ≠ '$' := by
      rintro rfl
      exact h (hpart.subset List.mem_cons_self)
    unfold readReference?
    split
    · rename_i heq
      exact absurd (List.cons.inj heq).1 hc
    · rfl

/-- An assignment as texts. -/
def Assignment.entry (a : Assignment) : String × Option String :=
  (String.ofList a.name, a.value.map String.ofList)

/-- Without references the variables of a file are its assignments. -/
theorem entries_of_isPlain (environment : Named String) {text : String}
    (h : ∀ a ∈ assignments text, ∀ value ∈ a.value, IsPlain value) :
    entries environment text = Named.ofList ((assignments text).map Assignment.entry) := by
  rw [entries, Named.ofList, List.foldl_map]
  refine List.foldl_ext _ _ _ fun known a ha => ?_
  cases hvalue : a.value with
  | none => simp [Assignment.entry, hvalue]
  | some value =>
    have hresolve := resolve_of_isPlain environment known (h a ha value hvalue)
    simp [Assignment.entry, hvalue, hresolve]

end EnvFile

namespace Settings

open Text

/-! ## Spellings of a name -/

section Spellings

variable {α : Type}

/-- The last entry with a name, in whatever spelling, has the value that is read. -/
theorem get?_folded (entries : Named α) (key : String) :
    (folded entries).get? key =
      (entries.reverse.find? fun e => lowerString e.1 = key).map (·.2) := by
  rw [folded, Named.get?_ofList, ← List.map_reverse, List.find?_map, Option.map_map]
  rfl

/-- No other spelling of a name stands after an entry under that name. -/
def SpelledLast (entries : Named α) (name : String) : Prop :=
  entries.Pairwise fun a b => a.1 = name → lowerString b.1 ≠ lowerString name

theorem SpelledLast.set {entries : Named α} {name other : String}
    (h : SpelledLast entries name) (hother : lowerString other ≠ lowerString name) (value : α) :
    SpelledLast (entries.set other value) name := by
  induction entries with
  | nil => exact List.pairwise_singleton ..
  | cons e rest ih =>
    obtain ⟨he, hrest⟩ := List.pairwise_cons.1 h
    by_cases heq : e.1 = other
    · rw [Named.set, if_pos heq]
      refine List.pairwise_cons.2 ⟨fun b _ hname => ?_, hrest⟩
      exact absurd (congrArg lowerString hname) hother
    · rw [Named.set, if_neg heq]
      refine List.pairwise_cons.2 ⟨fun b hb hname => ?_, ih hrest⟩
      rcases Named.mem_set hb with hb | rfl
      · exact he b hb hname
      · exact hother

/-- What is set is read, if no other spelling stands after it. -/
theorem get?_folded_set {entries : Named α} {name : String} (h : SpelledLast entries name)
    (value : α) : (folded (entries.set name value)).get? (lowerString name) = some value := by
  obtain ⟨before, after, hset, hold⟩ := Named.exists_set entries name value
  have hnone : after.reverse.find? (fun e => lowerString e.1 = lowerString name) = none := by
    rw [List.find?_eq_none]
    intro e he
    rcases hold with ⟨-, rfl⟩ | ⟨old, rfl⟩
    · simp at he
    · obtain ⟨hlast, -⟩ := List.pairwise_cons.1 (List.pairwise_append.1 h).2.1
      simpa using hlast e (List.mem_reverse.1 he) rfl
  rw [get?_folded, hset]
  simp [hnone]

/-- Setting a variable changes what is read under a name to its value, or not at all. -/
theorem get?_folded_set_or (entries : Named α) (name key : String) (value : α) :
    (folded (entries.set name value)).get? key = (folded entries).get? key ∨
      lowerString name = key ∧ (folded (entries.set name value)).get? key = some value := by
  obtain ⟨before, after, hset, hold⟩ := Named.exists_set entries name value
  rw [get?_folded, get?_folded, hset]
  simp only [List.reverse_append, List.reverse_cons, List.append_assoc, List.find?_append]
  by_cases hkey : lowerString name = key
  · cases hafter : after.reverse.find? fun e => lowerString e.1 = key with
    | none => exact Or.inr ⟨hkey, by simp [hkey]⟩
    | some e =>
      left
      rcases hold with ⟨-, rfl⟩ | ⟨old, rfl⟩
      · simp at hafter
      · simp [hafter]
  · left
    rcases hold with ⟨rfl, rfl⟩ | ⟨old, rfl⟩
    · simp [hkey]
    · simp [hkey]

end Spellings

/-! ## Offers -/

theorem variableName_injective {f g : Field} (h : f.variableName = g.variableName) : f = g :=
  Field.name_injective (String.append_right_inj _ |>.1 h)

/-- The text that a source has for a field. -/
def textOf (entries : Named (Option String)) (f : Field) : Option String :=
  (entries.get? f.variableName).join

/-- The document that a source has for the origins. -/
def originsOf (source : Source) (entries : Named (Option String)) :
    Except LoadError (Option Given) :=
  match textOf entries .corsOrigins with
  | none => .ok none
  | some text => readDocument .corsOrigins source text

theorem Offer.ofVariables_eq (source : Source) (entries : Named (Option String)) :
    Offer.ofVariables source entries =
      (originsOf source entries).map (Offer.mk (textOf entries)) := by
  unfold Offer.ofVariables originsOf textOf
  simp only
  cases (entries.get? Field.corsOrigins.variableName).join with
  | none => rfl
  | some text =>
    simp only
    cases readDocument .corsOrigins source text <;> rfl

theorem Offer.ofVariables_eq_ok_iff {source : Source} {entries : Named (Option String)}
    {o : Offer} : Offer.ofVariables source entries = .ok o ↔
      ∃ origins, originsOf source entries = .ok origins ∧ o = ⟨textOf entries, origins⟩ := by
  rw [Offer.ofVariables_eq]
  cases originsOf source entries with
  | error _ => simp [Except.map]
  | ok origins => simp [Except.map, eq_comm]

/-- The variables of the environment under small names. -/
theorem folded_environment (environment : Named String) :
    folded (environment.map fun v => (v.1, some v.2)) =
      (folded environment).map fun v => (v.1, some v.2) := by
  unfold folded
  rw [Named.map_ofList (fun _ value => some value), List.map_map, List.map_map]
  rfl

/-- What the environment has for a field. -/
theorem textOf_environment (environment : Named String) (f : Field) :
    textOf (folded (environment.map fun v => (v.1, some v.2))) f =
      (folded environment).get? f.variableName := by
  rw [textOf, folded_environment, Named.get?_map (fun _ value => some value)]
  cases (folded environment).get? f.variableName <;> rfl

/-- What the environment gives for a field other than the origins. -/
theorem given_environment {environment : Named String} {e : Offer}
    (h : Offer.ofVariables .environment (folded (environment.map fun v => (v.1, some v.2))) = .ok e)
    {f : Field} (hf : f ≠ .corsOrigins) :
    e.given f = ((folded environment).get? f.variableName).map .text := by
  obtain ⟨origins, -, rfl⟩ := Offer.ofVariables_eq_ok_iff.1 h
  rw [Offer.given, if_neg hf]
  simp only [textOf_environment]

/-! ## Faults -/

/-- The faults of what is given for a field. -/
def faultsOf (given : Option Given) : Field → List Fault
  | .apiHost => (Given.asText .apiHost ({} : Settings).apiHost given).faults
  | .apiPort => (Given.asWhole .apiPort ({} : Settings).apiPort given).faults
  | .apiReload => (Given.asTruth .apiReload ({} : Settings).apiReload given).faults
  | .corsOrigins => (Given.asTexts .corsOrigins ({} : Settings).corsOrigins given).faults
  | .graphiql => (Given.asTruth .graphiql ({} : Settings).graphiql given).faults
  | .seedData => (Given.asTruth .seedData ({} : Settings).seedData given).faults
  | .debug => (Given.asTruth .debug ({} : Settings).debug given).faults
  | .logLevel => (Given.asText .logLevel ({} : Settings).logLevel given).faults

theorem check_faults (given : Field → Option Given) :
    (check given).faults = Field.all.flatMap fun f => faultsOf (given f) f := by
  simp [check, Field.all, faultsOf]

theorem Field.mem_all (f : Field) : f ∈ Field.all := by
  cases f <;> decide

theorem check_faults_eq_nil_iff (given : Field → Option Given) :
    (check given).faults = [] ↔ ∀ f, faultsOf (given f) f = [] := by
  rw [check_faults, List.flatMap_eq_nil_iff]
  exact ⟨fun h f => h f f.mem_all, fun h f _ => h f⟩

/-- Settings are loaded exactly if both sources can be read and nothing in them is at fault. -/
theorem ofVariables_eq_ok_iff {environment : Named String} {file : Named (Option String)}
    {s : Settings} : ofVariables environment file = .ok s ↔ ∃ e f,
      Offer.ofVariables .environment (folded (environment.map fun v => (v.1, some v.2))) = .ok e ∧
      Offer.ofVariables .file (folded file) = .ok f ∧
      (check (choose e f)).faults = [] ∧ unknownNames (folded file) = [] ∧
      s = (check (choose e f)).value := by
  unfold ofVariables
  cases Offer.ofVariables .environment (folded (environment.map fun v => (v.1, some v.2))) with
  | error _ => simp
  | ok e =>
    cases Offer.ofVariables .file (folded file) with
    | error _ => simp
    | ok f =>
      simp only
      constructor
      · intro h
        split at h
        · rename_i hnil
          obtain ⟨hfaults, hnames⟩ := List.append_eq_nil_iff.1 hnil
          exact ⟨e, f, rfl, rfl, hfaults, hnames, (Except.ok.inj h).symm⟩
        · cases h
      · rintro ⟨_, _, he, hf, hfaults, hnames, rfl⟩
        cases he
        cases hf
        rw [hfaults, hnames]
        rfl

end Settings
end BlogGraph
