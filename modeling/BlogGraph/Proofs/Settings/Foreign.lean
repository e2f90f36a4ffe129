import BlogGraph.Proofs.Settings.Sources
import Mathlib.Data.List.Forall2

/-!
# What does not matter to settings

Settings are read from variables whose names begin alike.  Other variables of the environment do
not matter at all, and neither does the value that a file has for a field which the environment
sets.  The file is stricter in two ways.  A name of another kind may stand in it only without a
value, or if it is the bare name of a field: with any other the settings are refused
(`refused_of_get?`).  And its document of origins is read for itself, so it has to be one even
where the environment has another; an environment whose document is `null` sets nothing.

Main statements: `ofVariables_congr` for one choice of variables and another, `refused_of_get?`,
and `foreign_names_do_not_matter` for files.
-/

namespace BlogGraph

/-! ## Related entries -/

namespace Named

variable {α β : Type}

/-- The same names in the same order, with related values. -/
def Related (r : String → α → β → Prop) : Named α → Named β → Prop :=
  List.Forall₂ fun e e' => e.1 = e'.1 ∧ r e.1 e.2 e'.2

variable {r : String → α → β → Prop} {entries : Named α} {entries' : Named β}

theorem Related.set (h : Related r entries entries') {name : String} {value : α} {value' : β}
    (hvalue : r name value value') :
    Related r (entries.set name value) (entries'.set name value') := by
  induction h with
  | nil => exact .cons ⟨rfl, hvalue⟩ .nil
  | @cons e e' rest rest' he hrest ih =>
    by_cases hname : e.1 = name
    · rw [Named.set, Named.set, if_pos hname, if_pos (he.1 ▸ hname)]
      exact .cons ⟨rfl, hvalue⟩ hrest
    · rw [Named.set, Named.set, if_neg hname, if_neg (he.1 ▸ hname)]
      exact .cons he ih

theorem Related.ofList (h : Related r entries entries') :
    Related r (ofList entries) (ofList entries') := by
  have general {known : Named α} {known' : Named β} (hknown : Related r known known') :
      Related r (entries.foldl (fun es p => es.set p.1 p.2) known)
        (entries'.foldl (fun es p => es.set p.1 p.2) known') := by
    induction h generalizing known known' with
    | nil => exact hknown
    | @cons e e' rest rest' he hrest ih =>
      rw [List.foldl_cons, List.foldl_cons]
      refine ih ?_
      rw [← he.1]
      exact hknown.set he.2
  exact general .nil

/-- A name is found in both or in neither. -/
theorem Related.get? (h : Related r entries entries') (name : String) :
    entries.get? name = none ∧ entries'.get? name = none ∨
      ∃ value value', entries.get? name = some value ∧ entries'.get? name = some value' ∧
        r name value value' := by
  induction h with
  | nil => exact Or.inl ⟨rfl, rfl⟩
  | @cons e e' rest rest' he _ ih =>
    obtain ⟨hnames, hvalues⟩ := he
    by_cases hname : e.1 = name
    · subst hname
      exact Or.inr ⟨e.2, e'.2, by simp [Named.get?], by simp [Named.get?, hnames], hvalues⟩
    · have hname' : e'.1 ≠ name := hnames ▸ hname
      simpa [Named.get?, hname, hname'] using ih

end Named

namespace Settings

open Text

/-! ## Names of variables -/

/-- A name in small letters that begins as those of all variables do. -/
def isVariable (key : String) : Bool :=
  Field.variableStart.toList.isPrefixOf key.toList

theorem isVariable_variableName (f : Field) : isVariable f.variableName = true := by
  rw [isVariable, Field.variableName, String.toList_append]
  simp

/-- The entries under names that begin as those of all variables do. -/
def own {α : Type} (entries : Named α) : Named α :=
  entries.filter fun e => isVariable (lowerString e.1)

theorem filter_folded {α : Type} (entries : Named α) :
    (folded entries).filter (fun e => isVariable e.1) = folded (own entries) := by
  rw [folded, Named.filter_ofList, List.filter_map]
  rfl

theorem get?_folded_own {α : Type} (entries : Named α) (f : Field) :
    (folded (own entries)).get? f.variableName = (folded entries).get? f.variableName := by
  rw [← filter_folded, Named.get?_filter (isVariable_variableName f)]

/-- The value of an entry cannot be a fault: it is empty, or the name is that of a field. -/
def IsHarmless (name : String) (value : Option String) : Prop :=
  value.getD "" = "" ∨ ∃ f : Field, lowerString name = f.name

theorem isKnown_variableName (f : Field) : isKnown f.variableName = true := by
  cases f <;> decide +kernel

theorem isKnown_name (f : Field) : isKnown f.name = true := by
  cases f <;> decide +kernel

/-- Names that are not those of variables are known only as bare names of fields. -/
theorem isKnown_eq_false {key : String} (hkey : isVariable key = false)
    (hname : ∀ f : Field, key ≠ f.name) : isKnown key = false := by
  have hfields : Field.all.any (fun f => key = f.variableName || key = f.name) = false := by
    rw [List.any_eq_false]
    intro f _
    have hvariable : key ≠ f.variableName := by
      rintro rfl
      rw [isVariable_variableName] at hkey
      cases hkey
    simp [hvariable, hname f]
  have horigins : Field.corsOrigins.variableName.toList.isPrefixOf key.toList = false := by
    rw [Bool.eq_false_iff, ne_eq, List.isPrefixOf_iff_prefix]
    intro hprefix
    have hstart : Field.variableStart.toList <+: Field.corsOrigins.variableName.toList := by
      decide
    have hown := List.isPrefixOf_iff_prefix.2 (hstart.trans hprefix)
    rw [isVariable, hown] at hkey
    cases hkey
  rw [isKnown, hfields, horigins]
  rfl

theorem mem_folded {α : Type} {entries : Named α} {e : String × α} (h : e ∈ folded entries) :
    ∃ x ∈ entries, e = (lowerString x.1, x.2) := by
  obtain ⟨x, hx, rfl⟩ := List.mem_map.1 (Named.mem_ofList h)
  exact ⟨x, hx, rfl⟩

/-- Entries of another kind leave no fault if they are harmless. -/
theorem unknownNames_own {entries : Named (Option String)}
    (h : ∀ e ∈ entries, isVariable (lowerString e.1) = false → IsHarmless e.1 e.2) :
    unknownNames (folded entries) = unknownNames (folded (own entries)) := by
  rw [← filter_folded, unknownNames, unknownNames, List.filterMap_filter]
  refine List.filterMap_congr fun e he => ?_
  obtain ⟨x, hx, rfl⟩ := mem_folded he
  cases hkey : isVariable (lowerString x.1) with
  | true => simp
  | false =>
    rcases h x hx hkey with hempty | ⟨f, hname⟩
    · simp [hempty]
    · simp [hname, isKnown_name]

/-! ## Values that the environment overrides -/

/-- A value of the file is missing or holds a document. -/
def IsReadable (value : Option String) : Prop := ∀ text ∈ value, ∃ d, Json.read text = .ok d

/-- The environment sets a field, so that the file may have one value for it or another. For the
origins the environment has to hold a document other than the missing value, and the values of the
file have to be documents too. -/
def IsOverridden (environment : Named String) (f : Field) (value value' : Option String) : Prop :=
  ∃ text, (folded environment).get? f.variableName = some text ∧
    (f = .corsOrigins →
      (∃ d, Json.read text = .ok d ∧ d ≠ .null) ∧ IsReadable value ∧ IsReadable value')

/-- One value of a name in small letters may stand in the place of another in the file. -/
def Replaces (environment : Named String) (key : String) (value value' : Option String) : Prop :=
  value = value' ∨ ∃ f : Field, key = f.variableName ∧ IsOverridden environment f value value'

theorem readDocument_of_ne_null {f : Field} {source : Source} {text : String} {d : Json}
    (h : Json.read text = .ok d) (hnull : d ≠ .null) :
    readDocument f source text = .ok (some (.data d)) := by
  unfold readDocument
  rw [h]
  cases d with
  | null => exact absurd rfl hnull
  | _ => rfl

theorem exists_readDocument (f : Field) (source : Source) {text : String} {d : Json}
    (h : Json.read text = .ok d) : ∃ o, readDocument f source text = .ok o := by
  by_cases hnull : d = .null
  · subst hnull
    exact ⟨none, by rw [readDocument, h]⟩
  · exact ⟨_, readDocument_of_ne_null h hnull⟩

theorem exists_originsOf (source : Source) {entries : Named (Option String)}
    (h : IsReadable (textOf entries .corsOrigins)) : ∃ o, originsOf source entries = .ok o := by
  unfold originsOf
  cases htext : textOf entries .corsOrigins with
  | none => exact ⟨none, rfl⟩
  | some text =>
    obtain ⟨d, hd⟩ := h text htext
    exact exists_readDocument .corsOrigins source hd

section

variable {environment : Named String} {entries entries' : Named (Option String)}

/-- Only known names have values that may be replaced. -/
theorem unknownNames_congr (h : Named.Related (Replaces environment) entries entries') :
    unknownNames entries = unknownNames entries' := by
  induction h with
  | nil => rfl
  | @cons e e' rest rest' he _ ih =>
    obtain ⟨hname, hvalue⟩ := he
    rw [unknownNames, unknownNames, List.filterMap_cons, List.filterMap_cons]
    rw [unknownNames, unknownNames] at ih
    rcases hvalue with hvalue | ⟨f, hf, -⟩
    · rw [hname, hvalue, ih]
    · rw [← hname, hf, isKnown_variableName, ih]
      simp

/-- The value that is read for a field is the same, or the environment sets the field. -/
theorem textOf_congr (h : Named.Related (Replaces environment) entries entries') (f : Field) :
    textOf entries f = textOf entries' f ∨
      IsOverridden environment f (textOf entries f) (textOf entries' f) := by
  unfold textOf
  rcases h.get? f.variableName with ⟨hnone, hnone'⟩ | ⟨value, value', hsome, hsome', hvalue⟩
  · exact Or.inl (by rw [hnone, hnone'])
  · rw [hsome, hsome', Option.join_some, Option.join_some]
    refine hvalue.imp_right fun ⟨g, hg, hover⟩ => ?_
    rw [variableName_injective hg]
    exact hover

/-- What a document is read from is the same, or both documents are there and the environment has
one too. -/
theorem originsOf_congr (h : Named.Related (Replaces environment) entries entries') :
    originsOf .file entries = originsOf .file entries' ∨
      (∃ o o', originsOf .file entries = .ok o ∧ originsOf .file entries' = .ok o') ∧
        ∃ given, originsOf .environment (folded (environment.map fun v => (v.1, some v.2))) =
          .ok (some given) := by
  rcases textOf_congr h .corsOrigins with hsame | ⟨text, htext, hover⟩
  · rw [originsOf, originsOf, hsame]
    exact Or.inl rfl
  · obtain ⟨⟨d, hd, hnull⟩, hread, hread'⟩ := hover rfl
    obtain ⟨o, ho⟩ := exists_originsOf .file hread
    obtain ⟨o', ho'⟩ := exists_originsOf .file hread'
    refine Or.inr ⟨⟨o, o', ho, ho'⟩, .data d, ?_⟩
    rw [originsOf, textOf_environment, htext]
    exact readDocument_of_ne_null hd hnull

/-- The environment goes first, so what is chosen is the same. -/
theorem choose_congr (h : Named.Related (Replaces environment) entries entries') {e : Offer}
    (he : Offer.ofVariables .environment (folded (environment.map fun v => (v.1, some v.2))) =
      .ok e)
    {o o' : Option Given} (ho : o = o' ∨ e.origins.isSome) :
    choose e ⟨textOf entries, o⟩ = choose e ⟨textOf entries', o'⟩ := by
  funext f
  by_cases hf : f = .corsOrigins
  · simp only [choose, Offer.given, if_pos hf]
    rcases ho with rfl | hsome
    · rfl
    · rw [Option.or_of_isSome hsome, Option.or_of_isSome hsome]
  · simp only [choose, Offer.given, if_neg hf]
    rcases textOf_congr h f with hsame | ⟨text, htext, -⟩
    · rw [hsame]
    · have hgiven := given_environment he hf
      rw [Offer.given, if_neg hf, htext] at hgiven
      rw [hgiven]
      rfl

/-- The offers of the two files fail alike, or lead to the same choice. -/
theorem offers_congr (h : Named.Related (Replaces environment) entries entries') {e : Offer}
    (he : Offer.ofVariables .environment (folded (environment.map fun v => (v.1, some v.2))) =
      .ok e) :
    (∃ error, Offer.ofVariables .file entries = .error error ∧
      Offer.ofVariables .file entries' = .error error) ∨
    ∃ f f', Offer.ofVariables .file entries = .ok f ∧ Offer.ofVariables .file entries' = .ok f' ∧
      choose e f = choose e f' := by
  rw [Offer.ofVariables_eq, Offer.ofVariables_eq]
  rcases originsOf_congr h with hsame | ⟨⟨o, o', ho, ho'⟩, given, hgiven⟩
  · rw [← hsame]
    cases originsOf .file entries with
    | error error => exact Or.inl ⟨error, rfl, rfl⟩
    | ok o => exact Or.inr ⟨_, _, rfl, rfl, choose_congr h he (Or.inl rfl)⟩
  · have hsome : e.origins.isSome := by
      obtain ⟨origins, horigins, rfl⟩ := Offer.ofVariables_eq_ok_iff.1 he
      rw [hgiven] at horigins
      cases horigins
      rfl
    rw [ho, ho']
    exact Or.inr ⟨_, _, rfl, rfl, choose_congr h he (Or.inr hsome)⟩

end

/-! ## Variables of another kind -/

theorem textOf_own (entries : Named (Option String)) :
    textOf (folded (own entries)) = textOf (folded entries) := by
  funext f
  rw [textOf, textOf, get?_folded_own]

theorem ofVariables_own (source : Source) (entries : Named (Option String)) :
    Offer.ofVariables source (folded (own entries)) =
      Offer.ofVariables source (folded entries) := by
  rw [Offer.ofVariables_eq, Offer.ofVariables_eq, originsOf, originsOf, textOf_own]

theorem ofVariables_environment_congr {environment environment' : Named String}
    (h : own environment = own environment') :
    Offer.ofVariables .environment (folded (environment.map fun v => (v.1, some v.2))) =
      Offer.ofVariables .environment (folded (environment'.map fun v => (v.1, some v.2))) := by
  have hown (environment : Named String) : own (environment.map fun v => (v.1, some v.2)) =
      (own environment).map fun v => (v.1, some v.2) := by
    rw [own, own, List.filter_map]
    rfl
  rw [← ofVariables_own, hown, h, ← hown, ofVariables_own]

theorem ofVariables_congr {environment environment' : Named String}
    {file file' : Named (Option String)} (henvironment : own environment = own environment')
    (hfile : Named.Related (Replaces environment) (folded (own file)) (folded (own file')))
    (hharmless : ∀ e ∈ file ++ file', isVariable (lowerString e.1) = false →
      IsHarmless e.1 e.2) :
    ofVariables environment file = ofVariables environment' file' := by
  have hnames : unknownNames (folded file) = unknownNames (folded file') := by
    rw [unknownNames_own fun e he => hharmless e (List.mem_append_left _ he),
      unknownNames_own fun e he => hharmless e (List.mem_append_right _ he),
      unknownNames_congr hfile]
  unfold ofVariables
  rw [← ofVariables_environment_congr henvironment, ← ofVariables_own .file file,
    ← ofVariables_own .file file', hnames]
  cases he : Offer.ofVariables .environment (folded (environment.map fun v => (v.1, some v.2))) with
  | error _ => rfl
  | ok e =>
    rcases offers_congr hfile he with ⟨error, hf, hf'⟩ | ⟨f, f', hf, hf', hchoose⟩
    · rw [hf, hf']
    · rw [hf, hf']
      simp only [hchoose]

/-! ## Loading -/

/-- The assignments of a file, if there is one. -/
def assigned (file : Option String) : List EnvFile.Assignment := file.elim [] EnvFile.assignments

/-- The assignments of a file as texts. -/
def listed (file : Option String) : Named (Option String) :=
  (assigned file).map EnvFile.Assignment.entry

theorem load_of_isPlain (environment : Named String) {file : Option String}
    (h : ∀ a ∈ assigned file, ∀ value ∈ a.value, EnvFile.IsPlain value) :
    load environment file = ofVariables environment (Named.ofList (listed file)) := by
  cases file with
  | none => rfl
  | some text => rw [load, Option.elim_some, EnvFile.entries_of_isPlain environment h]; rfl

theorem related_folded {α β : Type} {r : String → α → β → Prop} {entries : Named α}
    {entries' : Named β} (h : Named.Related (fun name => r (lowerString name)) entries entries') :
    Named.Related r (folded entries) (folded entries') := by
  refine Named.Related.ofList ?_
  unfold Named.Related
  rw [List.forall₂_map_left_iff, List.forall₂_map_right_iff]
  exact h.imp fun e e' he => ⟨congrArg lowerString he.1, he.2⟩

theorem own_ofList {α : Type} (pairs : List (String × α)) :
    own (Named.ofList pairs) = Named.ofList (own pairs) :=
  Named.filter_ofList (fun name => isVariable (lowerString name)) pairs

/-- Sources that differ in nothing that matters: the environments have the same variables, the files
assign to the same variables in the same order, with values that are the same or overridden, and
whatever else stands in the files is harmless. -/
structure AgreeOnOwn (environment environment' : Named String) (file file' : Option String) :
    Prop where
  sameOwn : own environment = own environment'
  related : Named.Related (fun name => Replaces environment (lowerString name)) (own (listed file))
    (own (listed file'))
  plain : ∀ a ∈ assigned file ++ assigned file', ∀ value ∈ a.value, EnvFile.IsPlain value
  harmless : ∀ e ∈ listed file ++ listed file', isVariable (lowerString e.1) = false →
    IsHarmless e.1 e.2

theorem AgreeOnOwn.load_eq {environment environment' : Named String} {file file' : Option String}
    (h : AgreeOnOwn environment environment' file file') :
    load environment file = load environment' file' := by
  rw [load_of_isPlain environment fun a ha => h.plain a (List.mem_append_left _ ha),
    load_of_isPlain environment' fun a ha => h.plain a (List.mem_append_right _ ha)]
  refine ofVariables_congr h.sameOwn ?_ fun e he hkey => ?_
  · rw [own_ofList, own_ofList]
    exact related_folded h.related.ofList
  · refine h.harmless e ?_ hkey
    rcases List.mem_append.1 he with he | he
    · exact List.mem_append_left _ (Named.mem_ofList he)
    · exact List.mem_append_right _ (Named.mem_ofList he)

/-- A source that cannot be read is no matter of single faults. -/
theorem ofVariables_ne_invalid {source : Source} {entries : Named (Option String)}
    {faults : List Fault} : Offer.ofVariables source entries ≠ .error (.invalid faults) := by
  rw [Offer.ofVariables_eq]
  unfold originsOf readDocument
  intro h
  repeat' split at h
  all_goals cases h

/-- A file with a value for a name that no field has is refused. -/
theorem refused_of_get? (environment : Named String) {file : Named (Option String)}
    {key value : String} (h : (folded file).get? key = some (some value)) (hvalue : value ≠ "")
    (hkey : isVariable key = false) (hname : ∀ f : Field, key ≠ f.name) :
    ∃ error, ofVariables environment file = .error error ∧
      ∀ faults, error = .invalid faults → ⟨key, none, .unknownName⟩ ∈ faults := by
  have hmem : (⟨key, none, .unknownName⟩ : Fault) ∈ unknownNames (folded file) := by
    obtain ⟨e, hfind, hsnd⟩ := Option.map_eq_some_iff.1 h
    have hfst : e.1 = key := by simpa using List.find?_some hfind
    refine List.mem_filterMap.2 ⟨e, List.mem_of_find?_eq_some hfind, ?_⟩
    rw [hfst, hsnd, isKnown_eq_false hkey hname]
    simp [hvalue]
  unfold ofVariables
  cases he : Offer.ofVariables .environment (folded (environment.map fun v => (v.1, some v.2))) with
  | error error =>
    refine ⟨error, rfl, ?_⟩
    rintro faults rfl
    exact absurd he ofVariables_ne_invalid
  | ok e =>
    cases hf : Offer.ofVariables .file (folded file) with
    | error error =>
      refine ⟨error, rfl, ?_⟩
      rintro faults rfl
      exact absurd hf ofVariables_ne_invalid
    | ok f =>
      simp only
      split
      · rename_i hnil
        rw [(List.append_eq_nil_iff.1 hnil).2] at hmem
        cases hmem
      · refine ⟨_, rfl, ?_⟩
        rintro faults h
        cases h
        exact List.mem_append_right _ hmem

/-- **Variables of another kind do not matter, and neither do values that are overridden**: not in
the environment, and in the file not as long as it has no value for a name of another kind and its
origins can be read; a value for such a name is refused. -/
theorem foreign_names_do_not_matter (environment environment' : Named String)
    (file file' : Option String) :
    (AgreeOnOwn environment environment' file file' →
      load environment file = load environment' file') ∧
    (∀ key value : String,
      (folded (file.elim [] (EnvFile.entries environment))).get? key = some (some value) →
      value ≠ "" → isVariable key = false → (∀ f : Field, key ≠ f.name) →
      ∃ error, load environment file = .error error ∧
        ∀ faults, error = .invalid faults → ⟨key, none, .unknownName⟩ ∈ faults) :=
  ⟨AgreeOnOwn.load_eq, fun _ _ h hvalue hkey hname =>
    refused_of_get? environment h hvalue hkey hname⟩

/-- Another variable, another value of an overridden field, and names that are harmless. -/
theorem foreign_names_do_not_matter_sample :
    AgreeOnOwn [("BLOGQL_DEBUG", "no")] [("PATH", "/bin"), ("BLOGQL_DEBUG", "no")]
      (some "BLOGQL_DEBUG=yes\n") (some "api_host=x\nBLOGQL_DEBUG=off\nEMPTY=\n") ∧
    load [("PATH", "/bin"), ("BLOGQL_DEBUG", "no")]
      (some "api_host=x\nBLOGQL_DEBUG=off\nEMPTY=\n") = .ok { debug := false } := by
  have hfile : assigned (some "BLOGQL_DEBUG=yes\n") =
      [⟨"BLOGQL_DEBUG".toList, some "yes".toList⟩] := by decide +kernel
  have hfile' : assigned (some "api_host=x\nBLOGQL_DEBUG=off\nEMPTY=\n") =
      [⟨"api_host".toList, some "x".toList⟩, ⟨"BLOGQL_DEBUG".toList, some "off".toList⟩,
        ⟨"EMPTY".toList, some []⟩] := by decide +kernel
  have hagree : AgreeOnOwn [("BLOGQL_DEBUG", "no")] [("PATH", "/bin"), ("BLOGQL_DEBUG", "no")]
      (some "BLOGQL_DEBUG=yes\n") (some "api_host=x\nBLOGQL_DEBUG=off\nEMPTY=\n") := by
    refine ⟨by decide +kernel, ?_, ?_, ?_⟩
    · have hown : own (listed (some "BLOGQL_DEBUG=yes\n")) = [("BLOGQL_DEBUG", some "yes")] := by
        decide +kernel
      have hown' : own (listed (some "api_host=x\nBLOGQL_DEBUG=off\nEMPTY=\n")) =
          [("BLOGQL_DEBUG", some "off")] := by decide +kernel
      rw [hown, hown']
      refine .cons ⟨rfl, Or.inr ⟨.debug, by decide +kernel, "no", by decide +kernel, ?_⟩⟩ .nil
      intro h
      cases h
    · have hdollar : ∀ a ∈ assigned (some "BLOGQL_DEBUG=yes\n") ++
          assigned (some "api_host=x\nBLOGQL_DEBUG=off\nEMPTY=\n"),
          ∀ value ∈ a.value, '$' ∉ value := by
        rw [hfile, hfile']
        decide
      exact fun a ha value hvalue => EnvFile.isPlain_of_not_mem (hdollar a ha value hvalue)
    · have hlisted : listed (some "BLOGQL_DEBUG=yes\n") ++
          listed (some "api_host=x\nBLOGQL_DEBUG=off\nEMPTY=\n") =
          [("BLOGQL_DEBUG", some "yes"), ("api_host", some "x"), ("BLOGQL_DEBUG", some "off"),
            ("EMPTY", some "")] := by decide +kernel
      rw [hlisted]
      intro e he hkey
      simp only [List.mem_cons, List.not_mem_nil, or_false] at he
      rcases he with rfl | rfl | rfl | rfl
      · exact absurd hkey (by decide +kernel)
      · exact Or.inr ⟨.apiHost, by decide +kernel⟩
      · exact absurd hkey (by decide +kernel)
      · exact Or.inl rfl
  exact ⟨hagree, (((foreign_names_do_not_matter _ _ _ _).1 hagree).symm).trans (by decide +kernel)⟩

/-- A value for a name of another kind is refused in the file, and so are origins that cannot be
read where the environment has others. -/
theorem foreign_name_is_refused :
    load [] (some "OTHER=1\n") = .error (.invalid [⟨"other", none, .unknownName⟩]) ∧
    load [] none = .ok {} ∧
    load [("BLOGQL_CORS_ORIGINS", "[]")] (some "BLOGQL_CORS_ORIGINS=bad\n") =
      .error (.unreadable .corsOrigins .file) ∧
    load [("BLOGQL_CORS_ORIGINS", "[]")] (some "BLOGQL_CORS_ORIGINS=[]\n") =
      .ok { corsOrigins := [] } := by
  refine ⟨?_, ?_, ?_, ?_⟩ <;> decide +kernel

end Settings
end BlogGraph
