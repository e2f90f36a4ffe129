import BlogGraph.Proofs.Settings.Foreign
import Mathlib.Data.List.Nodup

/-!
# Where the values of settings come from

Where no name comes twice, not even in another spelling, each field goes by its own variable alone.
The environment goes first and the file second, and what a variable sets has to be a value of its
field (`Field.read?`); a field that neither sets has its default.  Origins are set by a document,
and one that is `null` sets nothing: the file or the default counts, as if the variable were not
there (`null_gives_way`).

Main statements: `given_of_sets` and `given_of_not_sets` for one source, `read?_eq_some_value` for
the values that are checked, and `fields_go_by_precedence`.
-/

namespace BlogGraph.Settings

open Text

/-! ## Fields and their values -/

/-- What a field holds. -/
def Field.Value : Field → Type
  | .apiHost | .logLevel => String
  | .apiPort => Int
  | .corsOrigins => List String
  | .apiReload | .graphiql | .seedData | .debug => Bool

/-- What settings hold in a field. -/
def value (s : Settings) : (f : Field) → f.Value
  | .apiHost => s.apiHost
  | .apiPort => s.apiPort
  | .apiReload => s.apiReload
  | .corsOrigins => s.corsOrigins
  | .graphiql => s.graphiql
  | .seedData => s.seedData
  | .debug => s.debug
  | .logLevel => s.logLevel

/-- The text that a document is, if it is one. -/
def text? : Json → Option String
  | .text s => some s
  | _ => none

/-- The value of a field that a text stands for, if it stands for one. -/
def Field.read? : (f : Field) → String → Option f.Value
  | .apiHost, text => some text
  | .apiPort, text => (readWhole text).toOption
  | .apiReload, text => (readTruth text).toOption
  | .corsOrigins, text =>
    match Json.read text with
    | .ok (.list items) => items.mapM text?
    | _ => none
  | .graphiql, text => (readTruth text).toOption
  | .seedData, text => (readTruth text).toOption
  | .debug, text => (readTruth text).toOption
  | .logLevel, text => some text

/-! ## Checked values -/

/-- A value without fault is the one that was read. -/
theorem toOption_of_checked {α : Type} {f : Field} {default : α} {read : Except Problem α}
    (h : (Given.checked f default read).faults = []) :
    read.toOption = some (Given.checked f default read).value := by
  cases read with
  | ok a => rfl
  | error p => cases h

/-- Items without fault are texts. -/
theorem mapM_text?_of_faultsOfItems {name : String} {items : List Json} {i : Nat}
    (h : faultsOfItems name i items = []) : items.mapM text? = some (textsOf items) := by
  induction items generalizing i with
  | nil => rfl
  | cons item rest ih =>
    cases item with
    | text s =>
      rw [List.mapM_cons, text?, ih h]
      rfl
    | _ => cases h

/-- What the text of a variable gives for a field: itself, or for the origins the document in it,
unless that is the missing value. -/
def Field.gives (f : Field) (text : String) : Option Given :=
  if f = .corsOrigins then
    match Json.read text with
    | .ok .null => none
    | .ok v => some (.data v)
    | .error _ => none
  else some (.text text)

theorem Field.gives_of_ne {f : Field} (hf : f ≠ .corsOrigins) (text : String) :
    f.gives text = some (.text text) := if_neg hf

theorem exists_read_of_gives {text : String} {g : Given}
    (h : Field.corsOrigins.gives text = some g) :
    ∃ v, Json.read text = .ok v ∧ g = .data v := by
  rw [Field.gives, if_pos rfl] at h
  split at h
  · cases h
  · rename_i v _ hv
    exact ⟨v, hv, (Option.some.inj h).symm⟩
  · cases h

/-- A field for which nothing is given has its default. -/
theorem value_check_of_none {given : Field → Option Given} {f : Field} (h : given f = none) :
    (check given).value.value f = ({} : Settings).value f := by
  cases f <;> simp only [check, value, h] <;> rfl

/-- A field for which a text gives something without fault has the value that it stands for. -/
theorem read?_eq_some_value {given : Field → Option Given} {f : Field} {text : String} {g : Given}
    (hgives : f.gives text = some g) (hgiven : given f = some g)
    (hfaults : faultsOf (given f) f = []) : f.read? text = some ((check given).value.value f) := by
  rw [hgiven] at hfaults
  by_cases hf : f = .corsOrigins
  · subst hf
    obtain ⟨v, hread, rfl⟩ := exists_read_of_gives hgives
    simp only [check, value, hgiven]
    cases v with
    | list items =>
      rw [Field.read?, hread]
      exact mapM_text?_of_faultsOfItems hfaults
    | _ => cases hfaults
  · rw [Field.gives_of_ne hf, Option.some.injEq] at hgives
    subst hgives
    cases f with
    | apiHost => simp only [check, value, hgiven]; rfl
    | apiPort => simp only [check, value, hgiven]; exact toOption_of_checked hfaults
    | apiReload => simp only [check, value, hgiven]; exact toOption_of_checked hfaults
    | corsOrigins => exact absurd rfl hf
    | graphiql => simp only [check, value, hgiven]; exact toOption_of_checked hfaults
    | seedData => simp only [check, value, hgiven]; exact toOption_of_checked hfaults
    | debug => simp only [check, value, hgiven]; exact toOption_of_checked hfaults
    | logLevel => simp only [check, value, hgiven]; rfl

/-! ## What a source sets -/

/-- Entries set a field to a text: one of them has the name of its variable, in whatever spelling,
and this text for its value.  Origins are not set to a document that is the missing value. -/
def Sets (entries : Named (Option String)) (f : Field) (text : String) : Prop :=
  (∃ name, (name, some text) ∈ entries ∧ lowerString name = f.variableName) ∧
    (f = .corsOrigins → Json.read text ≠ .ok .null)

/-- No name comes twice, not even in another spelling. -/
def SpelledOnce {α : Type} (entries : Named α) : Prop :=
  (entries.map fun e => lowerString e.1).Nodup

instance {α : Type} (entries : Named α) : Decidable (SpelledOnce entries) :=
  inferInstanceAs (Decidable (List.Nodup _))

theorem folded_of_spelledOnce {α : Type} {entries : Named α} (h : SpelledOnce entries) :
    folded entries = entries.map fun e => (lowerString e.1, e.2) := by
  refine Named.ofList_eq_self ?_
  rw [List.map_map]
  exact h

/-- The text for a field is that of the one entry with its name. -/
theorem textOf_eq_some_iff {entries : Named (Option String)} (h : SpelledOnce entries) {f : Field}
    {text : String} : textOf (folded entries) f = some text ↔
      ∃ name, (name, some text) ∈ entries ∧ lowerString name = f.variableName := by
  have hnames : ((folded entries).map (·.1)).Nodup := by
    rw [folded_of_spelledOnce h, List.map_map]
    exact h
  rw [textOf, Option.join_eq_some_iff, Named.get?_eq_some_iff hnames, folded_of_spelledOnce h,
    List.mem_map]
  constructor
  · rintro ⟨⟨name, held⟩, hmem, heq⟩
    obtain ⟨hname, rfl⟩ := Prod.mk.inj heq
    exact ⟨name, hmem, hname⟩
  · rintro ⟨name, hmem, hname⟩
    exact ⟨(name, some text), hmem, by rw [hname]⟩

theorem sets_iff {entries : Named (Option String)} (h : SpelledOnce entries) {f : Field}
    {text : String} : Sets entries f text ↔
      textOf (folded entries) f = some text ∧ (f = .corsOrigins → Json.read text ≠ .ok .null) := by
  rw [Sets, textOf_eq_some_iff h]

section

variable {source : Source} {entries : Named (Option String)} {o : Offer} {f : Field}

/-- What a source gives for a field is what the text for it gives. -/
theorem given_eq (ho : Offer.ofVariables source entries = .ok o) (f : Field) :
    o.given f = (textOf entries f).bind f.gives := by
  obtain ⟨origins, horigins, rfl⟩ := Offer.ofVariables_eq_ok_iff.1 ho
  by_cases hf : f = .corsOrigins
  · subst hf
    rw [Offer.given, if_pos rfl]
    unfold originsOf at horigins
    cases htext : textOf entries .corsOrigins with
    | none =>
      rw [htext] at horigins
      exact (Except.ok.inj horigins).symm
    | some text =>
      simp only [htext, readDocument] at horigins
      rw [Option.bind_some, Field.gives, if_pos rfl]
      cases hread : Json.read text with
      | error e =>
        rw [hread] at horigins
        cases e <;> cases horigins
      | ok v =>
        rw [hread] at horigins
        cases v <;> exact (Except.ok.inj horigins).symm
  · rw [Offer.given, if_neg hf]
    cases htext : textOf entries f with
    | none => simp only [htext, Option.map_none, Option.bind_none]
    | some text => simp only [htext, Option.map_some, Option.bind_some, Field.gives_of_ne hf]

/-- A source that can be read has a document for origins. -/
theorem isOk_read_of_textOf (ho : Offer.ofVariables source entries = .ok o) {text : String}
    (htext : textOf entries .corsOrigins = some text) : ∃ v, Json.read text = .ok v := by
  obtain ⟨origins, horigins, -⟩ := Offer.ofVariables_eq_ok_iff.1 ho
  simp only [originsOf, htext, readDocument] at horigins
  cases hread : Json.read text with
  | ok v => exact ⟨v, rfl⟩
  | error e =>
    rw [hread] at horigins
    cases e <;> cases horigins

/-- What is set is given. -/
theorem given_of_sets (h : SpelledOnce entries)
    (ho : Offer.ofVariables source (folded entries) = .ok o) {text : String}
    (hsets : Sets entries f text) :
    ∃ g, f.gives text = some g ∧ o.given f = some g := by
  obtain ⟨htext, hnull⟩ := (sets_iff h).1 hsets
  have hgives : ∃ g, f.gives text = some g := by
    by_cases hf : f = .corsOrigins
    · subst hf
      obtain ⟨v, hread⟩ := isOk_read_of_textOf ho htext
      have hne : v ≠ .null := fun hv => hnull rfl (hv ▸ hread)
      rw [Field.gives, if_pos rfl, hread]
      cases v with
      | null => exact absurd rfl hne
      | _ => exact ⟨_, rfl⟩
    · exact ⟨_, Field.gives_of_ne hf text⟩
  obtain ⟨g, hg⟩ := hgives
  exact ⟨g, hg, by rw [given_eq ho, htext, Option.bind_some, hg]⟩

/-- Nothing is given for a field that is not set. -/
theorem given_of_not_sets (h : SpelledOnce entries)
    (ho : Offer.ofVariables source (folded entries) = .ok o)
    (hnone : ∀ text, ¬Sets entries f text) : o.given f = none := by
  rw [given_eq ho, Option.bind_eq_none_iff]
  intro text htext
  by_contra hgives
  refine hnone text ((sets_iff h).2 ⟨htext, ?_⟩)
  rintro rfl hnull
  rw [Field.gives, if_pos rfl, hnull] at hgives
  exact hgives rfl

end

/-! ## Precedence -/

/-- The variables of an environment, with values that are always there. -/
abbrev entriesOf (environment : Named String) : Named (Option String) :=
  environment.map fun v => (v.1, some v.2)

/-- Where the value of a field comes from: the environment, if that sets it, or else the file, or
else nowhere, and then it is the default. -/
structure ByPrecedence (environment : Named String) (file : Option String) (s : Settings)
    (f : Field) : Prop where
  fromEnvironment : ∀ text, Sets (entriesOf environment) f text → f.read? text = some (s.value f)
  fromFile : (∀ text, ¬Sets (entriesOf environment) f text) →
    ∀ text, Sets (listed file) f text → f.read? text = some (s.value f)
  otherwise : (∀ text, ¬Sets (entriesOf environment) f text) →
    (∀ text, ¬Sets (listed file) f text) → s.value f = ({} : Settings).value f

/-- Neither source has a name twice, and no value of the file refers to a variable. -/
structure Unambiguous (environment : Named String) (file : Option String) : Prop where
  environmentOnce : SpelledOnce environment
  fileOnce : SpelledOnce (listed file)
  plain : ∀ a ∈ assigned file, ∀ value ∈ a.value, EnvFile.IsPlain value

variable {environment environment' : Named String} {file file' : Option String} {s s' : Settings}
  {f : Field}

/-- Values without a dollar sign refer to no variable. -/
theorem Unambiguous.of_not_mem (henvironment : SpelledOnce environment)
    (hfile : SpelledOnce (listed file))
    (hplain : ∀ a ∈ assigned file, ∀ value ∈ a.value, '$' ∉ value) :
    Unambiguous environment file where
  environmentOnce := henvironment
  fileOnce := hfile
  plain a ha value hvalue := EnvFile.isPlain_of_not_mem (hplain a ha value hvalue)

theorem Unambiguous.load_eq (h : Unambiguous environment file) :
    load environment file = ofVariables environment (listed file) := by
  have hnames : ((listed file).map (·.1)).Nodup := by
    refine List.Nodup.of_map lowerString ?_
    rw [List.map_map]
    exact h.fileOnce
  rw [load_of_isPlain environment h.plain, Named.ofList_eq_self hnames]

theorem byPrecedence_of_load (h : Unambiguous environment file)
    (hload : load environment file = .ok s) (f : Field) : ByPrecedence environment file s f := by
  rw [h.load_eq] at hload
  obtain ⟨e, o, he, ho, hfaults, -, rfl⟩ := ofVariables_eq_ok_iff.1 hload
  have hfaultless := (check_faults_eq_nil_iff _).1 hfaults f
  have henvironment : SpelledOnce (entriesOf environment) := by
    rw [SpelledOnce, List.map_map]
    exact h.environmentOnce
  refine ⟨fun text hsets => ?_, fun hunset text hsets => ?_, fun hunset hunset' => ?_⟩
  · obtain ⟨g, hgives, hgiven⟩ := given_of_sets henvironment he hsets
    exact read?_eq_some_value hgives (by rw [choose, hgiven, Option.some_or]) hfaultless
  · obtain ⟨g, hgives, hgiven⟩ := given_of_sets h.fileOnce ho hsets
    have hnone := given_of_not_sets henvironment he hunset
    exact read?_eq_some_value hgives (by rw [choose, hnone, hgiven, Option.none_or]) hfaultless
  · have hnone := given_of_not_sets henvironment he hunset
    have hnone' := given_of_not_sets h.fileOnce ho hunset'
    exact value_check_of_none (by rw [choose, hnone, hnone', Option.none_or])

/-- Values that come from the same places are the same. -/
theorem ByPrecedence.value_eq (h : ByPrecedence environment file s f)
    (h' : ByPrecedence environment' file' s' f)
    (henvironment : ∀ text,
      Sets (entriesOf environment') f text ↔ Sets (entriesOf environment) f text)
    (hfile : ∀ text, Sets (listed file') f text ↔ Sets (listed file) f text) :
    s'.value f = s.value f := by
  by_cases hset : ∃ text, Sets (entriesOf environment) f text
  · obtain ⟨text, htext⟩ := hset
    exact Option.some.inj ((h'.fromEnvironment text ((henvironment text).2 htext)).symm.trans
      (h.fromEnvironment text htext))
  · have hunset := not_exists.1 hset
    have hunset' (text : String) : ¬Sets (entriesOf environment') f text :=
      fun htext => hunset text ((henvironment text).1 htext)
    by_cases hset : ∃ text, Sets (listed file) f text
    · obtain ⟨text, htext⟩ := hset
      exact Option.some.inj ((h'.fromFile hunset' text ((hfile text).2 htext)).symm.trans
        (h.fromFile hunset text htext))
    · have hleft := not_exists.1 hset
      have hleft' (text : String) : ¬Sets (listed file') f text :=
        fun htext => hleft text ((hfile text).1 htext)
      rw [h'.otherwise hunset' hleft', h.otherwise hunset hleft]

/-- **Fields go by precedence**: each has the value of its variable in the environment, or else in
the file, or else its default; and no variable but its own has a say in it. -/
theorem fields_go_by_precedence (h : Unambiguous environment file)
    (hload : load environment file = .ok s) (f : Field) :
    ByPrecedence environment file s f ∧
    ∀ environment' file' s', Unambiguous environment' file' → load environment' file' = .ok s' →
      (∀ text, Sets (entriesOf environment') f text ↔ Sets (entriesOf environment) f text) →
      (∀ text, Sets (listed file') f text ↔ Sets (listed file) f text) → s'.value f = s.value f :=
  ⟨byPrecedence_of_load h hload f, fun _ _ _ h' hload' henvironment hfile =>
    (byPrecedence_of_load h hload f).value_eq (byPrecedence_of_load h' hload' f) henvironment hfile⟩

/-- The environment overrides a port of the file, but not with `null` its origins; a field goes by
the same variable beside others. -/
theorem fields_go_by_precedence_sample :
    (Unambiguous
        [("BLOGQL_DEBUG", "no"), ("blogql_api_port", "4100"), ("BLOGQL_CORS_ORIGINS", "null")]
        (some "BLOGQL_API_PORT=5000\nBLOGQL_CORS_ORIGINS=[\"a\"]\n") ∧
      load [("BLOGQL_DEBUG", "no"), ("blogql_api_port", "4100"), ("BLOGQL_CORS_ORIGINS", "null")]
        (some "BLOGQL_API_PORT=5000\nBLOGQL_CORS_ORIGINS=[\"a\"]\n") =
          .ok { apiPort := 4100, corsOrigins := ["a"], debug := false }) ∧
    (∀ f, ByPrecedence
      [("BLOGQL_DEBUG", "no"), ("blogql_api_port", "4100"), ("BLOGQL_CORS_ORIGINS", "null")]
      (some "BLOGQL_API_PORT=5000\nBLOGQL_CORS_ORIGINS=[\"a\"]\n")
      { apiPort := 4100, corsOrigins := ["a"], debug := false } f) ∧
    ∀ s', load [("BLOGQL_DEBUG", "no")] none = .ok s' → s'.value .debug = false := by
  have hunambiguous : Unambiguous
      [("BLOGQL_DEBUG", "no"), ("blogql_api_port", "4100"), ("BLOGQL_CORS_ORIGINS", "null")]
      (some "BLOGQL_API_PORT=5000\nBLOGQL_CORS_ORIGINS=[\"a\"]\n") :=
    .of_not_mem (by decide +kernel) (by decide +kernel) (by decide +kernel)
  have hload : load
      [("BLOGQL_DEBUG", "no"), ("blogql_api_port", "4100"), ("BLOGQL_CORS_ORIGINS", "null")]
      (some "BLOGQL_API_PORT=5000\nBLOGQL_CORS_ORIGINS=[\"a\"]\n") =
        .ok { apiPort := 4100, corsOrigins := ["a"], debug := false } := by decide +kernel
  have hbeside : Unambiguous [("BLOGQL_DEBUG", "no")] none :=
    .of_not_mem (by decide +kernel) (by decide +kernel) (by decide +kernel)
  refine ⟨⟨hunambiguous, hload⟩, fun f => (fields_go_by_precedence hunambiguous hload f).1,
    fun s' hload' => ?_⟩
  refine (fields_go_by_precedence hunambiguous hload .debug).2 _ _ s' hbeside hload'
    (fun text => ?_) fun text => ?_
  · have hsame : textOf (folded (entriesOf [("BLOGQL_DEBUG", "no")])) .debug =
        textOf (folded (entriesOf [("BLOGQL_DEBUG", "no"), ("blogql_api_port", "4100"),
          ("BLOGQL_CORS_ORIGINS", "null")])) .debug := by decide +kernel
    rw [sets_iff (by decide +kernel), sets_iff (by decide +kernel), hsame]
  · have hsame : textOf (folded (listed none)) .debug =
        textOf (folded (listed (some "BLOGQL_API_PORT=5000\nBLOGQL_CORS_ORIGINS=[\"a\"]\n")))
          .debug := by decide +kernel
    rw [sets_iff (by decide +kernel), sets_iff (by decide +kernel), hsame]

/-- Origins that the environment sets to `null` are taken from the file, although `null` is no value
of the field. -/
theorem null_gives_way :
    ¬∀ (environment : Named String) (file : Option String) (s : Settings) (f : Field)
        (text : String),
      Unambiguous environment file → (∀ e ∈ listed file, e.2 ≠ none) →
      load environment file = .ok s →
      (∃ name, (name, text) ∈ environment ∧ lowerString name = f.variableName) →
      f.read? text = some (s.value f) := by
  intro h
  have hunambiguous : Unambiguous [("BLOGQL_CORS_ORIGINS", "null")]
      (some "BLOGQL_CORS_ORIGINS=[\"a\"]\n") :=
    .of_not_mem (by decide +kernel) (by decide +kernel) (by decide +kernel)
  have hvalues : ∀ e ∈ listed (some "BLOGQL_CORS_ORIGINS=[\"a\"]\n"), e.2 ≠ none := by
    decide +kernel
  have hload : load [("BLOGQL_CORS_ORIGINS", "null")] (some "BLOGQL_CORS_ORIGINS=[\"a\"]\n") =
      .ok { corsOrigins := ["a"] } := by decide +kernel
  have hread : Field.corsOrigins.read? "null" = none := by rfl
  have hvalue := h _ _ _ .corsOrigins "null" hunambiguous hvalues hload
    ⟨"BLOGQL_CORS_ORIGINS", List.mem_singleton_self _, by decide +kernel⟩
  rw [hread] at hvalue
  cases hvalue

end BlogGraph.Settings
