import BlogGraph.CommandLine.Run
import BlogGraph.Proofs.Settings.Sources

/-!
# Starting without sample data

A service that is not to load the sample data is handed an empty store, or it is loaded anew by
the server and finds in its environment that it shall not.  The variable for that is written in
capital letters, while settings are read in whatever spelling stands last: so it counts unless
another spelling stands after an inherited one (`Settings.SpelledLast`).  A file of variables does
not matter, since the environment goes first.

A run sets three variables at most (`ServeOptions.assigned`), one after the other
(`ServeOptions.environment_induction`).

Main statements: `no_seed_is_heeded`, and `later_spelling_loads_samples` for the spelling that
makes the exception.
-/

namespace BlogGraph

/-! ## The variables of a run -/

namespace CommandLine

/-- The variables that a run may set. -/
def changing : List String := ["BLOGQL_DEBUG", "BLOGQL_LOG_LEVEL", "BLOGQL_SEED_DATA"]

namespace ServeOptions

/-- The variables of the levels with their values. -/
def levels (o : ServeOptions) : Named String :=
  if o.isDebug then [("BLOGQL_DEBUG", "true"), ("BLOGQL_LOG_LEVEL", "debug")]
  else [("BLOGQL_DEBUG", "false"), ("BLOGQL_LOG_LEVEL", o.logLevel)]

/-- The variables that are set, with their values. -/
def assigned (o : ServeOptions) : Named String :=
  o.levels ++ if o.noSeed then [("BLOGQL_SEED_DATA", "false")] else []

/-- What setting the variables of a run preserves holds of the environment afterwards. -/
theorem environment_induction {o : ServeOptions} {inherited : Named String}
    {P : Named String → Prop} (hinherited : P inherited)
    (hset : ∀ entries, P entries → ∀ v ∈ o.assigned, P (entries.set v.1 v.2)) :
    P (o.environment inherited) := by
  have hmissing (entries : Named String) (h : P entries) (v : String × String)
      (hv : v ∈ o.assigned) : P (entries.setIfMissing v.1 v.2) := by
    rw [Named.setIfMissing]
    split
    · exact h
    · exact hset entries h v hv
  have hlevels : P (if o.isDebug then
        (inherited.set "BLOGQL_DEBUG" "true").set "BLOGQL_LOG_LEVEL" "debug"
      else
        (inherited.setIfMissing "BLOGQL_DEBUG" "false").setIfMissing "BLOGQL_LOG_LEVEL"
          o.logLevel) := by
    split
    · rename_i hdebug
      exact hset _ (hset _ hinherited ("BLOGQL_DEBUG", "true") (by simp [assigned, levels, hdebug]))
        ("BLOGQL_LOG_LEVEL", "debug") (by simp [assigned, levels, hdebug])
    · rename_i hdebug
      exact hmissing _
        (hmissing _ hinherited ("BLOGQL_DEBUG", "false") (by simp [assigned, levels, hdebug]))
        ("BLOGQL_LOG_LEVEL", o.logLevel) (by simp [assigned, levels, hdebug])
  unfold environment
  simp only
  split
  · rename_i hseed
    exact hset _ hlevels ("BLOGQL_SEED_DATA", "false") (by simp [assigned, hseed])
  · exact hlevels

/-- Two of the variables say yes or no, and one names a level. -/
theorem mem_assigned {o : ServeOptions} {v : String × String} (h : v ∈ o.assigned) :
    (v.1 = "BLOGQL_DEBUG" ∧ (v.2 = "true" ∨ v.2 = "false")) ∨ v.1 = "BLOGQL_LOG_LEVEL" ∨
      (v.1 = "BLOGQL_SEED_DATA" ∧ v.2 = "false" ∧ o.noSeed = true) := by
  rcases List.mem_append.1 h with h | h
  · unfold levels at h
    split at h
    · rcases List.mem_pair.1 h with rfl | rfl
      · exact Or.inl ⟨rfl, Or.inl rfl⟩
      · exact Or.inr (Or.inl rfl)
    · rcases List.mem_pair.1 h with rfl | rfl
      · exact Or.inl ⟨rfl, Or.inr rfl⟩
      · exact Or.inr (Or.inl rfl)
  · split at h
    · rename_i hseed
      rw [List.mem_singleton.1 h]
      exact Or.inr (Or.inr ⟨rfl, rfl, hseed⟩)
    · cases h

theorem name_mem_changing {o : ServeOptions} {v : String × String} (h : v ∈ o.assigned) :
    v.1 ∈ changing := by
  rcases mem_assigned h with ⟨h, -⟩ | h | ⟨h, -⟩ <;> rw [h] <;> decide

/-- No other variable is touched. -/
theorem environment_others (o : ServeOptions) (inherited : Named String) :
    (o.environment inherited).filter (fun v => !changing.contains v.1) =
      inherited.filter fun v => !changing.contains v.1 := by
  refine environment_induction (P := fun entries =>
    entries.filter (fun v => !changing.contains v.1) =
      inherited.filter fun v => !changing.contains v.1) rfl ?_
  intro entries h v hv
  rw [Named.filter_set_of_false (p := fun name => !changing.contains name)
    (by simpa using name_mem_changing hv), h]

/-- An inherited level stays unless details are asked for. -/
theorem environment_levels {o : ServeOptions} (hdebug : o.isDebug = false)
    {inherited : Named String} {name value : String}
    (hname : name = "BLOGQL_DEBUG" ∨ name = "BLOGQL_LOG_LEVEL")
    (h : inherited.get? name = some value) : (o.environment inherited).get? name = some value := by
  have hseed : name ≠ "BLOGQL_SEED_DATA" := by
    rintro rfl
    revert hname
    decide
  unfold environment
  simp only [hdebug]
  split
  · rw [Named.get?_set_ne hseed]
    exact Named.get?_setIfMissing_of_some (Named.get?_setIfMissing_of_some h _ _) _ _
  · exact Named.get?_setIfMissing_of_some (Named.get?_setIfMissing_of_some h _ _) _ _

theorem environment_of_noSeed {o : ServeOptions} (h : o.noSeed = true) (inherited : Named String) :
    o.environment inherited =
      ({ o with noSeed := false }.environment inherited).set "BLOGQL_SEED_DATA" "false" := by
  simp only [environment, h, if_pos]
  rfl

end ServeOptions
end CommandLine

/-! ## Loading anew -/

namespace Settings

open Text

/-- An environment has for every field what another one has, or else a text without fault. -/
def Amends (environment environment' : Named String) : Prop :=
  ∀ f : Field,
    (folded environment').get? f.variableName = (folded environment).get? f.variableName ∨
    f ≠ .corsOrigins ∧ ∃ text, (folded environment').get? f.variableName = some text ∧
      faultsOf (some (.text text)) f = []

/-- Settings that were loaded are loaded again where no fault came in. -/
theorem Amends.exists_ofVariables {environment environment' : Named String}
    (h : Amends environment environment') {file : Named (Option String)} {s : Settings}
    (hs : ofVariables environment file = .ok s) : ∃ s', ofVariables environment' file = .ok s' := by
  obtain ⟨e, f, he, hf, hfaults, hnames, -⟩ := ofVariables_eq_ok_iff.1 hs
  have horigins : originsOf .environment (folded (environment'.map fun v => (v.1, some v.2))) =
      originsOf .environment (folded (environment.map fun v => (v.1, some v.2))) := by
    have hsame := (h .corsOrigins).resolve_right fun h' => h'.1 rfl
    rw [originsOf, originsOf, textOf_environment, textOf_environment, hsame]
  obtain ⟨origins, ho, rfl⟩ := Offer.ofVariables_eq_ok_iff.1 he
  have he' := Offer.ofVariables_eq_ok_iff.2 ⟨origins, horigins.trans ho, rfl⟩
  refine ⟨_, ofVariables_eq_ok_iff.2 ⟨_, f, he', hf, ?_, hnames, rfl⟩⟩
  rw [check_faults_eq_nil_iff] at hfaults ⊢
  intro field
  by_cases hcors : field = .corsOrigins
  · subst hcors
    exact hfaults .corsOrigins
  · rcases h field with hkept | ⟨-, text, htext, hnil⟩
    · have hold := hfaults field
      rw [choose, given_environment he hcors] at hold
      rw [choose, given_environment he' hcors, hkept]
      exact hold
    · rw [choose, given_environment he' hcors, htext]
      exact hnil

/-- What the environment says of the sample data is what is loaded. -/
theorem seedData_of_ok {environment : Named String} {file : Option String} {s : Settings}
    (hs : load environment file = .ok s)
    (h : (folded environment).get? "blogql_seed_data" = some "false") : s.seedData = false := by
  obtain ⟨e, f, he, -, -, -, rfl⟩ := ofVariables_eq_ok_iff.1 hs
  have hgiven : choose e f .seedData = some (.text "false") := by
    have hname : Field.seedData.variableName = "blogql_seed_data" := by decide
    rw [choose, given_environment he (by decide), hname, h]
    rfl
  simp only [check, hgiven]
  decide +kernel

end Settings

/-! ## Runs -/

namespace CommandLine

open Service Settings Text

/-- A variable that is set belongs to a field other than the origins, and its value is one. -/
theorem ServeOptions.faultsOf_assigned {o : ServeOptions} {v : String × String}
    (hv : v ∈ o.assigned) {f : Field} (hf : lowerString v.1 = f.variableName) :
    f ≠ .corsOrigins ∧ faultsOf (some (.text v.2)) f = [] := by
  rcases mem_assigned hv with ⟨hname, hvalue⟩ | hname | ⟨hname, hvalue, -⟩
  · have hfield : lowerString "BLOGQL_DEBUG" = Field.debug.variableName := by decide +kernel
    rw [hname, hfield] at hf
    obtain rfl := variableName_injective hf
    refine ⟨by decide, ?_⟩
    rcases hvalue with hvalue | hvalue <;> rw [hvalue] <;> decide +kernel
  · have hfield : lowerString "BLOGQL_LOG_LEVEL" = Field.logLevel.variableName := by
      decide +kernel
    rw [hname, hfield] at hf
    obtain rfl := variableName_injective hf
    exact ⟨by decide, rfl⟩
  · have hfield : lowerString "BLOGQL_SEED_DATA" = Field.seedData.variableName := by
      decide +kernel
    rw [hname, hfield] at hf
    obtain rfl := variableName_injective hf
    rw [hvalue]
    exact ⟨by decide, by decide +kernel⟩

theorem ServeOptions.amends (o : ServeOptions) (inherited : Named String) :
    Amends inherited (o.environment inherited) := by
  refine environment_induction (fun f => Or.inl rfl) fun entries h v hv f => ?_
  rcases get?_folded_set_or entries v.1 f.variableName v.2 with hkept | ⟨hname, hset⟩
  · rw [hkept]
    exact h f
  · obtain ⟨hf, hnil⟩ := faultsOf_assigned hv hname
    exact Or.inr ⟨hf, v.2, hset, hnil⟩

/-- Without sample data the variable for it is read as set, if it is spelled last. -/
theorem ServeOptions.get?_folded_environment {o : ServeOptions} (hseed : o.noSeed = true)
    {inherited : Named String} (hlast : SpelledLast inherited "BLOGQL_SEED_DATA") :
    (folded (o.environment inherited)).get? "blogql_seed_data" = some "false" := by
  have hname : lowerString "BLOGQL_SEED_DATA" = "blogql_seed_data" := by decide +kernel
  have hdebug : lowerString "BLOGQL_DEBUG" ≠ lowerString "BLOGQL_SEED_DATA" := by decide +kernel
  have hlevel : lowerString "BLOGQL_LOG_LEVEL" ≠ lowerString "BLOGQL_SEED_DATA" := by
    decide +kernel
  have hlast : SpelledLast ({ o with noSeed := false }.environment inherited)
      "BLOGQL_SEED_DATA" := by
    refine environment_induction (P := fun entries => SpelledLast entries "BLOGQL_SEED_DATA") hlast
      fun entries h v hv => SpelledLast.set h ?_ v.2
    rcases mem_assigned hv with ⟨h, -⟩ | h | ⟨-, -, h⟩
    · rw [h]
      exact hdebug
    · rw [h]
      exact hlevel
    · cases h
  rw [environment_of_noSeed hseed, ← hname]
  exact get?_folded_set hlast "false"

/-- A file refers to no variable that a run may set. -/
def LeavesOut (file : Option String) : Prop :=
  ∀ text ∈ file, ∀ a ∈ EnvFile.assignments text, ∀ value ∈ a.value, ∀ name ∈ changing,
    ¬EnvFile.RefersTo value name

/-- A file that refers to none of the variables is read as before. -/
theorem ServeOptions.entries_environment (o : ServeOptions) (inherited : Named String)
    {file : Option String} (h : LeavesOut file) :
    file.elim [] (EnvFile.entries (o.environment inherited)) =
      file.elim [] (EnvFile.entries inherited) := by
  cases file with
  | none => rfl
  | some text =>
    refine EnvFile.entries_congr fun a ha value hvalue name hname => ?_
    have hother : name ∉ changing := fun hmem =>
      h text rfl a ha value hvalue name hmem hname
    have hkept (entries : Named String) :
        entries.get? name = Named.get? (entries.filter fun v => !changing.contains v.1) name :=
      (Named.get?_filter (p := fun name => !changing.contains name) (by simpa using hother) _).symm
    rw [hkept, o.environment_others, ← hkept]

/-- What a command line makes of the environment and of the sample data, where `settings` are
those that the environment and the file give.

* `others`, `levels`: no variable changes but the three, an inherited level only for details;
* `served`: the application that the server is handed without sample data is over an empty store;
* `reloaded`: where the server loads the application itself, the settings that it finds ask for no
  sample data, if no other spelling of the variable stands after an inherited one; and it finds
  some, unless the file refers to the variables that were set. -/
structure Run.HeedsNoSeed (settings : Settings) (inherited : Named String) (file : Option String)
    (ending : ServerEnd) (words : List String) : Prop where
  others : (ofArguments settings inherited ending words).environment.filter
      (fun v => !changing.contains v.1) = inherited.filter fun v => !changing.contains v.1
  levels : ∀ name value, name = "BLOGQL_DEBUG" ∨ name = "BLOGQL_LOG_LEVEL" →
    inherited.get? name = some value →
    (ofArguments settings inherited ending words).environment.get? name = some value ∨
      ∃ o, Invocation.ofArguments words = .serve o ∧ o.logLevel = "debug"
  served : ∀ o, Invocation.ofArguments words = .serve o → o.noSeed = true → o.reload = false →
    ∃ call a, (ofArguments settings inherited ending words).calls = [call] ∧
      call.application = some a ∧ a.blog.store = .empty
  reloaded : ∀ o, Invocation.ofArguments words = .serve o → o.noSeed = true → o.reload = true →
    (∃ call, (ofArguments settings inherited ending words).calls = [call] ∧
      call.application = none) ∧
    (SpelledLast inherited "BLOGQL_SEED_DATA" → ∀ file' s',
      Settings.load (ofArguments settings inherited ending words).environment file' = .ok s' →
      s'.seedData = false ∧
        ∀ mode, (Application.start s' mode none).application.blog.store = .empty) ∧
    (LeavesOut file → ∃ s',
      Settings.load (ofArguments settings inherited ending words).environment file = .ok s')

theorem Run.ofArguments_serve {words : List String} {o : ServeOptions}
    (h : Invocation.ofArguments words = .serve o) (settings : Settings)
    (inherited : Named String) (ending : ServerEnd) :
    ofArguments settings inherited ending words = serving settings inherited ending o := by
  rw [ofArguments, h]

/-- The environment is that which was inherited, unless the service is started. -/
theorem Run.environment_ofArguments (settings : Settings) (inherited : Named String)
    (ending : ServerEnd) (words : List String) :
    (ofArguments settings inherited ending words).environment = inherited ∨
      ∃ o, Invocation.ofArguments words = .serve o ∧
        (ofArguments settings inherited ending words).environment = o.environment inherited := by
  unfold ofArguments
  cases Invocation.ofArguments words with
  | print _ => exact Or.inl rfl
  | refuse _ => exact Or.inl rfl
  | printSchema => exact Or.inl rfl
  | serve o => exact Or.inr ⟨o, rfl, rfl⟩

/-- **A service that is started without sample data has an empty store**, handed to it or loaded
anew, and no variable but those for that is touched. -/
theorem no_seed_is_heeded {settings : Settings} {inherited : Named String} {file : Option String}
    (hload : Settings.load inherited file = .ok settings) (ending : ServerEnd)
    (words : List String) : Run.HeedsNoSeed settings inherited file ending words where
  others := by
    rcases Run.environment_ofArguments settings inherited ending words with h | ⟨o, -, h⟩
    · rw [h]
    · rw [h, o.environment_others]
  levels name value hname hvalue := by
    rcases Run.environment_ofArguments settings inherited ending words with h | ⟨o, hserve, h⟩
    · left
      rw [h]
      exact hvalue
    · by_cases hdebug : o.logLevel = "debug"
      · exact Or.inr ⟨o, hserve, hdebug⟩
      · left
        rw [h]
        exact ServeOptions.environment_levels (by simpa [ServeOptions.isDebug] using hdebug)
          hname hvalue
  served o hserve hseed hreload := by
    rw [Run.ofArguments_serve hserve]
    refine ⟨_, (Application.start settings o.mode (some .empty)).application, rfl, ?_, rfl⟩
    simp [ServeOptions.call, ServeOptions.started?, hseed, hreload]
  reloaded o hserve hseed hreload := by
    rw [Run.ofArguments_serve hserve]
    refine ⟨⟨_, rfl, ?_⟩, fun hlast file' s' hs' => ?_, fun hfile => ?_⟩
    · simp [ServeOptions.call, ServeOptions.started?, hreload]
    · have hfalse := seedData_of_ok hs' (ServeOptions.get?_folded_environment hseed hlast)
      refine ⟨hfalse, fun mode => ?_⟩
      simp only [Application.start, openStore, hfalse]
      rfl
    · have hread := o.entries_environment inherited hfile
      obtain ⟨s', hs'⟩ := (o.amends inherited).exists_ofVariables hload
      refine ⟨s', ?_⟩
      rw [← hread] at hs'
      exact hs'

/-- An inherited wish for the sample data is overruled. -/
theorem no_seed_is_heeded_sample :
    Run.HeedsNoSeed {} [("BLOGQL_SEED_DATA", "yes")] none .returned
      ["serve", "--no-seed", "--reload"] ∧
    (∃ o, Invocation.ofArguments ["serve", "--no-seed", "--reload"] = .serve o ∧
      o.noSeed = true ∧ o.reload = true) ∧
    SpelledLast [("BLOGQL_SEED_DATA", "yes")] "BLOGQL_SEED_DATA" ∧ LeavesOut none :=
  ⟨no_seed_is_heeded (by decide +kernel) .returned _,
    ⟨⟨"0.0.0.0", 4000, true, "info", true⟩, by rfl, rfl, rfl⟩, List.pairwise_singleton ..,
    by simp [LeavesOut]⟩

/-- A wish in small letters that stands after the variable itself is not overruled: the settings
that the server finds ask for the sample data, although the service was started without. -/
theorem later_spelling_loads_samples :
    Settings.load [("BLOGQL_SEED_DATA", "true"), ("blogql_seed_data", "true")] none = .ok {} ∧
    Invocation.ofArguments ["serve", "--no-seed", "--reload"] =
      .serve ⟨"0.0.0.0", 4000, true, "info", true⟩ ∧
    Settings.load (Run.ofArguments {} [("BLOGQL_SEED_DATA", "true"), ("blogql_seed_data", "true")]
        .returned ["serve", "--no-seed", "--reload"]).environment none =
      .ok { seedData := true, debug := false, logLevel := "info" } := by
  refine ⟨by decide +kernel, by rfl, by decide +kernel⟩

end CommandLine
end BlogGraph
