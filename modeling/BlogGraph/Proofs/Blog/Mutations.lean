import BlogGraph.Proofs.Blog.Identifiers
import BlogGraph.Proofs.Blog.Queries
import BlogGraph.Proofs.GraphQL.Places

/-!
# Mutations call their commands in turn

A mutation is nothing but its commands, called directly with the arguments of its fields, one after
the other up to the first that is refused (`CalledInTurn`).  After each call the fields of the new
record are read, from the store as it is then.  That reading never fails, since the store stays
sound from call to call, so a refusal is the only thing that can go wrong.

Main statements:

* `calledInTurn_runFields`: carrying out ready fields calls their commands in turn;
* `Blog.mutations_call_in_turn`: valid mutations do no more and no less.
-/

namespace BlogGraph
namespace GraphQL

/-! ## Calls in turn -/

/-- How the fields of a mutation come out when their commands are called directly, in turn: the blog
before and after, and the answers by response name, or the response name and the refusal of the
first field that is refused.  Fields after that one are not called. -/
inductive CalledInTurn : Blog → Plan → Blog → Except (String × Refusal) (Named Json) → Prop where
  | none {b : Blog} : CalledInTurn b [] b (.ok [])
  | typename {b b' : Blog} {f : PlannedField} {rest : Plan}
      {result : Except (String × Refusal) (Named Json)} (hname : f.name = "__typename")
      (hrest : CalledInTurn b rest b' result) :
      CalledInTurn b (f :: rest) b' (result.map ((f.key, .text "Mutation") :: ·))
  | stored {b b' : Blog} {f : PlannedField} {rest : Plan}
      {result : Except (String × Refusal) (Named Json)} {command : Command} {r : Record}
      {fields : Named Json} (hcalls : f.Calls command) (hrun : (command.run b).result = .ok r)
      (hread : (Reading.object ⟨blogSchema, some (command.run b).blog.store⟩ [.key f.key]
        (.record r) f.inner).start 0 = ⟨.ok (.object fields), []⟩)
      (hrest : CalledInTurn (command.run b).blog rest b' result) :
      CalledInTurn b (f :: rest) b' (result.map ((f.key, .object fields) :: ·))
  | refused {b : Blog} {f : PlannedField} {rest : Plan} {command : Command} {refusal : Refusal}
      (hcalls : f.Calls command) (hrun : (command.run b).result = .error (.refused refusal)) :
      CalledInTurn b (f :: rest) (command.run b).blog (.error (f.key, refusal))

theorem PlannedField.Calls.unique {f : PlannedField} {c c' : Command} (h : f.Calls c)
    (h' : f.Calls c') : c = c' := by
  obtain ⟨args, hargs, hc⟩ := h
  obtain ⟨args', hargs', hc'⟩ := h'
  obtain rfl := Except.ok.inj (hargs.symm.trans hargs')
  exact Option.some.inj (hc.symm.trans hc')

theorem PlannedField.Calls.name_ne {f : PlannedField} {c : Command} (h : f.Calls c) :
    f.name ≠ "__typename" := by
  obtain ⟨args, -, hc⟩ := h
  intro hname
  rw [hname, Command.ofField?_typename] at hc
  exact absurd hc (by simp)

/-- Calling in turn comes out in one way only. -/
theorem CalledInTurn.unique {b b₁ b₂ : Blog} {plan : Plan}
    {result₁ result₂ : Except (String × Refusal) (Named Json)} (h₁ : CalledInTurn b plan b₁ result₁)
    (h₂ : CalledInTurn b plan b₂ result₂) : b₁ = b₂ ∧ result₁ = result₂ := by
  induction h₁ generalizing b₂ result₂ with
  | none =>
    cases h₂
    exact ⟨rfl, rfl⟩
  | typename hname hrest ih =>
    cases h₂ with
    | typename hname' hrest' =>
      obtain ⟨hb, hresult⟩ := ih hrest'
      exact ⟨hb, by rw [hresult]⟩
    | stored hcalls => exact absurd hname hcalls.name_ne
    | refused hcalls => exact absurd hname hcalls.name_ne
  | stored hcalls hrun hread hrest ih =>
    cases h₂ with
    | typename hname => exact absurd hname hcalls.name_ne
    | stored hcalls' hrun' hread' hrest' =>
      obtain rfl := hcalls.unique hcalls'
      obtain rfl := Except.ok.inj (hrun.symm.trans hrun')
      obtain ⟨hb, hresult⟩ := ih hrest'
      rw [hread] at hread'
      obtain rfl := Json.object.inj (Except.ok.inj (congrArg Course.result hread'))
      exact ⟨hb, by rw [hresult]⟩
    | refused hcalls' hrun' =>
      obtain rfl := hcalls.unique hcalls'
      exact absurd (hrun.symm.trans hrun') (by simp)
  | refused hcalls hrun =>
    cases h₂ with
    | typename hname => exact absurd hname hcalls.name_ne
    | stored hcalls' hrun' =>
      obtain rfl := hcalls.unique hcalls'
      exact absurd (hrun.symm.trans hrun') (by simp)
    | refused hcalls' hrun' =>
      obtain rfl := hcalls.unique hcalls'
      obtain rfl := Failure.refused.inj (Except.error.inj (hrun.symm.trans hrun'))
      exact ⟨rfl, rfl⟩

/-! ## One field -/

namespace MutationState

/-- A mutation under way after one more answer. -/
def answer (st : MutationState) (key : String) (v : Json) : MutationState :=
  { st with answered := st.answered ++ [(key, v)] }

/-- A mutation under way after one more call. -/
def called (st : MutationState) (o : Outcome) : MutationState :=
  { st with blog := o.blog, events := st.events ++ o.events }

/-- A mutation that a refusal ended. -/
def refused (st : MutationState) (f : PlannedField) (refusal : Refusal) : MutationState :=
  { st with failure := some (failureError f.positions [.key f.key] (.refused refusal)) }

end MutationState

variable {st : MutationState} {f : PlannedField}

theorem complete_of_quiet {key : String} {c : Completed Json} {v : Json}
    (h : c.start 0 = ⟨.ok v, []⟩) : st.complete key c = st.answer key v := by
  simp [MutationState.complete, MutationState.answer, h, answerOf_quiet]

/-- A record that was just stored is sound. -/
theorem sound_of_append {s s' : Store} {r : Record} (h : s.append? r = some s') :
    (Node.record r).Sound s' := by
  cases r with
  | user u =>
    obtain ⟨-, rfl⟩ := Store.append?_user.1 h
    exact Or.inr (List.mem_append_right _ (List.mem_singleton_self u))
  | post p =>
    obtain ⟨-, rfl⟩ := Store.append?_post.1 h
    exact Or.inr (List.mem_append_right _ (List.mem_singleton_self p))
  | comment c =>
    obtain ⟨-, rfl⟩ := Store.append?_comment.1 h
    exact List.mem_append_right _ (List.mem_singleton_self c)

/-- **What carrying out a ready field comes to**: the name of the type is told; or the command is
called, and its record is stored and read without failure; or the command is refused. -/
theorem runField_cases (hf : f.Ready blogSchema "Mutation") (hs : st.blog.store.Sound)
    (hids : st.blog.FreshIds) :
    (f.name = "__typename" ∧
      runField blogSchema true st f = st.answer f.key (.text "Mutation")) ∨
    (∃ command r fields, f.Calls command ∧ (command.run st.blog).result = .ok r ∧
      (command.run st.blog).blog.store.Sound ∧
      (Reading.object ⟨blogSchema, some (command.run st.blog).blog.store⟩ [.key f.key]
        (.record r) f.inner).start 0 = ⟨.ok (.object fields), []⟩ ∧
      runField blogSchema true st f =
        (st.called (command.run st.blog)).answer f.key (.object fields)) ∨
    ∃ command refusal, f.Calls command ∧
      (command.run st.blog).result = .error (.refused refusal) ∧
      runField blogSchema true st f = (st.called (command.run st.blog)).refused f refusal := by
  obtain ⟨key, name, type, positions, arguments, fault, inner⟩ := f
  cases hf with
  | mk hspec hargs hinner =>
    rename_i spec args
    by_cases hname : name = "__typename"
    · refine Or.inl ⟨hname, ?_⟩
      simp only [runField, hname, Command.ofField?_typename]
      exact complete_of_quiet (c := .value (.text "Mutation")) rfl
    · obtain ⟨command, hcommand, hage, htype⟩ := Command.exists_ofField? hspec hname hargs
      refine Or.inr ?_
      rcases Command.run_cases command hids with ⟨refusal, event, hrefused, hrun⟩ |
        ⟨s', haccepted, happend, hresult, hblog⟩
      · refine Or.inr ⟨command, refusal, ⟨args, rfl, hcommand⟩, by rw [hrun], ?_⟩
        simp only [runField, hcommand, Command.runWhen, if_true, hrun]
        rfl
      · have hsound : (command.run st.blog).blog.store.Sound := by
          rw [hblog]
          exact Store.sound_append hs hage haccepted happend
        have hnew : (Node.record (command.record (st.blog.ids (st.blog.made + 1)))).Sound
            (command.run st.blog).blog.store := by
          rw [hblog]
          exact sound_of_append happend
        obtain ⟨data, hdata, fields, rfl⟩ :=
          (calm_object hsound hnew (hinner _ (htype _)) [.key key]).start 0
        refine Or.inl ⟨command, _, fields, ⟨args, rfl, hcommand⟩, hresult, hsound, hdata, ?_⟩
        simp only [runField, hcommand, Command.runWhen, if_true, hresult]
        exact complete_of_quiet hdata

/-! ## All fields -/

/-- A mutation under way tells how fields came out, after the answers that were there before. -/
def MutationState.Tells (st : MutationState) (before : Named Json) :
    Except (String × Refusal) (Named Json) → Prop
  | .ok answers => st.answered = before ++ answers ∧ st.errors = [] ∧ st.failure = none
  | .error (key, refusal) => st.errors = [] ∧ ∃ positions,
    st.failure = some (failureError positions [.key key] (.refused refusal))

theorem MutationState.Tells.cons {before : Named Json} {answer : String × Json}
    {result : Except (String × Refusal) (Named Json)} (h : st.Tells (before ++ [answer]) result) :
    st.Tells before (result.map (answer :: ·)) := by
  cases result with
  | ok answers => exact ⟨by rw [h.1, List.append_assoc]; rfl, h.2⟩
  | error refused => exact h

/-- **Carrying out ready fields calls their commands in turn.** -/
theorem calledInTurn_runFields (st : MutationState) {plan : Plan}
    (hplan : ∀ f ∈ plan, f.Ready blogSchema "Mutation") (hs : st.blog.store.Sound)
    (hids : st.blog.FreshIds) (herrors : st.errors = []) (hfailure : st.failure = none) :
    ∃ result, CalledInTurn st.blog plan (runFields blogSchema true st plan).blog result ∧
      (runFields blogSchema true st plan).Tells st.answered result := by
  induction plan generalizing st with
  | nil => exact ⟨.ok [], .none, by simp [runFields, MutationState.Tells, herrors, hfailure]⟩
  | cons f rest ih =>
    obtain ⟨hf, hrest⟩ := List.forall_mem_cons.1 hplan
    rw [runFields]
    rcases runField_cases hf hs hids with ⟨hname, hrun⟩ |
      ⟨command, r, fields, hcalls, hresult, hsound, hread, hrun⟩ |
      ⟨command, refusal, hcalls, hresult, hrun⟩
    · rw [hrun, if_neg (by simp [MutationState.answer, hfailure])]
      obtain ⟨result, hin, htells⟩ :=
        ih (st.answer f.key (.text "Mutation")) hrest hs hids herrors hfailure
      exact ⟨_, .typename hname hin, htells.cons⟩
    · rw [hrun, if_neg (by simp [MutationState.answer, MutationState.called, hfailure])]
      obtain ⟨result, hin, htells⟩ :=
        ih ((st.called (command.run st.blog)).answer f.key (.object fields)) hrest hsound
          (command.freshIds_run hids) herrors hfailure
      exact ⟨_, .stored hcalls hresult hread hin, htells.cons⟩
    · rw [hrun, if_pos (by simp [MutationState.refused])]
      exact ⟨_, .refused hcalls hresult, herrors, f.positions, rfl⟩

/-- A response tells how the fields of a mutation came out: all answers and no errors, or no data
and one error, which is about the field that was refused. -/
def Response.Tells (response : Response) : Except (String × Refusal) (Named Json) → Prop
  | .ok answers => response = ⟨.object answers, []⟩
  | .error (key, refusal) => ∃ positions code,
    response = ⟨.null, [⟨refusal.message, positions, [.key key], some code⟩]⟩ ∧
      code = refusal.kind.code ∧ (code = "CONFLICT" ∨ code = "NOT_FOUND")

theorem code_cases (kind : RefusalKind) : kind.code = "CONFLICT" ∨ kind.code = "NOT_FOUND" := by
  cases kind with
  | conflict => exact Or.inl rfl
  | notFound => exact Or.inr rfl

theorem tells_executed {result : Except (String × Refusal) (Named Json)} (h : st.Tells [] result)
    (text : List Char) : (st.executed.sorted text).response.Tells result ∧
      (st.executed.sorted text).blog = st.blog := by
  cases result with
  | ok answers =>
    obtain ⟨hanswered, herrors, hfailure⟩ := h
    simp only [MutationState.executed, hfailure, herrors, hanswered, List.nil_append,
      sorted_without_errors]
    exact ⟨rfl, trivial⟩
  | error refused =>
    obtain ⟨key, refusal⟩ := refused
    obtain ⟨herrors, positions, hfailure⟩ := h
    simp only [MutationState.executed, hfailure, herrors, List.nil_append]
    refine ⟨⟨positions, refusal.kind.code, ?_, rfl, code_cases _⟩, rfl⟩
    simp [Executed.sorted, sortErrors, failureError, Failure.message, Failure.code?]

end GraphQL

open GraphQL

namespace Blog

variable {b : Blog}

/-! ## Mutations -/

/-- What planning the operation of a prepared request needs to know. -/
abbrev planContext (p : Prepared) (vars : Variables) : PlanContext :=
  ⟨blogSchema, p.document, vars⟩

/-- **Mutations call their commands in turn.**  On whatever blog is left by requests to a fresh one,
take a mutation that is valid and whose variables have values, with no explicit null for a variable
that has a default.  Its fields are those that are collected from its selections, in the order of
their response names, whatever the bound on collecting.  What it leaves behind and answers is what
comes of calling their commands directly, in turn, with their arguments. -/
theorem mutations_call_in_turn (hb : b.IsFresh) (hids : b.FreshIds) (requests : List Request)
    {r : Request} {p : Prepared} {vars : Variables} (hp : r.prepare = .ok (.ok p))
    (hkind : p.operation.kind = .mutation) (hvalid : p.document.validate blogSchema = [])
    (hvars : variableValues blogSchema r.given p.operation.declarations = .ok vars)
    (hdefaults : p.operation.DefaultsKept r.given) :
    ∃ (groups : Groups) (expanded : List String) (plan : Plan) (done : Executed)
      (result : Except (String × Refusal) (Named Json)),
      (∀ fuel, p.document.walkBound ≤ fuel →
        (planContext p vars).collect "Mutation" fuel p.operation.selections ([], []) =
          .ok (groups, expanded)) ∧
      groups.keys.Nodup ∧
      groups.map ((planContext p vars).planGroup "Mutation"
        ((planContext p vars).planSelections (2 * p.document.walkBound - 1))) = plan.map some ∧
      execute blogSchema true (b.serve requests) r = .ok done ∧
      CalledInTurn (b.serve requests) plan done.blog result ∧ done.response.Tells result := by
  obtain ⟨hread, ho⟩ := of_prepare hp
  have hroot : blogSchema.rootType? p.operation.kind = some "Mutation" := by
    rw [hkind]
    rfl
  have hplaces := Document.placesKept_of_mutation hvalid hread ho hkind vars
  obtain ⟨plan, hplan, hready⟩ := Document.exists_plan_of_validate regular_blogSchema hvalid hread
    ho hvars hdefaults hplaces hroot
  obtain ⟨groups, expanded, hcollect, hnodup, hgroups⟩ := Document.groups_of_plan regular_blogSchema
    hvalid hread ho hroot hplan
  obtain ⟨result, hin, htells⟩ := calledInTurn_runFields (.initial (b.serve requests)) hready
    (sound_serve (sound_of_fresh hb) requests) (freshIds_run hids _) rfl rfl
  obtain ⟨hresponse, hblog⟩ := tells_executed htells r.query.toList
  refine ⟨groups, expanded, plan, _, result, hcollect, hnodup, hgroups, ?_, ?_, hresponse⟩
  · simp only [execute, hp, executeDocument, hvalid, executeOperation, hvars, hplan, hkind]
  · rw [hblog]
    exact hin

/-- A new user, selected twice under one response name, then the same user again, and the type. -/
def refusedMutation : Request where
  query := "mutation($u:CreateUserInput!)\x7ba:createUser(data:$u)\x7bid\x7d" ++
    "a:createUser(data:$u)\x7bposts\x7bid\x7d\x7db:createUser(data:$u)\x7bid\x7dc:__typename\x7d"
  given := [("u", .object [("name", .text "Ann"), ("email", .text "ann@x.org")])]
  operationName := none

/-- The new user stays, and the second attempt is all that the response tells of. -/
theorem mutations_call_in_turn_sample : sample.IsFresh ∧ sample.FreshIds ∧
    ∃ plan done key refusal,
      execute blogSchema true (sample.serve []) refusedMutation = .ok done ∧
      CalledInTurn (sample.serve []) plan done.blog (.error (key, refusal)) ∧
      done.response.Tells (.error (key, refusal)) ∧ done.blog.store.counts = ⟨4, 3, 4⟩ := by
  have hadmits : refusedMutation.admits .mutation (fun _ _ => true) = true := by decide +kernel
  have hrefused : (execute blogSchema true (sample.serve []) refusedMutation).toOption.any
      (fun done => !done.response.errors.isEmpty && done.blog.store.counts = ⟨4, 3, 4⟩) = true := by
    decide +kernel
  obtain ⟨p, vars, hp, hkind, hvalid, hvars, hdefaults, -⟩ := Request.exists_of_admits hadmits
  obtain ⟨groups, expanded, plan, done, result, -, -, -, hdone, hin, htells⟩ :=
    mutations_call_in_turn (Or.inr rfl) freshIds_sample [] hp hkind hvalid hvars hdefaults
  rw [hdone] at hrefused
  obtain ⟨herrors, hcounts⟩ : done.response.errors ≠ [] ∧ done.blog.store.counts = ⟨4, 3, 4⟩ := by
    simpa [Except.toOption] using hrefused
  cases result with
  | ok answers => exact absurd (congrArg Response.errors htells) herrors
  | error refused =>
    obtain ⟨key, refusal⟩ := refused
    exact ⟨Or.inr rfl, freshIds_sample, plan, done, key, refusal, hdone, hin, htells, hcounts⟩

end Blog
end BlogGraph
