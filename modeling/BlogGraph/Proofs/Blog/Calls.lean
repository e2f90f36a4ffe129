import BlogGraph.Proofs.Blog.History

/-!
# The commands that a history calls

A history calls commands directly and through the fields of mutations.  A mutation calls the
command of each of its fields in turn, up to the first field that fails; whatever else a request
asks for calls nothing.  A call that finds no store at hand is a call on no blog, so it does not
count.  What a history does to a blog is what its calls do, one after the other.

Main statements:

* `GraphQL.runFields_calls`: the fields of a mutation do what their calls do;
* `Blog.run_eq_runEach_calls`: a history does what its calls do.
-/

namespace BlogGraph
namespace GraphQL

open Command

/-! ## Calls of a mutation -/

/-- The command that a planned field stands for, if its arguments have values. -/
def PlannedField.command? (f : PlannedField) : Option Command :=
  match f.arguments with
  | .ok args => Command.ofField? f.name args
  | .error _ => none

/-- The commands that carrying out a field calls: its own, if the store is at hand. -/
def PlannedField.calls (available : Bool) (f : PlannedField) : List Command :=
  if available then f.command?.toList else []

/-- The commands that carrying out fields calls: those of each field, up to the first that fails. -/
def calledBy (s : Schema) (available : Bool) (st : MutationState) : Plan → List Command
  | [] => []
  | f :: rest =>
    let after := runField s available st f
    f.calls available ++ if after.failure.isSome then [] else calledBy s available after rest

/-- A field does to the blog what its call does. -/
theorem runField_calls (s : Schema) (available : Bool) (st : MutationState) (f : PlannedField) :
    (runField s available st f).blog = runEach st.blog (f.calls available) := by
  obtain ⟨key, name, type, positions, arguments, fault, inner⟩ := f
  cases arguments with
  | error e => cases available <;> rfl
  | ok args =>
    simp only [runField, PlannedField.calls, PlannedField.command?, PlannedField.arguments,
      PlannedField.name]
    cases Command.ofField? name args with
    | none =>
      simp only [MutationState.complete_blog]
      cases available <;> rfl
    | some command =>
      cases available with
      | false => rfl
      | true =>
        simp only [runWhen, if_true]
        split
        · rfl
        · rw [MutationState.complete_blog]
          rfl

/-- The fields of a mutation do to the blog what their calls do, one after the other. -/
theorem runFields_calls (s : Schema) (available : Bool) (st : MutationState) (plan : Plan) :
    (runFields s available st plan).blog = runEach st.blog (calledBy s available st plan) := by
  induction plan generalizing st with
  | nil => rfl
  | cons f rest ih =>
    rw [runFields, calledBy, runEach_append, ← runField_calls s]
    by_cases hfailed : (runField s available st f).failure.isSome = true
    · simp only [if_pos hfailed, runEach_nil]
    · simp only [if_neg hfailed]
      exact ih (runField s available st f)

/-! ## Calls of a request -/

/-- The commands that executing an operation calls: those of its fields, if it is a mutation of a
valid document and its variables have values. -/
def Prepared.calls (p : Prepared) (given : Named Json) (available : Bool) (b : Blog) :
    List Command :=
  match p.document.validate blogSchema with
  | _ :: _ => []
  | [] =>
    match variableValues blogSchema given p.operation.declarations with
    | .error _ => []
    | .ok vars =>
      match PlanContext.plan ⟨blogSchema, p.document, vars⟩ p.operation with
      | .error _ => []
      | .ok plan =>
        if p.operation.kind = .mutation then calledBy blogSchema available (.initial b) plan else []

/-- The commands that a request calls on a blog. -/
def Request.calls (r : Request) (available : Bool) (b : Blog) : List Command :=
  match r.prepare with
  | .ok (.ok p) => p.calls r.given available b
  | _ => []

/-- An operation does to the blog what its calls do. -/
theorem executeDocument_calls (text : List Char) (p : Prepared) (given : Named Json)
    (available : Bool) (b : Blog) :
    (executeDocument blogSchema text p.document given p.operation available b).blog =
      runEach b (p.calls given available b) := by
  rw [executeDocument, Prepared.calls]
  cases p.document.validate blogSchema with
  | cons e es => rfl
  | nil =>
    simp only [executeOperation]
    cases variableValues blogSchema given p.operation.declarations with
    | error es => rfl
    | ok vars =>
      simp only
      cases PlanContext.plan ⟨blogSchema, p.document, vars⟩ p.operation with
      | error e => rfl
      | ok plan =>
        cases p.operation.kind with
        | mutation =>
          simp only [if_true, Executed.sorted, MutationState.executed]
          split <;> exact runFields_calls blogSchema available (.initial b) plan
        | _ => rfl

end GraphQL

/-! ## Calls of a history -/

/-- The commands that a use calls on a blog. -/
def Use.calls (b : Blog) : Use → List Command
  | command available c => if available then [c] else []
  | request available r => r.calls available b

/-- A use does to the blog what its calls do. -/
theorem Use.perform_eq_runEach_calls (b : Blog) (u : Use) :
    u.perform b = Command.runEach b (u.calls b) := by
  cases u with
  | command available c => cases available <;> rfl
  | request available r =>
    simp only [perform, calls, GraphQL.execute, GraphQL.Request.calls]
    cases r.prepare with
    | error f => rfl
    | ok prepared =>
      cases prepared with
      | error response => rfl
      | ok p => exact GraphQL.executeDocument_calls r.query.toList p r.given available b

namespace Blog

/-- The commands that a history calls, in order. -/
def calls (b : Blog) : List Use → List Command
  | [] => []
  | u :: rest => u.calls b ++ calls (u.perform b) rest

/-- **A history does what its calls do**, one after the other. -/
theorem run_eq_runEach_calls (b : Blog) (uses : List Use) :
    b.run uses = Command.runEach b (b.calls uses) := by
  induction uses generalizing b with
  | nil => rfl
  | cons u rest ih =>
    have hrest : b.run (u :: rest) = (u.perform b).run rest := rfl
    rw [hrest, ih, calls, Command.runEach_append, ← Use.perform_eq_runEach_calls]

end Blog
end BlogGraph
