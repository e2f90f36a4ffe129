import BlogGraph.Log.Journal
import BlogGraph.Proofs.Log.Stamps
import Mathlib.Data.List.Induction

/-!
# What a journal knows after its uses

The context of a journal is a matter of what was done with it.  The identifier is decided by each
setting and each clearing, the operation by each setting that names one and by each clearing.  So of
each the last use that decides it counts (`Last`): what a setting gave, or nothing after a clearing.
Other uses change neither.

Main statements: `Journal.Follows.use` for one use, `Journal.follows_after` for all, and
`context_follows_uses`, which goes on to the fields that are stamped after the uses.
-/

namespace BlogGraph.Log

/-! ## Uses that decide -/

namespace Use

/-- The use decides which identifier is known. -/
def decidesRequest : Use → Bool
  | .set _ _ | .clear => true
  | _ => false

/-- The use decides which operation is known. -/
def decidesOperation : Use → Bool
  | .set _ (some _) | .clear => true
  | _ => false

/-- An identifier is made for the use. -/
def makesIdentifier : Use → Bool
  | .set none _ => true
  | _ => false

end Use

/-- How many identifiers are made in the course of uses. -/
def madeIn (uses : List Use) : Nat := uses.countP Use.makesIdentifier

/-- The last of some uses that is of a kind, and the uses before it. -/
def Last (kind : Use → Bool) (uses before : List Use) (u : Use) : Prop :=
  ∃ after, uses = before ++ u :: after ∧ kind u = true ∧ ∀ x ∈ after, kind x = false

variable {kind : Use → Bool} {uses before : List Use} {u x : Use}

theorem not_last_nil : ¬Last kind [] before u := by
  rintro ⟨after, heq, -⟩
  exact List.append_ne_nil_of_right_ne_nil _ (List.cons_ne_nil u after) heq.symm

/-- A use among some and one more is that one, or one of the others. -/
theorem concat_eq_cases {after : List Use} (h : uses ++ [x] = before ++ u :: after) :
    (after = [] ∧ before = uses ∧ u = x) ∨
      ∃ rest, after = rest ++ [x] ∧ uses = before ++ u :: rest := by
  rcases List.eq_nil_or_concat after with rfl | ⟨rest, y, rfl⟩
  · obtain ⟨hbefore, hu⟩ := List.append_inj' h rfl
    exact Or.inl ⟨rfl, hbefore.symm, (List.cons.inj hu).1.symm⟩
  · have hsplit : uses ++ [x] = (before ++ u :: rest) ++ [y] := by simpa using h
    obtain ⟨huses, hxy⟩ := List.append_inj' hsplit rfl
    obtain rfl := (List.cons.inj hxy).1
    exact Or.inr ⟨rest, List.concat_eq_append, huses⟩

theorem last_concat_of_true (hx : kind x = true) :
    Last kind (uses ++ [x]) before u ↔ before = uses ∧ u = x := by
  constructor
  · rintro ⟨after, heq, -, hafter⟩
    rcases concat_eq_cases heq with ⟨-, hbefore, hu⟩ | ⟨rest, rfl, -⟩
    · exact ⟨hbefore, hu⟩
    · have hfalse := hafter x (List.mem_append_right _ List.mem_cons_self)
      rw [hx] at hfalse
      cases hfalse
  · rintro ⟨rfl, rfl⟩
    exact ⟨[], rfl, hx, by simp⟩

theorem last_concat_of_false (hx : kind x = false) :
    Last kind (uses ++ [x]) before u ↔ Last kind uses before u := by
  constructor
  · rintro ⟨after, heq, hu, hafter⟩
    rcases concat_eq_cases heq with ⟨-, -, rfl⟩ | ⟨rest, rfl, huses⟩
    · rw [hx] at hu
      cases hu
    · exact ⟨rest, huses, hu, fun z hz => hafter z (List.mem_append_left _ hz)⟩
  · rintro ⟨after, rfl, hu, hafter⟩
    refine ⟨after ++ [x], by simp, hu, fun z hz => ?_⟩
    rcases List.mem_append.1 hz with hz | hz
    · exact hafter z hz
    · rw [List.mem_singleton.1 hz, hx]

/-! ## The context after uses -/

variable {identifiers : Identifiers}

/-- A context knows what uses of the log have told it.

* `requestId`: the identifier is that of the last setting, if nothing was cleared since; a setting
  without one was given the next that was made;
* `operation`: the operation is the last that a setting named, if nothing was cleared since. -/
structure Context.Recalls (identifiers : Identifiers) (uses : List Use) (c : Context) : Prop where
  requestId : ∀ id, c.requestId = some id ↔ ∃ before given operation,
    Last Use.decidesRequest uses before (.set given operation) ∧
      id = given.getD (identifiers (madeIn before + 1))
  operation : ∀ name, c.operation = some name ↔ ∃ before given,
    Last Use.decidesOperation uses before (.set given (some name))

namespace Journal

variable {j : Journal}

/-- The journal after uses. -/
def after (identifiers : Identifiers) (j : Journal) (uses : List Use) : Journal :=
  uses.foldl (fun j u => (j.use identifiers u).1) j

theorem after_concat (uses : List Use) (u : Use) :
    j.after identifiers (uses ++ [u]) = ((j.after identifiers uses).use identifiers u).1 := by
  rw [after, List.foldl_append]
  rfl

theorem useAll_concat (uses : List Use) (u : Use) :
    j.useAll identifiers (uses ++ [u]) =
      j.useAll identifiers uses ++ [(j.after identifiers uses).use identifiers u] := by
  induction uses generalizing j with
  | nil => rfl
  | cons v rest ih =>
    simp only [List.cons_append, useAll, ih]
    rfl

/-- A setting gives the identifier that it has, or else makes one, and keeps an operation that is
known if it names none. -/
theorem use_set (given operation : Option String) :
    (j.use identifiers (.set given operation)).1 =
      { j with
        context := ⟨some (given.getD (identifiers (j.made + 1))), operation.or j.context.operation⟩
        made := j.made + madeIn [.set given operation] } := by
  cases given <;> rfl

/-- Uses other than settings and clearings change neither the context nor what was made. -/
theorem use_of_not_decides (identifiers : Identifiers) (j : Journal)
    (h : u.decidesRequest = false) :
    (j.use identifiers u).1.context = j.context ∧ (j.use identifiers u).1.made = j.made := by
  cases u with
  | set given operation => cases h
  | clear => cases h
  | stamp fields => exact ⟨rfl, rfl⟩
  | configure mode => exact ⟨rfl, rfl⟩
  | report n arguments =>
    simp only [use]
    cases j.report n arguments <;> exact ⟨rfl, rfl⟩

/-- A journal is as its uses have left it: it knows what they have told it, and has made an
identifier for each setting that came without one. -/
structure Follows (identifiers : Identifiers) (uses : List Use) (j : Journal) : Prop where
  recalls : j.context.Recalls identifiers uses
  made : j.made = madeIn uses

theorem follows_fresh (mode : Mode) : (fresh mode).Follows identifiers [] where
  recalls := ⟨fun id => by simp [fresh, Context.empty, not_last_nil],
    fun name => by simp [fresh, Context.empty, not_last_nil]⟩
  made := rfl

theorem madeIn_concat (uses : List Use) (u : Use) :
    madeIn (uses ++ [u]) = madeIn uses + madeIn [u] :=
  List.countP_append

theorem Follows.set (h : j.Follows identifiers uses) (given operation : Option String) :
    (j.use identifiers (.set given operation)).1.Follows identifiers
      (uses ++ [.set given operation]) := by
  rw [use_set, h.made]
  refine ⟨⟨fun id => ?_, fun name => ?_⟩, (madeIn_concat _ _).symm⟩
  · have hdecides : (Use.set given operation).decidesRequest = true := rfl
    simp only [last_concat_of_true hdecides]
    constructor
    · intro hid
      exact ⟨uses, given, operation, ⟨rfl, rfl⟩, (Option.some.inj hid).symm⟩
    · rintro ⟨before, given', operation', ⟨rfl, heq⟩, rfl⟩
      cases heq
      rfl
  · cases operation with
    | none =>
      have hkeeps : (Use.set given none).decidesOperation = false := rfl
      simp only [last_concat_of_false hkeeps]
      exact h.recalls.operation name
    | some named =>
      have hdecides : (Use.set given (some named)).decidesOperation = true := rfl
      simp only [last_concat_of_true hdecides]
      constructor
      · intro hname
        cases hname
        exact ⟨uses, given, rfl, rfl⟩
      · rintro ⟨before, given', rfl, heq⟩
        cases heq
        rfl

theorem Follows.clear (h : j.Follows identifiers uses) :
    (j.use identifiers .clear).1.Follows identifiers (uses ++ [.clear]) := by
  refine ⟨⟨fun id => ?_, fun name => ?_⟩, h.made.trans (madeIn_concat uses .clear).symm⟩
  · have hdecides : Use.clear.decidesRequest = true := rfl
    simp only [last_concat_of_true hdecides]
    simp [use, Journal.clear, Context.empty]
  · have hdecides : Use.clear.decidesOperation = true := rfl
    simp only [last_concat_of_true hdecides]
    simp [use, Journal.clear, Context.empty]

/-- One more use leaves the journal as all uses together have left it. -/
theorem Follows.use (h : j.Follows identifiers uses) (u : Use) :
    (j.use identifiers u).1.Follows identifiers (uses ++ [u]) := by
  cases hu : u.decidesRequest with
  | true =>
    cases u with
    | set given operation => exact h.set given operation
    | clear => exact h.clear
    | _ => cases hu
  | false =>
    obtain ⟨hcontext, hmade⟩ := use_of_not_decides identifiers j hu
    have hoperation : u.decidesOperation = false ∧ u.makesIdentifier = false := by
      cases u with
      | set given operation => cases hu
      | clear => cases hu
      | _ => exact ⟨rfl, rfl⟩
    refine ⟨⟨fun id => ?_, fun name => ?_⟩, ?_⟩
    · simp only [hcontext, last_concat_of_false hu]
      exact h.recalls.requestId id
    · simp only [hcontext, last_concat_of_false hoperation.1]
      exact h.recalls.operation name
    · rw [hmade, h.made, madeIn_concat]
      simp [madeIn, hoperation.2]

/-- A journal is as all its uses have left it. -/
theorem follows_after (mode : Mode) (uses : List Use) :
    ((fresh mode).after identifiers uses).Follows identifiers uses := by
  induction uses using List.reverseRecOn with
  | nil => exact follows_fresh mode
  | append_singleton uses u ih =>
    rw [after_concat]
    exact ih.use u

end Journal

/-! ## The context, and what is stamped with it -/

/-- **What a journal knows follows from its uses**: the identifier is that of the last setting since
the last clearing, and the operation the last that was named since; and whatever fields are stamped
then, only those two are set, the identifier in any case and the operation where there is none. -/
theorem context_follows_uses (mode : Mode) (identifiers : Identifiers) (uses : List Use)
    (fields : Named Json) : ∃ j stamped,
      ((Journal.fresh mode).useAll identifiers (uses ++ [.stamp fields])).getLast? =
        some (j, .ok (.stamped stamped)) ∧
      j.context.Recalls identifiers uses ∧ j.context.Stamps fields stamped := by
  refine ⟨(Journal.fresh mode).after identifiers uses, _, ?_,
    (Journal.follows_after mode uses).recalls, Context.stamps _ fields⟩
  rw [Journal.useAll_concat, List.getLast?_append]
  rfl

/-- A setting without an identifier has one made, and keeps the operation of the one before it. -/
example : ((Journal.fresh .data).after (fun n => toString n)
    [.set (some "a") (some "GetUsers"), .clear, .set (some "") (some ""), .set none none]).context =
      ⟨some "1", some ""⟩ := by
  decide +kernel

end BlogGraph.Log
