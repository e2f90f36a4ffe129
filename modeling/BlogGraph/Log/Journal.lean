import BlogGraph.Log.Entry
import BlogGraph.Log.Template

/-!
# Journals

A journal is the log in use: how it is written, what is known of the request that is being
handled, and how many request identifiers have been made. It is used step by step. A setting
without an identifier takes the next one that is made. A message with arguments is a template,
which is filled only when its level is written.
A value named like the message itself makes the report fail at any level.
-/

namespace BlogGraph.Log

/-- The request identifiers in the order in which they are made, counted from one. -/
abbrev Identifiers := Nat → String

/-- The log in use. -/
structure Journal where
  mode : Mode
  context : Context
  made : Nat
deriving DecidableEq, Repr

/-- A use of the log. -/
inductive Use where
  | set (requestId operation : Option String)
  | clear
  | stamp (fields : Named Json)
  | configure (mode : Mode)
  | report (notice : Notice) (arguments : List Json)

/-- Why a report fails. -/
inductive ReportError where
  | template (fault : TemplateError)
  | nameTaken (level : Level) (name : String)
deriving DecidableEq, Repr

/-- The wording of a cause. -/
def ReportError.message : ReportError → String
  | template fault => fault.message
  | nameTaken level name =>
    "BoundLogger." ++ level.name ++ "() got multiple values for argument '" ++ name ++ "'"

/-- The names that a value must not have. -/
def takenNames : List String := ["self", "event"]

/-- What a use of the log comes to. -/
inductive Effect where
  | done
  | stamped (fields : Named Json)
  | reported (entries : List Entry)

namespace Journal

/-- A journal before its first use. -/
def fresh (mode : Mode) : Journal := ⟨mode, .empty, 0⟩

/-- The journal after a setting; without an identifier the next one is made. -/
def set (j : Journal) (identifiers : Identifiers) (requestId operation : Option String) :
    Journal :=
  match requestId with
  | some id => { j with context := j.context.set id operation }
  | none =>
    { j with context := j.context.set (identifiers (j.made + 1)) operation, made := j.made + 1 }

/-- The journal when no request is being handled any more. -/
def clear (j : Journal) : Journal := { j with context := .empty }

/-- The entries that a notice leaves, with its event filled if there are arguments. -/
def report (j : Journal) (n : Notice) (arguments : List Json) :
    Except ReportError (List Entry) :=
  match n.values.find? fun v => takenNames.contains v.1 with
  | some v => .error (.nameTaken n.level v.1)
  | none =>
    if n.level.rank < j.mode.least.rank then .ok []
    else if arguments.isEmpty then .ok (entries j.mode j.context [n])
    else
      match fill n.event arguments with
      | .ok event => .ok (entries j.mode j.context [{ n with event := event }])
      | .error e => .error (.template e)

/-- The journal after a use, and what the use comes to. -/
def use (identifiers : Identifiers) (j : Journal) : Use → Journal × Except ReportError Effect
  | .set requestId operation => (j.set identifiers requestId operation, .ok .done)
  | .clear => (j.clear, .ok .done)
  | .stamp fields => (j, .ok (.stamped (j.context.stamp fields)))
  | .configure mode => ({ j with mode := mode }, .ok .done)
  | .report n arguments =>
    match j.report n arguments with
    | .ok es => (j, .ok (.reported es))
    | .error e => (j, .error e)

/-- Makes use of the log several times: the journal after each use, and what the use came to. -/
def useAll (identifiers : Identifiers) (j : Journal) :
    List Use → List (Journal × Except ReportError Effect)
  | [] => []
  | u :: rest =>
    let after := j.use identifiers u
    after :: useAll identifiers after.1 rest

end Journal
end BlogGraph.Log
