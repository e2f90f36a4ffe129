import BlogGraph.GraphQL.Action
import BlogGraph.GraphQL.Plan

/-!
# Execution

Answering the fields of a plan. Values at hand are completed at once; questions are asked
afterwards, all those of one object or list at the same time. When one of several fails, the
others are stopped a moment later, so what they have reported until then stays reported. The
passing of time is counted in rounds.

A field whose type demands a value passes its failure on to the object around it; any other
field is answered with the missing value, and its error stands beside the response.
-/

namespace BlogGraph.GraphQL

/-- What is left behind while a response is made: reports of the blog, and errors of fields
that are answered with the missing value. -/
inductive Mark where
  | event (event : Event)
  | error (error : GraphError)

/-- A failure and the round in which it happened. -/
structure Failing where
  round : Nat
  error : GraphError

/-- The course of an answer that takes time: what it came to, and what it left behind, with the
rounds. -/
structure Course (α : Type) where
  result : Except Failing α
  marks : List (Nat × Mark)

namespace Course

/-- The marks in the order of their rounds; those of one round stay in their order. -/
def inOrder (marks : List (Nat × Mark)) : List (Nat × Mark) :=
  marks.mergeSort fun a b => a.1 ≤ b.1

/-- The marks up to a round. -/
def marksUntil {α : Type} (c : Course α) (round : Nat) : List (Nat × Mark) :=
  c.marks.filter fun m => m.1 ≤ round

/-- The earliest failure among courses, and the index of the first course that fails so. -/
def earliest {α : Type} : Nat → List (Course α) → Option (Nat × Failing)
  | _, [] => none
  | i, c :: rest =>
    match c.result, earliest (i + 1) rest with
    | .error f, some (j, g) => if g.round < f.round then some (j, g) else some (i, f)
    | .error f, none => some (i, f)
    | .ok _, later => later

/-- The values of courses that do not fail. -/
def values {α : Type} (cs : List (Course α)) : List α :=
  cs.filterMap fun c => c.result.toOption

/-- Marks of courses when the `i`-th fails in a round: those before it are stopped two rounds
later, those after it one round later. -/
def marksWhenFailing {α : Type} (i round : Nat) (cs : List (Course α)) : List (Nat × Mark) :=
  (cs.zipIdx.map fun (c, j) =>
    c.marksUntil (if j < i then round + 2 else if j = i then round else round + 1)).flatten

/-- Several courses that run at the same time. -/
def together {α : Type} (cs : List (Course α)) : Course (List α) :=
  match earliest 0 cs with
  | none => ⟨.ok (values cs), inOrder (cs.flatMap (·.marks))⟩
  | some (i, f) =>
    ⟨.error ⟨f.round + 4, f.error⟩, inOrder (marksWhenFailing i f.round cs)⟩

end Course

/-- A course that waits for the round in which it may start. -/
abbrev Waiting (α : Type) := Nat → Course α

/-- Starts several courses: a single one in this round, more than one in the next. -/
def startAll {α : Type} (ws : List (Waiting α)) : Waiting (List α) := fun round =>
  match ws with
  | [w] =>
    let c := w round
    ⟨c.result.map fun a => [a], c.marks⟩
  | ws => Course.together (ws.map fun w => w (round + 1))

/-- What completing a value comes to at once: a failure, a value, or something to wait for. -/
inductive Ready (α : Type) where
  | failed (error : GraphError)
  | done (value : α)
  | waiting (wait : Waiting α)

/-- A completed value, and the errors beside it. -/
structure Completed (α : Type) where
  ready : Ready α
  marks : List Mark

namespace Completed

/-- A value without errors. -/
def value {α : Type} (a : α) : Completed α := ⟨.done a, []⟩

/-- A failure. -/
def failure {α : Type} (e : GraphError) : Completed α := ⟨.failed e, []⟩

/-- The course of completing a value that starts in a round. -/
def start {α : Type} (c : Completed α) : Waiting α := fun round =>
  let here := c.marks.map fun m => (round, m)
  match c.ready with
  | .failed e => ⟨.error ⟨round, e⟩, here⟩
  | .done a => ⟨.ok a, here⟩
  | .waiting w =>
    let later := w round
    ⟨later.result, here ++ later.marks⟩

/-- A field's failure becomes the missing value, with the error beside it, unless its type
demands a value. -/
def settle (type : Ty) (c : Completed Json) : Completed Json :=
  if type.isNonNull then c
  else
    match c.ready with
    | .failed e => ⟨.done .null, c.marks ++ [.error e]⟩
    | .done _ => c
    | .waiting w =>
      ⟨.waiting fun round =>
        let later := w round
        match later.result with
        | .ok _ => later
        | .error f => ⟨.ok .null, later.marks ++ [(f.round, .error f.error)]⟩, c.marks⟩

/-- Several completed values as one: the first failure at once is that of all, and all that is
to be waited for is waited for together. Values keep their places. -/
def gather (cs : List (Completed Json)) : Completed (List Json) :=
  go cs [] [] []
where
  /-- The rest of the values; those before it are in reverse, with the places of those that
  are waited for left open. -/
  go : List (Completed Json) → List (Option Json) → List (Waiting Json) → List Mark →
      Completed (List Json)
    | [], slots, waits, marks =>
      let slots := slots.reverse
      if waits.isEmpty then ⟨.done (fill slots []), marks⟩
      else
        ⟨.waiting fun round =>
          let c := startAll waits.reverse round
          ⟨c.result.map (fill slots), c.marks⟩, marks⟩
    | c :: rest, slots, waits, marks =>
      let marks := marks ++ c.marks
      match c.ready with
      | .failed e => ⟨.failed e, marks⟩
      | .done v => go rest (some v :: slots) waits marks
      | .waiting w => go rest (none :: slots) (w :: waits) marks
  /-- The values with the open places filled in order. -/
  fill : List (Option Json) → List Json → List Json
    | [], _ => []
    | some v :: rest, later => v :: fill rest later
    | none :: rest, v :: later => v :: fill rest later
    | none :: rest, [] => .null :: fill rest []

/-- Applies a function to a completed value. -/
def map {α β : Type} (f : α → β) (c : Completed α) : Completed β :=
  match c.ready with
  | .failed e => ⟨.failed e, c.marks⟩
  | .done a => ⟨.done (f a), c.marks⟩
  | .waiting w =>
    ⟨.waiting fun round =>
      let later := w round
      ⟨later.result.map f, later.marks⟩, c.marks⟩

end Completed

/-- What reading needs: the schema, and the store if it is at hand. -/
structure Reading where
  schema : Schema
  store? : Option Store

/-- An error of a field at its place in the response. -/
def fieldError (positions : List Nat) (path : List PathKey) (e : GraphError) : GraphError :=
  ⟨e.message, if e.positions.isEmpty then positions else e.positions, path, e.code⟩

/-- The failure of an operation on the blog as an error of a field. -/
def failureError (positions : List Nat) (path : List PathKey) (f : Failure) : GraphError :=
  ⟨f.message, positions, path, f.code?⟩

/-- What has to be known of a field to complete its value: the type of the object it is answered
on, its name and type, and the places where it is selected. -/
structure FieldPlace where
  owner : String
  name : String
  type : Ty
  positions : List Nat

/-- The failure of a field that must have a value and has none. -/
def FieldPlace.missing (f : FieldPlace) (path : List PathKey) : GraphError :=
  ⟨"Cannot return null for non-nullable field " ++ f.owner ++ "." ++ f.name ++ ".", f.positions,
    path, none⟩

/-- A simple value in the form in which it is answered. -/
def completeLeaf (f : FieldPlace) (path : List PathKey) (v : Json) : Completed Json :=
  match f.type.base, v with
  | _, .null => if f.type.isNonNull then .failure (f.missing path) else .value .null
  | "Int", .int n =>
    if Scalar.isInt32 n then .value v
    else
      .failure ⟨"Int cannot represent non 32-bit signed integer value: " ++ toString n,
        f.positions, path, none⟩
  | _, _ => .value v

/-- Answers all fields of an object, given its place in the response. -/
abbrev Answering := List PathKey → Node → Completed Json

/-- Completes an object: answers its fields, if they could be planned. -/
def completeObject (positions : List Nat) (fault : Option GraphError) (inside : Answering)
    (path : List PathKey) (node : Node) : Completed Json :=
  match fault with
  | some e => .failure (fieldError positions path e)
  | none => inside path node

/-- Completes the value of a field. -/
def completeValue (f : FieldPlace) (fault : Option GraphError) (inside : Answering)
    (path : List PathKey) : FieldValue → Completed Json
  | .leaf v => completeLeaf f path v
  | .leaves vs => .value (.list vs)
  | .one node => completeObject f.positions fault inside path node
  | .many nodes =>
    let items := nodes.zipIdx.map fun (node, i) =>
      completeObject f.positions fault inside (path ++ [.index i]) node
    (Completed.gather items).map .list

/-- The answers to the fields of an object as one. -/
def gatherObject (keys : List String) (answers : List (Completed Json)) : Completed Json :=
  (Completed.gather answers).map fun vs => .object (keys.zip vs)

/-- Asks a question and completes what is found. -/
def completeAnswer (positions : List Nat) (path : List PathKey) (answer : Answer)
    (complete : FieldValue → Completed Json) : Completed Json :=
  ⟨.waiting fun round =>
    let events := answer.events.map fun e => (round, Mark.event e)
    match answer.result with
    | .error f => ⟨.error ⟨round, failureError positions path f⟩, events⟩
    | .ok found =>
      let course := (complete (.ofFound found)).start round
      ⟨course.result, events ++ course.marks⟩, []⟩

namespace Reading

mutual

/-- Answers a field of an object. -/
def field (c : Reading) (path : List PathKey) (node : Node) : PlannedField → Completed Json
  | .mk key name type positions arguments fault inner =>
    let here := path ++ [.key key]
    let inside : Answering := fun path node =>
      gatherObject (inner.map PlannedField.key) (fields c path node inner)
    let complete := completeValue ⟨node.typeName, name, type, positions⟩ fault inside here
    Completed.settle type <|
      match arguments with
      | .error e => .failure (fieldError positions here e)
      | .ok args =>
        match Action.of c.schema node name args with
        | .give v => complete v
        | .ask q => completeAnswer positions here (q.answer c.store?) complete

/-- Answers the fields of an object. -/
def fields (c : Reading) (path : List PathKey) (node : Node) : Plan → List (Completed Json)
  | [] => []
  | f :: rest => field c path node f :: fields c path node rest

end

/-- Answers the fields of an object together. -/
def object (c : Reading) (path : List PathKey) (node : Node) (plan : Plan) : Completed Json :=
  gatherObject (plan.map PlannedField.key) (c.fields path node plan)

end Reading
end BlogGraph.GraphQL
