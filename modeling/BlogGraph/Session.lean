import BlogGraph.GraphQL.Response
import BlogGraph.Store.Condition

/-!
# Sessions

A session is a list of steps on one blog: direct use of the store, questions, commands and
requests. A transaction groups steps; it ends at the first step that fails, and what was done
before stays done.
-/

namespace BlogGraph

/-- The object that a relation is asked of: one in the store, by its identifier, or a given
one. -/
inductive Subject (α : Type) where
  | stored (id : String)
  | given (value : α)

/-- A relation and the object that it is asked of. -/
inductive Relation where
  | postsOf (user : Subject User)
  | commentsBy (user : Subject User)
  | authorOf (post : Subject Post)
  | commentsOn (post : Subject Post)
  | commenter (comment : Subject Comment)
  | postOf (comment : Subject Comment)

/-- One step of a session. Whether the store is at hand matters to questions, commands and
requests only. -/
inductive Step where
  | append (item : Item)
  | seed
  | get (kind : Kind) (id : String)
  | all (kind : Kind)
  | size (kind : Kind)
  | nameOf (kind : Kind)
  | counts
  | dump
  | select (kind : Kind) (condition : Condition)
  | holdsForSome (kind : Kind) (condition : Condition)
  | assign (kind : Kind) (id field : String)
  | same (left right : Kind × String)
  | race (threads : Nat) (input : NewUser)
  | ask (available : Bool) (question : Question)
  | relate (available : Bool) (relation : Relation)
  | run (available : Bool) (command : Command)
  | request (available : Bool) (request : GraphQL.Request)
  | transaction (steps : List Step)

/-- Why a step fails. -/
inductive StepError where
  | append (error : AppendError)
  | condition (error : ConditionError)
  | assign (error : Store.AssignError)
  | missingSubject
  | operation (failure : Failure)
  | request (fault : GraphQL.RequestFault)

/-- The wording of a step's failure. -/
def StepError.message : StepError → String
  | append e => e.message
  | condition e => e.message
  | assign e => e.message
  | missingSubject => "'NoneType' object has no attribute 'id'"
  | operation f => f.message
  | request f => f.message

/-- What a step comes to. -/
inductive StepValue where
  | stored (record : Option Record)
  | storedAll (records : List Record)
  | storedOfAllKinds (users posts comments : List Record)
  | object (record : Record)
  | objects (records : List Record)
  | number (n : Nat)
  | text (s : String)
  | truth (b : Bool)
  | counts (counts : Counts)
  | outcomes (outcomes : List String)
  | response (text : String) (response : GraphQL.Response)
  | transaction (done : List StepValue) (failure : Option StepError)

/-- What a step led to: its value or failure, the blog afterwards, and what was reported. -/
structure StepOutcome where
  result : Except StepError StepValue
  blog : Blog
  events : List Event

namespace Subject

/-- The record that a relation is asked of. -/
def resolve? {α : Type} [Identified α] (c : Collection α) : Subject α → Option α
  | stored id => c.get? id
  | given value => some value

end Subject

/-- The question that a relation stands for, if its object is there. -/
def Relation.question? (s : Store) : Relation → Option Question
  | postsOf u => (u.resolve? s.users).map .postsOf
  | commentsBy u => (u.resolve? s.users).map .commentsBy
  | authorOf p => (p.resolve? s.posts).map .authorOf
  | commentsOn p => (p.resolve? s.posts).map .commentsOn
  | commenter c => (c.resolve? s.comments).map .commenter
  | postOf c => (c.resolve? s.comments).map .postOf

namespace Step

/-- A step that changes nothing and reports nothing. -/
def reading (b : Blog) (v : StepValue) : StepOutcome := ⟨.ok v, b, []⟩

/-- The outcome of a question. -/
def asked (b : Blog) (available : Bool) (q : Question) : StepOutcome :=
  let answer := q.answer (if available then some b.store else none)
  match answer.result with
  | .ok (.one r) => ⟨.ok (.object r), b, answer.events⟩
  | .ok (.many rs) => ⟨.ok (.objects rs), b, answer.events⟩
  | .error f => ⟨.error (.operation f), b, answer.events⟩

/-- How a command ended, in one word. -/
def verdict (o : Outcome) : String :=
  match o.result with
  | .ok _ => "ok"
  | .error f => f.code?.getD f.message

/-- The outcome of several callers who send the same command at the same time. Each takes its
turn, so the outcomes are those of sending it that often, told in alphabetical order. -/
def raced (b : Blog) (threads : Nat) (c : Command) : StepOutcome :=
  let outcomes := Command.runAll b (List.replicate threads c)
  let after := (outcomes.getLast?.map (·.blog)).getD b
  ⟨.ok (.outcomes ((outcomes.map verdict).mergeSort (· ≤ ·))), after, outcomes.flatMap (·.events)⟩

mutual

/-- Carries out one step. -/
def perform (b : Blog) : Step → StepOutcome
  | append item =>
    match item, b.store.append item with
    | .record r, .ok s =>
      ⟨.ok (.stored (some r)), { b with store := s }, [.recordAppended r.kind r.id]⟩
    | .other _, .ok s => ⟨.ok (.stored none), { b with store := s }, []⟩
    | _, .error e => ⟨.error (.append e), b, []⟩
  | seed =>
    let after := b.store.seed
    match after.failure with
    | some e => ⟨.error (.append e), { b with store := after.store }, after.events⟩
    | none => ⟨.ok (.counts after.store.counts), { b with store := after.store }, after.events⟩
  | get kind id => reading b (.stored (b.store.get? kind id))
  | all kind => reading b (.storedAll (b.store.records kind))
  | size kind => reading b (.number (b.store.records kind).length)
  | nameOf kind => reading b (.text kind.name)
  | counts => reading b (.counts b.store.counts)
  | dump =>
    reading b (.storedOfAllKinds (b.store.records .user) (b.store.records .post)
      (b.store.records .comment))
  | select kind condition =>
    match b.store.select kind condition with
    | .ok rs => reading b (.storedAll rs)
    | .error e => ⟨.error (.condition e), b, []⟩
  | holdsForSome kind condition =>
    match b.store.holdsForSome kind condition with
    | .ok holds => reading b (.truth holds)
    | .error e => ⟨.error (.condition e), b, []⟩
  | assign kind id field => ⟨.error (.assign (b.store.assign kind id field)), b, []⟩
  | same left right =>
    reading b (.truth (b.store.get? left.1 left.2 = b.store.get? right.1 right.2))
  | race threads input => raced b threads (.createUser input)
  | ask available q => asked b available q
  | relate available r =>
    match r.question? b.store with
    | some q => asked b available q
    | none => ⟨.error .missingSubject, b, []⟩
  | run available c =>
    let o := c.runWhen available b
    match o.result with
    | .ok r => ⟨.ok (.object r), o.blog, o.events⟩
    | .error f => ⟨.error (.operation f), o.blog, o.events⟩
  | request available r =>
    match GraphQL.execute GraphQL.blogSchema available b r with
    | .ok done => ⟨.ok (.response r.query done.response), done.blog, done.events⟩
    | .error f => ⟨.error (.request f), b, []⟩
  | transaction steps =>
    let (done, failure, after, events) := performAll b steps
    ⟨.ok (.transaction done failure), after, events⟩

/-- Carries out steps up to the first failure: their values, that failure, the blog afterwards
and what was reported. -/
def performAll (b : Blog) : List Step → List StepValue × Option StepError × Blog × List Event
  | [] => ([], none, b, [])
  | s :: rest =>
    let o := perform b s
    match o.result with
    | .error e => ([], some e, o.blog, o.events)
    | .ok v =>
      let (done, failure, after, events) := performAll o.blog rest
      (v :: done, failure, after, o.events ++ events)

end

/-- Carries out all steps, whatever becomes of each. -/
def performEach (b : Blog) : List Step → List StepOutcome
  | [] => []
  | s :: rest =>
    let o := perform b s
    o :: performEach o.blog rest

end Step
end BlogGraph
