import BlogGraph.Json.Value
import BlogGraph.Store.Basic
import BlogGraph.Text.Quoted
import BlogGraph.Text.Substring

/-!
# Conditions on records

A condition compares an attribute of a record with a given value: for equality, where truth
values count as the numbers one and zero, or for containing it as a piece of text. A record
without the attribute, and an attribute that holds no text, make the comparison fail.
-/

namespace BlogGraph

namespace Record

/-- The attribute of a record with this name. -/
def field? (r : Record) (name : String) : Option Json :=
  match r, name with
  | _, "id" => some (.text r.id)
  | .user u, "name" => some (.text u.name)
  | .user u, "email" => some (.text u.email)
  | .user u, "age" => some (u.age.elim .null .int)
  | .post p, "title" => some (.text p.title)
  | .post p, "body" => some (.text p.body)
  | .post p, "published" => some (.bool p.published)
  | .post p, "author" => some (.text p.author)
  | .comment c, "text" => some (.text c.text)
  | .comment c, "author" => some (.text c.author)
  | .comment c, "post" => some (.text c.post)
  | _, _ => none

end Record

namespace Json

/-- The number that a value counts as in a comparison: truth values are one and zero. -/
def numeral? : Json → Option (Int ⊕ Binary64)
  | .bool b => some (.inl (if b then 1 else 0))
  | .int n => some (.inl n)
  | .float x => some (.inr x)
  | _ => none

/-- Two numbers are equal in value. -/
def numeralsEqual : Int ⊕ Binary64 → Int ⊕ Binary64 → Bool
  | .inl m, .inl n => m = n
  | .inl m, .inr y => y.equalsInt m
  | .inr x, .inl n => x.equalsInt n
  | .inr x, .inr y => x.toFloat == y.toFloat

/-- Two simple values are equal; lists and objects equal no simple value. -/
def equals (v w : Json) : Bool :=
  match v.numeral?, w.numeral? with
  | some x, some y => numeralsEqual x y
  | none, none =>
    match v, w with
    | .null, .null => true
    | .text s, .text t => s = t
    | _, _ => false
  | _, _ => false

end Json

/-- A condition on records. -/
inductive Condition where
  | always (holds : Bool)
  | equals (field : String) (value : Json)
  | contains (field : String) (value : Json)

/-- Why a condition cannot be decided for a record. -/
inductive ConditionError where
  | noAttribute (recordName field : String)
  | notSearchable (typeName : String)
  | notText (typeName : String)
deriving DecidableEq, Repr

/-- The wording of a cause. -/
def ConditionError.message : ConditionError → String
  | noAttribute recordName field =>
    "'" ++ recordName ++ "' object has no attribute '" ++ field ++ "'"
  | notSearchable typeName => "argument of type '" ++ typeName ++ "' is not iterable"
  | notText typeName => "'in <string>' requires string as left operand, not " ++ typeName

namespace Condition

/-- The value stands in an attribute as a piece of text. -/
def containsIn (held value : Json) : Except ConditionError Bool :=
  match held, value with
  | .text s, .text t => .ok (Text.contains s t)
  | .text _, v => .error (.notText v.kindName)
  | a, _ => .error (.notSearchable a.kindName)

/-- The condition holds of a record. -/
def test (condition : Condition) (r : Record) : Except ConditionError Bool :=
  let held := fun (name : String) =>
    match r.field? name with
    | some v => Except.ok v
    | none => Except.error (ConditionError.noAttribute r.kind.recordName name)
  match condition with
  | always holds => .ok holds
  | equals name value =>
    match held name with
    | .ok v => .ok (v.equals value)
    | .error e => .error e
  | contains name value =>
    match held name with
    | .ok v => containsIn v value
    | .error e => .error e

end Condition

namespace Store

/-- The records of a kind for which a condition holds, oldest first. -/
def select (s : Store) (kind : Kind) (condition : Condition) :
    Except ConditionError (List Record) :=
  Collection.filterM condition.test ⟨s.records kind⟩

/-- A condition holds for some record of a kind. -/
def holdsForSome (s : Store) (kind : Kind) (condition : Condition) : Except ConditionError Bool :=
  Collection.existsM condition.test ⟨s.records kind⟩

/-- Writing to an attribute of a stored record. -/
inductive AssignError where
  | frozen (field : String)
  | missing (field : String)
deriving DecidableEq, Repr

/-- The wording of a cause. -/
def AssignError.message : AssignError → String
  | frozen field => "cannot assign to field " ++ Text.quoted field
  | missing field => "'NoneType' object has no attribute '" ++ field ++ "'"

/-- Why an attribute of a stored record cannot be assigned to: records never change, and a
missing one has no attributes. -/
def assign (s : Store) (kind : Kind) (id field : String) : AssignError :=
  if (s.get? kind id).isSome then .frozen field else .missing field

end Store
end BlogGraph
