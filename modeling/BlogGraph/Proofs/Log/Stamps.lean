import BlogGraph.Log.Context
import BlogGraph.Proofs.Named

/-!
# Stamps

A stamp puts a known identifier in the place of another, and a known operation where there is none;
a text that is empty counts as unknown.  All other fields stay as they are, and stamping again
changes nothing.  A stamp is two steps, `identify` and `nameOperation`, and each has its own lemmas
here.

Main statements: `stamp_eq` for the two steps, `get?_stamp` for the other fields, and `stamps`.
-/

namespace BlogGraph.Log.Context

variable {c : Context} {fields : Named Json}

theorem present_eq_filter (value : Option String) : present value = value.filter (· ≠ "") := by
  cases value with
  | none => rfl
  | some s =>
    by_cases hs : s = ""
    · subst hs
      rfl
    · simp [present, Option.filter, hs]

/-- The fields with a known identifier. -/
def identify (id : Option String) (fields : Named Json) : Named Json :=
  match id with
  | some id => fields.set "request_id" (.text id)
  | none => fields

/-- The fields with a known operation. -/
def nameOperation (name : Option String) (fields : Named Json) : Named Json :=
  match name with
  | some name => fields.setIfMissing "graphql_operation" (.text name)
  | none => fields

theorem stamp_eq (c : Context) (fields : Named Json) :
    c.stamp fields = nameOperation (c.operation.filter (· ≠ ""))
      (identify (c.requestId.filter (· ≠ "")) fields) := by
  rw [← present_eq_filter, ← present_eq_filter]
  rfl

/-! ## The identifier -/

theorem filter_identify {p : String → Bool} (h : p "request_id" = false) (id : Option String)
    (fields : Named Json) :
    (identify id fields).filter (fun field => p field.1) =
      fields.filter fun field => p field.1 := by
  cases id with
  | none => rfl
  | some id => exact Named.filter_set_of_false h _ _

theorem get?_identify (id : Option String) (fields : Named Json) :
    (identify id fields).get? "request_id" = (id.map Json.text).or (fields.get? "request_id") := by
  cases id with
  | none => rfl
  | some id => exact Named.get?_set _ _ _

theorem get?_identify_ne {name : String} (h : name ≠ "request_id") (id : Option String)
    (fields : Named Json) : (identify id fields).get? name = fields.get? name := by
  cases id with
  | none => rfl
  | some id => exact Named.get?_set_ne h _ _

theorem nodup_identify (id : Option String) (h : (fields.map (·.1)).Nodup) :
    ((identify id fields).map (·.1)).Nodup := by
  cases id with
  | none => exact h
  | some id => exact Named.nodup_set h _ _

/-! ## The operation -/

theorem filter_nameOperation {p : String → Bool} (h : p "graphql_operation" = false)
    (name : Option String) (fields : Named Json) :
    (nameOperation name fields).filter (fun field => p field.1) =
      fields.filter fun field => p field.1 := by
  cases name with
  | none => rfl
  | some name =>
    rw [nameOperation, Named.setIfMissing]
    split
    · rfl
    · exact Named.filter_set_of_false h _ _

theorem get?_nameOperation (name : Option String) (fields : Named Json) :
    (nameOperation name fields).get? "graphql_operation" =
      (fields.get? "graphql_operation").or (name.map Json.text) := by
  cases name with
  | none => simp [nameOperation]
  | some name =>
    rw [nameOperation, Named.setIfMissing]
    cases hheld : fields.get? "graphql_operation" with
    | none => simp [Named.get?_set]
    | some held => simp [hheld]

theorem get?_nameOperation_ne {other : String} (h : other ≠ "graphql_operation")
    (name : Option String) (fields : Named Json) :
    (nameOperation name fields).get? other = fields.get? other := by
  cases name with
  | none => rfl
  | some name => exact Named.get?_setIfMissing_ne h _ _

theorem nodup_nameOperation (name : Option String) (h : (fields.map (·.1)).Nodup) :
    ((nameOperation name fields).map (·.1)).Nodup := by
  cases name with
  | none => exact h
  | some name =>
    rw [nameOperation, Named.setIfMissing]
    split
    · exact h
    · exact Named.nodup_set h _ _

/-! ## Both -/

/-- What has another name is found as before. -/
theorem get?_stamp {name : String} (hid : name ≠ "request_id")
    (hoperation : name ≠ "graphql_operation") (c : Context) (fields : Named Json) :
    (c.stamp fields).get? name = fields.get? name := by
  rw [stamp_eq, get?_nameOperation_ne hoperation, get?_identify_ne hid]

/-- A stamp changes nothing in fields that have its identifier, and an operation if it has one. -/
theorem stamp_eq_self (hid : ∀ id, c.requestId.filter (· ≠ "") = some id →
      fields.get? "request_id" = some (.text id))
    (hoperation : ∀ name, c.operation.filter (· ≠ "") = some name →
      (fields.get? "graphql_operation").isSome) : c.stamp fields = fields := by
  have hidentified : identify (c.requestId.filter (· ≠ "")) fields = fields := by
    cases hknown : c.requestId.filter (· ≠ "") with
    | none => rfl
    | some id => exact Named.set_eq_self (hid id hknown)
  rw [stamp_eq, hidentified]
  cases hknown : c.operation.filter (· ≠ "") with
  | none => rfl
  | some name => rw [nameOperation, Named.setIfMissing, if_pos (hoperation name hknown)]

/-- The names of the fields that a stamp may set. -/
def stampNames : List String := ["request_id", "graphql_operation"]

/-- What a stamp makes of fields.

* `others`: all fields but two stay as they are, in their order;
* `requestId`: a known identifier takes the place of any other;
* `operation`: a known operation is added where there is none;
* `distinct`: no name comes twice;
* `settled`: the same stamp changes nothing any more. -/
structure Stamps (c : Context) (fields stamped : Named Json) : Prop where
  others : stamped.filter (fun field => !stampNames.contains field.1) =
    fields.filter fun field => !stampNames.contains field.1
  requestId : stamped.get? "request_id" =
    ((c.requestId.filter (· ≠ "")).map Json.text).or (fields.get? "request_id")
  operation : stamped.get? "graphql_operation" =
    (fields.get? "graphql_operation").or ((c.operation.filter (· ≠ "")).map Json.text)
  distinct : (fields.map (·.1)).Nodup → (stamped.map (·.1)).Nodup
  settled : c.stamp stamped = stamped

theorem stamps (c : Context) (fields : Named Json) : c.Stamps fields (c.stamp fields) := by
  have hid : (c.stamp fields).get? "request_id" =
      ((c.requestId.filter (· ≠ "")).map Json.text).or (fields.get? "request_id") := by
    rw [stamp_eq, get?_nameOperation_ne (by decide), get?_identify]
  have hoperation : (c.stamp fields).get? "graphql_operation" =
      (fields.get? "graphql_operation").or ((c.operation.filter (· ≠ "")).map Json.text) := by
    rw [stamp_eq, get?_nameOperation, get?_identify_ne (by decide)]
  refine ⟨?_, hid, hoperation, fun h => ?_, stamp_eq_self (fun id h => ?_) fun name h => ?_⟩
  · rw [stamp_eq, filter_nameOperation (p := fun name => !stampNames.contains name) (by decide),
      filter_identify (p := fun name => !stampNames.contains name) (by decide)]
  · rw [stamp_eq]
    exact nodup_nameOperation _ (nodup_identify _ h)
  · rw [hid, h]
    rfl
  · rw [hoperation, h]
    simp

end BlogGraph.Log.Context
