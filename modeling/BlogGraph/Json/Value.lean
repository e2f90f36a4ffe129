import BlogGraph.Decimal.Binary64
import BlogGraph.Named

/-!
# Data values

The values of a JSON document. Whole numbers have no bound and are kept apart from floating
point numbers. An object is a list of fields in the order in which their names first
appeared; setting a field that is there replaces its value in place.
-/

namespace BlogGraph

/-- A value of a JSON document. -/
inductive Json where
  | null
  | bool (value : Bool)
  | int (value : Int)
  | float (value : Binary64)
  | text (value : String)
  | list (items : List Json)
  | object (fields : List (String × Json))
deriving Inhabited

namespace Json

/-- The name of the kind of a value in a message. -/
def kindName : Json → String
  | .null => "NoneType"
  | .bool _ => "bool"
  | .int _ => "int"
  | .float _ => "float"
  | .text _ => "str"
  | .list _ => "list"
  | .object _ => "dict"

/-- The value of a field, if the value is an object that has it. -/
def get? : Json → String → Option Json
  | .object fields, name => Named.get? fields name
  | _, _ => none

end Json
end BlogGraph
