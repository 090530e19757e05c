/-!
JSON values. Objects keep their members in the order of the text; integers and floating-point
numbers are told apart by how they are written.
-/

namespace PluginBuild.Json

inductive Value where
  | null
  | bool (b : Bool)
  | int (n : Int)
  | float (bits : UInt64)
  | string (s : String)
  | array (values : List Value)
  | object (members : List (String × Value))

def Value.isNull : Value → Bool
  | .null => true
  | _ => false

/-- Members with one more. A key that is there already keeps its place and gets the new value. -/
def insertMember (key : String) (value : Value) : List (String × Value) → List (String × Value)
  | [] => [(key, value)]
  | (k, v) :: rest => if k = key then (k, value) :: rest else (k, v) :: insertMember key value rest

def Value.get? (key : String) : Value → Option Value
  | .object members => members.lookup key
  | _ => none

end PluginBuild.Json
