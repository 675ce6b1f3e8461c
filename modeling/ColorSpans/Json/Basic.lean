/-! JSON documents. Integers are exact; a number with a fraction or an exponent is a double. An
object keeps its members in order of first appearance. -/
namespace ColorSpans

inductive Json
  | null
  | bool (b : Bool)
  | int (n : Int)
  | float (x : Float)
  | str (s : String)
  | arr (items : List Json)
  | obj (members : List (String × Json))
  deriving Inhabited

namespace Json

abbrev Members := List (String × Json)

/-- A member that is already present keeps its place and takes the new value. -/
def setMember (key : String) (value : Json) : Members → Members
  | [] => [(key, value)]
  | (k, v) :: rest => if k == key then (k, value) :: rest else (k, v) :: setMember key value rest

def ofMembers (members : Members) : Json :=
  .obj (members.foldl (fun out m => setMember m.1 m.2 out) [])

def member? (key : String) (members : Members) : Option Json :=
  members.lookup key

def field? (key : String) : Json → Option Json
  | .obj members => member? key members
  | _ => none

/-- The name of the value's kind in messages. -/
def kind : Json → String
  | .null => "NoneType"
  | .bool _ => "bool"
  | .int _ => "int"
  | .float _ => "float"
  | .str _ => "str"
  | .arr _ => "list"
  | .obj _ => "dict"

/-- Everything counts as true except null, false, zero and what is empty. -/
def isTruthy : Json → Bool
  | .null => false
  | .bool b => b
  | .int n => n != 0
  | .float x => x != 0
  | .str s => s != ""
  | .arr items => !items.isEmpty
  | .obj members => !members.isEmpty

end Json

end ColorSpans
