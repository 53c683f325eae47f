import GatewayPolicy.Ordered.Entries
/-!
# JSON values

Whole numbers that fit into 64 bits, signed or not, are kept apart from all other
numbers. The members of an object are in the order of their names.
-/

namespace GatewayPolicy

/-- A JSON value. -/
inductive Json where
  | null
  | bool (b : Bool)
  | int (i : Int)
  | float (x : Float)
  | string (s : String)
  | array (items : List Json)
  | object (members : List (String × Json))
  deriving Inhabited, Repr

namespace Json

/-- The member of an object. -/
def get? (name : String) : Json → Option Json
  | object ms => Entries.get? name ms
  | _ => none

/-- A list of strings. -/
def strings (ss : List String) : Json := array (ss.map string)

/-- A string, or null. -/
def ofString? : Option String → Json
  | some s => string s
  | none => null

/-- An object with the given members. -/
def ofMembers (ms : List (String × Json)) : Json :=
  object (ms.foldl (fun es m => Entries.put m.1 m.2 es) [])

end Json

end GatewayPolicy
